/-
# Adding drivers

Adding a driver fails in two ways.  Its name may be loaded already, which the loader sees from its
builder (`Session.Coherent.find?`); or no category of the module can be negotiated
(`Builder.assemble_eq_error_iff`).  Otherwise the new driver comes last, with what the negotiations
came to for its tables (`Builder.table_of_assemble`, `Builder.kept_spec`).

A failure leaves nothing behind but look-ups and messages, so the loader goes on like one in which
nothing was attempted (`Session.Alike.after`), and adding the name again is like a first attempt.
-/

import DriverLoader.Proofs.Loader.Coherence
import DriverLoader.Proofs.Loader.Likeness

namespace DriverLoader
namespace Session

variable {ω : Type} {s : Session ω}

/-- The builder holds a driver of a name exactly if the name is loaded. -/
theorem Coherent.find?_eq_none_iff (hs : s.Coherent) {name : String} :
    s.loader.builder.find? name = none ↔ name ∉ s.loader.names := by
  rw [hs.find?, Option.map_eq_none_iff, Loader.find?, List.find?_eq_none, Loader.names]
  simp

/-- What adding a driver can come to, by what the negotiations of the categories come to. -/
inductive Adds (outcome : Category → Except BuildFailure Table) (name : String)
    (module : DriverModule) (s : Session ω) : Except Failure Driver × Session ω → Prop where
  | duplicate (held : name ∈ s.loader.names) :
      Adds outcome name module s (.error .duplicateDriver, s)
  /-- No category is negotiated, and nothing happens but look-ups and messages. -/
  | refused {refusal : BuildFailure} {a : Ambient ω} (new : name ∉ s.loader.names)
      (all : ∀ category, ∃ failure, outcome category = .error failure)
      (last : outcome .sysman = .error refusal) (idles : s.toAmbient.Idles a) :
      Adds outcome name module s (.error (.build refusal), { s with toAmbient := a })
  /-- The driver comes last, and keeps what the negotiations came to. -/
  | loaded {driver : Driver} {a : Ambient ω} (new : name ∉ s.loader.names)
      (accepted : ∃ category table, outcome category = .ok table) (named : driver.name = name)
      (made : driver.module = module)
      (tables : ∀ category, driver.table category = Builder.kept (outcome category)) :
      Adds outcome name module s
        (.ok driver, { s with
          toAmbient := a
          nextDriver := s.nextDriver + 1
          loader := { s.loader with
            builder := ⟨Builder.place driver s.loader.builder.drivers⟩
            drivers := s.loader.drivers ++ [.fresh driver] } })

/-- Adding a driver comes to one of these. -/
theorem addDriver_adds (hs : s.Coherent) (env : Environment ω) (name : String)
    (module : DriverModule) :
    Adds (fun category =>
        (Negotiation.negotiate (env.exportsOf module) module category s.toAmbient).1)
      name module s (s.addDriver env name module) := by
  by_cases hheld : name ∈ s.loader.names
  · have hcontains : s.loader.builder.contains name = true := by
      rw [Builder.contains, Option.isSome_iff_ne_none, Ne, hs.find?_eq_none_iff]
      exact not_not_intro hheld
    unfold addDriver
    rw [if_pos hcontains]
    exact .duplicate hheld
  · obtain ⟨a, hidles, hadd⟩ :=
      s.addDriver_new env module (hs.find?_eq_none_iff.2 hheld) s.toAmbient
    rw [hadd]
    cases hassemble : Builder.assemble (fun category =>
        (Negotiation.negotiate (env.exportsOf module) module category s.toAmbient).1) name module
        s.nextDriver s.loader.builder with
    | error refusal =>
      obtain ⟨hall, hlast⟩ := Builder.assemble_eq_error_iff.1 hassemble
      exact .refused hheld hall hlast hidles
    | ok driver =>
      obtain ⟨hname, hmodule, htables⟩ := Builder.table_of_assemble hassemble
      exact .loaded hheld (Builder.accepted_of_assemble hassemble) hname hmodule htables

/-- **A driver is added under a new name, unless no category of its module can be negotiated.**  In
every state of a loader, for every name and every module, whatever it exports:

* The driver is a duplicate exactly if its name is loaded.
* The build fails exactly if the name is new and the negotiation fails in every category; the failure
  is that of system management.
* There is no other failure.  After one, the drivers with their statuses, the builder, the registry
  and the layers in the stack are what they were, and whatever happens later, adding a driver of this
  name gives the same answer and leads to a session like the one there would be without the failure.
* Otherwise the driver is appended to the drivers that are loaded, with the status "success" in every
  category, and nothing happens to the drivers before it.  Its table of a category is valid exactly if
  the negotiation of that category came to a table, and is then this table; a table that is not valid
  has no sub-tables. -/
theorem after_addDriver (env : Environment ω) (config : Config) (shared : Shared ω)
    (history : History) (name : String) (module : DriverModule) :
    let s := (empty config shared).after env history
    let outcome := fun category =>
      (Negotiation.negotiate (env.exportsOf module) module category s.toAmbient).1
    let added := s.addDriver env name module
    (added.1 = .error .duplicateDriver ↔ name ∈ s.loader.names) ∧
      (∀ failure, added.1 = .error (.build failure) ↔
        name ∉ s.loader.names ∧ (∀ category, ∃ refusal, outcome category = .error refusal) ∧
          outcome .sysman = .error failure) ∧
      (∀ failure, added.1 = .error failure →
        (failure = .duplicateDriver ∨ ∃ refusal, failure = .build refusal) ∧
          added.2.loader = s.loader ∧
          ∀ later other,
            ((added.2.after env later).addDriver env name other).1
                = ((s.after env later).addDriver env name other).1 ∧
              ((added.2.after env later).addDriver env name other).2.Alike
                ((s.after env later).addDriver env name other).2) ∧
      ((∃ driver, added.1 = .ok driver) ↔
        name ∉ s.loader.names ∧ ∃ category table, outcome category = .ok table) ∧
      ∀ driver, added.1 = .ok driver →
        driver.name = name ∧ driver.module = module ∧
          added.2.loader = { s.loader with
            builder := ⟨Builder.place driver s.loader.builder.drivers⟩
            drivers := s.loader.drivers ++ [⟨driver, .success, .success⟩] } ∧
          ∀ category, ((driver.table category).valid = true ↔ ∃ table, outcome category = .ok table) ∧
            (∀ table, outcome category = .ok table → driver.table category = table) ∧
            ((driver.table category).valid = false → (driver.table category).groups = []) := by
  intro s outcome added
  have hs : s.Coherent := (empty_coherent config shared).after env history
  have hadds : Adds outcome name module s added := addDriver_adds hs env name module
  have hretried : added.2.Alike s → ∀ later other,
      ((added.2.after env later).addDriver env name other).1
          = ((s.after env later).addDriver env name other).1 ∧
        ((added.2.after env later).addDriver env name other).2.Alike
          ((s.after env later).addDriver env name other).2 :=
    fun halike later other => (halike.after env later).addDriver env name other
  generalize added = added at hadds hretried ⊢
  cases hadds with
  | duplicate held =>
    refine ⟨⟨fun _ => held, fun _ => rfl⟩, fun failure => ⟨nofun, fun h => absurd held h.1⟩, ?_,
      ⟨nofun, fun h => absurd held h.1⟩, nofun⟩
    rintro failure ⟨⟩
    exact ⟨Or.inl rfl, rfl, hretried (.refl s)⟩
  | @refused refusal a new all last idles =>
    refine ⟨⟨nofun, fun h => absurd h new⟩, fun failure => ⟨?_, ?_⟩, ?_, ⟨nofun, ?_⟩, nofun⟩
    · rintro ⟨⟩
      exact ⟨new, all, last⟩
    · rintro ⟨-, -, hlast⟩
      rw [Except.error.inj (last.symm.trans hlast)]
    · rintro failure ⟨⟩
      exact ⟨Or.inr ⟨refusal, rfl⟩, rfl, hretried ((Alike.refl s).idle idles .refl)⟩
    · exact fun h => absurd all (Builder.exists_ok_iff.1 h.2)
  | @loaded driver a new accepted named made tables =>
    refine ⟨⟨nofun, fun h => absurd h new⟩, fun failure => ⟨nofun, ?_⟩, nofun,
      ⟨fun _ => ⟨new, accepted⟩, fun _ => ⟨driver, rfl⟩⟩, ?_⟩
    · exact fun h => absurd h.2.1 (Builder.exists_ok_iff.1 accepted)
    · rintro driver ⟨⟩
      refine ⟨named, made, rfl, fun category => ?_⟩
      rw [tables]
      exact Builder.kept_spec (env.exportsOf module) module category s.toAmbient

namespace Sample

/-- The sample environment, in which one library exports nothing. -/
def bare : Environment Unit :=
  { Dispatch.Sample.environment with
    exports := fun module =>
      if module = .library "bare" then fun _ => none else Dispatch.Sample.environment.exports module }

/-- Nothing can be built from the library. -/
def refused : Except Failure Driver × Session Unit :=
  start.addDriver bare "sample" (.library "bare")

end Sample

/-- Nothing can be built from a library without exports, and the loader stays as it was; the same name
is added from another library afterwards, whose module has no tables for tools. -/
theorem after_addDriver_bare :
    Sample.refused.1 = .error (.build (.missingGroup .sysman "Device")) ∧
      Sample.refused.2.loader = Sample.start.loader ∧
      ∃ driver, (Sample.refused.2.addDriver Sample.bare "sample" (.library "sample")).1 = .ok driver ∧
        driver.tools.valid = false ∧ driver.tools.groups = [] := by
  have hmissing : ∀ module category,
      Negotiation.device? (Sample.bare.exportsOf module) category = none →
      (Negotiation.negotiate (Sample.bare.exportsOf module) module category
        Sample.start.toAmbient).1 = .error (.missingGroup category "Device") :=
    fun module category habsent =>
      (Negotiation.negotiate_comes _ module category _).unique _ (.missing habsent)
  obtain ⟨-, hbuild, hfailed, -⟩ := after_addDriver Sample.bare Config.default
    (Shared.start .info ()) [] "sample" (.library "bare")
  obtain ⟨-, -, -, haccepted, hadded⟩ := after_addDriver Sample.bare Config.default
    (Shared.start .info ()) [] "sample" (.library "sample")
  have hrefused : Sample.refused.1 = .error (.build (.missingGroup .sysman "Device")) :=
    (hbuild _).2 ⟨by decide, fun category => ⟨_, hmissing _ category rfl⟩, hmissing _ .sysman rfl⟩
  obtain ⟨-, hloader, hretried⟩ := hfailed _ hrefused
  have hcompute : ∃ table, (Negotiation.negotiate (Sample.bare.exportsOf (.library "sample"))
      (.library "sample") .compute Sample.start.toAmbient).1 = .ok table :=
    ⟨_, (Negotiation.negotiate_comes _ _ .compute _).unique _ (.accepted rfl
      ⟨List.mem_of_getLast? rfl, by decide, by decide⟩ rfl)⟩
  obtain ⟨driver, hdriver⟩ := haccepted.2 ⟨by decide, .compute, hcompute⟩
  obtain ⟨-, -, -, htables⟩ := hadded driver hdriver
  obtain ⟨hvalid, -, hgroups⟩ := htables .tools
  have hinvalid : driver.tools.valid = false := by
    refine Bool.eq_false_iff.2 fun htools => ?_
    obtain ⟨table, htable⟩ := hvalid.1 htools
    have hnone := hmissing (.library "sample") .tools rfl
    exact absurd (htable.symm.trans hnone) nofun
  exact ⟨hrefused, hloader, driver, (hretried [] (.library "sample")).1.trans hdriver, hinvalid,
    hgroups hinvalid⟩

end Session
end DriverLoader
