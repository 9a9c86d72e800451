/-
# Drivers, tables and handles agree

A loader keeps its drivers in three places: the list of loaded drivers, the builder of their tables and
the records of the registry.  `Session.Coherent` says how they agree: the loaded drivers have distinct
names, the builder holds exactly these drivers, and every record belongs to one of them.

Every operation keeps this (`Shift.coherent`), whether it succeeds or fails, so it holds in every state
that a history leads to.  Identities are never given out twice: a driver that has gone does not come
back under any name (`Shift.loaded_of_old`), and no handle leads to it any more.
-/

import DriverLoader.Proofs.Loader.Shift
import Mathlib.Data.List.Nodup

namespace DriverLoader
namespace Session

variable {ω : Type} {s s' : Session ω}

/-- Drivers, tables and handles of a loader agree. -/
structure Coherent (s : Session ω) : Prop where
  /-- No name is loaded twice. -/
  names : s.loader.names.Nodup
  /-- The builder holds the loaded drivers. -/
  builder : s.loader.builder.drivers.Perm s.loader.loaded
  /-- Identities are given out in ascending order. -/
  ids : ∀ driver ∈ s.loader.loaded, driver.id < s.nextDriver
  /-- No record is that of the null handle or of a driver that is not loaded. -/
  records : ∀ h record, (h, record) ∈ s.loader.registry.records →
    h ≠ Handle.null ∧ record.owner ∈ s.loader.loaded

/-- The names of a loader are those of the loaded drivers. -/
theorem names_eq (l : Loader) : l.names = l.loaded.map (·.name) := by
  simp [Loader.names, Loader.loaded]

/-- A loaded driver is found by name in the list of drivers. -/
theorem find?_loaded (l : Loader) (name : String) :
    (l.find? name).map (·.driver) = l.loaded.find? fun driver => driver.name = name := by
  unfold Loader.find? Loader.loaded
  rw [List.find?_map]
  rfl

/-- In a list of distinct names the entry of a name is the only one. -/
theorem find?_eq_some_iff {α : Type} {named : α → String} {entries : List α}
    (hnames : (entries.map named).Nodup) {name : String} {entry : α} :
    entries.find? (fun entry => named entry = name) = some entry ↔
      entry ∈ entries ∧ named entry = name := by
  constructor
  · intro hfind
    exact ⟨List.mem_of_find?_eq_some hfind, by simpa using List.find?_some hfind⟩
  · rintro ⟨hmem, rfl⟩
    cases hfind : entries.find? fun other => named other = named entry with
    | none => simpa using List.find?_eq_none.1 hfind entry hmem
    | some other =>
      have hname : named other = named entry := by simpa using List.find?_some hfind
      rw [List.inj_on_of_nodup_map hnames (List.mem_of_find?_eq_some hfind) hmem hname]

/-- Erasing the entry of a name takes away exactly that entry, if the names are distinct. -/
theorem eraseP_eq_append {α : Type} {named : α → String} {entries : List α}
    (hnames : (entries.map named).Nodup) {entry : α} (hmem : entry ∈ entries) :
    ∃ before after, entries = before ++ entry :: after ∧
      entries.eraseP (fun other => named other = named entry) = before ++ after := by
  obtain ⟨other, before, after, -, hname, hsplit, herased⟩ :=
    List.exists_of_eraseP (p := fun other => named other = named entry) hmem (by simp)
  have hother : other ∈ entries := hsplit ▸ List.mem_append_right before List.mem_cons_self
  obtain rfl := List.inj_on_of_nodup_map hnames hother hmem (of_decide_eq_true hname)
  exact ⟨before, after, hsplit, herased⟩

/-- Erasing the driver of a name is the same as leaving out all drivers of that name. -/
theorem eraseP_eq_filter {drivers : List Driver} (hnames : (drivers.map (·.name)).Nodup)
    (name : String) :
    drivers.eraseP (fun driver => driver.name = name)
      = drivers.filter fun driver => driver.name ≠ name := by
  induction drivers with
  | nil => rfl
  | cons first rest ih =>
    obtain ⟨hfirst, hrest⟩ := List.nodup_cons.1 hnames
    by_cases heq : first.name = name
    · have hothers : ∀ driver ∈ rest, driver.name ≠ name := by
        intro driver hmem hname
        exact hfirst (List.mem_map.2 ⟨driver, hmem, hname.trans heq.symm⟩)
      rw [List.eraseP_cons_of_pos (by simpa using heq), List.filter_cons_of_neg (by simpa using heq),
        List.filter_eq_self.2 (by simpa using hothers)]
    · rw [List.eraseP_cons_of_neg (by simpa using heq), List.filter_cons_of_pos (by simpa using heq),
        ih hrest]

namespace Coherent

/-- No two loaded drivers have the same name. -/
theorem loaded_names (hs : s.Coherent) : (s.loader.loaded.map (·.name)).Nodup :=
  names_eq s.loader ▸ hs.names

/-- A name leads to the same tables in the builder and in the list of drivers. -/
theorem find? (hs : s.Coherent) (name : String) :
    s.loader.builder.find? name = (s.loader.find? name).map (·.driver) := by
  rw [find?_loaded]
  have hheld : (s.loader.builder.drivers.map (·.name)).Nodup :=
    (hs.builder.map _).nodup_iff.2 hs.loaded_names
  refine Option.ext fun driver => ?_
  rw [find?_eq_some_iff hs.loaded_names]
  exact (find?_eq_some_iff hheld).trans (and_congr_left' hs.builder.mem_iff)

/-- A handle that is routed leads to a loaded driver. -/
theorem loaded_of_routes (hs : s.Coherent) {h : Handle} {driver : Driver}
    (hroutes : s.loader.registry.Routes h driver) : driver ∈ s.loader.loaded := by
  obtain ⟨-, record, hfind, -, rfl⟩ := hroutes
  exact (hs.records h record (Registry.mem_records_of_find? hfind)).2

/-- A driver that handles can be bound to is loaded. -/
theorem loaded_of_binds (hs : s.Coherent) {driver : Driver} (hbinds : s.Binds driver) :
    driver ∈ s.loader.loaded :=
  hbinds.elim id fun ⟨_, hroutes⟩ => hs.loaded_of_routes hroutes

/-- What is loaded after a driver was unloaded. -/
theorem loaded_dropDriver (hs : s.Coherent) (registry : Registry) (name : String) :
    (dropDriver { s.loader with registry := registry } name).loaded
      = s.loader.loaded.filter fun driver => driver.name ≠ name := by
  rw [← eraseP_eq_filter hs.loaded_names]
  unfold Loader.loaded
  rw [List.eraseP_map]
  rfl

/-- A registry that evolves brings in no driver that is not loaded. -/
theorem evolves (hs : s.Coherent) {binds : Handle → Driver → Prop} {ends : Handle → Prop}
    (hbinds : ∀ h driver, binds h driver → s.Binds driver)
    (drivers : s'.loader.loaded = s.loader.loaded) (builder : s'.loader.builder = s.loader.builder)
    (next : s'.nextDriver = s.nextDriver)
    (registry : s.loader.registry.Evolves binds ends s'.loader.registry) : s'.Coherent := by
  refine ⟨?_, ?_, ?_, ?_⟩
  · rw [names_eq, drivers]
    exact hs.loaded_names
  · rw [builder, drivers]
    exact hs.builder
  · rw [drivers, next]
    exact hs.ids
  · intro h record hmem
    rw [drivers]
    rcases registry.mem_records hmem with ⟨old, hold, howner⟩ | ⟨hnull, hbound⟩
    · exact howner ▸ hs.records h old hold
    · exact ⟨hnull, hs.loaded_of_binds (hbinds h record.owner hbound)⟩

/-- An operation that leaves drivers, tables and handles alone keeps them in agreement. -/
theorem stays (hs : s.Coherent) (hstays : s.Stays s') : s'.Coherent := by
  have hregistry : s.loader.registry.Evolves (fun _ _ => False) (fun _ => False)
      s'.loader.registry := hstays.registry ▸ .refl
  exact hs.evolves (fun _ _ => False.elim) hstays.loaded hstays.builder hstays.nextDriver hregistry

/-- A driver under a new name joins all the others. -/
theorem load (hs : s.Coherent) {driver : Driver}
    (new : s.loader.builder.find? driver.name = none) (id : driver.id = s.nextDriver)
    (drivers : s'.loader.loaded = s.loader.loaded ++ [driver])
    (builder : s'.loader.builder.drivers = Builder.place driver s.loader.builder.drivers)
    (next : s'.nextDriver = s.nextDriver + 1)
    (registry : s'.loader.registry = s.loader.registry) : s'.Coherent := by
  have hname : driver.name ∉ s.loader.loaded.map (·.name) := by
    intro hmem
    obtain ⟨other, hmem, hname⟩ := List.mem_map.1 hmem
    rw [hs.find?, find?_loaded, (find?_eq_some_iff hs.loaded_names).2 ⟨hmem, hname⟩] at new
    cases new
  refine ⟨?_, ?_, ?_, ?_⟩
  · rw [names_eq, drivers, List.map_append]
    exact List.nodup_append_comm.1 (List.nodup_cons.2 ⟨hname, hs.loaded_names⟩)
  · rw [builder, drivers]
    exact (Builder.place_perm driver _).trans
      ((hs.builder.cons driver).trans (List.perm_append_singleton ..).symm)
  · intro other hmem
    rw [drivers] at hmem
    rw [next]
    rcases List.mem_append.1 hmem with hold | hnew
    · exact Nat.lt_succ_of_lt (hs.ids other hold)
    · rw [List.mem_singleton.1 hnew, id]
      exact Nat.lt_succ_self _
  · intro h record hmem
    rw [registry] at hmem
    rw [drivers]
    exact (hs.records h record hmem).imp_right (List.mem_append_left _)

/-- A driver leaves the list and the builder together with its records, and it was the only one of its
name. -/
theorem unload (hs : s.Coherent) {d : LoadedDriver} {name : String}
    (found : s.loader.find? name = some d)
    (loader : s'.loader
      = dropDriver { s.loader with registry := s.loader.registry.purge d.driver } name)
    (next : s'.nextDriver = s.nextDriver) : s'.Coherent := by
  have hloaded : s'.loader.loaded = s.loader.loaded.filter fun driver => driver.name ≠ name := by
    rw [loader]
    exact hs.loaded_dropDriver _ name
  have hsublist : List.Sublist s'.loader.loaded s.loader.loaded := hloaded ▸ List.filter_sublist
  have hd : d.driver ∈ s.loader.loaded ∧ d.driver.name = name := by
    rw [← find?_eq_some_iff hs.loaded_names, ← find?_loaded, found]
    rfl
  refine ⟨?_, ?_, ?_, ?_⟩
  · rw [names_eq]
    exact (hsublist.map _).nodup hs.loaded_names
  · rw [hloaded, loader]
    exact hs.builder.filter _
  · intro other hmem
    rw [next]
    exact hs.ids other (hsublist.subset hmem)
  · intro h record hmem
    rw [loader] at hmem
    obtain ⟨hmem, howned⟩ := List.mem_filter.1 hmem
    obtain ⟨hnull, howner⟩ := hs.records h record hmem
    refine ⟨hnull, ?_⟩
    rw [hloaded, List.mem_filter, decide_eq_true_iff]
    refine ⟨howner, fun hname => ?_⟩
    have heq : record.owner = d.driver :=
      List.inj_on_of_nodup_map hs.loaded_names howner hd.1 (hname.trans hd.2.symm)
    simp [HandleRecord.ownedBy, heq] at howned

end Coherent

/-- **Every operation keeps drivers, tables and handles in agreement.** -/
theorem Shift.coherent {env : Environment ω} {operation : Operation}
    (hshift : Shift env s operation s') (hs : s.Coherent) : s'.Coherent := by
  cases hshift with
  | kept drivers builder next registry =>
    exact hs.evolves (fun _ _ => binds_of_adopts) drivers builder next registry
  | loaded driver module cause new id drivers builder next registry =>
    exact hs.load new id drivers builder next registry
  | unloaded d name cause found loader next => exact hs.unload found loader next
  | emptied cause drivers builder next registry =>
    refine ⟨?_, ?_, ?_, ?_⟩
    · rw [names_eq, drivers]
      exact List.nodup_nil
    · rw [builder, drivers]
      exact .refl _
    · rw [drivers]
      nofun
    · rw [registry]
      nofun

/-- In a loader that was just made there is nothing to disagree about. -/
theorem empty_coherent (config : Config) (shared : Shared ω) : (empty config shared).Coherent := by
  refine empty_induction config shared ⟨List.nodup_nil, .refl _, nofun, nofun⟩ ?_ ?_ ?_ ?_
  · exact fun s level message hs => ⟨hs.names, hs.builder, hs.ids, hs.records⟩
  · exact fun s id hs => hs.stays (pushLayer_stays id s)
  · exact fun s hs => ⟨hs.names, hs.builder, hs.ids, hs.records⟩
  · exact fun s id hs => ⟨hs.names, hs.builder, hs.ids, hs.records⟩

/-- A history keeps drivers, tables and handles in agreement. -/
theorem Coherent.after (hs : s.Coherent) (env : Environment ω) (history : History) :
    (s.after env history).Coherent :=
  after_induction hs history fun _ operation _ _ hbefore =>
    (step_effect env _ operation).shift.coherent hbefore

/-- Identities are never taken back. -/
theorem Shift.nextDriver_le {env : Environment ω} {operation : Operation}
    (hshift : Shift env s operation s') : s.nextDriver ≤ s'.nextDriver := by
  cases hshift with
  | loaded driver module cause new id drivers builder next registry =>
    exact next ▸ Nat.le_succ _
  | kept drivers builder next registry => exact next ▸ Nat.le_refl _
  | unloaded d name cause found loader next => exact next ▸ Nat.le_refl _
  | emptied cause drivers builder next registry => exact next ▸ Nat.le_refl _

/-- An operation loads no driver with an identity that was given out before. -/
theorem Shift.loaded_of_old {env : Environment ω} {operation : Operation}
    (hshift : Shift env s operation s') (hs : s.Coherent) {driver : Driver}
    (hold : driver.id < s.nextDriver) (hmem : driver ∈ s'.loader.loaded) :
    driver ∈ s.loader.loaded := by
  cases hshift with
  | kept drivers builder next registry => exact drivers ▸ hmem
  | loaded new module cause hnew hid drivers builder next registry =>
    rw [drivers] at hmem
    rcases List.mem_append.1 hmem with hmem | hmem
    · exact hmem
    · rw [List.mem_singleton.1 hmem, hid] at hold
      exact absurd hold (Nat.lt_irrefl _)
  | unloaded d name cause found loader next =>
    rw [loader, hs.loaded_dropDriver] at hmem
    exact (List.mem_filter.1 hmem).1
  | emptied cause drivers builder next registry =>
    rw [drivers] at hmem
    cases hmem

/-- A driver that has gone does not come back. -/
theorem Coherent.gone (hs : s.Coherent) (env : Environment ω) {driver : Driver}
    (hold : driver.id < s.nextDriver) (hgone : driver ∉ s.loader.loaded) (history : History) :
    driver ∉ (s.after env history).loader.loaded := by
  refine (after_induction (P := fun s =>
    s.Coherent ∧ driver.id < s.nextDriver ∧ driver ∉ s.loader.loaded) ⟨hs, hold, hgone⟩ history ?_).2.2
  rintro before operation after - ⟨hs, hold, hgone⟩
  have hshift := (step_effect env (s.after env before) operation).shift
  exact ⟨hshift.coherent hs, Nat.lt_of_lt_of_le hold hshift.nextDriver_le,
    fun hmem => hgone (hshift.loaded_of_old hs hold hmem)⟩

/-- Identities are given out in ascending order. -/
theorem nextDriver_le_after (env : Environment ω) (s : Session ω) (history : History) :
    s.nextDriver ≤ (s.after env history).nextDriver :=
  after_induction (P := fun s' => s.nextDriver ≤ s'.nextDriver) (Nat.le_refl _) history
    fun _ operation _ _ hbefore =>
      Nat.le_trans hbefore (step_effect env _ operation).shift.nextDriver_le

/-- **Drivers, tables and handles agree whatever happens to a loader.**  The loaded drivers have
distinct names, the builder holds exactly these drivers and leads from a name to the same tables, and
every record, live or destroyed, is that of a handle that is not null and belongs to a loaded driver.
A driver that was loaded and has gone never comes back, and no handle leads to it any more. -/
theorem after_agrees (env : Environment ω) (config : Config) (shared : Shared ω)
    (history : History) :
    let s := (empty config shared).after env history
    (s.loader.names.Nodup ∧ s.loader.builder.drivers.Perm s.loader.loaded ∧
        ∀ name, s.loader.builder.find? name = (s.loader.find? name).map (·.driver)) ∧
      (∀ h record, (h, record) ∈ s.loader.registry.records →
        h ≠ Handle.null ∧ record.owner ∈ s.loader.loaded) ∧
      ∀ earlier later driver, history = earlier ++ later →
        driver ∈ ((empty config shared).after env earlier).loader.loaded →
        driver ∉ s.loader.loaded →
        ∀ further, driver ∉ (s.after env further).loader.loaded ∧
          ∀ h, ¬(s.after env further).loader.registry.Routes h driver := by
  intro s
  have hs : s.Coherent := (empty_coherent config shared).after env history
  refine ⟨⟨hs.names, hs.builder, hs.find?⟩, hs.records, ?_⟩
  intro earlier later driver hhistory hloaded hgone further
  have hold : driver.id < s.nextDriver := by
    have hid := ((empty_coherent config shared).after env earlier).ids driver hloaded
    have hle := nextDriver_le_after env ((empty config shared).after env earlier) later
    rw [← after_append, ← hhistory] at hle
    exact Nat.lt_of_lt_of_le hid hle
  have hnever := hs.gone env hold hgone further
  exact ⟨hnever, fun h hroutes => hnever ((hs.after env further).loaded_of_routes hroutes)⟩

namespace Sample

/-- A driver is loaded. -/
def load : History :=
  [.addDriver "sample" (.library "sample")]

/-- The driver is loaded, unloaded and loaded again under its name. -/
def reload : History :=
  load ++ (.unload "sample" :: load)

/-- A loader with nothing around it. -/
def start : Session Unit :=
  empty Config.default (Shared.start .info ())

end Sample

/-- After a driver was loaded again under its name, nothing leads to the first one. -/
theorem after_agrees_reload :
    ∃ driver,
      driver ∈ (Sample.start.after Dispatch.Sample.environment Sample.load).loader.loaded ∧
        ∀ further, ∀ h, ¬((Sample.start.after Dispatch.Sample.environment Sample.reload).after
          Dispatch.Sample.environment further).loader.registry.Routes h driver := by
  have hloaded : (Sample.start.after Dispatch.Sample.environment Sample.load).loader.loaded.map
      (·.id) = [0] := by decide +kernel
  have hreloaded : (Sample.start.after Dispatch.Sample.environment Sample.reload).loader.loaded.map
      (·.id) = [1] := by decide +kernel
  obtain ⟨driver, hmem, hid⟩ := List.mem_map.1 (hloaded ▸ List.mem_singleton_self 0)
  have hgone : driver ∉
      (Sample.start.after Dispatch.Sample.environment Sample.reload).loader.loaded := by
    intro hstill
    have hids := hreloaded ▸ List.mem_map_of_mem hstill
    rw [hid] at hids
    exact absurd (List.mem_singleton.1 hids) Nat.zero_ne_one
  refine ⟨driver, hmem, fun further => ?_⟩
  exact ((after_agrees Dispatch.Sample.environment Config.default (Shared.start .info ())
    Sample.reload).2.2 Sample.load _ driver rfl hmem hgone further).2

end Session
end DriverLoader
