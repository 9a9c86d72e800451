/-
# What a build puts together

A negotiation reads nothing but the exports of the module (`Negotiation.negotiate_congr`), so it can
be spoken of apart from when it takes place.  `Builder.assemble` says what a build under a new name
makes of the outcomes of the three categories, and `Builder.build_eq` that this is what it does.
-/

import DriverLoader.Proofs.Builder.Build
import DriverLoader.Proofs.Negotiation.Outcome

namespace DriverLoader

variable {ω : Type}

namespace Negotiation

/-- A table that was negotiated is valid. -/
theorem Comes.valid {exports : Exports} {category : Category} {table : Table}
    (hcomes : Comes exports category (.ok table)) : table.valid = true := by
  cases hcomes
  rfl

/-- **A negotiation reads nothing but the exports of the module.** -/
theorem negotiate_congr (exports : Exports) (module : DriverModule) (category : Category)
    (a a' : Ambient ω) :
    (negotiate exports module category a).1 = (negotiate exports module category a').1 :=
  (negotiate_comes exports module category a).unique exports
    (negotiate_comes exports module category a')

end Negotiation

namespace Builder

/-- The table that a driver keeps of a negotiation, invalid if that failed. -/
def kept : Except BuildFailure Table → Table
  | .ok table => table
  | .error _ => Table.invalid

/-- Why a negotiation failed, if it did. -/
def refusal? : Except BuildFailure Table → Option BuildFailure
  | .ok _ => none
  | .error failure => some failure

/-- A category is refused exactly if its negotiation fails. -/
theorem refusal?_eq_some_iff {outcome : Except BuildFailure Table} {failure : BuildFailure} :
    refusal? outcome = some failure ↔ outcome = .error failure := by
  cases outcome <;> simp [refusal?]

/-- What a build under a name that is not held comes to, by what the negotiations of the categories
came to: the failure of system management if all of them failed, and otherwise a driver. -/
def assemble (outcome : Category → Except BuildFailure Table) (name : String)
    (module : DriverModule) (id : Nat) (b : Builder) : Except BuildFailure Driver :=
  match refusal? (outcome .compute), refusal? (outcome .tools), refusal? (outcome .sysman) with
  | some _, some _, some failure => .error failure
  | _, _, _ =>
    .ok ⟨id, name, b.size, module, kept (outcome .compute), kept (outcome .tools),
      kept (outcome .sysman)⟩

variable {outcome : Category → Except BuildFailure Table} {name : String} {module : DriverModule}
  {id : Nat} {b : Builder}

/-- Some negotiation came to a table exactly if not all of them failed. -/
theorem exists_ok_iff :
    (∃ category table, outcome category = .ok table) ↔
      ¬∀ category, ∃ refusal, outcome category = .error refusal := by
  have hone : ∀ category, (∃ table, outcome category = .ok table) ↔
      ¬∃ refusal, outcome category = .error refusal := by
    intro category
    cases outcome category <;> simp
  simp only [hone, not_forall]

/-- Nothing is put together exactly if all negotiations failed, and the failure is the last one. -/
theorem assemble_eq_error_iff {failure : BuildFailure} :
    assemble outcome name module id b = .error failure ↔
      (∀ category, ∃ refusal, outcome category = .error refusal) ∧
        outcome .sysman = .error failure := by
  constructor
  · intro herror
    unfold assemble at herror
    split at herror
    · rename_i first second third hcompute htools hsysman
      cases herror
      rw [refusal?_eq_some_iff] at hcompute htools hsysman
      refine ⟨fun category => ?_, hsysman⟩
      cases category with
      | compute => exact ⟨first, hcompute⟩
      | tools => exact ⟨second, htools⟩
      | sysman => exact ⟨failure, hsysman⟩
    · cases herror
  · rintro ⟨hall, hsysman⟩
    obtain ⟨first, hcompute⟩ := hall .compute
    obtain ⟨second, htools⟩ := hall .tools
    unfold assemble
    rw [hcompute, htools, hsysman]
    rfl

/-- Something is put together only if some negotiation came to a table. -/
theorem accepted_of_assemble {driver : Driver}
    (hassemble : assemble outcome name module id b = .ok driver) :
    ∃ category table, outcome category = .ok table := by
  refine exists_ok_iff.2 fun hall => ?_
  obtain ⟨failure, hsysman⟩ := hall .sysman
  rw [assemble_eq_error_iff.2 ⟨hall, hsysman⟩] at hassemble
  cases hassemble

/-- A driver that is put together keeps of each category what the negotiation came to. -/
theorem table_of_assemble {driver : Driver}
    (hassemble : assemble outcome name module id b = .ok driver) :
    driver.name = name ∧ driver.module = module ∧
      ∀ category, driver.table category = kept (outcome category) := by
  unfold assemble at hassemble
  split at hassemble
  · cases hassemble
  · cases hassemble
    refine ⟨rfl, rfl, fun category => ?_⟩
    cases category with
    | compute => rfl
    | tools => rfl
    | sysman => rfl

/-- What is kept of a negotiation is the table, and routable, exactly if there is one; a table that is
not routable has no sub-tables. -/
theorem kept_spec (exports : Exports) (module : DriverModule) (category : Category) (a : Ambient ω) :
    let outcome := (Negotiation.negotiate exports module category a).1
    ((kept outcome).valid = true ↔ ∃ table, outcome = .ok table) ∧
      (∀ table, outcome = .ok table → kept outcome = table) ∧
      ((kept outcome).valid = false → (kept outcome).groups = []) := by
  have hcomes := Negotiation.negotiate_comes exports module category a
  generalize (Negotiation.negotiate exports module category a).1 = outcome at hcomes
  cases outcome with
  | ok table =>
    have hvalid : table.valid = true := hcomes.valid
    refine ⟨⟨fun _ => ⟨table, rfl⟩, fun _ => hvalid⟩, ?_, fun hinvalid => ?_⟩
    · rintro _ ⟨⟩
      rfl
    · exact absurd hvalid (Bool.eq_false_iff.1 hinvalid)
  | error failure => exact ⟨⟨nofun, nofun⟩, nofun, fun _ => rfl⟩

/-- An attempt keeps what the negotiation came to, wherever that took place. -/
theorem attempt_eq (exports : Exports) (name : String) (module : DriverModule)
    (category : Category) (a a' : Ambient ω) :
    ∃ a₁, attempt exports name module category a =
      (kept (Negotiation.negotiate exports module category a').1,
        refusal? (Negotiation.negotiate exports module category a').1, a₁) := by
  rw [← Negotiation.negotiate_congr exports module category a a']
  unfold attempt
  rcases Negotiation.negotiate exports module category a with ⟨outcome, a₁⟩
  cases outcome with
  | ok table => exact ⟨a₁, rfl⟩
  | error failure => exact ⟨_, rfl⟩

/-- **A build puts together what the negotiations came to.** -/
theorem build_eq (exports : Exports) {name : String} (module : DriverModule) (id : Nat)
    {b : Builder} (hnew : b.find? name = none) (a a' : Ambient ω) :
    ∃ a₁, a.Idles a₁ ∧ b.build exports name module id a =
      match assemble (fun category => (Negotiation.negotiate exports module category a').1) name
        module id b with
      | .ok driver => (.ok driver, ⟨place driver b.drivers⟩, a₁)
      | .error failure => (.error failure, b, a₁) := by
  have hidles : a.Idles (b.build exports name module id a).2.2 := by
    have hbuilt := build_new exports module id hnew a
    generalize b.build exports name module id a = built at hbuilt
    cases hbuilt with
    | held _ _ idles => exact idles
    | refused idles => exact idles
  obtain ⟨a₁, hcompute⟩ := attempt_eq exports name module .compute a a'
  obtain ⟨a₂, htools⟩ := attempt_eq exports name module .tools a₁ a'
  obtain ⟨a₃, hsysman⟩ := attempt_eq exports name module .sysman a₂ a'
  refine ⟨_, hidles, ?_⟩
  unfold build assemble
  rw [hnew]
  dsimp only
  rw [hcompute]
  dsimp only
  rw [htools]
  dsimp only
  rw [hsysman]
  dsimp only
  cases refusal? (Negotiation.negotiate exports module .compute a').1 with
  | none => rfl
  | some first =>
    cases refusal? (Negotiation.negotiate exports module .tools a').1 with
    | none => rfl
    | some second =>
      cases refusal? (Negotiation.negotiate exports module .sysman a').1 with
      | none => rfl
      | some third => rfl

end Builder

end DriverLoader
