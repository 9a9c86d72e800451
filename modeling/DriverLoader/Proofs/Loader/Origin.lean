/-
# Where the tables of a driver come from

A loader never writes a driver's tables itself.  Every table of a loaded driver is what a negotiation
with the driver's module came to (`Driver.Negotiated`): the sub-tables that the module's getters wrote at
one version, or an invalid table where the negotiation failed.

A build gives such a driver (`Builder.build_negotiated`), no operation alters one, and so it holds of
every driver of a loader whatever was done to it (`Loader.Made.negotiated`), and of every loader that is
discovered (`discover_negotiated`).  `Negotiated.group?_eq` reads the sub-table of one group off it.
-/

import DriverLoader.Proofs.Builder.Assembly
import DriverLoader.Proofs.Loader.Shift

namespace DriverLoader

variable {ω : Type} {env : Environment ω}

/-- Each table of a driver is what a negotiation with its module came to. -/
def Driver.Negotiated (env : Environment ω) (driver : Driver) : Prop :=
  ∀ category,
    (∃ failure, Negotiation.Comes (env.exportsOf driver.module) category (.error failure) ∧
        driver.table category = Table.invalid) ∨
      Negotiation.Comes (env.exportsOf driver.module) category (.ok (driver.table category))

/-- Each driver of a loader came of negotiations with its module. -/
def Loader.Negotiated (env : Environment ω) (l : Loader) : Prop :=
  ∀ driver ∈ l.loaded, driver.Negotiated env

/-- A loader that was made without drivers, and what was done to it since. -/
def Loader.Made (env : Environment ω) (l : Loader) : Prop :=
  ∃ config shared history, l = ((Session.empty config shared).after env history).loader

/-! ### One driver -/

namespace Driver

/-- A table that a negotiation failed to give holds nothing. -/
theorem Negotiated.group?_of_invalid {driver : Driver} (hdriver : driver.Negotiated env)
    {category : Category} (hinvalid : (driver.table category).valid = false) (name : String) :
    (driver.table category).group? name = none := by
  rcases hdriver category with ⟨failure, -, htable⟩ | hcomes
  · rw [htable]
    rfl
  · generalize driver.table category = table at hcomes hinvalid
    cases hcomes
    cases hinvalid

/-- The sub-table of a group in a valid table is what the getter of the group wrote at the version of
the table, if the module has it and it succeeds. -/
theorem Negotiated.group?_eq {driver : Driver} (hdriver : driver.Negotiated env)
    {category : Category} (hvalid : (driver.table category).valid = true) {group : FeatureGroup}
    (hgroup : group ∈ Api.groups category) :
    (driver.table category).group? group.name
      = Negotiation.granted? (env.exportsOf driver.module) (driver.table category).version group := by
  rcases hdriver category with ⟨failure, -, htable⟩ | hcomes
  · rw [htable] at hvalid
    cases hvalid
  · generalize driver.table category = table at hcomes
    cases hcomes with
    | accepted device settles succeeded =>
      exact Negotiation.lookup_granted _ _ (Negotiation.nodup_names category) hgroup

end Driver

namespace Builder

/-- The table that is kept of a negotiation is what it came to, invalid if it failed. -/
theorem kept_comes {exports : Exports} {category : Category} {outcome : Except BuildFailure Table}
    (hcomes : Negotiation.Comes exports category outcome) :
    (∃ failure, Negotiation.Comes exports category (.error failure) ∧ kept outcome = Table.invalid) ∨
      Negotiation.Comes exports category (.ok (kept outcome)) := by
  cases outcome with
  | ok table => exact Or.inr hcomes
  | error failure => exact Or.inl ⟨failure, hcomes, rfl⟩

/-- A driver that is built came of negotiations with the module that it is built from. -/
theorem build_negotiated {name : String} {module : DriverModule} {id : Nat} {b b' : Builder}
    {a a' : Ambient ω} {driver : Driver} (hnew : b.find? name = none)
    (hbuild : b.build (env.exportsOf module) name module id a = (.ok driver, b', a')) :
    driver.Negotiated env := by
  obtain ⟨a₁, -, heq⟩ := build_eq (env.exportsOf module) module id hnew a a
  rw [heq] at hbuild
  cases hassemble : assemble (fun category =>
      (Negotiation.negotiate (env.exportsOf module) module category a).1) name module id b with
  | error failure =>
    rw [hassemble] at hbuild
    cases hbuild
  | ok built =>
    rw [hassemble] at hbuild
    cases hbuild
    obtain ⟨-, rfl, htables⟩ := table_of_assemble hassemble
    intro category
    rw [htables]
    exact kept_comes (Negotiation.negotiate_comes _ driver.module category a)

end Builder

/-! ### One loader -/

namespace Session

variable {s : Session ω}

/-- The drivers of a loader that adds one are its old ones and one that came of negotiations. -/
theorem addDriver_negotiated (hs : s.loader.Negotiated env) (name : String) (module : DriverModule) :
    (s.addDriver env name module).2.loader.Negotiated env := by
  unfold addDriver
  split
  · exact hs
  · rename_i hcontains
    have hnew : s.loader.builder.find? name = none := by
      simpa [Builder.contains] using hcontains
    split
    · exact hs
    · rename_i driver builder a hbuild
      intro other hmem
      obtain ⟨d, hd, rfl⟩ := List.mem_map.1 hmem
      rcases List.mem_append.1 hd with hold | hadded
      · exact hs d.driver (List.mem_map_of_mem hold)
      · rw [List.mem_singleton.1 hadded]
        exact Builder.build_negotiated hnew hbuild

/-- Only adding a driver brings one in. -/
theorem Shift.loaded_subset {s' : Session ω} {operation : Operation}
    (hshift : Shift env s operation s') (hadd : ∀ name module, operation ≠ .addDriver name module) :
    s'.loader.loaded ⊆ s.loader.loaded := by
  cases hshift with
  | kept drivers => exact drivers ▸ List.Subset.refl _
  | loaded driver module cause => exact absurd cause (hadd driver.name module)
  | unloaded d name cause found loader next =>
    rw [loader]
    exact List.map_subset _ List.eraseP_subset
  | emptied cause drivers => exact drivers ▸ List.nil_subset _

/-- Whatever is done to a loader, its drivers came of negotiations. -/
theorem step_negotiated (hs : s.loader.Negotiated env) (operation : Operation) :
    (s.step env operation).loader.Negotiated env := by
  by_cases hadd : ∃ name module, operation = .addDriver name module
  · obtain ⟨name, module, rfl⟩ := hadd
    exact addDriver_negotiated hs name module
  · have hsubset := (step_effect env s operation).shift.loaded_subset
      fun name module heq => hadd ⟨name, module, heq⟩
    exact fun driver hmem => hs driver (hsubset hmem)

/-- A loader starts without drivers. -/
theorem empty_drivers (config : Config) (shared : Shared ω) :
    (empty config shared).loader.drivers = [] := by
  refine empty_induction (P := fun s => s.loader.drivers = []) config shared rfl
    (fun _ _ _ hs => hs) ?_ (fun _ hs => hs) fun _ _ hs => hs
  intro s id hs
  unfold pushLayer
  split <;> exact hs

/-- A loader that was just made has no driver that could have come of anything else. -/
theorem empty_negotiated (config : Config) (shared : Shared ω) :
    (empty config shared).loader.Negotiated env := by
  intro driver hmem
  unfold Loader.loaded at hmem
  rw [empty_drivers] at hmem
  cases hmem

end Session

/-- **The drivers of a loader came of negotiations, whatever was done to it.** -/
theorem Loader.Made.negotiated {l : Loader} (hmade : l.Made env) : l.Negotiated env := by
  obtain ⟨config, shared, history, rfl⟩ := hmade
  exact Session.after_induction (P := fun s => s.loader.Negotiated env)
    (Session.empty_negotiated config shared) history
    fun _ operation _ _ hbefore => Session.step_negotiated hbefore operation

/-! ### A loader that is discovered -/

namespace Session

variable {s : Session ω}

/-- A library that is added brings a driver that came of negotiations with it, or none. -/
theorem addLibrary_negotiated (hs : s.loader.Negotiated env) (name : String) :
    (s.addLibrary env name).loader.Negotiated env := by
  cases addLibrary_opening env name s with
  | shut shut idles => exact idles.loader ▸ hs
  | opened opens opened added logged kept =>
    have hadded := addDriver_negotiated (opened.loader ▸ hs) name (.library name)
    rw [added] at hadded
    exact logged.loader ▸ hadded

/-- Drivers that are added one after another came of negotiations with their modules. -/
theorem addDrivers_negotiated (hs : s.loader.Negotiated env)
    (drivers : List (String × DriverModule)) :
    (s.addDrivers env drivers).2.loader.Negotiated env := by
  induction drivers generalizing s with
  | nil => exact hs
  | cons first rest ih =>
    obtain ⟨name, module⟩ := first
    have hadded := addDriver_negotiated hs name module
    unfold addDrivers
    split
    · rename_i failure s₁ heq
      rw [heq] at hadded
      exact hadded
    · rename_i driver s₁ heq
      rw [heq] at hadded
      exact ih hadded

/-- The null driver came of negotiations with its own module. -/
theorem addNullDriver_negotiated (hs : s.loader.Negotiated env) :
    (s.addNullDriver env).2.loader.Negotiated env := by
  unfold addNullDriver
  split
  · exact addDrivers_negotiated hs _
  · exact hs

/-- The drivers of a loader that is discovered came of negotiations; if it is handed out, there are
some. -/
theorem discover_negotiated (env : Environment ω) (config : Config) (shared : Shared ω) :
    (discover env config shared).2.loader.Negotiated env ∧
      ((discover env config shared).1 = .ok () →
        (discover env config shared).2.loader.drivers ≠ []) := by
  have hlibraries : ∀ (names : List String) (s : Session ω), s.loader.Negotiated env →
      (names.foldl (fun s name => s.addLibrary env name) s).loader.Negotiated env := by
    intro names
    induction names with
    | nil => exact fun _ hs => hs
    | cons name rest ih => exact fun s hs => ih _ (addLibrary_negotiated hs name)
  unfold discover
  dsimp only
  have hfound := addNullDriver_negotiated (hlibraries
    (Discovery.names config (empty config shared).log).1
    { empty config shared with log := (Discovery.names config (empty config shared).log).2 }
    (empty_negotiated config shared))
  split
  · rename_i failure s₁ heq
    rw [heq] at hfound
    exact ⟨hfound, nofun⟩
  · rename_i found s₁ heq
    rw [heq] at hfound
    split
    · exact ⟨hfound, nofun⟩
    · rename_i hsome
      exact ⟨hfound, fun _ hnone => hsome (List.isEmpty_iff.2 hnone)⟩

end Session
end DriverLoader
