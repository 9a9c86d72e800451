/-
# Which tables are built and which are released

Adding a driver builds its tables, and unloading it or tearing the loader down releases them, unless
somebody holds them.  `Operation.builds` and `Operation.frees` say which drivers these are, and
`Operation.reports` how many sub-tables an operation says it has released.

A teardown releases what nobody holds and counts the rest (`teardown_report`).  `Driver.tearDown` is
reached only for a driver that nobody holds: `relinquish` says what a teardown does about one driver, and
`teardown_toAmbient` that it does this for one after another and then logs a summary.

Every operation keeps the books (`Accountable.booked`): what it frees was loaded before it and is not
afterwards, and what it reports are the sub-tables of what it frees.  By induction over a history nothing
is freed that was not built, and nothing twice (`Accountable.ledger`).
-/

import DriverLoader.Proofs.Loader.Unloading
import Mathlib.Algebra.GroupWithZero.Nat
import Mathlib.Data.List.Flatten
import Mathlib.Data.List.Perm.Subperm

namespace DriverLoader

/-- The sub-tables of a driver, each by the identity of the driver, its category and its group. -/
def Driver.subTables (driver : Driver) : List (Nat × Category × String) :=
  [.compute, .tools, .sysman].flatMap fun category =>
    (driver.table category).groups.map fun (group, _) => (driver.id, category, group)

/-- A driver has as many sub-tables as are populated. -/
theorem Driver.length_subTables (driver : Driver) :
    driver.subTables.length = driver.populated := by
  simp [subTables, populated, Table.populated, table, Nat.add_assoc]

/-- The sub-tables of several drivers add up. -/
theorem length_flatMap_subTables (drivers : List Driver) :
    (drivers.flatMap (·.subTables)).length = (drivers.map (·.populated)).sum := by
  rw [List.length_flatMap]
  exact congrArg List.sum (List.map_congr_left fun driver _ => driver.length_subTables)

/-- If some drivers are among others, their sub-tables are among those of the others. -/
theorem subperm_subTables {drivers others : List Driver} (hamong : drivers.Subperm others) :
    (drivers.flatMap (·.subTables)).Subperm (others.flatMap (·.subTables)) := by
  obtain ⟨kept, hperm, hsublist⟩ := hamong
  exact ⟨kept.flatMap (·.subTables), hperm.flatMap_right _, hsublist.flatMap _⟩

namespace Operation

variable {ω : Type}

/-- The driver that an operation builds, if any. -/
def builds (env : Environment ω) (s : Session ω) : Operation → List Driver
  | addDriver name module => (s.addDriver env name module).1.toOption.toList
  | _ => []

/-- The drivers whose tables an operation releases: those that it takes out of the loader and that
nobody holds. -/
def frees (s : Session ω) : Operation → List Driver
  | unload name => ((s.loader.find? name).map (·.driver)).toList.filter (!s.isHeld ·)
  | teardown => s.loader.loaded.filter (!s.isHeld ·)
  | _ => []

/-- The number of sub-tables that an operation says it has released, if it says so. -/
def reports (s : Session ω) : Operation → List Nat
  | unload name => (s.unload name).1.toOption.toList
  | teardown => [s.teardown.1.subTables]
  | _ => []

end Operation

namespace Session

variable {ω : Type} {s : Session ω} {operation : Operation}

/-! ### The report of a teardown -/

/-- A loader without drivers, tables and records. -/
structure Vacant (l : Loader) : Prop where
  drivers : l.drivers = []
  builder : l.builder.drivers = []
  records : l.registry.records = []

/-- A loader that has let go of everything is vacant. -/
theorem emptied_vacant (l : Loader) : Vacant (emptied l) :=
  ⟨rfl, rfl, rfl⟩

/-- Only what is held outside refers to a driver of a vacant loader. -/
theorem Vacant.references_eq_zero_iff (hs : Vacant s.loader) (driver : Driver) :
    s.references driver + s.loader.registry.references driver = 0 ↔ s.isHeld driver = false := by
  have hlist : s.loader.listReferences driver = 0 := by
    unfold Loader.listReferences
    rw [hs.drivers]
    rfl
  have hbuilder : s.loader.builder.references driver = 0 := by
    unfold Builder.references
    rw [hs.builder]
    rfl
  have howned : s.loader.registry.owned driver = [] := by
    unfold Registry.owned
    rw [hs.records]
    rfl
  have houtliving : s.loader.registry.outliving driver = 0 ↔
      s.loader.registry.lends driver = false := by
    have hholds : ∀ serial, s.loader.registry.holds serial = false := by
      intro serial
      unfold Registry.holds
      rw [hs.records]
      rfl
    rw [Registry.outliving_eq_zero_iff, Registry.lends, List.any_eq_false]
    simp only [hholds, Bool.false_eq_true, imp_false]
  unfold references Registry.references isHeld
  rw [hlist, hbuilder, howned, Bool.or_eq_false_iff, ← holdsOf_eq_zero_iff, ← houtliving]
  simp

/-- What a loader does about a driver that it lets go of: the driver is torn down if nobody holds it, and
otherwise a warning is logged. -/
def relinquish (s : Session ω) (a : Ambient ω) (driver : Driver) : Ambient ω :=
  if s.isHeld driver then a.write .warn s!"{driver.name}: tables still in use"
  else (driver.tearDown a).2.2

/-- **A driver is torn down only if nobody holds it.**  A vacant loader releases the tables that nobody
holds, and of the others it does no more than log that they are in use. -/
theorem Vacant.releaseTables (hs : Vacant s.loader) (driver : Driver) :
    s.releaseTables driver
      = (if s.isHeld driver then .error .tableInUse else .ok driver.populated,
          { s with toAmbient := s.relinquish s.toAmbient driver }) := by
  unfold Session.releaseTables relinquish
  by_cases hheld : s.isHeld driver = true
  · rw [if_pos hheld, if_pos hheld, if_neg]
    · rfl
    · rw [hs.references_eq_zero_iff, hheld]
      exact Bool.noConfusion
  · rw [if_neg hheld, if_neg hheld,
      if_pos ((hs.references_eq_zero_iff driver).2 (Bool.eq_false_iff.2 hheld))]
    rfl

/-- **What releasing drivers one after another adds up to:** the sub-tables of those that nobody holds,
the number of the others, and what is done about each of them in turn. -/
theorem Vacant.releaseAll (hs : Vacant s.loader) (drivers : List Driver) :
    releaseAll drivers s
      = (((drivers.filter (!s.isHeld ·)).map (·.populated)).sum,
          (drivers.filter (s.isHeld ·)).length,
          { s with toAmbient := drivers.foldl s.relinquish s.toAmbient }) := by
  induction drivers generalizing s with
  | nil => rfl
  | cons driver rest ih =>
    have hrest := ih (s := { s with toAmbient := s.relinquish s.toAmbient driver }) hs
    unfold Session.releaseAll
    rw [hs.releaseTables]
    by_cases hheld : s.isHeld driver = true
    · rw [if_pos hheld, List.filter_cons_of_neg (by simpa using hheld),
        List.filter_cons_of_pos hheld]
      dsimp only
      rw [hrest]
      rfl
    · rw [if_neg hheld, List.filter_cons_of_pos (by simpa using hheld),
        List.filter_cons_of_neg hheld]
      dsimp only
      rw [hrest]
      rfl

/-- What a teardown releases, once the loader has let go of everything. -/
theorem releaseAll_emptied (s : Session ω) :
    releaseAll s.loader.loaded { s with loader := emptied s.loader }
      = (((s.loader.loaded.filter (!s.isHeld ·)).map (·.populated)).sum,
          (s.loader.loaded.filter (s.isHeld ·)).length,
          { s with
            toAmbient := s.loader.loaded.foldl s.relinquish s.toAmbient
            loader := emptied s.loader }) :=
  Vacant.releaseAll (emptied_vacant s.loader) s.loader.loaded

/-- **The report of a teardown.** -/
theorem teardown_report (s : Session ω) :
    s.teardown.1 =
      { drivers := s.loader.drivers.length
        handles := s.loader.registry.records.length
        subTables := ((s.loader.loaded.filter (!s.isHeld ·)).map (·.populated)).sum
        inUse := (s.loader.loaded.filter (s.isHeld ·)).length } := by
  show TeardownReport.mk s.loader.loaded.length s.loader.registry.records.length
    (releaseAll s.loader.loaded { s with loader := emptied s.loader }).1
    (releaseAll s.loader.loaded { s with loader := emptied s.loader }).2.1 = _
  rw [releaseAll_emptied, Loader.loaded, List.length_map]

/-- A teardown tears down the drivers that nobody holds, one after another, warns of the others, and logs
a summary. -/
theorem teardown_toAmbient (s : Session ω) :
    ∃ summary, s.teardown.2.toAmbient
      = (s.loader.loaded.foldl s.relinquish s.toAmbient).write .info summary := by
  have hreleased : (releaseAll s.loader.loaded { s with loader := emptied s.loader }).2.2.toAmbient
      = s.loader.loaded.foldl s.relinquish s.toAmbient := by
    rw [releaseAll_emptied]
  exact ⟨_, congrArg (fun a : Ambient ω => a.write .info _) hreleased⟩

/-! ### The books -/

/-- What the operations of a history show, one after another. -/
def gather {α : Type} (env : Environment ω) (observe : Session ω → Operation → List α) :
    Session ω → History → List α
  | _, [] => []
  | s, operation :: rest => observe s operation ++ gather env observe (s.step env operation) rest

/-- Adding a driver puts exactly what it builds behind the loaded drivers, under the next identity. -/
theorem addDriver_builds (env : Environment ω) (name : String) (module : DriverModule)
    (s : Session ω) :
    let built := (Operation.addDriver name module).builds env s
    let s' := (s.addDriver env name module).2
    s'.loader.loaded = s.loader.loaded ++ built ∧ s'.nextDriver = s.nextDriver + built.length ∧
      built.map (·.id) = List.range' s.nextDriver built.length := by
  have hadded := addDriver_added env name module s
  unfold Operation.builds
  dsimp only
  generalize s.addDriver env name module = outcome at hadded
  cases hadded with
  | duplicate => exact ⟨(List.append_nil _).symm, rfl, rfl⟩
  | refused idles => exact ⟨(List.append_nil _).symm, rfl, rfl⟩
  | @loaded driver a new name_eq id index idles =>
    refine ⟨?_, rfl, congrArg (fun id => [id]) id⟩
    show _ = s.loader.loaded ++ [driver]
    simp [Loader.loaded, LoadedDriver.fresh]

/-- Only adding a driver gives out an identity. -/
theorem Shift.nextDriver_eq {env : Environment ω} {s' : Session ω} (hshift : Shift env s operation s')
    (hadd : ∀ name module, operation ≠ .addDriver name module) : s'.nextDriver = s.nextDriver := by
  cases hshift with
  | kept _ _ next _ => exact next
  | loaded driver module cause => exact absurd cause (hadd driver.name module)
  | unloaded _ _ _ _ _ next => exact next
  | emptied _ _ _ next _ => exact next

/-- Drivers come and go only by adding and unloading them and by a teardown. -/
theorem Shift.loaded_eq {env : Environment ω} {s' : Session ω} (hshift : Shift env s operation s')
    (hadd : ∀ name module, operation ≠ .addDriver name module)
    (hunload : ∀ name, operation ≠ .unload name) (hteardown : operation ≠ .teardown) :
    s'.loader.loaded = s.loader.loaded := by
  cases hshift with
  | kept drivers => exact drivers
  | loaded driver module cause => exact absurd cause (hadd driver.name module)
  | unloaded _ name cause => exact absurd cause (hunload name)
  | emptied cause => exact absurd cause hteardown

/-- How the drivers that an operation builds and frees are accounted for. -/
structure Booked (env : Environment ω) (s : Session ω) (operation : Operation) : Prop where
  /-- What is freed or stays was there before or was built. -/
  drivers : (operation.frees s ++ (s.step env operation).loader.loaded).Subperm
    (s.loader.loaded ++ operation.builds env s)
  next : (s.step env operation).nextDriver = s.nextDriver + (operation.builds env s).length
  ids : (operation.builds env s).map (·.id)
    = List.range' s.nextDriver (operation.builds env s).length
  /-- The sub-tables that are reported are those of the drivers that are freed. -/
  reported : (operation.reports s).sum = ((operation.frees s).flatMap (·.subTables)).length

/-- An operation that shows nothing and leaves the drivers alone needs no entry. -/
theorem Booked.of_unchanged {env : Environment ω} (hbuilds : operation.builds env s = [])
    (hfrees : operation.frees s = []) (hreports : operation.reports s = [])
    (hloaded : (s.step env operation).loader.loaded = s.loader.loaded)
    (hnext : (s.step env operation).nextDriver = s.nextDriver) : Booked env s operation := by
  constructor
  · rw [hbuilds, hfrees, hloaded, List.append_nil, List.nil_append]
  · rw [hbuilds, hnext]
    rfl
  · rw [hbuilds]
    rfl
  · rw [hfrees, hreports]
    rfl

/-- An unload that is refused frees nothing. -/
theorem Booked.refused {env : Environment ω} {name : String} {failure : Failure} {s' : Session ω}
    (hrefused : s.unload name = (.error failure, s')) (hloader : s'.loader = s.loader)
    (hnext : s'.nextDriver = s.nextDriver) (hfrees : (Operation.unload name).frees s = []) :
    Booked env s (.unload name) := by
  refine of_unchanged rfl hfrees ?_ ?_ ?_
  · show (s.unload name).1.toOption.toList = []
    rw [hrefused]
    rfl
  · show (s.unload name).2.loader.loaded = _
    rw [hrefused, hloader]
  · show (s.unload name).2.nextDriver = _
    rw [hrefused]
    exact hnext

/-- Unloading frees the driver that leaves, if it leaves. -/
theorem Accountable.unload_booked (hs : s.Accountable) (env : Environment ω) (name : String) :
    Booked env s (.unload name) := by
  have hfrees : (Operation.unload name).frees s
      = ((s.loader.find? name).map (·.driver)).toList.filter (!s.isHeld ·) := rfl
  cases hfound : s.loader.find? name with
  | none =>
    rw [hfound] at hfrees
    have hrefused : s.unload name = (.error .driverNotFound, s) := by
      unfold unload
      rw [hfound]
    exact .refused hrefused rfl rfl hfrees
  | some d =>
    rw [hfound] at hfrees
    cases hheld : s.isHeld d.driver with
    | true =>
      refine .refused (hs.unload_of_held hfound hheld) rfl rfl (hfrees.trans ?_)
      exact List.filter_cons_of_neg (by simpa using hheld)
    | false =>
      obtain ⟨hanswer, hloader⟩ := hs.unload_of_free hfound hheld
      have hfreed : (Operation.unload name).frees s = [d.driver] :=
        hfrees.trans (List.filter_cons_of_pos (by simpa using hheld))
      have hnext := (step_effect env s (.unload name)).shift.nextDriver_eq nofun
      refine ⟨?_, hnext, rfl, ?_⟩
      · obtain ⟨before, after, hbefore, hafter⟩ :=
          (hs.left_of_without (hs.coherent.find?_eq_some_iff.1 hfound).1 hloader).drivers
        show List.Subperm (_ ++ (s.unload name).2.loader.loaded) _
        rw [hfreed, show (Operation.unload name).builds env s = [] from rfl, List.append_nil]
        unfold Loader.loaded
        rw [hbefore, hafter, List.map_append, List.map_append, List.map_cons, List.singleton_append]
        exact List.perm_middle.symm.subperm
      · show ((s.unload name).1.toOption.toList).sum = _
        rw [hfreed, hanswer, List.flatMap_singleton, Driver.length_subTables]
        rfl

/-- **Every operation keeps the books.** -/
theorem Accountable.booked (hs : s.Accountable) (env : Environment ω) (operation : Operation) :
    Booked env s operation := by
  have hshift := (step_effect env s operation).shift
  cases operation with
  | addDriver name module =>
    obtain ⟨hloaded, hnext, hids⟩ := addDriver_builds env name module s
    exact ⟨hloaded ▸ List.Subperm.refl _, hnext, hids, rfl⟩
  | unload name => exact hs.unload_booked env name
  | teardown =>
    refine ⟨?_, hshift.nextDriver_eq nofun, rfl, ?_⟩
    · have hempty : (s.step env .teardown).loader.loaded = [] := by
        show s.teardown.2.loader.loaded = []
        rw [(teardown_idles s).loader]
        rfl
      rw [hempty]
      exact (List.filter_sublist.append (List.nil_sublist _)).subperm
    · show [s.teardown.1.subTables].sum = _
      rw [teardown_report, List.sum_singleton, length_flatMap_subTables]
      rfl
  | _ =>
    exact .of_unchanged rfl rfl rfl (hshift.loaded_eq nofun nofun nofun) (hshift.nextDriver_eq nofun)

/-- **The ledger of a history.**  What it frees and what is loaded in the end was loaded in the
beginning or built since, and the drivers that it builds get new identities.  By induction: after the
first operation the rest of the history frees and keeps what that operation left or the rest built. -/
theorem Accountable.ledger (hs : s.Accountable) (env : Environment ω) (history : History) :
    let built := gather env (Operation.builds env) s history
    let freed := gather env Operation.frees s history
    (freed ++ (s.after env history).loader.loaded).Subperm (s.loader.loaded ++ built) ∧
      built.map (·.id) = List.range' s.nextDriver built.length := by
  induction history generalizing s with
  | nil => exact ⟨(List.append_nil _).symm ▸ List.Subperm.refl _, rfl⟩
  | cons operation rest ih =>
    have hbooked := hs.booked env operation
    obtain ⟨hdrivers, hids⟩ := ih ((step_effect env s operation).shift.accountable hs)
    unfold gather
    constructor
    · rw [List.append_assoc, ← List.append_assoc s.loader.loaded]
      refine ((List.subperm_append_left _).2 hdrivers).trans ?_
      rw [← List.append_assoc]
      exact (List.subperm_append_right _).2 hbooked.drivers
    · rw [List.map_append, hids, hbooked.ids, hbooked.next, List.length_append,
        ← List.range'_append_1]

end Session
end DriverLoader
