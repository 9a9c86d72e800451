/-
# Which driver functions a loader asks on its own

Initialisation and enumeration have no handle to be routed by: the loader asks the drivers that are
ready for the category, each by the function in its own table.  `Invocation.Asks` says so of one
invocation, and `Frame.Asks` of all that happened between two frames.

Of an initialisation more is said (`init_spec`): it succeeds exactly if one of the functions that it
called did, and it can only take readiness away (`LoadedDriver.Follows`).
-/

import DriverLoader.Proofs.Loader.Shift
import Mathlib.Data.List.Forall2

namespace DriverLoader

variable {ω : Type}

/-- An invocation is that of the function that a driver has for an entry point. -/
structure Invocation.Asks (i : Invocation) (entry : EntryPoint) (driver : Driver) : Prop where
  name : i.entry = entry.name
  owner : i.driver = driver.id
  slot : (driver.table entry.category).function? entry.group entry.name = some i.function

/-- From one frame to another nothing was invoked but functions that drivers have for an entry point. -/
def Frame.Asks (entry : EntryPoint) (drivers : List Driver) (f f' : Frame ω) : Prop :=
  ∃ called, f'.trace.invocations = f.trace.invocations ++ called ∧
    ∀ i ∈ called, ∃ driver ∈ drivers, i.Asks entry driver

namespace Frame.Asks

variable {entry : EntryPoint} {drivers : List Driver} {f f' f'' : Frame ω}

/-- Where nothing was invoked no driver was asked. -/
theorem of_eq (h : f'.trace.invocations = f.trace.invocations) : f.Asks entry drivers f' :=
  ⟨[], by simpa using h, nofun⟩

theorem trans (first : f.Asks entry drivers f') (second : f'.Asks entry drivers f'') :
    f.Asks entry drivers f'' := by
  obtain ⟨called, hcalled, hasked⟩ := first
  obtain ⟨more, hmore, hasked'⟩ := second
  refine ⟨called ++ more, by rw [hmore, hcalled, List.append_assoc], fun i hi => ?_⟩
  exact (List.mem_append.1 hi).elim (hasked i) (hasked' i)

/-- Who asks some drivers asks no others than a longer list of them. -/
theorem mono {others : List Driver} (hsubset : drivers ⊆ others) (h : f.Asks entry drivers f') :
    f.Asks entry others f' := by
  obtain ⟨called, hcalled, hasked⟩ := h
  refine ⟨called, hcalled, fun i hi => ?_⟩
  obtain ⟨driver, hdriver, hi⟩ := hasked i hi
  exact ⟨driver, hsubset hdriver, hi⟩

end Frame.Asks

/-- A driver's function is invoked once, and its answer is noted. -/
theorem Frame.invoke_asks (env : Environment ω) {driver : Driver} {function : DriverFunction}
    {entry : EntryPoint}
    (hfunction : (driver.table entry.category).function? entry.group entry.name = some function)
    (args : List CallArgument) (f : Frame ω) :
    ∃ i, i.Asks entry driver ∧ i.result = (f.invoke env driver function entry args).1 ∧
      (f.invoke env driver function entry args).2.trace.invocations
        = f.trace.invocations ++ [i] :=
  ⟨_, ⟨rfl, rfl, hfunction⟩, rfl, Trace.invocations_cons ..⟩

/-! ### Enumeration -/

namespace Enumeration

/-- A share asks its driver, once or twice. -/
theorem share_asks (env : Environment ω) (e : Enumeration) {driver : Driver}
    {function : DriverFunction}
    (hfunction : (driver.table e.entry.category).function? e.entry.group e.entry.name
      = some function) (total : UInt32) (f : Frame ω) :
    f.Asks e.entry [driver] (share env e driver function total f).2.2 := by
  have hask : ∀ capacity array (f : Frame ω),
      f.Asks e.entry [driver] (ask env e.entry driver function capacity array f).2.2 := by
    intro capacity array f
    obtain ⟨i, hasks, -, hi⟩ := Frame.invoke_asks env hfunction
      [.pointer (some counter), .handles array]
      { f with memory := f.memory.store .counter [capacity.toUInt64] }
    refine ⟨[i], hi, fun other hother => ?_⟩
    rw [List.mem_singleton.1 hother]
    exact ⟨driver, List.mem_singleton_self _, hasks⟩
  unfold share
  dsimp only
  split
  · exact hask ..
  · split
    · split
      · exact (hask 0 none f).trans (hask ..)
      · exact (hask 0 none f).trans (hask ..)
    · exact hask ..

/-- Drivers are asked for the entry point of the enumeration, and for nothing else. -/
theorem collect_asks (env : Environment ω) (e : Enumeration) (drivers : List Driver)
    (total : UInt32) (f : Frame ω) : f.Asks e.entry drivers (collect env e drivers total f).2 := by
  induction drivers generalizing total f with
  | nil => exact .of_eq rfl
  | cons driver rest ih =>
    have hrest : rest ⊆ driver :: rest := List.subset_cons_self driver rest
    unfold collect
    split
    · exact .of_eq rfl
    · split
      · exact (ih total f).mono hrest
      · rename_i function hfunction
        have hshare := (share_asks env e hfunction total f).mono
          (List.cons_subset_cons driver (List.nil_subset rest))
        dsimp only
        split
        · exact hshare.trans ((ih _ _).mono hrest)
        · exact hshare

/-- An enumeration asks ready drivers only. -/
theorem run_asks (env : Environment ω) (entry : EntryPoint) (ready : List Driver)
    (count array : Option Location) (f : Frame ω) :
    f.Asks entry ready (run env entry ready count array f).2 := by
  unfold run
  split
  · exact .of_eq rfl
  · split
    · exact .of_eq rfl
    · rename_i count _
      dsimp only
      have hcollect := collect_asks env ⟨entry, f.memory.readCount count,
        if f.memory.readCount count = 0 then none else array⟩ ready 0 f
      split
      · rename_i total f' heq
        rw [heq] at hcollect
        exact hcollect
      · rename_i result f' heq
        rw [heq] at hcollect
        exact hcollect

end Enumeration

/-! ### Initialisation -/

/-- Where a driver stands after an initialisation of a category: it may have lost its readiness for the
category, and stands as before for the others. -/
structure LoadedDriver.Follows (category : Category) (d d' : LoadedDriver) : Prop where
  driver : d'.driver = d.driver
  ready : d'.isReady category = true → d.isReady category = true
  others : ∀ other, Session.initEntry other ≠ Session.initEntry category →
    d'.status other = d.status other

namespace Session

/-- A driver has one status for all categories that are initialised together. -/
theorem status_congr {category other : Category} (h : initEntry other = initEntry category)
    (d : LoadedDriver) : d.status other = d.status category := by
  cases category <;> cases other <;> first | rfl | exact absurd h (by decide)

/-- A status that is set is there. -/
theorem status_setStatus_self (d : LoadedDriver) (category : Category) (status : ResultCode) :
    (d.setStatus category status).status category = status := by
  cases category <;> rfl

/-- Setting a status leaves those of categories with another init entry point alone. -/
theorem status_setStatus_of_ne {category other : Category}
    (h : initEntry other ≠ initEntry category) (d : LoadedDriver) (status : ResultCode) :
    (d.setStatus category status).status other = d.status other := by
  cases category <;> cases other <;> first | rfl | exact absurd rfl h

/-- The entry point that initialises a category is served by the loader, and stands in a category that is
initialised by it. -/
theorem initEntry_served (category : Category) :
    ∃ entry, Api.entry? (initEntry category) = some entry ∧ entry.name = initEntry category ∧
      entry.routed = false ∧ initEntry entry.category = initEntry category := by
  have hentry : (Api.entry? (initEntry category)).map
      (fun entry => (entry.name, entry.routed, initEntry entry.category))
        = some (initEntry category, false, initEntry category) := by
    cases category <;> decide +kernel
  obtain ⟨entry, hserved, hvalues⟩ := Option.map_eq_some_iff.1 hentry
  simp only [Prod.mk.injEq] at hvalues
  exact ⟨entry, hserved, hvalues⟩

/-- The entry point that lists the driver handles of a category is served by the loader. -/
theorem driverGetEntry_served (category : Category) :
    ∃ entry, Api.entry? (driverGetEntry category) = some entry ∧
      entry.name = driverGetEntry category ∧ entry.routed = false := by
  have hentry : (Api.entry? (driverGetEntry category)).map
      (fun entry => (entry.name, entry.routed)) = some (driverGetEntry category, false) := by
    cases category <;> decide +kernel
  obtain ⟨entry, hserved, hvalues⟩ := Option.map_eq_some_iff.1 hentry
  simp only [Prod.mk.injEq] at hvalues
  exact ⟨entry, hserved, hvalues⟩

/-- A driver that is initialised is asked once, unless it has no function for it. -/
theorem initDriver_asks (env : Environment ω) (entry : EntryPoint) (flags : UInt32)
    (driver : Driver) (f : Frame ω) :
    ((initDriver env entry flags driver f).1 = .uninitialized ∧
        (initDriver env entry flags driver f).2 = f) ∨
      ∃ i, i.Asks entry driver ∧ i.result = (initDriver env entry flags driver f).1 ∧
        (initDriver env entry flags driver f).2.trace.invocations
          = f.trace.invocations ++ [i] := by
  unfold initDriver
  dsimp only
  split
  · rename_i function hfunction
    split
    · exact Or.inr (Frame.invoke_asks env hfunction _ f)
    · exact Or.inl ⟨rfl, rfl⟩
  · exact Or.inl ⟨rfl, rfl⟩

/-- The ready drivers are asked, each at most once.  Some driver is ready afterwards exactly if one of
them answered "success". -/
theorem initDrivers_spec (env : Environment ω) (entry : EntryPoint) (flags : UInt32)
    (drivers : List LoadedDriver) (f : Frame ω) :
    ∃ called,
      (initDrivers env entry flags drivers f).2.trace.invocations = f.trace.invocations ++ called ∧
        (∀ i ∈ called, ∃ d ∈ drivers, d.isReady entry.category = true ∧ i.Asks entry d.driver) ∧
        ((∃ d ∈ (initDrivers env entry flags drivers f).1, d.isReady entry.category = true) ↔
          ∃ i ∈ called, i.result = .success) ∧
        List.Forall₂ (LoadedDriver.Follows entry.category) drivers
          (initDrivers env entry flags drivers f).1 := by
  induction drivers generalizing f with
  | nil => exact ⟨[], (List.append_nil _).symm, nofun, by simp [initDrivers], .nil⟩
  | cons d rest ih =>
    unfold initDrivers
    split
    · rename_i hready
      have hfirst := initDriver_asks env entry flags d.driver f
      rcases hinit : initDriver env entry flags d.driver f with ⟨status, f₁⟩
      rw [hinit] at hfirst
      dsimp only at hfirst ⊢
      have hlog : ∀ text, (if status.isError then f₁.write .warn text else f₁).trace = f₁.trace := by
        intro text
        split <;> rfl
      obtain ⟨called, hcalled, hasked, hsuccess, hfollows⟩ :=
        ih (if status.isError then
          f₁.write .warn s!"{d.driver.name}: {entry.category} init returned {status}" else f₁)
      rw [hlog] at hcalled
      have hd : d.Follows entry.category (d.setStatus entry.category status) :=
        ⟨driver_setStatus .., fun _ => hready, fun _ hother => status_setStatus_of_ne hother ..⟩
      have hlater : ∀ i ∈ called, ∃ d' ∈ d :: rest,
          d'.isReady entry.category = true ∧ i.Asks entry d'.driver := by
        intro i hi
        obtain ⟨d', hmem, hd'⟩ := hasked i hi
        exact ⟨d', List.mem_cons_of_mem _ hmem, hd'⟩
      rcases hfirst with ⟨hstatus, hf⟩ | ⟨i, hi, hresult, hf⟩
      · refine ⟨called, by rw [hcalled, hf], hlater, ?_, .cons hd hfollows⟩
        rw [← hsuccess, List.exists_mem_cons_iff, LoadedDriver.isReady, status_setStatus_self,
          hstatus]
        exact or_iff_right (by decide)
      · refine ⟨i :: called, by rw [hcalled, hf, List.append_assoc]; rfl, ?_, ?_,
          .cons hd hfollows⟩
        · rintro other hother
          rcases List.mem_cons.1 hother with rfl | hother
          · exact ⟨d, List.mem_cons_self, hready, hi⟩
          · exact hlater other hother
        · rw [List.exists_mem_cons_iff, List.exists_mem_cons_iff, hsuccess, hresult,
            LoadedDriver.isReady, status_setStatus_self, ResultCode.isSuccess, decide_eq_true_iff]
    · rename_i hready
      dsimp only
      obtain ⟨called, hcalled, hasked, hsuccess, hfollows⟩ := ih f
      refine ⟨called, hcalled, fun i hi => ?_, ?_, .cons ⟨rfl, id, fun _ _ => rfl⟩ hfollows⟩
      · obtain ⟨d', hmem, hd'⟩ := hasked i hi
        exact ⟨d', List.mem_cons_of_mem _ hmem, hd'⟩
      · rw [← hsuccess, List.exists_mem_cons_iff]
        exact or_iff_right hready

/-- **An initialisation asks ready drivers, and succeeds exactly if one of them does.** -/
theorem init_spec (env : Environment ω) (category : Category) (flags : UInt32) (s : Session ω) :
    ∃ called,
      (s.init env category flags).2.trace.invocations = s.trace.invocations ++ called ∧
        (∀ i ∈ called, ∃ entry, Api.entry? (initEntry category) = some entry ∧
          ∃ driver ∈ s.loader.ready category, i.Asks entry driver) ∧
        (s.init env category flags).1
          = (if ∃ i ∈ called, i.result = .success then .success else .uninitialized) ∧
        List.Forall₂ (LoadedDriver.Follows category) s.loader.drivers
          (s.init env category flags).2.loader.drivers := by
  obtain ⟨entry, hentry, -, -, hcategory⟩ := initEntry_served category
  have hready : ∀ d : LoadedDriver, d.isReady entry.category = d.isReady category := by
    intro d
    rw [LoadedDriver.isReady, status_congr hcategory]
    rfl
  obtain ⟨called, hcalled, hasked, hsuccess, hfollows⟩ :=
    initDrivers_spec env entry flags s.loader.drivers (s.frame Memory.empty)
  unfold init
  rw [hentry]
  dsimp only
  refine ⟨called, hcalled, fun i hi => ?_, ?_, hfollows.imp fun d d' hd => ?_⟩
  · obtain ⟨d, hmem, hd, hi⟩ := hasked i hi
    rw [hready] at hd
    exact ⟨entry, rfl, d.driver, List.mem_map_of_mem (List.mem_filter.2 ⟨hmem, hd⟩), hi⟩
  · simp only [← hsuccess, hready, List.any_eq_true]
  · refine ⟨hd.driver, ?_, hcategory ▸ hd.others⟩
    rw [← hready, ← hready]
    exact hd.ready

end Session
end DriverLoader
