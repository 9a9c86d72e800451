/-
# Readiness over a history

A driver is ready for a category as long as its last initialisation for it succeeded, and a driver that
was just loaded is ready for all.  Only an initialisation of the category can change this, it asks only
drivers that are ready, and so readiness that is lost is never found again.

`Advances` says what an operation can do to the drivers' statuses and which functions it can invoke;
`step_advances` says so of every operation.  From it follows that a driver that is out of a category stays
out and is asked no more (`Advances.out`, `Advances.unasked`), and by induction the same of a history.
-/

import DriverLoader.Proofs.Loader.Accounting
import DriverLoader.Proofs.Loader.Asking

namespace DriverLoader

variable {ω : Type}

/-- If an operation is a call, then of an entry point that the interface routes. -/
def Operation.Routed : Operation → Prop
  | .call entry _ _ => Api.entry? entry.name = some entry ∧ entry.routed = true
  | _ => True

/-- What an operation may invoke: an initialisation and an enumeration ask drivers that are ready, and a
call invokes functions for its own entry point. -/
inductive Operation.Asks (s : Session ω) : Operation → Invocation → Prop where
  | init {category : Category} {flags : UInt32} {entry : EntryPoint} {driver : Driver}
      {i : Invocation} (served : Api.entry? (Session.initEntry category) = some entry)
      (ready : driver ∈ s.loader.ready category) (asks : i.Asks entry driver) :
      Asks s (.init category flags) i
  | listed {category : Category} {count array : Option Location} {memory : Memory}
      {entry : EntryPoint} {driver : Driver} {i : Invocation}
      (served : Api.entry? (Session.driverGetEntry category) = some entry)
      (ready : driver ∈ s.loader.ready category) (asks : i.Asks entry driver) :
      Asks s (.driverGet category count array memory) i
  | called {entry : EntryPoint} {args : List CallArgument} {memory : Memory} {i : Invocation}
      (name : i.entry = entry.name) : Asks s (.call entry args memory) i

namespace Session

variable {env : Environment ω} {s s' : Session ω} {operation : Operation}

/-- What an operation does to the statuses of drivers, and which driver functions it invokes. -/
structure Advances (s : Session ω) (operation : Operation) (s' : Session ω) : Prop where
  /-- A driver that is loaded is new, or was loaded and is ready for no more categories than before. -/
  drivers : ∀ d' ∈ s'.loader.drivers, d'.driver.id = s.nextDriver ∨
    ∃ d ∈ s.loader.drivers, d'.driver = d.driver ∧
      ∀ category, d'.isReady category = true → d.isReady category = true
  invocations : ∃ called, s'.trace.invocations = s.trace.invocations ++ called ∧
    ∀ i ∈ called, operation.Asks s i

/-- An operation that invokes nothing and loads nothing. -/
theorem advances_of_subset (hdrivers : s'.loader.drivers ⊆ s.loader.drivers)
    (hinvocations : s'.trace.invocations = s.trace.invocations) : s.Advances operation s' :=
  ⟨fun d' hd' => Or.inr ⟨d', hdrivers hd', rfl, fun _ => id⟩,
    [], by rw [hinvocations, List.append_nil], nofun⟩

/-- The drivers with their statuses are what they were, and nothing was invoked. -/
structure Rests (s s' : Session ω) : Prop where
  drivers : s'.loader.drivers = s.loader.drivers
  invocations : s'.trace.invocations = s.trace.invocations

/-- An operation that leaves statuses alone and invokes nothing. -/
theorem Rests.advances (h : s.Rests s') : s.Advances operation s' :=
  advances_of_subset (h.drivers ▸ List.Subset.refl _) h.invocations

/-! ### One operation -/

/-- Adding a driver loads a new one, or none, and leaves the statuses of the others alone. -/
theorem addDriver_advances (env : Environment ω) (name : String) (module : DriverModule)
    (s : Session ω) : s.Advances (.addDriver name module) (s.addDriver env name module).2 := by
  have hadded := addDriver_added env name module s
  generalize s.addDriver env name module = outcome at hadded
  cases hadded with
  | duplicate => exact Rests.advances ⟨rfl, rfl⟩
  | refused idles => exact Rests.advances ⟨rfl, idles.invocations⟩
  | loaded new name_eq id index idles =>
    refine ⟨fun d' hd' => ?_, [], ?_, nofun⟩
    · rcases List.mem_append.1 hd' with hold | hfresh
      · exact Or.inr ⟨d', hold, rfl, fun _ hready => hready⟩
      · rw [List.mem_singleton.1 hfresh]
        exact Or.inl id
    · rw [List.append_nil]
      exact idles.invocations

/-- An initialisation asks the drivers that are ready for its category, and makes none ready that was
not. -/
theorem init_advances (env : Environment ω) (category : Category) (flags : UInt32)
    (s : Session ω) : s.Advances (.init category flags) (s.init env category flags).2 := by
  obtain ⟨called, hcalled, hasked, -, hfollows⟩ := init_spec env category flags s
  refine ⟨fun d' hd' => Or.inr ?_, called, hcalled, fun i hi => ?_⟩
  · obtain ⟨n, rfl⟩ := List.mem_iff_get.1 hd'
    obtain ⟨hlength, hall⟩ := List.forall₂_iff_get.1 hfollows
    have hd' := hall n (by rw [hlength]; exact n.isLt) n.isLt
    refine ⟨_, List.get_mem .., hd'.driver, fun other hother => ?_⟩
    by_cases heq : initEntry other = initEntry category
    · rw [LoadedDriver.isReady, status_congr heq] at hother ⊢
      exact hd'.ready hother
    · rw [LoadedDriver.isReady, hd'.others other heq] at hother
      exact hother
  · obtain ⟨entry, hserved, driver, hready, hi⟩ := hasked i hi
    exact .init hserved hready hi

/-- An enumeration asks the drivers that are ready for its category and leaves statuses alone. -/
theorem driverGet_advances (env : Environment ω) (category : Category)
    (count array : Option Location) (memory : Memory) (s : Session ω) :
    s.Advances (.driverGet category count array memory)
      (s.driverGet env category count array memory).2.2 := by
  unfold driverGet
  split
  · exact Rests.advances ⟨rfl, rfl⟩
  · rename_i entry hserved
    obtain ⟨called, hcalled, hasked⟩ := Enumeration.run_asks env entry (s.loader.ready category)
      count array (s.frame memory)
    refine ⟨fun d' hd' => Or.inr ⟨d', hd', rfl, fun _ => id⟩, called, hcalled, fun i hi => ?_⟩
    obtain ⟨driver, hready, hi⟩ := hasked i hi
    exact .listed hserved hready hi

/-- A call invokes at most the function of the driver that it is routed to, whatever the layers do. -/
theorem call_advances (env : Environment ω) (entry : EntryPoint) (args : List CallArgument)
    (memory : Memory) (s : Session ω) :
    s.Advances (.call entry args memory) (s.call env entry args memory).2.2 := by
  refine ⟨fun d' hd' => Or.inr ⟨d', hd', rfl, fun _ => id⟩, ?_⟩
  have hforward : ∃ called, (Dispatch.forward env ⟨entry, args⟩ (s.frame memory)).2.core.invocations
      = s.trace.invocations ++ called ∧
        ∀ i ∈ called, (Operation.call entry args memory).Asks s i := by
    by_cases hreaches : ∃ driver function,
        Dispatch.Reaches s.loader.registry entry (Argument.routing args) driver function
    · obtain ⟨driver, function, hreaches⟩ := hreaches
      refine ⟨[⟨driver.id, entry.name, function, args,
        (env.run function entry args memory s.host).result⟩], ?_, fun i hi => ?_⟩
      · exact congrArg Core.invocations
          (Dispatch.forward_reaches env ⟨entry, args⟩ (s.frame memory) hreaches).2
      · rw [List.mem_singleton.1 hi]
        exact .called rfl
    · refine ⟨[], ?_, nofun⟩
      have hnone : ∀ driver function,
          ¬Dispatch.Reaches s.loader.registry entry (Argument.routing args) driver function :=
        fun driver function hreaches' => hreaches ⟨driver, function, hreaches'⟩
      rw [(Dispatch.forward_refused env ⟨entry, args⟩ (s.frame memory) hnone).2.2,
        List.append_nil]
      rfl
  have hcore := (LayerStack.run_spec env ⟨entry, args⟩
    (Dispatch.forward_followsCore env ⟨entry, args⟩) s.loader.stack (s.frame memory)).1
  have hinvocations := congrArg Core.invocations hcore
  split at hinvocations
  · exact ⟨[], by rw [List.append_nil]; exact hinvocations, nofun⟩
  · obtain ⟨called, hcalled, hasked⟩ := hforward
    exact ⟨called, hinvocations.trans hcalled, hasked⟩

/-- Unloading a driver makes no other ready and invokes nothing. -/
theorem unload_advances (name : String) (s : Session ω) :
    s.Advances (.unload name) (s.unload name).2 := by
  cases unload_parted name s with
  | kept idles =>
    exact Rests.advances ⟨congrArg Loader.drivers idles.loader, idles.ambient.invocations⟩
  | gone d found idles =>
    refine advances_of_subset ?_ idles.ambient.invocations
    rw [idles.loader]
    exact List.eraseP_subset

/-- A teardown leaves no driver that could be ready, and invokes nothing. -/
theorem teardown_advances (s : Session ω) : s.Advances .teardown s.teardown.2 := by
  have hidles := teardown_idles s
  refine advances_of_subset ?_ hidles.ambient.invocations
  rw [hidles.loader]
  exact List.nil_subset _

/-- Binding a handle leaves the drivers alone. -/
theorem registerHandle_rests (owner object : Handle) (s : Session ω) :
    s.Rests (s.registerHandle owner object).2 := by
  unfold registerHandle
  split
  · exact ⟨rfl, rfl⟩
  · split <;> exact ⟨rfl, rfl⟩

/-- Changing a tracing layer leaves the drivers alone. -/
theorem changeTracing_rests (id : LayerId) (change : TracingChange) (s : Session ω) :
    s.Rests (s.changeTracing id change).2 :=
  ⟨rfl, congrArg Trace.invocations (Ambient.changeTracing_keeps id change s.toAmbient).2.2⟩

/-- Pushing a layer leaves the drivers alone. -/
theorem pushLayer_rests (id : LayerId) (s : Session ω) : s.Rests (s.pushLayer id).2 := by
  unfold pushLayer
  split <;> exact ⟨rfl, rfl⟩

/-- Inserting a layer leaves the drivers alone. -/
theorem insertLayer_rests (index : Nat) (id : LayerId) (s : Session ω) :
    s.Rests (s.insertLayer index id).2 := by
  unfold insertLayer
  split <;> exact ⟨rfl, rfl⟩

/-- Switching tracing on leaves the drivers alone. -/
theorem enableTracing_rests (s : Session ω) : s.Rests s.enableTracing.2 := by
  have hinsert := insertLayer_rests 0 s.loader.tracing s
  unfold enableTracing
  split
  · rename_i failure s₁ heq
    rw [heq] at hinsert
    exact hinsert
  · rename_i inserted s₁ heq
    rw [heq] at hinsert
    have hchange := changeTracing_rests s₁.loader.tracing (.setActive true) s₁
    exact ⟨hchange.drivers.trans hinsert.drivers, hchange.invocations.trans hinsert.invocations⟩

/-- Adding a checker leaves the drivers alone. -/
theorem addChecker_rests (id : LayerId) (checker : Checker) (s : Session ω) :
    s.Rests (s.addChecker id checker).2 := by
  unfold addChecker
  split
  · exact ⟨rfl, rfl⟩
  · split <;> exact ⟨rfl, rfl⟩

/-- Taking a reference to a driver leaves the drivers alone. -/
theorem hold_rests (name : String) (s : Session ω) : s.Rests (s.hold name).2 := by
  unfold hold
  split <;> exact ⟨rfl, rfl⟩

/-- Borrowing a record leaves the drivers alone. -/
theorem holdRecord_rests (h : Handle) (s : Session ω) : s.Rests (s.holdRecord h).2 := by
  unfold holdRecord
  split <;> exact ⟨rfl, rfl⟩

/-- **What any one operation does to readiness.** -/
theorem step_advances (env : Environment ω) (s : Session ω) (operation : Operation) :
    s.Advances operation (s.step env operation) := by
  cases operation with
  | addDriver name module => exact addDriver_advances env name module s
  | init category flags => exact init_advances env category flags s
  | driverGet category count array memory =>
    exact driverGet_advances env category count array memory s
  | call entry args memory => exact call_advances env entry args memory s
  | registerHandle owner object => exact (registerHandle_rests owner object s).advances
  | unload name => exact unload_advances name s
  | teardown => exact teardown_advances s
  | enableTracing => exact (enableTracing_rests s).advances
  | disableTracing => exact (changeTracing_rests ..).advances
  | createLayer layer => exact Rests.advances ⟨rfl, rfl⟩
  | pushLayer id => exact (pushLayer_rests id s).advances
  | insertLayer index id => exact (insertLayer_rests index id s).advances
  | clearLayers => exact Rests.advances ⟨rfl, rfl⟩
  | changeTracing id change => exact (changeTracing_rests id change s).advances
  | addChecker id checker => exact (addChecker_rests id checker s).advances
  | hold name => exact (hold_rests name s).advances
  | holdRecord h => exact (holdRecord_rests h s).advances
  | dropHeld => exact Rests.advances ⟨rfl, rfl⟩

/-! ### A driver that is out of a category -/

/-- No driver of this identity is ready for the category or will be loaded. -/
structure Out (s : Session ω) (id : Nat) (category : Category) : Prop where
  old : id < s.nextDriver
  unready : ∀ d ∈ s.loader.drivers, d.driver.id = id → d.isReady category = false

/-- A driver that is out of a category stays out. -/
theorem Advances.out {id : Nat} {category : Category} (h : s.Advances operation s')
    (hnext : s.nextDriver ≤ s'.nextDriver) (hs : s.Out id category) : s'.Out id category := by
  refine ⟨Nat.lt_of_lt_of_le hs.old hnext, fun d' hd' hid => ?_⟩
  rcases h.drivers d' hd' with hnew | ⟨d, hd, hdriver, hready⟩
  · exact absurd (hid.symm.trans hnew) (Nat.ne_of_lt hs.old)
  · have hunready := hs.unready d hd (hdriver ▸ hid)
    exact Bool.eq_false_iff.2 fun hstill => by simp [hready category hstill] at hunready

/-- A driver that takes part in the calls of a category is not out of it. -/
theorem Out.ne_of_ready {id : Nat} {category other : Category} (hs : s.Out id category)
    (hsame : initEntry other = initEntry category) {driver : Driver}
    (hready : driver ∈ s.loader.ready other) : driver.id ≠ id := by
  intro hid
  obtain ⟨d, hd, rfl⟩ := List.mem_map.1 hready
  obtain ⟨hmem, hisReady⟩ := List.mem_filter.1 hd
  have hunready := hs.unready d hmem hid
  rw [LoadedDriver.isReady, status_congr hsame] at hisReady
  exact Bool.noConfusion (hisReady.symm.trans hunready)

/-- A driver that is out of a category is not asked to initialise it nor for its driver handles.  No
call does so either, since the loader serves these entry points itself. -/
theorem Advances.unasked {id : Nat} {category : Category} (h : s.Advances operation s')
    (hrouted : operation.Routed) (hs : s.Out id category) :
    ∃ called, s'.trace.invocations = s.trace.invocations ++ called ∧
      ∀ i ∈ called, i.driver = id →
        i.entry ≠ initEntry category ∧ i.entry ≠ driverGetEntry category := by
  obtain ⟨called, hcalled, hasks⟩ := h.invocations
  refine ⟨called, hcalled, fun i hi hid => ?_⟩
  cases hasks i hi with
  | @init other flags entry driver _ served ready asks =>
    obtain ⟨_, hentry, hname, -, -⟩ := initEntry_served other
    obtain rfl := Option.some.inj (hentry.symm.trans served)
    rw [asks.name, hname]
    have hne : initEntry other ≠ initEntry category := fun hsame =>
      hs.ne_of_ready hsame ready (asks.owner.symm.trans hid)
    exact ⟨hne, by cases other <;> cases category <;> decide⟩
  | @listed other count array memory entry driver _ served ready asks =>
    obtain ⟨_, hentry, hname, -⟩ := driverGetEntry_served other
    obtain rfl := Option.some.inj (hentry.symm.trans served)
    rw [asks.name, hname]
    have hne : initEntry other ≠ initEntry category := fun hsame =>
      hs.ne_of_ready hsame ready (asks.owner.symm.trans hid)
    refine ⟨by cases other <;> cases category <;> decide, fun hsame => hne ?_⟩
    revert hsame
    cases other <;> cases category <;> decide
  | @called entry args memory _ name =>
    obtain ⟨hknown, hforwarded⟩ := hrouted
    obtain ⟨_, hinit, -, hserved, -⟩ := initEntry_served category
    obtain ⟨_, hget, -, hserved'⟩ := driverGetEntry_served category
    constructor
    · intro heq
      rw [← name, heq, hinit] at hknown
      rw [Option.some.inj hknown, hforwarded] at hserved
      cases hserved
    · intro heq
      rw [← name, heq, hget] at hknown
      rw [Option.some.inj hknown, hforwarded] at hserved'
      cases hserved'

/-- A driver that is out of a category stays out, and is not asked any more. -/
theorem Out.after {id : Nat} {category : Category} (hs : s.Out id category) (env : Environment ω)
    (history : History) (hrouted : ∀ operation ∈ history, operation.Routed) :
    (s.after env history).Out id category ∧
      ∃ called, (s.after env history).trace.invocations = s.trace.invocations ++ called ∧
        ∀ i ∈ called, i.driver = id →
          i.entry ≠ initEntry category ∧ i.entry ≠ driverGetEntry category := by
  refine after_induction (P := fun s' => s'.Out id category ∧
    ∃ called, s'.trace.invocations = s.trace.invocations ++ called ∧
      ∀ i ∈ called, i.driver = id →
        i.entry ≠ initEntry category ∧ i.entry ≠ driverGetEntry category)
    ⟨hs, [], (List.append_nil _).symm, nofun⟩ history ?_
  rintro before operation after hsplit ⟨hout, called, hcalled, hunasked⟩
  have hadvances := step_advances env (s.after env before) operation
  obtain ⟨more, hmore, hunasked'⟩ :=
    hadvances.unasked (hrouted operation (by simp [hsplit])) hout
  refine ⟨hadvances.out (step_effect env _ operation).shift.nextDriver_le hout, called ++ more,
    by rw [hmore, hcalled, List.append_assoc], fun i hi => ?_⟩
  exact (List.mem_append.1 hi).elim (hunasked i) (hunasked' i)

/-- A loaded driver whose last initialisation of a category failed is out of it. -/
theorem Accountable.out (hs : s.Accountable) {d : LoadedDriver} (hd : d ∈ s.loader.drivers)
    {category : Category} (hstatus : d.status category ≠ .success) :
    s.Out d.driver.id category := by
  refine ⟨hs.coherent.ids d.driver (List.mem_map_of_mem hd), fun other hother hid => ?_⟩
  have hdistinct : (s.loader.drivers.map (·.driver.id)).Nodup := by
    have hids := hs.distinct
    unfold Loader.loaded at hids
    rwa [List.map_map] at hids
  obtain rfl := List.inj_on_of_nodup_map hdistinct hother hd hid
  simpa [LoadedDriver.isReady, ResultCode.isSuccess] using hstatus

/-- **Readiness that is lost is never found again.**  After every history of a loader, in which calls are
of routed entry points, and for every category:

* An initialisation of the category calls functions of ready drivers for it.  It answers "success" if one
  of the functions that this very initialisation called did, and "uninitialised" otherwise.
* From the time when a loaded driver's status for the category is not "success", it never is again, and
  neither its initialisation nor its enumeration of driver handles is invoked any more.
* Initialisations and enumerations of categories that are initialised otherwise leave every driver's
  status for this one as it is. -/
theorem after_readiness (env : Environment ω) (config : Config) (shared : Shared ω)
    (history : History) (hrouted : ∀ operation ∈ history, operation.Routed) (category : Category) :
    let s := (empty config shared).after env history
    (∀ flags, ∃ called,
        (s.init env category flags).2.trace.invocations = s.trace.invocations ++ called ∧
          (∀ i ∈ called, ∃ entry, Api.entry? (initEntry category) = some entry ∧
            ∃ driver ∈ s.loader.ready category, i.Asks entry driver) ∧
          (s.init env category flags).1
            = if ∃ i ∈ called, i.result = .success then .success else .uninitialized) ∧
      (∀ earlier later d, history = earlier ++ later →
        d ∈ ((empty config shared).after env earlier).loader.drivers →
        d.status category ≠ .success →
          (∀ d' ∈ s.loader.drivers, d'.driver.id = d.driver.id → d'.status category ≠ .success) ∧
            ∃ called, s.trace.invocations
                = ((empty config shared).after env earlier).trace.invocations ++ called ∧
              ∀ i ∈ called, i.driver = d.driver.id →
                i.entry ≠ initEntry category ∧ i.entry ≠ driverGetEntry category) ∧
      ∀ other, initEntry other ≠ initEntry category →
        (∀ flags, (s.init env other flags).2.loader.drivers.map
            (fun d => (d.driver, d.status category))
          = s.loader.drivers.map fun d => (d.driver, d.status category)) ∧
        ∀ count array memory, (s.driverGet env other count array memory).2.2.loader.drivers
          = s.loader.drivers := by
  intro s
  refine ⟨fun flags => ?_, ?_, fun other hother => ⟨fun flags => ?_, fun count array memory => ?_⟩⟩
  · obtain ⟨called, hcalled, hasked, hresult, -⟩ := init_spec env category flags s
    exact ⟨called, hcalled, hasked, hresult⟩
  · intro earlier later d hsplit hd hstatus
    have hout := ((empty_accountable config shared).after env earlier).out hd hstatus
    have hlater := hout.after env later fun operation hmem => hrouted operation (by simp [hsplit, hmem])
    rw [← after_append, ← hsplit] at hlater
    refine ⟨fun d' hd' hid => ?_, hlater.2⟩
    simpa [LoadedDriver.isReady, ResultCode.isSuccess] using hlater.1.unready d' hd' hid
  · obtain ⟨-, -, -, -, hfollows⟩ := init_spec env other flags s
    rw [← List.forall₂_eq_eq_eq, List.forall₂_map_left_iff, List.forall₂_map_right_iff]
    exact hfollows.flip.imp fun d' d hd =>
      Prod.ext hd.driver (hd.others category hother.symm)
  · unfold driverGet
    split <;> rfl

namespace Sample

/-- Modules whose initialisation answers with a warning at first, and with "success" from then on. -/
def hesitant : Environment Nat where
  opens _ := true
  exports _ symbol :=
    if symbol = "zeGetGlobalProcAddrTable" then
      some fun _ => (.success, [("zeInit", ⟨.library "sample", "zeInit"⟩)])
    else if symbol = "zeGetDeviceProcAddrTable" then some fun _ => (.success, [])
    else none
  invoke _ _ _ memory host :=
    ⟨if host.world = 0 then .droppedData else .success, memory,
      { host with world := host.world + 1 }, []⟩
  prologue _ _ _ := (0, [])
  epilogue _ _ _ _ _ := []

/-- The driver is loaded and initialised. -/
def initialised : History :=
  load ++ [.init .compute 0]

/-- A loader with nothing around it, and drivers that count their calls. -/
def counting : Session Nat :=
  empty Config.default (Shared.start .info 0)

end Sample

/-- A driver whose initialisation answered with a warning is not ready again after a second one, though
its function would answer "success" now. -/
theorem after_readiness_warning :
    (∀ operation ∈ Sample.initialised ++ [.init .compute 0], operation.Routed) ∧
      (∀ d ∈ (Sample.counting.after Sample.hesitant
        (Sample.initialised ++ [.init .compute 0])).loader.drivers, d.status .compute ≠ .success) ∧
      (Sample.counting.after Sample.hesitant Sample.initialised).host.world = 1 := by
  have hrouted : ∀ operation ∈ Sample.initialised ++ [.init .compute 0], operation.Routed := by
    simp [Sample.initialised, Sample.load, Operation.Routed]
  have hdrivers : (Sample.counting.after Sample.hesitant
      Sample.initialised).loader.drivers.map (fun d => (d.driver.id, d.computeStatus))
        = [(0, .droppedData)] := by decide +kernel
  have hids : (Sample.counting.after Sample.hesitant
      (Sample.initialised ++ [.init .compute 0])).loader.drivers.map (·.driver.id) = [0] := by
    decide +kernel
  obtain ⟨d, hd, hvalues⟩ := List.mem_map.1
    (hdrivers ▸ List.mem_singleton_self (0, ResultCode.droppedData))
  obtain ⟨hid, hstatus⟩ := Prod.mk.inj hvalues
  have hwarned : d.status .compute ≠ .success := by
    show d.computeStatus ≠ .success
    rw [hstatus]
    decide
  have hunready := ((after_readiness Sample.hesitant Config.default (Shared.start .info 0) _ hrouted
    .compute).2.1 Sample.initialised [.init .compute 0] d rfl hd hwarned).1
  refine ⟨hrouted, fun d' hd' => hunready d' hd' ?_, by decide +kernel⟩
  have hid' : d'.driver.id ∈ [0] := hids ▸ List.mem_map_of_mem hd'
  rw [hid, List.mem_singleton.1 hid']

end Session
end DriverLoader
