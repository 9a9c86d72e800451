/-
# Loaders that do alike

Logs, events and what tracing layers hold have no hand in what a loader does to drivers, tables and
handles.  Two sessions are alike if they differ in nothing else (`Session.Alike`): then the same
operation does the same to both (`Alike.step`), and so does the same history (`Alike.after`).

An operation that calls drivers reads no more than the core of a frame.  For routed calls this is
`Dispatch.forward_followsCore`, and the functions that a loader asks on its own are treated here
(`initDrivers_followsCore`, `Enumeration.run_followsCore`).
-/

import DriverLoader.Proofs.Builder.Assembly
import DriverLoader.Proofs.Loader.Shift

namespace DriverLoader

variable {ω : Type}

/-! ### What driver functions read -/

/-- A driver function answers by the core, and changes the core by what it was. -/
theorem Frame.invoke_followsCore (env : Environment ω) (driver : Driver) (function : DriverFunction)
    (entry : EntryPoint) (args : List CallArgument) :
    Rest.FollowsCore fun f : Frame ω => f.invoke env driver function entry args := by
  intro f f' hcore
  have hmemory : f.memory = f'.memory := congrArg Core.memory hcore
  have hhost : f.host = f'.host := congrArg Core.host hcore
  refine ⟨?_, ?_⟩
  · unfold invoke
    dsimp only
    rw [hmemory, hhost]
  · rw [core_invoke, core_invoke, hcore, hmemory, hhost]

namespace Enumeration

variable {f f' : Frame ω}

/-- What a driver answers to a question depends on the core alone. -/
theorem ask_followsCore (env : Environment ω) (entry : EntryPoint) (driver : Driver)
    (function : DriverFunction) (capacity : UInt32) (array : Option Location)
    (hcore : f.core = f'.core) :
    let answer := ask env entry driver function capacity array f
    let answer' := ask env entry driver function capacity array f'
    answer.1 = answer'.1 ∧ answer.2.1 = answer'.2.1 ∧ answer.2.2.core = answer'.2.2.core := by
  have hstored : Frame.core { f with memory := f.memory.store .counter [capacity.toUInt64] }
      = Frame.core { f' with memory := f'.memory.store .counter [capacity.toUInt64] } :=
    congrArg (fun c : Core ω =>
      { c with memory := c.memory.store .counter [capacity.toUInt64] }) hcore
  obtain ⟨hresult, hafter⟩ := Frame.invoke_followsCore env driver function entry
    [.pointer (some counter), .handles array] _ _ hstored
  exact ⟨hresult, congrArg (fun c : Core ω => c.memory.readCount counter) hafter, hafter⟩

/-- What comes of a driver's share depends on the core alone: on what the driver answered to one
question or two, and on the registry into which the handles go that it handed over. -/
theorem share_followsCore (env : Environment ω) (e : Enumeration) (driver : Driver)
    (function : DriverFunction) (total : UInt32) (hcore : f.core = f'.core) :
    let outcome := share env e driver function total f
    let outcome' := share env e driver function total f'
    outcome.1 = outcome'.1 ∧ outcome.2.1 = outcome'.2.1 ∧
      outcome.2.2.core = outcome'.2.2.core := by
  have hcounted := ask_followsCore env e.entry driver function 0 none hcore
  unfold share
  generalize ask env e.entry driver function 0 none f = counted at hcounted ⊢
  generalize ask env e.entry driver function 0 none f' = counted' at hcounted ⊢
  obtain ⟨result, available, f₁⟩ := counted
  obtain ⟨result', available', f₁'⟩ := counted'
  obtain ⟨rfl, rfl, hcore₁⟩ := hcounted
  dsimp only at hcore₁ ⊢
  split
  · exact ⟨rfl, rfl, hcore₁⟩
  · rename_i array _
    split
    · have hwritten := ask_followsCore env e.entry driver function
        (min available (e.requested - total)) (some (array.advance total.toNat)) hcore₁
      generalize ask env e.entry driver function (min available (e.requested - total))
        (some (array.advance total.toNat)) f₁ = written at hwritten ⊢
      generalize ask env e.entry driver function (min available (e.requested - total))
        (some (array.advance total.toNat)) f₁' = written' at hwritten ⊢
      obtain ⟨result₂, filled, f₂⟩ := written
      obtain ⟨result₂', filled', f₂'⟩ := written'
      obtain ⟨rfl, rfl, hcore₂⟩ := hwritten
      dsimp only at hcore₂ ⊢
      split
      · exact ⟨rfl, rfl, congrArg (fun c : Core ω => { c with
          registry := c.registry.adoptAll driver
            (c.memory.handlesAt (array.advance total.toNat) filled.toNat) }) hcore₂⟩
      · exact ⟨rfl, rfl, hcore₂⟩
    · exact ⟨rfl, rfl, hcore₁⟩

/-- What an enumeration collects depends on the core alone.  By induction over the drivers: each share
leaves the cores of both frames equal for the next. -/
theorem collect_followsCore (env : Environment ω) (e : Enumeration) (drivers : List Driver)
    (total : UInt32) (hcore : f.core = f'.core) :
    let outcome := collect env e drivers total f
    let outcome' := collect env e drivers total f'
    outcome.1 = outcome'.1 ∧ outcome.2.core = outcome'.2.core := by
  induction drivers generalizing total f f' with
  | nil => exact ⟨rfl, hcore⟩
  | cons driver rest ih =>
    unfold collect
    split
    · exact ⟨rfl, hcore⟩
    · split
      · exact ih total hcore
      · rename_i function _
        have hshare := share_followsCore env e driver function total hcore
        generalize share env e driver function total f = shared at hshare ⊢
        generalize share env e driver function total f' = shared' at hshare ⊢
        obtain ⟨result, count, f₁⟩ := shared
        obtain ⟨result', count', f₁'⟩ := shared'
        obtain ⟨rfl, rfl, hcore₁⟩ := hshare
        dsimp only at hcore₁ ⊢
        split
        · exact ih (total + count) hcore₁
        · exact ⟨rfl, hcore₁⟩

/-- What an enumeration answers and makes of the core depends on the core alone. -/
theorem run_followsCore (env : Environment ω) (entry : EntryPoint) (ready : List Driver)
    (count array : Option Location) : Rest.FollowsCore (run env entry ready count array) := by
  intro f f' hcore
  have hmemory : f.memory = f'.memory := congrArg Core.memory hcore
  unfold run
  split
  · exact ⟨rfl, hcore⟩
  · rename_i count
    split
    · exact ⟨rfl, hcore⟩
    · rw [hmemory]
      dsimp only
      have hcollect := collect_followsCore env ⟨entry, f'.memory.readCount count,
        if f'.memory.readCount count = 0 then none else array⟩ ready 0 hcore
      generalize collect env ⟨entry, f'.memory.readCount count,
        if f'.memory.readCount count = 0 then none else array⟩ ready 0 f = sum at hcollect ⊢
      generalize collect env ⟨entry, f'.memory.readCount count,
        if f'.memory.readCount count = 0 then none else array⟩ ready 0 f' = sum' at hcollect ⊢
      obtain ⟨answer, f₁⟩ := sum
      obtain ⟨answer', f₁'⟩ := sum'
      obtain ⟨rfl, hcore₁⟩ := hcollect
      dsimp only at hcore₁ ⊢
      cases answer with
      | ok total =>
        exact ⟨rfl, congrArg (fun c : Core ω =>
          { c with memory := c.memory.writeCount count total }) hcore₁⟩
      | error result => exact ⟨rfl, hcore₁⟩

end Enumeration

/-- A call through layers makes of the core what depends on the core alone. -/
theorem Dispatch.core_invoke_congr (env : Environment ω) (stack : LayerStack) (call : Call)
    {f f' : Frame ω} (hcore : f.core = f'.core) :
    (invoke env stack call f).2.core = (invoke env stack call f').2.core := by
  have hkinds : f.layers.kinds = f'.layers.kinds := congrArg Core.kinds hcore
  have hregistry : f.registry = f'.registry := congrArg Core.registry hcore
  have hforward := forward_followsCore env call
  refine (LayerStack.run_spec env call hforward stack f).1.trans (Eq.trans ?_
    (LayerStack.run_spec env call hforward stack f').1.symm)
  rw [hkinds, hregistry, hcore, (hforward f f' hcore).2]

namespace Session

/-- Whether a driver can be initialised depends on the core alone. -/
theorem initDriver_followsCore (env : Environment ω) (entry : EntryPoint) (flags : UInt32)
    (driver : Driver) : Rest.FollowsCore (initDriver env entry flags driver) := by
  intro f f' hcore
  unfold initDriver
  dsimp only
  split
  · split
    · exact Frame.invoke_followsCore env driver _ entry _ f f' hcore
    · exact ⟨rfl, hcore⟩
  · exact ⟨rfl, hcore⟩

/-- What an initialisation makes of the drivers and of the core depends on the core alone, of which the
messages about the answers are no part. -/
theorem initDrivers_followsCore (env : Environment ω) (entry : EntryPoint) (flags : UInt32)
    (drivers : List LoadedDriver) {f f' : Frame ω} (hcore : f.core = f'.core) :
    (initDrivers env entry flags drivers f).1 = (initDrivers env entry flags drivers f').1 ∧
      (initDrivers env entry flags drivers f).2.core
        = (initDrivers env entry flags drivers f').2.core := by
  induction drivers generalizing f f' with
  | nil => exact ⟨rfl, hcore⟩
  | cons d rest ih =>
    unfold initDrivers
    split
    · obtain ⟨hstatus, hcore₁⟩ := initDriver_followsCore env entry flags d.driver f f' hcore
      dsimp only
      rw [hstatus]
      have hlogged : ∀ text, Frame.core
          (if (initDriver env entry flags d.driver f').1.isError then
            (initDriver env entry flags d.driver f).2.write .warn text
          else (initDriver env entry flags d.driver f).2)
        = Frame.core
          (if (initDriver env entry flags d.driver f').1.isError then
            (initDriver env entry flags d.driver f').2.write .warn text
          else (initDriver env entry flags d.driver f').2) := by
        intro text
        split
        · exact hcore₁
        · exact hcore₁
      obtain ⟨hdrivers, hcore₂⟩ := ih (hlogged _)
      exact ⟨congrArg (_ :: ·) hdrivers, hcore₂⟩
    · obtain ⟨hdrivers, hcore₁⟩ := ih hcore
      exact ⟨congrArg (d :: ·) hdrivers, hcore₁⟩

end Session

/-! ### Layers of the same kinds -/

namespace Layers

variable {layers layers' : Layers}

/-- Layers that are added have kinds of their own. -/
theorem kinds_append (layers more : Layers) :
    (layers ++ more).kinds = layers.kinds ++ more.kinds :=
  List.map_append

/-- Layers of the same kinds have the same checkers. -/
theorem checkers_congr (hkinds : layers.kinds = layers'.kinds) (id : LayerId) :
    (layers.validation? id).map (·.checkers) = (layers'.validation? id).map (·.checkers) := by
  have hchecks : ∀ layers : Layers, (layers.validation? id).map (·.checkers)
      = layers.kinds[id.number]?.bind fun
        | .validation checkers => some checkers
        | _ => none := by
    intro layers
    rw [getElem?_kinds]
    unfold validation?
    cases layers.get? id with
    | none => rfl
    | some layer => cases layer <;> rfl
  rw [hchecks, hchecks, hkinds]

end Layers

/-! ### Sessions that are alike -/

namespace Session

/-- Adding a checker changes the layers alone, and their kinds by what the checkers were. -/
theorem addChecker_kinds (s : Session ω) (id : LayerId) (checker : Checker) :
    ∃ layers, (s.addChecker id checker).2 = { s with layers := layers } ∧
      layers.kinds = match (s.layers.validation? id).map (·.checkers) with
        | none => s.layers.kinds
        | some checkers =>
          if checkers.length < ValidationLayer.capacity then
            s.layers.kinds.set id.number (.validation (checkers ++ [checker]))
          else s.layers.kinds := by
  unfold addChecker ValidationLayer.addChecker
  cases s.layers.validation? id with
  | none => exact ⟨s.layers, rfl, rfl⟩
  | some layer =>
    by_cases hroom : layer.checkers.length < ValidationLayer.capacity
    · refine ⟨s.layers.put id
        (.validation { layer with checkers := layer.checkers ++ [checker] }), ?_, ?_⟩
      · dsimp only
        rw [if_pos hroom]
      · exact List.map_set.trans (if_pos hroom).symm
    · refine ⟨s.layers, ?_, (if_neg hroom).symm⟩
      dsimp only
      rw [if_neg hroom]

/-- Loading a driver under a new name puts together what the negotiations come to, whenever they take
place: either the driver is loaded last, or nothing happens but look-ups and messages. -/
theorem addDriver_new (s : Session ω) (env : Environment ω) {name : String} (module : DriverModule)
    (hnew : s.loader.builder.find? name = none) (a' : Ambient ω) :
    ∃ a, s.toAmbient.Idles a ∧ s.addDriver env name module =
      match Builder.assemble (fun category =>
          (Negotiation.negotiate (env.exportsOf module) module category a').1) name module
          s.nextDriver s.loader.builder with
      | .error failure => (.error (.build failure), { s with toAmbient := a })
      | .ok driver =>
        (.ok driver, { s with
          toAmbient := a
          nextDriver := s.nextDriver + 1
          loader := { s.loader with
            builder := ⟨Builder.place driver s.loader.builder.drivers⟩
            drivers := s.loader.drivers ++ [.fresh driver] } }) := by
  obtain ⟨a, hidles, hbuild⟩ := Builder.build_eq (env.exportsOf module) module s.nextDriver hnew
    s.toAmbient a'
  refine ⟨a, hidles, ?_⟩
  have hcontains : ¬s.loader.builder.contains name = true := by simp [Builder.contains, hnew]
  unfold addDriver
  rw [if_neg hcontains, hbuild]
  cases Builder.assemble (fun category =>
    (Negotiation.negotiate (env.exportsOf module) module category a').1) name module s.nextDriver
    s.loader.builder <;> rfl

/-- Two sessions have the same loader, the same references held outside, layers of the same kinds, and
the same outside, and invoked the same driver functions. -/
structure Alike (s s' : Session ω) : Prop where
  loader : s.loader = s'.loader
  nextDriver : s.nextDriver = s'.nextDriver
  heldDrivers : s.heldDrivers = s'.heldDrivers
  kinds : s.layers.kinds = s'.layers.kinds
  host : s.host = s'.host
  invocations : s.trace.invocations = s'.trace.invocations

namespace Alike

variable {s s' s'' : Session ω}

theorem refl (s : Session ω) : s.Alike s := ⟨rfl, rfl, rfl, rfl, rfl, rfl⟩

theorem symm (h : s.Alike s') : s'.Alike s :=
  ⟨h.loader.symm, h.nextDriver.symm, h.heldDrivers.symm, h.kinds.symm, h.host.symm,
    h.invocations.symm⟩

theorem trans (first : s.Alike s') (second : s'.Alike s'') : s.Alike s'' :=
  ⟨first.loader.trans second.loader, first.nextDriver.trans second.nextDriver,
    first.heldDrivers.trans second.heldDrivers, first.kinds.trans second.kinds,
    first.host.trans second.host, first.invocations.trans second.invocations⟩

/-- A session that only looked up symbols and logged is like it was. -/
theorem of_idles (h : s.Idles s') : s.Alike s' :=
  ⟨h.loader.symm, h.nextDriver.symm, h.heldDrivers.symm,
    (congrArg Layers.kinds h.ambient.layers).symm, h.ambient.host.symm, h.ambient.invocations.symm⟩

/-- Looking up symbols and logging leaves sessions alike. -/
theorem idle (h : s.Alike s') {a a' : Ambient ω} (hidles : s.toAmbient.Idles a)
    (hidles' : s'.toAmbient.Idles a') :
    Alike { s with toAmbient := a } { s' with toAmbient := a' } :=
  ⟨h.loader, h.nextDriver, h.heldDrivers,
    (congrArg Layers.kinds hidles.layers).trans
      (h.kinds.trans (congrArg Layers.kinds hidles'.layers).symm),
    hidles.host.trans (h.host.trans hidles'.host.symm),
    hidles.invocations.trans (h.invocations.trans hidles'.invocations.symm)⟩

/-- Alike sessions stay alike whatever is logged. -/
theorem write (h : s.Alike s') (level : LogLevel) (message message' : String) :
    (s.write level message).Alike (s'.write level message') :=
  ⟨h.loader, h.nextDriver, h.heldDrivers, h.kinds, h.host, h.invocations⟩

/-- The same change to both loaders leaves sessions alike. -/
theorem mapLoader (h : s.Alike s') (f : Loader → Loader) :
    Alike { s with loader := f s.loader } { s' with loader := f s'.loader } :=
  ⟨congrArg f h.loader, h.nextDriver, h.heldDrivers, h.kinds, h.host, h.invocations⟩

/-- Calls on alike sessions work on frames with one core. -/
theorem frame (h : s.Alike s') (memory : Memory) :
    (s.frame memory).core = (s'.frame memory).core := by
  show Core.mk s.layers.kinds s.loader.registry memory s.host s.trace.invocations
    = Core.mk s'.layers.kinds s'.loader.registry memory s'.host s'.trace.invocations
  rw [h.kinds, h.loader, h.host, h.invocations]

/-- Sessions that go on with frames of one core are alike. -/
theorem resume (h : s.Alike s') {f f' : Frame ω} (hcore : f.core = f'.core) :
    (s.resume f).Alike (s'.resume f') := by
  have hregistry : f.registry = f'.registry := congrArg Core.registry hcore
  refine ⟨?_, h.nextDriver, h.heldDrivers, congrArg Core.kinds hcore, congrArg Core.host hcore,
    congrArg Core.invocations hcore⟩
  show { s.loader with registry := f.registry } = { s'.loader with registry := f'.registry }
  rw [h.loader, hregistry]

/-! ### One operation -/

/-- Loading a driver gives the same answer. -/
theorem addDriver (h : s.Alike s') (env : Environment ω) (name : String) (module : DriverModule) :
    (s.addDriver env name module).1 = (s'.addDriver env name module).1 ∧
      (s.addDriver env name module).2.Alike (s'.addDriver env name module).2 := by
  cases hfind : s.loader.builder.find? name with
  | some held =>
    have hcontains : s.loader.builder.contains name = true := by simp [Builder.contains, hfind]
    unfold Session.addDriver
    rw [← h.loader, if_pos hcontains, if_pos hcontains]
    exact ⟨rfl, h⟩
  | none =>
    obtain ⟨a, hidles, hadd⟩ := s.addDriver_new env module hfind s.toAmbient
    obtain ⟨a', hidles', hadd'⟩ := s'.addDriver_new env module (h.loader ▸ hfind) s.toAmbient
    have hidled := h.idle hidles hidles'
    rw [hadd, hadd', ← h.loader, ← h.nextDriver]
    cases Builder.assemble (fun category =>
      (Negotiation.negotiate (env.exportsOf module) module category s.toAmbient).1) name module
      s.nextDriver s.loader.builder with
    | error failure =>
      exact ⟨rfl, rfl, rfl, hidled.heldDrivers, hidled.kinds, hidled.host, hidled.invocations⟩
    | ok driver =>
      exact ⟨rfl, rfl, rfl, hidled.heldDrivers, hidled.kinds, hidled.host, hidled.invocations⟩

/-- Initialising a category does the same to alike sessions. -/
theorem init (h : s.Alike s') (env : Environment ω) (category : Category) (flags : UInt32) :
    (s.init env category flags).2.Alike (s'.init env category flags).2 := by
  unfold Session.init
  split
  · exact h
  · rename_i entry _
    rw [h.loader]
    obtain ⟨hdrivers, hcore⟩ := initDrivers_followsCore env entry flags s'.loader.drivers
      (h.frame Memory.empty)
    dsimp only
    rw [hdrivers]
    exact (h.resume hcore).mapLoader fun l : Loader =>
      { l with drivers := (initDrivers env entry flags s'.loader.drivers
          (s'.frame Memory.empty)).1 }

/-- Enumerating drivers does the same to alike sessions. -/
theorem driverGet (h : s.Alike s') (env : Environment ω) (category : Category)
    (count array : Option Location) (memory : Memory) :
    (s.driverGet env category count array memory).2.2.Alike
      (s'.driverGet env category count array memory).2.2 := by
  unfold Session.driverGet
  split
  · exact h
  · rename_i entry _
    rw [h.loader]
    exact h.resume (Enumeration.run_followsCore env entry _ count array _ _ (h.frame memory)).2

/-- A routed call does the same to alike sessions. -/
theorem call (h : s.Alike s') (env : Environment ω) (entry : EntryPoint)
    (args : List CallArgument) (memory : Memory) :
    (s.call env entry args memory).2.2.Alike (s'.call env entry args memory).2.2 := by
  unfold Session.call
  rw [h.loader]
  exact h.resume (Dispatch.core_invoke_congr env _ _ (h.frame memory))

/-- Binding a handle does the same to alike sessions. -/
theorem registerHandle (h : s.Alike s') (owner object : Handle) :
    (s.registerHandle owner object).2.Alike (s'.registerHandle owner object).2 := by
  unfold Session.registerHandle setRegistry
  rw [h.loader]
  split
  · exact h
  · split
    · exact h.mapLoader fun _ => { s'.loader with registry := _ }
    · exact h

/-- A driver is referred to as often in one of two alike sessions as in the other. -/
theorem references (h : s.Alike s') (driver : Driver) :
    s.references driver = s'.references driver := by
  unfold Session.references Shared.holdsOf
  rw [h.loader, h.heldDrivers]

/-- Unloading does the same to alike sessions: the same drivers can go, and whether their tables can be
released shows in the log alone. -/
theorem unload (h : s.Alike s') (name : String) :
    (s.unload name).2.Alike (s'.unload name).2 := by
  unfold Session.unload
  rw [h.loader]
  split
  · exact h
  · rename_i d _
    dsimp only
    rw [h.references]
    split
    · exact h.write ..
    · rename_i purged _
      have hdropped := h.mapLoader fun _ => dropDriver { s'.loader with registry := purged } name
      have hreleased := releaseTables_idles d.driver
        { s with loader := dropDriver { s'.loader with registry := purged } name }
      have hreleased' := releaseTables_idles d.driver
        { s' with loader := dropDriver { s'.loader with registry := purged } name }
      have hboth := (of_idles hreleased).symm.trans (hdropped.trans (of_idles hreleased'))
      split
      all_goals
        rename_i heq
        rw [heq] at hboth
        split
      all_goals
        rename_i heq'
        rw [heq'] at hboth
        exact ⟨hboth.loader, hboth.nextDriver, hboth.heldDrivers, hboth.kinds, hboth.host,
          hboth.invocations⟩

/-- A teardown does the same to alike sessions. -/
theorem teardown (h : s.Alike s') : s.teardown.2.Alike s'.teardown.2 :=
  (of_idles s.teardown_idles).symm.trans
    ((h.mapLoader emptied).trans (of_idles s'.teardown_idles))

/-! ### Layers, and references held outside -/

/-- Changing a tracing layer does the same to alike sessions, and shows in no kind. -/
theorem changeTracing (h : s.Alike s') (id : LayerId) (change : TracingChange) :
    (s.changeTracing id change).2.Alike (s'.changeTracing id change).2 := by
  obtain ⟨hkinds, hhost, htrace⟩ := Ambient.changeTracing_keeps id change s.toAmbient
  obtain ⟨hkinds', hhost', htrace'⟩ := Ambient.changeTracing_keeps id change s'.toAmbient
  exact ⟨h.loader, h.nextDriver, h.heldDrivers, hkinds.trans (h.kinds.trans hkinds'.symm),
    hhost.trans (h.host.trans hhost'.symm),
    (congrArg Trace.invocations htrace).trans
      (h.invocations.trans (congrArg Trace.invocations htrace').symm)⟩

/-- Making a layer does the same to alike sessions. -/
theorem createLayer (h : s.Alike s') (layer : Layer) :
    (s.createLayer layer).2.Alike (s'.createLayer layer).2 := by
  refine ⟨h.loader, h.nextDriver, h.heldDrivers, ?_, h.host, h.invocations⟩
  exact (Layers.kinds_append ..).trans ((congrArg (· ++ _) h.kinds).trans
    (Layers.kinds_append ..).symm)

/-- Pushing a layer does the same to alike sessions. -/
theorem pushLayer (h : s.Alike s') (id : LayerId) :
    (s.pushLayer id).2.Alike (s'.pushLayer id).2 := by
  unfold Session.pushLayer
  rw [h.loader]
  split
  · exact h
  · exact (h.mapLoader fun _ => { s'.loader with stack := _ }).write ..

/-- Inserting a layer does the same to alike sessions, with the same answer. -/
theorem insertLayer (h : s.Alike s') (index : Nat) (id : LayerId) :
    (s.insertLayer index id).1 = (s'.insertLayer index id).1 ∧
      (s.insertLayer index id).2.Alike (s'.insertLayer index id).2 := by
  unfold Session.insertLayer
  rw [h.loader]
  split
  · exact ⟨rfl, h⟩
  · exact ⟨rfl, h⟩
  · exact ⟨rfl, (h.mapLoader fun _ => { s'.loader with stack := _ }).write ..⟩

/-- Switching tracing on does the same to alike sessions. -/
theorem enableTracing (h : s.Alike s') : s.enableTracing.2.Alike s'.enableTracing.2 := by
  obtain ⟨hanswer, hinserted⟩ := h.insertLayer 0 s'.loader.tracing
  unfold Session.enableTracing
  rw [h.loader]
  generalize s.insertLayer 0 s'.loader.tracing = inserted at hanswer hinserted ⊢
  generalize s'.insertLayer 0 s'.loader.tracing = inserted' at hanswer hinserted ⊢
  obtain ⟨answer, t⟩ := inserted
  obtain ⟨answer', t'⟩ := inserted'
  obtain rfl : answer = answer' := hanswer
  cases answer with
  | error failure => exact hinserted
  | ok _ =>
    show (t.changeTracing t.loader.tracing _).2.Alike (t'.changeTracing t'.loader.tracing _).2
    rw [hinserted.loader]
    exact hinserted.changeTracing t'.loader.tracing (.setActive true)

/-- Switching tracing off does the same to alike sessions. -/
theorem disableTracing (h : s.Alike s') : s.disableTracing.Alike s'.disableTracing := by
  unfold Session.disableTracing
  rw [h.loader]
  exact h.changeTracing s'.loader.tracing (.setActive false)

/-- Adding a checker does the same to alike sessions. -/
theorem addChecker (h : s.Alike s') (id : LayerId) (checker : Checker) :
    (s.addChecker id checker).2.Alike (s'.addChecker id checker).2 := by
  obtain ⟨layers, heq, hkinds⟩ := s.addChecker_kinds id checker
  obtain ⟨layers', heq', hkinds'⟩ := s'.addChecker_kinds id checker
  rw [heq, heq']
  refine ⟨h.loader, h.nextDriver, h.heldDrivers, ?_, h.host, h.invocations⟩
  show layers.kinds = layers'.kinds
  rw [hkinds, hkinds', Layers.checkers_congr h.kinds, h.kinds]

/-- Taking a reference to a driver does the same to alike sessions. -/
theorem hold (h : s.Alike s') (name : String) : (s.hold name).2.Alike (s'.hold name).2 := by
  unfold Session.hold
  rw [h.loader]
  split
  · exact h
  · exact ⟨rfl, h.nextDriver, congrArg (· ++ _) h.heldDrivers, h.kinds, h.host, h.invocations⟩

/-- Borrowing a record does the same to alike sessions. -/
theorem holdRecord (h : s.Alike s') (handle : Handle) :
    (s.holdRecord handle).2.Alike (s'.holdRecord handle).2 := by
  unfold Session.holdRecord
  rw [h.loader]
  split
  · exact h
  · exact h.mapLoader fun _ => { s'.loader with registry := _ }

/-- **The same operation does the same to sessions that are alike.** -/
theorem step (h : s.Alike s') (env : Environment ω) (operation : Operation) :
    (s.step env operation).Alike (s'.step env operation) := by
  cases operation with
  | addDriver name module => exact (h.addDriver env name module).2
  | init category flags => exact h.init env category flags
  | driverGet category count array memory => exact h.driverGet env category count array memory
  | call entry args memory => exact h.call env entry args memory
  | registerHandle owner object => exact h.registerHandle owner object
  | unload name => exact h.unload name
  | teardown => exact h.teardown
  | enableTracing => exact h.enableTracing
  | disableTracing => exact h.disableTracing
  | createLayer layer => exact h.createLayer layer
  | pushLayer id => exact h.pushLayer id
  | insertLayer index id => exact (h.insertLayer index id).2
  | clearLayers => exact h.mapLoader fun l => { l with stack := [] }
  | changeTracing id change => exact h.changeTracing id change
  | addChecker id checker => exact h.addChecker id checker
  | hold name => exact h.hold name
  | holdRecord handle => exact h.holdRecord handle
  | dropHeld =>
    have hreclaimed := h.mapLoader fun l => { l with registry := l.registry.reclaim }
    exact ⟨hreclaimed.loader, h.nextDriver, rfl, h.kinds, h.host, h.invocations⟩

/-- **The same history does the same to sessions that are alike.** -/
theorem after (h : s.Alike s') (env : Environment ω) (history : History) :
    (s.after env history).Alike (s'.after env history) := by
  induction history generalizing s s' with
  | nil => exact h
  | cons operation rest ih => exact ih (h.step env operation)

end Alike
end Session

end DriverLoader
