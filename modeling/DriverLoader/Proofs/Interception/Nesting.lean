/-
# Tracers nest

The tracers that observe a call are settled when the call reaches their layer.  From then on each of
them stands around the others and the rest of the chain like a scope (`Tracer.around`): its prologue is
run on the way in, and on the way out its epilogue, with the value of the prologue and the result from
inside.  A tracing layer is its tracers around the rest of the chain, the first outermost
(`TracingLayer.intercept_eq_foldr`), whatever the callbacks do to the layer meanwhile.

From one scope follows by induction which callbacks all of them run, in which order and with which
values (`Tracer.foldr_around_runs`).  `LayerStack.run_nests` is this for a tracing layer that stands
anywhere in a stack.
-/

import DriverLoader.Proofs.Dispatch.Settlement

namespace DriverLoader

variable {ω : Type}

/-- A callback that is run around a call: a prologue with the value that it gives, an epilogue with
the result and the value that it is given. -/
inductive Callback where
  | prologue (tracer : Tracer) (value : Nat)
  | epilogue (tracer : Tracer) (result : ResultCode) (value : Nat)

namespace Callback

/-- What a callback leaves in the trace: observers are noted, the other tracers only log. -/
def event? (call : Call) : Callback → Option Event
  | prologue tracer _ =>
    match tracer.callbacks with
    | .observer tag => some (.prologue tag call.entry.name)
    | .log | .silent => none
  | epilogue tracer result value =>
    match tracer.callbacks with
    | .observer tag => some (.epilogue tag call.entry.name result value)
    | .log | .silent => none

/-- Running a callback takes a frame to another. -/
inductive Takes (env : Environment ω) (call : Call) (s : Frame ω) : Callback → Frame ω → Prop
  | prologue (tracer : Tracer) :
    Takes env call s (.prologue tracer (tracer.callbacks.prologue env call s).1)
      (tracer.callbacks.prologue env call s).2
  | epilogue (tracer : Tracer) (result : ResultCode) (value : Nat) :
    Takes env call s (.epilogue tracer result value)
      (tracer.callbacks.epilogue env call result value s)

/-- Running callbacks one after another takes a frame to another. -/
inductive Runs (env : Environment ω) (call : Call) : List Callback → Frame ω → Frame ω → Prop
  | nil (s : Frame ω) : Runs env call [] s s
  | cons {callback : Callback} {callbacks : List Callback} {s s' s'' : Frame ω}
    (first : Takes env call s callback s') (rest : Runs env call callbacks s' s'') :
    Runs env call (callback :: callbacks) s s''

variable {env : Environment ω} {call : Call} {callback : Callback} {callbacks more : List Callback}
  {s s' s'' : Frame ω}

/-- One callback touches nothing but layers, log and trace. -/
theorem Takes.core (htakes : Takes env call s callback s') : s'.core = s.core := by
  cases htakes with
  | prologue tracer => exact TracerCallbacks.view_prologue Frame.core_undisturbed ..
  | epilogue tracer result value => exact TracerCallbacks.view_epilogue Frame.core_undisturbed ..

/-- One callback of an observer leaves one event, whatever it changes about tracing layers. -/
theorem Takes.trace (htakes : Takes env call s callback s') :
    s'.trace = (callback.event? call).toList ++ s.trace := by
  cases htakes with
  | prologue tracer =>
    obtain ⟨id, enabled, callbacks⟩ := tracer
    cases callbacks with
    | log => rfl
    | silent => rfl
    | observer tag => exact (Ambient.changeAll_keeps ..).2.2
  | epilogue tracer result value =>
    obtain ⟨id, enabled, callbacks⟩ := tracer
    cases callbacks with
    | log => rfl
    | silent => rfl
    | observer tag => exact (Ambient.changeAll_keeps ..).2.2

/-- Callbacks in a row leave the core alone. -/
theorem Runs.core (hruns : Runs env call callbacks s s') : s'.core = s.core := by
  induction hruns with
  | nil => rfl
  | cons first rest ih => exact ih.trans first.core

/-- The trace tells which observers were run, in which order. -/
theorem Runs.trace (hruns : Runs env call callbacks s s') :
    s'.trace = (callbacks.filterMap (·.event? call)).reverse ++ s.trace := by
  induction hruns with
  | nil => rfl
  | @cons callback callbacks s s' s'' first rest ih =>
    rw [ih, first.trace, List.filterMap_cons]
    cases callback.event? call with
    | none => rfl
    | some event => simp only [Option.toList_some, List.reverse_cons, List.append_assoc]

/-- One more callback is run after the others. -/
theorem Runs.concat (hruns : Runs env call callbacks s s') (hlast : Takes env call s' callback s'') :
    Runs env call (callbacks ++ [callback]) s s'' := by
  induction hruns with
  | nil => exact .cons hlast (.nil _)
  | cons first rest ih => exact .cons first (ih hlast)

end Callback

namespace Tracer

/-- A tracer around the rest of a chain. -/
def around (env : Environment ω) (call : Call) (tracer : Tracer) (next : Rest ω) : Rest ω := fun s =>
  let (value, s) := tracer.callbacks.prologue env call s
  let (result, s) := next s
  (result, tracer.callbacks.epilogue env call result value s)

/-- **What nested scopes run.**  The prologues come first, in order; then the rest of the chain runs
once; then come the epilogues in the reverse order, each with the value of its own prologue and the
result of the rest, which is the result of the whole. -/
theorem foldr_around_runs (env : Environment ω) (call : Call) (tracers : List Tracer) (next : Rest ω)
    (s : Frame ω) :
    ∃ (values : List Nat) (reached : Frame ω), values.length = tracers.length ∧
      Callback.Runs env call (List.zipWith .prologue tracers values) s reached ∧
      Callback.Runs env call
        (List.zipWith (.epilogue · (next reached).1 ·) tracers values).reverse
        (next reached).2 (tracers.foldr (around env call) next s).2 ∧
      (tracers.foldr (around env call) next s).1 = (next reached).1 := by
  induction tracers generalizing s with
  | nil => exact ⟨[], s, rfl, .nil _, .nil _, rfl⟩
  | cons tracer rest ih =>
    obtain ⟨values, reached, hlength, hentering, hleaving, hresult⟩ :=
      ih (tracer.callbacks.prologue env call s).2
    refine ⟨(tracer.callbacks.prologue env call s).1 :: values, reached,
      congrArg (· + 1) hlength, .cons (.prologue tracer) hentering, ?_, hresult⟩
    rw [List.zipWith_cons_cons, List.reverse_cons, ← hresult]
    rw [← hresult] at hleaving
    exact hleaving.concat (.epilogue tracer _ _)

end Tracer

namespace TracingLayer

/-- The epilogue of the last tracer runs last. -/
theorem epilogues_concat (env : Environment ω) (call : Call) (result : ResultCode)
    (tracers : List (Tracer × Nat)) (last : Tracer × Nat) (s : Frame ω) :
    epilogues env call result (tracers ++ [last]) s
      = last.1.callbacks.epilogue env call result last.2 (epilogues env call result tracers s) := by
  induction tracers generalizing s with
  | nil => rfl
  | cons pair rest ih => exact ih _

/-- **A tracing layer is its tracers around the rest of the chain.** -/
theorem intercept_eq_foldr (env : Environment ω) (call : Call) (layer : TracingLayer)
    (next : Rest ω) :
    layer.intercept env call next = layer.observing.foldr (Tracer.around env call) next := by
  unfold intercept
  induction layer.observing with
  | nil => rfl
  | cons tracer rest ih =>
    funext s
    rw [List.foldr_cons, ← ih]
    unfold Tracer.around
    dsimp only [prologues]
    rw [List.zip_cons_cons, List.reverse_cons, epilogues_concat]

/-- The tracers that observe a call are the enabled ones, in the order of registration, while the
layer is active. -/
theorem observing_of_active {layer : TracingLayer} (hactive : layer.active = true) :
    layer.observing = layer.tracers.filter (·.enabled) :=
  if_pos hactive

/-- A layer that is inactive, or has no enabled tracer, observes with none. -/
theorem observing_eq_nil {layer : TracingLayer}
    (hidle : layer.active = false ∨ layer.tracers.filter (·.enabled) = []) :
    layer.observing = [] := by
  unfold observing
  obtain hinactive | hnone := hidle
  · rw [hinactive]
    rfl
  · rw [hnone, ite_self]

end TracingLayer

namespace LayerStack

/-- A rejection answers a call and leaves the core alone, whatever stands behind the layers. -/
theorem run_of_rejection (env : Environment ω) (call : Call) (terminal : Rest ω) (stack : LayerStack)
    (s : Frame ω) {code : ResultCode}
    (hrejects : stack.rejection? s.layers.kinds s.registry.isLive call = some code) :
    (run env call terminal stack s).2.core = s.core ∧
      (stack.Relays s.layers.kinds → (run env call terminal stack s).1 = code) := by
  induction stack generalizing s with
  | nil => cases hrejects
  | cons id rest ih =>
    rw [rejection?_cons] at hrejects
    cases intercept_spec env call id rest.length (run env call terminal rest) s with
    | rejected code' hverdict hresult hcore htally =>
      rw [hverdict, Option.some_or, Option.some.injEq] at hrejects
      exact ⟨hcore, fun _ => hresult.trans hrejects⟩
    | passed s' hverdict hbefore hafter hresult htallied htally =>
      have hkinds : s'.layers.kinds = s.layers.kinds := congrArg Core.kinds hbefore
      have hregistry : s'.registry = s.registry := congrArg Core.registry hbefore
      rw [hverdict, Option.none_or, ← hkinds, ← hregistry] at hrejects
      obtain ⟨ihcore, ihresult⟩ := ih s' hrejects
      rw [hkinds] at ihresult
      refine ⟨hafter.trans (ihcore.trans hbefore), fun hrelays => ?_⟩
      exact (hresult (hrelays id List.mem_cons_self)).trans
        (ihresult fun other hmem => hrelays other (List.mem_cons_of_mem id hmem))

/-- A call that reaches a tracing layer goes on as its tracers have it. -/
theorem run_cons_tracing (env : Environment ω) (call : Call) (terminal : Rest ω) {id : LayerId}
    (inner : LayerStack) {s : Frame ω} {layer : TracingLayer}
    (hlayer : s.layers.get? id = some (.tracing layer)) :
    run env call terminal (id :: inner) s
      = layer.observing.foldr (Tracer.around env call) (run env call terminal inner) s := by
  rw [← TracingLayer.intercept_eq_foldr, run, intercept, hlayer]

/-- **Tracers nest.**  A call reaches a tracing layer, with any layers and any terminal behind it.

* If the layer is active then, the callbacks that are run are these and no others: the prologues of the
  tracers that are enabled then, in the order of registration; after the rest of the chain, which runs
  once, their epilogues in the reverse order, each with the value of its own prologue and with the result
  of the rest, which is also the answer.  Callbacks may change any tracing layer, this one included: it
  makes no difference to the call.  Nor does a rejection by a layer behind, whose code is then the result
  that the epilogues see.
* If the layer is inactive or has no enabled tracer, only the rest of the chain is run. -/
theorem run_nests (env : Environment ω) (call : Call) (terminal : Rest ω) (id : LayerId)
    (inner : LayerStack) (s : Frame ω) (layer : TracingLayer)
    (hlayer : s.layers.get? id = some (.tracing layer)) :
    let tracers := layer.tracers.filter (·.enabled)
    let outcome := run env call terminal (id :: inner) s
    (layer.active = true → ∃ (values : List Nat) (reached : Frame ω),
      let rest := run env call terminal inner reached
      let entering := List.zipWith Callback.prologue tracers values
      let leaving := (List.zipWith (Callback.epilogue · rest.1 ·) tracers values).reverse
      values.length = tracers.length ∧
        Callback.Runs env call entering s reached ∧
        reached.trace = (entering.filterMap (·.event? call)).reverse ++ s.trace ∧
        Callback.Runs env call leaving rest.2 outcome.2 ∧
        outcome.2.trace = (leaving.filterMap (·.event? call)).reverse ++ rest.2.trace ∧
        outcome.1 = rest.1 ∧
        ∀ code, inner.rejection? s.layers.kinds s.registry.isLive call = some code →
          outcome.2.core = s.core ∧ (inner.Relays s.layers.kinds → outcome.1 = code)) ∧
      (layer.active = false ∨ tracers = [] → outcome = run env call terminal inner s) := by
  intro tracers outcome
  have houtcome : outcome
      = layer.observing.foldr (Tracer.around env call) (run env call terminal inner) s :=
    run_cons_tracing env call terminal inner hlayer
  refine ⟨fun hactive => ?_, fun hidle => ?_⟩
  · rw [TracingLayer.observing_of_active hactive] at houtcome
    obtain ⟨values, reached, hlength, hentering, hleaving, hresult⟩ :=
      Tracer.foldr_around_runs env call tracers (run env call terminal inner) s
    rw [← houtcome] at hleaving hresult
    refine ⟨values, reached, hlength, hentering, hentering.trace, hleaving, hleaving.trace, hresult,
      fun code hrejects => ?_⟩
    have hkinds : reached.layers.kinds = s.layers.kinds := congrArg Core.kinds hentering.core
    have hregistry : reached.registry = s.registry := congrArg Core.registry hentering.core
    rw [← hkinds, ← hregistry] at hrejects
    obtain ⟨hcore, hcode⟩ := run_of_rejection env call terminal inner reached hrejects
    rw [hkinds] at hcode
    exact ⟨hleaving.core.trans (hcore.trans hentering.core),
      fun hrelays => hresult.trans (hcode hrelays)⟩
  · rw [TracingLayer.observing_eq_nil hidle] at houtcome
    exact houtcome

end LayerStack

/-! ### Tracers that meddle with their layer -/

namespace Dispatch.Sample

/-- An environment in which a prologue gives a hundred times the number of its observer, and that of
observer 1 moreover removes tracer 2, registers another one and switches the layer off. -/
def meddling : Environment Unit :=
  { environment with
    prologue := fun tag _ _ =>
      (tag * 100,
        if tag = 1 then
          [(⟨0⟩, .unregister ⟨2⟩), (⟨0⟩, .register (.observer 3)), (⟨0⟩, .setActive false)]
        else []) }

/-- The tracer of an observer, under the same number. -/
def tracer (tag : Nat) (enabled : Bool) : Tracer :=
  ⟨⟨tag.toUInt32⟩, enabled, .observer tag⟩

/-- A frame with an active tracing layer, two of whose three tracers are enabled, and a validation
layer. -/
def traced : Frame Unit :=
  { frame 1 0 with
    layers := [
      .tracing ⟨[tracer 1 true, tracer 7 false, tracer 2 true], ⟨8⟩, true⟩,
      .validation (.ofConfig ⟨true, true⟩)] }

/-- A call on a handle that nobody knows. -/
def stray : Call :=
  ⟨entry, .handle ⟨0x2000⟩ :: call.args.tail⟩

end Dispatch.Sample

namespace LayerStack

open Dispatch (Sample.meddling Sample.traced Sample.stray Sample.tracer)

/-- The second tracer is run to its end although the first has removed it and switched the layer off,
and although the validation layer rejects the call. -/
theorem run_nests_meddling :
    let outcome := run Sample.meddling Sample.stray (Dispatch.forward Sample.meddling Sample.stray)
      [⟨0⟩, ⟨1⟩] Sample.traced
    outcome.1 = .invalidArgument ∧ ∃ reached rest,
      Callback.Runs Sample.meddling Sample.stray
          [.prologue (Sample.tracer 1 true) 100, .prologue (Sample.tracer 2 true) 200]
          Sample.traced reached ∧
        Callback.Runs Sample.meddling Sample.stray
          [.epilogue (Sample.tracer 2 true) .invalidArgument 200,
            .epilogue (Sample.tracer 1 true) .invalidArgument 100] rest outcome.2 := by
  intro outcome
  obtain ⟨values, reached, hlength, hentering, -, hleaving, -, hresult, hrejected⟩ :=
    (run_nests Sample.meddling Sample.stray (Dispatch.forward Sample.meddling Sample.stray) ⟨0⟩ [⟨1⟩]
      Sample.traced ⟨[Sample.tracer 1 true, Sample.tracer 7 false, Sample.tracer 2 true], ⟨8⟩, true⟩
      rfl).1 rfl
  have hrelays : LayerStack.Relays Sample.traced.layers.kinds [⟨1⟩] := by
    unfold LayerStack.Relays
    decide
  have hcode : outcome.1 = .invalidArgument :=
    (hrejected .invalidArgument (by decide +kernel)).2 hrelays
  obtain ⟨first, second, rfl⟩ : ∃ first second, values = [first, second] := by
    match values, hlength with
    | [first, second], _ => exact ⟨first, second, rfl⟩
  have hvalues : first = 100 ∧ second = 200 := by
    cases hentering with
    | cons hfirst hrest =>
      cases hrest with
      | cons hsecond =>
        cases hfirst
        cases hsecond
        exact ⟨rfl, rfl⟩
  obtain ⟨rfl, rfl⟩ := hvalues
  rw [← hresult, hcode] at hleaving
  exact ⟨hcode, reached, _, hentering, hleaving⟩

/-- All that the observers note of it, latest first. -/
example :
    (run Sample.meddling Sample.stray (Dispatch.forward Sample.meddling Sample.stray) [⟨0⟩, ⟨1⟩]
      Sample.traced).2.trace
      = [.epilogue 1 "zeDeviceGet" .invalidArgument 100,
        .epilogue 2 "zeDeviceGet" .invalidArgument 200,
        .prologue 2 "zeDeviceGet", .prologue 1 "zeDeviceGet"] := rfl

end LayerStack
end DriverLoader
