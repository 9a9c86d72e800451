/-
# A call through the layer chain

Each layer does one of two things with a call (`Interception`): it rejects the call and answers it
itself, or it runs the rest of the chain exactly once on a frame with the same core and the same
counters.  By induction over the stack, what a whole chain does is decided by the first layer that
rejects (`run_spec`): if there is one, its code is the answer and the terminal is not reached, and
otherwise the terminal decides about the core and the answer.

The one exception is a probe that replaces answers.  A stack without such a probe relays
(`LayerStack.Relays`); tracing and validation layers always do.  A stack is honest if moreover none of
its layers rejects a call with the code of success, so that a success can only come from a driver
(`rejection?_ne_success`); the built-in checkers never do that.
-/

import DriverLoader.Proofs.Interception.Tally

namespace DriverLoader

namespace LayerKind

/-- The code with which a layer of this kind rejects a call: the first of a validation layer's
checkers that rejects it decides. -/
def rejection? (isLive : Handle → Bool) (call : Call) : LayerKind → Option ResultCode
  | tracing => none
  | validation checkers => checkers.findSome? (·.verdict isLive call.entry call.args)
  | probe layer =>
    match layer.behaviour with
    | .refuse code => some code
    | _ => none

/-- A layer of this kind gives back the answer that it got. -/
def relays : LayerKind → Bool
  | tracing | validation _ => true
  | probe layer =>
    match layer.behaviour with
    | .replace _ => false
    | _ => true

end LayerKind

/-- A checker rejects calls with codes other than success. -/
def Checker.honest : Checker → Bool
  | observer _ (some code) _ => !code.isSuccess
  | _ => true

/-- A layer of this kind gives back the answer that it got, and calls no rejection a success. -/
def LayerKind.honest : LayerKind → Bool
  | tracing => true
  | validation checkers => checkers.all (·.honest)
  | probe layer =>
    match layer.behaviour with
    | .refuse code => !code.isSuccess
    | .replace _ => false
    | _ => true

namespace LayerStack

/-- The code with which the layers of a stack reject a call: the outermost that rejects it
decides. -/
def rejection? (kinds : List LayerKind) (isLive : Handle → Bool) (call : Call)
    (stack : LayerStack) : Option ResultCode :=
  stack.findSome? fun id => kinds[id.number]?.bind (·.rejection? isLive call)

/-- Every layer of a stack gives back the answer that it got. -/
def Relays (kinds : List LayerKind) (stack : LayerStack) : Prop :=
  ∀ id ∈ stack, kinds[id.number]?.all (·.relays) = true

/-- Every layer of a stack is honest. -/
def Honest (kinds : List LayerKind) (stack : LayerStack) : Prop :=
  ∀ id ∈ stack, kinds[id.number]?.all (·.honest) = true

end LayerStack

/-- The check for null arguments never rejects a call with "success". -/
theorem Checker.nullVerdict_ne_success (entry : EntryPoint) (args : List CallArgument) :
    nullVerdict entry args ≠ some .success := by
  unfold nullVerdict
  dsimp only
  split
  · decide
  · split
    · decide
    · nofun

/-- No honest checker rejects a call with "success". -/
theorem Checker.verdict_ne_success {checker : Checker} (hhonest : checker.honest = true)
    (isLive : Handle → Bool) (entry : EntryPoint) (args : List CallArgument) :
    checker.verdict isLive entry args ≠ some .success := by
  intro hverdict
  cases checker with
  | parameter => exact nullVerdict_ne_success entry args hverdict
  | handleLifetime =>
    obtain ⟨_, _, hcode⟩ := Option.map_eq_some_iff.1 hverdict
    exact absurd hcode (by decide)
  | silent name => cases hverdict
  | observer name reject only =>
    obtain ⟨-, rfl⟩ := Option.ite_none_right_eq_some.1 hverdict
    simp [honest, ResultCode.isSuccess] at hhonest

/-- No honest layer rejects a call with "success". -/
theorem LayerKind.rejection?_ne_success {kind : LayerKind} (hhonest : kind.honest = true)
    (isLive : Handle → Bool) (call : Call) : kind.rejection? isLive call ≠ some .success := by
  intro hrejects
  cases kind with
  | tracing => cases hrejects
  | validation checkers =>
    obtain ⟨checker, hmem, hverdict⟩ := List.exists_of_findSome?_eq_some hrejects
    exact Checker.verdict_ne_success (List.all_eq_true.1 hhonest checker hmem) _ _ _ hverdict
  | probe layer =>
    obtain ⟨name, behaviour⟩ := layer
    cases behaviour with
    | refuse code =>
      obtain rfl := Option.some.inj hrejects
      simp [honest, ResultCode.isSuccess] at hhonest
    | _ => cases hrejects

/-- An honest layer gives back the answer that it got. -/
theorem LayerKind.relays_of_honest {kind : LayerKind} (hhonest : kind.honest = true) :
    kind.relays = true := by
  cases kind with
  | tracing => rfl
  | validation checkers => rfl
  | probe layer =>
    obtain ⟨name, behaviour⟩ := layer
    cases behaviour with
    | replace code => cases hhonest
    | _ => rfl

/-- The layers that a loader makes itself are honest, whatever they are configured to check. -/
theorem LayerKind.honest_ofConfig (config : ValidationConfig) :
    (Layer.validation (ValidationLayer.ofConfig config)).kind.honest = true := by
  obtain ⟨parameters, lifetime⟩ := config
  cases parameters <;> cases lifetime <;> rfl

namespace LayerStack

/-- A stack of honest layers gives back the answer that it got. -/
theorem Honest.relays {kinds : List LayerKind} {stack : LayerStack} (hhonest : stack.Honest kinds) :
    stack.Relays kinds := by
  intro id hmem
  rw [Option.all_eq_true]
  exact fun kind hkind =>
    LayerKind.relays_of_honest ((Option.all_eq_true ..).1 (hhonest id hmem) kind hkind)

/-- No rejection by an honest stack is a success. -/
theorem rejection?_ne_success {kinds : List LayerKind} {stack : LayerStack}
    (hhonest : stack.Honest kinds) (isLive : Handle → Bool) (call : Call) :
    stack.rejection? kinds isLive call ≠ some .success := by
  intro hrejects
  obtain ⟨id, hmem, hrejects⟩ := List.exists_of_findSome?_eq_some hrejects
  obtain ⟨kind, hkind, hrejects⟩ := Option.bind_eq_some_iff.1 hrejects
  have hall := hhonest id hmem
  rw [hkind] at hall
  exact LayerKind.rejection?_ne_success hall isLive call hrejects

end LayerStack

variable {ω : Type}

/-- What the rest of a chain answers, and what it makes of the core, depends on the core alone. -/
def Rest.FollowsCore (next : Rest ω) : Prop :=
  ∀ s s' : Frame ω, s.core = s'.core →
    (next s).1 = (next s').1 ∧ (next s).2.core = (next s').2.core

/-- What a layer with a verdict on a call makes of it, with `next` as the rest of the chain: it rejects
the call, which it counts if it is the blamed layer, and leaves the core alone, or the rest runs once on
core and counters as they were. -/
inductive Interception (verdict : Option ResultCode) (relays : Bool) (blamed : Option LayerId)
    (next : Rest ω) (s : Frame ω) (outcome : ResultCode × Frame ω) : Prop where
  | rejected (code : ResultCode) (verdict_eq : verdict = some code) (result_eq : outcome.1 = code)
      (core_eq : outcome.2.core = s.core) (tally_eq : outcome.2.tally = s.tally.blame blamed)
  | passed (s' : Frame ω) (verdict_eq : verdict = none) (before : s'.core = s.core)
      (after : outcome.2.core = (next s').2.core)
      (result_eq : relays = true → outcome.1 = (next s').1)
      (tally_before : s'.tally = s.tally) (tally_after : outcome.2.tally = (next s').2.tally)

/-! ### What callbacks leave as it is -/

section Callbacks

variable {α : Type} {view : Frame ω → α} (hview : Frame.Undisturbed view) (call : Call)

include hview

namespace TracerCallbacks

/-- A prologue leaves an undisturbed view as it is, whatever it changes about tracing layers. -/
theorem view_prologue (env : Environment ω) (callbacks : TracerCallbacks) (s : Frame ω) :
    view (callbacks.prologue env call s).2 = view s := by
  unfold prologue
  split
  · exact hview.write ..
  · rfl
  · exact (hview.changeAll ..).trans (hview.record _ _ rfl)

/-- An epilogue leaves an undisturbed view as it is. -/
theorem view_epilogue (env : Environment ω) (result : ResultCode) (callbacks : TracerCallbacks)
    (data : Nat) (s : Frame ω) : view (callbacks.epilogue env call result data s) = view s := by
  unfold epilogue
  split
  · exact hview.write ..
  · rfl
  · exact (hview.changeAll ..).trans (hview.record _ _ rfl)

end TracerCallbacks

namespace TracingLayer

/-- The prologues of all tracers leave an undisturbed view as it is. -/
theorem view_prologues (env : Environment ω) (tracers : List Tracer) (s : Frame ω) :
    view (prologues env call tracers s).2 = view s := by
  induction tracers generalizing s with
  | nil => rfl
  | cons tracer rest ih => exact (ih _).trans (TracerCallbacks.view_prologue hview call env _ s)

/-- The epilogues of all tracers leave an undisturbed view as it is. -/
theorem view_epilogues (env : Environment ω) (result : ResultCode) (tracers : List (Tracer × Nat))
    (s : Frame ω) : view (epilogues env call result tracers s) = view s := by
  induction tracers generalizing s with
  | nil => rfl
  | cons pair rest ih =>
    exact (ih _).trans (TracerCallbacks.view_epilogue hview call env result _ pair.2 s)

end TracingLayer

namespace ValidationLayer

/-- A checker that is asked about a call leaves an undisturbed view as it is. -/
theorem view_ask (checker : Checker) (s : Frame ω) : view (ask call checker s) = view s := by
  unfold ask
  split
  · exact hview.record _ _ rfl
  · split
    · exact hview.write ..
    · rfl
  · rfl

/-- Checkers that are asked in a row, up to the first that rejects the call, leave an undisturbed view
as it is. -/
theorem view_reject? (checkers : List Checker) (s : Frame ω) :
    view (reject? call checkers s).2 = view s := by
  induction checkers generalizing s with
  | nil => rfl
  | cons checker rest ih =>
    unfold reject?
    split
    · exact view_ask hview call checker s
    · exact (ih _).trans (view_ask hview call checker s)

/-- Checkers that are told of a result leave an undisturbed view as it is. -/
theorem view_inform (result : ResultCode) (checkers : List Checker) (s : Frame ω) :
    view (inform call result checkers s) = view s := by
  unfold inform
  induction checkers generalizing s with
  | nil => rfl
  | cons checker rest ih =>
    refine (ih _).trans ?_
    cases checker with
    | observer name reject only => exact hview.record _ _ rfl
    | _ => rfl

end ValidationLayer
end Callbacks

/-! ### What one layer does -/

namespace ValidationLayer

/-- Asking the checkers finds the first verdict. -/
theorem reject?_verdict (call : Call) (checkers : List Checker) (s : Frame ω) :
    (reject? call checkers s).1.map Prod.snd
      = checkers.findSome? (·.verdict s.registry.isLive call.entry call.args) := by
  induction checkers generalizing s with
  | nil => rfl
  | cons checker rest ih =>
    unfold reject?
    rw [List.findSome?_cons]
    split
    · rename_i code hcode
      rw [hcode]
      rfl
    · rename_i hnone
      have hregistry : (ask call checker s).registry = s.registry :=
        congrArg Core.registry (view_ask Frame.core_undisturbed call checker s)
      rw [hnone, ← hregistry]
      exact ih _

/-- Counting a call leaves the core alone. -/
theorem core_updateValidation (s : Frame ω) (id : LayerId) {f : ValidationLayer → ValidationLayer}
    (hf : ∀ layer, (f layer).checkers = layer.checkers) :
    Frame.core { s with layers := s.layers.updateValidation id f } = s.core := by
  unfold Frame.core
  rw [Layers.kinds_updateValidation s.layers id hf]

/-- A validation layer rejects a call by the first verdict of its checkers, and counts the
rejection. -/
theorem intercept_spec (call : Call) (id : LayerId) (layer : ValidationLayer) (next : Rest ω)
    (s : Frame ω) :
    Interception (layer.checkers.findSome? (·.verdict s.registry.isLive call.entry call.args)) true
      (some id) next s (layer.intercept call id next s) := by
  have hchecked := core_updateValidation s id (f := countChecked) fun _ => rfl
  have htallied := Frame.tally_countChecked s id
  have hverdict := reject?_verdict call layer.checkers
    { s with layers := s.layers.updateValidation id countChecked }
  have hcore := view_reject? Frame.core_undisturbed call layer.checkers
    { s with layers := s.layers.updateValidation id countChecked }
  have htally := view_reject? Frame.tally_undisturbed call layer.checkers
    { s with layers := s.layers.updateValidation id countChecked }
  dsimp only [intercept]
  split
  · rename_i checker code s₁ heq
    rw [heq] at hverdict hcore htally
    refine .rejected code hverdict.symm rfl ?_ ?_
    · rw [Frame.core_write]
      exact (core_updateValidation s₁ id (f := countRejected) fun _ => rfl).trans
        (hcore.trans hchecked)
    · exact (Frame.tally_countRejected s₁ id).trans
        (congrArg (Tally.blame · (some id)) (htally.trans htallied))
  · rename_i s₁ heq
    rw [heq] at hverdict hcore htally
    exact .passed s₁ hverdict.symm (hcore.trans hchecked) (view_inform Frame.core_undisturbed ..)
      (fun _ => rfl) (htally.trans htallied) (view_inform Frame.tally_undisturbed ..)

end ValidationLayer

namespace TracingLayer

/-- A tracing layer rejects nothing. -/
theorem intercept_spec (env : Environment ω) (call : Call) (layer : TracingLayer) (next : Rest ω)
    (s : Frame ω) : Interception none true none next s (layer.intercept env call next s) :=
  .passed _ rfl (view_prologues Frame.core_undisturbed call env layer.observing s)
    (view_epilogues Frame.core_undisturbed ..) (fun _ => rfl)
    (view_prologues Frame.tally_undisturbed call env layer.observing s)
    (view_epilogues Frame.tally_undisturbed ..)

end TracingLayer

namespace ProbeLayer

/-- A probe rejects a call only if that is what it is there for, and counts nothing. -/
theorem intercept_spec (call : Call) (ahead : Nat) (probe : ProbeLayer) (next : Rest ω)
    (s : Frame ω) :
    Interception ((LayerKind.probe probe).rejection? s.registry.isLive call)
      (LayerKind.probe probe).relays none next s (probe.intercept call ahead next s) := by
  obtain ⟨name, behaviour⟩ := probe
  have hnoted : (s.record (.reached name call.entry.name ahead (notes call s.registry))).core
      = s.core := Frame.core_record s rfl
  cases behaviour with
  | pass => exact .passed s rfl rfl rfl (fun _ => rfl) rfl rfl
  | record => exact .passed _ rfl hnoted (Frame.core_record _ rfl) (fun _ => rfl) rfl rfl
  | inspect =>
    exact .passed _ rfl ((Frame.core_record _ rfl).trans hnoted) (Frame.core_record _ rfl)
      (fun _ => rfl) rfl rfl
  | refuse code => exact .rejected code rfl rfl hnoted (Tally.blame_none _).symm
  | replace code =>
    exact .passed _ rfl hnoted (Frame.core_record _ rfl) (fun h => absurd h Bool.false_ne_true) rfl
      rfl

end ProbeLayer

/-- The layer that counts the calls rejected by a layer of this kind, which is that layer itself or
none. -/
def LayerKind.blamed (id : LayerId) : LayerKind → Option LayerId
  | validation _ => some id
  | tracing | probe _ => none

namespace LayerStack

/-- **A layer rejects a call or runs the rest once.** -/
theorem intercept_spec (env : Environment ω) (call : Call) (id : LayerId) (ahead : Nat)
    (next : Rest ω) (s : Frame ω) :
    Interception (s.layers.kinds[id.number]?.bind (·.rejection? s.registry.isLive call))
      (s.layers.kinds[id.number]?.all (·.relays))
      (s.layers.kinds[id.number]?.bind (·.blamed id)) next s
      (intercept env call id ahead next s) := by
  rw [Layers.getElem?_kinds]
  unfold intercept
  split
  · rename_i layer hget
    rw [hget]
    exact TracingLayer.intercept_spec env call layer next s
  · rename_i layer hget
    rw [hget]
    exact ValidationLayer.intercept_spec call id layer next s
  · rename_i probe hget
    rw [hget]
    exact ProbeLayer.intercept_spec call ahead probe next s
  · rename_i hget
    rw [hget]
    exact .passed s rfl rfl rfl (fun _ => rfl) rfl rfl

/-- The stack's verdict is that of its outermost layer, or else that of the others. -/
theorem rejection?_cons (kinds : List LayerKind) (isLive : Handle → Bool) (call : Call)
    (id : LayerId) (rest : LayerStack) :
    rejection? kinds isLive call (id :: rest)
      = (kinds[id.number]?.bind (·.rejection? isLive call)).or
          (rejection? kinds isLive call rest) := by
  unfold rejection?
  rw [List.findSome?_cons]
  cases kinds[id.number]?.bind (·.rejection? isLive call) <;> rfl

/-- **The first rejection decides about a call.**  If there is one, the terminal is not reached and
the core stays; otherwise the core is what the terminal makes of it.  A stack that relays answers
with the code of the rejection, or else with the answer of the terminal. -/
theorem run_spec (env : Environment ω) (call : Call) {terminal : Rest ω}
    (hterminal : Rest.FollowsCore terminal) (stack : LayerStack) (s : Frame ω) :
    (run env call terminal stack s).2.core
        = (if (stack.rejection? s.layers.kinds s.registry.isLive call).isSome then s.core
            else (terminal s).2.core) ∧
      (stack.Relays s.layers.kinds →
        (run env call terminal stack s).1
          = (stack.rejection? s.layers.kinds s.registry.isLive call).getD (terminal s).1) := by
  induction stack generalizing s with
  | nil => exact ⟨rfl, fun _ => rfl⟩
  | cons id rest ih =>
    rw [rejection?_cons]
    cases intercept_spec env call id rest.length (run env call terminal rest) s with
    | rejected code hverdict hresult hcore htally =>
      rw [hverdict, Option.some_or]
      exact ⟨hcore, fun _ => hresult⟩
    | passed s' hverdict hbefore hafter hresult htallied htally =>
      obtain ⟨ihcore, ihresult⟩ := ih s'
      obtain ⟨hanswer, hterm⟩ := hterminal s' s hbefore
      have hkinds : s'.layers.kinds = s.layers.kinds := congrArg Core.kinds hbefore
      have hregistry : s'.registry = s.registry := congrArg Core.registry hbefore
      rw [hkinds, hregistry, hbefore, hterm] at ihcore
      rw [hkinds, hregistry, hanswer] at ihresult
      rw [hverdict, Option.none_or]
      refine ⟨hafter.trans ihcore, fun hrelays => ?_⟩
      exact (hresult (hrelays id List.mem_cons_self)).trans
        (ihresult fun other hmem => hrelays other (List.mem_cons_of_mem id hmem))

end LayerStack
end DriverLoader
