/-
# Who rejects a call

A call through tracing and validation layers meets the checkers of all its layers one after another,
outermost layer first (`LayerStack.checkers`), and the first of them that rejects it decides
(`LayerStack.rejecter?`).  If there is one, its code is the answer, its layer counts the rejection, and no
driver, handle or memory is touched.  If there is none, the layers might as well not be there, but for
what tracers and checkers note: `invoke_rejecter`.

A probe can reject a call too, but counts nothing; `run_tally` says for any stack which layer counts.
-/

import DriverLoader.Proofs.Dispatch.Settlement

namespace DriverLoader

/-- The checkers that a layer of this kind asks, in order. -/
def LayerKind.checkers : LayerKind → List Checker
  | validation checkers => checkers
  | tracing | probe _ => []

namespace LayerStack

/-- The layer that counts the rejection of a call, if the outermost layer that rejects it does. -/
def blamed? (kinds : List LayerKind) (isLive : Handle → Bool) (call : Call)
    (stack : LayerStack) : Option LayerId :=
  (stack.find? fun id => (kinds[id.number]?.bind (·.rejection? isLive call)).isSome).bind fun id =>
    kinds[id.number]?.bind (·.blamed id)

/-- The checkers that a call can meet on its way, each with its layer, in the order in which they are
asked. -/
def checkers (kinds : List LayerKind) (stack : LayerStack) : List (LayerId × Checker) :=
  stack.flatMap fun id => (kinds[id.number]?.toList.flatMap (·.checkers)).map (id, ·)

/-- The layer of the first checker that rejects a call, with the code that this checker gives. -/
def rejecter? (kinds : List LayerKind) (isLive : Handle → Bool) (call : Call)
    (stack : LayerStack) : Option (LayerId × ResultCode) :=
  (stack.checkers kinds).findSome? fun (id, checker) =>
    (checker.verdict isLive call.entry call.args).map (id, ·)

/-- No layer of a stack is a probe. -/
def Plain (kinds : List LayerKind) (stack : LayerStack) : Prop :=
  ∀ id ∈ stack, ∀ probe, kinds[id.number]? ≠ some (.probe probe)

variable {ω : Type} {kinds : List LayerKind} {id : LayerId} {rest stack : LayerStack}

/-- **Who counts a rejection.**  A call moves the counter of the outermost layer that rejects it, if
that is a validation layer, and no other.  The layers behind decide with the checkers and handles that
the call started with. -/
theorem run_tally (env : Environment ω) (call : Call) {terminal : Rest ω}
    (hterminal : ∀ s, (terminal s).2.tally = s.tally) (stack : LayerStack) (s : Frame ω) :
    (run env call terminal stack s).2.tally
      = s.tally.blame (stack.blamed? s.layers.kinds s.registry.isLive call) := by
  induction stack generalizing s with
  | nil => exact (hterminal s).trans (Tally.blame_none _).symm
  | cons id rest ih =>
    unfold blamed?
    rw [List.find?_cons]
    cases intercept_spec env call id rest.length (run env call terminal rest) s with
    | rejected code hverdict hresult hcore htally =>
      rw [hverdict]
      exact htally
    | passed s' hverdict hbefore hafter hresult htallied htally =>
      have hkinds : s'.layers.kinds = s.layers.kinds := congrArg Core.kinds hbefore
      have hregistry : s'.registry = s.registry := congrArg Core.registry hbefore
      have hrest := ih s'
      rw [hkinds, hregistry, htallied] at hrest
      rw [hverdict]
      exact htally.trans hrest

/-- A layer that is no probe rejects a call by the first verdict of its checkers, and counts it. -/
theorem findSome?_checkers (hplain : ∀ probe, kinds[id.number]? ≠ some (.probe probe))
    (isLive : Handle → Bool) (call : Call) :
    (kinds[id.number]?.toList.flatMap (·.checkers)).findSome?
        (·.verdict isLive call.entry call.args)
      = kinds[id.number]?.bind (·.rejection? isLive call) := by
  cases hkind : kinds[id.number]? with
  | none => rfl
  | some kind =>
    rw [Option.toList_some, List.flatMap_singleton]
    cases kind with
    | tracing => rfl
    | validation checkers => rfl
    | probe probe => exact absurd hkind (hplain probe)

/-- The first checker that rejects a call stands in the outermost layer, or else in the others. -/
theorem rejecter?_cons (hplain : ∀ probe, kinds[id.number]? ≠ some (.probe probe))
    (isLive : Handle → Bool) (call : Call) :
    rejecter? kinds isLive call (id :: rest)
      = ((kinds[id.number]?.bind (·.rejection? isLive call)).map (id, ·)).or
          (rejecter? kinds isLive call rest) := by
  unfold rejecter? checkers
  rw [List.flatMap_cons, List.findSome?_append, List.findSome?_map, ← findSome?_checkers hplain]
  congr 1
  exact (List.map_findSome? ..).symm

/-- A layer that rejects a call and is no probe counts it. -/
theorem blamed_of_rejection (hplain : ∀ probe, kinds[id.number]? ≠ some (.probe probe))
    {isLive : Handle → Bool} {call : Call} {code : ResultCode}
    (hrejects : kinds[id.number]?.bind (·.rejection? isLive call) = some code) :
    kinds[id.number]?.bind (·.blamed id) = some id := by
  obtain ⟨kind, hkind, hcode⟩ := Option.bind_eq_some_iff.1 hrejects
  rw [hkind]
  cases kind with
  | tracing => cases hcode
  | validation checkers => rfl
  | probe probe => exact absurd hkind (hplain probe)

/-- A stack is plain if no layer that it names is a probe. -/
theorem plain_of_layers {layers : Layers}
    (hplain : ∀ id ∈ stack, ∀ probe, layers.get? id ≠ some (.probe probe)) :
    stack.Plain layers.kinds := by
  intro id hmem probe hkind
  rw [Layers.getElem?_kinds] at hkind
  obtain ⟨layer, hget, hlayer⟩ := Option.map_eq_some_iff.1 hkind
  cases layer with
  | probe other => exact hplain id hmem other hget
  | _ => cases hlayer

/-- Only probes make up answers. -/
theorem Plain.relays (hplain : stack.Plain kinds) : stack.Relays kinds := by
  intro id hmem
  rw [Option.all_eq_true]
  intro kind hkind
  cases kind with
  | probe probe => exact absurd hkind (hplain id hmem probe)
  | _ => rfl

/-- Without probes, the first checker that rejects a call decides about code and counter. -/
theorem Plain.rejecter?_eq (hplain : stack.Plain kinds) (isLive : Handle → Bool) (call : Call) :
    stack.rejection? kinds isLive call = (stack.rejecter? kinds isLive call).map Prod.snd ∧
      stack.blamed? kinds isLive call = (stack.rejecter? kinds isLive call).map Prod.fst := by
  induction stack with
  | nil => exact ⟨rfl, rfl⟩
  | cons id rest ih =>
    have hfirst := hplain id List.mem_cons_self
    have hrest := ih fun other hmem => hplain other (List.mem_cons_of_mem id hmem)
    unfold blamed?
    rw [rejection?_cons, rejecter?_cons hfirst, List.find?_cons]
    cases hrejects : kinds[id.number]?.bind (·.rejection? isLive call) with
    | none => exact hrest
    | some code => exact ⟨rfl, blamed_of_rejection hfirst hrejects⟩

end LayerStack

namespace Dispatch

variable {ω : Type}

/-- A call without layers moves no counter. -/
theorem tally_forward (env : Environment ω) (call : Call) (s : Frame ω) :
    (forward env call s).2.tally = s.tally := by
  unfold forward
  split
  · rfl
  · dsimp only
    split <;> rfl

/-- **The first checker that rejects a call decides, and without one layers make no difference.**  For
any stack of tracing and validation layers, whatever their tracers and checkers are, and every call:

* If some checker rejects the call, given its arguments and the handles that are live at its start, then
  the code of the first such checker is the answer.  Nothing is invoked, handles, memory and outside stay
  as they are, and the counter of rejected calls rises by one for the layer of this checker and for no
  other.
* If no checker rejects the call, then answer, invocations, handles, memory and outside are those of the
  call without layers, and no counter of rejected calls changes. -/
theorem invoke_rejecter (env : Environment ω) (stack : LayerStack) (call : Call) (s : Frame ω)
    (hplain : ∀ id ∈ stack, ∀ probe, s.layers.get? id ≠ some (.probe probe)) :
    let outcome := invoke env stack call s
    let rejecter := stack.rejecter? s.layers.kinds s.registry.isLive call
    (∀ id code, rejecter = some (id, code) →
      outcome.1 = code ∧
        outcome.2.trace.invocations = s.trace.invocations ∧ outcome.2.registry = s.registry ∧
        outcome.2.memory = s.memory ∧ outcome.2.host = s.host ∧
        ∀ other, outcome.2.layers.rejected? other
          = (s.layers.rejected? other).map (· + if other = id then 1 else 0)) ∧
      (rejecter = none →
        let direct := invoke env [] call s
        outcome.1 = direct.1 ∧
          outcome.2.trace.invocations = direct.2.trace.invocations ∧
          outcome.2.registry = direct.2.registry ∧ outcome.2.memory = direct.2.memory ∧
          outcome.2.host = direct.2.host ∧ outcome.2.layers.rejected? = s.layers.rejected?) := by
  intro outcome rejecter
  have hstack : stack.Plain s.layers.kinds := LayerStack.plain_of_layers hplain
  obtain ⟨hcode, hblamed⟩ := hstack.rejecter?_eq s.registry.isLive call
  obtain ⟨hcore, hanswer⟩ :=
    LayerStack.run_spec env call (forward_followsCore env call) stack s
  have htally := LayerStack.run_tally env call (tally_forward env call) stack s
  refine ⟨fun id code hrejecter => ?_, fun hrejecter => ?_⟩
  · rw [show stack.rejecter? s.layers.kinds s.registry.isLive call = _ from hrejecter]
      at hcode hblamed
    rw [hcode] at hcore hanswer
    rw [hblamed] at htally
    refine ⟨hanswer hstack.relays, congrArg Core.invocations hcore, congrArg Core.registry hcore,
      congrArg Core.memory hcore, congrArg Core.host hcore, fun other => ?_⟩
    refine (congrFun htally other).trans ?_
    unfold Tally.blame
    simp only [Option.map_some, Option.some.injEq, eq_comm]
    rfl
  · rw [show stack.rejecter? s.layers.kinds s.registry.isLive call = _ from hrejecter]
      at hcode hblamed
    rw [hcode] at hcore hanswer
    rw [hblamed] at htally
    exact ⟨hanswer hstack.relays, congrArg Core.invocations hcore, congrArg Core.registry hcore,
      congrArg Core.memory hcore, congrArg Core.host hcore, htally.trans (Tally.blame_none _)⟩

/-- A listing on a handle that nobody knows is rejected by the checker of the inner layer, which
counts it. -/
theorem invoke_rejecter_unknown :
    let call : Call := ⟨Sample.entry, .handle ⟨0x2000⟩ :: Sample.call.args.tail⟩
    let outcome := invoke Sample.environment Sample.stack call (Sample.frame 1 0)
    outcome.1 = .invalidArgument ∧ outcome.2.trace.invocations = [] ∧
      outcome.2.layers.rejected? ⟨1⟩ = some 1 := by
  have hplain : ∀ id ∈ Sample.stack, ∀ probe,
      (Sample.frame 1 0).layers.get? id ≠ some (.probe probe) :=
    List.forall_mem_cons.2 ⟨nofun, List.forall_mem_cons.2 ⟨nofun, nofun⟩⟩
  obtain ⟨hcode, hinvoked, -, -, -, hcounted⟩ := (invoke_rejecter Sample.environment Sample.stack
    ⟨Sample.entry, .handle ⟨0x2000⟩ :: Sample.call.args.tail⟩ (Sample.frame 1 0) hplain).1
      ⟨1⟩ .invalidArgument (by decide +kernel)
  exact ⟨hcode, hinvoked, hcounted ⟨1⟩⟩

end Dispatch
end DriverLoader
