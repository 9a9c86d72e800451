/-
# Which driver function a call invokes

In every state that a loader can get into, a routed call invokes the function that its first handle
reaches (`Dispatch.Reaches`), once and with the arguments of the caller, or it invokes nothing at all:
`after_call_routed`.

The answer of that function is the answer of the call as long as no layer makes up answers of its own.
The loader's own layers do not, and no operation turns a layer into one that does (`Effect.relays`), so
only a layer that an application brings along can.
-/

import DriverLoader.Proofs.Loader.Coherence

namespace DriverLoader
namespace Session

variable {ω : Type} {s s' : Session ω}

/-- Every layer that exists gives back the answer that it gets. -/
def Relays (s : Session ω) : Prop :=
  ∀ kind ∈ s.layers.kinds, kind.relays = true

/-- Only making a layer can bring in one that does not relay. -/
theorem Effect.relays {env : Environment ω} {operation : Operation}
    (heffect : Effect env s operation s') (hs : s.Relays)
    (hmade : ∀ layer, operation = .createLayer layer → layer.kind.relays = true) : s'.Relays := by
  intro kind hkind
  rcases heffect.kinds kind hkind with hold | ⟨layer, hlayer, rfl⟩ | ⟨id, checker, checkers, -, rfl⟩
  · exact hs kind hold
  · exact hmade layer hlayer
  · rfl

/-- As long as no layer is made that does not relay, every layer relays. -/
theorem Relays.after (hs : s.Relays) (env : Environment ω) (history : History)
    (hmade : ∀ layer, .createLayer layer ∈ history → layer.kind.relays = true) :
    (s.after env history).Relays := by
  refine after_induction hs history fun before operation after hsplit hbefore => ?_
  refine (step_effect env _ operation).relays hbefore fun layer hlayer => hmade layer ?_
  rw [hsplit, hlayer]
  exact List.mem_append_right before List.mem_cons_self

/-- The layers that a loader starts with relay. -/
theorem empty_relays (config : Config) (shared : Shared ω)
    (hshared : ∀ layer ∈ shared.layers, layer.kind.relays = true) :
    (empty config shared).Relays := by
  have hcreate : ∀ (layers : Layers) (layer : Layer), layer.kind.relays = true →
      (∀ kind ∈ layers.kinds, kind.relays = true) →
        ∀ kind ∈ Layers.kinds (layers ++ [layer]), kind.relays = true := by
    intro layers layer hlayer hlayers kind hkind
    rw [Layers.kinds, List.map_append] at hkind
    rcases List.mem_append.1 hkind with hold | hnew
    · exact hlayers kind hold
    · rw [List.mem_singleton.1 hnew]
      exact hlayer
  refine empty_induction config shared ?_ ?_ ?_ ?_ ?_
  · exact hcreate shared.layers _ rfl fun kind hkind => by
      obtain ⟨layer, hlayer, rfl⟩ := List.mem_map.1 hkind
      exact hshared layer hlayer
  · exact fun s level message hs => hs
  · intro s id hs kind hkind
    rw [(pushLayer_stays id s).kinds] at hkind
    exact hs kind hkind
  · exact fun s hs => hcreate s.layers _ rfl hs
  · exact fun s id hs => hs

/-- Where every layer relays, every stack does. -/
theorem Relays.stack (hs : s.Relays) (stack : LayerStack) : stack.Relays s.layers.kinds := by
  intro id _
  rw [Option.all_eq_true]
  exact fun kind hkind => hs kind (List.mem_of_getElem? hkind)

/-- A call on a handle that is not live invokes nothing.  Where every layer gives back the answer that it
gets, the first layer that rejects the call answers it; if there is none, the answer is
"uninitialised". -/
theorem call_of_not_live (env : Environment ω) (s : Session ω) (entry : EntryPoint)
    (args : List CallArgument) (memory : Memory)
    (hdead : s.loader.registry.isLive (Argument.routing args) = false) :
    (s.call env entry args memory).2.2.trace.invocations = s.trace.invocations ∧
      (s.loader.stack.Relays s.layers.kinds →
        (s.call env entry args memory).1 = (s.loader.stack.rejection? s.layers.kinds
          s.loader.registry.isLive ⟨entry, args⟩).getD .uninitialized) := by
  have hroutes : ∀ driver, ¬s.loader.registry.Routes (Argument.routing args) driver := by
    rintro driver ⟨-, record, hfind, hvalid, -⟩
    unfold Registry.isLive at hdead
    rw [hfind] at hdead
    exact Bool.noConfusion (hvalid.symm.trans hdead)
  obtain ⟨-, hother, hkept⟩ := Dispatch.forward_refused env ⟨entry, args⟩ (s.frame memory)
    fun driver function hreaches => hroutes driver hreaches.routes
  obtain ⟨hcore, hanswer⟩ := LayerStack.run_spec env ⟨entry, args⟩
    (Dispatch.forward_followsCore env ⟨entry, args⟩) s.loader.stack (s.frame memory)
  rw [hkept, ite_self] at hcore
  rw [hother fun ⟨driver, hdriver, _⟩ => hroutes driver hdriver] at hanswer
  exact ⟨congrArg Core.invocations hcore, hanswer⟩

/-- **A routed call invokes the function that it reaches, or nothing.**  In every state that a history
leads to, for every entry point, all arguments and every memory of the caller:

* A call that reaches a function of a driver and is rejected by no layer invokes this function of a
  loaded driver, once and with the arguments unchanged, and what it made of the caller's memory and of
  the outside is what the call leaves behind.  As long as no layer that makes up answers was brought
  along, its result is the answer.
* A call that reaches no function or is rejected by a layer invokes nothing, and leaves memory and
  outside as they were.
* A call that reaches no function is, without layers, answered by "unsupported version" if handle and
  table are in order but the negotiated version is too old, and by "uninitialised" in every other
  case. -/
theorem after_call_routed (env : Environment ω) (config : Config) (shared : Shared ω)
    (history : History) (entry : EntryPoint) (args : List CallArgument) (memory : Memory) :
    let s := (empty config shared).after env history
    let outcome := s.call env entry args memory
    let h := Argument.routing args
    let rejection := s.loader.stack.rejection? s.layers.kinds s.loader.registry.isLive ⟨entry, args⟩
    (∀ driver function, Dispatch.Reaches s.loader.registry entry h driver function →
        rejection = none →
        let reply := env.run function entry args memory s.host
        driver ∈ s.loader.loaded ∧
          outcome.2.2.trace.invocations = s.trace.invocations ++
            [⟨driver.id, entry.name, function, args, reply.result⟩] ∧
          outcome.2.1 = reply.memory ∧ outcome.2.2.host = reply.host ∧
          ((∀ layer ∈ shared.layers, layer.kind.relays = true) →
            (∀ layer, .createLayer layer ∈ history → layer.kind.relays = true) →
              outcome.1 = reply.result)) ∧
      ((∀ driver function, ¬Dispatch.Reaches s.loader.registry entry h driver function) ∨
          rejection ≠ none →
        outcome.2.2.trace.invocations = s.trace.invocations ∧ outcome.2.1 = memory ∧
          outcome.2.2.host = s.host) ∧
      (s.loader.stack = [] →
        (∀ driver function, ¬Dispatch.Reaches s.loader.registry entry h driver function) →
          (Dispatch.Outdated s.loader.registry entry h → outcome.1 = .unsupportedVersion) ∧
            (¬Dispatch.Outdated s.loader.registry entry h → outcome.1 = .uninitialized)) := by
  intro s outcome h rejection
  have hs : s.Coherent := (empty_coherent config shared).after env history
  obtain ⟨hcore, hanswer⟩ := LayerStack.run_spec env ⟨entry, args⟩
    (Dispatch.forward_followsCore env ⟨entry, args⟩) s.loader.stack (s.frame memory)
  refine ⟨fun driver function hreaches hpassed => ?_, fun hnothing => ?_, fun hstack hnone => ?_⟩
  · obtain ⟨hresult, hsettled⟩ :=
      Dispatch.forward_reaches env ⟨entry, args⟩ (s.frame memory) hreaches
    have hpassed' : s.loader.stack.rejection? (s.frame memory).layers.kinds
        (s.frame memory).registry.isLive ⟨entry, args⟩ = none := hpassed
    rw [hpassed', hsettled] at hcore
    rw [hpassed', hresult] at hanswer
    refine ⟨hs.loaded_of_routes hreaches.routes, congrArg Core.invocations hcore,
      congrArg Core.memory hcore, congrArg Core.host hcore, fun hshared hmade => ?_⟩
    exact hanswer (((empty_relays config shared hshared).after env history hmade).stack _)
  · have hkept : (LayerStack.run env ⟨entry, args⟩ (Dispatch.forward env ⟨entry, args⟩)
        s.loader.stack (s.frame memory)).2.core = (s.frame memory).core := by
      rw [hcore]
      split
      · rfl
      · rename_i hpassed
        have hnone := hnothing.resolve_right fun hrejected =>
          hpassed (Option.isSome_iff_ne_none.2 hrejected)
        exact (Dispatch.forward_refused env ⟨entry, args⟩ (s.frame memory) hnone).2.2
    exact ⟨congrArg Core.invocations hkept, congrArg Core.memory hkept, congrArg Core.host hkept⟩
  · obtain ⟨hold, hother, -⟩ :=
      Dispatch.forward_refused env ⟨entry, args⟩ (s.frame memory) hnone
    have hforward : outcome.1 = (Dispatch.forward env ⟨entry, args⟩ (s.frame memory)).1 := by
      show (Dispatch.invoke env s.loader.stack ⟨entry, args⟩ (s.frame memory)).1 = _
      rw [hstack]
      rfl
    exact ⟨fun houtdated => hforward.trans (hold houtdated),
      fun houtdated => hforward.trans (hother houtdated)⟩

namespace Sample

/-- A driver is loaded, and its driver handle is asked for. -/
def listed : History :=
  load ++ [.driverGet .compute (some ⟨.argument "pCount", 0⟩) (some ⟨.argument "phDevices", 0⟩)
    (Dispatch.Sample.memory 1 0)]

/-- The arguments of a listing of the devices of that driver. -/
def args : List CallArgument :=
  .handle ⟨0x80800001⟩ :: Dispatch.Sample.call.args.tail

end Sample

/-- A listing of devices reaches the driver that the handle came from. -/
theorem after_call_routed_listing :
    ∃ driver ∈ (Sample.start.after Dispatch.Sample.environment Sample.listed).loader.loaded,
      ((Sample.start.after Dispatch.Sample.environment Sample.listed).call
          Dispatch.Sample.environment Dispatch.Sample.entry Sample.args
          (Dispatch.Sample.memory 1 0)).2.2.trace.invocations.map (·.driver)
        = (Sample.start.after Dispatch.Sample.environment Sample.listed).trace.invocations.map
            (·.driver) ++ [driver.id] := by
  have hroute : (Dispatch.route
      (Sample.start.after Dispatch.Sample.environment Sample.listed).loader.registry
      Dispatch.Sample.entry ⟨0x80800001⟩).isOk = true := by decide +kernel
  cases htarget : Dispatch.route
      (Sample.start.after Dispatch.Sample.environment Sample.listed).loader.registry
      Dispatch.Sample.entry ⟨0x80800001⟩ with
  | error refusal =>
    rw [htarget] at hroute
    cases hroute
  | ok target =>
    obtain ⟨hloaded, hinvoked, -⟩ := (after_call_routed Dispatch.Sample.environment Config.default
      (Shared.start .info ()) Sample.listed Dispatch.Sample.entry Sample.args
      (Dispatch.Sample.memory 1 0)).1 target.driver target.function
      (Dispatch.route_eq_ok_iff.1 htarget) rfl
    refine ⟨target.driver, hloaded, ?_⟩
    exact (congrArg (List.map (·.driver)) hinvoked).trans List.map_append

end Session
end DriverLoader
