/-
# How long a handle is bound

A live handle stays bound to its driver until a call destroys it, its driver is unloaded, or the loader
is torn down (`Accountable.routes_step`).  A handle that is not live stays so until an operation adopts it
(`Accountable.dead_step`), and until then no call on it reaches a driver.  `Operation.Ends`,
`Operation.Unloads` and `Operation.Adopts` say what these events are.

By induction over the operations in between, a handle can change drivers only through one of these
events, and a destroyed handle is of no use until a driver gives it out again or it is registered
(`after_binding`).
-/

import DriverLoader.Proofs.Loader.Unloading

namespace DriverLoader

namespace Dispatch

variable {ω : Type} {env : Environment ω} {stack : LayerStack} {call : Call} {s : Frame ω}

/-- A call that succeeds settles the registry for the driver that it reaches. -/
theorem Succeeds.settles {driver : Driver} {function : DriverFunction} {after : Memory}
    (hsucceeds : Succeeds env stack call s driver function after) :
    (invoke env stack call s).2.registry = settle s.registry call driver after := by
  have hcore := (LayerStack.run_spec env call (forward_followsCore env call) stack s).1
  rw [hsucceeds.passed, (forward_reaches env call s hsucceeds.reaches).2] at hcore
  refine (congrArg Core.registry hcore).trans ?_
  refine (if_pos (decide_eq_true hsucceeds.answered)).trans ?_
  exact congrArg (settle s.registry call driver) hsucceeds.memory

/-- Through honest layers, the calls that succeed are those that are answered with "success". -/
theorem invoke_eq_success_iff (hhonest : stack.Honest s.layers.kinds) :
    (invoke env stack call s).1 = .success ↔
      ∃ driver function after, Succeeds env stack call s driver function after := by
  have hanswer := (LayerStack.run_spec env call (forward_followsCore env call) stack s).2
    hhonest.relays
  change (invoke env stack call s).1 = _ at hanswer
  rw [hanswer]
  constructor
  · intro hsuccess
    cases hrejection : stack.rejection? s.layers.kinds s.registry.isLive call with
    | some code =>
      rw [hrejection] at hsuccess
      refine absurd ?_ (LayerStack.rejection?_ne_success hhonest s.registry.isLive call)
      exact hrejection.trans (congrArg some hsuccess)
    | none =>
      rw [hrejection] at hsuccess
      obtain ⟨driver, function, hreaches, -⟩ := (forward_registry env call s).2 hsuccess
      have hresult := (forward_reaches env call s hreaches).1
      exact ⟨driver, function, _, hrejection, hreaches, hresult.symm.trans hsuccess, rfl⟩
  · rintro ⟨driver, function, after, hsucceeds⟩
    rw [hsucceeds.passed]
    exact (forward_reaches env call s hsucceeds.reaches).1.trans hsucceeds.answered

/-- A handle that a call ended is not live after the call, unless the call handed it out again. -/
theorem Ends.isLive_eq_false {h : Handle} (hends : Ends env stack call s h)
    (hkept : ∀ driver, ¬HandsOut env stack call s h driver) :
    (invoke env stack call s).2.registry.isLive h = false := by
  obtain ⟨hdestroys, driver, function, after, hsucceeds⟩ := hends
  have hreturned : ¬call.entry.Returned call.args after h := fun hreturned =>
    hkept driver ⟨function, after, hsucceeds, hreturned⟩
  rw [hsucceeds.settles]
  exact Registry.isLive_eq_false_of_invalid
    ((settle_settles s.registry call driver after).ended h hdestroys (Or.inl hreturned))

end Dispatch

/-- An operation unloads a driver. -/
def Operation.Unloads {ω : Type} (s : Session ω) (operation : Operation) (driver : Driver) : Prop :=
  ∃ name d released, operation = .unload name ∧ s.loader.find? name = some d ∧ d.driver = driver ∧
    (s.unload name).1 = .ok released

namespace Session

variable {ω : Type} {env : Environment ω} {s : Session ω} {operation : Operation} {h : Handle}

/-- A binding is cut: the handle is destroyed, its driver is unloaded, or the loader is torn down. -/
def Cuts (env : Environment ω) (s : Session ω) (operation : Operation) (h : Handle)
    (driver : Driver) : Prop :=
  operation.Ends env s h ∨ operation.Unloads s driver ∨ operation = .teardown

namespace Accountable

/-- **A live handle stays bound until its binding is cut.** -/
theorem routes_step (hs : s.Accountable) {driver : Driver}
    (hroutes : s.loader.registry.Routes h driver) (huncut : ¬Cuts env s operation h driver) :
    (s.step env operation).loader.registry.Routes h driver := by
  obtain ⟨hnull, record, hfind, hvalid, rfl⟩ := hroutes
  cases (step_effect env s operation).shift with
  | kept drivers builder next registry =>
    have hends : ¬operation.Ends env s h := fun hends => huncut (Or.inl hends)
    exact ⟨hnull, record, registry.find?_of_live hfind hvalid hends, hvalid, rfl⟩
  | loaded driver module cause new id drivers builder next registry =>
    exact ⟨hnull, record, registry ▸ hfind, hvalid, rfl⟩
  | unloaded d name cause found loader next =>
    cases hheld : s.isHeld d.driver with
    | true =>
      have hkept := hs.unload_of_held found hheld
      rw [cause]
      refine ⟨hnull, record, ?_, hvalid, rfl⟩
      show (s.unload name).2.loader.registry.find? h = some record
      rw [hkept]
      exact hfind
    | false =>
      have hother : record.owner ≠ d.driver := fun heq =>
        huncut (Or.inr (Or.inl ⟨name, d, _, cause, found, heq.symm, (hs.unload_of_free found hheld).1⟩))
      have hmem : d.driver ∈ s.loader.loaded :=
        List.mem_map_of_mem (hs.coherent.find?_eq_some_iff.1 found).1
      have hnotOwned : record.ownedBy d.driver = false := by
        rw [← Bool.not_eq_true, hs.ownedBy_iff (Registry.mem_records_of_find? hfind) hmem]
        exact hother
      refine ⟨hnull, record, ?_, hvalid, rfl⟩
      rw [loader]
      show (s.loader.registry.purge d.driver).find? h = some record
      rw [hs.consistent.find?_purge, hfind, Option.filter_some, hnotOwned]
      rfl
  | emptied cause drivers builder next registry =>
    exact absurd (Or.inr (Or.inr cause)) huncut

/-- **A handle that is not live stays so until it is adopted.** -/
theorem dead_step (hs : s.Accountable) (hdead : s.loader.registry.isLive h = false)
    (hkept : ∀ driver, ¬operation.Adopts env s h driver) :
    (s.step env operation).loader.registry.isLive h = false := by
  cases (step_effect env s operation).shift with
  | kept drivers builder next registry => exact registry.isLive_eq_false hdead hkept
  | loaded driver module cause new id drivers builder next registry => exact registry ▸ hdead
  | unloaded d name cause found loader next =>
    rw [loader]
    show (s.loader.registry.purge d.driver).isLive h = false
    unfold Registry.isLive at hdead ⊢
    rw [hs.consistent.find?_purge]
    cases hfind : s.loader.registry.find? h with
    | none => rfl
    | some record =>
      rw [hfind] at hdead
      rw [Option.filter_some]
      split
      · exact hdead
      · rfl
  | emptied cause drivers builder next registry =>
    rw [registry]
    unfold Registry.isLive Registry.find? Registry.clear
    split <;> rfl

/-- A handle that an operation ends is not live afterwards, unless the operation adopts it again. -/
theorem ended_step (hends : operation.Ends env s h)
    (hkept : ∀ driver, ¬operation.Adopts env s h driver) :
    (s.step env operation).loader.registry.isLive h = false := by
  obtain ⟨entry, args, memory, rfl, hends⟩ := hends
  exact hends.isLive_eq_false fun driver hhands => hkept driver (.returned hhands)

/-- While no operation cuts the binding of a live handle, it stays bound. -/
theorem routes_after (hs : s.Accountable) {driver : Driver}
    (hroutes : s.loader.registry.Routes h driver) (history : History)
    (huncut : ∀ before operation after, history = before ++ operation :: after →
      ¬Cuts env (s.after env before) operation h driver) :
    (s.after env history).loader.registry.Routes h driver := by
  refine (after_induction (P := fun s => s.Accountable ∧ s.loader.registry.Routes h driver)
    ⟨hs, hroutes⟩ history ?_).2
  rintro before operation after hsplit ⟨hs, hroutes⟩
  exact ⟨(step_effect env _ operation).shift.accountable hs,
    hs.routes_step hroutes (huncut before operation after hsplit)⟩

/-- While no operation adopts a handle that is not live, it stays so. -/
theorem dead_after (hs : s.Accountable) (hdead : s.loader.registry.isLive h = false)
    (history : History)
    (hkept : ∀ before operation after, history = before ++ operation :: after →
      ∀ driver, ¬operation.Adopts env (s.after env before) h driver) :
    (s.after env history).loader.registry.isLive h = false := by
  refine (after_induction (P := fun s => s.Accountable ∧ s.loader.registry.isLive h = false)
    ⟨hs, hdead⟩ history ?_).2
  rintro before operation after hsplit ⟨hs, hdead⟩
  exact ⟨(step_effect env _ operation).shift.accountable hs,
    hs.dead_step hdead (hkept before operation after hsplit)⟩

end Accountable

/-- **A handle changes drivers only when its binding is cut, and a destroyed handle is dead until it is
given out again.**  In every history:

* If a handle is live and bound to a driver at one point and bound to another driver at a later point,
  then in between a successful call destroyed the handle, the driver was unloaded, or the loader was
  torn down.
* From a successful call that destroys a handle on, as long as no operation adopts it, that call
  included, the handle is not live, and no call on it invokes anything.  Without layers every such call
  is answered by "uninitialised".
* Where all layers are honest, the calls that destroy a handle successfully are those of destroying entry
  points on it that are answered with "success". -/
theorem after_binding (env : Environment ω) (config : Config) (shared : Shared ω)
    (earlier : History) :
    let s := (empty config shared).after env earlier
    (∀ later h driver record, s.loader.registry.Routes h driver →
        (s.after env later).loader.registry.find? h = some record → record.owner ≠ driver →
          ∃ before operation after, later = before ++ operation :: after ∧
            Cuts env (s.after env before) operation h driver) ∧
      (∀ operation later h, operation.Ends env s h →
        (∀ before next after, operation :: later = before ++ next :: after →
          ∀ driver, ¬next.Adopts env (s.after env before) h driver) →
        let s' := s.after env (operation :: later)
        s'.loader.registry.isLive h = false ∧
          ∀ entry args memory, Argument.routing args = h →
            (s'.call env entry args memory).2.2.trace.invocations = s'.trace.invocations ∧
              (s'.loader.stack = [] → (s'.call env entry args memory).1 = .uninitialized)) ∧
      (s.loader.stack.Honest s.layers.kinds → ∀ entry args memory h,
        (Operation.call entry args memory).Ends env s h ↔
          entry.releases = true ∧ h = Argument.routing args ∧
            (s.call env entry args memory).1 = .success) := by
  intro s
  have hs : s.Accountable := (empty_accountable config shared).after env earlier
  refine ⟨fun later h driver record hroutes hfind howner => ?_,
    fun operation later h hends hkept => ?_, fun hhonest entry args memory h => ?_⟩
  · by_contra huncut
    obtain ⟨-, other, hother, -, hbound⟩ := hs.routes_after hroutes later
      fun before operation after hsplit hcut => huncut ⟨before, operation, after, hsplit, hcut⟩
    rw [hfind] at hother
    exact howner (Option.some.inj hother ▸ hbound)
  · intro s'
    have hfirst := Accountable.ended_step hends (hkept [] operation later rfl)
    have hdead : s'.loader.registry.isLive h = false :=
      ((step_effect env s operation).shift.accountable hs).dead_after hfirst later
        fun before next after hsplit =>
          hkept (operation :: before) next after (congrArg _ hsplit)
    refine ⟨hdead, fun entry args memory hrouting => ?_⟩
    obtain ⟨hinvoked, hanswer⟩ := call_of_not_live env s' entry args memory (hrouting ▸ hdead)
    refine ⟨hinvoked, fun hstack => ?_⟩
    rw [hstack] at hanswer
    exact hanswer fun id hmem => absurd hmem List.not_mem_nil
  · have hsuccess : (s.call env entry args memory).1 = .success ↔ ∃ driver function after,
        Dispatch.Succeeds env s.loader.stack ⟨entry, args⟩ (s.frame memory) driver function after :=
      Dispatch.invoke_eq_success_iff hhonest
    rw [hsuccess]
    constructor
    · rintro ⟨_, _, _, heq, ⟨hreleases, hh⟩, hsucceeds⟩
      cases heq
      exact ⟨hreleases, hh, hsucceeds⟩
    · rintro ⟨hreleases, hh, hsucceeds⟩
      exact ⟨entry, args, memory, rfl, ⟨hreleases, hh⟩, hsucceeds⟩

namespace Sample

/-- The sample modules, which can destroy contexts too. -/
def environment : Environment Unit :=
  { Dispatch.Sample.environment with
    exports := fun module symbol =>
      if symbol = "zeGetContextProcAddrTable" then
        some fun _ => (.success, Dispatch.Sample.subTable "zeContextDestroy")
      else Dispatch.Sample.environment.exports module symbol }

/-- The entry point that destroys a context. -/
def contextDestroy : EntryPoint :=
  { EntryPoint.destroyer 0 "zeContextDestroy" [.handle .compute "hContext"] with group := "Context" }

/-- A context is registered beside the driver handle of a driver. -/
def registered : History :=
  listed ++ [.registerHandle ⟨0x80800001⟩ ⟨0x42⟩]

/-- The driver is loaded anew, and the context is registered again. -/
def rebound : History :=
  [.unload "sample", .addDriver "sample" (.library "sample"),
    .driverGet .compute (some ⟨.argument "pCount", 0⟩) (some ⟨.argument "phDevices", 0⟩)
      (Dispatch.Sample.memory 1 0),
    .registerHandle ⟨0x80800002⟩ ⟨0x42⟩]

/-- The context is destroyed. -/
def destroy : Operation :=
  .call contextDestroy [.handle ⟨0x42⟩] Memory.empty

end Sample

/-- A context that changed drivers was cut off from the first, and one that was destroyed cannot be
destroyed again, nor is it handed out by the call that destroys it. -/
theorem after_binding_context :
    (∃ before operation after driver, Sample.rebound = before ++ operation :: after ∧
        Cuts Sample.environment
          ((Sample.start.after Sample.environment Sample.registered).after Sample.environment before)
          operation ⟨0x42⟩ driver) ∧
      (((Sample.start.after Sample.environment Sample.registered).after Sample.environment
          [Sample.destroy]).call Sample.environment Sample.contextDestroy [.handle ⟨0x42⟩]
            Memory.empty).1 = .uninitialized := by
  obtain ⟨hcut, hdestroyed, hends⟩ := after_binding Sample.environment Config.default
    (Shared.start .info ()) Sample.registered
  constructor
  · have hbound : ((Sample.start.after Sample.environment
        Sample.registered).loader.registry.find? ⟨0x42⟩).map
          (fun record => (record.valid, record.owner.id)) = some (true, 0) := by decide +kernel
    have hrebound : (((Sample.start.after Sample.environment Sample.registered).after
        Sample.environment Sample.rebound).loader.registry.find? ⟨0x42⟩).map (·.owner.id)
          = some 1 := by decide +kernel
    obtain ⟨record, hfind, hrecord⟩ := Option.map_eq_some_iff.1 hbound
    obtain ⟨other, hother, hid⟩ := Option.map_eq_some_iff.1 hrebound
    obtain ⟨hvalid, hfirst⟩ := Prod.mk.inj hrecord
    have hne : other.owner ≠ record.owner := by
      intro heq
      rw [heq, hfirst] at hid
      cases hid
    obtain ⟨before, operation, after, hsplit, hcuts⟩ := hcut Sample.rebound ⟨0x42⟩ record.owner other
      ⟨by decide, record, hfind, hvalid, rfl⟩ hother hne
    exact ⟨before, operation, after, record.owner, hsplit, hcuts⟩
  · have hhonest : (Sample.start.after Sample.environment Sample.registered).loader.stack = [] := by
      decide +kernel
    have hsuccess : ((Sample.start.after Sample.environment Sample.registered).call
        Sample.environment Sample.contextDestroy [.handle ⟨0x42⟩] Memory.empty).1 = .success := by
      decide +kernel
    have hdestroy := (hends (fun id hmem => absurd (hhonest ▸ hmem) List.not_mem_nil)
      Sample.contextDestroy [.handle ⟨0x42⟩] Memory.empty ⟨0x42⟩).2 ⟨rfl, rfl, hsuccess⟩
    refine ((hdestroyed Sample.destroy [] ⟨0x42⟩ hdestroy ?_).2 Sample.contextDestroy _ Memory.empty
      rfl).2 ?_
    · intro before next after hsplit driver hadopts
      obtain rfl : before = [] := by
        cases before with
        | nil => rfl
        | cons first rest => cases rest <;> cases hsplit
      cases hsplit
      obtain ⟨hhanded⟩ := hadopts
      obtain ⟨function, memory, -, index, array, -, -, -, hargument, -⟩ := hhanded
      rcases index with _ | index <;> cases hargument
    · decide +kernel

end Session
end DriverLoader
