/-
# What registering a handle binds

An application registers a handle that it got from elsewhere beside one that the loader knows, its
owner.  The loader refuses a null handle and an owner that leads nowhere, and then nothing changes
(`registerHandle_of_not_routes`); that the owner is live is all that it asks for.

Success alone does not say where the handle leads.  A registry never rebinds a live handle, so a handle
that was live stays with the driver that it belongs to, whoever was named as the owner; only a handle
that was unknown or destroyed comes to the driver of the owner (`after_registerHandle`).  From then on
calls on the handle go to the driver that it is bound to (`call_of_routes`), be it the owner's or not.
-/

import DriverLoader.Proofs.Loader.Routing

namespace DriverLoader
namespace Registry

variable {r : Registry} {h : Handle} {driver : Driver}

/-- The record of a handle names the driver that the handle belongs to. -/
theorem Routes.owner_eq (hroutes : r.Routes h driver) :
    (r.find? h).map (·.owner) = some driver := by
  obtain ⟨-, record, hfind, -, rfl⟩ := hroutes
  rw [hfind]
  rfl

/-- A handle is live if it belongs to some driver. -/
theorem isLive_eq_true_iff : r.isLive h = true ↔ ∃ driver, r.Routes h driver := by
  unfold isLive
  rw [Option.any_eq_true]
  constructor
  · rintro ⟨record, hfind, hvalid⟩
    refine ⟨record.owner, ?_, record, hfind, hvalid, rfl⟩
    rintro rfl
    rw [find?_null] at hfind
    cases hfind
  · rintro ⟨driver, -, record, hfind, hvalid, -⟩
    exact ⟨record, hfind, hvalid⟩

/-- A handle leads nowhere if it is null, unknown or destroyed. -/
theorem not_routes_iff :
    (∀ driver, ¬r.Routes h driver) ↔
      h = Handle.null ∨ r.find? h = none ∨
        ∃ record, r.find? h = some record ∧ record.valid = false := by
  rw [← not_exists, ← isLive_eq_true_iff, Bool.not_eq_true]
  unfold isLive
  cases hfind : r.find? h with
  | none => simp
  | some record =>
    have hnull : h ≠ Handle.null := by
      rintro rfl
      rw [find?_null] at hfind
      cases hfind
    simp [hnull]

/-- Adopting a handle that a driver owns changes nothing. -/
theorem adopt_of_routes {owner : Driver} (hroutes : r.Routes h owner) (driver : Driver) :
    r.adopt driver h = r :=
  adopt_of_not_admits
    (admits_eq_false_iff.2 (Or.inr (isLive_eq_true_iff.2 ⟨owner, hroutes⟩))) driver

/-- A handle that no driver owns comes to the driver that adopts it. -/
theorem routes_adopt_of_not_routes (hnull : h ≠ Handle.null) (hroutes : ∀ owner, ¬r.Routes h owner)
    (driver : Driver) : (r.adopt driver h).Routes h driver := by
  have hdead : r.isLive h = false := by
    rw [← Bool.not_eq_true, isLive_eq_true_iff]
    exact fun ⟨owner, howner⟩ => hroutes owner howner
  exact ⟨hnull, _, find?_adopt_self (admits_eq_true_iff.2 ⟨hnull, hdead⟩) driver, rfl, rfl⟩

/-- **Where a handle leads once a driver adopts it**: to the driver that owns it already, or else to the
one that adopts it. -/
theorem routes_adopt (hnull : h ≠ Handle.null) (driver : Driver) :
    ∃ bound, (r.adopt driver h).Routes h bound ∧
      (bound = driver ↔ ∀ owner, r.Routes h owner → owner = driver) ∧
      ∀ owner, r.Routes h owner → owner = bound ∧ r.adopt driver h = r := by
  by_cases howned : ∃ owner, r.Routes h owner
  · obtain ⟨owner, howner⟩ := howned
    have hsame : r.adopt driver h = r := adopt_of_routes howner driver
    have honly : ∀ other, r.Routes h other → other = owner :=
      fun other hother => Dispatch.routes_unique hother howner
    refine ⟨owner, by rwa [hsame], ?_, fun other hother => ⟨honly other hother, hsame⟩⟩
    exact ⟨fun heq other hother => (honly other hother).trans heq, fun hall => hall owner howner⟩
  · have hnone : ∀ owner, ¬r.Routes h owner := fun owner howner => howned ⟨owner, howner⟩
    refine ⟨driver, routes_adopt_of_not_routes hnull hnone driver, ?_, ?_⟩
    · exact ⟨fun _ owner howner => absurd howner (hnone owner), fun _ => rfl⟩
    · exact fun owner howner => absurd howner (hnone owner)

end Registry

/-- A call on a live handle that the driver's table refuses is answered and logged as a refusal. -/
theorem Dispatch.forward_of_select_error {ω : Type} (env : Environment ω) {call : Call}
    {s : Frame ω} {driver : Driver} {refusal : Refusal}
    (hroutes : s.registry.Routes call.handle driver)
    (hselect : select call.entry driver = .error refusal) :
    forward env call s = (refusal.code, s.write .trace (refusal.message call.entry call.handle)) := by
  have hroute : route s.registry call.entry call.handle = .error refusal := by
    rw [route_of_routes hroutes, hselect]
    rfl
  unfold forward
  rw [hroute]

namespace Session

variable {ω : Type} {s : Session ω} {driver : Driver}

/-- The driver function that a call goes to on a handle of a driver, if the driver's table lets it. -/
def invocation? (env : Environment ω) (s : Session ω) (driver : Driver) (entry : EntryPoint)
    (args : List CallArgument) (memory : Memory) : Option Invocation :=
  (Dispatch.select entry driver).toOption.map fun function =>
    ⟨driver.id, entry.name, function, args, (env.run function entry args memory s.host).result⟩

/-- A call on a live handle that no layer rejects goes to the driver that owns the handle: it invokes
what the driver offers for the entry point, once and with the arguments unchanged, or nothing if the
driver's table refuses it. -/
theorem call_of_routes (env : Environment ω) (entry : EntryPoint) {args : List CallArgument}
    (memory : Memory) (hroutes : s.loader.registry.Routes (Argument.routing args) driver)
    (hpassed :
      s.loader.stack.rejection? s.layers.kinds s.loader.registry.isLive ⟨entry, args⟩ = none) :
    (s.call env entry args memory).2.2.trace.invocations
      = s.trace.invocations ++ (s.invocation? env driver entry args memory).toList := by
  have hcore := (LayerStack.run_spec env ⟨entry, args⟩
    (Dispatch.forward_followsCore env ⟨entry, args⟩) s.loader.stack (s.frame memory)).1
  have hnone : s.loader.stack.rejection? (s.frame memory).layers.kinds
      (s.frame memory).registry.isLive ⟨entry, args⟩ = none := hpassed
  rw [hnone] at hcore
  unfold invocation?
  cases hselect : Dispatch.select entry driver with
  | ok function =>
    obtain ⟨hvalid, hcovered, hslot⟩ := Dispatch.select_eq_ok_iff.1 hselect
    have hsettled := (Dispatch.forward_reaches env ⟨entry, args⟩ (s.frame memory)
      ⟨hroutes, hvalid, hcovered, hslot⟩).2
    exact congrArg Core.invocations (hcore.trans hsettled)
  | error refusal =>
    have hforward : Dispatch.forward env ⟨entry, args⟩ (s.frame memory) = _ :=
      Dispatch.forward_of_select_error env hroutes hselect
    rw [hforward] at hcore
    exact (congrArg Core.invocations hcore).trans (List.append_nil _).symm

/-- A handle is not registered beside an owner that leads nowhere, and nothing changes. -/
theorem registerHandle_of_not_routes {owner object : Handle}
    (hrefused : object = Handle.null ∨ ∀ driver, ¬s.loader.registry.Routes owner driver) :
    s.registerHandle owner object = (.error .unknownHandle, s) := by
  unfold registerHandle
  by_cases hobject : object = Handle.null
  · exact if_pos (by simp [Handle.isNull, hobject])
  · rw [if_neg (by simpa [Handle.isNull] using hobject)]
    split
    · rename_i record hrecord
      obtain ⟨hfind, hvalid⟩ := Option.filter_eq_some_iff.1 hrecord
      have hlive : s.loader.registry.isLive owner = true := by
        unfold Registry.isLive
        rw [hfind]
        exact hvalid
      obtain ⟨driver, hroutes⟩ := Registry.isLive_eq_true_iff.1 hlive
      exact absurd hroutes (hrefused.resolve_left hobject driver)
    · rfl

/-- A handle registered beside a live one is adopted for the driver that owns the live one. -/
theorem registerHandle_of_routes {owner object : Handle} (hobject : object ≠ Handle.null)
    (hroutes : s.loader.registry.Routes owner driver) :
    s.registerHandle owner object
      = (.ok (), s.setRegistry (s.loader.registry.adopt driver object)) := by
  obtain ⟨-, record, hfind, hvalid, rfl⟩ := hroutes
  have hrecord : (s.loader.registry.find? owner).filter (·.valid) = some record :=
    Option.filter_eq_some_iff.2 ⟨hfind, hvalid⟩
  unfold registerHandle
  rw [if_neg (by simpa [Handle.isNull] using hobject), hrecord]

/-- **What registering a handle does, and what its success does not say.**  In every state that a
history leads to, for every owner and every handle to register:

* The loader refuses exactly if the handle is null or the owner is null, unknown or destroyed.  The
  failure is always "unknown handle", and it changes nothing.
* On success the owner belongs to a loaded driver, the handle is live, and a call on it goes to the
  driver that it is bound to.  That is the owner's driver exactly if the handle was not live under
  another one: a handle that was live keeps its driver, and then nothing changes at all.
* Whatever happens, the record of every other handle and everything beside the registry stay as they
  were. -/
theorem after_registerHandle (env : Environment ω) (config : Config) (shared : Shared ω)
    (history : History) (owner object : Handle) :
    let s := (empty config shared).after env history
    let outcome := s.registerHandle owner object
    let s' := outcome.2
    (outcome.1 = .error .unknownHandle ↔
        object = Handle.null ∨ owner = Handle.null ∨ s.loader.registry.find? owner = none ∨
          ∃ record, s.loader.registry.find? owner = some record ∧ record.valid = false) ∧
      (∀ failure, outcome.1 = .error failure → failure = .unknownHandle ∧ s' = s) ∧
      (outcome.1 = .ok () →
        ∃ driver ∈ s.loader.loaded, s.loader.registry.Routes owner driver ∧
          ∃ bound ∈ s.loader.loaded, s'.loader.registry.Routes object bound ∧
            (bound = driver ↔ ∀ other, s.loader.registry.Routes object other → other = driver) ∧
            (∀ other, s.loader.registry.Routes object other → other = bound ∧ s' = s) ∧
            ∀ entry args memory, Argument.routing args = object →
              s'.loader.stack.rejection? s'.layers.kinds s'.loader.registry.isLive ⟨entry, args⟩
                = none →
              (s'.call env entry args memory).2.2.trace.invocations
                = s'.trace.invocations ++ (s'.invocation? env bound entry args memory).toList) ∧
      (∀ h ≠ object, s'.loader.registry.find? h = s.loader.registry.find? h) ∧
      s' = s.setRegistry s'.loader.registry := by
  intro s outcome s'
  have hs : s.Coherent := (empty_coherent config shared).after env history
  by_cases hrefused : object = Handle.null ∨ ∀ driver, ¬s.loader.registry.Routes owner driver
  · have houtcome : outcome = (.error .unknownHandle, s) := registerHandle_of_not_routes hrefused
    have hkept : s' = s := congrArg Prod.snd houtcome
    have hanswer : outcome.1 = .error .unknownHandle := congrArg Prod.fst houtcome
    refine ⟨⟨fun _ => hrefused.imp_right Registry.not_routes_iff.1, fun _ => hanswer⟩,
      fun failure hfailure => ?_, fun hok => ?_, fun h _ => ?_, ?_⟩
    · rw [hanswer] at hfailure
      exact ⟨(Except.error.inj hfailure).symm, hkept⟩
    · rw [hanswer] at hok
      cases hok
    · rw [hkept]
    · rw [hkept]
      rfl
  · obtain ⟨hobject, howned⟩ := not_or.1 hrefused
    obtain ⟨driver, hroutes⟩ : ∃ driver, s.loader.registry.Routes owner driver := by
      simpa using howned
    have houtcome : outcome = (.ok (), s.setRegistry (s.loader.registry.adopt driver object)) :=
      registerHandle_of_routes hobject hroutes
    have hanswer : outcome.1 = .ok () := congrArg Prod.fst houtcome
    have hs' : s' = s.setRegistry (s.loader.registry.adopt driver object) :=
      congrArg Prod.snd houtcome
    refine ⟨⟨fun herror => ?_, fun hreason => ?_⟩, fun failure hfailure => ?_, fun _ => ?_,
      fun h hne => ?_, ?_⟩
    · rw [hanswer] at herror
      cases herror
    · exact absurd (hreason.imp_right Registry.not_routes_iff.2) hrefused
    · rw [hanswer] at hfailure
      cases hfailure
    · obtain ⟨bound, hbound, howner, hkept⟩ :=
        Registry.routes_adopt (r := s.loader.registry) hobject driver
      have hroutes' : s'.loader.registry.Routes object bound := hs' ▸ hbound
      have hloaded : bound ∈ s.loader.loaded := by
        have hs'' : s'.Coherent := (registerHandle_effect env owner object s).shift.coherent hs
        have hmem := hs''.loaded_of_routes hroutes'
        rwa [hs'] at hmem
      refine ⟨driver, hs.loaded_of_routes hroutes, hroutes, bound, hloaded, hroutes', howner, ?_, ?_⟩
      · intro other hother
        obtain ⟨heq, hsame⟩ := hkept other hother
        rw [hs', hsame]
        exact ⟨heq, rfl⟩
      · rintro entry args memory rfl hpassed
        exact call_of_routes env entry memory hroutes' hpassed
    · rw [hs']
      exact Registry.find?_adopt_of_ne hne s.loader.registry driver
    · rw [hs']
      rfl

namespace Sample

/-- Two drivers are loaded, and the driver handles of both are asked for. -/
def paired : History :=
  load ++ [.addDriver "other" (.library "other"),
    .driverGet .compute (some ⟨.argument "pCount", 0⟩) (some ⟨.argument "phDevices", 0⟩)
      ((Memory.empty.store (.argument "pCount") [2]).store (.argument "phDevices") [0, 0])]

/-- The state in which the handle of the first driver was registered beside that of the second. -/
def foreign : Except Failure Unit × Session Unit :=
  (start.after Dispatch.Sample.environment paired).registerHandle ⟨0x80800002⟩ ⟨0x80800001⟩

end Sample

/-- A handle of one driver is registered with success beside a handle of another, and a listing of
devices on it still goes to the first driver. -/
theorem after_registerHandle_live :
    Sample.foreign.1 = .ok () ∧
      ∃ driver bound,
        (Sample.start.after Dispatch.Sample.environment Sample.paired).loader.registry.Routes
            ⟨0x80800002⟩ driver ∧
          Sample.foreign.2.loader.registry.Routes ⟨0x80800001⟩ bound ∧ bound ≠ driver ∧
          (Sample.foreign.2.call Dispatch.Sample.environment Dispatch.Sample.entry Sample.args
              (Dispatch.Sample.memory 1 0)).2.2.trace.invocations
            = Sample.foreign.2.trace.invocations ++
                (Sample.foreign.2.invocation? Dispatch.Sample.environment bound
                  Dispatch.Sample.entry Sample.args (Dispatch.Sample.memory 1 0)).toList := by
  have hanswer : Sample.foreign.1 = .ok () := rfl
  have hfirst : ((Sample.foreign.2.loader.registry.find? ⟨0x80800001⟩).map (·.owner)).map (·.id)
      = some 0 := by decide +kernel
  have hsecond : (((Sample.start.after Dispatch.Sample.environment Sample.paired).loader.registry.find?
      ⟨0x80800002⟩).map (·.owner)).map (·.id) = some 1 := by decide +kernel
  obtain ⟨driver, -, howner, bound, -, hbound, -, -, hcalls⟩ :=
    (after_registerHandle Dispatch.Sample.environment Config.default (Shared.start .info ())
      Sample.paired ⟨0x80800002⟩ ⟨0x80800001⟩).2.2.1 hanswer
  refine ⟨hanswer, driver, bound, howner, hbound, ?_, ?_⟩
  · rintro rfl
    have hid : some bound.id = some 0 := (congrArg _ hbound.owner_eq).symm.trans hfirst
    have hid' : some bound.id = some 1 := (congrArg _ howner.owner_eq).symm.trans hsecond
    exact absurd (hid.symm.trans hid') (by decide)
  · exact hcalls Dispatch.Sample.entry Sample.args (Dispatch.Sample.memory 1 0) rfl rfl

end Session
end DriverLoader
