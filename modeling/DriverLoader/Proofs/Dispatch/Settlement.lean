/-
# What a call leaves in the registry

A call that does not answer "success" leaves the registry as it was.  After a success an entry point
that destroys its object has ended the handle of the call, and then every handle that stands in an
output array is bound to the driver that owned the handle, unless it is null or live already.

Which handles stand in the output arrays is said by `EntryPoint.Returned`, in terms of the arguments,
of the parameters and of the caller's memory after the call; `mem_outputHandles_iff` says that these
are the handles that the dispatcher reads.  `invoke_registry` is the whole statement, for every stack
that relays.
-/

import DriverLoader.Proofs.Dispatch.Routing
import DriverLoader.Proofs.Registry.Adoption

namespace DriverLoader

namespace Memory

/-- The handles read from a location on are those in the slots that the region has. -/
theorem mem_handlesAt_iff {m : Memory} {location : Location} {n : Nat} {h : Handle} :
    h ∈ m.handlesAt location n ↔
      ∃ slot, slot < n ∧ (m.slots location.region)[location.slot + slot]? = some h.value := by
  unfold handlesAt
  rw [List.mem_map]
  constructor
  · rintro ⟨value, hmem, rfl⟩
    obtain ⟨slot, hslot⟩ := List.getElem?_of_mem hmem
    rw [List.getElem?_take] at hslot
    split at hslot
    · rename_i hlt
      rw [List.getElem?_drop] at hslot
      exact ⟨slot, hlt, hslot⟩
    · cases hslot
  · rintro ⟨slot, hlt, hslot⟩
    refine ⟨h.value, List.mem_of_getElem? (i := slot) ?_, rfl⟩
    rw [List.getElem?_take, if_pos hlt, List.getElem?_drop]
    exact hslot

end Memory

namespace EntryPoint

variable {entry : EntryPoint} {args : List CallArgument} {memory : Memory}

/-- How many handles the array at a position of a call is said to hold: as many as the counter directly
before it says, none if that counter is not given, and one if no counter stands before it. -/
inductive Sized (entry : EntryPoint) (args : List CallArgument) (memory : Memory) :
    Nat → Nat → Prop where
  | counted {before : Nat} {p : Parameter} {counter : Location}
      (parameter : entry.parameters[before]? = some p) (count : p.count = true)
      (given : args[before]? = some (.pointer (some counter))) :
      Sized entry args memory (before + 1) (memory.readCount counter).toNat
  | uncounted {before : Nat} {p : Parameter} {arg : CallArgument}
      (parameter : entry.parameters[before]? = some p) (count : p.count = true)
      (given : args[before]? = some arg) (null : ∀ counter, arg ≠ .pointer (some counter)) :
      Sized entry args memory (before + 1) 0
  | alone {index : Nat}
      (parameter : ∀ before p, index = before + 1 → entry.parameters[before]? = some p →
        p.count = false) :
      Sized entry args memory index 1

/-- A handle stands in an array that the driver fills: in one of as many slots as the array is said to
hold. -/
def Returned (entry : EntryPoint) (args : List CallArgument) (memory : Memory) (h : Handle) : Prop :=
  ∃ (index : Nat) (array : Location) (p : Parameter) (n slot : Nat),
    args[index]? = some (.handles (some array)) ∧ entry.parameters[index]? = some p ∧
      p.input = false ∧ Sized entry args memory index n ∧ slot < n ∧
      (memory.slots array.region)[array.slot + slot]? = some h.value

/-- The output arrays are the arguments that point to handles, at parameters that are not read. -/
theorem mem_outputs_iff {index : Nat} {array : Option Location} :
    (index, array) ∈ entry.outputs args ↔
      args[index]? = some (.handles array) ∧
        ∃ p, entry.parameters[index]? = some p ∧ p.input = false := by
  unfold outputs
  rw [List.mem_filterMap]
  constructor
  · rintro ⟨⟨⟨arg, p⟩, position⟩, hmem, hsome⟩
    rw [List.mem_zipIdx_iff_getElem?, List.getElem?_zip_eq_some] at hmem
    obtain ⟨harg, hparameter⟩ := hmem
    cases arg with
    | handles address =>
      dsimp only at hsome
      split at hsome
      · cases hsome
      · rename_i hinput
        cases hsome
        exact ⟨harg, p, hparameter, Bool.eq_false_iff.2 hinput⟩
    | _ => cases hsome
  · rintro ⟨harg, p, hparameter, hinput⟩
    refine ⟨((.handles array, p), index), ?_, ?_⟩
    · rw [List.mem_zipIdx_iff_getElem?, List.getElem?_zip_eq_some]
      exact ⟨harg, hparameter⟩
    · simp [hinput]

/-- A counter stands directly before the array that it counts. -/
theorem counter?_succ {before : Nat} {p : Parameter} (hp : entry.parameters[before]? = some p) :
    entry.counter? args (before + 1) = if p.count then args[before]? else none := by
  show ((entry.parameters[before]?.filter (·.count)).map fun _ => before).bind _ = _
  rw [hp, Option.filter_some]
  split <;> rfl

/-- The array at a position is said to hold as many handles as the dispatcher reads from it. -/
theorem Sized.eq_outputSize {index n : Nat} (h : Sized entry args memory index n) :
    n = entry.outputSize args memory index := by
  unfold outputSize
  cases h with
  | counted parameter count given => rw [counter?_succ parameter, if_pos count, given]
  | uncounted parameter count given null =>
    rw [counter?_succ parameter, if_pos count, given]
    split
    · rename_i counter heq
      exact absurd (Option.some.inj heq) (null counter)
    · rfl
    · rename_i heq
      cases heq
  | alone parameter =>
    have hcounter : entry.counter? args index = none := by
      cases index with
      | zero => rfl
      | succ before =>
        cases hp : entry.parameters[before]? with
        | none => simp [counter?, countFor?, hp]
        | some p =>
          rw [counter?_succ hp, parameter before p rfl hp]
          rfl
    rw [hcounter]

/-- Every array of a call is said to hold some number of handles. -/
theorem sized_outputSize {index : Nat} (hindex : index < args.length) :
    Sized entry args memory index (entry.outputSize args memory index) := by
  cases index with
  | zero => exact .alone fun before p hbefore => absurd hbefore (Nat.succ_ne_zero before).symm
  | succ before =>
    by_cases hcounted : ∃ p, entry.parameters[before]? = some p ∧ p.count = true
    · obtain ⟨p, hp, hcount⟩ := hcounted
      have hgiven := List.getElem?_eq_getElem (Nat.lt_of_succ_lt hindex)
      by_cases hpointer : ∃ counter, args[before] = .pointer (some counter)
      · obtain ⟨counter, hpointer⟩ := hpointer
        rw [hpointer] at hgiven
        have h : Sized entry args memory (before + 1) _ := .counted hp hcount hgiven
        exact h.eq_outputSize ▸ h
      · have h : Sized entry args memory (before + 1) 0 :=
          .uncounted hp hcount hgiven fun counter heq => hpointer ⟨counter, heq⟩
        exact h.eq_outputSize ▸ h
    · have h : Sized entry args memory (before + 1) 1 := .alone fun other p hother hp => by
        obtain rfl := Nat.succ.inj hother
        exact Bool.eq_false_iff.2 fun hcount => hcounted ⟨p, hp, hcount⟩
      exact h.eq_outputSize ▸ h

/-- **The dispatcher reads exactly the handles that were returned.** -/
theorem mem_outputHandles_iff {h : Handle} :
    h ∈ entry.outputHandles args memory ↔ Returned entry args memory h := by
  unfold outputHandles
  rw [List.mem_flatMap]
  constructor
  · rintro ⟨⟨index, array⟩, hmem, hread⟩
    obtain ⟨harg, p, hparameter, hinput⟩ := mem_outputs_iff.1 hmem
    cases array with
    | none => cases hread
    | some array =>
      obtain ⟨slot, hlt, hslot⟩ := Memory.mem_handlesAt_iff.1 hread
      have hindex := (List.getElem?_eq_some_iff.1 harg).1
      exact ⟨index, array, p, _, slot, harg, hparameter, hinput, sized_outputSize hindex, hlt, hslot⟩
  · rintro ⟨index, array, p, n, slot, harg, hparameter, hinput, hsized, hlt, hslot⟩
    refine ⟨(index, some array), mem_outputs_iff.2 ⟨harg, p, hparameter, hinput⟩, ?_⟩
    exact Memory.mem_handlesAt_iff.2 ⟨slot, hsized.eq_outputSize ▸ hlt, hslot⟩

end EntryPoint

/-- A call ends a handle if it succeeds: the one that it is made on, if the entry point destroys it. -/
def Call.Destroys (call : Call) (h : Handle) : Prop :=
  call.entry.releases = true ∧ h = call.handle

namespace Registry

/-- Ending the handle of a call first makes the record of a destroyed handle invalid, and leaves all
others as they are. -/
theorem find?_released (r : Registry) (call : Call) (h : Handle) :
    (call.Destroys h →
        (if call.entry.releases then r.release call.handle else r).find? h
          = (r.find? h).map fun record => { record with valid := false }) ∧
      (¬call.Destroys h →
        (if call.entry.releases then r.release call.handle else r).find? h = r.find? h) := by
  constructor
  · rintro ⟨hreleases, rfl⟩
    rw [if_pos hreleases, find?_release]
    simp
  · intro hkept
    split
    · rename_i hreleases
      have hne : h ≠ call.handle := fun heq => hkept ⟨hreleases, heq⟩
      rw [find?_release]
      simp [hne]
    · rfl

/-- A destroyed handle is not live. -/
theorem isLive_eq_false_of_invalid {r : Registry} {h : Handle} {found : Option HandleRecord}
    (hfind : r.find? h = found.map fun record => { record with valid := false }) :
    r.isLive h = false := by
  unfold isLive
  rw [hfind]
  cases found <;> rfl

end Registry

namespace Dispatch

/-- **What becomes of the records** when a call succeeds that is routed to a driver and leaves `memory`
behind.  Each handle falls into one of the three cases, and no live record is ever bound anew. -/
structure Settles (before after : Registry) (call : Call) (driver : Driver) (memory : Memory) :
    Prop where
  /-- A handle that was returned gets a fresh live record of the driver, unless it is null or has a
  live record that the call did not end. -/
  bound : ∀ h, call.entry.Returned call.args memory h → h ≠ Handle.null →
    (before.isLive h = false ∨ call.Destroys h) →
      ∃ serial, before.nextSerial ≤ serial ∧ after.find? h = some ⟨serial, driver, true⟩
  /-- A handle that was destroyed and not returned keeps its record, which becomes invalid. -/
  ended : ∀ h, call.Destroys h → (¬call.entry.Returned call.args memory h ∨ h = Handle.null) →
    after.find? h = (before.find? h).map fun record => { record with valid := false }
  /-- Every other handle keeps its record as it was. -/
  kept : ∀ h, ¬call.Destroys h →
    (¬call.entry.Returned call.args memory h ∨ h = Handle.null ∨ before.isLive h = true) →
      after.find? h = before.find? h

/-- Settling the registry does what has to become of the records.  A destroyed handle is let go before
anything is adopted. -/
theorem settle_settles (r : Registry) (call : Call) (driver : Driver) (memory : Memory) :
    Settles r (settle r call driver memory) call driver memory := by
  have hserial : (if call.entry.releases then r.release call.handle else r).nextSerial
      = r.nextSerial := by
    split
    · unfold Registry.release
      split <;> rfl
    · rfl
  have hreleased := Registry.find?_released r call
  unfold settle
  dsimp only
  generalize (if call.entry.releases then r.release call.handle else r) = r' at hserial hreleased ⊢
  refine ⟨fun h hreturned hnull hadmitted => ?_, fun h hdestroys hout => ?_,
    fun h hdestroys hout => ?_⟩
  · have hlive : r'.isLive h = false := by
      by_cases hdestroys : call.Destroys h
      · exact Registry.isLive_eq_false_of_invalid ((hreleased h).1 hdestroys)
      · rw [Registry.isLive_congr ((hreleased h).2 hdestroys)]
        exact hadmitted.resolve_right hdestroys
    rw [← hserial]
    exact Registry.find?_adoptAll_of_admits (EntryPoint.mem_outputHandles_iff.2 hreturned)
      (Registry.admits_eq_true_iff.2 ⟨hnull, hlive⟩) driver
  · refine (Registry.find?_adoptAll_of_kept ?_ driver).trans ((hreleased h).1 hdestroys)
    exact hout.imp (fun hnot hmem => hnot (EntryPoint.mem_outputHandles_iff.1 hmem))
      fun hnull => Registry.admits_eq_false_iff.2 (Or.inl hnull)
  · refine (Registry.find?_adoptAll_of_kept ?_ driver).trans ((hreleased h).2 hdestroys)
    rw [Registry.admits_congr ((hreleased h).2 hdestroys)]
    exact hout.imp (fun hnot hmem => hnot (EntryPoint.mem_outputHandles_iff.1 hmem))
      Registry.admits_eq_false_iff.2

variable {ω : Type}

/-- A call without layers that does not succeed leaves the registry as it was; one that succeeds was
routed to a driver and settles the registry for it. -/
theorem forward_registry (env : Environment ω) (call : Call) (s : Frame ω) :
    ((forward env call s).1 ≠ .success → (forward env call s).2.registry = s.registry) ∧
      ((forward env call s).1 = .success → ∃ driver function,
        Reaches s.registry call.entry call.handle driver function ∧
          (forward env call s).2.registry
            = settle s.registry call driver (forward env call s).2.memory) := by
  by_cases hreaches : ∃ driver function,
      Reaches s.registry call.entry call.handle driver function
  · obtain ⟨driver, function, hreaches⟩ := hreaches
    obtain ⟨hresult, hcore⟩ := forward_reaches env call s hreaches
    have hregistry := congrArg Core.registry hcore
    have hmemory := congrArg Core.memory hcore
    have hsuccess : (env.run function call.entry call.args s.memory s.host).result.isSuccess = true
        ↔ (forward env call s).1 = .success := by
      rw [hresult]
      exact decide_eq_true_iff
    refine ⟨fun hanswer => hregistry.trans (if_neg fun h => hanswer (hsuccess.1 h)),
      fun hanswer => ⟨driver, function, hreaches, ?_⟩⟩
    refine hregistry.trans ((if_pos (hsuccess.2 hanswer)).trans ?_)
    exact congrArg (settle s.registry call driver) hmemory.symm
  · obtain ⟨hold, hother, hcore⟩ := forward_refused env call s
      fun driver function h => hreaches ⟨driver, function, h⟩
    refine ⟨fun _ => congrArg Core.registry hcore, fun hanswer => ?_⟩
    by_cases houtdated : Outdated s.registry call.entry call.handle
    · exact absurd ((hold houtdated).symm.trans hanswer) (by decide)
    · exact absurd ((hother houtdated).symm.trans hanswer) (by decide)

/-- **What a call leaves in the registry.**  Through any stack of tracing and validation layers, and
of probes that do not make up answers, a call that does not answer "success" leaves the registry
exactly as it was.  One that does was routed to the driver that owns its handle; the registry is then
the old one with the handle ended, if the entry point destroys it, and with the handles in the output
arrays adopted for that driver in the order of the parameters. -/
theorem invoke_registry (env : Environment ω) (stack : LayerStack) (call : Call) (s : Frame ω)
    (hhonest : stack.Honest s.layers.kinds) :
    ((invoke env stack call s).1 ≠ .success →
        (invoke env stack call s).2.registry = s.registry) ∧
      ((invoke env stack call s).1 = .success → ∃ driver,
        s.registry.Routes call.handle driver ∧
          (invoke env stack call s).2.registry
            = settle s.registry call driver (invoke env stack call s).2.memory ∧
          Settles s.registry (invoke env stack call s).2.registry call driver
            (invoke env stack call s).2.memory) := by
  obtain ⟨hcore, hanswer⟩ := LayerStack.run_spec env call (forward_followsCore env call) stack s
  have hresult := hanswer hhonest.relays
  change (invoke env stack call s).2.core = _ at hcore
  change (invoke env stack call s).1 = _ at hresult
  cases hrejection : stack.rejection? s.layers.kinds s.registry.isLive call with
  | some code =>
    rw [hrejection] at hcore hresult
    have hcode : code ≠ .success := fun h =>
      LayerStack.rejection?_ne_success hhonest s.registry.isLive call (h ▸ hrejection)
    exact ⟨fun _ => congrArg Core.registry hcore, fun h => absurd (hresult.symm.trans h) hcode⟩
  | none =>
    rw [hrejection] at hcore hresult
    have hregistry : _ = (forward env call s).2.registry := congrArg Core.registry hcore
    have hmemory : _ = (forward env call s).2.memory := congrArg Core.memory hcore
    obtain ⟨hfailure, hsuccess⟩ := forward_registry env call s
    refine ⟨fun h => hregistry.trans (hfailure fun hs => h (hresult.trans hs)), fun h => ?_⟩
    obtain ⟨driver, function, hreaches, hsettled⟩ := hsuccess (hresult.symm.trans h)
    have hsettle : (invoke env stack call s).2.registry
        = settle s.registry call driver (invoke env stack call s).2.memory := by
      rw [show (invoke env stack call s).2.memory = (forward env call s).2.memory from hmemory]
      exact hregistry.trans hsettled
    exact ⟨driver, hreaches.routes, hsettle, hsettle ▸ settle_settles ..⟩

/-! ### A frame to try calls on -/

namespace Sample

/-- A sub-table with the null driver's function for one entry point. -/
def subTable (entry : String) : SubTable :=
  [(entry, ⟨.null Version.current, entry⟩)]

/-- An environment in which every module can list drivers and devices the way the null driver does, and
whose observers change nothing. -/
def environment : Environment Unit where
  opens _ := true
  exports _ symbol :=
    if symbol = "zeGetDriverProcAddrTable" then some fun _ => (.success, subTable "zeDriverGet")
    else if symbol = "zeGetDeviceProcAddrTable" then
      some fun _ => (.success, subTable "zeDeviceGet")
    else none
  invoke _ _ _ memory host := ⟨.uninitialized, memory, host, []⟩
  prologue _ _ _ := (0, [])
  epilogue _ _ _ _ _ := []

/-- A driver that can list devices. -/
def driver : Driver where
  id := 0
  name := "sample"
  index := 0
  module := .library "sample"
  compute := ⟨true, Version.current, [("Device", subTable "zeDeviceGet")]⟩
  tools := Table.invalid
  sysman := Table.invalid

/-- The entry point that lists the devices of a driver. -/
def entry : EntryPoint :=
  { EntryPoint.forwarded 0 "zeDeviceGet" [
      .handle .compute "hDriver",
      .counter "pCount",
      .nullable (.handles "phDevices")] with
    group := "Device" }

/-- A call on a handle with a counter and an array. -/
def call : Call :=
  ⟨entry, [
    .handle ⟨0x1000⟩,
    .pointer (some ⟨.argument "pCount", 0⟩),
    .handles (some ⟨.argument "phDevices", 0⟩)]⟩

/-- Memory in which the counter and the only slot of the array hold the given values. -/
def memory (count slot : UInt64) : Memory :=
  (Memory.empty.store (.argument "pCount") [count]).store (.argument "phDevices") [slot]

/-- A frame with a tracing layer and a validation layer, in which one handle is known. -/
def frame (count slot : UInt64) : Frame Unit where
  layers := [.tracing .logging, .validation (.ofConfig ⟨true, true⟩)]
  host := ⟨NullDriver.handleBase, ()⟩
  log := Log.empty .info
  trace := []
  registry := Registry.empty.adopt driver ⟨0x1000⟩
  memory := memory count slot

/-- Both layers of the frame. -/
def stack : LayerStack :=
  [⟨0⟩, ⟨1⟩]

end Sample

/-- A listing with room for one device passes both layers and settles the registry. -/
theorem invoke_registry_listing :
    Sample.stack.Honest (Sample.frame 1 0).layers.kinds ∧
      (invoke Sample.environment Sample.stack Sample.call (Sample.frame 1 0)).1 = .success ∧
      ∃ driver, (Sample.frame 1 0).registry.Routes ⟨0x1000⟩ driver ∧
        Settles (Sample.frame 1 0).registry
          (invoke Sample.environment Sample.stack Sample.call (Sample.frame 1 0)).2.registry
          Sample.call driver
          (invoke Sample.environment Sample.stack Sample.call (Sample.frame 1 0)).2.memory := by
  have hhonest : Sample.stack.Honest (Sample.frame 1 0).layers.kinds := by
    intro id hmem
    rcases List.mem_cons.1 hmem with rfl | hmem
    · rfl
    obtain rfl := List.mem_singleton.1 hmem
    exact LayerKind.honest_ofConfig ⟨true, true⟩
  have hsuccess :
      (invoke Sample.environment Sample.stack Sample.call (Sample.frame 1 0)).1 = .success := by
    decide +kernel
  obtain ⟨driver, hroutes, -, hsettles⟩ := (invoke_registry Sample.environment Sample.stack
    Sample.call (Sample.frame 1 0) hhonest).2 hsuccess
  exact ⟨hhonest, hsuccess, driver, hroutes, hsettles⟩

end Dispatch
end DriverLoader
