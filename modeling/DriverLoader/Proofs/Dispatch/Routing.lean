/-
# Where a call goes

`Dispatch.Reaches` says in one place what has to hold for a call to reach a driver function: the
handle is live, its driver's table for the category is valid and new enough, and the slot is filled.
`route_eq_ok_iff` says that these are the gates of `Dispatch.route`, and `route_eq_error` which code
stands for the first gate that is shut.

A call without layers then does one of two things: it is refused and leaves the core as it was
(`forward_refused`), or it invokes the function it reaches, once, and settles the registry by the
answer (`forward_reaches`).
-/

import DriverLoader.Proofs.Interception.Chain

namespace DriverLoader

/-- A handle is live and belongs to a driver: it is not null and has a valid record of that
driver. -/
def Registry.Routes (r : Registry) (h : Handle) (driver : Driver) : Prop :=
  h ≠ Handle.null ∧ ∃ record, r.find? h = some record ∧ record.valid = true ∧ record.owner = driver

namespace Dispatch

/-- A call of an entry point on a handle reaches a function of a driver. -/
structure Reaches (registry : Registry) (entry : EntryPoint) (h : Handle) (driver : Driver)
    (function : DriverFunction) : Prop where
  /-- The driver owns the handle. -/
  routes : registry.Routes h driver
  /-- The driver's table for the category of the entry point is valid. -/
  valid : (driver.table entry.category).valid = true
  /-- The version negotiated for that category is at least that of the entry point. -/
  covered : entry.version.raw ≤ (driver.table entry.category).version.raw
  /-- The sub-table of the group is present, and the function stands in the slot. -/
  slot : ∃ slots, (driver.table entry.category).group? entry.group = some slots ∧
    slots.lookup entry.name = some function

/-- Handle and table are in order, but the negotiated version is older than the entry point. -/
def Outdated (registry : Registry) (entry : EntryPoint) (h : Handle) : Prop :=
  ∃ driver, registry.Routes h driver ∧ (driver.table entry.category).valid = true ∧
    (driver.table entry.category).version.raw < entry.version.raw

/-- A driver offers a function for an entry point if its table passes the gates. -/
theorem select_eq_ok_iff {entry : EntryPoint} {driver : Driver} {function : DriverFunction} :
    select entry driver = .ok function ↔
      (driver.table entry.category).valid = true ∧
        entry.version.raw ≤ (driver.table entry.category).version.raw ∧
        ∃ slots, (driver.table entry.category).group? entry.group = some slots ∧
          slots.lookup entry.name = some function := by
  unfold select Version.supports
  dsimp only
  by_cases hvalid : (driver.table entry.category).valid = true
  · by_cases hversion : entry.version.raw ≤ (driver.table entry.category).version.raw
    · cases hgroup : (driver.table entry.category).group? entry.group with
      | none => simp [hvalid, hversion]
      | some slots => cases hslot : slots.lookup entry.name <;> simp [hvalid, hversion, hslot]
    · simp [hvalid, hversion]
  · simp [hvalid]

/-- The code of a refusal by a driver's table tells an old version from everything else, and the
version is looked at before the slot. -/
theorem select_eq_error {entry : EntryPoint} {driver : Driver} {refusal : Refusal}
    (h : select entry driver = .error refusal) :
    refusal.code
      = if (driver.table entry.category).valid = true ∧
            (driver.table entry.category).version.raw < entry.version.raw then
          .unsupportedVersion
        else .uninitialized := by
  unfold select Version.supports at h
  dsimp only at h
  by_cases hvalid : (driver.table entry.category).valid = true
  · by_cases hversion : entry.version.raw ≤ (driver.table entry.category).version.raw
    · rw [if_neg fun hold => UInt32.not_lt.2 hversion hold.2]
      cases hgroup : (driver.table entry.category).group? entry.group with
      | none =>
        simp only [hvalid, hversion, hgroup] at h
        cases h
        rfl
      | some slots =>
        cases hslot : slots.lookup entry.name with
        | none =>
          simp only [hvalid, hversion, hgroup, hslot] at h
          cases h
          rfl
        | some function =>
          simp only [hvalid, hversion, hgroup, hslot] at h
          cases h
    · rw [if_pos ⟨hvalid, UInt32.not_le.1 hversion⟩]
      simp only [hvalid, hversion] at h
      cases h
      rfl
  · rw [if_neg fun hold => hvalid hold.1]
    simp only [hvalid] at h
    cases h
    rfl

/-- A live handle is routed by what its driver offers. -/
theorem route_of_routes {registry : Registry} {h : Handle} {driver : Driver}
    (hroutes : registry.Routes h driver) (entry : EntryPoint) :
    route registry entry h = (select entry driver).map (⟨driver, ·⟩) := by
  obtain ⟨-, record, hfind, hvalid, rfl⟩ := hroutes
  unfold route
  rw [hfind]
  exact if_pos hvalid

/-- A handle that no driver owns is routed nowhere. -/
theorem route_of_not_routes {registry : Registry} {h : Handle}
    (hroutes : ∀ driver, ¬registry.Routes h driver) (entry : EntryPoint) :
    route registry entry h = .error .unknownHandle := by
  unfold route
  split
  · rename_i record hfind
    refine if_neg fun hvalid => hroutes record.owner ⟨?_, record, hfind, hvalid, rfl⟩
    rintro rfl
    rw [Registry.find?_null] at hfind
    cases hfind
  · rfl

/-- At most one driver owns a live handle. -/
theorem routes_unique {registry : Registry} {h : Handle} {driver other : Driver}
    (hroutes : registry.Routes h driver) (hother : registry.Routes h other) : driver = other := by
  obtain ⟨-, record, hfind, -, rfl⟩ := hroutes
  obtain ⟨-, record', hfind', -, rfl⟩ := hother
  rw [Option.some.inj (hfind.symm.trans hfind')]

/-- **The gates of a call.**  A call goes to a function of a driver exactly if it reaches it. -/
theorem route_eq_ok_iff {registry : Registry} {entry : EntryPoint} {h : Handle} {driver : Driver}
    {function : DriverFunction} :
    route registry entry h = .ok ⟨driver, function⟩ ↔
      Reaches registry entry h driver function := by
  constructor
  · intro hroute
    by_cases hroutes : ∃ owner, registry.Routes h owner
    · obtain ⟨owner, hroutes⟩ := hroutes
      rw [route_of_routes hroutes] at hroute
      cases hselect : select entry owner with
      | error refusal =>
        rw [hselect] at hroute
        cases hroute
      | ok found =>
        rw [hselect] at hroute
        cases hroute
        obtain ⟨hvalid, hversion, hslot⟩ := select_eq_ok_iff.1 hselect
        exact ⟨hroutes, hvalid, hversion, hslot⟩
    · rw [route_of_not_routes fun owner howner => hroutes ⟨owner, howner⟩] at hroute
      cases hroute
  · rintro ⟨hroutes, hvalid, hversion, hslot⟩
    rw [route_of_routes hroutes, select_eq_ok_iff.2 ⟨hvalid, hversion, hslot⟩]
    rfl

/-- **The code of a refusal.**  An old version has a code of its own, whether or not the slot is
filled; every other gate that is shut answers "uninitialised". -/
theorem route_eq_error {registry : Registry} {entry : EntryPoint} {h : Handle} {refusal : Refusal}
    (hroute : route registry entry h = .error refusal) :
    (Outdated registry entry h → refusal.code = .unsupportedVersion) ∧
      (¬Outdated registry entry h → refusal.code = .uninitialized) := by
  by_cases hroutes : ∃ owner, registry.Routes h owner
  · obtain ⟨owner, hroutes⟩ := hroutes
    rw [route_of_routes hroutes] at hroute
    cases hselect : select entry owner with
    | ok found =>
      rw [hselect] at hroute
      cases hroute
    | error found =>
      rw [hselect] at hroute
      cases hroute
      rw [select_eq_error hselect]
      refine ⟨?_, fun hnot => if_neg fun hold => hnot ⟨owner, hroutes, hold⟩⟩
      rintro ⟨other, hother, hold⟩
      rw [routes_unique hroutes hother]
      exact if_pos hold
  · rw [route_of_not_routes fun owner howner => hroutes ⟨owner, howner⟩] at hroute
    cases hroute
    exact ⟨fun ⟨owner, howner, _⟩ => absurd ⟨owner, howner⟩ hroutes, fun _ => rfl⟩

variable {ω : Type}

/-- A call that reaches nothing is refused, and the core stays as it was. -/
theorem forward_refused (env : Environment ω) (call : Call) (s : Frame ω)
    (hreaches : ∀ driver function,
      ¬Reaches s.registry call.entry call.handle driver function) :
    (Outdated s.registry call.entry call.handle →
        (forward env call s).1 = .unsupportedVersion) ∧
      (¬Outdated s.registry call.entry call.handle → (forward env call s).1 = .uninitialized) ∧
      (forward env call s).2.core = s.core := by
  cases hroute : route s.registry call.entry call.handle with
  | ok target => exact absurd (route_eq_ok_iff.1 hroute) (hreaches target.driver target.function)
  | error refusal =>
    unfold forward
    rw [hroute]
    exact ⟨(route_eq_error hroute).1, (route_eq_error hroute).2, rfl⟩

/-- What a call that reaches a function makes of a core: the function sees the caller's memory and
the outside as they are and is invoked once, and a success settles the registry. -/
def settled (env : Environment ω) (call : Call) (driver : Driver) (function : DriverFunction)
    (c : Core ω) : Core ω :=
  let reply := env.run function call.entry call.args c.memory c.host
  { c with
    registry :=
      if reply.result.isSuccess then settle c.registry call driver reply.memory else c.registry
    memory := reply.memory
    host := reply.host
    invocations :=
      c.invocations ++ [⟨driver.id, call.entry.name, function, call.args, reply.result⟩] }

/-- A call that reaches a function gives back its answer and settles the core by it. -/
theorem forward_reaches (env : Environment ω) (call : Call) (s : Frame ω) {driver : Driver}
    {function : DriverFunction}
    (hreaches : Reaches s.registry call.entry call.handle driver function) :
    (forward env call s).1 = (env.run function call.entry call.args s.memory s.host).result ∧
      (forward env call s).2.core = settled env call driver function s.core := by
  have hinvoke := Frame.core_invoke env driver function call.entry call.args s
  unfold forward
  rw [route_eq_ok_iff.2 hreaches]
  dsimp only
  split
  · rename_i hsuccess
    refine ⟨rfl, (congrArg (fun c : Core ω =>
      { c with registry := settle s.registry call driver c.memory }) hinvoke).trans ?_⟩
    exact congrArg (fun registry => { settled env call driver function s.core with registry })
      (if_pos hsuccess).symm
  · rename_i hfailure
    refine ⟨rfl, hinvoke.trans ?_⟩
    exact congrArg (fun registry => { settled env call driver function s.core with registry })
      (if_neg hfailure).symm

/-- What a call without layers answers and makes of the core depends on the core alone. -/
theorem forward_followsCore (env : Environment ω) (call : Call) :
    Rest.FollowsCore (forward env call) := by
  intro s s' hcore
  have hregistry : s.registry = s'.registry := congrArg Core.registry hcore
  have hmemory : s.memory = s'.memory := congrArg Core.memory hcore
  have hhost : s.host = s'.host := congrArg Core.host hcore
  by_cases hreaches : ∃ driver function,
      Reaches s.registry call.entry call.handle driver function
  · obtain ⟨driver, function, hreaches⟩ := hreaches
    obtain ⟨hresult, hsettled⟩ := forward_reaches env call s hreaches
    obtain ⟨hresult', hsettled'⟩ := forward_reaches env call s' (hregistry ▸ hreaches)
    rw [hresult, hsettled, hresult', hsettled', hcore, hmemory, hhost]
    exact ⟨rfl, rfl⟩
  · have hnone : ∀ driver function,
        ¬Reaches s.registry call.entry call.handle driver function :=
      fun driver function h => hreaches ⟨driver, function, h⟩
    obtain ⟨hold, hother, hkept⟩ := forward_refused env call s hnone
    obtain ⟨hold', hother', hkept'⟩ := forward_refused env call s' (hregistry ▸ hnone)
    refine ⟨?_, hkept.trans (hcore.trans hkept'.symm)⟩
    by_cases houtdated : Outdated s.registry call.entry call.handle
    · exact (hold houtdated).trans (hold' (hregistry ▸ houtdated)).symm
    · exact (hother houtdated).trans (hother' (hregistry ▸ houtdated)).symm

end Dispatch
end DriverLoader
