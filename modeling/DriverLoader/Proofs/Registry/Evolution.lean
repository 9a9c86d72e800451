/-
# How a registry evolves

While the drivers stay, a registry changes in four ways only: handles are adopted and ended, records
are lent and taken back.  `Registry.Evolves` says so, together with the drivers that each handle may be
adopted for and the handles that may be ended.  It is what calls and enumerations do to a registry
(`Dispatch.invoke_evolves`, `Enumeration.run_evolves`).

No such change brings in a driver from elsewhere: a record belongs to the driver that an earlier record
of the handle belonged to, or to one that the handle may be adopted for (`Evolves.mem_records`).  A live
record stays until its handle is ended (`Evolves.find?_of_live`), and a handle that is not live stays so
until it is adopted (`Evolves.isLive_eq_false`).
-/

import DriverLoader.Enumeration
import DriverLoader.Proofs.Dispatch.Settlement

namespace DriverLoader
namespace Registry

/-- What a registry can become while drivers stay: a handle is adopted for drivers that `binds` allows
for it, and only those that `ends` allows are ended. -/
inductive Evolves (binds : Handle → Driver → Prop) (ends : Handle → Prop) (r : Registry) :
    Registry → Prop where
  | refl : Evolves binds ends r r
  | adopt {r' : Registry} {h : Handle} {driver : Driver} (allowed : binds h driver)
      (before : Evolves binds ends r r') : Evolves binds ends r (r'.adopt driver h)
  | release {r' : Registry} {h : Handle} (allowed : ends h) (before : Evolves binds ends r r') :
      Evolves binds ends r (r'.release h)
  | lend {r' r'' : Registry} {h : Handle} (lent : r'.lend? h = some r'')
      (before : Evolves binds ends r r') : Evolves binds ends r r''
  | reclaim {r' : Registry} (before : Evolves binds ends r r') : Evolves binds ends r r'.reclaim

namespace Evolves

variable {binds binds' : Handle → Driver → Prop} {ends ends' : Handle → Prop} {r r' r'' : Registry}

theorem trans (first : Evolves binds ends r r') (second : Evolves binds ends r' r'') :
    Evolves binds ends r r'' := by
  induction second with
  | refl => exact first
  | adopt allowed _ ih => exact ih.adopt allowed
  | release allowed _ ih => exact ih.release allowed
  | lend lent _ ih => exact ih.lend lent
  | reclaim _ ih => exact ih.reclaim

/-- What is allowed may be allowed more freely. -/
theorem mono (hevolves : Evolves binds ends r r')
    (hbinds : ∀ h driver, binds h driver → binds' h driver) (hends : ∀ h, ends h → ends' h) :
    Evolves binds' ends' r r' := by
  induction hevolves with
  | refl => exact refl
  | adopt allowed _ ih => exact ih.adopt (hbinds _ _ allowed)
  | release allowed _ ih => exact ih.release (hends _ allowed)
  | lend lent _ ih => exact ih.lend lent
  | reclaim _ ih => exact ih.reclaim

/-- Adopting handles one after another is a change that is allowed if each of them is. -/
theorem adoptAll {driver : Driver} {hs : List Handle} (allowed : ∀ h ∈ hs, binds h driver)
    (before : Evolves binds ends r r') : Evolves binds ends r (r'.adoptAll driver hs) := by
  unfold Registry.adoptAll
  induction hs generalizing r' with
  | nil => exact before
  | cons h rest ih =>
    exact ih (fun other hmem => allowed other (List.mem_cons_of_mem h hmem))
      (before.adopt (allowed h List.mem_cons_self))

end Evolves

/-- Binding a handle brings in its record and no other. -/
theorem mem_of_mem_bind {h key : Handle} {record found : HandleRecord}
    {records : List (Handle × HandleRecord)} (hmem : (key, found) ∈ bind h record records) :
    (key, found) = (h, record) ∨ (key, found) ∈ records := by
  induction records with
  | nil => exact Or.inl (List.mem_singleton.1 hmem)
  | cons head rest ih =>
    obtain ⟨first, old⟩ := head
    unfold bind at hmem
    split at hmem
    · exact (List.mem_cons.1 hmem).imp_right (List.mem_cons_of_mem _)
    · rcases List.mem_cons.1 hmem with heq | hmem
      · exact Or.inr (heq ▸ List.mem_cons_self)
      · exact (ih hmem).imp_right (List.mem_cons_of_mem _)

/-- A record after an adoption is an old one or belongs to the driver that the handle was adopted
for. -/
theorem mem_records_adopt {r : Registry} {driver : Driver} {h key : Handle} {found : HandleRecord}
    (hmem : (key, found) ∈ (r.adopt driver h).records) :
    (key ≠ Handle.null ∧ key = h ∧ found.owner = driver) ∨ (key, found) ∈ r.records := by
  unfold adopt at hmem
  split at hmem
  · rename_i hadmits
    refine (mem_of_mem_bind hmem).imp_left fun heq => ?_
    obtain ⟨rfl, rfl⟩ := Prod.mk.inj heq
    exact ⟨(admits_eq_true_iff.1 hadmits).1, rfl, rfl⟩
  · exact Or.inr hmem

/-- Ending a handle changes no owner. -/
theorem mem_records_release {r : Registry} {h key : Handle} {found : HandleRecord}
    (hmem : (key, found) ∈ (r.release h).records) :
    ∃ old, (key, old) ∈ r.records ∧ old.owner = found.owner := by
  unfold release at hmem
  split at hmem
  · exact ⟨found, hmem, rfl⟩
  · obtain ⟨⟨other, old⟩, hold, heq⟩ := List.mem_map.1 hmem
    obtain ⟨rfl, rfl⟩ := Prod.mk.inj heq
    refine ⟨old, hold, ?_⟩
    split <;> rfl

/-- A record that is found is one of the records. -/
theorem mem_records_of_find? {r : Registry} {h : Handle} {record : HandleRecord}
    (hfind : r.find? h = some record) : (h, record) ∈ r.records := by
  unfold find? at hfind
  split at hfind
  · cases hfind
  · obtain ⟨before, after, hsplit, -⟩ := List.lookup_eq_some_iff.1 hfind
    rw [hsplit]
    exact List.mem_append_right before List.mem_cons_self

/-- **No record comes from elsewhere.** -/
theorem Evolves.mem_records {binds : Handle → Driver → Prop} {ends : Handle → Prop}
    {r r' : Registry} (hevolves : Evolves binds ends r r') {h : Handle} {record : HandleRecord}
    (hmem : (h, record) ∈ r'.records) :
    (∃ old, (h, old) ∈ r.records ∧ old.owner = record.owner) ∨
      (h ≠ Handle.null ∧ binds h record.owner) := by
  induction hevolves generalizing record with
  | refl => exact Or.inl ⟨record, hmem, rfl⟩
  | adopt allowed _ ih =>
    rcases mem_records_adopt hmem with ⟨hnull, rfl, rfl⟩ | hmem
    · exact Or.inr ⟨hnull, allowed⟩
    · exact ih hmem
  | release allowed _ ih =>
    obtain ⟨old, hold, howner⟩ := mem_records_release hmem
    rw [← howner]
    exact ih hold
  | lend lent _ ih =>
    obtain ⟨_, -, rfl⟩ := Option.map_eq_some_iff.1 lent
    exact ih hmem
  | reclaim _ ih => exact ih hmem

/-- **A live record stays until its handle is ended.** -/
theorem Evolves.find?_of_live {binds : Handle → Driver → Prop} {ends : Handle → Prop}
    {r r' : Registry} (hevolves : Evolves binds ends r r') {h : Handle} {record : HandleRecord}
    (hfind : r.find? h = some record) (hvalid : record.valid = true) (hends : ¬ends h) :
    r'.find? h = some record := by
  induction hevolves with
  | refl => exact hfind
  | @adopt r' other driver allowed _ ih =>
    by_cases heq : h = other
    · subst heq
      have hlive : r'.isLive h = true := by
        unfold isLive
        rw [ih]
        exact hvalid
      rw [adopt_of_not_admits (admits_eq_false_iff.2 (Or.inr hlive)), ih]
    · rw [find?_adopt_of_ne heq, ih]
  | @release r' other allowed _ ih =>
    have hne : h ≠ other := fun heq => hends (heq ▸ allowed)
    rw [find?_release, ih]
    simp [hne]
  | lend lent _ ih =>
    obtain ⟨_, -, rfl⟩ := Option.map_eq_some_iff.1 lent
    exact ih
  | reclaim _ ih => exact ih

/-- **A handle that is not live stays so until it is adopted.** -/
theorem Evolves.isLive_eq_false {binds : Handle → Driver → Prop} {ends : Handle → Prop}
    {r r' : Registry} (hevolves : Evolves binds ends r r') {h : Handle}
    (hdead : r.isLive h = false) (hbinds : ∀ driver, ¬binds h driver) : r'.isLive h = false := by
  induction hevolves with
  | refl => exact hdead
  | @adopt r' other driver allowed _ ih =>
    have hne : h ≠ other := fun heq => hbinds driver (heq ▸ allowed)
    rw [isLive_congr (find?_adopt_of_ne hne r' driver), ih]
  | @release r' other allowed _ ih =>
    by_cases heq : h = other
    · subst heq
      have hinvalid : (r'.release h).find? h
          = (r'.find? h).map fun record => { record with valid := false } := by
        rw [find?_release]
        simp
      exact isLive_eq_false_of_invalid hinvalid
    · have hfind : (r'.release other).find? h = r'.find? h := by
        rw [find?_release]
        simp [heq]
      rw [isLive_congr hfind, ih]
  | lend lent _ ih =>
    obtain ⟨_, -, rfl⟩ := Option.map_eq_some_iff.1 lent
    exact ih
  | reclaim _ ih => exact ih

end Registry

namespace Dispatch

variable {ω : Type}

/-- A call succeeds: no layer rejects it, and the function of a driver that it reaches answers "success"
and leaves `after` in the caller's memory. -/
structure Succeeds (env : Environment ω) (stack : LayerStack) (call : Call) (s : Frame ω)
    (driver : Driver) (function : DriverFunction) (after : Memory) : Prop where
  passed : stack.rejection? s.layers.kinds s.registry.isLive call = none
  reaches : Reaches s.registry call.entry call.handle driver function
  answered : (env.run function call.entry call.args s.memory s.host).result = .success
  memory : (env.run function call.entry call.args s.memory s.host).memory = after

/-- A successful call hands a handle out for a driver: the handle stands in an output array. -/
def HandsOut (env : Environment ω) (stack : LayerStack) (call : Call) (s : Frame ω) (h : Handle)
    (driver : Driver) : Prop :=
  ∃ function after, Succeeds env stack call s driver function after ∧
    call.entry.Returned call.args after h

/-- A successful call ends a handle: the one that it is made on, if the entry point destroys it. -/
def Ends (env : Environment ω) (stack : LayerStack) (call : Call) (s : Frame ω) (h : Handle) : Prop :=
  call.Destroys h ∧ ∃ driver function after, Succeeds env stack call s driver function after

/-- Settling adopts the handles that were returned, for the driver of the call, and ends no handle but
that of the call. -/
theorem settle_evolves (r : Registry) (call : Call) (driver : Driver) (memory : Memory) :
    r.Evolves (fun h other => call.entry.Returned call.args memory h ∧ other = driver) call.Destroys
      (settle r call driver memory) := by
  unfold settle
  refine Registry.Evolves.adoptAll
    (fun h hmem => ⟨EntryPoint.mem_outputHandles_iff.1 hmem, rfl⟩) ?_
  split
  · rename_i hreleases
    exact .release ⟨hreleases, rfl⟩ .refl
  · exact .refl

/-- A call changes no layer's kind; it adopts and ends handles only if it succeeds. -/
theorem forward_evolves (env : Environment ω) (call : Call) (s : Frame ω) :
    s.registry.Evolves (HandsOut env [] call s) (Ends env [] call s) (forward env call s).2.registry ∧
      (forward env call s).2.layers.kinds = s.layers.kinds := by
  by_cases hreaches : ∃ driver function, Reaches s.registry call.entry call.handle driver function
  · obtain ⟨driver, function, hreaches⟩ := hreaches
    have hcore := (forward_reaches env call s hreaches).2
    refine ⟨?_, congrArg Core.kinds hcore⟩
    have hregistry := congrArg Core.registry hcore
    change (forward env call s).2.registry = ite _ _ _ at hregistry
    rw [hregistry]
    split
    · rename_i hsuccess
      have hsucceeds : Succeeds env [] call s driver function _ :=
        ⟨rfl, hreaches, of_decide_eq_true hsuccess, rfl⟩
      refine (settle_evolves ..).mono ?_ fun h hdestroys => ⟨hdestroys, _, _, _, hsucceeds⟩
      rintro h other ⟨hreturned, rfl⟩
      exact ⟨_, _, hsucceeds, hreturned⟩
    · exact .refl
  · have hcore := (forward_refused env call s
      fun driver function h => hreaches ⟨driver, function, h⟩).2.2
    refine ⟨?_, congrArg Core.kinds hcore⟩
    rw [show (forward env call s).2.registry = s.registry from congrArg Core.registry hcore]
    exact .refl

/-- Layers in front of a call add nothing to what it does to the registry, and may keep it from doing
anything. -/
theorem invoke_evolves (env : Environment ω) (stack : LayerStack) (call : Call) (s : Frame ω) :
    s.registry.Evolves (HandsOut env stack call s) (Ends env stack call s)
        (invoke env stack call s).2.registry ∧
      (invoke env stack call s).2.layers.kinds = s.layers.kinds := by
  have hcore := (LayerStack.run_spec env call (forward_followsCore env call) stack s).1
  have hregistry := congrArg Core.registry hcore
  have hkinds := congrArg Core.kinds hcore
  change (invoke env stack call s).2.registry = _ at hregistry
  change (invoke env stack call s).2.layers.kinds = _ at hkinds
  rw [hregistry, hkinds]
  split
  · exact ⟨.refl, rfl⟩
  · rename_i hrejection
    have hpassed := Option.not_isSome_iff_eq_none.1 hrejection
    obtain ⟨hforward, hkept⟩ := forward_evolves env call s
    refine ⟨hforward.mono ?_ ?_, hkept⟩
    · rintro h driver ⟨function, after, hsucceeds, hreturned⟩
      exact ⟨function, after, { hsucceeds with passed := hpassed }, hreturned⟩
    · rintro h ⟨hdestroys, driver, function, after, hsucceeds⟩
      exact ⟨hdestroys, driver, function, after, { hsucceeds with passed := hpassed }⟩

end Dispatch

namespace Enumeration

variable {ω : Type}

/-- A driver that is asked for its share leaves a handle in one of the slots that it fills. -/
def Fills (env : Environment ω) (e : Enumeration) (driver : Driver) (function : DriverFunction)
    (total : UInt32) (s : Frame ω) (h : Handle) : Prop :=
  (share env e driver function total s).1 = .success ∧
    ∃ array, e.array = some array ∧
      h ∈ (share env e driver function total s).2.2.memory.handlesAt (array.advance total.toNat)
        (share env e driver function total s).2.1.toNat

/-- Collecting from drivers lists a handle for one of them: its turn comes, and it fills a slot with
the handle. -/
inductive Lists (env : Environment ω) (e : Enumeration) :
    List Driver → UInt32 → Frame ω → Handle → Driver → Prop where
  | fills {driver : Driver} {rest : List Driver} {function : DriverFunction} {total : UInt32}
      {s : Frame ω} {h : Handle} (unfinished : ¬(0 < e.requested && total = e.requested))
      (slot : (driver.table e.entry.category).function? e.entry.group e.entry.name = some function)
      (filled : Fills env e driver function total s h) :
      Lists env e (driver :: rest) total s h driver
  | skips {driver owner : Driver} {rest : List Driver} {total : UInt32} {s : Frame ω} {h : Handle}
      (unfinished : ¬(0 < e.requested && total = e.requested))
      (slot : (driver.table e.entry.category).function? e.entry.group e.entry.name = none)
      (later : Lists env e rest total s h owner) : Lists env e (driver :: rest) total s h owner
  | passes {driver owner : Driver} {rest : List Driver} {function : DriverFunction} {total : UInt32}
      {s : Frame ω} {h : Handle} (unfinished : ¬(0 < e.requested && total = e.requested))
      (slot : (driver.table e.entry.category).function? e.entry.group e.entry.name = some function)
      (answered : (share env e driver function total s).1 = .success)
      (later : Lists env e rest (total + (share env e driver function total s).2.1)
        (share env e driver function total s).2.2 h owner) :
      Lists env e (driver :: rest) total s h owner

/-- Only drivers that are asked list handles. -/
theorem Lists.mem {env : Environment ω} {e : Enumeration} {drivers : List Driver} {total : UInt32}
    {s : Frame ω} {h : Handle} {owner : Driver} (hlists : Lists env e drivers total s h owner) :
    owner ∈ drivers := by
  induction hlists with
  | fills _ _ _ => exact List.mem_cons_self
  | skips _ _ _ ih => exact List.mem_cons_of_mem _ ih
  | passes _ _ _ _ ih => exact List.mem_cons_of_mem _ ih

/-- An enumeration through the caller's counter and array lists a handle for a driver. -/
def HandsOut (env : Environment ω) (entry : EntryPoint) (ready : List Driver)
    (count array : Option Location) (s : Frame ω) (h : Handle) (driver : Driver) : Prop :=
  ∃ counter, count = some counter ∧
    Lists env ⟨entry, s.memory.readCount counter,
      if s.memory.readCount counter = 0 then none else array⟩ ready 0 s h driver

/-- The share of a driver adopts the handles that it fills in, for that driver. -/
theorem share_evolves (env : Environment ω) (e : Enumeration) (driver : Driver)
    (function : DriverFunction) (total : UInt32) (s : Frame ω) :
    s.registry.Evolves (fun h other => Fills env e driver function total s h ∧ other = driver)
        (fun _ => False) (share env e driver function total s).2.2.registry ∧
      (share env e driver function total s).2.2.layers = s.layers := by
  unfold Fills share
  dsimp only
  split
  · exact ⟨.refl, rfl⟩
  · rename_i array harray
    split
    · split
      · rename_i hsuccess
        refine ⟨.adoptAll (fun h hmem => ⟨⟨of_decide_eq_true hsuccess, array, harray, ?_⟩, rfl⟩) .refl,
          rfl⟩
        exact hmem
      · exact ⟨.refl, rfl⟩
    · exact ⟨.refl, rfl⟩

/-- Collecting from drivers adopts the handles that they list. -/
theorem collect_evolves (env : Environment ω) (e : Enumeration) (drivers : List Driver)
    (total : UInt32) (s : Frame ω) :
    s.registry.Evolves (Lists env e drivers total s) (fun _ => False)
        (collect env e drivers total s).2.registry ∧
      (collect env e drivers total s).2.layers = s.layers := by
  induction drivers generalizing total s with
  | nil => exact ⟨.refl, rfl⟩
  | cons driver rest ih =>
    unfold collect
    split
    · exact ⟨.refl, rfl⟩
    · rename_i hunfinished
      split
      · rename_i hslot
        obtain ⟨hrest, hkept⟩ := ih total s
        exact ⟨hrest.mono (fun _ _ => .skips hunfinished hslot) fun _ => id, hkept⟩
      · rename_i function hslot
        obtain ⟨hshare, hlayers⟩ := share_evolves env e driver function total s
        have hfirst : s.registry.Evolves (Lists env e (driver :: rest) total s) (fun _ => False)
            (share env e driver function total s).2.2.registry := by
          refine hshare.mono ?_ fun _ => id
          rintro h other ⟨hfills, rfl⟩
          exact .fills hunfinished hslot hfills
        dsimp only
        split
        · rename_i hsuccess
          obtain ⟨hrest, hkept⟩ := ih (total + (share env e driver function total s).2.1)
            (share env e driver function total s).2.2
          refine ⟨hfirst.trans (hrest.mono ?_ fun _ => id), hkept.trans hlayers⟩
          exact fun _ _ => .passes hunfinished hslot (of_decide_eq_true hsuccess)
        · exact ⟨hfirst, hlayers⟩

/-- Enumerating adopts the handles that the drivers list. -/
theorem run_evolves (env : Environment ω) (entry : EntryPoint) (ready : List Driver)
    (count array : Option Location) (s : Frame ω) :
    s.registry.Evolves (HandsOut env entry ready count array s) (fun _ => False)
        (run env entry ready count array s).2.registry ∧
      (run env entry ready count array s).2.layers = s.layers := by
  unfold run
  split
  · exact ⟨.refl, rfl⟩
  · rename_i counter
    split
    · exact ⟨.refl, rfl⟩
    · dsimp only
      obtain ⟨hcollect, hlayers⟩ := collect_evolves env ⟨entry, s.memory.readCount counter,
        if s.memory.readCount counter = 0 then none else array⟩ ready 0 s
      have hhands : ∀ h driver, _ → HandsOut env entry ready (some counter) array s h driver :=
        fun _ _ hlists => ⟨counter, rfl, hlists⟩
      have hregistry := hcollect.mono hhands fun _ => id
      split
      · rename_i heq
        rw [heq] at hregistry hlayers
        exact ⟨hregistry, hlayers⟩
      · rename_i heq
        rw [heq] at hregistry hlayers
        exact ⟨hregistry, hlayers⟩

end Enumeration
end DriverLoader
