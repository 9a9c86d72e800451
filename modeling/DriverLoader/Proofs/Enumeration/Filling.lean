/-
# Enumeration into an array

Where every ready driver has a fixed list of handles and follows the convention for counts
(`Honours`), an enumeration into an array with enough room comes out as if the lists were strung
together and cut off at what the caller asked for.

`Delivers` says of two frames that certain handles, each found with a driver, were written from a place
in the array on and adopted in this order; it composes (`Delivers.trans`).  A driver's share delivers
the part of its list that there is room for (`share_delivers`), so by induction over the drivers the
enumeration delivers the beginning of all lists (`collect_delivers`).  What the caller then finds in its
memory is said by `Fillable.reads`.
-/

import DriverLoader.Proofs.Loader.Asking
import DriverLoader.Proofs.Memory.Writing
import DriverLoader.Simulation.Library
import Mathlib.Algebra.GroupWithZero.Nat
import Mathlib.Data.UInt

namespace DriverLoader
namespace Enumeration

variable {ω : Type}

/-! ### What is asked of drivers and callers -/

/-- A function lists fixed handles and follows the convention for counts.  Asked without an array it
reports how many there are; asked with an array it writes as many of them as the counter allows, and
reports this number.  It always answers "success". -/
structure Honours (env : Environment ω) (entry : EntryPoint) (function : DriverFunction)
    (handles : List Handle) : Prop where
  /-- The number of handles can be reported. -/
  short : handles.length < 2 ^ 32
  counts : ∀ memory host,
    let reply := env.run function entry [.pointer (some counter), .handles none] memory host
    reply.result = .success ∧
      reply.memory = memory.writeCount counter (UInt32.ofNat handles.length)
  writes : ∀ (array : Location) memory host, array.region ≠ .counter →
    let n := min (memory.readCount counter).toNat handles.length
    let reply :=
      env.run function entry [.pointer (some counter), .handles (some array)] memory host
    reply.result = .success ∧
      reply.memory = (memory.writeHandles array (handles.take n)).writeCount counter (UInt32.ofNat n)

/-- Listing as the libraries of a simulation do it follows the convention. -/
theorem honours_list {env : Environment ω} {entry : EntryPoint} {function : DriverFunction}
    {handles : List Handle} (hshort : handles.length < 2 ^ 32)
    (hrun : ∀ args memory host, env.run function entry args memory host
      = ⟨.success, Simulation.Library.list handles args memory, host, []⟩) :
    Honours env entry function handles := by
  refine ⟨hshort, fun memory host => ?_, fun array memory host _ => ?_⟩
  · rw [hrun]
    exact ⟨rfl, rfl⟩
  · rw [hrun]
    exact ⟨rfl, rfl⟩

/-- A driver offers fixed handles: it has a function that lists them, or no function and no handles. -/
def Offers (env : Environment ω) (entry : EntryPoint) (driver : Driver) (handles : List Handle) :
    Prop :=
  match (driver.table entry.category).function? entry.group entry.name with
  | none => handles = []
  | some function => Honours env entry function handles

/-- The handles that drivers offer, each with its driver, one driver after the other. -/
def offered (handles : Driver → List Handle) (drivers : List Driver) : List (Handle × Driver) :=
  drivers.flatMap fun driver => (handles driver).map (·, driver)

/-- The handles on offer are those of the drivers, in the order of drivers. -/
theorem map_fst_offered (handles : Driver → List Handle) (drivers : List Driver) :
    (offered handles drivers).map Prod.fst = drivers.flatMap handles := by
  simp [offered, List.map_flatMap, Function.comp_def]

/-- The first driver's handles come first, and what room they leave is for the others. -/
theorem take_offered_cons (handles : Driver → List Handle) (driver : Driver) (rest : List Driver)
    (n : Nat) :
    (offered handles (driver :: rest)).take n = ((handles driver).take n).map (·, driver) ++
      (offered handles rest).take (n - (handles driver).length) := by
  unfold offered
  rw [List.flatMap_cons, List.take_append, ← List.map_take, List.length_map]

/-- A caller asks for some handles and gives an array with room for them, apart from the counter. -/
structure Fillable (count array : Location) (memory : Memory) : Prop where
  asked : 0 < memory.readCount count
  room : array.slot + (memory.readCount count).toNat ≤ (memory.slots array.region).length
  apart : array.region ≠ count.region
  /-- Neither of the two is the loader's own counter. -/
  outside : array.region ≠ .counter ∧ count.region ≠ .counter

/-! ### Filling in -/

/-- From one frame to another, handles were written from a place on and adopted for the drivers that they
were found with. -/
structure Delivers (place : Location) (found : List (Handle × Driver)) (s s' : Frame ω) : Prop where
  registry : s'.registry = s.registry.adoptEach found
  memory : s'.memory.Agrees (s.memory.writeHandles place (found.map Prod.fst))

namespace Delivers

variable {place : Location} {found more : List (Handle × Driver)} {s s' s'' : Frame ω}

theorem nil : Delivers place [] s s := ⟨rfl, .refl _⟩

/-- What is delivered behind other handles is delivered with them. -/
theorem trans (first : Delivers place found s s')
    (second : Delivers (place.advance found.length) more s' s'') :
    Delivers place (found ++ more) s s'' := by
  refine ⟨?_, ?_⟩
  · rw [second.registry, first.registry, Registry.adoptEach_append]
  · rw [List.map_append, Memory.writeHandles_append, List.length_map]
    exact second.memory.trans (first.memory.writeHandles _ _)

/-- No slot of the caller's is gained or lost. -/
theorem length_slots (h : Delivers place found s s') {region : Region} (hregion : region ≠ .counter) :
    (s'.memory.slots region).length = (s.memory.slots region).length := by
  rw [h.memory region hregion, Memory.length_slots_writeHandles]

end Delivers

/-! ### One driver -/

section

variable {env : Environment ω} {e : Enumeration} {function : DriverFunction}
  {handles : List Handle}

/-- What the loader stores in its counter is what a driver reads there. -/
theorem readCount_store_counter (m : Memory) (count : UInt32) :
    (m.store .counter [count.toUInt64]).readCount counter = count := by
  simp [Memory.readCount, Memory.read, counter]

/-- The driver is called once with the counter that the loader stored, and what it left there is the
count. -/
theorem ask_eq (env : Environment ω) (entry : EntryPoint) (driver : Driver)
    (function : DriverFunction) (capacity : UInt32) (array : Option Location) (s : Frame ω) :
    let answer := ask env entry driver function capacity array s
    let reply := env.run function entry [.pointer (some counter), .handles array]
      (s.memory.store .counter [capacity.toUInt64]) s.host
    answer.1 = reply.result ∧ answer.2.1 = reply.memory.readCount counter ∧
      answer.2.2.memory = reply.memory ∧ answer.2.2.registry = s.registry :=
  ⟨rfl, rfl, rfl, rfl⟩

/-- Asked without an array, a driver reports how many handles it has, and nothing else happens that the
caller sees. -/
theorem ask_counts (hhonours : Honours env e.entry function handles) (driver : Driver) (s : Frame ω) :
    let answer := ask env e.entry driver function 0 none s
    answer.1 = .success ∧ answer.2.1.toNat = handles.length ∧
      answer.2.2.registry = s.registry ∧ answer.2.2.memory.Agrees s.memory := by
  obtain ⟨hanswer, hcount, hmemory, hregistry⟩ :=
    ask_eq env e.entry driver function 0 none s
  obtain ⟨hresult, hwritten⟩ :=
    hhonours.counts (s.memory.store .counter [(0 : UInt32).toUInt64]) s.host
  rw [hwritten] at hcount hmemory
  refine ⟨hanswer.trans hresult, ?_, hregistry, ?_⟩
  · rw [hcount, Memory.readCount_writeCount (by simp [counter])]
    exact UInt32.toNat_ofNat_of_lt' hhonours.short
  · rw [hmemory]
    exact (Memory.agrees_writeCount_counter rfl _ _).trans (Memory.agrees_store_counter _ _)

/-- Asked with an array, a driver writes as many handles as it may and has, and reports this number. -/
theorem ask_writes (hhonours : Honours env e.entry function handles) (driver : Driver)
    (capacity : UInt32) {array : Location} (harray : array.region ≠ .counter) (s : Frame ω) :
    let answer := ask env e.entry driver function capacity (some array) s
    answer.1 = .success ∧ answer.2.1.toNat = (handles.take capacity.toNat).length ∧
      answer.2.2.registry = s.registry ∧
      answer.2.2.memory.Agrees (s.memory.writeHandles array (handles.take capacity.toNat)) := by
  obtain ⟨hanswer, hcount, hmemory, hregistry⟩ :=
    ask_eq env e.entry driver function capacity (some array) s
  obtain ⟨hresult, hwritten⟩ :=
    hhonours.writes array (s.memory.store .counter [capacity.toUInt64]) s.host harray
  rw [readCount_store_counter, ← List.take_eq_take_min, ← List.length_take] at hwritten
  rw [hwritten] at hcount hmemory
  have hbacked : counter.slot < (((s.memory.store .counter [capacity.toUInt64]).writeHandles array
      (handles.take capacity.toNat)).slots counter.region).length := by
    rw [Memory.length_slots_writeHandles]
    simp [counter]
  refine ⟨hanswer.trans hresult, ?_, hregistry, ?_⟩
  · rw [hcount, Memory.readCount_writeCount hbacked]
    refine UInt32.toNat_ofNat_of_lt' ?_
    have hle := List.length_take_le' capacity.toNat handles
    have hshort := hhonours.short
    simp only [UInt32.size]
    omega
  · rw [hmemory]
    exact (Memory.agrees_writeCount_counter rfl _ _).trans
      ((Memory.agrees_store_counter _ _).writeHandles array _)

/-- **A driver's share is the part of its handles that there is room for.**  The capacity cuts the list
off where the room ends. -/
theorem share_delivers (hhonours : Honours env e.entry function handles) (driver : Driver)
    {array : Location} (harray : e.array = some array) (houtside : array.region ≠ .counter)
    {total : UInt32} (htotal : total.toNat ≤ e.requested.toNat) {s : Frame ω}
    (hroom : array.slot + e.requested.toNat ≤ (s.memory.slots array.region).length) :
    let part := handles.take (e.requested.toNat - total.toNat)
    let outcome := share env e driver function total s
    outcome.1 = .success ∧ outcome.2.1.toNat = part.length ∧
      Delivers (array.advance total.toNat) (part.map (·, driver)) s outcome.2.2 := by
  intro part outcome
  have hfree : (array.advance total.toNat).region ≠ .counter := houtside
  obtain ⟨hcounted, havailable, hregistry₁, hmemory₁⟩ := ask_counts hhonours driver s
  rcases hcounting : ask env e.entry driver function 0 none s with ⟨result₁, available, s₁⟩
  rw [hcounting] at hcounted havailable hregistry₁ hmemory₁
  dsimp only at hcounted havailable hregistry₁ hmemory₁
  obtain ⟨hwritten, hfilled, hregistry₂, hmemory₂⟩ :=
    ask_writes hhonours driver (min available (e.requested - total)) hfree s₁
  rcases hwriting : ask env e.entry driver function (min available (e.requested - total))
    (some (array.advance total.toNat)) s₁ with ⟨result₂, filled, s₂⟩
  rw [hwriting] at hwritten hfilled hregistry₂ hmemory₂
  have hcapacity : handles.take (min available (e.requested - total)).toNat = part := by
    rw [UInt32.toNat_min, havailable, UInt32.toNat_sub_of_le _ _ (UInt32.le_iff_toNat_le.2 htotal),
      Nat.min_comm, ← List.take_eq_take_min]
  dsimp only at hwritten hfilled hregistry₂ hmemory₂
  rw [hcapacity] at hfilled hmemory₂
  have hmemory := hmemory₂.trans (hmemory₁.writeHandles (array.advance total.toNat) part)
  have hread : s₂.memory.handlesAt (array.advance total.toNat) filled.toNat = part := by
    rw [Memory.handlesAt_congr (hmemory _ hfree), hfilled]
    refine Memory.handlesAt_writeHandles ?_
    have hle : part.length ≤ e.requested.toNat - total.toNat := List.length_take_le ..
    show array.slot + total.toNat + part.length ≤ (s.memory.slots array.region).length
    omega
  have houtcome : outcome
      = (.success, filled, { s₂ with registry := s₂.registry.adoptAll driver part }) := by
    subst hcounted hwritten
    show share env e driver function total s = _
    simp only [share, hcounting, harray, hwriting, hread]
    rfl
  rw [houtcome]
  refine ⟨rfl, hfilled, ?_, ?_⟩
  · show Registry.adoptAll _ driver _ = _
    rw [hregistry₂, hregistry₁, Registry.adoptEach_map]
  · rw [List.map_map]
    show Memory.Agrees _ (s.memory.writeHandles _ (part.map id))
    rw [List.map_id]
    exact hmemory

end

/-! ### All drivers -/

section

variable {env : Environment ω} {handles : Driver → List Handle} {drivers : List Driver}
  {array : Location} {s : Frame ω}

/-- **The drivers fill in the beginning of their lists strung together**, as far as the caller has room
for it.  By induction: what one driver filled in is what the next one starts behind. -/
theorem collect_delivers {e : Enumeration} (harray : e.array = some array)
    (houtside : array.region ≠ .counter)
    (hoffers : ∀ driver ∈ drivers, Offers env e.entry driver (handles driver)) {total : UInt32}
    (htotal : total.toNat ≤ e.requested.toNat)
    (hroom : array.slot + e.requested.toNat ≤ (s.memory.slots array.region).length) :
    ∃ total' s', collect env e drivers total s = (.ok total', s') ∧
      total'.toNat = total.toNat +
        ((offered handles drivers).take (e.requested.toNat - total.toNat)).length ∧
      Delivers (array.advance total.toNat)
        ((offered handles drivers).take (e.requested.toNat - total.toNat)) s s' := by
  induction drivers generalizing total s with
  | nil =>
    refine ⟨total, s, rfl, ?_, ?_⟩
    · simp [offered]
    · simpa [offered] using Delivers.nil
  | cons driver rest ih =>
    have hrest := fun other hother => hoffers other (List.mem_cons_of_mem driver hother)
    have hfirst := hoffers driver List.mem_cons_self
    unfold collect
    split
    · rename_i hfull
      have hnone : e.requested.toNat - total.toNat = 0 := by
        rw [Bool.and_eq_true, decide_eq_true_iff, decide_eq_true_iff] at hfull
        rw [hfull.2, Nat.sub_self]
      rw [hnone]
      exact ⟨total, s, rfl, rfl, Delivers.nil⟩
    · unfold Offers at hfirst
      split
      · rename_i hslot
        rw [hslot] at hfirst
        have hoffered : offered handles (driver :: rest) = offered handles rest := by
          rw [offered, List.flatMap_cons, show handles driver = [] from hfirst]
          rfl
        rw [hoffered]
        exact ih hrest htotal hroom
      · rename_i function hslot
        rw [hslot] at hfirst
        obtain ⟨hsuccess, hcount, hdelivers⟩ :=
          share_delivers hfirst driver harray houtside htotal hroom
        have hshort : (handles driver).length < 2 ^ 32 := hfirst.short
        rcases hshare : share env e driver function total s with ⟨result, count, s₁⟩
        rw [hshare] at hsuccess hcount hdelivers
        dsimp only at hsuccess hcount hdelivers ⊢
        subst hsuccess
        have hpart := List.length_take (i := e.requested.toNat - total.toNat) (l := handles driver)
        have hrequested := e.requested.toNat_lt
        have hnext : (total + count).toNat = total.toNat + count.toNat := by
          rw [UInt32.toNat_add]
          omega
        have hbelow : (total + count).toNat ≤ e.requested.toNat := by omega
        have hroom₁ : array.slot + e.requested.toNat ≤ (s₁.memory.slots array.region).length := by
          rw [hdelivers.length_slots houtside]
          exact hroom
        obtain ⟨total', s', hcollect, htotal', hlater⟩ := ih hrest hbelow hroom₁
        have hleft : e.requested.toNat - (total + count).toNat
            = e.requested.toNat - total.toNat - (handles driver).length := by omega
        rw [hleft] at htotal' hlater
        rw [take_offered_cons]
        refine ⟨total', s', hcollect, ?_, hdelivers.trans ?_⟩
        · rw [htotal', hnext, hcount, List.length_append, List.length_map, Nat.add_assoc]
        · rw [List.length_map, Location.advance_advance, ← hcount, ← hnext]
          exact hlater

/-- What a caller sees after handles were written to the array and their number to the counter. -/
theorem Fillable.reads {count array : Location} {memory filled : Memory} {written : List Handle}
    (hrequest : Fillable count array memory)
    (hwritten : written.length ≤ (memory.readCount count).toNat)
    (hfilled : filled.Agrees
      ((memory.writeHandles array written).writeCount count (UInt32.ofNat written.length))) :
    filled.handlesAt array written.length = written ∧
      (filled.readCount count).toNat = written.length ∧
      ∀ location, location ≠ count → location.region ≠ .counter →
        (location.region = array.region →
          location.slot < array.slot ∨ array.slot + written.length ≤ location.slot) →
        (filled.slots location.region)[location.slot]?
          = (memory.slots location.region)[location.slot]? := by
  have hroom : array.slot + written.length ≤ (memory.slots array.region).length :=
    Nat.le_trans (Nat.add_le_add_left hwritten _) hrequest.room
  refine ⟨?_, ?_, fun location hne hregion hbeside => ?_⟩
  · rw [Memory.handlesAt_congr (hfilled _ hrequest.outside.1), Memory.handlesAt_congr
      (Memory.slots_writeCount_of_ne _ _ hrequest.apart), Memory.handlesAt_writeHandles hroom]
  · have hbacked : count.slot
        < ((memory.writeHandles array written).slots count.region).length := by
      rw [Memory.length_slots_writeHandles]
      exact Memory.slot_lt_of_readCount hrequest.asked
    rw [Memory.readCount_congr (hfilled _ hrequest.outside.2), Memory.readCount_writeCount hbacked]
    exact UInt32.toNat_ofNat_of_lt' (Nat.lt_of_le_of_lt hwritten (UInt32.toNat_lt _))
  · rw [hfilled _ hregion, Memory.getElem?_writeCount_of_ne hne]
    by_cases heq : location.region = array.region
    · have hoff := hbeside heq
      rw [heq, Memory.getElem?_writeHandles hroom, if_neg (by omega)]
    · rw [Memory.slots_writeHandles_of_ne heq]

/-- An enumeration adopts what was filled in, and writes how much it is to the caller's counter. -/
theorem run_delivers {entry : EntryPoint} {count : Location} (hrequest : Fillable count array s.memory)
    (hready : drivers ≠ [])
    (hoffers : ∀ driver ∈ drivers, Offers env entry driver (handles driver)) :
    let requested := (s.memory.readCount count).toNat
    let written := (drivers.flatMap handles).take requested
    let outcome := run env entry drivers (some count) (some array) s
    outcome.1 = .success ∧
      outcome.2.registry = s.registry.adoptEach ((offered handles drivers).take requested) ∧
      outcome.2.memory.Agrees
        ((s.memory.writeHandles array written).writeCount count (UInt32.ofNat written.length)) := by
  intro requested written outcome
  have hasked : s.memory.readCount count ≠ 0 := UInt32.pos_iff_ne_zero.1 hrequest.asked
  have hstart : (0 : UInt32).toNat ≤ (s.memory.readCount count).toNat := Nat.zero_le _
  obtain ⟨total, s', hcollect, htotal, hdelivers⟩ := collect_delivers
    (e := ⟨entry, s.memory.readCount count, some array⟩) rfl hrequest.outside.1 hoffers hstart
    hrequest.room
  have hwritten : ((offered handles drivers).take requested).map Prod.fst = written := by
    rw [List.map_take, map_fst_offered]
  have hlength : total.toNat = written.length := by
    rw [htotal, ← hwritten, List.length_map, UInt32.toNat_zero, Nat.zero_add, Nat.sub_zero]
  have houtcome : outcome = run env entry drivers (some count) (some array) s := rfl
  unfold run at houtcome
  dsimp only at houtcome
  rw [if_neg (by simpa using hready), if_neg hasked, hcollect] at houtcome
  rw [houtcome, ← hlength, UInt32.ofNat_toNat, ← hwritten]
  exact ⟨rfl, hdelivers.registry, hdelivers.memory.writeCount hrequest.outside.2 total⟩

end

end Enumeration

namespace Session

variable {ω : Type}

/-- **An enumeration strings the drivers' handles together.**  For every loader, whatever drivers it
has with whatever statuses, and whatever its registry, let each driver that is ready for a category offer
fixed handles, and let the caller ask for some and give an array with room for them.

If no driver is ready, the answer is "uninitialised" and nothing has changed.  Otherwise it is
"success", and with `m` the smaller of what was asked for and of what the drivers offer:

* The first `m` slots of the array hold the first `m` of all handles offered, in the order of the
  drivers, and the caller's counter says `m`.
* No other slot that the caller can see has changed.
* Each of these handles that is not null and was not live is live now and bound to the driver that it
  came from, the first one if there are several.
* The record of every other handle is what it was. -/
theorem driverGet_fills (env : Environment ω) (s : Session ω) (category : Category)
    (count array : Location) (memory : Memory) (handles : Driver → List Handle)
    (hrequest : Enumeration.Fillable count array memory)
    (hoffers : ∀ entry, Api.entry? (driverGetEntry category) = some entry →
      ∀ driver ∈ s.loader.ready category, Enumeration.Offers env entry driver (handles driver)) :
    let ready := s.loader.ready category
    let outcome := s.driverGet env category (some count) (some array) memory
    let m := min (memory.readCount count).toNat (ready.flatMap handles).length
    (ready = [] → outcome = (.uninitialized, memory, s)) ∧
      (ready ≠ [] →
        outcome.1 = .success ∧
          outcome.2.1.handlesAt array m = (ready.flatMap handles).take m ∧
          (outcome.2.1.readCount count).toNat = m ∧
          (∀ location, location ≠ count → location.region ≠ .counter →
            (location.region = array.region →
              location.slot < array.slot ∨ array.slot + m ≤ location.slot) →
            (outcome.2.1.slots location.region)[location.slot]?
              = (memory.slots location.region)[location.slot]?) ∧
          (∀ h driver, h ≠ Handle.null → s.loader.registry.isLive h = false →
            ((Enumeration.offered handles ready).take m).lookup h = some driver →
              outcome.2.2.loader.registry.Routes h driver) ∧
          ∀ h, h = Handle.null ∨ s.loader.registry.isLive h = true ∨
              h ∉ (ready.flatMap handles).take m →
            outcome.2.2.loader.registry.find? h = s.loader.registry.find? h) := by
  intro ready outcome m
  obtain ⟨entry, hserved, -⟩ := driverGetEntry_served category
  have houtcome : outcome = s.driverGet env category (some count) (some array) memory := rfl
  unfold driverGet at houtcome
  rw [hserved] at houtcome
  dsimp only at houtcome
  constructor
  · intro hnone
    rw [houtcome, show s.loader.ready category = [] from hnone]
    rfl
  · intro hsome
    obtain ⟨hresult, hregistry, hmemory⟩ := Enumeration.run_delivers (s := s.frame memory)
      hrequest hsome (hoffers entry hserved)
    have hwritten : (ready.flatMap handles).take (memory.readCount count).toNat
        = (ready.flatMap handles).take m := List.take_eq_take_min
    have hlength : ((ready.flatMap handles).take (memory.readCount count).toNat).length = m :=
      List.length_take
    have hfound : (Enumeration.offered handles ready).take (memory.readCount count).toNat
        = (Enumeration.offered handles ready).take m := by
      rw [List.take_eq_take_min, ← List.length_map (f := Prod.fst), Enumeration.map_fst_offered]
    obtain ⟨hread, hcount, hbeside⟩ := hrequest.reads (List.length_take_le ..) hmemory
    rw [hlength] at hread hcount hbeside
    rw [hwritten] at hread
    rw [houtcome]
    refine ⟨hresult, hread, hcount, hbeside, fun h driver hgiven hdead hfirst => ?_, fun h hkept => ?_⟩
    · rw [← hfound] at hfirst
      obtain ⟨serial, -, hfind⟩ := Registry.find?_adoptEach_of_admits hfirst
        (Registry.admits_eq_true_iff.2 ⟨hgiven, hdead⟩)
      refine ⟨hgiven, ⟨serial, driver, true⟩, ?_, rfl, rfl⟩
      exact (congrArg (·.find? h) hregistry).trans hfind
    · refine (congrArg (·.find? h) hregistry).trans (Registry.find?_adoptEach_of_kept ?_)
      have hkept' : h ∉ (ready.flatMap handles).take m ∨ s.loader.registry.admits h = false := by
        rw [Registry.admits_eq_false_iff]
        exact or_assoc.symm.trans or_comm |>.1 hkept
      rwa [← hwritten, ← Enumeration.map_fst_offered, ← List.map_take] at hkept'

namespace Sample

/-- Where the counter stands. -/
def count : Location :=
  ⟨.argument "count", 0⟩

/-- Where the array begins. -/
def array : Location :=
  ⟨.argument "handles", 0⟩

/-- A request for three handles. -/
def request : Memory where
  slots
    | .argument name => if name = "count" then [3] else [0, 0, 0]
    | .counter => []

/-- The driver handles of a driver. -/
def handlesOf (name : String) : List Handle :=
  if name = "left" then [⟨1⟩, ⟨2⟩] else [⟨2⟩, ⟨3⟩]

/-- Libraries list the handles that go with their names. -/
def listing : Environment Unit where
  opens _ := true
  exports _ _ := none
  invoke function _ args memory host :=
    match function.module with
    | .library name => ⟨.success, Simulation.Library.list (handlesOf name) args memory, host, []⟩
    | _ => ⟨.uninitialized, memory, host, []⟩
  prologue _ _ _ := (0, [])
  epilogue _ _ _ _ _ := []

/-- A driver that can list its handles. -/
def lister (id : Nat) (name : String) : Driver where
  id := id
  name := name
  index := id
  module := .library name
  compute := ⟨true, Version.current, [("Driver", [("zeDriverGet", ⟨.library name, "zeDriverGet"⟩)])]⟩
  tools := Table.invalid
  sysman := Table.invalid

/-- Two drivers that share a handle are loaded. -/
def listers : Session Unit where
  toShared := Shared.start .info ()
  loader :=
    { config := Config.default, builder := Builder.empty, registry := Registry.empty, stack := []
      drivers := [.fresh (lister 0 "left"), .fresh (lister 1 "right")], validation := none
      tracing := ⟨0⟩, inTeardown := false }

/-- Both drivers offer the handles that go with their names. -/
theorem listers_offer {entry : EntryPoint}
    (hserved : Api.entry? (driverGetEntry .compute) = some entry) :
    ∀ driver ∈ listers.loader.ready .compute,
      Enumeration.Offers listing entry driver (handlesOf driver.name) := by
  intro driver hdriver
  have hslot : ∀ driver ∈ listers.loader.ready .compute,
      (Api.entry? (driverGetEntry .compute)).map (fun entry =>
        (driver.table entry.category).function? entry.group entry.name)
          = some (some ⟨.library driver.name, "zeDriverGet"⟩) := by
    decide +kernel
  have hfunction := hslot driver hdriver
  rw [hserved, Option.map_some, Option.some.injEq] at hfunction
  unfold Enumeration.Offers
  rw [hfunction]
  refine Enumeration.honours_list ?_ fun _ _ _ => rfl
  unfold handlesOf
  split <;> decide

end Sample

/-- A handle that two drivers list is bound to the first of them, and the last is cut off. -/
theorem driverGet_fills_shared :
    (Sample.listers.driverGet Sample.listing .compute (some Sample.count) (some Sample.array)
        Sample.request).2.1.handlesAt Sample.array 3 = [⟨1⟩, ⟨2⟩, ⟨2⟩] ∧
      (Sample.listers.driverGet Sample.listing .compute (some Sample.count) (some Sample.array)
        Sample.request).2.2.loader.registry.Routes ⟨2⟩ (Sample.lister 0 "left") := by
  have hrequest : Enumeration.Fillable Sample.count Sample.array Sample.request :=
    ⟨by decide, by decide, by decide, by decide, by decide⟩
  obtain ⟨-, hready⟩ := driverGet_fills Sample.listing Sample.listers .compute Sample.count
    Sample.array Sample.request (fun driver => Sample.handlesOf driver.name) hrequest
    fun _ => Sample.listers_offer
  obtain ⟨-, hread, -, -, hbound, -⟩ := hready (by decide +kernel)
  exact ⟨hread, hbound ⟨2⟩ (Sample.lister 0 "left") (by decide) (by decide) rfl⟩

end Session
end DriverLoader
