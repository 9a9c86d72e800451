/-
# Writing to memory

A counter says what was written to it, if there is memory behind it (`readCount_writeCount`), and what it
says depends on its region alone.  Writing handles one after the other fills the slots from a location on
and leaves every other slot as it was (`getElem?_writeHandles`), so what was written is read back
(`handlesAt_writeHandles`), and writing in two parts is writing once (`writeHandles_append`).

`Agrees` compares memories but for the counter that the loader keeps for itself, which no caller sees.
-/

import DriverLoader.Memory

namespace DriverLoader

/-- Going on twice is going on by the sum. -/
theorem Location.advance_advance (location : Location) (m n : Nat) :
    (location.advance m).advance n = location.advance (m + n) := by
  simp [advance, Nat.add_assoc]

namespace Memory

variable {m m' m'' : Memory} {location : Location}

/-! ### Counters -/

/-- Writing a counter leaves other regions alone. -/
theorem slots_writeCount_of_ne (m : Memory) {other : Region} (count : UInt32)
    (h : other ≠ location.region) : (m.writeCount location count).slots other = m.slots other :=
  slots_write_of_ne m _ h

/-- What a counter says depends on its region alone. -/
theorem readCount_congr (h : m.slots location.region = m'.slots location.region) :
    m.readCount location = m'.readCount location := by
  unfold readCount read
  rw [h]

/-- What a region holds after a counter was set depends on what it held before alone. -/
theorem slots_writeCount_congr (count : UInt32)
    (h : m.slots location.region = m'.slots location.region) :
    (m.writeCount location count).slots location.region
      = (m'.writeCount location count).slots location.region := by
  unfold writeCount read
  rw [slots_write_self, slots_write_self, h]

/-- A counter says what was written to it, if there is memory behind it. -/
theorem readCount_writeCount (h : location.slot < (m.slots location.region).length)
    (count : UInt32) : (m.writeCount location count).readCount location = count := by
  have hmask : (0xffffffff00000000 : UInt64).toUInt32 = 0 := by decide
  unfold readCount read writeCount
  rw [slots_write_self, List.getElem?_set_self h, Option.getD_some, UInt64.toUInt32_or,
    UInt64.toUInt32_and, hmask, UInt32.and_zero, UInt32.zero_or, UInt32.toUInt32_toUInt64]

/-- A counter says at most what was written to it. -/
theorem readCount_writeCount_le (m : Memory) (location : Location) (count : UInt32) :
    (m.writeCount location count).readCount location ≤ count := by
  by_cases hbacked : location.slot < (m.slots location.region).length
  · rw [readCount_writeCount hbacked]
    exact UInt32.le_refl count
  · have hnothing : (m.writeCount location count).readCount location = 0 := by
      unfold readCount read writeCount
      rw [slots_write_self, List.getElem?_eq_none (by simpa using hbacked)]
      rfl
    rw [hnothing, UInt32.le_iff_toNat_le]
    exact Nat.zero_le _

/-- A counter that says something has a slot. -/
theorem slot_lt_of_readCount (h : 0 < m.readCount location) :
    location.slot < (m.slots location.region).length := by
  refine Nat.lt_of_not_le fun hout => ?_
  unfold readCount read at h
  rw [List.getElem?_eq_none hout] at h
  exact absurd h (by decide)

/-- Writing a number touches no other slot. -/
theorem getElem?_writeCount_of_ne {other : Location} (hne : other ≠ location) (m : Memory)
    (count : UInt32) :
    ((m.writeCount location count).slots other.region)[other.slot]?
      = (m.slots other.region)[other.slot]? := by
  by_cases heq : other.region = location.region
  · have hslot : location.slot ≠ other.slot := by
      intro hslot
      cases other
      cases location
      exact hne (by simp_all)
    unfold writeCount
    rw [heq, slots_write_self, List.getElem?_set_ne hslot]
  · rw [slots_writeCount_of_ne m count heq]

/-! ### Handles -/

/-- Handles that are written in two parts are written one part behind the other. -/
theorem writeHandles_append (m : Memory) (location : Location) (first second : List Handle) :
    m.writeHandles location (first ++ second)
      = (m.writeHandles location first).writeHandles (location.advance first.length) second := by
  induction first generalizing m location with
  | nil => rfl
  | cons h rest ih =>
    rw [List.cons_append, writeHandles, ih, Location.advance_advance, List.length_cons,
      Nat.add_comm]
    rfl

/-- Writing handles leaves other regions alone. -/
theorem slots_writeHandles_of_ne {other : Region} (hne : other ≠ location.region)
    (handles : List Handle) : (m.writeHandles location handles).slots other = m.slots other := by
  induction handles generalizing m location with
  | nil => rfl
  | cons h rest ih =>
    rw [writeHandles, ih (by exact hne)]
    exact slots_write_of_ne m _ hne

/-- Writing fills the slots that there are and makes no new ones. -/
theorem length_slots_writeHandles (m : Memory) (location : Location) (handles : List Handle)
    (region : Region) :
    ((m.writeHandles location handles).slots region).length = (m.slots region).length := by
  induction handles generalizing m location with
  | nil => rfl
  | cons h rest ih =>
    rw [writeHandles, ih]
    by_cases heq : region = location.region
    · subst heq
      rw [writeHandle, slots_write_self, List.length_set]
    · rw [writeHandle, slots_write_of_ne m _ heq]

/-- **What is in a slot after handles were written.**  If there is room for them all, the handle that was
written there, or what was there before. -/
theorem getElem?_writeHandles {handles : List Handle}
    (hroom : location.slot + handles.length ≤ (m.slots location.region).length) (n : Nat) :
    ((m.writeHandles location handles).slots location.region)[n]?
      = if location.slot ≤ n ∧ n < location.slot + handles.length then
          handles[n - location.slot]?.map (·.value)
        else (m.slots location.region)[n]? := by
  induction handles generalizing m location with
  | nil => rw [if_neg (by simp)]; rfl
  | cons h rest ih =>
    rw [List.length_cons] at hroom ⊢
    have hfirst : (m.writeHandle location h).slots location.region
        = (m.slots location.region).set location.slot h.value := slots_write_self ..
    have hrest : (location.advance 1).slot + rest.length
        ≤ ((m.writeHandle location h).slots (location.advance 1).region).length := by
      show location.slot + 1 + rest.length ≤ _
      rw [show (location.advance 1).region = location.region from rfl, hfirst, List.length_set]
      omega
    have hlater := ih hrest
    rw [show (location.advance 1).region = location.region from rfl, hfirst,
      show (location.advance 1).slot = location.slot + 1 from rfl] at hlater
    rw [writeHandles, hlater]
    rcases Nat.lt_trichotomy n location.slot with hlt | rfl | hgt
    · rw [if_neg (by omega), if_neg (by omega), List.getElem?_set_ne (by omega)]
    · rw [if_neg (by omega), if_pos (by omega), List.getElem?_set_self (by omega), Nat.sub_self]
      rfl
    · by_cases hinside : n < location.slot + (rest.length + 1)
      · rw [if_pos (by omega), if_pos (by omega),
          show n - location.slot = n - (location.slot + 1) + 1 by omega, List.getElem?_cons_succ]
      · rw [if_neg (by omega), if_neg (by omega), List.getElem?_set_ne (by omega)]

/-- What a region holds decides which handles are read from it. -/
theorem handlesAt_congr (h : m.slots location.region = m'.slots location.region) (n : Nat) :
    m.handlesAt location n = m'.handlesAt location n := by
  unfold handlesAt
  rw [h]

/-- **Handles that were written are read back**, if there was room for them. -/
theorem handlesAt_writeHandles {handles : List Handle}
    (hroom : location.slot + handles.length ≤ (m.slots location.region).length) :
    (m.writeHandles location handles).handlesAt location handles.length = handles := by
  refine List.ext_getElem? fun n => ?_
  unfold handlesAt
  rw [List.getElem?_map, List.getElem?_take, List.getElem?_drop, getElem?_writeHandles hroom]
  by_cases hn : n < handles.length
  · rw [if_pos hn, if_pos (by omega), Nat.add_sub_cancel_left, Option.map_map]
    exact Option.map_id'
  · rw [if_neg hn, Option.map_none, List.getElem?_eq_none (by omega)]

/-! ### But for the counter of the loader -/

/-- Two memories hold the same in all regions but that of the loader's own counter. -/
def Agrees (m m' : Memory) : Prop :=
  ∀ region, region ≠ .counter → m.slots region = m'.slots region

namespace Agrees

theorem refl (m : Memory) : m.Agrees m := fun _ _ => rfl

theorem trans (first : m.Agrees m') (second : m'.Agrees m'') : m.Agrees m'' :=
  fun region hregion => (first region hregion).trans (second region hregion)

/-- The same handles can be written on both sides. -/
theorem writeHandles (h : m.Agrees m') (location : Location) (handles : List Handle) :
    (m.writeHandles location handles).Agrees (m'.writeHandles location handles) := by
  induction handles generalizing m m' location with
  | nil => exact h
  | cons first rest ih =>
    refine ih (fun region hregion => ?_) (location.advance 1)
    by_cases heq : region = location.region
    · subst heq
      rw [writeHandle, writeHandle, slots_write_self, slots_write_self, h _ hregion]
    · rw [writeHandle, writeHandle, slots_write_of_ne _ _ heq, slots_write_of_ne _ _ heq,
        h region hregion]

/-- The same number can be written on both sides. -/
theorem writeCount (h : m.Agrees m') (hlocation : location.region ≠ .counter) (count : UInt32) :
    (m.writeCount location count).Agrees (m'.writeCount location count) := by
  intro region hregion
  by_cases heq : region = location.region
  · subst heq
    unfold Memory.writeCount read
    rw [slots_write_self, slots_write_self, h _ hlocation]
  · rw [slots_writeCount_of_ne m count heq, slots_writeCount_of_ne m' count heq, h region hregion]

end Agrees

/-- What the loader stores in its own counter is seen by no caller. -/
theorem agrees_store_counter (m : Memory) (contents : List UInt64) :
    (m.store .counter contents).Agrees m :=
  fun _ hregion => slots_store_of_ne m contents hregion

/-- What a driver writes to the counter of the loader is seen by no caller. -/
theorem agrees_writeCount_counter (hcounter : location.region = .counter) (m : Memory)
    (count : UInt32) : (m.writeCount location count).Agrees m :=
  fun _ hregion => slots_writeCount_of_ne m count (by rw [hcounter]; exact hregion)

end Memory
end DriverLoader
