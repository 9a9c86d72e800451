/-
# The caller's memory

Each pointer argument of a call points to a region of its own, a row of eight-byte slots, and no two
regions overlap.  A handle fills a slot; a 32-bit number fills its lower half and leaves the upper
half as it was.  Reading behind the end of a region finds nothing and writing there changes nothing.

The lemmas say what a write does to the slots: `slots_write_self` and `slots_write_of_ne`.
-/

import DriverLoader.Argument

namespace DriverLoader

/-- What a pointer can point into. -/
inductive Region where
  /-- The memory behind the pointer argument of the given name. -/
  | argument (name : String)
  /-- The counter that the loader keeps while it asks a driver. -/
  | counter
  deriving DecidableEq

/-- A slot of a region. -/
structure Location where
  region : Region
  slot : Nat
  deriving DecidableEq

/-- The contents of all regions. -/
structure Memory where
  slots : Region → List UInt64

/-- An argument of a call on memory. -/
abbrev CallArgument := Argument Location

namespace Location

/-- The slot `n` places further on. -/
def advance (location : Location) (n : Nat) : Location :=
  { location with slot := location.slot + n }

/-- A location as observers see it: by the name of the argument, and by the slot if that is not the
first.  The loader's own counter has no name. -/
def text (location : Location) : String :=
  match location.region with
  | .argument name =>
    if location.slot = 0 then "&" ++ name else "&" ++ name ++ "[" ++ toString location.slot ++ "]"
  | .counter => "ptr"

end Location

namespace Memory

/-- Memory without contents. -/
def empty : Memory :=
  ⟨fun _ => []⟩

/-- The memory with the contents of one region replaced. -/
def store (m : Memory) (region : Region) (contents : List UInt64) : Memory :=
  ⟨fun other => if other = region then contents else m.slots other⟩

/-- The memory with one slot written. -/
def write (m : Memory) (location : Location) (value : UInt64) : Memory :=
  m.store location.region ((m.slots location.region).set location.slot value)

/-- The contents of a slot; zero behind the end of its region. -/
def read (m : Memory) (location : Location) : UInt64 :=
  (m.slots location.region)[location.slot]?.getD 0

/-- The 32-bit number in the lower half of a slot. -/
def readCount (m : Memory) (location : Location) : UInt32 :=
  (m.read location).toUInt32

/-- The memory with a 32-bit number written to the lower half of a slot. -/
def writeCount (m : Memory) (location : Location) (count : UInt32) : Memory :=
  m.write location (m.read location &&& 0xffffffff00000000 ||| count.toUInt64)

/-- The handles in the `n` slots from a location on, as far as the region reaches. -/
def handlesAt (m : Memory) (location : Location) (n : Nat) : List Handle :=
  (((m.slots location.region).drop location.slot).take n).map Handle.mk

/-- The memory with a handle written to a slot. -/
def writeHandle (m : Memory) (location : Location) (h : Handle) : Memory :=
  m.write location h.value

/-- The memory with handles written to successive slots. -/
def writeHandles (m : Memory) (location : Location) : List Handle → Memory
  | [] => m
  | h :: rest => (m.writeHandle location h).writeHandles (location.advance 1) rest

/-- What is stored in a region is there. -/
@[simp]
theorem slots_store_self (m : Memory) (region : Region) (contents : List UInt64) :
    (m.store region contents).slots region = contents := by
  simp [store]

/-- Storing in a region leaves the others alone. -/
@[simp]
theorem slots_store_of_ne (m : Memory) {region other : Region} (contents : List UInt64)
    (h : other ≠ region) : (m.store region contents).slots other = m.slots other := by
  simp [store, h]

/-- Writing sets one slot of its region. -/
@[simp]
theorem slots_write_self (m : Memory) (location : Location) (value : UInt64) :
    (m.write location value).slots location.region
      = (m.slots location.region).set location.slot value := by
  simp [write]

/-- Writing to a region leaves the others alone. -/
@[simp]
theorem slots_write_of_ne (m : Memory) {location : Location} {other : Region} (value : UInt64)
    (h : other ≠ location.region) : (m.write location value).slots other = m.slots other := by
  simp [write, h]

end Memory
end DriverLoader
