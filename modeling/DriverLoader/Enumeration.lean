/-
# Enumeration of driver handles

The driver handles of a category are those of all ready drivers, one driver after the other in the
order of loading.  Each driver is first asked how many it has; if the caller gave an array and asked
for some, the driver then fills the next free part of it.  Enumeration ends as soon as the number that
the caller asked for is reached, and at the first answer other than success, which then is the answer
of the whole and leaves the caller's count untouched.
-/

import DriverLoader.Dispatch

namespace DriverLoader

/-- What the caller of an enumeration asks for. -/
structure Enumeration where
  /-- The entry point that lists the driver handles of the category. -/
  entry : EntryPoint
  /-- The number of handles that the caller asked for. -/
  requested : UInt32
  /-- The array to be filled, if there is one and some handles were asked for. -/
  array : Option Location

namespace Enumeration

variable {ω : Type}

/-- The counter that the loader keeps while it asks a driver. -/
def counter : Location :=
  ⟨.counter, 0⟩

/-- A driver's answer to the question how many handles it has, or to the request to fill an array with
at most `capacity` of them; the count is the one that the driver reports. -/
def ask (env : Environment ω) (entry : EntryPoint) (driver : Driver) (function : DriverFunction)
    (capacity : UInt32) (array : Option Location) (s : Frame ω) : ResultCode × UInt32 × Frame ω :=
  let s := { s with memory := s.memory.store .counter [capacity.toUInt64] }
  let (result, s) := s.invoke env driver function entry [.pointer (some counter), .handles array]
  (result, s.memory.readCount counter, s)

/-- The share of one driver: its answer, the number of handles that it accounts for, and the state
afterwards.  Handles that were written to the caller's array are adopted for the driver. -/
def share (env : Environment ω) (e : Enumeration) (driver : Driver) (function : DriverFunction)
    (total : UInt32) (s : Frame ω) : ResultCode × UInt32 × Frame ω :=
  let (result, available, s) := ask env e.entry driver function 0 none s
  match e.array with
  | none => (result, available, s)
  | some array =>
    if result.isSuccess then
      let room := e.requested - total
      let free := array.advance total.toNat
      let (result, filled, s) := ask env e.entry driver function (min available room) (some free) s
      if result.isSuccess then
        (result, filled,
          { s with
            registry := s.registry.adoptAll driver (s.memory.handlesAt free filled.toNat) })
      else (result, filled, s)
    else (result, available, s)

/-- The total over the drivers from the total so far, or the first answer other than success. -/
def collect (env : Environment ω) (e : Enumeration) :
    List Driver → UInt32 → Frame ω → Except ResultCode UInt32 × Frame ω
  | [], total, s => (.ok total, s)
  | driver :: rest, total, s =>
    if 0 < e.requested && total = e.requested then (.ok total, s)
    else
      match (driver.table e.entry.category).function? e.entry.group e.entry.name with
      | none => collect env e rest total s
      | some function =>
        let (result, count, s) := share env e driver function total s
        if result.isSuccess then collect env e rest (total + count) s else (.error result, s)

/-- The enumeration of the ready drivers through the caller's counter and array. -/
def run (env : Environment ω) (entry : EntryPoint) (ready : List Driver)
    (count array : Option Location) (s : Frame ω) : ResultCode × Frame ω :=
  match count with
  | none => (.invalidNullPointer, s)
  | some count =>
    if ready.isEmpty then (.uninitialized, s)
    else
      let requested := s.memory.readCount count
      let e : Enumeration := ⟨entry, requested, if requested = 0 then none else array⟩
      match collect env e ready 0 s with
      | (.ok total, s) => (.success, { s with memory := s.memory.writeCount count total })
      | (.error result, s) => (result, s)

end Enumeration
end DriverLoader
