/-
# Output arrays

A call hands a driver arrays of handles to fill.  These are its arguments that point to handles and
are not marked as read; the argument directly before an array may be the counter that sizes it.
-/

import DriverLoader.EntryPoint
import DriverLoader.Memory

namespace DriverLoader
namespace EntryPoint

/-- The arrays of handles that a driver fills in a call, with their positions. -/
def outputs (entry : EntryPoint) (args : List CallArgument) : List (Nat × Option Location) :=
  (args.zip entry.parameters).zipIdx.filterMap fun ((arg, p), index) =>
    match arg with
    | .handles array => if p.input then none else some (index, array)
    | _ => none

/-- The argument that counts the array at a position. -/
def counter? (entry : EntryPoint) (args : List CallArgument) (index : Nat) : Option CallArgument :=
  (entry.countFor? index).bind fun before => args[before]?

/-- The number of handles in the array at a position: what the counter says, none if the counter is
null, and one if nothing counts the array. -/
def outputSize (entry : EntryPoint) (args : List CallArgument) (memory : Memory) (index : Nat) :
    Nat :=
  match entry.counter? args index with
  | some (.pointer (some counter)) => (memory.readCount counter).toNat
  | some _ => 0
  | none => 1

/-- The handles that stand in the output arrays of a call, in the order of the parameters. -/
def outputHandles (entry : EntryPoint) (args : List CallArgument) (memory : Memory) : List Handle :=
  (entry.outputs args).flatMap fun (index, array) =>
    match array with
    | some array => memory.handlesAt array (entry.outputSize args memory index)
    | none => []

end EntryPoint
end DriverLoader
