/-
# Scripted drivers

A scripted driver is a null driver that can be told to misbehave: which getters it lacks or lets fail,
which slots it leaves empty, and how its functions answer, call by call.  Without a script a function
does what the null driver does.
-/

import DriverLoader.NullDriver

namespace DriverLoader
namespace Simulation

/-- How a scripted function answers one call. -/
structure Behaviour where
  /-- The null driver's answer is made first, and its result dropped. -/
  stub : Bool
  /-- The handles that are put into the output arrays. -/
  handles : Option (List Handle)
  /-- The number that is reported instead of the number of handles. -/
  count : Option UInt32
  code : ResultCode

/-- How a scripted getter fails. -/
structure Denial where
  code : ResultCode
  /-- Only versions newer than this one are refused. -/
  above : Option Version

/-- A scripted driver. -/
structure Script where
  name : String
  /-- The newest version that is accepted in each category. -/
  newest : Category → Version
  /-- The symbols of the getters that are not exported. -/
  missing : List String
  /-- The getters that fail. -/
  denials : List (String × Denial)
  /-- Slots newer than the version asked for are filled as well. -/
  allSlots : Bool
  /-- The entry points whose slots are left empty. -/
  nullSlots : List String
  /-- The behaviours of entry points, call by call; the last one repeats. -/
  behaviours : List (String × List Behaviour)

namespace Denial

/-- The denial covers a version. -/
def covers (denial : Denial) (asked : Version) : Bool :=
  denial.above.all fun version => version.raw < asked.raw

end Denial

namespace Script

/-- The functions that a script offers for a group at a version. -/
def subTable (script : Script) (module : DriverModule) (group : FeatureGroup) (asked : Version) :
    SubTable :=
  (group.entries.filter fun entry =>
    (script.allSlots || asked.supports entry.version) && !script.nullSlots.contains entry.name).map
    fun entry => (entry.name, ⟨module, entry.name⟩)

/-- The getter of a group. -/
def getter (script : Script) (module : DriverModule) (group : FeatureGroup) : Getter := fun asked =>
  match (script.denials.lookup group.symbol).filter (·.covers asked) with
  | some denial => (denial.code, [])
  | none =>
    if (script.newest group.category).accepts asked then
      (.success, script.subTable module group asked)
    else (.unsupportedVersion, [])

/-- The getters that a script exports. -/
def exports (script : Script) (module : DriverModule) : Exports := fun symbol =>
  if script.missing.contains symbol then none
  else (Api.groupOfSymbol? symbol).map (script.getter module)

/-- The behaviour of a function that was called `earlier` times before. -/
def behaviour? (script : Script) (entry : String) (earlier : Nat) : Option Behaviour :=
  (script.behaviours.lookup entry).bind fun behaviours =>
    behaviours[min earlier (behaviours.length - 1)]?

end Script

namespace Behaviour

/-- The scripted handles are put into the output array at a position. -/
def fill (b : Behaviour) (entry : EntryPoint) (args : List CallArgument) (memory : Memory)
    (index : Nat) (array : Option Location) : Memory :=
  let handles := b.handles.getD []
  match entry.counter? args index with
  | some (.pointer (some counter)) =>
    let n :=
      if array.isNone then handles.length
      else min (memory.readCount counter).toNat handles.length
    let filled := (array.map fun a => memory.writeHandles a (handles.take n)).getD memory
    filled.writeCount counter (b.count.getD (UInt32.ofNat n))
  | some _ => memory
  | none => (array.map fun a => memory.writeHandles a (handles.take 1)).getD memory

/-- The scripted handles are put into all output arrays of a call, if the behaviour has any. -/
def fillAll (b : Behaviour) (entry : EntryPoint) (args : List CallArgument) (memory : Memory) :
    Memory :=
  if b.handles.isSome || b.count.isSome then
    (entry.outputs args).foldl
      (fun memory (index, array) => b.fill entry args memory index array) memory
  else memory

/-- The answer to a call. -/
def answer {ω : Type} (b : Behaviour) (entry : EntryPoint) (args : List CallArgument)
    (memory : Memory) (host : Host ω) : Reply ω :=
  let before : Reply ω :=
    if b.stub then NullDriver.invoke entry args memory host else ⟨.success, memory, host, []⟩
  { before with result := b.code, memory := b.fillAll entry args before.memory }

end Behaviour
end Simulation
end DriverLoader
