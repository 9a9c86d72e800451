/-
# The null driver

The null driver implements every entry point without touching hardware.  Each call succeeds.  An array
of handles that a counter sizes receives one fresh handle, if there is an array and room in it, and
the counter is set to one; an array without a counter receives one fresh handle.  Without a counter
to write to, a counted array is left alone.  Arrays that are only read are never written.

Fresh handles are the numbers after `handleBase`, shared by all null drivers.
-/

import DriverLoader.Api
import DriverLoader.Environment
import DriverLoader.Output

namespace DriverLoader
namespace NullDriver

/-- Fresh handles begin behind this number. -/
def handleBase : UInt64 :=
  0x80800000

/-- The name of the null driver. -/
def name : String :=
  "null"

/-- The null driver at a version as a diagnostic shows it. -/
def diagnostic (newest : Version) : String :=
  "NullDriver \x7b name: " ++ Text.quoted name ++ ", version: " ++ newest.diagnostic ++ " \x7d"

/-- The functions for the entry points of a group that were introduced at or before a version. -/
def subTable (newest : Version) (group : FeatureGroup) (asked : Version) : SubTable :=
  (group.entries.filter fun entry => asked.supports entry.version).map fun entry =>
    (entry.name, ⟨.null newest, entry.name⟩)

/-- A table of the caller, filled at a version.  Every version up to the newest of the same major part
is accepted; without a table there is nothing to fill. -/
def fillTable (newest : Version) (group : FeatureGroup) (asked : Version) (table : Option SubTable) :
    ResultCode × Option SubTable :=
  match table with
  | none => (.invalidNullPointer, none)
  | some slots =>
    if newest.accepts asked then (.success, some (subTable newest group asked))
    else (.unsupportedVersion, some slots)

/-- The getter of a group, asked to fill an empty table. -/
def getter (newest : Version) (group : FeatureGroup) : Getter := fun asked =>
  let (result, table) := fillTable newest group asked (some [])
  (result, table.getD [])

/-- Every group has its getter. -/
def exports (newest : Version) : Exports := fun symbol =>
  (Api.groupOfSymbol? symbol).map (getter newest)

/-- What the calls of null drivers change: the caller's memory and the last handle given out. -/
structure Effect where
  memory : Memory
  lastHandle : UInt64

/-- A fresh handle is written to a slot. -/
def Effect.give (effect : Effect) (location : Location) : Effect where
  memory := effect.memory.writeHandle location ⟨effect.lastHandle + 1⟩
  lastHandle := effect.lastHandle + 1

/-- The answer to one array of handles at position `index`. -/
def answer (entry : EntryPoint) (args : List CallArgument) (effect : Effect) (index : Nat)
    (array : Option Location) : Effect :=
  match entry.counter? args index, array with
  | some (.pointer (some counter)), some array =>
    let filled := if effect.memory.readCount counter = 0 then effect else effect.give array
    { filled with memory := filled.memory.writeCount counter 1 }
  | some (.pointer (some counter)), none =>
    { effect with memory := effect.memory.writeCount counter 1 }
  | some _, _ => effect
  | none, some array => effect.give array
  | none, none => effect

/-- The effect of a call of an entry point. -/
def respond (entry : EntryPoint) (args : List CallArgument) (effect : Effect) : Effect :=
  (entry.outputs args).foldl (fun effect (index, array) => answer entry args effect index array)
    effect

/-- A call of an entry point: it succeeds, and is logged. -/
def invoke {ω : Type} (entry : EntryPoint) (args : List CallArgument) (memory : Memory)
    (host : Host ω) : Reply ω :=
  let effect := respond entry args ⟨memory, host.lastHandle⟩
  { result := .success
    memory := effect.memory
    host := { host with lastHandle := effect.lastHandle }
    messages := [(.trace, s!"null: {entry}")] }

end NullDriver

namespace Environment

variable {ω : Type}

/-- The getters of any module. -/
def exportsOf (env : Environment ω) : DriverModule → Exports
  | .null newest => NullDriver.exports newest
  | module => env.exports module

/-- The answer of any function. -/
def run (env : Environment ω) (function : DriverFunction) (entry : EntryPoint)
    (args : List CallArgument) (memory : Memory) (host : Host ω) : Reply ω :=
  match function.module with
  | .null _ => NullDriver.invoke entry args memory host
  | _ => env.invoke function entry args memory host

end Environment

namespace Frame

variable {ω : Type}

/-- **The only place where a driver function is invoked.**  The invocation of a driver's function is
put on the trace. -/
def invoke (env : Environment ω) (driver : Driver) (function : DriverFunction) (entry : EntryPoint)
    (args : List CallArgument) (s : Frame ω) : ResultCode × Frame ω :=
  let reply := env.run function entry args s.memory s.host
  let invocation : Invocation := ⟨driver.id, entry.name, function, args, reply.result⟩
  (reply.result,
    { s.record (.invoked invocation) with
      memory := reply.memory
      host := reply.host
      log := s.log.addAll reply.messages })

end Frame
end DriverLoader
