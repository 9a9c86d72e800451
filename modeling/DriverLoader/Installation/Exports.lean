/-
# The exported interface

The functions that a process exports work on the installed loader.  Routed entry points, enumerations
and loader services answer "uninitialised" while no loader is installed; initialisation and the
getters install one from the configuration first.

A getter fills a table of the caller.  If applications may call the only driver directly, the table
is a copy of that driver's sub-table; otherwise it holds the loader's own entry points that were
introduced at or before the version asked for.
-/

import DriverLoader.Installation

namespace DriverLoader

/-- What stands in a slot of a table that the loader filled. -/
inductive ExportedSlot where
  /-- The loader's own entry point. -/
  | own
  /-- A driver's function. -/
  | direct (function : DriverFunction)
  deriving DecidableEq

/-- A table that the loader filled: the slots that are not null. -/
abbrev ExportedTable := List (String × ExportedSlot)

namespace Loader

/-- The loader's own entry points of a group that a version covers. -/
def ownExports (group : FeatureGroup) (asked : Version) : ExportedTable :=
  (group.entries.filter fun entry => asked.supports entry.version).map fun entry =>
    (entry.name, .own)

/-- A driver's sub-table of a group as it is handed on. -/
def directExports (group : FeatureGroup) (driver : Driver) : ExportedTable :=
  (((driver.table group.category).group? group.name).getD []).map fun (entry, function) =>
    (entry, .direct function)

/-- The table of a group that the loader hands out. -/
def exportTable (l : Loader) (group : FeatureGroup) (asked : Version) : ExportedTable :=
  match l.passthrough? with
  | some driver => directExports group driver
  | none => ownExports group asked

end Loader

namespace Installation

variable {ω : Type}

/-- The getter of a group, asked at a version to fill a table of the caller. -/
def getTable (env : Environment ω) (group : FeatureGroup) (asked : Version)
    (table : Option ExportedTable) (p : Installation ω) :
    ResultCode × Option ExportedTable × Installation ω :=
  let (_, p) := p.ensureInstalled env none
  match p.installed with
  | none => (.uninitialized, table, p)
  | some loader =>
    if table.isNone then (.invalidNullPointer, table, p)
    else if !Version.current.accepts asked then (.unsupportedVersion, table, p)
    else (.success, some (loader.exportTable group asked), p)

/-- A category is initialised. -/
def init (env : Environment ω) (category : Category) (flags : UInt32) (p : Installation ω) :
    ResultCode × Installation ω :=
  let (_, p) := p.ensureInstalled env none
  let (result, p) := p.withLoader (Session.init env category flags)
  (result.getD .uninitialized, p)

/-- The driver handles of a category are enumerated. -/
def driverGet (env : Environment ω) (category : Category) (count array : Option Location)
    (memory : Memory) (p : Installation ω) : ResultCode × Memory × Installation ω :=
  match p.withLoader fun s =>
    let (result, memory, s) := s.driverGet env category count array memory
    ((result, memory), s) with
  | (some (result, memory), p) => (result, memory, p)
  | (none, p) => (.uninitialized, memory, p)

/-- A routed entry point is called. -/
def route (env : Environment ω) (entry : EntryPoint) (args : List CallArgument) (memory : Memory)
    (p : Installation ω) : ResultCode × Memory × Installation ω :=
  match p.withLoader fun s =>
    let (result, memory, s) := s.call env entry args memory
    ((result, memory), s) with
  | (some (result, memory), p) => (result, memory, p)
  | (none, p) => (.uninitialized, memory, p)

/-- An entry point is called.  The loader serves two kinds itself: the one that takes flags
initialises its category, and the one that takes a counter and an array enumerates its drivers. -/
def call (env : Environment ω) (entry : EntryPoint) (args : List CallArgument) (memory : Memory)
    (p : Installation ω) : ResultCode × Memory × Installation ω :=
  match entry.routed, args with
  | false, [.unsigned flags] =>
    let (result, p) := p.init env entry.category flags.toUInt32
    (result, memory, p)
  | false, [.pointer count, .handles array] => p.driverGet env entry.category count array memory
  | _, _ => p.route env entry args memory

/-- The code of an outcome. -/
def codeOf : Option (Except Failure Unit) → ResultCode
  | none => .uninitialized
  | some (.ok _) => .success
  | some (.error failure) => failure.code

/-- A handle made outside the routed entry points is bound to the driver that owns another one. -/
def registerHandle (owner object : Handle) (p : Installation ω) : ResultCode × Installation ω :=
  let (outcome, p) := p.withLoader (Session.registerHandle owner object)
  (codeOf outcome, p)

/-- The tracing layer is installed and switched on. -/
def enableTracing (p : Installation ω) : ResultCode × Installation ω :=
  let (outcome, p) := p.withLoader Session.enableTracing
  (codeOf outcome, p)

/-- The tracing layer is switched off. -/
def disableTracing (p : Installation ω) : ResultCode × Installation ω :=
  let (outcome, p) := p.withLoader fun s => (.ok (), s.disableTracing)
  (codeOf outcome, p)

/-- The state of the tracing layer, written to a variable of the caller if there is one. -/
def tracingState (target : Option Bool) (p : Installation ω) : ResultCode × Option Bool :=
  if target.isNone then (.invalidNullPointer, none)
  else (.success, some (p.session?.any (·.tracingState)))

/-- The versions of the loader's components, written to an array of the caller with room for as many
as its number says.  Without an array only the number is written. -/
def versions (number : Option Nat) (array : Option (List ComponentVersion)) (p : Installation ω) :
    ResultCode × Option Nat × Option (List ComponentVersion) :=
  match p.installed, number with
  | none, _ => (.uninitialized, number, array)
  | some _, none => (.invalidNullPointer, none, array)
  | some loader, some room =>
    let components := loader.versions
    if array.isSome && room < components.length then (.invalidSize, number, array)
    else
      (.success, some components.length,
        array.map fun entries => components ++ entries.drop components.length)

end Installation
end DriverLoader
