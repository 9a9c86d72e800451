/-
# Traces

A trace says what a loader did outside itself: which symbols it looked up, which getters it asked,
which driver functions it invoked with which arguments, and which callbacks of observing layers,
tracers and checkers it ran.
-/

import DriverLoader.Memory
import DriverLoader.Table

namespace DriverLoader

/-- A call of a driver function, and its answer. -/
structure Invocation where
  /-- The identity of the driver in whose table the function stands. -/
  driver : Nat
  /-- The entry point that the function was called for. -/
  entry : String
  function : DriverFunction
  args : List CallArgument
  result : ResultCode

/-- Something that the loader did outside itself. -/
inductive Event where
  /-- A symbol was looked up in a module. -/
  | lookup (module : DriverModule) (symbol : String) (found : Bool)
  /-- A getter was asked at a version. -/
  | getter (module : DriverModule) (symbol : String) (asked : Version) (result : ResultCode)
  /-- A driver function was invoked. -/
  | invoked (invocation : Invocation)
  /-- The prologue of an observing tracer was run. -/
  | prologue (tag : Nat) (entry : String)
  /-- The epilogue of an observing tracer was run with the value of its prologue. -/
  | epilogue (tag : Nat) (entry : String) (result : ResultCode) (data : Nat)
  /-- An observing checker was asked. -/
  | check (checker : String) (entry : String)
  /-- An observing checker was shown the result. -/
  | checked (checker : String) (entry : String) (result : ResultCode)
  /-- A call reached a probe with `ahead` layers behind it; for each parameter its argument, and for
  handles by value whether they are live. -/
  | reached (layer entry : String) (ahead : Nat)
      (args : List (String × CallArgument × Option Bool))
  /-- A probe noted the diagnostic forms of the call and of the rest of the chain. -/
  | inspected (call chain : String)
  /-- A call came back to a probe. -/
  | returned (layer : String) (result : ResultCode)

/-- What happened so far, latest first. -/
abbrev Trace := List Event

namespace Trace

/-- The driver functions that were invoked, in order. -/
def invocations (trace : Trace) : List Invocation :=
  trace.reverse.filterMap fun
    | .invoked invocation => some invocation
    | _ => none

end Trace
end DriverLoader
