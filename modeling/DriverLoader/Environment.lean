/-
# What lies outside the loader

Driver functions and the callbacks of observers are not part of the loader.  An environment gives them
their meaning: it says which libraries can be opened, which getters a module exports, and what an
invoked function does to the state of the outside, of type `ω`.  Everything the loader promises holds
for every environment.

A function may write to the caller's memory, log messages, and take handles from the counter that all
null drivers share.  A callback decides from what happened so far, and may change tracing layers.
-/

import DriverLoader.Layer
import DriverLoader.Log
import DriverLoader.Registry
import DriverLoader.Trace

namespace DriverLoader

/-- The state that driver functions work on. -/
structure Host (ω : Type) where
  /-- The last handle that a null driver gave out. -/
  lastHandle : UInt64
  /-- What driver functions remember. -/
  world : ω

/-- The answer of a driver function, and what it leaves behind. -/
structure Reply (ω : Type) where
  result : ResultCode
  memory : Memory
  host : Host ω
  /-- The messages that the function logged, in order. -/
  messages : List (LogLevel × String)

/-- A call on its way through the layers. -/
structure Call where
  entry : EntryPoint
  args : List CallArgument

/-- The meaning of modules, functions and callbacks. -/
structure Environment (ω : Type) where
  /-- A library of this name can be opened. -/
  opens : String → Bool
  /-- The getters of a module other than the null driver. -/
  exports : DriverModule → Exports
  /-- The answer of a function of a module other than the null driver. -/
  invoke : DriverFunction → EntryPoint → List CallArgument → Memory → Host ω → Reply ω
  /-- The value of an observer's prologue, and the changes that it makes to tracing layers. -/
  prologue : Nat → Call → Trace → Nat × List (LayerId × TracingChange)
  /-- The changes that an observer's epilogue makes to tracing layers. -/
  epilogue : Nat → Call → ResultCode → Nat → Trace → List (LayerId × TracingChange)

/-- The state around a loader: the layers, the outside, and what happened so far. -/
structure Ambient (ω : Type) where
  layers : Layers
  host : Host ω
  log : Log
  trace : Trace

/-- The state that a call works on. -/
structure Frame (ω : Type) extends Ambient ω where
  registry : Registry
  memory : Memory

namespace Call

/-- The call as a diagnostic shows it. -/
def diagnostic (call : Call) : String :=
  "Call \x7b entry: " ++ Text.quoted call.entry.name ++ ", args: " ++
    Argument.listDiagnostic call.args ++ " \x7d"

/-- The handle that routes the call. -/
def handle (call : Call) : Handle :=
  Argument.routing call.args

end Call

namespace Ambient

variable {ω : Type}

/-- The state after a message was logged. -/
def write (a : Ambient ω) (level : LogLevel) (message : String) : Ambient ω :=
  { a with log := a.log.add level message }

/-- The state after something happened. -/
def record (a : Ambient ω) (event : Event) : Ambient ω :=
  { a with trace := event :: a.trace }

/-- A tracing layer is changed, unless the change is refused.  Where there is no tracing layer there
is nothing to change. -/
def changeTracing (id : LayerId) (change : TracingChange) (a : Ambient ω) :
    Except Failure Unit × Ambient ω :=
  match a.layers.tracing? id with
  | none => (.ok (), a)
  | some layer =>
    match layer.change change with
    | .error failure => (.error failure, a)
    | .ok changed =>
      (.ok (),
        { a with
          layers := a.layers.put id (.tracing changed)
          log := a.log.addAll (layer.changeMessages change) })

/-- Several changes are made to tracing layers, in order; those that are refused are left out. -/
def changeAll (changes : List (LayerId × TracingChange)) (a : Ambient ω) : Ambient ω :=
  changes.foldl (fun a change => (a.changeTracing change.1 change.2).2) a

end Ambient

namespace Frame

variable {ω : Type}

/-- The frame after a message was logged. -/
def write (s : Frame ω) (level : LogLevel) (message : String) : Frame ω :=
  { s with toAmbient := s.toAmbient.write level message }

/-- The frame after something happened. -/
def record (s : Frame ω) (event : Event) : Frame ω :=
  { s with toAmbient := s.toAmbient.record event }

/-- The frame after changes were made to tracing layers. -/
def changeAll (s : Frame ω) (changes : List (LayerId × TracingChange)) : Frame ω :=
  { s with toAmbient := s.toAmbient.changeAll changes }

end Frame
end DriverLoader
