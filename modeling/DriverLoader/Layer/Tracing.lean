/-
# The tracing layer

A tracing layer keeps a bounded list of tracers, each a pair of callbacks run around every call.
Tracers are registered disabled.  Each gets the next number as its identifier, and a number is never
given out twice before the counter of 32 bits wraps; a refused registration uses none up.

`TracingLayer.change` is every way in which a layer can change; callbacks may ask for changes too.
-/

import DriverLoader.Failure
import DriverLoader.Log

namespace DriverLoader

/-- The identifier of a registered tracer. -/
structure TracerId where
  number : UInt32
  deriving DecidableEq, Inhabited

instance : ToString TracerId :=
  ⟨fun id => "tracer#" ++ toString id.number.toNat⟩

/-- The callbacks of a tracer. -/
inductive TracerCallbacks where
  /-- The call and its result are logged. -/
  | log
  /-- Nothing is done. -/
  | silent
  /-- The callbacks are those of an observer with a number. -/
  | observer (tag : Nat)
  deriving DecidableEq

/-- A change of a tracing layer. -/
inductive TracingChange where
  /-- A tracer is registered, disabled. -/
  | register (callbacks : TracerCallbacks)
  /-- A tracer is removed. -/
  | unregister (id : TracerId)
  /-- A tracer is enabled or disabled. -/
  | setEnabled (id : TracerId) (enabled : Bool)
  /-- The layer is switched on or off as a whole. -/
  | setActive (active : Bool)
  deriving DecidableEq

/-- A registered tracer. -/
structure Tracer where
  id : TracerId
  enabled : Bool
  callbacks : TracerCallbacks

/-- The state of a tracing layer. -/
structure TracingLayer where
  /-- The registered tracers in the order of registration. -/
  tracers : List Tracer
  /-- The identifier of the next tracer. -/
  nextId : TracerId
  /-- An inactive layer runs no tracer. -/
  active : Bool

namespace TracingLayer

/-- The largest number of registered tracers. -/
def capacity : Nat :=
  16

/-- An active layer without tracers. -/
def empty : TracingLayer :=
  ⟨[], ⟨1⟩, true⟩

/-- An active layer with one tracer, enabled, that logs every call. -/
def logging : TracingLayer :=
  ⟨[⟨⟨1⟩, true, .log⟩], ⟨2⟩, true⟩

/-- The layer with one more tracer, disabled, under the next identifier. -/
def register (layer : TracingLayer) (callbacks : TracerCallbacks) : Except Failure TracingLayer :=
  if layer.tracers.length < capacity then
    .ok { layer with
      tracers := layer.tracers ++ [⟨layer.nextId, false, callbacks⟩]
      nextId := ⟨layer.nextId.number + 1⟩ }
  else .error .layerStackFull

/-- The layer without one of its tracers. -/
def unregister (layer : TracingLayer) (id : TracerId) : Except Failure TracingLayer :=
  if layer.tracers.any (·.id = id) then
    .ok { layer with tracers := layer.tracers.eraseP (·.id = id) }
  else .error .unknownHandle

/-- The first tracer with an identifier, replaced by another state of it. -/
def switch (id : TracerId) (enabled : Bool) : List Tracer → List Tracer
  | [] => []
  | tracer :: rest =>
    if tracer.id = id then { tracer with enabled := enabled } :: rest
    else tracer :: switch id enabled rest

/-- The layer with one of its tracers enabled or disabled. -/
def setEnabled (layer : TracingLayer) (id : TracerId) (enabled : Bool) :
    Except Failure TracingLayer :=
  if layer.tracers.any (·.id = id) then
    .ok { layer with tracers := switch id enabled layer.tracers }
  else .error .unknownHandle

/-- The layer switched on or off as a whole. -/
def setActive (layer : TracingLayer) (active : Bool) : TracingLayer :=
  { layer with active := active }

/-- The layer after a change, or why the change is refused. -/
def change (layer : TracingLayer) : TracingChange → Except Failure TracingLayer
  | .register callbacks => layer.register callbacks
  | .unregister id => layer.unregister id
  | .setEnabled id enabled => layer.setEnabled id enabled
  | .setActive active => .ok (layer.setActive active)

/-- What is logged when a layer is changed: a registration, and a switch that changes anything. -/
def changeMessages (layer : TracingLayer) : TracingChange → List (LogLevel × String)
  | .register _ => [(.debug, s!"{layer.nextId} registered")]
  | .setActive active =>
    if layer.active = active then []
    else [(.info, if active then "tracing layer active" else "tracing layer inactive")]
  | .unregister _ | .setEnabled _ _ => []

/-- The tracers that observe a call starting now. -/
def observing (layer : TracingLayer) : List Tracer :=
  if layer.active then layer.tracers.filter (·.enabled) else []

/-- The layer as a diagnostic shows it. -/
def diagnostic (layer : TracingLayer) : String :=
  "TracingLayer \x7b active: " ++ toString layer.active ++ ", tracers: " ++
    toString layer.tracers.length ++ " \x7d"

end TracingLayer
end DriverLoader
