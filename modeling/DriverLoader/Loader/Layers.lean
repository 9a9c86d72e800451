/-
# Layers and tracing of a loader

Layers are pushed innermost or inserted at a position; a stack has room for eight.  The loader's own
tracing layer can be switched on at any time: it is then installed outermost unless it stands in the
stack already.  Switching it off leaves it where it is.
-/

import DriverLoader.Loader

namespace DriverLoader
namespace Session

variable {ω : Type}

/-- The session with one more layer in existence, in no stack. -/
def createLayer (s : Session ω) (layer : Layer) : LayerId × Session ω :=
  let (id, layers) := s.layers.create layer
  (id, { s with layers := layers })

/-- A layer is put innermost. -/
def pushLayer (id : LayerId) (s : Session ω) : Except Failure Unit × Session ω :=
  match s.loader.stack.push id with
  | .error failure => (.error failure, s)
  | .ok stack =>
    let text := s!"layer {s.layers.nameOf id} installed"
    (.ok (), { s with loader := { s.loader with stack := stack } }.write .info text)

/-- A layer is put at a position, at most innermost; the answer says whether it was absent. -/
def insertLayer (index : Nat) (id : LayerId) (s : Session ω) : Except Failure Bool × Session ω :=
  match s.loader.stack.insert index id with
  | .error failure => (.error failure, s)
  | .ok none => (.ok false, s)
  | .ok (some stack) =>
    let position := min index s.loader.stack.length
    let text := s!"layer {s.layers.nameOf id} installed at " ++ toString position
    (.ok true, { s with loader := { s.loader with stack := stack } }.write .info text)

/-- All layers leave the stack; the answer is their number. -/
def clearLayers (s : Session ω) : Nat × Session ω :=
  (s.loader.stack.length, { s with loader := { s.loader with stack := [] } })

/-- A tracing layer is changed, unless the change is refused. -/
def changeTracing (id : LayerId) (change : TracingChange) (s : Session ω) :
    Except Failure Unit × Session ω :=
  let (outcome, a) := s.toAmbient.changeTracing id change
  (outcome, { s with toAmbient := a })

/-- The loader's tracing layer is installed and switched on. -/
def enableTracing (s : Session ω) : Except Failure Unit × Session ω :=
  match s.insertLayer 0 s.loader.tracing with
  | (.error failure, s) => (.error failure, s)
  | (.ok _, s) => s.changeTracing s.loader.tracing (.setActive true)

/-- The loader's tracing layer is switched off. -/
def disableTracing (s : Session ω) : Session ω :=
  (s.changeTracing s.loader.tracing (.setActive false)).2

/-- A tracing layer gets one more tracer; the answer is its identifier. -/
def registerTracer (id : LayerId) (callbacks : TracerCallbacks) (s : Session ω) :
    Except Failure TracerId × Session ω :=
  match s.layers.tracing? id with
  | none => (.error .unknownHandle, s)
  | some layer =>
    let (outcome, s) := s.changeTracing id (.register callbacks)
    (outcome.map fun _ => layer.nextId, s)

/-- A validation layer gets one more checker.  Where there is no validation layer there is nothing to
change. -/
def addChecker (id : LayerId) (checker : Checker) (s : Session ω) :
    Except Failure Unit × Session ω :=
  match s.layers.validation? id with
  | none => (.ok (), s)
  | some layer =>
    match layer.addChecker checker with
    | .error failure => (.error failure, s)
    | .ok layer => (.ok (), { s with layers := s.layers.put id (.validation layer) })

end Session
end DriverLoader
