/-
# The loader

A loader owns the drivers it has loaded, the builder of their tables, the handle registry and the
layer stack.  Several references to a driver's tables exist side by side: the list of loaded drivers,
the builder and the records of the registry hold one each, and the tables can be held from outside.

`Session` is a loader together with the state around it that outlives the loader.
-/

import DriverLoader.Builder
import DriverLoader.Config
import DriverLoader.Enumeration

namespace DriverLoader

/-- A driver known to the loader, with the answers of its last initialisations. -/
structure LoadedDriver where
  driver : Driver
  computeStatus : ResultCode
  sysmanStatus : ResultCode

/-- The state of a loader. -/
structure Loader where
  config : Config
  builder : Builder
  registry : Registry
  stack : LayerStack
  /-- The loaded drivers in the order of loading. -/
  drivers : List LoadedDriver
  /-- The validation layer that was installed at the start. -/
  validation : Option LayerId
  /-- The tracing layer, which exists even if it is not installed. -/
  tracing : LayerId
  /-- The teardown has started. -/
  inTeardown : Bool

/-- The state around a loader that outlives it. -/
structure Shared (ω : Type) extends Ambient ω where
  /-- The identity of the next driver that is built. -/
  nextDriver : Nat
  /-- The references to drivers that are held outside every loader. -/
  heldDrivers : List Driver

/-- A loader and the state around it. -/
structure Session (ω : Type) extends Shared ω where
  loader : Loader

/-- The version of one component. -/
structure ComponentVersion where
  name : String
  /-- The newest interface version that the component implements. -/
  interface : Version
  /-- The major, minor and patch number of the library. -/
  library : Nat × Nat × Nat

namespace LoadedDriver

/-- A driver that was just loaded. -/
def fresh (driver : Driver) : LoadedDriver :=
  ⟨driver, .success, .success⟩

/-- The status of a category; tools share the status of compute. -/
def status (d : LoadedDriver) : Category → ResultCode
  | .sysman => d.sysmanStatus
  | .compute | .tools => d.computeStatus

/-- The driver with the status of a category replaced. -/
def setStatus (d : LoadedDriver) (category : Category) (status : ResultCode) : LoadedDriver :=
  match category with
  | .sysman => { d with sysmanStatus := status }
  | .compute | .tools => { d with computeStatus := status }

/-- The driver takes part in the calls of a category. -/
def isReady (d : LoadedDriver) (category : Category) : Bool :=
  (d.status category).isSuccess

end LoadedDriver

namespace Shared

variable {ω : Type}

/-- The state before anything happened. -/
def start (level : LogLevel) (world : ω) : Shared ω where
  layers := []
  host := ⟨NullDriver.handleBase, world⟩
  log := Log.empty level
  trace := []
  nextDriver := 0
  heldDrivers := []

/-- The state after a message was logged. -/
def write (s : Shared ω) (level : LogLevel) (message : String) : Shared ω :=
  { s with toAmbient := s.toAmbient.write level message }

/-- The number of references to a driver that are held outside. -/
def holdsOf (s : Shared ω) (driver : Driver) : Nat :=
  (s.heldDrivers.filter (·.id = driver.id)).length

end Shared

namespace Loader

/-- The names of the loaded drivers, in the order of loading. -/
def names (l : Loader) : List String :=
  l.drivers.map (·.driver.name)

/-- The loaded driver of a name. -/
def find? (l : Loader) (name : String) : Option LoadedDriver :=
  l.drivers.find? fun d => d.driver.name = name

/-- The driver of a name, or a failure. -/
def driver (l : Loader) (name : String) : Except Failure Driver :=
  match l.find? name with
  | some d => .ok d.driver
  | none => .error .driverNotFound

/-- The last answer of a driver's initialisation of a category, or a failure. -/
def initStatus (l : Loader) (name : String) (category : Category) : Except Failure ResultCode :=
  match l.find? name with
  | some d => .ok (d.status category)
  | none => .error .driverNotFound

/-- The drivers that take part in the calls of a category. -/
def ready (l : Loader) (category : Category) : List Driver :=
  (l.drivers.filter (·.isReady category)).map (·.driver)

/-- The single driver that applications may call directly: the only one that is loaded, if no layer
is installed and interception is not forced. -/
def passthrough? (l : Loader) : Option Driver :=
  if l.config.forceIntercept || !l.stack.isEmpty then none
  else
    match l.drivers with
    | [only] => some only.driver
    | _ => none

/-- The loader's tracing layer stands in the stack. -/
def tracingInstalled (l : Loader) : Bool :=
  l.stack.contains l.tracing

/-- A component of this library. -/
def component (name : String) : ComponentVersion :=
  ⟨name, Version.current, (0, 1, 0)⟩

/-- The loader's own version, and those of its layers. -/
def versions (l : Loader) : List ComponentVersion :=
  component "loader" ::
    (if l.validation.isSome then [component "validation layer"] else []) ++
    (if l.tracingInstalled then [component "tracing layer"] else [])

/-- The references to a driver's tables that the list of drivers holds. -/
def listReferences (l : Loader) (driver : Driver) : Nat :=
  (l.drivers.filter (·.driver.id = driver.id)).length

end Loader

namespace Session

variable {ω : Type}

/-- The session after a message was logged. -/
def write (s : Session ω) (level : LogLevel) (message : String) : Session ω :=
  { s with toShared := s.toShared.write level message }

/-- The loader's tracing layer runs tracers and stands in the stack. -/
def tracingState (s : Session ω) : Bool :=
  (s.layers.tracing? s.loader.tracing).any (·.active) && s.loader.tracingInstalled

/-- The names of the installed layers, outermost first. -/
def layerNames (s : Session ω) : List String :=
  s.loader.stack.map (s.layers.nameOf ·)

/-- The frame of a call on the session's registry with the memory of its caller. -/
def frame (s : Session ω) (memory : Memory) : Frame ω :=
  { toAmbient := s.toAmbient, registry := s.loader.registry, memory := memory }

/-- The session after a call left a frame behind. -/
def resume (s : Session ω) (f : Frame ω) : Session ω :=
  { s with
    toAmbient := f.toAmbient
    loader := { s.loader with registry := f.registry } }

/-- The session as a diagnostic shows it. -/
def diagnostic (s : Session ω) : String :=
  "Loader \x7b drivers: " ++ Text.quotedList s.loader.names ++
    ", dispatcher: Dispatcher \x7b handles: " ++ toString s.loader.registry.size ++
    ", layers: " ++ Text.quotedList s.layerNames ++ " \x7d \x7d"

end Session
end DriverLoader
