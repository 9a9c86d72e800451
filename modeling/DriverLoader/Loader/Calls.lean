/-
# Calls through a loader

Initialisation of a category calls every driver whose last answer for that category was success, and
succeeds if some driver does.  Enumeration lists the driver handles of the ready drivers.  Every other
entry point is routed by its first handle.
-/

import DriverLoader.Loader

namespace DriverLoader
namespace Session

variable {ω : Type}

/-- The entry point that initialises a category; tools are initialised with compute. -/
def initEntry : Category → String
  | .sysman => "zesInit"
  | .compute | .tools => "zeInit"

/-- The entry point that lists the driver handles of a category. -/
def driverGetEntry : Category → String
  | .sysman => "zesDriverGet"
  | .compute | .tools => "zeDriverGet"

/-- A driver's answer to the initialisation of a category; without a function for it the driver is
not initialised. -/
def initDriver (env : Environment ω) (entry : EntryPoint) (flags : UInt32) (driver : Driver)
    (f : Frame ω) : ResultCode × Frame ω :=
  let table := driver.table entry.category
  match table.function? entry.group entry.name with
  | some function =>
    if table.valid then f.invoke env driver function entry [.unsigned flags.toUInt64]
    else (.uninitialized, f)
  | none => (.uninitialized, f)

/-- The drivers after those that are ready for a category were initialised. -/
def initDrivers (env : Environment ω) (entry : EntryPoint) (flags : UInt32) :
    List LoadedDriver → Frame ω → List LoadedDriver × Frame ω
  | [], f => ([], f)
  | d :: rest, f =>
    if d.isReady entry.category then
      let (status, f) := initDriver env entry flags d.driver f
      let text := s!"{d.driver.name}: {entry.category} init returned {status}"
      let (more, f) :=
        initDrivers env entry flags rest (if status.isError then f.write .warn text else f)
      (d.setStatus entry.category status :: more, f)
    else
      let (more, f) := initDrivers env entry flags rest f
      (d :: more, f)

/-- A category is initialised. -/
def init (env : Environment ω) (category : Category) (flags : UInt32) (s : Session ω) :
    ResultCode × Session ω :=
  match Api.entry? (initEntry category) with
  | none => (.uninitialized, s)
  | some entry =>
    let (drivers, f) := initDrivers env entry flags s.loader.drivers (s.frame Memory.empty)
    let s := s.resume f
    (if drivers.any (·.isReady category) then .success else .uninitialized,
      { s with loader := { s.loader with drivers := drivers } })

/-- The driver handles of a category are enumerated through the caller's counter and array. -/
def driverGet (env : Environment ω) (category : Category) (count array : Option Location)
    (memory : Memory) (s : Session ω) : ResultCode × Memory × Session ω :=
  match Api.entry? (driverGetEntry category) with
  | none => (.uninitialized, memory, s)
  | some entry =>
    let (result, f) :=
      Enumeration.run env entry (s.loader.ready category) count array (s.frame memory)
    (result, f.memory, s.resume f)

/-- A routed entry point is called. -/
def call (env : Environment ω) (entry : EntryPoint) (args : List CallArgument) (memory : Memory)
    (s : Session ω) : ResultCode × Memory × Session ω :=
  let (result, f) := Dispatch.invoke env s.loader.stack ⟨entry, args⟩ (s.frame memory)
  (result, f.memory, s.resume f)

/-- The session with another registry. -/
def setRegistry (s : Session ω) (registry : Registry) : Session ω :=
  { s with loader := { s.loader with registry := registry } }

/-- A handle made outside the routed entry points is bound to the driver that owns another one. -/
def registerHandle (owner object : Handle) (s : Session ω) : Except Failure Unit × Session ω :=
  if object.isNull then (.error .unknownHandle, s)
  else
    match (s.loader.registry.find? owner).filter (·.valid) with
    | some record =>
      (.ok (), s.setRegistry (s.loader.registry.adopt record.owner object))
    | none => (.error .unknownHandle, s)

/-- A handle is bound to a loaded driver; the answer says whether a record was made. -/
def adoptHandle (name : String) (h : Handle) (s : Session ω) : Except Failure Bool × Session ω :=
  match s.loader.driver name with
  | .error failure => (.error failure, s)
  | .ok driver =>
    (.ok (s.loader.registry.admits h), s.setRegistry (s.loader.registry.adopt driver h))

/-- A handle is marked as destroyed; the answer says whether it was live. -/
def releaseHandle (h : Handle) (s : Session ω) : Bool × Session ω :=
  (s.loader.registry.isLive h, s.setRegistry (s.loader.registry.release h))

end Session
end DriverLoader
