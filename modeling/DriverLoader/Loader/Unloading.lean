/-
# Unloading and teardown

A driver can be unloaded only if nothing outside the loader refers to its tables or to one of its
handle records; otherwise nothing changes.  Teardown always goes through: it drops every handle, layer
and driver, releases the tables that nothing else refers to, and reports the others as in use.
-/

import DriverLoader.Loader

namespace DriverLoader

/-- What a teardown did. -/
structure TeardownReport where
  /-- The number of drivers that were loaded. -/
  drivers : Nat
  /-- The number of handle records that were dropped. -/
  handles : Nat
  /-- The number of sub-tables that were released. -/
  subTables : Nat
  /-- The number of drivers whose tables are referenced elsewhere. -/
  inUse : Nat
  deriving DecidableEq

namespace Session

variable {ω : Type}

/-- The references to a driver's tables outside the registry: in the list of drivers, in the builder
and outside the loader. -/
def references (s : Session ω) (driver : Driver) : Nat :=
  s.loader.listReferences driver + s.loader.builder.references driver + s.holdsOf driver

/-- A driver's tables are cleared if nothing refers to them any more; the answer is the number of
sub-tables released. -/
def releaseTables (driver : Driver) (s : Session ω) : Except Failure Nat × Session ω :=
  if s.references driver + s.loader.registry.references driver = 0 then
    let (released, _, a) := driver.tearDown s.toAmbient
    (.ok released, { s with toAmbient := a })
  else (.error .tableInUse, s.write .warn s!"{driver.name}: tables still in use")

/-- The loader without a driver: neither loaded nor held by the builder. -/
def dropDriver (l : Loader) (name : String) : Loader :=
  { l with
    builder := l.builder.remove name
    drivers := l.drivers.eraseP fun d => d.driver.name = name }

/-- A driver is unloaded together with its handles; the answer is the number of sub-tables
released. -/
def unload (name : String) (s : Session ω) : Except Failure Nat × Session ω :=
  match s.loader.find? name with
  | none => (.error .driverNotFound, s)
  | some d =>
    let registry := s.loader.registry
    let others := 1 + if s.loader.builder.contains name then 1 else 0
    match registry.purgeExclusive? d.driver others (s.references d.driver) with
    | none => (.error .tableInUse, s.write .warn s!"{name}: tables still in use")
    | some purged =>
      let handles := (registry.owned d.driver).length
      let s := { s with loader := dropDriver { s.loader with registry := purged } name }
      match s.releaseTables d.driver with
      | (.error failure, s) => (.error failure, s)
      | (.ok released, s) =>
        let text := s!"{name}: unloaded (" ++ toString handles ++ " handles, " ++
          toString released ++ " sub-tables)"
        (.ok released, s.write .info text)

/-- The tables of drivers that have left the loader are released, and those in use are counted. -/
def releaseAll : List Driver → Session ω → Nat × Nat × Session ω
  | [], s => (0, 0, s)
  | driver :: rest, s =>
    match s.releaseTables driver with
    | (.ok released, s) =>
      let (subTables, inUse, s) := releaseAll rest s
      (released + subTables, inUse, s)
    | (.error _, s) =>
      let (subTables, inUse, s) := releaseAll rest s
      (subTables, inUse + 1, s)

/-- The loader lets go of every handle, layer and driver. -/
def teardown (s : Session ω) : TeardownReport × Session ω :=
  let drivers := s.loader.drivers.map (·.driver)
  let handles := s.loader.registry.size
  let loader :=
    { s.loader with
      inTeardown := true
      registry := s.loader.registry.clear
      stack := []
      builder := Builder.empty
      drivers := [] }
  let (subTables, inUse, s) := releaseAll drivers { s with loader := loader }
  let report : TeardownReport := ⟨drivers.length, handles, subTables, inUse⟩
  let text := "loader torn down: " ++ toString report.drivers ++ " drivers, " ++
    toString report.handles ++ " handles, " ++ toString report.subTables ++ " sub-tables"
  (report, s.write .info text)

/-- One more reference to a driver's tables is held outside. -/
def hold (name : String) (s : Session ω) : Except Failure Unit × Session ω :=
  match s.loader.driver name with
  | .error failure => (.error failure, s)
  | .ok driver => (.ok (), { s with heldDrivers := s.heldDrivers ++ [driver] })

/-- The record of a handle is borrowed; the answer says whether there is one. -/
def holdRecord (h : Handle) (s : Session ω) : Bool × Session ω :=
  match s.loader.registry.lend? h with
  | none => (false, s)
  | some registry => (true, { s with loader := { s.loader with registry := registry } })

/-- Everything that is held outside is given back. -/
def dropHeld (s : Session ω) : Session ω :=
  { s with
    heldDrivers := []
    loader := { s.loader with registry := s.loader.registry.reclaim } }

end Session
end DriverLoader
