/-
# Loading drivers

A loader starts with the layers that its configuration asks for: tracing outermost, so that it
observes what validation rejects.  Drivers are added one by one, each name once.  Discovery adds the
libraries that can be opened and built, in order, and then the null driver if it is asked for; a
loader that ends up with no driver is a failure.
-/

import DriverLoader.Discovery
import DriverLoader.Loader.Layers

namespace DriverLoader
namespace Session

variable {ω : Type}

/-- A loader without drivers and with the layers that a configuration asks for. -/
def empty (config : Config) (shared : Shared ω) : Session ω :=
  let layer := TracingLayer.logging.setActive config.tracingLayer
  let (tracing, layers) := shared.layers.create (.tracing layer)
  let s : Session ω :=
    { shared with
      layers := layers
      loader :=
        { config := config, builder := Builder.empty, registry := Registry.empty, stack := []
          drivers := [], validation := none, tracing := tracing, inTeardown := false } }
  let s := s.write .debug "tracer#1 registered"
  let s := if config.tracingLayer then s else s.write .info "tracing layer inactive"
  let s := if config.tracingLayer then (s.pushLayer tracing).2 else s
  if config.validationLayer then
    let (validation, s) := s.createLayer (.validation (ValidationLayer.ofConfig config.validation))
    let (_, s) := s.pushLayer validation
    { s with loader := { s.loader with validation := some validation } }
  else s

/-- A library is opened by name as a driver module. -/
def openLibrary (env : Environment ω) (name : String) (a : Ambient ω) :
    Except Failure DriverModule × Ambient ω :=
  if env.opens name then (.ok (.library name), a.write .info s!"{name}: loaded")
  else (.error .libraryLoad, a)

/-- A driver is built from a module and loaded under a name. -/
def addDriver (env : Environment ω) (name : String) (module : DriverModule) (s : Session ω) :
    Except Failure Driver × Session ω :=
  if s.loader.builder.contains name then (.error .duplicateDriver, s)
  else
    match s.loader.builder.build (env.exportsOf module) name module s.nextDriver s.toAmbient with
    | (.error failure, _, a) =>
      (.error (.build failure), { s with toAmbient := a })
    | (.ok driver, builder, a) =>
      (.ok driver,
        { s with
          toAmbient := a
          nextDriver := s.nextDriver + 1
          loader :=
            { s.loader with
              builder := builder
              drivers := s.loader.drivers ++ [LoadedDriver.fresh driver] } })

/-- Drivers are loaded in order, up to the first that fails. -/
def addDrivers (env : Environment ω) :
    List (String × DriverModule) → Session ω → Except Failure Unit × Session ω
  | [], s => (.ok (), s)
  | (name, module) :: rest, s =>
    match s.addDriver env name module with
    | (.error failure, s) => (.error failure, s)
    | (.ok _, s) => addDrivers env rest s

/-- A library is opened and loaded; what fails is logged and skipped. -/
def addLibrary (env : Environment ω) (name : String) (s : Session ω) : Session ω :=
  match openLibrary env name s.toAmbient with
  | (.error failure, a) =>
    { s with toAmbient := a }.write .debug s!"{name}: skipped ({failure})"
  | (.ok module, a) =>
    match { s with toAmbient := a }.addDriver env name module with
    | (.error failure, s) => s.write .warn s!"{name}: skipped ({failure})"
    | (.ok _, s) => s

/-- A loader over the given modules. -/
def withDrivers (env : Environment ω) (config : Config) (drivers : List (String × DriverModule))
    (shared : Shared ω) : Except Failure Unit × Session ω :=
  (empty config shared).addDrivers env drivers

/-- The null driver is loaded if the configuration asks for it. -/
def addNullDriver (env : Environment ω) (s : Session ω) : Except Failure Unit × Session ω :=
  if s.loader.config.nullDriver then
    s.addDrivers env [(NullDriver.name, .null Version.current)]
  else (.ok (), s)

/-- A loader over every driver that is discovered. -/
def discover (env : Environment ω) (config : Config) (shared : Shared ω) :
    Except Failure Unit × Session ω :=
  let s := empty config shared
  let (names, log) := Discovery.names config s.log
  let s := { s with log := log }
  match (names.foldl (fun s name => s.addLibrary env name) s).addNullDriver env with
  | (.error failure, s) => (.error failure, s)
  | (.ok _, s) =>
    if s.loader.drivers.isEmpty then
      (.error .noDrivers, s.write .warn "no driver available")
    else (.ok (), s)

end Session
end DriverLoader
