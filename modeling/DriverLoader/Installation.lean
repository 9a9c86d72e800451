/-
# The process-wide loader

Entry points have no argument that says which loader they belong to, so they use the one that is
installed in the process.  At most one loader is installed at a time.  A loader is installed by hand,
or made from the configuration variables of the process when it is first needed; a loader that was
installed while another was being made stays, and the new one is dropped.

Loaders that were uninstalled are kept in `retired`, because they can still be held and looked at.
-/

import DriverLoader.Loader.Calls
import DriverLoader.Loader.Loading
import DriverLoader.Loader.Unloading

namespace DriverLoader

/-- The identity of a loader that is or was installed: how many were installed before it. -/
structure LoaderId where
  number : Nat
  deriving DecidableEq

/-- The state of a process. -/
structure Installation (ω : Type) extends Shared ω where
  /-- The installed loader. -/
  installed : Option Loader
  /-- The loaders that were uninstalled, oldest first. -/
  retired : List Loader
  /-- A loader was uninstalled and none was installed since. -/
  tornDown : Bool
  /-- The configuration variables. -/
  values : Values
  /-- The loaders that are held, in the order of holding. -/
  heldLoaders : List LoaderId

namespace Installation

variable {ω : Type}

/-- A process in which no loader was installed yet. -/
def start (level : LogLevel) (world : ω) : Installation ω where
  toShared := Shared.start level world
  installed := none
  retired := []
  tornDown := false
  values := Values.empty
  heldLoaders := []

/-- The process after a message was logged. -/
def write (p : Installation ω) (level : LogLevel) (message : String) : Installation ω :=
  { p with toShared := p.toShared.write level message }

/-- The identity of the installed loader. -/
def current? (p : Installation ω) : Option LoaderId :=
  p.installed.map fun _ => ⟨p.retired.length⟩

/-- The loader of an identity. -/
def loader? (p : Installation ω) (id : LoaderId) : Option Loader :=
  (p.retired ++ p.installed.toList)[id.number]?

/-- The process with a loader put into the empty place of the installed one. -/
def settle (p : Installation ω) (loader : Loader) : LoaderId × Installation ω :=
  (⟨p.retired.length⟩, { p with installed := some loader, tornDown := false })

/-- A loader is installed, unless one is installed already. -/
def install (loader : Loader) (p : Installation ω) : Except Failure LoaderId × Installation ω :=
  match p.installed with
  | some _ => (.error .alreadyInstalled, p)
  | none =>
    let (id, p) := p.settle loader
    let text := "loader installed with " ++ toString loader.drivers.length ++ " drivers"
    (.ok id, p.write .info text)

/-- A loader is installed, or dropped if one is installed already; the answer is the one that is
installed in the end. -/
def installOrExisting (loader : Loader) (p : Installation ω) : LoaderId × Installation ω :=
  match p.current? with
  | some id => (id, p.write .debug "loader already installed, dropping the new one")
  | none =>
    let (id, p) := p.settle loader
    (id, p.write .info "loader installed from environment")

/-- A loader is made from the configuration variables. -/
def build (env : Environment ω) (p : Installation ω) : Except Failure Loader × Installation ω :=
  let config := Config.ofValues p.values
  let shared := { p.toShared with log := config.applyLogging p.log }
  match Session.discover env config shared with
  | (.error failure, s) => (.error failure, { p with toShared := s.toShared })
  | (.ok _, s) => (.ok s.loader, { p with toShared := s.toShared })

/-- The process after one more loader came to be installed, if there is one. -/
def meet (rival : Option Loader) (p : Installation ω) : Installation ω :=
  match rival with
  | some loader => (p.install loader).2
  | none => p

/-- The installed loader, or else one made from the configuration variables.

If a `rival` is given, it is installed while the new loader is being made; it then stays, whatever
becomes of the new one. -/
def ensureInstalled (env : Environment ω) (rival : Option Loader) (p : Installation ω) :
    Option LoaderId × Installation ω :=
  match p.current? with
  | some id => (some id, p)
  | none =>
    let (outcome, made) := p.build env
    let met := made.meet rival
    match outcome with
    | .error failure => (met.current?, met.write .error s!"loader unavailable: {failure}")
    | .ok loader =>
      let (id, p) := met.installOrExisting loader
      (some id, p)

/-- The installed loader as a session. -/
def session? (p : Installation ω) : Option (Session ω) :=
  p.installed.map fun loader => { p.toShared with loader := loader }

/-- The process after a session with the installed loader. -/
def resume (p : Installation ω) (s : Session ω) : Installation ω :=
  { p with toShared := s.toShared, installed := some s.loader }

/-- Something is done with the installed loader. -/
def withLoader {α : Type} (p : Installation ω) (act : Session ω → α × Session ω) :
    Option α × Installation ω :=
  match p.session? with
  | none => (none, p)
  | some s =>
    let (answer, s) := act s
    (some answer, p.resume s)

/-- The installed loader is removed and torn down. -/
def uninstall (p : Installation ω) : Except Failure TeardownReport × Installation ω :=
  match p.session? with
  | none => (.error .notInstalled, p)
  | some s =>
    let (report, s) := s.teardown
    (.ok report,
      { p with
        toShared := s.toShared
        installed := none
        retired := p.retired ++ [s.loader]
        tornDown := true })

/-- The teardown of the installed loader, or of the last one, has started. -/
def inTeardown (p : Installation ω) : Bool :=
  match p.installed with
  | some loader => loader.inTeardown
  | none => p.tornDown

/-- The installed loader is held, if there is one. -/
def holdLoader (p : Installation ω) : Installation ω :=
  { p with heldLoaders := p.heldLoaders ++ p.current?.toList }

/-- The loader that was held last. -/
def lastHeld? (p : Installation ω) : Option Loader :=
  p.heldLoaders.getLast?.bind p.loader?

/-- The records borrowed from any loader, oldest loader first. -/
def heldRecords (p : Installation ω) : List HandleRecord :=
  (p.retired ++ p.installed.toList).flatMap (·.registry.lent)

/-- Everything that is held is given back, records of former loaders included. -/
def dropHeld (p : Installation ω) : Installation ω :=
  { p with
    heldDrivers := []
    installed := p.installed.map fun l => { l with registry := l.registry.reclaim }
    retired := p.retired.map fun l => { l with registry := l.registry.reclaim } }

end Installation
end DriverLoader
