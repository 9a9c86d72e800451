/-
# Histories of a process

What happens to the process-wide loader: it is installed by hand, installed unless another one is
there, made from the configuration when it is needed, and uninstalled; and everything that can be done
to a loader can be done to the one that is installed.  `Installation.after` is the state that a history
leads to.
-/

import DriverLoader.Installation.Exports
import DriverLoader.Loader.History

namespace DriverLoader

/-- Something that can happen in a process. -/
inductive ProcessEvent where
  /-- A configuration value is set, or removed. -/
  | configure (key : String) (value : Option String)
  | install (loader : Loader)
  | installOrExisting (loader : Loader)
  /-- A loader is made if none is installed; a rival may be installed meanwhile. -/
  | ensureInstalled (rival : Option Loader)
  | uninstall
  | getTable (group : FeatureGroup) (asked : Version) (table : Option ExportedTable)
  | init (category : Category) (flags : UInt32)
  /-- Something is done to the installed loader, if there is one. -/
  | operate (operation : Operation)

namespace Installation

variable {ω : Type}

/-- The process with a configuration value set, or removed. -/
def configure (key : String) (value : Option String) (p : Installation ω) : Installation ω :=
  { p with
    values :=
      match value with
      | some value => p.values.set key value
      | none => p.values.remove key }

/-- The state after one event. -/
def step (env : Environment ω) (p : Installation ω) : ProcessEvent → Installation ω
  | .configure key value => p.configure key value
  | .install loader => (p.install loader).2
  | .installOrExisting loader => (p.installOrExisting loader).2
  | .ensureInstalled rival => (p.ensureInstalled env rival).2
  | .uninstall => p.uninstall.2
  | .getTable group asked table => (p.getTable env group asked table).2.2
  | .init category flags => (p.init env category flags).2
  | .operate operation => (p.withLoader fun s => ((), s.step env operation)).2

/-- The state after a history. -/
def after (env : Environment ω) (p : Installation ω) (history : List ProcessEvent) :
    Installation ω :=
  history.foldl (step env) p

@[simp]
theorem after_nil (env : Environment ω) (p : Installation ω) : p.after env [] = p := rfl

/-- A history in two parts is the second from where the first leads. -/
theorem after_append (env : Environment ω) (p : Installation ω) (first second : List ProcessEvent) :
    p.after env (first ++ second) = (p.after env first).after env second := by
  simp [after]

end Installation
end DriverLoader
