/-
# A simulated environment

Scripted drivers, the libraries on the search path and observers that only take notes make up an
environment in which a loader can be run.  What it remembers is how often each scripted function was
called.
-/

import DriverLoader.Simulation.Library
import DriverLoader.Simulation.Script

namespace DriverLoader
namespace Simulation

/-- How often each function of each scripted driver was called. -/
structure World where
  counts : List ((Nat × String) × Nat)

/-- The scripts of custom modules, by their number; a module without a script exports nothing. -/
abbrev Scripts := List (Option Script)

namespace World

/-- Nothing was called yet. -/
def empty : World :=
  ⟨[]⟩

/-- How often a function was called. -/
def count (world : World) (key : Nat × String) : Nat :=
  (world.counts.lookup key).getD 0

/-- The counts after one more call. -/
def bump (world : World) (key : Nat × String) : World :=
  ⟨(key, world.count key + 1) :: world.counts.filter fun entry => entry.1 ≠ key⟩

end World

namespace Scripts

/-- The script of a module. -/
def find? (scripts : Scripts) (id : Nat) : Option Script :=
  (scripts[id]?).join

end Scripts

/-- The getters of a module. -/
def exports (scripts : Scripts) (module : DriverModule) : Exports := fun symbol =>
  match module with
  | .null newest => NullDriver.exports newest symbol
  | .library name => (Library.find? name).bind fun library => library.exports module symbol
  | .custom id => (scripts.find? id).bind fun script => script.exports module symbol

/-- The answer of a function. -/
def invoke (scripts : Scripts) (function : DriverFunction) (entry : EntryPoint)
    (args : List CallArgument) (memory : Memory) (host : Host World) : Reply World :=
  match function.module with
  | .null _ => NullDriver.invoke entry args memory host
  | .library name =>
    match Library.find? name with
    | some library =>
      let (result, memory) := library.answer function.entry args memory
      ⟨result, memory, host, []⟩
    | none => ⟨.uninitialized, memory, host, []⟩
  | .custom id =>
    let key := (id, function.entry)
    let earlier := host.world.count key
    let host := { host with world := host.world.bump key }
    match (scripts.find? id).bind (·.behaviour? function.entry earlier) with
    | some behaviour => behaviour.answer entry args memory host
    | none => NullDriver.invoke entry args memory host

/-- The simulated environment.  The prologue of an observer answers with a hundred times its number
and the number of arguments. -/
def environment (scripts : Scripts) : Environment World where
  opens := fun name => (Library.find? name).isSome
  exports := exports scripts
  invoke := invoke scripts
  prologue := fun tag call _ => (tag * 100 + call.args.length, [])
  epilogue := fun _ _ _ _ _ => []

end Simulation
end DriverLoader
