/-
# Failures

What can go wrong when tables are built, drivers are loaded and layers are installed.  Each failure
has one text, and one result code that it turns into where it has to cross the driver interface.
-/

import DriverLoader.Category
import DriverLoader.ResultCode

namespace DriverLoader

/-- Why the table of a category could not be built. -/
inductive BuildFailure where
  /-- The getter of a required group is not exported. -/
  | missingGroup (category : Category) (group : String)
  /-- The getter of a required group answered with a code other than success. -/
  | rejected (category : Category) (group : String) (code : ResultCode)
  /-- No released version was accepted. -/
  | noCommonVersion (category : Category)
  deriving DecidableEq

/-- Why an operation of the loader failed. -/
inductive Failure where
  /-- No driver is available. -/
  | noDrivers
  /-- A driver of this name is loaded already. -/
  | duplicateDriver
  /-- No driver of this name is loaded. -/
  | driverNotFound
  /-- The tables of a driver could not be built. -/
  | build (cause : BuildFailure)
  /-- A bounded list of layers, tracers or checkers is full. -/
  | layerStackFull
  /-- A loader is installed already. -/
  | alreadyInstalled
  /-- No loader is installed. -/
  | notInstalled
  /-- A driver's tables are referenced elsewhere. -/
  | tableInUse
  /-- A handle is null, unknown or destroyed. -/
  | unknownHandle
  /-- A driver library could not be opened. -/
  | libraryLoad
  deriving DecidableEq

namespace BuildFailure

/-- The category whose table could not be built. -/
def category : BuildFailure → Category
  | missingGroup category _ | rejected category _ _ | noCommonVersion category => category

/-- The text of a failure. -/
def message : BuildFailure → String
  | missingGroup category group => s!"{category} table: mandatory group {group} not exported"
  | rejected category group code => s!"{category} table: group {group} rejected with {code}"
  | noCommonVersion category => s!"{category} table: no supported API version"

/-- The code of a failure: a rejection keeps the code of the driver. -/
def code : BuildFailure → ResultCode
  | missingGroup _ _ => .uninitialized
  | rejected _ _ code => code
  | noCommonVersion _ => .unsupportedVersion

instance : ToString BuildFailure :=
  ⟨message⟩

end BuildFailure

namespace Failure

/-- The text of a failure. -/
def message : Failure → String
  | noDrivers => "no driver available"
  | duplicateDriver => "driver already loaded"
  | driverNotFound => "driver not found"
  | build cause => s!"table build failed: {cause}"
  | layerStackFull => "layer stack full"
  | alreadyInstalled => "loader already installed"
  | notInstalled => "loader not installed"
  | tableInUse => "dispatch table still in use"
  | unknownHandle => "unknown handle"
  | libraryLoad => "driver library could not be loaded"

/-- The code of a failure. -/
def code : Failure → ResultCode
  | build cause => cause.code
  | layerStackFull => .outOfHostMemory
  | tableInUse => .handleObjectInUse
  | unknownHandle => .invalidArgument
  | libraryLoad => .dependencyUnavailable
  | noDrivers | duplicateDriver | driverNotFound | alreadyInstalled | notInstalled => .uninitialized

instance : ToString Failure :=
  ⟨message⟩

end Failure
end DriverLoader
