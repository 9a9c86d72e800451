/-
# Configuration

The settings of a loader are read from named values.  A switch is on only if its value is exactly `1`,
a list is a comma-separated text, and the log level is taken from its value only if loader logging is
on, with "warn" where the value is no level.
-/

import DriverLoader.Layer.Validation
import DriverLoader.Log
import DriverLoader.Text.Fields

namespace DriverLoader

/-- Named values, at most one for each name. -/
structure Values where
  entries : List (String × String)

/-- The settings of a loader. -/
structure Config where
  /-- The null driver is loaded. -/
  nullDriver : Bool
  /-- The validation layer is installed. -/
  validationLayer : Bool
  /-- The checkers of the validation layer. -/
  validation : ValidationConfig
  /-- The tracing layer is installed. -/
  tracingLayer : Bool
  /-- Calls are intercepted even if a single driver is loaded. -/
  forceIntercept : Bool
  /-- The log level to apply. -/
  logging : Option LogLevel
  /-- The driver libraries that replace the known ones. -/
  alternativeDrivers : List String
  /-- The tokens that order the drivers. -/
  driverOrder : List String
  deriving DecidableEq

namespace Values

/-- No values. -/
def empty : Values :=
  ⟨[]⟩

/-- The value of a name. -/
def get? (values : Values) (key : String) : Option String :=
  values.entries.lookup key

/-- The values without that of a name. -/
def remove (values : Values) (key : String) : Values :=
  ⟨values.entries.filter fun entry => entry.1 ≠ key⟩

/-- The values with that of a name replaced. -/
def set (values : Values) (key value : String) : Values :=
  ⟨(values.remove key).entries ++ [(key, value)]⟩

/-- A switch is on only if its value is exactly `1`. -/
def flag (values : Values) (key : String) : Bool :=
  values.get? key = some "1"

/-- The items of a comma-separated value; none if there is no value. -/
def list (values : Values) (key : String) : List String :=
  ((values.get? key).map Text.fields).getD []

/-- Looking up a name where some names were taken out. -/
theorem lookup_filter (keep : String → Bool) (key : String) (entries : List (String × String)) :
    (entries.filter fun entry => keep entry.1).lookup key =
      if keep key then entries.lookup key else none := by
  induction entries with
  | nil => simp
  | cons head rest ih =>
    obtain ⟨name, value⟩ := head
    by_cases hn : key = name
    · subst hn
      cases hk : keep key with
      | true => simp [hk]
      | false => simpa [hk] using ih
    · have hb : (key == name) = false := beq_eq_false_iff_ne.2 hn
      cases hk : keep name <;> simp [hk, List.lookup_cons, hb, ih]

/-- Removing a variable takes away that one alone. -/
theorem get?_remove (values : Values) (key other : String) :
    (values.remove key).get? other = if other = key then none else values.get? other := by
  simpa [get?, remove] using lookup_filter (fun name => decide (name ≠ key)) other values.entries

/-- Setting a variable changes that one alone. -/
theorem get?_set (values : Values) (key value other : String) :
    (values.set key value).get? other = if other = key then some value else values.get? other := by
  have h := get?_remove values key other
  unfold get? at h ⊢
  unfold set
  rw [List.lookup_append, h]
  by_cases ho : other = key
  · subst ho
    simp
  · simp [ho, List.lookup_cons, beq_eq_false_iff_ne.2 ho]

end Values

namespace Config

/-- The settings without any value. -/
def default : Config where
  nullDriver := false
  validationLayer := false
  validation := ⟨false, false⟩
  tracingLayer := false
  forceIntercept := false
  logging := none
  alternativeDrivers := []
  driverOrder := []

/-- The log level that the values ask for, if loader logging is on. -/
def loggingOf (values : Values) : Option LogLevel :=
  if values.flag "ZEL_ENABLE_LOADER_LOGGING" then
    some (((values.get? "ZEL_LOADER_LOGGING_LEVEL").bind fun text =>
      LogLevel.ofName? (Text.trim text)).getD .warn)
  else none

/-- The settings that the values ask for. -/
def ofValues (values : Values) : Config where
  nullDriver := values.flag "ZE_ENABLE_NULL_DRIVER"
  validationLayer := values.flag "ZE_ENABLE_VALIDATION_LAYER"
  validation :=
    ⟨values.flag "ZE_ENABLE_PARAMETER_VALIDATION", values.flag "ZE_ENABLE_HANDLE_LIFETIME"⟩
  tracingLayer := values.flag "ZE_ENABLE_TRACING_LAYER"
  forceIntercept := values.flag "ZE_ENABLE_LOADER_INTERCEPT"
  logging := loggingOf values
  alternativeDrivers := values.list "ZE_ENABLE_ALT_DRIVERS"
  driverOrder := values.list "ZEL_DRIVERS_ORDER"

/-- The log with the level that the settings ask for. -/
def applyLogging (config : Config) (log : Log) : Log :=
  { log with level := config.logging.getD log.level }

end Config
end DriverLoader
