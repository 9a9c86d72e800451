/-
# Parameters of entry points

The loader never interprets the arguments it passes on, but it has to know which of them are handles,
which are arrays of handles that a driver fills, and which of them may be null.  A counter is a
pointer to the number of elements of the array that follows it.
-/

import DriverLoader.Category

namespace DriverLoader

/-- What kind of value a parameter takes. -/
inductive ParameterKind where
  /-- A handle, of a type that a category hands out. -/
  | handle (category : Category)
  /-- A pointer to one or more handles. -/
  | handles
  /-- Any other pointer. -/
  | pointer
  /-- An unsigned number, enumeration, flag set or truth value of a width in bits. -/
  | unsigned (bits : Nat)
  /-- A signed number of 32 bits. -/
  | signed
  /-- A floating point number of 64 bits. -/
  | float
  /-- A structure of 16 bytes passed by value. -/
  | aggregate
  deriving DecidableEq

/-- One parameter of an entry point. -/
structure Parameter where
  name : String
  kind : ParameterKind
  /-- Null is an accepted value. -/
  optional : Bool
  /-- The parameter points to the element count of the array that follows it. -/
  count : Bool
  /-- The array is read by the driver and not written. -/
  input : Bool
  deriving DecidableEq

namespace Parameter

/-- The category of the handle that the parameter takes by value. -/
def handleCategory? (p : Parameter) : Option Category :=
  match p.kind with
  | .handle category => some category
  | _ => none

/-- A parameter of a kind that has to be given. -/
def ofKind (kind : ParameterKind) (name : String) : Parameter where
  name := name
  kind := kind
  optional := false
  count := false
  input := false

/-- A handle by value. -/
def handle (category : Category) : String → Parameter :=
  ofKind (.handle category)

/-- A pointer to handles. -/
def handles : String → Parameter :=
  ofKind .handles

/-- A pointer to something other than handles. -/
def pointer : String → Parameter :=
  ofKind .pointer

/-- An unsigned value of a width in bits. -/
def unsigned (bits : Nat) : String → Parameter :=
  ofKind (.unsigned bits)

/-- A signed number. -/
def signed : String → Parameter :=
  ofKind .signed

/-- A floating point number. -/
def float : String → Parameter :=
  ofKind .float

/-- A structure by value. -/
def aggregate : String → Parameter :=
  ofKind .aggregate

/-- A pointer to the element count of the array that follows. -/
def counter (name : String) : Parameter :=
  { ofKind .pointer name with count := true }

/-- The same parameter with null accepted. -/
def nullable (p : Parameter) : Parameter :=
  { p with optional := true }

/-- The same array, read by the driver instead of written. -/
def given (p : Parameter) : Parameter :=
  { p with input := true }

end Parameter
end DriverLoader
