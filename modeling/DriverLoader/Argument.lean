/-
# Arguments

Layers see the arguments of a call without knowing the signature of the entry point.  An argument is
generic in the type `α` of addresses; a null pointer is the absence of an address.

Three texts of an argument exist: the short form shown to observers, the form a driver function shows
of what it received, which includes the bytes of a structure, and the diagnostic form of log lines,
which hides addresses.
-/

import DriverLoader.Handle

namespace DriverLoader

/-- The sixteen bytes of a structure passed by value. -/
structure Block where
  /-- The first eight bytes, the first of them most significant. -/
  front : UInt64
  /-- The last eight bytes. -/
  back : UInt64
  deriving DecidableEq, Inhabited

/-- An argument of a call, with addresses of type `α`. -/
inductive Argument (α : Type) where
  /-- A handle by value. -/
  | handle (h : Handle)
  /-- A pointer to one or more handles. -/
  | handles (address : Option α)
  /-- Any other pointer. -/
  | pointer (address : Option α)
  /-- An unsigned number, enumeration, flag set or truth value. -/
  | unsigned (n : UInt64)
  /-- A signed number. -/
  | signed (n : Int)
  /-- The bits of a floating point number. -/
  | float (bits : UInt64)
  /-- A structure by value. -/
  | aggregate (bytes : Block)
  deriving DecidableEq

namespace Block

/-- The bytes as 32 hexadecimal digits. -/
def text (b : Block) : String :=
  Text.hexPadded 16 b.front.toNat ++ Text.hexPadded 16 b.back.toNat

end Block

namespace Argument

variable {α : Type}

/-- A null handle or a null pointer. -/
def isNull : Argument α → Bool
  | handle h => h.isNull
  | handles address | pointer address => address.isNone
  | _ => false

/-- The handle that is passed by value, if the argument is one. -/
def handle? : Argument α → Option Handle
  | handle h => some h
  | _ => none

/-- The address that is passed, if the argument is a pointer. -/
def address? : Argument α → Option (Option α)
  | handles address | pointer address => some address
  | _ => none

/-- The handle that routes a call: its first argument, if that is a handle. -/
def routing (args : List (Argument α)) : Handle :=
  (args.head?.bind handle?).getD Handle.null

/-- The bits of a floating point number behind the mark `0x`. -/
def bitsText (bits : UInt64) : String :=
  "0x" ++ Text.hexPadded 16 bits.toNat

/-- An address, or `null` where there is none. -/
def addressText (text : α → String) (address : Option α) : String :=
  (address.map text).getD "null"

/-- The short form of an argument. -/
def text (address : α → String) : Argument α → String
  | handle h => s!"h:{h}"
  | handles a => "ho:" ++ addressText address a
  | pointer a => "p:" ++ addressText address a
  | unsigned n => "u:" ++ toString n.toNat
  | signed n => "i:" ++ toString n
  | float bits => "f:" ++ bitsText bits
  | aggregate _ => "agg"

/-- The form that a driver function shows of an argument it received. -/
def receivedText (address : α → String) : Argument α → String
  | aggregate bytes => "agg:" ++ bytes.text
  | arg => arg.text address

/-- The address in a diagnostic: zero for null and a star for everything else. -/
def maskedText (address : Option α) : String :=
  if address.isNone then "0" else "*"

/-- The diagnostic form of an argument. -/
def diagnostic : Argument α → String
  | handle h => s!"Handle({h.diagnostic})"
  | handles a => "HandleOut(" ++ maskedText a ++ ")"
  | pointer a => "Pointer(" ++ maskedText a ++ ")"
  | unsigned n => "Unsigned(" ++ toString n.toNat ++ ")"
  | signed n => "Signed(" ++ toString n ++ ")"
  | float bits => "Float(" ++ bitsText bits ++ ")"
  | aggregate _ => "Aggregate"

/-- The diagnostic form of an argument list. -/
def listDiagnostic (args : List (Argument α)) : String :=
  "[" ++ ", ".intercalate (args.map diagnostic) ++ "]"

end Argument
end DriverLoader
