/-
# Decimal numbers of a machine word

An index in an order token is an optional plus sign and one or more ASCII digits, with a value that
fits into 64 bits.  Nothing else is a number: no blanks, no minus sign, no digits of another script.
-/

namespace DriverLoader
namespace Text

/-- The values that fit into 64 bits are those below this bound. -/
def wordBound : Nat :=
  UInt64.size

/-- The value of a run of ASCII digits read after the value `acc`, or nothing if a character is no
digit. -/
def digitsValue? (acc : Nat) : List Char → Option Nat
  | [] => some acc
  | c :: rest =>
    if c.isDigit then digitsValue? (10 * acc + (c.toNat - '0'.toNat)) rest else none

/-- The value of one or more ASCII digits if it fits into 64 bits. -/
def unsignedWord? (digits : List Char) : Option Nat :=
  if digits.isEmpty then none
  else (digitsValue? 0 digits).filter (fun value => value < wordBound)

/-- The value of an optional plus sign and one or more ASCII digits if it fits into 64 bits. -/
def word? : List Char → Option Nat
  | '+' :: digits => unsignedWord? digits
  | digits => unsignedWord? digits

end Text
end DriverLoader
