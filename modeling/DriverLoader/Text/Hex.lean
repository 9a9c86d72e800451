/-
# Hexadecimal text

Handles, the bits of floating point arguments and unnamed result codes are written in lower-case
hexadecimal digits behind the mark `0x`.
-/

namespace DriverLoader
namespace Text

/-- The lower-case hexadecimal digits of a number, most significant first. -/
def hexDigits (n : Nat) : List Char :=
  Nat.toDigits 16 n

/-- A number in hexadecimal behind the mark `0x`, without padding. -/
def hex (n : Nat) : String :=
  "0x" ++ String.ofList (hexDigits n)

/-- Hexadecimal digits without the mark, padded with zeros on the left to a width. -/
def hexPadded (width n : Nat) : String :=
  let digits := hexDigits n
  String.ofList (List.replicate (width - digits.length) '0' ++ digits)

/-- The value of one hexadecimal digit, in either case. -/
def hexDigit? (c : Char) : Option Nat :=
  if c.isDigit then some (c.toNat - '0'.toNat)
  else if 'a' ≤ c && c ≤ 'f' then some (c.toNat - 'a'.toNat + 10)
  else if 'A' ≤ c && c ≤ 'F' then some (c.toNat - 'A'.toNat + 10)
  else none

/-- The value of hexadecimal digits without a mark, in either case; `0` if there are none. -/
def hexValue? (digits : List Char) : Option Nat :=
  digits.foldlM (fun value c => (hexDigit? c).map (16 * value + ·)) 0

end Text
end DriverLoader
