/-
# Quoted text

Diagnostics show names between quotation marks.  Quotation marks and backslashes get a backslash in
front, four controls have a letter of their own, and every other character that is not visible is
written by its number.
-/

import DriverLoader.Text.Hex
import DriverLoader.Text.Visible

namespace DriverLoader
namespace Text

/-- A character by its number in hexadecimal. -/
def numbered (c : Char) : List Char :=
  ['\\', 'u', Char.ofNat 0x7b] ++ hexDigits c.toNat ++ [Char.ofNat 0x7d]

/-- A character as it stands between quotation marks. -/
def quotedChar (c : Char) : List Char :=
  match c with
  | '"' => ['\\', '"']
  | '\\' => ['\\', '\\']
  | '\n' => ['\\', 'n']
  | '\r' => ['\\', 'r']
  | '\t' => ['\\', 't']
  | '\x00' => ['\\', '0']
  | c => if isVisible c then [c] else numbered c

/-- A text between quotation marks. -/
def quoted (text : String) : String :=
  String.ofList ('"' :: text.toList.flatMap quotedChar ++ ['"'])

/-- A list of quoted texts. -/
def quotedList (texts : List String) : String :=
  "[" ++ ", ".intercalate (texts.map quoted) ++ "]"

end Text
end DriverLoader
