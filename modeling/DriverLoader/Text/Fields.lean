/-
# Separated fields

A list in the configuration is one text whose items stand between commas.  Items are trimmed, and
those that are blank are left out.
-/

import DriverLoader.Text.Blank

namespace DriverLoader
namespace Text

/-- The pieces of a text between the occurrences of a separator; there is always one more piece
than there are separators. -/
def splitChars (separator : Char) : List Char → List (List Char)
  | [] => [[]]
  | c :: rest =>
    if c = separator then [] :: splitChars separator rest
    else
      match splitChars separator rest with
      | [] => [[c]]
      | piece :: pieces => (c :: piece) :: pieces

/-- The trimmed pieces of a text between commas, without the empty ones. -/
def fieldChars (cs : List Char) : List (List Char) :=
  ((splitChars ',' cs).map trimChars).filter (fun piece => !piece.isEmpty)

/-- The items of a comma-separated text, trimmed and without the blank ones. -/
def fields (text : String) : List String :=
  (fieldChars text.toList).map String.ofList

/-- The two parts of a text before and after the first occurrence of a separator. -/
def splitFirst? (separator : Char) : List Char → Option (List Char × List Char)
  | [] => none
  | c :: rest =>
    if c = separator then some ([], rest)
    else (splitFirst? separator rest).map fun (before, after) => (c :: before, after)

end Text
end DriverLoader
