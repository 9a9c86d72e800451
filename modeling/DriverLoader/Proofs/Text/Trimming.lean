/-
# Blanks around a text

Trimming takes away the blanks at the two ends of a text, and nothing else.  Said without regard to how
it is done: what is left neither begins nor ends with a blank (`Trimmed`), and nothing but blanks stood
around it (`Padded`).  Every text has one such text in it, and trimming finds it (`trimChars_eq_iff`).
-/

import DriverLoader.Text.Blank
import Mathlib.Data.List.DropRight

namespace DriverLoader
namespace Text

/-- There are blanks around a text, or none, and nothing else. -/
def Padded (inner outer : List Char) : Prop :=
  ∃ left right, outer = left ++ inner ++ right ∧
    (∀ c ∈ left, isBlank c = true) ∧ ∀ c ∈ right, isBlank c = true

/-- A text neither begins nor ends with a blank. -/
structure Trimmed (cs : List Char) : Prop where
  first : ∀ c ∈ cs.head?, isBlank c = false
  last : ∀ c ∈ cs.getLast?, isBlank c = false

/-- It is enough to look at the two ends. -/
theorem trimmed_iff {cs : List Char} :
    Trimmed cs ↔ cs.head?.all (!isBlank ·) = true ∧ cs.getLast?.all (!isBlank ·) = true := by
  simp only [Option.all_eq_true, Bool.not_eq_true']
  exact ⟨fun ⟨first, last⟩ => ⟨first, last⟩, fun ⟨first, last⟩ => ⟨first, last⟩⟩

instance (cs : List Char) : Decidable (Trimmed cs) :=
  decidable_of_iff' _ trimmed_iff

/-- A text is padded to itself, by nothing. -/
theorem padded_self (cs : List Char) : Padded cs cs :=
  ⟨[], [], (List.append_nil _).symm, List.forall_mem_nil _, List.forall_mem_nil _⟩

/-- The empty text is padded to the blank texts and to no others. -/
theorem padded_nil_iff {cs : List Char} : Padded [] cs ↔ ∀ c ∈ cs, isBlank c = true := by
  constructor
  · rintro ⟨left, right, rfl, hleft, hright⟩
    rw [List.append_nil]
    exact List.forall_mem_append.2 ⟨hleft, hright⟩
  · exact fun h => ⟨cs, [], by rw [List.append_nil, List.append_nil], h, List.forall_mem_nil _⟩

/-- Trimming at the end comes last, and splits the text that is left by then. -/
theorem trimChars_append_rtakeWhile (cs : List Char) :
    trimChars cs ++ (cs.dropWhile isBlank).rtakeWhile isBlank = cs.dropWhile isBlank :=
  List.rdropWhile_append_rtakeWhile ..

/-- What is trimmed of a text are blanks at its two ends. -/
theorem padded_trimChars (cs : List Char) : Padded (trimChars cs) cs := by
  refine ⟨cs.takeWhile isBlank, (cs.dropWhile isBlank).rtakeWhile isBlank, ?_, ?_, ?_⟩
  · rw [List.append_assoc, trimChars_append_rtakeWhile, List.takeWhile_append_dropWhile]
  · exact fun c => List.mem_takeWhile_imp
  · exact fun c => List.mem_rtakeWhile_imp

/-- What is left begins and ends with no blank, for trimming the end of a text leaves its beginning as
it was. -/
theorem trimmed_trimChars (cs : List Char) : Trimmed (trimChars cs) := by
  refine ⟨fun c hc => ?_, fun c hc => ?_⟩
  · obtain ⟨rest, hrest⟩ := List.head?_eq_some_iff.1 hc
    have hfirst := List.head?_dropWhile_not isBlank cs
    rw [← trimChars_append_rtakeWhile, hrest] at hfirst
    exact hfirst
  · obtain ⟨hne, rfl⟩ := List.mem_getLast?_eq_getLast hc
    exact Bool.eq_false_iff.2 (List.rdropWhile_last_not _ _ hne)

/-- Trimming takes the blanks around a text away. -/
theorem Padded.trimChars_eq {inner outer : List Char} (h : Padded inner outer)
    (htrimmed : Trimmed inner) : trimChars outer = inner := by
  obtain ⟨left, right, rfl, hleft, hright⟩ := h
  unfold trimChars
  rw [List.append_assoc, List.dropWhile_append_of_pos hleft]
  cases inner with
  | nil =>
    rw [List.nil_append, List.dropWhile_eq_nil_iff.2 hright]
    rfl
  | cons c rest =>
    have hfront : (c :: rest ++ right).dropWhile isBlank = c :: rest ++ right := by
      rw [List.cons_append, List.dropWhile_cons, htrimmed.first c rfl]
      rfl
    have hback : (c :: rest).rdropWhile isBlank = c :: rest :=
      List.rdropWhile_eq_self_iff.2 fun hne =>
        Bool.eq_false_iff.1 (htrimmed.last _ (List.getLast?_eq_some_getLast hne))
    rw [hfront, List.reverse_append,
      List.dropWhile_append_of_pos fun d hd => hright d (List.mem_reverse.1 hd)]
    exact hback

/-- **What trimming finds.** -/
theorem trimChars_eq_iff {inner outer : List Char} :
    trimChars outer = inner ↔ Padded inner outer ∧ Trimmed inner := by
  constructor
  · rintro rfl
    exact ⟨padded_trimChars outer, trimmed_trimChars outer⟩
  · exact fun ⟨hpadded, htrimmed⟩ => hpadded.trimChars_eq htrimmed

end Text
end DriverLoader
