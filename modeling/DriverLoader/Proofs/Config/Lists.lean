/-
# What a list in the configuration holds

A list is written as one text.  Between its commas stand segments, and a segment is blank or is one item
with blanks around it (`Segments`).  An item is not empty, has no comma in it and neither begins nor ends
with a blank (`Item`).

A text is read as the items of its segments, in order, and as nothing else (`Text.fields_eq_iff`).  That
the segments are found again is because neither items nor blanks have commas in them.  So all that is
read are items, and items that are written with nothing but commas between them are read as they are
(`Text.fields_intercalate`).
-/

import DriverLoader.Config
import DriverLoader.Proofs.Text.Trimming

namespace DriverLoader
namespace Text

/-- An item of a list: it is not empty, has no comma in it and neither begins nor ends with a blank. -/
structure Item (item : String) : Prop where
  nonempty : item ≠ ""
  commaFree : ',' ∉ item.toList
  trimmed : Trimmed item.toList

instance (item : String) : Decidable (Item item) :=
  decidable_of_iff (item ≠ "" ∧ ',' ∉ item.toList ∧ Trimmed item.toList)
    ⟨fun ⟨nonempty, commaFree, trimmed⟩ => ⟨nonempty, commaFree, trimmed⟩,
      fun ⟨nonempty, commaFree, trimmed⟩ => ⟨nonempty, commaFree, trimmed⟩⟩

/-- The segments of a list and the items in them, in order: a segment is blank, or is an item with
blanks around it. -/
inductive Segments : List String → List String → Prop where
  | nil : Segments [] []
  | blank {segment : String} {segments items : List String}
      (blank : ∀ c ∈ segment.toList, isBlank c = true) (rest : Segments segments items) :
      Segments (segment :: segments) items
  | item {segment item : String} {segments items : List String} (proper : Item item)
      (around : Padded item.toList segment.toList) (rest : Segments segments items) :
      Segments (segment :: segments) (item :: items)

/-- The items that segments stand for are items indeed: trimmed, without comma and not empty. -/
theorem Segments.items {segments items : List String} (h : Segments segments items) :
    ∀ item ∈ items, Item item := by
  induction h with
  | nil => exact List.forall_mem_nil _
  | blank _ _ ih => exact ih
  | item proper _ _ ih => exact List.forall_mem_cons.2 ⟨proper, ih⟩

/-- Items are segments themselves. -/
theorem segments_self {items : List String} (h : ∀ item ∈ items, Item item) :
    Segments items items := by
  induction items with
  | nil => exact .nil
  | cons item rest ih =>
    obtain ⟨hitem, hrest⟩ := List.forall_mem_cons.1 h
    exact .item hitem (padded_self _) (ih hrest)

/-- Blanks are no commas, so that there are none around an item either. -/
theorem comma_mem_padded_iff {inner outer : List Char} (h : Padded inner outer) :
    ',' ∈ outer ↔ ',' ∈ inner := by
  obtain ⟨left, right, rfl, hleft, hright⟩ := h
  have hblank : ∀ cs : List Char, (∀ c ∈ cs, isBlank c = true) → ',' ∉ cs := fun cs hcs hmem =>
    absurd (hcs ',' hmem) (by decide)
  simp only [List.mem_append, hblank left hleft, hblank right hright, false_or, or_false]

/-- No segment holds the character that separates them. -/
theorem Segments.commaFree {segments items : List String} (h : Segments segments items) :
    ∀ segment ∈ segments, ',' ∉ segment.toList := by
  induction h with
  | nil => exact List.forall_mem_nil _
  | blank blank _ ih =>
    refine List.forall_mem_cons.2 ⟨?_, ih⟩
    rw [comma_mem_padded_iff (padded_nil_iff.2 blank)]
    exact List.not_mem_nil
  | item proper around _ ih =>
    refine List.forall_mem_cons.2 ⟨?_, ih⟩
    rw [comma_mem_padded_iff around]
    exact proper.commaFree

/-! ### The pieces between the commas -/

/-- Cutting at a separator is the splitting of lists at an element. -/
theorem splitChars_eq_splitOn (separator : Char) (cs : List Char) :
    splitChars separator cs = cs.splitOn separator := by
  induction cs with
  | nil => rfl
  | cons c rest ih =>
    rw [List.splitOn_cons_eq_if_modifyHead, splitChars, ih]
    by_cases hc : c = separator
    · rw [if_pos hc, if_pos (beq_iff_eq.2 hc)]
    · obtain ⟨piece, pieces, hrest⟩ :=
        List.exists_cons_of_ne_nil (List.splitOn_ne_nil separator rest)
      rw [if_neg hc, if_neg (mt beq_iff_eq.1 hc), hrest]
      rfl

/-- No piece holds the separator. -/
theorem not_mem_of_mem_splitChars {separator : Char} {cs piece : List Char}
    (h : piece ∈ splitChars separator cs) : separator ∉ piece := by
  induction cs generalizing piece with
  | nil =>
    rw [List.mem_singleton.1 h]
    exact List.not_mem_nil
  | cons c rest ih =>
    unfold splitChars at h
    split at h
    · obtain rfl | hrest := List.mem_cons.1 h
      · exact List.not_mem_nil
      · exact ih hrest
    · rename_i hc
      have hsingle : separator ∉ [c] := fun hmem => hc (List.mem_singleton.1 hmem).symm
      split at h
      · rw [List.mem_singleton.1 h]
        exact hsingle
      · rename_i first pieces hsplit
        rw [hsplit] at ih
        obtain rfl | hrest := List.mem_cons.1 h
        · exact List.not_mem_cons_of_ne_of_not_mem (Ne.symm hc) (ih List.mem_cons_self)
        · exact ih (List.mem_cons_of_mem first hrest)

/-- The pieces of a text between its commas. -/
def pieces (text : String) : List String :=
  (splitChars ',' text.toList).map String.ofList

/-- The pieces of a text, strung together with commas, are the text. -/
theorem intercalate_pieces (text : String) : ",".intercalate (pieces text) = text := by
  have hchars : (splitChars ',' text.toList).map (String.toList ∘ String.ofList)
      = text.toList.splitOn ',' := by
    rw [splitChars_eq_splitOn]
    exact (List.map_congr_left fun _ _ => String.toList_ofList).trans (List.map_id _)
  rw [← String.toList_inj, String.toList_intercalate, pieces, List.map_map, hchars]
  exact List.intercalate_splitOn ','

/-- Segments without commas, strung together, are cut apart again where they were joined. -/
theorem pieces_intercalate {segments : List String} (hsome : segments ≠ [])
    (hcomma : ∀ segment ∈ segments, ',' ∉ segment.toList) :
    pieces (",".intercalate segments) = segments := by
  have hchars : ∀ cs ∈ segments.map String.toList, ',' ∉ cs := List.forall_mem_map.2 hcomma
  unfold pieces
  rw [String.toList_intercalate, splitChars_eq_splitOn]
  refine (congrArg _ (List.splitOn_intercalate ',' hchars (mt List.map_eq_nil_iff.1 hsome))).trans ?_
  rw [List.map_map]
  exact (List.map_congr_left fun _ _ => String.ofList_toList).trans (List.map_id _)

/-- The pieces of a text have no commas. -/
theorem comma_not_mem_pieces {text : String} : ∀ piece ∈ pieces text, ',' ∉ piece.toList := by
  refine List.forall_mem_map.2 fun piece hmem => ?_
  rw [String.toList_ofList]
  exact not_mem_of_mem_splitChars hmem

/-! ### What is read -/

/-- The items of a text are its pieces, trimmed and without the empty ones. -/
theorem fields_eq (text : String) : fields text = ((pieces text).map trim).filter (· ≠ "") := by
  have htrim : trim ∘ String.ofList = String.ofList ∘ trimChars := by
    funext cs
    exact congrArg (fun cs => String.ofList (trimChars cs)) String.toList_ofList
  have hempty : (fun item : String => decide (item ≠ "")) ∘ String.ofList
      = fun piece => !piece.isEmpty := by
    funext cs
    cases cs <;> simp
  unfold fields fieldChars pieces
  rw [List.map_map, htrim, ← List.map_map, ← hempty, ← List.filter_map]

/-- Trimming a segment leaves the one trimmed text that is padded to it. -/
theorem trim_eq_iff {segment item : String} :
    trim segment = item ↔ Padded item.toList segment.toList ∧ Trimmed item.toList := by
  rw [← trimChars_eq_iff, trim, ← String.toList_inj, String.toList_ofList]

/-- Nothing is left of a segment exactly if it is blank. -/
theorem trim_eq_empty_iff {segment : String} :
    trim segment = "" ↔ ∀ c ∈ segment.toList, isBlank c = true := by
  rw [trim_eq_iff]
  exact (and_iff_left ⟨nofun, nofun⟩).trans padded_nil_iff

/-- The items that stand in segments without commas are what is left of the segments. -/
theorem segments_iff {segments items : List String}
    (hcomma : ∀ segment ∈ segments, ',' ∉ segment.toList) :
    Segments segments items ↔ (segments.map trim).filter (· ≠ "") = items := by
  induction segments generalizing items with
  | nil =>
    constructor
    · rintro ⟨⟩
      rfl
    · rintro rfl
      exact .nil
  | cons segment rest ih =>
    obtain ⟨hsegment, hrest⟩ := List.forall_mem_cons.1 hcomma
    rw [List.map_cons, List.filter_cons]
    constructor
    · intro h
      cases h with
      | blank blank rest =>
        rw [trim_eq_empty_iff.2 blank]
        exact (ih hrest).1 rest
      | item proper around rest =>
        rw [trim_eq_iff.2 ⟨around, proper.trimmed⟩, if_pos (decide_eq_true proper.nonempty),
          (ih hrest).1 rest]
    · intro h
      by_cases hblank : trim segment = ""
      · rw [hblank] at h
        exact .blank (trim_eq_empty_iff.1 hblank) ((ih hrest).2 h)
      · rw [if_pos (decide_eq_true hblank)] at h
        obtain ⟨hpadded, htrimmed⟩ := trim_eq_iff.1 (rfl : trim segment = trim segment)
        have hcommaFree := mt (comma_mem_padded_iff hpadded).2 hsegment
        rw [← h]
        exact .item ⟨hblank, hcommaFree, htrimmed⟩ hpadded ((ih hrest).2 rfl)

/-- **A text is read as the items that stand in its segments.**  No segments at all make the same text
as one that is empty. -/
theorem fields_eq_iff {text : String} {items : List String} :
    fields text = items ↔
      ∃ segments, text = ",".intercalate segments ∧ Segments segments items := by
  rw [fields_eq, ← segments_iff comma_not_mem_pieces]
  constructor
  · exact fun h => ⟨pieces text, (intercalate_pieces text).symm, h⟩
  · rintro ⟨segments, rfl, h⟩
    by_cases hnone : segments = []
    · subst hnone
      cases h
      exact .blank (List.forall_mem_nil _) .nil
    · rw [pieces_intercalate hnone h.commaFree]
      exact h

/-- Whatever the text, its fields are items. -/
theorem items_fields (text : String) : ∀ item ∈ fields text, Item item := by
  obtain ⟨_, -, hsegments⟩ := fields_eq_iff.1 (rfl : fields text = fields text)
  exact hsegments.items

/-- Items with nothing but commas between them are read as they are. -/
theorem fields_intercalate {items : List String} (h : ∀ item ∈ items, Item item) :
    fields (",".intercalate items) = items :=
  fields_eq_iff.2 ⟨items, rfl, segments_self h⟩

end Text

namespace Values

/-- The list of a variable that is set has the fields of its value. -/
theorem list_of_get? {values : Values} {key text : String} (h : values.get? key = some text) :
    values.list key = Text.fields text := by
  unfold list
  rw [h]
  rfl

/-- The list of a variable that is not set is empty. -/
theorem list_of_get?_eq_none {values : Values} {key : String} (h : values.get? key = none) :
    values.list key = [] := by
  unfold list
  rw [h]
  rfl

/-- The list of a variable holds items only. -/
theorem items_list (values : Values) (key : String) : ∀ item ∈ values.list key, Text.Item item := by
  cases hvalue : values.get? key with
  | none => simp [list_of_get?_eq_none hvalue]
  | some text =>
    rw [list_of_get? hvalue]
    exact Text.items_fields text

/-- **How the lists in a configuration are read.**

* A value is read as a list if and only if the items of this list stand in it, in this order: the value
  is made of segments with commas between them, of which each is blank or is one of the items with blanks
  around it.
* Where there is no value, nothing is read.
* All that is read are items: not empty, without commas and without blanks at their ends.
* A list that was read, written with commas between its items as the value of any name, is read as the
  same list. -/
theorem list_reads :
    (∀ (values : Values) (key text : String) (items : List String), values.get? key = some text →
      (values.list key = items ↔
        ∃ segments, text = ",".intercalate segments ∧ Text.Segments segments items)) ∧
      (∀ (values : Values) (key : String), values.get? key = none → values.list key = []) ∧
      (∀ (values : Values) (key : String), ∀ item ∈ values.list key, Text.Item item) ∧
      ∀ (values values' : Values) (key key' : String),
        values'.get? key' = some (",".intercalate (values.list key)) →
          values'.list key' = values.list key := by
  refine ⟨fun values key text items hvalue => ?_, fun values key => list_of_get?_eq_none,
    items_list, fun values values' key key' hvalue => ?_⟩
  · rw [list_of_get? hvalue]
    exact Text.fields_eq_iff
  · rw [list_of_get? hvalue]
    exact Text.fields_intercalate (items_list values key)

/-- Blanks around items and blank segments between them make no difference. -/
theorem list_reads_padded :
    let padded := empty.set "ZEL_DRIVERS_ORDER" " NPU:0 ,,\u2003,\t2 "
    let plain := empty.set "ZEL_DRIVERS_ORDER" "NPU:0,2"
    padded.list "ZEL_DRIVERS_ORDER" = ["NPU:0", "2"] ∧
      plain.list "ZEL_DRIVERS_ORDER" = padded.list "ZEL_DRIVERS_ORDER" := by
  intro padded plain
  have hset : ∀ text, (empty.set "ZEL_DRIVERS_ORDER" text).get? "ZEL_DRIVERS_ORDER" = some text :=
    fun text => (get?_set ..).trans (if_pos rfl)
  have hpadded : padded.list "ZEL_DRIVERS_ORDER" = ["NPU:0", "2"] := by
    refine (list_reads.1 padded "ZEL_DRIVERS_ORDER" _ _ (hset _)).2
      ⟨[" NPU:0 ", "", "\u2003", "\t2 "], rfl, ?_⟩
    have hfirst : Text.Padded "NPU:0".toList " NPU:0 ".toList :=
      ⟨[' '], [' '], rfl, List.all_eq_true.1 rfl, List.all_eq_true.1 rfl⟩
    have hlast : Text.Padded "2".toList "\t2 ".toList :=
      ⟨['\t'], [' '], rfl, List.all_eq_true.1 rfl, List.all_eq_true.1 rfl⟩
    exact .item (by decide) hfirst (.blank (List.all_eq_true.1 rfl)
      (.blank (List.all_eq_true.1 rfl) (.item (by decide) hlast .nil)))
  exact ⟨hpadded, list_reads.2.2.2 padded plain _ _ (hpadded ▸ hset _)⟩

end Values
end DriverLoader
