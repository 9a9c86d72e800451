/-
# What an order token says

`DriverOrder.Reads` says what a token may say, without regard to how it is read: a number, the name of a
type, or a name and a number with a colon between them and blanks around both.  A number is an optional
plus sign and one or more ASCII digits with a value below `2 ^ 64` (`Text.Numeral`).

A token is read as what it says and as nothing else (`DriverOrder.parse?_reads`).  That the first colon
is the only one that can matter, and that nothing of a name or a number is taken for a blank, is because
names and numbers have neither blanks nor colons in them.  Nothing is both a name and a number, so that
no token says two things; and the text of every order, for a type that has a name and a number that
fits, says this order (`DriverOrder.reads_of_text?`).
-/

import DriverLoader.Discovery
import DriverLoader.Proofs.Text.Trimming
import Mathlib.Algebra.GroupWithZero.Nat

namespace DriverLoader
namespace Text

/-! ### Numbers -/

/-- One or more ASCII digits with a value that fits into 64 bits. -/
structure Digits (digits : List Char) (value : Nat) : Prop where
  nonempty : digits ≠ []
  ascii : ∀ c ∈ digits, c.isDigit = true
  value_eq : Nat.ofDigitChars 10 digits 0 = value
  small : value < 2 ^ 64

/-- A number: digits, or a plus sign and digits. -/
inductive Numeral : List Char → Nat → Prop where
  | plain {digits : List Char} {value : Nat} (number : Digits digits value) : Numeral digits value
  | plus {digits : List Char} {value : Nat} (number : Digits digits value) :
      Numeral ('+' :: digits) value

/-- A run of digits is read as its value, from any value on. -/
theorem digitsValue?_eq (acc : Nat) (cs : List Char) :
    digitsValue? acc cs
      = if cs.all Char.isDigit then some (Nat.ofDigitChars 10 cs acc) else none := by
  induction cs generalizing acc with
  | nil => rfl
  | cons c rest ih =>
    unfold digitsValue?
    rw [List.all_cons, Nat.ofDigitChars_cons, ih]
    cases c.isDigit with
    | false => rfl
    | true => rfl

/-- A word is read exactly where there are digits alone, as the value that they denote. -/
theorem unsignedWord?_eq_some_iff {cs : List Char} {value : Nat} :
    unsignedWord? cs = some value ↔ Digits cs value := by
  unfold unsignedWord?
  rw [Option.ite_none_left_eq_some, List.isEmpty_iff, digitsValue?_eq, Option.filter_eq_some_iff,
    Option.ite_none_right_eq_some, List.all_eq_true, Option.some.injEq, decide_eq_true_iff]
  exact ⟨fun ⟨hnonempty, ⟨hascii, hvalue⟩, hsmall⟩ => ⟨hnonempty, hascii, hvalue, hsmall⟩,
    fun ⟨hnonempty, hascii, hvalue, hsmall⟩ => ⟨hnonempty, ⟨hascii, hvalue⟩, hsmall⟩⟩

/-- **A number is read as its value, and nothing else is read as a number.** -/
theorem word?_eq_some_iff {cs : List Char} {value : Nat} :
    word? cs = some value ↔ Numeral cs value := by
  constructor
  · intro h
    unfold word? at h
    split at h
    · exact .plus (unsignedWord?_eq_some_iff.1 h)
    · exact .plain (unsignedWord?_eq_some_iff.1 h)
  · intro h
    cases h with
    | plain number =>
      unfold word?
      split
      · exact absurd (number.ascii '+' List.mem_cons_self) (by decide)
      · exact unsignedWord?_eq_some_iff.2 number
    | plus number => exact unsignedWord?_eq_some_iff.2 number

/-- The decimal text of a number is a number. -/
theorem numeral_toString {n : Nat} (h : n < 2 ^ 64) : Numeral (toString n).toList n := by
  rw [Nat.toString_eq_ofList_toDigits, String.toList_ofList]
  exact .plain ⟨Nat.toDigits_ne_nil, fun c => Nat.isDigit_of_mem_toDigits (by decide) (by decide),
    Nat.ofDigitChars_ten_toDigits, h⟩

/-! ### Characters -/

/-- A character that names and numbers can be made of: neither blank nor a colon. -/
def Solid (c : Char) : Prop :=
  isBlank c = false ∧ c ≠ ':'

instance (c : Char) : Decidable (Solid c) :=
  inferInstanceAs (Decidable (_ ∧ _))

/-- Digits are neither blank nor a colon. -/
theorem solid_of_isDigit {c : Char} (h : c.isDigit = true) : Solid c := by
  simp only [Char.isDigit, Bool.and_eq_true, decide_eq_true_iff, ge_iff_le,
    UInt32.le_iff_toNat_le] at h
  have hdigit : 48 ≤ c.toNat ∧ c.toNat ≤ 57 := h
  refine ⟨?_, ?_⟩
  · simp only [isBlank, Bool.or_eq_false_iff, Bool.and_eq_false_iff, decide_eq_false_iff_not,
      beq_eq_false_iff_ne]
    omega
  · rintro rfl
    exact absurd hdigit (by decide)

/-- A numeral has no blanks and no colon in it. -/
theorem Numeral.solid {cs : List Char} {value : Nat} (h : Numeral cs value) : ∀ c ∈ cs, Solid c := by
  cases h with
  | plain number => exact fun c hc => solid_of_isDigit (number.ascii c hc)
  | plus number =>
    exact List.forall_mem_cons.2 ⟨by decide, fun c hc => solid_of_isDigit (number.ascii c hc)⟩

/-! ### Blanks around a text -/

/-- What has no blanks in it has none at its ends. -/
theorem trimmed_of_solid {cs : List Char} (h : ∀ c ∈ cs, Solid c) : Trimmed cs :=
  ⟨fun c hc => (h c (List.mem_of_head? hc)).1, fun c hc => (h c (List.mem_of_getLast? hc)).1⟩

/-- What is said of a trimmed text is said of what stands between the blanks, if it is only said of
texts without blanks. -/
theorem trimChars_iff {P : List Char → Prop} (hP : ∀ cs, P cs → ∀ c ∈ cs, Solid c) (cs : List Char) :
    P (trimChars cs) ↔ ∃ inner, Padded inner cs ∧ P inner := by
  constructor
  · exact fun h => ⟨trimChars cs, padded_trimChars cs, h⟩
  · rintro ⟨inner, hpadded, h⟩
    rw [hpadded.trimChars_eq (trimmed_of_solid (hP inner h))]
    exact h

/-! ### The first colon -/

/-- A text is split at the first separator. -/
theorem splitFirst?_eq_some_iff {separator : Char} {cs before after : List Char} :
    splitFirst? separator cs = some (before, after) ↔
      cs = before ++ separator :: after ∧ separator ∉ before := by
  induction cs generalizing before with
  | nil => simp [splitFirst?]
  | cons c rest ih =>
    unfold splitFirst?
    split
    · rename_i hseparator
      subst hseparator
      constructor
      · intro h
        cases h
        exact ⟨rfl, List.not_mem_nil⟩
      · rintro ⟨hcs, hbefore⟩
        cases before with
        | nil => rw [(List.cons.inj hcs).2]
        | cons d more => exact absurd ((List.cons.inj hcs).1 ▸ List.mem_cons_self) hbefore
    · rename_i hother
      rw [Option.map_eq_some_iff]
      constructor
      · rintro ⟨⟨more, _⟩, hrest, heq⟩
        obtain ⟨rfl, rfl⟩ := Prod.mk.inj heq
        obtain ⟨rfl, hmore⟩ := ih.1 hrest
        exact ⟨rfl, List.not_mem_cons_of_ne_of_not_mem (Ne.symm hother) hmore⟩
      · rintro ⟨hcs, hbefore⟩
        cases before with
        | nil => exact absurd (List.cons.inj hcs).1 hother
        | cons d more =>
          obtain ⟨rfl, hrest⟩ := List.cons.inj hcs
          exact ⟨(more, after), ih.2 ⟨hrest, List.not_mem_of_not_mem_cons hbefore⟩, rfl⟩

/-- A text cannot be split exactly if it has no separator. -/
theorem splitFirst?_eq_none_iff {separator : Char} {cs : List Char} :
    splitFirst? separator cs = none ↔ separator ∉ cs := by
  induction cs with
  | nil => simp [splitFirst?]
  | cons c rest ih =>
    unfold splitFirst?
    split
    · rename_i hseparator
      simp [hseparator]
    · rename_i hother
      rw [Option.map_eq_none_iff, ih, List.mem_cons, not_or]
      exact ⟨fun h => ⟨Ne.symm hother, h⟩, And.right⟩

end Text

namespace DriverType

/-- The name of a type, in capital letters. -/
def name? : DriverType → Option String
  | discreteGpu => some "DISCRETE_GPU_ONLY"
  | gpu => some "GPU"
  | integratedGpu => some "INTEGRATED_GPU_ONLY"
  | npu => some "NPU"
  | other => none

/-- A type is read from its name and from no other text. -/
theorem ofName?_eq_some_iff {name : String} {type : DriverType} :
    ofName? name = some type ↔ type.name? = some name := by
  constructor
  · intro h
    unfold ofName? at h
    iterate 4
      split at h
      · rename_i hname
        cases h
        exact congrArg some hname.symm
    cases h
  · intro h
    cases type <;> cases h <;> rfl

/-- A name is made of letters and low lines. -/
theorem name_chars {type : DriverType} {name : String} (h : type.name? = some name) :
    name.toList ≠ [] ∧ ∀ c ∈ name.toList, Text.Solid c ∧ c.isDigit = false ∧ c ≠ '+' := by
  have hnonempty : name.toList.isEmpty = false := by
    cases type <;> cases h <;> rfl
  have hchars : name.toList.all (fun c => decide (Text.Solid c) && !c.isDigit && c != '+') = true := by
    cases type <;> cases h <;> rfl
  refine ⟨fun hnil => absurd (List.isEmpty_iff.2 hnil) (Bool.eq_false_iff.1 hnonempty), fun c hc => ?_⟩
  have hc' := List.all_eq_true.1 hchars c hc
  simp only [Bool.and_eq_true, decide_eq_true_iff, Bool.not_eq_true', bne_iff_ne, and_assoc] at hc'
  exact hc'

end DriverType

namespace DriverOrder

/-- What a token says: a number, the name of a type, or a name and a number with a colon between them
and blanks around both. -/
inductive Reads (token : String) : DriverOrder → Prop where
  | index {position : Nat} (number : Text.Numeral token.toList position) :
      Reads token (.index position)
  | type {t : DriverType} (name : t.name? = some token) : Reads token (.type t)
  | typeIndex {left right digits : List Char} {name : String} {t : DriverType} {position : Nat}
      (colon : token.toList = left ++ ':' :: right) (around : Text.Padded name.toList left)
      (named : t.name? = some name) (around' : Text.Padded digits right)
      (number : Text.Numeral digits position) : Reads token (.typeIndex t position)

/-- The text of an order, if it is for no type or for one that has a name. -/
def text? : DriverOrder → Option String
  | index position => some (toString position)
  | type t => t.name?
  | typeIndex t position => t.name?.map fun name => name ++ ":" ++ toString position

/-- The number in an order. -/
def position? : DriverOrder → Option Nat
  | index position | typeIndex _ position => some position
  | type _ => none

/-- A text without a colon has none around it either. -/
theorem colon_not_mem_padded {inner outer : List Char} (h : Text.Padded inner outer)
    (hsolid : ∀ c ∈ inner, Text.Solid c) : ':' ∉ outer := by
  obtain ⟨left, right, rfl, hleft, hright⟩ := h
  rw [List.mem_append, List.mem_append]
  rintro ((hmem | hmem) | hmem)
  · exact absurd (hleft ':' hmem) (by decide)
  · exact (hsolid ':' hmem).2 rfl
  · exact absurd (hright ':' hmem) (by decide)

/-- The part before the colon is a name with blanks around it. -/
theorem ofName?_trimChars_iff {t : DriverType} {left : List Char} :
    DriverType.ofName? (String.ofList (Text.trimChars left)) = some t ↔
      ∃ name : String, Text.Padded name.toList left ∧ t.name? = some name := by
  rw [DriverType.ofName?_eq_some_iff]
  have hsolid : ∀ cs, t.name? = some (String.ofList cs) → ∀ c ∈ cs, Text.Solid c := fun cs h c hc =>
    ((DriverType.name_chars h).2 c (String.toList_ofList.symm ▸ hc)).1
  refine (Text.trimChars_iff (P := fun cs => t.name? = some (String.ofList cs)) hsolid left).trans ?_
  constructor
  · rintro ⟨inner, hpadded, h⟩
    exact ⟨String.ofList inner, String.toList_ofList.symm ▸ hpadded, h⟩
  · rintro ⟨name, hpadded, h⟩
    exact ⟨name.toList, hpadded, String.ofList_toList.symm ▸ h⟩

/-- The part behind the colon is a number with blanks around it. -/
theorem word?_trimChars_iff {position : Nat} {right : List Char} :
    Text.word? (Text.trimChars right) = some position ↔
      ∃ digits, Text.Padded digits right ∧ Text.Numeral digits position := by
  rw [Text.word?_eq_some_iff]
  exact Text.trimChars_iff (P := fun cs => Text.Numeral cs position) (fun _ h => h.solid) right

/-- A name is no number. -/
theorem word?_of_name {t : DriverType} {name : String} (h : t.name? = some name) :
    Text.word? name.toList = none := by
  obtain ⟨hnonempty, hchars⟩ := DriverType.name_chars h
  obtain ⟨c, rest, hname⟩ := List.exists_cons_of_ne_nil hnonempty
  obtain ⟨-, hdigit, hplus⟩ := hchars c (hname ▸ List.mem_cons_self)
  refine Option.eq_none_iff_forall_ne_some.2 fun position hword => ?_
  rw [Text.word?_eq_some_iff, hname] at hword
  cases hword with
  | plain number => exact absurd (number.ascii c List.mem_cons_self) (Bool.eq_false_iff.1 hdigit)
  | plus number => exact hplus rfl

/-- **Tokens are read as what they say.**  There is a colon only where there is a name and a number, and
the first one stands between the two. -/
theorem parse?_eq_some_iff {token : String} {order : DriverOrder} :
    parse? token = some order ↔ Reads token order := by
  have hwhole : (∀ c ∈ token.toList, Text.Solid c) →
      Text.splitFirst? ':' token.toList = none := fun hsolid =>
    Text.splitFirst?_eq_none_iff.2 fun hmem => (hsolid ':' hmem).2 rfl
  constructor
  · intro h
    unfold parse? at h
    split at h
    · rename_i left right hsplit
      obtain ⟨t, hname, hnumber⟩ := Option.bind_eq_some_iff.1 h
      obtain ⟨position, hword, rfl⟩ := Option.map_eq_some_iff.1 hnumber
      obtain ⟨name, hpadded, hnamed⟩ := ofName?_trimChars_iff.1 hname
      obtain ⟨digits, hpadded', hnumeral⟩ := word?_trimChars_iff.1 hword
      exact .typeIndex (Text.splitFirst?_eq_some_iff.1 hsplit).1 hpadded hnamed hpadded' hnumeral
    · split at h
      · rename_i position hword
        cases h
        exact .index (Text.word?_eq_some_iff.1 hword)
      · obtain ⟨t, hname, rfl⟩ := Option.map_eq_some_iff.1 h
        exact .type (DriverType.ofName?_eq_some_iff.1 hname)
  · intro h
    unfold parse?
    cases h with
    | index number =>
      rw [hwhole number.solid, Text.word?_eq_some_iff.2 number]
    | type name =>
      rw [hwhole fun c hc => ((DriverType.name_chars name).2 c hc).1, word?_of_name name,
        DriverType.ofName?_eq_some_iff.2 name]
      rfl
    | typeIndex colon around named around' number =>
      have hleft := colon_not_mem_padded around fun c hc => ((DriverType.name_chars named).2 c hc).1
      rw [Text.splitFirst?_eq_some_iff.2 ⟨colon, hleft⟩]
      dsimp only
      rw [ofName?_trimChars_iff.2 ⟨_, around, named⟩, word?_trimChars_iff.2 ⟨_, around', number⟩]
      rfl

/-- **The text of an order says this order**, if its number fits into 64 bits. -/
theorem reads_of_text? {order : DriverOrder} {token : String} (htext : order.text? = some token)
    (hfits : ∀ position, order.position? = some position → position < 2 ^ 64) : Reads token order := by
  cases order with
  | index position =>
    cases htext
    exact .index (Text.numeral_toString (hfits position rfl))
  | type t => exact .type htext
  | typeIndex t position =>
    obtain ⟨name, hname, rfl⟩ := Option.map_eq_some_iff.1 htext
    refine .typeIndex ?_ (Text.padded_self _) hname (Text.padded_self _)
      (Text.numeral_toString (hfits position rfl))
    rw [String.toList_append, String.toList_append, List.append_assoc]
    rfl

/-- **How order tokens are read.**

* For every token, reading it gives an order if and only if the token says this order.
* It gives none if and only if the token says nothing.
* No token says two things.
* The text of an order, for a number that fits into 64 bits and a type that has a name, is read as this
  order. -/
theorem parse?_reads :
    (∀ token order, parse? token = some order ↔ Reads token order) ∧
      (∀ token, parse? token = none ↔ ∀ order, ¬Reads token order) ∧
      (∀ token first second, Reads token first → Reads token second → first = second) ∧
      ∀ order token, order.text? = some token →
        (∀ position, order.position? = some position → position < 2 ^ 64) →
          parse? token = some order := by
  refine ⟨fun token order => parse?_eq_some_iff, fun token => ?_, fun token first second h h' => ?_,
    fun order token htext hfits => parse?_eq_some_iff.2 (reads_of_text? htext hfits)⟩
  · simp only [Option.eq_none_iff_forall_ne_some, ne_eq, parse?_eq_some_iff]
  · exact Option.some.inj ((parse?_eq_some_iff.2 h).symm.trans (parse?_eq_some_iff.2 h'))

/-- A plus sign, leading zeros and wide blanks do not matter, and the largest number of 64 bits is read
back from its text. -/
theorem parse?_reads_padded :
    parse? "\u2003NPU :\t+007 " = some (.typeIndex .npu 7) ∧
      parse? "GPU:18446744073709551615" = some (.typeIndex .gpu 18446744073709551615) := by
  have hname : Text.Padded "NPU".toList "\u2003NPU ".toList :=
    ⟨['\u2003'], [' '], rfl, List.forall_mem_singleton.2 rfl, List.forall_mem_singleton.2 rfl⟩
  have hnumber : Text.Padded "+007".toList "\t+007 ".toList :=
    ⟨['\t'], [' '], rfl, List.forall_mem_singleton.2 rfl, List.forall_mem_singleton.2 rfl⟩
  have hvalue : Text.Numeral "+007".toList 7 :=
    .plus ⟨List.cons_ne_nil _ _, List.all_eq_true.1 rfl, rfl, by decide⟩
  obtain ⟨hreads, -, -, htext⟩ := parse?_reads
  refine ⟨(hreads _ _).2 (.typeIndex rfl hname rfl hnumber hvalue), htext _ _ ?_ ?_⟩
  · rfl
  · rintro position ⟨⟩
    decide

end DriverOrder
end DriverLoader
