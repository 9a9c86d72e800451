/-
# What the null driver writes

A call of a null driver answers one output array after the other.  An answer gives a handle to the
array, if it is said to hold some, and then sets the counter (`answer_eq`).  It changes nothing else
(`slots_answer_of_not_touches`), so where every pointer has a buffer of its own no answer disturbs
another (`respond_at`).

In the end an array that was said to hold at least one handle has a fresh handle in its first slot and
is otherwise as before, every other array is as before (`respond_array`), and every counter that was
given says one (`respond_counter`).
-/

import DriverLoader.Proofs.Dispatch.Settlement
import DriverLoader.Proofs.Memory.Writing

namespace DriverLoader

namespace EntryPoint

variable {entry : EntryPoint} {args : List CallArgument}

/-- Where the argument at a position points, if it is a pointer that is given. -/
def pointee? (args : List CallArgument) (position : Nat) : Option Location :=
  (args[position]?.bind Argument.address?).join

/-- Each pointer argument of a call points to a buffer of its own, and there is memory behind every
counter. -/
structure Buffered (entry : EntryPoint) (args : List CallArgument) (memory : Memory) : Prop where
  apart : ∀ i j a b, pointee? args i = some a → pointee? args j = some b → a.region = b.region →
    i = j
  counters : ∀ (i : Nat) (p : Parameter) (counter : Location), entry.parameters[i]? = some p →
    p.count = true → args[i]? = some (.pointer (some counter)) →
      counter.slot < (memory.slots counter.region).length

/-- The argument that counts an array stands directly before it, at a parameter that counts. -/
theorem counter?_eq_some {index : Nat} {arg : CallArgument} :
    entry.counter? args index = some arg ↔ ∃ before p, index = before + 1 ∧
      entry.parameters[before]? = some p ∧ p.count = true ∧ args[before]? = some arg := by
  cases index with
  | zero => simp [counter?, countFor?]
  | succ before =>
    constructor
    · intro h
      cases hp : entry.parameters[before]? with
      | none => simp [counter?, countFor?, hp] at h
      | some p =>
        rw [counter?_succ hp] at h
        obtain ⟨hcount, harg⟩ := Option.ite_none_right_eq_some.1 h
        exact ⟨before, p, rfl, hp, hcount, harg⟩
    · rintro ⟨other, p, heq, hp, hcount, harg⟩
      obtain rfl := Nat.succ.inj heq
      rw [counter?_succ hp, if_pos hcount]
      exact harg

/-- An output array that is given is what its argument points to. -/
theorem pointee?_of_mem_outputs {index : Nat} {array : Location}
    (h : (index, some array) ∈ entry.outputs args) : pointee? args index = some array := by
  rw [pointee?, (mem_outputs_iff.1 h).1]
  rfl

/-- A pointer argument points to where it says. -/
theorem pointee?_of_pointer {position : Nat} {location : Location}
    (h : args[position]? = some (.pointer (some location))) :
    pointee? args position = some location := by
  rw [pointee?, h]
  rfl

/-- How many handles an array is said to hold depends on the region of its counter alone. -/
theorem outputSize_congr {m m' : Memory} {index : Nat}
    (h : ∀ counter, entry.counter? args index = some (.pointer (some counter)) →
      m.slots counter.region = m'.slots counter.region) :
    entry.outputSize args m index = entry.outputSize args m' index := by
  unfold outputSize
  split
  · rename_i counter hcounter
    rw [Memory.readCount_congr (h counter hcounter)]
  · rfl
  · rfl

/-- The output arrays stand in the order of their positions. -/
theorem outputs_pairwise (entry : EntryPoint) (args : List CallArgument) :
    (entry.outputs args).Pairwise fun first second => first.1 < second.1 := by
  have hpositions : ((args.zip entry.parameters).zipIdx).Pairwise
      fun first second => first.2 < second.2 := by
    rw [List.pairwise_iff_getElem]
    intro i j hi hj hlt
    rw [List.getElem_zipIdx, List.getElem_zipIdx]
    omega
  unfold outputs
  rw [List.pairwise_filterMap]
  refine hpositions.imp ?_
  rintro ⟨⟨arg, p⟩, i⟩ ⟨⟨other, q⟩, j⟩ hlt first hfirst second hsecond
  cases arg with
  | handles array =>
    cases other with
    | handles array' =>
      obtain ⟨-, hfirst⟩ := Option.ite_none_left_eq_some.1 hfirst
      obtain ⟨-, hsecond⟩ := Option.ite_none_left_eq_some.1 hsecond
      rw [← Option.some.inj hfirst, ← Option.some.inj hsecond]
      exact hlt
    | _ => cases hsecond
  | _ => cases hfirst

end EntryPoint

namespace NullDriver

variable {entry : EntryPoint} {args : List CallArgument}

/-- Answering an array can change a region: that of the array or that of its counter. -/
def Touches (entry : EntryPoint) (args : List CallArgument) (output : Nat × Option Location)
    (region : Region) : Prop :=
  (∃ array, output.2 = some array ∧ array.region = region) ∨
    ∃ counter, entry.counter? args output.1 = some (.pointer (some counter)) ∧
      counter.region = region

/-- The array that gets a handle by the answer to an output array. -/
def given? (entry : EntryPoint) (args : List CallArgument) (memory : Memory)
    (output : Nat × Option Location) : Option Location :=
  if entry.outputSize args memory output.1 = 0 then none else output.2

/-- The effect after a handle was given to an array, if there is one. -/
def Effect.giveTo (effect : Effect) : Option Location → Effect
  | none => effect
  | some array => effect.give array

/-- The effect after an argument was set to one, if it is a counter that can be written. -/
def Effect.mark (effect : Effect) : Option CallArgument → Effect
  | some (.pointer (some counter)) =>
    { effect with memory := effect.memory.writeCount counter 1 }
  | _ => effect

/-- An answer gives a handle to an array that is said to hold some, and then sets the counter. -/
theorem answer_eq (effect : Effect) (index : Nat) (array : Option Location) :
    answer entry args effect index array
      = (effect.giveTo (given? entry args effect.memory (index, array))).mark
          (entry.counter? args index) := by
  unfold answer given? EntryPoint.outputSize
  dsimp only
  cases entry.counter? args index with
  | none => cases array <;> rfl
  | some arg =>
    cases arg with
    | pointer address =>
      cases address with
      | none => rfl
      | some counter =>
        have hzero : (effect.memory.readCount counter).toNat = 0
            ↔ effect.memory.readCount counter = 0 := UInt32.toNat_inj (b := 0)
        cases array with
        | none => simp only [ite_self]; rfl
        | some array =>
          simp only [hzero]
          split <;> rfl
    | _ => rfl

/-- Marking a counter gives out no handle. -/
@[simp]
theorem Effect.lastHandle_mark (effect : Effect) (counter : Option CallArgument) :
    (effect.mark counter).lastHandle = effect.lastHandle := by
  unfold mark
  split <;> rfl

/-- Setting a counter leaves every other region alone. -/
theorem Effect.slots_mark {effect : Effect} {counter : Option CallArgument} {region : Region}
    (h : ∀ location, counter = some (.pointer (some location)) → region ≠ location.region) :
    (effect.mark counter).memory.slots region = effect.memory.slots region := by
  unfold mark
  split
  · rename_i location
    exact Memory.slots_writeCount_of_ne _ 1 (h location rfl)
  · rfl

/-- Giving a handle to an array leaves every other region alone. -/
theorem Effect.slots_giveTo {effect : Effect} {array : Option Location} {region : Region}
    (h : ∀ location, array = some location → region ≠ location.region) :
    (effect.giveTo array).memory.slots region = effect.memory.slots region := by
  cases array with
  | none => rfl
  | some location => exact Memory.slots_write_of_ne _ _ (h location rfl)

/-- Answering an array leaves everything else alone. -/
theorem slots_answer_of_not_touches {index : Nat} {array : Option Location} {region : Region}
    (h : ¬Touches entry args (index, array) region) (effect : Effect) :
    (answer entry args effect index array).memory.slots region = effect.memory.slots region := by
  rw [answer_eq, Effect.slots_mark, Effect.slots_giveTo]
  · intro location hgiven heq
    exact h (.inl ⟨location, (Option.ite_none_left_eq_some.1 hgiven).2, heq.symm⟩)
  · intro counter hcounter heq
    exact h (.inr ⟨counter, hcounter, heq.symm⟩)

/-- An answer takes a handle for the array that gets it. -/
theorem lastHandle_answer (effect : Effect) (index : Nat) (array : Option Location) :
    (answer entry args effect index array).lastHandle = effect.lastHandle +
      if (given? entry args effect.memory (index, array)).isSome then 1 else 0 := by
  rw [answer_eq, Effect.lastHandle_mark]
  cases given? entry args effect.memory (index, array) with
  | none => exact (UInt64.add_zero _).symm
  | some array => rfl

/-- Where an answer reaches is where an argument points: the array itself or the counter before it. -/
theorem Touches.pointee? {output : Nat × Option Location} {region : Region}
    (htouches : Touches entry args output region) (hmem : output ∈ entry.outputs args) :
    ∃ position location, EntryPoint.pointee? args position = some location ∧
      location.region = region ∧
        (position = output.1 ∧ args[position]? = some (.handles output.2) ∨
          position + 1 = output.1 ∧ args[position]? = some (.pointer (some location))) := by
  obtain ⟨index, array⟩ := output
  rcases htouches with ⟨a, rfl, hregion⟩ | ⟨counter, hcounter, hregion⟩
  · exact ⟨index, a, EntryPoint.pointee?_of_mem_outputs hmem, hregion,
      Or.inl ⟨rfl, (EntryPoint.mem_outputs_iff.1 hmem).1⟩⟩
  · obtain ⟨before, p, hindex, -, -, hgiven⟩ := EntryPoint.counter?_eq_some.1 hcounter
    exact ⟨before, counter, EntryPoint.pointee?_of_pointer hgiven, hregion,
      Or.inr ⟨hindex.symm, hgiven⟩⟩

/-- Where every pointer has a buffer of its own, at most one answer reaches a region. -/
theorem Touches.unique {memory : Memory} (hbuffered : entry.Buffered args memory)
    {output other : Nat × Option Location} {region : Region} (hmem : output ∈ entry.outputs args)
    (hother : other ∈ entry.outputs args) (htouches : Touches entry args output region)
    (htouches' : Touches entry args other region) : output.1 = other.1 := by
  obtain ⟨i, a, ha, hregion, hi⟩ := htouches.pointee? hmem
  obtain ⟨j, b, hb, hregion', hj⟩ := htouches'.pointee? hother
  obtain rfl := hbuffered.apart i j a b ha hb (hregion.trans hregion'.symm)
  rcases hi with ⟨hi, harray⟩ | ⟨hi, hcounter⟩ <;> rcases hj with ⟨hj, harray'⟩ | ⟨hj, hcounter'⟩
  · exact hi.symm.trans hj
  · rw [harray] at hcounter'
    cases hcounter'
  · rw [hcounter] at harray'
    cases harray'
  · exact hi.symm.trans hj

/-- The effect of answering several arrays. -/
def answerAll (entry : EntryPoint) (args : List CallArgument)
    (outputs : List (Nat × Option Location)) (effect : Effect) : Effect :=
  outputs.foldl (fun effect (index, array) => answer entry args effect index array) effect

/-- Answers leave alone what none of them reaches. -/
theorem slots_answerAll {outputs : List (Nat × Option Location)} {region : Region}
    (h : ∀ output ∈ outputs, ¬Touches entry args output region) (effect : Effect) :
    (answerAll entry args outputs effect).memory.slots region = effect.memory.slots region := by
  induction outputs generalizing effect with
  | nil => rfl
  | cons output rest ih =>
    have hrest := ih (fun other hmem => h other (List.mem_cons_of_mem output hmem))
      (answer entry args effect output.1 output.2)
    exact hrest.trans (slots_answer_of_not_touches (h output List.mem_cons_self) effect)

/-- Answers take at most one fresh handle each. -/
theorem lastHandle_answerAll (entry : EntryPoint) (args : List CallArgument)
    (outputs : List (Nat × Option Location)) (effect : Effect) :
    ∃ taken ≤ outputs.length, (answerAll entry args outputs effect).lastHandle
      = effect.lastHandle + UInt64.ofNat taken := by
  induction outputs generalizing effect with
  | nil => exact ⟨0, Nat.le_refl 0, (UInt64.add_zero _).symm⟩
  | cons output rest ih =>
    obtain ⟨taken, hle, htaken⟩ := ih (answer entry args effect output.1 output.2)
    rw [lastHandle_answer] at htaken
    split at htaken
    · refine ⟨taken + 1, Nat.succ_le_succ hle, htaken.trans ?_⟩
      rw [UInt64.ofNat_add, UInt64.add_comm (UInt64.ofNat taken), ← UInt64.add_assoc]
      rfl
    · exact ⟨taken, Nat.le_succ_of_le hle, htaken.trans (by rw [UInt64.add_zero])⟩

/-- **No answer disturbs another.**  What a call leaves in the regions of one output array is what the
answer to this array leaves there, from what was there at first. -/
theorem respond_at {effect : Effect} (hbuffered : entry.Buffered args effect.memory)
    {index : Nat} {array : Option Location} (hmem : (index, array) ∈ entry.outputs args) :
    ∃ before : Effect,
      (∃ taken < (entry.outputs args).length,
        before.lastHandle = effect.lastHandle + UInt64.ofNat taken) ∧
      ∀ region, Touches entry args (index, array) region →
        before.memory.slots region = effect.memory.slots region ∧
          (respond entry args effect).memory.slots region
            = (answer entry args before index array).memory.slots region := by
  obtain ⟨first, rest, hsplit⟩ := List.append_of_mem hmem
  have hpairwise := EntryPoint.outputs_pairwise entry args
  rw [hsplit, List.pairwise_append, List.pairwise_cons] at hpairwise
  obtain ⟨-, ⟨hrest, -⟩, hfirst⟩ := hpairwise
  obtain ⟨taken, hle, htaken⟩ := lastHandle_answerAll entry args first effect
  have hlength : taken < (entry.outputs args).length := by
    rw [hsplit, List.length_append, List.length_cons]
    omega
  refine ⟨answerAll entry args first effect, ⟨taken, hlength, htaken⟩, fun region htouches => ?_⟩
  have hothers : ∀ other ∈ entry.outputs args, other.1 ≠ index → ¬Touches entry args other region :=
    fun other hother hne htouches' => hne (htouches'.unique hbuffered hother hmem htouches)
  have hbefore := slots_answerAll (fun other hother =>
    hothers other (hsplit ▸ List.mem_append_left _ hother)
      (Nat.ne_of_lt (hfirst other hother (index, array) List.mem_cons_self))) effect
  refine ⟨hbefore, ?_⟩
  have hresponse : respond entry args effect = answerAll entry args rest
      (answer entry args (answerAll entry args first effect) index array) := by
    show answerAll entry args (entry.outputs args) effect = _
    rw [hsplit]
    exact List.foldl_append
  rw [hresponse]
  exact slots_answerAll (fun other hother =>
    hothers other (hsplit ▸ List.mem_append_right _ (List.mem_cons_of_mem _ hother))
      (Nat.ne_of_gt (hrest other hother))) _

/-- Array and counter are in buffers of their own. -/
theorem counter_apart {memory : Memory} (hbuffered : entry.Buffered args memory) {index : Nat}
    {array counter : Location} (hmem : (index, some array) ∈ entry.outputs args)
    (hcounter : entry.counter? args index = some (.pointer (some counter))) :
    array.region ≠ counter.region := by
  intro hregion
  obtain ⟨before, p, hindex, -, -, hgiven⟩ := EntryPoint.counter?_eq_some.1 hcounter
  have hsame := hbuffered.apart index before array counter (EntryPoint.pointee?_of_mem_outputs hmem)
    (EntryPoint.pointee?_of_pointer hgiven) hregion
  omega

/-- An answer gives a handle to an array that is said to hold some, and leaves any other as it was. -/
theorem slots_answer {index : Nat} {array : Location}
    (hapart : ∀ counter, entry.counter? args index = some (.pointer (some counter)) →
      array.region ≠ counter.region) (effect : Effect) :
    (answer entry args effect index (some array)).memory.slots array.region
      = if entry.outputSize args effect.memory index = 0 then effect.memory.slots array.region
        else (effect.give array).memory.slots array.region := by
  rw [answer_eq, Effect.slots_mark hapart]
  unfold given?
  split <;> rfl

/-- The array that gets a handle gets the next one. -/
theorem slots_answer_of_given {effect : Effect} {index : Nat} {output : Option Location}
    {array : Location} (hgiven : given? entry args effect.memory (index, output) = some array)
    (hapart : ∀ counter, entry.counter? args index = some (.pointer (some counter)) →
      array.region ≠ counter.region) :
    (answer entry args effect index output).memory.slots array.region
      = (effect.memory.slots array.region).set array.slot (effect.lastHandle + 1) := by
  rw [answer_eq, Effect.slots_mark hapart, hgiven]
  exact Memory.slots_write_self ..

/-- **What becomes of an output array.**  If it was said to hold nothing it stays as it was; otherwise
its first slot gets a fresh handle and the others stay. -/
theorem respond_array {effect : Effect} (hbuffered : entry.Buffered args effect.memory)
    {index n : Nat} {array : Location} (hmem : (index, some array) ∈ entry.outputs args)
    (hsized : EntryPoint.Sized entry args effect.memory index n) :
    (n = 0 → (respond entry args effect).memory.slots array.region
        = effect.memory.slots array.region) ∧
      (n ≠ 0 → ∃ taken < (entry.outputs args).length,
        (respond entry args effect).memory.slots array.region
          = (effect.memory.slots array.region).set array.slot
              (effect.lastHandle + UInt64.ofNat taken + 1)) := by
  obtain ⟨before, ⟨taken, hlt, htaken⟩, hregions⟩ := respond_at hbuffered hmem
  obtain ⟨hbefore, hafter⟩ := hregions array.region (Or.inl ⟨array, rfl, rfl⟩)
  have hsize : entry.outputSize args before.memory index = n :=
    (EntryPoint.outputSize_congr fun counter hcounter =>
      (hregions counter.region (Or.inr ⟨counter, hcounter, rfl⟩)).1).trans
      hsized.eq_outputSize.symm
  rw [hafter, slots_answer (fun counter => counter_apart hbuffered hmem), hsize]
  constructor
  · intro hnone
    rw [if_pos hnone]
    exact hbefore
  · intro hsome
    refine ⟨taken, hlt, ?_⟩
    rw [if_neg hsome, ← hbefore, ← htaken]
    exact Memory.slots_write_self ..

/-- The region of a counter that was given is as if only a one had been written there, whatever the
array. -/
theorem slots_respond_counter {effect : Effect} (hbuffered : entry.Buffered args effect.memory)
    {index : Nat} {array : Option Location} {counter : Location}
    (hmem : (index, array) ∈ entry.outputs args)
    (hcounter : entry.counter? args index = some (.pointer (some counter))) :
    (respond entry args effect).memory.slots counter.region
      = (effect.memory.writeCount counter 1).slots counter.region := by
  obtain ⟨before, -, hregions⟩ := respond_at hbuffered hmem
  obtain ⟨hbefore, hafter⟩ := hregions counter.region (Or.inr ⟨counter, hcounter, rfl⟩)
  rw [hafter, answer_eq, hcounter]
  refine Memory.slots_writeCount_congr 1 ((Effect.slots_giveTo fun a hgiven => ?_).trans hbefore)
  obtain ⟨-, rfl⟩ := Option.ite_none_left_eq_some.1 hgiven
  exact Ne.symm (counter_apart hbuffered hmem hcounter)

/-- **What becomes of a counter.**  One that was given says one, whatever the array. -/
theorem respond_counter {effect : Effect} (hbuffered : entry.Buffered args effect.memory)
    {index : Nat} {array : Option Location} {counter : Location}
    (hmem : (index, array) ∈ entry.outputs args)
    (hcounter : entry.counter? args index = some (.pointer (some counter))) :
    (respond entry args effect).memory.readCount counter = 1 := by
  obtain ⟨position, p, -, hp, hcount, hgiven⟩ := EntryPoint.counter?_eq_some.1 hcounter
  rw [Memory.readCount_congr (slots_respond_counter hbuffered hmem hcounter)]
  exact Memory.readCount_writeCount (hbuffered.counters position p counter hp hcount hgiven) 1

end NullDriver
end DriverLoader
