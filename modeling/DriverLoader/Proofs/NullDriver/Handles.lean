/-
# The handles of null drivers

A call of a null driver writes to the arrays that it fills (`Fills`) and to the counters that it sets
(`Sets`), and nowhere else (`respond_responds`).  Both are said in terms of the arguments, of the
parameters and of what the counters said before the call.

Every array that is filled takes one handle, and the handles that calls take are the numbers that follow
the last one given out: in one call (`answerAll_follows`), whatever the arrays and counters, and so in
any number of calls of any number of drivers (`Visits.follows`).  As long as the numbers do not run out,
no handle is given out twice (`Visits.answered`).
-/

import DriverLoader.Proofs.NullDriver.Adoption
import Mathlib.Algebra.GroupWithZero.Nat

namespace DriverLoader
namespace NullDriver

/-! ### What a call writes -/

section

variable (entry : EntryPoint) (args : List CallArgument)

/-- A call fills the array at a position: the array is given and not only read, and either no counter
stands before it, or the counter is given and says more than zero. -/
inductive Fills (memory : Memory) : Nat → Location → Prop where
  | alone {position : Nat} {array : Location} {p : Parameter}
      (argument : args[position]? = some (.handles (some array)))
      (parameter : entry.parameters[position]? = some p) (output : p.input = false)
      (uncounted : ∀ before q, position = before + 1 → entry.parameters[before]? = some q →
        q.count = false) :
      Fills memory position array
  | counted {before : Nat} {array counter : Location} {p q : Parameter}
      (argument : args[before + 1]? = some (.handles (some array)))
      (parameter : entry.parameters[before + 1]? = some p) (output : p.input = false)
      (counts : entry.parameters[before]? = some q) (count : q.count = true)
      (given : args[before]? = some (.pointer (some counter)))
      (room : 0 < memory.readCount counter) :
      Fills memory (before + 1) array

/-- A call sets the counter at a position: it is given, and an array of handles follows, given or null,
that is not only read. -/
inductive Sets : Nat → Location → Prop where
  | intro {position : Nat} {counter : Location} {array : Option Location} {p q : Parameter}
      (counts : entry.parameters[position]? = some q) (count : q.count = true)
      (given : args[position]? = some (.pointer (some counter)))
      (follows : args[position + 1]? = some (.handles array))
      (parameter : entry.parameters[position + 1]? = some p) (output : p.input = false) :
      Sets position counter

/-- All that a call does to the memory. -/
structure Responds (before after : Memory) : Prop where
  /-- An array that is filled gets a handle in its first slot and is otherwise as it was. -/
  filled : ∀ position array, Fills entry args before position array →
    ∃ h, after.slots array.region = (before.writeHandle array h).slots array.region
  /-- A counter that is set says one.  The rest of its memory is as it was. -/
  set : ∀ position counter, Sets entry args position counter → after.readCount counter = 1 ∧
    after.slots counter.region = (before.writeCount counter 1).slots counter.region
  /-- What any other argument points to is as it was. -/
  spared : ∀ position location, EntryPoint.pointee? args position = some location →
    ¬Fills entry args before position location → ¬Sets entry args position location →
      after.slots location.region = before.slots location.region
  /-- What no argument points to is as it was. -/
  elsewhere : ∀ region, (∀ position location, EntryPoint.pointee? args position = some location →
    location.region ≠ region) → after.slots region = before.slots region

end

variable {entry : EntryPoint} {args : List CallArgument}

/-- The arrays that are filled are the output arrays that are said to hold some handles. -/
theorem fills_iff {memory : Memory} {position : Nat} {array : Location} :
    Fills entry args memory position array ↔
      (position, some array) ∈ entry.outputs args ∧ entry.outputSize args memory position ≠ 0 := by
  rw [EntryPoint.mem_outputs_iff]
  constructor
  · intro hfills
    cases hfills with
    | alone argument parameter output uncounted =>
      have hsized : EntryPoint.Sized entry args memory position 1 := .alone uncounted
      exact ⟨⟨argument, _, parameter, output⟩, hsized.eq_outputSize ▸ Nat.one_ne_zero⟩
    | counted argument parameter output counts count given room =>
      refine ⟨⟨argument, _, parameter, output⟩, ?_⟩
      rw [← (EntryPoint.Sized.counted counts count given).eq_outputSize]
      exact Nat.ne_of_gt (UInt32.lt_iff_toNat_lt.1 room)
  · rintro ⟨⟨argument, p, parameter, output⟩, hsize⟩
    have hsized : EntryPoint.Sized entry args memory position _ :=
      EntryPoint.sized_outputSize (List.getElem?_eq_some_iff.1 argument).1
    generalize entry.outputSize args memory position = n at hsize hsized
    cases hsized with
    | counted counts count given =>
      refine .counted argument parameter output counts count given ?_
      exact UInt32.lt_iff_toNat_lt.2 (Nat.pos_of_ne_zero hsize)
    | uncounted => exact absurd rfl hsize
    | alone uncounted => exact .alone argument parameter output uncounted

/-- The counters that are set are those that count an output array. -/
theorem sets_iff {position : Nat} {counter : Location} :
    Sets entry args position counter ↔ ∃ array, (position + 1, array) ∈ entry.outputs args ∧
      entry.counter? args (position + 1) = some (.pointer (some counter)) := by
  constructor
  · rintro ⟨counts, count, given, follows, parameter, output⟩
    exact ⟨_, EntryPoint.mem_outputs_iff.2 ⟨follows, _, parameter, output⟩,
      EntryPoint.counter?_eq_some.2 ⟨position, _, rfl, counts, count, given⟩⟩
  · rintro ⟨array, hmem, hcounter⟩
    obtain ⟨follows, p, parameter, output⟩ := EntryPoint.mem_outputs_iff.1 hmem
    obtain ⟨before, q, hposition, counts, count, given⟩ := EntryPoint.counter?_eq_some.1 hcounter
    obtain rfl := Nat.succ.inj hposition
    exact ⟨counts, count, given, follows, parameter, output⟩

/-- What an answer reaches of the regions that an argument points to: an array in the place of the
argument, or a counter that is set. -/
theorem Touches.array_or_sets {memory : Memory} (hbuffered : entry.Buffered args memory)
    {output : Nat × Option Location} {position : Nat} {location : Location}
    (htouches : Touches entry args output location.region) (hmem : output ∈ entry.outputs args)
    (hpointee : EntryPoint.pointee? args position = some location) :
    (position, some location) ∈ entry.outputs args ∨ Sets entry args position location := by
  obtain ⟨index, array⟩ := output
  rcases htouches with ⟨a, rfl, hsame⟩ | ⟨counter, hcounter, hsame⟩
  · have harray := EntryPoint.pointee?_of_mem_outputs hmem
    obtain rfl := hbuffered.apart index position a location harray hpointee hsame
    obtain rfl := Option.some.inj (harray.symm.trans hpointee)
    exact .inl hmem
  · obtain ⟨before, -, rfl, -, -, given⟩ := EntryPoint.counter?_eq_some.1 hcounter
    have hbefore := EntryPoint.pointee?_of_pointer given
    obtain rfl := hbuffered.apart before position counter location hbefore hpointee hsame
    obtain rfl := Option.some.inj (hbefore.symm.trans hpointee)
    exact .inr (sets_iff.2 ⟨array, hmem, hcounter⟩)

/-- **What a call of a null driver writes.**  An output array that is not filled is said to hold
nothing. -/
theorem respond_responds {effect : Effect} (hbuffered : entry.Buffered args effect.memory) :
    Responds entry args effect.memory (respond entry args effect).memory := by
  have hsized : ∀ {position array}, (position, some array) ∈ entry.outputs args →
      EntryPoint.Sized entry args effect.memory position _ := fun hmem =>
    EntryPoint.sized_outputSize (List.getElem?_eq_some_iff.1 (EntryPoint.mem_outputs_iff.1 hmem).1).1
  refine ⟨fun position array hfills => ?_, fun position counter hsets => ?_,
    fun position location hpointee hfills hsets => ?_, fun region hregion => ?_⟩
  · obtain ⟨hmem, hsize⟩ := fills_iff.1 hfills
    obtain ⟨taken, -, hwritten⟩ := (respond_array hbuffered hmem (hsized hmem)).2 hsize
    refine ⟨⟨effect.lastHandle + UInt64.ofNat taken + 1⟩, ?_⟩
    rw [Memory.writeHandle, Memory.slots_write_self]
    exact hwritten
  · obtain ⟨array, hmem, hcounter⟩ := sets_iff.1 hsets
    exact ⟨respond_counter hbuffered hmem hcounter, slots_respond_counter hbuffered hmem hcounter⟩
  · by_cases harray : (position, some location) ∈ entry.outputs args
    · have hsize : entry.outputSize args effect.memory position = 0 :=
        Decidable.not_not.1 fun hsize => hfills (fills_iff.2 ⟨harray, hsize⟩)
      exact (respond_array hbuffered harray (hsized harray)).1 hsize
    · exact slots_answerAll (fun output hmem htouches =>
        (htouches.array_or_sets hbuffered hmem hpointee).elim harray hsets) effect
  · refine slots_answerAll (fun output hmem htouches => ?_) effect
    obtain ⟨position, location, hpointee, hsame, -⟩ := htouches.pointee? hmem
    exact hregion position location hpointee hsame

/-! ### The handles that a call takes -/

/-- The numbers that follow a number. -/
def following : UInt64 → Nat → List UInt64
  | _, 0 => []
  | last, n + 1 => (last + 1) :: following (last + 1) n

/-- Handles that follow the last one in two goes follow it in one. -/
theorem following_append (last : UInt64) (m n : Nat) :
    following last (m + n) = following last m ++ following (last + UInt64.ofNat m) n := by
  induction m generalizing last with
  | zero =>
    show following last (0 + n) = following (last + 0) n
    rw [Nat.zero_add, UInt64.add_zero]
  | succ m ih =>
    rw [Nat.succ_add, following, following, ih, List.cons_append, UInt64.ofNat_add,
      UInt64.add_comm (UInt64.ofNat m), ← UInt64.add_assoc]
    rfl

/-- As long as the numbers do not run out they ascend. -/
theorem following_ascending {last : UInt64} {n : Nat} (h : last.toNat + n < 2 ^ 64) :
    (last :: following last n).Pairwise (· < ·) := by
  induction n generalizing last with
  | zero => exact List.pairwise_singleton ..
  | succ n ih =>
    have hnext : (last + 1).toNat = last.toNat + 1 := by
      rw [UInt64.toNat_add]
      exact Nat.mod_eq_of_lt (by show last.toNat + 1 < 2 ^ 64; omega)
    have hrest : ((last + 1) :: following (last + 1) n).Pairwise (· < ·) := ih (by omega)
    have hlt : last < last + 1 := UInt64.lt_iff_toNat_lt.2 (by omega)
    refine List.pairwise_cons.2 ⟨?_, hrest⟩
    refine List.forall_mem_cons.2 ⟨hlt, fun value hvalue => ?_⟩
    exact UInt64.lt_trans hlt (List.rel_of_pairwise_cons hrest hvalue)

/-- The arrays that a call fills, in the order of their positions. -/
def filled (entry : EntryPoint) (args : List CallArgument) (memory : Memory) : List Location :=
  (entry.outputs args).filterMap (given? entry args memory)

/-- The arrays that are filled are those at the positions of output arrays. -/
theorem mem_filled_iff {memory : Memory} {array : Location} :
    array ∈ filled entry args memory ↔ ∃ position, Fills entry args memory position array := by
  unfold filled
  rw [List.mem_filterMap]
  constructor
  · rintro ⟨⟨position, output⟩, hmem, hgiven⟩
    obtain ⟨hsize, rfl⟩ := Option.ite_none_left_eq_some.1 hgiven
    exact ⟨position, fills_iff.2 ⟨hmem, hsize⟩⟩
  · rintro ⟨position, hfills⟩
    obtain ⟨hmem, hsize⟩ := fills_iff.1 hfills
    exact ⟨(position, some array), hmem, if_neg hsize⟩

/-- What an answer reaches no later answer reaches. -/
theorem Touches.not_later {memory : Memory} (hbuffered : entry.Buffered args memory)
    {output other : Nat × Option Location} {rest : List (Nat × Option Location)} {region : Region}
    (houtputs : (output :: rest).Sublist (entry.outputs args)) (hother : other ∈ rest)
    (htouches : Touches entry args output region) : ¬Touches entry args other region := by
  intro htouches'
  have hlt : output.1 < other.1 :=
    List.rel_of_pairwise_cons ((EntryPoint.outputs_pairwise entry args).sublist houtputs) hother
  exact Nat.ne_of_lt hlt (htouches.unique hbuffered (houtputs.subset List.mem_cons_self)
    (houtputs.subset (List.mem_cons_of_mem _ hother)) htouches')

/-- Which array gets a handle depends on what the answer reaches alone. -/
theorem given?_congr {memory memory' : Memory} {output : Nat × Option Location}
    (h : ∀ region, Touches entry args output region → memory.slots region = memory'.slots region) :
    given? entry args memory output = given? entry args memory' output := by
  unfold given?
  rw [EntryPoint.outputSize_congr fun counter hcounter =>
    h counter.region (.inr ⟨counter, hcounter, rfl⟩)]

/-- In a row of answers of which none disturbs another, each array that gets a handle gets the next one,
as far as there is memory behind it; a handle for which there is none is taken, but not found
afterwards.  What the later answers reach, the first one leaves alone. -/
theorem answerAll_follows {memory : Memory} {outputs : List (Nat × Option Location)} {effect : Effect}
    (hbuffered : entry.Buffered args memory) (houtputs : outputs.Sublist (entry.outputs args))
    (hmemory : ∀ output ∈ outputs, ∀ region, Touches entry args output region →
      effect.memory.slots region = memory.slots region) :
    let after := answerAll entry args outputs effect
    let arrays := outputs.filterMap (given? entry args memory)
    after.lastHandle = effect.lastHandle + UInt64.ofNat arrays.length ∧
      (arrays.filterMap fun array => (after.memory.slots array.region)[array.slot]?).Sublist
        (following effect.lastHandle arrays.length) := by
  induction outputs generalizing effect with
  | nil => exact ⟨(UInt64.add_zero _).symm, List.Sublist.refl _⟩
  | cons output rest ih =>
    have hgiven : given? entry args effect.memory output = given? entry args memory output :=
      given?_congr (hmemory output List.mem_cons_self)
    let next := answer entry args effect output.1 output.2
    have hlast : next.lastHandle = effect.lastHandle + _ := lastHandle_answer effect output.1 output.2
    rw [hgiven] at hlast
    obtain ⟨hafter, hsublist⟩ := @ih next ((List.sublist_cons_self output rest).trans houtputs)
      fun other hother region htouches =>
        (slots_answer_of_not_touches
          (fun htouches' => htouches'.not_later hbuffered houtputs hother htouches) effect).trans
            (hmemory other (List.mem_cons_of_mem _ hother) region htouches)
    intro after arrays
    cases harray : given? entry args memory output with
    | none =>
      have harrays : arrays = rest.filterMap (given? entry args memory) :=
        List.filterMap_cons_none harray
      have hsame : next.lastHandle = effect.lastHandle := by
        rw [hlast, harray]
        exact UInt64.add_zero _
      rw [harrays, ← hsame]
      exact ⟨hafter, hsublist⟩
    | some array =>
      have harrays : arrays = array :: rest.filterMap (given? entry args memory) :=
        List.filterMap_cons_some harray
      have hnext : next.lastHandle = effect.lastHandle + 1 := by
        rw [hlast, harray]
        rfl
      obtain ⟨-, hplace⟩ := Option.ite_none_left_eq_some.1 harray
      have htouches : Touches entry args output array.region := .inl ⟨array, hplace, rfl⟩
      have hwritten : after.memory.slots array.region
          = (effect.memory.slots array.region).set array.slot (effect.lastHandle + 1) :=
        (slots_answerAll (fun other hother => htouches.not_later hbuffered houtputs hother) next).trans
          (slots_answer_of_given (hgiven.trans harray) fun counter =>
            counter_apart hbuffered (hplace ▸ houtputs.subset List.mem_cons_self))
      rw [hnext] at hafter hsublist
      rw [harrays, List.length_cons]
      refine ⟨?_, ?_⟩
      · rw [Nat.add_comm, UInt64.ofNat_add, ← UInt64.add_assoc]
        exact hafter
      · rw [List.filterMap_cons, hwritten, following]
        by_cases hbacked : array.slot < (effect.memory.slots array.region).length
        · rw [List.getElem?_set_self hbacked]
          exact hsublist.cons_cons _
        · rw [List.getElem?_eq_none (by rw [List.length_set]; exact Nat.le_of_not_lt hbacked)]
          exact hsublist.cons _

/-- **The handles of a call are the numbers that follow the last one.**  There are as many as arrays
that are filled, and in these arrays they stand in order. -/
theorem respond_follows {effect : Effect} (hbuffered : entry.Buffered args effect.memory) :
    let after := respond entry args effect
    let arrays := filled entry args effect.memory
    after.lastHandle = effect.lastHandle + UInt64.ofNat arrays.length ∧
      (arrays.filterMap fun array => (after.memory.slots array.region)[array.slot]?).Sublist
        (following effect.lastHandle arrays.length) :=
  answerAll_follows hbuffered (List.Sublist.refl _) fun _ _ _ _ => rfl

/-! ### Any number of calls -/

/-- A call of a function, and what it finds. -/
structure Visit (ω : Type) where
  function : DriverFunction
  entry : EntryPoint
  args : List CallArgument
  memory : Memory
  host : Host ω

namespace Visit

variable {ω : Type} (env : Environment ω) (visit : Visit ω)

/-- The answer, and what the call leaves behind. -/
def reply : Reply ω :=
  env.run visit.function visit.entry visit.args visit.memory visit.host

/-- The arrays that the call fills. -/
def arrays : List Location :=
  filled visit.entry visit.args visit.memory

/-- The handles that stand in the first slots of these arrays after the call. -/
def handles : List Handle :=
  (visit.arrays.filterMap fun array =>
    ((visit.reply env).memory.slots array.region)[array.slot]?).map Handle.mk

end Visit

variable {ω : Type} {env : Environment ω} {last : UInt64} {visits : List (Visit ω)}

/-- Functions of null drivers are called one after the other, each with buffers of their own behind the
pointers.  Between two calls everything may change but the last handle given out. -/
inductive Visits (env : Environment ω) : UInt64 → List (Visit ω) → Prop where
  | nil (last : UInt64) : Visits env last []
  | cons {visit : Visit ω} {rest : List (Visit ω)} {newest : Version} {last : UInt64}
      (null : visit.function.module = .null newest)
      (buffered : visit.entry.Buffered visit.args visit.memory)
      (found : visit.host.lastHandle = last)
      (later : Visits env (visit.reply env).host.lastHandle rest) :
      Visits env last (visit :: rest)

/-- **One call of a null driver's function.**  It succeeds, and does what it is to do. -/
theorem Visit.responds (env : Environment ω) {visit : Visit ω} {newest : Version}
    (hnull : visit.function.module = .null newest)
    (hbuffered : visit.entry.Buffered visit.args visit.memory) :
    let reply := visit.reply env
    reply.result = .success ∧
      Responds visit.entry visit.args visit.memory reply.memory ∧
        reply.host.lastHandle = visit.host.lastHandle + UInt64.ofNat visit.arrays.length ∧
          ((visit.handles env).map (·.value)).Sublist
            (following visit.host.lastHandle visit.arrays.length) := by
  let effect : Effect := ⟨visit.memory, visit.host.lastHandle⟩
  have hown : visit.entry.Buffered visit.args effect.memory := hbuffered
  obtain ⟨hlast, hhandles⟩ := respond_follows hown
  have hreply : visit.reply env = invoke visit.entry visit.args visit.memory visit.host := by
    unfold reply Environment.run
    rw [hnull]
  have hvalues : (visit.handles env).map (·.value) = visit.arrays.filterMap fun array =>
      ((visit.reply env).memory.slots array.region)[array.slot]? := by
    unfold handles
    rw [List.map_map]
    exact List.map_id _
  intro reply
  rw [hvalues]
  subst reply
  rw [hreply]
  exact ⟨rfl, respond_responds hown, hlast, hhandles⟩

/-- The handles of all calls follow the last one that was given out before. -/
theorem Visits.follows (h : Visits env last visits) :
    ((visits.flatMap (·.handles env)).map (·.value)).Sublist
      (following last (visits.map (·.arrays.length)).sum) := by
  induction h with
  | nil => exact List.Sublist.refl _
  | cons null buffered found later ih =>
    obtain ⟨-, -, hlast, hhandles⟩ := Visit.responds env null buffered
    rw [hlast, found] at ih
    rw [found] at hhandles
    rw [List.flatMap_cons, List.map_append, List.map_cons, List.sum_cons, following_append]
    exact hhandles.append ih

/-- **Null drivers.**  Let functions of null drivers be called, for any entry points, with any
arguments and in any memory in which every pointer has a buffer of its own.

* Every call succeeds.  It puts a handle into the first slot of each array that it fills, sets the
  counters that it is to set, and leaves all else as it was, arrays that are only read included.  It
  takes one handle for each array that it fills.
* If the drivers begin at `handleBase`, or later, and the numbers do not run out, then no handle of all
  calls is null, all are greater than `handleBase`, and no two are the same. -/
theorem Visits.answered (hvisits : Visits env last visits) :
    (∀ visit ∈ visits, (visit.reply env).result = .success ∧
        Responds visit.entry visit.args visit.memory (visit.reply env).memory ∧
        (∀ array, array ∈ visit.arrays ↔
          ∃ position, Fills visit.entry visit.args visit.memory position array) ∧
        (visit.reply env).host.lastHandle
          = visit.host.lastHandle + UInt64.ofNat visit.arrays.length) ∧
      (handleBase ≤ last → last.toNat + (visits.map (·.arrays.length)).sum < 2 ^ 64 →
        (visits.flatMap (·.handles env)).Nodup ∧
          ∀ h ∈ visits.flatMap (·.handles env), h ≠ Handle.null ∧ handleBase < h.value) := by
  refine ⟨?_, fun hbase hroom => ?_⟩
  · induction hvisits with
    | nil => exact List.forall_mem_nil _
    | cons null buffered found later ih =>
      obtain ⟨hsuccess, hresponds, hlast, -⟩ := Visit.responds env null buffered
      exact List.forall_mem_cons.2 ⟨⟨hsuccess, hresponds, fun _ => mem_filled_iff, hlast⟩, ih⟩
  · obtain ⟨hgreater, hascending⟩ := List.pairwise_cons.1 (following_ascending hroom)
    have hvalues := (hascending.sublist hvisits.follows).imp UInt64.ne_of_lt
    refine ⟨List.Pairwise.of_map (·.value) (fun _ _ hne heq => hne (congrArg _ heq)) hvalues,
      fun h hmem => ?_⟩
    have hbehind : handleBase < h.value := UInt64.lt_of_le_of_lt hbase
      (hgreater h.value (hvisits.follows.subset (List.mem_map_of_mem hmem)))
    exact ⟨fun hnull => absurd (hnull ▸ hbehind) (by decide), hbehind⟩

namespace Sample

/-- A listing of devices by a null driver, in a memory with a counter and one slot. -/
def listing (newest : Version) (count slot last : UInt64) : Visit Unit where
  function := ⟨.null newest, "zeDeviceGet"⟩
  entry := Dispatch.Sample.call.entry
  args := Dispatch.Sample.call.args
  memory := Dispatch.Sample.memory count slot
  host := ⟨last, ()⟩

/-- Two null drivers are asked for devices.  The second is first asked for none, with a handle left over
in the array. -/
def listings : List (Visit Unit) :=
  [listing (.ofParts 1 0) 5 0 handleBase, listing .current 0 0x7777 0x80800001,
    listing .current 1 0x7777 0x80800001]

end Sample

/-- Only two of the three listings take a handle, and these are different. -/
theorem Visits.answered_listings :
    (∀ visit ∈ Sample.listings, (visit.reply Dispatch.Sample.environment).result = .success) ∧
      (Sample.listings.flatMap (·.handles Dispatch.Sample.environment)).Nodup ∧
        Sample.listings.flatMap (·.handles Dispatch.Sample.environment)
          = [⟨0x80800001⟩, ⟨0x80800002⟩] := by
  have hvisits : Visits Dispatch.Sample.environment handleBase Sample.listings :=
    .cons rfl (sample_buffered 5 0) rfl (.cons rfl (sample_buffered 0 0x7777) (by decide +kernel)
      (.cons rfl (sample_buffered 1 0x7777) (by decide +kernel) (.nil _)))
  obtain ⟨hcalls, hhandles⟩ := Visits.answered hvisits
  refine ⟨fun visit hvisit => (hcalls visit hvisit).1, ?_, by decide +kernel⟩
  exact (hhandles (UInt64.le_refl _) (by decide +kernel)).1

end NullDriver
end DriverLoader
