/-
# What an enumeration asks

An enumeration is a row of inquiries, calls of the drivers' functions on the counter that the loader
keeps.  Each of them finds the memory and the outside as the one before left them (`Chain`), and hands
out the handles that it counted into the array.  A `Journal` says that this is all that happened from
one frame to another: the functions invoked, the memory and the outside, and the handles adopted.
Journals compose (`Journal.trans`), so that of a driver's share (`share_shares`) and that of all
drivers are put together from that of a single question (`ask_journal`).

Nothing is assumed about what drivers answer.  An enumeration comes to a sum only if every inquiry
succeeded, and otherwise ends with the first that did not (`collect_journal`).
-/

import DriverLoader.Proofs.Enumeration.Filling

namespace DriverLoader
namespace Enumeration

variable {ω : Type}

/-- A call of a driver's function by an enumeration, together with what it finds. -/
structure Inquiry (ω : Type) where
  driver : Driver
  function : DriverFunction
  /-- What the loader's counter says when the function is called. -/
  capacity : UInt32
  /-- The array that the driver is to fill, if it is not only asked how many handles it has. -/
  array : Option Location
  memory : Memory
  host : Host ω

namespace Inquiry

/-- The question how many handles a driver has. -/
def query (driver : Driver) (function : DriverFunction) (memory : Memory) (host : Host ω) :
    Inquiry ω :=
  ⟨driver, function, 0, none, memory, host⟩

variable (env : Environment ω) (entry : EntryPoint) (call : Inquiry ω)

/-- The arguments of the call. -/
def args : List CallArgument :=
  [.pointer (some counter), .handles call.array]

/-- The driver's answer, and what it leaves behind. -/
def reply : Reply ω :=
  env.run call.function entry call.args
    (call.memory.store .counter [call.capacity.toUInt64]) call.host

/-- The number of handles that the driver reports. -/
def count : UInt32 :=
  (call.reply env entry).memory.readCount counter

/-- The call as it is noted in a trace. -/
def invocation : Invocation :=
  ⟨call.driver.id, entry.name, call.function, call.args, (call.reply env entry).result⟩

/-- The request to fill the array of an enumeration from behind a total, made of a driver that was
asked how many handles it has. -/
def fill (e : Enumeration) (array : Location) (total : UInt32) : Inquiry ω :=
  ⟨call.driver, call.function, min (call.count env e.entry) (e.requested - total),
    some (array.advance total.toNat), (call.reply env e.entry).memory,
    (call.reply env e.entry).host⟩

/-- The driver answers "success". -/
def Succeeds : Prop :=
  (call.reply env entry).result = .success

instance : Decidable (call.Succeeds env entry) :=
  inferInstanceAs (Decidable (_ = _))

/-- The handles that the driver put into the array, each with the driver. -/
def handed : List (Handle × Driver) :=
  match call.array with
  | none => []
  | some array =>
    if call.Succeeds env entry then
      ((call.reply env entry).memory.handlesAt array (call.count env entry).toNat).map
        (·, call.driver)
    else []

/-- The driver leaves a slot as it was. -/
def Spares (location : Location) : Prop :=
  ((call.reply env entry).memory.slots location.region)[location.slot]?
    = (call.memory.slots location.region)[location.slot]?

variable {env entry call}

/-- Whoever is only asked for a number hands out nothing. -/
theorem handed_of_query (h : call.array = none) : call.handed env entry = [] := by
  unfold handed
  rw [h]

/-- A call that fails hands nothing over. -/
theorem handed_of_not_succeeds (h : ¬call.Succeeds env entry) : call.handed env entry = [] := by
  unfold handed
  split
  · rfl
  · exact if_neg h

/-- A call that succeeds hands over what it says it wrote to its array. -/
theorem handed_of_succeeds {array : Location} (harray : call.array = some array)
    (h : call.Succeeds env entry) :
    call.handed env entry
      = ((call.reply env entry).memory.handlesAt array (call.count env entry).toNat).map
          (·, call.driver) := by
  unfold handed
  rw [harray]
  exact if_pos h

/-- What is handed out belongs to the driver that was called. -/
theorem snd_of_mem_handed {seen : Handle × Driver} (h : seen ∈ call.handed env entry) :
    seen.2 = call.driver := by
  unfold handed at h
  split at h
  · cases h
  · split at h
    · obtain ⟨_, -, rfl⟩ := List.mem_map.1 h
      rfl
    · cases h

end Inquiry

/-! ### One inquiry after the other -/

/-- Inquiries in a row lead from one memory and outside to another: each finds what the one before it
left. -/
inductive Chain (env : Environment ω) (entry : EntryPoint) :
    Memory → Host ω → List (Inquiry ω) → Memory → Host ω → Prop where
  | nil (memory : Memory) (host : Host ω) : Chain env entry memory host [] memory host
  | cons {call : Inquiry ω} {rest : List (Inquiry ω)} {memory : Memory} {host : Host ω}
      (later : Chain env entry (call.reply env entry).memory (call.reply env entry).host rest
        memory host) :
      Chain env entry call.memory call.host (call :: rest) memory host

namespace Chain

variable {env : Environment ω} {entry : EntryPoint} {memory memory' memory'' : Memory}
  {host host' host'' : Host ω} {calls more : List (Inquiry ω)}

/-- Chains of calls can be strung together. -/
theorem append (first : Chain env entry memory host calls memory' host')
    (second : Chain env entry memory' host' more memory'' host'') :
    Chain env entry memory host (calls ++ more) memory'' host'' := by
  induction first with
  | nil => exact second
  | cons _ ih => exact .cons (ih second)

/-- **A slot changes only where a driver changes it.** -/
theorem spares {location : Location} (h : Chain env entry memory host calls memory' host')
    (hspares : ∀ call ∈ calls, call.Spares env entry location) :
    (memory'.slots location.region)[location.slot]?
      = (memory.slots location.region)[location.slot]? := by
  induction h with
  | nil => rfl
  | cons _ ih =>
    refine (ih fun call hcall => hspares call (List.mem_cons_of_mem _ hcall)).trans ?_
    exact hspares _ List.mem_cons_self

end Chain

/-- All that happened from one frame to another is a row of inquiries. -/
structure Journal (env : Environment ω) (entry : EntryPoint) (calls : List (Inquiry ω))
    (s s' : Frame ω) : Prop where
  chain : Chain env entry s.memory s.host calls s'.memory s'.host
  invocations : s'.trace.invocations
    = s.trace.invocations ++ calls.map (·.invocation env entry)
  registry : s'.registry = s.registry.adoptEach (calls.flatMap (·.handed env entry))

namespace Journal

variable {env : Environment ω} {entry : EntryPoint} {calls more : List (Inquiry ω)}
  {s s' s'' : Frame ω}

theorem refl (env : Environment ω) (entry : EntryPoint) (s : Frame ω) :
    Journal env entry [] s s :=
  ⟨.nil _ _, (List.append_nil _).symm, rfl⟩

/-- Journals can be strung together. -/
theorem trans (first : Journal env entry calls s s') (second : Journal env entry more s' s'') :
    Journal env entry (calls ++ more) s s'' := by
  refine ⟨first.chain.append second.chain, ?_, ?_⟩
  · rw [second.invocations, first.invocations, List.map_append, List.append_assoc]
  · rw [second.registry, first.registry, List.flatMap_append, Registry.adoptEach_append]

end Journal

/-! ### A single question -/

section

variable (env : Environment ω) {e : Enumeration}

/-- A question is one inquiry.  What it hands out is still to be adopted. -/
theorem ask_journal (entry : EntryPoint) (driver : Driver) (function : DriverFunction)
    (capacity : UInt32) (array : Option Location) (s : Frame ω) {r : Registry} :
    let call : Inquiry ω := ⟨driver, function, capacity, array, s.memory, s.host⟩
    let answer := ask env entry driver function capacity array s
    r = s.registry.adoptEach (call.handed env entry) →
      Journal env entry [call] s { answer.2.2 with registry := r } := by
  intro call answer hregistry
  have hchain : Chain env entry call.memory call.host [call] answer.2.2.memory answer.2.2.host :=
    .cons (.nil _ _)
  refine ⟨hchain, Trace.invocations_cons .., ?_⟩
  rw [List.flatMap_singleton]
  exact hregistry

/-- The question how many handles a driver has hands out nothing. -/
theorem query_journal (entry : EntryPoint) (driver : Driver) (function : DriverFunction)
    (s : Frame ω) :
    Journal env entry [.query driver function s.memory s.host] s
      (ask env entry driver function 0 none s).2.2 := by
  refine ask_journal env entry driver function 0 none s (r := s.registry) ?_
  rw [Inquiry.handed_of_query rfl]
  rfl

/-- What a driver's share comes to.  The driver is asked how many handles it has; if it answers
"success" and there is an array, it is then asked to fill the free part of the array, and that gives the
answer. -/
inductive Shares (e : Enumeration) (driver : Driver) (function : DriverFunction) (total : UInt32)
    (s : Frame ω) : ResultCode × UInt32 × Frame ω → Prop where
  | counted {call : Inquiry ω} {s' : Frame ω} (query : call = .query driver function s.memory s.host)
      (only : e.array = none ∨ ¬call.Succeeds env e.entry) (journal : Journal env e.entry [call] s s') :
      Shares e driver function total s
        ((call.reply env e.entry).result, call.count env e.entry, s')
  | filled {call fill : Inquiry ω} {array : Location} {s' : Frame ω}
      (query : call = .query driver function s.memory s.host) (given : e.array = some array)
      (answered : call.Succeeds env e.entry) (request : fill = call.fill env e array total)
      (journal : Journal env e.entry [call, fill] s s') :
      Shares e driver function total s
        ((fill.reply env e.entry).result, fill.count env e.entry, s')

/-- The share of a driver comes from one inquiry that counts, and from a second that fills the array if
there is room; what it adds to the total is what the last of them reports. -/
theorem share_shares (driver : Driver) (function : DriverFunction) (total : UInt32) (s : Frame ω) :
    Shares env e driver function total s (share env e driver function total s) := by
  let query : Inquiry ω := .query driver function s.memory s.host
  let asked := (ask env e.entry driver function 0 none s).2.2
  have hquery : Journal env e.entry [query] s asked := query_journal env e.entry driver function s
  unfold share
  dsimp only
  split
  · rename_i hnone
    exact .counted rfl (.inl hnone) hquery
  · rename_i array hgiven
    split
    · rename_i hsuccess
      have hanswered : query.Succeeds env e.entry := of_decide_eq_true hsuccess
      let fill := query.fill env e array total
      let filled := (ask env e.entry driver function fill.capacity fill.array asked).2.2
      have hfill : ∀ r, r = asked.registry.adoptEach (fill.handed env e.entry) →
          Journal env e.entry [query, fill] s { filled with registry := r } := fun r hr =>
        hquery.trans (ask_journal env e.entry driver function fill.capacity fill.array asked hr)
      split
      · rename_i hsuccess'
        have hsucceeds : fill.Succeeds env e.entry := of_decide_eq_true hsuccess'
        refine .filled rfl hgiven hanswered rfl (hfill _ ?_)
        rw [Inquiry.handed_of_succeeds rfl hsucceeds, Registry.adoptEach_map]
        rfl
      · rename_i hfailure
        have hfails : ¬fill.Succeeds env e.entry := fun hsucceeds =>
          hfailure (decide_eq_true hsucceeds)
        refine .filled rfl hgiven hanswered rfl (hfill filled.registry ?_)
        rw [Inquiry.handed_of_not_succeeds hfails]
        rfl
    · rename_i hfailure
      exact .counted rfl (.inr fun hsucceeds => hfailure (decide_eq_true hsucceeds)) hquery

/-- **A driver's share is a row of inquiries of that driver**, of which the last gives the answer.
Those before it succeeded and were questions how many handles there are. -/
theorem share_journal (driver : Driver) (function : DriverFunction) (total : UInt32)
    (s : Frame ω) :
    let outcome := share env e driver function total s
    ∃ completed last,
      Journal env e.entry (completed ++ [last]) s outcome.2.2 ∧ last.driver = driver ∧
        (last.reply env e.entry).result = outcome.1 ∧
        ∀ call ∈ completed,
          call.driver = driver ∧ call.array = none ∧ call.Succeeds env e.entry := by
  intro outcome
  have hshares : Shares env e driver function total s outcome := share_shares env driver function total s
  generalize outcome = answer at hshares
  cases hshares with
  | @counted call s' query only journal =>
    exact ⟨[], call, journal, query ▸ rfl, rfl, List.forall_mem_nil _⟩
  | @filled call fill array s' query given answered request journal =>
    subst query request
    exact ⟨[_], _, journal, rfl, rfl, List.forall_mem_singleton.2 ⟨rfl, rfl, answered⟩⟩

end

end Enumeration
end DriverLoader
