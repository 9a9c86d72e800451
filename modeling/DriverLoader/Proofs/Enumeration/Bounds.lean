/-
# The bounds of an enumeration

An enumeration into an array takes its turns, one for each driver.  At a turn there is a total of the
handles so far, and a driver may be asked to fill the array from behind that total (`Turn.Requests`).
Nothing is assumed of the answers: the number that a driver reports first need not be what it delivers
afterwards, and either may be different the next time.  The one thing that a driver must not do is to
raise the counter that it is given, above the room there is.

Then the total is at most what the caller asked for at every turn, so that the room left is never
negative and every request stays within the slots that the caller gave (`Turn.Bounded`).  One turn keeps
this (`Turn.Bounded.proceeds`), and so does every number of turns (`Reaches.bounded`).  As all that an
enumeration does is done at its turns (`collect_turns`), it holds of every call and of the count in the
end (`Session.driverGet_bounded`).
-/

import DriverLoader.Proofs.Enumeration.Failing
import Mathlib.Data.UInt
import Mathlib.Logic.Relation

namespace DriverLoader
namespace Enumeration

variable {ω : Type}

/-- The state of an enumeration when the turn of the next driver comes. -/
structure Turn (ω : Type) where
  /-- The drivers whose turns are still to come. -/
  drivers : List Driver
  /-- The number of handles so far. -/
  total : UInt32
  frame : Frame ω

section

variable (env : Environment ω) (e : Enumeration)

/-- One turn leads to the next: the driver has no function and is passed over, or its share is added
to the total. -/
inductive Proceeds : Turn ω → Turn ω → Prop where
  | skipped {driver : Driver} {rest : List Driver} {total : UInt32} {s : Frame ω}
      (unfinished : ¬(0 < e.requested && total = e.requested))
      (slot : (driver.table e.entry.category).function? e.entry.group e.entry.name = none) :
      Proceeds ⟨driver :: rest, total, s⟩ ⟨rest, total, s⟩
  | shared {driver : Driver} {rest : List Driver} {function : DriverFunction} {total count : UInt32}
      {s s' : Frame ω} (unfinished : ¬(0 < e.requested && total = e.requested))
      (slot : (driver.table e.entry.category).function? e.entry.group e.entry.name = some function)
      (share : share env e driver function total s = (.success, count, s')) :
      Proceeds ⟨driver :: rest, total, s⟩ ⟨rest, total + count, s'⟩

/-- A turn comes some turns after another one. -/
def Reaches : Turn ω → Turn ω → Prop :=
  Relation.ReflTransGen (Proceeds env e)

/-- At a turn this request to fill the array is made: the enumeration is not at its end, the driver
has a function, and has answered how many handles it has. -/
inductive Turn.Requests : Turn ω → Inquiry ω → Prop where
  | fill {driver : Driver} {rest : List Driver} {function : DriverFunction} {total : UInt32}
      {s : Frame ω} {array : Location} (unfinished : ¬(0 < e.requested && total = e.requested))
      (slot : (driver.table e.entry.category).function? e.entry.group e.entry.name = some function)
      (given : e.array = some array)
      (answered : (Inquiry.query driver function s.memory s.host).Succeeds env e.entry) :
      Turn.Requests ⟨driver :: rest, total, s⟩
        ((Inquiry.query driver function s.memory s.host).fill env e array total)

/-- No driver raises the counter when it is asked to fill the array, from this turn on. -/
def Restrained (start : Turn ω) : Prop :=
  ∀ turn call, Reaches env e start turn → turn.Requests env e call → call.Succeeds env e.entry →
    call.count env e.entry ≤ call.capacity

/-- What happens at a turn stays within the slots of an array that the caller gave. -/
structure Turn.Bounded (array : Location) (turn : Turn ω) : Prop where
  /-- There are no more handles than were asked for. -/
  total_le : turn.total ≤ e.requested
  /-- The room that is left is computed without an overflow. -/
  room : (e.requested - turn.total).toNat = e.requested.toNat - turn.total.toNat
  /-- A driver is asked to fill the array from behind the handles so far, and only as far as the caller
  has room. -/
  request : ∀ call, turn.Requests env e call →
    call.array = some (array.advance turn.total.toNat) ∧
      turn.total.toNat + call.capacity.toNat ≤ e.requested.toNat
  /-- The slots that are read back are slots that the caller gave, and the next total is computed
  without an overflow. -/
  read : ∀ call, turn.Requests env e call → call.Succeeds env e.entry →
    turn.total.toNat + (call.count env e.entry).toNat ≤ e.requested.toNat ∧
      (turn.total + call.count env e.entry).toNat
        = turn.total.toNat + (call.count env e.entry).toNat

end

/-! ### One turn -/

section

variable {env : Environment ω} {e : Enumeration} {array : Location} {start turn next : Turn ω}

/-- A total that is small enough is all it takes, since the capacity of a request is the room left, or
less. -/
theorem Turn.bounded_of_le (hgiven : e.array = some array)
    (hrestrained : ∀ call, turn.Requests env e call → call.Succeeds env e.entry →
      call.count env e.entry ≤ call.capacity)
    (htotal : turn.total ≤ e.requested) : turn.Bounded env e array := by
  have hroom := UInt32.toNat_sub_of_le _ _ htotal
  have hle := UInt32.le_iff_toNat_le.1 htotal
  have hrequest : ∀ call, turn.Requests env e call →
      call.array = some (array.advance turn.total.toNat) ∧
        turn.total.toNat + call.capacity.toNat ≤ e.requested.toNat := by
    intro call hrequests
    cases hrequests with
    | fill unfinished slot given answered =>
      obtain rfl := Option.some.inj (given.symm.trans hgiven)
      refine ⟨rfl, ?_⟩
      show _ + (min _ (e.requested - _)).toNat ≤ _
      rw [UInt32.toNat_min, hroom]
      dsimp only at hle ⊢
      omega
  refine ⟨htotal, hroom, hrequest, fun call hrequests hsucceeds => ?_⟩
  have hcount := UInt32.le_iff_toNat_le.1 (hrestrained call hrequests hsucceeds)
  have hcapacity := (hrequest call hrequests).2
  have hword := e.requested.toNat_lt
  refine ⟨by omega, ?_⟩
  rw [UInt32.toNat_add]
  omega

/-- **One turn keeps the total within what was asked for.**  A share that succeeds is what the driver
reports of the array that it filled. -/
theorem Turn.Bounded.proceeds (hbounded : turn.Bounded env e array) (hgiven : e.array = some array)
    (hproceeds : Proceeds env e turn next) : next.total ≤ e.requested := by
  cases hproceeds with
  | skipped unfinished slot => exact hbounded.total_le
  | @shared driver rest function total count s s' unfinished slot hshare =>
    have hshares := share_shares env (e := e) driver function total s
    rw [hshare] at hshares
    obtain ⟨call, hrequests, hsucceeds, rfl⟩ : ∃ call,
        Turn.Requests env e ⟨driver :: rest, total, s⟩ call ∧ call.Succeeds env e.entry ∧
          call.count env e.entry = count := by
      generalize houtcome : (ResultCode.success, count, s') = outcome at hshares
      cases hshares with
      | counted query only journal =>
        obtain ⟨hresult, -⟩ := Prod.mk.inj houtcome
        exact absurd hresult.symm (only.resolve_left (by rw [hgiven]; nofun))
      | filled query given answered request journal =>
        subst query request
        obtain ⟨hresult, hrest⟩ := Prod.mk.inj houtcome
        exact ⟨_, .fill unfinished slot given answered, hresult.symm, (Prod.mk.inj hrest).1.symm⟩
    obtain ⟨hwithin, hsum⟩ := hbounded.read call hrequests hsucceeds
    rw [UInt32.le_iff_toNat_le]
    exact Nat.le_trans (Nat.le_of_eq hsum) hwithin

/-! ### All turns -/

/-- **All turns stay within the array.** -/
theorem Reaches.bounded (hreaches : Reaches env e start turn) (hgiven : e.array = some array)
    (hrestrained : Restrained env e start) (hstart : start.total ≤ e.requested) :
    turn.Bounded env e array := by
  have hbounded : ∀ turn, Reaches env e start turn → turn.total ≤ e.requested →
      turn.Bounded env e array := fun turn hturn =>
    Turn.bounded_of_le hgiven fun call => hrestrained turn call hturn
  induction hreaches with
  | refl => exact hbounded start .refl hstart
  | tail hbefore hproceeds ih => exact hbounded _ (hbefore.tail hproceeds) (ih.proceeds hgiven hproceeds)

/-- No drivers come to their turns but those that there were at the start. -/
theorem Reaches.drivers_subset (hreaches : Reaches env e start turn) : turn.drivers ⊆ start.drivers := by
  induction hreaches with
  | refl => exact List.Subset.refl _
  | tail hbefore hproceeds ih =>
    cases hproceeds with
    | skipped => exact fun other hother => ih (List.mem_cons_of_mem _ hother)
    | shared => exact fun other hother => ih (List.mem_cons_of_mem _ hother)

/-- It is enough that the drivers have functions that never raise the counter. -/
theorem restrained_of_functions
    (hfunctions : ∀ driver ∈ start.drivers, ∀ function,
      (driver.table e.entry.category).function? e.entry.group e.entry.name = some function →
        ∀ capacity array memory host, Inquiry.count env e.entry
          ⟨driver, function, capacity, some array, memory, host⟩ ≤ capacity) :
    Restrained env e start := by
  intro turn call hreaches hrequests _
  cases hrequests with
  | fill unfinished slot given answered =>
    exact hfunctions _ (hreaches.drivers_subset List.mem_cons_self) _ slot _ _ _ _

/-- The calls of an enumeration from a turn on: questions how many handles a driver has, and the
requests of the turns. -/
def OfTurns (env : Environment ω) (e : Enumeration) (start : Turn ω) (calls : List (Inquiry ω)) : Prop :=
  ∀ call ∈ calls, (call.array = none ∧ call.capacity = 0) ∨
    ∃ turn, Reaches env e start turn ∧ turn.Requests env e call

/-- The calls from the next turn on are calls from this turn on. -/
theorem OfTurns.head {calls : List (Inquiry ω)} (hproceeds : Proceeds env e turn next)
    (hcalls : OfTurns env e next calls) : OfTurns env e turn calls := fun call hcall =>
  (hcalls call hcall).imp_right fun ⟨later, hlater, hrequests⟩ =>
    ⟨later, .head hproceeds hlater, hrequests⟩

/-- The calls of a driver's share are its question and its request. -/
theorem share_ofTurns (rest : List Driver) {driver : Driver} {function : DriverFunction}
    {total : UInt32} {s : Frame ω} (hunfinished : ¬(0 < e.requested && total = e.requested))
    (hslot : (driver.table e.entry.category).function? e.entry.group e.entry.name = some function) :
    ∃ calls, Journal env e.entry calls s (share env e driver function total s).2.2 ∧
      OfTurns env e ⟨driver :: rest, total, s⟩ calls := by
  have hshares := share_shares env (e := e) driver function total s
  generalize share env e driver function total s = outcome at hshares ⊢
  cases hshares with
  | counted query only journal =>
    exact ⟨_, journal, List.forall_mem_singleton.2 (.inl ⟨query ▸ rfl, query ▸ rfl⟩)⟩
  | filled query given answered request journal =>
    subst query request
    refine ⟨_, journal, List.forall_mem_cons.2 ⟨.inl ⟨rfl, rfl⟩, ?_⟩⟩
    exact List.forall_mem_singleton.2 (.inr ⟨_, .refl, .fill hunfinished hslot given answered⟩)

/-- **All that an enumeration does it does at its turns**, and if it comes to a sum, this is the total
at the last of them. -/
theorem collect_turns (env : Environment ω) (e : Enumeration) (drivers : List Driver) (total : UInt32)
    (s : Frame ω) :
    let outcome := collect env e drivers total s
    (∃ calls, Journal env e.entry calls s outcome.2 ∧ OfTurns env e ⟨drivers, total, s⟩ calls) ∧
      ∀ sum, outcome.1 = .ok sum → ∃ rest, Reaches env e ⟨drivers, total, s⟩ ⟨rest, sum, outcome.2⟩ := by
  induction drivers generalizing total s with
  | nil =>
    refine ⟨⟨[], .refl env e.entry s, List.forall_mem_nil _⟩, fun sum hsum => ?_⟩
    cases hsum
    exact ⟨[], .refl⟩
  | cons driver rest ih =>
    unfold collect
    split
    · refine ⟨⟨[], .refl env e.entry s, List.forall_mem_nil _⟩, fun sum hsum => ?_⟩
      cases hsum
      exact ⟨driver :: rest, .refl⟩
    · rename_i hunfinished
      split
      · rename_i hslot
        have hproceeds : Proceeds env e ⟨driver :: rest, total, s⟩ ⟨rest, total, s⟩ :=
          .skipped hunfinished hslot
        obtain ⟨⟨calls, hjournal, hcalls⟩, hend⟩ := ih total s
        refine ⟨⟨calls, hjournal, hcalls.head hproceeds⟩, fun sum hsum => ?_⟩
        obtain ⟨left, hreaches⟩ := hend sum hsum
        exact ⟨left, .head hproceeds hreaches⟩
      · rename_i function hslot
        obtain ⟨calls, hjournal, hcalls⟩ := share_ofTurns rest hunfinished hslot
        rcases hshare : share env e driver function total s with ⟨result, count, s₁⟩
        rw [hshare] at hjournal
        dsimp only at hjournal ⊢
        split
        · rename_i hsuccess
          obtain rfl : result = .success := of_decide_eq_true hsuccess
          have hproceeds : Proceeds env e ⟨driver :: rest, total, s⟩ ⟨rest, total + count, s₁⟩ :=
            .shared hunfinished hslot hshare
          obtain ⟨⟨more, hjournal', hmore⟩, hend⟩ := ih (total + count) s₁
          refine ⟨⟨calls ++ more, hjournal.trans hjournal',
            List.forall_mem_append.2 ⟨hcalls, hmore.head hproceeds⟩⟩, fun sum hsum => ?_⟩
          obtain ⟨left, hreaches⟩ := hend sum hsum
          exact ⟨left, .head hproceeds hreaches⟩
        · exact ⟨⟨calls, hjournal, hcalls⟩, nofun⟩

/-- The same of an enumeration through the caller's counter.  It fails and leaves the counter as the
calls left it, or it succeeds and writes the total of the last turn.  Where no driver is ready none is
called. -/
theorem run_turns (env : Environment ω) (entry : EntryPoint) (ready : List Driver)
    (count array : Location) (s : Frame ω) (hasked : 0 < s.memory.readCount count) :
    let e : Enumeration := ⟨entry, s.memory.readCount count, some array⟩
    let outcome := run env entry ready (some count) (some array) s
    ∃ calls final, Journal env entry calls s final ∧ OfTurns env e ⟨ready, 0, s⟩ calls ∧
      (outcome.1 ≠ .success ∧ outcome.2 = final ∨
        ∃ rest total, Reaches env e ⟨ready, 0, s⟩ ⟨rest, total, final⟩ ∧
          outcome = (.success, { final with memory := final.memory.writeCount count total })) := by
  intro e outcome
  have houtcome : outcome = run env entry ready (some count) (some array) s := rfl
  unfold run at houtcome
  dsimp only at houtcome
  split at houtcome
  · exact ⟨[], s, .refl env entry s, List.forall_mem_nil _,
      .inl ⟨houtcome ▸ (by decide : ResultCode.uninitialized ≠ .success), houtcome ▸ rfl⟩⟩
  · rw [if_neg (UInt32.pos_iff_ne_zero.1 hasked)] at houtcome
    obtain ⟨⟨calls, hjournal, hcalls⟩, hend⟩ := collect_turns env e ready 0 s
    have hfailed := collect_journal env e ready 0 s
    rcases hcollect : collect env e ready 0 s with ⟨answer, final⟩
    rw [hcollect] at hjournal hend hfailed
    rw [show collect env ⟨entry, s.memory.readCount count, some array⟩ ready 0 s = _ from hcollect]
      at houtcome
    refine ⟨calls, final, hjournal, hcalls, ?_⟩
    cases answer with
    | error result =>
      obtain ⟨_, _, _, _, hsum⟩ | ⟨_, _, _, failing, _, _, hfails, hresult⟩ := hfailed
      · cases hsum
      · cases hresult
        exact .inl ⟨houtcome ▸ hfails.failed, houtcome ▸ rfl⟩
    | ok total =>
      obtain ⟨rest, hreaches⟩ := hend total rfl
      exact .inr ⟨rest, total, hreaches, houtcome⟩

end

end Enumeration

namespace Session

variable {ω : Type}

/-- **An enumeration stays within the caller's array.**  For every loader, whatever its drivers answer
and however their answers vary, let the caller ask for some handles and give an array, and let no driver
that is asked to fill the array raise the counter that it is given.

* At every turn there are at most as many handles as were asked for, and the room that is left is
  computed without an overflow.  A driver is asked to fill the array from behind these handles and only
  within the slots that the caller gave; the slots that are read back are among them, and their number
  is added without an overflow.
* All calls of drivers are such requests, or questions how many handles there are; and all handles that
  are adopted are those that these requests handed out.
* If the answer is "success", the caller's counter gets the total of the last turn, so that it says at
  most what the caller asked for. -/
theorem driverGet_bounded (env : Environment ω) (s : Session ω) (category : Category)
    (entry : EntryPoint) (count array : Location) (memory : Memory)
    (hserved : Api.entry? (driverGetEntry category) = some entry)
    (hasked : 0 < memory.readCount count)
    (hrestrained : Enumeration.Restrained env ⟨entry, memory.readCount count, some array⟩
      ⟨s.loader.ready category, 0, s.frame memory⟩) :
    let e : Enumeration := ⟨entry, memory.readCount count, some array⟩
    let start : Enumeration.Turn ω := ⟨s.loader.ready category, 0, s.frame memory⟩
    let outcome := s.driverGet env category (some count) (some array) memory
    (∀ turn, Enumeration.Reaches env e start turn → turn.Bounded env e array) ∧
      ∃ calls final, Enumeration.Journal env entry calls (s.frame memory) final ∧
        Enumeration.OfTurns env e start calls ∧ outcome.2.2 = s.resume final ∧
        (outcome.1 = .success →
          (∃ rest total, Enumeration.Reaches env e start ⟨rest, total, final⟩ ∧
            outcome.2.1 = final.memory.writeCount count total) ∧
          outcome.2.1.readCount count ≤ memory.readCount count) := by
  intro e start outcome
  have hbounded : ∀ turn, Enumeration.Reaches env e start turn → turn.Bounded env e array :=
    fun turn hreaches => hreaches.bounded rfl hrestrained
      (UInt32.le_iff_toNat_le.2 (Nat.zero_le _))
  have houtcome : outcome = s.driverGet env category (some count) (some array) memory := rfl
  unfold driverGet at houtcome
  rw [hserved] at houtcome
  dsimp only at houtcome
  obtain ⟨calls, final, hjournal, hcalls, hresult⟩ := Enumeration.run_turns env entry
    (s.loader.ready category) count array (s.frame memory) hasked
  refine ⟨hbounded, calls, final, hjournal, hcalls, ?_⟩
  rw [houtcome]
  rcases hresult with ⟨hfailure, hfinal⟩ | ⟨rest, total, hreaches, hsuccess⟩
  · exact ⟨congrArg s.resume hfinal, fun hsuccess => absurd hsuccess hfailure⟩
  · rw [hsuccess]
    refine ⟨rfl, fun _ => ⟨⟨rest, total, hreaches, rfl⟩, ?_⟩⟩
    exact UInt32.le_trans (Memory.readCount_writeCount_le _ _ _) (hbounded _ hreaches).total_le

namespace Sample

/-- Libraries that say that they have nine handles.  The first array that is to be filled is left as
it is, and each time after that one more handle is delivered, as long as there is room. -/
def erratic : Environment Nat where
  opens _ := true
  exports _ _ := none
  invoke _ _ args memory host :=
    match args with
    | [.pointer (some location), .handles none] =>
      ⟨.success, memory.writeCount location 9, host, []⟩
    | [.pointer (some location), .handles (some array)] =>
      let delivered := min host.world (memory.readCount location).toNat
      let handles := (List.range delivered).map fun i => (⟨UInt64.ofNat (10 * host.world + i)⟩ : Handle)
      ⟨.success, (memory.writeHandles array handles).writeCount location (UInt32.ofNat delivered),
        { host with world := host.world + 1 }, []⟩
    | _ => ⟨.uninitialized, memory, host, []⟩
  prologue _ _ _ := (0, [])
  epilogue _ _ _ _ _ := []

/-- Four such libraries are loaded. -/
def erratics : Session Nat where
  toShared := Shared.start .info 0
  loader :=
    { listers.loader with
      drivers := (List.range 4).map fun id => .fresh (lister id "erratic") }

/-- None of these libraries says that it delivered more than there was room for. -/
theorem erratics_restrained {e : Enumeration} {frame : Frame Nat}
    (hserved : Api.entry? (driverGetEntry .compute) = some e.entry) :
    Enumeration.Restrained erratic e ⟨erratics.loader.ready .compute, 0, frame⟩ := by
  refine Enumeration.restrained_of_functions fun driver hdriver function hslot => ?_
  have hlibrary : ∀ driver ∈ erratics.loader.ready .compute,
      (Api.entry? (driverGetEntry .compute)).bind (fun entry =>
        (driver.table entry.category).function? entry.group entry.name)
          = some ⟨.library "erratic", "zeDriverGet"⟩ := by
    decide +kernel
  have hfunction := hlibrary driver hdriver
  rw [hserved, Option.bind_some, hslot] at hfunction
  obtain rfl := Option.some.inj hfunction
  intro capacity array memory host
  refine UInt32.le_trans (Memory.readCount_writeCount_le _ _ _) ?_
  rw [Enumeration.readCount_store_counter, UInt32.le_iff_toNat_le, UInt32.toNat_ofNat']
  exact Nat.le_trans (Nat.mod_le _ _) (Nat.min_le_right _ _)

end Sample

/-- Drivers that say nine and deliver nothing, one handle, two handles of which there is room for two:
an array for three is full with the third driver, and the fourth is not asked. -/
theorem driverGet_bounded_erratic :
    let outcome := Sample.erratics.driverGet Sample.erratic .compute (some Sample.count)
      (some Sample.array) Sample.request
    outcome.1 = .success ∧ outcome.2.1.handlesAt Sample.array 3 = [⟨10⟩, ⟨20⟩, ⟨21⟩] ∧
      outcome.2.1.readCount Sample.count ≤ 3 ∧
        outcome.2.2.trace.invocations.map (·.driver) = [0, 0, 1, 1, 2, 2] := by
  intro outcome
  have hsuccess : outcome.1 = .success := by decide +kernel
  obtain ⟨entry, hserved, -⟩ := driverGetEntry_served .compute
  obtain ⟨-, calls, final, -, -, -, hcount⟩ := driverGet_bounded Sample.erratic Sample.erratics .compute
    entry Sample.count Sample.array Sample.request hserved (by decide)
    (Sample.erratics_restrained hserved)
  refine ⟨hsuccess, ?_, (hcount hsuccess).2, ?_⟩
  · decide +kernel
  · decide +kernel

end Session
end DriverLoader
