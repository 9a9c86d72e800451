/-
# Enumerations that only count

Without an array each driver is asked how many handles it has, and nothing cuts its answer down to
what the caller asked for.  `Reports` says which numbers the drivers come to, asked one after the
other.

Enumeration ends where the numbers so far sum up to exactly what the caller asked for
(`collect_counts`).  If some drivers in front come to that number, these are the ones that are asked.
If the sum steps over it, no later sum is equal to it, and all drivers are asked and counted
(`Stop.eq_of_fewest`, `Session.driverGet_counts`).
-/

import DriverLoader.Proofs.Enumeration.Inquiry
import Mathlib.Algebra.Order.BigOperators.Group.List
import Mathlib.Algebra.Order.Group.Nat
import Mathlib.Data.Nat.Find

namespace DriverLoader
namespace Enumeration

variable {ω : Type}

/-- Asked one after the other how many handles they have, the drivers answer "success" and report
these numbers.  A driver without a function for it is not asked and has none. -/
inductive Reports (env : Environment ω) (entry : EntryPoint) :
    List Driver → Memory → Host ω → List Nat → Prop where
  | nil (memory : Memory) (host : Host ω) : Reports env entry [] memory host []
  | skipped {driver : Driver} {rest : List Driver} {memory : Memory} {host : Host ω}
      {numbers : List Nat}
      (hslot : (driver.table entry.category).function? entry.group entry.name = none)
      (later : Reports env entry rest memory host numbers) :
      Reports env entry (driver :: rest) memory host (0 :: numbers)
  | answered {driver : Driver} {rest : List Driver} {function : DriverFunction} {memory : Memory}
      {host : Host ω} {numbers : List Nat}
      (hslot : (driver.table entry.category).function? entry.group entry.name = some function)
      (hsuccess : (Inquiry.query driver function memory host).Succeeds env entry)
      (later : Reports env entry rest
        ((Inquiry.query driver function memory host).reply env entry).memory
        ((Inquiry.query driver function memory host).reply env entry).host numbers) :
      Reports env entry (driver :: rest) memory host
        (((Inquiry.query driver function memory host).count env entry).toNat :: numbers)

/-- Every driver reports one number. -/
theorem Reports.length_eq {env : Environment ω} {entry : EntryPoint} {drivers : List Driver}
    {memory : Memory} {host : Host ω} {numbers : List Nat}
    (h : Reports env entry drivers memory host numbers) : numbers.length = drivers.length := by
  induction h with
  | nil => rfl
  | skipped _ _ ih | answered _ _ _ ih => exact congrArg (· + 1) ih

/-- Drivers that offer fixed handles report how many these are. -/
theorem reports_of_offers {env : Environment ω} {entry : EntryPoint} {drivers : List Driver}
    {handles : Driver → List Handle}
    (hoffers : ∀ driver ∈ drivers, Offers env entry driver (handles driver)) (memory : Memory)
    (host : Host ω) :
    Reports env entry drivers memory host (drivers.map fun driver => (handles driver).length) := by
  induction drivers generalizing memory host with
  | nil => exact .nil memory host
  | cons driver rest ih =>
    have hrest := ih fun other hother => hoffers other (List.mem_cons_of_mem driver hother)
    have hfirst := hoffers driver List.mem_cons_self
    unfold Offers at hfirst
    split at hfirst
    · rename_i hslot
      rw [List.map_cons, hfirst]
      exact .skipped hslot (hrest memory host)
    · rename_i function hslot
      obtain ⟨hsuccess, hwritten⟩ :=
        hfirst.counts (memory.store .counter [(0 : UInt32).toUInt64]) host
      have hcount : ((Inquiry.query driver function memory host).count env entry).toNat
          = (handles driver).length := by
        refine (congrArg (fun m : Memory => (m.readCount counter).toNat) hwritten).trans ?_
        rw [Memory.readCount_writeCount (by simp [counter])]
        exact UInt32.toNat_ofNat_of_lt' hfirst.short
      rw [List.map_cons, ← hcount]
      exact .answered hslot hsuccess (hrest _ _)

/-- The drivers that have a function for an entry point, each with its function. -/
def slots (entry : EntryPoint) (drivers : List Driver) : List (Driver × DriverFunction) :=
  drivers.filterMap fun driver =>
    ((driver.table entry.category).function? entry.group entry.name).map (driver, ·)

/-! ### Where the sum stops -/

/-- As few numbers in front as sum up to what was asked for, or all of them if even these do not. -/
structure Fewest (requested : Nat) (numbers : List Nat) (m : Nat) : Prop where
  within : m ≤ numbers.length
  below : ∀ j < m, (numbers.take j).sum < requested
  enough : m = numbers.length ∨ requested ≤ (numbers.take m).sum

/-- There is always a smallest number of drivers that is enough. -/
theorem exists_fewest (requested : Nat) (numbers : List Nat) : ∃ m, Fewest requested numbers m := by
  have hsome : ∃ m, m = numbers.length ∨ requested ≤ (numbers.take m).sum := ⟨_, .inl rfl⟩
  refine ⟨Nat.find hsome, Nat.find_min' hsome (.inl rfl), fun j hj => ?_, Nat.find_spec hsome⟩
  exact Nat.lt_of_not_le fun hle => Nat.find_min hsome hj (.inr hle)

/-- The first place where a total and the numbers in front come to exactly what was asked for, or the
end. -/
structure Stop (requested total : Nat) (numbers : List Nat) (k : Nat) : Prop where
  within : k ≤ numbers.length
  before : ∀ j < k, total + (numbers.take j).sum ≠ requested
  here : k = numbers.length ∨ total + (numbers.take k).sum = requested

namespace Stop

variable {requested total : Nat} {numbers : List Nat} {k m : Nat}

/-- Without numbers the total stops at once. -/
theorem nil : Stop requested total [] 0 :=
  ⟨Nat.le_refl _, nofun, .inl rfl⟩

/-- A total that is what was asked for stops at once. -/
theorem zero (h : total = requested) : Stop requested total numbers 0 :=
  ⟨Nat.zero_le _, nofun, .inr h⟩

/-- Any other total stops where it does with the first number added. -/
theorem cons {n : Nat} (hne : total ≠ requested) (h : Stop requested (total + n) numbers k) :
    Stop requested total (n :: numbers) (k + 1) := by
  refine ⟨Nat.succ_le_succ h.within, fun j hj => ?_, ?_⟩
  · cases j with
    | zero => exact hne
    | succ j =>
      rw [List.take_succ_cons, List.sum_cons, ← Nat.add_assoc]
      exact h.before j (Nat.lt_of_succ_lt_succ hj)
  · rw [List.take_succ_cons, List.sum_cons, ← Nat.add_assoc, List.length_cons]
    exact h.here.imp_left (congrArg (· + 1))

/-- **If the fewest that are enough are too many, the sum does not stop before the end.** -/
theorem eq_of_fewest (hstop : Stop requested 0 numbers k) (hfewest : Fewest requested numbers m) :
    k = if (numbers.take m).sum ≤ requested then m else numbers.length := by
  have hwithin := hstop.within
  have hhere := hstop.here
  rw [Nat.zero_add] at hhere
  split
  · rename_i hle
    rcases Nat.lt_trichotomy k m with hlt | heq | hgt
    · have hbelow := hfewest.below k hlt
      have hlast := hhere.resolve_right (by omega)
      have hm := hfewest.within
      omega
    · exact heq
    · have hne := hstop.before m hgt
      have hlast := hfewest.enough.resolve_right (by omega)
      omega
  · rename_i hover
    refine hhere.resolve_right fun hexact => ?_
    rcases Nat.lt_or_ge k m with hlt | hge
    · have hbelow := hfewest.below k hlt
      omega
    · have hmono : (numbers.take m).sum ≤ (numbers.take k).sum :=
        List.monotone_sum_take numbers hge
      omega

end Stop

/-! ### Asking for numbers -/

/-- The calls were questions how many handles the drivers have, one for each driver that has a
function for it. -/
structure Questions (entry : EntryPoint) (drivers : List Driver) (calls : List (Inquiry ω)) :
    Prop where
  asked : calls.map (fun call => (call.driver, call.function)) = slots entry drivers
  plain : ∀ call ∈ calls, call.array = none

namespace Questions

variable {entry : EntryPoint} {driver : Driver} {drivers : List Driver} {calls : List (Inquiry ω)}

theorem nil : Questions entry [] ([] : List (Inquiry ω)) :=
  ⟨rfl, List.forall_mem_nil _⟩

/-- A driver without the function is not asked. -/
theorem skip (hslot : (driver.table entry.category).function? entry.group entry.name = none)
    (h : Questions entry drivers calls) : Questions entry (driver :: drivers) calls := by
  refine ⟨h.asked.trans ?_, h.plain⟩
  unfold slots
  rw [List.filterMap_cons_none (by rw [hslot]; rfl)]

/-- A driver with the function is asked once, without an array. -/
theorem cons {function : DriverFunction} {memory : Memory} {host : Host ω}
    (hslot : (driver.table entry.category).function? entry.group entry.name = some function)
    (h : Questions entry drivers calls) :
    Questions entry (driver :: drivers) (Inquiry.query driver function memory host :: calls) := by
  refine ⟨?_, List.forall_mem_cons.2 ⟨rfl, h.plain⟩⟩
  unfold slots
  rw [List.filterMap_cons_some (by rw [hslot]; rfl), List.map_cons, h.asked]
  rfl

/-- Nothing is handed out. -/
theorem handed (h : Questions entry drivers calls) (env : Environment ω) :
    calls.flatMap (·.handed env entry) = [] :=
  List.flatMap_eq_nil_iff.2 fun call hcall => Inquiry.handed_of_query (h.plain call hcall)

end Questions

section

variable {env : Environment ω} {e : Enumeration} {drivers : List Driver} {numbers : List Nat}
  {s : Frame ω}

/-- **Drivers in front are asked for their numbers**, up to where these come to exactly what was asked
for. -/
theorem collect_counts (harray : e.array = none) (hasked : 0 < e.requested)
    (hreports : Reports env e.entry drivers s.memory s.host numbers) {total : UInt32}
    (hsum : total.toNat + numbers.sum < 2 ^ 32) :
    let outcome := collect env e drivers total s
    ∃ k calls sum, Stop e.requested.toNat total.toNat numbers k ∧
      Journal env e.entry calls s outcome.2 ∧ Questions e.entry (drivers.take k) calls ∧
      outcome.1 = .ok sum ∧ sum.toNat = total.toNat + (numbers.take k).sum := by
  induction drivers generalizing s total numbers with
  | nil =>
    cases hreports
    exact ⟨0, [], total, .nil, .refl env e.entry s, .nil, rfl, rfl⟩
  | cons driver rest ih =>
    unfold collect
    split
    · rename_i hfull
      rw [Bool.and_eq_true, decide_eq_true_iff, decide_eq_true_iff] at hfull
      exact ⟨0, [], total, .zero (congrArg _ hfull.2), .refl env e.entry s, .nil, rfl, rfl⟩
    · rename_i hopen
      have hne : total.toNat ≠ e.requested.toNat := by
        intro heq
        refine hopen ?_
        rw [Bool.and_eq_true, decide_eq_true_iff, decide_eq_true_iff]
        exact ⟨hasked, UInt32.toNat.inj heq⟩
      cases hreports with
      | skipped hslot later =>
        rw [hslot]
        dsimp only
        rw [List.sum_cons, Nat.zero_add] at hsum
        obtain ⟨k, calls, sum, hstop, hjournal, hquestions, hresult, htotal⟩ := ih later hsum
        refine ⟨k + 1, calls, sum, .cons hne hstop, hjournal, hquestions.skip hslot, hresult, ?_⟩
        rw [htotal, List.take_succ_cons, List.sum_cons, Nat.zero_add]
      | answered hslot hsuccess later =>
        rename_i function numbers
        have hshare : share env e driver function total s
            = ask env e.entry driver function 0 none s := by
          unfold share
          rw [harray]
        have hanswer : (ask env e.entry driver function 0 none s).1.isSuccess = true :=
          decide_eq_true hsuccess
        have hnext : (total + (ask env e.entry driver function 0 none s).2.1).toNat
            = total.toNat
              + ((Inquiry.query driver function s.memory s.host).count env e.entry).toNat := by
          rw [List.sum_cons, ← Nat.add_assoc] at hsum
          exact (UInt32.toNat_add ..).trans
            (Nat.mod_eq_of_lt (Nat.lt_of_le_of_lt (Nat.le_add_right _ _) hsum))
        rw [List.sum_cons, ← Nat.add_assoc, ← hnext] at hsum
        obtain ⟨k, calls, sum, hstop, hjournal, hquestions, hresult, htotal⟩ :=
          ih (s := (ask env e.entry driver function 0 none s).2.2) later hsum
        rw [hnext] at hstop htotal
        rw [hslot]
        dsimp only
        rw [hshare, if_pos hanswer]
        refine ⟨k + 1, .query driver function s.memory s.host :: calls, sum, .cons hne hstop, ?_,
          .cons hslot hquestions, hresult, ?_⟩
        · exact (query_journal env e.entry driver function s).trans hjournal
        · rw [htotal, List.take_succ_cons, List.sum_cons, Nat.add_assoc]

end

end Enumeration

namespace Session

variable {ω : Type}

/-- **An enumeration without an array stops only at exactly what was asked for.**  For every loader,
let the ready drivers, asked one after the other how many handles they have, answer "success" and
report numbers that sum up to less than 2³², and let the caller ask for some handles and give no array.

If no driver is ready, the answer is "uninitialised" and nothing has changed.  Otherwise it is
"success".  Let `m` be as few drivers in front as have what was asked for, or all of them if even
these do not.  If the first `m` drivers have no more than what was asked for, they are the ones that
count, and otherwise all drivers are:

* Each of the drivers that count is asked once, in their order, unless it has no function for it; no
  other driver is called.
* The memory is what the drivers left behind, with the sum of their numbers in the caller's counter.
* The registry is what it was. -/
theorem driverGet_counts (env : Environment ω) (s : Session ω) (category : Category)
    (entry : EntryPoint) (count : Location) (memory : Memory) (numbers : List Nat)
    (hserved : Api.entry? (driverGetEntry category) = some entry)
    (hasked : 0 < memory.readCount count)
    (hreports : Enumeration.Reports env entry (s.loader.ready category) memory s.host numbers)
    (hsum : numbers.sum < 2 ^ 32) :
    let ready := s.loader.ready category
    let requested := (memory.readCount count).toNat
    let outcome := s.driverGet env category (some count) none memory
    (ready = [] → outcome = (.uninitialized, memory, s)) ∧
      (ready ≠ [] →
        ∃ m k calls left, Enumeration.Fewest requested numbers m ∧
          k = (if (numbers.take m).sum ≤ requested then m else ready.length) ∧
          outcome.1 = .success ∧
          Enumeration.Questions entry (ready.take k) calls ∧
          outcome.2.2.trace.invocations
            = s.trace.invocations ++ calls.map (·.invocation env entry) ∧
          Enumeration.Chain env entry memory s.host calls left outcome.2.2.host ∧
          outcome.2.1 = left.writeCount count (UInt32.ofNat (numbers.take k).sum) ∧
          outcome.2.2.loader.registry = s.loader.registry) := by
  intro ready requested outcome
  have houtcome : outcome = s.driverGet env category (some count) none memory := rfl
  unfold driverGet at houtcome
  rw [hserved] at houtcome
  dsimp only at houtcome
  constructor
  · intro hnone
    rw [houtcome, show s.loader.ready category = [] from hnone]
    rfl
  · intro hsome
    have hstart : (0 : UInt32).toNat + numbers.sum < 2 ^ 32 := by
      rwa [UInt32.toNat_zero, Nat.zero_add]
    obtain ⟨k, calls, sum, hstop, hjournal, hquestions, hresult, htotal⟩ :=
      Enumeration.collect_counts (e := ⟨entry, memory.readCount count, none⟩)
        (s := s.frame memory) rfl hasked hreports hstart
    obtain ⟨m, hfewest⟩ := Enumeration.exists_fewest requested numbers
    have hk : k = if (numbers.take m).sum ≤ requested then m else ready.length := by
      rw [← hreports.length_eq]
      exact hstop.eq_of_fewest hfewest
    have hwritten : UInt32.ofNat (numbers.take k).sum = sum := by
      rw [UInt32.toNat_zero, Nat.zero_add] at htotal
      rw [← htotal, UInt32.ofNat_toNat]
    rcases hcollect : Enumeration.collect env ⟨entry, memory.readCount count, none⟩
      (s.loader.ready category) 0 (s.frame memory) with ⟨answer, s'⟩
    rw [hcollect] at hjournal hresult
    obtain rfl : answer = .ok sum := hresult
    unfold Enumeration.run at houtcome
    dsimp only at houtcome
    rw [if_neg (by simpa using hsome), ite_self, show (s.frame memory).memory = memory from rfl,
      hcollect] at houtcome
    refine ⟨m, k, calls, s'.memory, hfewest, hk, ?_⟩
    rw [hwritten, houtcome]
    refine ⟨rfl, hquestions, hjournal.invocations, hjournal.chain, rfl, ?_⟩
    exact hjournal.registry.trans (congrArg _ (hquestions.handed env))

namespace Sample

/-- A question whether there is a handle. -/
def question : Memory where
  slots
    | .argument _ => [1]
    | .counter => []

end Sample

/-- If two drivers have two handles each, whoever asks for one hears of four. -/
theorem driverGet_counts_over :
    ∃ left : Memory, (Sample.listers.driverGet Sample.listing .compute (some Sample.count) none
      Sample.question).2.1 = left.writeCount Sample.count 4 := by
  obtain ⟨entry, hserved, -⟩ := driverGetEntry_served .compute
  obtain ⟨-, hready⟩ := driverGet_counts Sample.listing Sample.listers .compute entry Sample.count
    Sample.question [2, 2] hserved (by decide)
    (Enumeration.reports_of_offers (Sample.listers_offer hserved) _ _) (by decide)
  obtain ⟨m, k, calls, left, hfewest, hk, -, -, -, -, hwritten, -⟩ := hready (by decide +kernel)
  have hm : m = 1 := by
    match m, hfewest with
    | 0, h => exact absurd h.enough (by decide)
    | 1, _ => rfl
    | 2, h => exact absurd (h.below 1 (by decide)) (by decide)
    | _ + 3, h => exact absurd h.within (by simp)
  have htwo : k = 2 := by
    rw [hk, hm]
    decide +kernel
  rw [htwo] at hwritten
  exact ⟨left, hwritten⟩

end Session
end DriverLoader
