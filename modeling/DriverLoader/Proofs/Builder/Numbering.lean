/-
# How drivers are numbered

A new driver is numbered by how many drivers the builder holds, and a driver that is removed takes its
number along.  So a number can come a second time: with two drivers held, removing the first and building
a third gives the third the number of the second.

`Builder.Turn` is what one call can do to a builder and to the list of the drivers it holds in the order
in which they were built.  Along a run of such turns the numbers grow in that order, and draining gives
that order back, exactly as long as a new driver is built only while the numbers of those that are held
leave no gap (`ordered_iff`).  `numbering_after` says so of every series of builds and removals, and of
every history of a loader.
-/

import DriverLoader.Proofs.Loader.Accounting
import DriverLoader.Proofs.Negotiation.Outcome
import Mathlib.Data.List.Range
import Mathlib.Data.List.Perm.Subperm
import Mathlib.Data.String.Basic

namespace DriverLoader
namespace Builder

variable {ω : Type}

/-! ### One turn -/

/-- A builder, and the drivers that it holds in the order in which they were built. -/
structure Roll where
  builder : Builder
  built : List Driver

namespace Roll

/-- What one call can do to a roll. -/
inductive Turn (r : Roll) : Roll → Prop where
  | kept : Turn r r
  /-- A driver of a new name gets the number of the drivers that are held. -/
  | added {driver : Driver} (new : r.builder.find? driver.name = none)
      (index : driver.index = r.builder.size) :
      Turn r ⟨⟨place driver r.builder.drivers⟩, r.built ++ [driver]⟩
  | removed (name : String) :
      Turn r ⟨r.builder.remove name, r.built.filter fun driver => driver.name ≠ name⟩
  | emptied : Turn r ⟨Builder.empty, []⟩

/-- The builder holds the drivers of the roll, in the order of their names. -/
structure Filed (r : Roll) : Prop where
  names : r.builder.drivers.Pairwise fun first second => first.name < second.name
  held : r.builder.drivers.Perm r.built

/-- The numbers grow in the order in which the drivers were built. -/
def Increasing (r : Roll) : Prop :=
  r.built.Pairwise fun first second => first.index < second.index

/-- The numbers grow in the order in which the drivers were built, and draining gives this order. -/
def Ordered (r : Roll) : Prop :=
  r.Increasing ∧ r.builder.drain = r.built

/-- The drivers are numbered one after the other from zero. -/
def Gapless (r : Roll) : Prop :=
  r.built.map (·.index) = List.range r.built.length

end Roll

/-- No driver of a builder has a name that it does not know. -/
theorem find?_eq_none {b : Builder} {name : String} :
    b.find? name = none ↔ ∀ driver ∈ b.drivers, driver.name ≠ name := by
  simp [find?, List.find?_eq_none]

/-- Putting a driver of a new name at its place keeps the order of names. -/
theorem place_sorted {driver : Driver} {drivers : List Driver}
    (hsorted : drivers.Pairwise fun first second => first.name < second.name)
    (hnew : ∀ other ∈ drivers, other.name ≠ driver.name) :
    (place driver drivers).Pairwise fun first second => first.name < second.name := by
  induction drivers with
  | nil => exact List.pairwise_singleton _ _
  | cons first rest ih =>
    obtain ⟨hfirst, hrest⟩ := List.pairwise_cons.1 hsorted
    unfold place
    split
    · rename_i hlt
      refine List.pairwise_cons.2 ⟨fun other hother => ?_, hsorted⟩
      rcases List.mem_cons.1 hother with rfl | hlater
      · exact hlt
      · exact hlt.trans (hfirst other hlater)
    · rename_i hge
      have hlt : first.name < driver.name :=
        lt_of_le_of_ne (not_lt.1 hge) (hnew first List.mem_cons_self)
      have hplaced := ih hrest fun other hother => hnew other (List.mem_cons_of_mem _ hother)
      refine List.pairwise_cons.2 ⟨fun other hother => ?_, hplaced⟩
      rcases List.mem_cons.1 ((place_perm driver rest).subset hother) with rfl | hlater
      · exact hlt
      · exact hfirst other hlater

namespace Roll

/-- Whatever a turn does to a roll, the builder still holds its drivers in the order of their names. -/
theorem Turn.filed {r r' : Roll} (hturn : r.Turn r') (hr : r.Filed) : r'.Filed := by
  cases hturn with
  | kept => exact hr
  | @added driver new index =>
    refine ⟨place_sorted hr.names (find?_eq_none.1 new), ?_⟩
    exact (place_perm driver _).trans
      ((hr.held.cons driver).trans (List.perm_append_singleton ..).symm)
  | removed name => exact ⟨hr.names.filter _, hr.held.filter _⟩
  | emptied => exact ⟨List.Pairwise.nil, .refl _⟩

/-- Draining gives the drivers that are held, in the order of their numbers. -/
theorem Filed.drain {r : Roll} (hr : r.Filed) :
    r.builder.drain.Perm r.built ∧
      r.builder.drain.Pairwise fun first second => first.index ≤ second.index := by
  refine ⟨(List.mergeSort_perm _ _).trans hr.held, ?_⟩
  have hsorted : r.builder.drain.Pairwise
      fun first second => decide (first.index ≤ second.index) = true := by
    refine List.pairwise_mergeSort (fun first second third hfirst hsecond => ?_) (fun _ _ => ?_) _
    · simp only [decide_eq_true_eq] at hfirst hsecond ⊢
      omega
    · simp only [Bool.or_eq_true, decide_eq_true_eq]
      omega
  exact hsorted.imp fun h => of_decide_eq_true h

/-- Where the numbers grow in the order of building, draining gives that order. -/
theorem Filed.ordered_iff {r : Roll} (hr : r.Filed) : r.Ordered ↔ r.Increasing := by
  refine ⟨And.left, fun hincreasing => ⟨hincreasing, ?_⟩⟩
  obtain ⟨hperm, hsorted⟩ := hr.drain
  have hnodup : (r.built.map (·.index)).Nodup :=
    (List.pairwise_map.2 hincreasing).imp fun h => Nat.ne_of_lt h
  refine List.Perm.eq_of_pairwise ?_ hsorted (hincreasing.imp fun h => Nat.le_of_lt h) hperm
  intro first second hfirst hsecond hle hge
  exact List.inj_on_of_nodup_map hnodup (hperm.subset hfirst) hsecond (Nat.le_antisymm hle hge)

/-- Growing numbers below their count are the numbers from zero on. -/
theorem Increasing.gapless_iff {r : Roll} (hr : r.Increasing) :
    r.Gapless ↔ ∀ driver ∈ r.built, driver.index < r.built.length := by
  constructor
  · intro hgapless driver hdriver
    have hmem : driver.index ∈ r.built.map (·.index) := List.mem_map_of_mem hdriver
    rw [hgapless] at hmem
    exact List.mem_range.1 hmem
  · intro hbelow
    have hsorted : (r.built.map (·.index)).Pairwise (· < ·) := List.pairwise_map.2 hr
    have hsubset : r.built.map (·.index) ⊆ List.range r.built.length := by
      intro index hindex
      obtain ⟨driver, hdriver, rfl⟩ := List.mem_map.1 hindex
      exact List.mem_range.2 (hbelow driver hdriver)
    have hnodup : (r.built.map (·.index)).Nodup := hsorted.imp fun h => Nat.ne_of_lt h
    have hperm : (r.built.map (·.index)).Perm (List.range r.built.length) :=
      (List.subperm_of_subset hnodup hsubset).perm_of_length_le (by simp)
    refine List.Perm.eq_of_pairwise ?_ hsorted List.pairwise_lt_range hperm
    intro _ _ _ _ hlt hgt
    omega

/-- **One turn keeps the numbers growing, unless it adds a driver where there is a gap.** -/
theorem Turn.increasing_iff {r r' : Roll} (hturn : r.Turn r') (hfiled : r.Filed)
    (hr : r.Increasing) :
    r'.Increasing ↔ ((∃ driver, r'.built = r.built ++ [driver]) → r.Gapless) := by
  have hgrowth : ∀ {built : List Driver}, built.length ≤ r.built.length →
      ¬∃ driver, built = r.built ++ [driver] := by
    rintro built hle ⟨driver, rfl⟩
    simp at hle
  cases hturn with
  | kept => exact iff_of_true hr fun hadded => absurd hadded (hgrowth (Nat.le_refl _))
  | @added driver new index =>
    have hsize : driver.index = r.built.length := index.trans hfiled.held.length_eq
    have happend : Increasing ⟨⟨place driver r.builder.drivers⟩, r.built ++ [driver]⟩ ↔
        ∀ other ∈ r.built, other.index < r.built.length := by
      unfold Increasing
      rw [List.pairwise_append]
      constructor
      · rintro ⟨-, -, hlast⟩ other hother
        exact hsize ▸ hlast other hother driver (List.mem_singleton_self _)
      · intro hbelow
        refine ⟨hr, List.pairwise_singleton _ _, fun other hother last hlast => ?_⟩
        rw [List.mem_singleton.1 hlast, hsize]
        exact hbelow other hother
    rw [happend, ← hr.gapless_iff]
    exact ⟨fun hgapless _ => hgapless, fun hgapless => hgapless ⟨driver, rfl⟩⟩
  | removed name =>
    exact iff_of_true (hr.filter _)
      fun hadded => absurd hadded (hgrowth (List.length_filter_le _ _))
  | emptied =>
    exact iff_of_true List.Pairwise.nil fun hadded => absurd hadded (hgrowth (Nat.zero_le _))

/-- A turn that adds a driver numbers it by how many drivers are held. -/
theorem Turn.index_eq {r r' : Roll} (hturn : r.Turn r') (hfiled : r.Filed) {driver : Driver}
    (hadded : r'.built = r.built ++ [driver]) : driver.index = r.built.length := by
  have hlength := congrArg List.length hadded
  rw [List.length_append, List.length_singleton] at hlength
  cases hturn with
  | kept => omega
  | @added other new index =>
    have heq : [other] = [driver] := List.append_cancel_left hadded
    obtain rfl := List.singleton_inj.1 heq
    exact index.trans hfiled.held.length_eq
  | removed name =>
    have hle := List.length_filter_le (fun driver => driver.name ≠ name) r.built
    dsimp only at hlength
    omega
  | emptied => simp at hlength

end Roll

/-! ### A run of turns -/

/-- How drivers are numbered in a run that starts with nothing and takes one turn after another; `roll`
is what each part of the run leads to. -/
structure Numbering {ι : Type} (roll : List ι → Roll) (run : List ι) : Prop where
  /-- The drivers that are held are those that the roll lists, and no two have one name. -/
  held : (roll run).Filed
  /-- Draining gives these drivers in the order of their numbers. -/
  drained : (roll run).builder.drain.Perm (roll run).built ∧
    (roll run).builder.drain.Pairwise fun first second => first.index ≤ second.index
  /-- A driver that is added gets the number of the drivers that are held. -/
  index : ∀ before turn after driver, run = before ++ turn :: after →
    (roll (before ++ [turn])).built = (roll before).built ++ [driver] →
      driver.index = (roll before).built.length
  /-- Numbers grow in the order of building, and draining gives that order, in every state of the run,
  exactly if no driver is added while there is a gap. -/
  ordered : (∀ before after, run = before ++ after → (roll before).Ordered) ↔
    ∀ before turn after, run = before ++ turn :: after →
      (∃ driver, (roll (before ++ [turn])).built = (roll before).built ++ [driver]) →
        (roll before).Gapless

/-- **Drivers are numbered in order as long as none is added while there is a gap.** -/
theorem numbering {ι : Type} (roll : List ι → Roll) (start : roll [] = ⟨Builder.empty, []⟩)
    (turn : ∀ before turn, (roll before).Turn (roll (before ++ [turn]))) (run : List ι) :
    Numbering roll run := by
  have hfiled : ∀ part, (roll part).Filed := by
    intro part
    induction part using List.reverseRecOn with
    | nil => rw [start]; exact ⟨List.Pairwise.nil, .refl _⟩
    | append_singleton before last ih => exact (turn before last).filed ih
  refine ⟨hfiled run, (hfiled run).drain, ?_, ?_, ?_⟩
  · intro before next after driver _ hadded
    exact (turn before next).index_eq (hfiled before) hadded
  · intro hordered before next after hsplit
    have hbefore := hordered before (next :: after) hsplit
    have hnext := hordered (before ++ [next]) after (by simp [hsplit])
    exact ((turn before next).increasing_iff (hfiled before) hbefore.1).1 hnext.1
  · intro hgapless before after hsplit
    rw [(hfiled before).ordered_iff]
    induction before using List.reverseRecOn generalizing after with
    | nil => rw [start]; exact List.Pairwise.nil
    | append_singleton before last ih =>
      have hsplit' : run = before ++ last :: after := by simp [hsplit]
      have hbefore := ih (last :: after) hsplit'
      exact ((turn before last).increasing_iff (hfiled before) hbefore).2
        (hgapless before last after hsplit')

/-! ### Runs of a builder -/

/-- A build that fails leaves the builder as it was. -/
theorem build_failed {exports : Exports} {name : String} {module : DriverModule} {id : Nat}
    {b b' : Builder} {a a' : Ambient ω} {failure : BuildFailure}
    (hbuild : b.build exports name module id a = (.error failure, b', a')) : b' = b := by
  unfold build at hbuild
  split at hbuild
  · cases hbuild
  · dsimp only at hbuild
    split at hbuild
    · cases hbuild
      rfl
    · cases hbuild

/-- A call of a builder. -/
inductive Request where
  | build (exports : Exports) (name : String) (module : DriverModule) (id : Nat)
  | remove (name : String)

/-- What a call makes of a builder, of the order of building and of the state around. -/
def Request.step : Request → Roll × Ambient ω → Roll × Ambient ω
  | build exports name module id, (r, a) =>
    match r.builder.find? name, r.builder.build exports name module id a with
    | none, (.ok driver, b, a) => (⟨b, r.built ++ [driver]⟩, a)
    | _, (_, b, a) => (⟨b, r.built⟩, a)
  | remove name, (r, a) =>
    (⟨r.builder.remove name, r.built.filter fun driver => driver.name ≠ name⟩, a)

/-- What calls make of a builder that holds nothing. -/
def after (a : Ambient ω) (requests : List Request) : Roll × Ambient ω :=
  requests.foldl (fun s request => request.step s) (⟨Builder.empty, []⟩, a)

/-- Every request to a builder is a turn of its roll. -/
theorem Request.step_turn (request : Request) (r : Roll) (a : Ambient ω) :
    r.Turn (request.step (r, a)).1 := by
  cases request with
  | remove name => exact .removed name
  | build exports name module id =>
    unfold Request.step
    dsimp only
    rcases hbuild : r.builder.build exports name module id a with ⟨outcome, b, a'⟩
    cases hfind : r.builder.find? name with
    | some driver =>
      have hkept : b = r.builder := by
        unfold Builder.build at hbuild
        rw [hfind] at hbuild
        cases hbuild
        rfl
      rw [hkept]
      exact .kept
    | none =>
      cases outcome with
      | error failure =>
        rw [build_failed hbuild]
        exact .kept
      | ok driver =>
        obtain ⟨rfl, hindex, rfl⟩ := build_held hfind hbuild
        exact .added hfind hindex

end Builder

/-! ### Histories of a loader -/

namespace Session

variable {ω : Type} {s : Session ω}

/-- The builder of a loader, and the loaded drivers. -/
def roll (s : Session ω) : Builder.Roll :=
  ⟨s.loader.builder, s.loader.loaded⟩

/-- A driver that is loaded is numbered by how many the builder holds. -/
theorem addDriver_index {env : Environment ω} {name : String} {module : DriverModule}
    {driver : Driver} (hloaded : (s.addDriver env name module).2.loader.loaded
      = s.loader.loaded ++ [driver]) : driver.index = s.loader.builder.size := by
  have hlength := congrArg List.length hloaded
  rw [List.length_append, List.length_singleton] at hlength
  have hadded := addDriver_added env name module s
  generalize s.addDriver env name module = outcome at hadded hloaded hlength
  cases hadded with
  | duplicate => exact absurd hlength (Nat.ne_of_lt (Nat.lt_succ_self _))
  | refused idles => exact absurd hlength (Nat.ne_of_lt (Nat.lt_succ_self _))
  | @loaded other a new name id index idles =>
    have hother : s.loader.loaded ++ [other] = s.loader.loaded ++ [driver] := by
      rw [← hloaded]
      simp [Loader.loaded, LoadedDriver.fresh]
    obtain rfl := List.singleton_inj.1 (List.append_cancel_left hother)
    exact index

/-- Every operation on a loader takes one turn of its roll. -/
theorem step_turn (hs : s.Coherent) (env : Environment ω) (operation : Operation) :
    s.roll.Turn (s.step env operation).roll := by
  unfold roll
  cases (step_effect env s operation).shift with
  | kept drivers builder next registry =>
    rw [drivers, builder]
    exact .kept
  | loaded driver module cause new id drivers builder next registry =>
    have hindex : driver.index = s.loader.builder.size := by
      subst cause
      exact addDriver_index drivers
    have hbuilder : (s.step env operation).loader.builder =
        ⟨Builder.place driver s.loader.builder.drivers⟩ := congrArg Builder.mk builder
    rw [drivers, hbuilder]
    exact .added new hindex
  | unloaded d name cause found loader next =>
    rw [loader, hs.loaded_dropDriver]
    exact .removed name
  | emptied cause drivers builder next registry =>
    rw [drivers, builder]
    exact .emptied

/-- The roll of a loader that was just made is empty. -/
theorem empty_roll (config : Config) (shared : Shared ω) :
    (empty config shared).roll = ⟨Builder.empty, []⟩ := by
  have hloaded := (empty_vacant config shared).1
  have hbuilder := (empty_coherent config shared).builder
  rw [hloaded] at hbuilder
  unfold roll
  rw [hloaded, show (empty config shared).loader.builder = Builder.empty from
    congrArg Builder.mk hbuilder.eq_nil]

end Session

namespace Builder

variable {ω : Type}

/-- **Numbers come in the order of building unless a driver is built while there is a gap.**  For every
series of builds and removals under any names, and for every history of a loader, `Numbering` holds:

* The builder holds the drivers that were built and not removed, one for each name; draining gives them
  in the order of their numbers.
* A new driver gets the number of the drivers that are held.
* In every state the numbers of the held drivers are distinct and grow in the order of building, and
  draining gives that order, if and only if each new driver was built while the numbers of those that
  were held had no gap.  A gap opens when a driver is removed while a later one is held. -/
theorem numbering_after (a : Ambient ω) (requests : List Request) (env : Environment ω)
    (config : Config) (shared : Shared ω) (history : History) :
    Numbering (fun requests => (after a requests).1) requests ∧
      Numbering (fun history => ((Session.empty config shared).after env history).roll)
        history := by
  constructor
  · refine numbering (fun requests => (after a requests).1) rfl (fun before request => ?_) requests
    have hlast : after a (before ++ [request]) = request.step (after a before) := by
      simp [after]
    rw [hlast]
    exact request.step_turn (after a before).1 (after a before).2
  · refine numbering (fun history => ((Session.empty config shared).after env history).roll)
      (Session.empty_roll config shared) (fun before operation => ?_) history
    have hs := (Session.empty_coherent config shared).after env before
    rw [Session.after_append]
    exact Session.step_turn hs env operation

namespace Sample

/-- The sample module is built under a name. -/
def build (name : String) (id : Nat) : Request :=
  .build Negotiation.Sample.getters name (.custom 0) id

/-- Two drivers are built and the first is removed. -/
def removed : List Request :=
  [build "a" 0, build "z" 1, .remove "a"]

end Sample

/-- Another driver, built after the first of two was removed, gets the number of the second, and comes
before it when the builder is drained, which keeps drivers of one number in the order of their names. -/
theorem numbering_after_gap :
    (¬∀ before rest, Sample.removed ++ [Sample.build "c" 2] = before ++ rest →
        (after Negotiation.Sample.ambient before).1.Ordered) ∧
      ((after Negotiation.Sample.ambient (Sample.removed ++ [Sample.build "c" 2])).1.built.map
          fun driver => (driver.name, driver.index)) = [("z", 1), ("c", 1)] ∧
      ((after Negotiation.Sample.ambient
        (Sample.removed ++ [Sample.build "c" 2])).1.builder.drain.map (·.name)) = ["c", "z"] := by
  obtain ⟨hnumbering, -⟩ := numbering_after Negotiation.Sample.ambient
    (Sample.removed ++ [Sample.build "c" 2])
    (⟨fun _ => false, fun _ _ => none, fun _ _ _ memory host => ⟨.success, memory, host, []⟩,
      fun _ _ _ => (0, []), fun _ _ _ _ _ => []⟩ : Environment Unit)
    Config.default (Shared.start .info ()) []
  refine ⟨fun hordered => ?_, by decide +kernel, ?_⟩
  · have hgapless := hnumbering.ordered.1 hordered Sample.removed (Sample.build "c" 2) [] rfl
      ⟨_, rfl⟩
    unfold Roll.Gapless at hgapless
    revert hgapless
    decide +kernel
  · have hdrain : (after Negotiation.Sample.ambient
        (Sample.removed ++ [Sample.build "c" 2])).1.builder.drain =
          (after Negotiation.Sample.ambient
            (Sample.removed ++ [Sample.build "c" 2])).1.builder.drivers :=
      List.mergeSort_of_pairwise (by decide +kernel)
    rw [hdrain]
    decide +kernel

end Builder
end DriverLoader
