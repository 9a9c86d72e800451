/-
# The order in which libraries are tried

An order stands for positions in the list as it was given: a number for itself if the list is that
long, a type for the positions of all drivers that it takes, a type with a number for one of these
(`DriverOrder.Denotes`).  Several orders stand for the positions of the first, then those of the
second, and so on; of a position that comes up again only the first occurrence counts (`Firsts`).

`arrange_positions` says that the items at these positions come first and the others keep their order
behind them.  Since every position comes up exactly once in the result, nothing is lost or doubled,
even where items are equal.
-/

import DriverLoader.Discovery
import Mathlib.Data.List.Forall2
import Mathlib.Data.List.Nodup

namespace DriverLoader

/-- The elements of a list, each once, in the order in which they first occur. -/
structure Firsts {α : Type} [DecidableEq α] (all firsts : List α) : Prop where
  mem : ∀ x, x ∈ firsts ↔ x ∈ all
  ordered : firsts.Pairwise fun x y => all.idxOf x < all.idxOf y

namespace Firsts

variable {α : Type} [DecidableEq α] {all firsts : List α} {x : α}

theorem nil : Firsts ([] : List α) [] :=
  ⟨fun _ => Iff.rfl, .nil⟩

/-- No element occurs twice among the first ones. -/
theorem nodup (h : Firsts all firsts) : firsts.Nodup :=
  h.ordered.imp fun hlt heq => Nat.ne_of_lt hlt (congrArg all.idxOf heq)

/-- The list leaves no choice. -/
theorem unique {others : List α} (h : Firsts all firsts) (h' : Firsts all others) :
    firsts = others := by
  refine List.Perm.eq_of_pairwise (fun x y _ _ hxy hyx => absurd hxy (Nat.lt_asymm hyx)) h.ordered
    h'.ordered ((List.perm_ext_iff_of_nodup h.nodup h'.nodup).2 fun x => ?_)
  rw [h.mem, h'.mem]

/-- What is appended changes nothing about the order of what occurs before. -/
theorem ordered_append (h : Firsts all firsts) (more : List α) :
    firsts.Pairwise fun x y => (all ++ more).idxOf x < (all ++ more).idxOf y := by
  refine h.ordered.imp_of_mem fun hx hy hlt => ?_
  rw [List.idxOf_append_of_mem ((h.mem _).1 hx), List.idxOf_append_of_mem ((h.mem _).1 hy)]
  exact hlt

/-- An element that occurs again is passed over. -/
theorem again (h : Firsts all firsts) (hmem : x ∈ all) : Firsts (all ++ [x]) firsts := by
  refine ⟨fun y => ?_, h.ordered_append [x]⟩
  rw [h.mem, List.mem_append, List.mem_singleton]
  refine ⟨Or.inl, ?_⟩
  rintro (hy | rfl)
  · exact hy
  · exact hmem

/-- An element that has not occurred comes last. -/
theorem concat (h : Firsts all firsts) (hnew : x ∉ all) : Firsts (all ++ [x]) (firsts ++ [x]) := by
  refine ⟨fun y => ?_, List.pairwise_append.2 ⟨h.ordered_append [x], List.pairwise_singleton .., ?_⟩⟩
  · rw [List.mem_append, List.mem_append, h.mem]
  · intro y hy z hz
    obtain rfl := List.mem_singleton.1 hz
    have hy := (h.mem y).1 hy
    rw [List.idxOf_append_of_mem hy, List.idxOf_append_of_notMem hnew]
    exact Nat.lt_of_lt_of_le (List.idxOf_lt_length_iff.2 hy) (Nat.le_add_right ..)

end Firsts

/-- A type takes the drivers of its own kind; the type of neural processing units also takes those of
no recognised kind. -/
theorem DriverType.selects_iff {type kind : DriverType} :
    type.selects kind = true ↔ kind = type ∨ (type = npu ∧ kind = other) := by
  simp [selects]

namespace DriverOrder

/-- The positions in a list of kinds that an order stands for. -/
inductive Denotes (kinds : List DriverType) : DriverOrder → List Nat → Prop where
  | within {position : Nat} (inside : position < kinds.length) :
      Denotes kinds (.index position) [position]
  | beyond {position : Nat} (outside : kinds.length ≤ position) : Denotes kinds (.index position) []
  | every {type : DriverType} {positions : List Nat} (ascending : positions.Pairwise (· < ·))
      (mem : ∀ i, i ∈ positions ↔
        ∃ kind, kinds[i]? = some kind ∧ (kind = type ∨ (type = .npu ∧ kind = .other))) :
      Denotes kinds (.type type) positions
  | nth {type : DriverType} {positions : List Nat} {n i : Nat}
      (all : Denotes kinds (.type type) positions) (there : positions[n]? = some i) :
      Denotes kinds (.typeIndex type n) [i]
  | few {type : DriverType} {positions : List Nat} {n : Nat}
      (all : Denotes kinds (.type type) positions) (short : positions.length ≤ n) :
      Denotes kinds (.typeIndex type n) []

variable {kinds : List DriverType}

/-- The positions of a type are those of the drivers of this kind; `npu` takes in those of the kind
`other`. -/
theorem mem_positions_iff {type : DriverType} {i : Nat} :
    i ∈ positions kinds type ↔
      ∃ kind, kinds[i]? = some kind ∧ (kind = type ∨ (type = .npu ∧ kind = .other)) := by
  unfold positions
  rw [List.mem_filter, List.mem_range, Option.any_eq_true]
  simp only [DriverType.selects_iff]
  refine and_iff_right_of_imp ?_
  rintro ⟨kind, hkind, -⟩
  exact (List.getElem?_eq_some_iff.1 hkind).1

/-- The positions of a type ascend. -/
theorem positions_ascending (kinds : List DriverType) (type : DriverType) :
    (positions kinds type).Pairwise (· < ·) :=
  List.pairwise_lt_range.filter _

/-- What the arrangement selects for an order is what the order denotes. -/
theorem selected_denotes (kinds : List DriverType) (order : DriverOrder) :
    Denotes kinds order (selected kinds order) := by
  have hevery : ∀ type, Denotes kinds (.type type) (positions kinds type) := fun type =>
    .every (positions_ascending kinds type) fun i => mem_positions_iff
  cases order with
  | index position =>
    show Denotes kinds _ (if position < kinds.length then [position] else [])
    split
    · rename_i hinside
      exact .within hinside
    · rename_i houtside
      exact .beyond (Nat.le_of_not_lt houtside)
  | type type => exact hevery type
  | typeIndex type n =>
    show Denotes kinds _ (positions kinds type)[n]?.toList
    cases hget : (positions kinds type)[n]? with
    | some i => exact .nth (hevery type) hget
    | none => exact .few (hevery type) (List.getElem?_eq_none_iff.1 hget)

/-- An order leaves no choice. -/
theorem Denotes.eq_selected {order : DriverOrder} {chosen : List Nat}
    (hdenotes : Denotes kinds order chosen) : chosen = selected kinds order := by
  induction hdenotes with
  | within inside => exact (if_pos inside).symm
  | beyond outside => exact (if_neg (Nat.not_lt.2 outside)).symm
  | @every type listed ascending mem =>
    have hascending := positions_ascending kinds type
    refine List.Perm.eq_of_pairwise (fun i j _ _ hij hji => absurd hij (Nat.lt_asymm hji)) ascending
      hascending ?_
    refine (List.perm_ext_iff_of_nodup (ascending.imp Nat.ne_of_lt)
      (hascending.imp Nat.ne_of_lt)).2 fun i => ?_
    exact (mem i).trans mem_positions_iff.symm
  | @nth type listed n i all there ih =>
    show [i] = (positions kinds type)[n]?.toList
    rw [show positions kinds type = listed from ih.symm, there]
    rfl
  | @few type listed n all short ih =>
    show [] = (positions kinds type)[n]?.toList
    rw [show positions kinds type = listed from ih.symm, List.getElem?_eq_none short]
    rfl

/-- Orders denote one list of positions each. -/
theorem forall₂_denotes_iff {orders : List DriverOrder} {expansion : List (List Nat)} :
    List.Forall₂ (Denotes kinds) orders expansion ↔ expansion = orders.map (selected kinds) := by
  have hiff : Denotes kinds = fun order chosen => selected kinds order = chosen := by
    funext order chosen
    exact propext ⟨fun h => h.eq_selected.symm, fun h => h ▸ selected_denotes kinds order⟩
  rw [hiff, ← List.forall₂_map_left_iff (R := Eq), List.forall₂_eq_eq_eq, eq_comm]

/-- The positions that are picked are inside the list. -/
theorem lt_of_mem_selected {order : DriverOrder} {i : Nat} (hmem : i ∈ selected kinds order) :
    i < kinds.length := by
  have hevery : ∀ {type}, i ∈ positions kinds type → i < kinds.length := fun h =>
    List.mem_range.1 (List.mem_filter.1 h).1
  cases order with
  | index position =>
    obtain ⟨hinside, hmem⟩ := List.mem_ite_nil_right.1 hmem
    exact List.mem_singleton.1 hmem ▸ hinside
  | type type => exact hevery hmem
  | typeIndex type n => exact hevery (List.mem_of_getElem? (Option.mem_toList.1 hmem))

/-- Picking keeps the first occurrence of each position. -/
theorem Firsts.foldl_pick {before picked : List Nat} (h : Firsts before picked) (more : List Nat) :
    Firsts (before ++ more) (more.foldl pick picked) := by
  induction more generalizing before picked with
  | nil => rwa [List.append_nil]
  | cons i rest ih =>
    have hstep : Firsts (before ++ [i]) (pick picked i) := by
      unfold pick
      split
      · exact h.again ((h.mem i).1 (List.contains_iff_mem.1 ‹_›))
      · exact h.concat fun hmem => ‹¬_› (List.contains_iff_mem.2 ((h.mem i).2 hmem))
    simpa using ih hstep

/-- The positions that are picked are the first occurrences among those that the orders select. -/
theorem firsts_picks (kinds : List DriverType) (orders : List DriverOrder) :
    Firsts (orders.map (selected kinds)).flatten (picks kinds orders) := by
  rw [← List.flatMap_def]
  exact Firsts.foldl_pick .nil _

/-- Positions inside a list can be looked up without a miss. -/
theorem filterMap_getElem? {α : Type} (items : List α) {positions : List Nat}
    (hinside : ∀ i ∈ positions, i < items.length) :
    positions.filterMap (items[·]?) = (positions.pmap Fin.mk hinside).map items.get := by
  induction positions with
  | nil => rfl
  | cons i rest ih =>
    obtain ⟨hi, hrest⟩ := List.forall_mem_cons.1 hinside
    rw [List.filterMap_cons, List.getElem?_eq_getElem hi, ih hrest]
    rfl

/-- The items that stay behind, by their positions. -/
theorem filter_zipIdx {α : Type} (items : List α) (keep : Nat → Bool) :
    (items.zipIdx.filter fun (_, i) => keep i).map Prod.fst
      = ((List.finRange items.length).filter fun i => keep i.val).map items.get := by
  have hzip : items.zipIdx = (List.finRange items.length).map fun i => (items.get i, i.val) := by
    refine List.ext_getElem (by simp) fun i _ _ => ?_
    simp
  rw [hzip, List.filter_map, List.map_map]
  rfl

/-- The picked positions come first and the others, in ascending order, behind them. -/
theorem arrange_eq {α : Type} (items : List α) (kind : α → DriverType)
    (orders : List DriverOrder) :
    ∃ selected rest : List (Fin items.length),
      selected.map (·.val) = picks (items.map kind) orders ∧
        (rest.Pairwise (· < ·) ∧ ∀ i, i ∈ rest ↔ i ∉ selected) ∧
        arrange items kind orders = selected.map items.get ++ rest.map items.get := by
  have hinside : ∀ i ∈ picks (items.map kind) orders, i < items.length := by
    intro i hmem
    obtain ⟨chosen, hchosen, hi⟩ :=
      List.mem_flatten.1 (((firsts_picks (items.map kind) orders).mem i).1 hmem)
    obtain ⟨order, -, rfl⟩ := List.mem_map.1 hchosen
    simpa using lt_of_mem_selected hi
  refine ⟨(picks (items.map kind) orders).pmap Fin.mk hinside,
    (List.finRange items.length).filter fun i => !(picks (items.map kind) orders).contains i.val,
    by simp [List.map_pmap], ⟨(List.pairwise_lt_finRange _).filter _, fun i => ?_⟩, ?_⟩
  · simp [List.mem_pmap, Fin.ext_iff]
  · exact congrArg₂ (· ++ ·) (filterMap_getElem? items hinside)
      (filter_zipIdx items fun i => !(picks (items.map kind) orders).contains i)

/-- Selected positions and all others are all positions. -/
theorem append_perm_finRange {n : Nat} {selected rest : List (Fin n)} (hselected : selected.Nodup)
    (hrest : rest.Nodup) (hothers : ∀ i, i ∈ rest ↔ i ∉ selected) :
    (selected ++ rest).Perm (List.finRange n) := by
  have hnodup : (selected ++ rest).Nodup :=
    hselected.append hrest fun i hi hi' => (hothers i).1 hi' hi
  refine (List.perm_ext_iff_of_nodup hnodup (List.nodup_finRange n)).2 fun i => ?_
  rw [List.mem_append, hothers]
  exact iff_of_true (Classical.em _) (List.mem_finRange i)

/-- **Selected items come first, each once, and the others keep their order.**  For every list of items,
also of equal ones, every classification of them and every list of orders:

* The orders stand for positions in the list, and leave no choice which.
* The result is the items at these positions, each position at its first occurrence from left to right,
  and behind them the items at all other positions in ascending order.
* Every position comes up exactly once, so the result is a permutation of the items.
* If the orders stand for no position at all, the items stay as they are. -/
theorem arrange_positions {α : Type} (items : List α) (kind : α → DriverType)
    (orders : List DriverOrder) :
    ∃ (expansion : List (List Nat)) (selected rest : List (Fin items.length)),
      (∀ chosen, List.Forall₂ (Denotes (items.map kind)) orders chosen ↔ chosen = expansion) ∧
        Firsts expansion.flatten (selected.map (·.val)) ∧
        (rest.Pairwise (· < ·) ∧ ∀ i, i ∈ rest ↔ i ∉ selected) ∧
        arrange items kind orders = selected.map items.get ++ rest.map items.get ∧
        (selected ++ rest).Perm (List.finRange items.length) ∧
        (arrange items kind orders).Perm items ∧
        ((∀ chosen ∈ expansion, chosen = []) → arrange items kind orders = items) := by
  obtain ⟨selected, rest, hpicks, ⟨hascending, hothers⟩, harrange⟩ := arrange_eq items kind orders
  have hfirsts := firsts_picks (items.map kind) orders
  rw [← hpicks] at hfirsts
  have hperm := append_perm_finRange (.of_map _ hfirsts.nodup) (hascending.imp Fin.ne_of_lt) hothers
  have hall : (List.finRange items.length).map items.get = items := List.map_get_finRange items
  refine ⟨_, selected, rest, fun _ => forall₂_denotes_iff, hfirsts, ⟨hascending, hothers⟩, harrange,
    hperm, ?_, fun hnone => ?_⟩
  · have hmapped := hperm.map items.get
    rw [List.map_append, ← harrange, hall] at hmapped
    exact hmapped
  · have hempty : selected = [] := by
      refine List.eq_nil_iff_forall_not_mem.2 fun i hmem => ?_
      obtain ⟨chosen, hchosen, hi⟩ :=
        List.mem_flatten.1 ((hfirsts.mem i.val).1 (List.mem_map_of_mem hmem))
      rw [hnone chosen hchosen] at hi
      cases hi
    subst hempty
    have hrest : rest = List.finRange items.length :=
      hperm.eq_of_pairwise (fun i j _ _ hij hji => absurd hij (Fin.lt_asymm hji)) hascending
        (List.pairwise_lt_finRange _)
    rw [harrange, hrest, hall]
    rfl

/-- The type with a number counts in the list as it was given, and what it selects was selected
before. -/
example :
    arrange ["dgpu0", "npu0", "other0", "dgpu1", "npu1"] DriverType.classify
        [.typeIndex .npu 1, .type .npu, .index 9, .index 3]
      = ["other0", "npu0", "npu1", "dgpu1", "dgpu0"] := by
  decide +kernel

end DriverOrder
end DriverLoader
