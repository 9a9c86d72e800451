/-
# What adoption binds

Whether a registry admits a handle depends on the record of that handle alone.  Adopting many handles
therefore binds exactly those that are not null and were not live, each to the driver that it was seen
from first (`find?_adoptEach_of_admits`), and leaves every other record as it was
(`find?_adoptEach_of_kept`): a handle that comes twice is bound once, because its first record is live
when it comes again.
-/

import DriverLoader.Registry

namespace DriverLoader
namespace Registry

/-- A handle is admitted exactly if it is neither null nor live. -/
theorem admits_eq_true_iff {r : Registry} {h : Handle} :
    r.admits h = true ↔ h ≠ Handle.null ∧ r.isLive h = false := by
  simp [admits, Handle.isNull]

/-- A handle is turned away exactly if it is null or live. -/
theorem admits_eq_false_iff {r : Registry} {h : Handle} :
    r.admits h = false ↔ h = Handle.null ∨ r.isLive h = true := by
  by_cases hnull : h = Handle.null <;> simp [admits, Handle.isNull, hnull]

/-- Whether a handle is live depends on its record alone. -/
theorem isLive_congr {r r' : Registry} {h : Handle} (hfind : r.find? h = r'.find? h) :
    r.isLive h = r'.isLive h := by
  unfold isLive
  rw [hfind]

/-- Two registries that agree on a handle agree on whether they admit it. -/
theorem admits_congr {r r' : Registry} {h : Handle} (hfind : r.find? h = r'.find? h) :
    r.admits h = r'.admits h := by
  unfold admits
  rw [isLive_congr hfind]

/-- Serial numbers are given out in ascending order. -/
theorem nextSerial_le_adopt (r : Registry) (driver : Driver) (h : Handle) :
    r.nextSerial ≤ (r.adopt driver h).nextSerial := by
  unfold adopt
  split
  · exact Nat.le_succ r.nextSerial
  · exact Nat.le_refl r.nextSerial

/-- A handle is admitted at most once in a row. -/
theorem admits_adopt_self (r : Registry) (driver : Driver) (h : Handle) :
    (r.adopt driver h).admits h = false := by
  cases hadmits : r.admits h with
  | true =>
    rw [admits_eq_false_iff]
    refine Or.inr ?_
    unfold isLive
    rw [find?_adopt_self hadmits]
    rfl
  | false => rw [adopt_of_not_admits hadmits, hadmits]

/-! ### Many handles -/

/-- The registry after handles were seen, each from a driver of its own. -/
def adoptEach (r : Registry) (found : List (Handle × Driver)) : Registry :=
  found.foldl (fun r seen => r.adopt seen.2 seen.1) r

/-- Handles can be adopted in two parts. -/
theorem adoptEach_append (r : Registry) (first second : List (Handle × Driver)) :
    r.adoptEach (first ++ second) = (r.adoptEach first).adoptEach second :=
  List.foldl_append

/-- Handles that are all adopted for one driver are adopted for it. -/
theorem adoptEach_map (r : Registry) (driver : Driver) (hs : List Handle) :
    r.adoptEach (hs.map (·, driver)) = r.adoptAll driver hs :=
  List.foldl_map

/-- Adopting handles leaves the record of a handle alone that is not among them, or that the registry
does not admit. -/
theorem find?_adoptEach_of_kept {r : Registry} {found : List (Handle × Driver)} {h : Handle}
    (hkept : h ∉ found.map Prod.fst ∨ r.admits h = false) :
    (r.adoptEach found).find? h = r.find? h := by
  unfold adoptEach
  induction found generalizing r with
  | nil => rfl
  | cons seen rest ih =>
    rw [List.map_cons] at hkept
    have hfind : (r.adopt seen.2 seen.1).find? h = r.find? h := by
      by_cases heq : h = seen.1
      · have hadmits := hkept.resolve_left fun hnot => hnot (heq ▸ List.mem_cons_self)
        rw [← heq, adopt_of_not_admits hadmits]
      · exact find?_adopt_of_ne heq r seen.2
    refine (ih ?_).trans hfind
    rw [admits_congr hfind]
    exact hkept.imp_left fun hnot hmem => hnot (List.mem_cons_of_mem _ hmem)

/-- A handle that the registry admits gets a fresh live record of the driver that it was seen from
first. -/
theorem find?_adoptEach_of_admits {r : Registry} {found : List (Handle × Driver)} {h : Handle}
    {driver : Driver} (hfirst : found.lookup h = some driver) (hadmits : r.admits h = true) :
    ∃ serial, r.nextSerial ≤ serial ∧
      (r.adoptEach found).find? h = some ⟨serial, driver, true⟩ := by
  induction found generalizing r with
  | nil => cases hfirst
  | cons seen rest ih =>
    obtain ⟨key, owner⟩ := seen
    by_cases heq : h = key
    · subst heq
      rw [List.lookup_cons_self] at hfirst
      obtain rfl := Option.some.inj hfirst
      refine ⟨r.nextSerial, Nat.le_refl _, ?_⟩
      exact (find?_adoptEach_of_kept (Or.inr (admits_adopt_self r owner h))).trans
        (find?_adopt_self hadmits owner)
    · rw [List.lookup_cons, beq_false_of_ne heq] at hfirst
      have hfind := find?_adopt_of_ne heq r owner
      obtain ⟨serial, hle, hbound⟩ := ih hfirst ((admits_congr hfind).trans hadmits)
      exact ⟨serial, Nat.le_trans (nextSerial_le_adopt r owner key) hle, hbound⟩

/-- Adopting handles for one driver leaves the record of a handle alone that is not among them, or that
the registry does not admit. -/
theorem find?_adoptAll_of_kept {r : Registry} {hs : List Handle} {h : Handle}
    (hkept : h ∉ hs ∨ r.admits h = false) (driver : Driver) :
    (r.adoptAll driver hs).find? h = r.find? h := by
  rw [← adoptEach_map]
  refine find?_adoptEach_of_kept (hkept.imp_left fun hnot => ?_)
  rwa [List.map_map, show Prod.fst ∘ (·, driver) = id from rfl, List.map_id]

/-- Adopting handles gives each that the registry admits a fresh live record of the driver. -/
theorem find?_adoptAll_of_admits {r : Registry} {hs : List Handle} {h : Handle} (hmem : h ∈ hs)
    (hadmits : r.admits h = true) (driver : Driver) :
    ∃ serial, r.nextSerial ≤ serial ∧
      (r.adoptAll driver hs).find? h = some ⟨serial, driver, true⟩ := by
  have hlookup : (hs.map (·, driver)).lookup h = some driver := by
    induction hs with
    | nil => cases hmem
    | cons first rest ih =>
      rw [List.map_cons, List.lookup_cons]
      by_cases heq : h = first
      · rw [heq, beq_self_eq_true]
      · rw [beq_false_of_ne heq]
        exact ih ((List.mem_cons.1 hmem).resolve_left heq)
  rw [← adoptEach_map]
  exact find?_adoptEach_of_admits hlookup hadmits

end Registry
end DriverLoader
