/-
# Who refers to a driver

A driver's tables are referred to by the list of loaded drivers, by the builder, by the records of the
registry, and by whoever holds tables or records outside the loader.  Whether a driver may be unloaded
is decided by counting these references, so the count has to be exact in every state.

`Session.Accountable` collects what the count rests on: drivers, tables and handles agree, the loaded
drivers have distinct identities, and the records of the registry are consistent.  Every operation keeps
it (`Shift.accountable`), and it does not matter which references are held outside
(`Accountable.holding`).  Of a loaded driver the list and the builder then hold one reference each
(`Accountable.references_eq`), and any other is one that `isHeld` sees.
-/

import DriverLoader.Proofs.Loader.Coherence
import DriverLoader.Proofs.Registry.Consistency

namespace DriverLoader
namespace Session

variable {ω : Type} {s s' : Session ω}

/-- A driver's tables or one of its records are held outside the loader. -/
def isHeld (s : Session ω) (driver : Driver) : Bool :=
  s.heldDrivers.any (·.id = driver.id) || s.loader.registry.lends driver

/-- The session in which these tables and records are held outside, and no others. -/
def holding (s : Session ω) (drivers : List Driver) (records : List HandleRecord) : Session ω :=
  { s with
    heldDrivers := drivers
    loader := { s.loader with registry := { s.loader.registry with lent := records } } }

/-- References to drivers can be counted. -/
structure Accountable (s : Session ω) : Prop where
  coherent : s.Coherent
  /-- No two loaded drivers have the same tables. -/
  distinct : (s.loader.loaded.map (·.id)).Nodup
  consistent : s.loader.registry.Consistent

/-- Among drivers with distinct identities, each is there once. -/
theorem length_filter_id {drivers : List Driver} (hdistinct : (drivers.map (·.id)).Nodup)
    {driver : Driver} (hmem : driver ∈ drivers) :
    (drivers.filter (·.id = driver.id)).length = 1 := by
  have hcount : (drivers.map (·.id)).count driver.id = 1 :=
    List.count_eq_one_of_mem hdistinct (List.mem_map_of_mem hmem)
  rw [List.count_eq_countP, List.countP_map, List.countP_eq_length_filter] at hcount
  exact hcount

/-- **Every operation keeps references countable.**  A driver that is loaded gets an identity larger
than all that were given out. -/
theorem Shift.accountable {env : Environment ω} {operation : Operation}
    (hshift : Shift env s operation s') (hs : s.Accountable) : s'.Accountable := by
  have hcoherent := hshift.coherent hs.coherent
  cases hshift with
  | kept drivers builder next registry =>
    exact ⟨hcoherent, drivers ▸ hs.distinct, registry.consistent hs.consistent⟩
  | loaded driver module cause new id drivers builder next registry =>
    refine ⟨hcoherent, ?_, registry ▸ hs.consistent⟩
    rw [drivers, List.map_append]
    refine List.nodup_append_comm.1 (List.nodup_cons.2 ⟨fun hmem => ?_, hs.distinct⟩)
    obtain ⟨other, hother, heq⟩ := List.mem_map.1 hmem
    exact Nat.ne_of_lt (hs.coherent.ids other hother) (heq.trans id)
  | unloaded d name cause found loader next =>
    refine ⟨hcoherent, ?_, ?_⟩
    · rw [loader, hs.coherent.loaded_dropDriver]
      exact (List.filter_sublist.map _).nodup hs.distinct
    · rw [loader]
      exact hs.consistent.shrink List.filter_sublist (List.Subset.refl _) rfl
  | emptied cause drivers builder next registry =>
    refine ⟨hcoherent, ?_, ?_⟩
    · rw [drivers]
      exact List.nodup_nil
    · rw [registry]
      exact hs.consistent.shrink (List.nil_sublist _) (List.Subset.refl _) rfl

/-- A loader that was just made has no drivers and no records. -/
theorem empty_vacant (config : Config) (shared : Shared ω) :
    (empty config shared).loader.loaded = [] ∧
      (empty config shared).loader.registry = Registry.empty := by
  refine empty_induction (P := fun s => s.loader.loaded = [] ∧ s.loader.registry = Registry.empty)
    config shared ⟨rfl, rfl⟩ (fun _ _ _ hs => hs) (fun s id hs => ?_) (fun _ hs => hs) fun _ _ hs => hs
  have hstays := pushLayer_stays id s
  exact ⟨hstays.loaded.trans hs.1, hstays.registry.trans hs.2⟩

/-- In a loader that was just made there is nothing to count. -/
theorem empty_accountable (config : Config) (shared : Shared ω) :
    (empty config shared).Accountable := by
  obtain ⟨hloaded, hregistry⟩ := empty_vacant config shared
  refine ⟨empty_coherent config shared, ?_, ?_⟩
  · rw [hloaded]
    exact List.nodup_nil
  · rw [hregistry]
    exact ⟨List.nodup_nil, nofun, nofun⟩

namespace Accountable

/-- A history keeps references countable. -/
theorem after (hs : s.Accountable) (env : Environment ω) (history : History) :
    (s.after env history).Accountable :=
  after_induction hs history fun _ operation _ _ hbefore =>
    (step_effect env _ operation).shift.accountable hbefore

/-- It does not matter which tables are held outside, nor which of the borrowed records. -/
theorem holding (hs : s.Accountable) (drivers : List Driver) {records : List HandleRecord}
    (hrecords : records ⊆ s.loader.registry.lent) : (s.holding drivers records).Accountable :=
  ⟨⟨hs.coherent.names, hs.coherent.builder, hs.coherent.ids, hs.coherent.records⟩, hs.distinct,
    hs.consistent.shrink (List.Sublist.refl _) hrecords rfl⟩

/-- Loaded drivers with the same identity are the same. -/
theorem eq_of_id (hs : s.Accountable) {driver other : Driver} (hmem : driver ∈ s.loader.loaded)
    (hother : other ∈ s.loader.loaded) (hid : driver.id = other.id) : driver = other :=
  List.inj_on_of_nodup_map hs.distinct hmem hother hid

/-- A record is owned by a loaded driver exactly if its owner is that driver. -/
theorem ownedBy_iff (hs : s.Accountable) {h : Handle} {record : HandleRecord} {driver : Driver}
    (hrecord : (h, record) ∈ s.loader.registry.records) (hmem : driver ∈ s.loader.loaded) :
    record.ownedBy driver = true ↔ record.owner = driver := by
  unfold HandleRecord.ownedBy
  rw [decide_eq_true_iff]
  exact ⟨hs.eq_of_id (hs.coherent.records h record hrecord).2 hmem, congrArg Driver.id⟩

/-- **Outside the registry a loaded driver is referred to twice,** by the list of drivers and by the
builder, and once more for each time that its tables are held. -/
theorem references_eq (hs : s.Accountable) {driver : Driver} (hmem : driver ∈ s.loader.loaded) :
    s.references driver = 2 + s.holdsOf driver := by
  have hlist : s.loader.listReferences driver = 1 := by
    have hloaded := length_filter_id hs.distinct hmem
    unfold Loader.loaded at hloaded
    rw [List.filter_map, List.length_map] at hloaded
    exact hloaded
  have hbuilder : s.loader.builder.references driver = 1 :=
    length_filter_id ((hs.coherent.builder.map _).nodup_iff.2 hs.distinct)
      (hs.coherent.builder.mem_iff.2 hmem)
  unfold references
  rw [hlist, hbuilder]

end Accountable

/-- No reference to a driver is held exactly if none of those held is to its tables. -/
theorem holdsOf_eq_zero_iff (s : Shared ω) (driver : Driver) :
    s.holdsOf driver = 0 ↔ s.heldDrivers.any (·.id = driver.id) = false := by
  simp [Shared.holdsOf]

end Session
end DriverLoader
