/-
# Unloading a driver

An unload is refused if no driver of the name is loaded, or if somebody outside the loader refers to the
driver's tables or to one of its records; a refused unload changes nothing but the log.  Every other
unload goes through: exactly that driver leaves the list and the builder, exactly its records leave the
registry, and its sub-tables are released.

An unload drops the records before it releases the tables, and the release can fail too.  It never does:
once the records are gone nothing refers to the tables any more (`Accountable.references_dropDriver`), so
no unload fails half way (`Accountable.unload_of_free`).
-/

import DriverLoader.Proofs.Loader.Accounting
import DriverLoader.Proofs.Loader.Routing

namespace DriverLoader

/-- Once the records of a driver are purged and none of them is borrowed, the registry does not refer to
the driver. -/
theorem Registry.references_purge {r : Registry} {driver : Driver} (hlends : r.lends driver = false) :
    (r.purge driver).references driver = 0 := by
  have howned : (r.purge driver).owned driver = [] := by
    unfold owned purge
    rw [List.filter_eq_nil_iff]
    intro record hmem
    obtain ⟨⟨h, kept⟩, hkept, rfl⟩ := List.mem_map.1 hmem
    simpa using (List.mem_filter.1 hkept).2
  have houtliving : (r.purge driver).outliving driver = 0 := by
    rw [outliving_eq_zero_iff]
    intro record hlent hrecord
    exact absurd hrecord (List.any_eq_false.1 hlends record hlent)
  unfold references
  rw [howned, houtliving]
  rfl

namespace Session

variable {ω : Type} {s : Session ω} {d : LoadedDriver} {name : String}

/-- The loader from which a driver is gone, with its records. -/
def without (l : Loader) (driver : Driver) : Loader :=
  dropDriver { l with registry := l.registry.purge driver } driver.name

/-- The driver found under a name is the only loaded one of this name. -/
theorem Coherent.find?_eq_some_iff (hs : s.Coherent) :
    s.loader.find? name = some d ↔ d ∈ s.loader.drivers ∧ d.driver.name = name :=
  Session.find?_eq_some_iff hs.names

/-- Drivers of other names have other identities. -/
theorem filter_others_eq_nil {drivers : List Driver} (hdistinct : (drivers.map (·.id)).Nodup)
    {driver : Driver} (hmem : driver ∈ drivers) :
    ((drivers.filter fun other => other.name ≠ driver.name).filter (·.id = driver.id)) = [] := by
  rw [List.filter_eq_nil_iff]
  intro other hother hid
  obtain ⟨hother, hname⟩ := List.mem_filter.1 hother
  have heq := List.inj_on_of_nodup_map hdistinct hother hmem (of_decide_eq_true hid)
  exact of_decide_eq_true hname (congrArg Driver.name heq)

/-- Tables that nothing refers to are released. -/
theorem releaseTables_of_unreferenced {driver : Driver}
    (hnone : s.references driver + s.loader.registry.references driver = 0) :
    (s.releaseTables driver).1 = .ok driver.populated := by
  unfold releaseTables
  rw [if_pos hnone]
  rfl

namespace Accountable

/-- **Nothing refers to a driver that has left,** if none of its references was held outside. -/
theorem references_dropDriver (hs : s.Accountable) (hmem : d.driver ∈ s.loader.loaded)
    (hfree : s.isHeld d.driver = false) :
    let s' : Session ω := { s with loader := without s.loader d.driver }
    s'.references d.driver + s'.loader.registry.references d.driver = 0 := by
  intro s'
  obtain ⟨hheld, hlends⟩ := Bool.or_eq_false_iff.1 hfree
  have hlist : s'.loader.listReferences d.driver = 0 := by
    have hloaded := congrArg List.length (filter_others_eq_nil hs.distinct hmem)
    rw [← hs.coherent.loaded_dropDriver (s.loader.registry.purge d.driver)] at hloaded
    unfold Loader.loaded at hloaded
    rw [List.filter_map, List.length_map] at hloaded
    exact hloaded
  have hbuilder : s'.loader.builder.references d.driver = 0 :=
    congrArg List.length (filter_others_eq_nil ((hs.coherent.builder.map _).nodup_iff.2 hs.distinct)
      (hs.coherent.builder.mem_iff.2 hmem))
  have hheld' : s'.holdsOf d.driver = 0 := (holdsOf_eq_zero_iff s.toShared d.driver).2 hheld
  have hregistry : s'.loader.registry.references d.driver = 0 := Registry.references_purge hlends
  unfold references
  rw [hlist, hbuilder, hheld', hregistry]

/-- Whether the records of a loaded driver may be dropped depends on what is held outside alone. -/
theorem purgeExclusive?_eq (hs : s.Accountable) (hfound : s.loader.find? name = some d) :
    s.loader.registry.purgeExclusive? d.driver
        (1 + if s.loader.builder.contains name then 1 else 0) (s.references d.driver)
      = if s.isHeld d.driver then none else some (s.loader.registry.purge d.driver) := by
  have hmem : d.driver ∈ s.loader.loaded :=
    List.mem_map_of_mem (hs.coherent.find?_eq_some_iff.1 hfound).1
  have hcontains : s.loader.builder.contains name = true := by
    unfold Builder.contains
    rw [hs.coherent.find?, hfound]
    rfl
  rw [if_pos hcontains, hs.references_eq hmem, hs.consistent.purgeExclusive?_eq]
  cases hheld : s.isHeld d.driver with
  | true =>
    refine if_neg fun ⟨hnone, hlends⟩ => ?_
    have hfree : s.isHeld d.driver = false :=
      Bool.or_eq_false_iff.2 ⟨(holdsOf_eq_zero_iff s.toShared d.driver).1 hnone, hlends⟩
    exact Bool.noConfusion (hheld.symm.trans hfree)
  | false =>
    obtain ⟨hnone, hlends⟩ := Bool.or_eq_false_iff.1 hheld
    exact if_pos ⟨(holdsOf_eq_zero_iff s.toShared d.driver).2 hnone, hlends⟩

/-- A driver that is held outside stays. -/
theorem unload_of_held (hs : s.Accountable) (hfound : s.loader.find? name = some d)
    (hheld : s.isHeld d.driver = true) :
    s.unload name = (.error .tableInUse, s.write .warn s!"{name}: tables still in use") := by
  have hpurge := hs.purgeExclusive?_eq hfound
  rw [hheld, if_pos rfl] at hpurge
  unfold unload
  rw [hfound]
  dsimp only
  rw [hpurge]

/-- A driver that nobody holds goes, and all its sub-tables are released. -/
theorem unload_of_free (hs : s.Accountable) (hfound : s.loader.find? name = some d)
    (hfree : s.isHeld d.driver = false) :
    (s.unload name).1 = .ok d.driver.populated ∧
      (s.unload name).2.loader = without s.loader d.driver := by
  obtain ⟨hmem, rfl⟩ := hs.coherent.find?_eq_some_iff.1 hfound
  have hpurge := hs.purgeExclusive?_eq hfound
  rw [hfree, if_neg Bool.false_ne_true] at hpurge
  let s' : Session ω :=
    { s with
      loader :=
        dropDriver { s.loader with registry := s.loader.registry.purge d.driver } d.driver.name }
  have hreleased : (s'.releaseTables d.driver).1 = .ok d.driver.populated :=
    releaseTables_of_unreferenced (hs.references_dropDriver (List.mem_map_of_mem hmem) hfree)
  have hidles := releaseTables_idles d.driver s'
  unfold unload
  rw [hfound]
  dsimp only
  rw [hpurge]
  dsimp only
  split
  · rename_i failure s₁ heq
    rw [heq] at hreleased
    cases hreleased
  · rename_i released s₁ heq
    rw [heq] at hreleased hidles
    exact ⟨hreleased, hidles.loader⟩

end Accountable

/-- A driver has left with its records, and everything else is where it was. -/
structure Left (s : Session ω) (d : LoadedDriver) (s' : Session ω) : Prop where
  /-- The other drivers keep their places and statuses. -/
  drivers : ∃ before after, s.loader.drivers = before ++ d :: after ∧
    s'.loader.drivers = before ++ after
  builder : ∃ before after, s.loader.builder.drivers = before ++ d.driver :: after ∧
    s'.loader.builder.drivers = before ++ after
  /-- The records that remain keep their order. -/
  records : s'.loader.registry.records.Sublist s.loader.registry.records
  /-- Exactly the records of other drivers remain. -/
  owners : ∀ h record, (h, record) ∈ s'.loader.registry.records ↔
    (h, record) ∈ s.loader.registry.records ∧ record.owner ≠ d.driver

/-- Dropping a driver takes away that driver and nothing else. -/
theorem Accountable.left_of_without (hs : s.Accountable) (hmem : d ∈ s.loader.drivers)
    {s' : Session ω} (hloader : s'.loader = without s.loader d.driver) : Left s d s' := by
  have hdriver : d.driver ∈ s.loader.loaded := List.mem_map_of_mem hmem
  refine ⟨?_, ?_, hloader ▸ List.filter_sublist, fun h record => ?_⟩
  · rw [hloader]
    exact eraseP_eq_append hs.coherent.names hmem
  · have hnames : (s.loader.builder.drivers.map (·.name)).Nodup :=
      (hs.coherent.builder.map _).nodup_iff.2 hs.coherent.loaded_names
    obtain ⟨before, after, hsplit, herased⟩ :=
      eraseP_eq_append hnames (hs.coherent.builder.mem_iff.2 hdriver)
    rw [eraseP_eq_filter hnames] at herased
    exact ⟨before, after, hsplit, hloader ▸ herased⟩
  · rw [hloader]
    refine List.mem_filter.trans (and_congr_right fun hrecord => ?_)
    rw [ne_eq, ← hs.ownedBy_iff hrecord hdriver]
    simp

/-- **Unloading goes through or changes nothing.**  In every state that a history leads to, whichever
tables are held outside and whichever of the borrowed records:

* An unload is refused with "not found" exactly if no driver of the name is loaded, and with "in use"
  exactly if the driver's tables or one of its records are held outside.  A refused unload leaves the
  whole loader as it was.
* Every other unload succeeds and answers the number of sub-tables in the driver's three tables.  That
  driver and no other leaves the list, where the others keep their places and statuses, and the builder;
  the registry is left with the records of the other drivers, in their old order. -/
theorem after_unload (env : Environment ω) (config : Config) (shared : Shared ω) (history : History)
    (tables : List Driver) (records : List HandleRecord)
    (hrecords : records ⊆ ((empty config shared).after env history).loader.registry.lent)
    (name : String) :
    let s := ((empty config shared).after env history).holding tables records
    let outcome := s.unload name
    (outcome.1 = .error .driverNotFound ↔ name ∉ s.loader.names) ∧
      (outcome.1 = .error .tableInUse ↔
        ∃ d ∈ s.loader.drivers, d.driver.name = name ∧ s.isHeld d.driver = true) ∧
      (∀ failure, outcome.1 = .error failure → outcome.2.loader = s.loader) ∧
      ∀ d ∈ s.loader.drivers, d.driver.name = name → s.isHeld d.driver = false →
        outcome.1 = .ok d.driver.populated ∧ Left s d outcome.2 := by
  intro s outcome
  have hs : s.Accountable :=
    ((empty_accountable config shared).after env history).holding tables hrecords
  have hfind : ∀ d, s.loader.find? name = some d ↔ d ∈ s.loader.drivers ∧ d.driver.name = name :=
    fun _ => hs.coherent.find?_eq_some_iff
  cases hfound : s.loader.find? name with
  | none =>
    have hnone : ∀ d ∈ s.loader.drivers, d.driver.name ≠ name := fun d hmem hname => by
      rw [(hfind d).2 ⟨hmem, hname⟩] at hfound
      cases hfound
    have houtcome : outcome = (.error .driverNotFound, s) := by
      show s.unload name = _
      unfold unload
      rw [hfound]
    rw [houtcome]
    refine ⟨⟨fun _ hmem => ?_, fun _ => rfl⟩, ⟨nofun, ?_⟩, fun _ _ => rfl, ?_⟩
    · obtain ⟨d, hd, hname⟩ := List.mem_map.1 hmem
      exact hnone d hd hname
    · rintro ⟨d, hmem, hname, -⟩
      exact absurd hname (hnone d hmem)
    · exact fun d hmem hname => absurd hname (hnone d hmem)
  | some d =>
    obtain ⟨hmem, hname⟩ := (hfind d).1 hfound
    have honly : ∀ other ∈ s.loader.drivers, other.driver.name = name → other = d :=
      fun other hother heq => Option.some.inj (((hfind other).2 ⟨hother, heq⟩).symm.trans hfound)
    have hloaded : ¬name ∉ s.loader.names := not_not_intro (List.mem_map.2 ⟨d, hmem, hname⟩)
    cases hheld : s.isHeld d.driver with
    | true =>
      rw [show outcome = _ from hs.unload_of_held hfound hheld]
      refine ⟨⟨nofun, fun h => absurd h hloaded⟩, ⟨fun _ => ⟨d, hmem, hname, hheld⟩, fun _ => rfl⟩,
        fun _ _ => rfl, fun other hother heq hfree => ?_⟩
      rw [honly other hother heq, hheld] at hfree
      cases hfree
    | false =>
      obtain ⟨hanswer, hloader⟩ := hs.unload_of_free hfound hheld
      rw [show outcome.1 = _ from hanswer]
      refine ⟨⟨nofun, fun h => absurd h hloaded⟩, ⟨nofun, ?_⟩, nofun, fun other hother heq _ => ?_⟩
      · rintro ⟨other, hother, heq, hother'⟩
        rw [honly other hother heq, hheld] at hother'
        cases hother'
      · obtain rfl := honly other hother heq
        exact ⟨rfl, hs.left_of_without hother hloader⟩

namespace Sample

/-- A driver is loaded, its driver handle is asked for, and the record of that handle is borrowed. -/
def borrowed : History :=
  listed ++ [.holdRecord ⟨0x80800001⟩]

end Sample

/-- A borrowed record keeps its driver loaded, and once it is given back the driver can go. -/
theorem after_unload_borrowed :
    ∃ d ∈ (Sample.start.after Dispatch.Sample.environment Sample.borrowed).loader.drivers,
      (((Sample.start.after Dispatch.Sample.environment Sample.borrowed).holding []
          (Sample.start.after Dispatch.Sample.environment Sample.borrowed).loader.registry.lent).unload
            "sample").1 = .error .tableInUse ∧
        (((Sample.start.after Dispatch.Sample.environment Sample.borrowed).holding [] []).unload
          "sample").1 = .ok d.driver.populated := by
  have hnames : (Sample.start.after Dispatch.Sample.environment Sample.borrowed).loader.names
      = ["sample"] := by decide +kernel
  have hheld : ((Sample.start.after Dispatch.Sample.environment Sample.borrowed).loader.drivers.all
      fun d => ((Sample.start.after Dispatch.Sample.environment Sample.borrowed).holding []
        (Sample.start.after Dispatch.Sample.environment
          Sample.borrowed).loader.registry.lent).isHeld d.driver) = true := by decide +kernel
  obtain ⟨d, hmem, hname⟩ := List.mem_map.1 (hnames ▸ List.mem_singleton_self "sample")
  refine ⟨d, hmem, ?_, ?_⟩
  · exact (after_unload Dispatch.Sample.environment Config.default (Shared.start .info ())
      Sample.borrowed [] _ (List.Subset.refl _) "sample").2.1.2
        ⟨d, hmem, hname, List.all_eq_true.1 hheld d hmem⟩
  · exact ((after_unload Dispatch.Sample.environment Config.default (Shared.start .info ())
      Sample.borrowed [] [] (List.nil_subset _) "sample").2.2.2 d hmem hname rfl).1

end Session
end DriverLoader
