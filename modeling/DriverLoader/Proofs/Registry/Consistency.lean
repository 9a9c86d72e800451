/-
# Records that agree

A registry holds at most one record for each handle, and a serial number stands for one record, whether
the registry still holds it, somebody has borrowed it, or both.  `Registry.Consistent` says so; whatever
a registry becomes stays consistent (`Evolves.consistent`).

Two facts about the records of a driver rest on it.  Purging takes away these records and no others,
handle by handle (`find?_purge`).  And the count of references that an exclusive purge compares is exact:
the purge goes through if and only if nobody outside refers to the driver and none of its records is
borrowed, be it one that the registry has replaced since (`purgeExclusive?_eq`).
-/

import DriverLoader.Proofs.Registry.Evolution

namespace DriverLoader
namespace Registry

variable {r r' : Registry}

/-- The records that the registry holds and those that are borrowed from it. -/
def known (r : Registry) : List HandleRecord :=
  r.records.map Prod.snd ++ r.lent

/-- Some record of a driver is borrowed. -/
def lends (r : Registry) (driver : Driver) : Bool :=
  r.lent.any (·.ownedBy driver)

/-- No handle has two records, and a serial number stands for one record. -/
structure Consistent (r : Registry) : Prop where
  keys : (r.records.map Prod.fst).Nodup
  /-- Serial numbers are given out in ascending order. -/
  fresh : ∀ record ∈ r.known, record.serial < r.nextSerial
  /-- Two copies of a record may differ in validity only. -/
  owners : ∀ first ∈ r.known, ∀ second ∈ r.known, first.serial = second.serial →
    first.owner = second.owner

/-- A record is known if a handle is bound to it or somebody has borrowed it. -/
theorem mem_known_iff {record : HandleRecord} :
    record ∈ r.known ↔ (∃ h, (h, record) ∈ r.records) ∨ record ∈ r.lent := by
  simp [known]

namespace Consistent

/-- Nothing becomes inconsistent as long as no record is made. -/
theorem of_known (hr : r.Consistent) (keys : (r'.records.map Prod.fst).Nodup)
    (next : r'.nextSerial = r.nextSerial)
    (hknown : ∀ record ∈ r'.known, ∃ old ∈ r.known, old.serial = record.serial ∧
      old.owner = record.owner) : r'.Consistent := by
  refine ⟨keys, fun record hmem => ?_, fun first hfirst second hsecond hserial => ?_⟩
  · obtain ⟨old, hold, hserial, -⟩ := hknown record hmem
    rw [next, ← hserial]
    exact hr.fresh old hold
  · obtain ⟨old, hold, hs, ho⟩ := hknown first hfirst
    obtain ⟨old', hold', hs', ho'⟩ := hknown second hsecond
    rw [← ho, ← ho']
    exact hr.owners old hold old' hold' (hs.trans (hserial.trans hs'.symm))

end Consistent

/-- Binding a handle adds it behind the others, unless it is bound already. -/
theorem keys_bind (h : Handle) (record : HandleRecord) (records : List (Handle × HandleRecord)) :
    (bind h record records).map Prod.fst
      = if h ∈ records.map Prod.fst then records.map Prod.fst
        else records.map Prod.fst ++ [h] := by
  induction records with
  | nil => simp [bind]
  | cons head rest ih =>
    obtain ⟨key, old⟩ := head
    by_cases hk : key = h
    · simp [bind, hk]
    · rw [bind, if_neg hk, List.map_cons, ih]
      have hne : h ≠ key := fun heq => hk heq.symm
      by_cases hmem : h ∈ rest.map Prod.fst <;> simp [hmem, hne]

/-- Binding a handle gives it one record. -/
theorem nodup_keys_bind {records : List (Handle × HandleRecord)}
    (hkeys : (records.map Prod.fst).Nodup) (h : Handle) (record : HandleRecord) :
    ((bind h record records).map Prod.fst).Nodup := by
  rw [keys_bind]
  split
  · exact hkeys
  · rename_i hnew
    refine List.nodup_append.2 ⟨hkeys, List.nodup_cons.2 ⟨List.not_mem_nil, List.nodup_nil⟩, ?_⟩
    rintro key hold other hother rfl
    exact hnew (List.mem_singleton.1 hother ▸ hold)

/-- Adopting a handle keeps a registry consistent, since a record that is made has a new serial number.
-/
theorem Consistent.adopt (hr : r.Consistent) (driver : Driver) (h : Handle) :
    (r.adopt driver h).Consistent := by
  unfold Registry.adopt
  split
  · have hknown : ∀ record ∈ known { r with
          records := bind h ⟨r.nextSerial, driver, true⟩ r.records
          nextSerial := r.nextSerial + 1 },
        record = ⟨r.nextSerial, driver, true⟩ ∨ record ∈ r.known := by
      intro record hmem
      rcases mem_known_iff.1 hmem with ⟨key, hbound⟩ | hlent
      · rcases mem_of_mem_bind hbound with heq | hold
        · exact Or.inl (Prod.mk.inj heq).2
        · exact Or.inr (mem_known_iff.2 (Or.inl ⟨key, hold⟩))
      · exact Or.inr (mem_known_iff.2 (Or.inr hlent))
    refine ⟨nodup_keys_bind hr.keys h _, fun record hmem => ?_,
      fun first hfirst second hsecond hserial => ?_⟩
    · rcases hknown record hmem with rfl | hold
      · exact Nat.lt_succ_self _
      · exact Nat.lt_succ_of_lt (hr.fresh record hold)
    · rcases hknown first hfirst with rfl | hold <;> rcases hknown second hsecond with rfl | hold'
      · rfl
      · exact absurd hserial (Nat.ne_of_gt (hr.fresh second hold'))
      · exact absurd hserial (Nat.ne_of_lt (hr.fresh first hold))
      · exact hr.owners first hold second hold' hserial
  · exact hr

/-- Ending a handle keeps a registry consistent, since it changes the validity of one record alone. -/
theorem Consistent.release (hr : r.Consistent) (h : Handle) : (r.release h).Consistent := by
  unfold Registry.release
  split
  · exact hr
  · rename_i found hfound
    refine hr.of_known ?_ rfl fun record hmem => ?_
    · rw [List.map_map]
      exact hr.keys
    · rcases mem_known_iff.1 hmem with ⟨key, hkept⟩ | hlent
      · obtain ⟨⟨other, old⟩, hold, heq⟩ := List.mem_map.1 hkept
        obtain ⟨rfl, rfl⟩ := Prod.mk.inj heq
        refine ⟨old, mem_known_iff.2 (Or.inl ⟨other, hold⟩), ?_⟩
        split <;> exact ⟨rfl, rfl⟩
      · obtain ⟨old, hold, rfl⟩ := List.mem_map.1 hlent
        refine ⟨old, mem_known_iff.2 (Or.inr hold), ?_⟩
        unfold HandleRecord.invalidated
        split <;> exact ⟨rfl, rfl⟩

/-- Lending a record keeps a registry consistent, since what is lent is a copy of one that it holds. -/
theorem Consistent.lend (hr : r.Consistent) {h : Handle} (hlend : r.lend? h = some r') :
    r'.Consistent := by
  obtain ⟨found, hfind, rfl⟩ := Option.map_eq_some_iff.1 hlend
  have hfound : found ∈ r.known := mem_known_iff.2 (Or.inl ⟨h, mem_records_of_find? hfind⟩)
  refine hr.of_known hr.keys rfl fun record hmem => ?_
  rcases mem_known_iff.1 hmem with hkept | hlent
  · exact ⟨record, mem_known_iff.2 (Or.inl hkept), rfl, rfl⟩
  · rcases List.mem_append.1 hlent with hold | hnew
    · exact ⟨record, mem_known_iff.2 (Or.inr hold), rfl, rfl⟩
    · rw [List.mem_singleton.1 hnew]
      exact ⟨found, hfound, rfl, rfl⟩

/-- Fewer records and fewer borrowings agree as well. -/
theorem Consistent.shrink (hr : r.Consistent) (records : r'.records.Sublist r.records)
    (lent : r'.lent ⊆ r.lent) (next : r'.nextSerial = r.nextSerial) : r'.Consistent := by
  refine hr.of_known ((records.map _).nodup hr.keys) next fun record hmem => ?_
  refine ⟨record, mem_known_iff.2 ?_, rfl, rfl⟩
  exact (mem_known_iff.1 hmem).imp (fun ⟨h, hheld⟩ => ⟨h, records.subset hheld⟩) fun hlent => lent hlent

/-- **Whatever a registry becomes stays consistent.** -/
theorem Evolves.consistent {binds : Handle → Driver → Prop} {ends : Handle → Prop}
    (hevolves : Evolves binds ends r r') (hr : r.Consistent) : r'.Consistent := by
  induction hevolves with
  | refl => exact hr
  | adopt _ _ ih => exact ih.adopt _ _
  | release _ _ ih => exact ih.release _
  | lend lent _ ih => exact ih.lend lent
  | reclaim _ ih => exact ih.shrink (List.Sublist.refl _) (List.nil_subset _) rfl

/-! ### The records of one driver -/

/-- Where keys are distinct, filtering by the entries filters what is looked up. -/
theorem lookup_filter_snd {records : List (Handle × HandleRecord)}
    (hkeys : (records.map Prod.fst).Nodup) (p : HandleRecord → Bool) (h : Handle) :
    (records.filter fun (_, record) => p record).lookup h = (records.lookup h).filter p := by
  induction records with
  | nil => rfl
  | cons head rest ih =>
    obtain ⟨key, record⟩ := head
    obtain ⟨hfirst, hrest⟩ := List.nodup_cons.1 hkeys
    by_cases heq : h = key
    · subst heq
      have hnone : rest.lookup h = none := by
        rw [List.lookup_eq_none_iff]
        rintro ⟨other, kept⟩ hmem
        rw [bne_iff_ne]
        rintro rfl
        exact hfirst (List.mem_map.2 ⟨(h, kept), hmem, rfl⟩)
      by_cases hp : p record = true
      · simp [hp, Option.filter_some]
      · simp [hp, ih hrest, hnone, Option.filter_some]
    · by_cases hp : p record = true <;>
        simp [hp, List.lookup_cons, beq_eq_false_iff_ne.2 heq, ih hrest]

/-- Purging takes away the records of a driver and no others. -/
theorem Consistent.find?_purge (hr : r.Consistent) (driver : Driver) (h : Handle) :
    (r.purge driver).find? h = (r.find? h).filter fun record => !record.ownedBy driver := by
  unfold find? purge
  split
  · rfl
  · exact lookup_filter_snd hr.keys (fun record => !record.ownedBy driver) h

/-- No borrowed record of a driver outlives the registry's if each is still held. -/
theorem outliving_eq_zero_iff {driver : Driver} :
    r.outliving driver = 0 ↔
      ∀ record ∈ r.lent, record.ownedBy driver = true → r.holds record.serial = true := by
  unfold outliving
  rw [List.length_eq_zero_iff, List.filter_eq_nil_iff]
  simp only [List.mem_eraseDups, List.mem_map, List.mem_filter, Bool.not_eq_true', Bool.not_eq_false]
  constructor
  · exact fun hall record hlent howned => hall record.serial ⟨record, ⟨hlent, howned⟩, rfl⟩
  · rintro hall serial ⟨record, ⟨hlent, howned⟩, rfl⟩
    exact hall record hlent howned

/-- A driver has no borrowed record exactly if none of the records that the registry holds of it is
borrowed and no other record of it has outlived them.  A borrowed copy has the owner of its record. -/
theorem Consistent.lends_eq_false_iff (hr : r.Consistent) (driver : Driver) :
    r.lends driver = false ↔
      (r.owned driver).any (fun record => r.isLent record.serial) = false ∧
        r.outliving driver = 0 := by
  rw [outliving_eq_zero_iff]
  simp only [lends, owned, isLent, List.any_eq_false, List.mem_filter, List.mem_map,
    List.any_eq_true, Prod.exists, decide_eq_true_eq]
  constructor
  · intro hnone
    refine ⟨?_, fun record hlent howned => absurd howned (hnone record hlent)⟩
    rintro record ⟨⟨key, _, hheld, rfl⟩, howned⟩ ⟨other, hlent, hserial⟩
    have howner := hr.owners other (mem_known_iff.2 (Or.inr hlent)) _
      (mem_known_iff.2 (Or.inl ⟨key, hheld⟩)) hserial
    refine hnone other hlent ?_
    unfold HandleRecord.ownedBy at howned ⊢
    rw [howner]
    exact howned
  · rintro ⟨hheld, hout⟩ record hlent howned
    obtain ⟨⟨key, kept⟩, hmem, hserial⟩ := List.any_eq_true.1 (hout record hlent howned)
    have hserial : kept.serial = record.serial := of_decide_eq_true hserial
    have howner := hr.owners kept (mem_known_iff.2 (Or.inl ⟨key, hmem⟩)) record
      (mem_known_iff.2 (Or.inr hlent)) hserial
    refine hheld kept ⟨⟨key, kept, hmem, rfl⟩, ?_⟩ ⟨record, hlent, hserial.symm⟩
    unfold HandleRecord.ownedBy at howned ⊢
    rw [howner]
    exact howned

/-- **The count of references is exact.**  If all references to a driver's tables from outside the
registry are accounted for but `held` of them, an exclusive purge goes through exactly if there are none
of these and no record of the driver is borrowed. -/
theorem Consistent.purgeExclusive?_eq (hr : r.Consistent) (driver : Driver) (others held : Nat) :
    r.purgeExclusive? driver others (others + held)
      = if held = 0 ∧ r.lends driver = false then some (r.purge driver) else none := by
  have hlends := hr.lends_eq_false_iff driver
  unfold purgeExclusive? references
  cases hlent : (r.owned driver).any fun record => r.isLent record.serial with
  | true =>
    rw [if_pos rfl, if_neg]
    rintro ⟨-, hnone⟩
    rw [hlent] at hlends
    exact Bool.noConfusion (hlends.1 hnone).1
  | false =>
    rw [hlent] at hlends
    by_cases hnone : held = 0 ∧ r.outliving driver = 0
    · have hequal : others + held + ((r.owned driver).length + r.outliving driver)
          = others + (r.owned driver).length := by omega
      rw [if_neg Bool.false_ne_true, if_neg (not_not_intro hequal),
        if_pos ⟨hnone.1, hlends.2 ⟨rfl, hnone.2⟩⟩]
    · have hmore : others + held + ((r.owned driver).length + r.outliving driver)
          ≠ others + (r.owned driver).length := by omega
      rw [if_neg Bool.false_ne_true, if_pos hmore, if_neg fun h => hnone ⟨h.1, (hlends.1 h.2).2⟩]

end Registry
end DriverLoader
