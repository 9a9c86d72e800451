/-
# The handle registry

The registry binds every handle that the loader has seen to the driver that made it.  A record is made
when a handle is adopted, and only its validity changes afterwards: a destroyed handle keeps its
record, marked invalid, until it is adopted again or its driver goes.

Records can be borrowed.  A borrowed record stays the same record as long as the registry holds it,
and lives on when the registry has let go of it; `outliving` counts those.

What a look-up finds after an operation is said by `find?_adopt_self`, `find?_adopt_of_ne` and
`find?_release`.
-/

import DriverLoader.Handle
import DriverLoader.Table

namespace DriverLoader

/-- What the registry knows about a handle. -/
structure HandleRecord where
  /-- The identity of the record. -/
  serial : Nat
  /-- The driver that owns the handle. -/
  owner : Driver
  /-- The handle has not been destroyed. -/
  valid : Bool

/-- The records of all handles, at most one for each. -/
structure Registry where
  records : List (Handle × HandleRecord)
  /-- The records borrowed from this registry, in the order of borrowing. -/
  lent : List HandleRecord
  /-- The serial number of the next record. -/
  nextSerial : Nat

namespace HandleRecord

/-- The record belongs to the tables with the given identity. -/
def ownedBy (record : HandleRecord) (driver : Driver) : Bool :=
  record.owner.id = driver.id

/-- The record, invalid if it is the one with the given serial number. -/
def invalidated (record : HandleRecord) (serial : Nat) : HandleRecord :=
  if record.serial = serial then { record with valid := false } else record

end HandleRecord

namespace Registry

/-- A registry without records. -/
def empty : Registry :=
  ⟨[], [], 0⟩

/-- The number of records, valid or not. -/
def size (r : Registry) : Nat :=
  r.records.length

/-- The record of a handle, valid or not; the null handle has none. -/
def find? (r : Registry) (h : Handle) : Option HandleRecord :=
  if h.isNull then none else r.records.lookup h

/-- The handle is known and not destroyed. -/
def isLive (r : Registry) (h : Handle) : Bool :=
  (r.find? h).any (·.valid)

/-- A list of records with the record of one handle replaced, or put last if there was none. -/
def bind (h : Handle) (record : HandleRecord) :
    List (Handle × HandleRecord) → List (Handle × HandleRecord)
  | [] => [(h, record)]
  | (key, old) :: rest =>
    if key = h then (h, record) :: rest else (key, old) :: bind h record rest

/-- Adopting this handle makes a record: it is not null and not live. -/
def admits (r : Registry) (h : Handle) : Bool :=
  !h.isNull && !r.isLive h

/-- The registry after a handle was seen from a driver.  A live record is left alone and a destroyed
one is replaced. -/
def adopt (r : Registry) (driver : Driver) (h : Handle) : Registry :=
  if r.admits h then
    { r with
      records := bind h ⟨r.nextSerial, driver, true⟩ r.records
      nextSerial := r.nextSerial + 1 }
  else r

/-- The registry after several handles were seen from a driver. -/
def adoptAll (r : Registry) (driver : Driver) (hs : List Handle) : Registry :=
  hs.foldl (fun r h => r.adopt driver h) r

/-- The registry after a handle was destroyed.  Its record stays and becomes invalid. -/
def release (r : Registry) (h : Handle) : Registry :=
  match r.find? h with
  | none => r
  | some record =>
    { r with
      records := r.records.map fun (key, other) =>
        (key, if key = h then { other with valid := false } else other)
      lent := r.lent.map (·.invalidated record.serial) }

/-- The records of a driver that the registry holds. -/
def owned (r : Registry) (driver : Driver) : List HandleRecord :=
  (r.records.map Prod.snd).filter (·.ownedBy driver)

/-- The registry without the records of a driver. -/
def purge (r : Registry) (driver : Driver) : Registry :=
  { r with records := r.records.filter fun (_, record) => !record.ownedBy driver }

/-- The registry without any records. -/
def clear (r : Registry) : Registry :=
  { r with records := [] }

/-- A record with this serial number is borrowed. -/
def isLent (r : Registry) (serial : Nat) : Bool :=
  r.lent.any (·.serial = serial)

/-- The registry holds a record with this serial number. -/
def holds (r : Registry) (serial : Nat) : Bool :=
  r.records.any fun (_, record) => record.serial = serial

/-- The number of borrowed records of a driver that the registry no longer holds. -/
def outliving (r : Registry) (driver : Driver) : Nat :=
  (((r.lent.filter (·.ownedBy driver)).map (·.serial)).eraseDups.filter (!r.holds ·)).length

/-- The number of records that refer to a driver's tables, borrowed ones included. -/
def references (r : Registry) (driver : Driver) : Nat :=
  (r.owned driver).length + r.outliving driver

/-- The registry without the records of a driver, if nothing else refers to the driver.

Of the `total` references to the driver's tables from outside the registry the caller accounts for
`others`.  Nothing changes when a record of the driver is borrowed or when there are references that
are not accounted for. -/
def purgeExclusive? (r : Registry) (driver : Driver) (others total : Nat) : Option Registry :=
  if (r.owned driver).any (fun record => r.isLent record.serial) then none
  else if total + r.references driver ≠ others + (r.owned driver).length then none
  else some (r.purge driver)

/-- The registry with the record of a handle borrowed once more, if there is one. -/
def lend? (r : Registry) (h : Handle) : Option Registry :=
  (r.find? h).map fun record => { r with lent := r.lent ++ [record] }

/-- The registry with all borrowed records given back. -/
def reclaim (r : Registry) : Registry :=
  { r with lent := [] }

/-- The null handle has no record. -/
@[simp]
theorem find?_null (r : Registry) : r.find? Handle.null = none := by
  simp [find?, Handle.isNull]

/-- A handle that is bound has the record that it was bound to. -/
theorem lookup_bind_self (h : Handle) (record : HandleRecord)
    (records : List (Handle × HandleRecord)) : (bind h record records).lookup h = some record := by
  induction records with
  | nil => simp [bind]
  | cons head rest ih =>
    obtain ⟨key, old⟩ := head
    by_cases hk : key = h
    · simp [bind, hk]
    · have : (h == key) = false := by simp [Ne.symm hk]
      simp [bind, hk, List.lookup_cons, this, ih]

/-- Binding a handle leaves the records of others alone. -/
theorem lookup_bind_of_ne {h other : Handle} (hne : other ≠ h) (record : HandleRecord)
    (records : List (Handle × HandleRecord)) :
    (bind h record records).lookup other = records.lookup other := by
  induction records with
  | nil => simp [bind, List.lookup_cons, beq_eq_false_iff_ne.2 hne]
  | cons head rest ih =>
    obtain ⟨key, old⟩ := head
    by_cases hk : key = h
    · subst hk
      simp [bind, List.lookup_cons, beq_eq_false_iff_ne.2 hne]
    · simp only [bind, hk, if_false, List.lookup_cons]
      split <;> simp_all

/-- A handle that is not admitted is not adopted. -/
theorem adopt_of_not_admits {r : Registry} {h : Handle} (ha : r.admits h = false)
    (driver : Driver) : r.adopt driver h = r := by
  simp [adopt, ha]

/-- A handle that is adopted has a new valid record of its driver. -/
theorem find?_adopt_self {r : Registry} {h : Handle} (ha : r.admits h = true) (driver : Driver) :
    (r.adopt driver h).find? h = some ⟨r.nextSerial, driver, true⟩ := by
  have hn : h.isNull = false := by simp_all [admits]
  simp [adopt, ha, find?, hn, lookup_bind_self]

/-- Adopting a handle leaves the records of others alone. -/
theorem find?_adopt_of_ne {h other : Handle} (hne : other ≠ h) (r : Registry) (driver : Driver) :
    (r.adopt driver h).find? other = r.find? other := by
  unfold adopt
  split
  · simp [find?, lookup_bind_of_ne hne]
  · rfl

/-- Invalidating the record of a handle leaves the records of others alone. -/
theorem lookup_map_invalid (h other : Handle) (records : List (Handle × HandleRecord)) :
    (records.map fun (key, record) =>
        (key, if key = h then { record with valid := false } else record)).lookup other
      = (records.lookup other).map fun record =>
          if other = h then { record with valid := false } else record := by
  induction records with
  | nil => rfl
  | cons head rest ih =>
    obtain ⟨key, record⟩ := head
    by_cases hk : other = key
    · subst hk
      simp
    · simpa [List.lookup_cons, beq_eq_false_iff_ne.2 hk] using ih

/-- Destroying a handle makes its record invalid and leaves all others as they are. -/
theorem find?_release (r : Registry) (h other : Handle) :
    (r.release h).find? other = (r.find? other).map fun record =>
      if other = h then { record with valid := false } else record := by
  unfold release
  split
  · rename_i hf
    by_cases he : other = h
    · subst he
      simp [hf]
    · simp [he]
  · simp only [find?, lookup_map_invalid]
    split <;> rfl

end Registry
end DriverLoader
