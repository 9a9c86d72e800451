/-
# Interface versions and the version gate

A version is one 32-bit number with the major part in its upper half and the minor part in its lower
half, so that the order of the numbers is the order of the pairs (major, minor).

Every entry point carries the version that introduced it.  A table negotiated at an older version
does not route the call even if the driver filled the slot, because entry points are appended to
groups that exist already.
-/

namespace DriverLoader

/-- A version of the driver interface. -/
structure Version where
  /-- The major part in the upper half and the minor part in the lower half. -/
  raw : UInt32
  deriving DecidableEq, Inhabited

namespace Version

/-- The version with the given parts. -/
def ofParts (major minor : UInt16) : Version :=
  ⟨major.toUInt32 <<< 16 ||| minor.toUInt32⟩

/-- The upper half. -/
def major (v : Version) : UInt16 :=
  (v.raw >>> 16).toUInt16

/-- The lower half. -/
def minor (v : Version) : UInt16 :=
  v.raw.toUInt16

instance : ToString Version :=
  ⟨fun v => toString v.major.toNat ++ "." ++ toString v.minor.toNat⟩

/-- The version as a diagnostic shows it. -/
def diagnostic (v : Version) : String :=
  s!"ApiVersion({v})"

/-- The released versions, oldest first. -/
def released : List Version :=
  [0, 1, 2, 3, 4, 5, 6, 7, 8, 9, 10, 11, 12, 13].map (ofParts 1)

/-- The oldest released version. -/
def oldest : Version :=
  ofParts 1 0

/-- The newest released version. -/
def current : Version :=
  ofParts 1 13

/-- **The version gate.**  A table negotiated at `negotiated` routes the entry points introduced at
or before that version. -/
def supports (negotiated required : Version) : Bool :=
  required.raw ≤ negotiated.raw

/-- A module whose newest version is `newest` accepts a question at `asked` when the major parts
agree and `asked` is not newer. -/
def accepts (newest asked : Version) : Bool :=
  asked.major = newest.major && newest.supports asked

end Version
end DriverLoader
