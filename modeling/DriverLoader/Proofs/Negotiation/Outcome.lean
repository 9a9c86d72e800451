/-
# What a negotiation comes to

What is fetched at one version hangs on the getters alone.  A required group whose getter is not
exported or refuses ends the fetch (`refusal?`); otherwise the sub-tables are those of the groups whose
getters are exported and succeed at this version, and nothing of another version is among them
(`fetch_outcome`, `group?_granted`).

Each category has one required group, "Device" (`exists_required`).  A negotiation therefore goes down
the versions to the newest one at which the getter of that group answers anything but "unsupported
version" (`negotiateAt_outcome`): this version and this answer settle it, whatever the getter would say
to older versions.  `negotiate_outcome` says so of the released versions, in both directions.
-/

import DriverLoader.Negotiation
import Mathlib.Data.List.Nodup

namespace DriverLoader
namespace Negotiation

variable {ω : Type} (exports : Exports) (module : DriverModule)

/-! ### One version -/

/-- Why a group ends the fetch at a version, if it does: it is required, and its getter is not exported
or answers anything but "success". -/
def refusal? (version : Version) (group : FeatureGroup) : Option BuildFailure :=
  if group.required then
    match exports group.symbol with
    | none => some (.missingGroup group.category group.name)
    | some getter =>
      if (getter version).1.isSuccess then none
      else some (.rejected group.category group.name (getter version).1)
  else none

/-- The sub-table that a group gets at a version: what its getter wrote, if it is exported and
succeeds. -/
def granted? (version : Version) (group : FeatureGroup) : Option SubTable :=
  (exports group.symbol).bind fun getter =>
    if (getter version).1.isSuccess then some (getter version).2 else none

/-- The sub-tables that groups get at a version, by their names. -/
def granted (version : Version) (groups : List FeatureGroup) : List (String × SubTable) :=
  groups.filterMap fun group => (granted? exports version group).map (group.name, ·)

/-- A group is granted exactly if the module has its getter and the getter succeeds. -/
theorem granted?_eq_some_iff {version : Version} {group : FeatureGroup} {slots : SubTable} :
    granted? exports version group = some slots ↔
      ∃ getter, exports group.symbol = some getter ∧ getter version = (.success, slots) := by
  unfold granted?
  rw [Option.bind_eq_some_iff]
  refine exists_congr fun getter => and_congr_right fun _ => ?_
  rcases hanswer : getter version with ⟨code, written⟩
  by_cases hcode : code = .success <;> simp [ResultCode.isSuccess, hcode]

/-- Fetching a group fails exactly where the group is refused, and else gives what is granted. -/
theorem fetchGroup_outcome (version : Version) (group : FeatureGroup) (a : Ambient ω) :
    (fetchGroup exports module version group a).1 =
      match refusal? exports version group with
      | some failure => .error failure
      | none => .ok (granted? exports version group) := by
  unfold fetchGroup refusal? granted?
  cases exports group.symbol with
  | none => by_cases hrequired : group.required = true <;> simp [hrequired]
  | some getter =>
    by_cases hsuccess : (getter version).1.isSuccess = true
    · simp [hsuccess]
    · by_cases hrequired : group.required = true <;> simp [hsuccess, hrequired]

/-- **A fetch comes to the first refusal, or to what the getters grant.** -/
theorem fetch_outcome (version : Version) (groups : List FeatureGroup) (a : Ambient ω) :
    (fetch exports module version groups a).1 =
      match groups.findSome? (refusal? exports version) with
      | some failure => .error failure
      | none => .ok (granted exports version groups) := by
  induction groups generalizing a with
  | nil => rfl
  | cons group rest ih =>
    have hfirst := fetchGroup_outcome exports module version group a
    rcases hgroup : fetchGroup exports module version group a with ⟨outcome, a'⟩
    have hrest := ih a'
    rcases hmore : fetch exports module version rest a' with ⟨others, a''⟩
    rw [hgroup] at hfirst
    rw [hmore] at hrest
    simp only at hfirst hrest
    unfold fetch
    rw [hgroup, List.findSome?_cons]
    cases hrefusal : refusal? exports version group with
    | some failure =>
      rw [hrefusal] at hfirst
      simp [hfirst]
    | none =>
      rw [hrefusal] at hfirst
      cases hlater : rest.findSome? (refusal? exports version) with
      | some failure =>
        rw [hlater] at hrest
        simp [hfirst, hmore, hrest]
      | none =>
        rw [hlater] at hrest
        cases hgranted : granted? exports version group <;>
          simp [hfirst, hmore, hrest, granted, hgranted]

/-- Where one group alone is required, it decides whether a fetch is refused. -/
theorem findSome?_refusal (version : Version) {device : FeatureGroup} {groups : List FeatureGroup}
    (hmem : device ∈ groups) (honly : ∀ group ∈ groups, group.required = true → group = device) :
    groups.findSome? (refusal? exports version) = refusal? exports version device := by
  have hothers : ∀ group ∈ groups, group ≠ device → refusal? exports version group = none := by
    intro group hgroup hne
    have hrequired : ¬group.required = true := fun h => hne (honly group hgroup h)
    simp [refusal?, hrequired]
  cases hfound : groups.findSome? (refusal? exports version) with
  | none => exact (List.findSome?_eq_none_iff.1 hfound device hmem).symm
  | some failure =>
    obtain ⟨group, hgroup, hrefusal⟩ := List.exists_of_findSome?_eq_some hfound
    by_cases heq : group = device
    · rw [← hrefusal, heq]
    · rw [hothers group hgroup heq] at hrefusal
      cases hrefusal

/-- Among groups of distinct names, the name of a group leads to what it was granted. -/
theorem lookup_granted (version : Version) {groups : List FeatureGroup}
    (hnames : (groups.map (·.name)).Nodup) {group : FeatureGroup} (hmem : group ∈ groups) :
    (granted exports version groups).lookup group.name = granted? exports version group := by
  induction groups with
  | nil => cases hmem
  | cons first rest ih =>
    obtain ⟨hfirst, hrest⟩ := List.nodup_cons.1 hnames
    have habsent : ∀ other ∈ granted exports version rest, other.1 ≠ first.name := by
      intro other hother heq
      obtain ⟨later, hlater, hgranted⟩ := List.mem_filterMap.1 hother
      obtain ⟨slots, -, rfl⟩ := Option.map_eq_some_iff.1 hgranted
      exact hfirst (List.mem_map.2 ⟨later, hlater, heq⟩)
    have hsplit : granted exports version (first :: rest) =
        ((granted? exports version first).map (first.name, ·)).toList ++
          granted exports version rest := by
      cases hgranted : granted? exports version first <;> simp [granted, hgranted]
    rcases List.mem_cons.1 hmem with rfl | hlater
    · have hnone : (granted exports version rest).lookup group.name = none := by
        refine List.lookup_eq_none_iff.2 fun other hother => ?_
        simpa using (habsent other hother).symm
      cases hgranted : granted? exports version group <;>
        simp [hsplit, hgranted, hnone]
    · have hne : group.name ≠ first.name := fun heq =>
        hfirst (List.mem_map.2 ⟨group, hlater, heq⟩)
      have hskip : (group.name == first.name) = false := by simpa using hne
      cases hgranted : granted? exports version first <;>
        simp [hsplit, hgranted, List.lookup_cons, hskip, ih hrest hlater]

/-- What is granted keeps the order of the groups, and no name comes in from elsewhere. -/
theorem granted_sublist (version : Version) (groups : List FeatureGroup) :
    ((granted exports version groups).map Prod.fst).Sublist (groups.map (·.name)) := by
  induction groups with
  | nil => exact List.Sublist.slnil
  | cons group rest ih =>
    cases hgranted : granted? exports version group with
    | none => simpa [granted, hgranted] using ih.cons group.name
    | some slots => simpa [granted, hgranted] using ih

/-! ### One category -/

/-- The getter of the group that every driver of a category has to export. -/
def device? (category : Category) : Option Getter :=
  exports (category.mark ++ "GetDeviceProcAddrTable")

/-- Each category requires one group. -/
theorem exists_required (category : Category) :
    ∃ device ∈ Api.groups category, device.required = true ∧ device.category = category ∧
      device.name = "Device" ∧ exports device.symbol = device? exports category ∧
        ∀ group ∈ Api.groups category, group.required = true → group = device := by
  obtain ⟨device, hfilter, hcategory, hname⟩ : ∃ device : FeatureGroup,
      (Api.groups category).filter (·.required) = [device] ∧ device.category = category ∧
        device.name = "Device" := by
    cases category <;> exact ⟨_, rfl, rfl, rfl⟩
  have hmem : ∀ group, group ∈ Api.groups category ∧ group.required = true ↔ group = device := by
    intro group
    rw [← List.mem_filter, hfilter, List.mem_singleton]
  obtain ⟨hdevice, hrequired⟩ := (hmem device).2 rfl
  have hsymbol : device.symbol = category.mark ++ "GetDeviceProcAddrTable" := by
    unfold FeatureGroup.symbol
    rw [hcategory, hname]
    cases category <;> decide
  refine ⟨device, hdevice, hrequired, hcategory, hname, ?_, fun group hgroup hreq => ?_⟩
  · unfold device?
    rw [hsymbol]
  · exact (hmem group).1 ⟨hgroup, hreq⟩

/-- No two groups of a category have the same name. -/
theorem nodup_names (category : Category) : ((Api.groups category).map (·.name)).Nodup := by
  cases category <;> decide

/-- What the fetch of a category at one version comes to. -/
theorem fetch_groups_outcome (version : Version) (category : Category) (a : Ambient ω) :
    (fetch exports module version (Api.groups category) a).1 =
      match device? exports category with
      | none => .error (.missingGroup category "Device")
      | some getter =>
        if (getter version).1.isSuccess then
          .ok (granted exports version (Api.groups category))
        else .error (.rejected category "Device" (getter version).1) := by
  obtain ⟨device, hmem, hrequired, hcategory, hname, hsymbol, honly⟩ :=
    exists_required exports category
  rw [fetch_outcome, findSome?_refusal exports version hmem honly]
  unfold refusal?
  rw [if_pos hrequired, hsymbol, hcategory, hname]
  cases device? exports category with
  | none => rfl
  | some getter => by_cases hsuccess : (getter version).1.isSuccess = true <;> simp [hsuccess]

/-! ### All versions -/

/-- **The newest version that is not called unsupported settles a negotiation.**  Here versions are
asked in the order in which they are listed. -/
theorem negotiateAt_outcome (category : Category) {getter : Getter}
    (hdevice : device? exports category = some getter) (versions : List Version) (a : Ambient ω) :
    (negotiateAt exports module category versions a).1 =
      match versions.find? (fun version => (getter version).1 ≠ .unsupportedVersion) with
      | none => .error (.noCommonVersion category)
      | some version =>
        if (getter version).1.isSuccess then
          .ok ⟨true, version, granted exports version (Api.groups category)⟩
        else .error (.rejected category "Device" (getter version).1) := by
  induction versions generalizing a with
  | nil => rfl
  | cons version older ih =>
    have hfetch := fetch_groups_outcome exports module version category a
    rcases hgroups : fetch exports module version (Api.groups category) a with ⟨outcome, a'⟩
    rw [hgroups, hdevice] at hfetch
    simp only at hfetch
    unfold negotiateAt
    rw [hgroups]
    by_cases hunsupported : (getter version).1 = .unsupportedVersion
    · have hfailed : ¬(getter version).1.isSuccess = true := by
        rw [hunsupported]
        decide
      rw [if_neg hfailed, hunsupported] at hfetch
      rw [List.find?_cons_of_neg (by simpa using hunsupported), ← ih a']
      simp [hfetch]
    · rw [List.find?_cons_of_pos (by simpa using hunsupported)]
      by_cases hsuccess : (getter version).1.isSuccess = true
      · rw [if_pos hsuccess] at hfetch
        simp [hfetch, hsuccess]
      · rw [if_neg hsuccess] at hfetch
        simp [hfetch, hsuccess, hunsupported]

/-- Without the required getter the first version ends a negotiation. -/
theorem negotiateAt_of_missing (category : Category) (hdevice : device? exports category = none)
    (version : Version) (older : List Version) (a : Ambient ω) :
    (negotiateAt exports module category (version :: older) a).1 =
      .error (.missingGroup category "Device") := by
  have hfetch := fetch_groups_outcome exports module version category a
  rcases hgroups : fetch exports module version (Api.groups category) a with ⟨outcome, a'⟩
  rw [hgroups, hdevice] at hfetch
  simp only at hfetch
  unfold negotiateAt
  rw [hgroups, hfetch]

/-- A version settles what comes of a getter: it is the newest released version at which the getter
answers anything but "unsupported version". -/
structure Settles (getter : Getter) (version : Version) : Prop where
  released : version ∈ Version.released
  supported : (getter version).1 ≠ .unsupportedVersion
  newest : ∀ newer ∈ Version.released, version.raw < newer.raw →
    (getter newer).1 = .unsupportedVersion

/-- The released versions are listed from the oldest to the newest. -/
theorem released_ascending : Version.released.Pairwise fun older newer => older.raw < newer.raw := by
  decide

/-- At most one version settles what comes of a getter. -/
theorem Settles.unique {getter : Getter} {version other : Version} (hversion : Settles getter version)
    (hother : Settles getter other) : version = other := by
  have hle : ¬version.raw < other.raw := fun hlt =>
    hother.supported (hversion.newest other hother.released hlt)
  have hge : ¬other.raw < version.raw := fun hlt =>
    hversion.supported (hother.newest version hversion.released hlt)
  have hraw : version.raw = other.raw :=
    UInt32.le_antisymm (UInt32.not_lt.1 hge) (UInt32.not_lt.1 hle)
  cases version
  cases other
  exact congrArg Version.mk hraw

/-- The first version that is not called unsupported, asked from the newest to the oldest, settles the
matter. -/
theorem settles_of_find? {getter : Getter} {version : Version}
    (hfind : Version.released.reverse.find?
      (fun version => (getter version).1 ≠ .unsupportedVersion) = some version) :
    Settles getter version := by
  have hdescending : Version.released.reverse.Pairwise fun newer older => older.raw < newer.raw :=
    List.pairwise_reverse.2 released_ascending
  obtain ⟨hsupported, newer, older, hsplit, hnewer⟩ := List.find?_eq_some_iff_append.1 hfind
  rw [hsplit, List.pairwise_append] at hdescending
  refine ⟨List.mem_reverse.1 (List.mem_of_find?_eq_some hfind), by simpa using hsupported, ?_⟩
  intro other hother hlt
  have hmem : other ∈ newer ++ version :: older := hsplit ▸ List.mem_reverse.2 hother
  rcases List.mem_append.1 hmem with hbefore | hafter
  · simpa using hnewer other hbefore
  · exfalso
    rcases List.mem_cons.1 hafter with rfl | holder
    · exact UInt32.lt_irrefl _ hlt
    · have hgt := (List.pairwise_cons.1 hdescending.2.1).1 other holder
      exact UInt32.lt_irrefl _ (UInt32.lt_trans hlt hgt)

/-- Either every released version is called unsupported, or one version settles the matter. -/
theorem find?_none_or_settles (getter : Getter) :
    (Version.released.reverse.find? (fun version => (getter version).1 ≠ .unsupportedVersion) = none ∧
        ∀ version ∈ Version.released, (getter version).1 = .unsupportedVersion) ∨
      ∃ version, Version.released.reverse.find?
        (fun version => (getter version).1 ≠ .unsupportedVersion) = some version ∧
          Settles getter version := by
  cases hfind : Version.released.reverse.find?
      (fun version => (getter version).1 ≠ .unsupportedVersion) with
  | none =>
    refine Or.inl ⟨rfl, fun version hversion => ?_⟩
    simpa using List.find?_eq_none.1 hfind version (List.mem_reverse.2 hversion)
  | some version => exact Or.inr ⟨version, rfl, settles_of_find? hfind⟩

/-- What a negotiation can come to, with what the required getter has to do for it. -/
inductive Comes (category : Category) : Except BuildFailure Table → Prop where
  /-- The required getter is not exported. -/
  | missing (absent : device? exports category = none) :
      Comes category (.error (.missingGroup category "Device"))
  /-- The required getter calls every version unsupported. -/
  | exhausted {getter : Getter} (device : device? exports category = some getter)
      (unsupported : ∀ version ∈ Version.released, (getter version).1 = .unsupportedVersion) :
      Comes category (.error (.noCommonVersion category))
  /-- The required getter refuses at the version that settles the matter. -/
  | refused {getter : Getter} {version : Version} (device : device? exports category = some getter)
      (settles : Settles getter version) (failed : (getter version).1 ≠ .success) :
      Comes category (.error (.rejected category "Device" (getter version).1))
  /-- The required getter succeeds at the version that settles the matter. -/
  | accepted {getter : Getter} {version : Version} (device : device? exports category = some getter)
      (settles : Settles getter version) (succeeded : (getter version).1 = .success) :
      Comes category (.ok ⟨true, version, granted exports version (Api.groups category)⟩)

/-- Whatever a module exports, a negotiation with it comes to one of the four. -/
theorem negotiate_comes (category : Category) (a : Ambient ω) :
    Comes exports category (negotiate exports module category a).1 := by
  unfold negotiate
  cases hdevice : device? exports category with
  | none =>
    have hreleased : ∃ newest older, Version.released.reverse = newest :: older := ⟨_, _, rfl⟩
    obtain ⟨newest, older, hsplit⟩ := hreleased
    rw [hsplit, negotiateAt_of_missing exports module category hdevice]
    exact .missing hdevice
  | some getter =>
    rw [negotiateAt_outcome exports module category hdevice]
    rcases find?_none_or_settles getter with ⟨hfind, hunsupported⟩ | ⟨version, hfind, hsettles⟩
    · rw [hfind]
      exact .exhausted hdevice hunsupported
    · rw [hfind]
      by_cases hsuccess : (getter version).1 = .success
      · simpa [ResultCode.isSuccess, hsuccess] using Comes.accepted hdevice hsettles hsuccess
      · simpa [ResultCode.isSuccess, hsuccess] using Comes.refused hdevice hsettles hsuccess

/-- The getter leaves no choice. -/
theorem Comes.unique {category : Category} {outcome other : Except BuildFailure Table}
    (hfirst : Comes exports category outcome) (hsecond : Comes exports category other) :
    outcome = other := by
  have hsame : ∀ {getter getter' : Getter}, device? exports category = some getter →
      device? exports category = some getter' → getter = getter' :=
    fun hdevice hdevice' => Option.some.inj (hdevice.symm.trans hdevice')
  cases hfirst with
  | missing absent =>
    cases hsecond with
    | missing absent' => rfl
    | exhausted device' _ | refused device' _ _ | accepted device' _ _ =>
      rw [absent] at device'
      cases device'
  | exhausted device unsupported =>
    cases hsecond with
    | missing absent' =>
      rw [absent'] at device
      cases device
    | exhausted device' unsupported' => rfl
    | refused device' settles' _ | accepted device' settles' _ =>
      obtain rfl := hsame device device'
      exact absurd (unsupported _ settles'.released) settles'.supported
  | refused device settles failed =>
    cases hsecond with
    | missing absent' =>
      rw [absent'] at device
      cases device
    | exhausted device' unsupported' =>
      obtain rfl := hsame device device'
      exact absurd (unsupported' _ settles.released) settles.supported
    | refused device' settles' failed' =>
      obtain rfl := hsame device device'
      rw [settles.unique settles']
    | accepted device' settles' succeeded' =>
      obtain rfl := hsame device device'
      exact absurd (settles.unique settles' ▸ succeeded') failed
  | accepted device settles succeeded =>
    cases hsecond with
    | missing absent' =>
      rw [absent'] at device
      cases device
    | exhausted device' unsupported' =>
      obtain rfl := hsame device device'
      exact absurd (unsupported' _ settles.released) settles.supported
    | refused device' settles' failed' =>
      obtain rfl := hsame device device'
      exact absurd (settles.unique settles' ▸ succeeded) failed'
    | accepted device' settles' succeeded' =>
      obtain rfl := hsame device device'
      rw [settles.unique settles']

/-- **The newest version that the required getter does not call unsupported settles a negotiation.**
Whatever a module exports, and whatever its getters answer at each version:

* There is a table at a version exactly if the getter of "Device" is exported, answers "success" at that
  version and "unsupported version" at every newer released version.
* The table is valid, and it holds the sub-table of a group of the category exactly if the getter of
  that group is exported and answers "success" at the version of the table; it is then what the getter
  wrote when asked for that version.  Nothing else is in the table, and the groups keep their order.
* Otherwise the failure is one of three: the required group is missing, exactly if its getter is not
  exported; there is no common version, exactly if that getter answers "unsupported version" at every
  released version; and it is a rejection with the answer at the newest released version at which that
  answer is not "unsupported version". -/
theorem negotiate_outcome (category : Category) (a : Ambient ω) :
    let outcome := (negotiate exports module category a).1
    let device := exports (category.mark ++ "GetDeviceProcAddrTable")
    (∀ version, (∃ table, outcome = .ok table ∧ table.version = version) ↔
        ∃ getter, device = some getter ∧ Settles getter version ∧ (getter version).1 = .success) ∧
      (∀ table, outcome = .ok table → table.valid = true ∧
        (∀ group ∈ Api.groups category, ∀ slots, table.group? group.name = some slots ↔
          ∃ getter, exports group.symbol = some getter ∧
            getter table.version = (.success, slots)) ∧
        (table.groups.map Prod.fst).Sublist ((Api.groups category).map (·.name))) ∧
      (outcome = .error (.missingGroup category "Device") ↔ device = none) ∧
      (outcome = .error (.noCommonVersion category) ↔
        ∃ getter, device = some getter ∧
          ∀ version ∈ Version.released, (getter version).1 = .unsupportedVersion) ∧
      (∀ code, outcome = .error (.rejected category "Device" code) ↔
        ∃ getter version, device = some getter ∧ Settles getter version ∧
          (getter version).1 = code ∧ code ≠ .success) ∧
      ∀ failure, outcome = .error failure → failure = .missingGroup category "Device" ∨
        failure = .noCommonVersion category ∨ ∃ code, failure = .rejected category "Device" code := by
  intro outcome device
  have hcomes : Comes exports category outcome := negotiate_comes exports module category a
  refine ⟨fun version => ⟨?_, ?_⟩, fun table htable => ?_, ⟨?_, ?_⟩, ⟨?_, ?_⟩, fun code => ⟨?_, ?_⟩,
    fun failure hfailure => ?_⟩
  · rintro ⟨table, htable, rfl⟩
    rw [htable] at hcomes
    cases hcomes with
    | accepted hdevice settles succeeded => exact ⟨_, hdevice, settles, succeeded⟩
  · rintro ⟨getter, hdevice, settles, succeeded⟩
    exact ⟨_, hcomes.unique exports (.accepted hdevice settles succeeded), rfl⟩
  · rw [htable] at hcomes
    cases hcomes with
    | @accepted getter version hdevice settles succeeded =>
      refine ⟨rfl, fun group hgroup slots => ?_, ?_⟩
      · rw [← granted?_eq_some_iff, ← lookup_granted exports version (nodup_names category) hgroup]
        rfl
      · exact granted_sublist exports version (Api.groups category)
  · intro hmissing
    rw [hmissing] at hcomes
    cases hcomes with
    | missing absent => exact absent
  · exact fun absent => hcomes.unique exports (.missing absent)
  · intro hexhausted
    rw [hexhausted] at hcomes
    cases hcomes with
    | exhausted hdevice unsupported => exact ⟨_, hdevice, unsupported⟩
  · rintro ⟨getter, hdevice, unsupported⟩
    exact hcomes.unique exports (.exhausted hdevice unsupported)
  · intro hrefused
    rw [hrefused] at hcomes
    cases hcomes with
    | refused hdevice settles failed => exact ⟨_, _, hdevice, settles, rfl, failed⟩
  · rintro ⟨getter, version, hdevice, settles, rfl, failed⟩
    exact hcomes.unique exports (.refused hdevice settles failed)
  · rw [hfailure] at hcomes
    cases hcomes with
    | missing absent => exact Or.inl rfl
    | exhausted hdevice unsupported => exact Or.inr (Or.inl rfl)
    | refused hdevice settles failed => exact Or.inr (Or.inr ⟨_, rfl⟩)

namespace Sample

/-- A module whose required getter accepts version 1.5, rejects version 1.4 and calls all others
unsupported.  The getter of "Driver" writes a function at 1.5 and others at newer versions, and that of
"Context" succeeds at newer versions only. -/
def getters : Exports := fun symbol =>
  if symbol = "zeGetDeviceProcAddrTable" then
    some fun asked =>
      if asked = .ofParts 1 5 then (.success, [])
      else if asked = .ofParts 1 4 then (.deviceRequiresReset, [])
      else (.unsupportedVersion, [])
  else if symbol = "zeGetDriverProcAddrTable" then
    some fun asked =>
      (.success, [("zeDriverGet", ⟨.custom (if asked = .ofParts 1 5 then 0 else 1), "zeDriverGet"⟩)])
  else if symbol = "zeGetContextProcAddrTable" then
    some fun asked =>
      if asked.supports (.ofParts 1 6) then (.success, []) else (.unsupportedFeature, [])
  else none

/-- Nothing around the negotiation. -/
def ambient : Ambient Unit :=
  ⟨[], ⟨0, ()⟩, Log.empty .info, []⟩

end Sample

/-- The module ends up at version 1.5, with what was written for that version and without what was there
for newer ones. -/
theorem negotiate_outcome_older :
    ∃ table, (negotiate Sample.getters (.custom 0) .compute Sample.ambient).1 = .ok table ∧
      table.version = .ofParts 1 5 ∧
      table.group? "Driver" = some [("zeDriverGet", ⟨.custom 0, "zeDriverGet"⟩)] ∧
      table.group? "Context" = none := by
  obtain ⟨haccepted, hgroups, -⟩ :=
    negotiate_outcome Sample.getters (.custom 0) .compute Sample.ambient
  obtain ⟨table, htable, hversion⟩ := (haccepted (.ofParts 1 5)).2
    ⟨_, rfl, ⟨by decide, by decide, by decide⟩, by decide⟩
  obtain ⟨-, hgroup, -⟩ := hgroups table htable
  refine ⟨table, htable, hversion, ?_, ?_⟩
  · refine (hgroup ((Api.groups .compute)[1]) (List.getElem_mem _) _).2 ⟨_, rfl, ?_⟩
    rw [hversion]
    rfl
  · refine Option.eq_none_iff_forall_ne_some.2 fun slots hslots => ?_
    obtain ⟨getter, hgetter, hanswer⟩ :=
      (hgroup ((Api.groups .compute)[3]) (List.getElem_mem _) slots).1 hslots
    rw [hversion] at hanswer
    obtain rfl := Option.some.inj hgetter
    have hfailed : (ResultCode.unsupportedFeature : ResultCode) = .success :=
      congrArg Prod.fst hanswer
    exact absurd hfailed (by decide)

end Negotiation
end DriverLoader
