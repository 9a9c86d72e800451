/-
# What a getter hands out

A getter of the process answers in one of four ways (`Answered`): there is no loader and none can be
made, there is no table to fill, the version is not accepted, or it fills the table.  It looks at the
installed loader and at its own arguments, never at whether the loader has a driver
(`getTable_undriven`).

A filled table comes in one of two ways.  The loader's own entry points are those of the group that were
introduced at or before the version asked for (`mem_ownExports_iff`).  The table of the only driver is
handed on as it was negotiated when the driver was loaded (`directExports_eq`), and the version asked
for has no say in it; `getTable_slots` puts the two together.
-/

import DriverLoader.Proofs.Installation.Succession
import DriverLoader.Proofs.Loader.Coherence
import DriverLoader.Proofs.Loader.Origin

namespace DriverLoader

/-- The slot of a name is for an entry point of the group that a version covers. -/
def FeatureGroup.Covers (group : FeatureGroup) (asked : Version) (name : String) : Prop :=
  ∃ entry ∈ group.entries, entry.name = name ∧ entry.version.raw ≤ asked.raw

/-- A getter of a group fills no slot that the version asked for does not cover. -/
def Getter.Gated (getter : Getter) (group : FeatureGroup) : Prop :=
  ∀ asked slots, getter asked = (.success, slots) →
    ∀ name ∈ slots.map Prod.fst, group.Covers asked name

/-- The getter that a driver's module has for a group is gated. -/
def Driver.Gated {ω : Type} (env : Environment ω) (group : FeatureGroup) (driver : Driver) : Prop :=
  ∀ getter, env.exportsOf driver.module group.symbol = some getter → getter.Gated group

/-- What an older version covers, a newer one does. -/
theorem FeatureGroup.Covers.mono {group : FeatureGroup} {older newer : Version} {name : String}
    (hcovers : group.Covers older name) (hle : older.raw ≤ newer.raw) : group.Covers newer name := by
  obtain ⟨entry, hmem, hname, hversion⟩ := hcovers
  exact ⟨entry, hmem, hname, UInt32.le_trans hversion hle⟩

/-- The getters of the null driver are gated. -/
theorem NullDriver.getter_gated (newest : Version) (group : FeatureGroup) :
    (getter newest group).Gated group := by
  intro asked slots hanswer name hname
  have hslots : slots = subTable newest group asked := by
    unfold getter fillTable at hanswer
    dsimp only at hanswer
    split at hanswer
    · exact (congrArg Prod.snd hanswer).symm
    · cases hanswer
  subst hslots
  unfold subTable at hname
  rw [List.map_map, List.mem_map] at hname
  obtain ⟨entry, hmem, rfl⟩ := hname
  obtain ⟨hmem, hsupports⟩ := List.mem_filter.1 hmem
  exact ⟨entry, hmem, rfl, by simpa [Version.supports] using hsupports⟩

/-- A symbol leads to the group whose getter it is. -/
theorem Api.groupOfSymbol?_symbol {category : Category} {group : FeatureGroup}
    (hgroup : group ∈ groups category) : groupOfSymbol? group.symbol = some group := by
  have hsymbols : ((Category.all.flatMap groups).map (·.symbol)).Nodup := by decide +kernel
  have hmem : group ∈ Category.all.flatMap groups :=
    List.mem_flatMap.2 ⟨category, by cases category <;> decide, hgroup⟩
  exact (Session.find?_eq_some_iff hsymbols).2 ⟨hmem, rfl⟩

/-- Null drivers are gated. -/
theorem NullDriver.gated {ω : Type} (env : Environment ω) {driver : Driver} {newest : Version}
    (hmodule : driver.module = .null newest) {category : Category} {group : FeatureGroup}
    (hgroup : group ∈ Api.groups category) : driver.Gated env group := by
  intro getter hgetter
  rw [hmodule] at hgetter
  obtain ⟨other, hother, rfl⟩ := Option.map_eq_some_iff.1 hgetter
  obtain rfl := Option.some.inj ((Api.groupOfSymbol?_symbol hgroup).symm.trans hother)
  exact getter_gated newest group

namespace Loader

variable {l : Loader}

/-- Without a driver there is none to call directly. -/
theorem passthrough?_of_undriven (hnone : l.drivers = []) : l.passthrough? = none := by
  refine Option.eq_none_iff_forall_ne_some.2 fun driver hdirect => ?_
  have hloaded := (passthrough?_eq_some_iff.1 hdirect).2.2
  unfold loaded at hloaded
  rw [hnone] at hloaded
  cases hloaded

/-- A loader with no driver to call directly hands out its own entry points. -/
theorem exportTable_of_none (hnone : l.passthrough? = none) (group : FeatureGroup)
    (asked : Version) : l.exportTable group asked = ownExports group asked := by
  unfold exportTable
  rw [hnone]

/-- A loader with one hands out the entry points of this driver. -/
theorem exportTable_of_some {driver : Driver} (hdirect : l.passthrough? = some driver)
    (group : FeatureGroup) (asked : Version) :
    l.exportTable group asked = directExports group driver := by
  unfold exportTable
  rw [hdirect]

/-- The loader's own table holds its entry points that the version asked for covers. -/
theorem mem_ownExports_iff {group : FeatureGroup} {asked : Version} {name : String}
    {slot : ExportedSlot} :
    (name, slot) ∈ ownExports group asked ↔ slot = .own ∧ group.Covers asked name := by
  unfold ownExports FeatureGroup.Covers Version.supports
  simp only [List.mem_map, List.mem_filter, Prod.mk.injEq, decide_eq_true_eq]
  constructor
  · rintro ⟨entry, ⟨hmem, hversion⟩, hname, rfl⟩
    exact ⟨rfl, entry, hmem, hname, hversion⟩
  · rintro ⟨rfl, entry, hmem, hname, hversion⟩
    exact ⟨entry, ⟨hmem, hversion⟩, hname, rfl⟩

variable {ω : Type} {env : Environment ω} {driver : Driver} {group : FeatureGroup}

/-- The slots that the driver's getter of a group granted at the version that was negotiated, as they
are handed on; none if the negotiation failed. -/
def negotiatedExports (env : Environment ω) (group : FeatureGroup) (driver : Driver) : ExportedTable :=
  let table := driver.table group.category
  if table.valid then
    ((Negotiation.granted? (env.exportsOf driver.module) table.version group).getD []).map
      fun (name, function) => (name, .direct function)
  else []

/-- A driver that came of negotiations hands on what its getters granted then. -/
theorem directExports_eq (hdriver : driver.Negotiated env)
    (hgroup : group ∈ Api.groups group.category) :
    directExports group driver = negotiatedExports env group driver := by
  unfold directExports negotiatedExports
  dsimp only
  split
  · rename_i hvalid
    rw [hdriver.group?_eq hvalid hgroup]
  · rename_i hinvalid
    rw [hdriver.group?_of_invalid (Bool.eq_false_iff.2 hinvalid)]
    rfl

/-- A gated getter granted no slot that a version covers not which is at least the one negotiated. -/
theorem covers_of_negotiatedExports {asked : Version} {name : String} {slot : ExportedSlot}
    (hgated : driver.Gated env group)
    (hasked : (driver.table group.category).version.raw ≤ asked.raw)
    (hmem : (name, slot) ∈ negotiatedExports env group driver) : group.Covers asked name := by
  unfold negotiatedExports at hmem
  dsimp only at hmem
  split at hmem
  · obtain ⟨⟨entry, function⟩, hslot, heq⟩ := List.mem_map.1 hmem
    obtain ⟨rfl, -⟩ := Prod.mk.inj heq
    cases hgranted : Negotiation.granted? (env.exportsOf driver.module)
        (driver.table group.category).version group with
    | none =>
      rw [hgranted] at hslot
      cases hslot
    | some slots =>
      rw [hgranted] at hslot
      obtain ⟨getter, hgetter, hanswer⟩ := (Negotiation.granted?_eq_some_iff _).1 hgranted
      have hcovers := hgated getter hgetter _ slots hanswer entry (List.mem_map_of_mem hslot)
      exact hcovers.mono hasked
  · cases hmem

end Loader

/-- The groups of a category know their category. -/
theorem Api.category_of_mem_groups {category : Category} {group : FeatureGroup}
    (hgroup : group ∈ groups category) : group.category = category := by
  have hall : ∀ group ∈ groups category, group.category = category := by
    cases category <;> decide
  exact hall group hgroup

namespace Installation

variable {ω : Type} {env : Environment ω} {p : Installation ω}

/-- What a getter answers once a process has seen to it that a loader is installed. -/
inductive Answered (p : Installation ω) (group : FeatureGroup) (asked : Version)
    (table : Option ExportedTable) :
    ResultCode × Option ExportedTable × Installation ω → Prop where
  | uninitialized (vacant : p.installed = none) :
      Answered p group asked table (.uninitialized, table, p)
  | absent (loader : Loader) (installed : p.installed = some loader) (missing : table = none) :
      Answered p group asked table (.invalidNullPointer, table, p)
  | refused (loader : Loader) (installed : p.installed = some loader) (given : table ≠ none)
      (newer : Version.current.accepts asked = false) :
      Answered p group asked table (.unsupportedVersion, table, p)
  | filled (loader : Loader) (installed : p.installed = some loader) (given : table ≠ none)
      (accepted : Version.current.accepts asked = true) :
      Answered p group asked table (.success, some (loader.exportTable group asked), p)

namespace Answered

variable {group : FeatureGroup} {asked : Version} {table : Option ExportedTable}
  {outcome : ResultCode × Option ExportedTable × Installation ω}

/-- Answering changes nothing about the process. -/
theorem state (hanswered : Answered p group asked table outcome) : outcome.2.2 = p := by
  cases hanswered <;> rfl

/-- The answer is "uninitialised" exactly if no loader is installed. -/
theorem uninitialized_iff (hanswered : Answered p group asked table outcome) :
    outcome.1 = .uninitialized ↔ p.installed = none := by
  cases hanswered with
  | uninitialized vacant => exact iff_of_true rfl vacant
  | absent loader installed => exact iff_of_false nofun (installed ▸ Option.some_ne_none loader)
  | refused loader installed => exact iff_of_false nofun (installed ▸ Option.some_ne_none loader)
  | filled loader installed => exact iff_of_false nofun (installed ▸ Option.some_ne_none loader)

/-- Only a success writes to the table. -/
theorem table_eq (hanswered : Answered p group asked table outcome) (hcode : outcome.1 ≠ .success) :
    outcome.2.1 = table := by
  cases hanswered with
  | filled => exact absurd rfl hcode
  | _ => rfl

/-- A success fills in what the installed loader hands out. -/
theorem filled_of_success (hanswered : Answered p group asked table outcome)
    (hcode : outcome.1 = .success) :
    ∃ loader, p.installed = some loader ∧ outcome.2.1 = some (loader.exportTable group asked) := by
  cases hanswered with
  | uninitialized vacant => cases hcode
  | absent loader installed missing => cases hcode
  | refused loader installed given newer => cases hcode
  | filled loader installed given accepted => exact ⟨loader, installed, rfl⟩

/-- Where a loader is installed the table and the version decide. -/
theorem code_eq (hanswered : Answered p group asked table outcome) (hinstalled : p.installed ≠ none) :
    outcome.1 = if table = none then .invalidNullPointer
      else if Version.current.accepts asked = true then .success else .unsupportedVersion := by
  cases hanswered with
  | uninitialized vacant => exact absurd vacant hinstalled
  | absent loader installed missing => exact (if_pos missing).symm
  | refused loader installed given newer =>
    rw [if_neg given, if_neg (Bool.eq_false_iff.1 newer)]
  | filled loader installed given accepted => rw [if_neg given, if_pos accepted]

end Answered

/-- A getter answers once the process has seen to it that a loader is installed. -/
theorem getTable_answered (env : Environment ω) (group : FeatureGroup) (asked : Version)
    (table : Option ExportedTable) (p : Installation ω) :
    Answered (p.ensureInstalled env none).2 group asked table (p.getTable env group asked table) := by
  unfold getTable
  dsimp only
  split
  · rename_i hvacant
    exact .uninitialized hvacant
  · rename_i loader hinstalled
    split
    · rename_i hmissing
      exact .absent loader hinstalled (Option.isNone_iff_eq_none.1 hmissing)
    · rename_i hgiven
      have htable : table ≠ none := fun heq => hgiven (Option.isNone_iff_eq_none.2 heq)
      split
      · rename_i hnewer
        exact .refused loader hinstalled htable (by simpa using hnewer)
      · rename_i haccepted
        exact .filled loader hinstalled htable (by simpa using haccepted)

/-- A loader that is made from the configuration has drivers, which came of negotiations. -/
theorem build_negotiated {loader : Loader} (hbuild : (p.build env).1 = .ok loader) :
    loader.Negotiated env ∧ loader.drivers ≠ [] := by
  unfold build at hbuild
  dsimp only at hbuild
  have hfound := Session.discover_negotiated env (Config.ofValues p.values)
    { p.toShared with log := (Config.ofValues p.values).applyLogging p.log }
  split at hbuild
  · cases hbuild
  · rename_i s heq
    rw [heq] at hfound
    obtain rfl := Except.ok.inj hbuild
    exact ⟨hfound.1, hfound.2 rfl⟩

/-- What an event makes of an installed loader does not alter its drivers. -/
theorem attend_negotiated {s : Session ω} (hs : s.loader.Negotiated env) (event : ProcessEvent) :
    (s.attend env event).loader.Negotiated env := by
  cases event with
  | init category flags => exact Session.step_negotiated hs (.init category flags)
  | operate operation => exact Session.step_negotiated hs operation
  | _ => exact hs

/-- Every loader that the events bring along was made with the same modules around it. -/
def BringsMade (env : Environment ω) (history : List ProcessEvent) : Prop :=
  ∀ event ∈ history, ∀ loader, event.brought? = some loader → loader.Made env

/-- **The drivers of an installed loader came of negotiations**, whatever loaders were brought along. -/
theorem installed_negotiated {level : LogLevel} {world : ω} {history : List ProcessEvent}
    (hmade : BringsMade env history) {loader : Loader}
    (hinstalled : ((start level world).after env history).installed = some loader) :
    loader.Negotiated env := by
  induction history using List.reverseRecOn generalizing loader with
  | nil => cases hinstalled
  | append_singleton history event ih =>
    rw [after_concat] at hinstalled
    cases step_move env ((start level world).after env history) event with
    | vacant before after => cases hinstalled.symm.trans (after.installed.trans before)
    | arrived s before source after =>
      obtain rfl := Option.some.inj (hinstalled.symm.trans after.installed)
      refine attend_negotiated ?_ event
      rcases source with hbrings | hbuilt
      · have hmem : event ∈ history ++ [event] := List.mem_append_right _ (List.mem_singleton_self _)
        exact (hmade event hmem s.loader hbrings).negotiated
      · exact (build_negotiated hbuilt).1
    | stayed s other before after retired =>
      obtain ⟨hs, -⟩ := session?_eq_some_iff.1 before
      obtain ⟨hafter, -⟩ := session?_eq_some_iff.1 after
      obtain rfl := Option.some.inj (hinstalled.symm.trans hafter)
      have hearlier := ih (fun earlier hmem => hmade earlier (List.mem_append_left _ hmem)) hs
      exact attend_negotiated hearlier event
    | left s cause before after => cases hinstalled.symm.trans after

/-- Where a loader is installed and the version is accepted, a table that is given is filled. -/
theorem getTable_of_installed (env : Environment ω) {loader : Loader}
    (hinstalled : p.installed = some loader) {asked : Version}
    (haccepted : Version.current.accepts asked = true) (group : FeatureGroup)
    (slots : ExportedTable) :
    p.getTable env group asked (some slots)
      = (.success, some (loader.exportTable group asked), p) := by
  unfold getTable
  rw [ensureInstalled_of_current? (current?_of_session? (Takes.session? ⟨hinstalled, rfl⟩))]
  simp [hinstalled, haccepted]

/-- A process lacks a loader when one is needed exactly if none is installed and none can be made. -/
theorem ensureInstalled_eq_none_iff (env : Environment ω) (p : Installation ω) :
    (p.ensureInstalled env none).2.installed = none ↔
      p.installed = none ∧ ∃ failure, (p.build env).1 = .error failure := by
  cases hsession : p.session? with
  | none =>
    have hvacant := session?_eq_none_iff.1 hsession
    rcases ensureInstalled_alone hvacant env with
      ⟨-, hnone, hfailed⟩ | ⟨loader, hbuilt, -, htakes⟩
    · exact iff_of_true (hnone.installed.trans hvacant) ⟨hvacant, hfailed⟩
    · refine iff_of_false (fun hnone => ?_) fun ⟨_, failure, hfailed⟩ => ?_
      · cases hnone.symm.trans htakes.installed
      · cases hfailed.symm.trans hbuilt
  | some s =>
    have hinstalled := (session?_eq_some_iff.1 hsession).1
    rw [ensureInstalled_of_current? (current?_of_session? hsession), hinstalled]
    exact iff_of_false (Option.some_ne_none _) fun hnone => Option.some_ne_none _ hnone.1

/-- **A getter does not ask for a driver.**  In every state of a process, for every group, version and
table:

* The answer is "uninitialised" exactly if no loader is installed and none can be made from the
  configuration; there is still none afterwards.  Whatever the answer is but success, the table stays.
* If the installed loader has no driver, be it that it never had one, that the last one was unloaded or
  that it was torn down, the process stays what it is.  The getter refuses a missing table and a version
  that is not accepted, and otherwise succeeds and fills in the loader's own entry points.
* A loader that is made from the configuration has drivers. -/
theorem getTable_undriven (env : Environment ω) (group : FeatureGroup) (asked : Version)
    (table : Option ExportedTable) (p : Installation ω) :
    let outcome := p.getTable env group asked table
    (outcome.1 = .uninitialized ↔
        p.installed = none ∧ ∃ failure, (p.build env).1 = .error failure) ∧
      (outcome.1 = .uninitialized → outcome.2.2.installed = none) ∧
      (outcome.1 ≠ .success → outcome.2.1 = table) ∧
      (∀ loader, p.installed = some loader → loader.drivers = [] → outcome.2.2 = p ∧
        (table = none → outcome.1 = .invalidNullPointer) ∧
        (table ≠ none → Version.current.accepts asked = false → outcome.1 = .unsupportedVersion) ∧
        (table ≠ none → Version.current.accepts asked = true → outcome.1 = .success ∧
          ∃ filled, outcome.2.1 = some filled ∧
            ∀ name slot, (name, slot) ∈ filled ↔ slot = .own ∧ group.Covers asked name)) ∧
      ∀ loader, (p.build env).1 = .ok loader → loader.drivers ≠ [] := by
  intro outcome
  have hanswered : Answered (p.ensureInstalled env none).2 group asked table outcome :=
    getTable_answered env group asked table p
  refine ⟨?_, fun hcode => ?_, hanswered.table_eq, fun loader hinstalled hnone => ?_,
    fun loader hbuild => (build_negotiated hbuild).2⟩
  · rw [hanswered.uninitialized_iff, ensureInstalled_eq_none_iff]
  · rw [hanswered.state]
    exact hanswered.uninitialized_iff.1 hcode
  · have hkept : (p.ensureInstalled env none).2 = p := by
      rw [ensureInstalled_of_current? (current?_of_session? (Takes.session? ⟨hinstalled, rfl⟩))]
    rw [hkept] at hanswered
    have hcode := hanswered.code_eq (hinstalled ▸ Option.some_ne_none loader)
    refine ⟨hanswered.state, fun hmissing => ?_, fun hgiven hnewer => ?_, fun hgiven haccepted => ?_⟩
    · rw [hcode, if_pos hmissing]
    · rw [hcode, if_neg hgiven, if_neg (Bool.eq_false_iff.1 hnewer)]
    · rw [if_neg hgiven, if_pos haccepted] at hcode
      obtain ⟨other, hother, hfilled⟩ := hanswered.filled_of_success hcode
      obtain rfl := Option.some.inj (hinstalled.symm.trans hother)
      rw [Loader.exportTable_of_none (Loader.passthrough?_of_undriven hnone)] at hfilled
      exact ⟨hcode, _, hfilled, fun name slot => Loader.mem_ownExports_iff⟩

namespace Sample

/-- The null driver is asked for, and a loader is made from the configuration. -/
def configured : List ProcessEvent :=
  [.configure "ZE_ENABLE_NULL_DRIVER" (some "1"), .ensureInstalled none]

/-- A group with entry points of different versions. -/
def engine : FeatureGroup :=
  (Api.groups .sysman)[4]

/-- The process in which the loader was torn down while it was installed. -/
def torn : Installation Unit :=
  (start .info ()).after environment (configured ++ [.operate .teardown])

end Sample

/-- A loader that was torn down while it was installed still has its own entry points handed out. -/
theorem getTable_undriven_torn :
    (∃ loader, Sample.torn.installed = some loader ∧ loader.drivers = []) ∧
      let outcome := Sample.torn.getTable Sample.environment Sample.engine .oldest (some [])
      outcome.1 = .success ∧
        ∃ filled, outcome.2.1 = some filled ∧ ("zesEngineGetProperties", .own) ∈ filled := by
  have htorn : Sample.torn.installed.map (·.drivers.isEmpty) = some true := by decide +kernel
  obtain ⟨loader, hinstalled, hempty⟩ := Option.map_eq_some_iff.1 htorn
  have hnone : loader.drivers = [] := List.isEmpty_iff.1 hempty
  obtain ⟨-, -, -, hundriven, -⟩ :=
    getTable_undriven Sample.environment Sample.engine .oldest (some []) Sample.torn
  obtain ⟨-, -, -, hfills⟩ := hundriven loader hinstalled hnone
  obtain ⟨hsuccess, filled, hfilled, hslots⟩ := hfills (Option.some_ne_none _) (by decide)
  refine ⟨⟨loader, hinstalled, hnone⟩, hsuccess, filled, hfilled, (hslots _ _).2 ⟨rfl, ?_⟩⟩
  exact ⟨Sample.engine.entries[0], List.getElem_mem _, rfl, by decide⟩

/-- **Which slots a getter fills.**  In every state that a history of a process leads to, for every
group of every category and every version, if the getter succeeds it fills in a table for the installed
loader:

* If no driver may be called directly, these are the loader's own entry points of the group that were
  introduced at or before the version asked for, and no others.
* Otherwise the loader has one driver, no layer and interception is not forced, and the table is that
  driver's.  If the loaders that were brought along were made here, it is what the driver's getter
  granted at the version negotiated when the driver was loaded, whichever version is asked for.  So a
  slot may be newer than that, unless the version asked for is at least the one negotiated and the
  driver's getter is gated, as that of a null driver is. -/
theorem getTable_slots (env : Environment ω) (level : LogLevel) (world : ω)
    (history : List ProcessEvent) (category : Category) (group : FeatureGroup)
    (hgroup : group ∈ Api.groups category) (asked : Version) (table : Option ExportedTable) :
    let outcome := ((start level world).after env history).getTable env group asked table
    outcome.1 = .success →
    ∃ filled loader, outcome.2.1 = some filled ∧ outcome.2.2.installed = some loader ∧
      (loader.passthrough? = none → ∀ name slot,
        (name, slot) ∈ filled ↔ slot = .own ∧ group.Covers asked name) ∧
      ∀ driver, loader.passthrough? = some driver →
        (loader.config.forceIntercept = false ∧ loader.stack = [] ∧ loader.loaded = [driver]) ∧
          (BringsMade env history →
            filled = Loader.negotiatedExports env group driver ∧
              (driver.Gated env group → (driver.table category).version.raw ≤ asked.raw →
                ∀ name slot, (name, slot) ∈ filled → group.Covers asked name)) := by
  intro outcome hsuccess
  have hanswered := getTable_answered env group asked table ((start level world).after env history)
  obtain ⟨loader, hinstalled, hfilled⟩ := hanswered.filled_of_success hsuccess
  refine ⟨_, loader, hfilled, (congrArg installed hanswered.state).trans hinstalled,
    fun hnone name slot => ?_, fun driver hdirect => ?_⟩
  · rw [Loader.exportTable_of_none hnone]
    exact Loader.mem_ownExports_iff
  · have halone := Loader.passthrough?_eq_some_iff.1 hdirect
    refine ⟨halone, fun hmade => ?_⟩
    obtain rfl := Api.category_of_mem_groups hgroup
    have hdriver : driver.Negotiated env := by
      have hlater : BringsMade env (history ++ [.getTable group asked table]) := by
        intro event hmem brought hbrings
        rcases List.mem_append.1 hmem with hearlier | hlast
        · exact hmade event hearlier brought hbrings
        · rw [List.mem_singleton.1 hlast] at hbrings
          cases hbrings
      have hlast : ((start level world).after env
          (history ++ [.getTable group asked table])).installed = some loader := by
        rw [after_concat, ← hinstalled]
        exact congrArg installed (getTable_state ..)
      exact installed_negotiated hlater hlast driver (halone.2.2 ▸ List.mem_singleton_self driver)
    rw [Loader.exportTable_of_some hdirect, Loader.directExports_eq hdriver hgroup]
    exact ⟨rfl, fun hgated hasked name slot hmem =>
      Loader.covers_of_negotiatedExports hgated hasked hmem⟩

namespace Sample

/-- The process in which the null driver is the only one. -/
def alone : Installation Unit :=
  (start .info ()).after environment configured

/-- The null driver may be called directly, and it has a function for every entry point of the group. -/
theorem exists_alone :
    ∃ loader driver, alone.installed = some loader ∧ loader.passthrough? = some driver ∧
      driver.module = .null .current ∧ driver.sysman.version = .current ∧
        (Loader.directExports engine driver).map Prod.fst = engine.entries.map (·.name) := by
  have hfound : (alone.installed.bind Loader.passthrough?).map (fun driver =>
      (driver.module, driver.sysman.version, (Loader.directExports engine driver).map Prod.fst))
        = some (.null .current, .current, engine.entries.map (·.name)) := by decide +kernel
  obtain ⟨driver, hdriver, hfacts⟩ := Option.map_eq_some_iff.1 hfound
  obtain ⟨loader, hinstalled, hdirect⟩ := Option.bind_eq_some_iff.1 hdriver
  obtain ⟨hmodule, hrest⟩ := Prod.mk.inj hfacts
  obtain ⟨hversion, hslots⟩ := Prod.mk.inj hrest
  exact ⟨loader, driver, hinstalled, hdirect, hmodule, hversion, hslots⟩

end Sample

/-- Asked at the newest version, the table of a null driver has slots for entry points up to that
version only. -/
theorem getTable_slots_null :
    ∃ filled, (Sample.alone.getTable Sample.environment Sample.engine .current (some [])).2.1
        = some filled ∧
      ∀ name slot, (name, slot) ∈ filled → Sample.engine.Covers .current name := by
  obtain ⟨loader, driver, hinstalled, hdirect, hmodule, hversion, -⟩ := Sample.exists_alone
  have hanswer := getTable_of_installed Sample.environment hinstalled
    (show Version.current.accepts .current = true by decide) Sample.engine []
  have hmade : BringsMade Sample.environment Sample.configured := by
    intro event hmem brought hbrings
    rcases List.mem_cons.1 hmem with rfl | hmem
    · cases hbrings
    · rw [List.mem_singleton.1 hmem] at hbrings
      cases hbrings
  obtain ⟨filled, other, hfilled, hother, -, hpassed⟩ :=
    getTable_slots Sample.environment .info () Sample.configured .sysman Sample.engine
      (List.getElem_mem _) .current (some []) (congrArg Prod.fst hanswer)
  have hsame : loader = other := by
    have hstate := congrArg (fun outcome => outcome.2.2.installed) hanswer
    exact Option.some.inj (hinstalled.symm.trans (hstate.symm.trans hother))
  obtain ⟨-, hgranted⟩ := hpassed driver (hsame ▸ hdirect)
  refine ⟨filled, hfilled, (hgranted hmade).2 ?_ ?_⟩
  · exact NullDriver.gated Sample.environment hmodule (List.getElem_mem _ : _ ∈ Api.groups .sysman)
  · exact hversion ▸ UInt32.le_refl _

/-- Asked at the oldest version, the table of the only driver has a slot for a newer entry point all
the same. -/
theorem getTable_newer_slot :
    ∃ loader filled, Sample.alone.installed = some loader ∧ loader.drivers ≠ [] ∧
      Sample.engine ∈ Api.groups .sysman ∧
      Sample.alone.getTable Sample.environment Sample.engine .oldest (some [])
        = (.success, some filled, Sample.alone) ∧
      ∃ name slot, (name, slot) ∈ filled ∧ ¬Sample.engine.Covers .oldest name := by
  obtain ⟨loader, driver, hinstalled, hdirect, -, -, hslots⟩ := Sample.exists_alone
  have hanswer := getTable_of_installed Sample.environment hinstalled
    (show Version.current.accepts .oldest = true by decide) Sample.engine []
  rw [Loader.exportTable_of_some hdirect] at hanswer
  have hmem : "zesEngineGetActivityExt" ∈ (Loader.directExports Sample.engine driver).map Prod.fst := by
    rw [hslots]
    decide
  obtain ⟨⟨name, slot⟩, hslot, rfl⟩ := List.mem_map.1 hmem
  refine ⟨loader, _, hinstalled, fun hnone => ?_, List.getElem_mem _, hanswer, _, slot, hslot, ?_⟩
  · rw [Loader.passthrough?_of_undriven hnone] at hdirect
    cases hdirect
  · unfold FeatureGroup.Covers
    decide

end Installation
end DriverLoader
