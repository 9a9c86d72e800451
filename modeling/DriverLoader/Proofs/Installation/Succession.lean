/-
# Which loader is installed

Loaders succeed one another in a process.  One event does one of four things to the installed loader
(`Move`): there is none and none comes, one comes that was brought along or built just now, the one that
is there stays and attends to the event, or it is taken away.  `step_move` says so of every event.  If one
comes while another is being made, it is the one that is installed (`ensureInstalled_rival`).

By induction over a history, a loader that came while none was installed stays until it is taken away,
and what it is then is what the events since made of it (`session?_after_kept`).  Such a stretch of a
history is a `Tenure`; whatever is installed has one (`exists_tenure`).  The answers of the process
follow from it (`after_installed`): who is installed, when an uninstallation fails, and what the process
says about a teardown, a flag that is spread over the installed loader and the process.
-/

import DriverLoader.Installation.History
import DriverLoader.Proofs.Loader.Shift
import Mathlib.Data.List.Induction

namespace DriverLoader

/-- The loader that an event brings along, made beforehand, if it does. -/
def ProcessEvent.brought? : ProcessEvent → Option Loader
  | install loader | installOrExisting loader => some loader
  | ensureInstalled rival => rival
  | _ => none

/-! ### The installed loader attends to an event -/

namespace Session

variable {ω : Type}

/-- What an event that does not take the installed loader away makes of it. -/
def attend (env : Environment ω) (s : Session ω) : ProcessEvent → Session ω
  | .init category flags => s.step env (.init category flags)
  | .operate operation => s.step env operation
  | .installOrExisting _ => s.write .debug "loader already installed, dropping the new one"
  | _ => s

/-- **A teardown has started once the loader was told to tear down.** -/
theorem step_inTeardown (env : Environment ω) (s : Session ω) (operation : Operation) :
    (s.step env operation).loader.inTeardown = true ↔
      s.loader.inTeardown = true ∨ operation = .teardown := by
  by_cases hteardown : operation = .teardown
  · subst hteardown
    have hstarted : (s.step env .teardown).loader.inTeardown = true :=
      (congrArg Loader.inTeardown (teardown_idles s).loader).trans rfl
    exact iff_of_true hstarted (Or.inr rfl)
  · rw [(step_keeps env s operation).inTeardown hteardown, or_iff_left hteardown]

/-- Of all events only a teardown of the loader starts its teardown. -/
theorem attend_inTeardown (env : Environment ω) (s : Session ω) (event : ProcessEvent) :
    (s.attend env event).loader.inTeardown = true ↔
      s.loader.inTeardown = true ∨ event = .operate .teardown := by
  cases event with
  | init category flags => exact (step_inTeardown env s _).trans (by simp)
  | operate operation => exact (step_inTeardown env s operation).trans (by simp)
  | _ => simp [attend, write]

/-- The teardown of a loader has started if it had at first or if one of the events since started
it. -/
theorem foldl_attend_inTeardown (env : Environment ω) (s : Session ω) (events : List ProcessEvent) :
    (events.foldl (attend env) s).loader.inTeardown = true ↔
      s.loader.inTeardown = true ∨ .operate .teardown ∈ events := by
  induction events generalizing s with
  | nil => simp
  | cons event rest ih =>
    rw [List.foldl_cons, ih, attend_inTeardown, List.mem_cons, or_assoc, @eq_comm _ event]

end Session

/-! ### What one event does -/

namespace Installation

variable {ω : Type} {p : Installation ω} {s : Session ω}

/-- There is a session exactly if a loader is installed. -/
theorem session?_eq_none_iff : p.session? = none ↔ p.installed = none :=
  Option.map_eq_none_iff

/-- The session has the installed loader and the surroundings of the process. -/
theorem session?_eq_some_iff :
    p.session? = some s ↔ p.installed = some s.loader ∧ s.toShared = p.toShared := by
  unfold session?
  rw [Option.map_eq_some_iff]
  constructor
  · rintro ⟨loader, hinstalled, rfl⟩
    exact ⟨hinstalled, rfl⟩
  · rintro ⟨hinstalled, hshared⟩
    exact ⟨s.loader, hinstalled, by rw [← hshared]⟩

/-- Where there is a session a loader is installed. -/
theorem installed_ne_none (hsession : p.session? = some s) : p.installed ≠ none := by
  rw [(session?_eq_some_iff.1 hsession).1]
  exact Option.some_ne_none _

/-- What a process goes on with is its session. -/
theorem session?_resume (p : Installation ω) (s : Session ω) : (p.resume s).session? = some s :=
  rfl

/-- The installed loader has the identity that follows those of the retired ones. -/
theorem current?_of_session? (hsession : p.session? = some s) :
    p.current? = some ⟨p.retired.length⟩ := by
  unfold current?
  rw [(session?_eq_some_iff.1 hsession).1]
  rfl

/-- An identity is current exactly if a loader is installed. -/
theorem current?_eq_none_iff : p.current? = none ↔ p.installed = none :=
  Option.map_eq_none_iff

/-- What is done with the installed loader is done with the session. -/
theorem withLoader_of_session? {α : Type} {act : Session ω → α × Session ω}
    (hsession : p.session? = some s) : p.withLoader act = (some (act s).1, p.resume (act s).2) := by
  unfold withLoader
  rw [hsession]

/-- Without an installed loader nothing is done. -/
theorem withLoader_of_vacant {α : Type} {act : Session ω → α × Session ω}
    (hvacant : p.installed = none) : p.withLoader act = (none, p) := by
  unfold withLoader
  rw [session?_eq_none_iff.2 hvacant]

/-! ### The answers of a process in which a loader is installed, or none is -/

/-- While a loader is installed none is made. -/
theorem ensureInstalled_of_current? {id : LoaderId} (hcurrent : p.current? = some id)
    (env : Environment ω) (rival : Option Loader) :
    p.ensureInstalled env rival = (some id, p) := by
  unfold ensureInstalled
  rw [hcurrent]

/-- While a loader is installed no other is. -/
theorem install_of_session? (hsession : p.session? = some s) (loader : Loader) :
    p.install loader = (.error .alreadyInstalled, p) := by
  unfold install
  rw [(session?_eq_some_iff.1 hsession).1]

/-- While a loader is installed any other is dropped, which is logged. -/
theorem installOrExisting_of_current? {id : LoaderId} (hcurrent : p.current? = some id)
    (loader : Loader) :
    p.installOrExisting loader
      = (id, p.write .debug "loader already installed, dropping the new one") := by
  unfold installOrExisting
  rw [hcurrent]

/-- Without a loader there is nothing to take away. -/
theorem uninstall_of_vacant (hvacant : p.installed = none) :
    p.uninstall = (.error .notInstalled, p) := by
  unfold uninstall
  rw [session?_eq_none_iff.2 hvacant]

/-- An installed loader is torn down and retired. -/
theorem uninstall_of_session? (hsession : p.session? = some s) :
    p.uninstall = (.ok s.teardown.1,
      { p with
        toShared := s.teardown.2.toShared
        installed := none
        retired := p.retired ++ [s.teardown.2.loader]
        tornDown := true }) := by
  unfold uninstall
  rw [hsession]

/-- Only the state around the loaders changes. -/
structure Surrounds (p p' : Installation ω) : Prop where
  installed : p'.installed = p.installed
  retired : p'.retired = p.retired
  tornDown : p'.tornDown = p.tornDown

/-- Making a loader does not install it. -/
theorem build_surrounds (env : Environment ω) (p : Installation ω) : p.Surrounds (p.build env).2 := by
  unfold build
  dsimp only
  split <;> exact ⟨rfl, rfl, rfl⟩

/-- A loader took the empty place of the installed one. -/
structure Takes (p : Installation ω) (loader : Loader) (p' : Installation ω) : Prop where
  installed : p'.installed = some loader
  retired : p'.retired = p.retired

/-- A loader that is installed in an empty place takes it, under the next identity. -/
theorem install_takes (hvacant : p.installed = none) (loader : Loader) :
    (p.install loader).1 = .ok ⟨p.retired.length⟩ ∧ p.Takes loader (p.install loader).2 := by
  unfold install
  rw [hvacant]
  exact ⟨rfl, rfl, rfl⟩

/-- A loader that gives way to an installed one takes an empty place, under the next identity. -/
theorem installOrExisting_takes (hvacant : p.installed = none) (loader : Loader) :
    (p.installOrExisting loader).1 = ⟨p.retired.length⟩ ∧
      p.Takes loader (p.installOrExisting loader).2 := by
  unfold installOrExisting
  rw [current?_eq_none_iff.2 hvacant]
  exact ⟨rfl, rfl, rfl⟩

/-- **A rival wins.**  Where no loader is installed, one that comes while another is being made takes the
place, whatever becomes of the other. -/
theorem ensureInstalled_rival (hvacant : p.installed = none) (env : Environment ω) (rival : Loader) :
    (p.ensureInstalled env (some rival)).1 = some ⟨p.retired.length⟩ ∧
      p.Takes rival (p.ensureInstalled env (some rival)).2 := by
  have hmade := build_surrounds env p
  unfold ensureInstalled meet
  rw [current?_eq_none_iff.2 hvacant]
  generalize p.build env = built at hmade
  obtain ⟨result, made⟩ := built
  dsimp only at hmade ⊢
  have htakes := (install_takes (hmade.installed.trans hvacant) rival).2
  generalize (made.install rival).2 = met at htakes
  have hretired : met.retired = p.retired := htakes.retired.trans hmade.retired
  have hcurrent : met.current? = some ⟨p.retired.length⟩ := by
    unfold current?
    rw [htakes.installed, hretired]
    rfl
  cases result with
  | error failure => exact ⟨hcurrent, htakes.installed, hretired⟩
  | ok dropped =>
    dsimp only
    rw [installOrExisting_of_current? hcurrent]
    exact ⟨rfl, htakes.installed, hretired⟩

/-- Without a rival the loader that is made takes the place, and if none can be made there is still
none. -/
theorem ensureInstalled_alone (hvacant : p.installed = none) (env : Environment ω) :
    let outcome := p.ensureInstalled env none
    (outcome.1 = none ∧ p.Surrounds outcome.2 ∧ ∃ failure, (p.build env).1 = .error failure) ∨
      ∃ loader, (p.build env).1 = .ok loader ∧ outcome.1 = some ⟨p.retired.length⟩ ∧
        p.Takes loader outcome.2 := by
  have hmade := build_surrounds env p
  unfold ensureInstalled meet
  rw [current?_eq_none_iff.2 hvacant]
  generalize p.build env = built at hmade
  obtain ⟨result, made⟩ := built
  dsimp only at hmade ⊢
  have hfree : made.installed = none := hmade.installed.trans hvacant
  cases result with
  | error failure =>
    exact Or.inl ⟨current?_eq_none_iff.2 hfree,
      ⟨hmade.installed, hmade.retired, hmade.tornDown⟩, failure, rfl⟩
  | ok loader =>
    obtain ⟨hid, hinstalled, hretired⟩ := installOrExisting_takes hfree loader
    refine Or.inr ⟨loader, rfl, ?_, hinstalled, hretired.trans hmade.retired⟩
    rw [← hmade.retired]
    exact congrArg some hid

/-- What a getter does to a process is that it sees to it that a loader is installed. -/
theorem getTable_state (env : Environment ω) (group : FeatureGroup) (asked : Version)
    (table : Option ExportedTable) (p : Installation ω) :
    (p.getTable env group asked table).2.2 = (p.ensureInstalled env none).2 := by
  unfold getTable
  dsimp only
  split
  · rfl
  · split
    · rfl
    · split <;> rfl

/-- What an initialisation does to a process: it is done with the loader that is installed by then. -/
theorem init_state (env : Environment ω) (category : Category) (flags : UInt32) (p : Installation ω) :
    (p.init env category flags).2
      = ((p.ensureInstalled env none).2.withLoader (Session.init env category flags)).2 :=
  rfl

/-- The session with the loader that took the place. -/
theorem Takes.session? {p' : Installation ω} {loader : Loader} (htakes : p.Takes loader p') :
    p'.session? = some { p'.toShared with loader := loader } := by
  unfold Installation.session?
  rw [htakes.installed]
  rfl

/-- What one event does to the installed loader. -/
inductive Move (env : Environment ω) (p : Installation ω) (event : ProcessEvent)
    (p' : Installation ω) : Prop where
  /-- No loader is installed, and none comes. -/
  | vacant (before : p.installed = none) (after : p.Surrounds p')
  /-- A loader comes that the event brings along or that is built from the configuration. -/
  | arrived (s : Session ω) (before : p.installed = none)
      (source : event.brought? = some s.loader ∨ (p.build env).1 = .ok s.loader)
      (after : p.Takes (s.attend env event).loader p')
  /-- The installed loader stays and attends to the event. -/
  | stayed (s : Session ω) (other : event ≠ .uninstall) (before : p.session? = some s)
      (after : p'.session? = some (s.attend env event)) (retired : p'.retired = p.retired)
  /-- The installed loader is taken away and torn down. -/
  | left (s : Session ω) (cause : event = .uninstall) (before : p.session? = some s)
      (after : p'.installed = none) (retired : p'.retired = p.retired ++ [s.teardown.2.loader])
      (tornDown : p'.tornDown = true)

/-- Where no loader is installed, an event that only sees to it that one is brings the rival or a loader
made from the configuration, or none. -/
theorem ensureInstalled_move (hvacant : p.installed = none) (env : Environment ω)
    {event : ProcessEvent} {rival : Option Loader} (hbrings : event.brought? = rival)
    (hidle : ∀ s : Session ω, s.attend env event = s) :
    Move env p event (p.ensureInstalled env rival).2 := by
  cases rival with
  | some rival =>
    refine .arrived { p.toShared with loader := rival } hvacant (Or.inl hbrings) ?_
    rw [hidle]
    exact (ensureInstalled_rival hvacant env rival).2
  | none =>
    rcases ensureInstalled_alone hvacant env with ⟨-, hnone, -⟩ | ⟨loader, hbuilt, -, htakes⟩
    · exact .vacant hvacant hnone
    · refine .arrived { p.toShared with loader := loader } hvacant (Or.inr hbuilt) ?_
      rwa [hidle]

/-- Where no loader is installed, an event may bring one. -/
theorem step_of_vacant (hvacant : p.installed = none) (env : Environment ω) (event : ProcessEvent) :
    Move env p event (p.step env event) := by
  cases event with
  | configure key value => exact .vacant hvacant ⟨rfl, rfl, rfl⟩
  | install loader =>
    exact .arrived { p.toShared with loader := loader } hvacant (Or.inl rfl)
      (install_takes hvacant loader).2
  | installOrExisting loader =>
    exact .arrived { p.toShared with loader := loader } hvacant (Or.inl rfl)
      (installOrExisting_takes hvacant loader).2
  | ensureInstalled rival => exact ensureInstalled_move hvacant env rfl fun _ => rfl
  | uninstall =>
    have hkept : p.step env .uninstall = p := congrArg Prod.snd (uninstall_of_vacant hvacant)
    rw [hkept]
    exact .vacant hvacant ⟨rfl, rfl, rfl⟩
  | getTable group asked table =>
    rw [show p.step env (.getTable group asked table) = _ from getTable_state ..]
    exact ensureInstalled_move hvacant env rfl fun _ => rfl
  | init category flags =>
    rw [show p.step env (.init category flags) = _ from init_state ..]
    rcases ensureInstalled_alone hvacant env with ⟨-, hnone, -⟩ | ⟨loader, hbuilt, -, htakes⟩
    · rw [withLoader_of_vacant (hnone.installed.trans hvacant)]
      exact .vacant hvacant hnone
    · rw [withLoader_of_session? htakes.session?]
      exact .arrived _ hvacant (Or.inr hbuilt) ⟨rfl, htakes.retired⟩
  | operate operation =>
    have hkept : p.step env (.operate operation) = p :=
      congrArg Prod.snd (withLoader_of_vacant hvacant)
    rw [hkept]
    exact .vacant hvacant ⟨rfl, rfl, rfl⟩

/-- An installed loader stays until it is taken away. -/
theorem step_of_session? (hsession : p.session? = some s) (env : Environment ω)
    {event : ProcessEvent} (hother : event ≠ .uninstall) :
    (p.step env event).session? = some (s.attend env event) ∧
      (p.step env event).retired = p.retired := by
  have hcurrent := current?_of_session? hsession
  cases event with
  | configure key value => exact ⟨hsession, rfl⟩
  | install loader =>
    have hkept : p.step env (.install loader) = p :=
      congrArg Prod.snd (install_of_session? hsession loader)
    rw [hkept]
    exact ⟨hsession, rfl⟩
  | installOrExisting loader =>
    have hlogged : p.step env (.installOrExisting loader)
        = p.write .debug "loader already installed, dropping the new one" :=
      congrArg Prod.snd (installOrExisting_of_current? hcurrent loader)
    rw [hlogged]
    obtain ⟨hinstalled, hshared⟩ := session?_eq_some_iff.1 hsession
    exact ⟨session?_eq_some_iff.2 ⟨hinstalled, congrArg (Shared.write · _ _) hshared⟩, rfl⟩
  | ensureInstalled rival =>
    have hkept : p.step env (.ensureInstalled rival) = p :=
      congrArg Prod.snd (ensureInstalled_of_current? hcurrent env rival)
    rw [hkept]
    exact ⟨hsession, rfl⟩
  | uninstall => exact absurd rfl hother
  | getTable group asked table =>
    have hkept : p.step env (.getTable group asked table) = p :=
      (getTable_state ..).trans (congrArg Prod.snd (ensureInstalled_of_current? hcurrent env none))
    rw [hkept]
    exact ⟨hsession, rfl⟩
  | init category flags =>
    have hresumed : p.step env (.init category flags) = p.resume (s.init env category flags).2 := by
      rw [show p.step env (.init category flags) = _ from init_state ..,
        ensureInstalled_of_current? hcurrent]
      exact congrArg Prod.snd (withLoader_of_session? hsession)
    rw [hresumed]
    exact ⟨session?_resume .., rfl⟩
  | operate operation =>
    have hresumed : p.step env (.operate operation) = p.resume (s.step env operation) :=
      congrArg Prod.snd (withLoader_of_session? hsession)
    rw [hresumed]
    exact ⟨session?_resume .., rfl⟩

/-- **What any one event does to the installed loader.** -/
theorem step_move (env : Environment ω) (p : Installation ω) (event : ProcessEvent) :
    Move env p event (p.step env event) := by
  cases hsession : p.session? with
  | none => exact step_of_vacant (session?_eq_none_iff.1 hsession) env event
  | some s =>
    by_cases hcause : event = .uninstall
    · subst hcause
      have htorn := congrArg Prod.snd (uninstall_of_session? hsession)
      exact .left s rfl hsession (congrArg installed htorn) (congrArg retired htorn)
        (congrArg tornDown htorn)
    · obtain ⟨hafter, hretired⟩ := step_of_session? hsession env hcause
      exact .stayed s hcause hsession hafter hretired

/-! ### Tenures -/

/-- The event takes the installed loader away. -/
def Removes (p : Installation ω) (event : ProcessEvent) : Prop :=
  event = .uninstall ∧ p.uninstall.1.isOk = true

/-- An uninstallation fails if there is nothing to take away; otherwise nothing is left. -/
theorem uninstall_spec (p : Installation ω) :
    (p.uninstall = (.error .notInstalled, p) ∧ p.installed = none) ∨
      (∃ report, p.uninstall.1 = .ok report) ∧ p.uninstall.2.installed = none ∧
        p.installed ≠ none := by
  cases hsession : p.session? with
  | none =>
    have hvacant := session?_eq_none_iff.1 hsession
    exact Or.inl ⟨uninstall_of_vacant hvacant, hvacant⟩
  | some s =>
    rw [uninstall_of_session? hsession, (session?_eq_some_iff.1 hsession).1]
    exact Or.inr ⟨⟨s.teardown.1, rfl⟩, rfl, Option.some_ne_none _⟩

/-- An uninstallation succeeds exactly if a loader is installed. -/
theorem uninstall_isOk_iff : p.uninstall.1.isOk = true ↔ p.installed ≠ none := by
  rcases uninstall_spec p with ⟨hfailed, hvacant⟩ | ⟨⟨report, hok⟩, -, hinstalled⟩
  · rw [hfailed, hvacant]
    exact iff_of_false Bool.false_ne_true (fun hsome => hsome rfl)
  · rw [hok]
    exact iff_of_true rfl hinstalled

/-- Every uninstallation takes away a loader that is installed. -/
theorem removes_iff {event : ProcessEvent} :
    p.Removes event ↔ event = .uninstall ∧ p.installed ≠ none :=
  and_congr_right' uninstall_isOk_iff

/-- No event of a history takes an installed loader away. -/
def Keeps (env : Environment ω) (p : Installation ω) : List ProcessEvent → Prop
  | [] => True
  | event :: rest => ¬p.Removes event ∧ (p.step env event).Keeps env rest

/-- A history in two parts keeps the loader if both parts do. -/
theorem keeps_append (env : Environment ω) (p : Installation ω) (first second : List ProcessEvent) :
    p.Keeps env (first ++ second) ↔ p.Keeps env first ∧ (p.after env first).Keeps env second := by
  induction first generalizing p with
  | nil => simp [Keeps]
  | cons event rest ih => exact (and_congr_right' (ih _)).trans and_assoc.symm

/-- A history does not keep the loader exactly if some uninstallation in it succeeds. -/
theorem not_keeps_iff (env : Environment ω) (p : Installation ω) (history : List ProcessEvent) :
    ¬p.Keeps env history ↔ ∃ before rest, history = before ++ .uninstall :: rest ∧
      (p.after env before).uninstall.1.isOk = true := by
  constructor
  · intro hremoved
    induction history generalizing p with
    | nil => exact absurd trivial hremoved
    | cons event rest ih =>
      by_cases hfirst : p.Removes event
      · obtain ⟨rfl, hok⟩ := hfirst
        exact ⟨[], rest, rfl, hok⟩
      · obtain ⟨before, after, rfl, hok⟩ :=
          ih (p.step env event) fun hrest => hremoved ⟨hfirst, hrest⟩
        exact ⟨event :: before, after, rfl, hok⟩
  · rintro ⟨before, rest, rfl, hok⟩ hkeeps
    exact ((keeps_append env p before _).1 hkeeps).2.1 ⟨rfl, hok⟩

/-- The last event of a history comes after all others. -/
theorem after_concat (env : Environment ω) (p : Installation ω) (history : List ProcessEvent)
    (event : ProcessEvent) :
    p.after env (history ++ [event]) = (p.after env history).step env event :=
  after_append env p history [event]

/-- An installed loader that is not taken away attends to what happens, and keeps its identity. -/
theorem session?_after_kept (env : Environment ω) {history : List ProcessEvent}
    (hsession : p.session? = some s) (hkeeps : p.Keeps env history) :
    (p.after env history).session? = some (history.foldl (Session.attend env) s) ∧
      (p.after env history).retired = p.retired := by
  induction history generalizing p s with
  | nil => exact ⟨hsession, rfl⟩
  | cons event rest ih =>
    obtain ⟨hfirst, hrest⟩ := hkeeps
    have hother : event ≠ .uninstall :=
      fun hcause => hfirst (removes_iff.2 ⟨hcause, installed_ne_none hsession⟩)
    obtain ⟨hafter, hretired⟩ := step_of_session? hsession env hother
    obtain ⟨hlast, hsame⟩ := ih hafter hrest
    exact ⟨hlast, hsame.trans hretired⟩

/-- A loader came while none was installed, and during the rest of the history it was not taken away:
the session right after it came, its identity, and what happened since. -/
inductive Tenure (env : Environment ω) (origin : Installation ω) :
    List ProcessEvent → Session ω → LoaderId → List ProcessEvent → Prop where
  | intro {before later : List ProcessEvent} {event : ProcessEvent} {s : Session ω} {id : LoaderId}
      (vacant : (origin.after env before).installed = none)
      (arrived : ((origin.after env before).step env event).session? = some s)
      (identity : ((origin.after env before).step env event).current? = some id)
      (kept : ((origin.after env before).step env event).Keeps env later) :
      Tenure env origin (before ++ event :: later) s id later

variable {env : Environment ω} {origin : Installation ω} {history later : List ProcessEvent}
  {id : LoaderId}

/-- During its tenure a loader is the one that is installed, under the identity that it came with. -/
theorem Tenure.session? (htenure : Tenure env origin history s id later) :
    (origin.after env history).session? = some (later.foldl (Session.attend env) s) ∧
      (origin.after env history).current? = some id := by
  obtain ⟨hvacant, harrived, hidentity, hkept⟩ := htenure
  obtain ⟨hsession, hretired⟩ := session?_after_kept env harrived hkept
  rw [after_append]
  refine ⟨hsession, (current?_of_session? hsession).trans ?_⟩
  rw [← hidentity, current?_of_session? harrived]
  exact congrArg (fun retired => some (LoaderId.mk retired.length)) hretired

/-- While a loader is installed the process reports its teardown. -/
theorem inTeardown_of_session? (hsession : p.session? = some s) :
    p.inTeardown = s.loader.inTeardown := by
  unfold inTeardown
  rw [(session?_eq_some_iff.1 hsession).1]

/-- While no loader is installed the process reports the teardown that it remembers. -/
theorem inTeardown_of_vacant (hvacant : p.installed = none) : p.inTeardown = p.tornDown := by
  unfold inTeardown
  rw [hvacant]

/-- During a tenure a teardown is reported if the loader came torn down or was torn down since. -/
theorem Tenure.inTeardown_iff (htenure : Tenure env origin history s id later) :
    (origin.after env history).inTeardown = true ↔
      s.loader.inTeardown = true ∨ .operate .teardown ∈ later := by
  rw [inTeardown_of_session? htenure.session?.1]
  exact Session.foldl_attend_inTeardown env s later

/-- A tenure goes on while the loader is not taken away. -/
theorem Tenure.concat (htenure : Tenure env origin history s id later) {event : ProcessEvent}
    (hkept : ¬(origin.after env history).Removes event) :
    Tenure env origin (history ++ [event]) s id (later ++ [event]) := by
  obtain ⟨hvacant, harrived, hidentity, hkeeps⟩ := htenure
  rw [after_append] at hkept
  rw [List.append_assoc, List.cons_append]
  exact .intro hvacant harrived hidentity ((keeps_append ..).2 ⟨hkeeps, hkept, trivial⟩)

/-- Whatever is installed came at some point and was not taken away since. -/
theorem exists_tenure (hvacant : origin.installed = none)
    (hinstalled : (origin.after env history).installed ≠ none) :
    ∃ s id later, Tenure env origin history s id later := by
  induction history using List.reverseRecOn with
  | nil => exact absurd hvacant hinstalled
  | append_singleton history event ih =>
    rw [after_concat] at hinstalled
    cases step_move env (origin.after env history) event with
    | vacant before after => exact absurd (after.installed.trans before) hinstalled
    | arrived s before source after =>
      exact ⟨_, _, [], .intro before after.session? (current?_of_session? after.session?) trivial⟩
    | stayed s other before after retired =>
      obtain ⟨first, id, later, htenure⟩ := ih (installed_ne_none before)
      exact ⟨first, id, later ++ [event], htenure.concat fun hremoves => other hremoves.1⟩
    | left s cause before after retired tornDown => exact absurd after hinstalled

/-- While no loader is installed, the process remembers whether one was taken away. -/
theorem tornDown_iff (hfresh : origin.tornDown = false)
    (hnone : (origin.after env history).installed = none) :
    (origin.after env history).tornDown = true ↔ ¬origin.Keeps env history := by
  induction history using List.reverseRecOn with
  | nil => simp [hfresh, Keeps]
  | append_singleton history event ih =>
    rw [after_concat] at hnone ⊢
    rw [keeps_append]
    cases step_move env (origin.after env history) event with
    | vacant before after =>
      have hkept : ¬(origin.after env history).Removes event :=
        fun hremoves => (removes_iff.1 hremoves).2 before
      rw [after.tornDown, ih before, not_iff_not]
      exact (and_iff_left ⟨hkept, trivial⟩).symm
    | arrived s before source after => exact absurd hnone (installed_ne_none after.session?)
    | stayed s other before after retired => exact absurd hnone (installed_ne_none after)
    | left s cause before after retired tornDown =>
      have hremoves := removes_iff.2 ⟨cause, installed_ne_none before⟩
      exact iff_of_true tornDown fun hkeeps => hkeeps.2.1 hremoves

/-- **Who is installed in a process.**  In every state that a history of a process leads to:

* A loader that came while none was installed stays the installed one until an uninstallation succeeds.
  It is under the same identity what the events since made of it; installing another one fails with
  "already installed" and changes nothing, and whoever would rather have one installed or made gets it.
  Whatever is installed came in this way.
* While none is installed, a loader can be installed.
* An uninstallation fails exactly if no loader is installed, always with "not installed", and then
  changes nothing; otherwise no loader is installed afterwards.
* A teardown is reported exactly if the installed loader's has started, before it came or since, or if
  no loader is installed and some uninstallation has succeeded. -/
theorem after_installed (env : Environment ω) (level : LogLevel) (world : ω)
    (history : List ProcessEvent) :
    let origin := start level world
    let p := origin.after env history
    (∀ s id later, Tenure env origin history s id later →
        p.session? = some (later.foldl (Session.attend env) s) ∧ p.current? = some id ∧
          ∀ loader rival, p.install loader = (.error .alreadyInstalled, p) ∧
            p.installOrExisting loader
              = (id, p.write .debug "loader already installed, dropping the new one") ∧
            p.ensureInstalled env rival = (some id, p)) ∧
      (p.installed ≠ none → ∃ s id later, Tenure env origin history s id later) ∧
      (p.installed = none → ∀ loader,
        (p.install loader).1 = .ok ⟨p.retired.length⟩ ∧
          (p.install loader).2.installed = some loader ∧
          (p.installOrExisting loader).1 = ⟨p.retired.length⟩ ∧
          (p.installOrExisting loader).2.installed = some loader) ∧
      (p.uninstall.1 = .error .notInstalled ↔ p.installed = none) ∧
      (∀ failure, p.uninstall.1 = .error failure → failure = .notInstalled ∧ p.uninstall.2 = p) ∧
      p.uninstall.2.installed = none ∧
      (p.inTeardown = true ↔
        (∃ s id later, Tenure env origin history s id later ∧
            (s.loader.inTeardown = true ∨ .operate .teardown ∈ later)) ∨
          p.installed = none ∧ ∃ before rest, history = before ++ .uninstall :: rest ∧
            (origin.after env before).uninstall.1.isOk = true) := by
  intro origin p
  have huninstall := uninstall_spec p
  refine ⟨fun s id later htenure => ?_, exists_tenure rfl, fun hvacant loader => ?_, ?_, ?_, ?_, ?_⟩
  · obtain ⟨hsession, hcurrent⟩ := htenure.session?
    exact ⟨hsession, hcurrent, fun loader rival => ⟨install_of_session? hsession loader,
      installOrExisting_of_current? hcurrent loader, ensureInstalled_of_current? hcurrent env rival⟩⟩
  · obtain ⟨hid, htakes⟩ := install_takes hvacant loader
    obtain ⟨hid', htakes'⟩ := installOrExisting_takes hvacant loader
    exact ⟨hid, htakes.installed, hid', htakes'.installed⟩
  · rcases huninstall with ⟨hfailed, hvacant⟩ | ⟨⟨report, hok⟩, -, hinstalled⟩
    · rw [hfailed]
      exact iff_of_true rfl hvacant
    · rw [hok]
      exact iff_of_false nofun hinstalled
  · intro failure hfailure
    rcases huninstall with ⟨hfailed, -⟩ | ⟨⟨report, hok⟩, -, -⟩
    · rw [hfailed] at hfailure ⊢
      exact ⟨(Except.error.inj hfailure).symm, rfl⟩
    · rw [hok] at hfailure
      cases hfailure
  · rcases huninstall with ⟨hfailed, hvacant⟩ | ⟨-, hvacant, -⟩
    · rw [hfailed]
      exact hvacant
    · exact hvacant
  · constructor
    · intro hteardown
      by_cases hvacant : p.installed = none
      · rw [inTeardown_of_vacant hvacant] at hteardown
        exact Or.inr ⟨hvacant, (not_keeps_iff ..).1 ((tornDown_iff rfl hvacant).1 hteardown)⟩
      · obtain ⟨s, id, later, htenure⟩ : ∃ s id later, Tenure env origin history s id later :=
          exists_tenure rfl hvacant
        exact Or.inl ⟨s, id, later, htenure, htenure.inTeardown_iff.1 hteardown⟩
    · rintro (⟨s, id, later, htenure, hstarted⟩ | ⟨hvacant, hremoved⟩)
      · exact htenure.inTeardown_iff.2 hstarted
      · rw [inTeardown_of_vacant hvacant]
        exact (tornDown_iff rfl hvacant).2 ((not_keeps_iff ..).2 hremoved)

namespace Sample

/-- A process in which no driver library can be opened. -/
def environment : Environment Unit :=
  { Dispatch.Sample.environment with opens := fun _ => false }

/-- A loader without drivers. -/
def loader : Loader :=
  (Session.empty Config.default (Shared.start .info ())).loader

/-- A loader is installed, torn down and taken away, and the attempt to make another one fails. -/
def failed : List ProcessEvent :=
  [.install loader, .operate .teardown, .uninstall, .ensureInstalled none]

/-- While a loader is installed, another one is turned away, and the installed one is torn down. -/
def turnedAway : List ProcessEvent :=
  [.install loader, .ensureInstalled none, .operate .teardown]

end Sample

/-- After a loader was taken away the teardown is reported until the next one comes, which then stays
the installed one; its own teardown is reported again. -/
theorem after_installed_again :
    let origin : Installation Unit := start .info ()
    let left := origin.after Sample.environment Sample.failed
    let p := origin.after Sample.environment
      (Sample.failed ++ .installOrExisting Sample.loader :: Sample.turnedAway)
    left.inTeardown = true ∧
      ∃ s, (left.installOrExisting Sample.loader).2.session? = some s ∧
        s.loader.inTeardown = false ∧
        p.session? = some (Sample.turnedAway.foldl (Session.attend Sample.environment) s) ∧
        p.current? = some ⟨1⟩ ∧ p.inTeardown = true := by
  intro origin left p
  have hvacant : left.installed = none := Option.isNone_iff_eq_none.1 (by decide +kernel)
  have hremoved : ((start .info ()).after Sample.environment
      [.install Sample.loader, .operate .teardown]).uninstall.1.isOk = true := by decide +kernel
  have hretired : left.retired.length = 1 := by decide +kernel
  have harrived := (installOrExisting_takes hvacant Sample.loader).2
  obtain ⟨-, -, -, -, -, -, hleft⟩ := after_installed Sample.environment .info () Sample.failed
  refine ⟨hleft.2 (Or.inr ⟨hvacant, _, [.ensureInstalled none], rfl, hremoved⟩), _,
    harrived.session?, rfl, ?_⟩
  have hcurrent : (left.installOrExisting Sample.loader).2.current? = some ⟨1⟩ := by
    rw [current?_of_session? harrived.session?, harrived.retired, hretired]
  have htenure : Tenure Sample.environment origin
      (Sample.failed ++ .installOrExisting Sample.loader :: Sample.turnedAway) _ ⟨1⟩
      Sample.turnedAway :=
    .intro hvacant harrived.session? hcurrent ⟨nofun, nofun, nofun, trivial⟩
  obtain ⟨hstays, -, -, -, -, -, hteardown⟩ := after_installed Sample.environment .info ()
    (Sample.failed ++ .installOrExisting Sample.loader :: Sample.turnedAway)
  obtain ⟨hsession, hidentity, -⟩ := hstays _ _ _ htenure
  refine ⟨hsession, hidentity, hteardown.2 (Or.inl ⟨_, _, _, htenure, Or.inr ?_⟩)⟩
  exact List.mem_cons_of_mem _ (List.mem_cons_of_mem _ List.mem_cons_self)

end Installation
end DriverLoader
