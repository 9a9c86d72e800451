/-
# The components that a loader reports

A loader reports its own version and the versions of the layers that it was made with.  What should be
reported of these are the layers that stand in the stack (`Loader.ReportsInstalled`).  The tracing layer
is looked for there; the validation layer is reported if it was configured, wherever it is, so the
report is right exactly if the validation layer stands in the stack or there is none
(`Loader.reportsInstalled_iff`).

It stands there until the layers are cleared or the loader is torn down (`Session.mem_stack_after`), and
does not come back unless it is installed by name (`Session.not_mem_stack_after`).  So the report is
right until then and wrong afterwards, which `Session.after_versions` says of every loader.
-/

import DriverLoader.Installation.Exports
import DriverLoader.Proofs.Loader.Switching

namespace DriverLoader

/-- An operation takes all layers out of the stack. -/
def Operation.Clears (operation : Operation) : Prop :=
  operation = clearLayers ∨ operation = teardown

/-- A layer stays in the stack unless all layers are taken out of it. -/
theorem Operation.mem_restack_of_mem {operation : Operation} {tracing id : LayerId}
    {stack : LayerStack} (hmem : id ∈ stack) (hkept : ¬operation.Clears) :
    id ∈ operation.restack tracing stack := by
  have hinserted : ∀ index other, id ∈ stack.inserted index other := by
    intro index other
    obtain hsame | ⟨-, -, hinserted⟩ := LayerStack.inserted_cases stack index other
    · rwa [hsame]
    · rw [hinserted]
      rw [← List.take_append_drop index stack] at hmem
      exact (List.mem_append.1 hmem).elim (List.mem_append_left _)
        fun hlater => List.mem_append_right _ (List.mem_cons_of_mem other hlater)
  cases operation with
  | pushLayer other =>
    show id ∈ stack.pushed other
    rw [LayerStack.pushed_eq]
    split
    · exact List.mem_append_left _ hmem
    · exact hmem
  | insertLayer index other => exact hinserted index other
  | enableTracing => exact hinserted 0 tracing
  | clearLayers => exact absurd (Or.inl rfl) hkept
  | teardown => exact absurd (Or.inr rfl) hkept
  | _ => exact hmem

/-- An operation that clears the stack leaves it empty. -/
theorem Operation.restack_of_clears {operation : Operation} (hclears : operation.Clears)
    (tracing : LayerId) (stack : LayerStack) : operation.restack tracing stack = [] := by
  rcases hclears with rfl | rfl <;> rfl

/-! ### What is reported of a loader -/

namespace Loader

/-- The layers that a loader was made with, and the names of their components. -/
def ownLayers (l : Loader) : List (LayerId × String) :=
  l.validation.toList.map (·, "validation layer") ++ [(l.tracing, "tracing layer")]

/-- What is reported is the loader and then, of its own layers, those that stand in the stack. -/
def ReportsInstalled (l : Loader) : Prop :=
  l.versions = component "loader" ::
    (l.ownLayers.filter fun layer => l.stack.contains layer.1).map fun layer => component layer.2

/-- **The report is right exactly if the validation layer stands in the stack**, if there is one. -/
theorem reportsInstalled_iff {l : Loader} :
    l.ReportsInstalled ↔ ∀ id, l.validation = some id → id ∈ l.stack := by
  unfold ReportsInstalled ownLayers versions tracingInstalled
  cases hvalidation : l.validation with
  | none => cases htracing : l.stack.contains l.tracing <;> simp_all
  | some id =>
    cases htracing : l.stack.contains l.tracing <;> cases hmem : l.stack.contains id <;>
      simp_all [component]

/-- A loader reports itself, its validation layer if it has one, and its tracing layer if that is
installed. -/
theorem versions_eq (l : Loader) :
    l.versions = component "loader" ::
      ((if l.validation.isSome then [component "validation layer"] else []) ++
        if l.tracing ∈ l.stack then [component "tracing layer"] else []) := by
  unfold versions tracingInstalled
  simp only [List.contains_iff_mem, List.cons_append]

end Loader

namespace Installation

variable {ω : Type}

/-- **The exported report.**  It succeeds exactly if there is a place for the number of components, and
room for them all in the array if there is one; it then gives their number and writes them to the front
of the array. -/
theorem versions_of_installed {p : Installation ω} {l : Loader} (hinstalled : p.installed = some l)
    (number : Option Nat) (array : Option (List ComponentVersion)) :
    let answer := p.versions number array
    (answer.1 = .success ↔
        ∃ room, number = some room ∧ (array.isSome → l.versions.length ≤ room)) ∧
      (answer.1 = .success → answer.2.1 = some l.versions.length ∧
        answer.2.2.map (·.take l.versions.length) = array.map fun _ => l.versions) := by
  have hnull : ResultCode.invalidNullPointer ≠ .success := by decide
  have hsize : ResultCode.invalidSize ≠ .success := by decide
  unfold Installation.versions
  rw [hinstalled]
  cases number with
  | none => exact ⟨iff_of_false hnull nofun, fun hsuccess => absurd hsuccess hnull⟩
  | some room =>
    dsimp only
    split
    · rename_i hshort
      simp only [Bool.and_eq_true, decide_eq_true_iff] at hshort
      refine ⟨iff_of_false hsize ?_, fun hsuccess => absurd hsuccess hsize⟩
      rintro ⟨_, hnumber, hroom⟩
      cases hnumber
      exact absurd (hroom hshort.1) (Nat.not_le_of_lt hshort.2)
    · rename_i hfits
      refine ⟨iff_of_true rfl ⟨room, rfl, fun hsome => ?_⟩, fun _ => ⟨rfl, ?_⟩⟩
      · simpa [hsome] using hfits
      · cases array with
        | none => rfl
        | some entries => exact congrArg some List.take_left

end Installation

/-! ### Histories -/

namespace Session

variable {ω : Type} {env : Environment ω} {config : Config} {s start : Session ω} {id : LayerId}
  {history : History}

/-- A loader has the validation layer that it was made with, or none, for good. -/
theorem validation_after (s : Session ω) (env : Environment ω) (history : History) :
    (s.after env history).loader.validation = s.loader.validation :=
  after_induction (P := fun s' => s'.loader.validation = s.loader.validation) rfl history
    fun _ operation _ _ hbefore => (step_keeps env _ operation).validation.trans hbefore

/-- A layer in the stack stays there until the layers are cleared. -/
theorem mem_stack_after (hmem : id ∈ s.loader.stack)
    (hkept : ∀ operation ∈ history, ¬operation.Clears) :
    id ∈ (s.after env history).loader.stack := by
  refine after_induction (P := fun s' => id ∈ s'.loader.stack) hmem history
    fun before operation after hsplit hbefore => ?_
  rw [(step_stacked env _ operation).stack]
  refine Operation.mem_restack_of_mem hbefore (hkept operation ?_)
  exact hsplit ▸ List.mem_append_right before List.mem_cons_self

/-- A layer other than the tracing layer does not come into the stack unless it is installed by
name. -/
theorem not_mem_stack_after (hother : id ≠ s.loader.tracing) (habsent : id ∉ s.loader.stack)
    (hinstalls : ∀ operation ∈ history, ¬operation.Installs id) :
    id ∉ (s.after env history).loader.stack := by
  refine after_induction (P := fun s' => id ∉ s'.loader.stack) habsent history
    fun before operation after hsplit hbefore hmem => ?_
  rw [(step_stacked env _ operation).stack, tracing_after] at hmem
  rcases Operation.mem_restack hmem with hold | htracing | hnamed
  · exact hbefore hold
  · exact hother htracing
  · refine hinstalls operation ?_ hnamed
    exact hsplit ▸ List.mem_append_right before List.mem_cons_self

/-- **The components that a loader reports**, whatever the configuration, however the loader was made
and whatever was done to it since:

* First comes the loader, then the validation layer if one was configured, and then the tracing layer
  if it stands in the stack at that moment.
* So the loader and just those of its own layers that stand in the stack are reported if and only if
  the validation layer stands there or none was configured.
* That is so as long as the layers were not cleared and the loader was not torn down.
* Once they were, and as long as the validation layer is not installed again by name, it is so only if
  no validation layer was configured.
* In a process in which the loader is installed the exported report gives the same number of
  components, and the same components where there is room for them. -/
theorem after_versions (env : Environment ω) (config : Config) (shared : Shared ω)
    (hstart : Fresh env config shared start) (history : History) :
    let l := (start.after env history).loader
    l.versions = Loader.component "loader" ::
        ((if config.validationLayer then [Loader.component "validation layer"] else []) ++
          if l.tracing ∈ l.stack then [Loader.component "tracing layer"] else []) ∧
      (l.ReportsInstalled ↔
        config.validationLayer = false ∨ ∃ id, l.validation = some id ∧ id ∈ l.stack) ∧
      ((∀ operation ∈ history, ¬operation.Clears) → l.ReportsInstalled) ∧
      (∀ before operation later, history = before ++ operation :: later → operation.Clears →
        (∀ id, l.validation = some id → ∀ other ∈ later, ¬other.Installs id) →
          (l.ReportsInstalled ↔ config.validationLayer = false)) ∧
      ∀ (p : Installation ω), p.installed = some l → ∀ number array,
        let answer := p.versions number array
        (answer.1 = .success ↔
            ∃ room, number = some room ∧ (array.isSome → l.versions.length ≤ room)) ∧
          (answer.1 = .success → answer.2.1 = some l.versions.length ∧
            answer.2.2.map (·.take l.versions.length) = array.map fun _ => l.versions) := by
  intro l
  have hfurnished := hstart.furnished
  have hvalidation : l.validation = start.loader.validation := validation_after start env history
  have hconfigured : l.validation.isSome = config.validationLayer :=
    hvalidation ▸ hfurnished.configured
  have hnone : l.validation = none ↔ config.validationLayer = false := by
    rw [← hconfigured, Option.isSome_eq_false_iff, Option.isNone_iff_eq_none]
  refine ⟨?_, ?_, fun hkept => ?_, fun before operation later hsplit hclears hinstalls => ?_,
    fun p hinstalled number array => Installation.versions_of_installed hinstalled number array⟩
  · rw [← hconfigured]
    exact l.versions_eq
  · rw [Loader.reportsInstalled_iff, ← hnone]
    cases l.validation with
    | none => simp
    | some id => simp
  · rw [Loader.reportsInstalled_iff, hvalidation]
    intro id hid
    refine mem_stack_after ?_ hkept
    rw [hfurnished.stack]
    exact List.mem_append_right _ (Option.mem_toList.2 hid)
  · rw [Loader.reportsInstalled_iff, ← hnone]
    constructor
    · intro hreports
      refine Option.eq_none_iff_forall_ne_some.2 fun id hid => ?_
      let cleared := (start.after env before).step env operation
      have hempty : cleared.loader.stack = [] :=
        (step_stacked env _ operation).stack.trans (Operation.restack_of_clears hclears _ _)
      have htracing : cleared.loader.tracing = start.loader.tracing :=
        (step_stacked env _ operation).tracing.trans (tracing_after start env before)
      have hlater : (start.after env history) = cleared.after env later := by
        rw [hsplit, after_append]
        rfl
      have habsent : id ∉ (cleared.after env later).loader.stack := by
        refine not_mem_stack_after ?_ ?_ (hinstalls id hid)
        · rw [htracing]
          exact hfurnished.ne_tracing (hvalidation ▸ hid)
        · rw [hempty]
          exact List.not_mem_nil
      exact habsent (hlater ▸ hreports id hid)
    · intro habsent id hid
      rw [habsent] at hid
      cases hid

namespace Sample

/-- A configuration that asks for validation. -/
def validating : Config :=
  { Config.default with validationLayer := true }

/-- A loader with a validation layer that is torn down, after which tracing is switched on. -/
def tornDown : Session Unit :=
  (empty validating (Shared.start .info ())).after bare [.teardown, .enableTracing]

/-- A process in which this loader is installed. -/
def reporting : Installation Unit :=
  { Installation.start .info () with installed := some tornDown.loader }

end Sample

/-- After a teardown the validation layer is still reported, although only the tracing layer is
installed. -/
theorem after_versions_torn :
    ¬Sample.tornDown.loader.ReportsInstalled ∧
      (Sample.reporting.versions (some 0) none).2.1 = some 3 := by
  obtain ⟨-, -, -, hcleared, hexported⟩ := after_versions Sample.bare Sample.validating
    (Shared.start .info ()) .empty [.teardown, .enableTracing]
  have hreports := hcleared [] .teardown [.enableTracing] rfl (.inr rfl) fun id _ other hother => by
    rw [List.mem_singleton.1 hother]
    rintro (hpush | ⟨index, hinsert⟩)
    · cases hpush
    · cases hinsert
  obtain ⟨hsuccess, hnumber⟩ := hexported Sample.reporting rfl (some 0) none
  exact ⟨fun h => absurd (hreports.1 h) (by decide), (hnumber (hsuccess.2 ⟨0, rfl, nofun⟩)).1⟩

end Session
end DriverLoader
