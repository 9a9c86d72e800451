/-
# The tracing switch

Two things decide whether a loader traces: its tracing layer stands in the stack or not, and it is
active or not.  Switching tracing on first installs the layer, which fails if the stack is full without
it, and then activates it (`Enables`); switching it off only deactivates it.  Clearing the stack and
tearing down touch the one and not the other.

Whatever was done to a loader, short of pushing its tracing layer by name, its stack holds at most eight
layers and its tracing layer at most once (`Orderly.after`).  All that the switch does follows from
this (`Orderly.switchesTracing`), and `after_switchesTracing` says so of every loader.
-/

import DriverLoader.Proofs.Discovery.Found
import DriverLoader.Proofs.Loader.Stack

namespace DriverLoader

/-! ### Stacks -/

namespace LayerStack

variable {stack : LayerStack} {id other : LayerId}

/-- Pushing does not make a stack longer than it may be. -/
theorem length_pushed_le (hfits : stack.length ≤ capacity) (id : LayerId) :
    (stack.pushed id).length ≤ capacity := by
  rw [pushed_eq]
  split
  · simpa using ‹_›
  · exact hfits

/-- Inserting does not make a stack longer than it may be. -/
theorem length_inserted_le (hfits : stack.length ≤ capacity) (index : Nat) (id : LayerId) :
    (stack.inserted index id).length ≤ capacity := by
  obtain hsame | ⟨-, hroom, hinserted⟩ := inserted_cases stack index id
  · rwa [hsame]
  · rw [hinserted, List.length_append, List.length_cons, List.length_take, List.length_drop]
    omega

/-- Pushing another layer leaves the number of places of a layer as it is. -/
theorem count_pushed_of_ne (hne : other ≠ id) (stack : LayerStack) :
    (stack.pushed other).count id = stack.count id := by
  rw [pushed_eq]
  split
  · rw [List.count_append, List.count_singleton, if_neg (mt beq_iff_eq.1 hne), Nat.add_zero]
  · rfl

/-- A layer that is inserted was absent, so that no layer comes to stand twice. -/
theorem count_inserted_le (honce : stack.count id ≤ 1) (index : Nat) (other : LayerId) :
    (stack.inserted index other).count id ≤ 1 := by
  obtain hsame | ⟨habsent, -, hinserted⟩ := inserted_cases stack index other
  · rwa [hsame]
  · have hsplit : (stack.take index).count id + (stack.drop index).count id = stack.count id := by
      rw [← List.count_append, List.take_append_drop]
    rw [hinserted, List.count_append, List.count_cons]
    split
    · rename_i heq
      rw [← beq_iff_eq.1 heq, List.count_eq_zero_of_not_mem habsent] at hsplit
      rw [← beq_iff_eq.1 heq]
      omega
    · omega

/-- A layer that stands in the stack or has room there comes to stand outermost or stays. -/
theorem inserted_zero (hroom : id ∈ stack ∨ stack.length < capacity) :
    stack.inserted 0 id = if id ∈ stack then stack else id :: stack := by
  unfold inserted
  by_cases hmem : id ∈ stack
  · rw [insert_of_mem hmem, if_pos hmem]
  · rw [insert_of_room hmem (hroom.resolve_left hmem), if_neg hmem]
    rfl

/-- Inserting a layer leaves the others and their order as they are. -/
theorem filter_inserted (stack : LayerStack) (index : Nat) (id : LayerId) :
    (stack.inserted index id).filter (· ≠ id) = stack.filter (· ≠ id) := by
  obtain hsame | ⟨-, -, hinserted⟩ := inserted_cases stack index id
  · rw [hsame]
  · rw [hinserted, List.filter_append, List.filter_cons_of_neg (by simp), ← List.filter_append,
      List.take_append_drop]

end LayerStack

namespace Layers

variable {layers : Layers} {id : LayerId}

/-- Putting back a layer that is there changes nothing. -/
theorem put_self {layer : Layer} (hget : layers.get? id = some layer) :
    layers.put id layer = layers := by
  obtain ⟨hlt, rfl⟩ := List.getElem?_eq_some_iff.1 hget
  exact List.set_getElem_self hlt

/-- A tracing layer that is put in place of another is found there. -/
theorem tracing?_put {old : TracingLayer} (hold : layers.tracing? id = some old)
    (new : TracingLayer) : (layers.put id (.tracing new)).tracing? id = some new := by
  obtain ⟨hlt, -⟩ := List.getElem?_eq_some_iff.1 (tracing?_eq_some.1 hold)
  exact tracing?_eq_some.2 (List.getElem?_set_self hlt)

end Layers

namespace Operation

variable {tracing : LayerId} {stack : LayerStack}

/-- No operation makes a stack longer than it may be. -/
theorem length_restack_le (hfits : stack.length ≤ LayerStack.capacity) (tracing : LayerId)
    (operation : Operation) : (operation.restack tracing stack).length ≤ LayerStack.capacity := by
  cases operation with
  | pushLayer id => exact LayerStack.length_pushed_le hfits id
  | insertLayer index id => exact LayerStack.length_inserted_le hfits index id
  | enableTracing => exact LayerStack.length_inserted_le hfits 0 tracing
  | clearLayers => exact Nat.zero_le _
  | teardown => exact Nat.zero_le _
  | _ => exact hfits

/-- The tracing layer does not come to stand twice, unless it is pushed by name. -/
theorem count_restack_le (honce : stack.count tracing ≤ 1) {operation : Operation}
    (hother : operation ≠ .pushLayer tracing) :
    (operation.restack tracing stack).count tracing ≤ 1 := by
  cases operation with
  | pushLayer id =>
    have hne : id ≠ tracing := fun h => hother (congrArg pushLayer h)
    exact Nat.le_trans (Nat.le_of_eq (LayerStack.count_pushed_of_ne hne stack)) honce
  | insertLayer index id => exact LayerStack.count_inserted_le honce index id
  | enableTracing => exact LayerStack.count_inserted_le honce 0 tracing
  | clearLayers => exact Nat.zero_le _
  | teardown => exact Nat.zero_le _
  | _ => exact honce

end Operation

namespace Session

variable {ω : Type} {env : Environment ω} {config : Config} {s start : Session ω}

/-! ### What holds of the stack at all times -/

/-- A loader with a configuration whose stack is not too long and holds the tracing layer at most
once. -/
structure Orderly (config : Config) (s : Session ω) : Prop where
  config : s.loader.config = config
  known : s.TracingKnown
  fits : s.loader.stack.length ≤ LayerStack.capacity
  once : s.loader.stack.count s.loader.tracing ≤ 1

/-- One operation keeps the stack in order, unless it pushes the tracing layer. -/
theorem Orderly.step (hs : s.Orderly config) (env : Environment ω) {operation : Operation}
    (hother : operation ≠ .pushLayer s.loader.tracing) : (s.step env operation).Orderly config := by
  have hstacked := step_stacked env s operation
  refine ⟨(step_keeps env s operation).config.trans hs.config, hs.known.step env operation, ?_, ?_⟩
  · rw [hstacked.stack]
    exact Operation.length_restack_le hs.fits _ operation
  · rw [hstacked.stack, hstacked.tracing]
    exact Operation.count_restack_le hs.once hother

/-- No operation exchanges the tracing layer of a loader. -/
theorem tracing_after (s : Session ω) (env : Environment ω) (history : History) :
    (s.after env history).loader.tracing = s.loader.tracing :=
  after_induction (P := fun s' => s'.loader.tracing = s.loader.tracing) rfl history
    fun _ operation _ _ hbefore => (step_stacked env _ operation).tracing.trans hbefore

/-- A history that does not push the tracing layer keeps a loader orderly. -/
theorem Orderly.after (hs : s.Orderly config) (env : Environment ω) (history : History)
    (hother : ∀ operation ∈ history, operation ≠ .pushLayer s.loader.tracing) :
    (s.after env history).Orderly config := by
  refine after_induction hs history fun before operation after hsplit hbefore => ?_
  refine hbefore.step env ?_
  rw [tracing_after]
  exact hother operation (hsplit ▸ List.mem_append_right before List.mem_cons_self)

/-- A validation layer is not a tracing layer. -/
theorem Furnished.ne_tracing (hs : s.Furnished config) {id : LayerId}
    (hvalidation : s.loader.validation = some id) : id ≠ s.loader.tracing := by
  rintro rfl
  have hlayer := Layers.validation?_eq_some.1 (hs.validation _ hvalidation)
  cases hlayer.symm.trans (Layers.tracing?_eq_some.1 hs.tracing)

/-- A loader starts with at most two layers, which are not the same. -/
theorem Furnished.orderly (hs : s.Furnished config) : s.Orderly config := by
  have htracing := Layers.tracing?_eq_some.1 hs.tracing
  have hvalidation : s.loader.validation.toList.count s.loader.tracing = 0 :=
    List.count_eq_zero_of_not_mem fun hmem => hs.ne_tracing (Option.mem_toList.1 hmem) rfl
  refine ⟨hs.config, ?_, ?_, ?_⟩
  · unfold TracingKnown
    rw [Layers.getElem?_kinds, htracing]
    rfl
  · rw [hs.stack]
    cases s.loader.validation <;> cases config.tracingLayer <;> simp [LayerStack.capacity]
  · rw [hs.stack, List.count_append, hvalidation]
    cases config.tracingLayer <;> simp

/-! ### Switching the layer -/

/-- The tracing layer of a loader is there. -/
theorem TracingKnown.exists_layer (hs : s.TracingKnown) :
    ∃ layer, s.layers.tracing? s.loader.tracing = some layer := by
  unfold TracingKnown at hs
  rw [Layers.getElem?_kinds] at hs
  obtain ⟨layer, hget, hkind⟩ := Option.map_eq_some_iff.1 hs
  cases layer with
  | tracing layer => exact ⟨layer, Layers.tracing?_eq_some.2 hget⟩
  | _ => cases hkind

/-- Switching the tracing layer on or off leaves the loader alone and sets the flag. -/
theorem changeTracing_setActive (hknown : s.TracingKnown) (active : Bool) :
    ∃ s', s.changeTracing s.loader.tracing (.setActive active) = (.ok (), s') ∧
      s'.loader = s.loader ∧ s'.tracingState = (active && s.loader.tracingInstalled) := by
  obtain ⟨layer, hlayer⟩ := hknown.exists_layer
  unfold changeTracing Ambient.changeTracing
  rw [hlayer]
  refine ⟨_, rfl, rfl, ?_⟩
  unfold tracingState
  rw [Layers.tracing?_put hlayer]
  rfl

/-- A tracing layer is switched to what it is, and nothing happens. -/
theorem changeTracing_setActive_same {id : LayerId} {layer : TracingLayer}
    (hlayer : s.layers.tracing? id = some layer) :
    s.changeTracing id (.setActive layer.active) = (.ok (), s) := by
  unfold changeTracing Ambient.changeTracing
  rw [hlayer]
  dsimp only [TracingLayer.change, TracingLayer.setActive, TracingLayer.changeMessages]
  rw [if_pos rfl, Layers.put_self (Layers.tracing?_eq_some.1 hlayer)]
  rfl

/-- What switching tracing on comes to: there is no room for the layer, or it is installed and
active. -/
inductive Enables (s : Session ω) : Except Failure Unit × Session ω → Prop where
  | refused (absent : s.loader.tracing ∉ s.loader.stack)
      (full : LayerStack.capacity ≤ s.loader.stack.length) : Enables s (.error .layerStackFull, s)
  | enabled {s' : Session ω}
      (room : s.loader.tracing ∈ s.loader.stack ∨ s.loader.stack.length < LayerStack.capacity)
      (active : s'.tracingState = true) : Enables s (.ok (), s')

/-- The layer is activated where it stands. -/
theorem Enables.of_installed {s₁ : Session ω} (hknown : s₁.TracingKnown)
    (htracing : s₁.loader.tracing = s.loader.tracing) (hmem : s.loader.tracing ∈ s₁.loader.stack)
    (room : s.loader.tracing ∈ s.loader.stack ∨ s.loader.stack.length < LayerStack.capacity) :
    s.Enables (s₁.changeTracing s.loader.tracing (.setActive true)) := by
  rw [← htracing] at hmem ⊢
  obtain ⟨s', hchanged, -, hstate⟩ := changeTracing_setActive hknown true
  rw [hchanged]
  exact .enabled room (hstate.trans (List.contains_iff_mem.2 hmem))

/-- Switching tracing on comes to a full stack or to an active layer that stands in it. -/
theorem enableTracing_enables (hknown : s.TracingKnown) : s.Enables s.enableTracing := by
  unfold enableTracing insertLayer
  by_cases hmem : s.loader.tracing ∈ s.loader.stack
  · rw [LayerStack.insert_of_mem hmem]
    exact .of_installed hknown rfl hmem (Or.inl hmem)
  · by_cases hroom : s.loader.stack.length < LayerStack.capacity
    · rw [LayerStack.insert_of_room hmem hroom]
      exact .of_installed hknown rfl (List.mem_append_right _ List.mem_cons_self) (Or.inr hroom)
    · rw [LayerStack.insert_of_full hmem hroom]
      exact .refused hmem (Nat.le_of_not_lt hroom)

/-- Where tracing is on, switching it on again does nothing. -/
theorem enableTracing_of_tracingState (hstate : s.tracingState = true) :
    s.enableTracing = (.ok (), s) := by
  unfold tracingState at hstate
  obtain ⟨hactive, hinstalled⟩ := Bool.and_eq_true_iff.1 hstate
  obtain ⟨layer, hlayer, hon⟩ := (Option.any_eq_true ..).1 hactive
  unfold enableTracing insertLayer
  rw [LayerStack.insert_of_mem (List.contains_iff_mem.1 hinstalled), ← hon]
  exact changeTracing_setActive_same hlayer

/-- **The tracing switch**: what it does to a loader, and what the stack of the loader is like. -/
structure SwitchesTracing (config : Config) (s : Session ω) : Prop where
  /-- The stack holds at most eight layers. -/
  fits : s.loader.stack.length ≤ 8
  /-- The tracing layer stands in it at most once. -/
  once : s.loader.stack.count s.loader.tracing ≤ 1
  /-- Switching on neither removes nor reorders the other layers. -/
  others : s.enableTracing.2.loader.stack.filter (· ≠ s.loader.tracing)
    = s.loader.stack.filter (· ≠ s.loader.tracing)
  /-- It fails for want of room exactly if the layer is absent and eight others are installed. -/
  refused_iff : s.enableTracing.1 = .error .layerStackFull ↔
    s.loader.tracing ∉ s.loader.stack ∧
      (s.loader.stack.filter (· ≠ s.loader.tracing)).length = 8
  /-- It fails for no other reason, and then changes nothing at all. -/
  refused : ∀ failure, s.enableTracing.1 = .error failure →
    failure = .layerStackFull ∧ s.enableTracing.2 = s
  /-- If it succeeds, the loader traces; the layer is outermost if it was absent, and otherwise stands
  where it stood. -/
  enabled : s.enableTracing.1 = .ok () → s.enableTracing.2.tracingState = true ∧
    s.enableTracing.2.loader.stack
      = if s.loader.tracing ∈ s.loader.stack then s.loader.stack
        else s.loader.tracing :: s.loader.stack
  /-- Switching off ends the tracing and leaves the stack as it is. -/
  disabled : s.disableTracing.tracingState = false ∧ s.disableTracing.loader.stack = s.loader.stack
  /-- Switching on twice in a row is switching on once. -/
  again : s.enableTracing.2.enableTracing = s.enableTracing
  /-- A driver may be called directly exactly if it is the only one, no layer is installed and
  interception is not forced. -/
  direct : ∀ driver, s.loader.passthrough? = some driver ↔
    s.loader.loaded = [driver] ∧ s.loader.stack = [] ∧ config.forceIntercept = false

/-- The switch does this wherever the stack is in order. -/
theorem Orderly.switchesTracing (hs : s.Orderly config) : s.SwitchesTracing config where
  fits := hs.fits
  once := hs.once
  others := by
    rw [(enableTracing_stacked s).stack]
    exact LayerStack.filter_inserted ..
  refused_iff := by
    have henables := enableTracing_enables hs.known
    generalize s.enableTracing = outcome at henables
    have hothers : s.loader.tracing ∉ s.loader.stack →
        s.loader.stack.filter (· ≠ s.loader.tracing) = s.loader.stack := fun habsent =>
      List.filter_eq_self.2 fun id hmem => decide_eq_true fun heq => habsent (heq ▸ hmem)
    cases henables with
    | refused absent full =>
      refine iff_of_true rfl ⟨absent, ?_⟩
      rw [hothers absent]
      exact Nat.le_antisymm hs.fits full
    | enabled room active =>
      refine iff_of_false nofun fun ⟨habsent, hfull⟩ => ?_
      rw [hothers habsent] at hfull
      exact absurd (room.resolve_left habsent) (Nat.not_lt_of_le (Nat.le_of_eq hfull.symm))
  refused := by
    have henables := enableTracing_enables hs.known
    generalize s.enableTracing = outcome at henables
    intro failure hanswer
    cases henables with
    | refused absent full => exact ⟨(Except.error.inj hanswer).symm, rfl⟩
    | enabled room active => cases hanswer
  enabled := by
    have henables := enableTracing_enables hs.known
    have hstack := (enableTracing_stacked s).stack
    generalize s.enableTracing = outcome at henables hstack
    intro hanswer
    cases henables with
    | refused absent full => cases hanswer
    | enabled room active => exact ⟨active, hstack.trans (LayerStack.inserted_zero room)⟩
  disabled := by
    obtain ⟨s', hchanged, hloader, hstate⟩ := changeTracing_setActive hs.known false
    unfold disableTracing
    rw [hchanged]
    exact ⟨hstate, congrArg Loader.stack hloader⟩
  again := by
    have henables := enableTracing_enables hs.known
    generalize houtcome : s.enableTracing = outcome at henables
    cases henables with
    | refused absent full => exact houtcome
    | enabled room active => exact enableTracing_of_tracingState active
  direct := by
    intro driver
    rw [Loader.passthrough?_eq_some_iff, hs.config]
    exact ⟨fun ⟨hforced, hstack, hloaded⟩ => ⟨hloaded, hstack, hforced⟩,
      fun ⟨hloaded, hstack, hforced⟩ => ⟨hforced, hstack, hloaded⟩⟩

/-- A loader as it is made: without drivers, over given modules, or with the drivers that are
discovered. -/
inductive Fresh (env : Environment ω) (config : Config) (shared : Shared ω) : Session ω → Prop where
  | empty : Fresh env config shared (empty config shared)
  | withDrivers (drivers : List (String × DriverModule)) :
    Fresh env config shared (withDrivers env config drivers shared).2
  | discover : Fresh env config shared (discover env config shared).2

/-- However a loader is made, it has the layers that are configured. -/
theorem Fresh.furnished {shared : Shared ω} (hs : Fresh env config shared s) :
    s.Furnished config := by
  have hempty := empty_furnished config shared
  cases hs with
  | empty => exact hempty
  | withDrivers drivers => exact (addDrivers_refits env drivers _).furnished hempty
  | discover => exact (discover_refits env config shared).furnished hempty

/-- **The tracing switch works after any history.**  Whatever the configuration, however the loader was
made and whatever was done to it since, in any order: drivers loaded, unloaded and called, tracing
switched on and off, layers pushed, inserted and cleared, the loader torn down.  The one thing that is
left out is to push the loader's own tracing layer by name. -/
theorem after_switchesTracing (env : Environment ω) (config : Config) (shared : Shared ω)
    (hstart : Fresh env config shared start) (history : History)
    (hother : ∀ operation ∈ history, operation ≠ .pushLayer start.loader.tracing) :
    (start.after env history).SwitchesTracing config :=
  (hstart.furnished.orderly.after env history hother).switchesTracing

namespace Sample

/-- The tracing layer is switched on, cleared away while it stays active, and shut out by a layer that is
pushed eight times. -/
def crowding : History :=
  .enableTracing :: .clearLayers :: .createLayer (.probe ⟨"probe", .pass⟩) ::
    List.replicate 8 (.pushLayer ⟨1⟩)

/-- The loader with the crowded stack. -/
def crowded : Session Unit :=
  (empty Config.default (Shared.start .info ())).after bare crowding

end Sample

/-- There is no room for the tracing layer, and the attempt to switch it on changes nothing. -/
theorem after_switchesTracing_crowded :
    Sample.crowded.enableTracing = (.error .layerStackFull, Sample.crowded) ∧
      Sample.crowded.disableTracing.tracingState = false := by
  have hother : ∀ operation ∈ Sample.crowding,
      operation ≠ .pushLayer (empty Config.default (Shared.start .info ())).loader.tracing := by
    rintro operation hmem rfl
    have hpushed : (empty Config.default (Shared.start .info ())).loader.tracing = ⟨1⟩ := by
      simpa [Sample.crowding] using hmem
    exact absurd hpushed (by decide)
  have hswitch : Sample.crowded.SwitchesTracing Config.default :=
    after_switchesTracing Sample.bare Config.default (Shared.start .info ()) .empty Sample.crowding
      hother
  have hrefused := hswitch.refused_iff.2 ⟨by decide +kernel, by decide +kernel⟩
  exact ⟨Prod.ext hrefused (hswitch.refused _ hrefused).2, hswitch.disabled.1⟩

end Session
end DriverLoader
