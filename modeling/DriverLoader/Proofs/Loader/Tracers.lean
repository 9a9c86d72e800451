/-
# Tracers and their identifiers

A tracing layer numbers its registrations from one on, and the number of a registration is the identifier
of the tracer.  `TracingLayer.after` is a layer after a run of changes, of which those that are refused
are left out, and `TracingLayer.issued` are the identifiers that are given out meanwhile, in order.

What a single change can do is said once (`TracingLayer.change_changes`).  Two things follow for a run:
the identifiers that are given out are consecutive numbers (`issued_numbers`), whatever is unregistered
in between; and the tracers that are left stand in the order in which they were registered
(`ids_after_sublist`).  As long as the numbers do not run out, an identifier therefore stands for one
tracer only, also when this tracer is gone (`after_numbersTracers`).
-/

import DriverLoader.Proofs.Loader.Switching
import Mathlib.Algebra.GroupWithZero.Nat

namespace DriverLoader
namespace TracingLayer

/-! ### Runs of changes -/

/-- The layer after a change, which is left out if it is refused. -/
def step (layer : TracingLayer) (change : TracingChange) : TracingLayer :=
  match layer.change change with
  | .ok changed => changed
  | .error _ => layer

/-- The layer after a run of changes. -/
def after (layer : TracingLayer) (changes : List TracingChange) : TracingLayer :=
  changes.foldl step layer

/-- The identifier that a change gives out, if it is a registration and is not refused. -/
def issued? (layer : TracingLayer) (change : TracingChange) : Option TracerId :=
  match change, layer.change change with
  | .register _, .ok _ => some layer.nextId
  | _, _ => none

/-- The identifiers that a run of changes gives out, in order. -/
def issued (layer : TracingLayer) : List TracingChange → List TracerId
  | [] => []
  | change :: rest => (layer.issued? change).toList ++ (layer.step change).issued rest

/-- The identifiers of the registered tracers, in order. -/
def ids (layer : TracingLayer) : List TracerId :=
  layer.tracers.map (·.id)

variable {layer : TracingLayer}

/-- A change that goes through is made. -/
theorem step_of_ok {change : TracingChange} {changed : TracingLayer}
    (h : layer.change change = .ok changed) : layer.step change = changed := by
  unfold step
  rw [h]

/-- A change that is refused is left out. -/
theorem step_of_error {change : TracingChange} {failure : Failure}
    (h : layer.change change = .error failure) : layer.step change = layer := by
  unfold step
  rw [h]

/-- A change that is refused gives out no identifier. -/
theorem issued?_of_error {change : TracingChange} {failure : Failure}
    (h : layer.change change = .error failure) : layer.issued? change = none := by
  unfold issued?
  rw [h]
  cases change <;> rfl

/-- A run in two parts is the second from where the first leads. -/
theorem after_append (layer : TracingLayer) (first second : List TracingChange) :
    layer.after (first ++ second) = (layer.after first).after second :=
  List.foldl_append

/-- A run in two parts gives out what the first part does, and then what the second does. -/
theorem issued_append (layer : TracingLayer) (first second : List TracingChange) :
    layer.issued (first ++ second) = layer.issued first ++ (layer.after first).issued second := by
  induction first generalizing layer with
  | nil => rfl
  | cons change rest ih =>
    show (layer.issued? change).toList ++ (layer.step change).issued (rest ++ second) = _
    rw [ih, ← List.append_assoc]
    rfl

/-! ### What a change can do -/

/-- What can come of a change of a layer.  A change that names a tracer is made to the first one with
this identifier. -/
inductive Changes (layer : TracingLayer) : TracingChange → Except Failure TracingLayer → Prop where
  | registered {callbacks : TracerCallbacks} (room : layer.tracers.length < capacity) :
      Changes layer (.register callbacks) (.ok { layer with
        tracers := layer.tracers ++ [⟨layer.nextId, false, callbacks⟩]
        nextId := ⟨layer.nextId.number + 1⟩ })
  | full {callbacks : TracerCallbacks} (full : capacity ≤ layer.tracers.length) :
      Changes layer (.register callbacks) (.error .layerStackFull)
  | unregistered {before after : List Tracer} {tracer : Tracer}
      (split : layer.tracers = before ++ tracer :: after)
      (first : tracer.id ∉ before.map (·.id)) :
      Changes layer (.unregister tracer.id) (.ok { layer with tracers := before ++ after })
  | notUnregistered {id : TracerId} (unknown : id ∉ layer.ids) :
      Changes layer (.unregister id) (.error .unknownHandle)
  | switched {before after : List Tracer} {tracer : Tracer} {enabled : Bool}
      (split : layer.tracers = before ++ tracer :: after)
      (first : tracer.id ∉ before.map (·.id)) :
      Changes layer (.setEnabled tracer.id enabled) (.ok { layer with
        tracers := before ++ { tracer with enabled := enabled } :: after })
  | notSwitched {id : TracerId} {enabled : Bool} (unknown : id ∉ layer.ids) :
      Changes layer (.setEnabled id enabled) (.error .unknownHandle)
  | activated {active : Bool} : Changes layer (.setActive active) (.ok (layer.setActive active))

/-- Some tracer has an identifier exactly if it is among those of the registered ones. -/
theorem any_id_iff {id : TracerId} : layer.tracers.any (·.id = id) = true ↔ id ∈ layer.ids := by
  simp [ids]

/-- The first tracer with an identifier. -/
theorem exists_first {id : TracerId} (h : id ∈ layer.ids) :
    ∃ before tracer after, layer.tracers = before ++ tracer :: after ∧ tracer.id = id ∧
      tracer.id ∉ before.map (·.id) := by
  obtain ⟨earlier, later, hids, hfirst⟩ := List.eq_append_cons_of_mem h
  obtain ⟨before, rest, htracers, rfl, hrest⟩ := List.map_eq_append_iff.1 hids
  obtain ⟨tracer, after, rfl, rfl, rfl⟩ := List.map_eq_cons_iff.1 hrest
  exact ⟨before, tracer, after, htracers, rfl, hfirst⟩

/-- The identifier of a registered tracer is among theirs. -/
theorem mem_ids_of_split {before after : List Tracer} {tracer : Tracer}
    (hsplit : layer.tracers = before ++ tracer :: after) : tracer.id ∈ layer.ids := by
  rw [ids, hsplit]
  exact List.mem_map_of_mem (List.mem_append_right before List.mem_cons_self)

/-- Switching a tracer changes the first one with its identifier and no other. -/
theorem switch_first {before after : List Tracer} {tracer : Tracer} (enabled : Bool)
    (hfirst : tracer.id ∉ before.map (·.id)) :
    switch tracer.id enabled (before ++ tracer :: after)
      = before ++ { tracer with enabled := enabled } :: after := by
  induction before with
  | nil => exact if_pos rfl
  | cons other rest ih =>
    have hother : other.id ≠ tracer.id := fun heq => hfirst (heq ▸ List.mem_cons_self)
    rw [List.cons_append, switch, if_neg hother, ih (List.not_mem_of_not_mem_cons hfirst)]
    rfl

section First

variable {before after : List Tracer} {tracer : Tracer}
  (hsplit : layer.tracers = before ++ tracer :: after) (hfirst : tracer.id ∉ before.map (·.id))

include hsplit hfirst

/-- Of several tracers with an identifier the first one would be taken away. -/
theorem unregister_first :
    layer.unregister tracer.id = .ok { layer with tracers := before ++ after } := by
  have hothers : ∀ other ∈ before, ¬decide (other.id = tracer.id) = true := fun other hmem heq =>
    hfirst (of_decide_eq_true heq ▸ List.mem_map_of_mem hmem)
  have herased : (tracer :: after).eraseP (·.id = tracer.id) = after :=
    List.eraseP_cons_of_pos (decide_eq_true rfl)
  rw [unregister, if_pos (any_id_iff.2 (mem_ids_of_split hsplit)), hsplit,
    List.eraseP_append_right _ hothers, herased]

/-- Of several tracers with an identifier the first one would be switched. -/
theorem setEnabled_first (enabled : Bool) :
    layer.setEnabled tracer.id enabled
      = .ok { layer with tracers := before ++ { tracer with enabled := enabled } :: after } := by
  rw [setEnabled, if_pos (any_id_iff.2 (mem_ids_of_split hsplit)), hsplit,
    switch_first enabled hfirst]

end First

/-- A tracer that is not registered cannot be removed. -/
theorem unregister_unknown {id : TracerId} (h : id ∉ layer.ids) :
    layer.unregister id = .error .unknownHandle :=
  if_neg (mt any_id_iff.1 h)

/-- A tracer that is not registered cannot be switched. -/
theorem setEnabled_unknown {id : TracerId} (h : id ∉ layer.ids) (enabled : Bool) :
    layer.setEnabled id enabled = .error .unknownHandle :=
  if_neg (mt any_id_iff.1 h)

/-- **What a change can do to a layer.** -/
theorem change_changes (layer : TracingLayer) (change : TracingChange) :
    layer.Changes change (layer.change change) := by
  cases change with
  | register callbacks =>
    show layer.Changes _ (layer.register callbacks)
    unfold register
    split
    · exact .registered ‹_›
    · exact .full (Nat.le_of_not_lt ‹_›)
  | unregister id =>
    show layer.Changes _ (layer.unregister id)
    by_cases hknown : id ∈ layer.ids
    · obtain ⟨before, tracer, after, hsplit, rfl, hfirst⟩ := exists_first hknown
      rw [unregister_first hsplit hfirst]
      exact .unregistered hsplit hfirst
    · rw [unregister_unknown hknown]
      exact .notUnregistered hknown
  | setEnabled id enabled =>
    show layer.Changes _ (layer.setEnabled id enabled)
    by_cases hknown : id ∈ layer.ids
    · obtain ⟨before, tracer, after, hsplit, rfl, hfirst⟩ := exists_first hknown
      rw [setEnabled_first hsplit hfirst]
      exact .switched hsplit hfirst
    · rw [setEnabled_unknown hknown]
      exact .notSwitched hknown
  | setActive active => exact .activated

/-- A change gives no identifier out, and then brings no tracer in either; or it gives out the next one,
for a tracer that comes last. -/
theorem step_cases (layer : TracingLayer) (change : TracingChange) :
    (layer.issued? change = none ∧ (layer.step change).nextId = layer.nextId ∧
        (layer.step change).ids.Sublist layer.ids) ∨
      (layer.issued? change = some layer.nextId ∧
        (layer.step change).nextId.number = layer.nextId.number + 1 ∧
        (layer.step change).ids = layer.ids ++ [layer.nextId] ∧ layer.ids.length < capacity) := by
  have hchanges := change_changes layer change
  unfold issued? step
  generalize layer.change change = outcome at hchanges
  cases hchanges with
  | registered room =>
    refine Or.inr ⟨rfl, rfl, List.map_append, ?_⟩
    rwa [ids, List.length_map]
  | full => exact Or.inl ⟨rfl, rfl, .refl _⟩
  | @unregistered before after tracer split first =>
    refine Or.inl ⟨rfl, rfl, ?_⟩
    unfold ids
    rw [split]
    exact ((List.sublist_cons_self tracer after).append_left before).map _
  | notUnregistered => exact Or.inl ⟨rfl, rfl, .refl _⟩
  | @switched before after tracer enabled split first =>
    refine Or.inl ⟨rfl, rfl, ?_⟩
    unfold ids
    rw [split, List.map_append, List.map_append]
    exact .refl _
  | notSwitched => exact Or.inl ⟨rfl, rfl, .refl _⟩
  | activated => exact Or.inl ⟨rfl, rfl, .refl _⟩

/-! ### What a run comes to -/

/-- No run of changes registers more tracers than a layer can take. -/
theorem length_ids_after (h : layer.ids.length ≤ capacity) (changes : List TracingChange) :
    (layer.after changes).ids.length ≤ capacity := by
  induction changes generalizing layer with
  | nil => exact h
  | cons change rest ih =>
    refine ih ?_
    obtain ⟨-, -, hids⟩ | ⟨-, -, hids, hroom⟩ := step_cases layer change
    · exact Nat.le_trans hids.length_le h
    · rw [hids, List.length_append]
      exact hroom

/-- **The tracers stand in the order of registration**: first those that were there, as far as they are
left, and then the new ones. -/
theorem ids_after_sublist (layer : TracingLayer) (changes : List TracingChange) :
    (layer.after changes).ids.Sublist (layer.ids ++ layer.issued changes) := by
  induction changes generalizing layer with
  | nil => exact List.sublist_append_left ..
  | cons change rest ih =>
    refine (ih (layer.step change)).trans ?_
    show List.Sublist _ (layer.ids ++ ((layer.issued? change).toList ++ _))
    rw [← List.append_assoc]
    refine List.Sublist.append_right ?_ _
    obtain ⟨hissued, -, hids⟩ | ⟨hissued, -, hids, -⟩ := step_cases layer change
    · rw [hissued, Option.toList_none, List.append_nil]
      exact hids
    · rw [hissued, hids]
      exact .refl _

/-- **The identifiers that are given out are consecutive numbers**, whatever else is done. -/
theorem issued_numbers (layer : TracingLayer) (changes : List TracingChange) :
    (layer.issued changes).map (·.number)
      = (List.range (layer.issued changes).length).map (layer.nextId.number + UInt32.ofNat ·) := by
  induction changes generalizing layer with
  | nil => rfl
  | cons change rest ih =>
    have hrest := ih (layer.step change)
    unfold issued
    obtain ⟨hissued, hnext, -⟩ | ⟨hissued, hnext, -⟩ := step_cases layer change
    · rw [hissued, Option.toList_none, List.nil_append, ← hnext]
      exact hrest
    · have hsucc : ∀ k, layer.nextId.number + UInt32.ofNat (k + 1)
          = (layer.step change).nextId.number + UInt32.ofNat k := fun k => by
        rw [hnext, UInt32.ofNat_add, UInt32.add_comm (UInt32.ofNat k), UInt32.add_assoc]
        rfl
      rw [hissued, Option.toList_some, List.singleton_append, List.map_cons, hrest, List.length_cons,
        List.range_succ_eq_map, List.map_cons, List.map_map]
      refine congrArg₂ List.cons (UInt32.add_zero _).symm (List.map_congr_left fun k _ => ?_)
      exact (hsucc k).symm

/-- All is as if a change that was refused had not been tried. -/
theorem after_refused {before later : List TracingChange} {change : TracingChange} {failure : Failure}
    (h : (layer.after before).change change = .error failure) :
    layer.after (before ++ change :: later) = layer.after (before ++ later) ∧
      layer.issued (before ++ change :: later) = layer.issued (before ++ later) := by
  have hstep := step_of_error h
  constructor
  · rw [after_append, after_append, after, List.foldl_cons, hstep]
    rfl
  · rw [issued_append, issued_append, issued, issued?_of_error h, hstep]
    rfl

/-- Where identifiers are distinct, no other tracer has that of a tracer. -/
theorem id_ne_of_split (hdistinct : layer.ids.Nodup) {before after : List Tracer} {tracer : Tracer}
    (hsplit : layer.tracers = before ++ tracer :: after) :
    ∀ other ∈ before ++ after, other.id ≠ tracer.id := by
  rw [ids, hsplit, List.map_append, List.map_cons, List.nodup_middle, ← List.map_append]
    at hdistinct
  exact fun other hmem heq => (List.nodup_cons.1 hdistinct).1 (heq ▸ List.mem_map_of_mem hmem)

/-- An identifier that no later one repeats is gone for good with its tracer. -/
theorem not_mem_of_unregister {id : TracerId} {changed : TracingLayer} {later : List TracingChange}
    (hdistinct : (layer.ids ++ changed.issued later).Nodup) (h : layer.unregister id = .ok changed) :
    id ∉ changed.issued later ∧ id ∉ (changed.after later).ids := by
  obtain ⟨hpresent, -, hnew⟩ := List.nodup_append.1 hdistinct
  have hchanges := change_changes layer (.unregister id)
  rw [show layer.change (.unregister id) = .ok changed from h] at hchanges
  cases hchanges with
  | @unregistered before after tracer split first =>
    have hunissued := fun hmem => hnew tracer.id (mem_ids_of_split split) tracer.id hmem rfl
    refine ⟨hunissued, fun hmem => ?_⟩
    obtain hleft | hissued := List.mem_append.1 ((ids_after_sublist _ later).subset hmem)
    · obtain ⟨other, hother, heq⟩ := List.mem_map.1 hleft
      exact id_ne_of_split hpresent split other hother heq
    · exact hunissued hissued

/-- A tracer is enabled or disabled, and all else stays as it is. -/
theorem setEnabled_known (hdistinct : layer.ids.Nodup) {id : TracerId} (hknown : id ∈ layer.ids)
    (enabled : Bool) :
    ∃ before tracer after, layer.tracers = before ++ tracer :: after ∧ tracer.id = id ∧
      (∀ other ∈ before ++ after, other.id ≠ id) ∧
      layer.setEnabled id enabled
        = .ok { layer with tracers := before ++ { tracer with enabled := enabled } :: after } := by
  obtain ⟨before, tracer, after, hsplit, rfl, hfirst⟩ := exists_first hknown
  exact ⟨before, tracer, after, hsplit, rfl, id_ne_of_split hdistinct hsplit,
    setEnabled_first hsplit hfirst enabled⟩

/-- A layer refuses a registration only for want of room. -/
theorem register_eq_error_iff (hfits : layer.tracers.length ≤ capacity) {callbacks : TracerCallbacks}
    {failure : Failure} : layer.register callbacks = .error failure ↔
      failure = .layerStackFull ∧ layer.tracers.length = capacity := by
  constructor
  · intro h
    have hchanges := change_changes layer (.register callbacks)
    rw [show layer.change (.register callbacks) = .error failure from h] at hchanges
    cases hchanges with
    | full full => exact ⟨rfl, Nat.le_antisymm hfits full⟩
  · rintro ⟨rfl, hfull⟩
    exact if_neg (Nat.not_lt_of_le (Nat.le_of_eq hfull.symm))

end TracingLayer

/-! ### Registrations in a session -/

namespace Session

variable {ω : Type} {s : Session ω} {id : LayerId} {layer : TracingLayer}

/-- Changing a layer of a session is changing the layer. -/
theorem changeTracing_cases (hlayer : s.layers.tracing? id = some layer) (change : TracingChange) :
    (∃ failure, layer.change change = .error failure ∧
        s.changeTracing id change = (.error failure, s)) ∨
      ∃ changed s', layer.change change = .ok changed ∧ s.changeTracing id change = (.ok (), s') ∧
        s'.layers.tracing? id = some changed := by
  unfold changeTracing Ambient.changeTracing
  rw [hlayer]
  dsimp only
  cases layer.change change with
  | error failure => exact Or.inl ⟨failure, rfl, rfl⟩
  | ok changed => exact Or.inr ⟨changed, _, rfl, rfl, Layers.tracing?_put hlayer changed⟩

/-- What registering a tracer with a layer comes to: there is no room for it, and nothing changes at all;
or the answer is the identifier that the layer gives out. -/
inductive Registers (s : Session ω) (id : LayerId) (layer : TracingLayer)
    (callbacks : TracerCallbacks) : Except Failure TracerId × Session ω → Prop where
  | refused (full : TracingLayer.capacity ≤ layer.tracers.length)
      (unissued : layer.issued? (.register callbacks) = none) :
      Registers s id layer callbacks (.error .layerStackFull, s)
  | registered {tracer : TracerId} {s' : Session ω}
      (room : layer.tracers.length < TracingLayer.capacity)
      (issued : layer.issued? (.register callbacks) = some tracer)
      (changed : s'.layers.tracing? id = some (layer.step (.register callbacks))) :
      Registers s id layer callbacks (.ok tracer, s')

/-- Registering a tracer with a layer comes to a full layer or to a new identifier. -/
theorem registerTracer_registers (hlayer : s.layers.tracing? id = some layer)
    (callbacks : TracerCallbacks) :
    s.Registers id layer callbacks (s.registerTracer id callbacks) := by
  have hchanges := TracingLayer.change_changes layer (.register callbacks)
  unfold registerTracer
  rw [hlayer]
  dsimp only
  obtain ⟨failure, hrefused, hsame⟩ | ⟨changed, s', hchanged, hdone, hnew⟩ :=
    changeTracing_cases hlayer (.register callbacks)
  · rw [hsame]
    rw [hrefused] at hchanges
    cases hchanges with
    | full full => exact .refused full (TracingLayer.issued?_of_error hrefused)
  · rw [hdone]
    rw [← TracingLayer.step_of_ok hchanged] at hnew
    have hissued : layer.issued? (.register callbacks) = some layer.nextId := by
      unfold TracingLayer.issued?
      rw [hchanged]
    rw [hchanged] at hchanges
    cases hchanges with
    | registered room => exact .registered room hissued hnew

end Session

/-! ### Layers that start without tracers -/

namespace TracingLayer

variable {changes : List TracingChange}

/-- At no time are there more tracers than a layer can take. -/
theorem length_tracers_after (changes : List TracingChange) :
    (empty.after changes).tracers.length ≤ capacity := by
  have hnone : empty.ids.length ≤ capacity := Nat.zero_le capacity
  have hlength := length_ids_after hnone changes
  rwa [ids, List.length_map] at hlength

/-- The registrations are numbered from one on, as long as the numbers do not run out. -/
theorem numbers_issued (hfew : (empty.issued changes).length < 2 ^ 32) :
    (empty.issued changes).map (·.number.toNat) = List.range' 1 (empty.issued changes).length := by
  have hnumbers := congrArg (List.map UInt32.toNat) (issued_numbers empty changes)
  rw [List.map_map, List.map_map] at hnumbers
  refine hnumbers.trans ?_
  rw [List.range'_eq_map_range]
  refine List.map_congr_left fun k hk => ?_
  have hlt := List.mem_range.1 hk
  show (1 + UInt32.ofNat k).toNat = 1 + k
  rw [UInt32.toNat_add, UInt32.toNat_ofNat_of_lt' (Nat.lt_trans hlt hfew)]
  exact Nat.mod_eq_of_lt (by show 1 + k < 2 ^ 32; omega)

/-- The identifiers that are given out ascend, as long as the numbers do not run out. -/
theorem issued_ascending (hfew : (empty.issued changes).length < 2 ^ 32) :
    (empty.issued changes).Pairwise fun a b => a.number < b.number := by
  have hnumbers := List.pairwise_lt_range' (s := 1) (n := (empty.issued changes).length)
  rw [← numbers_issued hfew, List.pairwise_map] at hnumbers
  exact hnumbers.imp UInt32.lt_iff_toNat_lt.2

/-- As long as fewer than 2^32 registrations go through, no identifier is given out twice. -/
theorem issued_nodup (hfew : (empty.issued changes).length < 2 ^ 32) :
    (empty.issued changes).Nodup :=
  (issued_ascending hfew).imp fun hlt heq => UInt32.ne_of_lt hlt (congrArg TracerId.number heq)

/-- **What the identifiers of a layer are good for**, after a run of changes of a layer that starts
without tracers. -/
structure NumbersTracers (changes : List TracingChange) : Prop where
  /-- At most sixteen tracers are registered. -/
  fits : (empty.after changes).tracers.length ≤ 16
  /-- The registrations that were not refused are numbered from one on. -/
  numbered : (empty.issued changes).map (·.number.toNat)
    = List.range' 1 (empty.issued changes).length
  /-- The tracers stand in the order in which they were registered. -/
  ordered : (empty.after changes).ids.Sublist (empty.issued changes)
  /-- In this order their identifiers increase. -/
  ascending : (empty.after changes).ids.Pairwise fun a b => a.number < b.number
  /-- No two tracers have the same identifier. -/
  distinct : (empty.after changes).ids.Nodup
  /-- The identifier of a tracer that was unregistered was not given out again since then, and no tracer
  is known by it. -/
  retired : ∀ before id later changed, changes = before ++ .unregister id :: later →
    (empty.after before).unregister id = .ok changed →
      id ∉ changed.issued later ∧
        (empty.after changes).unregister id = .error .unknownHandle ∧
        ∀ enabled, (empty.after changes).setEnabled id enabled = .error .unknownHandle
  /-- A registration fails only if there are sixteen tracers. -/
  refuses : ∀ callbacks failure, (empty.after changes).register callbacks = .error failure ↔
    failure = .layerStackFull ∧ (empty.after changes).tracers.length = 16
  /-- All is as if a registration that was refused had not been tried: no identifier is lost. -/
  refused : ∀ before callbacks later, changes = before ++ .register callbacks :: later →
    (empty.after before).register callbacks = .error .layerStackFull →
      empty.after changes = empty.after (before ++ later) ∧
        empty.issued changes = empty.issued (before ++ later)
  /-- Whoever registers a tracer is told the identifier that is given out.  If the registration is
  refused the whole session is as before. -/
  registers : ∀ {ω : Type} (s : Session ω) (id : LayerId) (callbacks : TracerCallbacks),
    s.layers.tracing? id = some (empty.after changes) →
      s.Registers id (empty.after changes) callbacks (s.registerTracer id callbacks)
  /-- A registered tracer can be enabled and disabled.  This changes it in the one tracer with the
  identifier, and nothing else. -/
  switches : ∀ id enabled, id ∈ (empty.after changes).ids →
    ∃ earlier tracer later, (empty.after changes).tracers = earlier ++ tracer :: later ∧
      tracer.id = id ∧ (∀ other ∈ earlier ++ later, other.id ≠ id) ∧
      (empty.after changes).setEnabled id enabled = .ok { empty.after changes with
        tracers := earlier ++ { tracer with enabled := enabled } :: later }

/-- **Identifiers are never confused**, as long as fewer than `2 ^ 32` registrations succeed: whatever
the changes are, registrations, removals, tracers enabled and disabled and the layer switched on and off,
in any order, those that are refused among them. -/
theorem after_numbersTracers (changes : List TracingChange)
    (hfew : (empty.issued changes).length < 2 ^ 32) : NumbersTracers changes where
  fits := length_tracers_after changes
  numbered := numbers_issued hfew
  ordered := ids_after_sublist empty changes
  ascending := (issued_ascending hfew).sublist (ids_after_sublist empty changes)
  distinct := (issued_nodup hfew).sublist (ids_after_sublist empty changes)
  retired := by
    rintro before id later changed rfl hunregistered
    have hstep : (empty.after before).step (.unregister id) = changed := step_of_ok hunregistered
    have hissued : empty.issued (before ++ .unregister id :: later)
        = empty.issued before ++ changed.issued later := by
      rw [issued_append, ← hstep]
      rfl
    have hafter : empty.after (before ++ .unregister id :: later) = changed.after later := by
      rw [after_append, ← hstep]
      rfl
    have hdistinct := issued_nodup hfew
    rw [hissued] at hdistinct
    obtain ⟨hnew, hgone⟩ := not_mem_of_unregister
      (hdistinct.sublist ((ids_after_sublist empty before).append_right _)) hunregistered
    rw [hafter]
    exact ⟨hnew, unregister_unknown hgone, setEnabled_unknown hgone⟩
  refuses := fun _ _ => register_eq_error_iff (length_tracers_after changes)
  refused := by
    rintro before callbacks later rfl hrefused
    exact after_refused hrefused
  registers := fun s id callbacks hlayer => s.registerTracer_registers hlayer callbacks
  switches := fun _ enabled hknown =>
    setEnabled_known ((issued_nodup hfew).sublist (ids_after_sublist empty changes)) hknown enabled

namespace Sample

/-- The seventeenth registration is refused; then the third tracer makes room for another one. -/
def turnover : List TracingChange :=
  List.replicate 17 (.register .silent) ++
    [.setEnabled ⟨3⟩ true, .unregister ⟨3⟩, .register .log]

end Sample

/-- The refused registration uses no number up, and the tracer that takes the place of the third one is
not the third. -/
theorem after_numbersTracers_turnover :
    (empty.after Sample.turnover).ids.map (·.number)
        = [1, 2, 4, 5, 6, 7, 8, 9, 10, 11, 12, 13, 14, 15, 16, 17] ∧
      (empty.after Sample.turnover).register .log = .error .layerStackFull ∧
      ∀ enabled, (empty.after Sample.turnover).setEnabled ⟨3⟩ enabled = .error .unknownHandle := by
  have hnumbers : NumbersTracers Sample.turnover :=
    after_numbersTracers Sample.turnover (by decide)
  obtain ⟨-, -, hunknown⟩ := hnumbers.retired
    (List.replicate 17 (.register .silent) ++ [.setEnabled ⟨3⟩ true]) ⟨3⟩ [.register .log] _ rfl rfl
  exact ⟨by decide, (hnumbers.refuses .log .layerStackFull).2 ⟨rfl, by decide⟩, hunknown⟩

/-- The tracing layer that a loader starts with has come about in the same way. -/
example : logging = empty.after [.register .log, .setEnabled ⟨1⟩ true] := rfl

end TracingLayer
end DriverLoader
