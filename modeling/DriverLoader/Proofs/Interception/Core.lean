/-
# What layers have no hand in

A layer sees a call and may log, count, run tracers and refuse.  It cannot touch the handles, the
caller's memory or the outside, and it invokes no driver function; nor does a call turn one kind of
layer into another or change what a validation layer checks.  `Frame.core` is this part of a frame.

The lemmas say of each small effect that a layer can have that the core stays what it was, and of the
invocation of a driver function what it makes of the core (`core_invoke`).
-/

import DriverLoader.Dispatch

namespace DriverLoader

/-- What a call cannot change about a layer. -/
inductive LayerKind where
  | tracing
  | validation (checkers : List Checker)
  | probe (layer : ProbeLayer)

/-- The kind of a layer. -/
def Layer.kind : Layer → LayerKind
  | tracing _ => .tracing
  | validation layer => .validation layer.checkers
  | probe layer => .probe layer

/-- The part of a frame that layers have no hand in. -/
structure Core (ω : Type) where
  /-- The kinds of the layers that exist, by number. -/
  kinds : List LayerKind
  registry : Registry
  memory : Memory
  host : Host ω
  /-- The driver functions that were invoked, in order. -/
  invocations : List Invocation

namespace Event

/-- The call of a driver function, if the event is one. -/
def invocation? : Event → Option Invocation
  | invoked invocation => some invocation
  | _ => none

end Event

namespace Trace

/-- The latest event comes last among the invocations, if it is one. -/
theorem invocations_cons (event : Event) (trace : Trace) :
    invocations (event :: trace) = trace.invocations ++ event.invocation?.toList := by
  unfold invocations
  rw [List.reverse_cons, List.filterMap_append]
  cases event <;> rfl

end Trace

namespace Layers

/-- The kinds of the layers that exist, by number. -/
def kinds (layers : Layers) : List LayerKind :=
  layers.map Layer.kind

/-- The kind found under a number is that of the layer found there. -/
theorem getElem?_kinds (layers : Layers) (id : LayerId) :
    layers.kinds[id.number]? = (layers.get? id).map Layer.kind := by
  simp [kinds, get?]

/-- Making a layer changes the kind of no other. -/
theorem getElem?_kinds_append {layers : Layers} {number : Nat} {kind : LayerKind}
    (hkind : layers.kinds[number]? = some kind) (more : Layers) :
    (kinds (layers ++ more))[number]? = some kind := by
  unfold kinds at hkind ⊢
  rw [List.map_append, List.getElem?_append_left (List.getElem?_eq_some_iff.1 hkind).1]
  exact hkind

/-- Replacing a layer by one of its kind leaves the kinds as they are. -/
theorem kinds_put {layers : Layers} {id : LayerId} {old new : Layer}
    (hget : layers.get? id = some old) (hkind : new.kind = old.kind) :
    (layers.put id new).kinds = layers.kinds := by
  obtain ⟨hlt, rfl⟩ := List.getElem?_eq_some_iff.1 hget
  unfold kinds put
  rw [List.map_set, hkind, ← List.map_set, List.set_getElem_self]

/-- A tracing layer is found where the layer of the identity is one. -/
theorem tracing?_eq_some {layers : Layers} {id : LayerId} {layer : TracingLayer} :
    layers.tracing? id = some layer ↔ layers.get? id = some (.tracing layer) := by
  unfold tracing?
  split <;> simp_all

/-- A validation layer is found where the layer of the identity is one. -/
theorem validation?_eq_some {layers : Layers} {id : LayerId} {layer : ValidationLayer} :
    layers.validation? id = some layer ↔ layers.get? id = some (.validation layer) := by
  unfold validation?
  split <;> simp_all

/-- A change of a validation layer that keeps its checkers leaves the kinds as they are. -/
theorem kinds_updateValidation (layers : Layers) (id : LayerId)
    {f : ValidationLayer → ValidationLayer} (hf : ∀ layer, (f layer).checkers = layer.checkers) :
    (layers.updateValidation id f).kinds = layers.kinds := by
  unfold updateValidation
  split
  · rename_i layer hget
    exact kinds_put (validation?_eq_some.1 hget) (congrArg LayerKind.validation (hf layer))
  · rfl

end Layers

namespace Ambient

variable {ω : Type}

/-- Changing a tracing layer leaves the kinds, the outside and the trace alone. -/
theorem changeTracing_keeps (id : LayerId) (change : TracingChange) (a : Ambient ω) :
    (a.changeTracing id change).2.layers.kinds = a.layers.kinds ∧
      (a.changeTracing id change).2.host = a.host ∧
      (a.changeTracing id change).2.trace = a.trace := by
  unfold changeTracing
  split
  · exact ⟨rfl, rfl, rfl⟩
  · rename_i layer hget
    split
    · exact ⟨rfl, rfl, rfl⟩
    · exact ⟨Layers.kinds_put (Layers.tracing?_eq_some.1 hget) rfl, rfl, rfl⟩

/-- Changes of tracing layers one after another leave the kinds, the outside and the trace alone. -/
theorem changeAll_keeps (changes : List (LayerId × TracingChange)) (a : Ambient ω) :
    (a.changeAll changes).layers.kinds = a.layers.kinds ∧
      (a.changeAll changes).host = a.host ∧ (a.changeAll changes).trace = a.trace := by
  induction changes generalizing a with
  | nil => exact ⟨rfl, rfl, rfl⟩
  | cons change rest ih =>
    obtain ⟨hkinds, hhost, htrace⟩ := ih (a.changeTracing change.1 change.2).2
    obtain ⟨hkinds', hhost', htrace'⟩ := changeTracing_keeps change.1 change.2 a
    exact ⟨hkinds.trans hkinds', hhost.trans hhost', htrace.trans htrace'⟩

end Ambient

namespace Frame

variable {ω : Type}

/-- The core of a frame. -/
def core (s : Frame ω) : Core ω :=
  ⟨s.layers.kinds, s.registry, s.memory, s.host, s.trace.invocations⟩

/-- A message leaves no mark on the core. -/
@[simp]
theorem core_write (s : Frame ω) (level : LogLevel) (message : String) :
    (s.write level message).core = s.core := rfl

/-- An event that is no invocation leaves no mark on the core. -/
theorem core_record (s : Frame ω) {event : Event} (h : event.invocation? = none) :
    (s.record event).core = s.core := by
  show Core.mk _ _ _ _ (Trace.invocations (event :: s.trace)) = _
  rw [Trace.invocations_cons, h, Option.toList_none, List.append_nil]
  rfl

/-- Changes to tracing layers leave no mark on the core. -/
@[simp]
theorem core_changeAll (s : Frame ω) (changes : List (LayerId × TracingChange)) :
    (s.changeAll changes).core = s.core := by
  obtain ⟨hkinds, hhost, htrace⟩ := Ambient.changeAll_keeps changes s.toAmbient
  unfold core changeAll
  rw [hkinds, hhost, htrace]

/-- A view of a frame that logging, noting events and changing tracing layers leave as it is. -/
structure Undisturbed {α : Type} (view : Frame ω → α) : Prop where
  write : ∀ s level message, view (s.write level message) = view s
  record : ∀ s event, event.invocation? = none → view (s.record event) = view s
  changeAll : ∀ s changes, view (s.changeAll changes) = view s

/-- Logging, noting events and changing tracing layers leave the core as it is. -/
theorem core_undisturbed : Undisturbed (@core ω) :=
  ⟨core_write, fun s _ hevent => core_record s hevent, core_changeAll⟩

/-- The function sees the caller's memory and the outside as they are, and is invoked once. -/
theorem core_invoke (env : Environment ω) (driver : Driver) (function : DriverFunction)
    (entry : EntryPoint) (args : List CallArgument) (s : Frame ω) :
    (s.invoke env driver function entry args).2.core =
      let reply := env.run function entry args s.memory s.host
      { s.core with
        memory := reply.memory
        host := reply.host
        invocations :=
          s.core.invocations ++ [⟨driver.id, entry.name, function, args, reply.result⟩] } := by
  show Core.mk _ _ _ _ (Trace.invocations (_ :: s.trace)) = _
  rw [Trace.invocations_cons]
  rfl

end Frame
end DriverLoader
