/-
# What the operations do to the layer stack

Only six operations have a say in which layers are installed: pushing and inserting a layer, switching
tracing on, clearing the layers and tearing the loader down.  `Operation.restack` is what each of them
makes of the stack, and `step_stacked` says that this is what happens.

The loader's own tracing layer stays the same layer and a tracing layer (`TracingKnown.step`), so as long
as no other layer is installed, every layer in the stack is one that rejects nothing.
-/

import DriverLoader.Proofs.Loader.Shift

namespace DriverLoader

namespace LayerStack

/-- The stack after a layer was pushed, if there was room. -/
def pushed (stack : LayerStack) (id : LayerId) : LayerStack :=
  match stack.push id with
  | .ok stack => stack
  | .error _ => stack

/-- The stack after a layer was inserted, if it was absent and there was room. -/
def inserted (stack : LayerStack) (index : Nat) (id : LayerId) : LayerStack :=
  match stack.insert index id with
  | .ok (some stack) => stack
  | .ok none | .error _ => stack

variable {stack : LayerStack} {index : Nat} {id other : LayerId}

/-- A layer is pushed behind the others if there is room. -/
theorem pushed_eq (stack : LayerStack) (id : LayerId) :
    stack.pushed id = if stack.length < capacity then stack ++ [id] else stack := by
  unfold pushed push
  by_cases hroom : stack.length < capacity
  · rw [if_pos hroom, if_pos hroom]
  · rw [if_neg hroom, if_neg hroom]

/-- A layer that is in the stack is not inserted again. -/
theorem insert_of_mem (hmem : id ∈ stack) (index : Nat) : stack.insert index id = .ok none :=
  if_pos (List.contains_iff_mem.2 hmem)

/-- A full stack takes no layer that is absent. -/
theorem insert_of_full (habsent : id ∉ stack) (hfull : ¬stack.length < capacity) (index : Nat) :
    stack.insert index id = .error .layerStackFull :=
  (if_neg (mt List.contains_iff_mem.1 habsent)).trans (if_neg hfull)

/-- A stack with room takes a layer that is absent, at the place asked for or behind all others. -/
theorem insert_of_room (habsent : id ∉ stack) (hroom : stack.length < capacity) (index : Nat) :
    stack.insert index id = .ok (some (stack.take index ++ id :: stack.drop index)) :=
  (if_neg (mt List.contains_iff_mem.1 habsent)).trans (if_pos hroom)

/-- A layer is inserted if it is absent and there is room, and otherwise the stack stays. -/
theorem inserted_cases (stack : LayerStack) (index : Nat) (id : LayerId) :
    stack.inserted index id = stack ∨ id ∉ stack ∧ stack.length < capacity ∧
      stack.inserted index id = stack.take index ++ id :: stack.drop index := by
  unfold inserted
  by_cases hmem : id ∈ stack
  · rw [insert_of_mem hmem]
    exact Or.inl rfl
  · by_cases hroom : stack.length < capacity
    · rw [insert_of_room hmem hroom]
      exact Or.inr ⟨hmem, hroom, rfl⟩
    · rw [insert_of_full hmem hroom]
      exact Or.inl rfl

/-- Pushing brings in the layer that is pushed and no other. -/
theorem mem_pushed (hmem : other ∈ stack.pushed id) : other ∈ stack ∨ other = id := by
  rw [pushed_eq] at hmem
  split at hmem
  · exact (List.mem_append.1 hmem).imp_right List.mem_singleton.1
  · exact Or.inl hmem

/-- Inserting brings in the layer that is inserted and no other. -/
theorem mem_inserted (hmem : other ∈ stack.inserted index id) : other ∈ stack ∨ other = id := by
  obtain hsame | ⟨-, -, hinserted⟩ := inserted_cases stack index id
  · exact Or.inl (hsame ▸ hmem)
  · rw [hinserted] at hmem
    rcases List.mem_append.1 hmem with hbefore | hafter
    · exact Or.inl (List.mem_of_mem_take hbefore)
    · exact (List.mem_cons.1 hafter).symm.imp_left List.mem_of_mem_drop

end LayerStack

namespace Operation

/-- What an operation makes of the stack of a loader with this tracing layer. -/
def restack (tracing : LayerId) (stack : LayerStack) : Operation → LayerStack
  | pushLayer id => stack.pushed id
  | insertLayer index id => stack.inserted index id
  | enableTracing => stack.inserted 0 tracing
  | clearLayers | teardown => []
  | _ => stack

/-- An operation installs a layer that the caller names. -/
def Installs (operation : Operation) (id : LayerId) : Prop :=
  operation = pushLayer id ∨ ∃ index, operation = insertLayer index id

/-- A layer comes into the stack by name or as the loader's tracing layer. -/
theorem mem_restack {operation : Operation} {tracing id : LayerId} {stack : LayerStack}
    (hmem : id ∈ operation.restack tracing stack) :
    id ∈ stack ∨ id = tracing ∨ operation.Installs id := by
  cases operation with
  | pushLayer other =>
    rcases LayerStack.mem_pushed hmem with hold | rfl
    · exact Or.inl hold
    · exact Or.inr (Or.inr (Or.inl rfl))
  | insertLayer index other =>
    rcases LayerStack.mem_inserted hmem with hold | rfl
    · exact Or.inl hold
    · exact Or.inr (Or.inr (Or.inr ⟨index, rfl⟩))
  | enableTracing => exact (LayerStack.mem_inserted hmem).imp_right Or.inl
  | clearLayers => cases hmem
  | teardown => cases hmem
  | _ => exact Or.inl hmem

end Operation

namespace Session

variable {ω : Type}

/-- The session that has this stack and the tracing layer of another one. -/
structure Stacked (s : Session ω) (stack : LayerStack) (s' : Session ω) : Prop where
  stack : s'.loader.stack = stack
  tracing : s'.loader.tracing = s.loader.tracing

/-- Pushing a layer onto the stack of a loader leaves its tracing layer alone. -/
theorem pushLayer_stacked (id : LayerId) (s : Session ω) :
    s.Stacked (s.loader.stack.pushed id) (s.pushLayer id).2 := by
  unfold pushLayer LayerStack.pushed
  split
  · rename_i heq
    rw [heq]
    exact ⟨rfl, rfl⟩
  · rename_i heq
    rw [heq]
    exact ⟨rfl, rfl⟩

/-- Inserting a layer into the stack of a loader leaves its tracing layer alone. -/
theorem insertLayer_stacked (index : Nat) (id : LayerId) (s : Session ω) :
    s.Stacked (s.loader.stack.inserted index id) (s.insertLayer index id).2 := by
  unfold insertLayer LayerStack.inserted
  split
  · rename_i heq
    rw [heq]
    exact ⟨rfl, rfl⟩
  · rename_i heq
    rw [heq]
    exact ⟨rfl, rfl⟩
  · rename_i heq
    rw [heq]
    exact ⟨rfl, rfl⟩

/-- Switching tracing on inserts the tracing layer outermost. -/
theorem enableTracing_stacked (s : Session ω) :
    s.Stacked (s.loader.stack.inserted 0 s.loader.tracing) s.enableTracing.2 := by
  have hinserted := insertLayer_stacked 0 s.loader.tracing s
  unfold enableTracing
  split
  · rename_i failure s₁ heq
    rw [heq] at hinserted
    exact hinserted
  · rename_i inserted s₁ heq
    rw [heq] at hinserted
    exact ⟨hinserted.stack, hinserted.tracing⟩

/-- Unloading leaves the stack alone. -/
theorem unload_stacked (name : String) (s : Session ω) :
    s.Stacked s.loader.stack (s.unload name).2 := by
  cases unload_parted name s with
  | kept idles => exact ⟨congrArg Loader.stack idles.loader, congrArg Loader.tracing idles.loader⟩
  | gone d found idles =>
    exact ⟨(congrArg Loader.stack idles.loader).trans rfl,
      (congrArg Loader.tracing idles.loader).trans rfl⟩

/-- **What any one operation does to the stack.** -/
theorem step_stacked (env : Environment ω) (s : Session ω) (operation : Operation) :
    s.Stacked (operation.restack s.loader.tracing s.loader.stack) (s.step env operation) := by
  cases operation with
  | addDriver name module =>
    show s.Stacked s.loader.stack (s.addDriver env name module).2
    unfold addDriver
    split
    · exact ⟨rfl, rfl⟩
    · split <;> exact ⟨rfl, rfl⟩
  | init category flags =>
    show s.Stacked s.loader.stack (s.init env category flags).2
    unfold init
    split <;> exact ⟨rfl, rfl⟩
  | driverGet category count array memory =>
    show s.Stacked s.loader.stack (s.driverGet env category count array memory).2.2
    unfold driverGet
    split <;> exact ⟨rfl, rfl⟩
  | registerHandle owner object =>
    show s.Stacked s.loader.stack (s.registerHandle owner object).2
    unfold registerHandle
    split
    · exact ⟨rfl, rfl⟩
    · split <;> exact ⟨rfl, rfl⟩
  | unload name => exact unload_stacked name s
  | teardown =>
    have hloader := (teardown_idles s).loader
    exact ⟨(congrArg Loader.stack hloader).trans rfl, (congrArg Loader.tracing hloader).trans rfl⟩
  | enableTracing => exact enableTracing_stacked s
  | pushLayer id => exact pushLayer_stacked id s
  | insertLayer index id => exact insertLayer_stacked index id s
  | addChecker id checker =>
    show s.Stacked s.loader.stack (s.addChecker id checker).2
    unfold addChecker
    split
    · exact ⟨rfl, rfl⟩
    · split <;> exact ⟨rfl, rfl⟩
  | hold name =>
    show s.Stacked s.loader.stack (s.hold name).2
    unfold hold
    split <;> exact ⟨rfl, rfl⟩
  | holdRecord h =>
    show s.Stacked s.loader.stack (s.holdRecord h).2
    unfold holdRecord
    split <;> exact ⟨rfl, rfl⟩
  | _ => exact ⟨rfl, rfl⟩

/-! ### The loader's tracing layer -/

/-- The loader's tracing layer is one. -/
def TracingKnown (s : Session ω) : Prop :=
  s.layers.kinds[s.loader.tracing.number]? = some .tracing

/-- No operation makes the tracing layer of a loader one of another kind. -/
theorem TracingKnown.step {s : Session ω} (hs : s.TracingKnown) (env : Environment ω)
    (operation : Operation) : (s.step env operation).TracingKnown := by
  unfold TracingKnown
  rw [(step_stacked env s operation).tracing]
  exact (step_effect env s operation).tracing _ hs

/-- No history makes the tracing layer of a loader one of another kind. -/
theorem TracingKnown.after {s : Session ω} (hs : s.TracingKnown) (env : Environment ω)
    (history : History) : (s.after env history).TracingKnown :=
  after_induction hs history fun _ operation _ _ hbefore => hbefore.step env operation

/-- A loader is made with a tracing layer. -/
theorem empty_tracingKnown (config : Config) (shared : Shared ω) :
    (empty config shared).TracingKnown := by
  refine empty_induction config shared ?_ (fun _ _ _ hs => hs) ?_ ?_ fun _ _ hs => hs
  · show (Layers.kinds (shared.layers ++ [_]))[shared.layers.length]? = _
    simp [Layers.kinds, Layer.kind]
  · intro s id hs
    unfold TracingKnown
    rw [(pushLayer_stacked id s).tracing, (pushLayer_stays id s).kinds]
    exact hs
  · intro s hs
    exact Layers.getElem?_kinds_append hs _

/-- Nothing but the loader's tracing layer is installed. -/
def OnlyTracing (s : Session ω) : Prop :=
  ∀ id ∈ s.loader.stack, id = s.loader.tracing

/-- While no layer is installed by name, nothing but the loader's tracing layer can be. -/
theorem OnlyTracing.after {s : Session ω} (hs : s.OnlyTracing) (env : Environment ω)
    (history : History) (hinstalls : ∀ operation ∈ history, ∀ id, ¬operation.Installs id) :
    (s.after env history).OnlyTracing := by
  refine after_induction hs history fun before operation after hsplit hbefore id hmem => ?_
  have hstacked := step_stacked env (s.after env before) operation
  rw [hstacked.stack] at hmem
  rw [hstacked.tracing]
  rcases Operation.mem_restack hmem with hold | htracing | hnamed
  · exact hbefore id hold
  · exact htracing
  · refine absurd hnamed (hinstalls operation ?_ id)
    exact hsplit ▸ List.mem_append_right before List.mem_cons_self

end Session
end DriverLoader
