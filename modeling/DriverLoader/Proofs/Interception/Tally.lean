/-
# What validation layers count

Every validation layer counts the calls that it rejects, and `Frame.tally` shows these counters.  Only a
rejection moves one: changing tracing layers (`rejected?_changeAll`), counting an inspected call
(`tally_countChecked`) and whatever else a layer can do to a frame leave all of them as they are, and a
rejection adds one to that of its own layer (`tally_countRejected`).
-/

import DriverLoader.Proofs.Interception.Core

namespace DriverLoader

/-- The number of calls that a validation layer has rejected. -/
def Layer.rejected? : Layer → Option Nat
  | validation layer => some layer.rejected
  | tracing _ | probe _ => none

/-- The number of calls rejected by the layer of an identity, if that is a validation layer. -/
def Layers.rejected? (layers : Layers) (id : LayerId) : Option Nat :=
  (layers.get? id).bind Layer.rejected?

/-- The counters of rejected calls, by layer. -/
abbrev Tally := LayerId → Option Nat

/-- The counters after the blamed layer, if any, counted one more rejection. -/
def Tally.blame (tally : Tally) (blamed : Option LayerId) : Tally :=
  fun id => (tally id).map (· + if blamed = some id then 1 else 0)

/-- Without a layer to blame no counter moves. -/
theorem Tally.blame_none (tally : Tally) : tally.blame none = tally := by
  funext id
  exact Option.map_id'

namespace Layers

/-- Putting another state in place of a layer shows at that layer only. -/
theorem get?_put {layers : Layers} {id : LayerId} {old : Layer} (hget : layers.get? id = some old)
    (new : Layer) (other : LayerId) :
    (layers.put id new).get? other = if id = other then some new else layers.get? other := by
  obtain ⟨hlt, -⟩ := List.getElem?_eq_some_iff.1 hget
  unfold get? put
  rw [List.getElem?_set]
  by_cases heq : id = other
  · subst heq
    rw [if_pos rfl, if_pos hlt, if_pos rfl]
  · rw [if_neg fun hnumber => heq (congrArg LayerId.mk hnumber), if_neg heq]

/-- Putting another state in place of a layer moves at most the counter of that layer. -/
theorem rejected?_put {layers : Layers} {id : LayerId} {old : Layer}
    (hget : layers.get? id = some old) (new : Layer) (other : LayerId) :
    (layers.put id new).rejected? other
      = if id = other then new.rejected? else layers.rejected? other := by
  unfold rejected?
  rw [get?_put hget]
  by_cases heq : id = other
  · rw [if_pos heq, if_pos heq]
    rfl
  · rw [if_neg heq, if_neg heq]

/-- Putting a tracing layer in place of another moves no counter. -/
theorem rejected?_put_tracing {layers : Layers} {id : LayerId} {old : TracingLayer}
    (hget : layers.tracing? id = some old) (new : TracingLayer) :
    (layers.put id (.tracing new)).rejected? = layers.rejected? := by
  have hold := tracing?_eq_some.1 hget
  funext other
  rw [rejected?_put hold]
  split
  · rename_i heq
    rw [← heq, rejected?, hold]
    rfl
  · rfl

/-- Changing a validation layer moves the counter of that layer as it is told to. -/
theorem rejected?_updateValidation (layers : Layers) (id : LayerId)
    (f : ValidationLayer → ValidationLayer) (counts : Nat → Nat)
    (hf : ∀ layer, (f layer).rejected = counts layer.rejected) (other : LayerId) :
    (layers.updateValidation id f).rejected? other
      = if id = other then (layers.rejected? other).map counts else layers.rejected? other := by
  unfold updateValidation
  split
  · rename_i layer hget
    have hold := validation?_eq_some.1 hget
    rw [rejected?_put hold]
    by_cases heq : id = other
    · rw [if_pos heq, if_pos heq, ← heq, rejected?, hold]
      exact congrArg some (hf layer)
    · rw [if_neg heq, if_neg heq]
  · rename_i hnone
    split
    · rename_i heq
      have hrejected : layers.rejected? id = none := by
        cases hget : layers.get? id with
        | none => rw [rejected?, hget]; rfl
        | some layer =>
          cases layer with
          | validation layer => simp [validation?, hget] at hnone
          | _ => rw [rejected?, hget]; rfl
      rw [← heq, hrejected]
      rfl
    · rfl

end Layers

/-- Changing tracing layers moves no counter. -/
theorem Ambient.rejected?_changeAll {ω : Type} (changes : List (LayerId × TracingChange))
    (a : Ambient ω) : (a.changeAll changes).layers.rejected? = a.layers.rejected? := by
  induction changes generalizing a with
  | nil => rfl
  | cons change rest ih =>
    refine (ih (a.changeTracing change.1 change.2).2).trans ?_
    unfold changeTracing
    split
    · rfl
    · rename_i layer hget
      split
      · rfl
      · exact Layers.rejected?_put_tracing hget _

namespace Frame

variable {ω : Type}

/-- The counters of rejected calls. -/
def tally (s : Frame ω) : Tally :=
  s.layers.rejected?

/-- The counters are a view that logging, noting events and changing tracing layers leave alone. -/
theorem tally_undisturbed : Undisturbed (@tally ω) :=
  ⟨fun _ _ _ => rfl, fun _ _ _ => rfl, fun s changes => s.rejected?_changeAll changes⟩

/-- Counting an inspected call moves no counter of rejected calls. -/
theorem tally_countChecked (s : Frame ω) (id : LayerId) :
    tally { s with layers := s.layers.updateValidation id ValidationLayer.countChecked }
      = s.tally := by
  funext other
  refine (Layers.rejected?_updateValidation s.layers id ValidationLayer.countChecked (fun n => n)
    (fun _ => rfl) other).trans ?_
  rw [Option.map_id', ite_self]
  rfl

/-- Counting a rejected call moves the counter of its layer. -/
theorem tally_countRejected (s : Frame ω) (id : LayerId) :
    tally { s with layers := s.layers.updateValidation id ValidationLayer.countRejected }
      = s.tally.blame (some id) := by
  funext other
  refine (Layers.rejected?_updateValidation s.layers id ValidationLayer.countRejected (· + 1)
    (fun _ => rfl) other).trans ?_
  unfold Tally.blame
  by_cases heq : id = other
  · rw [if_pos heq, if_pos (congrArg some heq)]
    rfl
  · rw [if_neg heq, if_neg fun hsome => heq (Option.some.inj hsome)]
    exact Option.map_id'.symm

end Frame
end DriverLoader
