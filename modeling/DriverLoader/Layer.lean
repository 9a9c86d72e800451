/-
# Layers and the layer stack

Layers wrap every routed call.  A layer is an object with an identity: the same layer can be looked at
from several places, and it keeps its state while it stands in no stack.  `Layers` holds the state of
every layer there is, and a stack is a list of identities, outermost first.
-/

import DriverLoader.Layer.Probe
import DriverLoader.Layer.Tracing
import DriverLoader.Layer.Validation

namespace DriverLoader

/-- The identity of a layer. -/
structure LayerId where
  number : Nat
  deriving DecidableEq

/-- The state of a layer. -/
inductive Layer where
  | tracing (layer : TracingLayer)
  | validation (layer : ValidationLayer)
  | probe (layer : ProbeLayer)

/-- The layers that exist, by number. -/
abbrev Layers := List Layer

/-- The layers that a call passes, outermost first. -/
abbrev LayerStack := List LayerId

namespace Layer

/-- The name of a layer. -/
def name : Layer → String
  | tracing _ => "tracing"
  | validation _ => "validation"
  | probe layer => layer.name

end Layer

namespace Layers

/-- The layers with one more, and its identity. -/
def create (layers : Layers) (layer : Layer) : LayerId × Layers :=
  (⟨layers.length⟩, layers ++ [layer])

/-- The state of a layer. -/
def get? (layers : Layers) (id : LayerId) : Option Layer :=
  layers[id.number]?

/-- The layers with the state of one replaced. -/
def put (layers : Layers) (id : LayerId) (layer : Layer) : Layers :=
  layers.set id.number layer

/-- The name of a layer. -/
def nameOf (layers : Layers) (id : LayerId) : String :=
  ((layers.get? id).map (·.name)).getD ""

/-- The tracing layer of an identity. -/
def tracing? (layers : Layers) (id : LayerId) : Option TracingLayer :=
  match layers.get? id with
  | some (.tracing layer) => some layer
  | _ => none

/-- The validation layer of an identity. -/
def validation? (layers : Layers) (id : LayerId) : Option ValidationLayer :=
  match layers.get? id with
  | some (.validation layer) => some layer
  | _ => none

/-- The layers with one validation layer changed. -/
def updateValidation (layers : Layers) (id : LayerId) (f : ValidationLayer → ValidationLayer) :
    Layers :=
  match layers.validation? id with
  | some layer => layers.put id (.validation (f layer))
  | none => layers

end Layers

namespace LayerStack

/-- The largest number of layers in a stack. -/
def capacity : Nat :=
  8

/-- The stack with one more innermost layer. -/
def push (stack : LayerStack) (id : LayerId) : Except Failure LayerStack :=
  if stack.length < capacity then .ok (stack ++ [id]) else .error .layerStackFull

/-- The stack with a layer at a position, or innermost if the stack is shorter; nothing if the layer
stands in the stack already. -/
def insert (stack : LayerStack) (index : Nat) (id : LayerId) : Except Failure (Option LayerStack) :=
  if stack.contains id then .ok none
  else if stack.length < capacity then
    .ok (some (stack.take index ++ id :: stack.drop index))
  else .error .layerStackFull

end LayerStack
end DriverLoader
