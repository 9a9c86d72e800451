/-
# Histories of a loader

A history is a list of operations, each of them one thing that can be done to a loader from outside.
`Session.after` is the state that a history leads to.  What an operation answers is said by the
function that it stands for; here only its effect counts.

Layers and observers of an application come into being with `createLayer` and change with
`changeTracing` and `addChecker`.  References to tables and records that an application keeps come
with `hold` and `holdRecord` and go with `dropHeld`.
-/

import DriverLoader.Loader.Calls
import DriverLoader.Loader.Loading
import DriverLoader.Loader.Unloading

namespace DriverLoader

/-- Something that can be done to a loader. -/
inductive Operation where
  | addDriver (name : String) (module : DriverModule)
  | init (category : Category) (flags : UInt32)
  | driverGet (category : Category) (count array : Option Location) (memory : Memory)
  | call (entry : EntryPoint) (args : List CallArgument) (memory : Memory)
  | registerHandle (owner object : Handle)
  | unload (name : String)
  | teardown
  | enableTracing
  | disableTracing
  | createLayer (layer : Layer)
  | pushLayer (id : LayerId)
  | insertLayer (index : Nat) (id : LayerId)
  | clearLayers
  | changeTracing (id : LayerId) (change : TracingChange)
  | addChecker (id : LayerId) (checker : Checker)
  | hold (name : String)
  | holdRecord (h : Handle)
  | dropHeld

/-- Operations in the order in which they are done. -/
abbrev History := List Operation

namespace Session

variable {ω : Type}

/-- The state after one operation. -/
def step (env : Environment ω) (s : Session ω) : Operation → Session ω
  | .addDriver name module => (s.addDriver env name module).2
  | .init category flags => (s.init env category flags).2
  | .driverGet category count array memory => (s.driverGet env category count array memory).2.2
  | .call entry args memory => (s.call env entry args memory).2.2
  | .registerHandle owner object => (s.registerHandle owner object).2
  | .unload name => (s.unload name).2
  | .teardown => s.teardown.2
  | .enableTracing => s.enableTracing.2
  | .disableTracing => s.disableTracing
  | .createLayer layer => (s.createLayer layer).2
  | .pushLayer id => (s.pushLayer id).2
  | .insertLayer index id => (s.insertLayer index id).2
  | .clearLayers => s.clearLayers.2
  | .changeTracing id change => (s.changeTracing id change).2
  | .addChecker id checker => (s.addChecker id checker).2
  | .hold name => (s.hold name).2
  | .holdRecord h => (s.holdRecord h).2
  | .dropHeld => s.dropHeld

/-- The state after a history. -/
def after (env : Environment ω) (s : Session ω) (history : History) : Session ω :=
  history.foldl (step env) s

@[simp]
theorem after_nil (env : Environment ω) (s : Session ω) : s.after env [] = s := rfl

/-- A history in two parts is the second from where the first leads. -/
theorem after_append (env : Environment ω) (s : Session ω) (first second : History) :
    s.after env (first ++ second) = (s.after env first).after env second := by
  simp [after]

/-- What holds before a history and is kept by each of its operations holds after it. -/
theorem after_induction {P : Session ω → Prop} {env : Environment ω} {s : Session ω} (start : P s)
    (history : History)
    (kept : ∀ before operation after, history = before ++ operation :: after →
      P (s.after env before) → P ((s.after env before).step env operation)) :
    P (s.after env history) := by
  induction history generalizing s with
  | nil => exact start
  | cons operation rest ih =>
    refine ih (kept [] operation rest rfl start) fun before next after hsplit => ?_
    exact kept (operation :: before) next after (congrArg (operation :: ·) hsplit)

end Session
end DriverLoader
