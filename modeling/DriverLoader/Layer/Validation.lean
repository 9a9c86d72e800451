/-
# The validation layer

A validation layer asks its checkers, in order, whether a call may go on; the first that rejects the
call answers it.  Two checkers are built in: one rejects null handles and null pointers that have to
be given, the other rejects handles of the entry point's own category that are not live.
-/

import DriverLoader.EntryPoint
import DriverLoader.Failure
import DriverLoader.Memory
import DriverLoader.Text.Quoted

namespace DriverLoader

/-- A checker of calls. -/
inductive Checker where
  /-- Rejects null handles and null pointers. -/
  | parameter
  /-- Rejects handles that are not live. -/
  | handleLifetime
  /-- Accepts every call and notes nothing. -/
  | silent (name : String)
  /-- Notes every call, and rejects those of one entry point, or all of them, with a code. -/
  | observer (name : String) (reject : Option ResultCode) (only : Option String)
  deriving DecidableEq

/-- The built-in checkers that a configuration asks for. -/
structure ValidationConfig where
  parameterValidation : Bool
  handleLifetime : Bool
  deriving DecidableEq

/-- The state of a validation layer. -/
structure ValidationLayer where
  /-- The checkers in the order in which they are asked. -/
  checkers : List Checker
  /-- The number of calls inspected. -/
  checked : Nat
  /-- The number of calls rejected. -/
  rejected : Nat

namespace Checker

/-- The name of a checker. -/
def name : Checker → String
  | parameter => "parameter"
  | handleLifetime => "handle-lifetime"
  | silent name | observer name _ _ => name

/-- The parameters of an entry point with the arguments given for them. -/
def pairs (entry : EntryPoint) (args : List CallArgument) : List (Parameter × CallArgument) :=
  entry.parameters.zip args

/-- The verdict on null arguments: a null handle that has to be given is reported before a null
pointer that has to be given. -/
def nullVerdict (entry : EntryPoint) (args : List CallArgument) : Option ResultCode :=
  let required := (pairs entry args).filter fun (p, _) => !p.optional
  if required.any (fun (_, arg) => arg.handle?.isSome && arg.isNull) then
    some .invalidNullHandle
  else if required.any (fun (_, arg) => arg.address?.isSome && arg.isNull) then
    some .invalidNullPointer
  else none

/-- The first non-null handle of the entry point's own category that is not live. -/
def staleHandle? (isLive : Handle → Bool) (entry : EntryPoint) (args : List CallArgument) :
    Option Handle :=
  (pairs entry args).findSome? fun (p, arg) =>
    if p.handleCategory? = some entry.category then
      arg.handle?.filter fun h => !h.isNull && !isLive h
    else none

/-- The code with which a checker rejects a call, or nothing if it accepts the call. -/
def verdict (checker : Checker) (isLive : Handle → Bool) (entry : EntryPoint)
    (args : List CallArgument) : Option ResultCode :=
  match checker with
  | parameter => nullVerdict entry args
  | handleLifetime => (staleHandle? isLive entry args).map fun _ => .invalidArgument
  | silent _ => none
  | observer _ reject only => if only.all (· = entry.name) then reject else none

end Checker

namespace ValidationLayer

/-- The largest number of checkers. -/
def capacity : Nat :=
  8

/-- A layer without checkers. -/
def empty : ValidationLayer :=
  ⟨[], 0, 0⟩

/-- A layer with the built-in checkers that a configuration asks for. -/
def ofConfig (config : ValidationConfig) : ValidationLayer :=
  { empty with
    checkers :=
      (if config.parameterValidation then [.parameter] else []) ++
        (if config.handleLifetime then [.handleLifetime] else []) }

/-- The layer with a checker that is asked after the others. -/
def addChecker (layer : ValidationLayer) (checker : Checker) : Except Failure ValidationLayer :=
  if layer.checkers.length < capacity then
    .ok { layer with checkers := layer.checkers ++ [checker] }
  else .error .layerStackFull

/-- The layer after one more call was inspected. -/
def countChecked (layer : ValidationLayer) : ValidationLayer :=
  { layer with checked := layer.checked + 1 }

/-- The layer after one more call was rejected. -/
def countRejected (layer : ValidationLayer) : ValidationLayer :=
  { layer with rejected := layer.rejected + 1 }

/-- The layer as a diagnostic shows it. -/
def diagnostic (layer : ValidationLayer) : String :=
  "ValidationLayer \x7b checkers: " ++ Text.quotedList (layer.checkers.map (·.name)) ++
    ", stats: ValidationStats \x7b checked: " ++ toString layer.checked ++ ", rejected: " ++
    toString layer.rejected ++ " \x7d \x7d"

end ValidationLayer
end DriverLoader
