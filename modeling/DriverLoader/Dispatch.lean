/-
# Routing calls to drivers

A call goes to the driver that owns the handle it is made on.  `Dispatch.route` names the one function
it may reach, or the reason why it may reach none, in the order in which the gates are passed: the
handle has to be live, the driver's table for the category valid, its version new enough, the
sub-table present and the slot filled.

`Dispatch.forward` invokes that function with the arguments unchanged and gives back its answer.  After
a success the handle is destroyed if the entry point destroys it, and every handle that stands in an
output array is adopted for the same driver.
-/

import DriverLoader.Interception

namespace DriverLoader

/-- Why a call reaches no driver function. -/
inductive Refusal where
  /-- The routing handle is unknown or destroyed. -/
  | unknownHandle
  /-- The driver has no valid table for the category. -/
  | invalidTable
  /-- The entry point is newer than the negotiated version. -/
  | tooOld (negotiated : Version)
  /-- The driver does not have the sub-table. -/
  | absentGroup
  /-- The slot is empty. -/
  | notImplemented
  deriving DecidableEq

/-- Where a call goes. -/
structure Target where
  /-- The driver that owns the routing handle. -/
  driver : Driver
  /-- The function in the slot. -/
  function : DriverFunction

namespace Refusal

/-- The code that a refused call is answered with. -/
def code : Refusal → ResultCode
  | tooOld _ => .unsupportedVersion
  | _ => .uninitialized

/-- The text that is logged for a refused call. -/
def message (entry : EntryPoint) (h : Handle) : Refusal → String
  | unknownHandle => s!"{entry}: unknown handle {h}"
  | invalidTable => s!"{entry}: {entry.category} table not valid"
  | tooOld negotiated => s!"{entry}: requires {entry.version}, table at {negotiated}"
  | absentGroup => s!"{entry}: group {entry.group} absent"
  | notImplemented => s!"{entry}: not implemented"

end Refusal

namespace Dispatch

/-- The function that a driver offers for an entry point, or why it may not be called. -/
def select (entry : EntryPoint) (driver : Driver) : Except Refusal DriverFunction :=
  let table := driver.table entry.category
  if !table.valid then .error .invalidTable
  else if !table.version.supports entry.version then .error (.tooOld table.version)
  else
    match table.group? entry.group with
    | none => .error .absentGroup
    | some slots =>
      match slots.lookup entry.name with
      | none => .error .notImplemented
      | some function => .ok function

/-- Where a call of an entry point on a handle goes, or why it goes nowhere. -/
def route (registry : Registry) (entry : EntryPoint) (h : Handle) : Except Refusal Target :=
  match registry.find? h with
  | some record =>
    if record.valid then (select entry record.owner).map (⟨record.owner, ·⟩)
    else .error .unknownHandle
  | none => .error .unknownHandle

/-- The registry after a successful call on a handle: a destroying entry point ends the handle, and
then the handles in the output arrays are adopted. -/
def settle (registry : Registry) (call : Call) (driver : Driver) (memory : Memory) : Registry :=
  let registry := if call.entry.releases then registry.release call.handle else registry
  registry.adoptAll driver (call.entry.outputHandles call.args memory)

variable {ω : Type}

/-- A call without layers. -/
def forward (env : Environment ω) (call : Call) (s : Frame ω) : ResultCode × Frame ω :=
  match route s.registry call.entry call.handle with
  | .error refusal =>
    (refusal.code, s.write .trace (refusal.message call.entry call.handle))
  | .ok target =>
    let (result, s) := s.invoke env target.driver target.function call.entry call.args
    if result.isSuccess then
      (result, { s with registry := settle s.registry call target.driver s.memory })
    else (result, s)

/-- A call through the layers of a stack. -/
def invoke (env : Environment ω) (stack : LayerStack) (call : Call) (s : Frame ω) :
    ResultCode × Frame ω :=
  stack.run env call (forward env call) s

end Dispatch
end DriverLoader
