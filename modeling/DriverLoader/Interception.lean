/-
# The layer chain

A call passes the layers of a stack from the outermost to the innermost and then reaches the terminal,
which forwards it to a driver.  Each layer sees the call and the rest of the chain as a function, and
decides whether to run it; no layer can alter the arguments.

A tracing layer runs the prologues of the tracers that observe the call in the order of registration
and their epilogues in the reverse order.  A validation layer runs the rest of the chain only if no
checker rejects the call.
-/

import DriverLoader.NullDriver

namespace DriverLoader

/-- The rest of a chain: what happens to a call from here on. -/
abbrev Rest (ω : Type) := Frame ω → ResultCode × Frame ω

variable {ω : Type}

namespace TracerCallbacks

/-- The value and the effect of a prologue. -/
def prologue (env : Environment ω) (call : Call) (callbacks : TracerCallbacks) (s : Frame ω) :
    Nat × Frame ω :=
  match callbacks with
  | .log => (0, s.write .trace s!"--> {call.entry}({Argument.listDiagnostic call.args})")
  | .silent => (0, s)
  | .observer tag =>
    let (data, changes) := env.prologue tag call s.trace
    (data, (s.record (.prologue tag call.entry.name)).changeAll changes)

/-- The effect of an epilogue. -/
def epilogue (env : Environment ω) (call : Call) (result : ResultCode) (callbacks : TracerCallbacks)
    (data : Nat) (s : Frame ω) : Frame ω :=
  match callbacks with
  | .log => s.write .trace s!"<-- {call.entry} = {result}"
  | .silent => s
  | .observer tag =>
    let changes := env.epilogue tag call result data s.trace
    (s.record (.epilogue tag call.entry.name result data)).changeAll changes

end TracerCallbacks

namespace TracingLayer

/-- The values of the prologues, run in order. -/
def prologues (env : Environment ω) (call : Call) : List Tracer → Frame ω → List Nat × Frame ω
  | [], s => ([], s)
  | tracer :: rest, s =>
    let (data, s) := tracer.callbacks.prologue env call s
    let (more, s) := prologues env call rest s
    (data :: more, s)

/-- The effect of the epilogues, run in the order given, each with its value. -/
def epilogues (env : Environment ω) (call : Call) (result : ResultCode) :
    List (Tracer × Nat) → Frame ω → Frame ω
  | [], s => s
  | (tracer, data) :: rest, s =>
    epilogues env call result rest (tracer.callbacks.epilogue env call result data s)

/-- What a tracing layer does with a call.  The tracers are those that observe it at its start, and
stay the same until its end. -/
def intercept (env : Environment ω) (call : Call) (layer : TracingLayer) (next : Rest ω) :
    Rest ω := fun s =>
  let observing := layer.observing
  let (data, s) := prologues env call observing s
  let (result, s) := next s
  (result, epilogues env call result (observing.zip data).reverse s)

end TracingLayer

namespace ValidationLayer

/-- The effect of asking one checker. -/
def ask (call : Call) (checker : Checker) (s : Frame ω) : Frame ω :=
  match checker with
  | .observer name _ _ => s.record (.check name call.entry.name)
  | .handleLifetime =>
    match Checker.staleHandle? s.registry.isLive call.entry call.args with
    | some h => s.write .warn s!"{call.entry}: handle {h} is not live"
    | none => s
  | _ => s

/-- The first checker that rejects a call, with its code, asked in order. -/
def reject? (call : Call) : List Checker → Frame ω → Option (Checker × ResultCode) × Frame ω
  | [], s => (none, s)
  | checker :: rest, s =>
    match checker.verdict s.registry.isLive call.entry call.args with
    | some code => (some (checker, code), ask call checker s)
    | none => reject? call rest (ask call checker s)

/-- The effect of showing the result to the checkers, in order. -/
def inform (call : Call) (result : ResultCode) (checkers : List Checker) (s : Frame ω) : Frame ω :=
  checkers.foldl
    (fun s checker =>
      match checker with
      | .observer name _ _ => s.record (.checked name call.entry.name result)
      | _ => s)
    s

/-- What the validation layer of an identity does with a call. -/
def intercept (call : Call) (id : LayerId) (layer : ValidationLayer) (next : Rest ω) :
    Rest ω := fun s =>
  let s := { s with layers := s.layers.updateValidation id countChecked }
  match reject? call layer.checkers s with
  | (some (checker, code), s) =>
    let s := { s with layers := s.layers.updateValidation id countRejected }
    (code, s.write .debug s!"{call.entry}: rejected by {checker.name} with {code}")
  | (none, s) =>
    let (result, s) := next s
    (result, inform call result layer.checkers s)

end ValidationLayer

namespace ProbeLayer

/-- The arguments of a call as a probe notes them. -/
def notes (call : Call) (registry : Registry) : List (String × CallArgument × Option Bool) :=
  (call.entry.parameters.zip call.args).map fun (p, arg) =>
    (p.name, arg, arg.handle?.map registry.isLive)

/-- What a probe does with a call that has `ahead` layers behind it. -/
def intercept (call : Call) (ahead : Nat) (probe : ProbeLayer) (next : Rest ω) :
    Rest ω := fun s =>
  let noted := s.record (.reached probe.name call.entry.name ahead (notes call s.registry))
  let finish := fun (answer : ResultCode → ResultCode) (s : Frame ω) =>
    let (result, s) := next s
    (answer result, s.record (.returned probe.name result))
  match probe.behaviour with
  | .pass => next s
  | .record => finish id noted
  | .inspect =>
    finish id (noted.record (.inspected call.diagnostic
      ("Next \x7b remaining: " ++ toString ahead ++ " \x7d")))
  | .refuse code => (code, noted)
  | .replace code => finish (fun _ => code) noted

end ProbeLayer

namespace LayerStack

/-- What the layer of an identity does with a call that has `ahead` layers behind it.  An identity
without a layer lets the call go on. -/
def intercept (env : Environment ω) (call : Call) (id : LayerId) (ahead : Nat) (next : Rest ω) :
    Rest ω := fun s =>
  match s.layers.get? id with
  | some (.tracing layer) => layer.intercept env call next s
  | some (.validation layer) => layer.intercept call id next s
  | some (.probe probe) => probe.intercept call ahead next s
  | none => next s

/-- A call through all layers of a stack to the terminal. -/
def run (env : Environment ω) (call : Call) (terminal : Rest ω) : LayerStack → Rest ω
  | [] => terminal
  | id :: rest => intercept env call id rest.length (run env call terminal rest)

end LayerStack
end DriverLoader
