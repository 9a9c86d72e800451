/-
# Probe layers

A probe is a layer that observes calls for a test: it notes each call and lets it go on, answers it
itself, or replaces the answer.
-/

import DriverLoader.ResultCode

namespace DriverLoader

/-- What a probe does with a call. -/
inductive ProbeBehaviour where
  /-- Lets the call go on without a note. -/
  | pass
  /-- Notes the call and its result. -/
  | record
  /-- Notes the call, its diagnostic form, and its result. -/
  | inspect
  /-- Notes the call and answers it with a code. -/
  | refuse (code : ResultCode)
  /-- Notes the call and its result, and answers with a code of its own. -/
  | replace (code : ResultCode)
  deriving DecidableEq

/-- A layer that observes calls. -/
structure ProbeLayer where
  name : String
  behaviour : ProbeBehaviour
  deriving DecidableEq

end DriverLoader
