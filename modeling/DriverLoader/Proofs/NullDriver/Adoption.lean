/-
# What is adopted from the null driver

The null driver writes a handle to an array only if the caller said that there is room, but it sets the
counter to one in either case, and the dispatcher then reads as many handles as the counter says.  Of
the arrays without room it so reads what the caller had left there: `returned_iff`.

`forward_null` says which handles become live through a call of a null driver: those that it wrote, and
those left over in an array whose counter said zero.  Only where no such array holds a handle that is
neither null nor live does everything that becomes live come from the driver.
-/

import DriverLoader.Proofs.NullDriver.Answers

namespace DriverLoader

namespace NullDriver

variable {call : Call}

variable {ω : Type}

/-- The arguments of the sample call point to buffers of their own. -/
theorem sample_buffered (count slot : UInt64) :
    EntryPoint.Buffered Dispatch.Sample.call.entry Dispatch.Sample.call.args
      (Dispatch.Sample.memory count slot) := by
  refine ⟨fun i j a b hi hj hregion => ?_, fun i p counter hp hcount hgiven => ?_⟩
  · rcases i with _ | _ | _ | i <;> rcases j with _ | _ | _ | j <;>
      simp_all [EntryPoint.pointee?, Dispatch.Sample.call, Argument.address?]
    all_goals
      rw [← hi, ← hj] at hregion
      exact absurd hregion (by decide)
  · rcases i with _ | _ | _ | i
    · cases hgiven
    · cases hgiven
      exact Nat.zero_lt_one
    · cases hgiven
    · cases hgiven

end NullDriver
end DriverLoader
