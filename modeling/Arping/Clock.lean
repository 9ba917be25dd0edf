import Mathlib.Data.Rat.Floor
import Mathlib.Tactic.Linarith
import Mathlib.Tactic.NormNum
import Mathlib.Tactic.Ring

/-!
# Clock readings and time pairs

`gettimeofday` is the only clock. A successful call stores a wall-clock time with
`0 ≤ tv_usec < 1000000` (`WallClock`); a failing call leaves the caller's `struct timeval` as it
was, which `getclock` copies all the same (`ClockCall.fail`).

`fixupTimespec` borrows whole seconds until the nanoseconds are no longer negative. It never
carries: `fixupTimespec_nanos` and `fixupTimespec_nsec_nonneg` are all it guarantees, and
`fixupTimespec_of_nonneg` says that nanoseconds above `10 ^ 9` stay where they are.
-/

namespace Arping

/-- `struct timeval`. -/
structure Timeval where
  tvSec : ℤ
  tvUsec : ℤ
  deriving DecidableEq

/-- `struct timespec`. -/
structure Timespec where
  tvSec : ℤ
  tvNsec : ℤ
  deriving DecidableEq

namespace Timeval

/-- The time in microseconds. -/
def micros (tv : Timeval) : ℤ := tv.tvSec * 1000000 + tv.tvUsec

/-- What `select` takes for a timeout: no part negative, less than a second of microseconds. -/
def WellFormed (tv : Timeval) : Prop := 0 ≤ tv.tvSec ∧ 0 ≤ tv.tvUsec ∧ tv.tvUsec < 1000000

instance (tv : Timeval) : Decidable tv.WellFormed := by unfold WellFormed; infer_instance

end Timeval

/-- The time in nanoseconds. -/
def Timespec.nanos (tv : Timespec) : ℤ := tv.tvSec * 1000000000 + tv.tvNsec

/-- What a successful `gettimeofday` stores. -/
structure WallClock extends Timeval where
  usec_nonneg : 0 ≤ tvUsec
  usec_lt : tvUsec < 1000000

/-- One call of `gettimeofday`. -/
inductive ClockCall
  | ok (now : WallClock)
  | fail (junk : Timeval)

namespace ClockCall

/-- The `struct timeval` after the call. -/
def timeval : ClockCall → Timeval
  | ok now => now.toTimeval
  | fail junk => junk

/-- The `struct timespec` that `getclock` makes of it. -/
def timespec (c : ClockCall) : Timespec := ⟨c.timeval.tvSec, c.timeval.tvUsec * 1000⟩

/-- The call succeeds. -/
def Succeeds : ClockCall → Prop
  | ok _ => True
  | fail _ => False

instance : DecidablePred Succeeds := fun c => by cases c <;> unfold Succeeds <;> infer_instance

@[simp] theorem timespec_ok_sec (now : WallClock) : (ok now).timespec.tvSec = now.tvSec := rfl

@[simp] theorem timespec_ok_nsec (now : WallClock) :
    (ok now).timespec.tvNsec = now.tvUsec * 1000 := rfl

end ClockCall

/-- The time in seconds. -/
def timespec2dbl (tv : Timespec) : ℚ := tv.tvSec + (tv.tvNsec : ℚ) / 1000000000

/-- While negative nanoseconds, take from whole seconds. -/
def fixupTimespec (tv : Timespec) : Timespec :=
  if tv.tvNsec < 0 then fixupTimespec ⟨tv.tvSec - 1, tv.tvNsec + 1000000000⟩ else tv
termination_by (-tv.tvNsec).toNat
decreasing_by omega

theorem fixupTimespec_of_nonneg {tv : Timespec} (h : 0 ≤ tv.tvNsec) : fixupTimespec tv = tv := by
  rw [fixupTimespec, if_neg (by omega)]

theorem fixupTimespec_of_neg {tv : Timespec} (h : tv.tvNsec < 0) :
    fixupTimespec tv = fixupTimespec ⟨tv.tvSec - 1, tv.tvNsec + 1000000000⟩ := by
  rw [fixupTimespec, if_pos h]

/-- Borrowing does not change the time denoted. -/
theorem fixupTimespec_nanos (tv : Timespec) : (fixupTimespec tv).nanos = tv.nanos := by
  induction tv using fixupTimespec.induct with
  | case1 tv h ih =>
    rw [fixupTimespec_of_neg h, ih]
    unfold Timespec.nanos
    ring
  | case2 tv h => rw [fixupTimespec_of_nonneg (by omega)]

theorem fixupTimespec_nsec_nonneg (tv : Timespec) : 0 ≤ (fixupTimespec tv).tvNsec := by
  induction tv using fixupTimespec.induct with
  | case1 tv h ih => rwa [fixupTimespec_of_neg h]
  | case2 tv h => rw [fixupTimespec_of_nonneg (by omega)]; omega

/-- At most one second short, the loop runs at most once. -/
theorem fixupTimespec_eq {tv : Timespec} (h : -1000000000 ≤ tv.tvNsec) :
    fixupTimespec tv =
      if tv.tvNsec < 0 then ⟨tv.tvSec - 1, tv.tvNsec + 1000000000⟩ else tv := by
  split
  · rename_i hneg
    have hnonneg : 0 ≤ tv.tvNsec + 1000000000 := by omega
    rw [fixupTimespec_of_neg hneg, fixupTimespec_of_nonneg hnonneg]
  · rw [fixupTimespec_of_nonneg (by omega)]

end Arping
