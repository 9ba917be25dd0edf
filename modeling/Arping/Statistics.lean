import Arping.Lib.BinaryFloat
import Arping.State

/-!
# The statistics block

What `arping_main` prints behind the ping loop: the loss and, in the normal display, the round-trip
times, with the program's own `sqrt`. The loss is computed from counters cast to `float`, and every
operation is rounded as the source has it (`succ`). The round-trip times are exact rationals here.
What has no value is explicit: a division by zero is `none`, and a call of `sqrt` may return its
local `ans` unassigned or leave the range of `int` (`SqrtResult`).
-/

namespace Arping

/-! ## `sqrt` -/

/-- `INT_MIN` and `INT_MAX`. -/
def intMin : ℤ := -2147483648
def intMax : ℤ := 2147483647

def InInt (n : ℤ) : Prop := intMin ≤ n ∧ n ≤ intMax

instance (n : ℤ) : Decidable (InInt n) := by unfold InInt; infer_instance

/-- Conversion of a `double` to `int`: truncation. -/
def truncate (x : ℚ) : ℤ := if x < 0 then ⌈x⌉ else ⌊x⌋

/-- What a call of `sqrt` comes to: a value, `ans` where nothing was assigned to it, or a
conversion or sum out of the range of `int`. -/
inductive SqrtResult
  | value (r : ℚ)
  | unassigned
  | outOfRange
  deriving DecidableEq

theorem mid_bounds {start stop : ℤ} (h : start ≤ stop) :
    start ≤ (start + stop).tdiv 2 ∧ (start + stop).tdiv 2 ≤ stop := by
  rcases Int.le_total 0 (start + stop) with hpos | hneg
  · rw [Int.tdiv_eq_ediv_of_nonneg hpos]
    omega
  · have hneg' : 0 ≤ -(start + stop) := by omega
    rw [← neg_neg (start + stop), Int.neg_tdiv, Int.tdiv_eq_ediv_of_nonneg hneg']
    omega

/-- The loop of `sqrt`; `stop` is the variable `end`. -/
def sqrtLoop (x : ℚ) (start stop : ℤ) (ans : Option ℚ) : SqrtResult :=
  if start ≤ stop then
    if ¬ InInt (start + stop) then .outOfRange
    else
      let mid := (start + stop).tdiv 2
      if (mid : ℚ) * mid = x then .value mid
      else if (mid : ℚ) * mid < x then sqrtLoop x (mid + 1) stop (some mid)
      else sqrtLoop x start (mid - 1) ans
  else
    match ans with
    | some r => .value r
    | none => .unassigned
termination_by (stop - start + 1).toNat
decreasing_by
  all_goals
    rename_i hle _ _ _
    have := mid_bounds hle
    omega

/-- `sqrt`. -/
def sqrt (x : ℚ) : SqrtResult :=
  if x = 0 ∨ x = 1 then .value x
  else if ¬ InInt (truncate x) then .outOfRange
  else sqrtLoop x 1 (truncate x) none

/-! ## Loss -/

/-- An `unsigned int` printed with `%d`. -/
def asInt (x : UInt32) : ℤ := x.toBitVec.toInt

/-- Conversion to `float`: 24 significant bits. -/
def float (x : ℚ) : ℚ := BinaryFloat.nearest 24 x

/-- The result of an operation on `double`s: 53 significant bits. -/
def double (x : ℚ) : ℚ := BinaryFloat.nearest 53 x

/-- `succ`; `none` for a division by zero. The counters are cast to `float` one by one, the
arithmetic is that of the `double` 100.0, and the `float` variable rounds once more. -/
def succ (numrecvd numsent : UInt32) : Option ℚ :=
  if numsent = 0 then none
  else some (float (double (100 -
    double (double (100 * float numrecvd.toNat) / float numsent.toNat))))

/-- The percentage and the count of extra replies, as printed. -/
structure LossReport where
  percent : ℚ
  extra : ℤ
  deriving DecidableEq

/-- The arguments printed for the loss. -/
def lossReport (numrecvd numsent : UInt32) : Option LossReport :=
  (succ numrecvd numsent).map fun succ =>
    { percent := if succ < 0 then 0 else succ
      extra := asInt (if succ < 0 then numrecvd - numsent else 0) }

/-! ## Round-trip times -/

/-- `stats_total_time / numrecvd` and the argument of `sqrt`. -/
def average (s : Stats) (numrecvd : ℕ) : ℚ := s.totalTime / numrecvd

def sqrtArgument (s : Stats) (numrecvd : ℕ) : ℚ :=
  s.totalSqTime / numrecvd - average s numrecvd * average s numrecvd

/-- The line of round-trip times in milliseconds; the standard deviation is
`1000 * sqrt(...)`. -/
structure RttReport where
  min : ℚ
  avg : ℚ
  max : ℚ
  stdDev : SqrtResult

/-- `1000 * r`. -/
def SqrtResult.millis : SqrtResult → SqrtResult
  | value r => .value (1000 * r)
  | unassigned => .unassigned
  | outOfRange => .outOfRange

def rttReport (s : Stats) (numrecvd : ℕ) : RttReport where
  min := 1000 * s.minTime
  avg := 1000 * average s numrecvd
  max := 1000 * s.maxTime
  stdDev := (sqrt (sqrtArgument s numrecvd)).millis

/-! ## The block -/

/-- What is printed at the end. -/
inductive Report
  | dot (loss : LossReport)
  | normal (target : String) (sent received : ℤ) (loss : LossReport) (rtt : Option RttReport)

def Report.loss : Report → LossReport
  | dot loss => loss
  | normal _ _ _ loss _ => loss

/-- The statistics block: `none` if it divides by zero, `some none` if it prints nothing. -/
def statistics (cfg : Config) (target : String) (g : State) : Option (Option Report) :=
  match cfg.display with
  | .dot => (lossReport g.numrecvd g.numsent).map fun loss => some (.dot loss)
  | .normal => (lossReport g.numrecvd g.numsent).map fun loss =>
      some (.normal target (asInt g.numsent) (asInt g.numrecvd) loss
        (if g.numrecvd ≠ 0 then some (rttReport g.stats g.numrecvd.toNat) else none))
  | _ => some none

end Arping
