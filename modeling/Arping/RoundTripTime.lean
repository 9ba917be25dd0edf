import Mathlib.Algebra.Order.Field.Power
import Mathlib.Data.Rat.Floor
import Mathlib.Tactic.FieldSimp
import Mathlib.Tactic.Positivity
import Arping.Clock

/-!
# Rendering a round-trip time

`ts2str` scales the difference of two times down by thousands and picks a unit by the exponent it
has counted. A pass of its loop keeps `f * 10 ^ exp` (`ts2strLoop_scale`), and each of the six cases
names the unit that belongs to the exponent, so what is printed denotes the difference exactly,
before it is rounded to three decimals (`ts2str_exact`).
-/

namespace Arping

/-! ## The function -/

theorem floor_div_lt {f : ℚ} (h : 1000 < f) : ⌊f / 1000⌋₊ < ⌊f⌋₊ := by
  have hle : (⌊f / 1000⌋₊ : ℚ) ≤ f / 1000 := Nat.floor_le (by linarith)
  refine Nat.lt_of_succ_le (Nat.le_floor ?_)
  push_cast
  linarith

/-- The loop of `ts2str`: `f` and `exp` behind it. -/
def ts2strLoop (f : ℚ) (exp : ℤ) : ℚ × ℤ :=
  if 1000 < f then ts2strLoop (f / 1000) (exp + 3) else (f, exp)
termination_by ⌊f⌋₊
decreasing_by exact floor_div_lt ‹_›

/-- What follows the number in the formats of `ts2str`. -/
inductive TimeUnit
  | nsec
  | usec
  | msec
  | sec
  | expSec (exp : ℤ)
  deriving DecidableEq

/-- The number and the unit that `ts2str` formats; the number is printed with three decimals. -/
structure RenderedTime where
  number : ℚ
  unit : TimeUnit
  deriving DecidableEq

/-- The `switch` of `ts2str`. -/
def render (f : ℚ) (exp : ℤ) : RenderedTime :=
  if exp = 0 then ⟨f, .nsec⟩
  else if exp = 3 then ⟨f, .usec⟩
  else if exp = 6 then ⟨f, .msec⟩
  else if exp = 9 then ⟨f, .sec⟩
  else if exp = 12 then ⟨f * 1000, .sec⟩
  else ⟨f, .expSec (exp - 9)⟩

/-- `f` and `exp` of `ts2str` behind its loop. -/
def ts2strScaled (tv tv2 : Timespec) : ℚ × ℤ :=
  ts2strLoop ((timespec2dbl tv2 - timespec2dbl tv) * 1000000000) 0

/-- `ts2str`. -/
def ts2str (tv tv2 : Timespec) : RenderedTime :=
  render (ts2strScaled tv tv2).1 (ts2strScaled tv tv2).2

/-! ## What is printed -/

/-- A unit in seconds. -/
def TimeUnit.seconds : TimeUnit → ℚ
  | nsec => 1 / 1000000000
  | usec => 1 / 1000000
  | msec => 1 / 1000
  | sec => 1
  | expSec exp => 10 ^ exp

/-- The time that is printed, in seconds. -/
def RenderedTime.seconds (t : RenderedTime) : ℚ := t.number * t.unit.seconds

/-! ## The loop -/

/-- The variables behind the loop: what it keeps, and how it ends. -/
structure Scaled (f : ℚ) (exp : ℤ) (r : ℚ × ℤ) : Prop where
  keeps : r.1 * 10 ^ r.2 = f * 10 ^ exp
  le : r.1 ≤ 1000
  exp_le : exp ≤ r.2
  unchanged : r.2 = exp → r.1 = f
  one_lt : r.2 ≠ exp → 1 < r.1

theorem ts2strLoop_scaled (f : ℚ) (exp : ℤ) : Scaled f exp (ts2strLoop f exp) := by
  induction f, exp using ts2strLoop.induct with
  | case1 f exp hlt ih =>
    rw [ts2strLoop, if_pos hlt]
    have hscale : f / 1000 * (10 : ℚ) ^ (exp + 3) = f * 10 ^ exp := by
      rw [zpow_add₀ (by norm_num)]
      norm_num
      ring
    have hexp := ih.exp_le
    refine ⟨ih.keeps.trans hscale, ih.le, by omega, fun h => by omega, fun _ => ?_⟩
    by_cases hlast : (ts2strLoop (f / 1000) (exp + 3)).2 = exp + 3
    · -- this was the last pass
      rw [ih.unchanged hlast]
      linarith
    · exact ih.one_lt hlast
  | case2 f exp hle =>
    rw [ts2strLoop, if_neg hle]
    exact ⟨rfl, not_lt.mp hle, le_refl exp, fun _ => rfl, fun h => absurd rfl h⟩

/-! ## Main result -/

/-- Each case of the `switch` corrects by nine decimal places. -/
theorem render_seconds (f : ℚ) (exp : ℤ) : (render f exp).seconds = f * 10 ^ (exp - 9) := by
  unfold render RenderedTime.seconds
  split_ifs with h0 h3 h6 h9 h12
  · rw [h0]
    norm_num [TimeUnit.seconds]
  · rw [h3]
    norm_num [TimeUnit.seconds]
  · rw [h6]
    norm_num [TimeUnit.seconds]
  · rw [h9]
    norm_num [TimeUnit.seconds]
  · rw [h12]
    norm_num [TimeUnit.seconds]
  · rfl

/-- What `ts2str` prints denotes the difference of the times, and the number its loop leaves is at
most 1000 and, if the loop ran at all, greater than 1. -/
theorem ts2str_exact (tv tv2 : Timespec) :
    (ts2str tv tv2).seconds = timespec2dbl tv2 - timespec2dbl tv ∧
      (ts2strScaled tv tv2).1 ≤ 1000 ∧
      (1000 < (timespec2dbl tv2 - timespec2dbl tv) * 1000000000 → 1 < (ts2strScaled tv tv2).1) := by
  have hscaled : Scaled ((timespec2dbl tv2 - timespec2dbl tv) * 1000000000) 0
      (ts2strScaled tv tv2) := ts2strLoop_scaled _ 0
  refine ⟨?_, hscaled.le, fun hran => hscaled.one_lt fun hexp => ?_⟩
  · have hkeeps := hscaled.keeps
    rw [ts2str, render_seconds, zpow_sub₀ (by norm_num), ← mul_div_assoc, hkeeps]
    norm_num
  · have hle := hscaled.le
    rw [hscaled.unchanged hexp] at hle
    linarith

end Arping
