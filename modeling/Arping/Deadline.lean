import Mathlib.Tactic.Positivity
import Arping.MainLoop
import Arping.Replies

/-!
# The deadline

`wait_time` is to cut the wait so that it ends by the deadline. Its test compares the time
remaining with `packetwait / 1000000`, a division of integers, so a wait that is not a whole
number of seconds is handed out uncut while the time remaining lies between the two
(`waitTime_meetsDeadline_iff`).
-/

namespace Arping

/-- The wait that a deadline leaves, in microseconds. -/
def deadlineWait (deadline : ℚ) (packetwait : UInt32) (now : ℚ) : ℕ :=
  min packetwait.toNat ⌊1000000 * max 0 (deadline - now)⌋₊

/-- The wait `w` that begins at `now` is the one the deadline leaves: it ends by the deadline, and
is shorter than `packetwait` only if the deadline forces it. -/
structure MeetsDeadline (deadline : ℚ) (packetwait : UInt32) (now : ℚ) (w : UInt32) : Prop where
  value : w.toNat = deadlineWait deadline packetwait now
  ends : w ≠ 0 → now + (w.toNat : ℚ) / 1000000 ≤ deadline
  full : w < packetwait → deadline < now + (packetwait.toNat : ℚ) / 1000000

/-- The time remaining is more than the whole seconds of `packetwait`, but not all of it. -/
def InLastSecond (packetwait : UInt32) (remaining : ℚ) : Prop :=
  ((packetwait.toNat / 1000000 : ℕ) : ℚ) < remaining ∧ 1000000 * remaining < packetwait.toNat

theorem toUint32_toNat {x : ℚ} {n : UInt32} (h : ⌊x⌋₊ ≤ n.toNat) : (toUint32 x).toNat = ⌊x⌋₊ := by
  have hlt : ⌊x⌋₊ < 2 ^ 32 := lt_of_le_of_lt h n.toNat_lt
  unfold toUint32
  rw [Int.floor_toNat, UInt32.toNat_ofNat_of_lt' hlt]

/-- The whole seconds of the wait, in microseconds, are at most the wait. -/
theorem whole_seconds_le (packetwait : UInt32) :
    1000000 * ((packetwait.toNat / 1000000 : ℕ) : ℚ) ≤ packetwait.toNat := by
  exact_mod_cast Nat.mul_div_le packetwait.toNat 1000000

section Branches

variable {deadline now : ℚ} {packetwait : UInt32}

/-- Past the deadline nothing is left. -/
theorem meetsDeadline_zero (h : deadline - now < 0) : MeetsDeadline deadline packetwait now 0 := by
  have hpos : (0 : ℚ) ≤ (packetwait.toNat : ℚ) / 1000000 := by positivity
  constructor
  · rw [deadlineWait, max_eq_left h.le, mul_zero, Nat.floor_zero, Nat.min_zero]
    rfl
  · intro hw
    exact absurd rfl hw
  · intro _
    linarith

/-- A wait for which there is time is handed out uncut. -/
theorem meetsDeadline_packetwait_iff (h : 0 ≤ deadline - now) :
    MeetsDeadline deadline packetwait now packetwait ↔
      (packetwait.toNat : ℚ) ≤ 1000000 * (deadline - now) := by
  constructor
  · intro hmeets
    have hvalue := hmeets.value
    rw [deadlineWait, max_eq_right h] at hvalue
    have hle : packetwait.toNat ≤ ⌊1000000 * (deadline - now)⌋₊ := by omega
    exact (Nat.le_floor_iff (by positivity)).mp hle
  · intro hle
    constructor
    · rw [deadlineWait, max_eq_right h, Nat.min_eq_left (Nat.le_floor hle)]
    · intro _
      linarith
    · intro hw
      exact absurd hw (UInt32.lt_irrefl packetwait)

/-- Within its whole seconds the wait is cut to the time remaining. -/
theorem meetsDeadline_toUint32 (h : 0 ≤ deadline - now)
    (hle : deadline - now ≤ (packetwait.toNat / 1000000 : ℕ)) :
    MeetsDeadline deadline packetwait now (toUint32 ((deadline - now) * 1000000)) := by
  have hsec := whole_seconds_le packetwait
  have hfloor : ⌊(deadline - now) * 1000000⌋₊ ≤ packetwait.toNat :=
    Nat.floor_le_of_le (by linarith)
  have hvalue := toUint32_toNat hfloor
  constructor
  · rw [hvalue, deadlineWait, max_eq_right h, mul_comm, Nat.min_eq_right]
    rwa [mul_comm]
  · intro _
    have hfl := Nat.floor_le (show 0 ≤ (deadline - now) * 1000000 by linarith)
    rw [hvalue]
    linarith
  · intro hw
    have hlt : ⌊(deadline - now) * 1000000⌋₊ < packetwait.toNat := by
      rw [← hvalue]
      exact UInt32.lt_iff_toNat_lt.mp hw
    have hcut := (Nat.floor_lt (show 0 ≤ (deadline - now) * 1000000 by linarith)).mp hlt
    linarith

end Branches

/-- **The deadline.** `wait_time` returns the wait that the deadline leaves exactly when the time
remaining is not in the last, incomplete second of `packetwait`. -/
theorem waitTime_meetsDeadline_iff {deadline : ℚ} (hdeadline : 0 ≤ deadline)
    (packetwait : UInt32) (clk : ClockCall) (g : State) :
    MeetsDeadline deadline packetwait (timespec2dbl clk.timespec)
        (waitTime deadline packetwait clk g).1 ↔
      ¬ InLastSecond packetwait (deadline - timespec2dbl clk.timespec) := by
  have hnonneg : (0 : ℚ) ≤ (packetwait.toNat / 1000000 : ℕ) := by positivity
  unfold waitTime InLastSecond getclock
  dsimp only
  rw [if_neg (not_lt.mpr hdeadline), packetwait_sec]
  split_ifs with hneg hlong
  · exact iff_of_true (meetsDeadline_zero hneg) fun h => by linarith [h.1]
  · rw [meetsDeadline_packetwait_iff (not_lt.mp hneg), not_and, not_lt]
    exact ⟨fun h _ => h, fun h => h hlong⟩
  · exact iff_of_true (meetsDeadline_toUint32 (not_lt.mp hneg) (not_lt.mp hlong))
      fun h => hlong h.1

/-- With a deadline at 6 s and `-W 1`, at 5 s. -/
theorem waitTime_meetsDeadline_iff_whole :
    MeetsDeadline 6 1000000 (timespec2dbl (readingAt 5).timespec)
        (waitTime 6 1000000 (readingAt 5) State.init).1 ↔
      ¬ InLastSecond 1000000 (6 - timespec2dbl (readingAt 5).timespec) :=
  waitTime_meetsDeadline_iff (by norm_num) 1000000 (readingAt 5) State.init

/-- With `-W 1.5` and 1.2 s remaining, the wait is 1.5 s all the same. -/
theorem waitTime_overruns_deadline :
    (waitTime (31 / 5) 1500000 (readingAt 5) State.init).1 = 1500000 ∧
      ¬ MeetsDeadline (31 / 5) 1500000 (timespec2dbl (readingAt 5).timespec) 1500000 := by
  have hnow : timespec2dbl (readingAt 5).timespec = 5 := by
    norm_num [timespec2dbl, readingAt, ClockCall.timespec, ClockCall.timeval]
  refine ⟨by decide +kernel, fun h => ?_⟩
  rw [hnow, meetsDeadline_packetwait_iff (by norm_num),
    show (1500000 : UInt32).toNat = 1500000 from rfl] at h
  norm_num at h

end Arping
