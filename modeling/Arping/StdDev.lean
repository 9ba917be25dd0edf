import Mathlib.Analysis.Real.Sqrt
import Arping.RunStatistics

/-!
# The standard deviation

The program brings its own `sqrt`, a binary search for the integer part of the root. On 0 and from
1 up to `INT_MAX` it finds that integer (`sqrt_of_one_le`); between 0 and 1 its loop never runs and
it returns the unassigned `ans` (`sqrt_of_lt_one`). The argument is a variance in square seconds, so
the figure printed is a standard deviation only where that is 0, or a little more than a whole
number of seconds (`stdDev_accurate_iff`).
-/

namespace Arping

open Moments

/-! ## The search -/

/-- The loop variables enclose the root: everything below `start` is too small, everything above
`stop` too large, and `ans` is the last value tried that was too small. -/
structure Encloses (x : ℚ) (start stop : ℤ) (ans : Option ℚ) : Prop where
  pos : 1 ≤ start
  le : start ≤ stop + 1
  below : start ≠ 1 → ((start : ℚ) - 1) * (start - 1) < x
  above : x < ((stop : ℚ) + 1) * (stop + 1)
  ans_eq : ans = if start = 1 then none else some ((start : ℚ) - 1)
  small : start = 1 ∧ stop < intMax ∨ stop ≤ 100000

section Search

variable {x : ℚ} {start stop : ℤ} {ans : Option ℚ}

theorem Encloses.inInt (h : Encloses x start stop ans) : InInt (start + stop) := by
  obtain ⟨hpos, hle, -, -, -, hsmall⟩ := h
  unfold InInt intMin
  unfold intMax at hsmall ⊢
  omega

/-- The middle is too small. -/
theorem Encloses.right (h : Encloses x start stop ans) (hx : x < intMax) (hle : start ≤ stop)
    (hlt : (((start + stop).tdiv 2 : ℤ) : ℚ) * ((start + stop).tdiv 2 : ℤ) < x) :
    Encloses x ((start + stop).tdiv 2 + 1) stop (some ((start + stop).tdiv 2 : ℤ)) := by
  obtain ⟨hmid, hmid'⟩ := mid_bounds hle
  have hpos := h.pos
  have hhalf : start + stop ≤ 2 * (start + stop).tdiv 2 + 1 := by
    rw [Int.tdiv_eq_ediv_of_nonneg (by omega)]
    omega
  generalize (start + stop).tdiv 2 = mid at hmid hmid' hlt hhalf ⊢
  refine ⟨by omega, by omega, fun _ => ?_, h.above, ?_, Or.inr ?_⟩
  · push_cast
    linarith
  · rw [if_neg (by omega)]
    push_cast
    congr 1
    ring
  · rcases h.small with ⟨hone, -⟩ | hsmall
    · -- the square of the middle is below `INT_MAX`
      have hsq : mid * mid < intMax := by exact_mod_cast hlt.trans hx
      have hmid46341 : mid < 46341 := by
        by_contra hge
        rw [intMax] at hsq
        nlinarith
      omega
    · exact hsmall

/-- The middle is too large. -/
theorem Encloses.left (h : Encloses x start stop ans) (hle : start ≤ stop)
    (hgt : x < (((start + stop).tdiv 2 : ℤ) : ℚ) * ((start + stop).tdiv 2 : ℤ)) :
    Encloses x start ((start + stop).tdiv 2 - 1) ans := by
  obtain ⟨hmid, hmid'⟩ := mid_bounds hle
  refine ⟨h.pos, by omega, h.below, ?_, h.ans_eq, ?_⟩
  · push_cast
    linarith
  · rcases h.small with ⟨hone, hmax⟩ | hsmall
    · exact Or.inl ⟨hone, by omega⟩
    · exact Or.inr (by omega)

/-- Over an empty interval the answer is the integer part of the root. -/
theorem Encloses.root_of_lt (h : Encloses x start stop ans) (hlt : ¬ start ≤ stop) (hone : 1 ≤ x) :
    ∃ n : ℕ, ans = some (n : ℚ) ∧ (n : ℚ) * n ≤ x ∧ x < (n + 1) * (n + 1) := by
  obtain ⟨hpos, hle, hbelow, habove, hans, -⟩ := h
  have hstart : start = stop + 1 := by omega
  have hne : start ≠ 1 := by
    -- the loop has moved to the right, or `x` were below 1
    intro h1
    have hstop : stop = 0 := by omega
    rw [hstop] at habove
    norm_num at habove
    linarith
  obtain ⟨n, hn⟩ := Int.eq_ofNat_of_zero_le (show 0 ≤ stop by omega)
  have hroot : (start : ℚ) - 1 = n := by
    rw [hstart, hn]
    push_cast
    ring
  rw [if_neg hne, hroot] at hans
  refine ⟨n, hans, ?_, ?_⟩
  · rw [← hroot]
    exact (hbelow hne).le
  · rw [hn] at habove
    exact habove

/-- The search ends with the integer part of the root. -/
theorem sqrtLoop_of_encloses (h : Encloses x start stop ans) (hone : 1 ≤ x) (hx : x < intMax) :
    ∃ n : ℕ, sqrtLoop x start stop ans = .value n ∧ (n : ℚ) * n ≤ x ∧ x < (n + 1) * (n + 1) := by
  induction start, stop, ans using sqrtLoop.induct x with
  | case1 start stop ans hle hout => exact absurd h.inInt hout
  | case2 start stop ans hle hin mid heq =>
    have hmid : 1 ≤ mid := h.pos.trans (mid_bounds hle).1
    obtain ⟨n, hn⟩ := Int.eq_ofNat_of_zero_le (zero_le_one.trans hmid)
    refine ⟨n, ?_, ?_⟩
    · rw [sqrtLoop.eq_def, if_pos hle, if_neg hin]
      exact (if_pos heq).trans (congrArg (fun m : ℤ => SqrtResult.value m) hn)
    · have hsq : (n : ℚ) * n = x := by
        rw [← heq, hn]
        rfl
      constructor <;> nlinarith
  | case3 start stop ans hle hin mid hne hlt ih =>
    rw [sqrtLoop.eq_def, if_pos hle, if_neg hin]
    dsimp only
    rw [if_neg hne, if_pos hlt]
    exact ih (h.right hx hle hlt)
  | case4 start stop ans hle hin mid hne hlt ih =>
    rw [sqrtLoop.eq_def, if_pos hle, if_neg hin]
    dsimp only
    rw [if_neg hne, if_neg hlt]
    exact ih (h.left hle (lt_of_le_of_ne (not_lt.mp hlt) (Ne.symm hne)))
  | case5 start stop hle r =>
    obtain ⟨n, hans, hroot⟩ := h.root_of_lt hle hone
    refine ⟨n, ?_, hroot⟩
    rw [sqrtLoop.eq_def, if_neg hle, Option.some.inj hans]
  | case6 start stop hle =>
    obtain ⟨n, hans, -⟩ := h.root_of_lt hle hone
    cases hans

end Search

/-! ## `sqrt` -/

section Sqrt

variable {x : ℚ}

theorem truncate_of_nonneg (hx : 0 ≤ x) : truncate x = ⌊x⌋ := if_neg (not_lt.mpr hx)

theorem encloses_start (hnonneg : 0 ≤ x) (hx : x < intMax) : Encloses x 1 (truncate x) none := by
  rw [truncate_of_nonneg hnonneg]
  have hfloor : 0 ≤ ⌊x⌋ := Int.floor_nonneg.mpr hnonneg
  have hmax : ⌊x⌋ < intMax := Int.floor_lt.mpr hx
  refine ⟨le_refl 1, by omega, fun h => absurd rfl h, ?_, rfl, Or.inl ⟨rfl, hmax⟩⟩
  have hlt := Int.lt_floor_add_one x
  have hfloor' : (0 : ℚ) ≤ ⌊x⌋ := by exact_mod_cast hfloor
  nlinarith

theorem sqrt_zero : sqrt 0 = .value 0 := if_pos (Or.inl rfl)

/-- From 1 on it is the integer part of the root. -/
theorem sqrt_of_one_le (hone : 1 ≤ x) (hx : x < intMax) :
    ∃ n : ℕ, sqrt x = .value n ∧ (n : ℚ) * n ≤ x ∧ x < (n + 1) * (n + 1) := by
  by_cases h1 : x = 1
  · refine ⟨1, ?_, ?_, ?_⟩
    · rw [h1]
      exact if_pos (Or.inr rfl)
    · rw [h1]
      norm_num
    · rw [h1]
      norm_num
  · have hnonneg : 0 ≤ x := zero_le_one.trans hone
    have hfloor : 1 ≤ ⌊x⌋ := Int.le_floor.mpr (by exact_mod_cast hone)
    have hmax : ⌊x⌋ < intMax := Int.floor_lt.mpr hx
    have hin : InInt (truncate x) := by
      rw [truncate_of_nonneg hnonneg]
      unfold InInt intMin
      omega
    unfold sqrt
    rw [if_neg (by rintro (h | h); exacts [by linarith, h1 h]), if_neg (not_not.mpr hin)]
    exact sqrtLoop_of_encloses (encloses_start hnonneg hx) hone hx

/-- Below 1 the loop never runs. -/
theorem sqrt_of_lt_one (hpos : 0 < x) (hx : x < 1) : sqrt x = .unassigned := by
  have hfloor : truncate x = 0 := by
    rw [truncate_of_nonneg hpos.le]
    exact Int.floor_eq_zero_iff.mpr ⟨hpos.le, hx⟩
  unfold sqrt
  rw [if_neg (by rintro (h | h) <;> linarith), hfloor, if_neg (by decide), sqrtLoop.eq_def,
    if_neg (by decide)]

/-- From `INT_MAX` on the conversion or the first sum is out of range. -/
theorem sqrt_of_intMax_le (hx : (intMax : ℚ) ≤ x) : sqrt x = .outOfRange := by
  have hlarge : (2 : ℚ) ≤ intMax := by norm_num [intMax]
  have hfloor : intMax ≤ ⌊x⌋ := Int.le_floor.mpr hx
  unfold sqrt
  rw [if_neg (by rintro (h | h) <;> linarith), truncate_of_nonneg (by linarith)]
  by_cases hin : InInt ⌊x⌋
  · have hout : ¬ InInt (1 + ⌊x⌋) := by
      unfold InInt
      omega
    have hle : 1 ≤ ⌊x⌋ := le_trans (by decide) hfloor
    rw [if_neg (not_not.mpr hin), sqrtLoop.eq_def, if_pos hle, if_pos hout]
  · rw [if_pos hin]

end Sqrt

/-! ## The figure printed -/

/-- The standard deviation printed has a value, less than 1 ms from the true one. -/
def AccurateStdDev (samples : List ℚ) : Prop :=
  ∃ millis, (rttReport (feed samples) samples.length).stdDev = .value millis ∧
    |(millis : ℝ) - 1000 * √((variance samples : ℚ) : ℝ)| < 1

theorem millis_eq_value_iff {r : SqrtResult} {m : ℚ} :
    r.millis = .value m ↔ ∃ q, r = .value q ∧ m = 1000 * q := by
  cases r with
  | value q =>
    rw [SqrtResult.millis, SqrtResult.value.injEq]
    constructor
    · intro h
      exact ⟨q, rfl, h.symm⟩
    · rintro ⟨q', hq, hm⟩
      rw [SqrtResult.value.inj hq, hm]
  | unassigned => simp [SqrtResult.millis]
  | outOfRange => simp [SqrtResult.millis]

/-- An integer below the root is accurate if the root is at most a thousandth above it. -/
theorem abs_sub_sqrt_lt_one_iff {v : ℚ} {n : ℕ} (hle : (n : ℚ) * n ≤ v) :
    |((1000 * n : ℚ) : ℝ) - 1000 * √(v : ℝ)| < 1 ↔ v < (n + 1 / 1000) * (n + 1 / 1000) := by
  have hroot : (n : ℝ) ≤ √(v : ℝ) := by
    refine Real.le_sqrt_of_sq_le ?_
    rw [sq]
    exact_mod_cast hle
  have hcast : ((1000 * n : ℚ) : ℝ) = 1000 * n := by push_cast; ring
  rw [hcast, abs_sub_comm, abs_of_nonneg (by linarith)]
  have hlt : √(v : ℝ) < (n : ℝ) + 1 / 1000 ↔ (v : ℝ) < (n + 1 / 1000) ^ 2 :=
    Real.sqrt_lt' (by positivity)
  have hsq : (v : ℝ) < (n + 1 / 1000) ^ 2 ↔ v < (n + 1 / 1000) * (n + 1 / 1000) := by
    have hcast' : (((n + 1 / 1000) * (n + 1 / 1000) : ℚ) : ℝ) =
        (n + 1 / 1000) * (n + 1 / 1000) := by push_cast; ring
    rw [sq, ← hcast', Rat.cast_lt]
  rw [← hsq, ← hlt]
  constructor <;> intro h <;> linarith

/-- **The standard deviation printed.** For every non-empty sequence of non-negative samples, in
terms of their variance: it has to be 0 or in the range of the search, and its root at most a
thousandth above a natural number. -/
theorem stdDev_accurate_iff {samples : List ℚ} (hne : samples ≠ [])
    (hnonneg : ∀ t ∈ samples, 0 ≤ t) :
    AccurateStdDev samples ↔
      (variance samples = 0 ∨ 1 ≤ variance samples ∧ variance samples < intMax) ∧
        ∃ n : ℕ, (n : ℚ) * n ≤ variance samples ∧
          variance samples < (n + 1 / 1000) * (n + 1 / 1000) := by
  have harg := (feed_statsOf hnonneg).sqrtArgument hne
  have hvar := variance_nonneg samples
  unfold AccurateStdDev rttReport
  dsimp only
  rw [harg]
  generalize variance samples = v at hvar
  constructor
  · rintro ⟨millis, hvalue, haccurate⟩
    obtain ⟨r, hr, rfl⟩ := millis_eq_value_iff.mp hvalue
    rcases hvar.eq_or_lt with rfl | hpos
    · exact ⟨Or.inl rfl, 0, by norm_num, by norm_num⟩
    · have hone : 1 ≤ v := by
        by_contra hlt
        rw [sqrt_of_lt_one hpos (not_le.mp hlt)] at hr
        cases hr
      have hmax : v < intMax := by
        by_contra hge
        rw [sqrt_of_intMax_le (not_lt.mp hge)] at hr
        cases hr
      obtain ⟨n, hn, hle, -⟩ := sqrt_of_one_le hone hmax
      obtain rfl := SqrtResult.value.inj (hn.symm.trans hr)
      exact ⟨Or.inr ⟨hone, hmax⟩, n, hle, (abs_sub_sqrt_lt_one_iff hle).mp haccurate⟩
  · rintro ⟨rfl | ⟨hone, hmax⟩, n, hle, hlt⟩
    · exact ⟨0, millis_eq_value_iff.mpr ⟨0, sqrt_zero, by norm_num⟩, by norm_num⟩
    · obtain ⟨n', hn', hle', hlt'⟩ := sqrt_of_one_le hone hmax
      -- both are the integer part of the root
      have hge : n ≤ n' := by
        by_contra h
        have h' : (n' : ℚ) + 1 ≤ n := by exact_mod_cast not_le.mp h
        nlinarith
      have hle'' : n' ≤ n := by
        by_contra h
        have h' : (n : ℚ) + 1 ≤ n' := by exact_mod_cast not_le.mp h
        nlinarith
      obtain rfl := le_antisymm hge hle''
      exact ⟨1000 * n, millis_eq_value_iff.mpr ⟨n, hn', rfl⟩,
        (abs_sub_sqrt_lt_one_iff hle).mpr hlt⟩

/-- Samples of 0 s and 2 s. -/
theorem stdDev_accurate_iff_whole :
    AccurateStdDev [0, 2] ↔
      (variance ([0, 2] : List ℚ) = 0 ∨
          1 ≤ variance ([0, 2] : List ℚ) ∧ variance ([0, 2] : List ℚ) < intMax) ∧
        ∃ n : ℕ, (n : ℚ) * n ≤ variance [0, 2] ∧
          variance [0, 2] < ((n : ℚ) + 1 / 1000) * (n + 1 / 1000) :=
  stdDev_accurate_iff (by decide) (by decide +kernel)

/-- Samples of 1 ms and 3 ms: `sqrt` returns `ans` unassigned. -/
theorem stdDev_unassigned :
    (rttReport (feed [1 / 1000, 3 / 1000]) 2).stdDev = .unassigned ∧
      ¬ AccurateStdDev [1 / 1000, 3 / 1000] := by
  have hunassigned : (rttReport (feed [1 / 1000, 3 / 1000]) 2).stdDev = .unassigned := by
    decide +kernel
  refine ⟨hunassigned, ?_⟩
  rintro ⟨millis, hvalue, -⟩
  cases hunassigned.symm.trans hvalue

end Arping
