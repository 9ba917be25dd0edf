import Arping.StdDev

/-!
# The domain of `sqrt`

`sqrt` terminates for every argument (`sqrtLoop` is defined by recursion on the interval). It
returns an assigned value without leaving the range of `int` exactly on 0 and from 1 up to below
`INT_MAX`, and the value is the integer part of the root (`sqrt_domain`).
-/

namespace Arping

variable {x : ℚ}

/-- Below 0 the loop never runs either. -/
theorem sqrt_of_neg (hx : x < 0) : sqrt x = .unassigned ∨ sqrt x = .outOfRange := by
  have htrunc : truncate x ≤ 0 := by
    rw [truncate, if_pos hx]
    exact Int.ceil_le.mpr (by exact_mod_cast hx.le)
  unfold sqrt
  rw [if_neg (by rintro (h | h) <;> linarith)]
  by_cases hin : InInt (truncate x)
  · left
    rw [if_neg (not_not.mpr hin), sqrtLoop.eq_def, if_neg (by omega)]
  · right
    rw [if_pos hin]

/-- The values of `start` and `end` at the head of the loop of `sqrt`. -/
inductive SqrtReaches (x : ℚ) : ℤ → ℤ → Prop
  | start : SqrtReaches x 1 (truncate x)
  | right {start stop : ℤ} (h : SqrtReaches x start stop) (hle : start ≤ stop)
      (hlt : (((start + stop).tdiv 2 : ℤ) : ℚ) * ((start + stop).tdiv 2 : ℤ) < x) :
      SqrtReaches x ((start + stop).tdiv 2 + 1) stop
  | left {start stop : ℤ} (h : SqrtReaches x start stop) (hle : start ≤ stop)
      (hgt : x < (((start + stop).tdiv 2 : ℤ) : ℚ) * ((start + stop).tdiv 2 : ℤ)) :
      SqrtReaches x start ((start + stop).tdiv 2 - 1)

theorem SqrtReaches.encloses {start stop : ℤ} (hnonneg : 0 ≤ x) (hx : x < intMax)
    (h : SqrtReaches x start stop) : ∃ ans, Encloses x start stop ans := by
  induction h with
  | start => exact ⟨none, encloses_start hnonneg hx⟩
  | right _ hle hlt ih =>
    obtain ⟨ans, hans⟩ := ih
    exact ⟨_, hans.right hx hle hlt⟩
  | left _ hle hgt ih =>
    obtain ⟨ans, hans⟩ := ih
    exact ⟨ans, hans.left hle hgt⟩

/-- A pass of the loop computes `start + end`, `mid + 1` or `mid - 1`, all of them an `int`. -/
theorem Encloses.pass_inInt {start stop : ℤ} {ans : Option ℚ} (h : Encloses x start stop ans)
    (hle : start ≤ stop) : InInt (start + stop) ∧ InInt ((start + stop).tdiv 2 + 1) ∧
      InInt ((start + stop).tdiv 2 - 1) := by
  obtain ⟨hmid, hmid'⟩ := mid_bounds hle
  have hpos := h.pos
  have hstop : stop < intMax := by
    obtain ⟨-, hlt⟩ | hsmall := h.small
    · exact hlt
    · exact hsmall.trans_lt (by decide)
  refine ⟨h.inInt, ?_, ?_⟩ <;> unfold InInt intMin <;> unfold intMax at hstop ⊢ <;> omega

theorem sqrt_value_iff (x : ℚ) :
    (∃ r, sqrt x = .value r) ↔ x = 0 ∨ 1 ≤ x ∧ x < intMax := by
  constructor
  · rintro ⟨r, hr⟩
    by_contra hnot
    rw [not_or] at hnot
    obtain hneg | hnonneg := lt_or_ge x 0
    · obtain h | h := sqrt_of_neg hneg <;> rw [h] at hr <;> cases hr
    · obtain hlt | hone := lt_or_ge x 1
      · rw [sqrt_of_lt_one (lt_of_le_of_ne hnonneg (Ne.symm hnot.1)) hlt] at hr
        cases hr
      · rw [sqrt_of_intMax_le (not_lt.mp fun hx => hnot.2 ⟨hone, hx⟩)] at hr
        cases hr
  · rintro (rfl | ⟨hone, hx⟩)
    · exact ⟨0, sqrt_zero⟩
    · obtain ⟨n, hn, -⟩ := sqrt_of_one_le hone hx
      exact ⟨n, hn⟩

/-- **The domain of `sqrt`**: where it returns an assigned value, what the value is, and that no
pass of its loop leaves the range of `int` there. -/
theorem sqrt_domain (x : ℚ) :
    ((∃ r, sqrt x = .value r) ↔ x = 0 ∨ 1 ≤ x ∧ x < intMax) ∧
    (x = 0 ∨ 1 ≤ x ∧ x < intMax →
      (∃ n : ℕ, sqrt x = .value n ∧ (n : ℚ) * n ≤ x ∧ x < (n + 1) * (n + 1)) ∧
      ∀ start stop, SqrtReaches x start stop → start ≤ stop →
        InInt (start + stop) ∧ InInt ((start + stop).tdiv 2 + 1) ∧
          InInt ((start + stop).tdiv 2 - 1)) := by
  refine ⟨sqrt_value_iff x, fun h => ⟨?_, fun start stop hreach hle => ?_⟩⟩
  · obtain rfl | ⟨hone, hx⟩ := h
    · exact ⟨0, sqrt_zero, by norm_num, by norm_num⟩
    · exact sqrt_of_one_le hone hx
  · have hrange : 0 ≤ x ∧ x < intMax := by
      obtain rfl | ⟨hone, hx⟩ := h
      · exact ⟨le_refl 0, by norm_num [intMax]⟩
      · exact ⟨zero_le_one.trans hone, hx⟩
    obtain ⟨ans, hans⟩ := hreach.encloses hrange.1 hrange.2
    exact hans.pass_inInt hle

theorem sqrt_domain_two :
    ∃ n : ℕ, sqrt 2 = .value n ∧ (n : ℚ) * n ≤ 2 ∧ 2 < (n + 1 : ℚ) * (n + 1) :=
  ((sqrt_domain 2).2 (Or.inr ⟨by norm_num, by norm_num [intMax]⟩)).1

end Arping
