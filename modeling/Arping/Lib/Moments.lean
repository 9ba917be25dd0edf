import Mathlib.Algebra.BigOperators.Group.List.Lemmas
import Mathlib.Algebra.Order.BigOperators.Group.List
import Mathlib.Algebra.Order.Field.Basic
import Mathlib.Data.List.Induction
import Mathlib.Order.Bounds.Basic
import Mathlib.Tactic.FieldSimp
import Mathlib.Tactic.Linarith
import Mathlib.Tactic.Positivity
import Mathlib.Tactic.Ring

/-!
# Moments of a finite sample

The mean and the population variance of a list over an ordered field, and what an accumulator has to
keep for them: the sum and the sum of the squares (`variance_eq`). The mean lies between any bounds
of the sample, and the variance is not negative.
-/

namespace Moments

variable {α : Type*}

/-! ## Extreme values -/

section Order

variable [LinearOrder α] {l : List α} {a m : α}

theorem isLeast_mem_singleton (a : α) : IsLeast {x | x ∈ [a]} a :=
  ⟨List.mem_singleton_self a, fun _ hx => (List.mem_singleton.mp hx).ge⟩

theorem isGreatest_mem_singleton (a : α) : IsGreatest {x | x ∈ [a]} a :=
  ⟨List.mem_singleton_self a, fun _ hx => (List.mem_singleton.mp hx).le⟩

/-- One more value. -/
theorem isLeast_append_singleton (h : IsLeast {x | x ∈ l} m) (a : α) :
    IsLeast {x | x ∈ l ++ [a]} (if a < m then a else m) := by
  obtain ⟨hmem, hle⟩ := h
  split
  · rename_i hlt
    refine ⟨List.mem_append_right l (List.mem_singleton_self a), fun x hx => ?_⟩
    rcases List.mem_append.mp hx with hx | hx
    · exact hlt.le.trans (hle hx)
    · exact (List.mem_singleton.mp hx).ge
  · rename_i hlt
    refine ⟨List.mem_append_left [a] hmem, fun x hx => ?_⟩
    rcases List.mem_append.mp hx with hx | hx
    · exact hle hx
    · exact (not_lt.mp hlt).trans (List.mem_singleton.mp hx).ge

theorem isGreatest_append_singleton (h : IsGreatest {x | x ∈ l} m) (a : α) :
    IsGreatest {x | x ∈ l ++ [a]} (if m < a then a else m) := by
  obtain ⟨hmem, hle⟩ := h
  split
  · rename_i hlt
    refine ⟨List.mem_append_right l (List.mem_singleton_self a), fun x hx => ?_⟩
    rcases List.mem_append.mp hx with hx | hx
    · exact (hle hx).trans hlt.le
    · exact (List.mem_singleton.mp hx).le
  · rename_i hlt
    refine ⟨List.mem_append_left [a] hmem, fun x hx => ?_⟩
    rcases List.mem_append.mp hx with hx | hx
    · exact hle hx
    · exact (List.mem_singleton.mp hx).le.trans (not_lt.mp hlt)

end Order

/-! ## Mean and variance -/

section Field

variable [Field α]

def mean (l : List α) : α := l.sum / l.length

def sumSq (l : List α) : α := (l.map fun x => x * x).sum

/-- The population variance. -/
def variance (l : List α) : α := (l.map fun x => (x - mean l) ^ 2).sum / l.length

@[simp] theorem sumSq_nil : sumSq ([] : List α) = 0 := rfl

@[simp] theorem sumSq_append_singleton (l : List α) (a : α) :
    sumSq (l ++ [a]) = sumSq l + a * a := by
  simp [sumSq]

/-- The squared deviations from any `m`, summed. -/
theorem sum_sq_sub (l : List α) (m : α) :
    (l.map fun x => (x - m) ^ 2).sum = sumSq l - 2 * m * l.sum + l.length * m ^ 2 := by
  induction l with
  | nil => simp
  | cons a l ih =>
    rw [sumSq] at ih ⊢
    rw [List.map_cons, List.sum_cons, ih, List.map_cons, List.sum_cons, List.sum_cons,
      List.length_cons]
    push_cast
    ring

variable [LinearOrder α] [IsStrictOrderedRing α] {l : List α}

theorem length_pos_of_ne_nil (h : l ≠ []) : (0 : α) < l.length := by
  exact_mod_cast List.length_pos_iff.mpr h

/-- The one-pass form. -/
theorem variance_eq (h : l ≠ []) : sumSq l / l.length - mean l * mean l = variance l := by
  have hpos := length_pos_of_ne_nil h
  rw [variance, sum_sq_sub, mean]
  field_simp
  ring

theorem variance_nonneg (l : List α) : 0 ≤ variance l := by
  have hsum : 0 ≤ (l.map fun x => (x - mean l) ^ 2).sum := by
    refine List.sum_nonneg fun y hy => ?_
    obtain ⟨x, -, rfl⟩ := List.mem_map.mp hy
    positivity
  exact div_nonneg hsum (Nat.cast_nonneg _)

theorem le_mean {a : α} (h : l ≠ []) (ha : ∀ x ∈ l, a ≤ x) : a ≤ mean l := by
  have hsum := List.card_nsmul_le_sum l a ha
  rw [nsmul_eq_mul] at hsum
  rw [mean, le_div_iff₀ (length_pos_of_ne_nil h), mul_comm]
  exact hsum

theorem mean_le {a : α} (h : l ≠ []) (ha : ∀ x ∈ l, x ≤ a) : mean l ≤ a := by
  have hsum := List.sum_le_card_nsmul l a ha
  rw [nsmul_eq_mul] at hsum
  rw [mean, div_le_iff₀ (length_pos_of_ne_nil h), mul_comm]
  exact hsum

end Field

end Moments
