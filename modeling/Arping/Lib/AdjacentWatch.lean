import Mathlib.Data.List.Chain
import Mathlib.Data.List.Induction
import Mathlib.Data.List.Pairwise

/-!
# Watching a stream by its last element

A `Watch` sees one element after another and keeps only the last one and a flag: it compares each
new element with the one before, and raises the flag when the relation `R` does not hold between
the two. After a list `xs` the flag is raised exactly when `xs` is not an `R`-chain
(`watch_broken_iff`). For a transitive relation that is the same as a pair of elements anywhere in
the list, and for equality, two different elements (`watch_eq_broken_iff`).
-/

universe u

/-- The last element seen, and the flag. -/
@[ext] structure Watch (α : Type u) where
  last : Option α
  broken : Bool

namespace Watch

variable {α : Type u} (R : α → α → Prop) [DecidableRel R]

/-- Nothing seen. -/
def empty : Watch α := ⟨none, false⟩

/-- See one more element. -/
def see (x : α) (w : Watch α) : Watch α where
  last := some x
  broken := w.broken || w.last.any fun y => !decide (R y x)

/-- See the elements of a list in order. -/
def watch (xs : List α) : Watch α := xs.foldl (fun w x => see R x w) empty

theorem watch_append_singleton (xs : List α) (x : α) :
    watch R (xs ++ [x]) = see R x (watch R xs) := by
  rw [watch, List.foldl_append]
  rfl

theorem watch_last (xs : List α) : (watch R xs).last = xs.getLast? := by
  induction xs using List.reverseRecOn with
  | nil => rfl
  | append_singleton xs x _ =>
    rw [watch_append_singleton, List.getLast?_append]
    rfl

/-- The flag is raised when two adjacent elements are not related. -/
theorem watch_broken_iff (xs : List α) : (watch R xs).broken = true ↔ ¬ xs.IsChain R := by
  induction xs using List.reverseRecOn with
  | nil => simp [watch, empty]
  | append_singleton xs x ih =>
    rw [watch_append_singleton, List.isChain_append, see, Bool.or_eq_true, ih, watch_last]
    cases xs.getLast? <;> simp [imp_iff_not_or]

/-- For a transitive relation the two need not be adjacent. -/
theorem watch_broken_iff_pairwise [Trans R R R] (xs : List α) :
    (watch R xs).broken = true ↔ ¬ xs.Pairwise R := by
  rw [watch_broken_iff, List.isChain_iff_pairwise]

/-- Watching for a change finds two different elements wherever they are. -/
theorem watch_eq_broken_iff [DecidableEq α] (xs : List α) :
    (watch (· = ·) xs).broken = true ↔ ∃ x ∈ xs, ∃ y ∈ xs, x ≠ y := by
  rw [watch_broken_iff_pairwise]
  constructor
  · intro h
    by_contra hall
    push Not at hall
    exact h (List.pairwise_of_forall_mem_list hall)
  · rintro ⟨x, hx, y, hy, hne⟩ h
    exact hne (h.forall_of_forall (fun _ _ => rfl) hx hy)

end Watch
