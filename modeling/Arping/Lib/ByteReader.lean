import Mathlib.Control.Basic
import Mathlib.Data.List.Basic
import Mathlib.Tactic.Common

/-!
# Programs that read a buffer

A `ByteReader β α` is a decision tree: it either ends with a value of type `α`, or names an
offset, receives the cell of type `β` stored there and goes on. `run` executes it on a memory,
`reads` lists the offsets it asked for, in order. Since the tree branches on what it has read,
the offsets depend on the memory; `run_congr` says that the value depends on nothing but the cells
at those offsets, and `Within` that all of them lie below a bound.
-/

universe u

/-- A program that reads cells of type `β` and ends with a value of type `α`. -/
inductive ByteReader (β : Type u) (α : Type u)
  | done (a : α)
  | read (i : ℕ) (k : β → ByteReader β α)

namespace ByteReader

variable {α β γ : Type u}

/-- Sequential composition. -/
def bind : ByteReader β α → (α → ByteReader β γ) → ByteReader β γ
  | done a, f => f a
  | read i k, f => read i fun b => bind (k b) f

instance : Monad (ByteReader β) where
  pure := done
  bind := bind

/-- Read the cell at offset `i`. -/
def get (i : ℕ) : ByteReader β β := read i done

/-- Read the `n` cells from offset `i` on. -/
def slice (i : ℕ) : (n : ℕ) → ByteReader β (Vector β n)
  | 0 => pure #v[]
  | n + 1 => do
    let v ← slice i n
    let b ← get (i + n)
    return v.push b

/-- The value a program ends with on the memory `m`. -/
def run (m : ℕ → β) : ByteReader β α → α
  | done a => a
  | read i k => run m (k (m i))

/-- The offsets a program reads on the memory `m`, in order. -/
def reads (m : ℕ → β) : ByteReader β α → List ℕ
  | done _ => []
  | read i k => i :: reads m (k (m i))

/-! ## Execution -/

@[simp] theorem run_pure (m : ℕ → β) (a : α) : run m (pure a) = a := rfl

@[simp] theorem reads_pure (m : ℕ → β) (a : α) : reads m (pure a) = [] := rfl

@[simp] theorem run_bind (m : ℕ → β) (p : ByteReader β α) (f : α → ByteReader β γ) :
    run m (p >>= f) = run m (f (run m p)) := by
  induction p with
  | done a => rfl
  | read i k ih => exact ih (m i)

@[simp] theorem reads_bind (m : ℕ → β) (p : ByteReader β α) (f : α → ByteReader β γ) :
    reads m (p >>= f) = reads m p ++ reads m (f (run m p)) := by
  induction p with
  | done a => rfl
  | read i k ih => exact congrArg (i :: ·) (ih (m i))

@[simp] theorem run_get (m : ℕ → β) (i : ℕ) : run m (get i) = m i := rfl

@[simp] theorem reads_get (m : ℕ → β) (i : ℕ) : reads m (get i : ByteReader β β) = [i] := rfl

theorem run_get_bind (m : ℕ → β) (i : ℕ) (f : β → ByteReader β γ) :
    run m (get i >>= f) = run m (f (m i)) := rfl

@[simp] theorem run_ite (m : ℕ → β) (c : Prop) [Decidable c] (p q : ByteReader β α) :
    run m (if c then p else q) = if c then run m p else run m q := by
  split <;> rfl

@[simp] theorem run_slice (m : ℕ → β) (i n : ℕ) :
    run m (slice i n) = Vector.ofFn fun j : Fin n => m (i + j) := by
  induction n with
  | zero => rfl
  | succ n ih =>
    rw [slice, run_bind, run_bind, ih, Vector.ofFn_succ]
    rfl

@[simp] theorem mem_reads_slice (m : ℕ → β) (i n x : ℕ) :
    x ∈ reads m (slice i n : ByteReader β (Vector β n)) ↔ i ≤ x ∧ x < i + n := by
  induction n with
  | zero =>
    rw [slice, reads_pure]
    simp only [List.not_mem_nil, false_iff]
    omega
  | succ n ih =>
    rw [slice, reads_bind, reads_bind, reads_get, reads_pure]
    simp only [List.mem_append, ih, List.mem_cons, List.not_mem_nil, or_false]
    omega

/-! ## Locality -/

/-- Two memories that agree on the cells a program reads give the same value. -/
theorem run_congr {m m' : ℕ → β} {p : ByteReader β α} (h : ∀ i ∈ reads m p, m i = m' i) :
    run m p = run m' p := by
  induction p with
  | done a => rfl
  | read i k ih =>
    have hi : m i = m' i := h i List.mem_cons_self
    rw [run, run, ← hi]
    exact ih (m i) fun j hj => h j (List.mem_cons_of_mem i hj)

/-! ## Bounds -/

/-- Every cell the program reads lies below `n`. -/
def Within (m : ℕ → β) (n : ℕ) (p : ByteReader β α) : Prop := ∀ i ∈ reads m p, i < n

@[simp] theorem within_pure (m : ℕ → β) (n : ℕ) (a : α) : Within m n (pure a) := by
  simp [Within]

@[simp] theorem within_get (m : ℕ → β) (n i : ℕ) : Within m n (get i) ↔ i < n := by
  simp [Within]

@[simp] theorem within_bind (m : ℕ → β) (n : ℕ) (p : ByteReader β α) (f : α → ByteReader β γ) :
    Within m n (p >>= f) ↔ Within m n p ∧ Within m n (f (run m p)) := by
  simp only [Within, reads_bind, List.mem_append, or_imp, forall_and]

theorem within_get_bind (m : ℕ → β) (n i : ℕ) (f : β → ByteReader β γ) :
    Within m n (get i >>= f) ↔ i < n ∧ Within m n (f (m i)) := by
  rw [within_bind, within_get, run_get]

theorem within_ite (m : ℕ → β) (n : ℕ) (c : Prop) [Decidable c] (p q : ByteReader β α) :
    Within m n (if c then p else q) ↔ if c then Within m n p else Within m n q := by
  split <;> rfl

/-- A non-empty slice stays below `n` exactly when its last cell does. -/
@[simp] theorem within_slice (m : ℕ → β) (n i k : ℕ) :
    Within m n (slice i (k + 1) : ByteReader β (Vector β (k + 1))) ↔ i + k < n := by
  simp only [Within, mem_reads_slice]
  constructor
  · intro h
    exact h (i + k) ⟨Nat.le_add_right i k, by omega⟩
  · intro h x hx
    omega

end ByteReader
