import Mathlib.Logic.Function.Basic
import Mathlib.Logic.Relation

/-!
# Components that take turns

Each component `i : ι` has a state and steps of its own. In a `Turn` one of them makes a step to a
state that the situation of all permits. What the components do together is an interleaving of what
each does alone (`Turns.component`). Where a permission, once given, is never withdrawn (`Lasting`),
everybody stays in a state that is permitted (`Turns.permitted`), and a component may go on alone to
whatever is permitted in the end (`turns_of_steps`).
-/

universe u v

namespace Interleaving

open Relation

variable {ι : Type u} [DecidableEq ι] {σ : Type v}

/-- A step of one component to a state that is permitted. -/
def Turn (step : ι → σ → σ → Prop) (permits : (ι → σ) → ι → σ → Prop) (s s' : ι → σ) : Prop :=
  ∃ i x, step i (s i) x ∧ permits s i x ∧ s' = Function.update s i x

abbrev Turns (step : ι → σ → σ → Prop) (permits : (ι → σ) → ι → σ → Prop) :
    (ι → σ) → (ι → σ) → Prop :=
  ReflTransGen (Turn step permits)

/-- No step withdraws a permission. -/
def Lasting (step : ι → σ → σ → Prop) (permits : (ι → σ) → ι → σ → Prop) : Prop :=
  ∀ s i x j y, permits s i x → step j (s j) y → permits (Function.update s j y) i x

variable {step : ι → σ → σ → Prop} {permits : (ι → σ) → ι → σ → Prop} {s s' : ι → σ}

/-- Each component by itself makes steps of its own. -/
theorem Turns.component (h : Turns step permits s s') (i : ι) :
    ReflTransGen (step i) (s i) (s' i) := by
  induction h with
  | refl => exact .refl
  | @tail t t' _ hturn ih =>
    obtain ⟨j, x, hstep, -, rfl⟩ := hturn
    by_cases hij : i = j
    · subst hij
      rw [Function.update_self]
      exact ih.tail hstep
    · rw [Function.update_of_ne hij]
      exact ih

/-- Everybody stays in a state that is permitted. -/
theorem Turns.permitted (hlast : Lasting step permits) (hinit : ∀ i, permits s i (s i))
    (h : Turns step permits s s') (i : ι) : permits s' i (s' i) := by
  induction h generalizing i with
  | refl => exact hinit i
  | @tail t t' _ hturn ih =>
    obtain ⟨j, x, hstep, hx, rfl⟩ := hturn
    by_cases hij : i = j
    · subst hij
      rw [Function.update_self]
      exact hlast t i x i x hx hstep
    · rw [Function.update_of_ne hij]
      exact hlast t i (t i) j x (ih i) hstep

theorem Lasting.steps (hlast : Lasting step permits) {i j : ι} {x y : σ} (hx : permits s i x)
    (h : ReflTransGen (step j) (s j) y) : permits (Function.update s j y) i x := by
  induction h with
  | refl => rwa [Function.update_eq_self]
  | @tail y z _ hstep ih =>
    have hnext := hlast (Function.update s j y) i x j z ih (by rwa [Function.update_self])
    rwa [Function.update_idem] at hnext

/-- A component goes on alone, if the state in which it ends is permitted. -/
theorem turns_of_steps (hlast : Lasting step permits) {i : ι}
    (hprev : ∀ x y, step i x y → permits s i y → permits s i x) {x : σ}
    (h : ReflTransGen (step i) (s i) x) (hx : permits s i x) :
    Turns step permits s (Function.update s i x) := by
  induction h with
  | refl =>
    rw [Function.update_eq_self]
  | @tail y z hsteps hstep ih =>
    refine (ih (hprev y z hstep hx)).tail ⟨i, z, ?_, hlast.steps hx hsteps, ?_⟩
    · rwa [Function.update_self]
    · rw [Function.update_idem]

end Interleaving
