import Mathlib.Data.List.Basic
import Mathlib.Logic.Relation
import Mathlib.Tactic.Common

/-!
# Loops driven by a script

A loop whose passes each depend on one answer of the environment is run on a finite script of
answers: `drive step as s` consumes the script `as` from the state `s` until a pass leaves the
loop (`.stop`) or the script is used up while the loop still goes on (`.next`). Every finite
stretch of an infinite run is `drive` on some script, so what holds of `drive` for all scripts
holds in every reachable state.

`Visits step as s a t` says that the pass on the answer `a` really takes place, and that it
starts in the state `t`.
-/

universe u v w x

/-- How a pass ends: the loop goes on, or is left for a reason of type `ε`. -/
inductive Ctl (ε : Type u) (σ : Type v)
  | next (s : σ)
  | stop (e : ε) (s : σ)

namespace Ctl

variable {ε : Type u} {σ : Type v}

/-- The state a pass leaves behind, however it ended. -/
@[simp] def state : Ctl ε σ → σ
  | next s => s
  | stop _ s => s

/-- Why the loop is left, if it is. -/
def reason : Ctl ε σ → Option ε
  | next _ => none
  | stop e _ => some e

/-- `J` where the loop goes on, `Q` where it is left. -/
def Ensures (J : σ → Prop) (Q : ε → σ → Prop) : Ctl ε σ → Prop
  | next s => J s
  | stop e s => Q e s

theorem Ensures.state {J : σ → Prop} {Q : ε → σ → Prop} {I : σ → Prop} {c : Ctl ε σ}
    (h : c.Ensures J Q) (hJ : ∀ s, J s → I s) (hQ : ∀ e s, Q e s → I s) : I c.state := by
  cases c with
  | next s => exact hJ s h
  | stop e s => exact hQ e s h

theorem Ensures.imp {J J' : σ → Prop} {Q Q' : ε → σ → Prop} {c : Ctl ε σ} (h : c.Ensures J Q)
    (hJ : ∀ s, J s → J' s) (hQ : ∀ e s, Q e s → Q' e s) : c.Ensures J' Q' := by
  cases c with
  | next s => exact hJ s h
  | stop e s => exact hQ e s h

theorem ensures_of_state {I : σ → Prop} {c : Ctl ε σ} (h : I c.state) :
    c.Ensures I fun _ => I := by
  cases c <;> exact h

theorem reason_eq_some_iff {c : Ctl ε σ} {e : ε} : c.reason = some e ↔ c = .stop e c.state := by
  cases c <;> simp [reason]

end Ctl

namespace ScriptLoop

variable {α : Type w} {β : Type x} {ε : Type u} {σ : Type v} {step : α → σ → Ctl ε σ}

/-- Run the loop on a script. -/
def drive (step : α → σ → Ctl ε σ) : List α → σ → Ctl ε σ
  | [], s => .next s
  | a :: as, s =>
    match step a s with
    | .next s' => drive step as s'
    | .stop e s' => .stop e s'

@[simp] theorem drive_nil (s : σ) : drive step [] s = .next s := rfl

theorem drive_cons_next {a : α} {as : List α} {s s' : σ} (h : step a s = .next s') :
    drive step (a :: as) s = drive step as s' := by
  rw [drive, h]

theorem drive_cons_stop {a : α} {as : List α} {s s' : σ} {e : ε} (h : step a s = .stop e s') :
    drive step (a :: as) s = .stop e s' := by
  rw [drive, h]

/-- A loop that goes on after two scripts went on after the first. -/
theorem drive_append_eq_next_iff {as bs : List α} {s s' : σ} :
    drive step (as ++ bs) s = .next s' ↔
      ∃ t, drive step as s = .next t ∧ drive step bs t = .next s' := by
  induction as generalizing s with
  | nil => simp
  | cons a as ih =>
    rw [List.cons_append]
    cases h : step a s with
    | next s₁ => rw [drive_cons_next h, drive_cons_next h, ih]
    | stop e s₁ =>
      rw [drive_cons_stop h, drive_cons_stop h]
      simp

/-! ## Visited passes -/

/-- The pass on the answer `a` takes place and starts in the state `t`. -/
def Visits (step : α → σ → Ctl ε σ) (as : List α) (s : σ) (a : α) (t : σ) : Prop :=
  ∃ l r, as = l ++ a :: r ∧ drive step l s = .next t

theorem not_visits_nil {s t : σ} {a : α} : ¬ Visits step [] s a t := by
  rintro ⟨l, r, h, -⟩
  simp at h

theorem visits_cons {as : List α} {s t : σ} {a b : α} :
    Visits step (a :: as) s b t ↔
      (b = a ∧ t = s) ∨ ∃ s', step a s = .next s' ∧ Visits step as s' b t := by
  constructor
  · rintro ⟨l, r, heq, hl⟩
    obtain ⟨rfl, heq⟩ | ⟨l, rfl, rfl⟩ := List.cons_eq_append_iff.mp heq
    · obtain ⟨rfl, -⟩ := List.cons.inj heq
      simp only [drive_nil, Ctl.next.injEq] at hl
      exact Or.inl ⟨rfl, hl.symm⟩
    · cases h : step a s with
      | next s' =>
        rw [drive_cons_next h] at hl
        exact Or.inr ⟨s', rfl, l, r, rfl, hl⟩
      | stop e s' =>
        rw [drive_cons_stop h] at hl
        cases hl
  · rintro (⟨rfl, rfl⟩ | ⟨s', h, l, r, rfl, hl⟩)
    · exact ⟨[], as, rfl, rfl⟩
    · exact ⟨a :: l, r, rfl, by rw [drive_cons_next h, hl]⟩

theorem Visits.mem {as : List α} {s t : σ} {a : α} (h : Visits step as s a t) : a ∈ as := by
  obtain ⟨l, r, rfl, -⟩ := h
  simp

/-- The first pass is visited in the initial state. -/
theorem visits_head (a : α) (as : List α) (s : σ) : Visits step (a :: as) s a s :=
  visits_cons.mpr (Or.inl ⟨rfl, rfl⟩)

/-- A loop that is left is left by one of the passes it visits. -/
theorem exists_visits_of_stop {as : List α} {s s' : σ} {e : ε}
    (h : drive step as s = .stop e s') : ∃ a t, Visits step as s a t ∧ step a t = .stop e s' := by
  induction as generalizing s with
  | nil => cases h
  | cons a as ih =>
    cases hs : step a s with
    | next s₁ =>
      rw [drive_cons_next hs] at h
      obtain ⟨b, t, hb, ht⟩ := ih h
      exact ⟨b, t, visits_cons.mpr (Or.inr ⟨s₁, hs, hb⟩), ht⟩
    | stop e₁ s₁ =>
      rw [drive_cons_stop hs] at h
      cases h
      exact ⟨a, s, visits_head a as s, hs⟩

/-! ## Where a loop ends -/

/-- A loop is left by the answer on which every pass leaves it, if not before. -/
theorem drive_stops_of_mem {as : List α} {a : α} (ha : a ∈ as)
    (hstep : ∀ s, ∃ e s', step a s = .stop e s') (s : σ) :
    ∃ e s', drive step as s = .stop e s' := by
  induction as generalizing s with
  | nil => cases ha
  | cons b as ih =>
    cases hs : step b s with
    | stop e s' => exact ⟨e, s', drive_cons_stop hs⟩
    | next s' =>
      rw [drive_cons_next hs]
      rcases List.mem_cons.mp ha with rfl | ha
      · obtain ⟨e, t, ht⟩ := hstep s
        rw [hs] at ht
        cases ht
      · exact ih ha s'

/-- A loop whose passes use up a measure is left within as many answers. -/
theorem drive_stops_of_measure {I : σ → Prop} (m : σ → ℕ) (hpos : ∀ s, I s → 0 < m s)
    (hstep : ∀ a s s', I s → step a s = .next s' → I s' ∧ m s' < m s) {as : List α} {s : σ}
    (hs : I s) (hlen : m s ≤ as.length) : ∃ e s', drive step as s = .stop e s' := by
  induction as generalizing s with
  | nil => exact absurd (hpos s hs) (by simpa using hlen)
  | cons a as ih =>
    cases h : step a s with
    | stop e s' => exact ⟨e, s', drive_cons_stop h⟩
    | next s' =>
      obtain ⟨hs', hlt⟩ := hstep a s s' hs h
      rw [drive_cons_next h]
      rw [List.length_cons] at hlen
      exact ih hs' (by omega)

/-! ## What the passes yield -/

/-- What the visited passes yield, in order, if the pass on `a` from `s` yields `f a s`. -/
def gather (f : α → σ → List β) (step : α → σ → Ctl ε σ) : List α → σ → List β
  | [], _ => []
  | a :: as, s =>
    f a s ++ match step a s with
      | .next s' => gather f step as s'
      | .stop _ _ => []

theorem gather_cons_next {f : α → σ → List β} {a : α} {as : List α} {s s' : σ}
    (h : step a s = .next s') : gather f step (a :: as) s = f a s ++ gather f step as s' := by
  rw [gather, h]

theorem gather_cons_stop {f : α → σ → List β} {a : α} {as : List α} {s s' : σ} {e : ε}
    (h : step a s = .stop e s') : gather f step (a :: as) s = f a s := by
  rw [gather, h, List.append_nil]

theorem gather_append {f : α → σ → List β} {as bs : List α} {s t : σ}
    (h : drive step as s = .next t) :
    gather f step (as ++ bs) s = gather f step as s ++ gather f step bs t := by
  induction as generalizing s with
  | nil =>
    obtain rfl := Ctl.next.inj h
    rfl
  | cons a as ih =>
    cases hs : step a s with
    | next s' =>
      rw [drive_cons_next hs] at h
      rw [List.cons_append, gather_cons_next hs, gather_cons_next hs, ih h, List.append_assoc]
    | stop e s' =>
      rw [drive_cons_stop hs] at h
      cases h

/-- What a pass yields comes first in what is yielded from it on. -/
theorem prefix_gather (f : α → σ → List β) (a : α) (as : List α) (s : σ) :
    f a s <+: gather f step (a :: as) s := List.prefix_append _ _

theorem Visits.infix_gather {as : List α} {s t : σ} {a : α} (h : Visits step as s a t)
    (f : α → σ → List β) : f a t <:+: gather f step as s := by
  obtain ⟨l, r, rfl, hl⟩ := h
  rw [gather_append hl]
  exact (prefix_gather f a r t).isInfix.trans (List.suffix_append _ _).isInfix

/-! ## Consecutive passes -/

/-- The passes on `a` and `b` take place one after the other, and start in `t` and `t'`. -/
def Follows (step : α → σ → Ctl ε σ) (as : List α) (s : σ) (a : α) (t : σ) (b : α) (t' : σ) :
    Prop :=
  ∃ l r, as = l ++ a :: b :: r ∧ drive step l s = .next t ∧ step a t = .next t'

theorem Follows.cons {as : List α} {s s' t t' : σ} {a b c : α}
    (h : Follows step as s' b t c t') (hs : step a s = .next s') :
    Follows step (a :: as) s b t c t' := by
  obtain ⟨l, r, rfl, hl, hb⟩ := h
  exact ⟨a :: l, r, rfl, by rw [drive_cons_next hs, hl], hb⟩

/-- What they yield stands side by side. -/
theorem Follows.infix_gather {as : List α} {s t t' : σ} {a b : α} (h : Follows step as s a t b t')
    (f : α → σ → List β) : f a t ++ f b t' <:+: gather f step as s := by
  obtain ⟨l, r, rfl, hl, ha⟩ := h
  rw [gather_append hl, gather_cons_next ha]
  exact ((List.prefix_append_right_inj _).mpr (prefix_gather f b r t')).isInfix.trans
    (List.suffix_append _ _).isInfix

/-- Passes that yield one element each yield a chain of what consecutive passes are related by. -/
theorem isChain_gather {R : β → β → Prop} {f : α → σ → β} {as : List α} {s : σ}
    (h : ∀ a t b t', Follows step as s a t b t' → R (f a t) (f b t')) :
    (gather (fun a t => [f a t]) step as s).IsChain R := by
  induction as generalizing s with
  | nil => exact .nil
  | cons a as ih =>
    cases hs : step a s with
    | stop e s' =>
      rw [gather_cons_stop hs]
      exact .singleton _
    | next s' =>
      have htail := ih fun b t c t' hbc => h b t c t' (hbc.cons hs)
      rw [gather_cons_next hs]
      cases as with
      | nil => exact .singleton _
      | cons b as =>
        have hhead : R (f a s) (f b s') := h a s b s' ⟨[], as, rfl, rfl, hs⟩
        exact List.isChain_cons_cons.mpr ⟨hhead, htail⟩

/-! ## Invariants -/

/-- The rule of the loop: `J` relates what was yielded to the state as long as the loop goes on,
`Q` where it is left. -/
theorem drive_ensures {J : List β → σ → Prop} {Q : List β → ε → σ → Prop} {f : α → σ → List β}
    {as : List α}
    (hstep : ∀ a ∈ as, ∀ l s, J l s → (step a s).Ensures (J (l ++ f a s)) (Q (l ++ f a s)))
    {l : List β} {s : σ} (hs : J l s) :
    (drive step as s).Ensures (J (l ++ gather f step as s)) (Q (l ++ gather f step as s)) := by
  induction as generalizing l s with
  | nil =>
    rw [gather, List.append_nil]
    exact hs
  | cons a as ih =>
    have ha := hstep a List.mem_cons_self l s hs
    have ih' := fun l' s' => @ih (fun b hb => hstep b (List.mem_cons_of_mem a hb)) l' s'
    cases h : step a s with
    | next s' =>
      rw [drive_cons_next h, gather_cons_next h, ← List.append_assoc]
      rw [h] at ha
      exact ih' _ s' ha
    | stop e s' =>
      rw [drive_cons_stop h, gather_cons_stop h]
      rwa [h] at ha

/-- The same for a relation that does not depend on how a pass ends. -/
theorem drive_gather {J : List β → σ → Prop} {f : α → σ → List β} {as : List α}
    (hstep : ∀ a ∈ as, ∀ l s, J l s → J (l ++ f a s) (step a s).state) {l : List β} {s : σ}
    (hs : J l s) : J (l ++ gather f step as s) (drive step as s).state :=
  (drive_ensures (Q := fun l _ => J l)
    (fun a ha l s h => Ctl.ensures_of_state (hstep a ha l s h)) hs).state
    (fun _ h => h) fun _ _ h => h

/-- An invariant of the single pass is an invariant of the loop. -/
theorem drive_inv {I : σ → Prop} {as : List α} (hstep : ∀ a ∈ as, ∀ s, I s → I (step a s).state)
    {s : σ} (hs : I s) : I (drive step as s).state :=
  drive_gather (J := fun _ : List Unit => I) (f := fun _ _ => []) (l := [])
    (fun a ha _ s hs => hstep a ha s hs) hs

/-- An invariant of the pass that goes on holds at the start of every visited pass. -/
theorem Visits.inv {I : σ → Prop} {as : List α} {s t : σ} {a : α} (h : Visits step as s a t)
    (hstep : ∀ b ∈ as, ∀ s s', I s → step b s = .next s' → I s') (hs : I s) : I t := by
  induction as generalizing s with
  | nil => exact absurd h not_visits_nil
  | cons b as ih =>
    rcases visits_cons.mp h with ⟨-, rfl⟩ | ⟨s', hb, h'⟩
    · exact hs
    · exact ih h' (fun c hc => hstep c (List.mem_cons_of_mem b hc))
        (hstep b List.mem_cons_self s s' hs hb)

end ScriptLoop
