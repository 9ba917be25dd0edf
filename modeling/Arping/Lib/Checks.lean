import Mathlib.Data.List.Basic
import Mathlib.Tactic.Common

/-!
# Programs that leave at the first failed check

A program that reads its input in steps and gives up at the first error is a computation in
`Except`. Here are the two ways a check is made (`reject`, `demand`), what a successful computation
says of its parts, and what a fold of steps leaves in a variable of its state: the last value
written to it (`lastWrite`), or whether a flag was set at all.
-/

universe u v w x

namespace Checks

variable {ε : Type u}

/-! ## Checks -/

/-- Leave with `e` under the condition `c`. -/
def reject (c : Prop) [Decidable c] (e : ε) : Except ε Unit := if c then .error e else .ok ()

/-- The value of `o`, or leave with `e`. -/
def demand {α : Type v} (o : Option α) (e : ε) : Except ε α :=
  match o with
  | some a => .ok a
  | none => .error e

section

variable {α β : Type v}

theorem reject_eq_ok_iff {c : Prop} [Decidable c] {e : ε} {r : Unit} :
    reject c e = .ok r ↔ ¬ c := by
  unfold reject
  by_cases hc : c
  · rw [if_pos hc]
    exact iff_of_false (fun h => by cases h) (fun h => h hc)
  · rw [if_neg hc]
    exact iff_of_true rfl hc

theorem reject_of_not {c : Prop} [Decidable c] (h : ¬ c) (e : ε) : reject c e = .ok () :=
  reject_eq_ok_iff.mpr h

theorem demand_eq_ok_iff {o : Option α} {e : ε} {a : α} : demand o e = .ok a ↔ o = some a := by
  cases o with
  | none => exact iff_of_false (fun h => by cases h) (fun h => by cases h)
  | some b =>
    constructor
    · intro h
      cases h
      rfl
    · intro h
      cases h
      rfl

theorem bind_eq_ok_iff {x : Except ε α} {f : α → Except ε β} {b : β} :
    x >>= f = .ok b ↔ ∃ a, x = .ok a ∧ f a = .ok b := by
  cases x with
  | error e =>
    refine iff_of_false (fun h => by cases h) ?_
    rintro ⟨a, ha, -⟩
    cases ha
  | ok a =>
    constructor
    · intro h
      exact ⟨a, rfl, h⟩
    · rintro ⟨a', ha, h⟩
      cases ha
      exact h

theorem ok_bind (a : α) (f : α → Except ε β) : Except.ok a >>= f = f a := rfl

theorem error_bind (e : ε) (f : α → Except ε β) : Except.error e >>= f = .error e := rfl

theorem reject_of {c : Prop} [Decidable c] (h : c) (e : ε) : reject c e = .error e := if_pos h

/-- One step of a successful computation. -/
theorem bind_of_ok {x : Except ε α} {f : α → Except ε β} {a : α} {b : β} (hx : x = .ok a)
    (hf : f a = .ok b) : x >>= f = .ok b :=
  bind_eq_ok_iff.mpr ⟨a, hx, hf⟩

theorem bind_succeeds {x : Except ε α} {f : α → Except ε β} {a : α} (hx : x = .ok a)
    (hf : ∃ b, f a = .ok b) : ∃ b, x >>= f = .ok b := by
  obtain ⟨b, hb⟩ := hf
  exact ⟨b, bind_of_ok hx hb⟩

/-- A check with nothing but a result behind it. -/
theorem reject_then_succeeds_iff {γ : Type} {c : Prop} [Decidable c] {e : ε} {a : γ} :
    (∃ b, (reject c e >>= fun _ => pure a) = .ok b) ↔ ¬ c := by
  constructor
  · rintro ⟨b, h⟩
    obtain ⟨r, hr, -⟩ := bind_eq_ok_iff.mp h
    exact reject_eq_ok_iff.mp hr
  · intro hc
    exact ⟨a, bind_of_ok (reject_of_not hc e) rfl⟩

theorem pure_eq_ok_iff {a b : α} : (pure a : Except ε α) = .ok b ↔ a = b := by
  constructor
  · intro h
    cases h
    rfl
  · rintro rfl
    rfl

/-- What a successful computation is found to have. -/
theorem map_eq_ok_iff {x : Except ε α} {f : α → β} {b : β} :
    x.map f = .ok b ↔ ∃ a, x = .ok a ∧ f a = b := by
  cases x with
  | error e =>
    refine iff_of_false (fun h => by cases h) ?_
    rintro ⟨a, ha, -⟩
    cases ha
  | ok a =>
    constructor
    · intro h
      cases h
      exact ⟨a, rfl, rfl⟩
    · rintro ⟨a', ha, rfl⟩
      cases ha
      rfl

end

/-! ## How a computation leaves -/

/-- If it leaves, then with an error that has `P`. -/
def Leaves {α : Type v} (P : ε → Prop) (x : Except ε α) : Prop := ∀ e, x = .error e → P e

namespace Leaves

variable {α β : Type v} {P : ε → Prop}

theorem ok (a : α) : Leaves P (.ok a : Except ε α) := by
  intro e h
  cases h

theorem error {e : ε} (he : P e) : Leaves P (.error e : Except ε α) := by
  intro e' h
  cases h
  exact he

theorem reject {c : Prop} [Decidable c] {e : ε} (he : P e) : Leaves P (reject c e) := by
  unfold Checks.reject
  split
  · exact .error he
  · exact .ok ()

theorem demand {o : Option α} {e : ε} (he : P e) : Leaves P (demand o e) := by
  cases o with
  | none => exact .error he
  | some a => exact .ok a

theorem bind {x : Except ε α} {f : α → Except ε β} (hx : Leaves P x) (hf : ∀ a, Leaves P (f a)) :
    Leaves P (x >>= f) := by
  cases x with
  | ok a => exact hf a
  | error e => exact .error (hx e rfl)

end Leaves

/-! ## Variables of a fold -/

/-- The value that the last writing element writes. -/
def lastWrite {α : Type v} {β : Type w} (write : α → Option β) (l : List α) : Option β :=
  (l.filterMap write).getLast?

section

variable {α : Type v} {β : Type w} {write : α → Option β} {l : List α}

theorem lastWrite_eq_none_iff : lastWrite write l = none ↔ ∀ a ∈ l, write a = none := by
  rw [lastWrite, List.getLast?_eq_none_iff, List.filterMap_eq_nil_iff]

theorem exists_of_lastWrite {b : β} (h : lastWrite write l = some b) :
    ∃ a ∈ l, write a = some b :=
  List.mem_filterMap.mp (List.mem_of_getLast? h)

theorem lastWrite_cons (a : α) (l : List α) :
    lastWrite write (a :: l) = (lastWrite write l).or (write a) := by
  unfold lastWrite
  cases h : write a with
  | none => rw [List.filterMap_cons_none h, Option.or_none]
  | some b =>
    rw [List.filterMap_cons_some h, List.getLast?_cons]
    cases (l.filterMap write).getLast? <;> rfl

end

section

variable {α : Type v} {σ β : Type w} {step : σ → α → Except ε σ} {l : List α} {s s' : σ}

theorem foldlM_cons_eq_ok_iff {a : α} :
    (a :: l).foldlM step s = .ok s' ↔ ∃ t, step s a = .ok t ∧ l.foldlM step t = .ok s' := by
  rw [List.foldlM_cons, bind_eq_ok_iff]

/-- A variable that steps overwrite has the value last written, or its old one. -/
theorem foldlM_write {x : σ → β} {write : α → Option β}
    (h : l.foldlM step s = .ok s')
    (hstep : ∀ s a s', step s a = .ok s' → x s' = (write a).getD (x s)) :
    x s' = (lastWrite write l).getD (x s) := by
  induction l generalizing s with
  | nil =>
    cases h
    rfl
  | cons a l ih =>
    obtain ⟨t, ht, hl⟩ := foldlM_cons_eq_ok_iff.mp h
    rw [ih hl, hstep s a t ht, lastWrite_cons]
    cases lastWrite write l <;> rfl

/-- A flag that steps only set is set if it was, or if a step sets it. -/
theorem foldlM_flag {x : σ → Bool} {set : α → Bool}
    (h : l.foldlM step s = .ok s')
    (hstep : ∀ s a s', step s a = .ok s' → x s' = (x s || set a)) : x s' = (x s || l.any set) := by
  induction l generalizing s with
  | nil =>
    cases h
    rw [List.any_nil, Bool.or_false]
  | cons a l ih =>
    obtain ⟨t, ht, hl⟩ := foldlM_cons_eq_ok_iff.mp h
    rw [ih hl, hstep s a t ht, List.any_cons, Bool.or_assoc]

/-- A variable whose new value depends on its old one and the element only. -/
theorem foldlM_foldl {x : σ → β} {f : β → α → β} (h : l.foldlM step s = .ok s')
    (hstep : ∀ s a s', step s a = .ok s' → x s' = f (x s) a) : x s' = l.foldl f (x s) := by
  induction l generalizing s with
  | nil =>
    cases h
    rfl
  | cons a l ih =>
    obtain ⟨t, ht, hl⟩ := foldlM_cons_eq_ok_iff.mp h
    rw [ih hl, hstep s a t ht, List.foldl_cons]

/-- A variable that no step changes. -/
theorem foldlM_frame {x : σ → β} (h : l.foldlM step s = .ok s')
    (hstep : ∀ s a s', step s a = .ok s' → x s' = x s) : x s' = x s := by
  induction l generalizing s with
  | nil =>
    cases h
    rfl
  | cons a l ih =>
    obtain ⟨t, ht, hl⟩ := foldlM_cons_eq_ok_iff.mp h
    rw [ih hl, hstep s a t ht]

/-- What each step keeps. -/
theorem foldlM_invariant {I : σ → Prop} (h : l.foldlM step s = .ok s')
    (hstep : ∀ s a s', I s → step s a = .ok s' → I s') (hs : I s) : I s' := by
  induction l generalizing s with
  | nil =>
    cases h
    exact hs
  | cons a l ih =>
    obtain ⟨t, ht, hl⟩ := foldlM_cons_eq_ok_iff.mp h
    exact ih hl (hstep s a t hs ht)

/-- A fold leaves at the first step that does. -/
theorem exists_of_foldlM_eq_error {e : ε} (h : l.foldlM step s = .error e) :
    ∃ l₁ a l₂ t, l = l₁ ++ a :: l₂ ∧ l₁.foldlM step s = .ok t ∧ step t a = .error e := by
  induction l generalizing s with
  | nil => cases h
  | cons a l ih =>
    rw [List.foldlM_cons] at h
    cases hs : step s a with
    | error e' =>
      rw [hs] at h
      cases h
      exact ⟨[], a, l, s, rfl, rfl, hs⟩
    | ok t =>
      rw [hs] at h
      obtain ⟨l₁, b, l₂, t', rfl, hl₁, hb⟩ := ih h
      exact ⟨a :: l₁, b, l₂, t', rfl, foldlM_cons_eq_ok_iff.mpr ⟨t, hs, hl₁⟩, hb⟩

/-- Where the state has no part in whether a step succeeds, a fold succeeds if every step does. -/
theorem foldlM_succeeds_iff {ok : α → Prop} (hstep : ∀ s a, (∃ s', step s a = .ok s') ↔ ok a) :
    (∃ s', l.foldlM step s = .ok s') ↔ ∀ a ∈ l, ok a := by
  induction l generalizing s with
  | nil => exact iff_of_true ⟨s, rfl⟩ (fun a ha => absurd ha List.not_mem_nil)
  | cons a l ih =>
    rw [List.forall_mem_cons]
    constructor
    · rintro ⟨s', h⟩
      obtain ⟨t, ht, hl⟩ := foldlM_cons_eq_ok_iff.mp h
      exact ⟨(hstep s a).mp ⟨t, ht⟩, ih.mp ⟨s', hl⟩⟩
    · rintro ⟨ha, hall⟩
      obtain ⟨t, ht⟩ := (hstep s a).mpr ha
      obtain ⟨s', hl⟩ := (ih (s := t)).mpr hall
      exact ⟨s', foldlM_cons_eq_ok_iff.mpr ⟨t, ht, hl⟩⟩

end

end Checks
