import Mathlib.Data.List.Basic
import Mathlib.Data.List.Count
import Mathlib.Data.List.Induction
import Mathlib.Tactic.Common

/-!
# Resources that are acquired and released

A program's dealings with resources are recorded in a list of entries. `Sound` entries acquire
nothing twice, and use and release only what is `Held`. In them whatever is acquired and no longer
held has been released exactly once (`Sound.count_release`), and is not touched afterwards
(`Sound.resource_ne`). Dealings with other resources may be put in between (`Sound.append`).
-/

universe u v

namespace Ledger

/-- What is done with a resource. -/
inductive Entry (ρ : Type u)
  | acquire (r : ρ)
  | use (r : ρ)
  | release (r : ρ)
  deriving DecidableEq

variable {ρ : Type u} {es : List (Entry ρ)} {e : Entry ρ} {r r' : ρ}

def Entry.resource : Entry ρ → ρ
  | acquire r => r
  | use r => r
  | release r => r

/-- Acquired and not released. -/
def Held (es : List (Entry ρ)) (r : ρ) : Prop := .acquire r ∈ es ∧ .release r ∉ es

/-- What may be done after `es`. -/
def Admits (es : List (Entry ρ)) : Entry ρ → Prop
  | .acquire r => .acquire r ∉ es
  | .use r => Held es r
  | .release r => Held es r

/-- Every entry is admitted by those before it. -/
def Sound (es : List (Entry ρ)) : Prop := ∀ l e t, es = l ++ e :: t → Admits l e

/-! ## One more entry -/

theorem sound_nil : Sound ([] : List (Entry ρ)) := by
  intro l e t h
  simp at h

theorem Sound.of_append {l t : List (Entry ρ)} (h : Sound (l ++ t)) : Sound l := by
  intro l' e t' hl
  exact h l' e (t' ++ t) (by rw [hl, List.append_assoc, List.cons_append])

theorem sound_append_singleton : Sound (es ++ [e]) ↔ Sound es ∧ Admits es e := by
  constructor
  · intro h
    exact ⟨h.of_append, h es e [] rfl⟩
  · rintro ⟨h, he⟩ l e' t ht
    induction t using List.reverseRecOn with
    | nil =>
      obtain ⟨rfl, heq⟩ := List.append_inj' ht rfl
      rwa [← List.singleton_inj.mp heq]
    | append_singleton t x _ =>
      rw [← List.cons_append, ← List.append_assoc] at ht
      exact h l e' t (List.append_inj' ht rfl).1

@[simp] theorem not_held_nil : ¬ Held ([] : List (Entry ρ)) r := fun h => by cases h.1

@[simp] theorem held_append_use : Held (es ++ [.use r']) r ↔ Held es r := by
  simp [Held]

@[simp] theorem held_append_release : Held (es ++ [.release r']) r ↔ Held es r ∧ r ≠ r' := by
  simp [Held, and_assoc]

/-- Only what was acquired is released. -/
theorem Sound.acquired (h : Sound es) (hr : .release r ∈ es) : .acquire r ∈ es := by
  obtain ⟨l, t, rfl⟩ := List.mem_iff_append.mp hr
  exact List.mem_append_left _ (h l (.release r) t rfl).1

theorem Sound.held_append_acquire (h : Sound (es ++ [.acquire r'])) :
    Held (es ++ [.acquire r']) r ↔ Held es r ∨ r = r' := by
  obtain ⟨hes, hfresh⟩ := sound_append_singleton.mp h
  by_cases hr : r = r'
  · rw [hr]
    have hnot : .release r' ∉ es := fun hrel => hfresh (hes.acquired hrel)
    simp [Held, hnot]
  · simp [Held, hr]

/-- A fresh resource that is given back at once leaves what is held as it was. -/
theorem Sound.round_trip (h : Sound es) (hr : .acquire r ∉ es) :
    Sound (es ++ [.acquire r, .use r, .release r]) ∧
      ∀ r', Held (es ++ [.acquire r, .use r, .release r]) r' ↔ Held es r' := by
  have hacq : Sound (es ++ [.acquire r]) := sound_append_singleton.mpr ⟨h, hr⟩
  have hheld : Held (es ++ [.acquire r]) r := hacq.held_append_acquire.mpr (Or.inr rfl)
  have huse : Sound (es ++ [.acquire r] ++ [.use r]) := sound_append_singleton.mpr ⟨hacq, hheld⟩
  have hrel : Sound (es ++ [.acquire r] ++ [.use r] ++ [.release r]) :=
    sound_append_singleton.mpr ⟨huse, held_append_use.mpr hheld⟩
  have heq : es ++ [.acquire r, .use r, .release r] =
      es ++ [.acquire r] ++ [.use r] ++ [.release r] := by simp
  rw [heq]
  refine ⟨hrel, fun r' => ?_⟩
  rw [held_append_release, held_append_use, hacq.held_append_acquire]
  constructor
  · rintro ⟨hr' | hr', hne⟩
    · exact hr'
    · exact absurd hr' hne
  · intro hr'
    refine ⟨Or.inl hr', ?_⟩
    rintro rfl
    exact hr hr'.1

/-! ## Released exactly once -/

theorem Sound.count_release_le [DecidableEq ρ] (h : Sound es) (r : ρ) :
    es.count (.release r) ≤ 1 := by
  induction es using List.reverseRecOn with
  | nil => exact Nat.zero_le 1
  | append_singleton es e ih =>
    obtain ⟨hes, he⟩ := sound_append_singleton.mp h
    rw [List.count_append]
    by_cases hrel : e = .release r
    · rw [hrel] at he ⊢
      exact Nat.le_of_eq (by rw [List.count_eq_zero.mpr he.2, List.count_singleton_self])
    · rw [List.count_singleton, if_neg (by simpa using hrel), Nat.add_zero]
      exact ih hes

/-- Whatever has been acquired and is no longer held. -/
theorem Sound.count_release [DecidableEq ρ] (h : Sound es) (hr : .acquire r ∈ es)
    (hnot : ¬ Held es r) : es.count (.release r) = 1 := by
  have hrel : .release r ∈ es := by
    by_contra hno
    exact hnot ⟨hr, hno⟩
  exact Nat.le_antisymm (h.count_release_le r) (List.one_le_count_iff.mpr hrel)

/-- After its release a resource is left alone. -/
theorem Sound.resource_ne {l t : List (Entry ρ)} (h : Sound (l ++ .release r :: t)) :
    ∀ e ∈ t, e.resource ≠ r := by
  intro e he
  obtain ⟨t₁, t₂, rfl⟩ := List.mem_iff_append.mp he
  have hadmits := h (l ++ .release r :: t₁) e t₂ (by simp)
  have hacq : .acquire r ∈ l := (h l (.release r) _ rfl).1
  rintro rfl
  cases e with
  | acquire r => exact hadmits (List.mem_append_left _ hacq)
  | use r => exact hadmits.2 (by simp [Entry.resource])
  | release r => exact hadmits.2 (by simp [Entry.resource])

/-! ## Dealings with other resources -/

section Other

variable {σ : Type v} {f : ρ → σ} {es' : List (Entry ρ)}

/-- The same with `f r` for `r`. -/
def Entry.map (f : ρ → σ) : Entry ρ → Entry σ
  | acquire r => .acquire (f r)
  | use r => .use (f r)
  | release r => .release (f r)

theorem Entry.resource_map (e : Entry ρ) : (e.map f).resource = f e.resource := by
  cases e <;> rfl

theorem Entry.map_injective (hf : f.Injective) : (Entry.map f).Injective := by
  intro e e' h
  cases e <;> cases e' <;> simp [Entry.map, hf.eq_iff] at h ⊢ <;> exact h

theorem map_mem_map (hf : f.Injective) (e : Entry ρ) : e.map f ∈ es.map (Entry.map f) ↔ e ∈ es :=
  List.mem_map_of_injective (Entry.map_injective hf)

theorem held_map (hf : f.Injective) : Held (es.map (Entry.map f)) (f r) ↔ Held es r :=
  and_congr (map_mem_map hf (.acquire r)) (not_congr (map_mem_map hf (.release r)))

theorem Sound.map (hf : f.Injective) (h : Sound es) : Sound (es.map (Entry.map f)) := by
  intro l e t heq
  obtain ⟨l', t', rfl, rfl, ht⟩ := List.map_eq_append_iff.mp heq
  obtain ⟨e', t', rfl, rfl, rfl⟩ := List.map_eq_cons_iff.mp ht
  have hadmits := h l' e' t' rfl
  cases e' with
  | acquire r => exact mt (map_mem_map hf (.acquire r)).mp hadmits
  | use r => exact (held_map hf).mpr hadmits
  | release r => exact (held_map hf).mpr hadmits

/-- What `es'` does not touch. -/
theorem held_append_of_forall_ne (h : ∀ e ∈ es', e.resource ≠ r) :
    Held (es ++ es') r ↔ Held es r := by
  have hacq : .acquire r ∉ es' := fun hmem => h _ hmem rfl
  have hrel : .release r ∉ es' := fun hmem => h _ hmem rfl
  unfold Held
  rw [List.mem_append, List.mem_append, or_iff_left hacq, or_iff_left hrel]

theorem held_append_of_forall_ne' (h : ∀ e ∈ es, e.resource ≠ r) :
    Held (es ++ es') r ↔ Held es' r := by
  have hacq : .acquire r ∉ es := fun hmem => h _ hmem rfl
  have hrel : .release r ∉ es := fun hmem => h _ hmem rfl
  unfold Held
  rw [List.mem_append, List.mem_append, or_iff_right hacq, or_iff_right hrel]

theorem Sound.append (h : Sound es) (h' : Sound es')
    (hne : ∀ e ∈ es, ∀ e' ∈ es', e.resource ≠ e'.resource) : Sound (es ++ es') := by
  induction es' using List.reverseRecOn with
  | nil => rwa [List.append_nil]
  | append_singleton es' e ih =>
    obtain ⟨hes', he⟩ := sound_append_singleton.mp h'
    have hother : ∀ e' ∈ es, e'.resource ≠ e.resource := fun e' he' =>
      hne e' he' e (List.mem_append_right _ (List.mem_singleton_self e))
    rw [← List.append_assoc]
    refine sound_append_singleton.mpr
      ⟨ih hes' fun e₁ h₁ e₂ h₂ => hne e₁ h₁ e₂ (List.mem_append_left _ h₂), ?_⟩
    cases e with
    | acquire r =>
      intro hmem
      rcases List.mem_append.mp hmem with hmem | hmem
      · exact hother _ hmem rfl
      · exact he hmem
    | use r => exact (held_append_of_forall_ne' hother).mpr he
    | release r => exact (held_append_of_forall_ne' hother).mpr he

end Other

end Ledger
