import Mathlib.Algebra.Group.Nat.Even
import Mathlib.Data.List.Induction
import Arping.Options

/-!
# `-r` and `-R`

`RAWRAW` is meant to be `RAW|RRAW`, but each of the two options looks only at whether the display is
the other one's, so a third alternation takes the combination back: `-r -R -r` is `RAW`. Behind any
options without `-q` and `-D` the display is decided by how long the letters alternate at the end
(`parseOptions_display`), and the flags combine when that is even, or when only one of them occurs
(`parseOptions_flagsCombine_iff`).
-/

namespace Arping

open Checks

/-! ## The display behind the loop -/

/-- What an option does to `display`. -/
def Display.step (display : Display) : Opt → Display
  | .D => .dot
  | .q => .quiet
  | .r => if display = .rraw then .rawraw else .raw
  | .R => if display = .raw then .rawraw else .rraw
  | _ => display

theorem Opts.step_display {s s' : Opts} {o : Opt} (h : s.step o = .ok s') :
    s'.cfg.display = s.cfg.display.step o := by
  cases o
  case h | other => cases h
  case i optarg | Q optarg | V optarg =>
    obtain ⟨_, -, h⟩ := bind_eq_ok_iff.mp h
    obtain rfl := pure_eq_ok_iff.mp h
    rfl
  all_goals
    cases h
    rfl

/-- `-r` and `-R` among the options, the last one first. -/
def rawLetters (os : List Opt) : List Opt := (os.filter fun o => o = .r ∨ o = .R).reverse

/-- How many letters at the front differ from the one behind them. -/
def alternating : List Opt → ℕ
  | [] => 0
  | [_] => 1
  | o :: o' :: w => if o = o' then 1 else alternating (o' :: w) + 1

/-- The display that the letters leave. -/
def rawDisplay : List Opt → Display
  | [] => .normal
  | o :: w => if Even (alternating (o :: w)) then .rawraw else if o = .r then .raw else .rraw

theorem rawDisplay_cons {o : Opt} {w : List Opt} (ho : o = .r ∨ o = .R)
    (hw : ∀ o ∈ w, o = .r ∨ o = .R) : rawDisplay (o :: w) = (rawDisplay w).step o := by
  cases w with
  | nil => obtain rfl | rfl := ho <;> rfl
  | cons o' w =>
    have ho' := hw o' (by simp)
    by_cases heven : Even (alternating (o' :: w)) <;> obtain rfl | rfl := ho <;>
      obtain rfl | rfl := ho' <;>
      simp [rawDisplay, alternating, heven, Nat.even_add_one, Display.step]

theorem mem_rawLetters {os : List Opt} {o : Opt} :
    o ∈ rawLetters os ↔ o ∈ os ∧ (o = .r ∨ o = .R) := by
  simp [rawLetters]

theorem foldl_step_eq {os : List Opt} (hq : .q ∉ os) (hD : .D ∉ os) :
    os.foldl Display.step .normal = rawDisplay (rawLetters os) := by
  induction os using List.reverseRecOn with
  | nil => rfl
  | append_singleton os o ih =>
    rw [List.mem_append, not_or] at hq hD
    have hall : ∀ o ∈ rawLetters os, o = .r ∨ o = .R := fun o ho => (mem_rawLetters.mp ho).2
    rw [List.foldl_append, List.foldl_cons, List.foldl_nil, ih hq.1 hD.1]
    by_cases ho : o = .r ∨ o = .R
    · have hletters : rawLetters (os ++ [o]) = o :: rawLetters os := by simp [rawLetters, ho]
      rw [hletters, rawDisplay_cons ho hall]
    · have hletters : rawLetters (os ++ [o]) = rawLetters os := by simp [rawLetters, ho]
      rw [hletters]
      -- Neither a letter nor `-q` nor `-D`: the display stays.
      rw [List.mem_singleton] at hq hD
      cases o <;> simp_all [Display.step]

theorem parseOptions_display {host : Endian} {os : List Opt} {s : Opts}
    (h : parseOptions host os = .ok s) (hq : .q ∉ os) (hD : .D ∉ os) :
    s.cfg.display = rawDisplay (rawLetters os) := by
  rw [← foldl_step_eq hq hD]
  exact foldlM_foldl (x := fun s => s.cfg.display) h fun _ _ _ h => Opts.step_display h

/-! ## Main result -/

/-- The display is that of the set of letters that occur. -/
structure FlagsCombine (os : List Opt) (display : Display) : Prop where
  raw : .r ∈ os → .R ∉ os → display = .raw
  rraw : .R ∈ os → .r ∉ os → display = .rraw
  rawraw : .r ∈ os → .R ∈ os → display = .rawraw

/-- One letter, however often, does not alternate. -/
theorem alternating_replicate (o : Opt) (n : ℕ) : alternating (List.replicate (n + 1) o) = 1 := by
  cases n with
  | zero => rfl
  | succ n => exact if_pos rfl

theorem rawDisplay_replicate (o : Opt) (n : ℕ) :
    rawDisplay (List.replicate (n + 1) o) = if o = .r then .raw else .rraw := by
  have h := alternating_replicate o n
  rw [List.replicate_succ] at h ⊢
  rw [rawDisplay, h, if_neg (by decide)]

theorem rawDisplay_of_forall_eq {o : Opt} {w : List Opt} (ho : o ∈ w) (h : ∀ o' ∈ w, o' = o) :
    rawDisplay w = if o = .r then .raw else .rraw := by
  obtain ⟨n, hn⟩ := Nat.exists_eq_add_one.mpr (List.length_pos_of_mem ho)
  rw [List.eq_replicate_of_mem h, hn, rawDisplay_replicate]

theorem rawDisplay_eq_rawraw_iff {w : List Opt} (hne : w ≠ []) :
    rawDisplay w = .rawraw ↔ Even (alternating w) := by
  obtain ⟨o, w, rfl⟩ := List.exists_cons_of_ne_nil hne
  rw [rawDisplay]
  by_cases h : Even (alternating (o :: w))
  · rw [if_pos h]
    exact iff_of_true rfl h
  · rw [if_neg h]
    refine iff_of_false ?_ h
    split <;> simp

/-- The flags combine when only one of them occurs, or when the letters alternate at the end over an
even length. -/
theorem parseOptions_flagsCombine_iff (host : Endian) (os : List Opt) (s : Opts)
    (h : parseOptions host os = .ok s) (hq : .q ∉ os) (hD : .D ∉ os) :
    FlagsCombine os s.cfg.display ↔
      .r ∉ os ∨ .R ∉ os ∨ Even (alternating (rawLetters os)) := by
  rw [parseOptions_display h hq hD]
  have hmem : ∀ {o : Opt}, o = .r ∨ o = .R → o ∈ os → o ∈ rawLetters os :=
    fun ho hos => mem_rawLetters.mpr ⟨hos, ho⟩
  constructor
  · intro hflags
    by_contra! hnot
    obtain ⟨hr, hR, hodd⟩ := hnot
    have hne := List.ne_nil_of_mem (hmem (Or.inl rfl) hr)
    exact hodd ((rawDisplay_eq_rawraw_iff hne).mp (hflags.rawraw hr hR))
  · intro hcond
    refine ⟨fun hr hR => ?_, fun hR hr => ?_, fun hr hR => ?_⟩
    · refine rawDisplay_of_forall_eq (hmem (Or.inl rfl) hr) fun o ho => ?_
      obtain ⟨hos, rfl | rfl⟩ := mem_rawLetters.mp ho
      · rfl
      · exact absurd hos hR
    · refine rawDisplay_of_forall_eq (hmem (Or.inr rfl) hR) fun o ho => ?_
      obtain ⟨hos, rfl | rfl⟩ := mem_rawLetters.mp ho
      · exact absurd hos hr
      · rfl
    · have heven := (hcond.resolve_left (not_not_intro hr)).resolve_left (not_not_intro hR)
      exact (rawDisplay_eq_rawraw_iff (List.ne_nil_of_mem (hmem (Or.inl rfl) hr))).mpr heven

theorem parseOptions_flagsCombine_iff_rR :
    ∃ s, parseOptions .little [.r, .v, .R] = .ok s ∧ FlagsCombine [.r, .v, .R] s.cfg.display :=
  ⟨_, rfl, (parseOptions_flagsCombine_iff .little [.r, .v, .R] _ rfl (by decide) (by decide)).mpr
    (by decide)⟩

/-- `-r -R -r` is `-r`. -/
theorem not_flagsCombine_rRr :
    ∃ s, parseOptions .little [.r, .R, .r] = .ok s ∧ ¬ FlagsCombine [.r, .R, .r] s.cfg.display :=
  ⟨_, rfl, fun h => absurd (h.rawraw (by decide) (by decide)) (by decide)⟩

end Arping
