import Arping.Options

/-!
# Options in any order

`mode` remembers only the last of `-t`, `-T` and `-U`. The flags beside it tell which of them
occurred at all, and the first conflict check compares the two: `-T` together with one of `-B`, `-t`
and `-U` is rejected in every order. The second check adds nothing
(`conflictChecks_of_conflicting`). So the checks, and the mode where they pass, depend on the set of
the options only.
-/

namespace Arping

open Checks

variable {os os' : List Opt} {s : Opts}

/-- `-T` occurs. -/
def ForMac (os : List Opt) : Prop := ∃ optarg, .T optarg ∈ os

/-- `-t` or `-U` occurs. -/
def ForIp (os : List Opt) : Prop := (∃ optarg, .t optarg ∈ os) ∨ .U ∈ os

/-- `-T` occurs together with one of `-B`, `-t` and `-U`. -/
def Conflicting (os : List Opt) : Prop := ForMac os ∧ (.B ∈ os ∨ ForIp os)

/-! ## What the variables say of the options -/

theorem any_eq_iff_mem {o : Opt} : os.any (· = o) = true ↔ o ∈ os := by
  rw [List.any_eq_true]
  constructor
  · rintro ⟨o', hmem, ho⟩
    rwa [of_decide_eq_true ho] at hmem
  · intro hmem
    exact ⟨o, hmem, decide_eq_true rfl⟩

/-- Whether an option of one letter occurs, with whatever argument. -/
theorem any_iff_exists {letter : String → Opt} {p : Opt → Bool}
    (hp : ∀ o, p o = true ↔ ∃ optarg, o = letter optarg) :
    os.any p = true ↔ ∃ optarg, letter optarg ∈ os := by
  rw [List.any_eq_true]
  constructor
  · rintro ⟨o, hmem, ho⟩
    obtain ⟨optarg, rfl⟩ := (hp o).mp ho
    exact ⟨optarg, hmem⟩
  · rintro ⟨optarg, hmem⟩
    exact ⟨_, hmem, (hp _).mpr ⟨optarg, rfl⟩⟩

theorem any_isT_iff : os.any Opt.isT = true ↔ ForMac os :=
  any_iff_exists fun o => by cases o <;> simp [Opt.isT]

theorem any_isSmallT_iff : os.any Opt.isSmallT = true ↔ ∃ optarg, .t optarg ∈ os :=
  any_iff_exists fun o => by cases o <;> simp [Opt.isSmallT]

namespace Opts.Parsed

theorem optB_iff (h : Parsed os s) : s.optB = true ↔ .B ∈ os := by
  rw [h.optB, any_eq_iff_mem]

theorem optT_iff (h : Parsed os s) : s.optT = true ↔ ForMac os := by
  rw [h.optT, any_isT_iff]

theorem forIp_iff (h : Parsed os s) : s.dstmacOpt.isSome = true ∨ s.optU = true ↔ ForIp os := by
  rw [h.dstmacOpt, h.optU, any_isSmallT_iff, any_eq_iff_mem, ForIp]

/-- Only `-T` makes the destination address another than the broadcast address. -/
theorem dstipOpt_of_not_forMac (h : Parsed os s) (hmac : ¬ ForMac os) :
    s.dstipOpt = none ∨ s.dstipOpt = some ipBroadcast := by
  have hwrite := h.dstipOpt
  cases hw : lastWrite Opt.dstip? os with
  | none =>
    rw [hw] at hwrite
    exact Or.inl hwrite
  | some written =>
    obtain ⟨o, hmem, ho⟩ := exists_of_lastWrite hw
    rw [hw] at hwrite
    cases o <;> cases ho
    · exact Or.inr hwrite
    · exact absurd ⟨_, hmem⟩ hmac

/-- The mode is that of an option that occurs. -/
theorem mode_cases (h : Parsed os s) :
    (s.cfg.mode = .none ∧ ¬ ForMac os ∧ ¬ ForIp os) ∨ (s.cfg.mode = .pingmac ∧ ForMac os) ∨
      (s.cfg.mode = .pingip ∧ ForIp os) := by
  have hmode := h.mode
  cases hw : lastWrite Opt.mode? os with
  | none =>
    rw [hw] at hmode
    have hnone := lastWrite_eq_none_iff.mp hw
    refine Or.inl ⟨hmode, ?_, ?_⟩
    · rintro ⟨optarg, hmem⟩
      cases hnone _ hmem
    · rintro (⟨optarg, hmem⟩ | hmem)
      · cases hnone _ hmem
      · cases hnone _ hmem
  | some mode =>
    rw [hw] at hmode
    obtain ⟨o, hmem, ho⟩ := exists_of_lastWrite hw
    cases o <;> cases ho
    · exact Or.inr (Or.inr ⟨hmode, Or.inl ⟨_, hmem⟩⟩)
    · exact Or.inr (Or.inl ⟨hmode, _, hmem⟩)
    · exact Or.inr (Or.inr ⟨hmode, Or.inr hmem⟩)

/-- Without a conflict the mode tells which options occur. -/
theorem mode_iff (h : Parsed os s) (hfree : ¬ Conflicting os) :
    (s.cfg.mode = .pingmac ↔ ForMac os) ∧ (s.cfg.mode = .pingip ↔ ForIp os) ∧
      (s.cfg.mode = .none ↔ ¬ ForMac os ∧ ¬ ForIp os) := by
  have hnot : ForMac os → ¬ ForIp os := fun hmac hip => hfree ⟨hmac, Or.inr hip⟩
  rcases h.mode_cases with ⟨hmode, hmac, hip⟩ | ⟨hmode, hmac⟩ | ⟨hmode, hip⟩
  · simp [hmode, hmac, hip]
  · simp [hmode, hmac, hnot hmac]
  · have hmac : ¬ ForMac os := fun hmac => hnot hmac hip
    simp [hmode, hip, hmac]

end Opts.Parsed

/-! ## The conflict checks -/

/-- The first check sees every conflict. -/
theorem conflictChecks_of_conflicting (h : Opts.Parsed os s) (hconf : Conflicting os) :
    conflictChecks s = .error (.error modeConflictMessage) := by
  have hT : s.optT = true := h.optT_iff.mpr hconf.1
  have hothers : s.optB = true ∨ s.dstmacOpt.isSome = true ∨ s.optU = true :=
    hconf.2.imp h.optB_iff.mpr h.forIp_iff.mpr
  have hcheck : (s.cfg.mode = .pingip ∧ s.optT = true) ∨
      (s.cfg.mode = .pingmac ∧ (s.optB = true ∨ s.dstmacOpt.isSome = true ∨ s.optU = true)) := by
    rcases h.mode_cases with ⟨-, hmac, -⟩ | ⟨hmode, -⟩ | ⟨hmode, -⟩
    · exact absurd hconf.1 hmac
    · exact Or.inr ⟨hmode, hothers⟩
    · exact Or.inl ⟨hmode, hT⟩
  unfold conflictChecks reject
  rw [if_pos hcheck]
  rfl

theorem conflictChecks_of_not_conflicting (h : Opts.Parsed os s) (hfree : ¬ Conflicting os) :
    conflictChecks s = .ok () := by
  have hmode := h.mode_iff hfree
  refine bind_of_ok (reject_of_not ?_ _) (reject_of_not ?_ _)
  · rintro (⟨hip, hT⟩ | ⟨hmac, hothers⟩)
    · exact hfree ⟨h.optT_iff.mp hT, Or.inr (hmode.2.1.mp hip)⟩
    · exact hfree ⟨hmode.1.mp hmac, hothers.imp h.optB_iff.mp h.forIp_iff.mp⟩
  · rintro ⟨hT, hB⟩
    exact hfree ⟨h.optT_iff.mp hT, Or.inl (h.optB_iff.mp hB)⟩

theorem conflictChecks_eq_ok_iff (h : Opts.Parsed os s) :
    conflictChecks s = .ok () ↔ ¬ Conflicting os := by
  constructor
  · intro hok hconf
    rw [conflictChecks_of_conflicting h hconf] at hok
    cases hok
  · exact conflictChecks_of_not_conflicting h

/-! ## The order of the options -/

/-- The mode that option parsing chooses, if it does not end the program. -/
def checkedMode (host : Endian) (os : List Opt) : Except Exit Mode := do
  let s ← parseOptions host os
  conflictChecks s
  return s.cfg.mode

theorem checkedMode_of_conflicting {host : Endian} (h : parseOptions host os = .ok s)
    (hconf : Conflicting os) : checkedMode host os = .error (.error modeConflictMessage) := by
  unfold checkedMode
  rw [h]
  show (conflictChecks s >>= fun _ => pure s.cfg.mode) = _
  rw [conflictChecks_of_conflicting (parseOptions_parsed h) hconf]
  rfl

theorem checkedMode_of_not_conflicting {host : Endian} (h : parseOptions host os = .ok s)
    (hfree : ¬ Conflicting os) : checkedMode host os = .ok s.cfg.mode :=
  bind_of_ok h (bind_of_ok (conflictChecks_of_not_conflicting (parseOptions_parsed h) hfree) rfl)

section

variable (hperm : os'.Perm os)

include hperm

theorem forMac_congr : ForMac os' ↔ ForMac os :=
  exists_congr fun _ => hperm.mem_iff

theorem forIp_congr : ForIp os' ↔ ForIp os :=
  or_congr (exists_congr fun _ => hperm.mem_iff) hperm.mem_iff

theorem conflicting_congr : Conflicting os' ↔ Conflicting os :=
  and_congr (forMac_congr hperm) (or_congr hperm.mem_iff (forIp_congr hperm))

theorem checkedMode_congr {host : Endian} (h : parseOptions host os = .ok s) :
    checkedMode host os' = checkedMode host os := by
  have hall := parseOptions_succeeds_iff.mp ⟨s, h⟩
  obtain ⟨s', h'⟩ : ∃ s', parseOptions host os' = .ok s' :=
    parseOptions_succeeds_iff.mpr fun o ho => hall o (hperm.mem_iff.mp ho)
  by_cases hconf : Conflicting os
  · rw [checkedMode_of_conflicting h hconf,
      checkedMode_of_conflicting h' ((conflicting_congr hperm).mpr hconf)]
  · have hconf' := mt (conflicting_congr hperm).mp hconf
    rw [checkedMode_of_not_conflicting h hconf, checkedMode_of_not_conflicting h' hconf']
    have hmode := (parseOptions_parsed h).mode_iff hconf
    have hmode' := (parseOptions_parsed h').mode_iff hconf'
    congr 1
    cases hm : s.cfg.mode with
    | none =>
      have hnone := hmode.2.2.mp hm
      exact hmode'.2.2.mpr
        ⟨mt (forMac_congr hperm).mp hnone.1, mt (forIp_congr hperm).mp hnone.2⟩
    | pingmac => exact hmode'.1.mpr ((forMac_congr hperm).mpr (hmode.1.mp hm))
    | pingip => exact hmode'.2.1.mpr ((forIp_congr hperm).mpr (hmode.2.1.mp hm))

end

/-- **Order of the options.** For every list of options that are accepted one by one, the conflict
checks reject exactly `-T` together with `-B`, `-t` or `-U`, the mode is otherwise the one that the
options ask for, and every permutation of the list comes to the same. -/
theorem conflictChecks_orderFree {host : Endian} (h : parseOptions host os = .ok s) :
    (conflictChecks s ≠ .ok () ↔ ForMac os ∧ (.B ∈ os ∨ (∃ optarg, .t optarg ∈ os) ∨ .U ∈ os)) ∧
      (conflictChecks s = .ok () →
        (s.cfg.mode = .pingmac ↔ ForMac os) ∧ (s.cfg.mode = .pingip ↔ ForIp os) ∧
          (s.cfg.mode = .none ↔ ¬ ForMac os ∧ ¬ ForIp os)) ∧
      ∀ os', os'.Perm os → checkedMode host os' = checkedMode host os := by
  have hparsed := parseOptions_parsed h
  refine ⟨?_, ?_, ?_⟩
  · exact (not_congr (conflictChecks_eq_ok_iff hparsed)).trans not_not
  · intro hok
    exact hparsed.mode_iff ((conflictChecks_eq_ok_iff hparsed).mp hok)
  · intro os' hperm
    exact checkedMode_congr hperm h

/-- A conflict in which `-T` comes last. -/
theorem conflictChecks_orderFree_tBT :
    let os : List Opt := [.t "1:2:3:4:5:6", .B, .T "10.0.0.1"]
    ∃ s, (conflictChecks s ≠ .ok () ↔
        ForMac os ∧ (.B ∈ os ∨ (∃ optarg, .t optarg ∈ os) ∨ .U ∈ os)) ∧
      (conflictChecks s = .ok () →
        (s.cfg.mode = .pingmac ↔ ForMac os) ∧ (s.cfg.mode = .pingip ↔ ForIp os) ∧
          (s.cfg.mode = .none ↔ ¬ ForMac os ∧ ¬ ForIp os)) ∧
      ∀ os', os'.Perm os → checkedMode .little os' = checkedMode .little os :=
  ⟨_, conflictChecks_orderFree rfl⟩

end Arping
