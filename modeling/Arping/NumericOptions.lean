import Arping.Lib.Decimal
import Arping.Options
import Arping.Statistics

/-!
# The arguments of `-V`, `-Q` and `-W`

`vlan_tag` and `vlan_prio` are 16-bit variables, and their ranges are checked after the assignment:
an integer out of range is rejected unless it folds back into the range. `packetwait` has 32 bits
and no check at all. `numericOptions_kept_iff` says exactly which arguments are kept.
-/

namespace Arping

open CNumber Checks

/-! ## The laws -/

/-- An option with an integer argument rejects what is out of range, and stores the rest as it
is. -/
def IntKept (option : String → Opt) (stored : Opts → Int16) (max : ℤ) (optarg : String) (n : ℤ) :
    Prop :=
  ∀ s : Opts,
    (0 ≤ n ∧ n ≤ max → ∃ s', s.step (option optarg) = .ok s' ∧ (stored s').toInt = n) ∧
    (¬ (0 ≤ n ∧ n ≤ max) → ∃ e, s.step (option optarg) = .error e)

/-- `-V` and `-Q`. -/
def TagKept : String → ℤ → Prop := IntKept .V (fun s => s.cfg.vlanTag) 4095
def PrioKept : String → ℤ → Prop := IntKept .Q (fun s => s.cfg.vlanPrio) 7

/-- `-W` rejects the number, or stores its microseconds, which are in the range of `packetwait`. -/
def WaitKept (optarg : String) (q : ℚ) : Prop :=
  ∀ s s' : Opts, s.step (.W optarg) = .ok s' →
    (s'.cfg.packetwait.toNat : ℤ) = ⌊1000000 * q⌋ ∧ 1000000 * q < 2 ^ 32

/-! ## Integers -/

theorem toInt_toInt16_atoi {optarg : String} {d : Decimal} (h : InInt d.value)
    (htext : optarg.toList = d.text) :
    (atoi optarg.toList).toInt16.toInt = d.value.bmod 65536 := by
  obtain ⟨hlow, hhigh⟩ := h
  unfold intMin at hlow
  unfold intMax at hhigh
  rw [Int32.toInt_toInt16, htext, d.atoi_text (by omega) (by omega)]

/-- A range check that is made on the stored value. -/
theorem not_reject_range_iff {x max : Int16} :
    ¬ (x < 0 ∨ x > max) ↔ 0 ≤ x.toInt ∧ x.toInt ≤ max.toInt := by
  rw [gt_iff_lt, Int16.lt_iff_toInt_lt, Int16.lt_iff_toInt_lt, not_or, not_lt, not_lt]
  rfl

/-- An option that stores the integer reduced to 16 bits as `x` and then checks the range of `x`. -/
theorem intKept_iff (max : Int16) {option : String → Opt} {stored : Opts → Int16}
    {set : Opts → Opts} {x : Int16} {n : ℤ} {e : Exit} {optarg : String}
    (hx : x.toInt = n.bmod 65536)
    (hstep : ∀ s : Opts, s.step (option optarg) =
      reject (x < 0 ∨ x > max) e >>= fun _ => pure (set s))
    (hset : ∀ s, stored (set s) = x) :
    IntKept option stored max.toInt optarg n ↔
      (0 ≤ n ∧ n ≤ max.toInt) ∨ max.toInt < n % 65536 := by
  have hmax : max.toInt < 32768 := max.toInt_lt
  -- in range after folding
  have hfold : ¬ (x < 0 ∨ x > max) ↔ n % 65536 ≤ max.toInt := by
    rw [not_reject_range_iff, hx, Int.bmod_def]
    omega
  have haccept : ∀ s : Opts, n % 65536 ≤ max.toInt → s.step (option optarg) = .ok (set s) := by
    intro s hmod
    rw [hstep, reject_of_not (hfold.mpr hmod)]
    rfl
  constructor
  · intro h
    by_contra! hnot
    obtain ⟨e', he⟩ := (h (Opts.init .little)).2 fun hin => absurd (hnot.1 hin.1) (not_lt.mpr hin.2)
    rw [haccept _ hnot.2] at he
    cases he
  · intro h s
    constructor
    · intro hin
      refine ⟨set s, haccept s (by omega), ?_⟩
      rw [hset, hx, Int.bmod_def]
      omega
    · intro hout
      have hreject : x < 0 ∨ x > max := by
        by_contra hnot
        exact absurd (h.resolve_left hout) (not_lt.mpr (hfold.mp hnot))
      refine ⟨e, ?_⟩
      rw [hstep, reject_of hreject]
      rfl

theorem tagKept_iff {optarg : String} {d : Decimal} (h : InInt d.value)
    (htext : optarg.toList = d.text) :
    TagKept optarg d.value ↔ (0 ≤ d.value ∧ d.value ≤ 4095) ∨ 4095 < d.value % 65536 :=
  intKept_iff 4095 (toInt_toInt16_atoi h htext) (fun _ => rfl) fun _ => rfl

theorem prioKept_iff {optarg : String} {d : Decimal} (h : InInt d.value)
    (htext : optarg.toList = d.text) :
    PrioKept optarg d.value ↔ (0 ≤ d.value ∧ d.value ≤ 7) ∨ 7 < d.value % 65536 :=
  intKept_iff 7 (toInt_toInt16_atoi h htext) (fun _ => rfl) fun _ => rfl

/-! ## Microseconds -/

theorem waitKept_iff {optarg : String} {d : Scientific} (hnonneg : 0 ≤ d.value)
    (htext : optarg.toList = d.text) :
    WaitKept optarg d.value ↔ 1000000 * d.value < 2 ^ 32 := by
  constructor
  · intro h
    exact (h (Opts.init .little) _ rfl).2
  · intro h s s' hstep
    cases hstep
    refine ⟨?_, h⟩
    have hfloor : 0 ≤ ⌊1000000 * d.value⌋ := Int.floor_nonneg.mpr (by positivity)
    have hlt : ⌊1000000 * d.value⌋ < 2 ^ 32 := Int.floor_lt.mpr (by exact_mod_cast h)
    show ((toUint32 (1000000 * atof optarg.toList)).toNat : ℤ) = _
    rw [htext, d.atof_text, toUint32, UInt32.toNat_ofNat', Nat.mod_eq_of_lt (by omega),
      Int.toNat_of_nonneg hfloor]

/-! ## Main result -/

/-- **Numeric options.** For integers that an `int` holds, `-V` and `-Q` reject what is out of range
and take the rest as it is exactly when the integer is in range or does not fold into it; `-W` takes
a number as it is exactly when its microseconds are below `2 ^ 32`. -/
theorem numericOptions_kept_iff (optarg : String) :
    (∀ d : Decimal, optarg.toList = d.text → InInt d.value →
      (TagKept optarg d.value ↔ (0 ≤ d.value ∧ d.value ≤ 4095) ∨ 4095 < d.value % 65536) ∧
      (PrioKept optarg d.value ↔ (0 ≤ d.value ∧ d.value ≤ 7) ∨ 7 < d.value % 65536)) ∧
    (∀ d : Scientific, optarg.toList = d.text → 0 ≤ d.value →
      (WaitKept optarg d.value ↔ 1000000 * d.value < 2 ^ 32)) := by
  refine ⟨fun d htext h => ⟨tagKept_iff h htext, prioKept_iff h htext⟩, ?_⟩
  exact fun d htext h => waitKept_iff h htext

theorem numericOptions_kept_iff_examples : TagKept "100" 100 ∧ PrioKept "-1" (-1) ∧
    ∃ d : Scientific, "3".toList = d.text ∧ WaitKept "3" d.value := by
  let three : Scientific :=
    ⟨[], ['3'], none, none, Or.inl rfl, List.all_eq_true.mp rfl, by simp, by decide⟩
  refine ⟨?_, ?_, three, rfl, ?_⟩
  · exact ((numericOptions_kept_iff "100").1
      ⟨[], ['1', '0', '0'], Or.inl rfl, by decide, List.all_eq_true.mp rfl⟩ rfl
      (by decide)).1.mpr (by decide)
  · exact ((numericOptions_kept_iff "-1").1
      ⟨['-'], ['1'], Or.inr (Or.inr rfl), by decide, List.all_eq_true.mp rfl⟩ rfl
      (by decide)).2.mpr (by decide)
  · have hvalue : three.value = 3 := by
      simp [three, Scientific.value, Scientific.magnitude, Scientific.places, Scientific.exponent,
        numeral, digitVal]
    refine ((numericOptions_kept_iff "3").2 three rfl ?_).mpr ?_ <;> rw [hvalue] <;> norm_num

/-- `-V 65537` is taken for `-V 1`. -/
theorem not_tagKept_65537 :
    ∃ d : Decimal, "65537".toList = d.text ∧ d.value = 65537 ∧ ¬ TagKept "65537" d.value := by
  refine ⟨⟨[], ['6', '5', '5', '3', '7'], Or.inl rfl, by decide, List.all_eq_true.mp rfl⟩, rfl,
    rfl, ?_⟩
  rw [tagKept_iff (by decide) rfl]
  decide

end Arping
