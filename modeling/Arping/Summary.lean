import Arping.LossReport
import Arping.Session

/-!
# The summary of a run

In the normal display a run ends with the counts of requests and replies, the share of requests
that is left unanswered, and the round-trip times. The counts are `unsigned int`s printed with `%d`,
the share goes through `float`s and is exact to four decimals (`abs_percent_sub_le`).
`reachable_truthful_iff` says when the figures are those of the run.
-/

namespace Arping

/-! ## The percentage -/

theorem abs_float_sub_le (n : UInt32) : |float n.toNat - n.toNat| ≤ (n.toNat : ℚ) / 2 ^ 24 := by
  have hnonneg : (0 : ℚ) ≤ n.toNat := Nat.cast_nonneg _
  have herror := BinaryFloat.abs_nearest_sub_le_div 24 (n.toNat : ℚ)
  rwa [abs_of_nonneg hnonneg] at herror

/-- A percentage is rounded to a percentage. -/
theorem double_percent {x : ℚ} (hlow : 0 ≤ x) (hhigh : x ≤ 100) :
    0 ≤ double x ∧ double x ≤ 100 ∧ |double x - x| ≤ 100 / 2 ^ 53 := by
  refine ⟨not_lt.mp ((double_neg_iff x).not.mpr (not_lt.mpr hlow)),
    BinaryFloat.nearest_le (by norm_num) (inFormat_hundred (by norm_num)) hhigh,
    (BinaryFloat.abs_nearest_sub_le_div 53 x).trans ?_⟩
  rw [abs_of_nonneg hlow]
  gcongr

theorem float_percent {x : ℚ} (hlow : 0 ≤ x) (hhigh : x ≤ 100) :
    |float x - x| ≤ 100 / 2 ^ 24 := by
  refine (BinaryFloat.abs_nearest_sub_le_div 24 x).trans ?_
  rw [abs_of_nonneg hlow]
  gcongr

section Percentage

variable {numrecvd numsent : UInt32} (hle : numrecvd.toNat ≤ numsent.toNat)

include hle

/-- The error of the quotient, in which both counters are off by a relative `1 / 2 ^ 24`. -/
theorem abs_quotient_sub_le (hsent : numsent ≠ 0) :
    |100 * float numrecvd.toNat / float numsent.toNat -
      100 * (numrecvd.toNat : ℚ) / numsent.toNat| ≤ 300 / 2 ^ 24 := by
  have hfloat := float_pos hsent
  have hpos := toNat_cast_pos hsent
  have hrecvd : (0 : ℚ) ≤ numrecvd.toNat := Nat.cast_nonneg _
  have hle' : (numrecvd.toNat : ℚ) ≤ numsent.toNat := by exact_mod_cast hle
  have ha := abs_float_sub_le numrecvd
  have hb := abs_float_sub_le numsent
  rw [div_sub_div _ _ hfloat.ne' hpos.ne', abs_div, abs_of_pos (mul_pos hfloat hpos),
    div_le_iff₀ (mul_pos hfloat hpos)]
  generalize float numrecvd.toNat = a at *
  generalize float numsent.toNat = b at *
  generalize (numrecvd.toNat : ℚ) = n at *
  generalize (numsent.toNat : ℚ) = m at *
  calc |100 * a * m - b * (100 * n)| = |100 * ((a - n) * m - (b - m) * n)| := by
        congr 1
        ring
    _ = 100 * |(a - n) * m - (b - m) * n| := by rw [abs_mul, abs_of_pos (by norm_num)]
    _ ≤ 100 * (|(a - n) * m| + |(b - m) * n|) := by gcongr; exact abs_sub _ _
    _ ≤ 100 * (n / 2 ^ 24 * m + m / 2 ^ 24 * n) := by
        rw [abs_mul, abs_mul, abs_of_pos hpos, abs_of_nonneg hrecvd]
        gcongr
    _ = 200 / 2 ^ 24 * n * m := by ring
    _ ≤ 300 / 2 ^ 24 * b * m := by
        have hnear : m - m / 2 ^ 24 ≤ b := by linarith [(abs_le.mp hb).1]
        gcongr ?_ * m
        linarith
    _ = 300 / 2 ^ 24 * (b * m) := by ring

/-- The percentage of unanswered requests as the program computes it: the rounding of the quotient,
and of three numbers between 0 and 100. -/
theorem abs_succ_sub_le {x : ℚ} (h : succ numrecvd numsent = some x) :
    |x - (100 - 100 * (numrecvd.toNat : ℚ) / numsent.toNat)| ≤ 1 / 10000 := by
  have hsent := ne_zero_of_succ h
  have hfloat := float_pos hsent
  have hquot : 100 * float numrecvd.toNat / float numsent.toNat ≤ 100 := by
    rw [div_le_iff₀ hfloat]
    linarith [float_mono (Nat.cast_le (α := ℚ).mpr hle)]
  have hquot₀ : 0 ≤ 100 * float numrecvd.toNat / float numsent.toNat :=
    div_nonneg (mul_nonneg (by norm_num) (float_nonneg numrecvd)) hfloat.le
  have herror := abs_quotient_sub_le hle hsent
  rw [succ_value h]
  generalize 100 * float numrecvd.toNat / float numsent.toNat = q at *
  generalize 100 * (numrecvd.toNat : ℚ) / numsent.toNat = t at *
  obtain ⟨hlow₁, hhigh₁, h₁⟩ := double_percent hquot₀ hquot
  generalize double q = d at *
  obtain ⟨hlow₂, hhigh₂, h₂⟩ := double_percent (sub_nonneg.mpr hhigh₁) (sub_le_self 100 hlow₁)
  generalize double (100 - d) = e at *
  have h₃ := float_percent hlow₂ hhigh₂
  rw [abs_le] at *
  constructor <;> linarith

end Percentage

/-- With as many replies as requests nothing is unanswered. -/
theorem succ_nonpos {numrecvd numsent : UInt32} {x : ℚ} (h : succ numrecvd numsent = some x)
    (hle : numsent.toNat ≤ numrecvd.toNat) : x ≤ 0 := by
  have hpos := float_pos (ne_zero_of_succ h)
  have hquot : 100 ≤ double (100 * float numrecvd.toNat / float numsent.toNat) := by
    refine BinaryFloat.le_nearest (by norm_num) (inFormat_hundred (by norm_num)) ?_
    rw [le_div_iff₀ hpos]
    linarith [float_mono (Nat.cast_le (α := ℚ).mpr hle)]
  rw [succ_value h]
  exact BinaryFloat.nearest_le (by norm_num) (BinaryFloat.inFormat_zero 24)
    (BinaryFloat.nearest_le (by norm_num) (BinaryFloat.inFormat_zero 53) (sub_nonpos.mpr hquot))

/-- The percentage that is printed. -/
theorem abs_percent_sub_le {numrecvd numsent : UInt32} {loss : LossReport}
    (h : lossReport numrecvd numsent = some loss) :
    |loss.percent - max 0 (100 - 100 * (numrecvd.toNat : ℚ) / numsent.toNat)| ≤ 1 / 10000 := by
  unfold lossReport at h
  obtain ⟨x, hx, rfl⟩ := Option.map_eq_some_iff.mp h
  have hsign := succ_neg_iff hx
  have hpos := toNat_cast_pos (ne_zero_of_succ hx)
  rcases le_or_gt numrecvd.toNat numsent.toNat with hle | hgt
  · have hle' : (numrecvd.toNat : ℚ) ≤ numsent.toNat := by exact_mod_cast hle
    have hshare : 0 ≤ 100 - 100 * (numrecvd.toNat : ℚ) / numsent.toNat := by
      rw [sub_nonneg, div_le_iff₀ hpos]
      linarith
    dsimp only
    rw [if_neg (hsign.not.mpr (float_mono hle').not_gt), max_eq_right hshare]
    exact abs_succ_sub_le hle hx
  · have hgt' : (numsent.toNat : ℚ) < numrecvd.toNat := by exact_mod_cast hgt
    have hshare : 100 - 100 * (numrecvd.toNat : ℚ) / numsent.toNat ≤ 0 := by
      rw [sub_nonpos, le_div_iff₀ hpos]
      linarith
    have hnonpos : x ≤ 0 := succ_nonpos hx hgt.le
    have hzero : (if x < 0 then 0 else x) = 0 := by
      split
      · rfl
      · rename_i hge
        exact le_antisymm hnonpos (not_lt.mp hge)
    dsimp only
    rw [hzero, max_eq_left hshare, sub_zero, abs_zero]
    norm_num

/-! ## The figures of the block -/

/-- The figures are those of the run: the calls of `libnet_write`, the counted packets, and what
follows from them, the percentage to four decimals. -/
structure Truthful (g : State) (sent received : ℤ) (loss : LossReport) (rtt : Option RttReport) :
    Prop where
  sent : sent = g.written.length
  received : received = g.counted.length
  percent : |loss.percent - max 0 (100 - 100 * (g.counted.length : ℚ) / g.written.length)| ≤
    1 / 10000
  extra : loss.extra = max 0 ((g.counted.length : ℤ) - g.written.length)
  rtt : rtt.isSome = true ↔ g.counted ≠ []

/-- An `unsigned int` that counts, printed with `%d`. -/
theorem asInt_ofNat_eq_iff (n : ℕ) : asInt (UInt32.ofNat n) = n ↔ n < 2 ^ 31 := by
  rw [asInt_eq, UInt32.toNat_ofNat']
  have hmod : n % 2 ^ 32 ≤ n := Nat.mod_le _ _
  constructor
  · intro h
    split_ifs at h <;> omega
  · intro h
    rw [Nat.mod_eq_of_lt (by omega), if_pos h]

section

variable {cfg : Config} {s : Point × State}

/-- Both counters are counts modulo `2 ^ 32`. -/
theorem Reachable.counters (h : Reachable cfg s) :
    s.2.numsent = UInt32.ofNat s.2.written.length ∧ s.2.numsent.toNat = s.2.written.length ∧
      s.2.numrecvd = UInt32.ofNat s.2.counted.length := by
  obtain ⟨hs, js, hjs⟩ := h.explained
  have hsent : s.2.numsent = UInt32.ofNat s.2.written.length := by
    rw [hs.numsent, hs.written]
  have hlt : s.2.written.length < 2 ^ 32 := by
    have hbegun := hs.begun
    have hle := s.1.written_le_built.trans s.1.built_le_begun
    have hmax := cfg.maxcount.toNat_lt
    rw [hs.written]
    omega
  refine ⟨hsent, ?_, ?_⟩
  · rw [hsent, UInt32.toNat_ofNat_of_lt' hlt]
  · rw [hjs.numrecvd, hjs.counted, List.length_map]

/-- **The summary.** In every reachable situation with a request written, the figures that the
normal display would end with are those of the run if and only if there are fewer than `2 ^ 31`
writes and fewer than `2 ^ 31` counted replies, and replies above the writes make a difference of
the two numbers as `float`s. -/
theorem reachable_truthful_iff (hdisplay : cfg.display = .normal) (h : Reachable cfg s)
    (hwritten : s.2.written ≠ []) (target : String) :
    (∃ sent received loss rtt,
      statistics cfg target s.2 = some (some (.normal target sent received loss rtt)) ∧
        Truthful s.2 sent received loss rtt) ↔
      s.2.written.length < 2 ^ 31 ∧ s.2.counted.length < 2 ^ 31 ∧
        (s.2.counted.length ≤ s.2.written.length ∨
          float s.2.written.length < float s.2.counted.length) := by
  obtain ⟨hsent, hsentNat, hrecvd⟩ := h.counters
  have hne : s.2.numsent ≠ 0 := by
    intro hzero
    rw [hzero] at hsentNat
    exact hwritten (List.length_eq_zero_iff.mp hsentNat.symm)
  obtain ⟨loss, hloss, -, -, hextra⟩ := lossReport_of_ne_zero s.2.numrecvd hne
  have hrecvdNat : s.2.counted.length < 2 ^ 31 → s.2.numrecvd.toNat = s.2.counted.length := by
    intro hlt
    rw [hrecvd, UInt32.toNat_ofNat', Nat.mod_eq_of_lt (by omega)]
  unfold statistics
  rw [hdisplay, hloss]
  constructor
  · rintro ⟨sent, received, loss', rtt, heq, htruth⟩
    cases heq
    have h₁ := htruth.sent
    have h₂ := htruth.received
    rw [hsent, asInt_ofNat_eq_iff] at h₁
    rw [hrecvd, asInt_ofNat_eq_iff] at h₂
    rw [hsentNat, hrecvdNat h₂] at hextra
    exact ⟨h₁, h₂, (hextra.mp htruth.extra).imp_right And.left⟩
  · rintro ⟨hsentLt, hrecvdLt, hfloats⟩
    have hzero : s.2.numrecvd = 0 ↔ s.2.counted = [] := by
      rw [← UInt32.toNat_inj, hrecvdNat hrecvdLt, UInt32.toNat_zero, List.length_eq_zero_iff]
    rw [hsentNat, hrecvdNat hrecvdLt] at hextra
    refine ⟨_, _, _, _, rfl, ?_⟩
    constructor
    · rw [hsent]
      exact (asInt_ofNat_eq_iff _).mpr hsentLt
    · rw [hrecvd]
      exact (asInt_ofNat_eq_iff _).mpr hrecvdLt
    · rw [← hsentNat, ← hrecvdNat hrecvdLt]
      exact abs_percent_sub_le hloss
    · exact hextra.mpr (hfloats.imp_right fun hlt => ⟨hlt, by omega⟩)
    · rw [Option.isSome_ite, ne_eq, hzero]

end

/-- One request, answered. -/
theorem reachable_truthful_iff_once :
    let g := (pingLoop ipConfig (runOf [[arpReplyFrame 7]]) State.init).state.2
    (∃ sent received loss rtt,
      statistics ipConfig "10.0.0.1" g = some (some (.normal "10.0.0.1" sent received loss rtt)) ∧
        Truthful g sent received loss rtt) ↔
      g.written.length < 2 ^ 31 ∧ g.counted.length < 2 ^ 31 ∧
        (g.counted.length ≤ g.written.length ∨
          float g.written.length < float g.counted.length) := by
  intro g
  obtain ⟨pt, hreach⟩ := pingLoop_reachable ipConfig (runOf [[arpReplyFrame 7]])
  have hwritten : g.written ≠ [] := by decide +kernel
  exact reachable_truthful_iff rfl hreach hwritten "10.0.0.1"

end Arping
