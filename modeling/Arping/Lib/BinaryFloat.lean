import Mathlib.Algebra.Order.Field.Power
import Mathlib.Data.Int.Log
import Mathlib.Data.Rat.Floor
import Mathlib.Tactic.FieldSimp
import Mathlib.Tactic.Linarith
import Mathlib.Tactic.NormNum
import Mathlib.Tactic.Positivity
import Mathlib.Tactic.Ring

/-!
# Rounding to a binary format

`nearest p x` is the number of `p` significant bits that is nearest to the rational `x`, a tie going
to the even one: what IEEE arithmetic makes of an exact result `x`, as long as the exponent stays
in range (exponents have no bounds here). That no number of the format is nearer
(`abs_nearest_sub_le`) makes rounding monotone and leaves the numbers of the format as they are;
that it is off by half a unit in the last place (`abs_nearest_sub_le_div`) keeps the sign.
-/

namespace BinaryFloat

/-- What is at least as near to `x` as a number above `x` is not above that number. -/
theorem le_of_abs_sub_le {r x y : ℚ} (hnear : |r - x| ≤ |y - x|) (h : x ≤ y) : r ≤ y := by
  rw [abs_of_nonneg (sub_nonneg.mpr h)] at hnear
  linarith [le_abs_self (r - x)]

theorem ge_of_abs_sub_le {r x y : ℚ} (hnear : |r - x| ≤ |y - x|) (h : y ≤ x) : y ≤ r := by
  rw [abs_of_nonpos (sub_nonpos.mpr h)] at hnear
  linarith [neg_le_abs (r - x)]

/-! ## To an integer -/

/-- The nearest integer, of two the even one. -/
def nearestEven (x : ℚ) : ℤ :=
  if Int.fract x < 1 / 2 ∨ (Int.fract x = 1 / 2 ∧ Even ⌊x⌋) then ⌊x⌋ else ⌊x⌋ + 1

theorem nearestEven_intCast (n : ℤ) : nearestEven n = n := by
  unfold nearestEven
  rw [if_pos (Or.inl (by rw [Int.fract_intCast]; norm_num)), Int.floor_intCast]

theorem abs_nearestEven_sub_le_half (x : ℚ) : |(nearestEven x : ℚ) - x| ≤ 1 / 2 := by
  have hsplit := Int.floor_add_fract x
  have hlow := Int.fract_nonneg x
  have hhigh := Int.fract_lt_one x
  unfold nearestEven
  split
  · rename_i h
    have hhalf : Int.fract x ≤ 1 / 2 := h.elim le_of_lt fun h => h.1.le
    rw [abs_le]
    constructor <;> linarith
  · rename_i h
    have hhalf : 1 / 2 ≤ Int.fract x := not_lt.mp fun hlt => h (Or.inl hlt)
    push_cast
    rw [abs_le]
    constructor <;> linarith

/-- Another integer is at least half a unit off. -/
theorem abs_nearestEven_sub_le (x : ℚ) (n : ℤ) : |(nearestEven x : ℚ) - x| ≤ |(n : ℚ) - x| := by
  have hhalf := abs_nearestEven_sub_le_half x
  rcases eq_or_ne (nearestEven x) n with heq | hne
  · rw [heq]
  · have hunit : (1 : ℚ) ≤ |(n : ℚ) - nearestEven x| := by
      rw [← Int.cast_sub, ← Int.cast_abs]
      exact_mod_cast Int.one_le_abs (sub_ne_zero.mpr hne.symm)
    have htriangle := abs_sub_le (n : ℚ) x (nearestEven x)
    rw [abs_sub_comm x] at htriangle
    linarith

/-! ## To `p` significant bits -/

/-- The unit in the last of `p` bits. -/
def ulp (p : ℕ) (x : ℚ) : ℚ := 2 ^ (Int.log 2 |x| + 1 - p)

/-- The nearest number of `p` significant bits. -/
def nearest (p : ℕ) (x : ℚ) : ℚ := nearestEven (x / ulp p x) * ulp p x

/-- A number of `p` significant bits; `2 ^ p` has one. -/
def InFormat (p : ℕ) (x : ℚ) : Prop := ∃ m e : ℤ, x = m * 2 ^ e ∧ |m| ≤ 2 ^ p

theorem inFormat_natCast {p n : ℕ} (h : n ≤ 2 ^ p) : InFormat p n := by
  refine ⟨n, 0, by simp, ?_⟩
  rw [Nat.abs_cast]
  exact_mod_cast h

theorem inFormat_zero (p : ℕ) : InFormat p 0 := ⟨0, 0, by simp, by simp⟩

theorem InFormat.intCast_mul {p q : ℕ} {x : ℚ} (hx : InFormat p x) {k : ℤ}
    (h : |k| * 2 ^ p ≤ 2 ^ q) : InFormat q (k * x) := by
  obtain ⟨m, e, rfl, hm⟩ := hx
  refine ⟨k * m, e, by push_cast; ring, ?_⟩
  rw [abs_mul]
  exact (mul_le_mul_of_nonneg_left hm (abs_nonneg k)).trans h

theorem ulp_pos (p : ℕ) (x : ℚ) : 0 < ulp p x := zpow_pos two_pos _

theorem nearest_zero (p : ℕ) : nearest p 0 = 0 := by
  unfold nearest
  rw [zero_div, ← Int.cast_zero, nearestEven_intCast, Int.cast_zero, zero_mul]

/-- A distance from `x`, in units of the last place. -/
theorem abs_mul_ulp_sub (p : ℕ) (x y : ℚ) : |y * ulp p x - x| = |y - x / ulp p x| * ulp p x := by
  have hpos := ulp_pos p x
  rw [← abs_of_pos hpos, ← abs_mul, abs_of_pos hpos, sub_mul, div_mul_cancel₀ _ hpos.ne']

theorem abs_nearest_sub_le_intCast (p : ℕ) (x : ℚ) (n : ℤ) :
    |nearest p x - x| ≤ |n * ulp p x - x| := by
  unfold nearest
  rw [abs_mul_ulp_sub, abs_mul_ulp_sub]
  exact mul_le_mul_of_nonneg_right (abs_nearestEven_sub_le _ n) (ulp_pos p x).le

/-- The relative error. -/
theorem abs_nearest_sub_le_div (p : ℕ) (x : ℚ) : |nearest p x - x| ≤ |x| / 2 ^ p := by
  rcases eq_or_ne x 0 with rfl | hx
  · rw [nearest_zero, sub_self, abs_zero, zero_div]
  · have hlog : (2 : ℚ) ^ Int.log 2 |x| ≤ |x| := by
      exact_mod_cast Int.zpow_log_le_self one_lt_two (abs_pos.mpr hx)
    have hulp : ulp p x = 2 * 2 ^ Int.log 2 |x| / 2 ^ p := by
      unfold ulp
      rw [zpow_sub₀ two_ne_zero, zpow_add_one₀ two_ne_zero, zpow_natCast, mul_comm]
    calc |nearest p x - x|
        = |(nearestEven (x / ulp p x) : ℚ) - x / ulp p x| * ulp p x := abs_mul_ulp_sub p x _
      _ ≤ 1 / 2 * ulp p x :=
          mul_le_mul_of_nonneg_right (abs_nearestEven_sub_le_half _) (ulp_pos p x).le
      _ = 2 ^ Int.log 2 |x| / 2 ^ p := by rw [hulp]; ring
      _ ≤ |x| / 2 ^ p := by gcongr

/-- The result is in the format, also where it is carried to the next power of two. -/
theorem inFormat_nearest (p : ℕ) (x : ℚ) : InFormat p (nearest p x) := by
  refine ⟨nearestEven (x / ulp p x), _, rfl, ?_⟩
  have hunits : |x / ulp p x| ≤ ((2 ^ p : ℤ) : ℚ) := by
    have hlog := Int.lt_zpow_succ_log_self one_lt_two |x|
    rw [abs_div, abs_of_pos (ulp_pos p x), div_le_iff₀ (ulp_pos p x)]
    unfold ulp
    push_cast at hlog ⊢
    rw [← zpow_natCast, ← zpow_add₀ two_ne_zero, add_sub_cancel]
    exact hlog.le
  rw [abs_le] at hunits ⊢
  constructor
  · have hlow : ((-2 ^ p : ℤ) : ℚ) ≤ x / ulp p x := by
      rw [Int.cast_neg]
      exact hunits.1
    exact_mod_cast ge_of_abs_sub_le (abs_nearestEven_sub_le _ _) hlow
  · exact_mod_cast le_of_abs_sub_le (abs_nearestEven_sub_le _ _) hunits.2

/-- An integer is rounded to an integer. -/
theorem exists_intCast_nearest (p : ℕ) (n : ℤ) : ∃ k : ℤ, nearest p n = k := by
  rcases le_or_gt 0 (Int.log 2 |(n : ℚ)| + 1 - p) with hle | hlt
  · refine ⟨nearestEven (n / ulp p n) * 2 ^ (Int.log 2 |(n : ℚ)| + 1 - p).toNat, ?_⟩
    push_cast
    rw [← zpow_natCast, Int.toNat_of_nonneg hle]
    rfl
  · -- the unit divides 1
    have hquot : (n : ℚ) / ulp p n =
        ((n * 2 ^ (-(Int.log 2 |(n : ℚ)| + 1 - p)).toNat : ℤ) : ℚ) := by
      unfold ulp
      push_cast
      rw [← zpow_natCast, Int.toNat_of_nonneg (by omega), zpow_neg, div_eq_mul_inv]
    refine ⟨n, ?_⟩
    unfold nearest
    rw [hquot, nearestEven_intCast, ← hquot, div_mul_cancel₀ _ (ulp_pos p n).ne']

section Nearest

variable {p : ℕ} (hp : 0 < p) {x y : ℚ}

include hp

/-- The power of two below `x`, with the sign of `x`, is a number of units in the last place. -/
theorem abs_nearest_sub_le_pow (hx : x ≠ 0) :
    |nearest p x - x| ≤ |x| - 2 ^ Int.log 2 |x| := by
  have hlog : (2 : ℚ) ^ Int.log 2 |x| ≤ |x| := by
    exact_mod_cast Int.zpow_log_le_self one_lt_two (abs_pos.mpr hx)
  have hunits : ((2 ^ (p - 1) : ℤ) : ℚ) * ulp p x = 2 ^ Int.log 2 |x| := by
    unfold ulp
    push_cast
    rw [← zpow_natCast, ← zpow_add₀ two_ne_zero]
    congr 1
    omega
  rcases lt_or_gt_of_ne hx with hneg | hpos
  · have hbound := abs_nearest_sub_le_intCast p x (-2 ^ (p - 1))
    rw [Int.cast_neg, neg_mul, hunits] at hbound
    have hsign : 0 ≤ -2 ^ Int.log 2 |x| - x := by
      rw [abs_of_neg hneg] at hlog ⊢
      linarith
    rw [abs_of_nonneg hsign] at hbound
    linarith [neg_le_abs x]
  · have hbound := abs_nearest_sub_le_intCast p x (2 ^ (p - 1))
    rw [hunits] at hbound
    have hsign : 2 ^ Int.log 2 |x| - x ≤ 0 := by
      rw [abs_of_pos hpos] at hlog ⊢
      linarith
    rw [abs_of_nonpos hsign] at hbound
    linarith [le_abs_self x]

/-- No number of the format is nearer. One whose exponent is below the unit in the last place of `x`
is not above the power of two below `x`. -/
theorem abs_nearest_sub_le (hy : InFormat p y) (x : ℚ) : |nearest p x - x| ≤ |y - x| := by
  rcases eq_or_ne x 0 with rfl | hx
  · rw [nearest_zero, sub_self, abs_zero]
    exact abs_nonneg _
  obtain ⟨m, e, rfl, hm⟩ := hy
  rcases le_or_gt (Int.log 2 |x| + 1 - p) e with hle | hlt
  · have hmul : (m : ℚ) * 2 ^ e =
        ((m * 2 ^ (e - (Int.log 2 |x| + 1 - p)).toNat : ℤ) : ℚ) * ulp p x := by
      unfold ulp
      push_cast
      rw [mul_assoc, ← zpow_natCast, ← zpow_add₀ two_ne_zero, Int.toNat_of_nonneg (by omega),
        sub_add_cancel]
    rw [hmul]
    exact abs_nearest_sub_le_intCast p x _
  · have hm' : |(m : ℚ)| ≤ 2 ^ (p : ℤ) := by
      rw [zpow_natCast]
      exact_mod_cast hm
    have hsmall : |(m : ℚ) * 2 ^ e| ≤ 2 ^ Int.log 2 |x| :=
      calc |(m : ℚ) * 2 ^ e| = |(m : ℚ)| * 2 ^ e := by
            rw [abs_mul, abs_of_pos (zpow_pos (two_pos : (0 : ℚ) < 2) e)]
        _ ≤ 2 ^ (p : ℤ) * 2 ^ e := by gcongr
        _ = 2 ^ (p + e) := (zpow_add₀ two_ne_zero _ _).symm
        _ ≤ 2 ^ Int.log 2 |x| := zpow_le_zpow_right₀ one_le_two (by omega)
    calc |nearest p x - x| ≤ |x| - 2 ^ Int.log 2 |x| := abs_nearest_sub_le_pow hp hx
      _ ≤ |x| - |(m : ℚ) * 2 ^ e| := by linarith
      _ ≤ |(m : ℚ) * 2 ^ e - x| := by
          rw [abs_sub_comm _ x]
          exact abs_sub_abs_le_abs_sub x _

theorem nearest_eq_self (hx : InFormat p x) : nearest p x = x := by
  have h := abs_nearest_sub_le hp hx x
  rw [sub_self, abs_zero] at h
  exact sub_eq_zero.mp (abs_nonpos_iff.mp h)

theorem nearest_le (hy : InFormat p y) (h : x ≤ y) : nearest p x ≤ y :=
  le_of_abs_sub_le (abs_nearest_sub_le hp hy x) h

theorem le_nearest (hy : InFormat p y) (h : y ≤ x) : y ≤ nearest p x :=
  ge_of_abs_sub_le (abs_nearest_sub_le hp hy x) h

/-- Rounding is monotone: results that cross would each be nearer to the other argument. -/
theorem nearest_mono (h : x ≤ y) : nearest p x ≤ nearest p y := by
  rcases le_or_gt x (nearest p y) with hx | hx
  · exact nearest_le hp (inFormat_nearest p y) hx
  rcases le_or_gt (nearest p x) y with hy | hy
  · exact le_nearest hp (inFormat_nearest p x) hy
  have hnearX := abs_nearest_sub_le hp (inFormat_nearest p y) x
  have hnearY := abs_nearest_sub_le hp (inFormat_nearest p x) y
  rw [abs_of_nonpos (sub_nonpos.mpr hx.le)] at hnearX
  rw [abs_of_nonneg (sub_nonneg.mpr hy.le)] at hnearY
  have heq : x = y := by
    linarith [le_abs_self (nearest p x - x), neg_le_abs (nearest p y - y)]
  rw [heq]

/-- The sign is kept. -/
theorem nearest_neg_iff : nearest p x < 0 ↔ x < 0 := by
  constructor
  · intro h
    exact lt_of_not_ge fun hge => h.not_ge (le_nearest hp (inFormat_zero p) hge)
  · intro h
    have herror := abs_nearest_sub_le_div p x
    have hpow : (1 : ℚ) < 2 ^ p := one_lt_pow₀ one_lt_two hp.ne'
    have hsmall : |x| / 2 ^ p < |x| := div_lt_self (abs_pos.mpr h.ne) hpow
    rw [abs_of_neg h] at herror hsmall
    linarith [le_abs_self (nearest p x - x)]

end Nearest

end BinaryFloat
