import Mathlib.Algebra.Order.Field.Basic
import Arping.Lib.Scanf

/-!
# Decimal notation

The decimal notations of integers (`Decimal`) and of rationals (`Scientific`), and that `atoi` and
`atof` read them: `atoi_text` for integers that an `int` holds, `atof_text` for all numbers.
-/

namespace CNumber

theorem plain_of_isDigit {c : Char} (h : isDigit 10 c = true) : Plain c :=
  plain_of_isxdigit (isxdigit_of_isDigit (by decide) h)

/-! ## Integers -/

/-- An integer: an optional sign and digits. -/
structure Decimal where
  sgn : List Char
  digits : List Char
  sgn_mem : sgn = [] ∨ sgn = ['+'] ∨ sgn = ['-']
  digits_ne : digits ≠ []
  digits_dec : ∀ c ∈ digits, isDigit 10 c = true

namespace Decimal

def text (n : Decimal) : List Char := n.sgn ++ n.digits

/-- The number with its sign. -/
def value (n : Decimal) : ℤ :=
  if n.sgn = ['-'] then -(numeral 10 n.digits : ℤ) else numeral 10 n.digits

theorem exists_digits (n : Decimal) : ∃ c t, n.digits = c :: t ∧ Plain c := by
  obtain ⟨c, t, h⟩ := List.exists_cons_of_ne_nil n.digits_ne
  exact ⟨c, t, h, plain_of_isDigit (n.digits_dec c (by simp [h]))⟩

theorem sign_text (n : Decimal) : sign n.text = (decide (n.sgn = ['-']), n.digits) := by
  obtain ⟨c, t, hdigits, hc⟩ := n.exists_digits
  rw [text, hdigits, sign_append n.sgn_mem hc]

theorem strtol_text (n : Decimal) :
    (strtol 10 n.text).1 = max longMin (min longMax n.value) := by
  obtain ⟨c, t, hdigits, hc⟩ := n.exists_digits
  have hspan : (c :: t).span (isDigit 10) = (c :: t, []) := hdigits ▸ span_all n.digits_dec
  unfold strtol
  rw [text, value, hdigits, dropWhile_sign_append n.sgn_mem hc, sign_append n.sgn_mem hc]
  simp only [OfNat.ofNat_ne_zero, if_false, Nat.reduceEqDiff, hspan, List.cons_ne_nil,
    decide_eq_true_eq]

/-- `atoi` reads the integers that an `int` holds. -/
theorem atoi_text (n : Decimal) (hlow : -2 ^ 31 ≤ n.value) (hhigh : n.value < 2 ^ 31) :
    (atoi n.text).toInt = n.value := by
  have hmax : max longMin (min longMax n.value) = n.value := by
    unfold longMin longMax
    omega
  rw [atoi, n.strtol_text, hmax, Int32.toInt_ofInt_of_le hlow hhigh]

end Decimal

/-! ## Rationals -/

/-- The exponent of a number: its letter and an integer. -/
structure Exponent where
  letter : Char
  letter_eq : letter = 'e' ∨ letter = 'E'
  exp : Decimal

/-- A number: an optional sign, digits with an optional point among or behind them, and an optional
exponent. -/
structure Scientific where
  sgn : List Char
  int : List Char
  frac : Option (List Char)
  exp : Option Exponent
  sgn_mem : sgn = [] ∨ sgn = ['+'] ∨ sgn = ['-']
  int_dec : ∀ c ∈ int, isDigit 10 c = true
  frac_dec : ∀ ds ∈ frac, ∀ c ∈ ds, isDigit 10 c = true
  digits_ne : int ++ frac.getD [] ≠ []

namespace Scientific

def fracText (n : Scientific) : List Char := (n.frac.map fun ds => '.' :: ds).getD []

def expText (n : Scientific) : List Char := (n.exp.map fun e => e.letter :: e.exp.text).getD []

def text (n : Scientific) : List Char := n.sgn ++ (n.int ++ (n.fracText ++ n.expText))

/-- The digits of the fraction. -/
def places (n : Scientific) : List Char := n.frac.getD []

def exponent (n : Scientific) : ℤ := (n.exp.map fun e => e.exp.value).getD 0

/-- The number without its sign. -/
def magnitude (n : Scientific) : ℚ :=
  numeral 10 (n.int ++ n.places) * 10 ^ (n.exponent - n.places.length)

/-- The number denoted. -/
def value (n : Scientific) : ℚ := if n.sgn = ['-'] then -n.magnitude else n.magnitude

theorem exponent_expText (n : Scientific) : CNumber.exponent n.expText = n.exponent := by
  cases he : n.exp with
  | none => simp [expText, exponent, he, CNumber.exponent]
  | some e =>
    have hdigits : e.exp.digits.takeWhile (isDigit 10) = e.exp.digits :=
      List.takeWhile_eq_self_iff.mpr e.exp.digits_dec
    rw [expText, exponent, he, Option.map_some, Option.map_some, Option.getD_some,
      Option.getD_some, CNumber.exponent, if_pos e.letter_eq, e.exp.sign_text]
    simp only [hdigits, decide_eq_true_eq]
    rfl

/-- Behind the digits stands no further digit, and no point. -/
theorem head_expText (n : Scientific) :
    ∀ c ∈ n.expText.head?, isDigit 10 c = false ∧ c ≠ '.' := by
  cases he : n.exp with
  | none => simp [expText, he]
  | some e =>
    intro c hc
    have hletter : c = e.letter := by simpa [expText, he, eq_comm] using hc
    obtain h | h := e.letter_eq <;> rw [hletter, h] <;> decide

theorem fraction_of_ne {s : List Char} (h : ∀ c ∈ s.head?, c ≠ '.') : fraction s = ([], s) := by
  unfold fraction
  split
  · exact absurd rfl (h '.' rfl)
  · rfl

theorem fraction_text (n : Scientific) :
    fraction (n.fracText ++ n.expText) = (n.places, n.expText) := by
  have hend := n.head_expText
  cases hf : n.frac with
  | none =>
    rw [fracText, places, hf]
    exact fraction_of_ne fun c hc => (hend c hc).2
  | some ds =>
    rw [fracText, places, hf]
    exact span_append (n.frac_dec ds hf) fun c hc => (hend c hc).1

/-- The first character behind the sign is a digit or the point. -/
theorem exists_head (n : Scientific) :
    ∃ c t, n.int ++ (n.fracText ++ n.expText) = c :: t ∧ Plain c := by
  cases hint : n.int with
  | nil =>
    cases hf : n.frac with
    | none => exact absurd (by rw [hint, hf]; rfl) n.digits_ne
    | some ds => exact ⟨'.', ds ++ n.expText, by rw [fracText, hf]; rfl, by decide⟩
  | cons c t => exact ⟨c, _, rfl, plain_of_isDigit (n.int_dec c (by simp [hint]))⟩

theorem span_int (n : Scientific) :
    (n.int ++ (n.fracText ++ n.expText)).span (isDigit 10) =
      (n.int, n.fracText ++ n.expText) := by
  apply span_append n.int_dec
  cases hf : n.frac with
  | none =>
    rw [fracText, hf]
    exact fun c hc => (n.head_expText c hc).1
  | some ds =>
    rw [fracText, hf]
    intro c hc
    cases hc
    decide

/-- `atof` reads every number. -/
theorem atof_text (n : Scientific) : atof n.text = n.value := by
  obtain ⟨c, t, hct, hc⟩ := n.exists_head
  have hspan := n.span_int
  have hfrac := n.fraction_text
  have hexp := n.exponent_expText
  rw [hct] at hspan
  unfold atof
  rw [text, hct, dropWhile_sign_append n.sgn_mem hc, sign_append n.sgn_mem hc]
  simp only [hspan, hfrac, hexp, decide_eq_true_eq]
  exact if_neg n.digits_ne

end Scientific

end CNumber
