import Arping.Lib.Scanf

/-!
# Integers in base 0

The integers that `strtol` reads with base 0 (`Integer`): the base shows in the text, as in a
constant of C. `strtol_text` says what `strtol` makes of them, `exists_integer` that it reads no
other string to its end.
-/

namespace CNumber

/-- The base of digits: 16 behind `0x`, 8 where they begin with 0, else 10. -/
def radixOf (base digits : List Char) : ℕ :=
  if base ≠ [] then 16 else if digits.head? = some '0' then 8 else 10

/-- An integer: white space, a sign, and digits of the base that shows. -/
structure Integer where
  blanks : List Char
  sgn : List Char
  base : List Char
  digits : List Char
  blanks_space : ∀ c ∈ blanks, isspace c = true
  sgn_mem : sgn = [] ∨ sgn = ['+'] ∨ sgn = ['-']
  base_mem : base = [] ∨ base = ['0', 'x'] ∨ base = ['0', 'X']
  digits_ne : digits ≠ []
  digits_radix : ∀ c ∈ digits, isDigit (radixOf base digits) c = true

namespace Integer

def radix (n : Integer) : ℕ := radixOf n.base n.digits

def text (n : Integer) : List Char := n.blanks ++ (n.sgn ++ (n.base ++ n.digits))

/-- The number with its sign. -/
def value (n : Integer) : ℤ :=
  if n.sgn = ['-'] then -(numeral n.radix n.digits : ℤ) else numeral n.radix n.digits

end Integer

/-! ## What `strtol` reads -/

theorem radixOf_le (base digits : List Char) : radixOf base digits ≤ 16 := by
  unfold radixOf
  split_ifs <;> omega

/-- Behind an octal or decimal first digit no `x` follows. -/
theorem skipHexPrefix_of_isDigit {b : ℕ} (hb : b ≤ 16) {ds : List Char}
    (hds : ∀ c ∈ ds, isDigit b c = true) : skipHexPrefix ds = ds := by
  apply skipHexPrefix_of_not
  rintro x u rfl hx
  have hxdigit := isxdigit_of_isDigit hb (hds x (by simp))
  obtain rfl | rfl := hx <;> exact absurd hxdigit (by decide)

namespace Integer

theorem text_ne_nil (n : Integer) : n.text ≠ [] := by
  simp [text, n.digits_ne]

theorem head_digits (n : Integer) :
    ∃ c t, n.base ++ n.digits = c :: t ∧ isxdigit c = true :=
  exists_head_hex n.base_mem n.digits_ne fun c hc =>
    isxdigit_of_isDigit (radixOf_le _ _) (n.digits_radix c hc)

theorem dropWhile_text (n : Integer) :
    n.text.dropWhile isspace = n.sgn ++ (n.base ++ n.digits) := by
  obtain ⟨c, t, hct, hc⟩ := n.head_digits
  rw [text, List.dropWhile_append_of_pos n.blanks_space, hct]
  exact dropWhile_sign_append n.sgn_mem (plain_of_isxdigit hc) t

theorem sign_dropWhile_text (n : Integer) :
    sign (n.text.dropWhile isspace) = (decide (n.sgn = ['-']), n.base ++ n.digits) := by
  obtain ⟨c, t, hct, hc⟩ := n.head_digits
  rw [n.dropWhile_text, hct]
  exact sign_append n.sgn_mem (plain_of_isxdigit hc) t

/-- The base is found, and what precedes the digits is skipped. -/
theorem autoBase_digits (n : Integer) : autoBase (n.base ++ n.digits) = n.radix ∧
    (if n.radix = 16 then skipHexPrefix (n.base ++ n.digits) else n.base ++ n.digits) =
      n.digits := by
  obtain hbase | hbase := n.base_mem
  · have hskip := skipHexPrefix_of_isDigit (radixOf_le _ _) n.digits_radix
    have hradix : n.radix = if n.digits.head? = some '0' then 8 else 10 := by
      rw [radix, radixOf, if_neg (not_not.mpr hbase)]
    rw [hbase, List.nil_append, autoBase, hskip, ite_self, hradix]
    exact ⟨if_neg fun h => h.1 rfl, rfl⟩
  · have hskip := skipHexPrefix_base hbase n.digits
    have hne : n.base ≠ [] := by
      obtain h | h := hbase <;> simp [h]
    have hradix : n.radix = 16 := if_pos hne
    obtain ⟨d, ds, hd⟩ := List.exists_cons_of_ne_nil n.digits_ne
    have hdigit : isxdigit d = true := by
      have h := n.digits_radix d (by simp [hd])
      rwa [show radixOf n.base n.digits = 16 from hradix] at h
    rw [autoBase, hskip, hradix, if_pos rfl]
    refine ⟨if_pos ⟨fun h => hne (List.self_eq_append_left.mp h), ?_⟩, rfl⟩
    rw [hd, List.head?_cons, Option.any_some, hdigit]

/-- An integer is read to its end, and cut to what a `long` holds. -/
theorem strtol_text (n : Integer) :
    strtol 0 n.text = (max longMin (min longMax n.value), []) := by
  obtain ⟨hbase, hdigits⟩ := n.autoBase_digits
  have hspan : n.digits.span (isDigit n.radix) = (n.digits, []) := span_all n.digits_radix
  unfold strtol
  rw [n.sign_dropWhile_text]
  simp only [if_true, hbase, hdigits, hspan, if_neg n.digits_ne, decide_eq_true_eq]
  rfl

end Integer

/-- What `strtol` skips to come to the digits, and the base it takes them in. -/
theorem autoBase_spec (u : List Char) :
    ∃ base, (base = [] ∨ base = ['0', 'x'] ∨ base = ['0', 'X']) ∧
      u = base ++ (if autoBase u = 16 then skipHexPrefix u else u) ∧
      radixOf base (if autoBase u = 16 then skipHexPrefix u else u) = autoBase u := by
  obtain ⟨base, hbase, hu, -⟩ := skipHexPrefix_spec u
  by_cases hhex : skipHexPrefix u ≠ u ∧ (skipHexPrefix u).head?.any isxdigit
  · have hauto : autoBase u = 16 := if_pos hhex
    have hne : base ≠ [] := by
      rintro rfl
      exact hhex.1 hu.symm
    rw [hauto, if_pos rfl]
    exact ⟨base, hbase, hu, if_pos hne⟩
  · have hauto : autoBase u = if u.head? = some '0' then 8 else 10 := if_neg hhex
    have hplain : autoBase u ≠ 16 := by
      rw [hauto]
      split_ifs <;> decide
    rw [if_neg hplain, hauto]
    exact ⟨[], Or.inl rfl, rfl, if_neg (not_not.mpr rfl)⟩

/-- What `strtol` reads to the end is an integer. -/
theorem exists_integer {s : List Char} (hne : s ≠ []) (h : (strtol 0 s).2 = []) :
    ∃ n : Integer, s = n.text := by
  obtain ⟨sgn, hsgn, -, hs⟩ := sign_spec (s.dropWhile isspace)
  obtain ⟨base, hbase, hu, hradix⟩ := autoBase_spec (sign (s.dropWhile isspace)).2
  unfold strtol at h
  simp only [if_true, List.span_eq_takeWhile_dropWhile] at h
  set u := (sign (s.dropWhile isspace)).2
  set t := if autoBase u = 16 then skipHexPrefix u else u
  split at h
  · exact absurd h hne
  · next hdigits =>
    have htake : t.takeWhile (isDigit (autoBase u)) = t := by
      have happend := List.takeWhile_append_dropWhile (p := isDigit (autoBase u)) (l := t)
      rwa [show t.dropWhile (isDigit (autoBase u)) = [] from h, List.append_nil] at happend
    rw [htake] at hdigits
    refine ⟨⟨s.takeWhile isspace, sgn, base, t, fun c hc => List.mem_takeWhile_imp hc, hsgn, hbase,
      hdigits, ?_⟩, ?_⟩
    · rw [hradix, ← htake]
      exact fun c hc => List.mem_takeWhile_imp hc
    · show s = s.takeWhile isspace ++ (sgn ++ (base ++ t))
      rw [← hu, ← hs, List.takeWhile_append_dropWhile]

end CNumber
