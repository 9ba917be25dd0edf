import Mathlib.Data.List.Induction
import Mathlib.Data.List.TakeDrop
import Mathlib.Data.List.TakeWhile
import Mathlib.Tactic.Common
import Arping.Lib.CNumber

/-!
# What `%x` matches

`scanHex` reads white space, a sign, `0x` and hexadecimal digits, of which only the digits must be
there. `HexNumber` is such a piece of text, and `scanHex_eq_some_iff` says which of them is read off
the front of a string. `Matches` is a format and the numbers that its conversions read; by
`Matches.sscanf` these are the values that `sscanf` assigns when no directive fails.
-/

namespace CNumber

/-! ## Characters -/

theorem char_le_iff {c d : Char} : c ≤ d ↔ c.toNat ≤ d.toNat := by
  rw [Char.le_def, UInt32.le_iff_toNat_le]
  rfl

theorem digitVal_lt_iff {c : Char} {n : ℕ} (hn : n ≤ 16) : digitVal c < n ↔
    (48 ≤ c.toNat ∧ c.toNat ≤ 57 ∧ c.toNat < 48 + n) ∨
    (97 ≤ c.toNat ∧ c.toNat < 87 + n) ∨ (65 ≤ c.toNat ∧ c.toNat < 55 + n) := by
  have h0 : '0'.toNat = 48 := rfl
  have h9 : '9'.toNat = 57 := rfl
  have ha : 'a'.toNat = 97 := rfl
  have hz : 'z'.toNat = 122 := rfl
  have hA : 'A'.toNat = 65 := rfl
  have hZ : 'Z'.toNat = 90 := rfl
  unfold digitVal
  simp only [char_le_iff]
  split_ifs <;> omega

theorem isxdigit_iff {c : Char} : isxdigit c = true ↔ (48 ≤ c.toNat ∧ c.toNat ≤ 57) ∨
    (97 ≤ c.toNat ∧ c.toNat ≤ 102) ∨ (65 ≤ c.toNat ∧ c.toNat ≤ 70) := by
  rw [isxdigit, isDigit, decide_eq_true_eq, digitVal_lt_iff (le_refl 16)]
  omega

theorem isspace_iff {c : Char} : isspace c = true ↔
    c.toNat = 32 ∨ (9 ≤ c.toNat ∧ c.toNat ≤ 13) := by
  have hspace : c = ' ' ↔ c.toNat = 32 := Char.toNat_inj.symm
  have ht : '\t'.toNat = 9 := rfl
  have hr : '\r'.toNat = 13 := rfl
  simp only [isspace, Bool.or_eq_true, Bool.and_eq_true, decide_eq_true_eq, char_le_iff, hspace, ht,
    hr]

theorem not_isspace_of_isxdigit {c : Char} (h : isxdigit c = true) : isspace c = false := by
  rw [← Bool.not_eq_true, isspace_iff]
  rw [isxdigit_iff] at h
  omega

theorem isxdigit_of_isDigit {b : ℕ} (hb : b ≤ 16) {c : Char} (h : isDigit b c = true) :
    isxdigit c = true := by
  unfold isxdigit isDigit at *
  rw [decide_eq_true_eq] at h ⊢
  omega

/-! ## Numbers -/

/-- A number as `%x` reads it: white space, a sign, `0x` and digits. -/
structure HexNumber where
  blanks : List Char
  sgn : List Char
  base : List Char
  digits : List Char
  blanks_space : ∀ c ∈ blanks, isspace c = true
  sgn_mem : sgn = [] ∨ sgn = ['+'] ∨ sgn = ['-']
  base_mem : base = [] ∨ base = ['0', 'x'] ∨ base = ['0', 'X']
  digits_ne : digits ≠ []
  digits_hex : ∀ c ∈ digits, isxdigit c = true

namespace HexNumber

/-- What counts towards a field width. -/
def item (n : HexNumber) : List Char := n.sgn ++ (n.base ++ n.digits)

def text (n : HexNumber) : List Char := n.blanks ++ n.item

def value (n : HexNumber) : UInt32 := storeHex (n.sgn = ['-']) (numeral 16 n.digits)

/-- What follows does not belong to the number: no digit, and no `x` behind a mere 0. -/
def Ends (n : HexNumber) (rest : List Char) : Prop :=
  ∀ c ∈ rest.head?, isxdigit c = false ∧
    (n.base = [] → n.digits = ['0'] → ¬ (c = 'x' ∨ c = 'X'))

/-- The number fits the field width, and ends there or in front of `rest`. -/
def Fits (n : HexNumber) (width : Option ℕ) (rest : List Char) : Prop :=
  (∀ w ∈ width, n.item.length ≤ w) ∧ (n.item.length ∈ width ∨ n.Ends rest)

end HexNumber

/-! ## Reading a number -/

/-- A character with which neither white space nor a sign begins. -/
def Plain (c : Char) : Prop := isspace c = false ∧ c ≠ '-' ∧ c ≠ '+'

instance : DecidablePred Plain := fun _ => by unfold Plain; infer_instance

theorem plain_of_isxdigit {c : Char} (h : isxdigit c = true) : Plain c := by
  refine ⟨not_isspace_of_isxdigit h, ?_, ?_⟩ <;>
    · rintro rfl
      exact absurd h (by decide)

theorem sign_append {sgn : List Char} (hsgn : sgn = [] ∨ sgn = ['+'] ∨ sgn = ['-']) {c : Char}
    (hc : Plain c) (t : List Char) :
    sign (sgn ++ c :: t) = (decide (sgn = ['-']), c :: t) := by
  obtain rfl | rfl | rfl := hsgn
  · have hm := hc.2.1
    have hp := hc.2.2
    rw [List.nil_append]
    unfold sign
    split <;> simp_all
  · rfl
  · rfl

theorem dropWhile_sign_append {sgn : List Char} (hsgn : sgn = [] ∨ sgn = ['+'] ∨ sgn = ['-'])
    {c : Char} (hc : Plain c) (t : List Char) :
    (sgn ++ c :: t).dropWhile isspace = sgn ++ c :: t := by
  obtain rfl | rfl | rfl := hsgn
  · exact List.dropWhile_cons_of_neg (by rw [hc.1]; decide)
  · rfl
  · rfl

theorem skipHexPrefix_of_not {s : List Char}
    (h : ∀ x u, s = '0' :: x :: u → ¬ (x = 'x' ∨ x = 'X')) : skipHexPrefix s = s := by
  unfold skipHexPrefix
  split
  · next x u => rw [if_neg (h x u rfl)]
  · rfl

theorem skipHexPrefix_base {base : List Char} (hbase : base = ['0', 'x'] ∨ base = ['0', 'X'])
    (t : List Char) : skipHexPrefix (base ++ t) = t := by
  obtain rfl | rfl := hbase <;> rfl

/-- With or without `0x`, a number begins with a digit. -/
theorem exists_head_hex {base digits : List Char}
    (hbase : base = [] ∨ base = ['0', 'x'] ∨ base = ['0', 'X']) (hne : digits ≠ [])
    (hhex : ∀ c ∈ digits, isxdigit c = true) :
    ∃ c t, base ++ digits = c :: t ∧ isxdigit c = true := by
  obtain ⟨d, ds, rfl⟩ := List.exists_cons_of_ne_nil hne
  obtain rfl | rfl | rfl := hbase
  · exact ⟨d, ds, rfl, hhex d List.mem_cons_self⟩
  · exact ⟨'0', _, List.cons_append, by decide⟩
  · exact ⟨'0', _, List.cons_append, by decide⟩

theorem span_append {p : Char → Bool} {ds t : List Char} (hds : ∀ c ∈ ds, p c = true)
    (ht : ∀ c ∈ t.head?, p c = false) : (ds ++ t).span p = (ds, t) := by
  rw [List.span_eq_takeWhile_dropWhile, List.takeWhile_append_of_pos hds,
    List.dropWhile_append_of_pos hds]
  cases t with
  | nil => simp
  | cons c t => simp [ht c rfl]

theorem span_all {p : Char → Bool} {ds : List Char} (hds : ∀ c ∈ ds, p c = true) :
    ds.span p = (ds, []) := by
  have h := span_append (t := []) hds (by simp)
  rwa [List.append_nil] at h

namespace HexNumber

/-- The first character behind the sign is a digit. -/
theorem head_digits (n : HexNumber) :
    ∃ c t, n.base ++ n.digits = c :: t ∧ isxdigit c = true :=
  exists_head_hex n.base_mem n.digits_ne n.digits_hex

theorem sign_item (n : HexNumber) (t : List Char) :
    sign (n.item ++ t) = (decide (n.sgn = ['-']), n.base ++ n.digits ++ t) := by
  obtain ⟨c, u, hcu, hc⟩ := n.head_digits
  rw [item, hcu, List.append_assoc]
  exact sign_append n.sgn_mem (plain_of_isxdigit hc) (u ++ t)

theorem dropWhile_item (n : HexNumber) (t : List Char) :
    (n.item ++ t).dropWhile isspace = n.item ++ t := by
  obtain ⟨c, u, hcu, hc⟩ := n.head_digits
  rw [item, hcu, List.append_assoc]
  exact dropWhile_sign_append n.sgn_mem (plain_of_isxdigit hc) (u ++ t)

theorem dropWhile_text (n : HexNumber) (t : List Char) :
    (n.text ++ t).dropWhile isspace = n.item ++ t := by
  rw [text, List.append_assoc, List.dropWhile_append_of_pos n.blanks_space, dropWhile_item]

theorem skipHexPrefix_digits (n : HexNumber) {t : List Char} (h : n.Ends t) :
    skipHexPrefix (n.base ++ n.digits ++ t) = n.digits ++ t := by
  rw [List.append_assoc]
  obtain hb | hb := n.base_mem
  · rw [hb, List.nil_append]
    apply skipHexPrefix_of_not
    intro x u hxu hx
    -- The second character is a digit, or follows the number.
    obtain ⟨d, ds, hd⟩ := List.exists_cons_of_ne_nil n.digits_ne
    rw [hd, List.cons_append, List.cons.injEq] at hxu
    obtain ⟨rfl, hxu⟩ := hxu
    cases ds with
    | nil => exact (h x (by rw [← List.nil_append t, hxu]; rfl)).2 hb hd hx
    | cons e es =>
      have he : isxdigit e = true := n.digits_hex e (by simp [hd])
      rw [List.cons_append, List.cons.injEq] at hxu
      rw [hxu.1] at he
      obtain rfl | rfl := hx <;> exact absurd he (by decide)
  · exact skipHexPrefix_base hb _

theorem span_digits (n : HexNumber) {t : List Char} (h : n.Ends t) :
    (n.digits ++ t).span isxdigit = (n.digits, t) :=
  span_append n.digits_hex fun c hc => (h c hc).1

end HexNumber

/-- The number at the front of a field: its value and the rest of the field. -/
def scanField (field : List Char) : Option (UInt32 × List Char) :=
  let digits := (skipHexPrefix (sign field).2).span isxdigit
  if digits.1 = [] then none
  else some (storeHex (sign field).1 (numeral 16 digits.1), digits.2)

theorem scanField_item (n : HexNumber) {t : List Char} (h : n.Ends t) :
    scanField (n.item ++ t) = some (n.value, t) := by
  unfold scanField
  rw [n.sign_item, n.skipHexPrefix_digits h, n.span_digits h]
  exact if_neg n.digits_ne

theorem sign_spec (s : List Char) : ∃ sgn, (sgn = [] ∨ sgn = ['+'] ∨ sgn = ['-']) ∧
    (sign s).1 = decide (sgn = ['-']) ∧ s = sgn ++ (sign s).2 := by
  unfold sign
  split
  · exact ⟨['-'], by simp, rfl, rfl⟩
  · exact ⟨['+'], by simp, rfl, rfl⟩
  · exact ⟨[], by simp, rfl, rfl⟩

theorem skipHexPrefix_spec (s : List Char) :
    ∃ base, (base = [] ∨ base = ['0', 'x'] ∨ base = ['0', 'X']) ∧ s = base ++ skipHexPrefix s ∧
      (base = [] → ∀ x u, s = '0' :: x :: u → ¬ (x = 'x' ∨ x = 'X')) := by
  unfold skipHexPrefix
  split
  · next x u =>
    by_cases hx : x = 'x' ∨ x = 'X'
    · rw [if_pos hx]
      exact ⟨['0', x], by simpa using hx, rfl, by simp⟩
    · rw [if_neg hx]
      refine ⟨[], by simp, rfl, ?_⟩
      rintro - y v hyv
      cases hyv
      exact hx
  · next hne =>
    exact ⟨[], by simp, rfl, fun _ x u hxu => absurd hxu (hne x u)⟩

theorem scanField_eq_some {f t : List Char} {v : UInt32} (h : scanField f = some (v, t)) :
    ∃ n : HexNumber, f = n.item ++ t ∧ v = n.value ∧ n.Ends t := by
  obtain ⟨sgn, hsgn, hneg, hf⟩ := sign_spec f
  obtain ⟨base, hbase, hu, hzero⟩ := skipHexPrefix_spec (sign f).2
  unfold scanField at h
  simp only [List.span_eq_takeWhile_dropWhile] at h
  set u := skipHexPrefix (sign f).2
  split at h
  · cases h
  · next hne =>
    rw [Option.some.injEq, Prod.mk.injEq] at h
    obtain ⟨rfl, rfl⟩ := h
    refine ⟨⟨[], sgn, base, u.takeWhile isxdigit, by simp, hsgn, hbase, hne,
      fun c hc => List.mem_takeWhile_imp hc⟩, ?_, ?_, ?_⟩
    · show f = sgn ++ (base ++ u.takeWhile isxdigit) ++ u.dropWhile isxdigit
      rw [List.append_assoc, List.append_assoc, List.takeWhile_append_dropWhile, ← hu, ← hf]
    · rw [HexNumber.value, hneg]
    · intro c hc
      refine ⟨?_, fun (hb : base = []) (hd : u.takeWhile isxdigit = ['0']) hx => ?_⟩
      · have hnot := List.head?_dropWhile_not isxdigit u
        rw [Option.mem_def.mp hc] at hnot
        simpa using hnot
      · -- A bare 0 with an `x` behind it would have been the `0x`.
        obtain ⟨w, hw⟩ := List.head?_eq_some_iff.mp (Option.mem_def.mp hc)
        refine hzero hb c w ?_ hx
        have hsplit : u.takeWhile isxdigit ++ u.dropWhile isxdigit = u :=
          List.takeWhile_append_dropWhile
        rw [hu, hb, List.nil_append, ← hsplit, hw, hd, List.singleton_append]

/-- The field of a conversion: what may belong to its number once the white space is skipped. -/
def field (width : Option ℕ) (s : List Char) : List Char := width.elim s s.take

theorem scanHex_eq (width : Option ℕ) (s : List Char) : scanHex width s =
    (scanField (field width (s.dropWhile isspace))).map fun x =>
      (x.1, x.2 ++ (s.dropWhile isspace).drop (field width (s.dropWhile isspace)).length) := by
  unfold scanHex scanField
  rw [apply_ite (Option.map _)]
  cases width <;> rfl

theorem HexNumber.ends_take {n : HexNumber} {t : List Char} {k : ℕ} (hk : k ≠ 0) :
    n.Ends (t.take k) ↔ n.Ends t := by
  unfold Ends
  rw [List.head?_take, if_neg hk]

/-- A number fits when the field holds it and does not go on behind it. -/
theorem HexNumber.fits_iff {n : HexNumber} {width : Option ℕ} {t : List Char} :
    n.Fits width t ↔ ∃ v, field width (n.item ++ t) = n.item ++ v ∧ n.Ends v := by
  cases width with
  | none =>
    constructor
    · rintro ⟨-, h | h⟩
      · cases h
      · exact ⟨t, rfl, h⟩
    · rintro ⟨v, hv, h⟩
      rw [← List.append_cancel_left hv] at h
      exact ⟨by simp, Or.inr h⟩
  | some k =>
    have hfield : field (some k) (n.item ++ t) = n.item.take k ++ t.take (k - n.item.length) :=
      List.take_append
    have hmem : n.item.length ∈ some k ↔ k - n.item.length = 0 ∧ n.item.length ≤ k := by
      rw [Option.mem_some_iff]
      omega
    have hle : (∀ w ∈ some k, n.item.length ≤ w) ↔ n.item.length ≤ k := by simp
    rw [hfield, Fits, hmem, hle]
    constructor
    · rintro ⟨hk, h⟩
      refine ⟨t.take (k - n.item.length), by rw [List.take_of_length_le hk], ?_⟩
      by_cases hj : k - n.item.length = 0
      · rw [hj, List.take_zero]
        intro c hc
        cases hc
      · rw [ends_take hj]
        exact h.resolve_left fun h => hj h.1
    · rintro ⟨v, hv, h⟩
      have hk : n.item.length ≤ k := by
        have hlen := congrArg List.length hv
        simp only [List.length_append, List.length_take] at hlen
        omega
      rw [List.take_of_length_le hk] at hv
      rw [← List.append_cancel_left hv] at h
      refine ⟨hk, ?_⟩
      by_cases hj : k - n.item.length = 0
      · exact Or.inl ⟨hj, hk⟩
      · exact Or.inr ((ends_take hj).mp h)

theorem field_append_drop (width : Option ℕ) (s : List Char) :
    field width s ++ s.drop (field width s).length = s := by
  rw [← List.prefix_iff_eq_append]
  cases width with
  | none => exact List.prefix_rfl
  | some k => exact List.take_prefix k s

/-- `%x` reads a number off the front of a string. -/
theorem scanHex_eq_some_iff {width : Option ℕ} {s t : List Char} {v : UInt32} :
    scanHex width s = some (v, t) ↔
      ∃ n : HexNumber, s = n.text ++ t ∧ v = n.value ∧ n.Fits width t := by
  rw [scanHex_eq]
  constructor
  · intro h
    obtain ⟨⟨x, r⟩, hx, hxt⟩ := Option.map_eq_some_iff.mp h
    rw [Prod.mk.injEq] at hxt
    obtain ⟨rfl, rfl⟩ := hxt
    obtain ⟨n, hf, hv, hr⟩ := scanField_eq_some hx
    have ht := field_append_drop width (s.dropWhile isspace)
    rw [hf, List.append_assoc] at ht
    refine ⟨{ n with
      blanks := s.takeWhile isspace
      blanks_space := fun c hc => List.mem_takeWhile_imp hc }, ?_, hv, ?_⟩
    · show s = s.takeWhile isspace ++ n.item ++ _
      rw [List.append_assoc, hf, ht, List.takeWhile_append_dropWhile]
    · rw [HexNumber.fits_iff]
      refine ⟨r, ?_, hr⟩
      show field width (n.item ++ _) = n.item ++ r
      rw [hf, ht, hf]
  · rintro ⟨n, rfl, rfl, h⟩
    obtain ⟨v, hv, hend⟩ := HexNumber.fits_iff.mp h
    have ht := field_append_drop width (n.item ++ t)
    rw [n.dropWhile_text, hv, scanField_item n hend]
    rw [hv, List.append_assoc] at ht
    exact congrArg (fun r => some (n.value, r)) (List.append_cancel_left ht)

/-! ## Formats -/

/-- The numbers that a format reads when none of its directives fails. -/
inductive Matches : List Directive → List Char → List HexNumber → Prop
  | done (s : List Char) : Matches [] s []
  | lit {c : Char} {ds : List Directive} {s : List Char} {ns : List HexNumber}
      (h : Matches ds s ns) : Matches (.lit c :: ds) (c :: s) ns
  | hex {w : Option ℕ} {ds : List Directive} {t : List Char} {ns : List HexNumber} {n : HexNumber}
      (hn : n.Fits w t) (h : Matches ds t ns) : Matches (.hex w :: ds) (n.text ++ t) (n :: ns)

/-- How many values a format assigns. -/
def conversions : List Directive → ℕ
  | [] => 0
  | .lit _ :: ds => conversions ds
  | .hex _ :: ds => conversions ds + 1

theorem Matches.length {ds : List Directive} {s : List Char} {ns : List HexNumber}
    (h : Matches ds s ns) : ns.length = conversions ds := by
  induction h with
  | done s => rfl
  | lit _ ih => exact ih
  | hex _ _ ih => rw [List.length_cons, ih, conversions]

theorem sscanf_hex {w : Option ℕ} {ds : List Directive} {s t : List Char} {v : UInt32}
    (h : scanHex w s = some (v, t)) : sscanf (.hex w :: ds) s = v :: sscanf ds t := by
  rw [sscanf, h]

theorem sscanf_hex_of_none {w : Option ℕ} {ds : List Directive} {s : List Char}
    (h : scanHex w s = none) : sscanf (.hex w :: ds) s = [] := by
  rw [sscanf, h]

theorem sscanf_lit (c : Char) (ds : List Directive) (s : List Char) :
    sscanf (.lit c :: ds) (c :: s) = sscanf ds s := by
  rw [sscanf, List.head?_cons, if_pos rfl, List.tail_cons]

theorem Matches.sscanf {ds : List Directive} {s : List Char} {ns : List HexNumber}
    (h : Matches ds s ns) : sscanf ds s = ns.map HexNumber.value := by
  induction h with
  | done s => rfl
  | lit _ ih => rw [sscanf_lit, ih]
  | hex hn _ ih => rw [sscanf_hex (scanHex_eq_some_iff.mpr ⟨_, rfl, rfl, hn⟩), ih, List.map_cons]

theorem conversions_append_hex (ds : List Directive) (w : Option ℕ) :
    conversions (ds ++ [.hex w]) ≠ 0 := by
  induction ds with
  | nil => simp [conversions]
  | cons d ds ih => cases d <;> simp [conversions, ih]

/-- A conversion that succeeds reads a number, and the format goes on behind it. -/
theorem exists_of_length_hex {w : Option ℕ} {ds : List Directive} {s : List Char}
    (h : (sscanf (.hex w :: ds) s).length = conversions ds + 1) : ∃ n : HexNumber, ∃ t,
      s = n.text ++ t ∧ n.Fits w t ∧ (sscanf ds t).length = conversions ds := by
  cases hscan : scanHex w s with
  | none =>
    rw [sscanf_hex_of_none hscan] at h
    cases h
  | some x =>
    obtain ⟨v, t⟩ := x
    obtain ⟨n, hs, -, hn⟩ := scanHex_eq_some_iff.mp hscan
    rw [sscanf_hex hscan, List.length_cons] at h
    exact ⟨n, t, hs, hn, Nat.succ.inj h⟩

/-- When a format ends in a conversion and assigns all its values, no directive has failed. -/
theorem matches_of_length {w : Option ℕ} {ds : List Directive} {s : List Char}
    (h : (sscanf (ds ++ [.hex w]) s).length = conversions (ds ++ [.hex w])) :
    ∃ ns, Matches (ds ++ [.hex w]) s ns := by
  induction ds generalizing s with
  | nil =>
    obtain ⟨n, t, rfl, hn, -⟩ := exists_of_length_hex h
    exact ⟨[n], .hex hn (.done t)⟩
  | cons d ds ih =>
    cases d with
    | lit c =>
      rw [List.cons_append, sscanf] at h
      split at h
      · next hc =>
        obtain ⟨t, rfl⟩ := List.head?_eq_some_iff.mp hc
        obtain ⟨ns, hns⟩ := ih h
        exact ⟨ns, .lit hns⟩
      · exact absurd h.symm (conversions_append_hex ds w)
    | hex v =>
      obtain ⟨n, t, rfl, hn, ht⟩ := exists_of_length_hex h
      obtain ⟨ns, hns⟩ := ih ht
      exact ⟨n :: ns, .hex hn hns⟩

/-- `%x` and then `k` more with `sep` before each. -/
def joinedFormat (sep : Char) : ℕ → List Directive
  | 0 => [.hex none]
  | k + 1 => .hex none :: .lit sep :: joinedFormat sep k

/-- What no number goes on with. -/
def Separator (c : Char) : Prop := isxdigit c = false ∧ ¬ (c = 'x' ∨ c = 'X')

instance : DecidablePred Separator := fun _ => by unfold Separator; infer_instance

theorem HexNumber.ends_cons (n : HexNumber) {c : Char} (t : List Char) (h : Separator c) :
    n.Ends (c :: t) := by
  intro d hd
  cases hd
  exact ⟨h.1, fun _ _ => h.2⟩

@[simp] theorem HexNumber.fits_none {n : HexNumber} {t : List Char} : n.Fits none t ↔ n.Ends t := by
  simp [Fits]

theorem HexNumber.text_ne_nil (n : HexNumber) : n.text ≠ [] := by
  simp [text, item, n.digits_ne]

/-- Whether a number fits depends on what comes right behind it. -/
theorem HexNumber.fits_append {n : HexNumber} {w : Option ℕ} {u : List Char} (hu : u ≠ [])
    (t : List Char) : n.Fits w (u ++ t) ↔ n.Fits w u := by
  unfold Fits Ends
  rw [List.head?_append_of_ne_nil _ hu]

/-- The numbers joined by `sep`, and anything that does not belong to the last. -/
def Joined (sep : Char) (s : List Char) (ns : List HexNumber) : Prop :=
  ∃ t, s = [sep].intercalate (ns.map HexNumber.text) ++ t ∧ ∀ n ∈ ns.getLast?, n.Ends t

theorem joined_singleton_iff {sep : Char} {s : List Char} {n : HexNumber} :
    Joined sep s [n] ↔ ∃ t, s = n.text ++ t ∧ n.Ends t := by
  simp [Joined]

theorem joined_cons_iff {sep : Char} {s : List Char} {n : HexNumber} {ns : List HexNumber}
    (hns : ns ≠ []) : Joined sep s (n :: ns) ↔ ∃ u, s = n.text ++ sep :: u ∧ Joined sep u ns := by
  have hmap : ns.map HexNumber.text ≠ [] := by simpa using hns
  have hlast : (n :: ns).getLast? = ns.getLast? := by
    rw [List.getLast?_cons_of_ne_nil hns]
  unfold Joined
  rw [hlast, List.map_cons, List.intercalate_cons_of_ne_nil hmap]
  constructor
  · rintro ⟨t, rfl, ht⟩
    exact ⟨[sep].intercalate (ns.map HexNumber.text) ++ t, by simp, t, rfl, ht⟩
  · rintro ⟨u, rfl, t, rfl, ht⟩
    exact ⟨t, by simp, ht⟩

theorem matches_joinedFormat_iff {sep : Char} (hsep : Separator sep) {k : ℕ} {s : List Char}
    {ns : List HexNumber} :
    Matches (joinedFormat sep k) s ns ↔ ns.length = k + 1 ∧ Joined sep s ns := by
  induction k generalizing s ns with
  | zero =>
    constructor
    · intro h
      cases h with
      | hex hn h =>
        cases h
        exact ⟨rfl, joined_singleton_iff.mpr ⟨_, rfl, HexNumber.fits_none.mp hn⟩⟩
    · rintro ⟨hlen, h⟩
      obtain ⟨n, rfl⟩ := List.length_eq_one_iff.mp hlen
      obtain ⟨t, rfl, hn⟩ := joined_singleton_iff.mp h
      exact .hex (HexNumber.fits_none.mpr hn) (.done t)
  | succ k ih =>
    constructor
    · intro h
      cases h with
      | hex hn h =>
        cases h with
        | lit h =>
          obtain ⟨hlen, hjoined⟩ := ih.mp h
          refine ⟨by rw [List.length_cons, hlen], ?_⟩
          rw [joined_cons_iff (List.ne_nil_of_length_eq_add_one hlen)]
          exact ⟨_, rfl, hjoined⟩
    · rintro ⟨hlen, h⟩
      obtain ⟨n, ns, rfl⟩ := List.exists_cons_of_length_eq_add_one hlen
      have hns : ns.length = k + 1 := Nat.succ.inj hlen
      obtain ⟨u, rfl, hu⟩ := (joined_cons_iff (List.ne_nil_of_length_eq_add_one hns)).mp h
      exact .hex (HexNumber.fits_none.mpr (n.ends_cons u hsep)) (.lit (ih.mpr ⟨hns, hu⟩))

/-! ## The characters of a number -/

/-- White space, signs, the `x` of the prefix and digits. -/
theorem HexNumber.mem_text {n : HexNumber} {c : Char} (h : c ∈ n.text) :
    isspace c = true ∨ c ∈ ['+', '-', 'x', 'X'] ∨ isxdigit c = true := by
  simp only [text, item, List.mem_append] at h
  obtain h | h | h | h := h
  · exact Or.inl (n.blanks_space c h)
  · obtain hs | hs | hs := n.sgn_mem <;> rw [hs] at h <;> simp at h <;> simp [h]
  · have hzero : isxdigit '0' = true := by decide
    obtain hb | hb | hb := n.base_mem <;> rw [hb] at h <;> simp at h <;>
      obtain rfl | rfl := h <;> simp [hzero]
  · exact Or.inr (Or.inr (n.digits_hex c h))

theorem HexNumber.count_dash_text (n : HexNumber) : n.text.count '-' ≤ 1 := by
  have hblanks : n.blanks.count '-' = 0 :=
    List.count_eq_zero.mpr fun h => absurd (n.blanks_space _ h) (by decide)
  have hdigits : n.digits.count '-' = 0 :=
    List.count_eq_zero.mpr fun h => absurd (n.digits_hex _ h) (by decide)
  have hbase : n.base.count '-' = 0 := by
    obtain h | h | h := n.base_mem <;> rw [h] <;> decide
  have hsgn : n.sgn.count '-' ≤ 1 := by
    obtain h | h | h := n.sgn_mem <;> rw [h] <;> decide
  rw [text, item, List.count_append, List.count_append, List.count_append]
  omega

/-! ## Plain digits -/

theorem HexNumber.ends_nil (n : HexNumber) : n.Ends [] := by
  intro c hc
  cases hc

/-- Digits alone are a number. -/
def HexNumber.ofDigits (ds : List Char) (hne : ds ≠ []) (hhex : ∀ c ∈ ds, isxdigit c = true) :
    HexNumber where
  blanks := []
  sgn := []
  base := []
  digits := ds
  blanks_space := by simp
  sgn_mem := Or.inl rfl
  base_mem := Or.inl rfl
  digits_ne := hne
  digits_hex := hhex

/-- Strings of digits, as numbers. -/
theorem exists_ofDigits {fields : List (List Char)}
    (h : ∀ ds ∈ fields, ds ≠ [] ∧ ∀ c ∈ ds, isxdigit c = true) : ∃ ns : List HexNumber,
      ns.map HexNumber.item = fields ∧ ns.map HexNumber.text = fields ∧
      ns.map HexNumber.value = fields.map fun ds => storeHex false (numeral 16 ds) := by
  induction fields with
  | nil => exact ⟨[], rfl, rfl, rfl⟩
  | cons ds fields ih =>
    rw [List.forall_mem_cons] at h
    obtain ⟨ns, hitem, htext, hvalue⟩ := ih h.2
    refine ⟨.ofDigits ds h.1.1 h.1.2 :: ns, ?_, ?_, ?_⟩
    · rw [List.map_cons, hitem]
      rfl
    · rw [List.map_cons, htext]
      rfl
    · rw [List.map_cons, hvalue]
      rfl

theorem numeral_append (b : ℕ) (s : List Char) (c : Char) :
    numeral b (s ++ [c]) = b * numeral b s + digitVal c := by
  rw [numeral, List.foldl_append, ← numeral, List.foldl_cons, List.foldl_nil]

theorem numeral_lt {b : ℕ} {s : List Char} (h : ∀ c ∈ s, isDigit b c = true) :
    numeral b s < b ^ s.length := by
  induction s using List.reverseRecOn with
  | nil => simp [numeral]
  | append_singleton s c ih =>
    have hs : numeral b s + 1 ≤ b ^ s.length := ih fun d hd => h d (by simp [hd])
    have hc : digitVal c < b := by simpa [isDigit] using h c (by simp)
    rw [numeral_append, List.length_append, List.length_singleton, pow_succ, mul_comm _ b]
    calc b * numeral b s + digitVal c < b * numeral b s + b := Nat.add_lt_add_left hc _
      _ = b * (numeral b s + 1) := (Nat.mul_succ b _).symm
      _ ≤ b * b ^ s.length := Nat.mul_le_mul_left b hs

end CNumber
