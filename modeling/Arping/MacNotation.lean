import Arping.Lib.Scanf
import Arping.MacAddr

/-!
# Reading back MAC addresses

What the three formats of `get_mac_addr` match, and the main result `getMacAddr_reads`: a MAC
address in cisco-style, in windows-style or as six hexadecimal numbers joined by `:` or by `-` is
decoded to its octets, and so is the output of `format_mac`.
-/

namespace Arping

open CNumber

/-! ## What the formats match -/

/-- Three groups between dots, each of a number with at most two characters and another number, and
anything behind. -/
def Dotted (s : List Char) (ns : List HexNumber) : Prop :=
  ∃ a b c d e f : HexNumber, ∃ t, ns = [a, b, c, d, e, f] ∧
    s = a.text ++ (b.text ++ '.' :: (c.text ++ (d.text ++ '.' :: (e.text ++ (f.text ++ t))))) ∧
    a.Fits (some 2) b.text ∧ c.Fits (some 2) d.text ∧ e.Fits (some 2) f.text ∧ f.Ends t

theorem separator_colon : Separator ':' := by decide
theorem separator_dash : Separator '-' := by decide
theorem separator_dot : Separator '.' := by decide

theorem macFormats_eq : macFormats =
    [joinedFormat ':' 5, [.hex (some 2), .hex none, .lit '.', .hex (some 2), .hex none, .lit '.',
      .hex (some 2), .hex none], joinedFormat '-' 5] := rfl

/-- A group: a number of at most two characters and one that ends where the format goes on. -/
theorem matches_group {a b : HexNumber} {ds : List Directive} {u : List Char} {ns : List HexNumber}
    (ha : a.Fits (some 2) b.text) (hb : b.Ends u) (h : Matches ds u ns) :
    Matches (.hex (some 2) :: .hex none :: ds) (a.text ++ (b.text ++ u)) (a :: b :: ns) :=
  .hex ((HexNumber.fits_append b.text_ne_nil u).mpr ha) (.hex (HexNumber.fits_none.mpr hb) h)

theorem matches_dotted_iff {s : List Char} {ns : List HexNumber} :
    Matches [.hex (some 2), .hex none, .lit '.', .hex (some 2), .hex none, .lit '.', .hex (some 2),
      .hex none] s ns ↔ Dotted s ns := by
  constructor
  · intro h
    obtain _ | _ | ⟨ha, h⟩ := h
    obtain _ | _ | ⟨-, h⟩ := h
    obtain _ | ⟨h⟩ | _ := h
    obtain _ | _ | ⟨hc, h⟩ := h
    obtain _ | _ | ⟨-, h⟩ := h
    obtain _ | ⟨h⟩ | _ := h
    obtain _ | _ | ⟨he, h⟩ := h
    obtain _ | _ | ⟨hf, h⟩ := h
    obtain _ | _ | _ := h
    rw [HexNumber.fits_append (HexNumber.text_ne_nil _)] at ha hc he
    exact ⟨_, _, _, _, _, _, _, rfl, rfl, ha, hc, he, HexNumber.fits_none.mp hf⟩
  · rintro ⟨a, b, c, d, e, f, t, rfl, rfl, ha, hc, he, hf⟩
    exact matches_group ha (b.ends_cons _ separator_dot) (.lit
      (matches_group hc (d.ends_cons _ separator_dot) (.lit (matches_group he hf (.done t)))))

/-! ## What `get_mac_addr` decodes -/

/-- The addresses the values of six numbers make, reduced to bytes. -/
def toMac (ns : List HexNumber) : Mac :=
  Vector.ofFn fun i : Fin 6 => ((ns.map HexNumber.value).getD i 0).toUInt8

/-- Some format of `get_mac_addr` matches, with these numbers. -/
def Loose (s : List Char) (ns : List HexNumber) : Prop :=
  (ns.length = 6 ∧ Joined ':' s ns) ∨ Dotted s ns ∨ (ns.length = 6 ∧ Joined '-' s ns)

/-- One format of `get_mac_addr`: the address, where all conversions are done. -/
def tryFormat (s : List Char) (format : List Directive) : Option Mac :=
  if (sscanf format s).length = 6 then
    some (Vector.ofFn fun i : Fin 6 => ((sscanf format s).getD i 0).toUInt8)
  else none

theorem getMacAddr_eq (s : String) : getMacAddr s = macFormats.findSome? (tryFormat s.toList) := rfl

theorem tryFormat_of_matches {s : List Char} {format : List Directive} {ns : List HexNumber}
    (hc : conversions format = 6) (h : Matches format s ns) :
    tryFormat s format = some (toMac ns) := by
  have hlen : (ns.map HexNumber.value).length = 6 := by rw [List.length_map, h.length, hc]
  unfold tryFormat
  rw [h.sscanf, if_pos hlen, toMac]

theorem tryFormat_eq_some_iff (ds : List Directive) (w : Option ℕ) {s : List Char} {m : Mac}
    (hc : conversions (ds ++ [.hex w]) = 6) :
    tryFormat s (ds ++ [.hex w]) = some m ↔ ∃ ns, Matches (ds ++ [.hex w]) s ns ∧ m = toMac ns := by
  constructor
  · intro h
    have hlen : (sscanf (ds ++ [.hex w]) s).length = 6 := by
      by_contra hne
      rw [tryFormat, if_neg hne] at h
      cases h
    obtain ⟨ns, hns⟩ := matches_of_length (hlen.trans hc.symm)
    rw [tryFormat_of_matches hc hns] at h
    exact ⟨ns, hns, (Option.some.inj h).symm⟩
  · rintro ⟨ns, hns, rfl⟩
    exact tryFormat_of_matches hc hns

theorem tryFormat_joined_iff {s : List Char} {sep : Char} {m : Mac} (hsep : Separator sep) :
    tryFormat s (joinedFormat sep 5) = some m ↔
      ∃ ns, (ns.length = 6 ∧ Joined sep s ns) ∧ m = toMac ns := by
  simp only [← matches_joinedFormat_iff hsep]
  exact tryFormat_eq_some_iff [.hex none, .lit sep, .hex none, .lit sep, .hex none, .lit sep,
    .hex none, .lit sep, .hex none, .lit sep] none rfl

theorem tryFormat_dotted_iff {s : List Char} {m : Mac} :
    tryFormat s [.hex (some 2), .hex none, .lit '.', .hex (some 2), .hex none, .lit '.',
      .hex (some 2), .hex none] = some m ↔ ∃ ns, Dotted s ns ∧ m = toMac ns := by
  simp only [← matches_dotted_iff]
  exact tryFormat_eq_some_iff [.hex (some 2), .hex none, .lit '.', .hex (some 2), .hex none,
    .lit '.', .hex (some 2)] none rfl

/-- `get_mac_addr` fails exactly where no format matches. -/
theorem getMacAddr_eq_none_iff {s : String} :
    getMacAddr s = none ↔ ¬ ∃ ns, Loose s.toList ns := by
  have hnone : ∀ format, tryFormat s.toList format = none ↔
      ∀ m, tryFormat s.toList format ≠ some m := fun format => Option.eq_none_iff_forall_ne_some
  rw [getMacAddr_eq, macFormats_eq, List.findSome?_eq_none_iff]
  simp only [List.forall_mem_cons, List.not_mem_nil, false_imp_iff, implies_true, and_true, hnone,
    ne_eq, tryFormat_joined_iff separator_colon, tryFormat_joined_iff separator_dash,
    tryFormat_dotted_iff, Loose]
  constructor
  · rintro ⟨h1, h2, h3⟩ ⟨ns, h | h | h⟩
    · exact h1 _ ⟨ns, h, rfl⟩
    · exact h2 _ ⟨ns, h, rfl⟩
    · exact h3 _ ⟨ns, h, rfl⟩
  · intro h
    refine ⟨?_, ?_, ?_⟩ <;> rintro _ ⟨ns, hns, -⟩
    · exact h ⟨ns, Or.inl hns⟩
    · exact h ⟨ns, Or.inr (Or.inl hns)⟩
    · exact h ⟨ns, Or.inr (Or.inr hns)⟩

/-- Numbers that are joined have their separator between them. -/
theorem mem_of_joined {sep : Char} {s : List Char} {ns : List HexNumber} (hlen : ns.length = 6)
    (h : Joined sep s ns) : sep ∈ s := by
  obtain ⟨n, ns, rfl⟩ := List.exists_cons_of_length_eq_add_one hlen
  have hns : ns ≠ [] := List.ne_nil_of_length_eq_add_one (Nat.succ.inj hlen)
  obtain ⟨u, rfl, -⟩ := (joined_cons_iff hns).mp h
  simp

theorem mem_of_dotted {s : List Char} {ns : List HexNumber} (h : Dotted s ns) : '.' ∈ s := by
  obtain ⟨a, b, c, d, e, f, t, -, rfl, -⟩ := h
  simp

theorem getMacAddr_of_colon {s : String} {ns : List HexNumber} (hlen : ns.length = 6)
    (h : Joined ':' s.toList ns) : getMacAddr s = some (toMac ns) := by
  have hfirst := (tryFormat_joined_iff separator_colon).mpr ⟨ns, ⟨hlen, h⟩, rfl⟩
  rw [getMacAddr_eq, macFormats_eq, List.findSome?_cons, hfirst]

theorem tryFormat_colon_of_not_mem {s : List Char} (h : ':' ∉ s) :
    tryFormat s (joinedFormat ':' 5) = none := by
  rw [Option.eq_none_iff_forall_ne_some]
  intro m hm
  obtain ⟨ns, ⟨hlen, hns⟩, -⟩ := (tryFormat_joined_iff separator_colon).mp hm
  exact h (mem_of_joined hlen hns)

theorem tryFormat_dotted_of_not_mem {s : List Char} (h : '.' ∉ s) :
    tryFormat s [.hex (some 2), .hex none, .lit '.', .hex (some 2), .hex none, .lit '.',
      .hex (some 2), .hex none] = none := by
  rw [Option.eq_none_iff_forall_ne_some]
  intro m hm
  obtain ⟨ns, hns, -⟩ := tryFormat_dotted_iff.mp hm
  exact h (mem_of_dotted hns)

/-- Without a colon the first format stops part-way. -/
theorem getMacAddr_of_dotted {s : String} {ns : List HexNumber} (hcolon : ':' ∉ s.toList)
    (h : Dotted s.toList ns) : getMacAddr s = some (toMac ns) := by
  rw [getMacAddr_eq, macFormats_eq, List.findSome?_cons, tryFormat_colon_of_not_mem hcolon,
    List.findSome?_cons, tryFormat_dotted_iff.mpr ⟨ns, h, rfl⟩]

/-- Without a colon or a point the first two formats stop part-way. -/
theorem getMacAddr_of_dash {s : String} {ns : List HexNumber} (hcolon : ':' ∉ s.toList)
    (hdot : '.' ∉ s.toList) (hlen : ns.length = 6) (h : Joined '-' s.toList ns) :
    getMacAddr s = some (toMac ns) := by
  rw [getMacAddr_eq, macFormats_eq, List.findSome?_cons, tryFormat_colon_of_not_mem hcolon,
    List.findSome?_cons, tryFormat_dotted_of_not_mem hdot, List.findSome?_cons,
    (tryFormat_joined_iff separator_dash).mpr ⟨ns, ⟨hlen, h⟩, rfl⟩]

/-! ## The notations of a MAC address -/

/-- Hexadecimal digits that spell an octet, with any number of leading zeros. -/
def Spells (ds : List Char) (o : UInt8) : Prop :=
  ds ≠ [] ∧ (∀ c ∈ ds, isxdigit c = true) ∧ numeral 16 ds = o.toNat

-- `all` is evaluated over the list, where `∀ c ∈ ds` may be over all characters
instance (ds : List Char) (o : UInt8) : Decidable (Spells ds o) :=
  decidable_of_iff (ds ≠ [] ∧ ds.all isxdigit = true ∧ numeral 16 ds = o.toNat) (by
    simp only [Spells, List.all_eq_true])

/-- Six hexadecimal numbers joined by `sep`. -/
def JoinedNotation (sep : Char) (s : List Char) (m : Mac) : Prop :=
  ∃ fields, s = [sep].intercalate fields ∧ List.Forall₂ Spells fields m.toList

/-- `hhhh.hhhh.hhhh`. -/
def CiscoNotation (s : List Char) (m : Mac) : Prop :=
  ∃ a b c d e f : List Char, s = ['.'].intercalate [a ++ b, c ++ d, e ++ f] ∧
    (∀ ds ∈ [a, b, c, d, e, f], ds.length = 2) ∧ List.Forall₂ Spells [a, b, c, d, e, f] m.toList

/-- `hh-hh-hh-hh-hh-hh`. -/
def WindowsNotation (s : List Char) (m : Mac) : Prop :=
  ∃ fields, s = ['-'].intercalate fields ∧ (∀ ds ∈ fields, ds.length = 2) ∧
    List.Forall₂ Spells fields m.toList

theorem WindowsNotation.joinedNotation {s : List Char} {m : Mac} (h : WindowsNotation s m) :
    JoinedNotation '-' s m := by
  obtain ⟨fields, hs, -, hspells⟩ := h
  exact ⟨fields, hs, hspells⟩

/-- The octets that the hexadecimal digits of a string spell in order, two digits each. -/
def hexOctets (s : List Char) : Mac :=
  Vector.ofFn fun i : Fin 6 => UInt8.ofNat (numeral 16 (((s.filter isxdigit).drop (2 * i)).take 2))

theorem grouped_iff {period : ℕ} {sep : Char} {p : List Char} :
    grouped period sep p = true ↔ ∀ i c, p[i]? = some c →
      if i % period = period - 1 then c = sep else isxdigit c = true := by
  rw [grouped, List.all_eq_true]
  constructor
  · intro h i c hc
    have hx := h (c, i) (List.mem_zipIdx_iff_getElem?.mpr hc)
    split <;> simp_all
  · rintro h ⟨c, i⟩ hx
    have hc := h i c (List.mem_zipIdx_iff_getElem?.mp hx)
    split at hc <;> simp_all

/-- Before the first separator of a grouped string are digits. -/
theorem isxdigit_of_mem_take {w : ℕ} {sep : Char} {p : List Char}
    (h : grouped (w + 1) sep p = true) : ∀ c ∈ p.take w, isxdigit c = true := by
  intro c hc
  obtain ⟨i, hi, rfl⟩ := List.getElem_of_mem hc
  rw [List.length_take] at hi
  have hx := grouped_iff.mp h i p[i] (List.getElem?_eq_getElem (by omega))
  rw [Nat.add_sub_cancel, Nat.mod_eq_of_lt (by omega), if_neg (by omega)] at hx
  rwa [List.getElem_take]

theorem grouped_drop {w : ℕ} {sep : Char} {p : List Char} (h : grouped (w + 1) sep p = true) :
    grouped (w + 1) sep (p.drop (w + 1)) = true := by
  rw [grouped_iff] at h ⊢
  intro i c hc
  rw [List.getElem?_drop] at hc
  have hx := h (w + 1 + i) c hc
  rwa [Nat.add_mod_left] at hx

/-- A grouped string is made of fields of digits with `sep` between them. -/
theorem exists_fields_of_grouped {w k : ℕ} {sep : Char} {p : List Char}
    (hlen : p.length = (w + 1) * k + w) (h : grouped (w + 1) sep p = true) :
    ∃ fields, fields.length = k + 1 ∧ p = [sep].intercalate fields ∧
      ∀ ds ∈ fields, ds.length = w ∧ ∀ c ∈ ds, isxdigit c = true := by
  induction k generalizing p with
  | zero =>
    rw [Nat.mul_zero, Nat.zero_add] at hlen
    have hdigits := isxdigit_of_mem_take h
    rw [List.take_of_length_le hlen.le] at hdigits
    exact ⟨[p], rfl, by simp, List.forall_mem_singleton.mpr ⟨hlen, hdigits⟩⟩
  | succ k ih =>
    rw [Nat.mul_succ] at hlen
    have hw : w < p.length := by omega
    have hsep : p[w] = sep := by
      have hx := grouped_iff.mp h w p[w] (List.getElem?_eq_getElem hw)
      rwa [Nat.add_sub_cancel, Nat.mod_eq_of_lt (by omega), if_pos rfl] at hx
    have hsplit : p = p.take w ++ sep :: p.drop (w + 1) := by
      rw [← hsep, ← List.drop_eq_getElem_cons hw, List.take_append_drop]
    obtain ⟨fields, hfields, hp, hall⟩ := ih (by rw [List.length_drop]; omega) (grouped_drop h)
    have hne : fields ≠ [] := List.ne_nil_of_length_eq_add_one hfields
    refine ⟨p.take w :: fields, by rw [List.length_cons, hfields], ?_, ?_⟩
    · rw [List.intercalate_cons_of_ne_nil hne, ← hp, List.append_assoc, List.singleton_append]
      exact hsplit
    · rw [List.forall_mem_cons]
      exact ⟨⟨by rw [List.length_take]; omega, isxdigit_of_mem_take h⟩, hall⟩

/-- Conversely, one more field. -/
theorem grouped_cons {w : ℕ} {sep : Char} {ds p : List Char} (hlen : ds.length = w)
    (hds : ∀ c ∈ ds, isxdigit c = true) (h : grouped (w + 1) sep p = true) :
    grouped (w + 1) sep (ds ++ sep :: p) = true := by
  rw [grouped_iff] at h ⊢
  intro i c hc
  rw [Nat.add_sub_cancel]
  rcases Nat.lt_trichotomy i w with hlt | rfl | hgt
  · rw [List.getElem?_append_left (by omega)] at hc
    rw [Nat.mod_eq_of_lt (by omega), if_neg hlt.ne]
    exact hds c (List.mem_of_getElem? hc)
  · rw [List.getElem?_append_right (by omega), hlen, Nat.sub_self, List.getElem?_cons_zero,
      Option.some.injEq] at hc
    rw [Nat.mod_eq_of_lt (by omega), if_pos rfl, hc]
  · obtain ⟨j, rfl⟩ := Nat.exists_eq_add_of_le (Nat.succ_le_of_lt hgt)
    rw [List.getElem?_append_right (by omega), hlen,
      show w.succ + j - w = j + 1 by omega, List.getElem?_cons_succ] at hc
    have hx := h j c hc
    rwa [Nat.add_sub_cancel, ← Nat.add_mod_left (w + 1) j] at hx

/-- Fields of `w` digits with `sep` between them are a grouped string. -/
theorem grouped_intercalate {w : ℕ} (sep : Char) {fields : List (List Char)}
    (h : ∀ ds ∈ fields, ds.length = w ∧ ∀ c ∈ ds, isxdigit c = true) (hne : fields ≠ []) :
    ([sep].intercalate fields).length + 1 = (w + 1) * fields.length ∧
      grouped (w + 1) sep ([sep].intercalate fields) = true := by
  induction fields with
  | nil => exact absurd rfl hne
  | cons ds fields ih =>
    rw [List.forall_mem_cons] at h
    obtain ⟨⟨hlen, hds⟩, hall⟩ := h
    by_cases hfields : fields = []
    · subst hfields
      rw [List.intercalate_singleton]
      refine ⟨by simp [hlen], grouped_iff.mpr fun i c hc => ?_⟩
      have hi := (List.getElem?_eq_some_iff.mp hc).1
      rw [Nat.add_sub_cancel, Nat.mod_eq_of_lt (by omega), if_neg (by omega)]
      exact hds c (List.mem_of_getElem? hc)
    · obtain ⟨ihlen, ihgrouped⟩ := ih hall hfields
      rw [List.intercalate_cons_of_ne_nil hfields, List.append_assoc, List.singleton_append]
      refine ⟨?_, grouped_cons hlen hds ihgrouped⟩
      rw [List.length_append, List.length_cons, List.length_cons, ihlen, hlen, Nat.mul_succ]
      omega

/-- Two hexadecimal digits spell an octet. -/
theorem spells_pair {ds : List Char} (hlen : ds.length = 2) (h : ∀ c ∈ ds, isxdigit c = true) :
    Spells ds (UInt8.ofNat (numeral 16 ds)) := by
  have hlt : numeral 16 ds < 16 ^ 2 := hlen ▸ numeral_lt h
  refine ⟨List.ne_nil_of_length_eq_add_one hlen, h, ?_⟩
  rw [UInt8.toNat_ofNat', Nat.mod_eq_of_lt (by omega)]

theorem hexOctets_spec {s : List Char} {a b c d e f : List Char}
    (hs : s.filter isxdigit = a ++ b ++ c ++ d ++ e ++ f)
    (h : ∀ ds ∈ [a, b, c, d, e, f], ds.length = 2 ∧ ∀ x ∈ ds, isxdigit x = true) :
    List.Forall₂ Spells [a, b, c, d, e, f] (hexOctets s).toList := by
  have hoctets : (hexOctets s).toList = [a, b, c, d, e, f].map fun ds =>
      UInt8.ofNat (numeral 16 ds) := by
    simp only [List.forall_mem_cons] at h
    obtain ⟨⟨ha, -⟩, ⟨hb, -⟩, ⟨hc, -⟩, ⟨hd, -⟩, ⟨he, -⟩, ⟨hf, -⟩, -⟩ := h
    obtain ⟨a0, a1, rfl⟩ := List.length_eq_two.mp ha
    obtain ⟨b0, b1, rfl⟩ := List.length_eq_two.mp hb
    obtain ⟨c0, c1, rfl⟩ := List.length_eq_two.mp hc
    obtain ⟨d0, d1, rfl⟩ := List.length_eq_two.mp hd
    obtain ⟨e0, e1, rfl⟩ := List.length_eq_two.mp he
    obtain ⟨f0, f1, rfl⟩ := List.length_eq_two.mp hf
    rw [hexOctets, hs]
    rfl
  rw [hoctets, List.forall₂_map_right_iff]
  exact List.forall₂_same.mpr fun ds hds => spells_pair (h ds hds).1 (h ds hds).2

theorem filter_intercalate {sep : Char} {fields : List (List Char)} (hsep : isxdigit sep = false)
    (h : ∀ ds ∈ fields, ∀ c ∈ ds, isxdigit c = true) :
    ([sep].intercalate fields).filter isxdigit = fields.flatten := by
  induction fields with
  | nil => rfl
  | cons ds fields ih =>
    rw [List.forall_mem_cons] at h
    have hds : ds.filter isxdigit = ds := List.filter_eq_self.mpr h.1
    by_cases hne : fields = []
    · rw [hne]
      simpa using h.1
    · rw [List.intercalate_cons_of_ne_nil hne, List.filter_append, List.filter_append, hds, ih h.2]
      simp [hsep]

theorem exists_of_length_six {α : Type} {l : List α} (h : l.length = 6) :
    ∃ a b c d e f, l = [a, b, c, d, e, f] := by
  obtain ⟨a, l, rfl⟩ := List.exists_cons_of_length_eq_add_one h
  obtain ⟨b, l, rfl⟩ := List.exists_cons_of_length_eq_add_one (Nat.succ.inj h)
  obtain ⟨c, d, e, f, rfl⟩ := List.length_eq_four.mp (Nat.succ.inj (Nat.succ.inj h))
  exact ⟨a, b, c, d, e, f, rfl⟩

theorem windowsNotation_of_grouped {s : List Char} (hlen : s.length = 6 * 3 - 1)
    (h : grouped 3 '-' s = true) : WindowsNotation s (hexOctets s) := by
  obtain ⟨fields, hk, hs, hall⟩ := exists_fields_of_grouped (w := 2) (k := 5) hlen h
  obtain ⟨a, b, c, d, e, f, rfl⟩ := exists_of_length_six hk
  refine ⟨_, hs, fun ds hds => (hall ds hds).1, hexOctets_spec ?_ hall⟩
  rw [hs, filter_intercalate (by decide) fun ds hds => (hall ds hds).2]
  simp

theorem exists_halves {ds : List Char}
    (h : ds.length = 4 ∧ ∀ c ∈ ds, isxdigit c = true) : ∃ a b : List Char, ds = a ++ b ∧
      (a.length = 2 ∧ ∀ c ∈ a, isxdigit c = true) ∧
        (b.length = 2 ∧ ∀ c ∈ b, isxdigit c = true) := by
  refine ⟨ds.take 2, ds.drop 2, (List.take_append_drop 2 ds).symm, ⟨?_, ?_⟩, ?_, ?_⟩
  · rw [List.length_take, h.1]
    rfl
  · exact fun c hc => h.2 c (List.mem_of_mem_take hc)
  · rw [List.length_drop, h.1]
  · exact fun c hc => h.2 c (List.mem_of_mem_drop hc)

theorem ciscoNotation_of_grouped {s : List Char} (hlen : s.length = 3 * 5 - 1)
    (h : grouped 5 '.' s = true) : CiscoNotation s (hexOctets s) := by
  obtain ⟨fields, hk, hs, hall⟩ := exists_fields_of_grouped (w := 4) (k := 2) hlen h
  obtain ⟨x, y, z, rfl⟩ := List.length_eq_three.mp hk
  simp only [List.forall_mem_cons] at hall
  obtain ⟨hx, hy, hz, -⟩ := hall
  obtain ⟨a, b, rfl, ha, hb⟩ := exists_halves hx
  obtain ⟨c, d, rfl, hc, hd⟩ := exists_halves hy
  obtain ⟨e, f, rfl, he, hf⟩ := exists_halves hz
  have hpairs : ∀ ds ∈ [a, b, c, d, e, f], ds.length = 2 ∧ ∀ x ∈ ds, isxdigit x = true := by
    simp only [List.forall_mem_cons]
    exact ⟨ha, hb, hc, hd, he, hf, by simp⟩
  refine ⟨a, b, c, d, e, f, hs, fun ds hds => (hpairs ds hds).1, hexOctets_spec ?_ hpairs⟩
  rw [hs, filter_intercalate (by decide) ?_]
  · simp
  · simp only [List.forall_mem_cons]
    exact ⟨hx.2, hy.2, hz.2, by simp⟩

/-! ## Decoding -/

theorem storeHex_of_spells {ds : List Char} {o : UInt8} (h : Spells ds o) :
    (storeHex false (numeral 16 ds)).toUInt8 = o := by
  have ho := o.toNat_lt
  rw [h.2.2, storeHex, if_neg (by omega), if_neg (by decide)]
  simp

theorem map_of_spells {fields : List (List Char)} {os : List UInt8}
    (h : List.Forall₂ Spells fields os) :
    fields.map (UInt32.toUInt8 ∘ fun ds => storeHex false (numeral 16 ds)) = os := by
  induction h with
  | nil => rfl
  | cons hds _ ih => rw [List.map_cons, ih, Function.comp_apply, storeHex_of_spells hds]

/-- Octets spelled by the digits of six numbers are what the numbers make. -/
theorem toMac_of_spells {fields : List (List Char)} {ns : List HexNumber} {m : Mac}
    (hvalue : ns.map HexNumber.value = fields.map fun ds => storeHex false (numeral 16 ds))
    (h : List.Forall₂ Spells fields m.toList) : toMac ns = m := by
  have hbytes : (ns.map HexNumber.value).map UInt32.toUInt8 = m.toList := by
    rw [hvalue, List.map_map]
    exact map_of_spells h
  apply Vector.ext
  intro i hi
  have hmi : m.toList[i]? = some m[i] := by
    rw [Vector.getElem?_toList, Vector.getElem?_eq_getElem hi]
  rw [toMac, Vector.getElem_ofFn, List.getD_eq_getElem?_getD]
  rw [← hbytes, List.getElem?_map] at hmi
  obtain ⟨v, hv, hm⟩ := Option.map_eq_some_iff.mp hmi
  rw [hv, ← hm, Option.getD_some]

/-- A string of hexadecimal fields and separators has no other character. -/
theorem not_mem_intercalate {sep c : Char} {fields : List (List Char)} (hc : isxdigit c = false)
    (hne : c ≠ sep) (h : ∀ ds ∈ fields, ∀ x ∈ ds, isxdigit x = true) :
    c ∉ [sep].intercalate fields := by
  induction fields with
  | nil => simp
  | cons ds fields ih =>
    rw [List.forall_mem_cons] at h
    have hds : c ∉ ds := fun hmem => by rw [h.1 c hmem] at hc; cases hc
    by_cases hfields : fields = []
    · rw [hfields]
      simpa using hds
    · rw [List.intercalate_cons_of_ne_nil hfields]
      simp [hds, hne, ih h.2]

theorem forall_of_spells {fields : List (List Char)} {os : List UInt8}
    (h : List.Forall₂ Spells fields os) :
    ∀ ds ∈ fields, ds ≠ [] ∧ ∀ c ∈ ds, isxdigit c = true := by
  induction h with
  | nil => simp
  | cons hds _ ih => exact List.forall_mem_cons.mpr ⟨⟨hds.1, hds.2.1⟩, ih⟩

theorem getMacAddr_of_joinedNotation {sep : Char} {s : String} {m : Mac}
    (hsep : sep = ':' ∨ sep = '-') (h : JoinedNotation sep s.toList m) :
    getMacAddr s = some m := by
  obtain ⟨fields, hs, hspells⟩ := h
  have hhex := forall_of_spells hspells
  obtain ⟨ns, -, htext, hvalue⟩ := exists_ofDigits hhex
  have hlen : ns.length = 6 := by
    have hfields := hspells.length_eq
    rw [← htext, List.length_map, Vector.length_toList] at hfields
    exact hfields
  have hjoined : Joined sep s.toList ns :=
    ⟨[], by rw [htext, List.append_nil, hs], fun n _ => n.ends_nil⟩
  rw [← toMac_of_spells hvalue hspells]
  obtain rfl | rfl := hsep
  · exact getMacAddr_of_colon hlen hjoined
  · refine getMacAddr_of_dash ?_ ?_ hlen hjoined <;>
      rw [hs] <;> exact not_mem_intercalate (by decide) (by decide) fun ds hds => (hhex ds hds).2

theorem getMacAddr_of_ciscoNotation {s : String} {m : Mac} (h : CiscoNotation s.toList m) :
    getMacAddr s = some m := by
  obtain ⟨a, b, c, d, e, f, hs, hlen, hspells⟩ := h
  have hhex := forall_of_spells hspells
  obtain ⟨ns, hitem, htext, hvalue⟩ := exists_ofDigits hhex
  have hns : ns.length = 6 := by rw [← List.length_map HexNumber.text, htext]; rfl
  have hcolon : ':' ∉ s.toList := by
    rw [hs]
    refine not_mem_intercalate (by decide) (by decide) ?_
    simp only [List.forall_mem_cons] at hhex ⊢
    obtain ⟨ha, hb, hc, hd, he, hf, -⟩ := hhex
    refine ⟨?_, ?_, ?_, by simp⟩ <;> rw [List.forall_mem_append]
    · exact ⟨ha.2, hb.2⟩
    · exact ⟨hc.2, hd.2⟩
    · exact ⟨he.2, hf.2⟩
  rw [← toMac_of_spells hvalue hspells]
  refine getMacAddr_of_dotted hcolon ?_
  obtain ⟨n1, n2, n3, n4, n5, n6, rfl⟩ := exists_of_length_six hns
  simp only [List.map_cons, List.map_nil, List.cons.injEq, and_true] at hitem htext
  obtain ⟨ha, hb, hc, hd, he, hf⟩ := htext
  -- The first number of a group has the two characters of its field.
  have hfit : ∀ {n : HexNumber} {ds u : List Char}, ds ∈ [a, b, c, d, e, f] → n.item = ds →
      n.Fits (some 2) u := by
    rintro n ds u hds rfl
    have hn := hlen _ hds
    exact ⟨by simp [hn], Or.inl (by simp [hn])⟩
  refine ⟨n1, n2, n3, n4, n5, n6, [], rfl, ?_, hfit (by simp) hitem.1, hfit (by simp) hitem.2.2.1,
    hfit (by simp) hitem.2.2.2.2.1, n6.ends_nil⟩
  rw [hs, ha, hb, hc, hd, he, hf]
  simp

/-! ## What `is_mac_addr` accepts -/

theorem grouped_of_windowsNotation {s : List Char} {m : Mac} (h : WindowsNotation s m) :
    s.length = 6 * 3 - 1 ∧ grouped 3 '-' s = true := by
  obtain ⟨fields, rfl, hwidth, hspells⟩ := h
  have hhex := forall_of_spells hspells
  have hlen := hspells.length_eq
  rw [Vector.length_toList] at hlen
  have hall : ∀ ds ∈ fields, ds.length = 2 ∧ ∀ c ∈ ds, isxdigit c = true :=
    fun ds hds => ⟨hwidth ds hds, (hhex ds hds).2⟩
  obtain ⟨hlength, hgrouped⟩ :=
    grouped_intercalate '-' hall (List.ne_nil_of_length_eq_add_one hlen)
  exact ⟨by omega, hgrouped⟩

theorem grouped_of_ciscoNotation {s : List Char} {m : Mac} (h : CiscoNotation s m) :
    s.length = 3 * 5 - 1 ∧ grouped 5 '.' s = true := by
  obtain ⟨a, b, c, d, e, f, rfl, hwidth, hspells⟩ := h
  have hhex := forall_of_spells hspells
  have hpair {x y : List Char} (hx : x ∈ [a, b, c, d, e, f]) (hy : y ∈ [a, b, c, d, e, f]) :
      (x ++ y).length = 4 ∧ ∀ z ∈ x ++ y, isxdigit z = true := by
    rw [List.length_append, hwidth x hx, hwidth y hy, List.forall_mem_append]
    exact ⟨rfl, (hhex x hx).2, (hhex y hy).2⟩
  have hall : ∀ ds ∈ [a ++ b, c ++ d, e ++ f], ds.length = 4 ∧ ∀ z ∈ ds, isxdigit z = true := by
    simp only [List.forall_mem_cons]
    exact ⟨hpair (by simp) (by simp), hpair (by simp) (by simp), hpair (by simp) (by simp),
      by simp⟩
  obtain ⟨hlength, hgrouped⟩ := grouped_intercalate '.' hall (by simp)
  rw [List.length_cons, List.length_cons, List.length_singleton] at hlength
  exact ⟨by omega, hgrouped⟩

/-- `is_mac_addr` accepts the two notations of full width, and all that has a colon. -/
theorem isMacAddr_iff {s : String} :
    isMacAddr s = true ↔ (∃ m, CiscoNotation s.toList m) ∨ (∃ m, WindowsNotation s.toList m) ∨
      ':' ∈ s.toList := by
  have hcisco : s.toList.length = 3 * 5 - 1 ∧ grouped 5 '.' s.toList = true ↔
      ∃ m, CiscoNotation s.toList m :=
    ⟨fun h => ⟨_, ciscoNotation_of_grouped h.1 h.2⟩, fun ⟨_, h⟩ => grouped_of_ciscoNotation h⟩
  have hwindows : s.toList.length = 6 * 3 - 1 ∧ grouped 3 '-' s.toList = true ↔
      ∃ m, WindowsNotation s.toList m :=
    ⟨fun h => ⟨_, windowsNotation_of_grouped h.1 h.2⟩, fun ⟨_, h⟩ => grouped_of_windowsNotation h⟩
  rw [← hcisco, ← hwindows, ← or_assoc]
  simp only [isMacAddr, Bool.or_eq_true, Bool.and_eq_true, decide_eq_true_eq,
    List.contains_iff_mem]

/-! ## `format_mac` -/

/-- `%.2x`. -/
def hexByte (o : UInt8) : List Char :=
  [Nat.digitChar (o.toNat / 16), Nat.digitChar (o.toNat % 16)]

/-- `format_mac`: what `snprintf` leaves in a buffer of `bufsize` bytes. -/
def formatMac (mac : Mac) (bufsize : ℕ) : String :=
  String.ofList (([':'].intercalate (mac.toList.map hexByte)).take (bufsize - 1))

theorem isxdigit_digitChar : ∀ n < 16, isxdigit (Nat.digitChar n) = true ∧
    digitVal (Nat.digitChar n) = n := by decide

theorem spells_hexByte (o : UInt8) : Spells (hexByte o) o := by
  have ho := o.toNat_lt
  have hhigh := isxdigit_digitChar (o.toNat / 16) (by omega)
  have hlow := isxdigit_digitChar (o.toNat % 16) (by omega)
  refine ⟨by simp [hexByte], ?_, ?_⟩
  · simp only [hexByte, List.forall_mem_cons]
    exact ⟨hhigh.1, hlow.1, by simp⟩
  · show 16 * (16 * 0 + digitVal _) + digitVal _ = o.toNat
    rw [hhigh.2, hlow.2]
    omega

/-- The text of an address has 17 characters. -/
theorem joinedNotation_formatMac (mac : Mac) {bufsize : ℕ} (h : 17 < bufsize) :
    JoinedNotation ':' (formatMac mac bufsize).toList mac := by
  have hlen : ([':'].intercalate (mac.toList.map hexByte)).length = 17 := by
    obtain ⟨a, b, c, d, e, f, hmac⟩ := exists_of_length_six mac.length_toList
    rw [hmac]
    rfl
  refine ⟨mac.toList.map hexByte, ?_, ?_⟩
  · rw [formatMac, String.toList_ofList, List.take_of_length_le (by omega)]
  · rw [List.forall₂_map_left_iff]
    exact List.forall₂_same.mpr fun o _ => spells_hexByte o

/-! ## Main result -/

/-- What `is_mac_addr` accepts through its cisco-style and windows-style branches is decoded to the
octets its digits spell; octets spelled by hexadecimal numbers that are joined throughout by `:` or
by `-` are decoded, and so is the output of `format_mac`. -/
theorem getMacAddr_reads :
    (∀ s : String, (s.toList.length = 3 * 5 - 1 ∧ grouped 5 '.' s.toList = true ∨
        s.toList.length = 6 * 3 - 1 ∧ grouped 3 '-' s.toList = true) →
      getMacAddr s = some (hexOctets s.toList)) ∧
    (∀ (m : Mac) (fields : List (List Char)) (sep : Char), List.Forall₂ Spells fields m.toList →
      sep = ':' ∨ sep = '-' → getMacAddr (String.ofList ([sep].intercalate fields)) = some m) ∧
    (∀ (mac : Mac) (bufsize : ℕ), 17 < bufsize →
      getMacAddr (formatMac mac bufsize) = some mac) := by
  refine ⟨?_, ?_, ?_⟩
  · rintro s (⟨hlen, h⟩ | ⟨hlen, h⟩)
    · exact getMacAddr_of_ciscoNotation (ciscoNotation_of_grouped hlen h)
    · exact getMacAddr_of_joinedNotation (Or.inr rfl)
        (windowsNotation_of_grouped hlen h).joinedNotation
  · intro m fields sep h hsep
    refine getMacAddr_of_joinedNotation hsep ⟨fields, ?_, h⟩
    rw [String.toList_ofList]
  · intro mac bufsize h
    exact getMacAddr_of_joinedNotation (Or.inl rfl) (joinedNotation_formatMac mac h)

theorem getMacAddr_reads_examples :
    getMacAddr "0123.45aB.cDef" = some (hexOctets "0123.45aB.cDef".toList) ∧
    getMacAddr "01-23-45-aB-cD-ef" = some (hexOctets "01-23-45-aB-cD-ef".toList) ∧
    getMacAddr (String.ofList ([':'].intercalate (["1", "023", "45", "0aB", "cD", "ef"].map
      String.toList))) = some (hexOctets "012345abcdef".toList) ∧
    getMacAddr (formatMac (hexOctets "012345abcdef".toList) 128) =
      some (hexOctets "012345abcdef".toList) :=
  ⟨getMacAddr_reads.1 "0123.45aB.cDef" (by decide),
    getMacAddr_reads.1 "01-23-45-aB-cD-ef" (by decide),
    getMacAddr_reads.2.1 (hexOctets "012345abcdef".toList)
      (["1", "023", "45", "0aB", "cD", "ef"].map String.toList) ':' (by decide) (by decide),
    getMacAddr_reads.2.2 (hexOctets "012345abcdef".toList) 128 (by decide)⟩

end Arping
