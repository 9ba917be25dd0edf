import Mathlib.Data.List.Perm.Basic
import Arping.MacNotation

/-!
# The order of the MAC formats

The formats of `get_mac_addr` never match the same string. Up to its first `:` or `.` a string that
the first or the second format matches holds one or two numbers, so at most two dashes, while the
third format has read five dashes by then. The table may therefore stand in any order
(`getMacAddr_format_order`).
-/

namespace Arping

open CNumber

/-! ## What comes first in the string -/

/-- `:` and `.` belong to no number. -/
theorem not_mem_text {c : Char} (hspace : isspace c = false) (hother : c ∉ ['+', '-', 'x', 'X'])
    (hhex : isxdigit c = false) (n : HexNumber) : c ∉ n.text := by
  intro h
  obtain h | h | h := n.mem_text h
  · rw [hspace] at h
    cases h
  · exact hother h
  · rw [hhex] at h
    cases h

theorem colon_not_mem_text (n : HexNumber) : ':' ∉ n.text :=
  not_mem_text (by decide) (by decide) (by decide) n

theorem dot_not_mem_text (n : HexNumber) : '.' ∉ n.text :=
  not_mem_text (by decide) (by decide) (by decide) n

/-- What the third format has read before anything it ignores. -/
structure Dashed (body : List Char) : Prop where
  colon : ':' ∉ body
  dot : '.' ∉ body
  dashes : 5 ≤ body.count '-'

theorem not_mem_joined {c : Char} {ns : List HexNumber} (hc : c ≠ '-')
    (h : ∀ n : HexNumber, c ∉ n.text) : c ∉ ['-'].intercalate (ns.map HexNumber.text) := by
  induction ns with
  | nil => simp
  | cons n ns ih =>
    by_cases hns : ns = []
    · rw [hns]
      simpa using h n
    · rw [List.map_cons, List.intercalate_cons_of_ne_nil (by simpa using hns)]
      simp [h n, hc, ih]

theorem count_joined (n : HexNumber) (ns : List HexNumber) :
    ns.length ≤ (['-'].intercalate ((n :: ns).map HexNumber.text)).count '-' := by
  induction ns generalizing n with
  | nil => exact Nat.zero_le _
  | cons n' ns ih =>
    have hrest := ih n'
    rw [List.map_cons, List.intercalate_cons_of_ne_nil (by simp), List.count_append,
      List.count_append, List.count_singleton_self, List.length_cons]
    omega

theorem exists_dashed {s : List Char} {ns : List HexNumber} (hlen : ns.length = 6)
    (h : Joined '-' s ns) : ∃ body t, s = body ++ t ∧ Dashed body := by
  obtain ⟨t, rfl, -⟩ := h
  obtain ⟨n, ns, rfl⟩ := List.exists_cons_of_length_eq_add_one hlen
  have hcount := count_joined n ns
  rw [Nat.succ.inj hlen] at hcount
  exact ⟨_, t, rfl, not_mem_joined (by decide) colon_not_mem_text,
    not_mem_joined (by decide) dot_not_mem_text, hcount⟩

/-- A text with few dashes in front of a character the third format does not read. -/
theorem Dashed.append_ne {body p t u : List Char} {c : Char} (h : Dashed body) (hc : c ∉ body)
    (hp : p.count '-' ≤ 2) : p ++ c :: u ≠ body ++ t := by
  intro heq
  obtain ⟨v, hbody, -⟩ | ⟨v, hpv, -⟩ := List.append_eq_append_iff.mp heq
  · cases v with
    | nil =>
      rw [List.append_nil] at hbody
      have hdashes := h.dashes
      rw [hbody] at hdashes
      omega
    | cons d v =>
      rw [hbody, List.append_assoc] at heq
      obtain ⟨rfl, -⟩ := List.cons.inj (List.append_cancel_left heq)
      exact hc (by simp [hbody])
  · have hdashes := h.dashes
    rw [hpv, List.count_append] at hp
    omega

/-- Of two characters only one comes first. -/
theorem append_cons_ne {p q u v : List Char} {c d : Char} (hne : c ≠ d) (hd : d ∉ p) (hc : c ∉ q) :
    p ++ c :: u ≠ q ++ d :: v := by
  intro heq
  obtain ⟨w, hq, hw⟩ | ⟨w, hp, hw⟩ := List.append_eq_append_iff.mp heq
  · cases w with
    | nil => exact hne (List.cons.inj hw).1
    | cons e w =>
      obtain ⟨rfl, -⟩ := List.cons.inj hw
      exact hc (by simp [hq])
  · cases w with
    | nil => exact hne (List.cons.inj hw).1.symm
    | cons e w =>
      obtain ⟨rfl, -⟩ := List.cons.inj hw
      exact hd (by simp [hp])

theorem exists_colon {s : List Char} {ns : List HexNumber} (hlen : ns.length = 6)
    (h : Joined ':' s ns) : ∃ (n : HexNumber) (u : List Char), s = n.text ++ ':' :: u := by
  obtain ⟨n, ns, rfl⟩ := List.exists_cons_of_length_eq_add_one hlen
  obtain ⟨u, rfl, -⟩ :=
    (joined_cons_iff (List.ne_nil_of_length_eq_add_one (Nat.succ.inj hlen))).mp h
  exact ⟨n, u, rfl⟩

theorem exists_dot {s : List Char} {ns : List HexNumber} (h : Dotted s ns) :
    ∃ (a b : HexNumber) (u : List Char), s = (a.text ++ b.text) ++ '.' :: u := by
  obtain ⟨a, b, c, d, e, f, t, -, rfl, -⟩ := h
  exact ⟨a, b, _, by rw [List.append_assoc]⟩

/-! ## No two formats -/

section

variable {s : List Char} {ns ns' : List HexNumber}

theorem not_colon_and_dotted (hlen : ns.length = 6) (hcolon : Joined ':' s ns)
    (hdotted : Dotted s ns') : False := by
  obtain ⟨n, u, hs⟩ := exists_colon hlen hcolon
  obtain ⟨a, b, v, hs'⟩ := exists_dot hdotted
  have hcolon' : ':' ∉ a.text ++ b.text := by
    rw [List.mem_append, not_or]
    exact ⟨colon_not_mem_text a, colon_not_mem_text b⟩
  exact append_cons_ne (by decide) (dot_not_mem_text n) hcolon' (hs.symm.trans hs')

theorem not_colon_and_dashed (hlen : ns.length = 6) (hcolon : Joined ':' s ns)
    (hlen' : ns'.length = 6) (hdashed : Joined '-' s ns') : False := by
  obtain ⟨n, u, hs⟩ := exists_colon hlen hcolon
  obtain ⟨body, t, hs', hbody⟩ := exists_dashed hlen' hdashed
  exact hbody.append_ne hbody.colon (n.count_dash_text.trans (by omega)) (hs.symm.trans hs')

theorem not_dotted_and_dashed (hdotted : Dotted s ns) (hlen : ns'.length = 6)
    (hdashed : Joined '-' s ns') : False := by
  obtain ⟨a, b, u, hs⟩ := exists_dot hdotted
  obtain ⟨body, t, hs', hbody⟩ := exists_dashed hlen hdashed
  have hcount : (a.text ++ b.text).count '-' ≤ 2 := by
    rw [List.count_append]
    exact Nat.add_le_add a.count_dash_text b.count_dash_text
  exact hbody.append_ne hbody.dot hcount (hs.symm.trans hs')

end

/-- All six fields are converted. -/
def Converts (s : List Char) (format : List Directive) : Prop := (sscanf format s).length = 6

theorem converts_iff {s : List Char} {format : List Directive} :
    Converts s format ↔ ∃ m, tryFormat s format = some m := by
  unfold Converts tryFormat
  split
  · next h => exact iff_of_true h ⟨_, rfl⟩
  · next h => exact iff_of_false h fun ⟨m, hm⟩ => by cases hm

/-- At most one format of the table converts all six fields. -/
theorem eq_of_converts {s : List Char} {f g : List Directive} (hf : f ∈ macFormats)
    (hg : g ∈ macFormats) (hsf : Converts s f) (hsg : Converts s g) : f = g := by
  rw [converts_iff] at hsf hsg
  rw [macFormats_eq] at hf hg
  simp only [List.mem_cons, List.not_mem_nil, or_false] at hf hg
  obtain rfl | rfl | rfl := hf <;> obtain rfl | rfl | rfl := hg <;>
    simp only [tryFormat_joined_iff separator_colon, tryFormat_joined_iff separator_dash,
      tryFormat_dotted_iff] at hsf hsg <;>
    obtain ⟨_, ns, hns, -⟩ := hsf <;> obtain ⟨_, ns', hns', -⟩ := hsg
  · rfl
  · exact (not_colon_and_dotted hns.1 hns.2 hns').elim
  · exact (not_colon_and_dashed hns.1 hns.2 hns'.1 hns'.2).elim
  · exact (not_colon_and_dotted hns'.1 hns'.2 hns).elim
  · rfl
  · exact (not_dotted_and_dashed hns hns'.1 hns'.2).elim
  · exact (not_colon_and_dashed hns'.1 hns'.2 hns.1 hns.2).elim
  · exact (not_dotted_and_dashed hns' hns.1 hns.2).elim
  · rfl

/-! ## Main result -/

/-- `get_mac_addr` with the formats in `formats`. -/
def getMacAddrBy (formats : List (List Directive)) (s : String) : Option Mac :=
  formats.findSome? (tryFormat s.toList)

/-- Where all elements that give something are the same, their order does not matter. -/
theorem findSome?_perm {α β : Type} {f : α → Option β} {l l' : List α} (hperm : l.Perm l')
    (h : ∀ a ∈ l, ∀ b ∈ l, (f a).isSome → (f b).isSome → a = b) :
    l.findSome? f = l'.findSome? f := by
  cases hl : l.findSome? f with
  | none =>
    rw [List.findSome?_eq_none_iff] at hl
    exact (List.findSome?_eq_none_iff.mpr fun a ha => hl a (hperm.mem_iff.mpr ha)).symm
  | some m =>
    obtain ⟨a, ha, hfa⟩ := List.exists_of_findSome?_eq_some hl
    cases hl' : l'.findSome? f with
    | none =>
      rw [List.findSome?_eq_none_iff] at hl'
      rw [hl' a (hperm.mem_iff.mp ha)] at hfa
      cases hfa
    | some m' =>
      obtain ⟨b, hb, hfb⟩ := List.exists_of_findSome?_eq_some hl'
      have hab : a = b := h a ha b (hperm.mem_iff.mpr hb) (by rw [hfa]; rfl) (by rw [hfb]; rfl)
      rw [← hfa, ← hfb, hab]

/-- **The order of the formats.** No two formats convert all six fields of the same string, and with
the table in any order `get_mac_addr` returns the same. -/
theorem getMacAddr_format_order (s : String) :
    (∀ f ∈ macFormats, ∀ g ∈ macFormats, Converts s.toList f → Converts s.toList g → f = g) ∧
    ∀ formats : List (List Directive), formats.Perm macFormats →
      getMacAddrBy formats s = getMacAddr s := by
  have hone : ∀ f ∈ macFormats, ∀ g ∈ macFormats, Converts s.toList f → Converts s.toList g →
      f = g := fun f hf g hg => eq_of_converts hf hg
  refine ⟨hone, fun formats hperm => ?_⟩
  rw [getMacAddr_eq]
  refine (findSome?_perm hperm.symm fun f hf g hg hsf hsg => ?_).symm
  exact hone f hf g hg (converts_iff.mpr (Option.isSome_iff_exists.mp hsf))
    (converts_iff.mpr (Option.isSome_iff_exists.mp hsg))

theorem getMacAddr_format_order_dashes :
    (∀ f ∈ macFormats, Converts "0-1-2-3-4-5".toList f → f = joinedFormat '-' 5) ∧
      getMacAddrBy macFormats.reverse "0-1-2-3-4-5" = getMacAddr "0-1-2-3-4-5" :=
  ⟨fun f hf h => (getMacAddr_format_order "0-1-2-3-4-5").1 f hf (joinedFormat '-' 5)
      (by simp [macFormats_eq]) h rfl,
    (getMacAddr_format_order "0-1-2-3-4-5").2 _ (List.reverse_perm _)⟩

end Arping
