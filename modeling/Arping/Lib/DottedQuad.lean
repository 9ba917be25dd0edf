import Mathlib.Data.List.Basic
import Mathlib.Tactic.Common
import Arping.Lib.CNumber

/-!
# Dotted-quad notation

IPv4 addresses as four decimal numbers between dots, the octet of lowest weight first: the order of
a little-endian host that keeps the address in network order. `parse_format` is the round trip.
-/

namespace DottedQuad

open CNumber

/-- The octet of weight `256 ^ i`. -/
def octet (a : UInt32) (i : ℕ) : ℕ := a.toNat / 256 ^ i % 256

def groups (a : UInt32) : List (List Char) :=
  (List.range 4).map fun i => Nat.toDigits 10 (octet a i)

def format (a : UInt32) : String := String.ofList (['.'].intercalate (groups a))

def isOctet (digits : List Char) : Bool :=
  digits ≠ [] && digits.all (isDigit 10) && numeral 10 digits < 256

/-- The address, where the string is in dotted-quad notation. -/
def parse (s : String) : Option UInt32 :=
  let parts := s.toList.splitOn '.'
  if parts.length = 4 ∧ parts.all isOctet then
    some (UInt32.ofNat (parts.foldr (fun digits n => numeral 10 digits + 256 * n) 0))
  else none

theorem toDigits_octet : ∀ n < 256, isOctet (Nat.toDigits 10 n) = true ∧
    numeral 10 (Nat.toDigits 10 n) = n ∧ '.' ∉ Nat.toDigits 10 n := by decide +kernel

theorem octet_lt (a : UInt32) (i : ℕ) : octet a i < 256 := Nat.mod_lt _ (by decide)

theorem mem_groups {a : UInt32} {digits : List Char} (h : digits ∈ groups a) :
    isOctet digits = true ∧ '.' ∉ digits := by
  obtain ⟨i, -, rfl⟩ := List.mem_map.mp h
  have hi := toDigits_octet _ (octet_lt a i)
  exact ⟨hi.1, hi.2.2⟩

/-- The octets make up the address. -/
theorem sum_octets (a : UInt32) :
    octet a 0 + 256 * (octet a 1 + 256 * (octet a 2 + 256 * octet a 3)) = a.toNat := by
  have hlt := a.toNat_lt
  unfold octet
  omega

theorem foldr_groups (a : UInt32) :
    (groups a).foldr (fun digits n => numeral 10 digits + 256 * n) 0 = a.toNat := by
  have hdigits : ∀ i, numeral 10 (Nat.toDigits 10 (octet a i)) = octet a i :=
    fun i => (toDigits_octet _ (octet_lt a i)).2.1
  show numeral 10 _ + 256 * (numeral 10 _ + 256 * (numeral 10 _ + 256 * (numeral 10 _ + 256 * 0))) =
    a.toNat
  rw [hdigits, hdigits, hdigits, hdigits, Nat.mul_zero, Nat.add_zero, sum_octets]

theorem parse_format (a : UInt32) : parse (format a) = some a := by
  have hsplit : (format a).toList.splitOn '.' = groups a := by
    rw [format, String.toList_ofList]
    exact List.splitOn_intercalate '.' (fun digits h => (mem_groups h).2) (by simp [groups])
  have hall : (groups a).all isOctet = true :=
    List.all_eq_true.mpr fun digits h => (mem_groups h).1
  unfold parse
  simp only [hsplit]
  rw [if_pos ⟨by simp [groups], hall⟩, foldr_groups, UInt32.ofNat_toNat]

end DottedQuad
