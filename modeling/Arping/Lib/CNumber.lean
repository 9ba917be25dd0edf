import Mathlib.Algebra.Order.Field.Rat
import Mathlib.Data.List.Basic

/-!
# Numbers in C strings

`strtol`, `atoi` and `atof`, and `sscanf` for formats of plain characters and `%x`. A C string is
the list of its characters. `long` has 64 bits. `atof` reads decimal notation, with exact values;
hexadecimal notation, infinities and NaNs are left out.
-/

namespace CNumber

/-! ## Digits -/

/-- `isspace` in the C locale. -/
def isspace (c : Char) : Bool := c = ' ' || ('\t' ≤ c && c ≤ '\r')

/-- The value of a digit or letter; 36, which is no digit of any base, for other characters. -/
def digitVal (c : Char) : ℕ :=
  if '0' ≤ c ∧ c ≤ '9' then c.toNat - '0'.toNat
  else if 'a' ≤ c ∧ c ≤ 'z' then c.toNat - 'a'.toNat + 10
  else if 'A' ≤ c ∧ c ≤ 'Z' then c.toNat - 'A'.toNat + 10
  else 36

def isDigit (base : ℕ) (c : Char) : Bool := digitVal c < base

/-- `isxdigit`. -/
def isxdigit (c : Char) : Bool := isDigit 16 c

/-- The number that digits spell. -/
def numeral (base : ℕ) (s : List Char) : ℕ := s.foldl (fun n c => base * n + digitVal c) 0

/-- An optional sign: whether it is a minus, and what follows. -/
def sign : List Char → Bool × List Char
  | '-' :: s => (true, s)
  | '+' :: s => (false, s)
  | s => (false, s)

/-- Behind an optional `0x`. -/
def skipHexPrefix : List Char → List Char
  | '0' :: x :: s => if x = 'x' ∨ x = 'X' then s else '0' :: x :: s
  | s => s

/-! ## `strtol` -/

/-- The base that base 0 stands for. `0x` belongs to a number only before a digit. -/
def autoBase (s : List Char) : ℕ :=
  if skipHexPrefix s ≠ s ∧ (skipHexPrefix s).head?.any isxdigit then 16
  else if s.head? = some '0' then 8
  else 10

/-- `LONG_MIN` and `LONG_MAX`. -/
def longMin : ℤ := -9223372036854775808
def longMax : ℤ := 9223372036854775807

/-- `strtol` in base 10 or, for base 0, in the base the number shows: its value and what follows
the number. -/
def strtol (base : ℕ) (s : List Char) : ℤ × List Char :=
  let (neg, t) := sign (s.dropWhile isspace)
  let b := if base = 0 then autoBase t else base
  let t := if b = 16 then skipHexPrefix t else t
  let (digits, rest) := t.span (isDigit b)
  if digits = [] then (0, s)
  else (max longMin (min longMax (if neg then -(numeral b digits : ℤ) else numeral b digits)), rest)

/-- `atoi`: `strtol`, converted to `int`. -/
def atoi (s : List Char) : Int32 := Int32.ofInt (strtol 10 s).1

/-! ## `atof` -/

/-- The exponent part, 0 where there is none. -/
def exponent : List Char → ℤ
  | e :: s =>
    if e = 'e' ∨ e = 'E' then
      let (neg, t) := sign s
      let n := numeral 10 (t.takeWhile (isDigit 10))
      if neg then -n else n
    else 0
  | [] => 0

/-- The fractional digits behind a point, and what follows them. -/
def fraction : List Char → List Char × List Char
  | '.' :: s => s.span (isDigit 10)
  | s => ([], s)

/-- `atof` of a string that begins with a decimal number or with no number at all. -/
def atof (s : List Char) : ℚ :=
  let (neg, t) := sign (s.dropWhile isspace)
  let (int, t) := t.span (isDigit 10)
  let (frac, t) := fraction t
  if int ++ frac = [] then 0
  else
    let x : ℚ := numeral 10 (int ++ frac) * 10 ^ (exponent t - frac.length)
    if neg then -x else x

/-! ## `sscanf` -/

/-- A character of the format that stands for itself, or `%x` with an optional field width. -/
inductive Directive
  | lit (c : Char)
  | hex (width : Option ℕ)

/-- The `unsigned int` that `%x` stores, as by `strtoul`. -/
def storeHex (neg : Bool) (n : ℕ) : UInt32 :=
  if 2 ^ 64 ≤ n then 0xffffffff
  else if neg then -UInt32.ofNat n
  else UInt32.ofNat n

/-- `%x`: white space is skipped, and the number may have a sign and a `0x`. A sign or `0x` without
digits is a matching failure. -/
def scanHex (width : Option ℕ) (s : List Char) : Option (UInt32 × List Char) :=
  let s := s.dropWhile isspace
  let field := match width with
    | some w => s.take w
    | none => s
  let (neg, t) := sign field
  let (digits, rest) := (skipHexPrefix t).span isxdigit
  if digits = [] then none
  else some (storeHex neg (numeral 16 digits), rest ++ s.drop field.length)

/-- The values that the conversions assign, in order, up to the first directive that fails. -/
def sscanf : List Directive → List Char → List UInt32
  | [], _ => []
  | .lit c :: ds, s => if s.head? = some c then sscanf ds s.tail else []
  | .hex w :: ds, s =>
    match scanHex w s with
    | some (n, rest) => n :: sscanf ds rest
    | none => []

end CNumber
