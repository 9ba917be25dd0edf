import Arping.Lib.CNumber
import Arping.Wire

/-!
# MAC addresses on the command line

`is_mac_addr` decides whether an argument is taken for a MAC address, and `get_mac_addr` reads one.
A C string is a `String` with one character for each `char`.
-/

namespace Arping

open CNumber

/-- The loops of `is_mac_addr`: every `period`-th character is `sep`, the others are hexadecimal
digits. -/
def grouped (period : ℕ) (sep : Char) (p : List Char) : Bool :=
  p.zipIdx.all fun x => if x.2 % period = period - 1 then x.1 = sep else isxdigit x.1

/-- `is_mac_addr`: cisco-style, windows-style, or with a colon somewhere. -/
def isMacAddr (p : String) : Bool :=
  (p.toList.length = 3 * 5 - 1 && grouped 5 '.' p.toList) ||
    (p.toList.length = 6 * 3 - 1 && grouped 3 '-' p.toList) ||
    p.toList.contains ':'

/-- `formats` of `get_mac_addr`. -/
def macFormats : List (List Directive) :=
  [[.hex none, .lit ':', .hex none, .lit ':', .hex none, .lit ':', .hex none, .lit ':', .hex none,
      .lit ':', .hex none],
    [.hex (some 2), .hex none, .lit '.', .hex (some 2), .hex none, .lit '.', .hex (some 2),
      .hex none],
    [.hex none, .lit '-', .hex none, .lit '-', .hex none, .lit '-', .hex none, .lit '-', .hex none,
      .lit '-', .hex none]]

/-- What `get_mac_addr` writes to `out`; `none` where it returns 0 and leaves `out` alone. -/
def getMacAddr (s : String) : Option Mac :=
  macFormats.findSome? fun format =>
    let n := sscanf format s.toList
    if n.length = 6 then some (Vector.ofFn fun i : Fin 6 => (n.getD i 0).toUInt8) else none

end Arping
