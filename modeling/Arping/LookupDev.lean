import Mathlib.Data.List.MinMax
import Arping.Wire

/-!
# Choosing the interface

`arping_lookupdev` goes once through the list of `getifaddrs` and keeps the interface with the
longest prefix that matches the target. The masks are in network order: they are applied as they
are stored, and compared after `ntohl`. The result lies in a static buffer, which the function
takes over from the call before (`Lookup.ifname`), and which only a mask greater than 0 changes.

The loop computes `List.argmax` of the matching interfaces (`Best.step`), so the interface found is
the first of those with the greatest mask (`arpingLookupdev_eq`).
-/

namespace Arping

/-- `IFNAMSIZ`, and the length of libnet's error buffers. -/
def ifnamsiz : ℕ := 16
def libnetErrbufSize : ℕ := 256

/-- `IFF_UP`, `IFF_LOOPBACK` and `IFF_POINTOPOINT`. -/
def iffUp : UInt32 := 0x1
def iffLoopback : UInt32 := 0x8
def iffPointopoint : UInt32 := 0x10

/-- `AF_INET`. -/
def afInet : UInt16 := 2

/-- `ntohl`: the bytes in memory, read as a big-endian number. -/
def Endian.ntohl (host : Endian) (x : UInt32) : UInt32 := Endian.big.load32 (host.bytes32 x)

theorem Endian.ntohl_zero (host : Endian) : host.ntohl 0 = 0 := by cases host <;> decide

theorem Endian.ntohl_injective (host : Endian) : Function.Injective host.ntohl := by
  intro x y h
  have hbytes := congrArg Endian.big.bytes32 h
  rw [ntohl, ntohl, bytes32_load32, bytes32_load32] at hbytes
  rw [← load32_bytes32 host x, hbytes, load32_bytes32]

theorem Endian.ntohl_pos_iff (host : Endian) (x : UInt32) : 0 < host.ntohl x ↔ x ≠ 0 := by
  rw [UInt32.pos_iff_ne_zero]
  exact host.ntohl_injective.ne_iff' host.ntohl_zero

/-- `struct sockaddr`, read as a `struct sockaddr_in`. -/
structure Sockaddr where
  family : UInt16
  sAddr : UInt32

/-- `struct ifaddrs`; a name is the bytes before its terminator. -/
structure Ifaddrs where
  name : Option (List UInt8)
  flags : UInt32
  addr : Option Sockaddr
  netmask : Option Sockaddr

/-- The variables of the loop: `match_count`, `best_mask` and the static `ifname`. -/
structure Lookup where
  matchCount : ℕ
  bestMask : UInt32
  ifname : List UInt8

/-- `strncpy` of a name into the cleared buffer. -/
def copyName (name : List UInt8) : List UInt8 := name.take (ifnamsiz - 1)

/-- `snprintf(ebuf, LIBNET_ERRBUF_SIZE, ...)`. -/
def errorText (text : String) : String := String.ofList (text.toList.take (libnetErrbufSize - 1))

/-- One pass of the loop. -/
def lookupStep (host : Endian) (dstip : UInt32) (s : Lookup) (cur : Ifaddrs) : Lookup :=
  if cur.flags &&& iffUp = 0 then s
  else
    match cur.addr, cur.netmask, cur.name with
    | some addr, some netmask, some name =>
      if addr.family ≠ afInet then s
      else if cur.flags &&& (iffLoopback ||| iffPointopoint) ≠ 0 then s
      else if addr.sAddr &&& netmask.sAddr ≠ dstip &&& netmask.sAddr then s
      else if host.ntohl netmask.sAddr > host.ntohl s.bestMask then
        { matchCount := s.matchCount + 1, bestMask := netmask.sAddr, ifname := copyName name }
      else { s with matchCount := s.matchCount + 1 }
    | _, _, _ => s

/-- What a call returns: the name, or `none` for `NULL`, `ebuf`, and the static buffer. -/
structure LookupResult where
  ret : Option (List UInt8)
  ebuf : String
  ifname : List UInt8

/-- `arping_lookupdev`, with the answer of `getifaddrs` (a list, or `strerror(errno)`) and the
static buffer of the call before. -/
def arpingLookupdev (host : Endian) (dstip : UInt32) (getifaddrs : Except String (List Ifaddrs))
    (ifname : List UInt8) : LookupResult :=
  match getifaddrs with
  | .error e => ⟨none, errorText ("getifaddrs(): " ++ e), ifname⟩
  | .ok ifa =>
    let s := ifa.foldl (lookupStep host dstip) ⟨0, 0, ifname⟩
    if s.matchCount ≠ 0 then ⟨some s.ifname, "", s.ifname⟩
    else ⟨none, errorText "No matching interface found using getifaddrs().", s.ifname⟩

/-! ## Matching interfaces -/

namespace Ifaddrs

/-- The netmask, 0 without one. -/
def mask (i : Ifaddrs) : UInt32 := (i.netmask.map Sockaddr.sAddr).getD 0

/-- The address, 0 without one. -/
def address (i : Ifaddrs) : UInt32 := (i.addr.map Sockaddr.sAddr).getD 0

/-- The name, cut to the buffer. -/
def cutName (i : Ifaddrs) : List UInt8 := (i.name.getD []).take (ifnamsiz - 1)

/-- Up, with address, netmask and name, of IPv4, and neither loopback nor point-to-point. -/
structure Eligible (i : Ifaddrs) : Prop where
  up : i.flags &&& iffUp ≠ 0
  addr : i.addr.isSome = true
  netmask : i.netmask.isSome = true
  name : i.name.isSome = true
  inet : i.addr.map Sockaddr.family = some afInet
  broadcast : i.flags &&& (iffLoopback ||| iffPointopoint) = 0

/-- Eligible, and on the net of the target. -/
structure Matches (dstip : UInt32) (i : Ifaddrs) : Prop where
  eligible : i.Eligible
  net : i.address &&& i.mask = dstip &&& i.mask

theorem eligible_iff (i : Ifaddrs) :
    i.Eligible ↔ i.flags &&& iffUp ≠ 0 ∧ i.addr.isSome = true ∧ i.netmask.isSome = true ∧
      i.name.isSome = true ∧ i.addr.map Sockaddr.family = some afInet ∧
      i.flags &&& (iffLoopback ||| iffPointopoint) = 0 :=
  ⟨fun h => ⟨h.up, h.addr, h.netmask, h.name, h.inet, h.broadcast⟩,
    fun h => ⟨h.1, h.2.1, h.2.2.1, h.2.2.2.1, h.2.2.2.2.1, h.2.2.2.2.2⟩⟩

theorem matches_iff (dstip : UInt32) (i : Ifaddrs) :
    i.Matches dstip ↔ i.Eligible ∧ i.address &&& i.mask = dstip &&& i.mask :=
  ⟨fun h => ⟨h.eligible, h.net⟩, fun h => ⟨h.1, h.2⟩⟩

instance (i : Ifaddrs) : Decidable i.Eligible := decidable_of_iff' _ i.eligible_iff

instance (dstip : UInt32) (i : Ifaddrs) : Decidable (i.Matches dstip) :=
  decidable_of_iff' _ (i.matches_iff dstip)

end Ifaddrs

theorem matches_mk_iff {dstip flags : UInt32} {addr netmask : Sockaddr} {name : List UInt8} :
    (Ifaddrs.mk (some name) flags (some addr) (some netmask)).Matches dstip ↔
      flags &&& iffUp ≠ 0 ∧ addr.family = afInet ∧ flags &&& (iffLoopback ||| iffPointopoint) = 0 ∧
        addr.sAddr &&& netmask.sAddr = dstip &&& netmask.sAddr := by
  constructor
  · rintro ⟨⟨hup, -, -, -, hinet, hbroad⟩, hnet⟩
    exact ⟨hup, Option.some.inj hinet, hbroad, hnet⟩
  · rintro ⟨hup, hinet, hbroad, hnet⟩
    exact ⟨⟨hup, rfl, rfl, rfl, congrArg some hinet, hbroad⟩, hnet⟩

/-! ## The loop -/

section Loop

variable (host : Endian) (dstip : UInt32)

/-- The host-order number by which masks are compared. -/
def maskOrder (i : Ifaddrs) : ℕ := (host.ntohl i.mask).toNat

/-- What a matching interface changes. -/
def Lookup.see (i : Ifaddrs) (s : Lookup) : Lookup :=
  if host.ntohl s.bestMask < host.ntohl i.mask then ⟨s.matchCount + 1, i.mask, i.cutName⟩
  else { s with matchCount := s.matchCount + 1 }

/-- The skip conditions are the predicate. -/
theorem lookupStep_eq (s : Lookup) (i : Ifaddrs) :
    lookupStep host dstip s i = if i.Matches dstip then s.see host i else s := by
  obtain ⟨name, flags, addr, netmask⟩ := i
  unfold lookupStep
  dsimp only
  rcases addr with _ | addr
  · rw [if_neg (c := Ifaddrs.Matches _ _) (by rintro ⟨⟨-, haddr, -, -, -, -⟩, -⟩; cases haddr)]
    exact ite_self s
  rcases netmask with _ | netmask
  · rw [if_neg (c := Ifaddrs.Matches _ _) (by rintro ⟨⟨-, -, hmask, -, -, -⟩, -⟩; cases hmask)]
    exact ite_self s
  rcases name with _ | name
  · rw [if_neg (c := Ifaddrs.Matches _ _) (by rintro ⟨⟨-, -, -, hname, -, -⟩, -⟩; cases hname)]
    exact ite_self s
  dsimp only
  by_cases h : (Ifaddrs.mk (some name) flags (some addr) (some netmask)).Matches dstip
  · obtain ⟨hup, hinet, hbroad, hnet⟩ := matches_mk_iff.mp h
    rw [if_pos h, if_neg hup, if_neg (not_not.mpr hinet), if_neg (not_not.mpr hbroad),
      if_neg (not_not.mpr hnet)]
    rfl
  · rw [if_neg h]
    split_ifs with hup hinet hbroad hnet
    all_goals try rfl
    -- nothing is skipped, so the interface matches after all
    all_goals
      exact absurd (matches_mk_iff.mpr ⟨hup, not_not.mp hinet, not_not.mp hbroad,
        not_not.mp hnet⟩) h

/-- The loop on matching interfaces only. -/
def Lookup.seeAll (ifname : List UInt8) (found : List Ifaddrs) : Lookup :=
  found.foldl (fun s i => s.see host i) ⟨0, 0, ifname⟩

/-- Skipping is filtering. -/
theorem foldl_lookupStep (ifa : List Ifaddrs) (ifname : List UInt8) :
    ifa.foldl (lookupStep host dstip) ⟨0, 0, ifname⟩ =
      Lookup.seeAll host ifname (ifa.filter fun i => i.Matches dstip) := by
  rw [Lookup.seeAll, List.foldl_filter]
  congr 1
  funext s i
  rw [lookupStep_eq]
  simp only [decide_eq_true_eq]

end Loop

/-- After the matching interfaces `found`, from the static buffer `ifname`: the best mask is that of
`List.argmax`, and its name is in the buffer unless it is 0. -/
structure Best (host : Endian) (ifname : List UInt8) (found : List Ifaddrs) (s : Lookup) :
    Prop where
  count : s.matchCount = found.length
  mask : s.bestMask = ((found.argmax (maskOrder host)).map Ifaddrs.mask).getD 0
  name : s.ifname =
    if s.bestMask = 0 then ifname
    else ((found.argmax (maskOrder host)).map Ifaddrs.cutName).getD ifname

theorem best_nil (host : Endian) (ifname : List UInt8) : Best host ifname [] ⟨0, 0, ifname⟩ :=
  ⟨rfl, rfl, rfl⟩

/-- One more matching interface. -/
theorem Best.step {host : Endian} {ifname : List UInt8} {found : List Ifaddrs} {s : Lookup}
    (h : Best host ifname found s) (i : Ifaddrs) :
    Best host ifname (found ++ [i]) (s.see host i) := by
  have hcount : s.matchCount + 1 = (found ++ [i]).length := by
    rw [h.count, List.length_append, List.length_singleton]
  have hmax := List.argmax_concat (maskOrder host) i found
  have hmask := h.mask
  have hname := h.name
  unfold Lookup.see
  rcases hc : found.argmax (maskOrder host) with _ | c
  · -- the first matching interface
    rw [hc] at hmax hmask hname
    rw [hmask, Option.map_none, Option.getD_none, host.ntohl_zero]
    by_cases hpos : 0 < host.ntohl i.mask
    · rw [if_pos hpos]
      have hne := (host.ntohl_pos_iff i.mask).mp hpos
      exact ⟨hcount, by rw [hmax]; rfl, by rw [hmax, if_neg hne]; rfl⟩
    · rw [if_neg hpos]
      have hzero : i.mask = 0 := not_not.mp (mt (host.ntohl_pos_iff i.mask).mpr hpos)
      rw [if_pos (show s.bestMask = 0 from hmask)] at hname
      exact ⟨hcount, by rw [hmax]; exact hzero.symm, hname.trans (if_pos rfl).symm⟩
  · rw [hc] at hmax hmask hname
    have hbest : s.bestMask = c.mask := hmask
    by_cases hlt : host.ntohl s.bestMask < host.ntohl i.mask
    · rw [if_pos hlt]
      have hne : i.mask ≠ 0 := by
        rw [← host.ntohl_pos_iff]
        exact UInt32.lt_of_le_of_lt UInt32.zero_le hlt
      rw [hbest] at hlt
      have hmax' : (found ++ [i]).argmax (maskOrder host) = some i :=
        hmax.trans (if_pos (UInt32.lt_iff_toNat_lt.mp hlt))
      exact ⟨hcount, by rw [hmax']; rfl, by rw [hmax', if_neg hne]; rfl⟩
    · rw [if_neg hlt]
      rw [hbest] at hlt
      have hmax' : (found ++ [i]).argmax (maskOrder host) = some c :=
        hmax.trans (if_neg (mt UInt32.lt_iff_toNat_lt.mpr hlt))
      exact ⟨hcount, by rw [hmax']; exact hbest, by rw [hmax']; exact hname⟩

theorem seeAll_best (host : Endian) (ifname : List UInt8) (found : List Ifaddrs) :
    Best host ifname found (Lookup.seeAll host ifname found) := by
  induction found using List.reverseRecOn with
  | nil => exact best_nil host ifname
  | append_singleton found i ih =>
    rw [Lookup.seeAll, List.foldl_append]
    exact ih.step i

/-- Where every matching interface has the mask 0, the static buffer is left as it is. -/
theorem seeAll_ifname_of_zero {host : Endian} {ifname : List UInt8} {found : List Ifaddrs}
    (h : ∀ i ∈ found, i.mask = 0) : (Lookup.seeAll host ifname found).ifname = ifname := by
  have hbest := seeAll_best host ifname found
  have hmask : (Lookup.seeAll host ifname found).bestMask = 0 := by
    rw [hbest.mask]
    cases hc : found.argmax (maskOrder host) with
    | none => rfl
    | some c => exact h c (List.argmax_mem hc)
  rw [hbest.name, if_pos hmask]

/-- Otherwise it has the name of the interface with the greatest mask. -/
theorem seeAll_ifname_of_ne (host : Endian) (ifname : List UInt8) {found : List Ifaddrs}
    {i : Ifaddrs} (hi : i ∈ found) (hne : i.mask ≠ 0) :
    ∃ c, found.argmax (maskOrder host) = some c ∧
      (Lookup.seeAll host ifname found).ifname = c.cutName := by
  have hbest := seeAll_best host ifname found
  have hmask := hbest.mask
  have hname := hbest.name
  cases hc : found.argmax (maskOrder host) with
  | none =>
    rw [List.argmax_eq_none] at hc
    rw [hc] at hi
    cases hi
  | some c =>
    rw [hc] at hmask hname
    have hbestMask : (Lookup.seeAll host ifname found).bestMask ≠ 0 := by
      rw [hmask, ← host.ntohl_pos_iff]
      have hle : (host.ntohl i.mask).toNat ≤ (host.ntohl c.mask).toNat :=
        List.le_of_mem_argmax (f := maskOrder host) hi hc
      exact UInt32.lt_of_lt_of_le ((host.ntohl_pos_iff i.mask).mpr hne)
        (UInt32.le_iff_toNat_le.mpr hle)
    rw [if_neg hbestMask] at hname
    exact ⟨c, rfl, hname⟩

/-- What a call returns and leaves in the buffer, in terms of the matching interfaces. -/
theorem arpingLookupdev_ok (host : Endian) (dstip : UInt32) (ifa : List Ifaddrs)
    (ifname : List UInt8) :
    let s := Lookup.seeAll host ifname (ifa.filter fun i => i.Matches dstip)
    (arpingLookupdev host dstip (.ok ifa) ifname).ret =
        (if (ifa.filter fun i => i.Matches dstip) = [] then none else some s.ifname) ∧
      (arpingLookupdev host dstip (.ok ifa) ifname).ifname = s.ifname := by
  intro s
  have hcount : s.matchCount ≠ 0 ↔ ¬ (ifa.filter fun i => i.Matches dstip) = [] := by
    rw [(seeAll_best host ifname _).count, ne_eq, List.length_eq_zero_iff]
  unfold arpingLookupdev
  dsimp only
  rw [foldl_lookupStep]
  by_cases hnil : (ifa.filter fun i => i.Matches dstip) = []
  · rw [if_neg (not_not.mpr hnil ∘ hcount.mp), if_pos hnil]
    exact ⟨rfl, rfl⟩
  · rw [if_pos (hcount.mpr hnil), if_neg hnil]
    exact ⟨rfl, rfl⟩

theorem filter_matches_eq_nil_iff {dstip : UInt32} {ifa : List Ifaddrs} :
    (ifa.filter fun i => i.Matches dstip) = [] ↔ ∀ i ∈ ifa, ¬ i.Matches dstip := by
  simp only [List.filter_eq_nil_iff, decide_eq_true_eq]

/-- **The interface found.** If `getifaddrs` succeeds, the result is `NULL` exactly when no
eligible interface matches, and otherwise, unless all masks are 0, the name of the first of the
matching interfaces with the greatest mask. -/
theorem arpingLookupdev_eq (host : Endian) (dstip : UInt32) (ifa : List Ifaddrs)
    (ifname : List UInt8) :
    let found := ifa.filter fun i => i.Matches dstip
    let result := arpingLookupdev host dstip (.ok ifa) ifname
    (result.ret = none ↔ ∀ i ∈ ifa, ¬ i.Matches dstip) ∧
      ((∃ i ∈ found, i.mask ≠ 0) →
        result.ret = (found.argmax (maskOrder host)).map Ifaddrs.cutName) := by
  intro found result
  have hret : result.ret =
      if found = [] then none else some (Lookup.seeAll host ifname found).ifname :=
    (arpingLookupdev_ok host dstip ifa ifname).1
  constructor
  · rw [hret, ← filter_matches_eq_nil_iff, ite_eq_left_iff]
    simp only [reduceCtorEq, imp_false, not_not, found]
  · rintro ⟨i, hi, hne⟩
    obtain ⟨c, hc, hname⟩ := seeAll_ifname_of_ne host ifname hi hne
    rw [hret, if_neg (List.ne_nil_of_mem hi), hname, hc]
    rfl

end Arping
