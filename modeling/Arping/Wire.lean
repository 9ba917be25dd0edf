import Mathlib.Data.Vector.Basic
import Mathlib.Tactic.IntervalCases
import Arping.Lib.ByteReader

/-!
# Captured packets and header fields

The handlers look at a packet through C structures laid over its bytes. Offsets of the fields
are those of `libnet-headers.h`; a 16- or 32-bit field is read in the byte order of the host and
put in order by `htons`. `htons_load16` says that together the two give the big-endian value of
the two bytes on either kind of host.
-/

namespace Arping

/-- `LIBNET_802_1Q_H`, `LIBNET_ETH_H`, `LIBNET_ARP_H`, `LIBNET_IPV4_H`: header sizes. -/
def libnet8021QH : ℕ := 0x12
def libnetEthH : ℕ := 0x0e
def libnetArpH : ℕ := 0x08
def libnetIpv4H : ℕ := 0x14

/-- `ETH_ALEN`. -/
def ethAlen : ℕ := 6

/-- `ARPHRD_ETHER`, `ARPOP_REQUEST`, `ARPOP_REPLY`, `ICMP_ECHOREPLY`, `ICMP_ECHO`. -/
def arphrdEther : UInt16 := 1
def arpopRequest : UInt16 := 1
def arpopReply : UInt16 := 2
def icmpEchoreply : UInt16 := 0
def icmpEcho : UInt8 := 8

/-- `ETHERTYPE_IP`, `ETHERTYPE_ARP`, `ETHERTYPE_VLAN`. -/
def ethertypeIp : UInt16 := 0x0800
def ethertypeArp : UInt16 := 0x0806
def ethertypeVlan : UInt16 := 0x8100

/-- `_802_3_shost` and `vlan_shost` lie behind the destination address of their header. -/
def shostOff : ℕ := 6

/-- Offsets in `struct libnet_arp_hdr`. -/
def arHrd : ℕ := 0
def arPro : ℕ := 2
def arHln : ℕ := 4
def arPln : ℕ := 5
def arOp : ℕ := 6

/-- Offsets in `struct libnet_ipv4_hdr` and `struct libnet_icmpv4_hdr`. -/
def ipSrc : ℕ := 12
def icmpType : ℕ := 0
def icmpSeq : ℕ := 6

/-- `uint8_t [ETH_ALEN]`. -/
abbrev Mac : Type := Vector UInt8 6

/-- What the handlers get from `pcap`: the two lengths of `struct pcap_pkthdr` and the memory
behind the packet pointer. Only the first `caplen` bytes belong to the capture. -/
structure Packet where
  caplen : UInt32
  len : UInt32
  byte : ℕ → UInt8

/-- The packet whose captured bytes are `l`, lying before the memory `rest`. -/
def Packet.ofBytes (l : List UInt8) (rest : ℕ → UInt8) : Packet where
  caplen := UInt32.ofNat l.length
  len := UInt32.ofNat l.length
  byte i := l.getD i (rest i)

/-! ## Byte order -/

/-- Byte order of the host. -/
inductive Endian
  | little
  | big
  deriving DecidableEq

namespace Endian

/-- A `uint16_t` in memory. -/
def load16 : Endian → UInt8 → UInt8 → UInt16
  | little, a, b => UInt16.ofNat (a.toNat + 256 * b.toNat)
  | big, a, b => UInt16.ofNat (256 * a.toNat + b.toNat)

/-- `htons`. -/
def htons : Endian → UInt16 → UInt16
  | little, x => UInt16.ofNat (256 * (x.toNat % 256) + x.toNat / 256)
  | big, x => x

/-- The bytes of a `uint32_t` in memory. -/
def bytes32 : Endian → UInt32 → Vector UInt8 4
  | little, x => #v[UInt8.ofNat x.toNat, UInt8.ofNat (x.toNat / 2 ^ 8),
      UInt8.ofNat (x.toNat / 2 ^ 16), UInt8.ofNat (x.toNat / 2 ^ 24)]
  | big, x => #v[UInt8.ofNat (x.toNat / 2 ^ 24), UInt8.ofNat (x.toNat / 2 ^ 16),
      UInt8.ofNat (x.toNat / 2 ^ 8), UInt8.ofNat x.toNat]

/-- A `uint32_t` in memory. -/
def load32 : Endian → Vector UInt8 4 → UInt32
  | little, v => UInt32.ofNat
      (v[0].toNat + 2 ^ 8 * v[1].toNat + 2 ^ 16 * v[2].toNat + 2 ^ 24 * v[3].toNat)
  | big, v => UInt32.ofNat
      (2 ^ 24 * v[0].toNat + 2 ^ 16 * v[1].toNat + 2 ^ 8 * v[2].toNat + v[3].toNat)

/-- Loading and swapping gives the big-endian value, whatever the host. -/
theorem htons_load16 (e : Endian) (a b : UInt8) :
    e.htons (e.load16 a b) = UInt16.ofNat (256 * a.toNat + b.toNat) := by
  have ha := a.toNat_lt
  have hb := b.toNat_lt
  cases e with
  | little =>
    have hx : (UInt16.ofNat (a.toNat + 256 * b.toNat)).toNat = a.toNat + 256 * b.toNat := by
      rw [UInt16.toNat_ofNat_of_lt']
      show a.toNat + 256 * b.toNat < 65536
      omega
    rw [load16, htons, hx]
    congr 1
    omega
  | big => rfl

/-- A one-byte field swapped as if it were a `uint16_t` is zero exactly when it is zero. -/
theorem htons_byte_eq_zero (e : Endian) (b : UInt8) : e.htons b.toUInt16 = 0 ↔ b = 0 := by
  have hb := b.toNat_lt
  rw [← UInt16.toNat_inj, ← UInt8.toNat_inj]
  cases e with
  | little =>
    have hx : (UInt16.ofNat (256 * (b.toNat % 256) + b.toNat / 256)).toNat =
        256 * (b.toNat % 256) + b.toNat / 256 := by
      rw [UInt16.toNat_ofNat_of_lt']
      show 256 * (b.toNat % 256) + b.toNat / 256 < 65536
      omega
    rw [htons, UInt8.toNat_toUInt16, hx, UInt16.toNat_zero, UInt8.toNat_zero]
    omega
  | big => rw [htons, UInt8.toNat_toUInt16, UInt16.toNat_zero, UInt8.toNat_zero]

theorem bytes32_load32 (e : Endian) (v : Vector UInt8 4) : e.bytes32 (e.load32 v) = v := by
  have h0 := v[0].toNat_lt
  have h1 := v[1].toNat_lt
  have h2 := v[2].toNat_lt
  have h3 := v[3].toNat_lt
  ext i hi
  cases e
  all_goals
    simp only [bytes32, load32, UInt32.toNat_ofNat']
    interval_cases i <;> simp <;> omega

theorem load32_bytes32 (e : Endian) (x : UInt32) : e.load32 (e.bytes32 x) = x := by
  have hx := x.toNat_lt
  apply UInt32.toNat_inj.mp
  cases e
  all_goals
    simp [bytes32, load32, UInt32.toNat_ofNat', UInt8.toNat_ofNat']
    omega

/-- Comparing the loaded word is comparing the bytes in memory. -/
theorem load32_eq_iff (e : Endian) (v : Vector UInt8 4) (x : UInt32) :
    e.load32 v = x ↔ v = e.bytes32 x := by
  constructor
  · rintro rfl
    exact (bytes32_load32 e v).symm
  · rintro rfl
    exact load32_bytes32 e x

end Endian

end Arping
