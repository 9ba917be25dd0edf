import Arping.CaptureBounds

/-!
# Echo replies behind an IPv4 header

`pingmac_recv` looks for the ICMP header behind an IPv4 header without options, at offset 42, and
checks no length. `pingmacRecv_locatesReply_iff` says for which packets that is right.
-/

namespace Arping

open ByteReader

/-! ## What the packet is -/

/-- The length of the IPv4 header at `shiftEther`, in words of four bytes. -/
def Packet.ihl (p : Packet) : ℕ := (p.byte shiftEther).toNat % 16

/-- The bytes from `shiftEther` on begin with an IPv4 header of a legal length. -/
def Packet.BeginsIpv4 (p : Packet) : Prop :=
  (p.byte shiftEther).toNat / 16 = 4 ∧ 5 ≤ p.ihl

instance : DecidablePred Packet.BeginsIpv4 := fun _ => by unfold Packet.BeginsIpv4; infer_instance

/-- Where the ICMP header lies. -/
def Packet.icmpOffset (p : Packet) : ℕ := shiftEther + 4 * p.ihl

/-- The capture covers the ICMP header, and that is one of an echo reply. -/
def Packet.EchoReply (p : Packet) : Prop :=
  p.icmpOffset + 8 ≤ p.caplen.toNat ∧ p.byte (p.icmpOffset + icmpType) = 0

instance : DecidablePred Packet.EchoReply := fun _ => by unfold Packet.EchoReply; infer_instance

/-! ## What the handler does -/

/-- The offsets `pingmac_recv` reads, in order. -/
def pingmacReads (cfg : Config) (p : Packet) (clk : ClockCall) (g : State) : List ℕ :=
  (pingmacAccept cfg p.len g.lastpacketsent clk.timespec).reads p.byte

/-- The packet is counted exactly if it is an echo reply, and no byte behind the capture is read. -/
structure LocatesReply (cfg : Config) (p : Packet) (clk : ClockCall) (g : State) : Prop where
  counted : (pingmacRecv cfg p clk g).counted = g.counted ++ [p] ↔ p.EchoReply
  reads : ∀ i ∈ pingmacReads cfg p clk g, i < p.caplen.toNat

section

variable (cfg : Config) (p : Packet) (clk : ClockCall) (g : State)

/-- The byte at offset 42 decides. -/
theorem pingmacRecv_counted_iff :
    (pingmacRecv cfg p clk g).counted = g.counted ++ [p] ↔ p.byte 42 = 0 := by
  -- The handler does not look at the mode.
  have hrecv : pingmacRecv cfg p clk g = recvHandler { cfg with mode := .pingmac } p clk g := rfl
  have harr := (afterArrival_arrives p clk g).counted
  have haccepts : Accepts { cfg with mode := .pingmac } p ↔ p.byte 42 = 0 := Iff.rfl
  rw [hrecv, ← haccepts]
  constructor
  · intro h
    by_contra hnot
    rw [recvHandler_rejects hnot, harr] at h
    simp at h
  · intro h
    rw [(recvHandler_counts h clk g).counted, harr]

theorem within_pingmacAccept (m : ℕ → UInt8) (n : ℕ) (len : UInt32) (sent arrival : Timespec) :
    Within m n (pingmacAccept cfg len sent arrival) ↔
      42 < n ∧ (m 42 = 0 → cfg.display = .normal → 49 < n) := by
  have htype : cfg.host.htons (m (shiftEther + libnetIpv4H + icmpType)).toUInt16 = icmpEchoreply ↔
      m 42 = 0 := Endian.htons_byte_eq_zero cfg.host _
  unfold pingmacAccept
  dsimp only
  rw [within_get_bind, within_ite]
  refine and_congr_right fun hread => ?_
  have h42 : 42 < n := hread
  by_cases h : m 42 = 0
  · rw [if_neg (not_not.mpr (htype.mpr h))]
    -- Of the further fields only the sequence number lies behind the type.
    cases cfg.display <;>
      simp only [within_bind, within_field32, within_field16, within_pure, and_true, reduceCtorEq,
        h, true_imp_iff, false_imp_iff, implies_true, iff_true] <;>
      simp only [shiftEther, ipSrc, libnetIpv4H, icmpSeq] <;> omega
  · rw [if_pos (mt htype.mp h)]
    simp [h]

/-- **Echo replies.** For a packet that begins with an IPv4 header of any legal length: without
options, the capture has to reach the type, and to cover the ICMP header if that is 0; with options,
the byte where an option begins has to be captured, and to be 0 exactly if the packet is an echo
reply. -/
theorem pingmacRecv_locatesReply_iff (h : p.BeginsIpv4) :
    LocatesReply cfg p clk g ↔
      (p.ihl = 5 ∧ 42 < p.caplen.toNat ∧ (p.byte 42 = 0 → 50 ≤ p.caplen.toNat)) ∨
      (5 < p.ihl ∧ 42 < p.caplen.toNat ∧ (p.byte 42 = 0 ↔ p.EchoReply)) := by
  have hcounted := pingmacRecv_counted_iff cfg p clk g
  have hreads : (∀ i ∈ pingmacReads cfg p clk g, i < p.caplen.toNat) ↔ _ :=
    within_pingmacAccept cfg p.byte p.caplen.toNat p.len g.lastpacketsent clk.timespec
  have hcover : p.EchoReply → 50 ≤ p.caplen.toNat := by
    rintro ⟨hlen, -⟩
    have hihl := h.2
    unfold Packet.icmpOffset shiftEther at hlen
    omega
  have hshort : p.ihl = 5 → (p.EchoReply ↔ 50 ≤ p.caplen.toNat ∧ p.byte 42 = 0) := by
    intro hihl
    unfold Packet.EchoReply Packet.icmpOffset
    rw [hihl]
    rfl
  constructor
  · rintro ⟨hcount, hread⟩
    rw [hcounted] at hcount
    have hcap := (hreads.mp hread).1
    obtain hihl | hihl := eq_or_lt_of_le h.2
    · exact Or.inl ⟨hihl.symm, hcap, fun hzero => hcover (hcount.mp hzero)⟩
    · exact Or.inr ⟨hihl, hcap, hcount⟩
  · rintro (⟨hihl, hcap, hzero⟩ | ⟨-, hcap, hiff⟩)
    · refine ⟨?_, hreads.mpr ⟨hcap, fun hb _ => by have := hzero hb; omega⟩⟩
      rw [hcounted, hshort hihl]
      exact ⟨fun hb => ⟨hzero hb, hb⟩, And.right⟩
    · refine ⟨hcounted.trans hiff, hreads.mpr ⟨hcap, fun hb _ => ?_⟩⟩
      have := hcover (hiff.mp hb)
      omega

end

/-- An echo reply behind an IPv4 header of `ihl` words that carries `options`. -/
def echoReplyFrame (ihl : UInt8) (options : List UInt8) : Packet := Packet.ofBytes
  (List.replicate 22 0 ++ [0x40 + ihl] ++ List.replicate 19 0 ++ options ++ List.replicate 8 0)
  fun _ => 0

theorem pingmacRecv_locatesReply_iff_plain :
    LocatesReply (Config.init .little) (echoReplyFrame 5 []) (readingAt 0) State.init :=
  (pingmacRecv_locatesReply_iff _ _ _ _ (by decide)).mpr (Or.inl (by decide))

/-- A reply that carries the route it took is not counted. -/
theorem not_locatesReply_recordRoute :
    ¬ ∀ (cfg : Config) (p : Packet) (clk : ClockCall) (g : State), p.BeginsIpv4 →
      LocatesReply cfg p clk g := by
  intro h
  have hcounted := (h (Config.init .little) (echoReplyFrame 6 [7, 3, 4, 0]) (readingAt 0) State.init
    (by decide)).counted.mpr (by decide)
  rw [pingmacRecv_counted_iff] at hcounted
  exact absurd hcounted (by decide)

end Arping
