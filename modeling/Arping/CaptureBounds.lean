import Arping.Replies

/-!
# Reads beyond the capture

`pingipReads` lists the offsets `pingip_recv` reads. The length guard of the untagged branch was
written for a frame without TTP header and lets 42 captured bytes pass, while the checks behind it
reach up to offset 53; the tagged branch has no guard, and the offset of its last check grows with
`ar_hln`. `pingipReads_lt_iff` states exactly which captures are long enough for the checks that
are reached.
-/

namespace Arping

open ByteReader

/-- The offsets `pingip_recv` reads, in order. -/
def pingipReads (cfg : Config) (p : Packet) : List ℕ :=
  (pingipAccept cfg p.caplen).reads p.byte

/-- The capture covers what the shared checks read of the ARP packet at `harp`: the header, the
sender hardware address if it is compared, and the sender protocol address if it gets that far. -/
def ArpCaptured (cfg : Config) (p : Packet) (harp : ℕ) : Prop :=
  harp + 8 ≤ p.caplen.toNat ∧
    (ArpReplyHeader p.byte harp →
      (cfg.addrMustBeSame = true → harp + 14 ≤ p.caplen.toNat) ∧
      (SenderAllowed cfg p.byte harp →
        harp + (p.byte (harp + arHln)).toNat + 12 ≤ p.caplen.toNat))

/-- The capture covers what `pingip_recv` reads. -/
def CaptureSuffices (cfg : Config) (p : Packet) : Prop :=
  if 0 ≤ cfg.vlanTag then ArpCaptured cfg p harpTagged
  else 42 ≤ p.caplen.toNat → EthIpLengths p.byte harpUntagged → ArpCaptured cfg p harpUntagged

theorem within_field16 (host : Endian) (m : ℕ → UInt8) (n off : ℕ) :
    Within m n (field16 host off) ↔ off + 1 < n := by
  unfold field16
  simp only [within_bind, within_get, within_pure, and_true]
  omega

theorem within_field32 (host : Endian) (m : ℕ → UInt8) (n off : ℕ) :
    Within m n (field32 host off) ↔ off + 3 < n := by
  unfold field32
  rw [within_bind, within_slice]
  exact and_iff_left (within_pure _ _ _)

theorem within_sentByTarget (cfg : Config) (m : ℕ → UInt8) (n harp : ℕ) :
    Within m n (sentByTarget cfg harp) ↔ (cfg.addrMustBeSame = true → harp + 14 ≤ n) := by
  unfold sentByTarget libnetArpH
  by_cases h : cfg.addrMustBeSame = true
  · rw [if_pos h, within_bind, within_slice]
    simp only [within_pure, and_true, h, true_imp_iff]
    omega
  · rw [if_neg h]
    simp [h]

/-- The shared checks, for a source address in front of the ARP header. -/
theorem within_arpAccept (cfg : Config) (p : Packet) {harp shost : ℕ} (h : shost + 6 ≤ harp) :
    Within p.byte p.caplen.toNat (arpAccept cfg harp shost) ↔ ArpCaptured cfg p harp := by
  unfold arpAccept
  simp only [within_bind, within_ite, within_pure, within_field16, within_field32,
    within_sentByTarget, within_get, within_slice, run_field16, run_sentByTarget, run_get,
    ne_eq, ofNat_be16_eq_iff, Bool.not_eq_true', decide_eq_false_iff_not,
    show arpopReply.toNat = 2 from rfl, show ethertypeIp.toNat = 0x0800 from rfl,
    show arphrdEther.toNat = 1 from rfl, and_true, if_true_left, not_not]
  simp only [arOp, arPro, arHrd, arHln, libnetArpH]
  constructor
  · rintro ⟨hop, hrest⟩
    refine ⟨by omega, ?_⟩
    rintro ⟨h₁, h₂, h₃⟩
    obtain ⟨hsha, hip⟩ := ((hrest h₁).2 h₂).2 h₃
    refine ⟨hsha, ?_⟩
    intro hsame
    have hlast := (hip hsame).2.1
    simp only [arHln]
    omega
  · rintro ⟨hlen, hrest⟩
    refine ⟨by omega, ?_⟩
    intro h₁
    refine ⟨by omega, ?_⟩
    intro h₂
    refine ⟨by omega, ?_⟩
    intro h₃
    obtain ⟨hsha, hip⟩ := hrest ⟨h₁, h₂, h₃⟩
    refine ⟨hsha, ?_⟩
    intro hsame
    have hlast := hip hsame
    simp only [arHln] at hlast
    exact ⟨by omega, by omega, fun _ => by omega⟩

/-- The checks of `pingip_recv` stay within the capture exactly when it covers the ones that are
reached. -/
theorem within_pingipAccept (cfg : Config) (p : Packet) :
    Within p.byte p.caplen.toNat (pingipAccept cfg p.caplen) ↔ CaptureSuffices cfg p := by
  unfold pingipAccept CaptureSuffices
  by_cases hv : 0 ≤ cfg.vlanTag
  · rw [if_pos hv, if_pos hv]
    exact within_arpAccept cfg p (by decide)
  · rw [if_neg hv, if_neg hv, show libnetEthH + libnetArpH + 2 * (ethAlen + 4) = 42 from rfl]
    simp only [within_ite, within_get_bind, within_pure, if_true_left, ne_eq, not_not,
      within_arpAccept cfg p (show shiftEther + shostOff + 6 ≤ shiftEther + libnetEthH by decide)]
    simp only [shiftEther, libnetEthH, arHln, arPln]
    constructor
    · intro h hlen hl
      exact ((h (by omega)).2 (congrArg UInt8.toNat hl.1)).2 hl.2
    · intro h hlen
      refine ⟨by omega, ?_⟩
      intro hhln
      refine ⟨by omega, ?_⟩
      intro hpln
      exact h (by omega) ⟨UInt8.toNat_inj.mp hhln, hpln⟩

/-- With a capture that suffices, the memory behind it plays no part. -/
theorem run_pingipAccept_congr {cfg : Config} {p : Packet} (h : CaptureSuffices cfg p)
    {m : ℕ → UInt8} (hm : ∀ i < p.caplen.toNat, p.byte i = m i) :
    (pingipAccept cfg p.caplen).run p.byte = (pingipAccept cfg p.caplen).run m := by
  apply run_congr
  intro i hi
  exact hm i ((within_pingipAccept cfg p).mpr h i hi)

/-- **Reads stay within the capture** exactly when the capture covers the checks that are
reached. -/
theorem pingipReads_lt_iff (cfg : Config) (p : Packet) :
    (∀ i ∈ pingipReads cfg p, i < p.caplen.toNat) ↔ CaptureSuffices cfg p := by
  unfold pingipReads
  exact within_pingipAccept cfg p

/-- A capture of 42 bytes passes the guard of the untagged branch, and a reply with an 8-byte
hardware address is followed past the end of a capture in the tagged branch. -/
theorem pingipReads_beyond_capture :
    (∃ i ∈ pingipReads ipConfig { arpReplyFrame 7 with caplen := 42 }, ¬ i < 42) ∧
      ∃ i ∈ pingipReads { ipConfig with vlanTag := 5 }
        (Packet.ofBytes (List.replicate 40 0 ++ [0, 1, 0x08, 0, 8, 4, 0, 2]) fun _ => 0),
        ¬ i < 48 := by
  decide

end Arping
