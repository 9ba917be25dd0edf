import Mathlib.Data.List.GetD
import Arping.Runs
import Arping.CaptureBounds
import Arping.Startup

/-!
# Receiving behind an 802.1Q header

The tagged branch of `pingip_recv` looks for the ARP header four bytes further on than the untagged
one, and checks neither `ar_hln` nor `ar_pln`. So the two branches agree on an ARP body exactly
when its address lengths are those of Ethernet and IPv4, or when another check rejects it
(`tagged_untagged_agree_iff`).

The filter string for `-V` is compiled but not installed, and the handler never looks at the tag:
in tagged mode a frame is counted exactly when its bytes from offset 40 on are a matching ARP
packet (`pingLoop_counted_tagged`), whatever VLAN it is from, or none.
-/

namespace Arping

open ByteReader

/-! ## Frames -/

/-- An Ethernet header. -/
def ethHeader (dst src : Mac) (type : Vector UInt8 2) : List UInt8 :=
  dst.toList ++ src.toList ++ type.toList

/-- An 802.1Q header: `vlan_tpi`, `vlan_priority_c_vid` and `vlan_len` behind the addresses. -/
def vlanHeader (dst src : Mac) (tpi tci type : Vector UInt8 2) : List UInt8 :=
  dst.toList ++ src.toList ++ (tpi.toList ++ tci.toList ++ type.toList)

/-- The captured packet: TTP header, link header and body, in front of the memory `rest`. -/
def captured (ttp : Vector UInt8 22) (header body : List UInt8) (rest : ℕ → UInt8) : Packet :=
  Packet.ofBytes (ttp.toList ++ header ++ body) rest

/-- The bytes of an ARP body as a memory. -/
def bodyBytes (body : List UInt8) (i : ℕ) : UInt8 := body.getD i 0

section Frames

variable {ttp : Vector UInt8 22} {header body : List UInt8} {rest : ℕ → UInt8}

/-- The bytes behind the first part of a capture. -/
theorem ofBytes_append {l r : List UInt8} {n : ℕ} (hn : l.length = n) {i : ℕ}
    (hi : i < r.length) : (Packet.ofBytes (l ++ r) rest).byte (n + i) = bodyBytes r i := by
  show (l ++ r).getD (n + i) (rest (n + i)) = r.getD i 0
  rw [List.getD_append_right _ _ _ _ (by omega), hn, Nat.add_sub_cancel_left]
  rw [List.getD_eq_getElem _ _ hi, List.getD_eq_getElem _ _ hi]

theorem captured_caplen (h : 22 + header.length + body.length < 2 ^ 32) :
    (captured ttp header body rest).caplen.toNat = 22 + header.length + body.length := by
  have hlen : (ttp.toList ++ header ++ body).length = 22 + header.length + body.length := by
    simp [Nat.add_assoc]
  show (UInt32.ofNat (ttp.toList ++ header ++ body).length).toNat = _
  rw [hlen, UInt32.toNat_ofNat_of_lt' h]

/-- The body starts behind the TTP header and the link header. -/
theorem captured_body {harp : ℕ} (hharp : 22 + header.length = harp) :
    ∀ i < body.length,
      (captured ttp header body rest).byte (harp + i) = bodyBytes body (0 + i) := by
  intro i hi
  rw [Nat.zero_add]
  exact ofBytes_append (by simp [← hharp]) hi

/-- The source address follows the destination address. -/
theorem captured_srcmac {dst src : Mac} {tail : List UInt8}
    (hheader : header = dst.toList ++ src.toList ++ tail) :
    (captured ttp header body rest).srcmac = src := by
  have hsplit : ttp.toList ++ header ++ body =
      (ttp.toList ++ dst.toList) ++ (src.toList ++ (tail ++ body)) := by
    simp [hheader]
  apply Vector.ext
  intro i hi
  have hlen : i < (src.toList ++ (tail ++ body)).length := by simp; omega
  unfold Packet.srcmac bytesAt captured
  rw [Vector.getElem_ofFn, hsplit, ofBytes_append (by simp [shiftEther, shostOff]) hlen]
  rw [bodyBytes, List.getD_append _ _ _ _ (by simpa using hi)]
  simp [List.getD_eq_getElem?_getD, hi]

end Frames

/-! ## One ARP packet at two offsets -/

section Shift

variable {m m' : ℕ → UInt8} {harp harp' n : ℕ} (hm : ∀ i < n, m (harp + i) = m' (harp' + i))

include hm

theorem be16_shift {off : ℕ} (hoff : off + 1 < n) :
    be16 m (harp + off) = be16 m' (harp' + off) := by
  unfold be16
  rw [hm off (by omega), Nat.add_assoc, hm (off + 1) hoff, Nat.add_assoc]

theorem bytesAt_shift {off k : ℕ} (hoff : off + k ≤ n) :
    bytesAt m (harp + off) k = bytesAt m' (harp' + off) k := by
  unfold bytesAt
  congr 1
  funext j
  rw [Nat.add_assoc, hm (off + j) (by omega), Nat.add_assoc]

theorem arpReplyHeader_shift (hn : 8 ≤ n) : ArpReplyHeader m harp ↔ ArpReplyHeader m' harp' := by
  unfold ArpReplyHeader
  rw [be16_shift hm (by unfold arOp; omega), be16_shift hm (by unfold arPro; omega),
    be16_shift hm (by unfold arHrd; omega)]

theorem ethIpLengths_shift (hn : 8 ≤ n) : EthIpLengths m harp ↔ EthIpLengths m' harp' := by
  unfold EthIpLengths
  rw [hm arHln (by unfold arHln; omega), hm arPln (by unfold arPln; omega)]

theorem senderAllowed_shift {cfg : Config} (hn : cfg.addrMustBeSame = true → 14 ≤ n) :
    SenderAllowed cfg m harp ↔ SenderAllowed cfg m' harp' := by
  unfold SenderAllowed
  by_cases h : cfg.addrMustBeSame = true
  · rw [bytesAt_shift hm (by have := hn h; unfold libnetArpH; omega)]
  · simp [h]

theorem senderIsTarget_shift {cfg : Config} (hip : (m' (harp' + arHln)).toNat + 12 ≤ n) :
    SenderIsTarget cfg m harp ↔ SenderIsTarget cfg m' harp' := by
  unfold SenderIsTarget
  rw [hm arHln (by unfold arHln; omega), Nat.add_assoc, Nat.add_assoc,
    bytesAt_shift hm (by unfold libnetArpH; omega)]

end Shift

/-- `n` bytes are enough for what the shared checks read of the ARP packet at `harp`. -/
def ArpWithin (cfg : Config) (m : ℕ → UInt8) (harp n : ℕ) : Prop :=
  8 ≤ n ∧
    (ArpReplyHeader m harp →
      (cfg.addrMustBeSame = true → 14 ≤ n) ∧
      (SenderAllowed cfg m harp → (m (harp + arHln)).toNat + 12 ≤ n))

/-- The shared checks come to the same result wherever the packet lies. -/
theorem arpMatches_shift {cfg : Config} {m m' : ℕ → UInt8} {harp harp' n : ℕ}
    (hm : ∀ i < n, m (harp + i) = m' (harp' + i)) (hn : ArpWithin cfg m' harp' n) :
    ArpMatches cfg m harp ↔ ArpMatches cfg m' harp' := by
  obtain ⟨h8, hrest⟩ := hn
  unfold ArpMatches
  rw [arpReplyHeader_shift hm h8]
  apply and_congr_right
  intro hreply
  obtain ⟨hsha, hip⟩ := hrest hreply
  rw [senderAllowed_shift hm hsha]
  apply and_congr_right
  intro hallowed
  exact senderIsTarget_shift hm (hip hallowed)

/-- That the reads of the tagged branch stay within the frame is a property of the body. -/
theorem arpWithin_of_reads {cfg : Config} (hv : 0 ≤ cfg.vlanTag) {p : Packet}
    {body : List UInt8} (hlen : p.caplen.toNat = harpTagged + body.length)
    (hm : ∀ i < body.length, p.byte (harpTagged + i) = bodyBytes body (0 + i))
    (h : ∀ i ∈ pingipReads cfg p, i < p.caplen.toNat) :
    ArpWithin cfg (bodyBytes body) 0 body.length := by
  have hcap := (within_pingipAccept cfg p).mp h
  rw [CaptureSuffices, if_pos hv] at hcap
  obtain ⟨h8, hrest⟩ := hcap
  have h8' : 8 ≤ body.length := by omega
  refine ⟨h8', ?_⟩
  intro hreply
  obtain ⟨hsha, hip⟩ := hrest ((arpReplyHeader_shift hm h8').mpr hreply)
  have hsha' : cfg.addrMustBeSame = true → 14 ≤ body.length := by
    intro hsame
    have hlen14 := hsha hsame
    omega
  refine ⟨hsha', ?_⟩
  intro hallowed
  have hlast := hip ((senderAllowed_shift hm hsha').mpr hallowed)
  rw [hm arHln (by unfold arHln; omega)] at hlast
  omega

/-! ## The two branches on one body -/

/-- From the state `g`, the handler counts both packets or rejects both, and leaves the same
counter, previous reply, duplicate flag and `time_to_die`. -/
structure Agree (p p' : Packet) (g g₁ g₂ : State) : Prop where
  counted : (g₁.counted = g.counted ++ [p] ∧ g₂.counted = g.counted ++ [p']) ∨
    (g₁.counted = g.counted ∧ g₂.counted = g.counted)
  numrecvd : g₁.numrecvd = g₂.numrecvd
  lastreplymac : g₁.lastreplymac = g₂.lastreplymac
  dupfound : g₁.dupfound = g₂.dupfound
  timeToDie : g₁.timeToDie = g₂.timeToDie

section Branches

variable {p p' : Packet} {clk : ClockCall} {g g₁ g₂ : State}

theorem agree_afterArrival (p p' : Packet) (clk : ClockCall) (g : State) :
    Agree p p' g (afterArrival p clk g) (afterArrival p' clk g) := by
  have h := afterArrival_arrives p clk g
  have h' := afterArrival_arrives p' clk g
  exact
    { counted := Or.inr ⟨h.counted, h'.counted⟩
      numrecvd := h.numrecvd.trans h'.numrecvd.symm
      lastreplymac := h.lastreplymac.trans h'.lastreplymac.symm
      dupfound := h.dupfound.trans h'.dupfound.symm
      timeToDie := h.timeToDie.trans h'.timeToDie.symm }

theorem agree_counts {cfg cfg' : Config} {mac : Mac} {t : ℚ}
    (h : CountsArp cfg p mac t (afterArrival p clk g) g₁)
    (h' : CountsArp cfg' p' mac t (afterArrival p' clk g) g₂)
    (hmax : cfg.maxReplies = cfg'.maxReplies) : Agree p p' g g₁ g₂ := by
  have ha := afterArrival_arrives p clk g
  have ha' := afterArrival_arrives p' clk g
  constructor
  · exact Or.inl ⟨by rw [h.counted, ha.counted], by rw [h'.counted, ha'.counted]⟩
  · rw [h.numrecvd, h'.numrecvd, ha.numrecvd, ha'.numrecvd]
  · rw [h.lastreplymac, h'.lastreplymac]
  · rw [h.dupfound, h'.dupfound, ha.dupfound, ha'.dupfound, ha.numrecvd, ha'.numrecvd,
      ha.lastreplymac, ha'.lastreplymac]
  · rw [h.timeToDie, h'.timeToDie, ha.timeToDie, ha'.timeToDie, ha.numrecvd, ha'.numrecvd, hmax]

/-- One branch counts, the other does not. -/
theorem not_agree_of_counted (h : g₁.counted = g.counted ++ [p]) (h' : g₂.counted = g.counted) :
    ¬ Agree p p' g g₁ g₂ := by
  intro hagree
  rcases hagree.counted with ⟨-, h₂⟩ | ⟨h₁, -⟩
  · rw [h'] at h₂
    simp at h₂
  · rw [h] at h₁
    simp at h₁

end Branches

/-! ## One frame in each branch -/

/-- The options with `-V`. -/
def Config.withTag (tag : Int16) (cfg : Config) : Config := { cfg with vlanTag := tag }

section OneBody

variable {cfg : Config} {body : List UInt8}
  (hbody : ArpWithin cfg (bodyBytes body) 0 body.length)

include hbody

/-- The tagged branch makes the shared checks. -/
theorem run_pingipAccept_vlanHeader (hv : 0 ≤ cfg.vlanTag) (ttp : Vector UInt8 22)
    (dst src : Mac) (tpi tci type : Vector UInt8 2) (rest : ℕ → UInt8) :
    let p := captured ttp (vlanHeader dst src tpi tci type) body rest
    (pingipAccept cfg p.caplen).run p.byte =
      if ArpMatches cfg (bodyBytes body) 0 then some (src, cfg.dstip) else none := by
  intro p
  have hvlan : (vlanHeader dst src tpi tci type).length = 18 := by simp [vlanHeader]
  have hm : ∀ i < body.length, p.byte (harpTagged + i) = bodyBytes body (0 + i) :=
    captured_body (by rw [hvlan]; rfl)
  have hsrc : p.srcmac = src := captured_srcmac rfl
  rw [run_pingipAccept_tagged hv p, hsrc]
  exact if_congr (arpMatches_shift hm hbody) rfl rfl

/-- The untagged branch also wants Ethernet/IPv4 address lengths. -/
theorem run_pingipAccept_ethHeader (hv : cfg.vlanTag < 0) (ttp : Vector UInt8 22)
    (dst src : Mac) (type : Vector UInt8 2) (rest : ℕ → UInt8) (hlen : 36 + body.length < 2 ^ 32) :
    let p := captured ttp (ethHeader dst src type) body rest
    (pingipAccept cfg p.caplen).run p.byte =
      if EthIpLengths (bodyBytes body) 0 ∧ ArpMatches cfg (bodyBytes body) 0
      then some (src, cfg.dstip) else none := by
  intro p
  have heth : (ethHeader dst src type).length = 14 := by simp [ethHeader]
  have hm : ∀ i < body.length, p.byte (harpUntagged + i) = bodyBytes body (0 + i) :=
    captured_body (by rw [heth]; rfl)
  have hsrc : p.srcmac = src := captured_srcmac rfl
  have hcap : p.caplen.toNat = 36 + body.length := by
    rw [show p.caplen.toNat = _ from captured_caplen (by omega), heth]
  have h42 : 42 ≤ p.caplen.toNat := by have := hbody.1; omega
  rw [run_pingipAccept_untagged hv p, hsrc]
  refine if_congr ?_ rfl rfl
  rw [ethIpLengths_shift hm hbody.1, arpMatches_shift hm hbody]
  exact and_iff_right h42

end OneBody

/-- **Tagged and untagged.** The same body with the same source address behind an 802.1Q and
behind an Ethernet header, with all reads in range: the two branches agree exactly when the body
has Ethernet/IPv4 address lengths or fails one of the shared checks. -/
theorem tagged_untagged_agree_iff {cfg : Config} (hv : cfg.vlanTag < 0) {tag : Int16}
    (ht : 0 ≤ tag) (ttp ttp' : Vector UInt8 22) (dst dst' src : Mac)
    (tpi tci type type' : Vector UInt8 2) {body : List UInt8} (rest rest' : ℕ → UInt8)
    (hlen : 40 + body.length < 2 ^ 32)
    (hreads : ∀ i ∈ pingipReads (cfg.withTag tag)
      (captured ttp (vlanHeader dst src tpi tci type) body rest), i < 40 + body.length)
    (clk : ClockCall) (g : State) :
    let p := captured ttp (vlanHeader dst src tpi tci type) body rest
    let p' := captured ttp' (ethHeader dst' src type') body rest'
    Agree p p' g (pingipRecv (cfg.withTag tag) p clk g) (pingipRecv cfg p' clk g) ↔
      EthIpLengths (bodyBytes body) 0 ∨ ¬ ArpMatches cfg (bodyBytes body) 0 := by
  intro p p'
  have hbody : ArpWithin (cfg.withTag tag) (bodyBytes body) 0 body.length := by
    have hvlan : (vlanHeader dst src tpi tci type).length = 18 := by simp [vlanHeader]
    have hcap : p.caplen.toNat = 40 + body.length := by
      rw [show p.caplen.toNat = _ from captured_caplen (by omega), hvlan]
    refine arpWithin_of_reads ht hcap (captured_body (by rw [hvlan]; rfl)) ?_
    rw [hcap]
    exact hreads
  have hbody' : ArpWithin cfg (bodyBytes body) 0 body.length := hbody
  have hrun := run_pingipAccept_vlanHeader hbody ht ttp dst src tpi tci type rest
  have hrun' := run_pingipAccept_ethHeader hbody' hv ttp' dst' src type' rest' (by omega)
  have harr := afterArrival_arrives p clk g
  have harr' := afterArrival_arrives p' clk g
  by_cases hM : ArpMatches cfg (bodyBytes body) 0
  · have hacc := pingipRecv_accept (hrun.trans (if_pos hM)) clk g
    by_cases hL : EthIpLengths (bodyBytes body) 0
    · have hacc' := pingipRecv_accept (hrun'.trans (if_pos ⟨hL, hM⟩)) clk g
      exact iff_of_true (agree_counts hacc hacc' rfl) (Or.inl hL)
    · rw [pingipRecv_reject (hrun'.trans (if_neg fun h => hL h.1)) clk g]
      refine iff_of_false (not_agree_of_counted ?_ harr'.counted) (by tauto)
      rw [hacc.counted, harr.counted]
  · rw [pingipRecv_reject (hrun.trans (if_neg hM)) clk g,
      pingipRecv_reject (hrun'.trans (if_neg fun h => hM h.2)) clk g]
    exact iff_of_true (agree_afterArrival p p' clk g) (Or.inr hM)

/-- Any TTP header, and a tag of VLAN `vid`. -/
def zeroTtp : Vector UInt8 22 := Vector.replicate 22 0
def vlanFrame (vid : UInt8) (body : List UInt8) : Packet :=
  captured zeroTtp (vlanHeader ethxmas #v[2, 0, 0, 0, 0, 7] #v[0x81, 0] #v[0, vid] #v[0x08, 0x06])
    body fun _ => 0

theorem tagged_untagged_agree_reply :
    let p := vlanFrame 5 (arpBody 2 7)
    let p' := captured zeroTtp (ethHeader ethxmas #v[2, 0, 0, 0, 0, 7] #v[0x08, 0x06]) (arpBody 2 7)
      fun _ => 0
    Agree p p' State.init (pingipRecv (ipConfig.withTag 5) p (readingAt 1) State.init)
        (pingipRecv ipConfig p' (readingAt 1) State.init) ↔
      EthIpLengths (bodyBytes (arpBody 2 7)) 0 ∨
        ¬ ArpMatches ipConfig (bodyBytes (arpBody 2 7)) 0 :=
  tagged_untagged_agree_iff (by decide) (by decide) zeroTtp zeroTtp ethxmas ethxmas _ _ _ _ _
    (fun _ => 0) (fun _ => 0) (by decide) (by decide) (readingAt 1) State.init

/-- A reply that announces an 8-byte hardware address, and is that long. -/
def longHlnBody : List UInt8 := [0, 1, 0x08, 0, 8, 4, 0, 2, 2, 0, 0, 0, 0, 7, 0, 0, 10, 0, 0, 1]

/-- It is counted behind an 802.1Q header and rejected behind an Ethernet header. -/
theorem longHln_disagree :
    let p := vlanFrame 5 longHlnBody
    let p' := captured zeroTtp (ethHeader ethxmas #v[2, 0, 0, 0, 0, 7] #v[0x08, 0x06]) longHlnBody
      fun _ => 0
    (∀ i ∈ pingipReads (ipConfig.withTag 5) p, i < p.caplen.toNat) ∧
      (∀ i ∈ pingipReads ipConfig p', i < p'.caplen.toNat) ∧
      (pingipRecv (ipConfig.withTag 5) p (readingAt 1) State.init).numrecvd = 1 ∧
      (pingipRecv ipConfig p' (readingAt 1) State.init).numrecvd = 0 := by
  decide

/-! ## Whose replies are counted -/

/-- A frame on the interface is delivered if it passes the installed filter; `passes` is the
meaning of filter expressions. -/
def Delivered (passes : String → Packet → Prop) (cfg : Config) (p : Packet) : Prop :=
  ∀ f ∈ installedFilter cfg, passes f p

/-- What `vlan v and arp` asks of a frame. -/
def VlanArp (v : ℕ) (p : Packet) : Prop :=
  be16 p.byte (shiftEther + 12) = 0x8100 ∧ be16 p.byte (shiftEther + 14) % 4096 = v ∧
    be16 p.byte (shiftEther + 16) = 0x0806

instance (v : ℕ) : DecidablePred (VlanArp v) := fun p => by unfold VlanArp; infer_instance

/-- The frames whose bytes from offset 40 on are a matching ARP packet. -/
def tagBlind (cfg : Config) (ps : List Packet) : List Packet :=
  ps.filter fun p => ArpMatches cfg p.byte harpTagged

/-- One call of the handler. -/
theorem recvHandler_tagBlind {cfg : Config} (hmode : cfg.mode = .pingip) (hv : 0 ≤ cfg.vlanTag)
    (p : Packet) (clk : ClockCall) (g : State) (hg : g.counted = tagBlind cfg g.handled) :
    (recvHandler cfg p clk g).counted = tagBlind cfg (recvHandler cfg p clk g).handled := by
  have harr := afterArrival_arrives p clk g
  have hrun := run_pingipAccept_tagged hv p
  rw [recvHandler_pingip hmode]
  by_cases hM : ArpMatches cfg p.byte harpTagged
  · have hacc := pingipRecv_accept (hrun.trans (if_pos hM)) clk g
    rw [hacc.counted, hacc.handled, harr.counted, harr.handled, hg]
    simp [tagBlind, hM]
  · rw [pingipRecv_reject (hrun.trans (if_neg hM)), harr.counted, harr.handled, hg]
    simp [tagBlind, hM]

/-- A frame counts or not whatever its 802.1Q tag and inner type are. -/
theorem arpMatches_tagged_congr {cfg : Config} {p p' : Packet}
    (h : ∀ i, harpTagged ≤ i → p.byte i = p'.byte i) :
    ArpMatches cfg p.byte harpTagged ↔ ArpMatches cfg p'.byte harpTagged := by
  let n := (p'.byte (harpTagged + arHln)).toNat + 14
  have hm : ∀ i < n, p.byte (harpTagged + i) = p'.byte (harpTagged + i) :=
    fun i _ => h _ (Nat.le_add_right _ i)
  exact arpMatches_shift hm ⟨by omega, fun _ => ⟨fun _ => by omega, fun _ => by omega⟩⟩

/-- **No VLAN isolation.** With `-V` in IP mode every frame is delivered, and in every run the
counted frames are those whose bytes from offset 40 on are a matching ARP packet; which tag a
frame has, or whether it has one, plays no part. -/
theorem pingLoop_counted_tagged {cfg : Config} (hmode : cfg.mode = .pingip)
    (hv : 0 ≤ cfg.vlanTag) :
    (∀ passes p, Delivered passes cfg p) ∧
      (∀ env, (pingLoop cfg env State.init).state.2.counted =
        tagBlind cfg (pingLoop cfg env State.init).state.2.handled) ∧
      ∀ p p' : Packet, (∀ i, harpTagged ≤ i → p.byte i = p'.byte i) →
        (ArpMatches cfg p.byte harpTagged ↔ ArpMatches cfg p'.byte harpTagged) := by
  refine ⟨fun passes p f hf => ?_, fun env => ?_, fun p p' => arpMatches_tagged_congr⟩
  · rw [installedFilter, if_neg (Int16.not_lt.mpr hv)] at hf
    cases hf
  · apply pingLoop_inv (I := fun g => g.counted = tagBlind cfg g.handled)
    · intro g g' hsame hg
      rw [hsame.counted, hsame.handled, hg]
    · exact recvHandler_tagBlind hmode hv
    · rfl

/-- Pinging once in VLAN 5. -/
def vlanConfig : Config := { ipConfig.withTag 5 with maxcount := 1 }

theorem pingLoop_counted_vlanConfig :
    (∀ passes p, Delivered passes vlanConfig p) ∧
      (∀ env, (pingLoop vlanConfig env State.init).state.2.counted =
        tagBlind vlanConfig (pingLoop vlanConfig env State.init).state.2.handled) ∧
      ∀ p p' : Packet, (∀ i, harpTagged ≤ i → p.byte i = p'.byte i) →
        (ArpMatches vlanConfig p.byte harpTagged ↔ ArpMatches vlanConfig p'.byte harpTagged) :=
  pingLoop_counted_tagged rfl (by decide)

/-- An untagged frame whose bytes line up with an ARP reply at the tagged offset. -/
def linedUpFrame : Packet :=
  captured zeroTtp (ethHeader ethxmas #v[2, 0, 0, 0, 0, 7] #v[0x08, 0x06])
    ([0, 1, 0x08, 0] ++ arpBody 2 7) fun _ => 0

/-- It is counted in VLAN 5, and so is a reply from VLAN 6. -/
theorem otherVlan_counted :
    let run := pingLoop vlanConfig (runOf [[vlanFrame 6 (arpBody 2 7), linedUpFrame]]) State.init
    run.state.2.counted.length = 2 ∧ ∀ p ∈ run.state.2.counted, ¬ VlanArp 5 p := by
  decide +kernel

end Arping
