import Arping.Handlers

/-!
# What the receive handlers count

`ArpMatches cfg m harp` is the wire format the checks of `pingip_recv` amount to: the ARP header
at `harp` announces an Ethernet/IPv4 reply, sent by the target where that is demanded, whose
sender protocol address is `dstip`. `run_arpAccept` says that the chain of rejections is this
predicate, `run_pingipAccept_tagged` and `run_pingipAccept_untagged` add what its branch checks.

`Counts` and `CountsArp` list everything a counted reply changes; `recvHandler_cases` says that a
handler does this or nothing.
-/

namespace Arping

open ByteReader

/-- The big-endian 16-bit value at `i`. -/
def be16 (m : ℕ → UInt8) (i : ℕ) : ℕ := 256 * (m i).toNat + (m (i + 1)).toNat

/-- The `n` bytes at `i`. -/
def bytesAt (m : ℕ → UInt8) (i n : ℕ) : Vector UInt8 n := Vector.ofFn fun j : Fin n => m (i + j)

theorem run_field16 (host : Endian) (m : ℕ → UInt8) (off : ℕ) :
    (field16 host off).run m = UInt16.ofNat (be16 m off) := by
  unfold field16
  rw [run_bind, run_bind, run_get, run_get, run_pure, Endian.htons_load16]
  rfl

theorem run_field32 (host : Endian) (m : ℕ → UInt8) (off : ℕ) :
    (field32 host off).run m = host.load32 (bytesAt m off 4) := by
  unfold field32
  rw [run_bind, run_slice, run_pure]
  rfl

theorem be16_lt (m : ℕ → UInt8) (i : ℕ) : be16 m i < 2 ^ 16 := by
  have h₁ := (m i).toNat_lt
  have h₂ := (m (i + 1)).toNat_lt
  unfold be16
  omega

/-- A 16-bit field is compared by its big-endian value. -/
theorem ofNat_be16_eq_iff (m : ℕ → UInt8) (i : ℕ) (x : UInt16) :
    UInt16.ofNat (be16 m i) = x ↔ be16 m i = x.toNat := by
  rw [← UInt16.toNat_inj, UInt16.toNat_ofNat_of_lt' (be16_lt m i)]

/-! ## The wire format -/

/-- The header at `harp` is that of an ARP reply for IPv4 over Ethernet. -/
def ArpReplyHeader (m : ℕ → UInt8) (harp : ℕ) : Prop :=
  be16 m (harp + arOp) = 2 ∧ be16 m (harp + arPro) = 0x0800 ∧ be16 m (harp + arHrd) = 1

/-- The sender hardware address is the target's, where `addr_must_be_same` demands it. -/
def SenderAllowed (cfg : Config) (m : ℕ → UInt8) (harp : ℕ) : Prop :=
  cfg.addrMustBeSame = true → bytesAt m (harp + libnetArpH) 6 = cfg.dstmac

/-- The sender protocol address, which lies behind `ar_hln` bytes of hardware address, is
`dstip`. -/
def SenderIsTarget (cfg : Config) (m : ℕ → UInt8) (harp : ℕ) : Prop :=
  bytesAt m (harp + (m (harp + arHln)).toNat + libnetArpH) 4 = cfg.host.bytes32 cfg.dstip

/-- The ARP packet at `harp` passes the checks that both branches of `pingip_recv` share. -/
def ArpMatches (cfg : Config) (m : ℕ → UInt8) (harp : ℕ) : Prop :=
  ArpReplyHeader m harp ∧ SenderAllowed cfg m harp ∧ SenderIsTarget cfg m harp

instance (m : ℕ → UInt8) (harp : ℕ) : Decidable (ArpReplyHeader m harp) := by
  unfold ArpReplyHeader; infer_instance

instance (cfg : Config) (m : ℕ → UInt8) (harp : ℕ) : Decidable (SenderAllowed cfg m harp) := by
  unfold SenderAllowed; infer_instance

instance (cfg : Config) (m : ℕ → UInt8) (harp : ℕ) : Decidable (SenderIsTarget cfg m harp) := by
  unfold SenderIsTarget; infer_instance

instance (cfg : Config) (m : ℕ → UInt8) (harp : ℕ) : Decidable (ArpMatches cfg m harp) := by
  unfold ArpMatches; infer_instance

/-! ## The shared checks -/

theorem run_sentByTarget (cfg : Config) (m : ℕ → UInt8) (harp : ℕ) :
    (sentByTarget cfg harp).run m = decide (SenderAllowed cfg m harp) := by
  unfold sentByTarget SenderAllowed
  by_cases h : cfg.addrMustBeSame = true
  · rw [if_pos h, run_bind, run_slice, run_pure, Bool.eq_iff_iff]
    simp [bytesAt, h]
  · rw [if_neg h, run_pure]
    simp [h]

/-- The chain of rejections is one predicate. -/
theorem run_arpAccept (cfg : Config) (m : ℕ → UInt8) (harp shost : ℕ) :
    (arpAccept cfg harp shost).run m =
      if ArpMatches cfg m harp then some (bytesAt m shost 6, cfg.dstip) else none := by
  unfold arpAccept
  simp only [run_bind, run_ite, run_pure, run_field16, run_field32, run_sentByTarget, run_get,
    run_slice, ne_eq, ofNat_be16_eq_iff, Bool.not_eq_true', decide_eq_false_iff_not,
    show arpopReply.toNat = 2 from rfl, show ethertypeIp.toNat = 0x0800 from rfl,
    show arphrdEther.toNat = 1 from rfl]
  by_cases h : ArpMatches cfg m harp
  · obtain ⟨⟨hop, hpro, hhrd⟩, hsame, hip⟩ := id h
    have hload := (Endian.load32_eq_iff cfg.host _ cfg.dstip).mpr hip
    rw [if_pos h, if_neg (not_not.mpr hop), if_neg (not_not.mpr hpro), if_neg (not_not.mpr hhrd),
      if_neg (not_not.mpr hsame), if_neg (not_not.mpr hload.symm), hload]
    rfl
  · rw [if_neg h]
    split_ifs with hop hpro hhrd hsame hip
    all_goals try rfl
    -- every check passed, so the packet matches after all
    have hload := (Endian.load32_eq_iff cfg.host _ cfg.dstip).mp hip.symm
    exact absurd ⟨⟨hop, hpro, hhrd⟩, hsame, hload⟩ h

/-! ## The two branches -/

/-- Offset of the ARP header behind an Ethernet and behind an 802.1Q header. -/
def harpUntagged : ℕ := shiftEther + libnetEthH
def harpTagged : ℕ := shiftEther + libnet8021QH

/-- `pkt_srcmac` in either branch. -/
def Packet.srcmac (p : Packet) : Mac := bytesAt p.byte (shiftEther + shostOff) 6

/-- The tagged branch accepts what passes the shared checks at the tagged offset. -/
theorem run_pingipAccept_tagged {cfg : Config} (hv : 0 ≤ cfg.vlanTag) (p : Packet) :
    (pingipAccept cfg p.caplen).run p.byte =
      if ArpMatches cfg p.byte harpTagged then some (p.srcmac, cfg.dstip) else none := by
  unfold pingipAccept
  rw [if_pos hv]
  exact run_arpAccept cfg p.byte harpTagged (shiftEther + shostOff)

/-- The length fields that only the untagged branch checks. -/
def EthIpLengths (m : ℕ → UInt8) (harp : ℕ) : Prop :=
  m (harp + arHln) = 6 ∧ m (harp + arPln) = 4

instance (m : ℕ → UInt8) (harp : ℕ) : Decidable (EthIpLengths m harp) := by
  unfold EthIpLengths; infer_instance

/-- The untagged branch also wants 42 captured bytes and Ethernet/IPv4 address lengths. -/
theorem run_pingipAccept_untagged {cfg : Config} (hv : cfg.vlanTag < 0) (p : Packet) :
    (pingipAccept cfg p.caplen).run p.byte =
      if 42 ≤ p.caplen.toNat ∧ EthIpLengths p.byte harpUntagged ∧
          ArpMatches cfg p.byte harpUntagged
      then some (p.srcmac, cfg.dstip) else none := by
  unfold pingipAccept
  rw [if_neg (Int16.not_le.mpr hv)]
  have hsize : libnetEthH + libnetArpH + 2 * (ethAlen + 4) = 42 := rfl
  rw [hsize]
  simp only [run_ite, run_get_bind, run_pure, run_arpAccept]
  by_cases h : 42 ≤ p.caplen.toNat ∧ EthIpLengths p.byte harpUntagged ∧
      ArpMatches cfg p.byte harpUntagged
  · obtain ⟨hlen, ⟨hhln, hpln⟩, hm⟩ := id h
    have hhln' : (p.byte (shiftEther + libnetEthH + arHln)).toNat = ethAlen :=
      congrArg UInt8.toNat hhln
    have hpln' : p.byte (shiftEther + libnetEthH + arPln) = 4 := hpln
    rw [if_pos h, if_neg (by omega), if_neg (not_not.mpr hhln'), if_neg (not_not.mpr hpln')]
    exact if_pos hm
  · rw [if_neg h]
    split_ifs with hlen hhln hpln hm
    all_goals try rfl
    have hhln' : p.byte (shiftEther + libnetEthH + arHln) = 6 :=
      UInt8.toNat_inj.mp (not_not.mp hhln)
    exact absurd ⟨by omega, ⟨hhln', not_not.mp hpln⟩, hm⟩ h

/-! ## Echo replies -/

/-- `pingmac_recv` accepts whatever has a zero byte where it looks for the ICMP type. -/
theorem run_pingmacAccept_isSome (cfg : Config) (len : UInt32) (sent arrival : Timespec)
    (m : ℕ → UInt8) :
    ((pingmacAccept cfg len sent arrival).run m).isSome = true ↔
      m (shiftEther + libnetIpv4H + icmpType) = 0 := by
  unfold pingmacAccept
  dsimp only
  rw [run_get_bind, run_ite]
  have htype : cfg.host.htons (m (shiftEther + libnetIpv4H + icmpType)).toUInt16 = icmpEchoreply ↔
      m (shiftEther + libnetIpv4H + icmpType) = 0 := Endian.htons_byte_eq_zero cfg.host _
  by_cases h : m (shiftEther + libnetIpv4H + icmpType) = 0
  · rw [if_neg (not_not.mpr (htype.mpr h))]
    cases cfg.display <;> simp [h]
  · rw [if_pos (mt htype.mp h)]
    simp [h]

/-! ## Counted replies -/

/-- Everything a counted reply `p` with the sample `t` changes in either mode. -/
structure Counts (cfg : Config) (p : Packet) (t : ℚ) (g g' : State) : Prop where
  numrecvd : g'.numrecvd = g.numrecvd + 1
  stats : g'.stats = updateStats t g.stats
  timeToDie : g'.timeToDie = (g.timeToDie || decide (cfg.maxReplies ≤ g.numrecvd + 1))
  lastpacketsent : g'.lastpacketsent = g.lastpacketsent
  numsent : g'.numsent = g.numsent
  counted : g'.counted = g.counted ++ [p]
  handled : g'.handled = g.handled
  samples : g'.samples = g.samples ++ [t]

/-- In IP mode it is also compared with the previous one. -/
structure CountsArp (cfg : Config) (p : Packet) (mac : Mac) (t : ℚ) (g g' : State) : Prop
    extends Counts cfg p t g g' where
  lastreplymac : g'.lastreplymac = mac
  dupfound : g'.dupfound = (g.dupfound || decide (g.numrecvd ≠ 0 ∧ g.lastreplymac ≠ mac))

theorem countReply_eq (cfg : Config) (p : Packet) (g : State) :
    countReply cfg p g =
      { g with
        numrecvd := g.numrecvd + 1
        timeToDie := g.timeToDie || decide (cfg.maxReplies ≤ g.numrecvd + 1)
        trace := g.trace ++ [.count p] } := by
  unfold countReply
  by_cases h : cfg.maxReplies ≤ g.numrecvd + 1
  · rw [decide_eq_true h, Bool.or_true]
    exact if_pos h
  · rw [decide_eq_false h, Bool.or_false]
    exact if_neg h

theorem checkDup_eq (mac : Mac) (g : State) :
    checkDup mac g =
      { g with
        lastreplymac := mac
        dupfound := g.dupfound || decide (g.numrecvd ≠ 0 ∧ g.lastreplymac ≠ mac) } := by
  unfold checkDup
  by_cases h : g.numrecvd ≠ 0 ∧ g.lastreplymac ≠ mac
  · rw [decide_eq_true h, Bool.or_true, if_pos h]
  · rw [decide_eq_false h, Bool.or_false, if_neg h]

/-- The statistics, the printing and the counting together. -/
theorem countReply_counts (cfg : Config) (p : Packet) (arrival : Timespec) (os : List Output)
    (g : State) :
    Counts cfg p (timespec2dbl arrival - timespec2dbl g.lastpacketsent) g
      (countReply cfg p ((takeSample arrival g).prints os)) := by
  have hprints := SameReceived.prints os (takeSample arrival g)
  rw [countReply_eq]
  refine ⟨rfl, rfl, rfl, rfl, rfl, ?_, ?_, ?_⟩
  · calc _ = ((takeSample arrival g).prints os).counted ++ [p] := State.counted_emit (.count p) _
      _ = (g.counted ++ []) ++ [p] := by rw [hprints.counted, takeSample, State.counted_emit]; rfl
      _ = g.counted ++ [p] := by rw [List.append_nil]
  · calc _ = ((takeSample arrival g).prints os).handled ++ [] := State.handled_emit (.count p) _
      _ = (g.handled ++ []) ++ [] := by rw [hprints.handled, takeSample, State.handled_emit]; rfl
      _ = g.handled := by rw [List.append_nil, List.append_nil]
  · calc _ = ((takeSample arrival g).prints os).samples ++ [] := State.samples_emit (.count p) _
      _ = g.samples ++ [_] := by
        rw [List.append_nil, hprints.samples, takeSample, State.samples_emit]; rfl

theorem pingipReply_counts (cfg : Config) (p : Packet) (mac : Mac) (ip : UInt32)
    (arrival : Timespec) (g : State) :
    CountsArp cfg p mac (timespec2dbl arrival - timespec2dbl g.lastpacketsent) g
      (pingipReply cfg p mac ip arrival g) := by
  unfold pingipReply
  dsimp only
  generalize replyOutputs cfg _ = os
  have h := countReply_counts cfg p arrival os g
  rw [countReply_eq] at h
  rw [checkDup_eq, countReply_eq]
  exact { toCounts := ⟨rfl, rfl, rfl, rfl, rfl, h.counted, h.handled, h.samples⟩
          lastreplymac := rfl
          dupfound := rfl }

/-! ## One call of a handler -/

/-- The state in which the handler looks at the packet. -/
def afterArrival (p : Packet) (clk : ClockCall) (g : State) : State :=
  (getclock clk (g.emit (.handle p))).2

/-- Everything a call of a handler changes by itself: `time_to_die`, if the clock fails. -/
structure Arrives (p : Packet) (clk : ClockCall) (g g' : State) : Prop where
  numrecvd : g'.numrecvd = g.numrecvd
  lastreplymac : g'.lastreplymac = g.lastreplymac
  dupfound : g'.dupfound = g.dupfound
  stats : g'.stats = g.stats
  timeToDie : g'.timeToDie = (g.timeToDie || !decide clk.Succeeds)
  lastpacketsent : g'.lastpacketsent = g.lastpacketsent
  numsent : g'.numsent = g.numsent
  counted : g'.counted = g.counted
  handled : g'.handled = g.handled ++ [p]
  samples : g'.samples = g.samples

theorem afterArrival_arrives (p : Packet) (clk : ClockCall) (g : State) :
    Arrives p clk g (afterArrival p clk g) := by
  have hsame := SameReceived.getclock clk (g.emit (.handle p))
  refine ⟨hsame.numrecvd, hsame.lastreplymac, hsame.dupfound, hsame.stats, ?_, ?_, ?_, ?_, ?_, ?_⟩
  · cases clk with
    | ok now => exact (Bool.or_false _).symm
    | fail junk => exact (Bool.or_true _).symm
  · cases clk <;> rfl
  · cases clk <;> rfl
  · exact hsame.counted.trans ((State.counted_emit (.handle p) g).trans (List.append_nil _))
  · exact hsame.handled.trans (State.handled_emit (.handle p) g)
  · exact hsame.samples.trans ((State.samples_emit (.handle p) g).trans (List.append_nil _))

/-- `timespec2dbl(&arrival) - timespec2dbl(&lastpacketsent)`. -/
def sampleOf (clk : ClockCall) (g : State) : ℚ :=
  timespec2dbl clk.timespec - timespec2dbl g.lastpacketsent

theorem sampleOf_afterArrival (p : Packet) (clk clk' : ClockCall) (g : State) :
    sampleOf clk (afterArrival p clk' g) = sampleOf clk g := by
  rw [sampleOf, (afterArrival_arrives p clk' g).lastpacketsent, sampleOf]

/-- A rejected packet leaves everything else as it was. -/
theorem pingipRecv_reject {cfg : Config} {p : Packet}
    (h : (pingipAccept cfg p.caplen).run p.byte = none) (clk : ClockCall) (g : State) :
    pingipRecv cfg p clk g = afterArrival p clk g := by
  unfold pingipRecv
  rw [h]
  rfl

theorem pingipRecv_accept {cfg : Config} {p : Packet} {mac : Mac} {ip : UInt32}
    (h : (pingipAccept cfg p.caplen).run p.byte = some (mac, ip)) (clk : ClockCall) (g : State) :
    CountsArp cfg p mac (sampleOf clk g) (afterArrival p clk g) (pingipRecv cfg p clk g) := by
  rw [← sampleOf_afterArrival p clk clk g]
  unfold pingipRecv
  rw [h]
  exact pingipReply_counts cfg p mac ip clk.timespec _

theorem recvHandler_pingip {cfg : Config} (hmode : cfg.mode = .pingip) (p : Packet)
    (clk : ClockCall) (g : State) : recvHandler cfg p clk g = pingipRecv cfg p clk g := by
  unfold recvHandler
  rw [hmode]

/-- The packet passes the checks of the handler of the mode. -/
def Accepts (cfg : Config) (p : Packet) : Prop :=
  match cfg.mode with
  | .pingip => ((pingipAccept cfg p.caplen).run p.byte).isSome = true
  | _ => p.byte (shiftEther + libnetIpv4H + icmpType) = 0

theorem accepts_pingip {cfg : Config} (hmode : cfg.mode = .pingip) (p : Packet) :
    Accepts cfg p ↔ ((pingipAccept cfg p.caplen).run p.byte).isSome = true := by
  unfold Accepts
  rw [hmode]

theorem accepts_pingmac {cfg : Config} (hmode : cfg.mode ≠ .pingip) (p : Packet)
    (sent arrival : Timespec) :
    Accepts cfg p ↔ ((pingmacAccept cfg p.len sent arrival).run p.byte).isSome = true := by
  rw [run_pingmacAccept_isSome]
  unfold Accepts
  split
  · contradiction
  · exact Iff.rfl

theorem recvHandler_pingmac {cfg : Config} (hmode : cfg.mode ≠ .pingip) (p : Packet)
    (clk : ClockCall) (g : State) : recvHandler cfg p clk g = pingmacRecv cfg p clk g := by
  unfold recvHandler
  split
  · contradiction
  · rfl

/-- An acceptable packet is counted. -/
theorem recvHandler_counts {cfg : Config} {p : Packet} (h : Accepts cfg p) (clk : ClockCall)
    (g : State) :
    Counts cfg p (sampleOf clk g) (afterArrival p clk g) (recvHandler cfg p clk g) := by
  by_cases hmode : cfg.mode = .pingip
  · rw [accepts_pingip hmode] at h
    obtain ⟨⟨mac, ip⟩, hrun⟩ := Option.isSome_iff_exists.mp h
    rw [recvHandler_pingip hmode]
    exact (pingipRecv_accept hrun clk g).toCounts
  · rw [accepts_pingmac hmode p (afterArrival p clk g).lastpacketsent clk.timespec] at h
    obtain ⟨line, hrun⟩ := Option.isSome_iff_exists.mp h
    have hrecv : pingmacRecv cfg p clk g = countReply cfg p
        ((takeSample clk.timespec (afterArrival p clk g)).prints (replyOutputs cfg line)) := by
      unfold pingmacRecv
      dsimp only [getclock]
      split
      · rename_i hnone
        cases hrun.symm.trans hnone
      · rename_i hsome
        cases hrun.symm.trans hsome
        rfl
    rw [recvHandler_pingmac hmode, hrecv, ← sampleOf_afterArrival p clk clk g]
    exact countReply_counts cfg p clk.timespec _ _

/-- Any other leaves everything else as it was. -/
theorem recvHandler_rejects {cfg : Config} {p : Packet} (h : ¬ Accepts cfg p) (clk : ClockCall)
    (g : State) : recvHandler cfg p clk g = afterArrival p clk g := by
  by_cases hmode : cfg.mode = .pingip
  · rw [accepts_pingip hmode, Option.not_isSome_iff_eq_none] at h
    rw [recvHandler_pingip hmode]
    exact pingipRecv_reject h clk g
  · rw [accepts_pingmac hmode p (afterArrival p clk g).lastpacketsent clk.timespec,
      Option.not_isSome_iff_eq_none] at h
    rw [recvHandler_pingmac hmode]
    unfold pingmacRecv
    dsimp only [getclock]
    split
    · rfl
    · rename_i hsome
      cases h.symm.trans hsome

/-- In either mode the handler rejects the packet or counts it. -/
theorem recvHandler_cases (cfg : Config) (p : Packet) (clk : ClockCall) (g : State) :
    recvHandler cfg p clk g = afterArrival p clk g ∨
      Counts cfg p (sampleOf clk g) (afterArrival p clk g) (recvHandler cfg p clk g) := by
  by_cases h : Accepts cfg p
  · exact Or.inr (recvHandler_counts h clk g)
  · exact Or.inl (recvHandler_rejects h clk g)

theorem recvHandler_numsent (cfg : Config) (p : Packet) (clk : ClockCall) (g : State) :
    (recvHandler cfg p clk g).numsent = g.numsent := by
  have harr := afterArrival_arrives p clk g
  rcases recvHandler_cases cfg p clk g with hrej | hcount
  · rw [hrej, harr.numsent]
  · rw [hcount.numsent, harr.numsent]

theorem recvHandler_lastpacketsent (cfg : Config) (p : Packet) (clk : ClockCall) (g : State) :
    (recvHandler cfg p clk g).lastpacketsent = g.lastpacketsent := by
  have harr := afterArrival_arrives p clk g
  rcases recvHandler_cases cfg p clk g with hrej | hcount
  · rw [hrej, harr.lastpacketsent]
  · rw [hcount.lastpacketsent, harr.lastpacketsent]

/-- `time_to_die` is never reset. -/
theorem recvHandler_die {g : State} (h : g.timeToDie = true) (cfg : Config) (p : Packet)
    (clk : ClockCall) : (recvHandler cfg p clk g).timeToDie = true := by
  have harr := (afterArrival_arrives p clk g).timeToDie
  rw [h, Bool.true_or] at harr
  rcases recvHandler_cases cfg p clk g with hrej | hcount
  · rw [hrej, harr]
  · rw [hcount.timeToDie, harr, Bool.true_or]

/-! ## What a handler records -/

/-- Printed for a reply: neither `.` nor `Timeout`. -/
def Output.ForReply : Output → Prop
  | dot => False
  | timeout => False
  | _ => True

/-- Recorded by a call of a handler. -/
def Event.OfHandler : Event → Prop
  | handle _ => True
  | sample _ => True
  | count _ => True
  | print o => o.ForReply
  | _ => False

theorem ipReplyLine_forReply (cfg : Config) (p : Packet) (mac : Mac) (ip : UInt32)
    (arrival : Timespec) (g : State) : ∀ o ∈ ipReplyLine cfg p mac ip arrival g, o.ForReply := by
  intro o ho
  unfold ipReplyLine at ho
  cases hd : cfg.display <;> rw [hd] at ho <;>
    simp only [List.mem_singleton, List.not_mem_nil] at ho <;> rw [ho] <;> trivial

theorem pingmacAccept_forReply {cfg : Config} {len : UInt32} {sent arrival : Timespec}
    {m : ℕ → UInt8} {line : List Output}
    (h : (pingmacAccept cfg len sent arrival).run m = some line) : ∀ o ∈ line, o.ForReply := by
  unfold pingmacAccept at h
  dsimp only at h
  rw [run_get_bind, run_ite] at h
  split at h
  · cases h
  · intro o ho
    cases hd : cfg.display <;> rw [hd] at h <;> simp only [run_bind, run_pure] at h <;>
      rw [← Option.some.inj h] at ho <;>
      simp only [List.mem_singleton, List.not_mem_nil] at ho <;> rw [ho] <;> trivial

theorem replyOutputs_forReply (cfg : Config) {line : List Output}
    (h : ∀ o ∈ line, o.ForReply) : ∀ o ∈ replyOutputs cfg line, o.ForReply := by
  intro o ho
  unfold replyOutputs at ho
  rw [List.mem_append, List.mem_append] at ho
  rcases ho with (hbell | hline) | hnewline
  · split at hbell
    · rw [List.mem_singleton.mp hbell]
      trivial
    · cases hbell
  · exact h o hline
  · split at hnewline
    · cases hnewline
    · cases hnewline
    · rw [List.mem_singleton.mp hnewline]
      trivial

/-- A counted reply records its sample, its line and itself. -/
theorem countReply_records (cfg : Config) (p : Packet) (arrival : Timespec) {line : List Output}
    (hline : ∀ o ∈ line, o.ForReply) (g : State) :
    Records Event.OfHandler g
      (countReply cfg p ((takeSample arrival g).prints (replyOutputs cfg line))) := by
  have hsample : Records Event.OfHandler g (takeSample arrival g) := Records.emit trivial _
  have hprints := hsample.trans
    (Records.prints (replyOutputs_forReply cfg hline) (takeSample arrival g))
  rw [countReply_eq]
  exact hprints.trans (Records.emit trivial _)

theorem pingipReply_records (cfg : Config) (p : Packet) (mac : Mac) (ip : UInt32)
    (arrival : Timespec) (g : State) :
    Records Event.OfHandler g (pingipReply cfg p mac ip arrival g) := by
  have h := countReply_records cfg p arrival
    (ipReplyLine_forReply cfg p mac ip arrival (takeSample arrival g)) g
  rw [countReply_eq] at h
  unfold pingipReply
  dsimp only
  rw [checkDup_eq, countReply_eq]
  exact h

theorem afterArrival_records (p : Packet) (clk : ClockCall) (g : State) :
    Records Event.OfHandler g (afterArrival p clk g) :=
  (Records.emit trivial g).trans (Records.getclock clk _)

/-- A call of the handler records nothing but events of the handler. -/
theorem recvHandler_records (cfg : Config) (p : Packet) (clk : ClockCall) (g : State) :
    Records Event.OfHandler g (recvHandler cfg p clk g) := by
  have harr := afterArrival_records p clk g
  unfold recvHandler
  split
  · unfold pingipRecv
    dsimp only [getclock]
    split
    · exact harr
    · exact harr.trans (pingipReply_records cfg p _ _ _ _)
  · unfold pingmacRecv
    dsimp only [getclock]
    split
    · exact harr
    · rename_i line hline
      exact harr.trans (countReply_records cfg p _ (pingmacAccept_forReply hline) _)

/-! ## Sample frames -/

/-- Untagged IP mode, pinging 10.0.0.1. -/
def ipConfig : Config :=
  { Config.init .little with mode := .pingip, dstip := 0x0100000a }

/-- A reading of the clock. -/
def readingAt (sec : ℤ) : ClockCall := .ok ⟨⟨sec, 0⟩, le_refl 0, by norm_num⟩

/-- An ARP packet of 10.0.0.1 at 02:00:00:00:00:`mac` with the operation `op`. -/
def arpBody (op mac : UInt8) : List UInt8 :=
  [0, 1, 0x08, 0, 6, 4, 0, op, 2, 0, 0, 0, 0, mac, 10, 0, 0, 1, 2, 0, 0, 0, 0, 0, 10, 0, 0, 9]

/-- It is captured behind the TTP header and an Ethernet header. -/
def arpFrame (op mac : UInt8) : Packet := Packet.ofBytes
  (List.replicate 22 0 ++ [0xff, 0xff, 0xff, 0xff, 0xff, 0xff, 2, 0, 0, 0, 0, mac, 0x08, 0x06] ++
    arpBody op mac)
  fun _ => 0

/-- A reply and a request. -/
def arpReplyFrame (mac : UInt8) : Packet := arpFrame 2 mac
def arpRequestFrame (mac : UInt8) : Packet := arpFrame 1 mac

end Arping
