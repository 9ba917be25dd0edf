import Arping.Senders
import Arping.Session

/-!
# Requests and replies on the wire

libnet puts the arguments of a request into the headers of `libnet-headers.h`, in network byte
order, and addresses as they lie in the memory of the sender. `Carries` says that a captured packet
holds an ARP frame built from given arguments, `CarriesIcmp` the same of an ICMP message behind an
IPv4 header without options, whose Ethernet header is stripped off before `pingmac_recv` sees it.

Of the ARP frames for Ethernet and IPv4, `pingip_recv` counts the replies whose sender protocol
address is the one pinged, if the frame has a tag where the program looks for one
(`accepts_iff_of_carries`); the number of the VLAN does not matter. A request of another run is such
a frame only with `-P` and in the name of the target (`accepts_arpRequest_iff`). Behind such IPv4
headers `pingmac_recv` counts every echo reply (`accepts_iff_of_carriesIcmp`).
-/

namespace Arping

/-! ## Layout -/

/-- The length of the header that is built from `e`. -/
def etherLen (e : EtherArgs) : ℕ := if e.tag.isSome then libnet8021QH else libnetEthH

/-- The Ethernet or 802.1Q header at `heth`, with the fields of `vlan_priority_c_vid` for the
latter. -/
structure HoldsEther (m : ℕ → UInt8) (heth : ℕ) (e : EtherArgs) : Prop where
  dst : bytesAt m heth 6 = e.dst
  src : bytesAt m (heth + shostOff) 6 = e.src
  tpi : ∀ t, e.tag = some t → be16 m (heth + 12) = t.tpi.toNat
  priority : ∀ t, e.tag = some t → (be16 m (heth + 14) / 2 ^ 13 : ℤ) = t.priority.toInt
  vlanId : ∀ t, e.tag = some t → (be16 m (heth + 14) % 2 ^ 12 : ℤ) = t.vlanId.toInt
  type : be16 m (heth + etherLen e - 2) = e.type.toNat

/-- The ARP header at `harp` and the four addresses behind it, from a host with the byte order
`host`. -/
structure HoldsArp (host : Endian) (m : ℕ → UInt8) (harp : ℕ) (a : ArpArgs) : Prop where
  hrd : be16 m (harp + arHrd) = a.hrd.toNat
  pro : be16 m (harp + arPro) = a.pro.toNat
  hln : (m (harp + arHln)).toNat = a.hln
  pln : (m (harp + arPln)).toNat = a.pln
  op : be16 m (harp + arOp) = a.op.toNat
  sha : bytesAt m (harp + libnetArpH) 6 = a.sha
  spa : bytesAt m (harp + a.hln + libnetArpH) 4 = host.bytes32 a.spa
  tha : bytesAt m (harp + a.hln + a.pln + libnetArpH) 6 = a.tha
  tpa : bytesAt m (harp + 2 * a.hln + a.pln + libnetArpH) 4 = host.bytes32 a.tpa

/-- The packet holds the frame behind the TTP header, and at least as many bytes are captured as the
frame has. The 22 bytes of the TTP header are not added to them, nor are they by the check of
`pingip_recv`. -/
structure Carries (host : Endian) (p : Packet) (a : ArpArgs) (e : EtherArgs) : Prop where
  captured : etherLen e + libnetArpH + 2 * (a.hln + a.pln) ≤ p.caplen.toNat
  eth : HoldsEther p.byte shiftEther e
  arp : HoldsArp host p.byte (shiftEther + etherLen e) a

/-- The IPv4 header at `hip`, without options, from a host with the byte order `host`. -/
structure HoldsIpv4 (host : Endian) (m : ℕ → UInt8) (hip : ℕ) (h : Ipv4Args) : Prop where
  ihl : m hip = 0x45
  tos : m (hip + 1) = h.tos
  len : be16 m (hip + 2) = h.len
  id : be16 m (hip + 4) = h.id.toNat
  frag : be16 m (hip + 6) = h.frag.toNat
  ttl : m (hip + 8) = h.ttl
  prot : m (hip + 9) = h.prot
  src : bytesAt m (hip + ipSrc) 4 = host.bytes32 h.src
  dst : bytesAt m (hip + ipSrc + 4) 4 = host.bytes32 h.dst

/-- The ICMP header at `hicmp`. -/
structure HoldsIcmp (m : ℕ → UInt8) (hicmp : ℕ) (i : IcmpArgs) : Prop where
  type : m (hicmp + icmpType) = i.type
  code : m (hicmp + 1) = i.code
  id : be16 m (hicmp + 4) = i.id.toNat
  seq : be16 m (hicmp + icmpSeq) = i.seq.toNat

/-- The packet is captured with the TTP header and the whole of both headers; the IPv4 header has no
options. -/
structure CarriesIcmp (host : Endian) (p : Packet) (i : IcmpArgs) (h : Ipv4Args) : Prop where
  captured : shiftEther + libnetIpv4H + 8 ≤ p.caplen.toNat
  ip : HoldsIpv4 host p.byte shiftEther h
  icmp : HoldsIcmp p.byte (shiftEther + libnetIpv4H) i

/-- The packet holds the request, or what another host sends in its place. -/
def Request.CarriedBy (host : Endian) (p : Packet) : Request → Prop
  | .arp a e => Carries host p a e
  | .icmp i h _ => CarriesIcmp host p i h

/-- A request or a reply for Ethernet and IPv4. -/
structure EthIp (a : ArpArgs) : Prop where
  hrd : a.hrd = arphrdEther
  pro : a.pro = ethertypeIp
  hln : a.hln = 6
  pln : a.pln = 4
  op : a.op = arpopRequest ∨ a.op = arpopReply

theorem Carries.srcmac {host : Endian} {p : Packet} {a : ArpArgs} {e : EtherArgs}
    (h : Carries host p a e) : p.srcmac = e.src := h.eth.src

/-! ## What is counted -/

section Counted

variable {cfg : Config} {host : Endian} {p : Packet} {a : ArpArgs} {e : EtherArgs}

/-- A reply in the name of the target. -/
structure AnswersFor (cfg : Config) (host : Endian) (a : ArpArgs) : Prop where
  op : a.op = arpopReply
  spa : host.bytes32 a.spa = cfg.host.bytes32 cfg.dstip
  sha : cfg.addrMustBeSame = true → a.sha = cfg.dstmac

/-- Where the header is looked for at the right place, the shared checks are these. -/
theorem arpMatches_iff {m : ℕ → UInt8} {harp : ℕ} (h : HoldsArp host m harp a) (ha : EthIp a) :
    ArpMatches cfg m harp ↔ AnswersFor cfg host a := by
  have hop : be16 m (harp + arOp) = 2 ↔ a.op = arpopReply := by
    rw [h.op, ← UInt16.toNat_inj]
    rfl
  have hpro : be16 m (harp + arPro) = 0x0800 := by
    rw [h.pro, ha.pro]
    rfl
  have hhrd : be16 m (harp + arHrd) = 1 := by
    rw [h.hrd, ha.hrd]
    rfl
  unfold ArpMatches ArpReplyHeader SenderAllowed SenderIsTarget
  rw [hop, h.sha, h.hln, h.spa]
  constructor
  · rintro ⟨⟨hreply, -⟩, hsha, hspa⟩
    exact ⟨hreply, hspa, hsha⟩
  · rintro ⟨hreply, hspa, hsha⟩
    exact ⟨⟨hreply, hpro, hhrd⟩, hsha, hspa⟩

/-- The first field of the ARP header lies where the untagged branch looks for `ar_hln`. -/
theorem not_ethIpLengths_of_tagged (h : HoldsArp host p.byte harpTagged a) (ha : EthIp a) :
    ¬ EthIpLengths p.byte harpUntagged := by
  rintro ⟨hhln, -⟩
  have hhrd := h.hrd
  rw [ha.hrd] at hhrd
  have hbyte : (p.byte (harpTagged + arHrd)).toNat = 6 := congrArg UInt8.toNat hhln
  unfold be16 at hhrd
  rw [hbyte, show arphrdEther.toNat = 1 from rfl] at hhrd
  omega

/-- The operation lies where the tagged branch looks for `ar_pro`. -/
theorem not_arpMatches_of_untagged (h : HoldsArp host p.byte harpUntagged a) (ha : EthIp a) :
    ¬ ArpMatches cfg p.byte harpTagged := by
  rintro ⟨⟨-, hpro, -⟩, -⟩
  have hop : be16 p.byte (harpTagged + arPro) = a.op.toNat := h.op
  rw [hpro] at hop
  rcases ha.op with hreq | hreply
  · rw [hreq] at hop
    cases hop
  · rw [hreply] at hop
    cases hop

/-- **What is counted of the ARP traffic.** Of the captured frames that carry a request or a reply
for Ethernet and IPv4, `pingip_recv` counts the replies in the name of the target, if they have a
tag exactly when the program uses one. -/
theorem accepts_iff_of_carries (hmode : cfg.mode = .pingip) (h : Carries host p a e)
    (ha : EthIp a) :
    Accepts cfg p ↔ (e.tag.isSome = true ↔ 0 ≤ cfg.vlanTag) ∧ AnswersFor cfg host a := by
  have harp := h.arp
  have hcaptured := h.captured
  unfold etherLen at harp hcaptured
  rw [accepts_pingip hmode]
  by_cases hv : 0 ≤ cfg.vlanTag
  · rw [run_pingipAccept_tagged hv]
    by_cases htag : e.tag.isSome = true
    · rw [if_pos htag] at harp
      rw [Option.isSome_ite, ← arpMatches_iff harp ha]
      exact ⟨fun hm => ⟨iff_of_true htag hv, hm⟩, And.right⟩
    · rw [if_neg htag] at harp
      rw [if_neg (not_arpMatches_of_untagged harp ha)]
      simp [htag, hv]
  · rw [run_pingipAccept_untagged (Int16.not_le.mp hv)]
    by_cases htag : e.tag.isSome = true
    · rw [if_pos htag] at harp
      rw [if_neg fun hpass => not_ethIpLengths_of_tagged harp ha hpass.2.1]
      simp [htag, hv]
    · rw [if_neg htag] at harp hcaptured
      have hlengths : EthIpLengths p.byte harpUntagged :=
        ⟨UInt8.toNat_inj.mp (harp.hln.trans ha.hln), UInt8.toNat_inj.mp (harp.pln.trans ha.pln)⟩
      have hcaplen : 42 ≤ p.caplen.toNat := by
        rw [ha.hln, ha.pln] at hcaptured
        exact hcaptured
      rw [Option.isSome_ite, ← arpMatches_iff harp ha]
      exact ⟨fun hpass => ⟨iff_of_false htag hv, hpass.2.2⟩,
        fun hpass => ⟨hcaplen, hlengths, hpass.2⟩⟩

end Counted

/-- **What is counted of the ICMP traffic.** Of the messages behind an IPv4 header without options
that are captured whole, `pingmac_recv` counts the echo replies: whoever sends them, to whomever, in
answer to whatever. -/
theorem accepts_iff_of_carriesIcmp {cfg : Config} {host : Endian} {p : Packet} {i : IcmpArgs}
    {h : Ipv4Args} (hmode : cfg.mode ≠ .pingip) (hcarries : CarriesIcmp host p i h) :
    Accepts cfg p ↔ i.type = 0 := by
  rw [← hcarries.icmp.type]
  unfold Accepts
  split
  · contradiction
  · exact Iff.rfl

/-! ## The requests of another run -/

theorem etherArgs_tag_isSome (cfg : Config) (type : UInt16) :
    (etherArgs cfg type).tag.isSome = true ↔ 0 ≤ cfg.vlanTag := by
  unfold etherArgs
  rw [Option.isSome_ite]

section Request

variable {asker cfg : Config} {p : Packet} {a : ArpArgs} {e : EtherArgs}

theorem ethIp_arpRequest (hrequest : arpRequest asker = .arp a e) : EthIp a := by
  cases hrequest
  refine ⟨rfl, rfl, rfl, rfl, ?_⟩
  cases asker.sendReply
  · exact Or.inl rfl
  · exact Or.inr rfl

/-- It is a reply in the name of the target with `-P`, and the target's address as its own. -/
theorem answersFor_arpRequest_iff (hrequest : arpRequest asker = .arp a e) :
    AnswersFor cfg asker.host a ↔ asker.sendReply = true ∧
      asker.host.bytes32 asker.srcip = cfg.host.bytes32 cfg.dstip ∧
      (cfg.addrMustBeSame = true → asker.srcmac = cfg.dstmac) := by
  cases hrequest
  have hop : (if asker.sendReply = true then arpopReply else arpopRequest) = arpopReply ↔
      asker.sendReply = true := by
    cases asker.sendReply <;> decide
  constructor
  · rintro ⟨hreply, hspa, hsha⟩
    exact ⟨hop.mp hreply, hspa, hsha⟩
  · rintro ⟨hreply, hspa, hsha⟩
    exact ⟨hop.mpr hreply, hspa, hsha⟩

/-- **Requests among replies.** A captured request of another run, or of the run itself, is counted
exactly when that one uses `-P`, and a tag if this one does, and sends in the name of the target. -/
theorem accepts_arpRequest_iff (hmode : cfg.mode = .pingip)
    (hrequest : arpRequest asker = .arp a e) (h : Carries asker.host p a e) :
    Accepts cfg p ↔ (0 ≤ asker.vlanTag ↔ 0 ≤ cfg.vlanTag) ∧ asker.sendReply = true ∧
      asker.host.bytes32 asker.srcip = cfg.host.bytes32 cfg.dstip ∧
      (cfg.addrMustBeSame = true → asker.srcmac = cfg.dstmac) := by
  have htag : e.tag.isSome = true ↔ 0 ≤ asker.vlanTag := by
    cases hrequest
    exact etherArgs_tag_isSome asker ethertypeArp
  rw [accepts_iff_of_carries hmode h (ethIp_arpRequest hrequest), htag,
    answersFor_arpRequest_iff hrequest]

end Request

/-- `-P` in the name of 10.0.0.1, and a frame of this run. -/
def claimConfig : Config :=
  { ipConfig with
    sendReply := true, srcip := 0x0100000a, dstip := 0x0900000a, srcmac := Vector.replicate 6 2 }

def claimFrame : Packet := Packet.ofBytes
  (List.replicate 22 0 ++ [0xff, 0xff, 0xff, 0xff, 0xff, 0xff, 2, 2, 2, 2, 2, 2, 0x08, 0x06] ++
    [0, 1, 0x08, 0, 6, 4, 0, 2, 2, 2, 2, 2, 2, 2, 10, 0, 0, 1, 0, 0, 0, 0, 0, 0, 10, 0, 0, 9] ++
    List.replicate 16 0)
  fun _ => 0

theorem carries_claimFrame {a : ArpArgs} {e : EtherArgs}
    (hrequest : arpRequest claimConfig = .arp a e) : Carries claimConfig.host claimFrame a e := by
  cases hrequest
  exact {
    captured := by decide
    eth := ⟨by decide, by decide, nofun, nofun, nofun, by decide⟩
    arp := ⟨by decide, by decide, by decide, by decide, by decide, by decide, by decide, by decide,
      by decide⟩ }

theorem accepts_arpRequest_iff_claim :
    Accepts ipConfig claimFrame ↔
      (0 ≤ claimConfig.vlanTag ↔ 0 ≤ ipConfig.vlanTag) ∧ claimConfig.sendReply = true ∧
      claimConfig.host.bytes32 claimConfig.srcip = ipConfig.host.bytes32 ipConfig.dstip ∧
      (ipConfig.addrMustBeSame = true → claimConfig.srcmac = ipConfig.dstmac) :=
  accepts_arpRequest_iff rfl rfl (carries_claimFrame rfl)

end Arping
