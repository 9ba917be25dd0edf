import Arping.State

/-!
# The receive handlers

Each handler is split in two: a `ByteReader` that makes the checks of the source in the order of
the source and ends with `none` where the source returns, and the bookkeeping of a counted reply.
The reader is all the handler ever reads of the packet.
-/

namespace Arping

open ByteReader

/-- Bytes of TTP header in front of every captured frame. -/
def shiftEther : ℕ := 22

/-- `htons(header->field)` for the 16-bit field at `off`. -/
def field16 (host : Endian) (off : ℕ) : ByteReader UInt8 UInt16 := do
  let a ← get off
  let b ← get (off + 1)
  return host.htons (host.load16 a b)

/-- The 32-bit value at `off`, as `memcpy` or a field access leaves it. -/
def field32 (host : Endian) (off : ℕ) : ByteReader UInt8 UInt32 := do
  let v ← slice off 4
  return host.load32 v

/-! ## Bookkeeping -/

/-- `update_stats(timespec2dbl(&arrival) - timespec2dbl(&lastpacketsent))`. -/
def takeSample (arrival : Timespec) (g : State) : State :=
  let t := timespec2dbl arrival - timespec2dbl g.lastpacketsent
  State.emit (.sample t) { g with stats := updateStats t g.stats }

/-- `numrecvd++`, and the check for `-C`. -/
def countReply (cfg : Config) (p : Packet) (g : State) : State :=
  let g := State.emit (.count p) { g with numrecvd := g.numrecvd + 1 }
  if cfg.maxReplies ≤ g.numrecvd then sigint g else g

/-- The comparison with the previous reply. -/
def checkDup (pktSrcmac : Mac) (g : State) : State :=
  let g := if g.numrecvd ≠ 0 ∧ g.lastreplymac ≠ pktSrcmac then { g with dupfound := true } else g
  { g with lastreplymac := pktSrcmac }

/-- What is printed around the line of a reply. -/
def replyOutputs (cfg : Config) (line : List Output) : List Output :=
  (if cfg.beep then [.bell] else []) ++ line ++
    match cfg.display with
    | .quiet | .dot => []
    | _ => [.newline]

/-! ## Pinging an IP address -/

/-- `addr_must_be_same`: the sender hardware address is the target's. -/
def sentByTarget (cfg : Config) (harp : ℕ) : ByteReader UInt8 Bool :=
  if cfg.addrMustBeSame then do
    let sha ← slice (harp + libnetArpH) 6
    return sha == cfg.dstmac
  else return true

/-- The checks of `pingip_recv` behind its two branches, for the ARP header at `harp` and the
source address at `pktSrcmac`. -/
def arpAccept (cfg : Config) (harp pktSrcmac : ℕ) : ByteReader UInt8 (Option (Mac × UInt32)) := do
  let op ← field16 cfg.host (harp + arOp)
  if op ≠ arpopReply then return none
  let pro ← field16 cfg.host (harp + arPro)
  if pro ≠ ethertypeIp then return none
  let hrd ← field16 cfg.host (harp + arHrd)
  if hrd ≠ arphrdEther then return none
  let same ← sentByTarget cfg harp
  if !same then return none
  let hln ← get (harp + arHln)
  let ip ← field32 cfg.host (harp + hln.toNat + libnetArpH)
  if cfg.dstip ≠ ip then return none
  let mac ← slice pktSrcmac 6
  return some (mac, ip)

/-- The checks of `pingip_recv`: the source address and the IP address of an acceptable reply. -/
def pingipAccept (cfg : Config) (caplen : UInt32) : ByteReader UInt8 (Option (Mac × UInt32)) :=
  if 0 ≤ cfg.vlanTag then
    let veth := shiftEther
    let harp := veth + libnet8021QH
    arpAccept cfg harp (veth + shostOff)
  else if caplen.toNat < libnetEthH + libnetArpH + 2 * (ethAlen + 4) then return none
  else do
    let heth := shiftEther
    let harp := heth + libnetEthH
    let hln ← get (harp + arHln)
    if hln.toNat ≠ ethAlen then return none
    let pln ← get (harp + arPln)
    if pln ≠ 4 then return none
    arpAccept cfg harp (heth + shostOff)

/-- The line printed for a reply to an IP ping. -/
def ipReplyLine (cfg : Config) (p : Packet) (pktSrcmac : Mac) (ip : UInt32) (arrival : Timespec)
    (g : State) : List Output :=
  match cfg.display with
  | .dot => [.bang]
  | .normal => [.ipReply p.len pktSrcmac ip g.numrecvd
      (if cfg.alsototal then some (g.numsent - 1) else none) g.lastpacketsent arrival]
  | .quiet => []
  | .rawraw => [.macIp pktSrcmac ip]
  | .rraw => [.ip ip]
  | .raw => [.mac pktSrcmac]

/-- What `pingip_recv` does with an acceptable reply. -/
def pingipReply (cfg : Config) (p : Packet) (pktSrcmac : Mac) (ip : UInt32) (arrival : Timespec)
    (g : State) : State :=
  let g := takeSample arrival g
  let g := g.prints (replyOutputs cfg (ipReplyLine cfg p pktSrcmac ip arrival g))
  countReply cfg p (checkDup pktSrcmac g)

/-- `pingip_recv`: handle incoming packet when pinging an IP address. -/
def pingipRecv (cfg : Config) (p : Packet) (clk : ClockCall) (g : State) : State :=
  let (arrival, g) := getclock clk (g.emit (.handle p))
  match (pingipAccept cfg p.caplen).run p.byte with
  | none => g
  | some (pktSrcmac, ip) => pingipReply cfg p pktSrcmac ip arrival g

/-! ## Pinging a MAC address -/

/-- The check of `pingmac_recv`, and the line printed for the reply: which bytes are read depends
on the display mode. -/
def pingmacAccept (cfg : Config) (len : UInt32) (sent arrival : Timespec) :
    ByteReader UInt8 (Option (List Output)) := do
  let hip := shiftEther
  let hicmp := hip + libnetIpv4H
  let type ← get (hicmp + icmpType)
  if cfg.host.htons type.toUInt16 ≠ icmpEchoreply then return none
  match cfg.display with
  | .quiet => return some []
  | .dot => return some [.bang]
  | .normal =>
    let src ← field32 cfg.host (hip + ipSrc)
    let seq ← field16 cfg.host (hicmp + icmpSeq)
    return some [.macReply len src cfg.srcmac seq sent arrival]
  | .raw =>
    let src ← field32 cfg.host (hip + ipSrc)
    return some [.ip src]
  | .rraw => return some [.mac cfg.srcmac]
  | .rawraw =>
    let src ← field32 cfg.host (hip + ipSrc)
    return some [.macIp cfg.srcmac src]

/-- `pingmac_recv`: handle incoming packet when pinging a MAC address. -/
def pingmacRecv (cfg : Config) (p : Packet) (clk : ClockCall) (g : State) : State :=
  let (arrival, g) := getclock clk (g.emit (.handle p))
  match (pingmacAccept cfg p.len g.lastpacketsent arrival).run p.byte with
  | none => g
  | some line => countReply cfg p ((takeSample arrival g).prints (replyOutputs cfg line))

/-- The handler of the mode. -/
def recvHandler (cfg : Config) (p : Packet) (clk : ClockCall) (g : State) : State :=
  match cfg.mode with
  | .pingip => pingipRecv cfg p clk g
  | _ => pingmacRecv cfg p clk g

end Arping
