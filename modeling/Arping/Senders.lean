import Arping.State

/-!
# The senders

A sender builds the packet layer by layer, writes it and stamps `lastpacketsent`. A failing libnet
call ends the run through `sigint` but not the function, which goes on to its last line.
-/

namespace Arping

/-- The answers one call of a sender gets: libnet's for the ARP or ICMP layer, the IP layer
(`pingmac_send` only), the Ethernet layer and the write, the clock before the write (`-vv` only)
and after it, and `rand()` (`pingmac_send` only). -/
structure SendEnv where
  payloadOk : Bool
  ipv4Ok : Bool
  etherOk : Bool
  writeOk : Bool
  clkBefore : ClockCall
  clkAfter : ClockCall
  rand : UInt16

/-- `if (-1 == call) sigint(0)`. -/
def orSigint (ok : Bool) (g : State) : State := if ok then g else sigint g

/-- `getclock(&lastpacketsent)`. -/
def stampSent (clk : ClockCall) (g : State) : State :=
  let (ts, g) := getclock clk g
  { g with lastpacketsent := ts }

/-- The Ethernet layer of a request, with the 802.1Q tag of `-V`. -/
def etherArgs (cfg : Config) (type : UInt16) : EtherArgs where
  dst := cfg.dstmac
  src := cfg.srcmac
  tag :=
    if 0 ≤ cfg.vlanTag then
      some { tpi := ethertypeVlan, priority := cfg.vlanPrio, cfi := 0, vlanId := cfg.vlanTag }
    else none
  type := type

/-- `ethnull` and `ethxmas`. -/
def ethnull : Mac := Vector.replicate 6 0
def ethxmas : Mac := Vector.replicate 6 0xff

/-- The who-has request of `pingip_send`. -/
def arpRequest (cfg : Config) : Request :=
  .arp
    { hrd := arphrdEther
      pro := ethertypeIp
      hln := ethAlen
      pln := 4
      op := if cfg.sendReply then arpopReply else arpopRequest
      sha := cfg.srcmac
      spa := cfg.srcip
      tha := if cfg.unsolicited then ethxmas else ethnull
      tpa := cfg.dstip }
    (etherArgs cfg ethertypeArp)

/-- The echo request of `pingmac_send`. -/
def echoRequest (cfg : Config) (id seq : UInt16) : Request :=
  .icmp
    { type := icmpEcho, code := 0, sum := 0, id := id, seq := seq }
    { len := libnetIpv4H + 8, tos := 0, id := id, frag := 0, ttl := 64, prot := 1, sum := 0,
      src := cfg.srcip, dst := cfg.dstip }
    (etherArgs cfg ethertypeIp)

/-- The end that both senders share: the write, the time stamps and `numsent++`. -/
def writeRequest (cfg : Config) (env : SendEnv) (g : State) : State :=
  let g := if 1 < cfg.verbose then stampSent env.clkBefore g else g
  let g := orSigint env.writeOk (g.emit (.write env.writeOk))
  let g := stampSent env.clkAfter g
  { g with numsent := g.numsent + 1 }

/-- `pingip_send`: send ARP who-has. -/
def pingipSend (cfg : Config) (env : SendEnv) (g : State) : State :=
  let g := g.emit (.send (arpRequest cfg))
  let g := orSigint env.payloadOk g
  let g := orSigint env.etherOk g
  writeRequest cfg env g

/-- `pingmac_send`: send directed IPv4 ICMP echo request. -/
def pingmacSend (cfg : Config) (id seq : UInt16) (env : SendEnv) (g : State) : State :=
  let g := g.emit (.send (echoRequest cfg id seq))
  let g := orSigint env.payloadOk g
  let g := orSigint env.ipv4Ok g
  let g := orSigint env.etherOk g
  writeRequest cfg env g

end Arping
