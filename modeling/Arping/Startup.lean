import Arping.GetMac
import Arping.LookupDev
import Arping.MacAddr
import Arping.Options

/-!
# From the options to the ping loop

The part of `arping_main` between the option loop and "let's roll", cut where the source has its own
comments: the arguments of the options, the target, the interface, and the final initialisations.
`startup` puts them together; where it ends well it hands the ping loop a `Launch`. What libnet,
libpcap, the resolver and the system answer is `StartupEnv`.
-/

namespace Arping

open CNumber Checks

/-! ## The environment -/

/-- `libnet_name2addr4` with `LIBNET_RESOLVE`, and `libnet_addr2name4` without names. -/
structure Libnet where
  name2addr4 : String → UInt32
  addr2name4 : UInt32 → String

/-- The calls `do_libnet_init(ifname, 0)`, in their order in the source. -/
inductive InitCall
  | srcip
  | dstip
  | dup
  | noTarget
  | target
  | interface

/-- What the calls outside the program answer. The error of a call is the text it leaves behind. -/
structure StartupEnv where
  host : Endian
  /-- Whether `getopt` moves operands behind the options. -/
  permute : Bool
  libnet : Libnet
  libnetInit : InitCall → Option String → Except String Unit
  /-- Whether `getuid` or `geteuid` gives 0. -/
  isRoot : Bool
  /-- `libnet_get_ipaddr4` of the handle that the call made, by its device. -/
  getIpaddr4 : InitCall → Option String → UInt32
  libnetGeterror : String
  /-- Whether the first `strdup` gets memory. -/
  strdup : Bool
  getifaddrs : Except String (List Ifaddrs)
  pcapLookupdev : Except String String
  /-- `pcap_open_live`, for the attempts of `do_pcap_open_live`. -/
  pcapOpenLive : ℕ → String → Bool → Except String Unit
  /-- The group, or `strerror(errno)` where `errno` is set. -/
  getgrnam : String → Except (Option String) UInt32
  pcapSetnonblock : Except String Unit
  pcapCompile : String → Except String Unit
  pcapSetfilter : Except String Unit
  /-- What `get_mac` is answered. -/
  rtslib : Rtslib

/-- The address that `get_mac` returns, if it returns. -/
def StartupEnv.getMac (env : StartupEnv) (ifname : String) : Option Mac :=
  (Arping.getMac env.rtslib ifname).bind Prod.fst

/-- What option parsing hands to the ping loop: the variables, `target` (and `parm`, which is the
same string), the interface, and the filter that is installed. -/
structure Launch where
  cfg : Config
  target : String
  ifname : String
  filter : Option String

/-- `strip_newline`. -/
def stripNewline (s : String) : String :=
  String.ofList (s.toList.reverse.dropWhile (· = '\n')).reverse

/-- The message of a failing call. -/
def failure {α : Type} (what : String) : Except String α → Except Exit α
  | .ok a => .ok a
  | .error text => .error (.error (what ++ text ++ "\n"))

/-! ## `do_libnet_init` and `xresolve` -/

def libnetInitMessage (env : StartupEnv) (ifname : Option String) (ebuf : String) : String :=
  "arping: libnet_init(LIBNET_LINK, " ++ ifname.getD "<null>" ++ "): " ++
    (if stripNewline ebuf = "" then "<no error message>" else stripNewline ebuf) ++ "\n" ++
    (if env.isRoot then "" else "arping: you may need to run as root\n")

/-- `do_libnet_init(ifname, 0)`: the device of the handle. -/
def doLibnetInit (env : StartupEnv) (call : InitCall) (ifname : Option String) :
    Except Exit (Option String) :=
  match env.libnetInit call ifname with
  | .ok _ => .ok ifname
  | .error ebuf =>
    match ifname with
    | some _ => .error (.error (libnetInitMessage env ifname ebuf))
    | none =>
      -- libnet may have guessed an interface that it then can't use
      match env.libnetInit call (some "lo") with
      | .ok _ => .ok (some "lo")
      | .error _ => .error (.error (libnetInitMessage env ifname ebuf))

/-- `xresolve`: what it writes to `addr`, where it returns 1. -/
def xresolve (libnet : Libnet) (name : String) : Option UInt32 :=
  if ipBroadcast = name then some 0xffffffff
  else if libnet.name2addr4 name ≠ 0xffffffff then some (libnet.name2addr4 name)
  else none

/-! ## The arguments of the options -/

/-- The argument of an option, read where the option is given. -/
def readOption {α : Type} (opt : Option String) (old : α) (read : String → Except Exit α) :
    Except Exit α :=
  match opt with
  | some optarg => read optarg
  | none => .ok old

def cannotResolveMessage (optarg instead letter : String) : String :=
  "arping: Can't resolve " ++ optarg ++ ", or " ++ optarg ++ " is broadcast. If it is, use " ++
    instead ++ " instead of " ++ letter ++ "\n"

/-- `-s`, `-t`, the source address, the destination address, and the defaults that hang on other
options. -/
def readArguments (env : StartupEnv) (s : Opts) : Except Exit Opts := do
  let srcmac ← readOption s.srcmacOpt s.cfg.srcmac fun optarg =>
    demand (getMacAddr optarg) (.error ("arping: Weird MAC addr " ++ optarg ++ "\n"))
  let dstmac ← readOption s.dstmacOpt s.cfg.dstmac fun optarg =>
    demand (getMacAddr optarg) (.error ("Illegal MAC addr " ++ optarg ++ "\n"))
  let srcip ← readOption s.srcipOpt s.cfg.srcip fun optarg => do
    let _ ← doLibnetInit env .srcip s.ifname
    demand (xresolve env.libnet optarg) (.error (cannotResolveMessage optarg "-b" "-S"))
  let dstip ← readOption s.dstipOpt s.cfg.dstip fun optarg => do
    let _ ← doLibnetInit env .dstip s.ifname
    demand (xresolve env.libnet optarg) (.error (cannotResolveMessage optarg "-B" "-T"))
  reject (s.cfg.vlanPrio ≥ 0 ∧ s.cfg.vlanTag = -1)
    (.error "arping: -Q requires the use of 802.1Q (-V)\n")
  return { s with
    cfg.srcmac := srcmac
    cfg.dstmac := dstmac
    cfg.srcip := srcip
    cfg.dstip := dstip
    cfg.vlanPrio := if s.cfg.vlanPrio = -1 then 0 else s.cfg.vlanPrio
    cfg.maxcount :=
      if s.cfg.finddup ∧ s.cfg.maxcount = 0xffffffff then 3 else s.cfg.maxcount }

/-! ## The target -/

/-- `-d` without an operand: the own address. -/
def defaultToOwn (env : StartupEnv) (s : Opts) (operand : Option String) : Except Exit Opts :=
  if s.cfg.finddup ∧ operand = none then do
    let device ← doLibnetInit env .dup s.ifname
    return { s with dstipGiven := true, cfg.dstip := env.getIpaddr4 .dup device }
  else .ok s

/-- The mode, where no option has chosen it, and `parm`. -/
def chooseMode (env : StartupEnv) (s : Opts) (operand : Option String) :
    Except Exit (Opts × Option String) :=
  if s.cfg.mode = .none then
    match operand with
    | some parm =>
      .ok ({ s with cfg.mode := if isMacAddr parm then .pingmac else .pingip }, some parm)
    | none =>
      if s.dstipGiven then do
        let _ ← doLibnetInit env .noTarget s.ifname
        reject (env.strdup = false) (.error "arping: out of memory\n")
        return ({ s with cfg.mode := .pingip }, some (env.libnet.addr2name4 s.cfg.dstip))
      else .ok (s, none)
  else .ok (s, operand)

/-- "Make sure dstip and parm like eachother". The `strdup` of the new `parm` is taken to
succeed. -/
def matchTarget (env : StartupEnv) (s : Opts) (parm : String) : Except Exit (Opts × String) :=
  if s.cfg.mode = .pingip ∧ s.dstipGiven = false then do
    reject (isMacAddr parm)
      (.error "arping: Options given only apply to IP ping, but MAC address given as argument\n")
    let dstip ← demand (xresolve env.libnet parm)
      (.error ("arping: Can't resolve " ++ parm ++ "\n"))
    return ({ s with cfg.dstip := dstip }, env.libnet.addr2name4 dstip)
  else .ok (s, parm)

/-- "parse parm into dstmac". -/
def parseTarget (s : Opts) (operand : Option String) (parm : String) : Except Exit Opts :=
  if s.cfg.mode = .pingmac then do
    let arg ← demand operand (.usage 1)
    reject (isMacAddr parm = false)
      (.error ("arping: Options given only apply to MAC ping, but no MAC address given as " ++
        "argument\n"))
    let dstmac ← demand (getMacAddr arg) (.error ("arping: Illegal mac addr " ++ arg ++ "\n"))
    return { s with cfg.dstmac := dstmac }
  else .ok s

/-- All that decides the target. -/
def chooseTarget (env : StartupEnv) (s : Opts) (operand : Option String) :
    Except Exit (Opts × String) := do
  let s ← defaultToOwn env s operand
  let chosen ← chooseMode env s operand
  let parm ← demand chosen.2 (.usage 1)
  reject (chosen.1.cfg.mode = .none) (.usage 1)
  let _ ← doLibnetInit env .target s.ifname
  let matched ← matchTarget env chosen.1 parm
  let s ← parseTarget matched.1 operand matched.2
  return (s, matched.2)

/-! ## The interface -/

/-- A name as a string. -/
def nameOfBytes (name : List UInt8) : String :=
  String.ofList (name.map fun b => Char.ofNat b.toNat)

/-- "Get some good iface". -/
def chooseInterface (env : StartupEnv) (s : Opts) : Except Exit String :=
  match s.ifname with
  | some ifname => .ok ifname
  | none =>
    let found := if s.dontUseArpingLookupdev then none
      else (arpingLookupdev env.host s.cfg.dstip env.getifaddrs []).ret
    match found with
    | some name => .ok (nameOfBytes name)
    | none => failure "arping: Gave up looking for interface to use: "
        (env.pcapLookupdev.mapError stripNewline)

/-- `do_pcap_open_live`. -/
def doPcapOpenLive (env : StartupEnv) (device : String) (promisc : Bool) : Except String Unit :=
  env.pcapOpenLive 0 device promisc <|> env.pcapOpenLive 1 ("/dev/" ++ device) promisc <|>
    env.pcapOpenLive 2 ("/dev/net/" ++ device) promisc <|> env.pcapOpenLive 3 device promisc

/-- `must_get_group`. -/
def mustGetGroup (getgrnam : String → Except (Option String) UInt32) (ident : String) :
    Except Exit UInt32 :=
  match (if ident = "" then .error none else getgrnam ident) with
  | .ok gid => .ok gid
  | .error errno =>
    if ident ≠ "" ∧ (strtol 0 ident.toList).2 = [] then
      .ok (UInt32.ofInt (strtol 0 ident.toList).1)
    else
      match errno with
      | some text => .error (.error
          ("arping: " ++ ident ++ " not a number and getgrnam(" ++ ident ++ "): " ++ text ++ "\n"))
      | none => .error (.error ("arping: " ++ ident ++ " is not a number or group\n"))

/-- `drop_privileges`, as far as it can end the program. -/
def dropPrivileges (env : StartupEnv) (dropGroup : Option String) : Except Exit Unit :=
  readOption dropGroup () fun ident => do
    let _ ← mustGetGroup env.getgrnam ident
    return ()

/-! ## The final initialisations -/

/-- `bpf_filter`, the filter that is compiled. -/
def bpfFilter (cfg : Config) : String :=
  let proto := match cfg.mode with
    | .pingip => "arp"
    | _ => "icmp"
  if 0 ≤ cfg.vlanTag then "vlan " ++ toString cfg.vlanTag ++ " and " ++ proto else proto

/-- The filter that is installed. -/
def installedFilter (cfg : Config) : Option String :=
  if cfg.vlanTag < 0 then some (bpfFilter cfg) else none

/-- libpcap and the privileges; the result is the filter that is installed. -/
def openCapture (env : StartupEnv) (s : Opts) (ifname : String) : Except Exit (Option String) := do
  failure "arping: pcap_open_live(): "
    ((doPcapOpenLive env ifname s.promisc).mapError stripNewline)
  dropPrivileges env s.dropGroup
  failure "arping: pcap_set_nonblock(): " (env.pcapSetnonblock.mapError stripNewline)
  failure ("arping: pcap_compile(" ++ bpfFilter s.cfg ++ "): ") (env.pcapCompile (bpfFilter s.cfg))
  (if s.cfg.vlanTag < 0 then failure "arping: pcap_setfilter(): " env.pcapSetfilter else .ok ())
  return installedFilter s.cfg

def noAddressMessage (env : StartupEnv) (ifname : String) : String :=
  "arping: Unable to get the IPv4 address of interface " ++ ifname ++ ":\narping: " ++
    env.libnetGeterror ++ "arping: Use -S to specify address manually.\n"

/-- The source address. -/
def ownAddress (env : StartupEnv) (s : Opts) (ifname : String) : Except Exit UInt32 :=
  match s.srcipOpt with
  | some _ => .ok s.cfg.srcip
  | none => do
    let srcip := env.getIpaddr4 .interface (some ifname)
    reject (srcip = 0xffffffff) (.error (noAddressMessage env ifname))
    return srcip

/-- The source MAC address. The NULL that would end the program with a message is never returned by
`get_mac`. -/
def ownMac (env : StartupEnv) (s : Opts) (ifname : String) : Except Exit Mac :=
  match s.srcmacOpt with
  | some _ => .ok s.cfg.srcmac
  | none => demand (env.getMac ifname) .lost

/-- From the chosen target on. -/
def launch (env : StartupEnv) (s : Opts) (target : String) : Except Exit Launch := do
  let ifname ← chooseInterface env s
  let _ ← doLibnetInit env .interface (some ifname)
  let filter ← openCapture env s ifname
  let srcip ← ownAddress env s ifname
  let srcmac ← ownMac env s ifname
  return {
    cfg := { s.cfg with srcip := srcip, srcmac := srcmac }
    target := target
    ifname := ifname
    filter := filter }

/-! ## `arping_main` up to the ping loop -/

/-- The options of an argument vector. -/
def options (env : StartupEnv) (argv : List String) : List Opt :=
  (Getopt.getopt optstring env.permute argv).1.map Opt.ofItem

/-- What lies behind the options. -/
def operands (env : StartupEnv) (argv : List String) : List String :=
  (Getopt.getopt optstring env.permute argv).2

/-- `arping_main` up to the ping loop. -/
def startup (env : StartupEnv) (argv : List String) : Except Exit Launch := do
  reject ("--help" ∈ argv) .help
  let s ← parseOptions env.host (options env argv)
  reject ((operands env argv).length > 1) (.error tooManyArgsMessage)
  conflictChecks s
  let s ← readArguments env s
  let chosen ← chooseTarget env s (operands env argv).head?
  launch env chosen.1 chosen.2

/-! ## What the phases leave alone -/

section

variable {env : StartupEnv} {argv : List String} {s s' : Opts} {l : Launch}

/-- `readArguments`, as far as mode and target go. -/
structure ArgumentsRead (libnet : Libnet) (s s' : Opts) : Prop where
  others : s' = { s with cfg := s'.cfg }
  mode : s'.cfg.mode = s.cfg.mode
  finddup : s'.cfg.finddup = s.cfg.finddup
  dstip_of_none : s.dstipOpt = none → s'.cfg.dstip = s.cfg.dstip
  dstip_of_some : ∀ optarg, s.dstipOpt = some optarg → xresolve libnet optarg = some s'.cfg.dstip

theorem readArguments_read (h : readArguments env s = .ok s') :
    ArgumentsRead env.libnet s s' := by
  obtain ⟨srcmac, -, h⟩ := bind_eq_ok_iff.mp h
  obtain ⟨dstmac, -, h⟩ := bind_eq_ok_iff.mp h
  obtain ⟨srcip, -, h⟩ := bind_eq_ok_iff.mp h
  obtain ⟨dstip, hdstip, h⟩ := bind_eq_ok_iff.mp h
  obtain ⟨_, -, h⟩ := bind_eq_ok_iff.mp h
  obtain rfl := pure_eq_ok_iff.mp h
  refine ⟨rfl, rfl, rfl, fun hnone => ?_, fun optarg hsome => ?_⟩
  · rw [hnone] at hdstip
    cases hdstip
    rfl
  · rw [hsome] at hdstip
    obtain ⟨_, -, hdstip⟩ := bind_eq_ok_iff.mp hdstip
    exact demand_eq_ok_iff.mp hdstip

theorem ArgumentsRead.dstipGiven {libnet : Libnet} (h : ArgumentsRead libnet s s') :
    s'.dstipGiven = s.dstipGiven := by
  rw [h.others]

theorem openCapture_filter {ifname : String} {filter : Option String}
    (h : openCapture env s ifname = .ok filter) : filter = installedFilter s.cfg := by
  obtain ⟨_, -, h⟩ := bind_eq_ok_iff.mp h
  obtain ⟨_, -, h⟩ := bind_eq_ok_iff.mp h
  obtain ⟨_, -, h⟩ := bind_eq_ok_iff.mp h
  obtain ⟨_, -, h⟩ := bind_eq_ok_iff.mp h
  obtain ⟨_, -, h⟩ := bind_eq_ok_iff.mp h
  exact (pure_eq_ok_iff.mp h).symm

/-- From the chosen target on only the source addresses change. -/
theorem launch_eq {target : String} (h : launch env s target = .ok l) :
    ∃ ifname srcip srcmac, l =
      { cfg := { s.cfg with srcip := srcip, srcmac := srcmac }
        target := target
        ifname := ifname
        filter := installedFilter s.cfg } := by
  obtain ⟨ifname, -, h⟩ := bind_eq_ok_iff.mp h
  obtain ⟨_, -, h⟩ := bind_eq_ok_iff.mp h
  obtain ⟨filter, hfilter, h⟩ := bind_eq_ok_iff.mp h
  obtain ⟨srcip, -, h⟩ := bind_eq_ok_iff.mp h
  obtain ⟨srcmac, -, h⟩ := bind_eq_ok_iff.mp h
  rw [openCapture_filter hfilter] at h
  exact ⟨ifname, srcip, srcmac, (pure_eq_ok_iff.mp h).symm⟩

theorem launch_frame {target : String} (h : launch env s target = .ok l) :
    l.target = target ∧ l.cfg.mode = s.cfg.mode ∧ l.cfg.dstip = s.cfg.dstip ∧
      l.cfg.dstmac = s.cfg.dstmac := by
  obtain ⟨ifname, srcip, srcmac, rfl⟩ := launch_eq h
  exact ⟨rfl, rfl, rfl, rfl⟩

/-- The phases of a run that reaches the ping loop. -/
theorem startup_phases (h : startup env argv = .ok l) :
    ∃ s₀ s₁ chosen, parseOptions env.host (options env argv) = .ok s₀ ∧
      (operands env argv).length ≤ 1 ∧ conflictChecks s₀ = .ok () ∧
      readArguments env s₀ = .ok s₁ ∧
      chooseTarget env s₁ (operands env argv).head? = .ok chosen ∧
      launch env chosen.1 chosen.2 = .ok l := by
  obtain ⟨_, -, h⟩ := bind_eq_ok_iff.mp h
  obtain ⟨s₀, hparse, h⟩ := bind_eq_ok_iff.mp h
  obtain ⟨_, hone, h⟩ := bind_eq_ok_iff.mp h
  obtain ⟨_, hfree, h⟩ := bind_eq_ok_iff.mp h
  obtain ⟨s₁, hread, h⟩ := bind_eq_ok_iff.mp h
  obtain ⟨chosen, hchosen, h⟩ := bind_eq_ok_iff.mp h
  exact ⟨s₀, s₁, chosen, hparse, not_lt.mp (reject_eq_ok_iff.mp hone), hfree, hread, hchosen, h⟩

/-- The ping loop runs with the filter that its own variables describe. -/
theorem startup_filter (h : startup env argv = .ok l) : l.filter = installedFilter l.cfg := by
  obtain ⟨s₀, s₁, chosen, -, -, -, -, -, hlaunch⟩ := startup_phases h
  obtain ⟨ifname, srcip, srcmac, rfl⟩ := launch_eq hlaunch
  rfl

end

end Arping
