import Arping.Parameters

/-!
# From the command line to the wire

What the options say of a request: its source addresses, its tag, and whether it is a reply. The
last option that says something counts, and where none does, the interface is asked. The tag is the
number that `-V` stores, and the address of `-s` the one that `get_mac_addr` reads.
`startup_asked` says that every request of every run is the one that was asked for, whatever order
the phases of `arping_main` take for it.
-/

namespace Arping

open Checks Opts CNumber

/-! ## What was asked for -/

namespace Opt

/-- What an option writes to `srcmac_opt`, `srcip_opt`, `vlan_tag` and `vlan_prio`. -/
def srcmac? : Opt → Option (Option String)
  | .s optarg => some (some optarg)
  | _ => none

def srcip? : Opt → Option (Option String)
  | .zero => some (some "0.0.0.0")
  | .b => some (some ipBroadcast)
  | .S optarg => some (some optarg)
  | _ => none

def vlanTag? : Opt → Option Int16
  | .V optarg => some (atoi optarg.toList).toInt16
  | _ => none

def vlanPrio? : Opt → Option Int16
  | .Q optarg => some (atoi optarg.toList).toInt16
  | _ => none

end Opt

namespace Request

def ether : Request → EtherArgs
  | .arp _ e => e
  | .icmp _ _ e => e

/-- The source address in the ARP or IPv4 header. -/
def srcip : Request → UInt32
  | .arp a _ => a.spa
  | .icmp _ h _ => h.src

end Request

/-- The options ask for `srcmac`, as `get_mac_addr` reads it; without `-s` the interface has it. -/
def AskedSrcmac (env : StartupEnv) (os : List Opt) (ifname : String) (srcmac : Mac) : Prop :=
  match (lastWrite Opt.srcmac? os).getD none with
  | some optarg => getMacAddr optarg = some srcmac
  | none => env.getMac ifname = some srcmac

/-- The options ask for `srcip`; without `-S`, `-b` and `-0` the interface has it. -/
def AskedSrcip (env : StartupEnv) (os : List Opt) (ifname : String) (srcip : UInt32) : Prop :=
  match (lastWrite Opt.srcip? os).getD none with
  | some optarg => xresolve env.libnet optarg = some srcip
  | none => env.getIpaddr4 .interface (some ifname) = srcip ∧ srcip ≠ 0xffffffff

/-- The tag of `-V` and `-Q`, as stored: `atoi`, cut down to 16 bits. -/
def askedTag (os : List Opt) : Option TagArgs :=
  (lastWrite Opt.vlanTag? os).map fun tag =>
    { tpi := ethertypeVlan, priority := (lastWrite Opt.vlanPrio? os).getD 0, cfi := 0,
      vlanId := tag }

/-- A request as the options say. -/
structure AskedFor (env : StartupEnv) (os : List Opt) (ifname : String) (r : Request) : Prop where
  srcmac : AskedSrcmac env os ifname r.ether.src
  srcip : AskedSrcip env os ifname r.srcip
  tag : r.ether.tag = askedTag os
  sha : ∀ a e, r = .arp a e → a.sha = e.src
  op : ∀ a e, r = .arp a e → (a.op = arpopReply ↔ .P ∈ os)

/-! ## The option loop -/

/-- The variables that go into a request. -/
structure SourcesParsed (os : List Opt) (s : Opts) : Prop where
  srcmacOpt : s.srcmacOpt = (lastWrite Opt.srcmac? os).getD none
  srcipOpt : s.srcipOpt = (lastWrite Opt.srcip? os).getD none
  vlanTag : s.cfg.vlanTag = (lastWrite Opt.vlanTag? os).getD (-1)
  vlanPrio : s.cfg.vlanPrio = (lastWrite Opt.vlanPrio? os).getD (-1)
  sendReply : s.cfg.sendReply = os.any (· = .P)

/-- The pass that reads `o`. -/
structure SourcesWritten (s : Opts) (o : Opt) (s' : Opts) : Prop where
  srcmacOpt : s'.srcmacOpt = o.srcmac?.getD s.srcmacOpt
  srcipOpt : s'.srcipOpt = o.srcip?.getD s.srcipOpt
  vlanTag : s'.cfg.vlanTag = o.vlanTag?.getD s.cfg.vlanTag
  vlanPrio : s'.cfg.vlanPrio = o.vlanPrio?.getD s.cfg.vlanPrio
  sendReply : s'.cfg.sendReply = (s.cfg.sendReply || o = .P)

theorem step_sourcesWritten {s s' : Opts} {o : Opt} (h : s.step o = .ok s') :
    SourcesWritten s o s' := by
  cases o
  case h | other => cases h
  case i optarg | Q optarg | V optarg =>
    obtain ⟨-, -, h⟩ := bind_eq_ok_iff.mp h
    cases h
    constructor <;> simp [Opt.srcmac?, Opt.srcip?, Opt.vlanTag?, Opt.vlanPrio?]
  all_goals
    cases h
    constructor <;> simp [Opt.srcmac?, Opt.srcip?, Opt.vlanTag?, Opt.vlanPrio?]

theorem parseOptions_sources {host : Endian} {os : List Opt} {s : Opts}
    (h : parseOptions host os = .ok s) : SourcesParsed os s where
  srcmacOpt := foldlM_write (x := Opts.srcmacOpt) h
    fun _ _ _ h => (step_sourcesWritten h).srcmacOpt
  srcipOpt := foldlM_write (x := Opts.srcipOpt) h fun _ _ _ h => (step_sourcesWritten h).srcipOpt
  vlanTag := foldlM_write (x := fun s => s.cfg.vlanTag) h
    fun _ _ _ h => (step_sourcesWritten h).vlanTag
  vlanPrio := foldlM_write (x := fun s => s.cfg.vlanPrio) h
    fun _ _ _ h => (step_sourcesWritten h).vlanPrio
  sendReply := foldlM_flag (x := fun s => s.cfg.sendReply) h
    fun _ _ _ h => (step_sourcesWritten h).sendReply

/-- What has passed the checks of `-V` and `-Q` is no default. -/
theorem nonneg_of_lastWrite {host : Endian} {os : List Opt} {s : Opts}
    (h : parseOptions host os = .ok s) {x : Int16}
    (hx : lastWrite Opt.vlanTag? os = some x ∨ lastWrite Opt.vlanPrio? os = some x) : 0 ≤ x := by
  have haccepted := parseOptions_succeeds_iff.mp ⟨s, h⟩
  rcases hx with hx | hx
  · obtain ⟨o, ho, heq⟩ := exists_of_lastWrite hx
    cases o <;> cases heq
    exact Int16.not_lt.mp fun hneg => haccepted _ ho (Or.inl hneg)
  · obtain ⟨o, ho, heq⟩ := exists_of_lastWrite hx
    cases o <;> cases heq
    exact Int16.not_lt.mp fun hneg => haccepted _ ho (Or.inl hneg)

/-! ## Up to the ping loop -/

section

variable {env : StartupEnv} {os : List Opt} {s s' : Opts} {ifname : String}

/-- The source addresses as far as they are known behind the arguments. -/
structure SourcesRead (env : StartupEnv) (s : Opts) : Prop where
  srcmac : ∀ optarg, s.srcmacOpt = some optarg → getMacAddr optarg = some s.cfg.srcmac
  srcip : ∀ optarg, s.srcipOpt = some optarg → xresolve env.libnet optarg = some s.cfg.srcip

theorem readArguments_sources (h : readArguments env s = .ok s') :
    SourcesRead env s' ∧ s'.srcmacOpt = s.srcmacOpt ∧ s'.srcipOpt = s.srcipOpt ∧
      s'.cfg.vlanTag = s.cfg.vlanTag ∧ s'.cfg.sendReply = s.cfg.sendReply ∧
      s'.cfg.vlanPrio = if s.cfg.vlanPrio = -1 then 0 else s.cfg.vlanPrio := by
  obtain ⟨srcmac, hsrcmac, h⟩ := bind_eq_ok_iff.mp h
  obtain ⟨dstmac, -, h⟩ := bind_eq_ok_iff.mp h
  obtain ⟨srcip, hsrcip, h⟩ := bind_eq_ok_iff.mp h
  obtain ⟨dstip, -, h⟩ := bind_eq_ok_iff.mp h
  obtain ⟨_, -, h⟩ := bind_eq_ok_iff.mp h
  obtain rfl := pure_eq_ok_iff.mp h
  refine ⟨⟨fun optarg hopt => ?_, fun optarg hopt => ?_⟩, rfl, rfl, rfl, rfl, rfl⟩
  · have hopt' : s.srcmacOpt = some optarg := hopt
    rw [hopt'] at hsrcmac
    exact demand_eq_ok_iff.mp hsrcmac
  · have hopt' : s.srcipOpt = some optarg := hopt
    rw [hopt'] at hsrcip
    obtain ⟨_, -, hsrcip⟩ := bind_eq_ok_iff.mp hsrcip
    exact demand_eq_ok_iff.mp hsrcip

theorem SourcesRead.targets (h : SourcesRead env s) (htargets : Targets s s') :
    SourcesRead env s' := by
  have hmac : s'.cfg.srcmac = s.cfg.srcmac := by rw [htargets.others]
  have hip : s'.cfg.srcip = s.cfg.srcip := by rw [htargets.others]
  have hmacOpt : s'.srcmacOpt = s.srcmacOpt := by rw [htargets.locals]
  have hipOpt : s'.srcipOpt = s.srcipOpt := by rw [htargets.locals]
  constructor
  · rw [hmac, hmacOpt]
    exact h.srcmac
  · rw [hip, hipOpt]
    exact h.srcip

theorem ownMac_asked (h : SourcesRead env s)
    (hopt : s.srcmacOpt = (lastWrite Opt.srcmac? os).getD none) {srcmac : Mac}
    (hown : ownMac env s ifname = .ok srcmac) : AskedSrcmac env os ifname srcmac := by
  unfold AskedSrcmac
  rw [← hopt]
  unfold ownMac at hown
  cases hs : s.srcmacOpt with
  | some optarg =>
    rw [hs] at hown
    cases hown
    exact h.srcmac optarg hs
  | none =>
    rw [hs] at hown
    exact demand_eq_ok_iff.mp hown

theorem ownAddress_asked (h : SourcesRead env s)
    (hopt : s.srcipOpt = (lastWrite Opt.srcip? os).getD none) {srcip : UInt32}
    (hown : ownAddress env s ifname = .ok srcip) : AskedSrcip env os ifname srcip := by
  unfold AskedSrcip
  rw [← hopt]
  unfold ownAddress at hown
  cases hs : s.srcipOpt with
  | some optarg =>
    rw [hs] at hown
    cases hown
    exact h.srcip optarg hs
  | none =>
    rw [hs] at hown
    obtain ⟨_, hvalid, hown⟩ := bind_eq_ok_iff.mp hown
    obtain rfl := pure_eq_ok_iff.mp hown
    exact ⟨rfl, reject_eq_ok_iff.mp hvalid⟩

/-- What goes into the requests of a run. -/
structure Configured (env : StartupEnv) (os : List Opt) (l : Launch) : Prop where
  srcmac : AskedSrcmac env os l.ifname l.cfg.srcmac
  srcip : AskedSrcip env os l.ifname l.cfg.srcip
  vlanTag : l.cfg.vlanTag = (lastWrite Opt.vlanTag? os).getD (-1)
  vlanPrio : l.cfg.vlanPrio = (lastWrite Opt.vlanPrio? os).getD 0
  sendReply : l.cfg.sendReply = os.any (· = .P)

theorem startup_configured {argv : List String} {l : Launch} (h : startup env argv = .ok l) :
    Configured env (options env argv) l := by
  obtain ⟨s₀, s₁, chosen, hparse, -, -, hread, hchosen, hlaunch⟩ := startup_phases h
  have hparsed := parseOptions_sources hparse
  obtain ⟨hsources, hmacOpt, hipOpt, htag, hreply, hprio⟩ := readArguments_sources hread
  obtain ⟨htargets, -⟩ := chooseTarget_targets hchosen
  have hsources' := hsources.targets htargets
  have hmacOpt' : chosen.1.srcmacOpt = (lastWrite Opt.srcmac? (options env argv)).getD none := by
    rw [htargets.locals, ← hparsed.srcmacOpt]
    exact hmacOpt
  have hipOpt' : chosen.1.srcipOpt = (lastWrite Opt.srcip? (options env argv)).getD none := by
    rw [htargets.locals, ← hparsed.srcipOpt]
    exact hipOpt
  obtain ⟨ifname, -, hlaunch⟩ := bind_eq_ok_iff.mp hlaunch
  obtain ⟨_, -, hlaunch⟩ := bind_eq_ok_iff.mp hlaunch
  obtain ⟨filter, -, hlaunch⟩ := bind_eq_ok_iff.mp hlaunch
  obtain ⟨srcip, hsrcip, hlaunch⟩ := bind_eq_ok_iff.mp hlaunch
  obtain ⟨srcmac, hsrcmac, hlaunch⟩ := bind_eq_ok_iff.mp hlaunch
  obtain rfl := pure_eq_ok_iff.mp hlaunch
  constructor
  · exact ownMac_asked hsources' hmacOpt' hsrcmac
  · exact ownAddress_asked hsources' hipOpt' hsrcip
  · show chosen.1.cfg.vlanTag = _
    rw [htargets.others, ← hparsed.vlanTag]
    exact htag
  · show chosen.1.cfg.vlanPrio = _
    rw [htargets.others]
    refine hprio.trans ?_
    rw [hparsed.vlanPrio]
    cases hlast : lastWrite Opt.vlanPrio? (options env argv) with
    | none => rfl
    | some prio =>
      have hge := nonneg_of_lastWrite hparse (Or.inr hlast)
      refine if_neg ?_
      rintro rfl
      exact absurd hge (by decide)
  · show chosen.1.cfg.sendReply = _
    rw [htargets.others, ← hparsed.sendReply]
    exact hreply

end

/-! ## Main result -/

theorem askedFor_requestOf {env : StartupEnv} {os : List Opt} {l : Launch}
    (h : Configured env os l) (hnonneg : ∀ x, lastWrite Opt.vlanTag? os = some x → 0 ≤ x)
    (id : UInt16) (c : UInt32) : AskedFor env os l.ifname (requestOf l.cfg id c) := by
  have htag : ∀ type, (etherArgs l.cfg type).tag = askedTag os := by
    intro type
    unfold etherArgs askedTag
    rw [h.vlanTag, h.vlanPrio]
    cases hlast : lastWrite Opt.vlanTag? os with
    | none => rfl
    | some tag => exact if_pos (hnonneg tag hlast)
  have hop : (if l.cfg.sendReply = true then arpopReply else arpopRequest) = arpopReply ↔
      .P ∈ os := by
    have hmem : os.any (· = .P) = true ↔ .P ∈ os := by simp
    rw [h.sendReply, ← hmem]
    cases os.any (· = .P) <;> decide
  unfold requestOf
  split
  · constructor
    · exact h.srcmac
    · exact h.srcip
    · exact htag ethertypeArp
    · intro a e heq
      cases heq
      rfl
    · intro a e heq
      cases heq
      exact hop
  · constructor
    · exact h.srcmac
    · exact h.srcip
    · exact htag ethertypeIp
    all_goals
      intro a e heq
      cases heq

/-- Without `-s` it is the address that `get_mac` returns. -/
theorem AskedSrcmac.getMac {env : StartupEnv} {os : List Opt} {ifname : String} {srcmac : Mac}
    (h : AskedSrcmac env os ifname srcmac) (hopt : ∀ o ∈ os, o.srcmac? = none) :
    ∃ c, Arping.getMac env.rtslib ifname = some (some srcmac, c) := by
  unfold AskedSrcmac at h
  rw [lastWrite_eq_none_iff.mpr hopt, Option.getD_none] at h
  obtain ⟨⟨address, c⟩, hcall, rfl⟩ := Option.bind_eq_some_iff.mp h
  exact ⟨c, hcall⟩

/-- **From the command line to the wire.** Whatever the command line and the environment, each
request that a run hands to libnet, in every reachable situation, is the one that the options ask
for, with the tag that they store. Where the source address is left to `get_mac`, it is the one that
`get_mac` returns. -/
theorem startup_asked {env : StartupEnv} {argv : List String} {l : Launch}
    (h : startup env argv = .ok l) {s : Point × State} (hreach : Reachable l.cfg s) :
    ∀ r ∈ s.2.sent, AskedFor env (options env argv) l.ifname r ∧
      ((∀ o ∈ options env argv, o.srcmac? = none) →
        ∃ c, getMac env.rtslib l.ifname = some (some r.ether.src, c)) := by
  obtain ⟨ids, hsent, -⟩ := (reachable_inOrder hreach).sent
  obtain ⟨s₀, -, -, hparse, -⟩ := startup_phases h
  intro r hr
  rw [hsent] at hr
  obtain ⟨x, -, rfl⟩ := List.mem_map.mp hr
  have hasked := askedFor_requestOf (startup_configured h)
    (fun tag htag => nonneg_of_lastWrite hparse (Or.inl htag)) x.1 (UInt32.ofNat x.2)
  exact ⟨hasked, hasked.srcmac.getMac⟩

/-- On VLAN 5, with a source address of its own. -/
theorem startup_asked_tagged :
    let argv := ["-V", "5", "-s", "02:00:00:00:00:07", "10.0.0.1"]
    ∃ l, startup workingEnv argv = .ok l ∧
      ∀ r ∈ (pingLoop l.cfg (runOf [[]]) State.init).state.2.sent,
        AskedFor workingEnv (options workingEnv argv) l.ifname r := by
  intro argv
  obtain ⟨l, h⟩ : ∃ l, startup workingEnv argv = .ok l := ⟨_, rfl⟩
  obtain ⟨pt, hreach⟩ := pingLoop_reachable l.cfg (runOf [[]])
  exact ⟨l, h, fun r hr => (startup_asked h hreach r hr).1⟩

end Arping
