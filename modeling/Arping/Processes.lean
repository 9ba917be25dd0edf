import Arping.Link
import Arping.Program
import Arping.Sources

/-!
# Programs on one link

The runs on a link, each started by a command line on a host of its own. The command line says
whether a program pings by ARP, which address it asks for (`AskedDstip`), and whether it answers for
one itself (`Programs.Claims`). `programs_report` takes this to the exit status. However the
programs take turns, and whatever frames are lost, repeated or reordered, a program ends with 0
exactly if it has seen a reply in the name of the address that it asks for, and such a reply comes
from a host that has the address or from a program that was told to claim it.
-/

namespace Arping

open Checks Opts Relation

/-! ## What a command line asks for -/

/-- What an option writes to `ifname`. -/
def Opt.ifname? : Opt → Option (Option String)
  | .i optarg => some (some optarg)
  | .I optarg => some (some optarg)
  | _ => none

/-- The command line pings by ARP: `-t` or `-U` says so, or nothing speaks for a MAC address. -/
def PingsIp (env : StartupEnv) (argv : List String) : Prop :=
  ForIp (options env argv) ∨
    ¬ ForMac (options env argv) ∧ ∀ name ∈ operands env argv, isMacAddr name = false

/-- The address that it asks for: with an operand that of the host, or with `-B` the broadcast
address; without one that of the own interface with `-d`. -/
def AskedDstip (env : StartupEnv) (argv : List String) (dstip : UInt32) : Prop :=
  match (operands env argv).head? with
  | some name =>
    if .B ∈ options env argv then dstip = 0xffffffff else xresolve env.libnet name = some dstip
  | none =>
    if .d ∈ options env argv then
      ∃ device, doLibnetInit env .dup ((lastWrite Opt.ifname? (options env argv)).getD none) =
        .ok device ∧ dstip = env.getIpaddr4 .dup device
    else .B ∈ options env argv ∧ dstip = 0xffffffff

/-- No option gives a VLAN. -/
def Untagged (env : StartupEnv) (argv : List String) : Prop :=
  ∀ o ∈ options env argv, o.vlanTag? = none

/-! ## The choice of the target -/

section

variable {env : StartupEnv} {s s' : Opts} {parm name : String}

/-- In IP mode the target is resolved, unless an address is given. -/
theorem matchTarget_dstip {matched : Opts × String} (hip : s.cfg.mode = .pingip)
    (h : matchTarget env s parm = .ok matched) :
    if s.dstipGiven then matched.1.cfg.dstip = s.cfg.dstip
    else xresolve env.libnet parm = some matched.1.cfg.dstip := by
  unfold matchTarget at h
  split at h
  · rename_i hboth
    obtain ⟨_, -, h⟩ := bind_eq_ok_iff.mp h
    obtain ⟨dstip, hdstip, h⟩ := bind_eq_ok_iff.mp h
    obtain rfl := pure_eq_ok_iff.mp h
    rw [hboth.2, if_neg Bool.false_ne_true]
    exact demand_eq_ok_iff.mp hdstip
  · rename_i hnot
    cases h
    rw [if_pos (Bool.not_eq_false _ ▸ fun hgiven => hnot ⟨hip, hgiven⟩)]

theorem parseTarget_of_matched {operand : Option String} {matched : Opts × String}
    (hip : s.cfg.mode = .pingip) (hmatched : matchTarget env s parm = .ok matched)
    (hparse : parseTarget matched.1 operand matched.2 = .ok s') : s' = matched.1 := by
  have hmode : matched.1.cfg.mode = .pingip :=
    ((matchTarget_targets hmatched).mode (by simp [hip])).trans hip
  rw [parseTarget_of_pingip hmode] at hparse
  cases hparse
  rfl

theorem chooseTarget_operand (h : chooseTarget env s (some name) = .ok (s', parm)) :
    (s'.cfg.mode = .pingip ↔ ReadAsIp s name) ∧
      (s'.cfg.mode = .pingip →
        if s.dstipGiven then s'.cfg.dstip = s.cfg.dstip
        else xresolve env.libnet name = some s'.cfg.dstip) := by
  obtain ⟨s₁, moded, parm₁, matched, hown, hmoded, hparm, -, hmatched, hparse⟩ :=
    chooseTarget_phases h
  rw [defaultToOwn_some] at hown
  cases hown
  obtain ⟨hname, hgiven, hdstip, hip, hmode⟩ := chooseMode_some hmoded
  obtain rfl := Option.some.inj (hname.symm.trans hparm)
  have hkept := ((matchTarget_targets hmatched).trans (parseTarget_targets hparse)).mode hmode
  rw [hkept]
  refine ⟨hip, fun hmode => ?_⟩
  have htarget := matchTarget_dstip hmode hmatched
  rw [hgiven, hdstip, ← parseTarget_of_matched hmode hmatched hparse] at htarget
  exact htarget

theorem defaultToOwn_noOperand (h : defaultToOwn env s none = .ok s') :
    if s.cfg.finddup then
      ∃ device, doLibnetInit env .dup s.ifname = .ok device ∧
        s'.cfg.dstip = env.getIpaddr4 .dup device
    else s' = s := by
  unfold defaultToOwn at h
  split at h
  · rename_i hfind
    obtain ⟨device, hdevice, h⟩ := bind_eq_ok_iff.mp h
    obtain rfl := pure_eq_ok_iff.mp h
    rw [if_pos hfind.1]
    exact ⟨device, hdevice, rfl⟩
  · rename_i hnot
    cases h
    rw [if_neg fun hfind => hnot ⟨hfind, rfl⟩]

theorem chooseMode_none_keeps {chosen : Opts × Option String}
    (h : chooseMode env s none = .ok chosen) :
    chosen.1.cfg.dstip = s.cfg.dstip ∧ chosen.1.dstipGiven = s.dstipGiven := by
  unfold chooseMode at h
  split at h
  · simp only at h
    split at h
    · obtain ⟨_, -, h⟩ := bind_eq_ok_iff.mp h
      obtain ⟨_, -, h⟩ := bind_eq_ok_iff.mp h
      obtain rfl := pure_eq_ok_iff.mp h
      exact ⟨rfl, rfl⟩
    · cases h
      exact ⟨rfl, rfl⟩
  · cases h
    exact ⟨rfl, rfl⟩

/-- Without an operand the mode is left open, and an address is given. -/
theorem chooseTarget_noOperand (h : chooseTarget env s none = .ok (s', parm)) :
    s.cfg.mode = .none ∧ s'.cfg.mode = .pingip ∧
      if s.cfg.finddup then
        ∃ device, doLibnetInit env .dup s.ifname = .ok device ∧
          s'.cfg.dstip = env.getIpaddr4 .dup device
      else s.dstipGiven = true ∧ s'.cfg.dstip = s.cfg.dstip := by
  have hcase := chooseTarget_cases h
  cases hcase with
  | stoodIn hmode hip =>
    refine ⟨hmode, hip, ?_⟩
    obtain ⟨s₁, moded, parm₁, matched, hown, hmoded, hparm, -, hmatched, hparse⟩ :=
      chooseTarget_phases h
    obtain ⟨-, hmode, hgiven, -⟩ := chooseMode_none hmoded hparm
    obtain ⟨hdstip, hgiven'⟩ := chooseMode_none_keeps hmoded
    -- `matchTarget` leaves the given address alone
    have htarget := matchTarget_dstip hmode hmatched
    rw [if_pos hgiven, hdstip, ← parseTarget_of_matched hmode hmatched hparse] at htarget
    have hdefault := defaultToOwn_noOperand hown
    rw [htarget]
    split at hdefault
    · rename_i hfind
      rwa [if_pos hfind]
    · rename_i hfind
      rw [if_neg hfind]
      subst hdefault
      exact ⟨hgiven'.symm.trans hgiven, rfl⟩

end

/-! ## Up to the ping loop -/

section

variable {env : StartupEnv} {argv : List String} {l : Launch}

theorem step_ifname_host {s s' : Opts} {o : Opt} (h : s.step o = .ok s') :
    s'.ifname = o.ifname?.getD s.ifname ∧ s'.cfg.host = s.cfg.host := by
  cases o
  case h | other => cases h
  case i optarg | Q optarg | V optarg =>
    obtain ⟨-, -, h⟩ := bind_eq_ok_iff.mp h
    cases h
    simp [Opt.ifname?]
  all_goals
    cases h
    simp [Opt.ifname?]

theorem parseOptions_ifname_host {host : Endian} {os : List Opt} {s : Opts}
    (h : parseOptions host os = .ok s) :
    s.ifname = (lastWrite Opt.ifname? os).getD none ∧ s.cfg.host = host :=
  ⟨foldlM_write (x := Opts.ifname) h fun _ _ _ h => (step_ifname_host h).1,
    foldlM_frame (x := fun s => s.cfg.host) h fun _ _ _ h => (step_ifname_host h).2⟩

theorem readAsIp_iff_pingsIp {s₀ s₁ : Opts} (hparsed : Parsed (options env argv) s₀)
    (hread : ArgumentsRead env.libnet s₀ s₁) (hfree : ¬ Conflicting (options env argv))
    {name : String} (hname : operands env argv = [name]) :
    ReadAsIp s₁ name ↔ PingsIp env argv := by
  obtain ⟨-, hip, hnone⟩ := hparsed.mode_iff hfree
  unfold ReadAsIp PingsIp
  rw [hread.mode, hip, hnone, hname, List.forall_mem_singleton]
  by_cases hforIp : ForIp (options env argv)
  · exact iff_of_true (Or.inl hforIp) (Or.inl hforIp)
  · simp [hforIp]

theorem readArguments_ifname_host {s s' : Opts} (h : readArguments env s = .ok s') :
    s'.ifname = s.ifname ∧ s'.cfg.host = s.cfg.host := by
  obtain ⟨_, -, h⟩ := bind_eq_ok_iff.mp h
  obtain ⟨_, -, h⟩ := bind_eq_ok_iff.mp h
  obtain ⟨_, -, h⟩ := bind_eq_ok_iff.mp h
  obtain ⟨_, -, h⟩ := bind_eq_ok_iff.mp h
  obtain ⟨_, -, h⟩ := bind_eq_ok_iff.mp h
  obtain rfl := pure_eq_ok_iff.mp h
  exact ⟨rfl, rfl⟩

/-- The mode and the address, read off the command line. -/
theorem startup_target (h : startup env argv = .ok l) :
    (l.cfg.mode = .pingip ↔ PingsIp env argv) ∧
      (l.cfg.mode = .pingip → AskedDstip env argv l.cfg.dstip) := by
  obtain ⟨s₀, s₁, ⟨s₂, parm⟩, hparse, hone, hchecks, hread, hchosen, hlaunch⟩ := startup_phases h
  have hparsed := parseOptions_parsed hparse
  have hfree := (conflictChecks_eq_ok_iff hparsed).mp hchecks
  have hargs := readArguments_read hread
  have hgiven : s₁.dstipGiven = true ↔ .B ∈ options env argv := by
    rw [hargs.dstipGiven, hparsed.dstipGiven, any_eq_iff_mem]
  have hbroadcast : s₁.dstipGiven = true → s₁.cfg.dstip = 0xffffffff := fun hB =>
    dstip_of_not_forMac hparsed hargs fun hmac => hfree ⟨hmac, Or.inl (hgiven.mp hB)⟩
  obtain ⟨-, hmode, hdstip, -⟩ := launch_frame hlaunch
  rw [hmode, hdstip]
  unfold AskedDstip
  cases hoperand : (operands env argv).head? with
  | some name =>
    have hname := (operands_eq_singleton_iff hone name).mpr hoperand
    rw [hoperand] at hchosen
    obtain ⟨hip, htarget⟩ := chooseTarget_operand hchosen
    refine ⟨hip.trans (readAsIp_iff_pingsIp hparsed hargs hfree hname), fun hmode => ?_⟩
    have htarget := htarget hmode
    dsimp only
    split at htarget
    · rename_i hB
      rw [if_pos (hgiven.mp hB)]
      exact htarget.trans (hbroadcast hB)
    · rename_i hB
      rw [if_neg fun hmem => hB (hgiven.mpr hmem)]
      exact htarget
  | none =>
    have hnone := List.head?_eq_none_iff.mp hoperand
    rw [hoperand] at hchosen
    obtain ⟨hopen, hip, htarget⟩ := chooseTarget_noOperand hchosen
    have hfind : s₁.cfg.finddup = true ↔ .d ∈ options env argv := by
      rw [hargs.finddup, hparsed.finddup, any_eq_iff_mem]
    have hopt : ¬ ForMac (options env argv) ∧ ¬ ForIp (options env argv) :=
      (hparsed.mode_iff hfree).2.2.mp (hargs.mode.symm.trans hopen)
    have hpings : PingsIp env argv :=
      Or.inr ⟨hopt.1, fun name hname => absurd hname (hnone ▸ List.not_mem_nil)⟩
    refine ⟨iff_of_true hip hpings, fun _ => ?_⟩
    dsimp only
    split at htarget
    · rename_i hd
      rw [if_pos (hfind.mp hd), ← (parseOptions_ifname_host hparse).1,
        ← (readArguments_ifname_host hread).1]
      exact htarget
    · rename_i hd
      rw [if_neg fun hmem => hd (hfind.mpr hmem)]
      exact ⟨hgiven.mp htarget.1, htarget.2.trans (hbroadcast htarget.1)⟩

/-- What the command line says of other variables in the ping loop. -/
structure LoopVariables (env : StartupEnv) (argv : List String) (cfg : Config) : Prop where
  host : cfg.host = env.host
  finddup : cfg.finddup = true ↔ .d ∈ options env argv
  untagged : cfg.vlanTag < 0 ↔ Untagged env argv

theorem startup_loopVariables (h : startup env argv = .ok l) : LoopVariables env argv l.cfg := by
  obtain ⟨s₀, s₁, chosen, hparse, -, -, hread, hchosen, hlaunch⟩ := startup_phases h
  have hvlanTag := (startup_configured h).vlanTag
  obtain ⟨htargets, -⟩ := chooseTarget_targets hchosen
  obtain ⟨ifname, srcip, srcmac, rfl⟩ := launch_eq hlaunch
  constructor
  · show chosen.1.cfg.host = env.host
    rw [htargets.others]
    exact (readArguments_ifname_host hread).2.trans (parseOptions_ifname_host hparse).2
  · show chosen.1.cfg.finddup = true ↔ _
    rw [htargets.others]
    show s₁.cfg.finddup = true ↔ _
    rw [(readArguments_read hread).finddup, (parseOptions_parsed hparse).finddup, any_eq_iff_mem]
  · unfold Untagged
    rw [hvlanTag, ← lastWrite_eq_none_iff]
    cases hlast : lastWrite Opt.vlanTag? (options env argv) with
    | none => exact iff_of_true (by decide) rfl
    | some tag =>
      have hge := nonneg_of_lastWrite hparse (Or.inl hlast)
      exact iff_of_false (Int16.not_lt.mpr hge) nofun

end

/-! ## The programs -/

/-- Programs whose command lines lead to the ping loop, and stations. -/
structure Programs (ι : Type) where
  env : ι → StartupEnv
  argv : ι → List String
  launch : ι → Launch
  started : ∀ i, startup (env i) (argv i) = .ok (launch i)
  stations : Set Station

namespace Programs

variable {ι : Type} (P : Programs ι)

/-- Their ping loops. -/
def link : Link ι where
  cfg i := (P.launch i).cfg
  stations := P.stations

/-- The program `i` pings by ARP, without a VLAN. -/
def ByArp (i : ι) : Prop := PingsIp (P.env i) (P.argv i) ∧ Untagged (P.env i) (P.argv i)

/-- The program `j` was told to send replies in the name of `ip`, from `mac`. -/
structure Claims (j : ι) (ip : Vector UInt8 4) (mac : Mac) : Prop where
  byArp : P.ByArp j
  reply : .P ∈ options (P.env j) (P.argv j)
  srcmac : AskedSrcmac (P.env j) (options (P.env j) (P.argv j)) (P.launch j).ifname mac
  srcip : ∃ srcip, AskedSrcip (P.env j) (options (P.env j) (P.argv j)) (P.launch j).ifname srcip ∧
    (P.env j).host.bytes32 srcip = ip

/-- Somebody answers for `ip`: a station that has the address, or a program. -/
def Answers (ip : Vector UInt8 4) (mac : Mac) : Prop :=
  (∃ w ∈ P.stations, w.mac = mac ∧ w.ip = ip) ∨ ∃ j, P.Claims j ip mac

/-- The program `i` has seen the packet `p`, an untagged reply in the name of `ip` that was sent
before. -/
def Answered (s : ι → Point × State) (i : ι) (ip : Vector UInt8 4) (p : Packet) : Prop :=
  p ∈ (s i).2.handled ∧ ∃ host a e, P.link.Sent s host (.arp a e) ∧ Carries host p a e ∧
    e.tag.isSome = false ∧ a.op = arpopReply ∧ host.bytes32 a.spa = ip

end Programs

/-- A run sends ARP in IP mode only. -/
theorem Reachable.pingip_of_arp_sent {cfg : Config} {x : Point × State} (h : Reachable cfg x)
    {k : ℕ} {a : ArpArgs} {e : EtherArgs} (hsent : x.2.sent[k]? = some (.arp a e)) :
    cfg.mode = .pingip := by
  obtain ⟨id, c, hr⟩ := h.requestOf_sent hsent
  unfold requestOf at hr
  split at hr
  · assumption
  · cases hr

section

variable {ι : Type} [DecidableEq ι] {P : Programs ι} {s : ι → Point × State} {i j : ι}
  {mac : Mac}

omit [DecidableEq ι] in
theorem Programs.byArp_iff : P.ByArp i ↔ installedFilter (P.link.cfg i) = some "arp" := by
  rw [installedFilter_eq_arp_iff]
  exact (and_congr (startup_target (P.started i)).1
    (startup_loopVariables (P.started i)).untagged).symm

/-- What a program by ARP has counted are the replies in the name of its target. -/
theorem Programs.mem_counted_iff (h : P.link.Reachable s) (hi : P.ByArp i) (p : Packet) :
    p ∈ (s i).2.counted ↔
      P.Answered s i ((P.env i).host.bytes32 (P.launch i).cfg.dstip) p := by
  have hsame : (P.link.cfg i).addrMustBeSame = false :=
    (sane_of_startup (P.started i)).addrMustBeSame
  have hhost : (P.link.cfg i).host = (P.env i).host := (startup_loopVariables (P.started i)).host
  rw [Arping.mem_counted_iff h (Programs.byArp_iff.mp hi) p]
  refine and_congr_right fun _ => ?_
  refine exists₃_congr fun host a e => and_congr_right fun _ => and_congr_right fun _ =>
    and_congr_right fun _ => ?_
  rw [← hhost]
  constructor
  · rintro ⟨hop, hspa, -⟩
    exact ⟨hop, hspa⟩
  · rintro ⟨hop, hspa⟩
    refine ⟨hop, hspa, fun htrue => ?_⟩
    rw [hsame] at htrue
    cases htrue

/-- Who sends a reply answers for the address in it. -/
theorem Programs.answers_of_answered (h : P.link.Reachable s) {ip : Vector UInt8 4} {p : Packet}
    (hp : P.Answered s i ip p) : P.Answers ip p.srcmac := by
  obtain ⟨-, host, a, e, hsent, hcarries, htag, hop, hspa⟩ := hp
  rw [hcarries.srcmac]
  cases hsent with
  | @arp w host a e hw ha hsha hspa' hsrc =>
    exact Or.inl ⟨w, hw, hsrc.symm, hspa'.symm.trans hspa⟩
  | @run j k r hsent hwritten =>
    have hrequest := (h.run j).arp_sent hsent
    have hmode := (h.run j).pingip_of_arp_sent hsent
    have hconfigured := startup_configured (P.started j)
    have hvariables := startup_loopVariables (P.started j)
    cases hrequest
    have hv : (P.link.cfg j).vlanTag < 0 := by
      rw [Bool.eq_false_iff, Ne, etherArgs_tag_isSome] at htag
      exact Int16.not_le.mp htag
    have hreply : (P.link.cfg j).sendReply = true := by
      cases hr : (P.link.cfg j).sendReply with
      | true => rfl
      | false =>
        have hop' : (if (P.link.cfg j).sendReply then arpopReply else arpopRequest) = arpopReply :=
          hop
        rw [hr] at hop'
        exact absurd hop' (by decide)
    refine Or.inr ⟨j, Programs.byArp_iff.mpr (installedFilter_eq_arp_iff.mpr ⟨hmode, hv⟩), ?_,
      hconfigured.srcmac, _, hconfigured.srcip, ?_⟩
    · rw [← any_eq_iff_mem]
      exact hconfigured.sendReply.symm.trans hreply
    · rw [← hvariables.host]
      exact hspa

theorem exitStatus_eq_one_iff (cfg : Config) (g : State) :
    exitStatus cfg g = 1 ↔ ¬ exitStatus cfg g = 0 := by
  have hle := exitStatus_le_one cfg g
  omega

/-- **What the exit status tells.** In every situation that programs on one link reach, the exit
status of a program that pings by ARP without a VLAN is 0 if and only if it has seen a reply in the
name of the address that its command line asks for; with `-d` it is 1 if and only if it has seen two
from different source addresses. All these replies come from a station that has the address, or from
a program with `-P` that was told to claim it. -/
theorem programs_report (h : P.link.Reachable s) (hi : P.ByArp i)
    (hlen : (s i).2.counted.length < 2 ^ 32) :
    ∃ dstip, AskedDstip (P.env i) (P.argv i) dstip ∧
      (.d ∉ options (P.env i) (P.argv i) → (exitStatus (P.launch i).cfg (s i).2 = 0 ↔
        ∃ p, P.Answered s i ((P.env i).host.bytes32 dstip) p)) ∧
      (.d ∈ options (P.env i) (P.argv i) → (exitStatus (P.launch i).cfg (s i).2 = 1 ↔
        ∃ p q, P.Answered s i ((P.env i).host.bytes32 dstip) p ∧
          P.Answered s i ((P.env i).host.bytes32 dstip) q ∧ p.srcmac ≠ q.srcmac)) ∧
      ∀ p, P.Answered s i ((P.env i).host.bytes32 dstip) p →
        P.Answers ((P.env i).host.bytes32 dstip) p.srcmac := by
  have htarget := startup_target (P.started i)
  have hmode := htarget.1.mpr hi.1
  have hd := (startup_loopVariables (P.started i)).finddup
  have hcounted := Programs.mem_counted_iff h hi
  have hstatus : exitStatus (P.launch i).cfg (s i).2 = 0 ↔ Answered (P.launch i).cfg (s i).2 :=
    exitStatus_eq_zero_iff (h.run i) hlen
  refine ⟨_, htarget.2 hmode, fun hnot => ?_, fun hmem => ?_,
    fun p => Programs.answers_of_answered h⟩
  · rw [hstatus, Answered, if_neg (fun hfind => hnot (hd.mp hfind))]
    simp only [← hcounted]
    exact ⟨List.exists_mem_of_ne_nil _, fun ⟨p, hp⟩ => List.ne_nil_of_mem hp⟩
  · rw [exitStatus_eq_one_iff, hstatus, Answered, if_pos (hd.mpr hmem)]
    simp only [← hcounted]
    constructor
    · intro hnot
      by_contra hno
      refine hnot fun _ p hp q hq => ?_
      by_contra hne
      exact hno ⟨p, q, hp, hq, hne⟩
    · rintro ⟨p, q, hp, hq, hne⟩ hsame
      exact hne (hsame hmode p hp q hq)

end

/-- `arping 10.0.0.1`, while `arping -P -S 10.0.0.1 10.0.0.9` claims the address. -/
theorem programs_report_claim :
    ∃ (P : Programs Bool) (s : Bool → Point × State), P.argv false = ["10.0.0.1"] ∧
      P.argv true = ["-P", "-S", "10.0.0.1", "10.0.0.9"] ∧ P.stations = ∅ ∧ P.link.Reachable s ∧
      exitStatus (P.launch false).cfg (s false).2 = 0 := by
  obtain ⟨l, hl, hasks⟩ := map_eq_ok_iff.mp (show (startup workingEnv ["10.0.0.1"]).map
    (fun l => (installedFilter l.cfg, loopTest l.cfg 0 State.init)) = .ok (some "arp", true)
      from rfl)
  obtain ⟨l', hl', hclaims⟩ := map_eq_ok_iff.mp (show (startup workingEnv
    ["-P", "-S", "10.0.0.1", "10.0.0.9"]).map (fun l => (requestOf l.cfg 0 0, l.cfg.host,
      loopTest l.cfg 0 State.init)) = .ok (arpRequest claimConfig, .little, true) from rfl)
  obtain ⟨hfilter, htest⟩ := Prod.mk.inj hasks
  obtain ⟨hrequest, hrest⟩ := Prod.mk.inj hclaims
  obtain ⟨hhost, htest'⟩ := Prod.mk.inj hrest
  let P : Programs Bool := {
    env := fun _ => workingEnv
    argv := fun i => if i then ["-P", "-S", "10.0.0.1", "10.0.0.9"] else ["10.0.0.1"]
    launch := fun i => if i then l' else l
    started := Bool.forall_bool.mpr ⟨hl, hl'⟩
    stations := ∅ }
  have hcarried : (requestOf l'.cfg 0 0).CarriedBy l'.cfg.host claimFrame := by
    rw [hrequest, hhost]
    exact carries_claimFrame rfl
  have hpass : ∀ filter, installedFilter l.cfg = some filter →
      (requestOf l'.cfg 0 0).Passes filter := by
    intro filter hinstalled
    rw [hrequest]
    exact (Option.some.inj (hfilter.symm.trans hinstalled)).symm
  obtain ⟨s, hs, hsent, hhandled⟩ := Link.exists_handled (L := P.link) Bool.false_ne_true htest
    htest' hcarried hpass
  have hlen : (s false).2.counted.length < 2 ^ 32 := by
    have hcounted : (s false).2.counted = _ := reachable_countsAccepted (hs.run false)
    rw [hcounted, hhandled]
    exact (List.length_filter_le _ _).trans_lt (by decide)
  obtain ⟨dstip, hdstip, hstatus, -⟩ :=
    programs_report (P := P) (i := false) hs (Programs.byArp_iff.mpr hfilter) hlen
  have hresolve : xresolve dottedLibnet "10.0.0.1" = some dstip := hdstip
  obtain rfl : 0x0100000a = dstip := Option.some.inj hresolve
  have hclaim : P.link.Sent s .little (arpRequest claimConfig) := hhost ▸ hrequest ▸ hsent
  have hnotd : .d ∉ options workingEnv ["10.0.0.1"] := by decide
  refine ⟨P, s, rfl, rfl, rfl, hs, (hstatus hnotd).mpr ⟨claimFrame, ?_, .little, _, _, hclaim,
    carries_claimFrame rfl, rfl, rfl, rfl⟩⟩
  rw [hhandled]
  exact List.mem_singleton_self _

end Arping
