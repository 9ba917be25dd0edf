import Arping.Lib.DottedQuad
import Arping.OptionOrder
import Arping.Startup

/-!
# Target and address

The string that is printed for the target and the address that is pinged come about in four ways
(`TargetCase`). In three of them one is made from the other, or the string is the MAC address that
is pinged. In the fourth, `-B` with an operand in IP mode, the operand is printed and the broadcast
address is pinged.
-/

namespace Arping

open Checks

/-! ## How the target is chosen -/

/-- The mode is IP, or no option chose one and the operand is not taken for a MAC address. -/
def ReadAsIp (s : Opts) (p : String) : Prop :=
  s.cfg.mode = .pingip ∨ (s.cfg.mode = .none ∧ isMacAddr p = false)

/-- The ways in which `chooseTarget` ends well, by operand, variables and target string. -/
inductive TargetCase (env : StartupEnv) (s : Opts) : Option String → Opts → String → Prop
  | stoodIn {s' : Opts} (hmode : s.cfg.mode = .none) (hip : s'.cfg.mode = .pingip) :
      TargetCase env s none s' (env.libnet.addr2name4 s'.cfg.dstip)
  | mac {s' : Opts} {p : String} (hmode : ¬ ReadAsIp s p) (hmac : s'.cfg.mode = .pingmac)
      (hdstmac : getMacAddr p = some s'.cfg.dstmac) (hdstip : s'.cfg.dstip = s.cfg.dstip) :
      TargetCase env s (some p) s' p
  | resolved {s' : Opts} {p : String} (hgiven : s.dstipGiven = false)
      (hip : s'.cfg.mode = .pingip) :
      TargetCase env s (some p) s' (env.libnet.addr2name4 s'.cfg.dstip)
  | kept {s' : Opts} {p : String} (hgiven : s.dstipGiven = true) (hmode : ReadAsIp s p)
      (hip : s'.cfg.mode = .pingip) (hdstip : s'.cfg.dstip = s.cfg.dstip) :
      TargetCase env s (some p) s' p

section

variable {env : StartupEnv} {s s' : Opts} {p parm : String}

theorem defaultToOwn_some (env : StartupEnv) (s : Opts) (p : String) :
    defaultToOwn env s (some p) = .ok s := by
  unfold defaultToOwn
  rw [if_neg (by simp)]

/-- Without an operand a target is chosen only where no option chose the mode. -/
theorem chooseMode_none {chosen : Opts × Option String}
    (h : chooseMode env s none = .ok chosen) (hparm : chosen.2 = some parm) :
    s.cfg.mode = .none ∧ chosen.1.cfg.mode = .pingip ∧ chosen.1.dstipGiven = true ∧
      parm = env.libnet.addr2name4 chosen.1.cfg.dstip := by
  unfold chooseMode at h
  split at h
  · rename_i hmode
    simp only at h
    split at h
    · rename_i hgiven
      obtain ⟨_, -, h⟩ := bind_eq_ok_iff.mp h
      obtain ⟨_, -, h⟩ := bind_eq_ok_iff.mp h
      obtain rfl := pure_eq_ok_iff.mp h
      exact ⟨hmode, rfl, hgiven, (Option.some.inj hparm).symm⟩
    · cases h
      cases hparm
  · cases h
    cases hparm

/-- With one, it is the target. -/
theorem chooseMode_some {chosen : Opts × Option String}
    (h : chooseMode env s (some p) = .ok chosen) :
    chosen.2 = some p ∧ chosen.1.dstipGiven = s.dstipGiven ∧
      chosen.1.cfg.dstip = s.cfg.dstip ∧
      (chosen.1.cfg.mode = .pingip ↔ ReadAsIp s p) ∧ chosen.1.cfg.mode ≠ .none := by
  unfold chooseMode at h
  split at h
  · rename_i hmode
    cases h
    refine ⟨rfl, rfl, rfl, ?_, ?_⟩
    · cases hmac : isMacAddr p <;> simp [ReadAsIp, hmode, hmac]
    · cases hmac : isMacAddr p <;> simp
  · rename_i hmode
    cases h
    exact ⟨rfl, rfl, rfl, by simp [ReadAsIp, hmode], hmode⟩

/-- `parm` and `dstip` are made alike, or stay as they are. -/
theorem matchTarget_cases {matched : Opts × String} (h : matchTarget env s parm = .ok matched) :
    (s.cfg.mode = .pingip ∧ s.dstipGiven = false ∧ matched.1.cfg.mode = .pingip ∧
        matched.2 = env.libnet.addr2name4 matched.1.cfg.dstip) ∨
      ((s.cfg.mode = .pingip → s.dstipGiven = true) ∧ matched = (s, parm)) := by
  unfold matchTarget at h
  split at h
  · rename_i hboth
    obtain ⟨_, -, h⟩ := bind_eq_ok_iff.mp h
    obtain ⟨dstip, -, h⟩ := bind_eq_ok_iff.mp h
    obtain rfl := pure_eq_ok_iff.mp h
    exact Or.inl ⟨hboth.1, hboth.2, hboth.1, rfl⟩
  · rename_i hnot
    cases h
    refine Or.inr ⟨fun hip => ?_, rfl⟩
    rw [← Bool.not_eq_false]
    exact fun hgiven => hnot ⟨hip, hgiven⟩

theorem parseTarget_of_pingip (hip : s.cfg.mode = .pingip) (operand : Option String)
    (parm : String) : parseTarget s operand parm = .ok s := by
  unfold parseTarget
  rw [if_neg (by rw [hip]; decide)]

/-- In MAC mode the operand is parsed. -/
theorem parseTarget_of_pingmac (hmac : s.cfg.mode = .pingmac) {operand : Option String}
    (h : parseTarget s operand parm = .ok s') :
    ∃ p, operand = some p ∧ getMacAddr p = some s'.cfg.dstmac ∧ s'.cfg.mode = .pingmac ∧
      s'.cfg.dstip = s.cfg.dstip := by
  unfold parseTarget at h
  rw [if_pos hmac] at h
  obtain ⟨p, hp, h⟩ := bind_eq_ok_iff.mp h
  obtain ⟨_, -, h⟩ := bind_eq_ok_iff.mp h
  obtain ⟨dstmac, hdstmac, h⟩ := bind_eq_ok_iff.mp h
  obtain rfl := pure_eq_ok_iff.mp h
  exact ⟨p, demand_eq_ok_iff.mp hp, demand_eq_ok_iff.mp hdstmac, hmac, rfl⟩

theorem chooseTarget_cases {operand : Option String}
    (h : chooseTarget env s operand = .ok (s', parm)) : TargetCase env s operand s' parm := by
  obtain ⟨s₁, hown, h⟩ := bind_eq_ok_iff.mp h
  obtain ⟨chosen, hchosen, h⟩ := bind_eq_ok_iff.mp h
  obtain ⟨parm₁, hparm, h⟩ := bind_eq_ok_iff.mp h
  obtain ⟨_, hmode, h⟩ := bind_eq_ok_iff.mp h
  obtain ⟨_, -, h⟩ := bind_eq_ok_iff.mp h
  obtain ⟨matched, hmatched, h⟩ := bind_eq_ok_iff.mp h
  obtain ⟨s₂, hparse, h⟩ := bind_eq_ok_iff.mp h
  cases pure_eq_ok_iff.mp h
  have hparm := demand_eq_ok_iff.mp hparm
  cases operand with
  | none =>
    obtain ⟨hnone, hip, hgiven, rfl⟩ := chooseMode_none hchosen hparm
    have hs : s.cfg.mode = .none := by
      unfold defaultToOwn at hown
      split at hown
      · obtain ⟨device, -, hown⟩ := bind_eq_ok_iff.mp hown
        obtain rfl := pure_eq_ok_iff.mp hown
        exact hnone
      · cases hown
        exact hnone
    rcases matchTarget_cases hmatched with ⟨-, hnot, -, -⟩ | ⟨-, rfl⟩
    · rw [hgiven] at hnot
      cases hnot
    · rw [parseTarget_of_pingip hip] at hparse
      cases hparse
      exact .stoodIn hs hip
  | some p =>
    rw [defaultToOwn_some] at hown
    cases hown
    obtain ⟨hp, hgiven, hdstip, hip, hnone⟩ := chooseMode_some hchosen
    obtain rfl := Option.some.inj (hp.symm.trans hparm)
    rcases matchTarget_cases hmatched with ⟨-, hnot, hip', halike⟩ | ⟨hkept, rfl⟩
    · rw [parseTarget_of_pingip hip'] at hparse
      cases hparse
      rw [halike]
      exact .resolved (hgiven.symm.trans hnot) hip'
    · by_cases hread : ReadAsIp s p
      · have hmode := hip.mpr hread
        rw [parseTarget_of_pingip hmode] at hparse
        cases hparse
        exact .kept (hgiven.symm.trans (hkept hmode)) hread hmode hdstip
      · have hmac : chosen.1.cfg.mode = .pingmac := by
          cases hm : chosen.1.cfg.mode with
          | none => exact absurd hm hnone
          | pingmac => rfl
          | pingip => exact absurd (hip.mp hm) hread
        obtain ⟨_, hp', hdstmac, hmac', hdstip'⟩ := parseTarget_of_pingmac hmac hparse
        obtain rfl := Option.some.inj hp'
        exact .mac hread hmac' hdstmac (hdstip'.trans hdstip)

end

/-! ## Names and addresses -/

/-- What the code relies on of libnet: the name it makes of an address is read as that address. -/
structure Libnet.Lawful (libnet : Libnet) : Prop where
  addr2name4_broadcast : libnet.addr2name4 0xffffffff = ipBroadcast
  name2addr4_addr2name4 : ∀ a, libnet.name2addr4 (libnet.addr2name4 a) = a

theorem xresolve_addr2name4 {libnet : Libnet} (h : libnet.Lawful) (a : UInt32) :
    xresolve libnet (libnet.addr2name4 a) = some a := by
  unfold xresolve
  split
  · rename_i hname
    rw [← h.addr2name4_broadcast] at hname
    have ha := congrArg libnet.name2addr4 hname
    rw [h.name2addr4_addr2name4, h.name2addr4_addr2name4] at ha
    rw [ha]
  · rename_i hname
    have ha : a ≠ 0xffffffff := by
      rintro rfl
      exact hname h.addr2name4_broadcast.symm
    rw [h.name2addr4_addr2name4, if_pos ha]

theorem xresolve_eq_broadcast_iff (libnet : Libnet) (name : String) :
    xresolve libnet name = some 0xffffffff ↔ name = ipBroadcast := by
  unfold xresolve
  split
  · rename_i hname
    exact iff_of_true rfl hname.symm
  · rename_i hname
    refine iff_of_false ?_ (Ne.symm hname)
    split
    · rename_i ha
      exact fun h => ha (Option.some.inj h)
    · exact fun h => by cases h

/-! ## What the cases come to -/

namespace TargetCase

variable {env : StartupEnv} {s s' : Opts} {operand : Option String} {parm : String}

/-- In MAC mode the operand is what is pinged. -/
theorem pingmac (h : TargetCase env s operand s' parm) (hmac : s'.cfg.mode = .pingmac) :
    (∃ p, operand = some p ∧ getMacAddr p = some s'.cfg.dstmac) ∧
      s'.cfg.dstip = s.cfg.dstip := by
  cases h with
  | mac hnotIp hmode hdstmac hdstip => exact ⟨⟨parm, rfl, hdstmac⟩, hdstip⟩
  | stoodIn hmode hip =>
    rw [hip] at hmac
    cases hmac
  | resolved hgiven hip =>
    rw [hip] at hmac
    cases hmac
  | kept hgiven hmode hip hdstip =>
    rw [hip] at hmac
    cases hmac

/-- In IP mode the target denotes the address, but for an operand in place of which the broadcast
address is kept. -/
theorem pingip_iff (h : TargetCase env s operand s' parm) (hlibnet : env.libnet.Lawful)
    (hbroadcast : s.dstipGiven = true → s.cfg.dstip = 0xffffffff) :
    (s'.cfg.mode = .pingip → xresolve env.libnet parm = some s'.cfg.dstip) ↔
      ¬ (s.dstipGiven = true ∧ ∃ p, operand = some p ∧ p ≠ ipBroadcast ∧ ReadAsIp s p) := by
  cases h with
  | stoodIn hmode hip =>
    refine iff_of_true (fun _ => xresolve_addr2name4 hlibnet _) ?_
    rintro ⟨-, p, hp, -⟩
    cases hp
  | mac hnotIp hmac hdstmac hdstip =>
    refine iff_of_true (fun hip => ?_) ?_
    · rw [hmac] at hip
      cases hip
    · rintro ⟨-, p, hp, -, hread⟩
      obtain rfl := Option.some.inj hp
      exact hnotIp hread
  | resolved hnot hip =>
    refine iff_of_true (fun _ => xresolve_addr2name4 hlibnet _) ?_
    rintro ⟨hgiven, -⟩
    rw [hgiven] at hnot
    cases hnot
  | kept hgiven hread hip hdstip =>
    rw [hdstip, hbroadcast hgiven, xresolve_eq_broadcast_iff]
    constructor
    · rintro heq ⟨-, p, hp, hne, -⟩
      obtain rfl := Option.some.inj hp
      exact hne (heq hip)
    · intro hnot _
      by_contra hne
      exact hnot ⟨hgiven, parm, rfl, hne, hread⟩

end TargetCase

/-! ## Consistency -/

variable {env : StartupEnv} {argv : List String} {l : Launch}

/-- What is printed as the target denotes what is pinged. -/
structure TargetConsistent (env : StartupEnv) (argv : List String) (l : Launch) : Prop where
  pingip : l.cfg.mode = .pingip → xresolve env.libnet l.target = some l.cfg.dstip
  pingmac : l.cfg.mode = .pingmac →
    (∃ p, operands env argv = [p] ∧ getMacAddr p = some l.cfg.dstmac) ∧
      (¬ ForMac (options env argv) → l.cfg.dstip = 0xffffffff)

/-- `-B` with an operand that is to be read as another address. -/
def OverriddenOperand (env : StartupEnv) (argv : List String) : Prop :=
  .B ∈ options env argv ∧ ∃ p, operands env argv = [p] ∧ p ≠ ipBroadcast ∧
    (ForIp (options env argv) ∨ isMacAddr p = false)

/-- Unless `-T` sets it, the options leave the destination address at broadcast. -/
theorem dstip_of_not_forMac {os : List Opt} {s s' : Opts} (hparsed : Opts.Parsed os s)
    (hread : ArgumentsRead env.libnet s s') (hmac : ¬ ForMac os) : s'.cfg.dstip = 0xffffffff := by
  rcases hparsed.dstipOpt_of_not_forMac hmac with hnone | hbroadcast
  · rw [hread.dstip_of_none hnone, hparsed.dstip]
  · have hresolved := hread.dstip_of_some _ hbroadcast
    exact (Option.some.inj hresolved).symm

/-- With `-B`, an operand is read as an IP address if `-t` or `-U` asks for it or if it is not taken
for a MAC address. -/
theorem readAsIp_iff {os : List Opt} {s s' : Opts} (hparsed : Opts.Parsed os s)
    (hread : ArgumentsRead env.libnet s s') (hfree : ¬ Conflicting os) (hB : .B ∈ os) (p : String) :
    ReadAsIp s' p ↔ ForIp os ∨ isMacAddr p = false := by
  have hmac : ¬ ForMac os := fun hmac => hfree ⟨hmac, Or.inl hB⟩
  obtain ⟨-, hip, hnone⟩ := hparsed.mode_iff hfree
  rw [ReadAsIp, hread.mode, hip, hnone]
  by_cases hforIp : ForIp os
  · exact iff_of_true (Or.inl hforIp) (Or.inl hforIp)
  · simp [hforIp, hmac]

theorem operands_eq_singleton_iff (hone : (operands env argv).length ≤ 1) (p : String) :
    operands env argv = [p] ↔ (operands env argv).head? = some p := by
  cases h : operands env argv with
  | nil => simp
  | cons q rest =>
    rw [h, List.length_cons] at hone
    have hrest : rest = [] := List.eq_nil_of_length_eq_zero (by omega)
    simp [hrest]

/-- **Target consistency.** A run that reaches the ping loop prints a target that denotes what it
pings, if and only if the operand is not overridden by `-B`. -/
theorem startup_targetConsistent_iff (hlibnet : env.libnet.Lawful)
    (h : startup env argv = .ok l) :
    TargetConsistent env argv l ↔ ¬ OverriddenOperand env argv := by
  obtain ⟨s₀, s₁, ⟨s₂, parm⟩, hparse, hone, hchecks, hread, hchosen, hlaunch⟩ := startup_phases h
  have hparsed := parseOptions_parsed hparse
  have hfree := (conflictChecks_eq_ok_iff hparsed).mp hchecks
  have hargs := readArguments_read hread
  have hcase := chooseTarget_cases hchosen
  obtain ⟨htarget, hmode, hdstip, hdstmac⟩ := launch_frame hlaunch
  have hgiven : s₁.dstipGiven = true ↔ .B ∈ options env argv := by
    rw [hargs.dstipGiven, hparsed.dstipGiven, any_eq_iff_mem]
  have hbroadcast : s₁.dstipGiven = true → s₁.cfg.dstip = 0xffffffff := fun hB =>
    dstip_of_not_forMac hparsed hargs fun hmac => hfree ⟨hmac, Or.inl (hgiven.mp hB)⟩
  -- `-B` in terms of the variables
  have hoverridden : OverriddenOperand env argv ↔ s₁.dstipGiven = true ∧
      ∃ p, (operands env argv).head? = some p ∧ p ≠ ipBroadcast ∧ ReadAsIp s₁ p := by
    rw [hgiven]
    refine and_congr_right fun hB => exists_congr fun p => ?_
    rw [operands_eq_singleton_iff hone, readAsIp_iff hparsed hargs hfree hB]
  have hpingip : (l.cfg.mode = .pingip → xresolve env.libnet l.target = some l.cfg.dstip) ↔
      ¬ OverriddenOperand env argv := by
    rw [hoverridden, htarget, hmode, hdstip]
    exact hcase.pingip_iff hlibnet hbroadcast
  constructor
  · intro hconsistent
    exact hpingip.mp hconsistent.pingip
  · intro hnot
    refine ⟨hpingip.mpr hnot, fun hmac => ?_⟩
    obtain ⟨⟨p, hp, hparsedMac⟩, hkept⟩ := hcase.pingmac (hmode.symm.trans hmac)
    refine ⟨⟨p, (operands_eq_singleton_iff hone p).mpr hp, ?_⟩, fun hnotT => ?_⟩
    · rw [hdstmac]
      exact hparsedMac
    · rw [hdstip, hkept]
      exact dstip_of_not_forMac hparsed hargs hnotT

/-! ## Two command lines -/

/-- libnet on a little-endian host, for addresses in dotted-quad notation. -/
def dottedLibnet : Libnet where
  name2addr4 name := (DottedQuad.parse name).getD 0xffffffff
  addr2name4 := DottedQuad.format

theorem dottedLibnet_lawful : dottedLibnet.Lawful where
  addr2name4_broadcast := by decide +kernel
  name2addr4_addr2name4 a := by
    simp only [dottedLibnet, DottedQuad.parse_format, Option.getD_some]

/-- All interfaces lie above one device. -/
def workingLib : Rtslib where
  opens := true
  iflGetindexbyifname _ := 0
  iflGetDeviceName _ := (0, "eth0", 0)
  iflmGetByName _ _ := (0, some 0)
  ifdmGetByName _ := some fun _ => 2
  walkOpens := true
  walkAnswers := []

/-- A machine whose interface has the address 10.0.0.9, and where no call fails. -/
def workingEnv : StartupEnv where
  host := .little
  permute := false
  libnet := dottedLibnet
  libnetInit _ _ := .ok ()
  isRoot := true
  getIpaddr4 _ _ := 0x0900000a
  libnetGeterror := ""
  strdup := true
  getifaddrs := .ok []
  pcapLookupdev := .ok "eth0"
  pcapOpenLive _ _ _ := .ok ()
  getgrnam _ := .error none
  pcapSetnonblock := .ok ()
  pcapCompile _ := .ok ()
  pcapSetfilter := .ok ()
  rtslib := workingLib

theorem workingEnv_getMac (ifname : String) :
    workingEnv.getMac ifname = some (Vector.replicate 6 2) := by
  unfold StartupEnv.getMac getMac
  dsimp only
  split <;> rfl

theorem startup_targetConsistent_iff_operand :
    ∃ l, startup workingEnv ["10.0.0.1"] = .ok l ∧
      (TargetConsistent workingEnv ["10.0.0.1"] l ↔
        ¬ OverriddenOperand workingEnv ["10.0.0.1"]) :=
  ⟨_, rfl, startup_targetConsistent_iff dottedLibnet_lawful rfl⟩

/-- `-B 10.0.0.1` prints 10.0.0.1 and pings the broadcast address. -/
theorem startup_overridden :
    ∃ l, startup workingEnv ["-B", "10.0.0.1"] = .ok l ∧ l.cfg.mode = .pingip ∧
      l.target = "10.0.0.1" ∧ l.cfg.dstip = 0xffffffff ∧
      ¬ TargetConsistent workingEnv ["-B", "10.0.0.1"] l := by
  refine ⟨_, rfl, rfl, rfl, rfl, fun h => ?_⟩
  exact absurd (h.pingip rfl) (by decide +kernel)

end Arping
