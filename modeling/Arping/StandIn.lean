import Arping.Target

/-!
# `-B` and `-d` in place of the host

Without an operand, `-B` and `-d` leave the target to the block that chooses the mode. The block is
entered where no option has chosen one, so with `-t` or `-U` the target stays empty and the run ends
with the usage text (`startup_standsIn_iff`).
-/

namespace Arping

open Checks

variable {env : StartupEnv} {argv : List String} {s : Opts}

/-- The arguments of the options can be read, and `-Q` comes with `-V`. -/
structure ValidArguments (env : StartupEnv) (s : Opts) : Prop where
  srcmac : ∀ optarg, s.srcmacOpt = some optarg → (getMacAddr optarg).isSome = true
  dstmac : ∀ optarg, s.dstmacOpt = some optarg → (getMacAddr optarg).isSome = true
  srcip : ∀ optarg, s.srcipOpt = some optarg → (xresolve env.libnet optarg).isSome = true
  vlan : ¬ (s.cfg.vlanPrio ≥ 0 ∧ s.cfg.vlanTag = -1)
  group : ∀ ident, s.dropGroup = some ident → ∃ gid, mustGetGroup env.getgrnam ident = .ok gid

/-- The calls to the outside succeed; the interface is found whatever the target. -/
structure CallsSucceed (env : StartupEnv) (s : Opts) : Prop where
  libnetInit : ∀ call ifname, env.libnetInit call ifname = .ok ()
  strdup : env.strdup = true
  interface : ∀ t : Opts, t.ifname = s.ifname →
    t.dontUseArpingLookupdev = s.dontUseArpingLookupdev →
    ∃ ifname, chooseInterface env t = .ok ifname
  pcapOpenLive : ∀ device promisc, env.pcapOpenLive 0 device promisc = .ok ()
  pcapSetnonblock : env.pcapSetnonblock = .ok ()
  pcapCompile : ∀ filter, env.pcapCompile filter = .ok ()
  pcapSetfilter : env.pcapSetfilter = .ok ()
  getIpaddr4 : ∀ ifname, env.getIpaddr4 .interface ifname ≠ 0xffffffff
  getMac : ∀ ifname, (env.getMac ifname).isSome = true

/-- The run reaches the ping loop in IP mode, with the own address for `-d` and the broadcast
address otherwise. -/
def StandsIn (env : StartupEnv) (argv : List String) (s : Opts) : Prop :=
  ∃ l, startup env argv = .ok l ∧ l.cfg.mode = .pingip ∧
    l.cfg.dstip =
      if .d ∈ options env argv then env.getIpaddr4 .dup s.ifname else 0xffffffff

/-! ## The phases succeed -/

theorem demand_succeeds {α : Type} {o : Option α} (h : o.isSome = true) (e : Exit) :
    ∃ a, demand o e = .ok a := by
  obtain ⟨a, rfl⟩ := Option.isSome_iff_exists.mp h
  exact ⟨a, rfl⟩

theorem readOption_succeeds {α : Type} {opt : Option String} {read : String → Except Exit α}
    (h : ∀ optarg, opt = some optarg → ∃ a, read optarg = .ok a) (old : α) :
    ∃ a, readOption opt old read = .ok a := by
  cases opt with
  | none => exact ⟨old, rfl⟩
  | some optarg => exact h optarg rfl

/-- The variables where `-B` or `-d` stands in for the operand. -/
def standIn (env : StartupEnv) (s : Opts) : Opts :=
  { s with
    dstipGiven := true
    cfg.mode := .pingip
    cfg.dstip := if s.cfg.finddup then env.getIpaddr4 .dup s.ifname else s.cfg.dstip }

namespace CallsSucceed

theorem congr (h : CallsSucceed env s) {t : Opts} (hifname : t.ifname = s.ifname)
    (hlookup : t.dontUseArpingLookupdev = s.dontUseArpingLookupdev) : CallsSucceed env t :=
  { h with
    interface := fun u hu hu' => h.interface u (hu.trans hifname) (hu'.trans hlookup) }

theorem doLibnetInit_eq (h : CallsSucceed env s) (call : InitCall) (ifname : Option String) :
    doLibnetInit env call ifname = .ok ifname := by
  unfold doLibnetInit
  rw [h.libnetInit]

theorem readArguments_succeeds (h : CallsSucceed env s) (hvalid : ValidArguments env s)
    (hdstip : ∀ optarg, s.dstipOpt = some optarg → (xresolve env.libnet optarg).isSome = true) :
    ∃ s', readArguments env s = .ok s' := by
  have hresolve : ∀ {optarg : String} (call : InitCall) (e : Exit),
      (xresolve env.libnet optarg).isSome = true →
      ∃ a, (doLibnetInit env call s.ifname >>= fun _ =>
        demand (xresolve env.libnet optarg) e) = .ok a := by
    intro optarg call e hsome
    rw [h.doLibnetInit_eq]
    exact demand_succeeds hsome e
  obtain ⟨srcmac, hsrcmac⟩ := readOption_succeeds
    (fun optarg hopt => demand_succeeds (hvalid.srcmac optarg hopt)
      (.error ("arping: Weird MAC addr " ++ optarg ++ "\n"))) s.cfg.srcmac
  obtain ⟨dstmac, hdstmac⟩ := readOption_succeeds
    (fun optarg hopt => demand_succeeds (hvalid.dstmac optarg hopt)
      (.error ("Illegal MAC addr " ++ optarg ++ "\n"))) s.cfg.dstmac
  obtain ⟨srcip, hsrcip⟩ := readOption_succeeds
    (fun optarg hopt => hresolve .srcip (.error (cannotResolveMessage optarg "-b" "-S"))
      (hvalid.srcip optarg hopt)) s.cfg.srcip
  obtain ⟨dstip, hdst⟩ := readOption_succeeds
    (fun optarg hopt => hresolve .dstip (.error (cannotResolveMessage optarg "-B" "-T"))
      (hdstip optarg hopt)) s.cfg.dstip
  apply bind_succeeds hsrcmac
  apply bind_succeeds hdstmac
  apply bind_succeeds hsrcip
  apply bind_succeeds hdst
  exact bind_succeeds (reject_of_not hvalid.vlan _) ⟨_, rfl⟩

theorem defaultToOwn_none (h : CallsSucceed env s)
    (hgiven : s.cfg.finddup = true ∨ s.dstipGiven = true) :
    ∃ s', defaultToOwn env s none = .ok s' ∧ s'.dstipGiven = true ∧ s'.cfg.mode = s.cfg.mode ∧
      { s' with cfg.mode := .pingip } = standIn env s := by
  unfold defaultToOwn standIn
  by_cases hdup : s.cfg.finddup = true
  · rw [if_pos ⟨hdup, rfl⟩, h.doLibnetInit_eq]
    exact ⟨_, rfl, rfl, rfl, by rw [if_pos hdup]⟩
  · have hdstip := hgiven.resolve_left hdup
    rw [if_neg fun hboth => hdup hboth.1]
    exact ⟨s, rfl, hdstip, rfl, by rw [if_neg hdup, ← hdstip]⟩

/-- Where no option chose the mode, `-B` or `-d` gives the target. -/
theorem chooseTarget_none (h : CallsSucceed env s) (hmode : s.cfg.mode = .none)
    (hgiven : s.cfg.finddup = true ∨ s.dstipGiven = true) :
    ∃ parm, chooseTarget env s none = .ok (standIn env s, parm) := by
  obtain ⟨s', hown, hgiven', hmode', hs'⟩ := h.defaultToOwn_none hgiven
  have hifname : s'.ifname = s.ifname := (congrArg Opts.ifname hs' :)
  have hchosen : chooseMode env s' none =
      .ok (standIn env s, some (env.libnet.addr2name4 s'.cfg.dstip)) := by
    unfold chooseMode
    rw [if_pos (hmode'.trans hmode), ← hs']
    simp only
    rw [if_pos hgiven', hifname, h.doLibnetInit_eq, h.strdup]
    rfl
  have hmatched : ∀ parm, matchTarget env (standIn env s) parm = .ok (standIn env s, parm) := by
    intro parm
    unfold matchTarget
    exact if_neg fun hboth => by cases hboth.2
  have hip : (standIn env s).cfg.mode ≠ .none := fun hnone => by cases hnone
  refine ⟨env.libnet.addr2name4 s'.cfg.dstip, bind_of_ok hown ?_⟩
  apply bind_of_ok hchosen
  apply bind_of_ok rfl
  apply bind_of_ok (reject_of_not hip _)
  apply bind_of_ok (h.doLibnetInit_eq .target s'.ifname)
  apply bind_of_ok (hmatched _)
  exact bind_of_ok (parseTarget_of_pingip rfl none _) rfl

theorem openCapture_eq (h : CallsSucceed env s) (hvalid : ValidArguments env s) {t : Opts}
    (hgroup : t.dropGroup = s.dropGroup) (ifname : String) :
    openCapture env t ifname = .ok (installedFilter t.cfg) := by
  have hopen : doPcapOpenLive env ifname t.promisc = .ok () := by
    unfold doPcapOpenLive
    rw [h.pcapOpenLive]
    rfl
  have hdrop : dropPrivileges env t.dropGroup = .ok () := by
    have hidents : ∀ ident, t.dropGroup = some ident →
        ∃ u, (mustGetGroup env.getgrnam ident >>= fun _ => pure ()) = Except.ok u := by
      intro ident hident
      obtain ⟨gid, hgid⟩ := hvalid.group ident (hgroup.symm.trans hident)
      exact ⟨(), bind_of_ok hgid rfl⟩
    obtain ⟨u, hu⟩ := readOption_succeeds hidents ()
    exact hu
  refine bind_of_ok (a := ()) ?_ ?_
  · rw [hopen]
    rfl
  apply bind_of_ok hdrop
  refine bind_of_ok (a := ()) ?_ ?_
  · rw [h.pcapSetnonblock]
    rfl
  refine bind_of_ok (a := ()) ?_ ?_
  · rw [h.pcapCompile]
    rfl
  refine bind_of_ok (a := ()) ?_ rfl
  rw [h.pcapSetfilter]
  split <;> rfl

theorem launch_succeeds (h : CallsSucceed env s) (hvalid : ValidArguments env s) {t : Opts}
    (hifname : t.ifname = s.ifname)
    (hlookup : t.dontUseArpingLookupdev = s.dontUseArpingLookupdev)
    (hgroup : t.dropGroup = s.dropGroup) (target : String) :
    ∃ l, launch env t target = .ok l := by
  obtain ⟨ifname, hchosen⟩ := h.interface t hifname hlookup
  have hsrcip : ∃ srcip, ownAddress env t ifname = .ok srcip := by
    unfold ownAddress
    split
    · exact ⟨_, rfl⟩
    · exact ⟨_, bind_of_ok (reject_of_not (h.getIpaddr4 _) _) rfl⟩
  have hsrcmac : ∃ srcmac, ownMac env t ifname = .ok srcmac := by
    unfold ownMac
    split
    · exact ⟨_, rfl⟩
    · exact demand_succeeds (h.getMac ifname) _
  obtain ⟨srcip, hsrcip⟩ := hsrcip
  obtain ⟨srcmac, hsrcmac⟩ := hsrcmac
  apply bind_succeeds hchosen
  apply bind_succeeds (h.doLibnetInit_eq .interface (some ifname))
  apply bind_succeeds (h.openCapture_eq hvalid hgroup ifname)
  apply bind_succeeds hsrcip
  exact bind_succeeds hsrcmac ⟨_, rfl⟩

end CallsSucceed

/-! ## `-B` and `-d` -/

/-- Without `-T` there is no name of a destination that could fail to resolve. -/
theorem dstipOpt_resolves {os : List Opt} (hparsed : Opts.Parsed os s) (hmac : ¬ ForMac os)
    (libnet : Libnet) (optarg : String) (hopt : s.dstipOpt = some optarg) :
    (xresolve libnet optarg).isSome = true := by
  rcases hparsed.dstipOpt_of_not_forMac hmac with hnone | hbroadcast
  · rw [hopt] at hnone
    cases hnone
  · rw [hopt] at hbroadcast
    obtain rfl := Option.some.inj hbroadcast
    rfl

/-- A run without operand that gets to the ping loop had no mode from its options. -/
theorem not_forIp_of_startup {l : Launch} (hoperands : operands env argv = [])
    (h : startup env argv = .ok l) : ¬ ForIp (options env argv) := by
  obtain ⟨s₀, s₁, ⟨s₂, parm⟩, hparse, -, hchecks, hread, hchosen, -⟩ := startup_phases h
  have hparsed := parseOptions_parsed hparse
  rw [hoperands] at hchosen
  cases chooseTarget_cases hchosen with
  | stoodIn hmode hip =>
    rw [(readArguments_read hread).mode] at hmode
    exact ((hparsed.mode_iff ((conflictChecks_eq_ok_iff hparsed).mp hchecks)).2.2.mp hmode).2

/-- **`-B` and `-d` instead of the host.** Without `-T` and without operand, where the arguments are
valid and the calls succeed, `-B` and `-d` stand in for the host if and only if neither `-t` nor
`-U` is given. -/
theorem startup_standsIn_iff (hhelp : "--help" ∉ argv)
    (hparse : parseOptions env.host (options env argv) = .ok s)
    (hoperands : operands env argv = [])
    (hgiven : .B ∈ options env argv ∨ .d ∈ options env argv)
    (hmac : ¬ ForMac (options env argv)) (hvalid : ValidArguments env s)
    (hcalls : CallsSucceed env s) :
    StandsIn env argv s ↔ ¬ ForIp (options env argv) := by
  constructor
  · rintro ⟨l, h, -⟩
    exact not_forIp_of_startup hoperands h
  · intro hip
    have hparsed := parseOptions_parsed hparse
    have hfree : ¬ Conflicting (options env argv) := fun hconf => hmac hconf.1
    obtain ⟨s₁, hread⟩ := hcalls.readArguments_succeeds hvalid
      (dstipOpt_resolves hparsed hmac env.libnet)
    have hargs := readArguments_read hread
    have hdup : s₁.cfg.finddup = true ↔ .d ∈ options env argv := by
      rw [hargs.finddup, hparsed.finddup, any_eq_iff_mem]
    have hB : s₁.dstipGiven = true ↔ .B ∈ options env argv := by
      rw [hargs.dstipGiven, hparsed.dstipGiven, any_eq_iff_mem]
    have hmode : s₁.cfg.mode = .none :=
      hargs.mode.trans ((hparsed.mode_iff hfree).2.2.mpr ⟨hmac, hip⟩)
    have hifname : s₁.ifname = s.ifname := by rw [hargs.others]
    have hlookup : s₁.dontUseArpingLookupdev = s.dontUseArpingLookupdev := by rw [hargs.others]
    have hgroup : s₁.dropGroup = s.dropGroup := by rw [hargs.others]
    obtain ⟨parm, hchosen⟩ := (hcalls.congr hifname hlookup).chooseTarget_none hmode
      (hgiven.symm.imp hdup.mpr hB.mpr)
    obtain ⟨l, hlaunch⟩ := hcalls.launch_succeeds (t := standIn env s₁) hvalid hifname hlookup
      hgroup parm
    obtain ⟨-, hlmode, hldstip, -⟩ := launch_frame hlaunch
    refine ⟨l, ?_, hlmode, ?_⟩
    · apply bind_of_ok (reject_of_not hhelp _)
      apply bind_of_ok hparse
      apply bind_of_ok (reject_of_not (by rw [hoperands]; decide) _)
      apply bind_of_ok (conflictChecks_of_not_conflicting hparsed hfree)
      apply bind_of_ok hread
      rw [hoperands]
      exact bind_of_ok hchosen hlaunch
    · rw [hldstip, ← hifname]
      have hbroadcast := dstip_of_not_forMac hparsed hargs hmac
      by_cases hd : .d ∈ options env argv
      · rw [if_pos hd]
        exact if_pos (hdup.mpr hd)
      · rw [if_neg hd, ← hbroadcast]
        exact if_neg (mt hdup.mp hd)

theorem workingEnv_callsSucceed (s : Opts) : CallsSucceed workingEnv s where
  libnetInit _ _ := rfl
  strdup := rfl
  interface t _ _ := by
    unfold chooseInterface
    cases t.ifname with
    | some ifname => exact ⟨ifname, rfl⟩
    | none => cases t.dontUseArpingLookupdev <;> exact ⟨"eth0", rfl⟩
  pcapOpenLive _ _ := rfl
  pcapSetnonblock := rfl
  pcapCompile _ := rfl
  pcapSetfilter := rfl
  getIpaddr4 _ := (by decide : (0x0900000a : UInt32) ≠ 0xffffffff)
  getMac ifname := by rw [workingEnv_getMac]; rfl

theorem startup_standsIn_iff_broadcast :
    ∃ s, parseOptions .little (options workingEnv ["-B"]) = .ok s ∧
      (StandsIn workingEnv ["-B"] s ↔ ¬ ForIp (options workingEnv ["-B"])) := by
  have hoptions : options workingEnv ["-B"] = [.B] := by decide
  refine ⟨_, rfl, startup_standsIn_iff (by decide) rfl rfl ?_ ?_ ?_ (workingEnv_callsSucceed _)⟩
  · exact Or.inl (by rw [hoptions]; exact List.mem_singleton_self _)
  · rw [hoptions]
    rintro ⟨optarg, hmem⟩
    cases List.mem_singleton.mp hmem
  · refine ⟨?_, ?_, ?_, by decide, ?_⟩
    all_goals
      intro optarg hopt
      cases hopt

/-- `-B -U` passes the conflict checks and ends with the usage text. -/
theorem startup_unsolicitedBroadcast :
    let argv := ["-B", "-U"]
    ∃ s, parseOptions .little (options workingEnv argv) = .ok s ∧ conflictChecks s = .ok () ∧
      options workingEnv argv = [.B, .U] ∧ operands workingEnv argv = [] ∧
      startup workingEnv argv = .error (.usage 1) ∧ ¬ StandsIn workingEnv argv s := by
  refine ⟨_, rfl, rfl, by decide, rfl, rfl, ?_⟩
  rintro ⟨l, h, -⟩
  cases h

end Arping
