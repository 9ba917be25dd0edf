import Arping.Frames
import Arping.RequestSequence
import Arping.Target

/-!
# Sane parameters

Where the arguments are processed, `arping_main` says that the parameters are considered sane from
there on. `Sane` says what they are, for every argument vector that leads to the ping loop
(`startup_sane`): each phase keeps its part of it. So every request of every run fits the headers
that libnet builds from it (`startup_requests`).
-/

namespace Arping

open Checks Opts

/-- What the ping loop may rely on. -/
structure Sane (cfg : Config) : Prop where
  mode : cfg.mode ≠ .none
  vlanTag : cfg.vlanTag = -1 ∨ (0 ≤ cfg.vlanTag ∧ cfg.vlanTag ≤ 4095)
  vlanPrio : 0 ≤ cfg.vlanPrio ∧ cfg.vlanPrio ≤ 7
  prioTagged : cfg.vlanPrio ≠ 0 → 0 ≤ cfg.vlanTag
  addrMustBeSame : cfg.addrMustBeSame = false
  unsolicited : cfg.unsolicited = true → cfg.mode = .pingip
  finddup : cfg.finddup = true → cfg.maxcount ≠ 0xffffffff

/-! ## The option loop -/

/-- What holds behind each pass of the option loop. -/
structure OptionsRead (s : Opts) : Prop where
  vlanTag : s.cfg.vlanTag = -1 ∨ (0 ≤ s.cfg.vlanTag ∧ s.cfg.vlanTag ≤ 4095)
  vlanPrio : s.cfg.vlanPrio = -1 ∨ (0 ≤ s.cfg.vlanPrio ∧ s.cfg.vlanPrio ≤ 7)
  addrMustBeSame : s.cfg.addrMustBeSame = false
  unsolicited : s.cfg.unsolicited = true → s.optU = true
  mode : s.optU = true → s.cfg.mode ≠ .none

theorem optionsRead_init (host : Endian) : OptionsRead (.init host) where
  vlanTag := Or.inl rfl
  vlanPrio := Or.inl rfl
  addrMustBeSame := rfl
  unsolicited := nofun
  mode := nofun

theorem in_range_of_not_reject {x max : Int16} {e : Exit} {r : Unit}
    (h : reject (x < 0 ∨ x > max) e = .ok r) : 0 ≤ x ∧ x ≤ max := by
  have hnot := reject_eq_ok_iff.mp h
  exact ⟨Int16.not_lt.mp fun hx => hnot (Or.inl hx), Int16.not_lt.mp fun hx => hnot (Or.inr hx)⟩

theorem OptionsRead.step {s s' : Opts} {o : Opt} (h : OptionsRead s) (hstep : s.step o = .ok s') :
    OptionsRead s' := by
  cases o
  case h | other => cases hstep
  case i optarg =>
    obtain ⟨-, -, hstep⟩ := bind_eq_ok_iff.mp hstep
    cases hstep
    exact ⟨h.vlanTag, h.vlanPrio, h.addrMustBeSame, h.unsolicited, h.mode⟩
  case Q optarg =>
    obtain ⟨_, hrange, hstep⟩ := bind_eq_ok_iff.mp hstep
    cases hstep
    exact ⟨h.vlanTag, Or.inr (in_range_of_not_reject hrange), h.addrMustBeSame, h.unsolicited,
      h.mode⟩
  case V optarg =>
    obtain ⟨_, hrange, hstep⟩ := bind_eq_ok_iff.mp hstep
    cases hstep
    exact ⟨Or.inr (in_range_of_not_reject hrange), h.vlanPrio, h.addrMustBeSame, h.unsolicited,
      h.mode⟩
  case t optarg | T optarg =>
    cases hstep
    exact ⟨h.vlanTag, h.vlanPrio, h.addrMustBeSame, h.unsolicited, fun _ => by simp⟩
  case U =>
    cases hstep
    exact ⟨h.vlanTag, h.vlanPrio, h.addrMustBeSame, fun _ => rfl, fun _ => by simp⟩
  all_goals
    cases hstep
    exact ⟨h.vlanTag, h.vlanPrio, h.addrMustBeSame, h.unsolicited, h.mode⟩

theorem parseOptions_read {host : Endian} {os : List Opt} {s : Opts}
    (h : parseOptions host os = .ok s) : OptionsRead s :=
  foldlM_invariant h (fun _ _ _ hs hstep => hs.step hstep) (optionsRead_init host)

/-- `-U` goes with `-T` only if it comes to nothing. -/
theorem pingip_of_unsolicited {s : Opts} (h : OptionsRead s) (hfree : conflictChecks s = .ok ())
    (hunsolicited : s.cfg.unsolicited = true) : s.cfg.mode = .pingip := by
  have hU := h.unsolicited hunsolicited
  obtain ⟨_, hconf, -⟩ := bind_eq_ok_iff.mp hfree
  have hnot := reject_eq_ok_iff.mp hconf
  cases hmode : s.cfg.mode with
  | none => exact absurd hmode (h.mode hU)
  | pingmac => exact absurd (Or.inr ⟨hmode, Or.inr (Or.inr hU)⟩) hnot
  | pingip => rfl

/-! ## The arguments -/

/-- `Sane`, up to the choice of the mode. -/
structure ArgumentsSane (cfg : Config) : Prop where
  vlanTag : cfg.vlanTag = -1 ∨ (0 ≤ cfg.vlanTag ∧ cfg.vlanTag ≤ 4095)
  vlanPrio : 0 ≤ cfg.vlanPrio ∧ cfg.vlanPrio ≤ 7
  prioTagged : cfg.vlanPrio ≠ 0 → 0 ≤ cfg.vlanTag
  addrMustBeSame : cfg.addrMustBeSame = false
  unsolicited : cfg.unsolicited = true → cfg.mode = .pingip
  finddup : cfg.finddup = true → cfg.maxcount ≠ 0xffffffff

theorem readArguments_sane {env : StartupEnv} {s s' : Opts} (h : OptionsRead s)
    (hfree : conflictChecks s = .ok ()) (hread : readArguments env s = .ok s') :
    ArgumentsSane s'.cfg := by
  have hunsolicited := pingip_of_unsolicited h hfree
  obtain ⟨srcmac, -, hread⟩ := bind_eq_ok_iff.mp hread
  obtain ⟨dstmac, -, hread⟩ := bind_eq_ok_iff.mp hread
  obtain ⟨srcip, -, hread⟩ := bind_eq_ok_iff.mp hread
  obtain ⟨dstip, -, hread⟩ := bind_eq_ok_iff.mp hread
  obtain ⟨_, hprio, hread⟩ := bind_eq_ok_iff.mp hread
  obtain rfl := pure_eq_ok_iff.mp hread
  have hnot := reject_eq_ok_iff.mp hprio
  refine ⟨h.vlanTag, ?_, ?_, h.addrMustBeSame, hunsolicited, ?_⟩
  · show 0 ≤ (if s.cfg.vlanPrio = -1 then 0 else s.cfg.vlanPrio) ∧
      (if s.cfg.vlanPrio = -1 then 0 else s.cfg.vlanPrio) ≤ 7
    split
    · decide
    · rename_i hgiven
      exact h.vlanPrio.resolve_left hgiven
  · show (if s.cfg.vlanPrio = -1 then 0 else s.cfg.vlanPrio) ≠ 0 → 0 ≤ s.cfg.vlanTag
    split
    · exact fun hne => absurd rfl hne
    · rename_i hgiven
      intro _
      have hge := (h.vlanPrio.resolve_left hgiven).1
      exact (h.vlanTag.resolve_left fun htag => hnot ⟨hge, htag⟩).1
  · show s.cfg.finddup = true →
      (if s.cfg.finddup ∧ s.cfg.maxcount = 0xffffffff then 3 else s.cfg.maxcount) ≠ 0xffffffff
    intro hfind
    split
    · decide
    · rename_i hmax
      exact fun hcount => hmax ⟨hfind, hcount⟩

/-! ## The target -/

/-- From `s` to `s'` only the target and the mode are chosen, and the mode only where it was not. -/
structure Targets (s s' : Opts) : Prop where
  locals : s' = { s with cfg := s'.cfg, dstipGiven := s'.dstipGiven }
  others : s'.cfg = { s.cfg with
    mode := s'.cfg.mode, dstip := s'.cfg.dstip, dstmac := s'.cfg.dstmac }
  mode : s.cfg.mode ≠ .none → s'.cfg.mode = s.cfg.mode

namespace Targets

theorem refl (s : Opts) : Targets s s := ⟨rfl, rfl, fun _ => rfl⟩

theorem trans {s s' s'' : Opts} (h : Targets s s') (h' : Targets s' s'') : Targets s s'' where
  locals := by
    rw [h'.locals, h.locals]
  others := by
    rw [h'.others, h.others]
  mode hmode := by
    have hmode' := h.mode hmode
    rw [h'.mode (hmode'.symm ▸ hmode), hmode']

end Targets

section

variable {env : StartupEnv} {s s' : Opts} {operand : Option String} {parm : String}

theorem defaultToOwn_targets (h : defaultToOwn env s operand = .ok s') : Targets s s' := by
  unfold defaultToOwn at h
  split at h
  · obtain ⟨device, -, h⟩ := bind_eq_ok_iff.mp h
    obtain rfl := pure_eq_ok_iff.mp h
    exact ⟨rfl, rfl, fun _ => rfl⟩
  · cases h
    exact .refl s

theorem chooseMode_targets {chosen : Opts × Option String}
    (h : chooseMode env s operand = .ok chosen) : Targets s chosen.1 := by
  unfold chooseMode at h
  split at h
  · rename_i hmode
    cases operand with
    | some parm =>
      cases h
      exact ⟨rfl, rfl, fun hne => absurd hmode hne⟩
    | none =>
      simp only at h
      split at h
      · obtain ⟨_, -, h⟩ := bind_eq_ok_iff.mp h
        obtain ⟨_, -, h⟩ := bind_eq_ok_iff.mp h
        obtain rfl := pure_eq_ok_iff.mp h
        exact ⟨rfl, rfl, fun hne => absurd hmode hne⟩
      · cases h
        exact .refl s
  · cases h
    exact .refl s

theorem matchTarget_targets {matched : Opts × String} (h : matchTarget env s parm = .ok matched) :
    Targets s matched.1 := by
  unfold matchTarget at h
  split at h
  · obtain ⟨_, -, h⟩ := bind_eq_ok_iff.mp h
    obtain ⟨dstip, -, h⟩ := bind_eq_ok_iff.mp h
    obtain rfl := pure_eq_ok_iff.mp h
    exact ⟨rfl, rfl, fun _ => rfl⟩
  · cases h
    exact .refl s

theorem parseTarget_targets (h : parseTarget s operand parm = .ok s') : Targets s s' := by
  unfold parseTarget at h
  split at h
  · obtain ⟨arg, -, h⟩ := bind_eq_ok_iff.mp h
    obtain ⟨_, -, h⟩ := bind_eq_ok_iff.mp h
    obtain ⟨dstmac, -, h⟩ := bind_eq_ok_iff.mp h
    obtain rfl := pure_eq_ok_iff.mp h
    exact ⟨rfl, rfl, fun _ => rfl⟩
  · cases h
    exact .refl s

/-- The phases of a choice that ends well. -/
theorem chooseTarget_phases {chosen : Opts × String}
    (h : chooseTarget env s operand = .ok chosen) :
    ∃ s₁ moded parm matched, defaultToOwn env s operand = .ok s₁ ∧
      chooseMode env s₁ operand = .ok moded ∧ moded.2 = some parm ∧ moded.1.cfg.mode ≠ .none ∧
      matchTarget env moded.1 parm = .ok matched ∧
      parseTarget matched.1 operand matched.2 = .ok chosen.1 := by
  obtain ⟨s₁, hown, h⟩ := bind_eq_ok_iff.mp h
  obtain ⟨moded, hmoded, h⟩ := bind_eq_ok_iff.mp h
  obtain ⟨parm, hparm, h⟩ := bind_eq_ok_iff.mp h
  obtain ⟨_, hmode, h⟩ := bind_eq_ok_iff.mp h
  obtain ⟨_, -, h⟩ := bind_eq_ok_iff.mp h
  obtain ⟨matched, hmatched, h⟩ := bind_eq_ok_iff.mp h
  obtain ⟨s₂, hparse, h⟩ := bind_eq_ok_iff.mp h
  obtain rfl := pure_eq_ok_iff.mp h
  exact ⟨s₁, moded, parm, matched, hown, hmoded, demand_eq_ok_iff.mp hparm,
    reject_eq_ok_iff.mp hmode, hmatched, hparse⟩

theorem chooseTarget_targets {chosen : Opts × String}
    (h : chooseTarget env s operand = .ok chosen) :
    Targets s chosen.1 ∧ chosen.1.cfg.mode ≠ .none := by
  obtain ⟨s₁, moded, parm, matched, hown, hmoded, -, hmode, hmatched, hparse⟩ :=
    chooseTarget_phases h
  have hrest := (matchTarget_targets hmatched).trans (parseTarget_targets hparse)
  refine ⟨((defaultToOwn_targets hown).trans (chooseMode_targets hmoded)).trans hrest, ?_⟩
  rw [hrest.mode hmode]
  exact hmode

end

/-! ## The ping loop -/

theorem sane_of_startup {env : StartupEnv} {argv : List String} {l : Launch}
    (h : startup env argv = .ok l) : Sane l.cfg := by
  obtain ⟨s₀, s₁, chosen, hparse, -, hfree, hread, hchosen, hlaunch⟩ := startup_phases h
  obtain ⟨ifname, srcip, srcmac, rfl⟩ := launch_eq hlaunch
  have hs := readArguments_sane (parseOptions_read hparse) hfree hread
  obtain ⟨htargets, hmode⟩ := chooseTarget_targets hchosen
  have hothers := htargets.others
  constructor
  · exact hmode
  · rw [hothers]
    exact hs.vlanTag
  · rw [hothers]
    exact hs.vlanPrio
  · rw [hothers]
    exact hs.prioTagged
  · rw [hothers]
    exact hs.addrMustBeSame
  · intro hunsolicited
    have hip : s₁.cfg.mode = .pingip := by
      rw [hothers] at hunsolicited
      exact hs.unsolicited hunsolicited
    exact (htargets.mode (by rw [hip]; decide)).trans hip
  · rw [hothers]
    exact hs.finddup

theorem length_toString_vlanTag {x : Int16} (h : 0 ≤ x) (h' : x ≤ 4095) :
    (toString x).length ≤ 4 := by
  rw [Int16.le_iff_toInt_le] at h h'
  obtain ⟨n, hn⟩ := Int.eq_ofNat_of_zero_le h
  have hlt : n < 10 ^ 4 := by
    rw [hn, show (4095 : Int16).toInt = 4095 from rfl] at h'
    omega
  have htext : toString x = Nat.repr n := by
    show toString x.toInt = Nat.repr n
    rw [hn]
    rfl
  rw [htext]
  exact (Nat.length_repr_le_iff (by decide)).mpr hlt

theorem Sane.length_bpfFilter {cfg : Config} (h : Sane cfg) : (bpfFilter cfg).length < 64 := by
  have htext : 0 ≤ cfg.vlanTag → (toString cfg.vlanTag).length ≤ 4 := by
    intro htagged
    rcases h.vlanTag with hnone | ⟨-, hmax⟩
    · rw [hnone] at htagged
      exact absurd htagged (by decide)
    · exact length_toString_vlanTag htagged hmax
  have hvlan : "vlan ".length = 5 := rfl
  have hand : " and ".length = 5 := rfl
  have harp : "arp".length = 3 := rfl
  have hicmp : "icmp".length = 4 := rfl
  unfold bpfFilter
  cases cfg.mode
  all_goals
    dsimp only
    split
    · rename_i htagged
      have := htext htagged
      simp only [String.length_append]
      omega
    · omega

/-- **Sane parameters.** Whatever the environment answers, an argument vector that leads to the ping
loop leads to it with a mode, a tag and a priority in range, a priority only with a tag, `-U` only
for an IP address, and a bounded count with `-d`. The filter is the one that these describe, and its
text fits `bpf_filter`, which has 64 bytes. -/
theorem startup_sane {env : StartupEnv} {argv : List String} {l : Launch}
    (h : startup env argv = .ok l) :
    Sane l.cfg ∧ l.filter = installedFilter l.cfg ∧ (bpfFilter l.cfg).length < 64 :=
  ⟨sane_of_startup h, startup_filter h, (sane_of_startup h).length_bpfFilter⟩

/-- Pinging 10.0.0.1 on VLAN 5. -/
theorem startup_sane_tagged :
    ∃ l, startup workingEnv ["-V", "5", "-Q", "3", "10.0.0.1"] = .ok l ∧
      Sane l.cfg ∧ l.filter = installedFilter l.cfg ∧ (bpfFilter l.cfg).length < 64 := by
  have h : startup workingEnv ["-V", "5", "-Q", "3", "10.0.0.1"] = .ok _ := rfl
  exact ⟨_, h, startup_sane h⟩

/-! ## The requests -/

/-- There is a value of `vlan_priority_c_vid` with the fields that the tag is built from. -/
def EtherArgs.Fits (e : EtherArgs) : Prop :=
  ∀ t, e.tag = some t → ∃ tci : ℕ, tci < 2 ^ 16 ∧ (tci / 2 ^ 13 : ℤ) = t.priority.toInt ∧
    tci / 2 ^ 12 % 2 = t.cfi ∧ (tci % 2 ^ 12 : ℤ) = t.vlanId.toInt

/-- The layers of a request fit the headers and each other. -/
def Request.Fits : Request → Prop
  | .arp a e => EthIp a ∧ e.type = ethertypeArp ∧ e.src = a.sha ∧ e.Fits
  | .icmp i ip e => i.type = icmpEcho ∧ ip.id = i.id ∧ e.type = ethertypeIp ∧ e.Fits

theorem Sane.etherArgs_fits {cfg : Config} (h : Sane cfg) (type : UInt16) :
    (etherArgs cfg type).Fits := by
  intro t ht
  unfold etherArgs at ht
  split at ht
  · rename_i htagged
    obtain rfl := Option.some.inj ht
    obtain ⟨hprio, hprio'⟩ := h.vlanPrio
    have htag' : cfg.vlanTag ≤ 4095 := by
      rcases h.vlanTag with hnone | hrange
      · rw [hnone] at htagged
        exact absurd htagged (by decide)
      · exact hrange.2
    rw [Int16.le_iff_toInt_le] at htagged htag' hprio hprio'
    rw [show (0 : Int16).toInt = 0 from rfl] at htagged hprio
    rw [show (4095 : Int16).toInt = 4095 from rfl] at htag'
    rw [show (7 : Int16).toInt = 7 from rfl] at hprio'
    refine ⟨2 ^ 13 * cfg.vlanPrio.toInt.toNat + cfg.vlanTag.toInt.toNat, ?_, ?_, ?_, ?_⟩
    · omega
    · show _ = cfg.vlanPrio.toInt
      omega
    · show _ = 0
      omega
    · show _ = cfg.vlanTag.toInt
      omega
  · cases ht

theorem Sane.requestOf_fits {cfg : Config} (h : Sane cfg) (id : UInt16) (c : UInt32) :
    (requestOf cfg id c).Fits := by
  unfold requestOf
  split
  · have hethIp : EthIp _ := ethIp_arpRequest (rfl : arpRequest cfg = _)
    exact ⟨hethIp, rfl, rfl, h.etherArgs_fits ethertypeArp⟩
  · exact ⟨rfl, rfl, rfl, h.etherArgs_fits ethertypeIp⟩

/-- **Every request fits.** Whatever the command line and the environment, each request that a run
hands to libnet, in every reachable situation, has an Ethernet header that fits its payload and,
with `-V`, a tag whose priority and number fit their bits. -/
theorem startup_requests {env : StartupEnv} {argv : List String} {l : Launch}
    (h : startup env argv = .ok l) {s : Point × State} (hreach : Reachable l.cfg s) :
    ∀ r ∈ s.2.sent, r.Fits := by
  obtain ⟨ids, hsent, -⟩ := (reachable_inOrder hreach).sent
  intro r hr
  rw [hsent] at hr
  obtain ⟨x, -, rfl⟩ := List.mem_map.mp hr
  exact (sane_of_startup h).requestOf_fits x.1 _

theorem startup_requests_tagged :
    ∃ l, startup workingEnv ["-V", "5", "-Q", "3", "10.0.0.1"] = .ok l ∧
      ∀ r ∈ (pingLoop l.cfg (runOf [[]]) State.init).state.2.sent, r.Fits := by
  obtain ⟨l, h⟩ : ∃ l, startup workingEnv ["-V", "5", "-Q", "3", "10.0.0.1"] = .ok l := ⟨_, rfl⟩
  refine ⟨l, h, ?_⟩
  obtain ⟨pt, hreach⟩ := pingLoop_reachable l.cfg (runOf [[]])
  exact startup_requests h hreach

end Arping
