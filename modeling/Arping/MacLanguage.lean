import Arping.MacNotation
import Arping.Target

/-!
# What counts as a MAC address

`get_mac_addr` decodes more than MAC addresses. `getMacAddr_acceptsOnlyAddresses_iff` says for which
strings it is exact: for the addresses, and where none of its formats matches.

`is_mac_addr` has its own, narrower idea of a MAC address, so that IP addresses and host names are
not taken for one: `getMacAddr "192.168.100.7"` succeeds. `isMacAddr_of_getMacAddr` says in which
notations it accepts the decoded strings, and what `arping_main` does with each kind as a target.
-/

namespace Arping

open CNumber Checks

/-! ## The strings that are MAC addresses -/

/-- The string is a MAC address in one of the notations, and this is the address. -/
def Denotes (s : String) (m : Mac) : Prop :=
  JoinedNotation ':' s.toList m ∨ JoinedNotation '-' s.toList m ∨ CiscoNotation s.toList m

/-- Whatever `get_mac_addr` makes of the string is the address it denotes, and `out` is left alone
when it denotes none. -/
def AcceptsOnlyAddresses (s : String) : Prop :=
  (∀ m, getMacAddr s = some m → Denotes s m) ∧ ((∀ m, ¬ Denotes s m) → getMacAddr s = none)

theorem getMacAddr_of_denotes {s : String} {m : Mac} (h : Denotes s m) :
    getMacAddr s = some m := by
  obtain h | h | h := h
  · exact getMacAddr_of_joinedNotation (Or.inl rfl) h
  · exact getMacAddr_of_joinedNotation (Or.inr rfl) h
  · exact getMacAddr_of_ciscoNotation h

/-- `get_mac_addr` accepts only MAC addresses among the strings that are one and the strings that no
format matches. -/
theorem getMacAddr_acceptsOnlyAddresses_iff (s : String) :
    AcceptsOnlyAddresses s ↔ (∃ m, Denotes s m) ∨ ¬ ∃ ns, Loose s.toList ns := by
  rw [← getMacAddr_eq_none_iff]
  constructor
  · intro h
    cases hget : getMacAddr s with
    | none => exact Or.inr rfl
    | some m => exact Or.inl ⟨m, h.1 m hget⟩
  · rintro (⟨m, hm⟩ | hnone)
    · refine ⟨fun m' hm' => ?_, fun hnot => absurd hm (hnot m)⟩
      rw [getMacAddr_of_denotes hm, Option.some.injEq] at hm'
      rwa [← hm']
    · exact ⟨fun m hm => absurd (hnone.symm.trans hm) (by simp), fun _ => hnone⟩

/-- A joined notation has its separator, and one in cisco-style has fourteen characters. -/
theorem mem_of_joinedNotation {sep : Char} {s : List Char} {m : Mac}
    (h : JoinedNotation sep s m) : sep ∈ s := by
  obtain ⟨fields, rfl, hspells⟩ := h
  have hlen := hspells.length_eq
  rw [Vector.length_toList] at hlen
  obtain ⟨a, b, c, d, e, f, rfl⟩ := exists_of_length_six hlen
  simp

theorem length_of_ciscoNotation {s : List Char} {m : Mac} (h : CiscoNotation s m) :
    s.length = 14 := by
  obtain ⟨a, b, c, d, e, f, rfl, hlen, -⟩ := h
  simp only [List.forall_mem_cons] at hlen
  obtain ⟨ha, hb, hc, hd, he, hf, -⟩ := hlen
  simp [ha, hb, hc, hd, he, hf]

/-- An IPv4 address is read as 19:02:16:08:10:00. -/
theorem not_acceptsOnlyAddresses_ipv4 : ¬ AcceptsOnlyAddresses "192.168.100.7" := by
  intro h
  have hget : getMacAddr "192.168.100.7" = some (hexOctets "190216081000".toList) := by decide
  obtain h | h | h := h.1 _ hget
  · exact absurd (mem_of_joinedNotation h) (by decide)
  · exact absurd (mem_of_joinedNotation h) (by decide)
  · exact absurd (length_of_ciscoNotation h) (by decide)

/-! ## What becomes of the target -/

section

variable (env : StartupEnv) (s : Opts) (p : String)

/-- The operand is pinged as the MAC address `m`; in IP mode it is refused, or printed with the
destination address that is given. It is never resolved. -/
def TreatedAsMac (m : Mac) : Prop :=
  (s.cfg.mode ≠ .pingip → chooseTarget env s (some p) = do
    let _ ← doLibnetInit env .target s.ifname
    return ({ s with cfg.mode := .pingmac, cfg.dstmac := m }, p)) ∧
  (s.cfg.mode = .pingip → s.dstipGiven = false → chooseTarget env s (some p) = do
    let _ ← doLibnetInit env .target s.ifname
    .error (.error
      "arping: Options given only apply to IP ping, but MAC address given as argument\n")) ∧
  (s.cfg.mode = .pingip → s.dstipGiven = true → chooseTarget env s (some p) = do
    let _ ← doLibnetInit env .target s.ifname
    return (s, p))

/-- The operand is the name of a host, which is resolved, or printed with the destination address
that is given. In MAC mode it is refused. -/
def TreatedAsHost : Prop :=
  (s.cfg.mode ≠ .pingmac → s.dstipGiven = false → chooseTarget env s (some p) = do
    let _ ← doLibnetInit env .target s.ifname
    let dstip ← demand (xresolve env.libnet p) (.error ("arping: Can't resolve " ++ p ++ "\n"))
    return ({ s with cfg.mode := .pingip, cfg.dstip := dstip }, env.libnet.addr2name4 dstip)) ∧
  (s.cfg.mode ≠ .pingmac → s.dstipGiven = true → chooseTarget env s (some p) = do
    let _ ← doLibnetInit env .target s.ifname
    return ({ s with cfg.mode := .pingip }, p)) ∧
  (s.cfg.mode = .pingmac → chooseTarget env s (some p) = do
    let _ ← doLibnetInit env .target s.ifname
    .error (.error ("arping: Options given only apply to MAC ping, but no MAC address given as " ++
      "argument\n")))

variable {env s p}

theorem withMode_self {mode : Mode} (h : s.cfg.mode = mode) : { s with cfg.mode := mode } = s := by
  rw [← h]

/-- Where the mode is settled, the target is matched and parsed. -/
theorem chooseTarget_some {s' : Opts} {parsed : Except Exit (Opts × String)}
    (h : chooseMode env s (some p) = .ok (s', some p)) (hmode : s'.cfg.mode ≠ .none)
    (hparsed : (matchTarget env s' p >>= fun matched =>
      parseTarget matched.1 (some p) matched.2 >>= fun t => pure (t, matched.2)) = parsed) :
    chooseTarget env s (some p) = doLibnetInit env .target s.ifname >>= fun _ => parsed := by
  unfold chooseTarget
  rw [defaultToOwn_some, ok_bind, h, ok_bind, demand_eq_ok_iff.mpr rfl, ok_bind,
    reject_of_not hmode, ok_bind]
  congr 1
  funext _
  exact hparsed

theorem chooseMode_of_isMacAddr (hmac : isMacAddr p = true) (hmode : s.cfg.mode ≠ .pingip) :
    chooseMode env s (some p) = .ok ({ s with cfg.mode := .pingmac }, some p) := by
  unfold chooseMode
  cases hm : s.cfg.mode with
  | none =>
    rw [if_pos rfl]
    simp only [hmac, if_true]
  | pingmac => rw [if_neg (by decide), withMode_self hm]
  | pingip => exact absurd hm hmode

theorem chooseMode_of_not_isMacAddr (hmac : isMacAddr p = false) (hmode : s.cfg.mode ≠ .pingmac) :
    chooseMode env s (some p) = .ok ({ s with cfg.mode := .pingip }, some p) := by
  unfold chooseMode
  cases hm : s.cfg.mode with
  | none =>
    rw [if_pos rfl]
    simp only [hmac, Bool.false_eq_true, if_false]
  | pingmac => exact absurd hm hmode
  | pingip => rw [if_neg (by decide), withMode_self hm]

theorem chooseMode_of_ne_none (hmode : s.cfg.mode ≠ .none) :
    chooseMode env s (some p) = .ok (s, some p) := by
  unfold chooseMode
  rw [if_neg hmode]

theorem matchTarget_of_not (h : ¬ (s.cfg.mode = .pingip ∧ s.dstipGiven = false)) :
    matchTarget env s p = .ok (s, p) := by
  unfold matchTarget
  rw [if_neg h]

theorem matchTarget_of_pingip (hmode : s.cfg.mode = .pingip) (hgiven : s.dstipGiven = false) :
    matchTarget env s p = do
      reject (isMacAddr p) (.error
        "arping: Options given only apply to IP ping, but MAC address given as argument\n")
      let dstip ← demand (xresolve env.libnet p) (.error ("arping: Can't resolve " ++ p ++ "\n"))
      return ({ s with cfg.dstip := dstip }, env.libnet.addr2name4 dstip) := by
  unfold matchTarget
  rw [if_pos ⟨hmode, hgiven⟩]

theorem parseTarget_eq (hmode : s.cfg.mode = .pingmac) :
    parseTarget s (some p) p = do
      reject (isMacAddr p = false)
        (.error ("arping: Options given only apply to MAC ping, but no MAC address given as " ++
          "argument\n"))
      let dstmac ← demand (getMacAddr p) (.error ("arping: Illegal mac addr " ++ p ++ "\n"))
      return { s with cfg.dstmac := dstmac } := by
  unfold parseTarget
  rw [if_pos hmode]
  rfl

theorem treatedAsMac {m : Mac} (hmac : isMacAddr p = true) (hget : getMacAddr p = some m) :
    TreatedAsMac env s p m := by
  refine ⟨?_, ?_, ?_⟩
  · intro hmode
    refine chooseTarget_some (chooseMode_of_isMacAddr hmac hmode) (by simp) ?_
    rw [matchTarget_of_not (by simp), ok_bind, parseTarget_eq rfl,
      reject_of_not (by simp [hmac]), ok_bind, hget]
    rfl
  · intro hmode hgiven
    have hne : s.cfg.mode ≠ .none := by rw [hmode]; decide
    refine chooseTarget_some (chooseMode_of_ne_none hne) hne ?_
    rw [matchTarget_of_pingip hmode hgiven, reject_of hmac, error_bind, error_bind]
  · intro hmode hgiven
    have hne : s.cfg.mode ≠ .none := by rw [hmode]; decide
    refine chooseTarget_some (chooseMode_of_ne_none hne) hne ?_
    rw [matchTarget_of_not (by simp [hgiven]), ok_bind, parseTarget_of_pingip hmode, ok_bind]

theorem treatedAsHost (hmac : isMacAddr p = false) : TreatedAsHost env s p := by
  refine ⟨?_, ?_, ?_⟩
  · intro hmode hgiven
    refine chooseTarget_some (chooseMode_of_not_isMacAddr hmac hmode) (by simp) ?_
    rw [matchTarget_of_pingip (s := { s with cfg.mode := .pingip }) rfl hgiven,
      reject_of_not (by simp [hmac]), ok_bind]
    cases xresolve env.libnet p with
    | none => rfl
    | some dstip => rfl
  · intro hmode hgiven
    refine chooseTarget_some (chooseMode_of_not_isMacAddr hmac hmode) (by simp) ?_
    rw [matchTarget_of_not (by simp [hgiven]), ok_bind, parseTarget_of_pingip rfl, ok_bind]
  · intro hmode
    have hne : s.cfg.mode ≠ .none := by rw [hmode]; decide
    refine chooseTarget_some (chooseMode_of_ne_none hne) hne ?_
    rw [matchTarget_of_not (by simp [hmode]), ok_bind, parseTarget_eq hmode, reject_of hmac,
      error_bind, error_bind]

end

/-! ## Main result on the classifier -/

/-- Of the strings that `get_mac_addr` decodes, `is_mac_addr` accepts those with a colon and those
in cisco-style or windows-style of full width, and they are pinged as MAC addresses. The others are
written with points or dashes, like `192.168.100.7`, and are the names of hosts. -/
theorem isMacAddr_of_getMacAddr (p : String) (m : Mac) (hget : getMacAddr p = some m) :
    (isMacAddr p = true ↔
        ':' ∈ p.toList ∨ CiscoNotation p.toList m ∨ WindowsNotation p.toList m) ∧
    (isMacAddr p = true → ∀ env s, TreatedAsMac env s p m) ∧
    (isMacAddr p = false →
      (∃ ns, Dotted p.toList ns ∨ ns.length = 6 ∧ Joined '-' p.toList ns) ∧
        ∀ env s, TreatedAsHost env s p) := by
  refine ⟨?_, fun hmac env s => treatedAsMac hmac hget, fun hmac => ⟨?_, fun env s =>
    treatedAsHost hmac⟩⟩
  · -- a notation denotes what is decoded
    rw [isMacAddr_iff]
    constructor
    · rintro (⟨m', h⟩ | ⟨m', h⟩ | h)
      · rw [getMacAddr_of_ciscoNotation h, Option.some.injEq] at hget
        exact Or.inr (Or.inl (hget ▸ h))
      · rw [getMacAddr_of_joinedNotation (Or.inr rfl) h.joinedNotation, Option.some.injEq] at hget
        exact Or.inr (Or.inr (hget ▸ h))
      · exact Or.inl h
    · rintro (h | h | h)
      · exact Or.inr (Or.inr h)
      · exact Or.inl ⟨m, h⟩
      · exact Or.inr (Or.inl ⟨m, h⟩)
  · have hcolon : ':' ∉ p.toList := by
      intro h
      rw [isMacAddr_iff.mpr (Or.inr (Or.inr h))] at hmac
      cases hmac
    have hloose : ∃ ns, Loose p.toList ns := by
      by_contra hnone
      rw [getMacAddr_eq_none_iff.mpr hnone] at hget
      cases hget
    obtain ⟨ns, ⟨hlen, hjoined⟩ | hdotted | hdashed⟩ := hloose
    · exact absurd (mem_of_joined hlen hjoined) hcolon
    · exact ⟨ns, Or.inl hdotted⟩
    · exact ⟨ns, Or.inr hdashed⟩

theorem isMacAddr_of_getMacAddr_examples :
    (∀ env s, TreatedAsMac env s "01-23-45-67-89-ab" (hexOctets "0123456789ab".toList)) ∧
      ∀ env s, TreatedAsHost env s "192.168.100.7" :=
  ⟨(isMacAddr_of_getMacAddr "01-23-45-67-89-ab" (hexOctets "0123456789ab".toList)
      (by decide)).2.1 (by decide),
    ((isMacAddr_of_getMacAddr "192.168.100.7" (hexOctets "190216081000".toList)
      (by decide)).2.2 (by decide)).2⟩

/-- The parser decodes an IPv4 address that the classifier leaves to the resolver. -/
theorem not_isMacAddr_of_getMacAddr :
    ¬ ∀ p : String, getMacAddr p ≠ none → isMacAddr p = true := by
  intro h
  exact absurd (h "192.168.100.7" (by decide)) (by decide)

end Arping
