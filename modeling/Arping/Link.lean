import Arping.Lib.Interleaving
import Arping.Frames
import Arping.RequestSequence
import Arping.Startup

/-!
# Several runs on one link

Any number of runs, on hosts of either byte order, share a link with other stations. Their moves are
interleaved in any order, signals and failures included. What a run gets to see is what passes its
filter of the ARP frames and the ICMP messages that were sent before: by a station, under its own
addresses, or by one of the runs. Frames may be lost, repeated and reordered. A run with `-V` has no
filter, and what it sees is left open.

In every situation reached this way, what a run with the filter `arp` has counted are the replies in
the name of its target among the frames it has seen (`link_counted`). So it reports an answer only
if somebody claims the address, and a duplicate only if two do (`link_exitStatus`): another run that
asks for the same address is never taken for a host that has it. The IPv4 headers on the link have
no options. Of the messages behind them, a run with the filter `icmp` counts all echo replies, also
those to others; so it reports an answer only if there is a station (`link_echo`), but that need not
be the one that it pings.
-/

namespace Arping

open Interleaving Relation

/-- A host that runs something else. -/
structure Station where
  mac : Mac
  ip : Vector UInt8 4

/-- The filters without a VLAN. -/
def Request.Passes (filter : String) : Request → Prop
  | .arp _ _ => filter = "arp"
  | .icmp _ _ _ => filter = "icmp"

/-- The runs and the stations. -/
structure Link (ι : Type) where
  cfg : ι → Config
  stations : Set Station

namespace Link

variable {ι : Type} (L : Link ι)

/-- What has been sent by a station, or by a run with a write that succeeded. -/
inductive Sent (s : ι → Point × State) : Endian → Request → Prop
  | arp {w : Station} {host : Endian} {a : ArpArgs} {e : EtherArgs} (hw : w ∈ L.stations)
      (ha : EthIp a) (hsha : a.sha = w.mac) (hspa : host.bytes32 a.spa = w.ip)
      (hsrc : e.src = w.mac) : Sent s host (.arp a e)
  | icmp {w : Station} {host : Endian} {i : IcmpArgs} {h : Ipv4Args} {e : EtherArgs}
      (hw : w ∈ L.stations) (hsrc : host.bytes32 h.src = w.ip) : Sent s host (.icmp i h e)
  | run {j : ι} {k : ℕ} {r : Request} (hsent : (s j).2.sent[k]? = some r)
      (hwritten : (s j).2.written[k]? = some true) : Sent s (L.cfg j).host r

/-- A packet that passes a filter and holds what was sent; an ICMP message comes with an IPv4 header
without options. -/
def Heard (s : ι → Point × State) (filter : String) (p : Packet) : Prop :=
  ∃ host r, L.Sent s host r ∧ r.Passes filter ∧ r.CarriedBy host p

/-- What passes the filter of a run is heard on the link. -/
def Permits (s : ι → Point × State) (i : ι) (x : Point × State) : Prop :=
  ∀ filter, installedFilter (L.cfg i) = some filter → ∀ p ∈ x.2.handled, L.Heard s filter p

/-- Reached from the start of all the ping loops. -/
def Reachable [DecidableEq ι] (s : ι → Point × State) : Prop :=
  Turns (fun i => Move (L.cfg i)) L.Permits (fun _ => (.test 0, State.init)) s

/-- Somebody answers for the target of the run `i`, under the source address `mac`: a station that
has the address, or a run, possibly `i` itself, with `-P` and without `-V`, that sends in its
name. -/
def Claims (i : ι) (mac : Mac) : Prop :=
  (∃ w ∈ L.stations, w.mac = mac ∧ w.ip = (L.cfg i).host.bytes32 (L.cfg i).dstip) ∨
    ∃ j, (L.cfg j).sendReply = true ∧ (L.cfg j).vlanTag < 0 ∧ (L.cfg j).srcmac = mac ∧
      (L.cfg j).host.bytes32 (L.cfg j).srcip = (L.cfg i).host.bytes32 (L.cfg i).dstip

end Link

theorem installedFilter_eq_arp_iff {cfg : Config} :
    installedFilter cfg = some "arp" ↔ cfg.mode = .pingip ∧ cfg.vlanTag < 0 := by
  unfold installedFilter bpfFilter
  by_cases hv : cfg.vlanTag < 0
  · rw [if_pos hv, if_neg (Int16.not_le.mpr hv)]
    cases cfg.mode <;> simp [hv]
  · rw [if_neg hv]
    simp [hv]

theorem installedFilter_eq_icmp_iff {cfg : Config} :
    installedFilter cfg = some "icmp" ↔ cfg.mode ≠ .pingip ∧ cfg.vlanTag < 0 := by
  unfold installedFilter bpfFilter
  by_cases hv : cfg.vlanTag < 0
  · rw [if_pos hv, if_neg (Int16.not_le.mpr hv)]
    cases cfg.mode <;> simp [hv]
  · rw [if_neg hv]
    simp [hv]

/-! ## Nothing is unsaid -/

/-- The record of a run only grows. -/
theorem Move.trace_grows {cfg : Config} {s s' : Point × State} (h : Move cfg s s') :
    s.2.trace <+: s'.2.trace := by
  cases h with
  | request => exact List.prefix_append _ _
  | write => exact List.prefix_append _ _
  | select => exact List.prefix_append _ _
  | timeout => exact List.prefix_append _ _
  | dispatch => exact List.prefix_append _ _
  | handle c old p clk g =>
    obtain ⟨evs, htrace, -⟩ := recvHandler_records cfg p clk g
    exact ⟨evs, htrace.symm⟩
  | _ => exact List.prefix_rfl

theorem Moves.trace_grows {cfg : Config} {s s' : Point × State} (h : Moves cfg s s') :
    s.2.trace <+: s'.2.trace := by
  induction h with
  | refl => exact List.prefix_rfl
  | tail _ hmove ih => exact ih.trans hmove.trace_grows

theorem getElem?_of_grows {α : Type} {l l' : List α} (h : l <+: l') {k : ℕ} {x : α}
    (hx : l[k]? = some x) : l'[k]? = some x := by
  obtain ⟨hk, rfl⟩ := List.getElem?_eq_some_iff.mp hx
  exact List.prefix_iff_getElem?.mp h k hk

namespace Link

section

variable {ι : Type} [DecidableEq ι] {L : Link ι} {s : ι → Point × State} {i j : ι}
  {x : Point × State}

/-- What has been sent stays sent. -/
theorem Sent.grows {host : Endian} {r : Request} (h : L.Sent s host r)
    (hgrows : (s j).2.trace <+: x.2.trace) : L.Sent (Function.update s j x) host r := by
  cases h with
  | arp hw ha hsha hspa hsrc => exact .arp hw ha hsha hspa hsrc
  | icmp hw hsrc => exact .icmp hw hsrc
  | @run j' k r hsent hwritten =>
    by_cases hj : j' = j
    · subst hj
      refine .run (k := k) ?_ ?_ <;> rw [Function.update_self]
      · exact getElem?_of_grows (hgrows.filterMap _) hsent
      · exact getElem?_of_grows (hgrows.filterMap _) hwritten
    · refine .run (k := k) ?_ ?_ <;> rw [Function.update_of_ne hj]
      · exact hsent
      · exact hwritten

theorem lasting_permits (L : Link ι) : Lasting (fun i => Move (L.cfg i)) L.Permits := by
  intro s i x j y hx hmove filter hfilter p hp
  obtain ⟨host, r, hsent, hpass, hcarried⟩ := hx filter hfilter p hp
  exact ⟨host, r, hsent.grows hmove.trace_grows, hpass, hcarried⟩

/-- On the link each run is one of those that it makes alone. -/
theorem Reachable.run (h : L.Reachable s) (i : ι) : Arping.Reachable (L.cfg i) (s i) :=
  Turns.component h i

/-- Whatever has passed the filter was sent. -/
theorem Reachable.heard (h : L.Reachable s) {filter : String}
    (hfilter : installedFilter (L.cfg i) = some filter) {p : Packet} (hp : p ∈ (s i).2.handled) :
    L.Heard s filter p :=
  Turns.permitted L.lasting_permits (fun _ _ _ _ hp => absurd hp List.not_mem_nil) h i filter
    hfilter p hp

/-- A run that sees nothing but what was sent goes on alone. -/
theorem Reachable.moves (h : L.Reachable s) (hmoves : Moves (L.cfg i) (s i) x)
    (hx : L.Permits s i x) : L.Reachable (Function.update s i x) := by
  refine h.trans (turns_of_steps L.lasting_permits (fun y z hmove hz => ?_) hmoves hx)
  exact fun filter hfilter p hp =>
    hz filter hfilter p ((hmove.trace_grows.filterMap _).subset hp)

/-- Every run of the ping loop that sees nothing but what was sent is one on the link. -/
theorem Reachable.pingLoop (h : L.Reachable s) (hstart : s i = (.test 0, State.init))
    (env : RunEnv) (hheard : ∀ filter, installedFilter (L.cfg i) = some filter →
      ∀ p ∈ (pingLoop (L.cfg i) env State.init).state.2.handled, L.Heard s filter p) :
    ∃ pt, L.Reachable
      (Function.update s i (pt, (Arping.pingLoop (L.cfg i) env State.init).state.2)) := by
  obtain ⟨pt, hmoves⟩ := pingLoop_reachable (L.cfg i) env
  exact ⟨pt, h.moves (hstart ▸ hmoves) hheard⟩

end

end Link

/-! ## What one run counts -/

section Alone

variable {cfg : Config} {g g' : State} {s : Point × State}

theorem recvHandler_handled (cfg : Config) (p : Packet) (clk : ClockCall) (g : State) :
    (recvHandler cfg p clk g).handled = g.handled ++ [p] := by
  have harr := afterArrival_arrives p clk g
  rcases recvHandler_cases cfg p clk g with hrej | hcount
  · rw [hrej, harr.handled]
  · rw [hcount.handled, harr.handled]

/-- The packets counted are the acceptable ones among those seen. -/
def CountsAccepted (cfg : Config) (g : State) : Prop :=
  g.counted = g.handled.filter fun p => decide (Accepts cfg p)

theorem recvHandler_countsAccepted (p : Packet) (clk : ClockCall) (h : CountsAccepted cfg g) :
    CountsAccepted cfg (recvHandler cfg p clk g) := by
  have harr := afterArrival_arrives p clk g
  unfold CountsAccepted at h ⊢
  by_cases hp : Accepts cfg p
  · have hcount := recvHandler_counts hp clk g
    rw [hcount.counted, hcount.handled, harr.counted, harr.handled, h, List.filter_append,
      List.filter_singleton, decide_eq_true hp]
    rfl
  · rw [recvHandler_rejects hp, harr.counted, harr.handled, h, List.filter_append,
      List.filter_singleton, decide_eq_false hp]
    exact (List.append_nil _).symm

theorem reachable_countsAccepted (h : Reachable cfg s) : CountsAccepted cfg s.2 := by
  refine h.receive (I := CountsAccepted cfg) rfl (fun g g' hsame hg => ?_)
    fun p clk g => recvHandler_countsAccepted p clk
  unfold CountsAccepted
  rw [hsame.counted, hsame.handled]
  exact hg

/-- A duplicate is reported for two counted replies, however many there are. -/
structure ReportsDifferent (g : State) : Prop where
  last : g.numrecvd ≠ 0 → ∃ p ∈ g.counted, p.srcmac = g.lastreplymac
  different : g.dupfound = true → ∃ p ∈ g.counted, ∃ q ∈ g.counted, p.srcmac ≠ q.srcmac

theorem ReportsDifferent.of_eq (h : ReportsDifferent g) (hnum : g'.numrecvd = g.numrecvd)
    (hlast : g'.lastreplymac = g.lastreplymac) (hdup : g'.dupfound = g.dupfound)
    (hcounted : g'.counted = g.counted) : ReportsDifferent g' := by
  constructor
  · rw [hnum, hlast, hcounted]
    exact h.last
  · rw [hdup, hcounted]
    exact h.different

theorem ReportsDifferent.counts {p : Packet} {t : ℚ} (h : ReportsDifferent g)
    (hcount : CountsArp cfg p p.srcmac t g g') : ReportsDifferent g' := by
  have hp : p ∈ g'.counted := by
    rw [hcount.counted]
    exact List.mem_append_right _ (List.mem_singleton_self p)
  have hold : ∀ q ∈ g.counted, q ∈ g'.counted := by
    intro q hq
    rw [hcount.counted]
    exact List.mem_append_left _ hq
  constructor
  · intro _
    exact ⟨p, hp, hcount.lastreplymac.symm⟩
  · intro hdup
    rw [hcount.dupfound, Bool.or_eq_true, decide_eq_true_eq] at hdup
    rcases hdup with hdup | ⟨hnum, hne⟩
    · obtain ⟨q, hq, r, hr, hne⟩ := h.different hdup
      exact ⟨q, hold q hq, r, hold r hr, hne⟩
    · obtain ⟨q, hq, hlast⟩ := h.last hnum
      exact ⟨q, hold q hq, p, hp, by rwa [hlast]⟩

theorem reachable_reportsDifferent (hmode : cfg.mode = .pingip) (h : Reachable cfg s) :
    ReportsDifferent s.2 := by
  refine h.receive ⟨fun h0 => absurd rfl h0, fun hdup => by cases hdup⟩
    (fun g g' hsame hg => hg.of_eq hsame.numrecvd hsame.lastreplymac hsame.dupfound hsame.counted)
    fun p clk g hg => ?_
  have harr := afterArrival_arrives p clk g
  have hstart := hg.of_eq harr.numrecvd harr.lastreplymac harr.dupfound harr.counted
  by_cases hp : Accepts cfg p
  · rw [recvHandler_pingip hmode]
    exact hstart.counts (pingipRecv_accept (run_pingipAccept_of_accepts hmode hp) clk g)
  · rw [recvHandler_rejects hp]
    exact hstart

/-- With `numrecvd` something is counted. -/
theorem Reachable.counted_ne_nil (h : Reachable cfg s) (hnum : s.2.numrecvd ≠ 0) :
    s.2.counted ≠ [] := by
  obtain ⟨-, js, hjs⟩ := h.explained
  intro hnil
  have hreplies : (Session.run cfg js).replies = [] := by
    rw [hjs.counted] at hnil
    exact List.map_eq_nil_iff.mp hnil
  rw [hjs.numrecvd, hreplies] at hnum
  exact hnum rfl

end Alone

/-! ## What is counted on the link -/

section Counted

variable {ι : Type} [DecidableEq ι] {L : Link ι} {s : ι → Point × State} {i : ι}

/-- A run sends what its mode says. -/
theorem Reachable.requestOf_sent {cfg : Config} {x : Point × State} (h : Arping.Reachable cfg x)
    {k : ℕ} {r : Request} (hsent : x.2.sent[k]? = some r) : ∃ id c, requestOf cfg id c = r := by
  have hmem : r ∈ x.2.sent := List.mem_of_getElem? hsent
  obtain ⟨ids, hids, -⟩ := (reachable_inOrder h).sent
  rw [hids] at hmem
  obtain ⟨y, -, hy⟩ := List.mem_map.mp hmem
  exact ⟨y.1, _, hy⟩

/-- It sends ARP in IP mode only, and always the same. -/
theorem Reachable.arp_sent {cfg : Config} {x : Point × State} (h : Arping.Reachable cfg x) {k : ℕ}
    {a : ArpArgs} {e : EtherArgs} (hsent : x.2.sent[k]? = some (.arp a e)) :
    arpRequest cfg = .arp a e := by
  obtain ⟨id, c, hr⟩ := h.requestOf_sent hsent
  unfold requestOf at hr
  split at hr
  · exact hr
  · cases hr

/-- Otherwise it sends echo requests. -/
theorem Reachable.icmp_sent {cfg : Config} {x : Point × State} (h : Arping.Reachable cfg x) {k : ℕ}
    {i : IcmpArgs} {ip : Ipv4Args} {e : EtherArgs} (hsent : x.2.sent[k]? = some (.icmp i ip e)) :
    i.type = icmpEcho := by
  obtain ⟨id, c, hr⟩ := h.requestOf_sent hsent
  unfold requestOf at hr
  split at hr
  · cases hr
  · cases hr
    rfl

theorem Link.Sent.ethIp (h : L.Reachable s) {host : Endian} {a : ArpArgs} {e : EtherArgs}
    (hsent : L.Sent s host (.arp a e)) : EthIp a := by
  cases hsent with
  | arp hw ha => exact ha
  | @run j k r hsent hwritten => exact ethIp_arpRequest ((h.run j).arp_sent hsent)

/-- What has passed the filter `arp`. -/
theorem Link.Reachable.heard_arp (h : L.Reachable s)
    (hfilter : installedFilter (L.cfg i) = some "arp") {p : Packet} (hp : p ∈ (s i).2.handled) :
    ∃ host a e, L.Sent s host (.arp a e) ∧ Carries host p a e := by
  obtain ⟨host, r, hsent, hpass, hcarried⟩ := h.heard hfilter hp
  cases r with
  | arp a e => exact ⟨host, a, e, hsent, hcarried⟩
  | icmp i ip e => exact absurd hpass (by simp [Request.Passes])

theorem mem_counted_iff (h : L.Reachable s) (hfilter : installedFilter (L.cfg i) = some "arp")
    (p : Packet) :
    p ∈ (s i).2.counted ↔ p ∈ (s i).2.handled ∧
      ∃ host a e, L.Sent s host (.arp a e) ∧ Carries host p a e ∧
        e.tag.isSome = false ∧ AnswersFor (L.cfg i) host a := by
  obtain ⟨hmode, hv⟩ := installedFilter_eq_arp_iff.mp hfilter
  have hiff : ∀ e : EtherArgs,
      (e.tag.isSome = true ↔ 0 ≤ (L.cfg i).vlanTag) ↔ e.tag.isSome = false := by
    intro e
    rw [iff_false_right (Int16.not_le.mpr hv), Bool.not_eq_true]
  have hcounted : (s i).2.counted = _ := reachable_countsAccepted (h.run i)
  rw [hcounted, List.mem_filter, decide_eq_true_eq, and_congr_right_iff]
  intro hp
  constructor
  · intro haccepts
    obtain ⟨host, a, e, hsent, hcarries⟩ := h.heard_arp hfilter hp
    rw [accepts_iff_of_carries hmode hcarries (hsent.ethIp h), hiff] at haccepts
    exact ⟨host, a, e, hsent, hcarries, haccepts⟩
  · rintro ⟨host, a, e, hsent, hcarries, hanswers⟩
    rwa [accepts_iff_of_carries hmode hcarries (hsent.ethIp h), hiff]

/-- The source of a counted packet claims the address. -/
theorem claims_of_counted (h : L.Reachable s) (hfilter : installedFilter (L.cfg i) = some "arp")
    {p : Packet} (hp : p ∈ (s i).2.counted) : L.Claims i p.srcmac := by
  obtain ⟨-, host, a, e, hsent, hcarries, htag, hanswers⟩ := (mem_counted_iff h hfilter p).mp hp
  rw [hcarries.srcmac]
  cases hsent with
  | @arp w host a e hw ha hsha hspa hsrc =>
    exact Or.inl ⟨w, hw, hsrc.symm, hspa.symm.trans hanswers.spa⟩
  | @run j k r hsent hwritten =>
    have hrequest := (h.run j).arp_sent hsent
    obtain ⟨hreply, hspa, -⟩ := (answersFor_arpRequest_iff hrequest).mp hanswers
    cases hrequest
    have hv : (L.cfg j).vlanTag < 0 := by
      rw [Bool.eq_false_iff, Ne, etherArgs_tag_isSome] at htag
      exact Int16.not_le.mp htag
    exact Or.inr ⟨j, hreply, hv, rfl, hspa⟩

/-- **What a run counts on a link.** In every situation reached, the packets that a run with the
filter `arp` has counted are those it has seen that hold an untagged frame that was sent before and
answers for its target; their source claims the address. -/
theorem link_counted (h : L.Reachable s) (hfilter : installedFilter (L.cfg i) = some "arp")
    (p : Packet) :
    (p ∈ (s i).2.counted ↔ p ∈ (s i).2.handled ∧
      ∃ host a e, L.Sent s host (.arp a e) ∧ Carries host p a e ∧
        e.tag.isSome = false ∧ AnswersFor (L.cfg i) host a) ∧
      (p ∈ (s i).2.counted → L.Claims i p.srcmac) :=
  ⟨mem_counted_iff h hfilter p, claims_of_counted h hfilter⟩

/-- **No false alarm.** In every situation reached, the exit status of a run with the filter `arp`
reports an answer only if somebody claims the address, and with `-d` a duplicate only if two do,
under different source addresses. -/
theorem link_exitStatus (h : L.Reachable s) (hfilter : installedFilter (L.cfg i) = some "arp") :
    ((L.cfg i).finddup = false → exitStatus (L.cfg i) (s i).2 = 0 → ∃ mac, L.Claims i mac) ∧
      ((L.cfg i).finddup = true → exitStatus (L.cfg i) (s i).2 = 1 →
        ∃ mac mac', L.Claims i mac ∧ L.Claims i mac' ∧ mac ≠ mac') := by
  obtain ⟨hmode, -⟩ := installedFilter_eq_arp_iff.mp hfilter
  unfold exitStatus
  constructor
  · intro hfind hstatus
    rw [hfind, if_neg Bool.false_ne_true] at hstatus
    split at hstatus
    · cases hstatus
    · rename_i hnum
      obtain ⟨p, hp⟩ := List.exists_mem_of_ne_nil _ ((h.run i).counted_ne_nil hnum)
      exact ⟨p.srcmac, claims_of_counted h hfilter hp⟩
  · intro hfind hstatus
    rw [if_pos hfind] at hstatus
    split at hstatus
    · rename_i hdup
      obtain ⟨p, hp, q, hq, hne⟩ := (reachable_reportsDifferent hmode (h.run i)).different hdup
      exact ⟨p.srcmac, q.srcmac, claims_of_counted h hfilter hp, claims_of_counted h hfilter hq,
        hne⟩
    · cases hstatus

/-- What has passed the filter `icmp`. -/
theorem Link.Reachable.heard_icmp (h : L.Reachable s)
    (hfilter : installedFilter (L.cfg i) = some "icmp") {p : Packet} (hp : p ∈ (s i).2.handled) :
    ∃ host m ip e, L.Sent s host (.icmp m ip e) ∧ CarriesIcmp host p m ip := by
  obtain ⟨host, r, hsent, hpass, hcarried⟩ := h.heard hfilter hp
  cases r with
  | arp a e => exact absurd hpass (by simp [Request.Passes])
  | icmp m ip e => exact ⟨host, m, ip, e, hsent, hcarried⟩

theorem mem_counted_icmp_iff (h : L.Reachable s)
    (hfilter : installedFilter (L.cfg i) = some "icmp") (p : Packet) :
    p ∈ (s i).2.counted ↔ p ∈ (s i).2.handled ∧
      ∃ host m ip e, L.Sent s host (.icmp m ip e) ∧ CarriesIcmp host p m ip ∧ m.type = 0 := by
  obtain ⟨hmode, -⟩ := installedFilter_eq_icmp_iff.mp hfilter
  have hcounted : (s i).2.counted = _ := reachable_countsAccepted (h.run i)
  rw [hcounted, List.mem_filter, decide_eq_true_eq, and_congr_right_iff]
  intro hp
  constructor
  · intro haccepts
    obtain ⟨host, m, ip, e, hsent, hcarries⟩ := h.heard_icmp hfilter hp
    exact ⟨host, m, ip, e, hsent, hcarries, (accepts_iff_of_carriesIcmp hmode hcarries).mp haccepts⟩
  · rintro ⟨host, m, ip, e, -, hcarries, htype⟩
    exact (accepts_iff_of_carriesIcmp hmode hcarries).mpr htype

/-- No run sends echo replies. -/
theorem station_of_counted (h : L.Reachable s)
    (hfilter : installedFilter (L.cfg i) = some "icmp") {p : Packet} (hp : p ∈ (s i).2.counted) :
    ∃ w ∈ L.stations, bytesAt p.byte (shiftEther + ipSrc) 4 = w.ip := by
  obtain ⟨-, host, m, ip, e, hsent, hcarries, htype⟩ := (mem_counted_icmp_iff h hfilter p).mp hp
  cases hsent with
  | @icmp w host m ip e hw hsrc => exact ⟨w, hw, hcarries.ip.src.trans hsrc⟩
  | @run j k r hsent hwritten =>
    rw [(h.run j).icmp_sent hsent] at htype
    exact absurd htype (by decide)

/-- **Echo replies on a link.** On a link whose IPv4 headers have no options, in every situation
reached, the packets that a run with the filter `icmp` has counted are those it has seen that hold
an echo reply that was sent before, whoever it answers. Their sources are stations, so the exit
status reports an answer only if there is one. -/
theorem link_echo (h : L.Reachable s) (hfilter : installedFilter (L.cfg i) = some "icmp") :
    (∀ p, p ∈ (s i).2.counted ↔ p ∈ (s i).2.handled ∧
      ∃ host m ip e, L.Sent s host (.icmp m ip e) ∧ CarriesIcmp host p m ip ∧ m.type = 0) ∧
      (∀ p ∈ (s i).2.counted,
        ∃ w ∈ L.stations, bytesAt p.byte (shiftEther + ipSrc) 4 = w.ip) ∧
      ((L.cfg i).finddup = false → exitStatus (L.cfg i) (s i).2 = 0 → L.stations.Nonempty) := by
  refine ⟨mem_counted_icmp_iff h hfilter, fun p => station_of_counted h hfilter,
    fun hfind hstatus => ?_⟩
  unfold exitStatus at hstatus
  rw [hfind, if_neg Bool.false_ne_true] at hstatus
  split at hstatus
  · cases hstatus
  · rename_i hnum
    obtain ⟨p, hp⟩ := List.exists_mem_of_ne_nil _ ((h.run i).counted_ne_nil hnum)
    obtain ⟨w, hw, -⟩ := station_of_counted h hfilter hp
    exact ⟨w, hw⟩

end Counted

/-! ## The first packet -/

section First

/-- A run whose loop starts can write its first request. -/
theorem moves_first_request {cfg : Config} (htest : loopTest cfg 0 State.init = true) :
    Moves cfg (.test 0, State.init)
      (.wait 0, writeStamped true ⟨0, 0⟩ (State.init.emit (.send (requestOf cfg 0 0)))) :=
  ((ReflTransGen.single (.test htest)).tail (.request 0 0 State.init)).tail
    (.write 0 true ⟨0, 0⟩ _)

/-- Then it can see any packet. -/
theorem moves_first_packet {cfg : Config} (htest : loopTest cfg 0 State.init = true) (p : Packet) :
    ∃ pt g, Moves cfg (.test 0, State.init) (pt, g) ∧ g.handled = [p] := by
  let g := writeStamped true ⟨0, 0⟩ (State.init.emit (.send (requestOf cfg 0 0)))
  let g' := (g.emit (.select ⟨⟨0, 0⟩, ⟨1, 0⟩, false⟩)).emit .dispatch
  have hwait : Moves cfg (.test 0, State.init) (.select 0 0, g) :=
    ((moves_first_request htest).tail (.listen 0 g)).tail (.check rfl)
  have hmoves : Moves cfg (.test 0, State.init)
      (.batch 0 0, recvHandler cfg p (readingAt 0) g') :=
    ((hwait.tail (.select 0 0 _ g)).tail (.dispatch 0 0 _)).tail
      (.handle 0 0 p (readingAt 0) g')
  exact ⟨_, _, hmoves, recvHandler_handled cfg p (readingAt 0) g'⟩

variable {ι : Type} [DecidableEq ι] {L : Link ι} {i j : ι}

/-- The first request of one run can be the first packet of another one, if it passes its
filter. -/
theorem Link.exists_handled (hne : i ≠ j) (hi : loopTest (L.cfg i) 0 State.init = true)
    (hj : loopTest (L.cfg j) 0 State.init = true) {p : Packet}
    (hp : (requestOf (L.cfg j) 0 0).CarriedBy (L.cfg j).host p)
    (hpass : ∀ filter, installedFilter (L.cfg i) = some filter →
      (requestOf (L.cfg j) 0 0).Passes filter) :
    ∃ s, L.Reachable s ∧ L.Sent s (L.cfg j).host (requestOf (L.cfg j) 0 0) ∧
      (s i).2.handled = [p] := by
  obtain ⟨s, hs, hsi, hsent⟩ : ∃ s, L.Reachable s ∧ s i = (.test 0, State.init) ∧
      L.Sent s (L.cfg j).host (requestOf (L.cfg j) 0 0) := by
    refine ⟨_, Link.Reachable.moves (i := j) .refl (moves_first_request hj)
      fun _ _ q hq => absurd hq List.not_mem_nil, Function.update_of_ne hne _ _, ?_⟩
    refine .run (j := j) (k := 0) ?_ ?_ <;> rw [Function.update_self] <;> rfl
  obtain ⟨pt, g, hmoves, hhandled⟩ := moves_first_packet hi p
  refine ⟨_, hs.moves (i := i) (x := (pt, g)) (hsi ▸ hmoves) fun filter hfilter q hq => ?_,
    hsent.grows (hsi ▸ Moves.trace_grows hmoves), ?_⟩
  · rw [hhandled, List.mem_singleton] at hq
    exact ⟨_, _, hsent, hpass filter hfilter, hq ▸ hp⟩
  · rw [Function.update_self]
    exact hhandled

end First

/-! ## Two runs -/

/-- One run asks for 10.0.0.1, the other one sends replies in its name. -/
def claimLink : Link Bool where
  cfg i := if i then claimConfig else ipConfig
  stations := ∅

/-- The run that asks sees a frame of the other one. -/
theorem claimLink_handled :
    ∃ s, claimLink.Reachable s ∧ claimFrame ∈ (s false).2.handled := by
  obtain ⟨s, hs, -, hhandled⟩ := Link.exists_handled (L := claimLink) Bool.false_ne_true rfl rfl
    (p := claimFrame) (carries_claimFrame rfl) fun filter hfilter => (Option.some.inj hfilter).symm
  refine ⟨s, hs, ?_⟩
  rw [hhandled]
  exact List.mem_singleton_self _

theorem link_counted_claim :
    ∃ s : Bool → Point × State, claimFrame ∈ (s false).2.handled ∧
      (claimFrame ∈ (s false).2.counted ↔ claimFrame ∈ (s false).2.handled ∧
        ∃ host a e, claimLink.Sent s host (.arp a e) ∧ Carries host claimFrame a e ∧
          e.tag.isSome = false ∧ AnswersFor ipConfig host a) := by
  obtain ⟨s, hs, hp⟩ := claimLink_handled
  exact ⟨s, hp, (link_counted (i := false) hs (by decide) claimFrame).1⟩

theorem link_exitStatus_claim :
    ∃ s : Bool → Point × State, claimFrame ∈ (s false).2.handled ∧
      (exitStatus ipConfig (s false).2 = 0 → ∃ mac, claimLink.Claims false mac) := by
  obtain ⟨s, hs, hp⟩ := claimLink_handled
  exact ⟨s, hp, (link_exitStatus (i := false) hs (by decide)).1 rfl⟩

/-! ## A run and a station -/

/-- Pinging 02:02:02:02:02:02. -/
def macConfig : Config := { ipConfig with mode := .pingmac, dstmac := Vector.replicate 6 2 }

/-- The station is another one. -/
def echoLink : Link Unit where
  cfg _ := macConfig
  stations := {⟨Vector.replicate 6 3, Vector.replicate 4 0⟩}

/-- An echo reply of it. -/
def echoFrame : Packet := Packet.ofBytes
  (List.replicate 22 0 ++ [0x45] ++ List.replicate 27 0) fun _ => 0

theorem carriesIcmp_echoFrame :
    CarriesIcmp .little echoFrame ⟨0, 0, 0, 0, 0⟩ ⟨0, 0, 0, 0, 0, 0, 0, 0, 0⟩ where
  captured := by decide
  ip := ⟨by decide, by decide, by decide, by decide, by decide, by decide, by decide, by decide,
    by decide⟩
  icmp := ⟨by decide, by decide, by decide, by decide⟩

theorem link_echo_station :
    ∃ s : Unit → Point × State, echoFrame ∈ (s ()).2.handled ∧ echoFrame ∈ (s ()).2.counted := by
  have hsent : ∀ s, echoLink.Sent s .little
      (.icmp ⟨0, 0, 0, 0, 0⟩ ⟨0, 0, 0, 0, 0, 0, 0, 0, 0⟩ (etherArgs macConfig 0x0800)) :=
    fun s => .icmp (Set.mem_singleton _) (by decide)
  obtain ⟨pt, g, hmoves, hhandled⟩ := moves_first_packet
    (show loopTest macConfig 0 State.init = true from rfl) echoFrame
  have hmem : echoFrame ∈ g.handled := hhandled ▸ List.mem_singleton_self _
  have hreach : echoLink.Reachable _ :=
    Link.Reachable.moves (L := echoLink) (i := ()) .refl hmoves fun filter hfilter p hp => by
      rw [hhandled, List.mem_singleton] at hp
      rw [hp]
      exact ⟨.little, _, hsent _, (Option.some.inj hfilter).symm, carriesIcmp_echoFrame⟩
  refine ⟨_, ?_, ((link_echo (i := ()) hreach (by decide)).1 echoFrame).mpr ⟨?_, ?_⟩⟩
  · rw [Function.update_self]
    exact hmem
  · rw [Function.update_self]
    exact hmem
  · exact ⟨.little, _, _, _, hsent _, carriesIcmp_echoFrame, rfl⟩

end Arping
