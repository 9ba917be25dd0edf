import Arping.RecvLoop
import Arping.Replies

/-!
# The untagged reply filter

In untagged mode, with at least 54 captured bytes, a packet is counted exactly when it is an
Ethernet/IPv4 ARP reply for `dstip` on the wire (`WireReply`, by byte offsets). `handleAll_filter`
follows a whole sequence of packets: it changes what its replies change, in order, and nothing
else. The one thing a rejected packet can do is to set `time_to_die`, when `gettimeofday` fails
while `getclock` takes its arrival time.
-/

namespace Arping

/-- An Ethernet/IPv4 ARP reply from `dstip`, read behind 22 bytes of TTP header and 14 bytes of
Ethernet header. -/
def WireReply (cfg : Config) (p : Packet) : Prop :=
  be16 p.byte 36 = 1 ∧ be16 p.byte 38 = 0x0800 ∧ p.byte 40 = 6 ∧ p.byte 41 = 4 ∧
    be16 p.byte 42 = 2 ∧ bytesAt p.byte 50 4 = cfg.host.bytes32 cfg.dstip

instance (cfg : Config) : DecidablePred (WireReply cfg) := fun p => by
  unfold WireReply; infer_instance

/-- The checks of the untagged branch are the wire format. -/
theorem wireReply_iff {cfg : Config} (ha : cfg.addrMustBeSame = false) (p : Packet) :
    WireReply cfg p ↔
      EthIpLengths p.byte harpUntagged ∧ ArpMatches cfg p.byte harpUntagged := by
  have hallowed : SenderAllowed cfg p.byte harpUntagged := by
    intro h
    rw [ha] at h
    cases h
  have htarget (hhln : p.byte 40 = 6) : SenderIsTarget cfg p.byte harpUntagged ↔
      bytesAt p.byte 50 4 = cfg.host.bytes32 cfg.dstip := by
    have hoff : harpUntagged + (p.byte (harpUntagged + arHln)).toNat + libnetArpH = 50 := by
      rw [show p.byte (harpUntagged + arHln) = 6 from hhln]
      rfl
    rw [SenderIsTarget, hoff]
  constructor
  · rintro ⟨hhrd, hpro, hhln, hpln, hop, hip⟩
    exact ⟨⟨hhln, hpln⟩, ⟨hop, hpro, hhrd⟩, hallowed, (htarget hhln).mpr hip⟩
  · rintro ⟨⟨hhln, hpln⟩, ⟨hop, hpro, hhrd⟩, -, hip⟩
    exact ⟨hhrd, hpro, hhln, hpln, hop, (htarget hhln).mp hip⟩

section Untagged

variable {cfg : Config} (hv : cfg.vlanTag < 0) (ha : cfg.addrMustBeSame = false)

include hv ha

theorem run_pingipAccept_wire {p : Packet} (hlen : 54 ≤ p.caplen.toNat) :
    (pingipAccept cfg p.caplen).run p.byte =
      if WireReply cfg p then some (p.srcmac, cfg.dstip) else none := by
  rw [run_pingipAccept_untagged hv]
  refine if_congr ?_ rfl rfl
  rw [wireReply_iff ha]
  exact and_iff_right (by omega)

/-- A reply on the wire is counted. -/
theorem pingipRecv_reply {p : Packet} (hlen : 54 ≤ p.caplen.toNat) (hp : WireReply cfg p)
    (clk : ClockCall) (g : State) :
    CountsArp cfg p p.srcmac (sampleOf clk g) (afterArrival p clk g) (pingipRecv cfg p clk g) :=
  pingipRecv_accept (by rw [run_pingipAccept_wire hv ha hlen, if_pos hp]) clk g

/-- Anything else is rejected. -/
theorem pingipRecv_other {p : Packet} (hlen : 54 ≤ p.caplen.toNat) (hp : ¬ WireReply cfg p)
    (clk : ClockCall) (g : State) : pingipRecv cfg p clk g = afterArrival p clk g :=
  pingipRecv_reject (by rw [run_pingipAccept_wire hv ha hlen, if_neg hp]) clk g

end Untagged

/-! ## Sequences of packets -/

/-- The replies among the packets. -/
def replies (cfg : Config) (batch : List Arrival) : List Arrival :=
  batch.filter fun a => WireReply cfg a.packet

/-- Some reply of the sequence leaves `numrecvd` at `max_replies` or above. -/
def ReachesMax (cfg : Config) (batch : List Arrival) (g : State) : Prop :=
  ∃ l a r, batch = l ++ a :: r ∧ WireReply cfg a.packet ∧
    cfg.maxReplies ≤ (handleAll (pingipRecv cfg) (l ++ [a]) g).numrecvd

/-- A rejected packet leaves the reply bookkeeping as it was, and `time_to_die` too unless the
clock fails. -/
structure Rejected (clk : ClockCall) (g g' : State) : Prop where
  numrecvd : g'.numrecvd = g.numrecvd
  lastreplymac : g'.lastreplymac = g.lastreplymac
  dupfound : g'.dupfound = g.dupfound
  stats : g'.stats = g.stats
  timeToDie : clk.Succeeds → g'.timeToDie = g.timeToDie

/-- Everything a sequence of packets does to the reply bookkeeping. -/
structure FilterSpec (cfg : Config) (batch : List Arrival) (g g' : State) : Prop where
  counted : g'.counted = g.counted ++ (replies cfg batch).map Arrival.packet
  numrecvd : g'.numrecvd = g.numrecvd + UInt32.ofNat (replies cfg batch).length
  lastreplymac : g'.lastreplymac =
    ((replies cfg batch).getLast?.map fun a => a.packet.srcmac).getD g.lastreplymac
  samples : g'.samples = g.samples ++ (replies cfg batch).map fun a => sampleOf a.clock g
  stats : g'.stats =
    ((replies cfg batch).map fun a => sampleOf a.clock g).foldl (fun s t => updateStats t s) g.stats
  timeToDie : g'.timeToDie = true ↔
    g.timeToDie = true ∨ ReachesMax cfg batch g ∨ ∃ a ∈ batch, ¬ a.clock.Succeeds
  rejected : ∀ l a r, batch = l ++ a :: r → ¬ WireReply cfg a.packet →
    Rejected a.clock (handleAll (pingipRecv cfg) l g) (handleAll (pingipRecv cfg) (l ++ [a]) g)

theorem reachesMax_nil (cfg : Config) (g : State) : ¬ ReachesMax cfg [] g := by
  rintro ⟨l, a, r, h, -⟩
  simp at h

theorem reachesMax_cons (cfg : Config) (a : Arrival) (batch : List Arrival) (g : State) :
    ReachesMax cfg (a :: batch) g ↔
      (WireReply cfg a.packet ∧
        cfg.maxReplies ≤ (pingipRecv cfg a.packet a.clock g).numrecvd) ∨
      ReachesMax cfg batch (pingipRecv cfg a.packet a.clock g) := by
  constructor
  · rintro ⟨l, b, r, h, hb, hmax⟩
    obtain ⟨rfl, h⟩ | ⟨l, rfl, rfl⟩ := List.cons_eq_append_iff.mp h
    · obtain ⟨rfl, -⟩ := List.cons.inj h
      exact Or.inl ⟨hb, hmax⟩
    · exact Or.inr ⟨l, b, r, rfl, hb, hmax⟩
  · rintro (⟨ha, hmax⟩ | ⟨l, b, r, rfl, hb, hmax⟩)
    · exact ⟨[], a, batch, rfl, ha, hmax⟩
    · exact ⟨a :: l, b, r, rfl, hb, hmax⟩

theorem replies_cons_reply {cfg : Config} {a : Arrival} (h : WireReply cfg a.packet)
    (batch : List Arrival) : replies cfg (a :: batch) = a :: replies cfg batch :=
  List.filter_cons_of_pos (decide_eq_true h)

theorem replies_cons_other {cfg : Config} {a : Arrival} (h : ¬ WireReply cfg a.packet)
    (batch : List Arrival) : replies cfg (a :: batch) = replies cfg batch :=
  List.filter_cons_of_neg (by simpa using h)

theorem sampleOf_congr {g g' : State} (h : g'.lastpacketsent = g.lastpacketsent)
    (clk : ClockCall) : sampleOf clk g' = sampleOf clk g := by
  rw [sampleOf, h, sampleOf]

theorem rejected_afterArrival (p : Packet) (clk : ClockCall) (g : State) :
    Rejected clk g (afterArrival p clk g) := by
  have h := afterArrival_arrives p clk g
  refine ⟨h.numrecvd, h.lastreplymac, h.dupfound, h.stats, fun hok => ?_⟩
  rw [h.timeToDie, decide_eq_true hok]
  exact Bool.or_false _

section Sequences

variable {cfg : Config} {a : Arrival} {batch : List Arrival} {g g' : State}

/-- A reply in front. -/
theorem FilterSpec.cons_reply (hp : WireReply cfg a.packet)
    (hstep : CountsArp cfg a.packet a.packet.srcmac (sampleOf a.clock g)
      (afterArrival a.packet a.clock g) (pingipRecv cfg a.packet a.clock g))
    (h : FilterSpec cfg batch (pingipRecv cfg a.packet a.clock g) g') :
    FilterSpec cfg (a :: batch) g g' := by
  have harr := afterArrival_arrives a.packet a.clock g
  have hsample : (fun b : Arrival => sampleOf b.clock (pingipRecv cfg a.packet a.clock g)) =
      fun b => sampleOf b.clock g :=
    funext fun b => sampleOf_congr (hstep.lastpacketsent.trans harr.lastpacketsent) b.clock
  have hr := replies_cons_reply hp batch
  constructor
  · rw [h.counted, hstep.counted, harr.counted, hr, List.map_cons, List.append_assoc]
    rfl
  · rw [h.numrecvd, hstep.numrecvd, harr.numrecvd, hr, List.length_cons, UInt32.ofNat_add,
      UInt32.add_assoc, UInt32.add_comm 1]
    rfl
  · rw [h.lastreplymac, hstep.lastreplymac, hr, List.getLast?_cons]
    cases (replies cfg batch).getLast? <;> rfl
  · rw [h.samples, hstep.samples, harr.samples, hsample, hr, List.map_cons, List.append_assoc]
    rfl
  · rw [h.stats, hstep.stats, harr.stats, hsample, hr, List.map_cons, List.foldl_cons]
  · rw [h.timeToDie, hstep.timeToDie, harr.timeToDie, reachesMax_cons, hstep.numrecvd]
    simp only [Bool.or_eq_true, Bool.not_eq_true', decide_eq_false_iff_not, decide_eq_true_eq,
      List.mem_cons, exists_eq_or_imp, hp, true_and]
    tauto
  · intro l b r hl hb
    obtain ⟨rfl, hcons⟩ | ⟨l, rfl, hbatch⟩ := List.cons_eq_append_iff.mp hl
    · obtain ⟨rfl, -⟩ := List.cons.inj hcons
      exact absurd hp hb
    · exact h.rejected l b r hbatch hb

/-- Anything else in front. -/
theorem FilterSpec.cons_other (hp : ¬ WireReply cfg a.packet)
    (hstep : pingipRecv cfg a.packet a.clock g = afterArrival a.packet a.clock g)
    (h : FilterSpec cfg batch (pingipRecv cfg a.packet a.clock g) g') :
    FilterSpec cfg (a :: batch) g g' := by
  have harr := afterArrival_arrives a.packet a.clock g
  rw [← hstep] at harr
  have hsample : (fun b : Arrival => sampleOf b.clock (pingipRecv cfg a.packet a.clock g)) =
      fun b => sampleOf b.clock g :=
    funext fun b => sampleOf_congr harr.lastpacketsent b.clock
  have hr := replies_cons_other hp batch
  constructor
  · rw [h.counted, harr.counted, hr]
  · rw [h.numrecvd, harr.numrecvd, hr]
  · rw [h.lastreplymac, harr.lastreplymac, hr]
  · rw [h.samples, harr.samples, hsample, hr]
  · rw [h.stats, harr.stats, hsample, hr]
  · rw [h.timeToDie, harr.timeToDie, reachesMax_cons]
    simp only [Bool.or_eq_true, Bool.not_eq_true', decide_eq_false_iff_not, List.mem_cons,
      exists_eq_or_imp, hp, false_and, false_or]
    tauto
  · intro l b r hl hb
    obtain ⟨rfl, hcons⟩ | ⟨l, rfl, hbatch⟩ := List.cons_eq_append_iff.mp hl
    · obtain ⟨rfl, -⟩ := List.cons.inj hcons
      show Rejected b.clock g (pingipRecv cfg b.packet b.clock g)
      rw [hstep]
      exact rejected_afterArrival b.packet b.clock g
    · exact h.rejected l b r hbatch hb

end Sequences

theorem FilterSpec.nil (cfg : Config) (g : State) : FilterSpec cfg [] g g := by
  refine ⟨(List.append_nil _).symm, (UInt32.add_zero _).symm, rfl, (List.append_nil _).symm, rfl,
    ?_, ?_⟩
  · simp [reachesMax_nil]
  · intro l a r h
    simp at h

/-- **The filter.** From any state, a sequence of untagged packets with at least 54 captured bytes
each does what its wire-format replies do, and nothing else but for a failing clock. -/
theorem handleAll_filter {cfg : Config} (hv : cfg.vlanTag < 0) (ha : cfg.addrMustBeSame = false)
    {batch : List Arrival} (hlen : ∀ a ∈ batch, 54 ≤ a.packet.caplen.toNat) (g : State) :
    FilterSpec cfg batch g (handleAll (pingipRecv cfg) batch g) := by
  induction batch generalizing g with
  | nil => exact FilterSpec.nil cfg g
  | cons a batch ih =>
    have ih' := ih (fun b hb => hlen b (List.mem_cons_of_mem a hb))
      (pingipRecv cfg a.packet a.clock g)
    have ha54 := hlen a List.mem_cons_self
    rw [handleAll_cons]
    by_cases hp : WireReply cfg a.packet
    · exact ih'.cons_reply hp (pingipRecv_reply hv ha ha54 hp a.clock g)
    · exact ih'.cons_other hp (pingipRecv_other hv ha ha54 hp a.clock g)

theorem handleAll_filter_reply_request :
    FilterSpec ipConfig [⟨arpReplyFrame 7, readingAt 5⟩, ⟨arpRequestFrame 7, readingAt 6⟩]
      State.init (handleAll (pingipRecv ipConfig)
        [⟨arpReplyFrame 7, readingAt 5⟩, ⟨arpRequestFrame 7, readingAt 6⟩] State.init) :=
  handleAll_filter (by decide) rfl
    (by simp only [List.mem_cons, List.not_mem_nil, or_false, forall_eq_or_imp, forall_eq]; decide)
    State.init

/-- A request, which is rejected, sets `time_to_die` when `gettimeofday` fails. -/
theorem arpRequest_failing_clock :
    54 ≤ (arpRequestFrame 7).caplen.toNat ∧ ¬ WireReply ipConfig (arpRequestFrame 7) ∧
      State.init.timeToDie = false ∧
      (handleAll (pingipRecv ipConfig) [⟨arpRequestFrame 7, .fail ⟨0, 0⟩⟩] State.init).timeToDie =
        true ∧
      (handleAll (pingipRecv ipConfig) [⟨arpRequestFrame 7, .fail ⟨0, 0⟩⟩] State.init).numrecvd =
        0 := by
  decide

end Arping
