import Arping.Duplicates
import Arping.RequestSequence
import Arping.RunStatistics

/-!
# What a run amounts to

Seen from outside, a run is a journal: requests are written, packets arrive, and a wait passes
without any reply. `Session` computes from the journal alone what the run has to show for it, with
no loop, no batches, no clock and no machine integers. `Explains` relates a journal to the globals,
and every reachable situation is explained by one (`reachable_explained`): how the packets were
dispatched and where signals came in between makes no difference. The messages of `-v` are not part
of it.
-/

namespace Arping

open ByteReader

/-! ## Journals -/

/-- What happens in a run: a request is written, at `stamp`; a packet arrives, at `time`; a wait
ends in which no reply was counted. -/
inductive JournalEntry
  | request (stamp : Timespec)
  | arrival (p : Packet) (time : Timespec)
  | silence

/-- A counted reply: the packet, the time of the last request and of its arrival, and the number of
requests written until then. -/
structure Reply where
  packet : Packet
  stamp : Timespec
  time : Timespec
  requests : ℕ

/-- The round-trip time in seconds. -/
def Reply.rtt (r : Reply) : ℚ := timespec2dbl r.time - timespec2dbl r.stamp

/-- The line printed for the reply with the index `index`. -/
def Reply.line (cfg : Config) (index : ℕ) (r : Reply) : List Output :=
  match cfg.mode with
  | .pingip =>
    match cfg.display with
    | .dot => [.bang]
    | .normal => [.ipReply r.packet.len r.packet.srcmac cfg.dstip (.ofNat index)
        (if cfg.alsototal then some (.ofNat r.requests - 1) else none) r.stamp r.time]
    | .quiet => []
    | .rawraw => [.macIp r.packet.srcmac cfg.dstip]
    | .rraw => [.ip cfg.dstip]
    | .raw => [.mac r.packet.srcmac]
  | _ =>
    let src := cfg.host.load32 (bytesAt r.packet.byte (shiftEther + ipSrc) 4)
    let seq := be16 r.packet.byte (shiftEther + libnetIpv4H + icmpSeq)
    match cfg.display with
    | .dot => [.bang]
    | .normal => [.macReply r.packet.len src cfg.srcmac (.ofNat seq) r.stamp r.time]
    | .quiet => []
    | .rawraw => [.macIp cfg.srcmac src]
    | .rraw => [.mac cfg.srcmac]
    | .raw => [.ip src]

theorem Reply.line_forReply (cfg : Config) (index : ℕ) (r : Reply) :
    ∀ o ∈ r.line cfg index, o.ForReply := by
  intro o ho
  unfold Reply.line at ho
  cases hm : cfg.mode <;> cases hd : cfg.display <;> rw [hm, hd] at ho <;>
    simp only [List.mem_singleton, List.not_mem_nil] at ho <;> rw [ho] <;> trivial

/-- What a wait without a reply prints. -/
def silenceOutputs (cfg : Config) : List Output :=
  (if cfg.reverseBeep then [.bell] else []) ++
    match cfg.display with
    | .normal => [.timeout]
    | .dot => [.dot]
    | _ => []

instance (cfg : Config) : DecidablePred (Accepts cfg) := fun p => by
  unfold Accepts
  split <;> infer_instance

/-! ## Sessions -/

/-- The requests so far and the time of the last one, the replies, and what is printed. -/
structure Session where
  requests : ℕ
  stamp : Timespec
  replies : List Reply
  printed : List Output

namespace Session

def start : Session := ⟨0, ⟨0, 0⟩, [], []⟩

/-- The reply that a packet would be. -/
def reply (s : Session) (p : Packet) (time : Timespec) : Reply := ⟨p, s.stamp, time, s.requests⟩

def step (cfg : Config) (s : Session) : JournalEntry → Session
  | .request stamp => { s with requests := s.requests + 1, stamp := stamp }
  | .arrival p time =>
    if Accepts cfg p then
      { s with
        replies := s.replies ++ [s.reply p time]
        printed := s.printed ++
          replyOutputs cfg ((s.reply p time).line cfg s.replies.length) }
    else s
  | .silence => { s with printed := s.printed ++ silenceOutputs cfg }

def run (cfg : Config) (js : List JournalEntry) : Session := js.foldl (step cfg) start

theorem run_append_singleton (cfg : Config) (js : List JournalEntry) (j : JournalEntry) :
    run cfg (js ++ [j]) = (run cfg js).step cfg j := by
  rw [run, List.foldl_append]
  rfl

end Session

/-! ## The events of a journal -/

/-- A call of `libnet_write`, or a packet handed to the handler. -/
def Event.outline? : Event → Option (Option Packet)
  | write _ => some none
  | handle p => some (some p)
  | _ => none

def JournalEntry.outline? : JournalEntry → Option (Option Packet)
  | request _ => some none
  | arrival p _ => some (some p)
  | silence => none

def Event.output? : Event → Option Output
  | print o => some o
  | _ => none

/-- What is printed in the loop, in order, the messages of `-v` apart. -/
def State.outputs (g : State) : List Output := g.trace.filterMap Event.output?

/-- The writes and the arrivals, in order. -/
def State.outline (g : State) : List (Option Packet) := g.trace.filterMap Event.outline?

/-- The journal accounts for the globals: it has the writes and arrivals of the run in their order,
and its session has the rest, the messages of `-v` apart. -/
structure Explains (cfg : Config) (js : List JournalEntry) (s : Point × State) : Prop where
  outline : s.2.outline = js.filterMap JournalEntry.outline?
  outputs : s.2.outputs = (Session.run cfg js).printed
  requests : s.1.written = (Session.run cfg js).requests
  numsent : s.2.numsent = .ofNat (Session.run cfg js).requests
  lastpacketsent : s.2.lastpacketsent = (Session.run cfg js).stamp
  counted : s.2.counted = (Session.run cfg js).replies.map Reply.packet
  samples : s.2.samples = (Session.run cfg js).replies.map Reply.rtt
  numrecvd : s.2.numrecvd = .ofNat (Session.run cfg js).replies.length
  stats : s.2.stats = feed ((Session.run cfg js).replies.map Reply.rtt)
  watches : cfg.mode = .pingip → Watches s.2
  max : (Session.run cfg js).replies ≠ [] →
    cfg.maxReplies.toNat ≤ (Session.run cfg js).replies.length → s.2.timeToDie = true
  asked : ∀ r ∈ (Session.run cfg js).replies, 0 < r.requests

theorem State.outline_emit (e : Event) (g : State) :
    (g.emit e).outline = g.outline ++ e.outline?.toList := by
  rw [outline, emit_trace, List.filterMap_append]
  cases h : e.outline? <;> simp [outline, h]

theorem State.outputs_emit (e : Event) (g : State) :
    (g.emit e).outputs = g.outputs ++ e.output?.toList := by
  rw [outputs, emit_trace, List.filterMap_append]
  cases h : e.output? <;> simp [outputs, h]

theorem State.outline_prints (os : List Output) (g : State) :
    (g.prints os).outline = g.outline := by
  have hrec : Records (fun e => e.outline? = none) g (g.prints os) :=
    Records.prints (fun _ _ => rfl) g
  exact hrec.filterMap_eq fun _ h => h

theorem filterMap_output_map_print (os : List Output) :
    (os.map Event.print).filterMap Event.output? = os := by
  rw [List.filterMap_map]
  exact List.filterMap_some

theorem State.outputs_prints (os : List Output) (g : State) :
    (g.prints os).outputs = g.outputs ++ os := by
  rw [outputs, prints_trace, List.filterMap_append, filterMap_output_map_print]
  rfl

/-! ## A counted reply -/

section Reply

variable {cfg : Config} {p : Packet} {clk : ClockCall} {g : State}

/-- An acceptable reply to an IP ping yields its source address and the address pinged. -/
theorem run_pingipAccept_of_accepts (hmode : cfg.mode = .pingip) (h : Accepts cfg p) :
    (pingipAccept cfg p.caplen).run p.byte = some (p.srcmac, cfg.dstip) := by
  rw [accepts_pingip hmode] at h
  by_cases hv : 0 ≤ cfg.vlanTag
  · rw [run_pingipAccept_tagged hv] at h ⊢
    split at h
    · rename_i hm
      exact if_pos hm
    · cases h
  · rw [run_pingipAccept_untagged (Int16.not_le.mp hv)] at h ⊢
    split at h
    · rename_i hm
      exact if_pos hm
    · cases h

theorem afterArrival_trace (p : Packet) (clk : ClockCall) (g : State) :
    (afterArrival p clk g).trace = g.trace ++ [.handle p] := by
  cases clk <;> rfl

/-- What `pingip_recv` prints for `r`. -/
theorem ipReplyLine_eq {r : Reply} {index : ℕ} (hmode : cfg.mode = .pingip)
    (hnumrecvd : g.numrecvd = .ofNat index) (hnumsent : g.numsent = .ofNat r.requests)
    (hstamp : g.lastpacketsent = r.stamp) :
    ipReplyLine cfg r.packet r.packet.srcmac cfg.dstip r.time g = r.line cfg index := by
  unfold ipReplyLine Reply.line
  cases cfg.display <;> simp only [hmode, hnumrecvd, hnumsent, hstamp]

/-- What `pingmac_recv` prints for `r`. -/
theorem run_pingmacAccept_line {r : Reply} (hmode : cfg.mode ≠ .pingip)
    (h : Accepts cfg r.packet) (index : ℕ) :
    (pingmacAccept cfg r.packet.len r.stamp r.time).run r.packet.byte =
      some (r.line cfg index) := by
  rw [accepts_pingmac hmode r.packet r.stamp r.time] at h
  unfold pingmacAccept Reply.line at *
  dsimp only at *
  rw [run_get_bind, run_ite] at h ⊢
  split at h
  · cases h
  · rename_i htype
    rw [if_neg htype]
    cases hm : cfg.mode
    case pingip => exact absurd hm hmode
    all_goals
      cases cfg.display <;>
        simp only [run_bind, run_pure, run_field16, run_field32]

/-- The events of a counted reply, in either handler. -/
def replyEvents (p : Packet) (t : ℚ) (os : List Output) : List Event :=
  .handle p :: .sample t :: (os.map .print ++ [.count p])

theorem outline_replyEvents (p : Packet) (t : ℚ) (os : List Output) :
    (replyEvents p t os).filterMap Event.outline? = [some p] := by
  have hprints : (os.map Event.print).filterMap Event.outline? = [] :=
    List.filterMap_eq_nil_iff.mpr fun e he => by
      obtain ⟨o, -, rfl⟩ := List.mem_map.mp he
      rfl
  show some p :: (os.map Event.print ++ [Event.count p]).filterMap Event.outline? = [some p]
  rw [List.filterMap_append, hprints]
  rfl

theorem output_replyEvents (p : Packet) (t : ℚ) (os : List Output) :
    (replyEvents p t os).filterMap Event.output? = os := by
  show (os.map Event.print ++ [Event.count p]).filterMap Event.output? = os
  rw [List.filterMap_append, filterMap_output_map_print]
  exact List.append_nil os

theorem countReply_trace (cfg : Config) (p : Packet) (clk : ClockCall) (os : List Output)
    (g : State) :
    (countReply cfg p ((takeSample clk.timespec (afterArrival p clk g)).prints os)).trace =
      g.trace ++ replyEvents p (sampleOf clk g) os := by
  have harr := afterArrival_arrives p clk g
  rw [countReply_eq]
  show (afterArrival p clk g).trace ++ [.sample (sampleOf clk (afterArrival p clk g))] ++
    os.map .print ++ [.count p] = _
  rw [afterArrival_trace, sampleOf_afterArrival]
  simp [replyEvents]

/-- **The spec of the handlers.** What a call records for an acceptable packet. -/
theorem recvHandler_trace {r : Reply} {index : ℕ} (h : Accepts cfg r.packet)
    (htime : clk.timespec = r.time) (hnumrecvd : g.numrecvd = .ofNat index)
    (hnumsent : g.numsent = .ofNat r.requests) (hstamp : g.lastpacketsent = r.stamp) :
    (recvHandler cfg r.packet clk g).trace =
      g.trace ++ replyEvents r.packet (sampleOf clk g)
        (replyOutputs cfg (r.line cfg index)) := by
  have harr := afterArrival_arrives r.packet clk g
  have htrace := countReply_trace cfg r.packet clk (replyOutputs cfg (r.line cfg index)) g
  by_cases hmode : cfg.mode = .pingip
  · rw [recvHandler_pingip hmode]
    have hline := ipReplyLine_eq (g := takeSample r.time (afterArrival r.packet clk g)) hmode
      (harr.numrecvd.trans hnumrecvd) (harr.numsent.trans hnumsent)
      (harr.lastpacketsent.trans hstamp)
    have hrecv : pingipRecv cfg r.packet clk g =
        pingipReply cfg r.packet r.packet.srcmac cfg.dstip clk.timespec
          (afterArrival r.packet clk g) := by
      unfold pingipRecv
      rw [run_pingipAccept_of_accepts hmode h]
      rfl
    rw [countReply_eq, htime] at htrace
    rw [hrecv, htime]
    unfold pingipReply
    dsimp only
    rw [hline, checkDup_eq, countReply_eq]
    exact htrace
  · have hrecv : pingmacRecv cfg r.packet clk g = countReply cfg r.packet
        ((takeSample clk.timespec (afterArrival r.packet clk g)).prints
          (replyOutputs cfg (r.line cfg index))) := by
      have hline := run_pingmacAccept_line hmode h index
      rw [← hstamp, ← harr.lastpacketsent, ← htime] at hline
      unfold pingmacRecv
      dsimp only [getclock]
      split
      · rename_i hnone
        cases hline.symm.trans hnone
      · rename_i hsome
        cases hline.symm.trans hsome
        rfl
    rw [recvHandler_pingmac hmode, hrecv]
    exact htrace

end Reply

/-! ## Moves and entries -/

theorem ofNat_succ (n : ℕ) : UInt32.ofNat (n + 1) = UInt32.ofNat n + 1 := by
  rw [UInt32.ofNat_add]
  rfl

section Moves

variable {cfg : Config} {js : List JournalEntry} {pt pt' : Point} {g g' : State}

/-- A move that the journal does not mention. -/
theorem Explains.of_same (h : Explains cfg js (pt, g)) (hsame : SameReceived g g')
    (houtline : g'.outline = g.outline) (houtputs : g'.outputs = g.outputs)
    (hnumsent : g'.numsent = g.numsent) (hstamp : g'.lastpacketsent = g.lastpacketsent)
    (hdie : g.timeToDie = true → g'.timeToDie = true) (hwritten : pt'.written = pt.written) :
    Explains cfg js (pt', g') where
  outline := houtline.trans h.outline
  outputs := houtputs.trans h.outputs
  requests := hwritten.trans h.requests
  numsent := hnumsent.trans h.numsent
  lastpacketsent := hstamp.trans h.lastpacketsent
  counted := hsame.counted.trans h.counted
  samples := hsame.samples.trans h.samples
  numrecvd := hsame.numrecvd.trans h.numrecvd
  stats := hsame.stats.trans h.stats
  watches := fun hmode => (h.watches hmode).of_same hsame
  max := fun hne hmax => hdie (h.max hne hmax)
  asked := h.asked

/-- To a point with the same number of writes. -/
theorem Explains.goto (h : Explains cfg js (pt, g)) (hwritten : pt'.written = pt.written) :
    Explains cfg js (pt', g) :=
  h.of_same (.refl g) rfl rfl rfl rfl id hwritten

theorem Explains.emit (h : Explains cfg js (pt, g)) {e : Event} (hsame : SameReceived g (g.emit e))
    (houtline : e.outline? = none) (houtput : e.output? = none)
    (hwritten : pt'.written = pt.written) : Explains cfg js (pt', g.emit e) := by
  refine h.of_same hsame ?_ ?_ rfl rfl id hwritten
  · rw [State.outline_emit, houtline, Option.toList_none, List.append_nil]
  · rw [State.outputs_emit, houtput, Option.toList_none, List.append_nil]

/-- A request is written. -/
theorem Explains.write {c : UInt32} (h : Explains cfg js (.write c, g)) (ok : Bool)
    (stamp : Timespec) :
    Explains cfg (js ++ [.request stamp]) (.wait c, writeStamped ok stamp g) := by
  have hemit := SameReceived.emit (e := .write ok) rfl rfl rfl g
  have hsame : SameReceived g (writeStamped ok stamp g) :=
    hemit.trans ⟨rfl, rfl, rfl, rfl, rfl, rfl, rfl⟩
  have hrun := Session.run_append_singleton cfg js (.request stamp)
  constructor <;> try rw [hrun]
  case outline =>
    rw [List.filterMap_append, ← h.outline]
    exact State.outline_emit (.write ok) g
  case outputs =>
    rw [Session.step, ← h.outputs]
    exact (State.outputs_emit (.write ok) g).trans (List.append_nil _)
  case requests =>
    rw [Session.step, ← h.requests]
    rfl
  case numsent =>
    show g.numsent + 1 = _
    rw [h.numsent, ← ofNat_succ]
    rfl
  case lastpacketsent => rfl
  case counted => exact hsame.counted.trans h.counted
  case samples => exact hsame.samples.trans h.samples
  case numrecvd => exact hsame.numrecvd.trans h.numrecvd
  case stats => exact hsame.stats.trans h.stats
  case watches => exact fun hmode => (h.watches hmode).of_same hsame
  case max => exact h.max
  case asked => exact h.asked

/-- `select` times out: a wait without a reply is reported, any other passes in silence. -/
theorem Explains.timeout (h : Explains cfg js (pt, g)) (old : UInt32)
    (hwritten : pt'.written = pt.written) :
    ∃ js', Explains cfg js' (pt', g.prints (timeoutOutputs cfg old g)) := by
  have hsame := SameReceived.prints (timeoutOutputs cfg old g) g
  have hout := State.outputs_prints (timeoutOutputs cfg old g) g
  have houtline := State.outline_prints (timeoutOutputs cfg old g) g
  by_cases hold : g.numrecvd = old
  · have hsilence : timeoutOutputs cfg old g = silenceOutputs cfg := if_pos hold
    have hrun := Session.run_append_singleton cfg js .silence
    refine ⟨js ++ [.silence], ?_⟩
    constructor <;> try rw [hrun]
    case outline =>
      rw [houtline, h.outline, List.filterMap_append]
      exact (List.append_nil _).symm
    case outputs =>
      rw [hout, hsilence, h.outputs]
      rfl
    case requests => exact hwritten.trans h.requests
    case numsent => exact h.numsent
    case lastpacketsent => exact h.lastpacketsent
    case counted => exact hsame.counted.trans h.counted
    case samples => exact hsame.samples.trans h.samples
    case numrecvd => exact h.numrecvd
    case stats => exact h.stats
    case watches => exact fun hmode => (h.watches hmode).of_same hsame
    case max => exact h.max
    case asked => exact h.asked
  · have hnone : timeoutOutputs cfg old g = [] := if_neg hold
    rw [hnone, List.append_nil] at hout
    exact ⟨js, h.of_same hsame houtline (by rw [hnone, hout]) rfl rfl id hwritten⟩

theorem recvHandler_watches_pingip (hmode : cfg.mode = .pingip) (p : Packet) (clk : ClockCall)
    (hg : Watches g) : Watches (recvHandler cfg p clk g) := by
  by_cases h : Accepts cfg p
  · rw [recvHandler_pingip hmode]
    exact (hg.afterArrival p clk).counts
      (pingipRecv_accept (run_pingipAccept_of_accepts hmode h) clk g)
  · rw [recvHandler_rejects h]
    exact hg.afterArrival p clk

/-- A packet that is not acceptable. -/
theorem Explains.reject {c old : UInt32} (h : Explains cfg js (.batch c old, g)) {p : Packet}
    (hp : ¬ Accepts cfg p) (clk : ClockCall) :
    Explains cfg (js ++ [.arrival p clk.timespec]) (.batch c old, recvHandler cfg p clk g) := by
  have harr := afterArrival_arrives p clk g
  have htrace : (recvHandler cfg p clk g).trace = (g.emit (.handle p)).trace := by
    rw [recvHandler_rejects hp, afterArrival_trace]
    rfl
  have hrun : Session.run cfg (js ++ [.arrival p clk.timespec]) = Session.run cfg js := by
    rw [Session.run_append_singleton, Session.step, if_neg hp]
  constructor <;> try rw [hrun]
  case outline =>
    rw [List.filterMap_append, ← h.outline]
    exact (congrArg (List.filterMap Event.outline?) htrace).trans (State.outline_emit (.handle p) g)
  case outputs =>
    rw [← h.outputs]
    exact (congrArg (List.filterMap Event.output?) htrace).trans
      ((State.outputs_emit (.handle p) g).trans (List.append_nil _))
  case requests => exact h.requests
  case numsent => exact (recvHandler_numsent cfg p clk g).trans h.numsent
  case lastpacketsent => exact (recvHandler_lastpacketsent cfg p clk g).trans h.lastpacketsent
  case watches => exact fun hmode => recvHandler_watches_pingip hmode p clk (h.watches hmode)
  case max => exact fun hne hmax => recvHandler_die (h.max hne hmax) cfg p clk
  case asked => exact h.asked
  all_goals rw [recvHandler_rejects hp]
  case counted => exact harr.counted.trans h.counted
  case samples => exact harr.samples.trans h.samples
  case numrecvd => exact harr.numrecvd.trans h.numrecvd
  case stats => exact harr.stats.trans h.stats

/-- `-C` is reached by one more reply. -/
theorem timeToDie_of_max {n : ℕ} {numrecvd maxReplies : UInt32} {die : Prop}
    (hnum : numrecvd = .ofNat n) (hmax : maxReplies.toNat ≤ n + 1)
    (hbefore : n ≠ 0 → maxReplies.toNat ≤ n → die) : die ∨ maxReplies ≤ numrecvd + 1 := by
  have hlt := maxReplies.toNat_lt
  by_cases hwrap : n + 1 < 2 ^ 32
  · right
    rw [UInt32.le_iff_toNat_le, hnum, ← ofNat_succ, UInt32.toNat_ofNat_of_lt' hwrap]
    exact hmax
  · exact Or.inl (hbefore (by omega) (by omega))

/-- An acceptable packet is a reply. -/
theorem Explains.accept {c old : UInt32} (h : Explains cfg js (.batch c old, g)) {p : Packet}
    (hp : Accepts cfg p) (clk : ClockCall) :
    Explains cfg (js ++ [.arrival p clk.timespec]) (.batch c old, recvHandler cfg p clk g) := by
  have harr := afterArrival_arrives p clk g
  have hcounts := recvHandler_counts hp clk g
  have hrequests : c.toNat + 1 = (Session.run cfg js).requests := h.requests
  obtain ⟨r, hr⟩ : ∃ r, (Session.run cfg js).reply p clk.timespec = r := ⟨_, rfl⟩
  have hrtt : sampleOf clk g = r.rtt := by
    rw [sampleOf, h.lastpacketsent, ← hr]
    rfl
  have htrace : (recvHandler cfg p clk g).trace = g.trace ++ replyEvents p (sampleOf clk g)
      (replyOutputs cfg (r.line cfg (Session.run cfg js).replies.length)) := by
    rw [← hr]
    exact recvHandler_trace (r := (Session.run cfg js).reply p clk.timespec) hp rfl h.numrecvd
      h.numsent h.lastpacketsent
  have hrun : Session.run cfg (js ++ [.arrival p clk.timespec]) =
      ⟨(Session.run cfg js).requests, (Session.run cfg js).stamp,
        (Session.run cfg js).replies ++ [r],
        (Session.run cfg js).printed ++
          replyOutputs cfg (r.line cfg (Session.run cfg js).replies.length)⟩ := by
    rw [Session.run_append_singleton, Session.step, if_pos hp, hr]
  constructor <;> try rw [hrun]
  case outline =>
    rw [List.filterMap_append, ← h.outline, State.outline, htrace, List.filterMap_append,
      outline_replyEvents]
    rfl
  case outputs =>
    rw [State.outputs, htrace, List.filterMap_append, output_replyEvents, ← h.outputs]
    rfl
  case requests => exact hrequests
  case numsent => exact (recvHandler_numsent cfg p clk g).trans h.numsent
  case lastpacketsent => exact (recvHandler_lastpacketsent cfg p clk g).trans h.lastpacketsent
  case counted =>
    rw [hcounts.counted, harr.counted, h.counted, List.map_append, ← hr]
    rfl
  case samples =>
    rw [hcounts.samples, harr.samples, h.samples, List.map_append, hrtt]
    rfl
  case numrecvd =>
    rw [hcounts.numrecvd, harr.numrecvd, h.numrecvd, List.length_append, List.length_singleton,
      ofNat_succ]
  case stats =>
    rw [hcounts.stats, harr.stats, h.stats, List.map_append, hrtt]
    exact (feed_append _ _).symm
  case watches => exact fun hmode => recvHandler_watches_pingip hmode p clk (h.watches hmode)
  case max =>
    intro _ hmax
    rw [List.length_append, List.length_singleton] at hmax
    have hdie : g.timeToDie = true ∨ cfg.maxReplies ≤ g.numrecvd + 1 :=
      timeToDie_of_max h.numrecvd hmax fun hne hle =>
        h.max (fun hnil => hne (congrArg List.length hnil)) hle
    rw [hcounts.timeToDie, harr.timeToDie, harr.numrecvd, Bool.or_eq_true, Bool.or_eq_true,
      decide_eq_true_eq]
    exact hdie.imp Or.inl id
  case asked =>
    intro r' hr'
    rcases List.mem_append.mp hr' with hr' | hr'
    · exact h.asked r' hr'
    · rw [List.mem_singleton.mp hr', ← hr]
      show 0 < (Session.run cfg js).requests
      omega

end Moves

/-! ## Every run is explained -/

theorem explains_init (cfg : Config) : Explains cfg [] (.test 0, State.init) where
  outline := rfl
  outputs := rfl
  requests := rfl
  numsent := rfl
  lastpacketsent := rfl
  counted := rfl
  samples := rfl
  numrecvd := rfl
  stats := rfl
  watches := fun _ => watches_init
  max := fun hne => absurd rfl hne
  asked := fun _ hr => by cases hr

/-- Each move adds at most one entry to the journal. -/
theorem Explains.move {cfg : Config} {js : List JournalEntry} {s s' : Point × State}
    (h : Explains cfg js s) (hs : InOrder cfg s) (hmove : Move cfg s s') :
    ∃ js', Explains cfg js' s' := by
  cases hmove with
  | sigint pt g => exact ⟨js, h.of_same (.sigint g) rfl rfl rfl rfl (fun _ => rfl) rfl⟩
  | test htest => exact ⟨js, h.goto rfl⟩
  | request c id g => exact ⟨js, h.emit (.emit rfl rfl rfl g) rfl rfl rfl⟩
  | write c ok stamp g => exact ⟨_, h.write ok stamp⟩
  | listen c g => exact ⟨js, h.goto rfl⟩
  | check halive => exact ⟨js, h.goto rfl⟩
  | select c old call g => exact ⟨js, h.emit (.emit rfl rfl rfl g) rfl rfl rfl⟩
  | again c old g => exact ⟨js, h.goto rfl⟩
  | timeout c old g => exact h.timeout old (succ_toNat hs.begun)
  | dispatch c old g => exact ⟨js, h.emit (.emit rfl rfl rfl g) rfl rfl rfl⟩
  | handle c old p clk g =>
    by_cases hp : Accepts cfg p
    · exact ⟨_, h.accept hp clk⟩
    · exact ⟨_, h.reject hp clk⟩
  | drained c old g => exact ⟨js, h.goto rfl⟩
  | close c old g => exact ⟨js, h.goto (succ_toNat hs.begun)⟩

theorem Reachable.explained {cfg : Config} {s : Point × State} (h : Reachable cfg s) :
    InOrder cfg s ∧ ∃ js, Explains cfg js s :=
  h.invariant (I := fun s => InOrder cfg s ∧ ∃ js, Explains cfg js s)
    ⟨inOrder_init cfg, [], explains_init cfg⟩
    fun _ _ hs hmove => ⟨hs.1.move hmove, hs.2.elim fun _ hjs => hjs.move hs.1 hmove⟩

/-- **Refinement.** Every reachable situation, and so every run, is explained by a journal: the
counters, the statistics, the duplicate check, what is counted and what is printed, the messages of
`-v` apart, depend only on when requests were written and packets arrived, and on which waits passed
without a reply. -/
theorem reachable_explained {cfg : Config} {s : Point × State} (h : Reachable cfg s) :
    ∃ js, Explains cfg js s :=
  h.explained.2

theorem reachable_explained_run :
    ∃ pt js, Explains ipConfig js
      (pt, (pingLoop ipConfig (runOf [[arpReplyFrame 7], []]) State.init).state.2) := by
  obtain ⟨pt, hreach⟩ := pingLoop_reachable ipConfig (runOf [[arpReplyFrame 7], []])
  exact ⟨pt, reachable_explained hreach⟩

end Arping
