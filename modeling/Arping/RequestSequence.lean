import Arping.Machine
import Arping.StopAfterReplies

/-!
# The sequence of requests

Whatever fails and whenever a signal arrives, the requests of a run are those of `requests`: in IP
mode the same who-has again and again, in MAC mode echo requests that count up from 0
(`reachable_requests`). A request is handed to libnet before it is written, and `numsent` counts the
writes.
-/

namespace Arping

/-! ## Projections -/

def Event.written? : Event → Option Bool
  | write ok => some ok
  | _ => none

/-- What the calls of `libnet_write` returned, in order. -/
def State.written (g : State) : List Bool := g.trace.filterMap Event.written?

/-- `g'` has sent and written what `g` has. -/
structure SameSent (g g' : State) : Prop where
  sent : g'.sent = g.sent
  written : g'.written = g.written
  numsent : g'.numsent = g.numsent

theorem Event.sent?_of_ofHandler (e : Event) (h : e.OfHandler) : e.sent? = none :=
  e.sent?_of_passive (e.passive_of_ofHandler h)

theorem Event.written?_of_ofHandler (e : Event) (h : e.OfHandler) : e.written? = none := by
  cases e with
  | write ok => exact absurd h id
  | _ => rfl

theorem State.written_emit (e : Event) (g : State) :
    (g.emit e).written = g.written ++ e.written?.toList := by
  rw [written, emit_trace, List.filterMap_append]
  cases h : e.written? <;> simp [written, h]

namespace SameSent

theorem refl (g : State) : SameSent g g := ⟨rfl, rfl, rfl⟩

theorem emit {e : Event} (hs : e.sent? = none) (hw : e.written? = none) (g : State) :
    SameSent g (g.emit e) := by
  refine ⟨?_, ?_, rfl⟩
  · rw [State.sent_emit, hs, Option.toList_none, List.append_nil]
  · rw [State.written_emit, hw, Option.toList_none, List.append_nil]

theorem prints (os : List Output) (g : State) : SameSent g (g.prints os) := by
  have hrec : Records (fun e => e.sent? = none ∧ e.written? = none) g (g.prints os) :=
    Records.prints (fun _ _ => ⟨rfl, rfl⟩) g
  exact ⟨hrec.filterMap_eq fun _ h => h.1, hrec.filterMap_eq fun _ h => h.2, rfl⟩

theorem handler (cfg : Config) (p : Packet) (clk : ClockCall) (g : State) :
    SameSent g (recvHandler cfg p clk g) := by
  have hrec := recvHandler_records cfg p clk g
  exact ⟨hrec.filterMap_eq Event.sent?_of_ofHandler, hrec.filterMap_eq Event.written?_of_ofHandler,
    recvHandler_numsent cfg p clk g⟩

end SameSent

/-! ## The sequence -/

/-- The requests of a run in which `rand` yields `ids`. -/
def requests (cfg : Config) (ids : List UInt16) : List Request :=
  ids.zipIdx.map fun x => requestOf cfg x.1 (UInt32.ofNat x.2)

theorem requests_append_singleton (cfg : Config) (ids : List UInt16) (id : UInt16) :
    requests cfg (ids ++ [id]) = requests cfg ids ++ [requestOf cfg id (.ofNat ids.length)] := by
  rw [requests, List.zipIdx_append, List.map_append, List.zipIdx_singleton, List.map_singleton,
    Nat.zero_add]
  rfl

namespace Point

/-- How many rounds have begun, how many requests are built, and how many are written. -/
def begun : Point → ℕ
  | test c => c.toNat
  | request c | write c | wait c | check c _ | select c _ | answer c _ | batch c _ => c.toNat + 1

def built : Point → ℕ
  | test c | request c => c.toNat
  | write c | wait c | check c _ | select c _ | answer c _ | batch c _ => c.toNat + 1

def written : Point → ℕ
  | test c | request c | write c => c.toNat
  | wait c | check c _ | select c _ | answer c _ | batch c _ => c.toNat + 1

theorem built_le_begun (pt : Point) : pt.built ≤ pt.begun := by
  cases pt <;> simp [built, begun]

theorem written_le_built (pt : Point) : pt.written ≤ pt.built := by
  cases pt <;> simp [written, built]

theorem built_le_written (pt : Point) : pt.built ≤ pt.written + 1 := by
  cases pt <;> simp [written, built]

/-- Between the two calls. -/
def Writing : Point → Prop
  | write _ => True
  | _ => False

theorem written_eq_built_iff (pt : Point) : pt.written = pt.built ↔ ¬ pt.Writing := by
  cases pt <;> simp [written, built, Writing]

end Point

/-- The count of the loop tells what has been sent. -/
structure InOrder (cfg : Config) (s : Point × State) : Prop where
  sent : ∃ ids, s.2.sent = requests cfg ids ∧ ids.length = s.1.built
  written : s.2.written.length = s.1.written
  numsent : s.2.numsent = UInt32.ofNat s.1.written
  begun : s.1.begun ≤ cfg.maxcount.toNat

section

variable {cfg : Config} {pt pt' : Point} {g g' : State}

/-- A move that sends nothing, to a point with the same counts. -/
theorem InOrder.of_same (h : InOrder cfg (pt, g)) (hsame : SameSent g g')
    (hbegun : pt'.begun = pt.begun) (hbuilt : pt'.built = pt.built)
    (hwritten : pt'.written = pt.written) : InOrder cfg (pt', g') where
  sent := by
    obtain ⟨ids, hsent, hlen⟩ := h.sent
    exact ⟨ids, hsame.sent.trans hsent, hlen.trans hbuilt.symm⟩
  written := by rw [hsame.written, h.written, hwritten]
  numsent := by rw [hsame.numsent, h.numsent, hwritten]
  begun := hbegun.trans_le h.begun

theorem succ_toNat {c maxcount : UInt32} (h : c.toNat + 1 ≤ maxcount.toNat) :
    (c + 1).toNat = c.toNat + 1 := by
  have hmax := maxcount.toNat_lt
  rw [UInt32.toNat_add, UInt32.toNat_one]
  exact Nat.mod_eq_of_lt (by omega)

/-- `c++`, behind a round. -/
theorem InOrder.next {c old : UInt32} (h : InOrder cfg (.check c old, g)) (hsame : SameSent g g') :
    InOrder cfg (.test (c + 1), g') := by
  have hsucc := succ_toNat h.begun
  exact h.of_same hsame hsucc hsucc hsucc

theorem InOrder.move {s s' : Point × State} (h : InOrder cfg s) (hmove : Move cfg s s') :
    InOrder cfg s' := by
  cases hmove with
  | sigint pt g => exact h.of_same ⟨rfl, rfl, rfl⟩ rfl rfl rfl
  | @test c g htest =>
    unfold loopTest at htest
    rw [Bool.and_eq_true, decide_eq_true_eq] at htest
    exact ⟨h.sent, h.written, h.numsent, UInt32.lt_iff_toNat_lt.mp htest.1⟩
  | request c id g =>
    obtain ⟨ids, hsent, hlen⟩ := h.sent
    have hc : UInt32.ofNat ids.length = c := by
      rw [hlen]
      exact UInt32.ofNat_toNat
    have hemit : (g.emit (.send (requestOf cfg id c))).written = g.written := by
      rw [State.written_emit]
      exact List.append_nil _
    refine ⟨⟨ids ++ [id], ?_, ?_⟩, ?_, h.numsent, h.begun⟩
    · rw [requests_append_singleton, hc, ← hsent]
      exact State.sent_emit _ g
    · rw [List.length_append, List.length_singleton, hlen]
      rfl
    · exact (congrArg List.length hemit).trans h.written
  | write c ok stamp g =>
    have hsent : (writeStamped ok stamp g).sent = g.sent := by
      exact (State.sent_emit (.write ok) g).trans (List.append_nil _)
    have hwritten : (writeStamped ok stamp g).written = g.written ++ [ok] :=
      State.written_emit (.write ok) g
    refine ⟨?_, ?_, ?_, h.begun⟩
    · obtain ⟨ids, hids, hlen⟩ := h.sent
      exact ⟨ids, hsent.trans hids, hlen⟩
    · rw [hwritten, List.length_append, List.length_singleton, h.written]
      rfl
    · show g.numsent + 1 = UInt32.ofNat (c.toNat + 1)
      rw [UInt32.ofNat_add, h.numsent]
      rfl
  | listen c g => exact h.of_same (.refl g) rfl rfl rfl
  | check halive => exact h.of_same (.refl _) rfl rfl rfl
  | select c old call g => exact h.of_same (.emit rfl rfl g) rfl rfl rfl
  | again c old g => exact h.of_same (.refl g) rfl rfl rfl
  | timeout c old g =>
    exact InOrder.next (h.of_same (.refl g) rfl rfl rfl : InOrder cfg (.check c old, g))
      (.prints _ g)
  | dispatch c old g => exact h.of_same (.emit rfl rfl g) rfl rfl rfl
  | handle c old p clk g => exact h.of_same (.handler cfg p clk g) rfl rfl rfl
  | drained c old g => exact h.of_same (.refl g) rfl rfl rfl
  | close c old g => exact h.next (.refl g)

end

theorem inOrder_init (cfg : Config) : InOrder cfg (.test 0, State.init) :=
  ⟨⟨[], rfl, rfl⟩, rfl, rfl, Nat.zero_le _⟩

theorem reachable_inOrder {cfg : Config} {s : Point × State} (h : Reachable cfg s) :
    InOrder cfg s :=
  h.invariant (inOrder_init cfg) fun _ _ hs hmove => hs.move hmove

/-! ## In either mode -/

theorem requests_pingip {cfg : Config} (hmode : cfg.mode = .pingip) (ids : List UInt16) :
    requests cfg ids = List.replicate ids.length (arpRequest cfg) := by
  refine List.eq_replicate_iff.mpr ⟨by rw [requests, List.length_map, List.length_zipIdx], ?_⟩
  intro r hr
  obtain ⟨x, -, rfl⟩ := List.mem_map.mp hr
  unfold requestOf
  rw [hmode]

theorem requests_pingmac {cfg : Config} (hmode : cfg.mode ≠ .pingip) (ids : List UInt16) :
    requests cfg ids = ids.zipIdx.map fun x => echoRequest cfg x.1 (UInt16.ofNat x.2) := by
  refine List.map_congr_left fun x _ => ?_
  have hseq : (UInt32.ofNat x.2).toUInt16 = UInt16.ofNat x.2 := UInt32.toUInt16_ofNat
  unfold requestOf
  split
  · contradiction
  · rw [hseq]

/-- **The requests of a run.** In every reachable situation, at most `maxcount` requests are sent.
In IP mode they are all the same, in MAC mode the sequence number of each is its index, modulo `2 ^
16`. `numsent` is the number of writes, which is the number of requests except between the two
calls. -/
theorem reachable_requests {cfg : Config} {s : Point × State} (h : Reachable cfg s) :
    s.2.sent.length ≤ cfg.maxcount.toNat ∧
      (cfg.mode = .pingip → s.2.sent = List.replicate s.2.sent.length (arpRequest cfg)) ∧
      (cfg.mode ≠ .pingip → ∃ ids : List UInt16,
        s.2.sent = ids.zipIdx.map fun x => echoRequest cfg x.1 (UInt16.ofNat x.2)) ∧
      s.2.numsent = UInt32.ofNat s.2.written.length ∧
      s.2.written.length ≤ s.2.sent.length ∧ s.2.sent.length ≤ s.2.written.length + 1 ∧
      (s.2.written.length = s.2.sent.length ↔ ¬ s.1.Writing) := by
  have hs := reachable_inOrder h
  obtain ⟨ids, hsent, hlen⟩ := hs.sent
  have hcount : s.2.sent.length = ids.length := by
    rw [hsent, requests, List.length_map, List.length_zipIdx]
  refine ⟨?_, fun hmode => ?_, fun hmode => ⟨ids, ?_⟩, ?_, ?_, ?_, ?_⟩
  · rw [hcount, hlen]
    exact s.1.built_le_begun.trans hs.begun
  · rw [hcount, hsent, requests_pingip hmode]
  · rw [hsent, requests_pingmac hmode]
  · rw [hs.numsent, hs.written]
  · rw [hcount, hlen, hs.written]
    exact s.1.written_le_built
  · rw [hcount, hlen, hs.written]
    exact s.1.built_le_written
  · rw [hcount, hlen, hs.written]
    exact s.1.written_eq_built_iff

/-- Pinging 02:00:00:00:00:07 twice. -/
theorem reachable_requests_pingmac :
    let cfg := { ipConfig with mode := .pingmac, maxcount := 2 }
    let g := (pingLoop cfg (runOf [[], []]) State.init).state.2
    ∃ ids : List UInt16,
      g.sent = ids.zipIdx.map fun x => echoRequest cfg x.1 (UInt16.ofNat x.2) := by
  intro cfg g
  obtain ⟨pt, hreach⟩ := pingLoop_reachable cfg (runOf [[], []])
  exact (reachable_requests hreach).2.2.1 (by decide)

end Arping
