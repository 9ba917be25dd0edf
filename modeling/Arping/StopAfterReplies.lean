import Arping.Runs

/-!
# Stopping after `-C` replies

The handler that counts the last reply asked for sets `time_to_die`, from within `pcap_dispatch`.
From there on the run only winds down: the rest of the batch is handled, but no further request is
sent, no `select` is called and no batch begun (`pingLoop_stops`). The test comes behind
`numrecvd++` and is not reached by a rejected packet, so `-C 0` stops at the first reply and not
before it (`zeroReplies_goes_on`).
-/

namespace Arping

namespace Event

/-- No step by which the run would go on. -/
def Passive : Event → Prop
  | send _ => False
  | select _ => False
  | dispatch => False
  | _ => True

def sent? : Event → Option Request
  | send r => some r
  | _ => none

theorem passive_of_ofHandler (e : Event) (h : e.OfHandler) : e.Passive := by
  cases e with
  | send r => exact h
  | select c => exact h
  | dispatch => exact h
  | _ => trivial

theorem passive_of_isWrite (e : Event) (h : e.IsWrite) : e.Passive := by
  cases e with
  | write ok => trivial
  | _ => exact absurd h id

theorem sent?_of_passive (e : Event) (h : e.Passive) : e.sent? = none := by
  cases e with
  | send r => exact absurd h id
  | _ => rfl

end Event

/-- The requests sent, in order. -/
def State.sent (g : State) : List Request := g.trace.filterMap Event.sent?

/-- The number of replies counted in a trace. -/
def repliesIn (trace : List Event) : ℕ := (trace.filterMap Event.counted?).length

theorem repliesIn_append (l r : List Event) : repliesIn (l ++ r) = repliesIn l + repliesIn r := by
  rw [repliesIn, List.filterMap_append, List.length_append]
  rfl

/-- At least one reply is counted, and `numrecvd` has reached `max_replies`. -/
def Decisive (cfg : Config) (trace : List Event) : Prop :=
  0 < repliesIn trace ∧ cfg.maxReplies ≤ UInt32.ofNat (repliesIn trace)

theorem Decisive.congr {cfg : Config} {l l' : List Event} (h : repliesIn l = repliesIn l')
    (hl : Decisive cfg l) : Decisive cfg l' := by
  unfold Decisive at hl ⊢
  rwa [← h]

/-- `numrecvd` counts the replies, and behind the decisive one the run only winds down. -/
structure Stops (cfg : Config) (g : State) : Prop where
  numrecvd : g.numrecvd = UInt32.ofNat (repliesIn g.trace)
  after : ∀ l r, g.trace = l ++ r → Decisive cfg l → g.timeToDie = true ∧ ∀ e ∈ r, e.Passive

section Steps

variable {cfg : Config} {g g' : State}

theorem Stops.not_decisive (h : Stops cfg g) (halive : g.timeToDie = false) {l r : List Event}
    (heq : g.trace = l ++ r) : ¬ Decisive cfg l := by
  intro hl
  rw [(h.after l r heq hl).1] at halive
  cases halive

/-- Passive events, at most one of them a counted reply. -/
theorem Stops.extend (h : Stops cfg g) (hrec : Records Event.Passive g g')
    (hmono : g.timeToDie = true → g'.timeToDie = true)
    (hnum : g'.numrecvd = UInt32.ofNat (repliesIn g'.trace))
    (hone : repliesIn g'.trace ≤ repliesIn g.trace + 1)
    (hfinal : Decisive cfg g'.trace → g'.timeToDie = true) : Stops cfg g' := by
  obtain ⟨evs, htrace, hevs⟩ := hrec
  refine ⟨hnum, fun l r heq hl => ?_⟩
  rw [htrace] at heq
  rcases List.append_eq_append_iff.mp heq with ⟨m, hl', hr⟩ | ⟨m, hl', hr⟩
  · -- the decisive reply is one of the new events
    refine ⟨?_, fun e he => hevs e (by rw [hr]; exact List.mem_append_right m he)⟩
    have hlen : repliesIn l = repliesIn g.trace + repliesIn m := by rw [hl', repliesIn_append]
    have hlen' : repliesIn g'.trace = repliesIn l + repliesIn r := by
      rw [htrace, heq, repliesIn_append]
    by_cases hm : repliesIn m = 0
    · have hold : Decisive cfg g.trace := hl.congr (by omega)
      exact hmono (h.after g.trace [] (List.append_nil _).symm hold).1
    · exact hfinal (hl.congr (by omega))
  · obtain ⟨hdie, hr'⟩ := h.after l m hl' hl
    refine ⟨hmono hdie, fun e he => ?_⟩
    rw [hr] at he
    rcases List.mem_append.mp he with he | he
    · exact hr' e he
    · exact hevs e he

/-- A step by which the run goes on is taken only before the decisive reply. -/
theorem Stops.emit (h : Stops cfg g) (halive : g.timeToDie = false) {e : Event}
    (he : e.counted? = none) : Stops cfg (g.emit e) := by
  have hsame : repliesIn (g.trace ++ [e]) = repliesIn g.trace := by
    rw [repliesIn_append]
    simp [repliesIn, he]
  refine ⟨h.numrecvd.trans (congrArg UInt32.ofNat hsame.symm), fun l r heq hl => ?_⟩
  rw [State.emit_trace] at heq
  rcases List.append_eq_append_iff.mp heq with ⟨m, hl', hr⟩ | ⟨m, hl', hr⟩
  · have hlen : repliesIn g.trace = repliesIn l := by
      have hm : repliesIn m + repliesIn r = 0 := by
        rw [← repliesIn_append, ← hr]
        simp [repliesIn, he]
      rw [hl', repliesIn_append]
      omega
    exact absurd (hl.congr hlen.symm) (h.not_decisive halive (List.append_nil _).symm)
  · exact absurd hl (h.not_decisive halive hl')

/-- Passive steps without a counted reply. -/
theorem Stops.of_same (h : Stops cfg g) (hrec : Records Event.Passive g g')
    (hsame : SameReceived g g') (hmono : g.timeToDie = true → g'.timeToDie = true) :
    Stops cfg g' := by
  have hlen : repliesIn g'.trace = repliesIn g.trace := congrArg List.length hsame.counted
  refine h.extend hrec hmono ?_ (by omega) fun hfinal => ?_
  · rw [hsame.numrecvd, h.numrecvd, hlen]
  · exact hmono (h.after g.trace [] (List.append_nil _).symm (hfinal.congr hlen)).1

/-- A call of the handler. -/
theorem Stops.handler (h : Stops cfg g) (p : Packet) (clk : ClockCall) :
    Stops cfg (recvHandler cfg p clk g) := by
  have hrec := (recvHandler_records cfg p clk g).imp Event.passive_of_ofHandler
  have hmono : g.timeToDie = true → (recvHandler cfg p clk g).timeToDie = true :=
    fun hdie => recvHandler_die hdie cfg p clk
  have harr := afterArrival_arrives p clk g
  have hold : Decisive cfg g.trace → (recvHandler cfg p clk g).timeToDie = true :=
    fun hdec => hmono (h.after g.trace [] (List.append_nil _).symm hdec).1
  rcases recvHandler_cases cfg p clk g with hrej | hcount
  · have hlen : repliesIn (recvHandler cfg p clk g).trace = repliesIn g.trace := by
      rw [hrej]
      exact congrArg List.length harr.counted
    refine h.extend hrec hmono ?_ (by omega) fun hfinal => hold (hfinal.congr hlen)
    rw [hlen, hrej, harr.numrecvd, h.numrecvd]
  · have hlen : repliesIn (recvHandler cfg p clk g).trace = repliesIn g.trace + 1 := by
      have hcounted := congrArg List.length hcount.counted
      rwa [harr.counted, List.length_append] at hcounted
    have hnum : (recvHandler cfg p clk g).numrecvd =
        UInt32.ofNat (repliesIn (recvHandler cfg p clk g).trace) := by
      rw [hcount.numrecvd, harr.numrecvd, h.numrecvd, hlen, UInt32.ofNat_add]
      rfl
    refine h.extend hrec hmono hnum (by omega) fun hfinal => ?_
    -- the decisive reply: the handler itself sets the flag
    have hmax := hfinal.2
    rw [← hnum, hcount.numrecvd] at hmax
    rw [hcount.timeToDie, decide_eq_true hmax, Bool.or_true]

theorem Stops.receiveSteps (cfg : Config) :
    ReceiveSteps (recvHandler cfg) fun _ g => Stops cfg g where
  clock := fun _ clk g h => by
    refine h.of_same (Records.getclock clk g) (SameReceived.getclock clk g) fun hdie => ?_
    cases clk with
    | ok now => exact hdie
    | fail junk => rfl
  sigint := fun _ g h =>
    h.of_same (Records.of_trace_eq rfl) (SameReceived.sigint g) fun _ => rfl
  select := fun _ _ _ halive h => h.emit halive rfl
  dispatch := fun _ _ halive h => h.emit halive rfl
  prints := fun _ os g h =>
    h.of_same (Records.prints (fun _ _ => trivial) g) (SameReceived.prints os g) id
  handler := fun _ p clk _ h => h.handler p clk

end Steps

/-! ## Requests -/

theorem State.sent_emit (e : Event) (g : State) : (g.emit e).sent = g.sent ++ e.sent?.toList := by
  rw [sent, emit_trace, List.filterMap_append]
  cases h : e.sent? <;> simp [sent, h]

/-- In `ping_recv` nothing is sent. -/
theorem sent_receiveSteps (cfg : Config) (P : List Request → Prop) :
    ReceiveSteps (recvHandler cfg) fun _ g => P g.sent where
  clock := fun _ clk _ h => by cases clk <;> exact h
  sigint := fun _ _ h => h
  select := fun _ c g _ h => by
    rw [State.sent_emit]
    exact (List.append_nil g.sent).symm ▸ h
  dispatch := fun _ g _ h => by
    rw [State.sent_emit]
    exact (List.append_nil g.sent).symm ▸ h
  prints := fun _ os g h => by
    have hrec : Records Event.Passive g (g.prints os) := Records.prints (fun _ _ => trivial) g
    rw [State.sent, hrec.filterMap_eq Event.sent?_of_passive]
    exact h
  handler := fun _ p clk g h => by
    have hrec := (recvHandler_records cfg p clk g).imp Event.passive_of_ofHandler
    rw [State.sent, hrec.filterMap_eq Event.sent?_of_passive]
    exact h

/-- A sender sends one request. -/
theorem sendRequest_sent (cfg : Config) (c : UInt32) (env : SendEnv) (g : State) :
    (sendRequest cfg c env g).sent.length = g.sent.length + 1 := by
  obtain ⟨r, hrec⟩ := sendRequest_records cfg c env g
  have hsent := hrec.filterMap_eq fun e he => Event.sent?_of_passive e (e.passive_of_isWrite he)
  calc (sendRequest cfg c env g).sent.length = (g.emit (.send r)).sent.length :=
        congrArg List.length hsent
    _ = g.sent.length + 1 := by rw [State.sent_emit, List.length_append]; rfl

/-- A request is sent only while `time_to_die` is not set. -/
theorem Stops.sendRequest {cfg : Config} {g : State} (h : Stops cfg g)
    (halive : g.timeToDie = false) (c : UInt32) (env : SendEnv) :
    Stops cfg (sendRequest cfg c env g) := by
  obtain ⟨r, hrec⟩ := sendRequest_records cfg c env g
  have hsame := sendRequest_same cfg c env g
  have hsend : Stops cfg (g.emit (.send r)) := h.emit halive rfl
  have hemit : SameReceived g (g.emit (.send r)) := SameReceived.emit rfl rfl rfl g
  have hlen :
      repliesIn (Arping.sendRequest cfg c env g).trace = repliesIn (g.emit (.send r)).trace :=
    congrArg List.length (hsame.counted.trans hemit.counted.symm)
  refine hsend.extend (hrec.imp Event.passive_of_isWrite) (fun hdie => ?_) ?_ (by omega)
    fun hfinal => ?_
  · rw [State.emit_timeToDie, halive] at hdie
    cases hdie
  · rw [hsame.numrecvd, hlen, ← hsend.numrecvd, State.emit_numrecvd]
  · exact absurd (hfinal.congr hlen) (hsend.not_decisive halive (List.append_nil _).symm)

/-- The steps of a run: `c` requests are sent before the request number `c`, and one more behind
it. -/
theorem stops_runSteps (cfg : Config) :
    RunSteps cfg (fun c _ g => Stops cfg g ∧ g.sent.length = c.toNat ∧ c ≤ cfg.maxcount)
      fun c _ g => Stops cfg g ∧ g.sent.length = c.toNat + 1 ∧ c < cfg.maxcount where
  clock := fun ts clk g h => by
    refine ⟨(Stops.receiveSteps cfg).clock ts clk g h.1, ?_⟩
    cases clk <;> exact h.2
  sigint := fun ts g h => ⟨(Stops.receiveSteps cfg).sigint ts g h.1, h.2⟩
  send := fun c ts env g htest h => by
    unfold loopTest at htest
    rw [Bool.and_eq_true, decide_eq_true_eq, Bool.not_eq_true'] at htest
    refine ⟨h.1.sendRequest htest.2 c env, ?_, htest.1⟩
    rw [sendRequest_sent, h.2.1]
  receive := fun c => (Stops.receiveSteps cfg).and
    (sent_receiveSteps cfg fun sent => sent.length = c.toNat + 1 ∧ c < cfg.maxcount)
  next := fun c ts g h => by
    have hlt := UInt32.lt_iff_toNat_lt.mp h.2.2
    have hmax := cfg.maxcount.toNat_lt
    have hsucc : (c + 1).toNat = c.toNat + 1 := by
      rw [UInt32.toNat_add]
      exact Nat.mod_eq_of_lt (by simp; omega)
    refine ⟨h.1, h.2.1.trans hsucc.symm, ?_⟩
    rw [UInt32.le_iff_toNat_le, hsucc]
    exact hlt

theorem stops_init (cfg : Config) : Stops cfg State.init := by
  refine ⟨rfl, fun l r heq hl => ?_⟩
  have hnil : l = [] := (List.append_eq_nil_iff.mp heq.symm).1
  rw [hnil] at hl
  exact absurd hl.1 (lt_irrefl 0)

/-- **Stopping on `-C`.** In every reachable state `numrecvd` is the number of replies counted,
modulo `2 ^ 32`. Behind the point where at least one reply is counted and `numrecvd` is at least
`max_replies`, `time_to_die` is set, and no request is sent, no `select` called and no batch
begun, so what is handled belongs to the batch in progress. At most `maxcount` requests are
sent. -/
theorem pingLoop_stops (cfg : Config) (env : RunEnv) :
    let g := (pingLoop cfg env State.init).state.2
    g.numrecvd = UInt32.ofNat g.counted.length ∧
      (∀ l r, g.trace = l ++ r → Decisive cfg l →
        g.timeToDie = true ∧ ∀ e ∈ r, e.Passive) ∧
      g.sent.length ≤ cfg.maxcount.toNat := by
  intro g
  have hrun := pingLoop_steps (stops_runSteps cfg) env
    ⟨stops_init cfg, rfl, UInt32.le_iff_toNat_le.mpr (Nat.zero_le _)⟩
  have hfinal : Stops cfg g ∧ g.sent.length ≤ cfg.maxcount.toNat := by
    refine hrun.state (I := fun s => Stops cfg s.2 ∧ s.2.sent.length ≤ cfg.maxcount.toNat) ?_ ?_
    · rintro s ⟨-, hstops, hsent, hle⟩
      exact ⟨hstops, hsent.trans_le (UInt32.le_iff_toNat_le.mp hle)⟩
    · rintro - s (⟨-, hstops, hsent, hle⟩ | ⟨-, c, hstops, hsent, hlt⟩)
      · exact ⟨hstops, hsent.trans_le (UInt32.le_iff_toNat_le.mp hle)⟩
      · exact ⟨hstops, hsent.trans_le (UInt32.lt_iff_toNat_lt.mp hlt)⟩
  exact ⟨hfinal.1.numrecvd, hfinal.1.after, hfinal.2⟩

/-- With `-C 0` the handler call for a request leaves `numrecvd` at 0, which is not less than 0, and
the run goes on to the next request. -/
theorem zeroReplies_goes_on :
    let cfg := { ipConfig with maxReplies := 0, maxcount := 2 }
    let g := (pingLoop cfg (runOf [[arpRequestFrame 9]]) State.init).state.2
    let g' := (pingLoop cfg (runOf [[arpRequestFrame 9], []]) State.init).state.2
    g.handled.length = 1 ∧ cfg.maxReplies ≤ g.numrecvd ∧ g.timeToDie = false ∧
      g.sent.length = 1 ∧ g'.sent.length = 2 := by
  refine ⟨?_, ?_, ?_, ?_, ?_⟩ <;> decide +kernel

end Arping
