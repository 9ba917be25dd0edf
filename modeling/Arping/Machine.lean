import Arping.Runs

/-!
# The ping loop as a transition system

`Move` lists what the program can do next from each point of the ping loop. Between two moves a
signal may arrive or a call may fail at any time, also between a test of `time_to_die` and what the
test guards. Every run of `pingLoop` is a sequence of moves (`pingLoop_reachable`), so what holds of
all reachable situations of the transition system holds of all runs.
-/

namespace Arping

open ScriptLoop Relation

/-- Where a run stands: `c` is the count of the ping loop, `old` is `old_received`. -/
inductive Point
  /-- In front of the loop test, and behind it. -/
  | test (c : UInt32)
  | request (c : UInt32)
  /-- The packet is built, and written. -/
  | write (c : UInt32)
  | wait (c : UInt32)
  /-- In `ping_recv`: in front of the check for `sigint`, in front of `select`, and behind it. -/
  | check (c old : UInt32)
  | select (c old : UInt32)
  | answer (c old : UInt32)
  /-- In `pcap_dispatch`. -/
  | batch (c old : UInt32)

/-- The packet that the request number `c` hands to libnet. -/
def requestOf (cfg : Config) (id : UInt16) (c : UInt32) : Request :=
  match cfg.mode with
  | .pingip => arpRequest cfg
  | _ => echoRequest cfg id c.toUInt16

/-- The write, the time stamp behind it and `numsent++`. The stamp in front of it that `-vv` takes
is overwritten before anything reads it. -/
def writeStamped (ok : Bool) (stamp : Timespec) (g : State) : State :=
  { g.emit (.write ok) with lastpacketsent := stamp, numsent := g.numsent + 1 }

/-- One move. `sigint` is a signal or a failing call, and may come anywhere. -/
inductive Move (cfg : Config) : Point × State → Point × State → Prop
  | sigint (pt : Point) (g : State) : Move cfg (pt, g) (pt, sigint g)
  | test {c : UInt32} {g : State} (h : loopTest cfg c g = true) :
      Move cfg (.test c, g) (.request c, g)
  | request (c : UInt32) (id : UInt16) (g : State) :
      Move cfg (.request c, g) (.write c, g.emit (.send (requestOf cfg id c)))
  | write (c : UInt32) (ok : Bool) (stamp : Timespec) (g : State) :
      Move cfg (.write c, g) (.wait c, writeStamped ok stamp g)
  | listen (c : UInt32) (g : State) : Move cfg (.wait c, g) (.check c g.numrecvd, g)
  | check {c old : UInt32} {g : State} (h : g.timeToDie = false) :
      Move cfg (.check c old, g) (.select c old, g)
  | select (c old : UInt32) (call : SelectCall) (g : State) :
      Move cfg (.select c old, g) (.answer c old, g.emit (.select call))
  | again (c old : UInt32) (g : State) : Move cfg (.answer c old, g) (.check c old, g)
  | timeout (c old : UInt32) (g : State) :
      Move cfg (.answer c old, g) (.test (c + 1), g.prints (timeoutOutputs cfg old g))
  | dispatch (c old : UInt32) (g : State) :
      Move cfg (.answer c old, g) (.batch c old, g.emit .dispatch)
  | handle (c old : UInt32) (p : Packet) (clk : ClockCall) (g : State) :
      Move cfg (.batch c old, g) (.batch c old, recvHandler cfg p clk g)
  | drained (c old : UInt32) (g : State) : Move cfg (.batch c old, g) (.check c old, g)
  | close (c old : UInt32) (g : State) : Move cfg (.check c old, g) (.test (c + 1), g)

/-- A sequence of moves. -/
abbrev Moves (cfg : Config) : Point × State → Point × State → Prop := ReflTransGen (Move cfg)

/-- Reached from the start of the ping loop. -/
def Reachable (cfg : Config) (s : Point × State) : Prop :=
  Moves cfg (.test 0, State.init) s

/-- **The rule of reachable situations.** What holds at the start and is kept by each move. -/
theorem Reachable.invariant {cfg : Config} {I : Point × State → Prop}
    (hinit : I (.test 0, State.init)) (hmove : ∀ s s', I s → Move cfg s s' → I s')
    {s : Point × State} (h : Reachable cfg s) : I s := by
  unfold Reachable at h
  induction h with
  | refl => exact hinit
  | tail _ hlast ih => exact hmove _ _ ih hlast

/-- A property of the receive side, kept by the handler of the mode. -/
theorem Reachable.receive {cfg : Config} {I : State → Prop} (hinit : I State.init)
    (hsame : ∀ g g', SameReceived g g' → I g → I g')
    (hfunc : ∀ p clk g, I g → I (recvHandler cfg p clk g)) {s : Point × State}
    (h : Reachable cfg s) : I s.2 := by
  refine h.invariant (I := fun s => I s.2) hinit fun s s' hs hmove => ?_
  cases hmove with
  | sigint pt g => exact hsame g _ (.sigint g) hs
  | test htest => exact hs
  | request c id g => exact hsame g _ (.emit rfl rfl rfl g) hs
  | write c ok stamp g =>
    have hemit := SameReceived.emit (e := .write ok) rfl rfl rfl g
    exact hsame g _ (hemit.trans ⟨rfl, rfl, rfl, rfl, rfl, rfl, rfl⟩) hs
  | listen c g => exact hs
  | check halive => exact hs
  | select c old call g => exact hsame g _ (.emit rfl rfl rfl g) hs
  | again c old g => exact hs
  | timeout c old g => exact hsame g _ (.prints _ g) hs
  | dispatch c old g => exact hsame g _ (.emit rfl rfl rfl g) hs
  | handle c old p clk g => exact hfunc p clk g hs
  | drained c old g => exact hs
  | close c old g => exact hs

/-! ## Signals and the clock -/

section Bridge

variable {cfg : Config} {s₀ : Point × State} {pt : Point} {c old : UInt32} {g : State}

theorem moves_deliver (signal : Bool) (h : Moves cfg s₀ (pt, g)) :
    Moves cfg s₀ (pt, deliver signal g) := by
  cases signal with
  | true => exact h.tail (.sigint pt g)
  | false => exact h

theorem moves_getclock (clk : ClockCall) (h : Moves cfg s₀ (pt, g)) :
    Moves cfg s₀ (pt, (getclock clk g).2) := by
  cases clk with
  | ok now => exact h
  | fail junk => exact h.tail (.sigint pt g)

theorem moves_orSigint (ok : Bool) (h : Moves cfg s₀ (pt, g)) :
    Moves cfg s₀ (pt, orSigint ok g) := by
  cases ok with
  | true => exact h
  | false => exact h.tail (.sigint pt g)

theorem moves_waitTime (deadline : ℚ) (packetwait : UInt32) (clk : ClockCall)
    (h : Moves cfg s₀ (pt, g)) : Moves cfg s₀ (pt, (waitTime deadline packetwait clk g).2) := by
  have hclk := moves_getclock clk h
  unfold waitTime
  dsimp only
  split_ifs
  · exact h
  · exact hclk
  · exact hclk
  · exact hclk

/-! ## Sending -/

/-- Stamping twice is stamping once, but both calls may fail. -/
theorem writeRequest_eq (cfg : Config) (env : SendEnv) (g : State) :
    ∃ failed, writeRequest cfg env g =
      deliver failed (writeStamped env.writeOk env.clkAfter.timespec g) := by
  have hbefore : ∃ ts failed, (if 1 < cfg.verbose then stampSent env.clkBefore g else g) =
      { g with lastpacketsent := ts, timeToDie := g.timeToDie || failed } := by
    split
    · cases hclk : env.clkBefore with
      | ok now => exact ⟨_, false, by rw [Bool.or_false]; rfl⟩
      | fail junk => exact ⟨_, true, by rw [Bool.or_true]; rfl⟩
    · exact ⟨_, false, by rw [Bool.or_false]⟩
  obtain ⟨ts, failed, hbefore⟩ := hbefore
  unfold writeRequest
  dsimp only
  rw [hbefore]
  cases hok : env.writeOk <;> cases hclk : env.clkAfter <;> cases failed
  case true.ok.false => exact ⟨false, by rw [Bool.or_false]; rfl⟩
  all_goals exact ⟨true, by first | rfl | (rw [Bool.or_true]; rfl)⟩

theorem moves_writeRequest (env : SendEnv) (h : Moves cfg s₀ (.write c, g)) :
    Moves cfg s₀ (.wait c, writeRequest cfg env g) := by
  obtain ⟨failed, heq⟩ := writeRequest_eq cfg env g
  rw [heq]
  exact moves_deliver failed (h.tail (.write c env.writeOk env.clkAfter.timespec g))

theorem moves_sendRequest (env : SendEnv) (h : Moves cfg s₀ (.request c, g)) :
    Moves cfg s₀ (.wait c, sendRequest cfg c env g) := by
  have hbuilt := h.tail (.request c env.rand g)
  unfold requestOf at hbuilt
  unfold sendRequest
  cases hmode : cfg.mode <;> rw [hmode] at hbuilt <;> dsimp only at hbuilt ⊢
  case pingip =>
    exact moves_writeRequest env (moves_orSigint env.etherOk (moves_orSigint env.payloadOk hbuilt))
  all_goals
    exact moves_writeRequest env (moves_orSigint env.etherOk (moves_orSigint env.ipv4Ok
      (moves_orSigint env.payloadOk hbuilt)))

/-! ## Receiving -/

theorem moves_handleAll (batch : List Arrival) (h : Moves cfg s₀ (.batch c old, g)) :
    Moves cfg s₀ (.batch c old, handleAll (recvHandler cfg) batch g) := by
  induction batch generalizing g with
  | nil => exact h
  | cons a batch ih => exact ih (h.tail (.handle c old a.packet a.clock g))

/-- From the `select` call on: the pass ends in front of the next one, or with the call. -/
theorem moves_afterSelect (done : Bool) (r : SelectResult) (h : Moves cfg s₀ (.answer c old, g)) :
    let after := afterSelect cfg (recvHandler cfg) old done r g
    (after.2 = false → Moves cfg s₀ (.check c old, after.1)) ∧
      (after.2 = true → Moves cfg s₀ (.test (c + 1), after.1)) := by
  -- a pass that is the last one for `done` is left by its loop test
  have hclose : ∀ {g'}, Moves cfg s₀ (.check c old, g') → Moves cfg s₀ (.test (c + 1), g') :=
    fun h' => h'.tail (.close c old _)
  cases r with
  | timeout => exact ⟨fun hfalse => (by cases hfalse), fun _ => h.tail (.timeout c old g)⟩
  | interrupted =>
    have hagain := h.tail (.again c old g)
    exact ⟨fun _ => hagain, fun _ => hclose hagain⟩
  | failed =>
    have hagain := (h.tail (.sigint _ g)).tail (.again c old _)
    exact ⟨fun _ => hagain, fun _ => hclose hagain⟩
  | ready batch =>
    have hdrained := (moves_handleAll batch (h.tail (.dispatch c old g))).tail (.drained c old _)
    exact ⟨fun _ => hdrained, fun _ => hclose hdrained⟩

theorem moves_recvPass (packetwait : UInt32) (endtime : Timespec) (w : WakeUp)
    (h : Moves cfg s₀ (.check c old, g)) :
    (recvPass cfg (recvHandler cfg) packetwait endtime old w g).Ensures
      (fun g' => Moves cfg s₀ (.check c old, g'))
      (fun _ g' => Moves cfg s₀ (.test (c + 1), g')) := by
  have hclock : Moves cfg s₀ (.check c old, afterClock w g) :=
    moves_deliver w.signal (moves_getclock w.clock h)
  cases hdie : (afterClock w g).timeToDie with
  | true =>
    rw [recvPass_of_die hdie]
    exact hclock.tail (.close c old _)
  | false =>
    rw [recvPass_of_alive hdie]
    have hselect := (hclock.tail (.check hdie)).tail
      (.select c old (callOf packetwait endtime w) _)
    have hafter := moves_afterSelect (callOf packetwait endtime w).done w.select hselect
    dsimp only
    split
    · rename_i hdone
      exact hafter.2 hdone
    · rename_i hdone
      exact hafter.1 (Bool.eq_false_of_not_eq_true hdone)

/-- A call of `ping_recv`, however it ends. -/
theorem moves_pingRecv (packetwait : UInt32) (env : RecvEnv) (h : Moves cfg s₀ (.wait c, g)) :
    (pingRecv cfg packetwait (recvHandler cfg) env g).Ensures
      (fun g' => ∃ pt, Moves cfg s₀ (pt, g'))
      (fun e g' => ∃ pt, Moves cfg s₀ (pt, g') ∧ (e = .returned → pt = .test (c + 1))) := by
  have hclock := moves_getclock env.start h
  unfold pingRecv
  dsimp only
  cases env.fdOk with
  | false => exact ⟨_, hclock, fun hret => by cases hret⟩
  | true =>
    refine (drive_ensures (f := fun _ _ => ([] : List Unit)) (l := [])
      (J := fun _ g' => Moves cfg s₀ (.check c (getclock env.start g).2.numrecvd, g'))
      (Q := fun _ _ g' => Moves cfg s₀ (.test (c + 1), g'))
      (fun w _ _ g' hg' => moves_recvPass packetwait _ w hg') (hclock.tail (.listen c _))).imp
      (fun _ hg' => ⟨_, hg'⟩) fun _ _ hg' => ⟨_, hg', fun _ => rfl⟩

/-! ## The ping loop -/

/-- A round that begins behind a loop test. -/
theorem moves_pingRound (deadline : ℚ) (r : Round) (htest : loopTest cfg c g = true)
    (h : Moves cfg s₀ (.test c, g)) :
    (pingRound cfg deadline r (c, g)).Ensures
      (fun s => loopTest cfg s.1 s.2 = true ∧ Moves cfg s₀ (.test s.1, s.2))
      (fun _ s => ∃ pt, Moves cfg s₀ (pt, s.2)) := by
  have hsent := moves_sendRequest r.send (h.tail (.test htest))
  have hwait := moves_waitTime deadline cfg.packetwait r.waitClock hsent
  have hrecv := moves_pingRecv
    (waitTime deadline cfg.packetwait r.waitClock (sendRequest cfg c r.send g)).1 r.recv hwait
  unfold pingRound
  dsimp only
  split
  · exact ⟨_, hwait⟩
  · split
    · rename_i g₁ h₁
      rw [h₁] at hrecv
      exact hrecv
    · rename_i n g₁ h₁
      rw [h₁] at hrecv
      obtain ⟨pt, hpt, -⟩ := hrecv
      exact ⟨pt, hpt⟩
    · rename_i g₁ h₁
      rw [h₁] at hrecv
      obtain ⟨pt, hpt, hret⟩ := hrecv
      rw [hret rfl] at hpt
      have hdeliver := moves_deliver r.signal hpt
      unfold nextRound
      split
      · rename_i htest'
        exact ⟨htest', hdeliver⟩
      · exact ⟨_, hdeliver⟩

end Bridge

/-- **Runs are sequences of moves.** Whatever the environment does, the globals that a run of the
ping loop leaves are reachable. -/
theorem pingLoop_reachable (cfg : Config) (env : RunEnv) :
    ∃ pt, Reachable cfg (pt, (pingLoop cfg env State.init).state.2) := by
  have hstart : Reachable cfg (.test 0, (startDeadline cfg env.startClock State.init).2) := by
    unfold startDeadline
    dsimp only
    split
    · exact moves_getclock env.startClock .refl
    · exact .refl
  have hloop := moves_deliver env.signal hstart
  unfold pingLoop
  dsimp only
  split
  · rename_i htest
    exact (drive_ensures (f := fun _ _ => ([] : List Unit)) (l := [])
      (J := fun _ (s : UInt32 × State) =>
        loopTest cfg s.1 s.2 = true ∧ Reachable cfg (.test s.1, s.2))
      (Q := fun _ _ (s : UInt32 × State) => ∃ pt, Reachable cfg (pt, s.2))
      (fun r _ _ _ hs => moves_pingRound _ r hs.1 hs.2)
      (show loopTest cfg 0 _ = true ∧ Reachable cfg (.test 0, _) from ⟨htest, hloop⟩)).state
      (fun _ hs => ⟨_, hs.2⟩) fun _ _ hs => hs
  · exact ⟨_, hloop⟩

end Arping
