import Arping.Runs

/-!
# How many requests are sent

In a quiet run no signal arrives and no libnet, `select` or clock call fails. Without a deadline
and with fewer than `max_replies` counted replies such a run sends one request for each of the
`maxcount` rounds, with one exception: `wait_time` returns the configured wait of `-W 0` as it is,
and the ping loop takes that 0 for a deadline that has passed (`numsent_eq_maxcount_iff`).
-/

namespace Arping

open ScriptLoop

/-! ## Quiet runs -/

/-- No call of the sender fails. -/
structure SendEnv.Quiet (env : SendEnv) : Prop where
  payloadOk : env.payloadOk = true
  ipv4Ok : env.ipv4Ok = true
  etherOk : env.etherOk = true
  writeOk : env.writeOk = true
  clkBefore : env.clkBefore.Succeeds
  clkAfter : env.clkAfter.Succeeds

/-- `select` does not fail, and neither do the clock calls of the handler. -/
def SelectResult.Quiet : SelectResult → Prop
  | timeout => True
  | interrupted => True
  | failed => False
  | ready batch => ∀ a ∈ batch, a.clock.Succeeds

/-- No signal and no failure in a pass of the receive loop. -/
structure WakeUp.Quiet (w : WakeUp) : Prop where
  clock : w.clock.Succeeds
  signal : w.signal = false
  select : w.select.Quiet

structure RecvEnv.Quiet (env : RecvEnv) : Prop where
  start : env.start.Succeeds
  fdOk : env.fdOk = true
  wakeups : ∀ w ∈ env.wakeups, w.Quiet

structure Round.Quiet (r : Round) : Prop where
  send : r.send.Quiet
  waitClock : r.waitClock.Succeeds
  recv : r.recv.Quiet
  signal : r.signal = false

/-- No signal and no failure in the whole run. -/
structure RunEnv.Quiet (env : RunEnv) : Prop where
  startClock : env.startClock.Succeeds
  signal : env.signal = false
  rounds : ∀ r ∈ env.rounds, r.Quiet

/-! ## The tally -/

/-- `n` requests are sent, and `time_to_die` is not set unless `max_replies` replies are
counted. -/
structure Tally (cfg : Config) (n : UInt32) (g : State) : Prop where
  numsent : g.numsent = n
  numrecvd : g.numrecvd.toNat ≤ g.counted.length
  timeToDie : g.timeToDie = true → cfg.maxReplies.toNat ≤ g.counted.length

theorem getclock_of_succeeds {clk : ClockCall} (h : clk.Succeeds) (g : State) :
    (getclock clk g).2 = g := by
  cases clk with
  | ok now => rfl
  | fail junk => exact absurd h id

section Steps

variable {cfg : Config} {n : UInt32} {g g' : State}

/-- Only the counters, the counted replies and `time_to_die` matter. -/
theorem Tally.of_same (h : Tally cfg n g) (hsame : SameReceived g g')
    (hdie : g'.timeToDie = g.timeToDie) {n' : UInt32} (hn : g'.numsent = n') :
    Tally cfg n' g' where
  numsent := hn
  numrecvd := by rw [hsame.numrecvd, hsame.counted]; exact h.numrecvd
  timeToDie := by rw [hdie, hsame.counted]; exact h.timeToDie

theorem Tally.emit (h : Tally cfg n g) {e : Event} (hc : e.counted? = none)
    (hh : e.handled? = none) (hs : e.sample? = none) : Tally cfg n (g.emit e) :=
  h.of_same (SameReceived.emit hc hh hs g) rfl h.numsent

/-- A call of the handler. -/
theorem recvHandler_tally {clk : ClockCall} (hclk : clk.Succeeds) (p : Packet)
    (h : Tally cfg n g) : Tally cfg n (recvHandler cfg p clk g) := by
  have harr := afterArrival_arrives p clk g
  have hdie : (afterArrival p clk g).timeToDie = g.timeToDie := by
    rw [harr.timeToDie, decide_eq_true hclk]
    exact Bool.or_false _
  rcases recvHandler_cases cfg p clk g with hrej | hcount
  · rw [hrej]
    exact
      { numsent := harr.numsent.trans h.numsent
        numrecvd := by rw [harr.numrecvd, harr.counted]; exact h.numrecvd
        timeToDie := by rw [hdie, harr.counted]; exact h.timeToDie }
  · have hrecvd : (g.numrecvd + 1).toNat ≤ g.counted.length + 1 := by
      have hle := h.numrecvd
      have hmod : (g.numrecvd + 1).toNat ≤ g.numrecvd.toNat + 1 := by
        rw [UInt32.toNat_add]
        exact Nat.mod_le _ _
      omega
    have hlen : (recvHandler cfg p clk g).counted.length = g.counted.length + 1 := by
      rw [hcount.counted, harr.counted, List.length_append, List.length_singleton]
    constructor
    · rw [hcount.numsent, harr.numsent, h.numsent]
    · rw [hcount.numrecvd, harr.numrecvd, hlen]
      exact hrecvd
    · rw [hcount.timeToDie, hdie, harr.numrecvd, hlen, Bool.or_eq_true, decide_eq_true_eq]
      rintro (hold | hmax)
      · have := h.timeToDie hold
        omega
      · have := UInt32.le_iff_toNat_le.mp hmax
        omega

theorem handleAll_tally {batch : List Arrival} (hquiet : ∀ a ∈ batch, a.clock.Succeeds)
    (h : Tally cfg n g) : Tally cfg n (handleAll (recvHandler cfg) batch g) :=
  List.foldlRecOn batch _ h fun _ hg a ha => recvHandler_tally (hquiet a ha) a.packet hg

/-- A pass of the receive loop. -/
theorem recvPass_tally {w : WakeUp} (hquiet : w.Quiet) (h : Tally cfg n g) (packetwait : UInt32)
    (endtime : Timespec) (old : UInt32) :
    Tally cfg n (recvPass cfg (recvHandler cfg) packetwait endtime old w g).state := by
  have hclock : afterClock w g = g := by
    rw [afterClock, hquiet.signal]
    exact getclock_of_succeeds hquiet.clock g
  cases halive : (afterClock w g).timeToDie with
  | true =>
    rw [recvPass_of_die halive, hclock]
    exact h
  | false =>
    rw [recvPass_state_of_alive halive, hclock]
    have hselect := h.emit (e := .select (callOf packetwait endtime w)) rfl rfl rfl
    have hw := hquiet.select
    cases hr : w.select with
    | timeout => exact hselect.of_same (SameReceived.prints _ _) rfl hselect.numsent
    | interrupted => exact hselect
    | failed =>
      rw [hr] at hw
      exact absurd hw id
    | ready batch =>
      rw [hr] at hw
      exact handleAll_tally hw (hselect.emit rfl rfl rfl)

/-- A call of `ping_recv`. -/
theorem pingRecv_tally {env : RecvEnv} (hquiet : env.Quiet) (h : Tally cfg n g)
    (packetwait : UInt32) :
    Tally cfg n (pingRecv cfg packetwait (recvHandler cfg) env g).state := by
  unfold pingRecv
  dsimp only
  rw [getclock_of_succeeds hquiet.start, hquiet.fdOk]
  exact drive_inv (I := Tally cfg n)
    (fun w hw _ hg => recvPass_tally (hquiet.wakeups w hw) hg packetwait _ _) h

/-- With a file descriptor, `ping_recv` does not exit. -/
theorem pingRecv_stop {packetwait : UInt32} {func : Handler} {env : RecvEnv} {e : RecvExit}
    (hfd : env.fdOk = true) (h : pingRecv cfg packetwait func env g = .stop e g') :
    e = .returned := by
  rcases pingRecv_last_pass h with ⟨hno, -⟩ | ⟨w, g₁, -, hpass⟩
  · rw [hfd] at hno
    cases hno
  · exact recvPass_stop hpass

/-- The end that both senders share. -/
theorem writeRequest_tally {env : SendEnv} (hquiet : env.Quiet) (h : Tally cfg n g) :
    Tally cfg (n + 1) (writeRequest cfg env g) := by
  have hstamp : ∀ {clk : ClockCall}, clk.Succeeds → ∀ g,
      (stampSent clk g).timeToDie = g.timeToDie ∧ (stampSent clk g).numsent = g.numsent := by
    intro clk hclk g
    cases clk with
    | ok now => exact ⟨rfl, rfl⟩
    | fail junk => exact absurd hclk id
  have hbefore : (if 1 < cfg.verbose then stampSent env.clkBefore g else g).timeToDie =
        g.timeToDie ∧
      (if 1 < cfg.verbose then stampSent env.clkBefore g else g).numsent = g.numsent := by
    split
    · exact hstamp hquiet.clkBefore g
    · exact ⟨rfl, rfl⟩
  refine h.of_same (writeRequest_same cfg env g) ?_ ?_
  · unfold writeRequest
    dsimp only
    rw [hquiet.writeOk, (hstamp hquiet.clkAfter _).1]
    exact hbefore.1
  · unfold writeRequest
    dsimp only
    rw [hquiet.writeOk, (hstamp hquiet.clkAfter _).2]
    show _ + 1 = n + 1
    rw [← h.numsent, ← hbefore.2]
    rfl

/-- A request. -/
theorem sendRequest_tally {env : SendEnv} (hquiet : env.Quiet) (h : Tally cfg n g) (c : UInt32) :
    Tally cfg (n + 1) (sendRequest cfg c env g) := by
  unfold sendRequest
  split
  · unfold pingipSend
    dsimp only
    rw [hquiet.payloadOk, hquiet.etherOk]
    exact writeRequest_tally hquiet (h.emit rfl rfl rfl)
  · unfold pingmacSend
    dsimp only
    rw [hquiet.payloadOk, hquiet.ipv4Ok, hquiet.etherOk]
    exact writeRequest_tally hquiet (h.emit rfl rfl rfl)

/-- A round without deadline: `-W 0` ends the loop in it, any other wait at the loop test. -/
theorem pingRound_tally {r : Round} (hquiet : r.Quiet) {deadline : ℚ} (hdeadline : deadline < 0)
    {c : UInt32} (h : Tally cfg c g) :
    ∃ g', Tally cfg (c + 1) g' ∧
      (pingRound cfg deadline r (c, g) = .stop .ended (c, g') ∧ cfg.packetwait = 0 ∨
        pingRound cfg deadline r (c, g) = .stop .waiting (c, g') ∨
        pingRound cfg deadline r (c, g) = nextRound cfg c g' ∧ cfg.packetwait ≠ 0) := by
  have hsend := sendRequest_tally hquiet.send h c
  have hrecv := pingRecv_tally hquiet.recv hsend cfg.packetwait
  have hwait : waitTime deadline cfg.packetwait r.waitClock (sendRequest cfg c r.send g) =
      (cfg.packetwait, sendRequest cfg c r.send g) := by
    unfold waitTime
    rw [if_pos hdeadline]
  unfold pingRound
  dsimp only
  rw [hwait]
  dsimp only
  by_cases h0 : cfg.packetwait = 0
  · rw [if_pos h0]
    exact ⟨_, hsend, Or.inl ⟨rfl, h0⟩⟩
  · rw [if_neg h0]
    refine ⟨_, hrecv, Or.inr ?_⟩
    split
    · rename_i g₁ heq
      rw [heq]
      exact Or.inl rfl
    · rename_i e g₁ heq
      cases pingRecv_stop hquiet.recv.fdOk heq
    · rename_i g₁ heq
      rw [heq, hquiet.signal]
      exact Or.inr ⟨rfl, h0⟩

end Steps

/-! ## Whole runs -/

/-- At the start of a round. -/
structure RoundStart (cfg : Config) (s : UInt32 × State) : Prop where
  tally : Tally cfg s.1 s.2
  lt : s.1 < cfg.maxcount
  first : cfg.packetwait = 0 → s.1 = 0

/-- A round that goes on leads to the start of the next one. -/
theorem pingRound_roundStart {cfg : Config} {r : Round} (hquiet : r.Quiet) {deadline : ℚ}
    (hdeadline : deadline < 0) {s s' : UInt32 × State} (hs : RoundStart cfg s)
    (hnext : pingRound cfg deadline r s = .next s') : RoundStart cfg s' := by
  obtain ⟨c, g⟩ := s
  obtain ⟨g', htally, hcases⟩ := pingRound_tally hquiet hdeadline hs.tally
  rcases hcases with ⟨hround, -⟩ | hround | ⟨hround, hwait⟩
  · rw [hround] at hnext
    cases hnext
  · rw [hround] at hnext
    cases hnext
  · rw [hround] at hnext
    unfold nextRound at hnext
    split at hnext
    · rename_i htest
      obtain rfl := Ctl.next.inj hnext
      unfold loopTest at htest
      rw [Bool.and_eq_true, decide_eq_true_eq] at htest
      exact ⟨htally, htest.1, fun h => absurd h hwait⟩
    · cases hnext

/-- The round that ends the loop: the number of requests sent is the count, or it is the first
round with `-W 0`. -/
theorem pingRound_ended {cfg : Config} {r : Round} (hquiet : r.Quiet) {deadline : ℚ}
    (hdeadline : deadline < 0) {s s' : UInt32 × State} (hs : RoundStart cfg s)
    (hended : pingRound cfg deadline r s = .stop .ended s')
    (hfew : s'.2.counted.length < cfg.maxReplies.toNat) :
    (cfg.packetwait = 0 ∧ s'.2.numsent = 1) ∨
      (cfg.packetwait ≠ 0 ∧ s'.2.numsent = cfg.maxcount) := by
  obtain ⟨c, g⟩ := s
  obtain ⟨g', htally, hcases⟩ := pingRound_tally hquiet hdeadline hs.tally
  rcases hcases with ⟨hround, hwait⟩ | hround | ⟨hround, hwait⟩
  · rw [hround] at hended
    obtain rfl := (Ctl.stop.inj hended).2
    -- `wait_time` returned the 0 of `-W 0`, which it does in the first round
    refine Or.inl ⟨hwait, ?_⟩
    have hc : c = 0 := hs.first hwait
    rw [htally.numsent, hc]
    rfl
  · rw [hround] at hended
    cases hended
  · rw [hround] at hended
    unfold nextRound at hended
    split at hended
    · cases hended
    · rename_i htest
      obtain rfl := (Ctl.stop.inj hended).2
      -- the loop test failed, and not for `time_to_die`
      refine Or.inr ⟨hwait, ?_⟩
      have hdie : g'.timeToDie = false := by
        by_contra h
        have := htally.timeToDie (Bool.eq_true_of_not_eq_false h)
        dsimp only at hfew
        omega
      have hc : ¬ c + 1 < cfg.maxcount := by
        simpa [loopTest, hdie] using htest
      have hlt := UInt32.lt_iff_toNat_lt.mp hs.lt
      have hmax := cfg.maxcount.toNat_lt
      rw [UInt32.lt_iff_toNat_lt, UInt32.toNat_add] at hc
      rw [htally.numsent, ← UInt32.toNat_inj, UInt32.toNat_add]
      simp only [UInt32.toNat_one] at hc ⊢
      dsimp only at hlt
      omega

/-- Without a deadline and an early signal, the loop starts in the state given. -/
theorem pingLoop_of_no_deadline {cfg : Config} {env : RunEnv} {g : State}
    (hsignal : env.signal = false) (hdeadline : cfg.deadline < 0) :
    pingLoop cfg env g =
      if loopTest cfg 0 g then drive (pingRound cfg cfg.deadline) env.rounds (0, g)
      else .stop .ended (0, g) := by
  have hstart : startDeadline cfg env.startClock g = (cfg.deadline, g) := by
    unfold startDeadline
    rw [if_neg (not_lt.mpr hdeadline.le)]
  unfold pingLoop
  rw [hstart, hsignal]
  rfl

theorem tally_init (cfg : Config) : Tally cfg 0 State.init :=
  ⟨rfl, Nat.zero_le _, fun h => by cases h⟩

/-- **Request count.** In a quiet run without deadline that ends with fewer than `max_replies`
counted replies, exactly `maxcount` requests are sent unless the wait is 0 and the count above
1. -/
theorem numsent_eq_maxcount_iff {cfg : Config} {env : RunEnv} (hquiet : env.Quiet)
    (hdeadline : cfg.deadline < 0)
    (hended : (pingLoop cfg env State.init).reason = some .ended)
    (hfew : (pingLoop cfg env State.init).state.2.counted.length < cfg.maxReplies.toNat) :
    (pingLoop cfg env State.init).state.2.numsent = cfg.maxcount ↔
      cfg.packetwait ≠ 0 ∨ cfg.maxcount ≤ 1 := by
  have htest : loopTest cfg 0 State.init = decide (0 < cfg.maxcount) := Bool.and_true _
  rw [pingLoop_of_no_deadline hquiet.signal hdeadline, htest] at hended hfew ⊢
  by_cases hpos : 0 < cfg.maxcount
  · rw [decide_eq_true hpos] at hended hfew ⊢
    obtain ⟨r, s, hvisits, hround⟩ := exists_visits_of_stop (Ctl.reason_eq_some_iff.mp hended)
    have hinv : RoundStart cfg s :=
      hvisits.inv
        (fun r hr _ _ hs hnext => pingRound_roundStart (hquiet.rounds r hr) hdeadline hs hnext)
        ⟨tally_init cfg, hpos, fun _ => rfl⟩
    have hpos' := UInt32.lt_iff_toNat_lt.mp hpos
    rcases pingRound_ended (hquiet.rounds r hvisits.mem) hdeadline hinv hround hfew with
      ⟨hwait, hsent⟩ | ⟨hwait, hsent⟩
    · refine (Eq.congr_left hsent).trans ?_
      rw [or_iff_right (not_not.mpr hwait), ← UInt32.toNat_inj, UInt32.le_iff_toNat_le,
        UInt32.toNat_one]
      change 0 < cfg.maxcount.toNat at hpos'
      omega
    · exact iff_of_true hsent (Or.inl hwait)
  · have hzero : cfg.maxcount = 0 := by
      rw [UInt32.lt_iff_toNat_lt] at hpos
      rw [← UInt32.toNat_inj]
      exact Nat.eq_zero_of_not_pos hpos
    rw [decide_eq_false hpos]
    exact iff_of_true hzero.symm (Or.inr (by rw [hzero]; decide))

/-! ## Sample runs -/

theorem runOf_quiet (batches : List (List Packet)) : (runOf batches).Quiet := by
  refine ⟨trivial, rfl, fun r hr => ?_⟩
  obtain ⟨⟨batch, i⟩, -, rfl⟩ := List.mem_map.mp hr
  refine ⟨⟨rfl, rfl, rfl, rfl, trivial, trivial⟩, trivial, ⟨trivial, rfl, ?_⟩, rfl⟩
  intro w hw
  simp only [roundAt, List.mem_cons, List.not_mem_nil, or_false] at hw
  rcases hw with rfl | rfl
  · refine ⟨trivial, rfl, fun a ha => ?_⟩
    obtain ⟨p, -, rfl⟩ := List.mem_map.mp ha
    exact trivial
  · exact ⟨trivial, rfl, trivial⟩

/-- Pinging twice. -/
def twiceConfig : Config := { ipConfig with maxcount := 2 }

theorem numsent_eq_maxcount_iff_twice :
    (pingLoop twiceConfig (runOf [[arpReplyFrame 7], []]) State.init).state.2.numsent =
        twiceConfig.maxcount ↔
      twiceConfig.packetwait ≠ 0 ∨ twiceConfig.maxcount ≤ 1 :=
  numsent_eq_maxcount_iff (runOf_quiet _) (by decide +kernel) (by decide +kernel)
    (by decide +kernel)

/-- With `-W 0` the loop ends after the first request. -/
theorem numsent_packetwait_zero :
    let cfg := { twiceConfig with packetwait := 0 }
    let run := pingLoop cfg (runOf [[], []]) State.init
    (runOf [[], []]).Quiet ∧ cfg.deadline < 0 ∧ run.reason = some .ended ∧
      run.state.2.counted.length < cfg.maxReplies.toNat ∧ run.state.2.numsent = 1 ∧
      cfg.maxcount = 2 :=
  ⟨runOf_quiet _, by decide +kernel, by decide +kernel, by decide +kernel, by decide +kernel, rfl⟩

end Arping
