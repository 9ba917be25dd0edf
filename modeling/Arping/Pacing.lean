import Arping.LossReport
import Arping.ReceiveWindow
import Arping.RequestCount
import Arping.RunStatistics
import Arping.TimeoutReport

/-!
# Pacing

Nothing in the ping loop sleeps: two requests are kept apart by the wait of `ping_recv` between
them. Under a clock that keeps time a round that goes on lasts as long as its wait, if no reading in
it is early (`round_paced`). A wait of whole seconds has no early readings, so without a deadline
the requests of a run are at least `packetwait` apart, whatever packets arrive
(`pingLoop_paced`). With other waits a packet that wakes the call can make `arping` send too soon
(`requestStamps_rushed`).
-/

namespace Arping

open ScriptLoop

/-! ## Spaced lists -/

/-- Where a measure grows by `d` from one element to the next, it grows by `d` for each of them. -/
theorem spaced_getElem {α : Type*} {m : α → ℤ} {d : ℤ} {xs : List α}
    (h : xs.IsChain fun x y => m x + d ≤ m y) {i j : ℕ} (hij : i ≤ j) (hi : i < xs.length)
    (hj : j < xs.length) : m xs[i] + (j - i : ℕ) * d ≤ m xs[j] := by
  induction j, hij using Nat.le_induction with
  | base => simp
  | succ j hij ih =>
    have hstep := h.getElem j hj
    have hprev := ih (Nat.lt_of_succ_lt hj)
    rw [Nat.succ_sub hij]
    push_cast
    linarith

/-! ## Rounds that go on -/

/-- The wait of a round, and the globals in which `ping_recv` is called. -/
def roundWait (cfg : Config) (deadline : ℚ) (r : Round) (s : UInt32 × State) : UInt32 × State :=
  waitTime deadline cfg.packetwait r.waitClock (sendRequest cfg s.1 r.send s.2)

/-- What a round that goes on has done: `ping_recv` has returned with `time_to_die` not set. -/
theorem pingRecv_of_next {cfg : Config} {deadline : ℚ} {r : Round} {s s' : UInt32 × State}
    (h : pingRound cfg deadline r s = .next s') :
    (roundWait cfg deadline r s).1 ≠ 0 ∧
      ∃ g, pingRecv cfg (roundWait cfg deadline r s).1 (recvHandler cfg) r.recv
          (roundWait cfg deadline r s).2 = .stop .returned g ∧ g.timeToDie = false := by
  unfold pingRound at h
  dsimp only at h
  split at h
  · cases h
  · rename_i hwait
    refine ⟨hwait, ?_⟩
    split at h
    · cases h
    · cases h
    · rename_i g hrecv
      refine ⟨g, hrecv, ?_⟩
      unfold nextRound at h
      split at h
      · rename_i htest
        unfold loopTest at htest
        rw [Bool.and_eq_true, Bool.not_eq_true'] at htest
        cases hsignal : r.signal with
        | true =>
          rw [hsignal] at htest
          cases htest.2
        | false =>
          rw [hsignal] at htest
          exact htest.2
      · cases h

/-! ## Time in a run -/

/-- The rounds `r` and `r'` of the run take place one after the other. -/
def RoundsFollow (cfg : Config) (env : RunEnv) (g : State) (r : Round) (s : UInt32 × State)
    (r' : Round) (s' : UInt32 × State) : Prop :=
  loopTest cfg 0 (afterStart cfg env g) = true ∧
    Follows (pingRound cfg (startDeadline cfg env.startClock g).1) env.rounds
      (0, afterStart cfg env g) r s r' s'

/-- The clock keeps time in a run: readings never decrease, and a `select` that times out has
lasted as long as it was asked to when the next request is stamped. -/
structure RunKeepsTime (cfg : Config) (env : RunEnv) (g : State) : Prop where
  readings : (runReadings cfg env g).IsChain NotAfter
  lasted : ∀ r s r' s' w g₁ n c, RoundsFollow cfg env g r s r' s' →
    ReachesSelect cfg (roundWait cfg (startDeadline cfg env.startClock g).1 r s).1
      (recvHandler cfg) r.recv (roundWait cfg (startDeadline cfg env.startClock g).1 r s).2
      w g₁ n c →
    w.select = .timeout → n.micros + c.timeout.micros ≤ r'.send.clkAfter.timeval.micros

theorem timespec2dbl_timespec (clk : ClockCall) :
    timespec2dbl clk.timespec = (clk.timeval.micros : ℚ) / 1000000 := by
  unfold timespec2dbl ClockCall.timespec Timeval.micros
  push_cast
  ring

theorem notAfter_timespec_iff (clk clk' : ClockCall) :
    NotAfter clk.timespec clk'.timespec ↔ clk.timeval.micros ≤ clk'.timeval.micros := by
  unfold NotAfter
  rw [timespec2dbl_timespec, timespec2dbl_timespec, div_le_div_iff_of_pos_right (by norm_num),
    Int.cast_le]

theorem nanos_timespec (clk : ClockCall) :
    clk.timespec.nanos = 1000 * clk.timeval.micros := by
  unfold Timespec.nanos ClockCall.timespec Timeval.micros
  ring

section Call

variable {cfg : Config} {packetwait : UInt32} {func : Handler} {env : RecvEnv} {g : State}

/-- The first reading of a call, and then those of its passes. -/
theorem recvReadings_of_takesPlace {w : WakeUp} {g₁ : State}
    (h : TakesPlace cfg packetwait func env g w g₁) :
    ∃ l, recvReadings cfg packetwait func env g = env.start.timespec :: l ∧
      w.clock.timespec ∈ l := by
  unfold recvReadings
  rw [if_pos h.1]
  have hpass : w.clock.timespec ∈ passReadings w g₁ := List.mem_append_left _ (by simp)
  exact ⟨_, rfl, (h.2.infix_gather passReadings).subset hpass⟩

/-- A call lasts until the next request if its readings lie in order before the stamp. -/
theorem keepsTime_of_readings {start : WallClock} {stamp : ClockCall}
    (hstart : env.start = .ok start)
    (hreadings : (recvReadings cfg packetwait func env g).Pairwise NotAfter)
    (hstamp : ∀ ts ∈ recvReadings cfg packetwait func env g, NotAfter ts stamp.timespec)
    (hlasted : ∀ w g₁ n c, ReachesSelect cfg packetwait func env g w g₁ n c →
      w.select = .timeout → n.micros + c.timeout.micros ≤ stamp.timeval.micros) :
    KeepsTime cfg packetwait func env g start stamp.timeval.micros where
  started := by
    intro w g₁ n htakes hclock
    obtain ⟨l, hl, hmem⟩ := recvReadings_of_takesPlace htakes
    rw [hl, hstart] at hreadings
    have hle := List.rel_of_pairwise_cons hreadings hmem
    rw [hclock] at hle
    exact (notAfter_timespec_iff (.ok start) (.ok n)).mp hle
  returned := by
    intro w g₁ n htakes hclock
    obtain ⟨l, hl, hmem⟩ := recvReadings_of_takesPlace htakes
    have hle := hstamp w.clock.timespec (by rw [hl]; exact List.mem_cons_of_mem _ hmem)
    rw [hclock] at hle
    exact (notAfter_timespec_iff (.ok n) stamp).mp hle
  lasted := hlasted

end Call

section Round

variable {cfg : Config} {env : RunEnv} {g : State} {r r' : Round} {s s' : UInt32 × State}

/-- The readings of consecutive rounds are in order. -/
theorem RoundsFollow.pairwise (hr : RoundsFollow cfg env g r s r' s')
    (h : (runReadings cfg env g).IsChain NotAfter) :
    (roundReadings cfg (startDeadline cfg env.startClock g).1 r s ++
      roundReadings cfg (startDeadline cfg env.startClock g).1 r' s').Pairwise NotAfter := by
  have hall := List.isChain_iff_pairwise.mp h
  unfold runReadings at hall
  dsimp only at hall
  rw [if_pos hr.1] at hall
  exact (List.pairwise_append.mp hall).2.1.sublist (hr.2.infix_gather _).sublist

theorem clkAfter_mem_sendReadings (env : SendEnv) :
    env.clkAfter.timespec ∈ sendReadings cfg env :=
  List.mem_append_right _ (List.mem_singleton_self _)

theorem clkAfter_mem_roundReadings (deadline : ℚ) (r : Round) (s : UInt32 × State) :
    r.send.clkAfter.timespec ∈ roundReadings cfg deadline r s :=
  List.mem_append_left _ (List.mem_append_left _ (clkAfter_mem_sendReadings r.send))

theorem roundReadings_of_wait {deadline : ℚ} (hwait : (roundWait cfg deadline r s).1 ≠ 0) :
    roundReadings cfg deadline r s =
      sendReadings cfg r.send ++ waitReadings deadline r.waitClock ++
        recvReadings cfg (roundWait cfg deadline r s).1 (recvHandler cfg) r.recv
          (roundWait cfg deadline r s).2 := by
  unfold roundReadings
  dsimp only
  rw [← roundWait, if_neg hwait]

/-- **One round.** Behind a round in which no reading is early, the next request is stamped no
sooner than the wait allows. -/
theorem round_paced (h : RunKeepsTime cfg env g) (hr : RoundsFollow cfg env g r s r' s')
    {w : UInt32} (hw : (roundWait cfg (startDeadline cfg env.startClock g).1 r s).1 = w)
    (hearly : ∀ start n, r.recv.start = .ok start → ¬ EarlyReading start w n) :
    r.send.clkAfter.timeval.micros + w.toNat ≤ r'.send.clkAfter.timeval.micros := by
  subst hw
  obtain ⟨l, t, -, -, hnext⟩ := hr.2
  obtain ⟨hwait, g', hrecv, halive⟩ := pingRecv_of_next hnext
  obtain ⟨start, hstart⟩ := start_of_alive hrecv halive
  obtain ⟨hround, -, hcross⟩ := List.pairwise_append.mp (hr.pairwise h.readings)
  rw [roundReadings_of_wait hwait] at hround hcross
  obtain ⟨-, hcall, hbefore⟩ := List.pairwise_append.mp hround
  have htime := keepsTime_of_readings hstart hcall
    (fun ts hts => hcross ts (List.mem_append_right _ hts) _ (clkAfter_mem_roundReadings _ r' s'))
    fun w g₁ n c hreach => h.lasted r s r' s' w g₁ n c hr hreach
  -- the request is stamped before the wait begins
  have hsent : NotAfter r.send.clkAfter.timespec r.recv.start.timespec :=
    hbefore _ (List.mem_append_left _ (clkAfter_mem_sendReadings r.send)) _
      (List.mem_append_left _ (List.mem_singleton_self _))
  rw [hstart, notAfter_timespec_iff] at hsent
  have hsent' : r.send.clkAfter.timeval.micros ≤ start.micros := hsent
  have hend := endMicros_le_of_expired hstart htime
    (fun w g₁ n _ _ => hearly start n hstart) hrecv halive
  unfold endMicros at hend
  linarith

end Round

/-! ## Whole runs -/

/-- The values of `lastpacketsent` behind the requests of a run, in order. -/
def requestStamps (cfg : Config) (env : RunEnv) (g : State) : List Timespec :=
  if loopTest cfg 0 (afterStart cfg env g) then
    gather (fun r s => [(sendRequest cfg s.1 r.send s.2).lastpacketsent])
      (pingRound cfg (startDeadline cfg env.startClock g).1) env.rounds
      (0, afterStart cfg env g)
  else []

/-- Each round sends one request. -/
theorem pingRound_numsent (cfg : Config) (deadline : ℚ) (r : Round) (s : UInt32 × State) :
    (pingRound cfg deadline r s).state.2.numsent = s.2.numsent + 1 := by
  obtain ⟨c, g⟩ := s
  have hJ := numsent_receiveSteps cfg fun n => n = g.numsent + 1
  have hsend := sendRequest_numsent cfg c r.send g
  have hwait := waitTime_steps hJ deadline cfg.packetwait r.waitClock (l := []) hsend
  have hrecv := pingRecv_steps hJ cfg
    (waitTime deadline cfg.packetwait r.waitClock (sendRequest cfg c r.send g)).1 r.recv
    (l := []) hwait
  unfold pingRound
  dsimp only
  split
  · exact hwait
  · split
    · rename_i g₁ h₁
      rw [h₁] at hrecv
      exact hrecv
    · rename_i n g₁ h₁
      rw [h₁] at hrecv
      exact hrecv
    · rename_i g₁ h₁
      rw [h₁] at hrecv
      have hdeliver := deliver_steps hJ r.signal (l := []) hrecv
      unfold nextRound
      split <;> exact hdeliver

/-- There is a stamp for each request that `numsent` counts. -/
theorem numsent_eq_length_requestStamps (cfg : Config) (env : RunEnv) (g : State) :
    (pingLoop cfg env g).state.2.numsent =
      g.numsent + .ofNat (requestStamps cfg env g).length := by
  have hstart : (afterStart cfg env g).numsent = g.numsent := by
    have hclock : (startDeadline cfg env.startClock g).2.numsent = g.numsent := by
      unfold startDeadline
      dsimp only
      split
      · exact getclock_numsent env.startClock g
      · rfl
    exact deliver_steps (numsent_receiveSteps cfg fun n => n = g.numsent) env.signal (l := [])
      hclock
  unfold requestStamps
  by_cases htest : loopTest cfg 0 (afterStart cfg env g) = true
  · have hloop : pingLoop cfg env g =
        drive (pingRound cfg (startDeadline cfg env.startClock g).1) env.rounds
          (0, afterStart cfg env g) := if_pos htest
    rw [if_pos htest, hloop]
    refine drive_gather (l := []) (J := fun (l : List Timespec) (s : UInt32 × State) =>
      s.2.numsent = g.numsent + .ofNat l.length) (fun r _ l s hs => ?_) ?_
    · rw [pingRound_numsent, hs, List.length_append, UInt32.ofNat_add, UInt32.add_assoc]
      rfl
    · rw [hstart]
      exact (UInt32.add_zero _).symm
  · have hloop : pingLoop cfg env g = .stop .ended (0, afterStart cfg env g) := if_neg htest
    rw [if_neg htest, hloop]
    exact hstart.trans (UInt32.add_zero _).symm

/-- What holds of the stamps of any two consecutive rounds makes them a chain. -/
theorem requestStamps_isChain {cfg : Config} {env : RunEnv} {g : State}
    {R : Timespec → Timespec → Prop}
    (h : ∀ r s r' s', RoundsFollow cfg env g r s r' s' →
      R r.send.clkAfter.timespec r'.send.clkAfter.timespec) :
    (requestStamps cfg env g).IsChain R := by
  unfold requestStamps
  split
  · rename_i htest
    refine isChain_gather fun r s r' s' hr => ?_
    rw [sendRequest_lastpacketsent, sendRequest_lastpacketsent]
    exact h r s r' s' ⟨htest, hr⟩
  · exact .nil

/-! ### Without a deadline -/

/-- A wait of whole seconds carries nothing into the seconds of its end. -/
theorem not_earlyReading_of_whole {packetwait : UInt32} (h : packetwait.toNat % 1000000 = 0)
    (start n : WallClock) : ¬ EarlyReading start packetwait n := by
  intro hearly
  have hcarry := earlyReading_carry start n packetwait hearly
  have hlt := start.usec_lt
  omega

/-- The stamps are at least `packetwait` microseconds apart. -/
def WaitApart (packetwait : UInt32) (ts ts' : Timespec) : Prop :=
  ts.nanos + 1000 * packetwait.toNat ≤ ts'.nanos

instance (packetwait : UInt32) : DecidableRel (WaitApart packetwait) := fun _ _ => by
  unfold WaitApart; infer_instance

theorem roundWait_of_no_deadline {cfg : Config} (hdeadline : cfg.deadline < 0) (clk : ClockCall)
    (g : State) (r : Round) (s : UInt32 × State) :
    (roundWait cfg (startDeadline cfg clk g).1 r s).1 = cfg.packetwait := by
  unfold roundWait waitTime startDeadline
  rw [if_neg (not_lt.mpr hdeadline.le), if_pos hdeadline]

theorem requestStamps_waitApart {cfg : Config} {env : RunEnv} {g : State}
    (htime : RunKeepsTime cfg env g) (hdeadline : cfg.deadline < 0)
    (hwhole : cfg.packetwait.toNat % 1000000 = 0) :
    (requestStamps cfg env g).IsChain (WaitApart cfg.packetwait) := by
  refine requestStamps_isChain fun r s r' s' hr => ?_
  have hround := round_paced htime hr (roundWait_of_no_deadline hdeadline _ _ r s)
    fun start n _ => not_earlyReading_of_whole hwhole start n
  unfold WaitApart
  rw [nanos_timespec, nanos_timespec]
  linarith

/-- **Pacing.** In a run without a deadline whose clock keeps time, and with a wait of whole
seconds, a request is stamped at least `n * packetwait` microseconds behind the one `n` requests
before. -/
theorem pingLoop_paced {cfg : Config} {env : RunEnv} {g : State} (htime : RunKeepsTime cfg env g)
    (hdeadline : cfg.deadline < 0) (hwhole : cfg.packetwait.toNat % 1000000 = 0) {i j : ℕ}
    {ts ts' : Timespec} (hij : i ≤ j) (hi : (requestStamps cfg env g)[i]? = some ts)
    (hj : (requestStamps cfg env g)[j]? = some ts') :
    ts.nanos + (j - i : ℕ) * (1000 * cfg.packetwait.toNat) ≤ ts'.nanos := by
  have hchain := requestStamps_waitApart htime hdeadline hwhole
  obtain ⟨hi', rfl⟩ := List.getElem?_eq_some_iff.mp hi
  obtain ⟨hj', rfl⟩ := List.getElem?_eq_some_iff.mp hj
  exact spaced_getElem hchain hij hi' hj'

/-! ### With a deadline -/

/-- A run of two rounds keeps time if the readings are in order and no `select` of the first round
times out after the second request. -/
theorem runKeepsTime_of_two {cfg : Config} {env : RunEnv} {g : State} {r r' : Round}
    (hrounds : env.rounds = [r, r']) (hdeadline : cfg.deadline < 0)
    (hreadings : (runReadings cfg env g).IsChain NotAfter) {start : WallClock}
    (hstart : r.recv.start = .ok start)
    (hlasted : ∀ w ∈ r.recv.wakeups, ∀ n, w.clock = .ok n → w.select = .timeout →
      n.micros + cfg.packetwait.toNat ≤ r'.send.clkAfter.timeval.micros) :
    RunKeepsTime cfg env g := by
  refine ⟨hreadings, fun r₁ s r₁' s' w g₁ n c hr hreach htimeout => ?_⟩
  obtain ⟨l, t, heq, -, -⟩ := hr.2
  rw [hrounds] at heq
  cases l with
  | cons r₂ l =>
    have hlen := congrArg List.length heq
    simp at hlen
    omega
  | nil =>
    obtain ⟨rfl, htail⟩ := List.cons.inj heq
    obtain ⟨rfl, -⟩ := List.cons.inj htail
    have hmem := hlasted w hreach.takesPlace.2.mem n hreach.clock htimeout
    have hle : c.timeout.micros ≤ cfg.packetwait.toNat := by
      rw [roundWait_of_no_deadline hdeadline] at hreach
      rcases hreach.call_cases hstart with ⟨-, hzero, -⟩ | ⟨hneg, hlong, hleft, -⟩
      · rw [hzero]
        exact Int.natCast_nonneg _
      · rw [hleft]
        exact windowLeft_le start n cfg.packetwait hneg hlong
    linarith

/-- One reply, then a timeout, and the second request a second behind the first. -/
theorem runOf_keepsTime :
    RunKeepsTime twiceConfig (runOf [[arpReplyFrame 7], []]) State.init := by
  refine runKeepsTime_of_two rfl (by decide +kernel) (by decide +kernel) rfl fun w hw n hn _ => ?_
  simp only [roundAt, List.mem_cons, List.not_mem_nil, or_false] at hw
  rcases hw with rfl | rfl <;> cases hn <;> decide

theorem pingLoop_paced_twice :
    (readingAt 0).timespec.nanos + (1 - 0 : ℕ) * (1000 * twiceConfig.packetwait.toNat) ≤
      (readingAt 1).timespec.nanos :=
  pingLoop_paced runOf_keepsTime (by decide +kernel) rfl (Nat.zero_le 1) (by decide +kernel)
    (by decide +kernel)

/-- Pinging twice with `-W 0.5`, first at 0.9 s. A packet that is none of its business wakes the
call at 1.1 s. -/
def rushedConfig : Config := { twiceConfig with packetwait := 500000 }
def rushedRun : RunEnv where
  startClock := .ok carryStart
  signal := false
  rounds :=
    [⟨⟨true, true, true, true, .ok carryStart, .ok carryStart, 0⟩, .ok carryStart, carryEnv, false⟩,
      ⟨⟨true, true, true, true, .ok carryLater, .ok carryLater, 0⟩, .ok carryLater,
        ⟨.ok carryLater, true, [⟨.ok carryLater, false, .timeout⟩]⟩, false⟩]

/-- The second request follows after 0.2 s. -/
theorem requestStamps_rushed :
    RunKeepsTime rushedConfig rushedRun State.init ∧ rushedConfig.deadline < 0 ∧
      ¬ (requestStamps rushedConfig rushedRun State.init).IsChain
        (WaitApart rushedConfig.packetwait) := by
  refine ⟨?_, by decide +kernel, ?_⟩
  · refine runKeepsTime_of_two rfl (by decide +kernel) (by decide +kernel) rfl ?_
    intro w hw n _ htimeout
    simp only [carryEnv, List.mem_cons, List.not_mem_nil, or_false] at hw
    rcases hw with rfl | rfl <;> cases htimeout
  · have hstamps : requestStamps rushedConfig rushedRun State.init =
        [(ClockCall.ok carryStart).timespec, (ClockCall.ok carryLater).timespec] := by
      decide +kernel
    rw [hstamps, List.isChain_pair]
    decide

end Arping
