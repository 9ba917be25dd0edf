import Arping.Deadline
import Arping.Program
import Arping.ReceiveWindow

/-!
# Every run ends

The list of answers on which a run is modelled may end before the run does. It does not if the
environment makes progress: `get_mac` returns, each wait is closed at some time, by a timeout, a
signal, a failing call or a clock that has passed the end of the wait, and the rounds last for the
count of `-c` or until the clock has passed the deadline of `-w` (`arpingMain_ends`).
-/

namespace Arping

open ScriptLoop

/-! ## A wait -/

/-- A pass of `ping_recv` that no wait of at most `packetwait` microseconds goes beyond. -/
inductive WakeUp.Closes (packetwait : UInt32) (start : ClockCall) (w : WakeUp) : Prop
  | signal (h : w.signal = true)
  | noClock (h : ¬ w.clock.Succeeds)
  | timeout (h : w.select = .timeout)
  | failed (h : w.select = .failed)
  | past {s n : WallClock} (hstart : start = .ok s) (hclock : w.clock = .ok n)
      (h : endMicros s packetwait < n.micros)

section Wait

variable {cfg : Config} {packetwait wait : UInt32} {w : WakeUp} {g : State}

/-- A reading past the end of the wait is seen to be one. -/
theorem callOf_done_of_past {s n : WallClock} (hclock : w.clock = .ok n)
    (h : endMicros s wait < n.micros) :
    (callOf wait (endTime wait (ClockCall.ok s).timespec) w).done = true := by
  have hplan := congrArg Prod.snd (plan_eq s n wait)
  rw [if_pos (Or.inl ((windowLeft_sec_neg_iff s n wait).mpr (Or.inl h)))] at hplan
  unfold callOf
  rw [hclock]
  exact hplan

theorem endMicros_mono {s : WallClock} (h : wait ≤ packetwait) :
    endMicros s wait ≤ endMicros s packetwait := by
  have hle : wait.toNat ≤ packetwait.toNat := UInt32.le_iff_toNat_le.mp h
  unfold endMicros
  omega

theorem recvPass_closes {func : Handler} {start : ClockCall} {old : UInt32}
    (h : w.Closes packetwait start) (hwait : wait ≤ packetwait) (g : State) :
    ∃ e g', recvPass cfg func wait (endTime wait start.timespec) old w g = .stop e g' := by
  cases halive : (afterClock w g).timeToDie with
  | true => exact ⟨_, _, recvPass_of_die halive⟩
  | false =>
    obtain ⟨n, hn⟩ := exists_clock_of_alive halive
    cases h with
    | signal h =>
      unfold afterClock at halive
      rw [h] at halive
      cases halive
    | noClock h =>
      rw [hn] at h
      exact absurd trivial h
    | timeout h =>
      rw [recvPass_of_alive halive, h]
      exact ⟨_, _, if_pos rfl⟩
    | failed h =>
      rw [recvPass_of_alive halive, h]
      exact ⟨_, _, if_pos rfl⟩
    | @past s n' hstart hclock h =>
      have hlt := lt_of_le_of_lt (endMicros_mono (s := s) hwait) h
      rw [hstart]
      exact ⟨_, recvPass_of_done halive (callOf_done_of_past hclock hlt)⟩

/-- A call with such a pass returns, or exits. -/
theorem pingRecv_closes (func : Handler) {env : RecvEnv} {w : WakeUp} (hw : w ∈ env.wakeups)
    (h : w.Closes packetwait env.start) (hwait : wait ≤ packetwait) (g : State) :
    ∃ e g', pingRecv cfg wait func env g = .stop e g' := by
  unfold pingRecv
  dsimp only
  split
  · exact ⟨_, _, rfl⟩
  · exact drive_stops_of_mem hw (recvPass_closes h hwait) _

end Wait

/-! ## The rounds -/

/-- `wait_time` never lengthens the wait. -/
theorem waitTime_le (deadline : ℚ) (packetwait : UInt32) (clk : ClockCall) (g : State) :
    (waitTime deadline packetwait clk g).1 ≤ packetwait := by
  unfold waitTime getclock
  dsimp only
  split_ifs with hnone hneg hlong
  · exact UInt32.le_refl packetwait
  · exact UInt32.le_iff_toNat_le.mpr (Nat.zero_le _)
  · exact UInt32.le_refl packetwait
  · rw [packetwait_sec] at hlong
    have hsec := whole_seconds_le packetwait
    have hfloor : ⌊(deadline - timespec2dbl clk.timespec) * 1000000⌋₊ ≤ packetwait.toNat :=
      Nat.floor_le_of_le (by linarith)
    rw [UInt32.le_iff_toNat_le, toUint32_toNat hfloor]
    exact hfloor

/-- Past the deadline there is no wait. -/
theorem waitTime_eq_zero {deadline : ℚ} {clk : ClockCall} (hdeadline : 0 ≤ deadline)
    (h : deadline < timespec2dbl clk.timespec) (packetwait : UInt32) (g : State) :
    (waitTime deadline packetwait clk g).1 = 0 := by
  unfold waitTime getclock
  dsimp only
  rw [if_neg (not_lt.mpr hdeadline), if_pos (by linarith)]

/-- The wait of the round is closed. -/
def Round.Closes (cfg : Config) (r : Round) : Prop :=
  ∃ w ∈ r.recv.wakeups, w.Closes cfg.packetwait r.recv.start

/-- The clock has passed the deadline. -/
def Round.Overdue (deadline : ℚ) (r : Round) : Prop :=
  0 ≤ deadline ∧ deadline < timespec2dbl r.waitClock.timespec

section Loop

variable {cfg : Config} {deadline : ℚ} {r : Round} {s : UInt32 × State}

theorem Round.Overdue.ends (h : r.Overdue deadline) (s : UInt32 × State) :
    ∃ e s', pingRound cfg deadline r s = .stop e s' := by
  unfold pingRound
  dsimp only
  rw [if_pos (waitTime_eq_zero h.1 h.2 _ _)]
  exact ⟨_, _, rfl⟩

/-- A round that goes on has counted up to a count below `maxcount`. -/
theorem pingRound_next {s' : UInt32 × State} (h : pingRound cfg deadline r s = .next s') :
    s'.1 = s.1 + 1 ∧ s'.1 < cfg.maxcount := by
  unfold pingRound at h
  dsimp only at h
  split at h
  · cases h
  · split at h
    · cases h
    · cases h
    · unfold nextRound at h
      split at h
      · rename_i htest
        cases h
        unfold loopTest at htest
        rw [Bool.and_eq_true, decide_eq_true_eq] at htest
        exact ⟨rfl, htest.1⟩
      · cases h

/-- The rounds that the count has left. -/
theorem pingRound_measure {s' : UInt32 × State} (hs : s.1 < cfg.maxcount)
    (h : pingRound cfg deadline r s = .next s') :
    s'.1 < cfg.maxcount ∧
      cfg.maxcount.toNat - s'.1.toNat < cfg.maxcount.toNat - s.1.toNat := by
  obtain ⟨hsucc, hlt⟩ := pingRound_next h
  have hs' := UInt32.lt_iff_toNat_lt.mp hs
  have hlt' := UInt32.lt_iff_toNat_lt.mp hlt
  have hmax := cfg.maxcount.toNat_lt
  refine ⟨hlt, ?_⟩
  rw [hsucc, UInt32.toNat_add, UInt32.toNat_one]
  omega

/-- A round with a closed wait does not wait for ever. -/
theorem pingRound_waits (h : r.Closes cfg) {s' : UInt32 × State} :
    pingRound cfg deadline r s ≠ .stop .waiting s' := by
  obtain ⟨w, hw, hcloses⟩ := h
  intro hround
  unfold pingRound at hround
  dsimp only at hround
  split at hround
  · cases hround
  · have hwait := waitTime_le deadline cfg.packetwait r.waitClock (sendRequest cfg s.1 r.send s.2)
    obtain ⟨e, g', hrecv⟩ := pingRecv_closes (recvHandler cfg) hw hcloses hwait
      (waitTime deadline cfg.packetwait r.waitClock (sendRequest cfg s.1 r.send s.2)).2
    rw [hrecv] at hround
    cases e with
    | returned =>
      dsimp only at hround
      unfold nextRound at hround
      split at hround <;> cases hround
    | exited n => cases hround

end Loop

/-! ## The program -/

/-- The environment makes progress: each wait is closed, and the rounds last for the count, or one
of them is past the deadline. -/
structure RunEnv.Progresses (cfg : Config) (run : RunEnv) : Prop where
  closes : ∀ r ∈ run.rounds, r.Closes cfg
  lasts : cfg.maxcount.toNat ≤ run.rounds.length ∨
    ∃ r ∈ run.rounds, r.Overdue (startDeadline cfg run.startClock State.init).1

theorem pingLoop_ends {cfg : Config} {run : RunEnv} (h : run.Progresses cfg) :
    ∃ e s, pingLoop cfg run State.init = .stop e s ∧ e ≠ .waiting := by
  unfold pingLoop
  dsimp only
  split
  · rename_i htest
    have hdrive : ∃ e s', drive (pingRound cfg (startDeadline cfg run.startClock State.init).1)
        run.rounds (0, deliver run.signal (startDeadline cfg run.startClock State.init).2) =
          .stop e s' := by
      rcases h.lasts with hlen | ⟨r, hr, hoverdue⟩
      · refine drive_stops_of_measure (I := fun s => s.1 < cfg.maxcount)
          (fun s => cfg.maxcount.toNat - s.1.toNat) (fun s hs => ?_)
          (fun r s s' hs hnext => pingRound_measure hs hnext) ?_ ((Nat.sub_le _ _).trans hlen)
        · have hs' := UInt32.lt_iff_toNat_lt.mp hs
          omega
        · unfold loopTest at htest
          rw [Bool.and_eq_true, decide_eq_true_eq] at htest
          exact htest.1
      · exact drive_stops_of_mem hr hoverdue.ends _
    obtain ⟨e, s', hstop⟩ := hdrive
    refine ⟨e, s', hstop, ?_⟩
    rintro rfl
    obtain ⟨r, t, hvisits, hround⟩ := exists_visits_of_stop hstop
    exact pingRound_waits (h.closes r hvisits.mem) hround
  · exact ⟨.ended, _, rfl, by simp⟩

/-- **Every run ends.** Whatever the arguments, in an environment that makes progress the program
ends with an exit status. -/
theorem arpingMain_ends (env : StartupEnv) (argv : List String) (run : RunEnv)
    (hmac : ∀ ifname, (env.getMac ifname).isSome = true)
    (h : ∀ l, startup env argv = .ok l → run.Progresses l.cfg) :
    ∃ n, arpingMain env argv run = some n := by
  unfold arpingMain
  cases hstart : startup env argv with
  | error e =>
    rcases startup_error hstart with ⟨hstatus, -⟩ | ⟨hstatus | ⟨-, ifname, hnone⟩, -⟩
    · exact ⟨0, hstatus⟩
    · exact ⟨1, hstatus⟩
    · have hsome := hmac ifname
      rw [hnone] at hsome
      cases hsome
  | ok l =>
    obtain ⟨e, s, hloop, hne⟩ := pingLoop_ends (h l hstart)
    dsimp only
    rw [hloop]
    cases e with
    | ended => exact ⟨_, rfl⟩
    | exited n => exact ⟨n, rfl⟩
    | waiting => exact absurd rfl hne

/-- `-c 1 10.0.0.1`: the only wait ends with a timeout. -/
theorem arpingMain_ends_one :
    ∃ n, arpingMain workingEnv ["-c", "1", "10.0.0.1"] (runOf [[arpReplyFrame 7]]) = some n := by
  refine arpingMain_ends workingEnv ["-c", "1", "10.0.0.1"] _
    (fun ifname => by rw [workingEnv_getMac]; rfl) fun l hl => ?_
  cases hl
  refine ⟨fun r hr => ?_, Or.inl (by decide +kernel)⟩
  obtain rfl : r = roundAt 0 [arpReplyFrame 7] := List.mem_singleton.mp hr
  exact ⟨_, List.mem_cons_of_mem _ (List.mem_singleton_self _), .timeout rfl⟩

end Arping
