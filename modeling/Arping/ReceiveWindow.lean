import Arping.Runs

/-!
# The receive window

`ping_recv` is to wait until `packetwait` microseconds after its first clock reading. The end of
the window and the time left are kept as pairs that are normalised only downwards, so the
nanoseconds of the time left can be above `10 ^ 9` (`timeLeft_eq_windowLeft`). No timeout is too
long and a stepped clock ends the loop all the same (`pingRecv_timeouts`). But where the fractions
of the start and of the wait add up to a second, a reading from a later second can make the timeout
ill-formed (`pingRecv_timeouts_wellFormed_iff`), and one from behind the last whole second of the
wait counts as past the end (`pingRecv_neverEarly_iff`).
-/

namespace Arping

open ScriptLoop

/-! ## The time left -/

/-- The end of the window in microseconds. -/
def endMicros (s : WallClock) (packetwait : UInt32) : ℤ := s.micros + packetwait.toNat

/-- The time left at the reading `n` in seconds and microseconds, as the pass computes it: a second
is borrowed if the fractions ask for it, and none is carried. -/
def windowLeft (s n : WallClock) (packetwait : UInt32) : Timeval :=
  let sec := s.tvSec + (packetwait.toNat / 1000000 : ℕ) - n.tvSec
  let usec := s.tvUsec + (packetwait.toNat % 1000000 : ℕ) - n.tvUsec
  if usec < 0 then ⟨sec - 1, usec + 1000000⟩ else ⟨sec, usec⟩

/-- `LongerThan` in seconds and microseconds. -/
def Exceeds (packetwait : UInt32) (tv : Timeval) : Prop :=
  tv.tvSec > (packetwait.toNat / 1000000 : ℕ) ∨
    (tv.tvSec = (packetwait.toNat / 1000000 : ℕ) ∧ tv.tvUsec > (packetwait.toNat % 1000000 : ℕ))

instance (packetwait : UInt32) (tv : Timeval) : Decidable (Exceeds packetwait tv) := by
  unfold Exceeds; infer_instance

section OnePass

variable (s n : WallClock) (packetwait : UInt32)

/-- Nothing is borrowed for the end, and nothing carried. -/
theorem endTime_ok :
    endTime packetwait (ClockCall.ok s).timespec =
      ⟨s.tvSec + (packetwait.toNat / 1000000 : ℕ),
        (s.tvUsec + (packetwait.toNat % 1000000 : ℕ)) * 1000⟩ := by
  have husec := s.usec_nonneg
  have hnsec : (1000 * (packetwait % 1000000)).toNat = 1000 * (packetwait.toNat % 1000000) := by
    rw [UInt32.toNat_mul, packetwait_usec]
    exact Nat.mod_eq_of_lt (by simp; omega)
  unfold endTime
  rw [packetwait_sec, hnsec, ClockCall.timespec_ok_sec, ClockCall.timespec_ok_nsec,
    fixupTimespec_of_nonneg (by dsimp only; omega), Timespec.mk.injEq]
  refine ⟨rfl, ?_⟩
  push_cast
  ring

theorem timeLeft_eq_windowLeft :
    timeLeft (endTime packetwait (ClockCall.ok s).timespec) (ClockCall.ok n).timespec =
      ⟨(windowLeft s n packetwait).tvSec, (windowLeft s n packetwait).tvUsec * 1000⟩ := by
  have hs := s.usec_nonneg
  have hn := n.usec_lt
  unfold timeLeft windowLeft
  rw [endTime_ok, ClockCall.timespec_ok_sec, ClockCall.timespec_ok_nsec,
    fixupTimespec_eq (by dsimp only; omega)]
  dsimp only
  by_cases h : s.tvUsec + (packetwait.toNat % 1000000 : ℕ) - n.tvUsec < 0
  · rw [if_pos h, if_pos (by omega), Timespec.mk.injEq]
    exact ⟨rfl, by ring⟩
  · rw [if_neg h, if_neg (by omega), Timespec.mk.injEq]
    exact ⟨rfl, by ring⟩

theorem longerThan_iff (tv : Timeval) :
    LongerThan packetwait ⟨tv.tvSec, tv.tvUsec * 1000⟩ ↔ Exceeds packetwait tv := by
  unfold LongerThan Exceeds
  rw [packetwait_sec, packetwait_usec, Int.mul_tdiv_cancel _ (by norm_num)]

/-- The wait of one nanosecond, which is none in microseconds, is never too long. -/
theorem not_longerThan_ns : ¬ LongerThan packetwait ⟨0, 1⟩ := by
  unfold LongerThan
  dsimp only
  rw [show (1 : ℤ).tdiv 1000 = 0 from rfl]
  omega

/-- What a pass asks of `select`, and whether it is done before. -/
theorem plan_eq :
    (selectTimeout (plan packetwait (endTime packetwait (ClockCall.ok s).timespec)
        (ClockCall.ok n).timespec).1,
      (plan packetwait (endTime packetwait (ClockCall.ok s).timespec)
        (ClockCall.ok n).timespec).2) =
      if (windowLeft s n packetwait).tvSec < 0 ∨ Exceeds packetwait (windowLeft s n packetwait)
      then (⟨0, 0⟩, true) else (windowLeft s n packetwait, false) := by
  unfold plan
  rw [timeLeft_eq_windowLeft]
  dsimp only
  by_cases hneg : (windowLeft s n packetwait).tvSec < 0
  · rw [if_pos hneg, if_pos (Or.inl hneg)]
    dsimp only
    rw [if_neg (not_longerThan_ns packetwait)]
    rfl
  · rw [if_neg hneg]
    dsimp only
    by_cases hlong : Exceeds packetwait (windowLeft s n packetwait)
    · rw [if_pos ((longerThan_iff packetwait _).mpr hlong), if_pos (Or.inr hlong)]
      rfl
    · rw [if_neg (mt (longerThan_iff packetwait _).mp hlong), if_neg (by tauto), selectTimeout]
      dsimp only
      rw [Int.mul_tdiv_cancel _ (by norm_num)]

/-- The time left is the time until the end, in whatever way it is split. -/
theorem windowLeft_micros :
    (windowLeft s n packetwait).micros = endMicros s packetwait - n.micros := by
  unfold windowLeft endMicros Timeval.micros
  dsimp only
  split <;> dsimp only <;> omega

theorem windowLeft_usec :
    0 ≤ (windowLeft s n packetwait).tvUsec ∧ (windowLeft s n packetwait).tvUsec < 2000000 := by
  have hs := s.usec_lt
  have hn := n.usec_nonneg
  have hn' := n.usec_lt
  have hs' := s.usec_nonneg
  unfold windowLeft
  dsimp only
  split <;> dsimp only <;> omega

/-- The reading lies behind the last whole second of the wait, but not behind its end. -/
def EarlyReading (s : WallClock) (packetwait : UInt32) (n : WallClock) : Prop :=
  s.tvSec + (packetwait.toNat / 1000000 : ℕ) < n.tvSec ∧ n.micros ≤ endMicros s packetwait

instance (s n : WallClock) (packetwait : UInt32) : Decidable (EarlyReading s packetwait n) := by
  unfold EarlyReading; infer_instance

/-- The reading is from a later second than the start and within the whole seconds of the wait,
and a second of the fractions that the end is made of is still uncarried. -/
def CarryReading (s : WallClock) (packetwait : UInt32) (n : WallClock) : Prop :=
  s.tvSec < n.tvSec ∧ n.tvSec ≤ s.tvSec + (packetwait.toNat / 1000000 : ℕ) ∧
    n.tvUsec + 1000000 ≤ s.tvUsec + (packetwait.toNat % 1000000 : ℕ)

/-- Without a carry in the end of the window there are no such readings. -/
theorem earlyReading_carry (h : EarlyReading s packetwait n) :
    1000000 ≤ s.tvUsec + (packetwait.toNat % 1000000 : ℕ) := by
  have hn := n.usec_nonneg
  obtain ⟨hsec, hle⟩ := h
  unfold endMicros Timeval.micros at hle
  omega

/-- The sign test takes a reading for one past the end if it is, or if it is early. -/
theorem windowLeft_sec_neg_iff :
    (windowLeft s n packetwait).tvSec < 0 ↔
      endMicros s packetwait < n.micros ∨ EarlyReading s packetwait n := by
  have hs := s.usec_nonneg
  have hs' := s.usec_lt
  have hn := n.usec_nonneg
  have hn' := n.usec_lt
  unfold windowLeft EarlyReading endMicros Timeval.micros
  dsimp only
  split <;> dsimp only <;> omega

/-- A pair that passes both tests is at most the full period. -/
theorem windowLeft_le (hneg : ¬ (windowLeft s n packetwait).tvSec < 0)
    (hlong : ¬ Exceeds packetwait (windowLeft s n packetwait)) :
    (windowLeft s n packetwait).micros ≤ packetwait.toNat := by
  have hs := s.usec_nonneg
  have hs' := s.usec_lt
  have hn := n.usec_nonneg
  have hn' := n.usec_lt
  revert hneg hlong
  unfold windowLeft Exceeds Timeval.micros
  dsimp only
  split <;> dsimp only <;> omega

/-- The second test is for a clock that has been stepped back behind the start. -/
theorem exceeds_windowLeft_iff :
    Exceeds packetwait (windowLeft s n packetwait) ↔ n.micros < s.micros := by
  have hs := s.usec_nonneg
  have hs' := s.usec_lt
  have hn := n.usec_nonneg
  have hn' := n.usec_lt
  unfold windowLeft Exceeds Timeval.micros
  dsimp only
  split <;> dsimp only <;> omega

/-- A pair that passes both tests is a proper timeout unless a second is left uncarried. -/
theorem windowLeft_wellFormed_iff :
    ((windowLeft s n packetwait).tvSec < 0 ∨ Exceeds packetwait (windowLeft s n packetwait) ∨
      (windowLeft s n packetwait).WellFormed) ↔ ¬ CarryReading s packetwait n := by
  have hs := s.usec_nonneg
  have hs' := s.usec_lt
  have hn := n.usec_nonneg
  have hn' := n.usec_lt
  unfold windowLeft Exceeds Timeval.WellFormed CarryReading
  dsimp only
  split <;> dsimp only <;> omega

end OnePass

/-! ## The passes of one call -/

/-- A pass of the call reads the clock and reaches the `select` call `c`. -/
structure ReachesSelect (cfg : Config) (packetwait : UInt32) (func : Handler) (env : RecvEnv)
    (g : State) (w : WakeUp) (g₁ : State) (n : WallClock) (c : SelectCall) : Prop where
  takesPlace : TakesPlace cfg packetwait func env g w g₁
  clock : w.clock = .ok n
  call : (beforeSelect packetwait (endTime packetwait env.start.timespec) w g₁).2 = some c

/-- A pass reaches `select` unless `time_to_die` is set. -/
theorem beforeSelect_call_iff {packetwait : UInt32} {endtime : Timespec} {w : WakeUp} {g : State}
    {c : SelectCall} :
    (beforeSelect packetwait endtime w g).2 = some c ↔
      (afterClock w g).timeToDie = false ∧ callOf packetwait endtime w = c := by
  rw [beforeSelect_eq]
  dsimp only
  cases h : (afterClock w g).timeToDie with
  | true => simp
  | false => simp

/-- No pass reaches `select` whose clock call failed. -/
theorem exists_clock_of_alive {w : WakeUp} {g : State} (h : (afterClock w g).timeToDie = false) :
    ∃ n, w.clock = .ok n := by
  rcases hclock : w.clock with n | junk
  · exact ⟨n, rfl⟩
  · rw [afterClock, hclock] at h
    cases hsignal : w.signal with
    | true => rw [hsignal] at h; cases h
    | false => rw [hsignal] at h; cases h

/-- A pass that is done before `select` is the last one. -/
theorem recvPass_of_done {cfg : Config} {func : Handler} {packetwait : UInt32}
    {endtime : Timespec} {old : UInt32} {w : WakeUp} {g : State}
    (halive : (afterClock w g).timeToDie = false)
    (hdone : (callOf packetwait endtime w).done = true) :
    ∃ g', recvPass cfg func packetwait endtime old w g = .stop .returned g' := by
  have hafter : ∀ g₁, (afterSelect cfg func old (callOf packetwait endtime w).done w.select g₁).2 =
      true := by
    intro g₁
    cases w.select with
    | timeout => rfl
    | interrupted => exact hdone
    | failed => rfl
    | ready batch => exact hdone
  rw [recvPass_of_alive halive]
  dsimp only
  rw [if_pos (hafter _)]
  exact ⟨_, rfl⟩

/-- A pass that delivers packets and is not done goes on. -/
theorem recvPass_of_ready {cfg : Config} {func : Handler} {packetwait : UInt32}
    {endtime : Timespec} {old : UInt32} {w : WakeUp} {g : State} {batch : List Arrival}
    (halive : (afterClock w g).timeToDie = false)
    (hdone : (callOf packetwait endtime w).done = false) (hready : w.select = .ready batch) :
    recvPass cfg func packetwait endtime old w g =
      .next (pcapDispatch func batch
        ((afterClock w g).emit (.select (callOf packetwait endtime w)))) := by
  rw [recvPass_of_alive halive, hready]
  dsimp only [afterSelect]
  rw [hdone, if_neg Bool.false_ne_true]

section Call

variable {cfg : Config} {packetwait : UInt32} {func : Handler} {env : RecvEnv} {g : State}
  {s : WallClock} (hstart : env.start = .ok s)

include hstart

/-- The timeout and `done` of a call of `select`, in microseconds. -/
theorem ReachesSelect.call_cases {w : WakeUp} {g₁ : State} {n : WallClock} {c : SelectCall}
    (h : ReachesSelect cfg packetwait func env g w g₁ n c) :
    (((windowLeft s n packetwait).tvSec < 0 ∨ Exceeds packetwait (windowLeft s n packetwait)) ∧
        c.timeout = ⟨0, 0⟩ ∧ c.done = true) ∨
      (¬ (windowLeft s n packetwait).tvSec < 0 ∧
        ¬ Exceeds packetwait (windowLeft s n packetwait) ∧
        c.timeout = windowLeft s n packetwait ∧ c.done = false) := by
  have hplan := plan_eq s n packetwait
  have hcall := (beforeSelect_call_iff.mp h.call).2.symm
  rw [callOf, hstart, h.clock] at hcall
  rw [Prod.mk.injEq] at hplan
  by_cases hdone :
      (windowLeft s n packetwait).tvSec < 0 ∨ Exceeds packetwait (windowLeft s n packetwait)
  · rw [if_pos hdone] at hplan
    rw [hcall]
    exact Or.inl ⟨hdone, hplan.1, hplan.2⟩
  · rw [if_neg hdone] at hplan
    rw [hcall]
    exact Or.inr ⟨fun h => hdone (Or.inl h), fun h => hdone (Or.inr h), hplan.1, hplan.2⟩

/-- **Never too long.** In every pass that reaches `select` the timeout lies between 0 and
`packetwait`; past the end, or before the start, it is 0 and the pass is the last one; and unless
the pass is done already, it ends exactly where the window does. -/
theorem pingRecv_timeouts {w : WakeUp} {g₁ : State} {n : WallClock} {c : SelectCall}
    (h : ReachesSelect cfg packetwait func env g w g₁ n c) :
    (0 ≤ c.timeout.micros ∧ c.timeout.micros ≤ packetwait.toNat) ∧
      (endMicros s packetwait < n.micros ∨ n.micros < s.micros →
        c.timeout.micros = 0 ∧
          ∃ g', passOf cfg packetwait func env g w g₁ = .stop .returned g') ∧
      (c.done = false → n.micros + c.timeout.micros = endMicros s packetwait) := by
  rcases h.call_cases hstart with ⟨-, htimeout, hdone⟩ | ⟨hneg, hlong, htimeout, hdone⟩
  · obtain ⟨halive, hcall⟩ := beforeSelect_call_iff.mp h.call
    rw [htimeout, hdone]
    rw [← hcall] at hdone
    refine ⟨⟨le_refl 0, Int.natCast_nonneg _⟩, ?_, ?_⟩
    · intro _
      exact ⟨rfl, recvPass_of_done halive hdone⟩
    · intro hfalse
      cases hfalse
  · have hmicros := windowLeft_micros s n packetwait
    have husec := (windowLeft_usec s n packetwait).1
    have hle := windowLeft_le s n packetwait hneg hlong
    have hsec := windowLeft_sec_neg_iff s n packetwait
    rw [htimeout]
    refine ⟨⟨?_, hle⟩, ?_, ?_⟩
    · unfold Timeval.micros
      omega
    · intro hout
      exfalso
      rcases hout with hpast | hbefore
      · exact hneg (hsec.mpr (Or.inl hpast))
      · unfold endMicros at hmicros
        omega
    · intro _
      omega

/-- **Well-formed timeouts.** Every timeout handed to `select` is well-formed exactly when no pass
that reaches `select` has a reading with a second left to carry. -/
theorem pingRecv_timeouts_wellFormed_iff :
    (∀ w g₁ n c, ReachesSelect cfg packetwait func env g w g₁ n c → c.timeout.WellFormed) ↔
      ∀ w g₁ n c, ReachesSelect cfg packetwait func env g w g₁ n c →
        ¬ CarryReading s packetwait n := by
  apply forall₄_congr
  intro w g₁ n c
  apply forall_congr'
  intro h
  rw [← windowLeft_wellFormed_iff]
  rcases h.call_cases hstart with ⟨hdone, htimeout, -⟩ | ⟨hneg, hlong, htimeout, -⟩
  · rw [htimeout]
    exact iff_of_true (by decide) (hdone.imp_right Or.inl)
  · rw [htimeout]
    tauto

end Call

/-- The call starts at 0.9 s; packets that are none of its business wake it at once and at 1.1 s. -/
def carryStart : WallClock := ⟨⟨0, 900000⟩, by decide, by decide⟩
def carryLater : WallClock := ⟨⟨1, 100000⟩, by decide, by decide⟩
def carryEnv : RecvEnv where
  start := .ok carryStart
  fdOk := true
  wakeups := [⟨.ok carryStart, false, .ready []⟩, ⟨.ok carryLater, false, .ready []⟩]

theorem carryEnv_first :
    ReachesSelect ipConfig 1500000 (recvHandler ipConfig) carryEnv State.init
      ⟨.ok carryStart, false, .ready []⟩ State.init carryStart
      ⟨⟨0, 900000000⟩, ⟨1, 500000⟩, false⟩ :=
  ⟨⟨rfl, visits_head _ _ _⟩, rfl, by decide +kernel⟩

theorem carryEnv_second :
    ReachesSelect ipConfig 1500000 (recvHandler ipConfig) carryEnv State.init
      ⟨.ok carryLater, false, .ready []⟩
      (pcapDispatch (recvHandler ipConfig) []
        (State.init.emit (.select (callOf 1500000
          (endTime 1500000 (ClockCall.ok carryStart).timespec)
          ⟨.ok carryStart, false, .ready []⟩))))
      carryLater ⟨⟨1, 100000000⟩, ⟨0, 1300000⟩, false⟩ :=
  ⟨⟨rfl, visits_cons.mpr (Or.inr
    ⟨_, recvPass_of_ready rfl (by decide +kernel) rfl, visits_head _ _ _⟩)⟩, rfl, by decide +kernel⟩

theorem pingRecv_timeouts_carryEnv :
    (0 ≤ (⟨1, 500000⟩ : Timeval).micros ∧
        (⟨1, 500000⟩ : Timeval).micros ≤ (1500000 : UInt32).toNat) ∧
      (endMicros carryStart 1500000 < carryStart.micros ∨ carryStart.micros < carryStart.micros →
        (⟨1, 500000⟩ : Timeval).micros = 0 ∧
          ∃ g', passOf ipConfig 1500000 (recvHandler ipConfig) carryEnv State.init
            ⟨.ok carryStart, false, .ready []⟩ State.init = .stop .returned g') ∧
      (false = false →
        carryStart.micros + (⟨1, 500000⟩ : Timeval).micros = endMicros carryStart 1500000) :=
  pingRecv_timeouts rfl carryEnv_first

theorem pingRecv_timeouts_wellFormed_iff_carryEnv :
    (∀ w g₁ n c,
        ReachesSelect ipConfig 1500000 (recvHandler ipConfig) carryEnv State.init w g₁ n c →
          c.timeout.WellFormed) ↔
      ∀ w g₁ n c,
        ReachesSelect ipConfig 1500000 (recvHandler ipConfig) carryEnv State.init w g₁ n c →
          ¬ CarryReading carryStart 1500000 n :=
  pingRecv_timeouts_wellFormed_iff rfl

/-- At 1.1 s the remaining 1.3 s are asked for as 1300000 microseconds. -/
theorem carryEnv_timeout_illFormed :
    ¬ ∀ w g₁ n c,
      ReachesSelect ipConfig 1500000 (recvHandler ipConfig) carryEnv State.init w g₁ n c →
        c.timeout.WellFormed :=
  fun h => absurd (h _ _ _ _ carryEnv_second) (by decide)

/-! ## How long a call lasts -/

/-- The clock keeps time during the call, which returns at the time `fin` (in microseconds): no
reading is before the first one or after the return, and a `select` that times out has lasted as
long as it was asked to. -/
structure KeepsTime (cfg : Config) (packetwait : UInt32) (func : Handler) (env : RecvEnv)
    (g : State) (s : WallClock) (fin : ℤ) : Prop where
  started : ∀ w g₁ n, TakesPlace cfg packetwait func env g w g₁ → w.clock = .ok n →
    s.micros ≤ n.micros
  returned : ∀ w g₁ n, TakesPlace cfg packetwait func env g w g₁ → w.clock = .ok n →
    n.micros ≤ fin
  lasted : ∀ w g₁ n c, ReachesSelect cfg packetwait func env g w g₁ n c → w.select = .timeout →
    n.micros + c.timeout.micros ≤ fin

/-- The call does not give up early: it returns after `packetwait` microseconds unless
`time_to_die` is set, and takes only a reading past the end for one. -/
structure NeverEarly (cfg : Config) (packetwait : UInt32) (func : Handler) (env : RecvEnv)
    (g : State) (s : WallClock) (fin : ℤ) : Prop where
  full : ∀ g', pingRecv cfg packetwait func env g = .stop .returned g' → g'.timeToDie = false →
    endMicros s packetwait ≤ fin
  expired : ∀ w g₁ n, TakesPlace cfg packetwait func env g w g₁ → w.clock = .ok n →
    (timeLeft (endTime packetwait env.start.timespec) w.clock.timespec).tvSec < 0 →
    endMicros s packetwait < n.micros

section Duration

variable {cfg : Config} {packetwait : UInt32} {func : Handler} {env : RecvEnv} {g : State}
  {s : WallClock} {fin : ℤ}

/-- The last pass, if `time_to_die` is not set, was done before `select` or `select` timed out. -/
theorem recvPass_returned {endtime : Timespec} {old : UInt32} {w : WakeUp} {g₁ g' : State}
    (h : recvPass cfg func packetwait endtime old w g₁ = .stop .returned g')
    (hdie : g'.timeToDie = false) :
    (afterClock w g₁).timeToDie = false ∧
      ((callOf packetwait endtime w).done = true ∨ w.select = .timeout) := by
  cases halive : (afterClock w g₁).timeToDie with
  | true =>
    rw [recvPass_of_die halive] at h
    obtain rfl := (Ctl.stop.inj h).2
    rw [halive] at hdie
    cases hdie
  | false =>
    refine ⟨rfl, ?_⟩
    rw [recvPass_of_alive halive] at h
    dsimp only at h
    split at h
    · rename_i hafter
      obtain rfl := (Ctl.stop.inj h).2
      cases hselect : w.select with
      | timeout => exact Or.inr rfl
      | interrupted =>
        rw [hselect] at hafter
        exact Or.inl hafter
      | failed =>
        rw [hselect] at hdie
        cases hdie
      | ready batch =>
        rw [hselect] at hafter
        exact Or.inl hafter
    · cases h

variable (hstart : env.start = .ok s) (htime : KeepsTime cfg packetwait func env g s fin)

include hstart

/-- The sign test sees what `windowLeft` says. -/
theorem expired_iff (n : WallClock) :
    (timeLeft (endTime packetwait env.start.timespec) (ClockCall.ok n).timespec).tvSec < 0 ↔
      endMicros s packetwait < n.micros ∨ EarlyReading s packetwait n := by
  rw [hstart, timeLeft_eq_windowLeft]
  exact windowLeft_sec_neg_iff s n packetwait

include htime

/-- A call whose sign tests are right lasts to the end of the window. -/
theorem endMicros_le_of_expired
    (hexpired : ∀ w g₁ n, TakesPlace cfg packetwait func env g w g₁ → w.clock = .ok n →
      ¬ EarlyReading s packetwait n) {g' : State}
    (hret : pingRecv cfg packetwait func env g = .stop .returned g')
    (hdie : g'.timeToDie = false) : endMicros s packetwait ≤ fin := by
  obtain ⟨w, g₁, htakes, hpass⟩ := (pingRecv_last_pass hret).resolve_left
    fun h => RecvExit.noConfusion h.2
  obtain ⟨halive, hlast⟩ := recvPass_returned hpass hdie
  obtain ⟨n, hclock⟩ := exists_clock_of_alive halive
  have hreach : ReachesSelect cfg packetwait func env g w g₁ n _ :=
    ⟨htakes, hclock, beforeSelect_call_iff.mpr ⟨halive, rfl⟩⟩
  have hstarted := htime.started w g₁ n htakes hclock
  have hfin := htime.returned w g₁ n htakes hclock
  have hearly := hexpired w g₁ n htakes hclock
  rcases hreach.call_cases hstart with ⟨hpast | hlong, -, -⟩ | ⟨-, -, htimeout, hdone⟩
  · have hend := (windowLeft_sec_neg_iff s n packetwait).mp hpast
    have : endMicros s packetwait < n.micros := hend.resolve_right hearly
    omega
  · exact absurd ((exceeds_windowLeft_iff s n packetwait).mp hlong) (not_lt.mpr hstarted)
  · have hselect : w.select = .timeout :=
      hlast.resolve_left (by rw [hdone]; exact Bool.false_ne_true)
    have hlasted := htime.lasted w g₁ n _ hreach hselect
    have hmicros := windowLeft_micros s n packetwait
    rw [htimeout] at hlasted
    omega

/-- **Never early.** A call under a clock that keeps time does not give up early exactly when no
pass has an early reading. -/
theorem pingRecv_neverEarly_iff :
    NeverEarly cfg packetwait func env g s fin ↔
      ∀ w g₁ n, TakesPlace cfg packetwait func env g w g₁ → w.clock = .ok n →
        ¬ EarlyReading s packetwait n := by
  constructor
  · intro h w g₁ n htakes hclock hearly
    have hneg := (expired_iff hstart n).mpr (Or.inr hearly)
    rw [← hclock] at hneg
    have hend := h.expired w g₁ n htakes hclock hneg
    have hle := hearly.2
    omega
  · intro h
    refine ⟨fun g' hret hdie => endMicros_le_of_expired hstart htime h hret hdie, ?_⟩
    intro w g₁ n htakes hclock hneg
    rw [hclock] at hneg
    exact ((expired_iff hstart n).mp hneg).resolve_right (h w g₁ n htakes hclock)

end Duration

/-- Waiting 0.5 s, the call returns at 1.1 s. -/
theorem carryEnv_keepsTime :
    KeepsTime ipConfig 500000 (recvHandler ipConfig) carryEnv State.init carryStart 1100000 := by
  have hcases : ∀ {w g₁ n}, TakesPlace ipConfig 500000 (recvHandler ipConfig) carryEnv State.init
      w g₁ → w.clock = .ok n → w.select = .ready [] ∧ (n = carryStart ∨ n = carryLater) := by
    intro w g₁ n htakes hclock
    have hmem := htakes.2.mem
    simp only [carryEnv, List.mem_cons, List.not_mem_nil, or_false] at hmem
    rcases hmem with rfl | rfl
    · exact ⟨rfl, Or.inl (ClockCall.ok.inj hclock).symm⟩
    · exact ⟨rfl, Or.inr (ClockCall.ok.inj hclock).symm⟩
  constructor
  · intro w g₁ n htakes hclock
    rcases (hcases htakes hclock).2 with rfl | rfl <;> decide
  · intro w g₁ n htakes hclock
    rcases (hcases htakes hclock).2 with rfl | rfl <;> decide
  · intro w g₁ n c hreach htimeout
    rw [(hcases hreach.takesPlace hreach.clock).1] at htimeout
    cases htimeout

theorem pingRecv_neverEarly_iff_carryEnv :
    NeverEarly ipConfig 500000 (recvHandler ipConfig) carryEnv State.init carryStart 1100000 ↔
      ∀ w g₁ n, TakesPlace ipConfig 500000 (recvHandler ipConfig) carryEnv State.init w g₁ →
        w.clock = .ok n → ¬ EarlyReading carryStart 500000 n :=
  pingRecv_neverEarly_iff rfl carryEnv_keepsTime

/-- That is 0.3 s before the end of the window. -/
theorem carryEnv_gives_up_early :
    let call := pingRecv ipConfig 500000 (recvHandler ipConfig) carryEnv State.init
    KeepsTime ipConfig 500000 (recvHandler ipConfig) carryEnv State.init carryStart 1100000 ∧
      call.reason = some .returned ∧ call.state.timeToDie = false ∧
      ¬ endMicros carryStart 500000 ≤ 1100000 :=
  ⟨carryEnv_keepsTime, by decide +kernel, by decide +kernel, by decide⟩

end Arping
