import Arping.ReceiveWindow

/-!
# Unanswered windows

A call of `ping_recv` during which no reply is counted is to be reported once, by a `.` in the dot
display and by a `Timeout` line in the normal one. The report is made where `select` times out. But
a pass whose clock reading takes the window for over (`EndsWindow`) only looks whether something has
arrived: if so, it ends the call without a timeout, whatever the packets are. So an unanswered
window whose last check finds data, or is interrupted, goes unreported
(`pingRecv_reportsSilence_iff`).
-/

namespace Arping

open ScriptLoop

/-! ## Reports -/

def Event.isDot : Event → Bool
  | print .dot => true
  | _ => false

def Event.isTimeout : Event → Bool
  | print .timeout => true
  | _ => false

/-- How often `.` and `Timeout` have been printed. -/
def State.dots (g : State) : ℕ := g.trace.countP Event.isDot
def State.timeouts (g : State) : ℕ := g.trace.countP Event.isTimeout

/-- From `g` to `g'` one report is made if no reply is counted, and none otherwise. -/
structure ReportsSilence (cfg : Config) (g g' : State) : Prop where
  dot : cfg.display = .dot →
    g'.dots = g.dots + if g'.counted.length = g.counted.length then 1 else 0
  normal : cfg.display = .normal →
    g'.timeouts = g.timeouts + if g'.counted.length = g.counted.length then 1 else 0

/-! ## The wake-ups of a call -/

def SelectResult.isTimeout : SelectResult → Bool
  | timeout => true
  | _ => false

theorem batch_of_isTimeout {r : SelectResult} (h : r.isTimeout = true) : r.batch = [] := by
  cases r with
  | timeout => rfl
  | interrupted => rfl
  | failed => rfl
  | ready batch => cases h

/-- The reading takes the window of a call for over: it lies past the end, or behind the last whole
second of the wait, or before the start. -/
def EndsWindow (s : WallClock) (packetwait : UInt32) (n : WallClock) : Prop :=
  endMicros s packetwait < n.micros ∨ EarlyReading s packetwait n ∨ n.micros < s.micros

instance (s n : WallClock) (packetwait : UInt32) : Decidable (EndsWindow s packetwait n) := by
  unfold EndsWindow; infer_instance

/-- The pass ends the call, if no signal and no failure does: `select` times out, or the reading
takes the window for over. -/
def EndsWait (s : WallClock) (packetwait : UInt32) (w : WakeUp) : Bool :=
  w.select.isTimeout ||
    match w.clock with
    | .ok n => decide (EndsWindow s packetwait n)
    | .fail _ => false

/-- The wake-ups up to the first that ends the call. -/
def untilEnd (s : WallClock) (packetwait : UInt32) : List WakeUp → List WakeUp
  | [] => []
  | w :: ws => if EndsWait s packetwait w then [w] else w :: untilEnd s packetwait ws

/-- The wake-ups of a call that is ended neither by a signal nor by a failure. -/
def RecvEnv.used (packetwait : UInt32) (env : RecvEnv) : List WakeUp :=
  match env.start with
  | .ok s => untilEnd s packetwait env.wakeups
  | .fail _ => []

/-- The readings that end the window are those by which the pass is done. -/
theorem callOf_done {packetwait : UInt32} {s n : WallClock} {w : WakeUp}
    (hclock : w.clock = .ok n) :
    (callOf packetwait (endTime packetwait (ClockCall.ok s).timespec) w).done =
      decide (EndsWindow s packetwait n) := by
  have hplan := congrArg Prod.snd (plan_eq s n packetwait)
  have hends : (windowLeft s n packetwait).tvSec < 0 ∨
      Exceeds packetwait (windowLeft s n packetwait) ↔ EndsWindow s packetwait n := by
    rw [windowLeft_sec_neg_iff, exceeds_windowLeft_iff, or_assoc]
    rfl
  unfold callOf
  rw [hclock]
  refine hplan.trans ?_
  rw [if_congr hends rfl rfl]
  split
  · rename_i h
    exact (decide_eq_true h).symm
  · rename_i h
    exact (decide_eq_false h).symm

/-- An acceptable packet is among those delivered. -/
def Hears (cfg : Config) (ws : List WakeUp) : Prop :=
  ∃ w ∈ ws, ∃ a ∈ w.select.batch, Accepts cfg a.packet

/-! ## Listening -/

/-- `numrecvd` has been counted up from `old` without setting `time_to_die`, so it was below
`UINT_MAX` all the time. -/
def CountedUp (old n : UInt32) : Prop :=
  n.toNat < 2 ^ 32 - 1 ∧ (old.toNat < n.toNat ∨ old.toNat = 2 ^ 32 - 1)

theorem CountedUp.ne {old n : UInt32} (h : CountedUp old n) : n ≠ old := by
  rintro rfl
  obtain ⟨hlt, hor⟩ := h
  omega

theorem CountedUp.succ {old n max : UInt32} (h : n = old ∨ CountedUp old n)
    (halive : ¬ max ≤ n + 1) : CountedUp old (n + 1) := by
  have hmax := max.toNat_lt
  have hold := old.toNat_lt
  rw [UInt32.le_iff_toNat_le, not_le, UInt32.toNat_add, UInt32.toNat_one] at halive
  unfold CountedUp at h ⊢
  rw [UInt32.toNat_add, UInt32.toNat_one]
  rcases h with rfl | ⟨hlt, hor⟩
  · omega
  · omega

/-- From `g₀` to `g`, nothing is reported; replies are counted if and only if `heard`. -/
structure Listening (heard : Prop) (g₀ g : State) : Prop where
  silent : ¬ heard → g.counted.length = g₀.counted.length ∧ g.numrecvd = g₀.numrecvd
  heard : heard → g₀.counted.length < g.counted.length ∧ CountedUp g₀.numrecvd g.numrecvd
  dots : g.dots = g₀.dots
  timeouts : g.timeouts = g₀.timeouts

theorem Listening.refl (g : State) : Listening False g g :=
  ⟨fun _ => ⟨rfl, rfl⟩, False.elim, rfl, rfl⟩

theorem countP_of_records {P : Event → Prop} {q : Event → Bool} (hq : ∀ e, P e → q e = false)
    {g g' : State} (h : Records P g g') : g'.trace.countP q = g.trace.countP q := by
  obtain ⟨evs, htrace, hevs⟩ := h
  have hzero : evs.countP q = 0 := List.countP_eq_zero.mpr fun e he => by
    rw [hq e (hevs e he)]
    exact Bool.false_ne_true
  rw [htrace, List.countP_append, hzero, Nat.add_zero]

theorem isDot_of_ofHandler (e : Event) (h : e.OfHandler) : e.isDot = false := by
  cases e with
  | print o => cases o <;> first | rfl | exact absurd h id
  | _ => rfl

theorem isTimeout_of_ofHandler (e : Event) (h : e.OfHandler) : e.isTimeout = false := by
  cases e with
  | print o => cases o <;> first | rfl | exact absurd h id
  | _ => rfl

section Steps

variable {cfg : Config} {heard : Prop} {g₀ g g' : State}

/-- A call of the handler that leaves `time_to_die` unset. -/
theorem Listening.handler (h : Listening heard g₀ g) (p : Packet) (clk : ClockCall)
    (halive : (recvHandler cfg p clk g).timeToDie = false) :
    Listening (heard ∨ Accepts cfg p) g₀ (recvHandler cfg p clk g) := by
  have hrec := recvHandler_records cfg p clk g
  have harr := afterArrival_arrives p clk g
  have hdots := (countP_of_records isDot_of_ofHandler hrec).trans h.dots
  have htimeouts := (countP_of_records isTimeout_of_ofHandler hrec).trans h.timeouts
  by_cases hacc : Accepts cfg p
  · have hcount := recvHandler_counts hacc clk g
    rw [hcount.timeToDie, Bool.or_eq_false_iff, decide_eq_false_iff_not, harr.numrecvd] at halive
    refine ⟨fun hno => absurd (Or.inr hacc) hno, fun _ => ?_, hdots, htimeouts⟩
    rw [hcount.counted, hcount.numrecvd, harr.counted, harr.numrecvd, List.length_append,
      List.length_singleton]
    by_cases hheard : heard
    · obtain ⟨hlen, hup⟩ := h.heard hheard
      exact ⟨by omega, CountedUp.succ (Or.inr hup) halive.2⟩
    · obtain ⟨hlen, hnum⟩ := h.silent hheard
      exact ⟨by omega, CountedUp.succ (Or.inl hnum) halive.2⟩
  · rw [recvHandler_rejects hacc] at hdots htimeouts ⊢
    rw [or_iff_left hacc]
    refine ⟨fun hno => ?_, fun hheard => ?_, hdots, htimeouts⟩
    · rw [harr.counted, harr.numrecvd]
      exact h.silent hno
    · rw [harr.counted, harr.numrecvd]
      exact h.heard hheard

theorem Listening.congr {heard' : Prop} (h : Listening heard g₀ g) (hiff : heard ↔ heard') :
    Listening heard' g₀ g where
  silent := fun hno => h.silent (mt hiff.mp hno)
  heard := fun hyes => h.heard (hiff.mpr hyes)
  dots := h.dots
  timeouts := h.timeouts

theorem Listening.emit (h : Listening heard g₀ g) {e : Event} (hc : e.counted? = none)
    (hh : e.handled? = none) (hs : e.sample? = none) (hdot : e.isDot = false)
    (htimeout : e.isTimeout = false) : Listening heard g₀ (g.emit e) := by
  have hsame : SameReceived g (g.emit e) := SameReceived.emit hc hh hs g
  have hrec : Records (e = ·) g (g.emit e) := Records.emit rfl g
  refine ⟨?_, ?_, ?_, ?_⟩
  · rw [hsame.counted, hsame.numrecvd]
    exact h.silent
  · rw [hsame.counted, hsame.numrecvd]
    exact h.heard
  · exact (countP_of_records (fun _ he => he ▸ hdot) hrec).trans h.dots
  · exact (countP_of_records (fun _ he => he ▸ htimeout) hrec).trans h.timeouts

/-- `time_to_die` is never reset. -/
theorem die_steps (cfg : Config) :
    ReceiveSteps (recvHandler cfg) fun _ g => g.timeToDie = true where
  clock := fun _ clk g h => by
    cases clk with
    | ok now => exact h
    | fail junk => rfl
  sigint := fun _ _ _ => rfl
  select := fun _ _ _ _ h => h
  dispatch := fun _ _ _ h => h
  prints := fun _ _ _ h => h
  handler := fun _ p clk _ h => recvHandler_die h cfg p clk

theorem handleAll_alive {batch : List Arrival}
    (halive : (handleAll (recvHandler cfg) batch g).timeToDie = false) : g.timeToDie = false := by
  by_contra h
  have hdie := handleAll_steps (die_steps cfg) batch (l := []) (Bool.eq_true_of_not_eq_false h)
  rw [halive] at hdie
  cases hdie

/-- A batch. -/
theorem Listening.handleAll (h : Listening heard g₀ g) {batch : List Arrival}
    (halive : (handleAll (recvHandler cfg) batch g).timeToDie = false) :
    Listening (heard ∨ ∃ a ∈ batch, Accepts cfg a.packet) g₀
      (handleAll (recvHandler cfg) batch g) := by
  induction batch generalizing heard g with
  | nil => exact h.congr (by simp)
  | cons a batch ih =>
    have hfirst : Listening (heard ∨ Accepts cfg a.packet) g₀
        (recvHandler cfg a.packet a.clock g) :=
      h.handler a.packet a.clock (handleAll_alive halive)
    exact (ih hfirst halive).congr (by simp [or_assoc])

/-- Without signal and failure the globals are as before. -/
theorem afterClock_of_alive {w : WakeUp} (halive : (afterClock w g).timeToDie = false) :
    afterClock w g = g := by
  unfold afterClock at halive ⊢
  cases hsignal : w.signal with
  | true =>
    rw [hsignal] at halive
    cases halive
  | false =>
    rw [hsignal] at halive
    cases hclk : w.clock with
    | ok now => rfl
    | fail junk =>
      rw [hclk] at halive
      cases halive

/-- A pass that leaves `time_to_die` unset. -/
theorem recvPass_listening (h : Listening heard g₀ g) {packetwait : UInt32} {s : WallClock}
    {w : WakeUp}
    (halive : (recvPass cfg (recvHandler cfg) packetwait
      (endTime packetwait (ClockCall.ok s).timespec) g₀.numrecvd w g).state.timeToDie = false) :
    (w.select.isTimeout = true ∧ ∃ g₁, Listening heard g₀ g₁ ∧
        recvPass cfg (recvHandler cfg) packetwait (endTime packetwait (ClockCall.ok s).timespec)
            g₀.numrecvd w g =
          .stop .returned (g₁.prints (timeoutOutputs cfg g₀.numrecvd g₁))) ∨
      (w.select.isTimeout = false ∧ ∃ g₁,
        Listening (heard ∨ ∃ a ∈ w.select.batch, Accepts cfg a.packet) g₀ g₁ ∧
        recvPass cfg (recvHandler cfg) packetwait (endTime packetwait (ClockCall.ok s).timespec)
            g₀.numrecvd w g =
          if EndsWait s packetwait w = true then .stop .returned g₁ else .next g₁) := by
  cases hdie : (afterClock w g).timeToDie with
  | true =>
    rw [recvPass_of_die hdie] at halive
    cases hdie.symm.trans halive
  | false =>
    obtain ⟨n, hclock⟩ := exists_clock_of_alive hdie
    have hends (ht : w.select.isTimeout = false) : EndsWait s packetwait w =
        (callOf packetwait (endTime packetwait (ClockCall.ok s).timespec) w).done := by
      rw [callOf_done hclock, EndsWait, ht, hclock, Bool.false_or]
    rw [recvPass_state_of_alive hdie, afterClock_of_alive hdie] at halive
    rw [recvPass_of_alive hdie, afterClock_of_alive hdie]
    have hselect := h.emit (e := .select
      (callOf packetwait (endTime packetwait (ClockCall.ok s).timespec) w)) rfl rfl rfl rfl rfl
    cases hr : w.select with
    | timeout => exact Or.inl ⟨rfl, _, hselect, rfl⟩
    | interrupted =>
      rw [hends (by rw [hr]; rfl)]
      exact Or.inr ⟨rfl, _, hselect.congr (by simp [SelectResult.batch]), rfl⟩
    | failed =>
      rw [hr] at halive
      cases halive
    | ready batch =>
      rw [hr] at halive
      rw [hends (by rw [hr]; rfl)]
      exact Or.inr ⟨rfl, _, (hselect.emit rfl rfl rfl rfl rfl).handleAll halive, rfl⟩

/-- A loop that ends with `time_to_die` unset begins so. -/
theorem drive_alive {packetwait : UInt32} {endtime : Timespec} {old : UInt32} {ws : List WakeUp}
    {e : RecvExit}
    (hrun : drive (recvPass cfg (recvHandler cfg) packetwait endtime old) ws g = .stop e g')
    (halive : g'.timeToDie = false) : g.timeToDie = false := by
  by_contra hdie
  have hfinal : (drive (recvPass cfg (recvHandler cfg) packetwait endtime old) ws
      g).state.timeToDie = true :=
    drive_inv (I := fun g : State => g.timeToDie = true)
      (fun w _ g hg => recvPass_steps (die_steps cfg) cfg packetwait endtime old w (l := []) hg)
      (Bool.eq_true_of_not_eq_false hdie)
  rw [hrun] at hfinal
  cases halive.symm.trans hfinal

theorem recvPass_alive {packetwait : UInt32} {endtime : Timespec} {old : UInt32} {w : WakeUp}
    {ws : List WakeUp} {e : RecvExit}
    (hrun : drive (recvPass cfg (recvHandler cfg) packetwait endtime old) (w :: ws) g = .stop e g')
    (halive : g'.timeToDie = false) :
    (recvPass cfg (recvHandler cfg) packetwait endtime old w g).state.timeToDie = false := by
  cases hpass : recvPass cfg (recvHandler cfg) packetwait endtime old w g with
  | next g₁ =>
    rw [drive_cons_next hpass] at hrun
    exact drive_alive hrun halive
  | stop e₁ g₁ =>
    rw [drive_cons_stop hpass] at hrun
    obtain ⟨rfl, rfl⟩ := Ctl.stop.inj hrun
    exact halive

/-- The loop. -/
theorem drive_listening {packetwait : UInt32} {s : WallClock} {ws : List WakeUp} {e : RecvExit}
    (h : Listening heard g₀ g)
    (hrun : drive (recvPass cfg (recvHandler cfg) packetwait
      (endTime packetwait (ClockCall.ok s).timespec) g₀.numrecvd) ws g = .stop e g')
    (halive : g'.timeToDie = false) :
    ∃ w, (untilEnd s packetwait ws).getLast? = some w ∧
      ∃ g₁, Listening (heard ∨ Hears cfg (untilEnd s packetwait ws)) g₀ g₁ ∧
        g' = if w.select.isTimeout then g₁.prints (timeoutOutputs cfg g₀.numrecvd g₁) else g₁ := by
  induction ws generalizing heard g with
  | nil => cases hrun
  | cons w ws ih =>
    rcases recvPass_listening h (recvPass_alive hrun halive) with
      ⟨htimeout, g₁, hg₁, hpass⟩ | ⟨htimeout, g₁, hg₁, hpass⟩
    · have hused : untilEnd s packetwait (w :: ws) = [w] := by
        rw [untilEnd, EndsWait, htimeout, Bool.true_or, if_pos rfl]
      have hbatch : w.select.batch = [] := batch_of_isTimeout htimeout
      rw [drive_cons_stop hpass] at hrun
      rw [hused]
      refine ⟨w, rfl, g₁, hg₁.congr ?_, ?_⟩
      · simp [Hears, hbatch]
      · rw [htimeout, if_pos rfl]
        exact (Ctl.stop.inj hrun).2.symm
    · cases hends : EndsWait s packetwait w with
      | true =>
        have hused : untilEnd s packetwait (w :: ws) = [w] := by
          rw [untilEnd, hends, if_pos rfl]
        rw [hends, if_pos rfl] at hpass
        rw [drive_cons_stop hpass] at hrun
        rw [hused]
        refine ⟨w, rfl, g₁, hg₁.congr ?_, ?_⟩
        · simp [Hears]
        · rw [htimeout, if_neg Bool.false_ne_true]
          exact (Ctl.stop.inj hrun).2.symm
      | false =>
        have hused : untilEnd s packetwait (w :: ws) = w :: untilEnd s packetwait ws := by
          rw [untilEnd, hends, if_neg Bool.false_ne_true]
        rw [hends, if_neg Bool.false_ne_true] at hpass
        rw [drive_cons_next hpass] at hrun
        obtain ⟨w', hlast, g₂, hg₂, hg'⟩ := ih hg₁ hrun
        rw [hused]
        refine ⟨w', by rw [List.getLast?_cons, hlast]; rfl, g₂, hg₂.congr ?_, hg'⟩
        simp [Hears, or_assoc]

end Steps

/-! ## A whole call -/

theorem timeoutOutputs_dots (cfg : Config) (old : UInt32) (g : State) :
    (g.prints (timeoutOutputs cfg old g)).dots =
      g.dots + if g.numrecvd = old ∧ cfg.display = .dot then 1 else 0 := by
  unfold State.dots timeoutOutputs
  rw [State.prints_trace, List.countP_append, List.countP_map]
  by_cases hold : g.numrecvd = old
  · cases hrev : cfg.reverseBeep <;> cases hd : cfg.display <;> simp [hold, Event.isDot]
  · simp [hold]

theorem timeoutOutputs_timeouts (cfg : Config) (old : UInt32) (g : State) :
    (g.prints (timeoutOutputs cfg old g)).timeouts =
      g.timeouts + if g.numrecvd = old ∧ cfg.display = .normal then 1 else 0 := by
  unfold State.timeouts timeoutOutputs
  rw [State.prints_trace, List.countP_append, List.countP_map]
  by_cases hold : g.numrecvd = old
  · cases hrev : cfg.reverseBeep <;> cases hd : cfg.display <;> simp [hold, Event.isTimeout]
  · simp [hold]

/-- A call whose first reading fails leaves `time_to_die` set. -/
theorem start_of_alive {cfg : Config} {packetwait : UInt32} {env : RecvEnv} {g g' : State}
    {e : RecvExit} (h : pingRecv cfg packetwait (recvHandler cfg) env g = .stop e g')
    (halive : g'.timeToDie = false) : ∃ s, env.start = .ok s := by
  cases hstart : env.start with
  | ok s => exact ⟨s, rfl⟩
  | fail junk =>
    unfold pingRecv at h
    dsimp only at h
    rw [hstart] at h
    split at h
    · cases h
      cases halive
    · cases drive_alive h halive

/-- What the call ends with, in terms of the last wake-up. -/
theorem pingRecv_reports {cfg : Config} {packetwait : UInt32} {env : RecvEnv} {g g' : State}
    (hret : pingRecv cfg packetwait (recvHandler cfg) env g = .stop .returned g')
    (halive : g'.timeToDie = false) :
    ∃ w, (env.used packetwait).getLast? = some w ∧
      ∃ old n : UInt32, (Hears cfg (env.used packetwait) ↔ n ≠ old) ∧
        (Hears cfg (env.used packetwait) ↔ g'.counted.length ≠ g.counted.length) ∧
        g'.dots = g.dots + (if w.select.isTimeout ∧ n = old ∧ cfg.display = .dot then 1 else 0) ∧
        g'.timeouts =
          g.timeouts + (if w.select.isTimeout ∧ n = old ∧ cfg.display = .normal then 1 else 0) := by
  obtain ⟨s, hstart⟩ := start_of_alive hret halive
  unfold pingRecv at hret
  dsimp only at hret
  cases hfd : env.fdOk with
  | false =>
    rw [hfd] at hret
    cases hret
  | true =>
    rw [hfd] at hret
    have hsame := SameReceived.getclock env.start g
    have hdots : (getclock env.start g).2.dots = g.dots := by cases env.start <;> rfl
    have htimeouts : (getclock env.start g).2.timeouts = g.timeouts := by cases env.start <;> rfl
    have hused : env.used packetwait = untilEnd s packetwait env.wakeups := by
      rw [RecvEnv.used, hstart]
    rw [hused]
    rw [hstart] at hret hsame hdots htimeouts
    obtain ⟨w, hlast, g₁, hg₁, rfl⟩ := drive_listening (Listening.refl _) hret halive
    have hl := hg₁.congr (iff_of_eq (false_or _))
    rw [← hsame.counted, ← hdots, ← htimeouts]
    refine ⟨w, hlast, (getclock (.ok s) g).2.numrecvd, g₁.numrecvd, ⟨?_, ?_⟩, ?_, ?_, ?_⟩
    · exact fun hheard => (hl.heard hheard).2.ne
    · exact fun hne => by_contra fun hno => hne (hl.silent hno).2
    · have hcounted : (if w.select.isTimeout = true then g₁.prints (timeoutOutputs cfg
          (getclock (.ok s) g).2.numrecvd g₁) else g₁).counted = g₁.counted := by
        split
        · exact (SameReceived.prints _ g₁).counted
        · rfl
      rw [hcounted]
      constructor
      · exact fun hheard => (hl.heard hheard).1.ne'
      · exact fun hne => by_contra fun hno => hne (hl.silent hno).1
    · split
      · rename_i ht
        rw [timeoutOutputs_dots, hl.dots]
        simp [ht]
      · rename_i ht
        rw [hl.dots]
        simp [ht]
    · split
      · rename_i ht
        rw [timeoutOutputs_timeouts, hl.timeouts]
        simp [ht]
      · rename_i ht
        rw [hl.timeouts]
        simp [ht]

/-- **Reported windows.** In a call that is ended neither by a signal nor by a failure, an
unanswered window is reported exactly once and an answered one never, if and only if the display
has no reports, or an acceptable packet arrives, or the wake-up that ends the call, the first that
times out or whose reading ends the window, is a timeout. -/
theorem pingRecv_reportsSilence_iff {cfg : Config} {packetwait : UInt32} {env : RecvEnv}
    {g g' : State} (hret : pingRecv cfg packetwait (recvHandler cfg) env g = .stop .returned g')
    (halive : g'.timeToDie = false) :
    ReportsSilence cfg g g' ↔
      (cfg.display ≠ .dot ∧ cfg.display ≠ .normal) ∨ Hears cfg (env.used packetwait) ∨
        ∃ w, (env.used packetwait).getLast? = some w ∧ w.select.isTimeout = true := by
  obtain ⟨w, hlast, old, n, hnum, hcounted, hdots, htimeouts⟩ := pingRecv_reports hret halive
  have hw : (∃ w, (env.used packetwait).getLast? = some w ∧ w.select.isTimeout = true) ↔
      w.select.isTimeout = true := by
    rw [hlast]
    simp
  rw [hw]
  by_cases hheard : Hears cfg (env.used packetwait)
  · -- answered: nothing is printed
    have hlen := hcounted.mp hheard
    have hne := hnum.mp hheard
    refine iff_of_true ⟨fun _ => ?_, fun _ => ?_⟩ (Or.inr (Or.inl hheard))
    · rw [hdots, if_neg hlen, if_neg fun h => hne h.2.1]
    · rw [htimeouts, if_neg hlen, if_neg fun h => hne h.2.1]
  · have hlen := not_not.mp (mt hcounted.mpr hheard)
    have heq := not_not.mp (mt hnum.mpr hheard)
    cases ht : w.select.isTimeout with
    | true =>
      refine iff_of_true ⟨fun hd => ?_, fun hd => ?_⟩ (Or.inr (Or.inr rfl))
      · rw [hdots, if_pos hlen, if_pos ⟨ht, heq, hd⟩]
      · rw [htimeouts, if_pos hlen, if_pos ⟨ht, heq, hd⟩]
    | false =>
      -- the wait ends without a timeout, and without a report
      rw [ht] at hdots htimeouts
      constructor
      · intro h
        refine Or.inl ⟨fun hd => ?_, fun hd => ?_⟩
        · have := h.dot hd
          rw [hdots, if_pos hlen] at this
          simp at this
        · have := h.normal hd
          rw [htimeouts, if_pos hlen] at this
          simp at this
      · rintro (⟨hdot, hnormal⟩ | hno | hno)
        · exact ⟨fun hd => absurd hd hdot, fun hd => absurd hd hnormal⟩
        · exact absurd hno hheard
        · cases hno

/-- A second of waiting in which nothing arrives. -/
theorem pingRecv_reportsSilence_iff_timeout :
    let env := (roundAt 0 []).recv
    let g' := (pingRecv ipConfig 1000000 (recvHandler ipConfig) env State.init).state
    ReportsSilence ipConfig State.init g' ↔
      (ipConfig.display ≠ .dot ∧ ipConfig.display ≠ .normal) ∨
        Hears ipConfig (env.used 1000000) ∨
        ∃ w, (env.used 1000000).getLast? = some w ∧ w.select.isTimeout = true :=
  pingRecv_reportsSilence_iff (Ctl.reason_eq_some_iff.mp (by decide +kernel)) (by decide +kernel)

/-- A second of waiting in which only requests arrive, the last one behind the end. -/
def lateEnv : RecvEnv where
  start := readingAt 0
  fdOk := true
  wakeups :=
    [⟨readingAt 0, false, .ready [⟨arpRequestFrame 9, readingAt 0⟩]⟩,
      ⟨readingAt 2, false, .ready [⟨arpRequestFrame 9, readingAt 2⟩]⟩]

/-- It is not reported. -/
theorem lateEnv_unreported :
    let run := pingRecv ipConfig 1000000 (recvHandler ipConfig) lateEnv State.init
    run.reason = some .returned ∧ run.state.timeToDie = false ∧ run.state.counted = [] ∧
      run.state.timeouts = 0 ∧ ¬ ReportsSilence ipConfig State.init run.state := by
  intro run
  have hcounted : run.state.counted.length = 0 := by decide +kernel
  have htimeouts : run.state.timeouts = 0 := by decide +kernel
  refine ⟨by decide +kernel, by decide +kernel, List.length_eq_zero_iff.mp hcounted, htimeouts,
    fun h => ?_⟩
  have hone := h.normal rfl
  rw [hcounted, htimeouts] at hone
  cases hone

end Arping
