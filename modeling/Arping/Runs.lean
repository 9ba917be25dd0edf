import Arping.MainLoop
import Arping.Replies

/-!
# Invariants of whole runs

The induction over passes and rounds is made once, here. `RunSteps` lists the steps that a run is
made of, and `pingLoop_steps` says that a property which each of them keeps holds throughout a run,
whatever the environment does; the property may speak of the clock readings taken so far.

Outside the receive handler the ping loop leaves everything the handler is responsible for as it
was (`SameReceived`): the senders (`sendRequest_same`), the clock, `select` and its reports. So for
a property of that part of the state the handler is the only step to look at (`pingLoop_inv`).
-/

namespace Arping

open ScriptLoop

/-! ## The senders -/

theorem stampSent_same (clk : ClockCall) (g : State) : SameReceived g (stampSent clk g) :=
  (SameReceived.getclock clk g).trans ⟨rfl, rfl, rfl, rfl, rfl, rfl, rfl⟩

theorem orSigint_same (ok : Bool) (g : State) : SameReceived g (orSigint ok g) := by
  cases ok with
  | true => exact SameReceived.refl g
  | false => exact SameReceived.sigint g

theorem writeRequest_same (cfg : Config) (env : SendEnv) (g : State) :
    SameReceived g (writeRequest cfg env g) := by
  have hbefore : SameReceived g (if 1 < cfg.verbose then stampSent env.clkBefore g else g) := by
    split
    · exact stampSent_same env.clkBefore g
    · exact SameReceived.refl g
  exact ((((hbefore.trans (SameReceived.emit rfl rfl rfl _)).trans
    (orSigint_same env.writeOk _)).trans (stampSent_same env.clkAfter _))).trans
      ⟨rfl, rfl, rfl, rfl, rfl, rfl, rfl⟩

theorem pingipSend_same (cfg : Config) (env : SendEnv) (g : State) :
    SameReceived g (pingipSend cfg env g) :=
  (((SameReceived.emit rfl rfl rfl g).trans (orSigint_same env.payloadOk _)).trans
    (orSigint_same env.etherOk _)).trans (writeRequest_same cfg env _)

theorem pingmacSend_same (cfg : Config) (id seq : UInt16) (env : SendEnv) (g : State) :
    SameReceived g (pingmacSend cfg id seq env g) :=
  ((((SameReceived.emit rfl rfl rfl g).trans (orSigint_same env.payloadOk _)).trans
    (orSigint_same env.ipv4Ok _)).trans (orSigint_same env.etherOk _)).trans
      (writeRequest_same cfg env _)

theorem sendRequest_same (cfg : Config) (c : UInt32) (env : SendEnv) (g : State) :
    SameReceived g (sendRequest cfg c env g) := by
  unfold sendRequest
  split
  · exact pingipSend_same cfg env g
  · exact pingmacSend_same cfg _ _ env g

/-! ### What a sender records -/

/-- A call of `libnet_write`. -/
def Event.IsWrite : Event → Prop
  | write _ => True
  | _ => False

theorem orSigint_records {P : Event → Prop} (ok : Bool) (g : State) :
    Records P g (orSigint ok g) :=
  Records.of_trace_eq (by cases ok <;> rfl)

theorem stampSent_records {P : Event → Prop} (clk : ClockCall) (g : State) :
    Records P g (stampSent clk g) :=
  Records.of_trace_eq (by cases clk <;> rfl)

theorem writeRequest_records (cfg : Config) (env : SendEnv) (g : State) :
    Records Event.IsWrite g (writeRequest cfg env g) := by
  have hbefore : Records Event.IsWrite g
      (if 1 < cfg.verbose then stampSent env.clkBefore g else g) := by
    split
    · exact stampSent_records env.clkBefore g
    · exact Records.of_trace_eq rfl
  exact ((hbefore.trans (Records.emit trivial _)).trans (orSigint_records env.writeOk _)).trans
    ((stampSent_records env.clkAfter _).trans (Records.of_trace_eq rfl))

/-- A request is recorded when its sender begins, and then only the write. -/
theorem sendRequest_records (cfg : Config) (c : UInt32) (env : SendEnv) (g : State) :
    ∃ r, Records Event.IsWrite (g.emit (.send r)) (sendRequest cfg c env g) := by
  unfold sendRequest
  split
  · exact ⟨arpRequest cfg, ((orSigint_records env.payloadOk _).trans
      (orSigint_records env.etherOk _)).trans (writeRequest_records cfg env _)⟩
  · exact ⟨echoRequest cfg env.rand c.toUInt16, (((orSigint_records env.payloadOk _).trans
      (orSigint_records env.ipv4Ok _)).trans (orSigint_records env.etherOk _)).trans
        (writeRequest_records cfg env _)⟩

/-! ### What a sender counts -/

/-- Whatever fails, `numsent++` is reached. -/
theorem getclock_numsent (clk : ClockCall) (g : State) :
    (getclock clk g).2.numsent = g.numsent := by
  cases clk <;> rfl

theorem orSigint_numsent (ok : Bool) (g : State) : (orSigint ok g).numsent = g.numsent := by
  cases ok <;> rfl

theorem stampSent_numsent (clk : ClockCall) (g : State) :
    (stampSent clk g).numsent = g.numsent := getclock_numsent clk g

theorem writeRequest_numsent (cfg : Config) (env : SendEnv) (g : State) :
    (writeRequest cfg env g).numsent = g.numsent + 1 := by
  unfold writeRequest
  dsimp only
  rw [stampSent_numsent, orSigint_numsent, State.emit_numsent]
  split
  · rw [stampSent_numsent]
  · rfl

theorem pingipSend_numsent (cfg : Config) (env : SendEnv) (g : State) :
    (pingipSend cfg env g).numsent = g.numsent + 1 := by
  unfold pingipSend
  dsimp only
  rw [writeRequest_numsent, orSigint_numsent, orSigint_numsent, State.emit_numsent]

theorem pingmacSend_numsent (cfg : Config) (id seq : UInt16) (env : SendEnv) (g : State) :
    (pingmacSend cfg id seq env g).numsent = g.numsent + 1 := by
  unfold pingmacSend
  dsimp only
  rw [writeRequest_numsent, orSigint_numsent, orSigint_numsent, orSigint_numsent,
    State.emit_numsent]

theorem sendRequest_numsent (cfg : Config) (c : UInt32) (env : SendEnv) (g : State) :
    (sendRequest cfg c env g).numsent = g.numsent + 1 := by
  unfold sendRequest
  split
  · exact pingipSend_numsent cfg env g
  · exact pingmacSend_numsent cfg _ _ env g

/-! ## The clock and `select` -/

/-- The globals in which a pass checks for `sigint`. -/
def afterClock (w : WakeUp) (g : State) : State := deliver w.signal (getclock w.clock g).2

/-- The call of `select` that a pass makes, if it gets there. -/
def callOf (packetwait : UInt32) (endtime : Timespec) (w : WakeUp) : SelectCall where
  now := w.clock.timespec
  timeout := selectTimeout (plan packetwait endtime w.clock.timespec).1
  done := (plan packetwait endtime w.clock.timespec).2

theorem beforeSelect_eq (packetwait : UInt32) (endtime : Timespec) (w : WakeUp) (g : State) :
    beforeSelect packetwait endtime w g =
      (afterClock w g,
        if (afterClock w g).timeToDie = true then none
        else some (callOf packetwait endtime w)) := by
  unfold beforeSelect
  rw [show getclock w.clock g = (w.clock.timespec, (getclock w.clock g).2) from rfl]
  dsimp only
  by_cases h : (afterClock w g).timeToDie = true
  · rw [if_pos h]
    exact if_pos h
  · rw [if_neg h]
    exact if_neg h

/-- The pass of a loop that is to end. -/
theorem recvPass_of_die {cfg : Config} {func : Handler} {packetwait : UInt32} {endtime : Timespec}
    {old : UInt32} {w : WakeUp} {g : State} (h : (afterClock w g).timeToDie = true) :
    recvPass cfg func packetwait endtime old w g = .stop .returned (afterClock w g) := by
  unfold recvPass
  rw [beforeSelect_eq, if_pos h]

/-- Any other pass: it stops or goes on according to `done`. -/
theorem recvPass_of_alive {cfg : Config} {func : Handler} {packetwait : UInt32}
    {endtime : Timespec} {old : UInt32} {w : WakeUp} {g : State}
    (h : (afterClock w g).timeToDie = false) :
    recvPass cfg func packetwait endtime old w g =
      let c := callOf packetwait endtime w
      let after := afterSelect cfg func old c.done w.select ((afterClock w g).emit (.select c))
      if after.2 = true then .stop .returned after.1 else .next after.1 := by
  unfold recvPass
  rw [beforeSelect_eq, h, if_neg Bool.false_ne_true]
  dsimp only
  split
  · rename_i heq
    rw [heq, if_pos rfl]
  · rename_i heq
    rw [heq, if_neg Bool.false_ne_true]

theorem recvPass_state_of_alive {cfg : Config} {func : Handler} {packetwait : UInt32}
    {endtime : Timespec} {old : UInt32} {w : WakeUp} {g : State}
    (h : (afterClock w g).timeToDie = false) :
    (recvPass cfg func packetwait endtime old w g).state =
      (afterSelect cfg func old (callOf packetwait endtime w).done w.select
        ((afterClock w g).emit (.select (callOf packetwait endtime w)))).1 := by
  rw [recvPass_of_alive h]
  dsimp only
  split <;> rfl

theorem recvPass_stop {cfg : Config} {func : Handler} {packetwait : UInt32} {endtime : Timespec}
    {old : UInt32} {w : WakeUp} {g g' : State} {e : RecvExit}
    (h : recvPass cfg func packetwait endtime old w g = .stop e g') : e = .returned := by
  cases halive : (afterClock w g).timeToDie with
  | true =>
    rw [recvPass_of_die halive] at h
    exact (Ctl.stop.inj h).1.symm
  | false =>
    rw [recvPass_of_alive halive] at h
    dsimp only at h
    split at h
    · exact (Ctl.stop.inj h).1.symm
    · cases h

/-- The pass of the loop that a call of `ping_recv` runs. -/
def passOf (cfg : Config) (packetwait : UInt32) (func : Handler) (env : RecvEnv) (g : State) :
    WakeUp → State → Ctl RecvExit State :=
  recvPass cfg func packetwait (endTime packetwait env.start.timespec)
    (getclock env.start g).2.numrecvd

/-- The pass on `w` takes place in the call, and starts in the state `g₁`. -/
def TakesPlace (cfg : Config) (packetwait : UInt32) (func : Handler) (env : RecvEnv) (g : State)
    (w : WakeUp) (g₁ : State) : Prop :=
  env.fdOk = true ∧
    Visits (passOf cfg packetwait func env g) env.wakeups (getclock env.start g).2 w g₁

/-- A call that ends, exits at once for want of a file descriptor or returns from a pass. -/
theorem pingRecv_last_pass {cfg : Config} {packetwait : UInt32} {func : Handler} {env : RecvEnv}
    {g g' : State} {e : RecvExit} (h : pingRecv cfg packetwait func env g = .stop e g') :
    (env.fdOk = false ∧ e = .exited 1) ∨
      ∃ w g₁, TakesPlace cfg packetwait func env g w g₁ ∧
        passOf cfg packetwait func env g w g₁ = .stop e g' := by
  unfold pingRecv at h
  dsimp only at h
  cases hfd : env.fdOk with
  | false =>
    rw [hfd] at h
    exact Or.inl ⟨rfl, (Ctl.stop.inj h).1.symm⟩
  | true =>
    rw [hfd] at h
    obtain ⟨w, g₁, hv, hpass⟩ := exists_visits_of_stop h
    exact Or.inr ⟨w, g₁, ⟨hfd, hv⟩, hpass⟩

/-- A count below `maxcount` has a successor. -/
theorem succ_ne_zero_of_lt {c maxcount : UInt32} (h : c < maxcount) : c + 1 ≠ 0 := by
  have hlt := UInt32.lt_iff_toNat_lt.mp h
  have hmax := maxcount.toNat_lt
  rw [← UInt32.toNat_inj.ne, UInt32.toNat_add]
  simp only [UInt32.toNat_one, UInt32.toNat_zero]
  omega

/-! ## Clock readings -/

/-- The readings of the clock that a sender takes. -/
def sendReadings (cfg : Config) (env : SendEnv) : List Timespec :=
  (if 1 < cfg.verbose then [env.clkBefore.timespec] else []) ++ [env.clkAfter.timespec]

def waitReadings (deadline : ℚ) (clk : ClockCall) : List Timespec :=
  if deadline < 0 then [] else [clk.timespec]

/-- The packets that the following `pcap_dispatch` delivers. -/
def SelectResult.batch : SelectResult → List Arrival
  | timeout => []
  | interrupted => []
  | failed => []
  | ready batch => batch

/-- The readings that the handler takes, one for each packet. -/
def SelectResult.readings (r : SelectResult) : List Timespec :=
  r.batch.map fun a => a.clock.timespec

def passReadings (w : WakeUp) (g : State) : List Timespec :=
  [w.clock.timespec] ++ if (afterClock w g).timeToDie then [] else w.select.readings

def recvReadings (cfg : Config) (packetwait : UInt32) (func : Handler) (env : RecvEnv)
    (g : State) : List Timespec :=
  [env.start.timespec] ++
    if env.fdOk then
      gather passReadings (passOf cfg packetwait func env g) env.wakeups (getclock env.start g).2
    else []

def roundReadings (cfg : Config) (deadline : ℚ) (r : Round) (s : UInt32 × State) :
    List Timespec :=
  let w := waitTime deadline cfg.packetwait r.waitClock (sendRequest cfg s.1 r.send s.2)
  sendReadings cfg r.send ++ waitReadings deadline r.waitClock ++
    if w.1 = 0 then [] else recvReadings cfg w.1 (recvHandler cfg) r.recv w.2

/-- The globals at the first loop test. -/
def afterStart (cfg : Config) (env : RunEnv) (g : State) : State :=
  deliver env.signal (startDeadline cfg env.startClock g).2

/-- The clock readings of a run, in order, those of failing calls included. -/
def runReadings (cfg : Config) (env : RunEnv) (g : State) : List Timespec :=
  let deadline := (startDeadline cfg env.startClock g).1
  (if cfg.deadline > 0 then [env.startClock.timespec] else []) ++
    if loopTest cfg 0 (afterStart cfg env g) then
      gather (roundReadings cfg deadline) (pingRound cfg deadline) env.rounds
        (0, afterStart cfg env g)
    else []

/-! ## Invariants

`J ts g` may relate the globals to the clock readings `ts` taken so far. `ReceiveSteps func J` says
what keeping `J` in `ping_recv` comes down to, a field for each kind of step; in `RunSteps cfg K J`
the property is `K c` before the request number `c` and `J c` behind it. -/

structure ReceiveSteps (func : Handler) (J : List Timespec → State → Prop) : Prop where
  clock : ∀ ts clk g, J ts g → J (ts ++ [clk.timespec]) (getclock clk g).2
  sigint : ∀ ts g, J ts g → J ts (sigint g)
  select : ∀ ts c g, g.timeToDie = false → J ts g → J ts (g.emit (.select c))
  dispatch : ∀ ts g, g.timeToDie = false → J ts g → J ts (g.emit .dispatch)
  prints : ∀ ts os g, J ts g → J ts (g.prints os)
  handler : ∀ ts p clk g, J ts g → J (ts ++ [clk.timespec]) (func p clk g)

theorem ReceiveSteps.and {func : Handler} {J J' : List Timespec → State → Prop}
    (h : ReceiveSteps func J) (h' : ReceiveSteps func J') :
    ReceiveSteps func fun ts g => J ts g ∧ J' ts g where
  clock := fun ts clk g hg => ⟨h.clock ts clk g hg.1, h'.clock ts clk g hg.2⟩
  sigint := fun ts g hg => ⟨h.sigint ts g hg.1, h'.sigint ts g hg.2⟩
  select := fun ts c g halive hg => ⟨h.select ts c g halive hg.1, h'.select ts c g halive hg.2⟩
  dispatch := fun ts g halive hg => ⟨h.dispatch ts g halive hg.1, h'.dispatch ts g halive hg.2⟩
  prints := fun ts os g hg => ⟨h.prints ts os g hg.1, h'.prints ts os g hg.2⟩
  handler := fun ts p clk g hg => ⟨h.handler ts p clk g hg.1, h'.handler ts p clk g hg.2⟩

structure RunSteps (cfg : Config) (K J : UInt32 → List Timespec → State → Prop) : Prop where
  clock : ∀ ts clk g, K 0 ts g → K 0 (ts ++ [clk.timespec]) (getclock clk g).2
  sigint : ∀ ts g, K 0 ts g → K 0 ts (sigint g)
  send : ∀ c ts env g, loopTest cfg c g = true → K c ts g →
    J c (ts ++ sendReadings cfg env) (sendRequest cfg c env g)
  receive : ∀ c, ReceiveSteps (recvHandler cfg) (J c)
  next : ∀ c ts g, J c ts g → K (c + 1) ts g

section Receive

variable {func : Handler} {J : List Timespec → State → Prop} (hJ : ReceiveSteps func J)

include hJ

theorem handleAll_steps (batch : List Arrival) {l : List Timespec} {g : State} (hg : J l g) :
    J (l ++ batch.map fun a => a.clock.timespec) (handleAll func batch g) := by
  induction batch generalizing l g with
  | nil =>
    rw [List.map_nil, List.append_nil]
    exact hg
  | cons a batch ih =>
    have ha := ih (hJ.handler l a.packet a.clock g hg)
    rwa [List.append_assoc] at ha

theorem deliver_steps (signal : Bool) {l : List Timespec} {g : State} (hg : J l g) :
    J l (deliver signal g) := by
  cases signal with
  | true => exact hJ.sigint l g hg
  | false => exact hg

theorem afterSelect_steps (cfg : Config) (oldReceived : UInt32) (done : Bool) (r : SelectResult)
    {l : List Timespec} {g : State} (halive : g.timeToDie = false) (hg : J l g) :
    J (l ++ r.readings) (afterSelect cfg func oldReceived done r g).1 := by
  cases r with
  | timeout =>
    rw [SelectResult.readings, SelectResult.batch, List.map_nil, List.append_nil]
    exact hJ.prints l _ g hg
  | interrupted =>
    rw [SelectResult.readings, SelectResult.batch, List.map_nil, List.append_nil]
    exact hg
  | failed =>
    rw [SelectResult.readings, SelectResult.batch, List.map_nil, List.append_nil]
    exact hJ.sigint l g hg
  | ready batch => exact handleAll_steps hJ batch (hJ.dispatch l g halive hg)

theorem recvPass_steps (cfg : Config) (packetwait : UInt32) (endtime : Timespec)
    (oldReceived : UInt32) (w : WakeUp) {l : List Timespec} {g : State} (hg : J l g) :
    J (l ++ passReadings w g) (recvPass cfg func packetwait endtime oldReceived w g).state := by
  have hclock : J (l ++ [w.clock.timespec]) (afterClock w g) :=
    deliver_steps hJ w.signal (hJ.clock l w.clock g hg)
  unfold passReadings
  cases h : (afterClock w g).timeToDie with
  | true =>
    rw [recvPass_of_die h, if_pos rfl, List.append_nil]
    exact hclock
  | false =>
    rw [recvPass_state_of_alive h, if_neg Bool.false_ne_true, ← List.append_assoc]
    exact afterSelect_steps hJ cfg _ _ _ h (hJ.select _ _ _ h hclock)

theorem pingRecv_steps (cfg : Config) (packetwait : UInt32) (env : RecvEnv) {l : List Timespec}
    {g : State} (hg : J l g) :
    J (l ++ recvReadings cfg packetwait func env g)
      (pingRecv cfg packetwait func env g).state := by
  have hclk := hJ.clock l env.start g hg
  unfold recvReadings pingRecv
  dsimp only
  cases env.fdOk with
  | false => exact hclk
  | true =>
    rw [if_pos rfl, ← List.append_assoc]
    exact drive_gather (fun w _ l' g' hg' => recvPass_steps hJ cfg packetwait _ _ w hg') hclk

theorem waitTime_steps (deadline : ℚ) (packetwait : UInt32) (clk : ClockCall)
    {l : List Timespec} {g : State} (hg : J l g) :
    J (l ++ waitReadings deadline clk) (waitTime deadline packetwait clk g).2 := by
  have hclk := hJ.clock l clk g hg
  unfold waitTime waitReadings
  dsimp only
  split_ifs
  · rw [List.append_nil]
    exact hg
  · exact hclk
  · exact hclk
  · exact hclk

end Receive

section Run

variable {cfg : Config} {K J : UInt32 → List Timespec → State → Prop} (hsteps : RunSteps cfg K J)

include hsteps

/-- A round that begins behind a loop test. -/
theorem pingRound_steps (deadline : ℚ) (r : Round) {l : List Timespec} {s : UInt32 × State}
    (htest : loopTest cfg s.1 s.2 = true) (hs : K s.1 l s.2) :
    (pingRound cfg deadline r s).Ensures
      (fun s' => loopTest cfg s'.1 s'.2 = true ∧
        K s'.1 (l ++ roundReadings cfg deadline r s) s'.2)
      (fun _ s' => ∃ c, J c (l ++ roundReadings cfg deadline r s) s'.2) := by
  obtain ⟨c, g⟩ := s
  have hJ := hsteps.receive c
  have hsend := hsteps.send c l r.send g htest hs
  have hwait := waitTime_steps hJ deadline cfg.packetwait r.waitClock hsend
  have hrecv := pingRecv_steps hJ cfg
    (waitTime deadline cfg.packetwait r.waitClock (sendRequest cfg c r.send g)).1 r.recv hwait
  unfold pingRound roundReadings
  dsimp only
  rw [← List.append_assoc, ← List.append_assoc]
  split
  · rw [List.append_nil]
    exact ⟨c, hwait⟩
  · split
    · rename_i g₁ h₁
      rw [h₁] at hrecv
      exact ⟨c, hrecv⟩
    · rename_i n g₁ h₁
      rw [h₁] at hrecv
      exact ⟨c, hrecv⟩
    · rename_i g₁ h₁
      rw [h₁] at hrecv
      have hdeliver := deliver_steps hJ r.signal hrecv
      unfold nextRound
      split
      · rename_i htest'
        exact ⟨htest', hsteps.next c _ _ hdeliver⟩
      · exact ⟨c, hdeliver⟩

theorem afterStart_steps (env : RunEnv) {g : State} (hg : K 0 [] g) :
    K 0 (if cfg.deadline > 0 then [env.startClock.timespec] else []) (afterStart cfg env g) := by
  have hstart : K 0 (if cfg.deadline > 0 then [env.startClock.timespec] else [])
      (startDeadline cfg env.startClock g).2 := by
    unfold startDeadline
    dsimp only
    split
    · exact hsteps.clock [] env.startClock g hg
    · exact hg
  unfold afterStart
  cases env.signal with
  | true => exact hsteps.sigint _ _ hstart
  | false => exact hstart

/-- **The rule of the ping loop.** Where the script ends before the next round, `K` holds of the
next count; where the loop is left, either it never began, or `J` holds of the last count. -/
theorem pingLoop_steps (env : RunEnv) {g : State} (hg : K 0 [] g) :
    (pingLoop cfg env g).Ensures
      (fun s => loopTest cfg s.1 s.2 = true ∧ K s.1 (runReadings cfg env g) s.2)
      (fun _ s =>
        (loopTest cfg 0 (afterStart cfg env g) = false ∧ K 0 (runReadings cfg env g) s.2) ∨
          loopTest cfg 0 (afterStart cfg env g) = true ∧
            ∃ c, J c (runReadings cfg env g) s.2) := by
  have hstart := afterStart_steps hsteps env hg
  have hloop : pingLoop cfg env g =
      if loopTest cfg 0 (afterStart cfg env g) then
        drive (pingRound cfg (startDeadline cfg env.startClock g).1) env.rounds
          (0, afterStart cfg env g)
      else .stop .ended (0, afterStart cfg env g) := rfl
  unfold runReadings
  dsimp only
  rw [hloop]
  by_cases htest : loopTest cfg 0 (afterStart cfg env g) = true
  · rw [if_pos htest, if_pos htest]
    exact (drive_ensures
      (J := fun l (s : UInt32 × State) => loopTest cfg s.1 s.2 = true ∧ K s.1 l s.2)
      (Q := fun l (_ : LoopExit) (s : UInt32 × State) => ∃ c, J c l s.2)
      (f := roundReadings cfg (startDeadline cfg env.startClock g).1)
      (fun r _ _ _ hs => pingRound_steps hsteps _ r hs.1 hs.2)
      (s := (0, afterStart cfg env g)) ⟨htest, hstart⟩).imp (fun _ h => h)
        fun _ _ h => Or.inr ⟨htest, h⟩
  · rw [if_neg htest, if_neg htest, List.append_nil]
    exact Or.inl ⟨Bool.eq_false_of_not_eq_true htest, hstart⟩

end Run

section Same

variable {I : State → Prop} (hsame : ∀ g g', SameReceived g g' → I g → I g')

include hsame

/-- A property of the receive side is kept by everything but the handler. -/
theorem receiveSteps_of_same {func : Handler} (hfunc : ∀ p clk g, I g → I (func p clk g)) :
    ReceiveSteps func fun _ => I where
  clock := fun _ clk g => hsame g _ (SameReceived.getclock clk g)
  sigint := fun _ g => hsame g _ (SameReceived.sigint g)
  select := fun _ _ g _ => hsame g _ (SameReceived.emit rfl rfl rfl g)
  dispatch := fun _ g _ => hsame g _ (SameReceived.emit rfl rfl rfl g)
  prints := fun _ os g => hsame g _ (SameReceived.prints os g)
  handler := fun _ => hfunc

/-- **Run invariants.** A property of the receive side that the handler of the mode preserves
holds at the end of every run, however it ends, and so in every reachable state. -/
theorem pingLoop_inv (cfg : Config) (hfunc : ∀ p clk g, I g → I (recvHandler cfg p clk g))
    (env : RunEnv) {g : State} (hg : I g) : I (pingLoop cfg env g).state.2 := by
  have hsteps : RunSteps cfg (fun _ _ => I) fun _ _ => I :=
    { clock := fun _ clk g => hsame g _ (SameReceived.getclock clk g)
      sigint := fun _ g => hsame g _ (SameReceived.sigint g)
      send := fun c _ env g _ => hsame g _ (sendRequest_same cfg c env g)
      receive := fun _ => receiveSteps_of_same hsame hfunc
      next := fun _ _ _ h => h }
  refine (pingLoop_steps hsteps env hg).state (I := fun s => I s.2) (fun s h => h.2) ?_
  rintro - s (⟨-, h⟩ | ⟨-, c, h⟩)
  · exact h
  · exact h

end Same

/-! ## Sample runs -/

/-- A round at the second `sec` in which everything succeeds: `batch` arrives at once, and then
`select` times out. -/
def roundAt (sec : ℤ) (batch : List Packet) : Round where
  send := ⟨true, true, true, true, readingAt sec, readingAt sec, 0⟩
  waitClock := readingAt sec
  recv := ⟨readingAt sec, true, [⟨readingAt sec, false, .ready (batch.map (⟨·, readingAt sec⟩))⟩,
    ⟨readingAt sec, false, .timeout⟩]⟩
  signal := false

/-- One round a second. -/
def runOf (batches : List (List Packet)) : RunEnv where
  startClock := readingAt 0
  signal := false
  rounds := batches.zipIdx.map fun b => roundAt b.2 b.1

end Arping
