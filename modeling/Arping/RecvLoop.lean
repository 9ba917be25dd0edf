import Arping.Lib.ScriptLoop
import Arping.State

/-!
# The receive loop

`ping_recv` waits for packets for `packetwait` microseconds. Its loop is `ScriptLoop.drive` on the
list of wake-ups: what the environment does in one pass, from the clock reading to the packets that
`pcap_dispatch` hands to the handler. A signal may arrive at any time; only its position relative
to the next test of `time_to_die` matters, and `WakeUp.signal` is that position.
-/

namespace Arping

open ScriptLoop

/-- A packet handed to the handler, with the clock reading the handler takes. -/
structure Arrival where
  packet : Packet
  clock : ClockCall

/-- What `select` returns: 0, -1 with `EINTR`, -1 with another error, or data, together with what
the following `pcap_dispatch` delivers. -/
inductive SelectResult
  | timeout
  | interrupted
  | failed
  | ready (batch : List Arrival)

/-- The environment's part in one pass of the receive loop. -/
structure WakeUp where
  clock : ClockCall
  signal : Bool
  select : SelectResult

/-- A packet handler. -/
abbrev Handler : Type := Packet → ClockCall → State → State

/-- How `ping_recv` ends. -/
inductive RecvExit
  | returned
  | exited (status : ℕ)
  deriving DecidableEq

/-- The environment's part in one call of `ping_recv`. -/
structure RecvEnv where
  start : ClockCall
  fdOk : Bool
  wakeups : List WakeUp

/-- The handler is called on packet after packet. -/
def handleAll (func : Handler) (batch : List Arrival) (g : State) : State :=
  batch.foldl (fun g a => func a.packet a.clock g) g

@[simp] theorem handleAll_cons (func : Handler) (a : Arrival) (batch : List Arrival) (g : State) :
    handleAll func (a :: batch) g = handleAll func batch (func a.packet a.clock g) := rfl

/-- `pcap_dispatch`. -/
def pcapDispatch (func : Handler) (batch : List Arrival) (g : State) : State :=
  handleAll func batch (g.emit .dispatch)

theorem packetwait_sec (packetwait : UInt32) :
    (packetwait / 1000000).toNat = packetwait.toNat / 1000000 := by
  rw [UInt32.toNat_div]
  rfl

theorem packetwait_usec (packetwait : UInt32) :
    (packetwait % 1000000).toNat = packetwait.toNat % 1000000 := by
  rw [UInt32.toNat_mod]
  rfl

/-- `endtime`. -/
def endTime (packetwait : UInt32) (start : Timespec) : Timespec :=
  fixupTimespec
    ⟨start.tvSec + (packetwait / 1000000).toNat,
      start.tvNsec + (1000 * (packetwait % 1000000)).toNat⟩

/-- The time left, as the pass computes it. -/
def timeLeft (endtime now : Timespec) : Timespec :=
  fixupTimespec ⟨endtime.tvSec - now.tvSec, endtime.tvNsec - now.tvNsec⟩

/-- The wait is longer than the full period. -/
def LongerThan (packetwait : UInt32) (ts : Timespec) : Prop :=
  ts.tvSec > (packetwait / 1000000).toNat ∨
    (ts.tvSec = (packetwait / 1000000).toNat ∧
      ts.tvNsec.tdiv 1000 > (packetwait % 1000000).toNat)

instance (packetwait : UInt32) (ts : Timespec) : Decidable (LongerThan packetwait ts) := by
  unfold LongerThan; infer_instance

/-- The two tests on the time left: what remains of it, and `done`. -/
def plan (packetwait : UInt32) (endtime now : Timespec) : Timespec × Bool :=
  let ts := timeLeft endtime now
  let (ts, done) := if ts.tvSec < 0 then (⟨0, 1⟩, true) else (ts, false)
  if LongerThan packetwait ts then (⟨0, 1⟩, true) else (ts, done)

/-- The timeout handed to `select`. -/
def selectTimeout (ts : Timespec) : Timeval := ⟨ts.tvSec, ts.tvNsec.tdiv 1000⟩

/-- A pass up to the `select` call; `none` where the check for `sigint` returns. -/
def beforeSelect (packetwait : UInt32) (endtime : Timespec) (w : WakeUp) (g : State) :
    State × Option SelectCall :=
  let (now, g) := getclock w.clock g
  let (ts, done) := plan packetwait endtime now
  let g := deliver w.signal g
  if g.timeToDie then (g, none) else (g, some ⟨now, selectTimeout ts, done⟩)

/-- What a timeout without any reply since `old_received` prints. -/
def timeoutOutputs (cfg : Config) (oldReceived : UInt32) (g : State) : List Output :=
  if g.numrecvd = oldReceived then
    (if cfg.reverseBeep then [.bell] else []) ++
      match cfg.display with
      | .normal => [.timeout]
      | .dot => [.dot]
      | _ => []
  else []

/-- A pass from the `select` call on, with the value of `done` after it. -/
def afterSelect (cfg : Config) (func : Handler) (oldReceived : UInt32) (done : Bool)
    (r : SelectResult) (g : State) : State × Bool :=
  match r with
  | .timeout => (g.prints (timeoutOutputs cfg oldReceived g), true)
  | .interrupted => (g, done)
  | .failed => (sigint g, true)
  | .ready batch => (pcapDispatch func batch g, done)

/-- One pass of the receive loop. -/
def recvPass (cfg : Config) (func : Handler) (packetwait : UInt32) (endtime : Timespec)
    (oldReceived : UInt32) (w : WakeUp) (g : State) : Ctl RecvExit State :=
  match beforeSelect packetwait endtime w g with
  | (g, none) => .stop .returned g
  | (g, some c) =>
    match afterSelect cfg func oldReceived c.done w.select (g.emit (.select c)) with
    | (g, true) => .stop .returned g
    | (g, false) => .next g

/-- `ping_recv`: try to receive a packet for `packetwait` microseconds. -/
def pingRecv (cfg : Config) (packetwait : UInt32) (func : Handler) (env : RecvEnv) (g : State) :
    Ctl RecvExit State :=
  let (ts, g) := getclock env.start g
  let endtime := endTime packetwait ts
  if !env.fdOk then .stop (.exited 1) g
  else drive (recvPass cfg func packetwait endtime g.numrecvd) env.wakeups g

end Arping
