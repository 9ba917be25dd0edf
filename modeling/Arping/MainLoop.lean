import Arping.Handlers
import Arping.RecvLoop
import Arping.Senders

/-!
# The ping loop

The part of `arping_main` behind "let's roll": the absolute deadline, the loop of send, wait and
receive, and the exit status. Each element of `RunEnv.rounds` is the environment's part in one
pass of the loop.
-/

namespace Arping

open ScriptLoop

/-- Conversion of a `double` to `uint32_t`: truncation of values from 0 to below `2 ^ 32`. C says
nothing of others. -/
def toUint32 (x : ℚ) : UInt32 := UInt32.ofNat ⌊x⌋.toNat

/-- `wait_time`: number of microseconds to wait for packets. -/
def waitTime (deadline : ℚ) (packetwait : UInt32) (clk : ClockCall) (g : State) :
    UInt32 × State :=
  if deadline < 0 then (packetwait, g)
  else
    let (ts, g) := getclock clk g
    let maxWait := deadline - timespec2dbl ts
    if maxWait < 0 then (0, g)
    else if maxWait > (packetwait / 1000000).toNat then (packetwait, g)
    else (toUint32 (maxWait * 1000000), g)

/-- The environment's part in one pass of the ping loop. `signal` is a signal that arrives between
the last test of `time_to_die` in the pass and the next loop test. -/
structure Round where
  send : SendEnv
  waitClock : ClockCall
  recv : RecvEnv
  signal : Bool

/-- The environment's part in the ping loop. `signal` is a signal that arrives before the first
loop test. -/
structure RunEnv where
  startClock : ClockCall
  signal : Bool
  rounds : List Round

/-- How the ping loop ends: by its own condition or `break`, by `exit` in `ping_recv`, or not at
all, because the script ends while `ping_recv` still waits. -/
inductive LoopExit
  | ended
  | exited (status : ℕ)
  | waiting
  deriving DecidableEq

/-- The sender of the mode. -/
def sendRequest (cfg : Config) (c : UInt32) (env : SendEnv) (g : State) : State :=
  match cfg.mode with
  | .pingip => pingipSend cfg env g
  | _ => pingmacSend cfg env.rand c.toUInt16 env g

/-- `c < maxcount && !time_to_die`. -/
def loopTest (cfg : Config) (c : UInt32) (g : State) : Bool := c < cfg.maxcount && !g.timeToDie

/-- `c++` and the loop test. -/
def nextRound (cfg : Config) (c : UInt32) (g : State) : Ctl LoopExit (UInt32 × State) :=
  if loopTest cfg (c + 1) g then .next (c + 1, g) else .stop .ended (c + 1, g)

/-- One pass of the ping loop, with the loop test behind it. -/
def pingRound (cfg : Config) (deadline : ℚ) (r : Round) (s : UInt32 × State) :
    Ctl LoopExit (UInt32 × State) :=
  let (c, g) := s
  let g := sendRequest cfg c r.send g
  let (w, g) := waitTime deadline cfg.packetwait r.waitClock g
  if w = 0 then .stop .ended (c, g)
  else
    match pingRecv cfg w (recvHandler cfg) r.recv g with
    | .next g => .stop .waiting (c, g)
    | .stop (.exited n) g => .stop (.exited n) (c, g)
    | .stop .returned g => nextRound cfg c (deliver r.signal g)

/-- The absolute deadline. -/
def startDeadline (cfg : Config) (clk : ClockCall) (g : State) : ℚ × State :=
  if cfg.deadline > 0 then
    let (ts, g) := getclock clk g
    (cfg.deadline + timespec2dbl ts, g)
  else (cfg.deadline, g)

/-- The ping loop of `arping_main`, from the absolute deadline on. -/
def pingLoop (cfg : Config) (env : RunEnv) (g : State) : Ctl LoopExit (UInt32 × State) :=
  let (deadline, g) := startDeadline cfg env.startClock g
  let g := deliver env.signal g
  if loopTest cfg 0 g then drive (pingRound cfg deadline) env.rounds (0, g)
  else .stop .ended (0, g)

/-- The exit status at the final `return`. -/
def exitStatus (cfg : Config) (g : State) : ℕ :=
  if cfg.finddup then (if g.dupfound then 1 else 0)
  else (if g.numrecvd = 0 then 1 else 0)

/-- The exit status of a run that reaches the final `return`. -/
def finalReturn (cfg : Config) : Ctl LoopExit (UInt32 × State) → Option ℕ
  | .stop .ended (_, g) => some (exitStatus cfg g)
  | _ => none

end Arping
