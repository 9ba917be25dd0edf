import Mathlib.Tactic.Simps.Basic
import Arping.Clock
import Arping.Wire

/-!
# Options, globals and the record of a run

`Config` holds the variables that option parsing fixes before the ping loop starts, `State` the
globals that the loop changes. `State.trace` is not a variable of the program: it records, in
order, the calls and outputs by which a run is observed. Messages that only `-v` produces are not
recorded.
-/

namespace Arping

/-- `display`. -/
inductive Display
  | normal
  | quiet
  | raw
  | rraw
  | rawraw
  | dot
  deriving DecidableEq

/-- `mode` in `arping_main`. -/
inductive Mode
  | none
  | pingmac
  | pingip
  deriving DecidableEq

/-- The options, and the byte order of the host. -/
structure Config where
  host : Endian
  mode : Mode
  display : Display
  verbose : ℕ
  vlanTag : Int16
  vlanPrio : Int16
  beep : Bool
  reverseBeep : Bool
  alsototal : Bool
  addrMustBeSame : Bool
  unsolicited : Bool
  sendReply : Bool
  finddup : Bool
  maxReplies : UInt32
  maxcount : UInt32
  packetwait : UInt32
  deadline : ℚ
  srcip : UInt32
  dstip : UInt32
  srcmac : Mac
  dstmac : Mac

/-- The values before any option is parsed. -/
def Config.init (host : Endian) : Config where
  host := host
  mode := .none
  display := .normal
  verbose := 0
  vlanTag := -1
  vlanPrio := -1
  beep := false
  reverseBeep := false
  alsototal := false
  addrMustBeSame := false
  unsolicited := false
  sendReply := false
  finddup := false
  maxReplies := 0xffffffff
  maxcount := 0xffffffff
  packetwait := 1000000
  deadline := -1
  srcip := 0
  dstip := 0xffffffff
  srcmac := #v[0, 0, 0, 0, 0, 0]
  dstmac := #v[0xff, 0xff, 0xff, 0xff, 0xff, 0xff]

/-! ## What a run shows -/

/-- What is printed on standard output in the loop, the messages of `-v` apart. -/
inductive Output
  | bell
  | dot
  | bang
  | timeout
  | newline
  | ipReply (len : UInt32) (mac : Mac) (ip : UInt32) (index : UInt32) (total : Option UInt32)
      (sent arrival : Timespec)
  | macReply (len : UInt32) (ip : UInt32) (mac : Mac) (seq : UInt16) (sent arrival : Timespec)
  | mac (mac : Mac)
  | ip (ip : UInt32)
  | macIp (mac : Mac) (ip : UInt32)

/-- The arguments that `libnet_build_802_1q` takes for the tag. -/
structure TagArgs where
  tpi : UInt16
  priority : Int16
  cfi : ℕ
  vlanId : Int16

/-- The arguments of `libnet_build_802_1q` (with a tag) or `libnet_build_ethernet`. -/
structure EtherArgs where
  dst : Mac
  src : Mac
  tag : Option TagArgs
  type : UInt16

/-- The arguments of `libnet_build_arp`. -/
structure ArpArgs where
  hrd : UInt16
  pro : UInt16
  hln : ℕ
  pln : ℕ
  op : UInt16
  sha : Mac
  spa : UInt32
  tha : Mac
  tpa : UInt32

/-- The arguments of `libnet_build_icmpv4_echo`. -/
structure IcmpArgs where
  type : UInt8
  code : UInt8
  sum : UInt16
  id : UInt16
  seq : UInt16

/-- The arguments of `libnet_build_ipv4`. -/
structure Ipv4Args where
  len : ℕ
  tos : UInt8
  id : UInt16
  frag : UInt16
  ttl : UInt8
  prot : UInt8
  sum : UInt16
  src : UInt32
  dst : UInt32

/-- The packet a sender hands to libnet. -/
inductive Request
  | arp (arp : ArpArgs) (eth : EtherArgs)
  | icmp (icmp : IcmpArgs) (ip : Ipv4Args) (eth : EtherArgs)

/-- One `select` call: the clock reading of its pass, the timeout, and whether `done` was already
set. -/
structure SelectCall where
  now : Timespec
  timeout : Timeval
  done : Bool
  deriving DecidableEq

/-- An observable step of the run. `handle` is a call of a receive handler, `count` the point where
it reaches `numrecvd++`, and `sample` the argument of `update_stats`. -/
inductive Event
  | send (r : Request)
  | write (ok : Bool)
  | select (c : SelectCall)
  | dispatch
  | handle (p : Packet)
  | sample (t : ℚ)
  | print (o : Output)
  | count (p : Packet)

/-! ## State -/

/-- The statistics: `stats_min_time`, `stats_max_time`, `stats_total_time` and
`stats_total_sq_time`. -/
structure Stats where
  minTime : ℚ
  maxTime : ℚ
  totalTime : ℚ
  totalSqTime : ℚ
  deriving DecidableEq

/-- The globals. -/
structure State where
  lastpacketsent : Timespec
  numsent : UInt32
  numrecvd : UInt32
  lastreplymac : Mac
  dupfound : Bool
  stats : Stats
  timeToDie : Bool
  trace : List Event

/-- The globals before the ping loop. -/
def State.init : State where
  lastpacketsent := ⟨0, 0⟩
  numsent := 0
  numrecvd := 0
  lastreplymac := #v[0, 0, 0, 0, 0, 0]
  dupfound := false
  stats := ⟨-1, -1, 0, 0⟩
  timeToDie := false
  trace := []

/-- Record an observable step. -/
@[simps] def State.emit (e : Event) (g : State) : State := { g with trace := g.trace ++ [e] }

/-- Print, in order. -/
@[simps] def State.prints (os : List Output) (g : State) : State :=
  { g with trace := g.trace ++ os.map .print }

/-- `sigint`, as signal handler and as the way every failure ends the run. -/
@[simps] def sigint (g : State) : State := { g with timeToDie := true }

/-- A pending signal is delivered. -/
def deliver (signal : Bool) (g : State) : State := if signal then sigint g else g

/-- `getclock`: the time read, and the globals after the call. -/
def getclock (c : ClockCall) (g : State) : Timespec × State :=
  (c.timespec, match c with
    | .ok _ => g
    | .fail _ => sigint g)

/-- `update_stats`. -/
def updateStats (sample : ℚ) (s : Stats) : Stats where
  minTime := if s.minTime < 0 ∨ sample < s.minTime then sample else s.minTime
  maxTime := if s.maxTime < sample then sample else s.maxTime
  totalTime := s.totalTime + sample
  totalSqTime := s.totalSqTime + sample * sample

/-! ## Projections of the trace -/

namespace Event

def counted? : Event → Option Packet
  | count p => some p
  | _ => none

def handled? : Event → Option Packet
  | handle p => some p
  | _ => none

def sample? : Event → Option ℚ
  | sample t => some t
  | _ => none

end Event

namespace State

/-- The counted replies, in order. -/
def counted (g : State) : List Packet := g.trace.filterMap Event.counted?

/-- The packets handed to the receive handler, in order. -/
def handled (g : State) : List Packet := g.trace.filterMap Event.handled?

/-- The arguments of the calls of `update_stats`, in order. -/
def samples (g : State) : List ℚ := g.trace.filterMap Event.sample?

/-- An event is added at the end of each projection. -/
theorem counted_emit (e : Event) (g : State) :
    (g.emit e).counted = g.counted ++ e.counted?.toList := by
  rw [counted, emit_trace, List.filterMap_append]
  cases h : e.counted? <;> simp [counted, h]

theorem handled_emit (e : Event) (g : State) :
    (g.emit e).handled = g.handled ++ e.handled?.toList := by
  rw [handled, emit_trace, List.filterMap_append]
  cases h : e.handled? <;> simp [handled, h]

theorem samples_emit (e : Event) (g : State) :
    (g.emit e).samples = g.samples ++ e.sample?.toList := by
  rw [samples, emit_trace, List.filterMap_append]
  cases h : e.sample? <;> simp [samples, h]

end State

/-! ## Frame -/

/-- `g'` differs from `g` at most in `lastpacketsent`, `numsent`, `time_to_die` and in what was
sent, waited for and printed: everything the receive handlers are responsible for is as it was. -/
structure SameReceived (g g' : State) : Prop where
  numrecvd : g'.numrecvd = g.numrecvd
  lastreplymac : g'.lastreplymac = g.lastreplymac
  dupfound : g'.dupfound = g.dupfound
  stats : g'.stats = g.stats
  counted : g'.counted = g.counted
  handled : g'.handled = g.handled
  samples : g'.samples = g.samples

namespace SameReceived

theorem refl (g : State) : SameReceived g g := ⟨rfl, rfl, rfl, rfl, rfl, rfl, rfl⟩

theorem trans {g g' g'' : State} (h : SameReceived g g') (h' : SameReceived g' g'') :
    SameReceived g g'' where
  numrecvd := h'.numrecvd.trans h.numrecvd
  lastreplymac := h'.lastreplymac.trans h.lastreplymac
  dupfound := h'.dupfound.trans h.dupfound
  stats := h'.stats.trans h.stats
  counted := h'.counted.trans h.counted
  handled := h'.handled.trans h.handled
  samples := h'.samples.trans h.samples

theorem sigint (g : State) : SameReceived g (sigint g) := ⟨rfl, rfl, rfl, rfl, rfl, rfl, rfl⟩

theorem emit {e : Event} (hc : e.counted? = none) (hh : e.handled? = none) (hs : e.sample? = none)
    (g : State) : SameReceived g (g.emit e) := by
  refine ⟨rfl, rfl, rfl, rfl, ?_, ?_, ?_⟩
  · rw [State.counted_emit, hc, Option.toList_none, List.append_nil]
  · rw [State.handled_emit, hh, Option.toList_none, List.append_nil]
  · rw [State.samples_emit, hs, Option.toList_none, List.append_nil]

theorem prints (os : List Output) (g : State) : SameReceived g (g.prints os) := by
  refine ⟨rfl, rfl, rfl, rfl, ?_, ?_, ?_⟩
  · rw [State.counted, State.prints_trace, List.filterMap_append, List.filterMap_map]
    simp [State.counted, Function.comp_def, Event.counted?]
  · rw [State.handled, State.prints_trace, List.filterMap_append, List.filterMap_map]
    simp [State.handled, Function.comp_def, Event.handled?]
  · rw [State.samples, State.prints_trace, List.filterMap_append, List.filterMap_map]
    simp [State.samples, Function.comp_def, Event.sample?]

theorem getclock (c : ClockCall) (g : State) : SameReceived g (getclock c g).2 := by
  cases c with
  | ok now => exact refl g
  | fail junk => exact sigint g

theorem deliver (signal : Bool) (g : State) : SameReceived g (deliver signal g) := by
  cases signal with
  | true => exact sigint g
  | false => exact refl g

end SameReceived

/-- From `g` to `g'` only events with `P` are recorded. -/
def Records (P : Event → Prop) (g g' : State) : Prop :=
  ∃ evs, g'.trace = g.trace ++ evs ∧ ∀ e ∈ evs, P e

namespace Records

variable {P : Event → Prop} {g g' g'' : State}

theorem of_trace_eq (h : g'.trace = g.trace) : Records P g g' :=
  ⟨[], by rw [h, List.append_nil], by simp⟩

theorem trans (h : Records P g g') (h' : Records P g' g'') : Records P g g'' := by
  obtain ⟨evs, htrace, hevs⟩ := h
  obtain ⟨evs', htrace', hevs'⟩ := h'
  refine ⟨evs ++ evs', by rw [htrace', htrace, List.append_assoc], fun e he => ?_⟩
  rcases List.mem_append.mp he with he | he
  · exact hevs e he
  · exact hevs' e he

theorem emit {e : Event} (he : P e) (g : State) : Records P g (g.emit e) :=
  ⟨[e], rfl, fun _ h => by rwa [List.mem_singleton.mp h]⟩

theorem prints {os : List Output} (h : ∀ o ∈ os, P (.print o)) (g : State) :
    Records P g (g.prints os) :=
  ⟨os.map .print, rfl, fun e he => by
    obtain ⟨o, ho, rfl⟩ := List.mem_map.mp he
    exact h o ho⟩

theorem getclock (clk : ClockCall) (g : State) : Records P g (getclock clk g).2 :=
  of_trace_eq (by cases clk <;> rfl)

theorem imp {Q : Event → Prop} (hPQ : ∀ e, P e → Q e) (h : Records P g g') : Records Q g g' := by
  obtain ⟨evs, htrace, hevs⟩ := h
  exact ⟨evs, htrace, fun e he => hPQ e (hevs e he)⟩

/-- A projection that skips the events recorded stays as it was. -/
theorem filterMap_eq {β : Type} {f : Event → Option β} (hf : ∀ e, P e → f e = none)
    (h : Records P g g') : g'.trace.filterMap f = g.trace.filterMap f := by
  obtain ⟨evs, htrace, hevs⟩ := h
  have hnil : evs.filterMap f = [] := List.filterMap_eq_nil_iff.mpr fun e he => hf e (hevs e he)
  rw [htrace, List.filterMap_append, hnil, List.append_nil]

end Records

end Arping
