import Arping.Machine

/-!
# Winding down

`time_to_die` is only looked at in two places, the loop test and the check in front of `select`. A
signal that arrives behind one of them therefore does not stop what the test has let pass:
`Point.left` says for each point which calls are still to come, at most one of each kind
(`moves_windDown`). Everywhere else nothing more is sent, waited for or dispatched.
-/

namespace Arping

/-- The calls that keep a run going: libnet's for a request, `libnet_write`, `select` and
`pcap_dispatch`. -/
inductive Call
  | build
  | write
  | select
  | dispatch
  deriving DecidableEq

def Event.call? : Event → Option Call
  | send _ => some .build
  | write _ => some .write
  | select _ => some .select
  | dispatch => some .dispatch
  | _ => none

/-- How often a call is made in a list of events. -/
def callsOf (call : Call) (evs : List Event) : ℕ := evs.countP fun e => e.call? = some call

/-- The calls to come from a point where `time_to_die` is set. -/
def Point.left : Point → Call → ℕ
  | request _, .build | request _, .write | write _, .write => 1
  | select _ _, .select | select _ _, .dispatch | answer _ _, .dispatch => 1
  | _, _ => 0

/-- From `s` to `s'` no more calls are made than were left. -/
structure WindsDown (s s' : Point × State) : Prop where
  timeToDie : s'.2.timeToDie = true
  trace : ∃ evs, s'.2.trace = s.2.trace ++ evs ∧
    ∀ call, callsOf call evs + s'.1.left call ≤ s.1.left call

namespace WindsDown

variable {s s' s'' : Point × State}

theorem refl (h : s.2.timeToDie = true) : WindsDown s s :=
  ⟨h, [], (List.append_nil _).symm, fun _ => Nat.le_of_eq (Nat.zero_add _)⟩

theorem trans (h : WindsDown s s') (h' : WindsDown s' s'') : WindsDown s s'' := by
  obtain ⟨evs, htrace, hevs⟩ := h.trace
  obtain ⟨evs', htrace', hevs'⟩ := h'.trace
  refine ⟨h'.timeToDie, evs ++ evs', by rw [htrace', htrace, List.append_assoc], fun call => ?_⟩
  have hle := hevs call
  have hle' := hevs' call
  rw [callsOf, List.countP_append, ← callsOf, ← callsOf]
  omega

/-- A move with one event. -/
theorem emit {pt pt' : Point} {e : Event} {g g' : State} (hdie : g'.timeToDie = true)
    (htrace : g'.trace = g.trace ++ [e])
    (hleft : ∀ call, (if e.call? = some call then 1 else 0) + pt'.left call ≤ pt.left call) :
    WindsDown (pt, g) (pt', g') := by
  refine ⟨hdie, [e], htrace, fun call => ?_⟩
  rw [callsOf, List.countP_singleton, ite_congr (decide_eq_true_eq) (fun _ => rfl) fun _ => rfl]
  exact hleft call

/-- A move that makes no call. -/
theorem of_records {pt pt' : Point} {g g' : State} (hdie : g'.timeToDie = true)
    (hrec : Records (fun e => e.call? = none) g g') (hleft : ∀ call, pt'.left call ≤ pt.left call) :
    WindsDown (pt, g) (pt', g') := by
  obtain ⟨evs, htrace, hevs⟩ := hrec
  refine ⟨hdie, evs, htrace, fun call => ?_⟩
  have hzero : callsOf call evs = 0 := List.countP_eq_zero.mpr fun e he => by
    simp [hevs e he]
  rw [hzero, Nat.zero_add]
  exact hleft call

end WindsDown

theorem Event.call?_of_ofHandler (e : Event) (h : e.OfHandler) : e.call? = none := by
  cases e <;> first | rfl | exact absurd h id

/-- One move with `time_to_die` set: the two tests let nothing pass. -/
theorem Move.windsDown {cfg : Config} {s s' : Point × State} (hmove : Move cfg s s')
    (hdie : s.2.timeToDie = true) : WindsDown s s' := by
  have hnone : ∀ {g g' : State}, g'.trace = g.trace → Records (fun e => e.call? = none) g g' :=
    fun h => Records.of_trace_eq h
  cases hmove with
  | sigint pt g => exact .of_records rfl (hnone rfl) fun _ => Nat.le_refl _
  | @test c g htest =>
    unfold loopTest at htest
    rw [show g.timeToDie = true from hdie, Bool.not_true, Bool.and_false] at htest
    cases htest
  | request c id g =>
    exact .emit hdie rfl fun call => by cases call <;> simp [Event.call?, Point.left]
  | write c ok stamp g =>
    exact .emit hdie rfl fun call => by cases call <;> simp [Event.call?, Point.left]
  | listen c g => exact .of_records hdie (hnone rfl) fun _ => Nat.le_refl _
  | @check c old g halive => exact absurd (hdie.symm.trans halive) (by decide)
  | select c old call g =>
    exact .emit hdie rfl fun call => by cases call <;> simp [Event.call?, Point.left]
  | again c old g => exact .of_records hdie (hnone rfl) fun _ => Nat.zero_le _
  | timeout c old g => exact .of_records hdie (.prints (fun _ _ => rfl) g) fun _ => Nat.zero_le _
  | dispatch c old g =>
    exact .emit hdie rfl fun call => by cases call <;> simp [Event.call?, Point.left]
  | handle c old p clk g =>
    exact .of_records (recvHandler_die hdie cfg p clk)
      ((recvHandler_records cfg p clk g).imp Event.call?_of_ofHandler) fun _ => Nat.le_refl _
  | drained c old g => exact .of_records hdie (hnone rfl) fun _ => Nat.zero_le _
  | close c old g => exact .of_records hdie (hnone rfl) fun _ => Nat.zero_le _

/-- **Winding down.** From the moment `time_to_die` is set, wherever that happens and whatever
happens then, it stays set, and no call that keeps the run going is made more often than the point
leaves open: not at all, except behind a test that was passed before. -/
theorem moves_windDown {cfg : Config} {s s' : Point × State} (h : Moves cfg s s')
    (hdie : s.2.timeToDie = true) :
    s'.2.timeToDie = true ∧ ∃ evs, s'.2.trace = s.2.trace ++ evs ∧
      ∀ call, callsOf call evs ≤ s.1.left call := by
  have hdown : WindsDown s s' := by
    induction h with
    | refl => exact .refl hdie
    | tail _ hlast ih => exact ih.trans (hlast.windsDown ih.timeToDie)
  obtain ⟨evs, htrace, hevs⟩ := hdown.trace
  exact ⟨hdown.timeToDie, evs, htrace, fun call => (Nat.le_add_right _ _).trans (hevs call)⟩

/-- A signal right behind the first loop test: one request is still sent. -/
theorem moves_windDown_request :
    let g := sigint State.init
    let g' := (g.emit (.send (requestOf ipConfig 0 0)))
    g'.timeToDie = true ∧ ∃ evs, g'.trace = g.trace ++ evs ∧
      ∀ call, callsOf call evs ≤ (Point.request 0).left call :=
  moves_windDown (.single (.request 0 0 (sigint State.init))) rfl

end Arping
