import Arping.Session

/-!
# The order of the calls

`Phase.Run` is the language of the traces: a request is built and then written, `select` is called
only when nothing waits to be written, packets are handled only within a dispatch that data from
`select` has led to, and a reply is sampled, printed and counted in one go. The trace of every
reachable situation is in the language (`reachable_phase`), so each event has its place behind the
events it depends on (`reachable_callOrder`).
-/

namespace Arping

/-! ## The language -/

/-- What the last event leaves open. -/
inductive Phase
  | start
  | sending
  | listening
  | selected
  | reported
  | batch
  | handling (p : Packet)
  | sampled (p : Packet)

namespace Phase

/-- No request waits to be written, and no reply to be counted. -/
def MaySend : Phase → Prop
  | sending | sampled _ => False
  | _ => True

def MaySelect : Phase → Prop
  | listening | selected | batch | handling _ => True
  | _ => False

/-- Within a dispatch, between two packets. -/
def InBatch : Phase → Prop
  | batch | handling _ => True
  | _ => False

theorem MaySelect.maySend {q : Phase} (h : q.MaySelect) : q.MaySend := by
  cases q <;> trivial

theorem InBatch.maySelect {q : Phase} (h : q.InBatch) : q.MaySelect := by
  cases q <;> trivial

inductive Step : Phase → Event → Phase → Prop
  | send {q : Phase} (r : Request) (h : q.MaySend) : Step q (.send r) sending
  | write (ok : Bool) : Step sending (.write ok) listening
  | select {q : Phase} (c : SelectCall) (h : q.MaySelect) : Step q (.select c) selected
  | report (o : Output) : Step selected (.print o) reported
  | reportOn (o : Output) : Step reported (.print o) reported
  | dispatch : Step selected .dispatch batch
  | handle {q : Phase} (p : Packet) (h : q.InBatch) : Step q (.handle p) (handling p)
  | sample (p : Packet) (t : ℚ) : Step (handling p) (.sample t) (sampled p)
  | line (p : Packet) (o : Output) (h : o.ForReply) : Step (sampled p) (.print o) (sampled p)
  | count (p : Packet) : Step (sampled p) (.count p) batch

/-- The traces, with the phase they lead to. -/
inductive Run : List Event → Phase → Prop
  | nil : Run [] start
  | snoc {l : List Event} {q q' : Phase} {e : Event} (hl : Run l q) (he : Step q e q') :
      Run (l ++ [e]) q'

variable {l : List Event} {q : Phase} {p : Packet}

theorem Run.last {e : Event} (h : Run (l ++ [e]) q) : ∃ q₀, Run l q₀ ∧ Step q₀ e q := by
  generalize heq : l ++ [e] = l' at h
  cases h with
  | nil => exact absurd heq (List.append_ne_nil_of_right_ne_nil l (List.cons_ne_nil e []))
  | snoc hl he =>
    obtain ⟨rfl, rfl⟩ := List.append_singleton_inj.mp heq
    exact ⟨_, hl, he⟩

/-- The language is closed under prefixes. -/
theorem Run.append {r : List Event} (h : Run (l ++ r) q) : ∃ q₀, Run l q₀ := by
  induction r using List.reverseRecOn generalizing q with
  | nil =>
    rw [List.append_nil] at h
    exact ⟨q, h⟩
  | append_singleton r e ih =>
    rw [← List.append_assoc] at h
    obtain ⟨q₀, h₀, -⟩ := h.last
    exact ih h₀

/-- An event, with the phase in front of it. -/
theorem Run.split {e : Event} {r : List Event} (h : Run (l ++ e :: r) q) :
    ∃ q₀ q₁, Run l q₀ ∧ Step q₀ e q₁ := by
  rw [← List.singleton_append, ← List.append_assoc] at h
  obtain ⟨q₁, h₁⟩ := h.append
  obtain ⟨q₀, h₀, he⟩ := h₁.last
  exact ⟨q₀, q₁, h₀, he⟩

/-! ### What a phase says about the trace -/

theorem Run.sending (h : Run l .sending) : ∃ l' r, l = l' ++ [.send r] := by
  cases h with
  | snoc hl he => cases he with
    | send r hq => exact ⟨_, r, rfl⟩

theorem Run.selected (h : Run l .selected) : ∃ l' c, l = l' ++ [.select c] := by
  cases h with
  | snoc hl he => cases he with
    | select c hq => exact ⟨_, c, rfl⟩

theorem Run.handling (h : Run l (.handling p)) : ∃ l', l = l' ++ [.handle p] := by
  cases h with
  | snoc hl he => cases he with
    | handle p hq => exact ⟨_, rfl⟩

theorem Run.sampled (h : Run l (.sampled p)) :
    ∃ l' t, ∃ os : List Output, l = l' ++ .handle p :: .sample t :: os.map .print := by
  generalize hq : Phase.sampled p = q at h
  induction h with
  | nil => cases hq
  | snoc hl he ih =>
    cases he with
    | sample p' t =>
      cases hq
      obtain ⟨l', rfl⟩ := hl.handling
      exact ⟨l', t, [], by simp⟩
    | line p' o ho =>
      cases hq
      obtain ⟨l', t, os, rfl⟩ := ih rfl
      exact ⟨l', t, os ++ [o], by simp⟩
    | _ => cases hq

/-- `pcap_dispatch` has not returned. -/
def InDispatch : Phase → Prop
  | batch | handling _ | sampled _ => True
  | _ => False

theorem InBatch.inDispatch (h : q.InBatch) : q.InDispatch := by
  cases q <;> trivial

theorem Run.inDispatch (h : Run l q) (hq : q.InDispatch) :
    ∃ l₁ l₂, l = l₁ ++ .dispatch :: l₂ ∧ ∀ e ∈ l₂, e.OfHandler := by
  induction h with
  | nil => exact absurd hq id
  | @snoc l q q' e hl he ih =>
    -- an event of a handler, within the same dispatch
    have hmore : q.InDispatch → e.OfHandler →
        ∃ l₁ l₂, l ++ [e] = l₁ ++ .dispatch :: l₂ ∧ ∀ e' ∈ l₂, e'.OfHandler := fun hq₀ hof => by
      obtain ⟨l₁, l₂, rfl, hl₂⟩ := ih hq₀
      refine ⟨l₁, l₂ ++ [e], by simp, fun e' he' => ?_⟩
      rcases List.mem_append.mp he' with he' | he'
      · exact hl₂ e' he'
      · rwa [List.mem_singleton.mp he']
    cases he with
    | dispatch => exact ⟨l, [], rfl, fun _ he' => by cases he'⟩
    | handle p hbatch => exact hmore hbatch.inDispatch trivial
    | sample p t => exact hmore trivial trivial
    | line p o ho => exact hmore trivial ho
    | count p => exact hmore trivial trivial
    | _ => exact absurd hq id

end Phase

/-! ## The traces of the program -/

/-- The phases in which a run may stand at a point. -/
def Point.Fits : Point → Phase → Prop
  | test _, q | request _, q => q.MaySend
  | write _, q => q = .sending
  | wait _, q => q = .listening
  | check _ _, q | select _ _, q => q.MaySelect
  | answer _ _, q => q = .selected
  | batch _ _, q => q.InBatch

/-- The trace is in the language and fits the point. -/
def InPhase (s : Point × State) : Prop := ∃ q, Phase.Run s.2.trace q ∧ s.1.Fits q

section

variable {cfg : Config} {g : State} {q : Phase}

/-- The reports of a wait without reply. -/
theorem run_prints (os : List Output) (h : Phase.Run g.trace .selected) :
    ∃ q, Phase.Run (g.prints os).trace q ∧ q.MaySend := by
  have hrun : ∃ q, Phase.Run (g.trace ++ os.map .print) q ∧ (q = .selected ∨ q = .reported) := by
    induction os using List.reverseRecOn with
    | nil => exact ⟨_, by rwa [List.map_nil, List.append_nil], Or.inl rfl⟩
    | append_singleton os o ih =>
      obtain ⟨q, hq, rfl | rfl⟩ := ih
      all_goals
        rw [List.map_append, ← List.append_assoc]
        refine ⟨.reported, hq.snoc ?_, Or.inr rfl⟩
      · exact .report o
      · exact .reportOn o
  obtain ⟨q, hq, rfl | rfl⟩ := hrun
  · exact ⟨_, hq, trivial⟩
  · exact ⟨_, hq, trivial⟩

theorem run_replyEvents {l : List Event} {p : Packet} {t : ℚ} {os : List Output}
    (h : Phase.Run l q) (hq : q.InBatch) (hos : ∀ o ∈ os, o.ForReply) :
    Phase.Run (l ++ replyEvents p t os) .batch := by
  have hsampled : Phase.Run (l ++ [.handle p] ++ [.sample t]) (.sampled p) :=
    (h.snoc (.handle p hq)).snoc (.sample p t)
  have hlines : Phase.Run (l ++ [.handle p] ++ [.sample t] ++ os.map .print) (.sampled p) := by
    induction os using List.reverseRecOn with
    | nil => rwa [List.map_nil, List.append_nil]
    | append_singleton os o ih =>
      rw [List.map_append, ← List.append_assoc]
      exact (ih fun o' ho' => hos o' (List.mem_append_left _ ho')).snoc
        (.line p o (hos o (List.mem_append_right _ (List.mem_singleton_self o))))
  have hcount := hlines.snoc (.count p)
  simpa [replyEvents] using hcount

/-- One call of the handler. -/
theorem run_recvHandler (p : Packet) (clk : ClockCall) (h : Phase.Run g.trace q)
    (hq : q.InBatch) :
    ∃ q', Phase.Run (recvHandler cfg p clk g).trace q' ∧ q'.InBatch := by
  by_cases hp : Accepts cfg p
  · have hnumrecvd : g.numrecvd = .ofNat g.numrecvd.toNat := UInt32.ofNat_toNat.symm
    have hnumsent : g.numsent = .ofNat g.numsent.toNat := UInt32.ofNat_toNat.symm
    rw [recvHandler_trace (r := ⟨p, g.lastpacketsent, clk.timespec, g.numsent.toNat⟩) hp rfl
      hnumrecvd hnumsent rfl]
    exact ⟨_, run_replyEvents h hq (replyOutputs_forReply cfg (Reply.line_forReply cfg _ _)),
      trivial⟩
  · rw [recvHandler_rejects hp, afterArrival_trace]
    exact ⟨_, h.snoc (.handle p hq), trivial⟩

end

theorem InPhase.move {cfg : Config} {s s' : Point × State} (h : InPhase s)
    (hmove : Move cfg s s') : InPhase s' := by
  obtain ⟨q, hrun, hfits⟩ := h
  cases hmove with
  | sigint pt g => exact ⟨q, hrun, hfits⟩
  | test htest => exact ⟨q, hrun, hfits⟩
  | request c id g => exact ⟨_, hrun.snoc (.send _ hfits), rfl⟩
  | write c ok stamp g =>
    obtain rfl : q = .sending := hfits
    exact ⟨_, hrun.snoc (.write ok), rfl⟩
  | listen c g =>
    obtain rfl : q = .listening := hfits
    exact ⟨_, hrun, trivial⟩
  | check halive => exact ⟨q, hrun, hfits⟩
  | select c old call g => exact ⟨_, hrun.snoc (.select call hfits), rfl⟩
  | again c old g =>
    obtain rfl : q = .selected := hfits
    exact ⟨_, hrun, trivial⟩
  | timeout c old g =>
    obtain rfl : q = .selected := hfits
    exact run_prints _ hrun
  | dispatch c old g =>
    obtain rfl : q = .selected := hfits
    exact ⟨_, hrun.snoc .dispatch, trivial⟩
  | handle c old p clk g => exact run_recvHandler p clk hrun hfits
  | drained c old g => exact ⟨q, hrun, hfits.maySelect⟩
  | close c old g => exact ⟨q, hrun, hfits.maySend⟩

theorem reachable_inPhase {cfg : Config} {s : Point × State} (h : Reachable cfg s) : InPhase s :=
  h.invariant ⟨.start, .nil, trivial⟩ fun _ _ hs hmove => hs.move hmove

/-- Each event has the events it depends on before it. -/
structure CallOrder (trace : List Event) : Prop where
  write : ∀ l ok r, trace = l ++ .write ok :: r → ∃ l' req, l = l' ++ [.send req]
  dispatch : ∀ l r, trace = l ++ .dispatch :: r → ∃ l' c, l = l' ++ [.select c]
  handle : ∀ l p r, trace = l ++ .handle p :: r →
    ∃ l₁ l₂, l = l₁ ++ .dispatch :: l₂ ∧ ∀ e ∈ l₂, e.OfHandler
  count : ∀ l p r, trace = l ++ .count p :: r →
    ∃ l' t, ∃ os : List Output, l = l' ++ .handle p :: .sample t :: os.map .print
  select : ∀ l c r, trace = l ++ .select c :: r → ∀ l' req, l ≠ l' ++ [.send req]

/-- **The order of calls.** In every reachable situation, whatever fails and whenever a signal
arrives: what is written has just been built, and `select` is not called in between; a batch is
dispatched right behind a `select`; packets are handled only in a batch; and a reply is counted
right behind its handling, sample and line. -/
theorem reachable_callOrder {cfg : Config} {s : Point × State} (h : Reachable cfg s) :
    CallOrder s.2.trace := by
  obtain ⟨q, hrun, -⟩ := reachable_inPhase h
  constructor
  case write =>
    intro l ok r heq
    rw [heq] at hrun
    obtain ⟨q₀, q₁, h₀, he⟩ := hrun.split
    cases he with
    | write => exact h₀.sending
  case dispatch =>
    intro l r heq
    rw [heq] at hrun
    obtain ⟨q₀, q₁, h₀, he⟩ := hrun.split
    cases he with
    | dispatch => exact h₀.selected
  case handle =>
    intro l p r heq
    rw [heq] at hrun
    obtain ⟨q₀, q₁, h₀, he⟩ := hrun.split
    cases he with
    | handle p hbatch => exact h₀.inDispatch hbatch.inDispatch
  case count =>
    intro l p r heq
    rw [heq] at hrun
    obtain ⟨q₀, q₁, h₀, he⟩ := hrun.split
    cases he with
    | count => exact h₀.sampled
  case select =>
    rintro l c r heq l' req rfl
    rw [heq] at hrun
    obtain ⟨q₀, q₁, h₀, he⟩ := hrun.split
    obtain ⟨q₂, -, hsend⟩ := h₀.last
    cases hsend with
    | send r hq =>
      cases he with
      | select c hmay => exact hmay

theorem reachable_callOrder_run :
    CallOrder (pingLoop ipConfig (runOf [[arpReplyFrame 7], []]) State.init).state.2.trace := by
  obtain ⟨pt, hreach⟩ := pingLoop_reachable ipConfig (runOf [[arpReplyFrame 7], []])
  exact reachable_callOrder hreach

end Arping
