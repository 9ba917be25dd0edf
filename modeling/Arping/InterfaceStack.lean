import Mathlib.Data.Int.Notation
import Arping.Lib.Ledger

/-!
# Walking the interface stack

`ifl_get_device_byifindex` asks rtslib for one interface after another until it reaches the bottom
of the stack, and gives every message back before it asks for the next. It closes the cookie where
the walk ends and where an answer is an error, but not where there is no message. The walk is
modelled on a list of the answers of rtslib; where these are used up before it returns, the result
is `none`.
-/

namespace Arping

open Ledger

/-! ## The function -/

/-- What is read of an `ifl_msg_t`. -/
structure IflMsg where
  name : String
  underlyingIndex : ℤ

/-- What `rtslib_iflm_get_by_index` answers. -/
inductive RtslibAnswer
  | error
  | null
  | message (iflm : IflMsg)

/-- What rtslib hands out: the cookie, and messages, counted from 0. -/
inductive RtslibResource
  | cookie
  | message (k : ℕ)
  deriving DecidableEq

/-- What a walk has done. -/
structure IflWalk where
  /-- The messages obtained so far. -/
  messages : ℕ
  printed : List String
  ledger : List (Entry RtslibResource)

namespace IflWalk

/-- Behind `rtslib_open`. -/
def start : IflWalk := ⟨0, [], [.acquire .cookie]⟩

/-- `rtslib_iflm_get_by_index`, as long as it hands out nothing. -/
def ask (s : IflWalk) : IflWalk := { s with ledger := s.ledger ++ [.use .cookie] }

/-- `rtslib_close`. -/
def close (s : IflWalk) : IflWalk := { s with ledger := s.ledger ++ [.release .cookie] }

/-- The body of the loop behind its checks. -/
def pass (iflm : IflMsg) (s : IflWalk) : IflWalk where
  messages := s.messages + 1
  printed := s.printed ++
    if iflm.underlyingIndex = 0 then ["name " ++ iflm.name ++ "\n"] else []
  ledger := s.ask.ledger ++
    [.acquire (.message s.messages), .use (.message s.messages), .release (.message s.messages)]

end IflWalk

/-- The loop of `ifl_get_device_byifindex` and what follows it. -/
def iflLoop (idx : ℤ) (answers : List RtslibAnswer) (s : IflWalk) : Option (ℤ × IflWalk) :=
  if idx = 0 then some (0, s.close)
  else
    match answers with
    | [] => none
    | .error :: _ => some (-1, s.ask.close)
    -- returns without `rtslib_close`
    | .null :: _ => some (-1, s.ask)
    | .message iflm :: answers => iflLoop iflm.underlyingIndex answers (s.pass iflm)

/-- `ifl_get_device_byifindex`, behind a successful `rtslib_open` or a failing one. -/
def iflGetDeviceByifindex (opened : Bool) (ifindex : ℤ) (answers : List RtslibAnswer) :
    Option (ℤ × IflWalk) :=
  if opened then iflLoop ifindex answers .start else some (-1, ⟨0, [], []⟩)

/-! ## Where a walk ends -/

/-- The walk comes to an answer without a message. -/
def MeetsNull (ifindex : ℤ) (answers : List RtslibAnswer) : Prop :=
  ∃ (iflms : List IflMsg) (rest : List RtslibAnswer),
    answers = iflms.map .message ++ .null :: rest ∧
      ∀ idx ∈ ifindex :: iflms.map IflMsg.underlyingIndex, idx ≠ 0

theorem not_meetsNull_zero (answers : List RtslibAnswer) : ¬ MeetsNull 0 answers := by
  rintro ⟨iflms, rest, -, hne⟩
  exact hne 0 List.mem_cons_self rfl

theorem not_meetsNull_error (idx : ℤ) (answers : List RtslibAnswer) :
    ¬ MeetsNull idx (.error :: answers) := by
  rintro ⟨iflms, rest, heq, -⟩
  cases iflms <;> cases heq

theorem meetsNull_null {idx : ℤ} (hidx : idx ≠ 0) (answers : List RtslibAnswer) :
    MeetsNull idx (.null :: answers) :=
  ⟨[], answers, rfl, by simpa using hidx⟩

theorem meetsNull_message {idx : ℤ} (hidx : idx ≠ 0) (iflm : IflMsg)
    (answers : List RtslibAnswer) :
    MeetsNull idx (.message iflm :: answers) ↔ MeetsNull iflm.underlyingIndex answers := by
  constructor
  · rintro ⟨iflms, rest, heq, hne⟩
    cases iflms with
    | nil => cases heq
    | cons iflm' iflms =>
      obtain ⟨hfirst, hrest⟩ := List.cons.inj heq
      obtain rfl := RtslibAnswer.message.inj hfirst
      exact ⟨iflms, rest, hrest, fun i hi => hne i (List.mem_cons_of_mem idx hi)⟩
  · rintro ⟨iflms, rest, rfl, hne⟩
    exact ⟨iflm :: iflms, rest, rfl, List.forall_mem_cons.mpr ⟨hidx, hne⟩⟩

/-! ## What a walk holds -/

/-- At the head of the loop only the cookie is held. -/
structure Walking (s : IflWalk) : Prop where
  sound : Sound s.ledger
  held : ∀ r, Held s.ledger r ↔ r = .cookie
  fresh : ∀ k, .acquire (.message k) ∈ s.ledger → k < s.messages

theorem Walking.start : Walking .start where
  sound := sound_append_singleton.mpr ⟨sound_nil, by simp [Admits]⟩
  held := fun r => by simp [Held, IflWalk.start, eq_comm]
  fresh := fun k h => by simp [IflWalk.start] at h

section

variable {s s' : IflWalk}

theorem Walking.ask (h : Walking s) : Walking s.ask where
  sound := sound_append_singleton.mpr ⟨h.sound, (h.held _).mpr rfl⟩
  held := fun r => held_append_use.trans (h.held r)
  fresh := fun k hk => h.fresh k (by simpa [IflWalk.ask] using hk)

theorem Walking.pass (h : Walking s) (iflm : IflMsg) : Walking (s.pass iflm) := by
  have hask := h.ask
  have hfresh : .acquire (.message s.messages) ∉ s.ask.ledger := fun hk =>
    Nat.lt_irrefl _ (hask.fresh _ hk)
  obtain ⟨hsound, hheld⟩ := hask.sound.round_trip hfresh
  refine ⟨hsound, fun r => (hheld r).trans (hask.held r), fun k hk => ?_⟩
  simp only [IflWalk.pass, List.mem_append, List.mem_cons, Entry.acquire.injEq, reduceCtorEq,
    RtslibResource.message.injEq, List.not_mem_nil, or_false] at hk ⊢
  obtain hk | rfl := hk
  · exact Nat.lt_succ_of_lt (hask.fresh k hk)
  · exact Nat.lt_succ_self _

/-- Where the loop is left, the cookie is held if `left` says so. -/
structure Ended (left : Prop) (s : IflWalk) : Prop where
  sound : Sound s.ledger
  cookie : .acquire .cookie ∈ s.ledger
  held : ∀ r, Held s.ledger r ↔ r = .cookie ∧ left

theorem Walking.close (h : Walking s) : Ended False s.close where
  sound := sound_append_singleton.mpr ⟨h.sound, (h.held _).mpr rfl⟩
  cookie := List.mem_append_left _ ((h.held .cookie).mpr rfl).1
  held := fun r => by
    rw [IflWalk.close, held_append_release, h.held]
    exact iff_of_false (fun hr => hr.2 hr.1) (fun hr => hr.2)

theorem Walking.leave (h : Walking s) : Ended True s where
  sound := h.sound
  cookie := ((h.held .cookie).mpr rfl).1
  held := fun r => by rw [h.held, and_true]

theorem Ended.congr {left left' : Prop} (h : Ended left s) (hiff : left ↔ left') :
    Ended left' s :=
  ⟨h.sound, h.cookie, fun r => by rw [h.held, hiff]⟩

/-- The loop. -/
theorem iflLoop_ended {idx : ℤ} {answers : List RtslibAnswer} {ret : ℤ} (h : Walking s)
    (hrun : iflLoop idx answers s = some (ret, s')) : Ended (MeetsNull idx answers) s' := by
  induction answers generalizing idx s with
  | nil =>
    rw [iflLoop.eq_def] at hrun
    split at hrun
    · next hidx =>
      cases hrun
      exact h.close.congr (iff_of_false id (hidx ▸ not_meetsNull_zero _))
    · cases hrun
  | cons answer answers ih =>
    rw [iflLoop.eq_def] at hrun
    split at hrun
    · next hidx =>
      cases hrun
      exact h.close.congr (iff_of_false id (hidx ▸ not_meetsNull_zero _))
    · next hidx =>
      cases answer with
      | error =>
        cases hrun
        exact h.ask.close.congr (iff_of_false id (not_meetsNull_error idx answers))
      | null =>
        cases hrun
        exact h.ask.leave.congr (iff_of_true trivial (meetsNull_null hidx answers))
      | message iflm =>
        exact (ih (h.pass iflm) hrun).congr (meetsNull_message hidx iflm answers).symm

end

/-! ## Main result -/

/-- Every message that was obtained is freed exactly once. -/
def FreesMessages (s : IflWalk) : Prop :=
  ∀ k, .acquire (.message k) ∈ s.ledger → s.ledger.count (.release (.message k)) = 1

/-- The cookie is closed and every message that was obtained is freed, each exactly once. -/
structure ReleasesAll (s : IflWalk) : Prop where
  cookie : s.ledger.count (.release .cookie) = 1
  messages : FreesMessages s

/-- At most the cookie is left. -/
theorem Ended.freesMessages {left : Prop} {s : IflWalk} (h : Ended left s) : FreesMessages s := by
  intro k hk
  refine h.sound.count_release hk fun hheld => ?_
  cases ((h.held _).mp hheld).1

/-- **Releasing everything.** A walk that returns has released everything unless it came to an
answer without a message. The messages it has freed in any case. -/
theorem iflGetDeviceByifindex_releasesAll_iff (ifindex : ℤ) (answers : List RtslibAnswer)
    (ret : ℤ) (s : IflWalk) (h : iflGetDeviceByifindex true ifindex answers = some (ret, s)) :
    (ReleasesAll s ↔ ¬ MeetsNull ifindex answers) ∧ FreesMessages s := by
  have hend : Ended (MeetsNull ifindex answers) s := iflLoop_ended .start h
  refine ⟨?_, hend.freesMessages⟩
  constructor
  · intro hall hnull
    have hheld := (hend.held .cookie).mpr ⟨rfl, hnull⟩
    have hnone := List.count_eq_zero.mpr hheld.2
    rw [hall.cookie] at hnone
    cases hnone
  · intro hnull
    have hheld : ¬ Held s.ledger .cookie := fun hr => hnull ((hend.held .cookie).mp hr).2
    exact ⟨hend.sound.count_release hend.cookie hheld, hend.freesMessages⟩

theorem iflGetDeviceByifindex_releasesAll_iff_bottom :
    ∃ s, iflGetDeviceByifindex true 5 [.message ⟨"ge-0/0/0", 0⟩] = some (0, s) ∧
      ReleasesAll s := by
  refine ⟨_, rfl, ?_⟩
  refine (iflGetDeviceByifindex_releasesAll_iff 5 [.message ⟨"ge-0/0/0", 0⟩] 0 _ rfl).1.mpr ?_
  rw [meetsNull_message (by decide)]
  exact not_meetsNull_zero []

/-- Without a message the cookie is left open. -/
theorem not_releasesAll_null :
    ∃ s, iflGetDeviceByifindex true 5 [.null] = some (-1, s) ∧ ¬ ReleasesAll s := by
  refine ⟨_, rfl, fun h => ?_⟩
  have hcookie := h.cookie
  revert hcookie
  decide

end Arping
