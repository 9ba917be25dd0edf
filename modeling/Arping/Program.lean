import Arping.Session
import Arping.Target

/-!
# The exit status

The whole program, from its argument vector to its exit status. The status is 0 or 1, and it is 0
where the usage text was asked for, and where a run reaches its last line with an answer, or with
`-d` without a duplicate (`arpingMain_eq_zero_iff`). Every failure in between ends with 1, except
that `get_mac` may not return. The arguments of `-w` and `-W` are taken to be decimal numbers, that
of `-W` one that is in range.
-/

namespace Arping

open Checks ScriptLoop

/-- The status of an `exit` before the ping loop. -/
def Exit.status : Exit → Option ℕ
  | help => some 0
  | usage ret => some ret
  | error _ => some 1
  | lost => none

/-- An exit with the status 1, or none because `get_mac` has not returned. -/
def Exit.Fails (env : StartupEnv) (e : Exit) : Prop :=
  e.status = some 1 ∨ e.status = none ∧ ∃ ifname, env.getMac ifname = none

/-- The exit status of a run of the ping loop, if it ends. -/
def loopStatus (cfg : Config) : Ctl LoopExit (UInt32 × State) → Option ℕ
  | .stop .ended (_, g) => some (exitStatus cfg g)
  | .stop (.exited n) _ => some n
  | _ => none

/-- The exit status of `arping_main`, if it ends with one. -/
def arpingMain (env : StartupEnv) (argv : List String) (run : RunEnv) : Option ℕ :=
  match startup env argv with
  | .error e => e.status
  | .ok l => loopStatus l.cfg (pingLoop l.cfg run State.init)

/-! ## Up to the ping loop -/

instance : DecidablePred Opt.Accepted := fun o => by
  cases o <;> unfold Opt.Accepted <;> infer_instance

/-- The first option that ends the program. -/
def refused (os : List Opt) : Option Opt := os.find? fun o => !decide o.Accepted

/-- With `--help`, or `-h` in front of any option that is an error. -/
def AsksForUsage (env : StartupEnv) (argv : List String) : Prop :=
  "--help" ∈ argv ∨ refused (options env argv) = some .h

theorem refused_eq_none_iff {os : List Opt} : refused os = none ↔ ∀ o ∈ os, o.Accepted := by
  unfold refused
  rw [List.find?_eq_none]
  simp

/-- A refused option ends the program with 1, except `-h`. -/
theorem status_of_step_error {s : Opts} {o : Opt} {e : Exit} (h : s.step o = .error e) :
    e.status = some 0 ∧ o = .h ∨ e.status = some 1 ∧ o ≠ .h := by
  have hreject : ∀ {c : Prop} [Decidable c] {message : String} {s' : Opts},
      (reject c (.error message) >>= fun _ => pure s') = .error e → e.status = some 1 := by
    intro c _ message s'
    have hcheck : Leaves (fun e : Exit => e.status = some 1) (reject c (.error message)) :=
      .reject rfl
    exact hcheck.bind (fun _ => .ok s') e
  cases o
  case h =>
    cases h
    exact Or.inl ⟨rfl, rfl⟩
  case other =>
    cases h
    exact Or.inr ⟨rfl, by simp⟩
  case i optarg | Q optarg | V optarg => exact Or.inr ⟨hreject h, by simp⟩
  all_goals cases h

theorem parseOptions_error {host : Endian} {os : List Opt} {e : Exit}
    (h : parseOptions host os = .error e) :
    e.status = some 0 ∧ refused os = some .h ∨ e.status = some 1 ∧ refused os ≠ some .h := by
  obtain ⟨l₁, o, l₂, t, rfl, hl₁, ho⟩ := exists_of_foldlM_eq_error h
  have haccepted := parseOptions_succeeds_iff.mp ⟨t, hl₁⟩
  have hrefused : refused (l₁ ++ o :: l₂) = some o := by
    unfold refused
    rw [List.find?_eq_some_iff_append]
    refine ⟨?_, l₁, l₂, rfl, fun o' ho' => by simpa using haccepted o' ho'⟩
    rw [Bool.not_eq_true', decide_eq_false_iff_not]
    intro hok
    obtain ⟨t', ht'⟩ := (Opts.step_succeeds_iff t o).mpr hok
    rw [ho] at ht'
    cases ht'
  rw [hrefused, ne_eq, Option.some.injEq]
  exact status_of_step_error ho

/-! ## Behind the options -/

section

variable {env : StartupEnv} {s : Opts} {operand : Option String} {parm : String}

theorem fails_doLibnetInit (call : InitCall) (ifname : Option String) :
    Leaves (Exit.Fails env) (doLibnetInit env call ifname) := by
  unfold doLibnetInit
  cases env.libnetInit call ifname with
  | ok _ => exact .ok ifname
  | error ebuf =>
    cases ifname with
    | some _ => exact .error (Or.inl rfl)
    | none =>
      dsimp only
      split
      · exact .ok _
      · exact .error (Or.inl rfl)

theorem fails_failure {α : Type} (what : String) (x : Except String α) :
    Leaves (Exit.Fails env) (failure what x) := by
  cases x with
  | ok a => exact .ok a
  | error text => exact .error (Or.inl rfl)

theorem fails_readOption {α : Type} {opt : Option String} {old : α}
    {read : String → Except Exit α} (h : ∀ optarg, Leaves (Exit.Fails env) (read optarg)) :
    Leaves (Exit.Fails env) (readOption opt old read) := by
  cases opt with
  | none => exact .ok old
  | some optarg => exact h optarg

theorem fails_conflictChecks : Leaves (Exit.Fails env) (conflictChecks s) :=
  .bind (.reject (Or.inl rfl)) fun _ => .reject (Or.inl rfl)

theorem fails_readArguments : Leaves (Exit.Fails env) (readArguments env s) := by
  unfold readArguments
  refine .bind (fails_readOption fun optarg => .demand (Or.inl rfl)) fun _ => ?_
  refine .bind (fails_readOption fun optarg => .demand (Or.inl rfl)) fun _ => ?_
  refine .bind (fails_readOption fun optarg => ?_) fun _ => ?_
  · exact .bind (fails_doLibnetInit _ _) fun _ => .demand (Or.inl rfl)
  refine .bind (fails_readOption fun optarg => ?_) fun _ => ?_
  · exact .bind (fails_doLibnetInit _ _) fun _ => .demand (Or.inl rfl)
  exact .bind (.reject (Or.inl rfl)) fun _ => .ok _

theorem fails_chooseTarget : Leaves (Exit.Fails env) (chooseTarget env s operand) := by
  unfold chooseTarget
  refine .bind ?_ fun s₁ => .bind ?_ fun chosen => .bind (.demand (Or.inl rfl)) fun parm =>
    .bind (.reject (Or.inl rfl)) fun _ => .bind (fails_doLibnetInit _ _) fun _ =>
      .bind ?_ fun matched => .bind ?_ fun _ => .ok _
  · unfold defaultToOwn
    split
    · exact .bind (fails_doLibnetInit _ _) fun _ => .ok _
    · exact .ok s
  · unfold chooseMode
    split
    · cases operand with
      | some parm => exact .ok _
      | none =>
        dsimp only
        split
        · exact .bind (fails_doLibnetInit _ _) fun _ => .bind (.reject (Or.inl rfl)) fun _ => .ok _
        · exact .ok _
    · exact .ok _
  · unfold matchTarget
    split
    · exact .bind (.reject (Or.inl rfl)) fun _ => .bind (.demand (Or.inl rfl)) fun _ => .ok _
    · exact .ok _
  · unfold parseTarget
    split
    · exact .bind (.demand (Or.inl rfl)) fun _ => .bind (.reject (Or.inl rfl)) fun _ =>
        .bind (.demand (Or.inl rfl)) fun _ => .ok _
    · exact .ok _

theorem fails_mustGetGroup (ident : String) :
    Leaves (Exit.Fails env) (mustGetGroup env.getgrnam ident) := by
  unfold mustGetGroup
  split
  · exact .ok _
  · split
    · exact .ok _
    · split
      · exact .error (Or.inl rfl)
      · exact .error (Or.inl rfl)

theorem fails_launch {target : String} : Leaves (Exit.Fails env) (launch env s target) := by
  unfold launch
  refine .bind ?_ fun ifname => .bind (fails_doLibnetInit _ _) fun _ => .bind ?_ fun filter =>
    .bind ?_ fun srcip => .bind ?_ fun srcmac => .ok _
  · unfold chooseInterface
    split
    · exact .ok _
    · dsimp only
      split
      · exact .ok _
      · exact fails_failure _ _
  · unfold openCapture dropPrivileges
    refine .bind (fails_failure _ _) fun _ => .bind (fails_readOption fun ident => ?_) fun _ =>
      .bind (fails_failure _ _) fun _ => .bind (fails_failure _ _) fun _ => .bind ?_ fun _ => .ok _
    · exact .bind (fails_mustGetGroup ident) fun _ => .ok ()
    · split
      · exact fails_failure _ _
      · exact .ok ()
  · unfold ownAddress
    split
    · exact .ok _
    · exact .bind (.reject (Or.inl rfl)) fun _ => .ok _
  · unfold ownMac
    split
    · exact .ok _
    · cases hmac : env.getMac ifname with
      | some mac => exact .ok mac
      | none => exact .error (Or.inr ⟨rfl, ifname, hmac⟩)

end

/-- Before the ping loop the status is 0 for the usage text that was asked for, and 1 otherwise, if
there is one. -/
theorem startup_error {env : StartupEnv} {argv : List String} {e : Exit}
    (h : startup env argv = .error e) :
    e.status = some 0 ∧ AsksForUsage env argv ∨ e.Fails env ∧ ¬ AsksForUsage env argv := by
  unfold startup at h
  by_cases hhelp : "--help" ∈ argv
  · rw [reject_of hhelp, error_bind] at h
    cases h
    exact Or.inl ⟨rfl, Or.inl hhelp⟩
  · rw [reject_of_not hhelp, ok_bind] at h
    have hasks : AsksForUsage env argv ↔ refused (options env argv) = some .h :=
      or_iff_right hhelp
    rw [hasks]
    cases hparse : parseOptions env.host (options env argv) with
    | error e' =>
      rw [hparse, error_bind] at h
      cases h
      exact (parseOptions_error hparse).imp_right (And.imp_left Or.inl)
    | ok s =>
      rw [hparse, ok_bind] at h
      have hone : Leaves (Exit.Fails env)
          (reject ((operands env argv).length > 1) (.error tooManyArgsMessage)) :=
        .reject (Or.inl rfl)
      refine Or.inr ⟨?_, ?_⟩
      · exact hone.bind (fun _ => .bind fails_conflictChecks fun _ =>
          .bind fails_readArguments fun _ => .bind fails_chooseTarget fun _ => fails_launch) e h
      · rw [refused_eq_none_iff.mpr (parseOptions_succeeds_iff.mp ⟨s, hparse⟩)]
        exact nofun

/-! ## The ping loop -/

/-- An `exit` in `ping_recv` has the status 1. -/
theorem pingLoop_exited {cfg : Config} {run : RunEnv} {g : State} {n : ℕ} {s : UInt32 × State}
    (h : pingLoop cfg run g = .stop (.exited n) s) : n = 1 := by
  unfold pingLoop at h
  dsimp only at h
  split at h
  · obtain ⟨r, t, -, hround⟩ := exists_visits_of_stop h
    unfold pingRound at hround
    dsimp only at hround
    split at hround
    · cases hround
    · split at hround
      · cases hround
      · rename_i n' g' hrecv
        cases hround
        rcases pingRecv_last_pass hrecv with ⟨-, hexit⟩ | ⟨w, g₁, -, hpass⟩
        · cases hexit
          rfl
        · cases recvPass_stop hpass
      · unfold nextRound at hround
        split at hround <;> cases hround
  · cases h

/-- In MAC mode replies are not compared. -/
theorem reachable_dupfound_pingmac {cfg : Config} (hmode : cfg.mode ≠ .pingip)
    {s : Point × State} (h : Reachable cfg s) : s.2.dupfound = false := by
  refine h.receive (I := fun g => g.dupfound = false) rfl
    (fun g g' hsame hg => hsame.dupfound.trans hg) fun p clk g hg => ?_
  rw [recvHandler_pingmac hmode]
  have hstart := (afterArrival_arrives p clk g).dupfound.trans hg
  unfold pingmacRecv
  dsimp only [getclock]
  split
  · exact hstart
  · rw [countReply_eq]
    exact hstart

/-- What the exit status 0 stands for: an answer, or with `-d`, in IP mode, no two answers from
different source addresses. -/
def Answered (cfg : Config) (g : State) : Prop :=
  if cfg.finddup then
    cfg.mode = .pingip → ∀ p ∈ g.counted, ∀ q ∈ g.counted, p.srcmac = q.srcmac
  else g.counted ≠ []

theorem exitStatus_le_one (cfg : Config) (g : State) : exitStatus cfg g ≤ 1 := by
  unfold exitStatus
  split_ifs <;> decide

theorem exitStatus_eq_zero_iff {cfg : Config} {s : Point × State} (h : Reachable cfg s)
    (hlen : s.2.counted.length < 2 ^ 32) : exitStatus cfg s.2 = 0 ↔ Answered cfg s.2 := by
  obtain ⟨-, js, hjs⟩ := h.explained
  unfold exitStatus Answered
  by_cases hfind : cfg.finddup = true
  · rw [if_pos hfind, if_pos hfind]
    by_cases hmode : cfg.mode = .pingip
    · have hdup := (hjs.watches hmode).dupfound_iff hlen
      by_cases hd : s.2.dupfound = true
      · rw [if_pos hd]
        refine iff_of_false (by decide) fun hsame => ?_
        obtain ⟨p, hp, q, hq, hne⟩ := hdup.mp hd
        exact hne (hsame hmode p hp q hq)
      · rw [if_neg hd]
        refine iff_of_true rfl fun _ p hp q hq => ?_
        by_contra hne
        exact hd (hdup.mpr ⟨p, hp, q, hq, hne⟩)
    · rw [reachable_dupfound_pingmac hmode h]
      exact iff_of_true rfl fun hip => absurd hip hmode
  · rw [if_neg hfind, if_neg hfind]
    have hcount : s.2.counted.length = (Session.run cfg js).replies.length := by
      rw [hjs.counted, List.length_map]
    have hnum : s.2.numrecvd = 0 ↔ s.2.counted = [] := by
      have hsize : (Session.run cfg js).replies.length < 2 ^ 32 := hcount ▸ hlen
      rw [hjs.numrecvd, ← UInt32.toNat_inj, UInt32.toNat_ofNat_of_lt' hsize, ← hcount,
        UInt32.toNat_zero, List.length_eq_zero_iff]
    rw [ne_eq, ← hnum]
    by_cases h0 : s.2.numrecvd = 0
    · rw [if_pos h0]
      exact iff_of_false (by decide) (not_not.mpr h0)
    · rw [if_neg h0]
      exact iff_of_true rfl h0

theorem loopStatus_le_one {cfg : Config} {run : RunEnv} {n : ℕ}
    (h : loopStatus cfg (pingLoop cfg run State.init) = some n) : n ≤ 1 := by
  unfold loopStatus at h
  split at h
  · cases h
    exact exitStatus_le_one cfg _
  · rename_i n' s hloop
    cases h
    exact (pingLoop_exited hloop).le
  · cases h

theorem loopStatus_eq_zero_iff {cfg : Config} {run : RunEnv}
    (hlen : (pingLoop cfg run State.init).state.2.counted.length < 2 ^ 32) :
    loopStatus cfg (pingLoop cfg run State.init) = some 0 ↔
      ∃ c g, pingLoop cfg run State.init = .stop .ended (c, g) ∧ Answered cfg g := by
  obtain ⟨pt, hreach⟩ := pingLoop_reachable cfg run
  have hiff := exitStatus_eq_zero_iff hreach hlen
  unfold loopStatus
  split
  · rename_i c g hloop
    rw [hloop] at hiff
    rw [Option.some.injEq]
    constructor
    · intro hstatus
      exact ⟨c, g, hloop, hiff.mp hstatus⟩
    · rintro ⟨c', g', hloop', hanswered⟩
      cases hloop.symm.trans hloop'
      exact hiff.mpr hanswered
  · rename_i n s hloop
    cases pingLoop_exited hloop
    refine iff_of_false nofun ?_
    rintro ⟨c, g, hloop', -⟩
    cases hloop.symm.trans hloop'
  · rename_i hother _
    refine iff_of_false nofun ?_
    rintro ⟨c, g, hloop', -⟩
    exact hother c g hloop'

/-! ## The program -/

theorem not_asksForUsage_of_ok {env : StartupEnv} {argv : List String} {l : Launch}
    (h : startup env argv = .ok l) : ¬ AsksForUsage env argv := by
  obtain ⟨s₀, -, -, hparse, -⟩ := startup_phases h
  rintro (hhelp | hrefused)
  · unfold startup at h
    rw [reject_of hhelp, error_bind] at h
    cases h
  · rw [refused_eq_none_iff.mpr (parseOptions_succeeds_iff.mp ⟨s₀, hparse⟩)] at hrefused
    cases hrefused

/-- **The exit status.** The status of the program, if it ends with one, is 0 or 1. It is 0 where
the usage text was asked for, and where the arguments lead to the ping loop and the loop ends with
an answer, or with `-d` without a duplicate, as long as fewer than `2 ^ 32` replies are counted. In
MAC mode `-d` finds no duplicates. -/
theorem arpingMain_eq_zero_iff (env : StartupEnv) (argv : List String) (run : RunEnv)
    (hlen : ∀ l, startup env argv = .ok l →
      (pingLoop l.cfg run State.init).state.2.counted.length < 2 ^ 32) :
    (arpingMain env argv run = some 0 ↔ AsksForUsage env argv ∨
      ∃ l c g, startup env argv = .ok l ∧
        pingLoop l.cfg run State.init = .stop .ended (c, g) ∧ Answered l.cfg g) ∧
      ∀ n, arpingMain env argv run = some n → n ≤ 1 := by
  unfold arpingMain
  cases hstart : startup env argv with
  | error e =>
    have hnot : ¬ ∃ (l : Launch) (c : UInt32) (g : State), Except.error e = Except.ok l ∧
        pingLoop l.cfg run State.init = .stop .ended (c, g) ∧ Answered l.cfg g := by
      rintro ⟨l, c, g, h, -⟩
      cases h
    dsimp only
    rw [or_iff_left hnot]
    rcases startup_error hstart with ⟨hstatus, hasks⟩ | ⟨hstatus | ⟨hstatus, -⟩, hasks⟩
    · rw [hstatus]
      exact ⟨iff_of_true rfl hasks, fun n hn => by cases hn; exact Nat.zero_le 1⟩
    · rw [hstatus]
      exact ⟨iff_of_false nofun hasks, fun n hn => by cases hn; exact le_refl 1⟩
    · rw [hstatus]
      exact ⟨iff_of_false nofun hasks, nofun⟩
  | ok l =>
    dsimp only
    rw [or_iff_right (not_asksForUsage_of_ok hstart), loopStatus_eq_zero_iff (hlen l hstart)]
    refine ⟨⟨?_, ?_⟩, fun n => loopStatus_le_one⟩
    · rintro ⟨c, g, hrest⟩
      exact ⟨l, c, g, rfl, hrest⟩
    · rintro ⟨l', c, g, hl, hrest⟩
      cases hl
      exact ⟨c, g, hrest⟩

/-- `-c 1 10.0.0.1`, answered. -/
theorem arpingMain_eq_zero_iff_answered :
    let argv := ["-c", "1", "10.0.0.1"]
    let run := runOf [[arpReplyFrame 7]]
    arpingMain workingEnv argv run = some 0 ↔ AsksForUsage workingEnv argv ∨
      ∃ l c g, startup workingEnv argv = .ok l ∧
        pingLoop l.cfg run State.init = .stop .ended (c, g) ∧ Answered l.cfg g := by
  intro argv run
  refine (arpingMain_eq_zero_iff workingEnv argv run fun l hl => ?_).1
  cases hl
  decide +kernel

end Arping
