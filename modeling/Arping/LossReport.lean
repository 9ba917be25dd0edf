import Arping.Runs
import Arping.Statistics

/-!
# The loss statistic

The percentage printed at the end is a quotient by `numsent`. The loop leaves `numsent` at 0 exactly
where its first test fails: with `-c 0`, and where a signal or a failing clock call sets
`time_to_die` before (`loopTest_afterStart_iff`). Every other run that gets to the statistics has
sent between 1 and `maxcount` requests. The sign of the percentage, by which the extra replies are
counted, is that of the difference of the counters cast to `float` (`succ_neg_iff`): counters that
are equal as `float`s leave no reply over. Above `INT_MAX` the count of extra replies is printed as
a negative number.
-/

namespace Arping

/-! ## The number of requests -/

/-- The first test of the loop is passed. -/
theorem loopTest_afterStart_iff (cfg : Config) (env : RunEnv) :
    loopTest cfg 0 (afterStart cfg env State.init) = true ↔
      0 < cfg.maxcount ∧ env.signal = false ∧ (0 < cfg.deadline → env.startClock.Succeeds) := by
  have hstart : (startDeadline cfg env.startClock State.init).2.timeToDie = true ↔
      0 < cfg.deadline ∧ ¬ env.startClock.Succeeds := by
    unfold startDeadline
    by_cases hdeadline : cfg.deadline > 0
    · rw [if_pos hdeadline]
      cases env.startClock with
      | ok now => exact iff_of_false Bool.false_ne_true fun h => h.2 trivial
      | fail junk => exact iff_of_true rfl ⟨hdeadline, id⟩
    · rw [if_neg hdeadline]
      exact iff_of_false Bool.false_ne_true fun h => hdeadline h.1
  unfold loopTest afterStart
  rw [Bool.and_eq_true, decide_eq_true_eq]
  refine and_congr_right fun _ => ?_
  cases env.signal with
  | true => simp [deliver]
  | false =>
    rw [Bool.not_eq_true', ← Bool.not_eq_true, deliver, if_neg Bool.false_ne_true, hstart]
    tauto

/-- In `ping_recv` nothing is sent. -/
theorem numsent_receiveSteps (cfg : Config) (P : UInt32 → Prop) :
    ReceiveSteps (recvHandler cfg) fun _ g => P g.numsent where
  clock := fun _ clk g h => by rwa [getclock_numsent]
  sigint := fun _ _ h => h
  select := fun _ _ _ _ h => h
  dispatch := fun _ _ _ h => h
  prints := fun _ _ _ h => h
  handler := fun _ p clk g h => by rwa [recvHandler_numsent]

theorem numsent_runSteps (cfg : Config) :
    RunSteps cfg (fun c _ g => g.numsent = c)
      fun c _ g => g.numsent = c + 1 ∧ c < cfg.maxcount where
  clock := fun _ clk g h => (getclock_numsent clk g).trans h
  sigint := fun _ _ h => h
  send := fun c _ env g htest h => by
    unfold loopTest at htest
    rw [Bool.and_eq_true, decide_eq_true_eq] at htest
    exact ⟨by rw [sendRequest_numsent, h], htest.1⟩
  receive := fun c => numsent_receiveSteps cfg fun n => n = c + 1 ∧ c < cfg.maxcount
  next := fun _ _ _ h => h.1

/-- A run that reaches the statistics has sent a request if its first loop test is passed. -/
theorem numsent_ne_zero_iff {cfg : Config} {env : RunEnv}
    (hended : (pingLoop cfg env State.init).reason = some .ended) :
    (pingLoop cfg env State.init).state.2.numsent ≠ 0 ↔
      loopTest cfg 0 (afterStart cfg env State.init) = true := by
  have hrun := pingLoop_steps (numsent_runSteps cfg) env (g := State.init) rfl
  rw [Ctl.reason_eq_some_iff.mp hended] at hrun
  rcases hrun with ⟨htest, hzero⟩ | ⟨htest, c, hsent, hlt⟩
  · rw [htest]
    exact iff_of_false (not_not.mpr hzero) Bool.false_ne_true
  · refine iff_of_true ?_ htest
    rw [hsent]
    exact succ_ne_zero_of_lt hlt

/-! ## The figures -/

/-- The block prints a percentage between 0 and 100 and the number of replies above the number of
requests, and does not divide by zero. -/
def WellDefinedLoss (cfg : Config) (target : String) (g : State) : Prop :=
  ∃ report, statistics cfg target g = some (some report) ∧
    0 ≤ report.loss.percent ∧ report.loss.percent ≤ 100 ∧
    report.loss.extra = max 0 ((g.numrecvd.toNat : ℤ) - g.numsent.toNat)

theorem asInt_eq (x : UInt32) :
    asInt x = if x.toNat < 2 ^ 31 then (x.toNat : ℤ) else (x.toNat : ℤ) - 2 ^ 32 := by
  have hx := x.toNat_lt
  unfold asInt
  rw [BitVec.toInt_eq_toNat_cond, UInt32.toNat_toBitVec]
  split_ifs <;> omega

theorem float_mono {x y : ℚ} (h : x ≤ y) : float x ≤ float y :=
  BinaryFloat.nearest_mono (by norm_num) h

theorem float_neg_iff (x : ℚ) : float x < 0 ↔ x < 0 := BinaryFloat.nearest_neg_iff (by norm_num)

theorem double_neg_iff (x : ℚ) : double x < 0 ↔ x < 0 := BinaryFloat.nearest_neg_iff (by norm_num)

theorem float_nonneg (n : UInt32) : 0 ≤ float n.toNat :=
  not_lt.mp ((float_neg_iff _).not.mpr (not_lt.mpr n.toNat.cast_nonneg))

/-- 100 times a `float` has few enough bits for a `double`. -/
theorem double_hundred_mul (x : ℚ) : double (100 * float x) = 100 * float x := by
  have hformat : BinaryFloat.InFormat 53 ((100 : ℤ) * float x) :=
    (BinaryFloat.inFormat_nearest 24 x).intCast_mul (by norm_num)
  exact BinaryFloat.nearest_eq_self (by norm_num) hformat

theorem inFormat_hundred {p : ℕ} (hp : 100 ≤ 2 ^ p) : BinaryFloat.InFormat p 100 := by
  exact_mod_cast BinaryFloat.inFormat_natCast hp

theorem toNat_cast_pos {n : UInt32} (h : n ≠ 0) : (0 : ℚ) < n.toNat := by
  have hne : n.toNat ≠ 0 := fun hzero => h (UInt32.toNat_inj.mp hzero)
  exact_mod_cast Nat.pos_of_ne_zero hne

theorem float_pos {n : UInt32} (h : n ≠ 0) : 0 < float n.toNat := by
  have hone : BinaryFloat.InFormat 24 (1 : ℕ) := BinaryFloat.inFormat_natCast (by norm_num)
  have hle : ((1 : ℕ) : ℚ) ≤ float n.toNat :=
    BinaryFloat.le_nearest (by norm_num) hone (by exact_mod_cast toNat_cast_pos h)
  exact lt_of_lt_of_le (by norm_num) hle

theorem float_le (n : UInt32) : float n.toNat ≤ 2 ^ 32 := by
  have hmax : BinaryFloat.InFormat 24 (2 ^ 32) := ⟨1, 32, by norm_num, by norm_num⟩
  exact BinaryFloat.nearest_le (by norm_num) hmax (by exact_mod_cast n.toNat_lt.le)

/-- The quotient of two counters is above 100 where the counters differ as `float`s: they are
integers below `2 ^ 32`, so it is above 100 by more than the last place of a `double`. -/
theorem hundred_lt_quotient_iff (numrecvd : UInt32) {numsent : UInt32} (h : numsent ≠ 0) :
    100 < double (100 * float numrecvd.toNat / float numsent.toNat) ↔
      float numsent.toNat < float numrecvd.toNat := by
  have hpos := float_pos h
  constructor
  · intro hlt
    by_contra hge
    refine hlt.not_ge (BinaryFloat.nearest_le (by norm_num) (inFormat_hundred (by norm_num)) ?_)
    rw [div_le_iff₀ hpos]
    linarith
  · intro hlt
    have hgap : float numsent.toNat + 1 ≤ float numrecvd.toNat := by
      obtain ⟨a, ha⟩ := BinaryFloat.exists_intCast_nearest 24 numrecvd.toNat
      obtain ⟨b, hb⟩ := BinaryFloat.exists_intCast_nearest 24 numsent.toNat
      rw [Int.cast_natCast] at ha hb
      unfold float at hlt ⊢
      rw [ha, hb] at hlt ⊢
      exact_mod_cast hlt
    have hnext : BinaryFloat.InFormat 53 (100 + 1 / 2 ^ 26) :=
      ⟨100 * 2 ^ 26 + 1, -26, by norm_num, by norm_num⟩
    have hquot : 100 + 1 / 2 ^ 26 ≤ 100 * float numrecvd.toNat / float numsent.toNat := by
      rw [le_div_iff₀ hpos]
      linarith [float_le numsent]
    exact lt_of_lt_of_le (by norm_num) (BinaryFloat.le_nearest (by norm_num) hnext hquot)

section Figures

variable {numrecvd numsent : UInt32} {x : ℚ} (h : succ numrecvd numsent = some x)

include h

theorem ne_zero_of_succ : numsent ≠ 0 := by
  intro hzero
  rw [hzero] at h
  cases h

theorem succ_value :
    x = float (double (100 - double (100 * float numrecvd.toNat / float numsent.toNat))) := by
  unfold succ at h
  rw [if_neg (ne_zero_of_succ h), double_hundred_mul] at h
  exact (Option.some.inj h).symm

/-- The sign of the percentage is that of the difference of the counters as `float`s. -/
theorem succ_neg_iff : x < 0 ↔ float numsent.toNat < float numrecvd.toNat := by
  rw [succ_value h, ← hundred_lt_quotient_iff numrecvd (ne_zero_of_succ h), float_neg_iff,
    double_neg_iff, sub_neg]

theorem succ_le : x ≤ 100 := by
  have hquot : 0 ≤ 100 * float numrecvd.toNat / float numsent.toNat :=
    div_nonneg (mul_nonneg (by norm_num) (float_nonneg numrecvd)) (float_nonneg numsent)
  rw [succ_value h]
  refine BinaryFloat.nearest_le (by norm_num) (inFormat_hundred (by norm_num)) ?_
  refine BinaryFloat.nearest_le (by norm_num) (inFormat_hundred (by norm_num)) ?_
  linarith [not_lt.mp ((double_neg_iff _).not.mpr (not_lt.mpr hquot))]

/-- The unsigned difference, printed with `%d`. -/
theorem extra_iff :
    asInt (if x < 0 then numrecvd - numsent else 0) =
        max 0 ((numrecvd.toNat : ℤ) - numsent.toNat) ↔
      numrecvd.toNat ≤ numsent.toNat ∨ (float numsent.toNat < float numrecvd.toNat ∧
        numrecvd.toNat < numsent.toNat + 2 ^ 31) := by
  have hrecvd := numrecvd.toNat_lt
  rw [if_congr (succ_neg_iff h) rfl rfl]
  split
  · rename_i hlt
    have hlt' : numsent.toNat < numrecvd.toNat := by
      by_contra hge
      exact hlt.not_ge (float_mono (by exact_mod_cast not_lt.mp hge))
    have hsub : (numrecvd - numsent).toNat = numrecvd.toNat - numsent.toNat :=
      UInt32.toNat_sub_of_le _ _ (UInt32.le_iff_toNat_le.mpr hlt'.le)
    rw [asInt_eq, hsub, and_iff_right hlt]
    split_ifs <;> omega
  · rename_i hge
    rw [show asInt 0 = 0 from rfl]
    simp only [hge, false_and, or_false]
    omega

end Figures

/-- With a request sent there is a percentage, and only the extra count can go wrong. -/
theorem lossReport_of_ne_zero (numrecvd : UInt32) {numsent : UInt32} (h : numsent ≠ 0) :
    ∃ loss, lossReport numrecvd numsent = some loss ∧ 0 ≤ loss.percent ∧ loss.percent ≤ 100 ∧
      (loss.extra = max 0 ((numrecvd.toNat : ℤ) - numsent.toNat) ↔
        numrecvd.toNat ≤ numsent.toNat ∨ (float numsent.toNat < float numrecvd.toNat ∧
          numrecvd.toNat < numsent.toNat + 2 ^ 31)) := by
  obtain ⟨x, hx⟩ : ∃ x, succ numrecvd numsent = some x := ⟨_, if_neg h⟩
  unfold lossReport
  rw [hx]
  refine ⟨_, rfl, ?_, ?_, extra_iff hx⟩
  · dsimp only
    split
    · exact le_refl 0
    · rename_i hge
      exact not_lt.mp hge
  · dsimp only
    split
    · norm_num
    · exact succ_le hx

/-- One reply more than `2 ^ 24` requests makes the same `float`. -/
example : lossReport (2 ^ 24 + 1) (2 ^ 24) = some ⟨0, 0⟩ := by decide +kernel

theorem lossReport_zero (numrecvd : UInt32) : lossReport numrecvd 0 = none := rfl

/-- In both displays the block prints the loss. -/
theorem statistics_eq {cfg : Config} (hdisplay : cfg.display = .normal ∨ cfg.display = .dot)
    (target : String) (g : State) :
    ∃ report : LossReport → Report, (∀ loss, (report loss).loss = loss) ∧
      statistics cfg target g =
        (lossReport g.numrecvd g.numsent).map fun loss => some (report loss) := by
  unfold statistics
  rcases hdisplay with hd | hd
  · rw [hd]
    exact ⟨_, fun _ => rfl, rfl⟩
  · rw [hd]
    exact ⟨_, fun _ => rfl, rfl⟩

theorem wellDefinedLoss_iff {cfg : Config} (hdisplay : cfg.display = .normal ∨ cfg.display = .dot)
    (target : String) (g : State) :
    WellDefinedLoss cfg target g ↔
      g.numsent ≠ 0 ∧ (g.numrecvd.toNat ≤ g.numsent.toNat ∨
        (float g.numsent.toNat < float g.numrecvd.toNat ∧
          g.numrecvd.toNat < g.numsent.toNat + 2 ^ 31)) := by
  obtain ⟨report, hreport, hblock⟩ := statistics_eq hdisplay target g
  unfold WellDefinedLoss
  rw [hblock]
  by_cases hsent : g.numsent = 0
  · refine iff_of_false ?_ fun h => h.1 hsent
    rintro ⟨_, hsome, -⟩
    rw [hsent, lossReport_zero] at hsome
    cases hsome
  · obtain ⟨loss, hloss, hlow, hhigh, hextra⟩ := lossReport_of_ne_zero g.numrecvd hsent
    rw [and_iff_right hsent, ← hextra, hloss]
    constructor
    · rintro ⟨_, hsome, -, -, h⟩
      obtain rfl := Option.some.inj (Option.some.inj hsome)
      rwa [hreport] at h
    · intro h
      exact ⟨report loss, rfl, by rwa [hreport], by rwa [hreport], by rwa [hreport]⟩

/-- **The loss statistic.** In every run that reaches the statistics in a display that prints them,
they are well defined if and only if `-c` is not 0, no signal arrives before the first loop test,
the clock call for the deadline of `-w` does not fail, and replies above the requests make a
difference of the counters as `float`s and are fewer than `2 ^ 31`. -/
theorem pingLoop_wellDefinedLoss_iff {cfg : Config} {env : RunEnv}
    (hdisplay : cfg.display = .normal ∨ cfg.display = .dot)
    (hended : (pingLoop cfg env State.init).reason = some .ended) (target : String) :
    let g := (pingLoop cfg env State.init).state.2
    WellDefinedLoss cfg target g ↔
      (0 < cfg.maxcount ∧ env.signal = false ∧ (0 < cfg.deadline → env.startClock.Succeeds)) ∧
        (g.numrecvd.toNat ≤ g.numsent.toNat ∨
          (float g.numsent.toNat < float g.numrecvd.toNat ∧
            g.numrecvd.toNat < g.numsent.toNat + 2 ^ 31)) := by
  intro g
  rw [wellDefinedLoss_iff hdisplay, numsent_ne_zero_iff hended, loopTest_afterStart_iff]

/-- One request, answered. -/
theorem pingLoop_wellDefinedLoss_iff_once :
    let cfg := { ipConfig with maxcount := 1 }
    let env := runOf [[arpReplyFrame 7]]
    let g := (pingLoop cfg env State.init).state.2
    WellDefinedLoss cfg "10.0.0.1" g ↔
      (0 < cfg.maxcount ∧ env.signal = false ∧ (0 < cfg.deadline → env.startClock.Succeeds)) ∧
        (g.numrecvd.toNat ≤ g.numsent.toNat ∨
          (float g.numsent.toNat < float g.numrecvd.toNat ∧
            g.numrecvd.toNat < g.numsent.toNat + 2 ^ 31)) :=
  pingLoop_wellDefinedLoss_iff (Or.inl rfl) (by decide +kernel) "10.0.0.1"

/-- With `-c 0` the run goes straight to the statistics, which divide by zero. -/
theorem statistics_zeroCount :
    let cfg := { ipConfig with maxcount := 0 }
    let run := pingLoop cfg (runOf []) State.init
    run.reason = some .ended ∧ (statistics cfg "10.0.0.1" run.state.2).isNone = true ∧
      ¬ WellDefinedLoss cfg "10.0.0.1" run.state.2 := by
  intro cfg run
  refine ⟨by decide +kernel, by decide +kernel, ?_⟩
  rw [wellDefinedLoss_iff (Or.inl rfl)]
  exact fun h => h.1 (by decide +kernel)

end Arping
