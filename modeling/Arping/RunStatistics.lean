import Arping.Lib.Moments
import Arping.Runs
import Arping.Statistics

/-!
# The statistics of a run

`update_stats` accumulates the moments of the samples (`StatsOf.update`); its `-1` for "no minimum
yet" and "no maximum yet" is sound only because no sample is negative. That is a fact about whole
runs: a reply is counted behind a request, `lastpacketsent` is a clock reading from before, and so,
if successive readings never decrease, the time since is not negative (`pingLoop_statistics`).
-/

namespace Arping

open Moments

/-! ## The accumulators -/

/-- The statistics are those of `samples`. -/
structure StatsOf (samples : List ℚ) (s : Stats) : Prop where
  totalTime : s.totalTime = samples.sum
  totalSqTime : s.totalSqTime = sumSq samples
  noMin : samples = [] → s.minTime = -1
  noMax : samples = [] → s.maxTime = -1
  minTime : samples ≠ [] → IsLeast {t | t ∈ samples} s.minTime
  maxTime : samples ≠ [] → IsGreatest {t | t ∈ samples} s.maxTime

theorem statsOf_init : StatsOf [] State.init.stats where
  totalTime := rfl
  totalSqTime := rfl
  noMin := fun _ => rfl
  noMax := fun _ => rfl
  minTime := fun h => absurd rfl h
  maxTime := fun h => absurd rfl h

/-- One more sample. -/
theorem StatsOf.update {samples : List ℚ} {s : Stats} (h : StatsOf samples s)
    (hnonneg : ∀ t ∈ samples, 0 ≤ t) {t : ℚ} (ht : 0 ≤ t) :
    StatsOf (samples ++ [t]) (updateStats t s) := by
  have hne : samples ++ [t] ≠ [] :=
    List.append_ne_nil_of_right_ne_nil samples (List.cons_ne_nil t [])
  refine ⟨?_, ?_, fun h' => absurd h' hne, fun h' => absurd h' hne, fun _ => ?_, fun _ => ?_⟩
  · rw [updateStats, h.totalTime, List.sum_append, List.sum_singleton]
  · rw [updateStats, h.totalSqTime, sumSq_append_singleton]
  · unfold updateStats
    by_cases hnil : samples = []
    · -- the sentinel is negative
      rw [h.noMin hnil, if_pos (Or.inl (by norm_num)), hnil]
      exact isLeast_mem_singleton t
    · have hmin := h.minTime hnil
      rw [if_congr (or_iff_right (not_lt.mpr (hnonneg _ hmin.1))) rfl rfl]
      exact isLeast_append_singleton hmin t
  · unfold updateStats
    by_cases hnil : samples = []
    · rw [h.noMax hnil, if_pos (show (-1 : ℚ) < t by linarith), hnil]
      exact isGreatest_mem_singleton t
    · exact isGreatest_append_singleton (h.maxTime hnil) t

/-- The statistics after a sequence of samples. -/
def feed (samples : List ℚ) : Stats := samples.foldl (fun s t => updateStats t s) State.init.stats

theorem feed_append (samples : List ℚ) (t : ℚ) :
    feed (samples ++ [t]) = updateStats t (feed samples) := by
  rw [feed, List.foldl_append, ← feed, List.foldl_cons, List.foldl_nil]

theorem feed_statsOf {samples : List ℚ} (h : ∀ t ∈ samples, 0 ≤ t) :
    StatsOf samples (feed samples) := by
  induction samples using List.reverseRecOn with
  | nil => exact statsOf_init
  | append_singleton samples t ih =>
    have hsamples : ∀ t' ∈ samples, 0 ≤ t' := fun t' ht' => h t' (List.mem_append_left [t] ht')
    rw [feed_append]
    exact (ih hsamples).update hsamples
      (h t (List.mem_append_right samples (List.mem_singleton_self t)))

/-- What the figures of the last line are meant to be, for at least one sample. -/
structure Summary (samples : List ℚ) (s : Stats) : Prop where
  least : IsLeast {t | t ∈ samples} s.minTime
  greatest : IsGreatest {t | t ∈ samples} s.maxTime
  min_le_avg : s.minTime ≤ average s samples.length
  avg_le_max : average s samples.length ≤ s.maxTime
  variance : sqrtArgument s samples.length = variance samples
  nonneg : 0 ≤ sqrtArgument s samples.length

theorem StatsOf.average {samples : List ℚ} {s : Stats} (h : StatsOf samples s) :
    average s samples.length = mean samples := by
  rw [Arping.average, h.totalTime, mean]

theorem StatsOf.sqrtArgument {samples : List ℚ} {s : Stats} (h : StatsOf samples s)
    (hne : samples ≠ []) : sqrtArgument s samples.length = variance samples := by
  rw [Arping.sqrtArgument, h.average, h.totalSqTime, variance_eq hne]

theorem StatsOf.summary {samples : List ℚ} {s : Stats} (h : StatsOf samples s)
    (hne : samples ≠ []) : Summary samples s where
  least := h.minTime hne
  greatest := h.maxTime hne
  min_le_avg := by
    rw [h.average]
    exact le_mean hne fun t ht => (h.minTime hne).2 ht
  avg_le_max := by
    rw [h.average]
    exact mean_le hne fun t ht => (h.maxTime hne).2 ht
  variance := h.sqrtArgument hne
  nonneg := by
    rw [h.sqrtArgument hne]
    exact variance_nonneg samples

/-! ## Runs -/

/-- A clock reading is not after another. -/
def NotAfter (ts ts' : Timespec) : Prop := timespec2dbl ts ≤ timespec2dbl ts'

instance : DecidableRel NotAfter := fun _ _ => by unfold NotAfter; infer_instance

instance : IsTrans Timespec NotAfter := ⟨fun _ _ _ h h' => le_trans h h'⟩

/-- Each counted reply has given one sample, none of them negative. -/
structure Sampled (g : State) : Prop where
  numrecvd : g.numrecvd = UInt32.ofNat g.counted.length
  length : g.samples.length = g.counted.length
  nonneg : ∀ t ∈ g.samples, 0 ≤ t
  stats : StatsOf g.samples g.stats

theorem sampled_init : Sampled State.init :=
  ⟨rfl, rfl, fun _ ht => absurd ht List.not_mem_nil, statsOf_init⟩

theorem Sampled.of_same {g g' : State} (h : Sampled g) (hsame : SameReceived g g') :
    Sampled g' := by
  obtain ⟨hnum, hlen, hnonneg, hstats⟩ := h
  refine ⟨?_, ?_, ?_, ?_⟩
  · rw [hsame.numrecvd, hsame.counted, hnum]
  · rw [hsame.samples, hsame.counted, hlen]
  · rw [hsame.samples]
    exact hnonneg
  · rw [hsame.samples, hsame.stats]
    exact hstats

/-- A call of the handler not before `lastpacketsent`. -/
theorem Sampled.handler {g : State} (h : Sampled g) (cfg : Config) (p : Packet) {clk : ClockCall}
    (hclk : NotAfter g.lastpacketsent clk.timespec) : Sampled (recvHandler cfg p clk g) := by
  have harr := afterArrival_arrives p clk g
  obtain ⟨hnum, hlen, hnonneg, hstats⟩ := h
  rcases recvHandler_cases cfg p clk g with hrej | hcount
  · rw [hrej]
    refine ⟨?_, ?_, ?_, ?_⟩
    · rw [harr.numrecvd, harr.counted, hnum]
    · rw [harr.samples, harr.counted, hlen]
    · rw [harr.samples]
      exact hnonneg
    · rw [harr.samples, harr.stats]
      exact hstats
  · have ht : 0 ≤ sampleOf clk g := sub_nonneg.mpr hclk
    refine ⟨?_, ?_, ?_, ?_⟩
    · rw [hcount.numrecvd, harr.numrecvd, hnum, hcount.counted, harr.counted, List.length_append,
        UInt32.ofNat_add]
      rfl
    · rw [hcount.samples, hcount.counted, harr.samples, harr.counted, List.length_append,
        List.length_append, hlen]
      rfl
    · rw [hcount.samples, harr.samples]
      intro t' ht'
      rcases List.mem_append.mp ht' with ht' | ht'
      · exact hnonneg t' ht'
      · rw [List.mem_singleton.mp ht']
        exact ht
    · rw [hcount.samples, hcount.stats, harr.samples, harr.stats]
      exact hstats.update hnonneg ht

theorem sendRequest_lastpacketsent (cfg : Config) (c : UInt32) (env : SendEnv) (g : State) :
    (sendRequest cfg c env g).lastpacketsent = env.clkAfter.timespec := by
  unfold sendRequest
  split <;> rfl

/-- Before the request number `c`. -/
structure BeforeRequest (c : UInt32) (g : State) : Prop where
  sampled : Sampled g
  numsent : g.numsent = c
  counted : g.counted ≠ [] → c ≠ 0

/-- Behind it: `lastpacketsent` is one of the clock readings taken. -/
structure BehindRequest (cfg : Config) (c : UInt32) (ts : List Timespec) (g : State) : Prop where
  sampled : Sampled g
  numsent : g.numsent = c + 1
  lt : c < cfg.maxcount
  lastpacketsent : g.lastpacketsent ∈ ts

section Run

variable (cfg : Config)

/-- The steps behind a request, as long as successive readings never decrease. -/
theorem behindRequest_steps (c : UInt32) :
    ReceiveSteps (recvHandler cfg) fun ts g =>
      ts.Pairwise NotAfter → BehindRequest cfg c ts g where
  clock := fun ts clk g h hts => by
    obtain ⟨hsampled, hsent, hlt, hlast⟩ := h (List.pairwise_append.mp hts).1
    have hlast' : (getclock clk g).2.lastpacketsent = g.lastpacketsent := by cases clk <;> rfl
    refine ⟨hsampled.of_same (SameReceived.getclock clk g), ?_, hlt, ?_⟩
    · rw [getclock_numsent, hsent]
    · rw [hlast']
      exact List.mem_append_left _ hlast
  sigint := fun ts g h hts => by
    obtain ⟨hsampled, hsent, hlt, hlast⟩ := h hts
    exact ⟨hsampled.of_same (SameReceived.sigint g), hsent, hlt, hlast⟩
  select := fun ts c g _ h hts => by
    obtain ⟨hsampled, hsent, hlt, hlast⟩ := h hts
    exact ⟨hsampled.of_same (SameReceived.emit rfl rfl rfl g), hsent, hlt, hlast⟩
  dispatch := fun ts g _ h hts => by
    obtain ⟨hsampled, hsent, hlt, hlast⟩ := h hts
    exact ⟨hsampled.of_same (SameReceived.emit rfl rfl rfl g), hsent, hlt, hlast⟩
  prints := fun ts os g h hts => by
    obtain ⟨hsampled, hsent, hlt, hlast⟩ := h hts
    exact ⟨hsampled.of_same (SameReceived.prints os g), hsent, hlt, hlast⟩
  handler := fun ts p clk g h hts => by
    obtain ⟨hold, -, hnew⟩ := List.pairwise_append.mp hts
    obtain ⟨hsampled, hsent, hlt, hlast⟩ := h hold
    -- `lastpacketsent` was read before the arrival
    have hclk : NotAfter g.lastpacketsent clk.timespec :=
      hnew g.lastpacketsent hlast clk.timespec (List.mem_singleton_self _)
    refine ⟨hsampled.handler cfg p hclk, ?_, hlt, ?_⟩
    · rw [recvHandler_numsent, hsent]
    · rw [recvHandler_lastpacketsent]
      exact List.mem_append_left _ hlast

theorem sampled_runSteps :
    RunSteps cfg (fun c ts g => ts.Pairwise NotAfter → BeforeRequest c g)
      fun c ts g => ts.Pairwise NotAfter → BehindRequest cfg c ts g where
  clock := fun ts clk g h hts => by
    obtain ⟨hsampled, hsent, hcounted⟩ := h (List.pairwise_append.mp hts).1
    have hsame := SameReceived.getclock clk g
    refine ⟨hsampled.of_same hsame, ?_, ?_⟩
    · rw [getclock_numsent, hsent]
    · rw [hsame.counted]
      exact hcounted
  sigint := fun ts g h hts => by
    obtain ⟨hsampled, hsent, hcounted⟩ := h hts
    exact ⟨hsampled.of_same (SameReceived.sigint g), hsent, hcounted⟩
  send := fun c ts env g htest h hts => by
    obtain ⟨hsampled, hsent, -⟩ := h (List.pairwise_append.mp hts).1
    unfold loopTest at htest
    rw [Bool.and_eq_true, decide_eq_true_eq] at htest
    refine ⟨hsampled.of_same (sendRequest_same cfg c env g), ?_, htest.1, ?_⟩
    · rw [sendRequest_numsent, hsent]
    · rw [sendRequest_lastpacketsent, sendReadings]
      simp
  receive := fun c => behindRequest_steps cfg c
  next := fun c ts g h hts => by
    obtain ⟨hsampled, hsent, hlt, -⟩ := h hts
    exact ⟨hsampled, hsent, fun _ => succ_ne_zero_of_lt hlt⟩

end Run

/-- **Statistics of a run.** In every reachable state of a run whose successive clock readings never
decrease, with less than `2 ^ 32` counted replies: no reply is counted while `numsent` is 0, no
sample is negative, and if `numrecvd` is not 0 it is the number of samples, which the statistics
summarise. -/
theorem pingLoop_statistics {cfg : Config} {env : RunEnv}
    (hclock : (runReadings cfg env State.init).IsChain NotAfter)
    (hfew : (pingLoop cfg env State.init).state.2.counted.length < 2 ^ 32) :
    let g := (pingLoop cfg env State.init).state.2
    (g.counted ≠ [] → g.numsent ≠ 0) ∧ (∀ t ∈ g.samples, 0 ≤ t) ∧
      (g.numrecvd ≠ 0 → g.samples.length = g.numrecvd.toNat ∧ Summary g.samples g.stats) := by
  intro g
  have hts := List.isChain_iff_pairwise.mp hclock
  have hrun := pingLoop_steps (sampled_runSteps cfg) env
    fun _ => ⟨sampled_init, rfl, fun h => absurd rfl h⟩
  have hfinal : Sampled g ∧ (g.counted ≠ [] → g.numsent ≠ 0) := by
    refine hrun.state (I := fun s => Sampled s.2 ∧ (s.2.counted ≠ [] → s.2.numsent ≠ 0)) ?_ ?_
    · rintro s ⟨-, h⟩
      obtain ⟨hsampled, hsent, hcounted⟩ := h hts
      exact ⟨hsampled, fun hne => by rw [hsent]; exact hcounted hne⟩
    · rintro - s (⟨-, h⟩ | ⟨-, c, h⟩)
      · obtain ⟨hsampled, hsent, hcounted⟩ := h hts
        exact ⟨hsampled, fun hne => by rw [hsent]; exact hcounted hne⟩
      · obtain ⟨hsampled, hsent, hlt, -⟩ := h hts
        exact ⟨hsampled, fun _ => by rw [hsent]; exact succ_ne_zero_of_lt hlt⟩
  obtain ⟨hsampled, hsent⟩ := hfinal
  have hnum : g.numrecvd.toNat = g.counted.length := by
    rw [hsampled.numrecvd]
    exact UInt32.toNat_ofNat_of_lt' hfew
  refine ⟨hsent, hsampled.nonneg, fun hne => ⟨by rw [hnum, hsampled.length], ?_⟩⟩
  refine hsampled.stats.summary fun hnil => hne ?_
  have hzero := hsampled.length
  rw [hnil] at hzero
  rw [← UInt32.toNat_inj, hnum, ← hzero]
  rfl

/-- Two requests, each answered. -/
theorem pingLoop_statistics_twice :
    let cfg := { ipConfig with maxcount := 2 }
    let g := (pingLoop cfg (runOf [[arpReplyFrame 7], [arpReplyFrame 7]]) State.init).state.2
    (g.counted ≠ [] → g.numsent ≠ 0) ∧ (∀ t ∈ g.samples, 0 ≤ t) ∧
      (g.numrecvd ≠ 0 → g.samples.length = g.numrecvd.toNat ∧ Summary g.samples g.stats) :=
  pingLoop_statistics (by decide +kernel) (by decide +kernel)

end Arping
