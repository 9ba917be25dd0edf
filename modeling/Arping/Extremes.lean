import Arping.RunStatistics

/-!
# Samples that may be negative

The sentinel `-1` of `stats_min_time` and `stats_max_time` lies among the values that samples take
when the clock is stepped back. The totals are right whatever the samples. The maximum is right once
some sample reaches the sentinel. The minimum is forgotten behind a negative sample: it is right
when no sample is negative, or when the last one is the least (`feed_trueExtremes_iff`).
-/

namespace Arping

open Moments

/-- The statistics that the samples should leave. -/
structure TrueExtremes (samples : List ℚ) (s : Stats) : Prop where
  least : IsLeast {t | t ∈ samples} s.minTime
  greatest : IsGreatest {t | t ∈ samples} s.maxTime
  totalTime : s.totalTime = samples.sum
  totalSqTime : s.totalSqTime = sumSq samples

/-! ## One accumulator at a time -/

theorem feed_totals (samples : List ℚ) :
    (feed samples).totalTime = samples.sum ∧
      (feed samples).totalSqTime = sumSq samples := by
  induction samples using List.reverseRecOn with
  | nil => exact ⟨rfl, rfl⟩
  | append_singleton samples t ih =>
    rw [feed_append, updateStats, ih.1, ih.2, List.sum_append, List.sum_singleton,
      sumSq_append_singleton]
    exact ⟨rfl, rfl⟩

/-- The sentinel counts as a sample. -/
theorem feed_maxTime (samples : List ℚ) :
    IsGreatest {t | t ∈ -1 :: samples} (feed samples).maxTime := by
  induction samples using List.reverseRecOn with
  | nil => exact isGreatest_mem_singleton (-1)
  | append_singleton samples t ih =>
    rw [feed_append, ← List.cons_append]
    exact isGreatest_append_singleton ih t

theorem maxTime_greatest_iff (samples : List ℚ) :
    IsGreatest {t | t ∈ samples} (feed samples).maxTime ↔ ∃ t ∈ samples, -1 ≤ t := by
  obtain ⟨hmem, hle⟩ := feed_maxTime samples
  constructor
  · intro h
    exact ⟨_, h.1, hle List.mem_cons_self⟩
  · rintro ⟨t, ht, hlow⟩
    refine ⟨?_, fun u hu => hle (List.mem_cons_of_mem (-1) hu)⟩
    obtain hmax | hmax := List.mem_cons.mp hmem
    · -- the sentinel is reached by `t`
      have htmax : t ≤ -1 := hmax ▸ hle (List.mem_cons_of_mem (-1) ht)
      rw [Set.mem_ofPred_eq, hmax, ← le_antisymm htmax hlow]
      exact ht
    · exact hmax

/-- A negative sample is taken as it is. -/
theorem minTime_of_neg (samples : List ℚ) {t : ℚ} (ht : t < 0) :
    (feed (samples ++ [t])).minTime = t := by
  rw [feed_append, updateStats]
  refine if_pos ?_
  by_cases hmin : (feed samples).minTime < 0
  · exact Or.inl hmin
  · exact Or.inr (ht.trans_le (not_lt.mp hmin))

/-- Behind any other sample the minimum is not negative. -/
theorem minTime_of_nonneg (samples : List ℚ) {t : ℚ} (ht : 0 ≤ t) :
    0 ≤ (feed (samples ++ [t])).minTime := by
  rw [feed_append, updateStats]
  show 0 ≤ if _ then t else _
  split
  · exact ht
  · rename_i hnot
    exact not_lt.mp fun h => hnot (Or.inl h)

theorem minTime_least_iff (samples : List ℚ) (t : ℚ) :
    IsLeast {u | u ∈ samples ++ [t]} (feed (samples ++ [t])).minTime ↔
      (∀ u ∈ samples ++ [t], 0 ≤ u) ∨ IsLeast {u | u ∈ samples ++ [t]} t := by
  constructor
  · intro h
    by_cases ht : t < 0
    · rw [minTime_of_neg samples ht] at h
      exact Or.inr h
    · exact Or.inl fun u hu => (minTime_of_nonneg samples (not_lt.mp ht)).trans (h.2 hu)
  · intro h
    by_cases ht : t < 0
    · rw [minTime_of_neg samples ht]
      exact h.resolve_left fun hnonneg => absurd (hnonneg t (by simp)) (not_le.mpr ht)
    · have hnonneg : ∀ u ∈ samples ++ [t], 0 ≤ u := by
        obtain h | h := h
        · exact h
        · exact fun u hu => (not_lt.mp ht).trans (h.2 hu)
      exact (feed_statsOf hnonneg).minTime (by simp)

/-! ## Main result -/

/-- The extremes are right when no sample is negative, or when the last sample is the least and some
sample is at least `-1`; otherwise one of them is wrong. -/
theorem feed_trueExtremes_iff (samples : List ℚ) (hne : samples ≠ []) :
    TrueExtremes samples (feed samples) ↔
      (∀ t ∈ samples, 0 ≤ t) ∨
        (IsLeast {t | t ∈ samples} (samples.getLast hne) ∧ ∃ t ∈ samples, -1 ≤ t) := by
  have hmin : IsLeast {t | t ∈ samples} (feed samples).minTime ↔
      (∀ t ∈ samples, 0 ≤ t) ∨ IsLeast {t | t ∈ samples} (samples.getLast hne) := by
    have h := minTime_least_iff samples.dropLast (samples.getLast hne)
    rwa [List.dropLast_append_getLast hne] at h
  have hmax := maxTime_greatest_iff samples
  constructor
  · intro h
    obtain hnonneg | hlast := hmin.mp h.least
    · exact Or.inl hnonneg
    · exact Or.inr ⟨hlast, hmax.mp h.greatest⟩
  · intro h
    refine ⟨hmin.mpr (h.imp_right And.left), hmax.mpr ?_, (feed_totals samples).1,
      (feed_totals samples).2⟩
    obtain hnonneg | ⟨-, hlow⟩ := h
    · obtain ⟨t, ht⟩ := List.exists_mem_of_ne_nil samples hne
      exact ⟨t, ht, by linarith [hnonneg t ht]⟩
    · exact hlow

theorem feed_trueExtremes_iff_example :
    TrueExtremes [3, 1, 2] (feed [3, 1, 2]) :=
  (feed_trueExtremes_iff [3, 1, 2] (by simp)).mpr (Or.inl (by norm_num))

/-- Behind a negative sample a greater one is taken for the least. -/
theorem not_trueExtremes_feed :
    ¬ ∀ samples : List ℚ, samples ≠ [] → TrueExtremes samples (feed samples) := by
  intro h
  have hleast := (h [-1/2, 1] (by simp)).least.2 (show -1/2 ∈ [-1/2, (1 : ℚ)] by simp)
  have hnonneg := minTime_of_nonneg [-1/2] (zero_le_one' ℚ)
  exact absurd (hnonneg.trans hleast) (by norm_num)

end Arping
