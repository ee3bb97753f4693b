import InlineIps.Flow.Statistics
import InlineIps.Library.SampleStatistics
import Mathlib.Analysis.Real.Sqrt

/-!
# Statistics in exact arithmetic

The accumulators of a flow over the real numbers, where nothing is rounded.

* `RunningStats.var_statsOf`: the streaming variance is the sample variance.
* `DirectionStats.sum_gaps_le`: the gaps of a direction add up to no more than the time between
  its packets.
* `FlowManager.sorted_assigned`: the packets of a flow are in the order of their times.
-/

namespace InlineIps

open Library

/-- Exact arithmetic. -/
noncomputable instance : DoubleOps ℝ where
  ofInt n := n
  sqrt := Real.sqrt
  lt a b := decide (a < b)

/-! ## Accumulators -/

namespace RunningStats

open DirectionStats SampleStatistics

/-- The variance that `stddev` takes the root of. -/
def var {F : Type} [DoubleOps F] (s : RunningStats F) : F :=
  (s.sqSum - s.sum * s.sum / DoubleOps.ofInt s.count) / (DoubleOps.ofInt s.count - DoubleOps.ofInt 1)

variable (samples : List ℝ) (x : ℝ)

theorem ofInt_eq (n : Int) : (DoubleOps.ofInt n : ℝ) = n := rfl

theorem sum_statsOf : (statsOf samples).sum = samples.sum := by
  induction samples using List.reverseRecOn with
  | nil => exact Int.cast_zero
  | append_singleton samples x ih =>
    rw [statsOf_snoc, List.sum_append, List.sum_singleton, ← ih]
    rfl

theorem sqSum_statsOf : (statsOf samples).sqSum = (samples.map fun x => x * x).sum := by
  induction samples using List.reverseRecOn with
  | nil => exact Int.cast_zero
  | append_singleton samples x ih =>
    rw [statsOf_snoc, List.map_append, List.sum_append, List.map_singleton, List.sum_singleton,
      ← ih]
    rfl

theorem min_add (s : RunningStats ℝ) :
    (s.add x).min = if s.count = 0 then x else Min.min x s.min := by
  simp only [add, DoubleOps.lt, decide_eq_true_eq, min_def_lt]

theorem max_add (s : RunningStats ℝ) :
    (s.add x).max = if s.count = 0 then x else Max.max s.max x := by
  simp only [add, DoubleOps.lt, decide_eq_true_eq, max_def_lt]

theorem count_eq_zero {samples : List ℝ} : (statsOf samples).count = 0 ↔ samples = [] := by
  rw [statsOf_count, List.length_eq_zero_iff]

variable {samples}

theorem min_le : ∀ y ∈ samples, (statsOf samples).min ≤ y := by
  induction samples using List.reverseRecOn with
  | nil => simp
  | append_singleton samples x ih =>
    intro y hy
    rw [statsOf_snoc, min_add]
    rcases List.mem_append.mp hy with hold | hnew
    · rw [if_neg fun hzero => List.ne_nil_of_mem hold (count_eq_zero.mp hzero)]
      exact (min_le_right _ _).trans (ih y hold)
    · rw [List.mem_singleton.mp hnew]
      split
      · exact le_rfl
      · exact min_le_left _ _

theorem le_max : ∀ y ∈ samples, y ≤ (statsOf samples).max := by
  induction samples using List.reverseRecOn with
  | nil => simp
  | append_singleton samples x ih =>
    intro y hy
    rw [statsOf_snoc, max_add]
    rcases List.mem_append.mp hy with hold | hnew
    · rw [if_neg fun hzero => List.ne_nil_of_mem hold (count_eq_zero.mp hzero)]
      exact (ih y hold).trans (le_max_left _ _)
    · rw [List.mem_singleton.mp hnew]
      split
      · exact le_rfl
      · exact le_max_right _ _

/-- The extremes are samples. -/
theorem extremes_mem (hne : samples ≠ []) :
    (statsOf samples).min ∈ samples ∧ (statsOf samples).max ∈ samples := by
  induction samples using List.reverseRecOn with
  | nil => exact absurd rfl hne
  | append_singleton samples x ih =>
    rw [statsOf_snoc, min_add, max_add]
    by_cases hzero : (statsOf samples).count = 0
    · rw [if_pos hzero, if_pos hzero]
      simp
    · obtain ⟨hmin, hmax⟩ := ih fun hnil => hzero (count_eq_zero.mpr hnil)
      rw [if_neg hzero, if_neg hzero]
      constructor
      · rcases min_choice x (statsOf samples).min with heq | heq <;> simp [heq, hmin]
      · rcases max_choice (statsOf samples).max x with heq | heq <;> simp [heq, hmax]

theorem mean_statsOf : (statsOf samples).mean = SampleStatistics.mean samples := by
  unfold RunningStats.mean
  split
  · rename_i hzero
    rw [count_eq_zero.mp hzero]
    simp [SampleStatistics.mean, ofInt_eq]
  · rw [sum_statsOf, statsOf_count, ofInt_eq, Int.cast_natCast]
    rfl

/-- **The streaming variance is the sample variance.** -/
theorem var_statsOf : (statsOf samples).var = variance samples := by
  unfold var variance
  rw [sum_statsOf, sqSum_statsOf, statsOf_count, ofInt_eq, ofInt_eq, Int.cast_natCast, Int.cast_one,
    ← squares_sub]

theorem stddev_eq (s : RunningStats ℝ) :
    s.stddev = if s.count < 2 then 0 else if 0 < s.var then √s.var else 0 := by
  have hzero : (DoubleOps.ofInt 0 : ℝ) = 0 := Int.cast_zero
  unfold stddev
  simp only [hzero, DoubleOps.lt, decide_eq_true_eq]
  rfl

/-- The clamp of the variance does nothing. -/
theorem stddev_statsOf :
    (statsOf samples).stddev = if samples.length < 2 then 0 else √(variance samples) := by
  rw [stddev_eq, statsOf_count, var_statsOf]
  split
  · rfl
  · rename_i hlength
    have hne : samples ≠ [] := by
      rintro rfl
      exact hlength (by simp)
    split
    · rfl
    · rename_i hpos
      rw [le_antisymm (not_lt.mp hpos) (variance_nonneg hne), Real.sqrt_zero]

end RunningStats

/-! ## One direction -/

namespace DirectionStats

theorem toMicroseconds_nonneg {d : Int} (h : 0 ≤ d) : 0 ≤ toMicroseconds d :=
  Int.tdiv_nonneg h (by decide)

theorem toMicroseconds_add_le {d d' : Int} (h : 0 ≤ d) (h' : 0 ≤ d') :
    toMicroseconds d + toMicroseconds d' ≤ toMicroseconds (d + d') := by
  unfold toMicroseconds
  rw [Int.tdiv_eq_ediv_of_nonneg h, Int.tdiv_eq_ediv_of_nonneg h',
    Int.tdiv_eq_ediv_of_nonneg (Int.add_nonneg h h')]
  omega

theorem toMicroseconds_mono {d d' : Int} (h : 0 ≤ d) (hle : d ≤ d') :
    toMicroseconds d ≤ toMicroseconds d' := by
  unfold toMicroseconds
  rw [Int.tdiv_eq_ediv_of_nonneg h, Int.tdiv_eq_ediv_of_nonneg (h.trans hle)]
  omega

/-- The times of the packets do not go back. -/
def Sorted (packets : List Observation) : Prop :=
  packets.Pairwise fun o o' => o.time ≤ o'.time

variable {packets : List Observation}

theorem gaps_nonneg (h : Sorted packets) : ∀ d ∈ gaps packets, 0 ≤ d := by
  induction packets using List.reverseRecOn with
  | nil => simp [gaps]
  | append_singleton packets o' ih =>
    obtain ⟨hpackets, -, hcross⟩ := List.pairwise_append.mp h
    rcases List.eq_nil_or_concat packets with rfl | ⟨earlier, o, rfl⟩
    · simp [gaps]
    · rw [List.concat_eq_append] at hpackets hcross ih ⊢
      rw [gaps_snoc]
      intro d hd
      rcases List.mem_append.mp hd with hold | hnew
      · exact ih hpackets d hold
      · rw [List.mem_singleton.mp hnew]
        have hle : o.time ≤ o'.time := hcross o (by simp) o' (by simp)
        exact toMicroseconds_nonneg (sub_nonneg.mpr hle)

/-- Truncated gaps add up to no more than the truncated time between the packets. -/
theorem sum_gaps_le (h : Sorted packets) {start stop : TimePoint}
    (hbounds : ∀ o ∈ packets, start ≤ o.time ∧ o.time ≤ stop) (hle : start ≤ stop) :
    (gaps packets).sum ≤ toMicroseconds (stop - start) := by
  induction packets using List.reverseRecOn generalizing stop with
  | nil => exact toMicroseconds_nonneg (sub_nonneg.mpr hle)
  | append_singleton packets o' ih =>
    obtain ⟨hpackets, -, hcross⟩ := List.pairwise_append.mp h
    rcases List.eq_nil_or_concat packets with rfl | ⟨earlier, o, rfl⟩
    · exact toMicroseconds_nonneg (sub_nonneg.mpr hle)
    · rw [List.concat_eq_append] at hpackets hcross ih hbounds ⊢
      have hstart : start ≤ o.time := (hbounds o (by simp)).1
      have hstop : o'.time ≤ stop := (hbounds o' (by simp)).2
      have hgap : o.time ≤ o'.time := hcross o (by simp) o' (by simp)
      have hupto : ∀ o'' ∈ earlier ++ [o], start ≤ o''.time ∧ o''.time ≤ o.time := by
        intro o'' ho''
        refine ⟨(hbounds o'' (List.mem_append_left _ ho'')).1, ?_⟩
        rcases List.mem_append.mp ho'' with hearlier | hlast
        · exact (List.pairwise_append.mp hpackets).2.2 o'' hearlier o (by simp)
        · rw [List.mem_singleton.mp hlast]
      rw [gaps_snoc, List.sum_append, List.sum_singleton]
      calc (gaps (earlier ++ [o])).sum + gap o o'
          ≤ toMicroseconds (o.time - start) + toMicroseconds (o'.time - o.time) :=
            Int.add_le_add_right (ih hpackets hupto hstart) _
        _ ≤ toMicroseconds (o.time - start + (o'.time - o.time)) :=
            toMicroseconds_add_le (sub_nonneg.mpr hstart) (sub_nonneg.mpr hgap)
        _ = toMicroseconds (o'.time - start) := by rw [add_comm, sub_add_sub_cancel]
        _ ≤ toMicroseconds (stop - start) :=
            toMicroseconds_mono (sub_nonneg.mpr (hstart.trans hgap)) (sub_le_sub_right hstop start)

end DirectionStats

/-! ## Runs -/

namespace FlowManager

variable {F : Type} [DoubleOps F] {c : FlowParams} {k : FiveTuple} {calls : List FlowCall}

theorem observations_times (calls : List FlowCall) :
    ((observations calls).map Observation.time).Sublist (calls.flatMap FlowCall.reads) := by
  induction calls with
  | nil => exact List.Sublist.refl _
  | cons e calls ih =>
    cases e with
    | observe packet direction now => exact ih.cons_cons now
    | extract key => exact ih
    | discard srcIp => exact ih
    | cleanup now => exact ih.cons now

/-- The packets of a flow are in the order of their times. -/
theorem sorted_assigned {start : TimePoint} (hc : Machine.Chronological FlowCall.reads start calls)
    (k : FiveTuple) : DirectionStats.Sorted
      (assigned c k (Machine.trace (call (F := F) c) .empty calls)) := by
  have hreads : (calls.flatMap FlowCall.reads).Pairwise (· ≤ ·) := (List.pairwise_cons.mp hc).2
  have htimes := hreads.sublist (observations_times calls)
  exact (List.pairwise_map.mp htimes).sublist (assigned_sublist c k calls)

end FlowManager

end InlineIps
