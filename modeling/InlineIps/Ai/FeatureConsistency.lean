import InlineIps.Ai.FlowRecord
import InlineIps.Flow.Cap
import InlineIps.Flow.ExactStatistics

/-!
# The features of a flow fit together

* `DirectionFeatures.Consistent`: what holds between the features of one direction.
* `DirectionFeatures.Describes`: what they say of the packets of the direction.
* `features_consistent`: in exact arithmetic the features of every flow of a run at times that do
  not go back are consistent and describe its packets, and the deviations in them are those of the
  recorded values.
-/

namespace InlineIps

open Library SampleStatistics

instance : NeZero flowFeatureCount := ⟨by decide⟩

/-- The features of one direction of a flow. -/
structure DirectionFeatures where
  packets : ℝ
  total : ℝ
  max : ℝ
  min : ℝ
  mean : ℝ
  stddev : ℝ
  iatMean : ℝ
  iatStddev : ℝ
  iatMax : ℝ
  iatMin : ℝ

def durationFeature (features : Vector ℝ flowFeatureCount) : ℝ := features.get 0

def forwardFeatures (features : Vector ℝ flowFeatureCount) : DirectionFeatures where
  packets := features.get 1
  total := features.get 3
  max := features.get 5
  min := features.get 6
  mean := features.get 7
  stddev := features.get 8
  iatMean := features.get 13
  iatStddev := features.get 14
  iatMax := features.get 15
  iatMin := features.get 16

def backwardFeatures (features : Vector ℝ flowFeatureCount) : DirectionFeatures where
  packets := features.get 2
  total := features.get 4
  max := features.get 9
  min := features.get 10
  mean := features.get 11
  stddev := features.get 12
  iatMean := features.get 17
  iatStddev := features.get 18
  iatMax := features.get 19
  iatMin := features.get 20

namespace DirectionFeatures

def silent : DirectionFeatures := ⟨0, 0, 0, 0, 0, 0, 0, 0, 0, 0⟩

/-- The features of a direction with the given number of inter-arrival times, in a flow of the given
duration, fit together. -/
structure Consistent (duration : ℝ) (gaps : Nat) (d : DirectionFeatures) : Prop where
  total : d.packets * d.mean = d.total
  payload : d.min ≤ d.mean ∧ d.mean ≤ d.max
  iat : d.iatMin ≤ d.iatMean ∧ d.iatMean ≤ d.iatMax
  iatNonneg : 0 ≤ d.iatMin ∧ 0 ≤ d.iatMean ∧ 0 ≤ d.iatMax ∧ 0 ≤ d.iatStddev
  iatTotal : d.iatMean * gaps ≤ duration
  iatMax : d.iatMax ≤ duration
  empty : d.packets = 0 → d = silent

/-- The least and the greatest of samples, or zero where there are none. -/
structure Extremes (samples : List ℝ) (least greatest : ℝ) : Prop where
  none : samples = [] → least = 0 ∧ greatest = 0
  mem : samples ≠ [] → least ∈ samples ∧ greatest ∈ samples
  bounds : ∀ x ∈ samples, least ≤ x ∧ x ≤ greatest

/-- The sample deviation, or zero for fewer than two samples. -/
noncomputable def deviation (samples : List ℝ) : ℝ :=
  if samples.length < 2 then 0 else √(SampleStatistics.variance samples)

/-- The payload lengths of packets. -/
def payloads (packets : List Observation) : List ℝ :=
  packets.map fun o => (o.packet.payloadLen.toNat : ℝ)

/-- The times between consecutive packets, in microseconds. -/
def interArrivals (packets : List Observation) : List ℝ :=
  (DirectionStats.gaps packets).map (Int.cast : Int → ℝ)

/-- The features of a direction with these packets. -/
structure Describes (observed : List Observation) (d : DirectionFeatures) : Prop where
  packets : d.packets = observed.length
  total : d.total = (payloads observed).sum
  mean : d.mean = SampleStatistics.mean (payloads observed)
  extremes : Extremes (payloads observed) d.min d.max
  stddev : d.stddev = deviation (payloads observed)
  iatMean : d.iatMean = SampleStatistics.mean (interArrivals observed)
  iatExtremes : Extremes (interArrivals observed) d.iatMin d.iatMax
  iatStddev : d.iatStddev = deviation (interArrivals observed)
  silent : observed = [] → d = silent

end DirectionFeatures

/-! ## One accumulator -/

namespace RunningStats

open DirectionStats

/-- The accumulator holds the samples, and its deviation is theirs. -/
structure Records (samples : List ℝ) (s : RunningStats ℝ) : Prop where
  recorded : s = statsOf samples
  variance : 2 ≤ samples.length → s.var = SampleStatistics.variance samples ∧ 0 ≤ s.var
  stddev : s.stddev = if samples.length < 2 then 0 else √(SampleStatistics.variance samples)

variable {samples : List ℝ} {s : RunningStats ℝ}

theorem records_statsOf (samples : List ℝ) : Records samples (statsOf samples) where
  recorded := rfl
  variance := by
    intro hlength
    rw [var_statsOf]
    refine ⟨rfl, variance_nonneg ?_⟩
    rintro rfl
    simp at hlength
  stddev := stddev_statsOf

theorem statsOf_nil : statsOf ([] : List ℝ) = ⟨0, 0, 0, 0, 0⟩ := by
  simp [statsOf, zero, ofInt_eq]

namespace Records

variable (h : Records samples s)
include h

theorem count_mul_mean : (s.count : ℝ) * s.mean = s.sum := by
  rw [h.recorded, statsOf_count, mean_statsOf, sum_statsOf]
  exact length_mul_mean samples

theorem min_le_mean_le_max : s.min ≤ s.mean ∧ s.mean ≤ s.max := by
  rw [h.recorded]
  rcases eq_or_ne samples [] with rfl | hne
  · rw [mean_statsOf, statsOf_nil]
    simp [SampleStatistics.mean]
  · rw [mean_statsOf]
    exact ⟨le_mean hne min_le, mean_le hne le_max⟩

theorem stddev_nonneg : 0 ≤ s.stddev := by
  rw [h.stddev]
  split
  · exact le_rfl
  · exact Real.sqrt_nonneg _

theorem min_nonneg (hsamples : ∀ x ∈ samples, 0 ≤ x) : 0 ≤ s.min := by
  rw [h.recorded]
  rcases eq_or_ne samples [] with rfl | hne
  · rw [statsOf_nil]
  · exact hsamples _ (extremes_mem hne).1

theorem extremes : DirectionFeatures.Extremes samples s.min s.max := by
  rw [h.recorded]
  exact {
    none := by
      rintro rfl
      rw [statsOf_nil]
      exact ⟨rfl, rfl⟩
    mem := extremes_mem
    bounds := fun x hx => ⟨min_le x hx, le_max x hx⟩ }

theorem max_le_sum (hsamples : ∀ x ∈ samples, 0 ≤ x) : s.max ≤ s.sum := by
  rw [h.recorded]
  rcases eq_or_ne samples [] with rfl | hne
  · rw [statsOf_nil]
  · rw [sum_statsOf]
    exact List.single_le_sum hsamples _ (extremes_mem hne).2

end Records

end RunningStats

/-! ## One direction -/

namespace DirectionStats

/-- The accumulators of a direction hold the lengths and the gaps of its packets. -/
structure Records (packets : List Observation) (dir : DirectionStats ℝ) : Prop where
  packetLen : dir.packetLen.Records (packets.map fun o => (o.packet.totalLen.toNat : ℝ))
  payloadLen : dir.payloadLen.Records (packets.map fun o => (o.packet.payloadLen.toNat : ℝ))
  iatUs : dir.iatUs.Records ((gaps packets).map (Int.cast : Int → ℝ))

/-- The features of a direction. -/
noncomputable def features (dir : DirectionStats ℝ) : DirectionFeatures where
  packets := DoubleOps.ofInt dir.payloadLen.count
  total := dir.payloadLen.sum
  max := dir.payloadLen.max
  min := dir.payloadLen.min
  mean := dir.payloadLen.mean
  stddev := dir.payloadLen.stddev
  iatMean := dir.iatUs.mean
  iatStddev := dir.iatUs.stddev
  iatMax := dir.iatUs.max
  iatMin := dir.iatUs.min

variable {packets : List Observation} {dir : DirectionStats ℝ}

theorem Exact.records (h : dir.Exact packets) : dir.Records packets where
  packetLen := by
    rw [h.packetLen]
    exact RunningStats.records_statsOf _
  payloadLen := by
    rw [h.payloadLen]
    exact RunningStats.records_statsOf _
  iatUs := by
    rw [h.iatUs]
    exact RunningStats.records_statsOf _

theorem Records.silent (h : dir.Records packets) (hnone : packets = []) :
    dir.features = .silent := by
  subst hnone
  have hpayload := h.payloadLen.recorded
  have hiat := h.iatUs.recorded
  rw [List.map_nil, RunningStats.statsOf_nil] at hpayload
  rw [show gaps [] = [] from rfl, List.map_nil, RunningStats.statsOf_nil] at hiat
  unfold features
  rw [hpayload, hiat]
  simp [DirectionFeatures.silent, RunningStats.ofInt_eq, RunningStats.mean, RunningStats.stddev]

theorem Records.describes (h : dir.Records packets) : dir.features.Describes packets where
  packets := by
    simp only [features]
    rw [h.payloadLen.recorded, statsOf_count, List.length_map]
    rfl
  total := by
    simp only [features]
    rw [h.payloadLen.recorded, RunningStats.sum_statsOf]
    rfl
  mean := by
    simp only [features]
    rw [h.payloadLen.recorded, RunningStats.mean_statsOf]
    rfl
  extremes := h.payloadLen.extremes
  stddev := h.payloadLen.stddev
  iatMean := by
    simp only [features]
    rw [h.iatUs.recorded, RunningStats.mean_statsOf]
    rfl
  iatExtremes := h.iatUs.extremes
  iatStddev := h.iatUs.stddev
  silent := h.silent

theorem Records.consistent (h : dir.Records packets) (hsorted : Sorted packets)
    {start stop : TimePoint} (hbounds : ∀ o ∈ packets, start ≤ o.time ∧ o.time ≤ stop)
    (hle : start ≤ stop) :
    dir.features.Consistent (toMicroseconds (stop - start) : ℝ) dir.iatUs.count := by
  have hnonneg : ∀ x ∈ (gaps packets).map (Int.cast : Int → ℝ), 0 ≤ x := by
    intro x hx
    obtain ⟨d, hd, rfl⟩ := List.mem_map.mp hx
    exact Int.cast_nonneg (gaps_nonneg hsorted d hd)
  have hsum : dir.iatUs.sum ≤ (toMicroseconds (stop - start) : ℝ) := by
    rw [h.iatUs.recorded, RunningStats.sum_statsOf, ← Int.cast_list_sum, Int.cast_le]
    exact sum_gaps_le hsorted hbounds hle
  have hmin := h.iatUs.min_nonneg hnonneg
  obtain ⟨hbelow, habove⟩ := h.iatUs.min_le_mean_le_max
  exact {
    total := h.payloadLen.count_mul_mean
    payload := h.payloadLen.min_le_mean_le_max
    iat := ⟨hbelow, habove⟩
    iatNonneg := ⟨hmin, hmin.trans hbelow, hmin.trans (hbelow.trans habove),
      h.iatUs.stddev_nonneg⟩
    iatTotal := by
      rw [mul_comm]
      exact h.iatUs.count_mul_mean.trans_le hsum
    iatMax := (h.iatUs.max_le_sum hnonneg).trans hsum
    empty := by
      intro hzero
      have hcount : dir.payloadLen.count = 0 := Nat.cast_eq_zero.mp hzero
      rw [h.payloadLen.recorded, RunningStats.count_eq_zero, List.map_eq_nil_iff] at hcount
      exact h.silent hcount }

end DirectionStats

/-! ## Flows -/

namespace Flow

/-- The deviations of a flow are those of the recorded values, and the features of both directions
describe the packets of the direction and fit together. -/
structure Consistent (packets : List Observation) (flow : Flow ℝ) : Prop where
  forwardRecords : flow.forward.Records (packets.filter fun o => o.packet.tuple = flow.key)
  backwardRecords : flow.backward.Records
    (packets.filter fun o => o.packet.tuple = flow.key.reversed ∧ o.packet.tuple ≠ flow.key)
  forwardDescribes : (forwardFeatures (flowToFeatures flow)).Describes
    (packets.filter fun o => o.packet.tuple = flow.key)
  backwardDescribes : (backwardFeatures (flowToFeatures flow)).Describes
    (packets.filter fun o => o.packet.tuple = flow.key.reversed ∧ o.packet.tuple ≠ flow.key)
  forward : (forwardFeatures (flowToFeatures flow)).Consistent
    (durationFeature (flowToFeatures flow)) flow.forward.iatUs.count
  backward : (backwardFeatures (flowToFeatures flow)).Consistent
    (durationFeature (flowToFeatures flow)) flow.backward.iatUs.count

variable {packets : List Observation} {flow : Flow ℝ}

/-- The packets of a flow lie between the two times that it keeps. -/
theorem Exact.bounds (h : flow.Exact packets) (hsorted : DirectionStats.Sorted packets) :
    ∀ o ∈ packets, flow.firstSeen ≤ o.time ∧ o.time ≤ flow.lastSeen := by
  obtain ⟨first, hfirst, -, hfirstSeen, -⟩ := h.opening
  obtain ⟨last, hlast, hlastSeen⟩ := h.closing
  intro o ho
  rw [hfirstSeen, hlastSeen]
  constructor
  · obtain ⟨rest, rfl⟩ := List.head?_eq_some_iff.mp hfirst
    rcases List.mem_cons.mp ho with rfl | hrest
    · exact le_rfl
    · exact (List.pairwise_cons.mp hsorted).1 o hrest
  · obtain ⟨earlier, rfl⟩ := List.getLast?_eq_some_iff.mp hlast
    rcases List.mem_append.mp ho with hearlier | hnew
    · exact (List.pairwise_append.mp hsorted).2.2 o hearlier last (List.mem_singleton_self last)
    · rw [List.mem_singleton.mp hnew]

theorem Exact.consistent (h : flow.Exact packets) (hsorted : DirectionStats.Sorted packets) :
    flow.Consistent packets := by
  have hbounds := h.bounds hsorted
  have hle : flow.firstSeen ≤ flow.lastSeen := by
    obtain ⟨first, hfirst, -⟩ := h.opening
    obtain ⟨hstart, hstop⟩ := hbounds first (List.mem_of_mem_head? hfirst)
    exact hstart.trans hstop
  exact {
    forwardRecords := h.forward.records
    backwardRecords := h.backward.records
    forwardDescribes := h.forward.records.describes
    backwardDescribes := h.backward.records.describes
    forward := h.forward.records.consistent (hsorted.filter _)
      (fun o ho => hbounds o (List.mem_of_mem_filter ho)) hle
    backward := h.backward.records.consistent (hsorted.filter _)
      (fun o ho => hbounds o (List.mem_of_mem_filter ho)) hle }

end Flow

namespace FlowManager

/-- **The features of a flow are consistent.** In exact arithmetic, in every run at times that do
not go back, for every stored and every returned flow. -/
theorem features_consistent (c : FlowParams) {start : TimePoint} {calls : List FlowCall}
    (hc : Machine.Chronological FlowCall.reads start calls) :
    (∀ k flow, (Machine.exec (call (F := ℝ) c) .empty calls).flows.lookup k = some flow →
      flow.Consistent (assigned (F := ℝ) c k (Machine.trace (call c) .empty calls))) ∧
    ∀ before e after, calls = before ++ e :: after →
      ∀ ended ∈ ((Machine.exec (call (F := ℝ) c) .empty before).call c e).2.endedFlows,
        ended.flow.Consistent
          (assigned (F := ℝ) c ended.flow.key (Machine.trace (call c) .empty before)) := by
  refine ⟨fun k flow hflow => ?_, fun before e after hcalls ended hended => ?_⟩
  · have ha := attributed_trace (F := ℝ) c calls
    exact (ha.made k flow hflow).exact.consistent (sorted_assigned hc k)
  · have ha := attributed_trace (F := ℝ) c before
    rw [hcalls] at hc
    have hbefore := (Machine.chronological_append.mp hc).1
    exact (ha.made _ _ (ended_stored ha.ok hended).1).exact.consistent (sorted_assigned hbefore _)

/-- A conversation of three packets. -/
def answered : List Observation :=
  [⟨scanPacket 1, .inbound, 0⟩, ⟨scanPacket 1, .inbound, 1500⟩,
    ⟨ParsedPacket.reply (scanPacket 1), .outbound, 4000⟩]

def answeredCalls : List FlowCall := answered.map fun o => .observe o.packet o.direction o.time

theorem features_consistent_answered :
    ∃ flow, (Machine.exec (call (F := ℝ) oneFlow) .empty answeredCalls).flows.lookup
        (scanPacket 1).tuple = some flow ∧ flow.Consistent answered := by
  have hc : Machine.Chronological FlowCall.reads 0 answeredCalls := by decide
  have hassigned : assigned (F := ℝ) oneFlow (scanPacket 1).tuple
      (Machine.trace (call oneFlow) .empty answeredCalls) = answered := rfl
  obtain ⟨flow, hflow⟩ := Option.isSome_iff_exists.mp
    (show ((Machine.exec (call (F := ℝ) oneFlow) .empty answeredCalls).flows.lookup
      (scanPacket 1).tuple).isSome = true from rfl)
  have hconsistent := (features_consistent oneFlow hc).1 _ flow hflow
  rw [hassigned] at hconsistent
  exact ⟨flow, hflow, hconsistent⟩
end FlowManager

end InlineIps
