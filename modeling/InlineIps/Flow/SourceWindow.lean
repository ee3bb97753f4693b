import Mathlib.Algebra.Order.Group.Int
import Mathlib.Algebra.Order.Group.Unbundled.Basic
import Mathlib.Data.Finset.Card
import InlineIps.Library.TumblingWindow
import InlineIps.Flow.History

/-!
# Source statistics and the reference windows

A packet is counted when `observe_packet` passes it on to `update_source_stats`. The
stored statistics of a source are those of the tumbling window of its counted packets,
whenever they are stored; where they are not, that window has ended.

* `countedPackets`: the counted packets of a list of calls, in order.
* `StatsMatch`, `statsMatch_exec`: the invariant and that every run keeps it while sources
  find room.
* `observe_stats`: what a counted packet gets back.
-/

namespace InlineIps.FlowManager

open Library

variable {F : Type} [DoubleOps F] {c : FlowParams} {m : FlowManager F}

/-- The packet of a call, when it is counted. -/
def countedPacket? (c : FlowParams) (m : FlowManager F) (call : FlowCall) : Option Observation :=
  match call with
  | .observe packet direction now =>
    if direction ≠ .unknown ∧ counted direction (m.updateFlow c packet direction now).2 = true then
      some ⟨packet, direction, now⟩
    else none
  | .extract _ => none
  | .discard _ => none
  | .cleanup _ => none

/-- The counted packets of a list of calls. -/
def countedPackets (c : FlowParams) (m : FlowManager F) (calls : List FlowCall) :
    List Observation :=
  (Machine.trace (call c) m calls).filterMap fun taken => countedPacket? c taken.before taken.event

/-- The window of the counted packets of one source. -/
def referenceWindow (c : FlowParams) (packets : List Observation) (ip : UInt32) :
    Option (TumblingWindow TimePoint ParsedPacket) :=
  TumblingWindow.current (seconds c.windowSeconds)
    ((packets.filter fun o => o.packet.tuple.srcIp == ip).map fun o => (o.time, o.packet))

/-- The distinct destination ports of a window. -/
def windowPorts (w : TumblingWindow TimePoint ParsedPacket) : Finset UInt16 :=
  (w.items.map fun packet => packet.tuple.dstPort).toFinset

/-- The number of packets of a window with the SYN flag. -/
def windowSyns (w : TumblingWindow TimePoint ParsedPacket) : Nat :=
  w.items.countP fun packet => hasFlag packet.tcpFlags thSyn

/-- The statistics are those of the window. The counter has 32 bits. -/
structure StatsOf (stats : SourceStats) (w : TumblingWindow TimePoint ParsedPacket) : Prop where
  ports : stats.recentDstPorts = windowPorts w
  syns : stats.synCount = UInt32.ofNat (windowSyns w)
  start : stats.windowStart = w.start

/-- There is room for the source of a counted packet. -/
def RoomForSource (c : FlowParams) (m : FlowManager F) (call : FlowCall) : Prop :=
  ∀ o, countedPacket? c m call = some o → o.packet.tuple.srcIp ∉ m.sourceStats →
    m.sourceStats.size < c.maxSources

instance (c : FlowParams) (m : FlowManager F) (call : FlowCall) :
    Decidable (RoomForSource c m call) :=
  decidable_of_iff (∀ o ∈ (countedPacket? c m call).toList,
    o.packet.tuple.srcIp ∉ m.sourceStats → m.sourceStats.size < c.maxSources)
    (by simp [RoomForSource])

omit [DoubleOps F]

/-! ## Windows -/

theorem referenceWindow_snoc (c : FlowParams) (packets : List Observation) (o : Observation)
    (ip : UInt32) :
    referenceWindow c (packets ++ [o]) ip =
      if o.packet.tuple.srcIp = ip then
        some (.push (seconds c.windowSeconds) (referenceWindow c packets ip) o.time o.packet)
      else referenceWindow c packets ip := by
  unfold referenceWindow
  rw [List.filter_append, List.map_append]
  by_cases h : o.packet.tuple.srcIp = ip
  · rw [if_pos h, ← TumblingWindow.current_snoc]
    simp [h]
  · simp [h]

/-- The statistics of a window that opens with a packet. -/
theorem statsOf_opened (packet : ParsedPacket) (now : TimePoint) :
    StatsOf ((SourceStats.opened now).record packet) ⟨now, [packet]⟩ where
  ports := by simp [SourceStats.record, SourceStats.opened, windowPorts]
  syns := by
    cases h : hasFlag packet.tcpFlags thSyn <;>
      simp [SourceStats.record, SourceStats.opened, windowSyns, countIf, h]
  start := rfl

/-- One more packet of the window. -/
theorem StatsOf.record {stats : SourceStats} {w : TumblingWindow TimePoint ParsedPacket}
    (h : StatsOf stats w) (packet : ParsedPacket) :
    StatsOf (stats.record packet) ⟨w.start, w.items ++ [packet]⟩ where
  ports := by
    have hPorts := h.ports
    unfold windowPorts at hPorts ⊢
    rw [List.map_append, List.toFinset_append, ← hPorts, Finset.union_comm]
    rfl
  syns := by
    have hSyns := h.syns
    unfold windowSyns at hSyns ⊢
    cases hFlag : hasFlag packet.tcpFlags thSyn <;>
      simp [SourceStats.record, countIf, hFlag, hSyns, UInt32.ofNat_add]
  start := h.start

/-- The statistics that a packet is counted in are those of the reference window with it. -/
theorem statsOf_push {stats? : Option SourceStats}
    {w? : Option (TumblingWindow TimePoint ParsedPacket)} {now : TimePoint}
    (hStored : ∀ stats, stats? = some stats → ∃ w, w? = some w ∧ StatsOf stats w)
    (hMissing : stats? = none → ∀ w, w? = some w → w.start + seconds c.windowSeconds ≤ now)
    (packet : ParsedPacket) :
    StatsOf ((currentStats c stats? now).record packet)
      (.push (seconds c.windowSeconds) w? now packet) := by
  unfold currentStats TumblingWindow.push
  cases stats? with
  | none =>
    cases w? with
    | none => exact statsOf_opened packet now
    | some w =>
      dsimp only
      rw [if_pos (hMissing rfl w rfl)]
      exact statsOf_opened packet now
  | some stats =>
    obtain ⟨w, rfl, hStats⟩ := hStored stats rfl
    dsimp only
    by_cases hEnded : w.start + seconds c.windowSeconds ≤ now
    · rw [if_pos hEnded, if_pos (le_sub_iff_add_le'.mpr (by rwa [hStats.start]))]
      exact statsOf_opened packet now
    · rw [if_neg hEnded, if_neg (fun h => hEnded (by rw [← hStats.start]; exact le_sub_iff_add_le'.mp h))]
      exact hStats.record packet

/-! ## The invariant -/

/-- The stored statistics match the reference windows; where none are stored, the window
has ended. -/
structure StatsMatch (c : FlowParams) (clock : TimePoint)
    (sources : Table UInt32 SourceStats) (packets : List Observation) : Prop where
  stored : ∀ ip stats, sources.lookup ip = some stats →
    ∃ w, referenceWindow c packets ip = some w ∧ StatsOf stats w
  missing : ∀ ip, sources.lookup ip = none → ∀ w, referenceWindow c packets ip = some w →
    w.start + seconds c.windowSeconds ≤ clock

theorem StatsMatch.pass {clock later : TimePoint} {sources : Table UInt32 SourceStats}
    {packets : List Observation} (h : StatsMatch c clock sources packets) (hle : clock ≤ later) :
    StatsMatch c later sources packets :=
  { h with missing := fun ip hl w hw => (h.missing ip hl w hw).trans hle }

/-- A packet of one source is counted. -/
theorem StatsMatch.count {clock : TimePoint} {sources : Table UInt32 SourceStats}
    {packets : List Observation} (h : StatsMatch c clock sources packets) (o : Observation)
    (hle : clock ≤ o.time) :
    StatsMatch c o.time
      (sources.assign o.packet.tuple.srcIp
        ((currentStats c (sources.lookup o.packet.tuple.srcIp) o.time).record o.packet))
      (packets ++ [o]) where
  stored := by
    intro ip stats hl
    rw [referenceWindow_snoc]
    rw [Table.lookup_assign] at hl
    by_cases hip : o.packet.tuple.srcIp = ip
    · subst hip
      rw [if_pos rfl] at hl ⊢
      cases hl
      exact ⟨_, rfl, statsOf_push (h.stored _) ((h.pass hle).missing _) o.packet⟩
    · rw [if_neg (Ne.symm hip)] at hl
      rw [if_neg hip]
      exact h.stored ip stats hl
  missing := by
    intro ip hl w hw
    rw [referenceWindow_snoc] at hw
    rw [Table.lookup_assign] at hl
    by_cases hip : o.packet.tuple.srcIp = ip
    · rw [if_pos hip.symm] at hl
      cases hl
    · rw [if_neg (Ne.symm hip)] at hl
      rw [if_neg hip] at hw
      exact (h.pass hle).missing ip hl w hw

/-- A sweep removes statistics of ended windows only. -/
theorem StatsMatch.sweep {clock now : TimePoint} {sources : Table UInt32 SourceStats}
    {packets : List Observation} (h : StatsMatch c clock sources packets) (hle : clock ≤ now)
    (cursor : Nat) :
    StatsMatch c now
      (BucketSweep.sweep c.sourceBuckets (windowEnded c now) (fun _ u => u) sources cursor ()).1
      packets where
  stored := fun ip stats hl => h.stored ip stats (BucketSweep.lookup_of_lookup_sweep hl)
  missing := by
    intro ip hl w hw
    cases hs : sources.lookup ip with
    | none => exact (h.pass hle).missing ip hs w hw
    | some stats =>
      have hEnded : windowEnded c now stats = true := by
        by_contra hNot
        rw [BucketSweep.lookup_sweep_of_not hs (by simpa using hNot)] at hl
        cases hl
      obtain ⟨w', hw', hStats⟩ := h.stored ip stats hs
      rw [hw] at hw'
      cases hw'
      simp only [windowEnded, decide_eq_true_eq, hStats.start] at hEnded
      exact le_sub_iff_add_le'.mp hEnded

theorem statsMatch_empty (c : FlowParams) (clock : TimePoint) : StatsMatch c clock ∅ [] where
  stored := by simp
  missing := by simp [referenceWindow]

/-! ## Calls and runs -/

section Calls

variable [DoubleOps F] {packet : ParsedPacket} {direction : PacketDirection} {now : TimePoint}

theorem updateFlow_sourceStats :
    (m.updateFlow c packet direction now).1.sourceStats = m.sourceStats := by
  rcases updateFlow_cases c m packet direction now with
    ⟨flow, -, hu⟩ | ⟨flow, -, -, hu⟩ | ⟨-, -, -, hu⟩ | ⟨-, -, -, hu⟩ <;> rw [hu] <;> rfl

omit [DoubleOps F] in
/-- Only inbound packets are counted. -/
theorem inbound_of_counted {updated : Option (UpdatedFlow F)}
    (h : counted direction updated = true) : direction = .inbound := by
  unfold counted at h
  split at h <;> simp_all

theorem countedPacket?_observe {o : Observation}
    (h : countedPacket? c m (.observe packet direction now) = some o) :
    direction ≠ .unknown ∧ counted direction (m.updateFlow c packet direction now).2 = true ∧
      o = ⟨packet, direction, now⟩ := by
  unfold countedPacket? at h
  dsimp only at h
  split_ifs at h with hCounted
  cases h
  exact ⟨hCounted.1, hCounted.2, rfl⟩

/-- A counted packet of a source that has room is recorded in the statistics of its source,
and gets them back. -/
theorem observePacket_counted {o : Observation}
    (h : countedPacket? c m (.observe packet direction now) = some o)
    (hRoom : RoomForSource c m (.observe packet direction now)) :
    (m.observePacket c packet direction now).1.sourceStats =
        m.sourceStats.assign packet.tuple.srcIp
          ((currentStats c (m.sourceStats.lookup packet.tuple.srcIp) now).record packet) ∧
      (m.observePacket c packet direction now).2 =
        some ((currentStats c (m.sourceStats.lookup packet.tuple.srcIp) now).record packet) := by
  obtain ⟨hDirection, hCounted, rfl⟩ := countedPacket?_observe h
  have hFits : ¬ (packet.tuple.srcIp ∉ m.sourceStats ∧ c.maxSources ≤ m.sourceStats.size) := by
    rintro ⟨hNew, hFull⟩
    exact absurd (hRoom _ h hNew) (Nat.not_lt.mpr hFull)
  unfold observePacket
  rw [if_neg hDirection]
  dsimp only
  rw [if_pos hCounted]
  unfold updateSourceStats
  dsimp only
  rw [updateFlow_sourceStats, if_neg hFits]
  exact ⟨rfl, rfl⟩

theorem observePacket_notCounted (h : countedPacket? c m (.observe packet direction now) = none) :
    (m.observePacket c packet direction now).1.sourceStats = m.sourceStats ∧
      (m.observePacket c packet direction now).2 = none := by
  unfold countedPacket? at h
  unfold observePacket
  by_cases hDirection : direction = .unknown
  · rw [if_pos hDirection]
    exact ⟨rfl, rfl⟩
  · rw [if_neg hDirection]
    dsimp only at h ⊢
    split_ifs at h with hCounted
    rw [if_neg fun hc => hCounted ⟨hDirection, hc⟩]
    exact ⟨updateFlow_sourceStats, rfl⟩

theorem extractCompleted_sourceStats (key : FiveTuple) :
    (m.extractCompleted key).1.sourceStats = m.sourceStats := by
  rcases extractCompleted_cases m key with ⟨k, flow, reason, -, -, -, he⟩ | ⟨-, he⟩
  · rw [he]
    rfl
  · rw [he]

omit [DoubleOps F] in
theorem discardSourceFlows_sourceStats (srcIp : UInt32) :
    (m.discardSourceFlows srcIp).sourceStats = m.sourceStats := by
  unfold discardSourceFlows
  split <;> rfl

/-- What one call does to the invariant. -/
theorem StatsMatch.call {clock : TimePoint} {packets : List Observation}
    (h : StatsMatch c clock m.sourceStats packets) {e : FlowCall} (hRoom : RoomForSource c m e)
    (hReads : (clock :: e.reads).Pairwise (· ≤ ·)) :
    StatsMatch c (e.reads.getLastD clock) (m.call c e).1.sourceStats
      (packets ++ (countedPacket? c m e).toList) := by
  cases e with
  | observe packet direction now =>
    have hle : clock ≤ now := (List.pairwise_cons.mp hReads).1 now List.mem_cons_self
    change StatsMatch c now (m.observePacket c packet direction now).1.sourceStats _
    cases hCounted : countedPacket? c m (.observe packet direction now) with
    | none =>
      rw [(observePacket_notCounted hCounted).1]
      simpa using h.pass hle
    | some o =>
      obtain ⟨-, -, rfl⟩ := countedPacket?_observe hCounted
      rw [(observePacket_counted hCounted hRoom).1]
      exact h.count ⟨packet, direction, now⟩ hle
  | extract key =>
    change StatsMatch c clock (m.extractCompleted key).1.sourceStats _
    rw [extractCompleted_sourceStats]
    simpa [countedPacket?] using h
  | discard srcIp =>
    change StatsMatch c clock (m.discardSourceFlows srcIp).sourceStats _
    rw [discardSourceFlows_sourceStats]
    simpa [countedPacket?] using h
  | cleanup now =>
    have hle : clock ≤ now := (List.pairwise_cons.mp hReads).1 now List.mem_cons_self
    have hSwept := h.sweep hle m.sourceCursor
    change StatsMatch c now (BucketSweep.sweep c.sourceBuckets (windowEnded c now) (fun _ u => u)
      m.sourceStats m.sourceCursor ()).1 _
    simpa [countedPacket?] using hSwept

/-- Every run in which sources find room keeps the invariant. -/
theorem statsMatch_exec {start : TimePoint} {calls : List FlowCall}
    (hc : Machine.Chronological FlowCall.reads start calls)
    (hRoom : Machine.Along (FlowManager.call (F := F) c) (RoomForSource c) .empty calls) :
    StatsMatch c (Machine.finish FlowCall.reads start calls)
      (Machine.exec (FlowManager.call (F := F) c) .empty calls).sourceStats
      (countedPackets c (.empty : FlowManager F) calls) := by
  have hRun := Machine.invariant_of_step (FlowManager.call (F := F) c) FlowCall.reads
    (RoomForSource c)
    (fun clock m taken => StatsMatch c clock m.sourceStats
      (taken.filterMap fun x => countedPacket? c x.before x.event))
    (h := []) (s := .empty) (c := start) ?_ (statsMatch_empty c start) hRoom hc
  · simpa [countedPackets] using hRun
  intro clock m taken e hI hRoom hReads
  have hNext := hI.call hRoom hReads
  have hLast : ([⟨m, e, (FlowManager.call c m e).2⟩] : List (Machine.Taken _ _ _)).filterMap
      (fun x => countedPacket? c x.before x.event) = (countedPacket? c m e).toList := by
    cases hCounted : countedPacket? c m e <;> simp [hCounted]
  rwa [List.filterMap_append, hLast]

end Calls

end InlineIps.FlowManager
