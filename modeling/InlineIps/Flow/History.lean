import InlineIps.Flow.FlowTable

/-!
# What a flow was made of

A stored flow is the result of recording, in order, the packets it was made of.

* `Flow.replay`: the flow that a first observation and the following ones make.
* `observePacket_lookup`: how observing a packet changes a stored flow.
* `Assembled`: a flow is the replay of observations of a log, in the order of the log.
-/

namespace InlineIps

open Library

/-- A packet that was observed. -/
structure Observation where
  packet : ParsedPacket
  direction : PacketDirection
  time : TimePoint
  deriving DecidableEq

namespace Flow

variable {F : Type} [DoubleOps F]

/-- The flow that an observation opens. -/
def begin (o : Observation) : Flow F :=
  (Flow.opened o.packet o.direction o.time).record true o.packet o.time

/-- The flow after one more observation. It is a forward one when its tuple is the key. -/
def observe (flow : Flow F) (o : Observation) : Flow F :=
  flow.record (decide (o.packet.tuple = flow.key)) o.packet o.time

/-- The flow that a first observation and the following ones make. -/
def replay (first : Observation) (rest : List Observation) : Flow F :=
  rest.foldl observe (begin first)

/-- The number of packets of a flow. -/
def packetCount (flow : Flow F) : Nat := flow.forward.payloadLen.count + flow.backward.payloadLen.count

theorem replay_snoc (first : Observation) (rest : List Observation) (o : Observation) :
    (replay first (rest ++ [o]) : Flow F) = (replay first rest).observe o := by
  simp [replay]

@[simp] theorem replay_key (first : Observation) (rest : List Observation) :
    (replay first rest : Flow F).key = first.packet.tuple := by
  induction rest using List.reverseRecOn with
  | nil => rfl
  | append_singleton rest o ih =>
    rw [replay_snoc]
    exact ih

@[simp] theorem replay_firstSeen (first : Observation) (rest : List Observation) :
    (replay first rest : Flow F).firstSeen = first.time := by
  induction rest using List.reverseRecOn with
  | nil => rfl
  | append_singleton rest o ih =>
    rw [replay_snoc]
    exact ih

@[simp] theorem replay_origin (first : Observation) (rest : List Observation) :
    (replay first rest : Flow F).origin =
      if first.direction = .outbound then .localInitiated else .remoteInitiated := by
  induction rest using List.reverseRecOn with
  | nil => rfl
  | append_singleton rest o ih =>
    rw [replay_snoc]
    exact ih

@[simp] theorem replay_lastSeen (first : Observation) (rest : List Observation) :
    (replay first rest : Flow F).lastSeen = ((first :: rest).getLast (by simp)).time := by
  induction rest using List.reverseRecOn with
  | nil => rfl
  | append_singleton rest o ih =>
    rw [replay_snoc]
    simp [observe, record]

theorem packetCount_record (flow : Flow F) (isForward : Bool) (packet : ParsedPacket)
    (now : TimePoint) : (flow.record isForward packet now).packetCount = flow.packetCount + 1 := by
  cases isForward <;>
    simp [packetCount, record, DirectionStats.record, RunningStats.add] <;> omega

/-- Every observation counts once. -/
theorem packetCount_replay (first : Observation) (rest : List Observation) :
    (replay first rest : Flow F).packetCount = (first :: rest).length := by
  induction rest using List.reverseRecOn with
  | nil => exact packetCount_record _ _ _ _
  | append_singleton rest o ih =>
    rw [replay_snoc, observe, packetCount_record, ih]
    simp

end Flow

namespace FlowManager

variable {F : Type}

/-- The observation of a call. -/
def FlowCall.observation? : FlowCall → Option Observation
  | .observe packet direction now => some ⟨packet, direction, now⟩
  | .extract _ => none
  | .discard _ => none
  | .cleanup _ => none

/-- The observations among calls, in order. -/
def observations (calls : List FlowCall) : List Observation :=
  calls.filterMap FlowCall.observation?

section Observe

variable [DoubleOps F] {c : FlowParams} {m : FlowManager F} {packet : ParsedPacket}
  {direction : PacketDirection} {now : TimePoint}

/-- A flow that is stored after a packet was observed was stored before, with or without the
packet, or was opened by it. -/
theorem observePacket_lookup (h : m.Ok) (hDirection : direction ≠ .unknown) {k : FiveTuple}
    {flow : Flow F} (hl : (m.observePacket c packet direction now).1.flows.lookup k = some flow) :
    m.flows.lookup k = some flow ∨
      (∃ old, m.flows.lookup k = some old ∧ flow = old.observe ⟨packet, direction, now⟩) ∨
      (k = packet.tuple ∧ packet.tuple ∉ m.flows ∧ packet.tuple.reversed ∉ m.flows ∧
        flow = Flow.begin ⟨packet, direction, now⟩) := by
  rw [(observePacket_flows c m packet hDirection now).1] at hl
  rcases updateFlow_cases c m packet direction now with
    ⟨old, hf, hu⟩ | ⟨old, hn, hr, hu⟩ | ⟨hn, hr, -, hu⟩ | ⟨-, -, -, hu⟩ <;> rw [hu] at hl
  · have hkey : old.key = packet.tuple := TableOk.key_eq h _ old hf
    simp only [storeFlow, Table.lookup_assign] at hl
    split at hl
    · subst k
      cases hl
      exact Or.inr (Or.inl ⟨old, hf, by simp [Flow.observe, hkey]⟩)
    · exact Or.inl hl
  · have hkey : old.key = packet.tuple.reversed := TableOk.key_eq h _ old hr
    have hne : packet.tuple ≠ packet.tuple.reversed := by
      intro heq
      rw [← heq, hn] at hr
      cases hr
    simp only [storeFlow, Table.lookup_assign] at hl
    split at hl
    · subst k
      cases hl
      exact Or.inr (Or.inl ⟨old, hr, by simp [Flow.observe, hkey, hne]⟩)
    · exact Or.inl hl
  · simp only [openFlow, Table.lookup_assign] at hl
    split at hl
    · subst k
      cases hl
      exact Or.inr (Or.inr
        ⟨rfl, AList.lookup_eq_none.mp hn, AList.lookup_eq_none.mp hr, rfl⟩)
    · exact Or.inl hl
  · exact Or.inl hl

end Observe

/-! ## Removing calls change no stored flow -/

theorem extractCompleted_lookup [DoubleOps F] {m : FlowManager F} {key k : FiveTuple}
    {flow : Flow F} (hl : (m.extractCompleted key).1.flows.lookup k = some flow) :
    m.flows.lookup k = some flow := by
  rcases extractCompleted_cases m key with ⟨k', old, reason, -, -, -, he⟩ | ⟨-, he⟩ <;>
    rw [he] at hl
  · exact (Table.lookup_erase_eq_some.mp hl).2
  · exact hl

theorem extractCompleted_ended [DoubleOps F] {m : FlowManager F} {key : FiveTuple}
    {ended : EndedFlow F} (he : (m.extractCompleted key).2 = some ended) :
    ∃ k, m.flows.lookup k = some ended.flow := by
  rcases extractCompleted_cases m key with ⟨k, old, reason, -, hf, -, h⟩ | ⟨-, h⟩ <;> rw [h] at he
  · cases he
    exact ⟨k, hf⟩
  · cases he

/-- Exactly the flows of other sources stay. -/
theorem discardSourceFlows_lookup {m : FlowManager F} (h : m.Ok) {srcIp : UInt32} {k : FiveTuple}
    {flow : Flow F} : (m.discardSourceFlows srcIp).flows.lookup k = some flow ↔
      m.flows.lookup k = some flow ∧ k.srcIp ≠ srcIp := by
  have hmem := TableOk.mem_indexed h srcIp
  unfold discardSourceFlows
  split
  · rename_i hnone
    constructor
    · intro hl
      refine ⟨hl, fun hip => ?_⟩
      have hin := (hmem k).mpr ⟨hip, Table.mem_of_lookup hl⟩
      simp [indexed, hnone] at hin
    · exact fun hl => hl.1
  · rename_i keys hkeys
    rw [Table.lookup_filter_eq_some]
    refine and_congr_right fun hl => ?_
    have hk := hmem k
    rw [show indexed m.flowKeysBySource srcIp = keys by simp [indexed, hkeys]] at hk
    simp only [decide_eq_true_eq, hk, Table.mem_of_lookup hl, and_true, ne_eq]

theorem discardSourceFlows_eq {m : FlowManager F} (h : m.Ok) (srcIp : UInt32) (k : FiveTuple) :
    (m.discardSourceFlows srcIp).flows.lookup k =
      if k.srcIp = srcIp then none else m.flows.lookup k := by
  apply Option.ext
  intro flow
  rw [discardSourceFlows_lookup h]
  by_cases hip : k.srcIp = srcIp <;> simp [hip]

theorem cleanupExpired_lookup {c : FlowParams} {m : FlowManager F} {now : TimePoint}
    {k : FiveTuple} {flow : Flow F}
    (hl : (m.cleanupExpired c now).1.flows.lookup k = some flow) :
    m.flows.lookup k = some flow :=
  BucketSweep.lookup_of_lookup_sweep hl

/-- A flow that a cleanup returns was stored, and its time was over. -/
theorem cleanupExpired_ended {c : FlowParams} {m : FlowManager F} {now : TimePoint}
    {ended : EndedFlow F} (he : ended ∈ (m.cleanupExpired c now).2) :
    (∃ k, m.flows.lookup k = some ended.flow) ∧ flowExpired now ended.flow = true := by
  have hswept := BucketSweep.sweep_induction c.flowBuckets (flowExpired now) expireFlow m.flows
    m.flowCursor (m.flowKeysBySource, [])
    (I := fun t acc => (∀ k flow, t.lookup k = some flow → m.flows.lookup k = some flow) ∧
      ∀ ended ∈ acc.2, (∃ k, m.flows.lookup k = some ended.flow) ∧
        flowExpired now ended.flow = true)
    ⟨fun _ _ hl => hl, by simp⟩ (by
      rintro t acc k flow hk hexp ⟨hsub, hacc⟩
      refine ⟨fun k' flow' hl => hsub k' flow' (Table.lookup_erase_eq_some.mp hl).2, ?_⟩
      intro ended hended
      rcases List.mem_append.mp hended with hmem | hmem
      · exact hacc ended hmem
      · rw [List.mem_singleton.mp hmem]
        exact ⟨⟨k, hsub k flow hk⟩, hexp⟩)
  exact hswept.2 ended he

/-! ## Flows as replays -/

/-- The flow is the replay of observations of the log, in order, all of which satisfy `P`. -/
def Assembled [DoubleOps F] (log : List Observation) (P : Observation → Prop) (flow : Flow F) :
    Prop :=
  ∃ first rest, Flow.replay first rest = flow ∧ (first :: rest).Sublist log ∧
    ∀ o ∈ first :: rest, P o

section Assembled

variable [DoubleOps F] {log : List Observation} {P : Observation → Prop} {flow : Flow F}

theorem Assembled.mono {log' : List Observation} {Q : Observation → Prop}
    (h : Assembled log P flow) (hlog : log.Sublist log') (hPQ : ∀ o, P o → Q o) :
    Assembled log' Q flow := by
  obtain ⟨first, rest, hreplay, hsub, hP⟩ := h
  exact ⟨first, rest, hreplay, hsub.trans hlog, fun o ho => hPQ o (hP o ho)⟩

/-- One more observation of the flow. -/
theorem Assembled.observe (h : Assembled log P flow) {o : Observation} (ho : P o) :
    Assembled (log ++ [o]) P (flow.observe o) := by
  obtain ⟨first, rest, rfl, hsub, hP⟩ := h
  refine ⟨first, rest ++ [o], Flow.replay_snoc first rest o, hsub.append (List.Sublist.refl _), ?_⟩
  intro o' ho'
  rw [← List.cons_append, List.mem_append, List.mem_singleton] at ho'
  rcases ho' with hmem | rfl
  · exact hP o' hmem
  · exact ho

theorem assembled_begin (log : List Observation) {o : Observation} (ho : P o) :
    Assembled (F := F) (log ++ [o]) P (Flow.begin o) :=
  ⟨o, [], rfl, List.sublist_append_right _ _, by simpa using ho⟩

end Assembled

end FlowManager

end InlineIps
