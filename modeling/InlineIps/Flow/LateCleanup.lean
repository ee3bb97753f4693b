import InlineIps.Flow.Cap

/-!
# Late cleanup

The same observe and extract calls, with cleanups inserted in different places. A flow that
has timed out but was not swept yet is still found by the next packet of its conversation,
and then decides who is seen as the initiator; so the results can depend on the cleanups.

* `cleanup_changesResult`: a run in which they do.
* `Lag`: how a run with cleanups relates to the run without any. Flows and statistics that
  are missing have timed out, the others are alike.
* `cleanup_keepsResults`: while a packet that meets a timed-out flow continues it the way it
  would open a new one, cleanups do not change any result.
-/

namespace InlineIps

open Library

namespace Flow

variable {F : Type}

/-- No FIN and no RST was counted. -/
structure Unmarked (flow : Flow F) : Prop where
  forwardFin : flow.forward.fin = 0
  backwardFin : flow.backward.fin = 0
  forwardRst : flow.forward.rst = 0
  backwardRst : flow.backward.rst = 0
  complete : flow.finHandshakeComplete = false

/-- A packet continues a flow the way it would open a new one. -/
structure Resumes (flow : Flow F) (packet : ParsedPacket) (direction : PacketDirection) : Prop where
  inbound : direction = .inbound → flow.key = packet.tuple ∧ flow.origin = .remoteInitiated
  outbound : direction = .outbound → flow.origin = .localInitiated
  unmarked : flow.Unmarked

/-- Two flows of a conversation that are counted and end alike. Locally initiated ones may
be stored in opposite directions. -/
structure Like (flow flow' : Flow F) : Prop where
  origin : flow'.origin = flow.origin
  lastSeen : flow'.lastSeen = flow.lastSeen
  complete : flow'.finHandshakeComplete = flow.finHandshakeComplete
  sides :
    (flow'.key = flow.key ∧
      flow'.forward.fin = flow.forward.fin ∧ flow'.backward.fin = flow.backward.fin ∧
      flow'.forward.rst = flow.forward.rst ∧ flow'.backward.rst = flow.backward.rst) ∨
    (flow.origin = .localInitiated ∧ flow'.key = flow.key.reversed ∧
      flow.key.reversed ≠ flow.key ∧
      flow'.forward.fin = flow.backward.fin ∧ flow'.backward.fin = flow.forward.fin ∧
      flow'.forward.rst = flow.backward.rst ∧ flow'.backward.rst = flow.forward.rst)

theorem Like.refl (flow : Flow F) : Like flow flow :=
  ⟨rfl, rfl, rfl, Or.inl ⟨rfl, rfl, rfl, rfl, rfl⟩⟩

theorem Like.endReason? {flow flow' : Flow F} (h : Like flow flow') :
    flow'.endReason? = flow.endReason? := by
  unfold Flow.endReason?
  rcases h.sides with ⟨-, -, -, hf, hb⟩ | ⟨-, -, -, -, -, hf, hb⟩
  · rw [hf, hb, h.complete]
  · rw [hf, hb, h.complete, Bool.or_comm]

/-- Alike flows are counted alike. -/
theorem Like.counted_iff {flow flow' : Flow F} (h : Like flow flow') (k : FiveTuple) :
    flow'.key = k ∧ flow'.origin = .remoteInitiated ↔
      flow.key = k ∧ flow.origin = .remoteInitiated := by
  rw [h.origin]
  rcases h.sides with ⟨hKey, -⟩ | ⟨hLocal, -⟩
  · rw [hKey]
  · simp [hLocal]

variable [DoubleOps F]

/-- The marks of a flow after one more packet. -/
theorem observe_marks (flow : Flow F) (o : Observation) :
    (flow.observe o).forward.fin = (if o.packet.tuple = flow.key then
        countIf flow.forward.fin (hasFlag o.packet.tcpFlags thFin) else flow.forward.fin) ∧
      (flow.observe o).backward.fin = (if o.packet.tuple = flow.key then flow.backward.fin
        else countIf flow.backward.fin (hasFlag o.packet.tcpFlags thFin)) ∧
      (flow.observe o).forward.rst = (if o.packet.tuple = flow.key then
        countIf flow.forward.rst (hasFlag o.packet.tcpFlags thRst) else flow.forward.rst) ∧
      (flow.observe o).backward.rst = (if o.packet.tuple = flow.key then flow.backward.rst
        else countIf flow.backward.rst (hasFlag o.packet.tcpFlags thRst)) := by
  unfold observe record
  by_cases h : o.packet.tuple = flow.key <;> simp [h, DirectionStats.record]

theorem observe_complete (flow : Flow F) (o : Observation) :
    (flow.observe o).finHandshakeComplete = (flow.finHandshakeComplete ||
      (decide (0 < flow.forward.fin) && decide (0 < flow.backward.fin) &&
        hasFlag o.packet.tcpFlags thAck && !hasFlag o.packet.tcpFlags thFin)) := rfl

/-- One more packet of the conversation. -/
theorem Like.observe {flow flow' : Flow F} (h : Like flow flow') {o : Observation}
    (hSame : SameConversation flow.key o.packet.tuple) :
    Like (flow.observe o) (flow'.observe o) := by
  obtain ⟨hff, hbf, hfr, hbr⟩ := observe_marks flow o
  obtain ⟨hff', hbf', hfr', hbr'⟩ := observe_marks flow' o
  refine ⟨h.origin, rfl, ?_, ?_⟩
  · rw [observe_complete, observe_complete, h.complete]
    rcases h.sides with ⟨-, hf, hb, -⟩ | ⟨-, -, -, hf, hb, -⟩
    · rw [hf, hb]
    · rw [hf, hb, Bool.and_comm (decide (0 < flow.backward.fin))]
  · rw [hff, hbf, hfr, hbr, hff', hbf', hfr', hbr']
    rcases h.sides with ⟨hKey, hf, hb, hr, hr'⟩ | ⟨hLocal, hKey, hNe, hf, hb, hr, hr'⟩
    · refine Or.inl ⟨hKey, ?_⟩
      rw [hKey, hf, hb, hr, hr']
      exact ⟨rfl, rfl, rfl, rfl⟩
    · -- The packet is forward in one of the two flows and backward in the other.
      refine Or.inr ⟨hLocal, hKey, hNe, ?_⟩
      rw [hKey, hf, hb, hr, hr']
      rcases hSame with hTuple | hTuple
      · rw [hTuple, if_neg (Ne.symm hNe), if_neg (Ne.symm hNe), if_neg (Ne.symm hNe),
          if_neg (Ne.symm hNe)]
        simp
      · rw [hTuple, if_neg hNe, if_neg hNe, if_neg hNe, if_neg hNe]
        simp

/-- A packet that resumes a flow leaves it like the flow that it would open. -/
theorem Resumes.like {flow : Flow F} {o : Observation} (h : Resumes flow o.packet o.direction)
    (hDirection : o.direction ≠ .unknown) (hSame : SameConversation flow.key o.packet.tuple) :
    Like (flow.observe o) (Flow.begin o) := by
  obtain ⟨hff, hbf, hfr, hbr⟩ := observe_marks flow o
  have hMarks := h.unmarked
  have hComplete : (Flow.begin o : Flow F).finHandshakeComplete =
      (flow.observe o).finHandshakeComplete := by
    rw [observe_complete, hMarks.complete, hMarks.forwardFin, hMarks.backwardFin]
    rfl
  have hOrigin : (Flow.begin o : Flow F).origin = flow.origin := by
    cases hd : o.direction with
    | inbound => simp [Flow.begin, hd, (h.inbound hd).2]
    | outbound => simp [Flow.begin, hd, h.outbound hd]
    | unknown => exact absurd hd hDirection
  refine ⟨hOrigin, rfl, hComplete, ?_⟩
  rw [hff, hbf, hfr, hbr, hMarks.forwardFin, hMarks.backwardFin, hMarks.forwardRst,
    hMarks.backwardRst]
  by_cases hTuple : o.packet.tuple = flow.key
  · refine Or.inl ⟨hTuple, ?_⟩
    rw [if_pos hTuple, if_pos hTuple, if_pos hTuple, if_pos hTuple]
    exact ⟨rfl, rfl, rfl, rfl⟩
  · -- The packet runs against the flow, so it is outbound and the flow a local one.
    have hRev : o.packet.tuple = flow.key.reversed := hSame.resolve_left hTuple
    have hOut : o.direction = .outbound := by
      cases hd : o.direction with
      | inbound => exact absurd (h.inbound hd).1.symm hTuple
      | outbound => rfl
      | unknown => exact absurd hd hDirection
    refine Or.inr ⟨h.outbound hOut, hRev, fun hNe => hTuple (hRev.trans hNe), ?_⟩
    rw [if_neg hTuple, if_neg hTuple, if_neg hTuple, if_neg hTuple]
    exact ⟨rfl, rfl, rfl, rfl⟩

end Flow

namespace FlowManager

variable {F : Type} [DoubleOps F] {c : FlowParams} {room : Nat}

/-! ## Runs with and without cleanups -/

def FlowCall.isCleanup : FlowCall → Bool
  | .cleanup _ => true
  | _ => false

/-- The same calls without the cleanups. -/
def withoutCleanups (calls : List FlowCall) : List FlowCall :=
  calls.filter fun e => !e.isCleanup

/-- The same manager with room for `room` flows and sources. -/
def roomy (c : FlowParams) (room : Nat) : FlowParams :=
  { c with maxFlows := room, maxSources := room }

/-- What the observe calls of a run return, in order. -/
def observeResults (c : FlowParams) (m : FlowManager F) (calls : List FlowCall) :
    List (Option SourceStats) :=
  (Machine.trace (call c) m calls).filterMap fun taken =>
    match taken.event, taken.output with
    | .observe .., .stats result => some result
    | _, _ => none

/-- Neither table is full. -/
def NeverFull (c : FlowParams) (m : FlowManager F) (_ : FlowCall) : Prop :=
  m.flows.size < c.maxFlows ∧ m.sourceStats.size < c.maxSources

instance (c : FlowParams) (m : FlowManager F) (e : FlowCall) : Decidable (NeverFull c m e) :=
  inferInstanceAs (Decidable (_ ∧ _))

/-- A packet that meets a flow whose time is over resumes it. -/
def ResumesExpired (m : FlowManager F) : FlowCall → Prop
  | .observe packet direction now => ∀ flow, m.getFlow packet.tuple = some flow →
      flowExpired now flow = true → flow.Resumes packet direction
  | _ => True

omit [DoubleOps F] in
theorem NeverFull.roomForSource [DoubleOps F] {m : FlowManager F} {e : FlowCall}
    (h : NeverFull c m e) : RoomForSource c m e := fun _ _ _ => h.2

/-! ## The lag -/

/-- The flow of a conversation without cleanups and with them. -/
inductive FlowLag (clock : TimePoint) : Option (Flow F) → Option (Flow F) → Prop
  | missing : FlowLag clock none none
  | like (flow flow') (h : flow.Like flow') : FlowLag clock (some flow) (some flow')
  | expired (flow) (h : flowExpired clock flow = true) : FlowLag clock (some flow) none

omit [DoubleOps F] in
theorem flowExpired_mono {clock later : TimePoint} (hle : clock ≤ later) {flow : Flow F}
    (h : flowExpired clock flow = true) : flowExpired later flow = true := by
  simp only [flowExpired, decide_eq_true_eq] at h ⊢
  exact h.trans (Int.sub_le_sub_right hle _)

theorem windowEnded_mono {clock later : TimePoint} (hle : clock ≤ later) {stats : SourceStats}
    (h : windowEnded c clock stats = true) : windowEnded c later stats = true := by
  simp only [windowEnded, decide_eq_true_eq] at h ⊢
  exact h.trans (Int.sub_le_sub_right hle _)

omit [DoubleOps F] in
theorem FlowLag.pass {clock later : TimePoint} (hle : clock ≤ later) {f f' : Option (Flow F)}
    (h : FlowLag clock f f') : FlowLag later f f' := by
  cases h with
  | missing => exact .missing
  | like flow flow' h => exact .like flow flow' h
  | expired flow h => exact .expired flow (flowExpired_mono hle h)

/-- `m₀` has made the calls without the cleanups, `m` with them. -/
structure Lag (c : FlowParams) (clock : TimePoint) (m₀ m : FlowManager F) : Prop where
  plain : m₀.Ok
  swept : m.Ok
  flows : ∀ k, FlowLag clock (m₀.getFlow k) (m.getFlow k)
  stored : ∀ ip stats, m.sourceStats.lookup ip = some stats →
    m₀.sourceStats.lookup ip = some stats
  missing : ∀ ip stats, m.sourceStats.lookup ip = none → m₀.sourceStats.lookup ip = some stats →
    windowEnded c clock stats = true

omit [DoubleOps F] in
theorem Lag.pass {clock later : TimePoint} (hle : clock ≤ later) {m₀ m : FlowManager F}
    (h : Lag c clock m₀ m) : Lag c later m₀ m :=
  { h with
    flows := fun k => (h.flows k).pass hle
    missing := fun ip stats hl hl₀ => windowEnded_mono hle (h.missing ip stats hl hl₀) }

omit [DoubleOps F] in
theorem lag_empty (c : FlowParams) (clock : TimePoint) :
    Lag c clock (.empty : FlowManager F) .empty where
  plain := ok_empty
  swept := ok_empty
  flows := fun _ => .missing
  stored := fun _ _ h => h
  missing := fun _ _ _ h => by cases h

omit [DoubleOps F] in
/-- A cleanup in one of the runs only. -/
theorem Lag.cleanup {clock now : TimePoint} {m₀ m : FlowManager F} (h : Lag c clock m₀ m)
    (hle : clock ≤ now) : Lag c now m₀ (m.cleanupExpired c now).1 where
  plain := h.plain
  swept := ok_cleanupExpired h.swept
  flows := by
    intro k
    have hk := (h.flows k).pass hle
    rcases getFlow_cleanupExpired h.swept c now k with hEq | ⟨hNone, flow', hg, hExpired⟩
    · rwa [hEq]
    · rw [hNone]
      rw [hg] at hk
      cases hl : m₀.getFlow k with
      | none => exact .missing
      | some flow =>
        rw [hl] at hk
        cases hk with
        | like _ _ hLike =>
          refine .expired flow ?_
          simpa only [flowExpired, hLike.lastSeen] using hExpired
  stored := fun ip stats hl => h.stored ip stats (BucketSweep.lookup_of_lookup_sweep hl)
  missing := by
    intro ip stats hl hl₀
    cases hs : m.sourceStats.lookup ip with
    | none => exact windowEnded_mono hle (h.missing ip stats hs hl₀)
    | some stats' =>
      have hSame := h.stored ip stats' hs
      rw [hl₀] at hSame
      cases hSame
      by_contra hNot
      have hStays : (m.cleanupExpired c now).1.sourceStats.lookup ip = some stats :=
        BucketSweep.lookup_sweep_of_not hs (by simpa using hNot)
      rw [hl] at hStays
      cases hStays

/-- An extraction in both runs. -/
theorem Lag.extract {clock : TimePoint} {m₀ m : FlowManager F} (h : Lag c clock m₀ m)
    (key : FiveTuple) : Lag c clock (m₀.extractCompleted key).1 (m.extractCompleted key).1 where
  plain := ok_extractCompleted h.plain key
  swept := ok_extractCompleted h.swept key
  flows := by
    intro k
    rw [getFlow_extractCompleted h.plain, getFlow_extractCompleted h.swept]
    by_cases hSame : SameConversation key k
    · rw [getFlow_congr h.plain hSame, getFlow_congr h.swept hSame]
      have hk := h.flows key
      cases hl : m₀.getFlow key with
      | none =>
        cases hl' : m.getFlow key with
        | none => simpa using FlowLag.missing
        | some flow' =>
          rw [hl, hl'] at hk
          cases hk
      | some flow =>
        cases hl' : m.getFlow key with
        | none =>
          rw [hl, hl'] at hk
          cases hk with
          | expired _ hExpired =>
            by_cases hEnd : flow.endReason?.isSome = true
            · simpa [hSame, hEnd] using FlowLag.missing
            · simpa [hSame, hEnd] using FlowLag.expired flow hExpired
        | some flow' =>
          rw [hl, hl'] at hk
          cases hk with
          | like _ _ hLike =>
            by_cases hEnd : flow.endReason?.isSome = true
            · simpa [hSame, hLike.endReason?, hEnd] using FlowLag.missing
            · simpa [hSame, hLike.endReason?, hEnd] using FlowLag.like flow flow' hLike
    · rw [if_neg fun hBoth => hSame hBoth.1, if_neg fun hBoth => hSame hBoth.1]
      exact h.flows k
  stored := by
    rw [extractCompleted_sourceStats, extractCompleted_sourceStats]
    exact h.stored
  missing := by
    rw [extractCompleted_sourceStats, extractCompleted_sourceStats]
    exact h.missing

/-! ### Observing in both runs -/

section Observe

variable {clock now : TimePoint} {m₀ m : FlowManager F} {packet : ParsedPacket}
  {direction : PacketDirection}

theorem Lag.observedFlow (h : Lag c clock m₀ m) (hle : clock ≤ now)
    (hDirection : direction ≠ .unknown) (hFull : m.flows.size < c.maxFlows)
    (hFull₀ : m₀.flows.size < (roomy c room).maxFlows)
    (hResumes : ResumesExpired m₀ (.observe packet direction now)) :
    FlowLag now (observedFlow (roomy c room) m₀ ⟨packet, direction, now⟩)
      (observedFlow c m ⟨packet, direction, now⟩) := by
  have hk := (h.flows packet.tuple).pass hle
  unfold FlowManager.observedFlow
  cases hl : m₀.getFlow packet.tuple with
  | none =>
    cases hl' : m.getFlow packet.tuple with
    | none =>
      dsimp only
      rw [if_pos hFull₀, if_pos hFull]
      exact .like _ _ (.refl _)
    | some flow' =>
      rw [hl, hl'] at hk
      cases hk
  | some flow =>
    have hSame : SameConversation flow.key packet.tuple := (lookup_of_getFlow h.plain hl).1.symm
    cases hl' : m.getFlow packet.tuple with
    | none =>
      rw [hl, hl'] at hk
      cases hk with
      | expired _ hExpired =>
        dsimp only
        rw [if_pos hFull]
        exact .like _ _ ((hResumes flow hl hExpired).like (o := ⟨packet, direction, now⟩)
          hDirection hSame)
    | some flow' =>
      rw [hl, hl'] at hk
      cases hk with
      | like _ _ hLike => exact .like _ _ (hLike.observe hSame)

/-- A packet is counted in both runs or in none. -/
theorem Lag.counted_iff (h : Lag c clock m₀ m) (hle : clock ≤ now)
    (hResumes : ResumesExpired m₀ (.observe packet direction now)) :
    counted direction (m.updateFlow c packet direction now).2 = true ↔
      counted direction (m₀.updateFlow (roomy c room) packet direction now).2 = true := by
  have hk := (h.flows packet.tuple).pass hle
  rw [counted_updateFlow h.plain, counted_updateFlow h.swept]
  refine and_congr_right fun hIn => ?_
  cases hl : m₀.getFlow packet.tuple with
  | none =>
    cases hl' : m.getFlow packet.tuple with
    | none => simp
    | some flow' =>
      rw [hl, hl'] at hk
      cases hk
  | some flow =>
    cases hl' : m.getFlow packet.tuple with
    | none =>
      rw [hl, hl'] at hk
      cases hk with
      | expired _ hExpired => simp [(hResumes flow hl hExpired).inbound hIn]
    | some flow' =>
      rw [hl, hl'] at hk
      cases hk with
      | like _ _ hLike => simpa using hLike.counted_iff packet.tuple

omit [DoubleOps F] in
/-- Counted packets are counted in the same statistics. -/
theorem Lag.currentStats (h : Lag c clock m₀ m) (hle : clock ≤ now) (ip : UInt32) :
    currentStats c (m.sourceStats.lookup ip) now =
      FlowManager.currentStats (roomy c room) (m₀.sourceStats.lookup ip) now := by
  unfold FlowManager.currentStats
  cases hl : m.sourceStats.lookup ip with
  | some stats =>
    rw [h.stored ip stats hl]
    rfl
  | none =>
    cases hl₀ : m₀.sourceStats.lookup ip with
    | none => rfl
    | some stats =>
      have hEnded := windowEnded_mono hle (h.missing ip stats hl hl₀)
      simp only [windowEnded, decide_eq_true_eq] at hEnded
      exact (if_pos hEnded).symm

theorem Lag.observe (h : Lag c clock m₀ m) (hle : clock ≤ now)
    (hFull : NeverFull c m (.observe packet direction now))
    (hFull₀ : NeverFull (roomy c room) m₀ (.observe packet direction now))
    (hResumes : ResumesExpired m₀ (.observe packet direction now)) :
    Lag c now (m₀.observePacket (roomy c room) packet direction now).1
        (m.observePacket c packet direction now).1 ∧
      (m.observePacket c packet direction now).2 =
        (m₀.observePacket (roomy c room) packet direction now).2 := by
  by_cases hDirection : direction = .unknown
  · simp only [observePacket, hDirection, if_true]
    exact ⟨h.pass hle, trivial⟩
  have hFlows : ∀ k, FlowLag now
      ((m₀.observePacket (roomy c room) packet direction now).1.getFlow k)
      ((m.observePacket c packet direction now).1.getFlow k) := by
    intro k
    rw [getFlow_observePacket h.plain hDirection, getFlow_observePacket h.swept hDirection]
    split_ifs
    · exact h.observedFlow hle hDirection hFull.1 hFull₀.1 hResumes
    · exact (h.flows k).pass hle
  have hIff : counted direction (m.updateFlow c packet direction now).2 = true ↔
      counted direction (m₀.updateFlow (roomy c room) packet direction now).2 = true :=
    h.counted_iff hle hResumes
  by_cases hCounted : counted direction (m.updateFlow c packet direction now).2 = true
  · have hSome : countedPacket? c m (.observe packet direction now) =
        some ⟨packet, direction, now⟩ := by
      unfold countedPacket?
      exact if_pos ⟨hDirection, hCounted⟩
    have hSome₀ : countedPacket? (roomy c room) m₀ (.observe packet direction now) =
        some ⟨packet, direction, now⟩ := by
      unfold countedPacket?
      exact if_pos ⟨hDirection, hIff.mp hCounted⟩
    obtain ⟨hSources, hStats⟩ := observePacket_counted hSome hFull.roomForSource
    obtain ⟨hSources₀, hStats₀⟩ := observePacket_counted hSome₀ hFull₀.roomForSource
    have hCurrent : FlowManager.currentStats c (m.sourceStats.lookup packet.tuple.srcIp) now =
        FlowManager.currentStats (roomy c room) (m₀.sourceStats.lookup packet.tuple.srcIp) now :=
      h.currentStats hle packet.tuple.srcIp
    refine ⟨⟨ok_observePacket h.plain, ok_observePacket h.swept, hFlows, ?_, ?_⟩, ?_⟩
    · intro ip stats hl
      rw [hSources, Table.lookup_assign] at hl
      rw [hSources₀, Table.lookup_assign, ← hCurrent]
      split_ifs at hl ⊢
      · exact hl
      · exact h.stored ip stats hl
    · intro ip stats hl hl₀
      rw [hSources, Table.lookup_assign] at hl
      rw [hSources₀, Table.lookup_assign] at hl₀
      split_ifs at hl hl₀
      exact windowEnded_mono hle (h.missing ip stats hl hl₀)
    · rw [hStats, hStats₀, hCurrent]
  · have hNone : countedPacket? c m (.observe packet direction now) = none := by
      unfold countedPacket?
      exact if_neg fun hBoth => hCounted hBoth.2
    have hNone₀ : countedPacket? (roomy c room) m₀ (.observe packet direction now) = none := by
      unfold countedPacket?
      exact if_neg fun hBoth => hCounted (hIff.mpr hBoth.2)
    obtain ⟨hSources, hStats⟩ := observePacket_notCounted hNone
    obtain ⟨hSources₀, hStats₀⟩ := observePacket_notCounted hNone₀
    refine ⟨⟨ok_observePacket h.plain, ok_observePacket h.swept, hFlows, ?_, ?_⟩, ?_⟩
    · rw [hSources, hSources₀]
      exact h.stored
    · rw [hSources, hSources₀]
      exact fun ip stats hl hl₀ => windowEnded_mono hle (h.missing ip stats hl hl₀)
    · rw [hStats, hStats₀]

end Observe

/-! ## Sizes -/

omit [DoubleOps F] in
theorem updateSourceStats_size_le (m : FlowManager F) (packet : ParsedPacket) (now : TimePoint) :
    (m.updateSourceStats c packet now).1.sourceStats.size ≤ m.sourceStats.size + 1 := by
  unfold updateSourceStats
  dsimp only
  split
  · exact Nat.le_succ _
  · exact Table.size_assign_le _ _ _

theorem observePacket_size_le (m : FlowManager F) (packet : ParsedPacket)
    (direction : PacketDirection) (now : TimePoint) :
    (m.observePacket c packet direction now).1.flows.size ≤ m.flows.size + 1 ∧
      (m.observePacket c packet direction now).1.sourceStats.size ≤ m.sourceStats.size + 1 := by
  by_cases hDirection : direction = .unknown
  · simp [observePacket, hDirection]
  constructor
  · rw [(observePacket_flows c m packet hDirection now).1]
    rcases updateFlow_cases c m packet direction now with
      ⟨flow, -, hu⟩ | ⟨flow, -, -, hu⟩ | ⟨-, -, -, hu⟩ | ⟨-, -, -, hu⟩ <;> rw [hu]
    · exact Table.size_assign_le _ _ _
    · exact Table.size_assign_le _ _ _
    · exact Table.size_assign_le _ _ _
    · exact Nat.le_succ _
  · unfold observePacket
    rw [if_neg hDirection]
    have hSame : (m.updateFlow c packet direction now).1.sourceStats = m.sourceStats :=
      updateFlow_sourceStats
    dsimp only
    split
    · rw [← hSame]
      exact updateSourceStats_size_le _ packet now
    · rw [hSame]
      exact Nat.le_succ _

/-- A call stores one more flow and one more source at most. -/
theorem size_call_le (m : FlowManager F) (e : FlowCall) :
    (m.call c e).1.flows.size ≤ m.flows.size + 1 ∧
      (m.call c e).1.sourceStats.size ≤ m.sourceStats.size + 1 := by
  cases e with
  | observe packet direction now => exact observePacket_size_le m packet direction now
  | extract key =>
    change (m.extractCompleted key).1.flows.size ≤ _ ∧ (m.extractCompleted key).1.sourceStats.size ≤ _
    rw [extractCompleted_sourceStats]
    refine ⟨?_, Nat.le_succ _⟩
    rcases extractCompleted_cases m key with ⟨k, flow, reason, -, -, -, he⟩ | ⟨-, he⟩ <;> rw [he]
    · exact (Table.size_erase_le _ _).trans (Nat.le_succ _)
    · exact Nat.le_succ _
  | discard srcIp =>
    change (m.discardSourceFlows srcIp).flows.size ≤ _ ∧
      (m.discardSourceFlows srcIp).sourceStats.size ≤ _
    rw [discardSourceFlows_sourceStats]
    refine ⟨?_, Nat.le_succ _⟩
    unfold discardSourceFlows
    split
    · exact Nat.le_succ _
    · exact (Table.size_filter_le _ _).trans (Nat.le_succ _)
  | cleanup now =>
    exact ⟨BucketSweep.size_sweep_le.trans (Nat.le_succ _),
      BucketSweep.size_sweep_le.trans (Nat.le_succ _)⟩

/-! ## Results -/

theorem observeResults_cons (m : FlowManager F) (e : FlowCall) (calls : List FlowCall) :
    observeResults c m (e :: calls) =
      observeResults c m [e] ++ observeResults c (m.call c e).1 calls := by
  unfold observeResults
  rw [← List.filterMap_append]
  rfl

/-- A run with cleanups gives the results of the run without any. -/
theorem Lag.results {calls : List FlowCall} {clock : TimePoint} {m₀ m : FlowManager F}
    (h : Lag c clock m₀ m) (hc : Machine.Chronological FlowCall.reads clock calls)
    (hDiscard : ∀ ip, .discard ip ∉ calls)
    (hFull : Machine.Along (call c) (NeverFull c) m calls)
    (hFlows : m₀.flows.size + (withoutCleanups calls).length < room)
    (hSources : m₀.sourceStats.size + (withoutCleanups calls).length < room)
    (hResumes : Machine.Along (call (roomy c room)) ResumesExpired m₀ (withoutCleanups calls)) :
    observeResults c m calls = observeResults (roomy c room) m₀ (withoutCleanups calls) := by
  induction calls generalizing clock m₀ m with
  | nil => rfl
  | cons e calls ih =>
    obtain ⟨hReads, hRest⟩ := Machine.chronological_cons.mp hc
    have hDiscard' : ∀ ip, .discard ip ∉ calls := fun ip hMem =>
      hDiscard ip (List.mem_cons_of_mem _ hMem)
    have hSizes := size_call_le (c := roomy c room) m₀ e
    cases e with
    | cleanup now =>
      have hle : clock ≤ now := (List.pairwise_cons.mp hReads).1 now List.mem_cons_self
      exact ih (h.cleanup hle) hRest hDiscard' hFull.2 hFlows hSources hResumes
    | discard ip => exact absurd List.mem_cons_self (hDiscard ip)
    | extract key =>
      have hEq : withoutCleanups (.extract key :: calls) = .extract key :: withoutCleanups calls :=
        rfl
      rw [hEq] at hFlows hSources hResumes ⊢
      rw [List.length_cons] at hFlows hSources
      rw [observeResults_cons, observeResults_cons (c := roomy c room)]
      exact congrArg₂ (· ++ ·) rfl (ih (h.extract key) hRest hDiscard' hFull.2 (by omega)
        (by omega) hResumes.2)
    | observe packet direction now =>
      have hle : clock ≤ now := (List.pairwise_cons.mp hReads).1 now List.mem_cons_self
      have hEq : withoutCleanups (.observe packet direction now :: calls) =
          .observe packet direction now :: withoutCleanups calls := rfl
      rw [hEq] at hFlows hSources hResumes ⊢
      rw [List.length_cons] at hFlows hSources
      have hFull₀ : NeverFull (roomy c room) m₀ (.observe packet direction now) :=
        ⟨by change _ < room; omega, by change _ < room; omega⟩
      obtain ⟨hNext, hResult⟩ := h.observe hle hFull.1 hFull₀ hResumes.1
      rw [observeResults_cons, observeResults_cons (c := roomy c room)]
      exact congrArg₂ (· ++ ·) (congrArg (fun r => [r]) hResult)
        (ih hNext hRest hDiscard' hFull.2 (by omega) (by omega) hResumes.2)

/-- **Late cleanup.** Two runs of the same observe and extract calls, with cleanups inserted
anywhere, in which no table is ever full. When in the run without cleanups every packet that
meets a flow whose time is over resumes it, the observe calls return the same. -/
theorem cleanup_keepsResults (c : FlowParams) (start : TimePoint) (calls calls' : List FlowCall)
    (hSame : withoutCleanups calls = withoutCleanups calls')
    (hDiscard : ∀ ip, .discard ip ∉ withoutCleanups calls)
    (hc : Machine.Chronological FlowCall.reads start calls)
    (hc' : Machine.Chronological FlowCall.reads start calls')
    (hFull : Machine.Along (call (F := F) c) (NeverFull c) .empty calls)
    (hFull' : Machine.Along (call (F := F) c) (NeverFull c) .empty calls')
    (hResumes : Machine.Along (call (F := F) (roomy c (calls.length + 1))) ResumesExpired .empty
      (withoutCleanups calls)) :
    observeResults (F := F) c .empty calls = observeResults (F := F) c .empty calls' := by
  have hLength : (withoutCleanups calls).length < calls.length + 1 :=
    Nat.lt_succ_of_le (List.length_filter_le _ _)
  have hNone : ∀ {calls'' : List FlowCall}, withoutCleanups calls = withoutCleanups calls'' →
      ∀ ip, .discard ip ∉ calls'' := by
    intro calls'' hEq ip hMem
    refine hDiscard ip ?_
    rw [hEq]
    exact List.mem_filter.mpr ⟨hMem, rfl⟩
  have hStart : (.empty : FlowManager F).flows.size + (withoutCleanups calls).length <
      calls.length + 1 := by
    rw [show (.empty : FlowManager F).flows.size = 0 from rfl, Nat.zero_add]
    exact hLength
  have hEmpty := lag_empty (F := F) c start
  rw [hEmpty.results hc (hNone rfl) hFull hStart hStart hResumes,
    hEmpty.results hc' (hNone hSame) hFull' (hSame ▸ hStart) (hSame ▸ hStart) (hSame ▸ hResumes),
    hSame]

/-- A manager with room for ten flows and ten sources. `reserve` gives its maps eleven buckets, so
that every cleanup looks at all of them. -/
def tenFlows : FlowParams where
  windowSeconds := 10
  maxFlows := 10
  maxSources := 10
  flowBuckets := flowLayout 11 (by decide)
  sourceBuckets := sourceLayout 11 (by decide)

/-- A scan that goes on after a pause of 70 seconds. -/
def pausedScan : List FlowCall :=
  [.observe (scanPacket 1) .inbound 0, .observe (scanPacket 1) .inbound (seconds 70)]

/-- A cleanup during the pause does not matter. -/
theorem cleanup_keepsResults_pausedScan :
    observeResults (F := Float) tenFlows .empty pausedScan =
      observeResults (F := Float) tenFlows .empty
        [.observe (scanPacket 1) .inbound 0, .cleanup (seconds 65),
          .observe (scanPacket 1) .inbound (seconds 70)] := by
  refine cleanup_keepsResults (F := Float) _ 0 _ _ rfl ?_ (by decide) (by decide) (by decide)
    (by decide) ⟨?_, ?_, trivial⟩
  · intro ip hMem
    simp [pausedScan, withoutCleanups, FlowCall.isCleanup] at hMem
  · intro flow hg
    cases hg
  · intro flow hg _
    cases hg
    exact ⟨fun _ => ⟨rfl, rfl⟩, nofun, ⟨rfl, rfl, rfl, rfl, rfl⟩⟩

/-- The local host opens the conversation, and after a pause the remote host sends. -/
def pausedReply : List FlowCall :=
  [.observe (ParsedPacket.reply (scanPacket 1)) .outbound 0,
    .observe (scanPacket 1) .inbound (seconds 70)]

/-- The same calls with a cleanup during the pause. -/
def sweptReply : List FlowCall :=
  [.observe (ParsedPacket.reply (scanPacket 1)) .outbound 0, .cleanup (seconds 61),
    .observe (scanPacket 1) .inbound (seconds 70)]

/-- With the cleanup the second packet is counted, without it is not. -/
theorem cleanup_changesResult :
    withoutCleanups pausedReply = withoutCleanups sweptReply ∧
      (∀ e ∈ sweptReply, e.Observable) ∧ (∀ ip, .discard ip ∉ sweptReply) ∧
      Machine.Chronological FlowCall.reads 0 pausedReply ∧
      Machine.Chronological FlowCall.reads 0 sweptReply ∧
      Machine.Along (call (F := Float) tenFlows)
        (NeverFull tenFlows) .empty pausedReply ∧
      Machine.Along (call (F := Float) tenFlows)
        (NeverFull tenFlows) .empty sweptReply ∧
      (observeResults (F := Float) tenFlows .empty pausedReply).map
        Option.isSome = [false, false] ∧
      (observeResults (F := Float) tenFlows .empty sweptReply).map
        Option.isSome = [false, true] := by
  refine ⟨rfl, by decide, ?_, by decide, by decide, by decide, by decide, by decide, by decide⟩
  intro ip hMem
  simp [sweptReply] at hMem

end FlowManager

end InlineIps
