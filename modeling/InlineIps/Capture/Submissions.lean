import InlineIps.Capture.AiBlocking

/-!
# What a step submits and applies

* `flowId_injective`: no two sequence numbers give one flow id.
* `step_numbered`: a step numbers the records that it submits one after the other.
* `step_told`: a step calls the block handler for some of its decisions, in their order, and counts
  every anomalous one once.
-/

namespace InlineIps.PacketCapture

open Library

variable {F : Type} {c : CaptureParams}

/-- The records among effects, in order. -/
def records (effects : List (CaptureEffect F)) : List (FlowRecord F) :=
  effects.filterMap CaptureEffect.record?

theorem records_append (effects effects' : List (CaptureEffect F)) :
    records (effects ++ effects') = records effects ++ records effects' :=
  List.filterMap_append

theorem flowId_injective (c : CaptureParams) {m n : Nat} (h : c.flowId m = c.flowId n) : m = n := by
  unfold CaptureParams.flowId at h
  have hrepr : m.repr = n.repr := (String.append_right_inj _).mp h
  have hdigits : Nat.toDigits 10 m = Nat.toDigits 10 n := by
    rw [← Nat.toList_repr, ← Nat.toList_repr, hrepr]
  rw [← Nat.ofDigitChars_ten_toDigits (n := m), hdigits, Nat.ofDigitChars_ten_toDigits]

/-! ## Numbers -/

/-- The records so far carry the flow ids from `first` up to the next one. -/
structure Numbered (c : CaptureParams) (first : Nat) (h : Handling F) : Prop where
  le : first ≤ h.capture.nextFlowSequence
  ids : (records h.effects).map FlowRecord.flowId =
    (List.range' first (h.capture.nextFlowSequence - first)).map c.flowId

theorem numbered_start (c : CaptureParams) (s : PacketCapture F) (e : CaptureEvent F) :
    Numbered c s.nextFlowSequence (.start s e) where
  le := Nat.le_refl _
  ids := by
    show _ = (List.range' s.nextFlowSequence (s.nextFlowSequence - s.nextFlowSequence)).map c.flowId
    rw [Nat.sub_self]
    rfl

section Numbered

variable {first : Nat} {h h' : Handling F}

theorem Numbered.keep (hnumbered : Numbered c first h)
    (hnext : h'.capture.nextFlowSequence = h.capture.nextFlowSequence)
    (hrecords : records h'.effects = records h.effects) : Numbered c first h' where
  le := by
    rw [hnext]
    exact hnumbered.le
  ids := by
    rw [hnext, hrecords]
    exact hnumbered.ids

theorem Numbered.blockByRule (hnumbered : Numbered c first h) (ip : UInt32) (now : TimePoint) :
    Numbered c first (blockByRule c h ip now) := by
  refine hnumbered.keep rfl ?_
  show records (h.effects ++ [_]) = _
  rw [records_append]
  exact List.append_nil _

theorem Numbered.applyAiDecision (hnumbered : Numbered c first h) (now : TimePoint)
    (decision : AiDecision F) : Numbered c first (applyAiDecision c now h decision) := by
  unfold PacketCapture.applyAiDecision
  dsimp only
  split_ifs
  · exact hnumbered
  · exact hnumbered.keep rfl rfl
  · exact hnumbered.keep rfl rfl
  · refine hnumbered.keep rfl ?_
    show records ((h.effects ++ [_]) ++ [_]) = _
    rw [records_append, records_append]
    exact (List.append_nil _).trans (List.append_nil _)

theorem Numbered.applyAiDecisions (hnumbered : Numbered c first h) (now : TimePoint)
    (decisions : List (AiDecision F)) :
    Numbered c first (applyAiDecisions c now h decisions) := by
  induction decisions generalizing h with
  | nil => exact hnumbered
  | cons decision decisions ih => exact ih (hnumbered.applyAiDecision now decision)

variable [DoubleOps F]

theorem Numbered.submit (hnumbered : Numbered c first h) (ended : EndedFlow F) :
    Numbered c first (submit c h ended) where
  le := Nat.le_succ_of_le hnumbered.le
  ids := by
    have hle := hnumbered.le
    show (records (h.effects ++ [_])).map FlowRecord.flowId =
      (List.range' first (h.capture.nextFlowSequence + 1 - first)).map c.flowId
    rw [records_append, List.map_append, hnumbered.ids, Nat.succ_sub hle, List.range'_concat,
      List.map_append, Nat.one_mul, Nat.add_sub_cancel' hle]
    rfl

theorem Numbered.consumeFlow (hnumbered : Numbered c first h) (ended : EndedFlow F) :
    Numbered c first (consumeFlow c h ended) := by
  have hread : Numbered c first h.readClock := by
    unfold Handling.readClock
    split
    · exact hnumbered
    · exact hnumbered.keep rfl rfl
  unfold PacketCapture.consumeFlow
  dsimp only
  split_ifs
  · exact hnumbered
  · exact hnumbered
  · exact hread
  · exact hread.submit ended

theorem Numbered.consumeAll (hnumbered : Numbered c first h) (pending : List (EndedFlow F)) :
    Numbered c first (pending.foldl (PacketCapture.consumeFlow c) h) := by
  induction pending generalizing h with
  | nil => exact hnumbered
  | cons ended pending ih => exact ih (hnumbered.consumeFlow ended)

theorem Numbered.finishFlow (hnumbered : Numbered c first h) (packet : ParsedPacket) :
    Numbered c first (finishFlow c h packet) :=
  Numbered.consumeAll (h := (h.extract packet.tuple).1) (hnumbered.keep rfl rfl) _

theorem Numbered.onPacket (hnumbered : Numbered c first h) (data : List UInt8)
    (direction : PacketDirection) : Numbered c first (onPacket c h data direction).1 := by
  unfold PacketCapture.onPacket
  split
  · exact hnumbered
  · dsimp only
    split
    · exact hnumbered
    · rename_i packet _
      split
      · unfold handleInbound
        dsimp only
        split_ifs
        · exact hnumbered
        · exact hnumbered
        · exact hnumbered
        · have hobserved : Numbered c first (h.observe c packet .inbound h.clock).1 :=
            hnumbered.keep rfl rfl
          split
          · exact hobserved.blockByRule _ _
          · exact hobserved.finishFlow packet
      · unfold handleOutbound
        dsimp only
        split_ifs
        · exact hnumbered
        · have hobserved : Numbered c first (h.observe c packet .outbound h.clock).1 :=
            hnumbered.keep rfl rfl
          exact hobserved.finishFlow packet

theorem Numbered.onTick (hnumbered : Numbered c first h) (decisions : List (AiDecision F)) :
    Numbered c first (onTick c h decisions) := by
  have hdecided := hnumbered.applyAiDecisions h.clock decisions
  have hexpired : Numbered c first
      ((PacketCapture.applyAiDecisions c h.clock h decisions).expire c h.clock).1 :=
    hdecided.keep rfl rfl
  exact (hexpired.consumeAll _).keep rfl rfl

end Numbered

/-- **The records of a step carry the flow ids from the next one on, without a gap.** -/
theorem step_numbered [DoubleOps F] (c : CaptureParams) (s : PacketCapture F)
    (e : CaptureEvent F) :
    s.nextFlowSequence ≤ (step c s e).1.nextFlowSequence ∧
      (records (step c s e).2.effects).map FlowRecord.flowId =
        (List.range' s.nextFlowSequence
          ((step c s e).1.nextFlowSequence - s.nextFlowSequence)).map c.flowId := by
  have hhandled : Numbered c s.nextFlowSequence
      (handleUpTo BlockList.maxExpiryCleanupsPerTick c s e).1 := by
    unfold handleUpTo
    split
    · exact (numbered_start c s e).onPacket _ _
    · exact (numbered_start c s e).onTick _
  exact ⟨hhandled.le, hhandled.ids⟩

/-! ## Decisions -/

/-- The decisions that an event brings. -/
def decisionsOf (e : CaptureEvent F) : List (AiDecision F) :=
  match e.input with
  | .packet _ _ => []
  | .tick decisions => decisions

/-- What the block handler is told of a decision. -/
def notification (c : CaptureParams) (decision : AiDecision F) : AiBlockEvent F where
  flowId := decision.record.flowId
  sourceIp := decision.record.key.srcIp
  score := decision.score
  threshold := decision.threshold
  ttlSeconds := c.config.blockTtlSeconds
  modelVersion := decision.modelVersion

/-- How many anomalous decisions have been applied, whatever they led to. -/
def appliedCount (s : PacketCapture F) : Nat := s.aiNewBlocks + s.aiDuplicates + s.aiWhitelisted

/-- Some of the decisions were told to the block handler, and the anomalous ones were counted. -/
structure Told (c : CaptureParams) (decisions : List (AiDecision F)) (h h' : Handling F) :
    Prop where
  notified : ∃ blocking, List.Sublist blocking decisions ∧
    notifications h'.effects = notifications h.effects ++ blocking.map (notification c)
  counted : appliedCount h'.capture = appliedCount h.capture + anomalies decisions

section Told

variable {h h' h'' : Handling F}

theorem told_nil (hnotified : notifications h'.effects = notifications h.effects)
    (hcounted : appliedCount h'.capture = appliedCount h.capture) : Told c [] h h' where
  notified := ⟨[], List.nil_sublist _, by rw [hnotified, List.map_nil, List.append_nil]⟩
  counted := hcounted

theorem Told.trans {decisions decisions' : List (AiDecision F)} (htold : Told c decisions h h')
    (htold' : Told c decisions' h' h'') : Told c (decisions ++ decisions') h h'' where
  notified := by
    obtain ⟨blocking, hsub, hnotified⟩ := htold.notified
    obtain ⟨blocking', hsub', hnotified'⟩ := htold'.notified
    refine ⟨blocking ++ blocking', hsub.append hsub', ?_⟩
    rw [hnotified', hnotified, List.append_assoc, List.map_append]
  counted := by
    have hsum : anomalies (decisions ++ decisions') = anomalies decisions + anomalies decisions' :=
      List.countP_append
    rw [htold'.counted, htold.counted, hsum, Nat.add_assoc]

/-- Nothing of what follows concerns the decisions. -/
theorem Told.quiet {decisions : List (AiDecision F)} (htold : Told c decisions h h')
    (hquiet : Told c [] h' h'') : Told c decisions h h'' := by
  have hboth := htold.trans hquiet
  rwa [List.append_nil] at hboth

theorem told_applyAiDecision (now : TimePoint) (h : Handling F) (decision : AiDecision F) :
    Told c [decision] h (applyAiDecision c now h decision) := by
  unfold applyAiDecision
  dsimp only
  split_ifs with hnormal hwhitelisted hblocked
  · rw [Bool.not_eq_true'] at hnormal
    refine ⟨⟨[], List.nil_sublist _, (List.append_nil _).symm⟩, ?_⟩
    simp [anomalies, hnormal]
  all_goals rw [Bool.not_eq_true', Bool.not_eq_false] at hnormal
  · refine ⟨⟨[], List.nil_sublist _, (List.append_nil _).symm⟩, ?_⟩
    simp [anomalies, hnormal, appliedCount, Handling.withCapture, Nat.add_assoc]
  · refine ⟨⟨[], List.nil_sublist _, (List.append_nil _).symm⟩, ?_⟩
    simp only [anomalies, hnormal, appliedCount, Handling.withCapture, List.countP_cons_of_pos,
      List.countP_nil]
    omega
  · refine ⟨⟨[decision], List.Sublist.refl _, ?_⟩, ?_⟩
    · show notifications ((h.effects ++ [_]) ++ [_]) = _
      rw [notifications_append, notifications_append, List.append_assoc]
      rfl
    · show h.capture.aiNewBlocks + 1 + h.capture.aiDuplicates + h.capture.aiWhitelisted = _
      simp only [anomalies, hnormal, appliedCount, List.countP_cons_of_pos, List.countP_nil]
      omega

theorem told_applyAiDecisions (now : TimePoint) (h : Handling F)
    (decisions : List (AiDecision F)) : Told c decisions h (applyAiDecisions c now h decisions) := by
  induction decisions generalizing h with
  | nil => exact told_nil rfl rfl
  | cons decision decisions ih => exact (told_applyAiDecision now h decision).trans (ih _)

variable [DoubleOps F]

theorem told_consumeFlow (h : Handling F) (ended : EndedFlow F) :
    Told c [] h (consumeFlow c h ended) := by
  have hread : Told c [] h h.readClock := by
    unfold Handling.readClock
    split <;> exact told_nil rfl rfl
  have hsubmit : Told c [] h.readClock (submit c h.readClock ended) := by
    refine told_nil ?_ rfl
    show notifications (h.readClock.effects ++ [_]) = _
    rw [notifications_append]
    exact List.append_nil _
  unfold consumeFlow
  dsimp only
  split_ifs
  · exact told_nil rfl rfl
  · exact told_nil rfl rfl
  · exact hread
  · exact hread.trans hsubmit

theorem told_consumeAll (h : Handling F) (pending : List (EndedFlow F)) :
    Told c [] h (pending.foldl (consumeFlow c) h) := by
  induction pending generalizing h with
  | nil => exact told_nil rfl rfl
  | cons ended pending ih => exact (told_consumeFlow h ended).trans (ih _)

theorem told_finishFlow (h : Handling F) (packet : ParsedPacket) :
    Told c [] h (finishFlow c h packet) := by
  have hextract : Told c [] h (h.extract packet.tuple).1 := told_nil rfl rfl
  exact hextract.trans (told_consumeAll _ _)

theorem told_onPacket (h : Handling F) (data : List UInt8) (direction : PacketDirection) :
    Told c [] h (onPacket c h data direction).1 := by
  have hstay : Told c [] h h := told_nil rfl rfl
  unfold onPacket
  split
  · exact hstay
  · dsimp only
    split
    · exact hstay
    · rename_i packet _
      split
      · have hobserve : Told c [] h (h.observe c packet .inbound h.clock).1 := told_nil rfl rfl
        unfold handleInbound
        dsimp only
        split_ifs
        · exact hstay
        · exact hstay
        · exact hstay
        · split
          · refine hobserve.trans (told_nil ?_ rfl)
            show notifications (_ ++ [_]) = _
            rw [notifications_append]
            exact List.append_nil _
          · exact hobserve.trans (told_finishFlow _ packet)
      · have hobserve : Told c [] h (h.observe c packet .outbound h.clock).1 := told_nil rfl rfl
        unfold handleOutbound
        dsimp only
        split_ifs
        · exact hstay
        · exact hobserve.trans (told_finishFlow _ packet)

theorem told_onTick (h : Handling F) (decisions : List (AiDecision F)) :
    Told c decisions h (onTick c h decisions) := by
  have hdecided := told_applyAiDecisions (c := c) h.clock h decisions
  have hexpire : Told c [] (applyAiDecisions c h.clock h decisions)
      ((applyAiDecisions c h.clock h decisions).expire c h.clock).1 := told_nil rfl rfl
  exact hdecided.quiet (hexpire.trans ((told_consumeAll _ _).trans (told_nil rfl rfl)))

/-- **A step tells the block handler of some of its decisions, in their order, and counts all that
are anomalous.** -/
theorem step_told (c : CaptureParams) (s : PacketCapture F) (e : CaptureEvent F) :
    (∃ blocking, List.Sublist blocking (decisionsOf e) ∧
      notifications (step c s e).2.effects = blocking.map (notification c)) ∧
    appliedCount (step c s e).1 = appliedCount s + anomalies (decisionsOf e) := by
  have htold : Told c (decisionsOf e) (.start s e)
      (handleUpTo BlockList.maxExpiryCleanupsPerTick c s e).1 := by
    unfold handleUpTo decisionsOf
    cases e.input with
    | packet data direction => exact told_onPacket _ data direction
    | tick decisions => exact told_onTick _ decisions
  obtain ⟨blocking, hsub, hnotified⟩ := htold.notified
  exact ⟨⟨blocking, hsub, hnotified⟩, htold.counted⟩

end Told

end InlineIps.PacketCapture
