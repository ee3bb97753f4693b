import InlineIps.Capture.Parts

/-!
# Verdicts

A packet is dropped exactly when it is inbound, its source is not whitelisted, and either
the most recent block event of the source is in force or the packet hits a rule.

* `recorded_run`: after every run the block list answers as the block events of the run do.
* `onPacket_drops_iff`: what the verdict of one packet depends on.
* `outputs_batched`: how the cleanup of the block list is cut into ticks changes no output.
-/

namespace InlineIps.PacketCapture

open Library

variable {F : Type} [DoubleOps F] {c : CaptureParams}

/-- The packet is counted, and its statistics match a rule. -/
def RuleHit (c : CaptureParams) (s : PacketCapture F) (packet : ParsedPacket) (now : TimePoint) :
    Prop :=
  packet.hasPorts = true ∧ ∃ stats rule,
    (s.flowManager.observePacket c.flowParams packet .inbound now).2 = some stats ∧
      RuleEngine.check c.rules stats = some rule

/-! ## Block events of a run -/

/-- The block list of a handling answers as its block events do, and none of them names a
whitelisted address. -/
def BlocksRecorded (c : CaptureParams) (h : Handling F) : Prop :=
  BlockList.Recorded c.config.blockTtlSeconds h.clock h.capture.blockList
      (blockEvents h.effects) ∧
    ∀ event ∈ blockEvents h.effects, c.whitelist.isWhitelisted event.ip = false

omit [DoubleOps F] in
theorem blockEvents_append (effects effects' : List (CaptureEffect F)) :
    blockEvents (effects ++ effects') = blockEvents effects ++ blockEvents effects' :=
  List.filterMap_append

omit [DoubleOps F] in
/-- Blocking an admitted address. -/
theorem BlocksRecorded.block {h h' : Handling F} (hBlocks : BlocksRecorded c h) {ip : UInt32}
    (hAdmitted : Admitted c h ip) (hClock : h'.clock = h.clock)
    (hList : h'.capture.blockList =
      h.capture.blockList.block ip c.config.blockTtlSeconds h.clock)
    (hEvents : blockEvents h'.effects = blockEvents h.effects ++ [⟨ip, h.clock⟩]) :
    BlocksRecorded c h' := by
  unfold BlocksRecorded
  rw [hClock, hList, hEvents]
  refine ⟨hBlocks.1.block hAdmitted.2, ?_⟩
  intro event hEvent
  rcases List.mem_append.mp hEvent with hMem | hMem
  · exact hBlocks.2 event hMem
  · rw [List.mem_singleton.mp hMem]
    exact hAdmitted.1

theorem BlocksRecorded.part {x y : Handling F × List (EndedFlow F)}
    {s : PacketCapture F} {e : CaptureEvent F} (hBlocks : BlocksRecorded c x.1)
    (hPart : Part c s e x y) : BlocksRecorded c y.1 := by
  cases hPart with
  | observe | extract | expire | drop => exact hBlocks
  | hit h packet rule hArrival hAdmitted hPorts hHit =>
    exact hBlocks.block hAdmitted rfl rfl (blockEvents_append _ _)
  | aiBlock h decision hAnomaly hAdmitted =>
    refine hBlocks.block hAdmitted rfl rfl ?_
    simp [blockByAi, Handling.emit, Handling.withCapture, Handling.discardAndBlock,
      Handling.withFlows, blockEvents, CaptureEffect.blockEvent?]
  | count h s' hCounted =>
    unfold BlocksRecorded
    rw [show (h.withCapture s').capture.blockList = h.capture.blockList from hCounted.blockList]
    exact hBlocks
  | read h pending hLater =>
    have hSame : h.readClock.capture = h.capture ∧ h.readClock.effects = h.effects := by
      unfold Handling.readClock
      split <;> exact ⟨rfl, rfl⟩
    unfold BlocksRecorded
    rw [hSame.1, hSame.2]
    exact ⟨hBlocks.1.pass hLater, hBlocks.2⟩
  | submit h ended pending =>
    unfold BlocksRecorded
    have hEvents : blockEvents (PacketCapture.submit c h ended).effects =
        blockEvents h.effects := by
      simp [PacketCapture.submit, Handling.emit, Handling.withCapture, blockEvents,
        CaptureEffect.blockEvent?]
    rw [hEvents]
    exact hBlocks
  | release h limit now hNow => exact ⟨hBlocks.1.cleanupUpTo limit hNow, hBlocks.2⟩

/-- After every run the block list answers as the block events of the run do. -/
theorem recorded_run {start : TimePoint} {events : List (CaptureEvent F)}
    (hc : Machine.Chronological CaptureEvent.reads start events) :
    BlocksRecorded c (runHandling c start events) :=
  run_rule_handling (J := fun x => BlocksRecorded c x.1)
    (fun _ _ _ hBlocks hle => ⟨hBlocks.1.pass hle, hBlocks.2⟩)
    (fun _ _ _ _ hBlocks hPart => hBlocks.part hPart)
    ⟨BlockList.Recorded.empty _ _, by simp [blockEvents]⟩ hc

/-! ## The verdict of one packet -/

theorem ruleHit_iff {s : PacketCapture F} {packet : ParsedPacket} {now : TimePoint} :
    RuleHit c s packet now ↔ packet.hasPorts = true ∧
      ((s.flowManager.observePacket c.flowParams packet .inbound now).2.bind
        (RuleEngine.check c.rules)).isSome = true := by
  unfold RuleHit
  cases (s.flowManager.observePacket c.flowParams packet .inbound now).2 with
  | none => simp
  | some stats => simp [Option.isSome_iff_exists]

theorem handleInbound_drops_iff (h : Handling F) (packet : ParsedPacket) (now : TimePoint) :
    (handleInbound c h packet now).2 = false ↔
      c.whitelist.isWhitelisted packet.tuple.srcIp = false ∧
        (h.capture.blockList.isBlocked packet.tuple.srcIp now = true ∨
          RuleHit c h.capture packet now) := by
  unfold handleInbound
  rw [ruleHit_iff]
  dsimp only
  split_ifs with hw hb hp
  · simp [hw]
  · simp [hw, hb]
  · simp_all
  · have hObserve : (h.observe c packet .inbound now).2 =
        (h.capture.flowManager.observePacket c.flowParams packet .inbound now).2 := rfl
    split
    · rename_i hHit
      rw [hObserve] at hHit
      simp_all
    · rename_i hMiss
      rw [hObserve] at hMiss
      simp_all

theorem handleOutbound_passes (h : Handling F) (packet : ParsedPacket) (now : TimePoint) :
    (handleOutbound c h packet now).2 = true := by
  unfold handleOutbound
  dsimp only
  split <;> rfl

/-- What the verdict of one packet depends on. -/
theorem onPacket_drops_iff (h : Handling F) (data : List UInt8) (direction : PacketDirection) :
    (onPacket c h data direction).2 = false ↔
      direction = .inbound ∧ ∃ packet, PacketParser.parse data = some packet ∧
        c.whitelist.isWhitelisted packet.tuple.srcIp = false ∧
        (h.capture.blockList.isBlocked packet.tuple.srcIp h.clock = true ∨
          RuleHit c h.capture packet h.clock) := by
  unfold onPacket
  by_cases hUnknown : direction = .unknown
  · simp [hUnknown]
  · rw [if_neg hUnknown]
    cases hParse : PacketParser.parse data with
    | none => simp
    | some packet =>
      dsimp only
      by_cases hIn : direction = .inbound
      · rw [if_pos hIn, handleInbound_drops_iff]
        simp [hIn]
      · rw [if_neg hIn]
        simp [hIn, handleOutbound_passes]

theorem step_verdict (s : PacketCapture F) {e : CaptureEvent F} {data : List UInt8}
    {direction : PacketDirection} (hInput : e.input = .packet data direction) :
    (step c s e).2.verdict = some (onPacket c (.start s e) data direction).2 := by
  unfold step stepUpTo handleUpTo
  rw [hInput]

/-! ## Batching the cleanup -/

/-- Put another block list in place. -/
def withBlocks (h : Handling F) (b : BlockList) : Handling F :=
  h.withCapture { h.capture with blockList := b }

/-- The handlings differ in the block list only, and the two lists answer alike from the
clock on. -/
def Alike (h h' : Handling F) : Prop :=
  ∃ b : BlockList, h' = withBlocks h b ∧
    ∀ ip t, h.clock ≤ t → b.isBlocked ip t = h.capture.blockList.isBlocked ip t

omit [DoubleOps F] in
theorem Alike.readClock {h h' : Handling F} (hAlike : Alike h h') (ht : Timely h) :
    Alike h.readClock h'.readClock := by
  obtain ⟨b, rfl, hAgree⟩ := hAlike
  have hle := ht.readClock.2
  obtain ⟨s, clock, later, effects, calls⟩ := h
  cases later with
  | nil => exact ⟨b, rfl, hAgree⟩
  | cons t later => exact ⟨b, rfl, fun ip t' ht' => hAgree ip t' (hle.trans ht')⟩

omit [DoubleOps F] in
theorem Alike.isBlocked {h h' : Handling F} (hAlike : Alike h h') (ip : UInt32) :
    h'.capture.blockList.isBlocked ip h.clock = h.capture.blockList.isBlocked ip h.clock := by
  obtain ⟨b, rfl, hAgree⟩ := hAlike
  exact hAgree ip h.clock le_rfl

omit [DoubleOps F] in
theorem Alike.clock_eq {h h' : Handling F} (hAlike : Alike h h') : h'.clock = h.clock := by
  obtain ⟨b, rfl, -⟩ := hAlike
  rfl

theorem Alike.consumeFlow {h h' : Handling F} (hAlike : Alike h h') (ht : Timely h)
    (ended : EndedFlow F) : Alike (consumeFlow c h ended) (consumeFlow c h' ended) := by
  have hRead := hAlike.readClock ht
  unfold PacketCapture.consumeFlow
  split
  · exact hAlike
  · split
    · exact hAlike
    · dsimp only
      rw [hRead.clock_eq, hRead.isBlocked]
      split
      · exact hRead
      · obtain ⟨b, hEq, hAgree⟩ := hRead
        exact ⟨b, by rw [hEq]; rfl, hAgree⟩

theorem Alike.consumeAll {h h' : Handling F} (hAlike : Alike h h') (ht : Timely h)
    (pending : List (EndedFlow F)) :
    Alike (pending.foldl (PacketCapture.consumeFlow c) h)
      (pending.foldl (PacketCapture.consumeFlow c) h') := by
  induction pending generalizing h h' with
  | nil => exact hAlike
  | cons ended pending ih =>
    exact ih (hAlike.consumeFlow ht ended) (timely_consumeFlow ht ended).1

theorem Alike.finishFlow {h h' : Handling F} (hAlike : Alike h h') (ht : Timely h)
    (packet : ParsedPacket) : Alike (finishFlow c h packet) (finishFlow c h' packet) := by
  obtain ⟨b, rfl, hAgree⟩ := hAlike
  have hExtract : Alike (h.extract packet.tuple).1
      ((withBlocks h b).extract packet.tuple).1 := ⟨b, rfl, hAgree⟩
  have ht' : Timely (h.extract packet.tuple).1 := ht
  exact hExtract.consumeAll ht' _

theorem isBlocked_block_congr {b b' : BlockList} {clock : TimePoint}
    (hAgree : ∀ ip t, clock ≤ t → b.isBlocked ip t = b'.isBlocked ip t) (ip : UInt32)
    (ttlSeconds : Int) (ip' : UInt32) (t : TimePoint) (hle : clock ≤ t) :
    (b.block ip ttlSeconds clock).isBlocked ip' t =
      (b'.block ip ttlSeconds clock).isBlocked ip' t := by
  rw [BlockList.isBlocked_block, BlockList.isBlocked_block, hAgree ip' t hle]

omit [DoubleOps F] in
theorem Alike.blockByRule {h h' : Handling F} (hAlike : Alike h h') (ip : UInt32) :
    Alike (blockByRule c h ip h.clock) (blockByRule c h' ip h.clock) := by
  obtain ⟨b, rfl, hAgree⟩ := hAlike
  exact ⟨_, rfl, isBlocked_block_congr hAgree ip c.config.blockTtlSeconds⟩

omit [DoubleOps F] in
theorem Alike.blockByAi {h h' : Handling F} (hAlike : Alike h h') (decision : AiDecision F) :
    Alike (blockByAi c h decision h.clock) (blockByAi c h' decision h.clock) := by
  obtain ⟨b, rfl, hAgree⟩ := hAlike
  exact ⟨_, rfl, isBlocked_block_congr hAgree decision.record.key.srcIp c.config.blockTtlSeconds⟩

theorem Alike.observe {h h' : Handling F} (hAlike : Alike h h') (packet : ParsedPacket)
    (direction : PacketDirection) :
    Alike (h.observe c packet direction h.clock).1 (h'.observe c packet direction h.clock).1 ∧
      (h'.observe c packet direction h.clock).2 = (h.observe c packet direction h.clock).2 := by
  obtain ⟨b, rfl, hAgree⟩ := hAlike
  exact ⟨⟨b, rfl, hAgree⟩, rfl⟩

theorem Alike.handleInbound {h h' : Handling F} (hAlike : Alike h h') (ht : Timely h)
    (packet : ParsedPacket) :
    Alike (handleInbound c h packet h.clock).1 (handleInbound c h' packet h.clock).1 ∧
      (handleInbound c h' packet h.clock).2 = (handleInbound c h packet h.clock).2 := by
  unfold PacketCapture.handleInbound
  dsimp only
  rw [hAlike.isBlocked]
  split
  · exact ⟨hAlike, rfl⟩
  · split
    · exact ⟨hAlike, rfl⟩
    · split
      · exact ⟨hAlike, rfl⟩
      · have hObserve := hAlike.observe (c := c) packet .inbound
        have ht' : Timely (h.observe c packet .inbound h.clock).1 := ht
        rw [hObserve.2]
        split
        · exact ⟨hObserve.1.blockByRule packet.tuple.srcIp, rfl⟩
        · exact ⟨hObserve.1.finishFlow ht' packet, rfl⟩

theorem Alike.handleOutbound {h h' : Handling F} (hAlike : Alike h h') (ht : Timely h)
    (packet : ParsedPacket) :
    Alike (handleOutbound c h packet h.clock).1 (handleOutbound c h' packet h.clock).1 := by
  unfold PacketCapture.handleOutbound
  dsimp only
  rw [hAlike.isBlocked]
  split
  · exact hAlike
  · have ht' : Timely (h.observe c packet .outbound h.clock).1 := ht
    exact (hAlike.observe packet .outbound).1.finishFlow ht' packet

theorem Alike.onPacket {h h' : Handling F} (hAlike : Alike h h') (ht : Timely h)
    (data : List UInt8) (direction : PacketDirection) :
    Alike (onPacket c h data direction).1 (onPacket c h' data direction).1 ∧
      (onPacket c h' data direction).2 = (onPacket c h data direction).2 := by
  unfold PacketCapture.onPacket
  by_cases hUnknown : direction = .unknown
  · rw [if_pos hUnknown, if_pos hUnknown]
    exact ⟨hAlike, rfl⟩
  · rw [if_neg hUnknown, if_neg hUnknown, hAlike.clock_eq]
    cases PacketParser.parse data with
    | none => exact ⟨hAlike, rfl⟩
    | some packet =>
      dsimp only
      split
      · exact hAlike.handleInbound ht packet
      · refine ⟨hAlike.handleOutbound ht packet, ?_⟩
        rw [handleOutbound_passes, handleOutbound_passes]

omit [DoubleOps F] in
theorem Alike.applyAiDecision {h h' : Handling F} (hAlike : Alike h h')
    (decision : AiDecision F) :
    Alike (applyAiDecision c h.clock h decision) (applyAiDecision c h.clock h' decision) := by
  unfold PacketCapture.applyAiDecision
  dsimp only
  rw [hAlike.isBlocked]
  split
  · exact hAlike
  · split
    · obtain ⟨b, rfl, hAgree⟩ := hAlike
      exact ⟨b, rfl, hAgree⟩
    · split
      · obtain ⟨b, rfl, hAgree⟩ := hAlike
        exact ⟨b, rfl, hAgree⟩
      · exact hAlike.blockByAi decision

omit [DoubleOps F] in
theorem Alike.applyAiDecisions {h h' : Handling F} (hAlike : Alike h h')
    (decisions : List (AiDecision F)) :
    Alike (applyAiDecisions c h.clock h decisions) (applyAiDecisions c h.clock h' decisions) := by
  induction decisions generalizing h h' with
  | nil => exact hAlike
  | cons decision decisions ih =>
    have hNext := ih (hAlike.applyAiDecision (c := c) decision)
    rwa [(applyAiDecision_clock h decision h.clock).1] at hNext

/-- Ticks with any two limits. -/
theorem Alike.onTickUpTo {h h' : Handling F} (hAlike : Alike h h') (ht : Timely h)
    (limit limit' : Nat) (decisions : List (AiDecision F)) :
    Alike (onTickUpTo limit c h decisions) (onTickUpTo limit' c h' decisions) := by
  have hClock := (applyAiDecisions_clock (c := c) h decisions h.clock).1
  have hDecided := hAlike.applyAiDecisions (c := c) decisions
  have hExpire : Alike ((PacketCapture.applyAiDecisions c h.clock h decisions).expire c h.clock).1
      ((PacketCapture.applyAiDecisions c h.clock h' decisions).expire c h.clock).1 ∧
      ((PacketCapture.applyAiDecisions c h.clock h' decisions).expire c h.clock).2 =
        ((PacketCapture.applyAiDecisions c h.clock h decisions).expire c h.clock).2 := by
    obtain ⟨b, hEq, hAgree⟩ := hDecided
    rw [hEq]
    exact ⟨⟨b, rfl, hAgree⟩, rfl⟩
  have ht' := timely_decided (c := c) ht decisions
  have hle := (timely_consumeAll (c := c) ht'
    ((PacketCapture.applyAiDecisions c h.clock h decisions).expire c h.clock).2).2
  have hConsume := hExpire.1.consumeAll (c := c) ht'
    ((PacketCapture.applyAiDecisions c h.clock h decisions).expire c h.clock).2
  unfold PacketCapture.onTickUpTo
  rw [hAlike.clock_eq]
  dsimp only
  rw [hExpire.2]
  obtain ⟨b, hEq, hAgree⟩ := hConsume
  rw [hEq]
  refine ⟨b.cleanupUpTo limit' h.clock, rfl, ?_⟩
  intro ip t hlater
  have hnow : h.clock ≤ t := by
    have hstart : h.clock ≤ (PacketCapture.applyAiDecisions c h.clock h decisions).clock :=
      le_of_eq hClock.symm
    exact (hstart.trans hle).trans hlater
  have hb := hAgree ip t hlater
  rw [BlockList.isBlocked_cleanupUpTo limit' hnow, hb]
  exact (BlockList.isBlocked_cleanupUpTo limit hnow _ ip).symm

/-- A step whose block list cleanup has the limit that the schedule gives it. -/
def batchedStep (c : CaptureParams) (s : PacketCapture F) (e : CaptureEvent F × Nat) :
    PacketCapture F × CaptureOutput F :=
  stepUpTo e.2 c s e.1

theorem Alike.handleUpTo {s s' : PacketCapture F} {e : CaptureEvent F}
    (hAlike : Alike (.start s e) (.start s' e)) (he : e.reads.Pairwise (· ≤ ·))
    (limit limit' : Nat) :
    Alike (handleUpTo limit c s e).1 (handleUpTo limit' c s' e).1 ∧
      (handleUpTo limit' c s' e).2 = (handleUpTo limit c s e).2 := by
  have ht : Timely (Handling.start s e) := he
  unfold PacketCapture.handleUpTo
  split
  · obtain ⟨hNext, hVerdict⟩ := hAlike.onPacket (c := c) ht _ _
    exact ⟨hNext, congrArg some hVerdict⟩
  · exact ⟨hAlike.onTickUpTo ht limit limit' _, rfl⟩

/-- Runs from states that differ in the block list only give the same outputs. -/
theorem outputs_alike (schedule : List (CaptureEvent F × Nat)) {s : PacketCapture F}
    {b : BlockList} {clock : TimePoint}
    (hAgree : ∀ ip t, clock ≤ t → b.isBlocked ip t = s.blockList.isBlocked ip t)
    (hc : Machine.Chronological CaptureEvent.reads clock (schedule.map Prod.fst)) :
    (Machine.trace (batchedStep c) { s with blockList := b } schedule).map (fun x => x.output) =
      (Machine.trace (step c) s (schedule.map Prod.fst)).map (fun x => x.output) := by
  induction schedule generalizing s b clock with
  | nil => rfl
  | cons entry schedule ih =>
    obtain ⟨e, limit⟩ := entry
    rw [List.map_cons, Machine.chronological_cons] at hc
    obtain ⟨hreads, hrest⟩ := hc
    obtain ⟨hfirst, he⟩ := List.pairwise_cons.mp hreads
    have hStart : Alike (.start s e) (.start { s with blockList := b } e) :=
      ⟨b, rfl, fun ip t hle => hAgree ip t ((hfirst _ List.mem_cons_self).trans hle)⟩
    obtain ⟨⟨b', hNext, hAgree'⟩, hVerdict⟩ := hStart.handleUpTo (c := c) he
      BlockList.maxExpiryCleanupsPerTick limit
    have hle := handleUpTo_clock_le BlockList.maxExpiryCleanupsPerTick c s hreads
    have htail := ih (s := (step c s e).1) (b := b')
      (fun ip t hlater => hAgree' ip t (hle.trans hlater)) hrest
    have hstep : batchedStep c { s with blockList := b } (e, limit) =
        ({ (step c s e).1 with blockList := b' }, (step c s e).2) := by
      simp only [batchedStep, step, stepUpTo, hNext, hVerdict]
      rfl
    rw [List.map_cons, Machine.trace_cons, Machine.trace_cons, List.map_cons, List.map_cons, hstep,
      htail]

/-- **The cleanup is invisible.** However it is cut into ticks, every step gives the same
verdict and has the same effects. -/
theorem outputs_batched (c : CaptureParams) (schedule : List (CaptureEvent F × Nat))
    {start : TimePoint}
    (hc : Machine.Chronological CaptureEvent.reads start (schedule.map Prod.fst)) :
    (Machine.trace (batchedStep c) .initial schedule).map (fun x => x.output) =
      (Machine.trace (step c) .initial (schedule.map Prod.fst)).map (fun x => x.output) :=
  outputs_alike schedule (s := .initial) (b := ∅) (fun _ _ _ => rfl) hc

/-! ## The verdicts of a run -/

/-- **Verdicts.** In every run, a packet is dropped exactly when it is inbound and parsed,
its source is not whitelisted, and either the most recent block of the source is in force
or the packet hits a rule. No block names a whitelisted address, two blocks of one
address are at least the block time apart, and the limits of the cleanup do not matter. -/
theorem verdicts_exact (c : CaptureParams) (start : TimePoint) (events : List (CaptureEvent F))
    (hc : Machine.Chronological CaptureEvent.reads start events) :
    (∀ before e after data direction, events = before ++ e :: after →
      e.input = .packet data direction →
      ((step c (run c before) e).2.verdict = some false ↔
        direction = .inbound ∧ ∃ packet, PacketParser.parse data = some packet ∧
          c.whitelist.isWhitelisted packet.tuple.srcIp = false ∧
          (BlockList.ActiveAt c.config.blockTtlSeconds (blockEvents (effectsOf c before))
              packet.tuple.srcIp e.now ∨
            RuleHit c (run c before) packet e.now))) ∧
    (∀ event ∈ blockEvents (effectsOf c events), c.whitelist.isWhitelisted event.ip = false) ∧
    (blockEvents (effectsOf c events)).Pairwise (fun a b =>
      a.ip = b.ip → a.time + seconds c.config.blockTtlSeconds ≤ b.time) ∧
    (∀ limits : List Nat, limits.length = events.length →
      (Machine.trace (batchedStep c) .initial (events.zip limits)).map (fun x => x.output) =
        (Machine.trace (step c) .initial events).map (fun x => x.output)) := by
  refine ⟨?_, (recorded_run hc).2, (recorded_run hc).1.spaced, ?_⟩
  · rintro before e after data direction rfl hInput
    obtain ⟨hBefore, hRest⟩ := Machine.chronological_append.mp hc
    have hNow : Machine.finish CaptureEvent.reads start before ≤ e.now :=
      (List.pairwise_cons.mp (Machine.chronological_cons.mp hRest).1).1 _ List.mem_cons_self
    have hExact := fun ip => (recorded_run (c := c) hBefore).1.exact ip e.now hNow
    rw [step_verdict _ hInput, Option.some_inj, onPacket_drops_iff]
    refine and_congr_right fun _ => exists_congr fun packet => and_congr_right fun _ =>
      and_congr_right fun _ => or_congr ?_ Iff.rfl
    exact hExact packet.tuple.srcIp
  · intro limits hLength
    have hFst : (events.zip limits).map Prod.fst = events :=
      List.map_fst_zip hLength.symm.le
    have hBatched := outputs_batched c (events.zip limits) (by rwa [hFst])
    rwa [hFst] at hBatched

/-- A TCP SYN from 203.0.113.5, port 12345, to 10.0.0.1, port 80. -/
def synBytes : List UInt8 :=
  [0x45, 0, 0, 40, 0, 0, 0, 0, 64, 6, 0, 0, 203, 0, 113, 5, 10, 0, 0, 1,
    0x30, 0x39, 0, 80, 0, 0, 0, 0, 0, 0, 0, 0, 0x50, 0x02, 0, 0, 0, 0, 0, 0]

/-- The packet of `synBytes`. -/
def synPacket : ParsedPacket where
  tuple := ⟨91291851, 16777226, 12345, 80, 6⟩
  totalLen := 40
  payloadLen := 0
  hasPorts := true
  tcpFlags := thSyn

theorem parse_synBytes : PacketParser.parse synBytes = some synPacket := by decide

/-- The SYN of `synBytes` from another host, 198.51.100.7. -/
def otherBytes : List UInt8 :=
  [0x45, 0, 0, 40, 0, 0, 0, 0, 64, 6, 0, 0, 198, 51, 100, 7, 10, 0, 0, 1,
    0x30, 0x39, 0, 80, 0, 0, 0, 0, 0, 0, 0, 0, 0x50, 0x02, 0, 0, 0, 0, 0, 0]

def otherPacket : ParsedPacket :=
  { synPacket with tuple := { synPacket.tuple with srcIp := 124007366 } }

theorem parse_otherBytes : PacketParser.parse otherBytes = some otherPacket := by decide

/-- A sensor that blocks at the first SYN. -/
def strictParams : CaptureParams where
  config := { synThreshold := 1 }
  whitelist := ⟨∅⟩
  flowBuckets := .single _
  sourceBuckets := .single _
  steadyAnchor := 0
  wallAnchor := 0

/-- The second packet of a source that hit a rule is dropped. -/
theorem verdicts_exact_secondPacket :
    (step strictParams (run strictParams [⟨.packet synBytes .inbound, 5, []⟩])
      (⟨.packet synBytes .inbound, 7, []⟩ : CaptureEvent Float)).2.verdict = some false :=
  ((verdicts_exact strictParams 0
    [⟨.packet synBytes .inbound, 5, []⟩, ⟨.packet synBytes .inbound, 7, []⟩]
    (by decide)).1 [⟨.packet synBytes .inbound, 5, []⟩] _ [] synBytes .inbound rfl rfl).mpr
    ⟨rfl, _, rfl, by decide, Or.inl ⟨5, by decide, by decide, by decide⟩⟩

end InlineIps.PacketCapture
