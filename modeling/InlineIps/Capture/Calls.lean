import InlineIps.Capture.Parts
import InlineIps.Flow.History

/-!
# Flow manager calls of a run

The flow manager of a capture run is in the state that the calls made of it lead to, so
what holds of every run of a flow manager holds in a capture.

* `flowManager_run`: the flow manager of a run is the one its calls make.
* `step_flows`: the calls of one step, and what they make of the flow manager.
* `chronological_callsOf`: the calls are given times that do not go back.
* `observations_callsOf`: the observed packets are packets of the run, in order.
-/

namespace InlineIps.PacketCapture

open Library FlowManager

variable {F : Type} [DoubleOps F] {c : CaptureParams}

/-- The flow manager after a list of calls from the start. -/
def managerAfter (c : CaptureParams) (calls : List FlowCall) : FlowManager F :=
  Machine.exec (FlowManager.call c.flowParams) .empty calls

theorem managerAfter_append (calls calls' : List FlowCall) :
    (managerAfter c (calls ++ calls') : FlowManager F) =
      Machine.exec (FlowManager.call c.flowParams) (managerAfter c calls) calls' :=
  Machine.exec_append _ _ _

/-- The flow manager of a handling is the one its calls make. -/
def FlowsCalled (c : CaptureParams) (h : Handling F) : Prop :=
  h.capture.flowManager = managerAfter c h.calls

theorem FlowsCalled.append {h h' : Handling F} (hFlows : FlowsCalled c h)
    (calls : List FlowCall) (hCalls : h'.calls = h.calls ++ calls)
    (hManager : h'.capture.flowManager =
      Machine.exec (FlowManager.call c.flowParams) h.capture.flowManager calls) :
    FlowsCalled c h' := by
  unfold FlowsCalled
  rw [hCalls, managerAfter_append, hManager, hFlows]

theorem FlowsCalled.part {x y : Handling F × List (EndedFlow F)} {s : PacketCapture F}
    {e : CaptureEvent F} (hFlows : FlowsCalled c x.1) (hPart : Part c s e x y) :
    FlowsCalled c y.1 := by
  cases hPart with
  | observe h packet direction =>
    exact hFlows.append [.observe packet direction h.clock] rfl rfl
  | hit h packet =>
    exact hFlows.append [.observe packet .inbound h.clock, .discard packet.tuple.srcIp]
      (List.append_assoc _ _ _) rfl
  | extract h key => exact hFlows.append [.extract key] rfl rfl
  | aiBlock h decision =>
    exact hFlows.append [.discard decision.record.key.srcIp] rfl rfl
  | count h s' hCounted => exact hCounted.flowManager.trans hFlows
  | expire h => exact hFlows.append [.cleanup h.clock] rfl rfl
  | read h pending =>
    unfold Handling.readClock
    split <;> exact hFlows
  | drop => exact hFlows
  | submit => exact hFlows
  | release => exact hFlows

/-! ## The calls of one step -/

theorem consumeFlow_calls (h : Handling F) (ended : EndedFlow F) :
    (consumeFlow c h ended).calls = h.calls := by
  have hRead : h.readClock.calls = h.calls := by
    unfold Handling.readClock
    split <;> rfl
  unfold consumeFlow
  dsimp only
  split_ifs
  · rfl
  · rfl
  · exact hRead
  · exact hRead

theorem consumeAll_calls (h : Handling F) (pending : List (EndedFlow F)) :
    (pending.foldl (consumeFlow c) h).calls = h.calls := by
  induction pending generalizing h with
  | nil => rfl
  | cons ended pending ih => exact (ih _).trans (consumeFlow_calls h ended)

theorem finishFlow_calls (h : Handling F) (packet : ParsedPacket) :
    (finishFlow c h packet).calls = h.calls ++ [.extract packet.tuple] :=
  consumeAll_calls _ _

/-- Consuming an ended flow blocks nothing and calls nothing. -/
theorem consumeFlow_core (h : Handling F) (ended : EndedFlow F) :
    (consumeFlow c h ended).capture.blockList = h.capture.blockList ∧
      (consumeFlow c h ended).capture.flowManager = h.capture.flowManager ∧
      blockEvents (consumeFlow c h ended).effects = blockEvents h.effects := by
  have hRead : h.readClock.capture = h.capture ∧ h.readClock.effects = h.effects := by
    unfold Handling.readClock
    split <;> exact ⟨rfl, rfl⟩
  have hSubmit : blockEvents (submit c h.readClock ended).effects =
      blockEvents h.readClock.effects := by
    simp [submit, Handling.emit, Handling.withCapture, blockEvents, CaptureEffect.blockEvent?]
  unfold consumeFlow
  dsimp only
  split_ifs
  · exact ⟨rfl, rfl, rfl⟩
  · exact ⟨rfl, rfl, rfl⟩
  · rw [hRead.1, hRead.2]
    exact ⟨rfl, rfl, rfl⟩
  · rw [hSubmit, hRead.2]
    show h.readClock.capture.blockList = _ ∧ h.readClock.capture.flowManager = _ ∧ _
    rw [hRead.1]
    exact ⟨rfl, rfl, rfl⟩

theorem consumeAll_core (h : Handling F) (pending : List (EndedFlow F)) :
    (pending.foldl (consumeFlow c) h).capture.blockList = h.capture.blockList ∧
      (pending.foldl (consumeFlow c) h).capture.flowManager = h.capture.flowManager ∧
      blockEvents (pending.foldl (consumeFlow c) h).effects = blockEvents h.effects := by
  induction pending generalizing h with
  | nil => exact ⟨rfl, rfl, rfl⟩
  | cons ended pending ih =>
    obtain ⟨hBlocks, hFlows, hEvents⟩ := ih (consumeFlow c h ended)
    obtain ⟨hBlocks', hFlows', hEvents'⟩ := consumeFlow_core (c := c) h ended
    exact ⟨hBlocks.trans hBlocks', hFlows.trans hFlows', hEvents.trans hEvents'⟩

theorem finishFlow_core (h : Handling F) (packet : ParsedPacket) :
    (finishFlow c h packet).capture.blockList = h.capture.blockList ∧
      (finishFlow c h packet).capture.flowManager =
        (h.capture.flowManager.extractCompleted packet.tuple).1 ∧
      blockEvents (finishFlow c h packet).effects = blockEvents h.effects :=
  consumeAll_core (h.extract packet.tuple).1 _

/-- Decisions make discard calls only. -/
theorem applyAiDecisions_calls (h : Handling F) (decisions : List (AiDecision F))
    (now : TimePoint) : ∃ ips : List UInt32,
      (applyAiDecisions c now h decisions).calls = h.calls ++ ips.map .discard ∧
      (applyAiDecisions c now h decisions).capture.flowManager =
        Machine.exec (FlowManager.call c.flowParams) h.capture.flowManager (ips.map .discard) := by
  induction decisions generalizing h with
  | nil => exact ⟨[], by simp [applyAiDecisions], rfl⟩
  | cons decision decisions ih =>
    obtain ⟨ips, hcalls, hmanager⟩ := ih (applyAiDecision c now h decision)
    change ∃ ips' : List UInt32, (applyAiDecisions c now (applyAiDecision c now h decision)
      decisions).calls = h.calls ++ ips'.map .discard ∧ (applyAiDecisions c now
        (applyAiDecision c now h decision) decisions).capture.flowManager = _
    rw [hcalls, hmanager]
    unfold applyAiDecision
    dsimp only
    split_ifs
    · exact ⟨ips, rfl, rfl⟩
    · exact ⟨ips, rfl, rfl⟩
    · exact ⟨ips, rfl, rfl⟩
    · refine ⟨decision.record.key.srcIp :: ips, ?_, rfl⟩
      simp [blockByAi, Handling.emit, Handling.withCapture, Handling.discardAndBlock,
        Handling.withFlows]

/-- The observation of a packet event, when its packet can be parsed. -/
def observed? (e : CaptureEvent F) : Option Observation :=
  match e.input with
  | .packet data direction => (PacketParser.parse data).map fun packet => ⟨packet, direction, e.now⟩
  | .tick _ => none

/-- A step makes no call, observes its packet and then extracts its flow or discards its source,
or discards sources and then cleans up. -/
inductive StepCalls (c : CaptureParams) (m : FlowManager F) (e : CaptureEvent F) :
    List FlowCall → Prop
  | quiet : StepCalls c m e []
  | passed (packet direction) (hPacket : observed? e = some ⟨packet, direction, e.now⟩)
      (hDirection : direction ≠ .unknown) :
      StepCalls c m e [.observe packet direction e.now, .extract packet.tuple]
  | dropped (packet) (hPacket : observed? e = some ⟨packet, .inbound, e.now⟩)
      (hCounted : (m.observePacket c.flowParams packet .inbound e.now).2.isSome) :
      StepCalls c m e [.observe packet .inbound e.now, .discard packet.tuple.srcIp]
  | ticked (ips : List UInt32) (hTick : observed? e = none) :
      StepCalls c m e (ips.map .discard ++ [.cleanup e.now])

/-- The calls of a step, and what they make of the flow manager. -/
theorem step_flows (c : CaptureParams) (s : PacketCapture F) (e : CaptureEvent F) :
    StepCalls c s.flowManager e (step c s e).2.calls ∧
      (step c s e).1.flowManager =
        Machine.exec (FlowManager.call c.flowParams) s.flowManager (step c s e).2.calls := by
  unfold step stepUpTo handleUpTo
  cases hInput : e.input with
  | tick decisions =>
    obtain ⟨ips, hips, hmanager⟩ := applyAiDecisions_calls (c := c) (.start s e) decisions e.now
    have hCalls : (onTickUpTo BlockList.maxExpiryCleanupsPerTick c (.start s e) decisions).calls =
        ips.map .discard ++ [.cleanup e.now] := by
      refine (consumeAll_calls (c := c) _ _).trans ?_
      exact congrArg (· ++ [FlowCall.cleanup e.now]) hips
    dsimp only
    rw [hCalls]
    refine ⟨.ticked ips (by simp [observed?, hInput]), ?_⟩
    rw [Machine.exec_append]
    refine (consumeAll_core (c := c) _ _).2.1.trans ?_
    exact congrArg (fun m => (m.cleanupExpired c.flowParams e.now).1) hmanager
  | packet data direction =>
    dsimp only
    unfold onPacket
    by_cases hUnknown : direction = .unknown
    · rw [if_pos hUnknown]
      exact ⟨.quiet, rfl⟩
    · rw [if_neg hUnknown]
      cases hParse : PacketParser.parse data with
      | none => exact ⟨.quiet, rfl⟩
      | some packet =>
        have hPacket : observed? e = some ⟨packet, direction, e.now⟩ := by
          simp [observed?, hInput, hParse]
        dsimp only
        split
        · rename_i hIn
          subst hIn
          unfold handleInbound
          dsimp only
          split_ifs
          · exact ⟨.quiet, rfl⟩
          · exact ⟨.quiet, rfl⟩
          · exact ⟨.quiet, rfl⟩
          · split
            · rename_i hHit
              refine ⟨.dropped packet hPacket ?_, rfl⟩
              obtain ⟨stats, hStats, -⟩ := Option.bind_eq_some_iff.mp hHit
              exact Option.isSome_of_eq_some hStats
            · dsimp only
              rw [finishFlow_calls, (finishFlow_core _ _).2.1]
              exact ⟨.passed packet .inbound hPacket hUnknown, rfl⟩
        · have hOut : direction = .outbound := by cases direction <;> simp_all
          subst hOut
          unfold handleOutbound
          dsimp only
          split_ifs
          · exact ⟨.quiet, rfl⟩
          · dsimp only
            rw [finishFlow_calls, (finishFlow_core _ _).2.1]
            exact ⟨.passed packet .outbound hPacket hUnknown, rfl⟩

theorem StepCalls.reads_sublist {m : FlowManager F} {e : CaptureEvent F} {calls : List FlowCall}
    (h : StepCalls c m e calls) : (calls.flatMap FlowCall.reads).Sublist e.reads := by
  have hDiscards : ∀ ips : List UInt32, (ips.map FlowCall.discard).flatMap FlowCall.reads = [] := by
    intro ips
    induction ips with
    | nil => rfl
    | cons ip ips ih => exact ih
  cases h with
  | quiet => exact List.nil_sublist _
  | passed packet direction hPacket hDirection => simp [FlowCall.reads, CaptureEvent.reads]
  | dropped packet hPacket hCounted => simp [FlowCall.reads, CaptureEvent.reads]
  | ticked ips => simp [hDiscards, FlowCall.reads, CaptureEvent.reads]

theorem StepCalls.observations_sublist {m : FlowManager F} {e : CaptureEvent F}
    {calls : List FlowCall} (h : StepCalls c m e calls) :
    (observations calls).Sublist (observed? e).toList := by
  have hDiscards : ∀ ips : List UInt32, observations (ips.map FlowCall.discard) = [] := by
    intro ips
    induction ips with
    | nil => rfl
    | cons ip ips ih => exact ih
  cases h with
  | quiet => exact List.nil_sublist _
  | passed packet direction hPacket hDirection =>
    rw [hPacket]
    exact List.Sublist.refl _
  | dropped packet hPacket hCounted =>
    rw [hPacket]
    exact List.Sublist.refl _
  | ticked ips =>
    unfold observations at hDiscards ⊢
    rw [List.filterMap_append, hDiscards]
    exact List.nil_sublist _

/-! ## The calls of a run -/

theorem run_snoc (c : CaptureParams) (before : List (CaptureEvent F)) (e : CaptureEvent F) :
    run c (before ++ [e]) = (step c (run c before) e).1 := by
  simp [run, Machine.exec_append]

theorem callsOf_snoc (c : CaptureParams) (before : List (CaptureEvent F)) (e : CaptureEvent F) :
    callsOf c (before ++ [e]) = callsOf c before ++ (step c (run c before) e).2.calls := by
  simp [callsOf, run, Machine.trace_append]

/-- The flow manager of a run is the one its calls make. -/
theorem flowManager_run (c : CaptureParams) (events : List (CaptureEvent F)) :
    (run c events).flowManager = managerAfter c (callsOf c events) := by
  induction events using List.reverseRecOn with
  | nil => rfl
  | append_singleton events e ih =>
    rw [run_snoc, callsOf_snoc, managerAfter_append, ← ih]
    exact (step_flows c _ e).2

theorem callsOf_reads_sublist (s : PacketCapture F) (events : List (CaptureEvent F)) :
    (((Machine.trace (step c) s events).flatMap fun x => x.output.calls).flatMap
      FlowCall.reads).Sublist (events.flatMap CaptureEvent.reads) := by
  induction events generalizing s with
  | nil => exact List.nil_sublist _
  | cons e events ih =>
    rw [Machine.trace_cons, List.flatMap_cons, List.flatMap_append, List.flatMap_cons]
    exact (step_flows c s e).1.reads_sublist.append (ih _)

/-- The calls are given times that do not go back. -/
theorem chronological_callsOf {start : TimePoint} {events : List (CaptureEvent F)}
    (hc : Machine.Chronological CaptureEvent.reads start events) :
    Machine.Chronological FlowCall.reads start (callsOf c events) :=
  hc.sublist ((callsOf_reads_sublist _ events).cons_cons start)

/-- The last call is made no later than the last reading of the clock. -/
theorem finish_callsOf_le {start : TimePoint} {events : List (CaptureEvent F)}
    (hc : Machine.Chronological CaptureEvent.reads start events) :
    Machine.finish FlowCall.reads start (callsOf c events) ≤
      Machine.finish CaptureEvent.reads start events := by
  rw [Machine.finish_eq_getLastD, Machine.finish_eq_getLastD]
  exact Machine.le_getLastD hc _ (((callsOf_reads_sublist _ events).cons_cons start).subset
    List.getLastD_mem_cons)

/-- The observed packets are packets of the run, in order. -/
theorem observations_callsOf (c : CaptureParams) (events : List (CaptureEvent F)) :
    (observations (callsOf c events)).Sublist (events.filterMap observed?) := by
  unfold callsOf
  generalize PacketCapture.initial = s
  induction events generalizing s with
  | nil => exact List.nil_sublist _
  | cons e events ih =>
    have hHead := (step_flows c s e).1.observations_sublist
    rw [Machine.trace_cons, List.flatMap_cons, observations, List.filterMap_append]
    have hCons : (e :: events).filterMap observed? =
        (observed? e).toList ++ events.filterMap observed? := by
      rw [List.filterMap_cons]
      cases observed? e <;> rfl
    rw [hCons]
    exact hHead.append (ih _)

end InlineIps.PacketCapture
