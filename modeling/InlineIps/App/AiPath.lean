import InlineIps.Ai.AiAnswers
import InlineIps.Ai.Contract
import InlineIps.Capture.Submissions

/-!
# The way of a flow record

The capture thread hands the records of ended flows to the AI client and drains its decisions on
every tick; the worker of the client and the Qt thread act on the client at any time. Here the
three run together. A handler of the capture thread is one step, and the calls of `consume` that it
makes follow as steps of their own: the capture thread takes up nothing else in between.

* `Flowing`: where every record is, in order, and what the counters say of it.
* `records_in_order`: this along every interleaving.
-/

namespace InlineIps

open Library Library.Machine PacketCapture

structure AiPathParams (Text : Type) where
  capture : CaptureParams
  client : AiClientParams Text

/-- `outbox` holds the records that the running handler of the capture thread has still to hand
over. -/
structure AiPath (Text : Type) where
  capture : PacketCapture Float
  client : AsyncAiClient Text
  outbox : List (FlowRecord Float)

/-- What the Qt thread and the worker do with the client. -/
inductive ClientMove (Text : Type) where
  | start
  | setOnline (endpoint modelVersion : String)
  | setOffline
  | stop
  | exchange (outcome : AiExchange Text)
  | worker

def ClientMove.toAction {Text : Type} : ClientMove Text → AiAction Text
  | .start => .start
  | .setOnline endpoint modelVersion => .setOnline endpoint modelVersion
  | .setOffline => .setOffline
  | .stop => .stop
  | .exchange outcome => .exchange outcome
  | .worker => .worker

inductive AiPathEvent (Text : Type) where
  | packet (data : List UInt8) (direction : PacketDirection) (now : TimePoint)
    (later : List TimePoint)
  | tick (now : TimePoint) (later : List TimePoint)
  /-- The capture thread calls `consume`. -/
  | handOver
  | client (move : ClientMove Text)

structure AiPathOutput where
  effects : List (CaptureEffect Float) := []
  drained : List (AiDecision Float) := []

namespace AiPath

variable {Text : Type}

def initial : AiPath Text := ⟨.initial, .initial, []⟩

/-- The capture thread handles an event. -/
def handle (c : AiPathParams Text) (s : AiPath Text) (e : CaptureEvent Float) :
    AiPath Text × AiPathOutput :=
  let (capture, output) := PacketCapture.step c.capture s.capture e
  ({ s with capture, outbox := records output.effects }, { effects := output.effects })

def step (c : AiPathParams Text) (s : AiPath Text) :
    AiPathEvent Text → AiPath Text × AiPathOutput
  | .packet data direction now later =>
    if s.outbox.isEmpty then s.handle c ⟨.packet data direction, now, later⟩ else (s, {})
  | .tick now later =>
    if s.outbox.isEmpty then
      let (client, drained) := s.client.drainDecisions
      let (s, output) := { s with client }.handle c ⟨.tick drained, now, later⟩
      (s, { output with drained })
    else (s, {})
  | .handOver =>
    match s.outbox with
    | [] => (s, {})
    | record :: outbox =>
      ({ s with client := (s.client.consume c.client.queueCapacity record).1, outbox }, {})
  | .client move =>
    ({ s with client := (AsyncAiClient.step c.client s.client move.toAction).1 }, {})

abbrev AiPathTaken (Text : Type) := Taken (AiPath Text) (AiPathEvent Text) AiPathOutput

/-- The records that the handlers have made, in order. -/
def made (h : List (AiPathTaken Text)) : List (FlowRecord Float) :=
  h.flatMap fun x => records x.output.effects

/-- The decisions that the ticks have drained, in order. -/
def arrived (h : List (AiPathTaken Text)) : List (AiDecision Float) :=
  h.flatMap fun x => x.output.drained

/-- What the block handler was told, in order. -/
def told (h : List (AiPathTaken Text)) : List (AiBlockEvent Float) :=
  h.flatMap fun x => notifications x.output.effects

/-! ## The moves of the client -/

/-- The records that are queued, held by the worker or counted as a response. -/
def settled (s : AsyncAiClient Text) : Nat :=
  s.pendingFlows.length + s.worker.held.length + s.stats.normalResponses +
    s.stats.anomalyResponses + s.stats.protocolErrors

/-- What a move of the Qt thread or of the worker leaves alone. -/
structure Served (s s' : AsyncAiClient Text) : Prop where
  submitted : s'.stats.submitted = s.stats.submitted
  unavailableDropped : s'.stats.unavailableDropped = s.stats.unavailableDropped
  queueFullDropped : s'.stats.queueFullDropped = s.stats.queueFullDropped
  /-- A decision that is queued is counted. -/
  responses : s'.pendingDecisions.length + s.stats.anomalyResponses ≤
    s.pendingDecisions.length + s'.stats.anomalyResponses
  /-- A record that is counted was queued or held. -/
  settled : settled s' ≤ settled s

section Moves

variable {c : AiClientParams Text} {s s' : AsyncAiClient Text}

theorem served_sameStats (hstats : s'.stats = s.stats)
    (hdecisions : s'.pendingDecisions.length ≤ s.pendingDecisions.length)
    (hrecords : s'.pendingFlows.length + s'.worker.held.length ≤
      s.pendingFlows.length + s.worker.held.length) : Served s s' where
  submitted := by rw [hstats]
  unavailableDropped := by rw [hstats]
  queueFullDropped := by rw [hstats]
  responses := by
    rw [hstats]
    exact Nat.add_le_add_right hdecisions _
  settled := by
    unfold AiPath.settled
    rw [hstats]
    omega

/-- The worker lets go of its record, and counts it. -/
theorem settled_count (hflows : s'.pendingFlows = s.pendingFlows)
    (hheld : s.worker.held.length = 1) (hheld' : s'.worker.held = [])
    (hcount : s'.stats.normalResponses + s'.stats.anomalyResponses + s'.stats.protocolErrors =
      s.stats.normalResponses + s.stats.anomalyResponses + s.stats.protocolErrors + 1) :
    settled s' ≤ settled s := by
  unfold AiPath.settled
  rw [hflows, hheld, hheld', List.length_nil]
  omega

theorem served_worker {output : AiOutput} (hmove : AsyncAiClient.WorkerMove c s s' output) :
    Served s s' := by
  cases hmove with
  | take record rest hworker honline hflows =>
    refine served_sameStats rfl (Nat.le_refl _) ?_
    rw [hworker, hflows]
    exact Nat.le_refl _
  | keep w hjob hheld =>
    refine served_sameStats rfl (Nat.le_refl _) ?_
    show s.pendingFlows.length + w.held.length ≤ _
    rw [hheld]
  | drop job hjob => exact served_sameStats rfl (Nat.le_refl _) (Nat.le_add_right _ _)
  | reject job hworker =>
    refine served_sameStats rfl (Nat.le_refl _) ?_
    rw [hworker]
    exact Nat.le_refl _
  | fail job w hjob hheld =>
    refine served_sameStats rfl (Nat.zero_le _) ?_
    show 0 + w.held.length ≤ _
    rw [hheld]
    exact Nat.zero_le _
  | countNormal job hworker =>
    refine ⟨rfl, rfl, rfl, Nat.le_refl _, settled_count rfl (by rw [hworker]; rfl) rfl ?_⟩
    show s.stats.normalResponses + 1 + s.stats.anomalyResponses + s.stats.protocolErrors = _
    omega
  | countError job hworker =>
    refine ⟨rfl, rfl, rfl, Nat.le_refl _, settled_count rfl (by rw [hworker]; rfl) rfl ?_⟩
    show s.stats.normalResponses + s.stats.anomalyResponses + (s.stats.protocolErrors + 1) = _
    omega
  | idle w timeouts output hheld hheld' =>
    refine ⟨rfl, rfl, rfl, Nat.le_refl _, ?_⟩
    unfold AiPath.settled
    rw [hheld, hheld']
  | push job decision hworker hcurrent hroom =>
    refine ⟨rfl, rfl, rfl, ?_, settled_count rfl (by rw [hworker]; rfl) rfl ?_⟩
    · show (s.pendingDecisions ++ [decision]).length + s.stats.anomalyResponses ≤
        s.pendingDecisions.length + (s.stats.anomalyResponses + 1)
      rw [List.length_append, List.length_singleton]
      omega
    · show s.stats.normalResponses + (s.stats.anomalyResponses + 1) + s.stats.protocolErrors = _
      omega

theorem served_move (c : AiClientParams Text) (s : AsyncAiClient Text) (move : ClientMove Text) :
    Served s (AsyncAiClient.step c s move.toAction).1 := by
  cases move with
  | start =>
    show Served s s.start
    unfold AsyncAiClient.start
    split
    · exact served_sameStats rfl (Nat.le_refl _) (Nat.le_refl _)
    · exact served_sameStats rfl (Nat.le_refl _) (Nat.le_add_right _ _)
  | setOnline endpoint modelVersion =>
    show Served s (s.setOnline endpoint modelVersion)
    unfold AsyncAiClient.setOnline
    split
    · exact served_sameStats rfl (Nat.le_refl _) (Nat.le_refl _)
    · exact served_sameStats rfl (Nat.zero_le _) (Nat.add_le_add_right (Nat.zero_le _) _)
  | setOffline =>
    exact served_sameStats rfl (Nat.zero_le _) (Nat.add_le_add_right (Nat.zero_le _) _)
  | stop => exact served_sameStats rfl (Nat.zero_le _) (Nat.add_le_add_right (Nat.zero_le _) _)
  | exchange outcome =>
    show Served s (s.exchange outcome)
    unfold AsyncAiClient.exchange
    split
    · rename_i job hworker
      refine served_sameStats rfl (Nat.le_refl _) ?_
      show s.pendingFlows.length + (outcome.next job).held.length ≤ _
      rw [AsyncAiClient.held_eq (AiExchange.next_job? job outcome), hworker]
      exact Nat.le_refl _
    · exact served_sameStats rfl (Nat.le_refl _) (Nat.le_refl _)
  | worker => exact served_worker (AsyncAiClient.workerStep_move c s)

/-- A move of the Qt thread or of the worker can only lose records. -/
theorem onTheirWay_move (h : s.WellFormed c) (move : ClientMove Text) :
    (AsyncAiClient.step c s move.toAction).1.onTheirWay.Sublist s.onTheirWay := by
  have hmoves := AsyncAiClient.step_moves h move.toAction
  have hlost : ∀ x : AsyncAiClient.AiTaken Text, x.event = move.toAction →
      AsyncAiClient.effect x = .clear ∨ AsyncAiClient.effect x = .pass := by
    rintro ⟨before, event, output⟩ rfl
    cases move <;> cases output <;> first | exact .inl rfl | exact .inr rfl
  rcases hlost ⟨s, move.toAction, _⟩ rfl with hclear | hpass
  · rw [hclear] at hmoves
    rw [show (AsyncAiClient.step c s move.toAction).1.onTheirWay = [] from hmoves]
    exact List.nil_sublist _
  · rw [hpass] at hmoves
    exact hmoves

end Moves

/-! ## The invariant -/

/-- Where the records are. `made` are those of the handlers so far, `arrived` the decisions, and
`Answer` is what is known of the replies. -/
structure Flowing (c : AiPathParams Text) (Answer : AiJob → Text → Prop) (s : AiPath Text)
    (made : List (FlowRecord Float)) (arrived : List (AiDecision Float)) : Prop where
  wellFormed : s.client.WellFormed c.client
  /-- What has arrived, what is on its way in the client and what is handed over next were made in
  this order. -/
  order : (arrived.map AiDecision.record ++ s.client.onTheirWay ++ s.outbox).Sublist made
  first : 1 ≤ s.capture.nextFlowSequence
  numbers : made.map FlowRecord.flowId =
    (List.range' 1 (s.capture.nextFlowSequence - 1)).map c.capture.flowId
  /-- Every call of `consume` counts once. -/
  handed : made.length = s.client.stats.submitted + s.client.stats.unavailableDropped +
    s.client.stats.queueFullDropped + s.outbox.length
  answering : s.client.Answering c.client Answer
  answered : ∀ d ∈ arrived, AsyncAiClient.Answered c.client Answer d
  applied : appliedCount s.capture = arrived.length
  responses : arrived.length + s.client.pendingDecisions.length ≤ s.client.stats.anomalyResponses
  settled : settled s.client ≤ s.client.stats.submitted

section Flowing

variable {c : AiPathParams Text} {Answer : AiJob → Text → Prop} {s : AiPath Text}
  {made : List (FlowRecord Float)} {arrived : List (AiDecision Float)}

theorem initial_flowing (c : AiPathParams Text) (Answer : AiJob → Text → Prop) :
    Flowing c Answer (initial : AiPath Text) [] [] where
  wellFormed := AsyncAiClient.initial_wellFormed c.client
  order := List.nil_sublist _
  first := Nat.le_refl _
  numbers := rfl
  handed := rfl
  answering := AsyncAiClient.initial_answering c.client Answer
  answered _ hmem := absurd hmem List.not_mem_nil
  applied := rfl
  responses := Nat.le_refl _
  settled := Nat.le_refl _

/-- All decisions that the client makes are anomalies. -/
theorem answered_anomaly {d : AiDecision Float} (h : AsyncAiClient.Answered c.client Answer d) :
    d.anomaly = true := by
  obtain ⟨job, text, parsed, -, -, -, -, rfl⟩ := h
  rfl

theorem anomalies_answered {decisions : List (AiDecision Float)}
    (h : ∀ d ∈ decisions, AsyncAiClient.Answered c.client Answer d) :
    anomalies decisions = decisions.length :=
  List.countP_eq_length.mpr fun d hd => answered_anomaly (h d hd)

/-- The consecutive numbers of two steps. -/
theorem numbers_append (c : CaptureParams) {first middle last : Nat} (hfirst : first ≤ middle)
    (hlast : middle ≤ last) :
    (List.range' first (middle - first)).map c.flowId ++
        (List.range' middle (last - middle)).map c.flowId =
      (List.range' first (last - first)).map c.flowId := by
  have hsum : last - first = (middle - first) + (last - middle) := by omega
  have hmiddle : first + (middle - first) = middle := by omega
  rw [hsum, ← List.range'_append_1, hmiddle, List.map_append]

/-- A handler of the capture thread, with the decisions that it has drained. -/
theorem Flowing.handle (h : Flowing c Answer s made arrived) (drained : List (AiDecision Float))
    (hdrained : ∀ d ∈ drained, AsyncAiClient.Answered c.client Answer d) (hempty : s.outbox = [])
    (client : AsyncAiClient Text) (hclient : client.WellFormed c.client)
    (hstats : client.stats = s.client.stats)
    (horder : s.client.onTheirWay = drained.map AiDecision.record ++ client.onTheirWay)
    (hpending : s.client.pendingDecisions.length = drained.length + client.pendingDecisions.length)
    (hsettled : AiPath.settled client = AiPath.settled s.client)
    (hanswering : client.Answering c.client Answer) {e : CaptureEvent Float}
    (hdecisions : decisionsOf e = drained) :
    Flowing c Answer ({ s with client }.handle c e).1
      (made ++ records ({ s with client }.handle c e).2.effects) (arrived ++ drained) := by
  obtain ⟨hnext, hids⟩ := step_numbered c.capture s.capture e
  obtain ⟨-, hcount⟩ := step_told c.capture s.capture e
  have hsublist := h.order
  rw [hempty, List.append_nil, horder, ← List.append_assoc, ← List.map_append] at hsublist
  exact
    { wellFormed := hclient
      order := hsublist.append (List.Sublist.refl _)
      first := Nat.le_trans h.first hnext
      numbers := by
        show (made ++ records (PacketCapture.step c.capture s.capture e).2.effects).map _ = _
        rw [List.map_append, h.numbers, hids]
        exact numbers_append c.capture h.first hnext
      handed := by
        have hhanded := h.handed
        rw [hempty, List.length_nil, Nat.add_zero] at hhanded
        show (made ++ records (PacketCapture.step c.capture s.capture e).2.effects).length =
          client.stats.submitted + client.stats.unavailableDropped + client.stats.queueFullDropped +
            (records (PacketCapture.step c.capture s.capture e).2.effects).length
        rw [List.length_append, hstats, hhanded]
      answering := hanswering
      answered := fun d hd => (List.mem_append.mp hd).elim (h.answered d) (hdrained d)
      applied := by
        show appliedCount (PacketCapture.step c.capture s.capture e).1 = _
        rw [hcount, hdecisions, h.applied, anomalies_answered hdrained, List.length_append]
      responses := by
        have hresponses := h.responses
        show (arrived ++ drained).length + client.pendingDecisions.length ≤
          client.stats.anomalyResponses
        rw [List.length_append, hstats]
        omega
      settled := by
        show AiPath.settled client ≤ client.stats.submitted
        rw [hsettled, hstats]
        exact h.settled }

/-- The capture thread has nothing to hand over, or waits. -/
theorem Flowing.same (h : Flowing c Answer s made arrived) :
    Flowing c Answer s (made ++ []) (arrived ++ []) := by
  rw [List.append_nil, List.append_nil]
  exact h

/-- The capture thread hands over its next record: the client takes it or counts a loss. -/
theorem Flowing.handOver (h : Flowing c Answer s made arrived) {record : FlowRecord Float}
    {outbox : List (FlowRecord Float)} (houtbox : s.outbox = record :: outbox) :
    Flowing c Answer
      { s with client := (s.client.consume c.client.queueCapacity record).1, outbox } made
      arrived := by
  have hsublist := h.order
  have hhanded := h.handed
  rw [houtbox] at hsublist hhanded
  rw [List.length_cons] at hhanded
  have hnone : s.client.arriving (.consume record) = none := by
    unfold AsyncAiClient.arriving
    cases s.client.worker <;> rfl
  have hanswering :
      (AsyncAiClient.step c.client s.client (.consume record)).1.Answering c.client Answer := by
    refine AsyncAiClient.step_answering h.answering fun job text harriving => ?_
    rw [hnone] at harriving
    cases harriving
  refine
    { h with
      wellFormed := h.wellFormed.consume record
      answering := hanswering
      order := ?_
      handed := ?_
      responses := ?_
      settled := ?_ }
  all_goals unfold AsyncAiClient.consume
  · split_ifs
    · exact (((List.Sublist.refl _).append (List.sublist_cons_self _ _))).trans hsublist
    · exact (((List.Sublist.refl _).append (List.sublist_cons_self _ _))).trans hsublist
    · simpa only [AsyncAiClient.onTheirWay, List.append_assoc, List.cons_append, List.nil_append]
        using hsublist
  · split_ifs <;> dsimp only <;> omega
  · split_ifs <;> exact h.responses
  · have hsettled := h.settled
    unfold AiPath.settled at hsettled ⊢
    split_ifs
    · exact hsettled
    · exact hsettled
    · dsimp only
      rw [List.length_append, List.length_singleton]
      omega

theorem Flowing.move (h : Flowing c Answer s made arrived) {move : ClientMove Text}
    (harriving : ∀ job text, s.client.arriving move.toAction = some (job, text) → Answer job text) :
    Flowing c Answer
      { s with client := (AsyncAiClient.step c.client s.client move.toAction).1 } made
      arrived := by
  have hserved := served_move c.client s.client move
  refine
    { h with
      wellFormed := AsyncAiClient.step_wellFormed h.wellFormed move.toAction
      answering := AsyncAiClient.step_answering h.answering harriving
      order := ?_
      handed := ?_
      responses := ?_
      settled := ?_ }
  · refine List.Sublist.trans ?_ h.order
    have hmoved := onTheirWay_move h.wellFormed move
    exact ((List.Sublist.refl _).append hmoved).append (List.Sublist.refl _)
  · show made.length = (AsyncAiClient.step c.client s.client move.toAction).1.stats.submitted +
      (AsyncAiClient.step c.client s.client move.toAction).1.stats.unavailableDropped +
      (AsyncAiClient.step c.client s.client move.toAction).1.stats.queueFullDropped +
      s.outbox.length
    rw [hserved.submitted, hserved.unavailableDropped, hserved.queueFullDropped]
    exact h.handed
  · have hresponses := h.responses
    have hgrown := hserved.responses
    dsimp only
    omega
  · exact hserved.submitted ▸ Nat.le_trans hserved.settled h.settled

/-- Every reply that comes to the worker is an answer. -/
def AnsweredBy (Answer : AiJob → Text → Prop) (s : AiPath Text) (e : AiPathEvent Text) : Prop :=
  ∀ move, e = .client move → ∀ job text, s.client.arriving move.toAction = some (job, text) →
    Answer job text

/-- **Every step keeps the records flowing.** -/
theorem Flowing.step (h : Flowing c Answer s made arrived) {e : AiPathEvent Text}
    (hanswers : AnsweredBy Answer s e) :
    Flowing c Answer (step c s e).1 (made ++ records (step c s e).2.effects)
      (arrived ++ (step c s e).2.drained) := by
  cases e with
  | packet data direction now later =>
    unfold AiPath.step
    dsimp only
    split
    · rename_i hempty
      exact h.handle [] (fun _ hmem => absurd hmem List.not_mem_nil) (List.isEmpty_iff.mp hempty)
        s.client h.wellFormed rfl rfl (Nat.zero_add _).symm rfl h.answering rfl
    · exact h.same
  | tick now later =>
    unfold AiPath.step
    dsimp only
    split
    · rename_i hempty
      have hanswering : s.client.drainDecisions.1.Answering c.client Answer :=
        h.answering.sameWorker rfl fun _ hmem => absurd hmem List.not_mem_nil
      exact h.handle (e := ⟨.tick s.client.pendingDecisions, now, later⟩) s.client.pendingDecisions
        h.answering.pending (List.isEmpty_iff.mp hempty) s.client.drainDecisions.1
        h.wellFormed.drainDecisions rfl rfl rfl rfl hanswering rfl
    · exact h.same
  | handOver =>
    unfold AiPath.step
    dsimp only
    split
    · exact h.same
    · rename_i record outbox houtbox
      exact (h.handOver houtbox).same
  | client move => exact (h.move (hanswers move rfl)).same

theorem flowing_run {events : List (AiPathEvent Text)}
    (hanswers : Along (AiPath.step c) (AnsweredBy Answer) initial events) :
    Flowing c Answer (exec (AiPath.step c) initial events)
      (AiPath.made (trace (AiPath.step c) initial events))
      (AiPath.arrived (trace (AiPath.step c) initial events)) := by
  induction events using List.reverseRecOn with
  | nil => exact initial_flowing c Answer
  | append_singleton events e ih =>
    obtain ⟨hbefore, hlast, -⟩ := (along_append _ _ _).mp hanswers
    have hnext := (ih hbefore).step hlast
    rw [trace_append, Machine.exec_append]
    unfold AiPath.made AiPath.arrived at hnext ⊢
    rw [List.flatMap_append, List.flatMap_append]
    simpa using hnext

/-- What the block handler is told in a step goes back to some of the decisions, in their order. -/
theorem step_drained (c : AiPathParams Text) (s : AiPath Text) (e : AiPathEvent Text) :
    ∃ blocking, List.Sublist blocking (AiPath.step c s e).2.drained ∧
      notifications (AiPath.step c s e).2.effects = blocking.map (notification c.capture) := by
  cases e with
  | packet data direction now later =>
    unfold AiPath.step
    dsimp only
    split
    · exact (step_told c.capture s.capture ⟨.packet data direction, now, later⟩).1
    · exact ⟨[], List.nil_sublist _, rfl⟩
  | tick now later =>
    unfold AiPath.step
    dsimp only
    split
    · exact (step_told c.capture s.capture ⟨.tick s.client.pendingDecisions, now, later⟩).1
    · exact ⟨[], List.nil_sublist _, rfl⟩
  | handOver =>
    unfold AiPath.step
    dsimp only
    split <;> exact ⟨[], List.nil_sublist _, rfl⟩
  | client move => exact ⟨[], List.nil_sublist _, rfl⟩

/-- A decision that is drained was waiting, and its record was made before. -/
theorem Flowing.drained_pending (h : Flowing c Answer s made arrived) {e : AiPathEvent Text}
    {d : AiDecision Float} (hd : d ∈ (AiPath.step c s e).2.drained) :
    d ∈ s.client.pendingDecisions ∧ d.record ∈ made := by
  have hpending : d ∈ s.client.pendingDecisions := by
    cases e with
    | tick now later =>
      unfold AiPath.step at hd
      dsimp only at hd
      split at hd
      · exact hd
      · exact absurd hd List.not_mem_nil
    | packet data direction now later =>
      unfold AiPath.step at hd
      dsimp only at hd
      split at hd <;> exact absurd hd List.not_mem_nil
    | handOver =>
      unfold AiPath.step at hd
      dsimp only at hd
      split at hd <;> exact absurd hd List.not_mem_nil
    | client move => exact absurd hd List.not_mem_nil
  refine ⟨hpending, h.order.subset (List.mem_append_left _ (List.mem_append_right _ ?_))⟩
  exact List.mem_append_left _ (List.mem_map_of_mem hpending)

/-- The same of a run. -/
theorem told_run (c : AiPathParams Text) (events : List (AiPathEvent Text)) :
    ∃ blocking, List.Sublist blocking (AiPath.arrived (trace (AiPath.step c) initial events)) ∧
      told (trace (AiPath.step c) initial events) = blocking.map (notification c.capture) := by
  generalize (initial : AiPath Text) = s
  induction events generalizing s with
  | nil => exact ⟨[], List.nil_sublist _, rfl⟩
  | cons e events ih =>
    obtain ⟨blocking, hsub, hnotified⟩ := step_drained c s e
    obtain ⟨blocking', hsub', hnotified'⟩ := ih (AiPath.step c s e).1
    refine ⟨blocking ++ blocking', ?_, ?_⟩
    · exact hsub.append hsub'
    · rw [List.map_append, ← hnotified, ← hnotified']
      rfl

end Flowing

/-- The flow ids of a list of records that were numbered one after the other are distinct. -/
theorem nodup_numbers (c : CaptureParams) (n : Nat) :
    ((List.range' 1 n).map c.flowId).Nodup :=
  List.Nodup.map (fun _ _ hid => flowId_injective c hid) List.nodup_range'

/-- **On every interleaving of the capture thread, the Qt thread and the worker, records stay in
order and none is decided twice.** Those that were made were submitted, dropped, or are handed over
next, and no more were answered or given up than were submitted. -/
theorem records_in_order (c : AiPathParams Text) (events : List (AiPathEvent Text)) :
    let s := exec (step c) initial events
    let h := trace (step c) initial events
    -- the records are numbered without a gap
    (made h).map FlowRecord.flowId =
      (List.range' 1 (s.capture.nextFlowSequence - 1)).map c.capture.flowId ∧
    -- what was decided, is on its way or is handed over next was made in this order
    ((arrived h).map AiDecision.record ++ s.client.onTheirWay ++ s.outbox).Sublist (made h) ∧
    -- the block handler was told of some of the decisions, of no record twice
    (∃ blocking, List.Sublist blocking (arrived h) ∧
      told h = blocking.map (notification c.capture)) ∧
    ((told h).map AiBlockEvent.flowId).Nodup ∧
    -- every record is handed over once, every decision is applied once
    s.capture.nextFlowSequence - 1 = s.client.stats.submitted + s.client.stats.unavailableDropped +
      s.client.stats.queueFullDropped + s.outbox.length ∧
    appliedCount s.capture = (arrived h).length ∧
    (arrived h).length + s.client.pendingDecisions.length ≤ s.client.stats.anomalyResponses ∧
    settled s.client ≤ s.client.stats.submitted := by
  intro s h
  have hanswers : ∀ s' : AiPath Text, Along (step c) (AnsweredBy fun _ _ => True) s' events := by
    intro s'
    refine along_mono (fun _ _ _ => ?_) (along_true s' events)
    exact fun _ _ _ _ _ => trivial
  have hflowing := flowing_run (c := c) (hanswers initial)
  obtain ⟨blocking, hsub, htold⟩ := told_run c events
  refine ⟨hflowing.numbers, hflowing.order, ⟨blocking, hsub, htold⟩, ?_, ?_, hflowing.applied,
    hflowing.responses, hflowing.settled⟩
  · have hids : ((told h).map AiBlockEvent.flowId).Sublist ((made h).map FlowRecord.flowId) := by
      have hblocking : (blocking.map AiDecision.record).Sublist (made h) := by
        refine (hsub.map AiDecision.record).trans (List.Sublist.trans ?_ hflowing.order)
        rw [List.append_assoc]
        exact List.sublist_append_left _ _
      rw [htold, List.map_map]
      have hflowIds := hblocking.map FlowRecord.flowId
      rwa [List.map_map] at hflowIds
    rw [hflowing.numbers] at hids
    exact (nodup_numbers c.capture _).sublist hids
  · have hlength := congrArg List.length hflowing.numbers
    rw [List.length_map, List.length_map, List.length_range'] at hlength
    rw [← hlength]
    exact hflowing.handed

end AiPath

end InlineIps
