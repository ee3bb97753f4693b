import InlineIps.Ai.AsyncAiClient
import InlineIps.Library.Pipeline

/-!
# The decisions of the AI client

The records accepted by `consume` are on their way to `drain_decisions`: in the first
queue, in the round of the worker, in the second queue. A record of an earlier
connection is no longer on its way, whatever the worker still does with it.

* `step_moves`: an action moves the records on their way as a pipeline with losses.
* `Connected`: the client is in the connection of an earlier `set_online`.
* `decisions_isolated`: every drained decision goes back to a record accepted in the
  connection in which it is drained, in the order of acceptance and at most once.
-/

namespace InlineIps

open Library Library.Machine Library.Pipeline

variable {Text : Type}

/-! ## Records on their way -/

/-- The record of the round, when it is a round of the connection. -/
def AiWorker.carried (w : AiWorker Text) (generation : Nat) : List (FlowRecord Float) :=
  match w.job? with
  | some job => if job.generation = generation then [job.inFlight] else []
  | none => []

theorem AiWorker.carried_noJob {w : AiWorker Text} (hjob : w.job? = none) (generation : Nat) :
    w.carried generation = [] := by
  simp [carried, hjob]

theorem AiWorker.carried_current {w : AiWorker Text} {job : AiJob} (hjob : w.job? = some job) :
    w.carried job.generation = [job.inFlight] := by
  simp [carried, hjob]

/-- A round of an earlier connection carries no record. -/
theorem AiWorker.carried_stale {w : AiWorker Text} {generation : Nat}
    (hstale : ∀ job, w.job? = some job → job.generation < generation) :
    w.carried generation = [] := by
  unfold carried
  split
  · rename_i job hjob
    exact if_neg (Nat.ne_of_lt (hstale job hjob))
  · rfl

theorem AiWorker.carried_congr {w w' : AiWorker Text} (hjob : w'.job? = w.job?)
    (generation : Nat) : w'.carried generation = w.carried generation := by
  simp [carried, hjob]

namespace AsyncAiClient

variable {c : AiClientParams Text} {s : AsyncAiClient Text}

/-- The records on their way, the oldest first. -/
def onTheirWay (s : AsyncAiClient Text) : List (FlowRecord Float) :=
  s.pendingDecisions.map AiDecision.record ++
    (s.worker.carried s.connectionGeneration ++ s.pendingFlows)

/-- An action of a run with its output. -/
abbrev AiTaken (Text : Type) := Taken (AsyncAiClient Text) (AiAction Text) AiOutput

/-- The connection ends, or a new one begins. -/
def breaks (x : AiTaken Text) : Bool :=
  match x.event, x.output with
  | .setOnline _ _, _ | .setOffline, _ | .stop, _ | _, .transportFailed => true
  | _, _ => false

/-- What an action does to the records on their way. -/
def effect (x : AiTaken Text) : Effect (FlowRecord Float) :=
  match x.event, x.output with
  | .setOnline _ _, _ | .setOffline, _ | .stop, _ | _, .transportFailed => .clear
  | .consume record, .consumed true => .accept record
  | .drainDecisions, .drained decisions => .deliver (decisions.map AiDecision.record)
  | _, _ => .pass

/-- The decisions an action returned. -/
def drained (x : AiTaken Text) : List (AiDecision Float) :=
  match x.event, x.output with
  | .drainDecisions, .drained decisions => decisions
  | _, _ => []

theorem effect_eq_clear {x : AiTaken Text} {endpoint modelVersion : String}
    (hevent : x.event = .setOnline endpoint modelVersion) : effect x = .clear := by
  simp [effect, hevent]

theorem of_effect_eq_accept {x : AiTaken Text} {record : FlowRecord Float}
    (heffect : effect x = .accept record) :
    x.event = .consume record ∧ x.output = .consumed true := by
  unfold effect at heffect
  split at heffect
  case h_5 hevent houtput =>
    cases heffect
    exact ⟨hevent, houtput⟩
  all_goals cases heffect

theorem delivered_effect (x : AiTaken Text) :
    (effect x).delivered = (drained x).map AiDecision.record := by
  obtain ⟨before, event, output⟩ := x
  cases event <;> cases output <;> try rfl
  rename_i accepted
  cases accepted <;> rfl

theorem onTheirWay_offline (h : WellFormed c s) (hoffline : s.online = false) :
    s.onTheirWay = [] := by
  obtain ⟨hflows, hdecisions⟩ := h.offline hoffline
  simp [onTheirWay, hflows, hdecisions, AiWorker.carried_stale (h.stale hoffline)]

theorem onTheirWay_setOnline (h : WellFormed c s) (endpoint modelVersion : String) :
    (s.setOnline endpoint modelVersion).onTheirWay = [] := by
  unfold setOnline
  split
  · rename_i hstop
    exact onTheirWay_offline h (h.stopped hstop)
  · have hstale : s.worker.carried (s.connectionGeneration + 1) = [] :=
      AiWorker.carried_stale fun job hjob => Nat.lt_succ_of_le (h.generation job hjob)
    simp [onTheirWay, hstale]

/-- Without its job the worker can only lose the record of the round. -/
theorem onTheirWay_leave (s : AsyncAiClient Text) {w : AiWorker Text} (hjob : w.job? = none)
    (stats : AiClientStatsSnapshot) :
    ({ s with worker := w, stats } : AsyncAiClient Text).onTheirWay.Sublist s.onTheirWay := by
  unfold onTheirWay
  rw [AiWorker.carried_noJob hjob]
  exact (List.sublist_append_right _ _).append_left _

/-! ## The steps of the pipeline -/

theorem consume_moves (c : AiClientParams Text) (s : AsyncAiClient Text)
    (record : FlowRecord Float) :
    Moves (effect ⟨s, .consume record, .consumed (s.consume c.queueCapacity record).2⟩)
      s.onTheirWay (s.consume c.queueCapacity record).1.onTheirWay := by
  unfold consume
  split
  · exact List.Sublist.refl _
  · split
    · exact List.Sublist.refl _
    · simp [effect, Moves, onTheirWay]

theorem drainDecisions_moves (s : AsyncAiClient Text) :
    Moves (effect ⟨s, .drainDecisions, .drained s.drainDecisions.2⟩) s.onTheirWay
      s.drainDecisions.1.onTheirWay := by
  simp [drainDecisions, effect, Moves, onTheirWay]

theorem onTheirWay_start (s : AsyncAiClient Text) : s.start.onTheirWay.Sublist s.onTheirWay := by
  unfold start
  split
  · exact List.Sublist.refl _
  · exact onTheirWay_leave { s with started := true } (w := .waiting) rfl s.stats

theorem onTheirWay_exchange (s : AsyncAiClient Text) (outcome : AiExchange Text) :
    (s.exchange outcome).onTheirWay = s.onTheirWay := by
  unfold exchange
  split
  · rename_i job hworker
    simp [onTheirWay, AiWorker.carried_congr (outcome.next_job?_eq hworker)]
  · rfl

theorem worker_moves (h : WellFormed c s) {s' : AsyncAiClient Text} {output : AiOutput}
    (hmove : WorkerMove c s s' output) :
    Moves (effect ⟨s, .worker, output⟩) s.onTheirWay s'.onTheirWay := by
  cases hmove with
  | take record rest hworker honline hflows =>
    have hnone (generation : Nat) : s.worker.carried generation = [] := by
      rw [hworker]
      rfl
    have hone : (AiWorker.exchanging
        ⟨record, s.endpoint, s.modelVersion, s.connectionGeneration⟩ : AiWorker Text).carried
          s.connectionGeneration = [record] := by
      simp [AiWorker.carried, AiWorker.job?]
    have hsame : ({ s with
        pendingFlows := rest
        worker := .exchanging ⟨record, s.endpoint, s.modelVersion, s.connectionGeneration⟩ } :
        AsyncAiClient Text).onTheirWay = s.onTheirWay := by
      simp [onTheirWay, hnone, hone, hflows]
    exact hsame ▸ List.Sublist.refl _
  | keep w hjob hheld hhonest =>
    have hsame : ({ s with worker := w } : AsyncAiClient Text).onTheirWay = s.onTheirWay := by
      simp [onTheirWay, AiWorker.carried_congr hjob]
    exact hsame ▸ List.Sublist.refl _
  | drop job hjob hstale => exact onTheirWay_leave s rfl s.stats
  | countNormal job hworker hcurrent => exact onTheirWay_leave s rfl _
  | reject job hworker hcurrent => exact onTheirWay_leave s rfl s.stats
  | countError job hworker => exact onTheirWay_leave s rfl _
  | idle w timeouts output hheld hheld' houtput =>
    have hjob := job?_of_held hheld'
    rcases houtput with rfl | ⟨reason, rfl⟩
    · exact onTheirWay_leave s hjob _
    · exact onTheirWay_leave s hjob _
  | push job decision hworker hcurrent hroom =>
    simp only [isCurrent, Bool.and_eq_true, beq_iff_eq] at hcurrent
    have hjob : s.worker.job? = some job := by rw [hworker]; rfl
    -- the record of the round becomes that of the last decision
    have hsame : ({ s with
        pendingDecisions := s.pendingDecisions ++ [decision]
        worker := .waiting
        stats := { s.stats with anomalyResponses := s.stats.anomalyResponses + 1 } } :
        AsyncAiClient Text).onTheirWay = s.onTheirWay := by
      simp [onTheirWay, hcurrent.2, AiWorker.carried_current hjob,
        AiWorker.carried_noJob (w := (.waiting : AiWorker Text)) rfl,
        (h.honest job decision hworker).1]
    exact hsame ▸ List.Sublist.refl _
  | fail job w hjob hheld =>
    exact onTheirWay_offline (h.setOffline.withWorker (job?_of_held hheld) s.stats) rfl

/-- **An action moves the records on their way as a pipeline with losses.** -/
theorem step_moves (h : WellFormed c s) (action : AiAction Text) :
    Moves (effect ⟨s, action, (step c s action).2⟩) s.onTheirWay
      (step c s action).1.onTheirWay := by
  cases action with
  | start => exact onTheirWay_start s
  | setOnline endpoint modelVersion => exact onTheirWay_setOnline h endpoint modelVersion
  | setOffline => exact onTheirWay_offline h.setOffline rfl
  | stop => exact onTheirWay_offline h.stop rfl
  | consume record => exact consume_moves c s record
  | drainDecisions => exact drainDecisions_moves s
  | exchange outcome =>
    have hsame : (step c s (.exchange outcome)).1.onTheirWay = s.onTheirWay :=
      onTheirWay_exchange s outcome
    exact hsame ▸ List.Sublist.refl _
  | worker => exact worker_moves h (workerStep_move c s)

/-! ## Connections -/

/-- Position `q` of a history is the `set_online` of the connection, with this model
version, that still holds behind the first `d` actions. -/
structure Connected (h : List (AiTaken Text)) (d q : Nat) (modelVersion : String) : Prop where
  before : q < d
  within : d ≤ h.length
  connect : ∃ x endpoint, h[q]? = some x ∧ x.event = .setOnline endpoint modelVersion
  unbroken : ∀ i x, q < i → i < d → h[i]? = some x → breaks x = false

theorem Connected.snoc {h : List (AiTaken Text)} {d q : Nat} {modelVersion : String}
    (hconnected : Connected h d q modelVersion) (x : AiTaken Text) :
    Connected (h ++ [x]) d q modelVersion where
  before := hconnected.before
  within := by
    rw [List.length_append]
    exact Nat.le_add_right_of_le hconnected.within
  connect := by
    obtain ⟨y, endpoint, hy, hevent⟩ := hconnected.connect
    have hlt := Nat.lt_of_lt_of_le hconnected.before hconnected.within
    exact ⟨y, endpoint, by rw [List.getElem?_append_left hlt, hy], hevent⟩
  unbroken i y hq hd hy := by
    rw [List.getElem?_append_left (Nat.lt_of_lt_of_le hd hconnected.within)] at hy
    exact hconnected.unbroken i y hq hd hy

theorem Connected.stays {h : List (AiTaken Text)} {q : Nat} {modelVersion : String}
    (hconnected : Connected h h.length q modelVersion) {x : AiTaken Text}
    (hx : breaks x = false) : Connected (h ++ [x]) (h ++ [x]).length q modelVersion where
  before := by
    rw [List.length_append]
    exact Nat.lt_add_right _ hconnected.before
  within := Nat.le_refl _
  connect := (hconnected.snoc x).connect
  unbroken i y hq hi hy := by
    rw [List.length_append, List.length_singleton] at hi
    rcases Nat.lt_succ_iff_lt_or_eq.mp hi with hlt | rfl
    · exact (hconnected.snoc x).unbroken i y hq hlt hy
    · rw [List.getElem?_concat_length] at hy
      cases hy
      exact hx

theorem connected_setOnline (h : List (AiTaken Text)) {x : AiTaken Text}
    {endpoint modelVersion : String} (hevent : x.event = .setOnline endpoint modelVersion) :
    Connected (h ++ [x]) (h ++ [x]).length h.length modelVersion where
  before := by simp
  within := Nat.le_refl _
  connect := ⟨x, endpoint, by simp, hevent⟩
  unbroken i y hq hi _ := by
    rw [List.length_append, List.length_singleton] at hi
    omega

/-- The connection is the same and not broken. -/
structure SameConnection (s s' : AsyncAiClient Text) (x : AiTaken Text) : Prop where
  online : s'.online = s.online
  modelVersion : s'.modelVersion = s.modelVersion
  unbroken : breaks x = false

theorem consume_connection (c : AiClientParams Text) (s : AsyncAiClient Text)
    (record : FlowRecord Float) :
    SameConnection s (s.consume c.queueCapacity record).1
      ⟨s, .consume record, .consumed (s.consume c.queueCapacity record).2⟩ := by
  unfold consume
  split
  · exact ⟨rfl, rfl, rfl⟩
  · split <;> exact ⟨rfl, rfl, rfl⟩

theorem worker_connection {s' : AsyncAiClient Text} {output : AiOutput}
    (hmove : WorkerMove c s s' output) (honline : s'.online = true) :
    SameConnection s s' ⟨s, .worker, output⟩ := by
  cases hmove with
  | idle w timeouts output hheld hheld' houtput =>
    rcases houtput with rfl | ⟨reason, rfl⟩ <;> exact ⟨rfl, rfl, rfl⟩
  | fail job w hjob hheld => cases honline
  | _ => exact ⟨rfl, rfl, rfl⟩

/-- An action that ends online begins a connection or keeps it. -/
theorem step_connection (h : WellFormed c s) (action : AiAction Text)
    (honline : (step c s action).1.online = true) :
    (∃ endpoint, action = .setOnline endpoint (step c s action).1.modelVersion) ∨
      SameConnection s (step c s action).1 ⟨s, action, (step c s action).2⟩ := by
  cases action with
  | start =>
    refine .inr ⟨?_, ?_, rfl⟩ <;> simp only [step, start] <;> split <;> rfl
  | setOnline endpoint modelVersion =>
    left
    cases hstop : s.stopRequested with
    | true =>
      have hsame : s.setOnline endpoint modelVersion = s := by simp [setOnline, hstop]
      simp only [step, hsame, h.stopped hstop] at honline
      cases honline
    | false => exact ⟨endpoint, by simp [step, setOnline, hstop]⟩
  | setOffline => cases honline
  | stop => cases honline
  | consume record => exact .inr (consume_connection c s record)
  | drainDecisions => exact .inr ⟨rfl, rfl, rfl⟩
  | exchange outcome =>
    refine .inr ⟨?_, ?_, rfl⟩ <;> simp only [step, exchange] <;> split <;> rfl
  | worker => exact .inr (worker_connection (workerStep_move c s) honline)

/-! ## Drained decisions -/

/-- The decisions drained in a history, in order, with the positions of their calls. -/
def drainedAt (h : List (AiTaken Text)) : List (Nat × AiDecision Float) :=
  h.zipIdx.flatMap fun x => (drained x.1).map (x.2, ·)

theorem drainedAt_snoc (h : List (AiTaken Text)) (x : AiTaken Text) :
    drainedAt (h ++ [x]) = drainedAt h ++ (drained x).map (h.length, ·) := by
  simp [drainedAt, List.zipIdx_append]

theorem deliveries_effect (h : List (AiTaken Text)) :
    deliveries (h.map effect) = (drainedAt h).map fun x => (x.1, x.2.record) := by
  simp [deliveries, drainedAt, List.zipIdx_map, List.flatMap_map, List.map_flatMap,
    delivered_effect, Function.comp_def]

/-- What holds of a history: its effects are a run of the pipeline, and an online client
and every drained decision are in the connection of a `set_online`. -/
structure Tracked (c : AiClientParams Text) (s : AsyncAiClient Text) (h : List (AiTaken Text)) :
    Prop where
  wellFormed : WellFormed c s
  run : Run (h.map effect) s.onTheirWay
  connected : s.online = true → ∃ q, Connected h h.length q s.modelVersion
  drained : ∀ x ∈ drainedAt h, ∃ q, Connected h x.1 q x.2.modelVersion

theorem initial_tracked (c : AiClientParams Text) : Tracked c initial [] where
  wellFormed := initial_wellFormed c
  run := .nil
  connected honline := by cases honline
  drained := by simp [drainedAt]

/-- A drained decision is of the connection of the client. -/
theorem Tracked.connected_of_drained {h : List (AiTaken Text)} (htracked : Tracked c s h)
    {action : AiAction Text} {decision : AiDecision Float}
    (hmem : decision ∈ AsyncAiClient.drained ⟨s, action, (AsyncAiClient.step c s action).2⟩) :
    ∃ q, Connected h h.length q decision.modelVersion := by
  cases action with
  | drainDecisions =>
    have hpending : decision ∈ s.pendingDecisions := hmem
    rw [htracked.wellFormed.versions decision hpending]
    refine htracked.connected ?_
    by_contra hoffline
    rw [(htracked.wellFormed.offline (Bool.eq_false_of_not_eq_true hoffline)).2] at hpending
    cases hpending
  | _ => simp [AsyncAiClient.drained] at hmem

theorem Tracked.step {h : List (AiTaken Text)} (htracked : Tracked c s h)
    (action : AiAction Text) :
    Tracked c (step c s action).1 (h ++ [⟨s, action, (step c s action).2⟩]) where
  wellFormed := step_wellFormed htracked.wellFormed action
  run := by
    rw [List.map_append]
    exact htracked.run.snoc (step_moves htracked.wellFormed action)
  connected honline := by
    rcases step_connection htracked.wellFormed action honline with ⟨endpoint, hevent⟩ | hsame
    · exact ⟨h.length, connected_setOnline h hevent⟩
    · obtain ⟨q, hq⟩ := htracked.connected (hsame.online.symm.trans honline)
      exact ⟨q, hsame.modelVersion ▸ hq.stays hsame.unbroken⟩
  drained x hx := by
    rw [drainedAt_snoc, List.mem_append] at hx
    rcases hx with hold | hnew
    · obtain ⟨q, hq⟩ := htracked.drained x hold
      exact ⟨q, hq.snoc _⟩
    · obtain ⟨decision, hdecision, rfl⟩ := List.mem_map.mp hnew
      obtain ⟨q, hq⟩ := htracked.connected_of_drained hdecision
      exact ⟨q, hq.snoc _⟩

theorem history_tracked (c : AiClientParams Text) (actions : List (AiAction Text)) :
    Tracked c (reached c actions) (history c actions) :=
  trace_invariant (Tracked c) (fun _ _ action htracked => htracked.step action) (initial_tracked c)

/-- A decision drained at `x.1` goes back to the `set_online` at position `q`, which gave
its model version, and to the accepting `consume` of its record at position `p`. -/
structure GoesBack (h : List (AiTaken Text)) (q p : Nat) (x : Nat × AiDecision Float) : Prop where
  connect : ∃ y endpoint, h[q]? = some y ∧ y.event = .setOnline endpoint x.2.modelVersion
  accept : ∃ y, h[p]? = some y ∧ y.event = .consume x.2.record ∧ y.output = .consumed true
  connect_accept : q < p
  accept_drain : p < x.1
  /-- No `set_online`, `set_offline`, `stop` or transport failure in between. -/
  unbroken : ∀ i y, q < i → i < x.1 → h[i]? = some y → breaks y = false

theorem goesBack {h : List (AiTaken Text)} {q p : Nat} {x : Nat × AiDecision Float}
    (hcarried : Carried (h.map effect) x.1 p x.2.record)
    (hconnected : Connected h x.1 q x.2.modelVersion) : GoesBack h q p x where
  connect := hconnected.connect
  accept := by
    have haccepted := hcarried.accepted
    rw [List.getElem?_map, Option.map_eq_some_iff] at haccepted
    obtain ⟨y, hy, heffect⟩ := haccepted
    exact ⟨y, hy, of_effect_eq_accept heffect⟩
  connect_accept := by
    obtain ⟨y, endpoint, hy, hevent⟩ := hconnected.connect
    have hclear : (h.map effect)[q]? = some .clear := by
      rw [List.getElem?_map, hy, Option.map_some, effect_eq_clear hevent]
    rcases Nat.lt_trichotomy q p with hlt | rfl | hgt
    · exact hlt
    · rw [hcarried.accepted] at hclear
      cases hclear
    · exact absurd hclear (hcarried.kept q hgt hconnected.before)
  accept_drain := hcarried.before
  unbroken := hconnected.unbroken

/-- **Decisions are isolated per connection and neither duplicated nor reordered.** On any
interleaving, the drained decisions go back to accepted records in the order of their
acceptance, each within one connection, and both queues stay within their capacity. -/
theorem decisions_isolated (c : AiClientParams Text) (actions : List (AiAction Text)) :
    (∃ accepted : List Nat, accepted.Pairwise (· < ·) ∧
      List.Forall₂ (fun p x => ∃ q, GoesBack (history c actions) q p x) accepted
        (drainedAt (history c actions))) ∧
    (reached c actions).pendingFlows.length ≤ c.queueCapacity ∧
    (reached c actions).pendingDecisions.length ≤ c.queueCapacity := by
  have htracked := history_tracked c actions
  refine ⟨?_, htracked.wellFormed.flowsRoom, htracked.wellFormed.decisionsRoom⟩
  obtain ⟨accepted, waiting, hcarried, -, hordered⟩ := htracked.run.sources
  refine ⟨accepted, (List.pairwise_append.mp hordered).1, ?_⟩
  rw [deliveries_effect, List.forall₂_map_right_iff] at hcarried
  rw [List.forall₂_iff_get] at hcarried ⊢
  refine ⟨hcarried.1, fun i hp hx => ?_⟩
  obtain ⟨q, hq⟩ := htracked.drained _ (List.get_mem (drainedAt (history c actions)) ⟨i, hx⟩)
  exact ⟨q, goesBack (hcarried.2 i hp hx) hq⟩

end AsyncAiClient

end InlineIps
