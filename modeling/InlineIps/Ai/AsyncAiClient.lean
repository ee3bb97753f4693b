import InlineIps.Ai.AiProtocol
import InlineIps.Library.Machine

/-!
# The AI client

`AsyncAiClient` queues flow records for a worker thread, which sends them one at a time
to the AI server and queues a decision for every anomaly. Callers and the worker share
the state behind a mutex.

An action is one critical section: a call from outside, the end of a request and its
reply, or a step of the worker between two of its lock releases. A list of actions is an
interleaving of the threads; an action that cannot happen changes nothing.

* `WorkerMove`: what a step of the worker can do.
* `reached_wellFormed`: the invariant of every reachable state. It bounds both queues.
-/

namespace InlineIps

open Library AiProtocol Nlohmann

/-- The counters have 64 bits in the source and no bound here. -/
structure AiClientStatsSnapshot where
  submitted : Nat := 0
  unavailableDropped : Nat := 0
  queueFullDropped : Nat := 0
  normalResponses : Nat := 0
  anomalyResponses : Nat := 0
  protocolErrors : Nat := 0
  timeouts : Nat := 0
  deriving DecidableEq

/-- What the client is built with. `parse` is the text layer of the JSON library. -/
structure AiClientParams (Text : Type) where
  queueCapacity : Nat
  hasFailureHandler : Bool
  parse : Text → Except Exception Value

/-- The local variables of one round of the worker. -/
structure AiJob where
  inFlight : FlowRecord Float
  endpoint : String
  modelVersion : String
  generation : Nat
  deriving DecidableEq

/-- Where the worker is in `run`. -/
inductive AiWorker (Text : Type) where
  /-- Not started. -/
  | absent
  /-- Before the wait for a record. -/
  | waiting
  /-- Between the pop and the reply. -/
  | exchanging (job : AiJob)
  /-- Before the first check of the generation. -/
  | received (job : AiJob) (reply : Text)
  /-- Before the second check, with a reply that is no decision. -/
  | rejecting (job : AiJob)
  | countingError (job : AiJob)
  /-- Before a normal response is counted. -/
  | recording (job : AiJob)
  /-- In the wait for room, with a decision. -/
  | offering (job : AiJob) (decision : AiDecision Float)
  /-- Before the lock of `fail_transport`. -/
  | failing (job : AiJob) (reason : String) (timedOut : Bool)
  | countingTimeout (reason : String) (failedGeneration : Nat)
  /-- Before the call of the failure handler. -/
  | notifying (reason : String) (failedGeneration : Nat)
  /-- Behind the loop. -/
  | finished
  deriving DecidableEq

/-- The mutable state of the client. The generation has 64 bits in the source and no bound here. -/
structure AsyncAiClient (Text : Type) where
  pendingFlows : List (FlowRecord Float) := []
  pendingDecisions : List (AiDecision Float) := []
  worker : AiWorker Text := .absent
  started : Bool := false
  stopRequested : Bool := false
  online : Bool := false
  connectionGeneration : Nat := 0
  endpoint : String := ""
  modelVersion : String := ""
  stats : AiClientStatsSnapshot := {}
  deriving DecidableEq

/-- How a request and the wait for its reply end. -/
inductive AiExchange (Text : Type) where
  | sendTimeout
  | totalTimeout
  | replyTimeout
  | zmqError (what : String)
  | clientError (what : String)
  | reply (text : Text)
  deriving DecidableEq

inductive AiAction (Text : Type) where
  | start
  | setOnline (endpoint modelVersion : String)
  | setOffline
  | stop
  | consume (record : FlowRecord Float)
  | drainDecisions
  | exchange (outcome : AiExchange Text)
  | worker
  deriving DecidableEq

/-- What is seen of an action from outside. -/
inductive AiOutput where
  | none
  /-- What `consume` returns. -/
  | consumed (accepted : Bool)
  /-- What `drain_decisions` returns. -/
  | drained (decisions : List (AiDecision Float))
  /-- `fail_transport` took the client offline. -/
  | transportFailed
  /-- The failure handler is called. -/
  | failureHandler (reason : String)
  deriving DecidableEq

variable {Text : Type}

/-- The round goes on with the reply, or with the reason given to `fail_transport` and
whether it is a timeout. -/
def AiExchange.next (job : AiJob) : AiExchange Text → AiWorker Text
  | .sendTimeout => .failing job "AI 요청 전송 시간 초과" true
  | .totalTimeout => .failing job "AI 요청 전체 시간 초과" true
  | .replyTimeout => .failing job "AI 응답 시간 초과" true
  | .zmqError what => .failing job ("ZeroMQ 오류: " ++ what) false
  | .clientError what => .failing job ("AI client 오류: " ++ what) false
  | .reply text => .received job text

/-- The decision the worker makes of a parsed reply. -/
def AiJob.decision (job : AiJob) (parsed : AiResponse) : AiDecision Float :=
  ⟨job.inFlight, true, parsed.score, parsed.threshold, parsed.modelVersion⟩

/-- Where the worker goes with a reply that is still current. -/
def AiJob.judge (job : AiJob) (c : AiClientParams Text) (reply : Text) : AiWorker Text :=
  match (parseAiResponse c.parse reply job.inFlight.flowId job.modelVersion).1 with
  | none => .rejecting job
  | some parsed =>
    if !parsed.ok then .rejecting job
    else if !parsed.anomaly then .recording job
    else .offering job (job.decision parsed)

namespace AsyncAiClient

/-! ## Calls from outside -/

def initial : AsyncAiClient Text := {}

def start (s : AsyncAiClient Text) : AsyncAiClient Text :=
  if s.started || s.stopRequested then s
  else { s with started := true, worker := .waiting }

def setOnline (s : AsyncAiClient Text) (endpoint modelVersion : String) : AsyncAiClient Text :=
  if s.stopRequested then s
  else
    { s with
      endpoint, modelVersion
      connectionGeneration := s.connectionGeneration + 1
      pendingFlows := []
      pendingDecisions := []
      online := true }

def setOffline (s : AsyncAiClient Text) : AsyncAiClient Text :=
  { s with
    online := false
    connectionGeneration := s.connectionGeneration + 1
    pendingFlows := []
    pendingDecisions := [] }

/-- Up to the join of the worker, which changes nothing. -/
def stop (s : AsyncAiClient Text) : AsyncAiClient Text :=
  { s.setOffline with stopRequested := true, started := false }

def consume (capacity : Nat) (s : AsyncAiClient Text) (record : FlowRecord Float) :
    AsyncAiClient Text × Bool :=
  if !s.online || s.stopRequested then
    ({ s with stats := { s.stats with
        unavailableDropped := s.stats.unavailableDropped + 1 } }, false)
  else if s.pendingFlows.length ≥ capacity then
    ({ s with stats := { s.stats with
        queueFullDropped := s.stats.queueFullDropped + 1 } }, false)
  else
    ({ s with
      pendingFlows := s.pendingFlows ++ [record]
      stats := { s.stats with submitted := s.stats.submitted + 1 } }, true)

def drainDecisions (s : AsyncAiClient Text) :
    AsyncAiClient Text × List (AiDecision Float) :=
  ({ s with pendingDecisions := [] }, s.pendingDecisions)

/-! ## The worker -/

/-- The client is online and still in the connection of the job. -/
def isCurrent (s : AsyncAiClient Text) (job : AiJob) : Bool :=
  s.online && s.connectionGeneration == job.generation

def exchange (s : AsyncAiClient Text) (outcome : AiExchange Text) : AsyncAiClient Text :=
  match s.worker with
  | .exchanging job => { s with worker := outcome.next job }
  | _ => s

/-- The critical section of `fail_transport`. -/
def failTransport (s : AsyncAiClient Text) (job : AiJob) (reason : String) (timedOut : Bool) :
    AsyncAiClient Text × AiOutput :=
  if !s.isCurrent job then ({ s with worker := .waiting }, .none)
  else
    ({ s.setOffline with
      worker :=
        if timedOut then .countingTimeout reason job.generation
        else .notifying reason job.generation }, .transportFailed)

/-- The end of the wait for a record. -/
def takeRecord (s : AsyncAiClient Text) : AsyncAiClient Text :=
  if s.stopRequested then { s with worker := .finished }
  else
    match s.online, s.pendingFlows with
    | true, inFlight :: rest =>
      { s with
        pendingFlows := rest
        worker := .exchanging ⟨inFlight, s.endpoint, s.modelVersion, s.connectionGeneration⟩ }
    | _, _ => s

/-- The end of the wait for room. -/
def offer (c : AiClientParams Text) (s : AsyncAiClient Text) (job : AiJob)
    (decision : AiDecision Float) : AsyncAiClient Text :=
  if s.stopRequested || !s.isCurrent job then { s with worker := .waiting }
  else if s.pendingDecisions.length < c.queueCapacity then
    { s with
      pendingDecisions := s.pendingDecisions ++ [decision]
      worker := .waiting
      stats := { s.stats with anomalyResponses := s.stats.anomalyResponses + 1 } }
  else s

/-- One step of `run`. -/
def workerStep (c : AiClientParams Text) (s : AsyncAiClient Text) :
    AsyncAiClient Text × AiOutput :=
  match s.worker with
  | .absent | .exchanging _ | .finished => (s, .none)
  | .waiting => (s.takeRecord, .none)
  | .received job reply =>
    ({ s with worker := if s.isCurrent job then job.judge c reply else .waiting }, .none)
  | .rejecting job =>
    ({ s with worker := if s.isCurrent job then .countingError job else .waiting }, .none)
  | .countingError _ =>
    ({ s with
      worker := .waiting
      stats := { s.stats with protocolErrors := s.stats.protocolErrors + 1 } }, .none)
  | .recording job =>
    (if s.isCurrent job then
      { s with
        worker := .waiting
        stats := { s.stats with normalResponses := s.stats.normalResponses + 1 } }
    else { s with worker := .waiting }, .none)
  | .offering job decision => (s.offer c job decision, .none)
  | .failing job reason timedOut => s.failTransport job reason timedOut
  | .countingTimeout reason failedGeneration =>
    ({ s with
      worker := .notifying reason failedGeneration
      stats := { s.stats with timeouts := s.stats.timeouts + 1 } }, .none)
  | .notifying reason _ =>
    ({ s with worker := .waiting }, if c.hasFailureHandler then .failureHandler reason else .none)

/-! ## Runs -/

def step (c : AiClientParams Text) (s : AsyncAiClient Text) :
    AiAction Text → AsyncAiClient Text × AiOutput
  | .start => (s.start, .none)
  | .setOnline endpoint modelVersion => (s.setOnline endpoint modelVersion, .none)
  | .setOffline => (s.setOffline, .none)
  | .stop => (s.stop, .none)
  | .consume record =>
    let (s', accepted) := s.consume c.queueCapacity record
    (s', .consumed accepted)
  | .drainDecisions =>
    let (s', drained) := s.drainDecisions
    (s', .drained drained)
  | .exchange outcome => (s.exchange outcome, .none)
  | .worker => s.workerStep c

/-- The state after a list of actions. -/
def reached (c : AiClientParams Text) (actions : List (AiAction Text)) : AsyncAiClient Text :=
  Machine.exec (step c) initial actions

/-- The actions taken, with the states before them and what was seen of them. -/
def history (c : AiClientParams Text) (actions : List (AiAction Text)) :
    List (Machine.Taken (AsyncAiClient Text) (AiAction Text) AiOutput) :=
  Machine.trace (step c) initial actions

/-! ## The worker's steps -/

end AsyncAiClient

/-- The job of the round, while its record is on its way to a decision. -/
def AiWorker.job? : AiWorker Text → Option AiJob
  | .exchanging job | .received job _ | .rejecting job | .recording job | .offering job _
  | .failing job _ _ => some job
  | .absent | .waiting | .countingError _ | .countingTimeout _ _ | .notifying _ _
  | .finished => none

/-- The record the worker holds. -/
def AiWorker.held (w : AiWorker Text) : List (FlowRecord Float) :=
  match w with
  | .countingError job => [job.inFlight]
  | _ => w.job?.toList.map AiJob.inFlight

/-- The decision is about the record of the job, under its model version. -/
def AiWorker.Honest (w : AiWorker Text) : Prop :=
  ∀ job decision, w = .offering job decision →
    decision.record = job.inFlight ∧ decision.modelVersion = job.modelVersion

theorem AiExchange.next_job? (job : AiJob) (outcome : AiExchange Text) :
    (outcome.next job).job? = some job := by
  cases outcome <;> rfl

/-- An exchange keeps the job of the worker. -/
theorem AiExchange.next_job?_eq {worker : AiWorker Text} {job : AiJob}
    (hworker : worker = .exchanging job) (outcome : AiExchange Text) :
    (outcome.next job).job? = worker.job? := by
  rw [hworker, next_job? job outcome]
  rfl

theorem AiExchange.next_honest (job : AiJob) (outcome : AiExchange Text) :
    (outcome.next job).Honest := by
  intro job' decision h
  cases outcome <;> cases h

section Judge

variable (c : AiClientParams Text) (job : AiJob) (reply : Text)

theorem AiJob.judge_job? : (job.judge c reply).job? = some job := by
  unfold AiJob.judge
  split
  · rfl
  · split
    · rfl
    · split <;> rfl

/-- Any reply that makes a decision makes one for the record and the model version asked. -/
theorem AiJob.judge_honest : (job.judge c reply).Honest := by
  intro job' decision h
  unfold AiJob.judge at h
  split at h
  · cases h
  · rename_i parsed hparsed
    split at h
    · cases h
    · split at h
      · cases h
      · cases h
        exact ⟨rfl, parseAiResponse_modelVersion hparsed⟩

end Judge

namespace AsyncAiClient

/-- What a step of the worker can do. -/
inductive WorkerMove (c : AiClientParams Text) (s : AsyncAiClient Text) :
    AsyncAiClient Text → AiOutput → Prop
  /-- Take the first record. -/
  | take (record rest) (hworker : s.worker = .waiting) (honline : s.online = true)
      (hflows : s.pendingFlows = record :: rest) :
      WorkerMove c s { s with
        pendingFlows := rest
        worker := .exchanging ⟨record, s.endpoint, s.modelVersion, s.connectionGeneration⟩ } .none
  /-- Go on with the same job, or without one. -/
  | keep (w) (hjob : w.job? = s.worker.job?) (hheld : w.held = s.worker.held)
      (hhonest : s.worker.Honest → w.Honest) :
      WorkerMove c s { s with worker := w } .none
  /-- Drop a record of an earlier connection. -/
  | drop (job) (hjob : s.worker.job? = some job)
      (hstale : s.stopRequested = true ∨ s.isCurrent job = false) :
      WorkerMove c s { s with worker := .waiting } .none
  | countNormal (job) (hworker : s.worker = .recording job) (hcurrent : s.isCurrent job = true) :
      WorkerMove c s { s with
        worker := .waiting
        stats := { s.stats with normalResponses := s.stats.normalResponses + 1 } } .none
  | reject (job) (hworker : s.worker = .rejecting job) (hcurrent : s.isCurrent job = true) :
      WorkerMove c s { s with worker := .countingError job } .none
  | countError (job) (hworker : s.worker = .countingError job) :
      WorkerMove c s { s with
        worker := .waiting
        stats := { s.stats with protocolErrors := s.stats.protocolErrors + 1 } } .none
  /-- Go on without a record. -/
  | idle (w timeouts output) (hheld : s.worker.held = []) (hheld' : w.held = [])
      (houtput : output = .none ∨ ∃ reason, output = .failureHandler reason) :
      WorkerMove c s { s with worker := w, stats := { s.stats with timeouts } } output
  /-- Queue the decision. -/
  | push (job decision) (hworker : s.worker = .offering job decision)
      (hcurrent : s.isCurrent job = true) (hroom : s.pendingDecisions.length < c.queueCapacity) :
      WorkerMove c s { s with
        pendingDecisions := s.pendingDecisions ++ [decision]
        worker := .waiting
        stats := { s.stats with anomalyResponses := s.stats.anomalyResponses + 1 } } .none
  /-- Take the client offline. -/
  | fail (job w) (hjob : s.worker.job? = some job) (hheld : w.held = []) :
      WorkerMove c s { s.setOffline with worker := w } .transportFailed

theorem held_eq {w : AiWorker Text} {job : AiJob} (hjob : w.job? = some job) :
    w.held = [job.inFlight] := by
  cases w <;> cases hjob <;> rfl

theorem job?_of_held {w : AiWorker Text} (hheld : w.held = []) : w.job? = none := by
  cases w <;> first | rfl | cases hheld

theorem honest_of_job?_none {w : AiWorker Text} (hjob : w.job? = none) : w.Honest := by
  rintro job decision rfl
  cases hjob

theorem takeRecord_move (c : AiClientParams Text) {s : AsyncAiClient Text}
    (hworker : s.worker = .waiting) : WorkerMove c s s.takeRecord .none := by
  unfold takeRecord
  split
  · exact .idle .finished s.stats.timeouts .none (by rw [hworker]; rfl) rfl (.inl rfl)
  · split
    · rename_i record rest honline hflows
      exact .take record rest hworker honline hflows
    · exact .keep s.worker rfl rfl id

theorem offer_move {c : AiClientParams Text} {s : AsyncAiClient Text} {job : AiJob}
    {decision : AiDecision Float} (hworker : s.worker = .offering job decision) :
    WorkerMove c s (s.offer c job decision) .none := by
  have hjob : s.worker.job? = some job := by rw [hworker]; rfl
  unfold offer
  split
  · rename_i hstop
    exact .drop job hjob (by simpa using hstop)
  · rename_i hgo
    simp only [Bool.or_eq_true, Bool.not_eq_true', not_or, Bool.not_eq_false] at hgo
    split
    · rename_i hroom
      exact .push job decision hworker hgo.2 hroom
    · exact .keep s.worker rfl rfl id

theorem failTransport_move (c : AiClientParams Text) {s : AsyncAiClient Text} {job : AiJob}
    {reason : String} {timedOut : Bool} (hworker : s.worker = .failing job reason timedOut) :
    WorkerMove c s (s.failTransport job reason timedOut).1
      (s.failTransport job reason timedOut).2 := by
  have hjob : s.worker.job? = some job := by rw [hworker]; rfl
  unfold failTransport
  split
  · rename_i hstale
    exact .drop job hjob (.inr (by simpa using hstale))
  · refine .fail job _ hjob ?_
    cases timedOut <;> rfl

theorem workerStep_move (c : AiClientParams Text) (s : AsyncAiClient Text) :
    WorkerMove c s (s.workerStep c).1 (s.workerStep c).2 := by
  have hidle : WorkerMove c s s .none := .keep s.worker rfl rfl id
  cases hworker : s.worker with
  | absent => simpa only [workerStep, hworker] using hidle
  | waiting => simpa only [workerStep, hworker] using takeRecord_move c hworker
  | exchanging job => simpa only [workerStep, hworker] using hidle
  | received job reply =>
    have hjob : s.worker.job? = some job := by rw [hworker]; rfl
    have hjudge := job.judge_job? c reply
    simp only [workerStep, hworker]
    split
    · exact .keep _ (by rw [hjudge, hjob]) (by rw [held_eq hjudge, held_eq hjob]) fun _ =>
        job.judge_honest c reply
    · rename_i hstale
      exact .drop job hjob (.inr (by simpa using hstale))
  | rejecting job =>
    have hjob : s.worker.job? = some job := by rw [hworker]; rfl
    simp only [workerStep, hworker]
    split
    · exact .reject job hworker ‹_›
    · rename_i hstale
      exact .drop job hjob (.inr (by simpa using hstale))
  | countingError job =>
    simp only [workerStep, hworker]
    exact .countError job hworker
  | recording job =>
    have hjob : s.worker.job? = some job := by rw [hworker]; rfl
    simp only [workerStep, hworker]
    split
    · exact .countNormal job hworker ‹_›
    · rename_i hstale
      exact .drop job hjob (.inr (by simpa using hstale))
  | offering job decision => simpa only [workerStep, hworker] using offer_move hworker
  | failing job reason timedOut =>
    simpa only [workerStep, hworker] using failTransport_move c hworker
  | countingTimeout reason failedGeneration =>
    simp only [workerStep, hworker]
    exact .idle (.notifying reason failedGeneration) _ .none (by rw [hworker]; rfl) rfl (.inl rfl)
  | notifying reason failedGeneration =>
    simp only [workerStep, hworker]
    refine .idle .waiting s.stats.timeouts _ (by rw [hworker]; rfl) rfl ?_
    split
    · exact .inr ⟨reason, rfl⟩
    · exact .inl rfl
  | finished => simpa only [workerStep, hworker] using hidle

/-- Each call counts once, as submitted exactly when it returns true. -/
theorem consume_cases (capacity : Nat) (s : AsyncAiClient Text) (record : FlowRecord Float) :
    s.consume capacity record = ({ s with
        pendingFlows := s.pendingFlows ++ [record]
        stats := { s.stats with submitted := s.stats.submitted + 1 } }, true) ∨
      s.consume capacity record = ({ s with stats := { s.stats with
        unavailableDropped := s.stats.unavailableDropped + 1 } }, false) ∨
      s.consume capacity record = ({ s with stats := { s.stats with
        queueFullDropped := s.stats.queueFullDropped + 1 } }, false) := by
  unfold consume
  split
  · exact .inr (.inl rfl)
  · split
    · exact .inr (.inr rfl)
    · exact .inl rfl

/-! ## The invariant -/

structure WellFormed (c : AiClientParams Text) (s : AsyncAiClient Text) : Prop where
  stopped : s.stopRequested = true → s.online = false
  offline : s.online = false → s.pendingFlows = [] ∧ s.pendingDecisions = []
  honest : s.worker.Honest
  generation : ∀ job, s.worker.job? = some job → job.generation ≤ s.connectionGeneration
  stale : s.online = false → ∀ job, s.worker.job? = some job →
    job.generation < s.connectionGeneration
  modelVersion : ∀ job, s.worker.job? = some job →
    job.generation = s.connectionGeneration → job.modelVersion = s.modelVersion
  versions : ∀ decision ∈ s.pendingDecisions, decision.modelVersion = s.modelVersion
  flowsRoom : s.pendingFlows.length ≤ c.queueCapacity
  decisionsRoom : s.pendingDecisions.length ≤ c.queueCapacity

variable {c : AiClientParams Text} {s : AsyncAiClient Text}

theorem initial_wellFormed (c : AiClientParams Text) : WellFormed c initial where
  stopped _ := rfl
  offline _ := ⟨rfl, rfl⟩
  honest := honest_of_job?_none rfl
  generation := by simp [initial, AiWorker.job?]
  stale := by simp [initial, AiWorker.job?]
  modelVersion := by simp [initial, AiWorker.job?]
  versions := by simp [initial]
  flowsRoom := Nat.zero_le _
  decisionsRoom := Nat.zero_le _

/-- Without a job, nothing is asked of the worker. -/
theorem WellFormed.withWorker (h : WellFormed c s) {w : AiWorker Text} (hjob : w.job? = none)
    (stats : AiClientStatsSnapshot) : WellFormed c { s with worker := w, stats } where
  stopped := h.stopped
  offline := h.offline
  honest := honest_of_job?_none hjob
  generation job hsome := by simp [hjob] at hsome
  stale _ job hsome := by simp [hjob] at hsome
  modelVersion job hsome := by simp [hjob] at hsome
  versions := h.versions
  flowsRoom := h.flowsRoom
  decisionsRoom := h.decisionsRoom

/-- The job of a round is of an earlier connection once the generation advances. -/
theorem WellFormed.setOffline (h : WellFormed c s) : WellFormed c s.setOffline where
  stopped _ := rfl
  offline _ := ⟨rfl, rfl⟩
  honest := h.honest
  generation job hjob := Nat.le_succ_of_le (h.generation job hjob)
  stale _ job hjob := Nat.lt_succ_of_le (h.generation job hjob)
  modelVersion job hjob hgeneration := by
    have hle := h.generation job hjob
    simp only [AsyncAiClient.setOffline] at hgeneration
    omega
  versions := by simp [AsyncAiClient.setOffline]
  flowsRoom := Nat.zero_le _
  decisionsRoom := Nat.zero_le _

theorem WellFormed.setOnline (h : WellFormed c s) (endpoint modelVersion : String) :
    WellFormed c (s.setOnline endpoint modelVersion) := by
  unfold AsyncAiClient.setOnline
  split
  · exact h
  · rename_i hgo
    exact {
      stopped := fun hstop => absurd hstop hgo
      offline := nofun
      honest := h.honest
      generation := fun job hjob => Nat.le_succ_of_le (h.generation job hjob)
      stale := nofun
      modelVersion := fun job hjob hgeneration => by
        have hle := h.generation job hjob
        simp only at hgeneration
        omega
      versions := by simp
      flowsRoom := Nat.zero_le _
      decisionsRoom := Nat.zero_le _ }

theorem WellFormed.start (h : WellFormed c s) : WellFormed c s.start := by
  unfold AsyncAiClient.start
  split
  · exact h
  · exact { h.withWorker (w := .waiting) rfl s.stats with }

theorem WellFormed.stop (h : WellFormed c s) : WellFormed c s.stop :=
  { h.setOffline with stopped := fun _ => rfl }

theorem WellFormed.consume (h : WellFormed c s) (record : FlowRecord Float) :
    WellFormed c (s.consume c.queueCapacity record).1 := by
  unfold AsyncAiClient.consume
  split
  · exact { h with }
  · split
    · exact { h with }
    · rename_i hgo hroom
      simp only [Bool.or_eq_true, Bool.not_eq_true', not_or, Bool.not_eq_false] at hgo
      exact { h with
        offline := fun hoffline => by simp [hgo.1] at hoffline
        stale := fun hoffline => by simp [hgo.1] at hoffline
        flowsRoom := by
          rw [List.length_append]
          exact Nat.lt_of_not_le hroom }

theorem WellFormed.drainDecisions (h : WellFormed c s) : WellFormed c s.drainDecisions.1 :=
  { h with
    offline := fun hoffline => ⟨(h.offline hoffline).1, rfl⟩
    versions := by simp [AsyncAiClient.drainDecisions]
    decisionsRoom := Nat.zero_le _ }

theorem WellFormed.exchange (h : WellFormed c s) (outcome : AiExchange Text) :
    WellFormed c (s.exchange outcome) := by
  unfold AsyncAiClient.exchange
  split
  · rename_i job hworker
    have hjob := outcome.next_job?_eq hworker
    exact { h with
      honest := outcome.next_honest job
      generation := fun job' => hjob ▸ h.generation job'
      stale := fun hoffline job' => hjob ▸ h.stale hoffline job'
      modelVersion := fun job' => hjob ▸ h.modelVersion job' }
  · exact h

theorem WellFormed.workerMove (h : WellFormed c s) {s' : AsyncAiClient Text} {output : AiOutput}
    (hmove : WorkerMove c s s' output) : WellFormed c s' := by
  cases hmove with
  | take record rest hworker honline hflows =>
    have hrest := h.flowsRoom
    rw [hflows, List.length_cons] at hrest
    exact { h with
      offline := fun hoffline => by simp [honline] at hoffline
      stale := fun hoffline => by simp [honline] at hoffline
      honest := fun job decision hoffering => by cases hoffering
      generation := by
        rintro _ ⟨⟩
        exact Nat.le_refl _
      modelVersion := by
        rintro _ ⟨⟩ _
        rfl
      flowsRoom := Nat.le_of_succ_le hrest }
  | keep w hjob hheld hhonest =>
    exact { h with
      honest := hhonest h.honest
      generation := fun job => hjob ▸ h.generation job
      stale := fun hoffline job => hjob ▸ h.stale hoffline job
      modelVersion := fun job => hjob ▸ h.modelVersion job }
  | drop job hjob hstale => exact h.withWorker rfl _
  | countNormal job hworker hcurrent => exact h.withWorker rfl _
  | reject job hworker hcurrent => exact h.withWorker rfl _
  | countError job hworker => exact h.withWorker rfl _
  | idle w timeouts output hheld hheld' houtput => exact h.withWorker (job?_of_held hheld') _
  | push job decision hworker hcurrent hroom =>
    simp only [isCurrent, Bool.and_eq_true, beq_iff_eq] at hcurrent
    have hjob : s.worker.job? = some job := by rw [hworker]; rfl
    have hdecision := h.honest job decision hworker
    exact { h.withWorker (w := .waiting) rfl
        { s.stats with anomalyResponses := s.stats.anomalyResponses + 1 } with
      offline := fun hoffline => by simp [hcurrent.1] at hoffline
      stale := fun hoffline => by simp [hcurrent.1] at hoffline
      versions := by
        intro decision' hmem
        rcases List.mem_append.mp hmem with hold | hnew
        · exact h.versions decision' hold
        · rw [List.mem_singleton.mp hnew, hdecision.2]
          exact h.modelVersion job hjob hcurrent.2.symm
      decisionsRoom := by
        rw [List.length_append]
        exact hroom }
  | fail job w hjob hheld => exact h.setOffline.withWorker (job?_of_held hheld) _

theorem step_wellFormed (h : WellFormed c s) (action : AiAction Text) :
    WellFormed c (step c s action).1 := by
  cases action with
  | start => exact h.start
  | setOnline endpoint modelVersion => exact h.setOnline endpoint modelVersion
  | setOffline => exact h.setOffline
  | stop => exact h.stop
  | consume record => exact h.consume record
  | drainDecisions => exact h.drainDecisions
  | exchange outcome => exact h.exchange outcome
  | worker => exact h.workerMove (workerStep_move c s)

/-- **Every reachable state is well formed.** -/
theorem reached_wellFormed (c : AiClientParams Text) (actions : List (AiAction Text)) :
    WellFormed c (reached c actions) :=
  Machine.exec_invariant (P := fun _ _ => True) (WellFormed c)
    (fun _ action h _ => step_wellFormed h action) (initial_wellFormed c)
    (Machine.along_true _ _)

/-! ## The start -/

/-- A client that was neither started nor stopped has no worker. -/
def NotStarted (s : AsyncAiClient Text) : Prop :=
  s.started = false → s.stopRequested = false → s.worker = .absent

theorem step_notStarted (c : AiClientParams Text) (h : NotStarted s) (action : AiAction Text) :
    NotStarted (step c s action).1 := by
  cases action with
  | start =>
    simp only [step, start]
    split
    · exact h
    · intro hno
      cases hno
  | setOnline endpoint modelVersion =>
    simp only [step, setOnline]
    split <;> exact h
  | setOffline => exact h
  | stop =>
    intro _ hno
    cases hno
  | consume record =>
    rcases consume_cases c.queueCapacity s record with heq | heq | heq <;>
      simp only [step, heq] <;> exact h
  | drainDecisions => exact h
  | exchange outcome =>
    simp only [step, exchange]
    split
    · rename_i job hworker
      intro hstarted hstop
      rw [h hstarted hstop] at hworker
      cases hworker
    · exact h
  | worker =>
    have hmove := workerStep_move c s
    have habsent : s.worker = .absent → (s.workerStep c).1 = s := fun hworker => by
      simp [workerStep, hworker]
    simp only [step]
    have hsame : (s.workerStep c).1.started = s.started ∧
        (s.workerStep c).1.stopRequested = s.stopRequested := by
      generalize (s.workerStep c).1 = s', (s.workerStep c).2 = output at hmove ⊢
      cases hmove <;> exact ⟨rfl, rfl⟩
    intro hstarted hstop
    rw [hsame.1] at hstarted
    rw [hsame.2] at hstop
    rw [habsent (h hstarted hstop)]
    exact h hstarted hstop

end AsyncAiClient

end InlineIps
