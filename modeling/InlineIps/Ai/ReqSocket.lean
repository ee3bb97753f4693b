import InlineIps.Ai.AiDecisions

/-!
# The socket of the AI worker

`run` sends every record through a ZeroMQ socket of type `REQ`, which refuses a second request
before the reply to the first. The socket belongs to one connection generation; the worker opens
it when the first record of the generation comes and resets it after every failure.

* `Phase.next`: the calls that such a socket takes, and with which arguments.
* `InStep`: the locals of `run` beside the state of the client.
* `lockstep`: no interleaving makes a call that the socket refuses, and no record is sent twice.
-/

namespace InlineIps

open Library Library.Machine AsyncAiClient

/-- What libzmq keeps of a connected socket. `awaiting` stands between a request and its reply. -/
structure ReqSocket where
  endpoint : String
  awaiting : Bool
  deriving DecidableEq

/-- The locals of `run` that outlive a round. `sent` stands for the place between the send and the
receive. -/
structure RunLocals where
  socket : Option ReqSocket := none
  socketGeneration : Nat := 0
  sent : Bool := false
  deriving DecidableEq

/-- The calls of the worker, also those that fail. `close` is `socket.reset()`. -/
inductive ZmqCall where
  | create (generation : Nat)
  | connect (endpoint : String)
  | send (job : AiJob)
  | receive
  | close
  deriving DecidableEq

/-- How the opening of a socket ends. -/
inductive OpenEnding where
  /-- The socket cannot be created, or an option is refused: `connect` is not called. -/
  | createFails (what : String)
  /-- The endpoint is refused. -/
  | connectFails (what : String)
  | connected
  deriving DecidableEq

/-- How the serialization and the send end. -/
inductive SendEnding where
  | serializeFails (what : String)
  | sendFails (what : String)
  | sendTimesOut
  /-- No time is left for the reply. -/
  | sentLate
  /-- The new timeout is refused. -/
  | setFails (what : String)
  | sent
  deriving DecidableEq

/-- How the wait for the reply ends. -/
inductive ReplyEnding (Text : Type) where
  | timesOut
  | fails (what : String)
  | received (text : Text)

/-- The exchange ends with a reply. -/
def AiExchange.isReply {Text : Type} : AiExchange Text → Bool
  | .reply _ => true
  | _ => false

/-- The text of `EFSM`: the call does not fit the state of the socket. -/
def wrongState : String := "Operation cannot be accomplished in current state"

namespace RunLocals

variable {Text : Type}

/-- `socket.reset()` in front of a `fail_transport`. -/
def fail (t : RunLocals) (outcome : AiExchange Text) (calls : List ZmqCall) :
    RunLocals × Option (AiExchange Text) × List ZmqCall :=
  ({ t with socket := none, sent := false }, some outcome, calls ++ [.close])

/-- From the serialization on, behind the calls of the round so far. -/
def sendOn (t : RunLocals) (job : AiJob) (socket : ReqSocket) (calls : List ZmqCall) :
    SendEnding → RunLocals × Option (AiExchange Text) × List ZmqCall
  | .serializeFails what => t.fail (.clientError what) calls
  | .sendFails what => t.fail (.zmqError what) (calls ++ [.send job])
  | .sendTimesOut => t.fail .sendTimeout (calls ++ [.send job])
  | .sentLate => t.fail .totalTimeout (calls ++ [.send job])
  | .setFails what => t.fail (.zmqError what) (calls ++ [.send job])
  | .sent =>
    if socket.awaiting then t.fail (.zmqError wrongState) (calls ++ [.send job])
    else
      ({ t with socket := some { socket with awaiting := true }, sent := true }, none,
        calls ++ [.send job])

/-- The socket of the job's generation. -/
def current? (t : RunLocals) (job : AiJob) : Option ReqSocket :=
  if t.socketGeneration = job.generation then t.socket else none

/-- The part of a round up to the wait for the reply. The exchange is over when it fails. -/
def request (t : RunLocals) (job : AiJob) (opening : OpenEnding) (sending : SendEnding) :
    RunLocals × Option (AiExchange Text) × List ZmqCall :=
  match t.current? job with
  | some socket => t.sendOn job socket [] sending
  | none =>
    match opening with
    | .createFails what => t.fail (.zmqError what) [.close, .create job.generation]
    | .connectFails what =>
      t.fail (.zmqError what) [.close, .create job.generation, .connect job.endpoint]
    | .connected =>
      let socket : ReqSocket := ⟨job.endpoint, false⟩
      { t with socket := some socket, socketGeneration := job.generation }.sendOn job socket
        [.close, .create job.generation, .connect job.endpoint] sending

/-- The receive. -/
def receive (t : RunLocals) (socket : ReqSocket) (ending : ReplyEnding Text) :
    RunLocals × Option (AiExchange Text) × List ZmqCall :=
  if !socket.awaiting then t.fail (.zmqError wrongState) [.receive]
  else
    match ending with
    | .timesOut => t.fail .replyTimeout [.receive]
    | .fails what => t.fail (.zmqError what) [.receive]
    | .received text =>
      ({ t with socket := some { socket with awaiting := false }, sent := false },
        some (.reply text), [.receive])

end RunLocals

/-- The next step of the worker resets the socket: its job is stale, or the loop ends. -/
def AsyncAiClient.resetsSocket {Text : Type} (s : AsyncAiClient Text) : Bool :=
  match s.worker with
  | .received job _ | .rejecting job => !s.isCurrent job
  | .offering job _ => s.stopRequested || !s.isCurrent job
  | .waiting => s.stopRequested
  | _ => false

/-- The client with the locals of its worker. -/
structure ConnectedClient (Text : Type) where
  client : AsyncAiClient Text := {}
  locals : RunLocals := {}

/-- The exchange of a round in its two parts, and everything else. -/
inductive SocketEvent (Text : Type) where
  | request (opening : OpenEnding) (sending : SendEnding)
  | reply (ending : ReplyEnding Text)
  | client (action : AiAction Text)

structure SocketOutput where
  calls : List ZmqCall := []
  output : AiOutput := .none

namespace ConnectedClient

variable {Text : Type}

/-- A part of a round is over, and perhaps the exchange. -/
def afterPart (s : ConnectedClient Text)
    (part : RunLocals × Option (AiExchange Text) × List ZmqCall) :
    ConnectedClient Text × SocketOutput :=
  let (locals, exchange, calls) := part
  ({ client := exchange.elim s.client s.client.exchange, locals }, { calls })

/-- An event that cannot happen changes nothing. The end of an exchange is no event of its own. -/
def step (c : AiClientParams Text) (s : ConnectedClient Text) :
    SocketEvent Text → ConnectedClient Text × SocketOutput
  | .request opening sending =>
    match s.client.worker with
    | .exchanging job =>
      if s.locals.sent then (s, {}) else s.afterPart (s.locals.request job opening sending)
    | _ => (s, {})
  | .reply ending =>
    match s.client.worker, s.locals.socket with
    | .exchanging _, some socket =>
      if s.locals.sent then s.afterPart (s.locals.receive socket ending) else (s, {})
    | _, _ => (s, {})
  | .client (.exchange _) => (s, {})
  | .client .worker =>
    let (client, output) := AsyncAiClient.step c s.client .worker
    if s.client.resetsSocket then
      ({ client, locals := { s.locals with socket := none } }, { calls := [.close], output })
    else ({ s with client }, { output })
  | .client action =>
    let (client, output) := AsyncAiClient.step c s.client action
    ({ s with client }, { output })

abbrev SocketTaken (Text : Type) := Taken (ConnectedClient Text) (SocketEvent Text) SocketOutput

/-- The calls of the worker, in order. -/
def calls (h : List (SocketTaken Text)) : List ZmqCall := h.flatMap fun x => x.output.calls

/-- The record that `consume` accepts in the step. -/
def accepted? (x : SocketTaken Text) : Option (FlowRecord Float) :=
  match x.event, x.output.output with
  | .client (.consume record), .consumed true => some record
  | _, _ => none

end ConnectedClient

/-! ## What the socket takes -/

/-- Where the socket is. -/
inductive Phase where
  | closed
  | fresh (generation : Nat)
  | ready (generation : Nat) (endpoint : String)
  | awaiting (generation : Nat) (endpoint : String)
  deriving DecidableEq

/-- Where a call leads, if the socket takes it. A job is sent in the generation and to the endpoint
that it was taken in. -/
def Phase.next : Phase → ZmqCall → Option Phase
  | _, .close => some .closed
  | .closed, .create generation => some (.fresh generation)
  | .fresh generation, .connect endpoint => some (.ready generation endpoint)
  | .ready generation endpoint, .send job =>
    if job.generation = generation ∧ job.endpoint = endpoint then
      some (.awaiting generation endpoint)
    else none
  | .awaiting generation endpoint, .receive => some (.ready generation endpoint)
  | _, _ => none

/-- Where the calls lead, if the socket takes them all. -/
def Phase.follow : Phase → List ZmqCall → Option Phase
  | phase, [] => some phase
  | phase, call :: calls => (phase.next call).bind fun phase => phase.follow calls

/-- The job that the call sends. -/
def ZmqCall.sent? : ZmqCall → Option AiJob
  | .send job => some job
  | _ => none

/-- The records that the calls send, in order. -/
def sentRecords (calls : List ZmqCall) : List (FlowRecord Float) :=
  (calls.filterMap ZmqCall.sent?).map AiJob.inFlight

namespace Phase

@[simp] theorem follow_nil (phase : Phase) : phase.follow [] = some phase := rfl

@[simp] theorem follow_cons (phase : Phase) (call : ZmqCall) (calls : List ZmqCall) :
    phase.follow (call :: calls) = (phase.next call).bind fun phase => phase.follow calls := rfl

theorem follow_trans {phase phase' phase'' : Phase} {calls calls' : List ZmqCall}
    (h : phase.follow calls = some phase') (h' : phase'.follow calls' = some phase'') :
    phase.follow (calls ++ calls') = some phase'' := by
  induction calls generalizing phase with
  | nil =>
    cases h
    exact h'
  | cons call calls ih =>
    obtain ⟨next, hnext, hrest⟩ := Option.bind_eq_some_iff.mp h
    rw [List.cons_append, follow_cons, hnext]
    exact ih hrest

@[simp] theorem next_close (phase : Phase) : phase.next .close = some .closed := by
  cases phase <;> rfl

end Phase

theorem sentRecords_append (calls calls' : List ZmqCall) :
    sentRecords (calls ++ calls') = sentRecords calls ++ sentRecords calls' := by
  unfold sentRecords
  rw [List.filterMap_append, List.map_append]

namespace RunLocals

/-- Where the socket of the locals is. -/
def phase (t : RunLocals) : Phase :=
  match t.socket with
  | none => .closed
  | some ⟨endpoint, false⟩ => .ready t.socketGeneration endpoint
  | some ⟨endpoint, true⟩ => .awaiting t.socketGeneration endpoint

/-- The calls that make the socket ready for the job: none when it is. -/
inductive Opening (t : RunLocals) (job : AiJob) : List ZmqCall → Prop
  | current (hphase : t.phase = .ready job.generation job.endpoint) : Opening t job []
  | fresh : Opening t job [.close, .create job.generation, .connect job.endpoint]

/-- What the first part of a round can do. -/
inductive RequestMove (Text : Type) (t : RunLocals) (job : AiJob) :
    RunLocals × Option (AiExchange Text) × List ZmqCall → Prop
  | fails (t' outcome phase calls) (hsocket : t'.socket = none) (hsent : t'.sent = false)
      (hfollow : t.phase.follow calls = some phase)
      (hcalls : (sentRecords calls).Sublist [job.inFlight])
      (hreply : outcome.isReply = false) :
      RequestMove Text t job (t', some outcome, calls ++ [.close])
  | sends (calls) (hopening : Opening t job calls) :
      RequestMove Text t job (⟨some ⟨job.endpoint, true⟩, job.generation, true⟩, none,
        calls ++ [.send job])

section Request

variable {Text : Type} {t : RunLocals} {job : AiJob}

theorem Opening.follow {calls : List ZmqCall} (h : Opening t job calls) :
    t.phase.follow calls = some (.ready job.generation job.endpoint) := by
  cases h with
  | current hphase => rw [hphase, Phase.follow_nil]
  | fresh => simp [Phase.next]

theorem Opening.sentRecords {calls : List ZmqCall} (h : Opening t job calls) :
    sentRecords calls = [] := by
  cases h <;> rfl

/-- The request goes out on the socket that is ready for it. -/
theorem Opening.send {calls : List ZmqCall} (h : Opening t job calls) :
    t.phase.follow (calls ++ [.send job]) = some (.awaiting job.generation job.endpoint) ∧
      InlineIps.sentRecords (calls ++ [.send job]) = [job.inFlight] := by
  refine ⟨Phase.follow_trans h.follow (by simp [Phase.next]), ?_⟩
  rw [sentRecords_append, h.sentRecords]
  rfl

/-- The send on a socket that is ready for the job. -/
theorem sendOn_move {t' : RunLocals} {calls : List ZmqCall} (hopening : Opening t job calls)
    (hgeneration : t'.socketGeneration = job.generation) (sending : SendEnding) :
    RequestMove Text t job (t'.sendOn job ⟨job.endpoint, false⟩ calls sending) := by
  obtain ⟨hsent, hrecords⟩ := hopening.send
  cases sending with
  | serializeFails what =>
    exact .fails _ _ _ calls rfl rfl hopening.follow (hopening.sentRecords ▸ List.nil_sublist _) rfl
  | sent =>
    unfold sendOn
    rw [if_neg Bool.false_ne_true, hgeneration]
    exact .sends calls hopening
  | _ => exact .fails _ _ _ _ rfl rfl hsent (hrecords ▸ List.Sublist.refl _) rfl

/-- **The first part of a round**, when the socket of the job's generation is ready for the job. -/
theorem request_move
    (hready : ∀ socket, t.current? job = some socket → socket = ⟨job.endpoint, false⟩)
    (opening : OpenEnding) (sending : SendEnding) :
    RequestMove Text t job (t.request job opening sending) := by
  unfold request
  cases hcurrent : t.current? job with
  | some socket =>
    obtain rfl := hready socket hcurrent
    obtain ⟨hgeneration, hsocket⟩ := Option.ite_none_right_eq_some.mp hcurrent
    refine sendOn_move (.current ?_) hgeneration sending
    rw [phase, hsocket, hgeneration]
  | none =>
    cases opening with
    | createFails what =>
      have hopened : t.phase.follow [.close, .create job.generation] =
          some (.fresh job.generation) := by
        simp [Phase.next]
      exact .fails _ _ _ _ rfl rfl hopened (List.nil_sublist _) rfl
    | connectFails what =>
      exact .fails _ _ _ _ rfl rfl (Opening.fresh (t := t)).follow (List.nil_sublist _) rfl
    | connected => exact sendOn_move .fresh rfl sending

end Request

end RunLocals

/-! ## The socket beside the client -/

namespace ConnectedClient

variable {Text : Type}

/-- The record that the worker has taken and not sent. -/
def unsent (s : ConnectedClient Text) : List (FlowRecord Float) :=
  match s.client.worker with
  | .exchanging job => if s.locals.sent then [] else [job.inFlight]
  | _ => []

/-- The endpoint is the one that the generation was given. -/
def OfGeneration (client : AsyncAiClient Text) (generation : Nat) (endpoint : String) : Prop :=
  generation ≤ client.connectionGeneration ∧
    (generation = client.connectionGeneration → endpoint = client.endpoint)

structure InStep (c : AiClientParams Text) (s : ConnectedClient Text) : Prop where
  wellFormed : s.client.WellFormed c
  notStarted : s.client.NotStarted
  socket : ∀ socket, s.locals.socket = some socket →
    OfGeneration s.client s.locals.socketGeneration socket.endpoint
  job : ∀ job, s.client.worker = .exchanging job → OfGeneration s.client job.generation job.endpoint
  /-- The socket of the job's generation has the job's endpoint. -/
  serves : ∀ job socket, s.client.worker = .exchanging job → s.locals.current? job = some socket →
    socket.endpoint = job.endpoint
  sent : s.locals.sent = true → ∃ job, s.client.worker = .exchanging job ∧
    s.locals.socketGeneration = job.generation ∧ s.locals.socket = some ⟨job.endpoint, true⟩
  idle : s.locals.sent = false → ∀ socket, s.locals.socket = some socket → socket.awaiting = false
  ended : s.client.worker = .absent ∨ s.client.worker = .finished → s.locals.socket = none

section InStep

variable {c : AiClientParams Text} {s : ConnectedClient Text}

theorem initial_inStep (c : AiClientParams Text) : InStep c ({} : ConnectedClient Text) where
  wellFormed := AsyncAiClient.initial_wellFormed c
  notStarted _ _ := rfl
  socket _ h := by cases h
  job _ h := by cases h
  serves _ _ h := by cases h
  sent h := by cases h
  idle _ _ h := by cases h
  ended _ := rfl

/-- A socket that is current and not awaited is ready for the job. -/
theorem InStep.ready (h : InStep c s) {job : AiJob} (hworker : s.client.worker = .exchanging job)
    (hsent : s.locals.sent = false) :
    ∀ socket, s.locals.current? job = some socket → socket = ⟨job.endpoint, false⟩ := by
  rintro ⟨endpoint, awaiting⟩ hcurrent
  have hendpoint := h.serves job _ hworker hcurrent
  unfold RunLocals.current? at hcurrent
  split at hcurrent
  · have hawaiting := h.idle hsent _ hcurrent
    dsimp only at hendpoint hawaiting
    rw [hendpoint, hawaiting]
  · cases hcurrent

theorem OfGeneration.move {client client' : AsyncAiClient Text} {generation : Nat}
    {endpoint : String} (h : OfGeneration client generation endpoint)
    (hmove : client.connectionGeneration < client'.connectionGeneration ∨
      client'.connectionGeneration = client.connectionGeneration ∧
        client'.endpoint = client.endpoint) :
    OfGeneration client' generation endpoint := by
  obtain ⟨hle, hcurrent⟩ := h
  rcases hmove with hlater | ⟨hsame, hendpoint⟩
  · exact ⟨by omega, fun heq => by omega⟩
  · refine ⟨by omega, fun heq => ?_⟩
    rw [hendpoint]
    exact hcurrent (by omega)

/-- The worker stays where it is. -/
theorem InStep.sameWorker (h : InStep c s) {client : AsyncAiClient Text}
    (hwellFormed : client.WellFormed c) (hnotStarted : client.NotStarted)
    (hmove : s.client.connectionGeneration < client.connectionGeneration ∨
      client.connectionGeneration = s.client.connectionGeneration ∧
        client.endpoint = s.client.endpoint)
    (hworker : client.worker = s.client.worker) : InStep c { s with client } where
  wellFormed := hwellFormed
  notStarted := hnotStarted
  socket socket hsocket := (h.socket socket hsocket).move hmove
  job job hjob := (h.job job (hworker.symm.trans hjob)).move hmove
  serves job socket hjob := h.serves job socket (hworker.symm.trans hjob)
  sent hsent := by
    rw [hworker]
    exact h.sent hsent
  idle := h.idle
  ended hended := h.ended (hworker ▸ hended)

/-- The worker is in no exchange, before and after; it may have reset its socket. -/
theorem InStep.elsewhere (h : InStep c s) {client : AsyncAiClient Text} {socket : Option ReqSocket}
    (hwellFormed : client.WellFormed c) (hnotStarted : client.NotStarted)
    (hmove : s.client.connectionGeneration < client.connectionGeneration ∨
      client.connectionGeneration = s.client.connectionGeneration ∧
        client.endpoint = s.client.endpoint)
    (hbefore : ∀ job, s.client.worker ≠ .exchanging job)
    (hafter : ∀ job, client.worker ≠ .exchanging job)
    (hsocket : socket = s.locals.socket ∨ socket = none)
    (hended : client.worker = .absent ∨ client.worker = .finished → socket = none) :
    InStep c ⟨client, { s.locals with socket }⟩ where
  wellFormed := hwellFormed
  notStarted := hnotStarted
  socket opened hopened := by
    rcases hsocket with rfl | rfl
    · exact (h.socket opened hopened).move hmove
    · cases hopened
  job job hjob := absurd hjob (hafter job)
  serves job _ hjob := absurd hjob (hafter job)
  sent hsent := by
    obtain ⟨job, hjob, -⟩ := h.sent hsent
    exact absurd hjob (hbefore job)
  idle hsent opened hopened := by
    rcases hsocket with rfl | rfl
    · exact h.idle hsent opened hopened
    · cases hopened
  ended := hended

end InStep

/-- The accepted records that are not sent yet, in order. -/
def waits (s : ConnectedClient Text) : List (FlowRecord Float) := s.unsent ++ s.client.pendingFlows

/-- A step with its calls, which accepts the new records. -/
structure Advances (c : AiClientParams Text) (s s' : ConnectedClient Text) (calls : List ZmqCall)
    (new : List (FlowRecord Float)) : Prop where
  inStep : InStep c s'
  follow : s.locals.phase.follow calls = some s'.locals.phase
  records : (sentRecords calls ++ s'.waits).Sublist (s.waits ++ new)

section Steps

variable {c : AiClientParams Text} {s : ConnectedClient Text}

theorem InStep.advances (h : InStep c s) : Advances c s s [] [] where
  inStep := h
  follow := rfl
  records := (List.append_nil s.waits).symm ▸ List.Sublist.refl _

theorem exchange_of_exchanging {client : AsyncAiClient Text} {job : AiJob}
    (hworker : client.worker = .exchanging job) (outcome : AiExchange Text) :
    client.exchange outcome = { client with worker := outcome.next job } := by
  unfold AsyncAiClient.exchange
  rw [hworker]

theorem next_ne (job : AiJob) (outcome : AiExchange Text) :
    (∀ job', outcome.next job ≠ .exchanging job') ∧ outcome.next job ≠ .absent ∧
      outcome.next job ≠ .finished := by
  refine ⟨fun job' hnext => ?_, fun hnext => ?_, fun hnext => ?_⟩ <;> cases outcome <;> cases hnext

/-- The exchange ends. -/
theorem InStep.over (h : InStep c s) {job : AiJob} (hworker : s.client.worker = .exchanging job)
    (outcome : AiExchange Text) {t : RunLocals} (hsent : t.sent = false)
    (hsocket : ∀ socket, t.socket = some socket → socket.awaiting = false ∧
      OfGeneration s.client t.socketGeneration socket.endpoint) :
    InStep c ⟨s.client.exchange outcome, t⟩ := by
  have hwellFormed := h.wellFormed.exchange outcome
  have hnotStarted := AsyncAiClient.step_notStarted c h.notStarted (.exchange outcome)
  obtain ⟨hexchanging, habsent, hfinished⟩ := next_ne job outcome
  rw [exchange_of_exchanging hworker] at hwellFormed ⊢
  change AsyncAiClient.NotStarted (s.client.exchange outcome) at hnotStarted
  rw [exchange_of_exchanging hworker] at hnotStarted
  exact {
    wellFormed := hwellFormed
    notStarted := hnotStarted
    socket := fun socket hopen => (hsocket socket hopen).2
    job := fun job' hjob => absurd hjob (hexchanging job')
    serves := fun job' _ hjob => absurd hjob (hexchanging job')
    sent := fun htrue => Bool.noConfusion (hsent.symm.trans htrue)
    idle := fun _ socket hopen => (hsocket socket hopen).1
    ended := fun hended => hended.elim (absurd · habsent) (absurd · hfinished) }

theorem unsent_over {job : AiJob} (hworker : s.client.worker = .exchanging job)
    (outcome : AiExchange Text) (t : RunLocals) :
    waits ⟨s.client.exchange outcome, t⟩ = s.client.pendingFlows := by
  rw [exchange_of_exchanging hworker]
  cases outcome <;> rfl

/-- **The first part of a round.** -/
theorem InStep.request (h : InStep c s) {job : AiJob} (hworker : s.client.worker = .exchanging job)
    (hsent : s.locals.sent = false) (opening : OpenEnding) (sending : SendEnding) :
    Advances c s (s.afterPart (s.locals.request job opening sending)).1
      (s.afterPart (s.locals.request job opening sending)).2.calls [] := by
  have hmove : RunLocals.RequestMove Text s.locals job (s.locals.request job opening sending) :=
    RunLocals.request_move (h.ready hworker hsent) opening sending
  have hwaits : s.waits = job.inFlight :: s.client.pendingFlows := by
    unfold waits unsent
    rw [hworker, hsent]
    rfl
  generalize (s.locals.request job opening sending :
    RunLocals × Option (AiExchange Text) × List ZmqCall) = part at hmove ⊢
  cases hmove with
  | fails t' outcome phase calls hsocket hnotSent hfollow hcalls hreply =>
    refine ⟨h.over hworker outcome hnotSent fun socket hopen => ?_, ?_, ?_⟩
    · rw [hsocket] at hopen
      cases hopen
    · have hclosed : t'.phase = .closed := by rw [RunLocals.phase, hsocket]
      show s.locals.phase.follow (calls ++ [.close]) = some t'.phase
      rw [hclosed]
      exact Phase.follow_trans hfollow (by simp)
    · show (sentRecords (calls ++ [.close]) ++ waits ⟨s.client.exchange outcome, t'⟩).Sublist _
      rw [sentRecords_append, show sentRecords [.close] = [] from rfl, List.append_nil,
        unsent_over hworker, hwaits, List.append_nil]
      exact hcalls.append (List.Sublist.refl s.client.pendingFlows)
  | sends calls hopening =>
    obtain ⟨hfollow, hcalls⟩ := hopening.send
    refine ⟨?_, hfollow, ?_⟩
    · exact {
        wellFormed := h.wellFormed
        notStarted := h.notStarted
        socket := fun socket hopen => by
          cases hopen
          exact h.job job hworker
        job := h.job
        serves := fun job' socket hjob hcurrent => by
          have hopen : some ⟨job.endpoint, true⟩ = some socket :=
            (Option.ite_none_right_eq_some.mp hcurrent).2
          obtain rfl : job = job' := AiWorker.exchanging.inj (hworker.symm.trans hjob)
          cases hopen
          rfl
        sent := fun _ => ⟨job, hworker, rfl, rfl⟩
        idle := fun hfalse => Bool.noConfusion hfalse
        ended := fun hended => by
          change s.client.worker = .absent ∨ s.client.worker = .finished at hended
          rw [hworker] at hended
          rcases hended with habsent | hfinished
          · cases habsent
          · cases hfinished }
    · have hafter : waits ⟨s.client, ⟨some ⟨job.endpoint, true⟩, job.generation, true⟩⟩ =
          s.client.pendingFlows := by
        unfold waits unsent
        rw [hworker]
        rfl
      show (sentRecords (calls ++ [.send job]) ++ waits ⟨s.client, _⟩).Sublist _
      rw [hafter, hwaits, hcalls, List.append_nil]
      exact List.Sublist.refl _

/-- **The wait for the reply.** -/
theorem InStep.reply (h : InStep c s) {socket : ReqSocket} (hsocket : s.locals.socket = some socket)
    (hsent : s.locals.sent = true) (ending : ReplyEnding Text) :
    Advances c s (s.afterPart (s.locals.receive socket ending)).1
      (s.afterPart (s.locals.receive socket ending)).2.calls [] := by
  obtain ⟨job, hworker, hgeneration, hopened⟩ := h.sent hsent
  obtain rfl : socket = ⟨job.endpoint, true⟩ := Option.some.inj (hsocket.symm.trans hopened)
  have hphase : s.locals.phase = .awaiting job.generation job.endpoint := by
    rw [RunLocals.phase, hopened, hgeneration]
  have hwaits : s.waits = s.client.pendingFlows := by
    unfold waits unsent
    rw [hworker, hsent]
    rfl
  have hrecords (outcome : AiExchange Text) (t : RunLocals) (calls : List ZmqCall)
      (hcalls : sentRecords calls = []) :
      (sentRecords calls ++ waits ⟨s.client.exchange outcome, t⟩).Sublist (s.waits ++ []) := by
    rw [unsent_over hworker, hwaits, hcalls, List.append_nil]
    exact List.Sublist.refl _
  have hfails (outcome : AiExchange Text) :
      Advances c s (s.afterPart (s.locals.fail outcome [.receive])).1
        (s.afterPart (s.locals.fail outcome [.receive])).2.calls [] := by
    refine ⟨h.over hworker outcome rfl fun _ hopen => ?_, ?_, hrecords outcome _ _ rfl⟩
    · cases hopen
    · rw [hphase]
      rfl
  unfold RunLocals.receive
  rw [if_neg (by simp)]
  cases ending with
  | timesOut => exact hfails .replyTimeout
  | fails what => exact hfails (.zmqError what)
  | received text =>
    refine ⟨h.over hworker (.reply text) rfl fun socket hopen => ?_, ?_, hrecords (.reply text) _ _ rfl⟩
    · cases hopen
      refine ⟨rfl, ?_⟩
      show OfGeneration s.client s.locals.socketGeneration job.endpoint
      exact h.socket _ hopened
    · rw [hphase, ← hgeneration]
      rfl

/-- The job that the worker takes is one of the generation. -/
theorem InStep.take (h : InStep c s) (hworker : s.client.worker = .waiting)
    (honline : s.client.online = true) {record : FlowRecord Float}
    {rest : List (FlowRecord Float)} (hflows : s.client.pendingFlows = record :: rest)
    (hwellFormed : s.client.takeRecord.WellFormed c) (hnotStarted : s.client.takeRecord.NotStarted)
    (hnotStopped : s.client.stopRequested = false) :
    Advances c s { s with client := s.client.takeRecord } [] [] := by
  have htake : s.client.takeRecord = { s.client with
      pendingFlows := rest
      worker := .exchanging
        ⟨record, s.client.endpoint, s.client.modelVersion, s.client.connectionGeneration⟩ } := by
    unfold AsyncAiClient.takeRecord
    rw [if_neg (by rw [hnotStopped]; exact Bool.false_ne_true)]
    split
    · rename_i inFlight rest' _ hflows'
      obtain ⟨rfl, rfl⟩ := List.cons.inj (hflows.symm.trans hflows')
      rfl
    · rename_i hno
      exact absurd hflows (hno record rest honline)
  have hnotSent : s.locals.sent = false := by
    cases hsent : s.locals.sent with
    | false => rfl
    | true =>
      obtain ⟨job, hjob, -⟩ := h.sent hsent
      rw [hworker] at hjob
      cases hjob
  rw [htake] at hwellFormed hnotStarted ⊢
  refine ⟨?_, rfl, ?_⟩
  · exact {
      wellFormed := hwellFormed
      notStarted := hnotStarted
      socket := h.socket
      job := fun job hjob => by
        cases hjob
        exact ⟨Nat.le_refl _, fun _ => rfl⟩
      serves := fun job socket hjob hcurrent => by
        cases hjob
        obtain ⟨hgeneration, hopen⟩ := Option.ite_none_right_eq_some.mp hcurrent
        exact (h.socket socket hopen).2 hgeneration
      sent := fun htrue => Bool.noConfusion (hnotSent.symm.trans htrue)
      idle := h.idle
      ended := fun hended => by rcases hended with habsent | hfinished <;> contradiction }
  · have hbefore : s.waits = record :: rest := by
      unfold waits unsent
      rw [hworker, hflows]
      rfl
    rw [hbefore, List.append_nil]
    unfold waits unsent
    dsimp only
    rw [hnotSent]
    exact List.Sublist.refl _

/-- A step of the worker between its exchanges. -/
structure Between (client client' : AsyncAiClient Text) : Prop where
  exchanging : ∀ job, client'.worker ≠ .exchanging job
  absent : client'.worker ≠ .absent
  finished : client'.worker ≠ .finished
  move : client.connectionGeneration < client'.connectionGeneration ∨
    client'.connectionGeneration = client.connectionGeneration ∧ client'.endpoint = client.endpoint
  flows : client'.pendingFlows.Sublist client.pendingFlows

theorem between_worker (client : AsyncAiClient Text) (worker : AiWorker Text)
    (stats : AiClientStatsSnapshot) (hexchanging : ∀ job, worker ≠ .exchanging job)
    (habsent : worker ≠ .absent) (hfinished : worker ≠ .finished) :
    Between client { client with worker, stats } where
  exchanging := hexchanging
  absent := habsent
  finished := hfinished
  move := .inr ⟨rfl, rfl⟩
  flows := List.Sublist.refl _

theorem between_waiting (client : AsyncAiClient Text) (stats : AiClientStatsSnapshot) :
    Between client { client with worker := .waiting, stats } := by
  apply between_worker <;> simp

theorem judge_ne (c : AiClientParams Text) (job : AiJob) (reply : Text) :
    (∀ job', job.judge c reply ≠ .exchanging job') ∧ job.judge c reply ≠ .absent ∧
      job.judge c reply ≠ .finished := by
  unfold AiJob.judge
  split
  · simp
  · split_ifs <;> simp

/-- Between the exchanges the worker stays there, and leaves the connection as it is or ends it. -/
theorem workerStep_between (c : AiClientParams Text) (client : AsyncAiClient Text)
    (hwaiting : client.worker ≠ .waiting) (hexchanging : ∀ job, client.worker ≠ .exchanging job)
    (habsent : client.worker ≠ .absent) (hfinished : client.worker ≠ .finished) :
    Between client (client.workerStep c).1 := by
  have hsame (worker : AiWorker Text) := between_worker client worker client.stats
  unfold AsyncAiClient.workerStep
  cases hworker : client.worker with
  | absent => exact absurd hworker habsent
  | waiting => exact absurd hworker hwaiting
  | exchanging job => exact absurd hworker (hexchanging job)
  | finished => exact absurd hworker hfinished
  | received job reply =>
    obtain ⟨hjudge, hjudge', hjudge''⟩ := judge_ne c job reply
    dsimp only
    split
    · exact hsame _ hjudge hjudge' hjudge''
    · exact between_waiting client client.stats
  | rejecting job =>
    dsimp only
    split
    · apply hsame <;> simp
    · exact between_waiting client client.stats
  | countingError job => exact between_waiting client _
  | recording job =>
    dsimp only
    split
    · exact between_waiting client _
    · exact between_waiting client client.stats
  | offering job decision =>
    dsimp only
    unfold AsyncAiClient.offer
    split_ifs
    · exact between_waiting client client.stats
    · have hwaits := between_waiting client
        { client.stats with anomalyResponses := client.stats.anomalyResponses + 1 }
      exact ⟨hwaits.exchanging, hwaits.absent, hwaits.finished, hwaits.move, hwaits.flows⟩
    · exact ⟨hexchanging, habsent, hfinished, .inr ⟨rfl, rfl⟩, List.Sublist.refl _⟩
  | failing job reason timedOut =>
    dsimp only
    unfold AsyncAiClient.failTransport
    split
    · exact between_waiting client client.stats
    · refine ⟨?_, ?_, ?_, .inl (Nat.lt_succ_self _), List.nil_sublist _⟩ <;>
        cases timedOut <;> simp
  | countingTimeout reason failedGeneration =>
    apply between_worker client <;> simp
  | notifying reason failedGeneration => exact between_waiting client client.stats

theorem unsent_of_ne {t : ConnectedClient Text}
    (hexchanging : ∀ job, t.client.worker ≠ .exchanging job) : t.waits = t.client.pendingFlows := by
  unfold waits unsent
  split
  · rename_i job hworker
    exact absurd hworker (hexchanging job)
  · rfl

/-- A step of the worker between its exchanges, which perhaps resets the socket. -/
theorem InStep.between (h : InStep c s) {client : AsyncAiClient Text}
    (hwellFormed : client.WellFormed c) (hnotStarted : client.NotStarted)
    (hexchanging : ∀ job, s.client.worker ≠ .exchanging job) (hbetween : Between s.client client) :
    Advances c s { s with client } [] [] ∧
      Advances c s ⟨client, { s.locals with socket := none }⟩ [.close] [] := by
  have hrecords : (waits ⟨client, s.locals⟩).Sublist (s.waits ++ []) := by
    rw [List.append_nil, unsent_of_ne hbetween.exchanging, unsent_of_ne hexchanging]
    exact hbetween.flows
  have hended {socket : Option ReqSocket} (hend : client.worker = .absent ∨ client.worker = .finished) :
      socket = none := hend.elim (absurd · hbetween.absent) (absurd · hbetween.finished)
  exact ⟨⟨h.elsewhere hwellFormed hnotStarted hbetween.move hexchanging hbetween.exchanging
      (.inl rfl) hended, rfl, hrecords⟩,
    ⟨h.elsewhere hwellFormed hnotStarted hbetween.move hexchanging hbetween.exchanging
      (.inr rfl) hended, by simp [RunLocals.phase], hrecords⟩⟩

/-- A call from outside. -/
theorem InStep.call (h : InStep c s) (action : AiAction Text) (new : List (FlowRecord Float))
    (hmove : s.client.connectionGeneration <
        (AsyncAiClient.step c s.client action).1.connectionGeneration ∨
      (AsyncAiClient.step c s.client action).1.connectionGeneration =
          s.client.connectionGeneration ∧
        (AsyncAiClient.step c s.client action).1.endpoint = s.client.endpoint)
    (hworker : (AsyncAiClient.step c s.client action).1.worker = s.client.worker)
    (hflows : (AsyncAiClient.step c s.client action).1.pendingFlows.Sublist
      (s.client.pendingFlows ++ new)) :
    Advances c s { s with client := (AsyncAiClient.step c s.client action).1 } [] new := by
  refine ⟨h.sameWorker (step_wellFormed h.wellFormed action) (step_notStarted c h.notStarted action)
    hmove hworker, rfl, ?_⟩
  unfold waits unsent
  rw [hworker, List.append_assoc]
  exact hflows.append_left _

/-- The step of the worker at the top of its loop. -/
theorem InStep.waiting (h : InStep c s) (hworker : s.client.worker = .waiting) :
    Advances c s (step c s (.client .worker)).1 (step c s (.client .worker)).2.calls [] := by
  have hwellFormed := step_wellFormed h.wellFormed .worker
  have hnotStarted := step_notStarted c h.notStarted .worker
  have htake : AsyncAiClient.step c s.client .worker = (s.client.takeRecord, .none) := by
    unfold AsyncAiClient.step AsyncAiClient.workerStep
    rw [hworker]
  have hresets : s.client.resetsSocket = s.client.stopRequested := by
    unfold AsyncAiClient.resetsSocket
    rw [hworker]
  rw [htake] at hwellFormed hnotStarted
  unfold step
  dsimp only
  rw [htake, hresets]
  cases hstop : s.client.stopRequested with
  | true =>
    have hfinish : s.client.takeRecord = { s.client with worker := .finished } := by
      unfold AsyncAiClient.takeRecord
      rw [if_pos hstop]
    rw [if_pos rfl, hfinish]
    rw [hfinish] at hwellFormed hnotStarted
    refine ⟨h.elsewhere hwellFormed hnotStarted (.inr ⟨rfl, rfl⟩) ?_ ?_ (.inr rfl) fun _ => rfl, ?_, ?_⟩
    · rw [hworker]
      simp
    · simp
    · simp [RunLocals.phase]
    · rw [List.append_nil, unsent_of_ne (t := s) (by rw [hworker]; simp)]
      exact List.Sublist.refl _
  | false =>
    rw [if_neg Bool.false_ne_true]
    by_cases hready : ∃ record rest, s.client.online = true ∧ s.client.pendingFlows = record :: rest
    · obtain ⟨record, rest, honline, hflows⟩ := hready
      exact h.take hworker honline hflows hwellFormed hnotStarted hstop
    · have hidle : s.client.takeRecord = s.client := by
        unfold AsyncAiClient.takeRecord
        rw [if_neg (by rw [hstop]; exact Bool.false_ne_true)]
        split
        · rename_i record rest honline hflows
          exact absurd ⟨record, rest, honline, hflows⟩ hready
        · rfl
      rw [hidle]
      exact h.advances

/-- **A step of the worker.** -/
theorem InStep.worker (h : InStep c s) :
    Advances c s (step c s (.client .worker)).1 (step c s (.client .worker)).2.calls [] := by
  by_cases hwaiting : s.client.worker = .waiting
  · exact h.waiting hwaiting
  have hidle (hstep : (s.client.workerStep c).1 = s.client) (hresets : s.client.resetsSocket = false) :
      Advances c s (step c s (.client .worker)).1 (step c s (.client .worker)).2.calls [] := by
    unfold step AsyncAiClient.step
    dsimp only
    rw [hresets, if_neg Bool.false_ne_true, hstep]
    exact h.advances
  by_cases hexchanging : ∃ job, s.client.worker = .exchanging job
  · obtain ⟨job, hworker⟩ := hexchanging
    refine hidle ?_ ?_
    · unfold AsyncAiClient.workerStep
      rw [hworker]
    · unfold AsyncAiClient.resetsSocket
      rw [hworker]
  by_cases hended : s.client.worker = .absent ∨ s.client.worker = .finished
  · refine hidle ?_ ?_
    · unfold AsyncAiClient.workerStep
      rcases hended with hworker | hworker <;> rw [hworker]
    · unfold AsyncAiClient.resetsSocket
      rcases hended with hworker | hworker <;> rw [hworker]
  · rw [not_or] at hended
    have hne (job : AiJob) : s.client.worker ≠ .exchanging job := fun heq => hexchanging ⟨job, heq⟩
    obtain ⟨hkeeps, hresets⟩ := h.between (step_wellFormed h.wellFormed .worker)
      (step_notStarted c h.notStarted .worker) hne
      (workerStep_between c s.client hwaiting hne hended.1 hended.2)
    unfold step
    dsimp only
    split
    · exact hresets
    · exact hkeeps

/-- **What one step does.** -/
theorem step_advances (h : InStep c s) (e : SocketEvent Text) :
    Advances c s (step c s e).1 (step c s e).2.calls (accepted? ⟨s, e, (step c s e).2⟩).toList := by
  cases e with
  | request opening sending =>
    unfold step
    dsimp only
    split
    · rename_i job hworker
      split
      · exact h.advances
      · rename_i hsent
        exact h.request hworker (by simpa using hsent) opening sending
    · exact h.advances
  | reply ending =>
    unfold step
    dsimp only
    split
    · rename_i socket hworker hsocket
      split
      · rename_i hsent
        exact h.reply hsocket hsent ending
      · exact h.advances
    · exact h.advances
  | client action =>
    cases action with
    | exchange outcome => exact h.advances
    | worker => exact h.worker
    | start =>
      by_cases hdone : (s.client.started || s.client.stopRequested) = true
      · have hsame : s.client.start = s.client := if_pos hdone
        unfold step AsyncAiClient.step
        dsimp only
        rw [hsame]
        exact h.advances
      · have hstart : s.client.start = { s.client with started := true, worker := .waiting } :=
          if_neg hdone
        have hwellFormed := h.wellFormed.start
        have hnotStarted := step_notStarted c h.notStarted .start
        have hworker : s.client.worker = .absent := by
          rw [Bool.or_eq_true, not_or, Bool.not_eq_true, Bool.not_eq_true] at hdone
          exact h.notStarted hdone.1 hdone.2
        change s.client.start.NotStarted at hnotStarted
        unfold step AsyncAiClient.step
        dsimp only
        rw [hstart] at hwellFormed hnotStarted ⊢
        refine ⟨h.elsewhere hwellFormed hnotStarted (.inr ⟨rfl, rfl⟩) ?_ ?_ (.inl rfl) ?_, rfl, ?_⟩
        · rw [hworker]
          simp
        · simp
        · simp
        · have hbefore : s.waits = s.client.pendingFlows := unsent_of_ne (by rw [hworker]; simp)
          have hrecords : s.client.pendingFlows.Sublist (s.waits ++ []) := by
            rw [List.append_nil, hbefore]
          exact hrecords
    | setOnline endpoint modelVersion =>
      have hcall := h.call (.setOnline endpoint modelVersion) []
      have hmoves : s.client.setOnline endpoint modelVersion = s.client ∨
          s.client.connectionGeneration <
              (s.client.setOnline endpoint modelVersion).connectionGeneration ∧
            (s.client.setOnline endpoint modelVersion).worker = s.client.worker ∧
            (s.client.setOnline endpoint modelVersion).pendingFlows = [] := by
        unfold AsyncAiClient.setOnline
        split
        · exact .inl rfl
        · exact .inr ⟨Nat.lt_succ_self _, rfl, rfl⟩
      unfold step AsyncAiClient.step
      unfold AsyncAiClient.step at hcall
      dsimp only at hcall ⊢
      rcases hmoves with hsame | ⟨hlater, hworker, hflows⟩
      · rw [hsame] at hcall ⊢
        exact hcall (.inr ⟨rfl, rfl⟩) rfl (List.sublist_append_left _ _)
      · exact hcall (.inl hlater) hworker (hflows ▸ List.nil_sublist _)
    | setOffline =>
      exact h.call .setOffline [] (.inl (Nat.lt_succ_self _)) rfl
        (List.nil_sublist _)
    | stop =>
      exact h.call .stop [] (.inl (Nat.lt_succ_self _)) rfl (List.nil_sublist _)
    | drainDecisions =>
      exact h.call .drainDecisions [] (.inr ⟨rfl, rfl⟩) rfl
        (List.sublist_append_left _ _)
    | consume record =>
      have hcall := h.call (.consume record)
      unfold step
      dsimp only
      unfold AsyncAiClient.step at hcall ⊢
      dsimp only at hcall ⊢
      rcases consume_cases c.queueCapacity s.client record with heq | heq | heq <;>
        rw [heq] at hcall ⊢
      · exact hcall [record] (.inr ⟨rfl, rfl⟩) rfl (List.Sublist.refl _)
      · exact hcall [] (.inr ⟨rfl, rfl⟩) rfl (List.sublist_append_left _ _)
      · exact hcall [] (.inr ⟨rfl, rfl⟩) rfl (List.sublist_append_left _ _)

end Steps

/-- What the step asks of the client alone. -/
def action? (x : SocketTaken Text) : Option (AiAction Text) :=
  match x.event with
  | .request opening sending =>
    match x.before.client.worker with
    | .exchanging job =>
      if x.before.locals.sent then none
      else (x.before.locals.request job opening sending).2.1.map .exchange
    | _ => none
  | .reply ending =>
    match x.before.client.worker, x.before.locals.socket with
    | .exchanging _, some socket =>
      if x.before.locals.sent then (x.before.locals.receive socket ending).2.1.map .exchange else none
    | _, _ => none
  | .client (.exchange _) => none
  | .client action => some action

theorem afterPart_client (c : AiClientParams Text) (s : ConnectedClient Text)
    (part : RunLocals × Option (AiExchange Text) × List ZmqCall) :
    (s.afterPart part).1.client =
      exec (AsyncAiClient.step c) s.client (part.2.1.map AiAction.exchange).toList := by
  obtain ⟨locals, exchange, calls⟩ := part
  cases exchange <;> rfl

/-- **The client moves as without its socket.** -/
theorem step_client (c : AiClientParams Text) (s : ConnectedClient Text) (e : SocketEvent Text) :
    (step c s e).1.client =
      exec (AsyncAiClient.step c) s.client (action? ⟨s, e, (step c s e).2⟩).toList := by
  unfold step action?
  cases e with
  | request opening sending =>
    dsimp only
    split
    · split
      · rfl
      · exact afterPart_client c s _
    · rfl
  | reply ending =>
    dsimp only
    split
    · split
      · exact afterPart_client c s _
      · rfl
    · rfl
  | client action =>
    cases action with
    | worker =>
      dsimp only
      split <;> rfl
    | _ => rfl

/-- What holds behind every run. -/
structure Followed (c : AiClientParams Text) (s : ConnectedClient Text)
    (h : List (SocketTaken Text)) : Prop where
  inStep : InStep c s
  follow : Phase.closed.follow (calls h) = some s.locals.phase
  records : (sentRecords (calls h) ++ s.waits).Sublist (h.filterMap accepted?)
  client : s.client = exec (AsyncAiClient.step c) AsyncAiClient.initial
    (h.flatMap fun x => (action? x).toList)

theorem Followed.step {c : AiClientParams Text} {s : ConnectedClient Text}
    {h : List (SocketTaken Text)} (hfollowed : Followed c s h) (e : SocketEvent Text) :
    Followed c (ConnectedClient.step c s e).1
      (h ++ [⟨s, e, (ConnectedClient.step c s e).2⟩]) := by
  have hstep := step_advances hfollowed.inStep e
  have hclient := step_client c s e
  generalize ConnectedClient.step c s e = result at hstep hclient ⊢
  have hcalls : calls (h ++ [⟨s, e, result.2⟩]) = calls h ++ result.2.calls := by
    simp [calls]
  refine ⟨hstep.inStep, ?_, ?_, ?_⟩
  · rw [hcalls]
    exact Phase.follow_trans hfollowed.follow hstep.follow
  · rw [hcalls, sentRecords_append, List.append_assoc, List.filterMap_append]
    refine (hstep.records.append_left _).trans ?_
    rw [← List.append_assoc]
    refine hfollowed.records.append ?_
    cases haccepted : accepted? ⟨s, e, result.2⟩ <;> simp [haccepted]
  · rw [List.flatMap_append, Machine.exec_append, ← hfollowed.client, hclient]
    simp

theorem followed_run (c : AiClientParams Text) (events : List (SocketEvent Text)) :
    Followed c (exec (step c) {} events) (trace (step c) {} events) :=
  trace_invariant (Followed c) (fun _ _ e hfollowed => hfollowed.step e)
    (h := []) ⟨initial_inStep c, rfl, List.Sublist.refl _, rfl⟩

/-- **The worker and its socket are in step.** On every interleaving the socket takes every call
of the worker: it is opened only when none is open, connected once, a request goes out only after
the reply to the last one, in the generation and to the endpoint of its record, and the worker
leaves its loop with the socket closed. The records go out in the order of their acceptance, none
twice, and the client behaves as if the calls were not there. -/
theorem lockstep (c : AiClientParams Text) (events : List (SocketEvent Text)) :
    (∃ phase, Phase.closed.follow (calls (trace (step c) {} events)) = some phase ∧
      ((exec (step c) {} events).client.worker = .finished → phase = .closed)) ∧
    (sentRecords (calls (trace (step c) {} events))).Sublist
      ((trace (step c) {} events).filterMap accepted?) ∧
    (exec (step c) {} events).client =
      exec (AsyncAiClient.step c) AsyncAiClient.initial
        ((trace (step c) {} events).flatMap fun x => (action? x).toList) := by
  obtain ⟨hinStep, hfollow, hrecords, hclient⟩ := followed_run c events
  refine ⟨⟨_, hfollow, fun hfinished => ?_⟩, ?_, hclient⟩
  · rw [RunLocals.phase, hinStep.ended (.inr hfinished)]
  · exact (List.sublist_append_left _ _).trans hrecords

end ConnectedClient

end InlineIps
