import InlineIps.Ai.ReqSocket
import InlineIps.App.AiVerdicts
import InlineIps.Library.ReqRep

/-!
# The sensor and the inference server

The worker of the AI client and the serving loop of the inference server, with what both send and
what arrives. Requests and replies can be lost, and servers come and go. The sockets between them
are not modelled: what arrives is part of the events, and `Transports` says what is asked of it.

* `replies_correlated`: a reply that comes to the worker is the reply of a server to the request of
  its job, whatever was lost or came too late before.
* `blocks_have_verdicts`: in the whole system the AI blocks a source only on a verdict of the model.
-/

namespace InlineIps

open Library Library.Machine Library.ReqRep AiProtocol OnlineServer Contract PacketCapture

/-- `loads`, `dump` and `dumps` are the text layers of the JSON libraries: what the server reads,
what the client writes and what the server writes. -/
structure AiServiceParams (Text : Type) where
  path : AiPathParams Text
  torchMean : Vector Float32 flowFeatureCount → Float32
  loads : String → Except String PyValue
  dump : Nlohmann.Value → String
  dumps : PyValue → Text

/-- `server` is the process that serves, `locals` are those of the worker. `traffic` records the
requests and replies. -/
structure AiService (Text : Type) where
  path : AiPath Text
  locals : RunLocals := {}
  traffic : Traffic ByteArray Text := {}
  server : Option LoadedArtifacts := none

inductive ServerEvent where
  | starts (artifacts : LoadedArtifacts)
  | ends
  /-- `recv` returns a request that came over the connection. -/
  | receives (connection : Nat) (request : ByteArray)
  /-- The rest of a turn of the serving loop. -/
  | replies (sendable : Bool)

inductive AiServiceEvent (Text : Type) where
  /-- Everything but the exchanges of the worker. -/
  | path (event : AiPathEvent Text)
  | request (opening : OpenEnding) (sending : SendEnding)
  | reply (ending : ReplyEnding Text)
  | server (event : ServerEvent)

namespace AiService

variable {Text : Type}

def initial : AiService Text := { path := .initial }

/-- The payload of the request. -/
def payload (c : AiServiceParams Text) (job : AiJob) : ByteArray :=
  (serializeFlowRequest c.dump job.inFlight).toUTF8

/-- What a call of the worker adds to the traffic. A request that is not sent in time may arrive
nevertheless. -/
def call (c : AiServiceParams Text) (t : Traffic ByteArray Text) : ZmqCall → Traffic ByteArray Text
  | .create _ => t.create
  | .send job => t.send (payload c job)
  | .connect _ | .receive | .close => t

/-- A part of a round is over, and perhaps the exchange. -/
def afterPart (c : AiServiceParams Text) (s : AiService Text)
    (part : RunLocals × Option (AiExchange Text) × List ZmqCall) : AiService Text :=
  let (locals, exchange, calls) := part
  { s with
    locals
    traffic := calls.foldl (call c) s.traffic
    path := exchange.elim s.path fun outcome =>
      (AiPath.step c.path s.path (.client (.exchange outcome))).1 }

def pathStep (c : AiServiceParams Text) (s : AiService Text) :
    AiPathEvent Text → AiService Text × AiPathOutput
  | .client (.exchange _) => (s, {})
  | .client .worker =>
    let (path, output) := AiPath.step c.path s.path (.client .worker)
    if s.path.client.resetsSocket then
      ({ s with path, locals := { s.locals with socket := none } }, output)
    else ({ s with path }, output)
  | event =>
    let (path, output) := AiPath.step c.path s.path event
    ({ s with path }, output)

/-- The first part of a round of the worker. -/
def requestStep (c : AiServiceParams Text) (s : AiService Text) (opening : OpenEnding)
    (sending : SendEnding) : AiService Text :=
  match s.path.client.worker with
  | .exchanging job =>
    if s.locals.sent then s else s.afterPart c (s.locals.request job opening sending)
  | _ => s

/-- A reply that arrives has been collected. -/
def collected (t : Traffic ByteArray Text) : ReplyEnding Text → Traffic ByteArray Text
  | .received text => t.collect text
  | .timesOut | .fails _ => t

/-- The end of the wait for the reply. -/
def replyStep (c : AiServiceParams Text) (s : AiService Text) (ending : ReplyEnding Text) :
    AiService Text :=
  match s.path.client.worker, s.locals.socket with
  | .exchanging _, some socket =>
    if s.locals.sent then
      { s with traffic := collected s.traffic ending }.afterPart c
        (s.locals.receive socket ending)
    else s
  | _, _ => s

/-- The server process ends, with the request that it has taken. -/
def endServer (s : AiService Text) : AiService Text :=
  { s with server := none, traffic := s.traffic.abandon }

/-- The rest of a turn of the serving loop. -/
def serve (c : AiServiceParams Text) (s : AiService Text) (sendable : Bool) : AiService Text :=
  match s.server, s.traffic.serving with
  | some artifacts, some (_, request) =>
    match responseForPayload c.torchMean c.loads artifacts request with
    | none => s.endServer
    | some response =>
      if sendable then { s with traffic := s.traffic.reply (c.dumps response) } else s.endServer
  | _, _ => s

def serverStep (c : AiServiceParams Text) (s : AiService Text) : ServerEvent → AiService Text
  | .starts artifacts => if s.server.isNone then { s with server := some artifacts } else s
  | .ends => s.endServer
  | .receives connection request =>
    if s.server.isSome ∧ s.traffic.serving = none then
      { s with traffic := s.traffic.take (connection, request) }
    else s
  | .replies sendable => s.serve c sendable

/-- An event that cannot happen changes nothing. -/
def step (c : AiServiceParams Text) (s : AiService Text) :
    AiServiceEvent Text → AiService Text × AiPathOutput
  | .path event => s.pathStep c event
  | .request opening sending => (s.requestStep c opening sending, {})
  | .reply ending => (s.replyStep c ending, {})
  | .server event => (s.serverStep c event, {})

/-- What the documentation of the `REQ` and `REP` sockets promises of the connections: requests
and replies arrive as they were sent, each at most once, and a reply only over the connection of
the request that it was sent in reply to. They may also be lost or come late. -/
def Transports (s : AiService Text) : AiServiceEvent Text → Prop
  | .server (.receives connection request) => s.traffic.Delivers (connection, request)
  | .reply (.received text) => s.traffic.Returns text
  | _ => True

/-- The reply that comes to the worker in the step, with its job. -/
def arriving (s : AiService Text) : AiServiceEvent Text → Option (AiJob × Text)
  | .reply (.received text) =>
    match s.path.client.worker with
    | .exchanging job => if s.locals.sent then some (job, text) else none
    | _ => none
  | _ => none

/-! ## The client in the service -/

/-- The client with its socket. -/
def connected (s : AiService Text) : ConnectedClient Text := ⟨s.path.client, s.locals⟩

/-- The part of the step that concerns the client. -/
def socketEvent? (s : AiService Text) : AiServiceEvent Text → Option (SocketEvent Text)
  | .path (.packet _ _ _ _) => none
  | .path (.tick _ _) => if s.path.outbox.isEmpty then some (.client .drainDecisions) else none
  | .path .handOver => s.path.outbox.head?.map fun record => .client (.consume record)
  | .path (.client move) => some (.client move.toAction)
  | .request opening sending => some (.request opening sending)
  | .reply ending => some (.reply ending)
  | .server _ => none

section Connected

variable (c : AiServiceParams Text) (s : AiService Text)

theorem connected_afterPart (part : RunLocals × Option (AiExchange Text) × List ZmqCall) :
    (s.afterPart c part).connected = (s.connected.afterPart part).1 := by
  obtain ⟨locals, exchange, calls⟩ := part
  cases exchange <;> rfl

/-- A turn of the worker that has no exchange to make. -/
theorem connected_worker :
    (s.pathStep c (.client .worker)).1.connected =
      (ConnectedClient.step c.path.client s.connected (.client .worker)).1 := by
  unfold pathStep ConnectedClient.step
  dsimp only
  by_cases hresets : s.path.client.resetsSocket = true
  · rw [if_pos hresets, if_pos (show s.connected.client.resetsSocket = true from hresets)]
    rfl
  · rw [if_neg hresets, if_neg (show ¬ s.connected.client.resetsSocket = true from hresets)]
    rfl

theorem connected_path (event : AiPathEvent Text) :
    (s.pathStep c event).1.connected = exec (ConnectedClient.step c.path.client) s.connected
      (s.socketEvent? (.path event)).toList := by
  cases event with
  | packet data direction now later =>
    unfold pathStep AiPath.step
    dsimp only
    split <;> rfl
  | tick now later =>
    unfold pathStep AiPath.step socketEvent?
    dsimp only
    split <;> rfl
  | handOver =>
    unfold pathStep AiPath.step socketEvent?
    dsimp only
    cases s.path.outbox <;> rfl
  | client move =>
    cases move with
    | worker => exact connected_worker c s
    | _ => rfl

theorem connected_request (opening : OpenEnding) (sending : SendEnding) :
    (s.requestStep c opening sending).connected =
      (ConnectedClient.step c.path.client s.connected (.request opening sending)).1 := by
  unfold requestStep ConnectedClient.step connected
  dsimp only
  cases hworker : s.path.client.worker with
  | exchanging job =>
    dsimp only
    split
    · rfl
    · exact connected_afterPart c s _
  | _ => rfl

theorem connected_reply (ending : ReplyEnding Text) :
    (s.replyStep c ending).connected =
      (ConnectedClient.step c.path.client s.connected (.reply ending)).1 := by
  unfold replyStep ConnectedClient.step connected
  dsimp only
  cases hworker : s.path.client.worker with
  | exchanging job =>
    cases hsocket : s.locals.socket with
    | none => rfl
    | some socket =>
      dsimp only
      split
      · exact connected_afterPart c { s with traffic := collected s.traffic ending } _
      · rfl
  | _ => rfl

/-- A turn of the serving loop: nothing to do, the end of the server, or a reply. -/
theorem serve_cases (sendable : Bool) :
    s.serve c sendable = s ∨ s.serve c sendable = s.endServer ∨
      ∃ artifacts connection request response, s.server = some artifacts ∧
        s.traffic.serving = some (connection, request) ∧
        responseForPayload c.torchMean c.loads artifacts request = some response ∧
        s.serve c sendable = { s with traffic := s.traffic.reply (c.dumps response) } := by
  unfold serve
  split
  · rename_i artifacts connection request hserver hserving
    split
    · exact .inr (.inl rfl)
    · rename_i response hresponse
      split
      · exact .inr (.inr ⟨_, _, _, _, hserver, hserving, hresponse, rfl⟩)
      · exact .inr (.inl rfl)
  · exact .inl rfl

theorem serve_of {artifacts : LoadedArtifacts} {connection : Nat} {request : ByteArray}
    {response : PyValue} (hserver : s.server = some artifacts)
    (hserving : s.traffic.serving = some (connection, request))
    (hresponse : responseForPayload c.torchMean c.loads artifacts request = some response) :
    s.serve c true = { s with traffic := s.traffic.reply (c.dumps response) } := by
  unfold serve
  rw [hserver, hserving]
  dsimp only
  rw [hresponse]
  rfl

/-- Nothing at the server touches the client. -/
theorem serverStep_path (event : ServerEvent) :
    (s.serverStep c event).path = s.path ∧ (s.serverStep c event).locals = s.locals := by
  cases event with
  | starts artifacts =>
    unfold serverStep
    dsimp only
    split <;> exact ⟨rfl, rfl⟩
  | ends => exact ⟨rfl, rfl⟩
  | receives connection request =>
    unfold serverStep
    dsimp only
    split <;> exact ⟨rfl, rfl⟩
  | replies sendable =>
    show (s.serve c sendable).path = s.path ∧ (s.serve c sendable).locals = s.locals
    rcases serve_cases c s sendable with heq | heq | ⟨_, _, _, _, -, -, -, heq⟩ <;> rw [heq] <;>
      exact ⟨rfl, rfl⟩

theorem connected_server (event : ServerEvent) :
    (s.serverStep c event).connected = s.connected := by
  obtain ⟨hpath, hlocals⟩ := serverStep_path c s event
  unfold connected
  rw [hpath, hlocals]

/-- **The client moves in the service as with its socket alone.** -/
theorem step_connected (e : AiServiceEvent Text) :
    (step c s e).1.connected = exec (ConnectedClient.step c.path.client) s.connected
      (s.socketEvent? e).toList := by
  cases e with
  | path event => exact connected_path c s event
  | request opening sending => exact connected_request c s opening sending
  | reply ending => exact connected_reply c s ending
  | server event => exact connected_server c s event

end Connected

/-! ## What is under way -/

/-- Where the worker stands, in terms of its requests. -/
def standing (c : AiServiceParams Text) (s : ConnectedClient Text) : Client ByteArray :=
  if s.locals.sent then
    match s.client.worker with
    | .exchanging job => .awaiting (payload c job)
    | _ => .closed
  else
    match s.locals.socket with
    | none => .closed
    | some _ => .idle

/-- The text is that of the reply of a server with such artifacts. -/
def Replies (c : AiServiceParams Text) (loaded : LoadedArtifacts → Prop) (request : ByteArray)
    (text : Text) : Prop :=
  ∃ artifacts response, loaded artifacts ∧
    responseForPayload c.torchMean c.loads artifacts request = some response ∧
    text = c.dumps response

structure Correlated (c : AiServiceParams Text) (loaded : LoadedArtifacts → Prop)
    (s : AiService Text) : Prop where
  inStep : ConnectedClient.InStep c.path.client s.connected
  server : ∀ artifacts, s.server = some artifacts → loaded artifacts
  sound : Sound (Replies c loaded) s.traffic (standing c s.connected)

/-- The server starts with the artifacts that are given. -/
def StartsWith (loaded : LoadedArtifacts → Prop) (e : AiServiceEvent Text) : Prop :=
  ∀ artifacts, e = .server (.starts artifacts) → loaded artifacts

section Correlated

variable {c : AiServiceParams Text} {loaded : LoadedArtifacts → Prop} {s : AiService Text}
  {client : ConnectedClient Text}

theorem initial_correlated (c : AiServiceParams Text) (loaded : LoadedArtifacts → Prop) :
    Correlated c loaded initial where
  inStep := ConnectedClient.initial_inStep c.path.client
  server _ h := by cases h
  sound := sound_initial _

theorem step_inStep (h : Correlated c loaded s) (e : AiServiceEvent Text) :
    ConnectedClient.InStep c.path.client (step c s e).1.connected := by
  rw [step_connected]
  cases s.socketEvent? e with
  | none => exact h.inStep
  | some event => exact (ConnectedClient.step_advances h.inStep event).inStep

theorem standing_of_sent {job : AiJob} (hsent : client.locals.sent = true)
    (hworker : client.client.worker = .exchanging job) :
    standing c client = .awaiting (payload c job) := by
  unfold standing
  rw [hsent, hworker]
  rfl

theorem standing_of_none (hsent : client.locals.sent = false)
    (hsocket : client.locals.socket = none) : standing c client = .closed := by
  unfold standing
  rw [hsent, hsocket]
  rfl

theorem standing_of_some (hsent : client.locals.sent = false) {socket : ReqSocket}
    (hsocket : client.locals.socket = some socket) : standing c client = .idle := by
  unfold standing
  rw [hsent, hsocket]
  rfl

/-- A client that is waiting for its reply goes on waiting, whatever is asked of it. -/
theorem client_sent (h : ConnectedClient.InStep c.path.client client)
    (hsent : client.locals.sent = true) (action : AiAction Text) :
    (ConnectedClient.step c.path.client client (.client action)).1.locals = client.locals ∧
      (ConnectedClient.step c.path.client client (.client action)).1.client.worker =
        client.client.worker := by
  obtain ⟨job, hworker, -⟩ := h.sent hsent
  cases action with
  | exchange outcome => exact ⟨rfl, rfl⟩
  | worker =>
    unfold ConnectedClient.step AsyncAiClient.step AsyncAiClient.workerStep AsyncAiClient.resetsSocket
    dsimp only
    rw [hworker]
    exact ⟨rfl, hworker⟩
  | start =>
    refine ⟨rfl, ?_⟩
    show client.client.start.worker = client.client.worker
    unfold AsyncAiClient.start
    split
    · rfl
    · rename_i hstart
      rw [Bool.or_eq_true, not_or, Bool.not_eq_true, Bool.not_eq_true] at hstart
      rw [h.notStarted hstart.1 hstart.2] at hworker
      cases hworker
  | setOnline endpoint modelVersion =>
    refine ⟨rfl, ?_⟩
    show (client.client.setOnline endpoint modelVersion).worker = client.client.worker
    unfold AsyncAiClient.setOnline
    split <;> rfl
  | consume record =>
    refine ⟨rfl, ?_⟩
    show (client.client.consume c.path.client.queueCapacity record).1.worker = client.client.worker
    rcases AsyncAiClient.consume_cases c.path.client.queueCapacity client.client record with
      heq | heq | heq <;> rw [heq]
  | setOffline | stop | drainDecisions => exact ⟨rfl, rfl⟩

/-- Whatever is asked of the client leaves it standing where it was, or without a socket. -/
theorem client_standing (h : ConnectedClient.InStep c.path.client client) (action : AiAction Text) :
    standing c (ConnectedClient.step c.path.client client (.client action)).1 = standing c client ∨
      standing c (ConnectedClient.step c.path.client client (.client action)).1 = .closed := by
  cases hsent : client.locals.sent with
  | true =>
    obtain ⟨hlocals, hworker⟩ := client_sent h hsent action
    left
    unfold standing
    rw [hlocals, hworker]
  | false =>
    have hlocals : (ConnectedClient.step c.path.client client (.client action)).1.locals =
          client.locals ∨
        (ConnectedClient.step c.path.client client (.client action)).1.locals =
          { client.locals with socket := none } := by
      cases action with
      | worker =>
        unfold ConnectedClient.step
        dsimp only
        split
        · exact .inr rfl
        · exact .inl rfl
      | _ => exact .inl rfl
    rcases hlocals with hlocals | hlocals
    · left
      unfold standing
      rw [hlocals, hsent]
      rfl
    · exact .inr (standing_of_none (by rw [hlocals]; exact hsent) (by rw [hlocals]))

/-! ### Steps of the path -/

/-- A step of the path reaches the client as at most one action. -/
theorem path_action (s : AiService Text) (event : AiPathEvent Text) :
    s.socketEvent? (.path event) = none ∨
      ∃ action, s.socketEvent? (.path event) = some (.client action) := by
  cases event with
  | packet data direction now later => exact .inl rfl
  | tick now later =>
    by_cases hempty : s.path.outbox.isEmpty = true
    · exact .inr ⟨.drainDecisions, if_pos hempty⟩
    · exact .inl (if_neg hempty)
  | handOver =>
    unfold socketEvent?
    cases s.path.outbox with
    | nil => exact .inl rfl
    | cons record outbox => exact .inr ⟨.consume record, rfl⟩
  | client move => exact .inr ⟨move.toAction, rfl⟩

theorem pathStep_traffic (c : AiServiceParams Text) (s : AiService Text)
    (event : AiPathEvent Text) :
    (s.pathStep c event).1.traffic = s.traffic ∧ (s.pathStep c event).1.server = s.server := by
  cases event with
  | client move =>
    cases move with
    | worker =>
      unfold pathStep
      dsimp only
      split <;> exact ⟨rfl, rfl⟩
    | _ => exact ⟨rfl, rfl⟩
  | _ => exact ⟨rfl, rfl⟩

theorem Correlated.path (h : Correlated c loaded s) (event : AiPathEvent Text) :
    Correlated c loaded (s.pathStep c event).1 := by
  obtain ⟨htraffic, hserver⟩ := pathStep_traffic c s event
  refine ⟨step_inStep h (.path event), hserver.symm ▸ h.server, ?_⟩
  rw [htraffic, connected_path]
  rcases path_action s event with hnone | ⟨action, hsome⟩
  · rw [hnone]
    exact h.sound
  · rw [hsome]
    show Sound _ _ (standing c (ConnectedClient.step c.path.client s.connected (.client action)).1)
    rcases client_standing h.inStep action with hsame | hclosed
    · exact hsame.symm ▸ h.sound
    · exact hclosed.symm ▸ h.sound.close

/-! ### Requests -/

/-- The calls of a round that fails. -/
theorem sound_calls {Answer : ByteArray → Text → Prop} {t : Traffic ByteArray Text}
    (h : Sound Answer t .closed) (calls : List ZmqCall) :
    Sound Answer (calls.foldl (call c) t) .closed := by
  induction calls generalizing t with
  | nil => exact h
  | cons first calls ih =>
    refine ih ?_
    cases first with
    | create generation => exact h.create.close
    | send job => exact h.sendOff _
    | connect endpoint => exact h
    | receive => exact h
    | close => exact h

/-- **The first part of a round puts the request of the job alone on the connection.** -/
theorem Correlated.afterRequest (h : Correlated c loaded s) {job : AiJob}
    (hworker : s.path.client.worker = .exchanging job) (hsent : s.locals.sent = false)
    (opening : OpenEnding) (sending : SendEnding) :
    Sound (Replies c loaded) (s.afterPart c (s.locals.request job opening sending)).traffic
      (standing c (s.afterPart c (s.locals.request job opening sending)).connected) := by
  have hmove : RunLocals.RequestMove Text s.locals job
      (s.locals.request job opening sending) :=
    RunLocals.request_move (h.inStep.ready hworker hsent) opening sending
  have hsound := h.sound
  generalize (s.locals.request job opening sending :
    RunLocals × Option (AiExchange Text) × List ZmqCall) = part at hmove ⊢
  cases hmove with
  | fails t' outcome phase calls hsocket hnotSent =>
    have hclosed : standing c (s.afterPart c (t', some outcome, calls ++ [.close])).connected =
        .closed := standing_of_none hnotSent hsocket
    rw [hclosed]
    exact sound_calls hsound.close _
  | sends calls hopening =>
    have hawaits : standing c (s.afterPart c (⟨some ⟨job.endpoint, true⟩, job.generation, true⟩, none,
        calls ++ [.send job])).connected = .awaiting (payload c job) := standing_of_sent rfl hworker
    rw [hawaits]
    cases hopening with
    | fresh => exact hsound.create.send (payload c job)
    | current hphase =>
      cases hsocket : s.locals.socket with
      | none =>
        unfold RunLocals.phase at hphase
        rw [hsocket] at hphase
        cases hphase
      | some socket =>
        rw [standing_of_some hsent hsocket] at hsound
        exact hsound.send (payload c job)

theorem Correlated.request (h : Correlated c loaded s) (opening : OpenEnding)
    (sending : SendEnding) : Correlated c loaded (s.requestStep c opening sending) := by
  have hinStep := step_inStep h (.request opening sending)
  change ConnectedClient.InStep _ (s.requestStep c opening sending).connected at hinStep
  unfold requestStep at hinStep ⊢
  cases hworker : s.path.client.worker with
  | exchanging job =>
    rw [hworker] at hinStep
    dsimp only at hinStep ⊢
    cases hsent : s.locals.sent with
    | true => exact h
    | false =>
      rw [hsent] at hinStep
      exact ⟨hinStep, h.server, h.afterRequest hworker hsent opening sending⟩
  | _ => exact h

/-! ### Replies -/

/-- Where the wait for a reply ends. -/
theorem replyStep_cases (h : ConnectedClient.InStep c.path.client s.connected)
    (ending : ReplyEnding Text) :
    s.replyStep c ending = s ∨ ∃ job, s.path.client.worker = .exchanging job ∧
      s.locals.sent = true ∧ s.replyStep c ending =
        { s with traffic := collected s.traffic ending }.afterPart c
          (s.locals.receive ⟨job.endpoint, true⟩ ending) := by
  cases hsent : s.locals.sent with
  | false =>
    left
    unfold replyStep
    rw [hsent]
    split <;> rfl
  | true =>
    obtain ⟨job, hworker, -, hsocket⟩ := h.sent hsent
    refine .inr ⟨job, hworker, rfl, ?_⟩
    change s.path.client.worker = .exchanging job at hworker
    change s.locals.socket = some ⟨job.endpoint, true⟩ at hsocket
    unfold replyStep
    rw [hworker, hsocket]
    exact if_pos hsent

/-- **A reply that comes to the worker is the reply to the request of its job**, and leaves nothing
on the connection. -/
theorem Correlated.collects (h : Correlated c loaded s) {job : AiJob}
    (hworker : s.path.client.worker = .exchanging job) (hsent : s.locals.sent = true) {text : Text}
    (hreturns : s.traffic.Returns text) :
    Replies c loaded (payload c job) text ∧
      Sound (Replies c loaded) (s.traffic.collect text) .idle := by
  have hsound := h.sound
  rw [standing_of_sent hsent hworker] at hsound
  exact hsound.collect hreturns

theorem Correlated.reply (h : Correlated c loaded s) {ending : ReplyEnding Text}
    (htransports : s.Transports (.reply ending)) :
    Correlated c loaded (s.replyStep c ending) := by
  have hinStep := step_inStep h (.reply ending)
  change ConnectedClient.InStep _ (s.replyStep c ending).connected at hinStep
  rcases replyStep_cases h.inStep ending with heq | ⟨job, hworker, hsent, heq⟩
  · rw [heq]
    exact h
  · rw [heq] at hinStep ⊢
    refine ⟨hinStep, ?_, ?_⟩
    · exact h.server
    · cases ending with
      | received text => exact (h.collects hworker hsent htransports).2
      | timesOut => exact h.sound.close
      | fails what => exact h.sound.close

/-! ### The server -/

theorem Correlated.serve (h : Correlated c loaded s) (sendable : Bool) :
    Correlated c loaded (s.serve c sendable) := by
  rcases serve_cases c s sendable with
    heq | heq | ⟨artifacts, connection, request, response, hserver, hserving, hresponse, heq⟩
  · rw [heq]
    exact h
  · rw [heq]
    exact ⟨h.inStep, fun _ hnone => (by cases hnone), h.sound.abandon⟩
  · rw [heq]
    refine ⟨h.inStep, h.server, h.sound.reply fun x hx => ?_⟩
    obtain rfl : (connection, request) = x := Option.some.inj (hserving.symm.trans hx)
    exact ⟨artifacts, response, h.server artifacts hserver, hresponse, rfl⟩

theorem Correlated.atServer (h : Correlated c loaded s) {event : ServerEvent}
    (hloaded : StartsWith loaded (.server event : AiServiceEvent Text))
    (htransports : s.Transports (.server event)) :
    Correlated c loaded (s.serverStep c event) := by
  cases event with
  | starts artifacts =>
    unfold serverStep
    dsimp only
    split
    · refine ⟨h.inStep, fun artifacts' hsome => ?_, h.sound⟩
      cases hsome
      exact hloaded artifacts rfl
    · exact h
  | ends => exact ⟨h.inStep, fun _ hnone => (by cases hnone), h.sound.abandon⟩
  | receives connection request =>
    unfold serverStep
    dsimp only
    split
    · rename_i hfree
      exact ⟨h.inStep, h.server, h.sound.take hfree.2 htransports⟩
    · exact h
  | replies sendable => exact h.serve sendable

/-- **Every step keeps requests and replies together.** -/
theorem step_correlated (h : Correlated c loaded s) {e : AiServiceEvent Text}
    (hloaded : StartsWith loaded e) (htransports : s.Transports e) :
    Correlated c loaded (step c s e).1 := by
  cases e with
  | path event => exact h.path event
  | request opening sending => exact h.request opening sending
  | reply ending => exact h.reply htransports
  | server event => exact h.atServer hloaded htransports

/-! ## The path in the service -/

section Moves

variable {Answer : AiJob → Text → Prop}

end Moves

end Correlated

abbrev AiServiceTaken (Text : Type) :=
  Taken (AiService Text) (AiServiceEvent Text) AiPathOutput

/-- The records that the handlers of the sensor have made, in order. -/
def made (h : List (AiServiceTaken Text)) : List (FlowRecord Float) :=
  h.flatMap fun x => records x.output.effects

/-- The decisions that the ticks have drained, in order. -/
def arrived (h : List (AiServiceTaken Text)) : List (AiDecision Float) :=
  h.flatMap fun x => x.output.drained

/-- A server is started with the artifacts. -/
def Started (events : List (AiServiceEvent Text)) (artifacts : LoadedArtifacts) : Prop :=
  .server (.starts artifacts) ∈ events

section Runs

variable {c : AiServiceParams Text} {loaded : LoadedArtifacts → Prop}

theorem arriving_replies {s : AiService Text} (h : Correlated c loaded s)
    {e : AiServiceEvent Text} (htransports : s.Transports e) {job : AiJob} {text : Text}
    (harriving : s.arriving e = some (job, text)) : Replies c loaded (payload c job) text := by
  unfold arriving at harriving
  split at harriving
  · split at harriving
    · rename_i job' hworker
      obtain ⟨hsent, hsome⟩ := Option.ite_none_right_eq_some.mp harriving
      cases hsome
      exact (h.collects hworker hsent htransports).1
    · cases harriving
  · cases harriving

theorem correlated_run {events : List (AiServiceEvent Text)}
    (htransports : Along (step c) Transports initial events)
    (hloaded : ∀ artifacts, Started events artifacts → loaded artifacts) :
    Correlated c loaded (exec (step c) initial events) := by
  induction events using List.reverseRecOn with
  | nil => exact initial_correlated c loaded
  | append_singleton events e ih =>
    obtain ⟨hbefore, hlast, -⟩ := (along_append _ _ _).mp htransports
    have hcorrelated := ih hbefore fun artifacts hmem =>
      hloaded artifacts (List.mem_append_left _ hmem)
    rw [Machine.exec_append]
    refine step_correlated hcorrelated ?_ hlast
    rintro artifacts rfl
    exact hloaded artifacts (List.mem_append_right _ (List.mem_singleton_self _))

/-- **A reply that comes to the worker is the reply to the request of its job**, computed by a
server that was started before, whatever requests and replies of earlier jobs are still under way,
were lost or were given up. -/
theorem replies_correlated (c : AiServiceParams Text) {before : List (AiServiceEvent Text)}
    {e : AiServiceEvent Text}
    (htransports : Along (step c) Transports initial (before ++ [e])) {job : AiJob} {text : Text}
    (harriving : (exec (step c) initial before).arriving e = some (job, text)) :
    ∃ artifacts response, Started before artifacts ∧
      responseForPayload c.torchMean c.loads artifacts (payload c job) = some response ∧
      text = c.dumps response := by
  obtain ⟨hbefore, hlast, -⟩ := (along_append _ _ _).mp htransports
  exact arriving_replies (correlated_run hbefore fun _ hmem => hmem) hlast harriving

end Runs

/-! ## A connection that is reset at once -/

/-- What `json.dumps` makes of the reply to the request, and of the one to undecodable bytes. -/
def resetDumps (response : PyValue) : String :=
  match response.member? "ok" with
  | some (.bool true) => AiPath.replyText
  | _ => invalidJsonText

def resetService : AiServiceParams String where
  path := AiPath.resetParams
  torchMean := meanInOrder
  loads := AiPath.resetLoads
  dump _ := Contract.resetText
  dumps := resetDumps

/-- Up to the request under way. -/
def resetRound : List (AiServiceEvent String) :=
  (.server (.starts zeroArtifacts) :: AiPath.beforeReply.map .path) ++ [.request .connected .sent]

/-- Up to the reply under way. -/
def resetExchange : List (AiServiceEvent String) :=
  resetRound ++ [.server (.receives 1 (payload resetService AiPath.resetJob)),
    .server (.replies true)]

/-- Besides the step of the path, the worker may reset its socket. -/
theorem pathStep_eq (c : AiServiceParams Text) (s : AiService Text) {event : AiPathEvent Text}
    (h : AiPath.isExchange event = false) :
    ∃ locals, (s.pathStep c event).1 =
        { s with path := (AiPath.step c.path s.path event).1, locals } ∧
      (s.locals.socket = none → locals = s.locals) := by
  cases event with
  | client move =>
    cases move with
    | exchange outcome => cases h
    | worker =>
      unfold pathStep
      dsimp only
      split
      · refine ⟨_, rfl, fun hnone => ?_⟩
        rw [← hnone]
      · exact ⟨_, rfl, fun _ => rfl⟩
    | _ => exact ⟨_, rfl, fun _ => rfl⟩
  | _ => exact ⟨_, rfl, fun _ => rfl⟩

/-- Before its first request the worker has no socket to reset. -/
theorem pathStep_fresh (c : AiServiceParams Text) (path : AiPath Text)
    (traffic : Traffic ByteArray Text) (server : Option LoadedArtifacts) {event : AiPathEvent Text}
    (h : AiPath.isExchange event = false) :
    (pathStep c ⟨path, {}, traffic, server⟩ event).1 =
      ⟨(AiPath.step c.path path event).1, {}, traffic, server⟩ := by
  obtain ⟨locals, heq, hsame⟩ := pathStep_eq c ⟨path, {}, traffic, server⟩ h
  rw [heq, hsame rfl]

theorem exec_fresh (c : AiServiceParams Text) (traffic : Traffic ByteArray Text)
    (server : Option LoadedArtifacts) {events : List (AiPathEvent Text)}
    (h : ∀ e ∈ events, AiPath.isExchange e = false) (path : AiPath Text) :
    exec (step c) ⟨path, {}, traffic, server⟩ (events.map .path) =
      ⟨exec (AiPath.step c.path) path events, {}, traffic, server⟩ := by
  induction events generalizing path with
  | nil => rfl
  | cons e events ih =>
    obtain ⟨hfirst, hrest⟩ := List.forall_mem_cons.mp h
    rw [List.map_cons, exec_cons, exec_cons, ← ih hrest, ← pathStep_fresh c path traffic server hfirst]
    rfl

/-- Behind the request. -/
def resetWaiting : AiService String where
  path := exec (AiPath.step AiPath.resetParams) .initial AiPath.beforeReply
  locals := ⟨some ⟨"tcp://127.0.0.1:5555", true⟩, 1, true⟩
  traffic := { opened := 1, sent := {(1, payload resetService AiPath.resetJob)} }
  server := some zeroArtifacts

theorem exec_resetRound : exec (step resetService) initial resetRound = resetWaiting := by
  have hpaths : exec (step resetService) initial
      (.server (.starts zeroArtifacts) :: AiPath.beforeReply.map .path) =
      ⟨exec (AiPath.step AiPath.resetParams) .initial AiPath.beforeReply, {}, {},
        some zeroArtifacts⟩ :=
    exec_fresh resetService {} (some zeroArtifacts) (by decide) .initial
  rw [resetRound, Machine.exec_append, hpaths, exec_cons, exec_nil]
  unfold step requestStep
  dsimp only
  rw [AiPath.beforeReply_worker]
  rfl

theorem resetRound_delivers : (exec (step resetService) initial resetRound).traffic.Delivers
    (1, payload resetService AiPath.resetJob) := by
  rw [exec_resetRound]
  exact ⟨le_refl _⟩

/-- Behind the reply of the server. -/
def resetReplied : AiService String := { resetWaiting with
  traffic := {
    opened := 1
    sent := {(1, payload resetService AiPath.resetJob)}
    taken := {(1, payload resetService AiPath.resetJob)}
    replied := {(1, AiPath.replyText)} } }

theorem resetService_replies :
    responseForPayload meanInOrder AiPath.resetLoads zeroArtifacts
      (payload resetService AiPath.resetJob) = some AiPath.resetResponse :=
  AiPath.resetResponse_of

theorem resetDumps_response : resetDumps AiPath.resetResponse = AiPath.replyText := by
  unfold resetDumps
  rw [AiPath.resetResponse_ok]

theorem exec_resetExchange :
    exec (step resetService) initial resetExchange = resetReplied := by
  have hreceived : (step resetService resetWaiting
      (.server (.receives 1 (payload resetService AiPath.resetJob)))).1 =
      { resetWaiting with
        traffic := resetWaiting.traffic.take (1, payload resetService AiPath.resetJob) } := rfl
  have hserved := serve_of resetService
    { resetWaiting with
      traffic := resetWaiting.traffic.take (1, payload resetService AiPath.resetJob) }
    rfl rfl resetService_replies
  have hdumps : resetService.dumps = resetDumps := rfl
  rw [hdumps, resetDumps_response] at hserved
  rw [resetExchange, Machine.exec_append, exec_resetRound, exec_cons, exec_cons, exec_nil,
    hreceived]
  unfold step serverStep
  dsimp only
  rw [hserved]
  rfl

theorem resetExchange_returns :
    (exec (step resetService) initial resetExchange).traffic.Returns AiPath.replyText := by
  rw [exec_resetExchange]
  exact ⟨le_refl _⟩

/-- The worker waits for the reply. -/
theorem resetExchange_arriving : (exec (step resetService) initial resetExchange).arriving
    (.reply (.received AiPath.replyText)) = some (AiPath.resetJob, AiPath.replyText) := by
  rw [exec_resetExchange]
  unfold arriving resetReplied resetWaiting
  dsimp only
  rw [AiPath.beforeReply_worker]
  rfl

/-- An event with which nothing arrives. -/
def isQuiet : AiServiceEvent Text → Bool
  | .server (.receives _ _) | .reply (.received _) => false
  | _ => true

theorem transports_quiet (c : AiServiceParams Text) {events : List (AiServiceEvent Text)}
    (h : events.all isQuiet = true) (s : AiService Text) : Along (step c) Transports s events := by
  refine along_of_forall (fun e he s => ?_) s
  have hquiet := List.all_eq_true.mp h e he
  unfold Transports
  split
  · cases hquiet
  · cases hquiet
  · trivial

/-- The transport of the run is that of the sockets. -/
theorem resetExchange_transports :
    Along (step resetService) Transports initial resetExchange :=
  (along_append _ _ _).mpr ⟨transports_quiet _ rfl _, resetRound_delivers, trivial, trivial⟩

/-- The record of the reset connection gets its reply. -/
theorem replies_correlated_reset :
    ∃ artifacts response, Started resetExchange artifacts ∧
      responseForPayload meanInOrder AiPath.resetLoads artifacts
        (payload resetService AiPath.resetJob) = some response ∧
      AiPath.replyText = resetDumps response := by
  have htransports : Along (step resetService) Transports initial
      (resetExchange ++ [.reply (.received AiPath.replyText)]) :=
    (along_append _ _ _).mpr ⟨resetExchange_transports, resetExchange_returns, trivial⟩
  exact replies_correlated resetService htransports resetExchange_arriving

end AiService

end InlineIps
