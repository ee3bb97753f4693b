import InlineIps.Ai.AsyncAiClient
import InlineIps.App.SupervisorMoves

/-!
# The application

`ApplicationController` connects the supervisor with the AI client. The handlers of the
supervisor switch the client on and off, and the failure handler of the client, which its
worker calls, posts a call to the queue of the Qt thread.

A step is one handler of the Qt thread, or one critical section of the client's worker or of
the capture thread. A posted call waits in the queue as long as it takes.
-/

namespace InlineIps

open AsyncAiClient Nlohmann

structure ApplicationParams where
  config : AiConfig
  queueCapacity : Nat
  endpoint : String
  parse : List UInt8 → Except Exception Value

namespace ApplicationParams

/-- The client has a failure handler. -/
def client (c : ApplicationParams) : AiClientParams (List UInt8) where
  queueCapacity := c.queueCapacity
  hasFailureHandler := true
  parse := c.parse

/-- The ready handler does not throw. -/
def supervisor (c : ApplicationParams) : SupervisorParams Empty where
  config := c.config
  endpoint := c.endpoint
  parse := c.parse
  what := nofun

end ApplicationParams

/-- A call that `post_transport_failure` posted. The call carries the reason only; the
generation tells here whose failure it is. -/
structure PostedFailure where
  reason : String
  generation : Nat
  deriving DecidableEq

/-- `session` is the generation that the last call of the ready handler gave the client. -/
structure ApplicationController where
  client : AsyncAiClient (List UInt8) := {}
  supervisor : AiProcessSupervisor := {}
  posted : List PostedFailure := []
  started : Bool := false
  stopping : Bool := false
  session : Nat := 0
  deriving DecidableEq

/-- The critical sections of the other threads. -/
inductive ThreadAction where
  | consume (record : FlowRecord Float)
  | drainDecisions
  | exchange (outcome : AiExchange (List UInt8))
  | worker

def ThreadAction.toAction : ThreadAction → AiAction (List UInt8)
  | .consume record => .consume record
  | .drainDecisions => .drainDecisions
  | .exchange outcome => .exchange outcome
  | .worker => .worker

inductive ControllerEvent where
  /-- `main` starts the controller. -/
  | start (threadStarts : Bool) (env : AttemptEnv) (nested : List (ProcessSignal Empty))
  /-- The Qt loop calls a handler of the supervisor. -/
  | supervisor (event : SupervisorEvent Empty)
  /-- The Qt loop makes the first posted call. -/
  | deliver (nested : List (ProcessSignal Empty))
  | beginShutdown (nested : List (ProcessSignal Empty))
  | thread (action : ThreadAction)

namespace ApplicationController

/-- The ready handler and the state handler. -/
def callback (a : ApplicationController) : SupervisorEffect → ApplicationController
  | .ready endpoint modelVersion =>
    let client := a.client.setOnline endpoint modelVersion
    { a with client, session := client.connectionGeneration }
  | .stateChanged state _ =>
    if state = .online then a else { a with client := a.client.setOffline }
  | _ => a

/-- A handler of the supervisor with its callbacks. -/
def supervise (handler : Supervision → Supervision) (a : ApplicationController) :
    ApplicationController :=
  let x := handler ⟨a.supervisor, []⟩
  { x.effects.foldl callback a with supervisor := x.self }

def start (c : ApplicationParams) (threadStarts : Bool) (env : AttemptEnv)
    (nested : List (ProcessSignal Empty)) (a : ApplicationController) :
    ApplicationController × Bool :=
  if a.started || a.stopping then (a, false)
  else
    let a := { a with started := true, client := a.client.start }
    if !threadStarts then ({ a with client := a.client.stop, started := false }, false)
    else (a.supervise (Supervision.handle c.supervisor (.start env nested)), true)

def beginShutdown (c : ApplicationParams) (nested : List (ProcessSignal Empty))
    (a : ApplicationController) : ApplicationController :=
  if a.stopping then a
  else
    { a with stopping := true, client := a.client.stop }.supervise
      (Supervision.handle c.supervisor (.stop nested))

/-- The only call of `start` in `main`. When it fails, the controller is destroyed. -/
def launch (c : ApplicationParams) (threadStarts : Bool) (env : AttemptEnv)
    (nested : List (ProcessSignal Empty)) (a : ApplicationController) : ApplicationController :=
  if a.started || a.stopping then a
  else
    match a.start c threadStarts env nested with
    | (a, true) => a
    | (a, false) => a.beginShutdown c nested

/-- The first posted call. -/
def deliverPosted (c : ApplicationParams) (nested : List (ProcessSignal Empty))
    (a : ApplicationController) : ApplicationController :=
  match a.posted with
  | [] => a
  | failure :: rest =>
    let a := { a with posted := rest }
    if a.stopping then a
    else
      a.supervise (Supervision.handle c.supervisor (.reportTransportFailure failure.reason nested))

/-- A critical section of the client. The failure handler posts its call. -/
def thread (c : ApplicationParams) (action : ThreadAction) (a : ApplicationController) :
    ApplicationController :=
  let (client, output) := AsyncAiClient.step c.client a.client action.toAction
  match a.client.worker, output with
  | .notifying _ generation, .failureHandler reason =>
    { a with client, posted := a.posted ++ [⟨reason, generation⟩] }
  | _, _ => { a with client }

def step (c : ApplicationParams) (a : ApplicationController) :
    ControllerEvent → ApplicationController
  | .start threadStarts env nested => a.launch c threadStarts env nested
  | .supervisor event => a.supervise (Supervision.handle c.supervisor event)
  | .deliver nested => a.deliverPosted c nested
  | .beginShutdown nested => a.beginShutdown c nested
  | .thread action => a.thread c action

def run (c : ApplicationParams) (events : List ControllerEvent) : ApplicationController :=
  events.foldl (step c) {}

end ApplicationController

end InlineIps
