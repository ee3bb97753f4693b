import InlineIps.App.Sessions
import InlineIps.App.TrayState
import InlineIps.Capture.SourceStop

/-!
# The application from start to exit

`main` starts the controller, runs the Qt loop and returns its exit code. The controller has a
thread that runs `PacketCapture::start`; the client has its worker. Both post calls to the Qt thread,
which makes them in order.

A step is one handler of the Qt thread, one part of `begin_shutdown` between two points where the
Qt thread may have to wait or another thread sees what it does, or one step of another thread. An
event that cannot happen changes nothing. A step that begins the shutdown outputs its exit code.
-/

namespace InlineIps

open Library Library.Machine AsyncAiClient

/-- The calls that the other threads post. -/
inductive PostedCall where
  | transportFailure (failure : PostedFailure)
  | aiBlock (event : AiBlockEvent Float)
  | captureResult (ok : Bool)
  deriving DecidableEq

/-- Where the thread is in `PacketCapture::start`. -/
inductive CaptureStage where
  /-- Not created. -/
  | absent
  | opening
  | installing
  /-- In `loop` or before it. -/
  | looping
  | uninstalling (loopOk : Bool)
  | closing (ok : Bool)
  /-- Before the post of the result. -/
  | posting (ok : Bool)
  | ended
  deriving DecidableEq

/-- Where the Qt thread is in `begin_shutdown`. -/
inductive ShutdownStage where
  | no
  /-- Behind the failed start of the capture thread, in `ai_client_->stop`. -/
  | abortingStart
  /-- Between the two stores of `PacketSource::stop`. -/
  | stoppingCapture (exitCode : Int)
  | stoppingClient (exitCode : Int)
  /-- In `ai_client_->stop`, before the join of the worker. -/
  | joiningWorker (exitCode : Int)
  | stoppingSupervisor (exitCode : Int)
  /-- Before the join of the capture thread. -/
  | joiningCapture (exitCode : Int)
  | done (exitCode : Int)
  deriving DecidableEq

inductive MainStage where
  | beforeStart
  | executing
  /-- Behind the Qt loop, or without it, with the exit code. -/
  | leaving (exitCode : Int)
  | returned (exitCode : Int)
  deriving DecidableEq

structure Application (H : Type) where
  client : AsyncAiClient (List UInt8) := {}
  supervisor : AiProcessSupervisor := {}
  tray : TrayController
  source : SourceThreads H
  capture : CaptureStage := .absent
  posted : List PostedCall := []
  started : Bool := false
  stopping : Bool := false
  session : Nat := 0
  shutdown : ShutdownStage := .no
  main : MainStage := .beforeStart
  /-- `g_shutdown_requested`. -/
  shutdownRequested : Bool := false

/-- The slots of the supervisor, which the Qt loop calls. -/
inductive SupervisorSlot where
  | startupTimeout (nested : List (ProcessSignal Empty))
  | restartTimeout (env : AttemptEnv) (nested : List (ProcessSignal Empty))
  | stableTimeout
  | signal (signal : ProcessSignal Empty)

def SupervisorSlot.toEvent : SupervisorSlot → SupervisorEvent Empty
  | .startupTimeout nested => .startupTimeout nested
  | .restartTimeout env nested => .restartTimeout env nested
  | .stableTimeout => .stableTimeout
  | .signal s => .signal s

/-- The steps of the capture thread in `loop`. -/
inductive LoopStep (X Y : Type) where
  | enter (cleanup enobufs : TimePoint)
  | test
  | turn (t : Turn X Y)
  | leave

def LoopStep.toThreadStep {X Y : Type} : LoopStep X Y → ThreadStep X Y
  | .enter cleanup enobufs => .enter cleanup enobufs
  | .test => .test
  | .turn t => .turn t
  | .leave => .leave

inductive ApplicationEvent (X Y : Type) where
  /-- `main` starts the controller. -/
  | launch (threadStarts : Bool) (env : AttemptEnv) (nested : List (ProcessSignal Empty))
  | slot (slot : SupervisorSlot)
  /-- The Qt loop makes the first posted call. -/
  | deliver (nested : List (ProcessSignal Empty))
  /-- The menu item for the exit. -/
  | exitAction
  /-- A signal of the operating system. -/
  | signal
  /-- The timer that looks for it. -/
  | signalTimer
  /-- The Qt loop ends for another reason. -/
  | loopEnds (exitCode : Int)
  /-- The Qt thread goes on with the shutdown. -/
  | proceed (nested : List (ProcessSignal Empty))
  /-- `main` returns. -/
  | mainReturns
  /-- A critical section of the client in another thread. -/
  | thread (action : ThreadAction)
  /-- A call of the capture thread outside of `loop` ends. -/
  | capture (ok : Bool)
  | loop (step : LoopStep X Y)
  /-- The capture thread posts a block of the AI in `loop`. -/
  | aiBlock (event : AiBlockEvent Float)

namespace Application

variable {H X Y : Type}

def initial (h : H) (available : Bool) : Application H where
  tray := { available }
  source := .initial h

/-- The client and the supervisor with the calls that tie them together. -/
def controller (a : Application H) : ApplicationController where
  client := a.client
  supervisor := a.supervisor
  posted := a.posted.filterMap fun
    | .transportFailure failure => some failure
    | _ => none
  started := a.started
  stopping := a.stopping
  session := a.session

def workerEnded (a : Application H) : Bool :=
  a.client.worker = .absent ∨ a.client.worker = .finished

def captureEnded (a : Application H) : Bool :=
  a.capture = .absent ∨ a.capture = .ended

/-- The Qt loop runs, and no handler is under way. -/
def free (a : Application H) : Bool :=
  match a.main, a.shutdown with
  | .executing, .no | .executing, .done _ => true
  | _, _ => false

/-- The ready handler and the state handler. -/
def callback (a : Application H) (effect : SupervisorEffect) : Application H :=
  let x := a.controller.callback effect
  { a with client := x.client, session := x.session, tray := trayCallback a.tray effect }

def supervise (c : ApplicationParams) (event : SupervisorEvent Empty) (a : Application H) :
    Application H :=
  let x := Supervision.handle c.supervisor event ⟨a.supervisor, []⟩
  { x.effects.foldl callback a with supervisor := x.self }

/-- `begin_shutdown` up to the first store of `capture_->stop`. -/
def beginShutdown (handlers : SourceHandlers H X Y) (exitCode : Int) (a : Application H) :
    Application H × Option Int :=
  if a.stopping then (a, none)
  else
    ({ a with
      stopping := true
      tray := a.tray.setAiState .stopping "종료 중"
      source := (a.source.step handlers .storeStopRequested).1
      shutdown := .stoppingCapture exitCode }, some exitCode)

/-- When the start fails, `main` returns a 1 of its own, and the shutdown begins with it. -/
def launch (c : ApplicationParams) (threadStarts : Bool) (env : AttemptEnv)
    (nested : List (ProcessSignal Empty)) (a : Application H) : Application H × Option Int :=
  if a.main ≠ .beforeStart then (a, none)
  else
    let a := { a with started := true, client := a.client.start }
    if threadStarts then
      ({ a with capture := .opening, main := .executing }.supervise c (.start env nested), none)
    else
      ({ a with
        client := a.client.stop
        started := false
        shutdown := .abortingStart
        main := .leaving 1 }, some 1)

def deliver (c : ApplicationParams) (handlers : SourceHandlers H X Y) (number : Float → String)
    (nested : List (ProcessSignal Empty)) (a : Application H) : Application H × Option Int :=
  match a.posted with
  | [] => (a, none)
  | call :: rest =>
    let a := { a with posted := rest }
    if a.stopping then (a, none)
    else
      match call with
      | .transportFailure failure =>
        (a.supervise c (.reportTransportFailure failure.reason nested), none)
      | .aiBlock event => ({ a with tray := a.tray.showAiBlock number event }, none)
      | .captureResult ok => if ok then (a, none) else a.beginShutdown handlers 1

/-- The rest of `begin_shutdown`. The destructor calls it behind a failed start, with 0 as the exit
code. There is no Qt loop then that could take the code, and it is dropped here. -/
def proceed (c : ApplicationParams) (handlers : SourceHandlers H X Y)
    (nested : List (ProcessSignal Empty)) (a : Application H) : Application H :=
  match a.shutdown with
  | .no | .done _ => a
  | .abortingStart => if a.workerEnded then (a.beginShutdown handlers 0).1 else a
  | .stoppingCapture exitCode =>
    { a with
      source := (a.source.step handlers .storeNotRunning).1
      shutdown := .stoppingClient exitCode }
  | .stoppingClient exitCode =>
    { a with client := a.client.stop, shutdown := .joiningWorker exitCode }
  | .joiningWorker exitCode =>
    if a.workerEnded then { a with shutdown := .stoppingSupervisor exitCode } else a
  | .stoppingSupervisor exitCode =>
    { a.supervise c (.stop nested) with shutdown := .joiningCapture exitCode }
  | .joiningCapture exitCode =>
    if a.captureEnded then { a with shutdown := .done exitCode } else a

/-- The exit code given to `QCoreApplication::exit` counts while the Qt loop runs. -/
def mainReturns (a : Application H) : Application H :=
  match a.main, a.shutdown with
  | .executing, .done exitCode | .leaving exitCode, .done _ => { a with main := .returned exitCode }
  | _, _ => a

/-- The failure handler of the client posts its call. -/
def thread (c : ApplicationParams) (action : ThreadAction) (a : Application H) : Application H :=
  let (client, output) := AsyncAiClient.step c.client a.client action.toAction
  match a.client.worker, output with
  | .notifying _ generation, .failureHandler reason =>
    { a with client, posted := a.posted ++ [.transportFailure ⟨reason, generation⟩] }
  | _, _ => { a with client }

def captureCall (ok : Bool) (a : Application H) : Application H :=
  match a.capture with
  | .absent | .looping | .ended => a
  | .opening => { a with capture := if ok then .installing else .posting false }
  | .installing => { a with capture := if ok then .looping else .closing false }
  | .uninstalling loopOk => { a with capture := .closing (loopOk && ok) }
  | .closing before => { a with capture := .posting (before && ok) }
  | .posting result =>
    { a with capture := .ended, posted := a.posted ++ [.captureResult result] }

def loop (handlers : SourceHandlers H X Y) (step : LoopStep X Y) (a : Application H) :
    Application H :=
  if a.capture ≠ .looping then a
  else
    let (source, output) := a.source.step handlers step.toThreadStep
    match output.returned with
    | some ok => { a with source, capture := .uninstalling ok }
    | none => { a with source }

/-- What the Qt thread does when it is free. -/
def whenFree (f : Application H → Application H × Option Int) (a : Application H) :
    Application H × Option Int :=
  if a.free then f a else (a, none)

def step (c : ApplicationParams) (handlers : SourceHandlers H X Y) (number : Float → String)
    (a : Application H) : ApplicationEvent X Y → Application H × Option Int
  | .launch threadStarts env nested => a.launch c threadStarts env nested
  | .slot slot => a.whenFree fun a => (a.supervise c slot.toEvent, none)
  | .deliver nested => a.whenFree (deliver c handlers number nested)
  | .exitAction => a.whenFree (beginShutdown handlers 0)
  | .signal => ({ a with shutdownRequested := true }, none)
  | .signalTimer => a.whenFree fun a =>
    if a.shutdownRequested then a.beginShutdown handlers 0 else (a, none)
  | .loopEnds exitCode =>
    if a.free && !a.stopping then { a with main := .leaving exitCode }.beginShutdown handlers exitCode
    else (a, none)
  | .proceed nested => (a.proceed c handlers nested, none)
  | .mainReturns => (a.mainReturns, none)
  | .thread action => (a.thread c action, none)
  | .capture ok => (a.captureCall ok, none)
  | .loop step => (a.loop handlers step, none)
  | .aiBlock event =>
    (if a.capture = .looping then { a with posted := a.posted ++ [.aiBlock event] } else a, none)

end Application

end InlineIps
