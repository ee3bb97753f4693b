import InlineIps.Common.Nlohmann
import InlineIps.Config.Config

/-!
# The supervisor of the AI process

`AiProcessSupervisor` runs the AI server as a child process: it starts it, waits for its
ready line, restarts it after a failure, and gives up when the restart budget is spent. All
its handlers run in the Qt thread.

A handler maps a `Supervision` to the next one. It records what it does (calls of the two
callbacks, attempts, failures handled, restarts scheduled) as effects, in order. Signals of
the process can arrive inside a handler, while it waits for the process to end or inside
`QProcess::start`; a signal carries the signals that arrive inside its own handler.
-/

namespace InlineIps

open Nlohmann

inductive AiState where
  | disabled
  | starting
  | online
  | restartWait
  | offline
  | stopping
  deriving DecidableEq

/-- `QProcess::ProcessError`. -/
inductive ProcessError where
  | failedToStart
  | crashed
  | timedout
  | readError
  | writeError
  | unknownError
  deriving DecidableEq

def ProcessError.code : ProcessError → Nat
  | .failedToStart => 0
  | .crashed => 1
  | .timedout => 2
  | .readError => 3
  | .writeError => 4
  | .unknownError => 5

/-- A signal of the child process. `thrown` is what the ready handler throws when the signal
leads to its call, `nested` are the signals that arrive while the process is stopped. -/
inductive ProcessSignal (Error : Type) where
  | readyReadStandardOutput (data : List UInt8) (thrown : Option Error)
      (nested : List (ProcessSignal Error))
  | readyReadStandardError
  | errorOccurred (error : ProcessError) (errorString : String)
      (nested : List (ProcessSignal Error))
  | finished (exitCode status : Int) (data : List UInt8) (thrown : Option Error)

structure SupervisorParams (Error : Type) where
  config : AiConfig
  endpoint : String
  parse : List UInt8 → Except Exception Value
  what : Error → String

/-- What an attempt finds: an unsafe path and whether a stale socket could be removed. -/
structure AttemptEnv where
  pathError : Option String
  socketRemoved : Bool

/-- The members of the supervisor. A timer holds its interval while it is active. -/
structure AiProcessSupervisor where
  state : AiState := .disabled
  modelVersion : String := ""
  detail : String := ""
  restartCount : Nat := 0
  restartAttempts : Nat := 0
  failureHandledForAttempt : Bool := false
  stopRequested : Bool := false
  stdoutBuffer : List UInt8 := []
  processRunning : Bool := false
  startupTimer : Option Nat := none
  restartTimer : Option Nat := none
  stableTimer : Option Nat := none
  deriving DecidableEq

inductive SupervisorEffect where
  /-- `start()` begins a series. -/
  | begin
  /-- The stable timer clears the count of restarts. -/
  | stable
  | attempt
  | failure (reason : String)
  | restartIn (ms : Nat)
  | stop
  /-- The ready handler is called. -/
  | ready (endpoint modelVersion : String)
  /-- The state handler is called. -/
  | stateChanged (state : AiState) (detail : String)
  deriving DecidableEq

/-- The supervisor inside a handler, with its effects so far. -/
structure Supervision where
  self : AiProcessSupervisor := {}
  effects : List SupervisorEffect := []
  deriving DecidableEq

variable {Error : Type}

def restartDelayMs (attemptIndex : Nat) : Nat := min (1000 * 2 ^ min attemptIndex 2) 4000

/-- The model version of a ready line. -/
def readyVersion? (c : SupervisorParams Error) (line : List UInt8) : Option String :=
  match c.parse line with
  | .error _ => none
  | .ok ready =>
    match isObject ready, ready.member? "event", ready.member? "schema_version",
      ready.member? "model_version" with
    | true, some (.string event), some (.number n), some (.string version) =>
      if event = "AI_READY" ∧ n.toInt?.isSome ∧ n.toInt32 = 1 ∧ version ≠ "" then some version
      else none
    | _, _, _, _ => none

/-- The ready line of a server with the model `ae-v1`, as the child prints it. -/
def readyText : List UInt8 :=
  "\x7b\"event\": \"AI_READY\", \"schema_version\": 1, \"model_version\": \"ae-v1\"\x7d".toList.map
    fun ch => ch.toNat.toUInt8

/-- The first line of the buffer and what is behind it. -/
def takeLine? (buffer : List UInt8) : Option (List UInt8 × List UInt8) :=
  match buffer.span (· ≠ 10) with
  | (line, _ :: rest) => some (line, rest)
  | (_, []) => none

/-- Without a carriage return at the end. -/
def chopReturn (line : List UInt8) : List UInt8 :=
  if line.getLast? = some 13 then line.dropLast else line

namespace Supervision

def emit (x : Supervision) (effect : SupervisorEffect) : Supervision :=
  { x with effects := x.effects ++ [effect] }

def setState (x : Supervision) (state : AiState) (detail : String) : Supervision :=
  { x with self := { x.self with state, detail } }.emit (.stateChanged state detail)

/-- `waiting` is what happens while `waitForFinished` waits. -/
def stopProcess (waiting : Supervision → Supervision) (x : Supervision) : Supervision :=
  if !x.self.processRunning then x else waiting x

def handleFailure (c : SupervisorParams Error) (reason : String)
    (waiting : Supervision → Supervision) (x : Supervision) : Supervision :=
  if x.self.stopRequested || x.self.state == .stopping || x.self.failureHandledForAttempt then x
  else
    let canRestart := x.self.restartAttempts < c.config.maxRestarts
    let x := { x with self := { x.self with
      failureHandledForAttempt := true
      startupTimer := none
      stableTimer := none
      modelVersion := "" } }.emit (.failure reason)
    let x :=
      if canRestart then x.setState .restartWait reason
      else
        x.setState .offline
          (reason ++ " (자동 재시작 " ++ toString c.config.maxRestarts ++ "회 소진)")
    let x := x.stopProcess waiting
    if canRestart ∧ x.self.stopRequested = false then
      { x with self := { x.self with
        restartTimer := some (restartDelayMs x.self.restartAttempts) } }.emit
          (.restartIn (restartDelayMs x.self.restartAttempts))
    else x

def handleStdoutLine (c : SupervisorParams Error) (thrown : Option Error)
    (waiting : Supervision → Supervision) (line : List UInt8) (x : Supervision) : Supervision :=
  if x.self.state == .starting then
    match readyVersion? c line with
    | none => x
    | some version =>
      let x := { x with self := { x.self with
        startupTimer := none
        modelVersion := version } }.emit (.ready c.endpoint version)
      match thrown with
      | some error => x.handleFailure c ("AI ready handler 오류: " ++ c.what error) waiting
      | none =>
        let x := x.setState .online "AI 온라인"
        { x with self := { x.self with
          stableTimer := some (c.config.restartResetSeconds * 1000) } }
  else x

/-- The loop of `handle_stdout`, for the given number of rounds. -/
def stdoutLoop (c : SupervisorParams Error) (thrown : Option Error)
    (waiting : Supervision → Supervision) : Nat → Supervision → Supervision
  | 0, x => x
  | rounds + 1, x =>
    match takeLine? x.self.stdoutBuffer with
    | none => x
    | some (line, rest) =>
      stdoutLoop c thrown waiting rounds
        ({ x with self := { x.self with stdoutBuffer := rest } }.handleStdoutLine c thrown waiting
          (chopReturn line))

/-- A round for each newline is enough (`handleStdout_drained`). -/
def handleStdout (c : SupervisorParams Error) (data : List UInt8) (thrown : Option Error)
    (waiting : Supervision → Supervision) (x : Supervision) : Supervision :=
  let buffer := x.self.stdoutBuffer ++ data
  stdoutLoop c thrown waiting (buffer.count 10)
    { x with self := { x.self with stdoutBuffer := buffer } }

def flushPartialOutput (x : Supervision) : Supervision :=
  { x with self := { x.self with stdoutBuffer := [] } }

/-- The slot of `finished`. The process no longer runs. -/
def onFinished (c : SupervisorParams Error) (exitCode status : Int) (data : List UInt8)
    (thrown : Option Error) (x : Supervision) : Supervision :=
  let x := (x.handleStdout c data thrown id).flushPartialOutput
  if x.self.state != .stopping then
    x.handleFailure c
      ("AI 프로세스 종료 code=" ++ toString exitCode ++ " status=" ++ toString status) id
  else x

mutual

/-- The slots of the signals of the process, which come only while it runs. -/
def deliver (c : SupervisorParams Error) : ProcessSignal Error → Supervision → Supervision
  | .readyReadStandardOutput data thrown nested, x =>
    if !x.self.processRunning then x else x.handleStdout c data thrown (deliverAll c nested)
  | .readyReadStandardError, x => x
  | .errorOccurred error errorString nested, x =>
    if !x.self.processRunning then x
    else
      { x with self := { x.self with
          processRunning := error != ProcessError.failedToStart } }.handleFailure c
        ("QProcess 오류 code=" ++ toString error.code ++ " message=" ++ errorString)
        (deliverAll c nested)
  | .finished exitCode status data thrown, x =>
    if !x.self.processRunning then x
    else
      { x with self := { x.self with processRunning := false } }.onFinished c exitCode status data
        thrown

def deliverAll (c : SupervisorParams Error) :
    List (ProcessSignal Error) → Supervision → Supervision
  | [], x => x
  | signal :: signals, x => deliverAll c signals (deliver c signal x)

end

/-- `QProcess::start`, which does nothing while the process runs. -/
def startProcess (waiting : Supervision → Supervision) (x : Supervision) : Supervision :=
  if x.self.processRunning then x
  else waiting { x with self := { x.self with processRunning := true } }

def startAttempt (c : SupervisorParams Error) (env : AttemptEnv)
    (waiting : Supervision → Supervision) (x : Supervision) : Supervision :=
  if x.self.stopRequested then x
  else
    let x := { x with self := { x.self with
      failureHandledForAttempt := false
      stdoutBuffer := []
      modelVersion := "" } }.emit .attempt
    let x := x.setState .starting
      (if x.self.restartAttempts = 0 then "AI 프로세스 시작 중" else "AI 프로세스 재시작 중")
    match env.pathError with
    | some pathError =>
      x.handleFailure c ("안전하지 않은 Python 실행 경로: " ++ pathError) waiting
    | none =>
      if !env.socketRemoved then x.handleFailure c "stale AI socket 제거 실패" waiting
      else
        { x with self := { x.self with
          startupTimer := some c.config.startupTimeoutMs } }.startProcess waiting

def start (c : SupervisorParams Error) (env : AttemptEnv) (waiting : Supervision → Supervision)
    (x : Supervision) : Supervision :=
  if x.self.stopRequested || x.self.state == .starting || x.self.state == .online ||
      x.self.state == .restartWait then x
  else if !c.config.enabled then x.setState .disabled "AI 비활성화 설정"
  else { x with self := { x.self with restartAttempts := 0 } }.emit .begin |>.startAttempt c env
    waiting

def stop (waiting : Supervision → Supervision) (x : Supervision) : Supervision :=
  if x.self.stopRequested then x
  else
    let x := { x with self := { x.self with stopRequested := true } }.emit .stop
    let x := x.setState .stopping "종료 중"
    { x with self := { x.self with
      startupTimer := none
      restartTimer := none
      stableTimer := none } }.stopProcess waiting

def reportTransportFailure (c : SupervisorParams Error) (reason : String)
    (waiting : Supervision → Supervision) (x : Supervision) : Supervision :=
  if x.self.state == .online then x.handleFailure c reason waiting else x

/-! ## Timers -/

def onStartupTimeout (c : SupervisorParams Error) (waiting : Supervision → Supervision)
    (x : Supervision) : Supervision :=
  if x.self.startupTimer.isNone then x
  else
    { x with self := { x.self with startupTimer := none } }.handleFailure c
      "AI 시작 제한시간 초과" waiting

def onRestartTimeout (c : SupervisorParams Error) (env : AttemptEnv)
    (waiting : Supervision → Supervision) (x : Supervision) : Supervision :=
  if x.self.restartTimer.isNone then x
  else
    { x with self := { x.self with
      restartTimer := none
      restartAttempts := x.self.restartAttempts + 1
      restartCount := x.self.restartCount + 1 } }.startAttempt c env waiting

def onStableTimeout (x : Supervision) : Supervision :=
  if x.self.stableTimer.isNone then x
  else { x with self := { x.self with stableTimer := none, restartAttempts := 0 } }.emit .stable

end Supervision

/-- What the Qt loop can deliver to the supervisor. A timer fires only while it is active. -/
inductive SupervisorEvent (Error : Type) where
  | start (env : AttemptEnv) (nested : List (ProcessSignal Error))
  | stop (nested : List (ProcessSignal Error))
  | reportTransportFailure (reason : String) (nested : List (ProcessSignal Error))
  | startupTimeout (nested : List (ProcessSignal Error))
  | restartTimeout (env : AttemptEnv) (nested : List (ProcessSignal Error))
  | stableTimeout
  | signal (signal : ProcessSignal Error)

namespace Supervision

def handle (c : SupervisorParams Error) : SupervisorEvent Error → Supervision → Supervision
  | .start env nested, x => x.start c env (deliverAll c nested)
  | .stop nested, x => x.stop (deliverAll c nested)
  | .reportTransportFailure reason nested, x =>
    x.reportTransportFailure c reason (deliverAll c nested)
  | .startupTimeout nested, x => x.onStartupTimeout c (deliverAll c nested)
  | .restartTimeout env nested, x => x.onRestartTimeout c env (deliverAll c nested)
  | .stableTimeout, x => x.onStableTimeout
  | .signal signal, x => deliver c signal x

/-- The supervisor and all its effects after a list of events. -/
def run (c : SupervisorParams Error) (events : List (SupervisorEvent Error)) : Supervision :=
  events.foldl (fun x event => x.handle c event) {}

/-! ## The rounds of `handle_stdout` -/

theorem takeLine?_none {buffer : List UInt8} (h : takeLine? buffer = none) :
    buffer.count 10 = 0 := by
  unfold takeLine? at h
  rw [List.span_eq_takeWhile_dropWhile] at h
  split at h
  · cases h
  · rename_i line heq
    have hnone := (Prod.mk.inj heq).2
    rw [List.dropWhile_eq_nil_iff] at hnone
    refine List.count_eq_zero.mpr fun hmem => ?_
    simpa using hnone 10 hmem

theorem takeLine?_eq_some {buffer line rest : List UInt8}
    (h : takeLine? buffer = some (line, rest)) : buffer = line ++ 10 :: rest ∧ 10 ∉ line := by
  unfold takeLine? at h
  rw [List.span_eq_takeWhile_dropWhile] at h
  split at h
  · rename_i line' newline rest' heq
    cases h
    obtain ⟨hline, hdrop⟩ := Prod.mk.inj heq
    have hnone : 10 ∉ line := by
      intro hmem
      rw [← hline] at hmem
      simpa using List.mem_takeWhile_imp hmem
    have hnewline : newline = 10 := by
      have hhead := List.head?_dropWhile_not (fun b : UInt8 => decide (b ≠ 10)) buffer
      rw [hdrop] at hhead
      simpa using hhead
    refine ⟨?_, hnone⟩
    rw [← List.takeWhile_append_dropWhile (p := fun b : UInt8 => decide (b ≠ 10)) (l := buffer),
      hline, hdrop, hnewline]
  · cases h

theorem takeLine?_some {buffer line rest : List UInt8} (h : takeLine? buffer = some (line, rest)) :
    buffer.count 10 = rest.count 10 + 1 := by
  obtain ⟨rfl, hnone⟩ := takeLine?_eq_some h
  rw [List.count_append, List.count_eq_zero.mpr hnone, List.count_cons_self, Nat.zero_add]

/-- No newline is left behind that was not there before. -/
def Drains (waiting : Supervision → Supervision) : Prop :=
  ∀ x : Supervision, (waiting x).self.stdoutBuffer.count 10 ≤ x.self.stdoutBuffer.count 10

section Drains

variable {c : SupervisorParams Error} {waiting : Supervision → Supervision}

theorem stopProcess_drains (hwaiting : Drains waiting) : Drains (stopProcess waiting) := by
  intro x
  unfold stopProcess
  split
  · exact Nat.le_refl _
  · exact hwaiting x

theorem handleFailure_drains (reason : String) (hwaiting : Drains waiting) :
    Drains (handleFailure c reason waiting) := by
  intro x
  have hstop := stopProcess_drains hwaiting
  unfold handleFailure
  split
  · exact Nat.le_refl _
  · dsimp only
    split <;> split <;> exact hstop _

theorem handleStdoutLine_drains (thrown : Option Error) (line : List UInt8)
    (hwaiting : Drains waiting) : Drains (handleStdoutLine c thrown waiting line) := by
  intro x
  unfold handleStdoutLine
  split
  · split
    · exact Nat.le_refl _
    · split
      · exact handleFailure_drains _ hwaiting _
      · exact Nat.le_refl _
  · exact Nat.le_refl _

/-- As many rounds as there are newlines take all lines. -/
theorem stdoutLoop_drained (thrown : Option Error) (hwaiting : Drains waiting) {rounds : Nat}
    {x : Supervision} (hrounds : x.self.stdoutBuffer.count 10 ≤ rounds) :
    (stdoutLoop c thrown waiting rounds x).self.stdoutBuffer.count 10 = 0 := by
  induction rounds generalizing x with
  | zero => exact Nat.le_zero.mp hrounds
  | succ rounds ih =>
    unfold stdoutLoop
    split
    · rename_i hnone
      exact takeLine?_none hnone
    · rename_i line rest hline
      have hcount := takeLine?_some hline
      refine ih (Nat.le_trans (handleStdoutLine_drains thrown _ hwaiting _) ?_)
      dsimp only
      omega

/-- **The loop of `handle_stdout` ends with no line left in the buffer.** -/
theorem handleStdout_drained (data : List UInt8) (thrown : Option Error)
    (hwaiting : Drains waiting) (x : Supervision) :
    (x.handleStdout c data thrown waiting).self.stdoutBuffer.count 10 = 0 :=
  stdoutLoop_drained thrown hwaiting (Nat.le_refl _)

end Drains

mutual

theorem deliver_drains (c : SupervisorParams Error) :
    ∀ signal : ProcessSignal Error, Drains (deliver c signal)
  | .readyReadStandardOutput data thrown nested, x => by
    unfold deliver
    split
    · exact Nat.le_refl _
    · rw [handleStdout_drained data thrown (deliverAll_drains c nested) x]
      exact Nat.zero_le _
  | .readyReadStandardError, x => Nat.le_refl _
  | .errorOccurred error errorString nested, x => by
    unfold deliver
    split
    · exact Nat.le_refl _
    · exact handleFailure_drains _ (deliverAll_drains c nested) _
  | .finished exitCode status data thrown, x => by
    have hid : Drains id := fun _ => Nat.le_refl _
    unfold deliver
    split
    · exact Nat.le_refl _
    · unfold onFinished
      dsimp only
      split
      · exact Nat.le_trans (handleFailure_drains _ hid _) (Nat.zero_le _)
      · exact Nat.zero_le _

theorem deliverAll_drains (c : SupervisorParams Error) :
    ∀ signals : List (ProcessSignal Error), Drains (deliverAll c signals)
  | [], _ => Nat.le_refl _
  | signal :: signals, x =>
    Nat.le_trans (deliverAll_drains c signals (deliver c signal x)) (deliver_drains c signal x)

end

end Supervision

end InlineIps
