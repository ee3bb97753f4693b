import InlineIps.App.SupervisorMoves
import InlineIps.Library.LineFraming

/-!
# The output of the child process

What the supervisor reads from the child, chunk by chunk and also while it waits for the end of the
process, and the lines that it makes of it.

* `outputAll`, `runOutput`: what is read, passed on as lines and flushed.
* `Framing`: the lines are those of what was in the buffer and of what is read.
-/

namespace InlineIps

open Library LineFraming

variable {Error : Type} {c : SupervisorParams Error}

/-- What is read from the child and what comes of it. -/
structure Output where
  read : List UInt8 := []
  /-- The lines for `handle_stdout_line`, with the version when the line is taken as ready. -/
  lines : List (List UInt8 × Option String) := []
  /-- What `flush_partial_output` finds. -/
  flushed : Option (List UInt8) := none
  deriving DecidableEq

namespace Output

def append (o p : Output) : Output :=
  ⟨o.read ++ p.read, o.lines ++ p.lines, o.flushed.or p.flushed⟩

/-- What was in the buffer before the flush. -/
def kept (o : Output) (x : Supervision) : List UInt8 := o.flushed.getD x.self.stdoutBuffer

@[simp] theorem append_empty (o : Output) : o.append {} = o := by simp [append]

end Output

/-! ## What the handlers read -/

namespace Supervision

/-- `handle_failure` up to the point where it stops the process. -/
def failing (c : SupervisorParams Error) (reason : String) (x : Supervision) : Supervision :=
  let y := { x with self := { x.self with
    failureHandledForAttempt := true
    startupTimer := none
    stableTimer := none
    modelVersion := "" } }.emit (.failure reason)
  if x.self.restartAttempts < c.config.maxRestarts then y.setState .restartWait reason
  else
    y.setState .offline
      (reason ++ " (자동 재시작 " ++ toString c.config.maxRestarts ++ "회 소진)")

theorem handleFailure_eq_failing (reason : String) (waiting : Supervision → Supervision)
    (x : Supervision) : x.handleFailure c reason waiting =
      if x.self.stopRequested || x.self.state == .stopping || x.self.failureHandledForAttempt then x
      else
        let y := (failing c reason x).stopProcess waiting
        if x.self.restartAttempts < c.config.maxRestarts ∧ y.self.stopRequested = false then
          { y with self := { y.self with
            restartTimer := some (restartDelayMs y.self.restartAttempts) } }.emit
              (.restartIn (restartDelayMs y.self.restartAttempts))
        else y := rfl

/-- `nested` is what is read while `waitForFinished` waits. -/
def stopOutput (nested : Supervision → Output) (x : Supervision) : Output :=
  if !x.self.processRunning then {} else nested x

def failureOutput (c : SupervisorParams Error) (reason : String) (nested : Supervision → Output)
    (x : Supervision) : Output :=
  if x.self.stopRequested || x.self.state == .stopping || x.self.failureHandledForAttempt then {}
  else (failing c reason x).stopOutput nested

/-- The version that `handle_stdout_line` takes from a line. -/
def recognised? (c : SupervisorParams Error) (line : List UInt8) (x : Supervision) :
    Option String :=
  if x.self.state == .starting then readyVersion? c line else none

def lineOutput (c : SupervisorParams Error) (thrown : Option Error)
    (nested : Supervision → Output) (line : List UInt8) (x : Supervision) : Output :=
  Output.append { lines := [(line, x.recognised? c line)] }
    (match x.recognised? c line, thrown with
    | some version, some error =>
      failureOutput c ("AI ready handler 오류: " ++ c.what error) nested
        ({ x with self := { x.self with
          startupTimer := none
          modelVersion := version } }.emit (.ready c.endpoint version))
    | _, _ => {})

def loopOutput (c : SupervisorParams Error) (thrown : Option Error)
    (waiting : Supervision → Supervision) (nested : Supervision → Output) :
    Nat → Supervision → Output
  | 0, _ => {}
  | rounds + 1, x =>
    match takeLine? x.self.stdoutBuffer with
    | none => {}
    | some (line, rest) =>
      let x := { x with self := { x.self with stdoutBuffer := rest } }
      (lineOutput c thrown nested (chopReturn line) x).append
        (loopOutput c thrown waiting nested rounds
          (x.handleStdoutLine c thrown waiting (chopReturn line)))

def stdoutOutput (c : SupervisorParams Error) (data : List UInt8) (thrown : Option Error)
    (waiting : Supervision → Supervision) (nested : Supervision → Output) (x : Supervision) :
    Output :=
  let buffer := x.self.stdoutBuffer ++ data
  Output.append { read := data }
    (loopOutput c thrown waiting nested (buffer.count 10)
      { x with self := { x.self with stdoutBuffer := buffer } })

/-- The process has ended, so the failure that follows the flush does not wait. -/
def finishedOutput (c : SupervisorParams Error) (data : List UInt8) (thrown : Option Error)
    (x : Supervision) : Output :=
  (x.stdoutOutput c data thrown id fun _ => {}).append
    { flushed := some (x.handleStdout c data thrown id).self.stdoutBuffer }

mutual

/-- What `deliver` reads. -/
def output (c : SupervisorParams Error) : ProcessSignal Error → Supervision → Output
  | .readyReadStandardOutput data thrown nested, x =>
    if !x.self.processRunning then {}
    else x.stdoutOutput c data thrown (deliverAll c nested) (outputAll c nested)
  | .readyReadStandardError, _ => {}
  | .errorOccurred error errorString nested, x =>
    if !x.self.processRunning then {}
    else
      failureOutput c
        ("QProcess 오류 code=" ++ toString error.code ++ " message=" ++ errorString)
        (outputAll c nested)
        { x with self := { x.self with processRunning := error != ProcessError.failedToStart } }
  | .finished _ _ data thrown, x =>
    if !x.self.processRunning then {}
    else { x with self := { x.self with processRunning := false } }.finishedOutput c data thrown

def outputAll (c : SupervisorParams Error) :
    List (ProcessSignal Error) → Supervision → Output
  | [], _ => {}
  | signal :: signals, x => (output c signal x).append (outputAll c signals (deliver c signal x))

end

/-- A fresh attempt in `start_attempt`. -/
def attempting (x : Supervision) : Supervision :=
  ({ x with self := { x.self with
    failureHandledForAttempt := false
    stdoutBuffer := []
    modelVersion := "" } }.emit .attempt).setState .starting
      (if x.self.restartAttempts = 0 then "AI 프로세스 시작 중" else "AI 프로세스 재시작 중")

/-- What an attempt reads at its start. Without an attempt, the output of the last one stays. -/
def attemptOutput (c : SupervisorParams Error) (env : AttemptEnv) (nested : Supervision → Output)
    (x : Supervision) (o : Output) : Output :=
  if x.self.stopRequested then o
  else
    match env.pathError with
    | some pathError =>
      failureOutput c ("안전하지 않은 Python 실행 경로: " ++ pathError) nested x.attempting
    | none =>
      if !env.socketRemoved then failureOutput c "stale AI socket 제거 실패" nested x.attempting
      else if x.self.processRunning then {}
      else
        nested { x.attempting with self := { x.attempting.self with
          startupTimer := some c.config.startupTimeoutMs
          processRunning := true } }

/-- The output of the attempt behind an event, given the output `o` before it. -/
def eventOutput (c : SupervisorParams Error) :
    SupervisorEvent Error → Supervision → Output → Output
  | .start env nested, x, o =>
    if x.self.stopRequested || x.self.state == .starting || x.self.state == .online ||
        x.self.state == .restartWait then o
    else if !c.config.enabled then o
    else
      attemptOutput c env (outputAll c nested)
        ({ x with self := { x.self with restartAttempts := 0 } }.emit .begin) o
  | .stop nested, x, o =>
    if x.self.stopRequested then o
    else
      let x := { x with self := { x.self with stopRequested := true } }.emit .stop
      let x := x.setState .stopping "종료 중"
      o.append ({ x with self := { x.self with
        startupTimer := none
        restartTimer := none
        stableTimer := none } }.stopOutput (outputAll c nested))
  | .reportTransportFailure reason nested, x, o =>
    if x.self.state == .online then o.append (failureOutput c reason (outputAll c nested) x) else o
  | .startupTimeout nested, x, o =>
    if x.self.startupTimer.isNone then o
    else
      o.append (failureOutput c "AI 시작 제한시간 초과" (outputAll c nested)
        { x with self := { x.self with startupTimer := none } })
  | .restartTimeout env nested, x, o =>
    if x.self.restartTimer.isNone then o
    else
      attemptOutput c env (outputAll c nested) { x with self := { x.self with
        restartTimer := none
        restartAttempts := x.self.restartAttempts + 1
        restartCount := x.self.restartCount + 1 } } o
  | .stableTimeout, _, o => o
  | .signal signal, x, o => o.append (output c signal x)

/-- The output of the present attempt. -/
def runOutput (c : SupervisorParams Error) (events : List (SupervisorEvent Error)) : Output :=
  (events.foldl (fun (x, o) event => (handle c event x, eventOutput c event x o))
    (({} : Supervision), ({} : Output))).2

theorem runOutput_snoc (c : SupervisorParams Error) (events : List (SupervisorEvent Error))
    (event : SupervisorEvent Error) : runOutput c (events ++ [event]) =
      eventOutput c event (run c events) (runOutput c events) := by
  have hfst : (events.foldl (fun (x, o) event => (handle c event x, eventOutput c event x o))
      (({} : Supervision), ({} : Output))).1 = run c events := by
    unfold run
    exact (List.foldl_hom Prod.fst fun _ _ => rfl).symm
  unfold runOutput
  rw [List.foldl_append, List.foldl_cons, List.foldl_nil, ← hfst]

/-! ## Framing -/

/-- The versions that the ready handler is called with. -/
def readyCalls (effects : List SupervisorEffect) : List String :=
  effects.filterMap fun
    | .ready _ version => some version
    | _ => none

/-- What `x` has in its buffer and what is read on the way to `y` are the lines and what is left
over. -/
structure Framing (x : Supervision) (o : Output) (y : Supervision) : Prop where
  passed : (lines 10 (x.self.stdoutBuffer ++ o.read)).map chopReturn =
    o.lines.map Prod.fst ++ (lines 10 (o.kept y)).map chopReturn
  held : rest 10 (x.self.stdoutBuffer ++ o.read) = rest 10 (o.kept y)
  flushed : ∀ part, o.flushed = some part →
    y.self.processRunning = false ∧ y.self.stdoutBuffer = [] ∧ 10 ∉ part
  stopped : x.self.processRunning = false → y.self.processRunning = false
  calls : readyCalls y.effects = readyCalls x.effects ++ o.lines.filterMap Prod.snd

/-- What framing sees of the supervisor is the same. -/
structure Alike (x y : Supervision) : Prop where
  buffer : y.self.stdoutBuffer = x.self.stdoutBuffer
  running : y.self.processRunning = x.self.processRunning
  calls : readyCalls y.effects = readyCalls x.effects

section Framing

variable {x x' y y' z : Supervision} {o p : Output}

theorem Alike.framing (h : Alike x y) : Framing x {} y where
  passed := by simp [Output.kept, h.buffer]
  held := by simp [Output.kept, h.buffer]
  flushed := nofun
  stopped := fun hstopped => h.running.trans hstopped
  calls := by simp [h.calls]

theorem Framing.refl (x : Supervision) : Framing x {} x := Alike.framing ⟨rfl, rfl, rfl⟩

/-- Nothing is read behind a flush. -/
theorem Framing.append (h : Framing x o y) (h' : Framing y p z)
    (hflushed : o.flushed.isSome = true →
      p.read = [] ∧ p.lines = [] ∧ z.self.stdoutBuffer = []) :
    Framing x (o.append p) z := by
  cases hpart : o.flushed with
  | some part =>
    obtain ⟨hread, hlines, hbuffer⟩ := hflushed (by rw [hpart]; rfl)
    obtain ⟨hrunning, -, hdrained⟩ := h.flushed part hpart
    have hkept : (o.append p).kept z = o.kept y := by simp [Output.kept, Output.append, hpart]
    refine ⟨?_, ?_, fun part' hpart' => ?_, fun hstopped => h'.stopped (h.stopped hstopped), ?_⟩
    · rw [hkept]
      simpa [Output.append, hread, hlines] using h.passed
    · rw [hkept]
      simpa [Output.append, hread] using h.held
    · simp only [Output.append, hpart, Option.some_or, Option.some.injEq] at hpart'
      exact ⟨h'.stopped hrunning, hbuffer, hpart' ▸ hdrained⟩
    · rw [h'.calls, h.calls]
      simp [Output.append, hlines]
  | none =>
    have hkept : o.kept y = y.self.stdoutBuffer := by simp [Output.kept, hpart]
    have hkept' : (o.append p).kept z = p.kept z := by simp [Output.kept, Output.append, hpart]
    have hlines := h.passed
    have hrest := h.held
    rw [hkept] at hlines hrest
    refine ⟨?_, ?_, fun part' hpart' => h'.flushed part' ?_,
      fun hstopped => h'.stopped (h.stopped hstopped), ?_⟩
    · calc (lines 10 (x.self.stdoutBuffer ++ (o.read ++ p.read))).map chopReturn
          = (lines 10 (x.self.stdoutBuffer ++ o.read)).map chopReturn ++
              (lines 10 (rest 10 y.self.stdoutBuffer ++ p.read)).map chopReturn := by
            rw [← List.append_assoc, lines_append, List.map_append, hrest]
        _ = o.lines.map Prod.fst ++ (lines 10 (y.self.stdoutBuffer ++ p.read)).map chopReturn := by
            rw [hlines, lines_append y.self.stdoutBuffer, List.map_append, List.append_assoc]
        _ = (o.append p).lines.map Prod.fst ++
              (lines 10 ((o.append p).kept z)).map chopReturn := by
            rw [h'.passed, hkept', Output.append, List.map_append, List.append_assoc]
    · calc rest 10 (x.self.stdoutBuffer ++ (o.read ++ p.read))
          = rest 10 (rest 10 y.self.stdoutBuffer ++ p.read) := by
            rw [← List.append_assoc, rest_append, hrest]
        _ = rest 10 ((o.append p).kept z) := by rw [← rest_append, h'.held, hkept']
    · simpa [Output.append, hpart] using hpart'
    · rw [h'.calls, h.calls]
      simp [Output.append]

theorem Framing.append_of_none (h : Framing x o y) (h' : Framing y p z) (hnone : o.flushed = none) :
    Framing x (o.append p) z := h.append h' (by simp [hnone])

/-- Steps before and behind that framing does not see. -/
theorem Framing.congr (h : Framing x o y) (hx : Alike x' x) (hy : Alike y y') :
    Framing x' o y' := by
  have hkept : o.kept y' = o.kept y := by rw [Output.kept, Output.kept, hy.buffer]
  refine ⟨?_, ?_, fun part hpart => ?_, fun hstopped => ?_, ?_⟩
  · rw [hkept, ← hx.buffer, h.passed]
  · rw [hkept, ← hx.buffer, h.held]
  · rw [hy.running, hy.buffer]
    exact h.flushed part hpart
  · rw [hy.running]
    exact h.stopped (hx.running.trans hstopped)
  · rw [hy.calls, h.calls, hx.calls]

/-- The signal of a process that ran may say that it no longer runs. -/
theorem Framing.of_running {running : Bool}
    (h : Framing (x.idle running x.self.stdoutBuffer) o y)
    (hrunning : ¬ (!x.self.processRunning) = true) : Framing x o y where
  passed := h.passed
  held := h.held
  flushed := h.flushed
  stopped := fun hstopped => by simp [hstopped] at hrunning
  calls := h.calls

end Framing

/-! ## The handlers frame -/

/-- `nested` is what `waiting` reads. -/
def Reads (waiting : Supervision → Supervision) (nested : Supervision → Output) : Prop :=
  ∀ x, Framing x (nested x) (waiting x)

section Handlers

variable {x : Supervision} {waiting : Supervision → Supervision} {nested : Supervision → Output}

theorem reads_id : Reads id fun _ => {} := Framing.refl

theorem stopProcess_reads (h : Reads waiting nested) :
    Reads (stopProcess waiting) (stopOutput nested) := by
  intro x
  unfold stopProcess stopOutput
  split
  · exact .refl x
  · exact h x

theorem failing_alike (reason : String) (x : Supervision) : Alike x (failing c reason x) := by
  unfold failing
  dsimp only
  split <;> exact ⟨rfl, rfl, by simp [readyCalls, emit, setState]⟩

theorem handleFailure_reads (reason : String) (h : Reads waiting nested) :
    Reads (handleFailure c reason waiting) (failureOutput c reason nested) := by
  intro x
  have hstop := stopProcess_reads h (failing c reason x)
  rw [handleFailure_eq_failing]
  unfold failureOutput
  split
  · exact .refl x
  · dsimp only
    split
    · exact hstop.congr (failing_alike reason x) ⟨rfl, rfl, by simp [readyCalls, emit]⟩
    · exact hstop.congr (failing_alike reason x) ⟨rfl, rfl, rfl⟩

/-- A failure that does not wait reads nothing. -/
theorem handleFailure_alike (reason : String) (x : Supervision) :
    Alike x (x.handleFailure c reason id) := by
  have hstop : (failing c reason x).stopProcess id = failing c reason x := by
    unfold stopProcess
    split <;> rfl
  have hfailing : Alike x (failing c reason x) := failing_alike reason x
  rw [handleFailure_eq_failing, hstop]
  dsimp only
  split
  · exact ⟨rfl, rfl, rfl⟩
  · split
    · exact ⟨hfailing.buffer, hfailing.running, by simpa [readyCalls, emit] using hfailing.calls⟩
    · exact hfailing

/-- The first line of the buffer is passed on. -/
theorem takeLine_framing {line rest : List UInt8} {version : Option String} {y : Supervision}
    (hline : takeLine? x.self.stdoutBuffer = some (line, rest))
    (hbuffer : y.self.stdoutBuffer = rest)
    (hrunning : y.self.processRunning = x.self.processRunning)
    (hcalls : readyCalls y.effects = readyCalls x.effects ++ version.toList) :
    Framing x { lines := [(chopReturn line, version)] } y := by
  obtain ⟨hcut, hnone⟩ := takeLine?_eq_some hline
  refine ⟨?_, ?_, nofun, fun hstopped => hrunning.trans hstopped, ?_⟩
  · simp [Output.kept, hcut, hbuffer, lines_cons hnone]
  · simp [Output.kept, hcut, hbuffer, rest_append_sep]
  · rw [hcalls]
    cases version <;> rfl

theorem handleStdoutLine_framing (thrown : Option Error) (h : Reads waiting nested)
    {line rest : List UInt8} (hline : takeLine? x.self.stdoutBuffer = some (line, rest)) :
    Framing x
      (lineOutput c thrown nested (chopReturn line) (x.idle x.self.processRunning rest))
      ((x.idle x.self.processRunning rest).handleStdoutLine c thrown waiting
        (chopReturn line)) := by
  have hplain : Framing x (Output.append { lines := [(chopReturn line, none)] } {})
      (x.idle x.self.processRunning rest) := by
    rw [Output.append_empty]
    exact takeLine_framing hline rfl rfl (by simp [idle])
  unfold handleStdoutLine lineOutput recognised?
  split
  · cases hversion : readyVersion? c (chopReturn line) with
    | none => exact hplain
    | some version =>
      cases thrown with
      | none =>
        rw [Output.append_empty]
        exact takeLine_framing hline rfl rfl (by simp [readyCalls, emit, setState, idle])
      | some error =>
        have hcalled : Framing x { lines := [(chopReturn line, some version)] }
            ({ x.idle x.self.processRunning rest with
              self := { (x.idle x.self.processRunning rest).self with
                startupTimer := none
                modelVersion := version } }.emit (.ready c.endpoint version)) :=
          takeLine_framing hline rfl rfl (by simp [readyCalls, emit, idle])
        exact hcalled.append_of_none (handleFailure_reads _ h _) rfl
  · exact hplain

theorem stdoutLoop_empty (c : SupervisorParams Error) (waiting : Supervision → Supervision)
    (nested : Supervision → Output) (thrown : Option Error) (rounds : Nat)
    (h : x.self.stdoutBuffer = []) :
    loopOutput c thrown waiting nested rounds x = {} ∧
      stdoutLoop c thrown waiting rounds x = x := by
  cases rounds with
  | zero => exact ⟨rfl, rfl⟩
  | succ rounds =>
    have hnone : takeLine? x.self.stdoutBuffer = none := by
      rw [h]
      rfl
    unfold loopOutput stdoutLoop
    rw [hnone]
    exact ⟨rfl, rfl⟩

theorem stdoutLoop_reads (thrown : Option Error) (h : Reads waiting nested) (rounds : Nat) :
    Reads (stdoutLoop c thrown waiting rounds) (loopOutput c thrown waiting nested rounds) := by
  induction rounds with
  | zero => exact .refl
  | succ rounds ih =>
    intro x
    unfold loopOutput stdoutLoop
    cases hline : takeLine? x.self.stdoutBuffer with
    | none => exact .refl x
    | some taken =>
      obtain ⟨line, rest⟩ := taken
      have hfirst := handleStdoutLine_framing (c := c) thrown h hline
      refine hfirst.append (ih _) fun hflushed => ?_
      -- a flush inside the handler of the line leaves nothing for the loop
      obtain ⟨part, hpart⟩ := Option.isSome_iff_exists.mp hflushed
      obtain ⟨-, hempty, -⟩ := hfirst.flushed part hpart
      obtain ⟨hnothing, hsame⟩ := stdoutLoop_empty c waiting nested thrown rounds hempty
      exact ⟨congrArg Output.read hnothing, congrArg Output.lines hnothing,
        (congrArg (fun y => y.self.stdoutBuffer) hsame).trans hempty⟩

theorem read_framing (data : List UInt8) (x : Supervision) : Framing x { read := data }
    (x.idle x.self.processRunning (x.self.stdoutBuffer ++ data)) where
  passed := by simp [Output.kept, idle]
  held := by simp [Output.kept, idle]
  flushed := nofun
  stopped := id
  calls := by simp [idle]

theorem handleStdout_reads (data : List UInt8) (thrown : Option Error) (h : Reads waiting nested) :
    Reads (handleStdout c data thrown waiting) (stdoutOutput c data thrown waiting nested) := by
  intro x
  exact (read_framing data x).append_of_none (stdoutLoop_reads thrown h _ _) rfl

theorem onFinished_framing (exitCode status : Int) (data : List UInt8) (thrown : Option Error)
    (hstopped : x.self.processRunning = false) :
    Framing x (x.finishedOutput c data thrown) (x.onFinished c exitCode status data thrown) := by
  have hread := handleStdout_reads (c := c) data thrown reads_id x
  have hid : Drains id := fun _ => Nat.le_refl _
  have hdrained := handleStdout_drained (c := c) data thrown hid x
  have hflush : Framing (x.handleStdout c data thrown id)
      { flushed := some (x.handleStdout c data thrown id).self.stdoutBuffer }
      (x.handleStdout c data thrown id).flushPartialOutput := by
    refine ⟨by simp [Output.kept], by simp [Output.kept], fun part hpart => ?_, id, by
      simp [flushPartialOutput]⟩
    cases hpart
    exact ⟨hread.stopped hstopped, rfl, List.count_eq_zero.mp hdrained⟩
  have hflushed : Framing x (x.finishedOutput c data thrown)
      (x.handleStdout c data thrown id).flushPartialOutput :=
    hread.append hflush fun _ => ⟨rfl, rfl, rfl⟩
  unfold onFinished
  dsimp only
  split
  · exact hflushed.congr ⟨rfl, rfl, rfl⟩ (handleFailure_alike _ _)
  · exact hflushed

/-! ### Signals -/

theorem deliver_stopped (signal : ProcessSignal Error) (h : x.self.processRunning = false) :
    output c signal x = {} ∧ deliver c signal x = x := by
  have hstopped : (!x.self.processRunning) = true := by rw [h]; rfl
  cases signal with
  | readyReadStandardError => exact ⟨rfl, rfl⟩
  | _ =>
    unfold output deliver
    exact ⟨if_pos hstopped, if_pos hstopped⟩

theorem deliverAll_stopped (signals : List (ProcessSignal Error))
    (h : x.self.processRunning = false) :
    outputAll c signals x = {} ∧ deliverAll c signals x = x := by
  induction signals with
  | nil => exact ⟨rfl, rfl⟩
  | cons signal signals ih =>
    obtain ⟨hnothing, hsame⟩ := deliver_stopped (c := c) signal h
    unfold outputAll deliverAll
    rw [hnothing, hsame, ih.1, ih.2]
    exact ⟨rfl, rfl⟩

end Handlers

mutual

theorem deliver_reads (c : SupervisorParams Error) :
    ∀ signal : ProcessSignal Error, Reads (deliver c signal) (output c signal)
  | .readyReadStandardOutput data thrown nested, x => by
    unfold deliver output
    split
    · exact .refl x
    · exact handleStdout_reads data thrown (deliverAll_reads c nested) x
  | .readyReadStandardError, x => .refl x
  | .errorOccurred error errorString nested, x => by
    unfold deliver output
    split
    · exact .refl x
    · rename_i hrunning
      exact (handleFailure_reads _ (deliverAll_reads c nested) _).of_running hrunning
  | .finished exitCode status data thrown, x => by
    unfold deliver output
    split
    · exact .refl x
    · rename_i hrunning
      exact (onFinished_framing exitCode status data thrown rfl).of_running hrunning

theorem deliverAll_reads (c : SupervisorParams Error) :
    ∀ signals : List (ProcessSignal Error), Reads (deliverAll c signals) (outputAll c signals)
  | [], x => .refl x
  | signal :: signals, x => by
    have hfirst := deliver_reads c signal x
    unfold deliverAll outputAll
    refine hfirst.append (deliverAll_reads c signals _) fun hflushed => ?_
    -- behind a flush the process is gone, and its signals with it
    obtain ⟨part, hpart⟩ := Option.isSome_iff_exists.mp hflushed
    obtain ⟨hrunning, hempty, -⟩ := hfirst.flushed part hpart
    obtain ⟨hnothing, hsame⟩ := deliverAll_stopped (c := c) signals hrunning
    rw [hnothing, hsame]
    exact ⟨rfl, rfl, hempty⟩

end

/-! ## Runs -/

/-- What is read since the attempt began is framed, and no line waits in the buffer. -/
structure Framed (x : Supervision) (o : Output) : Prop where
  framing : ∃ x₀ : Supervision, x₀.self.stdoutBuffer = [] ∧ Framing x₀ o x
  drained : x.self.stdoutBuffer.count 10 = 0

/-- What is read goes on. Without a process there is nothing to read. -/
structure ReadsOn (x : Supervision) (o : Output) (y : Supervision) : Prop where
  framing : Framing x o y
  stopped : x.self.processRunning = false → o = {} ∧ y.self.stdoutBuffer = x.self.stdoutBuffer
  drained : y.self.stdoutBuffer.count 10 ≤ x.self.stdoutBuffer.count 10

section Runs

variable {x y : Supervision} {o p : Output}

theorem Framed.append (h : Framed x o) (h' : ReadsOn x p y) : Framed y (o.append p) := by
  obtain ⟨x₀, hempty, hframing⟩ := h.framing
  refine ⟨⟨x₀, hempty, hframing.append h'.framing fun hflushed => ?_⟩, ?_⟩
  · obtain ⟨part, hpart⟩ := Option.isSome_iff_exists.mp hflushed
    obtain ⟨hrunning, hbuffer, -⟩ := hframing.flushed part hpart
    obtain ⟨rfl, hsame⟩ := h'.stopped hrunning
    exact ⟨rfl, rfl, hsame.trans hbuffer⟩
  · have hdrained := h'.drained
    rw [h.drained] at hdrained
    exact Nat.le_zero.mp hdrained

theorem Framed.alike (h : Framed x o) (hy : Alike x y) : Framed y o := by
  obtain ⟨x₀, hempty, hframing⟩ := h.framing
  refine ⟨⟨x₀, hempty, hframing.congr ⟨rfl, rfl, rfl⟩ hy⟩, ?_⟩
  rw [hy.buffer]
  exact h.drained

theorem ReadsOn.alike {x' : Supervision} (h : ReadsOn x o y) (hx : Alike x' x) :
    ReadsOn x' o y where
  framing := h.framing.congr hx ⟨rfl, rfl, rfl⟩
  stopped := fun hstopped => by
    obtain ⟨hnothing, hsame⟩ := h.stopped (hx.running.trans hstopped)
    exact ⟨hnothing, hsame.trans hx.buffer⟩
  drained := hx.buffer ▸ h.drained

theorem stopProcess_readsOn (nested : List (ProcessSignal Error)) (x : Supervision) :
    ReadsOn x (x.stopOutput (outputAll c nested)) (x.stopProcess (deliverAll c nested)) where
  framing := stopProcess_reads (deliverAll_reads c nested) x
  stopped := fun hstopped => by simp [stopOutput, stopProcess, hstopped]
  drained := stopProcess_drains (deliverAll_drains c nested) x

theorem handleFailure_readsOn (reason : String) (nested : List (ProcessSignal Error))
    (x : Supervision) : ReadsOn x (x.failureOutput c reason (outputAll c nested))
      (x.handleFailure c reason (deliverAll c nested)) where
  framing := handleFailure_reads reason (deliverAll_reads c nested) x
  stopped := fun hstopped => by
    have hfailing : Alike x (failing c reason x) := failing_alike reason x
    obtain ⟨hnothing, hsame⟩ := (stopProcess_readsOn (c := c) nested (failing c reason x)).stopped
      (hfailing.running.trans hstopped)
    rw [handleFailure_eq_failing, failureOutput, hnothing]
    dsimp only
    split
    · exact ⟨rfl, rfl⟩
    · refine ⟨rfl, ?_⟩
      split <;> exact hsame.trans hfailing.buffer
  drained := handleFailure_drains reason (deliverAll_drains c nested) x

theorem deliver_readsOn (signal : ProcessSignal Error) (x : Supervision) :
    ReadsOn x (output c signal x) (deliver c signal x) where
  framing := deliver_reads c signal x
  stopped := fun hstopped => by
    obtain ⟨hnothing, hsame⟩ := deliver_stopped (c := c) signal hstopped
    exact ⟨hnothing, by rw [hsame]⟩
  drained := deliver_drains c signal x

/-- An attempt begins with an empty buffer. -/
theorem Framed.of_empty (hempty : x.self.stdoutBuffer = []) (hframing : Framing x o y)
    (hdrained : y.self.stdoutBuffer.count 10 ≤ x.self.stdoutBuffer.count 10) : Framed y o := by
  rw [hempty] at hdrained
  exact ⟨⟨x, hempty, hframing⟩, Nat.le_zero.mp hdrained⟩

theorem attempting_framed (h : ReadsOn x.attempting o y) : Framed y o :=
  .of_empty rfl h.framing h.drained

theorem startProcess_framed (nested : List (ProcessSignal Error))
    (hempty : x.self.stdoutBuffer = []) : Framed (x.startProcess (deliverAll c nested))
      (if x.self.processRunning then {}
      else outputAll c nested { x with self := { x.self with processRunning := true } }) := by
  unfold startProcess
  split
  · exact .of_empty hempty (.refl x) (Nat.le_refl _)
  · exact .of_empty (x := { x with self := { x.self with processRunning := true } }) hempty
      (deliverAll_reads c nested _) (deliverAll_drains c nested _)

theorem startAttempt_framed (env : AttemptEnv) (nested : List (ProcessSignal Error))
    (h : Framed x o) : Framed (x.startAttempt c env (deliverAll c nested))
      (attemptOutput c env (outputAll c nested) x o) := by
  unfold startAttempt attemptOutput
  split
  · exact h
  · dsimp only
    cases env.pathError with
    | some pathError => exact attempting_framed (handleFailure_readsOn _ nested _)
    | none =>
      dsimp only
      split
      · exact attempting_framed (handleFailure_readsOn _ nested _)
      · exact startProcess_framed (x := { x.attempting with self := { x.attempting.self with
          startupTimer := some c.config.startupTimeoutMs } }) nested rfl

theorem handle_framed (event : SupervisorEvent Error) (h : Framed x o) :
    Framed (x.handle c event) (eventOutput c event x o) := by
  cases event with
  | start env nested =>
    have hbegin : Alike x ({ x with self := { x.self with restartAttempts := 0 } }.emit .begin) :=
      ⟨rfl, rfl, by simp [readyCalls, emit]⟩
    simp only [handle, start, eventOutput]
    split
    · exact h
    · split
      · exact h.alike ⟨rfl, rfl, by simp [readyCalls, emit, setState]⟩
      · exact startAttempt_framed env nested (h.alike hbegin)
  | stop nested =>
    simp only [handle, stop, eventOutput]
    split
    · exact h
    · exact h.append ((stopProcess_readsOn nested _).alike
        ⟨rfl, rfl, by simp [readyCalls, emit, setState]⟩)
  | reportTransportFailure reason nested =>
    simp only [handle, reportTransportFailure, eventOutput]
    split
    · exact h.append (handleFailure_readsOn reason nested x)
    · exact h
  | startupTimeout nested =>
    simp only [handle, onStartupTimeout, eventOutput]
    split
    · exact h
    · exact h.append ((handleFailure_readsOn _ nested _).alike ⟨rfl, rfl, rfl⟩)
  | restartTimeout env nested =>
    simp only [handle, onRestartTimeout, eventOutput]
    split
    · exact h
    · exact startAttempt_framed env nested (h.alike ⟨rfl, rfl, rfl⟩)
  | stableTimeout =>
    simp only [handle, onStableTimeout, eventOutput]
    split
    · exact h
    · exact h.alike ⟨rfl, rfl, by simp [readyCalls, emit]⟩
  | signal signal => exact h.append (deliver_readsOn signal x)

theorem run_framed (c : SupervisorParams Error) (events : List (SupervisorEvent Error)) :
    Framed (run c events) (runOutput c events) := by
  induction events using List.reverseRecOn with
  | nil => exact ⟨⟨{}, rfl, .refl {}⟩, rfl⟩
  | append_singleton events event ih =>
    rw [run_snoc, runOutput_snoc]
    exact handle_framed event ih

end Runs

end Supervision

end InlineIps
