import InlineIps.App.AiProcessSupervisor
import InlineIps.Library.Machine
import Mathlib.Logic.Relation

/-!
# What the supervisor can do

* `SupervisorMove`: the moves of the supervisor. Every handler is a sequence of them.
* `Settled`: the state between two events. The timers match the state.
* `handle_moves`: from a settled state, a handler makes moves.
-/

namespace InlineIps

open Library Machine

variable {Error : Type} {c : SupervisorParams Error} {asked : Prop} {s s' : AiProcessSupervisor}

namespace AiProcessSupervisor

/-- A fresh attempt, whose startup timer runs. -/
def attempted (c : SupervisorParams Error) (s : AiProcessSupervisor) (running : Bool) :
    AiProcessSupervisor :=
  { s with
    failureHandledForAttempt := false
    stdoutBuffer := []
    modelVersion := ""
    state := .starting
    detail := if s.restartAttempts = 0 then "AI 프로세스 시작 중" else "AI 프로세스 재시작 중"
    startupTimer := some c.config.startupTimeoutMs
    processRunning := running }

/-- The attempt failed. -/
def failed (s : AiProcessSupervisor) (state : AiState) (detail : String) (running : Bool)
    (buffer : List UInt8) : AiProcessSupervisor :=
  { s with
    failureHandledForAttempt := true
    startupTimer := none
    stableTimer := none
    modelVersion := ""
    state, detail
    processRunning := running
    stdoutBuffer := buffer }

end AiProcessSupervisor

/-- The moves of the supervisor, with their effects. It stops only when it is `asked` to. -/
inductive SupervisorMove (c : SupervisorParams Error) (asked : Prop) (s : AiProcessSupervisor) :
    AiProcessSupervisor → List SupervisorEffect → Prop
  /-- The process ends or writes. -/
  | pass (running buffer) (hrunning : running = true → s.processRunning = true) :
      SupervisorMove c asked s { s with processRunning := running, stdoutBuffer := buffer } []
  | disable (detail) (hstop : s.stopRequested = false) (hdisabled : c.config.enabled = false) :
      SupervisorMove c asked s { s with state := .disabled, detail } [.stateChanged .disabled detail]
  | begin (running) (hstop : s.stopRequested = false)
      (hidle : s.state = .disabled ∨ s.state = .offline) (henabled : c.config.enabled = true) :
      SupervisorMove c asked s ({ s with restartAttempts := 0 }.attempted c running)
        [.begin, .attempt, .stateChanged .starting "AI 프로세스 시작 중"]
  | retry (running detail) (hstate : s.state = .restartWait) (hstop : s.stopRequested = false) :
      SupervisorMove c asked s
        ({ s with
          restartTimer := none
          restartAttempts := s.restartAttempts + 1
          restartCount := s.restartCount + 1 }.attempted c running)
        [.attempt, .stateChanged .starting detail]
  /-- The ready handler throws. -/
  | call (version) (error : Error) (hstate : s.state = .starting) :
      SupervisorMove c asked s s [.ready c.endpoint version]
  | online (version detail) (hstate : s.state = .starting) (hversion : version ≠ "") :
      SupervisorMove c asked s
        { s with
          startupTimer := none
          modelVersion := version
          state := .online
          detail
          stableTimer := some (c.config.restartResetSeconds * 1000) }
        [.ready c.endpoint version, .stateChanged .online detail]
  | retryLater (reason running buffer) (hstate : s.state = .starting ∨ s.state = .online)
      (hbudget : s.restartAttempts < c.config.maxRestarts) :
      SupervisorMove c asked s
        { s.failed .restartWait reason running buffer with
          restartTimer := some (restartDelayMs s.restartAttempts) }
        [.failure reason, .stateChanged .restartWait reason,
          .restartIn (restartDelayMs s.restartAttempts)]
  | giveUp (reason detail running buffer) (hstate : s.state = .starting ∨ s.state = .online)
      (hbudget : ¬ s.restartAttempts < c.config.maxRestarts) :
      SupervisorMove c asked s (s.failed .offline detail running buffer)
        [.failure reason, .stateChanged .offline detail]
  | stable (hstate : s.state = .online) :
      SupervisorMove c asked s { s with stableTimer := none, restartAttempts := 0 } [.stable]
  | stop (running buffer detail) (hasked : asked) (hstop : s.stopRequested = false) :
      SupervisorMove c asked s
        { s with
          stopRequested := true
          state := .stopping
          detail
          startupTimer := none
          restartTimer := none
          stableTimer := none
          processRunning := running
          stdoutBuffer := buffer }
        [.stop, .stateChanged .stopping detail]

/-- The state between two events. -/
structure Settled (c : SupervisorParams Error) (s : AiProcessSupervisor) : Prop where
  startup : s.startupTimer.isSome = true ↔ s.state = .starting
  restart : s.restartTimer.isSome = true ↔ s.state = .restartWait
  stable : s.stableTimer.isSome = true → s.state = .online
  online : s.state = .online → s.modelVersion ≠ ""
  budget : s.restartAttempts ≤ c.config.maxRestarts
  waiting : s.state = .restartWait → s.restartAttempts < c.config.maxRestarts
  offline : s.state = .offline → s.restartAttempts = c.config.maxRestarts
  stopping : s.state = .stopping ↔ s.stopRequested = true
  handled : s.failureHandledForAttempt = true →
    s.state = .restartWait ∨ s.state = .offline ∨ s.state = .stopping
  failed : s.state = .restartWait ∨ s.state = .offline → s.failureHandledForAttempt = true
  disabled : s.state = .disabled → s.failureHandledForAttempt = false ∧ s.processRunning = false
  enabled : c.config.enabled = false → s.state = .disabled ∨ s.state = .stopping

theorem initial_settled (c : SupervisorParams Error) : Settled c {} := by
  constructor <;> simp

/-- A settled supervisor that is not stopped is not in `STOPPING`. -/
theorem Settled.not_stopping (h : Settled c s) (hstop : s.stopRequested = false) :
    s.state ≠ .stopping := fun hstopping => by
  rw [h.stopping.mp hstopping] at hstop
  cases hstop

theorem Settled.running (h : Settled c s) (hstate : s.state = .starting ∨ s.state = .online) :
    s.stopRequested = false ∧ c.config.enabled = true ∧ s.restartTimer = none ∧
      s.failureHandledForAttempt = false := by
  refine ⟨?_, ?_, ?_, ?_⟩
  · refine Bool.eq_false_of_not_eq_true fun hstop => ?_
    rw [← h.stopping] at hstop
    simp [hstop] at hstate
  · refine Bool.eq_true_of_not_eq_false fun hno => ?_
    rcases h.enabled hno with hdisabled | hdisabled <;> simp [hdisabled] at hstate
  · refine Option.not_isSome_iff_eq_none.mp fun hsome => ?_
    simp [h.restart.mp hsome] at hstate
  · refine Bool.eq_false_of_not_eq_true fun hhandled => ?_
    rcases h.handled hhandled with hother | hother | hother <;> simp [hother] at hstate

theorem attempted_settled (running : Bool) (hrestart : s.restartTimer = none)
    (hstable : s.stableTimer = none) (hbudget : s.restartAttempts ≤ c.config.maxRestarts)
    (hstop : s.stopRequested = false) (henabled : c.config.enabled = true) :
    Settled c (s.attempted c running) := by
  constructor <;> simp [AiProcessSupervisor.attempted, *]

theorem SupervisorMove.settled {effects : List SupervisorEffect}
    (hmove : SupervisorMove c asked s s' effects) (h : Settled c s) : Settled c s' := by
  cases hmove with
  | pass running buffer hrunning =>
    exact { h with
      disabled := fun hdisabled => by
        have hfresh := h.disabled hdisabled
        refine ⟨hfresh.1, Bool.eq_false_of_not_eq_true fun hnow => ?_⟩
        simp [hrunning hnow] at hfresh }
  | disable detail hstop hdisabled =>
    -- without the process the supervisor was never started
    have hstate : s.state = .disabled :=
      (h.enabled hdisabled).resolve_right (h.not_stopping hstop)
    have hsame : { s with state := .disabled, detail } = { s with detail } := by rw [← hstate]
    rw [hsame]
    exact { h with }
  | begin running hstop hidle henabled =>
    refine attempted_settled running ?_ ?_ (Nat.zero_le _) hstop henabled
    · refine Option.not_isSome_iff_eq_none.mp fun hsome => ?_
      simp [h.restart.mp hsome] at hidle
    · refine Option.not_isSome_iff_eq_none.mp fun hsome => ?_
      simp [h.stable hsome] at hidle
  | retry running detail hstate hstop =>
    refine attempted_settled running rfl ?_ (h.waiting hstate) hstop ?_
    · refine Option.not_isSome_iff_eq_none.mp fun hsome => ?_
      simp [h.stable hsome] at hstate
    · refine Bool.eq_true_of_not_eq_false fun hno => ?_
      rcases h.enabled hno with hother | hother <;> simp [hother] at hstate
  | call version error hstate => exact h
  | online version detail hstate hversion =>
    obtain ⟨hstop, henabled, hrestart, hhandled⟩ := h.running (.inl hstate)
    constructor <;> simp [hstop, henabled, hrestart, hhandled, hversion, h.budget]
  | retryLater reason running buffer hstate hbudget =>
    obtain ⟨hstop, henabled, hrestart, hhandled⟩ := h.running hstate
    constructor <;> simp [AiProcessSupervisor.failed, hstop, henabled, hbudget, h.budget]
  | giveUp reason detail running buffer hstate hbudget =>
    obtain ⟨hstop, henabled, hrestart, hhandled⟩ := h.running hstate
    have hspent : s.restartAttempts = c.config.maxRestarts :=
      Nat.le_antisymm h.budget (Nat.le_of_not_lt hbudget)
    constructor <;> simp [AiProcessSupervisor.failed, hstop, henabled, hrestart, hspent]
  | stable hstate =>
    obtain ⟨hstop, henabled, hrestart, hhandled⟩ := h.running (.inr hstate)
    exact { h with
      stable := nofun
      budget := Nat.zero_le _
      waiting := fun hwaiting => by simp [hstate] at hwaiting
      offline := fun hoffline => by simp [hstate] at hoffline }
  | stop running buffer detail hasked hstop => constructor <;> simp [h.budget]

theorem SupervisorMove.not_disabled {effects : List SupervisorEffect}
    (hmove : SupervisorMove c asked s s' effects) (h : Settled c s) (hs : s.state ≠ .disabled) :
    s'.state ≠ .disabled := by
  cases hmove with
  | disable detail hstop hdisabled =>
    exact absurd ((h.enabled hdisabled).resolve_left hs) (h.not_stopping hstop)
  | pass running buffer hrunning => exact hs
  | call version error hstate => exact hs
  | stable hstate => exact hs
  | _ => simp [AiProcessSupervisor.attempted, AiProcessSupervisor.failed]

theorem SupervisorMove.stopRequested {effects : List SupervisorEffect}
    (hmove : SupervisorMove c asked s s' effects) (hasked : ¬ asked) :
    s'.stopRequested = s.stopRequested := by
  cases hmove with
  | stop running buffer detail hasked' hstop => exact absurd hasked' hasked
  | _ => rfl

/-! ## Sequences of moves -/

namespace Supervision

variable {x y z : Supervision}

def Follows (c : SupervisorParams Error) (asked : Prop) (x y : Supervision) : Prop :=
  ∃ effects, SupervisorMove c asked x.self y.self effects ∧ y.effects = x.effects ++ effects

/-- Some moves lead from `x` to `y`. -/
abbrev Moves (c : SupervisorParams Error) (asked : Prop) : Supervision → Supervision → Prop :=
  Relation.ReflTransGen (Follows c asked)

theorem Moves.settled (h : Moves c asked x y) (hx : Settled c x.self) : Settled c y.self := by
  induction h with
  | refl => exact hx
  | tail hxy hyz ih =>
    obtain ⟨effects, hmove, -⟩ := hyz
    exact hmove.settled ih

theorem Moves.not_disabled (h : Moves c asked x y) (hx : Settled c x.self)
    (hstate : x.self.state ≠ .disabled) : y.self.state ≠ .disabled := by
  induction h with
  | refl => exact hstate
  | tail hxy hyz ih =>
    obtain ⟨effects, hmove, -⟩ := hyz
    exact hmove.not_disabled (Moves.settled hxy hx) ih

/-- The process ended or wrote something that no handler acts on. -/
def idle (x : Supervision) (running : Bool) (buffer : List UInt8) : Supervision :=
  { x with self := { x.self with processRunning := running, stdoutBuffer := buffer } }

theorem moves_idle {running : Bool} {buffer : List UInt8}
    (hrunning : running = true → x.self.processRunning = true) :
    Moves c asked x (x.idle running buffer) :=
  .single ⟨[], .pass running buffer hrunning, by simp [idle]⟩

/-- No handler acts on a signal of the process. -/
def Quiet (s : AiProcessSupervisor) : Prop :=
  s.state ≠ .starting ∧
    (s.stopRequested = true ∨ s.state = .stopping ∨ s.failureHandledForAttempt = true)

/-- In a quiet state only the process and the buffer change. -/
def Ignores (waiting : Supervision → Supervision) : Prop :=
  ∀ x : Supervision, Quiet x.self → ∃ running buffer,
    (running = true → x.self.processRunning = true) ∧ waiting x = x.idle running buffer

section Quiet

section

variable (c : SupervisorParams Error) (waiting : Supervision → Supervision)

theorem handleFailure_quiet (reason : String) (h : Quiet x.self) :
    x.handleFailure c reason waiting = x := by
  unfold handleFailure
  refine if_pos ?_
  rcases h.2 with hstop | hstopping | hhandled <;> simp [*]

theorem handleStdoutLine_quiet (thrown : Option Error) (line : List UInt8) (h : Quiet x.self) :
    x.handleStdoutLine c thrown waiting line = x := by
  unfold handleStdoutLine
  exact if_neg (by simpa using h.1)

theorem stdoutLoop_quiet (thrown : Option Error) (rounds : Nat) (h : Quiet x.self) :
    ∃ buffer, stdoutLoop c thrown waiting rounds x = x.idle x.self.processRunning buffer := by
  induction rounds generalizing x with
  | zero => exact ⟨x.self.stdoutBuffer, rfl⟩
  | succ rounds ih =>
    unfold stdoutLoop
    split
    · exact ⟨x.self.stdoutBuffer, rfl⟩
    · rename_i line rest hline
      have hrest : Quiet (x.idle x.self.processRunning rest).self := h
      have hsame := handleStdoutLine_quiet c waiting thrown (chopReturn line) hrest
      obtain ⟨buffer, hbuffer⟩ := ih hrest
      exact ⟨buffer, (congrArg (stdoutLoop c thrown waiting rounds) hsame).trans hbuffer⟩

theorem handleStdout_quiet (data : List UInt8) (thrown : Option Error) (h : Quiet x.self) :
    ∃ buffer, x.handleStdout c data thrown waiting = x.idle x.self.processRunning buffer :=
  stdoutLoop_quiet c waiting (x := x.idle x.self.processRunning _) thrown _ h

theorem onFinished_quiet (exitCode status : Int) (data : List UInt8) (thrown : Option Error)
    (h : Quiet x.self) :
    x.onFinished c exitCode status data thrown = x.idle x.self.processRunning [] := by
  obtain ⟨buffer, hbuffer⟩ := handleStdout_quiet c id data thrown h
  have hflushed : (x.handleStdout c data thrown id).flushPartialOutput =
      x.idle x.self.processRunning [] := by
    rw [hbuffer]
    rfl
  unfold onFinished
  rw [hflushed]
  dsimp only
  split
  · exact handleFailure_quiet c id _ h
  · rfl

end

theorem ignores_id : Ignores id := fun x _ => ⟨x.self.processRunning, x.self.stdoutBuffer, id, rfl⟩

theorem ignores_deliver (c : SupervisorParams Error) (signal : ProcessSignal Error) :
    Ignores (deliver c signal) := by
  intro x h
  have hsame : ∃ running buffer, (running = true → x.self.processRunning = true) ∧
      x = x.idle running buffer := ⟨x.self.processRunning, x.self.stdoutBuffer, id, rfl⟩
  cases signal with
  | readyReadStandardOutput data thrown nested =>
    unfold deliver
    split
    · exact hsame
    · obtain ⟨buffer, hbuffer⟩ := handleStdout_quiet c (deliverAll c nested) data thrown h
      exact ⟨_, buffer, id, hbuffer⟩
  | readyReadStandardError => exact hsame
  | errorOccurred error errorString nested =>
    unfold deliver
    split
    · exact hsame
    · rename_i hrunning
      refine ⟨error != ProcessError.failedToStart, x.self.stdoutBuffer, fun _ => ?_, ?_⟩
      · simpa using hrunning
      · exact handleFailure_quiet c _ _ (x := x.idle _ x.self.stdoutBuffer) h
  | finished exitCode status data thrown =>
    unfold deliver
    split
    · exact hsame
    · exact ⟨false, [], nofun, onFinished_quiet c exitCode status data thrown
        (x := x.idle false x.self.stdoutBuffer) h⟩

theorem ignores_deliverAll (c : SupervisorParams Error) (signals : List (ProcessSignal Error)) :
    Ignores (deliverAll c signals) := by
  induction signals with
  | nil => exact ignores_id
  | cons signal signals ih =>
    intro x h
    obtain ⟨running, buffer, hrunning, hfirst⟩ := ignores_deliver c signal x h
    obtain ⟨running', buffer', hrunning', hrest⟩ := ih (x.idle running buffer) h
    refine ⟨running', buffer', fun hnow => hrunning (hrunning' hnow), ?_⟩
    rw [deliverAll, hfirst, hrest]
    rfl

end Quiet

/-! ## The handlers -/

/-- Behind `handle_failure` when it acts. -/
def afterFailure (c : SupervisorParams Error) (reason : String) (running : Bool)
    (buffer : List UInt8) (x : Supervision) : Supervision :=
  if x.self.restartAttempts < c.config.maxRestarts then
    { self := { x.self.failed .restartWait reason running buffer with
        restartTimer := some (restartDelayMs x.self.restartAttempts) }
      effects := x.effects ++ [.failure reason, .stateChanged .restartWait reason,
        .restartIn (restartDelayMs x.self.restartAttempts)] }
  else
    let detail := reason ++ " (자동 재시작 " ++ toString c.config.maxRestarts ++ "회 소진)"
    { self := x.self.failed .offline detail running buffer
      effects := x.effects ++ [.failure reason, .stateChanged .offline detail] }

section Handlers

variable {waiting : Supervision → Supervision}

theorem stopProcess_quiet (hwaiting : Ignores waiting) (h : Quiet x.self) :
    ∃ running buffer, x.stopProcess waiting = x.idle running buffer := by
  unfold stopProcess
  split
  · exact ⟨x.self.processRunning, x.self.stdoutBuffer, rfl⟩
  · obtain ⟨running, buffer, -, hidle⟩ := hwaiting x h
    exact ⟨running, buffer, hidle⟩

theorem handleFailure_eq (reason : String) (hwaiting : Ignores waiting)
    (hstop : x.self.stopRequested = false) (hstate : x.self.state ≠ .stopping)
    (hhandled : x.self.failureHandledForAttempt = false) :
    ∃ running buffer, x.handleFailure c reason waiting = afterFailure c reason running buffer x := by
  unfold handleFailure
  rw [if_neg (by simp [hstop, hstate, hhandled])]
  dsimp only
  by_cases hbudget : x.self.restartAttempts < c.config.maxRestarts
  · obtain ⟨running, buffer, hidle⟩ := stopProcess_quiet hwaiting
      (x := { self := x.self.failed .restartWait reason x.self.processRunning x.self.stdoutBuffer
              effects := x.effects ++ [.failure reason, .stateChanged .restartWait reason] })
      ⟨by simp [AiProcessSupervisor.failed], .inr (.inr rfl)⟩
    refine ⟨running, buffer, ?_⟩
    simp only [AiProcessSupervisor.failed] at hidle
    simp only [hbudget, if_true, emit, setState, List.append_assoc, List.cons_append,
      List.nil_append]
    rw [hidle]
    simp [afterFailure, hbudget, idle, AiProcessSupervisor.failed, hstop]
  · obtain ⟨running, buffer, hidle⟩ := stopProcess_quiet hwaiting
      (x := { self := x.self.failed .offline (reason ++ " (자동 재시작 " ++
                toString c.config.maxRestarts ++ "회 소진)") x.self.processRunning x.self.stdoutBuffer
              effects := x.effects ++ [.failure reason, .stateChanged .offline (reason ++
                " (자동 재시작 " ++ toString c.config.maxRestarts ++ "회 소진)")] })
      ⟨by simp [AiProcessSupervisor.failed], .inr (.inr rfl)⟩
    refine ⟨running, buffer, ?_⟩
    simp only [AiProcessSupervisor.failed] at hidle
    simp only [hbudget, if_false, false_and, emit, setState, List.append_assoc, List.cons_append,
      List.nil_append]
    rw [hidle]
    simp [afterFailure, hbudget, idle, AiProcessSupervisor.failed]

theorem follows_afterFailure (reason : String) (running : Bool) (buffer : List UInt8)
    (hstate : x.self.state = .starting ∨ x.self.state = .online) :
    Follows c asked x (afterFailure c reason running buffer x) := by
  unfold afterFailure
  split
  · exact ⟨_, .retryLater reason running buffer hstate ‹_›, rfl⟩
  · exact ⟨_, .giveUp reason _ running buffer hstate ‹_›, rfl⟩

/-- A failure forgets the startup timer and the model version. -/
theorem afterFailure_congr {reason : String} {running : Bool} {buffer : List UInt8}
    (startupTimer : Option Nat) (modelVersion : String) :
    afterFailure c reason running buffer
      { x with self := { x.self with startupTimer, modelVersion } } =
    afterFailure c reason running buffer x := by
  unfold afterFailure
  rfl

theorem handleFailure_moves (reason : String) (hwaiting : Ignores waiting)
    (h : Settled c x.self) (hstate : x.self.state ≠ .disabled) :
    Moves c asked x (x.handleFailure c reason waiting) := by
  by_cases hquiet : Quiet x.self
  · rw [handleFailure_quiet c waiting reason hquiet]
  · have hgo : x.self.state = .starting ∨ x.self.state = .online := by
      by_contra hno
      refine hquiet ⟨fun hstarting => hno (.inl hstarting), ?_⟩
      cases hs : x.self.state with
      | disabled => exact absurd hs hstate
      | starting => exact absurd (.inl hs) hno
      | online => exact absurd (.inr hs) hno
      | restartWait => exact .inr (.inr (h.failed (.inl hs)))
      | offline => exact .inr (.inr (h.failed (.inr hs)))
      | stopping => exact .inr (.inl rfl)
    obtain ⟨hstop, -, -, hhandled⟩ := h.running hgo
    obtain ⟨running, buffer, heq⟩ := handleFailure_eq (c := c) reason hwaiting hstop
      (h.not_stopping hstop) hhandled
    rw [heq]
    exact .single (follows_afterFailure reason running buffer hgo)

theorem readyVersion?_ne {line : List UInt8} {version : String}
    (h : readyVersion? c line = some version) : version ≠ "" := by
  unfold readyVersion? at h
  split at h
  · cases h
  · split at h
    · split at h
      · rename_i hready
        cases h
        exact hready.2.2.2
      · cases h
    · cases h

theorem handleStdoutLine_moves (thrown : Option Error) (line : List UInt8)
    (hwaiting : Ignores waiting) (h : Settled c x.self) :
    Moves c asked x (x.handleStdoutLine c thrown waiting line) := by
  unfold handleStdoutLine
  split
  · rename_i hstate
    rw [beq_iff_eq] at hstate
    obtain ⟨hstop, -, -, hhandled⟩ := h.running (.inl hstate)
    split
    · exact .refl
    · rename_i version hversion
      split
      · rename_i error
        -- the handler is called, and its failure clears what the ready line set
        obtain ⟨running, buffer, heq⟩ := handleFailure_eq (c := c)
          (x := { x.emit (.ready c.endpoint version) with
            self := { x.self with startupTimer := none, modelVersion := version } })
          ("AI ready handler 오류: " ++ c.what error) hwaiting hstop (h.not_stopping hstop) hhandled
        have hcalled : Moves c asked x (x.emit (.ready c.endpoint version)) :=
          .single ⟨_, .call version error hstate, rfl⟩
        have hfailed : Follows c asked (x.emit (.ready c.endpoint version))
            (afterFailure c ("AI ready handler 오류: " ++ c.what error) running buffer
              (x.emit (.ready c.endpoint version))) :=
          follows_afterFailure _ running buffer (.inl hstate)
        rw [← afterFailure_congr none version] at hfailed
        exact hcalled.tail (heq.symm ▸ hfailed)
      · refine .single ⟨_, .online version _ hstate (readyVersion?_ne hversion), ?_⟩
        simp [emit, setState]
  · exact .refl

theorem stdoutLoop_moves (thrown : Option Error) (rounds : Nat) (hwaiting : Ignores waiting)
    (h : Settled c x.self) : Moves c asked x (stdoutLoop c thrown waiting rounds x) := by
  induction rounds generalizing x with
  | zero => exact .refl
  | succ rounds ih =>
    unfold stdoutLoop
    split
    · exact .refl
    · rename_i line rest hline
      have hrest : Moves c asked x (x.idle x.self.processRunning rest) := moves_idle id
      have hhandled := hrest.trans (handleStdoutLine_moves thrown (chopReturn line) hwaiting
        (hrest.settled h))
      exact hhandled.trans (ih (Moves.settled hhandled h))

theorem handleStdout_moves (data : List UInt8) (thrown : Option Error)
    (hwaiting : Ignores waiting) (h : Settled c x.self) :
    Moves c asked x (x.handleStdout c data thrown waiting) := by
  have hread : Moves c asked x (x.idle x.self.processRunning (x.self.stdoutBuffer ++ data)) :=
    moves_idle id
  exact hread.trans (stdoutLoop_moves thrown _ hwaiting (hread.settled h))

theorem onFinished_moves (exitCode status : Int) (data : List UInt8) (thrown : Option Error)
    (h : Settled c x.self) (hstate : x.self.state ≠ .disabled) :
    Moves c asked x (x.onFinished c exitCode status data thrown) := by
  have hread : Moves c asked x (x.handleStdout c data thrown id) :=
    handleStdout_moves data thrown ignores_id h
  have hflushed : Moves c asked x (x.handleStdout c data thrown id).flushPartialOutput :=
    hread.trans (moves_idle id)
  unfold onFinished
  dsimp only
  split
  · exact hflushed.trans (handleFailure_moves _ ignores_id (Moves.settled hflushed h)
      (Moves.not_disabled hflushed h hstate))
  · exact hflushed

/-- A process runs only behind a start. -/
theorem not_disabled_of_running (h : Settled c x.self)
    (hrunning : ¬ (!x.self.processRunning) = true) : x.self.state ≠ .disabled := fun hdisabled => by
  simp [(h.disabled hdisabled).2] at hrunning

theorem deliver_moves (signal : ProcessSignal Error) (h : Settled c x.self) :
    Moves c asked x (deliver c signal x) := by
  cases signal with
  | readyReadStandardOutput data thrown nested =>
    unfold deliver
    split
    · exact .refl
    · exact handleStdout_moves data thrown (ignores_deliverAll c nested) h
  | readyReadStandardError => exact .refl
  | errorOccurred error errorString nested =>
    unfold deliver
    split
    · exact .refl
    · rename_i hrunning
      have hidle : Moves c asked x
          (x.idle (error != ProcessError.failedToStart) x.self.stdoutBuffer) :=
        moves_idle fun _ => by simpa using hrunning
      have hstate := not_disabled_of_running h hrunning
      exact hidle.trans (handleFailure_moves _ (ignores_deliverAll c nested) (hidle.settled h) hstate)
  | finished exitCode status data thrown =>
    unfold deliver
    split
    · exact .refl
    · rename_i hrunning
      have hidle : Moves c asked x (x.idle false x.self.stdoutBuffer) := moves_idle nofun
      have hstate := not_disabled_of_running h hrunning
      exact hidle.trans (onFinished_moves exitCode status data thrown (hidle.settled h) hstate)

theorem deliverAll_moves (signals : List (ProcessSignal Error)) (h : Settled c x.self) :
    Moves c asked x (deliverAll c signals x) := by
  induction signals generalizing x with
  | nil => exact .refl
  | cons signal signals ih =>
    have hfirst : Moves c asked x (deliver c signal x) := deliver_moves signal h
    exact hfirst.trans (ih (hfirst.settled h))

/-- Behind `start_attempt` before the process is started. -/
def afterAttempt (c : SupervisorParams Error) (running : Bool) (x : Supervision) : Supervision where
  self := x.self.attempted c running
  effects := x.effects ++ [.attempt, .stateChanged .starting (x.self.attempted c running).detail]

/-- An attempt starts its timer and the process, or fails at once. -/
theorem startAttempt_moves (env : AttemptEnv) (nested : List (ProcessSignal Error))
    (hstop : x.self.stopRequested = false)
    (hsettled : ∀ running, Settled c (x.self.attempted c running)) :
    ∃ running, Moves c asked (afterAttempt c running x)
      (x.startAttempt c env (deliverAll c nested)) := by
  -- a failure finds the timer inactive, which makes no difference
  have hfails (reason : String) : Moves c asked (afterAttempt c x.self.processRunning x)
      (handleFailure c reason (deliverAll c nested)
        { afterAttempt c x.self.processRunning x with
          self := { x.self.attempted c x.self.processRunning with
            startupTimer := x.self.startupTimer } }) := by
    obtain ⟨running, buffer, heq⟩ := handleFailure_eq (c := c)
      (x := { afterAttempt c x.self.processRunning x with
        self := { x.self.attempted c x.self.processRunning with
          startupTimer := x.self.startupTimer } })
      reason (ignores_deliverAll c nested) hstop (by simp [AiProcessSupervisor.attempted]) rfl
    have hfailed : Follows c asked (afterAttempt c x.self.processRunning x)
        (afterFailure c reason running buffer (afterAttempt c x.self.processRunning x)) :=
      follows_afterFailure reason running buffer (.inl rfl)
    rw [← afterFailure_congr x.self.startupTimer ""] at hfailed
    exact .single (heq.symm ▸ hfailed)
  unfold startAttempt
  rw [if_neg (by simp [hstop])]
  simp only [emit, setState, List.append_assoc, List.cons_append, List.nil_append]
  split
  · exact ⟨_, hfails _⟩
  · split
    · exact ⟨_, hfails _⟩
    · unfold startProcess
      by_cases hrunning : x.self.processRunning = true
      · rw [if_pos hrunning]
        exact ⟨x.self.processRunning, .refl⟩
      · rw [if_neg hrunning]
        exact ⟨true, deliverAll_moves (x := afterAttempt c true x) nested (hsettled true)⟩

theorem start_moves (env : AttemptEnv) (nested : List (ProcessSignal Error))
    (h : Settled c x.self) : Moves c asked x (x.start c env (deliverAll c nested)) := by
  unfold start
  split
  · exact .refl
  · rename_i hgo
    simp only [Bool.or_eq_true, beq_iff_eq, not_or, Bool.not_eq_true] at hgo
    obtain ⟨⟨⟨hstop, hstarting⟩, honline⟩, hwait⟩ := hgo
    split
    · rename_i hdisabled
      exact .single ⟨_, .disable _ hstop (by simpa using hdisabled), by simp [setState, emit]⟩
    · rename_i henabled
      have hidle : x.self.state = .disabled ∨ x.self.state = .offline := by
        have hstopping := h.not_stopping hstop
        cases hs : x.self.state <;> simp_all
      have hbegin (running : Bool) : Follows c asked x (afterAttempt c running
          ({ x with self := { x.self with restartAttempts := 0 } }.emit .begin)) :=
        ⟨_, .begin running hstop hidle (by simpa using henabled), by
          simp [afterAttempt, emit, AiProcessSupervisor.attempted]⟩
      have hsettled (running : Bool) :
          Settled c ({ x.self with restartAttempts := 0 }.attempted c running) :=
        Moves.settled (.single (hbegin running)) h
      obtain ⟨running, hmoves⟩ := startAttempt_moves (c := c)
        (x := { x with self := { x.self with restartAttempts := 0 } }.emit .begin) env nested hstop
        hsettled
      exact .head (hbegin running) hmoves

/-- The restart timer fires into an attempt. -/
theorem onRestartTimeout_retries (asked : Prop) (env : AttemptEnv)
    (nested : List (ProcessSignal Error)) (h : Settled c x.self)
    (hstate : x.self.state = .restartWait) :
    ∃ y : Supervision, y.effects = x.effects ∧ ∃ running,
      Follows c asked x (afterAttempt c running y) ∧
      Moves c asked (afterAttempt c running y)
        (x.onRestartTimeout c env (deliverAll c nested)) := by
  have hstop : x.self.stopRequested = false := by
    refine Bool.eq_false_of_not_eq_true fun hstop => ?_
    simp [h.stopping.mpr hstop] at hstate
  have hretry (running : Bool) : Follows c asked x (afterAttempt c running
      { x with self := { x.self with
        restartTimer := none
        restartAttempts := x.self.restartAttempts + 1
        restartCount := x.self.restartCount + 1 } }) :=
    ⟨_, .retry running _ hstate hstop, rfl⟩
  obtain ⟨running, hmoves⟩ := startAttempt_moves (c := c)
    (x := { x with self := { x.self with
      restartTimer := none
      restartAttempts := x.self.restartAttempts + 1
      restartCount := x.self.restartCount + 1 } }) env nested hstop
    fun running => Moves.settled (.single (hretry running)) h
  unfold onRestartTimeout
  rw [if_neg (by simp [Option.isSome_iff_ne_none.mp (h.restart.mpr hstate)])]
  exact ⟨{ x with self := { x.self with
    restartTimer := none
    restartAttempts := x.self.restartAttempts + 1
    restartCount := x.self.restartCount + 1 } }, rfl, running, hretry running, hmoves⟩

theorem onRestartTimeout_moves (env : AttemptEnv) (nested : List (ProcessSignal Error))
    (h : Settled c x.self) : Moves c asked x (x.onRestartTimeout c env (deliverAll c nested)) := by
  by_cases hstate : x.self.state = .restartWait
  · obtain ⟨y, -, running, hretry, hmoves⟩ := onRestartTimeout_retries asked env nested h hstate
    exact .head hretry hmoves
  · unfold onRestartTimeout
    rw [if_pos (by simpa [Option.isSome_iff_ne_none] using mt h.restart.mp hstate)]

/-- The startup timer fires into a failure. -/
theorem onStartupTimeout_fails (nested : List (ProcessSignal Error)) (h : Settled c x.self)
    (hstate : x.self.state = .starting) : ∃ running buffer,
    x.onStartupTimeout c (deliverAll c nested) =
      afterFailure c "AI 시작 제한시간 초과" running buffer x := by
  obtain ⟨hstop, -, -, hhandled⟩ := h.running (.inl hstate)
  obtain ⟨running, buffer, heq⟩ := handleFailure_eq (c := c)
    (x := { x with self := { x.self with
      startupTimer := none
      modelVersion := x.self.modelVersion } })
    "AI 시작 제한시간 초과" (ignores_deliverAll c nested) hstop (h.not_stopping hstop) hhandled
  unfold onStartupTimeout
  rw [if_neg (by simp [Option.isSome_iff_ne_none.mp (h.startup.mpr hstate)])]
  exact ⟨running, buffer, heq.trans (afterFailure_congr none x.self.modelVersion)⟩

theorem onStartupTimeout_moves (nested : List (ProcessSignal Error)) (h : Settled c x.self) :
    Moves c asked x (x.onStartupTimeout c (deliverAll c nested)) := by
  by_cases hstate : x.self.state = .starting
  · obtain ⟨running, buffer, heq⟩ := onStartupTimeout_fails nested h hstate
    rw [heq]
    exact .single (follows_afterFailure _ running buffer (.inl hstate))
  · unfold onStartupTimeout
    rw [if_pos (by simpa [Option.isSome_iff_ne_none] using mt h.startup.mp hstate)]

theorem afterFailure_state (reason : String) (running : Bool) (buffer : List UInt8)
    (x : Supervision) :
    (afterFailure c reason running buffer x).self.state = .restartWait ∨
      (afterFailure c reason running buffer x).self.state = .offline := by
  unfold afterFailure
  split
  · exact .inl rfl
  · exact .inr rfl

/-- A report that finds the supervisor online is a failure of its session. -/
theorem reportTransportFailure_fails (reason : String) (nested : List (ProcessSignal Error))
    (h : Settled c x.self) (hstate : x.self.state = .online) : ∃ running buffer,
    x.reportTransportFailure c reason (deliverAll c nested) =
      afterFailure c reason running buffer x := by
  obtain ⟨hstop, -, -, hhandled⟩ := h.running (.inr hstate)
  unfold reportTransportFailure
  rw [if_pos (by simp [hstate])]
  exact handleFailure_eq reason (ignores_deliverAll c nested) hstop (h.not_stopping hstop) hhandled

theorem stop_eq (nested : List (ProcessSignal Error)) (hstop : x.self.stopRequested = false) :
    ∃ running buffer, x.stop (deliverAll c nested) =
      { self := { x.self with
          stopRequested := true
          state := .stopping
          detail := "종료 중"
          startupTimer := none
          restartTimer := none
          stableTimer := none
          processRunning := running
          stdoutBuffer := buffer }
        effects := x.effects ++ [.stop, .stateChanged .stopping "종료 중"] } := by
  obtain ⟨running, buffer, hidle⟩ := stopProcess_quiet (ignores_deliverAll c nested)
    (x := {
      self := { x.self with
        stopRequested := true
        state := .stopping
        detail := "종료 중"
        startupTimer := none
        restartTimer := none
        stableTimer := none }
      effects := x.effects ++ [.stop, .stateChanged .stopping "종료 중"] })
    ⟨by simp, .inl rfl⟩
  unfold stop
  rw [if_neg (by simp [hstop])]
  simp only [setState, emit, List.append_assoc, List.cons_append, List.nil_append]
  exact ⟨running, buffer, hidle⟩

theorem stop_moves (nested : List (ProcessSignal Error)) (hasked : asked) :
    Moves c asked x (x.stop (deliverAll c nested)) := by
  cases hstop : x.self.stopRequested with
  | true =>
    unfold stop
    rw [if_pos hstop]
  | false =>
    obtain ⟨running, buffer, heq⟩ := stop_eq (c := c) nested hstop
    rw [heq]
    exact .single ⟨_, .stop running buffer _ hasked hstop, rfl⟩

theorem stop_stopRequested (nested : List (ProcessSignal Error)) :
    (x.stop (deliverAll c nested)).self.stopRequested = true := by
  cases hstop : x.self.stopRequested with
  | true =>
    unfold stop
    rw [if_pos hstop]
    exact hstop
  | false =>
    obtain ⟨running, buffer, heq⟩ := stop_eq (c := c) nested hstop
    rw [heq]

/-- **From a settled state, every handler makes moves.** -/
theorem handle_moves (event : SupervisorEvent Error) (h : Settled c x.self) :
    Moves c (∃ nested, event = .stop nested) x (x.handle c event) := by
  cases event with
  | start env nested => exact start_moves env nested h
  | stop nested => exact stop_moves nested ⟨nested, rfl⟩
  | reportTransportFailure reason nested =>
    simp only [handle, reportTransportFailure]
    split
    · rename_i hstate
      refine handleFailure_moves reason (ignores_deliverAll c nested) h ?_
      rw [beq_iff_eq.mp hstate]
      simp
    · exact .refl
  | startupTimeout nested => exact onStartupTimeout_moves nested h
  | restartTimeout env nested => exact onRestartTimeout_moves env nested h
  | stableTimeout =>
    simp only [handle, onStableTimeout]
    split
    · exact .refl
    · rename_i htimer
      exact .single ⟨_, .stable (h.stable (by simpa [Option.isSome_iff_ne_none] using htimer)), rfl⟩
  | signal signal => exact deliver_moves signal h

end Handlers

/-! ## Runs -/

theorem run_snoc (c : SupervisorParams Error) (events : List (SupervisorEvent Error))
    (event : SupervisorEvent Error) : run c (events ++ [event]) = (run c events).handle c event := by
  simp [run]

theorem run_settled (c : SupervisorParams Error) (events : List (SupervisorEvent Error)) :
    Settled c (run c events).self := by
  induction events using List.reverseRecOn with
  | nil => exact initial_settled c
  | append_singleton events event ih =>
    rw [run_snoc]
    exact (handle_moves event ih).settled ih

/-- The rule for what every move keeps. -/
theorem run_invariant (c : SupervisorParams Error) (I : Supervision → Prop) (hinitial : I {})
    (hstep : ∀ asked x y, Settled c x.self → Follows c asked x y → I x → I y)
    (events : List (SupervisorEvent Error)) : I (run c events) := by
  induction events using List.reverseRecOn with
  | nil => exact hinitial
  | append_singleton events event ih =>
    rw [run_snoc]
    have hsettled := run_settled c events
    have hmoves := handle_moves event hsettled
    generalize handle c event (run c events) = y at hmoves
    induction hmoves with
    | refl => exact ih
    | tail hxy hyz hy => exact hstep _ _ _ (Moves.settled hxy hsettled) hyz hy

theorem Moves.stopRequested (h : Moves c asked x y) (hasked : ¬ asked) :
    y.self.stopRequested = x.self.stopRequested := by
  induction h with
  | refl => rfl
  | tail hxy hyz ih =>
    obtain ⟨effects, hmove, -⟩ := hyz
    exact (hmove.stopRequested hasked).trans ih

/-- A supervisor that is stopped stays so, and `stop` stops it. -/
theorem handle_stopRequested {s : AiProcessSupervisor} (event : SupervisorEvent Error)
    (hs : Settled c s) (hstop : s.stopRequested = true ∨ ∃ nested, event = .stop nested) :
    (handle c event ⟨s, []⟩).self.stopRequested = true := by
  by_cases hasked : ∃ nested, event = .stop nested
  · obtain ⟨nested, rfl⟩ := hasked
    exact stop_stopRequested nested
  · have hmoves := handle_moves (x := ⟨s, []⟩) event hs
    exact (hmoves.stopRequested hasked).trans (hstop.resolve_right hasked)

theorem Moves.effects_prefix (h : Moves c asked x y) : x.effects <+: y.effects := by
  induction h with
  | refl => exact List.prefix_refl _
  | tail hxy hyz ih =>
    obtain ⟨effects, -, heffects⟩ := hyz
    exact ih.trans ⟨effects, heffects.symm⟩

end Supervision

end InlineIps
