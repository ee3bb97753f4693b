import InlineIps.App.SupervisorMoves
import InlineIps.Ui.TrayController

/-!
# What the tray shows of the supervisor

The two handlers of the supervisor also set the tray. In the application the ready handler does not
throw.

* `handle_reports`: behind every handler the icon and the tool tip are those of the state.
* `Moves.offlineShown`: the end of the AI process is shown at most once.
-/

namespace InlineIps

open TrayController

variable {c : SupervisorParams Empty}

/-- What the handlers of the supervisor do with the tray. -/
def trayCallback (tray : TrayController) : SupervisorEffect → TrayController
  | .ready _ modelVersion => tray.setAiState .online modelVersion
  | .stateChanged state detail =>
    if state = .online then tray
    else
      let tray := tray.setAiState state detail
      if state = .offline then tray.showAiOffline detail else tray
  | _ => tray

/-- The tray shows the state of the supervisor. -/
structure Shows (s : AiProcessSupervisor) (tray : TrayController) : Prop where
  icon : tray.icon = stateColor s.state
  toolTip : tray.toolTip = "IPS - " ++ if s.state = .online then s.modelVersion else s.detail

@[simp] theorem available_trayCallback (tray : TrayController) (effect : SupervisorEffect) :
    (trayCallback tray effect).available = tray.available := by
  cases effect with
  | ready endpoint modelVersion => simp [trayCallback]
  | stateChanged state detail =>
    unfold trayCallback
    dsimp only
    split
    · rfl
    · split <;> simp
  | _ => rfl

@[simp] theorem available_foldl_trayCallback (effects : List SupervisorEffect)
    (tray : TrayController) :
    (effects.foldl trayCallback tray).available = tray.available := by
  induction effects generalizing tray with
  | nil => rfl
  | cons effect effects ih => rw [List.foldl_cons, ih, available_trayCallback]

@[simp] theorem blocksShown_foldl_trayCallback (effects : List SupervisorEffect)
    (tray : TrayController) :
    (effects.foldl trayCallback tray).blocksShown = tray.blocksShown := by
  induction effects generalizing tray with
  | nil => rfl
  | cons effect effects ih =>
    rw [List.foldl_cons, ih]
    cases effect with
    | ready endpoint modelVersion => simp [trayCallback]
    | stateChanged state detail =>
      unfold trayCallback
      dsimp only
      split
      · rfl
      · split <;> simp
    | _ => rfl

/-- A state other than `ONLINE` is shown when it is reported. -/
theorem shows_stateChanged {s : AiProcessSupervisor} (tray : TrayController)
    (havailable : tray.available = true) (hstate : s.state ≠ .online) :
    Shows s (trayCallback tray (.stateChanged s.state s.detail)) := by
  unfold trayCallback
  dsimp only
  rw [if_neg hstate]
  by_cases hoffline : s.state = .offline
  · rw [if_pos hoffline]
    unfold showAiOffline
    split <;> constructor <;> simp [setAiState, havailable, hstate]
  · rw [if_neg hoffline]
    constructor <;> simp [setAiState, havailable, hstate]

namespace Supervision

variable {x y z : Supervision} {waiting : Supervision → Supervision}

/-! ## Icon and tool tip -/

/-- From `x` to `y` the supervisor does not begin anew. -/
def Continues (x y : Supervision) : Prop :=
  ∃ effects, y.effects = x.effects ++ effects ∧ .begin ∉ effects

/-- From `x` to `y` also the tray follows the supervisor. -/
def Reports (x y : Supervision) : Prop :=
  ∃ effects, y.effects = x.effects ++ effects ∧ .begin ∉ effects ∧
    ∀ tray, tray.available = true → Shows x.self tray → Shows y.self (effects.foldl trayCallback tray)

/-- From `x` to `y` the tray is set, whatever it showed. -/
def Redraws (x y : Supervision) : Prop :=
  ∃ effects, y.effects = x.effects ++ effects ∧ .begin ∉ effects ∧
    ∀ tray, tray.available = true → Shows y.self (effects.foldl trayCallback tray)

theorem Continues.refl (x : Supervision) : Continues x x :=
  ⟨[], (List.append_nil _).symm, List.not_mem_nil⟩

/-- One more effect. -/
theorem Continues.emit (hxy : Continues x y) (effect : SupervisorEffect)
    (heffect : effect ≠ .begin) {self : AiProcessSupervisor} :
    Continues x ({ y with self }.emit effect) := by
  obtain ⟨effects, heffects, hbegin⟩ := hxy
  refine ⟨effects ++ [effect], by simp [Supervision.emit, heffects], ?_⟩
  rw [List.mem_append, List.mem_singleton, not_or]
  exact ⟨hbegin, heffect.symm⟩

theorem Continues.setState (hxy : Continues x y) (state : AiState) (hstate : state ≠ .online)
    (detail : String) : Redraws x (y.setState state detail) := by
  obtain ⟨effects, heffects, hbegin⟩ := hxy
  refine ⟨effects ++ [.stateChanged state detail], ?_, ?_, fun tray havailable => ?_⟩
  · simp [Supervision.setState, Supervision.emit, heffects]
  · simpa using hbegin
  · rw [List.foldl_append]
    exact shows_stateChanged (s := (y.setState state detail).self) (effects.foldl trayCallback tray)
      (by simpa using havailable) hstate

theorem Reports.refl (x : Supervision) : Reports x x :=
  ⟨[], (List.append_nil _).symm, List.not_mem_nil, fun _ _ hshows => hshows⟩

theorem Reports.trans (hxy : Reports x y) (hyz : Reports y z) : Reports x z := by
  obtain ⟨effects, heffects, hbegin, hshows⟩ := hxy
  obtain ⟨effects', heffects', hbegin', hshows'⟩ := hyz
  refine ⟨effects ++ effects', by rw [heffects', heffects, List.append_assoc], ?_, ?_⟩
  · rw [List.mem_append, not_or]
    exact ⟨hbegin, hbegin'⟩
  · intro tray havailable hx
    rw [List.foldl_append]
    exact hshows' _ (by simpa using havailable) (hshows tray havailable hx)

theorem Redraws.reports (h : Redraws x y) : Reports x y := by
  obtain ⟨effects, heffects, hbegin, hshows⟩ := h
  exact ⟨effects, heffects, hbegin, fun tray havailable _ => hshows tray havailable⟩

theorem Redraws.trans (hxy : Redraws x y) (hyz : Reports y z) : Redraws x z := by
  obtain ⟨effects, heffects, hbegin, hshows⟩ := hxy
  obtain ⟨effects', heffects', hbegin', hshows'⟩ := hyz
  refine ⟨effects ++ effects', by rw [heffects', heffects, List.append_assoc], ?_, ?_⟩
  · rw [List.mem_append, not_or]
    exact ⟨hbegin, hbegin'⟩
  · intro tray havailable
    rw [List.foldl_append]
    exact hshows' _ (by simpa using havailable) (hshows tray havailable)

/-- The state stays, with its detail and the model version. -/
theorem Reports.still (hxy : Reports x y) (hstate : z.self.state = y.self.state)
    (hdetail : z.self.detail = y.self.detail)
    (hversion : z.self.modelVersion = y.self.modelVersion) (heffects : z.effects = y.effects) :
    Reports x z := by
  refine hxy.trans ⟨[], by rw [heffects, List.append_nil], List.not_mem_nil, fun tray _ hshows => ?_⟩
  constructor
  · rw [hstate]
    exact hshows.icon
  · rw [hstate, hdetail, hversion]
    exact hshows.toolTip

/-- The same in front. -/
theorem Reports.behind (hyz : Reports y z) (hstate : y.self.state = x.self.state)
    (hdetail : y.self.detail = x.self.detail)
    (hversion : y.self.modelVersion = x.self.modelVersion) (heffects : y.effects = x.effects) :
    Reports x z :=
  ((Reports.refl x).still hstate hdetail hversion heffects).trans hyz

/-- An effect that the handlers are not told of. -/
theorem Reports.emit (hxy : Reports x y) (effect : SupervisorEffect) (hbegin : effect ≠ .begin)
    (hquiet : ∀ tray, trayCallback tray effect = tray) : Reports x (y.emit effect) := by
  refine hxy.trans ⟨[effect], rfl, by simpa using hbegin.symm, fun tray _ hshows => ?_⟩
  rw [List.foldl_cons, hquiet]
  exact hshows

theorem stopProcess_reports (hwaiting : ∀ y, Reports y (waiting y)) (x : Supervision) :
    Reports x (x.stopProcess waiting) := by
  unfold stopProcess
  split
  · exact .refl x
  · exact hwaiting x

theorem handleFailure_reports (reason : String) (hwaiting : ∀ y, Reports y (waiting y))
    (x : Supervision) : Reports x (x.handleFailure c reason waiting) := by
  unfold handleFailure
  split
  · exact .refl x
  · have hfailure : Continues x ({ x with self := { x.self with
        failureHandledForAttempt := true
        startupTimer := none
        stableTimer := none
        modelVersion := "" } }.emit (.failure reason)) :=
      (Continues.refl x).emit _ (by simp)
    have hrestart {y : Supervision} (ms : Nat) (hxy : Reports x y) :
        Reports x ({ y with self := { y.self with restartTimer := some ms } }.emit
          (.restartIn ms)) := by
      have htimer : Reports x { y with self := { y.self with restartTimer := some ms } } :=
        hxy.still rfl rfl rfl rfl
      exact htimer.emit _ (by simp) fun _ => rfl
    dsimp only
    split
    · have hstopped := ((hfailure.setState .restartWait (by simp) reason).trans
        (stopProcess_reports hwaiting _)).reports
      split
      · exact hrestart _ hstopped
      · exact hstopped
    · have hstopped := ((hfailure.setState .offline (by simp)
        (reason ++ " (자동 재시작 " ++ toString c.config.maxRestarts ++ "회 소진)")).trans
        (stopProcess_reports hwaiting _)).reports
      split
      · exact hrestart _ hstopped
      · exact hstopped

/-- The ready handler shows the model version, and `ONLINE` leaves the tray alone. -/
theorem handleStdoutLine_reports (thrown : Option Empty) (line : List UInt8) (x : Supervision) :
    Reports x (x.handleStdoutLine c thrown waiting line) := by
  unfold handleStdoutLine
  split
  · split
    · exact .refl x
    · rename_i version _
      cases thrown with
      | some error => exact error.elim
      | none =>
        refine ⟨[.ready c.endpoint version, .stateChanged .online "AI 온라인"], by
          simp [setState, Supervision.emit], by simp, fun tray havailable _ => ?_⟩
        constructor <;> simp [setState, Supervision.emit, trayCallback, setAiState, havailable]
  · exact .refl x

theorem stdoutLoop_reports (thrown : Option Empty) (rounds : Nat) (x : Supervision) :
    Reports x (stdoutLoop c thrown waiting rounds x) := by
  induction rounds generalizing x with
  | zero => exact .refl x
  | succ rounds ih =>
    unfold stdoutLoop
    split
    · exact .refl x
    · rename_i line rest _
      have hbuffer : Reports x { x with self := { x.self with stdoutBuffer := rest } } :=
        (Reports.refl x).still rfl rfl rfl rfl
      exact (hbuffer.trans (handleStdoutLine_reports thrown (chopReturn line) _)).trans (ih _)

theorem handleStdout_reports (data : List UInt8) (thrown : Option Empty) (x : Supervision) :
    Reports x (x.handleStdout c data thrown waiting) :=
  (stdoutLoop_reports thrown _ _).behind rfl rfl rfl rfl

theorem onFinished_reports (exitCode status : Int) (data : List UInt8) (thrown : Option Empty)
    (x : Supervision) : Reports x (x.onFinished c exitCode status data thrown) := by
  have hread : Reports x (x.handleStdout c data thrown id).flushPartialOutput :=
    (handleStdout_reports data thrown x).still rfl rfl rfl rfl
  unfold onFinished
  dsimp only
  split
  · exact hread.trans (handleFailure_reports _ Reports.refl _)
  · exact hread

mutual

theorem deliver_reports (signal : ProcessSignal Empty) (x : Supervision) :
    Reports x (deliver c signal x) := by
  cases signal with
  | readyReadStandardOutput data thrown nested =>
    unfold deliver
    split
    · exact .refl x
    · exact handleStdout_reports data thrown x
  | readyReadStandardError =>
    unfold deliver
    exact .refl x
  | errorOccurred error errorString nested =>
    unfold deliver
    split
    · exact .refl x
    · exact (handleFailure_reports _ (deliverAll_reports nested) _).behind rfl rfl rfl rfl
  | finished exitCode status data thrown =>
    unfold deliver
    split
    · exact .refl x
    · exact (onFinished_reports exitCode status data thrown _).behind rfl rfl rfl rfl

theorem deliverAll_reports (signals : List (ProcessSignal Empty)) (x : Supervision) :
    Reports x (deliverAll c signals x) := by
  cases signals with
  | nil =>
    unfold deliverAll
    exact .refl x
  | cons signal signals =>
    unfold deliverAll
    exact (deliver_reports signal x).trans (deliverAll_reports signals _)

end

theorem startProcess_reports (hwaiting : ∀ y, Reports y (waiting y)) (x : Supervision) :
    Reports x (x.startProcess waiting) := by
  unfold startProcess
  split
  · exact .refl x
  · exact (hwaiting _).behind rfl rfl rfl rfl

theorem startAttempt_redraws (env : AttemptEnv) (hwaiting : ∀ y, Reports y (waiting y))
    (hstop : x.self.stopRequested = false) : Redraws x (x.startAttempt c env waiting) := by
  unfold startAttempt
  rw [if_neg (by simp [hstop])]
  have hattempt : Continues x ({ x with self := { x.self with
      failureHandledForAttempt := false
      stdoutBuffer := []
      modelVersion := "" } }.emit .attempt) := (Continues.refl x).emit _ (by simp)
  have hstarting := hattempt.setState .starting (by simp)
    (if x.self.restartAttempts = 0 then "AI 프로세스 시작 중" else "AI 프로세스 재시작 중")
  dsimp only
  split
  · exact hstarting.trans (handleFailure_reports _ hwaiting _)
  · split
    · exact hstarting.trans (handleFailure_reports _ hwaiting _)
    · exact hstarting.trans ((startProcess_reports hwaiting _).behind rfl rfl rfl rfl)

theorem startAttempt_reports (env : AttemptEnv) (hwaiting : ∀ y, Reports y (waiting y))
    (x : Supervision) : Reports x (x.startAttempt c env waiting) := by
  cases hstop : x.self.stopRequested with
  | true =>
    unfold startAttempt
    rw [if_pos hstop]
    exact .refl x
  | false => exact (startAttempt_redraws env hwaiting hstop).reports

theorem stop_reports (hwaiting : ∀ y, Reports y (waiting y)) (x : Supervision) :
    Reports x (x.stop waiting) := by
  unfold stop
  split
  · exact .refl x
  · have hstop : Continues x ({ x with self := { x.self with stopRequested := true } }.emit .stop) :=
      (Continues.refl x).emit _ (by simp)
    refine ((hstop.setState .stopping (by simp) "종료 중").trans ?_).reports
    exact (stopProcess_reports hwaiting _).behind rfl rfl rfl rfl

/-- **Behind every handler but `start` the tray shows the state of the supervisor.** -/
theorem handle_reports {event : SupervisorEvent Empty} (hstart : ∀ env nested, event ≠ .start env nested)
    (x : Supervision) : Reports x (x.handle c event) := by
  cases event with
  | start env nested => exact absurd rfl (hstart env nested)
  | stop nested => exact stop_reports (deliverAll_reports nested) x
  | reportTransportFailure reason nested =>
    simp only [handle, reportTransportFailure]
    split
    · exact handleFailure_reports reason (deliverAll_reports nested) x
    · exact .refl x
  | startupTimeout nested =>
    simp only [handle, onStartupTimeout]
    split
    · exact .refl x
    · exact (handleFailure_reports _ (deliverAll_reports nested) _).behind rfl rfl rfl rfl
  | restartTimeout env nested =>
    simp only [handle, onRestartTimeout]
    split
    · exact .refl x
    · exact (startAttempt_reports env (deliverAll_reports nested) _).behind rfl rfl rfl rfl
  | stableTimeout =>
    simp only [handle, onStableTimeout]
    split
    · exact .refl x
    · have htimer : Reports x { x with self := { x.self with
          stableTimer := none
          restartAttempts := 0 } } := (Reports.refl x).still rfl rfl rfl rfl
      exact htimer.emit _ (by simp) fun _ => rfl
  | signal signal => exact deliver_reports signal x

end Supervision

/-! ## The end of the AI process -/

/-- The tray shows the end of the AI process when it comes, and only then. -/
structure OfflineShown (s : AiProcessSupervisor) (tray : TrayController) : Prop where
  before : s.state ≠ .offline → s.stopRequested = false →
    tray.offlineShown = false ∧ tray.offlinesShown = []
  now : s.state = .offline → tray.offlinesShown = [⟨aiOfflineTitle, s.detail⟩]
  once : tray.offlinesShown.length ≤ 1

section Offline

variable {s s' : AiProcessSupervisor} {tray : TrayController} {asked : Prop}

/-- Nothing is shown on the way to a state that is neither `OFFLINE` nor behind a stop. -/
theorem OfflineShown.quiet (h : OfflineShown s tray) (hstate : s.state ≠ .offline)
    (hstop : s.stopRequested = false) (hstate' : s'.state ≠ .offline) {tray' : TrayController}
    (hshown : tray'.offlineShown = false) (hsame : tray'.offlinesShown = tray.offlinesShown) :
    OfflineShown s' tray' := by
  obtain ⟨-, hnone⟩ := h.before hstate hstop
  refine ⟨fun _ _ => ⟨hshown, hsame.trans hnone⟩, fun hoffline => absurd hoffline hstate', ?_⟩
  rw [hsame]
  exact h.once

theorem OfflineShown.move (h : OfflineShown s tray) (havailable : tray.available = true)
    (hsettled : Settled c s) {effects : List SupervisorEffect}
    (hmove : SupervisorMove c asked s s' effects) (hbegin : .begin ∉ effects) :
    OfflineShown s' (effects.foldl trayCallback tray) := by
  cases hmove with
  | pass running buffer hrunning => exact ⟨h.before, h.now, h.once⟩
  | disable detail hstop hdisabled =>
    have hstate : s.state = .disabled :=
      (hsettled.enabled hdisabled).resolve_right (hsettled.not_stopping hstop)
    have hshown := (h.before (by simp [hstate]) hstop).1
    refine h.quiet (by simp [hstate]) hstop (by simp) ?_ ?_ <;>
      simp [trayCallback, setAiState, havailable, hshown, offlinesShown]
  | begin running hstop hidle henabled => simp at hbegin
  | retry running detail hstate hstop =>
    have hshown := (h.before (by simp [hstate]) hstop).1
    refine h.quiet (by simp [hstate]) hstop (by simp [AiProcessSupervisor.attempted]) ?_ ?_ <;>
      simp [trayCallback, setAiState, havailable, hshown, offlinesShown]
  | call version error hstate => exact error.elim
  | online version detail hstate hversion =>
    obtain ⟨hstop, -⟩ := hsettled.running (.inl hstate)
    refine h.quiet (by simp [hstate]) hstop (by simp) ?_ ?_ <;>
      simp [trayCallback, setAiState, havailable, offlinesShown]
  | retryLater reason running buffer hstate hbudget =>
    obtain ⟨hstop, -⟩ := hsettled.running hstate
    have hne : s.state ≠ .offline := by
      rcases hstate with hstate | hstate <;> simp [hstate]
    have hshown := (h.before hne hstop).1
    refine h.quiet hne hstop (by simp [AiProcessSupervisor.failed]) ?_ ?_ <;>
      simp [trayCallback, setAiState, havailable, hshown, offlinesShown]
  | giveUp reason detail running buffer hstate hbudget =>
    obtain ⟨hstop, -⟩ := hsettled.running hstate
    have hne : s.state ≠ .offline := by
      rcases hstate with hstate | hstate <;> simp [hstate]
    obtain ⟨hshown, hnone⟩ := h.before hne hstop
    have hmessage : (trayCallback tray (.stateChanged .offline detail)).offlinesShown =
        [⟨aiOfflineTitle, detail⟩] := by
      unfold offlinesShown at hnone
      simp [trayCallback, setAiState, showAiOffline, havailable, hshown, offlinesShown, hnone]
    refine ⟨fun hno => absurd rfl hno, fun _ => hmessage, ?_⟩
    rw [List.foldl_cons, List.foldl_cons, List.foldl_nil]
    exact (congrArg List.length hmessage).le
  | stable hstate => exact ⟨h.before, h.now, h.once⟩
  | stop running buffer detail hasked hstop =>
    refine ⟨fun _ hno => by simp at hno, fun hoffline => by simp at hoffline, ?_⟩
    simp only [List.foldl_cons, List.foldl_nil, trayCallback]
    simpa using h.once

theorem Supervision.Moves.offlineShown {x y : Supervision} (hmoves : Moves c asked x y)
    (hx : Settled c x.self) {effects : List SupervisorEffect}
    (heffects : y.effects = x.effects ++ effects) (hbegin : .begin ∉ effects)
    (havailable : tray.available = true) (h : OfflineShown x.self tray) :
    OfflineShown y.self (effects.foldl trayCallback tray) := by
  induction hmoves generalizing effects with
  | refl =>
    obtain rfl := List.append_right_eq_self.mp heffects.symm
    exact h
  | tail hxy hyz ih =>
    obtain ⟨before, hbefore⟩ := Moves.effects_prefix hxy
    obtain ⟨last, hmove, hlast⟩ := hyz
    obtain rfl : effects = before ++ last := by
      rw [heffects, ← hbefore, List.append_assoc] at hlast
      exact List.append_cancel_left hlast
    rw [List.mem_append, not_or] at hbegin
    rw [List.foldl_append]
    exact (ih hbefore.symm hbegin.1).move (by simpa using havailable) (Moves.settled hxy hx) hmove
      hbegin.2

theorem OfflineShown.handle (h : OfflineShown s tray) (havailable : tray.available = true)
    (hs : Settled c s) {event : SupervisorEvent Empty}
    (hstart : ∀ env nested, event ≠ .start env nested) :
    OfflineShown (Supervision.handle c event ⟨s, []⟩).self
      ((Supervision.handle c event ⟨s, []⟩).effects.foldl trayCallback tray) := by
  obtain ⟨effects, heffects, hbegin, -⟩ := Supervision.handle_reports (c := c) hstart ⟨s, []⟩
  have hmoves := Supervision.handle_moves (x := ⟨s, []⟩) event hs
  rw [List.nil_append] at heffects
  rw [heffects]
  exact hmoves.offlineShown hs heffects hbegin havailable h

/-- The tray shows the state, and the end of the AI process. -/
structure TrayFits (s : AiProcessSupervisor) (tray : TrayController) : Prop where
  shows : Shows s tray
  offline : OfflineShown s tray

theorem trayFits_disabled (havailable : tray.available = true) (h : OfflineShown {} tray)
    (henabled : c.config.enabled = false) :
    let x := (⟨{}, []⟩ : Supervision).setState .disabled "AI 비활성화 설정"
    TrayFits x.self (x.effects.foldl trayCallback tray) := by
  intro x
  have hx : Supervision.handle c (.start ⟨none, false⟩ []) ⟨{}, []⟩ = x := by
    simp [x, Supervision.handle, Supervision.start, henabled]
  obtain ⟨effects, heffects, hbegin, hshows⟩ :=
    (Supervision.Continues.refl ⟨{}, []⟩).setState .disabled (by simp) "AI 비활성화 설정"
  have hmoves := Supervision.handle_moves (x := ⟨{}, []⟩) (.start ⟨none, false⟩ [])
    (initial_settled c)
  rw [hx] at hmoves
  rw [show x.effects = effects from heffects]
  exact ⟨hshows tray havailable,
    hmoves.offlineShown (initial_settled c) heffects hbegin havailable h⟩

theorem trayFits_startAttempt (env : AttemptEnv) (nested : List (ProcessSignal Empty))
    (havailable : tray.available = true) (hshown : tray.offlineShown = false)
    (h : OfflineShown {} tray) (henabled : c.config.enabled = true) :
    let x := Supervision.startAttempt c env (Supervision.deliverAll c nested) ⟨{}, [.begin]⟩
    TrayFits x.self (x.effects.foldl trayCallback tray) := by
  intro x
  obtain ⟨effects, heffects, hbegin, hshows⟩ := Supervision.startAttempt_redraws (c := c)
    (x := ⟨{}, [.begin]⟩) env (Supervision.deliverAll_reports nested) rfl
  have hsettled (running : Bool) :
      Settled c (({} : AiProcessSupervisor).attempted c running) :=
    attempted_settled running rfl rfl (Nat.zero_le _) rfl henabled
  obtain ⟨running, hmoves⟩ : ∃ running, Supervision.Moves c False
      (Supervision.afterAttempt c running ⟨{}, [.begin]⟩) x :=
    Supervision.startAttempt_moves env nested rfl hsettled
  obtain ⟨rest, hrest⟩ := hmoves.effects_prefix
  obtain rfl : effects = [.attempt, .stateChanged .starting "AI 프로세스 시작 중"] ++ rest := by
    rw [show x.effects = _ from heffects] at hrest
    exact (List.cons.inj hrest).2.symm
  rw [show x.effects = _ from heffects]
  refine ⟨hshows tray havailable, ?_⟩
  rw [List.mem_append, not_or] at hbegin
  -- the first attempt shows the start, and the rest are moves
  have hstarting : OfflineShown (({} : AiProcessSupervisor).attempted c running)
      (trayCallback tray (.stateChanged .starting "AI 프로세스 시작 중")) := by
    refine h.quiet (by simp) rfl (by simp [AiProcessSupervisor.attempted]) ?_ ?_ <;>
      simp [trayCallback, setAiState, havailable, hshown, offlinesShown]
  have hlast : OfflineShown x.self (rest.foldl trayCallback
      (trayCallback tray (.stateChanged .starting "AI 프로세스 시작 중"))) :=
    hmoves.offlineShown (hsettled running) hrest.symm hbegin.2 (by simpa using havailable) hstarting
  exact hlast

/-- The tray fits the supervisor as soon as it is started. -/
theorem trayFits_start (env : AttemptEnv) (nested : List (ProcessSignal Empty))
    (havailable : tray.available = true) (hshown : tray.offlineShown = false)
    (hnone : tray.offlinesShown = []) :
    let x := Supervision.handle c (.start env nested) ⟨{}, []⟩
    TrayFits x.self (x.effects.foldl trayCallback tray) := by
  intro x
  have hbefore : OfflineShown {} tray :=
    ⟨fun _ _ => ⟨hshown, hnone⟩, fun hoffline => by simp at hoffline, by simp [hnone]⟩
  cases henabled : c.config.enabled with
  | false =>
    have hx : x = (⟨{}, []⟩ : Supervision).setState .disabled "AI 비활성화 설정" := by
      simp [x, Supervision.handle, Supervision.start, henabled]
    rw [hx]
    exact trayFits_disabled havailable hbefore henabled
  | true =>
    have hx : x = Supervision.startAttempt c env (Supervision.deliverAll c nested)
        ⟨{}, [.begin]⟩ := by
      simp [x, Supervision.handle, Supervision.start, Supervision.emit, henabled]
    rw [hx]
    exact trayFits_startAttempt env nested havailable hshown hbefore henabled

end Offline

end InlineIps
