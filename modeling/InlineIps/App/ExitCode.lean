import InlineIps.App.Shutdown

/-!
# The exit code

* `Binds`: a step outputs an exit code when it binds `main` to it.
* `orderly_exit`: `main` returns the exit code with which the shutdown was begun, and behind it nothing
  runs any more.
-/

namespace InlineIps

open Library Library.Machine AsyncAiClient

/-- The exit code with which the shutdown was begun. -/
def ShutdownStage.exitCode? : ShutdownStage → Option Int
  | .no | .abortingStart => none
  | .stoppingCapture exitCode | .stoppingClient exitCode | .joiningWorker exitCode
  | .stoppingSupervisor exitCode | .joiningCapture exitCode | .done exitCode => some exitCode

namespace Application

variable {H X Y : Type} {c : ApplicationParams} {handlers : SourceHandlers H X Y}
  {number : Float → String} {a a' : Application H}

/-- The exit code that `main` is bound to return. -/
def exitCode? (a : Application H) : Option Int :=
  match a.main with
  | .beforeStart => none
  | .executing => a.shutdown.exitCode?
  | .leaving exitCode | .returned exitCode => some exitCode

/-- The step outputs an exit code when it binds `main` to it, and only then. -/
def Binds (a : Application H) (x : Application H × Option Int) : Prop :=
  x.1.exitCode?.toList = a.exitCode?.toList ++ x.2.toList

theorem binds_none (hmain : a'.main = a.main)
    (hshutdown : a'.shutdown.exitCode? = a.shutdown.exitCode?) : Binds a (a', none) := by
  unfold Binds exitCode?
  rw [hmain, hshutdown, Option.toList_none, List.append_nil]

@[simp] theorem main_supervise (event : SupervisorEvent Empty) :
    (a.supervise c event).main = a.main := by
  obtain ⟨client, session, -, heq⟩ := supervise_eq c event a
  rw [heq]

@[simp] theorem shutdown_supervise (event : SupervisorEvent Empty) :
    (a.supervise c event).shutdown = a.shutdown := by
  obtain ⟨client, session, -, heq⟩ := supervise_eq c event a
  rw [heq]

theorem binds_beginShutdown (hmain : a.main = .executing)
    (hno : a.stopping ≠ true → a.shutdown = .no) (exitCode : Int) :
    Binds a (a.beginShutdown handlers exitCode) := by
  unfold Application.beginShutdown
  split
  · exact binds_none rfl rfl
  · rename_i hstopping
    simp [Binds, exitCode?, hmain, hno hstopping, ShutdownStage.exitCode?]

/-- While the Qt loop runs, a shutdown that is not begun has no stage. -/
theorem Sound.shutdown_no (h : Sound c a) (hmain : a.main = .executing)
    (hstopping : a.stopping ≠ true) : a.shutdown = .no := by
  have horder := h.order_lt hstopping
  cases hshutdown : a.shutdown with
  | no => rfl
  | abortingStart => exact absurd hshutdown (h.executing hmain)
  | _ => simp [hshutdown, ShutdownStage.order] at horder

theorem binds_whenFree {f : Application H → Application H × Option Int}
    (hf : a.main = .executing → Binds a (f a)) : Binds a (a.whenFree f) := by
  unfold Application.whenFree
  split
  · exact hf (main_of_free ‹_›)
  · exact binds_none rfl rfl

theorem Sound.binds_launch (h : Sound c a) (threadStarts : Bool) (env : AttemptEnv)
    (nested : List (ProcessSignal Empty)) : Binds a (a.launch c threadStarts env nested) := by
  unfold Application.launch
  split
  · exact binds_none rfl rfl
  · rename_i hmain
    obtain ⟨hshutdown, -⟩ := h.beforeStart (not_not.mp hmain)
    dsimp only
    split <;> simp [Binds, exitCode?, not_not.mp hmain, hshutdown, ShutdownStage.exitCode?]

theorem Sound.binds_deliver (h : Sound c a) (hmain : a.main = .executing)
    (nested : List (ProcessSignal Empty)) : Binds a (a.deliver c handlers number nested) := by
  unfold Application.deliver
  split
  · exact binds_none rfl rfl
  · rename_i call rest hposted
    dsimp only
    split
    · exact binds_none rfl rfl
    · rename_i hstopping
      have hno := h.shutdown_no hmain hstopping
      cases call with
      | transportFailure failure => exact binds_none (by simp) (by simp)
      | aiBlock event => exact binds_none rfl rfl
      | captureResult ok =>
        dsimp only
        split
        · exact binds_none rfl rfl
        · exact binds_beginShutdown (a := { a with posted := rest }) hmain (fun _ => hno) 1

theorem Sound.binds_proceed (h : Sound c a) (nested : List (ProcessSignal Empty)) :
    Binds a (a.proceed c handlers nested, none) := by
  unfold Application.proceed
  split
  · exact binds_none rfl rfl
  · exact binds_none rfl rfl
  · rename_i hshutdown
    split
    · -- The start has failed, so `main` has its exit code already.
      have hmain : (a.beginShutdown handlers 0).1.main = a.main := by
        unfold Application.beginShutdown
        split <;> rfl
      unfold Binds exitCode?
      rw [hmain]
      cases ha : a.main with
      | beforeStart => simp
      | executing => exact absurd hshutdown (h.executing ha)
      | leaving exitCode => simp
      | returned exitCode => simp
    · exact binds_none rfl rfl
  · rename_i exitCode hshutdown
    exact binds_none rfl (by simp [hshutdown, ShutdownStage.exitCode?])
  · rename_i exitCode hshutdown
    exact binds_none rfl (by simp [hshutdown, ShutdownStage.exitCode?])
  · rename_i exitCode hshutdown
    split
    · exact binds_none rfl (by simp [hshutdown, ShutdownStage.exitCode?])
    · exact binds_none rfl rfl
  · rename_i exitCode hshutdown
    exact binds_none (by simp) (by simp [hshutdown, ShutdownStage.exitCode?])
  · rename_i exitCode hshutdown
    split
    · exact binds_none rfl (by simp [hshutdown, ShutdownStage.exitCode?])
    · exact binds_none rfl rfl

theorem binds_mainReturns : Binds a (a.mainReturns, none) := by
  unfold Application.mainReturns
  split
  · rename_i exitCode hmain hshutdown
    simp [Binds, exitCode?, hmain, hshutdown, ShutdownStage.exitCode?]
  · rename_i exitCode _ hmain hshutdown
    simp [Binds, exitCode?, hmain]
  · exact binds_none rfl rfl

theorem Sound.binds (h : Sound c a) (event : ApplicationEvent X Y) :
    Binds a (a.step c handlers number event) := by
  cases event with
  | launch threadStarts env nested => exact h.binds_launch threadStarts env nested
  | slot slot => exact binds_whenFree fun _ => binds_none (by simp) (by simp)
  | deliver nested => exact binds_whenFree fun hmain => h.binds_deliver hmain nested
  | exitAction =>
    exact binds_whenFree fun hmain => binds_beginShutdown hmain (h.shutdown_no hmain) 0
  | signal => exact binds_none rfl rfl
  | signalTimer =>
    refine binds_whenFree fun hmain => ?_
    split
    · exact binds_beginShutdown hmain (h.shutdown_no hmain) 0
    · exact binds_none rfl rfl
  | loopEnds exitCode =>
    simp only [Application.step]
    split
    · rename_i hfree
      rw [Bool.and_eq_true, Bool.not_eq_true'] at hfree
      have hmain := main_of_free hfree.1
      have hstopping : a.stopping ≠ true := by simp [hfree.2]
      unfold Application.beginShutdown
      rw [if_neg hstopping]
      simp [Binds, exitCode?, hmain, h.shutdown_no hmain hstopping, ShutdownStage.exitCode?]
    · exact binds_none rfl rfl
  | proceed nested => exact h.binds_proceed nested
  | mainReturns => exact binds_mainReturns
  | thread action =>
    obtain ⟨failures, heq⟩ := thread_eq c action a
    simp only [Application.step, heq]
    exact binds_none rfl rfl
  | capture ok =>
    obtain ⟨capture, posted, heq⟩ := captureCall_eq ok a
    simp only [Application.step, heq]
    exact binds_none rfl rfl
  | loop step =>
    obtain ⟨capture, source, heq⟩ := loop_eq handlers step a
    simp only [Application.step, heq]
    exact binds_none rfl rfl
  | aiBlock event =>
    simp only [Application.step]
    split <;> exact binds_none rfl rfl

/-- What holds between two steps, with what the steps before have said. -/
structure Told (c : ApplicationParams) (a : Application H)
    (h : List (Taken (Application H) (ApplicationEvent X Y) (Option Int))) : Prop where
  sound : Sound c a
  exitCode : h.filterMap (·.output) = a.exitCode?.toList

theorem told_run (c : ApplicationParams) (handlers : SourceHandlers H X Y)
    (number : Float → String) (h : H) (available : Bool) (events : List (ApplicationEvent X Y)) :
    Told c (exec (step c handlers number) (initial h available) events)
      (trace (step c handlers number) (initial h available) events) := by
  refine trace_invariant (h := []) (Told c) (fun a h event htold => ⟨htold.sound.step event, ?_⟩)
    ⟨initial_sound c h available, rfl⟩
  have hbinds : Binds a (a.step c handlers number event) := htold.sound.binds event
  rw [hbinds, List.filterMap_append, htold.exitCode]
  congr 1

/-- **The application ends in order.** When `main` has returned, its exit code is the one with which
the shutdown was begun, once (its own 1 behind a failed start), and behind it nothing runs any more.
Before the shutdown the application does not go on without the capture thread: the call that begins
the shutdown is posted. -/
theorem orderly_exit (c : ApplicationParams) (handlers : SourceHandlers H X Y)
    (number : Float → String) (h : H) (available : Bool) (events : List (ApplicationEvent X Y)) :
    let a := exec (step c handlers number) (initial h available) events
    (∀ exitCode, a.main = .returned exitCode →
      (trace (step c handlers number) (initial h available) events).filterMap (·.output) =
          [exitCode] ∧
        a.workerEnded = true ∧ a.client.online = false ∧
        a.captureEnded = true ∧ a.source.phase = .outside ∧
        a.supervisor.state = .stopping ∧ a.supervisor.startupTimer = none ∧
        a.supervisor.restartTimer = none ∧ a.supervisor.stableTimer = none) ∧
      (a.capture = .ended → a.stopping = false → .captureResult false ∈ a.posted) := by
  intro a
  obtain ⟨hsound, hcode⟩ : Told c a _ := told_run c handlers number h available events
  refine ⟨fun exitCode hmain => ?_, hsound.source.ended⟩
  have horder : a.shutdown.order = 7 := hsound.returned exitCode hmain
  have hcapture : a.captureEnded = true := hsound.captureEnded horder
  have hstate : a.supervisor.state = .stopping :=
    hsound.settled.stopping.mpr (hsound.supervisorStopped (by omega))
  have houtside : a.source.phase = .outside := by
    by_contra hinside
    have hlooping : a.capture = .looping := hsound.source.inside hinside
    simp [captureEnded, hlooping] at hcapture
  refine ⟨?_, hsound.workerEnded (by omega),
    hsound.wellFormed.stopped (hsound.clientStopped (.inr (by omega))), hcapture, houtside, hstate,
    ?_, ?_, ?_⟩
  · rw [hcode]
    unfold exitCode?
    rw [hmain]
    rfl
  · have hnone := hsound.settled.startup.not.mpr (by rw [hstate]; simp)
    simpa using hnone
  · have hnone := hsound.settled.restart.not.mpr (by rw [hstate]; simp)
    simpa using hnone
  · have hnone := mt hsound.settled.stable (by rw [hstate]; simp)
    simpa using hnone

end Application

end InlineIps
