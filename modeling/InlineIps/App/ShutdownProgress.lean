import InlineIps.App.Shutdown
import InlineIps.Library.Ranking

/-!
# The shutdown comes to its end

Each stage of the shutdown waits for one thread, and the steps of that thread are the ones that
count. Their rank falls until `main` returns.

* `shutdown_completes`: there is always a step that counts, until `main` has returned, and only few
  of them.
-/

namespace InlineIps

open Library Library.Machine AsyncAiClient

/-! ## The worker -/

section Worker

variable {Text : Type}

/-- How many steps of its own the worker has before it at most, once the client is stopped. -/
def AiWorker.stepsLeft : AiWorker Text → Nat
  | .absent | .finished => 0
  | .waiting => 1
  | .received _ _ | .rejecting _ | .countingError _ | .recording _ | .offering _ _
  | .failing _ _ _ | .notifying _ _ => 2
  | .exchanging _ | .countingTimeout _ _ => 3

theorem AiWorker.stepsLeft_le (w : AiWorker Text) : w.stepsLeft ≤ 3 := by
  cases w <;> simp [stepsLeft]

theorem AiExchange.stepsLeft_next (job : AiJob) (outcome : AiExchange Text) :
    (outcome.next job).stepsLeft = 2 := by
  cases outcome <;> rfl

end Worker

/-- The worker goes on by the action. -/
def AiWorker.goesOn (w : AiWorker (List UInt8)) (action : ThreadAction) : Bool :=
  match w, action with
  | .absent, _ | .finished, _ => false
  | .exchanging _, .exchange _ => true
  | .exchanging _, _ => false
  | _, .worker => true
  | _, _ => false

theorem thread_stepsLeft {c : ApplicationParams} {client : AsyncAiClient (List UInt8)}
    (hwellFormed : AsyncAiClient.WellFormed c.client client) (hstop : client.stopRequested = true)
    (action : ThreadAction) :
    (AsyncAiClient.step c.client client action.toAction).1.worker.stepsLeft +
        (if client.worker.goesOn action then 1 else 0) ≤
      client.worker.stepsLeft := by
  cases action with
  | consume record =>
    simp only [ThreadAction.toAction, AsyncAiClient.step]
    rcases consume_cases c.client.queueCapacity client record with heq | heq | heq <;> rw [heq] <;>
      cases client.worker <;> simp [AiWorker.goesOn]
  | drainDecisions =>
    simp only [ThreadAction.toAction, AsyncAiClient.step, drainDecisions]
    cases client.worker <;> simp [AiWorker.goesOn]
  | exchange outcome =>
    simp only [ThreadAction.toAction, AsyncAiClient.step, AsyncAiClient.exchange]
    cases hworker : client.worker with
    | exchanging job =>
      have hnext := AiExchange.stepsLeft_next job outcome
      simp only [AiWorker.goesOn, if_true, hnext]
      exact Nat.le_refl 3
    | _ => simp [hworker, AiWorker.goesOn]
  | worker =>
    -- A stopped client is offline, so that no job is current.
    have hstale (job : AiJob) : client.isCurrent job = false := by
      simp [isCurrent, hwellFormed.stopped hstop]
    simp only [ThreadAction.toAction, AsyncAiClient.step]
    cases hworker : client.worker <;>
      simp [workerStep, hworker, takeRecord, offer, failTransport, hstop, hstale,
        AiWorker.goesOn, AiWorker.stepsLeft]

/-! ## The capture thread -/

namespace Application

variable {H X Y : Type} {c : ApplicationParams} {handlers : SourceHandlers H X Y}
  {number : Float → String} {a a' : Application H}

/-- How many steps of its own the capture thread has before it at most, once it is asked to stop. -/
def captureStepsLeft (a : Application H) : Nat :=
  match a.capture with
  | .absent | .ended => 0
  | .posting _ => 1
  | .closing _ => 2
  | .uninstalling _ => 3
  | .looping => if a.source.phase = .outside then 8 else 3 + a.source.phase.stepsLeft
  | .installing => 9
  | .opening => 10

theorem captureStepsLeft_le (a : Application H) : a.captureStepsLeft ≤ 10 := by
  have hle := a.source.phase.stepsLeft_le
  unfold captureStepsLeft
  split
  case h_6 => split <;> omega
  all_goals omega

/-- The capture thread goes on by a call outside of `loop`. -/
def callGoesOn (a : Application H) : Bool :=
  match a.capture with
  | .absent | .looping | .ended => false
  | .opening | .installing | .uninstalling _ | .closing _ | .posting _ => true

/-- The capture thread goes on by a step in `loop`. -/
def loopGoesOn (a : Application H) (step : LoopStep X Y) : Bool :=
  a.capture = .looping &&
    match a.source.phase, step with
    | .outside, .enter _ _ => true
    | _, step => SourceThreads.advances ⟨a.source, step.toThreadStep, {}⟩

theorem captureCall_stepsLeft (a : Application H) (ok : Bool) :
    (a.captureCall ok).captureStepsLeft + (if a.callGoesOn then 1 else 0) ≤ a.captureStepsLeft := by
  have hloop : (if a.source.phase = .outside then 8 else 3 + a.source.phase.stepsLeft) ≤ 8 := by
    have hle := a.source.phase.stepsLeft_le
    split <;> omega
  unfold captureCall callGoesOn
  cases hcapture : a.capture with
  | installing =>
    cases ok with
    | true => simpa [captureStepsLeft, hcapture] using Nat.lt_succ_of_le hloop
    | false => simp [captureStepsLeft, hcapture]
  | _ => cases ok <;> simp [captureStepsLeft, hcapture]

theorem loop_stepsLeft (handlers : SourceHandlers H X Y) (hstop : a.source.stopRequested = true)
    (step : LoopStep X Y) :
    (a.loop handlers step).captureStepsLeft + (if a.loopGoesOn step then 1 else 0) ≤
      a.captureStepsLeft := by
  unfold loop loopGoesOn
  by_cases hcapture : a.capture = .looping
  · rw [if_neg (not_not.mpr hcapture)]
    by_cases houtside : a.source.phase = .outside
    · cases step with
      | enter cleanup enobufs =>
        simp [captureStepsLeft, hcapture, houtside, LoopStep.toThreadStep, SourceThreads.step,
          SourceThreads.enter, LoopPhase.stepsLeft]
      | _ =>
        simp [captureStepsLeft, hcapture, houtside, LoopStep.toThreadStep, SourceThreads.step,
          SourceThreads.test, SourceThreads.turn, SourceThreads.leave, SourceThreads.advances]
    · have hgoes : (match a.source.phase, step with
          | .outside, .enter _ _ => true
          | _, step => SourceThreads.advances ⟨a.source, step.toThreadStep, {}⟩) =
          SourceThreads.advances
            ⟨a.source, step.toThreadStep, (a.source.step handlers step.toThreadStep).2⟩ := by
        split
        · exact absurd ‹_› houtside
        · rfl
      have hleft := SourceThreads.step_stepsLeft handlers step.toThreadStep hstop houtside
      have hpos := LoopPhase.stepsLeft_pos houtside
      rw [hgoes]
      dsimp only
      rcases hleft with hreturned | ⟨hinside, hleft⟩
      · obtain ⟨ok, hok⟩ := Option.isSome_iff_exists.mp hreturned
        rw [hok]
        simp only [captureStepsLeft, hcapture, if_neg houtside]
        split <;> omega
      · split
        · simp only [captureStepsLeft, hcapture, if_neg houtside]
          split <;> omega
        · simp only [captureStepsLeft, hcapture, if_neg houtside, if_neg hinside,
            decide_true, Bool.true_and]
          omega
  · rw [if_pos hcapture]
    simp [hcapture]

/-! ## The rank -/

/-- The shutdown waits for the step. An exchange and a `recv` of the loop end at their timeouts, so
none of these steps waits for the network. -/
def awaits (a : Application H) : ApplicationEvent X Y → Bool
  | .proceed _ =>
    match a.shutdown with
    | .no | .done _ => false
    | .stoppingCapture _ | .stoppingClient _ | .stoppingSupervisor _ => true
    | .abortingStart | .joiningWorker _ => a.workerEnded
    | .joiningCapture _ => a.captureEnded
  | .thread action =>
    match a.shutdown with
    | .abortingStart | .joiningWorker _ => a.client.worker.goesOn action
    | _ => false
  | .capture _ =>
    match a.shutdown with
    | .joiningCapture _ => a.callGoesOn
    | _ => false
  | .loop step =>
    match a.shutdown with
    | .joiningCapture _ => a.loopGoesOn step
    | _ => false
  | .mainReturns =>
    match a.main, a.shutdown with
    | .executing, .done _ | .leaving _, .done _ => true
    | _, _ => false
  | _ => false

/-- How many steps the shutdown waits for at most. -/
def stepsLeft (a : Application H) : Nat :=
  match a.shutdown with
  | .no => 24
  | .abortingStart => 20 + a.client.worker.stepsLeft
  | .stoppingCapture _ => 19
  | .stoppingClient _ => 18
  | .joiningWorker _ => 14 + a.client.worker.stepsLeft
  | .stoppingSupervisor _ => 13
  | .joiningCapture _ => 2 + a.captureStepsLeft
  | .done _ =>
    match a.main with
    | .returned _ => 0
    | _ => 1

theorem stepsLeft_le (hbegun : a.shutdown ≠ .no) : a.stepsLeft ≤ 23 := by
  have hworker := a.client.worker.stepsLeft_le
  have hcapture := a.captureStepsLeft_le
  unfold stepsLeft
  split
  case h_1 => exact absurd ‹_› hbegun
  case h_8 => split <;> omega
  all_goals omega

/-- A step of which the shutdown sees nothing. -/
structure Passes (a a' : Application H) : Prop where
  shutdown : a'.shutdown = a.shutdown
  main : a'.main = a.main
  worker : a'.client.worker = a.client.worker
  capture : a'.capture = a.capture
  source : a'.source = a.source

theorem Passes.refl (a : Application H) : Passes a a := ⟨rfl, rfl, rfl, rfl, rfl⟩

theorem Passes.stepsLeft_eq (h : Passes a a') : a'.stepsLeft = a.stepsLeft := by
  unfold Application.stepsLeft captureStepsLeft
  rw [h.shutdown, h.main, h.worker, h.capture, h.source]

theorem passes_supervise (event : SupervisorEvent Empty) : Passes a (a.supervise c event) := by
  obtain ⟨client, session, hclient, heq⟩ := supervise_eq c event a
  rw [heq]
  exact ⟨rfl, rfl, hclient.worker, rfl, rfl⟩

theorem passes_beginShutdown (hstopping : a.stopping = true) (exitCode : Int) :
    Passes a (a.beginShutdown handlers exitCode).1 := by
  unfold beginShutdown
  rw [if_pos hstopping]
  exact .refl a

theorem passes_deliver (hstopping : a.stopping = true) (nested : List (ProcessSignal Empty)) :
    Passes a (a.deliver c handlers number nested).1 := by
  unfold deliver
  split
  · exact .refl a
  · dsimp only
    rw [if_pos hstopping]
    exact ⟨rfl, rfl, rfl, rfl, rfl⟩

/-- Once the shutdown is begun, the Qt thread is free only behind it. -/
theorem Sound.stopping_of_free (h : Sound c a) (hbegun : a.shutdown ≠ .no)
    (hfree : a.free = true) : a.stopping = true := by
  unfold free at hfree
  split at hfree
  · exact absurd ‹_› hbegun
  · rename_i exitCode _ hshutdown
    exact h.stopping_of_order (by simp [hshutdown, ShutdownStage.order])
  · cases hfree

theorem passes_whenFree {f : Application H → Application H × Option Int}
    (hf : a.free = true → Passes a (f a).1) : Passes a (a.whenFree f).1 := by
  unfold whenFree
  split
  · exact hf ‹_›
  · exact .refl a

theorem Sound.proceed_falls (h : Sound c a) (hbegun : a.shutdown ≠ .no)
    (nested : List (ProcessSignal Empty)) :
    (a.proceed c handlers nested).shutdown ≠ .no ∧
      (a.proceed c handlers nested).stepsLeft +
          (if a.awaits (.proceed nested : ApplicationEvent X Y) then 1 else 0) ≤
        a.stepsLeft := by
  have hworker := a.client.worker.stepsLeft_le
  unfold Application.proceed awaits
  cases hshutdown : a.shutdown with
  | no => exact absurd hshutdown hbegun
  | done exitCode => simp [hshutdown]
  | abortingStart =>
    cases hended : a.workerEnded with
    | false => simp [hshutdown]
    | true =>
      have hgoing : a.stopping ≠ true := fun hstopping => by
        have horder := h.stopping.mp hstopping
        simp [hshutdown, ShutdownStage.order] at horder
      simp only [if_true, Application.beginShutdown, if_neg hgoing, stepsLeft, hshutdown]
      exact ⟨ShutdownStage.noConfusion, by omega⟩
  | stoppingCapture exitCode => simp [stepsLeft, hshutdown]
  | stoppingClient exitCode =>
    refine ⟨ShutdownStage.noConfusion, ?_⟩
    simp only [stepsLeft, hshutdown, if_true, AsyncAiClient.stop, setOffline]
    omega
  | joiningWorker exitCode =>
    cases hended : a.workerEnded with
    | false => simp [hshutdown]
    | true =>
      simp only [if_true, stepsLeft, hshutdown]
      exact ⟨ShutdownStage.noConfusion, by omega⟩
  | stoppingSupervisor exitCode =>
    have hcapture (b : Application H) : 2 + b.captureStepsLeft + 1 ≤ 13 := by
      have hle := b.captureStepsLeft_le
      omega
    refine ⟨ShutdownStage.noConfusion, ?_⟩
    simp only [stepsLeft, hshutdown, if_true]
    exact hcapture _
  | joiningCapture exitCode =>
    cases hended : a.captureEnded with
    | false => simp [hshutdown]
    | true =>
      simp only [if_true, stepsLeft, hshutdown]
      refine ⟨ShutdownStage.noConfusion, ?_⟩
      split <;> omega

theorem mainReturns_falls (hbegun : a.shutdown ≠ .no) :
    a.mainReturns.shutdown ≠ .no ∧
      a.mainReturns.stepsLeft + (if a.awaits (.mainReturns : ApplicationEvent X Y) then 1 else 0) ≤
        a.stepsLeft := by
  unfold mainReturns awaits
  split
  · rename_i exitCode hmain hshutdown
    simp [stepsLeft, hmain, hshutdown]
  · rename_i exitCode _ hmain hshutdown
    simp [stepsLeft, hmain, hshutdown]
  · refine ⟨hbegun, ?_⟩
    split <;> simp_all

/-! A step of the worker counts while it is joined, and one of the capture thread while that one
is. -/

theorem shutdown_thread (action : ThreadAction) : (a.thread c action).shutdown = a.shutdown := by
  obtain ⟨failures, heq⟩ := thread_eq c action a
  rw [heq]

theorem Sound.thread_falls (h : Sound c a) (action : ThreadAction) :
    (a.thread c action).stepsLeft +
        (if a.awaits (.thread action : ApplicationEvent X Y) then 1 else 0) ≤ a.stepsLeft := by
  have hfalls (hone : a.shutdown.order = 1 ∨ 4 ≤ a.shutdown.order) :=
    thread_stepsLeft h.wellFormed (h.clientStopped hone) action
  obtain ⟨failures, heq⟩ := thread_eq c action a
  rw [heq]
  unfold awaits stepsLeft
  cases hshutdown : a.shutdown with
  | abortingStart =>
    have hleft := hfalls (by simp [hshutdown, ShutdownStage.order])
    dsimp only
    omega
  | joiningWorker exitCode =>
    have hleft := hfalls (by simp [hshutdown, ShutdownStage.order])
    dsimp only
    omega
  | _ => simp [captureStepsLeft]

theorem shutdown_captureCall (ok : Bool) : (a.captureCall ok).shutdown = a.shutdown := by
  obtain ⟨capture, posted, heq⟩ := captureCall_eq ok a
  rw [heq]

theorem captureCall_falls (ok : Bool) :
    (a.captureCall ok).stepsLeft +
        (if a.awaits (.capture ok : ApplicationEvent X Y) then 1 else 0) ≤ a.stepsLeft := by
  have hfalls := captureCall_stepsLeft a ok
  obtain ⟨capture, posted, heq⟩ := captureCall_eq ok a
  rw [heq] at hfalls ⊢
  unfold awaits stepsLeft
  cases hshutdown : a.shutdown with
  | joiningCapture exitCode =>
    dsimp only
    rw [hshutdown] at hfalls
    omega
  | _ => simp

theorem shutdown_loop (handlers : SourceHandlers H X Y) (step : LoopStep X Y) :
    (a.loop handlers step).shutdown = a.shutdown := by
  obtain ⟨capture, source, heq⟩ := loop_eq handlers step a
  rw [heq]

theorem Sound.loop_falls (h : Sound c a) (handlers : SourceHandlers H X Y) (step : LoopStep X Y) :
    (a.loop handlers step).stepsLeft + (if a.awaits (.loop step) then 1 else 0) ≤ a.stepsLeft := by
  have hfalls (hstop : a.source.stopRequested = true) := loop_stepsLeft handlers hstop step
  obtain ⟨capture, source, heq⟩ := loop_eq handlers step a
  rw [heq] at hfalls ⊢
  unfold awaits stepsLeft
  cases hshutdown : a.shutdown with
  | joiningCapture exitCode =>
    -- the destructor joins the thread behind `begin_shutdown`, which has asked the loop to stop
    have hleft := hfalls (h.source.stopRequested.trans
      (h.stopping_of_order (by simp [hshutdown, ShutdownStage.order])))
    dsimp only
    rw [hshutdown] at hleft
    omega
  | _ => simp

/-- **While the shutdown is under way, no step raises its rank, and the steps it waits for lower
it.** -/
theorem Sound.step_falls (h : Sound c a) (hbegun : a.shutdown ≠ .no)
    (event : ApplicationEvent X Y) :
    (a.step c handlers number event).1.shutdown ≠ .no ∧
      (a.step c handlers number event).1.stepsLeft + (if a.awaits event then 1 else 0) ≤
        a.stepsLeft := by
  have hquiet {a' : Application H} (hpasses : Passes a a') :
      a'.shutdown ≠ .no ∧ a'.stepsLeft + (if false then 1 else 0) ≤ a.stepsLeft :=
    ⟨hpasses.shutdown ▸ hbegun, hpasses.stepsLeft_eq.le⟩
  have hstopping := h.stopping_of_free hbegun
  cases event with
  | launch threadStarts env nested =>
    have hmain : a.main ≠ .beforeStart := fun hbefore => hbegun (h.beforeStart hbefore).1
    refine hquiet ?_
    simp only [Application.step, Application.launch, if_pos hmain]
    exact .refl a
  | slot slot => exact hquiet (passes_whenFree fun _ => passes_supervise slot.toEvent)
  | deliver nested =>
    exact hquiet (passes_whenFree fun hfree => passes_deliver (hstopping hfree) nested)
  | exitAction =>
    exact hquiet (passes_whenFree fun hfree => passes_beginShutdown (hstopping hfree) 0)
  | signal => exact hquiet ⟨rfl, rfl, rfl, rfl, rfl⟩
  | signalTimer =>
    refine hquiet (passes_whenFree fun hfree => ?_)
    split
    · exact passes_beginShutdown (hstopping hfree) 0
    · exact .refl a
  | loopEnds exitCode =>
    refine hquiet ?_
    simp only [Application.step]
    split
    · rename_i hfree
      simp only [Bool.and_eq_true, Bool.not_eq_true'] at hfree
      rw [hstopping hfree.1] at hfree
      cases hfree.2
    · exact .refl a
  | proceed nested => exact h.proceed_falls hbegun nested
  | mainReturns => exact mainReturns_falls hbegun
  | thread action => exact ⟨(shutdown_thread action).symm ▸ hbegun, h.thread_falls action⟩
  | capture ok => exact ⟨(shutdown_captureCall ok).symm ▸ hbegun, captureCall_falls ok⟩
  | loop step => exact ⟨(shutdown_loop handlers step).symm ▸ hbegun, h.loop_falls handlers step⟩
  | aiBlock event =>
    refine hquiet ?_
    simp only [Application.step]
    split
    · exact ⟨rfl, rfl, rfl, rfl, rfl⟩
    · exact .refl a

/-- The rank of the shutdown. -/
def shutdownRanking (c : ApplicationParams) (handlers : SourceHandlers H X Y)
    (number : Float → String) :
    Ranking (step c handlers number) fun x : Taken (Application H) (ApplicationEvent X Y) _ =>
      x.before.awaits x.event where
  holds a := Sound c a ∧ a.shutdown ≠ .no
  rank := stepsLeft
  keeps _ event h := ⟨h.1.step event, (h.1.step_falls h.2 event).1⟩
  falls _ event h := (h.1.step_falls h.2 event).2

/-! ## The end -/

/-- The worker can go on until it has ended. -/
theorem exists_goesOn (a : Application H) (hended : a.workerEnded = false) :
    ∃ action, a.client.worker.goesOn action = true := by
  unfold workerEnded at hended
  cases hworker : a.client.worker with
  | absent => simp [hworker] at hended
  | finished => simp [hworker] at hended
  | exchanging job => exact ⟨.exchange .sendTimeout, rfl⟩
  | _ => exact ⟨.worker, rfl⟩

/-- The capture thread can go on until it has ended. -/
theorem exists_captureGoesOn [Inhabited Y] (a : Application H) (hended : a.captureEnded = false) :
    a.callGoesOn = true ∨ ∃ step : LoopStep X Y, a.loopGoesOn step = true := by
  unfold captureEnded at hended
  cases hcapture : a.capture with
  | absent => simp [hcapture] at hended
  | ended => simp [hcapture] at hended
  | looping =>
    right
    cases hphase : a.source.phase with
    | outside => exact ⟨.enter 0 0, by simp [loopGoesOn, hcapture, hphase]⟩
    | receiving =>
      exact ⟨.turn ⟨.idle, 0, default⟩, by
        simp [loopGoesOn, hcapture, hphase, SourceThreads.advances, LoopStep.toThreadStep]⟩
    | leaving ok =>
      exact ⟨.leave, by
        simp [loopGoesOn, hcapture, hphase, SourceThreads.advances, LoopStep.toThreadStep]⟩
    | _ =>
      exact ⟨.test, by
        simp [loopGoesOn, hcapture, hphase, SourceThreads.advances, LoopStep.toThreadStep]⟩
  | _ => exact .inl (by simp [callGoesOn, hcapture])

theorem Sound.exists_awaits [Inhabited Y] (h : Sound c a) (hbegun : a.shutdown ≠ .no)
    (hmain : ∀ exitCode, a.main ≠ .returned exitCode) :
    ∃ event : ApplicationEvent X Y, a.awaits event = true := by
  cases hshutdown : a.shutdown with
  | no => exact absurd hshutdown hbegun
  | stoppingCapture exitCode => exact ⟨.proceed [], by simp [awaits, hshutdown]⟩
  | stoppingClient exitCode => exact ⟨.proceed [], by simp [awaits, hshutdown]⟩
  | stoppingSupervisor exitCode => exact ⟨.proceed [], by simp [awaits, hshutdown]⟩
  | abortingStart =>
    cases hended : a.workerEnded with
    | true => exact ⟨.proceed [], by simp [awaits, hshutdown, hended]⟩
    | false =>
      obtain ⟨action, hgoes⟩ := a.exists_goesOn hended
      exact ⟨.thread action, by simp [awaits, hshutdown, hgoes]⟩
  | joiningWorker exitCode =>
    cases hended : a.workerEnded with
    | true => exact ⟨.proceed [], by simp [awaits, hshutdown, hended]⟩
    | false =>
      obtain ⟨action, hgoes⟩ := a.exists_goesOn hended
      exact ⟨.thread action, by simp [awaits, hshutdown, hgoes]⟩
  | joiningCapture exitCode =>
    cases hended : a.captureEnded with
    | true => exact ⟨.proceed [], by simp [awaits, hshutdown, hended]⟩
    | false =>
      rcases a.exists_captureGoesOn (X := X) (Y := Y) hended with hcall | ⟨step, hloop⟩
      · exact ⟨.capture true, by simp [awaits, hshutdown, hcall]⟩
      · exact ⟨.loop step, by simp [awaits, hshutdown, hloop]⟩
  | done exitCode =>
    refine ⟨.mainReturns, ?_⟩
    cases ha : a.main with
    | beforeStart => exact absurd (h.beforeStart ha).1 hbegun
    | executing => simp [awaits, hshutdown, ha]
    | leaving exitCode => simp [awaits, hshutdown, ha]
    | returned exitCode => exact absurd ha (hmain exitCode)

/-- **The shutdown comes to its end.** From where it is begun, and however the threads go on, at most
23 steps are ones that it waits for, and until `main` has returned there is always such a step: the
Qt thread can go on, or the thread that it joins can. -/
theorem shutdown_completes [Inhabited Y] (c : ApplicationParams)
    (handlers : SourceHandlers H X Y) (number : Float → String) (h : H) (available : Bool)
    (events after : List (ApplicationEvent X Y))
    (hbegun : (exec (step c handlers number) (initial h available) events).shutdown ≠ .no) :
    let begun := exec (step c handlers number) (initial h available) events
    let a := exec (step c handlers number) begun after
    (trace (step c handlers number) begun after).countP (fun x => x.before.awaits x.event) ≤ 23 ∧
      ((∃ exitCode, a.main = .returned exitCode) ∨
        ∃ event : ApplicationEvent X Y, a.awaits event = true) := by
  intro begun a
  have hsound : Sound c begun := sound_run c handlers number h available events
  let ranking := shutdownRanking c handlers number
  have hcount := ranking.countP_le (s := begun) ⟨hsound, hbegun⟩ after
  obtain ⟨hsound', hbegun'⟩ := ranking.holds_exec (s := begun) ⟨hsound, hbegun⟩ after
  refine ⟨hcount.trans (stepsLeft_le hbegun), ?_⟩
  by_cases hreturned : ∃ exitCode, a.main = .returned exitCode
  · exact .inl hreturned
  · exact .inr (hsound'.exists_awaits hbegun' fun exitCode hmain => hreturned ⟨exitCode, hmain⟩)

/-! The menu item for the exit is chosen while the capture thread receives. -/

def exitParams : ApplicationParams where
  config := {}
  queueCapacity := 1024
  endpoint := "ipc:///tmp/ips-with-ai-1.sock"
  parse _ := .ok .null

def exitHandlers : SourceHandlers Unit Unit Unit where
  packet h _ _ _ := (h, .ok true)
  tick := none

def exitRun : List (ApplicationEvent Unit Unit) := [
  .launch true ⟨none, true⟩ [], .capture true, .capture true, .loop (.enter 0 0), .loop .test,
  .loop .test, .exitAction]

def exitSteps : List (ApplicationEvent Unit Unit) := [
  .proceed [], .proceed [], .loop (.turn ⟨.idle, 0, ()⟩), .thread .worker, .proceed [],
  .proceed [], .loop .test, .loop .leave, .capture true, .capture true, .capture true,
  .proceed [], .mainReturns]

theorem shutdown_completes_exitRun :
    let step := step exitParams exitHandlers fun _ => ""
    let begun := exec step (initial () true) exitRun
    let a := exec step begun exitSteps
    (trace step begun exitSteps).countP (fun x => x.before.awaits x.event) ≤ 23 ∧
      ((∃ exitCode, a.main = .returned exitCode) ∨
        ∃ event : ApplicationEvent Unit Unit, a.awaits event = true) :=
  shutdown_completes exitParams exitHandlers (fun _ => "") () true exitRun exitSteps
    (by decide +kernel)

/-- There the exit code is 0. -/
example : (exec (step exitParams exitHandlers fun _ => "") (initial () true)
    (exitRun ++ exitSteps)).main = .returned 0 := by decide +kernel

end Application

end InlineIps
