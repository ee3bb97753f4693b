import InlineIps.App.Application

/-!
# The shutdown of the application

* `supervise_eq`, `thread_eq`: what a handler of the supervisor and another thread change.
* `Sound`: what holds between any two steps. The order of the stages carries it.
* `sound_run`: every step keeps it.
-/

namespace InlineIps

open Library Library.Machine AsyncAiClient

namespace Application

variable {H X Y : Type} {c : ApplicationParams} {handlers : SourceHandlers H X Y}
  {number : Float → String} {a : Application H}

/-! ## Handlers and threads -/

/-- The client of a handler: its worker and its end are left alone. -/
structure ClientMoves (c : ApplicationParams) (client client' : AsyncAiClient (List UInt8)) : Prop where
  worker : client'.worker = client.worker
  stopRequested : client'.stopRequested = client.stopRequested
  wellFormed : AsyncAiClient.WellFormed c.client client → AsyncAiClient.WellFormed c.client client'

theorem ClientMoves.refl (client : AsyncAiClient (List UInt8)) : ClientMoves c client client :=
  ⟨rfl, rfl, id⟩

theorem clientMoves_setOnline (client : AsyncAiClient (List UInt8)) (endpoint modelVersion : String) :
    ClientMoves c client (client.setOnline endpoint modelVersion) := by
  refine ⟨?_, ?_, fun h => h.setOnline endpoint modelVersion⟩ <;>
  · unfold AsyncAiClient.setOnline
    split <;> rfl

theorem callback_eq (c : ApplicationParams) (a : Application H) (effect : SupervisorEffect) :
    ∃ client session, ClientMoves c a.client client ∧
      a.callback effect = { a with client, session, tray := trayCallback a.tray effect } := by
  cases effect with
  | ready endpoint modelVersion =>
    exact ⟨_, _, clientMoves_setOnline a.client endpoint modelVersion, rfl⟩
  | stateChanged state detail =>
    unfold callback ApplicationController.callback
    dsimp only
    split
    · exact ⟨_, _, .refl a.client, rfl⟩
    · exact ⟨a.client.setOffline, a.session, ⟨rfl, rfl, fun h => h.setOffline⟩, rfl⟩
  | _ => exact ⟨_, _, .refl a.client, rfl⟩

theorem foldl_callback_eq (c : ApplicationParams) (effects : List SupervisorEffect)
    (a : Application H) :
    ∃ client session, ClientMoves c a.client client ∧
      effects.foldl callback a =
        { a with client, session, tray := effects.foldl trayCallback a.tray } := by
  induction effects generalizing a with
  | nil => exact ⟨_, _, .refl a.client, rfl⟩
  | cons effect effects ih =>
    obtain ⟨client, session, hclient, heq⟩ := callback_eq c a effect
    obtain ⟨client', session', hclient', heq'⟩ := ih (a.callback effect)
    rw [heq] at hclient' heq'
    refine ⟨client', session', ⟨hclient'.worker.trans hclient.worker,
      hclient'.stopRequested.trans hclient.stopRequested,
      fun h => hclient'.wellFormed (hclient.wellFormed h)⟩, ?_⟩
    rw [List.foldl_cons, heq, heq', List.foldl_cons]

/-- What a handler of the supervisor changes. -/
theorem supervise_eq (c : ApplicationParams) (event : SupervisorEvent Empty) (a : Application H) :
    ∃ client session, ClientMoves c a.client client ∧
      a.supervise c event = { a with
        client, session
        supervisor := (Supervision.handle c.supervisor event ⟨a.supervisor, []⟩).self
        tray := (Supervision.handle c.supervisor event ⟨a.supervisor, []⟩).effects.foldl trayCallback
          a.tray } := by
  obtain ⟨client, session, hclient, heq⟩ := foldl_callback_eq c
    (Supervision.handle c.supervisor event ⟨a.supervisor, []⟩).effects a
  refine ⟨client, session, hclient, ?_⟩
  unfold supervise
  dsimp only
  rw [heq]

/-- What another thread changes in the client. -/
theorem thread_eq (c : ApplicationParams) (action : ThreadAction) (a : Application H) :
    ∃ failures : List PostedFailure, a.thread c action = { a with
      client := (AsyncAiClient.step c.client a.client action.toAction).1
      posted := a.posted ++ failures.map .transportFailure } := by
  unfold thread
  split
  rename_i client output hstep
  rw [hstep]
  split
  · exact ⟨[_], rfl⟩
  · exact ⟨[], by simp⟩

/-- What a call of the capture thread changes. -/
theorem captureCall_eq (ok : Bool) (a : Application H) :
    ∃ capture posted, a.captureCall ok = { a with capture, posted } := by
  unfold Application.captureCall
  split <;> exact ⟨_, _, rfl⟩

/-- What a step in `loop` changes. -/
theorem loop_eq (handlers : SourceHandlers H X Y) (step : LoopStep X Y) (a : Application H) :
    ∃ capture source, a.loop handlers step = { a with capture, source } := by
  unfold Application.loop
  split
  · exact ⟨_, _, rfl⟩
  · dsimp only
    split <;> exact ⟨_, _, rfl⟩

/-- A worker that has ended stays there. -/
theorem thread_ended {client : AsyncAiClient (List UInt8)}
    (hended : client.worker = .absent ∨ client.worker = .finished) (action : ThreadAction) :
    (AsyncAiClient.step c.client client action.toAction).1.worker = client.worker := by
  cases action with
  | consume record =>
    simp only [ThreadAction.toAction, AsyncAiClient.step]
    rcases consume_cases c.client.queueCapacity client record with heq | heq | heq <;> rw [heq]
  | drainDecisions => rfl
  | exchange outcome =>
    simp only [ThreadAction.toAction, AsyncAiClient.step, AsyncAiClient.exchange]
    rcases hended with hworker | hworker <;> rw [hworker] <;> exact hworker
  | worker =>
    simp only [ThreadAction.toAction, AsyncAiClient.step, workerStep]
    rcases hended with hworker | hworker <;> rw [hworker] <;> exact hworker

/-! ## Between two steps -/

end Application

/-- The stages in the order in which the shutdown comes to them. -/
def ShutdownStage.order : ShutdownStage → Nat
  | .no => 0
  | .abortingStart => 1
  | .stoppingCapture _ => 2
  | .stoppingClient _ => 3
  | .joiningWorker _ => 4
  | .stoppingSupervisor _ => 5
  | .joiningCapture _ => 6
  | .done _ => 7

/-- The capture thread is on its way out with the result `true`. -/
def CaptureStage.succeeds : CaptureStage → Bool
  | .uninstalling ok | .closing ok | .posting ok => ok
  | _ => false

theorem ShutdownStage.order_le (stage : ShutdownStage) : stage.order ≤ 7 := by
  cases stage <;> simp [order]

namespace Application

variable {H X Y : Type} {c : ApplicationParams} {handlers : SourceHandlers H X Y}
  {number : Float → String} {a : Application H}

/-- What the loop of the capture thread relies on. -/
structure SourceSound (a : Application H) : Prop where
  stopRequested : a.source.stopRequested = a.stopping
  inside : a.source.phase ≠ .outside → a.capture = .looping
  running : a.source.phase ≠ .outside → a.source.running = false → a.stopping = true
  leaving : a.source.phase = .leaving true → a.stopping = true
  /-- The thread goes on to its end only behind a request to stop, or fails. -/
  succeeds : a.capture.succeeds = true → a.stopping = true
  ended : a.capture = .ended → a.stopping = false → .captureResult false ∈ a.posted

/-- What holds between two steps. -/
structure Sound (c : ApplicationParams) (a : Application H) : Prop where
  settled : Settled c.supervisor a.supervisor
  wellFormed : AsyncAiClient.WellFormed c.client a.client
  source : SourceSound a
  stopping : a.stopping = true ↔ 2 ≤ a.shutdown.order
  clientStopped : a.shutdown.order = 1 ∨ 4 ≤ a.shutdown.order → a.client.stopRequested = true
  workerEnded : 5 ≤ a.shutdown.order → a.workerEnded = true
  supervisorStopped : 6 ≤ a.shutdown.order → a.supervisor.stopRequested = true
  captureEnded : a.shutdown.order = 7 → a.captureEnded = true
  beforeStart : a.main = .beforeStart → a.shutdown = .no ∧ a.capture = .absent
  executing : a.main = .executing → a.shutdown ≠ .abortingStart
  leaving : ∀ exitCode, a.main = .leaving exitCode → a.shutdown ≠ .no
  returned : ∀ exitCode, a.main = .returned exitCode → a.shutdown.order = 7

theorem initial_sound (c : ApplicationParams) (h : H) (available : Bool) :
    Sound c (initial h available) where
  settled := initial_settled c.supervisor
  wellFormed := AsyncAiClient.initial_wellFormed c.client
  source :=
    { stopRequested := rfl
      inside := fun hinside => absurd rfl hinside
      running := fun hinside => absurd rfl hinside
      leaving := fun hleaving => by cases hleaving
      succeeds := fun hsucceeds => by cases hsucceeds
      ended := fun hended => by cases hended }
  stopping := by simp [initial, ShutdownStage.order]
  clientStopped := by simp [initial, ShutdownStage.order]
  workerEnded := by simp [initial, ShutdownStage.order]
  supervisorStopped := by simp [initial, ShutdownStage.order]
  captureEnded := by simp [initial, ShutdownStage.order]
  beforeStart _ := ⟨rfl, rfl⟩
  executing hmain := by cases hmain
  leaving _ hmain := by cases hmain
  returned _ hmain := by cases hmain

theorem sourceSound_of_stopping (hstopping : a.stopping = true)
    (hstop : a.source.stopRequested = true)
    (hinside : a.source.phase ≠ .outside → a.capture = .looping) : SourceSound a where
  stopRequested := hstop.trans hstopping.symm
  inside := hinside
  running _ _ := hstopping
  leaving _ := hstopping
  succeeds _ := hstopping
  ended _ hno := by simp [hstopping] at hno

/-- The application is on its way out. -/
theorem Sound.stopping_of_order (h : Sound c a) (horder : 2 ≤ a.shutdown.order) :
    a.stopping = true := h.stopping.mpr horder

theorem Sound.order_lt (h : Sound c a) (hstopping : a.stopping ≠ true) : a.shutdown.order < 2 :=
  Nat.lt_of_not_le fun horder => hstopping (h.stopping_of_order horder)

theorem Sound.supervise (h : Sound c a) (event : SupervisorEvent Empty) :
    Sound c (a.supervise c event) := by
  obtain ⟨client, session, hclient, heq⟩ := supervise_eq c event a
  have hsettled := (Supervision.handle_moves (x := ⟨a.supervisor, []⟩) event h.settled).settled h.settled
  have hstop (hstopped : a.supervisor.stopRequested = true) :=
    Supervision.handle_stopRequested event h.settled (.inl hstopped)
  rw [heq]
  generalize Supervision.handle c.supervisor event ⟨a.supervisor, []⟩ = x at hsettled hstop
  exact { h with
    settled := hsettled
    wellFormed := hclient.wellFormed h.wellFormed
    source := { h.source with }
    clientStopped := fun horder => hclient.stopRequested.trans (h.clientStopped horder)
    workerEnded := fun horder => by
      have hended := h.workerEnded horder
      unfold Application.workerEnded at hended ⊢
      rw [← hclient.worker] at hended
      exact hended
    supervisorStopped := fun horder => hstop (h.supervisorStopped horder) }

/-- `begin_shutdown` up to its first store. -/
theorem Sound.begin (h : Sound c a) {main : MainStage}
    (hmain : main ≠ .beforeStart) (hreturned : ∀ code, main ≠ .returned code) (exitCode : Int)
    (tray : TrayController) (posted : List PostedCall) :
    Sound c { a with
      stopping := true
      tray, posted, main
      source := (a.source.step handlers .storeStopRequested).1
      shutdown := .stoppingCapture exitCode } where
  settled := h.settled
  wellFormed := h.wellFormed
  source := sourceSound_of_stopping rfl rfl h.source.inside
  stopping := by simp [ShutdownStage.order]
  clientStopped := by simp [ShutdownStage.order]
  workerEnded := by simp [ShutdownStage.order]
  supervisorStopped := by simp [ShutdownStage.order]
  captureEnded := by simp [ShutdownStage.order]
  beforeStart hbefore := absurd hbefore hmain
  executing _ := ShutdownStage.noConfusion
  leaving _ _ := ShutdownStage.noConfusion
  returned code hcode := absurd hcode (hreturned code)

theorem Sound.not_returned (h : Sound c a) (hstopping : a.stopping ≠ true) (code : Int) :
    a.main ≠ .returned code := by
  intro hmain
  have horder := h.order_lt hstopping
  rw [h.returned code hmain] at horder
  omega

theorem Sound.beginShutdown (h : Sound c a) (hmain : a.main ≠ .beforeStart) (exitCode : Int) :
    Sound c (a.beginShutdown handlers exitCode).1 := by
  unfold Application.beginShutdown
  split
  · exact h
  · rename_i hstopping
    exact h.begin hmain (h.not_returned hstopping) exitCode _ _

theorem Sound.launch (h : Sound c a) (threadStarts : Bool) (env : AttemptEnv)
    (nested : List (ProcessSignal Empty)) : Sound c (a.launch c threadStarts env nested).1 := by
  unfold Application.launch
  split
  · exact h
  · rename_i hmain
    obtain ⟨hshutdown, hcapture⟩ := h.beforeStart (not_not.mp hmain)
    have houtside : a.source.phase = .outside := by
      by_contra hinside
      rw [h.source.inside hinside] at hcapture
      cases hcapture
    dsimp only
    split
    · have hstarted : Sound c { a with
          started := true
          client := a.client.start
          capture := .opening
          main := .executing } :=
        { settled := h.settled
          wellFormed := h.wellFormed.start
          source :=
            { stopRequested := h.source.stopRequested
              inside := fun hinside => absurd houtside hinside
              running := fun hinside => absurd houtside hinside
              leaving := h.source.leaving
              succeeds := fun hsucceeds => by cases hsucceeds
              ended := fun hended => by cases hended }
          stopping := h.stopping
          clientStopped := by simp [hshutdown, ShutdownStage.order]
          workerEnded := by simp [hshutdown, ShutdownStage.order]
          supervisorStopped := by simp [hshutdown, ShutdownStage.order]
          captureEnded := by simp [hshutdown, ShutdownStage.order]
          beforeStart := fun hbefore => by cases hbefore
          executing := fun _ => by simp [hshutdown]
          leaving := fun _ hleaving => by cases hleaving
          returned := fun _ hreturned => by cases hreturned }
      exact hstarted.supervise _
    · have hstopping : a.stopping = false := by
        rw [← Bool.not_eq_true, h.stopping, hshutdown]
        simp [ShutdownStage.order]
      exact {
        settled := h.settled
        wellFormed := h.wellFormed.start.stop
        source := { h.source with }
        stopping := by simp [hstopping, ShutdownStage.order]
        clientStopped := fun _ => rfl
        workerEnded := by simp [ShutdownStage.order]
        supervisorStopped := by simp [ShutdownStage.order]
        captureEnded := by simp [ShutdownStage.order]
        beforeStart := fun hbefore => by cases hbefore
        executing := fun hexecuting => by cases hexecuting
        leaving := fun _ _ => ShutdownStage.noConfusion
        returned := fun _ hreturned => by cases hreturned }

theorem Sound.deliver (h : Sound c a) (hmain : a.main ≠ .beforeStart)
    (nested : List (ProcessSignal Empty)) : Sound c (a.deliver c handlers number nested).1 := by
  unfold Application.deliver
  split
  · exact h
  · rename_i call rest hposted
    have htaken (hcall : a.stopping = false → call ≠ .captureResult false) :
        Sound c { a with posted := rest } :=
      { h with
        source := { h.source with
          ended := fun hended hgoing => by
            have hmem := h.source.ended hended hgoing
            rw [hposted] at hmem
            exact (List.mem_cons.mp hmem).resolve_left fun heq => hcall hgoing heq.symm } }
    dsimp only
    split
    · rename_i hstopping
      exact htaken fun hgoing => by simp [hgoing] at hstopping
    · rename_i hstopping
      cases call with
      | transportFailure failure => exact (htaken fun _ => PostedCall.noConfusion).supervise _
      | aiBlock event =>
        have hrest := htaken fun _ => PostedCall.noConfusion
        dsimp only
        exact { hrest with source := { hrest.source with } }
      | captureResult ok =>
        cases ok with
        | true => exact htaken fun _ => by simp
        | false =>
          unfold Application.beginShutdown
          rw [if_neg hstopping]
          exact h.begin hmain (h.not_returned hstopping) 1 _ rest

/-- The shutdown goes on by one stage. -/
theorem Sound.next (h : Sound c a) {stage : ShutdownStage}
    (hstage : stage.order = a.shutdown.order + 1) (hgoing : 2 ≤ a.shutdown.order)
    (hclient : stage.order = 4 → a.client.stopRequested = true)
    (hworker : stage.order = 5 → a.workerEnded = true)
    (hsupervisor : stage.order = 6 → a.supervisor.stopRequested = true)
    (hcapture : stage.order = 7 → a.captureEnded = true) :
    Sound c { a with shutdown := stage } where
  settled := h.settled
  wellFormed := h.wellFormed
  source := { h.source with }
  stopping := by
    have hstopping := h.stopping_of_order hgoing
    simp only [hstopping, true_iff]
    omega
  clientStopped horder := by
    by_cases hfour : stage.order = 4
    · exact hclient hfour
    · exact h.clientStopped (.inr (by simp only at horder; omega))
  workerEnded horder := by
    by_cases hfive : stage.order = 5
    · exact hworker hfive
    · exact h.workerEnded (by simp only at horder; omega)
  supervisorStopped horder := by
    by_cases hsix : stage.order = 6
    · exact hsupervisor hsix
    · exact h.supervisorStopped (by simp only at horder; omega)
  captureEnded := hcapture
  beforeStart hbefore := by
    simp [(h.beforeStart hbefore).1, ShutdownStage.order] at hgoing
  executing _ hno := by
    simp only at hno
    rw [hno, ShutdownStage.order] at hstage
    omega
  leaving _ _ hno := by
    simp only at hno
    rw [hno, ShutdownStage.order] at hstage
    omega
  returned code hreturned := by
    have horder := h.returned code hreturned
    have hle := stage.order_le
    omega

theorem Sound.proceed (h : Sound c a) (nested : List (ProcessSignal Empty)) :
    Sound c (a.proceed c handlers nested) := by
  unfold Application.proceed
  have hbegun (hno : a.shutdown ≠ .no) : a.main ≠ .beforeStart := fun hbefore =>
    hno (h.beforeStart hbefore).1
  split
  · exact h
  · exact h
  · rename_i hshutdown
    split
    · exact h.beginShutdown (hbegun (by simp [hshutdown])) 0
    · exact h
  · rename_i exitCode hshutdown
    have hstopping := h.stopping_of_order (by simp [hshutdown, ShutdownStage.order])
    have hsource := sourceSound_of_stopping
      (a := { a with source := (a.source.step handlers .storeNotRunning).1 }) hstopping
      (by simp only [SourceThreads.step]; split <;> exact h.source.stopRequested.trans hstopping)
      (by simp only [SourceThreads.step]; split <;> exact h.source.inside)
    have hstored : Sound c { a with source := (a.source.step handlers .storeNotRunning).1 } :=
      { h with source := hsource }
    refine hstored.next ?_ ?_ ?_ ?_ ?_ ?_ <;> simp [hshutdown, ShutdownStage.order]
  · rename_i exitCode hshutdown
    have hstopped : Sound c { a with client := a.client.stop } :=
      { h with
        wellFormed := h.wellFormed.stop
        source := { h.source with }
        clientStopped := fun _ => rfl }
    refine hstopped.next ?_ ?_ (fun _ => rfl) ?_ ?_ ?_ <;> simp [hshutdown, ShutdownStage.order]
  · rename_i exitCode hshutdown
    split
    · rename_i hended
      refine h.next ?_ ?_ ?_ (fun _ => hended) ?_ ?_ <;> simp [hshutdown, ShutdownStage.order]
    · exact h
  · rename_i exitCode hshutdown
    have hsame : (a.supervise c (.stop nested)).shutdown = a.shutdown := by
      obtain ⟨client, session, -, heq⟩ := supervise_eq c (.stop nested) a
      rw [heq]
    refine (h.supervise (.stop nested)).next ?_ ?_ ?_ ?_ (fun _ => ?_) ?_
    · simp [hsame, hshutdown, ShutdownStage.order]
    · simp [hsame, hshutdown, ShutdownStage.order]
    · simp [ShutdownStage.order]
    · simp [ShutdownStage.order]
    · exact Supervision.handle_stopRequested (.stop nested) h.settled (.inr ⟨nested, rfl⟩)
    · simp [ShutdownStage.order]
  · rename_i exitCode hshutdown
    split
    · rename_i hended
      refine h.next ?_ ?_ ?_ ?_ ?_ (fun _ => hended) <;> simp [hshutdown, ShutdownStage.order]
    · exact h

theorem Sound.mainReturns (h : Sound c a) : Sound c a.mainReturns := by
  unfold Application.mainReturns
  split
  · rename_i exitCode hmain hshutdown
    exact { h with
      source := { h.source with }
      beforeStart := fun hbefore => by cases hbefore
      executing := fun hexecuting => by cases hexecuting
      leaving := fun _ hleaving => by cases hleaving
      returned := fun _ _ => by simp [hshutdown, ShutdownStage.order] }
  · rename_i exitCode _ hmain hshutdown
    exact { h with
      source := { h.source with }
      beforeStart := fun hbefore => by cases hbefore
      executing := fun hexecuting => by cases hexecuting
      leaving := fun _ hleaving => by cases hleaving
      returned := fun _ _ => by simp [hshutdown, ShutdownStage.order] }
  · exact h

theorem Sound.thread (h : Sound c a) (action : ThreadAction) : Sound c (a.thread c action) := by
  obtain ⟨failures, heq⟩ := thread_eq c action a
  have hwellFormed := AsyncAiClient.step_wellFormed h.wellFormed action.toAction
  have hstop := (ApplicationController.thread_client c.client a.client action).1
  rw [heq]
  exact { h with
    wellFormed := hwellFormed
    source := { h.source with
      ended := fun hended hgoing => List.mem_append_left _ (h.source.ended hended hgoing) }
    clientStopped := fun horder => hstop.trans (h.clientStopped horder)
    workerEnded := fun horder => by
      have hended := h.workerEnded horder
      simp only [Application.workerEnded, decide_eq_true_eq] at hended ⊢
      rw [thread_ended hended action]
      exact hended }

/-- The capture thread goes on outside of `loop`. -/
theorem Sound.captureGoes (h : Sound c a) (hrunning : a.captureEnded = false)
    {capture : CaptureStage} {posted : List PostedCall}
    (hinside : a.source.phase ≠ .outside → capture = .looping)
    (hsucceeds : capture.succeeds = true → a.stopping = true)
    (hended : capture = .ended → a.stopping = false → .captureResult false ∈ posted) :
    Sound c { a with capture, posted } :=
  { h with
    source := { h.source with inside := hinside, succeeds := hsucceeds, ended := hended }
    captureEnded := fun horder => by simp [h.captureEnded horder] at hrunning
    beforeStart := fun hbefore => by
      simp [Application.captureEnded, (h.beforeStart hbefore).2] at hrunning }

theorem Sound.captureCall (h : Sound c a) (ok : Bool) : Sound c (a.captureCall ok) := by
  have houtside (hcapture : a.capture ≠ .looping) : a.source.phase = .outside := by
    by_contra hinside
    exact hcapture (h.source.inside hinside)
  unfold Application.captureCall
  cases hcapture : a.capture with
  | absent => exact h
  | looping => exact h
  | ended => exact h
  | opening =>
    refine h.captureGoes (by simp [Application.captureEnded, hcapture])
      (fun hinside => absurd (houtside (by simp [hcapture])) hinside) ?_ ?_ <;>
      cases ok <;> simp [CaptureStage.succeeds]
  | installing =>
    refine h.captureGoes (by simp [Application.captureEnded, hcapture])
      (fun hinside => absurd (houtside (by simp [hcapture])) hinside) ?_ ?_ <;>
      cases ok <;> simp [CaptureStage.succeeds]
  | uninstalling loopOk =>
    refine h.captureGoes (by simp [Application.captureEnded, hcapture])
      (fun hinside => absurd (houtside (by simp [hcapture])) hinside) (fun hsucceeds => ?_) (by simp)
    simp only [CaptureStage.succeeds, Bool.and_eq_true] at hsucceeds
    exact h.source.succeeds (by rw [hcapture]; exact hsucceeds.1)
  | closing before =>
    refine h.captureGoes (by simp [Application.captureEnded, hcapture])
      (fun hinside => absurd (houtside (by simp [hcapture])) hinside) (fun hsucceeds => ?_) (by simp)
    simp only [CaptureStage.succeeds, Bool.and_eq_true] at hsucceeds
    exact h.source.succeeds (by rw [hcapture]; exact hsucceeds.1)
  | posting result =>
    refine h.captureGoes (by simp [Application.captureEnded, hcapture])
      (fun hinside => absurd (houtside (by simp [hcapture])) hinside)
      (by simp [CaptureStage.succeeds]) (fun _ hgoing => ?_)
    cases result with
    | true =>
      have hstopping := h.source.succeeds (by rw [hcapture]; rfl)
      rw [hgoing] at hstopping
      cases hstopping
    | false => exact List.mem_append_right _ List.mem_cons_self

/-- What a step of the capture thread in `loop` does, when a stop is asked for as `stopping`
says. -/
theorem loopStep_facts (handlers : SourceHandlers H X Y) (step : LoopStep X Y)
    {s : SourceThreads H} {stopping : Bool} (hstop : s.stopRequested = stopping)
    (hrunning : s.phase ≠ .outside → s.running = false → stopping = true)
    (hleaving : s.phase = .leaving true → stopping = true) :
    let x := s.step handlers step.toThreadStep
    x.1.stopRequested = stopping ∧
      (x.1.phase ≠ .outside → x.1.running = false → stopping = true) ∧
      (x.1.phase = .leaving true → stopping = true) ∧
      ∀ ok, x.2.returned = some ok → x.1.phase = .outside ∧ (ok = true → stopping = true) := by
  obtain ⟨running, stopRequested, stopsHalfway, phase, loop⟩ := s
  obtain rfl := hstop
  dsimp only at hrunning hleaving
  cases step with
  | enter cleanup enobufs =>
    cases phase <;> simp_all [LoopStep.toThreadStep, SourceThreads.step, SourceThreads.enter]
  | test =>
    cases phase <;> cases running <;> cases stopRequested <;>
      simp_all [LoopStep.toThreadStep, SourceThreads.step, SourceThreads.test]
  | turn t =>
    cases phase with
    | receiving =>
      simp only [LoopStep.toThreadStep, SourceThreads.step, SourceThreads.turn]
      cases (PacketSource.turn handlers loop t).2.2 <;> simp_all
    | _ => simp_all [LoopStep.toThreadStep, SourceThreads.step, SourceThreads.turn]
  | leave =>
    cases phase <;> simp_all [LoopStep.toThreadStep, SourceThreads.step, SourceThreads.leave]

theorem Sound.loop (h : Sound c a) (step : LoopStep X Y) : Sound c (a.loop handlers step) := by
  unfold Application.loop
  split
  · exact h
  · rename_i hcapture
    obtain ⟨hstop, hrunning, hleaving, hreturned⟩ := loopStep_facts handlers step
      h.source.stopRequested h.source.running h.source.leaving
    have hsource : Sound c { a with source := (a.source.step handlers step.toThreadStep).1 } :=
      { h with
        source := { h.source with
          stopRequested := hstop
          inside := fun _ => not_not.mp hcapture
          running := hrunning
          leaving := hleaving } }
    dsimp only
    split
    · rename_i ok hok
      obtain ⟨houtside, hsucceeds⟩ := hreturned ok hok
      refine hsource.captureGoes (by simp [Application.captureEnded, not_not.mp hcapture])
        (fun hinside => absurd houtside hinside) hsucceeds (by simp)
    · exact hsource

theorem main_of_free (hfree : a.free = true) : a.main = .executing := by
  unfold free at hfree
  split at hfree
  · assumption
  · assumption
  · cases hfree

theorem Sound.whenFree (h : Sound c a) {f : Application H → Application H × Option Int}
    (hf : a.main = .executing → Sound c (f a).1) : Sound c (a.whenFree f).1 := by
  unfold Application.whenFree
  split
  · exact hf (main_of_free ‹_›)
  · exact h

/-- **What holds between two steps holds behind the next one.** -/
theorem Sound.step (h : Sound c a) (event : ApplicationEvent X Y) :
    Sound c (a.step c handlers number event).1 := by
  have hstarted (hmain : a.main = .executing) : a.main ≠ .beforeStart := by simp [hmain]
  cases event with
  | launch threadStarts env nested => exact h.launch threadStarts env nested
  | slot slot => exact h.whenFree fun _ => h.supervise slot.toEvent
  | deliver nested => exact h.whenFree fun hmain => h.deliver (hstarted hmain) nested
  | exitAction => exact h.whenFree fun hmain => h.beginShutdown (hstarted hmain) 0
  | signal => exact { h with source := { h.source with } }
  | signalTimer =>
    refine h.whenFree fun hmain => ?_
    split
    · exact h.beginShutdown (hstarted hmain) 0
    · exact h
  | loopEnds exitCode =>
    simp only [Application.step]
    split
    · rename_i hfree
      have hstopping : a.stopping ≠ true := by simp_all
      unfold Application.beginShutdown
      rw [if_neg hstopping]
      exact h.begin MainStage.noConfusion (fun _ => MainStage.noConfusion) exitCode _ _
    · exact h
  | proceed nested => exact h.proceed nested
  | mainReturns => exact h.mainReturns
  | thread action => exact h.thread action
  | capture ok => exact h.captureCall ok
  | loop step => exact h.loop step
  | aiBlock event =>
    simp only [Application.step]
    split
    · rename_i hcapture
      exact { h with
        source := { h.source with ended := fun hended => by simp [hcapture] at hended } }
    · exact h

/-- **Every run is sound.** -/
theorem sound_run (c : ApplicationParams) (handlers : SourceHandlers H X Y)
    (number : Float → String) (h : H) (available : Bool) (events : List (ApplicationEvent X Y)) :
    Sound c (exec (Application.step c handlers number) (initial h available) events) :=
  exec_invariant (P := fun _ _ => True) (Sound c) (fun _ event h _ => h.step event)
    (initial_sound c h available) (along_true _ _)

end Application

end InlineIps
