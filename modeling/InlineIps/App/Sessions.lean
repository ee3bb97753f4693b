import InlineIps.App.ApplicationController
import Mathlib.Data.List.Basic

/-!
# The sessions of the AI client

* `Linked`, `Notified`: the client is online only in the session of an `ONLINE` supervisor,
  and an `ONLINE` supervisor whose client is offline has a failure message on its way.
* `coupled`: this holds between any two handlers.
* `newer_session_stays_iff`: a failure message ends every session it finds, also a newer one.
-/

namespace InlineIps

open AsyncAiClient

namespace ApplicationController

variable {c : ApplicationParams} {a : ApplicationController} {s s' : AiProcessSupervisor}
  {asked : Prop}

/-- The message about the end of a connection is on its way to the Qt thread. -/
def Pending (a : ApplicationController) (generation : Nat) : Prop :=
  (∃ failure ∈ a.posted, failure.generation = generation) ∨
    (∃ reason, a.client.worker = .countingTimeout reason generation) ∨
    ∃ reason, a.client.worker = .notifying reason generation

/-- The client is online only in the session of the supervisor. -/
structure Linked (c : ApplicationParams) (a : ApplicationController) : Prop where
  settled : Settled c.supervisor a.supervisor
  wellFormed : WellFormed c.client a.client
  notStarted : NotStarted a.client
  state : a.client.online = true → a.supervisor.state = .online
  endpoint : a.client.online = true → a.client.endpoint = c.endpoint
  modelVersion : a.client.online = true → a.client.modelVersion = a.supervisor.modelVersion
  session : a.client.online = true → a.client.connectionGeneration = a.session
  stopped : a.client.stopRequested = true → a.stopping = true

/-- An `ONLINE` supervisor with an offline client will be told. -/
def Notified (a : ApplicationController) : Prop :=
  a.supervisor.state = .online → a.client.online = false → a.stopping = false →
    a.Pending a.session

/-! ## Handlers of the supervisor -/

theorem callback_supervisor (a : ApplicationController) (s : AiProcessSupervisor)
    (effect : SupervisorEffect) :
    callback { a with supervisor := s } effect = { callback a effect with supervisor := s } := by
  cases effect with
  | stateChanged state detail => cases state <;> rfl
  | _ => rfl

theorem foldl_callback_supervisor (effects : List SupervisorEffect) (a : ApplicationController)
    (s : AiProcessSupervisor) :
    effects.foldl callback { a with supervisor := s } =
      { effects.foldl callback a with supervisor := s } := by
  induction effects generalizing a with
  | nil => rfl
  | cons effect effects ih => rw [List.foldl_cons, callback_supervisor, ih, List.foldl_cons]

/-- With the client offline only the supervisor matters. -/
theorem Linked.setOffline (h : Linked c a) (hs : Settled c.supervisor s) :
    Linked c { a with client := a.client.setOffline, supervisor := s } where
  settled := hs
  wellFormed := h.wellFormed.setOffline
  notStarted := step_notStarted c.client h.notStarted .setOffline
  state honline := by cases honline
  endpoint honline := by cases honline
  modelVersion honline := by cases honline
  session honline := by cases honline
  stopped := h.stopped

theorem Linked.move (h : Linked c a) {effects : List SupervisorEffect}
    (hmove : SupervisorMove c.supervisor asked a.supervisor s' effects) :
    Linked c { effects.foldl callback a with supervisor := s' } := by
  have hs := hmove.settled h.settled
  cases hmove with
  | pass running buffer hrunning => exact { h with settled := hs }
  | disable detail hstop hdisabled => exact h.setOffline hs
  | begin running hstop hidle henabled => exact h.setOffline hs
  | retry running detail hstate hstop => exact h.setOffline hs
  | call version error hstate => exact error.elim
  | online version detail hstate hversion =>
    cases hstop : a.client.stopRequested with
    | true =>
      have hsame : a.client.setOnline c.supervisor.endpoint version = a.client := by
        simp [AsyncAiClient.setOnline, hstop]
      have hoffline := h.wellFormed.stopped hstop
      simp only [List.foldl_cons, List.foldl_nil, callback, hsame, if_true]
      exact {
        settled := hs
        wellFormed := h.wellFormed
        notStarted := h.notStarted
        state := fun _ => rfl
        endpoint := fun honline => by simp [hoffline] at honline
        modelVersion := fun honline => by simp [hoffline] at honline
        session := fun _ => rfl
        stopped := h.stopped }
    | false =>
      have hnext : a.client.setOnline c.supervisor.endpoint version = { a.client with
          endpoint := c.endpoint
          modelVersion := version
          connectionGeneration := a.client.connectionGeneration + 1
          pendingFlows := []
          pendingDecisions := []
          online := true } := by
        simp [AsyncAiClient.setOnline, hstop]
        rfl
      have hwellFormed := h.wellFormed.setOnline c.supervisor.endpoint version
      have hnotStarted :=
        step_notStarted c.client h.notStarted (.setOnline c.supervisor.endpoint version)
      simp only [AsyncAiClient.step] at hnotStarted
      rw [hnext] at hwellFormed hnotStarted
      simp only [List.foldl_cons, List.foldl_nil, callback, hnext, if_true]
      exact {
        settled := hs
        wellFormed := hwellFormed
        notStarted := hnotStarted
        state := fun _ => rfl
        endpoint := fun _ => rfl
        modelVersion := fun _ => rfl
        session := fun _ => rfl
        stopped := h.stopped }
  | retryLater reason running buffer hstate hbudget => exact h.setOffline hs
  | giveUp reason detail running buffer hstate hbudget => exact h.setOffline hs
  | stable hstate => exact { h with settled := hs }
  | stop running buffer detail hasked hstop => exact h.setOffline hs

theorem Notified.move (h : Notified a) (hlinked : Linked c a) {effects : List SupervisorEffect}
    (hmove : SupervisorMove c.supervisor asked a.supervisor s' effects) :
    Notified { effects.foldl callback a with supervisor := s' } := by
  cases hmove with
  | pass running buffer hrunning => exact h
  | call version error hstate => exact error.elim
  | online version detail hstate hversion =>
    intro _ hoffline hgo
    cases hstop : a.client.stopRequested with
    | true =>
      have hstopping := hlinked.stopped hstop
      simp only [List.foldl_cons, List.foldl_nil, callback, if_true] at hgo
      rw [hstopping] at hgo
      cases hgo
    | false => simp [callback, AsyncAiClient.setOnline, hstop] at hoffline
  | stable hstate => exact h
  | _ =>
    intro hstate
    simp [AiProcessSupervisor.attempted, AiProcessSupervisor.failed] at hstate

theorem supervise_coupled (h : Linked c a) (event : SupervisorEvent Empty) :
    Linked c (a.supervise (Supervision.handle c.supervisor event)) ∧
      (Notified a → Notified (a.supervise (Supervision.handle c.supervisor event))) := by
  unfold supervise
  have hmoves := Supervision.handle_moves (x := ⟨a.supervisor, []⟩) event h.settled
  generalize Supervision.handle c.supervisor event ⟨a.supervisor, []⟩ = x at hmoves
  induction hmoves with
  | refl => exact ⟨h, id⟩
  | tail hxy hyz ih =>
    obtain ⟨effects, hmove, heffects⟩ := hyz
    obtain ⟨hlinked, hnotified⟩ := ih
    have hnext := hlinked.move hmove
    have hnext' := fun hn => (hnotified hn).move hlinked hmove
    rw [foldl_callback_supervisor, ← List.foldl_append, ← heffects] at hnext
    simp only [foldl_callback_supervisor] at hnext'
    rw [← List.foldl_append, ← heffects] at hnext'
    exact ⟨hnext, hnext'⟩

/-- A report ends the session it finds. -/
theorem supervise_report_leaves (reason : String) (nested : List (ProcessSignal Empty))
    (h : Linked c a) (hstate : a.supervisor.state = .online) :
    (a.supervise (Supervision.handle c.supervisor
      (.reportTransportFailure reason nested))).supervisor.state ≠ .online := by
  obtain ⟨running, buffer, heq⟩ := Supervision.reportTransportFailure_fails
    (x := ⟨a.supervisor, []⟩) reason nested h.settled hstate
  simp only [supervise, Supervision.handle, heq]
  rcases Supervision.afterFailure_state (c := c.supervisor) reason running buffer
    ⟨a.supervisor, []⟩ with hnext | hnext <;> simp [hnext]

theorem supervise_report_of_not_online (reason : String) (nested : List (ProcessSignal Empty))
    (hstate : a.supervisor.state ≠ .online) :
    a.supervise (Supervision.handle c.supervisor (.reportTransportFailure reason nested)) = a := by
  simp [supervise, Supervision.handle, Supervision.reportTransportFailure, hstate]

/-! ## The end and the start of the application -/

/-- A client that is stopped with the application is linked and needs no message. -/
theorem Linked.stop (h : Linked c a) :
    Linked c { a with stopping := true, client := a.client.stop } where
  settled := h.settled
  wellFormed := h.wellFormed.stop
  notStarted := step_notStarted c.client h.notStarted .stop
  state honline := by cases honline
  endpoint honline := by cases honline
  modelVersion honline := by cases honline
  session honline := by cases honline
  stopped _ := rfl

theorem beginShutdown_coupled (nested : List (ProcessSignal Empty)) (h : Linked c a)
    (hn : Notified a) :
    Linked c (a.beginShutdown c nested) ∧ Notified (a.beginShutdown c nested) := by
  unfold beginShutdown
  split
  · exact ⟨h, hn⟩
  · obtain ⟨hlinked, hnotified⟩ := supervise_coupled h.stop (.stop nested)
    exact ⟨hlinked, hnotified fun _ _ hgo => by cases hgo⟩

theorem start_online (client : AsyncAiClient (List UInt8)) :
    client.start.online = client.online := by
  unfold AsyncAiClient.start
  split <;> rfl

theorem start_pending (hnotStarted : NotStarted a.client) {generation : Nat}
    (h : a.Pending generation) : { a with client := a.client.start }.Pending generation := by
  unfold AsyncAiClient.start
  split
  · exact h
  · rename_i hno
    simp only [Bool.or_eq_true, not_or, Bool.not_eq_true] at hno
    have habsent := hnotStarted hno.1 hno.2
    refine h.imp_right fun hworker => ?_
    rcases hworker with ⟨reason, hworker⟩ | ⟨reason, hworker⟩ <;>
      rw [habsent] at hworker <;> cases hworker

theorem Linked.start (h : Linked c a) :
    Linked c { a with started := true, client := a.client.start } := by
  have hnotStarted := step_notStarted c.client h.notStarted .start
  simp only [AsyncAiClient.step] at hnotStarted
  have hsame : ∃ started worker,
      a.client.start = { a.client with started := started, worker := worker } := by
    unfold AsyncAiClient.start
    split
    · exact ⟨_, _, rfl⟩
    · exact ⟨_, _, rfl⟩
  have hwellFormed := h.wellFormed.start
  obtain ⟨started, worker, hclient⟩ := hsame
  rw [hclient] at hwellFormed hnotStarted ⊢
  exact { h with wellFormed := hwellFormed, notStarted := hnotStarted }

theorem launch_coupled (threadStarts : Bool) (env : AttemptEnv)
    (nested : List (ProcessSignal Empty)) (h : Linked c a) (hn : Notified a) :
    Linked c (a.launch c threadStarts env nested) ∧
      Notified (a.launch c threadStarts env nested) := by
  unfold launch
  split
  · exact ⟨h, hn⟩
  · rename_i hfirst
    unfold start
    rw [if_neg hfirst]
    simp only [Bool.or_eq_true, not_or, Bool.not_eq_true] at hfirst
    cases threadStarts with
    | true =>
      obtain ⟨hlinked, hnotified⟩ := supervise_coupled h.start (.start env nested)
      refine ⟨hlinked, hnotified fun hstate hoffline hgo => ?_⟩
      exact start_pending h.notStarted (hn hstate ((start_online a.client).symm.trans hoffline) hgo)
    | false =>
      -- the client is stopped, and the shutdown stops it again
      have hstopped : Linked c { a with
          started := false
          stopping := true
          client := a.client.start.stop.stop } := { h.start.stop.stop with }
      simp only [Bool.not_false, if_true, beginShutdown, hfirst.2, Bool.false_eq_true, if_false]
      obtain ⟨hlinked, hnotified⟩ := supervise_coupled hstopped (.stop nested)
      exact ⟨hlinked, hnotified fun _ _ hgo => by cases hgo⟩

/-! ## The posted calls -/

/-- A message that is delivered before the shutdown leaves no session. -/
theorem deliverPosted_online (nested : List (ProcessSignal Empty)) (h : Linked c a)
    {failure : PostedFailure} {rest : List PostedFailure} (hposted : a.posted = failure :: rest) :
    (a.deliverPosted c nested).supervisor.state = .online ↔
      a.supervisor.state = .online ∧ a.stopping = true := by
  have hrest : Linked c { a with posted := rest } := { h with }
  unfold deliverPosted
  simp only [hposted]
  by_cases hgo : a.stopping = true
  · simp [hgo]
  · rw [if_neg hgo]
    refine iff_of_false (fun hstate => ?_) fun hboth => hgo hboth.2
    by_cases honline : a.supervisor.state = .online
    · exact supervise_report_leaves failure.reason nested hrest honline hstate
    · rw [supervise_report_of_not_online (a := { a with posted := rest }) failure.reason nested
        honline] at hstate
      exact honline hstate

theorem deliverPosted_coupled (nested : List (ProcessSignal Empty)) (h : Linked c a)
    (hn : Notified a) :
    Linked c (a.deliverPosted c nested) ∧ Notified (a.deliverPosted c nested) := by
  cases hposted : a.posted with
  | nil =>
    unfold deliverPosted
    simp only [hposted]
    exact ⟨h, hn⟩
  | cons failure rest =>
    have hrest : Linked c { a with posted := rest } := { h with }
    have hstate := deliverPosted_online nested h hposted
    unfold deliverPosted at hstate ⊢
    simp only [hposted] at hstate ⊢
    by_cases hgo : a.stopping = true
    · rw [if_pos hgo]
      exact ⟨hrest, fun _ _ hno => by simp [hgo] at hno⟩
    · rw [if_neg hgo] at hstate ⊢
      exact ⟨(supervise_coupled hrest _).1, fun honline => absurd (hstate.mp honline).2 hgo⟩

/-! ## The other threads -/

/-- Without the Qt thread the client stays in its connection or leaves it. -/
theorem thread_client (c : AiClientParams (List UInt8)) (client : AsyncAiClient (List UInt8))
    (action : ThreadAction) :
    let client' := (AsyncAiClient.step c client action.toAction).1
    client'.stopRequested = client.stopRequested ∧
      (client'.online = true → client.online = true ∧ client'.endpoint = client.endpoint ∧
        client'.modelVersion = client.modelVersion ∧
        client'.connectionGeneration = client.connectionGeneration) := by
  cases action with
  | consume record =>
    simp only [ThreadAction.toAction, AsyncAiClient.step]
    rcases consume_cases c.queueCapacity client record with heq | heq | heq <;> rw [heq] <;>
      exact ⟨rfl, fun honline => ⟨honline, rfl, rfl, rfl⟩⟩
  | drainDecisions => exact ⟨rfl, fun honline => ⟨honline, rfl, rfl, rfl⟩⟩
  | exchange outcome =>
    simp only [ThreadAction.toAction, AsyncAiClient.step, AsyncAiClient.exchange]
    split <;> exact ⟨rfl, fun honline => ⟨honline, rfl, rfl, rfl⟩⟩
  | worker =>
    have hmove := workerStep_move c client
    simp only [ThreadAction.toAction, AsyncAiClient.step]
    generalize (client.workerStep c).1 = client', (client.workerStep c).2 = output at hmove ⊢
    cases hmove with
    | fail job w hjob hheld => exact ⟨rfl, fun honline => by cases honline⟩
    | _ => exact ⟨rfl, fun honline => ⟨honline, rfl, rfl, rfl⟩⟩

theorem thread_eq (c : ApplicationParams) (action : ThreadAction) (a : ApplicationController) :
    ∃ more, a.thread c action = { a with
      client := (AsyncAiClient.step c.client a.client action.toAction).1
      posted := a.posted ++ more } := by
  unfold thread
  split
  rename_i client output hstep
  rw [hstep]
  split
  · exact ⟨_, rfl⟩
  · exact ⟨[], by simp⟩

theorem Linked.thread (h : Linked c a) (action : ThreadAction) : Linked c (a.thread c action) := by
  obtain ⟨more, heq⟩ := thread_eq c action a
  have hclient := thread_client c.client a.client action
  have hwellFormed := step_wellFormed h.wellFormed action.toAction
  have hnotStarted := step_notStarted c.client h.notStarted action.toAction
  rw [heq]
  generalize (AsyncAiClient.step c.client a.client action.toAction).1 = client at *
  exact {
    settled := h.settled
    wellFormed := hwellFormed
    notStarted := hnotStarted
    state := fun honline => h.state (hclient.2 honline).1
    endpoint := fun honline => (hclient.2 honline).2.1.trans (h.endpoint (hclient.2 honline).1)
    modelVersion := fun honline =>
      (hclient.2 honline).2.2.1.trans (h.modelVersion (hclient.2 honline).1)
    session := fun honline => (hclient.2 honline).2.2.2.trans (h.session (hclient.2 honline).1)
    stopped := fun hstop => h.stopped (hclient.1.symm.trans hstop) }

/-- Only its own step moves a worker that waits for no reply. -/
theorem thread_worker (c : ApplicationParams) {a : ApplicationController}
    (hjob : a.client.worker.job? = none) (action : ThreadAction) :
    action = .worker ∨ (a.thread c action).client.worker = a.client.worker := by
  obtain ⟨more, heq⟩ := thread_eq c action a
  rw [heq]
  cases action with
  | consume record =>
    right
    simp only [ThreadAction.toAction, AsyncAiClient.step]
    rcases consume_cases c.client.queueCapacity a.client record with heq | heq | heq <;> rw [heq]
  | drainDecisions => exact .inr rfl
  | exchange outcome =>
    right
    simp only [ThreadAction.toAction, AsyncAiClient.step, AsyncAiClient.exchange]
    split
    · rename_i job hworker
      rw [hworker] at hjob
      cases hjob
    · rfl
  | worker => exact .inl rfl

/-- A message on its way stays on its way until it is delivered. -/
theorem Pending.thread {generation : Nat} (h : a.Pending generation) (action : ThreadAction) :
    (a.thread c action).Pending generation := by
  rcases h with ⟨failure, hmem, hgeneration⟩ | ⟨reason, hworker⟩ | ⟨reason, hworker⟩
  · obtain ⟨more, heq⟩ := thread_eq c action a
    rw [heq]
    exact .inl ⟨failure, List.mem_append_left _ hmem, hgeneration⟩
  · rcases thread_worker c (by rw [hworker]; rfl) action with rfl | hsame
    · exact .inr (.inr ⟨reason, by simp [ApplicationController.thread, ThreadAction.toAction,
        AsyncAiClient.step, workerStep, hworker]⟩)
    · exact .inr (.inl ⟨reason, hsame.trans hworker⟩)
  · rcases thread_worker c (by rw [hworker]; rfl) action with rfl | hsame
    · refine .inl ⟨⟨reason, generation⟩, ?_, rfl⟩
      simp [ApplicationController.thread, ThreadAction.toAction, AsyncAiClient.step, workerStep,
        hworker, ApplicationParams.client]
    · exact .inr (.inr ⟨reason, hsame.trans hworker⟩)

/-- The step that takes the client offline is that of `fail_transport`, which goes on to the
failure handler with the generation of the connection. -/
theorem workerStep_fails (c : AiClientParams (List UInt8)) {client : AsyncAiClient (List UInt8)}
    (honline : client.online = true) (hoffline : (client.workerStep c).1.online = false) :
    ∃ reason, (client.workerStep c).1.worker = .countingTimeout reason client.connectionGeneration ∨
      (client.workerStep c).1.worker = .notifying reason client.connectionGeneration := by
  cases hworker : client.worker with
  | failing job reason timedOut =>
    simp only [workerStep, hworker, failTransport] at hoffline ⊢
    split at hoffline
    · simp [honline] at hoffline
    · rename_i hcurrent
      simp only [hcurrent]
      simp only [isCurrent, honline, Bool.true_and, Bool.not_eq_true', Bool.not_eq_false,
        beq_iff_eq] at hcurrent
      rw [hcurrent]
      cases timedOut with
      | true => exact ⟨reason, .inl rfl⟩
      | false => exact ⟨reason, .inr rfl⟩
  | waiting =>
    simp only [workerStep, hworker, takeRecord] at hoffline
    split at hoffline
    · simp [honline] at hoffline
    · split at hoffline <;> simp [honline] at hoffline
  | recording job =>
    simp only [workerStep, hworker] at hoffline
    split at hoffline <;> simp [honline] at hoffline
  | offering job decision =>
    simp only [workerStep, hworker, offer] at hoffline
    split at hoffline
    · simp [honline] at hoffline
    · split at hoffline <;> simp [honline] at hoffline
  | _ => simp [workerStep, hworker, honline] at hoffline

theorem Notified.thread (h : Linked c a) (hn : Notified a) (action : ThreadAction) :
    Notified (a.thread c action) := by
  obtain ⟨more, heq⟩ := thread_eq c action a
  intro hstate hoffline hgo
  rw [heq] at hstate hoffline hgo
  have hsession : (a.thread c action).session = a.session := by rw [heq]
  rw [hsession]
  cases honline : a.client.online with
  | false => exact (hn hstate honline hgo).thread action
  | true =>
    rw [← h.session honline]
    cases action with
    | worker =>
      obtain ⟨reason, hworker⟩ := workerStep_fails c.client honline hoffline
      rw [heq]
      exact .inr (hworker.imp (⟨reason, ·⟩) (⟨reason, ·⟩))
    | consume record =>
      simp only [ThreadAction.toAction, AsyncAiClient.step] at hoffline
      rcases consume_cases c.client.queueCapacity a.client record with heq | heq | heq <;>
        rw [heq] at hoffline <;> simp [honline] at hoffline
    | drainDecisions =>
      simp [ThreadAction.toAction, AsyncAiClient.step, AsyncAiClient.drainDecisions, honline]
        at hoffline
    | exchange outcome =>
      simp only [ThreadAction.toAction, AsyncAiClient.step, AsyncAiClient.exchange] at hoffline
      split at hoffline <;> simp [honline] at hoffline

/-! ## Runs -/

theorem run_snoc (c : ApplicationParams) (events : List ControllerEvent) (event : ControllerEvent) :
    run c (events ++ [event]) = (run c events).step c event := by
  simp [run]

theorem run_coupled (c : ApplicationParams) (events : List ControllerEvent) :
    Linked c (run c events) ∧ Notified (run c events) := by
  induction events using List.reverseRecOn with
  | nil =>
    refine ⟨?_, fun hstate => by cases hstate⟩
    exact {
      settled := initial_settled c.supervisor
      wellFormed := initial_wellFormed c.client
      notStarted := fun _ _ => rfl
      state := fun honline => by cases honline
      endpoint := fun honline => by cases honline
      modelVersion := fun honline => by cases honline
      session := fun honline => by cases honline
      stopped := fun hstop => by cases hstop }
  | append_singleton events event ih =>
    obtain ⟨hlinked, hnotified⟩ := ih
    rw [run_snoc]
    cases event with
    | start threadStarts env nested => exact launch_coupled threadStarts env nested hlinked hnotified
    | supervisor event =>
      exact (supervise_coupled hlinked event).imp_right fun h => h hnotified
    | deliver nested => exact deliverPosted_coupled nested hlinked hnotified
    | beginShutdown nested => exact beginShutdown_coupled nested hlinked hnotified
    | thread action => exact ⟨hlinked.thread action, hnotified.thread hlinked action⟩

/-! ## The shutdown -/

/-- The shutdown has stopped the supervisor. -/
def Halted (a : ApplicationController) : Prop :=
  a.stopping = true → a.supervisor.stopRequested = true

theorem supervise_halted (hs : Settled c.supervisor a.supervisor) (event : SupervisorEvent Empty)
    (h : a.stopping = true → a.supervisor.stopRequested = true ∨ ∃ nested, event = .stop nested) :
    Halted (a.supervise (Supervision.handle c.supervisor event)) := by
  have hstopping (effects : List SupervisorEffect) (a : ApplicationController) :
      (effects.foldl callback a).stopping = a.stopping := by
    induction effects generalizing a with
    | nil => rfl
    | cons effect effects ih =>
      rw [List.foldl_cons, ih]
      cases effect with
      | stateChanged state detail => cases state <;> rfl
      | _ => rfl
  intro hgo
  refine Supervision.handle_stopRequested event hs (h ?_)
  rwa [supervise, hstopping] at hgo

theorem beginShutdown_halted (hs : Settled c.supervisor a.supervisor)
    (nested : List (ProcessSignal Empty)) (h : Halted a) : Halted (a.beginShutdown c nested) := by
  unfold beginShutdown
  split
  · exact h
  · exact supervise_halted (a := { a with stopping := true, client := a.client.stop }) hs _
      fun _ => .inr ⟨nested, rfl⟩

theorem step_halted (hs : Settled c.supervisor a.supervisor) (event : ControllerEvent)
    (h : Halted a) : Halted (a.step c event) := by
  cases event with
  | start threadStarts env nested =>
    simp only [step, launch]
    split
    · exact h
    · rename_i hfirst
      unfold start
      rw [if_neg hfirst]
      cases threadStarts with
      | true =>
        exact supervise_halted (a := { a with started := true, client := a.client.start }) hs _
          fun hgo => .inl (h hgo)
      | false =>
        exact beginShutdown_halted
          (a := { a with started := false, client := a.client.start.stop }) hs nested h
  | supervisor event => exact supervise_halted hs event fun hgo => .inl (h hgo)
  | deliver nested =>
    simp only [step, deliverPosted]
    split
    · exact h
    · rename_i failure rest hposted
      split
      · exact h
      · exact supervise_halted (a := { a with posted := rest }) hs _ fun hgo => .inl (h hgo)
  | beginShutdown nested => exact beginShutdown_halted hs nested h
  | thread action =>
    obtain ⟨more, heq⟩ := thread_eq c action a
    rw [step, heq]
    exact h

theorem run_halted (c : ApplicationParams) (events : List ControllerEvent) :
    Halted (run c events) := by
  induction events using List.reverseRecOn with
  | nil => exact fun hgo => by cases hgo
  | append_singleton events event ih =>
    rw [run_snoc]
    exact step_halted (run_coupled c events).1.settled event ih

/-- **Supervisor and client stay coupled.** Between any two handlers, an online client is in the
session of an `ONLINE` supervisor, and an `ONLINE` supervisor with an offline client has a
message about the end of its session on its way, unless the shutdown has begun. -/
theorem coupled (c : ApplicationParams) (events : List ControllerEvent) :
    let a := run c events
    (a.client.online = true →
      a.supervisor.state = .online ∧ a.client.endpoint = c.endpoint ∧
        a.client.modelVersion = a.supervisor.modelVersion ∧
        a.client.connectionGeneration = a.session) ∧
    (a.supervisor.state = .online → a.client.online = false →
      a.Pending a.session ∨ a.stopping = true) := by
  obtain ⟨hlinked, hnotified⟩ := run_coupled c events
  refine ⟨fun honline => ⟨hlinked.state honline, hlinked.endpoint honline,
    hlinked.modelVersion honline, hlinked.session honline⟩, fun hstate hoffline => ?_⟩
  cases hgo : (run c events).stopping with
  | true => exact .inr rfl
  | false => exact .inl (hnotified hstate hoffline hgo)

/-- **A failure message ends every session it finds.** The message of an earlier connection spares
a newer session exactly when it finds none. -/
theorem newer_session_stays_iff (c : ApplicationParams) (events : List ControllerEvent)
    (nested : List (ProcessSignal Empty)) (failure : PostedFailure) (rest : List PostedFailure)
    (hposted : (run c events).posted = failure :: rest) :
    (failure.generation < (run c events).session → (run c events).supervisor.state = .online →
      (run c (events ++ [.deliver nested])).supervisor.state = .online) ↔
    ((run c events).session ≤ failure.generation ∨ (run c events).supervisor.state ≠ .online) := by
  have hlinked := (run_coupled c events).1
  have hnever : (run c (events ++ [.deliver nested])).supervisor.state ≠ .online := by
    rw [run_snoc]
    simp only [step]
    rw [Ne, deliverPosted_online nested hlinked hposted]
    rintro ⟨hstate, hgo⟩
    have hstopping := hlinked.settled.stopping.mpr (run_halted c events hgo)
    rw [hstate] at hstopping
    cases hstopping
  rw [← Nat.not_lt]
  tauto

/-! The worker waits for a reply in vain, takes the client offline, and is delayed before it counts
the timeout. Meanwhile the process ends and is started again. -/

def delayedParams : ApplicationParams where
  config := {}
  queueCapacity := 1
  endpoint := "ipc:///tmp/ips-with-ai-1.sock"
  parse line :=
    if line = readyText then
      .ok (.object [("event", .string "AI_READY"), ("schema_version", .number (.unsigned 1)),
        ("model_version", .string "ae-v1")])
    else .error (.json "[json.exception.parse_error.101] parse error at line 1, column 1")

def delayedRecord : FlowRecord Float where
  flowId := "1"
  key := ⟨1, 2, 3, 4, 6⟩
  firstSeenMs := 0
  lastSeenMs := 1
  endReason := .timeout
  featureSchemaVersion := 1
  features := Vector.replicate _ 0

def delayedRun : List ControllerEvent := [
  .start true ⟨none, true⟩ [],
  .supervisor (.signal (.readyReadStandardOutput (readyText ++ [10]) none [])),
  .thread (.consume delayedRecord),
  .thread .worker,
  .thread (.exchange .replyTimeout),
  .thread .worker,
  .supervisor (.signal (.finished 1 1 [] none)),
  .supervisor (.restartTimeout ⟨none, true⟩ []),
  .supervisor (.signal (.readyReadStandardOutput (readyText ++ [10]) none [])),
  .thread .worker,
  .thread .worker]

theorem delayedRun_ends :
    (run delayedParams delayedRun).posted = [⟨"AI 응답 시간 초과", 2⟩] ∧
      2 < (run delayedParams delayedRun).session ∧
      (run delayedParams delayedRun).supervisor.state = .online ∧
      (run delayedParams delayedRun).client.online = true ∧
      (run delayedParams (delayedRun ++ [.deliver []])).supervisor.state = .restartWait := by
  decide +kernel

theorem delayedRun_newer_session :
    ¬ (2 < (run delayedParams delayedRun).session →
      (run delayedParams delayedRun).supervisor.state = .online →
      (run delayedParams (delayedRun ++ [.deliver []])).supervisor.state = .online) := fun h => by
  rcases (newer_session_stays_iff delayedParams delayedRun [] ⟨"AI 응답 시간 초과", 2⟩ []
    (by decide +kernel)).mp h with hsession | hstate
  · exact absurd hsession (by decide +kernel)
  · exact absurd hstate (by decide +kernel)

end ApplicationController

end InlineIps
