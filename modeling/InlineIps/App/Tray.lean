import InlineIps.App.Shutdown

/-!
# The tray over a whole run

* `TrayTold`: what holds of the tray between two steps, with the blocks that were posted.
* `tray_truthful`: the icon and the tool tip follow the supervisor until the shutdown, every block
  is shown once and in order, and the end of the AI process at most once.
-/

namespace InlineIps

open Library Library.Machine TrayController

/-! ## The supervisor -/

section Supervisor

variable {c : SupervisorParams Empty} {asked : Prop}

theorem SupervisorMove.stopped {s s' : AiProcessSupervisor} {effects : List SupervisorEffect}
    (hmove : SupervisorMove c asked s s' effects) (hs : Settled c s)
    (hstop : s.stopRequested = true) : effects = [] ∧ s'.stopRequested = true := by
  have hnot (hstate : s.state = .starting ∨ s.state = .online) : False := by
    have hgoing := (hs.running hstate).1
    rw [hstop] at hgoing
    cases hgoing
  cases hmove with
  | pass running buffer hrunning => exact ⟨rfl, hstop⟩
  | disable detail hno hdisabled => simp [hstop] at hno
  | begin running hno hidle henabled => simp [hstop] at hno
  | retry running detail hstate hno => simp [hstop] at hno
  | call version error hstate => exact error.elim
  | online version detail hstate hversion => exact (hnot (.inl hstate)).elim
  | retryLater reason running buffer hstate hbudget => exact (hnot hstate).elim
  | giveUp reason detail running buffer hstate hbudget => exact (hnot hstate).elim
  | stable hstate => exact (hnot (.inr hstate)).elim
  | stop running buffer detail hasked hno => simp [hstop] at hno

/-- A stopped supervisor calls no handler. -/
theorem Supervision.Moves.stopped {x y : Supervision} (hmoves : Moves c asked x y)
    (hx : Settled c x.self) (hstop : x.self.stopRequested = true) :
    y.effects = x.effects ∧ y.self.stopRequested = true := by
  induction hmoves with
  | refl => exact ⟨rfl, hstop⟩
  | tail hxy hyz ih =>
    obtain ⟨heffects, hstopped⟩ := ih
    obtain ⟨effects, hmove, hlast⟩ := hyz
    obtain ⟨rfl, hstopped'⟩ := hmove.stopped (Moves.settled hxy hx) hstopped
    exact ⟨by rw [hlast, List.append_nil, heffects], hstopped'⟩

end Supervisor

theorem SupervisorSlot.toEvent_ne_start (slot : SupervisorSlot) (env : AttemptEnv)
    (nested : List (ProcessSignal Empty)) : slot.toEvent ≠ .start env nested := by
  cases slot <;> simp [SupervisorSlot.toEvent]

/-! ## Posted blocks -/

/-- The block that a posted call shows. -/
def PostedCall.block? : PostedCall → Option (AiBlockEvent Float)
  | .aiBlock event => some event
  | _ => none

namespace Application

variable {H X Y : Type} {c : ApplicationParams} {handlers : SourceHandlers H X Y}
  {number : Float → String} {a a' : Application H} {blocks : List (AiBlockEvent Float)}

/-- The block that a step posts. -/
def postedBlock? (a : Application H) : ApplicationEvent X Y → Option (AiBlockEvent Float)
  | .aiBlock event => if a.capture = .looping then some event else none
  | _ => none

/-- The blocks posted in a run, in order. -/
def blocksPosted (h : List (Taken (Application H) (ApplicationEvent X Y) (Option Int))) :
    List (AiBlockEvent Float) :=
  h.filterMap fun x => x.before.postedBlock? x.event

/-- The messages about the blocks whose calls wait. -/
def blocksWaiting (number : Float → String) (a : Application H) : List TrayMessage :=
  (a.posted.filterMap PostedCall.block?).map (aiBlockMessage number)

/-! ## Between two steps -/

/-- What holds of the tray between two steps, behind the posts of `blocks`. -/
structure TrayTold (number : Float → String) (a : Application H)
    (blocks : List (AiBlockEvent Float)) : Prop where
  available : a.tray.available = true
  beforeStart : a.main = .beforeStart → a.supervisor = {}
  follows : a.started = true → a.stopping = false → Shows a.supervisor a.tray
  stopping : a.stopping = true →
    a.tray.icon = stateColor .stopping ∧ a.tray.toolTip = "IPS - 종료 중"
  offline : OfflineShown a.supervisor a.tray
  shown : a.tray.blocksShown <+: blocks.map (aiBlockMessage number)
  waiting : a.stopping = false →
    a.tray.blocksShown ++ a.blocksWaiting number = blocks.map (aiBlockMessage number)

theorem initial_trayTold (number : Float → String) (h : H) : TrayTold number (initial h true) [] where
  available := rfl
  beforeStart _ := rfl
  follows hstarted := by cases hstarted
  stopping hstopping := by cases hstopping
  offline := {
    before := fun _ _ => ⟨rfl, rfl⟩
    now := fun hoffline => by cases hoffline
    once := Nat.zero_le _ }
  shown := List.prefix_rfl
  waiting _ := rfl

/-- A step of which the tray sees at most a posted block. -/
theorem TrayTold.quiet (h : TrayTold number a blocks) (htray : a'.tray = a.tray)
    (hsupervisor : a'.supervisor = a.supervisor) (hstarted : a'.started = true → a.started = true)
    (hstopping : a'.stopping = a.stopping)
    (hmain : a'.main = .beforeStart → a.main = .beforeStart) {added : List (AiBlockEvent Float)}
    (hposted : a'.posted.filterMap PostedCall.block? =
      a.posted.filterMap PostedCall.block? ++ added) : TrayTold number a' (blocks ++ added) where
  available := htray ▸ h.available
  beforeStart hbefore := hsupervisor.trans (h.beforeStart (hmain hbefore))
  follows hnow hgoing := by
    rw [htray, hsupervisor]
    exact h.follows (hstarted hnow) (hstopping ▸ hgoing)
  stopping hnow := by
    rw [htray]
    exact h.stopping (hstopping ▸ hnow)
  offline := by
    rw [htray, hsupervisor]
    exact h.offline
  shown := by
    rw [htray, List.map_append]
    exact h.shown.trans (List.prefix_append _ _)
  waiting hgoing := by
    have hwaiting := h.waiting (hstopping ▸ hgoing)
    unfold blocksWaiting at hwaiting ⊢
    rw [htray, hposted, List.map_append, ← List.append_assoc, hwaiting, List.map_append]

/-- Nor a posted block. -/
theorem TrayTold.same (h : TrayTold number a blocks) (htray : a'.tray = a.tray)
    (hsupervisor : a'.supervisor = a.supervisor) (hstarted : a'.started = true → a.started = true)
    (hstopping : a'.stopping = a.stopping)
    (hmain : a'.main = .beforeStart → a.main = .beforeStart)
    (hposted : a'.posted.filterMap PostedCall.block? = a.posted.filterMap PostedCall.block?) :
    TrayTold number a' blocks := by
  have hquiet : TrayTold number a' (blocks ++ []) :=
    h.quiet htray hsupervisor hstarted hstopping hmain (by rw [hposted, List.append_nil])
  rwa [List.append_nil] at hquiet

/-- Once the shutdown is begun, the supervisor shows at most that. -/
theorem supervise_stopping {event : SupervisorEvent Empty} (hs : Settled c.supervisor a.supervisor)
    (hstop : a.supervisor.stopRequested = true ∨ ∃ nested, event = .stop nested) :
    (a.supervise c event).tray = a.tray ∨
      (a.supervise c event).tray = a.tray.setAiState .stopping "종료 중" := by
  obtain ⟨client, session, -, heq⟩ := supervise_eq c event a
  rw [heq]
  cases hstopped : a.supervisor.stopRequested with
  | true =>
    have hmoves := Supervision.handle_moves (x := ⟨a.supervisor, []⟩) event hs
    left
    dsimp only
    rw [(hmoves.stopped hs hstopped).1]
    rfl
  | false =>
    obtain ⟨nested, rfl⟩ := hstop.resolve_left (by simp [hstopped])
    obtain ⟨running, buffer, hend⟩ :=
      Supervision.stop_eq (c := c.supervisor) (x := ⟨a.supervisor, []⟩) nested hstopped
    right
    simp only [Supervision.handle, hend]
    rfl

theorem TrayTold.supervise (h : TrayTold number a blocks) (hs : Settled c.supervisor a.supervisor)
    {event : SupervisorEvent Empty} (hstart : ∀ env nested, event ≠ .start env nested)
    (hmain : a.main ≠ .beforeStart)
    (hstop : a.stopping = true →
      a.supervisor.stopRequested = true ∨ ∃ nested, event = .stop nested) :
    TrayTold number (a.supervise c event) blocks := by
  have hstopping (hnow : a.stopping = true) := supervise_stopping hs (hstop hnow)
  obtain ⟨client, session, -, heq⟩ := supervise_eq c event a
  obtain ⟨effects, heffects, -, hshows⟩ :=
    Supervision.handle_reports (c := c.supervisor) hstart ⟨a.supervisor, []⟩
  have hoffline := OfflineShown.handle h.offline h.available hs hstart
  rw [heq] at hstopping ⊢
  rw [List.nil_append] at heffects
  rw [heffects] at hstopping hoffline ⊢
  exact {
    available := by simpa using h.available
    beforeStart := fun hbefore => absurd hbefore hmain
    follows := fun hnow hgoing => hshows a.tray h.available (h.follows hnow hgoing)
    stopping := fun hnow => by
      rcases hstopping hnow with hsame | hset <;> dsimp only at *
      · rw [hsame]
        exact h.stopping hnow
      · rw [hset]
        simp [setAiState, h.available]
    offline := hoffline
    shown := by simpa using h.shown
    waiting := fun hgoing => by
      have hwaiting := h.waiting hgoing
      unfold blocksWaiting at hwaiting ⊢
      simpa using hwaiting }

/-- `begin_shutdown` sets the tray. -/
theorem TrayTold.begin (h : TrayTold number a blocks) {main : MainStage} (hmain : main ≠ .beforeStart)
    (exitCode : Int) (posted : List PostedCall) (source : SourceThreads H) :
    TrayTold number { a with
      stopping := true
      tray := a.tray.setAiState .stopping "종료 중"
      posted, main, source
      shutdown := .stoppingCapture exitCode } blocks where
  available := by simpa using h.available
  beforeStart hbefore := absurd hbefore hmain
  follows _ hgoing := by cases hgoing
  stopping _ := by simp [setAiState, h.available]
  offline := {
    before := fun hstate hstop => by
      have hbefore := h.offline.before hstate hstop
      simpa [setAiState, h.available, offlinesShown] using hbefore
    now := fun hstate => by simpa using h.offline.now hstate
    once := by simpa using h.offline.once }
  shown := by simpa using h.shown
  waiting hgoing := by cases hgoing

theorem TrayTold.beginShutdown (h : TrayTold number a blocks) (hmain : a.main ≠ .beforeStart)
    (exitCode : Int) : TrayTold number (a.beginShutdown handlers exitCode).1 blocks := by
  unfold Application.beginShutdown
  split
  · exact h
  · exact h.begin hmain exitCode a.posted _

theorem TrayTold.launch (h : TrayTold number a blocks) (hgoing : a.main = .beforeStart → a.stopping = false)
    (threadStarts : Bool) (env : AttemptEnv) (nested : List (ProcessSignal Empty)) :
    TrayTold number (a.launch c threadStarts env nested).1 blocks := by
  unfold Application.launch
  split
  · exact h
  · rename_i hmain
    replace hmain := not_not.mp hmain
    have hnew := h.beforeStart hmain
    obtain ⟨hshown, hnone⟩ := h.offline.before (by simp [hnew]) (by simp [hnew])
    dsimp only
    split
    · obtain ⟨client, session, -, heq⟩ := supervise_eq c (.start env nested) { a with
        started := true
        client := a.client.start
        capture := .opening
        main := .executing }
      have hfits := trayFits_start (c := c.supervisor) env nested h.available hshown hnone
      rw [heq]
      dsimp only
      rw [hnew]
      exact {
        available := by simpa using h.available
        beforeStart := fun hbefore => by cases hbefore
        follows := fun _ _ => hfits.shows
        stopping := fun hnow => by simp [hgoing hmain] at hnow
        offline := hfits.offline
        shown := by simpa using h.shown
        waiting := fun hnow => by
          have hwaiting := h.waiting hnow
          unfold blocksWaiting at hwaiting ⊢
          simpa using hwaiting }
    · exact h.same rfl rfl (fun hnow => by cases hnow) rfl (fun hbefore => by cases hbefore) rfl

theorem TrayTold.deliver (h : TrayTold number a blocks) (hsound : Sound c a)
    (hmain : a.main ≠ .beforeStart) (nested : List (ProcessSignal Empty)) :
    TrayTold number (a.deliver c handlers number nested).1 blocks := by
  unfold Application.deliver
  split
  · exact h
  · rename_i call rest hposted
    dsimp only
    split
    · rename_i hstopping
      exact { h with waiting := fun hgoing => by simp [hstopping] at hgoing }
    · rename_i hstopping
      have hgoing : a.stopping = false := Bool.eq_false_of_not_eq_true hstopping
      have hrest (hcall : call.block? = none) : TrayTold number { a with posted := rest } blocks :=
        h.same rfl rfl id rfl id (by rw [hposted, List.filterMap_cons_none hcall])
      cases call with
      | transportFailure failure =>
        refine (hrest rfl).supervise hsound.settled ?_ hmain ?_
        · exact fun env nested heq => by cases heq
        · exact fun hnow => absurd hnow hstopping
      | aiBlock event =>
        have hshow : a.tray.showAiBlock number event =
            { a.tray with shown := a.tray.shown ++ [aiBlockMessage number event] } := by
          simp [showAiBlock, h.available]
        have hblocks : (a.tray.showAiBlock number event).blocksShown =
            a.tray.blocksShown ++ [aiBlockMessage number event] := by
          rw [hshow]
          simp [blocksShown, aiBlockMessage]
        have hwaiting := h.waiting hgoing
        simp only [blocksWaiting, hposted, List.filterMap_cons, PostedCall.block?, List.map_cons]
          at hwaiting
        rw [List.append_cons] at hwaiting
        dsimp only
        refine ⟨?_, ?_, ?_, ?_, ?_, ?_, ?_⟩
        · dsimp only
          rw [hshow]
          exact h.available
        · exact fun hbefore => absurd hbefore hmain
        · intro hnow hgoing
          have hfollows := h.follows hnow hgoing
          dsimp only
          rw [hshow]
          exact ⟨hfollows.icon, hfollows.toolTip⟩
        · exact fun hnow => absurd hnow hstopping
        · refine ⟨fun hstate hstop => ?_, fun hstate => ?_, ?_⟩
          · obtain ⟨hshown, hnone⟩ := h.offline.before hstate hstop
            refine ⟨?_, by simpa using hnone⟩
            dsimp only
            rw [hshow]
            exact hshown
          · simpa using h.offline.now hstate
          · simpa using h.offline.once
        · dsimp only
          rw [hblocks, ← hwaiting]
          exact List.prefix_append _ _
        · intro _
          dsimp only [blocksWaiting]
          rw [hblocks]
          exact hwaiting
      | captureResult ok =>
        cases ok with
        | true => exact hrest rfl
        | false => exact (hrest rfl).beginShutdown hmain 1

theorem TrayTold.proceed (h : TrayTold number a blocks) (hsound : Sound c a)
    (nested : List (ProcessSignal Empty)) : TrayTold number (a.proceed c handlers nested) blocks := by
  have hbegun (hno : a.shutdown ≠ .no) : a.main ≠ .beforeStart := fun hbefore =>
    hno (hsound.beforeStart hbefore).1
  unfold Application.proceed
  split
  · exact h
  · exact h
  · rename_i hshutdown
    split
    · exact h.beginShutdown (hbegun (by simp [hshutdown])) 0
    · exact h
  · exact h.same rfl rfl id rfl id rfl
  · exact h.same rfl rfl id rfl id rfl
  · split
    · exact h.same rfl rfl id rfl id rfl
    · exact h
  · rename_i exitCode hshutdown
    have hstop : TrayTold number (a.supervise c (.stop nested)) blocks :=
      h.supervise hsound.settled (fun env nested heq => by cases heq)
        (hbegun (by simp [hshutdown])) fun _ => .inr ⟨nested, rfl⟩
    exact hstop.same rfl rfl id rfl id rfl
  · split
    · exact h.same rfl rfl id rfl id rfl
    · exact h

/-- Behind the shutdown the Qt loop can still call the supervisor, which is stopped then. -/
theorem Sound.stopped_of_free (h : Sound c a) (hfree : a.free = true) (hstopping : a.stopping = true) :
    a.supervisor.stopRequested = true := by
  have horder := h.stopping.mp hstopping
  unfold free at hfree
  split at hfree
  · rename_i hshutdown
    simp [hshutdown, ShutdownStage.order] at horder
  · rename_i exitCode _ hshutdown
    exact h.supervisorStopped (by simp [hshutdown, ShutdownStage.order])
  · cases hfree

theorem started_of_free (hfree : a.free = true) : a.main ≠ .beforeStart := by
  rw [main_of_free hfree]
  exact MainStage.noConfusion

theorem TrayTold.whenFree (h : TrayTold number a blocks)
    {f : Application H → Application H × Option Int}
    (hf : a.free = true → TrayTold number (f a).1 blocks) :
    TrayTold number (a.whenFree f).1 blocks := by
  unfold Application.whenFree
  split
  · exact hf ‹_›
  · exact h

/-- **What holds of the tray between two steps holds behind the next one.** -/
theorem TrayTold.step (h : TrayTold number a blocks) (hsound : Sound c a)
    (event : ApplicationEvent X Y) :
    TrayTold number (a.step c handlers number event).1
      (blocks ++ (a.postedBlock? event).toList) := by
  have hnone {a' : Application H} (htold : TrayTold number a' blocks) :
      TrayTold number a' (blocks ++ (none : Option (AiBlockEvent Float)).toList) := by
    rw [Option.toList_none, List.append_nil]
    exact htold
  cases event with
  | launch threadStarts env nested =>
    refine hnone (h.launch (fun hbefore => ?_) threadStarts env nested)
    have hno := (hsound.beforeStart hbefore).1
    rw [← Bool.not_eq_true, hsound.stopping, hno]
    simp [ShutdownStage.order]
  | slot slot =>
    exact hnone (h.whenFree fun hfree => h.supervise hsound.settled slot.toEvent_ne_start
      (started_of_free hfree) fun hnow => .inl (hsound.stopped_of_free hfree hnow))
  | deliver nested =>
    exact hnone (h.whenFree fun hfree => h.deliver hsound (started_of_free hfree) nested)
  | exitAction =>
    exact hnone (h.whenFree fun hfree => h.beginShutdown (started_of_free hfree) 0)
  | signal => exact hnone (h.same rfl rfl id rfl id rfl)
  | signalTimer =>
    refine hnone (h.whenFree fun hfree => ?_)
    split
    · exact h.beginShutdown (started_of_free hfree) 0
    · exact h
  | loopEnds exitCode =>
    refine hnone ?_
    simp only [Application.step]
    split
    · rename_i hfree
      have hgoing : a.stopping ≠ true := by simp_all
      unfold Application.beginShutdown
      rw [if_neg hgoing]
      exact h.begin (fun hbefore => by cases hbefore) exitCode a.posted _
    · exact h
  | proceed nested => exact hnone (h.proceed hsound nested)
  | mainReturns =>
    refine hnone ?_
    simp only [Application.step, Application.mainReturns]
    split
    · exact h.same rfl rfl id rfl (fun hbefore => by cases hbefore) rfl
    · exact h.same rfl rfl id rfl (fun hbefore => by cases hbefore) rfl
    · exact h
  | thread action =>
    obtain ⟨failures, heq⟩ := thread_eq c action a
    refine hnone ?_
    simp only [Application.step, heq]
    refine h.same rfl rfl id rfl id ?_
    have hnoBlocks : failures.filterMap (PostedCall.block? ∘ PostedCall.transportFailure) = [] :=
      List.filterMap_eq_nil_iff.mpr fun _ _ => rfl
    rw [List.filterMap_append, List.filterMap_map, hnoBlocks, List.append_nil]
  | capture ok =>
    refine hnone ?_
    simp only [Application.step, Application.captureCall]
    split
    case h_8 => exact h.same rfl rfl id rfl id (by simp [PostedCall.block?])
    all_goals exact h.same rfl rfl id rfl id rfl
  | loop step =>
    refine hnone ?_
    obtain ⟨capture, source, heq⟩ := loop_eq handlers step a
    simp only [Application.step, heq]
    exact h.same rfl rfl id rfl id rfl
  | aiBlock event =>
    simp only [Application.step, postedBlock?]
    split
    · have hquiet : TrayTold number { a with posted := a.posted ++ [.aiBlock event] }
          (blocks ++ [event]) := by
        apply h.quiet
        case hposted => simp [PostedCall.block?]
        all_goals simp
      exact hquiet
    · exact hnone h

/-! ## Behind the shutdown -/

/-- Nothing more is shown. -/
theorem shown_supervise {event : SupervisorEvent Empty} (hs : Settled c.supervisor a.supervisor)
    (hstop : a.supervisor.stopRequested = true ∨ ∃ nested, event = .stop nested) :
    (a.supervise c event).tray.shown = a.tray.shown := by
  rcases supervise_stopping hs hstop with hsame | hset
  · rw [hsame]
  · rw [hset, shown_setAiState]

@[simp] theorem stopping_supervise (event : SupervisorEvent Empty) :
    (a.supervise c event).stopping = a.stopping := by
  obtain ⟨client, session, -, heq⟩ := supervise_eq c event a
  rw [heq]

theorem Sound.proceed_shown (h : Sound c a) (hstopping : a.stopping = true)
    (nested : List (ProcessSignal Empty)) :
    (a.proceed c handlers nested).tray.shown = a.tray.shown ∧
      (a.proceed c handlers nested).stopping = true := by
  unfold Application.proceed
  split
  · exact ⟨rfl, hstopping⟩
  · exact ⟨rfl, hstopping⟩
  · split
    · unfold Application.beginShutdown
      rw [if_pos hstopping]
      exact ⟨rfl, hstopping⟩
    · exact ⟨rfl, hstopping⟩
  · exact ⟨rfl, hstopping⟩
  · exact ⟨rfl, hstopping⟩
  · split <;> exact ⟨rfl, hstopping⟩
  · exact ⟨shown_supervise h.settled (.inr ⟨nested, rfl⟩), by simpa using hstopping⟩
  · split <;> exact ⟨rfl, hstopping⟩

theorem Sound.step_shown (h : Sound c a) (hstopping : a.stopping = true)
    (event : ApplicationEvent X Y) :
    (a.step c handlers number event).1.tray.shown = a.tray.shown ∧
      (a.step c handlers number event).1.stopping = true := by
  have hsame : a.tray.shown = a.tray.shown ∧ a.stopping = true := ⟨rfl, hstopping⟩
  have hwhenFree {f : Application H → Application H × Option Int}
      (hf : a.free = true → (f a).1.tray.shown = a.tray.shown ∧ (f a).1.stopping = true) :
      (a.whenFree f).1.tray.shown = a.tray.shown ∧ (a.whenFree f).1.stopping = true := by
    unfold Application.whenFree
    split
    · exact hf ‹_›
    · exact hsame
  have hbegin (exitCode : Int) : a.beginShutdown handlers exitCode = (a, none) := by
    unfold Application.beginShutdown
    rw [if_pos hstopping]
  cases event with
  | launch threadStarts env nested =>
    have hmain : a.main ≠ .beforeStart := fun hbefore => by
      have horder := h.stopping.mp hstopping
      rw [(h.beforeStart hbefore).1] at horder
      simp [ShutdownStage.order] at horder
    have hlaunch : a.launch c threadStarts env nested = (a, none) := by
      unfold Application.launch
      rw [if_pos hmain]
    change (a.launch c threadStarts env nested).1.tray.shown = a.tray.shown ∧
      (a.launch c threadStarts env nested).1.stopping = true
    rw [hlaunch]
    exact hsame
  | slot slot =>
    exact hwhenFree fun hfree =>
      ⟨shown_supervise h.settled (.inl (h.stopped_of_free hfree hstopping)), by simpa using hstopping⟩
  | deliver nested =>
    refine hwhenFree fun _ => ?_
    unfold Application.deliver
    split
    · exact hsame
    · dsimp only
      rw [if_pos hstopping]
      exact hsame
  | exitAction =>
    refine hwhenFree fun _ => ?_
    rw [hbegin]
    exact hsame
  | signal => exact hsame
  | signalTimer =>
    refine hwhenFree fun _ => ?_
    split
    · rw [hbegin]
      exact hsame
    · exact hsame
  | loopEnds exitCode =>
    simp only [Application.step, hstopping]
    rw [if_neg (by simp)]
    exact hsame
  | proceed nested => exact h.proceed_shown hstopping nested
  | mainReturns =>
    simp only [Application.step, Application.mainReturns]
    split <;> exact ⟨rfl, hstopping⟩
  | thread action =>
    obtain ⟨failures, heq⟩ := thread_eq c action a
    change (a.thread c action).tray.shown = a.tray.shown ∧ (a.thread c action).stopping = true
    rw [heq]
    exact hsame
  | capture ok =>
    obtain ⟨capture, posted, heq⟩ := captureCall_eq ok a
    simp only [Application.step, heq]
    exact ⟨trivial, hstopping⟩
  | loop step =>
    obtain ⟨capture, source, heq⟩ := loop_eq handlers step a
    simp only [Application.step, heq]
    exact ⟨trivial, hstopping⟩
  | aiBlock event =>
    simp only [Application.step]
    split <;> exact ⟨rfl, hstopping⟩

/-! ## The run -/

theorem trayTold_run (c : ApplicationParams) (handlers : SourceHandlers H X Y)
    (number : Float → String) (h : H) (events : List (ApplicationEvent X Y)) :
    TrayTold number (exec (step c handlers number) (initial h true) events)
      (blocksPosted (trace (step c handlers number) (initial h true) events)) := by
  refine (trace_invariant (h := [])
    (fun a h => Sound c a ∧ TrayTold number a (blocksPosted h)) (fun a h event htold => ?_)
    ⟨initial_sound c h true, initial_trayTold number h⟩).2
  have hblocks : blocksPosted (h ++ [⟨a, event, (a.step c handlers number event).2⟩]) =
      blocksPosted h ++ (a.postedBlock? event).toList := by
    unfold blocksPosted
    rw [List.filterMap_append]
    congr 1
  rw [hblocks]
  exact ⟨htold.1.step event, htold.2.step htold.1 event⟩

theorem shown_run (c : ApplicationParams) (handlers : SourceHandlers H X Y)
    (number : Float → String) (hsound : Sound c a) (hstopping : a.stopping = true)
    (after : List (ApplicationEvent X Y)) :
    (exec (step c handlers number) a after).tray.shown = a.tray.shown := by
  refine (exec_invariant (P := fun _ _ => True)
    (fun s => Sound c s ∧ s.stopping = true ∧ s.tray.shown = a.tray.shown)
    (fun s event hs _ => ?_) ⟨hsound, hstopping, rfl⟩ (along_true a after)).2.2
  obtain ⟨hsame, hnow⟩ := hs.1.step_shown hs.2.1 event
  exact ⟨hs.1.step event, hnow, hsame.trans hs.2.2⟩

/-- **The tray tells the truth.** On a desktop with a tray, the icon and the tool tip are those of the
state of the supervisor until the shutdown, and then those of the shutdown. The end of the AI process is
shown at most once, with its reason. The blocks are shown in the order of their posts, none twice,
and until the shutdown none is missing but those whose calls wait; behind it nothing is shown. -/
theorem tray_truthful (c : ApplicationParams) (handlers : SourceHandlers H X Y)
    (number : Float → String) (h : H) (events : List (ApplicationEvent X Y)) :
    let a := exec (step c handlers number) (initial h true) events
    let blocks := blocksPosted (trace (step c handlers number) (initial h true) events)
    (a.started = true → a.stopping = false → Shows a.supervisor a.tray) ∧
      (a.stopping = true →
        a.tray.icon = stateColor .stopping ∧ a.tray.toolTip = "IPS - 종료 중") ∧
      a.tray.offlinesShown.length ≤ 1 ∧
      (a.supervisor.state = .offline →
        a.tray.offlinesShown = [⟨aiOfflineTitle, a.supervisor.detail⟩]) ∧
      a.tray.blocksShown <+: blocks.map (aiBlockMessage number) ∧
      (a.stopping = false →
        a.tray.blocksShown ++ a.blocksWaiting number = blocks.map (aiBlockMessage number)) ∧
      ∀ after, a.stopping = true →
        (exec (step c handlers number) a after).tray.shown = a.tray.shown := by
  intro a blocks
  have htold : TrayTold number a blocks := trayTold_run c handlers number h events
  have hsound : Sound c a := sound_run c handlers number h true events
  exact ⟨htold.follows, htold.stopping, htold.offline.once, htold.offline.now, htold.shown,
    htold.waiting, fun after hstopping => shown_run c handlers number hsound hstopping after⟩

end Application

end InlineIps
