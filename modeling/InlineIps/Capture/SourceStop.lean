import InlineIps.Capture.PacketSource
import InlineIps.Library.Ranking

/-!
# Stopping the packet source

`stop` may be called from any thread and from a signal handler, while another thread is anywhere in
`loop`. Its two stores and the tests, stores and turns of the loop are the steps here; a list of
steps is an interleaving. A step that its thread cannot take changes nothing.

* `receives_le`, `returns_of_advances`: behind the first store of `stop` the loop receives at most
  once more, and returns soon.
* `stop_request`: this, and what the loop returns.
-/

namespace InlineIps

open Library Library.Machine PacketSource

/-- Where the receiving thread is. -/
inductive LoopPhase where
  | outside
  /-- Before the test of `running_`. -/
  | testRunning
  /-- Before the test of `stop_requested_`. -/
  | testStopRequested
  /-- Inside the loop. -/
  | receiving
  /-- Behind the loop, with the result. -/
  | leaving (ok : Bool)
  deriving DecidableEq

/-- `stopsHalfway` counts the calls of `stop` between their two stores. -/
structure SourceThreads (H : Type) where
  running : Bool := false
  stopRequested : Bool := false
  stopsHalfway : Nat := 0
  phase : LoopPhase := .outside
  loop : ReceiveLoop H

inductive ThreadStep (X Y : Type) where
  /-- `loop` is called, and reads the clock twice. -/
  | enter (cleanup enobufs : TimePoint)
  | test
  | turn (t : Turn X Y)
  | leave
  /-- The first store of `stop`. -/
  | storeStopRequested
  /-- Its second store. -/
  | storeNotRunning

structure SourceOutput where
  effects : List SourceEffect := []
  returned : Option Bool := none

/-- How many steps of its own the loop has before it at most, once it is asked to stop. -/
def LoopPhase.stepsLeft : LoopPhase → Nat
  | .outside => 0
  | .leaving _ => 1
  | .testStopRequested => 2
  | .testRunning => 3
  | .receiving => 4

theorem LoopPhase.stepsLeft_pos {phase : LoopPhase} (h : phase ≠ .outside) :
    0 < phase.stepsLeft := by
  cases phase with
  | outside => exact absurd rfl h
  | _ => exact Nat.succ_pos _

theorem LoopPhase.stepsLeft_le (phase : LoopPhase) : phase.stepsLeft ≤ 4 := by
  cases phase <;> simp [stepsLeft]

/-- How often the loop can still receive, once it is asked to stop. -/
def LoopPhase.turnsLeft : LoopPhase → Nat
  | .receiving => 1
  | _ => 0

namespace SourceThreads

variable {H X Y : Type} (handlers : SourceHandlers H X Y)

def initial (h : H) : SourceThreads H where
  loop := .start h 0 0

def enter (s : SourceThreads H) (cleanup enobufs : TimePoint) : SourceThreads H :=
  match s.phase with
  | .outside =>
    { s with running := true, phase := .testRunning, loop := .start s.loop.handler cleanup enobufs }
  | _ => s

/-- `running_ && !stop_requested_` reads the first flag first. -/
def test (s : SourceThreads H) : SourceThreads H :=
  match s.phase with
  | .testRunning => { s with phase := if s.running then .testStopRequested else .leaving true }
  | .testStopRequested => { s with phase := if s.stopRequested then .leaving true else .receiving }
  | _ => s

def turn (s : SourceThreads H) (t : Turn X Y) : SourceThreads H × SourceOutput :=
  match s.phase with
  | .receiving =>
    let (loop, effects, ok) := PacketSource.turn handlers s.loop t
    ({ s with loop, phase := if ok then .testRunning else .leaving false }, { effects })
  | _ => (s, {})

def leave (s : SourceThreads H) : SourceThreads H × SourceOutput :=
  match s.phase with
  | .leaving ok => ({ s with running := false, phase := .outside }, { returned := some ok })
  | _ => (s, {})

def step (s : SourceThreads H) : ThreadStep X Y → SourceThreads H × SourceOutput
  | .enter cleanup enobufs => (s.enter cleanup enobufs, {})
  | .test => (s.test, {})
  | .turn t => s.turn handlers t
  | .leave => s.leave
  | .storeStopRequested =>
    ({ s with stopRequested := true, stopsHalfway := s.stopsHalfway + 1 }, {})
  | .storeNotRunning =>
    if s.stopsHalfway = 0 then (s, {})
    else ({ s with running := false, stopsHalfway := s.stopsHalfway - 1 }, {})

/-- A step of an interleaving with its output. -/
abbrev SourceTaken (H X Y : Type) := Taken (SourceThreads H) (ThreadStep X Y) SourceOutput

/-- The loop receives. -/
def receives (x : SourceTaken H X Y) : Bool :=
  match x.before.phase, x.event with
  | .receiving, .turn _ => true
  | _, _ => false

/-- The receiving thread takes a step inside `loop`. -/
def advances (x : SourceTaken H X Y) : Bool :=
  match x.before.phase, x.event with
  | .testRunning, .test | .testStopRequested, .test | .receiving, .turn _ | .leaving _, .leave =>
    true
  | _, _ => false

section Stopped

variable {handlers} {s : SourceThreads H}

variable (handlers) in
theorem step_stopRequested (e : ThreadStep X Y) (h : s.stopRequested = true) :
    (step handlers s e).1.stopRequested = true := by
  cases e with
  | enter cleanup enobufs =>
    simp only [step, enter]
    split <;> exact h
  | test =>
    simp only [step, test]
    split <;> exact h
  | turn t =>
    simp only [step, turn]
    split <;> exact h
  | leave =>
    simp only [step, leave]
    split <;> exact h
  | storeStopRequested => rfl
  | storeNotRunning =>
    simp only [step]
    split <;> exact h

variable (handlers) in
/-- Once stopped, every step that receives uses up the only turn that is left. -/
theorem step_turnsLeft (e : ThreadStep X Y) (h : s.stopRequested = true) :
    (step handlers s e).1.phase.turnsLeft +
        (if receives ⟨s, e, (step handlers s e).2⟩ then 1 else 0) ≤
      s.phase.turnsLeft := by
  obtain ⟨running, stopRequested, stopsHalfway, phase, loop⟩ := s
  cases h
  cases e with
  | enter cleanup enobufs => cases phase <;> exact Nat.le_refl _
  | test => cases phase <;> cases running <;> exact Nat.le_refl _
  | turn t =>
    cases phase with
    | receiving =>
      simp only [step, turn]
      cases (PacketSource.turn handlers loop t).2.2 <;> exact Nat.le_refl _
    | _ => exact Nat.le_refl _
  | leave => cases phase <;> exact Nat.le_refl _
  | storeStopRequested => cases phase <;> exact Nat.le_refl _
  | storeNotRunning =>
    simp only [step]
    split <;> cases phase <;> exact Nat.le_refl _

variable (handlers) in
/-- The turns that are left, as a rank. -/
def turnsRanking : Ranking (step handlers) receives where
  holds s := s.stopRequested = true
  rank s := s.phase.turnsLeft
  keeps _ e h := step_stopRequested handlers e h
  falls _ e h := step_turnsLeft handlers e h

/-- **A loop that is asked to stop receives at most once more.** -/
theorem receives_le (steps : List (ThreadStep X Y)) (h : s.stopRequested = true) :
    (trace (step handlers) s steps).countP receives ≤ s.phase.turnsLeft :=
  (turnsRanking handlers).countP_le h steps

variable (handlers) in
/-- Inside the loop, a step of the receiving thread brings it nearer to the end or returns. -/
theorem step_stepsLeft (e : ThreadStep X Y) (h : s.stopRequested = true)
    (hinside : s.phase ≠ .outside) :
    (step handlers s e).2.returned.isSome = true ∨
      (step handlers s e).1.phase ≠ .outside ∧
        (step handlers s e).1.phase.stepsLeft +
            (if advances ⟨s, e, (step handlers s e).2⟩ then 1 else 0) ≤
          s.phase.stepsLeft := by
  obtain ⟨running, stopRequested, stopsHalfway, phase, loop⟩ := s
  cases h
  cases e with
  | enter cleanup enobufs =>
    right
    cases phase with
    | outside => exact absurd rfl hinside
    | _ => exact ⟨hinside, Nat.le_refl _⟩
  | test =>
    right
    cases phase with
    | outside => exact absurd rfl hinside
    | testRunning => cases running with
      | false => exact ⟨LoopPhase.noConfusion, Nat.le_succ 2⟩
      | true => exact ⟨LoopPhase.noConfusion, Nat.le_refl 3⟩
    | testStopRequested => exact ⟨LoopPhase.noConfusion, Nat.le_refl 2⟩
    | _ => exact ⟨hinside, Nat.le_refl _⟩
  | turn t =>
    right
    cases phase with
    | outside => exact absurd rfl hinside
    | receiving =>
      simp only [step, turn]
      cases (PacketSource.turn handlers loop t).2.2 with
      | false => exact ⟨LoopPhase.noConfusion, Nat.le_add_left 2 2⟩
      | true => exact ⟨LoopPhase.noConfusion, Nat.le_refl 4⟩
    | _ => exact ⟨hinside, Nat.le_refl _⟩
  | leave =>
    cases phase with
    | outside => exact absurd rfl hinside
    | leaving ok => exact .inl rfl
    | _ => exact .inr ⟨hinside, Nat.le_refl _⟩
  | storeStopRequested =>
    right
    refine ⟨hinside, ?_⟩
    cases phase <;> exact Nat.le_refl _
  | storeNotRunning =>
    right
    simp only [step]
    split <;> exact ⟨hinside, by cases phase <;> exact Nat.le_refl _⟩

/-- **A loop that is asked to stop returns** when its thread goes on. -/
theorem returns_of_advances (steps : List (ThreadStep X Y)) (h : s.stopRequested = true)
    (hinside : s.phase ≠ .outside)
    (hsteps : s.phase.stepsLeft ≤ (trace (step handlers) s steps).countP advances) :
    ∃ x ∈ trace (step handlers) s steps, x.output.returned.isSome = true := by
  induction steps generalizing s with
  | nil =>
    have hpos := LoopPhase.stepsLeft_pos hinside
    rw [trace_nil, List.countP_nil] at hsteps
    omega
  | cons e steps ih =>
    rw [trace_cons] at hsteps ⊢
    rw [List.countP_cons] at hsteps
    rcases step_stepsLeft handlers e h hinside with hreturned | ⟨hinside', hleft⟩
    · exact ⟨_, List.mem_cons_self, hreturned⟩
    · obtain ⟨x, hx, hreturned⟩ :=
        ih (step_stopRequested handlers e h) hinside' (by omega)
      exact ⟨x, List.mem_cons_of_mem _ hx, hreturned⟩

end Stopped

/-! ## What the loop returns -/

/-- Whether the last turn of the call of `loop` has failed, behind one more step. -/
def failingBehind (failed : Bool) (x : SourceTaken H X Y) : Bool :=
  match x.before.phase, x.event with
  | .outside, .enter _ _ => false
  | .receiving, .turn t => !t.received.goesOn
  | _, _ => failed

def failing (h : List (SourceTaken H X Y)) : Bool := h.foldl failingBehind false

def Requested (h : List (SourceTaken H X Y)) : Prop := ∃ x ∈ h, x.event = .storeStopRequested

/-- The result of the loop, with what was done before. -/
def Justified (h : List (SourceTaken H X Y)) (x : SourceTaken H X Y) : Prop :=
  ∀ ok, x.output.returned = some ok → (ok = true → Requested h) ∧ (ok = false ↔ failing h = true)

/-- Whether the last turn has failed, in the phases inside the loop and behind it. -/
def LoopPhase.failed? : LoopPhase → Option Bool
  | .outside => none
  | .leaving ok => some !ok
  | .testRunning | .testStopRequested | .receiving => some false

/-- What holds of the threads and what was done before. -/
structure Told (s : SourceThreads H) (h : List (SourceTaken H X Y)) : Prop where
  requested : s.stopRequested = true → Requested h
  halfway : 0 < s.stopsHalfway → s.stopRequested = true
  running : s.running = false → s.phase ≠ .outside → (∀ ok, s.phase ≠ .leaving ok) →
    s.stopRequested = true
  stopped : s.phase = .leaving true → s.stopRequested = true
  failed : ∀ b, LoopPhase.failed? s.phase = some b → failing h = b
  justified : EachBehind Justified h

theorem failing_snoc (h : List (SourceTaken H X Y)) (x : SourceTaken H X Y) :
    failing (h ++ [x]) = failingBehind (failing h) x := by
  unfold failing
  rw [List.foldl_append]
  rfl

theorem Requested.snoc {h : List (SourceTaken H X Y)} (hrequested : Requested h)
    (x : SourceTaken H X Y) : Requested (h ++ [x]) := by
  obtain ⟨y, hy, hevent⟩ := hrequested
  exact ⟨y, List.mem_append_left _ hy, hevent⟩

section Told

variable {handlers} {s : SourceThreads H} {h : List (SourceTaken H X Y)}

theorem initial_told (h : H) : Told (X := X) (Y := Y) (initial h) [] where
  requested hstop := by cases hstop
  halfway hpos := by cases hpos
  running _ hinside := absurd rfl hinside
  stopped hphase := by cases hphase
  failed b hb := by cases hb
  justified := eachBehind_nil _

/-- A step that returns nothing is justified. -/
theorem justified_of_none {x : SourceTaken H X Y} (hnone : x.output.returned = none) :
    Justified h x := by
  intro ok hok
  rw [hnone] at hok
  cases hok

/-- A step of another thread, or of none. -/
theorem Told.elsewhere (htold : Told s h) {e : ThreadStep X Y} {s' : SourceThreads H}
    (hphase : s'.phase = s.phase) (hstop : s.stopRequested = true → s'.stopRequested = true)
    (hrequested : s'.stopRequested = true → s.stopRequested = true ∨ e = .storeStopRequested)
    (hhalfway : 0 < s'.stopsHalfway → s'.stopRequested = true)
    (hrunning : s'.running = false → s.running = true → s'.stopRequested = true)
    (hsame : failingBehind (failing h) ⟨s, e, ({} : SourceOutput)⟩ = failing h) :
    Told s' (h ++ [⟨s, e, {}⟩]) where
  requested hstop' := by
    rcases hrequested hstop' with hold | rfl
    · exact (htold.requested hold).snoc _
    · exact ⟨_, List.mem_append_right _ List.mem_cons_self, rfl⟩
  halfway := hhalfway
  running hno hinside hleaving := by
    rw [hphase] at hinside hleaving
    cases hold : s.running with
    | false => exact hstop (htold.running hold hinside hleaving)
    | true => exact hrunning hno hold
  stopped hleaving := hstop (htold.stopped (hphase ▸ hleaving))
  failed b hb := by
    rw [failing_snoc, hsame]
    exact htold.failed b (hphase ▸ hb)
  justified := htold.justified.snoc (justified_of_none rfl)

/-- A step of the receiving thread. -/
theorem Told.own (htold : Told s h) {s' : SourceThreads H} {x : SourceTaken H X Y}
    (hstop : s'.stopRequested = s.stopRequested) (hhalfway : s'.stopsHalfway = s.stopsHalfway)
    (hrunning : s'.running = false → s'.phase ≠ .outside → (∀ ok, s'.phase ≠ .leaving ok) →
      s.stopRequested = true)
    (hstopped : s'.phase = .leaving true → s.stopRequested = true)
    (hfailed : ∀ b, LoopPhase.failed? s'.phase = some b → failingBehind (failing h) x = b)
    (hjustified : Justified h x) : Told s' (h ++ [x]) where
  requested hstop' := (htold.requested (hstop ▸ hstop')).snoc _
  halfway hpos := hstop ▸ htold.halfway (hhalfway ▸ hpos)
  running hno hinside hleaving := hstop ▸ hrunning hno hinside hleaving
  stopped hleaving := hstop ▸ hstopped hleaving
  failed b hb := by
    rw [failing_snoc]
    exact hfailed b hb
  justified := htold.justified.snoc hjustified

/-- A step that its thread cannot take. -/
theorem Told.stay (htold : Told s h) {e : ThreadStep X Y}
    (hsame : failingBehind (failing h) ⟨s, e, ({} : SourceOutput)⟩ = failing h) :
    Told s (h ++ [⟨s, e, {}⟩]) :=
  htold.own rfl rfl htold.running htold.stopped
    (fun b hb => hsame.trans (htold.failed b hb)) (justified_of_none rfl)

theorem Told.enter (htold : Told s h) (cleanup enobufs : TimePoint) :
    Told (s.enter cleanup enobufs) (h ++ [⟨s, .enter cleanup enobufs, {}⟩]) := by
  unfold SourceThreads.enter
  split
  · rename_i hphase
    refine htold.own rfl rfl (fun hno => by cases hno) (fun hphase => by cases hphase) ?_
      (justified_of_none rfl)
    rintro b ⟨⟩
    simp [failingBehind, hphase]
  · refine htold.stay ?_
    unfold failingBehind
    cases hphase : s.phase with
    | outside => exact absurd hphase ‹_›
    | _ => rfl

theorem Told.test (htold : Told s h) : Told s.test (h ++ [⟨s, .test, {}⟩]) := by
  have hsame : failingBehind (failing h) ⟨s, (.test : ThreadStep X Y), {}⟩ = failing h := by
    unfold failingBehind
    cases s.phase <;> rfl
  unfold SourceThreads.test
  split
  · rename_i hphase
    have hfailing : failing h = false := htold.failed false (by rw [hphase]; rfl)
    cases hrunning : s.running with
    | true =>
      refine htold.own rfl rfl (fun hno => by cases hno) (fun hphase => by cases hphase) ?_
        (justified_of_none rfl)
      rintro b ⟨⟩
      exact hsame.trans hfailing
    | false =>
      have hstop : s.stopRequested = true :=
        htold.running hrunning (by simp [hphase]) (by simp [hphase])
      refine htold.own rfl rfl (fun _ _ _ => hstop) (fun _ => hstop) ?_ (justified_of_none rfl)
      rintro b ⟨⟩
      exact hsame.trans hfailing
  · rename_i hphase
    have hfailing : failing h = false := htold.failed false (by rw [hphase]; rfl)
    have hinside : s.running = false → s.stopRequested = true := fun hno =>
      htold.running hno (by simp [hphase]) (by simp [hphase])
    cases hstop : s.stopRequested with
    | true =>
      refine htold.own hstop.symm rfl (fun _ _ _ => hstop) (fun _ => hstop) ?_
        (justified_of_none rfl)
      rintro b ⟨⟩
      exact hsame.trans hfailing
    | false =>
      refine htold.own hstop.symm rfl (fun hno _ _ => hinside hno) (fun hphase => by cases hphase)
        ?_ (justified_of_none rfl)
      rintro b ⟨⟩
      exact hsame.trans hfailing
  · exact htold.stay hsame

theorem turn_goesOn (loop : ReceiveLoop H) (t : Turn X Y) :
    (PacketSource.turn handlers loop t).2.2 = t.received.goesOn := by
  have hgoesOn := receive_goesOn handlers loop t.received
  unfold PacketSource.turn
  rcases hrun : receive handlers loop t.received with ⟨loop', effects, _ | _⟩
  · rw [hrun] at hgoesOn
    exact hgoesOn
  · rw [hrun] at hgoesOn
    exact hgoesOn

theorem Told.turn (htold : Told s h) (t : Turn X Y) :
    Told (s.turn handlers t).1 (h ++ [⟨s, .turn t, (s.turn handlers t).2⟩]) := by
  unfold SourceThreads.turn
  split
  · rename_i hphase
    have hinside : s.running = false → s.stopRequested = true := fun hno =>
      htold.running hno (by simp [hphase]) (by simp [hphase])
    have hbehind : ∀ output, failingBehind (failing h) ⟨s, .turn t, output⟩ = !t.received.goesOn :=
      fun output => by simp [failingBehind, hphase]
    dsimp only
    rw [turn_goesOn]
    cases hgoesOn : t.received.goesOn with
    | true =>
      refine htold.own rfl rfl (fun hno _ _ => hinside hno) (fun hphase => by cases hphase) ?_
        (justified_of_none rfl)
      rintro b ⟨⟩
      rw [hbehind, hgoesOn]
      rfl
    | false =>
      refine htold.own rfl rfl (fun _ _ hleaving => absurd rfl (hleaving false))
        (fun hphase => by cases hphase) ?_ (justified_of_none rfl)
      rintro b ⟨⟩
      rw [hbehind, hgoesOn]
  · refine htold.stay ?_
    unfold failingBehind
    cases hphase : s.phase with
    | receiving => exact absurd hphase ‹_›
    | _ => rfl

theorem Told.leave (htold : Told s h) :
    Told s.leave.1 (h ++ [⟨s, (.leave : ThreadStep X Y), s.leave.2⟩]) := by
  unfold SourceThreads.leave
  split
  · rename_i ok hphase
    refine htold.own rfl rfl (fun _ hinside => absurd rfl hinside) (fun hphase => by cases hphase)
      (fun b hb => by cases hb) ?_
    rintro ok' ⟨⟩
    have hfailing : failing h = !ok := htold.failed (!ok) (by rw [hphase]; rfl)
    refine ⟨?_, ?_⟩
    · rintro rfl
      exact htold.requested (htold.stopped hphase)
    · rw [hfailing]
      cases ok <;> simp
  · refine htold.stay ?_
    unfold failingBehind
    cases s.phase <;> rfl

theorem Told.step (htold : Told s h) (e : ThreadStep X Y) :
    Told (step handlers s e).1 (h ++ [⟨s, e, (step handlers s e).2⟩]) := by
  cases e with
  | enter cleanup enobufs => exact htold.enter cleanup enobufs
  | test => exact htold.test
  | turn t => exact htold.turn t
  | leave => exact htold.leave
  | storeStopRequested =>
    refine htold.elsewhere rfl (fun _ => rfl) (fun _ => .inr rfl) (fun _ => rfl) (fun _ _ => rfl) ?_
    unfold failingBehind
    cases s.phase <;> rfl
  | storeNotRunning =>
    have hsame : failingBehind (failing h) ⟨s, (.storeNotRunning : ThreadStep X Y), {}⟩ =
        failing h := by
      unfold failingBehind
      cases s.phase <;> rfl
    simp only [SourceThreads.step]
    split
    · exact htold.stay hsame
    · rename_i hpos
      have hstop := htold.halfway (Nat.pos_of_ne_zero hpos)
      exact htold.elsewhere rfl id .inl (fun _ => hstop) (fun _ _ => hstop) hsame

end Told

/-- **A request to stop is never lost.** Whenever `stop` has stored its first flag, the loop
receives at most once more, and only if it is already inside; it returns within four steps of its
thread. It returns true only behind a request, and false exactly when its last turn has failed. -/
theorem stop_request (h : H) (steps : List (ThreadStep X Y)) :
    (∀ before after, steps = before ++ .storeStopRequested :: after →
      let s := exec (step handlers) (initial h) (before ++ [.storeStopRequested])
      (trace (step handlers) s after).countP receives ≤ s.phase.turnsLeft ∧
      (s.phase ≠ .outside → 4 ≤ (trace (step handlers) s after).countP advances →
        ∃ x ∈ trace (step handlers) s after, x.output.returned.isSome = true)) ∧
    EachBehind Justified (trace (step handlers) (initial h) steps) := by
  refine ⟨?_, ?_⟩
  · intro before after hsteps s
    have hstop : s.stopRequested = true := by
      unfold s
      rw [Machine.exec_append]
      rfl
    refine ⟨receives_le after hstop, fun hinside hadvances => ?_⟩
    exact returns_of_advances after hstop hinside (Nat.le_trans (LoopPhase.stepsLeft_le _) hadvances)
  · exact (trace_invariant Told (fun s h e htold => htold.step e) (initial_told h)).justified

end SourceThreads

end InlineIps
