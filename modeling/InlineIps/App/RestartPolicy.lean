import InlineIps.App.SupervisorMoves

/-!
# Restarts and timers of the AI process

* `restart_budget`: how often the supervisor attempts and restarts, read off its effects.
* `timers_match`: the timers match the state, and a stop is final.
-/

namespace InlineIps

open Library Machine

variable {Error : Type} {c : SupervisorParams Error} {asked : Prop} {s s' : AiProcessSupervisor}

namespace SupervisorEffect

/-- A series of restarts begins. -/
@[simp] def beginsSeries : SupervisorEffect → Bool
  | .begin | .stable => true
  | _ => false

@[simp] def isBegin : SupervisorEffect → Bool
  | .begin => true
  | _ => false

@[simp] def isAttempt : SupervisorEffect → Bool
  | .attempt => true
  | _ => false

@[simp] def isFailure : SupervisorEffect → Bool
  | .failure _ => true
  | _ => false

@[simp] def isRestart : SupervisorEffect → Bool
  | .restartIn _ => true
  | _ => false

@[simp] def isOffline : SupervisorEffect → Bool
  | .stateChanged .offline _ => true
  | _ => false

end SupervisorEffect

open SupervisorEffect

/-- The restarts scheduled in the current series. -/
def restartsSince (effects : List SupervisorEffect) : Nat :=
  countSince beginsSeries isRestart effects

/-- What an effect finds before it. -/
def Allowed (max : Nat) (before : List SupervisorEffect) : SupervisorEffect → Prop
  | .attempt => countSince beginsSeries isAttempt before ≤ max ∧ .stop ∉ before ∧
      countSince isBegin isOffline before = 0
  | .failure _ => countSince isAttempt isFailure before = 0
  | .restartIn ms => ms = min (1000 * 2 ^ restartsSince before) 4000
  | _ => True

theorem restartDelayMs_eq (attemptIndex : Nat) :
    restartDelayMs attemptIndex = min (1000 * 2 ^ attemptIndex) 4000 := by
  unfold restartDelayMs
  rcases Nat.lt_or_ge attemptIndex 2 with hlt | hge
  · rw [Nat.min_eq_left (Nat.le_of_lt hlt)]
  · have hpow : 2 ^ 2 ≤ 2 ^ attemptIndex := Nat.pow_le_pow_right (by decide) hge
    rw [Nat.min_eq_right hge]
    omega

namespace Supervision

variable {x y : Supervision}

/-- The members of the supervisor agree with its effects. -/
structure Booked (c : SupervisorParams Error) (x : Supervision) : Prop where
  attempts : countSince beginsSeries isAttempt x.effects ≤ x.self.restartAttempts + 1
  restarts : x.self.stopRequested = false → restartsSince x.effects =
    x.self.restartAttempts + if x.self.restartTimer.isSome then 1 else 0
  failures : countSince isAttempt isFailure x.effects =
    if x.self.failureHandledForAttempt then 1 else 0
  stopped : .stop ∈ x.effects ↔ x.self.stopRequested = true
  offline : countSince isBegin isOffline x.effects ≠ 0 →
    x.self.state = .offline ∨ x.self.state = .stopping
  allowed : EachBehind (Allowed c.config.maxRestarts) x.effects

theorem initial_booked (c : SupervisorParams Error) : Booked c {} := by
  constructor <;> simp [restartsSince, eachBehind_nil]

theorem Booked.move {effects : List SupervisorEffect} (h : Booked c x)
    (hsettled : Settled c x.self) (hmove : SupervisorMove c asked x.self s' effects) :
    Booked c ⟨s', x.effects ++ effects⟩ := by
  obtain ⟨hattempts, hrestarts, hfailures, hstopped, hoffline, hallowed⟩ := h
  have hrestart := hsettled.restart
  unfold restartsSince at hrestarts
  have hzero (hstate : x.self.state ≠ .offline) (hstop : x.self.state ≠ .stopping) :
      countSince isBegin isOffline x.effects = 0 := by
    by_contra hno
    rcases hoffline hno with hother | hother
    · exact hstate hother
    · exact hstop hother
  cases hmove with
  | pass running buffer hrunning =>
    simp only [List.append_nil]
    exact ⟨hattempts, hrestarts, hfailures, hstopped, hoffline, hallowed⟩
  | disable detail hstop hdisabled =>
    have hstate := (hsettled.enabled hdisabled).resolve_right (hsettled.not_stopping hstop)
    have hnone := hzero (by simp [hstate]) (by simp [hstate])
    specialize hrestarts hstop
    constructor <;> simp [restartsSince, hattempts, hrestarts, hfailures, hstopped, hnone]
    refine hallowed.append ?_
    exact ⟨trivial, trivial⟩
  | begin running hstop hidle henabled =>
    have hnone : x.self.restartTimer.isSome = false := by
      refine Bool.eq_false_of_not_eq_true fun hsome => ?_
      simp [hrestart.mp hsome] at hidle
    constructor <;> simp [restartsSince, AiProcessSupervisor.attempted, hnone, hstopped]
    refine hallowed.append ?_
    exact ⟨trivial, ⟨by simp, by simp [hstopped, hstop], by simp⟩, trivial, trivial⟩
  | retry running detail hstate hstop =>
    have hsome : x.self.restartTimer.isSome = true := hrestart.mpr hstate
    have hnone := hzero (by simp [hstate]) (by simp [hstate])
    have hroom := hsettled.waiting hstate
    specialize hrestarts hstop
    simp only [hsome, if_true] at hrestarts
    constructor <;> simp [restartsSince, AiProcessSupervisor.attempted, hattempts, hrestarts,
      hstopped, hnone]
    refine hallowed.append ?_
    exact ⟨⟨by omega, by simp [hstopped, hstop], hnone⟩, trivial, trivial⟩
  | call version error hstate =>
    constructor <;> simp only [restartsSince, countSince_append, countFrom_cons, countFrom_nil,
      beginsSeries, isAttempt, isRestart, isFailure, isBegin, isOffline, Bool.false_eq_true, if_false]
    · exact hattempts
    · exact hrestarts
    · exact hfailures
    · simp [hstopped]
    · exact hoffline
    refine hallowed.append ?_
    exact ⟨trivial, trivial⟩
  | online version detail hstate hversion =>
    obtain ⟨hstop, -, htimer, hhandled⟩ := hsettled.running (.inl hstate)
    have hnone := hzero (by simp [hstate]) (by simp [hstate])
    specialize hrestarts hstop
    simp only [htimer, Option.isSome_none, Bool.false_eq_true, if_false, Nat.add_zero] at hrestarts
    constructor <;> simp [restartsSince, hattempts, hrestarts, hfailures, hstopped, hnone, htimer]
    refine hallowed.append ?_
    exact ⟨trivial, trivial, trivial⟩
  | retryLater reason running buffer hstate hbudget =>
    obtain ⟨hstop, -, htimer, hhandled⟩ := hsettled.running hstate
    have hnone := hzero (by rcases hstate with h | h <;> simp [h]) (hsettled.not_stopping hstop)
    specialize hrestarts hstop
    simp only [htimer, Option.isSome_none, Bool.false_eq_true, if_false, Nat.add_zero] at hrestarts
    simp only [hhandled, Bool.false_eq_true, if_false] at hfailures
    constructor <;> simp [restartsSince, AiProcessSupervisor.failed, hattempts, hrestarts,
      hfailures, hstopped, hnone]
    refine hallowed.append ?_
    exact ⟨hfailures, trivial, by simp [Allowed, restartsSince, hrestarts, restartDelayMs_eq],
      trivial⟩
  | giveUp reason detail running buffer hstate hbudget =>
    obtain ⟨hstop, -, htimer, hhandled⟩ := hsettled.running hstate
    specialize hrestarts hstop
    simp only [hhandled, Bool.false_eq_true, if_false] at hfailures
    constructor <;> simp [restartsSince, AiProcessSupervisor.failed, hattempts, hrestarts,
      hfailures, hstopped, htimer]
    refine hallowed.append ?_
    exact ⟨hfailures, trivial, trivial⟩
  | stable hstate =>
    obtain ⟨hstop, -, htimer, hhandled⟩ := hsettled.running (.inr hstate)
    have hnone := hzero (by simp [hstate]) (by simp [hstate])
    constructor <;> simp [restartsSince, htimer, hfailures, hstopped, hnone]
    refine hallowed.append ?_
    exact ⟨trivial, trivial⟩
  | stop running buffer detail hasked hstop =>
    constructor <;> simp [hattempts, hfailures]
    refine hallowed.append ?_
    exact ⟨trivial, trivial, trivial⟩

theorem run_booked (c : SupervisorParams Error) (events : List (SupervisorEvent Error)) :
    Booked c (run c events) := by
  refine run_invariant c (Booked c) (initial_booked c) (fun asked x y hsettled hfollows h => ?_)
    events
  obtain ⟨effects, hmove, heffects⟩ := hfollows
  have hnext := h.move hsettled hmove
  rwa [← heffects] at hnext

/-! ## The restart budget -/

/-- The restart policy, read off the effects of a run. -/
structure RestartBudget (c : SupervisorParams Error) (x : Supervision) : Prop where
  attempts_le : x.self.restartAttempts ≤ c.config.maxRestarts
  /-- Within one series there is a first attempt and one for each restart. -/
  series : ∀ before part after, x.effects = before ++ part ++ after →
    (∀ effect ∈ part, beginsSeries effect = false) →
    part.countP isAttempt ≤ c.config.maxRestarts + 1
  /-- Between two attempts at most one failure is handled. -/
  once : ∀ before part after, x.effects = before ++ part ++ after →
    (∀ effect ∈ part, isAttempt effect = false) → part.countP isFailure ≤ 1
  /-- The `k`-th restart of a series has `k - 1` restarts before it. -/
  delay : ∀ before ms after, x.effects = before ++ .restartIn ms :: after →
    ms = min (1000 * 2 ^ restartsSince before) 4000
  /-- Behind a failure that was handled, the budget decides. -/
  spent : countSince isAttempt isFailure x.effects = 1 → .stop ∉ x.effects →
    x.self.state =
      if x.self.restartAttempts < c.config.maxRestarts then .restartWait else .offline
  /-- Only `start()` leads to an attempt behind `OFFLINE`. -/
  offline : ∀ before detail part after,
    x.effects = before ++ .stateChanged .offline detail :: part ++ .attempt :: after →
    .begin ∈ part
  stopped : ∀ before after, x.effects = before ++ .stop :: after → .attempt ∉ after

theorem allowed_attempt {max : Nat} {effects before after : List SupervisorEffect}
    (h : EachBehind (Allowed max) effects) (heffects : effects = before ++ .attempt :: after) :
    countSince beginsSeries isAttempt before ≤ max ∧ .stop ∉ before ∧
      countSince isBegin isOffline before = 0 :=
  h before .attempt after heffects

/-- **The restart budget holds in every run.** -/
theorem restart_budget (c : SupervisorParams Error) (events : List (SupervisorEvent Error)) :
    RestartBudget c (run c events) := by
  have hsettled := run_settled c events
  have hbooked := run_booked c events
  have hallowed := hbooked.allowed
  refine ⟨hsettled.budget, fun before part after heffects hno => ?_,
    fun before part after heffects hno => ?_, fun before ms after heffects => ?_,
    fun hfailed hstop => ?_, fun before detail part after heffects => ?_,
    fun before after heffects hmem => ?_⟩
  · refine countP_le_of_eachBehind (hallowed.mono fun before effect h hattempt => ?_) heffects hno
    cases effect with
    | attempt => exact Nat.lt_succ_of_le h.1
    | _ => cases hattempt
  · refine countP_le_of_eachBehind (hallowed.mono fun before effect h hfailure => ?_) heffects hno
    cases effect with
    | failure reason => exact Nat.lt_of_le_of_lt (Nat.le_of_eq h) Nat.one_pos
    | _ => cases hfailure
  · exact hallowed before (.restartIn ms) after heffects
  · have hhandled : (run c events).self.failureHandledForAttempt = true := by
      have hfailures := hbooked.failures
      by_contra hno
      rw [hfailed, if_neg hno] at hfailures
      cases hfailures
    have hgo : (run c events).self.stopRequested = false :=
      Bool.eq_false_of_not_eq_true fun hnow => hstop (hbooked.stopped.mpr hnow)
    rcases hsettled.handled hhandled with hstate | hstate | hstate
    · rw [hstate, if_pos (hsettled.waiting hstate)]
    · rw [hstate, if_neg (Nat.not_lt_of_le (Nat.le_of_eq (hsettled.offline hstate).symm))]
    · exact absurd hstate (hsettled.not_stopping hgo)
  · by_contra hno
    have hcount := (allowed_attempt hallowed heffects).2.2
    have hbegin : ∀ effect ∈ part, isBegin effect = false := fun effect hmem => by
      cases effect with
      | begin => exact absurd hmem hno
      | _ => rfl
    rw [countSince_append, countFrom_cons, countFrom_of_noReset hbegin] at hcount
    simp at hcount
  · obtain ⟨part, rest, rfl⟩ := List.append_of_mem hmem
    have hbehind : (run c events).effects = (before ++ .stop :: part) ++ .attempt :: rest := by
      simp [heffects]
    exact (allowed_attempt hallowed hbehind).2.1 (by simp)

/-! ## The timers -/

theorem run_stopRequested (c : SupervisorParams Error) (events : List (SupervisorEvent Error)) :
    (run c events).self.stopRequested = true ↔ ∃ nested, .stop nested ∈ events := by
  induction events using List.reverseRecOn with
  | nil => simp [run]
  | append_singleton events event ih =>
    rw [run_snoc]
    have hsettled := run_settled c events
    by_cases hasked : ∃ nested, event = .stop nested
    · obtain ⟨nested, rfl⟩ := hasked
      refine iff_of_true ?_ ⟨nested, by simp⟩
      exact stop_stopRequested nested
    · rw [Moves.stopRequested (handle_moves event hsettled) hasked, ih]
      refine exists_congr fun nested => ?_
      have hother : .stop nested ≠ event := fun heq => hasked ⟨nested, heq.symm⟩
      simp [hother]

/-- The timers and flags of a state, and what its timer does when it fires. -/
structure TimersMatch (c : SupervisorParams Error) (events : List (SupervisorEvent Error))
    (s : AiProcessSupervisor) : Prop where
  starting : s.state = .starting →
    s.startupTimer.isSome = true ∧ s.restartTimer = none ∧ s.stableTimer = none
  online : s.state = .online →
    s.startupTimer = none ∧ s.restartTimer = none ∧ s.failureHandledForAttempt = false ∧
      s.modelVersion ≠ ""
  restartWait : s.state = .restartWait →
    s.restartTimer.isSome = true ∧ s.startupTimer = none ∧ s.stableTimer = none ∧
      s.restartAttempts < c.config.maxRestarts
  idle : s.state = .disabled ∨ s.state = .offline ∨ s.state = .stopping →
    s.startupTimer = none ∧ s.restartTimer = none ∧ s.stableTimer = none
  stopping : s.state = .stopping ↔ ∃ nested, .stop nested ∈ events
  /-- No timer is active in a state that it was not started for. -/
  stale : (s.startupTimer.isSome = true → s.state = .starting) ∧
    (s.restartTimer.isSome = true → s.state = .restartWait) ∧
    (s.stableTimer.isSome = true → s.state = .online)
  startup_fires : s.state = .starting → ∀ nested,
    (run c (events ++ [.startupTimeout nested])).self.state = .restartWait ∨
      (run c (events ++ [.startupTimeout nested])).self.state = .offline
  restart_fires : s.state = .restartWait → ∀ env nested, ∃ effects,
    (run c (events ++ [.restartTimeout env nested])).effects =
      (run c events).effects ++ .attempt :: effects

theorem timer_none {timer : Option Nat} {state state' : AiState}
    (htimer : timer.isSome = true → state = state') (hstate : state ≠ state') : timer = none :=
  Option.not_isSome_iff_eq_none.mp fun hsome => hstate (htimer hsome)

/-- **In every state between two events the timers match the state.** -/
theorem timers_match (c : SupervisorParams Error) (events : List (SupervisorEvent Error)) :
    TimersMatch c events (run c events).self := by
  have h := run_settled c events
  have hstartup := h.startup.mp
  have hrestart := h.restart.mp
  refine ⟨fun hstate => ⟨h.startup.mpr hstate, ?_, ?_⟩,
    fun hstate => ⟨?_, ?_, ?_, h.online hstate⟩,
    fun hstate => ⟨h.restart.mpr hstate, ?_, ?_, h.waiting hstate⟩,
    fun hstate => ⟨?_, ?_, ?_⟩, h.stopping.trans (run_stopRequested c events),
    ⟨hstartup, hrestart, h.stable⟩, fun hstate nested => ?_, fun hstate env nested => ?_⟩
  · exact timer_none hrestart (by simp [hstate])
  · exact timer_none h.stable (by simp [hstate])
  · exact timer_none hstartup (by simp [hstate])
  · exact timer_none hrestart (by simp [hstate])
  · exact (h.running (.inr hstate)).2.2.2
  · exact timer_none hstartup (by simp [hstate])
  · exact timer_none h.stable (by simp [hstate])
  · exact timer_none hstartup (by rcases hstate with h | h | h <;> simp [h])
  · exact timer_none hrestart (by rcases hstate with h | h | h <;> simp [h])
  · exact timer_none h.stable (by rcases hstate with h | h | h <;> simp [h])
  · rw [run_snoc]
    obtain ⟨running, buffer, heq⟩ := onStartupTimeout_fails nested h hstate
    rw [handle, heq]
    exact afterFailure_state _ running buffer _
  · rw [run_snoc]
    obtain ⟨y, hy, running, -, hmoves⟩ := onRestartTimeout_retries True env nested h hstate
    obtain ⟨effects, heffects⟩ := Moves.effects_prefix hmoves
    exact ⟨_, by rw [handle, ← heffects, afterAttempt, hy, List.append_assoc]; rfl⟩

end Supervision

end InlineIps
