import InlineIps.App.AiProcessSupervisor
import InlineIps.Common.FiveTuple
import InlineIps.Config.ParseConfig
import InlineIps.Library.MachineInt

/-!
# Arithmetic with the configuration

What the program computes from its configuration in `int` and in 64-bit nanoseconds, where a
result that does not fit is none.

* `noOverflow_iff`: with an accepted configuration, only the time that is left can overflow.
* `exactAndSafe_iff`: accepted configurations are exact, and no arithmetic with them overflows but
  for a send that took too long.
-/

namespace InlineIps.ConfigFile

open Library MachineInt Nlohmann

/-! ## The source -/

section Source

variable (cfg : Config)

/-- `now + std::chrono::seconds(ttl_seconds)` in `BlockList::block`. -/
def blockExpiry (now : TimePoint) : Option TimePoint := do
  let ttl ← checked 64 (cfg.blockTtlSeconds.toInt * 1000000000)
  checked 64 (now + ttl)

/-- `now - window_start >= std::chrono::seconds(window_seconds_)` in `FlowManager`. -/
def windowEnded (now windowStart : TimePoint) : Option Bool := do
  let elapsed ← checked 64 (now - windowStart)
  let window ← checked 64 (cfg.windowSeconds.toInt * 1000000000)
  return decide (window ≤ elapsed)

/-- `config_.restart_reset_seconds * 1000`. -/
def stableInterval : Option Int := checked 32 (cfg.ai.restartResetSeconds.toInt * 1000)

/-- `restart_delay_ms`. -/
def restartDelay (attemptIndex : Nat) : Option Int := do
  let factor ← checked 32 (1 <<< min attemptIndex 2)
  let delay ← checked 32 (1000 * factor)
  return min delay 4000

/-- The time left for the response, in the worker of `AsyncAiClient`. -/
def remainingTimeout (requestStarted sent : TimePoint) : Option Int := do
  let elapsed ← checked 64 (sent - requestStarted)
  checked 32 (cfg.ai.responseTimeoutMs.toInt - wrap 32 (toMilliseconds elapsed))

end Source

/-! ## Ranges -/

theorem Meets.allowed {v : Value} {cfg : Config} (h : Meets v cfg) :
    ∀ field ∈ integerFields, field.Allows (field.get cfg) :=
  fun field hfield => (h.integers field hfield).allowed hfield

/-- The ranges of the fields that the program computes with. -/
theorem Meets.ranges {v : Value} {cfg : Config} (h : Meets v cfg) :
    (1 ≤ cfg.blockTtlSeconds.toInt ∧ cfg.blockTtlSeconds.toInt ≤ 2147483647) ∧
      (1 ≤ cfg.windowSeconds.toInt ∧ cfg.windowSeconds.toInt ≤ 2147483647) ∧
      (100 ≤ cfg.ai.responseTimeoutMs.toInt ∧ cfg.ai.responseTimeoutMs.toInt ≤ 60000) ∧
      (1 ≤ cfg.ai.restartResetSeconds.toInt ∧ cfg.ai.restartResetSeconds.toInt ≤ 3600) := by
  have hallowed := h.allowed
  simp only [integerFields, List.forall_mem_cons, List.not_mem_nil, false_implies, implies_true,
    and_true, IntegerField.Allows] at hallowed
  omega

/-- An accepted configuration is in the ranges that the packet pipeline is verified for. -/
theorem Meets.inRange {v : Value} {cfg : Config} (h : Meets v cfg) : cfg.pipeline.InRange := by
  have hallowed := h.allowed
  simp only [integerFields, List.forall_mem_cons, List.not_mem_nil, false_implies, implies_true,
    and_true, IntegerField.Allows] at hallowed
  obtain ⟨-, hblock, hwindow, hports, hsyns, -⟩ := hallowed
  refine ⟨hblock, hwindow, ?_, ?_⟩
  · change 1 ≤ cfg.distinctPortThreshold.toNat ∧ cfg.distinctPortThreshold.toNat ≤ 65536
    omega
  · rw [UInt32.le_iff_toNat_le]
    change 1 ≤ cfg.synThreshold.toNat
    omega

/-! ## Overflow -/

/-- Readings of the clock that the arithmetic uses, below 2^62 nanoseconds. -/
structure Readings where
  now : TimePoint
  windowStart : TimePoint
  requestStarted : TimePoint
  sent : TimePoint
  now_fits : Fits 63 now
  windowStart_fits : Fits 63 windowStart
  requestStarted_fits : Fits 63 requestStarted
  sent_fits : Fits 63 sent

/-- The send took so long that its milliseconds, cut to 32 bits, are among the least numbers. -/
def Overlong (cfg : Config) (r : Readings) : Prop :=
  2 ^ 31 ≤ toMilliseconds (r.sent - r.requestStarted) % 2 ^ 32 ∧
    toMilliseconds (r.sent - r.requestStarted) % 2 ^ 32 ≤ 2 ^ 31 + cfg.ai.responseTimeoutMs.toInt

/-- Nothing overflows. The results are the exact ones, except that the time left for a reply is what
comes of milliseconds that were cut to 32 bits before. -/
structure NoOverflow (cfg : Config) (r : Readings) : Prop where
  expiry : blockExpiry cfg r.now = some (r.now + seconds cfg.pipeline.blockTtlSeconds)
  window : windowEnded cfg r.now r.windowStart =
    some (decide (seconds cfg.pipeline.windowSeconds ≤ r.now - r.windowStart))
  stable : stableInterval cfg = some ((cfg.ai.supervisor.restartResetSeconds * 1000 : Nat) : Int)
  delay : ∀ attemptIndex, restartDelay attemptIndex = some (restartDelayMs attemptIndex : Int)
  remaining : (remainingTimeout cfg r.requestStarted r.sent).isSome = true

section Overflow

variable {v : Value} {cfg : Config} {r : Readings}

theorem blockExpiry_eq (h : Meets v cfg) (r : Readings) :
    blockExpiry cfg r.now = some (r.now + seconds cfg.pipeline.blockTtlSeconds) := by
  obtain ⟨hblock, -⟩ := h.ranges
  have hnow := r.now_fits
  unfold Fits at hnow
  unfold blockExpiry
  rw [checked_of_fits (by unfold Fits; omega)]
  exact checked_of_fits (by unfold Fits; omega)

theorem windowEnded_eq (h : Meets v cfg) (r : Readings) :
    windowEnded cfg r.now r.windowStart =
      some (decide (seconds cfg.pipeline.windowSeconds ≤ r.now - r.windowStart)) := by
  obtain ⟨-, hwindow, -⟩ := h.ranges
  have hnow := r.now_fits
  have hstart := r.windowStart_fits
  unfold Fits at hnow hstart
  unfold windowEnded
  rw [checked_of_fits (by unfold Fits; omega), checked_of_fits (by unfold Fits; omega)]
  rfl

theorem stableInterval_eq (h : Meets v cfg) :
    stableInterval cfg = some ((cfg.ai.supervisor.restartResetSeconds * 1000 : Nat) : Int) := by
  obtain ⟨-, -, -, hreset⟩ := h.ranges
  unfold stableInterval
  rw [checked_of_fits (by unfold Fits; omega)]
  change _ = some ((cfg.ai.restartResetSeconds.toInt.toNat * 1000 : Nat) : Int)
  congr 1
  omega

theorem restartDelay_eq (attemptIndex : Nat) :
    restartDelay attemptIndex = some (restartDelayMs attemptIndex : Int) := by
  have hcases : min attemptIndex 2 = 0 ∨ min attemptIndex 2 = 1 ∨ min attemptIndex 2 = 2 := by
    omega
  unfold restartDelay restartDelayMs
  rcases hcases with hmin | hmin | hmin <;> rw [hmin] <;> rfl

theorem remainingTimeout_isSome_iff (h : Meets v cfg) (r : Readings) :
    (remainingTimeout cfg r.requestStarted r.sent).isSome = true ↔ ¬ Overlong cfg r := by
  obtain ⟨-, -, hresponse, -⟩ := h.ranges
  have hstarted := r.requestStarted_fits
  have hsent := r.sent_fits
  unfold Fits at hstarted hsent
  unfold remainingTimeout Overlong
  rw [checked_of_fits (by unfold Fits; omega)]
  change (checked 32 _).isSome = true ↔ _
  rw [isSome_checked, Fits]
  rcases wrap_cases 31 (toMilliseconds (r.sent - r.requestStarted)) with
    ⟨hrest, hwrap⟩ | ⟨hrest, hwrap⟩ <;> rw [hwrap] <;> omega

theorem noOverflow_iff (h : Meets v cfg) (r : Readings) :
    NoOverflow cfg r ↔ ¬ Overlong cfg r :=
  ⟨fun hsafe => (remainingTimeout_isSome_iff h r).mp hsafe.remaining, fun hshort =>
    { expiry := blockExpiry_eq h r
      window := windowEnded_eq h r
      stable := stableInterval_eq h
      delay := restartDelay_eq
      remaining := (remainingTimeout_isSome_iff h r).mpr hshort }⟩

end Overflow

/-! ## Accepted configurations -/

/-- The parser makes what the value says or nothing, and the arithmetic with it does not
overflow. -/
structure ExactAndSafe (v : Value) (r : Readings) : Prop where
  exact : ∀ cfg, parseConfig (.ok v) = .ok (some cfg) ↔ Meets v cfg
  rejected : (∀ cfg, ¬ Meets v cfg) → parseConfig (.ok v) = .ok none
  safe : ∀ cfg, parseConfig (.ok v) = .ok (some cfg) → NoOverflow cfg r

/-- **Accepted configurations are exact and safe** but for a send that took too long. -/
theorem exactAndSafe_iff (v : Value) (r : Readings) :
    ExactAndSafe v r ↔ ∀ cfg, Meets v cfg → ¬ Overlong cfg r := by
  obtain ⟨hexact, hrejected⟩ := parseConfig_eq v
  constructor
  · intro h cfg hmeets
    exact (noOverflow_iff hmeets r).mp (h.safe cfg ((hexact cfg).mpr hmeets))
  · intro hshort
    refine ⟨hexact, hrejected, fun cfg hcfg => ?_⟩
    have hmeets := (hexact cfg).mp hcfg
    exact (noOverflow_iff hmeets r).mpr (hshort cfg hmeets)

/-- The worker was stopped for 2^31 milliseconds between the readings of the clock around a send. -/
def stopped : Readings where
  now := 0
  windowStart := 0
  requestStarted := 0
  sent := 2147483648000000
  now_fits := by decide
  windowStart_fits := by decide
  requestStarted_fits := by decide
  sent_fits := by decide

/-- The empty object has the defaults, with which the time that is left overflows. -/
theorem stopped_unsafe : ¬ ExactAndSafe (.object []) stopped := by
  intro h
  have hremaining := (h.safe {} rfl).remaining
  exact absurd hremaining (by decide)

end InlineIps.ConfigFile
