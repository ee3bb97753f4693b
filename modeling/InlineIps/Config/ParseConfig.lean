import InlineIps.Common.Nlohmann
import InlineIps.Config.Config

/-!
# Reading the configuration

`parse_config` with all fields of `Config` in the types that the source gives them.

* `Meets`: what a JSON value says about a configuration, field by field.
* `parseConfig_eq`: the configurations that come out are those that the value says.
-/

namespace InlineIps.ConfigFile

open Library Fallible Nlohmann

structure AiConfig where
  enabled : Bool := true
  artifactDir : String := "ml/artifacts"
  queueCapacity : UInt64 := 1024
  startupTimeoutMs : Int32 := 10000
  responseTimeoutMs : Int32 := 2000
  maxRestarts : Int32 := 3
  restartResetSeconds : Int32 := 60
  deriving DecidableEq

structure Config where
  queueNum : UInt16 := 0
  blockTtlSeconds : Int32 := 600
  whitelist : List String := []
  windowSeconds : Int32 := 10
  distinctPortThreshold : UInt64 := 20
  synThreshold : UInt32 := 100
  ai : AiConfig := {}
  deriving DecidableEq

/-- The fields that the packet pipeline reads. -/
def Config.pipeline (cfg : Config) : InlineIps.Config where
  blockTtlSeconds := cfg.blockTtlSeconds.toInt
  windowSeconds := cfg.windowSeconds.toInt
  distinctPortThreshold := cfg.distinctPortThreshold.toNat
  synThreshold := cfg.synThreshold

/-- The fields that the supervisor of the AI process reads. -/
def AiConfig.supervisor (ai : AiConfig) : InlineIps.AiConfig where
  enabled := ai.enabled
  startupTimeoutMs := ai.startupTimeoutMs.toInt.toNat
  maxRestarts := ai.maxRestarts.toInt.toNat
  restartResetSeconds := ai.restartResetSeconds.toInt.toNat

/-- The conversion of an `int` to `uint64_t`. -/
def widen (n : Int32) : UInt64 := n.toInt64.toUInt64

/-- `static_cast<int>`. -/
def narrow (n : UInt64) : Int32 := n.toUInt32.toInt32

/-! ## The source -/

def readNonnegativeInteger (object : Value) (key : String) (defaultValue : UInt64) :
    Except Exception (Option UInt64) := do
  if !isObject object then
    return none
  if !contains object key then
    return some defaultValue
  match ← at_ object key with
  | .number (.unsigned n) => return some n
  | .number (.integer signedValue) =>
    return if 0 ≤ signedValue then some signedValue.toUInt64 else none
  | _ => return none

/-- The objects that hold the fields. An object that is missing is taken as empty. -/
structure Sections where
  root : Value
  rules : Value
  portScan : Value
  synFlood : Value
  ai : Value

def readSections (j : Value) : Except Exception Sections := do
  let rules ← value .ok j "rules" (.object [])
  let portScan ← value .ok rules "port_scan" (.object [])
  let synFlood ← value .ok rules "syn_flood" (.object [])
  let ai ← value .ok j "ai" (.object [])
  return ⟨j, rules, portScan, synFlood, ai⟩

/-- The member is there and is not what it should be. -/
def hasOther (expected : Value → Bool) (object : Value) (key : String) : Except Exception Bool := do
  if contains object key then
    return !expected (← at_ object key)
  return false

def aiTypeError (ai : Value) : Except Exception Bool := do
  if !isObject ai then
    return true
  if ← hasOther isBoolean ai "enabled" then
    return true
  hasOther isString ai "artifact_dir"

/-- The integers before they are checked and narrowed. -/
structure Integers where
  queueNum : UInt64
  blockTtlSeconds : UInt64
  windowSeconds : UInt64
  distinctPortThreshold : UInt64
  synThreshold : UInt64
  aiQueueCapacity : UInt64
  aiStartupTimeout : UInt64
  aiResponseTimeout : UInt64
  aiMaxRestarts : UInt64
  aiRestartReset : UInt64

def readIntegers (cfg : Config) (s : Sections) : Except Exception (Option Integers) := do
  let queueNum ← readNonnegativeInteger s.root "queue_num" cfg.queueNum.toUInt64
  let blockTtlSeconds ←
    readNonnegativeInteger s.root "block_ttl_seconds" (widen cfg.blockTtlSeconds)
  let windowSeconds ← readNonnegativeInteger s.rules "window_seconds" (widen cfg.windowSeconds)
  let distinctPortThreshold ←
    readNonnegativeInteger s.portScan "distinct_port_threshold" cfg.distinctPortThreshold
  let synThreshold ←
    readNonnegativeInteger s.synFlood "syn_threshold" cfg.synThreshold.toUInt64
  let aiQueueCapacity ← readNonnegativeInteger s.ai "queue_capacity" cfg.ai.queueCapacity
  let aiStartupTimeout ←
    readNonnegativeInteger s.ai "startup_timeout_ms" (widen cfg.ai.startupTimeoutMs)
  let aiResponseTimeout ←
    readNonnegativeInteger s.ai "response_timeout_ms" (widen cfg.ai.responseTimeoutMs)
  let aiMaxRestarts ← readNonnegativeInteger s.ai "max_restarts" (widen cfg.ai.maxRestarts)
  let aiRestartReset ←
    readNonnegativeInteger s.ai "restart_reset_seconds" (widen cfg.ai.restartResetSeconds)
  return do
    return ⟨← queueNum, ← blockTtlSeconds, ← windowSeconds, ← distinctPortThreshold,
      ← synThreshold, ← aiQueueCapacity, ← aiStartupTimeout, ← aiResponseTimeout, ← aiMaxRestarts,
      ← aiRestartReset⟩

/-- As many ports as a window can tell apart. -/
def maxDistinctPortCount : UInt64 := 65536

namespace Integers

def outOfRange (n : Integers) : Bool :=
  n.queueNum > 65535 || n.blockTtlSeconds == 0 || n.blockTtlSeconds > 2147483647 ||
    n.windowSeconds == 0 || n.windowSeconds > 2147483647 || n.distinctPortThreshold == 0 ||
    n.distinctPortThreshold > maxDistinctPortCount || n.synThreshold == 0 ||
    n.synThreshold > 4294967295

def aiOutOfRange (n : Integers) : Bool :=
  n.aiQueueCapacity == 0 || n.aiQueueCapacity > 65536 || n.aiStartupTimeout < 1000 ||
    n.aiStartupTimeout > 60000 || n.aiResponseTimeout < 100 || n.aiResponseTimeout > 60000 ||
    n.aiMaxRestarts > 10 || n.aiRestartReset == 0 || n.aiRestartReset > 3600

/-- The configuration with the integers narrowed to its fields. -/
def toConfig (n : Integers) (whitelist : List String) (enabled : Bool) (artifactDir : String) :
    Config where
  queueNum := n.queueNum.toUInt16
  blockTtlSeconds := narrow n.blockTtlSeconds
  whitelist := whitelist
  windowSeconds := narrow n.windowSeconds
  distinctPortThreshold := n.distinctPortThreshold
  synThreshold := n.synThreshold.toUInt32
  ai :=
    { enabled := enabled
      artifactDir := artifactDir
      queueCapacity := n.aiQueueCapacity
      startupTimeoutMs := narrow n.aiStartupTimeout
      responseTimeoutMs := narrow n.aiResponseTimeout
      maxRestarts := narrow n.aiMaxRestarts
      restartResetSeconds := narrow n.aiRestartReset }

end Integers

/-- The `try` block behind the parsing of the text. -/
def parseValue (j : Value) : Except Exception (Option Config) := do
  let cfg : Config := {}
  let s ← readSections j
  if ← aiTypeError s.ai then
    return none
  let some n ← readIntegers cfg s | return none
  let whitelist ← value getStrings s.root "whitelist" cfg.whitelist
  if n.outOfRange || n.aiOutOfRange then
    return none
  let enabled ← value getBool s.ai "enabled" cfg.ai.enabled
  let artifactDir ← value getString s.ai "artifact_dir" cfg.ai.artifactDir
  if artifactDir = "" then
    return none
  return some (n.toConfig whitelist enabled artifactDir)

/-- `parse_config`, given what `json::parse` makes of the text. -/
def parseConfig (parsed : Except Exception Value) : Except Exception (Option Config) :=
  match parsed >>= parseValue with
  | .error (.json _) => .ok none
  | result => result

/-! ## Conversions -/

theorem toNat_toUInt64 {n : Int64} (h : 0 ≤ n) : (n.toUInt64.toNat : Int) = n.toInt := by
  rw [Int64.toNat_toUInt64_of_le h]
  exact Int.toNat_of_nonneg (Int64.le_iff_toInt_le.mp h)

theorem toInt_narrow {n : UInt64} (h : n.toNat < 2 ^ 31) : (narrow n).toInt = n.toNat := by
  have htoInt : (narrow n).toInt = (n.toUInt32.toNat : Int).bmod (2 ^ 32) :=
    BitVec.toInt_eq_toNat_bmod _
  rw [htoInt, UInt64.toNat_toUInt32, Int.bmod_def]
  split <;> omega

theorem toNat_widen {n : Int32} (h : 0 ≤ n.toInt) : ((widen n).toNat : Int) = n.toInt := by
  rw [widen, toNat_toUInt64, Int32.toInt_toInt64]
  rw [Int64.le_iff_toInt_le, Int32.toInt_toInt64]
  exact h

theorem narrow_widen (n : Int32) : narrow (widen n) = n := by
  apply Int32.toBitVec.inj
  change (n.toBitVec.signExtend 64).setWidth 32 = n.toBitVec
  ext i hi
  have hlt : i < 64 := by omega
  simp [BitVec.getElem_signExtend, hi, hlt]

/-! ## What the readers read -/

section Readers

variable {object : Value} {key : String} {A : Type} {get : Value → Except Exception A}

/-- What an object says about an integer, `d` when it says nothing. -/
def IntegerAt (object : Value) (key : String) (d n : UInt64) : Prop :=
  match object.member? key with
  | none => n = d
  | some w => ∃ k : JsonNumber, w = .number k ∧ k.toInt? = some (n.toNat : Int)

theorem value_eq_ok_iff {d a : A} : value get object key d = .ok a ↔
    isObject object = true ∧
      match object.member? key with
      | none => a = d
      | some w => get w = .ok a := by
  cases object with
  | object members =>
    simp only [value, isObject, Json.member?_object, true_and]
    cases members.lookup key <;> simp [eq_comm]
  | _ => simp [value, isObject]

theorem readNonnegativeInteger_eq (object : Value) (key : String) (d : UInt64) :
    ∃ r, readNonnegativeInteger object key d = .ok r ∧
      ∀ n, r = some n ↔ isObject object = true ∧ IntegerAt object key d n := by
  unfold readNonnegativeInteger IntegerAt
  cases hobject : isObject object with
  | false => exact ⟨none, rfl, by simp⟩
  | true =>
    cases hmember : object.member? key with
    | none => exact ⟨some d, by simp [hmember], by simp [eq_comm]⟩
    | some w =>
      simp only [contains_eq, hmember, at_of_member hmember, Option.isSome_some, Bool.not_true,
        Bool.false_eq_true, if_false, ok_bind, true_and]
      cases w with
      | number k =>
        cases k with
        | unsigned m => exact ⟨some m, rfl, by simp [JsonNumber.toInt?, UInt64.toNat_inj]⟩
        | integer m =>
          refine ⟨if 0 ≤ m then some m.toUInt64 else none, rfl, fun n => ?_⟩
          split
          · rename_i hm
            simp [JsonNumber.toInt?, ← toNat_toUInt64 hm, UInt64.toNat_inj]
          · rename_i hm
            have hneg : m.toInt < 0 := by
              rw [← Int64.toInt_zero, ← Int64.lt_iff_toInt_lt]
              exact Int64.not_le.mp hm
            simp only [JsonNumber.toInt?, Json.number.injEq, reduceCtorEq, false_iff, not_exists,
              not_and]
            rintro k rfl hk
            rw [Option.some.injEq] at hk
            omega
        | float x => exact ⟨none, rfl, by simp [JsonNumber.toInt?]⟩
      | _ => exact ⟨none, rfl, by simp⟩

end Readers

/-! ## The integer fields -/

/-- An integer field: where a JSON value has it, its range, and where the program keeps it. -/
structure IntegerField where
  path : List String
  key : String
  low : Nat
  high : Nat
  object : Sections → Value
  raw : Integers → UInt64
  get : Config → Int

def integerFields : List IntegerField :=
  [⟨[], "queue_num", 0, 65535, Sections.root, Integers.queueNum, fun c => c.queueNum.toNat⟩,
    ⟨[], "block_ttl_seconds", 1, 2147483647, Sections.root, Integers.blockTtlSeconds,
      fun c => c.blockTtlSeconds.toInt⟩,
    ⟨["rules"], "window_seconds", 1, 2147483647, Sections.rules, Integers.windowSeconds,
      fun c => c.windowSeconds.toInt⟩,
    ⟨["rules", "port_scan"], "distinct_port_threshold", 1, 65536, Sections.portScan,
      Integers.distinctPortThreshold, fun c => c.distinctPortThreshold.toNat⟩,
    ⟨["rules", "syn_flood"], "syn_threshold", 1, 4294967295, Sections.synFlood,
      Integers.synThreshold, fun c => c.synThreshold.toNat⟩,
    ⟨["ai"], "queue_capacity", 1, 65536, Sections.ai, Integers.aiQueueCapacity,
      fun c => c.ai.queueCapacity.toNat⟩,
    ⟨["ai"], "startup_timeout_ms", 1000, 60000, Sections.ai, Integers.aiStartupTimeout,
      fun c => c.ai.startupTimeoutMs.toInt⟩,
    ⟨["ai"], "response_timeout_ms", 100, 60000, Sections.ai, Integers.aiResponseTimeout,
      fun c => c.ai.responseTimeoutMs.toInt⟩,
    ⟨["ai"], "max_restarts", 0, 10, Sections.ai, Integers.aiMaxRestarts,
      fun c => c.ai.maxRestarts.toInt⟩,
    ⟨["ai"], "restart_reset_seconds", 1, 3600, Sections.ai, Integers.aiRestartReset,
      fun c => c.ai.restartResetSeconds.toInt⟩]

/-- The fields of a configuration widened again. -/
def Config.integers (cfg : Config) : Integers where
  queueNum := cfg.queueNum.toUInt64
  blockTtlSeconds := widen cfg.blockTtlSeconds
  windowSeconds := widen cfg.windowSeconds
  distinctPortThreshold := cfg.distinctPortThreshold
  synThreshold := cfg.synThreshold.toUInt64
  aiQueueCapacity := cfg.ai.queueCapacity
  aiStartupTimeout := widen cfg.ai.startupTimeoutMs
  aiResponseTimeout := widen cfg.ai.responseTimeoutMs
  aiMaxRestarts := widen cfg.ai.maxRestarts
  aiRestartReset := widen cfg.ai.restartResetSeconds

/-- The range of a field. -/
def IntegerField.Allows (field : IntegerField) (k : Int) : Prop := field.low ≤ k ∧ k ≤ field.high

/-- Widening keeps what is not negative. -/
theorem raw_integers {cfg : Config} : ∀ field ∈ integerFields, 0 ≤ field.get cfg →
    ((field.raw cfg.integers).toNat : Int) = field.get cfg := by
  simp only [integerFields, List.forall_mem_cons, List.not_mem_nil, false_implies, implies_true,
    and_true, Config.integers]
  simp +contextual [toNat_widen]

theorem toConfig_integers (cfg : Config) :
    cfg.integers.toConfig cfg.whitelist cfg.ai.enabled cfg.ai.artifactDir = cfg := by
  simp [Config.integers, Integers.toConfig, narrow_widen]

/-- Narrowing keeps what is in the range of its field. -/
theorem get_toConfig {n : Integers} {whitelist : List String} {enabled : Bool}
    {artifactDir : String} : ∀ field ∈ integerFields, field.Allows (field.raw n).toNat →
      field.get (n.toConfig whitelist enabled artifactDir) = (field.raw n).toNat := by
  have hnarrow {m : UInt64} {low high : Nat} (hhigh : high < 2 ^ 31)
      (h : (low : Int) ≤ m.toNat ∧ (m.toNat : Int) ≤ high) : (narrow m).toInt = m.toNat :=
    toInt_narrow (by omega)
  simp only [integerFields, List.forall_mem_cons, List.not_mem_nil, false_implies, implies_true,
    and_true, Integers.toConfig, IntegerField.Allows]
  refine ⟨fun h => ?_, hnarrow (by decide), hnarrow (by decide), trivial, fun h => ?_,
    trivial, hnarrow (by decide), hnarrow (by decide), hnarrow (by decide),
    hnarrow (by decide)⟩
  · rw [UInt64.toNat_toUInt16]
    omega
  · rw [UInt64.toNat_toUInt32]
    omega

theorem inRange_iff {n : Integers} : (n.outOfRange || n.aiOutOfRange) = false ↔
    ∀ field ∈ integerFields, field.Allows (field.raw n).toNat := by
  simp only [integerFields, List.forall_mem_cons, List.not_mem_nil, false_implies, implies_true,
    and_true, IntegerField.Allows, Integers.outOfRange, Integers.aiOutOfRange, maxDistinctPortCount]
  simp only [Bool.or_eq_false_iff, decide_eq_false_iff_not, beq_eq_false_iff_ne, ne_eq,
    ← UInt64.toNat_inj, gt_iff_lt, UInt64.lt_iff_toNat_lt]
  simp only [UInt64.reduceToNat]
  omega

theorem readIntegers_eq (s : Sections) : ∃ r, readIntegers {} s = .ok r ∧
    ∀ n, r = some n ↔ ∀ field ∈ integerFields, isObject (field.object s) = true ∧
      IntegerAt (field.object s) field.key (field.raw (Config.integers {})) (field.raw n) := by
  obtain ⟨r₁, h₁, hr₁⟩ := readNonnegativeInteger_eq s.root "queue_num" _
  obtain ⟨r₂, h₂, hr₂⟩ := readNonnegativeInteger_eq s.root "block_ttl_seconds" _
  obtain ⟨r₃, h₃, hr₃⟩ := readNonnegativeInteger_eq s.rules "window_seconds" _
  obtain ⟨r₄, h₄, hr₄⟩ := readNonnegativeInteger_eq s.portScan "distinct_port_threshold" _
  obtain ⟨r₅, h₅, hr₅⟩ := readNonnegativeInteger_eq s.synFlood "syn_threshold" _
  obtain ⟨r₆, h₆, hr₆⟩ := readNonnegativeInteger_eq s.ai "queue_capacity" _
  obtain ⟨r₇, h₇, hr₇⟩ := readNonnegativeInteger_eq s.ai "startup_timeout_ms" _
  obtain ⟨r₈, h₈, hr₈⟩ := readNonnegativeInteger_eq s.ai "response_timeout_ms" _
  obtain ⟨r₉, h₉, hr₉⟩ := readNonnegativeInteger_eq s.ai "max_restarts" _
  obtain ⟨r₁₀, h₁₀, hr₁₀⟩ := readNonnegativeInteger_eq s.ai "restart_reset_seconds" _
  unfold readIntegers
  rw [h₁, h₂, h₃, h₄, h₅, h₆, h₇, h₈, h₉, h₁₀]
  simp only [ok_bind]
  refine ⟨_, rfl, fun n => ?_⟩
  obtain ⟨n₁, n₂, n₃, n₄, n₅, n₆, n₇, n₈, n₉, n₁₀⟩ := n
  simp only [integerFields, List.forall_mem_cons, List.not_mem_nil, false_implies, implies_true,
    and_true]
  simp only [Option.bind_eq_bind, Option.bind_eq_some_iff, Option.pure_def, Option.some.injEq]
  constructor
  · rintro ⟨_, g₁, _, g₂, _, g₃, _, g₄, _, g₅, _, g₆, _, g₇, _, g₈, _, g₉, _, g₁₀, heq⟩
    cases heq
    exact ⟨(hr₁ _).mp g₁, (hr₂ _).mp g₂, (hr₃ _).mp g₃, (hr₄ _).mp g₄, (hr₅ _).mp g₅,
      (hr₆ _).mp g₆, (hr₇ _).mp g₇, (hr₈ _).mp g₈, (hr₉ _).mp g₉, (hr₁₀ _).mp g₁₀⟩
  · rintro ⟨g₁, g₂, g₃, g₄, g₅, g₆, g₇, g₈, g₉, g₁₀⟩
    exact ⟨_, (hr₁ _).mpr g₁, _, (hr₂ _).mpr g₂, _, (hr₃ _).mpr g₃, _, (hr₄ _).mpr g₄,
      _, (hr₅ _).mpr g₅, _, (hr₆ _).mpr g₆, _, (hr₇ _).mpr g₇, _, (hr₈ _).mpr g₈,
      _, (hr₉ _).mpr g₉, _, (hr₁₀ _).mpr g₁₀, rfl⟩

/-! ## What a value says -/

/-- The member of an object, or an empty object. -/
def sectionOf (object : Value) (key : String) : Value := (object.member? key).getD (.object [])

def sectionsOf (v : Value) : Sections where
  root := v
  rules := sectionOf v "rules"
  portScan := sectionOf (sectionOf v "rules") "port_scan"
  synFlood := sectionOf (sectionOf v "rules") "syn_flood"
  ai := sectionOf v "ai"

/-- The value at the end of a path of members. -/
def memberAt? (v : Value) : List String → Option Value
  | [] => some v
  | key :: path => (v.member? key).bind fun w => memberAt? w path

/-- The places where an object stands. -/
def sectionPaths : List (List String) :=
  [[], ["rules"], ["rules", "port_scan"], ["rules", "syn_flood"], ["ai"]]

/-- What the value says about an integer field. -/
def IntegerField.Reads (field : IntegerField) (v : Value) (cfg : Config) : Prop :=
  match memberAt? v (field.path ++ [field.key]) with
  | none => field.get cfg = field.get {}
  | some w => ∃ k : JsonNumber, w = .number k ∧ k.toInt? = some (field.get cfg) ∧
      field.Allows (field.get cfg)

/-- What the value says about a field of another type, `d` when it says nothing. -/
def Holds {A : Type} (v : Value) (path : List String) (d : A) (write : A → Value) (a : A) : Prop :=
  match memberAt? v path with
  | none => a = d
  | some w => w = write a

/-- The value says the configuration: every object is one, and every field has what is written, or
its default. -/
structure Meets (v : Value) (cfg : Config) : Prop where
  objects : ∀ path ∈ sectionPaths, ∀ w, memberAt? v path = some w → isObject w = true
  integers : ∀ field ∈ integerFields, field.Reads v cfg
  whitelist : Holds v ["whitelist"] [] (fun strings => .array (strings.map .string)) cfg.whitelist
  enabled : Holds v ["ai", "enabled"] true .bool cfg.ai.enabled
  artifactDir : Holds v ["ai", "artifact_dir"] "ml/artifacts" .string cfg.ai.artifactDir
  artifactDirNonempty : cfg.ai.artifactDir ≠ ""

theorem member?_sectionOf (v : Value) (section_ key : String) :
    (sectionOf v section_).member? key = (v.member? section_).bind fun w => w.member? key := by
  unfold sectionOf
  cases v.member? section_ <;> simp

/-- The object of a field has what stands at its path. -/
theorem member?_object {v : Value} : ∀ field ∈ integerFields,
    (field.object (sectionsOf v)).member? field.key = memberAt? v (field.path ++ [field.key]) := by
  simp only [integerFields, List.forall_mem_cons, List.not_mem_nil, false_implies, implies_true,
    and_true, sectionsOf, member?_sectionOf]
  simp [memberAt?, Option.bind_assoc]

/-- The sections are read when everything on the way to them is an object. -/
theorem readSections_eq_ok_iff {v : Value} {s : Sections} : readSections v = .ok s ↔
    s = sectionsOf v ∧ isObject v = true ∧ isObject (sectionsOf v).rules = true := by
  have hvalue {object w : Value} {key : String} : value .ok object key (.object []) = .ok w ↔
      isObject object = true ∧ w = sectionOf object key := by
    rw [value_eq_ok_iff, sectionOf]
    cases object.member? key with
    | none => rfl
    | some w' =>
      exact and_congr_right fun _ => ⟨fun h => (Except.ok.inj h).symm, fun h => congrArg _ h.symm⟩
  simp only [readSections, bind_eq_ok_iff, hvalue, pure_eq_ok, Except.ok.injEq]
  constructor
  · rintro ⟨rules, ⟨hv, rfl⟩, portScan, ⟨hrules, rfl⟩, synFlood, ⟨-, rfl⟩, ai, ⟨-, rfl⟩, rfl⟩
    exact ⟨rfl, hv, hrules⟩
  · rintro ⟨rfl, hv, hrules⟩
    exact ⟨_, ⟨hv, rfl⟩, _, ⟨hrules, rfl⟩, _, ⟨hrules, rfl⟩, _, ⟨hv, rfl⟩, rfl⟩

theorem hasOther_eq (expected : Value → Bool) (object : Value) (key : String) :
    ∃ b, hasOther expected object key = .ok b ∧
      (b = false ↔ ∀ w, object.member? key = some w → expected w = true) := by
  unfold hasOther
  cases hmember : object.member? key with
  | none => exact ⟨false, by simp [hmember], by simp⟩
  | some w => exact ⟨!expected w, by simp [hmember, at_of_member hmember], by simp⟩

theorem aiTypeError_eq (ai : Value) : ∃ b, aiTypeError ai = .ok b ∧
    (b = false ↔ isObject ai = true ∧
      (∀ w, ai.member? "enabled" = some w → isBoolean w = true) ∧
      ∀ w, ai.member? "artifact_dir" = some w → isString w = true) := by
  obtain ⟨b, hb, henabled⟩ := hasOther_eq isBoolean ai "enabled"
  obtain ⟨b', hb', hartifactDir⟩ := hasOther_eq isString ai "artifact_dir"
  unfold aiTypeError
  cases hobject : isObject ai with
  | false => exact ⟨true, by simp, by simp⟩
  | true =>
    cases b with
    | true => exact ⟨true, by simp [hb], by simp [← henabled]⟩
    | false =>
      refine ⟨b', by simp [hb, hb'], ?_⟩
      rw [hartifactDir]
      exact ⟨fun h => ⟨rfl, henabled.mp rfl, h⟩, fun h => h.2.2⟩

theorem getBool_eq_ok_iff {w : Value} {b : Bool} : getBool w = .ok b ↔ w = .bool b := by
  cases w <;> simp [getBool]

theorem getString_eq_ok_iff {w : Value} {s : String} : getString w = .ok s ↔ w = .string s := by
  cases w <;> simp [getString]

theorem getStrings_eq_ok_iff {w : Value} {strings : List String} :
    getStrings w = .ok strings ↔ w = .array (strings.map .string) := by
  cases w with
  | array elements =>
    simp only [getStrings, Json.array.injEq]
    induction elements generalizing strings with
    | nil => cases strings <;> simp
    | cons w elements ih =>
      rw [List.mapM_cons]
      simp only [bind_eq_ok_iff, getString_eq_ok_iff, ih, pure_eq_ok, Except.ok.injEq]
      cases strings with
      | nil => simp
      | cons string strings =>
        simp only [List.map_cons, List.cons.injEq]
        constructor
        · rintro ⟨_, rfl, _, rfl, rfl, rfl⟩
          exact ⟨rfl, rfl⟩
        · rintro ⟨rfl, rfl⟩
          exact ⟨_, rfl, _, rfl, rfl, rfl⟩
  | _ => simp [getStrings, typeError]

theorem Holds.eq_write {A : Type} {v w : Value} {path : List String} {d a : A} {write : A → Value}
    (h : Holds v path d write a) (hw : memberAt? v path = some w) : w = write a := by
  rw [Holds, hw] at h
  exact h

/-- A field of another type is read with its accessor. -/
theorem value_holds {A : Type} {get : Value → Except Exception A} {write : A → Value}
    (hget : ∀ w a, get w = .ok a ↔ w = write a) {v object : Value} {path : List String}
    {key : String} {d a : A} (hmember : object.member? key = memberAt? v (path ++ [key])) :
    value get object key d = .ok a ↔
      isObject object = true ∧ Holds v (path ++ [key]) d write a := by
  rw [value_eq_ok_iff, hmember, Holds]
  cases memberAt? v (path ++ [key]) with
  | none => rfl
  | some w => exact and_congr_right fun _ => hget w a

theorem isObject_sectionOf {object : Value} {key : String} :
    isObject (sectionOf object key) = true ↔
      ∀ w, object.member? key = some w → isObject w = true := by
  unfold sectionOf
  cases object.member? key <;> simp [isObject]

theorem objects_iff {v : Value} :
    (∀ path ∈ sectionPaths, ∀ w, memberAt? v path = some w → isObject w = true) ↔
      isObject v = true ∧ isObject (sectionsOf v).rules = true ∧
        isObject (sectionsOf v).portScan = true ∧ isObject (sectionsOf v).synFlood = true ∧
        isObject (sectionsOf v).ai = true := by
  simp only [sectionPaths, List.forall_mem_cons, List.not_mem_nil, false_implies, implies_true,
    and_true, sectionsOf, isObject_sectionOf, member?_sectionOf, memberAt?]
  simp

/-- The integer fields use all the objects. -/
theorem fieldObjects_iff {s : Sections} :
    (∀ field ∈ integerFields, isObject (field.object s) = true) ↔
      isObject s.root = true ∧ isObject s.rules = true ∧ isObject s.portScan = true ∧
        isObject s.synFlood = true ∧ isObject s.ai = true := by
  simp only [integerFields, List.forall_mem_cons, List.not_mem_nil, false_implies, implies_true,
    and_true, and_self, and_self_left]

/-- Every default is in the range of its field. -/
theorem defaults_allowed : ∀ field ∈ integerFields, field.Allows (field.get {}) := by
  simp only [integerFields, List.forall_mem_cons, List.not_mem_nil, false_implies, implies_true,
    and_true, IntegerField.Allows]
  decide

section Integers

variable {v : Value} {n : Integers} {cfg : Config} {field : IntegerField}

/-- What is read in range is what the configuration holds. -/
theorem reads_toConfig {whitelist : List String} {enabled : Bool} {artifactDir : String}
    (hfield : field ∈ integerFields) (hallowed : field.Allows (field.raw n).toNat)
    (hread : IntegerAt (field.object (sectionsOf v)) field.key (field.raw (Config.integers {}))
      (field.raw n)) : field.Reads v (n.toConfig whitelist enabled artifactDir) := by
  have hget : field.get (n.toConfig whitelist enabled artifactDir) = (field.raw n).toNat :=
    get_toConfig field hfield hallowed
  unfold IntegerAt at hread
  unfold IntegerField.Reads
  rw [member?_object field hfield] at hread
  rw [hget]
  cases hmember : memberAt? v (field.path ++ [field.key]) with
  | none =>
    rw [hmember] at hread
    dsimp only at hread ⊢
    have hdefault := (defaults_allowed field hfield).1
    rw [hread, raw_integers field hfield (by omega)]
  | some w =>
    rw [hmember] at hread
    obtain ⟨k, hk, hvalue⟩ := hread
    exact ⟨k, hk, hvalue, hallowed⟩

theorem IntegerField.Reads.allowed (hfield : field ∈ integerFields) (h : field.Reads v cfg) :
    field.Allows (field.get cfg) := by
  unfold IntegerField.Reads at h
  split at h
  · rw [h]
    exact defaults_allowed field hfield
  · obtain ⟨-, -, -, hallowed⟩ := h
    exact hallowed

/-- What the configuration holds is read. -/
theorem IntegerField.Reads.integerAt (hfield : field ∈ integerFields) (h : field.Reads v cfg) :
    IntegerAt (field.object (sectionsOf v)) field.key (field.raw (Config.integers {}))
      (field.raw cfg.integers) := by
  have hnonneg : 0 ≤ field.get cfg := by
    have hallowed := (h.allowed hfield).1
    omega
  have hraw := raw_integers field hfield hnonneg
  unfold IntegerField.Reads at h
  unfold IntegerAt
  rw [member?_object field hfield]
  cases hmember : memberAt? v (field.path ++ [field.key]) with
  | none =>
    rw [hmember] at h
    dsimp only at h ⊢
    have hdefault := raw_integers field hfield (h ▸ hnonneg)
    rw [h, ← hdefault] at hraw
    exact UInt64.toNat_inj.mp (by omega)
  | some w =>
    rw [hmember] at h
    obtain ⟨k, hk, hvalue, -⟩ := h
    exact ⟨k, hk, by rw [hvalue, hraw]⟩

end Integers

theorem member?_ai (v : Value) (key : String) :
    (sectionsOf v).ai.member? key = memberAt? v (["ai"] ++ [key]) := by
  simp [sectionsOf, member?_sectionOf, memberAt?]

theorem member?_root (v : Value) (key : String) :
    (sectionsOf v).root.member? key = memberAt? v ([] ++ [key]) := by
  simp [sectionsOf, memberAt?]

theorem meets_of_parseValue {v : Value} {cfg : Config} (h : parseValue v = .ok (some cfg)) :
    Meets v cfg := by
  obtain ⟨b, hb, -⟩ := aiTypeError_eq (sectionsOf v).ai
  obtain ⟨r, hr, hread⟩ := readIntegers_eq (sectionsOf v)
  unfold parseValue at h
  obtain ⟨s, hs, h⟩ := bind_eq_ok_iff.mp h
  obtain ⟨rfl, hroot, hrules⟩ := readSections_eq_ok_iff.mp hs
  rw [hb, hr, ok_bind, ok_bind] at h
  cases b with
  | true => cases h
  | false =>
    cases r with
    | none => cases h
    | some n =>
      obtain ⟨whitelist, hwhitelist, h⟩ := bind_eq_ok_iff.mp h
      split at h
      · cases h
      · rename_i hinRange
        obtain ⟨enabled, henabled, h⟩ := bind_eq_ok_iff.mp h
        obtain ⟨artifactDir, hartifactDir, h⟩ := bind_eq_ok_iff.mp h
        split at h
        · cases h
        · rename_i hnonempty
          cases h
          have hintegers := (hread n).mp rfl
          have hallowed := inRange_iff.mp (Bool.eq_false_of_not_eq_true hinRange)
          exact {
            objects := objects_iff.mpr
              (fieldObjects_iff.mp fun field hfield => (hintegers field hfield).1)
            integers := fun field hfield =>
              reads_toConfig hfield (hallowed field hfield) (hintegers field hfield).2
            whitelist :=
              ((value_holds (fun _ _ => getStrings_eq_ok_iff) (member?_root v _)).mp hwhitelist).2
            enabled :=
              ((value_holds (fun _ _ => getBool_eq_ok_iff) (member?_ai v _)).mp henabled).2
            artifactDir :=
              ((value_holds (fun _ _ => getString_eq_ok_iff) (member?_ai v _)).mp hartifactDir).2
            artifactDirNonempty := hnonempty }

theorem parseValue_of_meets {v : Value} {cfg : Config} (h : Meets v cfg) :
    parseValue v = .ok (some cfg) := by
  obtain ⟨b, hb, htypes⟩ := aiTypeError_eq (sectionsOf v).ai
  obtain ⟨r, hr, hread⟩ := readIntegers_eq (sectionsOf v)
  have hobjects := objects_iff.mp h.objects
  have hn : r = some cfg.integers := (hread _).mpr fun field hfield =>
    ⟨fieldObjects_iff.mpr hobjects field hfield, (h.integers field hfield).integerAt hfield⟩
  obtain ⟨hroot, hrules, -, -, hai⟩ := hobjects
  have hb' : b = false := by
    refine htypes.mpr ⟨hai, fun w hw => ?_, fun w hw => ?_⟩
    · rw [h.enabled.eq_write ((member?_ai v _).symm.trans hw)]
      rfl
    · rw [h.artifactDir.eq_write ((member?_ai v _).symm.trans hw)]
      rfl
  have hinRange : (cfg.integers.outOfRange || cfg.integers.aiOutOfRange) = false := by
    rw [inRange_iff]
    intro field hfield
    have hallowed := (h.integers field hfield).allowed hfield
    rw [raw_integers field hfield (by have := hallowed.1; omega)]
    exact hallowed
  have hwhitelist : value getStrings (sectionsOf v).root "whitelist" [] = .ok cfg.whitelist :=
    (value_holds (fun _ _ => getStrings_eq_ok_iff) (member?_root v _)).mpr ⟨hroot, h.whitelist⟩
  have henabled : value getBool (sectionsOf v).ai "enabled" true = .ok cfg.ai.enabled :=
    (value_holds (fun _ _ => getBool_eq_ok_iff) (member?_ai v _)).mpr ⟨hai, h.enabled⟩
  have hartifactDir : value getString (sectionsOf v).ai "artifact_dir" "ml/artifacts" =
      .ok cfg.ai.artifactDir :=
    (value_holds (fun _ _ => getString_eq_ok_iff) (member?_ai v _)).mpr ⟨hai, h.artifactDir⟩
  subst hn hb'
  unfold parseValue
  rw [readSections_eq_ok_iff.mpr ⟨rfl, hroot, hrules⟩]
  simp only [ok_bind, hb, hr, hwhitelist, hinRange, henabled, hartifactDir, h.artifactDirNonempty,
    toConfig_integers, Bool.false_eq_true, if_false, pure_eq_ok]

/-- **The `try` block makes the configuration that the value says.** -/
theorem parseValue_eq_ok_iff {v : Value} {cfg : Config} :
    parseValue v = .ok (some cfg) ↔ Meets v cfg :=
  ⟨meets_of_parseValue, parseValue_of_meets⟩

/-! ## Exceptions -/

/-- Nothing but an exception of the JSON library is thrown. -/
def JsonOnly {A : Type} (r : Except Exception A) : Prop :=
  ∀ e, r = .error e → ∃ what, e = .json what

section JsonOnly

variable {A B : Type}

theorem jsonOnly_ok (a : A) : JsonOnly (.ok a) := by
  intro e he
  cases he

theorem JsonOnly.bind {r : Except Exception A} {f : A → Except Exception B} (hr : JsonOnly r)
    (hf : ∀ a, JsonOnly (f a)) : JsonOnly (r >>= f) := by
  intro e he
  rcases bind_eq_error_iff.mp he with hfirst | ⟨a, -, hrest⟩
  · exact hr e hfirst
  · exact hf a e hrest

theorem jsonOnly_value {get : Value → Except Exception A} (hget : ∀ w, JsonOnly (get w))
    (object : Value) (key : String) (d : A) : JsonOnly (value get object key d) := by
  unfold value
  split
  · split
    · exact hget _
    · exact jsonOnly_ok d
  · intro e he
    cases he
    exact ⟨_, rfl⟩

theorem jsonOnly_typeError (expected : String) (w : Value) :
    JsonOnly (.error (typeError expected w) : Except Exception A) := by
  intro e he
  cases he
  exact ⟨_, rfl⟩

theorem jsonOnly_getString (w : Value) : JsonOnly (getString w) := by
  cases w with
  | string s => exact jsonOnly_ok s
  | _ => exact jsonOnly_typeError _ _

theorem jsonOnly_getBool (w : Value) : JsonOnly (getBool w) := by
  cases w with
  | bool b => exact jsonOnly_ok b
  | _ => exact jsonOnly_typeError _ _

theorem jsonOnly_getStrings (w : Value) : JsonOnly (getStrings w) := by
  cases w with
  | array elements =>
    change JsonOnly (elements.mapM getString)
    induction elements with
    | nil => exact jsonOnly_ok []
    | cons w elements ih =>
      rw [List.mapM_cons]
      exact (jsonOnly_getString w).bind fun _ => ih.bind fun _ => jsonOnly_ok _
  | _ => exact jsonOnly_typeError _ _

theorem jsonOnly_readSections (v : Value) : JsonOnly (readSections v) :=
  (jsonOnly_value jsonOnly_ok _ _ _).bind fun _ => (jsonOnly_value jsonOnly_ok _ _ _).bind fun _ =>
    (jsonOnly_value jsonOnly_ok _ _ _).bind fun _ => (jsonOnly_value jsonOnly_ok _ _ _).bind
      fun _ => jsonOnly_ok _

theorem jsonOnly_parseValue (v : Value) : JsonOnly (parseValue v) := by
  unfold parseValue
  refine (jsonOnly_readSections v).bind fun s => ?_
  obtain ⟨b, hb, -⟩ := aiTypeError_eq s.ai
  obtain ⟨r, hr, -⟩ := readIntegers_eq s
  rw [hb, hr, ok_bind, ok_bind]
  cases b with
  | true => exact jsonOnly_ok none
  | false =>
    cases r with
    | none => exact jsonOnly_ok none
    | some n =>
      refine (jsonOnly_value jsonOnly_getStrings _ _ _).bind fun whitelist => ?_
      split
      · exact jsonOnly_ok none
      · refine (jsonOnly_value jsonOnly_getBool _ _ _).bind fun enabled => ?_
        refine (jsonOnly_value jsonOnly_getString _ _ _).bind fun artifactDir => ?_
        split
        · exact jsonOnly_ok none
        · exact jsonOnly_ok _

end JsonOnly

/-- **What comes out of the parser.** The configuration that the value says, or nothing when it
says none. -/
theorem parseConfig_eq (v : Value) :
    (∀ cfg, parseConfig (.ok v) = .ok (some cfg) ↔ Meets v cfg) ∧
      ((∀ cfg, ¬ Meets v cfg) → parseConfig (.ok v) = .ok none) := by
  have hcaught : ∃ r, parseConfig (.ok v) = .ok r ∧
      ∀ cfg, r = some cfg ↔ parseValue v = .ok (some cfg) := by
    unfold parseConfig
    rw [ok_bind]
    cases hparse : parseValue v with
    | ok r => exact ⟨r, rfl, by simp⟩
    | error e =>
      obtain ⟨what, rfl⟩ := jsonOnly_parseValue v e hparse
      exact ⟨none, rfl, by simp⟩
  obtain ⟨r, hr, hsome⟩ := hcaught
  have hmeets : ∀ cfg, r = some cfg ↔ Meets v cfg := fun cfg =>
    (hsome cfg).trans parseValue_eq_ok_iff
  rw [hr]
  refine ⟨fun cfg => ?_, fun hnone => ?_⟩
  · rw [Except.ok.injEq]
    exact hmeets cfg
  · rw [Option.eq_none_iff_forall_ne_some.mpr fun cfg hcfg => hnone cfg ((hmeets cfg).mp hcfg)]

end InlineIps.ConfigFile
