import InlineIps.Ai.FlowRecord
import InlineIps.Common.Nlohmann

/-!
# The request and the response of the AI protocol

`serializeFlowRequest` writes a flow record as a JSON text and `parseAiResponse` reads the
reply. The text layer of the JSON library is a parameter of both.

* `Accepts`: what a schema-1 response to the pending request is.
* `parseAiResponse_cases`: a reply is accepted with the fields of its value and no error
  text, or refused with an error text.
* `parseAiResponse_meets_iff`: the parser accepts exactly these responses, unless the
  schema version is another integer that is 1 in its low 32 bits.
-/

namespace InlineIps

open Library Library.Fallible Nlohmann

structure AiResponse where
  ok : Bool
  flowId : String
  modelVersion : String
  anomaly : Bool
  score : Float
  threshold : Float
  errorCode : String
  deriving DecidableEq

namespace AiProtocol

/-! ## Requests -/

def flowRequest (record : FlowRecord Float) : Value :=
  .object [
    ("schema_version", .number (.integer 1)),
    ("flow_id", .string record.flowId),
    ("src_ip", .string (ipToString record.key.srcIp)),
    ("src_port", .number (.unsigned record.key.srcPort.toUInt64)),
    ("dst_ip", .string (ipToString record.key.dstIp)),
    ("dst_port", .number (.unsigned record.key.dstPort.toUInt64)),
    ("protocol", .number (.unsigned record.key.protocol.toUInt64)),
    ("first_seen_ms", .number (.integer (.ofInt record.firstSeenMs))),
    ("last_seen_ms", .number (.integer (.ofInt record.lastSeenMs))),
    ("end_reason", .string (flowEndReasonToString record.endReason)),
    ("feature_schema_version", .number (.unsigned record.featureSchemaVersion.toUInt64)),
    ("features", .array (record.features.toList.map fun x => .number (.float x)))]

def serializeFlowRequest (dump : Value → String) (record : FlowRecord Float) : String :=
  dump (flowRequest record)

/-! ## Responses -/

def hasString (object : Value) (key : String) : Except Exception Bool := do
  if !contains object key then return false
  return isString (← at_ object key)

/-- The member is missing, not an integer or not 1 as an `int`. -/
def schemaVersionWrong (response : Value) : Except Exception Bool := do
  if !contains response "schema_version" then return true
  if !isNumberInteger (← at_ response "schema_version") then return true
  return (← getInt (← at_ response "schema_version")) != 1

/-- The member is not the expected string. -/
def stringDiffers (response : Value) (key expected : String) : Except Exception Bool := do
  if !(← hasString response key) then return true
  return (← getString (← at_ response key)) != expected

/-- The member is missing or of another type. -/
def memberMissing (isKind : Value → Bool) (response : Value) (key : String) :
    Except Exception Bool := do
  if !contains response key then return true
  return !isKind (← at_ response key)

/-- The member is not a string or is the empty string. -/
def stringEmpty (response : Value) (key : String) : Except Exception Bool := do
  if !(← hasString response key) then return true
  return (← getString (← at_ response key)).isEmpty

/-- The end of the `try` block: the fields that `ok` asks for. -/
def checkOutcome (response : Value) (parsed : AiResponse) :
    Except Exception (Option AiResponse × String) := do
  if !parsed.ok then
    if ← stringEmpty response "error_code" then
      return (none, "error_code 오류")
    let errorCode ← getString (← at_ response "error_code")
    return (some { parsed with errorCode }, "")
  if ← memberMissing isBoolean response "anomaly" then
    return (none, "anomaly 타입 오류")
  if ← memberMissing isNumber response "score" then
    return (none, "score 또는 threshold 타입 오류")
  if ← memberMissing isNumber response "threshold" then
    return (none, "score 또는 threshold 타입 오류")
  let score ← getDouble (← at_ response "score")
  let threshold ← getDouble (← at_ response "threshold")
  if !score.isFinite || score < 0 || !threshold.isFinite || threshold < 0 then
    return (none, "score 또는 threshold 범위 오류")
  let anomaly ← getBool (← at_ response "anomaly")
  return (some { parsed with anomaly, score, threshold }, "")

/-- The body of the `try` block. -/
def checkResponse (response : Value) (expectedFlowId expectedModelVersion : String) :
    Except Exception (Option AiResponse × String) := do
  if !isObject response then
    return (none, "응답이 JSON object가 아님")
  if ← schemaVersionWrong response then
    return (none, "schema_version 오류")
  if ← stringDiffers response "flow_id" expectedFlowId then
    return (none, "flow_id 불일치")
  if ← stringDiffers response "model_version" expectedModelVersion then
    return (none, "model_version 불일치")
  if ← memberMissing isBoolean response "ok" then
    return (none, "ok 타입 오류")
  let ok ← getBool (← at_ response "ok")
  checkOutcome response ⟨ok, expectedFlowId, expectedModelVersion, false, 0, 0, ""⟩

/-- The reply and the error text. `parse` is the text layer of the JSON library. -/
def parseAiResponse {Text : Type} (parse : Text → Except Exception Value) (jsonText : Text)
    (expectedFlowId expectedModelVersion : String) : Option AiResponse × String :=
  match (do checkResponse (← parse jsonText) expectedFlowId expectedModelVersion) with
  | .ok result => result
  | .error (.json what) => (none, "응답 JSON 오류: " ++ what)
  | .error (.std what) => (none, "응답 처리 오류: " ++ what)

/-! ## The checks -/

section Checks

variable {v : Value} {key : String}

/-- The integer under `schema_version`. -/
def schemaVersion? (v : Value) : Option Int :=
  match v.member? "schema_version" with
  | some (.number n) => n.toInt?
  | _ => none

theorem schemaVersionWrong_of (h : ∃ k, schemaVersion? v = some k ∧ k % 2 ^ 32 = 1) :
    schemaVersionWrong v = .ok false := by
  obtain ⟨k, hk, hlow⟩ := h
  cases hmember : v.member? "schema_version" with
  | none => simp [schemaVersion?, hmember] at hk
  | some w =>
    cases w with
    | number n =>
      replace hk : n.toInt? = some k := by simpa [schemaVersion?, hmember] using hk
      have hone := (n.toInt32_eq_one_iff hk).mpr hlow
      simp [schemaVersionWrong, hmember, at_of_member hmember, isNumberInteger, hk, getInt, hone]
    | _ => simp [schemaVersion?, hmember] at hk

theorem schemaVersionWrong_of_not (h : ¬ ∃ k, schemaVersion? v = some k ∧ k % 2 ^ 32 = 1) :
    schemaVersionWrong v = .ok true := by
  cases hmember : v.member? "schema_version" with
  | none => simp [schemaVersionWrong, hmember]
  | some w =>
    cases w with
    | number n =>
      cases hk : n.toInt? with
      | none => simp [schemaVersionWrong, hmember, at_of_member hmember, isNumberInteger, hk]
      | some k =>
        have hlow : k % 2 ^ 32 ≠ 1 := fun hlow =>
          h ⟨k, by simp [schemaVersion?, hmember, hk], hlow⟩
        have hone : n.toInt32 ≠ 1 := fun hone => hlow ((n.toInt32_eq_one_iff hk).mp hone)
        simp [schemaVersionWrong, hmember, at_of_member hmember, isNumberInteger, hk, getInt, hone]
    | _ => simp [schemaVersionWrong, hmember, at_of_member hmember, isNumberInteger]

theorem stringDiffers_of {expected : String} (h : v.member? key = some (.string expected)) :
    stringDiffers v key expected = .ok false := by
  simp [stringDiffers, hasString, h, at_of_member h, isString, getString]

theorem stringDiffers_of_not {expected : String} (h : v.member? key ≠ some (.string expected)) :
    stringDiffers v key expected = .ok true := by
  cases hmember : v.member? key with
  | none => simp [stringDiffers, hasString, hmember]
  | some w =>
    cases w with
    | string s =>
      have hs : s ≠ expected := by
        rintro rfl
        exact h hmember
      simp [stringDiffers, hasString, hmember, at_of_member hmember, isString, getString, hs]
    | _ => simp [stringDiffers, hasString, hmember, at_of_member hmember, isString]

theorem memberMissing_of {isKind : Value → Bool} {w : Value} (h : v.member? key = some w)
    (hkind : isKind w = true) : memberMissing isKind v key = .ok false := by
  simp [memberMissing, h, at_of_member h, hkind]

theorem memberMissing_of_not {isKind : Value → Bool}
    (h : ∀ w, v.member? key = some w → isKind w = false) :
    memberMissing isKind v key = .ok true := by
  cases hmember : v.member? key with
  | none => simp [memberMissing, hmember]
  | some w => simp [memberMissing, hmember, at_of_member hmember, h w hmember]

theorem stringEmpty_of {s : String} (h : v.member? key = some (.string s)) :
    stringEmpty v key = .ok s.isEmpty := by
  simp [stringEmpty, hasString, h, at_of_member h, isString, getString]

theorem stringEmpty_of_not (h : ∀ s, v.member? key ≠ some (.string s)) :
    stringEmpty v key = .ok true := by
  cases hmember : v.member? key with
  | none => simp [stringEmpty, hasString, hmember]
  | some w =>
    cases w with
    | string s => exact absurd hmember (h s)
    | _ => simp [stringEmpty, hasString, hmember, at_of_member hmember, isString]

theorem memberMissing_bool {b : Bool} (h : v.member? key = some (.bool b)) :
    memberMissing isBoolean v key = .ok false :=
  memberMissing_of h rfl

theorem memberMissing_number {n : JsonNumber} (h : v.member? key = some (.number n)) :
    memberMissing isNumber v key = .ok false :=
  memberMissing_of h rfl

theorem memberMissing_notBool (h : ¬ ∃ b, v.member? key = some (.bool b)) :
    memberMissing isBoolean v key = .ok true := by
  refine memberMissing_of_not fun w hw => ?_
  cases w with
  | bool b => exact absurd ⟨b, hw⟩ h
  | _ => rfl

theorem memberMissing_notNumber (h : ¬ ∃ n, v.member? key = some (.number n)) :
    memberMissing isNumber v key = .ok true := by
  refine memberMissing_of_not fun w hw => ?_
  cases w with
  | number n => exact absurd ⟨n, hw⟩ h
  | _ => rfl

end Checks

/-! ## The responses the protocol accepts -/

section Responses

variable (v : Value) (flowId modelVersion : String)

/-- The member is a finite number that is not negative. -/
def FiniteNonneg (key : String) : Prop :=
  ∃ n : JsonNumber, v.member? key = some (.number n) ∧ n.IsFinite ∧ n.Nonneg

/-- The fields of an error response. -/
def CarriesError : Prop :=
  v.member? "ok" = some (.bool false) ∧
    ∃ code, v.member? "error_code" = some (.string code) ∧ code ≠ ""

/-- The fields of a decision. -/
def CarriesDecision : Prop :=
  v.member? "ok" = some (.bool true) ∧ (∃ b, v.member? "anomaly" = some (.bool b)) ∧
    FiniteNonneg v "score" ∧ FiniteNonneg v "threshold"

/-- Everything a response to the pending request needs besides the schema version. -/
structure Answers : Prop where
  object : ∃ members, v = .object members
  flowId : v.member? "flow_id" = some (.string flowId)
  modelVersion : v.member? "model_version" = some (.string modelVersion)
  outcome : CarriesError v ∨ CarriesDecision v

/-- A schema-1 response to the pending request. -/
def Accepts : Prop := schemaVersion? v = some 1 ∧ Answers v flowId modelVersion

/-- The schema version is another integer that is 1 as a 32-bit `int`. -/
def WrapsToOne : Prop := ∃ k, schemaVersion? v = some k ∧ k ≠ 1 ∧ k % 2 ^ 32 = 1

/-- The response has the fields of the JSON value; a number is the double nearest to the
member. -/
structure FieldsOf (response : AiResponse) : Prop where
  flowId : v.member? "flow_id" = some (.string response.flowId)
  modelVersion : v.member? "model_version" = some (.string response.modelVersion)
  ok : v.member? "ok" = some (.bool response.ok)
  errorCode : response.ok = false → v.member? "error_code" = some (.string response.errorCode)
  anomaly : response.ok = true → v.member? "anomaly" = some (.bool response.anomaly)
  score : response.ok = true →
    ∃ n : JsonNumber, v.member? "score" = some (.number n) ∧ response.score = n.toDouble
  threshold : response.ok = true →
    ∃ n : JsonNumber, v.member? "threshold" = some (.number n) ∧ response.threshold = n.toDouble

end Responses

section Cases

variable {v : Value} {flowId modelVersion : String}

/-- The reply is taken with its fields and no error text. -/
def Taken (v : Value) (result : Except Exception (Option AiResponse × String)) : Prop :=
  ∃ response, result = .ok (some response, "") ∧ FieldsOf v response

/-- The reply is refused with an error text. -/
def Refused (result : Except Exception (Option AiResponse × String)) : Prop :=
  ∃ text, result = .ok (none, text) ∧ text ≠ ""

theorem refused {text : String} (h : text ≠ "") : Refused (.ok (none, text)) := ⟨text, rfl, h⟩

/-- The checks up to the member `ok`. -/
theorem checkResponse_refused
    (h : ¬ ((∃ k, schemaVersion? v = some k ∧ k % 2 ^ 32 = 1) ∧
      (∃ members, v = .object members) ∧ v.member? "flow_id" = some (.string flowId) ∧
      v.member? "model_version" = some (.string modelVersion) ∧
      ∃ ok, v.member? "ok" = some (.bool ok))) :
    Refused (checkResponse v flowId modelVersion) := by
  by_cases hobject : ∃ members, v = .object members
  swap
  · have hisObject : isObject v = false := by
      cases v with
      | object members => exact absurd ⟨members, rfl⟩ hobject
      | _ => rfl
    simp [checkResponse, hisObject, refused]
  obtain ⟨members, rfl⟩ := hobject
  by_cases hversion : ∃ k, schemaVersion? (.object members) = some k ∧ k % 2 ^ 32 = 1
  swap
  · simp [checkResponse, isObject, schemaVersionWrong_of_not hversion, refused]
  by_cases hflow : (Json.object members).member? "flow_id" = some (.string flowId)
  swap
  · simp [checkResponse, isObject, schemaVersionWrong_of hversion, stringDiffers_of_not hflow,
      refused]
  by_cases hmodel : (Json.object members).member? "model_version" = some (.string modelVersion)
  swap
  · simp [checkResponse, isObject, schemaVersionWrong_of hversion, stringDiffers_of hflow,
      stringDiffers_of_not hmodel, refused]
  have hok : memberMissing isBoolean (.object members) "ok" = .ok true :=
    memberMissing_notBool fun hbool => h ⟨hversion, ⟨members, rfl⟩, hflow, hmodel, hbool⟩
  simp [checkResponse, isObject, schemaVersionWrong_of hversion, stringDiffers_of hflow,
    stringDiffers_of hmodel, hok, refused]

theorem checkResponse_passed {ok : Bool}
    (hversion : ∃ k, schemaVersion? v = some k ∧ k % 2 ^ 32 = 1)
    (hobject : ∃ members, v = .object members)
    (hflow : v.member? "flow_id" = some (.string flowId))
    (hmodel : v.member? "model_version" = some (.string modelVersion))
    (hok : v.member? "ok" = some (.bool ok)) :
    checkResponse v flowId modelVersion
      = checkOutcome v ⟨ok, flowId, modelVersion, false, 0, 0, ""⟩ := by
  obtain ⟨members, rfl⟩ := hobject
  simp [checkResponse, isObject, schemaVersionWrong_of hversion, stringDiffers_of hflow,
    stringDiffers_of hmodel, memberMissing_bool hok, at_of_member hok, getBool]

/-- An error response is taken exactly with a nonempty error code. -/
theorem checkOutcome_error (hflow : v.member? "flow_id" = some (.string flowId))
    (hmodel : v.member? "model_version" = some (.string modelVersion))
    (hok : v.member? "ok" = some (.bool false)) :
    Taken v (checkOutcome v ⟨false, flowId, modelVersion, false, 0, 0, ""⟩) ∧ CarriesError v ∨
    Refused (checkOutcome v ⟨false, flowId, modelVersion, false, 0, 0, ""⟩) ∧ ¬ CarriesError v := by
  by_cases hstring : ∃ code, v.member? "error_code" = some (.string code)
  swap
  · right
    have hempty : stringEmpty v "error_code" = .ok true :=
      stringEmpty_of_not fun code hcode => hstring ⟨code, hcode⟩
    refine ⟨by simp [checkOutcome, hempty, refused], ?_⟩
    rintro ⟨-, code, hcode, -⟩
    exact hstring ⟨code, hcode⟩
  obtain ⟨code, hcode⟩ := hstring
  by_cases hne : code = ""
  · right
    subst hne
    refine ⟨by simp [checkOutcome, stringEmpty_of hcode, refused], ?_⟩
    rintro ⟨-, code, hcode', hne⟩
    rw [hcode] at hcode'
    cases hcode'
    exact hne rfl
  · left
    refine ⟨⟨⟨false, flowId, modelVersion, false, 0, 0, code⟩, ?_, ?_⟩, hok, code, hcode, hne⟩
    · simp [checkOutcome, stringEmpty_of hcode, hne, at_of_member hcode, getString]
    · constructor <;> simp [hflow, hmodel, hok, hcode]

theorem finiteNonneg_iff {key : String} {n : JsonNumber}
    (hmember : v.member? key = some (.number n)) :
    FiniteNonneg v key ↔ n.toDouble.isFinite = true ∧ ¬ n.toDouble < 0 := by
  rw [n.finite_and_nonneg_iff]
  constructor
  · rintro ⟨n', hn', hrange⟩
    rw [hmember] at hn'
    cases hn'
    exact hrange
  · exact fun hrange => ⟨n, hmember, hrange⟩

theorem checkOutcome_refused
    (h : ¬ ((∃ b, v.member? "anomaly" = some (.bool b)) ∧
      (∃ n, v.member? "score" = some (.number n)) ∧
      ∃ n, v.member? "threshold" = some (.number n))) :
    Refused (checkOutcome v ⟨true, flowId, modelVersion, false, 0, 0, ""⟩) := by
  by_cases hanomaly : ∃ b, v.member? "anomaly" = some (.bool b)
  swap
  · simp [checkOutcome, memberMissing_notBool hanomaly, refused]
  obtain ⟨anomaly, hanomaly⟩ := hanomaly
  by_cases hscore : ∃ n, v.member? "score" = some (.number n)
  swap
  · simp [checkOutcome, memberMissing_bool hanomaly, memberMissing_notNumber hscore, refused]
  obtain ⟨score, hscore⟩ := hscore
  have hthreshold := memberMissing_notNumber fun hthreshold =>
    h ⟨⟨anomaly, hanomaly⟩, ⟨score, hscore⟩, hthreshold⟩
  simp [checkOutcome, memberMissing_bool hanomaly, memberMissing_number hscore, hthreshold, refused]

/-- A decision is taken exactly with a boolean verdict and finite numbers that are not
negative. -/
theorem checkOutcome_decision (hflow : v.member? "flow_id" = some (.string flowId))
    (hmodel : v.member? "model_version" = some (.string modelVersion))
    (hok : v.member? "ok" = some (.bool true)) :
    Taken v (checkOutcome v ⟨true, flowId, modelVersion, false, 0, 0, ""⟩) ∧ CarriesDecision v ∨
    Refused (checkOutcome v ⟨true, flowId, modelVersion, false, 0, 0, ""⟩) ∧
      ¬ CarriesDecision v := by
  by_cases htypes : (∃ b, v.member? "anomaly" = some (.bool b)) ∧
      (∃ n, v.member? "score" = some (.number n)) ∧ ∃ n, v.member? "threshold" = some (.number n)
  swap
  · refine .inr ⟨checkOutcome_refused htypes, ?_⟩
    rintro ⟨-, hanomaly, ⟨score, hscore, -⟩, threshold, hthreshold, -⟩
    exact htypes ⟨hanomaly, ⟨score, hscore⟩, threshold, hthreshold⟩
  obtain ⟨⟨anomaly, hanomaly⟩, ⟨score, hscore⟩, threshold, hthreshold⟩ := htypes
  by_cases hrange : FiniteNonneg v "score" ∧ FiniteNonneg v "threshold"
  · obtain ⟨hscoreFinite, hscoreNonneg⟩ := (finiteNonneg_iff hscore).mp hrange.1
    obtain ⟨hthresholdFinite, hthresholdNonneg⟩ := (finiteNonneg_iff hthreshold).mp hrange.2
    refine .inl ⟨⟨⟨true, flowId, modelVersion, anomaly, score.toDouble, threshold.toDouble, ""⟩,
      ?_, ?_⟩, hok, ⟨anomaly, hanomaly⟩, hrange⟩
    · simp [checkOutcome, memberMissing_bool hanomaly, memberMissing_number hscore,
        memberMissing_number hthreshold, at_of_member hscore, at_of_member hthreshold,
        at_of_member hanomaly, getDouble, getBool, hscoreFinite, hscoreNonneg, hthresholdFinite,
        hthresholdNonneg]
    · constructor <;> simp [hflow, hmodel, hok, hanomaly, hscore, hthreshold]
  · refine .inr ⟨?_, fun h => hrange h.2.2⟩
    rw [finiteNonneg_iff hscore, finiteNonneg_iff hthreshold] at hrange
    have hbad : ((score.toDouble.isFinite = false ∨ score.toDouble < 0) ∨
        threshold.toDouble.isFinite = false) ∨ threshold.toDouble < 0 := by
      by_contra hgood
      simp only [not_or, Bool.not_eq_false] at hgood
      exact hrange ⟨hgood.1.1, hgood.1.2, hgood.2⟩
    simp [checkOutcome, memberMissing_bool hanomaly, memberMissing_number hscore,
      memberMissing_number hthreshold, at_of_member hscore, at_of_member hthreshold, getDouble,
      hbad, refused]

/-- **What the parser does with a JSON value.** It takes the responses to the pending
request whose schema version is 1 in its low 32 bits, and refuses all others. -/
theorem checkResponse_cases (v : Value) (flowId modelVersion : String) :
    Taken v (checkResponse v flowId modelVersion) ∧
      (∃ k, schemaVersion? v = some k ∧ k % 2 ^ 32 = 1) ∧ Answers v flowId modelVersion ∨
    Refused (checkResponse v flowId modelVersion) ∧
      ¬ ((∃ k, schemaVersion? v = some k ∧ k % 2 ^ 32 = 1) ∧ Answers v flowId modelVersion) := by
  by_cases hhead : (∃ k, schemaVersion? v = some k ∧ k % 2 ^ 32 = 1) ∧
      (∃ members, v = .object members) ∧ v.member? "flow_id" = some (.string flowId) ∧
      v.member? "model_version" = some (.string modelVersion) ∧
      ∃ ok, v.member? "ok" = some (.bool ok)
  swap
  · refine .inr ⟨checkResponse_refused hhead, ?_⟩
    rintro ⟨hversion, hobject, hflow, hmodel, houtcome⟩
    refine hhead ⟨hversion, hobject, hflow, hmodel, ?_⟩
    rcases houtcome with herror | hdecision
    · exact ⟨_, herror.1⟩
    · exact ⟨_, hdecision.1⟩
  obtain ⟨hversion, hobject, hflow, hmodel, ok, hok⟩ := hhead
  rw [checkResponse_passed hversion hobject hflow hmodel hok]
  cases ok with
  | false =>
    rcases checkOutcome_error hflow hmodel hok with ⟨htaken, herror⟩ | ⟨hrefused, hno⟩
    · exact .inl ⟨htaken, hversion, hobject, hflow, hmodel, .inl herror⟩
    · refine .inr ⟨hrefused, fun h => ?_⟩
      rcases h.2.outcome with herror | hdecision
      · exact hno herror
      · exact absurd (hok.symm.trans hdecision.1) (by simp)
  | true =>
    rcases checkOutcome_decision hflow hmodel hok with ⟨htaken, hdecision⟩ | ⟨hrefused, hno⟩
    · exact .inl ⟨htaken, hversion, hobject, hflow, hmodel, .inr hdecision⟩
    · refine .inr ⟨hrefused, fun h => ?_⟩
      rcases h.2.outcome with herror | hdecision
      · exact absurd (hok.symm.trans herror.1) (by simp)
      · exact hno hdecision

end Cases

/-! ## The parser -/

section Parser

variable {Text : Type} {parse : Text → Except Exception Value} {text : Text} {v : Value}

theorem parseAiResponse_taken {result : Option AiResponse × String} (flowId modelVersion : String)
    (hparse : parse text = .ok v) (hcheck : checkResponse v flowId modelVersion = .ok result) :
    parseAiResponse parse text flowId modelVersion = result := by
  simp [parseAiResponse, hparse, hcheck]

/-- A text that the JSON library does not read is refused with an error text. -/
theorem parseAiResponse_unreadable {e : Exception} (flowId modelVersion : String)
    (hparse : parse text = .error e) :
    (parseAiResponse parse text flowId modelVersion).1 = none ∧
      (parseAiResponse parse text flowId modelVersion).2 ≠ "" := by
  cases e <;> simp [parseAiResponse, hparse]

/-- A schema-1 response to the pending request is taken, with its fields. -/
theorem parseAiResponse_of_accepts {flowId modelVersion : String} (hparse : parse text = .ok v)
    (h : Accepts v flowId modelVersion) :
    ∃ response, parseAiResponse parse text flowId modelVersion = (some response, "") ∧
      FieldsOf v response := by
  have hlow : ∃ k, schemaVersion? v = some k ∧ k % 2 ^ 32 = 1 := ⟨1, h.1, rfl⟩
  rcases checkResponse_cases v flowId modelVersion with ⟨⟨response, hcheck, hfields⟩, -⟩ | ⟨-, hno⟩
  · exact ⟨response, parseAiResponse_taken flowId modelVersion hparse hcheck, hfields⟩
  · exact absurd ⟨hlow, h.2⟩ hno

/-- A reply for another flow is never taken. -/
theorem parseAiResponse_otherFlow {flowId modelVersion : String} (hparse : parse text = .ok v)
    (h : v.member? "flow_id" ≠ some (.string flowId)) :
    (parseAiResponse parse text flowId modelVersion).1 = none := by
  rcases checkResponse_cases v flowId modelVersion with
    ⟨-, -, hanswers⟩ | ⟨⟨errorText, hcheck, -⟩, -⟩
  · exact absurd hanswers.flowId h
  · rw [parseAiResponse_taken flowId modelVersion hparse hcheck]

/-- A reply that is taken, whatever its text, carries the model version asked for. -/
theorem parseAiResponse_modelVersion {flowId modelVersion : String} {response : AiResponse}
    (htaken : (parseAiResponse parse text flowId modelVersion).1 = some response) :
    response.modelVersion = modelVersion := by
  cases hparse : parse text with
  | error e =>
    rw [(parseAiResponse_unreadable flowId modelVersion hparse).1] at htaken
    cases htaken
  | ok v =>
    rcases checkResponse_cases v flowId modelVersion with
      ⟨⟨response', hcheck, hfields⟩, -, hanswers⟩ | ⟨⟨errorText, hcheck, -⟩, -⟩
    · rw [parseAiResponse_taken flowId modelVersion hparse hcheck] at htaken
      cases htaken
      have hsame := hfields.modelVersion.symm.trans hanswers.modelVersion
      exact Json.string.inj (Option.some.inj hsame)
    · rw [parseAiResponse_taken flowId modelVersion hparse hcheck] at htaken
      cases htaken

/-- What the acceptance conditions ask of a parsed reply to a JSON value. -/
structure Meets (v : Value) (flowId modelVersion : String) (result : Option AiResponse × String) :
    Prop where
  accepted : result.1.isSome ↔ Accepts v flowId modelVersion
  fields : ∀ response, result.1 = some response → FieldsOf v response ∧ result.2 = ""
  error : result.1 = none → result.2 ≠ ""

/-- **The parser accepts exactly the schema-1 responses of the pending request**, unless
the schema version of such a response wraps to 1 as a 32-bit integer. -/
theorem parseAiResponse_meets_iff (flowId modelVersion : String) (hparse : parse text = .ok v) :
    Meets v flowId modelVersion (parseAiResponse parse text flowId modelVersion) ↔
      ¬ (WrapsToOne v ∧ Answers v flowId modelVersion) := by
  rcases checkResponse_cases v flowId modelVersion with
    ⟨⟨response, hcheck, hfields⟩, ⟨k, hk, hlow⟩, hanswers⟩ | ⟨⟨errorText, hcheck, hne⟩, hno⟩
  · rw [parseAiResponse_taken flowId modelVersion hparse hcheck]
    constructor
    · rintro hmeets ⟨⟨k', hk', hne, -⟩, -⟩
      have hone := (hmeets.accepted.mp rfl).1
      rw [hk'] at hone
      exact hne (Option.some.inj hone)
    · intro hnot
      have hone : k = 1 := by
        by_contra hne
        exact hnot ⟨⟨k, hk, hne, hlow⟩, hanswers⟩
      subst hone
      refine ⟨iff_of_true rfl ⟨hk, hanswers⟩, ?_, by simp⟩
      rintro _ ⟨⟩
      exact ⟨hfields, rfl⟩
  · rw [parseAiResponse_taken flowId modelVersion hparse hcheck]
    refine iff_of_true ⟨iff_of_false (by simp) ?_, by simp, fun _ => hne⟩ ?_
    · exact fun haccepts => hno ⟨⟨1, haccepts.1, rfl⟩, haccepts.2⟩
    · rintro ⟨⟨k, hk, -, hlow⟩, hanswers⟩
      exact hno ⟨⟨k, hk, hlow⟩, hanswers⟩

/-- An anomaly reply with a given schema version. -/
def anomalyReply (schemaVersion : UInt64) : Value :=
  .object [
    ("schema_version", .number (.unsigned schemaVersion)),
    ("flow_id", .string "sensor-7"),
    ("model_version", .string "ae-v1"),
    ("ok", .bool true),
    ("anomaly", .bool true),
    ("score", .number (.float 1.25)),
    ("threshold", .number (.float 0.75))]

def anomalyText (schemaVersion : String) : String :=
  "\x7b\"schema_version\":" ++ schemaVersion ++
    ",\"flow_id\":\"sensor-7\",\"model_version\":\"ae-v1\",\"ok\":true" ++
    ",\"anomaly\":true,\"score\":1.25,\"threshold\":0.75\x7d"

/-- On a reply of schema version 1 the condition holds. -/
theorem parseAiResponse_meets_versionOne :
    Meets (anomalyReply 1) "sensor-7" "ae-v1"
      (parseAiResponse (fun _ => .ok (anomalyReply 1)) (anomalyText "1")
        "sensor-7" "ae-v1") := by
  refine (parseAiResponse_meets_iff "sensor-7" "ae-v1" rfl).mpr ?_
  rintro ⟨⟨k, hk, hne, -⟩, -⟩
  exact hne (Option.some.inj (hk.symm.trans (by decide)))

/-- A reply of schema version 2 ^ 32 + 1 is taken. -/
theorem parseAiResponse_takesWrapped :
    ¬ Meets (anomalyReply 4294967297) "sensor-7" "ae-v1"
      (parseAiResponse (fun _ => .ok (anomalyReply 4294967297))
        (anomalyText "4294967297")
        "sensor-7" "ae-v1") := by
  intro hmeets
  have htaken : (parseAiResponse (fun _ => .ok (anomalyReply 4294967297)) ""
      "sensor-7" "ae-v1").1.isSome = true := by decide
  have hversion : schemaVersion? (anomalyReply 4294967297) = some 4294967297 := by decide
  exact absurd (hversion.symm.trans (hmeets.accepted.mp htaken).1) (by decide)

end Parser

end AiProtocol

end InlineIps
