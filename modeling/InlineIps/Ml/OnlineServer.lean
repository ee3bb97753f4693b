import InlineIps.Ai.FlowRecord
import InlineIps.Ml.PythonValues

/-!
# The inference server

The server checks a request field by field, scores its features and replies; a request
it refuses gets an error response. `loads` is the text layer of the JSON library,
`torchMean` the mean of a tensor.

* `validateRequest_error`: the validation raises only request errors with a code of the
  contract, and the `TypeError` of an unhashable `end_reason`.
* `responseForPayload_some`, `responseForPayload_none`: what the server replies to a
  payload, and when it gives no reply.
* `serveRequests_status`: the loop goes on as long as every payload gets a reply.
* `survives_iff`: no request stops the server, except one whose other fields before the
  features are valid and whose `end_reason` is a list or a dict.
-/

namespace InlineIps

open Library Library.Fallible Library.FloatSign Python

namespace OnlineServer

def invalidJson : String := "INVALID_JSON"
def invalidField : String := "INVALID_FIELD"
def schemaMismatch : String := "SCHEMA_MISMATCH"
def featureSchemaMismatch : String := "FEATURE_SCHEMA_MISMATCH"
def featureCountMismatch : String := "FEATURE_COUNT_MISMATCH"
def nonfiniteFeature : String := "NONFINITE_FEATURE"

abbrev Check := Except PyException

/-- `raise RequestError(code, message)`. -/
def raise {A : Type} (code message : String) : Check A := .error (.requestError code message)

/-- The loaded model with its scaler, threshold and versions. -/
structure LoadedArtifacts where
  model : Vector Float32 flowFeatureCount → Except String (Vector Float32 flowFeatureCount)
  mean : Vector Float flowFeatureCount
  scale : Vector Float flowFeatureCount
  threshold : Float
  featureSchemaVersion : Int
  modelVersion : String

/-- An array of 27 finite doubles. -/
def Features := { xs : Vector Float flowFeatureCount // ∀ x ∈ xs.toList, x.isFinite = true }

/-! ## Validation -/

def requireInteger (request : PyValue) (key : String) (minimum maximum : Int) : Check Int :=
  match get request key with
  | .number (.int value) =>
    if value < minimum ∨ maximum < value then raise invalidField s!"{key} 범위 오류"
    else .ok value
  | _ => raise invalidField s!"{key} 정수 필드 오류"

/-- An IPv6 address and a string that is no address raise the same error. -/
def requireIpv4 (request : PyValue) (key : String) : Check Unit :=
  match get request key with
  | .string value =>
    match ipv4Address value with
    | some _ => .ok ()
    | none => raise invalidField s!"{key} IPv4 오류"
  | _ => raise invalidField s!"{key} 문자열 필드 오류"

def requireFlowId (request : PyValue) : Check String :=
  match get request "flow_id" with
  | .string flowId => if flowId.isEmpty then raise invalidField "flow_id 오류" else .ok flowId
  | _ => raise invalidField "flow_id 오류"

def requireSchemaVersions (request : PyValue) (artifacts : LoadedArtifacts) : Check Unit :=
  let schemaVersion := get request "schema_version"
  let featureSchemaVersion := get request "feature_schema_version"
  if !equalsInt schemaVersion 1 || isBool schemaVersion then
    raise schemaMismatch "schema_version 오류"
  else if !equalsInt featureSchemaVersion artifacts.featureSchemaVersion ||
      isBool featureSchemaVersion then
    raise featureSchemaMismatch "feature_schema_version 오류"
  else .ok ()

/-- The five-tuple and the times, the first part of `_require_flow_metadata`. -/
def requireTupleAndTimes (request : PyValue) : Check Unit := do
  requireIpv4 request "src_ip"
  requireIpv4 request "dst_ip"
  let _ ← requireInteger request "src_port" 0 65535
  let _ ← requireInteger request "dst_port" 0 65535
  let _ ← requireInteger request "protocol" 0 255
  let firstSeenMs ← requireInteger request "first_seen_ms" 0 (2 ^ 63 - 1)
  let lastSeenMs ← requireInteger request "last_seen_ms" 0 (2 ^ 63 - 1)
  if firstSeenMs > lastSeenMs then
    raise invalidField "Flow 시간 순서 오류"

/-- The end reason, the last part of `_require_flow_metadata`. -/
def requireEndReason (request : PyValue) : Check Unit := do
  if !(← inSet (get request "end_reason") ["tcp_fin", "tcp_reset", "timeout"]) then
    raise invalidField "end_reason 오류"

def requireFlowMetadata (request : PyValue) : Check Unit := do
  requireTupleAndTimes request
  requireEndReason request

/-- The number of a JSON value that is not a boolean. -/
def number? : PyValue → Option PyNumber
  | .number n => some n
  | _ => none

def requireFeatures (request : PyValue) : Check Features :=
  match get request "features" with
  | .array values =>
    if values.length ≠ flowFeatureCount then raise featureCountMismatch "특징 개수 오류"
    else
      match values.mapM number? with
      | none => raise invalidField "특징 타입 오류"
      | some numbers =>
        match numbers.mapM toFloat64? with
        | none => raise nonfiniteFeature "특징 숫자 범위 오류"
        | some features =>
          if h : features.length = flowFeatureCount ∧ ∀ x ∈ features, x.isFinite = true then
            .ok ⟨⟨features.toArray, h.1⟩, by simpa using h.2⟩
          else raise nonfiniteFeature "특징에 NaN 또는 Inf 포함"
  | _ => raise featureCountMismatch "특징 개수 오류"

def validateRequest (request : PyValue) (artifacts : LoadedArtifacts) : Check (String × Features) :=
  match request with
  | .object _ => do
    let flowId ← requireFlowId request
    requireSchemaVersions request artifacts
    requireFlowMetadata request
    return (flowId, ← requireFeatures request)
  | _ => raise invalidField "요청이 JSON object가 아님"

/-! ## Replies -/

section Replies

variable (torchMean : Vector Float32 flowFeatureCount → Float32)
  (loads : String → Except String PyValue)

/-- The mean squared error of the model's reconstruction of the scaled features. -/
def reconstructionError (artifacts : LoadedArtifacts) (features : Features) : Check Float := do
  let scaled := (features.1.zipWith (· - ·) artifacts.mean).zipWith (· / ·) artifacts.scale
  let inputTensor := scaled.map narrow
  let reconstructed ← (artifacts.model inputTensor).mapError .runtimeError
  let difference := reconstructed.zipWith (· - ·) inputTensor
  return widen (torchMean (difference.map fun x => x * x))

def decision (artifacts : LoadedArtifacts) (flowId : String) (score : Float) : PyValue :=
  .object [
    ("schema_version", .number (.int 1)),
    ("flow_id", .string flowId),
    ("model_version", .string artifacts.modelVersion),
    ("ok", .bool true),
    ("anomaly", .bool (score > artifacts.threshold)),
    ("score", .number (.float score)),
    ("threshold", .number (.float artifacts.threshold))]

def inferRequest (artifacts : LoadedArtifacts) (request : PyValue) : Check PyValue := do
  let (flowId, features) ← validateRequest request artifacts
  let score ← reconstructionError torchMean artifacts features
  if !score.isFinite then
    .error (.runtimeError "모델 복원오차가 유한하지 않음")
  else
    return decision artifacts flowId score

/-- The flow id of a request, empty when it has none. -/
def echoedFlowId (request : PyValue) : String :=
  match request.member? "flow_id" with
  | some (.string flowId) => flowId
  | _ => ""

def errorResponse (artifacts : LoadedArtifacts) (request : PyValue) (code : String) : PyValue :=
  .object [
    ("schema_version", .number (.int 1)),
    ("flow_id", .string (echoedFlowId request)),
    ("model_version", .string artifacts.modelVersion),
    ("ok", .bool false),
    ("error_code", .string code)]

/-- `json.loads(payload.decode("utf-8"))`. -/
def decodePayload (payload : ByteArray) : Check PyValue :=
  match String.fromUTF8? payload with
  | none => .error .unicodeDecodeError
  | some text =>
    match loads text with
    | .ok request => .ok request
    | .error message => .error (.jsonDecodeError message)

/-- The reply to a payload, `none` when the inference failed. A payload that is not
decoded leaves `request` at `None`. -/
def responseForPayload (artifacts : LoadedArtifacts) (payload : ByteArray) : Option PyValue :=
  match decodePayload loads payload with
  | .error _ => some (errorResponse artifacts .null invalidJson)
  | .ok request =>
    match inferRequest torchMean artifacts request with
    | .ok response => some response
    | .error (.requestError code _) => some (errorResponse artifacts request code)
    | .error (.jsonDecodeError _) | .error .unicodeDecodeError =>
      some (errorResponse artifacts request invalidJson)
    | .error _ => none

end Replies

/-! ## What the validation raises -/

/-- The error codes of the contract. -/
def contractCodes : List String :=
  [invalidJson, invalidField, schemaMismatch, featureSchemaMismatch, featureCountMismatch,
    nonfiniteFeature]

/-- A request error with a code of the contract. -/
def ContractError (e : PyException) : Prop :=
  ∃ code message, e = .requestError code message ∧ code ∈ contractCodes

/-- The check raises nothing but contract errors. -/
def Contracted {A : Type} (check : Check A) : Prop := ∀ e, check = .error e → ContractError e

theorem contracted_ok {A : Type} (a : A) : Contracted (.ok a) := by
  intro e he
  cases he

theorem contracted_raise {A : Type} {code : String} (message : String)
    (hcode : code ∈ contractCodes) : Contracted (raise code message : Check A) := by
  rintro e ⟨⟩
  exact ⟨code, message, rfl, hcode⟩

theorem contracted_bind {A B : Type} {check : Check A} {f : A → Check B} (h : Contracted check)
    (hf : ∀ a, Contracted (f a)) : Contracted (check >>= f) := by
  intro e he
  rcases bind_eq_error_iff.mp he with he | ⟨a, -, he⟩
  · exact h e he
  · exact hf a e he

theorem contracted_ite {A : Type} {c : Prop} [Decidable c] {check check' : Check A}
    (h : Contracted check) (h' : Contracted check') : Contracted (if c then check else check') := by
  split
  · exact h
  · exact h'

theorem contracted_requireInteger (request : PyValue) (key : String) (minimum maximum : Int) :
    Contracted (requireInteger request key minimum maximum) := by
  unfold requireInteger
  split
  · exact contracted_ite (contracted_raise _ (by decide)) (contracted_ok _)
  · exact contracted_raise _ (by decide)

theorem contracted_requireIpv4 (request : PyValue) (key : String) :
    Contracted (requireIpv4 request key) := by
  unfold requireIpv4
  split
  · split
    · exact contracted_ok _
    · exact contracted_raise _ (by decide)
  · exact contracted_raise _ (by decide)

theorem contracted_requireFlowId (request : PyValue) : Contracted (requireFlowId request) := by
  unfold requireFlowId
  split
  · exact contracted_ite (contracted_raise _ (by decide)) (contracted_ok _)
  · exact contracted_raise _ (by decide)

theorem contracted_requireSchemaVersions (request : PyValue) (artifacts : LoadedArtifacts) :
    Contracted (requireSchemaVersions request artifacts) := by
  refine contracted_ite (contracted_raise _ (by decide)) ?_
  exact contracted_ite (contracted_raise _ (by decide)) (contracted_ok _)

theorem contracted_requireTupleAndTimes (request : PyValue) :
    Contracted (requireTupleAndTimes request) := by
  unfold requireTupleAndTimes
  refine contracted_bind (contracted_requireIpv4 _ _) fun _ => ?_
  refine contracted_bind (contracted_requireIpv4 _ _) fun _ => ?_
  refine contracted_bind (contracted_requireInteger _ _ _ _) fun _ => ?_
  refine contracted_bind (contracted_requireInteger _ _ _ _) fun _ => ?_
  refine contracted_bind (contracted_requireInteger _ _ _ _) fun _ => ?_
  refine contracted_bind (contracted_requireInteger _ _ _ _) fun _ => ?_
  refine contracted_bind (contracted_requireInteger _ _ _ _) fun _ => ?_
  exact contracted_ite (contracted_raise _ (by decide)) (contracted_ok _)

theorem contracted_requireFeatures (request : PyValue) : Contracted (requireFeatures request) := by
  unfold requireFeatures
  split
  · refine contracted_ite (contracted_raise _ (by decide)) ?_
    split
    · exact contracted_raise _ (by decide)
    · split
      · exact contracted_raise _ (by decide)
      · split
        · exact contracted_ok _
        · exact contracted_raise _ (by decide)
  · exact contracted_raise _ (by decide)

/-- A value that set membership cannot hash. -/
def Unhashable (value : PyValue) : Prop :=
  (∃ elements, value = .array elements) ∨ ∃ members, value = .object members

theorem contracted_requireEndReason {request : PyValue}
    (h : ¬ Unhashable (get request "end_reason")) : Contracted (requireEndReason request) := by
  unfold requireEndReason
  cases hvalue : get request "end_reason" with
  | array elements => exact absurd (.inl ⟨elements, hvalue⟩) h
  | object members => exact absurd (.inr ⟨members, hvalue⟩) h
  | string s => exact contracted_ite (contracted_raise _ (by decide)) (contracted_ok _)
  | _ => exact contracted_raise _ (by decide)

theorem requireEndReason_unhashable {request : PyValue}
    (h : Unhashable (get request "end_reason")) :
    ∃ message, requireEndReason request = .error (.typeError message) := by
  unfold requireEndReason
  rcases h with ⟨elements, h⟩ | ⟨members, h⟩
  · exact ⟨_, by rw [h]; rfl⟩
  · exact ⟨_, by rw [h]; rfl⟩

/-- Every check before the end reason passes and the end reason cannot be hashed. -/
structure ReachesUnhashable (request : PyValue) (artifacts : LoadedArtifacts) : Prop where
  object : ∃ members, request = .object members
  flowId : ∃ flowId, requireFlowId request = .ok flowId
  versions : requireSchemaVersions request artifacts = .ok ()
  tuple : requireTupleAndTimes request = .ok ()
  endReason : Unhashable (get request "end_reason")

theorem validateRequest_unhashable {request : PyValue} {artifacts : LoadedArtifacts}
    (h : ReachesUnhashable request artifacts) :
    ∃ message, validateRequest request artifacts = .error (.typeError message) := by
  obtain ⟨⟨members, rfl⟩, ⟨flowId, hflow⟩, hversions, htuple, hend⟩ := h
  obtain ⟨message, hmessage⟩ := requireEndReason_unhashable hend
  exact ⟨message, by simp [validateRequest, requireFlowMetadata, hflow, hversions, htuple, hmessage]⟩

/-- **What the validation raises.** -/
theorem validateRequest_error {request : PyValue} {artifacts : LoadedArtifacts} {e : PyException}
    (h : validateRequest request artifacts = .error e)
    (hhashable : ¬ ReachesUnhashable request artifacts) : ContractError e := by
  unfold validateRequest at h
  split at h
  swap
  · exact contracted_raise _ (by decide) e h
  next members =>
    rcases bind_eq_error_iff.mp h with h | ⟨flowId, hflow, h⟩
    · exact contracted_requireFlowId _ e h
    rcases bind_eq_error_iff.mp h with h | ⟨⟨⟩, hversions, h⟩
    · exact contracted_requireSchemaVersions _ _ e h
    rcases bind_eq_error_iff.mp h with h | ⟨-, -, h⟩
    · rcases bind_eq_error_iff.mp h with h | ⟨⟨⟩, htuple, h⟩
      · exact contracted_requireTupleAndTimes _ e h
      · exact contracted_requireEndReason
          (fun hend => hhashable ⟨⟨members, rfl⟩, ⟨flowId, hflow⟩, hversions, htuple, hend⟩) e h
    · rcases bind_eq_error_iff.mp h with h | ⟨features, -, h⟩
      · exact contracted_requireFeatures _ e h
      · cases h

/-! ## What the server replies -/

section Replies

variable {torchMean : Vector Float32 flowFeatureCount → Float32}
  {loads : String → Except String PyValue} {artifacts : LoadedArtifacts}

/-- The scaler and the model give no finite error on 27 finite features. -/
def InferenceFails (torchMean : Vector Float32 flowFeatureCount → Float32)
    (artifacts : LoadedArtifacts) (features : Features) : Prop :=
  ∀ score, reconstructionError torchMean artifacts features = .ok score → score.isFinite = false

/-- A decision with a finite score. -/
def IsDecision (artifacts : LoadedArtifacts) (response : PyValue) : Prop :=
  ∃ flowId score, score.isFinite = true ∧ response = decision artifacts flowId score

/-- An error response with a code of the contract. -/
def IsErrorResponse (artifacts : LoadedArtifacts) (response : PyValue) : Prop :=
  ∃ request, ∃ code ∈ contractCodes, response = errorResponse artifacts request code

theorem fromUTF8?_toUTF8 (text : String) : String.fromUTF8? text.toUTF8 = some text :=
  dif_pos text.isValidUTF8

theorem decodePayload_toUTF8 (loads : String → Except String PyValue) (text : String)
    {request : PyValue} (h : loads text = .ok request) :
    decodePayload loads text.toUTF8 = .ok request := by
  simp only [decodePayload, fromUTF8?_toUTF8, h]

theorem inferRequest_valid (torchMean : Vector Float32 flowFeatureCount → Float32)
    {request : PyValue} {flowId : String} {features : Features}
    (h : validateRequest request artifacts = .ok (flowId, features)) :
    (∃ score, reconstructionError torchMean artifacts features = .ok score ∧
      score.isFinite = true ∧
      inferRequest torchMean artifacts request = .ok (decision artifacts flowId score)) ∨
    (∃ message, inferRequest torchMean artifacts request = .error (.runtimeError message)) ∧
      InferenceFails torchMean artifacts features := by
  cases herror : reconstructionError torchMean artifacts features with
  | error e =>
    right
    have hruntime : ∃ message, e = .runtimeError message := by
      rcases bind_eq_error_iff.mp herror with hmodel | ⟨_, -, hreturn⟩
      · cases hresult : artifacts.model ((((features.1.zipWith (· - ·) artifacts.mean).zipWith
            (· / ·) artifacts.scale)).map narrow) with
        | error message =>
          rw [hresult] at hmodel
          exact ⟨message, (Except.error.inj hmodel).symm⟩
        | ok reconstructed =>
          rw [hresult] at hmodel
          cases hmodel
      · cases hreturn
    obtain ⟨message, rfl⟩ := hruntime
    refine ⟨⟨message, by simp [inferRequest, h, herror]⟩, ?_⟩
    intro score hscore
    rw [herror] at hscore
    cases hscore
  | ok score =>
    by_cases hfinite : score.isFinite = true
    · exact .inl ⟨score, rfl, hfinite, by simp [inferRequest, h, herror, hfinite]⟩
    · right
      rw [Bool.not_eq_true] at hfinite
      refine ⟨⟨_, by simp only [inferRequest, h, herror, ok_bind, hfinite]; rfl⟩, ?_⟩
      intro score' hscore'
      rw [herror] at hscore'
      cases hscore'
      exact hfinite

/-- A valid request has the flow id that the validation returns. -/
theorem validateRequest_flowId {request : PyValue} {flowId : String} {features : Features}
    (h : validateRequest request artifacts = .ok (flowId, features)) :
    request.member? "flow_id" = some (.string flowId) := by
  unfold validateRequest at h
  split at h
  swap
  · cases h
  next members =>
    obtain ⟨flowId', hflow, h⟩ := bind_eq_ok_iff.mp h
    obtain ⟨_, -, h⟩ := bind_eq_ok_iff.mp h
    obtain ⟨_, -, h⟩ := bind_eq_ok_iff.mp h
    obtain ⟨_, -, h⟩ := bind_eq_ok_iff.mp h
    cases h
    unfold requireFlowId Python.get at hflow
    cases hmember : (Json.object members).member? "flow_id" with
    | none =>
      rw [hmember] at hflow
      cases hflow
    | some value =>
      rw [hmember] at hflow
      cases value with
      | string s =>
        dsimp only [Option.getD_some] at hflow
        split at hflow
        · cases hflow
        · cases hflow
          rfl
      | _ => cases hflow

/-- What is inferred is a decision. -/
theorem inferRequest_ok {request response : PyValue}
    (h : inferRequest torchMean artifacts request = .ok response) :
    ∃ flowId score, response = decision artifacts flowId score := by
  obtain ⟨⟨flowId, features⟩, -, h⟩ := bind_eq_ok_iff.mp h
  obtain ⟨score, -, h⟩ := bind_eq_ok_iff.mp h
  split at h
  · cases h
  · cases h
    exact ⟨flowId, score, rfl⟩

theorem responseForPayload_of {payload : ByteArray} {request response : PyValue}
    (hdecode : decodePayload loads payload = .ok request)
    (hinfer : inferRequest torchMean artifacts request = .ok response) :
    responseForPayload torchMean loads artifacts payload = some response := by
  simp only [responseForPayload, hdecode, hinfer]

/-- **What the server replies to a payload**, and where the reply comes from. -/
theorem responseForPayload_some {payload : ByteArray} {response : PyValue}
    (h : responseForPayload torchMean loads artifacts payload = some response) :
    (∃ e, decodePayload loads payload = .error e ∧
      response = errorResponse artifacts .null invalidJson) ∨
    ∃ request, decodePayload loads payload = .ok request ∧
      ((∃ flowId features score, validateRequest request artifacts = .ok (flowId, features) ∧
        reconstructionError torchMean artifacts features = .ok score ∧ score.isFinite = true ∧
        response = decision artifacts flowId score) ∨
      ∃ code message, validateRequest request artifacts = .error (.requestError code message) ∧
        code ∈ contractCodes ∧ response = errorResponse artifacts request code) := by
  cases hdecode : decodePayload loads payload with
  | error e =>
    simp only [responseForPayload, hdecode, Option.some.injEq] at h
    exact .inl ⟨e, rfl, h.symm⟩
  | ok request =>
    refine .inr ⟨request, rfl, ?_⟩
    cases hvalid : validateRequest request artifacts with
    | ok result =>
      obtain ⟨flowId, features⟩ := result
      rcases inferRequest_valid torchMean hvalid with
        ⟨score, hscore, hfinite, hinfer⟩ | ⟨⟨message, hinfer⟩, -⟩
      · simp only [responseForPayload, hdecode, hinfer, Option.some.injEq] at h
        exact .inl ⟨flowId, features, score, rfl, hscore, hfinite, h.symm⟩
      · simp only [responseForPayload, hdecode, hinfer] at h
        cases h
    | error e =>
      have hinfer : inferRequest torchMean artifacts request = .error e := by
        simp [inferRequest, hvalid]
      by_cases hunhashable : ReachesUnhashable request artifacts
      · obtain ⟨message, htype⟩ := validateRequest_unhashable hunhashable
        obtain rfl : e = .typeError message := Except.error.inj (hvalid.symm.trans htype)
        simp only [responseForPayload, hdecode, hinfer] at h
        cases h
      · obtain ⟨code, message, rfl, hcode⟩ := validateRequest_error hvalid hunhashable
        simp only [responseForPayload, hdecode, hinfer, Option.some.injEq] at h
        exact .inr ⟨code, message, rfl, hcode, h.symm⟩

/-- **When the server gives no reply.** -/
theorem responseForPayload_none {payload : ByteArray}
    (h : responseForPayload torchMean loads artifacts payload = none) :
    ∃ request, decodePayload loads payload = .ok request ∧
      (ReachesUnhashable request artifacts ∨
        ∃ flowId features, validateRequest request artifacts = .ok (flowId, features) ∧
          InferenceFails torchMean artifacts features) := by
  cases hdecode : decodePayload loads payload with
  | error e =>
    simp only [responseForPayload, hdecode] at h
    cases h
  | ok request =>
    refine ⟨request, rfl, ?_⟩
    cases hvalid : validateRequest request artifacts with
    | ok result =>
      obtain ⟨flowId, features⟩ := result
      rcases inferRequest_valid torchMean hvalid with ⟨score, -, -, hinfer⟩ | ⟨-, hfails⟩
      · simp only [responseForPayload, hdecode, hinfer] at h
        cases h
      · exact .inr ⟨flowId, features, rfl, hfails⟩
    | error e =>
      have hinfer : inferRequest torchMean artifacts request = .error e := by
        simp [inferRequest, hvalid]
      by_cases hunhashable : ReachesUnhashable request artifacts
      · exact .inl hunhashable
      · obtain ⟨code, message, rfl, -⟩ := validateRequest_error hvalid hunhashable
        simp only [responseForPayload, hdecode, hinfer] at h
        cases h

/-- **When the server gives a reply.** -/
theorem isSome_responseForPayload_iff (payload : ByteArray) :
    (responseForPayload torchMean loads artifacts payload).isSome ↔
      ∀ request, decodePayload loads payload = .ok request →
        ¬ ReachesUnhashable request artifacts ∧
        ∀ flowId features, validateRequest request artifacts = .ok (flowId, features) →
          ¬ InferenceFails torchMean artifacts features := by
  constructor
  · intro hsome request hdecode
    obtain ⟨response, hresponse⟩ := Option.isSome_iff_exists.mp hsome
    rcases responseForPayload_some hresponse with ⟨e, herror, -⟩ | ⟨request', hdecode', hvalid⟩
    · cases herror.symm.trans hdecode
    · obtain rfl : request = request' := Except.ok.inj (hdecode.symm.trans hdecode')
      constructor
      · intro hunhashable
        obtain ⟨message, htype⟩ := validateRequest_unhashable hunhashable
        rcases hvalid with ⟨_, _, _, hok, -⟩ | ⟨_, _, herror, -⟩
        · cases htype.symm.trans hok
        · cases htype.symm.trans herror
      · intro flowId features hok hfails
        rcases hvalid with ⟨_, _, score, hok', hscore, hfinite, -⟩ | ⟨_, _, herror, -⟩
        · cases hok.symm.trans hok'
          rw [hfails score hscore] at hfinite
          cases hfinite
        · cases hok.symm.trans herror
  · intro hgood
    cases hresponse : responseForPayload torchMean loads artifacts payload with
    | some response => rfl
    | none =>
      obtain ⟨request, hdecode, hunhashable | ⟨flowId, features, hvalid, hfails⟩⟩ :=
        responseForPayload_none hresponse
      · exact absurd hunhashable (hgood request hdecode).1
      · exact absurd hfails ((hgood request hdecode).2 flowId features hvalid)

/-- The mean squared error is not below zero. -/
theorem not_reconstructionError_lt_zero
    (hmean : ∀ xs : Vector Float32 flowFeatureCount, (∀ x ∈ xs.toList, ¬ x < 0) → ¬ torchMean xs < 0)
    {features : Features} {score : Float}
    (h : reconstructionError torchMean artifacts features = .ok score) : ¬ score < 0 := by
  obtain ⟨reconstructed, -, h⟩ := bind_eq_ok_iff.mp h
  cases h
  refine not_widen_lt_zero (hmean _ fun x hx => ?_)
  rw [Vector.toList_map] at hx
  obtain ⟨y, -, rfl⟩ := List.mem_map.mp hx
  exact not_mul_self_lt_zero y

/-- The validation of the request raises only request errors. -/
def RaisesOnlyRequestErrors (request : PyValue) (artifacts : LoadedArtifacts) : Prop :=
  ∀ e, validateRequest request artifacts = .error e → ∃ code message, e = .requestError code message

/-- The payload gets a decision or an error response of the contract; it gets none only
when the inference fails on valid features. -/
def Survives (torchMean : Vector Float32 flowFeatureCount → Float32)
    (loads : String → Except String PyValue) (artifacts : LoadedArtifacts)
    (payload : ByteArray) : Prop :=
  match responseForPayload torchMean loads artifacts payload with
  | some response => IsDecision artifacts response ∨ IsErrorResponse artifacts response
  | none => ∃ request flowId features, decodePayload loads payload = .ok request ∧
      validateRequest request artifacts = .ok (flowId, features) ∧
      InferenceFails torchMean artifacts features

theorem raisesOnlyRequestErrors_iff (request : PyValue) (artifacts : LoadedArtifacts) :
    RaisesOnlyRequestErrors request artifacts ↔ ¬ ReachesUnhashable request artifacts := by
  constructor
  · intro honly hunhashable
    obtain ⟨message, htype⟩ := validateRequest_unhashable hunhashable
    obtain ⟨code, message', he⟩ := honly _ htype
    cases he
  · intro hhashable e he
    obtain ⟨code, message, hcontract, -⟩ := validateRequest_error he hhashable
    exact ⟨code, message, hcontract⟩

/-- What is replied follows the contract. -/
theorem response_contract {payload : ByteArray} {response : PyValue}
    (h : responseForPayload torchMean loads artifacts payload = some response) :
    IsDecision artifacts response ∨ IsErrorResponse artifacts response := by
  rcases responseForPayload_some h with
    ⟨e, -, rfl⟩ | ⟨request, -, ⟨flowId, features, score, -, -, hfinite, rfl⟩ |
      ⟨code, message, -, hcode, rfl⟩⟩
  · exact .inr ⟨.null, invalidJson, by decide, rfl⟩
  · exact .inl ⟨flowId, score, hfinite, rfl⟩
  · exact .inr ⟨request, code, hcode, rfl⟩

theorem survives_payload_iff (payload : ByteArray) :
    Survives torchMean loads artifacts payload ↔
      ∀ request, decodePayload loads payload = .ok request →
        ¬ ReachesUnhashable request artifacts := by
  constructor
  · intro hsurvives request hdecode hunhashable
    obtain ⟨message, htype⟩ := validateRequest_unhashable hunhashable
    have hinfer : inferRequest torchMean artifacts request = .error (.typeError message) := by
      simp [inferRequest, htype]
    have hnone : responseForPayload torchMean loads artifacts payload = none := by
      simp only [responseForPayload, hdecode, hinfer]
    rw [Survives, hnone] at hsurvives
    obtain ⟨request', flowId, features, hdecode', hvalid, -⟩ := hsurvives
    obtain rfl : request = request' := Except.ok.inj (hdecode.symm.trans hdecode')
    rw [htype] at hvalid
    cases hvalid
  · intro hhashable
    cases hresponse : responseForPayload torchMean loads artifacts payload with
    | some response =>
      rw [Survives, hresponse]
      exact response_contract hresponse
    | none =>
      obtain ⟨request, hdecode, hunhashable | ⟨flowId, features, hvalid, hfails⟩⟩ :=
        responseForPayload_none hresponse
      · exact absurd hunhashable (hhashable request hdecode)
      · rw [Survives, hresponse]
        exact ⟨request, flowId, features, hdecode, hvalid, hfails⟩

/-! ## The serving loop -/

/-- What happens to the socket in one turn of the loop: a receive timeout, or a payload,
whose reply can be sent or not. -/
inductive SocketEvent where
  | again
  | received (payload : ByteArray) (sendable : Bool)

/-- The replies sent until the stop signal and the exit status. -/
def serveRequests (torchMean : Vector Float32 flowFeatureCount → Float32)
    (loads : String → Except String PyValue) (artifacts : LoadedArtifacts) :
    List SocketEvent → List PyValue × Nat
  | [] => ([], 0)
  | .again :: events => serveRequests torchMean loads artifacts events
  | .received payload sendable :: events =>
    match responseForPayload torchMean loads artifacts payload with
    | none => ([], 1)
    | some response =>
      if sendable then
        let (replies, status) := serveRequests torchMean loads artifacts events
        (response :: replies, status)
      else ([], 1)

/-- **The loop ends with status 0** exactly when every payload gets a reply that can be
sent. -/
theorem serveRequests_status (events : List SocketEvent) :
    (serveRequests torchMean loads artifacts events).2 = 0 ↔
      ∀ payload sendable, .received payload sendable ∈ events →
        sendable = true ∧ (responseForPayload torchMean loads artifacts payload).isSome := by
  induction events with
  | nil => simp [serveRequests]
  | cons event events ih =>
    cases event with
    | again => simp [serveRequests, ih]
    | received payload sendable =>
      cases hresponse : responseForPayload torchMean loads artifacts payload with
      | none =>
        simp only [serveRequests, hresponse, one_ne_zero, false_iff]
        intro h
        simpa [hresponse] using (h payload sendable List.mem_cons_self).2
      | some response =>
        cases sendable with
        | false =>
          simp only [serveRequests, hresponse, Bool.false_eq_true, if_false, one_ne_zero, false_iff]
          intro h
          simpa using (h payload false List.mem_cons_self).1
        | true =>
          simp only [serveRequests, hresponse, if_true, ih, List.mem_cons]
          constructor
          · rintro h payload' sendable' (hhead | hmem)
            · cases hhead
              exact ⟨rfl, by rw [hresponse]; rfl⟩
            · exact h payload' sendable' hmem
          · exact fun h payload' sendable' hmem => h payload' sendable' (.inr hmem)

/-- **No request stops the server, except one whose end reason cannot be hashed** and
whose checks before the end reason all pass. The loop goes on exactly as long as no such request
comes, the inference does not fail on the features of one, and the replies can be sent. -/
theorem survives_iff (torchMean : Vector Float32 flowFeatureCount → Float32)
    (loads : String → Except String PyValue) (artifacts : LoadedArtifacts) :
    (∀ request, RaisesOnlyRequestErrors request artifacts ↔
      ¬ ReachesUnhashable request artifacts) ∧
    (∀ payload, Survives torchMean loads artifacts payload ↔
      ∀ request, decodePayload loads payload = .ok request →
        ¬ ReachesUnhashable request artifacts) ∧
    ∀ events, (serveRequests torchMean loads artifacts events).2 = 0 ↔
      ∀ payload sendable, .received payload sendable ∈ events → sendable = true ∧
        ∀ request, decodePayload loads payload = .ok request →
          ¬ ReachesUnhashable request artifacts ∧
          ∀ flowId features, validateRequest request artifacts = .ok (flowId, features) →
            ¬ InferenceFails torchMean artifacts features := by
  refine ⟨fun request => raisesOnlyRequestErrors_iff request artifacts, survives_payload_iff,
    fun events => ?_⟩
  rw [serveRequests_status]
  refine forall_congr' fun payload => forall_congr' fun _ => forall_congr' fun _ => ?_
  rw [isSome_responseForPayload_iff]

/-- A model that returns its input, with the identity scaler. -/
def identityArtifacts : LoadedArtifacts where
  model := .ok
  mean := .replicate _ 0
  scale := .replicate _ 1
  threshold := 0.75
  featureSchemaVersion := 1
  modelVersion := "ae-v1"

/-- A request with a given end reason. -/
def sampleRequest (endReason : PyValue) : PyValue :=
  .object [
    ("schema_version", .number (.int 1)),
    ("flow_id", .string "sensor-7"),
    ("src_ip", .string "192.0.2.10"),
    ("src_port", .number (.int 45678)),
    ("dst_ip", .string "198.51.100.20"),
    ("dst_port", .number (.int 443)),
    ("protocol", .number (.int 6)),
    ("first_seen_ms", .number (.int 1000)),
    ("last_seen_ms", .number (.int 2500)),
    ("end_reason", endReason),
    ("feature_schema_version", .number (.int 1)),
    ("features", .array (List.replicate 27 (.number (.float 0.5))))]

/-- The text of the request as the sensor writes it. -/
def sampleText (endReason : String) : String :=
  "\x7b\"dst_ip\":\"198.51.100.20\",\"dst_port\":443,\"end_reason\":" ++ endReason ++
    ",\"feature_schema_version\":1,\"features\":[" ++
    ",".intercalate (List.replicate 27 "0.5") ++ "],\"first_seen_ms\":1000," ++
    "\"flow_id\":\"sensor-7\",\"last_seen_ms\":2500,\"protocol\":6,\"schema_version\":1," ++
    "\"src_ip\":\"192.0.2.10\",\"src_port\":45678\x7d"

/-- An empty list as end reason raises a `TypeError`, and the server gives no reply. -/
theorem emptyListEndReason_stopsServer :
    ¬ RaisesOnlyRequestErrors (sampleRequest (.array [])) identityArtifacts ∧
    ¬ Survives (fun _ => 0) (fun _ => .ok (sampleRequest (.array []))) identityArtifacts
      (sampleText "[]").toUTF8 := by
  have hreaches : ReachesUnhashable (sampleRequest (.array [])) identityArtifacts := by
    exact ⟨⟨_, rfl⟩, ⟨"sensor-7", by decide +kernel⟩, by decide +kernel, by decide +kernel,
      .inl ⟨[], rfl⟩⟩
  generalize sampleText "[]" = text
  refine ⟨fun h => (raisesOnlyRequestErrors_iff _ _).mp h hreaches, fun h => ?_⟩
  exact (survives_payload_iff _).mp h _ (decodePayload_toUTF8 _ text rfl) hreaches

end Replies

end OnlineServer

end InlineIps
