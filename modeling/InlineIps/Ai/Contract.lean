import InlineIps.Ai.AiProtocol
import InlineIps.Capture.Selection
import InlineIps.Ml.OnlineServer

/-!
# The contract between the sensor and the server

What the sensor writes the server validates, and what the server replies the sensor
understands.

* `validateRequest_flowRequest`: a record with a flow id, ordered times and finite
  features is a valid request.
* `submitted_wellFormed`: every record of a run is such a record.
-/

namespace InlineIps

open Library Nlohmann Python OnlineServer AiProtocol PacketCapture

/-- What Python reads of a number that the C++ library wrote. A double that is not finite
is written as `null`. -/
def JsonNumber.toPython : JsonNumber → PyValue
  | .integer n => .number (.int n.toInt)
  | .unsigned n => .number (.int n.toNat)
  | .float x => if x.isFinite then .number (.float x) else .null

/-- What the C++ library reads of a number that Python wrote. -/
def PyNumber.toCpp : PyNumber → JsonNumber
  | .int n =>
    if 0 ≤ n ∧ n < 2 ^ 64 then .unsigned (.ofNat n.toNat)
    else if -2 ^ 63 ≤ n ∧ n < 0 then .integer (.ofInt n)
    else .float (FloatSign.toDouble n)
  | .float x => .float x

def PyNumber.IsFinite : PyNumber → Prop
  | .int _ => True
  | .float x => x.isFinite = true

namespace Contract

/-- The request as the server reads it. -/
def receivedRequest (record : FlowRecord Float) : PyValue :=
  (flowRequest record).bind JsonNumber.toPython

/-! ## Requests -/

structure WellFormed (record : FlowRecord Float) : Prop where
  flowId : record.flowId ≠ ""
  firstSeen : 0 ≤ record.firstSeenMs
  ordered : record.firstSeenMs ≤ record.lastSeenMs
  lastSeen : record.lastSeenMs < 2 ^ 63
  version : record.featureSchemaVersion = flowFeatureSchemaVersion

theorem get_receivedRequest {record : FlowRecord Float} {key : String} {w : Value}
    (h : (flowRequest record).member? key = some w) :
    get (receivedRequest record) key = w.bind JsonNumber.toPython := by
  unfold flowRequest at h
  unfold Python.get receivedRequest flowRequest
  rw [Json.member?_bind, h]
  rfl

section Requests

variable {record : FlowRecord Float}

theorem requireIpv4_of_text {request : PyValue} {key : String} {ip : UInt32}
    (h : get request key = .string (ipToString ip)) : requireIpv4 request key = .ok () := by
  simp only [requireIpv4, h, ipv4Address_ipToString]

theorem requireInteger_of_mem {request : PyValue} {key : String} {n minimum maximum : Int}
    (h : get request key = .number (.int n)) (hmin : minimum ≤ n) (hmax : n ≤ maximum) :
    requireInteger request key minimum maximum = .ok n := by
  have hrange : ¬ (n < minimum ∨ maximum < n) := by omega
  simp only [requireInteger, h, if_neg hrange]

theorem requireFlowId_received (h : WellFormed record) :
    requireFlowId (receivedRequest record) = .ok record.flowId := by
  have hget : get (receivedRequest record) "flow_id" = .string record.flowId :=
    get_receivedRequest (w := .string record.flowId) rfl
  simp [requireFlowId, hget, h.flowId]

theorem requireSchemaVersions_received (h : WellFormed record) {artifacts : LoadedArtifacts}
    (hartifacts : artifacts.featureSchemaVersion = 1) :
    requireSchemaVersions (receivedRequest record) artifacts = .ok () := by
  have hversion : get (receivedRequest record) "schema_version" = .number (.int 1) :=
    get_receivedRequest (w := .number (.integer 1)) rfl
  have hfeature : get (receivedRequest record) "feature_schema_version" = .number (.int 1) := by
    rw [get_receivedRequest (w := .number (.unsigned record.featureSchemaVersion.toUInt64)) rfl,
      h.version]
    rfl
  simp [requireSchemaVersions, hversion, hfeature, hartifacts, equalsInt, isBool]

theorem requireTupleAndTimes_received (h : WellFormed record) :
    requireTupleAndTimes (receivedRequest record) = .ok () := by
  have hsrcIp : requireIpv4 (receivedRequest record) "src_ip" = .ok () :=
    requireIpv4_of_text (get_receivedRequest (w := .string (ipToString record.key.srcIp)) rfl)
  have hdstIp : requireIpv4 (receivedRequest record) "dst_ip" = .ok () :=
    requireIpv4_of_text (get_receivedRequest (w := .string (ipToString record.key.dstIp)) rfl)
  have hsrcPort : requireInteger (receivedRequest record) "src_port" 0 65535 = .ok _ :=
    requireInteger_of_mem (get_receivedRequest
      (w := .number (.unsigned record.key.srcPort.toUInt64)) rfl) (by omega)
      (by have := record.key.srcPort.toNat_lt; simp; omega)
  have hdstPort : requireInteger (receivedRequest record) "dst_port" 0 65535 = .ok _ :=
    requireInteger_of_mem (get_receivedRequest
      (w := .number (.unsigned record.key.dstPort.toUInt64)) rfl) (by omega)
      (by have := record.key.dstPort.toNat_lt; simp; omega)
  have hprotocol : requireInteger (receivedRequest record) "protocol" 0 255 = .ok _ :=
    requireInteger_of_mem (get_receivedRequest
      (w := .number (.unsigned record.key.protocol.toUInt64)) rfl) (by omega)
      (by have := record.key.protocol.toNat_lt; simp; omega)
  have htime : ∀ (key : String) {ms : Int},
      (flowRequest record).member? key = some (.number (.integer (.ofInt ms))) → 0 ≤ ms →
        ms < 2 ^ 63 →
        requireInteger (receivedRequest record) key 0 (2 ^ 63 - 1) = .ok ms := by
    intro key ms hmember hlow hhigh
    refine requireInteger_of_mem ?_ hlow (by omega)
    rw [get_receivedRequest hmember, Json.bind_number, JsonNumber.toPython,
      Int64.toInt_ofInt_of_le (by omega) hhigh]
  have hfirst := htime "first_seen_ms" rfl h.firstSeen
    (by have := h.ordered; have := h.lastSeen; omega)
  have hlast := htime "last_seen_ms" rfl
    (by have := h.ordered; have := h.firstSeen; omega) h.lastSeen
  have hordered : ¬ record.firstSeenMs > record.lastSeenMs := not_lt.mpr h.ordered
  simp only [requireTupleAndTimes, hsrcIp, hdstIp, hsrcPort, hdstPort, hprotocol, hfirst, hlast,
    Fallible.ok_bind, if_neg hordered]
  rfl

theorem requireEndReason_received (record : FlowRecord Float) :
    requireEndReason (receivedRequest record) = .ok () := by
  have hget : get (receivedRequest record) "end_reason"
      = .string (flowEndReasonToString record.endReason) :=
    get_receivedRequest (w := .string (flowEndReasonToString record.endReason)) rfl
  unfold requireEndReason
  rw [hget]
  cases record.endReason <;> rfl

theorem requireFeatures_received (hfinite : ∀ x ∈ record.features.toList, x.isFinite = true) :
    requireFeatures (receivedRequest record) = .ok ⟨record.features, hfinite⟩ := by
  have hget : get (receivedRequest record) "features"
      = .array (record.features.toList.map fun x => .number (.float x)) := by
    rw [get_receivedRequest
      (w := .array (record.features.toList.map fun x => .number (.float x))) rfl,
      Json.bind_array, List.map_map]
    congr 1
    refine List.map_congr_left fun x hx => ?_
    simp [JsonNumber.toPython, hfinite x hx]
  have hnumbers : (record.features.toList.map fun x => (.number (.float x) : PyValue)).mapM number?
      = some (record.features.toList.map .float) := by
    rw [List.mapM_map]
    exact List.mapM_pure
  have hdoubles : (record.features.toList.map PyNumber.float).mapM toFloat64?
      = some record.features.toList := by
    rw [List.mapM_map]
    exact List.mapM_pure.trans (congrArg some (List.map_id _))
  have hlength : record.features.toList.length = flowFeatureCount := by simp
  simp only [requireFeatures, hget, List.length_map, hlength, ne_eq, not_true_eq_false, if_false,
    hnumbers, hdoubles]
  rw [dif_pos ⟨trivial, hfinite⟩]
  rfl

/-- **A well-formed record with finite features is a valid request**, and is read back. -/
theorem validateRequest_received (h : WellFormed record)
    (hfinite : ∀ x ∈ record.features.toList, x.isFinite = true) {artifacts : LoadedArtifacts}
    (hartifacts : artifacts.featureSchemaVersion = 1) :
    validateRequest (receivedRequest record) artifacts
      = .ok (record.flowId, ⟨record.features, hfinite⟩) := by
  have hobject : ∃ members, receivedRequest record = .object members := ⟨_, rfl⟩
  have hflow := requireFlowId_received h
  have hversions := requireSchemaVersions_received h hartifacts
  have htuple := requireTupleAndTimes_received h
  have hend := requireEndReason_received record
  have hfeatures := requireFeatures_received hfinite
  obtain ⟨members, hmembers⟩ := hobject
  rw [hmembers] at hflow hversions htuple hend hfeatures ⊢
  simp only [validateRequest, requireFlowMetadata, hflow, hversions, htuple, hend, hfeatures,
    Fallible.ok_bind]
  rfl

end Requests

/-! ## The records of a run -/

section Records

variable {c : CaptureParams}

theorem toMilliseconds_mono {a b : Int} (ha : 0 ≤ a) (hab : a ≤ b) :
    0 ≤ toMilliseconds a ∧ toMilliseconds a ≤ toMilliseconds b ∧ toMilliseconds b ≤ b := by
  unfold toMilliseconds
  rw [Int.tdiv_eq_ediv_of_nonneg ha, Int.tdiv_eq_ediv_of_nonneg (ha.trans hab)]
  omega

theorem flowId_ne_empty (c : CaptureParams) (sequence : Nat) : c.flowId sequence ≠ "" := by
  intro h
  have hlength := congrArg (fun s : String => s.toList.length) h
  simp [CaptureParams.flowId] at hlength

/-- Times of a run that starts at the anchors become milliseconds in order, none negative. -/
theorem toEpochMs_ordered (hwall : 0 ≤ c.wallAnchor) {t t' : TimePoint}
    (hstart : c.steadyAnchor ≤ t) (htt' : t ≤ t')
    (hrange : c.wallAnchor + (t' - c.steadyAnchor) < 2 ^ 63) :
    0 ≤ c.toEpochMs t ∧ c.toEpochMs t ≤ c.toEpochMs t' ∧ c.toEpochMs t' < 2 ^ 63 := by
  have helapsed : 0 ≤ t - c.steadyAnchor := Int.sub_nonneg.mpr hstart
  have hlater : t - c.steadyAnchor ≤ t' - c.steadyAnchor := Int.sub_le_sub_right htt' _
  obtain ⟨hlow, hle, hhigh⟩ := toMilliseconds_mono (Int.add_nonneg hwall helapsed)
    (Int.add_le_add_left hlater c.wallAnchor)
  exact ⟨hlow, hle, hhigh.trans_lt hrange⟩

theorem observed?_time {e : CaptureEvent Float} {o : Observation} (h : observed? e = some o) :
    o.time = e.now := by
  unfold observed? at h
  split at h
  · obtain ⟨packet, -, rfl⟩ := Option.map_eq_some_iff.mp h
    rfl
  · cases h

theorem observed_times_sublist (events : List (CaptureEvent Float)) :
    ((events.filterMap observed?).map Observation.time).Sublist
      (events.flatMap CaptureEvent.reads) := by
  induction events with
  | nil => exact List.nil_sublist _
  | cons e events ih =>
    rw [List.filterMap_cons, List.flatMap_cons]
    cases hobserved : observed? e with
    | none => exact ih.trans (List.sublist_append_right _ _)
    | some o =>
      rw [List.map_cons, observed?_time hobserved]
      exact (ih.trans (List.sublist_append_right e.later _)).cons_cons e.now

/-- **Every record of a run is well formed.** -/
theorem submitted_wellFormed (hwall : 0 ≤ c.wallAnchor) {events : List (CaptureEvent Float)}
    (hc : Machine.Chronological CaptureEvent.reads c.steadyAnchor events)
    (hrange : ∀ e ∈ events, c.wallAnchor + (e.now - c.steadyAnchor) < 2 ^ 63)
    {record : FlowRecord Float} {ended : EndedFlow Float} {time : TimePoint}
    (hEffect : .consume record ended time ∈ effectsOf c events) : WellFormed record := by
  obtain ⟨⟨sequence, rfl⟩, first, rest, hReplay, hSub⟩ := submitted_replay hc hEffect
  set last := (first :: rest).getLast (by simp) with hlast
  have hfirstSeen : ended.flow.firstSeen = first.time := by rw [← hReplay, Flow.replay_firstSeen]
  have hlastSeen : ended.flow.lastSeen = last.time := by rw [← hReplay, Flow.replay_lastSeen]
  have hlastMem : last ∈ first :: rest := List.getLast_mem _
  have htimes : (c.steadyAnchor :: (first :: rest).map Observation.time).Pairwise (· ≤ ·) :=
    hc.sublist (((hSub.map _).trans (observed_times_sublist events)).cons_cons _)
  obtain ⟨hstart, hordered⟩ := List.pairwise_cons.mp htimes
  have hafter : c.steadyAnchor ≤ first.time := hstart _ (by simp)
  have hfirstLast : first.time ≤ last.time := by
    rcases List.mem_cons.mp hlastMem with heq | hmem
    · rw [heq]
    · exact (List.pairwise_cons.mp hordered).1 _ (List.mem_map_of_mem hmem)
  obtain ⟨e, he, hobserved⟩ := List.mem_filterMap.mp (hSub.subset hlastMem)
  have hbound : c.wallAnchor + (last.time - c.steadyAnchor) < 2 ^ 63 := by
    rw [observed?_time hobserved]
    exact hrange e he
  obtain ⟨hlow, hle, hhigh⟩ := toEpochMs_ordered hwall hafter hfirstLast hbound
  rw [← hfirstSeen] at hlow hle
  rw [← hlastSeen] at hle hhigh
  exact ⟨flowId_ne_empty c sequence, hlow, hle, hhigh, rfl⟩

/-- **Every request of a run is accepted.** The server validates the request of every
record with finite features, under the record's flow id, and reads back its features. -/
theorem requests_accepted (c : CaptureParams) (events : List (CaptureEvent Float))
    (hwall : 0 ≤ c.wallAnchor)
    (hc : Machine.Chronological CaptureEvent.reads c.steadyAnchor events)
    (hrange : ∀ e ∈ events, c.wallAnchor + (e.now - c.steadyAnchor) < 2 ^ 63)
    (dump : Value → String) (loads : String → Except String PyValue)
    (artifacts : LoadedArtifacts) (hversion : artifacts.featureSchemaVersion = 1)
    {record : FlowRecord Float} {ended : EndedFlow Float} {time : TimePoint}
    (hEffect : .consume record ended time ∈ effectsOf c events)
    (hfinite : ∀ x ∈ record.features.toList, x.isFinite = true)
    (htext : loads (serializeFlowRequest dump record) = .ok (receivedRequest record)) :
    ∃ request features,
      decodePayload loads (serializeFlowRequest dump record).toUTF8 = .ok request ∧
      validateRequest request artifacts = .ok (record.flowId, features) ∧
      features.1 = record.features :=
  ⟨receivedRequest record, ⟨record.features, hfinite⟩, decodePayload_toUTF8 loads _ htext,
    validateRequest_received (submitted_wellFormed hwall hc hrange hEffect) hfinite hversion, rfl⟩

/-- A connection that is reset at once. -/
def resetEvents : List (CaptureEvent Float) :=
  [⟨.packet synBytes .inbound, 5, []⟩, ⟨.packet rstBytes .inbound, 7, [8]⟩]

def resetText : String :=
  "\x7b\"dst_ip\":\"10.0.0.1\",\"dst_port\":80,\"end_reason\":\"tcp_reset\"," ++
    "\"feature_schema_version\":1,\"features\":[0.0,2.0,0.0,0.0,0.0,0.0,0.0,0.0,0.0,0.0,0.0," ++
    "0.0,0.0,0.0,0.0,0.0,0.0,0.0,0.0,0.0,0.0,0.0,1.0,1.0,0.0,0.0,0.0],\"first_seen_ms\":0," ++
    "\"flow_id\":\"0-1\",\"last_seen_ms\":0,\"protocol\":6,\"schema_version\":1," ++
    "\"src_ip\":\"203.0.113.5\",\"src_port\":12345\x7d"

theorem resetEvents_finite :
    ((effectsOf defaultParams resetEvents).all fun effect =>
      effect.record?.all fun record => record.features.toList.all Float.isFinite) = true := by
  decide +kernel

/-- The record of a connection that is reset at once is accepted. -/
theorem requests_accepted_reset :
    ∃ record ended time features,
      effectsOf defaultParams resetEvents = [.consume record ended time] ∧
      validateRequest (receivedRequest record) identityArtifacts
        = .ok (record.flowId, features) ∧ features.1 = record.features := by
  have hShape : (effectsOf defaultParams resetEvents).map (fun x => x.record?.isSome) = [true] := by
    decide +kernel
  obtain ⟨effect, hEffects, hEffect⟩ := List.map_eq_singleton_iff.mp hShape
  cases effect with
  | consume record ended time =>
    have hfinite := resetEvents_finite
    rw [hEffects] at hfinite
    change (record.features.toList.all Float.isFinite && true) = true at hfinite
    rw [Bool.and_true, List.all_eq_true] at hfinite
    have hdecode := decodePayload_toUTF8 (fun _ => .ok (receivedRequest record)) resetText rfl
    obtain ⟨request, features, hrequest, hvalid, hfeatures⟩ :=
      requests_accepted defaultParams resetEvents (by decide) (by decide) (by decide)
        (fun _ => resetText) (fun _ => .ok (receivedRequest record)) identityArtifacts rfl
        (hEffects ▸ List.mem_singleton_self _) hfinite rfl
    obtain rfl : receivedRequest record = request := Except.ok.inj (hdecode.symm.trans hrequest)
    exact ⟨record, ended, time, features, hEffects, hvalid, hfeatures⟩
  | _ => cases hEffect

end Records

/-! ## Replies -/

section Replies

/-- The reply as the sensor reads it. -/
def receivedReply (response : PyValue) : Value := response.bind fun n => .number n.toCpp

/-- All numbers of the value are finite. -/
def FiniteNumbers (response : PyValue) : Prop := ∀ n ∈ response.numbers, n.IsFinite

variable {artifacts : LoadedArtifacts} {flowId : String}

theorem finiteNumbers_decision {score : Float} (hscore : score.isFinite = true)
    (hthreshold : artifacts.threshold.isFinite = true) :
    FiniteNumbers (decision artifacts flowId score) := by
  intro n hn
  simp only [decision, Json.numbers, Json.numbersOfMembers, List.nil_append, List.append_nil,
    List.cons_append, List.mem_cons, List.not_mem_nil, or_false] at hn
  rcases hn with rfl | rfl | rfl
  · trivial
  · exact hscore
  · exact hthreshold

theorem finiteNumbers_errorResponse (request : PyValue) (code : String) :
    FiniteNumbers (errorResponse artifacts request code) := by
  intro n hn
  simp only [errorResponse, Json.numbers, Json.numbersOfMembers, List.append_nil,
    List.mem_singleton] at hn
  subst hn
  trivial

/-- A decision with a finite score that is not negative is a response the protocol accepts. -/
theorem accepts_decision {score : Float} (hscore : score.isFinite = true) (hnonneg : 0 ≤ score)
    (hthreshold : artifacts.threshold.isFinite = true) (hthresholdNonneg : 0 ≤ artifacts.threshold) :
    Accepts (receivedReply (decision artifacts flowId score)) flowId artifacts.modelVersion := by
  refine ⟨rfl, ⟨_, rfl⟩, rfl, rfl, .inr ⟨rfl, ⟨_, rfl⟩, ?_, ?_⟩⟩
  · exact ⟨.float score, rfl, hscore, hnonneg⟩
  · exact ⟨.float artifacts.threshold, rfl, hthreshold, hthresholdNonneg⟩

/-- An error response is one, for the flow it echoes. -/
theorem accepts_errorResponse {request : PyValue} {code : String} (hcode : code ≠ "") :
    Accepts (receivedReply (errorResponse artifacts request code)) (echoedFlowId request)
      artifacts.modelVersion :=
  ⟨rfl, ⟨_, rfl⟩, rfl, rfl, .inl ⟨rfl, code, rfl, hcode⟩⟩

theorem fieldsOf_decision {score : Float} {parsed : AiResponse}
    (h : FieldsOf (receivedReply (decision artifacts flowId score)) parsed) :
    parsed.ok = true ∧ parsed.anomaly = decide (score > artifacts.threshold) ∧
      parsed.score = score ∧ parsed.threshold = artifacts.threshold := by
  have hok : parsed.ok = true := (Json.bool.inj (Option.some.inj h.ok)).symm
  obtain ⟨n, hn, hscore⟩ := h.score hok
  obtain ⟨m, hm, hthreshold⟩ := h.threshold hok
  obtain rfl : JsonNumber.float score = n := Json.number.inj (Option.some.inj hn)
  obtain rfl : JsonNumber.float artifacts.threshold = m := Json.number.inj (Option.some.inj hm)
  exact ⟨hok, (Json.bool.inj (Option.some.inj (h.anomaly hok))).symm, hscore, hthreshold⟩

theorem fieldsOf_errorResponse {request : PyValue} {code : String} {parsed : AiResponse}
    (h : FieldsOf (receivedReply (errorResponse artifacts request code)) parsed) :
    parsed.ok = false ∧ parsed.errorCode = code := by
  have hok : parsed.ok = false := (Json.bool.inj (Option.some.inj h.ok)).symm
  exact ⟨hok, (Json.string.inj (Option.some.inj (h.errorCode hok))).symm⟩

theorem contractCode_ne_empty : ∀ code ∈ contractCodes, code ≠ "" := by decide

/-- The flow id that a payload carries. -/
def payloadFlowId? (loads : String → Except String PyValue) (payload : ByteArray) :
    Option String :=
  match decodePayload loads payload with
  | .ok request =>
    match request.member? "flow_id" with
    | some (.string flowId) => some flowId
    | _ => none
  | .error _ => none

section Server

variable {torchMean : Vector Float32 flowFeatureCount → Float32}
  {loads : String → Except String PyValue} {payload : ByteArray} {response : PyValue}

/-- Every reply carries the flow id of its payload, the empty one when the payload has
none. -/
theorem reply_flowId (h : responseForPayload torchMean loads artifacts payload = some response) :
    (receivedReply response).member? "flow_id"
      = some (.string ((payloadFlowId? loads payload).getD "")) := by
  rcases responseForPayload_some h with
    ⟨e, hdecode, rfl⟩ | ⟨request, hdecode, ⟨flowId, features, score, hvalid, -, -, rfl⟩ |
      ⟨code, message, -, -, rfl⟩⟩
  · simp only [payloadFlowId?, hdecode]
    rfl
  · simp only [payloadFlowId?, hdecode, validateRequest_flowId hvalid]
    rfl
  · have hecho : (receivedReply (errorResponse artifacts request code)).member? "flow_id"
        = some (.string (echoedFlowId request)) := rfl
    rw [hecho, echoedFlowId, payloadFlowId?, hdecode]
    cases hmember : request.member? "flow_id" with
    | none => simp [hmember]
    | some value => cases value <;> simp [hmember]

/-- All numbers of a reply are finite. -/
theorem finiteNumbers_reply (hthreshold : artifacts.threshold.isFinite = true)
    (h : responseForPayload torchMean loads artifacts payload = some response) :
    FiniteNumbers response := by
  rcases responseForPayload_some h with
    ⟨e, -, rfl⟩ | ⟨request, -, ⟨flowId, features, score, -, -, hfinite, rfl⟩ |
      ⟨code, message, -, -, rfl⟩⟩
  · exact finiteNumbers_errorResponse _ _
  · exact finiteNumbers_decision hfinite hthreshold
  · exact finiteNumbers_errorResponse _ _

end Server

/-- **Every reply of the server to a request of the sensor is understood**: it gives the
decision when the inference succeeded, and the error code when the request was refused. And
no reply to a payload without the pending flow id is taken for the pending flow. -/
theorem replies_understood (torchMean : Vector Float32 flowFeatureCount → Float32)
    (hmean : ∀ xs : Vector Float32 flowFeatureCount, (∀ x ∈ xs.toList, ¬ x < 0) → ¬ torchMean xs < 0)
    (artifacts : LoadedArtifacts) (hthreshold : artifacts.threshold.isFinite = true)
    (hthresholdNonneg : 0 ≤ artifacts.threshold) (record : FlowRecord Float)
    (hflowId : record.flowId ≠ "") (dump : Value → String)
    (loads : String → Except String PyValue)
    (htext : loads (serializeFlowRequest dump record) = .ok (receivedRequest record))
    (dumps : PyValue → String) (parse : String → Except Exception Value)
    (hreply : ∀ payload response,
      responseForPayload torchMean loads artifacts payload = some response →
      FiniteNumbers response → parse (dumps response) = .ok (receivedReply response)) :
    (∀ response, responseForPayload torchMean loads artifacts
        (serializeFlowRequest dump record).toUTF8 = some response →
      ∃ parsed, parseAiResponse parse (dumps response) record.flowId artifacts.modelVersion
          = (some parsed, "") ∧
        ((∃ features score,
          validateRequest (receivedRequest record) artifacts = .ok (record.flowId, features) ∧
          reconstructionError torchMean artifacts features = .ok score ∧
          parsed.ok = true ∧ parsed.anomaly = decide (score > artifacts.threshold) ∧
          parsed.score = score ∧ parsed.threshold = artifacts.threshold) ∨
        ∃ code message,
          validateRequest (receivedRequest record) artifacts = .error (.requestError code message) ∧
          parsed.ok = false ∧ parsed.errorCode = code)) ∧
    ∀ payload response, responseForPayload torchMean loads artifacts payload = some response →
      payloadFlowId? loads payload ≠ some record.flowId →
      (parseAiResponse parse (dumps response) record.flowId artifacts.modelVersion).1 = none := by
  constructor
  · intro response hresponse
    have hparse := hreply _ response hresponse (finiteNumbers_reply hthreshold hresponse)
    have hdecode := decodePayload_toUTF8 loads (serializeFlowRequest dump record) htext
    have hmember : (receivedRequest record).member? "flow_id" = some (.string record.flowId) := rfl
    rcases responseForPayload_some hresponse with
      ⟨e, hfailed, -⟩ | ⟨request, hrequest, hkind⟩
    · rw [hdecode] at hfailed
      cases hfailed
    obtain rfl : receivedRequest record = request := Except.ok.inj (hdecode.symm.trans hrequest)
    rcases hkind with ⟨flowId, features, score, hvalid, hscore, hfinite, rfl⟩ |
      ⟨code, message, hrefused, hcode, rfl⟩
    · obtain rfl : record.flowId = flowId := by
        simpa using hmember.symm.trans (validateRequest_flowId hvalid)
      have hnonneg := (FloatSign.zero_le_iff hfinite).mpr
        (not_reconstructionError_lt_zero hmean hscore)
      obtain ⟨parsed, hparsed, hfields⟩ := parseAiResponse_of_accepts hparse
        (accepts_decision hfinite hnonneg hthreshold hthresholdNonneg)
      refine ⟨parsed, hparsed, .inl ⟨features, score, hvalid, hscore, ?_⟩⟩
      exact fieldsOf_decision hfields
    · have hecho : echoedFlowId (receivedRequest record) = record.flowId := rfl
      obtain ⟨parsed, hparsed, hfields⟩ := parseAiResponse_of_accepts hparse
        (hecho ▸ accepts_errorResponse (contractCode_ne_empty code hcode))
      refine ⟨parsed, hparsed, .inr ⟨code, message, hrefused, ?_⟩⟩
      exact fieldsOf_errorResponse hfields
  · intro payload response hresponse hother
    have hparse := hreply payload response hresponse (finiteNumbers_reply hthreshold hresponse)
    refine parseAiResponse_otherFlow hparse ?_
    rw [reply_flowId hresponse]
    intro heq
    cases hid : payloadFlowId? loads payload with
    | none =>
      rw [hid] at heq
      exact hflowId (by simpa using heq.symm)
    | some flowId =>
      rw [hid] at heq hother
      exact hother (by simpa using heq)

/-- The mean taken in the order of the elements. -/
def meanInOrder (xs : Vector Float32 flowFeatureCount) : Float32 :=
  xs.toList.foldl (· + ·) 0 / 27

theorem meanInOrder_nonneg (xs : Vector Float32 flowFeatureCount)
    (hxs : ∀ x ∈ xs.toList, ¬ x < 0) : ¬ meanInOrder xs < 0 := by
  have hsum : ∀ (l : List Float32) (total : Float32), ¬ total < 0 → (∀ x ∈ l, ¬ x < 0) →
      ¬ l.foldl (· + ·) total < 0 := by
    intro l
    induction l with
    | nil => exact fun total htotal _ => htotal
    | cons x l ih =>
      intro total htotal hl
      exact ih _ (FloatSign.not_add_lt_zero htotal (hl x List.mem_cons_self))
        fun y hy => hl y (List.mem_cons_of_mem _ hy)
  exact FloatSign.not_div_lt_zero (hsum _ _ (by decide) hxs) ⟨14155776, -19, by decide, by rfl⟩

/-- A model that returns zeros, with the identity scaler. -/
def zeroArtifacts : LoadedArtifacts :=
  { identityArtifacts with model := fun _ => .ok (.replicate _ 0), threshold := 0.125 }

def sampleRecord : FlowRecord Float where
  flowId := "sensor-7"
  key := ⟨0x0A0200C0, 0x146433C6, 45678, 443, 6⟩
  firstSeenMs := 1000
  lastSeenMs := 2500
  endReason := .timeout
  featureSchemaVersion := 1
  features := .replicate _ 0.5

def decisionText : String :=
  "\x7b\"schema_version\": 1, \"flow_id\": \"sensor-7\", \"model_version\": \"ae-v1\", " ++
    "\"ok\": true, \"anomaly\": true, \"score\": 0.25, \"threshold\": 0.125\x7d"

def invalidJsonText : String :=
  "\x7b\"schema_version\": 1, \"flow_id\": \"\", \"model_version\": \"ae-v1\", " ++
    "\"ok\": false, \"error_code\": \"INVALID_JSON\"\x7d"

/-- The texts of the two replies that the sample server gives. -/
def sampleDumps (response : PyValue) : String :=
  match response.member? "ok" with
  | some (.bool true) => decisionText
  | _ => invalidJsonText

def sampleParse (text : String) : Except Exception Value :=
  .ok (receivedReply (if text = decisionText then decision zeroArtifacts "sensor-7" 0.25
    else errorResponse zeroArtifacts .null invalidJson))

theorem sampleRecord_wellFormed : WellFormed sampleRecord where
  flowId := by decide
  firstSeen := by decide
  ordered := by decide
  lastSeen := by decide
  version := by decide

theorem sampleRecord_finite : ∀ x ∈ sampleRecord.features.toList, x.isFinite = true := by
  decide +kernel

theorem sampleRecord_error :
    reconstructionError meanInOrder zeroArtifacts ⟨sampleRecord.features, sampleRecord_finite⟩
      = .ok 0.25 := by
  decide +kernel

theorem sampleRecord_valid :
    validateRequest (receivedRequest sampleRecord) zeroArtifacts
      = .ok ("sensor-7", ⟨sampleRecord.features, sampleRecord_finite⟩) :=
  validateRequest_received sampleRecord_wellFormed sampleRecord_finite rfl

/-- The sample server gives two replies: the decision and the one to undecodable bytes. -/
theorem sampleServer_reply {payload : ByteArray} {response : PyValue}
    (h : responseForPayload meanInOrder (fun _ => .ok (receivedRequest sampleRecord)) zeroArtifacts
      payload = some response) :
    response = decision zeroArtifacts "sensor-7" 0.25 ∨
      response = errorResponse zeroArtifacts .null invalidJson := by
  rcases responseForPayload_some h with
    ⟨e, -, rfl⟩ | ⟨request, hdecode, hkind⟩
  · exact .inr rfl
  obtain rfl : receivedRequest sampleRecord = request := by
    unfold decodePayload at hdecode
    split at hdecode
    · cases hdecode
    · exact Except.ok.inj hdecode
  rcases hkind with ⟨flowId, features, score, hvalid, hscore, -, rfl⟩ | ⟨code, message, hrefused, -⟩
  · obtain ⟨rfl, rfl⟩ := Prod.mk.inj (Except.ok.inj (sampleRecord_valid.symm.trans hvalid))
    obtain rfl := Except.ok.inj (sampleRecord_error.symm.trans hscore)
    exact .inl rfl
  · rw [sampleRecord_valid] at hrefused
    cases hrefused

theorem sampleServer_infers :
    inferRequest meanInOrder zeroArtifacts (receivedRequest sampleRecord)
      = .ok (decision zeroArtifacts "sensor-7" 0.25) := by
  have hfinite : (0.25 : Float).isFinite = true := by decide
  simp only [inferRequest, sampleRecord_valid, Fallible.ok_bind, sampleRecord_error, hfinite]
  rfl

theorem sampleServer_decides (text : String) :
    responseForPayload meanInOrder (fun _ => .ok (receivedRequest sampleRecord)) zeroArtifacts
      text.toUTF8 = some (decision zeroArtifacts "sensor-7" 0.25) := by
  have hdecode := decodePayload_toUTF8 (fun _ => .ok (receivedRequest sampleRecord)) text rfl
  simp only [responseForPayload, hdecode, sampleServer_infers]

/-- The reply of a server whose model returns zeros is read as an anomaly. -/
theorem replies_understood_anomaly :
    ∃ parsed, parseAiResponse sampleParse decisionText "sensor-7" "ae-v1" = (some parsed, "") ∧
      parsed.ok = true ∧ parsed.anomaly = true ∧ parsed.score = 0.25 := by
  obtain ⟨parsed, hparsed, hkind⟩ := (replies_understood meanInOrder meanInOrder_nonneg
    zeroArtifacts (by decide) (by decide) sampleRecord (by decide) (fun _ => sampleText "\"timeout\"")
    (fun _ => .ok (receivedRequest sampleRecord)) rfl sampleDumps sampleParse
    (by
      intro payload response hresponse _
      rcases sampleServer_reply hresponse with rfl | rfl
      · rfl
      · have hother : invalidJsonText ≠ decisionText := by decide
        exact congrArg (fun v => Except.ok (receivedReply v)) (if_neg hother))).1
    (decision zeroArtifacts "sensor-7" 0.25) (sampleServer_decides _)
  rcases hkind with ⟨features, score, hvalid, hscore, hok, hanomaly, hscore', -⟩ |
    ⟨code, message, hrefused, -⟩
  · obtain ⟨-, rfl⟩ := Prod.mk.inj (Except.ok.inj (sampleRecord_valid.symm.trans hvalid))
    obtain rfl := Except.ok.inj (sampleRecord_error.symm.trans hscore)
    exact ⟨parsed, hparsed, hok, hanomaly.trans (by decide), hscore'⟩
  · rw [sampleRecord_valid] at hrefused
    cases hrefused

end Replies

end Contract

end InlineIps
