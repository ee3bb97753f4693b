import InlineIps.App.AiPath

/-!
# Why the AI blocks a source

Every reply of the inference server is the verdict of its model on the features of one record.
Here the server stands at the end of the way of the records: whatever the interleaving, a source is
blocked on behalf of the AI only when the model found one of its records above the threshold.

* `ServedBy`: a reply of a server to the request of a job, as the JSON libraries carry both.
* `Justified`: the verdict behind a block.
-/

namespace InlineIps

open Library Library.Machine AiProtocol OnlineServer Contract PacketCapture

namespace AiPath

variable {Text : Type} (torchMean : Vector Float32 flowFeatureCount → Float32)
  (loads : String → Except String PyValue) (dump : Nlohmann.Value → String)

/-- Some server has replied with the text to the request of the job. `loads` reads the request as
it was written, and the client reads the reply as it was written. -/
def ServedBy (c : AiPathParams Text) (job : AiJob) (text : Text) : Prop :=
  loads (serializeFlowRequest dump job.inFlight) = .ok (receivedRequest job.inFlight) ∧
    ∃ artifacts response,
      responseForPayload torchMean loads artifacts
        (serializeFlowRequest dump job.inFlight).toUTF8 = some response ∧
      c.client.parse text = .ok (receivedReply response)

/-- The model of some artifacts finds the record above their threshold. -/
structure Verdict (record : FlowRecord Float) (score threshold : Float) (modelVersion : String)
    (artifacts : LoadedArtifacts) (features : Features) : Prop where
  valid : validateRequest (receivedRequest record) artifacts = .ok (record.flowId, features)
  readBack : features.1 = record.features
  inference : reconstructionError torchMean artifacts features = .ok score
  above : score > artifacts.threshold
  ofArtifacts : threshold = artifacts.threshold ∧ modelVersion = artifacts.modelVersion

/-- The block is for the source of the record, and shows the verdict. -/
structure Justified (c : AiPathParams Text) (record : FlowRecord Float)
    (event : AiBlockEvent Float) : Prop where
  flowId : event.flowId = record.flowId
  sourceIp : event.sourceIp = record.key.srcIp
  ttlSeconds : event.ttlSeconds = c.capture.config.blockTtlSeconds
  verdict : ∃ artifacts features,
    Verdict torchMean record event.score event.threshold event.modelVersion artifacts features

section Verdict

variable {torchMean loads dump} {c : AiPathParams Text}

/-- A value that is not finite is no number of the request. -/
theorem finite_of_numbers {xs : List Float} {numbers : List PyNumber}
    (h : (xs.map fun x => (JsonNumber.float x).toPython).mapM number? = some numbers) :
    ∀ x ∈ xs, x.isFinite = true := by
  induction xs generalizing numbers with
  | nil => exact fun x hx => absurd hx List.not_mem_nil
  | cons x xs ih =>
    rw [List.map_cons, List.mapM_cons] at h
    obtain ⟨number, hnumber, hrest⟩ := Option.bind_eq_some_iff.mp h
    obtain ⟨rest, hrest, -⟩ := Option.bind_eq_some_iff.mp hrest
    refine List.forall_mem_cons.mpr ⟨?_, ih hrest⟩
    by_contra hinfinite
    have hnull : (JsonNumber.float x).toPython = .null := if_neg hinfinite
    rw [hnull] at hnumber
    cases hnumber

/-- The features that the server reads are those of the record. -/
theorem requireFeatures_readBack {record : FlowRecord Float} {features : Features}
    (h : requireFeatures (receivedRequest record) = .ok features) :
    features.1 = record.features := by
  by_cases hfinite : ∀ x ∈ record.features.toList, x.isFinite = true
  · rw [requireFeatures_received hfinite] at h
    cases h
    rfl
  · have hget : Python.get (receivedRequest record) "features" =
        .array (record.features.toList.map fun x => (JsonNumber.float x).toPython) := by
      rw [get_receivedRequest
        (w := .array (record.features.toList.map fun x => .number (.float x))) rfl,
        Json.bind_array, List.map_map]
      rfl
    unfold requireFeatures at h
    rw [hget] at h
    dsimp only at h
    split at h
    · cases h
    · split at h
      · cases h
      · rename_i numbers hnumbers
        exact absurd (finite_of_numbers hnumbers) hfinite

theorem validateRequest_readBack {record : FlowRecord Float} {artifacts : LoadedArtifacts}
    {flowId : String} {features : Features}
    (h : validateRequest (receivedRequest record) artifacts = .ok (flowId, features)) :
    flowId = record.flowId ∧ features.1 = record.features := by
  have hmember : (receivedRequest record).member? "flow_id" = some (.string record.flowId) := rfl
  have hid : some (Json.string flowId) = some (.string record.flowId) :=
    (validateRequest_flowId h).symm.trans hmember
  refine ⟨by simpa using hid, ?_⟩
  obtain ⟨members, hobject⟩ : ∃ members, receivedRequest record = .object members := ⟨_, rfl⟩
  unfold validateRequest at h
  rw [hobject] at h
  dsimp only at h
  rw [← hobject] at h
  obtain ⟨flowId', -, h⟩ := Fallible.bind_eq_ok_iff.mp h
  obtain ⟨_, -, h⟩ := Fallible.bind_eq_ok_iff.mp h
  obtain ⟨_, -, h⟩ := Fallible.bind_eq_ok_iff.mp h
  obtain ⟨features', hfeatures, h⟩ := Fallible.bind_eq_ok_iff.mp h
  cases h
  exact requireFeatures_readBack hfeatures

/-- A reply that the client takes has the fields of its value. -/
theorem fieldsOf_taken {parse : Text → Except Exception Nlohmann.Value} {text : Text}
    {v : Nlohmann.Value} {flowId modelVersion : String} {parsed : AiResponse}
    (hparse : parse text = .ok v)
    (htaken : (parseAiResponse parse text flowId modelVersion).1 = some parsed) :
    FieldsOf v parsed := by
  rcases checkResponse_cases v flowId modelVersion with
    ⟨⟨response, hcheck, hfields⟩, -⟩ | ⟨⟨error, hcheck, -⟩, -⟩
  · rw [parseAiResponse_taken flowId modelVersion hparse hcheck] at htaken
    cases htaken
    exact hfields
  · rw [parseAiResponse_taken flowId modelVersion hparse hcheck] at htaken
    cases htaken

/-- **An anomaly that a server has found is the verdict of its model.** -/
theorem verdict_of_answered {d : AiDecision Float}
    (h : AsyncAiClient.Answered c.client (ServedBy torchMean loads dump c) d) :
    ∃ artifacts features,
      Verdict torchMean d.record d.score d.threshold d.modelVersion artifacts features := by
  obtain ⟨job, text, parsed, ⟨hloads, artifacts, response, hresponse, hparse⟩, htaken, hok, hanomaly,
    rfl⟩ := h
  have hfields := fieldsOf_taken hparse htaken
  have hdecode := decodePayload_toUTF8 loads (serializeFlowRequest dump job.inFlight) hloads
  rcases responseForPayload_some hresponse with ⟨e, hfailed, -⟩ | ⟨request, hrequest, hkind⟩
  · rw [hdecode] at hfailed
    cases hfailed
  obtain rfl : receivedRequest job.inFlight = request :=
    Except.ok.inj (hdecode.symm.trans hrequest)
  rcases hkind with ⟨flowId, features, score, hvalid, hscore, -, rfl⟩ | ⟨code, message, -, -, rfl⟩
  · obtain ⟨-, habove, hscore', hthreshold⟩ := fieldsOf_decision hfields
    obtain ⟨rfl, hreadBack⟩ := validateRequest_readBack hvalid
    have hmember : some (Json.string artifacts.modelVersion) = some (.string parsed.modelVersion) :=
      hfields.modelVersion
    have hversion : parsed.modelVersion = artifacts.modelVersion := by simpa using hmember.symm
    refine ⟨artifacts, features, hvalid, hreadBack, ?_, ?_, hthreshold, hversion⟩
    · show reconstructionError torchMean artifacts features = .ok parsed.score
      rw [hscore', hscore]
    · show parsed.score > artifacts.threshold
      rw [hscore']
      exact of_decide_eq_true (habove.symm.trans hanomaly)
  · rw [(fieldsOf_errorResponse hfields).1] at hok
    cases hok

/-- Behind every notification there is a record with a verdict. -/
theorem Flowing.justified {s : AiPath Text} {made : List (FlowRecord Float)}
    {arrived : List (AiDecision Float)}
    (h : Flowing c (ServedBy torchMean loads dump c) s made arrived) {e : AiPathEvent Text}
    {event : AiBlockEvent Float} (hevent : event ∈ notifications (AiPath.step c s e).2.effects) :
    ∃ record ∈ made, Justified torchMean c record event := by
  obtain ⟨blocking, hsub, hnotified⟩ := step_drained c s e
  rw [hnotified] at hevent
  obtain ⟨d, hd, rfl⟩ := List.mem_map.mp hevent
  obtain ⟨hpending, hmade⟩ := h.drained_pending (hsub.subset hd)
  obtain ⟨artifacts, features, hverdict⟩ := verdict_of_answered (h.answering.pending d hpending)
  exact ⟨d.record, hmade, rfl, rfl, rfl, artifacts, features, hverdict⟩

end Verdict

/-- The event brings the end of a request to the worker. -/
def isExchange : AiPathEvent Text → Bool
  | .client (.exchange _) => true
  | _ => false

/-- The record of `resetEvents`. -/
def resetRecord : FlowRecord Float :=
  (records (effectsOf defaultParams resetEvents)).headD sampleRecord

/-- Its request. -/
def resetRequest : PyValue := receivedRequest resetRecord

/-- What `json.loads` makes of the text of the request. -/
def resetLoads (text : String) : Except String PyValue :=
  if text = Contract.resetText then .ok resetRequest else .error "Expecting value"

/-- The reply of a server whose model returns zeros. -/
def resetResponse : PyValue :=
  match inferRequest meanInOrder zeroArtifacts resetRequest with
  | .ok response => response
  | .error _ => .null

/-- Its text. -/
def replyText : String :=
  "\x7b\"schema_version\": 1, \"flow_id\": \"0-1\", \"model_version\": \"ae-v1\", \"ok\": true, " ++
    "\"anomaly\": true, \"score\": 0.2222222238779068, \"threshold\": 0.125\x7d"

/-- What the client's parser makes of it. -/
def resetParse (text : String) : Except Exception Nlohmann.Value :=
  if text = replyText then .ok (receivedReply resetResponse) else .error (.json "syntax error")

def resetParams : AiPathParams String where
  capture := defaultParams
  client := { queueCapacity := 1, hasFailureHandler := false, parse := resetParse }

/-- The job of the record. -/
def resetJob : AiJob := ⟨resetRecord, "tcp://127.0.0.1:5555", "ae-v1", 1⟩

/-- Up to the request. -/
def beforeReply : List (AiPathEvent String) :=
  [.client .start, .client (.setOnline "tcp://127.0.0.1:5555" "ae-v1"), .packet synBytes .inbound 5 [],
    .packet rstBytes .inbound 7 [8], .handOver, .client .worker]

/-- The request reaches the server as it was written. -/
theorem resetLoads_request :
    resetLoads (serializeFlowRequest (fun _ => Contract.resetText) resetRecord) = .ok resetRequest :=
  if_pos rfl

/-- The server infers. -/
theorem resetRequest_inferred :
    inferRequest meanInOrder zeroArtifacts resetRequest = .ok resetResponse := by
  have hinfers : (inferRequest meanInOrder zeroArtifacts resetRequest).isOk = true := by
    decide +kernel
  unfold resetResponse
  cases hinfer : inferRequest meanInOrder zeroArtifacts resetRequest with
  | error e =>
    rw [hinfer] at hinfers
    cases hinfers
  | ok response => rfl

theorem resetResponse_of :
    responseForPayload meanInOrder resetLoads zeroArtifacts
      (serializeFlowRequest (fun _ => Contract.resetText) resetRecord).toUTF8 =
        some resetResponse :=
  responseForPayload_of (decodePayload_toUTF8 resetLoads _ resetLoads_request) resetRequest_inferred

/-- The reply is a decision. -/
theorem resetResponse_ok : resetResponse.member? "ok" = some (.bool true) := by
  obtain ⟨flowId, score, heq⟩ := inferRequest_ok resetRequest_inferred
  rw [heq]
  rfl

theorem beforeReply_worker :
    (exec (step resetParams) initial beforeReply).client.worker = .exchanging resetJob := by
  decide +kernel

end AiPath

end InlineIps
