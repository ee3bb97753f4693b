import InlineIps.Ai.AiDecisions

/-!
# The replies behind the decisions

A decision that is drained was made of a reply to the request of its record. `Answer` is what is
known of the replies that the worker receives.

* `Answered`: the decision was made of a reply, under the model version that the request asked for.
* `step_answering`: every action keeps this for the decisions that wait or are on offer.
-/

namespace InlineIps

open Library Library.Machine AiProtocol Nlohmann

/-- The worker has a reply, or a decision made of one. -/
def AiWorker.hasReply {Text : Type} : AiWorker Text → Bool
  | .received _ _ | .offering _ _ => true
  | _ => false

namespace AsyncAiClient

variable {Text : Type}

/-- The decision says what an answer to its record's request says, and this is an anomaly. -/
def Answered (c : AiClientParams Text) (Answer : AiJob → Text → Prop) (d : AiDecision Float) :
    Prop :=
  ∃ job text parsed, Answer job text ∧
    (parseAiResponse c.parse text job.inFlight.flowId job.modelVersion).1 = some parsed ∧
    parsed.ok = true ∧ parsed.anomaly = true ∧ d = job.decision parsed

structure Answering (c : AiClientParams Text) (Answer : AiJob → Text → Prop)
    (s : AsyncAiClient Text) : Prop where
  received : ∀ job text, s.worker = .received job text → Answer job text
  offering : ∀ job d, s.worker = .offering job d → Answered c Answer d
  pending : ∀ d ∈ s.pendingDecisions, Answered c Answer d

/-- The reply that the action brings to the worker, with its job. -/
def arriving (s : AsyncAiClient Text) (action : AiAction Text) : Option (AiJob × Text) :=
  match s.worker, action with
  | .exchanging job, .exchange (.reply text) => some (job, text)
  | _, _ => none

section Answering

variable {c : AiClientParams Text} {Answer : AiJob → Text → Prop} {s s' : AsyncAiClient Text}

theorem initial_answering (c : AiClientParams Text) (Answer : AiJob → Text → Prop) :
    Answering c Answer (initial : AsyncAiClient Text) where
  received _ _ hworker := by cases hworker
  offering _ _ hworker := by cases hworker
  pending _ hmem := absurd hmem List.not_mem_nil

/-- The worker stays where it is. -/
theorem Answering.sameWorker (h : Answering c Answer s) (hworker : s'.worker = s.worker)
    (hpending : ∀ d ∈ s'.pendingDecisions, d ∈ s.pendingDecisions) : Answering c Answer s' where
  received job text heq := h.received job text (hworker ▸ heq)
  offering job d heq := h.offering job d (hworker ▸ heq)
  pending d hmem := h.pending d (hpending d hmem)

/-- The worker goes where it has no reply. -/
theorem Answering.elsewhere (h : Answering c Answer s) (hworker : s'.worker.hasReply = false)
    (hpending : ∀ d ∈ s'.pendingDecisions, d ∈ s.pendingDecisions) : Answering c Answer s' where
  received job text heq := by
    rw [heq] at hworker
    cases hworker
  offering job d heq := by
    rw [heq] at hworker
    cases hworker
  pending d hmem := h.pending d (hpending d hmem)

/-- What the worker makes of an answer. -/
theorem judge_answered {job : AiJob} {text : Text} (hanswer : Answer job text) {job' : AiJob}
    {d : AiDecision Float} (hjudge : job.judge c text = .offering job' d) :
    Answered c Answer d := by
  unfold AiJob.judge at hjudge
  split at hjudge
  · cases hjudge
  · rename_i parsed hparsed
    split_ifs at hjudge with hok hanomaly
    rw [Bool.not_eq_true', Bool.not_eq_false] at hok hanomaly
    cases hjudge
    exact ⟨job, text, parsed, hanswer, hparsed, hok, hanomaly, rfl⟩

theorem judge_ne_received (c : AiClientParams Text) (job : AiJob) (text : Text) {job' : AiJob}
    {text' : Text} (hjudge : job.judge c text = .received job' text') : False := by
  unfold AiJob.judge at hjudge
  split at hjudge
  · cases hjudge
  · split_ifs at hjudge

theorem Answering.takeRecord (h : Answering c Answer s) : Answering c Answer s.takeRecord := by
  unfold AsyncAiClient.takeRecord
  split
  · exact h.elsewhere rfl fun _ hmem => hmem
  · split
    · exact h.elsewhere rfl fun _ hmem => hmem
    · exact h

theorem Answering.offer (h : Answering c Answer s) {job : AiJob} {d : AiDecision Float}
    (hworker : s.worker = .offering job d) : Answering c Answer (s.offer c job d) := by
  unfold AsyncAiClient.offer
  split_ifs
  · exact h.elsewhere rfl fun _ hmem => hmem
  · have hwaits : Answering c Answer { s with worker := .waiting } :=
      h.elsewhere rfl fun _ hmem => hmem
    refine ⟨hwaits.received, hwaits.offering, fun d' hmem => ?_⟩
    rcases List.mem_append.mp hmem with hold | hnew
    · exact h.pending d' hold
    · rw [List.mem_singleton.mp hnew]
      exact h.offering job d hworker
  · exact h

theorem Answering.failTransport (h : Answering c Answer s) (job : AiJob) (reason : String)
    (timedOut : Bool) : Answering c Answer (s.failTransport job reason timedOut).1 := by
  unfold AsyncAiClient.failTransport
  split
  · exact h.elsewhere rfl fun _ hmem => hmem
  · refine h.elsewhere ?_ fun _ hmem => absurd hmem List.not_mem_nil
    cases timedOut <;> rfl

theorem Answering.workerStep (h : Answering c Answer s) :
    Answering c Answer (s.workerStep c).1 := by
  unfold AsyncAiClient.workerStep
  cases hworker : s.worker with
  | absent => exact h
  | exchanging job => exact h
  | finished => exact h
  | waiting => exact h.takeRecord
  | received job reply =>
    have hanswer := h.received job reply hworker
    refine ⟨fun job' text heq => ?_, fun job' d heq => ?_, h.pending⟩
    · dsimp only at heq
      split at heq
      · exact (judge_ne_received c job reply heq).elim
      · cases heq
    · dsimp only at heq
      split at heq
      · exact judge_answered hanswer heq
      · cases heq
  | rejecting job =>
    refine h.elsewhere ?_ fun _ hmem => hmem
    dsimp only
    split <;> rfl
  | countingError job => exact h.elsewhere rfl fun _ hmem => hmem
  | recording job =>
    dsimp only
    split <;> exact h.elsewhere rfl fun _ hmem => hmem
  | offering job d => exact h.offer hworker
  | failing job reason timedOut => exact h.failTransport job reason timedOut
  | countingTimeout reason failedGeneration => exact h.elsewhere rfl fun _ hmem => hmem
  | notifying reason failedGeneration => exact h.elsewhere rfl fun _ hmem => hmem

/-- **Every action keeps the answers.** -/
theorem step_answering (h : Answering c Answer s) {action : AiAction Text}
    (harriving : ∀ job text, s.arriving action = some (job, text) → Answer job text) :
    Answering c Answer (step c s action).1 := by
  cases action with
  | start =>
    unfold step AsyncAiClient.start
    dsimp only
    split
    · exact h
    · exact h.elsewhere rfl fun _ hmem => hmem
  | setOnline endpoint modelVersion =>
    unfold step AsyncAiClient.setOnline
    dsimp only
    split
    · exact h
    · exact h.sameWorker rfl fun _ hmem => absurd hmem List.not_mem_nil
  | setOffline => exact h.sameWorker rfl fun _ hmem => absurd hmem List.not_mem_nil
  | stop => exact h.sameWorker rfl fun _ hmem => absurd hmem List.not_mem_nil
  | consume record =>
    unfold step AsyncAiClient.consume
    dsimp only
    split_ifs <;> exact h.sameWorker rfl fun _ hmem => hmem
  | drainDecisions => exact h.sameWorker rfl fun _ hmem => absurd hmem List.not_mem_nil
  | worker => exact h.workerStep
  | exchange outcome =>
    unfold step AsyncAiClient.exchange
    dsimp only
    cases hworker : s.worker with
    | exchanging job =>
      cases outcome with
      | reply text =>
        refine ⟨fun job' text' heq => ?_, fun job' d heq => ?_, h.pending⟩
        · cases heq
          refine harriving job text ?_
          unfold arriving
          rw [hworker]
        · cases heq
      | _ => exact h.elsewhere rfl fun _ hmem => hmem
    | _ => exact h

end Answering

end AsyncAiClient

end InlineIps
