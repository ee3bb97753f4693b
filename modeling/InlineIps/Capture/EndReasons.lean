import InlineIps.Capture.Calls
import InlineIps.Capture.PacketGrammar
import InlineIps.Flow.Endings

/-!
# End reasons

A capture extracts the flow of every packet right behind the packet, or discards the source of the
packet when it hits a rule, so no flow stays in the table once it has ended.

* `endsAtOnce_run`: the calls of a run end flows at once.
* `end_reasons_exact`: the reason of every flow that is handed to `consume_flow` is the pattern of
  its packets.
-/

namespace InlineIps.PacketCapture

open Library FlowManager

variable {F : Type} [DoubleOps F] {c : CaptureParams}

/-- **No flow stays in the table once it has ended.** -/
theorem endsAtOnce_run (c : CaptureParams) (events : List (CaptureEvent F)) :
    EndsAtOnce F c.flowParams (callsOf c events) := by
  induction events using List.reverseRecOn with
  | nil => exact endsAtOnce_nil F c.flowParams
  | append_singleton events e ih =>
    have hcalls := (step_flows c (run c events) e).1
    rw [flowManager_run] at hcalls
    rw [callsOf_snoc]
    generalize (step c (run c events) e).2.calls = calls at hcalls ⊢
    cases hcalls with
    | quiet => simpa using ih
    | passed packet direction hPacket hDirection => exact ih.passed hDirection e.now
    | dropped packet hPacket hCounted => exact ih.dropped hCounted
    | ticked ips hTick =>
      rw [← List.append_assoc]
      exact (ih.discards ips).cleanup e.now

/-- The observed packets of other protocols have no flags. -/
theorem carries_eq_false {events : List (CaptureEvent F)} {o : Observation}
    (ho : o ∈ observations (callsOf c events))
    (hprotocol : o.packet.tuple.protocol ≠ PacketParser.ipProtoTcp) (flag : UInt8) :
    o.carries flag = false := by
  obtain ⟨e, -, hobserved⟩ :=
    List.mem_filterMap.mp ((observations_callsOf c events).subset ho)
  have hflags : o.packet.tcpFlags = 0 := by
    unfold observed? at hobserved
    split at hobserved
    · obtain ⟨packet, hparse, rfl⟩ := Option.map_eq_some_iff.mp hobserved
      exact PacketParser.parse_flags hparse hprotocol
    · cases hobserved
  rw [Observation.carries, hflags]
  simp [hasFlag]

/-- **End reasons are exact, and flows end at once.** Behind every event no flow in the table has
ended. Every flow that a call of the run returns, which is what is handed to `consume_flow`, has
the reason that its packets give. -/
theorem end_reasons_exact (c : CaptureParams) (events : List (CaptureEvent F)) :
    (∀ k flow, (run c events).flowManager.flows.lookup k = some flow →
      flow.forward.rst = 0 ∧ flow.backward.rst = 0 ∧ flow.finHandshakeComplete = false) ∧
    ∀ before e after, callsOf c events = before ++ e :: after →
      ∀ ended ∈ ((managerAfter (F := F) c before).call c.flowParams e).2.endedFlows,
      let packets := assigned (F := F) c.flowParams ended.flow.key
        (Machine.trace (call c.flowParams) .empty before)
      packets.length < 2 ^ 32 →
      (ended.reason = .tcpReset ↔ ResetAtEnd packets) ∧
      (ended.reason = .tcpFin ↔ NoReset packets ∧ CloseAtEnd ended.flow.key packets) ∧
      (ended.reason = .timeout ↔ NoReset packets ∧ NoClose ended.flow.key packets) ∧
      (ended.flow.key.protocol ≠ PacketParser.ipProtoTcp → ended.reason = .timeout) := by
  have hends := endsAtOnce_run c events
  refine ⟨fun k flow hlookup => ?_, ?_⟩
  · rw [flowManager_run] at hlookup
    have hnone := hends.settled k flow hlookup (by simp)
    rcases Flow.endReason_cases flow with ⟨-, hreason⟩ | ⟨-, -, hreason⟩ | ⟨hreset, hfin, -⟩
    · rw [hnone] at hreason
      cases hreason
    · rw [hnone] at hreason
      cases hreason
    · rw [not_or, UInt32.not_lt, UInt32.not_lt, UInt32.le_zero_iff, UInt32.le_zero_iff] at hreset
      exact ⟨hreset.1, hreset.2, hfin⟩
  · intro before e after hcalls ended hended packets hlength
    have hwith := hends.returned before e after hcalls ended hended
    obtain ⟨hreset, hfin, htimeout⟩ := hwith.exact hlength
    refine ⟨hreset, hfin, htimeout, fun hprotocol => htimeout.mpr ?_⟩
    have hquiet : ∀ o ∈ packets, ∀ flag, o.carries flag = false := by
      intro o ho flag
      have hobserved : o ∈ observations (callsOf c events) := by
        rw [hcalls, observations, List.filterMap_append]
        exact List.mem_append_left _ ((assigned_sublist _ _ before).subset ho)
      apply carries_eq_false hobserved
      rcases hwith.made.exact.conversation o ho with htuple | htuple <;> rw [htuple] <;> exact hprotocol
    refine ⟨fun o ho => hquiet o ho thRst, fun earlier o later hsplit hcloses => ?_⟩
    have ho : o ∈ earlier ++ o :: later := List.mem_append_right _ List.mem_cons_self
    rw [← hsplit] at ho
    have hack := hcloses.1
    rw [hquiet o ho] at hack
    cases hack

end InlineIps.PacketCapture
