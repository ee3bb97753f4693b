import InlineIps.Flow.Conversation

/-!
# Counting at the flow cap

Two flow managers that differ in the flow cap only are given the same calls. A flow that the
capped one could not store changes who is later seen as the initiator of its conversation,
and then the capped one stops counting packets that the other one counts.

* `cap_stopsCounting`: a run in which that happens.
* `Aligned`: conversations that the uncapped manager sees opened by a remote host, the capped
  one sees opened by the same host or not at all.
* `cap_keepsCounting`: while the initiators are the same, nothing counted is lost.
-/

namespace InlineIps.FlowManager

open Library

variable {F : Type} [DoubleOps F] {c : FlowParams} {maxFlows : Nat}
  {flowBuckets : Buckets FiveTuple} {m : FlowManager F × FlowManager F}

/-- The same manager with another flow cap, and the bucket layout that goes with it. -/
def recapped (c : FlowParams) (maxFlows : Nat) (flowBuckets : Buckets FiveTuple) : FlowParams :=
  { c with maxFlows := maxFlows, flowBuckets := flowBuckets }

/-- A call of the capped and of the recapped manager. -/
def callBoth (c : FlowParams) (maxFlows : Nat) (flowBuckets : Buckets FiveTuple)
    (m : FlowManager F × FlowManager F) (e : FlowCall) :
    (FlowManager F × FlowManager F) × (FlowResult F × FlowResult F) :=
  (((m.1.call c e).1, (m.2.call (recapped c maxFlows flowBuckets) e).1),
    ((m.1.call c e).2, (m.2.call (recapped c maxFlows flowBuckets) e).2))

omit [DoubleOps F] in
/-- The call returned statistics. -/
def FlowResult.counts : FlowResult F → Bool
  | .stats result => result.isSome
  | .ended _ => false

/-- There is room: in both source tables, and in the flow table of the second manager. -/
def WithinCaps (c : FlowParams) (maxFlows : Nat) (m : FlowManager F × FlowManager F)
    (_ : FlowCall) : Prop :=
  m.1.sourceStats.size < c.maxSources ∧ m.2.sourceStats.size < c.maxSources ∧
    m.2.flows.size < maxFlows

instance (c : FlowParams) (maxFlows : Nat) (m : FlowManager F × FlowManager F) (e : FlowCall) :
    Decidable (WithinCaps c maxFlows m e) :=
  inferInstanceAs (Decidable (_ ∧ _ ∧ _))

/-- The packets the sensor observes. -/
def FlowCall.Observable : FlowCall → Prop
  | .observe packet direction _ => packet.hasPorts = true ∧ direction ≠ .unknown
  | _ => True

instance : ∀ e : FlowCall, Decidable e.Observable
  | .observe packet direction _ =>
    inferInstanceAs (Decidable (packet.hasPorts = true ∧ direction ≠ .unknown))
  | .extract _ => .isTrue trivial
  | .discard _ => .isTrue trivial
  | .cleanup _ => .isTrue trivial

/-- When the one flow was opened by a remote host, the other one was opened by the same host. -/
def SameOpener (flow flow' : Flow F) : Prop :=
  flow.origin = .remoteInitiated → flow'.key = flow.key ∧ flow'.origin = .remoteInitiated

/-- The initiators stay the same. When one of the managers opens a flow of a conversation that the
other one has, and the second manager sees it opened by a remote host, the capped one sees it
opened by the same host. -/
def SameInitiator (c : FlowParams) (m : FlowManager F × FlowManager F) : FlowCall → Prop
  | .observe packet direction now => direction ≠ .unknown →
    (m.1.getFlow packet.tuple = none → m.1.flows.size < c.maxFlows →
      ∀ flow, m.2.getFlow packet.tuple = some flow →
        SameOpener flow (Flow.begin ⟨packet, direction, now⟩)) ∧
    (m.2.getFlow packet.tuple = none →
      ∀ flow, m.1.getFlow packet.tuple = some flow →
        SameOpener (Flow.begin ⟨packet, direction, now⟩) flow)
  | _ => True

/-! ## The invariant -/

structure Aligned (m : FlowManager F × FlowManager F) : Prop where
  capped : m.1.Ok
  other : m.2.Ok
  aligned : ∀ k flow, m.2.getFlow k = some flow →
    ∀ flow', m.1.getFlow k = some flow' → SameOpener flow flow'

omit [DoubleOps F] in
/-- Removing flows from both. -/
theorem Aligned.remove {m' : FlowManager F × FlowManager F} (h : Aligned m) (h₁ : m'.1.Ok)
    (h₂ : m'.2.Ok) (hSub₁ : ∀ k flow, m'.1.getFlow k = some flow → m.1.getFlow k = some flow)
    (hSub₂ : ∀ k flow, m'.2.getFlow k = some flow → m.2.getFlow k = some flow) : Aligned m' where
  capped := h₁
  other := h₂
  aligned := fun k flow hg flow' hg' =>
    h.aligned k flow (hSub₂ k flow hg) flow' (hSub₁ k flow' hg')

/-- What an observed flow of the capped manager has in common with that of the other one. -/
theorem observedFlow_aligned (h : Aligned m) {o : Observation} (hDirection : o.direction ≠ .unknown)
    (hSame : SameInitiator c m (.observe o.packet o.direction o.time)) {flow flow' : Flow F}
    (hg : observedFlow (recapped c maxFlows flowBuckets) m.2 o = some flow)
    (hg' : observedFlow c m.1 o = some flow') : SameOpener flow flow' := by
  unfold observedFlow at hg hg'
  cases hOther : m.2.getFlow o.packet.tuple with
  | some old =>
    rw [hOther] at hg
    cases hg
    cases hCapped : m.1.getFlow o.packet.tuple with
    | some old' =>
      rw [hCapped] at hg'
      cases hg'
      exact h.aligned _ old hOther old' hCapped
    | none =>
      rw [hCapped] at hg'
      dsimp only at hg'
      split_ifs at hg' with hRoom
      cases hg'
      exact (hSame hDirection).1 hCapped hRoom old hOther
  | none =>
    rw [hOther] at hg
    dsimp only at hg
    split_ifs at hg
    cases hg
    cases hCapped : m.1.getFlow o.packet.tuple with
    | some old' =>
      rw [hCapped] at hg'
      cases hg'
      exact (hSame hDirection).2 hOther old' hCapped
    | none =>
      rw [hCapped] at hg'
      dsimp only at hg'
      split_ifs at hg'
      cases hg'
      exact fun hOrigin => ⟨rfl, hOrigin⟩

/-- Every call at which the initiators are the same keeps the alignment. -/
theorem Aligned.callBoth (h : Aligned m) {e : FlowCall} (hSame : SameInitiator c m e) :
    Aligned (callBoth c maxFlows flowBuckets m e).1 := by
  have h₁ : (m.1.call c e).1.Ok := ok_call h.capped e
  have h₂ : (m.2.call (recapped c maxFlows flowBuckets) e).1.Ok := ok_call h.other e
  cases e with
  | observe packet direction now =>
    by_cases hDirection : direction = .unknown
    · have hStill : (FlowManager.callBoth c maxFlows flowBuckets m
          (.observe packet direction now)).1 = m := by
        simp [FlowManager.callBoth, FlowManager.call, observePacket, hDirection]
      rw [hStill]
      exact h
    · refine ⟨h₁, h₂, ?_⟩
      intro k flow hg flow' hg'
      change (m.2.observePacket _ packet direction now).1.getFlow k = some flow at hg
      change (m.1.observePacket _ packet direction now).1.getFlow k = some flow' at hg'
      rw [getFlow_observePacket h.other hDirection] at hg
      rw [getFlow_observePacket h.capped hDirection] at hg'
      split_ifs at hg hg' with hConversation
      · exact observedFlow_aligned h (o := ⟨packet, direction, now⟩) hDirection hSame hg hg'
      · exact h.aligned k flow hg flow' hg'
  | extract key =>
    have hSub : ∀ m' : FlowManager F, m'.Ok → ∀ k flow,
        (m'.extractCompleted key).1.getFlow k = some flow → m'.getFlow k = some flow := by
      intro m' hOk k flow hg
      rw [getFlow_extractCompleted hOk] at hg
      split_ifs at hg
      exact hg
    exact h.remove h₁ h₂ (hSub m.1 h.capped) (hSub m.2 h.other)
  | discard srcIp =>
    have hSub : ∀ m' : FlowManager F, m'.Ok → ∀ k flow,
        (m'.discardSourceFlows srcIp).getFlow k = some flow → m'.getFlow k = some flow := by
      intro m' hOk k flow hg
      rw [getFlow_discardSourceFlows hOk, Option.filter_eq_some_iff] at hg
      exact hg.1
    exact h.remove h₁ h₂ (hSub m.1 h.capped) (hSub m.2 h.other)
  | cleanup now =>
    have hSub : ∀ (c' : FlowParams) (m' : FlowManager F), m'.Ok → ∀ k flow,
        (m'.cleanupExpired c' now).1.getFlow k = some flow → m'.getFlow k = some flow := by
      intro c' m' hOk k flow hg
      rcases getFlow_cleanupExpired hOk c' now k with hEq | ⟨hNone, -⟩
      · rwa [hEq] at hg
      · rw [hNone] at hg
        cases hg
    exact h.remove h₁ h₂ (hSub _ m.1 h.capped) (hSub _ m.2 h.other)

omit [DoubleOps F] in
theorem aligned_empty : Aligned ((.empty, .empty) : FlowManager F × FlowManager F) where
  capped := ok_empty
  other := ok_empty
  aligned := by
    intro k flow hg
    cases hg

/-! ## Counting -/

/-- A packet that the other manager counts, the capped one counts. -/
theorem counts_of_aligned (h : Aligned m) {e : FlowCall} (hSame : SameInitiator c m e)
    (hRoom : RoomForSource c m.1 e)
    (hOther : (callBoth c maxFlows flowBuckets m e).2.2.counts = true) :
    (callBoth c maxFlows flowBuckets m e).2.1.counts = true := by
  cases e with
  | observe packet direction now =>
    change (m.2.observePacket (recapped c maxFlows flowBuckets) packet direction now).2.isSome = true
      at hOther
    change (m.1.observePacket c packet direction now).2.isSome = true
    have hCountedOther : ∃ o, countedPacket? (recapped c maxFlows flowBuckets) m.2
        (.observe packet direction now) = some o := by
      rw [← Option.isSome_iff_exists, ← Option.ne_none_iff_isSome]
      intro hNone
      rw [(observePacket_notCounted hNone).2] at hOther
      cases hOther
    obtain ⟨o, ho⟩ := hCountedOther
    obtain ⟨hDirection, hCounted, -⟩ := countedPacket?_observe ho
    obtain ⟨hIn, hFlow⟩ := (counted_updateFlow h.other).mp hCounted
    have hFlow' : ∀ flow, m.1.getFlow packet.tuple = some flow →
        flow.key = packet.tuple ∧ flow.origin = .remoteInitiated := by
      intro flow' hg'
      cases hg : m.2.getFlow packet.tuple with
      | some flow =>
        obtain ⟨hKey, hOrigin⟩ := hFlow flow hg
        obtain ⟨hKey', hOrigin'⟩ := h.aligned _ flow hg flow' hg' hOrigin
        exact ⟨hKey'.trans hKey, hOrigin'⟩
      | none =>
        refine (hSame hDirection).2 hg flow' hg' ?_
        exact if_neg (by simp [hIn])
    have hCounted' : counted direction (m.1.updateFlow c packet direction now).2 = true :=
      (counted_updateFlow h.capped).mpr ⟨hIn, hFlow'⟩
    have hSome : countedPacket? c m.1 (.observe packet direction now) =
        some ⟨packet, direction, now⟩ := by
      unfold countedPacket?
      dsimp only
      rw [if_pos ⟨hDirection, hCounted'⟩]
    rw [(observePacket_counted hSome hRoom).2]
    rfl
  | _ => cases hOther

/-- **Counting at the cap.** In every run in which the sources find room in the capped manager
and at every call the initiators are the same, every packet that the other manager counts is
counted by the capped one. -/
theorem cap_keepsCounting (c : FlowParams) (maxFlows : Nat) (flowBuckets : Buckets FiveTuple)
    (calls : List FlowCall)
    (hRoom : Machine.Along (callBoth (F := F) c maxFlows flowBuckets)
      (fun m e => RoomForSource c m.1 e) (.empty, .empty) calls)
    (hSame : Machine.Along (callBoth (F := F) c maxFlows flowBuckets) (SameInitiator c)
      (.empty, .empty) calls) :
    ∀ taken ∈ Machine.trace (callBoth (F := F) c maxFlows flowBuckets) (.empty, .empty) calls,
      taken.output.2.counts = true → taken.output.1.counts = true := by
  intro taken hTaken hCounts
  obtain ⟨before, e, after, rfl, rfl⟩ := Machine.mem_trace_iff.mp hTaken
  obtain ⟨hBefore, hSameStep, -⟩ := (Machine.along_append _ _ _).mp hSame
  obtain ⟨-, hRoomStep, -⟩ := (Machine.along_append _ _ _).mp hRoom
  have hAligned := Machine.exec_invariant Aligned (fun _ _ h hP => h.callBoth hP) aligned_empty
    hBefore
  exact counts_of_aligned hAligned hSameStep hRoomStep hCounts

/-! ## A lost packet -/

/-- An inbound SYN from 10.0.0.9 to 10.0.0.1, from a port. -/
def scanPacket (srcPort : UInt16) : ParsedPacket where
  tuple := ⟨0x0900000a, 0x0100000a, srcPort, 80, 6⟩
  totalLen := 40
  payloadLen := 0
  hasPorts := true
  tcpFlags := thSyn

/-- The packet in the other direction. -/
def ParsedPacket.reply (packet : ParsedPacket) : ParsedPacket :=
  { packet with tuple := packet.tuple.reversed }

/-- A manager with room for one flow. -/
def oneFlow : FlowParams where
  windowSeconds := 10
  maxFlows := 1
  maxSources := maxSourcesDefault
  flowBuckets := .single _
  sourceBuckets := .single _

/-- The conversation from port 2 is refused while another one fills the table, and is stored
when the local host replies. -/
def refusedCalls : List FlowCall :=
  [.observe { scanPacket 1 with tuple := ⟨0x0800000a, 0x0100000a, 1, 80, 6⟩ } .inbound 0,
    .observe (scanPacket 2) .inbound 1,
    .discard 0x0800000a,
    .observe (ParsedPacket.reply (scanPacket 2)) .outbound 2,
    .observe (scanPacket 2) .inbound 3]

/-- A run in which a packet is counted by the manager with room for more flows and not by the
other one, although no source table and not the larger flow table is ever full. -/
theorem cap_stopsCounting :
    Machine.Chronological FlowCall.reads 0 refusedCalls ∧
      (∀ e ∈ refusedCalls, e.Observable) ∧
      Machine.Along (callBoth (F := Float) oneFlow 100 (.single _)) (WithinCaps oneFlow 100)
        (.empty, .empty) refusedCalls ∧
      ∃ taken ∈ Machine.trace (callBoth (F := Float) oneFlow 100 (.single _)) (.empty, .empty)
        refusedCalls, taken.output.2.counts = true ∧ taken.output.1.counts = false := by
  refine ⟨by decide, by decide, by decide, ?_⟩
  have hLost : (Machine.trace (callBoth (F := Float) oneFlow 100 (.single _)) (.empty, .empty)
      refusedCalls).any (fun taken => taken.output.2.counts && !taken.output.1.counts) = true := by
    decide
  obtain ⟨taken, hTaken, hCounts⟩ := List.any_eq_true.mp hLost
  exact ⟨taken, hTaken, by simpa using hCounts⟩

/-- Whether each packet of a run is counted by both managers, or not by the other one. -/
def KeepsCounting (c : FlowParams) (maxFlows : Nat) (flowBuckets : Buckets FiveTuple)
    (calls : List FlowCall) : Prop :=
  ∀ taken ∈ Machine.trace (callBoth (F := Float) c maxFlows flowBuckets) (.empty, .empty) calls,
    taken.output.2.counts = true → taken.output.1.counts = true

/-- A second packet of the source is counted by both. -/
theorem cap_keepsCounting_secondPacket :
    KeepsCounting oneFlow 100 (.single _)
      [.observe (scanPacket 1) .inbound 0, .observe (scanPacket 2) .inbound 1] := by
  refine cap_keepsCounting (F := Float) oneFlow 100 (.single _) _ ?_ ?_
  · exact ⟨fun o _ _ => by decide, fun o _ _ => by decide, trivial⟩
  · refine ⟨fun _ => ⟨?_, ?_⟩, fun _ => ⟨?_, ?_⟩, trivial⟩
    · intro _ _ flow hg
      cases hg
    · intro _ flow hg
      cases hg
    · intro _ _ flow hg
      cases hg
    · intro _ flow hg
      cases hg

end InlineIps.FlowManager
