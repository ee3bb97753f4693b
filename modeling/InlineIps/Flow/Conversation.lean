import InlineIps.Flow.SourceWindow

/-!
# Conversations

`get_flow` finds the flow of a conversation from either direction. What every operation
does to a flow table is said in these terms: a map from conversations to flows.

* `getFlow_observePacket`, `getFlow_extractCompleted`, `getFlow_discardSourceFlows`,
  `getFlow_cleanupExpired`: the operations on that map.
* `countedPacket?_eq`: whether a packet is counted depends on the flow of its conversation.
-/

namespace InlineIps

open Library

/-- The tuples of one conversation. -/
def SameConversation (t u : FiveTuple) : Prop := u = t ∨ u = t.reversed

instance (t u : FiveTuple) : Decidable (SameConversation t u) :=
  inferInstanceAs (Decidable (_ ∨ _))

theorem SameConversation.refl (t : FiveTuple) : SameConversation t t := Or.inl rfl

theorem SameConversation.symm {t u : FiveTuple} (h : SameConversation t u) :
    SameConversation u t := by
  rcases h with rfl | rfl
  · exact Or.inl rfl
  · exact Or.inr rfl

theorem SameConversation.reversed {t u : FiveTuple} (h : SameConversation t u) :
    SameConversation t u.reversed := by
  rcases h with rfl | rfl
  · exact Or.inr rfl
  · exact Or.inl rfl

theorem SameConversation.trans {t u v : FiveTuple} (h : SameConversation t u)
    (h' : SameConversation u v) : SameConversation t v := by
  rcases h' with rfl | rfl
  · exact h
  · exact h.reversed

namespace FlowManager

/-! ## The table seen from both directions -/

section Table

variable {V : Type} {t : Table FiveTuple V} {k k' : FiveTuple} {v : V}

/-- The entry of a conversation. -/
def conversation (t : Table FiveTuple V) (k : FiveTuple) : Option V :=
  (t.lookup k).or (t.lookup k.reversed)

/-- The key is not stored in its other direction. -/
def OneWay (t : Table FiveTuple V) (k : FiveTuple) : Prop := k.reversed ∈ t → k.reversed = k

theorem conversation_assign (hOne : OneWay t k) :
    conversation (t.assign k v) k' = if SameConversation k k' then some v else conversation t k' := by
  unfold conversation
  rw [Table.lookup_assign, Table.lookup_assign]
  by_cases hSame : k' = k
  · have hPos : SameConversation k k' := Or.inl hSame
    rw [if_pos hSame, if_pos hPos]
    rfl
  · by_cases hRev : k' = k.reversed
    · subst hRev
      have hPos : SameConversation k k.reversed := Or.inr rfl
      rw [if_neg hSame, if_pos hPos, FiveTuple.reversed_reversed, if_pos rfl]
      have hNone : t.lookup k.reversed = none :=
        AList.lookup_eq_none.mpr fun hMem => hSame (hOne hMem)
      rw [hNone]
      rfl
    · have hNe : ¬ k'.reversed = k := fun h => hRev (FiveTuple.reversed_eq_iff.mp h)
      have hNot : ¬ SameConversation k k' := fun h => h.elim hSame hRev
      rw [if_neg hSame, if_neg hNe, if_neg hNot]

theorem conversation_erase (hOne : OneWay t k) :
    conversation (AList.erase k t) k' =
      if SameConversation k k' then none else conversation t k' := by
  unfold conversation
  rw [Table.lookup_erase', Table.lookup_erase']
  by_cases hSame : k' = k
  · subst hSame
    rw [if_pos rfl, if_pos (SameConversation.refl _)]
    split_ifs with hSelf
    · rfl
    · rw [AList.lookup_eq_none.mpr fun hMem => hSelf (hOne hMem)]
      rfl
  · by_cases hRev : k' = k.reversed
    · subst hRev
      have hPos : SameConversation k k.reversed := Or.inr rfl
      rw [if_neg hSame, if_pos hPos, FiveTuple.reversed_reversed, if_pos rfl]
      rw [AList.lookup_eq_none.mpr fun hMem => hSame (hOne hMem)]
      rfl
    · have hNe : ¬ k'.reversed = k := fun h => hRev (FiveTuple.reversed_eq_iff.mp h)
      have hNot : ¬ SameConversation k k' := fun h => h.elim hSame hRev
      rw [if_neg hSame, if_neg hNe, if_neg hNot]

theorem conversation_eq_some (h : conversation t k = some v) :
    ∃ k', SameConversation k k' ∧ t.lookup k' = some v := by
  unfold conversation at h
  cases hl : t.lookup k with
  | some w =>
    rw [hl] at h
    cases h
    exact ⟨k, .refl k, hl⟩
  | none =>
    rw [hl] at h
    exact ⟨k.reversed, Or.inr rfl, h⟩

theorem conversation_of_lookup (hOne : OneWay t k) (h : t.lookup k = some v)
    (hSame : SameConversation k k') : conversation t k' = some v := by
  unfold conversation
  rcases hSame with rfl | rfl
  · rw [h]
    rfl
  · rw [FiveTuple.reversed_reversed, h]
    cases hr : t.lookup k.reversed with
    | none => rfl
    | some w =>
      rw [hOne (Table.mem_of_lookup hr), h] at hr
      cases hr
      rfl

end Table

variable {F : Type} {m : FlowManager F} {k k' : FiveTuple} {flow : Flow F}

theorem getFlow_eq (m : FlowManager F) (k : FiveTuple) : m.getFlow k = conversation m.flows k := rfl

theorem Ok.oneWay (h : m.Ok) (hk : k ∈ m.flows) : OneWay m.flows k :=
  TableOk.one_way h k hk

/-- The flow of a conversation is stored under its own key, which is in the conversation. -/
theorem lookup_of_getFlow (h : m.Ok) (hg : m.getFlow k = some flow) :
    SameConversation k flow.key ∧ m.flows.lookup flow.key = some flow := by
  obtain ⟨k', hSame, hl⟩ := conversation_eq_some hg
  rw [TableOk.key_eq h k' flow hl]
  exact ⟨hSame, hl⟩

theorem getFlow_of_lookup (h : m.Ok) (hl : m.flows.lookup k = some flow)
    (hSame : SameConversation k k') : m.getFlow k' = some flow :=
  conversation_of_lookup (h.oneWay (Table.mem_of_lookup hl)) hl hSame

theorem getFlow_congr (h : m.Ok) (hSame : SameConversation k k') :
    m.getFlow k' = m.getFlow k := by
  cases hg : m.getFlow k with
  | some flow =>
    obtain ⟨hKey, hl⟩ := lookup_of_getFlow h hg
    exact getFlow_of_lookup h hl (hKey.symm.trans hSame)
  | none =>
    cases hg' : m.getFlow k' with
    | none => rfl
    | some flow =>
      obtain ⟨hKey, hl⟩ := lookup_of_getFlow h hg'
      rw [getFlow_of_lookup h hl (hKey.symm.trans hSame.symm)] at hg
      cases hg

/-! ## The operations -/

/-- Discarding removes the conversations that the source opened. -/
theorem getFlow_discardSourceFlows (h : m.Ok) (srcIp : UInt32) :
    (m.discardSourceFlows srcIp).getFlow k =
      (m.getFlow k).filter fun flow => flow.key.srcIp ≠ srcIp := by
  apply Option.ext
  intro flow
  rw [Option.filter_eq_some_iff]
  have hOk := ok_discardSourceFlows h srcIp
  constructor
  · intro hg
    obtain ⟨hKey, hl⟩ := lookup_of_getFlow hOk hg
    obtain ⟨hOld, hNe⟩ := (discardSourceFlows_lookup h).mp hl
    exact ⟨getFlow_of_lookup h hOld hKey.symm, by simpa using hNe⟩
  · rintro ⟨hg, hNe⟩
    obtain ⟨hKey, hl⟩ := lookup_of_getFlow h hg
    exact getFlow_of_lookup hOk
      ((discardSourceFlows_lookup h).mpr ⟨hl, by simpa using hNe⟩) hKey.symm

/-- A cleanup keeps a conversation or removes it when its time is over. -/
theorem getFlow_cleanupExpired (h : m.Ok) (c : FlowParams) (now : TimePoint) (k : FiveTuple) :
    (m.cleanupExpired c now).1.getFlow k = m.getFlow k ∨
      (m.cleanupExpired c now).1.getFlow k = none ∧
        ∃ flow, m.getFlow k = some flow ∧ flowExpired now flow = true := by
  have hOk : (m.cleanupExpired c now).1.Ok := ok_cleanupExpired h
  cases hg : (m.cleanupExpired c now).1.getFlow k with
  | some flow =>
    obtain ⟨hKey, hl⟩ := lookup_of_getFlow hOk hg
    exact Or.inl (getFlow_of_lookup h (cleanupExpired_lookup hl) hKey.symm).symm
  | none =>
    cases hOld : m.getFlow k with
    | none => exact Or.inl rfl
    | some flow =>
      refine Or.inr ⟨rfl, flow, rfl, ?_⟩
      obtain ⟨hKey, hl⟩ := lookup_of_getFlow h hOld
      by_contra hNot
      have hStays : (m.cleanupExpired c now).1.flows.lookup flow.key = some flow :=
        BucketSweep.lookup_sweep_of_not hl (by simpa using hNot)
      rw [getFlow_of_lookup hOk hStays hKey.symm] at hg
      cases hg

section Observe

variable [DoubleOps F] {c : FlowParams} {packet : ParsedPacket} {direction : PacketDirection}
  {now : TimePoint}

/-- The flow of a packet's conversation after the packet, if there was room. -/
def observedFlow (c : FlowParams) (m : FlowManager F) (o : Observation) : Option (Flow F) :=
  match m.getFlow o.packet.tuple with
  | some flow => some (flow.observe o)
  | none => if m.flows.size < c.maxFlows then some (Flow.begin o) else none

/-- Observing a packet changes the flow of its conversation only. -/
theorem getFlow_observePacket (h : m.Ok) (hDirection : direction ≠ .unknown) (k : FiveTuple) :
    (m.observePacket c packet direction now).1.getFlow k =
      if SameConversation packet.tuple k then observedFlow c m ⟨packet, direction, now⟩
      else m.getFlow k := by
  rw [getFlow_eq, (observePacket_flows c m packet hDirection now).1, observedFlow]
  rcases updateFlow_cases c m packet direction now with
    ⟨old, hf, hu⟩ | ⟨old, hn, hr, hu⟩ | ⟨hn, hr, hRoom, hu⟩ | ⟨hn, hr, hFull, hu⟩ <;> rw [hu]
  · have hKey : old.key = packet.tuple := TableOk.key_eq h _ old hf
    have hg : m.getFlow packet.tuple = some old := getFlow_of_lookup h hf (.refl _)
    simp only [storeFlow, conversation_assign (h.oneWay (Table.mem_of_lookup hf)), hg]
    simp only [Flow.observe, hKey, decide_true]
    rfl
  · have hKey : old.key = packet.tuple.reversed := TableOk.key_eq h _ old hr
    have hNe : packet.tuple ≠ packet.tuple.reversed := by
      intro hEq
      rw [← hEq, hn] at hr
      cases hr
    have hg : m.getFlow packet.tuple = some old :=
      getFlow_of_lookup h hr (Or.inr (by simp))
    have hSame : SameConversation packet.tuple.reversed k ↔ SameConversation packet.tuple k :=
      ⟨fun hs => SameConversation.trans (Or.inr rfl) hs,
        fun hs => SameConversation.trans (Or.inr (by simp)) hs⟩
    simp only [storeFlow, conversation_assign (h.oneWay (Table.mem_of_lookup hr)), hg, hSame]
    simp only [Flow.observe, hKey, hNe, decide_false]
    rfl
  · have hg : m.getFlow packet.tuple = none := by
      rw [getFlow_eq, conversation, hn, hr]
      rfl
    have hOne : OneWay m.flows packet.tuple := fun hMem =>
      absurd hMem (AList.lookup_eq_none.mp hr)
    simp only [openFlow, conversation_assign hOne, hg, if_pos hRoom]
    rfl
  · have hg : m.getFlow packet.tuple = none := by
      rw [getFlow_eq, conversation, hn, hr]
      rfl
    simp only [hg, if_neg (Nat.not_lt.mpr hFull)]
    split_ifs with hSame
    · rw [← getFlow_eq, getFlow_congr h hSame, hg]
    · rfl

/-- Whether a packet is counted: it is inbound, and the flow of its conversation, if there is
one, was opened by a remote host with the tuple of the packet. -/
theorem counted_updateFlow (h : m.Ok) :
    counted direction (m.updateFlow c packet direction now).2 = true ↔
      direction = .inbound ∧ ∀ flow, m.getFlow packet.tuple = some flow →
        flow.key = packet.tuple ∧ flow.origin = .remoteInitiated := by
  rcases updateFlow_cases c m packet direction now with
    ⟨old, hf, hu⟩ | ⟨old, hn, hr, hu⟩ | ⟨hn, hr, hRoom, hu⟩ | ⟨hn, hr, hFull, hu⟩ <;> rw [hu]
  · have hKey : old.key = packet.tuple := TableOk.key_eq h _ old hf
    have hg : m.getFlow packet.tuple = some old := getFlow_of_lookup h hf (.refl _)
    simp only [counted, hg, hKey, Bool.and_true, Bool.and_eq_true, decide_eq_true_eq,
      Option.some.injEq, forall_eq', true_and]
    rfl
  · have hKey : old.key = packet.tuple.reversed := TableOk.key_eq h _ old hr
    have hNe : packet.tuple.reversed ≠ packet.tuple := by
      intro hEq
      rw [hEq, hn] at hr
      cases hr
    have hg : m.getFlow packet.tuple = some old :=
      getFlow_of_lookup h hr (Or.inr (by simp))
    simp [counted, hg, hKey, hNe]
  · have hg : m.getFlow packet.tuple = none := by
      rw [getFlow_eq, conversation, hn, hr]
      rfl
    simp only [counted, hg]
    cases direction <;> simp
  · have hg : m.getFlow packet.tuple = none := by
      rw [getFlow_eq, conversation, hn, hr]
      rfl
    simp [counted, hg]

/-- An ended flow is taken out, and nothing else changes. -/
theorem getFlow_extractCompleted (h : m.Ok) (key k : FiveTuple) :
    (m.extractCompleted key).1.getFlow k =
      if SameConversation key k ∧ ((m.getFlow key).bind Flow.endReason?).isSome = true then none
      else m.getFlow k := by
  have hFound : ∀ k', m.findKey key = some k' → SameConversation key k' := by
    intro k' hk'
    rcases (findKey_eq_some hk').1 with rfl | ⟨rfl, -⟩
    · exact .refl _
    · exact Or.inr rfl
  rcases extractCompleted_cases m key with ⟨k', flow, reason, hk', hl, hEnd, he⟩ | ⟨hNone, he⟩ <;>
    rw [he]
  · have hSame := hFound k' hk'
    have hg : m.getFlow key = some flow := getFlow_of_lookup h hl hSame.symm
    rw [getFlow_eq, takeFlow, conversation_erase (h.oneWay (Table.mem_of_lookup hl))]
    have hIff : SameConversation k' k ↔ SameConversation key k :=
      ⟨fun hs => hSame.trans hs, fun hs => hSame.symm.trans hs⟩
    simp [hg, hEnd, hIff, getFlow_eq]
  · rw [if_neg]
    rintro ⟨-, hSome⟩
    cases hg : m.getFlow key with
    | none => simp [hg] at hSome
    | some flow =>
      obtain ⟨hKey, hl⟩ := lookup_of_getFlow h hg
      have hMem := Table.mem_of_lookup hl
      cases hk' : m.findKey key with
      | none =>
        obtain ⟨h₁, h₂⟩ := findKey_eq_none.mp hk'
        rcases hKey with hKey | hKey <;> rw [hKey] at hMem <;> contradiction
      | some k' =>
        obtain ⟨old, hOld⟩ := Option.isSome_iff_exists.mp
          (AList.lookup_isSome.mpr (findKey_eq_some hk').2)
        have hg' := getFlow_of_lookup h hOld (hFound k' hk').symm
        rw [hg] at hg'
        cases hg'
        simp [hg, hNone k' flow hk' hOld] at hSome

end Observe

end FlowManager

end InlineIps
