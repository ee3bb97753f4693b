import InlineIps.Flow.Conversation

/-!
# The representation of the flow table

What every caller of the flow manager may rely on after any calls: the cap on the flows,
the keys, the index by source, and that both directions of a conversation find its one flow.

* `extracted`: `extract_completed` takes out the flow of a conversation, from either direction.
* `discarded`: what `discard_source_flows` leaves.
* `represented_exec`: the representation holds after any calls.
-/

namespace InlineIps.FlowManager

open Library

variable {F : Type} {c : FlowParams} {m : FlowManager F}

/-- The table and its index after `discard_source_flows`. -/
structure Discarded (m m' : FlowManager F) (ip : UInt32) : Prop where
  gone : ∀ k ∈ m'.flows, k.srcIp ≠ ip
  unindexed : m'.flowKeysBySource.lookup ip = none
  flows : ∀ k, k.srcIp ≠ ip → m'.flows.lookup k = m.flows.lookup k
  index : ∀ ip', ip' ≠ ip → m'.flowKeysBySource.lookup ip' = m.flowKeysBySource.lookup ip'

/-- The table and its index after the flow stored under `k` was taken out. -/
structure Extracted (m m' : FlowManager F) (k : FiveTuple) : Prop where
  gone : m'.flows.lookup k = none
  flows : ∀ k', k' ≠ k → m'.flows.lookup k' = m.flows.lookup k'
  unindexed : ∀ ip k', (∃ keys, m'.flowKeysBySource.lookup ip = some keys ∧ k' ∈ keys) ↔
    k' ≠ k ∧ ∃ keys, m.flowKeysBySource.lookup ip = some keys ∧ k' ∈ keys
  index : ∀ ip, ip ≠ k.srcIp → m'.flowKeysBySource.lookup ip = m.flowKeysBySource.lookup ip
  sourceStats : m'.sourceStats = m.sourceStats

/-- Neither direction of the tuple is stored. -/
def Unstored (m : FlowManager F) (k : FiveTuple) : Prop := k ∉ m.flows ∧ k.reversed ∉ m.flows

/-- What holds of the flow table between calls. A stored flow is found from both directions, and
taken out from both if it has ended; of any other tuple nothing is found. -/
structure Represented [DoubleOps F] (c : FlowParams) (m : FlowManager F) : Prop where
  capped : m.flows.size ≤ c.maxFlows
  key_eq : ∀ k flow, m.flows.lookup k = some flow → flow.key = k
  one_way : ∀ k k', k ∈ m.flows → k' ∈ m.flows → k ≠ k' → k' ≠ k.reversed
  indexed : ∀ ip k, (∃ keys, m.flowKeysBySource.lookup ip = some keys ∧ k ∈ keys) ↔
    k.srcIp = ip ∧ k ∈ m.flows
  nonempty : ∀ ip, m.flowKeysBySource.lookup ip ≠ some ∅
  getFlow : ∀ k flow, m.flows.lookup k = some flow →
    m.getFlow k = some flow ∧ m.getFlow k.reversed = some flow
  getFlow_unstored : ∀ k, Unstored m k → m.getFlow k = none
  extract_ended : ∀ k flow reason, m.flows.lookup k = some flow → flow.endReason? = some reason →
    ∃ m', m.extractCompleted k = (m', some ⟨flow, reason⟩) ∧
      m.extractCompleted k.reversed = (m', some ⟨flow, reason⟩) ∧ Extracted m m' k
  extract_open : ∀ k flow, m.flows.lookup k = some flow → flow.endReason? = none →
    m.extractCompleted k = (m, none) ∧ m.extractCompleted k.reversed = (m, none)
  extract_unstored : ∀ k, Unstored m k → m.extractCompleted k = (m, none)
  discard : ∀ ip, Discarded m (m.discardSourceFlows ip) ip

theorem mem_indexed_iff (index : Table UInt32 (Finset FiveTuple)) (ip : UInt32) (k : FiveTuple) :
    k ∈ FlowManager.indexed index ip ↔ ∃ keys, index.lookup ip = some keys ∧ k ∈ keys := by
  unfold FlowManager.indexed
  cases index.lookup ip <;> simp

theorem findKey_of_mem {k : FiveTuple} (hk : k ∈ m.flows) : m.findKey k = some k := if_pos hk

/-- A conversation is stored under the same key from either direction. -/
theorem findKey_reversed (h : m.Ok) (k : FiveTuple) : m.findKey k.reversed = m.findKey k := by
  unfold findKey
  rw [FiveTuple.reversed_reversed]
  by_cases hk : k ∈ m.flows
  · by_cases hr : k.reversed ∈ m.flows
    · rw [h.one_way k hk hr]
    · rw [if_neg hr, if_pos hk, if_pos hk]
  · rw [if_neg hk, if_neg hk]

theorem discarded (h : m.Ok) (ip : UInt32) : Discarded m (m.discardSourceFlows ip) ip where
  gone k hk := by
    obtain ⟨flow, hflow⟩ := Option.isSome_iff_exists.mp (AList.lookup_isSome.mpr hk)
    exact ((discardSourceFlows_lookup h).mp hflow).2
  unindexed := by
    unfold discardSourceFlows
    split
    · assumption
    · simp
  flows k hne := by
    apply Option.ext
    intro flow
    rw [discardSourceFlows_lookup h]
    exact and_iff_left hne
  index ip' hne := by
    unfold discardSourceFlows
    split
    · rfl
    · rw [Table.lookup_erase', if_neg hne]

theorem extracted (h : m.Ok) {k : FiveTuple} (hk : k ∈ m.flows) : Extracted m (m.takeFlow k) k where
  gone := by
    show AList.lookup k (m.flows.erase k) = none
    rw [Table.lookup_erase', if_pos rfl]
  flows k' hne := by
    show AList.lookup k' (m.flows.erase k) = m.flows.lookup k'
    rw [Table.lookup_erase', if_neg hne]
  unindexed ip k' := by
    show (∃ keys, (unindexFlow m.flowKeysBySource k).lookup ip = some keys ∧ k' ∈ keys) ↔ _
    rw [← mem_indexed_iff, ← mem_indexed_iff, indexed_unindexFlow]
    split_ifs with hip
    · exact Finset.mem_erase
    · refine (and_iff_right_of_imp fun hmem => ?_).symm
      rintro rfl
      exact hip ((h.mem_indexed ip k').mp hmem).1.symm
  index ip hne := by
    show (unindexFlow m.flowKeysBySource k).lookup ip = m.flowKeysBySource.lookup ip
    unfold unindexFlow
    split
    · rfl
    · split_ifs
      · rw [Table.lookup_erase', if_neg hne]
      · rw [Table.lookup_assign, if_neg hne]
  sourceStats := rfl

section Calls

variable [DoubleOps F]

theorem extractCompleted_reversed (h : m.Ok) (k : FiveTuple) :
    m.extractCompleted k.reversed = m.extractCompleted k := by
  unfold FlowManager.extractCompleted
  rw [findKey_reversed h]

/-- Extraction from the direction under which the flow is stored. -/
theorem extractCompleted_of_lookup {k : FiveTuple} {flow : Flow F}
    (hflow : m.flows.lookup k = some flow) :
    m.extractCompleted k =
      match flow.endReason? with
      | none => (m, none)
      | some reason => (m.takeFlow k, some ⟨flow, reason⟩) := by
  unfold FlowManager.extractCompleted
  rw [findKey_of_mem (Table.mem_of_lookup hflow)]
  dsimp only
  rw [hflow]
  rfl

theorem extractCompleted_unstored {k : FiveTuple} (hk : Unstored m k) :
    m.extractCompleted k = (m, none) := by
  unfold FlowManager.extractCompleted
  rw [findKey_eq_none.mpr hk]

theorem represented (h : m.Ok) (hcapped : m.flows.size ≤ c.maxFlows) : Represented c m where
  capped := hcapped
  key_eq := h.key_eq
  one_way k k' hk hk' hne hreversed := by
    subst hreversed
    exact hne (h.one_way k hk hk').symm
  indexed ip k := by rw [← mem_indexed_iff, h.mem_indexed]
  nonempty := h.nonempty
  getFlow k flow hflow := ⟨getFlow_of_lookup h hflow (.refl k), getFlow_of_lookup h hflow (.inr rfl)⟩
  getFlow_unstored k hk := by
    unfold FlowManager.getFlow
    rw [AList.lookup_eq_none.mpr hk.1, AList.lookup_eq_none.mpr hk.2]
    rfl
  extract_ended k flow reason hflow hreason := by
    have hextract : m.extractCompleted k = (m.takeFlow k, some ⟨flow, reason⟩) := by
      rw [extractCompleted_of_lookup hflow, hreason]
    exact ⟨m.takeFlow k, hextract, (extractCompleted_reversed h k).trans hextract,
      extracted h (Table.mem_of_lookup hflow)⟩
  extract_open k flow hflow hopen := by
    have hextract : m.extractCompleted k = (m, none) := by
      rw [extractCompleted_of_lookup hflow, hopen]
    exact ⟨hextract, (extractCompleted_reversed h k).trans hextract⟩
  extract_unstored k hk := extractCompleted_unstored hk
  discard := discarded h

/-- A call leaves the number of flows within the cap. -/
theorem size_call_le_cap (hcapped : m.flows.size ≤ c.maxFlows) (e : FlowCall) :
    (m.call c e).1.flows.size ≤ c.maxFlows := by
  cases e with
  | observe packet direction now =>
    by_cases hd : direction = .unknown
    · simpa [call, observePacket, hd] using hcapped
    · have hflows := (observePacket_flows c m packet hd now).1
      change (m.observePacket c packet direction now).1.flows.size ≤ _
      rw [hflows]
      rcases updateFlow_cases c m packet direction now with
        ⟨flow, hf, hu⟩ | ⟨flow, -, hr, hu⟩ | ⟨-, -, hroom, hu⟩ | ⟨-, -, -, hu⟩ <;> rw [hu]
      · exact (Table.size_assign_of_mem (Table.mem_of_lookup hf) _).trans_le hcapped
      · exact (Table.size_assign_of_mem (Table.mem_of_lookup hr) _).trans_le hcapped
      · exact (Table.size_assign_le _ _ _).trans hroom
      · exact hcapped
  | extract key =>
    change (m.extractCompleted key).1.flows.size ≤ _
    rcases extractCompleted_cases m key with ⟨k, flow, reason, -, -, -, he⟩ | ⟨-, he⟩ <;> rw [he]
    · exact (Table.size_erase_le _ _).trans hcapped
    · exact hcapped
  | discard ip =>
    change (m.discardSourceFlows ip).flows.size ≤ _
    unfold discardSourceFlows
    split
    · exact hcapped
    · exact (Table.size_filter_le _ _).trans hcapped
  | cleanup now => exact BucketSweep.size_sweep_le.trans hcapped

/-- **The representation holds after any calls.** -/
theorem represented_exec (c : FlowParams) (calls : List FlowCall) :
    Represented (F := F) c (Machine.exec (call c) .empty calls) := by
  have hkept := Machine.exec_invariant (fun m : FlowManager F => m.Ok ∧ m.flows.size ≤ c.maxFlows)
    (fun m e hm _ => ⟨ok_call hm.1 e, size_call_le_cap hm.2 e⟩) ⟨ok_empty, Nat.zero_le _⟩
    (Machine.along_true _ calls)
  exact represented hkept.1 hkept.2

end Calls

end InlineIps.FlowManager
