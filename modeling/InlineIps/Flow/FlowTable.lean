import InlineIps.Flow.FlowManager

/-!
# The flow table and its index by source

What every call does to the flow table, and the representation invariant of the table:

* `updateFlow_cases`, `extractCompleted_cases`: what one call does, with its guards;
* `TableOk`: every flow is stored under its own key, no two stored keys are each other's
  reverse, and the index holds exactly the stored keys of each source;
* `tableOk_call`, `tableOk_exec`: every call keeps it, so every run does.
-/

namespace InlineIps.FlowManager

open Library

variable {F : Type} {c : FlowParams} {m : FlowManager F} {packet : ParsedPacket}
  {direction : PacketDirection} {now : TimePoint}

/-! ## What a call does -/

/-- The manager after the packet was recorded in the flow stored at `k`. -/
def storeFlow (m : FlowManager F) (k : FiveTuple) (flow : Flow F) : FlowManager F :=
  { m with flows := m.flows.assign k flow }

/-- The manager after the flow at `k` was taken out. -/
def takeFlow (m : FlowManager F) (k : FiveTuple) : FlowManager F :=
  { m with
    flows := m.flows.erase k
    flowKeysBySource := unindexFlow m.flowKeysBySource k }

theorem findKey_eq_some {m : FlowManager F} {key k : FiveTuple} (h : m.findKey key = some k) :
    (k = key ∨ k = key.reversed ∧ key ∉ m.flows) ∧ k ∈ m.flows := by
  unfold findKey at h
  split at h
  · cases h
    exact ⟨Or.inl rfl, ‹_›⟩
  · split at h
    · cases h
      exact ⟨Or.inr ⟨rfl, ‹_›⟩, ‹_›⟩
    · cases h

theorem findKey_eq_none {m : FlowManager F} {key : FiveTuple} :
    m.findKey key = none ↔ key ∉ m.flows ∧ key.reversed ∉ m.flows := by
  unfold findKey
  split_ifs <;> simp_all

theorem updateSourceStats_flows (c : FlowParams) (m : FlowManager F) (packet : ParsedPacket)
    (now : TimePoint) :
    (m.updateSourceStats c packet now).1.flows = m.flows ∧
      (m.updateSourceStats c packet now).1.flowKeysBySource = m.flowKeysBySource := by
  unfold updateSourceStats
  dsimp only
  split <;> exact ⟨rfl, rfl⟩

theorem discardSourceFlows_cursors (m : FlowManager F) (srcIp : UInt32) :
    (m.discardSourceFlows srcIp).flowCursor = m.flowCursor ∧
      (m.discardSourceFlows srcIp).sourceCursor = m.sourceCursor := by
  unfold discardSourceFlows
  split <;> exact ⟨rfl, rfl⟩

theorem updateSourceStats_cursors (c : FlowParams) (m : FlowManager F) (packet : ParsedPacket)
    (now : TimePoint) :
    (m.updateSourceStats c packet now).1.flowCursor = m.flowCursor ∧
      (m.updateSourceStats c packet now).1.sourceCursor = m.sourceCursor := by
  unfold updateSourceStats
  dsimp only
  split <;> exact ⟨rfl, rfl⟩

section Calls

variable [DoubleOps F]

/-- The manager after a flow was opened for the packet. -/
def openFlow (m : FlowManager F) (packet : ParsedPacket) (direction : PacketDirection)
    (now : TimePoint) : FlowManager F :=
  { m with
    flows := m.flows.assign packet.tuple ((Flow.opened packet direction now).record true packet now)
    flowKeysBySource := m.flowKeysBySource.assign packet.tuple.srcIp
      (insert packet.tuple ((m.flowKeysBySource.lookup packet.tuple.srcIp).getD ∅)) }

/-- A packet is recorded in the flow of its tuple, in the flow of the reversed tuple, in a
new flow, or nowhere when the table is full. -/
theorem updateFlow_cases (c : FlowParams) (m : FlowManager F) (packet : ParsedPacket)
    (direction : PacketDirection) (now : TimePoint) :
    (∃ flow, m.flows.lookup packet.tuple = some flow ∧
      m.updateFlow c packet direction now =
        (m.storeFlow packet.tuple (flow.record true packet now),
          some ⟨flow.record true packet now, true⟩)) ∨
    (∃ flow, m.flows.lookup packet.tuple = none ∧
      m.flows.lookup packet.tuple.reversed = some flow ∧
      m.updateFlow c packet direction now =
        (m.storeFlow packet.tuple.reversed (flow.record false packet now),
          some ⟨flow.record false packet now, false⟩)) ∨
    (m.flows.lookup packet.tuple = none ∧ m.flows.lookup packet.tuple.reversed = none ∧
      m.flows.size < c.maxFlows ∧
      m.updateFlow c packet direction now =
        (m.openFlow packet direction now,
          some ⟨(Flow.opened packet direction now).record true packet now, true⟩)) ∨
    (m.flows.lookup packet.tuple = none ∧ m.flows.lookup packet.tuple.reversed = none ∧
      c.maxFlows ≤ m.flows.size ∧ m.updateFlow c packet direction now = (m, none)) := by
  unfold updateFlow
  cases hf : m.flows.lookup packet.tuple with
  | some flow => exact Or.inl ⟨flow, rfl, rfl⟩
  | none =>
    cases hr : m.flows.lookup packet.tuple.reversed with
    | some flow => exact Or.inr (Or.inl ⟨flow, rfl, rfl, rfl⟩)
    | none =>
      refine Or.inr (Or.inr ?_)
      by_cases hroom : m.flows.size < c.maxFlows
      · exact Or.inl ⟨rfl, rfl, hroom, by simp only [if_pos hroom]; rfl⟩
      · exact Or.inr ⟨rfl, rfl, Nat.le_of_not_lt hroom, by simp only [if_neg hroom]⟩

/-- Observing a packet changes the flow table as `update_flow` does. -/
theorem observePacket_flows (c : FlowParams) (m : FlowManager F) (packet : ParsedPacket)
    {direction : PacketDirection} (hd : direction ≠ .unknown) (now : TimePoint) :
    (m.observePacket c packet direction now).1.flows =
        (m.updateFlow c packet direction now).1.flows ∧
      (m.observePacket c packet direction now).1.flowKeysBySource =
        (m.updateFlow c packet direction now).1.flowKeysBySource := by
  unfold observePacket
  rw [if_neg hd]
  dsimp only
  split
  · exact updateSourceStats_flows c _ packet now
  · exact ⟨rfl, rfl⟩

theorem observePacket_cursors (c : FlowParams) (m : FlowManager F) (packet : ParsedPacket)
    (direction : PacketDirection) (now : TimePoint) :
    (m.observePacket c packet direction now).1.flowCursor = m.flowCursor ∧
      (m.observePacket c packet direction now).1.sourceCursor = m.sourceCursor := by
  have hupdate : (m.updateFlow c packet direction now).1.flowCursor = m.flowCursor ∧
      (m.updateFlow c packet direction now).1.sourceCursor = m.sourceCursor := by
    rcases updateFlow_cases c m packet direction now with
      ⟨flow, -, hu⟩ | ⟨flow, -, -, hu⟩ | ⟨-, -, -, hu⟩ | ⟨-, -, -, hu⟩ <;> rw [hu] <;> exact ⟨rfl, rfl⟩
  unfold observePacket
  split
  · exact ⟨rfl, rfl⟩
  · dsimp only
    split
    · obtain ⟨hflow, hsource⟩ := updateSourceStats_cursors c (m.updateFlow c packet direction now).1
        packet now
      exact ⟨hflow.trans hupdate.1, hsource.trans hupdate.2⟩
    · exact hupdate

/-- Extraction takes out the flow found for the key when it has ended, and otherwise
changes nothing. -/
theorem extractCompleted_cases (m : FlowManager F) (key : FiveTuple) :
    (∃ k flow reason, m.findKey key = some k ∧ m.flows.lookup k = some flow ∧
      flow.endReason? = some reason ∧
      m.extractCompleted key = (m.takeFlow k, some ⟨flow, reason⟩)) ∨
    ((∀ k flow, m.findKey key = some k → m.flows.lookup k = some flow →
        flow.endReason? = none) ∧
      m.extractCompleted key = (m, none)) := by
  unfold extractCompleted
  cases hk : m.findKey key with
  | none => exact Or.inr ⟨by simp, rfl⟩
  | some k =>
    cases hf : m.flows.lookup k with
    | none => exact Or.inr ⟨by rintro k' flow' ⟨⟩ hl; simp [hf] at hl, by simp [hf]⟩
    | some flow =>
      cases hr : flow.endReason? with
      | none =>
        refine Or.inr ⟨?_, by simp [hf, hr]⟩
        rintro k' flow' ⟨⟩ hl
        rw [hf] at hl
        cases hl
        exact hr
      | some reason => exact Or.inl ⟨k, flow, reason, rfl, hf, hr, by simp [hf, hr]; rfl⟩

end Calls

/-! ## The index -/

/-- The keys indexed under a source. -/
def indexed (index : Table UInt32 (Finset FiveTuple)) (ip : UInt32) : Finset FiveTuple :=
  (index.lookup ip).getD ∅

theorem indexed_assign (index : Table UInt32 (Finset FiveTuple)) (ip ip' : UInt32)
    (keys : Finset FiveTuple) :
    indexed (index.assign ip keys) ip' = if ip' = ip then keys else indexed index ip' := by
  unfold indexed
  rw [Table.lookup_assign]
  split <;> rfl

theorem indexed_erase (index : Table UInt32 (Finset FiveTuple)) (ip ip' : UInt32) :
    indexed (AList.erase ip index) ip' = if ip' = ip then ∅ else indexed index ip' := by
  unfold indexed
  rw [Table.lookup_erase']
  split <;> rfl

theorem indexed_unindexFlow (index : Table UInt32 (Finset FiveTuple)) (key : FiveTuple)
    (ip : UInt32) :
    indexed (unindexFlow index key) ip =
      if ip = key.srcIp then (indexed index ip).erase key else indexed index ip := by
  unfold unindexFlow
  cases hk : index.lookup key.srcIp with
  | none =>
    split_ifs with hip
    · subst hip
      simp [indexed, hk]
    · rfl
  | some keys =>
    have hkeys : indexed index key.srcIp = keys := by simp [indexed, hk]
    dsimp only
    split_ifs with hempty hip hip
    · subst hip
      rw [indexed_erase, if_pos rfl, hkeys, hempty]
    · rw [indexed_erase, if_neg hip]
    · subst hip
      rw [indexed_assign, if_pos rfl, hkeys]
    · rw [indexed_assign, if_neg hip]

/-! ## The invariant -/

/-- The flow table and its index agree. -/
structure TableOk (flows : Table FiveTuple (Flow F)) (index : Table UInt32 (Finset FiveTuple)) :
    Prop where
  /-- Every flow is stored under its own key. -/
  key_eq : ∀ k flow, flows.lookup k = some flow → flow.key = k
  /-- A conversation is stored in one direction only. -/
  one_way : ∀ k, k ∈ flows → k.reversed ∈ flows → k.reversed = k
  /-- The index of a source holds exactly its stored keys. -/
  mem_indexed : ∀ ip k, k ∈ indexed index ip ↔ k.srcIp = ip ∧ k ∈ flows
  /-- No index entry is empty. -/
  nonempty : ∀ ip, index.lookup ip ≠ some ∅

theorem tableOk_empty : TableOk (F := F) ∅ ∅ where
  key_eq := by simp
  one_way := by simp
  mem_indexed := by simp [indexed]
  nonempty := by simp

theorem TableOk.key_eq_assign {flows : Table FiveTuple (Flow F)}
    {index : Table UInt32 (Finset FiveTuple)} (h : TableOk flows index) {k : FiveTuple}
    {flow : Flow F} (hkey : flow.key = k) :
    ∀ k' flow', (flows.assign k flow).lookup k' = some flow' → flow'.key = k' := by
  intro k' flow' hl
  rw [Table.lookup_assign] at hl
  split at hl
  · cases hl
    subst k'
    exact hkey
  · exact h.key_eq k' flow' hl

/-- Recording a packet in a stored flow. -/
theorem TableOk.assign {flows : Table FiveTuple (Flow F)} {index : Table UInt32 (Finset FiveTuple)}
    (h : TableOk flows index) {k : FiveTuple} {flow : Flow F} (hk : k ∈ flows)
    (hkey : flow.key = k) : TableOk (flows.assign k flow) index where
  key_eq := h.key_eq_assign hkey
  one_way := by
    intro k' h₁ h₂
    have hmem : ∀ x, x ∈ flows.assign k flow → x ∈ flows := fun x hx =>
      (Table.mem_assign.mp hx).elim (fun e => e ▸ hk) id
    exact h.one_way k' (hmem _ h₁) (hmem _ h₂)
  mem_indexed := by
    intro ip k'
    rw [h.mem_indexed, Table.mem_assign]
    constructor
    · rintro ⟨hip, hmem⟩
      exact ⟨hip, Or.inr hmem⟩
    · rintro ⟨hip, rfl | hmem⟩
      · exact ⟨hip, hk⟩
      · exact ⟨hip, hmem⟩
  nonempty := h.nonempty

/-- Opening a flow for a conversation that is not stored. -/
theorem TableOk.open {flows : Table FiveTuple (Flow F)} {index : Table UInt32 (Finset FiveTuple)}
    (h : TableOk flows index) {k : FiveTuple} {flow : Flow F} (hr : k.reversed ∉ flows)
    (hkey : flow.key = k) :
    TableOk (flows.assign k flow) (index.assign k.srcIp (insert k (indexed index k.srcIp))) where
  key_eq := h.key_eq_assign hkey
  one_way := by
    intro k' h₁ h₂
    rcases Table.mem_assign.mp h₁ with rfl | h₁ <;> rcases Table.mem_assign.mp h₂ with h₂' | h₂'
    · exact h₂'
    · exact absurd h₂' hr
    · rw [FiveTuple.reversed_eq_iff.mp h₂'] at h₁
      exact absurd h₁ hr
    · exact h.one_way k' h₁ h₂'
  mem_indexed := by
    intro ip k'
    rw [indexed_assign, Table.mem_assign]
    split_ifs with hip
    · subst hip
      rw [Finset.mem_insert, h.mem_indexed]
      constructor
      · rintro (rfl | ⟨hip, hmem⟩)
        · exact ⟨rfl, Or.inl rfl⟩
        · exact ⟨hip, Or.inr hmem⟩
      · rintro ⟨hip, rfl | hmem⟩
        · exact Or.inl rfl
        · exact Or.inr ⟨hip, hmem⟩
    · rw [h.mem_indexed]
      constructor
      · rintro ⟨hip', hmem⟩
        exact ⟨hip', Or.inr hmem⟩
      · rintro ⟨hip', rfl | hmem⟩
        · exact absurd hip'.symm hip
        · exact ⟨hip', hmem⟩
  nonempty := by
    intro ip
    rw [Table.lookup_assign]
    split_ifs
    · simp
    · exact h.nonempty ip

/-- Taking a flow out of the table and out of the index. -/
theorem TableOk.take {flows : Table FiveTuple (Flow F)} {index : Table UInt32 (Finset FiveTuple)}
    (h : TableOk flows index) (k : FiveTuple) :
    TableOk (AList.erase k flows) (unindexFlow index k) where
  key_eq := fun k' flow hl => h.key_eq k' flow (Table.lookup_erase_eq_some.mp hl).2
  one_way := fun k' h₁ h₂ => h.one_way k' (AList.mem_erase.mp h₁).2 (AList.mem_erase.mp h₂).2
  mem_indexed := by
    intro ip k'
    rw [indexed_unindexFlow, AList.mem_erase]
    split_ifs with hip
    · rw [Finset.mem_erase, h.mem_indexed]
      tauto
    · rw [h.mem_indexed]
      constructor
      · rintro ⟨hip', hmem⟩
        refine ⟨hip', ?_, hmem⟩
        rintro rfl
        exact hip hip'.symm
      · rintro ⟨hip', -, hmem⟩
        exact ⟨hip', hmem⟩
  nonempty := by
    intro ip
    unfold unindexFlow
    split
    · exact h.nonempty ip
    · split_ifs with hempty
      · rw [Table.lookup_erase']
        split_ifs
        · simp
        · exact h.nonempty ip
      · rw [Table.lookup_assign]
        split_ifs
        · simpa using hempty
        · exact h.nonempty ip

/-- Discarding every flow of a source. -/
theorem TableOk.discard {flows : Table FiveTuple (Flow F)}
    {index : Table UInt32 (Finset FiveTuple)} (h : TableOk flows index) (ip : UInt32) :
    TableOk (flows.filter fun k _ => decide (k ∉ indexed index ip)) (AList.erase ip index) where
  key_eq := fun k flow hl => h.key_eq k flow (Table.lookup_filter_eq_some.mp hl).1
  one_way := by
    have hmem : ∀ k, k ∈ flows.filter (fun k _ => decide (k ∉ indexed index ip)) → k ∈ flows := by
      intro k hk
      obtain ⟨flow, hflow⟩ := Option.isSome_iff_exists.mp (AList.lookup_isSome.mpr hk)
      exact Table.mem_of_lookup (Table.lookup_filter_eq_some.mp hflow).1
    exact fun k h₁ h₂ => h.one_way k (hmem _ h₁) (hmem _ h₂)
  mem_indexed := by
    intro ip' k
    rw [indexed_erase, ← AList.lookup_isSome,
      Table.lookup_filter_key (fun k => decide (k ∉ indexed index ip))]
    split_ifs with hip hk hk
    · have hn : ¬ (k.srcIp = ip ∧ k ∈ flows) := by
        rw [← h.mem_indexed]
        simpa using hk
      rw [AList.lookup_isSome]
      subst hip
      simp only [Finset.notMem_empty, false_iff]
      exact hn
    · simp
    · rw [h.mem_indexed, AList.lookup_isSome]
    · have hin : k.srcIp = ip := ((h.mem_indexed ip k).mp (by simpa using hk)).1
      rw [h.mem_indexed]
      simp only [Option.isSome_none, Bool.false_eq_true, and_false, iff_false, not_and]
      intro hip'
      exact absurd (hip'.symm.trans hin) hip
  nonempty := by
    intro ip'
    rw [Table.lookup_erase']
    split_ifs
    · simp
    · exact h.nonempty ip'

/-- The invariant of a manager. -/
def Ok (m : FlowManager F) : Prop := TableOk m.flows m.flowKeysBySource

theorem ok_empty : (empty : FlowManager F).Ok := tableOk_empty

theorem ok_discardSourceFlows (h : m.Ok) (ip : UInt32) : (m.discardSourceFlows ip).Ok := by
  unfold discardSourceFlows
  split
  · exact h
  · rename_i keys hkeys
    have hd := TableOk.discard h ip
    rwa [show indexed m.flowKeysBySource ip = keys by simp [indexed, hkeys]] at hd

theorem ok_cleanupExpired (h : m.Ok) : (m.cleanupExpired c now).1.Ok := by
  have hswept := BucketSweep.sweep_induction c.flowBuckets (flowExpired now) expireFlow m.flows
    m.flowCursor (m.flowKeysBySource, [])
    (I := fun t acc => TableOk t acc.1) h (by
      rintro t acc k flow hk - hI
      have hkey := hI.key_eq k flow hk
      simpa [expireFlow, hkey] using hI.take k)
  exact hswept

section Calls

variable [DoubleOps F]

theorem ok_updateFlow (h : m.Ok) : (m.updateFlow c packet direction now).1.Ok := by
  rcases updateFlow_cases c m packet direction now with
    ⟨flow, hf, hu⟩ | ⟨flow, -, hr, hu⟩ | ⟨-, hr, -, hu⟩ | ⟨-, -, -, hu⟩ <;> rw [hu]
  · exact TableOk.assign h (Table.mem_of_lookup hf) (TableOk.key_eq h _ flow hf)
  · exact TableOk.assign h (Table.mem_of_lookup hr) (TableOk.key_eq h _ flow hr)
  · exact TableOk.open h (AList.lookup_eq_none.mp hr) rfl
  · exact h

theorem ok_observePacket (h : m.Ok) : (m.observePacket c packet direction now).1.Ok := by
  by_cases hd : direction = .unknown
  · simpa [observePacket, hd] using h
  · obtain ⟨hflows, hindex⟩ := observePacket_flows c m packet hd now
    unfold Ok
    rw [hflows, hindex]
    exact ok_updateFlow h

theorem ok_extractCompleted (h : m.Ok) (key : FiveTuple) : (m.extractCompleted key).1.Ok := by
  rcases extractCompleted_cases m key with ⟨k, flow, reason, -, -, -, he⟩ | ⟨-, he⟩ <;> rw [he]
  · exact TableOk.take h k
  · exact h

/-- Every call keeps the invariant. -/
theorem ok_call (h : m.Ok) (e : FlowCall) : (m.call c e).1.Ok := by
  cases e with
  | observe packet direction now => exact ok_observePacket h
  | extract key => exact ok_extractCompleted h key
  | discard ip => exact ok_discardSourceFlows h ip
  | cleanup now => exact ok_cleanupExpired h

/-- Every run keeps the invariant. -/
theorem ok_exec (h : m.Ok) (calls : List FlowCall) : (Machine.exec (call c) m calls).Ok :=
  Machine.exec_invariant Ok (fun _ e hm _ => ok_call hm e) h (Machine.along_true _ _)

end Calls

end InlineIps.FlowManager
