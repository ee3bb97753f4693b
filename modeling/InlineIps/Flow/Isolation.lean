import InlineIps.Flow.SourceWindow

/-!
# Flow managers that agree on one address

The flows with one address at an end and the statistics of that address depend on the packets
with that address only, as long as there is room and no address of the other side is treated
as a source.

* `Isolated`: the second manager is the part of the first that concerns the address.
* `Isolated.observePacket` .. `Isolated.cleanupExpired`: calls that concern the address keep
  the managers together; `Isolated.observePacket_outside` ..: the others change the first only.
-/

namespace InlineIps.FlowManager

open Library

variable {F : Type}

/-- The address is an end of the tuple. -/
def Touches (s : UInt32) (key : FiveTuple) : Prop := key.srcIp = s ∨ key.dstIp = s

instance (s : UInt32) (key : FiveTuple) : Decidable (Touches s key) :=
  inferInstanceAs (Decidable (_ ∨ _))

theorem Touches.reversed {s : UInt32} {key : FiveTuple} (h : Touches s key) :
    Touches s key.reversed := Or.symm h

/-- One end of the tuple is local, the other one remote. -/
def Crosses (isLocal : UInt32 → Bool) (key : FiveTuple) : Prop :=
  isLocal key.srcIp ≠ isLocal key.dstIp

/-- The second manager is the part of the first that concerns the address `s`. -/
structure Isolated (isLocal : UInt32 → Bool) (s : UInt32) (m m' : FlowManager F) : Prop where
  flows : Table.Restricts (Touches s) m.flows m'.flows
  sources : Table.Restricts (· = s) m.sourceStats m'.sourceStats
  flowCursor : m'.flowCursor = m.flowCursor
  sourceCursor : m'.sourceCursor = m.sourceCursor
  ok : m.Ok
  ok' : m'.Ok
  crossing : ∀ key ∈ m.flows, Crosses isLocal key

theorem isolated_empty (isLocal : UInt32 → Bool) (s : UInt32) :
    Isolated isLocal s (.empty : FlowManager F) .empty where
  flows := .empty _
  sources := .empty _
  flowCursor := rfl
  sourceCursor := rfl
  ok := ok_empty
  ok' := ok_empty
  crossing key hkey := by simp [FlowManager.empty] at hkey

section Calls

variable [DoubleOps F] {c : FlowParams} {m m' : FlowManager F} {isLocal : UInt32 → Bool}
  {s : UInt32} {packet : ParsedPacket} {direction : PacketDirection} {now : TimePoint}

/-! ## Packets -/

section Cases

variable (c direction now)

theorem updateFlow_forward {flow : Flow F} (hlookup : m.flows.lookup packet.tuple = some flow) :
    m.updateFlow c packet direction now =
      (m.storeFlow packet.tuple (flow.record true packet now),
        some ⟨flow.record true packet now, true⟩) := by
  unfold updateFlow
  rw [hlookup]
  rfl

theorem updateFlow_backward {flow : Flow F} (hnone : m.flows.lookup packet.tuple = none)
    (hlookup : m.flows.lookup packet.tuple.reversed = some flow) :
    m.updateFlow c packet direction now =
      (m.storeFlow packet.tuple.reversed (flow.record false packet now),
        some ⟨flow.record false packet now, false⟩) := by
  unfold updateFlow
  rw [hnone]
  dsimp only
  rw [hlookup]
  rfl

theorem updateFlow_open (hnone : m.flows.lookup packet.tuple = none)
    (hnone' : m.flows.lookup packet.tuple.reversed = none) (hroom : m.flows.size < c.maxFlows) :
    m.updateFlow c packet direction now =
      (m.openFlow packet direction now,
        some ⟨(Flow.opened packet direction now).record true packet now, true⟩) := by
  unfold updateFlow
  rw [hnone]
  dsimp only
  rw [hnone']
  exact if_pos hroom

end Cases

omit [DoubleOps F] in
/-- Flows stored at a key that crosses keep the invariant. -/
theorem crossing_assign (hcrossing : ∀ key ∈ m.flows, Crosses isLocal key) {k : FiveTuple}
    (hk : Crosses isLocal k) (flow : Flow F) :
    ∀ key ∈ m.flows.assign k flow, Crosses isLocal key := by
  intro key hkey
  rcases Table.mem_assign.mp hkey with rfl | hmem
  · exact hk
  · exact hcrossing key hmem

variable (direction now) in
/-- A packet of the address. -/
theorem Isolated.updateFlow (h : Isolated isLocal s m m') (htouches : Touches s packet.tuple)
    (hcrosses : Crosses isLocal packet.tuple) (hroom : m.flows.size < c.maxFlows) :
    Isolated isLocal s (m.updateFlow c packet direction now).1
        (m'.updateFlow c packet direction now).1 ∧
      (m'.updateFlow c packet direction now).2 = (m.updateFlow c packet direction now).2 := by
  have hok : (m.updateFlow c packet direction now).1.Ok := ok_updateFlow h.ok
  have hok' : (m'.updateFlow c packet direction now).1.Ok := ok_updateFlow h.ok'
  have hforward := h.flows.inside _ htouches
  have hbackward := h.flows.inside _ htouches.reversed
  rcases updateFlow_cases c m packet direction now with
    ⟨flow, hlookup, hupdate⟩ | ⟨flow, hnone, hlookup, hupdate⟩ | ⟨hnone, hnone', -, hupdate⟩ |
      ⟨-, -, hfull, -⟩
  · have hupdate' := updateFlow_forward c direction now (hforward.trans hlookup)
    rw [hupdate] at hok
    rw [hupdate'] at hok'
    rw [hupdate, hupdate']
    refine ⟨⟨h.flows.assign htouches _, h.sources, h.flowCursor, h.sourceCursor, hok, hok', ?_⟩,
      rfl⟩
    exact crossing_assign h.crossing hcrosses _
  · have hupdate' := updateFlow_backward c direction now (hforward.trans hnone) (hbackward.trans hlookup)
    rw [hupdate] at hok
    rw [hupdate'] at hok'
    rw [hupdate, hupdate']
    refine ⟨⟨h.flows.assign htouches.reversed _, h.sources, h.flowCursor, h.sourceCursor, hok,
      hok', ?_⟩, rfl⟩
    exact crossing_assign h.crossing (h.crossing _ (Table.mem_of_lookup hlookup)) _
  · have hupdate' := updateFlow_open c direction now (hforward.trans hnone)
      (hbackward.trans hnone') (h.flows.size_le.trans_lt hroom)
    rw [hupdate] at hok
    rw [hupdate'] at hok'
    rw [hupdate, hupdate']
    refine ⟨⟨h.flows.assign htouches _, h.sources, h.flowCursor, h.sourceCursor, hok, hok', ?_⟩,
      rfl⟩
    exact crossing_assign h.crossing hcrosses _
  · exact absurd hroom (Nat.not_lt_of_le hfull)

omit [DoubleOps F] in
theorem Isolated.updateSourceStats (h : Isolated isLocal s m m') (hsource : packet.tuple.srcIp = s)
    (hroom : m.sourceStats.size < c.maxSources) :
    Isolated isLocal s (m.updateSourceStats c packet now).1
        (m'.updateSourceStats c packet now).1 ∧
      (m'.updateSourceStats c packet now).2 = (m.updateSourceStats c packet now).2 := by
  have hroom' := h.sources.size_le.trans_lt hroom
  have hlookup := h.sources.inside _ hsource
  unfold FlowManager.updateSourceStats
  dsimp only
  rw [if_neg fun hfull => absurd hroom (Nat.not_lt_of_le hfull.2),
    if_neg fun hfull => absurd hroom' (Nat.not_lt_of_le hfull.2), hlookup]
  exact ⟨⟨h.flows, h.sources.assign hsource _, h.flowCursor, h.sourceCursor, h.ok, h.ok',
    h.crossing⟩, rfl⟩

variable (now) in
theorem Isolated.observePacket (h : Isolated isLocal s m m') (hdirection : direction ≠ .unknown)
    (htouches : Touches s packet.tuple) (hcrosses : Crosses isLocal packet.tuple)
    (hsource : direction = .inbound → packet.tuple.srcIp = s) (hroom : m.flows.size < c.maxFlows)
    (hsourceRoom : m.sourceStats.size < c.maxSources) :
    Isolated isLocal s (m.observePacket c packet direction now).1
        (m'.observePacket c packet direction now).1 ∧
      (m'.observePacket c packet direction now).2 =
        (m.observePacket c packet direction now).2 := by
  obtain ⟨hnext, hsame⟩ := h.updateFlow direction now htouches hcrosses hroom
  unfold FlowManager.observePacket
  rw [if_neg hdirection, if_neg hdirection]
  dsimp only
  rw [hsame]
  split
  · rename_i hcounted
    refine hnext.updateSourceStats (hsource (inbound_of_counted hcounted)) ?_
    rw [updateFlow_sourceStats]
    exact hsourceRoom
  · exact ⟨hnext, rfl⟩

variable (c direction now) in
/-- A packet of other addresses. -/
theorem Isolated.observePacket_outside (h : Isolated isLocal s m m')
    (houtside : ¬ Touches s packet.tuple) (hcrosses : Crosses isLocal packet.tuple) :
    Isolated isLocal s (m.observePacket c packet direction now).1 m' := by
  have houtside' : ¬ Touches s packet.tuple.reversed := fun htouches =>
    houtside htouches.reversed
  have hupdate : Isolated isLocal s (m.updateFlow c packet direction now).1 m' := by
    have hok : (m.updateFlow c packet direction now).1.Ok := ok_updateFlow h.ok
    rcases updateFlow_cases c m packet direction now with
      ⟨flow, hlookup, hu⟩ | ⟨flow, hnone, hlookup, hu⟩ | ⟨-, -, -, hu⟩ | ⟨-, -, -, hu⟩
    · rw [hu] at hok ⊢
      exact ⟨h.flows.assign_outside houtside _, h.sources, h.flowCursor, h.sourceCursor, hok, h.ok',
        crossing_assign h.crossing hcrosses _⟩
    · rw [hu] at hok ⊢
      exact ⟨h.flows.assign_outside houtside' _, h.sources, h.flowCursor, h.sourceCursor, hok,
        h.ok', crossing_assign h.crossing (h.crossing _ (Table.mem_of_lookup hlookup)) _⟩
    · rw [hu] at hok ⊢
      exact ⟨h.flows.assign_outside houtside _, h.sources, h.flowCursor, h.sourceCursor, hok, h.ok',
        crossing_assign h.crossing hcrosses _⟩
    · rw [hu]
      exact h
  unfold FlowManager.observePacket
  split
  · exact h
  · dsimp only
    split
    · unfold FlowManager.updateSourceStats
      dsimp only
      split
      · exact hupdate
      · exact ⟨hupdate.flows, hupdate.sources.assign_outside (fun heq => houtside (.inl heq)) _,
          hupdate.flowCursor, hupdate.sourceCursor, hupdate.ok, hupdate.ok', hupdate.crossing⟩
    · exact hupdate

/-! ## Removals -/

omit [DoubleOps F] in
theorem Isolated.findKey (h : Isolated isLocal s m m') {key : FiveTuple}
    (htouches : Touches s key) : m'.findKey key = m.findKey key := by
  unfold FlowManager.findKey
  simp only [h.flows.mem_iff htouches, h.flows.mem_iff htouches.reversed]

theorem Isolated.extractCompleted (h : Isolated isLocal s m m') {key : FiveTuple}
    (htouches : Touches s key) :
    Isolated isLocal s (m.extractCompleted key).1 (m'.extractCompleted key).1 ∧
      (m'.extractCompleted key).2 = (m.extractCompleted key).2 := by
  have hok : (m.extractCompleted key).1.Ok := ok_extractCompleted h.ok key
  have hok' : (m'.extractCompleted key).1.Ok := ok_extractCompleted h.ok' key
  have htaken : ∀ k, m.findKey key = some k → Touches s k := by
    intro k hk
    rcases (findKey_eq_some hk).1 with rfl | ⟨rfl, -⟩
    · exact htouches
    · exact htouches.reversed
  rcases extractCompleted_cases m key with ⟨k, flow, reason, hk, hlookup, hreason, he⟩ | ⟨hnone, he⟩
  · have hlookup' : m'.flows.lookup k = some flow :=
      (h.flows.inside k (htaken k hk)).trans hlookup
    have he' : m'.extractCompleted key = (m'.takeFlow k, some ⟨flow, reason⟩) := by
      unfold FlowManager.extractCompleted
      rw [h.findKey htouches, hk]
      dsimp only
      rw [hlookup']
      dsimp only
      rw [hreason]
      rfl
    rw [he] at hok
    rw [he'] at hok'
    rw [he, he']
    refine ⟨⟨h.flows.erase k, h.sources, h.flowCursor, h.sourceCursor, hok, hok', ?_⟩, rfl⟩
    exact fun key hkey => h.crossing key (AList.mem_erase.mp hkey).2
  · have he' : m'.extractCompleted key = (m', none) := by
      rcases extractCompleted_cases m' key with ⟨k, flow, reason, hk, hlookup, hreason, -⟩ | ⟨-, he'⟩
      · rw [h.findKey htouches] at hk
        rw [h.flows.inside k (htaken k hk)] at hlookup
        rw [hnone k flow hk hlookup] at hreason
        cases hreason
      · exact he'
    rw [he, he']
    exact ⟨h, rfl⟩

theorem Isolated.extractCompleted_outside (h : Isolated isLocal s m m') {key : FiveTuple}
    (houtside : ¬ Touches s key) : Isolated isLocal s (m.extractCompleted key).1 m' := by
  have hok : (m.extractCompleted key).1.Ok := ok_extractCompleted h.ok key
  rcases extractCompleted_cases m key with ⟨k, flow, reason, hk, -, -, he⟩ | ⟨-, he⟩
  · have houtside' : ¬ Touches s k := by
      rcases (findKey_eq_some hk).1 with rfl | ⟨rfl, -⟩
      · exact houtside
      · exact fun htouches => houtside htouches.reversed
    rw [he] at hok ⊢
    refine ⟨h.flows.erase_outside houtside', h.sources, h.flowCursor, h.sourceCursor, hok, h.ok', ?_⟩
    exact fun key hkey => h.crossing key (AList.mem_erase.mp hkey).2
  · rw [he]
    exact h

omit [DoubleOps F] in
theorem crossing_discard (hcrossing : ∀ key ∈ m.flows, Crosses isLocal key) (hok : m.Ok)
    (srcIp : UInt32) : ∀ key ∈ (m.discardSourceFlows srcIp).flows, Crosses isLocal key := by
  intro key hkey
  obtain ⟨flow, hlookup⟩ := Option.isSome_iff_exists.mp (AList.lookup_isSome.mpr hkey)
  exact hcrossing key (Table.mem_of_lookup ((discardSourceFlows_lookup hok).mp hlookup).1)

omit [DoubleOps F] in
/-- The flows of any source are discarded in both. -/
theorem Isolated.discardSourceFlows (h : Isolated isLocal s m m') (srcIp : UInt32) :
    Isolated isLocal s (m.discardSourceFlows srcIp) (m'.discardSourceFlows srcIp) where
  flows := by
    constructor
    · intro k hk
      rw [discardSourceFlows_eq h.ok, discardSourceFlows_eq h.ok', h.flows.inside k hk]
    · intro k hk
      rw [discardSourceFlows_eq h.ok', h.flows.outside k hk, ite_self]
  sources := by
    rw [discardSourceFlows_sourceStats, discardSourceFlows_sourceStats]
    exact h.sources
  flowCursor := by
    rw [(discardSourceFlows_cursors _ srcIp).1, (discardSourceFlows_cursors _ srcIp).1, h.flowCursor]
  sourceCursor := by
    rw [(discardSourceFlows_cursors _ srcIp).2, (discardSourceFlows_cursors _ srcIp).2, h.sourceCursor]
  ok := ok_discardSourceFlows h.ok srcIp
  ok' := ok_discardSourceFlows h.ok' srcIp
  crossing := crossing_discard h.crossing h.ok srcIp

omit [DoubleOps F] in
/-- A flow with `s` at an end was not opened by another remote address. -/
theorem Isolated.discardSourceFlows_outside (h : Isolated isLocal s m m')
    (hremote : isLocal s = false) {srcIp : UInt32} (hsource : isLocal srcIp = false)
    (hne : srcIp ≠ s) : Isolated isLocal s (m.discardSourceFlows srcIp) m' where
  flows := by
    refine ⟨fun k hk => ?_, h.flows.outside⟩
    rw [discardSourceFlows_eq h.ok, h.flows.inside k hk]
    split
    · rename_i hip
      have hdst : k.dstIp = s := hk.resolve_left fun hsame => hne (hip.symm.trans hsame)
      cases hlookup : m.flows.lookup k with
      | none => rfl
      | some flow =>
        have hcrosses := h.crossing k (Table.mem_of_lookup hlookup)
        unfold Crosses at hcrosses
        rw [hip, hdst, hsource, hremote] at hcrosses
        exact absurd rfl hcrosses
    · rfl
  sources := by
    rw [discardSourceFlows_sourceStats]
    exact h.sources
  flowCursor := by rw [(discardSourceFlows_cursors _ srcIp).1, h.flowCursor]
  sourceCursor := by rw [(discardSourceFlows_cursors _ srcIp).2, h.sourceCursor]
  ok := ok_discardSourceFlows h.ok srcIp
  ok' := h.ok'
  crossing := crossing_discard h.crossing h.ok srcIp

omit [DoubleOps F] in
/-- The sweeps look at the same buckets. -/
theorem Isolated.cleanupExpired (h : Isolated isLocal s m m') (c : FlowParams) (now : TimePoint) :
    Isolated isLocal s (m.cleanupExpired c now).1 (m'.cleanupExpired c now).1 where
  flows := by
    unfold FlowManager.cleanupExpired
    dsimp only
    rw [h.flowCursor]
    exact BucketSweep.restricts_sweep h.flows
  sources := by
    unfold FlowManager.cleanupExpired
    dsimp only
    rw [h.sourceCursor]
    exact BucketSweep.restricts_sweep h.sources
  flowCursor := by
    show (m'.flowCursor + _) % _ = (m.flowCursor + _) % _
    rw [h.flowCursor]
  sourceCursor := by
    show (m'.sourceCursor + _) % _ = (m.sourceCursor + _) % _
    rw [h.sourceCursor]
  ok := ok_cleanupExpired h.ok
  ok' := ok_cleanupExpired h.ok'
  crossing key hkey := by
    obtain ⟨flow, hlookup⟩ := Option.isSome_iff_exists.mp (AList.lookup_isSome.mpr hkey)
    exact h.crossing key (Table.mem_of_lookup (cleanupExpired_lookup hlookup))

end Calls

end InlineIps.FlowManager
