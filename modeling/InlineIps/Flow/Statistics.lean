import InlineIps.Flow.Sweep

/-!
# Exact statistics

The statistics of a flow in terms of the packets that were assigned to it: those that
`update_flow` recorded in it since it was opened.

* `Flow.exact_replay`: the flow that packets make has their statistics.
* `assigned`: the packets assigned to the flow at a key, read off a run.
* `flow_statistics`: every stored and every returned flow has the statistics of its packets.
-/

namespace InlineIps

open Library

variable {F : Type} [DoubleOps F]

/-! ## One direction -/

namespace DirectionStats

/-- The statistics that packets of one direction make. -/
def replay (packets : List Observation) : DirectionStats F :=
  packets.foldl (fun dir o => dir.record o.packet o.time) .zero

theorem replay_snoc (packets : List Observation) (o : Observation) :
    (replay (packets ++ [o]) : DirectionStats F) = (replay packets).record o.packet o.time := by
  simp [replay]

/-- The fold of `RunningStats::add`. -/
def statsOf (samples : List F) : RunningStats F := samples.foldl RunningStats.add .zero

omit [DoubleOps F] in
theorem statsOf_snoc [DoubleOps F] (samples : List F) (x : F) :
    statsOf (samples ++ [x]) = (statsOf samples).add x := by
  simp [statsOf]

theorem statsOf_count (samples : List F) : (statsOf samples).count = samples.length := by
  induction samples using List.reverseRecOn with
  | nil => rfl
  | append_singleton samples x ih =>
    rw [statsOf_snoc, List.length_append, List.length_singleton, ← ih]
    rfl

/-- The time between two packets, in whole microseconds. -/
def gap (o o' : Observation) : Int := toMicroseconds (o'.time - o.time)

/-- The times between consecutive packets. -/
def gaps (packets : List Observation) : List Int := List.zipWith gap packets packets.tail

theorem gaps_snoc (packets : List Observation) (o o' : Observation) :
    gaps (packets ++ [o] ++ [o']) = gaps (packets ++ [o]) ++ [gap o o'] := by
  have htail : (packets ++ [o] ++ [o']).tail = (packets ++ [o]).tail ++ [o'] :=
    List.tail_append_of_ne_nil (by simp)
  have hlength : packets.length = (packets ++ [o]).tail.length := by simp
  have hlonger : gaps (packets ++ [o] ++ [o']) =
      List.zipWith gap packets (packets ++ [o]).tail ++ List.zipWith gap [o, o'] [o'] := by
    rw [gaps, htail, List.append_assoc]
    exact List.zipWith_append hlength
  have hshorter : gaps (packets ++ [o]) =
      List.zipWith gap packets (packets ++ [o]).tail ++ List.zipWith gap [o] [] := by
    rw [← List.zipWith_append hlength, List.append_nil]
    rfl
  rw [hlonger, hshorter]
  simp

theorem length_gaps (packets : List Observation) : (gaps packets).length = packets.length - 1 := by
  rw [gaps, List.length_zipWith, List.length_tail]
  omega

/-- The flag counters with their flags. -/
def flagCounters : List (UInt8 × (DirectionStats F → UInt32)) :=
  [(thSyn, syn), (thAck, ack), (thFin, fin), (thRst, rst), (thPush, psh), (thUrg, urg)]

/-- The packets with a flag. -/
def flagged (flag : UInt8) (packets : List Observation) : Nat :=
  packets.countP fun o => hasFlag o.packet.tcpFlags flag

/-- The statistics are those of the packets. -/
structure Exact (packets : List Observation) (dir : DirectionStats F) : Prop where
  packetLen : dir.packetLen =
    statsOf (packets.map fun o => DoubleOps.ofInt o.packet.totalLen.toNat)
  payloadLen : dir.payloadLen =
    statsOf (packets.map fun o => DoubleOps.ofInt o.packet.payloadLen.toNat)
  iatUs : dir.iatUs = statsOf ((gaps packets).map DoubleOps.ofInt)
  counts : dir.packetLen.count = packets.length ∧ dir.payloadLen.count = packets.length ∧
    dir.iatUs.count = packets.length - 1
  flags : packets.length < 2 ^ 32 → ∀ x ∈ flagCounters, (x.2 dir).toNat = flagged x.1 packets

section Replay

variable (packets : List Observation)

theorem replay_packetLen : (replay packets : DirectionStats F).packetLen =
    statsOf (packets.map fun o => DoubleOps.ofInt o.packet.totalLen.toNat) := by
  induction packets using List.reverseRecOn with
  | nil => rfl
  | append_singleton packets o ih =>
    rw [replay_snoc, List.map_append, List.map_singleton, statsOf_snoc, ← ih]
    rfl

theorem replay_payloadLen : (replay packets : DirectionStats F).payloadLen =
    statsOf (packets.map fun o => DoubleOps.ofInt o.packet.payloadLen.toNat) := by
  induction packets using List.reverseRecOn with
  | nil => rfl
  | append_singleton packets o ih =>
    rw [replay_snoc, List.map_append, List.map_singleton, statsOf_snoc, ← ih]
    rfl

/-- The gap of a packet is the one to the packet before it, which the direction has kept the time
of. -/
theorem replay_iatUs : (replay packets : DirectionStats F).iatUs =
    statsOf ((gaps packets).map DoubleOps.ofInt) := by
  induction packets using List.reverseRecOn with
  | nil => rfl
  | append_singleton packets o' ih =>
    have hcount : (replay packets : DirectionStats F).packetLen.count = packets.length := by
      rw [replay_packetLen, statsOf_count, List.length_map]
    rw [replay_snoc, record, hcount, ih]
    rcases List.eq_nil_or_concat packets with rfl | ⟨earlier, o, rfl⟩
    · rfl
    · rw [List.concat_eq_append]
      have hlast : (replay (earlier ++ [o]) : DirectionStats F).lastSeen = o.time := by
        rw [replay_snoc]
        rfl
      rw [if_pos (by simp), hlast, gaps_snoc, List.map_append, List.map_singleton, statsOf_snoc]
      rfl

/-- Every flag counter counts its flag. -/
theorem counter_record {x : UInt8 × (DirectionStats F → UInt32)} (hx : x ∈ flagCounters)
    (dir : DirectionStats F) (packet : ParsedPacket) (now : TimePoint) :
    x.2 (dir.record packet now) = countIf (x.2 dir) (hasFlag packet.tcpFlags x.1) := by
  simp only [flagCounters, List.mem_cons, List.not_mem_nil, or_false] at hx
  rcases hx with rfl | rfl | rfl | rfl | rfl | rfl <;> rfl

theorem replay_flags {x : UInt8 × (DirectionStats F → UInt32)} (hx : x ∈ flagCounters) :
    x.2 (replay packets) = UInt32.ofNat (flagged x.1 packets) := by
  induction packets using List.reverseRecOn with
  | nil =>
    simp only [flagCounters, List.mem_cons, List.not_mem_nil, or_false] at hx
    rcases hx with rfl | rfl | rfl | rfl | rfl | rfl <;> rfl
  | append_singleton packets o ih =>
    have hsplit : flagged x.1 (packets ++ [o]) =
        flagged x.1 packets + if hasFlag o.packet.tcpFlags x.1 then 1 else 0 := by
      rw [flagged, List.countP_append, List.countP_singleton]
      rfl
    rw [replay_snoc, counter_record hx, ih, hsplit, countIf]
    cases hasFlag o.packet.tcpFlags x.1
    · rfl
    · exact (UInt32.ofNat_add _ 1).symm

theorem exact_replay : Exact packets (replay packets : DirectionStats F) where
  packetLen := replay_packetLen packets
  payloadLen := replay_payloadLen packets
  iatUs := replay_iatUs packets
  counts := by
    refine ⟨?_, ?_, ?_⟩
    · rw [replay_packetLen, statsOf_count, List.length_map]
    · rw [replay_payloadLen, statsOf_count, List.length_map]
    · rw [replay_iatUs, statsOf_count, List.length_map, length_gaps]
  flags := by
    intro hlength x hx
    rw [replay_flags packets hx]
    exact UInt32.toNat_ofNat_of_lt (Nat.lt_of_le_of_lt List.countP_le_length hlength)

end Replay

end DirectionStats

/-! ## A flow -/

namespace Flow

/-- The statistics of a flow are those of the packets assigned to it. -/
structure Exact (packets : List Observation) (flow : Flow F) : Prop where
  conversation : ∀ o ∈ packets, o.packet.tuple = flow.key ∨ o.packet.tuple = flow.key.reversed
  forward : flow.forward.Exact (packets.filter fun o => o.packet.tuple = flow.key)
  backward : flow.backward.Exact
    (packets.filter fun o => o.packet.tuple = flow.key.reversed ∧ o.packet.tuple ≠ flow.key)
  opening : ∃ first ∈ packets.head?, first.packet.tuple = flow.key ∧ flow.firstSeen = first.time ∧
    flow.origin = if first.direction = .outbound then .localInitiated else .remoteInitiated
  closing : ∃ last ∈ packets.getLast?, flow.lastSeen = last.time

variable {first : Observation} {rest : List Observation}

/-- The packets that have the key as their tuple make the forward direction, the others the
backward one. -/
theorem replay_directions (first : Observation) (rest : List Observation) :
    (replay first rest : Flow F).forward =
      .replay ((first :: rest).filter fun o => o.packet.tuple = first.packet.tuple) ∧
    (replay first rest : Flow F).backward =
      .replay ((first :: rest).filter fun o => o.packet.tuple ≠ first.packet.tuple) := by
  induction rest using List.reverseRecOn with
  | nil => simp [replay, begin, record, opened, DirectionStats.replay]
  | append_singleton rest o ih =>
    rw [replay_snoc, observe, replay_key, ← List.cons_append, List.filter_append, List.filter_append]
    by_cases htuple : o.packet.tuple = first.packet.tuple
    · have hone : [o].filter (fun o => o.packet.tuple = first.packet.tuple) = [o] := by simp [htuple]
      have hnone : [o].filter (fun o => o.packet.tuple ≠ first.packet.tuple) = [] := by simp [htuple]
      rw [hone, hnone, List.append_nil, DirectionStats.replay_snoc, ← ih.1, ← ih.2,
        decide_eq_true htuple]
      exact ⟨rfl, rfl⟩
    · have hnone : [o].filter (fun o => o.packet.tuple = first.packet.tuple) = [] := by simp [htuple]
      have hone : [o].filter (fun o => o.packet.tuple ≠ first.packet.tuple) = [o] := by simp [htuple]
      rw [hone, hnone, List.append_nil, DirectionStats.replay_snoc, ← ih.1, ← ih.2,
        decide_eq_false htuple]
      exact ⟨rfl, rfl⟩

/-- **A flow has the statistics of the packets of its conversation that made it.** -/
theorem exact_replay (h : ∀ o ∈ rest,
      o.packet.tuple = first.packet.tuple ∨ o.packet.tuple = first.packet.tuple.reversed) :
    Exact (first :: rest) (replay first rest : Flow F) where
  conversation := by
    rw [replay_key]
    intro o ho
    rcases List.mem_cons.mp ho with rfl | hrest
    · exact Or.inl rfl
    · exact h o hrest
  forward := by
    rw [replay_key, (replay_directions first rest).1]
    exact DirectionStats.exact_replay _
  backward := by
    have hfilter : ((first :: rest).filter fun o =>
        o.packet.tuple = first.packet.tuple.reversed ∧ o.packet.tuple ≠ first.packet.tuple) =
        (first :: rest).filter fun o => o.packet.tuple ≠ first.packet.tuple := by
      apply List.filter_congr
      intro o ho
      rcases List.mem_cons.mp ho with rfl | hrest
      · simp
      · rcases h o hrest with htuple | htuple <;> simp [htuple]
    rw [replay_key, hfilter, (replay_directions first rest).2]
    exact DirectionStats.exact_replay _
  opening := ⟨first, rfl, by rw [replay_key, replay_firstSeen, replay_origin]; exact ⟨rfl, rfl, rfl⟩⟩
  closing := ⟨_, List.getLast?_eq_some_getLast _, replay_lastSeen first rest⟩

end Flow

/-! ## Runs -/

namespace FlowManager

/-- The key of the flow that a call records a packet in, with the packet. -/
def assignment? (c : FlowParams) (m : FlowManager F) : FlowCall → Option (FiveTuple × Observation)
  | .observe packet direction now =>
    if direction = .unknown then none
    else (m.updateFlow c packet direction now).2.map fun updated =>
      (updated.flow.key, ⟨packet, direction, now⟩)
  | _ => none

/-- The packets assigned to the flow at a key, after one more call. A flow that is opened starts
with its own packet. -/
def assign (c : FlowParams) (k : FiveTuple) (packets : List Observation) (x : FlowTaken F) :
    List Observation :=
  match assignment? c x.before x.event with
  | none => packets
  | some (k', o) =>
    if k' = k then
      if k ∈ x.before.flows then packets ++ [o] else [o]
    else packets

/-- The packets assigned to the flow at a key since it was opened. -/
def assigned (c : FlowParams) (k : FiveTuple) (h : List (FlowTaken F)) : List Observation :=
  h.foldl (assign c k) []

variable {c : FlowParams} {m : FlowManager F} {h : List (FlowTaken F)} {k : FiveTuple}

theorem assigned_snoc (c : FlowParams) (k : FiveTuple) (h : List (FlowTaken F)) (x : FlowTaken F) :
    assigned c k (h ++ [x]) = assign c k (assigned c k h) x := by
  simp [assigned]

/-- Only a packet that is recorded is assigned. -/
theorem assign_of_none {x : FlowTaken F} (hx : assignment? c x.before x.event = none)
    (packets : List Observation) : assign c k packets x = packets := by
  rw [assign, hx]

theorem assign_of_some {x : FlowTaken F} {k' : FiveTuple} {o : Observation}
    (hx : assignment? c x.before x.event = some (k', o)) (packets : List Observation) :
    assign c k packets x =
      if k' = k then if k ∈ x.before.flows then packets ++ [o] else [o] else packets := by
  rw [assign, hx]

/-- The flow is what the packets of its conversation made. -/
def MadeBy (packets : List Observation) (flow : Flow F) : Prop :=
  ∃ first rest, packets = first :: rest ∧ flow = Flow.replay first rest ∧
    ∀ o ∈ rest, o.packet.tuple = flow.key ∨ o.packet.tuple = flow.key.reversed

theorem MadeBy.exact {packets : List Observation} {flow : Flow F} (hmade : MadeBy packets flow) :
    flow.Exact packets := by
  obtain ⟨first, rest, rfl, rfl, htuples⟩ := hmade
  rw [Flow.replay_key] at htuples
  exact Flow.exact_replay htuples

theorem MadeBy.observe {packets : List Observation} {flow : Flow F} (hmade : MadeBy packets flow)
    {o : Observation}
    (ho : o.packet.tuple = flow.key ∨ o.packet.tuple = flow.key.reversed) :
    MadeBy (packets ++ [o]) (flow.observe o) := by
  obtain ⟨first, rest, rfl, rfl, htuples⟩ := hmade
  refine ⟨first, rest ++ [o], rfl, (Flow.replay_snoc first rest o).symm, ?_⟩
  intro o' ho'
  rcases List.mem_append.mp ho' with hrest | hnew
  · exact htuples o' hrest
  · rw [List.mem_singleton.mp hnew]
    exact ho

/-- Every stored flow is what the packets assigned to it made. -/
structure Attributed (c : FlowParams) (m : FlowManager F) (h : List (FlowTaken F)) : Prop where
  ok : m.Ok
  made : ∀ k flow, m.flows.lookup k = some flow → MadeBy (assigned c k h) flow

/-- A call that records no packet. -/
theorem Attributed.quiet (ha : Attributed c m h) {e : FlowCall} (he : assignment? c m e = none)
    (hlookup : ∀ k flow, (m.call c e).1.flows.lookup k = some flow →
      m.flows.lookup k = some flow) :
    Attributed c (m.call c e).1 (h ++ [⟨m, e, (m.call c e).2⟩]) where
  ok := ok_call ha.ok e
  made := by
    intro k flow hflow
    rw [assigned_snoc, assign_of_none he]
    exact ha.made k flow (hlookup k flow hflow)

/-- Observing a packet records it in the flow it is assigned to, and in no other. -/
theorem Attributed.observe (ha : Attributed c m h) (packet : ParsedPacket)
    {direction : PacketDirection} (hd : direction ≠ .unknown) (now : TimePoint) :
    Attributed c (m.call c (.observe packet direction now)).1
      (h ++ [⟨m, .observe packet direction now, (m.call c (.observe packet direction now)).2⟩]) where
  ok := ok_call ha.ok _
  made := by
    intro k flow hflow
    change (m.observePacket c packet direction now).1.flows.lookup k = some flow at hflow
    rw [(observePacket_flows c m packet hd now).1] at hflow
    rw [assigned_snoc]
    rcases updateFlow_accepted (c := c) ha.ok packet direction now with
      ⟨k', flow', isForward, hkey, hplace, hflows, hupdated, hflow'⟩ | hnone
    · have hassignment : assignment? c m (.observe packet direction now) =
          some (k', ⟨packet, direction, now⟩) := by
        rw [assignment?, if_neg hd, hupdated, ← hkey]
        rfl
      rw [assign_of_some hassignment]
      rw [hflows, Table.lookup_assign] at hflow
      by_cases hk : k = k'
      · subst hk
        rw [if_pos rfl] at hflow
        cases hflow
        rw [if_pos rfl]
        rcases hflow' with ⟨old, hold, rfl⟩ | ⟨hfree, rfl⟩
        · have holdKey : old.key = k := TableOk.key_eq ha.ok k old hold
          rw [if_pos (Table.mem_of_lookup hold)]
          apply (ha.made k old hold).observe
          rw [holdKey]
          rcases hplace with ⟨rfl, -⟩ | ⟨rfl, -, -⟩
          · exact Or.inl rfl
          · exact Or.inr rfl
        · rw [if_neg (AList.lookup_eq_none.mp hfree)]
          exact ⟨_, [], rfl, rfl, by simp⟩
      · rw [if_neg hk] at hflow
        rw [if_neg (Ne.symm hk)]
        exact ha.made k flow hflow
    · have hassignment : assignment? c m (.observe packet direction now) = none := by
        rw [assignment?, if_neg hd, hnone]
        rfl
      rw [hnone] at hflow
      rw [assign_of_none hassignment]
      exact ha.made k flow hflow

/-- **Every call keeps the stored flows attributed to their packets.** -/
theorem Attributed.call (ha : Attributed c m h) (e : FlowCall) :
    Attributed c (m.call c e).1 (h ++ [⟨m, e, (m.call c e).2⟩]) := by
  cases e with
  | observe packet direction now =>
    by_cases hd : direction = .unknown
    · apply ha.quiet
      · rw [assignment?, if_pos hd]
      · intro k flow hflow
        simpa [FlowManager.call, observePacket, hd] using hflow
    · exact ha.observe packet hd now
  | extract key => exact ha.quiet rfl fun k flow hflow => extractCompleted_lookup hflow
  | discard ip =>
    exact ha.quiet rfl fun k flow hflow => ((discardSourceFlows_lookup ha.ok).mp hflow).1
  | cleanup now => exact ha.quiet rfl fun k flow hflow => cleanupExpired_lookup hflow

theorem attributed_trace (c : FlowParams) (calls : List FlowCall) :
    Attributed (F := F) c (Machine.exec (call c) .empty calls)
      (Machine.trace (call c) .empty calls) :=
  Machine.trace_invariant (h := []) (Attributed c) (fun _ _ e ha => ha.call e)
    ⟨ok_empty, by intro k flow hflow; cases hflow⟩

/-- A call assigns its own packet. -/
theorem observation_of_assignment {e : FlowCall} {k' : FiveTuple} {o : Observation}
    (h : assignment? c m e = some (k', o)) : e.observation? = some o := by
  cases e with
  | observe packet direction now =>
    rw [assignment?] at h
    split at h
    · cases h
    · obtain ⟨updated, -, heq⟩ := Option.map_eq_some_iff.mp h
      cases heq
      rfl
  | _ => cases h

theorem assign_sublist {packets observed : List Observation} (h : packets.Sublist observed)
    (x : FlowTaken F) :
    (assign c k packets x).Sublist (observed ++ x.event.observation?.toList) := by
  cases hx : assignment? c x.before x.event with
  | none =>
    rw [assign_of_none hx]
    exact h.trans (List.sublist_append_left _ _)
  | some recorded =>
    obtain ⟨k', o⟩ := recorded
    have ho : x.event.observation? = some o := observation_of_assignment hx
    rw [assign_of_some hx, ho]
    split
    · split
      · exact h.append (List.Sublist.refl _)
      · exact List.sublist_append_right _ _
    · exact h.trans (List.sublist_append_left _ _)

theorem trace_snoc (c : FlowParams) (calls : List FlowCall) (e : FlowCall) :
    Machine.trace (call (F := F) c) .empty (calls ++ [e]) =
      Machine.trace (call c) .empty calls ++ [⟨Machine.exec (call c) .empty calls, e,
        (call c (Machine.exec (call c) .empty calls) e).2⟩] := by
  rw [Machine.trace_append]
  rfl

/-- The packets of a flow are observed packets, in their order. -/
theorem assigned_sublist (c : FlowParams) (k : FiveTuple) (calls : List FlowCall) :
    (assigned c k (Machine.trace (call (F := F) c) .empty calls)).Sublist (observations calls) := by
  induction calls using List.reverseRecOn with
  | nil => exact List.Sublist.refl _
  | append_singleton calls e ih =>
    rw [trace_snoc, assigned_snoc, observations, List.filterMap_append]
    have hone : [e].filterMap FlowCall.observation? = e.observation?.toList := by
      cases h : e.observation? <;> simp [h]
    rw [hone]
    exact assign_sublist ih _

/-- A flow that stays stored keeps its origin. -/
theorem call_origin (hok : m.Ok) {e : FlowCall} {flow flow' : Flow F}
    (hbefore : m.flows.lookup k = some flow)
    (hafter : (m.call c e).1.flows.lookup k = some flow') : flow'.origin = flow.origin := by
  have hsame : m.flows.lookup k = some flow' → flow'.origin = flow.origin := by
    intro hlookup
    rw [hbefore] at hlookup
    cases hlookup
    rfl
  cases e with
  | observe packet direction now =>
    by_cases hd : direction = .unknown
    · apply hsame
      simpa [call, observePacket, hd] using hafter
    rcases observePacket_lookup hok hd hafter with hlookup | ⟨old, hlookup, rfl⟩ | ⟨rfl, hfree, -, -⟩
    · exact hsame hlookup
    · rw [hbefore] at hlookup
      cases hlookup
      rfl
    · exact absurd (Table.mem_of_lookup hbefore) hfree
  | extract key => exact hsame (extractCompleted_lookup hafter)
  | discard ip => exact hsame ((discardSourceFlows_lookup hok).mp hafter).1
  | cleanup now => exact hsame (cleanupExpired_lookup hafter)

/-- **The statistics of a flow are exact.** In any run, every stored flow and every returned flow
has the statistics of the packets assigned to it since it was opened, and the origin of a stored
flow does not change. -/
theorem flow_statistics (c : FlowParams) (calls : List FlowCall) :
    (∀ k flow, (Machine.exec (call (F := F) c) .empty calls).flows.lookup k = some flow →
      flow.key = k ∧ flow.Exact (assigned (F := F) c k (Machine.trace (call c) .empty calls))) ∧
    ∀ before e after, calls = before ++ e :: after →
      let m : FlowManager F := Machine.exec (call c) .empty before
      (∀ ended ∈ (m.call c e).2.endedFlows,
        ended.flow.Exact
          (assigned (F := F) c ended.flow.key (Machine.trace (call c) .empty before))) ∧
      ∀ k flow flow', m.flows.lookup k = some flow →
        (m.call c e).1.flows.lookup k = some flow' → flow'.origin = flow.origin := by
  refine ⟨fun k flow hflow => ?_, fun before e after hcalls => ⟨fun ended hended => ?_, ?_⟩⟩
  · have ha := attributed_trace (F := F) c calls
    exact ⟨TableOk.key_eq ha.ok k flow hflow, (ha.made k flow hflow).exact⟩
  · have ha := attributed_trace (F := F) c before
    exact (ha.made _ _ (ended_stored ha.ok hended).1).exact
  · intro k flow flow' hbefore hafter
    exact call_origin (attributed_trace c before).ok hbefore hafter

end FlowManager

end InlineIps
