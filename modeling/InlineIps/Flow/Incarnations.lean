import InlineIps.Flow.History

/-!
# Where the packets go

A flow that is stored, returned or discarded is an incarnation of a conversation: the
packets it was made of, from its opening to its end. A packet is accepted when
`update_flow` records it in a flow.

* `Placed`: the accepted packets are split among the incarnations that are stored, were
  returned, and were discarded.
* `placed_call`: every call keeps such a split.
* `packets_placed`: after any calls there is one.
-/

namespace InlineIps

open Library

/-- The packets of a flow, by their total length. -/
def Flow.lengthCount {F : Type} (flow : Flow F) : Nat :=
  flow.forward.packetLen.count + flow.backward.packetLen.count

section Replay

variable {F : Type} [DoubleOps F]

theorem Flow.lengthCount_record (flow : Flow F) (isForward : Bool) (packet : ParsedPacket)
    (now : TimePoint) : (flow.record isForward packet now).lengthCount = flow.lengthCount + 1 := by
  cases isForward <;>
    simp [lengthCount, record, DirectionStats.record, RunningStats.add] <;> omega

theorem Flow.lengthCount_replay (first : Observation) (rest : List Observation) :
    (Flow.replay first rest : Flow F).lengthCount = (first :: rest).length := by
  induction rest using List.reverseRecOn with
  | nil => exact Flow.lengthCount_record _ _ _ _
  | append_singleton rest o ih =>
    rw [Flow.replay_snoc, Flow.observe, Flow.lengthCount_record, ih]
    simp

end Replay

namespace FlowManager

variable {F : Type}

/-! ## Accepted packets and removed flows -/

/-- A call of a run with its result. -/
abbrev FlowTaken (F : Type) := Machine.Taken (FlowManager F) FlowCall (FlowResult F)

/-- A packet with the position of its call. -/
abbrev Placement := Nat × Observation

def FlowResult.endedFlows : FlowResult F → List (EndedFlow F)
  | .stats _ => []
  | .ended flows => flows

/-- The flows that a call of `discard_source_flows` removes. -/
def discardedFlows (m : FlowManager F) : FlowCall → List (Flow F)
  | .discard ip =>
    (m.flows.entries.filter fun e => e.1 ∉ (m.discardSourceFlows ip).flows).map Sigma.snd
  | _ => []

/-- The flows returned in a history, in order. -/
def returnedBy (h : List (FlowTaken F)) : List (EndedFlow F) :=
  h.flatMap fun x => x.output.endedFlows

/-- The flows discarded in a history, in order. -/
def discardedBy (h : List (FlowTaken F)) : List (Flow F) :=
  h.flatMap fun x => discardedFlows x.before x.event

theorem returnedBy_snoc (h : List (FlowTaken F)) (x : FlowTaken F) :
    returnedBy (h ++ [x]) = returnedBy h ++ x.output.endedFlows := by
  simp [returnedBy]

theorem discardedBy_snoc (h : List (FlowTaken F)) (x : FlowTaken F) :
    discardedBy (h ++ [x]) = discardedBy h ++ discardedFlows x.before x.event := by
  simp [discardedBy]

section Accepted

variable [DoubleOps F]

/-- The packet of a call, when `update_flow` records it in a flow. -/
def accepted? (c : FlowParams) (m : FlowManager F) : FlowCall → Option Observation
  | .observe packet direction now =>
    if direction ≠ .unknown ∧ (m.updateFlow c packet direction now).2.isSome then
      some ⟨packet, direction, now⟩
    else none
  | _ => none

/-- The accepted packets of a history, in order. -/
def acceptedBy (c : FlowParams) (h : List (FlowTaken F)) : List Placement :=
  Machine.positionsOf (fun x => accepted? c x.before x.event) h

end Accepted

/-! ## Incarnations -/

section Incarnations

variable [DoubleOps F]

/-- The flow is made of these accepted packets, in their order. -/
structure MadeOf (accepted : List Placement) (flow : Flow F) (members : List Placement) : Prop where
  sublist : members.Sublist accepted
  replay : ∃ first rest, members.map Prod.snd = first :: rest ∧ flow = Flow.replay first rest

variable {accepted : List Placement} {flow : Flow F} {members : List Placement}

theorem MadeOf.mono (h : MadeOf accepted flow members) (later : List Placement) :
    MadeOf (accepted ++ later) flow members :=
  ⟨h.sublist.trans (List.sublist_append_left _ _), h.replay⟩

theorem MadeOf.lengthCount (h : MadeOf accepted flow members) :
    flow.lengthCount = members.length := by
  obtain ⟨first, rest, hmembers, rfl⟩ := h.replay
  rw [Flow.lengthCount_replay, ← hmembers, List.length_map]

theorem MadeOf.observe (h : MadeOf accepted flow members) (x : Placement) :
    MadeOf (accepted ++ [x]) (flow.observe x.2) (members ++ [x]) where
  sublist := h.sublist.append (List.Sublist.refl _)
  replay := by
    obtain ⟨first, rest, hmembers, rfl⟩ := h.replay
    refine ⟨first, rest ++ [x.2], ?_, ?_⟩
    · rw [List.map_append, hmembers]
      rfl
    · rw [Flow.replay_snoc]

theorem madeOf_begin (accepted : List Placement) (x : Placement) :
    MadeOf (F := F) (accepted ++ [x]) (Flow.begin x.2) [x] :=
  ⟨List.sublist_append_right _ _, x.2, [], rfl, rfl⟩

/-- The accepted packets are split among the stored flows, the returned and the discarded
ones. -/
structure Placed (flows : Table FiveTuple (Flow F)) (returned : List (EndedFlow F))
    (discarded : List (Flow F)) (accepted : List Placement) (live : FiveTuple → List Placement)
    (gone lost : List (List Placement)) : Prop where
  stored : ∀ k flow, flows.lookup k = some flow → MadeOf accepted flow (live k)
  returned : List.Forall₂ (fun ended members => MadeOf accepted ended.flow members) returned gone
  discarded : List.Forall₂ (MadeOf accepted) discarded lost
  split : (Table.gather live flows ++ (gone.flatten ++ lost.flatten)).Perm accepted

variable {flows : Table FiveTuple (Flow F)} {returned : List (EndedFlow F)}
  {discarded : List (Flow F)} {live : FiveTuple → List Placement} {gone lost : List (List Placement)}

theorem placed_empty : Placed (F := F) ∅ [] [] [] (fun _ => []) [] [] where
  stored := by simp
  returned := .nil
  discarded := .nil
  split := .nil

/-- A packet is recorded in the flow stored at `k`, or opens one there. -/
theorem Placed.record (h : Placed flows returned discarded accepted live gone lost)
    {k : FiveTuple} {flow' : Flow F} (x : Placement)
    (hflow : (∃ old, flows.lookup k = some old ∧ flow' = old.observe x.2) ∨
      flows.lookup k = none ∧ flow' = Flow.begin x.2) :
    ∃ live', Placed (flows.assign k flow') returned discarded (accepted ++ [x]) live' gone
      lost := by
  -- the packets of the flow at `k` before this one
  obtain ⟨before, hbefore, hgather⟩ : ∃ before,
      MadeOf (accepted ++ [x]) flow' (before ++ [x]) ∧
        (Table.gather live flows).Perm (before ++ Table.gather live (AList.erase k flows)) := by
    rcases hflow with ⟨old, hold, rfl⟩ | ⟨hnone, rfl⟩
    · exact ⟨live k, (h.stored k old hold).observe x, Table.gather_erase live hold⟩
    · exact ⟨[], madeOf_begin accepted x, Table.gather_erase_of_none live hnone⟩
  refine ⟨Function.update live k (before ++ [x]), ?_, ?_, ?_, ?_⟩
  · intro k' flow hlookup
    rw [Table.lookup_assign] at hlookup
    split at hlookup
    · rename_i hk
      subst hk
      cases hlookup
      simpa using hbefore
    · rename_i hk
      rw [Function.update_of_ne hk]
      exact (h.stored k' flow hlookup).mono [x]
  · exact h.returned.imp fun _ _ hmade => hmade.mono [x]
  · exact h.discarded.imp fun _ _ hmade => hmade.mono [x]
  · have hassign := Table.gather_assign (Function.update live k (before ++ [x])) flows k flow'
    have hrest : Table.gather (Function.update live k (before ++ [x])) (AList.erase k flows) =
        Table.gather live (AList.erase k flows) :=
      Table.gather_congr fun k' hk' => Function.update_of_ne (AList.mem_erase.mp hk').1 _ _
    rw [Function.update_self, hrest] at hassign
    refine List.perm_iff_count.mpr fun y => ?_
    have hsplit := h.split.count_eq y
    have hold := hgather.count_eq y
    have hnew := hassign.count_eq y
    simp only [List.count_append] at hsplit hold hnew ⊢
    omega

/-- The flow stored at `k` is returned. -/
theorem Placed.take (h : Placed flows returned discarded accepted live gone lost)
    {k : FiveTuple} {flow : Flow F} (hlookup : flows.lookup k = some flow)
    (reason : FlowEndReason) :
    Placed (AList.erase k flows) (returned ++ [⟨flow, reason⟩]) discarded accepted live
      (gone ++ [live k]) lost where
  stored k' flow' hlookup' := h.stored k' flow' (Table.lookup_erase_eq_some.mp hlookup').2
  returned := List.rel_append h.returned (.cons (h.stored k flow hlookup) .nil)
  discarded := h.discarded
  split := by
    refine List.perm_iff_count.mpr fun y => ?_
    have hsplit := h.split.count_eq y
    have hold := (Table.gather_erase live hlookup).count_eq y
    simp only [List.flatten_append, List.flatten_singleton, List.count_append] at hsplit hold ⊢
    omega

/-- The flows that fail a test are discarded. -/
theorem Placed.filter (h : Placed flows returned discarded accepted live gone lost)
    (p : FiveTuple → Flow F → Bool) :
    ∃ lost', Placed (flows.filter p) returned
      (discarded ++ (flows.entries.filter fun e => !p e.1 e.2).map Sigma.snd) accepted live gone
      lost' := by
  refine ⟨lost ++ (flows.entries.filter fun e => !p e.1 e.2).map fun e => live e.1, ?_, h.returned,
    ?_, ?_⟩
  · exact fun k flow hlookup => h.stored k flow (Table.lookup_filter_eq_some.mp hlookup).1
  · refine List.rel_append h.discarded ?_
    rw [List.forall₂_map_left_iff, List.forall₂_map_right_iff, List.forall₂_same]
    intro e he
    exact h.stored e.1 e.2 (Table.lookup_eq_some_iff.mpr (List.mem_filter.mp he).1)
  · refine List.perm_iff_count.mpr fun y => ?_
    have hsplit := h.split.count_eq y
    have hold := (Table.gather_filter live p flows).count_eq y
    simp only [List.flatten_append, List.count_append, List.flatMap_def] at hsplit hold ⊢
    omega

end Incarnations

/-! ## Calls -/

section Calls

variable [DoubleOps F] {c : FlowParams} {m : FlowManager F} {returned : List (EndedFlow F)}
  {discarded : List (Flow F)} {accepted : List Placement} {live : FiveTuple → List Placement}
  {gone lost : List (List Placement)}

/-- An accepted packet is recorded in a stored flow of its conversation or opens one. -/
theorem updateFlow_accepted (h : m.Ok) (packet : ParsedPacket) (direction : PacketDirection)
    (now : TimePoint) :
    (∃ k flow' isForward, flow'.key = k ∧
      (k = packet.tuple ∧ isForward = true ∨
        k = packet.tuple.reversed ∧ isForward = false ∧ packet.tuple ∉ m.flows) ∧
      (m.updateFlow c packet direction now).1.flows = m.flows.assign k flow' ∧
      (m.updateFlow c packet direction now).2 = some ⟨flow', isForward⟩ ∧
      ((∃ old, m.flows.lookup k = some old ∧ flow' = old.observe ⟨packet, direction, now⟩) ∨
        m.flows.lookup k = none ∧ flow' = Flow.begin ⟨packet, direction, now⟩)) ∨
    (m.updateFlow c packet direction now) = (m, none) := by
  rcases updateFlow_cases c m packet direction now with
    ⟨flow, hf, hu⟩ | ⟨flow, hn, hr, hu⟩ | ⟨hn, -, -, hu⟩ | ⟨-, -, -, hu⟩ <;> rw [hu]
  · have hkey : flow.key = packet.tuple := TableOk.key_eq h _ flow hf
    refine .inl ⟨packet.tuple, flow.record true packet now, true, hkey, .inl ⟨rfl, rfl⟩, rfl, rfl,
      .inl ⟨flow, hf, ?_⟩⟩
    simp [Flow.observe, hkey]
  · have hkey : flow.key = packet.tuple.reversed := TableOk.key_eq h _ flow hr
    refine .inl ⟨packet.tuple.reversed, flow.record false packet now, false, hkey,
      .inr ⟨rfl, rfl, AList.lookup_eq_none.mp hn⟩, rfl, rfl, .inl ⟨flow, hr, ?_⟩⟩
    have hne : packet.tuple ≠ packet.tuple.reversed := by
      intro hsame
      rw [← hsame, hn] at hr
      cases hr
    simp [Flow.observe, hkey, hne]
  · exact .inl ⟨packet.tuple, _, true, rfl, .inl ⟨rfl, rfl⟩, rfl, rfl, .inr ⟨hn, rfl⟩⟩
  · exact .inr rfl

/-- What a history leaves behind, split among incarnations. -/
def PlacedAfter (c : FlowParams) (m : FlowManager F) (h : List (FlowTaken F)) : Prop :=
  m.Ok ∧ ∃ live gone lost,
    Placed m.flows (returnedBy h) (discardedBy h) (acceptedBy c h) live gone lost

theorem placed_observe (hok : m.Ok)
    (h : Placed m.flows returned discarded accepted live gone lost) (n : Nat)
    (packet : ParsedPacket) (direction : PacketDirection) (now : TimePoint) :
    ∃ live', Placed (m.observePacket c packet direction now).1.flows returned discarded
      (accepted ++ ((accepted? c m (.observe packet direction now)).map (n, ·)).toList) live' gone
        lost := by
  by_cases hd : direction = .unknown
  · exact ⟨live, by simpa [observePacket, accepted?, hd] using h⟩
  · rw [(observePacket_flows c m packet hd now).1]
    rcases updateFlow_accepted (c := c) hok packet direction now with
      ⟨k, flow', isForward, -, -, hflows, hsome, hflow⟩ | hnone
    · have haccepted : accepted? c m (.observe packet direction now) =
          some ⟨packet, direction, now⟩ := if_pos ⟨hd, by rw [hsome]; rfl⟩
      rw [hflows, haccepted]
      exact h.record (n, ⟨packet, direction, now⟩) hflow
    · have haccepted : accepted? c m (.observe packet direction now) = none := by
        simp [accepted?, hnone]
      rw [haccepted, hnone]
      exact ⟨live, by simpa using h⟩

theorem placed_extract (h : Placed m.flows returned discarded accepted live gone lost)
    (key : FiveTuple) :
    ∃ gone', Placed (m.extractCompleted key).1.flows
      (returned ++ (m.extractCompleted key).2.toList) discarded accepted live gone' lost := by
  rcases extractCompleted_cases m key with ⟨k, flow, reason, -, hlookup, -, he⟩ | ⟨-, he⟩ <;> rw [he]
  · exact ⟨_, h.take hlookup reason⟩
  · exact ⟨gone, by simpa using h⟩

omit [DoubleOps F] in
theorem discardSourceFlows_filter (m : FlowManager F) (ip : UInt32) :
    (m.discardSourceFlows ip).flows =
      m.flows.filter fun k _ => decide (k ∉ indexed m.flowKeysBySource ip) := by
  unfold discardSourceFlows
  cases hkeys : m.flowKeysBySource.lookup ip with
  | none => simp [indexed, hkeys, Table.filter]
  | some keys => simp [indexed, hkeys]

omit [DoubleOps F] in
/-- The flows that are discarded are those of the indexed keys. -/
theorem discardedFlows_eq (m : FlowManager F) (ip : UInt32) :
    discardedFlows m (.discard ip) =
      (m.flows.entries.filter fun e => !decide (e.1 ∉ indexed m.flowKeysBySource ip)).map
        Sigma.snd := by
  unfold discardedFlows
  dsimp only
  congr 1
  refine List.filter_congr fun e he => ?_
  have hstays : e.1 ∈ (m.discardSourceFlows ip).flows ↔
      e.1 ∉ indexed m.flowKeysBySource ip := by
    rw [discardSourceFlows_filter, ← AList.lookup_isSome,
      Table.lookup_filter_key fun k => decide (k ∉ indexed m.flowKeysBySource ip)]
    have hsome : m.flows.lookup e.1 = some e.2 := Table.lookup_eq_some_iff.mpr he
    split <;> simp_all
  simp [hstays]

theorem placed_discard (h : Placed m.flows returned discarded accepted live gone lost)
    (ip : UInt32) :
    ∃ lost', Placed (m.discardSourceFlows ip).flows returned
      (discarded ++ discardedFlows m (.discard ip)) accepted live gone lost' := by
  rw [discardSourceFlows_filter, discardedFlows_eq]
  exact h.filter fun k _ => decide (k ∉ indexed m.flowKeysBySource ip)

theorem placed_cleanup (h : Placed m.flows returned discarded accepted live gone lost)
    (now : TimePoint) :
    ∃ gone', Placed (m.cleanupExpired c now).1.flows
      (returned ++ (m.cleanupExpired c now).2) discarded accepted live gone' lost := by
  have hswept := BucketSweep.sweep_induction c.flowBuckets (flowExpired now) expireFlow m.flows
    m.flowCursor (m.flowKeysBySource, [])
    (I := fun flows acc => ∃ gone',
      Placed flows (returned ++ acc.2) discarded accepted live gone' lost)
    ⟨gone, by simpa using h⟩ (by
      rintro flows acc k flow hlookup - ⟨gone', hplaced⟩
      have htaken := hplaced.take hlookup .timeout
      rw [List.append_assoc] at htaken
      exact ⟨_, htaken⟩)
  exact hswept

/-- **Every call keeps the accepted packets split among incarnations.** -/
theorem placed_call {h : List (FlowTaken F)} (hplaced : PlacedAfter c m h) (e : FlowCall) :
    PlacedAfter c (m.call c e).1 (h ++ [⟨m, e, (m.call c e).2⟩]) := by
  obtain ⟨hok, live, gone, lost, hplaced⟩ := hplaced
  refine ⟨ok_call hok e, ?_⟩
  rw [returnedBy_snoc, discardedBy_snoc, acceptedBy, Machine.positionsOf_snoc]
  cases e with
  | observe packet direction now =>
    obtain ⟨live', hnext⟩ := placed_observe (c := c) hok hplaced h.length packet direction now
    rw [← List.append_nil (returnedBy h), ← List.append_nil (discardedBy h)] at hnext
    exact ⟨live', gone, lost, hnext⟩
  | extract key =>
    obtain ⟨gone', hnext⟩ := placed_extract hplaced key
    rw [← List.append_nil (discardedBy h), ← List.append_nil (acceptedBy c h), acceptedBy] at hnext
    exact ⟨live, gone', lost, hnext⟩
  | discard ip =>
    obtain ⟨lost', hnext⟩ := placed_discard hplaced ip
    rw [← List.append_nil (returnedBy h), ← List.append_nil (acceptedBy c h), acceptedBy] at hnext
    exact ⟨live, gone, lost', hnext⟩
  | cleanup now =>
    obtain ⟨gone', hnext⟩ := placed_cleanup (c := c) hplaced now
    rw [← List.append_nil (discardedBy h), ← List.append_nil (acceptedBy c h), acceptedBy] at hnext
    exact ⟨live, gone', lost, hnext⟩

theorem placed_trace (c : FlowParams) (calls : List FlowCall) :
    PlacedAfter (F := F) c (Machine.exec (call c) .empty calls)
      (Machine.trace (call c) .empty calls) :=
  Machine.trace_invariant (h := []) (PlacedAfter c) (fun _ _ e hplaced => placed_call hplaced e)
    ⟨ok_empty, _, _, _, placed_empty⟩

/-- The packets of the stored, the returned and the discarded flows. -/
def packetsHeld (m : FlowManager F) (h : List (FlowTaken F)) : Nat :=
  (m.flows.entries.map fun e => e.2.lengthCount).sum +
    ((returnedBy h).map fun ended => ended.flow.lengthCount).sum +
      ((discardedBy h).map Flow.lengthCount).sum

theorem sum_lengthCount {A : Type} {R : A → List Placement → Prop} (size : A → Nat) {as : List A}
    {members : List (List Placement)} (h : List.Forall₂ R as members)
    (hsize : ∀ a placements, R a placements → size a = placements.length) :
    (as.map size).sum = members.flatten.length := by
  induction h with
  | nil => rfl
  | cons hhead _ ih => simp [hsize _ _ hhead, ih]

theorem Placed.count (h : Placed m.flows returned discarded accepted live gone lost) :
    (m.flows.entries.map fun e => e.2.lengthCount).sum +
      (returned.map fun ended => ended.flow.lengthCount).sum +
        (discarded.map Flow.lengthCount).sum = accepted.length := by
  have hstored : (m.flows.entries.map fun e => e.2.lengthCount).sum =
      (Table.gather live m.flows).length := by
    rw [Table.gather, List.length_flatMap]
    refine congrArg List.sum (List.map_congr_left fun e he => ?_)
    exact (h.stored e.1 e.2 (Table.lookup_eq_some_iff.mpr he)).lengthCount
  have hreturned := sum_lengthCount (fun ended : EndedFlow F => ended.flow.lengthCount)
    h.returned fun _ _ hmade => hmade.lengthCount
  have hdiscarded := sum_lengthCount Flow.lengthCount h.discarded fun _ _ hmade =>
    hmade.lengthCount
  have hall := h.split.length_eq
  rw [List.length_append, List.length_append] at hall
  omega

/-- **No accepted packet is lost or counted twice.** After any calls the accepted packets
are split among the stored, the returned and the discarded flows, each made of its own
packets, and no two of these flows share one. -/
theorem packets_placed (c : FlowParams) (calls : List FlowCall) :
    (∃ live gone lost,
      Placed (F := F) (Machine.exec (call c) .empty calls).flows
        (returnedBy (Machine.trace (call c) .empty calls))
        (discardedBy (Machine.trace (call c) .empty calls))
        (acceptedBy (F := F) c (Machine.trace (call c) .empty calls)) live gone lost ∧
      ((Machine.exec (call (F := F) c) .empty calls).flows.keys.map live ++
        (gone ++ lost)).Pairwise List.Disjoint) ∧
    packetsHeld (Machine.exec (call (F := F) c) .empty calls)
        (Machine.trace (call c) .empty calls) =
      (acceptedBy (F := F) c (Machine.trace (call c) .empty calls)).length := by
  obtain ⟨-, live, gone, lost, hplaced⟩ := placed_trace (F := F) c calls
  refine ⟨⟨live, gone, lost, hplaced, ?_⟩, hplaced.count⟩
  have hnodup := hplaced.split.nodup_iff.mpr (Machine.positionsOf_nodup _ _).of_map
  have hflat : (Table.gather live (Machine.exec (call (F := F) c) .empty calls).flows ++
      (gone.flatten ++ lost.flatten)) =
      ((Machine.exec (call (F := F) c) .empty calls).flows.keys.map live ++
        (gone ++ lost)).flatten := by
    simp [Table.gather, AList.keys, List.keys, List.flatMap_def, Function.comp_def]
  rw [hflat] at hnodup
  exact (List.nodup_flatten.mp hnodup).2

end Calls

end FlowManager

end InlineIps
