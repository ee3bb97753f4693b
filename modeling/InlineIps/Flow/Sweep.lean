import InlineIps.Flow.Incarnations
import InlineIps.Flow.LateCleanup

/-!
# The sweep misses nothing

A cleanup looks at a slice of the buckets. Eleven slices are at least as long as the table, so
eleven cleanups reach every bucket from every position of the cursor, whatever is inserted and
erased in between.

* `ended_stored`: a returned flow was stored, and is no longer.
* `sweep_complete`: a flow whose time is over is returned once, and the statistics of a source
  whose window has ended are removed, within eleven cleanups.
-/

namespace InlineIps.FlowManager

open Library

variable {F : Type}

/-! ## What a cleanup returns -/

/-- The flows that a sweep has returned so far are distinct and no longer stored. -/
structure SweptApart (flows : Table FiveTuple (Flow F)) (returned : List (EndedFlow F)) : Prop where
  key_eq : ∀ k flow, flows.lookup k = some flow → flow.key = k
  gone : ∀ ended ∈ returned, flows.lookup ended.flow.key = none
  distinct : (returned.map fun ended => ended.flow.key).Nodup

section Cleanup

variable {c : FlowParams} {m : FlowManager F} {now : TimePoint}

theorem cleanupExpired_apart (h : m.Ok) (c : FlowParams) (now : TimePoint) :
    SweptApart (m.cleanupExpired c now).1.flows (m.cleanupExpired c now).2 := by
  refine BucketSweep.sweep_induction c.flowBuckets (flowExpired now) expireFlow m.flows
    m.flowCursor (m.flowKeysBySource, []) (I := fun flows acc => SweptApart flows acc.2)
    ⟨TableOk.key_eq h, by simp, List.nodup_nil⟩ ?_
  rintro flows acc k flow hlookup - ⟨hkey, hgone, hdistinct⟩
  obtain rfl := hkey k flow hlookup
  refine ⟨fun k' flow' hlookup' => hkey k' flow' (Table.lookup_erase_eq_some.mp hlookup').2, ?_, ?_⟩
  · intro ended hended
    rw [Table.lookup_erase']
    split
    · rfl
    · rename_i hne
      rcases List.mem_append.mp hended with hmem | hmem
      · exact hgone ended hmem
      · rw [List.mem_singleton.mp hmem] at hne
        exact absurd rfl hne
  · show ((acc.2 ++ [_]).map _).Nodup
    rw [List.map_append, List.nodup_append]
    refine ⟨hdistinct, List.nodup_singleton _, ?_⟩
    rintro key hkey' _ hlast rfl
    obtain ⟨ended, hended, rfl⟩ := List.mem_map.mp hkey'
    rw [List.map_singleton, List.mem_singleton] at hlast
    have hnone := hgone ended hended
    rw [hlast] at hnone
    rw [hnone] at hlookup
    cases hlookup

/-- A cleanup returns flows for one reason. -/
theorem cleanupExpired_reason {ended : EndedFlow F} (hended : ended ∈ (m.cleanupExpired c now).2) :
    ended.reason = .timeout := by
  have hswept := BucketSweep.sweep_induction c.flowBuckets (flowExpired now) expireFlow m.flows
    m.flowCursor (m.flowKeysBySource, [])
    (I := fun _ acc => ∀ ended ∈ acc.2, ended.reason = .timeout) (by simp) (by
      intro _ acc _ flow _ _ hacc ended hended
      rcases List.mem_append.mp hended with hmem | hmem
      · exact hacc ended hmem
      · rw [List.mem_singleton.mp hmem])
  exact hswept ended hended

/-- A flow that is collected is returned. -/
theorem mem_cleanupExpired {k : FiveTuple} {flow : Flow F} (hlookup : m.flows.lookup k = some flow)
    (hdoomed : k ∈ BucketSweep.doomed c.flowBuckets (flowExpired now) m.flows m.flowCursor) :
    (⟨flow, .timeout⟩ : EndedFlow F) ∈ (m.cleanupExpired c now).2 := by
  refine BucketSweep.removeAll_of_mem expireFlow
    (fun acc => (⟨flow, .timeout⟩ : EndedFlow F) ∈ acc.2) (fun acc => ?_) (fun flow' acc hacc => ?_)
    hdoomed hlookup
  · exact List.mem_append_right _ List.mem_cons_self
  · exact List.mem_append_left _ hacc

end Cleanup

/-! ## What a call returns -/

section Calls

variable [DoubleOps F] {c : FlowParams} {m : FlowManager F} {k : FiveTuple} {flow : Flow F}

/-- A returned flow was stored, and is no longer. -/
theorem ended_stored (h : m.Ok) {e : FlowCall} {ended : EndedFlow F}
    (hended : ended ∈ (m.call c e).2.endedFlows) :
    m.flows.lookup ended.flow.key = some ended.flow ∧
      (m.call c e).1.flows.lookup ended.flow.key = none := by
  cases e with
  | observe packet direction now => cases hended
  | discard ip => cases hended
  | extract key =>
    change ended ∈ (m.extractCompleted key).2.toList at hended
    change _ ∧ (m.extractCompleted key).1.flows.lookup _ = none
    rcases extractCompleted_cases m key with ⟨k, flow, reason, -, hlookup, -, he⟩ | ⟨-, he⟩ <;>
      rw [he] at hended ⊢
    · rw [Option.toList_some, List.mem_singleton] at hended
      subst hended
      obtain rfl := TableOk.key_eq h k flow hlookup
      exact ⟨hlookup, by simp [takeFlow]⟩
    · cases hended
  | cleanup now =>
    obtain ⟨k, hlookup⟩ := (cleanupExpired_ended hended).1
    obtain rfl := TableOk.key_eq h k _ hlookup
    exact ⟨hlookup, (cleanupExpired_apart h c now).gone ended hended⟩

/-- A flow that is stored before and after a call is not returned by it. -/
theorem not_ended_of_stays (h : m.Ok) {e : FlowCall}
    (hafter : (m.call c e).1.flows.lookup k = some flow) :
    ∀ ended ∈ (m.call c e).2.endedFlows, ended.flow.key ≠ k := by
  rintro ended hended rfl
  rw [(ended_stored h hended).2] at hafter
  cases hafter

/-- A flow that a call stores was stored before, or has its last packet from the call. -/
theorem lookup_call (h : m.Ok) (e : FlowCall) {t : TimePoint} (hreads : ∀ now ∈ e.reads, t ≤ now)
    (hlookup : (m.call c e).1.flows.lookup k = some flow) :
    m.flows.lookup k = some flow ∨ t ≤ flow.lastSeen := by
  cases e with
  | observe packet direction now =>
    change (m.observePacket c packet direction now).1.flows.lookup k = some flow at hlookup
    by_cases hd : direction = .unknown
    · rw [observePacket, if_pos hd] at hlookup
      exact .inl hlookup
    · have hnow : t ≤ now := hreads now List.mem_cons_self
      rcases observePacket_lookup h hd hlookup with hsame | ⟨old, -, rfl⟩ | ⟨-, -, -, rfl⟩
      · exact .inl hsame
      · exact .inr hnow
      · exact .inr hnow
  | extract key => exact .inl (extractCompleted_lookup hlookup)
  | discard ip => exact .inl ((discardSourceFlows_lookup h).mp hlookup).1
  | cleanup now => exact .inl (cleanupExpired_lookup hlookup)

/-- The flows stored at `k` have their last packet from `t` on, and so have those returned. -/
structure Renewed (k : FiveTuple) (t clock : TimePoint) (m : FlowManager F)
    (returned : List (EndedFlow F)) : Prop where
  ok : m.Ok
  past : t ≤ clock
  stored : ∀ flow, m.flows.lookup k = some flow → t ≤ flow.lastSeen
  returned : ∀ ended ∈ returned, ended.flow.key = k → t ≤ ended.flow.lastSeen

theorem Renewed.next {t clock : TimePoint} {returned : List (EndedFlow F)}
    (h : Renewed k t clock m returned) (e : FlowCall)
    (hreads : (clock :: e.reads).Pairwise (· ≤ ·)) :
    Renewed k t (e.reads.getLastD clock) (m.call c e).1
      (returned ++ (m.call c e).2.endedFlows) where
  ok := ok_call h.ok e
  past := h.past.trans (Machine.le_getLastD hreads clock List.mem_cons_self)
  stored flow hlookup := by
    have htimes := (List.pairwise_cons.mp hreads).1
    rcases lookup_call h.ok e (fun now hnow => h.past.trans (htimes now hnow)) hlookup with
      hsame | hlast
    · exact h.stored flow hsame
    · exact hlast
  returned ended hended hkey := by
    rcases List.mem_append.mp hended with hmem | hmem
    · exact h.returned ended hmem hkey
    · subst hkey
      exact h.stored _ (ended_stored h.ok hmem).1

theorem Renewed.run {t clock : TimePoint} (h : Renewed k t clock m []) {calls : List FlowCall}
    (hc : Machine.Chronological FlowCall.reads clock calls) :
    ∀ ended ∈ returnedBy (Machine.trace (call c) m calls), ended.flow.key = k →
      t ≤ ended.flow.lastSeen := by
  have hrun := Machine.invariant_of_step (call c) FlowCall.reads (fun _ _ => True)
    (fun clock m h => Renewed k t clock m (returnedBy h)) (h := []) ?_ h
    (Machine.along_true _ _) hc
  · exact hrun.returned
  intro clock m taken e hrenewed _ hreads
  rw [returnedBy_snoc]
  exact hrenewed.next e hreads

/-! ## Eleven cleanups -/

/-- Only cleanups move the cursors. -/
theorem call_cursors {e : FlowCall} (he : e.isCleanup = false) :
    (m.call c e).1.flowCursor = m.flowCursor ∧ (m.call c e).1.sourceCursor = m.sourceCursor := by
  cases e with
  | observe packet direction now => exact observePacket_cursors c m packet direction now
  | extract key =>
    change (m.extractCompleted key).1.flowCursor = _ ∧ (m.extractCompleted key).1.sourceCursor = _
    rcases extractCompleted_cases m key with ⟨k, flow, reason, -, -, -, he⟩ | ⟨-, he⟩ <;> rw [he] <;>
      exact ⟨rfl, rfl⟩
  | discard ip => exact discardSourceFlows_cursors m ip
  | cleanup now => cases he

/-- No call but a cleanup changes what is stored at the key or removes it. -/
def LeftAlone {K V : Type} [DecidableEq K] (c : FlowParams) (table : FlowManager F → Table K V)
    (k : K) (v : V) (m : FlowManager F) (e : FlowCall) : Prop :=
  e.isCleanup = false → (table m).lookup k = some v → (table (m.call c e).1).lookup k = some v

section Collected

variable {K V : Type} [DecidableEq K] {b : Buckets K} {table : FlowManager F → Table K V}
  {cursorOf : FlowManager F → Nat} {test : TimePoint → V → Bool} {calls : List FlowCall} {key : K}
  {v : V}

/-- What a call sweeps with. -/
def sweepTest (test : TimePoint → V → Bool) : FlowCall → Option (V → Bool)
  | .cleanup now => some (test now)
  | _ => none

variable (b table cursorOf test) in
/-- An entry whose time is over is collected by one of eleven cleanups, if it is left alone. -/
theorem collected
    (hsweep : ∀ m now, (∀ k, (table (m.cleanupExpired c now).1).lookup k =
      if k ∈ BucketSweep.doomed b (test now) (table m) (cursorOf m) then none
      else (table m).lookup k) ∧
      cursorOf (m.cleanupExpired c now).1 = (cursorOf m + BucketSweep.quota b) % b.count)
    (hcursor : ∀ m e, e.isCleanup = false → cursorOf (m.call c e).1 = cursorOf m)
    (hlookup : (table m).lookup key = some v)
    (hexpired : ∀ now, .cleanup now ∈ calls → test now v = true)
    (halone : Machine.Along (call c) (LeftAlone c table key v) m calls)
    (hcleanups : calls.countP FlowCall.isCleanup = 11) :
    ∃ calls₁ now calls₂, calls = calls₁ ++ .cleanup now :: calls₂ ∧
      (∀ calls', calls' <+: calls₁ →
        (table (Machine.exec (call c) m calls')).lookup key = some v) ∧
      key ∈ BucketSweep.doomed b (test now) (table (Machine.exec (call c) m calls₁))
        (cursorOf (Machine.exec (call c) m calls₁)) := by
  have hnone : ∀ e, sweepTest test e = none → e.isCleanup = false := by
    rintro (_ | _ | _ | _) he
    · rfl
    · rfl
    · rfl
    · cases he
  have hsome : (fun e => (sweepTest test e).isSome) = FlowCall.isCleanup := by
    funext e
    cases e <;> rfl
  obtain ⟨calls₁, e, calls₂, test', hsplit, htest, hprefix, hdoomed⟩ :=
    BucketSweep.swept_within b (call c) table cursorOf (sweepTest test)
      (fun m e test' htest => by
        cases e with
        | cleanup now =>
          cases htest
          exact hsweep m now
        | _ => cases htest)
      (fun m e he => hcursor m e (hnone e he)) hlookup
      (fun e he test' htest => by
        cases e with
        | cleanup now =>
          cases htest
          exact hexpired now he
        | _ => cases htest)
      (Machine.along_mono (fun m e hleft he => hleft (hnone e he)) halone)
      (by rw [hsome, hcleanups])
  cases e with
  | cleanup now =>
    cases htest
    exact ⟨calls₁, now, calls₂, hsplit, hprefix, hdoomed⟩
  | _ => cases htest

end Collected

variable {calls : List FlowCall} {start T : TimePoint}

omit [DoubleOps F] in
theorem returnedBy_append (h h' : List (FlowTaken F)) :
    returnedBy (h ++ h') = returnedBy h ++ returnedBy h' :=
  List.flatMap_append

/-- While the flow stays stored, it is not returned. -/
theorem not_returned_of_stays (h : m.Ok)
    (hstays : ∀ calls', calls' <+: calls →
      (Machine.exec (call c) m calls').flows.lookup k = some flow) :
    ∀ ended ∈ returnedBy (Machine.trace (call c) m calls), ended.flow.key ≠ k := by
  intro ended hended
  obtain ⟨x, hx, hout⟩ := List.mem_flatMap.mp hended
  obtain ⟨before, e, after, rfl, rfl⟩ := Machine.mem_trace_iff.mp hx
  have hafter := hstays (before ++ [e]) ⟨after, by simp⟩
  rw [Machine.exec_append] at hafter
  exact not_ended_of_stays (ok_exec h before) hafter ended hout

/-- A flow whose time is over is returned by one of eleven cleanups and by no other call, if it
is left alone. -/
theorem flow_swept (h : m.Ok) (hc : Machine.Chronological FlowCall.reads start calls)
    (hT : ∀ now, .cleanup now ∈ calls → T ≤ now) (hcleanups : calls.countP FlowCall.isCleanup = 11)
    (hlookup : m.flows.lookup k = some flow) (hexpired : flowExpired T flow = true)
    (halone : Machine.Along (call c) (LeftAlone c flows k flow) m calls) :
    ∃ before after, returnedBy (Machine.trace (call c) m calls) =
        before ++ ⟨flow, .timeout⟩ :: after ∧
      ∀ ended ∈ before ++ after, ended.flow ≠ flow := by
  obtain ⟨calls₁, now, calls₂, rfl, hprefix, hdoomed⟩ :=
    collected c.flowBuckets flows flowCursor flowExpired
      (fun m now => ⟨fun k => BucketSweep.lookup_sweep k, rfl⟩)
      (fun m e he => (call_cursors he).1) hlookup
      (fun now hnow => flowExpired_mono (hT now hnow) hexpired) halone hcleanups
  have hok := ok_exec (c := c) h calls₁
  have hstored := hprefix calls₁ List.prefix_rfl
  have hkey : flow.key = k := TableOk.key_eq h k flow hlookup
  generalize hm₁ : Machine.exec (call c) m calls₁ = m₁ at hok hstored hdoomed
  have hapart := cleanupExpired_apart hok c now
  obtain ⟨l, r, hsplit⟩ := List.append_of_mem (mem_cleanupExpired hstored hdoomed)
  -- the same cleanup returns no other flow with that key
  have hothers : ∀ ended ∈ l ++ r, ended.flow.key ≠ k := by
    have hdistinct := hapart.distinct
    rw [hsplit, List.map_append, List.map_cons, List.nodup_middle, ← List.map_append,
      List.nodup_cons] at hdistinct
    intro ended hended heq
    exact hdistinct.1 (List.mem_map.mpr ⟨ended, hended, heq.trans hkey.symm⟩)
  -- a flow stored at the key behind the cleanup has a later last packet
  have hlater : ∀ ended ∈ returnedBy (Machine.trace (call c) (m₁.cleanupExpired c now).1 calls₂),
      ended.flow.key = k → now ≤ ended.flow.lastSeen := by
    have hnone : (m₁.cleanupExpired c now).1.flows.lookup k = none := by
      rw [← hkey]
      exact hapart.gone ⟨flow, .timeout⟩ (by simp [hsplit])
    have hrenewed : Renewed k now now (m₁.cleanupExpired c now).1 [] := by
      refine ⟨ok_cleanupExpired hok, le_refl _, fun flow' hlookup' => ?_, by simp⟩
      rw [hnone] at hlookup'
      cases hlookup'
    have hrest := (Machine.chronological_append.mp hc).2
    exact hrenewed.run (Machine.chronological_cons.mp hrest).2
  have hfirst := not_returned_of_stays h hprefix
  refine ⟨returnedBy (Machine.trace (call c) m calls₁) ++ l,
    r ++ returnedBy (Machine.trace (call c) (m₁.cleanupExpired c now).1 calls₂), ?_, ?_⟩
  · rw [Machine.trace_append, Machine.trace_cons, hm₁, returnedBy_append]
    show _ ++ ((m₁.cleanupExpired c now).2 ++ returnedBy _) = _
    rw [hsplit]
    simp only [List.append_assoc, List.cons_append]
    rfl
  · rintro ended hended rfl
    simp only [List.mem_append] at hended
    rcases hended with (hmem | hmem) | hmem | hmem
    · exact hfirst ended hmem hkey
    · exact hothers ended (List.mem_append_left _ hmem) hkey
    · exact hothers ended (List.mem_append_right _ hmem) hkey
    · have hlast : (0 : Int) ≤ ended.flow.lastSeen - T :=
        Int.sub_nonneg_of_le ((hT now (by simp)).trans (hlater ended hmem hkey))
      have hbefore : seconds flowTimeoutSec ≤ T - ended.flow.lastSeen := of_decide_eq_true hexpired
      unfold seconds flowTimeoutSec at hbefore
      omega

/-- The statistics of a source whose window has ended are removed by one of eleven cleanups, if
they are left alone. -/
theorem source_swept {ip : UInt32} {stats : SourceStats}
    (hT : ∀ now, .cleanup now ∈ calls → T ≤ now) (hcleanups : calls.countP FlowCall.isCleanup = 11)
    (hlookup : m.sourceStats.lookup ip = some stats) (hended : windowEnded c T stats = true)
    (halone : Machine.Along (call c) (LeftAlone c sourceStats ip stats) m calls) :
    ∃ before now after, calls = before ++ .cleanup now :: after ∧
      (Machine.exec (call c) m (before ++ [.cleanup now])).sourceStats.lookup ip = none := by
  obtain ⟨calls₁, now, calls₂, hsplit, -, hdoomed⟩ :=
    collected c.sourceBuckets sourceStats sourceCursor (windowEnded c)
      (fun m now => ⟨fun k => BucketSweep.lookup_sweep k, rfl⟩)
      (fun m e he => (call_cursors he).2) hlookup
      (fun now hnow => windowEnded_mono (hT now hnow) hended) halone hcleanups
  refine ⟨calls₁, now, calls₂, hsplit, ?_⟩
  rw [Machine.exec_append]
  exact (BucketSweep.lookup_sweep ip).trans (if_pos hdoomed)

/-- **The sweep misses nothing.** In any state that calls have led to, a flow that has had no
packet for the timeout is returned once within eleven cleanups, the statistics of a source whose
window has ended are removed within eleven cleanups, and no cleanup returns another flow. -/
theorem sweep_complete (c : FlowParams) (start T : TimePoint) (before calls : List FlowCall)
    (hc : Machine.Chronological FlowCall.reads start (before ++ calls))
    (hT : ∀ now, .cleanup now ∈ calls → T ≤ now)
    (hcleanups : calls.countP FlowCall.isCleanup = 11) :
    let m : FlowManager F := Machine.exec (call c) .empty before
    (∀ k flow, m.flows.lookup k = some flow → seconds flowTimeoutSec ≤ T - flow.lastSeen →
      Machine.Along (call c) (LeftAlone c flows k flow) m calls →
      ∃ l r, returnedBy (Machine.trace (call c) m calls) = l ++ ⟨flow, .timeout⟩ :: r ∧
        ∀ ended ∈ l ++ r, ended.flow ≠ flow) ∧
    (∀ ip stats, m.sourceStats.lookup ip = some stats →
      seconds c.windowSeconds ≤ T - stats.windowStart →
      Machine.Along (call c) (LeftAlone c sourceStats ip stats) m calls →
      ∃ calls₁ now calls₂, calls = calls₁ ++ .cleanup now :: calls₂ ∧
        (Machine.exec (call c) m (calls₁ ++ [.cleanup now])).sourceStats.lookup ip = none) ∧
    ∀ now, ∀ ended ∈ (m.cleanupExpired c now).2, ended.reason = .timeout ∧
      seconds flowTimeoutSec ≤ now - ended.flow.lastSeen := by
  have hok := ok_exec (F := F) (c := c) ok_empty before
  have hrest := (Machine.chronological_append.mp hc).2
  refine ⟨fun k flow hlookup hexpired halone => ?_, fun ip stats hlookup hended halone => ?_,
    fun now ended hended => ?_⟩
  · exact flow_swept hok hrest hT hcleanups hlookup (decide_eq_true hexpired) halone
  · exact source_swept hT hcleanups hlookup (decide_eq_true hended) halone
  · exact ⟨cleanupExpired_reason hended, of_decide_eq_true (cleanupExpired_ended hended).2⟩

/-- A packet of another conversation leaves a flow alone. -/
theorem leftAlone_observe (h : m.Ok) {packet : ParsedPacket} {direction : PacketDirection}
    {now : TimePoint} {k : FiveTuple} {flow : Flow F} (hother : ¬ SameConversation packet.tuple k) :
    LeftAlone c flows k flow m (.observe packet direction now) := by
  intro _ hlookup
  show (m.observePacket c packet direction now).1.flows.lookup k = some flow
  by_cases hdirection : direction = .unknown
  · unfold observePacket
    rw [if_pos hdirection]
    exact hlookup
  · have hkey := TableOk.key_eq h k flow hlookup
    have hfound : (m.observePacket c packet direction now).1.getFlow k = some flow := by
      rw [getFlow_observePacket h hdirection, if_neg hother]
      exact getFlow_of_lookup h hlookup (.refl k)
    have hstored := (lookup_of_getFlow (ok_observePacket h) hfound).2
    rwa [hkey] at hstored

end Calls

/-- A manager with room for a thousand flows. `reserve` gives its maps 1031 buckets, of which a
cleanup looks at 103. -/
def thousandFlows : FlowParams where
  windowSeconds := 10
  maxFlows := 1000
  maxSources := 1000
  flowBuckets := flowLayout 1031 (by decide)
  sourceBuckets := sourceLayout 1031 (by decide)

/-- Two conversations. The flow of the first one is in the sixth slice, that of the other one in
the first. -/
def twoConversations : List FlowCall :=
  [.observe (scanPacket 1) .inbound 0, .observe (scanPacket 8) .inbound 0]

/-- Eleven cleanups, and between them a packet of the second conversation. -/
def interruptedSweep : List FlowCall :=
  List.replicate 5 (.cleanup (seconds 60)) ++
    .observe (scanPacket 8) .inbound (seconds 61) :: List.replicate 6 (.cleanup (seconds 61))

/-- The flow of the first conversation is returned once. -/
theorem sweep_complete_scan :
    ∃ l r, returnedBy (F := Float) (Machine.trace (call thousandFlows)
        (Machine.exec (call thousandFlows) .empty twoConversations) interruptedSweep) =
      l ++ ⟨Flow.begin ⟨scanPacket 1, .inbound, 0⟩, .timeout⟩ :: r ∧
      ∀ ended ∈ l ++ r, ended.flow ≠ Flow.begin ⟨scanPacket 1, .inbound, 0⟩ := by
  refine (sweep_complete (F := Float) thousandFlows 0 (seconds 60) twoConversations
    interruptedSweep (by decide) ?_ rfl).1 (scanPacket 1).tuple _ rfl (by decide) ?_
  · intro now hnow
    have hlater : now = seconds 60 ∨ now = seconds 61 := by
      simpa [interruptedSweep] using hnow
    rcases hlater with rfl | rfl <;> decide
  · have hcleanups (n : Nat) (now : TimePoint) (m : FlowManager Float) (flow : Flow Float) :
        Machine.Along (call thousandFlows) (LeftAlone thousandFlows flows (scanPacket 1).tuple flow)
          m (List.replicate n (.cleanup now)) := by
      induction n generalizing m with
      | zero => trivial
      | succ n ih => exact ⟨fun hno => (by cases hno), ih _⟩
    have hok := ok_exec (F := Float) (c := thousandFlows) ok_empty twoConversations
    refine (Machine.along_append _ _ _).mpr ⟨hcleanups 5 _ _ _, ?_, hcleanups 6 _ _ _⟩
    exact leftAlone_observe (ok_exec hok _) (by decide)

end InlineIps.FlowManager
