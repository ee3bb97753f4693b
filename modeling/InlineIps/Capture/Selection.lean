import InlineIps.Capture.Calls
import InlineIps.Capture.Verdict

/-!
# Which records are submitted

Only conversations that a remote host opened, and only while the host is neither
whitelisted nor blocked.

* `Selecting`: no stored flow opened by a remote host has a source that is whitelisted or
  blocked, and every stored or waiting flow was made of packets that met an open block list.
* `Selecting.part`, `selecting_run`: every part keeps it, so every run does.
-/

namespace InlineIps.PacketCapture

open Library FlowManager

variable {F : Type} [DoubleOps F] {c : CaptureParams}

/-- The packet was seen, and its arrival found the address not blocked. -/
def UnblockedAt (seen : List (PacketCapture F × CaptureEvent F)) (ip : UInt32)
    (o : Observation) : Prop :=
  ∃ x ∈ seen, observed? x.2 = some o ∧ x.1.blockList.isBlocked ip o.time = false

/-- What is known of every packet of a flow. -/
def Met (seen : List (PacketCapture F × CaptureEvent F)) (flow : Flow F) (o : Observation) :
    Prop :=
  o.direction ≠ .unknown ∧
    (flow.origin = .remoteInitiated → UnblockedAt seen flow.key.srcIp o)

/-- The flow was made of packets that were observed, in order. -/
def Traced (seen : List (PacketCapture F × CaptureEvent F)) (calls : List FlowCall)
    (flow : Flow F) : Prop :=
  Assembled (observations calls) (Met seen flow) flow

/-- What is known of an effect, given the effects before it. -/
def Selected (c : CaptureParams) (seen : List (PacketCapture F × CaptureEvent F))
    (calls : List FlowCall) (before : List (CaptureEffect F)) : CaptureEffect F → Prop
  | .consume record ended time =>
    (∃ sequence, record = makeRecord c sequence ended) ∧ Traced seen calls ended.flow ∧
      ended.flow.origin = .remoteInitiated ∧ 2 ≤ ended.flow.packetCount ∧
      c.whitelist.isWhitelisted record.key.srcIp = false ∧
      ¬ BlockList.ActiveAt c.config.blockTtlSeconds (blockEvents before) record.key.srcIp time
  | _ => True

structure Selecting (c : CaptureParams) (seen : List (PacketCapture F × CaptureEvent F))
    (h : Handling F) (pending : List (EndedFlow F)) : Prop where
  blocks : BlocksRecorded c h
  table : h.capture.flowManager.Ok
  clean : ∀ k flow, h.capture.flowManager.flows.lookup k = some flow →
    flow.origin = .remoteInitiated → Admitted c h flow.key.srcIp
  made : ∀ k flow, h.capture.flowManager.flows.lookup k = some flow → Traced seen h.calls flow
  waiting : ∀ ended ∈ pending, Traced seen h.calls ended.flow
  selected : Machine.EachBehind (Selected c seen h.calls) h.effects

/-! ## Growing -/

theorem Traced.mono {seen seen' : List (PacketCapture F × CaptureEvent F)}
    {calls calls' : List FlowCall} {flow : Flow F} (h : Traced seen calls flow)
    (hSeen : ∀ x ∈ seen, x ∈ seen') (hCalls : ∃ l, calls' = calls ++ l) :
    Traced seen' calls' flow := by
  obtain ⟨l, rfl⟩ := hCalls
  refine Assembled.mono h ?_ ?_
  · rw [observations, observations, List.filterMap_append]
    exact List.sublist_append_left _ _
  · rintro o ⟨hDirection, hMet⟩
    refine ⟨hDirection, fun hOrigin => ?_⟩
    obtain ⟨x, hx, hObserved, hFree⟩ := hMet hOrigin
    exact ⟨x, hSeen x hx, hObserved, hFree⟩

theorem Selected.mono {seen seen' : List (PacketCapture F × CaptureEvent F)}
    {calls calls' : List FlowCall} {before : List (CaptureEffect F)} {effect : CaptureEffect F}
    (h : Selected c seen calls before effect) (hSeen : ∀ x ∈ seen, x ∈ seen')
    (hCalls : ∃ l, calls' = calls ++ l) : Selected c seen' calls' before effect := by
  cases effect with
  | consume record ended time =>
    obtain ⟨hRecord, hTraced, hRest⟩ := h
    exact ⟨hRecord, hTraced.mono hSeen hCalls, hRest⟩
  | _ => trivial

omit [DoubleOps F] in
/-- An admitted address stays admitted while time passes. -/
theorem Admitted.pass {h h' : Handling F} {ip : UInt32} (hAdmitted : Admitted c h ip)
    (hCapture : h'.capture.blockList = h.capture.blockList) (hle : h.clock ≤ h'.clock) :
    Admitted c h' ip := by
  refine ⟨hAdmitted.1, ?_⟩
  rw [hCapture, ← Bool.not_eq_true]
  intro hBlocked
  have hNow := BlockList.isBlocked_antitone hle hBlocked
  rw [hAdmitted.2] at hNow
  cases hNow

/-- Time passes and events are seen. -/
theorem Selecting.pass {seen seen' : List (PacketCapture F × CaptureEvent F)} {h h' : Handling F}
    {pending : List (EndedFlow F)} (hSel : Selecting c seen h pending)
    (hSeen : ∀ x ∈ seen, x ∈ seen') (hCapture : h'.capture = h.capture)
    (hEffects : h'.effects = h.effects) (hCalls : h'.calls = h.calls)
    (hle : h.clock ≤ h'.clock) : Selecting c seen' h' pending where
  blocks := by
    unfold BlocksRecorded
    rw [hCapture, hEffects]
    exact ⟨hSel.blocks.1.pass hle, hSel.blocks.2⟩
  table := by
    rw [hCapture]
    exact hSel.table
  clean := by
    rw [hCapture]
    exact fun k flow hl hOrigin => (hSel.clean k flow hl hOrigin).pass (by rw [hCapture]) hle
  made := by
    rw [hCapture, hCalls]
    exact fun k flow hl => (hSel.made k flow hl).mono hSeen ⟨[], by simp⟩
  waiting := by
    rw [hCalls]
    exact fun ended hEnded => (hSel.waiting ended hEnded).mono hSeen ⟨[], by simp⟩
  selected := by
    rw [hCalls, hEffects]
    exact hSel.selected.mono fun _ _ h => h.mono hSeen ⟨[], by simp⟩

/-! ## Parts -/

section Parts

variable {seen : List (PacketCapture F × CaptureEvent F)} {h : Handling F}
  {pending : List (EndedFlow F)}

/-- A flow manager call that removes flows at most. -/
theorem Selecting.remove (hSel : Selecting c seen h []) {call : FlowCall} {m : FlowManager F}
    (hTable : m.Ok) (hSub : ∀ k flow, m.flows.lookup k = some flow →
      h.capture.flowManager.flows.lookup k = some flow)
    {ended : List (EndedFlow F)} (hEnded : ∀ x ∈ ended, ∃ k,
      h.capture.flowManager.flows.lookup k = some x.flow) :
    Selecting c seen (h.withFlows call m) ended where
  blocks := hSel.blocks
  table := hTable
  clean := fun k flow hl => hSel.clean k flow (hSub k flow hl)
  made := fun k flow hl =>
    (hSel.made k flow (hSub k flow hl)).mono (fun _ hx => hx) ⟨[call], rfl⟩
  waiting := by
    intro x hx
    obtain ⟨k, hl⟩ := hEnded x hx
    exact (hSel.made k _ hl).mono (fun _ hy => hy) ⟨[call], rfl⟩
  selected := hSel.selected.mono fun _ _ h => h.mono (fun _ hx => hx) ⟨[call], rfl⟩

/-- One packet of an admitted peer is observed. -/
theorem Selecting.observe {s : PacketCapture F} {e : CaptureEvent F}
    (hSel : Selecting c (seen ++ [(s, e)]) h []) {packet : ParsedPacket}
    {direction : PacketDirection} (hArrival : Arrival s e h packet direction)
    (hDirection : direction ≠ .unknown) (hAdmitted : Admitted c h (peer packet direction)) :
    Selecting c (seen ++ [(s, e)]) (h.observe c packet direction h.clock).1 [] := by
  have hObserved : observed? e = some ⟨packet, direction, h.clock⟩ := by
    obtain ⟨data, hInput, hParse⟩ := hArrival.parsed
    simp [observed?, hInput, hParse, hArrival.clock]
  -- An address that the handling admits was not blocked when the packet arrived.
  have hUnblocked : ∀ ip, Admitted c h ip →
      UnblockedAt (seen ++ [(s, e)]) ip ⟨packet, direction, h.clock⟩ := by
    intro ip hIp
    refine ⟨(s, e), by simp, hObserved, ?_⟩
    rw [← hArrival.capture]
    exact hIp.2
  have hLookup := fun k (flow : Flow F)
      (hl : (h.observe c packet direction h.clock).1.capture.flowManager.flows.lookup k =
        some flow) => observePacket_lookup hSel.table hDirection hl
  have hOpened : (Flow.begin ⟨packet, direction, h.clock⟩ : Flow F).origin = .remoteInitiated →
      Admitted c h packet.tuple.srcIp := by
    intro hOrigin
    have hIn : direction = .inbound := by
      cases direction with
      | inbound => rfl
      | outbound => simp [Flow.begin] at hOrigin
      | unknown => exact absurd rfl hDirection
    subst hIn
    exact hAdmitted
  refine ⟨hSel.blocks, ok_observePacket hSel.table, ?_, ?_, by simp, ?_⟩
  · intro k flow hl hOrigin
    rcases hLookup k flow hl with hOld | ⟨old, hOld, rfl⟩ | ⟨-, -, -, rfl⟩
    · exact hSel.clean k flow hOld hOrigin
    · exact hSel.clean k old hOld hOrigin
    · exact hOpened hOrigin
  · intro k flow hl
    have hCalls : (h.observe c packet direction h.clock).1.calls =
        h.calls ++ [.observe packet direction h.clock] := rfl
    have hLog : observations (h.calls ++ [.observe packet direction h.clock]) =
        observations h.calls ++ [⟨packet, direction, h.clock⟩] := by
      simp [observations, FlowCall.observation?]
    rcases hLookup k flow hl with hOld | ⟨old, hOld, rfl⟩ | ⟨-, -, -, rfl⟩
    · exact (hSel.made k flow hOld).mono (fun _ hx => hx) ⟨_, hCalls⟩
    · unfold Traced
      rw [hCalls, hLog]
      exact Assembled.observe (hSel.made k old hOld)
        ⟨hDirection, fun hOrigin => hUnblocked _ (hSel.clean k old hOld hOrigin)⟩
    · unfold Traced
      rw [hCalls, hLog]
      exact assembled_begin _ ⟨hDirection, fun hOrigin => hUnblocked _ (hOpened hOrigin)⟩
  · exact hSel.selected.mono fun _ _ h => h.mono (fun _ hx => hx) ⟨_, rfl⟩

/-- The flows of an address are discarded and the address is blocked. -/
theorem Selecting.discardAndBlock (hSel : Selecting c seen h []) {ip : UInt32} {h' : Handling F}
    (hBlocks : BlocksRecorded c h') (hClock : h'.clock = h.clock)
    (hManager : h'.capture.flowManager = h.capture.flowManager.discardSourceFlows ip)
    (hList : h'.capture.blockList =
      h.capture.blockList.block ip c.config.blockTtlSeconds h.clock)
    (hCalls : ∃ l, h'.calls = h.calls ++ l)
    (hEffects : Machine.EachBehind (Selected c seen h'.calls) h'.effects) :
    Selecting c seen h' [] := by
  have hLookup : ∀ k flow, h'.capture.flowManager.flows.lookup k = some flow →
      h.capture.flowManager.flows.lookup k = some flow ∧ k.srcIp ≠ ip := by
    intro k flow hl
    rw [hManager] at hl
    exact (discardSourceFlows_lookup hSel.table).mp hl
  refine ⟨hBlocks, ?_, ?_, ?_, by simp, hEffects⟩
  · rw [hManager]
    exact ok_discardSourceFlows hSel.table ip
  · intro k flow hl hOrigin
    obtain ⟨hOld, hne⟩ := hLookup k flow hl
    have hKey : flow.key = k := TableOk.key_eq hSel.table k flow hOld
    have hAdmitted := hSel.clean k flow hOld hOrigin
    refine ⟨hAdmitted.1, ?_⟩
    rw [hList, hClock, BlockList.isBlocked_block, if_neg (by rw [hKey]; exact hne)]
    exact hAdmitted.2
  · intro k flow hl
    exact (hSel.made k flow (hLookup k flow hl).1).mono (fun _ hx => hx) hCalls

theorem Selecting.part {s : PacketCapture F} {e : CaptureEvent F}
    {x y : Handling F × List (EndedFlow F)} (hSel : Selecting c (seen ++ [(s, e)]) x.1 x.2)
    (hPart : Part c s e x y) : Selecting c (seen ++ [(s, e)]) y.1 y.2 := by
  have hBlocks := hSel.blocks.part hPart
  cases hPart with
  | observe h packet direction hArrival hDirection hAdmitted =>
    exact hSel.observe hArrival hDirection hAdmitted
  | hit h packet rule hArrival hAdmitted =>
    have hObserve := hSel.observe hArrival (by simp) hAdmitted
    refine hObserve.discardAndBlock hBlocks rfl rfl rfl ⟨[.discard packet.tuple.srcIp], rfl⟩ ?_
    exact (hObserve.selected.mono fun _ _ h => h.mono (fun _ hx => hx) ⟨_, rfl⟩).snoc trivial
  | extract h key =>
    refine hSel.remove (ok_extractCompleted hSel.table key) (fun k flow => extractCompleted_lookup)
      ?_
    intro ended hEnded
    have hSome : (h.capture.flowManager.extractCompleted key).2 = some ended :=
      Option.mem_toList.mp hEnded
    exact extractCompleted_ended hSome
  | aiBlock h decision hAnomaly hAdmitted =>
    refine hSel.discardAndBlock hBlocks rfl rfl rfl ⟨[.discard _], rfl⟩ ?_
    have hSelected := hSel.selected.mono (Q := Selected c (seen ++ [(s, e)])
        (h.calls ++ [.discard decision.record.key.srcIp])) fun _ _ h =>
      h.mono (fun _ hx => hx) ⟨_, rfl⟩
    refine Machine.EachBehind.snoc (Machine.EachBehind.snoc hSelected ?_) ?_
    · trivial
    · trivial
  | count h s' hCounted =>
    refine ⟨hBlocks, ?_, ?_, ?_, hSel.waiting, hSel.selected⟩
    · rw [show (h.withCapture s').capture.flowManager = _ from hCounted.flowManager]
      exact hSel.table
    · rw [show (h.withCapture s').capture.flowManager = _ from hCounted.flowManager]
      exact fun k flow hl hOrigin =>
        (hSel.clean k flow hl hOrigin).pass hCounted.blockList le_rfl
    · rw [show (h.withCapture s').capture.flowManager = _ from hCounted.flowManager]
      exact hSel.made
  | expire h =>
    exact hSel.remove (ok_cleanupExpired hSel.table) (fun k flow => cleanupExpired_lookup)
      fun ended hEnded => (cleanupExpired_ended hEnded).1
  | read h pending hLater =>
    have hSame : h.readClock.capture = h.capture ∧ h.readClock.effects = h.effects ∧
        h.readClock.calls = h.calls := by
      unfold Handling.readClock
      split <;> exact ⟨rfl, rfl, rfl⟩
    exact hSel.pass (fun _ hx => hx) hSame.1 hSame.2.1 hSame.2.2 hLater
  | drop h ended pending =>
    exact { hSel with waiting := fun x hx => hSel.waiting x (List.mem_cons_of_mem _ hx) }
  | submit h ended pending hOrigin hPackets hAdmitted =>
    refine ⟨hBlocks, hSel.table, hSel.clean, hSel.made,
      fun x hx => hSel.waiting x (List.mem_cons_of_mem _ hx), ?_⟩
    refine hSel.selected.snoc ⟨⟨_, rfl⟩, hSel.waiting ended List.mem_cons_self, hOrigin, hPackets,
      hAdmitted.1, ?_⟩
    have hExact := hSel.blocks.1.exact ended.flow.key.srcIp h.clock le_rfl
    rw [hAdmitted.2] at hExact
    exact fun hActive => Bool.false_ne_true (hExact.mpr hActive)
  | release h limit now hNow =>
    refine ⟨hBlocks, hSel.table, ?_, hSel.made, hSel.waiting, hSel.selected⟩
    intro k flow hl hOrigin
    have hAdmitted := hSel.clean k flow hl hOrigin
    refine ⟨hAdmitted.1, ?_⟩
    rw [← hAdmitted.2]
    exact BlockList.isBlocked_cleanupUpTo limit hNow _ _

/-- Every run keeps it. -/
theorem selecting_run {start : TimePoint} {events : List (CaptureEvent F)}
    (hc : Machine.Chronological CaptureEvent.reads start events) :
    Selecting c (arrivals c events) (runHandling c start events) [] :=
  run_rule (J := fun seen x => Selecting c seen x.1 x.2)
    (fun _ _ _ hSel hle => hSel.pass (fun _ hx => hx) rfl rfl rfl hle)
    (fun _ _ _ hSel hle => hSel.pass (fun _ hx => List.mem_append_left _ hx) rfl rfl rfl hle)
    (fun _ _ _ _ _ hSel hPart => hSel.part hPart)
    { blocks := ⟨BlockList.Recorded.empty _ _, by simp [blockEvents]⟩
      table := ok_empty
      clean := by simp [PacketCapture.initial, FlowManager.empty]
      made := by simp [PacketCapture.initial, FlowManager.empty]
      waiting := by simp
      selected := Machine.eachBehind_nil _ } hc

end Parts

/-! ## Submitted records -/

/-- A flow of a remote host was opened by an inbound packet of its key. -/
theorem Traced.remote {seen : List (PacketCapture F × CaptureEvent F)} {calls : List FlowCall}
    {flow : Flow F} (hTraced : Traced seen calls flow) (hOrigin : flow.origin = .remoteInitiated) :
    ∃ first rest, Flow.replay first rest = flow ∧ (first :: rest).Sublist (observations calls) ∧
      first.direction = .inbound ∧ first.packet.tuple = flow.key ∧
      (first :: rest).length = flow.packetCount ∧
      ∀ o ∈ first :: rest, UnblockedAt seen flow.key.srcIp o := by
  obtain ⟨first, rest, rfl, hSub, hMet⟩ := hTraced
  refine ⟨first, rest, rfl, hSub, ?_, (Flow.replay_key first rest).symm,
    (Flow.packetCount_replay first rest).symm, fun o ho => (hMet o ho).2 hOrigin⟩
  rw [Flow.replay_origin] at hOrigin
  have hKnown := (hMet first List.mem_cons_self).1
  cases hFirst : first.direction with
  | inbound => rfl
  | outbound => simp [hFirst] at hOrigin
  | unknown => exact absurd hFirst hKnown

/-- The record of an effect was made of a flow whose packets are packets of the run. -/
theorem submitted_replay {start : TimePoint} {events : List (CaptureEvent F)}
    (hc : Machine.Chronological CaptureEvent.reads start events) {record : FlowRecord F}
    {ended : EndedFlow F} {time : TimePoint}
    (hEffect : .consume record ended time ∈ effectsOf c events) :
    (∃ sequence, record = makeRecord c sequence ended) ∧
      ∃ first rest, Flow.replay first rest = ended.flow ∧
        (first :: rest).Sublist (events.filterMap observed?) := by
  obtain ⟨before, after, hEffects⟩ := List.append_of_mem hEffect
  obtain ⟨hRecord, ⟨first, rest, hReplay, hSub, -⟩, -⟩ :=
    (selecting_run hc).selected before _ after hEffects
  exact ⟨hRecord, first, rest, hReplay, hSub.trans (observations_callsOf c events)⟩

/-- **Selection.** No stored flow that a remote host opened has a source that is whitelisted
or blocked. Every submitted record is of a flow whose packets are packets of the run, in
order; the first one is inbound with the tuple of the record, there are at least two, each
arrived while the source was not blocked, and the source is neither whitelisted nor blocked
when the record is submitted. -/
theorem submitted_selected (c : CaptureParams) (start : TimePoint)
    (events : List (CaptureEvent F))
    (hc : Machine.Chronological CaptureEvent.reads start events) :
    (∀ k flow, (run c events).flowManager.flows.lookup k = some flow →
      flow.origin = .remoteInitiated →
      c.whitelist.isWhitelisted flow.key.srcIp = false ∧
        (run c events).blockList.isBlocked flow.key.srcIp
          (Machine.finish CaptureEvent.reads start events) = false) ∧
    (∀ before record ended time after,
      effectsOf c events = before ++ .consume record ended time :: after →
      (∃ sequence, record = makeRecord c sequence ended) ∧
      ∃ first rest, Flow.replay first rest = ended.flow ∧
        (first :: rest).Sublist (events.filterMap observed?) ∧
        first.direction = .inbound ∧ first.packet.tuple = record.key ∧
        2 ≤ (first :: rest).length ∧
        (∀ o ∈ first :: rest, UnblockedAt (arrivals c events) record.key.srcIp o) ∧
        c.whitelist.isWhitelisted record.key.srcIp = false ∧
        ¬ BlockList.ActiveAt c.config.blockTtlSeconds (blockEvents before) record.key.srcIp
          time) := by
  have hSel := selecting_run (c := c) hc
  refine ⟨hSel.clean, ?_⟩
  intro before record ended time after hEffects
  obtain ⟨⟨sequence, rfl⟩, hTraced, hOrigin, hPackets, hWhite, hFree⟩ :=
    hSel.selected before _ after hEffects
  obtain ⟨first, rest, hReplay, hSub, hFirst, hKey, hLength, hMet⟩ := hTraced.remote hOrigin
  exact ⟨⟨sequence, rfl⟩, first, rest, hReplay, hSub.trans (observations_callsOf c events), hFirst,
    hKey, by omega, hMet, hWhite, hFree⟩

/-- The RST that follows `synBytes`. -/
def rstBytes : List UInt8 :=
  [0x45, 0, 0, 40, 0, 0, 0, 0, 64, 6, 0, 0, 203, 0, 113, 5, 10, 0, 0, 1,
    0x30, 0x39, 0, 80, 0, 0, 0, 0, 0, 0, 0, 0, 0x50, 0x04, 0, 0, 0, 0, 0, 0]

/-- A sensor with the default configuration. -/
def defaultParams : CaptureParams := { strictParams with config := {} }

/-- A connection that is reset at once is submitted. -/
theorem submitted_selected_reset :
    ∃ record ended time,
      effectsOf (F := Float) defaultParams
        [⟨.packet synBytes .inbound, 5, []⟩, ⟨.packet rstBytes .inbound, 7, [8]⟩] =
          [.consume record ended time] ∧
      defaultParams.whitelist.isWhitelisted record.key.srcIp = false ∧
      ∃ first rest, Flow.replay first rest = ended.flow ∧ 2 ≤ (first :: rest).length ∧
        first.packet.tuple = record.key := by
  have hRun := (submitted_selected (F := Float) defaultParams 0
    [⟨.packet synBytes .inbound, 5, []⟩, ⟨.packet rstBytes .inbound, 7, [8]⟩] (by decide)).2
  have hShape : (effectsOf (F := Float) defaultParams
      [⟨.packet synBytes .inbound, 5, []⟩, ⟨.packet rstBytes .inbound, 7, [8]⟩]).map
        (fun x => x.record?.isSome) = [true] := by decide
  obtain ⟨effect, hEffects, hEffect⟩ := List.map_eq_singleton_iff.mp hShape
  cases effect with
  | consume record ended time =>
    obtain ⟨-, first, rest, hReplay, -, -, hKey, hLength, -, hWhite, -⟩ := hRun [] _ _ _ [] hEffects
    exact ⟨record, ended, time, hEffects, hWhite, first, rest, hReplay, hLength, hKey⟩
  | _ => cases hEffect

end InlineIps.PacketCapture
