import Mathlib.Logic.Relation
import InlineIps.Capture.PacketCapture

/-!
# The parts of a handling

The handling of an event is a sequence of small parts. `Part` lists them with everything
that is known when they happen; beside the handling stand the ended flows still to be
consumed.

* `handleUpTo_parts`: a handling is a sequence of parts.
* `run_rule`: what every part and the passing of time preserve holds after every run, for
  the state, the last reading of the clock, all effects and flow manager calls so far, and
  the events seen so far with the states they met.
-/

namespace InlineIps.PacketCapture

open Library Relation

variable {F : Type}

/-- The remote address of a packet. -/
def peer (packet : ParsedPacket) (direction : PacketDirection) : UInt32 :=
  if direction = .inbound then packet.tuple.srcIp else packet.tuple.dstIp

/-- The address is neither whitelisted nor blocked at the last reading of the clock. -/
def Admitted (c : CaptureParams) (h : Handling F) (ip : UInt32) : Prop :=
  c.whitelist.isWhitelisted ip = false ∧ h.capture.blockList.isBlocked ip h.clock = false

/-- The packet is that of the event, and the handling has just begun. -/
structure Arrival (s : PacketCapture F) (e : CaptureEvent F) (h : Handling F)
    (packet : ParsedPacket) (direction : PacketDirection) : Prop where
  parsed : ∃ data, e.input = .packet data direction ∧ PacketParser.parse data = some packet
  capture : h.capture = s
  clock : h.clock = e.now

/-- Only counters have changed. -/
structure Counted (s s' : PacketCapture F) : Prop where
  blockList : s'.blockList = s.blockList
  flowManager : s'.flowManager = s.flowManager
  nextFlowSequence : s'.nextFlowSequence = s.nextFlowSequence

section Parts

variable [DoubleOps F]

/-- One part of the handling of `e` in state `s`, with the ended flows waiting before and
after it. -/
inductive Part (c : CaptureParams) (s : PacketCapture F) (e : CaptureEvent F) :
    Handling F × List (EndedFlow F) → Handling F × List (EndedFlow F) → Prop
  /-- Observe a packet that hits no rule. -/
  | observe (h packet direction) (hArrival : Arrival s e h packet direction)
      (hDirection : direction ≠ .unknown)
      (hAdmitted : Admitted c h (peer packet direction)) (hPorts : packet.hasPorts = true)
      (hMiss : direction = .inbound →
        (h.observe c packet direction h.clock).2.bind (RuleEngine.check c.rules) = none) :
      Part c s e (h, []) ((h.observe c packet direction h.clock).1, [])
  /-- Observe an inbound packet that hits a rule, and block its source. -/
  | hit (h packet rule) (hArrival : Arrival s e h packet .inbound)
      (hAdmitted : Admitted c h packet.tuple.srcIp)
      (hPorts : packet.hasPorts = true)
      (hHit : (h.observe c packet .inbound h.clock).2.bind (RuleEngine.check c.rules) =
        some rule) :
      Part c s e (h, [])
        (blockByRule c (h.observe c packet .inbound h.clock).1 packet.tuple.srcIp h.clock, [])
  /-- Take out a flow that has ended. -/
  | extract (h key) : Part c s e (h, []) ((h.extract key).1, (h.extract key).2.toList)
  /-- Apply a decision. -/
  | aiBlock (h decision) (hAnomaly : decision.anomaly = true)
      (hAdmitted : Admitted c h decision.record.key.srcIp) :
      Part c s e (h, []) (blockByAi c h decision h.clock, [])
  /-- Count a decision that is not applied. -/
  | count (h s') (hCounted : Counted h.capture s') : Part c s e (h, []) (h.withCapture s', [])
  /-- Take out the flows that have timed out. -/
  | expire (h) : Part c s e (h, []) ((h.expire c h.clock).1, (h.expire c h.clock).2)
  /-- Read the clock. -/
  | read (h pending) (hLater : h.clock ≤ h.readClock.clock) :
      Part c s e (h, pending) (h.readClock, pending)
  /-- Leave out an ended flow. -/
  | drop (h ended pending) : Part c s e (h, ended :: pending) (h, pending)
  /-- Submit the record of an ended flow. -/
  | submit (h ended pending) (hOrigin : ended.flow.origin = .remoteInitiated)
      (hPackets :
        2 ≤ ended.flow.forward.payloadLen.count + ended.flow.backward.payloadLen.count)
      (hAdmitted : Admitted c h ended.flow.key.srcIp) :
      Part c s e (h, ended :: pending) (submit c h ended, pending)
  /-- Clean up the block list. -/
  | release (h limit now) (hNow : now ≤ h.clock) :
      Part c s e (h, []) (releaseBlocks limit h now, [])

/-- A sequence of parts. -/
abbrev Parts (c : CaptureParams) (s : PacketCapture F) (e : CaptureEvent F) :
    Handling F × List (EndedFlow F) → Handling F × List (EndedFlow F) → Prop :=
  ReflTransGen (Part c s e)

end Parts

/-- The readings still to come do not go back. -/
def Timely (h : Handling F) : Prop := (h.clock :: h.later).Pairwise (· ≤ ·)

theorem Timely.readClock {h : Handling F} (ht : Timely h) :
    Timely h.readClock ∧ h.clock ≤ h.readClock.clock := by
  unfold Handling.readClock
  split
  · exact ⟨ht, le_rfl⟩
  · rename_i t later hl
    unfold Timely at ht
    rw [hl, List.pairwise_cons] at ht
    exact ⟨ht.2, ht.1 t List.mem_cons_self⟩

section Handlers

variable [DoubleOps F] {c : CaptureParams} {s : PacketCapture F} {e : CaptureEvent F}

/-- Consuming an ended flow keeps the clock going forward. -/
theorem timely_consumeFlow {h : Handling F} (ht : Timely h) (ended : EndedFlow F) :
    Timely (consumeFlow c h ended) ∧ h.clock ≤ (consumeFlow c h ended).clock := by
  unfold consumeFlow
  split
  · exact ⟨ht, le_rfl⟩
  · split
    · exact ⟨ht, le_rfl⟩
    · dsimp only
      split
      · exact ht.readClock
      · exact ht.readClock

theorem consumeFlow_parts {h : Handling F} (ht : Timely h) (ended : EndedFlow F)
    (pending : List (EndedFlow F)) :
    Parts c s e (h, ended :: pending) (consumeFlow c h ended, pending) := by
  unfold consumeFlow
  split
  · exact .single (.drop h ended pending)
  · rename_i hOrigin
    split
    · exact .single (.drop h ended pending)
    · rename_i hPackets
      have hread : Part c s e (h, ended :: pending) (h.readClock, ended :: pending) :=
        .read h _ ht.readClock.2
      dsimp only
      split
      · exact .head hread (.single (.drop _ ended pending))
      · rename_i hAdmitted
        simp only [Bool.or_eq_true, not_or, Bool.not_eq_true] at hAdmitted
        exact .head hread
          (.single (.submit _ ended pending (not_not.mp hOrigin) (Nat.lt_of_not_le hPackets)
            hAdmitted))

theorem timely_consumeAll {h : Handling F} (ht : Timely h) (pending : List (EndedFlow F)) :
    Timely (pending.foldl (consumeFlow c) h) ∧
      h.clock ≤ (pending.foldl (consumeFlow c) h).clock := by
  induction pending generalizing h with
  | nil => exact ⟨ht, le_rfl⟩
  | cons ended pending ih =>
    obtain ⟨ht', hle⟩ := timely_consumeFlow (c := c) ht ended
    obtain ⟨htimely, hle'⟩ := ih ht'
    exact ⟨htimely, hle.trans hle'⟩

theorem consumeAll_parts {h : Handling F} (ht : Timely h) (pending : List (EndedFlow F)) :
    Parts c s e (h, pending) (pending.foldl (consumeFlow c) h, []) := by
  induction pending generalizing h with
  | nil => exact .refl
  | cons ended pending ih =>
    exact (consumeFlow_parts ht ended pending).trans (ih (timely_consumeFlow ht ended).1)

theorem finishFlow_parts {h : Handling F} (ht : Timely h) (packet : ParsedPacket) :
    Parts c s e (h, []) (finishFlow c h packet, []) := by
  have ht' : Timely (h.extract packet.tuple).1 := ht
  exact .head (.extract h packet.tuple) (consumeAll_parts ht' _)

theorem handleInbound_parts {h : Handling F} (ht : Timely h) {packet : ParsedPacket}
    (hArrival : Arrival s e h packet .inbound) :
    Parts c s e (h, []) ((handleInbound c h packet h.clock).1, []) := by
  unfold handleInbound
  dsimp only
  split_ifs with hw hb hp
  · exact .refl
  · exact .refl
  · exact .refl
  · have hAdmitted : Admitted c h packet.tuple.srcIp :=
      ⟨by simpa using hw, by simpa using hb⟩
    have hPorts : packet.hasPorts = true := by simpa using hp
    split
    · rename_i rule hHit
      exact .single (.hit h packet rule hArrival hAdmitted hPorts hHit)
    · rename_i hMiss
      have ht' : Timely (h.observe c packet .inbound h.clock).1 := ht
      exact .head (.observe h packet .inbound hArrival (by simp) hAdmitted hPorts fun _ => hMiss)
        (finishFlow_parts ht' packet)

theorem handleOutbound_parts {h : Handling F} (ht : Timely h) {packet : ParsedPacket}
    (hArrival : Arrival s e h packet .outbound) :
    Parts c s e (h, []) ((handleOutbound c h packet h.clock).1, []) := by
  unfold handleOutbound
  dsimp only
  split_ifs with hg
  · exact .refl
  · simp only [Bool.or_eq_true, not_or, Bool.not_eq_true, Bool.not_eq_eq_eq_not] at hg
    have hPorts : packet.hasPorts = true := by simpa using hg.2
    have ht' : Timely (h.observe c packet .outbound h.clock).1 := ht
    exact .head (.observe h packet .outbound hArrival (by simp) hg.1 hPorts (by simp))
      (finishFlow_parts ht' packet)

theorem onPacket_parts (ht : Timely (.start s e)) {data : List UInt8}
    {direction : PacketDirection} (hInput : e.input = .packet data direction) :
    Parts c s e (.start s e, []) ((onPacket c (.start s e) data direction).1, []) := by
  unfold onPacket
  by_cases hUnknown : direction = .unknown
  · rw [if_pos hUnknown]
  · rw [if_neg hUnknown]
    cases hParse : PacketParser.parse data with
    | none => exact .refl
    | some packet =>
      have hArrival : Arrival s e (.start s e) packet direction :=
        ⟨⟨data, hInput, hParse⟩, rfl, rfl⟩
      dsimp only
      split
      · rename_i hIn
        subst hIn
        exact handleInbound_parts ht hArrival
      · have hOut : direction = .outbound := by cases direction <;> simp_all
        subst hOut
        exact handleOutbound_parts ht hArrival

omit [DoubleOps F] in
/-- A decision does not read the clock. -/
theorem applyAiDecision_clock (h : Handling F) (decision : AiDecision F) (now : TimePoint) :
    (applyAiDecision c now h decision).clock = h.clock ∧
      (applyAiDecision c now h decision).later = h.later := by
  unfold applyAiDecision
  dsimp only
  split_ifs <;> exact ⟨rfl, rfl⟩

omit [DoubleOps F] in
theorem applyAiDecisions_clock (h : Handling F) (decisions : List (AiDecision F))
    (now : TimePoint) :
    (applyAiDecisions c now h decisions).clock = h.clock ∧
      (applyAiDecisions c now h decisions).later = h.later := by
  induction decisions generalizing h with
  | nil => exact ⟨rfl, rfl⟩
  | cons decision decisions ih =>
    obtain ⟨hclock, hlater⟩ := applyAiDecision_clock (c := c) h decision now
    obtain ⟨hclock', hlater'⟩ := ih (applyAiDecision c now h decision)
    exact ⟨hclock'.trans hclock, hlater'.trans hlater⟩

omit [DoubleOps F] in
/-- The flow manager cleanup of a tick is timely. -/
theorem timely_decided {h : Handling F} (ht : Timely h) (decisions : List (AiDecision F)) :
    Timely ((applyAiDecisions c h.clock h decisions).expire c h.clock).1 := by
  obtain ⟨hclock, hlater⟩ := applyAiDecisions_clock (c := c) h decisions h.clock
  have htimely : Timely (applyAiDecisions c h.clock h decisions) := by
    unfold Timely
    rw [hclock, hlater]
    exact ht
  exact htimely

theorem applyAiDecision_parts (h : Handling F) (decision : AiDecision F) :
    Parts c s e (h, []) (applyAiDecision c h.clock h decision, []) := by
  unfold applyAiDecision
  dsimp only
  split_ifs with ha hw hb
  · exact .refl
  · exact .single (.count h _ ⟨rfl, rfl, rfl⟩)
  · exact .single (.count h _ ⟨rfl, rfl, rfl⟩)
  · have hAdmitted : Admitted c h decision.record.key.srcIp :=
      ⟨by simpa using hw, by simpa using hb⟩
    exact .single (.aiBlock h decision (by simpa using ha) hAdmitted)

theorem applyAiDecisions_parts (h : Handling F) (decisions : List (AiDecision F)) :
    Parts c s e (h, []) (applyAiDecisions c h.clock h decisions, []) := by
  induction decisions generalizing h with
  | nil => exact .refl
  | cons decision decisions ih =>
    have hNext := ih (applyAiDecision c h.clock h decision)
    rw [(applyAiDecision_clock h decision h.clock).1] at hNext
    exact (applyAiDecision_parts h decision).trans hNext

theorem onTickUpTo_parts (limit : Nat) {h : Handling F} (ht : Timely h)
    (decisions : List (AiDecision F)) :
    Parts c s e (h, []) (onTickUpTo limit c h decisions, []) := by
  have hclock := (applyAiDecisions_clock (c := c) h decisions h.clock).1
  have ht' := timely_decided (c := c) ht decisions
  have hexpire : Part c s e (applyAiDecisions c h.clock h decisions, [])
      ((applyAiDecisions c h.clock h decisions).expire c h.clock) := by
    have hPart := Part.expire (c := c) (s := s) (e := e) (applyAiDecisions c h.clock h decisions)
    rwa [hclock] at hPart
  have hle := (timely_consumeAll (c := c) ht'
    ((applyAiDecisions c h.clock h decisions).expire c h.clock).2).2
  refine (applyAiDecisions_parts h decisions).trans
    (.head hexpire ((consumeAll_parts ht' _).trans (.single (.release _ limit h.clock ?_))))
  exact le_trans (le_of_eq hclock.symm) hle

/-- A handling is a sequence of parts. -/
theorem handleUpTo_parts (limit : Nat) (c : CaptureParams) (s : PacketCapture F)
    (e : CaptureEvent F) (he : e.reads.Pairwise (· ≤ ·)) :
    Parts c s e (.start s e, []) ((handleUpTo limit c s e).1, []) := by
  have ht : Timely (Handling.start s e) := he
  unfold handleUpTo
  split
  · exact onPacket_parts ht ‹_›
  · exact onTickUpTo_parts limit ht _

end Handlers

/-! ## Runs -/

section Runs

variable [DoubleOps F] {c : CaptureParams} {s : PacketCapture F} {e : CaptureEvent F}

/-- A handling whose effects and calls come behind earlier ones. -/
def Behind (effects : List (CaptureEffect F)) (calls : List FlowManager.FlowCall)
    (h : Handling F) : Handling F :=
  { h with effects := effects ++ h.effects, calls := calls ++ h.calls }

/-- Parts do not depend on what came before. -/
theorem Part.behind {x y : Handling F × List (EndedFlow F)} (hPart : Part c s e x y)
    (effects : List (CaptureEffect F)) (calls : List FlowManager.FlowCall) :
    Part c s e (Behind effects calls x.1, x.2) (Behind effects calls y.1, y.2) := by
  cases hPart with
  | observe h packet direction hArrival hDirection hAdmitted hPorts hMiss =>
    have hPart := Part.observe (Behind effects calls h) packet direction
      ⟨hArrival.parsed, hArrival.capture, hArrival.clock⟩ hDirection hAdmitted hPorts hMiss
    simpa [Behind, Handling.observe, Handling.withFlows] using hPart
  | hit h packet rule hArrival hAdmitted hPorts hHit =>
    have hPart := Part.hit (Behind effects calls h) packet rule
      ⟨hArrival.parsed, hArrival.capture, hArrival.clock⟩ hAdmitted hPorts hHit
    simpa [Behind, Handling.observe, Handling.withFlows, Handling.withCapture, Handling.emit,
      Handling.discardAndBlock, blockByRule] using hPart
  | extract h key =>
    have hPart := Part.extract (c := c) (s := s) (e := e) (Behind effects calls h) key
    simpa [Behind, Handling.extract, Handling.withFlows] using hPart
  | aiBlock h decision hAnomaly hAdmitted =>
    have hPart := Part.aiBlock (s := s) (e := e) (Behind effects calls h) decision hAnomaly hAdmitted
    simpa [Behind, Handling.withFlows, Handling.withCapture, Handling.emit,
      Handling.discardAndBlock, blockByAi] using hPart
  | count h s' hCounted => exact .count (Behind effects calls h) s' hCounted
  | expire h =>
    have hPart := Part.expire (c := c) (s := s) (e := e) (Behind effects calls h)
    simpa [Behind, Handling.expire, Handling.withFlows] using hPart
  | read h pending hLater =>
    have hread : (Behind effects calls h).readClock = Behind effects calls h.readClock := by
      obtain ⟨s, clock, later, effects', calls'⟩ := h
      cases later <;> rfl
    have hPart := Part.read (c := c) (s := s) (e := e) (Behind effects calls h) pending
      (by rw [hread]; exact hLater)
    rwa [hread] at hPart
  | drop h ended pending => exact .drop (Behind effects calls h) ended pending
  | submit h ended pending hOrigin hPackets hAdmitted =>
    have hPart := Part.submit (s := s) (e := e) (Behind effects calls h) ended pending hOrigin
      hPackets hAdmitted
    simpa [Behind, PacketCapture.submit, Handling.withCapture, Handling.emit] using hPart
  | release h limit now hNow => exact .release (Behind effects calls h) limit now hNow

theorem Parts.behind {x y : Handling F × List (EndedFlow F)} (hParts : Parts c s e x y)
    (effects : List (CaptureEffect F)) (calls : List FlowManager.FlowCall) :
    Parts c s e (Behind effects calls x.1, x.2) (Behind effects calls y.1, y.2) := by
  induction hParts with
  | refl => exact .refl
  | tail _ hPart ih => exact ih.tail (hPart.behind effects calls)

/-- What every part preserves, a sequence of parts preserves. -/
theorem Parts.rule {J : Handling F × List (EndedFlow F) → Prop}
    (hpart : ∀ x y, J x → Part c s e x y → J y) {x y : Handling F × List (EndedFlow F)}
    (hParts : Parts c s e x y) (hx : J x) : J y := by
  induction hParts with
  | refl => exact hx
  | tail _ hPart ih => exact hpart _ _ ih hPart

/-- Readings of the clock are taken from the front. -/
theorem Part.suffix {x y : Handling F × List (EndedFlow F)} (hPart : Part c s e x y) :
    (y.1.clock :: y.1.later) <:+ (x.1.clock :: x.1.later) := by
  cases hPart with
  | read h pending hLater =>
    obtain ⟨s, clock, later, effects, calls⟩ := h
    cases later with
    | nil => exact List.suffix_rfl
    | cons t later => exact List.suffix_cons _ _
  | _ => exact List.suffix_rfl

/-- A handling ends no later than the last reading of its event. -/
theorem handleUpTo_clock_le (limit : Nat) (c : CaptureParams) (s : PacketCapture F)
    {e : CaptureEvent F} {clock : TimePoint} (hreads : (clock :: e.reads).Pairwise (· ≤ ·)) :
    (handleUpTo limit c s e).1.clock ≤ e.reads.getLastD clock := by
  have hparts := handleUpTo_parts limit c s e hreads.of_cons
  have hsuffix := hparts.rule (J := fun x => (x.1.clock :: x.1.later) <:+ e.reads)
    (fun x y hx hPart => hPart.suffix.trans hx) List.suffix_rfl
  exact Machine.le_getLastD hreads _
    (List.mem_cons_of_mem _ (hsuffix.subset List.mem_cons_self))

/-- The state of a run as a handling without readings to come. -/
def runHandling (c : CaptureParams) (start : TimePoint) (events : List (CaptureEvent F)) :
    Handling F where
  capture := run c events
  clock := Machine.finish CaptureEvent.reads start events
  later := []
  effects := effectsOf c events
  calls := callsOf c events

/-- The events of a run with the states they met, in order. -/
def arrivals (c : CaptureParams) (events : List (CaptureEvent F)) :
    List (PacketCapture F × CaptureEvent F) :=
  (Machine.trace (step c) .initial events).map fun taken => (taken.before, taken.event)

/-- **What every part and the passing of time preserve holds after every run.** -/
theorem run_rule
    {J : List (PacketCapture F × CaptureEvent F) → Handling F × List (EndedFlow F) → Prop}
    (hpass : ∀ seen h t, J seen (h, []) → h.clock ≤ t →
      J seen ({ h with clock := t, later := [] }, []))
    (hbegin : ∀ seen h e, J seen (h, []) → h.clock ≤ e.now →
      J (seen ++ [(h.capture, e)]) ({ h with clock := e.now, later := e.later }, []))
    (hpart : ∀ seen s e x y, J (seen ++ [(s, e)]) x → Part c s e x y → J (seen ++ [(s, e)]) y)
    {start : TimePoint} {events : List (CaptureEvent F)}
    (hinit : J [] (⟨.initial, start, [], [], []⟩, []))
    (hc : Machine.Chronological CaptureEvent.reads start events) :
    J (arrivals c events) (runHandling c start events, []) := by
  have hrun := Machine.invariant_of_step (step c) CaptureEvent.reads (fun _ _ => True)
    (fun clock s taken => J (taken.map fun x => (x.before, x.event))
      (⟨s, clock, [], taken.flatMap fun x => x.output.effects,
        taken.flatMap fun x => x.output.calls⟩, []))
    (h := []) (s := .initial) (c := start) ?_ hinit (Machine.along_true _ _) hc
  · simpa [runHandling, run, effectsOf, callsOf, arrivals] using hrun
  intro clock s taken e hJ _ hreads
  obtain ⟨hfirst, hrest⟩ := List.pairwise_cons.mp hreads
  -- The event begins when its first reading is taken, and ends at its last one.
  have hstart := hbegin _ _ e hJ (hfirst _ List.mem_cons_self)
  have hparts := (handleUpTo_parts BlockList.maxExpiryCleanupsPerTick c s e hrest).behind
    (taken.flatMap fun x => x.output.effects) (taken.flatMap fun x => x.output.calls)
  have hend := hparts.rule (hpart _ s e) (by simpa [Behind, Handling.start] using hstart)
  have hlast := hpass _ _ ((CaptureEvent.reads e).getLastD clock) hend
    (handleUpTo_clock_le _ c s hreads)
  simpa [Behind, step, stepUpTo] using hlast

/-- The rule for a property of the handling alone. -/
theorem run_rule_handling {J : Handling F × List (EndedFlow F) → Prop}
    (hpass : ∀ h t later, J (h, []) → h.clock ≤ t →
      J ({ h with clock := t, later := later }, []))
    (hpart : ∀ s e x y, J x → Part c s e x y → J y)
    {start : TimePoint} {events : List (CaptureEvent F)}
    (hinit : J (⟨.initial, start, [], [], []⟩, []))
    (hc : Machine.Chronological CaptureEvent.reads start events) :
    J (runHandling c start events, []) :=
  run_rule (J := fun _ => J) (fun _ h t => hpass h t []) (fun _ h e => hpass h e.now e.later)
    (fun _ => hpart) hinit hc

end Runs

end InlineIps.PacketCapture
