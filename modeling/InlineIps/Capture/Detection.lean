import InlineIps.Capture.Selection
import InlineIps.Flow.SourceWindow

/-!
# Rule detection

The rules see, for every counted packet, the statistics of the reference window of its
source, so a counted packet is blocked exactly when that window reaches a threshold.

* `step_counted`: what the handling of a counted packet does.
* `detection_exact`: detection equals the reference detector.
-/

namespace InlineIps.PacketCapture

open Library FlowManager

variable {F : Type} [DoubleOps F] {c : CaptureParams}

/-- `handle_inbound` passes the packet on to `update_source_stats`. -/
def CountedAt (c : CaptureParams) (s : PacketCapture F) (packet : ParsedPacket)
    (now : TimePoint) : Prop :=
  c.whitelist.isWhitelisted packet.tuple.srcIp = false ∧
    s.blockList.isBlocked packet.tuple.srcIp now = false ∧ packet.hasPorts = true ∧
    countedPacket? c.flowParams s.flowManager (.observe packet .inbound now) =
      some ⟨packet, .inbound, now⟩

/-- The counted packets of a run, in order. -/
def countedOf (c : CaptureParams) (events : List (CaptureEvent F)) : List Observation :=
  countedPackets c.flowParams (.empty : FlowManager F) (callsOf c events)

/-- Whenever a new source is counted in the run, the source table has room for it. -/
def SourcesFit (c : CaptureParams) (events : List (CaptureEvent F)) : Prop :=
  Machine.Along (FlowManager.call (F := F) c.flowParams) (RoomForSource c.flowParams) .empty
    (callsOf c events)

instance (c : CaptureParams) (events : List (CaptureEvent F)) : Decidable (SourcesFit c events) :=
  inferInstanceAs (Decidable (Machine.Along _ _ _ _))

/-- The window reaches one of the thresholds. -/
def ReachesThreshold (c : CaptureParams) (w : TumblingWindow TimePoint ParsedPacket) : Prop :=
  c.config.distinctPortThreshold ≤ (windowPorts w).card ∨
    c.config.synThreshold.toNat ≤ windowSyns w

instance (c : CaptureParams) (w : TumblingWindow TimePoint ParsedPacket) :
    Decidable (ReachesThreshold c w) := inferInstanceAs (Decidable (_ ∨ _))

/-- An inbound packet that can be parsed. -/
theorem step_inbound {s : PacketCapture F} {e : CaptureEvent F} {data : List UInt8}
    {packet : ParsedPacket} (hInput : e.input = .packet data .inbound)
    (hParse : PacketParser.parse data = some packet) :
    step c s e = ((handleInbound c (.start s e) packet e.now).1.capture,
      { verdict := some (handleInbound c (.start s e) packet e.now).2
        effects := (handleInbound c (.start s e) packet e.now).1.effects
        calls := (handleInbound c (.start s e) packet e.now).1.calls }) := by
  unfold step stepUpTo handleUpTo
  rw [hInput]
  simp only [onPacket, hParse]
  rfl

/-- A counted packet goes to the rules. -/
theorem handleInbound_counted {s : PacketCapture F} {e : CaptureEvent F} {packet : ParsedPacket}
    (hCounted : CountedAt c s packet e.now) : handleInbound c (.start s e) packet e.now =
      match (s.flowManager.observePacket c.flowParams packet .inbound e.now).2.bind
        (RuleEngine.check c.rules) with
      | some _ =>
        (blockByRule c ((Handling.start s e).observe c packet .inbound e.now).1 packet.tuple.srcIp
          e.now, false)
      | none =>
        (finishFlow c ((Handling.start s e).observe c packet .inbound e.now).1 packet, true) := by
  obtain ⟨hWhite, hFree, hPorts, -⟩ := hCounted
  have hStart : (Handling.start s e).capture = s := rfl
  unfold handleInbound
  dsimp only
  rw [if_neg (by simp [hWhite]), if_neg (by simp [hStart, hFree]), if_neg (by simp [hPorts])]
  rfl

/-- A counted packet is observed first. It is then dropped and its source blocked when a
rule matches, and passes otherwise. -/
theorem step_counted {s : PacketCapture F} {e : CaptureEvent F} {data : List UInt8}
    {packet : ParsedPacket} (hInput : e.input = .packet data .inbound)
    (hParse : PacketParser.parse data = some packet) (hCounted : CountedAt c s packet e.now) :
    (∃ rest, (step c s e).2.calls = .observe packet .inbound e.now :: rest) ∧
      ((step c s e).2.verdict = some false ∧
          .ruleBlock ⟨packet.tuple.srcIp, e.now⟩ ∈ (step c s e).2.effects ↔
        ((s.flowManager.observePacket c.flowParams packet .inbound e.now).2.bind
          (RuleEngine.check c.rules)).isSome = true) := by
  rw [step_inbound hInput hParse, handleInbound_counted hCounted]
  cases (s.flowManager.observePacket c.flowParams packet .inbound e.now).2.bind
      (RuleEngine.check c.rules) with
  | some rule =>
    refine ⟨⟨_, rfl⟩, ?_⟩
    simp [blockByRule, Handling.emit]
  | none =>
    refine ⟨⟨[.extract packet.tuple], ?_⟩, by simp⟩
    dsimp only
    rw [finishFlow_calls]
    rfl

/-- The rules compare with the reference window, as long as its SYN count fits the
counter. -/
theorem check_statsOf {stats : SourceStats} {w : TumblingWindow TimePoint ParsedPacket}
    (hStats : StatsOf stats w) (hSyns : windowSyns w < 2 ^ 32) :
    (RuleEngine.check c.rules stats).isSome = true ↔ ReachesThreshold c w := by
  unfold CaptureParams.rules ReachesThreshold
  rw [RuleEngine.check_rules_isSome, hStats.ports, hStats.syns, UInt32.le_iff_toNat_le,
    UInt32.toNat_ofNat_of_lt' hSyns]

/-- **Detection.** In a run in which new sources find room, every counted packet belongs to
a reference window of its source. As long as that window has fewer than `2^32` SYNs, the
packet is dropped and its source blocked exactly when the window reaches a threshold. The
statistics that are stored are those of the reference windows, and where none are stored
the window has ended. -/
theorem detection_exact (c : CaptureParams) (start : TimePoint)
    (before : List (CaptureEvent F)) (e : CaptureEvent F) (data : List UInt8)
    (packet : ParsedPacket)
    (hc : Machine.Chronological CaptureEvent.reads start (before ++ [e]))
    (hFit : SourcesFit c (before ++ [e])) (hInput : e.input = .packet data .inbound)
    (hParse : PacketParser.parse data = some packet)
    (hCounted : CountedAt c (run c before) packet e.now) :
    (∃ w, referenceWindow c.flowParams (countedOf c before ++ [⟨packet, .inbound, e.now⟩])
        packet.tuple.srcIp = some w ∧
      (windowSyns w < 2 ^ 32 →
        ((step c (run c before) e).2.verdict = some false ∧
            .ruleBlock ⟨packet.tuple.srcIp, e.now⟩ ∈ (step c (run c before) e).2.effects ↔
          ReachesThreshold c w))) ∧
    StatsMatch c.flowParams (Machine.finish CaptureEvent.reads start before)
      (run c before).flowManager.sourceStats (countedOf c before) := by
  obtain ⟨hBefore, hRest⟩ := Machine.chronological_append.mp hc
  have hNow : Machine.finish CaptureEvent.reads start before ≤ e.now :=
    (List.pairwise_cons.mp (Machine.chronological_cons.mp hRest).1).1 _ List.mem_cons_self
  obtain ⟨⟨rest, hCalls⟩, hDrop⟩ := step_counted hInput hParse hCounted
  rw [SourcesFit, callsOf_snoc, Machine.along_append, hCalls] at hFit
  obtain ⟨hFitBefore, hRoom, -⟩ := hFit
  have hManager : (run c before).flowManager =
      Machine.exec (FlowManager.call c.flowParams) .empty (callsOf c before) :=
    flowManager_run c before
  rw [← hManager] at hRoom
  have hMatch : StatsMatch c.flowParams (Machine.finish CaptureEvent.reads start before)
      (run c before).flowManager.sourceStats (countedOf c before) := by
    rw [hManager]
    exact (statsMatch_exec (chronological_callsOf hBefore) hFitBefore).pass
      (finish_callsOf_le hBefore)
  have hWindow := referenceWindow_snoc c.flowParams (countedOf c before)
    ⟨packet, .inbound, e.now⟩ packet.tuple.srcIp
  rw [if_pos rfl] at hWindow
  refine ⟨⟨_, hWindow, fun hSyns => ?_⟩, hMatch⟩
  rw [hDrop, (observePacket_counted hCounted.2.2.2 hRoom).2, Option.bind_some]
  have hStats := statsOf_push (hMatch.stored packet.tuple.srcIp)
    ((hMatch.pass hNow).missing packet.tuple.srcIp) packet
  exact check_statsOf hStats hSyns

/-- A sensor that blocks at the second SYN. -/
def twoSynParams : CaptureParams := { strictParams with config := { synThreshold := 2 } }

/-- Two hosts whose windows end. The one of the first is cleaned up, the one of the other is reset. -/
def endedWindows : List (CaptureEvent Float) := [
  ⟨.packet synBytes .inbound, seconds 1, []⟩,
  ⟨.packet otherBytes .inbound, seconds 2, []⟩,
  ⟨.tick [], 11500000000, []⟩,
  ⟨.packet otherBytes .inbound, seconds 13, []⟩]

def nextSyn : CaptureEvent Float := ⟨.packet synBytes .inbound, seconds 14, []⟩

def lastSyn : CaptureEvent Float := ⟨.packet synBytes .inbound, seconds 15, []⟩

/-- The SYN of the ended window does not count any more. The next two do. -/
theorem detection_exact_endedWindows :
    ¬ ((step twoSynParams (run twoSynParams endedWindows) nextSyn).2.verdict = some false ∧
        .ruleBlock ⟨synPacket.tuple.srcIp, seconds 14⟩ ∈
          (step twoSynParams (run twoSynParams endedWindows) nextSyn).2.effects) ∧
      (step twoSynParams (run twoSynParams (endedWindows ++ [nextSyn])) lastSyn).2.verdict =
        some false := by
  obtain ⟨⟨first, hfirst, hpasses⟩, -⟩ := detection_exact twoSynParams 0 endedWindows nextSyn synBytes
    synPacket (by decide) (by decide +kernel) rfl parse_synBytes
    ⟨by decide, by decide +kernel, by decide, by decide +kernel⟩
  obtain ⟨⟨second, hsecond, hdrops⟩, -⟩ := detection_exact twoSynParams 0
    (endedWindows ++ [nextSyn]) lastSyn synBytes synPacket (by decide) (by decide +kernel) rfl
    parse_synBytes ⟨by decide, by decide +kernel, by decide, by decide +kernel⟩
  obtain rfl : first = ⟨seconds 14, [synPacket]⟩ := Option.some.inj (hfirst.symm.trans (by rfl))
  obtain rfl : second = ⟨seconds 14, [synPacket, synPacket]⟩ :=
    Option.some.inj (hsecond.symm.trans (by rfl))
  exact ⟨fun hdrop => absurd ((hpasses (by decide)).mp hdrop) (by decide),
    ((hdrops (by decide)).mpr (.inr (by decide))).1⟩

end InlineIps.PacketCapture
