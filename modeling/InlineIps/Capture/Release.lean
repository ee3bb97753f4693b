import InlineIps.Capture.Detection

/-!
# Release of blocked sources

A rule block forgets the flows of its source but keeps its statistics. So the evidence of a
block can outlive the block when the window is longer than the block time.

* `Released`, `released_run`: what the stored statistics of a blocked source can hold.
* `fresh_iff`: when every block of a source that was blocked before rests on new packets.
-/

namespace InlineIps

open Library

namespace FlowManager

variable {F : Type} [DoubleOps F] {c : FlowParams} {m : FlowManager F}

/-- The packet of a call, when it is entered in the statistics of its source. -/
def enteredPacket? (c : FlowParams) (m : FlowManager F) (call : FlowCall) : Option Observation :=
  match call with
  | .observe packet direction now =>
    (m.observePacket c packet direction now).2.map fun _ => ⟨packet, direction, now⟩
  | .extract _ => none
  | .discard _ => none
  | .cleanup _ => none

/-- The entered packets of a list of calls, in order. -/
def enteredPackets (c : FlowParams) (m : FlowManager F) (calls : List FlowCall) :
    List Observation :=
  (Machine.trace (call c) m calls).filterMap fun taken => enteredPacket? c taken.before taken.event

/-- A packet is entered in the statistics of its source and gets them back, or changes no
statistics. Only inbound packets are entered. -/
theorem observePacket_stats (packet : ParsedPacket) (direction : PacketDirection)
    (now : TimePoint) :
    ((m.observePacket c packet direction now).2 = none ∧
        (m.observePacket c packet direction now).1.sourceStats = m.sourceStats) ∨
      (direction = .inbound ∧
        (m.observePacket c packet direction now).2 =
          some ((currentStats c (m.sourceStats.lookup packet.tuple.srcIp) now).record packet) ∧
        (m.observePacket c packet direction now).1.sourceStats =
          m.sourceStats.assign packet.tuple.srcIp
            ((currentStats c (m.sourceStats.lookup packet.tuple.srcIp) now).record packet)) := by
  unfold observePacket
  by_cases hUnknown : direction = .unknown
  · rw [if_pos hUnknown]
    exact .inl ⟨rfl, rfl⟩
  · rw [if_neg hUnknown]
    dsimp only
    split
    · rename_i hCounted
      unfold updateSourceStats
      dsimp only
      rw [updateFlow_sourceStats]
      split
      · exact .inl ⟨rfl, updateFlow_sourceStats⟩
      · exact .inr ⟨inbound_of_counted hCounted, rfl, rfl⟩
    · exact .inl ⟨rfl, updateFlow_sourceStats⟩

/-! ## Statistics and the packets they count -/

omit [DoubleOps F]

theorem windowPorts_snoc (t : TimePoint) (items : List ParsedPacket) (packet : ParsedPacket) :
    windowPorts ⟨t, items ++ [packet]⟩ = insert packet.tuple.dstPort (windowPorts ⟨t, items⟩) := by
  ext port
  simp [windowPorts]

theorem windowSyns_snoc (t : TimePoint) (items : List ParsedPacket) (packet : ParsedPacket) :
    windowSyns ⟨t, items ++ [packet]⟩ =
      windowSyns ⟨t, items⟩ + if hasFlag packet.tcpFlags thSyn then 1 else 0 := by
  simp [windowSyns, List.countP_append, List.countP_singleton]

/-- The statistics count no more than the packets of the window. -/
structure Within (stats : SourceStats) (w : TumblingWindow TimePoint ParsedPacket) : Prop where
  ports : stats.recentDstPorts ⊆ windowPorts w
  syns : stats.synCount.toNat ≤ windowSyns w

theorem Within.record {stats : SourceStats} {t : TimePoint} {items : List ParsedPacket}
    (h : Within stats ⟨t, items⟩) (packet : ParsedPacket) :
    Within (stats.record packet) ⟨t, items ++ [packet]⟩ where
  ports := by
    rw [windowPorts_snoc]
    exact Finset.insert_subset_insert _ h.ports
  syns := by
    have hsyns := h.syns
    rw [windowSyns_snoc]
    show (countIf stats.synCount (hasFlag packet.tcpFlags thSyn)).toNat ≤ _
    cases hasFlag packet.tcpFlags thSyn with
    | false => simpa [countIf] using hsyns
    | true =>
      have hwrap : (stats.synCount + 1).toNat ≤ stats.synCount.toNat + 1 := by
        rw [UInt32.toNat_add]
        exact Nat.mod_le _ _
      simp only [countIf, if_true]
      omega

theorem within_opened (now t : TimePoint) (items : List ParsedPacket) :
    Within (SourceStats.opened now) ⟨t, items⟩ where
  ports := Finset.empty_subset _
  syns := Nat.zero_le _

theorem Within.mono {stats : SourceStats} {t t' : TimePoint} {items items' : List ParsedPacket}
    (h : Within stats ⟨t, items⟩) (hsub : items.Sublist items') : Within stats ⟨t', items'⟩ where
  ports := by
    refine h.ports.trans fun port hport => ?_
    simp only [windowPorts, List.mem_toFinset, List.mem_map] at hport ⊢
    obtain ⟨packet, hmem, rfl⟩ := hport
    exact ⟨packet, hsub.subset hmem, rfl⟩
  syns := h.syns.trans hsub.countP_le

/-- A packet is counted in statistics of a window that has not ended, or in new ones. -/
theorem currentStats_cases (c : FlowParams) (stats? : Option SourceStats) (now : TimePoint) :
    currentStats c stats? now = .opened now ∨
      ∃ stats, stats? = some stats ∧ currentStats c stats? now = stats ∧
        now < stats.windowStart + seconds c.windowSeconds := by
  cases stats? with
  | none => exact .inl rfl
  | some stats =>
    unfold currentStats
    dsimp only
    split
    · exact .inl rfl
    · rename_i hOpen
      exact .inr ⟨stats, rfl, rfl, sub_lt_iff_lt_add'.mp (not_le.mp hOpen)⟩

end FlowManager

namespace PacketCapture

open FlowManager

variable {F : Type} [DoubleOps F] {c : CaptureParams}

variable (F) in
/-- The packets of a source that are entered behind `t₁` and up to `t₂`. -/
def evidence (c : CaptureParams) (calls : List FlowCall) (ip : UInt32) (t₁ t₂ : TimePoint) :
    TumblingWindow TimePoint ParsedPacket :=
  ⟨t₁, ((enteredPackets c.flowParams (.empty : FlowManager F) calls).filter fun o =>
    o.packet.tuple.srcIp = ip ∧ t₁ < o.time ∧ o.time ≤ t₂).map Observation.packet⟩

/-- A source that a rule blocks a second time has reached a threshold since the first. -/
def FreshEvidence (c : CaptureParams) (events : List (CaptureEvent F)) : Prop :=
  ∀ ip t₁ t₂, t₁ < t₂ → .ruleBlock ⟨ip, t₁⟩ ∈ effectsOf c events →
    .ruleBlock ⟨ip, t₂⟩ ∈ effectsOf c events →
    ReachesThreshold c (evidence F c (callsOf c events) ip t₁ t₂)

/-! ## Evidence of a list of calls -/

theorem entered_append (calls calls' : List FlowCall) :
    enteredPackets c.flowParams (.empty : FlowManager F) (calls ++ calls') =
      enteredPackets c.flowParams (.empty : FlowManager F) calls ++
        enteredPackets c.flowParams (managerAfter c calls : FlowManager F) calls' := by
  simp [enteredPackets, managerAfter, Machine.trace_append]

theorem evidence_mono {calls calls' : List FlowCall} (hcalls : calls <+: calls') (ip : UInt32)
    (t₁ : TimePoint) {t₂ t₂' : TimePoint} (hle : t₂ ≤ t₂') :
    (evidence F c calls ip t₁ t₂).items.Sublist (evidence F c calls' ip t₁ t₂').items := by
  obtain ⟨rest, rfl⟩ := hcalls
  apply List.Sublist.map
  rw [entered_append, List.filter_append]
  refine List.Sublist.trans ?_ (List.sublist_append_left _ _)
  refine List.monotone_filter_right _ fun o ho => ?_
  simp only [decide_eq_true_eq] at ho ⊢
  exact ⟨ho.1, ho.2.1, ho.2.2.trans hle⟩

/-- A packet that is entered now. -/
theorem evidence_snoc {calls : List FlowCall} {packet : ParsedPacket} {now : TimePoint}
    {stats : SourceStats}
    (hstats : ((managerAfter c calls : FlowManager F).observePacket c.flowParams packet .inbound
      now).2 = some stats) {t₁ : TimePoint} (hlt : t₁ < now) :
    (evidence F c (calls ++ [.observe packet .inbound now]) packet.tuple.srcIp t₁ now).items =
      (evidence F c calls packet.tuple.srcIp t₁ now).items ++ [packet] := by
  unfold evidence
  dsimp only
  rw [entered_append, List.filter_append, List.map_append]
  simp [enteredPackets, enteredPacket?, hstats, hlt]

omit [DoubleOps F] in
theorem ReachesThreshold.mono {t u : TimePoint} {items items' : List ParsedPacket}
    (h : ReachesThreshold c ⟨t, items⟩) (hsub : items.Sublist items') :
    ReachesThreshold c ⟨u, items'⟩ := by
  rcases h with hports | hsyns
  · refine .inl (hports.trans (Finset.card_le_card ?_))
    intro port hport
    simp only [windowPorts, List.mem_toFinset, List.mem_map] at hport ⊢
    obtain ⟨packet, hmem, rfl⟩ := hport
    exact ⟨packet, hsub.subset hmem, rfl⟩
  · exact .inr (hsyns.trans hsub.countP_le)

/-- What a rule has found in the statistics is found in the packets they count. -/
theorem reaches_of_within {stats : SourceStats} {w : TumblingWindow TimePoint ParsedPacket}
    (h : Within stats w) (hhit : (RuleEngine.check c.rules stats).isSome = true) :
    ReachesThreshold c w := by
  rcases (RuleEngine.check_rules_isSome c.config stats).mp hhit with hports | hsyns
  · exact .inl (hports.trans (Finset.card_le_card h.ports))
  · exact .inr ((UInt32.le_iff_toNat_le.mp hsyns).trans h.syns)

/-! ## The invariant -/

/-- The stored statistics of a source that was blocked are those of a window that began before
the block, or count packets behind the block only. -/
structure Released (c : CaptureParams) (h : Handling F) : Prop where
  blocks : BlocksRecorded c h
  called : FlowsCalled c h
  opened : ∀ ip stats, h.capture.flowManager.sourceStats.lookup ip = some stats →
    stats.windowStart ≤ h.clock
  renewed : c.config.windowSeconds ≤ c.config.blockTtlSeconds → ∀ ip t₁,
    .ruleBlock ⟨ip, t₁⟩ ∈ h.effects → ∀ stats,
    h.capture.flowManager.sourceStats.lookup ip = some stats →
    stats.windowStart ≤ t₁ ∨ Within stats (evidence F c h.calls ip t₁ h.clock)
  fresh : ∀ ip t₁ t₂, t₁ < t₂ → .ruleBlock ⟨ip, t₁⟩ ∈ h.effects →
    .ruleBlock ⟨ip, t₂⟩ ∈ h.effects → ReachesThreshold c (evidence F c h.calls ip t₁ t₂)

/-- What adds no rule block and no statistics. -/
theorem Released.keep {h h' : Handling F} (hreleased : Released c h)
    (hblocks : BlocksRecorded c h') (hcalled : FlowsCalled c h') (hclock : h.clock ≤ h'.clock)
    (hcalls : h.calls <+: h'.calls)
    (heffects : ∀ event, .ruleBlock event ∈ h'.effects → .ruleBlock event ∈ h.effects)
    (hstats : ∀ ip stats, h'.capture.flowManager.sourceStats.lookup ip = some stats →
      h.capture.flowManager.sourceStats.lookup ip = some stats) : Released c h' where
  blocks := hblocks
  called := hcalled
  opened ip stats hlookup := (hreleased.opened ip stats (hstats ip stats hlookup)).trans hclock
  renewed hwindow ip t₁ hblock stats hlookup := by
    rcases hreleased.renewed hwindow ip t₁ (heffects _ hblock) stats
      (hstats ip stats hlookup) with hold | hwithin
    · exact .inl hold
    · exact .inr (hwithin.mono (evidence_mono hcalls ip t₁ hclock))
  fresh ip t₁ t₂ hlt hfirst hsecond :=
    (hreleased.fresh ip t₁ t₂ hlt (heffects _ hfirst) (heffects _ hsecond)).mono
      (evidence_mono hcalls ip t₁ le_rfl)

omit [DoubleOps F] in
theorem mem_blockEvents {effects : List (CaptureEffect F)} {event : BlockList.BlockEvent}
    (h : .ruleBlock event ∈ effects) : event ∈ blockEvents effects :=
  List.mem_filterMap.mpr ⟨_, h, rfl⟩

omit [DoubleOps F] in
/-- An address that is not blocked was last blocked at least the block time ago. -/
theorem BlocksRecorded.over {h : Handling F} (hblocks : BlocksRecorded c h) {ip : UInt32}
    {t₁ : TimePoint} (hblock : .ruleBlock ⟨ip, t₁⟩ ∈ h.effects) (hfree : Admitted c h ip) :
    t₁ + seconds c.config.blockTtlSeconds ≤ h.clock := by
  obtain ⟨t, hlast, hle⟩ := BlockList.le_lastBlock hblocks.1.ordered (mem_blockEvents hblock)
  by_contra hactive
  have hmem : ⟨ip, t⟩ ∈ blockEvents h.effects := by
    obtain ⟨event, hevent, rfl⟩ := List.mem_map.mp (List.mem_of_getLast? hlast)
    obtain ⟨hmem, hip⟩ := List.mem_filter.mp hevent
    rw [← show event.ip = ip from by simpa using hip]
    exact hmem
  have hblocked := (hblocks.1.exact ip h.clock le_rfl).mpr
    ⟨t, hlast, hblocks.1.past _ hmem, lt_of_lt_of_le (not_le.mp hactive)
      (Int.add_le_add_right hle _)⟩
  rw [hfree.2] at hblocked
  cases hblocked

section Parts

variable {h : Handling F} {packet : ParsedPacket} {stats : SourceStats}

/-- When the window is no longer than the block time, a packet behind a block is counted with
packets behind it only. -/
theorem Released.within (hreleased : Released c h) (hrange : c.config.InRange)
    (hwindow : c.config.windowSeconds ≤ c.config.blockTtlSeconds)
    (hadmitted : Admitted c h packet.tuple.srcIp)
    (hstats : (h.observe c packet .inbound h.clock).2 = some stats) {t₁ : TimePoint}
    (hblock : .ruleBlock ⟨packet.tuple.srcIp, t₁⟩ ∈ h.effects) :
    Within stats (evidence F c (h.calls ++ [.observe packet .inbound h.clock])
      packet.tuple.srcIp t₁ h.clock) := by
  have hover := hreleased.blocks.over hblock hadmitted
  have hlt : t₁ < h.clock := by
    have hpositive : 0 < seconds c.config.blockTtlSeconds := by
      have hone := hrange.blockTtl.1
      unfold seconds
      omega
    exact lt_of_lt_of_le (lt_add_of_pos_right t₁ hpositive) hover
  have hobserved : ((managerAfter c h.calls : FlowManager F).observePacket c.flowParams packet
      .inbound h.clock).2 = some stats := by
    have hmanager : h.capture.flowManager = managerAfter c h.calls := hreleased.called
    rw [← hmanager]
    exact hstats
  have hsnoc := evidence_snoc hobserved hlt
  show Within stats ⟨t₁, (evidence F c _ _ t₁ _).items⟩
  rw [hsnoc]
  rcases observePacket_stats (c := c.flowParams) (m := h.capture.flowManager) packet .inbound
    h.clock with ⟨hnone, -⟩ | ⟨-, hsome, -⟩
  · have hsame := hnone.symm.trans hstats
    cases hsame
  · have hsame := hsome.symm.trans hstats
    injection hsame with hsame
    subst hsame
    rcases currentStats_cases c.flowParams
      (h.capture.flowManager.sourceStats.lookup packet.tuple.srcIp) h.clock with
        hopened | ⟨stored, hstored, hcurrent, hopen⟩
    · rw [hopened]
      exact (within_opened _ _ _).record packet
    · rw [hcurrent]
      rcases hreleased.renewed hwindow _ t₁ hblock stored hstored with hold | hwithin
      · have hlonger : seconds c.config.windowSeconds ≤ seconds c.config.blockTtlSeconds := by
          unfold seconds
          omega
        have hends : h.clock < t₁ + seconds c.config.windowSeconds :=
          lt_of_lt_of_le hopen (Int.add_le_add_right hold _)
        exact absurd (hover.trans_lt hends) (not_lt.mpr (Int.add_le_add_left hlonger _))
      · exact Within.record hwithin packet

variable (packet) in
/-- A packet is observed. -/
theorem Released.observe (hreleased : Released c h) (hrange : c.config.InRange)
    (direction : PacketDirection)
    (hadmitted : direction = .inbound → Admitted c h packet.tuple.srcIp) :
    Released c (h.observe c packet direction h.clock).1 := by
  have hblocks : BlocksRecorded c (h.observe c packet direction h.clock).1 := hreleased.blocks
  have hcalled : FlowsCalled c (h.observe c packet direction h.clock).1 :=
    hreleased.called.append [.observe packet direction h.clock] rfl rfl
  have hcalls : h.calls <+: (h.observe c packet direction h.clock).1.calls :=
    List.prefix_append _ _
  rcases observePacket_stats (c := c.flowParams) (m := h.capture.flowManager) packet direction
    h.clock with ⟨-, hsame⟩ | ⟨rfl, hsome, hassigned⟩
  · refine hreleased.keep hblocks hcalled le_rfl hcalls (fun _ hmem => hmem) ?_
    intro ip stats hlookup
    rw [← hsame]
    exact hlookup
  · have hlookups : ∀ ip stats,
        (h.observe c packet .inbound h.clock).1.capture.flowManager.sourceStats.lookup ip =
          some stats →
        (ip = packet.tuple.srcIp ∧ (h.observe c packet .inbound h.clock).2 = some stats) ∨
          h.capture.flowManager.sourceStats.lookup ip = some stats := by
      intro ip stats hlookup
      have hnow := (congrArg (AList.lookup ip) hassigned).symm.trans hlookup
      rw [Table.lookup_assign] at hnow
      split at hnow
      · rename_i hip
        exact .inl ⟨hip, hsome.trans hnow⟩
      · exact .inr hnow
    refine ⟨hblocks, hcalled, ?_, ?_, ?_⟩
    · intro ip stats hlookup
      rcases hlookups ip stats hlookup with ⟨rfl, hstats⟩ | hold
      · have hvalue := hsome.symm.trans hstats
        injection hvalue with hvalue
        subst hvalue
        rcases currentStats_cases c.flowParams
          (h.capture.flowManager.sourceStats.lookup packet.tuple.srcIp) h.clock with
            hopened | ⟨stored, hstored, hcurrent, -⟩
        · rw [hopened]
          exact le_rfl
        · rw [hcurrent]
          exact hreleased.opened _ stored hstored
      · exact hreleased.opened ip stats hold
    · intro hwindow ip t₁ hblock stats hlookup
      rcases hlookups ip stats hlookup with ⟨rfl, hstats⟩ | hold
      · exact .inr (hreleased.within hrange hwindow (hadmitted rfl) hstats hblock)
      · rcases hreleased.renewed hwindow ip t₁ hblock stats hold with hbefore | hwithin
        · exact .inl hbefore
        · exact .inr (hwithin.mono (evidence_mono hcalls ip t₁ le_rfl))
    · intro ip t₁ t₂ hlt hfirst hsecond
      exact (hreleased.fresh ip t₁ t₂ hlt hfirst hsecond).mono (evidence_mono hcalls ip t₁ le_rfl)

/-- The block of a rule. -/
theorem Released.hit (hreleased : Released c h) (hrange : c.config.InRange)
    (hconfig : c.config.windowSeconds ≤ c.config.blockTtlSeconds ∨
      c.config.distinctPortThreshold = 1)
    (hadmitted : Admitted c h packet.tuple.srcIp)
    (hstats : (h.observe c packet .inbound h.clock).2 = some stats)
    (hhit : (RuleEngine.check c.rules stats).isSome = true) {h' : Handling F}
    (hblocks : BlocksRecorded c h') (hcalled : FlowsCalled c h') (hclock : h'.clock = h.clock)
    (hcalls : h'.calls = h.calls ++ [.observe packet .inbound h.clock] ++
      [.discard packet.tuple.srcIp])
    (heffects : h'.effects = h.effects ++ [.ruleBlock ⟨packet.tuple.srcIp, h.clock⟩])
    (hsources : h'.capture.flowManager.sourceStats =
      (h.observe c packet .inbound h.clock).1.capture.flowManager.sourceStats) :
    Released c h' := by
  have hobserved := hreleased.observe packet hrange .inbound fun _ => hadmitted
  have hprefix : h.calls ++ [.observe packet .inbound h.clock] <+: h'.calls := by
    rw [hcalls]
    exact List.prefix_append _ _
  have hcases : ∀ ip t, .ruleBlock ⟨ip, t⟩ ∈ h'.effects → .ruleBlock ⟨ip, t⟩ ∈ h.effects ∨
      ip = packet.tuple.srcIp ∧ t = h.clock := by
    intro ip t hmem
    rw [heffects] at hmem
    rcases List.mem_append.mp hmem with hold | hnew
    · exact .inl hold
    · injection List.mem_singleton.mp hnew with hevent
      injection hevent with hip ht
      exact .inr ⟨hip, ht⟩
  refine ⟨hblocks, hcalled, ?_, ?_, ?_⟩
  · intro ip stats hlookup
    rw [hsources] at hlookup
    rw [hclock]
    exact hobserved.opened ip stats hlookup
  · intro hwindow ip t₁ hblock stats hlookup
    rw [hsources] at hlookup
    rcases hcases ip t₁ hblock with hold | ⟨-, rfl⟩
    · rcases hobserved.renewed hwindow ip t₁ hold stats hlookup with hbefore | hwithin
      · exact .inl hbefore
      · exact .inr (hwithin.mono (evidence_mono hprefix ip t₁ (le_of_eq hclock.symm)))
    · exact .inl (hobserved.opened ip stats hlookup)
  · intro ip t₁ t₂ hlt hfirst hsecond
    rcases hcases ip t₁ hfirst with hold | ⟨-, rfl⟩
    · rcases hcases ip t₂ hsecond with hold' | ⟨rfl, rfl⟩
      · exact (hobserved.fresh ip t₁ t₂ hlt hold hold').mono (evidence_mono hprefix ip t₁ le_rfl)
      · refine ReachesThreshold.mono (t := t₁) ?_ (evidence_mono hprefix packet.tuple.srcIp t₁
          le_rfl)
        rcases hconfig with hwindow | hone
        · exact reaches_of_within (hreleased.within hrange hwindow hadmitted hstats hold) hhit
        · have hobserved : ((managerAfter c h.calls : FlowManager F).observePacket c.flowParams
              packet .inbound h.clock).2 = some stats := by
            have hmanager : h.capture.flowManager = managerAfter c h.calls := hreleased.called
            rw [← hmanager]
            exact hstats
          rw [evidence_snoc hobserved hlt]
          refine .inl ?_
          rw [hone, windowPorts_snoc]
          exact Finset.card_pos.mpr (Finset.insert_nonempty _ _)
    · exfalso
      have hpast := hblocks.1.past _ (mem_blockEvents hsecond)
      rw [hclock] at hpast
      exact absurd hlt (not_lt.mpr hpast)

end Parts

theorem Released.part {x y : Handling F × List (EndedFlow F)} {s : PacketCapture F}
    {e : CaptureEvent F} (hrange : c.config.InRange)
    (hconfig : c.config.windowSeconds ≤ c.config.blockTtlSeconds ∨
      c.config.distinctPortThreshold = 1)
    (hreleased : Released c x.1) (hpart : Part c s e x y) : Released c y.1 := by
  have hblocks := hreleased.blocks.part hpart
  have hcalled := hreleased.called.part hpart
  cases hpart with
  | observe h packet direction hArrival hDirection hAdmitted =>
    refine hreleased.observe packet hrange direction fun hInbound => ?_
    subst hInbound
    exact hAdmitted
  | hit h packet rule hArrival hAdmitted hPorts hHit =>
    obtain ⟨stats, hstats, hcheck⟩ := Option.bind_eq_some_iff.mp hHit
    exact hreleased.hit hrange hconfig hAdmitted hstats (by rw [hcheck]; rfl) hblocks hcalled rfl
      rfl rfl (discardSourceFlows_sourceStats _)
  | extract h key =>
    refine hreleased.keep hblocks hcalled le_rfl (List.prefix_append _ _) (fun _ hmem => hmem) ?_
    intro ip stats hlookup
    rw [← extractCompleted_sourceStats key]
    exact hlookup
  | aiBlock h decision =>
    refine hreleased.keep hblocks hcalled le_rfl (List.prefix_append _ _) ?_ ?_
    · intro event hmem
      simpa [blockByAi, Handling.emit, Handling.withCapture, Handling.discardAndBlock,
        Handling.withFlows] using hmem
    · intro ip stats hlookup
      rw [← discardSourceFlows_sourceStats decision.record.key.srcIp]
      exact hlookup
  | count h s' hCounted =>
    refine hreleased.keep hblocks hcalled le_rfl List.prefix_rfl (fun _ hmem => hmem) ?_
    intro ip stats hlookup
    rw [← hCounted.flowManager]
    exact hlookup
  | expire h =>
    refine hreleased.keep hblocks hcalled le_rfl (List.prefix_append _ _) (fun _ hmem => hmem) ?_
    intro ip stats hlookup
    exact BucketSweep.lookup_of_lookup_sweep hlookup
  | read h pending hLater =>
    have hsame : h.readClock.capture = h.capture ∧ h.readClock.effects = h.effects ∧
        h.readClock.calls = h.calls := by
      unfold Handling.readClock
      split <;> exact ⟨rfl, rfl, rfl⟩
    refine hreleased.keep hblocks hcalled hLater ?_ ?_ ?_
    · rw [hsame.2.2]
    · rw [hsame.2.1]
      exact fun _ hmem => hmem
    · rw [hsame.1]
      exact fun _ _ hlookup => hlookup
  | drop h ended pending => exact hreleased
  | submit h ended pending =>
    refine hreleased.keep hblocks hcalled le_rfl List.prefix_rfl ?_ (fun _ _ hlookup => hlookup)
    intro event hmem
    simpa [PacketCapture.submit, Handling.emit, Handling.withCapture] using hmem
  | release h limit now hNow =>
    exact hreleased.keep hblocks hcalled le_rfl List.prefix_rfl (fun _ hmem => hmem)
      (fun _ _ hlookup => hlookup)

/-- What every run keeps when the window is no longer than the block time, or one port is
enough. -/
theorem released_run {start : TimePoint} {events : List (CaptureEvent F)}
    (hrange : c.config.InRange)
    (hconfig : c.config.windowSeconds ≤ c.config.blockTtlSeconds ∨
      c.config.distinctPortThreshold = 1)
    (hc : Machine.Chronological CaptureEvent.reads start events) :
    Released c (runHandling c start events) := by
  refine run_rule_handling (J := fun x => Released c x.1) ?_
    (fun _ _ _ _ hreleased hpart => hreleased.part hrange hconfig hpart) ?_ hc
  · intro h t later hreleased hle
    exact hreleased.keep ⟨hreleased.blocks.1.pass hle, hreleased.blocks.2⟩ hreleased.called hle
      List.prefix_rfl (fun _ hmem => hmem) (fun _ _ hlookup => hlookup)
  · refine ⟨⟨BlockList.Recorded.empty _ _, by simp [blockEvents]⟩, rfl, ?_, ?_, ?_⟩
    · intro ip stats hlookup
      cases hlookup
    · intro hwindow ip t₁ hblock
      cases hblock
    · intro ip t₁ t₂ hlt hfirst
      cases hfirst

/-! ## A window longer than the block time -/

/-- What the handling of a counted packet leaves behind. -/
theorem step_entered {s : PacketCapture F} {e : CaptureEvent F} {data : List UInt8}
    {packet : ParsedPacket} (hInput : e.input = .packet data .inbound)
    (hParse : PacketParser.parse data = some packet) (hCounted : CountedAt c s packet e.now)
    {stats : SourceStats}
    (hStats : (s.flowManager.observePacket c.flowParams packet .inbound e.now).2 = some stats) :
    let m := (s.flowManager.observePacket c.flowParams packet .inbound e.now).1
    ((RuleEngine.check c.rules stats = none ∧ (step c s e).1.blockList = s.blockList ∧
        (step c s e).1.flowManager = (m.extractCompleted packet.tuple).1) ∨
      ((RuleEngine.check c.rules stats).isSome = true ∧
        .ruleBlock ⟨packet.tuple.srcIp, e.now⟩ ∈ (step c s e).2.effects ∧
        (step c s e).1.blockList =
          s.blockList.block packet.tuple.srcIp c.config.blockTtlSeconds e.now ∧
        (step c s e).1.flowManager = m.discardSourceFlows packet.tuple.srcIp)) := by
  rw [step_inbound hInput hParse, handleInbound_counted hCounted, hStats, Option.bind_some]
  cases RuleEngine.check c.rules stats with
  | none =>
    have hFinish := finishFlow_core (c := c)
      ((Handling.start s e).observe c packet .inbound e.now).1 packet
    exact .inl ⟨rfl, hFinish.1, hFinish.2.1⟩
  | some rule => exact .inr ⟨rfl, by simp [blockByRule, Handling.emit], rfl, rfl⟩

/-- An ACK of the same connection. -/
def ackBytes : List UInt8 :=
  [0x45, 0, 0, 40, 0, 0, 0, 0, 64, 6, 0, 0, 203, 0, 113, 5, 10, 0, 0, 1,
    0x30, 0x39, 0, 80, 0, 0, 0, 0, 0, 0, 0, 0, 0x50, 0x10, 0, 0, 0, 0, 0, 0]

def ackPacket : ParsedPacket := { synPacket with tcpFlags := thAck }

def floodParams (config : Config) : CaptureParams := { strictParams with config := config }

def synEvent : CaptureEvent F := ⟨.packet synBytes .inbound, 0, []⟩

/-- The ACK arrives when the block is over. -/
def ackEvent (config : Config) : CaptureEvent F :=
  ⟨.packet ackBytes .inbound, seconds config.blockTtlSeconds, []⟩

/-- As many SYNs as the threshold says, and the ACK. -/
def floodEvents (config : Config) : List (CaptureEvent F) :=
  List.replicate config.synThreshold.toNat synEvent ++ [ackEvent config]

theorem parse_ackBytes : PacketParser.parse ackBytes = some ackPacket := by decide

/-- The state after `k` SYNs, seen at time `now`. -/
structure Flooded (s : PacketCapture F) (k : Nat) (now : TimePoint) : Prop where
  free : s.blockList.isBlocked synPacket.tuple.srcIp now = false
  remote : ∀ key flow, s.flowManager.flows.lookup key = some flow →
    key = synPacket.tuple ∧ flow.origin = .remoteInitiated
  empty : k = 0 → s.flowManager.sourceStats = ∅
  stats : 0 < k → s.flowManager.sourceStats.lookup synPacket.tuple.srcIp =
    some ⟨{80}, UInt32.ofNat k, 0⟩

section Flood

variable {config : Config} {s : PacketCapture F} {k : Nat} {now : TimePoint}
  {packet : ParsedPacket}

/-- Every packet of the connection is counted. -/
theorem Flooded.counted (config : Config) (h : Flooded s k now)
    (htuple : packet.tuple = synPacket.tuple) :
    countedPacket? (floodParams config).flowParams s.flowManager (.observe packet .inbound now) =
      some ⟨packet, .inbound, now⟩ := by
  unfold countedPacket?
  refine if_pos ⟨by simp, ?_⟩
  rcases updateFlow_cases (floodParams config).flowParams s.flowManager packet .inbound now with
    ⟨flow, hflow, hupdate⟩ | ⟨flow, -, hflow, -⟩ | ⟨-, -, -, hupdate⟩ | ⟨-, -, -, hupdate⟩
  · rw [hupdate]
    simp [FlowManager.counted, (h.remote _ flow hflow).2]
  · have hkey := (h.remote _ flow hflow).1
    rw [htuple] at hkey
    exact absurd hkey (by decide)
  · rw [hupdate]
    simp [FlowManager.counted]
  · rw [hupdate]
    simp [FlowManager.counted]

variable (packet) in
/-- The statistics that a packet of the connection gets. -/
theorem Flooded.observed (config : Config) (h : Flooded s k now)
    (htuple : packet.tuple = synPacket.tuple) :
    let stats := (currentStats (floodParams config).flowParams
      (s.flowManager.sourceStats.lookup synPacket.tuple.srcIp) now).record packet
    (s.flowManager.observePacket (floodParams config).flowParams packet .inbound now).2 =
        some stats ∧
      (s.flowManager.observePacket (floodParams config).flowParams packet .inbound
        now).1.sourceStats = s.flowManager.sourceStats.assign synPacket.tuple.srcIp stats := by
  have hcounted := h.counted config htuple
  have hroom : RoomForSource (floodParams config).flowParams s.flowManager
      (.observe packet .inbound now) := by
    intro o ho hnew
    cases hcounted.symm.trans ho
    cases Nat.eq_zero_or_pos k with
    | inl hzero =>
      rw [h.empty hzero]
      exact Nat.succ_pos _
    | inr hpos =>
      rw [htuple] at hnew
      exact absurd (Table.mem_of_lookup (h.stats hpos)) hnew
  have hobserved := observePacket_counted hcounted hroom
  rw [htuple] at hobserved
  exact ⟨hobserved.2, hobserved.1⟩

/-- Observing a packet of the connection and removing flows leaves no other flow. -/
theorem Flooded.remote_observe (config : Config) (h : Flooded s k now)
    (htuple : packet.tuple = synPacket.tuple) {key : FiveTuple} {flow : Flow F}
    (hlookup : (s.flowManager.observePacket (floodParams config).flowParams packet .inbound
      now).1.flows.lookup key = some flow) :
    key = synPacket.tuple ∧ flow.origin = .remoteInitiated := by
  rw [(observePacket_flows _ _ packet (by simp) now).1] at hlookup
  rcases updateFlow_cases (floodParams config).flowParams s.flowManager packet .inbound now with
    ⟨old, hold, hupdate⟩ | ⟨old, -, hold, -⟩ | ⟨-, -, -, hupdate⟩ | ⟨-, -, -, hupdate⟩
  · rw [hupdate] at hlookup
    simp only [storeFlow, Table.lookup_assign] at hlookup
    split at hlookup
    · rename_i hkey
      cases hlookup
      exact ⟨hkey.trans htuple, (h.remote _ old hold).2⟩
    · exact h.remote _ flow hlookup
  · have hkey := (h.remote _ old hold).1
    rw [htuple] at hkey
    exact absurd hkey (by decide)
  · rw [hupdate] at hlookup
    simp only [openFlow, Table.lookup_assign] at hlookup
    split at hlookup
    · rename_i hkey
      cases hlookup
      exact ⟨hkey.trans htuple, rfl⟩
    · exact h.remote _ flow hlookup
  · rw [hupdate] at hlookup
    exact h.remote _ flow hlookup

omit [DoubleOps F] in
theorem lookup_of_discard {m : FlowManager F} {ip : UInt32} {key : FiveTuple} {flow : Flow F}
    (hlookup : (m.discardSourceFlows ip).flows.lookup key = some flow) :
    m.flows.lookup key = some flow := by
  unfold discardSourceFlows at hlookup
  split at hlookup
  · exact hlookup
  · exact (Table.lookup_filter_eq_some.mp hlookup).1

omit [DoubleOps F] in
/-- One more SYN in the window. -/
theorem Flooded.synStats (config : Config) (h : Flooded s k 0) (hrange : config.InRange) :
    (currentStats (floodParams config).flowParams
      (s.flowManager.sourceStats.lookup synPacket.tuple.srcIp) 0).record synPacket =
        ⟨{80}, UInt32.ofNat (k + 1), 0⟩ := by
  cases k with
  | zero =>
    rw [h.empty rfl]
    rfl
  | succ k =>
    rw [h.stats (Nat.succ_pos k)]
    have hopen : ¬ seconds config.windowSeconds ≤ 0 - 0 := by
      have hone := hrange.window.1
      unfold seconds
      omega
    have hcurrent : currentStats (floodParams config).flowParams
        (some ⟨{80}, UInt32.ofNat (k + 1), 0⟩) 0 = ⟨{80}, UInt32.ofNat (k + 1), 0⟩ := if_neg hopen
    rw [hcurrent, UInt32.ofNat_add (k + 1) 1]
    rfl

/-- The rules see the SYNs of one connection. -/
theorem check_flood (hports : 2 ≤ config.distinctPortThreshold) {n : Nat} (hn : n < 2 ^ 32)
    (t : TimePoint) :
    (RuleEngine.check (floodParams config).rules ⟨{80}, UInt32.ofNat n, t⟩).isSome = true ↔
      config.synThreshold.toNat ≤ n := by
  have hcheck := RuleEngine.check_rules_isSome config ⟨{80}, UInt32.ofNat n, t⟩
  refine hcheck.trans ?_
  rw [UInt32.le_iff_toNat_le, UInt32.toNat_ofNat_of_lt' hn, Finset.card_singleton]
  omega

/-- A SYN either leaves the source free and brings it closer to the threshold, or blocks it. -/
theorem Flooded.synStep (config : Config) (h : Flooded s k 0) (hrange : config.InRange)
    (hports : 2 ≤ config.distinctPortThreshold) (hk : k < config.synThreshold.toNat) :
    (k + 1 < config.synThreshold.toNat ∧
        Flooded (step (floodParams config) s synEvent).1 (k + 1) 0) ∨
      (k + 1 = config.synThreshold.toNat ∧
        .ruleBlock ⟨synPacket.tuple.srcIp, 0⟩ ∈ (step (floodParams config) s synEvent).2.effects ∧
        Flooded (step (floodParams config) s synEvent).1 (k + 1)
          (seconds config.blockTtlSeconds)) := by
  have hbound : k + 1 < 2 ^ 32 := lt_of_le_of_lt hk config.synThreshold.toNat_lt
  have hobserved := h.observed synPacket config rfl
  rw [h.synStats config hrange] at hobserved
  have hcounted : CountedAt (floodParams config) s synPacket 0 :=
    ⟨rfl, h.free, rfl, h.counted config rfl⟩
  have hstats := hobserved.2
  have hcheck := check_flood hports hbound 0
  rcases step_entered (e := synEvent) rfl parse_synBytes hcounted hobserved.1 with
    ⟨hmiss, hblocks, hmanager⟩ | ⟨hhit, heffect, hblocks, hmanager⟩
  · refine .inl ⟨?_, ?_, ?_, fun hzero => absurd hzero (Nat.succ_ne_zero k), fun _ => ?_⟩
    · rw [hmiss] at hcheck
      simpa using hcheck
    · rw [hblocks]
      exact h.free
    · intro key flow hlookup
      rw [hmanager] at hlookup
      exact h.remote_observe config rfl (extractCompleted_lookup hlookup)
    · rw [hmanager, extractCompleted_sourceStats]
      exact (congrArg (AList.lookup _) hstats).trans (by rw [Table.lookup_assign, if_pos rfl])
  · refine .inr ⟨le_antisymm hk (hcheck.mp hhit), heffect, ?_, ?_,
      fun hzero => absurd hzero (Nat.succ_ne_zero k), fun _ => ?_⟩
    · rw [hblocks, BlockList.isBlocked_block, if_pos rfl]
      show decide (seconds config.blockTtlSeconds < 0 + seconds config.blockTtlSeconds) = false
      simp
    · intro key flow hlookup
      rw [hmanager] at hlookup
      exact h.remote_observe config rfl (lookup_of_discard hlookup)
    · rw [hmanager, discardSourceFlows_sourceStats]
      exact (congrArg (AList.lookup _) hstats).trans (by rw [Table.lookup_assign, if_pos rfl])

/-- The ACK behind the block is counted with the SYNs of the block. -/
theorem Flooded.ackStep (config : Config)
    (h : Flooded s config.synThreshold.toNat (seconds config.blockTtlSeconds))
    (hrange : config.InRange) (hports : 2 ≤ config.distinctPortThreshold)
    (hlonger : config.blockTtlSeconds < config.windowSeconds) :
    .ruleBlock ⟨synPacket.tuple.srcIp, seconds config.blockTtlSeconds⟩ ∈
      (step (floodParams config) s (ackEvent config)).2.effects := by
  have hpositive : 0 < config.synThreshold.toNat := UInt32.le_iff_toNat_le.mp hrange.syns
  have hopen : ¬ seconds config.windowSeconds ≤ seconds config.blockTtlSeconds - 0 := by
    unfold seconds
    omega
  have hcurrent : (currentStats (floodParams config).flowParams
      (s.flowManager.sourceStats.lookup synPacket.tuple.srcIp)
      (seconds config.blockTtlSeconds)).record ackPacket =
        ⟨{80}, UInt32.ofNat config.synThreshold.toNat, 0⟩ := by
    rw [h.stats hpositive]
    exact congrArg (SourceStats.record · ackPacket) (if_neg hopen)
  have hobserved := (h.observed ackPacket config rfl).1
  rw [hcurrent] at hobserved
  have hcounted : CountedAt (floodParams config) s ackPacket (seconds config.blockTtlSeconds) :=
    ⟨rfl, h.free, rfl, h.counted config rfl⟩
  have hcheck := (check_flood hports config.synThreshold.toNat_lt 0).mpr le_rfl
  rcases step_entered (e := ackEvent config) rfl parse_ackBytes hcounted hobserved with
    ⟨hmiss, -⟩ | ⟨-, heffect, -⟩
  · rw [hmiss] at hcheck
    cases hcheck
  · exact heffect

end Flood

theorem effectsOf_snoc (c : CaptureParams) (before : List (CaptureEvent F)) (e : CaptureEvent F) :
    effectsOf c (before ++ [e]) = effectsOf c before ++ (step c (run c before) e).2.effects := by
  simp [effectsOf, run, Machine.trace_append]

/-- The SYNs below the threshold. -/
theorem flooded_run (config : Config) (hrange : config.InRange)
    (hports : 2 ≤ config.distinctPortThreshold) {k : Nat} (hk : k < config.synThreshold.toNat) :
    Flooded (run (floodParams config) (List.replicate k (synEvent : CaptureEvent F))) k 0 := by
  induction k with
  | zero =>
    refine ⟨rfl, ?_, fun _ => rfl, fun hpos => absurd hpos (Nat.lt_irrefl 0)⟩
    intro key flow hlookup
    cases hlookup
  | succ k ih =>
    rw [List.replicate_succ', run_snoc]
    rcases (ih (Nat.lt_of_succ_lt hk)).synStep config hrange hports (Nat.lt_of_succ_lt hk) with
      ⟨-, hflooded⟩ | ⟨hfull, -⟩
    · exact hflooded
    · exact absurd hfull (Nat.ne_of_lt hk)

omit [DoubleOps F] in
theorem floodEvents_chronological (config : Config) (hrange : config.InRange) :
    Machine.Chronological CaptureEvent.reads 0 (floodEvents config : List (CaptureEvent F)) := by
  have hsyns : ∀ n, Machine.Chronological CaptureEvent.reads 0
      (List.replicate n (synEvent : CaptureEvent F)) ∧
      Machine.finish CaptureEvent.reads 0 (List.replicate n (synEvent : CaptureEvent F)) = 0 := by
    intro n
    induction n with
    | zero => exact ⟨List.pairwise_singleton _ _, rfl⟩
    | succ n ih =>
      rw [List.replicate_succ, Machine.chronological_cons]
      have hreads : List.Pairwise (· ≤ ·) [(0 : Int), 0] := by decide
      exact ⟨⟨hreads, ih.1⟩, ih.2⟩
  refine Machine.chronological_append.mpr ⟨(hsyns _).1, ?_⟩
  rw [(hsyns _).2]
  have hlater : (0 : Int) ≤ seconds config.blockTtlSeconds := by
    have hone := hrange.blockTtl.1
    unfold seconds
    omega
  exact List.pairwise_cons.mpr ⟨fun t ht => by rw [List.mem_singleton.mp ht]; exact hlater,
    List.pairwise_singleton _ _⟩

/-- Entered packets are observed ones. -/
theorem entered_sublist (m : FlowManager F) (calls : List FlowCall) :
    (enteredPackets c.flowParams m calls).Sublist (observations calls) := by
  induction calls generalizing m with
  | nil => exact List.nil_sublist _
  | cons call calls ih =>
    have hhead : (enteredPacket? c.flowParams m call).toList.Sublist
        call.observation?.toList := by
      cases call with
      | observe packet direction now =>
        show ((m.observePacket c.flowParams packet direction now).2.map _).toList.Sublist
          [(⟨packet, direction, now⟩ : Observation)]
        cases (m.observePacket c.flowParams packet direction now).2 with
        | none => exact List.nil_sublist _
        | some stats => exact List.Sublist.refl _
      | extract key => exact List.nil_sublist _
      | discard ip => exact List.nil_sublist _
      | cleanup now => exact List.nil_sublist _
    have hentered : enteredPackets c.flowParams m (call :: calls) =
        (enteredPacket? c.flowParams m call).toList ++
          enteredPackets c.flowParams (FlowManager.call c.flowParams m call).1 calls := by
      unfold enteredPackets
      rw [Machine.trace_cons, List.filterMap_cons]
      cases enteredPacket? c.flowParams m call <;> rfl
    have hobserved : observations (call :: calls) =
        call.observation?.toList ++ observations calls := by
      unfold observations
      rw [List.filterMap_cons]
      cases call.observation? <;> rfl
    rw [hentered, hobserved]
    exact hhead.append (ih _)

/-- Behind the block there is the ACK only. -/
theorem evidence_flood (config : Config) :
    (evidence F (floodParams config) (callsOf (floodParams config)
      (floodEvents config : List (CaptureEvent F))) synPacket.tuple.srcIp 0
      (seconds config.blockTtlSeconds)).items.Sublist [ackPacket] := by
  have hentered := (entered_sublist (c := floodParams config) (.empty : FlowManager F) _).trans
    (observations_callsOf (floodParams config) (floodEvents config : List (CaptureEvent F)))
  have hevents : (floodEvents config : List (CaptureEvent F)).filterMap observed? =
      List.replicate config.synThreshold.toNat ⟨synPacket, .inbound, 0⟩ ++
        [⟨ackPacket, .inbound, seconds config.blockTtlSeconds⟩] := by
    have hsyn : observed? (synEvent : CaptureEvent F) = some ⟨synPacket, .inbound, 0⟩ := by
      simp [observed?, synEvent, parse_synBytes]
    have hack : observed? (ackEvent config : CaptureEvent F) =
        some ⟨ackPacket, .inbound, seconds config.blockTtlSeconds⟩ := by
      simp [observed?, ackEvent, parse_ackBytes]
    rw [floodEvents, List.filterMap_append, List.filterMap_replicate_of_some hsyn]
    simp [hack]
  rw [hevents] at hentered
  refine ((hentered.filter _).map Observation.packet).trans ?_
  rw [List.filter_append, List.map_append, List.filter_replicate_of_neg (by simp)]
  exact (List.filter_sublist.map _)

/-- With a window longer than the block time the ACK is dropped for the SYNs of the block. -/
theorem flood_notFresh (F : Type) [DoubleOps F] (config : Config) (hrange : config.InRange)
    (hports : 2 ≤ config.distinctPortThreshold)
    (hlonger : config.blockTtlSeconds < config.windowSeconds) :
    ¬ FreshEvidence (floodParams config) (floodEvents config : List (CaptureEvent F)) := by
  intro hfresh
  have hpositive : 0 < config.synThreshold.toNat := UInt32.le_iff_toNat_le.mp hrange.syns
  obtain ⟨k, hk⟩ := Nat.exists_eq_add_one_of_ne_zero (Nat.ne_of_gt hpositive)
  have hlast : k < config.synThreshold.toNat := by omega
  rcases (flooded_run (F := F) config hrange hports hlast).synStep config hrange hports hlast with
    ⟨hless, -⟩ | ⟨-, hfirst, hflooded⟩
  · exact absurd hk.symm (Nat.ne_of_lt hless)
  · have hsyns : List.replicate config.synThreshold.toNat (synEvent : CaptureEvent F) =
        List.replicate k synEvent ++ [synEvent] := by
      rw [hk, List.replicate_succ']
    rw [← run_snoc, ← hsyns, ← hk] at hflooded
    have hsecond := hflooded.ackStep config hrange hports hlonger
    have heffects : effectsOf (floodParams config) (floodEvents config : List (CaptureEvent F)) =
        effectsOf (floodParams config) (List.replicate k synEvent) ++
          (step (floodParams config) (run (floodParams config) (List.replicate k synEvent))
            synEvent).2.effects ++
          (step (floodParams config) (run (floodParams config)
            (List.replicate config.synThreshold.toNat synEvent)) (ackEvent config)).2.effects := by
      rw [floodEvents, effectsOf_snoc, ← effectsOf_snoc _ _ synEvent, ← hsyns]
    have hlater : (0 : Int) < seconds config.blockTtlSeconds := by
      have hone := hrange.blockTtl.1
      unfold seconds
      omega
    have hreached := (hfresh synPacket.tuple.srcIp 0 _ hlater
      (by rw [heffects]; exact List.mem_append_left _ (List.mem_append_right _ hfirst))
      (by rw [heffects]; exact List.mem_append_right _ hsecond)).mono (u := 0)
        (evidence_flood config)
    rcases hreached with hreached | hreached
    · exact absurd (hports.trans hreached) (by decide)
    · exact absurd (hpositive.trans_le hreached) (by decide)

/-- **Blocks rest on new packets, in all runs of a configuration, exactly when its window is no
longer than its block time or a single port is enough for a block.** -/
theorem fresh_iff (F : Type) [DoubleOps F] (config : Config) (hrange : config.InRange) :
    (∀ (c : CaptureParams) (start : TimePoint) (events : List (CaptureEvent F)),
      c.config = config → Machine.Chronological CaptureEvent.reads start events →
      FreshEvidence c events) ↔
      config.windowSeconds ≤ config.blockTtlSeconds ∨ config.distinctPortThreshold = 1 := by
  constructor
  · intro hfresh
    by_contra hneither
    obtain ⟨hlonger, hmany⟩ := not_or.mp hneither
    have hports : 2 ≤ config.distinctPortThreshold := by
      have hone := hrange.distinctPorts.1
      omega
    exact flood_notFresh F config hrange hports (not_le.mp hlonger)
      (hfresh (floodParams config) 0 _ rfl (floodEvents_chronological config hrange))
  · rintro hconfig c start events rfl hc
    exact (released_run hrange hconfig hc).fresh

/-- A block of one second and a window of ten. -/
def shortBlock : Config := { blockTtlSeconds := 1, distinctPortThreshold := 2, synThreshold := 1 }

/-- A SYN is blocked, and so is the ACK behind the block. -/
theorem shortBlock_notFresh : shortBlock.InRange ∧
    Machine.Chronological CaptureEvent.reads 0 (floodEvents shortBlock : List (CaptureEvent Float)) ∧
    ¬ FreshEvidence (floodParams shortBlock)
      (floodEvents shortBlock : List (CaptureEvent Float)) := by
  have hrange : shortBlock.InRange := ⟨by decide, by decide, by decide, by decide⟩
  exact ⟨hrange, floodEvents_chronological shortBlock hrange,
    flood_notFresh Float shortBlock hrange (by decide) (by decide)⟩

/-- With the default configuration the ACK behind the block passes. -/
theorem defaults_fresh :
    FreshEvidence (floodParams {}) (floodEvents {} : List (CaptureEvent Float)) := by
  have hrange : ({} : Config).InRange := ⟨by decide, by decide, by decide, by decide⟩
  exact (fresh_iff Float {} hrange).mpr (.inl (by decide)) (floodParams {}) 0 _ rfl
    (floodEvents_chronological {} hrange)

end PacketCapture

end InlineIps
