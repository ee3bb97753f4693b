import InlineIps.Capture.Calls
import InlineIps.Capture.Verdict
import InlineIps.Flow.Isolation

/-!
# Hosts do not influence each other

Below the caps, what happens to one remote address depends on its own packets and decisions.
Two runs are compared, of all events and of those that concern the address. The flow tables,
the statistics and the block list are shared by all addresses; `Apart` says in which parts of
them the two runs agree.

* `project`: the events that concern an address.
* `Apart`, `isolated_step`: the relation of the two runs and how one event keeps it.
* `verdicts_isolated`: the two runs give the address the same verdicts and blocks.
-/

namespace InlineIps.PacketCapture

open Library FlowManager

variable {F : Type}

/-- Packets with the address at an end, and all ticks. -/
def concerns (s : UInt32) (e : CaptureEvent F) : Bool :=
  match e.input with
  | .packet data _ => (PacketParser.parse data).any fun packet => Touches s packet.tuple
  | .tick _ => true

/-- A tick without the decisions for other sources. -/
def restrict (s : UInt32) (e : CaptureEvent F) : CaptureEvent F :=
  match e.input with
  | .packet _ _ => e
  | .tick decisions =>
    { e with input := .tick (decisions.filter fun decision => decision.record.key.srcIp = s) }

/-- The run without the packets of other hosts and the decisions for them. -/
def project (s : UInt32) (events : List (CaptureEvent F)) : List (CaptureEvent F) :=
  (events.filter (concerns s)).map (restrict s)

/-- The block events of one address. -/
def blocksOf (s : UInt32) (effects : List (CaptureEffect F)) : List BlockList.BlockEvent :=
  (blockEvents effects).filter fun event => event.ip = s

/-- Inbound packets come from remote addresses and go to local ones, outbound packets the other
way round, and decisions name remote sources. -/
structure Sided (isLocal : UInt32 → Bool) (e : CaptureEvent F) : Prop where
  inbound : ∀ data packet, e.input = .packet data .inbound →
    PacketParser.parse data = some packet →
    isLocal packet.tuple.srcIp = false ∧ isLocal packet.tuple.dstIp = true
  outbound : ∀ data packet, e.input = .packet data .outbound →
    PacketParser.parse data = some packet →
    isLocal packet.tuple.srcIp = true ∧ isLocal packet.tuple.dstIp = false
  decisions : ∀ decisions, e.input = .tick decisions → ∀ decision ∈ decisions,
    isLocal decision.record.key.srcIp = false

/-- Neither table is full. -/
def BelowCaps (s : PacketCapture F) : Prop :=
  s.flowManager.flows.size < maxFlowsDefault ∧
    s.flowManager.sourceStats.size < maxSourcesDefault

/-- The two handlings agree on the address from `now` on. -/
structure Apart (isLocal : UInt32 → Bool) (s : UInt32) (now : TimePoint) (h h' : Handling F) :
    Prop where
  blocked : ∀ t, now ≤ t → h'.capture.blockList.isBlocked s t = h.capture.blockList.isBlocked s t
  flows : Isolated isLocal s h.capture.flowManager h'.capture.flowManager
  blocks : blocksOf s h'.effects = blocksOf s h.effects

section Handlers

variable [DoubleOps F] {c : CaptureParams} {isLocal : UInt32 → Bool} {s : UInt32}
  {now : TimePoint} {h h' : Handling F}

omit [DoubleOps F] in
theorem blocksOf_append (s : UInt32) (effects effects' : List (CaptureEffect F)) :
    blocksOf s (effects ++ effects') = blocksOf s effects ++ blocksOf s effects' := by
  unfold blocksOf
  rw [blockEvents_append, List.filter_append]

/-- Ended flows do not matter, whatever they are. -/
theorem Apart.consumeAll (hapart : Apart isLocal s now h h') (pending pending' : List (EndedFlow F)) :
    Apart isLocal s now (pending.foldl (consumeFlow c) h) (pending'.foldl (consumeFlow c) h') := by
  obtain ⟨hblocks, hflows, hevents⟩ := consumeAll_core (c := c) h pending
  obtain ⟨hblocks', hflows', hevents'⟩ := consumeAll_core (c := c) h' pending'
  refine ⟨?_, ?_, ?_⟩
  · rw [hblocks, hblocks']
    exact hapart.blocked
  · rw [hflows, hflows']
    exact hapart.flows
  · unfold blocksOf
    rw [hevents, hevents']
    exact hapart.blocks

theorem Apart.finishFlow (hapart : Apart isLocal s now h h') {packet : ParsedPacket}
    (htouches : Touches s packet.tuple) :
    Apart isLocal s now (finishFlow c h packet) (finishFlow c h' packet) := by
  obtain ⟨hblocks, hflows, hevents⟩ := finishFlow_core (c := c) h packet
  obtain ⟨hblocks', hflows', hevents'⟩ := finishFlow_core (c := c) h' packet
  refine ⟨?_, ?_, ?_⟩
  · rw [hblocks, hblocks']
    exact hapart.blocked
  · rw [hflows, hflows']
    exact (hapart.flows.extractCompleted htouches).1
  · unfold blocksOf
    rw [hevents, hevents']
    exact hapart.blocks

theorem Apart.finishFlow_outside (hapart : Apart isLocal s now h h') {packet : ParsedPacket}
    (houtside : ¬ Touches s packet.tuple) :
    Apart isLocal s now (PacketCapture.finishFlow c h packet) h' := by
  obtain ⟨hblocks, hflows, hevents⟩ := finishFlow_core (c := c) h packet
  refine ⟨?_, ?_, ?_⟩
  · rw [hblocks]
    exact hapart.blocked
  · rw [hflows]
    exact hapart.flows.extractCompleted_outside houtside
  · unfold blocksOf
    rw [hevents]
    exact hapart.blocks

/-! ## Blocks -/

omit [DoubleOps F]

/-- An address is blocked in both. -/
theorem Apart.block (hapart : Apart isLocal s now h h') (ip : UInt32) {k k' : Handling F}
    (hlist : k.capture.blockList = h.capture.blockList.block ip c.config.blockTtlSeconds now)
    (hlist' : k'.capture.blockList = h'.capture.blockList.block ip c.config.blockTtlSeconds now)
    (hflows : k.capture.flowManager = h.capture.flowManager.discardSourceFlows ip)
    (hflows' : k'.capture.flowManager = h'.capture.flowManager.discardSourceFlows ip)
    {effects : List (CaptureEffect F)} (heffects : k.effects = h.effects ++ effects)
    (heffects' : k'.effects = h'.effects ++ effects) : Apart isLocal s now k k' where
  blocked t ht := by
    rw [hlist, hlist', BlockList.isBlocked_block, BlockList.isBlocked_block, hapart.blocked t ht]
  flows := by
    rw [hflows, hflows']
    exact hapart.flows.discardSourceFlows ip
  blocks := by rw [heffects, heffects', blocksOf_append, blocksOf_append, hapart.blocks]

/-- Another remote address is blocked in the first. -/
theorem Apart.block_outside (hapart : Apart isLocal s now h h') (hremote : isLocal s = false)
    {ip : UInt32} (hsource : isLocal ip = false) (hne : ip ≠ s) {k : Handling F}
    (hlist : k.capture.blockList = h.capture.blockList.block ip c.config.blockTtlSeconds now)
    (hflows : k.capture.flowManager = h.capture.flowManager.discardSourceFlows ip)
    {effects : List (CaptureEffect F)} (heffects : k.effects = h.effects ++ effects)
    (hnone : blocksOf s effects = []) : Apart isLocal s now k h' where
  blocked t ht := by
    rw [hlist, BlockList.isBlocked_block, if_neg hne.symm]
    exact hapart.blocked t ht
  flows := by
    rw [hflows]
    exact hapart.flows.discardSourceFlows_outside hremote hsource hne
  blocks := by rw [heffects, blocksOf_append, hnone, List.append_nil, hapart.blocks]

theorem Apart.blockByRule (hapart : Apart isLocal s now h h') (ip : UInt32) :
    Apart isLocal s now (blockByRule c h ip now) (blockByRule c h' ip now) :=
  hapart.block ip rfl rfl rfl rfl rfl rfl

theorem Apart.blockByRule_outside (hapart : Apart isLocal s now h h') (hremote : isLocal s = false)
    {ip : UInt32} (hsource : isLocal ip = false) (hne : ip ≠ s) :
    Apart isLocal s now (PacketCapture.blockByRule c h ip now) h' := by
  refine hapart.block_outside hremote hsource hne rfl rfl rfl ?_
  simp [blocksOf, blockEvents, CaptureEffect.blockEvent?, hne]

theorem Apart.blockByAi (hapart : Apart isLocal s now h h') (decision : AiDecision F) :
    Apart isLocal s now (blockByAi c h decision now) (blockByAi c h' decision now) :=
  hapart.block decision.record.key.srcIp rfl rfl rfl rfl (List.append_assoc _ _ _)
    (List.append_assoc _ _ _)

theorem Apart.blockByAi_outside (hapart : Apart isLocal s now h h') (hremote : isLocal s = false)
    {decision : AiDecision F} (hsource : isLocal decision.record.key.srcIp = false)
    (hne : decision.record.key.srcIp ≠ s) :
    Apart isLocal s now (PacketCapture.blockByAi c h decision now) h' := by
  refine hapart.block_outside hremote hsource hne rfl rfl (List.append_assoc _ _ _) ?_
  simp [blocksOf, blockEvents, CaptureEffect.blockEvent?, hne]

end Handlers

/-! ## Packets -/

section Packets

variable [DoubleOps F] {c : CaptureParams} {isLocal : UInt32 → Bool} {s : UInt32}
  {now : TimePoint} {h h' : Handling F} {packet : ParsedPacket}

/-- A packet of the address is observed in both. -/
theorem Apart.observe (hapart : Apart isLocal s now h h') (direction : PacketDirection)
    (hdirection : direction ≠ .unknown) (htouches : Touches s packet.tuple)
    (hcrosses : Crosses isLocal packet.tuple)
    (hsource : direction = .inbound → packet.tuple.srcIp = s) (hcaps : BelowCaps h.capture) :
    Apart isLocal s now (h.observe c packet direction now).1
        (h'.observe c packet direction now).1 ∧
      (h'.observe c packet direction now).2 = (h.observe c packet direction now).2 := by
  have hobserved := hapart.flows.observePacket (c := c.flowParams) now hdirection htouches hcrosses
    hsource hcaps.1 hcaps.2
  exact ⟨⟨hapart.blocked, hobserved.1, hapart.blocks⟩, hobserved.2⟩

theorem Apart.observe_outside (hapart : Apart isLocal s now h h') (direction : PacketDirection)
    (houtside : ¬ Touches s packet.tuple) (hcrosses : Crosses isLocal packet.tuple) :
    Apart isLocal s now (h.observe c packet direction now).1 h' :=
  ⟨hapart.blocked, hapart.flows.observePacket_outside c.flowParams direction now houtside hcrosses,
    hapart.blocks⟩

/-- An inbound packet of the address. -/
theorem Apart.handleInbound (hapart : Apart isLocal s now h h') (hsource : packet.tuple.srcIp = s)
    (hcrosses : Crosses isLocal packet.tuple) (hcaps : BelowCaps h.capture) :
    Apart isLocal s now (handleInbound c h packet now).1 (handleInbound c h' packet now).1 ∧
      (handleInbound c h' packet now).2 = (handleInbound c h packet now).2 := by
  have htouches : Touches s packet.tuple := .inl hsource
  have hblocked : h'.capture.blockList.isBlocked packet.tuple.srcIp now =
      h.capture.blockList.isBlocked packet.tuple.srcIp now := by
    rw [hsource]
    exact hapart.blocked now le_rfl
  obtain ⟨hobserved, hstats⟩ := hapart.observe (c := c) .inbound (by simp) htouches hcrosses
    (fun _ => hsource) hcaps
  unfold PacketCapture.handleInbound
  dsimp only
  rw [hblocked, hstats]
  split
  · exact ⟨hapart, rfl⟩
  · split
    · exact ⟨hapart, rfl⟩
    · split
      · exact ⟨hapart, rfl⟩
      · split
        · exact ⟨hobserved.blockByRule packet.tuple.srcIp, rfl⟩
        · exact ⟨hobserved.finishFlow htouches, rfl⟩

/-- An inbound packet of another address. -/
theorem Apart.handleInbound_outside (hapart : Apart isLocal s now h h') (hremote : isLocal s = false)
    (hsource : isLocal packet.tuple.srcIp = false) (houtside : ¬ Touches s packet.tuple)
    (hcrosses : Crosses isLocal packet.tuple) :
    Apart isLocal s now (PacketCapture.handleInbound c h packet now).1 h' := by
  have hobserved := hapart.observe_outside (c := c) .inbound houtside hcrosses
  unfold PacketCapture.handleInbound
  dsimp only
  split
  · exact hapart
  · split
    · exact hapart
    · split
      · exact hapart
      · split
        · exact hobserved.blockByRule_outside hremote hsource fun heq => houtside (.inl heq)
        · exact hobserved.finishFlow_outside houtside

/-- An outbound packet of the address. -/
theorem Apart.handleOutbound (hapart : Apart isLocal s now h h') (hdst : packet.tuple.dstIp = s)
    (hcrosses : Crosses isLocal packet.tuple) (hcaps : BelowCaps h.capture) :
    Apart isLocal s now (handleOutbound c h packet now).1 (handleOutbound c h' packet now).1 := by
  have htouches : Touches s packet.tuple := .inr hdst
  have hblocked : h'.capture.blockList.isBlocked packet.tuple.dstIp now =
      h.capture.blockList.isBlocked packet.tuple.dstIp now := by
    rw [hdst]
    exact hapart.blocked now le_rfl
  have hobserved := (hapart.observe (c := c) .outbound (by simp) htouches hcrosses (by simp) hcaps).1
  unfold PacketCapture.handleOutbound
  dsimp only
  rw [hblocked]
  split
  · exact hapart
  · exact hobserved.finishFlow htouches

/-- An outbound packet of another address. -/
theorem Apart.handleOutbound_outside (hapart : Apart isLocal s now h h')
    (houtside : ¬ Touches s packet.tuple) (hcrosses : Crosses isLocal packet.tuple) :
    Apart isLocal s now (PacketCapture.handleOutbound c h packet now).1 h' := by
  have hobserved := hapart.observe_outside (c := c) .outbound houtside hcrosses
  unfold PacketCapture.handleOutbound
  dsimp only
  split
  · exact hapart
  · exact hobserved.finishFlow_outside houtside

/-- A packet of the address, in any direction. -/
theorem Apart.onPacket (hapart : Apart isLocal s h.clock h h') (hclock : h'.clock = h.clock)
    (hremote : isLocal s = false) {data : List UInt8} {direction : PacketDirection}
    (hparse : PacketParser.parse data = some packet) (htouches : Touches s packet.tuple)
    (hinbound : direction = .inbound →
      isLocal packet.tuple.srcIp = false ∧ isLocal packet.tuple.dstIp = true)
    (houtbound : direction = .outbound →
      isLocal packet.tuple.srcIp = true ∧ isLocal packet.tuple.dstIp = false)
    (hcaps : BelowCaps h.capture) :
    Apart isLocal s h.clock (onPacket c h data direction).1 (onPacket c h' data direction).1 ∧
      (onPacket c h' data direction).2 = (onPacket c h data direction).2 := by
  unfold PacketCapture.onPacket
  rw [hparse, hclock]
  dsimp only
  cases direction with
  | unknown => exact ⟨hapart, rfl⟩
  | inbound =>
    obtain ⟨hsrc, hdst⟩ := hinbound rfl
    have hsource : packet.tuple.srcIp = s := htouches.resolve_right fun hsame => by
      rw [hsame, hremote] at hdst
      cases hdst
    have hcrosses : Crosses isLocal packet.tuple := by
      unfold Crosses
      rw [hsrc, hdst]
      decide
    exact hapart.handleInbound hsource hcrosses hcaps
  | outbound =>
    obtain ⟨hsrc, hdst⟩ := houtbound rfl
    have hsource : packet.tuple.dstIp = s := htouches.resolve_left fun hsame => by
      rw [hsame, hremote] at hsrc
      cases hsrc
    have hcrosses : Crosses isLocal packet.tuple := by
      unfold Crosses
      rw [hsrc, hdst]
      decide
    refine ⟨hapart.handleOutbound hsource hcrosses hcaps, ?_⟩
    exact (handleOutbound_passes _ _ _).trans (handleOutbound_passes _ _ _).symm

theorem Apart.onPacket_outside (hapart : Apart isLocal s h.clock h h')
    (hremote : isLocal s = false) {data : List UInt8} (direction : PacketDirection)
    (houtside : ∀ packet, PacketParser.parse data = some packet → ¬ Touches s packet.tuple)
    (hinbound : ∀ packet, PacketParser.parse data = some packet → direction = .inbound →
      isLocal packet.tuple.srcIp = false ∧ isLocal packet.tuple.dstIp = true)
    (houtbound : ∀ packet, PacketParser.parse data = some packet → direction = .outbound →
      isLocal packet.tuple.srcIp = true ∧ isLocal packet.tuple.dstIp = false) :
    Apart isLocal s h.clock (PacketCapture.onPacket c h data direction).1 h' := by
  unfold PacketCapture.onPacket
  cases hparse : PacketParser.parse data with
  | none =>
    split
    · exact hapart
    · exact hapart
  | some packet =>
    cases direction with
    | unknown => exact hapart
    | inbound =>
      obtain ⟨hsrc, hdst⟩ := hinbound packet hparse rfl
      have hcrosses : Crosses isLocal packet.tuple := by
        unfold Crosses
        rw [hsrc, hdst]
        decide
      exact hapart.handleInbound_outside hremote hsrc (houtside packet hparse) hcrosses
    | outbound =>
      obtain ⟨hsrc, hdst⟩ := houtbound packet hparse rfl
      have hcrosses : Crosses isLocal packet.tuple := by
        unfold Crosses
        rw [hsrc, hdst]
        decide
      exact hapart.handleOutbound_outside (houtside packet hparse) hcrosses

end Packets

/-! ## Ticks -/

section Ticks

variable {c : CaptureParams} {isLocal : UInt32 → Bool} {s : UInt32} {now : TimePoint}
  {h h' : Handling F}

/-- A decision for the address. -/
theorem Apart.applyAiDecision (hapart : Apart isLocal s now h h') {decision : AiDecision F}
    (hsource : decision.record.key.srcIp = s) :
    Apart isLocal s now (applyAiDecision c now h decision) (applyAiDecision c now h' decision) := by
  have hblocked : h'.capture.blockList.isBlocked decision.record.key.srcIp now =
      h.capture.blockList.isBlocked decision.record.key.srcIp now := by
    rw [hsource]
    exact hapart.blocked now le_rfl
  unfold PacketCapture.applyAiDecision
  dsimp only
  rw [hblocked]
  split
  · exact hapart
  · split
    · exact ⟨hapart.blocked, hapart.flows, hapart.blocks⟩
    · split
      · exact ⟨hapart.blocked, hapart.flows, hapart.blocks⟩
      · exact hapart.blockByAi decision

theorem Apart.applyAiDecision_outside (hapart : Apart isLocal s now h h')
    (hremote : isLocal s = false) {decision : AiDecision F}
    (hsource : isLocal decision.record.key.srcIp = false) (hne : decision.record.key.srcIp ≠ s) :
    Apart isLocal s now (PacketCapture.applyAiDecision c now h decision) h' := by
  unfold PacketCapture.applyAiDecision
  dsimp only
  split
  · exact hapart
  · split
    · exact ⟨hapart.blocked, hapart.flows, hapart.blocks⟩
    · split
      · exact ⟨hapart.blocked, hapart.flows, hapart.blocks⟩
      · exact hapart.blockByAi_outside hremote hsource hne

theorem Apart.applyAiDecisions (hapart : Apart isLocal s now h h') (hremote : isLocal s = false)
    (decisions : List (AiDecision F))
    (hsources : ∀ decision ∈ decisions, isLocal decision.record.key.srcIp = false) :
    Apart isLocal s now (applyAiDecisions c now h decisions)
      (applyAiDecisions c now h'
        (decisions.filter fun decision => decision.record.key.srcIp = s)) := by
  induction decisions generalizing h h' with
  | nil => exact hapart
  | cons decision decisions ih =>
    have hrest := fun d hd => hsources d (List.mem_cons_of_mem decision hd)
    by_cases hsource : decision.record.key.srcIp = s
    · rw [List.filter_cons_of_pos (by simpa using hsource)]
      exact ih (hapart.applyAiDecision hsource) hrest
    · rw [List.filter_cons_of_neg (by simpa using hsource)]
      exact ih (hapart.applyAiDecision_outside hremote (hsources decision List.mem_cons_self)
        hsource) hrest

/-- Timed out flows are taken out of both. -/
theorem Apart.expire (hapart : Apart isLocal s now h h') :
    Apart isLocal s now (h.expire c now).1 (h'.expire c now).1 :=
  ⟨hapart.blocked, hapart.flows.cleanupExpired c.flowParams now, hapart.blocks⟩

theorem Apart.releaseBlocks (hapart : Apart isLocal s now h h') (limit : Nat) :
    Apart isLocal s now (releaseBlocks limit h now) (releaseBlocks limit h' now) where
  blocked t ht := by
    show (BlockList.cleanupUpTo limit _ now).isBlocked s t =
      (BlockList.cleanupUpTo limit _ now).isBlocked s t
    rw [BlockList.isBlocked_cleanupUpTo limit ht, BlockList.isBlocked_cleanupUpTo limit ht]
    exact hapart.blocked t ht
  flows := hapart.flows
  blocks := hapart.blocks

/-- A tick, with all decisions and with those for the address. -/
theorem Apart.onTickUpTo [DoubleOps F] (limit : Nat) (hapart : Apart isLocal s h.clock h h')
    (hclock : h'.clock = h.clock) (hremote : isLocal s = false) (decisions : List (AiDecision F))
    (hsources : ∀ decision ∈ decisions, isLocal decision.record.key.srcIp = false) :
    Apart isLocal s h.clock (onTickUpTo limit c h decisions)
      (onTickUpTo limit c h'
        (decisions.filter fun decision => decision.record.key.srcIp = s)) := by
  have hdecided := hapart.applyAiDecisions (c := c) hremote decisions hsources
  unfold PacketCapture.onTickUpTo
  rw [hclock]
  exact (hdecided.expire.consumeAll _ _).releaseBlocks limit

end Ticks

/-! ## Steps and runs -/

/-- The two states agree on the address from `clock` on. -/
structure Agree (isLocal : UInt32 → Bool) (s : UInt32) (clock : TimePoint)
    (σ σ' : PacketCapture F) : Prop where
  blocked : ∀ t, clock ≤ t → σ'.blockList.isBlocked s t = σ.blockList.isBlocked s t
  flows : Isolated isLocal s σ.flowManager σ'.flowManager

section Runs

variable {c : CaptureParams} {isLocal : UInt32 → Bool} {s : UInt32} {clock : TimePoint}
  {σ σ' : PacketCapture F} {e : CaptureEvent F}

theorem Agree.pass (h : Agree isLocal s clock σ σ') {later : TimePoint} (hle : clock ≤ later) :
    Agree isLocal s later σ σ' :=
  ⟨fun t ht => h.blocked t (hle.trans ht), h.flows⟩

theorem Agree.start (h : Agree isLocal s clock σ σ') (hle : clock ≤ e.now) (e' : CaptureEvent F) :
    Apart isLocal s e.now (.start σ e) (.start σ' e') :=
  ⟨(h.pass hle).blocked, h.flows, rfl⟩

theorem concerns_packet_iff {data : List UInt8} {direction : PacketDirection}
    (hinput : e.input = .packet data direction) :
    concerns s e = true ↔ ∃ packet, PacketParser.parse data = some packet ∧
      Touches s packet.tuple := by
  unfold concerns
  rw [hinput]
  dsimp only
  cases PacketParser.parse data with
  | none => simp
  | some packet => simp

theorem restrict_packet {data : List UInt8} {direction : PacketDirection}
    (hinput : e.input = .packet data direction) : restrict s e = e := by
  unfold restrict
  rw [hinput]

theorem restrict_tick {decisions : List (AiDecision F)} (hinput : e.input = .tick decisions) :
    restrict s e =
      { e with input := .tick (decisions.filter fun decision => decision.record.key.srcIp = s) } := by
  unfold restrict
  rw [hinput]

variable [DoubleOps F]

/-- An event that concerns the address. -/
theorem Agree.step (h : Agree isLocal s clock σ σ') (hle : clock ≤ e.now)
    (hremote : isLocal s = false) (hsided : Sided isLocal e) (hcaps : BelowCaps σ)
    (hconcerns : concerns s e = true) :
    Agree isLocal s e.now (step c σ e).1 (step c σ' (restrict s e)).1 ∧
      (step c σ' (restrict s e)).2.verdict = (step c σ e).2.verdict ∧
      blocksOf s (step c σ' (restrict s e)).2.effects = blocksOf s (step c σ e).2.effects := by
  cases hinput : e.input with
  | packet data direction =>
    obtain ⟨packet, hparse, htouches⟩ := (concerns_packet_iff hinput).mp hconcerns
    have hstart : Apart isLocal s (Handling.start σ e).clock (.start σ e) (.start σ' e) :=
      h.start hle e
    obtain ⟨hpacket, hverdict⟩ := hstart.onPacket (c := c) rfl hremote hparse htouches
      (fun hin => hsided.inbound data packet (hin ▸ hinput) hparse)
      (fun hout => hsided.outbound data packet (hout ▸ hinput) hparse) hcaps
    rw [restrict_packet hinput]
    unfold PacketCapture.step stepUpTo handleUpTo
    rw [hinput]
    exact ⟨⟨hpacket.blocked, hpacket.flows⟩, congrArg some hverdict, hpacket.blocks⟩
  | tick decisions =>
    have hstart : Apart isLocal s (Handling.start σ e).clock (.start σ e)
        (.start σ' (restrict s e)) := h.start hle (restrict s e)
    have hclock : (Handling.start σ' (restrict s e)).clock = (Handling.start σ e).clock := by
      rw [restrict_tick hinput]
      rfl
    have hticked := hstart.onTickUpTo (c := c) BlockList.maxExpiryCleanupsPerTick hclock hremote
      decisions (hsided.decisions decisions hinput)
    rw [restrict_tick hinput] at hticked ⊢
    unfold PacketCapture.step stepUpTo handleUpTo
    rw [hinput]
    dsimp only
    exact ⟨⟨hticked.blocked, hticked.flows⟩, rfl, hticked.blocks⟩

/-- An event that does not. -/
theorem Agree.step_outside (h : Agree isLocal s clock σ σ') (hle : clock ≤ e.now)
    (hremote : isLocal s = false) (hsided : Sided isLocal e) (hconcerns : concerns s e = false) :
    Agree isLocal s e.now (PacketCapture.step c σ e).1 σ' ∧
      blocksOf s (PacketCapture.step c σ e).2.effects = [] := by
  cases hinput : e.input with
  | packet data direction =>
    have hstart : Apart isLocal s (Handling.start σ e).clock (.start σ e) (.start σ' e) :=
      h.start hle e
    have houtside : ∀ packet, PacketParser.parse data = some packet →
        ¬ Touches s packet.tuple := by
      intro packet hparse htouches
      have hyes := (concerns_packet_iff hinput).mpr ⟨packet, hparse, htouches⟩
      rw [hconcerns] at hyes
      cases hyes
    have hpacket := hstart.onPacket_outside (c := c) hremote direction houtside
      (fun packet hparse hin => hsided.inbound data packet (hin ▸ hinput) hparse)
      (fun packet hparse hout => hsided.outbound data packet (hout ▸ hinput) hparse)
    unfold PacketCapture.step stepUpTo handleUpTo
    rw [hinput]
    exact ⟨⟨hpacket.blocked, hpacket.flows⟩, hpacket.blocks.symm⟩
  | tick decisions =>
    have hyes : concerns s e = true := by
      unfold concerns
      rw [hinput]
    rw [hconcerns] at hyes
    cases hyes

omit [DoubleOps F] in
theorem project_cons (s : UInt32) (e : CaptureEvent F) (events : List (CaptureEvent F)) :
    project s (e :: events) =
      if concerns s e = true then restrict s e :: project s events else project s events := by
  unfold project
  rw [List.filter_cons]
  split <;> rfl

/-- The two runs, from states that agree. -/
theorem Agree.exec (h : Agree isLocal s clock σ σ') (hremote : isLocal s = false)
    {events : List (CaptureEvent F)} (hc : Machine.Chronological CaptureEvent.reads clock events)
    (hsided : ∀ e ∈ events, Sided isLocal e)
    (hcaps : Machine.Along (PacketCapture.step c) (fun σ _ => BelowCaps σ) σ events) :
    Agree isLocal s (Machine.finish CaptureEvent.reads clock events)
        (Machine.exec (PacketCapture.step c) σ events)
        (Machine.exec (PacketCapture.step c) σ' (project s events)) ∧
      ((Machine.trace (PacketCapture.step c) σ events).filter fun taken =>
          concerns s taken.event).map (fun taken => taken.output.verdict) =
        (Machine.trace (PacketCapture.step c) σ' (project s events)).map
          (fun taken => taken.output.verdict) ∧
      blocksOf s ((Machine.trace (PacketCapture.step c) σ events).flatMap
          fun taken => taken.output.effects) =
        blocksOf s ((Machine.trace (PacketCapture.step c) σ' (project s events)).flatMap
          fun taken => taken.output.effects) := by
  induction events generalizing clock σ σ' with
  | nil => exact ⟨h, rfl, rfl⟩
  | cons e events ih =>
    obtain ⟨hreads, hrest⟩ := Machine.chronological_cons.mp hc
    have hle : clock ≤ e.now := (List.pairwise_cons.mp hreads).1 _ List.mem_cons_self
    have hend : e.now ≤ (CaptureEvent.reads e).getLastD clock :=
      Machine.le_getLastD hreads _ (List.mem_cons_of_mem _ List.mem_cons_self)
    have htail := fun e' he' => hsided e' (List.mem_cons_of_mem e he')
    rw [Machine.trace_cons, List.flatMap_cons, blocksOf_append, project_cons, List.filter_cons]
    cases hconcerns : concerns s e with
    | true =>
      obtain ⟨hagree, hverdict, hblocks⟩ :=
        h.step (c := c) hle hremote (hsided e List.mem_cons_self) hcaps.1 hconcerns
      obtain ⟨hagree', hverdicts', hblocks'⟩ := ih (hagree.pass hend) hrest htail hcaps.2
      rw [if_pos rfl, if_pos rfl, Machine.trace_cons, List.flatMap_cons, blocksOf_append,
        List.map_cons, List.map_cons, hverdicts', hblocks']
      exact ⟨hagree', by rw [hverdict], by rw [hblocks]⟩
    | false =>
      obtain ⟨hagree, hblocks⟩ :=
        h.step_outside (c := c) hle hremote (hsided e List.mem_cons_self) hconcerns
      obtain ⟨hagree', hverdicts', hblocks'⟩ := ih (hagree.pass hend) hrest htail hcaps.2
      rw [if_neg Bool.false_ne_true, if_neg Bool.false_ne_true, hblocks, List.nil_append]
      exact ⟨hagree', hverdicts', hblocks'⟩

/-- **Hosts do not influence each other.** In a run in which neither table is full, deleting
the packets without a remote address at an end and the decisions for other sources changes
neither the verdicts of the remaining packets nor when the address is blocked. -/
theorem verdicts_isolated (c : CaptureParams) (isLocal : UInt32 → Bool) (s : UInt32)
    (hremote : isLocal s = false) (start : TimePoint) (events : List (CaptureEvent F))
    (hc : Machine.Chronological CaptureEvent.reads start events)
    (hsided : ∀ e ∈ events, Sided isLocal e)
    (hcaps : Machine.Along (PacketCapture.step c) (fun σ _ => BelowCaps σ) .initial events) :
    ((Machine.trace (PacketCapture.step c) .initial events).filter fun taken =>
        concerns s taken.event).map (fun taken => taken.output.verdict) =
      (Machine.trace (PacketCapture.step c) .initial (project s events)).map
        (fun taken => taken.output.verdict) ∧
    blocksOf s (effectsOf c events) = blocksOf s (effectsOf c (project s events)) ∧
    ∀ before after, events = before ++ after → ∀ t,
      Machine.finish CaptureEvent.reads start before ≤ t →
      (run c (project s before)).blockList.isBlocked s t =
        (run c before).blockList.isBlocked s t := by
  have hinitial : Agree isLocal s start (.initial : PacketCapture F) .initial :=
    ⟨fun _ _ => rfl, isolated_empty isLocal s⟩
  obtain ⟨-, hverdicts, hblocks⟩ := hinitial.exec hremote hc hsided hcaps
  refine ⟨hverdicts, hblocks, ?_⟩
  rintro before after rfl t ht
  obtain ⟨hbefore, -⟩ := Machine.chronological_append.mp hc
  have hsided' := fun e he => hsided e (List.mem_append_left after he)
  exact (hinitial.exec hremote hbefore hsided' (Machine.along_append _ _ _ |>.mp hcaps).1).1.blocked
    t ht

end Runs

/-- Two hosts that are blocked, and a tick. -/
def twoHosts : List (CaptureEvent Float) :=
  [⟨.packet otherBytes .inbound, 4, []⟩, ⟨.packet synBytes .inbound, 5, []⟩, ⟨.tick [], 6, []⟩,
    ⟨.packet synBytes .inbound, 7, []⟩]

def isGateway (ip : UInt32) : Bool := ip = synPacket.tuple.dstIp

theorem sided_inbound {isLocal : UInt32 → Bool} {data : List UInt8} {packet : ParsedPacket}
    (hparse : PacketParser.parse data = some packet) (hsrc : isLocal packet.tuple.srcIp = false)
    (hdst : isLocal packet.tuple.dstIp = true) (now : TimePoint) :
    Sided isLocal (⟨.packet data .inbound, now, []⟩ : CaptureEvent F) where
  inbound := by
    intro data' packet' hinput hparse'
    cases hinput
    rw [hparse] at hparse'
    cases hparse'
    exact ⟨hsrc, hdst⟩
  outbound := by
    intro data' packet' hinput
    cases hinput
  decisions := by
    intro decisions hinput
    cases hinput

theorem twoHosts_sided : ∀ e ∈ twoHosts, Sided isGateway e := by
  intro e he
  simp only [twoHosts, List.mem_cons, List.not_mem_nil, or_false] at he
  rcases he with rfl | rfl | rfl | rfl
  · exact sided_inbound parse_otherBytes (by decide) (by decide) 4
  · exact sided_inbound parse_synBytes (by decide) (by decide) 5
  · refine ⟨fun _ _ hinput => ?_, fun _ _ hinput => ?_, fun decisions hinput => ?_⟩
    · cases hinput
    · cases hinput
    · cases hinput
      intro decision hdecision
      cases hdecision
  · exact sided_inbound parse_synBytes (by decide) (by decide) 7

instance (s : PacketCapture F) : Decidable (BelowCaps s) := inferInstanceAs (Decidable (_ ∧ _))

/-- Without the other host the first one gets the same two verdicts. -/
theorem twoHosts_isolated :
    (Machine.trace (step strictParams) .initial (project synPacket.tuple.srcIp twoHosts)).map
      (fun taken => taken.output.verdict) = [some false, none, some false] := by
  have hsame := (verdicts_isolated strictParams isGateway synPacket.tuple.srcIp (by decide) 0
    twoHosts (by decide) twoHosts_sided (by decide)).1
  rw [← hsame]
  decide

end InlineIps.PacketCapture
