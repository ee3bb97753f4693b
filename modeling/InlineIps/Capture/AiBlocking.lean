import Mathlib.Data.Finset.Card
import InlineIps.Capture.EndReasons
import InlineIps.Capture.Selection

/-!
# Applying AI decisions

`apply_ai_decisions` tests the block list that it changes itself, so of the decisions that name one
source only the first blocks it.

* `newlyBlocked`: the sources that decisions block.
* `Applied`: what decisions make of a capture, in terms of these sources.
* `ai_decisions_applied`: decisions are applied whatever their order, and once.
-/

namespace InlineIps.PacketCapture

open Library

variable {F : Type} {c : CaptureParams} {now : TimePoint} {h h' : Handling F}
  {decisions : List (AiDecision F)}

/-- The decision blocks its source, when nothing else has since. -/
def Blocks (c : CaptureParams) (now : TimePoint) (blocks : BlockList) (decision : AiDecision F) :
    Prop :=
  decision.anomaly = true ∧ c.whitelist.isWhitelisted decision.record.key.srcIp = false ∧
    blocks.isBlocked decision.record.key.srcIp now = false

instance (c : CaptureParams) (now : TimePoint) (blocks : BlockList) :
    DecidablePred (Blocks (F := F) c now blocks) :=
  fun _ => inferInstanceAs (Decidable (_ ∧ _ ∧ _))

/-- The sources of anomalous decisions that are neither whitelisted nor blocked yet. -/
def newlyBlocked (c : CaptureParams) (now : TimePoint) (blocks : BlockList)
    (decisions : List (AiDecision F)) : Finset UInt32 :=
  ((decisions.filter fun d => Blocks c now blocks d).map fun d => d.record.key.srcIp).toFinset

/-- The anomalous decisions. -/
def anomalies (decisions : List (AiDecision F)) : Nat := decisions.countP fun d => d.anomaly

/-- The anomalous decisions that name a whitelisted source. -/
def spared (c : CaptureParams) (decisions : List (AiDecision F)) : Nat :=
  decisions.countP fun d => d.anomaly && c.whitelist.isWhitelisted d.record.key.srcIp

/-- The events that the block handler was called with, in order. -/
def notifications (effects : List (CaptureEffect F)) : List (AiBlockEvent F) :=
  effects.filterMap fun
    | .notify event => some event
    | _ => none

/-- What decisions make of a capture. -/
structure Applied (c : CaptureParams) (now : TimePoint) (decisions : List (AiDecision F))
    (h h' : Handling F) : Prop where
  /-- The new sources are blocked from now on, and no other entry changes. -/
  blockMap : ∀ ip, h'.capture.blockList.deadlines.lookup ip =
    if ip ∈ newlyBlocked c now h.capture.blockList decisions then
      some (now + seconds c.config.blockTtlSeconds)
    else h.capture.blockList.deadlines.lookup ip
  /-- The flows of the new sources are removed, and no other. -/
  flows : ∀ k, h'.capture.flowManager.flows.lookup k =
    if k.srcIp ∈ newlyBlocked c now h.capture.blockList decisions then none
    else h.capture.flowManager.flows.lookup k
  /-- The block handler is called once for each new source. -/
  notified : ∃ events, notifications h'.effects = notifications h.effects ++ events ∧
    (events.map fun event => event.sourceIp).Nodup ∧
    ∀ ip, ip ∈ events.map (fun event => event.sourceIp) ↔
      ip ∈ newlyBlocked c now h.capture.blockList decisions
  newBlocks : h'.capture.aiNewBlocks =
    h.capture.aiNewBlocks + (newlyBlocked c now h.capture.blockList decisions).card
  whitelisted : h'.capture.aiWhitelisted = h.capture.aiWhitelisted + spared c decisions
  /-- Every anomalous decision is counted once. -/
  accounted : h'.capture.aiNewBlocks + h'.capture.aiDuplicates + h'.capture.aiWhitelisted =
    h.capture.aiNewBlocks + h.capture.aiDuplicates + h.capture.aiWhitelisted + anomalies decisions

theorem mem_newlyBlocked {blocks : BlockList} {ip : UInt32} :
    ip ∈ newlyBlocked c now blocks decisions ↔
      ∃ d ∈ decisions, Blocks c now blocks d ∧ d.record.key.srcIp = ip := by
  simp [newlyBlocked, and_assoc]

theorem newlyBlocked_snoc (c : CaptureParams) (now : TimePoint) (blocks : BlockList)
    (decisions : List (AiDecision F)) (d : AiDecision F) :
    newlyBlocked c now blocks (decisions ++ [d]) =
      if Blocks c now blocks d then
        insert d.record.key.srcIp (newlyBlocked c now blocks decisions)
      else newlyBlocked c now blocks decisions := by
  ext ip
  rw [mem_newlyBlocked]
  split
  · rename_i hblocks
    rw [Finset.mem_insert, mem_newlyBlocked]
    constructor
    · rintro ⟨d', hd', hblocks', rfl⟩
      rcases List.mem_append.mp hd' with hearlier | hlast
      · exact Or.inr ⟨d', hearlier, hblocks', rfl⟩
      · rw [List.mem_singleton.mp hlast]
        exact Or.inl rfl
    · rintro (rfl | ⟨d', hd', hblocks', rfl⟩)
      · exact ⟨d, by simp, hblocks, rfl⟩
      · exact ⟨d', List.mem_append_left _ hd', hblocks', rfl⟩
  · rename_i hblocks
    rw [mem_newlyBlocked]
    constructor
    · rintro ⟨d', hd', hblocks', rfl⟩
      rcases List.mem_append.mp hd' with hearlier | hlast
      · exact ⟨d', hearlier, hblocks', rfl⟩
      · rw [List.mem_singleton.mp hlast] at hblocks'
        exact absurd hblocks' hblocks
    · rintro ⟨d', hd', hblocks', rfl⟩
      exact ⟨d', List.mem_append_left _ hd', hblocks', rfl⟩

theorem newlyBlocked_perm (c : CaptureParams) (now : TimePoint) (blocks : BlockList)
    {decisions' : List (AiDecision F)} (hperm : decisions.Perm decisions') :
    newlyBlocked c now blocks decisions = newlyBlocked c now blocks decisions' := by
  ext ip
  simp only [mem_newlyBlocked, hperm.mem_iff]

/-- A source that is blocked now was blocked before, or is a new one. -/
theorem Applied.isBlocked (hrange : c.config.InRange) (happlied : Applied c now decisions h h')
    (ip : UInt32) : h'.capture.blockList.isBlocked ip now =
      (decide (ip ∈ newlyBlocked c now h.capture.blockList decisions) ||
        h.capture.blockList.isBlocked ip now) := by
  have hahead : now < now + seconds c.config.blockTtlSeconds := by
    have httl := hrange.blockTtl.1
    apply Int.lt_add_of_pos_right
    unfold seconds
    omega
  unfold BlockList.isBlocked LazyExpiry.live
  rw [happlied.blockMap ip]
  by_cases hnew : ip ∈ newlyBlocked c now h.capture.blockList decisions
  · simp [hnew, hahead]
  · simp [hnew]

theorem applied_nil (c : CaptureParams) (now : TimePoint) (h : Handling F) :
    Applied c now [] h h where
  blockMap := fun ip => by simp [newlyBlocked]
  flows := fun k => by simp [newlyBlocked]
  notified := ⟨[], by simp [newlyBlocked]⟩
  newBlocks := rfl
  whitelisted := rfl
  accounted := rfl

theorem anomalies_snoc (decisions : List (AiDecision F)) (d : AiDecision F) :
    anomalies (decisions ++ [d]) = anomalies decisions + if d.anomaly then 1 else 0 := by
  rw [anomalies, List.countP_append, List.countP_singleton]
  rfl

theorem spared_snoc (c : CaptureParams) (decisions : List (AiDecision F)) (d : AiDecision F) :
    spared c (decisions ++ [d]) = spared c decisions +
      if d.anomaly && c.whitelist.isWhitelisted d.record.key.srcIp then 1 else 0 := by
  rw [spared, List.countP_append, List.countP_singleton]
  rfl

/-- A decision that only counts. -/
theorem Applied.count (happlied : Applied c now decisions h h') {d : AiDecision F} {h'' : Handling F}
    (hnew : newlyBlocked c now h.capture.blockList (decisions ++ [d]) =
      newlyBlocked c now h.capture.blockList decisions)
    (hblocks : h''.capture.blockList = h'.capture.blockList)
    (hflows : h''.capture.flowManager = h'.capture.flowManager)
    (heffects : h''.effects = h'.effects)
    (hnewBlocks : h''.capture.aiNewBlocks = h'.capture.aiNewBlocks)
    (hwhitelisted : h''.capture.aiWhitelisted = h'.capture.aiWhitelisted +
      if d.anomaly && c.whitelist.isWhitelisted d.record.key.srcIp then 1 else 0)
    (hsum : h''.capture.aiDuplicates + h''.capture.aiWhitelisted =
      h'.capture.aiDuplicates + h'.capture.aiWhitelisted + if d.anomaly then 1 else 0) :
    Applied c now (decisions ++ [d]) h h'' where
  blockMap := by
    rw [hnew, hblocks]
    exact happlied.blockMap
  flows := by
    rw [hnew, hflows]
    exact happlied.flows
  notified := by
    rw [hnew, heffects]
    exact happlied.notified
  newBlocks := by
    rw [hnew, hnewBlocks]
    exact happlied.newBlocks
  whitelisted := by
    rw [hwhitelisted, happlied.whitelisted, spared_snoc, Nat.add_assoc]
  accounted := by
    have hall := happlied.accounted
    rw [anomalies_snoc, hnewBlocks]
    omega

theorem notifications_append (effects effects' : List (CaptureEffect F)) :
    notifications (effects ++ effects') = notifications effects ++ notifications effects' :=
  List.filterMap_append

/-- Blocking a source calls the block handler once. -/
theorem notifications_blockByAi (c : CaptureParams) (now : TimePoint) (h : Handling F)
    (d : AiDecision F) : ∃ event : AiBlockEvent F, event.sourceIp = d.record.key.srcIp ∧
      notifications (blockByAi c h d now).effects = notifications h.effects ++ [event] := by
  refine ⟨⟨d.record.flowId, d.record.key.srcIp, d.score, d.threshold, c.config.blockTtlSeconds,
    d.modelVersion⟩, rfl, ?_⟩
  change notifications (h.effects ++ [_] ++ [_]) = _
  rw [notifications_append, notifications_append, List.append_assoc]
  rfl

/-- A decision that blocks its source. -/
theorem Applied.block (happlied : Applied c now decisions h h') (hok : h'.capture.flowManager.Ok)
    {d : AiDecision F} (hblocks : Blocks c now h.capture.blockList d)
    (hfresh : d.record.key.srcIp ∉ newlyBlocked c now h.capture.blockList decisions) :
    Applied c now (decisions ++ [d]) h (blockByAi c h' d now) := by
  have hnew := newlyBlocked_snoc c now h.capture.blockList decisions d
  rw [if_pos hblocks] at hnew
  refine ⟨fun ip => ?_, fun k => ?_, ?_, ?_, ?_, ?_⟩
  · rw [hnew]
    change (h'.capture.blockList.deadlines.insert d.record.key.srcIp
      (now + seconds c.config.blockTtlSeconds)).lookup ip = _
    by_cases hip : ip = d.record.key.srcIp
    · rw [hip, AList.lookup_insert, if_pos (Finset.mem_insert_self _ _)]
    · rw [AList.lookup_insert_ne hip, happlied.blockMap ip]
      simp only [Finset.mem_insert, hip, false_or]
  · rw [hnew]
    change (h'.capture.flowManager.discardSourceFlows d.record.key.srcIp).flows.lookup k = _
    rw [FlowManager.discardSourceFlows_eq hok, happlied.flows k]
    by_cases hip : k.srcIp = d.record.key.srcIp
    · rw [if_pos hip, if_pos (Finset.mem_insert.mpr (Or.inl hip))]
    · rw [if_neg hip]
      simp only [Finset.mem_insert, hip, false_or]
  · obtain ⟨events, heffects, hnodup, hevents⟩ := happlied.notified
    obtain ⟨event, hsource, hnotify⟩ := notifications_blockByAi c now h' d
    refine ⟨events ++ [event], ?_, ?_, fun ip => ?_⟩
    · rw [hnotify, heffects, List.append_assoc]
    · rw [List.map_append, List.map_singleton, List.nodup_append_comm, hsource]
      exact List.nodup_cons.mpr ⟨fun hmem => hfresh ((hevents _).mp hmem), hnodup⟩
    · rw [hnew, List.map_append, List.mem_append, hevents ip, List.map_singleton,
        List.mem_singleton, hsource, Finset.mem_insert, or_comm]
  · rw [hnew, Finset.card_insert_of_notMem hfresh, ← Nat.add_assoc, ← happlied.newBlocks]
    rfl
  · have hnotSpared : (d.anomaly && c.whitelist.isWhitelisted d.record.key.srcIp) = false := by
      rw [hblocks.2.1, Bool.and_false]
    rw [spared_snoc, hnotSpared]
    exact happlied.whitelisted
  · have hall := happlied.accounted
    rw [anomalies_snoc, if_pos hblocks.1]
    change h'.capture.aiNewBlocks + 1 + h'.capture.aiDuplicates + h'.capture.aiWhitelisted = _
    omega

/-- **One more decision.** -/
theorem Applied.snoc (hrange : c.config.InRange) (happlied : Applied c now decisions h h')
    (hok : h'.capture.flowManager.Ok) (d : AiDecision F) :
    Applied c now (decisions ++ [d]) h (applyAiDecision c now h' d) := by
  have hnew := newlyBlocked_snoc c now h.capture.blockList decisions d
  have hblocked := happlied.isBlocked hrange d.record.key.srcIp
  unfold applyAiDecision
  dsimp only
  split_ifs with hanomaly hwhite hblocks
  · have hnormal : d.anomaly = false := by simpa using hanomaly
    rw [if_neg fun hb => by simp [hb.1] at hanomaly] at hnew
    exact happlied.count hnew rfl rfl rfl rfl (by simp [hnormal]) (by simp [hnormal])
  · rw [if_neg fun hb => by simp [hb.2.1] at hwhite] at hnew
    have hanomalous : d.anomaly = true := by simpa using hanomaly
    exact happlied.count hnew rfl rfl rfl rfl (by rw [hanomalous, hwhite]; rfl)
      (by rw [if_pos hanomalous]; rfl)
  · have hanomalous : d.anomaly = true := by simpa using hanomaly
    rw [hblocks] at hblocked
    -- another decision has blocked the source, or it was blocked before
    have hsame : newlyBlocked c now h.capture.blockList (decisions ++ [d]) =
        newlyBlocked c now h.capture.blockList decisions := by
      rw [hnew]
      split
      · rename_i hb
        rw [hb.2.2, Bool.or_false] at hblocked
        exact Finset.insert_eq_of_mem (of_decide_eq_true hblocked.symm)
      · rfl
    refine happlied.count hsame rfl rfl rfl rfl ?_ ?_
    · rw [if_neg (by simp [hwhite])]
      rfl
    · rw [if_pos hanomalous]
      show h'.capture.aiDuplicates + 1 + h'.capture.aiWhitelisted = _
      omega
  · have hanomalous : d.anomaly = true := by simpa using hanomaly
    have hfree : h'.capture.blockList.isBlocked d.record.key.srcIp now = false := by simpa using hblocks
    rw [hfree, eq_comm, Bool.or_eq_false_iff] at hblocked
    exact happlied.block hok ⟨hanomalous, by simpa using hwhite, hblocked.2⟩
      (of_decide_eq_false hblocked.1)

theorem ok_applyAiDecision (hok : h.capture.flowManager.Ok) (d : AiDecision F) :
    (applyAiDecision c now h d).capture.flowManager.Ok := by
  unfold applyAiDecision
  dsimp only
  split_ifs
  · exact hok
  · exact hok
  · exact hok
  · exact FlowManager.ok_discardSourceFlows hok d.record.key.srcIp

theorem applyAiDecisions_snoc (h : Handling F) (decisions : List (AiDecision F)) (d : AiDecision F) :
    applyAiDecisions c now h (decisions ++ [d]) =
      applyAiDecision c now (applyAiDecisions c now h decisions) d := by
  simp [applyAiDecisions]

theorem ok_applyAiDecisions (hok : h.capture.flowManager.Ok) (decisions : List (AiDecision F)) :
    (applyAiDecisions c now h decisions).capture.flowManager.Ok := by
  induction decisions using List.reverseRecOn with
  | nil => exact hok
  | append_singleton decisions d ih =>
    rw [applyAiDecisions_snoc]
    exact ok_applyAiDecision ih d

theorem applied_all (hrange : c.config.InRange) (now : TimePoint) (hok : h.capture.flowManager.Ok)
    (decisions : List (AiDecision F)) :
    Applied c now decisions h (applyAiDecisions c now h decisions) := by
  induction decisions using List.reverseRecOn with
  | nil => exact applied_nil c now h
  | append_singleton decisions d ih =>
    rw [applyAiDecisions_snoc]
    exact ih.snoc hrange (ok_applyAiDecisions hok decisions) d

/-! ## Order and repetition -/

/-- The same entries, the same flows and the same counters. -/
structure SameOutcome (h h' : Handling F) : Prop where
  blockMap : ∀ ip, h.capture.blockList.deadlines.lookup ip = h'.capture.blockList.deadlines.lookup ip
  flows : ∀ k, h.capture.flowManager.flows.lookup k = h'.capture.flowManager.flows.lookup k
  newBlocks : h.capture.aiNewBlocks = h'.capture.aiNewBlocks
  duplicates : h.capture.aiDuplicates = h'.capture.aiDuplicates
  whitelisted : h.capture.aiWhitelisted = h'.capture.aiWhitelisted

/-- The order of the decisions does not matter. -/
theorem Applied.perm {decisions' : List (AiDecision F)} {h₁ h₂ : Handling F}
    (happlied : Applied c now decisions h h₁) (happlied' : Applied c now decisions' h h₂)
    (hperm : decisions.Perm decisions') : SameOutcome h₁ h₂ := by
  have hnew := newlyBlocked_perm c now h.capture.blockList hperm
  have hspared : spared c decisions = spared c decisions' := hperm.countP_eq _
  have hanomalies : anomalies decisions = anomalies decisions' := hperm.countP_eq _
  have hnewBlocks : h₁.capture.aiNewBlocks = h₂.capture.aiNewBlocks := by
    rw [happlied.newBlocks, happlied'.newBlocks, hnew]
  have hwhitelisted : h₁.capture.aiWhitelisted = h₂.capture.aiWhitelisted := by
    rw [happlied.whitelisted, happlied'.whitelisted, hspared]
  refine ⟨fun ip => ?_, fun k => ?_, hnewBlocks, ?_, hwhitelisted⟩
  · rw [happlied.blockMap, happlied'.blockMap, hnew]
  · rw [happlied.flows, happlied'.flows, hnew]
  · have hall := happlied.accounted
    have hall' := happlied'.accounted
    omega

/-- Decisions none of which can block change neither block list nor flows. -/
theorem applyAiDecisions_idle
    (hidle : ∀ d ∈ decisions, ¬ Blocks c now h.capture.blockList d) :
    (applyAiDecisions c now h decisions).capture.blockList = h.capture.blockList ∧
      (applyAiDecisions c now h decisions).capture.flowManager = h.capture.flowManager := by
  induction decisions using List.reverseRecOn with
  | nil => exact ⟨rfl, rfl⟩
  | append_singleton decisions d ih =>
    obtain ⟨hblocks, hflows⟩ := ih fun d' hd' => hidle d' (List.mem_append_left _ hd')
    have hd := hidle d (by simp)
    rw [applyAiDecisions_snoc]
    unfold applyAiDecision
    dsimp only
    split_ifs with hanomaly hwhite hblocked
    · exact ⟨hblocks, hflows⟩
    · exact ⟨hblocks, hflows⟩
    · exact ⟨hblocks, hflows⟩
    · rw [hblocks] at hblocked
      exact absurd ⟨by simpa using hanomaly, by simpa using hwhite, by simpa using hblocked⟩ hd

/-- Decisions that have been applied cannot block any more. -/
theorem Applied.idle (hrange : c.config.InRange) (happlied : Applied c now decisions h h') :
    ∀ d ∈ decisions, ¬ Blocks c now h'.capture.blockList d := by
  rintro d hd ⟨hanomaly, hwhite, hfree⟩
  rw [happlied.isBlocked hrange, Bool.or_eq_false_iff] at hfree
  apply of_decide_eq_false hfree.1
  exact mem_newlyBlocked.mpr ⟨d, hd, ⟨hanomaly, hwhite, hfree.2⟩, rfl⟩

/-- **Applying AI decisions is independent of their order and fully accounted.** The flow tables of
runs agree with their indexes. From any state where they do, decisions block their new sources and
nothing else, in any order with the same outcome, and a second time without effect. -/
theorem ai_decisions_applied [DoubleOps F] (c : CaptureParams) (hrange : c.config.InRange) :
    (∀ events : List (CaptureEvent F), (run c events).flowManager.Ok) ∧
    ∀ (now : TimePoint) (h : Handling F) (decisions : List (AiDecision F)),
      h.capture.flowManager.Ok →
      let h' := applyAiDecisions c now h decisions
      Applied c now decisions h h' ∧
      (∀ decisions', decisions.Perm decisions' →
        SameOutcome h' (applyAiDecisions c now h decisions')) ∧
      (applyAiDecisions c now h' decisions).capture.blockList = h'.capture.blockList ∧
      (applyAiDecisions c now h' decisions).capture.flowManager = h'.capture.flowManager := by
  refine ⟨fun events => ?_, fun now h decisions hok => ?_⟩
  · rw [flowManager_run]
    exact FlowManager.ok_exec FlowManager.ok_empty _
  · have happlied := applied_all hrange now hok decisions
    refine ⟨happlied, fun decisions' hperm => ?_, ?_⟩
    · exact happlied.perm (applied_all hrange now hok decisions') hperm
    · exact applyAiDecisions_idle (happlied.idle hrange)

/-- A decision about the source of `synBytes`. -/
def synDecision : AiDecision Float where
  record := makeRecord defaultParams 1 ⟨Flow.begin ⟨synPacket, .inbound, 0⟩, .timeout⟩
  anomaly := true
  score := 2
  threshold := 1
  modelVersion := "online"

/-- Of two decisions about one source the first blocks it. -/
theorem ai_decisions_applied_twice :
    let h' := applyAiDecisions defaultParams 0 (.start .initial ⟨.tick [], 0, []⟩)
      [synDecision, synDecision]
    h'.capture.aiNewBlocks + h'.capture.aiDuplicates + h'.capture.aiWhitelisted = 2 ∧
      h'.capture.blockList.deadlines.lookup synPacket.tuple.srcIp = some (seconds 600) := by
  have happlied := ((ai_decisions_applied (F := Float) defaultParams
    ⟨by decide, by decide, by decide, by decide⟩).2 0 (.start .initial ⟨.tick [], 0, []⟩)
    [synDecision, synDecision] FlowManager.ok_empty).1
  exact ⟨happlied.accounted, happlied.blockMap synPacket.tuple.srcIp⟩

end InlineIps.PacketCapture
