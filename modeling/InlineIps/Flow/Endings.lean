import InlineIps.Flow.Statistics

/-!
# Why flows end

The end of a flow in terms of the packets assigned to it.

* `Flow.endReason_replay`: the flow that packets make has been reset when one of them carries RST,
  and closed when one of them acknowledges the FINs of both directions.
* `EndsWith.exact`: the reason of a flow that ended as soon as it could.
* `Settled`: no stored flow has ended, and none had before its last packet; what observing,
  extracting, discarding and cleaning up make of it.
-/

namespace InlineIps

open Library

/-- The packet carries the flag. -/
def Observation.carries (o : Observation) (flag : UInt8) : Bool := hasFlag o.packet.tcpFlags flag

/-! ## Patterns -/

section Patterns

variable (key : FiveTuple) (packets : List Observation)

/-- No packet carries RST. -/
def NoReset : Prop := ∀ o ∈ packets, o.carries thRst = false

/-- The packet has ACK and no FIN, and follows a FIN in each direction. -/
def Closes (earlier : List Observation) (o : Observation) : Prop :=
  o.carries thAck = true ∧ o.carries thFin = false ∧
    (∃ o' ∈ earlier, o'.packet.tuple = key ∧ o'.carries thFin = true) ∧
    ∃ o' ∈ earlier, o'.packet.tuple ≠ key ∧ o'.carries thFin = true

/-- No packet closes the conversation. -/
def NoClose : Prop := Machine.EachBehind (fun earlier o => ¬ Closes key earlier o) packets

/-- The last packet, and no earlier one, carries RST. -/
def ResetAtEnd : Prop :=
  ∃ earlier last, packets = earlier ++ [last] ∧ last.carries thRst = true ∧ NoReset earlier

/-- The last packet, and no earlier one, closes the conversation. -/
def CloseAtEnd : Prop :=
  ∃ earlier last, packets = earlier ++ [last] ∧ Closes key earlier last ∧ NoClose key earlier

variable {key packets}

theorem noReset_snoc {o : Observation} :
    NoReset (packets ++ [o]) ↔ NoReset packets ∧ o.carries thRst = false := by
  simp [NoReset, or_imp, forall_and]

theorem noClose_snoc {o : Observation} :
    NoClose key (packets ++ [o]) ↔ NoClose key packets ∧ ¬ Closes key packets o := by
  refine ⟨fun h => ⟨fun before x after heq => ?_, h packets o [] rfl⟩, fun h => h.1.snoc h.2⟩
  exact h before x (after ++ [o]) (by rw [heq]; simp)

end Patterns

variable {F : Type} [DoubleOps F]

/-! ## The flow that packets make -/

/-- A counter that cannot have wrapped is positive when a packet carries its flag. -/
theorem DirectionStats.counter_pos {x : UInt8 × (DirectionStats F → UInt32)}
    (hx : x ∈ flagCounters) {packets : List Observation} (hlength : packets.length < 2 ^ 32) :
    0 < x.2 (replay packets) ↔ ∃ o ∈ packets, o.carries x.1 = true := by
  rw [UInt32.lt_iff_toNat_lt, (exact_replay packets).flags hlength x hx, UInt32.toNat_zero, flagged,
    List.countP_pos_iff]
  rfl

namespace Flow

variable {first : Observation} {rest : List Observation}

/-- Whether a direction has counted a flag. -/
theorem directions_pos {x : UInt8 × (DirectionStats F → UInt32)}
    (hx : x ∈ DirectionStats.flagCounters) (hlength : (first :: rest).length < 2 ^ 32) :
    (0 < x.2 (replay first rest : Flow F).forward ↔
      ∃ o ∈ first :: rest, o.packet.tuple = first.packet.tuple ∧ o.carries x.1 = true) ∧
    (0 < x.2 (replay first rest : Flow F).backward ↔
      ∃ o ∈ first :: rest, o.packet.tuple ≠ first.packet.tuple ∧ o.carries x.1 = true) := by
  have hfilter : ∀ p : Observation → Bool, ((first :: rest).filter p).length < 2 ^ 32 :=
    fun p => Nat.lt_of_le_of_lt (List.length_filter_le p _) hlength
  rw [(replay_directions first rest).1, (replay_directions first rest).2,
    DirectionStats.counter_pos hx (hfilter _), DirectionStats.counter_pos hx (hfilter _)]
  simp only [List.mem_filter, decide_eq_true_eq, and_assoc, and_self]

/-- A direction has counted RST when a packet carries it. -/
theorem reset_replay (hlength : (first :: rest).length < 2 ^ 32) :
    (0 < (replay first rest : Flow F).forward.rst ∨ 0 < (replay first rest : Flow F).backward.rst) ↔
      ¬ NoReset (first :: rest) := by
  have hrst : (thRst, DirectionStats.rst) ∈ DirectionStats.flagCounters (F := F) := by
    simp [DirectionStats.flagCounters]
  obtain ⟨hforward, hbackward⟩ := directions_pos (F := F) hrst hlength
  rw [hforward, hbackward]
  unfold NoReset
  push Not
  constructor
  · rintro (⟨o, ho, -, hflag⟩ | ⟨o, ho, -, hflag⟩) <;> exact ⟨o, ho, by simp [hflag]⟩
  · rintro ⟨o, ho, hflag⟩
    by_cases htuple : o.packet.tuple = first.packet.tuple
    · exact Or.inl ⟨o, ho, htuple, by simpa using hflag⟩
    · exact Or.inr ⟨o, ho, htuple, by simpa using hflag⟩

theorem observe_handshake (flow : Flow F) (o : Observation) :
    (flow.observe o).finHandshakeComplete = (flow.finHandshakeComplete ||
      (decide (0 < flow.forward.fin) && decide (0 < flow.backward.fin) &&
        hasFlag o.packet.tcpFlags thAck && !hasFlag o.packet.tcpFlags thFin)) :=
  rfl

/-- The handshake is complete when a packet has closed the conversation. -/
theorem handshake_replay (hlength : (first :: rest).length < 2 ^ 32) :
    (replay first rest : Flow F).finHandshakeComplete = true ↔
      ¬ NoClose first.packet.tuple (first :: rest) := by
  induction rest using List.reverseRecOn with
  | nil =>
    have hopen : NoClose first.packet.tuple [first] := by
      rw [← List.nil_append [first], noClose_snoc]
      exact ⟨Machine.eachBehind_nil _, fun h => by simpa using h.2.2.1⟩
    exact iff_of_false (by simp [replay, begin, record, opened, DirectionStats.zero])
      (not_not.mpr hopen)
  | append_singleton rest o ih =>
    have hshorter : (first :: rest).length < 2 ^ 32 := by
      rw [← List.cons_append, List.length_append] at hlength
      omega
    have hfin : (thFin, DirectionStats.fin) ∈ DirectionStats.flagCounters (F := F) := by
      simp [DirectionStats.flagCounters]
    obtain ⟨hforward, hbackward⟩ := directions_pos (F := F) hfin hshorter
    have hnow : (decide (0 < (replay first rest : Flow F).forward.fin) &&
        decide (0 < (replay first rest : Flow F).backward.fin) && hasFlag o.packet.tcpFlags thAck &&
          !hasFlag o.packet.tcpFlags thFin) = true ↔ Closes first.packet.tuple (first :: rest) o := by
      simp only [Bool.and_eq_true, decide_eq_true_eq, hforward, hbackward, Bool.not_eq_true']
      constructor
      · rintro ⟨⟨⟨hforwardFin, hbackwardFin⟩, hack⟩, hnoFin⟩
        exact ⟨hack, hnoFin, hforwardFin, hbackwardFin⟩
      · rintro ⟨hack, hnoFin, hforwardFin, hbackwardFin⟩
        exact ⟨⟨⟨hforwardFin, hbackwardFin⟩, hack⟩, hnoFin⟩
    rw [replay_snoc, ← List.cons_append, noClose_snoc, observe_handshake, Bool.or_eq_true,
      ih hshorter, hnow, not_and_or, not_not]

omit [DoubleOps F] in
theorem endReason_cases (flow : Flow F) :
    ((0 < flow.forward.rst ∨ 0 < flow.backward.rst) ∧ flow.endReason? = some .tcpReset) ∨
    (¬ (0 < flow.forward.rst ∨ 0 < flow.backward.rst) ∧ flow.finHandshakeComplete = true ∧
      flow.endReason? = some .tcpFin) ∨
    (¬ (0 < flow.forward.rst ∨ 0 < flow.backward.rst) ∧ flow.finHandshakeComplete = false ∧
      flow.endReason? = none) := by
  unfold endReason?
  simp only [Bool.or_eq_true, decide_eq_true_eq]
  by_cases hreset : 0 < flow.forward.rst ∨ 0 < flow.backward.rst
  · exact Or.inl ⟨hreset, if_pos hreset⟩
  · cases hcomplete : flow.finHandshakeComplete
    · exact Or.inr (Or.inr ⟨hreset, rfl, by rw [if_neg hreset]; rfl⟩)
    · exact Or.inr (Or.inl ⟨hreset, rfl, by rw [if_neg hreset]; rfl⟩)

/-- **The end of a flow in terms of its packets.** -/
theorem endReason_replay (hlength : (first :: rest).length < 2 ^ 32) :
    (¬ NoReset (first :: rest) ∧ (replay first rest : Flow F).endReason? = some .tcpReset) ∨
    (NoReset (first :: rest) ∧ ¬ NoClose first.packet.tuple (first :: rest) ∧
      (replay first rest : Flow F).endReason? = some .tcpFin) ∨
    (NoReset (first :: rest) ∧ NoClose first.packet.tuple (first :: rest) ∧
      (replay first rest : Flow F).endReason? = none) := by
  have hcases := endReason_cases (replay first rest : Flow F)
  rw [reset_replay hlength, not_not, handshake_replay hlength, ← Bool.not_eq_true,
    handshake_replay hlength, not_not] at hcases
  exact hcases

end Flow

namespace FlowManager

/-! ## Ending at once -/

variable (F) in
/-- No part of the packets from the first one on makes a flow that has ended. -/
def Unended (packets : List Observation) : Prop :=
  ∀ first rest, first :: rest <+: packets → (Flow.replay first rest : Flow F).endReason? = none

variable (F) in
/-- The same without the whole list. -/
def UnendedBefore (packets : List Observation) : Prop :=
  ∀ earlier last, packets = earlier ++ [last] → Unended F earlier

variable {packets : List Observation} {flow : Flow F}

theorem unended_nil : Unended F [] := by
  intro first rest hprefix
  simp at hprefix

theorem unendedBefore_singleton (o : Observation) : UnendedBefore F [o] := by
  intro earlier last heq
  cases earlier with
  | nil => exact unended_nil
  | cons first earlier => simp at heq

/-- A flow that has not ended, and had not before its last packet. -/
theorem UnendedBefore.unended (h : UnendedBefore F packets) (hmade : MadeBy packets flow)
    (hflow : flow.endReason? = none) : Unended F packets := by
  obtain ⟨first, rest, rfl, rfl, -⟩ := hmade
  intro first' rest' hprefix
  obtain ⟨earlier, last, hsplit⟩ := (List.eq_nil_or_concat (first :: rest)).resolve_left (by simp)
  rw [List.concat_eq_append] at hsplit
  rw [hsplit] at hprefix
  rcases List.prefix_concat_iff.mp hprefix with hwhole | hearlier
  · have hsame : first' :: rest' = first :: rest := by
      rw [hwhole, hsplit]
    cases hsame
    exact hflow
  · exact h earlier last hsplit first' rest' hearlier

/-- Packets none of which ended the flow. -/
theorem Unended.quiet (h : Unended F packets) (hlength : packets.length < 2 ^ 32)
    {key : FiveTuple} (hkey : ∀ o ∈ packets.head?, o.packet.tuple = key) :
    NoReset packets ∧ NoClose key packets := by
  cases packets with
  | nil => exact ⟨by simp [NoReset], Machine.eachBehind_nil _⟩
  | cons first rest =>
    have hend := h first rest List.prefix_rfl
    have htuple : first.packet.tuple = key := hkey first rfl
    rcases Flow.endReason_replay (F := F) hlength with
      ⟨-, hreason⟩ | ⟨-, -, hreason⟩ | ⟨hreset, hclose, -⟩
    · rw [hend] at hreason
      cases hreason
    · rw [hend] at hreason
      cases hreason
    · rw [htuple] at hclose
      exact ⟨hreset, hclose⟩

/-- The flow had not ended before its last packet, and was returned for what it is then. -/
structure EndsWith (packets : List Observation) (ended : EndedFlow F) : Prop where
  made : MadeBy packets ended.flow
  before : UnendedBefore F packets
  reason : ended.flow.endReason? = some ended.reason ∨
    ended.flow.endReason? = none ∧ ended.reason = .timeout

/-- **The reason of a flow in terms of its packets.** -/
theorem EndsWith.exact {ended : EndedFlow F} (h : EndsWith packets ended)
    (hlength : packets.length < 2 ^ 32) :
    (ended.reason = .tcpReset ↔ ResetAtEnd packets) ∧
    (ended.reason = .tcpFin ↔ NoReset packets ∧ CloseAtEnd ended.flow.key packets) ∧
    (ended.reason = .timeout ↔ NoReset packets ∧ NoClose ended.flow.key packets) := by
  obtain ⟨first, rest, rfl, hflow, -⟩ := h.made
  obtain ⟨earlier, last, hsplit⟩ := (List.eq_nil_or_concat (first :: rest)).resolve_left (by simp)
  rw [List.concat_eq_append] at hsplit
  have hkey : ended.flow.key = first.packet.tuple := by rw [hflow, Flow.replay_key]
  -- the packets before the last one did not end the flow
  have hearlier : NoReset earlier ∧ NoClose ended.flow.key earlier := by
    apply (h.before earlier last hsplit).quiet
    · rw [hsplit, List.length_append] at hlength
      omega
    · intro o ho
      have hhead : (first :: rest).head? = some o := by
        rw [hsplit, List.head?_append, Option.mem_def.mp ho]
        rfl
      cases hhead
      exact hkey.symm
  have hresetEnd : ResetAtEnd (first :: rest) ↔ ¬ NoReset (first :: rest) := by
    constructor
    · rintro ⟨earlier', last', hsplit', hlast', -⟩ hno
      rw [hsplit', noReset_snoc, hlast'] at hno
      exact absurd hno.2 (by decide)
    · intro hno
      refine ⟨earlier, last, hsplit, ?_, hearlier.1⟩
      by_contra hlast
      apply hno
      rw [hsplit, noReset_snoc]
      exact ⟨hearlier.1, by simpa using hlast⟩
  have hcloseEnd : CloseAtEnd ended.flow.key (first :: rest) ↔
      ¬ NoClose ended.flow.key (first :: rest) := by
    constructor
    · rintro ⟨earlier', last', hsplit', hlast', -⟩ hno
      rw [hsplit', noClose_snoc] at hno
      exact hno.2 hlast'
    · intro hno
      refine ⟨earlier, last, hsplit, ?_, hearlier.2⟩
      by_contra hlast
      apply hno
      rw [hsplit, noClose_snoc]
      exact ⟨hearlier.2, hlast⟩
  rw [hresetEnd, hcloseEnd, hkey]
  have hreason := h.reason
  rw [hflow] at hreason
  rcases Flow.endReason_replay (F := F) hlength with
    ⟨hreset, hend⟩ | ⟨hreset, hclose, hend⟩ | ⟨hreset, hclose, hend⟩ <;> rw [hend] at hreason
  · have hfor : ended.reason = .tcpReset := by simpa [eq_comm] using hreason
    simp [hfor, hreset]
  · have hfor : ended.reason = .tcpFin := by simpa [eq_comm] using hreason
    simp [hfor, hreset, hclose]
  · have hfor : ended.reason = .timeout := by simpa using hreason
    simp [hfor, hreset, hclose]

/-! ## Settled tables -/

variable {c : FlowParams} {m : FlowManager F} {h : List (FlowTaken F)} {k : FiveTuple}

/-- Stored flows are what their packets made, and had not ended before their last packets. -/
structure Ripe (c : FlowParams) (m : FlowManager F) (h : List (FlowTaken F)) : Prop where
  attributed : Attributed c m h
  before : ∀ k, k ∈ m.flows → UnendedBefore F (assigned c k h)

/-- No stored flow has ended, the one at `k` perhaps apart. -/
def SettledBut (k : Option FiveTuple) (m : FlowManager F) : Prop :=
  ∀ k' flow, m.flows.lookup k' = some flow → some k' ≠ k → flow.endReason? = none

/-- No stored flow has ended. -/
abbrev Settled (m : FlowManager F) : Prop := SettledBut none m

/-- A call that records no packet. -/
theorem Ripe.quiet (hripe : Ripe c m h) {e : FlowCall} (he : assignment? c m e = none)
    (hlookup : ∀ k flow, (m.call c e).1.flows.lookup k = some flow →
      m.flows.lookup k = some flow) :
    Ripe c (m.call c e).1 (h ++ [⟨m, e, (m.call c e).2⟩]) where
  attributed := hripe.attributed.call e
  before := by
    intro k hk
    obtain ⟨flow, hflow⟩ := Option.isSome_iff_exists.mp (AList.lookup_isSome.mpr hk)
    rw [assigned_snoc, assign_of_none he]
    exact hripe.before k (Table.mem_of_lookup (hlookup k flow hflow))

theorem Ripe.extract (hripe : Ripe c m h) (key : FiveTuple) :
    Ripe c (m.call c (.extract key)).1 (h ++ [⟨m, .extract key, (m.call c (.extract key)).2⟩]) :=
  hripe.quiet rfl fun _ _ hflow => extractCompleted_lookup hflow

theorem Ripe.discard (hripe : Ripe c m h) (ip : UInt32) :
    Ripe c (m.call c (.discard ip)).1 (h ++ [⟨m, .discard ip, (m.call c (.discard ip)).2⟩]) :=
  hripe.quiet rfl fun _ _ hflow => ((discardSourceFlows_lookup hripe.attributed.ok).mp hflow).1

theorem Ripe.cleanup (hripe : Ripe c m h) (now : TimePoint) :
    Ripe c (m.call c (.cleanup now)).1 (h ++ [⟨m, .cleanup now, (m.call c (.cleanup now)).2⟩]) :=
  hripe.quiet rfl fun _ _ hflow => cleanupExpired_lookup hflow

/-- A flow that is returned had not ended before its last packet. -/
theorem Ripe.ends (hripe : Ripe c m h) {e : FlowCall} (hsettled : e.isCleanup = true → Settled m)
    {ended : EndedFlow F} (hended : ended ∈ (m.call c e).2.endedFlows) :
    EndsWith (assigned c ended.flow.key h) ended := by
  have hstored := (ended_stored hripe.attributed.ok hended).1
  refine ⟨hripe.attributed.made _ _ hstored, hripe.before _ (Table.mem_of_lookup hstored), ?_⟩
  cases e with
  | observe packet direction now => cases hended
  | discard ip => cases hended
  | extract key =>
    change ended ∈ (m.extractCompleted key).2.toList at hended
    rcases extractCompleted_cases m key with ⟨k, flow, reason, -, -, hreason, he⟩ | ⟨-, he⟩ <;>
      rw [he] at hended
    · rw [Option.toList_some, List.mem_singleton] at hended
      subst hended
      exact Or.inl hreason
    · cases hended
  | cleanup now =>
    exact Or.inr ⟨hsettled rfl _ _ hstored (by simp), cleanupExpired_reason hended⟩

/-- Observing a packet in a settled table. -/
theorem Ripe.observe (hripe : Ripe c m h) (hsettled : Settled m) (packet : ParsedPacket)
    {direction : PacketDirection} (hd : direction ≠ .unknown) (now : TimePoint) :
    Ripe c (m.call c (.observe packet direction now)).1
      (h ++ [⟨m, .observe packet direction now, (m.call c (.observe packet direction now)).2⟩]) ∧
    ∃ k, SettledBut k (m.call c (.observe packet direction now)).1 ∧
      (∀ k', k = some k' →
        (m.call c (.observe packet direction now)).1.findKey packet.tuple = some k' ∧
        ((m.observePacket c packet direction now).2.isSome → k' = packet.tuple)) := by
  have hflows : (m.call c (.observe packet direction now)).1.flows =
      (m.updateFlow c packet direction now).1.flows := (observePacket_flows c m packet hd now).1
  have hattributed := hripe.attributed.call (.observe packet direction now)
  rcases updateFlow_accepted (c := c) hripe.attributed.ok packet direction now with
    ⟨k, flow', isForward, hkey, hplace, hassign, hupdated, hflow'⟩ | hnone
  · have hassignment : assignment? c m (.observe packet direction now) =
        some (k, ⟨packet, direction, now⟩) := by
      rw [assignment?, if_neg hd, hupdated, ← hkey]
      rfl
    rw [hassign] at hflows
    refine ⟨⟨hattributed, fun k' hk' => ?_⟩, some k, fun k' flow hlookup hne => ?_, ?_⟩
    · rw [assigned_snoc, assign_of_some hassignment]
      rw [hflows, Table.mem_assign] at hk'
      by_cases hsame : k = k'
      · subst hsame
        rw [if_pos rfl]
        rcases hflow' with ⟨old, hold, -⟩ | ⟨hfree, -⟩
        · have hunended := (hripe.before k (Table.mem_of_lookup hold)).unended
            (hripe.attributed.made k old hold) (hsettled k old hold (by simp))
          rw [if_pos (Table.mem_of_lookup hold)]
          intro earlier last heq
          rw [← (List.append_inj' heq rfl).1]
          exact hunended
        · rw [if_neg (AList.lookup_eq_none.mp hfree)]
          exact unendedBefore_singleton _
      · rw [if_neg hsame]
        exact hripe.before k' (hk'.resolve_left (Ne.symm hsame))
    · rw [hflows, Table.lookup_assign, if_neg (fun heq => hne (congrArg some heq))] at hlookup
      exact hsettled k' flow hlookup (by simp)
    · rintro k' ⟨⟩
      refine ⟨?_, fun hsome => ?_⟩
      · unfold findKey
        rw [hflows]
        rcases hplace with ⟨rfl, -⟩ | ⟨rfl, -, habsent⟩
        · rw [if_pos (Table.mem_assign.mpr (Or.inl rfl))]
        · by_cases hself : packet.tuple = packet.tuple.reversed
          · rw [if_pos (Table.mem_assign.mpr (Or.inl hself)), ← hself]
          · rw [if_neg fun hmem => (Table.mem_assign.mp hmem).elim hself habsent,
              if_pos (Table.mem_assign.mpr (Or.inl rfl))]
      · rcases hplace with ⟨rfl, -⟩ | ⟨-, hback, -⟩
        · rfl
        · unfold observePacket at hsome
          rw [if_neg hd] at hsome
          dsimp only at hsome
          rw [hupdated] at hsome
          simp [counted, hback] at hsome
  · have hassignment : assignment? c m (.observe packet direction now) = none := by
      rw [assignment?, if_neg hd, hnone]
      rfl
    rw [hnone] at hflows
    refine ⟨⟨hattributed, fun k' hk' => ?_⟩, none, fun k' flow hlookup hne => ?_, by simp⟩
    · rw [hflows] at hk'
      rw [assigned_snoc, assign_of_none hassignment]
      exact hripe.before k' hk'
    · rw [hflows] at hlookup
      exact hsettled k' flow hlookup hne

/-- Extracting the one flow that may have ended settles the table. -/
theorem SettledBut.extract {k : Option FiveTuple} (hbut : SettledBut k m) {key : FiveTuple}
    (hfind : ∀ k', k = some k' → m.findKey key = some k') : Settled (m.extractCompleted key).1 := by
  intro k' flow hlookup _
  rcases extractCompleted_cases m key with ⟨k₁, old, reason, hkey, -, -, he⟩ | ⟨hnone, he⟩ <;>
    rw [he] at hlookup
  · obtain ⟨hne, hstored⟩ := Table.lookup_erase_eq_some.mp hlookup
    apply hbut k' flow hstored
    intro hk
    rw [hfind k' hk.symm] at hkey
    exact hne (Option.some.inj hkey)
  · by_cases hk : some k' = k
    · exact hnone k' flow (hfind k' hk.symm) hlookup
    · exact hbut k' flow hlookup hk

omit [DoubleOps F] in
/-- Discarding the source of the one flow that may have ended settles the table. -/
theorem SettledBut.discard (hok : m.Ok) {k : Option FiveTuple} (hbut : SettledBut k m) {ip : UInt32}
    (hsource : ∀ k', k = some k' → k'.srcIp = ip) : Settled (m.discardSourceFlows ip) := by
  intro k' flow hlookup _
  obtain ⟨hstored, hother⟩ := (discardSourceFlows_lookup hok).mp hlookup
  exact hbut k' flow hstored fun hk => hother (hsource k' hk.symm)

/-! ## Runs -/

/-- After the calls no stored flow has ended, and every flow they returned ended at once. -/
structure EndsAtOnce (F : Type) [DoubleOps F] (c : FlowParams) (calls : List FlowCall) : Prop where
  ripe : Ripe (F := F) c (Machine.exec (call c) .empty calls) (Machine.trace (call c) .empty calls)
  settled : Settled (Machine.exec (call (F := F) c) .empty calls)
  returned : Machine.EachBehind (fun before e =>
    ∀ ended ∈ (call (F := F) c (Machine.exec (call c) .empty before) e).2.endedFlows,
      EndsWith (assigned (F := F) c ended.flow.key (Machine.trace (call c) .empty before)) ended) calls

variable {calls : List FlowCall}

theorem endsAtOnce_nil (F : Type) [DoubleOps F] (c : FlowParams) : EndsAtOnce F c [] where
  ripe := ⟨attributed_trace c [], by intro k hk; cases hk⟩
  settled := by intro k flow hflow; cases hflow
  returned := Machine.eachBehind_nil _

theorem exec_snoc (c : FlowParams) (calls : List FlowCall) (e : FlowCall) :
    Machine.exec (call (F := F) c) .empty (calls ++ [e]) =
      (call c (Machine.exec (call c) .empty calls) e).1 := by
  rw [Machine.exec_append]
  rfl

theorem EndsAtOnce.discard (hends : EndsAtOnce F c calls) (ip : UInt32) :
    EndsAtOnce F c (calls ++ [.discard ip]) where
  ripe := by
    rw [exec_snoc, trace_snoc]
    exact hends.ripe.discard ip
  settled := by
    rw [exec_snoc]
    exact hends.settled.discard hends.ripe.attributed.ok (by simp)
  returned := hends.returned.snoc fun _ hended => hends.ripe.ends (fun _ => hends.settled) hended

theorem EndsAtOnce.discards (hends : EndsAtOnce F c calls) (ips : List UInt32) :
    EndsAtOnce F c (calls ++ ips.map .discard) := by
  induction ips generalizing calls with
  | nil => simpa using hends
  | cons ip ips ih => simpa using ih (hends.discard ip)

theorem EndsAtOnce.cleanup (hends : EndsAtOnce F c calls) (now : TimePoint) :
    EndsAtOnce F c (calls ++ [.cleanup now]) where
  ripe := by
    rw [exec_snoc, trace_snoc]
    exact hends.ripe.cleanup now
  settled := by
    rw [exec_snoc]
    exact fun k flow hlookup _ => hends.settled k flow (cleanupExpired_lookup hlookup) (by simp)
  returned := hends.returned.snoc fun _ hended => hends.ripe.ends (fun _ => hends.settled) hended

/-- Two calls, of which the first records a packet and the second takes the flow of the packet out
if it has ended. -/
theorem EndsAtOnce.observeThen (hends : EndsAtOnce F c calls) {packet : ParsedPacket}
    {direction : PacketDirection} (hd : direction ≠ .unknown) (now : TimePoint) {e : FlowCall}
    (hcleanup : e.isCleanup = false)
    (hripe : ∀ m (h : List (FlowTaken F)), Ripe c m h →
      Ripe c (m.call c e).1 (h ++ [⟨m, e, (m.call c e).2⟩]))
    (hsettles : ∀ (m : FlowManager F) k, m.Ok → SettledBut k m →
      (∀ k', k = some k' → m.findKey packet.tuple = some k' ∧
        (((Machine.exec (call c) .empty calls : FlowManager F).observePacket c packet direction
          now).2.isSome → k' = packet.tuple)) → Settled (m.call c e).1) :
    EndsAtOnce F c (calls ++ [.observe packet direction now, e]) := by
  obtain ⟨hobserved, k, hbut, hfind⟩ := hends.ripe.observe hends.settled packet hd now
  rw [← exec_snoc, ← trace_snoc] at hobserved
  rw [← exec_snoc] at hbut hfind
  have hcalls : calls ++ [.observe packet direction now, e] =
      calls ++ [.observe packet direction now] ++ [e] := by simp
  have hnone : ∀ ended ∈ (call (F := F) c (Machine.exec (call c) .empty calls)
      (.observe packet direction now)).2.endedFlows,
      EndsWith (assigned (F := F) c ended.flow.key (Machine.trace (call c) .empty calls)) ended := by
    intro ended hended
    cases hended
  rw [hcalls]
  refine ⟨?_, ?_, ?_⟩
  · rw [exec_snoc c (calls ++ _), trace_snoc c (calls ++ _)]
    exact hripe _ _ hobserved
  · rw [exec_snoc c (calls ++ _)]
    exact hsettles _ k hobserved.attributed.ok hbut hfind
  · apply (hends.returned.snoc hnone).snoc
    intro ended hended
    exact hobserved.ends (fun he => absurd he (by simp [hcleanup])) hended

theorem EndsAtOnce.passed (hends : EndsAtOnce F c calls) {packet : ParsedPacket}
    {direction : PacketDirection} (hd : direction ≠ .unknown) (now : TimePoint) :
    EndsAtOnce F c (calls ++ [.observe packet direction now, .extract packet.tuple]) :=
  hends.observeThen hd now rfl (fun _ _ hripe => hripe.extract _)
    fun _ _ _ hbut hfind => hbut.extract fun k' hk' => (hfind k' hk').1

/-- A packet that is counted belongs to a flow of its source, or to none. -/
theorem EndsAtOnce.dropped (hends : EndsAtOnce F c calls) {packet : ParsedPacket} {now : TimePoint}
    (hcounted : ((Machine.exec (call c) .empty calls : FlowManager F).observePacket c packet .inbound
      now).2.isSome) :
    EndsAtOnce F c (calls ++ [.observe packet .inbound now, .discard packet.tuple.srcIp]) :=
  hends.observeThen (by simp) now rfl (fun _ _ hripe => hripe.discard _)
    fun _ _ hok hbut hfind => hbut.discard hok fun k' hk' => by rw [(hfind k' hk').2 hcounted]

end FlowManager

end InlineIps
