import InlineIps.Capture.PacketSource
import InlineIps.Capture.Verdict

/-!
# The verdicts of the queue

The receive loop of `PacketSource` with the handlers of `PacketCapture`: what the kernel is told
about every packet of the queue.

* `parse_take_of_le`: no copy of at least 120 bytes changes what is parsed.
* `handler_run`: the loop makes of its capture what a run does whose events are the packets and
  ticks of the loop, the packets in full.
* `queue_verdicts`: every packet that the callback is called for gets one verdict, and which one.
-/

namespace InlineIps.PacketCapture

open Library PacketSource

/-- The readings of the clock during a call of a handler. -/
structure Readings where
  now : TimePoint
  later : List TimePoint
  deriving DecidableEq

variable {F : Type}

abbrev CaptureCall (F : Type) := SourceCall Readings (List (AiDecision F) × Readings)

abbrev CaptureTurn (F : Type) := Turn Readings (List (AiDecision F) × Readings)

/-- The event of a packet that the callback can read, with the whole packet. -/
def packetEvent? (q : QueuedPacket Readings) : Option (CaptureEvent F) :=
  match q.header, q.packet with
  | some header, some data =>
    some ⟨.packet data header.direction, q.context.now, q.context.later⟩
  | _, _ => none

def event? : CaptureCall F → Option (CaptureEvent F)
  | .packet q => packetEvent? q
  | .tick context => some ⟨.tick context.1, context.2.now, context.2.later⟩

def events (calls : List (CaptureCall F)) : List (CaptureEvent F) := calls.filterMap event?

/-- The packet of a call, with its header and the events before it. -/
def offered (seen : List (CaptureEvent F)) :
    CaptureCall F → List (List (CaptureEvent F) × QueueHeader × QueuedPacket Readings)
  | .packet q => (q.header.map (seen, ·, q)).toList
  | .tick _ => []

/-- The packets that can be answered. -/
def answerable : List (CaptureEvent F) → List (CaptureCall F) →
    List (List (CaptureEvent F) × QueueHeader × QueuedPacket Readings)
  | _, [] => []
  | seen, call :: calls => offered seen call ++ answerable (seen ++ (event? call).toList) calls

variable [DoubleOps F]

/-- What `PacketCapture` gives to its source. -/
def sourceHandlers (c : CaptureParams) :
    SourceHandlers (PacketCapture F) Readings (List (AiDecision F) × Readings) where
  packet s readings data direction :=
    let (s, output) := step c s ⟨.packet data direction, readings.now, readings.later⟩
    (s, .ok (output.verdict.getD true))
  tick := some fun s context =>
    (step c s ⟨.tick context.1, context.2.now, context.2.later⟩).1

/-- The answer to a packet behind the events seen before it: the packet is dropped exactly when it
is on its way in and parsed, and its source is not whitelisted but blocked, or hits a rule. -/
structure Answers (c : CaptureParams)
    (x : List (CaptureEvent F) × QueueHeader × QueuedPacket Readings) (verdict : UInt32 × Bool) :
    Prop where
  packetId : verdict.1 = x.2.1.packetId
  accept : verdict.2 = false ↔ x.2.1.hook = nfInetLocalIn ∧
    ∃ data packet, x.2.2.packet = some data ∧ PacketParser.parse data = some packet ∧
      c.whitelist.isWhitelisted packet.tuple.srcIp = false ∧
      (BlockList.ActiveAt c.config.blockTtlSeconds (blockEvents (effectsOf c x.1))
          packet.tuple.srcIp x.2.2.context.now ∨
        RuleHit c (run c x.1) packet x.2.2.context.now)

/-! ## The copy of a packet -/

omit [DoubleOps F] in
/-- The two longest headers together have 120 bytes. -/
theorem parse_take_of_le {n : Nat} (hn : 120 ≤ n) (data : List UInt8) :
    PacketParser.parse (data.take n) = PacketParser.parse data := by
  rcases Nat.le_total data.length n with hshort | hlong
  · rw [List.take_of_length_le hshort]
  · rw [PacketParser.parse_eq, PacketParser.parse_eq]
    apply PacketParser.decode_congr
    · intro i hi
      unfold PacketParser.bytesOf List.getD
      rw [List.getElem?_take_of_lt (by omega)]
    · rw [List.length_take]
      omega
    · omega

/-- A step sees of a packet only what is parsed. -/
theorem step_congr (c : CaptureParams) (s : PacketCapture F) {data data' : List UInt8}
    (hparse : PacketParser.parse data = PacketParser.parse data') (direction : PacketDirection)
    (now : TimePoint) (later : List TimePoint) :
    step c s ⟨.packet data direction, now, later⟩ =
      step c s ⟨.packet data' direction, now, later⟩ := by
  unfold step stepUpTo handleUpTo onPacket Handling.start
  simp only [hparse]

theorem step_payload (c : CaptureParams) (s : PacketCapture F) {q : QueuedPacket Readings}
    {data copied : List UInt8} (hdata : q.packet = some data) (hcopied : q.payload = some copied)
    (direction : PacketDirection) (now : TimePoint) (later : List TimePoint) :
    step c s ⟨.packet copied direction, now, later⟩ =
      step c s ⟨.packet data direction, now, later⟩ := by
  unfold QueuedPacket.payload at hcopied
  rw [hdata, Option.map_some, Option.some_inj] at hcopied
  refine step_congr c s ?_ direction now later
  rw [← hcopied]
  rcases Nat.le_total PacketParser.maxCopyBytes data.length with hlong | hshort
  · rw [Nat.min_eq_left hlong]
    exact parse_take_of_le (by decide) data
  · rw [Nat.min_eq_right hshort, List.take_length]

/-! ## Calls as events -/

omit [DoubleOps F] in
theorem packetEvent?_some {q : QueuedPacket Readings} {e : CaptureEvent F}
    (he : packetEvent? q = some e) :
    ∃ header data, q.header = some header ∧ q.packet = some data ∧
      e = ⟨.packet data header.direction, q.context.now, q.context.later⟩ := by
  unfold packetEvent? at he
  split at he
  · rename_i header data hheader hdata
    exact ⟨header, data, hheader, hdata, (Option.some_inj.mp he).symm⟩
  · cases he

omit [DoubleOps F] in
theorem packetEvent?_none {q : QueuedPacket Readings} (he : packetEvent? (F := F) q = none) :
    q.header = none ∨ q.packet = none := by
  unfold packetEvent? at he
  split at he
  · cases he
  · rename_i hnone
    cases hheader : q.header with
    | none => exact .inl rfl
    | some header =>
      cases hdata : q.packet with
      | none => exact .inr rfl
      | some data => exact absurd hdata (hnone header data hheader)

/-- A packet that the callback can read is handled as its event. -/
theorem perform_packet (c : CaptureParams) (s : PacketCapture F) {q : QueuedPacket Readings}
    {header : QueueHeader} {data : List UInt8} (hheader : q.header = some header)
    (hdata : q.packet = some data) {e : CaptureEvent F}
    (he : e = ⟨.packet data header.direction, q.context.now, q.context.later⟩) :
    onPacketReceived (sourceHandlers c) s q = ((step c s e).1,
      [.verdict header.packetId ((step c s e).2.verdict.getD true)], q.verdictResult) := by
  have hcopied : q.payload = some (data.take (min PacketParser.maxCopyBytes data.length)) := by
    unfold QueuedPacket.payload
    rw [hdata]
    rfl
  unfold onPacketReceived
  rw [hheader, hcopied, he]
  simp only [sourceHandlers]
  rw [step_payload c s hdata hcopied]

/-- A packet without a header or a payload is not handled. -/
theorem perform_unreadable (c : CaptureParams) (s : PacketCapture F) {q : QueuedPacket Readings}
    (hnone : q.header = none ∨ q.packet = none) :
    (onPacketReceived (sourceHandlers c) s q).1 = s ∧
      verdicts (onPacketReceived (sourceHandlers c) s q).2.1 =
        (q.header.map fun header => (header.packetId, true)).toList := by
  unfold onPacketReceived
  cases hheader : q.header with
  | none => exact ⟨rfl, rfl⟩
  | some header =>
    have hdata : q.packet = none := hnone.resolve_left (by simp [hheader])
    have hcopied : q.payload = none := by
      unfold QueuedPacket.payload
      rw [hdata]
      rfl
    rw [hcopied]
    exact ⟨rfl, rfl⟩

theorem perform_run (c : CaptureParams) (s : PacketCapture F) (call : CaptureCall F) :
    (perform (sourceHandlers c) s call).1 = Machine.exec (step c) s (event? call).toList := by
  cases call with
  | tick context => rfl
  | packet q =>
    change (onPacketReceived (sourceHandlers c) s q).1 =
      Machine.exec (step c) s (packetEvent? q).toList
    cases he : packetEvent? (F := F) q with
    | none => exact (perform_unreadable c s (packetEvent?_none he)).1
    | some e =>
      obtain ⟨header, data, hheader, hdata, heq⟩ := packetEvent?_some he
      rw [perform_packet c s hheader hdata heq]
      rfl

omit [DoubleOps F] in
theorem events_cons (call : CaptureCall F) (calls : List (CaptureCall F)) :
    events (call :: calls) = (event? call).toList ++ events calls := by
  unfold events
  rw [List.filterMap_cons]
  cases event? call <;> rfl

/-- **The loop makes of its capture what a run does.** -/
theorem handler_run (c : CaptureParams) (s : PacketCapture F) (calls : List (CaptureCall F)) :
    Machine.exec (perform (sourceHandlers c)) s calls =
      Machine.exec (step c) s (events calls) := by
  induction calls generalizing s with
  | nil => rfl
  | cons call calls ih =>
    rw [Machine.exec_cons, ih, events_cons, Machine.exec_append, perform_run]

/-! ## The answers -/

/-- The verdict on the last packet of a run. -/
theorem drops_iff {c : CaptureParams} {start : TimePoint} {seen : List (CaptureEvent F)}
    {e : CaptureEvent F} {data : List UInt8} {direction : PacketDirection}
    (hInput : e.input = .packet data direction)
    (hc : Machine.Chronological CaptureEvent.reads start (seen ++ [e])) :
    (step c (run c seen) e).2.verdict.getD true = false ↔
      direction = .inbound ∧ ∃ packet, PacketParser.parse data = some packet ∧
        c.whitelist.isWhitelisted packet.tuple.srcIp = false ∧
        (BlockList.ActiveAt c.config.blockTtlSeconds (blockEvents (effectsOf c seen))
            packet.tuple.srcIp e.now ∨
          RuleHit c (run c seen) packet e.now) := by
  obtain ⟨hBefore, hRest⟩ := Machine.chronological_append.mp hc
  have hNow : Machine.finish CaptureEvent.reads start seen ≤ e.now :=
    (List.pairwise_cons.mp (Machine.chronological_cons.mp hRest).1).1 _ List.mem_cons_self
  rw [step_verdict _ hInput, Option.getD_some, onPacket_drops_iff]
  refine and_congr_right fun _ => exists_congr fun packet => and_congr_right fun _ =>
    and_congr_right fun _ => or_congr ?_ Iff.rfl
  exact (recorded_run (c := c) hBefore).1.exact packet.tuple.srcIp e.now hNow

theorem direction_eq_inbound {header : QueueHeader} :
    header.direction = .inbound ↔ header.hook = nfInetLocalIn := by
  unfold QueueHeader.direction
  split
  · exact iff_of_true rfl ‹_›
  · split <;> exact iff_of_false (by simp) ‹_›

/-- Every packet with a header is answered, behind the events before it. -/
theorem answers_packet {c : CaptureParams} {start : TimePoint} {seen : List (CaptureEvent F)}
    (q : QueuedPacket Readings)
    (hc : Machine.Chronological CaptureEvent.reads start (seen ++ (packetEvent? q).toList)) :
    List.Forall₂ (Answers c) (q.header.map (seen, ·, q)).toList
      (verdicts (onPacketReceived (sourceHandlers c) (run c seen) q).2.1) := by
  cases he : packetEvent? (F := F) q with
  | none =>
    rw [(perform_unreadable c _ (packetEvent?_none he)).2]
    cases hheader : q.header with
    | none => exact .nil
    | some header =>
      have hdata : q.packet = none := (packetEvent?_none he).resolve_left (by simp [hheader])
      refine .cons ⟨rfl, ?_⟩ .nil
      simp [hdata]
  | some e =>
    obtain ⟨header, data, hheader, hdata, heq⟩ := packetEvent?_some he
    rw [he] at hc
    rw [perform_packet c _ hheader hdata heq, hheader]
    refine .cons ⟨rfl, ?_⟩ .nil
    have hInput : e.input = .packet data header.direction := by rw [heq]
    have hnow : e.now = q.context.now := by rw [heq]
    rw [drops_iff hInput hc, direction_eq_inbound, hdata, hnow]
    simp

theorem answers_all {c : CaptureParams} {start : TimePoint} (calls : List (CaptureCall F))
    {seen : List (CaptureEvent F)}
    (hc : Machine.Chronological CaptureEvent.reads start (seen ++ events calls)) :
    List.Forall₂ (Answers c) (answerable seen calls)
      (performAll (sourceHandlers c) (run c seen) calls).2 := by
  induction calls generalizing seen with
  | nil => exact .nil
  | cons call calls ih =>
    rw [events_cons, ← List.append_assoc] at hc
    have hstate : (perform (sourceHandlers c) (run c seen) call).1 =
        run c (seen ++ (event? call).toList) := by
      rw [perform_run, run, run, Machine.exec_append]
    have hrest := ih hc
    rw [← hstate] at hrest
    refine List.rel_append ?_ hrest
    cases call with
    | tick context => exact .nil
    | packet q => exact answers_packet q (Machine.chronological_append.mp hc).1

omit [DoubleOps F] in
/-- The packets that can be answered are those that have a header. -/
theorem answerable_headers (seen : List (CaptureEvent F)) (calls : List (CaptureCall F)) :
    (answerable seen calls).map (fun x => x.2.1) =
      (calls.filterMap packet?).filterMap QueuedPacket.header := by
  induction calls generalizing seen with
  | nil => rfl
  | cons call calls ih =>
    rw [answerable, List.map_append, ih]
    cases call with
    | tick context => rfl
    | packet q =>
      have hfirst : (SourceCall.packet q :: calls).filterMap packet? =
          q :: calls.filterMap packet? := rfl
      rw [hfirst, List.filterMap_cons, offered]
      cases q.header <;> rfl

/-- **The verdicts of the queue.** However the kernel groups the packets into messages and whatever
`recv` does in between, every packet with a header that the callback is called for gets one
verdict, in order; these are all packets of the queue when none of them lacks its header and no
verdict fails. The verdict depends on the whole packet, of which the kernel copies only a part,
and on the events before: the packet is dropped exactly when it is on its way in, can be parsed,
and its source is not whitelisted but either blocked or hitting a rule. -/
theorem queue_verdicts (c : CaptureParams) (start cleanup enobufs : TimePoint)
    (ts : List (CaptureTurn F))
    (hc : Machine.Chronological CaptureEvent.reads start (events (handlerCalls cleanup ts))) :
    let loop := turns (sourceHandlers c) (ReceiveLoop.start .initial cleanup enobufs) ts
    (verdicts loop.2).map Prod.fst =
        ((called ts).filterMap QueuedPacket.header).map QueueHeader.packetId ∧
      ((∀ q ∈ queued ts, 0 ≤ q.result) → called ts = queued ts) ∧
      List.Forall₂ (Answers c) (answerable [] (handlerCalls cleanup ts)) (verdicts loop.2) ∧
      loop.1.handler = run c (events (handlerCalls cleanup ts)) := by
  intro loop
  obtain ⟨hhandler, hverdicts⟩ := turns_calls (sourceHandlers c)
    (ReceiveLoop.start (.initial : PacketCapture F) cleanup enobufs) ts
  have hanswers : List.Forall₂ (Answers c) (answerable [] (handlerCalls cleanup ts))
      (verdicts loop.2) := by
    rw [hverdicts]
    exact answers_all _ hc
  refine ⟨?_, called_of_nonneg, hanswers, ?_⟩
  · rw [← handlerCalls_packets cleanup ts, ← answerable_headers [], List.map_map]
    have hids := hanswers.imp fun _ _ hanswer => hanswer.packetId.symm
    rw [← List.forall₂_map_right_iff (f := Prod.fst), ← List.forall₂_map_left_iff,
      List.forall₂_eq_eq_eq] at hids
    exact hids.symm
  · rw [hhandler]
    exact handler_run c _ _

/-- A message with the packet of `synBytes` twice, the first time without a payload, and with the
results of `nfq_set_verdict`. -/
def synTurn (result result' : Int) : CaptureTurn Float where
  received := .message [⟨some ⟨6, nfInetLocalIn⟩, none, result, ⟨4, []⟩⟩,
    ⟨some ⟨7, nfInetLocalIn⟩, some synBytes, result', ⟨5, []⟩⟩]
  now := 5
  context := ([], ⟨5, []⟩)

/-- Both packets are answered, in order. When the first verdict fails, the second packet of the
message is not handed over. -/
theorem queue_verdicts_syn :
    (verdicts (turns (sourceHandlers strictParams) (ReceiveLoop.start .initial 0 0)
      [synTurn 40 40]).2).map Prod.fst = [6, 7] ∧
    (verdicts (turns (sourceHandlers strictParams) (ReceiveLoop.start .initial 0 0)
      [synTurn (-1) 40]).2).map Prod.fst = [6] :=
  ⟨(queue_verdicts strictParams 0 0 0 [synTurn 40 40] (by decide)).1,
    (queue_verdicts strictParams 0 0 0 [synTurn (-1) 40] (by decide)).1⟩

end InlineIps.PacketCapture
