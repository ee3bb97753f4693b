import InlineIps.Capture.PacketGrammar
import InlineIps.Library.Machine
import InlineIps.Library.Throttle
import Mathlib.Algebra.Group.Int.Defs
import Mathlib.Data.List.TakeWhile

/-!
# The packet source

`PacketSource` receives the messages of the packet queue in a loop, hands every packet to its
handler and answers the kernel with the verdict. About once a second, between two messages, it
calls its tick handler.

A `Turn` is what one turn of the loop finds: the outcome of `recv`, the readings of the clock, and
what its handlers find in their environment. The handlers keep a state `H` of their own. A message
may carry several packets; `nfq_handle_packet` goes through them until a callback returns a number
below 0, so the packets behind one whose header is missing or whose verdict cannot be sent are
not handed over.

* `turns_calls`: the loop makes its calls of the handlers in order, and answers every packet once.
* `ticks_and_warnings`: how far the ticks and the overflow warnings are apart, and that no lost
  message goes unreported.
-/

namespace InlineIps

open Library Library.Throttle

/-- `RECV_TIMEOUT_SEC` and `CLEANUP_INTERVAL_SEC` are both one second. -/
def cleanupIntervalSec : Int := 1
def enobufsLogIntervalSec : Int := 5

def nfInetLocalIn : UInt8 := 1
def nfInetLocalOut : UInt8 := 3

/-- `nfqnl_msg_packet_hdr`, the packet id in host order. -/
structure QueueHeader where
  packetId : UInt32
  hook : UInt8
  deriving DecidableEq

/-- A queued packet as the kernel has it. A message may lack its header or its payload. -/
structure QueuedPacket (X : Type) where
  header : Option QueueHeader
  packet : Option (List UInt8)
  /-- What `nfq_set_verdict` returns for it. -/
  verdictResult : Int := 0
  context : X
  deriving DecidableEq

/-- `nfq_get_payload`: the bytes that the kernel copied. -/
def QueuedPacket.payload {X : Type} (q : QueuedPacket X) : Option (List UInt8) :=
  q.packet.map fun data => data.take (min PacketParser.maxCopyBytes data.length)

def QueueHeader.direction (header : QueueHeader) : PacketDirection :=
  if header.hook = nfInetLocalIn then .inbound
  else if header.hook = nfInetLocalOut then .outbound
  else .unknown

/-- What the handler throws. -/
inductive Thrown where
  | exception (what : String)
  | unknown
  deriving DecidableEq

/-- `handler_` and `tick_handler_`, which may be empty. -/
structure SourceHandlers (H X Y : Type) where
  packet : H → X → List UInt8 → PacketDirection → H × Except Thrown Bool
  tick : Option (H → Y → H)

inductive SourceEffect where
  /-- `nfq_set_verdict`. -/
  | verdict (packetId : UInt32) (accept : Bool)
  | missingHeader
  | handlerFailed (thrown : Thrown)
  | overflowWarning (now : TimePoint) (count : Nat)
  | tick (now : TimePoint)
  | socketClosed
  | receiveFailed (error : String)
  deriving DecidableEq

/-- The outcome of `recv`. -/
inductive Received (X : Type) where
  /-- The packets of the message, for `nfq_handle_packet`. -/
  | message (packets : List (QueuedPacket X))
  | closed
  /-- `EAGAIN`, `EWOULDBLOCK` or `EINTR`. -/
  | idle
  /-- `ENOBUFS`. -/
  | overflow (now : TimePoint)
  | failed (error : String)
  deriving DecidableEq

structure Turn (X Y : Type) where
  received : Received X
  now : TimePoint
  context : Y
  deriving DecidableEq

/-- The local variables of `loop`. -/
structure ReceiveLoop (H : Type) where
  handler : H
  lastCleanup : TimePoint
  enobufs : Summary TimePoint
  deriving DecidableEq

variable {H X Y : Type}

/-- `recv` neither closes the socket nor fails. -/
def Received.goesOn : Received X → Bool
  | .closed | .failed _ => false
  | .message _ | .idle | .overflow _ => true

def Received.packets : Received X → List (QueuedPacket X)
  | .message packets => packets
  | .closed | .idle | .overflow _ | .failed _ => []

/-- What the callback returns for a packet: -1 without a header. -/
def QueuedPacket.result (q : QueuedPacket X) : Int := (q.header.map fun _ => q.verdictResult).getD (-1)

/-- The packets of a message up to the first whose callback returns a number below 0. -/
def handed : List (QueuedPacket X) → List (QueuedPacket X)
  | [] => []
  | q :: packets => q :: if q.result < 0 then [] else handed packets

theorem handed_of_nonneg {packets : List (QueuedPacket X)} (h : ∀ q ∈ packets, 0 ≤ q.result) :
    handed packets = packets := by
  induction packets with
  | nil => rfl
  | cons q packets ih =>
    rw [handed, if_neg (Int.not_lt.mpr (h q List.mem_cons_self)),
      ih fun q' hq' => h q' (List.mem_cons_of_mem _ hq')]

/-- The loop when it starts, with its first two readings of the clock. -/
def ReceiveLoop.start (h : H) (cleanup enobufs : TimePoint) : ReceiveLoop H :=
  ⟨h, cleanup, ⟨enobufs, 0⟩⟩

namespace PacketSource

/-- The callback that `nfq_handle_packet` calls for a packet, with what it returns. -/
def onPacketReceived (handlers : SourceHandlers H X Y) (h : H) (q : QueuedPacket X) :
    H × List SourceEffect × Int :=
  match q.header with
  | none => (h, [.missingHeader], -1)
  | some header =>
    match q.payload with
    | none => (h, [.verdict header.packetId true], q.verdictResult)
    | some data =>
      match handlers.packet h q.context data header.direction with
      | (h, .ok accept) => (h, [.verdict header.packetId accept], q.verdictResult)
      | (h, .error thrown) =>
        (h, [.handlerFailed thrown, .verdict header.packetId true], q.verdictResult)

/-- `nfq_handle_packet`: it stops behind a callback that returns a number below 0. -/
def handleMessage (handlers : SourceHandlers H X Y) :
    H → List (QueuedPacket X) → H × List SourceEffect
  | h, [] => (h, [])
  | h, q :: packets =>
    let (h, effects, result) := onPacketReceived handlers h q
    if result < 0 then (h, effects)
    else
      let (h, effects') := handleMessage handlers h packets
      (h, effects ++ effects')

/-- The part of a turn that handles the outcome of `recv`. The loop goes on unless the socket is
closed or has failed. -/
def receive (handlers : SourceHandlers H X Y) (s : ReceiveLoop H) :
    Received X → ReceiveLoop H × List SourceEffect × Bool
  | .message packets =>
    let (h, effects) := handleMessage handlers s.handler packets
    ({ s with handler := h }, effects, true)
  | .closed => (s, [.socketClosed], false)
  | .idle => (s, [], true)
  | .overflow now =>
    let (enobufs, report) := s.enobufs.record (seconds enobufsLogIntervalSec) now
    ({ s with enobufs }, (report.map (SourceEffect.overflowWarning now)).toList, true)
  | .failed error => (s, [.receiveFailed error], false)

/-- The part of a turn that calls the tick handler when it is time. -/
def cleanUp (handlers : SourceHandlers H X Y) (s : ReceiveLoop H) (now : TimePoint) (context : Y) :
    ReceiveLoop H × List SourceEffect :=
  if due (seconds cleanupIntervalSec) s.lastCleanup now then
    match handlers.tick with
    | none => ({ s with lastCleanup := now }, [])
    | some tick => ({ s with handler := tick s.handler context, lastCleanup := now }, [.tick now])
  else (s, [])

/-- One turn of the loop, and whether it ended without an error. -/
def turn (handlers : SourceHandlers H X Y) (s : ReceiveLoop H) (t : Turn X Y) :
    ReceiveLoop H × List SourceEffect × Bool :=
  match receive handlers s t.received with
  | (s, effects, false) => (s, effects, false)
  | (s, effects, true) =>
    let (s, effects') := cleanUp handlers s t.now t.context
    (s, effects ++ effects', true)

/-- The turns of the loop, up to the first that fails. -/
def turns (handlers : SourceHandlers H X Y) :
    ReceiveLoop H → List (Turn X Y) → ReceiveLoop H × List SourceEffect
  | s, [] => (s, [])
  | s, t :: ts =>
    match turn handlers s t with
    | (s, effects, false) => (s, effects)
    | (s, effects, true) =>
      let (s, effects') := turns handlers s ts
      (s, effects ++ effects')

/-! ## Calls of the handlers -/

/-- A packet that the callback was called for, or a call of the tick handler. -/
inductive SourceCall (X Y : Type) where
  | packet (q : QueuedPacket X)
  | tick (context : Y)

/-- What a call does. -/
def perform (handlers : SourceHandlers H X Y) (h : H) : SourceCall X Y → H × List SourceEffect
  | .packet q =>
    let (h, effects, _) := onPacketReceived handlers h q
    (h, effects)
  | .tick context => ((handlers.tick.map fun tick => tick h context).getD h, [])

/-- The calls of the turns, when the last cleanup was at the given time. -/
def handlerCalls (lastCleanup : TimePoint) : List (Turn X Y) → List (SourceCall X Y)
  | [] => []
  | t :: ts =>
    (handed t.received.packets).map .packet ++
      if t.received.goesOn then
        (if due (seconds cleanupIntervalSec) lastCleanup t.now then [.tick t.context] else []) ++
          handlerCalls (next (seconds cleanupIntervalSec) lastCleanup t.now) ts
      else []

/-- The verdict of an effect. -/
def verdict? : SourceEffect → Option (UInt32 × Bool)
  | .verdict packetId accept => some (packetId, accept)
  | _ => none

/-- The verdicts among effects, in order. -/
def verdicts (effects : List SourceEffect) : List (UInt32 × Bool) := effects.filterMap verdict?

theorem verdicts_append (effects effects' : List SourceEffect) :
    verdicts (effects ++ effects') = verdicts effects ++ verdicts effects' :=
  List.filterMap_append

/-- The state of the handlers behind some calls, and the verdicts given on the way. -/
def performAll (handlers : SourceHandlers H X Y) (h : H) (calls : List (SourceCall X Y)) :
    H × List (UInt32 × Bool) :=
  (Machine.exec (perform handlers) h calls,
    (Machine.trace (perform handlers) h calls).flatMap fun taken => verdicts taken.output)

section Calls

variable {handlers : SourceHandlers H X Y}

theorem performAll_append (h : H) (calls calls' : List (SourceCall X Y)) :
    performAll handlers h (calls ++ calls') =
      ((performAll handlers (performAll handlers h calls).1 calls').1,
        (performAll handlers h calls).2 ++
          (performAll handlers (performAll handlers h calls).1 calls').2) := by
  unfold performAll
  rw [Machine.exec_append, Machine.trace_append, List.flatMap_append]

variable (handlers) in
theorem onPacketReceived_result (h : H) (q : QueuedPacket X) :
    (onPacketReceived handlers h q).2.2 = q.result := by
  unfold onPacketReceived QueuedPacket.result
  cases q.header with
  | none => rfl
  | some header =>
    dsimp only [Option.map_some, Option.getD_some]
    split
    · rfl
    · split <;> rfl

variable (handlers) in
theorem handleMessage_cons (h : H) (q : QueuedPacket X) (packets : List (QueuedPacket X)) :
    handleMessage handlers h (q :: packets) =
      if q.result < 0 then ((onPacketReceived handlers h q).1, (onPacketReceived handlers h q).2.1)
      else ((handleMessage handlers (onPacketReceived handlers h q).1 packets).1,
        (onPacketReceived handlers h q).2.1 ++
          (handleMessage handlers (onPacketReceived handlers h q).1 packets).2) := by
  rw [handleMessage, ← onPacketReceived_result handlers h]

variable (handlers) in
theorem handleMessage_calls (h : H) (packets : List (QueuedPacket X)) :
    (handleMessage handlers h packets).1 =
        (performAll handlers h ((handed packets).map .packet)).1 ∧
      verdicts (handleMessage handlers h packets).2 =
        (performAll handlers h ((handed packets).map .packet)).2 := by
  induction packets generalizing h with
  | nil => exact ⟨rfl, rfl⟩
  | cons q packets ih =>
    rw [handleMessage_cons, handed]
    split
    · exact ⟨rfl, (List.append_nil _).symm⟩
    · obtain ⟨hstate, hverdicts⟩ := ih (onPacketReceived handlers h q).1
      refine ⟨hstate, ?_⟩
      rw [verdicts_append, hverdicts]
      rfl

/-- The state behind the handling of the outcome of `recv` and then of the cleanup. -/
def behind (handlers : SourceHandlers H X Y) (s : ReceiveLoop H) (t : Turn X Y) : ReceiveLoop H :=
  (cleanUp handlers (receive handlers s t.received).1 t.now t.context).1

variable (handlers) in
theorem receive_goesOn (s : ReceiveLoop H) (received : Received X) :
    (receive handlers s received).2.2 = received.goesOn := by
  cases received <;> rfl

theorem turns_cons_of_fails {s : ReceiveLoop H} {t : Turn X Y} {ts : List (Turn X Y)}
    (h : t.received.goesOn = false) : turns handlers s (t :: ts) =
      ((receive handlers s t.received).1, (receive handlers s t.received).2.1) := by
  rw [← receive_goesOn handlers s t.received] at h
  unfold turns turn
  rcases hrun : receive handlers s t.received with ⟨s₁, effects, goesOn⟩
  rw [hrun] at h
  rw [show goesOn = false from h]

theorem turns_cons_of_goesOn {s : ReceiveLoop H} {t : Turn X Y} {ts : List (Turn X Y)}
    (h : t.received.goesOn = true) : turns handlers s (t :: ts) =
      ((turns handlers (behind handlers s t) ts).1, (receive handlers s t.received).2.1 ++
        (cleanUp handlers (receive handlers s t.received).1 t.now t.context).2 ++
          (turns handlers (behind handlers s t) ts).2) := by
  rw [← receive_goesOn handlers s t.received] at h
  unfold behind
  rw [turns, turn]
  rcases hrun : receive handlers s t.received with ⟨s₁, effects, goesOn⟩
  rw [hrun] at h
  rw [show goesOn = true from h]

variable (handlers) in
theorem receive_calls (s : ReceiveLoop H) (received : Received X) :
    (receive handlers s received).1.handler =
        (performAll handlers s.handler ((handed received.packets).map .packet)).1 ∧
      (receive handlers s received).1.lastCleanup = s.lastCleanup ∧
      verdicts (receive handlers s received).2.1 =
        (performAll handlers s.handler ((handed received.packets).map .packet)).2 := by
  cases received with
  | message packets =>
    obtain ⟨hstate, hverdicts⟩ := handleMessage_calls handlers s.handler packets
    exact ⟨hstate, rfl, hverdicts⟩
  | closed => exact ⟨rfl, rfl, rfl⟩
  | idle => exact ⟨rfl, rfl, rfl⟩
  | overflow now =>
    refine ⟨rfl, rfl, ?_⟩
    change verdicts (((s.enobufs.record (seconds enobufsLogIntervalSec) now).2.map
      (SourceEffect.overflowWarning now)).toList) = []
    cases (s.enobufs.record (seconds enobufsLogIntervalSec) now).2 <;> rfl
  | failed error => exact ⟨rfl, rfl, rfl⟩

variable (handlers) in
theorem cleanUp_calls (s : ReceiveLoop H) (now : TimePoint) (context : Y) :
    (cleanUp handlers s now context).1.handler = (performAll handlers s.handler
        (if due (seconds cleanupIntervalSec) s.lastCleanup now then [.tick context] else [])).1 ∧
      (cleanUp handlers s now context).1.lastCleanup =
        next (seconds cleanupIntervalSec) s.lastCleanup now ∧
      verdicts (cleanUp handlers s now context).2 = [] ∧
      (performAll handlers s.handler
        (if due (seconds cleanupIntervalSec) s.lastCleanup now then [.tick context] else [])).2 =
          [] := by
  unfold cleanUp next
  split
  · cases htick : handlers.tick <;>
      simp [performAll, perform, htick, verdicts, verdict?]
  · exact ⟨rfl, rfl, rfl, rfl⟩

variable (handlers) in
/-- **The loop makes its calls in order**, and its verdicts are those of the calls. -/
theorem turns_calls (s : ReceiveLoop H) (ts : List (Turn X Y)) :
    (turns handlers s ts).1.handler =
        (performAll handlers s.handler (handlerCalls s.lastCleanup ts)).1 ∧
      verdicts (turns handlers s ts).2 =
        (performAll handlers s.handler (handlerCalls s.lastCleanup ts)).2 := by
  induction ts generalizing s with
  | nil => exact ⟨rfl, rfl⟩
  | cons t ts ih =>
    obtain ⟨hstate, hlast, hverdicts⟩ := receive_calls handlers s t.received
    rw [handlerCalls, performAll_append, ← hstate, ← hverdicts]
    cases hgoesOn : t.received.goesOn with
    | false =>
      rw [turns_cons_of_fails hgoesOn]
      exact ⟨rfl, (List.append_nil _).symm⟩
    | true =>
      obtain ⟨hstate', hlast', hverdicts', hnone⟩ := cleanUp_calls handlers
        (receive handlers s t.received).1 t.now t.context
      obtain ⟨hrest, hrest'⟩ := ih (behind handlers s t)
      rw [hlast] at hstate' hlast' hnone
      rw [turns_cons_of_goesOn hgoesOn, if_pos rfl, performAll_append, ← hstate', hnone, hrest,
        verdicts_append, verdicts_append, hverdicts', hrest', ← hlast', List.append_nil,
        List.nil_append]
      exact ⟨rfl, rfl⟩

end Calls

/-! ## Ticks and overflow warnings -/

/-- The turns before the first that fails. -/
def completed (ts : List (Turn X Y)) : List (Turn X Y) :=
  ts.takeWhile fun t => t.received.goesOn

theorem completed_cons_of_goesOn {t : Turn X Y} {ts : List (Turn X Y)}
    (h : t.received.goesOn = true) : completed (t :: ts) = t :: completed ts := by
  unfold completed
  rw [List.takeWhile_cons, if_pos h]

theorem completed_cons_of_fails {t : Turn X Y} {ts : List (Turn X Y)}
    (h : t.received.goesOn = false) : completed (t :: ts) = [] := by
  unfold completed
  rw [List.takeWhile_cons, if_neg (by rw [h]; exact Bool.false_ne_true)]

/-- The times at which `recv` reports lost messages. -/
def overflowOf : Received X → List TimePoint
  | .overflow now => [now]
  | .message _ | .closed | .idle | .failed _ => []

def overflows (ts : List (Turn X Y)) : List TimePoint :=
  (completed ts).flatMap fun t => overflowOf t.received

def tick? : SourceEffect → Option TimePoint
  | .tick now => some now
  | _ => none

/-- The times of the ticks among effects. -/
def ticks (effects : List SourceEffect) : List TimePoint := effects.filterMap tick?

def warning? : SourceEffect → Option (TimePoint × Nat)
  | .overflowWarning now count => some (now, count)
  | _ => none

/-- The overflow warnings among effects, with their times and counts. -/
def warnings (effects : List SourceEffect) : List (TimePoint × Nat) := effects.filterMap warning?

theorem ticks_append (effects effects' : List SourceEffect) :
    ticks (effects ++ effects') = ticks effects ++ ticks effects' := List.filterMap_append

theorem warnings_append (effects effects' : List SourceEffect) :
    warnings (effects ++ effects') = warnings effects ++ warnings effects' := List.filterMap_append

section Housekeeping

variable {handlers : SourceHandlers H X Y}

variable (handlers) in
/-- Answering packets neither ticks nor warns. -/
theorem onPacketReceived_quiet (h : H) (q : QueuedPacket X) :
    ticks (onPacketReceived handlers h q).2.1 = [] ∧
      warnings (onPacketReceived handlers h q).2.1 = [] := by
  unfold onPacketReceived
  split
  · exact ⟨rfl, rfl⟩
  · split
    · exact ⟨rfl, rfl⟩
    · split <;> exact ⟨rfl, rfl⟩

variable (handlers) in
theorem handleMessage_quiet (h : H) (packets : List (QueuedPacket X)) :
    ticks (handleMessage handlers h packets).2 = [] ∧
      warnings (handleMessage handlers h packets).2 = [] := by
  induction packets generalizing h with
  | nil => exact ⟨rfl, rfl⟩
  | cons q packets ih =>
    obtain ⟨hticks, hwarnings⟩ := onPacketReceived_quiet handlers h q
    obtain ⟨hrest, hrest'⟩ := ih (onPacketReceived handlers h q).1
    rw [handleMessage_cons]
    split
    · exact ⟨hticks, hwarnings⟩
    · refine ⟨?_, ?_⟩
      · rw [ticks_append, hticks, hrest, List.nil_append]
      · rw [warnings_append, hwarnings, hrest', List.nil_append]

variable (handlers) in
theorem receive_housekeeping (s : ReceiveLoop H) (received : Received X) :
    ticks (receive handlers s received).2.1 = [] ∧
      warnings (receive handlers s received).2.1 =
        s.enobufs.reports (seconds enobufsLogIntervalSec) (overflowOf received) ∧
      (receive handlers s received).1.enobufs =
        s.enobufs.after (seconds enobufsLogIntervalSec) (overflowOf received) := by
  cases received with
  | message packets =>
    obtain ⟨hticks, hwarnings⟩ := handleMessage_quiet handlers s.handler packets
    exact ⟨hticks, hwarnings, rfl⟩
  | closed => exact ⟨rfl, rfl, rfl⟩
  | idle => exact ⟨rfl, rfl, rfl⟩
  | overflow now =>
    have hreport : (receive handlers s (.overflow now)).2.1 =
        ((s.enobufs.record (seconds enobufsLogIntervalSec) now).2.map
          (SourceEffect.overflowWarning now)).toList := rfl
    rw [hreport, overflowOf, Summary.reports, Summary.reports]
    cases (s.enobufs.record (seconds enobufsLogIntervalSec) now).2 <;> exact ⟨rfl, rfl, rfl⟩
  | failed error => exact ⟨rfl, rfl, rfl⟩

variable (handlers) in
theorem cleanUp_housekeeping (tick : H → Y → H) (htick : handlers.tick = some tick)
    (s : ReceiveLoop H) (now : TimePoint) (context : Y) :
    ticks (cleanUp handlers s now context).2 =
        taken (seconds cleanupIntervalSec) s.lastCleanup [now] ∧
      warnings (cleanUp handlers s now context).2 = [] ∧
      (cleanUp handlers s now context).1.enobufs = s.enobufs := by
  unfold cleanUp
  rw [htick]
  split
  · rename_i hdue
    rw [taken_cons_of_due hdue]
    exact ⟨rfl, rfl, rfl⟩
  · rename_i hdue
    rw [taken_cons_of_not_due (Bool.not_eq_true _ ▸ hdue)]
    exact ⟨rfl, rfl, rfl⟩

variable (handlers) in
theorem turns_housekeeping (tick : H → Y → H) (htick : handlers.tick = some tick)
    (s : ReceiveLoop H) (ts : List (Turn X Y)) :
    ticks (turns handlers s ts).2 =
        taken (seconds cleanupIntervalSec) s.lastCleanup ((completed ts).map Turn.now) ∧
      warnings (turns handlers s ts).2 =
        s.enobufs.reports (seconds enobufsLogIntervalSec) (overflows ts) ∧
      (turns handlers s ts).1.enobufs =
        s.enobufs.after (seconds enobufsLogIntervalSec) (overflows ts) := by
  induction ts generalizing s with
  | nil => exact ⟨rfl, rfl, rfl⟩
  | cons t ts ih =>
    obtain ⟨hticks, hwarnings, henobufs⟩ :=
      receive_housekeeping handlers s t.received
    unfold overflows
    cases hgoesOn : t.received.goesOn with
    | false =>
      have hnone : overflowOf t.received = [] := by
        cases hreceived : t.received <;> rw [hreceived] at hgoesOn <;> first | rfl | cases hgoesOn
      rw [hnone] at hwarnings henobufs
      rw [turns_cons_of_fails hgoesOn, completed_cons_of_fails hgoesOn]
      exact ⟨hticks, hwarnings, henobufs⟩
    | true =>
      obtain ⟨hticks', hwarnings', henobufs'⟩ := cleanUp_housekeeping handlers tick
        htick (receive handlers s t.received).1 t.now t.context
      obtain ⟨hrest, hrest', hafter⟩ := ih (behind handlers s t)
      obtain ⟨-, hlast, -⟩ := receive_calls handlers s t.received
      have hlast' : (behind handlers s t).lastCleanup =
          next (seconds cleanupIntervalSec) s.lastCleanup t.now := by
        rw [behind, (cleanUp_calls _ _ _ _).2.1, hlast]
      have hbehind : (behind handlers s t).enobufs =
          s.enobufs.after (seconds enobufsLogIntervalSec) (overflowOf t.received) := by
        rw [behind, henobufs', henobufs]
      rw [hlast] at hticks'
      rw [turns_cons_of_goesOn hgoesOn, completed_cons_of_goesOn hgoesOn, List.flatMap_cons,
        List.map_cons, Summary.reports_append, Summary.after_append, ← hbehind]
      refine ⟨?_, ?_, hafter⟩
      · rw [ticks_append, ticks_append, hticks, hticks', hrest, hlast', List.nil_append]
        unfold next
        cases hdue : due (seconds cleanupIntervalSec) s.lastCleanup t.now with
        | true =>
          rw [taken_cons_of_due hdue, taken_cons_of_due hdue]
          rfl
        | false =>
          rw [taken_cons_of_not_due hdue, taken_cons_of_not_due hdue]
          rfl
      · rw [warnings_append, warnings_append, hwarnings, hwarnings', hrest', List.append_nil]
        rfl

end Housekeeping

/-! ## Runs -/

/-- The packets of all messages that the turns receive. -/
def queued (ts : List (Turn X Y)) : List (QueuedPacket X) :=
  (completed ts).flatMap fun t => t.received.packets

/-- Those of them that the callback is called for. -/
def called (ts : List (Turn X Y)) : List (QueuedPacket X) :=
  (completed ts).flatMap fun t => handed t.received.packets

/-- When no verdict fails and no header is missing, the callback is called for all of them. -/
theorem called_of_nonneg {ts : List (Turn X Y)} (h : ∀ q ∈ queued ts, 0 ≤ q.result) :
    called ts = queued ts := by
  unfold called queued
  refine List.flatMap_congr fun t ht => handed_of_nonneg fun q hq => h q ?_
  exact List.mem_flatMap.mpr ⟨t, ht, hq⟩

def packet? : SourceCall X Y → Option (QueuedPacket X)
  | .packet q => some q
  | .tick _ => none

/-- The calls of the callback, in order. -/
theorem handlerCalls_packets (lastCleanup : TimePoint) (ts : List (Turn X Y)) :
    (handlerCalls lastCleanup ts).filterMap packet? = called ts := by
  have hpackets : ∀ packets : List (QueuedPacket X),
      (packets.map (SourceCall.packet (Y := Y))).filterMap packet? = packets := by
    intro packets
    rw [List.filterMap_map]
    exact List.filterMap_some
  unfold called
  induction ts generalizing lastCleanup with
  | nil => rfl
  | cons t ts ih =>
    rw [handlerCalls, List.filterMap_append, hpackets]
    cases hgoesOn : t.received.goesOn with
    | false =>
      rw [completed_cons_of_fails hgoesOn]
      cases hreceived : t.received <;> rw [hreceived] at hgoesOn <;> first | rfl | cases hgoesOn
    | true =>
      rw [completed_cons_of_goesOn hgoesOn, if_pos rfl, List.filterMap_append, ih,
        List.flatMap_cons]
      cases due (seconds cleanupIntervalSec) lastCleanup t.now <;> rfl

theorem completed_before {ts before after : List (Turn X Y)} {t : Turn X Y}
    (h : completed ts = before ++ t :: after) :
    completed (before ++ [t]) = before ++ [t] := by
  have hall : ∀ u ∈ before ++ t :: after, u.received.goesOn = true := by
    rw [← h]
    intro u hu
    exact List.mem_takeWhile_imp (p := fun t : Turn X Y => t.received.goesOn) hu
  apply List.takeWhile_eq_self_iff.mpr
  intro u hu
  refine hall u ?_
  rcases List.mem_append.mp hu with hbefore | hlast
  · exact List.mem_append_left _ hbefore
  · rw [List.mem_singleton.mp hlast]
    exact List.mem_append_right _ List.mem_cons_self

/-- **Ticks and overflow warnings.** Ticks are at least a second apart, and behind every turn the
last one lies less than a second back. Warnings are at least five seconds apart, and they report
every loss except those behind the last warning, which the counter has. -/
theorem ticks_and_warnings (packet : H → X → List UInt8 → PacketDirection → H × Except Thrown Bool)
    (tick : H → Y → H) (h : H) (cleanup enobufs : TimePoint) (ts : List (Turn X Y)) :
    let handlers : SourceHandlers H X Y := ⟨packet, some tick⟩
    let run := fun ts => turns handlers (ReceiveLoop.start h cleanup enobufs) ts
    (cleanup :: ticks (run ts).2).IsChain
        (fun earlier later => seconds cleanupIntervalSec ≤ later - earlier) ∧
      (∀ before t after, completed ts = before ++ t :: after →
        t.now - (ticks (run (before ++ [t])).2).getLastD cleanup < seconds cleanupIntervalSec) ∧
      (enobufs :: (warnings (run ts).2).map Prod.fst).IsChain
        (fun earlier later => seconds enobufsLogIntervalSec ≤ later - earlier) ∧
      ((warnings (run ts).2).map Prod.snd).sum + (run ts).1.enobufs.since =
        (overflows ts).length := by
  intro handlers run
  have hall : ∀ ts, _ := turns_housekeeping handlers tick rfl
    (ReceiveLoop.start h cleanup enobufs)
  obtain ⟨hticks, hwarnings, hafter⟩ := hall ts
  refine ⟨?_, ?_, ?_, ?_⟩
  · rw [hticks]
    exact taken_spaced
  · intro before t after heq
    rw [(hall (before ++ [t])).1, completed_before heq, List.map_append]
    exact taken_recent (by decide) _ t.now
  · rw [hwarnings, Summary.reports_times]
    exact taken_spaced
  · rw [hwarnings, hafter, Summary.reports_sum]
    exact Nat.zero_add _

end PacketSource

end InlineIps
