import Mathlib.Algebra.Order.Group.Int
import Mathlib.Algebra.Order.Floor.Div
import InlineIps.Library.LazyExpiry
import InlineIps.Library.Machine
import InlineIps.Common.FiveTuple

/-!
# Block list and whitelist

`BlockList` is a map with deadlines and lazy deletion (`LazyExpiry`).

* `isBlocked_cleanupUpTo`: a cleanup is invisible, whatever its limit.
* `Recorded`: a block list answers as the events do that made it, when addresses are only
  blocked while they are not; `Recorded.block` and `Recorded.cleanupUpTo` keep it.
* `PlainMap`: what the block list is for, a map from addresses to expiries.
* `refines_plainMap`: the block list answers as the plain map does, and its heap is an index
  of its map that is emptied in time.
-/

namespace InlineIps

open Library

/-- The addresses that always pass. -/
structure Whitelist where
  ips : Finset UInt32

def Whitelist.isWhitelisted (w : Whitelist) (ip : UInt32) : Bool := decide (ip ∈ w.ips)

/-- The block map and its expiry heap. -/
abbrev BlockList := LazyExpiry TimePoint UInt32

namespace BlockList

/-- `MAX_EXPIRY_CLEANUPS_PER_TICK` -/
def maxExpiryCleanupsPerTick : Nat := 16384

def block (m : BlockList) (ip : UInt32) (ttlSeconds : Int) (now : TimePoint) : BlockList :=
  LazyExpiry.assign m ip (now + seconds ttlSeconds)

def isBlocked (m : BlockList) (ip : UInt32) (now : TimePoint) : Bool :=
  LazyExpiry.live m ip now

/-- A cleanup that releases at most `limit` entries. -/
def cleanupUpTo (limit : Nat) (m : BlockList) (now : TimePoint) : BlockList :=
  LazyExpiry.sweep limit now m

def cleanupExpired (m : BlockList) (now : TimePoint) : BlockList :=
  cleanupUpTo maxExpiryCleanupsPerTick m now

theorem isBlocked_block (m : BlockList) (ip : UInt32) (ttlSeconds : Int) (t : TimePoint)
    (ip' : UInt32) (now : TimePoint) :
    (block m ip ttlSeconds t).isBlocked ip' now =
      if ip' = ip then decide (now < t + seconds ttlSeconds) else m.isBlocked ip' now :=
  LazyExpiry.live_assign m ip _ ip' now

@[simp] theorem isBlocked_empty (ip : UInt32) (now : TimePoint) :
    isBlocked ∅ ip now = false := rfl

theorem isBlocked_antitone {m : BlockList} {ip : UInt32} {now later : TimePoint}
    (hle : now ≤ later) (h : m.isBlocked ip later = true) : m.isBlocked ip now = true :=
  LazyExpiry.live_antitone hle h

theorem isBlocked_cleanupUpTo (limit : Nat) {now later : TimePoint} (hle : now ≤ later)
    (m : BlockList) (ip : UInt32) :
    (cleanupUpTo limit m now).isBlocked ip later = m.isBlocked ip later :=
  LazyExpiry.live_sweep limit hle m ip

/-! ## Block events -/

/-- An address and the time it was blocked at. -/
structure BlockEvent where
  ip : UInt32
  time : TimePoint
  deriving DecidableEq, Repr

/-- The time of the most recent block of an address. -/
def lastBlock (events : List BlockEvent) (ip : UInt32) : Option TimePoint :=
  ((events.filter fun event => event.ip == ip).map BlockEvent.time).getLast?

/-- The most recent block of the address is in force. -/
def ActiveAt (ttlSeconds : Int) (events : List BlockEvent) (ip : UInt32) (now : TimePoint) :
    Prop :=
  ∃ t, lastBlock events ip = some t ∧ t ≤ now ∧ now < t + seconds ttlSeconds

theorem lastBlock_append_singleton (events : List BlockEvent) (event : BlockEvent)
    (ip : UInt32) :
    lastBlock (events ++ [event]) ip =
      if event.ip = ip then some event.time else lastBlock events ip := by
  unfold lastBlock
  by_cases h : event.ip = ip <;> simp [List.filter_append, h]

/-- When times are in order, no block of an address is later than the most recent one. -/
theorem le_lastBlock {events : List BlockEvent}
    (hOrdered : events.Pairwise fun a b => a.time ≤ b.time) {event : BlockEvent}
    (hEvent : event ∈ events) : ∃ t, lastBlock events event.ip = some t ∧ event.time ≤ t := by
  induction events using List.reverseRecOn with
  | nil => cases hEvent
  | append_singleton events last ih =>
    rw [lastBlock_append_singleton]
    obtain ⟨hBefore, -, hLast⟩ := List.pairwise_append.mp hOrdered
    by_cases hIp : last.ip = event.ip
    · rw [if_pos hIp]
      rcases List.mem_append.mp hEvent with hMem | hMem
      · exact ⟨_, rfl, hLast event hMem last List.mem_cons_self⟩
      · rw [List.mem_singleton.mp hMem]
        exact ⟨_, rfl, le_rfl⟩
    · rw [if_neg hIp]
      rcases List.mem_append.mp hEvent with hMem | hMem
      · exact ih hBefore hMem
      · rw [List.mem_singleton.mp hMem] at hIp
        exact absurd rfl hIp

/-- A block list and the block events that made it, at a time `clock`. -/
structure Recorded (ttlSeconds : Int) (clock : TimePoint) (m : BlockList)
    (events : List BlockEvent) : Prop where
  /-- The list answers as the events do, from `clock` on. -/
  exact : ∀ ip now, clock ≤ now → (m.isBlocked ip now = true ↔ ActiveAt ttlSeconds events ip now)
  past : ∀ event ∈ events, event.time ≤ clock
  ordered : events.Pairwise fun a b => a.time ≤ b.time
  /-- No block begins while another one of the same address is in force. -/
  spaced : events.Pairwise fun a b => a.ip = b.ip → a.time + seconds ttlSeconds ≤ b.time

namespace Recorded

variable {ttlSeconds : Int} {clock : TimePoint} {m : BlockList} {events : List BlockEvent}

theorem empty (ttlSeconds : Int) (clock : TimePoint) : Recorded ttlSeconds clock ∅ [] where
  exact := by simp [ActiveAt, lastBlock]
  past := by simp
  ordered := .nil
  spaced := .nil

/-- Time passes. -/
theorem pass (h : Recorded ttlSeconds clock m events) {later : TimePoint} (hle : clock ≤ later) :
    Recorded ttlSeconds later m events :=
  { h with
    exact := fun ip now hnow => h.exact ip now (hle.trans hnow)
    past := fun event hEvent => (h.past event hEvent).trans hle }

/-- An address that is not blocked is blocked. -/
theorem block (h : Recorded ttlSeconds clock m events) {ip : UInt32}
    (hFree : m.isBlocked ip clock = false) :
    Recorded ttlSeconds clock (m.block ip ttlSeconds clock) (events ++ [⟨ip, clock⟩]) where
  exact := by
    intro ip' now hnow
    rw [isBlocked_block, ActiveAt, lastBlock_append_singleton]
    by_cases hIp : ip = ip'
    · simp [hIp, hnow]
    · rw [if_neg (Ne.symm hIp), if_neg hIp]
      exact h.exact ip' now hnow
  past := by
    intro event hEvent
    rcases List.mem_append.mp hEvent with hMem | hMem
    · exact h.past event hMem
    · rw [List.mem_singleton.mp hMem]
  ordered := by
    rw [List.pairwise_append]
    refine ⟨h.ordered, List.pairwise_singleton _ _, ?_⟩
    intro event hEvent last hLast
    rw [List.mem_singleton.mp hLast]
    exact h.past event hEvent
  spaced := by
    rw [List.pairwise_append]
    refine ⟨h.spaced, List.pairwise_singleton _ _, ?_⟩
    intro event hEvent last hLast hIp
    rw [List.mem_singleton.mp hLast] at hIp ⊢
    -- The most recent block of the address is over, and `event` is no later than it.
    obtain ⟨t, ht, hle⟩ := le_lastBlock h.ordered hEvent
    have hOver : ¬ ActiveAt ttlSeconds events ip clock := by
      rw [← h.exact ip clock le_rfl, hFree]
      simp
    have hpast : t ≤ clock := by
      obtain ⟨event', hEvent', rfl⟩ := List.mem_map.mp (List.mem_of_getLast? ht)
      exact h.past event' (List.mem_filter.mp hEvent').1
    have hend : t + seconds ttlSeconds ≤ clock := by
      by_contra hlt
      refine hOver ⟨t, ?_, hpast, not_le.mp hlt⟩
      rw [← ht, show event.ip = ip from hIp]
    exact (Int.add_le_add_right hle _).trans hend

/-- A cleanup at a time that is not ahead of the clock. -/
theorem cleanupUpTo (h : Recorded ttlSeconds clock m events) (limit : Nat) {now : TimePoint}
    (hnow : now ≤ clock) : Recorded ttlSeconds clock (m.cleanupUpTo limit now) events :=
  { h with
    exact := by
      intro ip later hlater
      rw [isBlocked_cleanupUpTo limit (hnow.trans hlater)]
      exact h.exact ip later hlater }

end Recorded

/-! ## Runs -/

/-- A call of a public operation. -/
inductive BlockCall
  | block (ip : UInt32) (ttlSeconds : Int) (now : TimePoint)
  | isBlocked (ip : UInt32) (now : TimePoint)
  | cleanupExpired (now : TimePoint)
  deriving DecidableEq

/-- The time a call is given. -/
def BlockCall.reads : BlockCall → List TimePoint
  | .block _ _ now => [now]
  | .isBlocked _ now => [now]
  | .cleanupExpired now => [now]

/-- A call and the answer to it. -/
def call (m : BlockList) : BlockCall → BlockList × Option Bool
  | .block ip ttlSeconds now => (m.block ip ttlSeconds now, none)
  | .isBlocked ip now => (m, some (m.isBlocked ip now))
  | .cleanupExpired now => (m.cleanupExpired now, none)

/-- The expiry of every address that was ever blocked. Nothing is removed from it. -/
abbrev PlainMap := UInt32 → Option TimePoint

/-- The calls of a block list on a plain map. -/
def PlainMap.call (m : PlainMap) : BlockCall → PlainMap × Option Bool
  | .block ip ttlSeconds now => (Function.update m ip (some (now + seconds ttlSeconds)), none)
  | .isBlocked ip now => (m, some ((m ip).any fun expiry => now < expiry))
  | .cleanupExpired _ => (m, none)

def PlainMap.empty : PlainMap := fun _ => none

/-- The expiry that a call sets for the address. -/
def BlockCall.expiry? (ip : UInt32) : BlockCall → Option TimePoint
  | .block ip' ttlSeconds now => if ip' = ip then some (now + seconds ttlSeconds) else none
  | .isBlocked _ _ => none
  | .cleanupExpired _ => none

/-- The expiry set by the most recent block of the address. -/
def lastExpiry (calls : List BlockCall) (ip : UInt32) : Option TimePoint :=
  (calls.filterMap (BlockCall.expiry? ip)).getLast?

theorem lastExpiry_snoc (calls : List BlockCall) (e : BlockCall) (ip : UInt32) :
    lastExpiry (calls ++ [e]) ip = (e.expiry? ip).or (lastExpiry calls ip) := by
  unfold lastExpiry
  rw [List.filterMap_append]
  cases he : e.expiry? ip with
  | none => simp [he]
  | some expiry =>
    simp only [List.filterMap_cons, he, List.filterMap_nil, List.getLast?_concat, Option.some_or]

theorem PlainMap.exec_apply (calls : List BlockCall) (ip : UInt32) :
    Machine.exec PlainMap.call PlainMap.empty calls ip = lastExpiry calls ip := by
  induction calls using List.reverseRecOn with
  | nil => rfl
  | append_singleton calls e ih =>
    rw [Machine.exec_append, lastExpiry_snoc, ← ih]
    cases e with
    | block ip' ttlSeconds now =>
      by_cases hip : ip' = ip
      · subst hip
        simp [PlainMap.call, BlockCall.expiry?]
      · simp [PlainMap.call, BlockCall.expiry?, hip, Function.update_of_ne (Ne.symm hip)]
    | isBlocked ip' now => rfl
    | cleanupExpired now => rfl

/-- From `clock` on the block list answers as the plain map does, and its heap is an index. -/
structure Refines (clock : TimePoint) (m : BlockList) (plain : PlainMap) : Prop where
  answers : ∀ ip now, clock ≤ now →
    m.isBlocked ip now = (plain ip).any fun expiry => decide (now < expiry)
  indexed : m.Indexed

theorem refines_empty (clock : TimePoint) : Refines clock ∅ PlainMap.empty where
  answers _ _ _ := rfl
  indexed := LazyExpiry.indexed_empty

/-- **A call keeps the refinement and gets the same answer.** -/
theorem Refines.call {clock : TimePoint} {m : BlockList} {plain : PlainMap}
    (h : Refines clock m plain) (e : BlockCall) (hreads : (clock :: e.reads).Pairwise (· ≤ ·)) :
    Refines (e.reads.getLastD clock) (m.call e).1 (plain.call e).1 ∧
      (m.call e).2 = (plain.call e).2 := by
  cases e with
  | block ip ttlSeconds now =>
    have hnow : clock ≤ now := (List.pairwise_cons.mp hreads).1 now List.mem_cons_self
    refine ⟨⟨fun ip' later hlater => ?_, h.indexed.assign ip _⟩, rfl⟩
    show (m.block ip ttlSeconds now).isBlocked ip' later = _
    rw [isBlocked_block]
    by_cases hip : ip' = ip
    · subst hip
      simp [PlainMap.call]
    · rw [if_neg hip]
      show _ = (Function.update plain ip _ ip').any _
      rw [Function.update_of_ne hip]
      exact h.answers ip' later (hnow.trans hlater)
  | isBlocked ip now =>
    have hnow : clock ≤ now := (List.pairwise_cons.mp hreads).1 now List.mem_cons_self
    refine ⟨⟨fun ip' later hlater => h.answers ip' later (hnow.trans hlater), h.indexed⟩, ?_⟩
    exact congrArg some (h.answers ip now hnow)
  | cleanupExpired now =>
    have hnow : clock ≤ now := (List.pairwise_cons.mp hreads).1 now List.mem_cons_self
    refine ⟨⟨fun ip' later hlater => ?_, h.indexed.sweep _ now⟩, rfl⟩
    have hread : now ≤ later := hlater
    show (m.cleanupExpired now).isBlocked ip' later = _
    rw [cleanupExpired, isBlocked_cleanupUpTo maxExpiryCleanupsPerTick hread m]
    exact h.answers ip' later (hnow.trans hlater)

theorem Refines.run {clock : TimePoint} {m : BlockList} {plain : PlainMap}
    (h : Refines clock m plain) {calls : List BlockCall}
    (hc : Machine.Chronological BlockCall.reads clock calls) :
    Refines (Machine.finish BlockCall.reads clock calls) (Machine.exec BlockList.call m calls)
        (Machine.exec PlainMap.call plain calls) ∧
      (Machine.trace BlockList.call m calls).map (fun taken => taken.output) =
        (Machine.trace PlainMap.call plain calls).map fun taken => taken.output := by
  induction calls generalizing clock m plain with
  | nil => exact ⟨h, rfl⟩
  | cons e calls ih =>
    obtain ⟨hreads, hrest⟩ := Machine.chronological_cons.mp hc
    obtain ⟨hcall, hanswer⟩ := h.call e hreads
    obtain ⟨hrefines, hanswers⟩ := ih hcall hrest
    refine ⟨hrefines, ?_⟩
    rw [Machine.trace_cons, Machine.trace_cons, List.map_cons, List.map_cons, hanswers, hanswer]

/-- Repeated cleanups at the same time. -/
def cleanups (n : Nat) (m : BlockList) (now : TimePoint) : BlockList :=
  (fun m => cleanupExpired m now)^[n] m

/-- Nothing that has expired is left, and nothing else was taken from the map. -/
structure CleanedAt (now : TimePoint) (m cleaned : BlockList) : Prop where
  heap : ∀ e ∈ cleaned.heap.entries, now < e.1
  map : ∀ ip expiry, cleaned.deadlines.lookup ip = some expiry → now < expiry
  kept : ∀ ip expiry, m.deadlines.lookup ip = some expiry → now < expiry →
    cleaned.deadlines.lookup ip = some expiry

theorem cleanups_cleaned {m : BlockList} (h : m.Indexed) (now : TimePoint) {n : Nat}
    (hn : m.due now ≤ maxExpiryCleanupsPerTick * n) : CleanedAt now m (m.cleanups n now) := by
  have hindexed : (m.cleanups n now).Indexed :=
    Function.Iterate.rec LazyExpiry.Indexed h
      (fun m (hm : LazyExpiry.Indexed m) => hm.sweep _ now) n
  have hdue : LazyExpiry.due (m.cleanups n now) now = 0 := by
    have hleft := LazyExpiry.due_sweeps maxExpiryCleanupsPerTick n now m
    rw [Nat.mul_comm] at hleft
    exact hleft.trans (Nat.sub_eq_zero_of_le hn)
  obtain ⟨hheap, hmap⟩ := hindexed.ahead hdue
  refine ⟨hheap, hmap, fun ip expiry hlookup hahead => ?_⟩
  exact Function.Iterate.rec (fun m : BlockList => m.deadlines.lookup ip = some expiry)
    hlookup (fun _ hm => LazyExpiry.lookup_sweep _ hm hahead) n

/-- **The block list refines a plain map from addresses to expiries.** -/
theorem refines_plainMap (start : TimePoint) (calls : List BlockCall)
    (hc : Machine.Chronological BlockCall.reads start calls) :
    ((Machine.trace BlockList.call ∅ calls).map (fun taken => taken.output) =
        (Machine.trace PlainMap.call PlainMap.empty calls).map fun taken => taken.output) ∧
    (∀ before ip now after, calls = before ++ .isBlocked ip now :: after →
      ((Machine.exec BlockList.call ∅ before).isBlocked ip now = true ↔
        ∃ expiry, lastExpiry before ip = some expiry ∧ now < expiry)) ∧
    (∀ ip expiry, (Machine.exec BlockList.call ∅ calls).deadlines.lookup ip = some expiry →
      (expiry, ip) ∈ (Machine.exec BlockList.call ∅ calls).heap.entries) ∧
    ∀ now, CleanedAt now (Machine.exec BlockList.call ∅ calls)
      ((Machine.exec BlockList.call ∅ calls).cleanups
        ((Machine.exec BlockList.call ∅ calls).due now ⌈/⌉ maxExpiryCleanupsPerTick) now) := by
  obtain ⟨hrun, hanswers⟩ := (refines_empty start).run hc
  refine ⟨hanswers, ?_, hrun.indexed, fun now => ?_⟩
  · rintro before ip now after rfl
    obtain ⟨hbefore, hrest⟩ := Machine.chronological_append.mp hc
    have hnow := (List.pairwise_cons.mp hrest).1 now (by simp [BlockCall.reads])
    have hbefore := ((refines_empty start).run hbefore).1
    rw [hbefore.answers ip now hnow, PlainMap.exec_apply, Option.any_eq_true]
    simp only [decide_eq_true_eq]
  · exact cleanups_cleaned hrun.indexed now (le_smul_ceilDiv (α := ℕ) (β := ℕ) (by decide))

/-- An address is blocked for ten seconds and then for one. -/
def shortenedBlock : List BlockCall :=
  [.block 1 10 0, .block 1 1 0, .isBlocked 1 (seconds 1), .cleanupExpired (seconds 1)]

theorem refines_plainMap_shortened :
    Machine.Chronological BlockCall.reads 0 shortenedBlock ∧
      (Machine.trace BlockList.call ∅ shortenedBlock).map (fun taken => taken.output) =
        [none, none, some false, none] := by
  have hc : Machine.Chronological BlockCall.reads 0 shortenedBlock := by decide
  refine ⟨hc, ?_⟩
  rw [(refines_plainMap 0 shortenedBlock hc).1]
  rfl

end BlockList

end InlineIps
