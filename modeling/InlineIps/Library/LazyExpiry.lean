import InlineIps.Library.Table
import Mathlib.Order.Basic
import Mathlib.Data.List.Sort

/-!
# A map with deadlines and lazy deletion

Every key is mapped to a deadline, and a min-heap holds one entry for every deadline ever
assigned. Assigning a key again leaves its old heap entry behind. A sweep pops a bounded
number of due heap entries and deletes a key only when its current deadline is the popped
one.

* `live_assign`: a key is live until the deadline assigned last.
* `live_sweep`: a sweep at time `now`, however short it is cut, never changes which keys
  are live at `now` or later.
* `Indexed`: every key has its heap entry. It holds whatever is assigned and swept.
* `due_sweeps`: how many due entries are left after repeated sweeps.
-/

namespace Library

/-- A min-heap as the list of its entries in the order they leave it. Entries of equal
priority leave in the order they came. -/
structure MinHeap (T K : Type) [LinearOrder T] where
  entries : List (T × K)
  ordered : (entries.map Prod.fst).Pairwise (· ≤ ·)

namespace MinHeap

variable {T K : Type} [LinearOrder T]

/-- Insert an entry behind those that leave no later than it. -/
def insertEntry (e : T × K) : List (T × K) → List (T × K)
  | [] => [e]
  | e' :: es => if e'.1 ≤ e.1 then e' :: insertEntry e es else e :: e' :: es

theorem mem_insertEntry {e x : T × K} {es : List (T × K)} :
    x ∈ insertEntry e es ↔ x = e ∨ x ∈ es := by
  induction es with
  | nil => simp [insertEntry]
  | cons e' es ih =>
    unfold insertEntry
    split
    · simp only [List.mem_cons, ih]
      tauto
    · simp

theorem ordered_insertEntry (e : T × K) {es : List (T × K)}
    (h : (es.map Prod.fst).Pairwise (· ≤ ·)) :
    ((insertEntry e es).map Prod.fst).Pairwise (· ≤ ·) := by
  induction es with
  | nil => simp [insertEntry]
  | cons e' es ih =>
    rw [List.map_cons, List.pairwise_cons] at h
    unfold insertEntry
    split
    · rename_i hle
      rw [List.map_cons, List.pairwise_cons]
      refine ⟨?_, ih h.2⟩
      intro t ht
      obtain ⟨x, hx, rfl⟩ := List.mem_map.mp ht
      rcases mem_insertEntry.mp hx with rfl | hx
      · exact hle
      · exact h.1 _ (List.mem_map_of_mem hx)
    · rename_i hlt
      have hlt' : e.1 ≤ e'.1 := le_of_not_ge hlt
      rw [List.map_cons, List.pairwise_cons]
      refine ⟨?_, by rw [List.map_cons, List.pairwise_cons]; exact h⟩
      intro t ht
      rcases List.mem_cons.mp ht with rfl | ht
      · exact hlt'
      · exact hlt'.trans (h.1 t ht)

instance : EmptyCollection (MinHeap T K) := ⟨⟨[], List.Pairwise.nil⟩⟩

/-- `push`: add an entry. -/
def push (h : MinHeap T K) (e : T × K) : MinHeap T K :=
  ⟨insertEntry e h.entries, ordered_insertEntry e h.ordered⟩

/-- `top`: an entry of least priority. -/
def top? (h : MinHeap T K) : Option (T × K) := h.entries.head?

/-- `pop`: remove the top entry. -/
def pop (h : MinHeap T K) : MinHeap T K :=
  ⟨h.entries.tail, by rw [List.map_tail]; exact h.ordered.tail⟩

end MinHeap

/-- Keys with deadlines: the map is the truth, the heap an index of it by deadline. -/
structure LazyExpiry (T K : Type) [LinearOrder T] where
  deadlines : Table K T
  heap : MinHeap T K

namespace LazyExpiry

variable {T K : Type} [LinearOrder T] [DecidableEq K]

instance : EmptyCollection (LazyExpiry T K) := ⟨⟨∅, ∅⟩⟩

/-- Set the deadline of a key, and always push a heap entry for it. -/
def assign (m : LazyExpiry T K) (k : K) (deadline : T) : LazyExpiry T K :=
  ⟨m.deadlines.insert k deadline, m.heap.push (deadline, k)⟩

/-- A key is live at `now` when its deadline lies ahead. -/
def live (m : LazyExpiry T K) (k : K) (now : T) : Bool :=
  match m.deadlines.lookup k with
  | none => false
  | some deadline => decide (now < deadline)

/-- Pop one heap entry, and delete its key when the map holds the same deadline. -/
def release (m : LazyExpiry T K) (e : T × K) : LazyExpiry T K :=
  { deadlines := if m.deadlines.lookup e.2 = some e.1 then m.deadlines.erase e.2 else m.deadlines
    heap := m.heap.pop }

/-- Release at most `limit` entries that are due at `now`. -/
def sweep : Nat → T → LazyExpiry T K → LazyExpiry T K
  | 0, _, m => m
  | limit + 1, now, m =>
    match m.heap.top? with
    | none => m
    | some e => if e.1 ≤ now then sweep limit now (m.release e) else m

theorem live_eq_true {m : LazyExpiry T K} {k : K} {now : T} :
    m.live k now = true ↔ ∃ deadline, m.deadlines.lookup k = some deadline ∧ now < deadline := by
  unfold live
  split <;> simp_all

@[simp] theorem live_empty (k : K) (now : T) : (∅ : LazyExpiry T K).live k now = false := rfl

/-- A key is live until the deadline assigned last. -/
theorem live_assign (m : LazyExpiry T K) (k : K) (deadline : T) (k' : K) (now : T) :
    (m.assign k deadline).live k' now =
      if k' = k then decide (now < deadline) else m.live k' now := by
  unfold live assign
  by_cases h : k' = k
  · subst h
    simp
  · rw [AList.lookup_insert_ne h, if_neg h]

/-- A live key stays dead or alive as time passes until its deadline. -/
theorem live_antitone {m : LazyExpiry T K} {k : K} {now later : T} (hle : now ≤ later)
    (h : m.live k later = true) : m.live k now = true := by
  obtain ⟨deadline, hd, hlt⟩ := live_eq_true.mp h
  exact live_eq_true.mpr ⟨deadline, hd, hle.trans_lt hlt⟩

theorem lookup_release (m : LazyExpiry T K) (e : T × K) (k : K) :
    (m.release e).deadlines.lookup k =
      if k = e.2 ∧ m.deadlines.lookup k = some e.1 then none else m.deadlines.lookup k := by
  unfold release
  by_cases hk : k = e.2
  · subst hk
    by_cases hd : m.deadlines.lookup e.2 = some e.1 <;> simp [hd]
  · by_cases hd : m.deadlines.lookup e.2 = some e.1
    · simp [hd, hk]
    · simp [hd, hk]

/-- Releasing a due entry never changes which keys are live from then on: the key it
deletes has the due deadline. -/
theorem live_release (m : LazyExpiry T K) {e : T × K} {now later : T} (hdue : e.1 ≤ now)
    (hle : now ≤ later) (k : K) : (m.release e).live k later = m.live k later := by
  unfold live
  rw [lookup_release]
  split_ifs with h
  · obtain ⟨-, hd⟩ := h
    simp [hd, hdue.trans hle]
  · rfl

/-- **Sweeps are invisible.** -/
theorem live_sweep (limit : Nat) {now later : T} (hle : now ≤ later) (m : LazyExpiry T K) (k : K) :
    (sweep limit now m).live k later = m.live k later := by
  induction limit generalizing m with
  | zero => rfl
  | succ limit ih =>
    unfold sweep
    split
    · rfl
    · split_ifs with hdue
      · rw [ih, live_release m hdue hle]
      · rfl

/-! ## The index -/

/-- Every key has a heap entry with its current deadline. -/
def Indexed (m : LazyExpiry T K) : Prop :=
  ∀ k deadline, m.deadlines.lookup k = some deadline → (deadline, k) ∈ m.heap.entries

theorem indexed_empty : (∅ : LazyExpiry T K).Indexed := by
  intro k deadline hlookup
  cases hlookup

theorem Indexed.assign {m : LazyExpiry T K} (h : m.Indexed) (k : K) (deadline : T) :
    (m.assign k deadline).Indexed := by
  intro k' deadline' hlookup
  apply MinHeap.mem_insertEntry.mpr
  unfold LazyExpiry.assign at hlookup
  by_cases hk : k' = k
  · subst hk
    rw [AList.lookup_insert] at hlookup
    cases hlookup
    exact .inl rfl
  · rw [AList.lookup_insert_ne hk] at hlookup
    exact .inr (h k' deadline' hlookup)

/-- The entry that leaves the heap takes its key along, if it is the current entry of the key. -/
theorem Indexed.release {m : LazyExpiry T K} (h : m.Indexed) {e : T × K}
    (htop : m.heap.top? = some e) : (m.release e).Indexed := by
  intro k deadline hlookup
  rw [lookup_release] at hlookup
  split at hlookup
  · cases hlookup
  · rename_i hstays
    have hentry := h k deadline hlookup
    have hentries : m.heap.entries = e :: m.heap.entries.tail := List.eq_cons_of_mem_head? htop
    rw [hentries] at hentry
    rcases List.mem_cons.mp hentry with rfl | htail
    · exact absurd ⟨rfl, hlookup⟩ hstays
    · exact htail

theorem Indexed.sweep {m : LazyExpiry T K} (h : m.Indexed) (limit : Nat) (now : T) :
    (sweep limit now m).Indexed := by
  induction limit generalizing m with
  | zero => exact h
  | succ limit ih =>
    unfold LazyExpiry.sweep
    split
    · exact h
    · rename_i e htop
      split
      · exact ih (h.release htop)
      · exact h

/-- A deadline that lies ahead is not swept. -/
theorem lookup_sweep (limit : Nat) {now : T} {m : LazyExpiry T K} {k : K} {deadline : T}
    (h : m.deadlines.lookup k = some deadline) (hahead : now < deadline) :
    (sweep limit now m).deadlines.lookup k = some deadline := by
  induction limit generalizing m with
  | zero => exact h
  | succ limit ih =>
    unfold sweep
    split
    · exact h
    · rename_i e htop
      split
      · rename_i hdue
        apply ih
        rw [lookup_release, if_neg, h]
        rintro ⟨-, hsame⟩
        rw [h] at hsame
        cases hsame
        exact absurd hdue (not_le.mpr hahead)
      · exact h

/-! ## Repeated sweeps -/

/-- The number of heap entries that are due. -/
def due (m : LazyExpiry T K) (now : T) : Nat := m.heap.entries.countP fun e => decide (e.1 ≤ now)

omit [DecidableEq K] in
/-- No entry is due when the top one is not. -/
theorem due_eq_zero {m : LazyExpiry T K} {now : T}
    (h : ∀ e, m.heap.top? = some e → now < e.1) : m.due now = 0 := by
  unfold due
  rw [List.countP_eq_zero]
  intro x hx
  obtain ⟨e, rest, hentries⟩ := List.exists_cons_of_ne_nil (List.ne_nil_of_mem hx)
  have hhead := h e (by rw [MinHeap.top?, hentries]; rfl)
  have hordered := m.heap.ordered
  rw [hentries, List.map_cons, List.pairwise_cons] at hordered
  rw [hentries] at hx
  have hle : e.1 ≤ x.1 := by
    rcases List.mem_cons.mp hx with rfl | hrest
    · exact le_refl _
    · exact hordered.1 _ (List.mem_map_of_mem hrest)
  simpa using lt_of_lt_of_le hhead hle

theorem due_release {m : LazyExpiry T K} {e : T × K} {now : T} (htop : m.heap.top? = some e)
    (hdue : e.1 ≤ now) : m.due now = (m.release e).due now + 1 := by
  have hentries : m.heap.entries = e :: m.heap.entries.tail := List.eq_cons_of_mem_head? htop
  have hrest : (m.release e).heap.entries = m.heap.entries.tail := rfl
  unfold due
  rw [hrest, hentries, List.countP_cons_of_pos (by simpa using hdue)]
  rfl

/-- A sweep releases as many due entries as its limit allows. -/
theorem due_sweep (limit : Nat) (now : T) (m : LazyExpiry T K) :
    (sweep limit now m).due now = m.due now - limit := by
  induction limit generalizing m with
  | zero => rfl
  | succ limit ih =>
    unfold sweep
    split
    · rename_i hnone
      have hzero : m.due now = 0 := due_eq_zero fun e htop => by simp [hnone] at htop
      rw [hzero, Nat.zero_sub]
    · rename_i e htop
      split
      · rename_i hdue
        rw [ih, due_release htop hdue]
        omega
      · rename_i hahead
        rw [due_eq_zero, Nat.zero_sub]
        intro e' htop'
        rw [htop] at htop'
        cases htop'
        exact not_le.mp hahead

theorem due_sweeps (limit n : Nat) (now : T) (m : LazyExpiry T K) :
    ((sweep limit now)^[n] m).due now = m.due now - n * limit := by
  induction n generalizing m with
  | zero => simp
  | succ n ih =>
    rw [Function.iterate_succ_apply, ih, due_sweep, Nat.succ_mul]
    omega

/-- When no entry is due, neither the heap nor the map holds a deadline that has passed. -/
theorem Indexed.ahead {m : LazyExpiry T K} (h : m.Indexed) {now : T} (hdue : m.due now = 0) :
    (∀ e ∈ m.heap.entries, now < e.1) ∧
      ∀ k deadline, m.deadlines.lookup k = some deadline → now < deadline := by
  unfold due at hdue
  rw [List.countP_eq_zero] at hdue
  have hheap : ∀ e ∈ m.heap.entries, now < e.1 := by
    intro e he
    simpa using hdue e he
  exact ⟨hheap, fun k deadline hlookup => hheap _ (h k deadline hlookup)⟩

end LazyExpiry

end Library
