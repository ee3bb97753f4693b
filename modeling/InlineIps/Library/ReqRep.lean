import Mathlib.Data.Multiset.Filter
import Mathlib.Data.Multiset.AddSub

/-!
# Requests and replies under way

A client opens connections one after the other, each for a socket that sends a request only after
the reply to the last one. A server takes one request at a time and replies to it. `Traffic` is a
record of what both do; the transport between them is not modelled. What is asked of it is said
where something arrives: `Delivers` and `Returns`.

* `Sound`: how far the last request has come on the open connection.
* `Sound.collect`: the reply that arrives is the answer to this request.
-/

namespace Library.ReqRep

variable {Q R : Type}

/-- What has been sent and what has arrived, each with the number of its connection. A reply has
the number of the request that it was sent in reply to. `serving` is the request that the server
has taken. -/
structure Traffic (Q R : Type) where
  opened : Nat := 0
  sent : Multiset (Nat × Q) := 0
  taken : Multiset (Nat × Q) := 0
  replied : Multiset (Nat × R) := 0
  collected : Multiset (Nat × R) := 0
  serving : Option (Nat × Q) := none

namespace Traffic

def create (t : Traffic Q R) : Traffic Q R := { t with opened := t.opened + 1 }

/-- A request on the open connection. -/
def send (t : Traffic Q R) (q : Q) : Traffic Q R := { t with sent := (t.opened, q) ::ₘ t.sent }

/-- A request arrives at the server. -/
def take (t : Traffic Q R) (x : Nat × Q) : Traffic Q R :=
  { t with taken := x ::ₘ t.taken, serving := some x }

def replyOn (t : Traffic Q R) (connection : Nat) (r : R) : Traffic Q R :=
  { t with replied := (connection, r) ::ₘ t.replied, serving := none }

/-- The server replies to its request. -/
def reply (t : Traffic Q R) (r : R) : Traffic Q R :=
  match t.serving with
  | none => t
  | some (connection, _) => t.replyOn connection r

/-- The server ends with its request. -/
def abandon (t : Traffic Q R) : Traffic Q R := { t with serving := none }

/-- A reply arrives on the open connection. -/
def collect (t : Traffic Q R) (r : R) : Traffic Q R :=
  { t with collected := (t.opened, r) ::ₘ t.collected }

/-- The transport forges no request and delivers none twice: this one has been sent on its
connection, and has not arrived before. -/
structure Delivers (t : Traffic Q R) (x : Nat × Q) : Prop where
  le : x ::ₘ t.taken ≤ t.sent

/-- The transport forges no reply, delivers none twice, and takes each to the connection of its
request: this one was sent in reply to a request on the open connection, and has not arrived
before. -/
structure Returns (t : Traffic Q R) (r : R) : Prop where
  le : (t.opened, r) ::ₘ t.collected ≤ t.replied

end Traffic

/-- The messages on a connection. -/
def onConnection {A : Type} (connection : Nat) (messages : Multiset (Nat × A)) : Multiset A :=
  (messages.filter fun x => x.1 = connection).map Prod.snd

section OnConnection

variable {A : Type} {connection : Nat} {messages messages' : Multiset (Nat × A)}

theorem onConnection_cons (x : Nat × A) (messages : Multiset (Nat × A)) :
    onConnection connection (x ::ₘ messages) =
      if x.1 = connection then x.2 ::ₘ onConnection connection messages
      else onConnection connection messages := by
  unfold onConnection
  rw [Multiset.filter_cons]
  split
  · rw [Multiset.map_add, Multiset.map_singleton, Multiset.singleton_add]
  · rw [Multiset.zero_add]

theorem onConnection_cons_self (a : A) (messages : Multiset (Nat × A)) :
    onConnection connection ((connection, a) ::ₘ messages) =
      a ::ₘ onConnection connection messages := by
  rw [onConnection_cons, if_pos rfl]

theorem onConnection_cons_of_ne {x : Nat × A} (h : x.1 ≠ connection)
    (messages : Multiset (Nat × A)) :
    onConnection connection (x ::ₘ messages) = onConnection connection messages := by
  rw [onConnection_cons, if_neg h]

theorem onConnection_mono (connection : Nat) (h : messages ≤ messages') :
    onConnection connection messages ≤ onConnection connection messages' :=
  Multiset.map_le_map (Multiset.filter_le_filter _ h)

theorem onConnection_eq_zero (h : ∀ x ∈ messages, x.1 ≠ connection) :
    onConnection connection messages = 0 := by
  unfold onConnection
  rw [Multiset.filter_eq_nil.mpr h, Multiset.map_zero]

/-- A message beside all others is the one that is missing. -/
theorem eq_of_cons_le_cons {a b : A} {s : Multiset A} (h : a ::ₘ s ≤ b ::ₘ s) : a = b := by
  have hcard : (b ::ₘ s).card ≤ (a ::ₘ s).card := by
    rw [Multiset.card_cons, Multiset.card_cons]
  exact (Multiset.cons_inj_left s).mp (Multiset.eq_of_le_of_card_le h hcard)

theorem not_cons_le_self {a : A} {s : Multiset A} : ¬ a ::ₘ s ≤ s := by
  intro h
  have hcard := Multiset.card_le_card h
  rw [Multiset.card_cons] at hcard
  omega

end OnConnection

/-- Where the client is. -/
inductive Client (Q : Type) where
  | closed
  | idle
  | awaiting (q : Q)

namespace Traffic

/-- The server has no request of the open connection. -/
def Elsewhere (t : Traffic Q R) : Prop := ∀ x, t.serving = some x → x.1 ≠ t.opened

/-- All requests of the open connection have arrived. -/
def AllTaken (t : Traffic Q R) : Prop :=
  onConnection t.opened t.sent = onConnection t.opened t.taken

/-- All replies on the open connection have arrived. -/
def AllCollected (t : Traffic Q R) : Prop :=
  onConnection t.opened t.replied = onConnection t.opened t.collected

end Traffic

/-- How far the last request has come on the open connection. One that the server has given up is
behind `lost`. -/
inductive Standing (Answer : Q → R → Prop) (t : Traffic Q R) : Client Q → Prop
  | closed : Standing Answer t .closed
  | idle (hserving : t.Elsewhere) (htaken : t.AllTaken) (hcollected : t.AllCollected) :
      Standing Answer t .idle
  | underWay {q : Q} (hserving : t.Elsewhere)
      (hsent : onConnection t.opened t.sent = q ::ₘ onConnection t.opened t.taken)
      (hcollected : t.AllCollected) : Standing Answer t (.awaiting q)
  | served {q : Q} (hserving : t.serving = some (t.opened, q)) (htaken : t.AllTaken)
      (hcollected : t.AllCollected) : Standing Answer t (.awaiting q)
  | answered {q : Q} {r : R} (hserving : t.Elsewhere) (htaken : t.AllTaken)
      (hreplied : onConnection t.opened t.replied = r ::ₘ onConnection t.opened t.collected)
      (hanswer : Answer q r) : Standing Answer t (.awaiting q)
  | lost {q : Q} (hserving : t.Elsewhere) (htaken : t.AllTaken) (hcollected : t.AllCollected) :
      Standing Answer t (.awaiting q)

/-- All numbers are known, and the client stands where the traffic on its connection does. -/
structure Sound (Answer : Q → R → Prop) (t : Traffic Q R) (client : Client Q) : Prop where
  taken : t.taken ≤ t.sent
  collected : t.collected ≤ t.replied
  knownSent : ∀ x ∈ t.sent, x.1 ≤ t.opened
  knownReplied : ∀ x ∈ t.replied, x.1 ≤ t.opened
  knownServing : ∀ x, t.serving = some x → x.1 ≤ t.opened
  standing : Standing Answer t client

section Sound

variable {Answer : Q → R → Prop} {t : Traffic Q R} {client : Client Q}

theorem sound_initial (Answer : Q → R → Prop) : Sound Answer ({} : Traffic Q R) .closed where
  taken := le_refl _
  collected := le_refl _
  knownSent _ hx := absurd hx (Multiset.notMem_zero _)
  knownReplied _ hx := absurd hx (Multiset.notMem_zero _)
  knownServing _ hx := by cases hx
  standing := .closed

/-- The client gives up. -/
theorem Sound.close (h : Sound Answer t client) : Sound Answer t .closed :=
  { h with standing := .closed }

/-- A new connection is empty. -/
theorem Sound.create (h : Sound Answer t client) : Sound Answer t.create .idle where
  taken := h.taken
  collected := h.collected
  knownSent x hx := Nat.le_succ_of_le (h.knownSent x hx)
  knownReplied x hx := Nat.le_succ_of_le (h.knownReplied x hx)
  knownServing x hx := Nat.le_succ_of_le (h.knownServing x hx)
  standing := by
    have hne : ∀ {n : Nat}, n ≤ t.opened → n ≠ t.opened + 1 := by
      intro n hn
      omega
    have hsent : onConnection (t.opened + 1) t.sent = 0 :=
      onConnection_eq_zero fun x hx => hne (h.knownSent x hx)
    have htaken : onConnection (t.opened + 1) t.taken = 0 :=
      onConnection_eq_zero fun x hx => hne (h.knownSent x (Multiset.mem_of_le h.taken hx))
    have hreplied : onConnection (t.opened + 1) t.replied = 0 :=
      onConnection_eq_zero fun x hx => hne (h.knownReplied x hx)
    have hcollected : onConnection (t.opened + 1) t.collected = 0 :=
      onConnection_eq_zero fun x hx =>
        hne (h.knownReplied x (Multiset.mem_of_le h.collected hx))
    exact .idle (fun x hx => hne (h.knownServing x hx)) (hsent.trans htaken.symm)
      (hreplied.trans hcollected.symm)

/-- The numbers behind a request. -/
theorem Sound.sent (h : Sound Answer t client) (q : Q) {client' : Client Q}
    (hstanding : Standing Answer (t.send q) client') : Sound Answer (t.send q) client' where
  taken := le_trans h.taken (Multiset.le_cons_self _ _)
  collected := h.collected
  knownSent x hx := by
    rcases Multiset.mem_cons.mp hx with rfl | hold
    · exact Nat.le_refl _
    · exact h.knownSent x hold
  knownReplied := h.knownReplied
  knownServing := h.knownServing
  standing := hstanding

/-- A request of a client that gives up. -/
theorem Sound.sendOff (h : Sound Answer t client) (q : Q) : Sound Answer (t.send q) .closed :=
  h.sent q .closed

/-- The request is alone on the connection. -/
theorem Sound.send (h : Sound Answer t .idle) (q : Q) :
    Sound Answer (t.send q) (.awaiting q) := by
  refine h.sent q ?_
  cases h.standing with
  | idle hserving htaken hcollected =>
    refine .underWay hserving ?_ hcollected
    show onConnection t.opened ((t.opened, q) ::ₘ t.sent) = _
    rw [onConnection_cons_self]
    exact congrArg (q ::ₘ ·) htaken

/-- The server ends, perhaps with the request. -/
theorem Sound.abandon (h : Sound Answer t client) : Sound Answer t.abandon client where
  taken := h.taken
  collected := h.collected
  knownSent := h.knownSent
  knownReplied := h.knownReplied
  knownServing x hx := by cases hx
  standing := by
    have hnone : t.abandon.Elsewhere := fun x hx => by cases hx
    cases h.standing with
    | closed => exact .closed
    | idle hserving htaken hcollected => exact .idle hnone htaken hcollected
    | underWay hserving hsent hcollected => exact .underWay hnone hsent hcollected
    | served hserving htaken hcollected => exact .lost hnone htaken hcollected
    | answered hserving htaken hreplied hanswer => exact .answered hnone htaken hreplied hanswer
    | lost hserving htaken hcollected => exact .lost hnone htaken hcollected

/-- A request of another connection arrives. -/
theorem Standing.takeElsewhere {x : Nat × Q} (h : Standing Answer t client)
    (hfree : t.serving = none) (hx : x.1 ≠ t.opened) : Standing Answer (t.take x) client := by
  have helsewhere : (t.take x).Elsewhere := by
    rintro y hy
    cases hy
    exact hx
  have htaken : onConnection t.opened (x ::ₘ t.taken) = onConnection t.opened t.taken :=
    onConnection_cons_of_ne hx _
  cases h with
  | closed => exact .closed
  | idle _ hall hcollected => exact .idle helsewhere (hall.trans htaken.symm) hcollected
  | underWay _ hsent hcollected =>
    exact .underWay helsewhere (hsent.trans (congrArg _ htaken.symm)) hcollected
  | served hserving _ _ =>
    rw [hfree] at hserving
    cases hserving
  | answered _ hall hreplied hanswer =>
    exact .answered helsewhere (hall.trans htaken.symm) hreplied hanswer
  | lost _ hall hcollected => exact .lost helsewhere (hall.trans htaken.symm) hcollected

/-- A request of the open connection that arrives is the last one. -/
theorem Standing.takeOpen {q : Q} (h : Standing Answer t client)
    (hfree : t.serving = none) (hdelivers : t.Delivers (t.opened, q)) :
    Standing Answer (t.take (t.opened, q)) client := by
  have hle := onConnection_mono t.opened hdelivers.le
  rw [onConnection_cons_self] at hle
  have hnotAll : ¬ t.AllTaken := by
    intro hall
    rw [hall] at hle
    exact not_cons_le_self hle
  cases h with
  | closed => exact .closed
  | idle _ hall _ => exact absurd hall hnotAll
  | underWay _ hsent hcollected =>
    rw [hsent] at hle
    obtain rfl := eq_of_cons_le_cons hle
    refine .served rfl ?_ hcollected
    exact hsent.trans (onConnection_cons_self _ _).symm
  | served hserving _ _ =>
    rw [hfree] at hserving
    cases hserving
  | answered _ hall _ _ => exact absurd hall hnotAll
  | lost _ hall _ => exact absurd hall hnotAll

/-- A request arrives at a server that has none. -/
theorem Sound.take (h : Sound Answer t client) (hfree : t.serving = none) {x : Nat × Q}
    (hdelivers : t.Delivers x) : Sound Answer (t.take x) client where
  taken := hdelivers.le
  collected := h.collected
  knownSent := h.knownSent
  knownReplied := h.knownReplied
  knownServing y hy := by
    cases hy
    exact h.knownSent x (Multiset.mem_of_le hdelivers.le (Multiset.mem_cons_self _ _))
  standing := by
    obtain ⟨connection, q⟩ := x
    by_cases hopen : connection = t.opened
    · subst hopen
      exact h.standing.takeOpen hfree hdelivers
    · exact h.standing.takeElsewhere hfree hopen

/-- A reply on the open connection. -/
theorem Standing.replyOpen {q : Q} {r : R} (h : Standing Answer t client)
    (hserving : t.serving = some (t.opened, q)) (hanswer : Answer q r) :
    Standing Answer (t.replyOn t.opened r) client := by
  have hnone : (t.replyOn t.opened r).Elsewhere := fun x hx => by cases hx
  cases h with
  | closed => exact .closed
  | served hserving' htaken hcollected =>
    cases hserving.symm.trans hserving'
    refine .answered (r := r) hnone htaken ?_ hanswer
    exact (onConnection_cons_self _ _).trans (congrArg (r ::ₘ ·) hcollected)
  | idle helsewhere _ _ => exact absurd rfl (helsewhere _ hserving)
  | underWay helsewhere _ _ => exact absurd rfl (helsewhere _ hserving)
  | answered helsewhere _ _ _ => exact absurd rfl (helsewhere _ hserving)
  | lost helsewhere _ _ => exact absurd rfl (helsewhere _ hserving)

/-- A reply on another connection. -/
theorem Standing.replyElsewhere {x : Nat × Q} {r : R} (h : Standing Answer t client)
    (hserving : t.serving = some x) (hx : x.1 ≠ t.opened) :
    Standing Answer (t.replyOn x.1 r) client := by
  have hnone : (t.replyOn x.1 r).Elsewhere := fun y hy => by cases hy
  have hreplied : onConnection t.opened ((x.1, r) ::ₘ t.replied) =
      onConnection t.opened t.replied := (onConnection_cons _ _).trans (if_neg hx)
  cases h with
  | closed => exact .closed
  | idle _ htaken hcollected => exact .idle hnone htaken (hreplied.trans hcollected)
  | underWay _ hsent hcollected => exact .underWay hnone hsent (hreplied.trans hcollected)
  | served hserving' _ _ =>
    cases hserving.symm.trans hserving'
    exact absurd rfl hx
  | answered _ htaken hanswered hanswer =>
    exact .answered hnone htaken (hreplied.trans hanswered) hanswer
  | lost _ htaken hcollected => exact .lost hnone htaken (hreplied.trans hcollected)

/-- The server answers the request that it has taken. -/
theorem Sound.reply (h : Sound Answer t client) {r : R}
    (hanswer : ∀ x, t.serving = some x → Answer x.2 r) : Sound Answer (t.reply r) client := by
  unfold Traffic.reply
  split
  · exact h
  · rename_i connection q hserving
    refine ⟨h.taken, le_trans h.collected (Multiset.le_cons_self _ _), h.knownSent, ?_,
      fun x hx => (by cases hx), ?_⟩
    · intro x hx
      rcases Multiset.mem_cons.mp hx with rfl | hold
      · exact h.knownServing _ hserving
      · exact h.knownReplied x hold
    · by_cases hopen : connection = t.opened
      · subst hopen
        exact h.standing.replyOpen hserving (hanswer _ hserving)
      · exact h.standing.replyElsewhere hserving hopen

/-- **The reply that arrives is the answer**, and nothing stays behind. -/
theorem Sound.collect {q : Q} (h : Sound Answer t (.awaiting q)) {r : R}
    (hreturns : t.Returns r) : Answer q r ∧ Sound Answer (t.collect r) .idle := by
  have hle := onConnection_mono t.opened hreturns.le
  rw [onConnection_cons_self] at hle
  have hnotAll : ¬ t.AllCollected := by
    intro hall
    rw [hall] at hle
    exact not_cons_le_self hle
  cases h.standing with
  | underWay _ _ hall => exact absurd hall hnotAll
  | served _ _ hall => exact absurd hall hnotAll
  | lost _ _ hall => exact absurd hall hnotAll
  | answered hserving htaken hreplied hanswer =>
    rw [hreplied] at hle
    obtain rfl := eq_of_cons_le_cons hle
    refine ⟨hanswer, ⟨h.taken, hreturns.le, h.knownSent, h.knownReplied, h.knownServing, ?_⟩⟩
    exact .idle hserving htaken (hreplied.trans (onConnection_cons_self _ _).symm)

end Sound

end Library.ReqRep
