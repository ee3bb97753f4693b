import Mathlib.Data.List.Forall2
import Mathlib.Tactic.Common

/-!
# Items on their way

A log of effects on a first-in first-out pipeline that may lose items: a step accepts an
item at the end, delivers items from the front, clears everything, or passes, losing any
items on the way.

* `Run.sources`: what was delivered was accepted before, in the same order and at most
  once, and nothing cleared the pipeline in between.
-/

namespace Library.Pipeline

variable {A : Type}

/-- What a step does to the items on their way. -/
inductive Effect (A : Type) where
  | accept (item : A)
  | deliver (items : List A)
  | clear
  | pass

def Effect.delivered : Effect A → List A
  | .deliver items => items
  | _ => []

/-- The items before and after a step. -/
def Moves : Effect A → List A → List A → Prop
  | .accept item, items, items' => items' = items ++ [item]
  | .deliver out, items, items' => items = out ++ items'
  | .clear, _, items' => items' = []
  | .pass, items, items' => items'.Sublist items

/-- A log that starts with nothing on its way, with the items on their way at its end. -/
inductive Run : List (Effect A) → List A → Prop
  | nil : Run [] []
  | snoc {log : List (Effect A)} {items items' : List A} {effect : Effect A} :
      Run log items → Moves effect items items' → Run (log ++ [effect]) items'

/-- The delivered items with the positions of their deliveries. -/
def deliveries (log : List (Effect A)) : List (Nat × A) :=
  log.zipIdx.flatMap fun x => x.1.delivered.map (x.2, ·)

theorem deliveries_snoc (log : List (Effect A)) (effect : Effect A) :
    deliveries (log ++ [effect]) =
      deliveries log ++ effect.delivered.map (log.length, ·) := by
  simp [deliveries, List.zipIdx_append]

/-- The item is accepted at position `p`, and nothing clears it before position `d`. -/
structure Carried (log : List (Effect A)) (d p : Nat) (item : A) : Prop where
  accepted : log[p]? = some (.accept item)
  before : p < d
  within : d ≤ log.length
  kept : ∀ i, p < i → i < d → log[i]? ≠ some .clear

theorem Carried.lt_length {log : List (Effect A)} {d p : Nat} {item : A}
    (h : Carried log d p item) : p < log.length :=
  Nat.lt_of_lt_of_le h.before h.within

theorem Carried.snoc {log : List (Effect A)} {d p : Nat} {item : A} (h : Carried log d p item)
    (effect : Effect A) : Carried (log ++ [effect]) d p item where
  accepted := by
    rw [List.getElem?_append_left h.lt_length]
    exact h.accepted
  before := h.before
  within := by
    rw [List.length_append]
    exact Nat.le_add_right_of_le h.within
  kept i hp hd := by
    rw [List.getElem?_append_left (Nat.lt_of_lt_of_le hd h.within)]
    exact h.kept i hp hd

/-- An item on its way stays so under a step that does not clear. -/
theorem Carried.stays {log : List (Effect A)} {p : Nat} {item : A}
    (h : Carried log log.length p item) {effect : Effect A} (hkeep : effect ≠ .clear) :
    Carried (log ++ [effect]) (log ++ [effect]).length p item where
  accepted := (h.snoc effect).accepted
  before := by
    rw [List.length_append]
    exact Nat.lt_add_right _ h.before
  within := Nat.le_refl _
  kept i hp hi := by
    rw [List.length_append, List.length_singleton] at hi
    rcases Nat.lt_succ_iff_lt_or_eq.mp hi with hlt | rfl
    · exact (h.snoc effect).kept i hp hlt
    · simpa using hkeep

theorem carried_accept (log : List (Effect A)) (item : A) :
    Carried (log ++ [.accept item]) (log ++ [Effect.accept item]).length log.length item where
  accepted := by simp
  before := by simp
  within := Nat.le_refl _
  kept i hp hi := by
    rw [List.length_append, List.length_singleton] at hi
    omega

/-- What relates to something in an ascending log lies within it. -/
theorem forall₂_lt {B : Type} {R : Nat → B → Prop} {n : Nat} {ps : List Nat} {bs : List B}
    (h : List.Forall₂ R ps bs) (hR : ∀ p b, R p b → p < n) : ∀ p ∈ ps, p < n :=
  (List.forall₂_and_left ps bs).mp (h.imp fun p b hpb => ⟨hR p b hpb, hpb⟩) |>.1

/-- A sublist of the right list has a sublist of the left one beside it. -/
theorem forall₂_sublist {B : Type} {R : B → A → Prop} {bs : List B} {as as' : List A}
    (h : List.Forall₂ R bs as) (hsub : as'.Sublist as) :
    ∃ bs', List.Sublist bs' bs ∧ List.Forall₂ R bs' as' := by
  induction hsub generalizing bs with
  | slnil => exact ⟨[], List.nil_sublist _, .nil⟩
  | cons a _ ih =>
    cases h with
    | cons _ htail =>
      obtain ⟨bs', hbs, hR⟩ := ih htail
      exact ⟨bs', hbs.cons _, hR⟩
  | cons_cons a _ ih =>
    cases h with
    | cons hhead htail =>
      obtain ⟨bs', hbs, hR⟩ := ih htail
      exact ⟨_ :: bs', hbs.cons_cons _, .cons hhead hR⟩

/-- Positions of the acceptances behind the deliveries and behind the items on their way. -/
def Sources (log : List (Effect A)) (items : List A) (sources waiting : List Nat) : Prop :=
  List.Forall₂ (fun p x => Carried log x.1 p x.2) sources (deliveries log) ∧
  List.Forall₂ (Carried log log.length) waiting items ∧
  (sources ++ waiting).Pairwise (· < ·)

theorem Sources.step {log : List (Effect A)} {items items' : List A} {sources waiting : List Nat}
    {effect : Effect A} (h : Sources log items sources waiting)
    (hmoves : Moves effect items items') :
    ∃ sources' waiting', Sources (log ++ [effect]) items' sources' waiting' := by
  obtain ⟨hsources, hwaiting, hordered⟩ := h
  have hold : List.Forall₂ (fun p x => Carried (log ++ [effect]) x.1 p x.2) sources
      (deliveries log) := hsources.imp fun _ _ hcarried => hcarried.snoc effect
  have hstays (hkeep : effect ≠ .clear) :
      List.Forall₂ (Carried (log ++ [effect]) (log ++ [effect]).length) waiting items :=
    hwaiting.imp fun _ _ hcarried => hcarried.stays hkeep
  unfold Sources
  rw [deliveries_snoc]
  cases effect with
  | accept item =>
    have hmoved : items' = items ++ [item] := hmoves
    subst hmoved
    refine ⟨sources, waiting ++ [log.length], by simpa [Effect.delivered] using hold,
      List.rel_append (hstays (by simp)) (.cons (carried_accept log item) .nil), ?_⟩
    rw [← List.append_assoc, List.pairwise_append]
    refine ⟨hordered, List.pairwise_singleton _ _, ?_⟩
    intro p hp n hn
    rw [List.mem_singleton.mp hn]
    rcases List.mem_append.mp hp with hp | hp
    · exact forall₂_lt hsources (fun _ _ hcarried => hcarried.lt_length) p hp
    · exact forall₂_lt hwaiting (fun _ _ hcarried => hcarried.lt_length) p hp
  | deliver out =>
    have hmoved : items = out ++ items' := hmoves
    subst hmoved
    -- the sources of the items delivered are the first of those waiting
    have hout := List.forall₂_take_append _ _ _ hwaiting
    have hrest := List.forall₂_drop_append _ _ _ (hstays (by simp))
    refine ⟨sources ++ waiting.take out.length, waiting.drop out.length,
      List.rel_append hold ?_, hrest, ?_⟩
    · rw [Effect.delivered, List.forall₂_map_right_iff]
      exact hout.imp fun _ _ hcarried => hcarried.snoc _
    · rwa [List.append_assoc, List.take_append_drop]
  | clear =>
    have hmoved : items' = [] := hmoves
    subst hmoved
    exact ⟨sources, [], by simpa [Effect.delivered] using hold, .nil,
      hordered.sublist (List.append_sublist_append_left sources |>.mpr (List.nil_sublist _))⟩
  | pass =>
    obtain ⟨waiting', hsub, hkept⟩ := forall₂_sublist (hstays (by simp)) hmoves
    exact ⟨sources, waiting', by simpa [Effect.delivered] using hold, hkept,
      hordered.sublist (List.append_sublist_append_left sources |>.mpr hsub)⟩

theorem Run.sources {log : List (Effect A)} {items : List A} (h : Run log items) :
    ∃ sources waiting, Sources log items sources waiting := by
  induction h with
  | nil => exact ⟨[], [], .nil, .nil, .nil⟩
  | snoc _ hmoves ih =>
    obtain ⟨_, _, hsources⟩ := ih
    exact hsources.step hmoves

end Library.Pipeline
