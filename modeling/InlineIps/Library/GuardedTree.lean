import Mathlib.Data.List.Infix
import Mathlib.Logic.Relation

/-!
# Trees with guarded nodes

The nodes of a tree stand at paths. An outsider can change a node that is not guarded and, in any
way, what is below it: a directory gives its owner power over everything in it.

* `step_keeps`: a path whose nodes are all guarded stays as it is.
* `reaches_keeps`: also through any number of changes.
-/

namespace Library.GuardedTree

variable {K N : Type}

abbrev Tree (K N : Type) := List K → Option N

/-- A change at or below a node that is not guarded. -/
def Step (guarded : N → Prop) (t t' : Tree K N) : Prop :=
  ∃ top node, t top = some node ∧ ¬ guarded node ∧ ∀ path, ¬ top <+: path → t' path = t path

/-- Every node from the root down to the path is guarded. -/
def GuardedUpTo (guarded : N → Prop) (t : Tree K N) (path : List K) : Prop :=
  ∀ above, above <+: path → ∃ node, t above = some node ∧ guarded node

variable {guarded : N → Prop} {t t' : Tree K N} {path : List K}

theorem GuardedUpTo.above (h : GuardedUpTo guarded t path) {above : List K}
    (habove : above <+: path) : GuardedUpTo guarded t above :=
  fun first hfirst => h first (hfirst.trans habove)

theorem step_keeps (h : GuardedUpTo guarded t path) (hstep : Step guarded t t') :
    ∀ above, above <+: path → t' above = t above := by
  obtain ⟨top, node, htop, hopen, hsame⟩ := hstep
  intro above habove
  refine hsame above fun hbelow => ?_
  obtain ⟨node', hnode', hguarded⟩ := h top (hbelow.trans habove)
  rw [htop] at hnode'
  cases hnode'
  exact hopen hguarded

/-- **What is guarded up to its path stays**, whatever outsiders do. -/
theorem reaches_keeps (h : GuardedUpTo guarded t path)
    (hreaches : Relation.ReflTransGen (Step guarded) t t') :
    GuardedUpTo guarded t' path ∧ t' path = t path := by
  induction hreaches with
  | refl => exact ⟨h, rfl⟩
  | tail _ hstep ih =>
    obtain ⟨hmiddle, hpath⟩ := ih
    have hkeeps := step_keeps hmiddle hstep
    refine ⟨fun above habove => ?_, (hkeeps path (List.prefix_refl path)).trans hpath⟩
    rw [hkeeps above habove]
    exact hmiddle above habove

end Library.GuardedTree
