import Mathlib.Data.List.Basic
import Mathlib.Tactic.Common

/-!
# Tumbling windows

Entries arrive with times. The first entry opens a window, and an entry that arrives at
least `length` after the opening of the current window opens a new one.

* `current`: the current window of a list of entries.
* `current_snoc`: one more entry.
-/

namespace Library

/-- A window: when it was opened, and what has arrived in it, in order. -/
structure TumblingWindow (T A : Type) where
  start : T
  items : List A

namespace TumblingWindow

variable {T A : Type} [LE T] [Add T] [DecidableLE T]

/-- The window after an entry has arrived at time `t`. -/
def push (length : T) (w : Option (TumblingWindow T A)) (t : T) (x : A) : TumblingWindow T A :=
  match w with
  | none => ⟨t, [x]⟩
  | some w => if w.start + length ≤ t then ⟨t, [x]⟩ else ⟨w.start, w.items ++ [x]⟩

/-- The current window after a list of entries. -/
def current (length : T) (entries : List (T × A)) : Option (TumblingWindow T A) :=
  entries.foldl (fun w entry => some (push length w entry.1 entry.2)) none

@[simp] theorem current_nil (length : T) : current (A := A) length [] = none := rfl

theorem current_snoc (length : T) (entries : List (T × A)) (t : T) (x : A) :
    current length (entries ++ [(t, x)]) = some (push length (current length entries) t x) := by
  simp [current]

end TumblingWindow

end Library
