import Mathlib.Data.List.Basic
import Mathlib.Tactic.Common

/-!
# Lines of a stream

A stream of symbols is cut into lines at every separator. What follows the last separator is the
rest, which the next part of the stream may complete.

* `lines_append`: the lines of a stream in two parts. The rest of the first part goes before the
  second part.
-/

namespace Library.LineFraming

variable {A : Type}

/-- A stream without a separator, or one that is cut at its last separator. -/
theorem notMem_or_last (sep : A) (stream : List A) :
    sep ∉ stream ∨ ∃ front back, stream = front ++ sep :: back ∧ sep ∉ back := by
  induction stream with
  | nil => exact .inl List.not_mem_nil
  | cons x stream ih =>
    rcases ih with hno | ⟨front, back, rfl, hback⟩
    · by_cases hx : x = sep
      · exact .inr ⟨[], stream, by rw [hx, List.nil_append], hno⟩
      · exact .inl fun hmem => (List.mem_cons.mp hmem).elim (fun h => hx h.symm) hno
    · exact .inr ⟨x :: front, back, rfl, hback⟩

variable [BEq A] [LawfulBEq A] (sep : A)

/-- The lines that are complete. -/
def lines (stream : List A) : List (List A) := (stream.splitOn sep).dropLast

/-- What follows the last separator. -/
def rest (stream : List A) : List A := (stream.splitOn sep).getLast (List.splitOn_ne_nil _ _)

variable {sep : A} {a b : List A}

theorem lines_of_notMem (h : sep ∉ a) : lines sep a = [] := by
  simp [lines, List.splitOn_eq_singleton h]

theorem rest_of_notMem (h : sep ∉ a) : rest sep a = a := by
  simp [rest, List.splitOn_eq_singleton h]

theorem lines_append_sep (a b : List A) :
    lines sep (a ++ sep :: b) = a.splitOn sep ++ lines sep b := by
  unfold lines
  rw [List.splitOn_append_cons_self, List.dropLast_append_of_ne_nil (List.splitOn_ne_nil _ _)]

theorem rest_append_sep (a b : List A) : rest sep (a ++ sep :: b) = rest sep b := by
  unfold rest
  simp only [List.splitOn_append_cons_self]
  exact List.getLast_append_of_ne_nil _ (List.splitOn_ne_nil _ _)

/-- A line in front. -/
theorem lines_cons (h : sep ∉ a) : lines sep (a ++ sep :: b) = a :: lines sep b := by
  rw [lines_append_sep, List.splitOn_eq_singleton h, List.singleton_append]

/-- **The lines of a stream in two parts.** -/
theorem lines_append (a b : List A) :
    lines sep (a ++ b) = lines sep a ++ lines sep (rest sep a ++ b) := by
  rcases notMem_or_last sep a with hno | ⟨front, back, rfl, hback⟩
  · rw [lines_of_notMem hno, rest_of_notMem hno, List.nil_append]
  · rw [List.append_assoc, List.cons_append, lines_append_sep, lines_append_sep, rest_append_sep,
      lines_of_notMem hback, rest_of_notMem hback, List.append_nil]

theorem rest_append (a b : List A) : rest sep (a ++ b) = rest sep (rest sep a ++ b) := by
  rcases notMem_or_last sep a with hno | ⟨front, back, rfl, hback⟩
  · rw [rest_of_notMem hno]
  · rw [List.append_assoc, List.cons_append, rest_append_sep, rest_append_sep,
      rest_of_notMem hback]

end Library.LineFraming
