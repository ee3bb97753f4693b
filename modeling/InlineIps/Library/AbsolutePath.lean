import Mathlib.Data.List.Basic
import Mathlib.Data.List.Infix
import Mathlib.Tactic.Common

/-!
# Absolute paths

A normalised absolute path is the list of its names. Programs see its text, which is a slash for
the root and a slash before every name otherwise.

* `parent_text`: cutting the last name off the text.
* `join_text`: putting one more name behind it.
* `names_text`: the names are read off the text.
* `OnPath`: the root and the directories below it down to a path.
-/

namespace Library

/-- A name that a normalised path can have. -/
def IsName (name : List Char) : Prop :=
  name ≠ [] ∧ '/' ∉ name ∧ name ≠ ['.'] ∧ name ≠ ['.', '.']

structure AbsolutePath where
  names : List (List Char)
  valid : ∀ name ∈ names, IsName name

namespace AbsolutePath

/-- The text of the path with the given names. -/
def textOf : List (List Char) → List Char
  | [] => ['/']
  | names => names.flatMap fun name => '/' :: name

def text (path : AbsolutePath) : List Char := textOf path.names

/-- The part of a text before its last slash. -/
def parentOf (text : List Char) : List Char :=
  match text.reverse.dropWhile (· ≠ '/') with
  | [] => ['.']
  | [_] => ['/']
  | _ :: before => before.reverse

/-- The text with one more name. -/
def join (text name : List Char) : List Char :=
  if text = ['/'] then '/' :: name else text ++ '/' :: name

/-- The names in a text. Empty names and those for the directory itself are skipped. -/
def namesOf (text : List Char) : List (List Char) :=
  (text.splitOn '/').filter fun name => name ≠ [] ∧ name ≠ ['.']

/-- A directory is on the way from the root down to a path: its names begin the names of the
path. -/
def OnPath (directory path : AbsolutePath) : Prop := directory.names <+: path.names

def root : AbsolutePath := ⟨[], by simp⟩

@[simp] theorem text_root : root.text = ['/'] := rfl

section Text

variable {names : List (List Char)} {name : List Char}

theorem textOf_append_singleton (names : List (List Char)) (name : List Char) :
    textOf (names ++ [name]) = (names.flatMap fun n => '/' :: n) ++ '/' :: name := by
  cases names <;> simp [textOf]

theorem textOf_of_ne_nil (h : names ≠ []) :
    textOf names = names.flatMap fun name => '/' :: name := by
  cases names with
  | nil => exact absurd rfl h
  | cons name names => rfl

theorem textOf_eq_root_iff (hvalid : ∀ name ∈ names, IsName name) :
    textOf names = ['/'] ↔ names = [] := by
  refine ⟨fun h => ?_, fun h => by rw [h]; rfl⟩
  rcases List.eq_nil_or_concat names with hnil | ⟨earlier, name, rfl⟩
  · exact hnil
  · have hname := (hvalid name (by simp)).1
    rw [List.concat_eq_append, textOf_append_singleton] at h
    have hlength := congrArg List.length h
    have hpos := List.length_pos_of_ne_nil hname
    simp at hlength
    omega

/-- **The parent of a path has one name less.** -/
theorem parentOf_textOf (hname : IsName name) :
    parentOf (textOf (names ++ [name])) = textOf names := by
  have hdrop : (textOf (names ++ [name])).reverse.dropWhile (· ≠ '/') =
      '/' :: (names.flatMap fun n => '/' :: n).reverse := by
    rw [textOf_append_singleton, List.reverse_append, List.reverse_cons, List.append_assoc,
      List.dropWhile_append_of_pos]
    · rfl
    · intro c hc
      rw [List.mem_reverse] at hc
      exact decide_eq_true fun heq => hname.2.1 (heq ▸ hc)
  unfold parentOf
  rw [hdrop]
  rcases eq_or_ne names [] with rfl | hne
  · rfl
  · rw [textOf_of_ne_nil hne]
    split
    · rename_i heq
      cases heq
    · rename_i heq
      obtain ⟨first, rest, rfl⟩ := List.exists_cons_of_ne_nil hne
      simp at heq
    · rename_i heq
      rw [← (List.cons.inj heq).2, List.reverse_reverse]

/-- A parent below the root is another path. -/
theorem textOf_ne_parent (hvalid : ∀ n ∈ names ++ [name], IsName n) :
    textOf names ≠ textOf (names ++ [name]) := by
  intro h
  have hlength := congrArg List.length h
  rw [textOf_append_singleton] at hlength
  rcases eq_or_ne names [] with rfl | hne
  · exact (hvalid name (by simp)).1 (by simpa [textOf] using hlength)
  · rw [textOf_of_ne_nil hne] at hlength
    simp at hlength

theorem join_textOf (hvalid : ∀ n ∈ names, IsName n) :
    join (textOf names) name = textOf (names ++ [name]) := by
  unfold join
  rw [textOf_append_singleton]
  split
  · rename_i hroot
    rw [(textOf_eq_root_iff hvalid).mp hroot]
    rfl
  · rename_i hroot
    rw [textOf_of_ne_nil fun hnil => hroot ((textOf_eq_root_iff hvalid).mpr hnil)]

theorem textOf_eq_intercalate (hne : names ≠ []) :
    textOf names = List.intercalate ['/'] ([] :: names) := by
  rw [textOf_of_ne_nil hne]
  clear hne
  induction names with
  | nil => rfl
  | cons name names ih =>
    rw [List.flatMap_cons, ih]
    cases names <;> simp [List.intercalate]

/-- The names of a path are read off its text. -/
theorem namesOf_textOf (hvalid : ∀ n ∈ names, IsName n) : namesOf (textOf names) = names := by
  rcases eq_or_ne names [] with rfl | hne
  · decide
  · unfold namesOf
    rw [textOf_eq_intercalate hne, List.splitOn_intercalate '/' ?_ (by simp),
      List.filter_cons_of_neg (by simp), List.filter_eq_self]
    · intro name hmem
      have hname := hvalid name hmem
      exact decide_eq_true ⟨hname.1, hname.2.2.1⟩
    · intro name hmem
      rcases List.mem_cons.mp hmem with rfl | hmem
      · simp
      · exact (hvalid name hmem).2.1

/-- A piece between separators holds none. -/
theorem not_mem_of_mem_splitOn {A : Type} [BEq A] [LawfulBEq A] {sep : A} {xs piece : List A}
    (h : piece ∈ xs.splitOn sep) : sep ∉ piece := by
  induction xs generalizing piece with
  | nil =>
    rw [List.splitOn_nil, List.mem_singleton] at h
    rw [h]
    exact List.not_mem_nil
  | cons x xs ih =>
    rw [List.splitOn_cons_eq_if_modifyHead] at h
    split at h
    · rcases List.mem_cons.mp h with rfl | hrest
      · exact List.not_mem_nil
      · exact ih hrest
    · rename_i hne
      cases hsplit : xs.splitOn sep with
      | nil => exact absurd hsplit (List.splitOn_ne_nil sep xs)
      | cons first rest =>
        rw [hsplit, List.modifyHead_cons] at h
        rcases List.mem_cons.mp h with rfl | hrest
        · have hfirst := ih (hsplit ▸ List.mem_cons_self)
          rw [List.mem_cons, not_or]
          exact ⟨fun heq => hne (beq_iff_eq.mpr heq.symm), hfirst⟩
        · exact ih (hsplit ▸ List.mem_cons_of_mem _ hrest)

/-- The names in any text are names, but for those of the parent directory. -/
theorem namesOf_valid (path : List Char) :
    ∀ name ∈ namesOf path, name ≠ [] ∧ '/' ∉ name ∧ name ≠ ['.'] := by
  intro name hname
  obtain ⟨hsplit, hkept⟩ := List.mem_filter.mp hname
  obtain ⟨hne, hdot⟩ := of_decide_eq_true hkept
  exact ⟨hne, not_mem_of_mem_splitOn hsplit, hdot⟩

end Text

end AbsolutePath

end Library
