import Mathlib.Algebra.GroupWithZero.Nat
import Mathlib.Algebra.Order.Group.Defs
import Mathlib.Data.List.Chain
import Mathlib.Tactic.Common

/-!
# Actions at intervals

An action is offered at every reading of a clock, and taken when the last one lies at least an
interval back. A `Summary` counts the offers, and every action reports how many there were.

* `taken_spaced`: two actions are at least the interval apart.
* `taken_recent`: behind every reading, the last action lies less than the interval back.
* `reports_sum`: the reports and the offers not yet reported are all offers.
-/

namespace Library.Throttle

variable {T : Type}

section Actions

variable [Sub T] [LE T] [DecidableLE T]

/-- The last action lies at least the interval back. -/
def due (interval last now : T) : Bool := interval ≤ now - last

/-- The time of the last action behind a reading of the clock. -/
def next (interval last now : T) : T := if due interval last now then now else last

/-- The times of the actions, for readings of the clock in their order. -/
def taken (interval : T) : T → List T → List T
  | _, [] => []
  | last, now :: times =>
    if due interval last now then now :: taken interval now times else taken interval last times

variable {interval last now : T} {times : List T}

@[simp] theorem taken_nil : taken interval last [] = [] := rfl

theorem taken_cons_of_due (h : due interval last now = true) :
    taken interval last (now :: times) = now :: taken interval now times := if_pos h

theorem taken_cons_of_not_due (h : due interval last now = false) :
    taken interval last (now :: times) = taken interval last times := by
  simp [taken, h]

/-- **Two actions are at least the interval apart**, and so are the start and the first one. -/
theorem taken_spaced :
    (last :: taken interval last times).IsChain fun earlier later => interval ≤ later - earlier := by
  induction times generalizing last with
  | nil => exact List.IsChain.singleton last
  | cons now times ih =>
    cases hdue : due interval last now with
    | true =>
      rw [taken_cons_of_due hdue]
      exact List.IsChain.cons_cons (of_decide_eq_true hdue) ih
    | false =>
      rw [taken_cons_of_not_due hdue]
      exact ih

/-- The last action is the last one that was taken. -/
theorem foldl_next : times.foldl (next interval) last = (taken interval last times).getLastD last := by
  induction times generalizing last with
  | nil => rfl
  | cons now times ih =>
    rw [List.foldl_cons, ih, next]
    cases hdue : due interval last now with
    | true => rw [taken_cons_of_due hdue, List.getLastD_cons, if_pos rfl]
    | false => rw [taken_cons_of_not_due hdue, if_neg Bool.false_ne_true]

end Actions

section Recent

variable [AddCommGroup T] [LinearOrder T] {interval last now : T}

theorem next_recent (hinterval : 0 < interval) : now - next interval last now < interval := by
  unfold next
  split
  · rw [sub_self]
    exact hinterval
  · rename_i hdue
    exact lt_of_not_ge fun hle => hdue (decide_eq_true hle)

/-- **Behind every reading the last action lies less than the interval back.** -/
theorem taken_recent (hinterval : 0 < interval) (before : List T) (now : T) :
    now - (taken interval last (before ++ [now])).getLastD last < interval := by
  rw [← foldl_next, List.foldl_append]
  exact next_recent hinterval

end Recent

/-! ## Reports -/

/-- When the last report was, and how many offers there were since. -/
structure Summary (T : Type) where
  last : T
  since : Nat := 0
  deriving DecidableEq

namespace Summary

variable [Sub T] [LE T] [DecidableLE T]

/-- One more offer, and the report when one is due. -/
def record (interval : T) (s : Summary T) (now : T) : Summary T × Option Nat :=
  if due interval s.last now then (⟨now, 0⟩, some (s.since + 1))
  else (⟨s.last, s.since + 1⟩, none)

/-- The summary behind the offers. -/
def after (interval : T) (s : Summary T) (times : List T) : Summary T :=
  times.foldl (fun s now => (s.record interval now).1) s

/-- The times of the reports with their counts. -/
def reports (interval : T) : Summary T → List T → List (T × Nat)
  | _, [] => []
  | s, now :: times =>
    ((s.record interval now).2.map (now, ·)).toList ++
      reports interval (s.record interval now).1 times

variable {interval : T} {s : Summary T} {times times' : List T}

theorem after_append : s.after interval (times ++ times') =
    (s.after interval times).after interval times' := List.foldl_append

theorem reports_append : s.reports interval (times ++ times') =
    s.reports interval times ++ (s.after interval times).reports interval times' := by
  induction times generalizing s with
  | nil => rfl
  | cons now times ih =>
    rw [List.cons_append, reports, ih, reports, List.append_assoc]
    rfl

/-- The reports are the actions at their interval. -/
theorem reports_times :
    (s.reports interval times).map Prod.fst = taken interval s.last times := by
  induction times generalizing s with
  | nil => rfl
  | cons now times ih =>
    rw [reports, List.map_append, ih]
    cases hdue : due interval s.last now with
    | true =>
      rw [taken_cons_of_due hdue]
      simp [record, hdue]
    | false =>
      rw [taken_cons_of_not_due hdue]
      simp [record, hdue]

/-- **The reports and the offers not yet reported are all offers.** -/
theorem reports_sum : ((s.reports interval times).map Prod.snd).sum +
    (s.after interval times).since = s.since + times.length := by
  induction times generalizing s with
  | nil => simp [reports, after]
  | cons now times ih =>
    have hrest := @ih (s.record interval now).1
    rw [reports, List.map_append, List.sum_append_nat, List.length_cons]
    change _ + ((s.record interval now).1.after interval times).since = _
    cases hdue : due interval s.last now with
    | true =>
      simp only [record, hdue, if_true] at hrest ⊢
      simp only [Option.map_some, Option.toList_some, List.map_cons, List.map_nil,
        List.sum_cons, List.sum_nil]
      omega
    | false =>
      simp only [record, hdue, Bool.false_eq_true, if_false] at hrest ⊢
      simp only [Option.map_none, Option.toList_none, List.map_nil, List.sum_nil]
      omega

end Summary

end Library.Throttle
