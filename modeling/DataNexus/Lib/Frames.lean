/-
  Lists whose end is marked: a response is a list of frames, and a reader that stops at a marked frame has
  read the whole list exactly when only the last frame can carry the mark.

  * `onlyLast p l` — no element of `l` but the last has `p`; computable, so that a concrete response can be
    checked;
  * `rest_nil_of_onlyLast` — behind a marked element there is nothing;
  * `onlyLast_append` — unmarked elements in front do not matter.
-/
import Mathlib.Data.List.Basic

namespace DataNexus.Frames

variable {α : Type*} {p : α → Bool}

/-- Only the last element can have `p`. -/
def onlyLast (p : α → Bool) : List α → Bool
  | [] => true
  | x :: xs => (!p x || xs.isEmpty) && onlyLast p xs

/-- No element has `p`. -/
def free (p : α → Bool) (l : List α) : Bool := l.all fun x => !p x

variable {l as bs : List α}

theorem free_iff : free p l = true ↔ ∀ x ∈ l, p x = false := by
  unfold free
  rw [List.all_eq_true]
  refine forall₂_congr ?_
  intro x _
  cases p x <;> decide

theorem free_append (ha : free p as = true) (hb : free p bs = true) : free p (as ++ bs) = true := by
  unfold free at *
  rw [List.all_append, ha, hb]
  rfl

/-- **Behind a marked element there is nothing.** -/
theorem rest_nil_of_onlyLast {before : List α} {x : α} {rest : List α}
    (h : onlyLast p (before ++ x :: rest) = true) (hx : p x = true) : rest = [] := by
  induction before with
  | nil =>
    rw [List.nil_append, onlyLast, hx] at h
    cases rest with
    | nil => rfl
    | cons y ys => cases h
  | cons b before ih =>
    rw [List.cons_append, onlyLast, Bool.and_eq_true] at h
    exact ih h.2

theorem onlyLast_append (ha : free p as = true) (hb : onlyLast p bs = true) : onlyLast p (as ++ bs) = true := by
  induction as with
  | nil => exact hb
  | cons a as ih =>
    obtain ⟨hfirst, hrest⟩ := Bool.and_eq_true_iff.mp ha
    have hunmarked : (!p a) = true := hfirst
    rw [List.cons_append, onlyLast, ih hrest, hunmarked]
    rfl

theorem onlyLast_of_agree {q : α → Bool} (hagree : ∀ x ∈ l, p x = q x) (h : onlyLast q l = true) :
    onlyLast p l = true := by
  induction l with
  | nil => rfl
  | cons x xs ih =>
    obtain ⟨hfirst, hrest⟩ := Bool.and_eq_true_iff.mp h
    have hlater := ih (fun y hy => hagree y (List.mem_cons_of_mem x hy)) hrest
    rw [onlyLast, hagree x List.mem_cons_self, hfirst, hlater]
    rfl

end DataNexus.Frames
