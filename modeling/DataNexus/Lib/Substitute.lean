/-
  Textual replacement (`str::replace`) and marks.

  A text with marks is a list of pieces, some of them marks.  `expand x` writes `x` at every mark.  If a pattern occurs
  at the marks only (`OnlyAtMarks`), then replacing it, from left to right and without overlaps, writes something else at
  the marks and leaves the rest alone (`replaceAll_expand`).
-/
import Mathlib.Data.List.Basic

namespace DataNexus.Substitute

variable {α : Type*} [DecidableEq α]

/-- Replace from left to right; the next `skip` symbols belong to the last match. -/
def replaceFrom (pat rep : List α) : (skip : Nat) → List α → List α
  | _, [] => []
  | skip + 1, _ :: s => replaceFrom pat rep skip s
  | 0, a :: s =>
    if pat.isPrefixOf (a :: s) then rep ++ replaceFrom pat rep (pat.length - 1) s else a :: replaceFrom pat rep 0 s

/-- `str::replace`, for a pattern that is not empty. -/
def replaceAll (pat rep s : List α) : List α := replaceFrom pat rep 0 s

/-- The text with `x` at the marks; `none` is a mark. -/
def expand (x : List α) (pieces : List (Option (List α))) : List α := pieces.flatMap fun piece => piece.getD x

/-- Outside the marks no occurrence of the pattern begins. -/
def OnlyAtMarks (pat : List α) : List (Option (List α)) → Prop
  | [] => True
  | none :: pieces => OnlyAtMarks pat pieces
  | some t :: pieces => (∀ i < t.length, ¬ pat <+: t.drop i ++ expand pat pieces) ∧ OnlyAtMarks pat pieces

instance decidableOnlyAtMarks (pat : List α) : (pieces : List (Option (List α))) → Decidable (OnlyAtMarks pat pieces)
  | [] => .isTrue trivial
  | none :: pieces => decidableOnlyAtMarks pat pieces
  | some _ :: pieces =>
    have := decidableOnlyAtMarks pat pieces
    inferInstanceAs (Decidable (_ ∧ _))

omit [DecidableEq α] in
@[simp] theorem expand_nil (x : List α) : expand x [] = [] := rfl

omit [DecidableEq α] in
@[simp] theorem expand_mark (x : List α) (pieces : List (Option (List α))) :
    expand x (none :: pieces) = x ++ expand x pieces := rfl

omit [DecidableEq α] in
@[simp] theorem expand_piece (x t : List α) (pieces : List (Option (List α))) :
    expand x (some t :: pieces) = t ++ expand x pieces := rfl

theorem replaceFrom_skip (pat rep back s : List α) : replaceFrom pat rep back.length (back ++ s) = replaceFrom pat rep 0 s := by
  induction back with
  | nil => rfl
  | cons a back ih => exact ih

variable {pat : List α}

theorem replaceFrom_match (hne : pat ≠ []) (rep s : List α) :
    replaceFrom pat rep 0 (pat ++ s) = rep ++ replaceFrom pat rep 0 s := by
  obtain ⟨a, back, rfl⟩ := List.exists_cons_of_ne_nil hne
  have hprefix : (a :: back).isPrefixOf (a :: (back ++ s)) = true :=
    List.isPrefixOf_iff_prefix.mpr (List.prefix_append (a :: back) s)
  show replaceFrom (a :: back) rep 0 (a :: (back ++ s)) = _
  rw [replaceFrom, if_pos hprefix]
  show rep ++ replaceFrom (a :: back) rep back.length (back ++ s) = _
  rw [replaceFrom_skip]

theorem replaceFrom_copy {t s : List α} (rep : List α) (h : ∀ i < t.length, ¬ pat <+: t.drop i ++ s) :
    replaceFrom pat rep 0 (t ++ s) = t ++ replaceFrom pat rep 0 s := by
  induction t with
  | nil => rfl
  | cons a t ih =>
    have hno : ¬ pat.isPrefixOf (a :: (t ++ s)) = true := fun hprefix =>
      h 0 (Nat.succ_pos _) (List.isPrefixOf_iff_prefix.mp hprefix)
    show replaceFrom pat rep 0 (a :: (t ++ s)) = _
    rw [replaceFrom, if_neg hno, ih fun i hi => h (i + 1) (Nat.succ_lt_succ hi)]
    rfl

/-- **Replacement at the marks.**  Induction on the pieces. -/
theorem replaceAll_expand (hne : pat ≠ []) (rep : List α) {pieces : List (Option (List α))}
    (h : OnlyAtMarks pat pieces) : replaceAll pat rep (expand pat pieces) = expand rep pieces := by
  unfold replaceAll
  induction pieces with
  | nil => rfl
  | cons piece pieces ih =>
    cases piece with
    | none =>
      rw [expand_mark, expand_mark, replaceFrom_match hne, ih h]
    | some t =>
      rw [expand_piece, expand_piece, replaceFrom_copy rep h.1, ih h.2]

end DataNexus.Substitute
