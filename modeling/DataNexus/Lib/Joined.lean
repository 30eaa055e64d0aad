/-
  Lists of words written one after another with a separator between them.

  `joined sep words` is what a program writes that pushes each word with the separator behind it and cuts the last
  separator off.  If no word begins another one, what was written can be read back, also in front of a rest that
  does not begin like the separator (`joined_inj`).
-/
import Mathlib.Data.List.Basic
import Mathlib.Data.List.Infix

namespace DataNexus.Joined

variable {α : Type*}

def joined (sep : List α) : List (List α) → List α
  | [] => []
  | word :: words => word ++ words.flatMap (sep ++ ·)

def closed (sep : List α) (words : List (List α)) : List α := words.flatMap (· ++ sep)

variable {words : List (List α)} {sep : List α} {c : α}

theorem closed_eq (sep : List α) (h : words ≠ []) : closed sep words = joined sep words ++ sep := by
  cases words with
  | nil => exact absurd rfl h
  | cons word words =>
    have hshift : ∀ ws : List (List α), sep ++ closed sep ws = ws.flatMap (sep ++ ·) ++ sep := by
      intro ws
      induction ws with
      | nil => simp [closed]
      | cons w ws ih =>
        rw [closed, List.flatMap_cons, List.flatMap_cons, ← closed, List.append_assoc, ih]
        simp
    rw [joined, List.append_assoc, ← hshift, closed, List.flatMap_cons, ← closed, List.append_assoc]

theorem getLast?_joined (hne : words ≠ []) (h : ∀ word ∈ words, word.getLast? = some c) :
    (joined sep words).getLast? = some c := by
  cases words with
  | nil => exact absurd rfl hne
  | cons word words =>
    rw [List.forall_mem_cons] at h
    have hrest : ∀ ws : List (List α), (∀ w ∈ ws, w.getLast? = some c) → ws ≠ [] →
        (ws.flatMap (sep ++ ·)).getLast? = some c := by
      intro ws hws hne
      induction ws with
      | nil => exact absurd rfl hne
      | cons w ws ih =>
        rw [List.forall_mem_cons] at hws
        by_cases hnil : ws = []
        · subst hnil
          simp [hws.1]
        · rw [List.flatMap_cons, List.getLast?_append, ih hws.2 hnil]
          rfl
    by_cases hnil : words = []
    · subst hnil
      simpa [joined] using h.1
    · rw [joined, List.getLast?_append, hrest words h.2 hnil]
      rfl

theorem infix_joined {word : List α} (h : word ∈ words) : word <:+: joined sep words := by
  cases words with
  | nil => cases h
  | cons first words =>
    rcases List.mem_cons.mp h with rfl | h
    · exact (List.prefix_append _ _).isInfix
    · have hflat : sep ++ word <:+: words.flatMap (sep ++ ·) :=
        List.infix_of_mem_flatten (List.mem_map_of_mem h)
      exact ((List.suffix_append sep word).isInfix.trans hflat).trans (List.suffix_append _ _).isInfix

theorem append_inj_of_free {a b s t : List α} (hab : a <+: b → a = b) (hba : b <+: a → b = a)
    (h : a ++ s = b ++ t) : a = b ∧ s = t := by
  have heq : a = b := by
    rcases List.prefix_or_prefix_of_prefix ⟨s, rfl⟩ (h ▸ ⟨t, rfl⟩ : b <+: a ++ s) with hp | hp
    · exact hab hp
    · exact (hba hp).symm
  subst heq
  exact ⟨rfl, List.append_cancel_left h⟩

/-- **Words are read back.**  If no word begins another one, and the rest does not begin like the separator, the
    same text has the same words and nothing behind them. -/
theorem joined_inj (Word : List α → Prop) (hfree : ∀ a b, Word a → Word b → a <+: b → a = b) {rest : List α}
    (hrest : rest.head? ≠ some c) {as bs : List (List α)} (has : ∀ a ∈ as, Word a) (hbs : ∀ b ∈ bs, Word b)
    (hane : as ≠ []) (hbne : bs ≠ []) (h : joined (c :: sep) as = joined (c :: sep) bs ++ rest) :
    as = bs ∧ rest = [] := by
  induction as generalizing bs with
  | nil => exact absurd rfl hane
  | cons a as ih =>
    cases bs with
    | nil => exact absurd rfl hbne
    | cons b bs =>
      rw [List.forall_mem_cons] at has hbs
      rw [joined, joined, List.append_assoc] at h
      obtain ⟨rfl, htail⟩ := append_inj_of_free (hfree _ _ has.1 hbs.1) (hfree _ _ hbs.1 has.1) h
      cases as with
      | nil =>
        cases bs with
        | nil => exact ⟨rfl, (List.append_eq_nil_iff.mp htail.symm).2⟩
        | cons b' bs => simp at htail
      | cons a' as =>
        cases bs with
        | nil =>
          rw [← show _ = rest from htail] at hrest
          exact absurd rfl hrest
        | cons b' bs =>
          have hnext : joined (c :: sep) (a' :: as) = joined (c :: sep) (b' :: bs) ++ rest := by
            simpa [joined] using htail
          obtain ⟨heq, hnil⟩ := ih has.2 hbs.2 (by simp) (by simp) hnext
          exact ⟨by rw [heq], hnil⟩

end DataNexus.Joined
