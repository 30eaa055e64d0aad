/-
  Globs: patterns in which one symbol stands for any run and one for any single symbol.
-/
import Mathlib.Data.List.Basic

namespace DataNexus.Glob

variable {α : Type*}

/-- The values of a pattern: `star` is replaced by some run, `any` by one symbol. -/
def Matches (star any : α) : List α → List α → Prop
  | [], v => v = []
  | c :: p, v =>
    (c = star ∧ ∃ k, Matches star any p (v.drop k)) ∨
      c ≠ star ∧ ∃ a rest, v = a :: rest ∧ (c = any ∨ c = a) ∧ Matches star any p rest

variable {star any : α} {p q v : List α} {c a : α}

theorem matches_iff : Matches star any (c :: p) v ↔ (c = star ∧ ∃ k, Matches star any p (v.drop k)) ∨
      c ≠ star ∧ ∃ a rest, v = a :: rest ∧ (c = any ∨ c = a) ∧ Matches star any p rest :=
  Iff.rfl

theorem matches_star : Matches star any (star :: p) v ↔ ∃ k, Matches star any p (v.drop k) := by
  rw [matches_iff]
  simp

theorem matches_cons (hc : c ≠ star) : Matches star any (c :: p) (a :: v) ↔ (c = any ∨ c = a) ∧ Matches star any p v := by
  rw [matches_iff]
  simp [hc]

theorem not_matches_nil (hc : c ≠ star) : ¬ Matches star any (c :: p) [] := by
  rw [matches_iff]
  simp [hc]

/-- Behind symbols that are no stars, the rest of the pattern reads the rest of the value. -/
theorem matches_drop (h : Matches star any (p ++ q) v) (hp : star ∉ p) : Matches star any q (v.drop p.length) := by
  induction p generalizing v with
  | nil => exact h
  | cons c p ih =>
    rw [List.mem_cons, not_or] at hp
    cases v with
    | nil => exact absurd h (not_matches_nil (Ne.symm hp.1))
    | cons a v => exact ih ((matches_cons (Ne.symm hp.1)).mp h).2 hp.2

theorem matches_star_of_drop {k : Nat} (h : Matches star any (star :: p) (v.drop k)) : Matches star any (star :: p) v := by
  obtain ⟨j, h⟩ := matches_star.mp h
  rw [List.drop_drop] at h
  exact matches_star.mpr ⟨_, h⟩

theorem matches_nil : Matches star any p [] ↔ ∀ c ∈ p, c = star := by
  induction p with
  | nil => exact ⟨fun _ c h => absurd h List.not_mem_nil, fun _ => rfl⟩
  | cons c p ih =>
    rw [List.forall_mem_cons]
    by_cases hc : c = star
    · subst hc
      simp [matches_star, ih]
    · exact ⟨fun h => absurd h (not_matches_nil hc), fun h => absurd h.1 hc⟩

theorem matches_append (w : List α) (h : Matches star any p v) : Matches star any (w ++ p) (w ++ v) := by
  induction w with
  | nil => exact h
  | cons c w ih =>
    by_cases hc : c = star
    · subst hc
      exact matches_star.mpr ⟨1, ih⟩
    · exact (matches_cons hc).mpr ⟨.inr rfl, ih⟩

theorem matches_replicate (hne : any ≠ star) (v : List α) : Matches star any (List.replicate v.length any) v := by
  induction v with
  | nil => rfl
  | cons a v ih => exact (matches_cons hne).mpr ⟨.inl rfl, ih⟩

end DataNexus.Glob
