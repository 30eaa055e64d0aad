/-
  Lists cut into blocks.

  `blocks n xs` cuts a list into full blocks of `n` and one short block behind them, which may be empty; so the short
  block marks the end.  `assemble n acc bs` puts blocks together again: it keeps what is unfinished until a short block
  comes.

  * `assemble_flatMap` — lists cut into blocks, one behind the other, are put together as they were;
  * `eq_flatMap_of_assemble` — blocks that leave nothing unfinished are the blocks of what was put together.
-/
import Mathlib.Data.List.Basic

namespace DataNexus.Blocks

variable {α : Type*} {n : Nat}

/-- Full blocks of `n`, and a short one. -/
def blocks (n : Nat) (xs : List α) : List (List α) :=
  if h : 0 < n ∧ n ≤ xs.length then xs.take n :: blocks n (xs.drop n) else [xs]
termination_by xs.length
decreasing_by
  rw [List.length_drop]
  omega

/-- What the blocks make up behind `acc`, and what is left unfinished. -/
def assemble (n : Nat) (acc : List α) : List (List α) → List (List α) × List α
  | [] => ([], acc)
  | b :: bs =>
    if b.length < n then ((acc ++ b) :: (assemble n [] bs).1, (assemble n [] bs).2) else assemble n (acc ++ b) bs

variable {xs b : List α} {bs xss : List (List α)}

theorem blocks_unfold (n : Nat) (xs : List α) :
    blocks n xs = if 0 < n ∧ n ≤ xs.length then xs.take n :: blocks n (xs.drop n) else [xs] := by
  rw [blocks, dite_eq_ite]

theorem assemble_cons (acc : List α) : assemble n acc (b :: bs) =
    if b.length < n then ((acc ++ b) :: (assemble n [] bs).1, (assemble n [] bs).2) else assemble n (acc ++ b) bs :=
  rfl

theorem blocks_short (h : xs.length < n) : blocks n xs = [xs] := by
  rw [blocks_unfold, if_neg (by omega)]

theorem blocks_full (hn : 0 < n) (hb : b.length = n) (xs : List α) : blocks n (b ++ xs) = b :: blocks n xs := by
  rw [blocks_unfold, if_pos ⟨hn, by rw [List.length_append]; omega⟩, List.take_left' hb, List.drop_left' hb]

theorem blocks_eq (hn : 0 < n) (xs : List α) :
    blocks n xs = (List.range (xs.length / n)).map (fun i => (xs.drop (i * n)).take n) ++
      [xs.drop (xs.length / n * n)] := by
  induction hk : xs.length / n generalizing xs with
  | zero =>
    have hlt : xs.length < n := (Nat.div_eq_zero_iff_lt hn).mp hk
    rw [blocks_short hlt]
    simp
  | succ k ih =>
    have hle : n ≤ xs.length := by
      by_contra hlt
      rw [Nat.div_eq_of_lt (by omega)] at hk
      cases hk
    have hrest : (xs.drop n).length / n = k := by
      rw [List.length_drop, Nat.div_eq_sub_div hn hle] at *
      omega
    rw [blocks_unfold, if_pos ⟨hn, hle⟩, ih (xs.drop n) hrest, List.range_succ_eq_map, List.map_cons, List.map_map,
      List.cons_append, Nat.zero_mul, List.drop_zero]
    have hshift : ∀ i, (xs.drop n).drop (i * n) = xs.drop ((i + 1) * n) := by
      intro i
      rw [List.drop_drop, Nat.succ_mul, Nat.add_comm]
    simp only [hshift, Function.comp_def, Nat.succ_eq_add_one]

theorem length_le_of_mem_blocks (hn : 0 < n) (h : b ∈ blocks n xs) : b.length ≤ n := by
  rw [blocks_eq hn] at h
  rcases List.mem_append.mp h with h | h
  · obtain ⟨i, -, rfl⟩ := List.mem_map.mp h
    exact List.length_take_le n _
  · rw [List.mem_singleton.mp h, List.length_drop]
    have := Nat.mod_add_div xs.length n
    have hlt := Nat.mod_lt xs.length hn
    rw [Nat.mul_comm n] at this
    omega

theorem assemble_append (acc : List α) (as bs : List (List α)) :
    assemble n acc (as ++ bs) = ((assemble n acc as).1 ++ (assemble n (assemble n acc as).2 bs).1,
      (assemble n (assemble n acc as).2 bs).2) := by
  induction as generalizing acc with
  | nil => rfl
  | cons a as ih =>
    rw [List.cons_append, assemble_cons, assemble_cons]
    split_ifs
    · rw [ih]
      rfl
    · rw [ih]

theorem assemble_blocks (hn : 0 < n) (acc xs : List α) : assemble n acc (blocks n xs) = ([acc ++ xs], []) := by
  induction hlen : xs.length using Nat.strongRecOn generalizing acc xs with
  | _ len ih =>
    subst hlen
    by_cases hle : n ≤ xs.length
    · have hfirst : (xs.take n).length = n := List.length_take_of_le hle
      rw [blocks_unfold, if_pos ⟨hn, hle⟩, assemble_cons, if_neg (by omega),
        ih (xs.drop n).length (by rw [List.length_drop]; omega) _ _ rfl, List.append_assoc, List.take_append_drop]
    · rw [blocks_short (by omega), assemble_cons, if_pos (by omega)]
      rfl

/-- **Lists cut into blocks are put together as they were.** -/
theorem assemble_flatMap (hn : 0 < n) (xss : List (List α)) : assemble n [] (xss.flatMap (blocks n)) = (xss, []) := by
  induction xss with
  | nil => rfl
  | cons xs xss ih => rw [List.flatMap_cons, assemble_append, assemble_blocks hn, ih]; rfl

/-- Blocks behind `acc` that leave nothing unfinished: there are none, or the first ones finish what was begun. -/
theorem cases_of_assemble (hn : 0 < n) (hle : ∀ b ∈ bs, b.length ≤ n) {acc : List α}
    (h : assemble n acc bs = (xss, [])) : (bs = [] ∧ xss = [] ∧ acc = []) ∨
      ∃ x tail, xss = (acc ++ x) :: tail ∧ bs = blocks n x ++ tail.flatMap (blocks n) := by
  induction bs generalizing acc xss with
  | nil =>
    obtain ⟨rfl, rfl⟩ := Prod.mk.inj h
    exact .inl ⟨rfl, rfl, rfl⟩
  | cons b bs ih =>
    have hrest : ∀ b' ∈ bs, b'.length ≤ n := fun b' hb' => hle b' (List.mem_cons_of_mem b hb')
    rw [assemble_cons] at h
    split_ifs at h with hshort
    · obtain ⟨⟨done, left⟩, hr⟩ : ∃ r, assemble n [] bs = r := ⟨_, rfl⟩
      rw [hr] at h
      obtain ⟨rfl, rfl⟩ := Prod.mk.inj h
      refine .inr ⟨b, done, rfl, ?_⟩
      rw [blocks_short hshort]
      rcases ih hrest hr with ⟨rfl, rfl, -⟩ | ⟨x, tail, rfl, rfl⟩
      · rfl
      · rfl
    · have hfull : b.length = n := Nat.le_antisymm (hle b List.mem_cons_self) (by omega)
      rcases ih hrest h with ⟨-, -, hnil⟩ | ⟨x, tail, rfl, rfl⟩
      · have hzero := congrArg List.length hnil
        rw [List.length_append, List.length_nil] at hzero
        omega
      · refine .inr ⟨b ++ x, tail, by rw [List.append_assoc], ?_⟩
        rw [blocks_full hn hfull]
        rfl

/-- **Blocks that leave nothing unfinished are the blocks of what was put together.** -/
theorem eq_flatMap_of_assemble (hn : 0 < n) (hle : ∀ b ∈ bs, b.length ≤ n) (h : assemble n [] bs = (xss, [])) :
    bs = xss.flatMap (blocks n) := by
  rcases cases_of_assemble hn hle h with ⟨rfl, rfl, -⟩ | ⟨x, tail, rfl, rfl⟩
  · rfl
  · rfl

end DataNexus.Blocks
