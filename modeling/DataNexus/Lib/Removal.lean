/-
  Removing from a list by index, several times: each index is read in the list that the removals before it have left.
  `cut is xs` carries them out; `Fits is n` says that all of them are inside a list of length `n`.

  1. **Equal indices.**  Removing `r` times at `i` takes the `r` elements from `i` on (`cut_replicate`).

  2. **The order of removals.**  Position by position (`Below`), ascending indices leave the smaller positions, descending
     ones the larger (`below_ascending`).

  3. **Ascending and descending differ**, so they do not both leave what a filter keeps
     (`ascending_or_descending_ne_filter`).
-/
import Mathlib.Data.List.Basic
import Mathlib.Data.List.Forall2

namespace DataNexus.Removal

variable {α β : Type*}

/-- The removals at the given indices, one after the other. -/
def cut (is : List Nat) (xs : List α) : List α := is.foldl List.eraseIdx xs

/-- Every removal is inside a list that has length `n` at first. -/
def Fits : List Nat → Nat → Prop
  | [], _ => True
  | i :: is, n => i < n ∧ Fits is (n - 1)

@[simp] theorem cut_nil (xs : List α) : cut [] xs = xs := rfl

@[simp] theorem cut_cons (i : Nat) (is : List Nat) (xs : List α) : cut (i :: is) xs = cut is (xs.eraseIdx i) := rfl

theorem cut_append (is js : List Nat) (xs : List α) : cut (is ++ js) xs = cut js (cut is xs) := List.foldl_append

variable {is xs ys : List Nat} {n r i k p q : Nat} {keep : α → Bool}

theorem fits_append {js : List Nat} : Fits (is ++ js) n ↔ Fits is n ∧ Fits js (n - is.length) := by
  induction is generalizing n with
  | nil => simp [Fits]
  | cons i is ih =>
    show i < n ∧ Fits (is ++ js) (n - 1) ↔ (i < n ∧ Fits is (n - 1)) ∧ Fits js (n - (is.length + 1))
    rw [ih, and_assoc, show n - (is.length + 1) = n - 1 - is.length by omega]

theorem length_cut {xs : List α} (h : Fits is xs.length) : (cut is xs).length + is.length = xs.length := by
  induction is generalizing xs with
  | nil => rfl
  | cons i is ih =>
    have hlen : (xs.eraseIdx i).length = xs.length - 1 := List.length_eraseIdx_of_lt h.1
    have hrest : (cut is (xs.eraseIdx i)).length + is.length = (xs.eraseIdx i).length := ih (by rw [hlen]; exact h.2)
    have hpos : 0 < xs.length := Nat.lt_of_le_of_lt (Nat.zero_le i) h.1
    show (cut is (xs.eraseIdx i)).length + (is.length + 1) = xs.length
    omega

theorem cut_sublist (is : List Nat) (xs : List α) : (cut is xs).Sublist xs := by
  induction is generalizing xs with
  | nil => exact List.Sublist.refl xs
  | cons i is ih => exact (ih (xs.eraseIdx i)).trans (List.eraseIdx_sublist xs i)

theorem map_eraseIdx (f : α → β) (xs : List α) (i : Nat) : (xs.eraseIdx i).map f = (xs.map f).eraseIdx i := by
  induction xs generalizing i with
  | nil => rfl
  | cons x xs ih =>
    cases i with
    | zero => rfl
    | succ i => exact congrArg (f x :: ·) (ih i)

theorem map_cut (f : α → β) (is : List Nat) (xs : List α) : (cut is xs).map f = cut is (xs.map f) := by
  induction is generalizing xs with
  | nil => rfl
  | cons i is ih =>
    rw [cut_cons, ih, map_eraseIdx]
    rfl

/-! ## Equal indices -/

theorem cut_replicate_append (pre bad post : List α) :
    cut (List.replicate bad.length pre.length) (pre ++ bad ++ post) = pre ++ post := by
  induction bad with
  | nil => simp
  | cons b bad ih =>
    have hfirst : (pre ++ b :: bad ++ post).eraseIdx pre.length = pre ++ bad ++ post := by
      rw [List.append_assoc, List.eraseIdx_append_of_length_le (Nat.le_refl _)]
      simp
    show cut (List.replicate bad.length pre.length) ((pre ++ b :: bad ++ post).eraseIdx pre.length) = _
    rw [hfirst, ih]

theorem fits_replicate (h : i + r ≤ n) : Fits (List.replicate r i) n := by
  induction r generalizing n with
  | zero => trivial
  | succ r ih => exact ⟨by omega, ih (by omega)⟩

theorem le_of_fits_replicate (h : Fits (List.replicate r i) n) (hr : 0 < r) : i + r ≤ n := by
  induction r generalizing n with
  | zero => omega
  | succ r ih =>
    have hlt : i < n := h.1
    rcases Nat.eq_zero_or_pos r with rfl | hpos
    · omega
    · have := ih h.2 hpos
      omega

/-- **Equal indices.**  Removing `r` times at `i` takes the `r` elements from `i` on. -/
theorem cut_replicate {xs : List α} (h : Fits (List.replicate r i) xs.length) :
    cut (List.replicate r i) xs = xs.take i ++ xs.drop (i + r) := by
  rcases Nat.eq_zero_or_pos r with rfl | hpos
  · simp
  · have hle := le_of_fits_replicate h hpos
    have hsplit : xs = xs.take i ++ (xs.drop i).take r ++ xs.drop (i + r) := by
      rw [List.append_assoc, ← List.drop_drop, List.take_append_drop, List.take_append_drop]
    have hi : (xs.take i).length = i := by
      rw [List.length_take]
      omega
    have hr : ((xs.drop i).take r).length = r := by
      rw [List.length_take, List.length_drop]
      omega
    have hcut := cut_replicate_append (xs.take i) ((xs.drop i).take r) (xs.drop (i + r))
    rwa [hi, hr, ← hsplit] at hcut

/-! ## The order of removals -/

def Below (xs ys : List Nat) : Prop := List.Forall₂ (· ≤ ·) xs ys

theorem below_refl (xs : List Nat) : Below xs xs := List.forall₂_refl xs

theorem Below.trans {zs : List Nat} (h : Below xs ys) (h' : Below ys zs) : Below xs zs := by
  unfold Below at h h' ⊢
  induction h generalizing zs with
  | nil => exact h'
  | cons hxy hrest ih =>
    cases h' with
    | cons hyz hrest' => exact .cons (Nat.le_trans hxy hyz) (ih hrest')

theorem below_eraseIdx (h : Below xs ys) (i : Nat) : Below (xs.eraseIdx i) (ys.eraseIdx i) := by
  unfold Below at h ⊢
  induction h generalizing i with
  | nil => exact .nil
  | cons hxy hrest ih =>
    cases i with
    | zero => exact hrest
    | succ i => exact .cons hxy (ih i)

theorem below_cut (h : Below xs ys) (is : List Nat) : Below (cut is xs) (cut is ys) := by
  induction is generalizing xs ys with
  | nil => exact h
  | cons i is ih => exact ih (below_eraseIdx h i)

theorem Below.getElem? (h : Below xs ys) {a b : Nat} (ha : xs[k]? = some a) (hb : ys[k]? = some b) : a ≤ b := by
  unfold Below at h
  induction h generalizing k with
  | nil => cases ha
  | cons hxy hrest ih =>
    cases k with
    | zero =>
      cases ha
      cases hb
      exact hxy
    | succ k => exact ih ha hb

theorem below_swap (hpr : p < r) (hr : r + 1 < xs.length) (hsorted : xs.Pairwise (· < ·)) :
    Below ((xs.eraseIdx p).eraseIdx r) ((xs.eraseIdx r).eraseIdx p) := by
  induction xs generalizing p r with
  | nil => exact absurd hr (by simp)
  | cons x xs ih =>
    obtain ⟨r, rfl⟩ : ∃ r', r = r' + 1 := ⟨r - 1, by omega⟩
    have hr' : r + 1 < xs.length := by simpa using hr
    have hsorted' : xs.Pairwise (· < ·) := (List.pairwise_cons.mp hsorted).2
    cases p with
    | succ p => exact .cons (Nat.le_refl x) (ih (by omega) hr' hsorted')
    | zero =>
      -- `x` goes in both orders; then `r + 1` is taken from `xs`, or `r` is
      show Below (xs.eraseIdx (r + 1)) (xs.eraseIdx r)
      clear ih hpr hr hsorted
      induction xs generalizing r with
      | nil => exact .nil
      | cons y ys ihy =>
        cases r with
        | succ r =>
          exact .cons (Nat.le_refl y) (ihy r (by simpa using hr') (List.pairwise_cons.mp hsorted').2)
        | zero =>
          cases ys with
          | nil => exact absurd hr' (by simp)
          | cons z zs =>
            have hyz : y < z := (List.pairwise_cons.mp hsorted').1 z List.mem_cons_self
            exact .cons (Nat.le_of_lt hyz) (below_refl zs)

theorem pairwise_eraseIdx (h : xs.Pairwise (· < ·)) (i : Nat) :
    (xs.eraseIdx i).Pairwise (· < ·) := h.sublist (List.eraseIdx_sublist xs i)

theorem below_first {rs : List Nat} (hp : ∀ r ∈ rs, p < r) (hfits : Fits (p :: rs) xs.length)
    (hsorted : xs.Pairwise (· < ·)) : Below (cut rs (xs.eraseIdx p)) ((cut rs xs).eraseIdx p) := by
  induction rs generalizing xs with
  | nil => exact below_refl _
  | cons r rs ih =>
    obtain ⟨hpn, hrn, hrest⟩ := hfits
    have hpr := hp r List.mem_cons_self
    have hlen : (xs.eraseIdx r).length = xs.length - 1 := List.length_eraseIdx_of_lt (by omega)
    have hswap := below_swap hpr (by omega) hsorted
    refine (below_cut hswap rs).trans (ih (fun r' hr' => hp r' (List.mem_cons_of_mem r hr')) ?_
      (pairwise_eraseIdx hsorted r))
    rw [hlen]
    exact ⟨by omega, hrest⟩

theorem add_lt_of_fits (hasc : (p :: is).Pairwise (· < ·)) (h : Fits (p :: is) n) : p + is.length < n := by
  induction is generalizing p n with
  | nil => exact h.1
  | cons i is ih =>
    have hpi : p < i := (List.pairwise_cons.mp hasc).1 i List.mem_cons_self
    have := ih (List.pairwise_cons.mp hasc).2 h.2
    show p + (is.length + 1) < n
    omega

theorem fits_mono {m : Nat} (h : Fits is m) (hmn : m ≤ n) : Fits is n := by
  induction is generalizing m n with
  | nil => trivial
  | cons i is ih => exact ⟨Nat.lt_of_lt_of_le h.1 hmn, ih h.2 (by omega)⟩

theorem fits_reverse (hasc : is.Pairwise (· < ·)) (h : Fits is n) : Fits is.reverse n := by
  induction is generalizing n with
  | nil => trivial
  | cons i is ih =>
    have hrest := ih (List.pairwise_cons.mp hasc).2 h.2
    have hroom := add_lt_of_fits hasc h
    rw [List.reverse_cons, fits_append]
    refine ⟨?_, ?_, trivial⟩
    · exact fits_mono hrest (Nat.sub_le n 1)
    · rw [List.length_reverse]
      omega

/-- **Order.**  Ascending removals leave smaller positions than the same removals in descending order. -/
theorem below_ascending (hasc : is.Pairwise (· < ·)) (hfits : Fits is xs.length) (hsorted : xs.Pairwise (· < ·)) :
    Below (cut is xs) (cut is.reverse xs) := by
  induction is generalizing xs with
  | nil => exact below_refl xs
  | cons i is ih =>
    obtain ⟨hfirst, hasc'⟩ := List.pairwise_cons.mp hasc
    have hlen : (xs.eraseIdx i).length = xs.length - 1 := List.length_eraseIdx_of_lt hfits.1
    have hrest := ih hasc' (by rw [hlen]; exact hfits.2) (pairwise_eraseIdx hsorted i)
    rw [List.reverse_cons, cut_append]
    refine hrest.trans (below_first (fun r hr => hfirst r (List.mem_reverse.mp hr)) ?_ hsorted)
    exact ⟨hfits.1, fits_reverse hasc' hfits.2⟩

theorem below_blocks {blocks : List (List Nat)} (hasc : ∀ b ∈ blocks, b.Pairwise (· < ·))
    (hfits : Fits blocks.flatten xs.length) (hsorted : xs.Pairwise (· < ·)) (hbelow : Below xs ys) :
    Below (cut blocks.flatten xs) (cut (blocks.map List.reverse).flatten ys) := by
  induction blocks generalizing xs ys with
  | nil => exact hbelow
  | cons b blocks ih =>
    rw [List.flatten_cons, fits_append] at hfits
    rw [List.flatten_cons, List.map_cons, List.flatten_cons, cut_append, cut_append]
    have hlen := length_cut hfits.1
    refine ih (fun b' hb' => hasc b' (List.mem_cons_of_mem b hb')) ?_
      (hsorted.sublist (cut_sublist b xs)) ?_
    · rw [show (cut b xs).length = xs.length - b.length by omega]
      exact hfits.2
    · have hb := below_ascending (hasc b List.mem_cons_self) hfits.1 hsorted
      exact hb.trans (below_cut hbelow b.reverse)

/-! ## Ascending and descending differ -/

theorem getElem?_cut_of_lt (h : ∀ i ∈ is, k < i) (xs : List α) : (cut is xs)[k]? = xs[k]? := by
  induction is generalizing xs with
  | nil => rfl
  | cons i is ih =>
    rw [cut_cons, ih (fun j hj => h j (List.mem_cons_of_mem i hj)), List.getElem?_eraseIdx,
      if_pos (h i List.mem_cons_self)]

/-- After ascending removals at `p < q < …`, position `q - 1` holds what was at `q`; -/
theorem getElem?_ascending (hasc : (p :: q :: is).Pairwise (· < ·)) (xs : List α) :
    (cut (p :: q :: is) xs)[q - 1]? = xs[q]? := by
  obtain ⟨hp, hasc'⟩ := List.pairwise_cons.mp hasc
  have hpq := hp q List.mem_cons_self
  have hq := (List.pairwise_cons.mp hasc').1
  rw [cut_cons, cut_cons, getElem?_cut_of_lt fun i hi => by have := hq i hi; omega,
    List.getElem?_eraseIdx, if_pos (by omega), List.getElem?_eraseIdx, if_neg (by omega)]
  congr 1
  omega

theorem getElem?_descending (hasc : (p :: q :: is).Pairwise (· < ·)) (xs : List α) :
    (cut (p :: q :: is).reverse xs)[q - 1]? = (cut is.reverse xs)[q + 1]? := by
  obtain ⟨hp, hasc'⟩ := List.pairwise_cons.mp hasc
  have hpq := hp q List.mem_cons_self
  rw [List.reverse_cons, List.reverse_cons, cut_append, cut_append]
  show (((cut is.reverse xs).eraseIdx q).eraseIdx p)[q - 1]? = _
  rw [List.getElem?_eraseIdx, if_neg (by omega), List.getElem?_eraseIdx, if_neg (by omega)]
  congr 1
  omega

/-- **Ascending and descending differ.**  Runs of ascending and of descending blocks that both end with two or
    more different indices do not leave the same positions. -/
theorem ascending_ne_descending {blocks : List (List Nat)} (hblocks : ∀ b ∈ blocks, b.Pairwise (· < ·))
    (hasc : (p :: q :: is).Pairwise (· < ·)) (hfits : Fits (blocks.flatten ++ (p :: q :: is)) xs.length)
    (hsorted : xs.Pairwise (· < ·)) : cut (blocks.flatten ++ (p :: q :: is)) xs ≠
      cut ((blocks.map List.reverse).flatten ++ (p :: q :: is).reverse) xs := by
  intro heq
  obtain ⟨hfits, hlast⟩ := fits_append.mp hfits
  have hbelow := below_blocks hblocks hfits hsorted (below_refl xs)
  have hlen := length_cut hfits
  rw [cut_append, cut_append] at heq
  -- `left` and `right` are what the two runs have before their last block
  generalize hleft : cut blocks.flatten xs = left at heq hbelow hlen
  generalize hright : cut (blocks.map List.reverse).flatten xs = right at heq hbelow
  have hrightSorted : right.Pairwise (· < ·) := hright ▸ hsorted.sublist (cut_sublist _ xs)
  have hlength : left.length = right.length := List.Forall₂.length_eq hbelow
  have hpq : p < q := (List.pairwise_cons.mp hasc).1 q List.mem_cons_self
  have hroom := add_lt_of_fits (List.pairwise_cons.mp hasc).2 hlast.2
  have hq : q + 1 < left.length := by omega
  have hat : left[q]? = (cut is.reverse right)[q + 1]? := by
    rw [← getElem?_ascending hasc left, heq, getElem?_descending hasc]
  have hbehind : ∀ i ∈ is.reverse, q < i := by
    intro i hi
    exact (List.pairwise_cons.mp (List.pairwise_cons.mp hasc).2).1 i (List.mem_reverse.mp hi)
  have hcutSorted : (cut is.reverse right).Pairwise (· < ·) := hrightSorted.sublist (cut_sublist _ right)
  have hqright : (cut is.reverse right)[q]? = right[q]? := getElem?_cut_of_lt hbehind right
  -- the element that the left run has at `q` stands behind the one that the right run has there
  have hleftq : left[q]? = some left[q] := List.getElem?_eq_getElem (by omega)
  have hrightq : right[q]? = some right[q] := List.getElem?_eq_getElem (by omega)
  have hle : left[q] ≤ right[q] := hbelow.getElem? hleftq hrightq
  obtain ⟨h1, hv1⟩ := List.getElem?_eq_some_iff.mp (hat.symm.trans hleftq)
  obtain ⟨h0, hv0⟩ := List.getElem?_eq_some_iff.mp (hqright.trans hrightq)
  have hlt := List.pairwise_iff_getElem.mp hcutSorted q (q + 1) h0 h1 (Nat.lt_succ_self q)
  omega

theorem positions_of_filter {xs : List α} (h : cut is xs = xs.filter keep) :
    cut is (List.range xs.length) = (List.range xs.length).filter fun k => (xs[k]?).any keep := by
  have hrange : (List.range xs.length).map (fun k => xs[k]?) = xs.map some := by
    refine List.ext_getElem (by simp) ?_
    intro k h1 h2
    simp at h1
    simp [h1]
  have hmap : (cut is (List.range xs.length)).map (fun k => xs[k]?) = (xs.filter keep).map some := by
    rw [map_cut, hrange, ← map_cut, h]
  -- every position left is one that the filter keeps, and there are as many of both
  have hkept : ∀ k ∈ cut is (List.range xs.length), (xs[k]?).any keep = true := by
    intro k hk
    have hin : xs[k]? ∈ (cut is (List.range xs.length)).map (fun k => xs[k]?) := List.mem_map_of_mem hk
    rw [hmap] at hin
    obtain ⟨x, hx, hxk⟩ := List.mem_map.mp hin
    rw [← hxk]
    exact (List.mem_filter.mp hx).2
  have hself : (cut is (List.range xs.length)).filter (fun k => (xs[k]?).any keep) =
      cut is (List.range xs.length) := List.filter_eq_self.mpr hkept
  have hsub := (cut_sublist is (List.range xs.length)).filter fun k => (xs[k]?).any keep
  rw [hself] at hsub
  refine hsub.eq_of_length ?_
  have hleft : (cut is (List.range xs.length)).length = (xs.filter keep).length := by
    have := congrArg List.length hmap
    simpa using this
  have hright : (List.range xs.length).countP (fun k => (xs[k]?).any keep) = xs.countP keep := by
    have := congrArg (List.countP (fun o : Option α => o.any keep)) hrange
    rw [List.countP_map, List.countP_map] at this
    exact this
  rw [hleft, ← List.countP_eq_length_filter, ← List.countP_eq_length_filter, hright]

theorem ascending_or_descending_ne_filter {blocks : List (List Nat)} {xs : List α}
    (hblocks : ∀ b ∈ blocks, b.Pairwise (· < ·)) (hasc : (p :: q :: is).Pairwise (· < ·))
    (hfits : Fits (blocks.flatten ++ (p :: q :: is)) xs.length)
    (hleft : cut (blocks.flatten ++ (p :: q :: is)) xs = xs.filter keep)
    (hright : cut ((blocks.map List.reverse).flatten ++ (p :: q :: is).reverse) xs = xs.filter keep) : False := by
  have hfits' : Fits (blocks.flatten ++ (p :: q :: is)) (List.range xs.length).length := by
    rw [List.length_range]
    exact hfits
  refine ascending_ne_descending hblocks hasc hfits' List.pairwise_lt_range ?_
  rw [positions_of_filter hleft, positions_of_filter hright]

theorem flatten_singletons (is : List Nat) : (is.map fun i => [i]).flatten = is := by
  induction is with
  | nil => rfl
  | cons i is ih => exact congrArg (i :: ·) ih

theorem last_ascending_or_descending_ne_filter {start : List Nat} {xs : List α}
    (hasc : (p :: q :: is).Pairwise (· < ·)) (hfits : Fits (start ++ (p :: q :: is)) xs.length)
    (hleft : cut (start ++ (p :: q :: is)) xs = xs.filter keep)
    (hright : cut (start ++ (p :: q :: is).reverse) xs = xs.filter keep) : False := by
  have hblocks : ∀ b ∈ start.map fun i => [i], b.Pairwise (· < ·) := by
    intro b hb
    obtain ⟨i, -, rfl⟩ := List.mem_map.mp hb
    exact List.pairwise_singleton _ _
  have hreverse : (start.map fun i => [i]).map List.reverse = start.map fun i => [i] := by
    rw [List.map_map]
    rfl
  rw [← flatten_singletons start] at hfits hleft hright
  rw [← hreverse] at hright
  exact ascending_or_descending_ne_filter hblocks hasc hfits hleft hright

end DataNexus.Removal
