/-
  Decimal digits and groups of four of them.

  `num` is the number that a string of digits denotes, `ofGroups` the one that a list of digits to the base 10000
  denotes.  The two meet in `num_flatten`: a string cut into blocks of four has the value of its blocks.
-/
import Mathlib.Data.List.Induction
import Mathlib.Tactic.Ring

namespace DataNexus.Digits

/-! ## Strings of digits -/

def num (cs : List Char) : Nat := Nat.ofDigitChars 10 cs 0

@[simp] theorem num_nil : num [] = 0 := rfl

theorem num_append (a b : List Char) : num (a ++ b) = num a * 10 ^ b.length + num b := by
  unfold num
  rw [Nat.ofDigitChars_append, Nat.ofDigitChars_eq_ofDigitChars_zero, Nat.mul_comm]

@[simp] theorem num_zeros (n : Nat) : num (List.replicate n '0') = 0 := by
  unfold num
  rw [Nat.ofDigitChars_replicate_zero, Nat.mul_zero]

theorem num_cons (c : Char) (cs : List Char) : num (c :: cs) = (c.toNat - '0'.toNat) * 10 ^ cs.length + num cs := by
  rw [← List.singleton_append, num_append]
  simp [num, Nat.ofDigitChars_cons]

variable {c : Char} {cs : List Char} {gs : List Nat}

theorem digit_le (h : c.isDigit = true) : c.toNat - '0'.toNat ≤ 9 := by
  have hle : c.toNat ≤ 57 := by
    simp only [Char.isDigit, Bool.and_eq_true, decide_eq_true_eq] at h
    exact h.2
  have hzero : '0'.toNat = 48 := rfl
  omega

theorem isDigit_ge (h : c.isDigit = true) : 48 ≤ c.toNat := by
  simp only [Char.isDigit, Bool.and_eq_true, decide_eq_true_eq] at h
  exact h.1

theorem one_le_digit (h : c.isDigit = true) (h0 : c ≠ '0') : 1 ≤ c.toNat - '0'.toNat := by
  have hge := isDigit_ge h
  have hne : c.toNat ≠ 48 := by
    intro heq
    exact h0 (Char.ext (UInt32.toNat.inj heq))
  have hzero : '0'.toNat = 48 := rfl
  omega

theorem num_lt (h : cs.all Char.isDigit = true) : num cs < 10 ^ cs.length := by
  induction cs with
  | nil => simp
  | cons c cs ih =>
    rw [List.all_cons, Bool.and_eq_true] at h
    have hc := digit_le h.1
    have hcs := ih h.2
    have hmul : (c.toNat - '0'.toNat) * 10 ^ cs.length ≤ 9 * 10 ^ cs.length := Nat.mul_le_mul_right _ hc
    rw [num_cons, List.length_cons, Nat.pow_succ]
    omega

theorem le_num_cons {c : Char} {cs : List Char} (h : c.isDigit = true) (h0 : c ≠ '0') :
    10 ^ cs.length ≤ num (c :: cs) := by
  rw [num_cons]
  have hmul : 1 * 10 ^ cs.length ≤ (c.toNat - '0'.toNat) * 10 ^ cs.length := Nat.mul_le_mul_right _ (one_le_digit h h0)
  omega

theorem num_inj {a b : List Char} (ha : a.all Char.isDigit = true) (hb : b.all Char.isDigit = true)
    (hlen : a.length = b.length) (h : num a = num b) : a = b := by
  induction a generalizing b with
  | nil => exact (List.length_eq_zero_iff.mp hlen.symm).symm
  | cons c a ih =>
    cases b with
    | nil => cases hlen
    | cons d b =>
      rw [List.all_cons, Bool.and_eq_true] at ha hb
      have hsame : a.length = b.length := Nat.succ.inj hlen
      have hlta := num_lt ha.2
      have hltb := num_lt hb.2
      rw [num_cons, num_cons, hsame] at h
      rw [hsame] at hlta
      have hpos : 0 < 10 ^ b.length := Nat.pow_pos (by decide)
      have hdigit : c.toNat - '0'.toNat = d.toNat - '0'.toNat := by
        have hdiv := congrArg (· / 10 ^ b.length) h
        simp only [Nat.mul_comm _ (10 ^ b.length), Nat.mul_add_div hpos, Nat.div_eq_of_lt hlta,
          Nat.div_eq_of_lt hltb, Nat.add_zero] at hdiv
        exact hdiv
      have hrest : num a = num b := by
        rw [hdigit] at h
        omega
      have hchar : c = d := by
        have hc := isDigit_ge ha.1
        have hd := isDigit_ge hb.1
        have hzero : '0'.toNat = 48 := rfl
        exact Char.ext (UInt32.toNat.inj (by show c.toNat = d.toNat; omega))
      rw [hchar, ih ha.2 hb.2 hsame hrest]

/-- A number is written by exactly those digits that denote it and do not begin with `0`. -/
theorem toDigits_num_iff {s : List Char} (h : s.all Char.isDigit = true) (hne : s ≠ []) :
    Nat.toDigits 10 (num s) = s ↔ s = ['0'] ∨ s.head? ≠ some '0' := by
  have hall : (Nat.toDigits 10 (num s)).all Char.isDigit = true :=
    List.all_eq_true.mpr fun c hc => Nat.isDigit_of_mem_toDigits (by decide) (by decide) hc
  have hnum : num (Nat.toDigits 10 (num s)) = num s := Nat.ofDigitChars_ten_toDigits
  cases s with
  | nil => exact absurd rfl hne
  | cons c rest =>
    have hpos := Nat.length_toDigits_pos (b := 10) (n := num (c :: rest))
    have hle : (Nat.toDigits 10 (num (c :: rest))).length ≤ rest.length + 1 :=
      (Nat.length_toDigits_le_iff (by decide) (Nat.succ_pos _)).mpr (num_lt h)
    rw [List.head?_cons, List.all_cons, Bool.and_eq_true] at *
    by_cases hc : c = '0'
    · subst hc
      have hzero : num ('0' :: rest) = num rest := by
        rw [num_cons]
        simp
      constructor
      · intro heq
        left
        by_contra hrest
        have hlen : 0 < rest.length := by
          rw [List.length_pos_iff]
          rintro rfl
          exact hrest rfl
        -- the rest alone has room for the number
        have hshort : (Nat.toDigits 10 (num ('0' :: rest))).length ≤ rest.length := by
          rw [hzero]
          exact (Nat.length_toDigits_le_iff (by decide) hlen).mpr (num_lt h.2)
        rw [heq, List.length_cons] at hshort
        omega
      · rintro (heq | hhead)
        · rw [heq]
          rfl
        · exact absurd rfl hhead
    · refine iff_of_true ?_ (.inr fun heq => hc (Option.some.inj heq))
      refine num_inj hall (by rw [List.all_cons, h.1, h.2]; rfl) ?_ hnum
      have hge := @le_num_cons c rest h.1 hc
      have hlong : ¬ (Nat.toDigits 10 (num (c :: rest))).length ≤ rest.length := by
        intro hshort
        rcases Nat.eq_zero_or_pos rest.length with hzero | hlen
        · omega
        · have := (Nat.length_toDigits_le_iff (by decide) hlen).mp hshort
          omega
      rw [List.length_cons]
      omega

theorem num_dropZeros (cs : List Char) : num (cs.dropWhile (· == '0')) = num cs := by
  induction cs with
  | nil => rfl
  | cons c cs ih =>
    by_cases hc : c = '0'
    · subst hc
      rw [List.dropWhile_cons_of_pos (by rfl), ih, num_cons]
      simp
    · rw [List.dropWhile_cons_of_neg (by simpa using hc)]

theorem dropZeros_eq_nil (h : cs.all Char.isDigit = true) : cs.dropWhile (· == '0') = [] ↔ num cs = 0 := by
  constructor
  · intro hnil
    rw [← num_dropZeros, hnil]
    rfl
  · intro hzero
    cases hd : cs.dropWhile (· == '0') with
    | nil => rfl
    | cons c rest =>
      have hmem : c ∈ cs := List.dropWhile_subset _ (hd ▸ List.mem_cons_self)
      have hc : c ≠ '0' := by
        have := List.head?_dropWhile_not (· == '0') cs
        rw [hd] at this
        simpa using this
      have hle : 10 ^ rest.length ≤ num (c :: rest) := le_num_cons (List.all_eq_true.mp h c hmem) hc
      rw [← hd, num_dropZeros, hzero] at hle
      exact absurd hle (by simp)

theorem num_take (h : cs.all Char.isDigit = true) (n : Nat) : num (cs.take n) = num cs / 10 ^ (cs.length - n) := by
  have hsplit := num_append (cs.take n) (cs.drop n)
  rw [List.take_append_drop, List.length_drop] at hsplit
  have hlt : num (cs.drop n) < 10 ^ (cs.length - n) := by
    have hdrop : (cs.drop n).all Char.isDigit = true :=
      List.all_eq_true.mpr fun c hc => List.all_eq_true.mp h c (List.mem_of_mem_drop hc)
    have := num_lt hdrop
    rwa [List.length_drop] at this
  rw [hsplit, Nat.mul_comm, Nat.mul_add_div (Nat.pos_of_ne_zero (by simp)), Nat.div_eq_of_lt hlt, Nat.add_zero]

/-! ## Groups of four -/

/-- The number that digits to the base 10000 denote. -/
def ofGroups (gs : List Nat) : Nat := gs.foldl (fun n g => 10000 * n + g) 0

@[simp] theorem ofGroups_nil : ofGroups [] = 0 := rfl

theorem ofGroups_append (gs : List Nat) (g : Nat) : ofGroups (gs ++ [g]) = 10000 * ofGroups gs + g := by
  simp [ofGroups]

theorem num_flatMap {f : Nat → List Char} (h : ∀ g ∈ gs, (f g).length = 4 ∧ num (f g) = g) :
    num (gs.flatMap f) = ofGroups gs ∧ (gs.flatMap f).length = 4 * gs.length := by
  induction gs using List.reverseRecOn with
  | nil => exact ⟨rfl, rfl⟩
  | append_singleton gs g ih =>
    obtain ⟨hnum, hlen⟩ := ih fun g' hg' => h g' (List.mem_append_left _ hg')
    obtain ⟨hg4, hgnum⟩ := h g (List.mem_append_right _ (List.mem_singleton.mpr rfl))
    rw [List.flatMap_append, List.flatMap_singleton, num_append, hnum, hg4, hgnum, ofGroups_append, List.length_append,
      hlen, hg4, List.length_append]
    constructor
    · ring
    · simp
      ring

theorem ofGroups_take_drop (gs : List Nat) (k : Nat) :
    ofGroups gs = ofGroups (gs.take k) * 10000 ^ (gs.drop k).length + ofGroups (gs.drop k) := by
  have hshift : ∀ (as bs : List Nat), ofGroups (as ++ bs) = ofGroups as * 10000 ^ bs.length + ofGroups bs := by
    intro as bs
    induction bs using List.reverseRecOn with
    | nil => simp
    | append_singleton bs b ih =>
      rw [← List.append_assoc, ofGroups_append, ih, ofGroups_append, List.length_append, List.length_singleton,
        Nat.pow_succ]
      ring
  conv_lhs => rw [← List.take_append_drop k gs]
  exact hshift _ _

theorem ofGroups_lt (h : ∀ g ∈ gs, g < 10000) : ofGroups gs < 10000 ^ gs.length := by
  induction gs using List.reverseRecOn with
  | nil => simp
  | append_singleton gs g ih =>
    have hgs := ih fun g' hg' => h g' (List.mem_append_left _ hg')
    have hg := h g (List.mem_append_right _ (List.mem_singleton.mpr rfl))
    rw [ofGroups_append, List.length_append, List.length_singleton, Nat.pow_succ]
    omega

end DataNexus.Digits
