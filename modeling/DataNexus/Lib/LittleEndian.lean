/-
  Numbers as bytes, the least significant one first, and numbers as decimal text.

  `le w n` are the `w` bytes of `n`, `leInt w i` the ones of a signed number in two's complement; both drop what does
  not fit.  `signed` reads a signed number back, and it is the same one exactly if it fits (`signed_leInt_iff`).

  `natAbs_lt_of_length` and `last_leInt` together tell bytes and decimal text apart: a number of few digits has a highest
  byte that is no digit.
-/
import DataNexus.Lib.Digits

namespace DataNexus.LittleEndian

/-! ## Bytes -/

def le : Nat → Nat → List UInt8
  | 0, _ => []
  | w + 1, n => UInt8.ofNat (n % 256) :: le w (n / 256)

def ofLe : List UInt8 → Nat
  | [] => 0
  | b :: bs => b.toNat + 256 * ofLe bs

@[simp] theorem length_le (w n : Nat) : (le w n).length = w := by
  induction w generalizing n with
  | zero => rfl
  | succ w ih => rw [le, List.length_cons, ih]

theorem toNat_ofNat_mod (n : Nat) : (UInt8.ofNat (n % 256)).toNat = n % 256 := by
  rw [UInt8.toNat_ofNat']
  exact Nat.mod_eq_of_lt (Nat.mod_lt n (by decide))

theorem ofLe_le (w n : Nat) : ofLe (le w n) = n % 256 ^ w := by
  induction w generalizing n with
  | zero => rw [le, ofLe, Nat.pow_zero, Nat.mod_one]
  | succ w ih => rw [le, ofLe, ih, toNat_ofNat_mod, Nat.pow_succ', Nat.mod_mul]

theorem ofLe_le_of_lt {w n : Nat} (h : n < 256 ^ w) : ofLe (le w n) = n := by
  rw [ofLe_le, Nat.mod_eq_of_lt h]

theorem ofLe_append (front back : List UInt8) :
    ofLe (front ++ back) = ofLe front + 256 ^ front.length * ofLe back := by
  induction front with
  | nil => rw [List.nil_append, ofLe, List.length_nil, Nat.pow_zero, Nat.one_mul, Nat.zero_add]
  | cons b front ih =>
    rw [List.cons_append, ofLe, ofLe, ih, List.length_cons, Nat.pow_succ']
    ring

theorem ofLe_lt (bytes : List UInt8) : ofLe bytes < 256 ^ bytes.length := by
  induction bytes with
  | nil => exact Nat.one_pos
  | cons b bytes ih =>
    have hb : b.toNat < 256 := b.toNat_lt
    rw [ofLe, List.length_cons, Nat.pow_succ]
    omega

theorem le_ofLe (bytes : List UInt8) : le bytes.length (ofLe bytes) = bytes := by
  induction bytes with
  | nil => rfl
  | cons b bytes ih =>
    have hb : b.toNat < 256 := b.toNat_lt
    have hmod : (b.toNat + 256 * ofLe bytes) % 256 = b.toNat := by omega
    have hdiv : (b.toNat + 256 * ofLe bytes) / 256 = ofLe bytes := by omega
    rw [List.length_cons, le, ofLe, hmod, hdiv, ih, UInt8.ofNat_toNat]

/-! ## Signed numbers -/

/-- The number that a residue stands for, between `-p/2` and `p/2`. -/
def signed (p n : Nat) : Int := if 2 * n < p then n else n - p

def leInt (w : Nat) (i : Int) : List UInt8 := le w (i % (256 ^ w : Nat)).toNat

@[simp] theorem length_leInt (w : Nat) (i : Int) : (leInt w i).length = w := length_le w _

theorem ofLe_leInt (w : Nat) (i : Int) : ofLe (leInt w i) = (i % (256 ^ w : Nat)).toNat := by
  have hpos : (0 : Int) < (256 ^ w : Nat) := by exact_mod_cast Nat.pow_pos (by decide)
  have hlt := Int.emod_lt_of_pos i hpos
  have hnonneg := Int.emod_nonneg i (Int.ne_of_gt hpos)
  exact ofLe_le_of_lt (by omega)

theorem signed_emod_iff {p : Nat} (hp : 0 < p) (i : Int) :
    signed p (i % p).toNat = i ↔ -(p : Int) ≤ 2 * i ∧ 2 * i < p := by
  have hpos : (0 : Int) < p := by exact_mod_cast hp
  have hlt := Int.emod_lt_of_pos i hpos
  have hnonneg := Int.emod_nonneg i (Int.ne_of_gt hpos)
  unfold signed
  constructor
  · intro h
    split at h <;> omega
  · rintro ⟨hlo, hhi⟩
    rcases Int.lt_or_le i 0 with hneg | hge
    · have hmod : i % (p : Int) = i + p := by
        rw [← Int.add_emod_right, Int.emod_eq_of_lt (by omega) (by omega)]
      rw [hmod]
      split <;> omega
    · have hmod : i % (p : Int) = i := Int.emod_eq_of_lt hge (by omega)
      rw [hmod]
      split <;> omega

/-- **A signed number is read back exactly if it fits.** -/
theorem signed_leInt_iff (w : Nat) (i : Int) :
    signed (256 ^ w) (ofLe (leInt w i)) = i ↔ -((256 ^ w : Nat) : Int) ≤ 2 * i ∧ 2 * i < (256 ^ w : Nat) := by
  rw [ofLe_leInt]
  exact signed_emod_iff (Nat.pow_pos (by decide)) i

theorem leInt_signed (bytes : List UInt8) :
    leInt bytes.length (signed (256 ^ bytes.length) (ofLe bytes)) = bytes := by
  have hlt := ofLe_lt bytes
  have hback : (signed (256 ^ bytes.length) (ofLe bytes) % ((256 ^ bytes.length : Nat) : Int)).toNat = ofLe bytes := by
    generalize 256 ^ bytes.length = p at hlt ⊢
    unfold signed
    split
    · rw [Int.emod_eq_of_lt (by omega) (by omega)]
      omega
    · rw [Int.sub_emod_right, Int.emod_eq_of_lt (by omega) (by omega)]
      omega
  unfold leInt
  rw [hback]
  exact le_ofLe bytes

theorem leInt_natCast (w n : Nat) : leInt w (n : Int) = le w n := by
  have hmod : ((n : Int) % ((256 ^ w : Nat) : Int)).toNat = n % 256 ^ w := by
    rw [← Int.natCast_emod]
    rfl
  have hlen := le_ofLe (le w n)
  rw [length_le, ofLe_le] at hlen
  unfold leInt
  rw [hmod]
  exact hlen

theorem last_leInt {w : Nat} {i : Int} (h : i.natAbs < 256 ^ w) :
    ∃ front, ∃ last : UInt8, leInt (w + 1) i = front ++ [last] ∧ (last.toNat = 0 ∨ last.toNat = 255) := by
  obtain ⟨front, last, hlast⟩ : ∃ front last, leInt (w + 1) i = front ++ [last] := by
    rcases List.eq_nil_or_concat (leInt (w + 1) i) with hnil | ⟨front, last, hconcat⟩
    · have hlen := length_leInt (w + 1) i
      rw [hnil] at hlen
      cases hlen
    · exact ⟨front, last, hconcat.trans List.concat_eq_append⟩
  refine ⟨front, last, hlast, ?_⟩
  have hlen : front.length = w := by
    have hlen := length_leInt (w + 1) i
    rw [hlast, List.length_append, List.length_singleton] at hlen
    omega
  have hvalue := ofLe_leInt (w + 1) i
  have hfront := ofLe_lt front
  have hbyte : last.toNat < 256 := last.toNat_lt
  rw [hlast, ofLe_append, hlen, show ofLe [last] = last.toNat by simp [ofLe]] at hvalue
  rw [hlen] at hfront
  rw [Nat.pow_succ] at hvalue
  -- modulo `p * 256` the number is near zero, or near the top
  generalize 256 ^ w = p at *
  have hpos : 0 < p := by omega
  rcases Int.lt_or_le i 0 with hneg | hge
  · have hmod : i % ((p * 256 : Nat) : Int) = i + (p * 256 : Nat) := by
      rw [← Int.add_emod_right, Int.emod_eq_of_lt (by omega) (by omega)]
    rw [hmod] at hvalue
    right
    by_contra hne
    have hle : last.toNat ≤ 254 := by omega
    have hmul : p * last.toNat ≤ p * 254 := Nat.mul_le_mul_left p hle
    omega
  · have hmod : i % ((p * 256 : Nat) : Int) = i := Int.emod_eq_of_lt hge (by omega)
    rw [hmod] at hvalue
    left
    by_contra hne
    have hle : 1 ≤ last.toNat := by omega
    have hmul : p * 1 ≤ p * last.toNat := Nat.mul_le_mul_left p hle
    omega

/-! ## Decimal text -/

def decimal : Int → List Char
  | .ofNat n => Nat.toDigits 10 n
  | .negSucc n => '-' :: Nat.toDigits 10 (n + 1)

variable {i : Int}

theorem natAbs_lt_of_length {k : Nat} (h : (decimal i).length ≤ k) : i.natAbs < 10 ^ k := by
  cases i with
  | ofNat n =>
    rcases Nat.eq_zero_or_pos k with rfl | hk
    · have hpos := Nat.length_toDigits_pos (b := 10) (n := n)
      have hle : (Nat.toDigits 10 n).length ≤ 0 := h
      omega
    · exact (Nat.length_toDigits_le_iff (by decide) hk).mp h
  | negSucc n =>
    have hle : (Nat.toDigits 10 (n + 1)).length + 1 ≤ k := h
    have hpos := Nat.length_toDigits_pos (b := 10) (n := n + 1)
    have hlt : n + 1 < 10 ^ (k - 1) := (Nat.length_toDigits_le_iff (by decide) (by omega)).mp (by omega)
    have hmono : 10 ^ (k - 1) ≤ 10 ^ k := Nat.pow_le_pow_right (by decide) (by omega)
    show n + 1 < 10 ^ k
    omega

theorem decimal_last (i : Int) : ∃ front c, decimal i = front ++ [c] ∧ c.isDigit = true := by
  have hdigits : ∀ n, ∃ front c, Nat.toDigits 10 n = front ++ [c] ∧ c.isDigit = true := by
    intro n
    rcases List.eq_nil_or_concat (Nat.toDigits 10 n) with hnil | ⟨front, c, hconcat⟩
    · have hpos := Nat.length_toDigits_pos (b := 10) (n := n)
      rw [hnil] at hpos
      cases hpos
    · rw [List.concat_eq_append] at hconcat
      refine ⟨front, c, hconcat, Nat.isDigit_of_mem_toDigits (b := 10) (n := n) (by decide) (by decide) ?_⟩
      rw [hconcat]
      exact List.mem_append_right _ List.mem_cons_self
  cases i with
  | ofNat n => exact hdigits n
  | negSucc n =>
    obtain ⟨front, c, hdec, hc⟩ := hdigits (n + 1)
    exact ⟨'-' :: front, c, congrArg ('-' :: ·) hdec, hc⟩

theorem mem_decimal {c : Char} (h : c ∈ decimal i) : c.isDigit = true ∨ c = '-' := by
  cases i with
  | ofNat n => exact .inl (Nat.isDigit_of_mem_toDigits (by decide) (by decide) h)
  | negSucc n =>
    rcases List.mem_cons.mp h with h | h
    · exact .inr h
    · exact .inl (Nat.isDigit_of_mem_toDigits (by decide) (by decide) h)

theorem decimal_inj {j : Int} (h : decimal i = decimal j) : i = j := by
  have hdigits : ∀ {m n : Nat}, Nat.toDigits 10 m = Nat.toDigits 10 n → m = n := by
    intro m n h
    have hm := Nat.ofDigitChars_ten_toDigits (n := m)
    rw [h, Nat.ofDigitChars_ten_toDigits] at hm
    exact hm.symm
  have hsign : ∀ m n : Nat, Nat.toDigits 10 m ≠ '-' :: Nat.toDigits 10 n := by
    intro m n heq
    have hdash : '-' ∈ Nat.toDigits 10 m := heq ▸ List.mem_cons_self
    exact absurd (Nat.isDigit_of_mem_toDigits (by decide) (by decide) hdash) (by decide)
  cases i with
  | ofNat m =>
    cases j with
    | ofNat n => exact congrArg Int.ofNat (hdigits h)
    | negSucc n => exact absurd h (hsign m (n + 1))
  | negSucc m =>
    cases j with
    | ofNat n => exact absurd h.symm (hsign n (m + 1))
    | negSucc n => exact congrArg Int.negSucc (Nat.succ.inj (hdigits (List.cons.inj h).2))

end DataNexus.LittleEndian
