/-
  `NUMERIC` values in the layout that PostgreSQL sends (`pg_numeric_to_text` of `backend/postgresql.rs`).

  The comment above the function states the layout: groups, weight, sign, scale.  The function looks for the sign in the
  second field and for the weight in the third one.

  1. **Specification** — `Finite.documentedWire` are the bytes of a value, and `Renders` says what its text is.

  2. **The result** — the bytes are those of `Numeric.wireOf` with two fields exchanged, and the text is right iff both
     hold the same word, or the value is zero under a weight that is taken for a sign (`renders_iff_aligned`).
-/
import DataNexus.Backend.Numeric
import Mathlib.Algebra.Order.Floor.Semifield
import Mathlib.Data.Rat.Floor
import Mathlib.Algebra.Order.Field.Power

namespace DataNexus.NumericLayout

open DataNexus.Digits DataNexus.Numeric

/-! ## Values and their layout -/

/-- A finite value: groups of four digits, the first one at `weight`. -/
structure Finite where
  groups : List Nat
  weight : Int
  negative : Bool
  dscale : Nat
  small : ∀ g ∈ groups, g < 10000
  few : groups.length < 32768
  weight_ge : -32768 ≤ weight
  weight_lt : weight < 32768
  dscale_lt : dscale < 65536
  /-- There is no negative zero. -/
  signed : negative = true → ∃ g ∈ groups, g ≠ 0

namespace Finite

/-- The word of the weight, an `i16`. -/
def weightWord (v : Finite) : Nat := (v.weight % 65536).toNat

def signWord (v : Finite) : Nat := if v.negative then 0x4000 else 0

/-- ndigits, weight, sign, dscale, then the groups. -/
def documentedWire (v : Finite) : List UInt8 :=
  be16 v.groups.length ++ be16 v.weightWord ++ be16 v.signWord ++ be16 v.dscale ++ v.groups.flatMap be16

def magnitude (v : Finite) : Rat := ofGroups v.groups * (10000 : Rat) ^ (v.weight + 1 - v.groups.length)

/-- The two fields hold one word, or nothing is negated by a weight that is taken for a sign. -/
def Aligned (v : Finite) : Prop := v.weightWord = v.signWord ∨ v.groups = [] ∧ v.weight = 16384

end Finite

/-- **The text of a value**: its sign, the digits of its integer part, and exactly `dscale` digits behind the point. -/
def Renders (v : Finite) (text : List Char) : Prop :=
  ∃ i f : List Char, text = withSign v.negative (i ++ (if v.dscale > 0 then '.' :: f else [])) ∧
    i ≠ [] ∧ i.all Char.isDigit = true ∧ f.all Char.isDigit = true ∧ f.length = v.dscale ∧
    num i = ⌊v.magnitude⌋₊ ∧ num (i ++ f) = ⌊v.magnitude * 10 ^ v.dscale⌋₊

/-! ## The digits under a weight -/

theorem intLoop_missing {digits : List Nat} (h : ∀ g ∈ digits, g < 10000) (b : Nat) :
    num ((List.range (digits.length + b)).flatMap (intGroup digits)) = ofGroups digits * 10000 ^ b := by
  induction b with
  | zero =>
    obtain ⟨-, -, hval⟩ := intLoop_spec h digits.length
    rw [Nat.add_zero, hval (Nat.le_refl _), List.take_length, Nat.pow_zero, Nat.mul_one]
  | succ b ih =>
    have hnone : digits[digits.length + b]? = none := List.getElem?_eq_none (Nat.le_add_right _ _)
    have hzeros : intGroup digits (digits.length + b) = ['0', '0', '0', '0'] := by
      unfold intGroup
      rw [hnone]
    have hzero : num ['0', '0', '0', '0'] = 0 := num_zeros 4
    rw [← Nat.add_assoc, List.range_succ, List.flatMap_append, List.flatMap_singleton, hzeros, num_append, hzero, ih,
      Nat.pow_succ]
    show ofGroups digits * 10000 ^ b * 10000 + 0 = _
    rw [Nat.add_zero, Nat.mul_assoc]

theorem num_intText_eq_loop (digits : List Nat) (k : Nat) :
    num (intText digits k) = num ((List.range k).flatMap (intGroup digits)) := by
  unfold intText
  split
  · rename_i hnil
    rw [hnil]
    exact num_zeros 1
  · rfl

theorem num_intText {digits : List Nat} (h : ∀ g ∈ digits, g < 10000) (k : Nat) :
    num (intText digits k) = ofGroups (digits.take k) * 10000 ^ (k - digits.length) := by
  by_cases hk : k ≤ digits.length
  · obtain ⟨-, -, -, hval⟩ := intText_spec h k
    rw [hval hk, Nat.sub_eq_zero_of_le hk, Nat.pow_zero, Nat.mul_one]
  · have hloop := intLoop_missing h (k - digits.length)
    rw [show digits.length + (k - digits.length) = k by omega] at hloop
    rw [num_intText_eq_loop, hloop, List.take_of_length_le (by omega)]

/-! ## The value and its digits -/

variable {v : Finite} {k : Nat}

theorem magnitude_eq (hk : v.weight + 1 = k) :
    v.magnitude = ((ofGroups v.groups * 10000 ^ (k - v.groups.length) : Nat) : Rat) /
      ((10000 ^ (v.groups.length - k) : Nat) : Rat) := by
  unfold Finite.magnitude
  rw [hk]
  push_cast
  rw [mul_div_assoc]
  congr 1
  have hten : (10000 : Rat) ≠ 0 := by norm_num
  have hexp : (k : Int) - v.groups.length = ((k - v.groups.length : Nat) : Int) - (v.groups.length - k : Nat) := by
    omega
  rw [hexp, zpow_sub₀ hten, zpow_natCast, zpow_natCast]

theorem renders_bodyText (hk : v.weight + 1 = k) :
    Renders v (withSign v.negative (bodyText v.groups k v.dscale)) := by
  obtain ⟨hne, hint, -, -⟩ := intText_spec v.small k
  obtain ⟨hfrac, hlen, hvalue⟩ := fracText_spec v.small k v.dscale
  let n := v.groups.length
  let A := ofGroups (v.groups.take k)
  let C := ofGroups (v.groups.drop k)
  have hcut : ofGroups v.groups = A * 10000 ^ (n - k) + C := by
    have := ofGroups_take_drop v.groups k
    rwa [List.length_drop] at this
  have hrest : C < 10000 ^ (n - k) := by
    have := ofGroups_lt (fun g hg => v.small g (List.mem_of_mem_drop hg) : ∀ g ∈ v.groups.drop k, g < 10000)
    rwa [List.length_drop] at this
  have hpos : 0 < 10000 ^ (n - k) := Nat.pow_pos (by decide)
  -- one of the two powers is one
  have hscaled : ofGroups v.groups * 10000 ^ (k - n) = A * 10000 ^ (k - n) * 10000 ^ (n - k) + C := by
    by_cases hle : k ≤ n
    · rw [Nat.sub_eq_zero_of_le hle, Nat.pow_zero, Nat.mul_one, Nat.mul_one, hcut]
    · have hzero : n - k = 0 := by omega
      rw [hzero, Nat.pow_zero, Nat.lt_one_iff] at hrest
      rw [hcut, hrest, hzero, Nat.pow_zero, Nat.mul_one, Nat.mul_one, Nat.add_zero, Nat.add_zero]
  refine ⟨intText v.groups k, fracText v.groups k v.dscale, rfl, hne, hint, hfrac, hlen, ?_, ?_⟩
  · rw [magnitude_eq hk, Nat.floor_div_natCast, Nat.floor_natCast, num_intText v.small]
    show A * 10000 ^ (k - n) = ofGroups v.groups * 10000 ^ (k - n) / 10000 ^ (n - k)
    rw [hscaled, Nat.mul_comm _ (10000 ^ (n - k)), Nat.mul_add_div hpos, Nat.div_eq_of_lt hrest, Nat.add_zero]
  · have hmul : v.magnitude * 10 ^ v.dscale =
        ((ofGroups v.groups * 10000 ^ (k - n) * 10 ^ v.dscale : Nat) : Rat) / ((10000 ^ (n - k) : Nat) : Rat) := by
      rw [magnitude_eq hk]
      push_cast
      ring
    rw [hmul, Nat.floor_div_natCast, Nat.floor_natCast, num_append, hlen, num_intText v.small, hvalue, hscaled]
    show A * 10000 ^ (k - n) * 10 ^ v.dscale + C * 10 ^ (v.dscale - 4 * (n - k)) / 10 ^ (4 * (n - k) - v.dscale) = _
    have hsum : (A * 10000 ^ (k - n) * 10000 ^ (n - k) + C) * 10 ^ v.dscale =
        10000 ^ (n - k) * (A * 10000 ^ (k - n) * 10 ^ v.dscale) + C * 10 ^ v.dscale := by
      ring
    rw [hsum, Nat.mul_add_div hpos, Nat.add_left_cancel_iff]
    have hbase : 10000 ^ (n - k) = 10 ^ (4 * (n - k)) := by
      rw [Nat.pow_mul]
    rw [hbase]
    by_cases hle : 4 * (n - k) ≤ v.dscale
    · rw [Nat.sub_eq_zero_of_le hle, Nat.pow_zero, Nat.div_one]
      have hdigits : 10 ^ v.dscale = 10 ^ (v.dscale - 4 * (n - k)) * 10 ^ (4 * (n - k)) := by
        rw [← Nat.pow_add, Nat.sub_add_cancel hle]
      rw [hdigits, ← Nat.mul_assoc, Nat.mul_div_cancel _ (Nat.pow_pos (by decide))]
    · have hge : v.dscale ≤ 4 * (n - k) := by omega
      have hdigits : 10 ^ (4 * (n - k)) = 10 ^ (4 * (n - k) - v.dscale) * 10 ^ v.dscale := by
        rw [← Nat.pow_add, Nat.sub_add_cancel hge]
      rw [Nat.sub_eq_zero_of_le hge, Nat.pow_zero, Nat.mul_one, hdigits, Nat.mul_div_mul_right _ _ (Nat.pow_pos (by decide))]

/-! ## What is read -/

theorem documentedWire_eq {negative : Bool} (h : v.weightWord = if negative then 0x4000 else 0) :
    v.documentedWire = wireOf negative v.groups v.signWord v.dscale := by
  have hsign : ((v.signWord : Int) % 65536).toNat = v.signWord := by
    unfold Finite.signWord
    split_ifs <;> rfl
  unfold Finite.documentedWire wireOf
  rw [h, hsign]

theorem pgNumericToText_refused (h0 : v.weightWord ≠ 0) (h4 : v.weightWord ≠ 0x4000) :
    pgNumericToText v.documentedWire = none := by
  have hword : v.weightWord % 65536 = v.weightWord := by
    unfold Finite.weightWord
    omega
  have hwire : v.documentedWire = be16 v.groups.length ++ (be16 v.weightWord ++ (be16 v.signWord ++
      (be16 v.dscale ++ v.groups.flatMap be16))) := by
    simp only [Finite.documentedWire, List.append_assoc]
  have hlength : v.documentedWire.length = 8 + 2 * v.groups.length := by
    rw [hwire]
    simp only [List.length_append, length_be16]
    rw [length_flatMap_be16]
    omega
  have hcount : readBe16 v.documentedWire 0 = some (v.groups.length % 65536) := by
    rw [hwire, readBe16_zero]
  have hsigned : readBe16 v.documentedWire 2 = some v.weightWord := by
    rw [hwire, readBe16_skip, readBe16_zero, hword]
  have hweight : readBe16 v.documentedWire 4 = some (v.signWord % 65536) := by
    rw [hwire, readBe16_skip, readBe16_skip, readBe16_zero]
  have hscale : readBe16 v.documentedWire 6 = some (v.dscale % 65536) := by
    rw [hwire, readBe16_skip, readBe16_skip, readBe16_skip, readBe16_zero]
  have hfew := v.few
  unfold pgNumericToText
  rw [if_neg (by omega)]
  simp only [hcount, hsigned, hweight, hscale, Option.bind_eq_bind, Option.bind_some]
  rw [if_neg (by omega), if_pos ⟨h4, h0⟩]

theorem pgNumericToText_documented {negative : Bool} (h : v.weightWord = if negative then 0x4000 else 0) :
    pgNumericToText v.documentedWire = some (
      if v.groups = [] then '0' :: (if v.dscale > 0 then '.' :: List.replicate v.dscale '0' else [])
      else withSign negative (bodyText v.groups (intGroups v.signWord) v.dscale)) := by
  have hcount : v.groups.length % 65536 = v.groups.length := by
    have := v.few
    omega
  rw [documentedWire_eq h, toText_wire negative _ _ v.small, hcount, Nat.mod_eq_of_lt v.dscale_lt, List.take_length]
  congr 1
  exact if_congr List.length_eq_zero_iff rfl rfl

theorem renders_zero (h : v.groups = []) :
    Renders v ('0' :: (if v.dscale > 0 then '.' :: List.replicate v.dscale '0' else [])) := by
  have hpositive : v.negative = false := by
    rw [← Bool.not_eq_true]
    intro hneg
    obtain ⟨g, hg, -⟩ := v.signed hneg
    rw [h] at hg
    cases hg
  have hmagnitude : v.magnitude = 0 := by
    unfold Finite.magnitude
    rw [h, ofGroups_nil, Nat.cast_zero, zero_mul]
  have hdigit : num ['0'] = 0 := num_zeros 1
  refine ⟨['0'], List.replicate v.dscale '0', ?_, List.cons_ne_nil _ _, rfl, zeros_all_isDigit _, List.length_replicate, ?_,
    ?_⟩
  · rw [hpositive]
    rfl
  · rw [hmagnitude, Nat.floor_zero, hdigit]
  · rw [hmagnitude, zero_mul, Nat.floor_zero, num_append, hdigit, num_zeros, Nat.zero_mul]

theorem negative_of_renders {negative : Bool} (h : Renders v (withSign negative (bodyText v.groups k v.dscale))) :
    v.negative = negative := by
  obtain ⟨i, f, htext, hne, hdigits, -⟩ := h
  obtain ⟨hbody, hint, -, -⟩ := intText_spec v.small k
  obtain ⟨c, i', rfl⟩ := List.exists_cons_of_ne_nil hne
  obtain ⟨d, t', ht'⟩ := List.exists_cons_of_ne_nil hbody
  have hc : c ≠ '-' := ne_of_isDigit (List.all_eq_true.mp hdigits c List.mem_cons_self) (by decide)
  have hd : d ≠ '-' := ne_of_isDigit (List.all_eq_true.mp hint d (ht' ▸ List.mem_cons_self)) (by decide)
  unfold bodyText at htext
  rw [ht'] at htext
  have hhead := congrArg List.head? htext
  cases negative with
  | false =>
    by_contra hneg
    rw [Bool.not_eq_false] at hneg
    rw [hneg] at hhead
    exact absurd (Option.some.inj hhead) hd
  | true =>
    by_contra hneg
    rw [Bool.not_eq_true] at hneg
    rw [hneg] at hhead
    exact absurd (Option.some.inj hhead).symm hc

/-! ## The result -/

theorem weight_eq_of_word {w : Nat} (h : v.weightWord = w) (hw : w < 32768) : v.weight = w := by
  have hge := v.weight_ge
  have hlt := v.weight_lt
  unfold Finite.weightWord at h
  omega

/-- **`NUMERIC` values as the server sends them** are read exactly iff weight and sign are the same word, or it is a zero
    of weight 16384. -/
theorem renders_iff_aligned (v : Finite) :
    (∃ text, pgNumericToText v.documentedWire = some text ∧ Renders v text) ↔ v.Aligned := by
  have hread : ∀ negative : Bool, v.weightWord = (if negative then 0x4000 else 0) →
      ((∃ text, pgNumericToText v.documentedWire = some text ∧ Renders v text) ↔
        v.groups = [] ∨ v.negative = negative) := by
    intro negative hword
    rw [pgNumericToText_documented hword]
    by_cases hnil : v.groups = []
    · rw [if_pos hnil]
      exact ⟨fun _ => .inl hnil, fun _ => ⟨_, rfl, renders_zero hnil⟩⟩
    · rw [if_neg hnil]
      constructor
      · rintro ⟨text, htext, hrenders⟩
        obtain rfl := Option.some.inj htext
        exact .inr (negative_of_renders hrenders)
      · rintro (h | rfl)
        · exact absurd h hnil
        · -- the weight and the sign are one word, so the point stands where the weight says
          have hsame : v.signWord = v.weightWord := hword.symm
          have hweight : v.weight + 1 = (intGroups v.signWord : Nat) := by
            rw [hsame]
            cases hneg : v.negative <;> rw [hneg] at hword
            · rw [weight_eq_of_word hword (by decide), hword]
              rfl
            · rw [weight_eq_of_word hword (by decide), hword]
              rfl
          exact ⟨_, rfl, renders_bodyText hweight⟩
  by_cases h0 : v.weightWord = 0
  · rw [hread false h0]
    unfold Finite.Aligned Finite.signWord
    rw [h0, weight_eq_of_word h0 (by decide)]
    have hzero : v.groups = [] → v.negative = false := by
      intro hnil
      rw [← Bool.not_eq_true]
      intro hneg
      obtain ⟨g, hg, -⟩ := v.signed hneg
      rw [hnil] at hg
      cases hg
    cases hneg : v.negative
    · simp
    · rw [hneg] at hzero
      simpa using hzero
  · by_cases h4 : v.weightWord = 0x4000
    · rw [hread true h4]
      unfold Finite.Aligned Finite.signWord
      rw [h4, weight_eq_of_word h4 (by decide)]
      cases hneg : v.negative <;> simp
    · rw [pgNumericToText_refused h0 h4]
      constructor
      · rintro ⟨text, htext, -⟩
        cases htext
      · rintro (hsame | ⟨-, hweight⟩)
        · unfold Finite.signWord at hsame
          split_ifs at hsame
          · exact absurd hsame h4
          · exact absurd hsame h0
        · refine absurd ?_ h4
          unfold Finite.weightWord
          rw [hweight]
          rfl

/-- `12345.67`, which the server sends with weight 1. -/
def demoValue : Finite where
  groups := [1, 2345, 6700]
  weight := 1
  negative := false
  dscale := 2
  small := by decide
  few := by decide
  weight_ge := by decide
  weight_lt := by decide
  dscale_lt := by decide
  signed := nofun

theorem weight_taken_for_sign :
    ¬ ∀ v : Finite, ∃ text, pgNumericToText v.documentedWire = some text ∧ Renders v text := by
  intro h
  obtain ⟨text, htext, -⟩ := h demoValue
  have hnone : pgNumericToText demoValue.documentedWire = none := by decide
  rw [hnone] at htext
  cases htext

end DataNexus.NumericLayout
