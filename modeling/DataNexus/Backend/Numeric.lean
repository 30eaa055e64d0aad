/-
  `NUMERIC` values on the wire (`PgNumericValue::to_wire` and `pg_numeric_to_text` of `backend/postgresql.rs`).

  A literal is cut into groups of four digits around its point; zero is written without any.

  * `toWire_eq` — the groups of a literal and the weight that is written for them;
  * `toText_wire` — what is read back from a list of groups under a weight;
  * `numeric_round_trip_iff` — a literal comes back unchanged iff it is not zero, has at most three fraction digits,
    and its integer part has at most 131072 digits.
-/
import DataNexus.Lib.Digits
import DataNexus.Lib.Text

namespace DataNexus.Numeric

open DataNexus.Digits DataNexus.Text

/-! ## Writing -/

/-- `to_be_bytes` of the low sixteen bits. -/
def be16 (n : Nat) : List UInt8 := [(n / 256).toUInt8, n.toUInt8]

def splitOnce (sep : Char) : List Char → Option (List Char × List Char)
  | [] => none
  | c :: s => if c = sep then some ([], s) else (splitOnce sep s).map fun p => (c :: p.1, p.2)

/-- `chunks(4)`. -/
def chunks4 : List Char → List (List Char)
  | a :: b :: c :: d :: rest => [a, b, c, d] :: chunks4 rest
  | [] => []
  | rest => [rest]

def padding (n : Nat) : Nat := (4 - n % 4) % 4

/-- The value of a chunk: `parse::<u16>().unwrap_or(0)`. -/
def groupOf (chunk : List Char) : Nat := (parseUnsigned 65535 chunk).getD 0

def toWire (value : List Char) : Option (List UInt8) :=
  let raw := trim value
  let negative := startsWith ['-'] raw
  let unsigned := trimStartMatches (fun c => c == '-' || c == '+') raw
  let (intPart, fracPart) := (splitOnce '.' unsigned).getD (unsigned, [])
  if intPart.isEmpty && fracPart.isEmpty then none
  else if !intPart.all Char.isDigit || !fracPart.all Char.isDigit then none
  else
    let dscale := fracPart.length
    -- pad the fraction so the decimal point lands on a group boundary
    let all := intPart ++ fracPart ++ List.replicate (padding fracPart.length) '0'
    let significant := trimStartMatches (· == '0') all
    if significant.isEmpty then some []
    else
      let aligned := List.replicate (padding significant.length) '0' ++ significant
      let pointFromRight := padding fracPart.length
      let groups := (chunks4 aligned).map groupOf
      let weight : Int := (aligned.length / 4 : Nat) - 1 - (if pointFromRight > 0 then 1 else 0)
      some (be16 groups.length ++ be16 (if negative then 0x4000 else 0) ++ be16 (weight % 65536).toNat ++
        be16 dscale ++ groups.flatMap be16)

/-! ## Reading -/

/-- The closure `be16`: two bytes at an offset. -/
def readBe16 (buf : List UInt8) (offset : Nat) : Option Nat :=
  match buf.drop offset with
  | a :: b :: _ => some (a.toNat * 256 + b.toNat)
  | _ => none

/-- `i16::from_be_bytes`. -/
def signed16 (n : Nat) : Int := if n < 32768 then n else n - 65536

/-- `{:04}`. -/
def format04 (n : Nat) : List Char :=
  let digits := Nat.toDigits 10 n
  List.replicate (4 - digits.length) '0' ++ digits

/-- One turn of the loop over the integer groups. -/
def intGroup (digits : List Nat) (index : Nat) : List Char :=
  match digits[index]? with
  | some group => if index = 0 then Nat.toDigits 10 group else format04 group
  | none => ['0', '0', '0', '0']

/-- The integer part; it is `0` if nothing was written. -/
def intText (digits : List Nat) (intGroups : Nat) : List Char :=
  match (List.range intGroups).flatMap (intGroup digits) with
  | [] => ['0']
  | text => text

/-- The fraction, padded and truncated to the scale. -/
def fracText (digits : List Nat) (intGroups scale : Nat) : List Char :=
  let text := (digits.drop intGroups).flatMap format04
  (text ++ List.replicate (scale - text.length) '0').take scale

def pgNumericToText (buf : List UInt8) : Option (List Char) :=
  if buf.length < 8 then none
  else do
    let ndigits ← readBe16 buf 0
    let weight := signed16 (← readBe16 buf 4)
    let sign ← readBe16 buf 2
    let scale ← readBe16 buf 6
    if buf.length < 8 + ndigits * 2 then none
    else if sign ≠ 0x4000 ∧ sign ≠ 0 then none
    else
      let digits ← (List.range ndigits).mapM fun index => readBe16 buf (8 + index * 2)
      if digits.isEmpty then
        return '0' :: (if scale > 0 then '.' :: List.replicate scale '0' else [])
      else
        let intGroups := if weight ≥ 0 then (weight + 1).toNat else 0
        let text := intText digits intGroups ++
          (if scale > 0 then '.' :: fracText digits intGroups scale else [])
        return if sign = 0x4000 then '-' :: text else text

/-! ## Decimal literals -/

/-- A decimal: its digits as one number, and how many of them stand behind the point. -/
structure Decimal where
  mantissa : Int
  scale : Nat
  deriving DecidableEq

def splitSign : List Char → Bool × List Char
  | '-' :: s => (true, s)
  | '+' :: s => (false, s)
  | s => (false, s)

/-- A literal: an optional sign, digits, an optional point with the fraction. -/
def readDecimal (s : List Char) : Option Decimal :=
  let (negative, body) := splitSign s
  let (i, f) := (splitOnce '.' body).getD (body, [])
  if i ++ f ≠ [] ∧ (i ++ f).all Char.isDigit then
    some ⟨if negative then -(num (i ++ f)) else num (i ++ f), f.length⟩
  else none

/-- The rational number that a decimal denotes. -/
def Decimal.toRat (d : Decimal) : Rat := d.mantissa / 10 ^ d.scale

/-- The literal comes back as the same number with as many fraction digits. -/
def RoundTrips (s : List Char) : Prop :=
  ∃ wire text d d', toWire s = some wire ∧ pgNumericToText wire = some text ∧ readDecimal s = some d ∧
    readDecimal text = some d' ∧ d'.toRat = d.toRat ∧ d'.scale = d.scale

structure Decimal.Fits (d : Decimal) : Prop where
  nonzero : d.mantissa ≠ 0
  short : d.scale ≤ 3
  bounded : d.mantissa.natAbs < 10 ^ (4 * 32768 + d.scale)

/-! ## Characters of a literal -/

variable {s i f : List Char} {c : Char} {n k m : Nat}

theorem trim_eq_self (h : ∀ c ∈ s, isWhitespace c = false) : trim s = s := by
  have hdrop : ∀ t : List Char, (∀ c ∈ t, isWhitespace c = false) → t.dropWhile isWhitespace = t := by
    intro t ht
    cases t with
    | nil => rfl
    | cons c t => exact List.dropWhile_cons_of_neg (by simp [ht c List.mem_cons_self])
  unfold trim trimEnd trimStart
  rw [hdrop s h, hdrop s.reverse fun c hc => h c (List.mem_reverse.mp hc), List.reverse_reverse]

theorem isWhitespace_of_isDigit (h : c.isDigit = true) : isWhitespace c = false := by
  have hbound : 48 ≤ c.toNat ∧ c.toNat ≤ 57 := by
    simp only [Char.isDigit, Bool.and_eq_true, decide_eq_true_eq] at h
    exact ⟨h.1, h.2⟩
  obtain ⟨hge, hle⟩ := hbound
  simp only [isWhitespace, Bool.or_eq_false_iff, Bool.and_eq_false_iff, decide_eq_false_iff_not, beq_eq_false_iff_ne]
  omega

theorem ne_of_isDigit {d : Char} (h : c.isDigit = true) (hd : d.isDigit = false) : c ≠ d := by
  rintro rfl
  rw [h] at hd
  cases hd

theorem splitOnce_cons (sep c : Char) (s : List Char) : splitOnce sep (c :: s) =
    if c = sep then some ([], s) else (splitOnce sep s).map fun p => (c :: p.1, p.2) :=
  rfl

theorem splitOnce_digits (h : s.all Char.isDigit = true) : splitOnce '.' s = none := by
  induction s with
  | nil => rfl
  | cons c s ih =>
    rw [List.all_cons, Bool.and_eq_true] at h
    rw [splitOnce_cons, if_neg (ne_of_isDigit h.1 (by decide)), ih h.2]
    rfl

theorem splitOnce_append (h : i.all Char.isDigit = true) : splitOnce '.' (i ++ '.' :: f) = some (i, f) := by
  induction i with
  | nil => exact if_pos rfl
  | cons c i ih =>
    rw [List.all_cons, Bool.and_eq_true] at h
    rw [List.cons_append, splitOnce_cons, if_neg (ne_of_isDigit h.1 (by decide)), ih h.2]
    rfl

theorem eq_of_splitOnce (h : splitOnce '.' s = some (i, f)) : s = i ++ '.' :: f := by
  induction s generalizing i f with
  | nil => cases h
  | cons c s ih =>
    rw [splitOnce_cons] at h
    split_ifs at h with hc
    · cases h
      rw [hc]
      rfl
    · obtain ⟨⟨i', f'⟩, hp, heq⟩ := Option.map_eq_some_iff.mp h
      cases heq
      rw [ih hp]
      rfl

structure Parts (body i f : List Char) : Prop where
  split : (splitOnce '.' body).getD (body, []) = (i, f)
  nonempty : i ++ f ≠ []
  digits : (i ++ f).all Char.isDigit = true

namespace Parts

variable {body i f : List Char}

theorem intDigits (h : Parts body i f) : i.all Char.isDigit = true := by
  have := h.digits
  rw [List.all_append, Bool.and_eq_true] at this
  exact this.1

theorem fracDigits (h : Parts body i f) : f.all Char.isDigit = true := by
  have := h.digits
  rw [List.all_append, Bool.and_eq_true] at this
  exact this.2

theorem chars (h : Parts body i f) : ∀ c ∈ body, c.isDigit = true ∨ c = '.' := by
  intro c hc
  cases hs : splitOnce '.' body with
  | none =>
    have hsplit := h.split
    rw [hs] at hsplit
    have hi : body = i := congrArg Prod.fst hsplit
    exact .inl (List.all_eq_true.mp h.intDigits c (hi ▸ hc))
  | some p =>
    have hsplit := h.split
    rw [hs] at hsplit
    obtain rfl : p = (i, f) := hsplit
    rw [eq_of_splitOnce hs] at hc
    rcases List.mem_append.mp hc with hc | hc
    · exact .inl (List.all_eq_true.mp h.intDigits c hc)
    · rcases List.mem_cons.mp hc with rfl | hc
      · exact .inr rfl
      · exact .inl (List.all_eq_true.mp h.fracDigits c hc)

end Parts

theorem readDecimal_eq_some {d : Decimal} :
    readDecimal s = some d ↔ ∃ i f, Parts (splitSign s).2 i f ∧
      d = ⟨if (splitSign s).1 then -(num (i ++ f)) else num (i ++ f), f.length⟩ := by
  unfold readDecimal
  obtain ⟨negative, body⟩ := splitSign s
  cases hp : (splitOnce '.' body).getD (body, []) with
  | mk i f =>
    simp only [hp]
    constructor
    · intro h
      by_cases hc : i ++ f ≠ [] ∧ (i ++ f).all Char.isDigit = true
      · rw [if_pos hc] at h
        exact ⟨i, f, ⟨hp, hc.1, hc.2⟩, (Option.some.inj h).symm⟩
      · rw [if_neg hc] at h
        cases h
    · rintro ⟨i', f', hparts, rfl⟩
      have hsplit := hparts.split
      rw [hp] at hsplit
      cases hsplit
      rw [if_pos ⟨hparts.nonempty, hparts.digits⟩]

/-! ## Groups of a literal -/

theorem groupOf_eq {chunk : List Char} (h : chunk.all Char.isDigit = true) (hne : chunk ≠ [])
    (hlen : chunk.length ≤ 4) : groupOf chunk = num chunk := by
  have hsign : ∀ rest, chunk ≠ '+' :: rest := by
    rintro rest rfl
    cases h
  have hval : digitsValue chunk = some (num chunk) := by
    unfold digitsValue
    rw [if_neg]
    · rfl
    · simp [h, hne]
  have hlt : num chunk ≤ 65535 := by
    have hnum := num_lt h
    have hpow : 10 ^ chunk.length ≤ 10 ^ 4 := Nat.pow_le_pow_right (by decide) hlen
    omega
  unfold groupOf parseUnsigned
  dsimp only
  split
  · rename_i rest
    exact absurd rfl (hsign rest)
  · rw [hval]
    simp [Option.filter, hlt]

theorem chunks4_spec {cs : List Char} (n : Nat) (hlen : cs.length = 4 * n) (h : cs.all Char.isDigit = true) :
    ((chunks4 cs).map groupOf).length = n ∧ ofGroups ((chunks4 cs).map groupOf) = num cs ∧
      ∀ g ∈ (chunks4 cs).map groupOf, g < 10000 := by
  induction n generalizing cs with
  | zero =>
    obtain rfl := List.length_eq_zero_iff.mp hlen
    exact ⟨rfl, rfl, nofun⟩
  | succ n ih =>
    match cs, hlen, h with
    | a :: b :: c :: d :: rest, hlen, h =>
      have hrest : rest.length = 4 * n := by
        simp only [List.length_cons] at hlen
        omega
      have hall : [a, b, c, d].all Char.isDigit = true ∧ rest.all Char.isDigit = true := by
        rw [← Bool.and_eq_true, ← List.all_append]
        exact h
      obtain ⟨hlength, hvalue, hsmall⟩ := ih hrest hall.2
      have hgroup : groupOf [a, b, c, d] = num [a, b, c, d] := groupOf_eq hall.1 (by simp) (by simp)
      have hlt : num [a, b, c, d] < 10 ^ 4 := num_lt hall.1
      refine ⟨?_, ?_, ?_⟩
      · exact congrArg (· + 1) hlength
      · have hcut := ofGroups_take_drop (groupOf [a, b, c, d] :: (chunks4 rest).map groupOf) 1
        have hnum := num_append [a, b, c, d] rest
        rw [List.take_one, List.drop_one, List.tail_cons, List.head?_cons, hlength, hvalue, hgroup] at hcut
        rw [chunks4, List.map_cons, hgroup, hcut, show a :: b :: c :: d :: rest = [a, b, c, d] ++ rest from rfl, hnum,
          hrest, Nat.pow_mul]
        simp [ofGroups]
      · rw [chunks4, List.map_cons]
        intro g hg
        rcases List.mem_cons.mp hg with rfl | hg
        · rw [hgroup]
          omega
        · exact hsmall g hg

theorem padding_spec (n : Nat) : padding n < 4 ∧ ∃ k, n + padding n = 4 * k ∧ (k = 0 ↔ n = 0) ∧
    (0 < padding n ↔ n % 4 ≠ 0) := by
  unfold padding
  exact ⟨by omega, (n + (4 - n % 4) % 4) / 4, by omega, by omega, by omega⟩

def wireOf (negative : Bool) (groups : List Nat) (weight : Int) (scale : Nat) : List UInt8 :=
  be16 groups.length ++ be16 (if negative then 0x4000 else 0) ++ be16 (weight % 65536).toNat ++ be16 scale ++
    groups.flatMap be16

def fracGroups (scale : Nat) : Nat := (scale + padding scale) / 4

theorem sign_spec (h : Parts (splitSign s).2 i f) :
    trim s = s ∧ startsWith ['-'] s = (splitSign s).1 ∧
      trimStartMatches (fun c => c == '-' || c == '+') s = (splitSign s).2 := by
  have hbody : ∀ body : List Char, (∀ c ∈ body, c.isDigit = true ∨ c = '.') →
      (∀ c ∈ body, isWhitespace c = false) ∧ startsWith ['-'] body = false ∧
        body.dropWhile (fun c => c == '-' || c == '+') = body := by
    intro body hchars
    have hne : ∀ c ∈ body, c ≠ '-' ∧ c ≠ '+' := by
      intro c hc
      rcases hchars c hc with hd | rfl
      · exact ⟨ne_of_isDigit hd (by decide), ne_of_isDigit hd (by decide)⟩
      · decide
    refine ⟨fun c hc => ?_, ?_, ?_⟩
    · rcases hchars c hc with hd | rfl
      · exact isWhitespace_of_isDigit hd
      · decide
    · cases body with
      | nil => rfl
      | cons c body =>
        have hdash : ('-' == c) = false := beq_false_of_ne (Ne.symm (hne c List.mem_cons_self).1)
        rw [startsWith, List.isPrefixOf, hdash]
        rfl
    · cases body with
      | nil => rfl
      | cons c body =>
        exact List.dropWhile_cons_of_neg (by simp [hne c List.mem_cons_self])
  have hchars := h.chars
  unfold splitSign at hchars ⊢
  split at hchars
  · rename_i rest
    obtain ⟨hspace, -, hdrop⟩ := hbody rest hchars
    refine ⟨trim_eq_self ?_, rfl, ?_⟩
    · exact List.forall_mem_cons.mpr ⟨by decide, hspace⟩
    · exact (List.dropWhile_cons_of_pos (by rfl)).trans hdrop
  · rename_i rest
    obtain ⟨hspace, -, hdrop⟩ := hbody rest hchars
    refine ⟨trim_eq_self ?_, rfl, ?_⟩
    · exact List.forall_mem_cons.mpr ⟨by decide, hspace⟩
    · exact (List.dropWhile_cons_of_pos (by rfl)).trans hdrop
  · obtain ⟨hspace, hstart, hdrop⟩ := hbody s hchars
    exact ⟨trim_eq_self hspace, hstart, hdrop⟩

/-- **What is written of a literal**: nothing if it is zero; else its groups under a weight that counts one group for the
    fraction if its length is no multiple of four. -/
theorem toWire_eq (h : Parts (splitSign s).2 i f) :
    (num (i ++ f) = 0 → toWire s = some []) ∧ (num (i ++ f) ≠ 0 → ∃ groups : List Nat,
      toWire s = some (wireOf (splitSign s).1 groups
        ((groups.length : Int) - 1 - if padding f.length > 0 then 1 else 0) f.length) ∧
      ofGroups groups = num (i ++ f) * 10 ^ padding f.length ∧ (∀ g ∈ groups, g < 10000) ∧
      10000 ^ (groups.length - 1) ≤ ofGroups groups ∧ 0 < groups.length) := by
  obtain ⟨htrim, hstart, hunsigned⟩ := sign_spec h
  let all := i ++ f ++ List.replicate (padding f.length) '0'
  have hall : all.all Char.isDigit = true := by
    have hzeros : (List.replicate (padding f.length) '0').all Char.isDigit = true := by
      rw [List.all_eq_true]
      intro c hc
      rw [List.eq_of_mem_replicate hc]
      rfl
    rw [List.all_append, h.digits, hzeros]
    rfl
  have hnum : num all = num (i ++ f) * 10 ^ padding f.length := by
    rw [num_append, num_zeros, List.length_replicate, Nat.add_zero]
  let significant := trimStartMatches (· == '0') all
  let aligned := List.replicate (padding significant.length) '0' ++ significant
  -- the writer up to the test for zero
  have hwire : toWire s = if significant.isEmpty then some [] else
      some (wireOf (splitSign s).1 ((chunks4 aligned).map groupOf)
        ((aligned.length / 4 : Nat) - 1 - if padding f.length > 0 then 1 else 0) f.length) := by
    have hne : (i.isEmpty && f.isEmpty) = false := by
      have := h.nonempty
      rw [Bool.eq_false_iff]
      intro hempty
      rw [Bool.and_eq_true, List.isEmpty_iff, List.isEmpty_iff] at hempty
      exact this (by rw [hempty.1, hempty.2]; rfl)
    unfold toWire
    simp only [htrim, hstart, hunsigned, h.split, hne, h.intDigits, h.fracDigits, Bool.not_true, Bool.or_self,
      Bool.false_eq_true, if_false]
    rfl
  have hsignificant : significant = [] ↔ num all = 0 := dropZeros_eq_nil hall
  constructor
  · intro hzero
    rw [hwire, hsignificant.mpr (by rw [hnum, hzero, Nat.zero_mul])]
    rfl
  · intro hnonzero
    have hnonnil : significant ≠ [] := by
      intro hnil
      have := hsignificant.mp hnil
      rw [hnum] at this
      exact hnonzero ((Nat.mul_eq_zero.mp this).resolve_right (by simp))
    obtain ⟨c, rest, hcons⟩ := List.exists_cons_of_ne_nil hnonnil
    obtain ⟨hpad, n, hlen, hn, -⟩ := padding_spec significant.length
    have hsigDigits : significant.all Char.isDigit = true :=
      List.all_eq_true.mpr fun c hc => List.all_eq_true.mp hall c (List.dropWhile_subset _ hc)
    have hlength : aligned.length = 4 * n := by
      rw [List.length_append, List.length_replicate]
      omega
    have haligned : aligned.all Char.isDigit = true := by
      rw [List.all_append, hsigDigits, Bool.and_true, List.all_eq_true]
      intro c hc
      rw [List.eq_of_mem_replicate hc]
      rfl
    have hvalue : num aligned = num all := by
      rw [num_append, num_zeros, Nat.zero_mul, Nat.zero_add]
      exact num_dropZeros all
    obtain ⟨hcount, hgroups, hsmall⟩ := chunks4_spec n hlength haligned
    refine ⟨(chunks4 aligned).map groupOf, ?_, ?_, hsmall, ?_, ?_⟩
    · rw [hwire, if_neg (by simpa using hnonnil), hcount, hlength, Nat.mul_div_cancel_left n (by decide)]
    · rw [hgroups, hvalue, hnum]
    · have hc : c.isDigit = true ∧ c ≠ '0' := by
        refine ⟨List.all_eq_true.mp hsigDigits c (hcons ▸ List.mem_cons_self), ?_⟩
        have hhead := List.head?_dropWhile_not (· == '0') all
        rw [show all.dropWhile (· == '0') = c :: rest from hcons] at hhead
        simpa using hhead
      have hle : 10 ^ rest.length ≤ num (c :: rest) := le_num_cons hc.1 hc.2
      rw [← hcons, show num significant = num all from num_dropZeros all] at hle
      rw [hcount, hgroups, hvalue, show (10000 : Nat) = 10 ^ 4 from by norm_num, ← Nat.pow_mul]
      refine le_trans (Nat.pow_le_pow_right (by decide) ?_) hle
      have hsig : significant.length = rest.length + 1 := by rw [hcons, List.length_cons]
      omega
    · rw [hcount]
      have hpos : significant.length ≠ 0 := by simpa using hnonnil
      omega

/-! ## Reading back -/

theorem length_be16 (n : Nat) : (be16 n).length = 2 := rfl

theorem readBe16_zero (n : Nat) (rest : List UInt8) : readBe16 (be16 n ++ rest) 0 = some (n % 65536) := by
  have hhigh : (n / 256).toUInt8.toNat = n / 256 % 256 := by simp
  have hlow : n.toUInt8.toNat = n % 256 := by simp
  show some ((n / 256).toUInt8.toNat * 256 + n.toUInt8.toNat) = some (n % 65536)
  rw [hhigh, hlow]
  congr 1
  omega

theorem readBe16_skip (n : Nat) (rest : List UInt8) (offset : Nat) :
    readBe16 (be16 n ++ rest) (offset + 2) = readBe16 rest offset := rfl

theorem readBe16_groups {groups : List Nat} (h : ∀ g ∈ groups, g < 65536) {index : Nat} (hi : index < groups.length) :
    readBe16 (groups.flatMap be16) (index * 2) = some (groups[index]) := by
  induction groups generalizing index with
  | nil => cases hi
  | cons g gs ih =>
    rw [List.flatMap_cons]
    cases index with
    | zero =>
      rw [Nat.zero_mul, readBe16_zero, Nat.mod_eq_of_lt (h g List.mem_cons_self)]
      rfl
    | succ index =>
      rw [Nat.succ_mul, readBe16_skip, ih (fun g' hg' => h g' (List.mem_cons_of_mem _ hg')) (Nat.lt_of_succ_lt_succ hi)]
      rfl

theorem length_flatMap_be16 (groups : List Nat) : (groups.flatMap be16).length = 2 * groups.length := by
  induction groups with
  | nil => rfl
  | cons g gs ih =>
    rw [List.flatMap_cons, List.length_append, ih, length_be16, List.length_cons]
    omega

theorem mapM_range_eq_take {α : Type*} {f : Nat → Option α} {as : List α}
    (h : ∀ i (hi : i < as.length), f i = some as[i]) (hn : n ≤ as.length) :
    (List.range n).mapM f = some (as.take n) := by
  induction n with
  | zero => rfl
  | succ n ih =>
    rw [List.range_succ, List.mapM_append, ih (Nat.le_of_succ_le hn), List.take_add_one, List.getElem?_eq_getElem hn]
    simp [h n hn]

/-- The groups that the integer part takes under a weight written in sixteen bits. -/
def intGroups (weight : Int) : Nat :=
  if signed16 (weight % 65536).toNat ≥ 0 then (signed16 (weight % 65536).toNat + 1).toNat else 0

def bodyText (digits : List Nat) (intGroups scale : Nat) : List Char :=
  intText digits intGroups ++ (if scale > 0 then '.' :: fracText digits intGroups scale else [])

def withSign (negative : Bool) (body : List Char) : List Char := if negative then '-' :: body else body

/-- **What is read back**: `0` and the scale if the sixteen bit count is zero, else the groups, cut by the weight. -/
theorem toText_wire (negative : Bool) {groups : List Nat} (weight : Int) (scale : Nat) (h : ∀ g ∈ groups, g < 10000) :
    pgNumericToText (wireOf negative groups weight scale) = some (
      if groups.length % 65536 = 0 then
        '0' :: (if scale % 65536 > 0 then '.' :: List.replicate (scale % 65536) '0' else [])
      else withSign negative (bodyText (groups.take (groups.length % 65536)) (intGroups weight) (scale % 65536))) := by
  let sign := if negative then 0x4000 else 0
  have hsign : sign % 65536 = sign ∧ (sign = 0x4000 ∨ sign = 0) ∧ (sign = 0x4000 ↔ negative = true) := by
    cases negative <;> decide
  let groupBytes := groups.flatMap be16
  have hwire : wireOf negative groups weight scale =
      be16 groups.length ++ (be16 sign ++ (be16 (weight % 65536).toNat ++ (be16 scale ++ groupBytes))) := by
    simp only [wireOf, List.append_assoc]
    rfl
  have hlength : (wireOf negative groups weight scale).length = 8 + 2 * groups.length := by
    rw [hwire]
    simp only [List.length_append, length_be16]
    rw [length_flatMap_be16]
    omega
  have hcount : readBe16 (wireOf negative groups weight scale) 0 = some (groups.length % 65536) := by
    rw [hwire, readBe16_zero]
  have hsigned : readBe16 (wireOf negative groups weight scale) 2 = some sign := by
    rw [hwire, readBe16_skip, readBe16_zero, hsign.1]
  have hweight : readBe16 (wireOf negative groups weight scale) 4 = some (weight % 65536).toNat := by
    rw [hwire, readBe16_skip, readBe16_skip, readBe16_zero]
    congr 1
    omega
  have hscale : readBe16 (wireOf negative groups weight scale) 6 = some (scale % 65536) := by
    rw [hwire, readBe16_skip, readBe16_skip, readBe16_skip, readBe16_zero]
  have hgroups : ∀ i (hi : i < groups.length),
      readBe16 (wireOf negative groups weight scale) (8 + i * 2) = some groups[i] := by
    intro i hi
    rw [hwire, Nat.add_comm, readBe16_skip, readBe16_skip, readBe16_skip, readBe16_skip]
    exact readBe16_groups (fun g hg => lt_trans (h g hg) (by decide)) hi
  have hmod : groups.length % 65536 ≤ groups.length := Nat.mod_le _ _
  have hdigits := mapM_range_eq_take hgroups hmod
  unfold pgNumericToText
  rw [if_neg (by omega)]
  simp only [hcount, hsigned, hweight, hscale, Option.bind_eq_bind, Option.bind_some]
  rw [if_neg (by omega), if_neg (by omega), hdigits]
  simp only [Option.bind_some]
  by_cases hzero : groups.length % 65536 = 0
  · rw [if_pos hzero, hzero]
    rfl
  · have hnonempty : (groups.take (groups.length % 65536)).isEmpty = false := by
      rw [List.isEmpty_eq_false_iff]
      intro hnil
      have := congrArg List.length hnil
      rw [List.length_take, List.length_nil] at this
      omega
    rw [if_neg hzero, hnonempty]
    unfold withSign
    cases negative <;> rfl

/-! ## What the text denotes -/

theorem toDigits_spec (n : Nat) : (Nat.toDigits 10 n).all Char.isDigit = true ∧ num (Nat.toDigits 10 n) = n :=
  ⟨List.all_eq_true.mpr fun c hc => Nat.isDigit_of_mem_toDigits (by decide) (by decide) hc,
    Nat.ofDigitChars_ten_toDigits⟩

theorem zeros_all_isDigit (n : Nat) : (List.replicate n '0').all Char.isDigit = true := by
  rw [List.all_eq_true]
  intro c hc
  rw [List.eq_of_mem_replicate hc]
  rfl

theorem format04_spec {g : Nat} (h : g < 10000) :
    (format04 g).all Char.isDigit = true ∧ (format04 g).length = 4 ∧ num (format04 g) = g := by
  obtain ⟨hdigits, hnum⟩ := toDigits_spec g
  have hlen : (Nat.toDigits 10 g).length ≤ 4 := (Nat.length_toDigits_le_iff (by decide) (by decide)).mpr h
  unfold format04
  refine ⟨?_, ?_, ?_⟩
  · rw [List.all_append, zeros_all_isDigit, hdigits]
    rfl
  · rw [List.length_append, List.length_replicate]
    omega
  · rw [num_append, num_zeros, hnum]
    omega

theorem intGroup_spec {digits : List Nat} (h : ∀ g ∈ digits, g < 10000) (index : Nat) :
    (intGroup digits index).all Char.isDigit = true ∧ (index ≠ 0 → (intGroup digits index).length = 4) ∧
      num (intGroup digits index) < 10000 ∧
      (∀ hi : index < digits.length, num (intGroup digits index) = digits[index]) := by
  unfold intGroup
  cases hg : digits[index]? with
  | none =>
    have hzero : num ['0', '0', '0', '0'] = 0 := num_zeros 4
    refine ⟨rfl, fun _ => rfl, lt_of_eq_of_lt hzero (by decide), fun hi => ?_⟩
    rw [List.getElem?_eq_getElem hi] at hg
    cases hg
  | some g =>
    have hsmall := h g (List.mem_of_getElem? hg)
    obtain ⟨hdigits, hnum⟩ := toDigits_spec g
    obtain ⟨hdigits4, hlen4, hnum4⟩ := format04_spec hsmall
    have hat : ∀ hi : index < digits.length, g = digits[index] := fun hi =>
      (Option.some.inj ((List.getElem?_eq_getElem hi).symm.trans hg)).symm
    by_cases h0 : index = 0
    · simp only [h0, if_true]
      exact ⟨hdigits, fun hne => absurd rfl hne, lt_of_eq_of_lt hnum hsmall, fun hi => hnum.trans (by subst h0; exact hat hi)⟩
    · simp only [h0, if_false]
      exact ⟨hdigits4, fun _ => hlen4, lt_of_eq_of_lt hnum4 hsmall, fun hi => hnum4.trans (hat hi)⟩

/-- The loop writes digits: at most the value that the groups allow, and theirs as long as there are that many. -/
theorem intLoop_spec {digits : List Nat} (h : ∀ g ∈ digits, g < 10000) (k : Nat) :
    ((List.range k).flatMap (intGroup digits)).all Char.isDigit = true ∧
      num ((List.range k).flatMap (intGroup digits)) < 10000 ^ k ∧
      (k ≤ digits.length → num ((List.range k).flatMap (intGroup digits)) = ofGroups (digits.take k)) := by
  induction k with
  | zero => exact ⟨rfl, by simp, fun _ => rfl⟩
  | succ k ih =>
    obtain ⟨hall, hlt, hval⟩ := ih
    rw [List.range_succ, List.flatMap_append, List.flatMap_singleton]
    obtain ⟨hturn, hlen, hsmall, hat⟩ := intGroup_spec h k
    have heq : num ((List.range k).flatMap (intGroup digits) ++ intGroup digits k) =
        num ((List.range k).flatMap (intGroup digits)) * 10 ^ 4 + num (intGroup digits k) := by
      rw [num_append]
      by_cases hk : k = 0
      · subst hk
        simp
      · rw [hlen hk]
    refine ⟨?_, ?_, ?_⟩
    · rw [List.all_append, hall, hturn]
      rfl
    · rw [heq, Nat.pow_succ]
      omega
    · intro hk
      rw [heq, hval (Nat.le_of_succ_le hk), List.take_add_one, List.getElem?_eq_getElem hk, Option.toList_some,
        ofGroups_append, hat hk]
      omega

theorem intText_spec {digits : List Nat} (h : ∀ g ∈ digits, g < 10000) (k : Nat) :
    intText digits k ≠ [] ∧ (intText digits k).all Char.isDigit = true ∧ num (intText digits k) < 10000 ^ k ∧
      (k ≤ digits.length → num (intText digits k) = ofGroups (digits.take k)) := by
  obtain ⟨hall, hlt, hval⟩ := intLoop_spec h k
  unfold intText
  split
  · rename_i hnil
    rw [hnil] at hlt hval
    exact ⟨List.cons_ne_nil _ _, rfl, hlt, hval⟩
  · rename_i hne
    exact ⟨hne, hall, hlt, hval⟩

theorem fracText_spec {digits : List Nat} (h : ∀ g ∈ digits, g < 10000) (k scale : Nat) :
    (fracText digits k scale).all Char.isDigit = true ∧ (fracText digits k scale).length = scale ∧
      num (fracText digits k scale) = ofGroups (digits.drop k) * 10 ^ (scale - 4 * (digits.length - k)) /
          10 ^ (4 * (digits.length - k) - scale) := by
  have hdrop : ∀ g ∈ digits.drop k, (format04 g).length = 4 ∧ num (format04 g) = g := fun g hg =>
    (format04_spec (h g (List.mem_of_mem_drop hg))).2
  obtain ⟨hnum, hlen⟩ := num_flatMap hdrop
  rw [List.length_drop] at hlen
  let padded := (digits.drop k).flatMap format04 ++
    List.replicate (scale - ((digits.drop k).flatMap format04).length) '0'
  have hall : padded.all Char.isDigit = true := by
    rw [List.all_append, zeros_all_isDigit, Bool.and_true, List.all_eq_true]
    intro c hc
    obtain ⟨g, hg, hcg⟩ := List.mem_flatMap.mp hc
    exact List.all_eq_true.mp (format04_spec (h g (List.mem_of_mem_drop hg))).1 c hcg
  have hlength : padded.length = max (4 * (digits.length - k)) scale := by
    rw [List.length_append, List.length_replicate, hlen]
    omega
  refine ⟨?_, ?_, ?_⟩
  · exact List.all_eq_true.mpr fun c hc => List.all_eq_true.mp hall c (List.mem_of_mem_take hc)
  · show (padded.take scale).length = scale
    rw [List.length_take, hlength]
    omega
  · show num (padded.take scale) = _
    rw [num_take hall, hlength, num_append, num_zeros, hnum, hlen, List.length_replicate, Nat.add_zero]
    congr 2
    omega

theorem readDecimal_withSign {negative : Bool} (hi : i.all Char.isDigit = true) (hne : i ≠ [])
    (hf : f.all Char.isDigit = true) :
    readDecimal (withSign negative (i ++ (if f.length > 0 then '.' :: f else []))) =
      some ⟨if negative then -(num (i ++ f)) else num (i ++ f), f.length⟩ := by
  let body := i ++ (if f.length > 0 then '.' :: f else [])
  have hsplit : (splitOnce '.' body).getD (body, []) = (i, f) := by
    by_cases hlen : f.length > 0
    · show (splitOnce '.' (i ++ _)).getD _ = _
      rw [if_pos hlen, splitOnce_append hi]
      rfl
    · have hnil : f = [] := List.length_eq_zero_iff.mp (by omega)
      have hbody : body = i := by
        show i ++ _ = i
        rw [if_neg hlen, List.append_nil]
      rw [hbody, splitOnce_digits hi, hnil]
      rfl
  have hparts : Parts body i f := ⟨hsplit, by simp [hne], by rw [List.all_append, hi, hf]; rfl⟩
  have hsign : splitSign (withSign negative body) = (negative, body) := by
    cases negative with
    | true => rfl
    | false =>
      obtain ⟨c, rest, rfl⟩ := List.exists_cons_of_ne_nil hne
      have hc : c.isDigit = true := List.all_eq_true.mp hi c List.mem_cons_self
      show splitSign (c :: (rest ++ _)) = (false, c :: (rest ++ _))
      unfold splitSign
      split
      · rename_i heq
        exact absurd (List.cons.inj heq).1 (ne_of_isDigit hc (by decide))
      · rename_i heq
        exact absurd (List.cons.inj heq).1 (ne_of_isDigit hc (by decide))
      · rfl
  refine readDecimal_eq_some.mpr ⟨i, f, ?_, ?_⟩
  · rw [hsign]
    exact hparts
  · rw [hsign]

/-! ## What comes back -/

theorem intGroups_le (weight : Int) : intGroups weight ≤ 32768 := by
  unfold intGroups signed16
  split_ifs <;> omega

theorem intGroups_of_le (h : k ≤ 32768) : intGroups ((k : Int) - 1) = k := by
  unfold intGroups signed16
  split_ifs <;> omega

theorem intGroups_of_wrap (hlo : 32768 < k) (hhi : k ≤ 65536) : intGroups ((k : Int) - 1) = 0 := by
  unfold intGroups signed16
  split_ifs <;> omega

def valueOf (digits : List Nat) (k scale : Nat) : Nat :=
  num (intText digits k) * 10 ^ scale + num (fracText digits k scale)

theorem readDecimal_bodyText {negative : Bool} {digits : List Nat} (h : ∀ g ∈ digits, g < 10000) (k scale : Nat) :
    readDecimal (withSign negative (bodyText digits k scale)) =
      some ⟨if negative then -(valueOf digits k scale) else valueOf digits k scale, scale⟩ := by
  obtain ⟨hne, hint, -, -⟩ := intText_spec h k
  obtain ⟨hfrac, hlen, -⟩ := fracText_spec h k scale
  have hread := (readDecimal_withSign hint hne hfrac : readDecimal (withSign negative _) = _)
  rw [num_append, hlen] at hread
  exact hread

theorem valueOf_lt {digits : List Nat} (h : ∀ g ∈ digits, g < 10000) (k scale : Nat) :
    valueOf digits k scale < 10 ^ (4 * k + scale) := by
  obtain ⟨-, -, hint, -⟩ := intText_spec h k
  obtain ⟨hdigits, hlen, -⟩ := fracText_spec h k scale
  have hfrac := num_lt hdigits
  rw [hlen] at hfrac
  have hpow : 10 ^ (4 * k + scale) = 10000 ^ k * 10 ^ scale := by
    rw [Nat.pow_add, Nat.pow_mul]
  have hmul : (num (intText digits k) + 1) * 10 ^ scale ≤ 10000 ^ k * 10 ^ scale := Nat.mul_le_mul_right _ hint
  rw [Nat.add_mul, Nat.one_mul] at hmul
  unfold valueOf
  omega

/-- The groups cut behind the first `k` of them: what the text denotes, if no digit other than zero is cut off. -/
theorem valueOf_mul {digits : List Nat} (h : ∀ g ∈ digits, g < 10000) {scale b : Nat}
    (hk : k + b = digits.length) (hdvd : 10 ^ (4 * b - scale) ∣ ofGroups digits) :
    valueOf digits k scale * 10 ^ (4 * b) = ofGroups digits * 10 ^ scale := by
  obtain ⟨-, -, -, hint⟩ := intText_spec h k
  obtain ⟨-, -, hfrac⟩ := fracText_spec h k scale
  have hcut := ofGroups_take_drop digits k
  have hb : digits.length - k = b := by omega
  have hbase : 10000 ^ b = 10 ^ (4 * b) := by
    rw [Nat.pow_mul]
  rw [List.length_drop, hb, hbase] at hcut
  rw [hb] at hfrac
  -- the fraction loses nothing
  have hrest : 10 ^ (4 * b - scale) ∣ ofGroups (digits.drop k) := by
    have hfirst : 10 ^ (4 * b - scale) ∣ ofGroups (digits.take k) * 10 ^ (4 * b) :=
      Dvd.dvd.mul_left (Nat.pow_dvd_pow 10 (Nat.sub_le _ _)) _
    rw [hcut] at hdvd
    exact (Nat.dvd_add_right hfirst).mp hdvd
  have hscaled : num (fracText digits k scale) * 10 ^ (4 * b) = ofGroups (digits.drop k) * 10 ^ scale := by
    rw [hfrac]
    by_cases hle : 4 * b ≤ scale
    · rw [Nat.sub_eq_zero_of_le hle, Nat.pow_zero, Nat.div_one, Nat.mul_assoc, ← Nat.pow_add, Nat.sub_add_cancel hle]
    · have hsum : 10 ^ (4 * b) = 10 ^ (4 * b - scale) * 10 ^ scale := by
        rw [← Nat.pow_add, Nat.sub_add_cancel (by omega)]
      rw [Nat.sub_eq_zero_of_le (show scale ≤ 4 * b by omega), Nat.pow_zero, Nat.mul_one, hsum, ← Nat.mul_assoc,
        Nat.div_mul_cancel hrest]
  rw [valueOf, Nat.add_mul, hscaled, hint (by omega), hcut]
  ring

/-- The numbers of a literal that is written: its digits, their groups, and how the fraction is padded. -/
structure Written (m f : Nat) (groups : List Nat) : Prop where
  nonzero : m ≠ 0
  value : ofGroups groups = m * 10 ^ padding f
  small : ∀ g ∈ groups, g < 10000
  leading : 10000 ^ (groups.length - 1) ≤ ofGroups groups
  nonempty : 0 < groups.length

/-- Whether the weight counts a group for the fraction. -/
def counted (f : Nat) : Nat := if padding f > 0 then 1 else 0

namespace Written

variable {m f : Nat} {groups : List Nat}

theorem padded (f : Nat) : f + padding f = 4 * fracGroups f := by
  obtain ⟨-, k, hk, -⟩ := padding_spec f
  rw [fracGroups, hk, Nat.mul_div_cancel_left k (by decide)]

theorem length_le (h : Written m f groups) (hbound : m < 10 ^ (4 * 32768 + f)) :
    groups.length ≤ 32768 + fracGroups f := by
  have hlt : 10 ^ (4 * (groups.length - 1)) < 10 ^ (4 * (32768 + fracGroups f)) := by
    calc 10 ^ (4 * (groups.length - 1)) = 10000 ^ (groups.length - 1) := by rw [Nat.pow_mul]
      _ ≤ m * 10 ^ padding f := h.value ▸ h.leading
      _ < 10 ^ (4 * 32768 + f) * 10 ^ padding f := Nat.mul_lt_mul_of_pos_right hbound (Nat.pos_of_ne_zero (by simp))
      _ = 10 ^ (4 * (32768 + fracGroups f)) := by rw [← Nat.pow_add, Nat.add_assoc, padded, Nat.mul_add]
  have := (Nat.pow_lt_pow_iff_right (by decide)).mp hlt
  omega

/-- As long as the weight fits, the value is multiplied by 10000 for every group of the fraction that the weight does
    not count. -/
theorem value_of_fits (h : Written m f groups) (hb : counted f ≤ fracGroups f) {k : Nat}
    (hk : k + counted f = groups.length) : valueOf groups k f = m * 10 ^ (4 * (fracGroups f - counted f)) := by
  have hdvd : 10 ^ (4 * counted f - f) ∣ ofGroups groups := by
    rw [h.value]
    refine Dvd.dvd.mul_left (Nat.pow_dvd_pow 10 ?_) _
    have := padded f
    omega
  have hmul := valueOf_mul h.small hk hdvd
  have hpow : m * 10 ^ padding f * 10 ^ f = m * 10 ^ (4 * (fracGroups f - counted f)) * 10 ^ (4 * counted f) := by
    rw [Nat.mul_assoc, Nat.mul_assoc, ← Nat.pow_add, ← Nat.pow_add, Nat.add_comm, padded, ← Nat.mul_add,
      Nat.sub_add_cancel hb]
  rw [h.value, hpow] at hmul
  exact Nat.eq_of_mul_eq_mul_right (Nat.pos_of_ne_zero (by simp)) hmul

/-- **The value that comes back** is the one that was written iff the fraction is short and the literal bounded. -/
theorem value_iff (h : Written m f groups) :
    (groups.length % 65536 ≠ 0 ∧ f % 65536 = f ∧ valueOf (groups.take (groups.length % 65536))
      (intGroups ((groups.length : Int) - 1 - counted f)) f = m) ↔ f ≤ 3 ∧ m < 10 ^ (4 * 32768 + f) := by
  have hpad := padded f
  have hcounted : counted f ≤ fracGroups f ∧ (f ≤ 3 → fracGroups f = counted f) ∧
      (4 ≤ f → counted f < fracGroups f) := by
    obtain ⟨hlt, -⟩ := padding_spec f
    unfold counted
    split_ifs <;> omega
  obtain ⟨hpad4, -⟩ := padding_spec f
  have hpos := h.nonempty
  have hone : counted f ≤ 1 := by
    unfold counted
    split_ifs <;> omega
  have hweight : ∀ k : Nat, k + counted f = groups.length → (groups.length : Int) - 1 - counted f = (k : Int) - 1 := by
    intro k hk
    omega
  obtain ⟨k, hk⟩ : ∃ k, k + counted f = groups.length := ⟨groups.length - counted f, by omega⟩
  rw [hweight k hk]
  constructor
  · rintro ⟨hcount, hscale, hvalue⟩
    have hsmall : ∀ g ∈ groups.take (groups.length % 65536), g < 10000 := fun g hg =>
      h.small g (List.mem_of_mem_take hg)
    have hlt := valueOf_lt hsmall (intGroups ((k : Int) - 1)) f
    rw [hvalue] at hlt
    have hbound : m < 10 ^ (4 * 32768 + f) :=
      lt_of_lt_of_le hlt (Nat.pow_le_pow_right (by decide) (by have := intGroups_le ((k : Int) - 1); omega))
    refine ⟨?_, hbound⟩
    by_contra hlong
    have hfew := h.length_le hbound
    have hf : f < 65536 := hscale ▸ Nat.mod_lt f (by decide)
    by_cases hfits : k ≤ 32768
    · -- the point has moved to the right
      rw [Nat.mod_eq_of_lt (by omega), List.take_length, intGroups_of_le hfits, h.value_of_fits hcounted.1 hk] at hvalue
      have hmore : 1 < 10 ^ (4 * (fracGroups f - counted f)) := Nat.one_lt_pow (by omega) (by decide)
      have hgrown := Nat.mul_lt_mul_of_pos_left hmore (Nat.pos_of_ne_zero h.nonzero)
      omega
    · -- the weight is read as a negative number, and the integer part is gone
      rw [intGroups_of_wrap (by omega) (by omega), Nat.mul_zero, Nat.zero_add] at hlt
      have hlarge : 10 ^ (4 * (groups.length - 1)) < 10 ^ (4 * fracGroups f) := by
        calc 10 ^ (4 * (groups.length - 1)) = 10000 ^ (groups.length - 1) := by rw [Nat.pow_mul]
          _ ≤ m * 10 ^ padding f := h.value ▸ h.leading
          _ < 10 ^ f * 10 ^ padding f := Nat.mul_lt_mul_of_pos_right hlt (Nat.pos_of_ne_zero (by simp))
          _ = 10 ^ (4 * fracGroups f) := by rw [← Nat.pow_add, padded]
      have := (Nat.pow_lt_pow_iff_right (by decide)).mp hlarge
      omega
  · rintro ⟨hshort, hbound⟩
    have hfew := h.length_le hbound
    have hexact := hcounted.2.1 hshort
    have hcount : groups.length % 65536 = groups.length := Nat.mod_eq_of_lt (by omega)
    refine ⟨by omega, Nat.mod_eq_of_lt (by omega), ?_⟩
    rw [hcount, List.take_length, intGroups_of_le (by omega), h.value_of_fits hcounted.1 hk, hexact, Nat.sub_self]
    simp

end Written

theorem toRat_inj {a b : Decimal} (h : a.scale = b.scale) : a.toRat = b.toRat ↔ a.mantissa = b.mantissa := by
  unfold Decimal.toRat
  rw [h]
  have hne : (10 : Rat) ^ b.scale ≠ 0 := pow_ne_zero _ (by norm_num)
  rw [div_left_inj' hne, Int.cast_inj]

theorem signed_inj {negative : Bool} :
    (if negative = true then -(m : Int) else m) = (if negative = true then -(n : Int) else n) ↔ m = n := by
  cases negative
  · simp
  · simp

theorem roundTrips_iff_of_written {negative : Bool} {f : Nat} {groups : List Nat}
    (hread : readDecimal s = some ⟨if negative then -m else m, f⟩) (h : Written m f groups)
    (hwire : toWire s = some (wireOf negative groups ((groups.length : Int) - 1 - counted f) f)) :
    RoundTrips s ↔ groups.length % 65536 ≠ 0 ∧ f % 65536 = f ∧ valueOf (groups.take (groups.length % 65536))
      (intGroups ((groups.length : Int) - 1 - counted f)) f = m := by
  have htext := toText_wire negative ((groups.length : Int) - 1 - counted f) f h.small
  have hsmall : ∀ g ∈ groups.take (groups.length % 65536), g < 10000 := fun g hg => h.small g (List.mem_of_mem_take hg)
  constructor
  · rintro ⟨wire, text, d, d', hw, ht, hd, hd', hrat, hscale⟩
    obtain rfl := Option.some.inj (hw.symm.trans hwire)
    obtain rfl := Option.some.inj (hd.symm.trans hread)
    rw [toRat_inj hscale] at hrat
    rw [htext] at ht
    have hcount : groups.length % 65536 ≠ 0 := by
      intro hzero
      rw [if_pos hzero] at ht
      obtain rfl := Option.some.inj ht
      -- only zeros are read
      have hzeros : readDecimal (withSign false (['0'] ++ (if (List.replicate (f % 65536) '0').length > 0 then
          '.' :: List.replicate (f % 65536) '0' else []))) = _ :=
        readDecimal_withSign rfl (List.cons_ne_nil _ _) (zeros_all_isDigit _)
      have hdigit : num ['0'] = 0 := num_zeros 1
      rw [List.length_replicate, num_append, num_zeros, hdigit, Nat.zero_mul] at hzeros
      obtain rfl := Option.some.inj (hd'.symm.trans hzeros)
      have hm : (0 : Int) = if negative = true then -(m : Int) else m := by simpa using hrat
      have hne := h.nonzero
      split_ifs at hm <;> omega
    rw [if_neg hcount] at ht
    obtain rfl := Option.some.inj ht
    rw [readDecimal_bodyText hsmall] at hd'
    obtain rfl := Option.some.inj hd'
    have hf : f % 65536 = f := hscale
    rw [hf] at hrat
    exact ⟨hcount, hf, signed_inj.mp hrat⟩
  · rintro ⟨hcount, hf, hvalue⟩
    rw [if_neg hcount] at htext
    refine ⟨_, _, _, _, hwire, htext, hread, readDecimal_bodyText hsmall _ _, ?_, hf⟩
    rw [hf, hvalue]

/-- **The round trip**: a literal comes back iff it is not zero, has at most three fraction digits, and its integer part
    is below 10000 to the 32768th. -/
theorem numeric_round_trip_iff {s : List Char} {d : Decimal} (h : readDecimal s = some d) : RoundTrips s ↔ d.Fits := by
  obtain ⟨i, f, hparts, rfl⟩ := readDecimal_eq_some.mp h
  obtain ⟨hzero, hwritten⟩ := toWire_eq hparts
  by_cases hm : num (i ++ f) = 0
  · constructor
    · rintro ⟨wire, text, d, d', hw, ht, -⟩
      obtain rfl := Option.some.inj (hw.symm.trans (hzero hm))
      cases ht
    · intro hfits
      refine absurd ?_ hfits.nonzero
      simp [hm]
  · obtain ⟨groups, hwire, hvalue, hsmall, hleading, hpos⟩ := hwritten hm
    have hw : Written (num (i ++ f)) f.length groups := ⟨hm, hvalue, hsmall, hleading, hpos⟩
    have hcast : (if padding f.length > 0 then 1 else 0 : Int) = counted f.length := by
      unfold counted
      split_ifs <;> rfl
    rw [hcast] at hwire
    rw [roundTrips_iff_of_written h hw hwire, hw.value_iff]
    have habs : (if (splitSign s).1 = true then -(num (i ++ f) : Int) else num (i ++ f)).natAbs = num (i ++ f) := by
      split_ifs <;> omega
    constructor
    · rintro ⟨hshort, hbound⟩
      refine ⟨fun h0 => hm ?_, hshort, habs.symm ▸ hbound⟩
      rw [← habs]
      exact Int.natAbs_eq_zero.mpr h0
    · rintro ⟨-, hshort, hbound⟩
      exact ⟨hshort, habs ▸ hbound⟩

theorem round_trip_one_fraction_digit : RoundTrips ['1', '2', '.', '5'] ↔ (⟨125, 1⟩ : Decimal).Fits :=
  numeric_round_trip_iff (by decide)

/-- Zero is written as no bytes at all, and a fraction of four digits is read as a whole number. -/
theorem zero_and_four_digits_lost : toWire ['0'] = some [] ∧ pgNumericToText [] = none ∧
      (toWire ['1', '.', '2', '3', '4', '5']).bind pgNumericToText =
        some ['1', '2', '3', '4', '5', '.', '0', '0', '0', '0'] ∧
      readDecimal ['0'] = some ⟨0, 0⟩ ∧ ¬ RoundTrips ['0'] := by
  refine ⟨by decide, by decide, by decide, by decide, ?_⟩
  rintro ⟨wire, text, d, d', hw, ht, -⟩
  have hempty : toWire ['0'] = some [] := by decide
  obtain rfl := Option.some.inj (hw.symm.trans hempty)
  cases ht

end DataNexus.Numeric
