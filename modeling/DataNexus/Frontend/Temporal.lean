/-
  Dates and times in the binary protocol: what the frontend writes for a text (`frontend/mysql.rs`), and the text that
  the backend reads from it (`backend/mysql.rs`).

  1. **Program** — `parseMysqlDate`, `parseMysqlDatetime`, `parseMysqlTime` and the three encoders; the three
     `decodeMysqlBinary…Text`.

  2. **Specification** — `momentOf`: the date or time that a text denotes, with its fraction of a second in full.

  3. **The crux** — `encode_spec`: the text read back denotes what the code parsed, with the six digits of the fraction
     that it kept.  A fraction keeps its value if it has at most six, not counting zeros at its end (`counted_eq_iff`).
-/
import Mathlib.Data.List.DropRight
import DataNexus.Lib.Text
import DataNexus.Lib.LittleEndian
import DataNexus.Backend.Numeric

namespace DataNexus.Temporal

open DataNexus.Text DataNexus.Digits DataNexus.LittleEndian
open DataNexus.Numeric (splitOnce toDigits_spec zeros_all_isDigit isWhitespace_of_isDigit ne_of_isDigit)

/-! ## Writing -/

structure Date where
  year : Nat
  month : Nat
  day : Nat
deriving DecidableEq

structure Clock where
  hour : Nat
  minute : Nat
  second : Nat
deriving DecidableEq

def parseMysqlDate (s : List Char) : Option Date :=
  match splitOn '-' (trim s) with
  | [y, m, d] => do
    let year ← parseUnsigned 65535 y
    let month ← parseUnsigned 255 m
    let day ← parseUnsigned 255 d
    return ⟨year, month, day⟩
  | _ => none

/-- The three numbers of `parse_hms_micro`. -/
def parseHms (s : List Char) : Option Clock :=
  match splitOn ':' s with
  | [h, m, sec] => do
    let hour ← parseUnsigned 255 h
    let minute ← parseUnsigned 255 m
    let second ← parseUnsigned 255 sec
    return ⟨hour, minute, second⟩
  | _ => none

/-- The fraction of `parse_hms_micro`: what is no digit is skipped, then six digits are made. -/
def microDigits (fraction : List Char) : List Char :=
  let frac := fraction.filter Char.isDigit
  (frac ++ List.replicate (6 - frac.length) '0').take 6

/-- The text before the point, and the fraction if there is a point. -/
def cutFraction (s : List Char) : List Char × List Char :=
  match splitOnce '.' s with
  | some (main, fraction) => (main, fraction)
  | none => (s, [])

/-- The microseconds of `parse_hms_micro`. -/
def parseMicro (s : List Char) : Option Nat :=
  match splitOnce '.' s with
  | some (_, fraction) => parseUnsigned 4294967295 (microDigits fraction)
  | none => some 0

def parseHmsMicro (s : List Char) : Option (Clock × Nat) := do
  let micro ← parseMicro s
  let clock ← parseHms (cutFraction s).1
  return (clock, micro)

/-- The date and the time of day of a text: `replace('T', " ")`, and cut at the blank. -/
def cutDatetime (s : List Char) : Option (List Char × List Char) :=
  splitOnce ' ' ((trim s).map fun c => if c = 'T' then ' ' else c)

def parseMysqlDatetime (s : List Char) : Option (Date × Clock × Nat) := do
  let (date, time) ← cutDatetime s
  let date ← parseMysqlDate date
  let (clock, micro) ← parseHmsMicro time
  return (date, clock, micro)

def cutDays (s : List Char) : Option (Nat × List Char) :=
  match splitOnce ' ' s with
  | some (days, hms) => (parseUnsigned 4294967295 days).map (·, hms)
  | none => some (0, s)

/-- The sign of a time, its days, and the time of day. -/
def cutTime (s : List Char) : Option (Bool × Nat × List Char) :=
  match trim s with
  | '-' :: rest => (cutDays (trim rest)).map (true, ·)
  | rest => (cutDays rest).map (false, ·)

def parseMysqlTime (s : List Char) : Option (Bool × Nat × Clock × Nat) := do
  let (negative, days, hms) ← cutTime s
  let (clock, micro) ← parseHmsMicro hms
  return (negative, days, clock, micro)

def Date.bytes (d : Date) : List UInt8 := le 2 d.year ++ [UInt8.ofNat d.month, UInt8.ofNat d.day]

def Clock.bytes (c : Clock) : List UInt8 := [UInt8.ofNat c.hour, UInt8.ofNat c.minute, UInt8.ofNat c.second]

def microBytes (micro : Nat) : List UInt8 := if micro = 0 then [] else le 4 micro

def framed (payload : List UInt8) : List UInt8 := UInt8.ofNat payload.length :: payload

def encodeMysqlBinaryDate (s : List Char) : Except String (List UInt8) :=
  match parseMysqlDate s with
  | some date => .ok (framed date.bytes)
  | none => .error ("invalid mysql DATE value '" ++ String.ofList s ++ "'")

def encodeMysqlBinaryDatetime (s : List Char) : Except String (List UInt8) :=
  match parseMysqlDatetime s with
  | some (date, clock, micro) => .ok (framed (date.bytes ++ clock.bytes ++ microBytes micro))
  | none => .error ("invalid mysql DATETIME value '" ++ String.ofList s ++ "'")

def encodeMysqlBinaryTime (s : List Char) : Except String (List UInt8) :=
  match parseMysqlTime s with
  | some (negative, days, clock, micro) =>
    .ok (framed ((if negative then 1 else 0) :: (le 4 days ++ clock.bytes ++ microBytes micro)))
  | none => .error ("invalid mysql TIME value '" ++ String.ofList s ++ "'")

/-! ## Reading -/

/-- A number with at least so many digits: `{n:02}`. -/
def padded (width n : Nat) : List Char := List.replicate (width - (Nat.toDigits 10 n).length) '0' ++ Nat.toDigits 10 n

def Date.text (d : Date) : List Char := padded 4 d.year ++ '-' :: (padded 2 d.month ++ '-' :: padded 2 d.day)

def Clock.text (c : Clock) : List Char := padded 2 c.hour ++ ':' :: (padded 2 c.minute ++ ':' :: padded 2 c.second)

def decodeMysqlBinaryDateText : List UInt8 → Except String (List Char)
  | [] => .ok "0000-00-00".toList
  | y0 :: y1 :: m :: d :: _ => .ok (Date.text ⟨ofLe [y0, y1], m.toNat, d.toNat⟩)
  | payload => .error ("mysql binary DATE payload len " ++ toString payload.length ++ " (need 0 or ≥4)")

def decodeMysqlBinaryDatetimeText : List UInt8 → Except String (List Char)
  | [] => .ok "0000-00-00 00:00:00".toList
  | [y0, y1, m, d] => .ok (Date.text ⟨ofLe [y0, y1], m.toNat, d.toNat⟩ ++ " 00:00:00".toList)
  | [y0, y1, mo, d, h, mi, sec] =>
    .ok (Date.text ⟨ofLe [y0, y1], mo.toNat, d.toNat⟩ ++ ' ' :: Clock.text ⟨h.toNat, mi.toNat, sec.toNat⟩)
  | y0 :: y1 :: mo :: d :: h :: mi :: sec :: u0 :: u1 :: u2 :: u3 :: _ =>
    .ok (Date.text ⟨ofLe [y0, y1], mo.toNat, d.toNat⟩ ++
      ' ' :: (Clock.text ⟨h.toNat, mi.toNat, sec.toNat⟩ ++ '.' :: padded 6 (ofLe [u0, u1, u2, u3])))
  | payload =>
    if payload.length < 7 then
      .error ("mysql binary DATETIME payload len " ++ toString payload.length ++ " (need 0/4/7/11)")
    else .error ("mysql binary DATETIME micros truncated (len " ++ toString payload.length ++ ")")

def timeText (negative : Bool) (days : Nat) (clock : Clock) (micro : Nat) : List Char :=
  let hms := clock.text ++ if micro = 0 then [] else '.' :: padded 6 micro
  let rest := if days > 0 then Nat.toDigits 10 days ++ ' ' :: hms else hms
  if negative then '-' :: rest else rest

def decodeMysqlBinaryTimeText : List UInt8 → Except String (List Char)
  | [] => .ok "00:00:00".toList
  | [neg, d0, d1, d2, d3, h, m, sec] =>
    .ok (timeText (neg != 0) (ofLe [d0, d1, d2, d3]) ⟨h.toNat, m.toNat, sec.toNat⟩ 0)
  | neg :: d0 :: d1 :: d2 :: d3 :: h :: m :: sec :: u0 :: u1 :: u2 :: u3 :: _ =>
    .ok (timeText (neg != 0) (ofLe [d0, d1, d2, d3]) ⟨h.toNat, m.toNat, sec.toNat⟩ (ofLe [u0, u1, u2, u3]))
  | payload =>
    if payload.length < 8 then
      .error ("mysql binary TIME payload len " ++ toString payload.length ++ " (need 0/8/12)")
    else .error ("mysql binary TIME unexpected len " ++ toString payload.length)

/-! ## What a text denotes -/

inductive Kind where
  | date
  | datetime
  | time
deriving DecidableEq

/-- A date or a time; the fraction of a second are its digits up to the last one that is not zero. -/
inductive Moment where
  | date (d : Date)
  | datetime (d : Date) (clock : Clock) (fraction : List Char)
  | time (negative : Bool) (days : Nat) (clock : Clock) (fraction : List Char)
deriving DecidableEq

def Moment.fraction : Moment → List Char
  | .date _ => []
  | .datetime _ _ fraction => fraction
  | .time _ _ _ fraction => fraction

def exactFraction (fraction : List Char) : Option (List Char) :=
  if fraction.all Char.isDigit then some (fraction.rdropWhile (· == '0')) else none

def exactHms (s : List Char) : Option (Clock × List Char) := do
  let clock ← parseHms (cutFraction s).1
  let fraction ← exactFraction (cutFraction s).2
  return (clock, fraction)

def momentOf (s : List Char) : Kind → Option Moment
  | .date => (parseMysqlDate s).map .date
  | .datetime => do
    let (date, time) ← cutDatetime s
    let date ← parseMysqlDate date
    let (clock, fraction) ← exactHms time
    return .datetime date clock fraction
  | .time => do
    let (negative, days, hms) ← cutTime s
    let (clock, fraction) ← exactHms hms
    return .time negative days clock fraction

/-- `encode_mysql_binary_value` for a text in a column of dates or times. -/
def encode (s : List Char) : Kind → Except String (List UInt8)
  | .date => encodeMysqlBinaryDate s
  | .datetime => encodeMysqlBinaryDatetime s
  | .time => encodeMysqlBinaryTime s

/-- The text of a payload, as `decode_binary_result_value` chooses it. -/
def decode (payload : List UInt8) : Kind → Except String (List Char)
  | .date => decodeMysqlBinaryDateText payload
  | .datetime => decodeMysqlBinaryDatetimeText payload
  | .time => decodeMysqlBinaryTimeText payload

/-! ## Numbers and separators -/

theorem padded_spec (width n : Nat) :
    (padded width n).all Char.isDigit = true ∧ num (padded width n) = n ∧ padded width n ≠ [] := by
  obtain ⟨hdigits, hnum⟩ := toDigits_spec n
  refine ⟨?_, ?_, ?_⟩
  · rw [padded, List.all_append, zeros_all_isDigit, hdigits]
    rfl
  · rw [padded, num_append, num_zeros, hnum]
    omega
  · intro hnil
    exact Nat.toDigits_ne_nil (List.append_eq_nil_iff.mp hnil).2

variable {n micro : Nat} {s : List Char} {c sep : Char} {d : Date}

theorem length_padded {width : Nat} (h : n < 10 ^ width) (hw : 0 < width) : (padded width n).length = width := by
  have hlen : (Nat.toDigits 10 n).length ≤ width := (Nat.length_toDigits_le_iff (by decide) hw).mpr h
  rw [padded, List.length_append, List.length_replicate]
  omega

theorem parseUnsigned_digits {max : Nat} (h : s.all Char.isDigit = true) (hne : s ≠ []) (hmax : num s ≤ max) :
    parseUnsigned max s = some (num s) := by
  unfold parseUnsigned
  cases s with
  | nil => exact absurd rfl hne
  | cons c s =>
    have hplus : c ≠ '+' := by
      rw [List.all_cons, Bool.and_eq_true] at h
      exact ne_of_isDigit h.1 (by decide)
    have hdigits : digitsValue (c :: s) = some (num (c :: s)) := by
      unfold digitsValue
      rw [h]
      rfl
    split
    · rename_i rest hcons
      exact absurd (List.cons.inj hcons).1 hplus
    · dsimp only
      rw [hdigits, Option.filter_some, if_pos (by simpa using hmax)]

theorem parseUnsigned_padded {max : Nat} (width : Nat) (h : n ≤ max) :
    parseUnsigned max (padded width n) = some n := by
  obtain ⟨hdigits, hnum, hne⟩ := padded_spec width n
  rw [parseUnsigned_digits hdigits hne (by omega), hnum]

theorem parseUnsigned_le {max : Nat} (h : parseUnsigned max s = some n) : n ≤ max := by
  unfold parseUnsigned at h
  exact of_decide_eq_true (Option.filter_eq_some_iff.mp h).2

theorem notMem_of_digits (h : s.all Char.isDigit = true) (hc : c.isDigit = false) : c ∉ s := by
  intro hmem
  rw [List.all_eq_true.mp h c hmem] at hc
  cases hc

theorem splitOn_alone (h : sep ∉ s) : splitOn sep s = [s] := by
  induction s with
  | nil => rfl
  | cons c s ih =>
    rw [List.mem_cons, not_or] at h
    rw [splitOn, ih h.2]
    dsimp only
    rw [if_neg (Ne.symm h.1)]

theorem splitOn_append (h : sep ∉ s) (rest : List Char) : splitOn sep (s ++ sep :: rest) = s :: splitOn sep rest := by
  induction s with
  | nil =>
    rw [List.nil_append, splitOn]
    cases hrest : splitOn sep rest with
    | nil =>
      cases rest with
      | nil => cases hrest
      | cons c rest =>
        rw [splitOn] at hrest
        split at hrest
        · cases hrest
        · split at hrest
          · cases hrest
          · cases hrest
    | cons piece more => exact if_pos rfl
  | cons c s ih =>
    rw [List.mem_cons, not_or] at h
    rw [List.cons_append, splitOn, ih h.2]
    exact if_neg (Ne.symm h.1)

theorem splitOnce_alone (h : sep ∉ s) : splitOnce sep s = none := by
  induction s with
  | nil => rfl
  | cons c s ih =>
    rw [List.mem_cons, not_or] at h
    rw [splitOnce, if_neg (Ne.symm h.1), ih h.2]
    rfl

theorem splitOnce_append (h : sep ∉ s) (rest : List Char) : splitOnce sep (s ++ sep :: rest) = some (s, rest) := by
  induction s with
  | nil => exact if_pos rfl
  | cons c s ih =>
    rw [List.mem_cons, not_or] at h
    rw [List.cons_append, splitOnce, if_neg (Ne.symm h.1), ih h.2]
    rfl

theorem trim_of_ends (hfirst : ∀ c, s.head? = some c → isWhitespace c = false)
    (hlast : ∀ c, s.getLast? = some c → isWhitespace c = false) : trim s = s := by
  have hstart : trimStart s = s := by
    cases s with
    | nil => rfl
    | cons c s => exact List.dropWhile_cons_of_neg (Bool.eq_false_iff.mp (hfirst c rfl))
  have hend : trimEnd s = s := by
    rcases List.eq_nil_or_concat s with rfl | ⟨front, c, rfl⟩
    · rfl
    · rw [List.concat_eq_append] at hlast ⊢
      exact List.rdropWhile_concat_neg _ _ _ (Bool.eq_false_iff.mp (hlast c (by simp)))
  unfold trim
  rw [hstart, hend]

/-! ## Dates and times of day are read back -/

structure Date.Fits (d : Date) : Prop where
  year : d.year ≤ 65535
  month : d.month ≤ 255
  day : d.day ≤ 255

structure Clock.Fits (c : Clock) : Prop where
  hour : c.hour ≤ 255
  minute : c.minute ≤ 255
  second : c.second ≤ 255

theorem fits_of_parseMysqlDate (h : parseMysqlDate s = some d) : d.Fits := by
  unfold parseMysqlDate at h
  split at h
  · rename_i y m day hsplit
    obtain ⟨year, hyear, h⟩ := Option.bind_eq_some_iff.mp h
    obtain ⟨month, hmonth, h⟩ := Option.bind_eq_some_iff.mp h
    obtain ⟨day, hday, h⟩ := Option.bind_eq_some_iff.mp h
    obtain rfl := Option.some.inj h
    exact ⟨parseUnsigned_le hyear, parseUnsigned_le hmonth, parseUnsigned_le hday⟩
  · cases h

theorem fits_of_parseHms {c : Clock} (h : parseHms s = some c) : c.Fits := by
  unfold parseHms at h
  split at h
  · rename_i hr m sec hsplit
    obtain ⟨hour, hhour, h⟩ := Option.bind_eq_some_iff.mp h
    obtain ⟨minute, hminute, h⟩ := Option.bind_eq_some_iff.mp h
    obtain ⟨second, hsecond, h⟩ := Option.bind_eq_some_iff.mp h
    obtain rfl := Option.some.inj h
    exact ⟨parseUnsigned_le hhour, parseUnsigned_le hminute, parseUnsigned_le hsecond⟩
  · cases h

theorem Date.mem_text (h : c ∈ d.text) : c.isDigit = true ∨ c = '-' := by
  unfold Date.text at h
  simp only [List.mem_append, List.mem_cons] at h
  rcases h with h | h | h | h | h
  · exact .inl (List.all_eq_true.mp (padded_spec 4 d.year).1 c h)
  · exact .inr h
  · exact .inl (List.all_eq_true.mp (padded_spec 2 d.month).1 c h)
  · exact .inr h
  · exact .inl (List.all_eq_true.mp (padded_spec 2 d.day).1 c h)

theorem Clock.mem_text {clock : Clock} (h : c ∈ clock.text) : c.isDigit = true ∨ c = ':' := by
  unfold Clock.text at h
  simp only [List.mem_append, List.mem_cons] at h
  rcases h with h | h | h | h | h
  · exact .inl (List.all_eq_true.mp (padded_spec 2 clock.hour).1 c h)
  · exact .inr h
  · exact .inl (List.all_eq_true.mp (padded_spec 2 clock.minute).1 c h)
  · exact .inr h
  · exact .inl (List.all_eq_true.mp (padded_spec 2 clock.second).1 c h)

theorem isWhitespace_of_mem (sep : Char) (hsep : isWhitespace sep = false) (h : c.isDigit = true ∨ c = sep) :
    isWhitespace c = false := by
  rcases h with h | rfl
  · exact isWhitespace_of_isDigit h
  · exact hsep

theorem parseMysqlDate_text (h : d.Fits) : parseMysqlDate d.text = some d := by
  have htrim : trim d.text = d.text :=
    DataNexus.Numeric.trim_eq_self fun c hc => isWhitespace_of_mem '-' (by decide) (d.mem_text hc)
  have hsplit : splitOn '-' d.text = [padded 4 d.year, padded 2 d.month, padded 2 d.day] := by
    unfold Date.text
    rw [splitOn_append (notMem_of_digits (padded_spec 4 d.year).1 (by decide)),
      splitOn_append (notMem_of_digits (padded_spec 2 d.month).1 (by decide)),
      splitOn_alone (notMem_of_digits (padded_spec 2 d.day).1 (by decide))]
  unfold parseMysqlDate
  rw [htrim, hsplit]
  dsimp only
  rw [parseUnsigned_padded 4 h.year, parseUnsigned_padded 2 h.month, parseUnsigned_padded 2 h.day]
  rfl

theorem parseHms_text {clock : Clock} (h : clock.Fits) : parseHms clock.text = some clock := by
  have hsplit : splitOn ':' clock.text = [padded 2 clock.hour, padded 2 clock.minute, padded 2 clock.second] := by
    unfold Clock.text
    rw [splitOn_append (notMem_of_digits (padded_spec 2 clock.hour).1 (by decide)),
      splitOn_append (notMem_of_digits (padded_spec 2 clock.minute).1 (by decide)),
      splitOn_alone (notMem_of_digits (padded_spec 2 clock.second).1 (by decide))]
  unfold parseHms
  rw [hsplit]
  dsimp only
  rw [parseUnsigned_padded 2 h.hour, parseUnsigned_padded 2 h.minute, parseUnsigned_padded 2 h.second]
  rfl

/-! ## Fractions -/

/-- The digits that count in a number of microseconds. -/
def counted (micro : Nat) : List Char := (padded 6 micro).rdropWhile (· == '0')

theorem microDigits_spec (fraction : List Char) :
    (microDigits fraction).all Char.isDigit = true ∧ (microDigits fraction).length = 6 := by
  constructor
  · rw [List.all_eq_true]
    intro c hc
    rcases List.mem_append.mp (List.mem_of_mem_take hc) with hc | hc
    · exact (List.mem_filter.mp hc).2
    · rw [List.eq_of_mem_replicate hc]
      rfl
  · unfold microDigits
    dsimp only
    rw [List.length_take, List.length_append, List.length_replicate]
    omega

/-- The microseconds that the code takes from a fraction. -/
def microOf (fraction : List Char) : Nat := num (microDigits fraction)

theorem microOf_lt (fraction : List Char) : microOf fraction < 10 ^ 6 := by
  obtain ⟨hdigits, hlen⟩ := microDigits_spec fraction
  have hlt := num_lt hdigits
  rw [hlen] at hlt
  exact hlt

theorem padded_microOf (fraction : List Char) : padded 6 (microOf fraction) = microDigits fraction := by
  obtain ⟨hdigits, hlen⟩ := microDigits_spec fraction
  obtain ⟨hpdigits, hpnum, _⟩ := padded_spec 6 (microOf fraction)
  refine num_inj hpdigits hdigits ?_ hpnum
  rw [length_padded (microOf_lt fraction) (by decide), hlen]

theorem rdropWhile_zeros (n : Nat) : (s ++ List.replicate n '0').rdropWhile (· == '0') = s.rdropWhile (· == '0') := by
  induction n with
  | zero => rw [List.replicate_zero, List.append_nil]
  | succ n ih => rw [List.replicate_succ', ← List.append_assoc, List.rdropWhile_concat_pos _ _ _ rfl, ih]

theorem eq_append_zeros (s : List Char) : ∃ n, s = s.rdropWhile (· == '0') ++ List.replicate n '0' := by
  induction s using List.reverseRecOn with
  | nil => exact ⟨0, rfl⟩
  | append_singleton s c ih =>
    by_cases hc : (c == '0') = true
    · obtain ⟨n, hn⟩ := ih
      refine ⟨n + 1, ?_⟩
      rw [List.rdropWhile_concat_pos (· == '0') _ _ hc, List.replicate_succ', ← List.append_assoc, ← hn, eq_of_beq hc]
    · refine ⟨0, ?_⟩
      rw [List.rdropWhile_concat_neg (· == '0') _ _ hc, List.replicate_zero, List.append_nil]

/-- **Six digits of a fraction are kept**, not counting zeros at its end. -/
theorem counted_eq_iff {fraction : List Char} (h : fraction.all Char.isDigit = true) :
    fraction.rdropWhile (· == '0') = counted (microOf fraction) ↔ (fraction.rdropWhile (· == '0')).length ≤ 6 := by
  have hfilter : fraction.filter Char.isDigit = fraction := List.filter_eq_self.mpr (List.all_eq_true.mp h)
  unfold counted
  rw [padded_microOf]
  constructor
  · intro heq
    rw [heq]
    have hle := (List.rdropWhile_prefix (· == '0') (microDigits fraction)).length_le
    rw [(microDigits_spec fraction).2] at hle
    exact hle
  · intro hle
    obtain ⟨n, hn⟩ := eq_append_zeros fraction
    have hkept : ∃ k, microDigits fraction = fraction.rdropWhile (· == '0') ++ List.replicate k '0' := by
      unfold microDigits
      dsimp only
      rw [hfilter]
      generalize 6 - fraction.length = more
      generalize fraction.rdropWhile (· == '0') = front at *
      rw [hn, List.append_assoc, List.replicate_append_replicate, List.take_append, List.take_of_length_le hle,
        List.take_replicate]
      exact ⟨_, rfl⟩
    obtain ⟨k, hk⟩ := hkept
    rw [hk, rdropWhile_zeros, List.rdropWhile_idempotent]

theorem parseHmsMicro_eq_some {clock : Clock} :
    parseHmsMicro s = some (clock, micro) ↔ parseHms (cutFraction s).1 = some clock ∧ microOf (cutFraction s).2 = micro := by
  have hmicro : parseMicro s = some (microOf (cutFraction s).2) := by
    unfold parseMicro cutFraction
    cases hsplit : splitOnce '.' s with
    | none => rfl
    | some parts =>
      obtain ⟨main, fraction⟩ := parts
      have hlt := microOf_lt fraction
      have hne : microDigits fraction ≠ [] := by
        intro hnil
        have hlen := (microDigits_spec fraction).2
        rw [hnil] at hlen
        cases hlen
      exact parseUnsigned_digits (microDigits_spec fraction).1 hne (by unfold microOf at hlt; omega)
  unfold parseHmsMicro
  rw [hmicro]
  cases hclock : parseHms (cutFraction s).1 with
  | none => simp
  | some c => simp

/-- The fraction behind a time of day, as the backend writes it. -/
def FractionText (micro : Nat) (tail : List Char) : Prop := (tail = [] ∧ micro = 0) ∨ tail = '.' :: padded 6 micro

theorem exactFraction_padded (micro : Nat) : exactFraction (padded 6 micro) = some (counted micro) := by
  unfold exactFraction
  rw [if_pos (padded_spec 6 micro).1]
  rfl

theorem exactHms_text {clock : Clock} (h : clock.Fits) {tail : List Char} (htail : FractionText micro tail) :
    exactHms (clock.text ++ tail) = some (clock, counted micro) := by
  have hdot : '.' ∉ clock.text := by
    intro hmem
    rcases clock.mem_text hmem with h | h
    · exact absurd h (by decide)
    · exact absurd h (by decide)
  unfold exactHms cutFraction
  rcases htail with ⟨rfl, rfl⟩ | rfl
  · rw [List.append_nil, splitOnce_alone hdot]
    dsimp only
    rw [parseHms_text h]
    rfl
  · rw [splitOnce_append hdot]
    dsimp only
    rw [parseHms_text h, exactFraction_padded]
    rfl

/-! ## Payloads are read back -/

theorem toNat_ofNat_of_le (h : n ≤ 255) : (UInt8.ofNat n).toNat = n := by
  rw [UInt8.toNat_ofNat']
  exact Nat.mod_eq_of_lt (by omega)

theorem Date.bytes_eq (h : d.Fits) :
    ∃ y0 y1, d.bytes = [y0, y1, UInt8.ofNat d.month, UInt8.ofNat d.day] ∧ ofLe [y0, y1] = d.year := by
  have hyear := h.year
  refine ⟨_, _, rfl, ?_⟩
  exact ofLe_le_of_lt (w := 2) (by omega)

theorem le_four {n : Nat} (h : n < 256 ^ 4) : ∃ b0 b1 b2 b3, le 4 n = [b0, b1, b2, b3] ∧ ofLe [b0, b1, b2, b3] = n :=
  ⟨_, _, _, _, rfl, ofLe_le_of_lt (w := 4) h⟩

theorem date_written (h : d.Fits) : decode d.bytes .date = .ok d.text := by
  obtain ⟨y0, y1, hbytes, hyear⟩ := d.bytes_eq h
  rw [hbytes]
  show Except.ok (Date.text ⟨ofLe [y0, y1], (UInt8.ofNat d.month).toNat, (UInt8.ofNat d.day).toNat⟩) = _
  rw [hyear, toNat_ofNat_of_le h.month, toNat_ofNat_of_le h.day]

theorem datetime_written {clock : Clock} (hd : d.Fits) (hc : clock.Fits) (hmicro : micro < 10 ^ 6) :
    ∃ tail, FractionText micro tail ∧
      decode (d.bytes ++ clock.bytes ++ microBytes micro) .datetime = .ok (d.text ++ ' ' :: (clock.text ++ tail)) := by
  obtain ⟨y0, y1, hbytes, hyear⟩ := d.bytes_eq hd
  have hdate : Date.text ⟨ofLe [y0, y1], (UInt8.ofNat d.month).toNat, (UInt8.ofNat d.day).toNat⟩ = d.text := by
    rw [hyear, toNat_ofNat_of_le hd.month, toNat_ofNat_of_le hd.day]
  have hclock : Clock.text ⟨(UInt8.ofNat clock.hour).toNat, (UInt8.ofNat clock.minute).toNat,
      (UInt8.ofNat clock.second).toNat⟩ = clock.text := by
    rw [toNat_ofNat_of_le hc.hour, toNat_ofNat_of_le hc.minute, toNat_ofNat_of_le hc.second]
  unfold microBytes
  rw [hbytes]
  by_cases hzero : micro = 0
  · refine ⟨[], .inl ⟨rfl, hzero⟩, ?_⟩
    rw [if_pos hzero, List.append_nil clock.text, ← hdate, ← hclock]
    rfl
  · rw [if_neg hzero]
    obtain ⟨u0, u1, u2, u3, hle, hvalue⟩ := le_four (n := micro) (by omega)
    refine ⟨'.' :: padded 6 micro, .inr rfl, ?_⟩
    rw [hle, ← hdate, ← hclock, ← hvalue]
    rfl

theorem time_written (negative : Bool) {days : Nat} {clock : Clock} (hdays : days ≤ 4294967295)
    (hc : clock.Fits) (hmicro : micro < 10 ^ 6) :
    decode ((if negative then 1 else 0) :: (le 4 days ++ clock.bytes ++ microBytes micro)) .time =
      .ok (timeText negative days clock micro) := by
  have hclock : (⟨(UInt8.ofNat clock.hour).toNat, (UInt8.ofNat clock.minute).toNat,
      (UInt8.ofNat clock.second).toNat⟩ : Clock) = clock := by
    rw [toNat_ofNat_of_le hc.hour, toNat_ofNat_of_le hc.minute, toNat_ofNat_of_le hc.second]
  have hneg : ((if negative then (1 : UInt8) else 0) != 0) = negative := by
    cases negative with
    | true => rfl
    | false => rfl
  obtain ⟨d0, d1, d2, d3, hdaysLe, hdaysValue⟩ := le_four (n := days) (by omega)
  unfold microBytes
  rw [hdaysLe]
  by_cases hzero : micro = 0
  · rw [if_pos hzero]
    show Except.ok (timeText ((if negative then (1 : UInt8) else 0) != 0) (ofLe [d0, d1, d2, d3]) _ 0) = _
    rw [hneg, hdaysValue, hclock, hzero]
  · rw [if_neg hzero]
    obtain ⟨u0, u1, u2, u3, hle, hvalue⟩ := le_four (n := micro) (by omega)
    rw [hle]
    show Except.ok (timeText ((if negative then (1 : UInt8) else 0) != 0) (ofLe [d0, d1, d2, d3]) _
      (ofLe [u0, u1, u2, u3])) = _
    rw [hneg, hdaysValue, hclock, hvalue]

/-! ## Texts are read back -/

theorem Clock.text_ne_nil (clock : Clock) : clock.text ≠ [] := by
  unfold Clock.text
  exact fun h => (padded_spec 2 clock.hour).2.2 (List.append_eq_nil_iff.mp h).1

theorem Date.text_ne_nil (d : Date) : d.text ≠ [] := by
  unfold Date.text
  exact fun h => (padded_spec 4 d.year).2.2 (List.append_eq_nil_iff.mp h).1

theorem mem_hms {clock : Clock} {tail : List Char} (htail : FractionText micro tail)
    (h : c ∈ clock.text ++ tail) : c.isDigit = true ∨ c = ':' ∨ c = '.' := by
  rcases List.mem_append.mp h with h | h
  · rcases clock.mem_text h with h | h
    · exact .inl h
    · exact .inr (.inl h)
  · rcases htail with ⟨rfl, _⟩ | rfl
    · cases h
    · rcases List.mem_cons.mp h with h | h
      · exact .inr (.inr h)
      · exact .inl (List.all_eq_true.mp (padded_spec 6 micro).1 c h)

theorem hms_not_blank {clock : Clock} {tail : List Char} (htail : FractionText micro tail) :
    ∀ c ∈ clock.text ++ tail, isWhitespace c = false := by
  intro c hc
  rcases mem_hms htail hc with h | rfl | rfl
  · exact isWhitespace_of_isDigit h
  · decide
  · decide

theorem blank_notMem_hms {clock : Clock} {tail : List Char} (htail : FractionText micro tail) :
    ' ' ∉ clock.text ++ tail := by
  intro h
  have hblank := hms_not_blank htail ' ' h
  exact absurd hblank (by decide)

theorem trim_hms (clock : Clock) (front : List Char) {tail : List Char} (htail : FractionText micro tail)
    (hfront : ∀ c, front.head? = some c → isWhitespace c = false) :
    trim (front ++ (clock.text ++ tail)) = front ++ (clock.text ++ tail) := by
  have hne : clock.text ++ tail ≠ [] := fun h => clock.text_ne_nil (List.append_eq_nil_iff.mp h).1
  refine trim_of_ends (fun c hc => ?_) fun c hc => ?_
  · rw [List.head?_append] at hc
    cases hhead : front.head? with
    | some d =>
      rw [hhead] at hc
      exact hfront c (hhead.trans hc)
    | none =>
      rw [hhead] at hc
      exact hms_not_blank htail c (List.mem_of_mem_head? hc)
  · rw [List.getLast?_append_of_ne_nil _ hne] at hc
    exact hms_not_blank htail c (List.mem_of_mem_getLast? hc)

theorem momentOf_date (h : d.Fits) : momentOf d.text .date = some (.date d) := by
  show (parseMysqlDate d.text).map Moment.date = _
  rw [parseMysqlDate_text h]
  rfl

theorem momentOf_datetime {clock : Clock} {tail : List Char} (hd : d.Fits) (hc : clock.Fits)
    (htail : FractionText micro tail) :
    momentOf (d.text ++ ' ' :: (clock.text ++ tail)) .datetime = some (.datetime d clock (counted micro)) := by
  have hmem : ∀ c ∈ d.text ++ ' ' :: (clock.text ++ tail), (if c = 'T' then ' ' else c) = c := by
    intro c hmem
    refine if_neg fun hT => ?_
    rw [hT] at hmem
    rcases List.mem_append.mp hmem with h | h
    · rcases d.mem_text h with h | h
      · exact absurd h (by decide)
      · exact absurd h (by decide)
    · rcases List.mem_cons.mp h with h | h
      · exact absurd h (by decide)
      · rcases mem_hms htail h with h | h | h
        · exact absurd h (by decide)
        · exact absurd h (by decide)
        · exact absurd h (by decide)
  have hblank : ' ' ∉ d.text := by
    intro h
    rcases d.mem_text h with h | h
    · exact absurd h (by decide)
    · exact absurd h (by decide)
  have htrim : trim (d.text ++ ' ' :: (clock.text ++ tail)) = d.text ++ ' ' :: (clock.text ++ tail) := by
    have h := trim_hms clock (d.text ++ [' ']) htail fun c hhead => by
      rw [List.head?_append_of_ne_nil _ d.text_ne_nil] at hhead
      exact isWhitespace_of_mem '-' (by decide) (d.mem_text (List.mem_of_mem_head? hhead))
    simpa using h
  have hcut : cutDatetime (d.text ++ ' ' :: (clock.text ++ tail)) = some (d.text, clock.text ++ tail) := by
    unfold cutDatetime
    rw [htrim, List.map_congr_left hmem, List.map_id', splitOnce_append hblank]
  unfold momentOf
  dsimp only
  rw [hcut]
  show (do
    let date ← parseMysqlDate d.text
    let (clock, fraction) ← exactHms (clock.text ++ tail)
    return Moment.datetime date clock fraction) = _
  rw [parseMysqlDate_text hd, exactHms_text hc htail]
  rfl

theorem cutDays_text {days : Nat} (hdays : days ≤ 4294967295) (clock : Clock) {tail : List Char}
    (htail : FractionText micro tail) :
    cutDays (if days > 0 then Nat.toDigits 10 days ++ ' ' :: (clock.text ++ tail) else clock.text ++ tail) =
      some (days, clock.text ++ tail) := by
  obtain ⟨hdigits, hnum⟩ := toDigits_spec days
  unfold cutDays
  split
  · rename_i first second hsplit
    split at hsplit
    · rw [splitOnce_append (notMem_of_digits hdigits (by decide))] at hsplit
      obtain ⟨rfl, rfl⟩ := Prod.mk.inj (Option.some.inj hsplit)
      rw [parseUnsigned_digits hdigits Nat.toDigits_ne_nil (by omega), hnum]
      rfl
    · rw [splitOnce_alone (blank_notMem_hms htail)] at hsplit
      cases hsplit
  · rename_i hsplit
    split at hsplit
    · rw [splitOnce_append (notMem_of_digits hdigits (by decide))] at hsplit
      cases hsplit
    · rename_i hpos
      have hzero : days = 0 := by omega
      rw [hzero]
      rfl

theorem head_rest (days : Nat) (clock : Clock) (tail : List Char) (c : Char)
    (h : (if days > 0 then Nat.toDigits 10 days ++ ' ' :: (clock.text ++ tail) else clock.text ++ tail).head? = some c) :
    c.isDigit = true := by
  split at h
  · rw [List.head?_append_of_ne_nil _ Nat.toDigits_ne_nil] at h
    exact List.all_eq_true.mp (toDigits_spec days).1 c (List.mem_of_mem_head? h)
  · rw [Clock.text, List.append_assoc, List.head?_append_of_ne_nil _ (padded_spec 2 clock.hour).2.2] at h
    exact List.all_eq_true.mp (padded_spec 2 clock.hour).1 c (List.mem_of_mem_head? h)

theorem trim_signed (days : Nat) (clock : Clock) (sign : List Char) {tail : List Char}
    (htail : FractionText micro tail) (hsign : ∀ c, sign.head? = some c → isWhitespace c = false) :
    trim (sign ++ if days > 0 then Nat.toDigits 10 days ++ ' ' :: (clock.text ++ tail) else clock.text ++ tail) =
      sign ++ if days > 0 then Nat.toDigits 10 days ++ ' ' :: (clock.text ++ tail) else clock.text ++ tail := by
  split
  · have h := trim_hms clock (sign ++ Nat.toDigits 10 days ++ [' ']) htail fun c hc => by
      cases sign with
      | nil =>
        rw [List.nil_append, List.head?_append_of_ne_nil _ Nat.toDigits_ne_nil] at hc
        exact isWhitespace_of_isDigit (List.all_eq_true.mp (toDigits_spec days).1 c (List.mem_of_mem_head? hc))
      | cons d sign => exact hsign c hc
    simpa using h
  · exact trim_hms clock sign htail hsign

theorem momentOf_time (negative : Bool) {days : Nat} {clock : Clock} (hdays : days ≤ 4294967295) (hc : clock.Fits) :
    momentOf (timeText negative days clock micro) .time = some (.time negative days clock (counted micro)) := by
  obtain ⟨tail, htail, htext⟩ : ∃ tail, FractionText micro tail ∧
      (if micro = 0 then [] else '.' :: padded 6 micro) = tail := by
    refine ⟨_, ?_, rfl⟩
    by_cases hzero : micro = 0
    · rw [if_pos hzero]
      exact .inl ⟨rfl, hzero⟩
    · rw [if_neg hzero]
      exact .inr rfl
  have hcut := cutDays_text hdays clock htail
  have hhead := head_rest days clock tail
  have htrim := trim_signed days clock [] htail nofun
  have hminus := trim_signed days clock ['-'] htail fun c hc => by cases hc; rfl
  have hcutTime : cutTime (timeText negative days clock micro) = some (negative, days, clock.text ++ tail) := by
    unfold timeText
    dsimp only
    rw [htext]
    generalize (if days > 0 then Nat.toDigits 10 days ++ ' ' :: (clock.text ++ tail) else clock.text ++ tail) = rest at *
    rw [List.nil_append] at htrim
    rw [List.singleton_append] at hminus
    unfold cutTime
    cases negative with
    | true =>
      rw [if_pos rfl, hminus]
      show (cutDays (trim rest)).map (true, ·) = _
      rw [htrim, hcut]
      rfl
    | false =>
      rw [if_neg Bool.false_ne_true, htrim]
      split
      · rename_i rest'
        exact absurd (hhead '-' rfl) (by decide)
      · rw [hcut]
        rfl
  have hmoment : momentOf (timeText negative days clock micro) .time = (do
      let (negative, days, hms) ← cutTime (timeText negative days clock micro)
      let (clock, fraction) ← exactHms hms
      return Moment.time negative days clock fraction) := rfl
  rw [hmoment, hcutTime]
  show (do
    let (clock, fraction) ← exactHms (clock.text ++ tail)
    return Moment.time negative days clock fraction) = _
  rw [exactHms_text hc htail]
  rfl

/-! ## The cell of a date or a time -/

theorem exactHms_eq_some {clock : Clock} {fraction : List Char} :
    exactHms s = some (clock, fraction) ↔ parseHms (cutFraction s).1 = some clock ∧
      (cutFraction s).2.all Char.isDigit = true ∧ (cutFraction s).2.rdropWhile (· == '0') = fraction := by
  unfold exactHms exactFraction
  cases parseHms (cutFraction s).1 with
  | none => simp
  | some c =>
    by_cases hall : (cutFraction s).2.all Char.isDigit = true
    · rw [if_pos hall]
      simp [hall]
    · rw [if_neg hall]
      simp [hall]

theorem same_hms {clock clock' : Clock} {fraction : List Char} (h : parseHmsMicro s = some (clock, micro))
    (hexact : exactHms s = some (clock', fraction)) :
    clock' = clock ∧ (fraction = counted micro ↔ fraction.length ≤ 6) := by
  obtain ⟨hclock, rfl⟩ := parseHmsMicro_eq_some.mp h
  obtain ⟨hclock', hdigits, rfl⟩ := exactHms_eq_some.mp hexact
  rw [hclock] at hclock'
  exact ⟨(Option.some.inj hclock').symm, counted_eq_iff hdigits⟩

/-- What a payload is good for: its text denotes `moment`, which is what `s` denotes if no digit is lost. -/
structure ReadBack (s : List Char) (kind : Kind) (payload : List UInt8) (text : List Char) (moment : Moment) : Prop where
  short : payload.length ≤ 12
  decoded : decode payload kind = .ok text
  denotes : momentOf text kind = some moment
  same : ∀ m, momentOf s kind = some m → (m = moment ↔ m.fraction.length ≤ 6)

theorem readBack_date (h : parseMysqlDate s = some d) : ReadBack s .date d.bytes d.text (.date d) where
  short := by
    show 4 ≤ 12
    decide
  decoded := date_written (fits_of_parseMysqlDate h)
  denotes := momentOf_date (fits_of_parseMysqlDate h)
  same := by
    intro m hm
    have hm' : (parseMysqlDate s).map Moment.date = some m := hm
    rw [h] at hm'
    obtain rfl := Option.some.inj hm'
    exact ⟨fun _ => Nat.zero_le 6, fun _ => rfl⟩

theorem length_microBytes (micro : Nat) : (microBytes micro).length ≤ 4 := by
  unfold microBytes
  split
  · exact Nat.zero_le 4
  · rw [length_le]

theorem readBack_datetime {clock : Clock} (h : parseMysqlDatetime s = some (d, clock, micro)) :
    ∃ text, ReadBack s .datetime (d.bytes ++ clock.bytes ++ microBytes micro) text
      (.datetime d clock (counted micro)) := by
  obtain ⟨⟨date, time⟩, hcut, h⟩ := Option.bind_eq_some_iff.mp h
  obtain ⟨d', hd, h⟩ := Option.bind_eq_some_iff.mp h
  obtain ⟨⟨clock', micro'⟩, hhms, h⟩ := Option.bind_eq_some_iff.mp h
  obtain ⟨rfl, rfl, rfl⟩ : d' = d ∧ clock' = clock ∧ micro' = micro := by simpa using h
  obtain ⟨hclock, hmicro⟩ := parseHmsMicro_eq_some.mp hhms
  have hlt : micro' < 10 ^ 6 := hmicro ▸ microOf_lt _
  obtain ⟨tail, htail, hdecode⟩ := datetime_written (fits_of_parseMysqlDate hd) (fits_of_parseHms hclock) hlt
  refine ⟨_, ?_, hdecode, momentOf_datetime (fits_of_parseMysqlDate hd) (fits_of_parseHms hclock) htail, ?_⟩
  · have hlen := length_microBytes micro'
    have hfront : (d'.bytes ++ clock'.bytes).length = 7 := rfl
    rw [List.length_append, hfront]
    omega
  · intro m hm
    obtain ⟨⟨date', time'⟩, hcut', hm⟩ := Option.bind_eq_some_iff.mp hm
    rw [hcut] at hcut'
    cases hcut'
    obtain ⟨d'', hd', hm⟩ := Option.bind_eq_some_iff.mp hm
    rw [hd] at hd'
    cases hd'
    obtain ⟨⟨c'', fraction⟩, hexact, hm⟩ := Option.bind_eq_some_iff.mp hm
    obtain ⟨rfl, hiff⟩ := same_hms hhms hexact
    obtain rfl := Option.some.inj hm
    rw [show (Moment.datetime d' c'' fraction).fraction = fraction from rfl, ← hiff]
    simp

theorem days_le_of_cutTime {hms : List Char} {negative : Bool} {days : Nat}
    (h : cutTime s = some (negative, days, hms)) : days ≤ 4294967295 := by
  have hdays : ∀ rest b, (cutDays rest).map (b, ·) = some (negative, days, hms) → days ≤ 4294967295 := by
    intro rest b h
    obtain ⟨⟨days', hms'⟩, hcut, heq⟩ := Option.map_eq_some_iff.mp h
    cases heq
    unfold cutDays at hcut
    split at hcut
    · obtain ⟨n, hn, heq⟩ := Option.map_eq_some_iff.mp hcut
      cases heq
      exact parseUnsigned_le hn
    · cases hcut
      exact Nat.zero_le _
  unfold cutTime at h
  split at h
  · exact hdays _ _ h
  · exact hdays _ _ h

theorem readBack_time {negative : Bool} {days : Nat} {clock : Clock}
    (h : parseMysqlTime s = some (negative, days, clock, micro)) :
    ReadBack s .time ((if negative then 1 else 0) :: (le 4 days ++ clock.bytes ++ microBytes micro))
      (timeText negative days clock micro) (.time negative days clock (counted micro)) := by
  obtain ⟨⟨negative', days', hms⟩, hcut, h⟩ := Option.bind_eq_some_iff.mp h
  obtain ⟨⟨clock', micro'⟩, hhms, h⟩ := Option.bind_eq_some_iff.mp h
  obtain ⟨rfl, rfl, rfl, rfl⟩ : negative' = negative ∧ days' = days ∧ clock' = clock ∧ micro' = micro := by
    simpa using h
  obtain ⟨hclock, hmicro⟩ := parseHmsMicro_eq_some.mp hhms
  have hlt : micro' < 10 ^ 6 := hmicro ▸ microOf_lt _
  have hdays := days_le_of_cutTime hcut
  refine ⟨?_, time_written negative' hdays (fits_of_parseHms hclock) hlt,
    momentOf_time negative' hdays (fits_of_parseHms hclock), ?_⟩
  · have hlen := length_microBytes micro'
    have hfront : (le 4 days' ++ clock'.bytes).length = 7 := rfl
    rw [List.length_cons, List.length_append, hfront]
    omega
  · intro m hm
    obtain ⟨⟨negative'', days'', hms'⟩, hcut', hm⟩ := Option.bind_eq_some_iff.mp hm
    rw [hcut] at hcut'
    cases hcut'
    obtain ⟨⟨c'', fraction⟩, hexact, hm⟩ := Option.bind_eq_some_iff.mp hm
    obtain ⟨rfl, hiff⟩ := same_hms hhms hexact
    obtain rfl := Option.some.inj hm
    rw [show (Moment.time negative' days' c'' fraction).fraction = fraction from rfl, ← hiff]
    simp

/-- **A cell of a date or a time is read back**, and denotes the same as its text exactly if no digit of the fraction
is lost. -/
theorem encode_spec {kind : Kind} {cell : List UInt8} (h : encode s kind = .ok cell) :
    ∃ payload text moment, cell = framed payload ∧ ReadBack s kind payload text moment := by
  cases kind with
  | date =>
    have hcell : encodeMysqlBinaryDate s = .ok cell := h
    unfold encodeMysqlBinaryDate at hcell
    split at hcell
    · rename_i d hparse
      exact ⟨_, _, _, (Except.ok.inj hcell).symm, readBack_date hparse⟩
    · cases hcell
  | datetime =>
    have hcell : encodeMysqlBinaryDatetime s = .ok cell := h
    unfold encodeMysqlBinaryDatetime at hcell
    split at hcell
    · rename_i d clock micro hparse
      obtain ⟨text, hread⟩ := readBack_datetime hparse
      exact ⟨_, _, _, (Except.ok.inj hcell).symm, hread⟩
    · cases hcell
  | time =>
    have hcell : encodeMysqlBinaryTime s = .ok cell := h
    unfold encodeMysqlBinaryTime at hcell
    split at hcell
    · rename_i negative days clock micro hparse
      exact ⟨_, _, _, (Except.ok.inj hcell).symm, readBack_time hparse⟩
    · cases hcell

end DataNexus.Temporal
