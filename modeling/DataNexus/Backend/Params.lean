/-
  Bound parameters on their way to PostgreSQL (`PgParamBind::from_values`, `conform_pg_param_slots`).

  A text is first guessed to be a number, a timestamp, a date, a time or a boolean; where the declared type is a text
  type, the value that was guessed is written as text again.  Dates and times are `chrono`'s, floating point numbers the
  standard library's; both are parameters.

  `Kept` says that the text is written as the guess that takes it writes its value.  `text_param_kept_iff`: the slot of a
  text type holds the text itself iff it is kept.
-/
import DataNexus.Backend.Numeric
import DataNexus.Lib.LittleEndian
import DataNexus.Model

namespace DataNexus.Params

open DataNexus.Digits DataNexus.LittleEndian DataNexus.Numeric DataNexus.Text

/-! ## Slots -/

/-- What the code uses of `chrono` (`parse_from_str`, `to_string`, `NaiveDateTime::date`) and of `f64`. -/
structure Library where
  Date : Type
  DateTime : Type
  Time : Type
  parseDate : (format : String) → List Char → Option Date
  parseDateTime : (format : String) → List Char → Option DateTime
  parseTime : (format : String) → List Char → Option Time
  dateOf : DateTime → Date
  showDate : Date → List Char
  showDateTime : DateTime → List Char
  showTime : Time → List Char
  parseFloat : List Char → Option UInt64
  showFloat : UInt64 → List Char

inductive PgParamSlot (lib : Library) where
  | numeric (value : List Char)
  | null
  | bool (b : Bool)
  | i32 (i : Int)
  | i64 (i : Int)
  | f64 (bits : UInt64)
  | text (s : List Char)
  | date (d : lib.Date)
  | timestamp (ts : lib.DateTime)
  | time (t : lib.Time)

/-- The declared types that the code tells apart. -/
inductive PgType where
  | bool
  | int2
  | int4
  | int8
  | float8
  | numeric
  | date
  | time
  | timestamp
  | varchar
  | text
  | bpchar
  | name
  | unknown
  | other (oid : Nat)
deriving DecidableEq

def i32Min : Int := -2147483648
def i32Max : Int := 2147483647
def i64Min : Int := -9223372036854775808
def i64Max : Int := 9223372036854775807

variable (lib : Library)

/-! ## Guesses -/

def parsePgParamDate (s : List Char) : Option lib.Date := lib.parseDate "%Y-%m-%d" s

def parsePgParamDatetime (s : List Char) : Option lib.DateTime :=
  let s := (trim s).map fun c => if c = 'T' then ' ' else c
  ["%Y-%m-%d %H:%M:%S%.f", "%Y-%m-%d %H:%M:%S", "%Y-%m-%d %H:%M"].findSome? fun format => lib.parseDateTime format s

/-- `parse_pg_param_time`: pure dates are rejected. -/
def parsePgParamTime (s : List Char) : Option lib.Time :=
  if s.contains '-' && !s.contains ':' then none
  else ["%H:%M:%S%.f", "%H:%M:%S", "%H:%M"].findSome? fun format => lib.parseTime format s

/-- A text that may be an integer: no sign, point or colon. -/
def integerLike (t : List Char) : Bool :=
  !t.contains '-' && !t.contains '+' && !t.contains '.' && !t.contains ':' && !t.isEmpty

/-- The guess at an integer: the narrow type first. -/
def guessInteger (t : List Char) : Option (PgParamSlot lib) :=
  if integerLike t then
    match parseSigned i32Min i32Max t with
    | some i => some (.i32 i)
    | none => (parseSigned i64Min i64Max t).map .i64
  else none

def classifyPgStringParam (s : List Char) : PgParamSlot lib :=
  let t := trim s
  match guessInteger lib t with
  | some slot => slot
  | none =>
    match parsePgParamDatetime lib t with
    | some ts => .timestamp ts
    | none =>
      match parsePgParamDate lib t with
      | some d => .date d
      | none =>
        match parsePgParamTime lib t with
        | some tm => .time tm
        | none =>
          if sameIgnoringCase t "true".toList || t == "t".toList then .bool true
          else if sameIgnoringCase t "false".toList || t == "f".toList then .bool false
          else .text s

/-- `{byte:02x}`. -/
def hexByte (byte : UInt8) : List Char := [Nat.digitChar (byte.toNat / 16), Nat.digitChar (byte.toNat % 16)]

def slotOf : GatewayValue → PgParamSlot lib
  | .null => .null
  | .boolean b => .bool b
  | .integer i => if i32Min ≤ i ∧ i ≤ i32Max then .i32 i else .i64 i
  | .unsignedInteger n =>
    if (n : Int) ≤ i32Max then .i32 n
    else if (n : Int) ≤ i64Max then .i64 n
    else .text (Nat.toDigits 10 n)
  | .float bits => .f64 bits
  | .decimal s => .text s.toList
  | .string s => classifyPgStringParam lib s.toList
  | .bytes data => .text ("\\x".toList ++ data.flatMap hexByte)

def fromValues (parameters : List GatewayValue) : List (PgParamSlot lib) := parameters.map (slotOf lib)

/-! ## Declared types -/

variable {lib}

def PgParamSlot.toTextLiteral : PgParamSlot lib → List Char
  | .null => []
  | .bool b => if b then ['t'] else ['f']
  | .i32 i => decimal i
  | .i64 i => decimal i
  | .f64 bits => lib.showFloat bits
  | .numeric value => value
  | .text s => s
  | .date d => lib.showDate d
  | .timestamp ts => lib.showDateTime ts
  | .time t => lib.showTime t

/-- The first `match` on the slot: it is retyped to the declared width. -/
def retype (ty : PgType) : PgParamSlot lib → PgParamSlot lib
  | .i32 i => if ty = .int8 then .i64 i else .i32 i
  | .i64 i => if ty = .int4 ∧ i32Min ≤ i ∧ i ≤ i32Max then .i32 i else .i64 i
  | .text s =>
    if ty = .int4 ∨ ty = .int8 ∨ ty = .int2 then
      match parseSigned i64Min i64Max s with
      | some value => if ty = .int8 ∨ value > i32Max ∨ value < i32Min then .i64 value else .i32 value
      | none => .text s
    else if ty = .float8 then
      match lib.parseFloat s with
      | some value => .f64 value
      | none => .text s
    else if ty = .numeric then
      if (toWire s).isSome then .numeric s else .text s
    else .text s
  | .timestamp ts => if ty = .date then .date (lib.dateOf ts) else .timestamp ts
  | slot => slot

/-- The second one: the slot serializes as the declared type. -/
def covered (ty : PgType) : PgParamSlot lib → Bool
  | .null => true
  | .numeric _ => ty == .numeric
  | .bool _ => ty == .bool
  | .i32 _ => ty == .int4
  | .i64 _ => ty == .int8
  | .f64 _ => ty == .float8
  | .date _ => ty == .date
  | .time _ => ty == .time
  | .timestamp _ => ty == .timestamp
  | .text _ => [.varchar, .text, .bpchar, .name, .unknown].contains ty

/-- One turn of the loop: the slot, and whether its position has to be prepared as TEXT. -/
def conformSlot (ty : PgType) (slot : PgParamSlot lib) : PgParamSlot lib × Bool :=
  let slot := retype ty slot
  if covered ty slot then (slot, false) else (.text slot.toTextLiteral, true)

/-- The loop of `conform_pg_param_slots` from one position on; it stops with the declared types. -/
def conformFrom : (index : Nat) → List (PgParamSlot lib) → List PgType → List (PgParamSlot lib) × List Nat
  | index, slot :: slots, ty :: declared =>
    let (slot, asText) := conformSlot ty slot
    let (slots, positions) := conformFrom (index + 1) slots declared
    (slot :: slots, if asText then index :: positions else positions)
  | _, slots, _ => (slots, [])

/-- `conform_pg_param_slots`: the slots, and the positions that are prepared again with TEXT. -/
def conformPgParamSlots (slots : List (PgParamSlot lib)) (declared : List PgType) :
    List (PgParamSlot lib) × List Nat :=
  conformFrom 0 slots declared

/-! ## What is kept -/

def Canonical (s : List Char) : Prop := s = ['0'] ∨ s ≠ [] ∧ s.all Char.isDigit = true ∧ s.head? ≠ some '0'

def booleanWord (t : List Char) : Bool :=
  sameIgnoringCase t "true".toList || t == "t".toList || sameIgnoringCase t "false".toList || t == "f".toList

/-- **The text is written as the first guess that takes it writes its value.** -/
def Kept (lib : Library) (s : List Char) : Prop :=
  let t := trim s
  if integerLike t = true ∧ (parseSigned i64Min i64Max t).isSome = true then Canonical s
  else
    match parsePgParamDatetime lib t, parsePgParamDate lib t, parsePgParamTime lib t with
    | some ts, _, _ => s = lib.showDateTime ts
    | none, some d, _ => s = lib.showDate d
    | none, none, some tm => s = lib.showTime tm
    | none, none, none => booleanWord t = true → s = ['t'] ∨ s = ['f']

/-! ## Slots of text types -/

/-- The types that the claims of a text column are about. -/
def isTextType (ty : PgType) : Bool := [.text, .varchar, .bpchar].contains ty

variable {ty : PgType} {t : List Char}

theorem conformSlot_text (hty : isTextType ty = true) {slot : PgParamSlot lib} (hnull : slot ≠ .null) :
    (conformSlot ty slot).1 = .text slot.toTextLiteral := by
  have hcases : ty = .text ∨ ty = .varchar ∨ ty = .bpchar := by
    simpa [isTextType] using hty
  rcases hcases with rfl | rfl | rfl
  all_goals
    cases slot with
    | null => exact absurd rfl hnull
    | _ => rfl

theorem getElem?_conformFrom (index : Nat) (slots : List (PgParamSlot lib)) (declared : List PgType) (i : Nat)
    (hty : declared[i]? = some ty) :
    (conformFrom index slots declared).1[i]? = slots[i]?.map fun slot => (conformSlot ty slot).1 := by
  induction slots generalizing index declared i with
  | nil =>
    cases declared with
    | nil => cases hty
    | cons _ _ => rfl
  | cons slot slots ih =>
    cases declared with
    | nil => cases hty
    | cons ty' declared =>
      cases i with
      | zero =>
        obtain rfl : ty' = ty := Option.some.inj hty
        rfl
      | succ i => exact ih (index + 1) declared i hty

/-! ## Integers -/

theorem digits_of_parseSigned {min max i : Int} (hlike : integerLike t = true) (h : parseSigned min max t = some i) :
    t ≠ [] ∧ t.all Char.isDigit = true ∧ i = num t ∧ min ≤ i ∧ i ≤ max := by
  simp only [integerLike, Bool.and_eq_true, Bool.not_eq_true', List.isEmpty_eq_false_iff] at hlike
  obtain ⟨⟨⟨⟨hminus, hplus⟩, -⟩, -⟩, hne⟩ := hlike
  unfold parseSigned at h
  obtain ⟨hvalue, hbounds⟩ := Option.filter_eq_some_iff.mp h
  rw [Bool.and_eq_true, decide_eq_true_eq, decide_eq_true_eq] at hbounds
  split at hvalue
  · exact absurd hminus (by simp)
  · exact absurd hplus (by simp)
  · obtain ⟨n, hn, rfl⟩ := Option.map_eq_some_iff.mp hvalue
    unfold digitsValue at hn
    split at hn
    · cases hn
    · rename_i hdigits
      simp only [Bool.or_eq_true, Bool.not_eq_true', not_or, Bool.not_eq_false] at hdigits
      obtain rfl := Option.some.inj hn
      exact ⟨hne, hdigits.2, rfl, hbounds⟩

theorem parseSigned_digits {min max : Int} (hne : t ≠ []) (h : t.all Char.isDigit = true) (hmin : min ≤ num t)
    (hmax : (num t : Int) ≤ max) : parseSigned min max t = some (num t : Int) := by
  obtain ⟨c, rest, rfl⟩ := List.exists_cons_of_ne_nil hne
  have hc : c.isDigit = true := (List.all_eq_true.mp h) c List.mem_cons_self
  have hvalue : digitsValue (c :: rest) = some (num (c :: rest)) := by
    unfold digitsValue
    rw [h]
    rfl
  unfold parseSigned
  split
  · rename_i hcons
    exact absurd (List.cons.inj hcons).1 (ne_of_isDigit hc (by decide))
  · rename_i hcons
    exact absurd (List.cons.inj hcons).1 (ne_of_isDigit hc (by decide))
  · simp [hvalue, hmin, hmax]

theorem guessInteger_cases (t : List Char) :
    (integerLike t = true ∧ (parseSigned i64Min i64Max t).isSome = true ∧ t.all Char.isDigit = true ∧ t ≠ [] ∧
      ∃ slot, guessInteger lib t = some slot ∧ slot ≠ .null ∧ slot.toTextLiteral = Nat.toDigits 10 (num t)) ∨
    (¬(integerLike t = true ∧ (parseSigned i64Min i64Max t).isSome = true) ∧ guessInteger lib t = none) := by
  by_cases hlike : integerLike t = true
  · unfold guessInteger
    rw [if_pos hlike]
    cases hnarrow : parseSigned i32Min i32Max t with
    | some i =>
      obtain ⟨hne, hdigits, rfl, hmin, hmax⟩ := digits_of_parseSigned hlike hnarrow
      have hwide : parseSigned i64Min i64Max t = some (num t : Int) :=
        parseSigned_digits hne hdigits (by unfold i64Min; omega) (by unfold i32Max at hmax; unfold i64Max; omega)
      refine .inl ⟨hlike, by rw [hwide]; rfl, hdigits, hne, _, rfl, nofun, rfl⟩
    | none =>
      cases hwide : parseSigned i64Min i64Max t with
      | some i =>
        obtain ⟨hne, hdigits, rfl, -, -⟩ := digits_of_parseSigned hlike hwide
        exact .inl ⟨hlike, rfl, hdigits, hne, _, rfl, nofun, rfl⟩
      | none => exact .inr ⟨fun h => absurd h.2 nofun, rfl⟩
  · refine .inr ⟨fun h => hlike h.1, ?_⟩
    unfold guessInteger
    rw [if_neg hlike]

theorem toDigits_num_trim_iff {s : List Char} (hdigits : (trim s).all Char.isDigit = true) (hne : trim s ≠ []) :
    Nat.toDigits 10 (num (trim s)) = s ↔ Canonical s := by
  constructor
  · intro h
    have hs : s.all Char.isDigit = true := by
      rw [← h]
      exact (toDigits_spec _).1
    have htrim : trim s = s := trim_eq_self fun c hc => isWhitespace_of_isDigit (List.all_eq_true.mp hs c hc)
    rw [htrim] at h hne
    rcases (toDigits_num_iff hs hne).mp h with hzero | hhead
    · exact .inl hzero
    · exact .inr ⟨hne, hs, hhead⟩
  · intro h
    have hs : s.all Char.isDigit = true := by
      rcases h with rfl | ⟨-, hs, -⟩
      · rfl
      · exact hs
    have htrim : trim s = s := trim_eq_self fun c hc => isWhitespace_of_isDigit (List.all_eq_true.mp hs c hc)
    rw [htrim] at hne ⊢
    exact (toDigits_num_iff hs hne).mpr (h.imp id fun h => h.2.2)

/-! ## The result -/

theorem classify_text_iff (lib : Library) (s : List Char) :
    classifyPgStringParam lib s ≠ .null ∧ ((classifyPgStringParam lib s).toTextLiteral = s ↔ Kept lib s) := by
  unfold classifyPgStringParam Kept
  dsimp only
  rcases @guessInteger_cases lib (trim s) with ⟨hlike, hread, hdigits, hne, slot, hguess, hnull, hliteral⟩ |
    ⟨hno, hguess⟩
  · rw [hguess]
    dsimp only
    rw [if_pos ⟨hlike, hread⟩, hliteral]
    exact ⟨hnull, toDigits_num_trim_iff hdigits hne⟩
  · rw [hguess]
    dsimp only
    rw [if_neg hno]
    cases parsePgParamDatetime lib (trim s) with
    | some ts => exact ⟨nofun, eq_comm⟩
    | none =>
      cases parsePgParamDate lib (trim s) with
      | some d => exact ⟨nofun, eq_comm⟩
      | none =>
        cases parsePgParamTime lib (trim s) with
        | some tm => exact ⟨nofun, eq_comm⟩
        | none =>
          dsimp only
          have hself : ∀ c : Char, isWhitespace c = false → trim [c] = [c] := fun c hc =>
            trim_eq_self fun c' hc' => by rw [List.mem_singleton.mp hc']; exact hc
          unfold booleanWord
          by_cases htrue : (sameIgnoringCase (trim s) "true".toList || trim s == "t".toList) = true
          · rw [if_pos htrue]
            refine ⟨nofun, ?_⟩
            constructor
            · exact fun h _ => .inl h.symm
            · intro h
              rcases h (by rw [Bool.or_assoc, htrue]; rfl) with rfl | rfl
              · rfl
              · rw [hself 'f' (by decide)] at htrue
                exact absurd htrue (by decide)
          · rw [if_neg htrue]
            by_cases hfalse : (sameIgnoringCase (trim s) "false".toList || trim s == "f".toList) = true
            · rw [if_pos hfalse]
              refine ⟨nofun, ?_⟩
              constructor
              · exact fun h _ => .inr h.symm
              · intro h
                rcases h (by rw [Bool.or_assoc, hfalse, Bool.or_true]) with rfl | rfl
                · rw [hself 't' (by decide)] at hfalse
                  exact absurd hfalse (by decide)
                · rfl
            · rw [if_neg hfalse]
              refine ⟨nofun, iff_of_true rfl fun h => ?_⟩
              rw [Bool.or_assoc, Bool.or_eq_true] at h
              exact (h.elim htrue hfalse).elim

/-- **A text parameter** is itself in its slot iff it is written as the first guess that takes it writes its value. -/
theorem text_param_kept_iff (lib : Library) (parameters : List GatewayValue) (declared : List PgType) (i : Nat)
    (s : String) (ty : PgType) (hparam : parameters[i]? = some (.string s)) (hdeclared : declared[i]? = some ty)
    (hty : isTextType ty = true) :
    (conformPgParamSlots (fromValues lib parameters) declared).1[i]? = some (.text s.toList) ↔ Kept lib s.toList := by
  obtain ⟨hnull, hiff⟩ := classify_text_iff lib s.toList
  have hslot : (fromValues lib parameters)[i]? = some (classifyPgStringParam lib s.toList) := by
    rw [fromValues, List.getElem?_map, hparam]
    rfl
  rw [conformPgParamSlots, getElem?_conformFrom 0 _ _ i hdeclared, hslot, Option.map_some, conformSlot_text hty hnull,
    ← hiff, Option.some.injEq, PgParamSlot.text.injEq]

/-- A library that reads no dates; enough for texts that are none. -/
def noDates : Library where
  Date := Unit
  DateTime := Unit
  Time := Unit
  parseDate := fun _ _ => none
  parseDateTime := fun _ _ => none
  parseTime := fun _ _ => none
  dateOf := fun _ => ()
  showDate := fun _ => []
  showDateTime := fun _ => []
  showTime := fun _ => []
  parseFloat := fun _ => none
  showFloat := fun _ => []

theorem plain_word_kept :
    (conformPgParamSlots (fromValues noDates [.string "abc"]) [.text]).1[0]? = some (.text "abc".toList) ↔
      Kept noDates "abc".toList :=
  text_param_kept_iff noDates [.string "abc"] [.text] 0 "abc" .text rfl rfl rfl

theorem leading_zeros_lost :
    ¬ ∀ (lib : Library) (parameters : List GatewayValue) (declared : List PgType) (i : Nat) (s : String) (ty : PgType),
      parameters[i]? = some (.string s) → declared[i]? = some ty → isTextType ty = true →
      (conformPgParamSlots (fromValues lib parameters) declared).1[i]? = some (.text s.toList) := by
  intro h
  have hzeros := h noDates [.string "007"] [.varchar] 0 "007" .varchar rfl rfl rfl
  have hslot : (conformPgParamSlots (fromValues noDates [.string "007"]) [.varchar]).1[0]? = some (.text ['7']) := by
    rfl
  rw [hslot, Option.some.injEq, PgParamSlot.text.injEq] at hzeros
  exact absurd hzeros (by decide)

end DataNexus.Params
