/-
  What a WHERE condition says of a stored row.

  Conditions have three truth values; `none` is SQL's NULL.  The connectives `AND`, `OR`, `NOT`, parentheses and
  the equalities `column = number` are given their meaning.  Every other part (a comparison, a function, a
  subquery, a column of another type) may come out as anything: `Evaluates` relates a condition to each value it
  can have on the row, so whatever holds of all of them holds under the server's own reading.

  `admits` decides the relation: `admits row true e` says that the condition lets the row pass for some outcome of
  the parts that are not read (`evaluates_iff_admits`).
-/
import DataNexus.Sharding.Meta
import Mathlib.Data.List.TakeWhile

namespace DataNexus.ShardingRewrite

/-! ## Truth -/

/-- `AND`. -/
def and3 : Option Bool → Option Bool → Option Bool
  | some false, _ => some false
  | _, some false => some false
  | some true, some true => some true
  | _, _ => none

/-- `OR`. -/
def or3 : Option Bool → Option Bool → Option Bool
  | some true, _ => some true
  | _, some true => some true
  | some false, some false => some false
  | _, _ => none

/-- `NOT`. -/
def not3 (a : Option Bool) : Option Bool := a.map (!·)

variable {a b : Option Bool} {v : Nat} {l r e : Expr}

theorem and3_eq_true : and3 a b = some true ↔ a = some true ∧ b = some true := by
  rcases a with _ | _ | _ <;> rcases b with _ | _ | _ <;> decide

theorem and3_eq_false : and3 a b = some false ↔ a = some false ∨ b = some false := by
  rcases a with _ | _ | _ <;> rcases b with _ | _ | _ <;> decide

theorem or3_eq_true : or3 a b = some true ↔ a = some true ∨ b = some true := by
  rcases a with _ | _ | _ <;> rcases b with _ | _ | _ <;> decide

theorem or3_eq_false : or3 a b = some false ↔ a = some false ∧ b = some false := by
  rcases a with _ | _ | _ <;> rcases b with _ | _ | _ <;> decide

theorem not3_eq_some {b : Bool} : not3 a = some b ↔ a = some !b := by
  rcases a with _ | _ | _ <;> cases b <;> decide

/-! ## Rows and literals -/

/-- The unsigned numbers that a row holds, by the name of the column without backticks. -/
abbrev Row := String → Option Nat

def digitsValue (digits : List Char) : Nat := digits.foldl (fun n c => 10 * n + (c.toNat - '0'.toNat)) 0

/-- The characters of a literal behind its plus sign. -/
def literalChars (text : String) : List Char :=
  match text.toList with
  | '+' :: rest => rest
  | cs => cs

/-- Whether a decimal literal has the value `v`: its fraction, if it has one, is zero. -/
def denotes (text : String) (v : Nat) : Bool :=
  let digits := (literalChars text).takeWhile (· != '.')
  let fraction := ((literalChars text).dropWhile (· != '.')).drop 1
  digits.all Char.isDigit && fraction.all (· == '0') && digitsValue digits == v

theorem denotes_of_parseU64 {text : String} {m : Nat} (h : parseU64 text = some m) : denotes text v = (m == v) := by
  have hparse : parseU64 text = if literalChars text ≠ [] ∧ (literalChars text).all Char.isDigit then
      (if digitsValue (literalChars text) < 2 ^ 64 then some (digitsValue (literalChars text)) else none)
      else none := rfl
  rw [hparse] at h
  split_ifs at h with hd hlt
  obtain ⟨-, hdigits⟩ := hd
  have hall : ∀ c ∈ literalChars text, (c != '.') = true := by
    intro c hc
    have hc' := List.all_eq_true.mp hdigits c hc
    rw [bne_iff_ne]
    rintro rfl
    exact absurd hc' (by decide)
  have hvalue : digitsValue (literalChars text) = m := Option.some.inj h
  rw [denotes, List.takeWhile_eq_self_iff.mpr hall, List.dropWhile_eq_nil_iff.mpr hall, hdigits, hvalue]
  simp

/-! ## Outcomes of a condition -/

/-- An equality between a column whose value the row has and a number. -/
def readsEquality (row : Row) (operator : Op) (left right : Expr) : Option (String × Nat) :=
  match whereMeta operator left right with
  | some ⟨column, .num text⟩ => (row (unquote column)).map fun v => (text, v)
  | _ => none

/-- The values that a condition can have on a row. -/
inductive Evaluates (row : Row) : Expr → Option Bool → Prop where
  | and {left right : Expr} {a b : Option Bool} (hl : Evaluates row left a) (hr : Evaluates row right b) :
      Evaluates row (.binaryOperation .and left right) (and3 a b)
  | or {left right : Expr} {a b : Option Bool} (hl : Evaluates row left a) (hr : Evaluates row right b) :
      Evaluates row (.binaryOperation .or left right) (or3 a b)
  | not {expr : Expr} {a : Option Bool} (h : Evaluates row expr a) :
      Evaluates row (.unaryOperation .not expr) (not3 a)
  | parens {expr : Expr} {a : Option Bool} (h : Evaluates row expr a) : Evaluates row (.row [expr]) a
  | equality {operator : Op} {left right : Expr} {text : String} {v : Nat}
      (h : readsEquality row operator left right = some (text, v)) :
      Evaluates row (.binaryOperation operator left right) (some (denotes text v))
  | comparison {operator : Op} {left right : Expr} {a : Option Bool} (hand : operator ≠ .and)
      (hor : operator ≠ .or) (h : readsEquality row operator left right = none) :
      Evaluates row (.binaryOperation operator left right) a
  | operation {operator : Op} {expr : Expr} {a : Option Bool} (h : operator ≠ .not) :
      Evaluates row (.unaryOperation operator expr) a
  | other {expr : Expr} {a : Option Bool} (hbinary : ∀ op l r, expr ≠ .binaryOperation op l r)
      (hunary : ∀ op e, expr ≠ .unaryOperation op e) (hparens : ∀ e, expr ≠ .row [e]) : Evaluates row expr a

/-- Whether a condition can come out as `b`. -/
def admits (row : Row) : Bool → Expr → Bool
  | b, .binaryOperation operator left right =>
    match operator with
    | .and => if b then admits row true left && admits row true right
              else admits row false left || admits row false right
    | .or => if b then admits row true left || admits row true right
             else admits row false left && admits row false right
    | operator =>
      match readsEquality row operator left right with
      | some (text, v) => denotes text v == b
      | none => true
  | b, .unaryOperation operator expr => if operator = .not then admits row (!b) expr else true
  | b, .row exprs =>
    match exprs with
    | [expr] => admits row b expr
    | _ => true
  | _, _ => true

@[simp] theorem readsEquality_and (row : Row) (l r : Expr) : readsEquality row .and l r = none := rfl

@[simp] theorem readsEquality_or (row : Row) (l r : Expr) : readsEquality row .or l r = none := rfl

theorem admits_and (row : Row) (b : Bool) (l r : Expr) :
    admits row b (.binaryOperation .and l r) =
      if b then admits row true l && admits row true r else admits row false l || admits row false r := rfl

theorem admits_or (row : Row) (b : Bool) (l r : Expr) :
    admits row b (.binaryOperation .or l r) =
      if b then admits row true l || admits row true r else admits row false l && admits row false r := rfl

theorem admits_not (row : Row) (b : Bool) (e : Expr) : admits row b (.unaryOperation .not e) = admits row (!b) e := rfl

theorem admits_parens (row : Row) (b : Bool) (e : Expr) : admits row b (.row [e]) = admits row b e := rfl

theorem admits_binary {row : Row} {b : Bool} {op : Op} (hand : op ≠ .and) (hor : op ≠ .or) :
    admits row b (.binaryOperation op l r) =
      match readsEquality row op l r with
      | some (text, v) => denotes text v == b
      | none => true := by
  cases op
  case and => exact absurd rfl hand
  case or => exact absurd rfl hor
  all_goals rfl

theorem admits_equality {row : Row} {b : Bool} {op : Op} {text : String}
    (h : readsEquality row op l r = some (text, v)) :
    admits row b (.binaryOperation op l r) = (denotes text v == b) := by
  rw [admits_binary (by rintro rfl; cases h) (by rintro rfl; cases h), h]

theorem admits_comparison {row : Row} {b : Bool} {op : Op} (hand : op ≠ .and) (hor : op ≠ .or)
    (h : readsEquality row op l r = none) : admits row b (.binaryOperation op l r) = true := by
  rw [admits_binary hand hor, h]

theorem admits_other {row : Row} {b : Bool} (hbinary : ∀ op l r, e ≠ .binaryOperation op l r)
    (hunary : ∀ op e', e ≠ .unaryOperation op e') (hparens : ∀ e', e ≠ .row [e']) : admits row b e = true := by
  cases e
  case binaryOperation op l r => exact absurd rfl (hbinary op l r)
  case unaryOperation op e' => exact absurd rfl (hunary op e')
  case row exprs =>
    match exprs with
    | [] => rfl
    | [e'] => exact absurd rfl (hparens e')
    | _ :: _ :: _ => rfl
  all_goals rfl

theorem expr_cases (e : Expr) :
    (∃ op l r, e = .binaryOperation op l r) ∨ (∃ op e', e = .unaryOperation op e') ∨ (∃ e', e = .row [e']) ∨
    ((∀ op l r, e ≠ .binaryOperation op l r) ∧ (∀ op e', e ≠ .unaryOperation op e') ∧ ∀ e', e ≠ .row [e']) := by
  by_cases hbinary : ∃ op l r, e = .binaryOperation op l r
  · exact .inl hbinary
  by_cases hunary : ∃ op e', e = .unaryOperation op e'
  · exact .inr (.inl hunary)
  by_cases hparens : ∃ e', e = .row [e']
  · exact .inr (.inr (.inl hparens))
  · push Not at hbinary hunary hparens
    exact .inr (.inr (.inr ⟨hbinary, hunary, hparens⟩))

theorem exists_evaluates (row : Row) (e : Expr) : ∃ a, Evaluates row e a := by
  rcases expr_cases e with ⟨op, l, r, rfl⟩ | ⟨op, e', rfl⟩ | ⟨e', rfl⟩ | ⟨hbinary, hunary, hparens⟩
  · by_cases hand : op = .and
    · subst hand
      obtain ⟨a, ha⟩ := exists_evaluates row l
      obtain ⟨b, hb⟩ := exists_evaluates row r
      exact ⟨_, .and ha hb⟩
    by_cases hor : op = .or
    · subst hor
      obtain ⟨a, ha⟩ := exists_evaluates row l
      obtain ⟨b, hb⟩ := exists_evaluates row r
      exact ⟨_, .or ha hb⟩
    cases h : readsEquality row op l r with
    | none => exact ⟨none, .comparison hand hor h⟩
    | some p => exact ⟨_, .equality h⟩
  · by_cases hnot : op = .not
    · subst hnot
      obtain ⟨a, ha⟩ := exists_evaluates row e'
      exact ⟨_, .not ha⟩
    · exact ⟨none, .operation hnot⟩
  · obtain ⟨a, ha⟩ := exists_evaluates row e'
    exact ⟨a, .parens ha⟩
  · exact ⟨none, .other hbinary hunary hparens⟩

theorem admits_of_evaluates {row : Row} (h : Evaluates row e a) {b : Bool} (ha : a = some b) :
    admits row b e = true := by
  induction h generalizing b with
  | and hl hr ihl ihr =>
    rw [admits_and]
    cases b
    · rcases and3_eq_false.mp ha with ha | ha
      · simp [ihl ha]
      · simp [ihr ha]
    · obtain ⟨hl', hr'⟩ := and3_eq_true.mp ha
      simp [ihl hl', ihr hr']
  | or hl hr ihl ihr =>
    rw [admits_or]
    cases b
    · obtain ⟨hl', hr'⟩ := or3_eq_false.mp ha
      simp [ihl hl', ihr hr']
    · rcases or3_eq_true.mp ha with ha | ha
      · simp [ihl ha]
      · simp [ihr ha]
  | not h ih =>
    rw [admits_not]
    exact ih (not3_eq_some.mp ha)
  | parens h ih =>
    rw [admits_parens]
    exact ih ha
  | equality h =>
    rw [admits_equality h, Option.some.inj ha]
    simp
  | comparison hand hor h => exact admits_comparison hand hor h
  | operation h => exact if_neg h
  | other hbinary hunary hparens => exact admits_other hbinary hunary hparens

theorem evaluates_of_admits (row : Row) (e : Expr) {b : Bool} (h : admits row b e = true) :
    Evaluates row e (some b) := by
  rcases expr_cases e with ⟨op, l, r, rfl⟩ | ⟨op, e', rfl⟩ | ⟨e', rfl⟩ | ⟨hbinary, hunary, hparens⟩
  · by_cases hand : op = .and
    · subst hand
      rw [admits_and] at h
      obtain ⟨al, hal⟩ := exists_evaluates row l
      obtain ⟨ar, har⟩ := exists_evaluates row r
      cases b
      · rcases Bool.or_eq_true _ _ ▸ h with hl | hr
        · have hl' := Evaluates.and (evaluates_of_admits row l hl) har
          rwa [and3_eq_false.mpr (.inl rfl)] at hl'
        · have hr' := Evaluates.and hal (evaluates_of_admits row r hr)
          rwa [and3_eq_false.mpr (.inr rfl)] at hr'
      · obtain ⟨hl, hr⟩ := Bool.and_eq_true _ _ ▸ h
        exact .and (evaluates_of_admits row l hl) (evaluates_of_admits row r hr)
    by_cases hor : op = .or
    · subst hor
      rw [admits_or] at h
      obtain ⟨al, hal⟩ := exists_evaluates row l
      obtain ⟨ar, har⟩ := exists_evaluates row r
      cases b
      · obtain ⟨hl, hr⟩ := Bool.and_eq_true _ _ ▸ h
        exact .or (evaluates_of_admits row l hl) (evaluates_of_admits row r hr)
      · rcases Bool.or_eq_true _ _ ▸ h with hl | hr
        · have hl' := Evaluates.or (evaluates_of_admits row l hl) har
          rwa [or3_eq_true.mpr (.inl rfl)] at hl'
        · have hr' := Evaluates.or hal (evaluates_of_admits row r hr)
          rwa [or3_eq_true.mpr (.inr rfl)] at hr'
    cases hread : readsEquality row op l r with
    | none => exact .comparison hand hor hread
    | some p =>
      rw [admits_equality hread, beq_iff_eq] at h
      rw [← h]
      exact .equality hread
  · by_cases hnot : op = .not
    · subst hnot
      rw [admits_not] at h
      have hn := Evaluates.not (evaluates_of_admits row e' h)
      simpa [not3] using hn
    · exact .operation hnot
  · rw [admits_parens] at h
    exact .parens (evaluates_of_admits row e' h)
  · exact .other hbinary hunary hparens

theorem evaluates_iff_admits (row : Row) (e : Expr) (b : Bool) : Evaluates row e (some b) ↔ admits row b e = true :=
  ⟨fun h => admits_of_evaluates h rfl, evaluates_of_admits row e⟩

end DataNexus.ShardingRewrite
