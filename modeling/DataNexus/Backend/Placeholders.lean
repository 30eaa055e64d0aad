/-
  Parameters bound into the text (`bind_pg_placeholders` of `backend/postgresql.rs`).

  The highest parameter goes first, and each is one replacement over the text as it is by then, so a replacement also
  reads what earlier ones have written.

  1. **Program** — `countPgPlaceholders`, `gatewayValueSqlLiteral`, `bindPgPlaceholders`.

  2. **Specification** — `substitute`: the tokens that PostgreSQL reads as placeholders become literals.

  3. **The crux** — `pass_partialText`: one pass puts `n` in place, as long as `$n` begins nowhere but at its
     placeholders (`Apart`).
-/
import DataNexus.Backend.Params
import DataNexus.Lib.SqlText
import DataNexus.Lib.Substitute

namespace DataNexus.Placeholders

open DataNexus.Digits DataNexus.LittleEndian DataNexus.Params DataNexus.SqlText DataNexus.Substitute

/-! ## Program -/

/-- `n.saturating_mul(10).saturating_add(digit)` over the digits of a number, in `u16`. -/
def saturatingNum (digits : List Char) : Nat :=
  digits.foldl (fun n c => min 65535 (min 65535 (n * 10) + (c.toNat - '0'.toNat))) 0

/-- A dollar with digits behind it is counted, wherever it stands. -/
def dollarAt : Scan.Step Unit Char Nat := fun _ c tail =>
  if c = '$' ∧ tail.head?.any Char.isDigit = true then
    ([saturatingNum (tail.takeWhile Char.isDigit)], (), tail.dropWhile Char.isDigit)
  else ([], (), tail)

def countPgPlaceholders (sql : List Char) : Nat := (Scan.tokens dollarAt () sql).foldl max 0

def isFinite (bits : UInt64) : Bool := bits.toNat / 2 ^ 52 % 2048 != 2047

-- How a floating point number is written is the standard library's.
variable (showFloat : UInt64 → List Char)

def gatewayValueSqlLiteral : GatewayValue → List Char
  | .null => "NULL".toList
  | .boolean b => if b then "TRUE".toList else "FALSE".toList
  | .integer i => decimal i
  | .unsignedInteger n => Nat.toDigits 10 n
  | .float bits => if isFinite bits then showFloat bits else "NULL".toList
  | .decimal s => s.toList
  | .string s => '\'' :: replaceAll ['\''] ['\'', '\''] s.toList ++ ['\'']
  | .bytes b => "E'\\\\x".toList ++ b.flatMap hexByte ++ ['\'']

/-- How the parameter `n` is written in the text. -/
def dollar (n : Nat) : List Char := '$' :: Nat.toDigits 10 n

/-- The literal of the parameter `n`. -/
def literalOf (parameters : List GatewayValue) (n : Nat) : List Char :=
  ((parameters[n - 1]?).map (gatewayValueSqlLiteral showFloat)).getD []

def bindPgPlaceholders (sql : List Char) (parameters : List GatewayValue) : Except GatewayError (List Char) :=
  let need := countPgPlaceholders sql
  if need ≠ parameters.length then
    .error (.protocol s!"postgresql prepared Execute expects {need} parameters, got {parameters.length}")
  else if need = 0 then .ok sql
  else .ok ((List.range' 1 need).reverse.foldl
    (fun out n => replaceAll (dollar n) (literalOf showFloat parameters n) out) sql)

/-! ## Specification -/

def index (t : Token) : Option Nat := if t.kind = .placeholder then some (num (t.text.drop 1)) else none

def required (sql : List Char) : Nat := ((lex .postgreSql sql).filterMap index).foldl max 0

/-- A token with the parameters above `n` in place. -/
def written (literals : Nat → List Char) (n : Nat) (t : Token) : List Char :=
  match index t with
  | some k => if n < k then literals k else t.text
  | none => t.text

/-- The text with the parameters above `n` in place. -/
def partialText (literals : Nat → List Char) (n : Nat) (sql : List Char) : List Char :=
  (lex .postgreSql sql).flatMap (written literals n)

/-- The text with all parameters in place, at once. -/
def substitute (parameters : List GatewayValue) (sql : List Char) : List Char :=
  partialText (literalOf showFloat parameters) 0 sql

/-! ## When the replacements do that -/

/-- The text with the parameters above `n` in place, the placeholders of `n` marked. -/
def marked (literals : Nat → List Char) (n : Nat) (sql : List Char) : List (Option (List Char)) :=
  (lex .postgreSql sql).map fun t => if index t = some n then none else some (written literals n t)

/-- A placeholder is written without zeros in front. -/
def Plain (t : Token) : Prop := ∀ n, index t = some n → 0 < n → t.text = dollar n

instance (t : Token) : Decidable (Plain t) :=
  match h : index t with
  | none => .isTrue fun n hn => by rw [h] at hn; cases hn
  | some k =>
    if hk : 0 < k → t.text = dollar k then
      .isTrue fun n hn hpos => by
        obtain rfl : k = n := Option.some.inj (h.symm.trans hn)
        exact hk hpos
    else .isFalse fun hplain => hk (hplain k h)

/-- The placeholders are counted and written plainly, and at its turn `$n` begins nowhere else. -/
structure Apart (literals : Nat → List Char) (sql : List Char) : Prop where
  counted : countPgPlaceholders sql = required sql
  plain : ∀ t ∈ lex .postgreSql sql, Plain t
  apart : ∀ n < required sql, OnlyAtMarks (dollar (n + 1)) (marked literals (n + 1) sql)

theorem apart_iff (literals : Nat → List Char) (sql : List Char) :
    Apart literals sql ↔ countPgPlaceholders sql = required sql ∧ (∀ t ∈ lex .postgreSql sql, Plain t) ∧
      ∀ n < required sql, OnlyAtMarks (dollar (n + 1)) (marked literals (n + 1) sql) :=
  ⟨fun h => ⟨h.counted, h.plain, h.apart⟩, fun h => ⟨h.1, h.2.1, h.2.2⟩⟩

instance (literals : Nat → List Char) (sql : List Char) : Decidable (Apart literals sql) :=
  decidable_of_iff _ (apart_iff literals sql).symm

/-! ## The passes -/

variable {literals : Nat → List Char} {sql : List Char}

theorem dollar_ne_nil (n : Nat) : dollar n ≠ [] := List.cons_ne_nil _ _

theorem le_foldl_max (ns : List Nat) (m : Nat) : m ≤ ns.foldl max m ∧ ∀ n ∈ ns, n ≤ ns.foldl max m := by
  induction ns generalizing m with
  | nil => exact ⟨Nat.le_refl m, fun n hn => absurd hn List.not_mem_nil⟩
  | cons a ns ih =>
    obtain ⟨hm, hns⟩ := ih (max m a)
    refine ⟨Nat.le_trans (Nat.le_max_left m a) hm, fun n hn => ?_⟩
    rcases List.mem_cons.mp hn with rfl | hn
    · exact Nat.le_trans (Nat.le_max_right m n) hm
    · exact hns n hn

theorem index_le_required {t : Token} {k : Nat} (ht : t ∈ lex .postgreSql sql) (hk : index t = some k) :
    k ≤ required sql :=
  (le_foldl_max _ 0).2 k (List.mem_filterMap.mpr ⟨t, ht, hk⟩)

theorem partialText_required (literals : Nat → List Char) (sql : List Char) :
    partialText literals (required sql) sql = sql := by
  have hwritten : ∀ t ∈ lex .postgreSql sql, written literals (required sql) t = t.text := by
    intro t ht
    unfold written
    cases hk : index t with
    | none => rfl
    | some k => exact if_neg (Nat.not_lt.mpr (index_le_required ht hk))
  show (lex .postgreSql sql).flatMap (written literals (required sql)) = sql
  rw [List.flatMap_congr hwritten]
  exact flatMap_lex .postgreSql sql

theorem expand_map (f : Token → Option (List Char)) (x : List Char) (ts : List Token) :
    expand x (ts.map f) = ts.flatMap fun t => (f t).getD x := by
  unfold expand
  rw [List.flatMap_map]

theorem expand_dollar (hplain : ∀ t ∈ lex .postgreSql sql, Plain t) (n : Nat) :
    expand (dollar (n + 1)) (marked literals (n + 1) sql) = partialText literals (n + 1) sql := by
  unfold marked
  rw [expand_map]
  refine List.flatMap_congr fun t ht => ?_
  by_cases hk : index t = some (n + 1)
  · rw [if_pos hk]
    unfold written
    rw [hk]
    show dollar (n + 1) = if n + 1 < n + 1 then literals (n + 1) else t.text
    rw [if_neg (Nat.lt_irrefl _)]
    exact (hplain t ht (n + 1) hk (Nat.succ_pos n)).symm
  · rw [if_neg hk]
    rfl

theorem expand_literal (n : Nat) :
    expand (literals (n + 1)) (marked literals (n + 1) sql) = partialText literals n sql := by
  unfold marked
  rw [expand_map]
  refine List.flatMap_congr fun t ht => ?_
  unfold written
  cases hk : index t with
  | none => rfl
  | some k =>
    by_cases heq : k = n + 1
    · subst heq
      rw [if_pos rfl]
      show literals (n + 1) = if n < n + 1 then literals (n + 1) else t.text
      rw [if_pos (Nat.lt_succ_self n)]
    · rw [if_neg fun hsome => heq (Option.some.inj hsome)]
      show (if n + 1 < k then literals k else t.text) = if n < k then literals k else t.text
      have hiff : n + 1 < k ↔ n < k := by omega
      rw [if_congr hiff rfl rfl]

variable {n : Nat}

/-- **One pass.** -/
theorem pass_partialText (h : Apart literals sql) (hn : n < required sql) :
    replaceAll (dollar (n + 1)) (literals (n + 1)) (partialText literals (n + 1) sql) = partialText literals n sql := by
  rw [← expand_dollar h.plain, replaceAll_expand (dollar_ne_nil (n + 1)) _ (h.apart n hn), expand_literal]

/-- **All passes.**  Induction on the number of parameters that are still to come. -/
theorem passes_partialText (h : Apart literals sql) (hn : n ≤ required sql) :
    (List.range' 1 n).reverse.foldl (fun out n => replaceAll (dollar n) (literals n) out) (partialText literals n sql) =
      partialText literals 0 sql := by
  induction n with
  | zero => rfl
  | succ n ih =>
    rw [List.range'_1_concat, List.reverse_append, List.foldl_append, Nat.add_comm 1 n]
    show (List.range' 1 n).reverse.foldl _ (replaceAll (dollar (n + 1)) (literals (n + 1)) _) = _
    rw [pass_partialText h hn]
    exact ih (Nat.le_of_succ_le hn)

/-! ## The result -/

/-- **Binding is simultaneous substitution** where the passes do not meet; otherwise a miscounted text is refused. -/
theorem bind_substitutes (sql : List Char) (parameters : List GatewayValue) (hlen : parameters.length = required sql) :
    (countPgPlaceholders sql ≠ required sql → ∃ e, bindPgPlaceholders showFloat sql parameters = .error e) ∧
      (Apart (literalOf showFloat parameters) sql →
        bindPgPlaceholders showFloat sql parameters = .ok (substitute showFloat parameters sql)) := by
  unfold bindPgPlaceholders
  dsimp only
  constructor
  · intro hne
    rw [if_pos fun heq => hne (heq.trans hlen)]
    exact ⟨_, rfl⟩
  · intro h
    have hall := passes_partialText h (Nat.le_refl _)
    rw [partialText_required] at hall
    rw [if_neg fun hne => hne (h.counted.trans hlen.symm), h.counted]
    by_cases hzero : required sql = 0
    · rw [if_pos hzero]
      rw [hzero] at hall
      exact congrArg Except.ok hall
    · rw [if_neg hzero]
      exact congrArg Except.ok hall

/-- A literal with a parameter in it, and the name that a comment keeps. -/
theorem plain_text_bound :
    Apart (literalOf (fun _ => []) [.string "it's", .integer (-3)]) "SELECT $1 WHERE id=$2 -- no $".toList ∧
      bindPgPlaceholders (fun _ => []) "SELECT $1 WHERE id=$2 -- no $".toList [.string "it's", .integer (-3)] =
        .ok "SELECT 'it''s' WHERE id=-3 -- no $".toList := by
  have hapart : Apart (literalOf (fun _ => []) [.string "it's", .integer (-3)]) "SELECT $1 WHERE id=$2 -- no $".toList := by
    decide
  refine ⟨hapart, ((bind_substitutes (fun _ => []) _ [.string "it's", .integer (-3)] (by decide)).2 hapart).trans ?_⟩
  decide

theorem text_of_parameter_substituted :
    ¬ ∀ (showFloat : UInt64 → List Char) (sql : List Char) (parameters : List GatewayValue),
      parameters.length = required sql →
      bindPgPlaceholders showFloat sql parameters = .ok (substitute showFloat parameters sql) := by
  intro h
  have hbound := h (fun _ => []) "SELECT $1, $2".toList [.string " OR 1=1 --", .string "$1"] (by decide)
  revert hbound
  decide

end DataNexus.Placeholders
