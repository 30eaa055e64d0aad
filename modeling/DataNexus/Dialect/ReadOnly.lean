/-
  Whether a text that `is_read_only` accepts really only reads.

  1. **What a text writes** — a data-modifying or DDL statement, a SELECT INTO or a row lock anywhere in it (`writes`).
     Of a text that the gateway's parser refuses the server is asked.

  2. **Where the code does not look** — for PostgreSQL everything below the head of the first statement (`hiddenWrites`)
     and the statements after it; for MySQL the locks that parser or formatter lost, INTO, and later statements.
-/
import DataNexus.Dialect.Classes
import DataNexus.Engine.Route

namespace DataNexus.Dialect

open DataNexus.Text DataNexus.Pdp DataNexus.Engine

/-! ## What is written -/

/-- The phrase has a write or a row lock somewhere. -/
def writes {p : Phrase} : Ast p → Bool
  | .nil => false
  | .cons head tail => writes head || writes tail
  | .query ctes body locks nested => !locks.isEmpty || (writes ctes || (writes body || writes nested))
  | .select into nested => into || writes nested
  | .innerQuery q => writes q
  | .setOperation left right => writes left || writes right
  | .values nested => writes nested
  | .insertExpr s => writes s
  | .updateExpr s => writes s
  | .tableExpr => false
  | .queryStmt q => writes q
  | .insert _ => true
  | .update _ => true
  | .delete _ => true
  | .merge _ => true
  | .ddl _ _ => true
  | .show _ => false
  | .explain analyze s => analyze && writes s
  | .explainTable => false
  | .utility _ nested => writes nested

/-- The writes at places where `statement_kind` does not look, below a head that reads. -/
def hiddenWrites {p : Phrase} : Ast p → Bool
  | .query ctes body _ nested => writes ctes || (hiddenWrites body || writes nested)
  | .select into nested => into || writes nested
  | .innerQuery q => hiddenWrites q
  | .setOperation left right => hiddenWrites left || hiddenWrites right
  | .values nested => writes nested
  | .insertExpr s => hiddenWrites s
  | .updateExpr s => hiddenWrites s
  | .queryStmt q => hiddenWrites q
  | .explain analyze s => analyze && writes s
  | _ => false

namespace MySql

/-- A locking clause stands somewhere in the derivation. -/
def hasLockClause {p : Part} : Tree p → Bool
  | .done => false
  | .text _ rest => hasLockClause rest
  | .inner q rest => hasLockClause q || hasLockClause rest
  | .hidden q rest => hasLockClause q || hasLockClause rest
  | .noClauses => false
  | .clauses c rest => hasLockClause c || hasLockClause rest
  | .specification items _ rest => hasLockClause items || hasLockClause rest
  | .values rows => hasLockClause rows
  | .table _ => false
  | .union left _ right => hasLockClause left || hasLockClause right
  | .ordered q orders => hasLockClause q || hasLockClause orders
  | .withClause ctes q => hasLockClause ctes || hasLockClause q
  | .parens q => hasLockClause q
  | .locked _ _ _ => true
  | .intoClause q _ => hasLockClause q
  | .intoParens q => hasLockClause q

def hasInto {p : Part} : Tree p → Bool
  | .done => false
  | .text _ rest => hasInto rest
  | .inner q rest => hasInto q || hasInto rest
  | .hidden q rest => hasInto q || hasInto rest
  | .noClauses => false
  | .clauses c rest => hasInto c || hasInto rest
  | .specification items into rest => into.isSome || (hasInto items || hasInto rest)
  | .values rows => hasInto rows
  | .table _ => false
  | .union left _ right => hasInto left || hasInto right
  | .ordered q orders => hasInto q || hasInto orders
  | .withClause ctes q => hasInto ctes || hasInto q
  | .parens q => hasInto q
  | .locked q _ _ => hasInto q
  | .intoClause _ _ => true
  | .intoParens q => hasInto q

/-- There is a locking clause, and none in the tree of the parser at a place that is printed. -/
def lostLock (q : Tree .select) : Bool := hasLockClause q && !printsLock (ast q)

def writes : Stmt → Bool
  | .select q => hasLockClause q || hasInto q
  | .insert => true
  | .update => true
  | .delete => true
  | .create => true
  | _ => false

def hiddenWrites : Stmt → Bool
  | .select q => lostLock q || hasInto q
  | _ => false

end MySql

/-- The parsers, and what a text that is refused does at the server. -/
structure Reading extends Parsers where
  serverWrites : Protocol → String → Bool

def Reading.textWrites (r : Reading) : Protocol → String → Bool
  | .postgreSql, sql =>
    match r.postgreSql sql with
    | some statements => statements.any writes
    | none => r.serverWrites .postgreSql sql
  | .mySql, sql =>
    match r.mySql sql with
    | some statements => statements.any MySql.writes
    | none => r.serverWrites .mySql sql

/-- `runtime_dialect_parser(protocol).is_read_only`. -/
def Reading.isReadOnly (r : Reading) : Protocol → String → Bool
  | .postgreSql, sql => postgreSqlIsReadOnly r.postgreSql sql
  | .mySql, sql => MySql.mySqlIsReadOnly r.mySql sql

/-- A read-only text writes nothing, and no policy with this classifier sends one that does to a replica. -/
structure Sound (r : Reading) (protocol : Protocol) (sql : String) : Prop where
  readOnly : r.isReadOnly protocol sql = true → r.textWrites protocol sql = false
  role : ∀ (policy : CoreRoutePolicy) (session : SessionState) (command : GatewayCommand),
    policy.isReadOnly = r.isReadOnly protocol →
    (command = .query sql ∨ ∃ parameters, command = .queryParams sql parameters) →
    policy.commandTargetRole command session = .read → r.textWrites protocol sql = false

/-- Nothing is written where the code does not look: below a first statement that reads, and after it. -/
def NothingHidden (r : Reading) (sql : String) : Protocol → Prop
  | .postgreSql =>
    match r.postgreSql sql with
    | some (first :: rest) => form first = .reading →
        hiddenWrites first = false ∧ ∀ s ∈ rest, writes s = false
    | some [] => True
    | none => structuredIsReadOnly sql = true → r.serverWrites .postgreSql sql = false
  | .mySql =>
    match r.mySql sql with
    | some (first :: rest) => MySql.form first = .reading →
        MySql.hiddenWrites first = false ∧ ∀ s ∈ rest, MySql.writes s = false
    | some [] => True
    | none => heuristicIsReadOnly .mySql sql = true → r.serverWrites .mySql sql = false

/-! ## The comparison -/

/-- **Below a head that reads, everything that is written is hidden.** -/
theorem writes_of_reading {p : Phrase} (a : Ast p) (h : form a = .reading) : writes a = hiddenWrites a := by
  induction a with
  | query ctes body locks nested _ ih _ =>
    have hlocks : locks.isEmpty = true := by
      by_contra hlocks
      rw [form, if_neg hlocks] at h
      cases h
    rw [form, if_pos hlocks] at h
    rw [writes, hiddenWrites, ih h, hlocks]
    rfl
  | innerQuery q ih => exact ih h
  | setOperation left right ihLeft ihRight =>
    have hboth : form left = .reading ∧ form right = .reading := by
      by_contra hboth
      rw [form, if_neg hboth] at h
      cases h
    rw [writes, hiddenWrites, ihLeft hboth.1, ihRight hboth.2]
  | insertExpr s ih => exact ih h
  | updateExpr s ih => exact ih h
  | queryStmt q ih => exact ih h
  | ddl kind nested _ =>
    rw [form] at h
    split at h <;> cases h
  | select into nested _ => rfl
  | values nested _ => rfl
  | tableExpr => rfl
  | «show» kind => rfl
  | explain analyze s _ => rfl
  | explainTable => rfl
  | _ => cases h

theorem MySql.writes_of_reading (s : MySql.Stmt) (h : MySql.form s = .reading) :
    MySql.writes s = MySql.hiddenWrites s := by
  cases s with
  | select q =>
    have hwords : ¬ hasLockWords q = true := by
      intro hwords
      rw [MySql.form, if_pos hwords] at h
      cases h
    -- a lock that is printed would have been found
    have hprints : printsLock (ast q) = false := by
      by_contra hprints
      exact hwords (hasLockWords_of_printsLock ((Bool.not_eq_false _).mp hprints))
    rw [MySql.writes, MySql.hiddenWrites, lostLock, hprints, Bool.not_false, Bool.and_true]
  | «show» => rfl
  | _ => cases h

theorem MySql.isReadOnly_stmtKind (s : MySql.Stmt) : (stmtKind s).isReadOnly = true ↔ MySql.form s = .reading := by
  cases s with
  | select q =>
    rw [stmtKind, MySql.form]
    split
    · exact iff_of_false (by rintro ⟨⟩) (by rintro ⟨⟩)
    · exact iff_of_true rfl rfl
  | «show» => exact iff_of_true rfl rfl
  | _ => exact iff_of_false (by rintro ⟨⟩) (by rintro ⟨⟩)

theorem any_eq_false_iff {α : Type} {f g : α → Bool} {first : α} (hfirst : f first = g first)
    (rest : List α) : (first :: rest).any f = false ↔ g first = false ∧ ∀ s ∈ rest, f s = false := by
  rw [List.any_cons, Bool.or_eq_false_iff, hfirst, List.any_eq_false]
  simp only [Bool.not_eq_true]

theorem readOnly_iff (r : Reading) (protocol : Protocol) (sql : String) :
    (r.isReadOnly protocol sql = true → r.textWrites protocol sql = false) ↔ NothingHidden r sql protocol := by
  cases protocol with
  | postgreSql =>
    rw [Reading.isReadOnly, Reading.textWrites, NothingHidden, postgreSqlIsReadOnly, classifyPostgreSqlAst]
    cases hparse : r.postgreSql sql with
    | none => exact Iff.rfl
    | some statements =>
      cases statements with
      | nil => exact iff_of_true (fun _ => rfl) trivial
      | cons first rest =>
        show ((kindOf first).isReadOnlyFromAst = true → _) ↔ _
        rw [(fits_kindOf first).reads]
        refine forall_congr' ?_
        intro hreading
        exact any_eq_false_iff (writes_of_reading first hreading) rest
  | mySql =>
    rw [Reading.isReadOnly, Reading.textWrites, NothingHidden, MySql.mySqlIsReadOnly, MySql.classifyMySqlSql]
    cases hparse : r.mySql sql with
    | none => exact Iff.rfl
    | some statements =>
      cases statements with
      | nil => exact iff_of_true (fun _ => rfl) trivial
      | cons first rest =>
        show ((MySql.stmtKind first).isReadOnly = true → _) ↔ _
        rw [MySql.isReadOnly_stmtKind]
        refine forall_congr' ?_
        intro hreading
        exact any_eq_false_iff (MySql.writes_of_reading first hreading) rest

theorem isReadOnly_of_role_read {policy : CoreRoutePolicy} {session : SessionState}
    {command : GatewayCommand} {sql : String}
    (hcommand : command = .query sql ∨ ∃ parameters, command = .queryParams sql parameters)
    (hrole : policy.commandTargetRole command session = .read) : policy.isReadOnly sql = true := by
  unfold CoreRoutePolicy.commandTargetRole at hrole
  split at hrole
  · exact absurd hrole nofun
  · rcases hcommand with rfl | ⟨parameters, rfl⟩ <;> dsimp only at hrole <;> split at hrole
    · assumption
    · exact absurd hrole nofun
    · assumption
    · exact absurd hrole nofun

/-- **Read-only routing is sound on a text exactly when nothing is hidden in it.** -/
theorem read_only_sound_iff (r : Reading) (protocol : Protocol) (sql : String) :
    Sound r protocol sql ↔ NothingHidden r sql protocol := by
  rw [← readOnly_iff]
  constructor
  · exact Sound.readOnly
  · intro hreadOnly
    refine ⟨hreadOnly, ?_⟩
    intro policy session command hpolicy hcommand hrole
    refine hreadOnly ?_
    rw [← hpolicy]
    exact isReadOnly_of_role_read hcommand hrole

def writingTexts : Reading where
  postgreSql := fun sql =>
    if sql = "EXPLAIN ANALYZE DELETE FROM users" then some [.explain true (.delete .nil)]
    else if sql = "WITH x AS (INSERT INTO t VALUES (1) RETURNING id) SELECT id FROM x" then
      some [.queryStmt (.query (.cons (.query .nil (.insertExpr (.insert .nil)) [] .nil) .nil)
        (.select false .nil) [] .nil)]
    else none
  mySql := fun sql =>
    if sql = "WITH c AS (SELECT 1) SELECT id FROM t FOR UPDATE" then
      some [.select (.locked (.withClause (.text "WITH c AS ".toList
          (.inner (.parens (.specification (.clauses .done (.clauses (.text ['1'] .done) .noClauses)) none
            .noClauses)) .done))
        (.specification (.clauses .done (.clauses (.text "id".toList .done) .noClauses)) none
          (.clauses (.text "FROM t".toList .done) .noClauses))) ⟨.update, none, []⟩ [])]
    else none
  serverWrites := fun _ _ => false

/-- An EXPLAIN ANALYZE DELETE, an INSERT in a WITH and a lock after a WITH go to a replica. -/
theorem explain_analyze_is_read : (writingTexts.isReadOnly .postgreSql "EXPLAIN ANALYZE DELETE FROM users" = true ∧
      writingTexts.textWrites .postgreSql "EXPLAIN ANALYZE DELETE FROM users" = true ∧
      ¬ Sound writingTexts .postgreSql "EXPLAIN ANALYZE DELETE FROM users") ∧ (writingTexts.isReadOnly .postgreSql
        "WITH x AS (INSERT INTO t VALUES (1) RETURNING id) SELECT id FROM x" = true ∧
      writingTexts.textWrites .postgreSql
        "WITH x AS (INSERT INTO t VALUES (1) RETURNING id) SELECT id FROM x" = true) ∧
    (writingTexts.isReadOnly .mySql "WITH c AS (SELECT 1) SELECT id FROM t FOR UPDATE" = true ∧
      writingTexts.textWrites .mySql "WITH c AS (SELECT 1) SELECT id FROM t FOR UPDATE" = true) := by
  have hread : writingTexts.isReadOnly .postgreSql "EXPLAIN ANALYZE DELETE FROM users" = true := by
    decide
  have hwrites : writingTexts.textWrites .postgreSql "EXPLAIN ANALYZE DELETE FROM users" = true := by
    decide
  refine ⟨⟨hread, hwrites, ?_⟩, by decide, by decide⟩
  intro hsound
  exact absurd (hwrites.symm.trans (hsound.readOnly hread)) nofun

end DataNexus.Dialect
