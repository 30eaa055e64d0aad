/-
  `MySqlAstDialectParser`: a statement is classified by the first tree of the project's own `mysql_parser`,
  and a SELECT by the text that `format` makes of its tree.

  1. **The grammar** — `Tree` is a derivation of `select_stmt` in `grammar.y`: a constructor for each
     production of a query expression, with the pieces of its clauses below.

  2. **Its actions** — `ast` builds the tree that the parser returns; unexpected clauses are dropped (`_ => $1`).

  3. **The text** — `format` prints that tree, and the classifier looks for lock words in it.
-/
import DataNexus.Dialect.PostgreSql

namespace DataNexus.Dialect.MySql

open DataNexus.Text DataNexus.Pdp

inductive LockStrength where
  | update
  | share
  | inShare
deriving DecidableEq

inductive LockedRowAction where
  | skipLocked
  | noWait
deriving DecidableEq

structure LockClause where
  lockStrength : LockStrength
  lockedRowAction : Option LockedRowAction
  tables : List (List Char)
deriving DecidableEq

inductive UnionOpt where
  | distinct
  | all
deriving DecidableEq

/-! ## The grammar -/

inductive Part where
  | select
  | clause
  | clauses
  | union

inductive Tree : Part → Type where
  -- a clause, as its text and the selects in it
  | done : Tree .clause
  | text (s : List Char) (rest : Tree .clause) : Tree .clause
  | inner (q : Tree .select) (rest : Tree .clause) : Tree .clause
  /-- A select inside an expression that the parser keeps as text (a function call, a CAST); the text is
      the piece before it. -/
  | hidden (q : Tree .select) (rest : Tree .clause) : Tree .clause
  | noClauses : Tree .clauses
  | clauses (c : Tree .clause) (rest : Tree .clauses) : Tree .clauses
  /-- `query_specification`: the options and items, INTO, and the clauses from FROM to WINDOW. -/
  | specification (items : Tree .clauses) (into : Option (List Char)) (rest : Tree .clauses) :
      Tree .select
  | values (rows : Tree .clause) : Tree .select
  | table (ident : List Char) : Tree .select
  | union (left : Tree .select) (option : Option UnionOpt) (right : Tree .select) : Tree .select
  | ordered (q : Tree .select) (orders : Tree .clauses) : Tree .select
  | withClause (ctes : Tree .clause) (q : Tree .select) : Tree .select
  /-- `query_expression_parens`. -/
  | parens (q : Tree .select) : Tree .select
  | locked (q : Tree .select) (first : LockClause) (more : List LockClause) : Tree .select
  | intoClause (q : Tree .select) (into : List Char) : Tree .select
  /-- The parentheses of `select_stmt_with_into`. -/
  | intoParens (q : Tree .select) : Tree .select

/-! ## The tree of the parser -/

/-- `SelectStmt`, with clauses as above. -/
inductive Ast : Part → Type where
  | done : Ast .clause
  | text (s : List Char) (rest : Ast .clause) : Ast .clause
  | inner (q : Ast .select) (rest : Ast .clause) : Ast .clause
  | noClauses : Ast .clauses
  | clauses (c : Ast .clause) (rest : Ast .clauses) : Ast .clauses
  | noUnion : Ast .union
  | unionQuery (q : Ast .select) : Ast .union
  | query (items : Ast .clauses) (into : Option (List Char)) (rest orders : Ast .clauses)
      (lockClauses : List LockClause) (unionOpt : Option UnionOpt) (union : Ast .union) : Ast .select
  | subQuery (q : Ast .select) (unionOpt : Option UnionOpt) (union : Ast .union)
      (into : Option (List Char)) (orders : Ast .clauses) : Ast .select
  | withQuery (ctes : Ast .clause) (body : Ast .select) : Ast .select
  | valueConstructor (rows : Ast .clause) : Ast .select
  | explicitTable (ident : List Char) : Ast .select

/-- The derivation is one of `query_expression_parens`. -/
def isParens : Tree .select → Bool
  | .parens _ => true
  | _ => false

/-- `q.lock_clauses = ..`, of a `Query` only. -/
def setLocks (locks : List LockClause) : Ast .select → Ast .select
  | .query items into rest orders _ unionOpt union => .query items into rest orders locks unionOpt union
  | q => q

/-- The UNION productions: those for a body set a `Query`, those for parentheses a `SubQuery`. -/
def setUnion (parens : Bool) (option : Option UnionOpt) (right : Ast .select) : Ast .select → Ast .select
  | .query items into rest orders locks unionOpt union =>
    if parens then .query items into rest orders locks unionOpt union
    else .query items into rest orders locks option (.unionQuery right)
  | .subQuery q unionOpt union into orders =>
    if parens then .subQuery q option (.unionQuery right) into orders
    else .subQuery q unionOpt union into orders
  | q => q

def setOrders (parens : Bool) (orders : Ast .clauses) : Ast .select → Ast .select
  | .query items into rest before locks unionOpt union =>
    .query items into rest (if parens then before else orders) locks unionOpt union
  | .subQuery q unionOpt union into before =>
    .subQuery q unionOpt union into (if parens then orders else before)
  | q => q

def setInto (parens : Bool) (clause : List Char) : Ast .select → Ast .select
  | .query items into rest orders locks unionOpt union =>
    .query items (if parens then into else some clause) rest orders locks unionOpt union
  | .subQuery q unionOpt union into orders =>
    .subQuery q unionOpt union (if parens then some clause else into) orders
  | q => q

def ast {p : Part} : Tree p → Ast p
  | .done => .done
  | .text s rest => .text s (ast rest)
  | .inner q rest => .inner (ast q) (ast rest)
  | .hidden _ rest => ast rest
  | .noClauses => .noClauses
  | .clauses c rest => .clauses (ast c) (ast rest)
  | .specification items into rest => .query (ast items) into (ast rest) .noClauses [] none .noUnion
  | .values rows => .valueConstructor (ast rows)
  | .table ident => .explicitTable ident
  | .union left option right => setUnion (isParens left) option (ast right) (ast left)
  | .ordered q orders => setOrders (isParens q) (ast orders) (ast q)
  | .withClause ctes q => .withQuery (ast ctes) (ast q)
  | .parens q => .subQuery (ast q) none .noUnion none .noClauses
  | .locked q first more => setLocks (first :: more) (ast q)
  | .intoClause q into => setInto (isParens q) into (ast q)
  | .intoParens q => ast q

/-! ## The text -/

def LockStrength.format : LockStrength → List Char
  | .update => ['F', 'O', 'R', ' ', 'U', 'P', 'D', 'A', 'T', 'E']
  | .share => ['F', 'O', 'R', ' ', 'S', 'H', 'A', 'R', 'E']
  | .inShare => ['L', 'O', 'C', 'K', ' ', 'I', 'N', ' ', 'S', 'H', 'A', 'R', 'E', ' ', 'M', 'O', 'D', 'E']

def LockClause.format (clause : LockClause) : List Char :=
  clause.lockStrength.format ++
    (if clause.tables.isEmpty then [] else [' ', 'O', 'F', ' '] ++ [','].intercalate clause.tables) ++
    match clause.lockedRowAction with
    | none => []
    | some .skipLocked => [' ', 'S', 'K', 'I', 'P', ' ', 'L', 'O', 'C', 'K', 'E', 'D']
    | some .noWait => [' ', 'N', 'O', 'W', 'A', 'I', 'T']

def UnionOpt.format : UnionOpt → List Char
  | .distinct => ['D', 'I', 'S', 'T', 'I', 'N', 'C', 'T']
  | .all => ['A', 'L', 'L']

/-- A UNION without an option has the word itself here. -/
def unionWord : Option UnionOpt → Ast .union → List Char
  | some option, _ => [' ', 'U', 'N', 'I', 'O', 'N', ' '] ++ option.format
  | none, .unionQuery _ => [' ', 'U', 'N', 'I', 'O', 'N']
  | none, .noUnion => []

/-- `SelectStmt::format`.  The parts of a query are joined with spaces; each but the first brings its own
    here. -/
def format {p : Part} : Ast p → List Char
  | .done => []
  | .text s rest => s ++ format rest
  | .inner q rest => format q ++ format rest
  | .noClauses => []
  | .clauses c rest => ' ' :: format c ++ format rest
  | .noUnion => []
  | .unionQuery q => ' ' :: format q
  | .query items into rest orders locks unionOpt union =>
    ['S', 'E', 'L', 'E', 'C', 'T'] ++ format items ++
      (into.elim [] ([' ', 'I', 'N', 'T', 'O', ' '] ++ ·)) ++ format rest ++ format orders ++
      locks.flatMap (' ' :: ·.format) ++ unionWord unionOpt union ++ format union
  | .subQuery q _ _ _ _ => ['(', ' '] ++ format q ++ [' ', ')']
  | .withQuery ctes body => format ctes ++ ' ' :: format body
  | .valueConstructor rows => ['V', 'A', 'L', 'U', 'E', 'S', ' '] ++ format rows
  | .explicitTable ident => ['T', 'A', 'B', 'L', 'E', ' '] ++ ident

/-! ## The classification -/

/-- `SqlStmt`; the SHOW statements and the CREATE statements have one constructor each, and
    `noStatement` is what stands between two semicolons. -/
inductive Stmt where
  | select (q : Tree .select)
  | show
  | insert
  | update
  | delete
  | begin
  | commit
  | rollback
  | set
  | prepare
  | execute
  | deallocate
  | create
  | noStatement

inductive MysqlStmtKind where
  | select
  | show
  | insert
  | update
  | delete
  | begin
  | commit
  | rollback
  | set
  | prepare
  | execute
  | deallocate
  | create
  | other
deriving DecidableEq

def MysqlStmtKind.isReadOnly : MysqlStmtKind → Bool
  | .select | .show => true
  | _ => false

def MysqlStmtKind.leadingKeyword : MysqlStmtKind → String
  | .select => "SELECT"
  | .show => "SHOW"
  | .insert => "INSERT"
  | .update => "UPDATE"
  | .delete => "DELETE"
  | .begin => "BEGIN"
  | .commit => "COMMIT"
  | .rollback => "ROLLBACK"
  | .set => "SET"
  | .prepare => "PREPARE"
  | .execute => "EXECUTE"
  | .deallocate => "DEALLOCATE"
  | .create => "CREATE"
  | .other => "OTHER"

/-- The formatted text of a SELECT has the words of a lock. -/
def hasLockWords (q : Tree .select) : Bool :=
  let formatted := toAsciiUppercase (format (ast q))
  hasRowLockClause formatted || contains " LOCK IN SHARE MODE".toList formatted

def stmtKind : Stmt → MysqlStmtKind
  | .select q => if hasLockWords q then .other else .select
  | .show => .show
  | .insert => .insert
  | .update => .update
  | .delete => .delete
  | .begin => .begin
  | .commit => .commit
  | .rollback => .rollback
  | .set => .set
  | .prepare => .prepare
  | .execute => .execute
  | .deallocate => .deallocate
  | .create => .create
  | .noStatement => .other

/-- `classify_mysql_sql`; `parse` is the generated parser, without an error or a panic. -/
def classifyMySqlSql (parse : String → Option (List Stmt)) (sql : String) : Option MysqlStmtKind :=
  match parse sql with
  | some (first :: _) => some (stmtKind first)
  | _ => none

/-- `MySqlAstDialectParser::is_read_only`. -/
def mySqlIsReadOnly (parse : String → Option (List Stmt)) (sql : String) : Bool :=
  match classifyMySqlSql parse sql with
  | some kind => kind.isReadOnly
  | none => heuristicIsReadOnly .mySql sql

/-- `MySqlAstDialectParser::leading_keyword`. -/
def mySqlLeadingKeyword (parse : String → Option (List Stmt)) (sql : String) : Option String :=
  match classifyMySqlSql parse sql with
  | some kind => some kind.leadingKeyword
  | none => leadingKeyword sql

/-! ## Locks that are printed are found -/

/-- The tree has a lock at a place that `format` prints. -/
def printsLock {p : Part} : Ast p → Bool
  | .text _ rest => printsLock rest
  | .inner q rest => printsLock q || printsLock rest
  | .clauses c rest => printsLock c || printsLock rest
  | .unionQuery q => printsLock q
  | .query items _ rest orders locks _ union =>
    printsLock items || printsLock rest || printsLock orders || !locks.isEmpty || printsLock union
  | .subQuery q _ _ _ _ => printsLock q
  | .withQuery ctes body => printsLock ctes || printsLock body
  | .valueConstructor rows => printsLock rows
  | _ => false

/-- One of the words of a lock stands in the text. -/
def HasLock (s : List Char) : Prop := ∃ strength : LockStrength, ' ' :: strength.format <:+: s

variable {s t : List Char}

theorem HasLock.of_infix (h : HasLock s) (hst : s <:+: t) : HasLock t := by
  obtain ⟨strength, hin⟩ := h
  exact ⟨strength, hin.trans hst⟩

theorem HasLock.left (h : HasLock s) (t : List Char) : HasLock (s ++ t) := h.of_infix (List.prefix_append s t).isInfix

theorem HasLock.right (h : HasLock t) (s : List Char) : HasLock (s ++ t) := h.of_infix (List.suffix_append s t).isInfix

theorem HasLock.cons {t : List Char} (h : HasLock t) (c : Char) : HasLock (c :: t) :=
  h.of_infix (List.suffix_cons c t).isInfix

theorem hasLock_flatMap {locks : List LockClause} (h : locks ≠ []) : HasLock (locks.flatMap (' ' :: ·.format)) := by
  cases locks with
  | nil => exact absurd rfl h
  | cons first more =>
    refine ⟨first.lockStrength, ?_⟩
    rw [List.flatMap_cons, LockClause.format, List.append_assoc]
    have hbegins := List.prefix_append (' ' :: first.lockStrength.format)
    exact ((hbegins _).trans (List.prefix_append _ _)).isInfix

/-- **A lock at a printed place is in the text.** -/
theorem hasLock_format {p : Part} (a : Ast p) (h : printsLock a = true) : HasLock (format a) := by
  induction a with
  | text s rest ih =>
    rw [format]
    exact (ih h).right s
  | inner q rest ihQ ihRest =>
    rw [format]
    rcases Bool.or_eq_true_iff.mp h with hq | hrest
    · exact (ihQ hq).left _
    · exact (ihRest hrest).right _
  | clauses c rest ihC ihRest =>
    rw [format]
    rcases Bool.or_eq_true_iff.mp h with hc | hrest
    · exact ((ihC hc).cons ' ').left _
    · exact (ihRest hrest).right _
  | unionQuery q ih =>
    rw [format]
    exact (ih h).cons ' '
  | query items into rest orders locks unionOpt union ihItems ihRest ihOrders ihUnion =>
    rw [format]
    rw [printsLock, Bool.or_eq_true_iff, Bool.or_eq_true_iff, Bool.or_eq_true_iff, Bool.or_eq_true_iff] at h
    rcases h with (((hitems | hrest) | horders) | hlocks) | hunion
    · exact ((((((ihItems hitems).right _).left _).left _).left _).left _).left _ |>.left _
    · exact (((((ihRest hrest).right _).left _).left _).left _).left _
    · exact ((((ihOrders horders).right _).left _).left _).left _
    · have hne : locks ≠ [] := by
        intro hnil
        rw [hnil] at hlocks
        exact absurd hlocks nofun
      exact (((hasLock_flatMap hne).right _).left _).left _
    · exact (ihUnion hunion).right _
  | subQuery q unionOpt union into orders ihQ _ _ =>
    rw [format]
    exact ((ihQ h).right _).left _
  | withQuery ctes body ihCtes ihBody =>
    rw [format]
    rcases Bool.or_eq_true_iff.mp h with hctes | hbody
    · exact (ihCtes hctes).left _
    · exact ((ihBody hbody).cons ' ').right _
  | valueConstructor rows ih =>
    rw [format]
    exact (ih h).right _
  | _ => exact absurd h nofun

theorem hasLockWords_of_printsLock {q : Tree .select} (h : printsLock (ast q) = true) : hasLockWords q = true := by
  obtain ⟨strength, before, after, htext⟩ := hasLock_format (ast q) h
  have hupper : toAsciiUppercase (' ' :: strength.format) <:+: toAsciiUppercase (format (ast q)) := by
    refine ⟨toAsciiUppercase before, toAsciiUppercase after, ?_⟩
    unfold toAsciiUppercase
    rw [← List.map_append, ← List.map_append, htext]
  have hfound := contains_of_infix hupper
  unfold hasLockWords hasRowLockClause
  dsimp only
  cases strength with
  | update =>
    have hword : contains " FOR UPDATE".toList (toAsciiUppercase (format (ast q))) = true := hfound
    rw [hword]
    rfl
  | share =>
    have hword : contains " FOR SHARE".toList (toAsciiUppercase (format (ast q))) = true := hfound
    rw [hword, Bool.or_true]
    rfl
  | inShare =>
    have hword : contains " LOCK IN SHARE MODE".toList (toAsciiUppercase (format (ast q))) = true := hfound
    rw [hword, Bool.or_true]

end DataNexus.Dialect.MySql
