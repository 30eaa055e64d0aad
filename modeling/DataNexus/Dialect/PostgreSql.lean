/-
  `PostgreSqlAstDialectParser`: a statement is classified by the first tree that `sqlparser` gives.

  The tree has what the classification looks at, and every query in it: `nested` are the subqueries of
  expressions, of a FROM and of the other clauses, in any place.  `Extract.Sql` has the same statements
  with their tables and expressions and without locks and statement kinds.
-/
import DataNexus.Dialect.Structured

namespace DataNexus.Dialect

open DataNexus.Text DataNexus.Pdp

/-! ## The tree -/

inductive LockType where
  | share
  | update
deriving DecidableEq

/-- The statements that define or change a schema. -/
inductive DdlKind where
  | createTable
  | createView
  | createIndex
  | createSchema
  | createDatabase
  | createFunction
  | createProcedure
  | createType
  | createSequence
  | createRole
  | createVirtualTable
  | createTrigger
  | createPolicy
  | createExtension
  | createMacro
  | createStage
  | createSecret
  | drop
  | dropFunction
  | dropProcedure
  | dropTrigger
  | dropPolicy
  | dropSecret
  | alterTable
  | alterIndex
  | alterView
  | alterRole
  | alterPolicy
  | truncate
deriving DecidableEq

inductive ShowKind where
  | variable
  | variables
  | create
  | columns
  | tables
  | functions
  | collation
  | status
deriving DecidableEq

/-- The other statements; `other`: those that `statement_kind` has no case for or lists as `Other`. -/
inductive UtilityKind where
  | copy
  | startTransaction
  | commit
  | rollback
  | set
  | other
deriving DecidableEq

inductive Phrase where
  | query
  | setExpr
  | stmt
  | many (p : Phrase)

inductive Ast : Phrase → Type where
  | nil {p : Phrase} : Ast (.many p)
  | cons {p : Phrase} (head : Ast p) (tail : Ast (.many p)) : Ast (.many p)
  /-- `Query`: the bodies of its WITH, its own body, its locks. -/
  | query (ctes : Ast (.many .query)) (body : Ast .setExpr) (locks : List LockType)
      (nested : Ast (.many .query)) : Ast .query
  -- SetExpr
  | select (into : Bool) (nested : Ast (.many .query)) : Ast .setExpr
  | innerQuery (q : Ast .query) : Ast .setExpr
  | setOperation (left right : Ast .setExpr) : Ast .setExpr
  | values (nested : Ast (.many .query)) : Ast .setExpr
  | insertExpr (s : Ast .stmt) : Ast .setExpr
  | updateExpr (s : Ast .stmt) : Ast .setExpr
  | tableExpr : Ast .setExpr
  -- Statement
  | queryStmt (q : Ast .query) : Ast .stmt
  | insert (nested : Ast (.many .query)) : Ast .stmt
  | update (nested : Ast (.many .query)) : Ast .stmt
  | delete (nested : Ast (.many .query)) : Ast .stmt
  | merge (nested : Ast (.many .query)) : Ast .stmt
  | ddl (kind : DdlKind) (nested : Ast (.many .query)) : Ast .stmt
  | show (kind : ShowKind) : Ast .stmt
  | explain (analyze : Bool) (s : Ast .stmt) : Ast .stmt
  | explainTable : Ast .stmt
  | utility (kind : UtilityKind) (nested : Ast (.many .query)) : Ast .stmt

/-! ## The classification -/

inductive PostgresAstKind where
  | select
  | values
  | show
  | explain
  | insert
  | update
  | delete
  | begin
  | commit
  | rollback
  | set
  | copy
  | create
  | other
deriving DecidableEq

def PostgresAstKind.isReadOnlyFromAst : PostgresAstKind → Bool
  | .select | .values | .show | .explain => true
  | _ => false

def PostgresAstKind.leadingKeyword : PostgresAstKind → String
  | .select => "SELECT"
  | .values => "VALUES"
  | .show => "SHOW"
  | .explain => "EXPLAIN"
  | .insert => "INSERT"
  | .update => "UPDATE"
  | .delete => "DELETE"
  | .begin => "BEGIN"
  | .commit => "COMMIT"
  | .rollback => "ROLLBACK"
  | .set => "SET"
  | .copy => "COPY"
  | .create => "CREATE"
  | .other => "OTHER"

/-- The CREATE statements that `statement_kind` lists. -/
def DdlKind.isListedCreate : DdlKind → Bool
  | .createTable | .createView | .createIndex | .createSchema | .createDatabase | .createFunction
  | .createProcedure | .createType | .createSequence | .createRole | .createVirtualTable => true
  | _ => false

/-- `statement_kind`, `query_kind` and `set_expr_kind`. -/
def kindOf {p : Phrase} : Ast p → PostgresAstKind
  -- query_kind
  | .query _ body locks _ => if locks.isEmpty then kindOf body else .other
  -- set_expr_kind
  | .select _ _ => .select
  | .values _ => .values
  | .innerQuery q => kindOf q
  | .setOperation left right =>
    if (kindOf left).isReadOnlyFromAst && (kindOf right).isReadOnlyFromAst then .select else .other
  | .insertExpr s => kindOf s
  | .updateExpr s => kindOf s
  | .tableExpr => .select
  -- statement_kind
  | .queryStmt q => kindOf q
  | .insert _ => .insert
  | .update _ => .update
  | .delete _ => .delete
  | .merge _ => .other
  | .ddl kind _ => if kind.isListedCreate then .create else .other
  | .show kind => if kind = .status then .other else .show
  | .explain _ _ => .explain
  | .explainTable => .explain
  | .utility .copy _ => .copy
  | .utility .startTransaction _ => .begin
  | .utility .commit _ => .commit
  | .utility .rollback _ => .rollback
  | .utility .set _ => .set
  | .utility .other _ => .other
  | .nil => .other
  | .cons _ _ => .other

/-- `classify_postgresql_ast`; `parse` is `SqlParser::parse_sql`, without an error or a panic. -/
def classifyPostgreSqlAst (parse : String → Option (List (Ast .stmt))) (sql : String) : Option PostgresAstKind :=
  match parse sql with
  | some (first :: _) => some (kindOf first)
  | _ => none

/-- `PostgreSqlAstDialectParser::is_read_only`. -/
def postgreSqlIsReadOnly (parse : String → Option (List (Ast .stmt))) (sql : String) : Bool :=
  match classifyPostgreSqlAst parse sql with
  | some kind => kind.isReadOnlyFromAst
  | none => structuredIsReadOnly sql

/-- `PostgreSqlAstDialectParser::leading_keyword`. -/
def postgreSqlLeadingKeyword (parse : String → Option (List (Ast .stmt))) (sql : String) : Option String :=
  match classifyPostgreSqlAst parse sql with
  | some kind => some kind.leadingKeyword
  | none => structuredLeadingKeyword sql

end DataNexus.Dialect
