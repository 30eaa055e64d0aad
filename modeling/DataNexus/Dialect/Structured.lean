/-
  The classifiers that read the text of a statement: `HeuristicDialectParser` of the core, by the first
  word, and `PostgreSqlStructuredDialectParser` of the runtime, which strips comments first.  They decide
  on the texts that the real parsers refuse.
-/
import DataNexus.Pdp.Policy

namespace DataNexus.Dialect

open DataNexus.Text DataNexus.Pdp

/-- `ProtocolKind`, of the two that have a dialect. -/
inductive Protocol where
  | mySql
  | postgreSql
deriving DecidableEq

/-! ## HeuristicDialectParser -/

/-- A row lock, as the classifiers look for one in an upper-cased text. -/
def hasRowLockClause (upper : List Char) : Bool :=
  contains " FOR UPDATE".toList upper || contains " FOR SHARE".toList upper ||
    contains " FOR NO KEY UPDATE".toList upper || contains " FOR KEY SHARE".toList upper

def readKeywords : Protocol → List String
  | .mySql => ["SELECT", "SHOW", "EXPLAIN", "DESCRIBE", "DESC", "WITH", "VALUES"]
  | .postgreSql => ["SELECT", "SHOW", "EXPLAIN", "WITH", "VALUES", "TABLE"]

/-- `HeuristicDialectParser::is_read_only`. -/
def heuristicIsReadOnly (protocol : Protocol) (sql : String) : Bool :=
  let upper := toAsciiUppercase (trimStart sql.toList)
  let token := trimEndMatches (· == ';') ((firstWord upper).getD [])
  (readKeywords protocol).contains (String.ofList token) && !hasRowLockClause upper

/-! ## PostgreSqlStructuredDialectParser -/

/-- Where the scan of `strip_sql_comments` is. -/
inductive StripMode where
  | code
  | single
  | double
  | line
  | block

/-- The loop of `strip_sql_comments`.  A block comment becomes a space; one that is not closed ends before
    the last character. -/
def strip : StripMode → List Char → List Char
  | .block, [] => [' ']
  | _, [] => []
  | .single, '\'' :: '\'' :: rest => '\'' :: '\'' :: strip .single rest
  | .single, c :: rest => c :: strip (if c = '\'' then .code else .single) rest
  | .double, '"' :: '"' :: rest => '"' :: '"' :: strip .double rest
  | .double, c :: rest => c :: strip (if c = '"' then .code else .double) rest
  | .line, c :: rest => if c = '\n' then '\n' :: strip .code rest else strip .line rest
  | .block, '*' :: '/' :: rest => ' ' :: strip .code rest
  | .block, [c] => [' ', c]
  | .block, _ :: c :: rest => strip .block (c :: rest)
  | .code, '-' :: '-' :: rest => strip .line rest
  | .code, '/' :: '*' :: rest => strip .block rest
  | .code, c :: rest =>
    c :: strip (if c = '\'' then .single else if c = '"' then .double else .code) rest

/-- `strip_sql_comments`: it goes by bytes, each of which it pushes as a character. -/
def stripSqlComments (sql : List Char) : List Char := strip .code ((utf8 sql).map fun b => Char.ofNat b.toNat)

def isAsciiWhitespace (c : Char) : Bool := c == ' ' || c == '\t' || c == '\n' || c == '\x0C' || c == '\r'

def isTokenChar (c : Char) : Bool := c.isAlpha || c == '_'

def firstSqlToken (upper : List Char) : Option String :=
  let rest := upper.dropWhile fun c => isAsciiWhitespace c || c == '('
  let token := rest.takeWhile isTokenChar
  if token.isEmpty then none else some (String.ofList token)

def containsDmlAfterWith (upper : List Char) : Bool :=
  let compact := upper.map fun c => if c = '\n' then ' ' else c
  [" INSERT ", " UPDATE ", " DELETE ", "\nINSERT ", "\nUPDATE ", "\nDELETE "].any
      (fun needle => contains needle.toList upper) ||
    [") INSERT ", ") UPDATE ", ") DELETE ", " INSERT INTO", " UPDATE ", " DELETE FROM"].any
      (fun needle => contains needle.toList compact)

inductive PostgresStmtKind where
  | select
  | table
  | values
  | with
  | show
  | explain
  | insert
  | update
  | delete
  | begin
  | commit
  | rollback
  | set
  | copy
  | other
deriving DecidableEq

/-- The words that `classify_postgresql_sql` knows as another statement. -/
def otherWords : List String :=
  ["CREATE", "ALTER", "DROP", "TRUNCATE", "VACUUM", "ANALYZE", "REINDEX", "CLUSTER", "CALL", "DO",
    "LISTEN", "NOTIFY", "UNLISTEN", "LOCK", "GRANT", "REVOKE", "COMMENT", "SECURITY", "PREPARE",
    "EXECUTE", "DEALLOCATE", "DECLARE", "FETCH", "MOVE", "CLOSE", "DISCARD"]

def classifyPostgreSqlSql (sql : String) : Option PostgresStmtKind :=
  let trimmed := trimStart (stripSqlComments sql.toList)
  match firstSqlToken (toAsciiUppercase trimmed) with
  | none => none
  | some token =>
    if token = "SELECT" then some .select
    else if token = "TABLE" then some .table
    else if token = "VALUES" then some .values
    else if token = "WITH" then some .with
    else if token = "SHOW" then some .show
    else if token = "EXPLAIN" then some .explain
    else if token = "INSERT" then some .insert
    else if token = "UPDATE" then some .update
    else if token = "DELETE" then some .delete
    else if token = "BEGIN" ∨ token = "START" then some .begin
    else if token = "COMMIT" ∨ token = "END" then some .commit
    else if token = "ROLLBACK" ∨ token = "ABORT" then some .rollback
    else if token = "SET" then some .set
    else if token = "COPY" then some .copy
    else if token ∈ otherWords then some .other
    else none

def PostgresStmtKind.isReadOnly (kind : PostgresStmtKind) (sql : String) : Bool :=
  let upper := toAsciiUppercase (stripSqlComments sql.toList)
  if hasRowLockClause upper then false
  else
    match kind with
    | .select | .table | .values | .show | .explain => true
    | .with => !containsDmlAfterWith upper
    | _ => false

def PostgresStmtKind.leadingKeyword : PostgresStmtKind → String
  | .select => "SELECT"
  | .table => "TABLE"
  | .values => "VALUES"
  | .with => "WITH"
  | .show => "SHOW"
  | .explain => "EXPLAIN"
  | .insert => "INSERT"
  | .update => "UPDATE"
  | .delete => "DELETE"
  | .begin => "BEGIN"
  | .commit => "COMMIT"
  | .rollback => "ROLLBACK"
  | .set => "SET"
  | .copy => "COPY"
  | .other => "OTHER"

/-- `PostgreSqlStructuredDialectParser::is_read_only`. -/
def structuredIsReadOnly (sql : String) : Bool :=
  match classifyPostgreSqlSql sql with
  | some kind => kind.isReadOnly sql
  | none => heuristicIsReadOnly .postgreSql sql

/-- `PostgreSqlStructuredDialectParser::leading_keyword`. -/
def structuredLeadingKeyword (sql : String) : Option String :=
  match classifyPostgreSqlSql sql with
  | some kind => some kind.leadingKeyword
  | none => leadingKeyword sql

end DataNexus.Dialect
