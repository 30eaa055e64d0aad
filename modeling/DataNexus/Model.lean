/-
  The gateway's protocol-neutral data model (`gateway/core/src/model.rs`, `obligations.rs`).

  A frontend decodes client bytes into a `GatewayCommand`; a backend connector answers with a
  `GatewayResponse`; the policy decision point attaches `Obligations` to what it allows.  These are the
  types all other modules speak.

  A `f64` cell is kept as its bit pattern: the gateway only moves it around.
-/
import Mathlib.Algebra.GroupWithZero.Nat
import Mathlib.Data.List.Basic

namespace DataNexus

/-! ## Errors -/

inductive GatewayError where
  | configuration (message : String)
  | protocol (message : String)
  | backend (message : String)
  | unsupported (message : String)
deriving DecidableEq

/-- `Display for GatewayError`. -/
def GatewayError.text : GatewayError → String
  | .configuration m => "configuration error: " ++ m
  | .protocol m => "protocol error: " ++ m
  | .backend m => "backend error: " ++ m
  | .unsupported m => "unsupported operation: " ++ m

/-- How a call ends that does not return `Ok`: with `Err`, or the task unwinds. -/
inductive Halt where
  | error (e : GatewayError)
  | panicked
deriving DecidableEq

/-- `UnsupportedSqlCapability`: statements the gateway refuses to pass on at all. -/
inductive UnsupportedSqlCapability where
  | postgresCopyProgram
  | postgresCopyFile
  | postgresDo
  | storedProcedureCall
  | mysqlLoadData
  | mysqlOutfile
  | postgresMaintenance
  | crossDialectStatement
  | privilegedCatalogSession
deriving DecidableEq

def UnsupportedSqlCapability.asStr : UnsupportedSqlCapability → String
  | .postgresCopyProgram => "postgres.copy_program"
  | .postgresCopyFile => "postgres.copy_file"
  | .postgresDo => "postgres.do"
  | .storedProcedureCall => "stored_procedure.call"
  | .mysqlLoadData => "mysql.load_data"
  | .mysqlOutfile => "mysql.outfile"
  | .postgresMaintenance => "postgres.maintenance"
  | .crossDialectStatement => "sql.cross_dialect"
  | .privilegedCatalogSession => "sql.privileged_catalog_session"

def UnsupportedSqlCapability.all : List UnsupportedSqlCapability :=
  [.postgresCopyProgram, .postgresCopyFile, .postgresDo, .storedProcedureCall, .mysqlLoadData,
    .mysqlOutfile, .postgresMaintenance, .crossDialectStatement, .privilegedCatalogSession]

def UnsupportedSqlCapability.fromCode (value : String) : Option UnsupportedSqlCapability :=
  UnsupportedSqlCapability.all.find? (·.asStr == value)

/-! ## Protocols and sessions -/

inductive ProtocolKind where
  | mySql
  | postgreSql
deriving DecidableEq

/-- `TransactionState`: what the frontend tells the client about its transaction. -/
inductive TransactionState where
  | idle
  | active
  | failed
deriving DecidableEq

/-! ## Values, commands, responses -/

inductive GatewayValue where
  | null
  | boolean (b : Bool)
  | integer (i : Int)
  | unsignedInteger (n : Nat)
  | float (bits : UInt64)
  | decimal (text : String)
  | string (text : String)
  | bytes (data : List UInt8)
deriving DecidableEq

structure Column where
  name : String
  dataType : String
deriving DecidableEq

/-- `GatewayCommand`: what a frontend asks of a backend. -/
inductive GatewayCommand where
  | query (sql : String)
  /-- Parameters stay beside the text; the backend binds them. -/
  | queryParams (sql : String) (parameters : List GatewayValue)
  | prepare (sql : String)
  | execute (statementId : String) (parameters : List GatewayValue)
  | closeStatement (statementId : String)
  /-- Column metadata of a text, no rows. -/
  | describeSql (sql : String)
  /-- Frontend-only packets that the backend hands back unchanged. -/
  | clientWire (packets : List (List UInt8))
  /-- Client Sync while a relay session is held open. -/
  | pgBackendSync
  | useDatabase (database : String)
  | begin
  | commit
  | rollback
  | ping
  | quit
deriving DecidableEq

inductive GatewayResponse where
  | ok (affectedRows : Nat) (lastInsertId : Option Nat)
  | commandComplete (tag : String)
  | error (code message : String)
  | resultSet (columns : List Column) (rows : List (List GatewayValue))
  | taggedResultSet (columns : List Column) (rows : List (List GatewayValue)) (tag : String)
  | wire (packets : List (List UInt8))
  | prepared (statementId : String) (parameterCount : Nat) (columns : List Column)
  | rowDescription (columns : List Column)
  | pong
  | bye
deriving DecidableEq

/-- `ExecuteMode`: how a backend connector returns a result. -/
inductive ExecuteMode where
  | materialized
  | streaming (windowRows : Nat) (maxRows : Option Nat)
  | passthrough
deriving DecidableEq

def ExecuteMode.fromStreamingConfig (windowRows : Nat) (maxRows : Option Nat) : ExecuteMode :=
  .streaming (max windowRows 1) maxRows

def ExecuteMode.promoteRowStream : ExecuteMode → ExecuteMode
  | .materialized => ExecuteMode.fromStreamingConfig 256 none
  | other => other

def ExecuteMode.isPassthrough : ExecuteMode → Bool
  | .passthrough => true
  | _ => false

/-! ## Obligations -/

inductive MaskAlgorithm where
  | nullify
  | partialMask
  | hash
  | replace
  | keepPrefix
deriving DecidableEq

/-- `MaskSpec`: one column mask. -/
structure MaskSpec where
  column : String
  algorithm : MaskAlgorithm
  replaceWith : String
  prefixLen : Nat
  suffixLen : Nat
  rule : String
deriving DecidableEq

inductive WatermarkMode where
  | column
  | suffix
deriving DecidableEq

structure WatermarkSpec where
  mode : WatermarkMode
  column : String
  token : String
deriving DecidableEq

/-- `Obligations`: what the enforcement point owes after an allow. -/
structure Obligations where
  columnMasks : List MaskSpec
  rowFilter : Option String
  maxRows : Option Nat
  auditLevel : Option String
  watermark : Option WatermarkSpec
deriving DecidableEq

/-- `Obligations::default`. -/
def Obligations.none : Obligations := ⟨[], Option.none, Option.none, Option.none, Option.none⟩

/-- `Obligations::has_result_obligations`.  A row filter is not among them: it was already written
    into the statement text. -/
def Obligations.hasResultObligations (o : Obligations) : Bool :=
  !o.columnMasks.isEmpty || o.maxRows.isSome || o.watermark.isSome

end DataNexus
