/-
  What one client session carries (`gateway/core/src/model.rs`, `config.rs`, `protocol/postgresql`).

  Decoder, engine and connector all write to `SessionState`.  Two fields couple frontend and PostgreSQL connector:

  * `pgClientExtendedFrames` — the client's own Parse / Bind / Describe / Execute frames since the last
    Sync, buffered by the decoder and taken by the connector when it relays them;
  * `pgExtTcpHold` — set by the connector while the backend session of such a unit waits for Sync.

  A frame is kept as the message that `decode_frontend_message` reads from it, together with its bytes.
-/
import DataNexus.Model

namespace DataNexus

/-! ## Endpoints -/

inductive EndpointRole where
  | read
  | readWrite
deriving DecidableEq

/-- `EndpointConfig`, without credentials and TLS settings. -/
structure EndpointConfig where
  name : String
  address : String
  database : Option String
  role : EndpointRole
  username : String
  /-- A `u32`. -/
  weight : Nat
deriving DecidableEq

/-! ## Messages of a PostgreSQL client -/

/-- What a Describe or a Close is about: `b'S'` or anything else, which the gateway treats as a portal. -/
inductive DescribeTarget where
  | statement
  | portal
deriving DecidableEq

inductive FrontendMessage where
  | query (sql : String)
  | terminate
  | sync
  | parse (statement query : String)
  | bind (portal statement : String) (parameters : List (Option String)) (resultFormats : List Int)
  | describe (target : DescribeTarget) (name : String)
  | execute (portal : String) (maxRows : Int)
  | close (target : DescribeTarget) (name : String)
  | flush
deriving DecidableEq

structure ClientFrame where
  bytes : List UInt8
  message : FrontendMessage
deriving DecidableEq

/-- The frame's tag is `b'E'`. -/
def ClientFrame.isExecute (f : ClientFrame) : Bool :=
  match f.message with
  | .execute _ _ => true
  | _ => false

/-- The frame's tag is `b'D'`. -/
def ClientFrame.isDescribe (f : ClientFrame) : Bool :=
  match f.message with
  | .describe _ _ => true
  | _ => false

def ClientFrame.boundPortal (f : ClientFrame) : Option String :=
  match f.message with
  | .bind portal _ _ _ => some portal
  | _ => none

/-! ## The session -/

structure SessionState where
  user : Option String
  database : Option String
  charset : Option String
  backendEndpoint : Option String
  transactionState : TransactionState
  /-- The next result set uses binary rows. -/
  preferBinaryResult : Bool
  /-- An extended-query unit is open: only Sync answers ReadyForQuery. -/
  pgExtendedQuery : Bool
  /-- Messages are ignored until Sync. -/
  pgExtendedError : Bool
  /-- The row limit of the client's Execute. -/
  pgExecuteMaxRows : Option Nat
  resultTruncated : Bool
  pgPortalName : Option String
  pgPortalSkipRows : Nat
  /-- Set by the frontend on Bind / Close / Sync: the engine drops a held row stream. -/
  pgDropPortalHold : Bool
  pgClientExtendedFrames : List ClientFrame
  pgExtTcpHold : Bool
deriving DecidableEq

def SessionState.default : SessionState where
  user := none
  database := none
  charset := none
  backendEndpoint := none
  transactionState := .idle
  preferBinaryResult := false
  pgExtendedQuery := false
  pgExtendedError := false
  pgExecuteMaxRows := none
  resultTruncated := false
  pgPortalName := none
  pgPortalSkipRows := 0
  pgDropPortalHold := false
  pgClientExtendedFrames := []
  pgExtTcpHold := false

/-- An error answer moves an open transaction to `Failed`; any other state stays. -/
def TransactionState.afterError : TransactionState → TransactionState
  | .active => .failed
  | other => other

end DataNexus
