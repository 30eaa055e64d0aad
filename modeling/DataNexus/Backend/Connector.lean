/-
  The PostgreSQL backend connector of one client session: connections, slots and their moves
  (`backend/postgresql.rs`, `backend/pg_tcp_relay.rs`, `proxy/pool/src/conn_pool.rs`).

  POOLED connections are driven by the database driver, RELAY sessions are raw sockets.  Slots of an open transaction:

      txnLease    the pooled connection of the transaction
      tcpTxn      the relay session of the transaction
      tcpExtHold  the relay session of an extended-query unit that waits for Sync

  Dropping a pooled connection files it in the pool, dropping a relay session closes the socket.  Not in the source: `log`
  keeps what was handed to which connection, `inBlock` whether the SERVER has it inside a transaction block.
-/
import DataNexus.Session
import DataNexus.Stream.Rows
import Mathlib.Logic.Function.Basic

namespace DataNexus.Backend

open DataNexus.Stream

/-! ## Connections -/

/-- A backend connection: the pool key it was built for and a serial number. -/
structure Conn where
  key : String
  serial : Nat
deriving DecidableEq

inductive Sent where
  | simpleQuery (sql : String)
  /-- A prepare of the driver (Describe of an unknown result). -/
  | prepare (sql : String)
  /-- Prepare, bind and execute through the driver. -/
  | bound (sql : String) (parameters : List GatewayValue)
  /-- The Parse / Bind / Describe / Execute / Sync unit that the gateway builds itself. -/
  | textBind (sql : String) (parameters : List GatewayValue)
  | frame (f : ClientFrame)
  /-- The Describe(portal) that the gateway adds to a unit without one. -/
  | describePortal (portal : String)
  | flush
  | sync
deriving DecidableEq

/-- A producer task that has not finished: it owns its connection. -/
structure Producer where
  conn : Conn
  /-- `lease_slot` is `Some`: the connection goes to `txn_lease` at the end. -/
  toLease : Bool
deriving DecidableEq

/-- `PostgreSqlBackendConnector`. -/
structure Connector where
  endpoints : List EndpointConfig
  /-- Capacity of one pool queue. -/
  poolSize : Nat
  /-- `max_per_key` of the idle relay sessions. -/
  tcpIdleMax : Nat
  txnLease : Option Conn
  tcpTxn : Option Conn
  tcpExtHold : Option Conn
  /-- Idle pooled connections, oldest first; one queue per key. -/
  pool : List Conn
  /-- Idle relay sessions, oldest first. -/
  tcpIdle : List Conn
  producers : List Producer
  /-- `PreparedRegistry`. -/
  preparedNext : Nat
  preparedSql : String → Option String
  nextSerial : Nat
  inBlock : Conn → Bool
  log : List (Conn × Sent)

def Connector.withEndpoints (endpoints : List EndpointConfig) : Connector where
  endpoints := endpoints
  poolSize := 16
  tcpIdleMax := 4
  txnLease := none
  tcpTxn := none
  tcpExtHold := none
  pool := []
  tcpIdle := []
  producers := []
  preparedNext := 0
  preparedSql := fun _ => none
  nextSerial := 0
  inBlock := fun _ => false
  log := []

namespace Connector

/-- Hand `sent` to `conn`; `after` tells whether the server is in a transaction block then. -/
def send (c : Connector) (conn : Conn) (sent : Sent) (after : Bool) : Connector :=
  { c with log := c.log ++ [(conn, sent)], inBlock := Function.update c.inBlock conn after }

/-- Hand several things to `conn`, with no effect on a transaction block yet. -/
def sendAll (c : Connector) (conn : Conn) (sent : List Sent) : Connector :=
  { c with log := c.log ++ sent.map fun s => (conn, s) }

def freshConn (c : Connector) (key : String) : Conn × Connector :=
  (⟨key, c.nextSerial⟩, { c with nextSerial := c.nextSerial + 1 })

/-- `PoolConn::drop`: back to its queue, unless that is full. -/
def putConn (c : Connector) (conn : Conn) : Connector :=
  if (c.pool.filter (·.key == conn.key)).length < c.poolSize then
    { c with pool := c.pool ++ [conn] }
  else c

/-- `*self.txn_lease.lock() = slot`.  The assignment drops the old value. -/
def setLease (c : Connector) (slot : Option Conn) : Connector :=
  match c.txnLease with
  | none => { c with txnLease := slot }
  | some old => { c.putConn old with txnLease := slot }

def storeLease (c : Connector) (conn : Conn) : Connector := c.setLease (some conn)

/-- A statement is over: the lease keeps the connection of a transaction, any other is dropped. -/
def giveBack (c : Connector) (inTransaction : Bool) (conn : Conn) : Connector :=
  if inTransaction then c.storeLease conn else c.putConn conn

/-- `tokio::spawn` of the producer: it owns the connection from here on. -/
def spawnProducer (c : Connector) (conn : Conn) (toLease : Bool) : Connector :=
  { c with producers := c.producers ++ [⟨conn, toLease⟩] }

/-- `PgTcpIdlePool::put`: a full queue loses its oldest session. -/
def putIdle (c : Connector) (conn : Conn) : Connector :=
  match c.tcpIdle.find? (·.key == conn.key) with
  | some old =>
    if c.tcpIdleMax ≤ (c.tcpIdle.filter (·.key == conn.key)).length then
      { c with tcpIdle := c.tcpIdle.erase old ++ [conn] }
    else { c with tcpIdle := c.tcpIdle ++ [conn] }
  | none => { c with tcpIdle := c.tcpIdle ++ [conn] }

end Connector

/-- `in_txn` of `execute_outcome` and `execute_simple_query_wire`. -/
def Connector.inTxn (c : Connector) (session : SessionState) : Bool :=
  session.transactionState == .active || c.txnLease.isSome || c.tcpTxn.isSome

/-- `in_txn` of `execute_param_query` and of the `DescribeSql` branch. -/
def Connector.leasing (c : Connector) (session : SessionState) : Bool :=
  session.transactionState == .active || c.txnLease.isSome

/-! ## Configuration -/

def selectEndpoint (c : Connector) (session : SessionState) : Except GatewayError EndpointConfig :=
  match session.backendEndpoint with
  | some name =>
    match c.endpoints.find? (·.name == name) with
    | some endpoint => .ok endpoint
    | none => .error (.configuration
        ("postgresql backend connector has no configured endpoint '" ++ name ++ "'"))
  | none =>
    match c.endpoints.head? with
    | some endpoint => .ok endpoint
    | none => .error (.configuration "postgresql backend connector has no configured endpoints")

def effectiveDatabase (endpoint : EndpointConfig) (session : SessionState) : Except GatewayError String :=
  match session.database.or endpoint.database with
  | some database => .ok database
  | none =>
    .error (.configuration "postgresql backend connector requires a database to be selected")

def postgresqlPoolKey (endpoint : EndpointConfig) (database : String) : String := endpoint.address ++ "|" ++ database

/-- `PgTcpIdlePool::pool_key`. -/
def tcpPoolKey (endpoint : EndpointConfig) (database : String) : String :=
  endpoint.address ++ "|" ++ database ++ "|" ++ endpoint.username

/-! ## What the world answers -/

structure AcquireIo where
  /-- `parse_endpoint_address`. -/
  address : Except GatewayError Unit
  /-- The idle connection that was popped answers the ping. -/
  pingOk : Bool
  /-- Building a connection, retries included. -/
  build : Except GatewayError Unit

/-- `query_raw` of a prepared statement. -/
inductive RawStart where
  | rows (items : List TypedItem)
  /-- The driver refuses because the statement returns no rows; the code then runs `execute`. -/
  | noRows
  | failed (e : GatewayError)

structure PoolIo where
  acquire : AcquireIo
  /-- `conn.client` is `Some`. -/
  clientOpen : Bool
  /-- What `BEGIN` gives. -/
  begin : Except GatewayError GatewayResponse
  /-- What a materialized statement gives. -/
  statement : Except GatewayError GatewayResponse
  /-- `simple_query_raw`. -/
  start : Except GatewayError (List SimpleItem)
  /-- `conformed_param_statement` or `get_or_prepare`, with the declared columns. -/
  prepare : Except GatewayError (List Column)
  queryRaw : RawStart
  /-- `execute` of the prepared statement. -/
  execute : Except GatewayError Nat
  /-- The server is in a transaction block after the statement. -/
  blockAfter : Bool

/-- The frames a relayed response yields until it ends. -/
structure RelayEnd where
  packets : List (List UInt8)
  /-- A socket error instead of the end of the response. -/
  failed : Option GatewayError
  /-- The server is in a transaction block afterwards, if no ReadyForQuery told. -/
  blockAfter : Bool

structure RelayIo where
  /-- The idle session has not expired and answers the probe. -/
  healthy : Conn → Bool
  connect : Except GatewayError Unit
  /-- What collecting the response to `BEGIN` gives. -/
  begin : Except GatewayError (List (List UInt8))
  write : Except GatewayError Unit
  response : RelayEnd

structure FinishIo where
  clientOpen : Bool
  statement : Except GatewayError GatewayResponse
  relay : Except GatewayError (List (List UInt8))

/-- One call of `execute_outcome`: it may try several paths in turn. -/
structure CallIo where
  pool : PoolIo
  relay : RelayIo
  frames : RelayIo
  textBind : RelayIo
  finish : FinishIo

/-- A statement on a pooled connection where every step works; the examples change what has to fail. -/
def PoolIo.works : PoolIo where
  acquire := ⟨.ok (), true, .ok ()⟩
  clientOpen := true
  begin := .ok (.ok 0 none)
  statement := .ok (.ok 0 none)
  start := .ok [.rowDescription ["id"]]
  prepare := .ok [⟨"id", "int4"⟩]
  queryRaw := .rows []
  execute := .ok 0
  blockAfter := false

/-- A relayed statement where every step works. -/
def RelayIo.works : RelayIo where
  healthy := fun _ => true
  connect := .ok ()
  begin := .ok []
  write := .ok ()
  response := ⟨[], none, false⟩

def CallIo.works : CallIo where
  pool := .works
  relay := .works
  frames := .works
  textBind := .works
  finish := ⟨true, .ok (.ok 0 none), .ok []⟩

/-- `observation.error_response`: some frame is an ErrorResponse. -/
def RelayEnd.errorResponse (e : RelayEnd) : Bool := e.packets.any fun p => p.head? == some 69

/-- The transaction status in a ReadyForQuery frame. -/
def readyByte (packet : List UInt8) : Option UInt8 := if packet.head? == some 90 then packet[5]? else none

/-- `ready_status`: the last ReadyForQuery frame counts. -/
def RelayEnd.readyStatus (e : RelayEnd) : Option UInt8 := (e.packets.filterMap readyByte).getLast?

/-- What the server reported last, else what the record says. -/
def RelayEnd.inBlock (e : RelayEnd) : Bool :=
  match e.readyStatus with
  | some b => b == 84 || b == 69
  | none => e.blockAfter

/-! ## Pooled connections -/

namespace Connector

def buildConn (c : Connector) (key : String) (io : AcquireIo) : Except GatewayError Conn × Connector :=
  match io.build with
  | .error e => (.error e, c)
  | .ok () => (.ok (c.freshConn key).1, (c.freshConn key).2)

/-- `acquire_conn`: an idle connection that answers the ping, or a new one. -/
def acquireConn (c : Connector) (endpoint : EndpointConfig) (session : SessionState)
    (io : AcquireIo) : Except GatewayError Conn × Connector :=
  match io.address with
  | .error e => (.error e, c)
  | .ok () =>
    match effectiveDatabase endpoint session with
    | .error e => (.error e, c)
    | .ok database =>
      match c.pool.find? (·.key == postgresqlPoolKey endpoint database) with
      | none => c.buildConn (postgresqlPoolKey endpoint database) io
      | some conn =>
        if io.pingOk then (.ok conn, { c with pool := c.pool.erase conn })
        else
          { c with pool := c.pool.erase conn }.buildConn (postgresqlPoolKey endpoint database) io

def takeOrAcquireLease (c : Connector) (endpoint : EndpointConfig) (session : SessionState)
    (io : AcquireIo) : Except GatewayError Conn × Connector :=
  match c.txnLease with
  | some conn => (.ok conn, { c with txnLease := none })
  | none => c.acquireConn endpoint session io

end Connector

/-- The error of a pooled connection without a client. -/
def notOpen : GatewayError := .backend "postgresql backend connection is not open"

/-- `execute_on_conn`: `answer` is what the driver and the conversion of its messages give. -/
def executeOnConn (c : Connector) (conn : Conn) (sql : String) (clientOpen : Bool)
    (answer : Except GatewayError GatewayResponse) (after : Bool) : Except GatewayError GatewayResponse × Connector :=
  if clientOpen then (answer, c.send conn (.simpleQuery sql) after)
  else (.error notOpen, c)

/-- `matches!(response, GatewayResponse::Ok { .. })`. -/
def isOkResponse : GatewayResponse → Bool
  | .ok _ _ => true
  | _ => false

def succeeded {ε α : Type} : Except ε α → Bool
  | .ok _ => true
  | .error _ => false

inductive Lease where
  | failed (e : GatewayError)
  /-- `BEGIN` was answered with something else than Ok; the statement is not run. -/
  | answered (response : GatewayResponse)
  | on (conn : Conn)

/-- The opening lines of every statement inside a transaction: `need_begin`, `take_or_acquire_lease`, `BEGIN`. -/
def leaseForStatement (c : Connector) (endpoint : EndpointConfig) (session : SessionState)
    (io : PoolIo) : Lease × Connector :=
  match c.takeOrAcquireLease endpoint session io.acquire with
  | (.error e, c₁) => (.failed e, c₁)
  | (.ok conn, c₁) =>
    -- `need_begin` looks at the slot before it was taken
    if c.txnLease.isNone then
      match executeOnConn c₁ conn "BEGIN" io.clientOpen io.begin
          (succeeded io.begin || c₁.inBlock conn) with
      -- `?`: the connection is dropped
      | (.error e, c₂) => (.failed e, c₂.putConn conn)
      | (.ok response, c₂) =>
        if isOkResponse response then (.on conn, c₂)
        else (.answered response, c₂.storeLease conn)
    else (.on conn, c₁)

/-- The connection of a statement: leased inside a transaction, any idle one outside. -/
def connForStatement (c : Connector) (inTransaction : Bool) (endpoint : EndpointConfig)
    (session : SessionState) (io : PoolIo) : Lease × Connector :=
  if inTransaction then leaseForStatement c endpoint session io
  else
    match c.acquireConn endpoint session io.acquire with
    | (.error e, c) => (.failed e, c)
    | (.ok conn, c) => (.on conn, c)

/-- A relayed response: the session that reads it and where it goes at the end. -/
inductive SessionReturn where
  | drop
  | txn
  | idle
  | idleOrTxn
  | hold
deriving DecidableEq

/-- `WireRelay` over a `PgTcpWireStream`. -/
structure WireRelay where
  conn : Conn
  returnTo : SessionReturn
  response : RelayEnd

/-- `ExecuteOutcome`. -/
inductive Outcome where
  | complete (response : GatewayResponse)
  /-- The columns and the windows that the producer sends while somebody listens. -/
  | streaming (columns : List Column) (windows : List (List Row))
  | wireRelay (relay : WireRelay)

/-- `mode.window_rows().unwrap_or(256).max(1)`. -/
def windowOf : ExecuteMode → Nat
  | .streaming windowRows _ => max windowRows 1
  | _ => 256

/-- `mode.effective_max_rows()`. -/
def maxRowsOf : ExecuteMode → Option Nat
  | .streaming _ maxRows => maxRows
  | _ => none

/-! ## Placeholders -/

/-- Where the scan of `count_pg_placeholders` is: outside, after a `$`, or in the digits of `$n`. -/
inductive PlaceholderScan where
  | outside
  | dollar
  | digits (n : Nat)

/-- `n.saturating_mul(10).saturating_add(d)` of an unsigned type with the maximum `limit`. -/
def saturatingDigit (limit n d : Nat) : Nat := min (min (n * 10) limit + d) limit

/-- The byte loop of `count_pg_placeholders`; a multi-byte character holds neither `$` nor a digit. -/
def scanPlaceholders (limit : Nat) : List Char → PlaceholderScan → (max : Nat) → Nat
  | [], .digits n, max => Nat.max max n
  | [], _, max => max
  | ch :: rest, .digits n, max =>
    if ch.isDigit then
      scanPlaceholders limit rest (.digits (saturatingDigit limit n (ch.toNat - 48))) max
    else scanPlaceholders limit rest (if ch == '$' then .dollar else .outside) (Nat.max max n)
  | ch :: rest, .dollar, max =>
    if ch.isDigit then
      scanPlaceholders limit rest (.digits (saturatingDigit limit 0 (ch.toNat - 48))) max
    else scanPlaceholders limit rest (if ch == '$' then .dollar else .outside) max
  | ch :: rest, .outside, max =>
    scanPlaceholders limit rest (if ch == '$' then .dollar else .outside) max

/-- `count_pg_placeholders`: the highest `$n`, a `u16`. -/
def countPgPlaceholders (sql : String) : Nat := scanPlaceholders 65535 sql.toList .outside 0

example : countPgPlaceholders "select $2, $$1 where a = $10" = 10 := by decide

/-- The arity check that opens every parameter path. -/
def arityError (sql : String) (parameters : List GatewayValue) : Option GatewayError :=
  if countPgPlaceholders sql = parameters.length then none
  else some (.protocol ("postgresql prepared Execute expects " ++ toString (countPgPlaceholders sql)
    ++ " parameters, got " ++ toString parameters.length))

end DataNexus.Backend
