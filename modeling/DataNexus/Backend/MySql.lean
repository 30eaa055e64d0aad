/-
  The MySQL connector (`backend/mysql.rs`).

      execute_outcome
        ├─ Query ........................ execute_simple_query_streaming
        ├─ QueryParams, Execute ......... execute_param_query_streaming
        ├─ Query, passthrough ........... execute_simple_query
        └─ anything else ................ execute_with_mode

  It is the PostgreSQL one without relay sessions, so the same record serves both.  In `execute_param_query_streaming`
  every exit but one stores the lease first; in `execute_simple_query_streaming` the exits through `?` do not, and the
  connection is dropped into the pool inside its transaction.
-/
import DataNexus.Backend.Execute

namespace DataNexus.Backend.MySql

open DataNexus.Stream

/-! ## Configuration -/

def selectEndpoint (c : Connector) (session : SessionState) : Except GatewayError EndpointConfig :=
  match session.backendEndpoint with
  | some name =>
    match c.endpoints.find? (·.name == name) with
    | some endpoint => .ok endpoint
    | none => .error (.configuration
        ("mysql backend connector has no configured endpoint '" ++ name ++ "'"))
  | none =>
    match c.endpoints.head? with
    | some endpoint => .ok endpoint
    | none => .error (.configuration "mysql backend connector has no configured endpoints")

def effectiveDatabase (endpoint : EndpointConfig) (session : SessionState) : String :=
  (session.database.or endpoint.database).getD ""

def mysqlPoolKey (endpoint : EndpointConfig) (database : String) : String :=
  if database.isEmpty then endpoint.address else endpoint.address ++ "|" ++ database

/-- The character loop of `count_mysql_placeholders`; `inStr` is inside a quoted literal.  The count is a
    `u16`. -/
def scanMysqlPlaceholders : List Char → (inStr : Bool) → Nat → Nat
  | [], _, count => count
  | '\'' :: '\'' :: rest, true, count => scanMysqlPlaceholders rest true count
  | '\'' :: rest, inStr, count => scanMysqlPlaceholders rest (!inStr) count
  | '?' :: rest, false, count => scanMysqlPlaceholders rest false (min (count + 1) 65535)
  | _ :: rest, inStr, count => scanMysqlPlaceholders rest inStr count

def countMysqlPlaceholders (sql : String) : Nat := scanMysqlPlaceholders sql.toList false 0

example : countMysqlPlaceholders "select ? from t where a = 'it''s ?' and b = ?" = 2 := by decide

/-- The arity check that opens every parameter path. -/
def arityError (sql : String) (parameters : List GatewayValue) : Option GatewayError :=
  if countMysqlPlaceholders sql = parameters.length then none
  else some (.protocol ("mysql prepared Execute expects " ++ toString (countMysqlPlaceholders sql)
    ++ " parameters, got " ++ toString parameters.length))

/-! ## What the world answers -/

/-- The first packet of a result, and what reading on gives. -/
inductive Header where
  /-- No packet, or one shorter than its header. -/
  | unreadable (e : GatewayError)
  /-- An OK packet, and what `ok_packet_to_gateway_response` makes of it. -/
  | ok (response : Except GatewayError GatewayResponse)
  | err (code message : String)
  | empty
  | badCount (e : GatewayError)
  | nullCount
  /-- A column definition or the EOF after them cannot be read. -/
  | badColumns (e : GatewayError)
  /-- The columns, and the row packets the producer will see. -/
  | columns (columns : List Column) (rows : List Item)

structure StatementIo where
  acquire : AcquireIo
  /-- `conn.client` is `Some`. -/
  clientOpen : Bool
  /-- What `BEGIN` gives. -/
  begin : Except GatewayError GatewayResponse
  /-- What a materialized or passed-through statement gives. -/
  statement : Except GatewayError GatewayResponse
  /-- `prepare_result_columns`. -/
  describe : Except GatewayError (List Column)
  /-- `execute_prepared`. -/
  executePrepared : Except GatewayError GatewayResponse
  /-- `get_or_prepare`, with the parameter count of the server. -/
  prepare : Except GatewayError Nat
  /-- `encode_stmt_execute_payload`. -/
  encode : Except GatewayError Unit
  /-- `send_query` or `send_execute`. -/
  send : Except GatewayError Unit
  header : Header
  /-- The server is in a transaction afterwards. -/
  blockAfter : Bool

/-- COMMIT or ROLLBACK, and USE on the leased connection. -/
structure ControlIo where
  clientOpen : Bool
  statement : Except GatewayError GatewayResponse

/-- One call of `execute_outcome`. -/
structure CallIo where
  statement : StatementIo
  control : ControlIo

/-- A call where every step works; `header` answers a statement. -/
def CallIo.works (header : Header) : CallIo where
  statement :=
    { acquire := ⟨.ok (), true, .ok ()⟩
      clientOpen := true
      begin := .ok (.ok 0 none)
      statement := .ok (.ok 0 none)
      describe := .ok []
      executePrepared := .ok (.ok 0 none)
      prepare := .ok 0
      encode := .ok ()
      send := .ok ()
      header := header
      blockAfter := true }
  control := ⟨true, .ok (.ok 0 none)⟩

/-! ## Pooled connections -/

/-- `acquire_conn`: an idle connection that answers the ping, or a new one. -/
def acquireConn (c : Connector) (endpoint : EndpointConfig) (session : SessionState)
    (io : AcquireIo) : Except GatewayError Conn × Connector :=
  match io.address with
  | .error e => (.error e, c)
  | .ok () =>
    let key := mysqlPoolKey endpoint (effectiveDatabase endpoint session)
    match c.pool.find? (·.key == key) with
    | none => c.buildConn key io
    | some conn =>
      if io.pingOk then (.ok conn, { c with pool := c.pool.erase conn })
      else { c with pool := c.pool.erase conn }.buildConn key io

def takeOrAcquireLease (c : Connector) (endpoint : EndpointConfig) (session : SessionState)
    (io : AcquireIo) : Except GatewayError Conn × Connector :=
  match c.txnLease with
  | some conn => (.ok conn, { c with txnLease := none })
  | none => acquireConn c endpoint session io

/-- The error of a connection without a client. -/
def notOpen : GatewayError := .backend "mysql backend connection is not open"

def executeOnConn (c : Connector) (conn : Conn) (sql : String) (clientOpen : Bool)
    (answer : Except GatewayError GatewayResponse) (after : Bool) : Except GatewayError GatewayResponse × Connector :=
  if clientOpen then (answer, c.send conn (.simpleQuery sql) after)
  else (.error notOpen, c)

/-- The opening lines of every statement inside a transaction: `need_begin`, `take_or_acquire_lease`, `BEGIN`. -/
def leaseForStatement (c : Connector) (endpoint : EndpointConfig) (session : SessionState)
    (io : StatementIo) : Lease × Connector :=
  match takeOrAcquireLease c endpoint session io.acquire with
  | (.error e, c₁) => (.failed e, c₁)
  | (.ok conn, c₁) =>
    if c.txnLease.isNone then
      match executeOnConn c₁ conn "BEGIN" io.clientOpen io.begin
          (succeeded io.begin || c₁.inBlock conn) with
      -- `?`: the connection is dropped
      | (.error e, c₂) => (.failed e, c₂.putConn conn)
      | (.ok response, c₂) =>
        if isOkResponse response then (.on conn, c₂)
        else (.answered response, c₂.storeLease conn)
    else (.on conn, c₁)

/-- The connection of a statement: leased inside a transaction, any idle one outside. -/
def connForStatement (c : Connector) (inTransaction : Bool) (endpoint : EndpointConfig)
    (session : SessionState) (io : StatementIo) : Lease × Connector :=
  if inTransaction then leaseForStatement c endpoint session io
  else
    match acquireConn c endpoint session io.acquire with
    | (.error e, c) => (.failed e, c)
    | (.ok conn, c) => (.on conn, c)

/-- `describe_sql_columns`: prepare, never `BEGIN`. -/
def describeSqlColumns (c : Connector) (endpoint : EndpointConfig) (sql : String)
    (session : SessionState) (io : StatementIo) : Except GatewayError (List Column) × Connector :=
  match (if c.leasing session then takeOrAcquireLease c endpoint session io.acquire
    else acquireConn c endpoint session io.acquire) with
  | (.error e, c₁) => (.error e, c₁)
  | (.ok conn, c₁) =>
    (io.describe, (if io.clientOpen then c₁.sendAll conn [.prepare sql] else c₁).giveBack (c.leasing session) conn)

/-! ## Statements -/

/-- `execute_simple_query`: leases only while the session is `Active`. -/
def executeSimpleQuery (c : Connector) (endpoint : EndpointConfig) (sql : String)
    (session : SessionState) (io : StatementIo) : Except GatewayError GatewayResponse × Connector :=
  if session.transactionState = .active then
    match leaseForStatement c endpoint session io with
    | (.failed e, c) => (.error e, c)
    | (.answered response, c) => (.ok response, c)
    | (.on conn, c) =>
      match executeOnConn c conn sql io.clientOpen io.statement io.blockAfter with
      | (response, c) => (response, c.storeLease conn)
  else
    match acquireConn c endpoint session io.acquire with
    | (.error e, c) => (.error e, c)
    | (.ok conn, c) =>
      match executeOnConn c conn sql io.clientOpen io.statement io.blockAfter with
      | (response, c) => (response, c.putConn conn)

def executeParamQuery (c : Connector) (endpoint : EndpointConfig) (sql : String)
    (parameters : List GatewayValue) (session : SessionState) (io : StatementIo) :
    Except GatewayError GatewayResponse × Connector :=
  match arityError sql parameters with
  | some e => (.error e, c)
  | none =>
    if parameters.isEmpty then executeSimpleQuery c endpoint sql session io
    else
      match connForStatement c (c.leasing session) endpoint session io with
      | (.failed e, c₁) => (.error e, c₁)
      | (.answered response, c₁) => (.ok response, c₁)
      | (.on conn, c₁) =>
        (io.executePrepared, (c₁.send conn (.bound sql parameters) io.blockAfter).giveBack (c.leasing session) conn)

/-- The error of a result whose header packet has no payload. -/
def emptyHeader (what : String) : GatewayError := .protocol ("mysql " ++ what ++ " header packet has empty payload")

/-- The error of a result with a NULL column count. -/
def nullColumnCount : GatewayError := .protocol "mysql result set column count cannot be NULL"

/-- The producer of either streaming path, and the lease or the pool behind it. -/
def streamRows (c : Connector) (conn : Conn) (mode : ExecuteMode) (inTransaction : Bool)
    (columns : List Column) (rows : List Item) : Except GatewayError Outcome × Connector :=
  (.ok (.streaming columns (produce (windowOf mode) (maxRowsOf mode) rows [] 0 false)),
    c.spawnProducer conn inTransaction)

/-- The tail of `execute_simple_query_streaming`.  Where the source leaves through `?` the connection is dropped. -/
def readSimpleHeader (c : Connector) (conn : Conn) (mode : ExecuteMode) (inTransaction : Bool) :
    Header → Except GatewayError Outcome × Connector
  | .unreadable e => (.error e, c.putConn conn)
  | .ok (.error e) => (.error e, c.putConn conn)
  | .ok (.ok response) => (.ok (.complete response), c.giveBack inTransaction conn)
  | .err code message => (.ok (.complete (.error code message)), c.giveBack inTransaction conn)
  | .empty => (.error (emptyHeader "query"), c.giveBack inTransaction conn)
  | .badCount e => (.error e, c.putConn conn)
  | .nullCount => (.error nullColumnCount, c.giveBack inTransaction conn)
  | .badColumns e => (.error e, c.putConn conn)
  | .columns columns rows => streamRows c conn mode inTransaction columns rows

def executeSimpleQueryStreaming (c : Connector) (endpoint : EndpointConfig) (sql : String)
    (session : SessionState) (mode : ExecuteMode) (inTransaction : Bool) (io : StatementIo) :
    Except GatewayError Outcome × Connector :=
  match connForStatement c inTransaction endpoint session io with
  | (.failed e, c) => (.error e, c)
  | (.answered response, c) => (.ok (.complete response), c)
  | (.on conn, c) =>
    if !io.clientOpen then (.error notOpen, c.putConn conn)
    else
      match io.send with
      | .error e => (.error e, (c.send conn (.simpleQuery sql) io.blockAfter).putConn conn)
      | .ok () =>
        readSimpleHeader (c.send conn (.simpleQuery sql) io.blockAfter) conn mode inTransaction
          io.header

/-- The tail of `execute_param_query_streaming`, from the header packet on. -/
def readBinaryHeader (c : Connector) (conn : Conn) (mode : ExecuteMode) (inTransaction : Bool) :
    Header → Except GatewayError Outcome × Connector
  | .unreadable e => (.error e, c.giveBack inTransaction conn)
  -- the one `?` of this function
  | .ok (.error e) => (.error e, c.putConn conn)
  | .ok (.ok response) => (.ok (.complete response), c.giveBack inTransaction conn)
  | .err code message => (.ok (.complete (.error code message)), c.giveBack inTransaction conn)
  | .empty => (.error (emptyHeader "binary query"), c.giveBack inTransaction conn)
  | .badCount e => (.error e, c.giveBack inTransaction conn)
  | .nullCount => (.error nullColumnCount, c.giveBack inTransaction conn)
  | .badColumns e => (.error e, c.giveBack inTransaction conn)
  | .columns columns rows => streamRows c conn mode inTransaction columns rows

/-- What `execute_param_query_streaming` checks before it sends: the prepare, the arity of the server, the
    payload and the client. -/
def preparePayload (parameters : List GatewayValue) (io : StatementIo) : Except GatewayError Unit :=
  match io.prepare with
  | .error e => .error e
  | .ok count =>
    if count = parameters.length then
      match io.encode with
      | .error e => .error e
      | .ok () => if io.clientOpen then .ok () else .error notOpen
    else .error (.protocol ("mysql backend prepare expects " ++ toString count
      ++ " parameters, got " ++ toString parameters.length))

def executeParamQueryStreaming (c : Connector) (endpoint : EndpointConfig) (sql : String)
    (parameters : List GatewayValue) (session : SessionState) (mode : ExecuteMode)
    (inTransaction : Bool) (io : StatementIo) : Except GatewayError Outcome × Connector :=
  match arityError sql parameters with
  | some e => (.error e, c)
  | none =>
    if parameters.isEmpty then
      executeSimpleQueryStreaming c endpoint sql session mode inTransaction io
    else
      match connForStatement c inTransaction endpoint session io with
      | (.failed e, c) => (.error e, c)
      | (.answered response, c) => (.ok (.complete response), c)
      | (.on conn, c) =>
        match preparePayload parameters io with
        | .error e => (.error e, (c.sendAll conn [.prepare sql]).giveBack inTransaction conn)
        | .ok () =>
          match io.send with
          | .error e =>
            (.error e, (c.send conn (.bound sql parameters) io.blockAfter).giveBack inTransaction conn)
          | .ok () =>
            readBinaryHeader (c.send conn (.bound sql parameters) io.blockAfter) conn mode
              inTransaction io.header

/-! ## Control -/

def controlAnswer : Except GatewayError GatewayResponse → Except GatewayError GatewayResponse
  | .error e => .error e
  | .ok (.ok affectedRows lastInsertId) => .ok (.ok affectedRows lastInsertId)
  | .ok (.error code message) => .error (.backend ("mysql " ++ code ++ ": " ++ message))
  | .ok _ => .error (.backend "mysql control statement expected OK response")

def finishTransaction (c : Connector) (sql : String) (io : ControlIo) :
    Except GatewayError GatewayResponse × Connector :=
  match c.txnLease with
  | none => (.ok (.ok 0 none), c)
  | some conn =>
    match executeOnConn { c with txnLease := none } conn sql io.clientOpen io.statement false with
    | (answer, c) => (controlAnswer answer, c.putConn conn)

/-- `execute_control_sql` on the leased connection, which it keeps. -/
def executeControlSql (c : Connector) (conn : Conn) (sql : String) (io : ControlIo) :
    Except GatewayError GatewayResponse × Connector :=
  match executeOnConn { c with txnLease := none } conn sql io.clientOpen io.statement
      (c.inBlock conn) with
  | (answer, c) => (controlAnswer answer, c.storeLease conn)

def useSql (database : String) : String := "USE `" ++ database.replace "`" "``" ++ "`"

/-- `UseDatabase`: at once on a leased connection, else with the next one. -/
def useDatabase (c : Connector) (database : String) (session : SessionState) (io : ControlIo) :
    Except GatewayError GatewayResponse × SessionState × Connector :=
  match c.txnLease, selectEndpoint c session with
  | some conn, .ok _ =>
    match executeControlSql c conn (useSql database) io with
    | (.error e, c) => (.error e, session, c)
    | (.ok _, c) => (.ok (.ok 0 none), { session with database := some database }, c)
  | _, _ => (.ok (.ok 0 none), { session with database := some database }, c)

/-- The id that `PreparedRegistry::prepare` gives next; a wrapping `u32`. -/
def nextId (c : Connector) : Nat := (c.preparedNext + 1) % 2 ^ 32

/-- `PreparedRegistry::prepare`. -/
def register (c : Connector) (sql : String) : Connector :=
  { c with
    preparedNext := nextId c
    preparedSql := Function.update c.preparedSql (toString (nextId c)) (some sql) }

/-- `Prepare`: the registry, and the columns if an endpoint can tell them. -/
def prepareStatement (c : Connector) (sql : String) (session : SessionState) (io : StatementIo) :
    GatewayResponse × Connector :=
  match selectEndpoint c session with
  | .error _ => (.prepared (toString (nextId c)) (countMysqlPlaceholders sql) [], register c sql)
  | .ok endpoint =>
    match describeSqlColumns (register c sql) endpoint sql session io with
    | (.ok columns, c₁) => (.prepared (toString (nextId c)) (countMysqlPlaceholders sql) columns, c₁)
    -- a refused describe only costs the columns
    | (.error _, c₁) => (.prepared (toString (nextId c)) (countMysqlPlaceholders sql) [], c₁)

/-- The error of an unknown prepared statement. -/
def unknownStatement (statementId : String) : GatewayError :=
  .backend ("unknown mysql prepared statement id '" ++ statementId ++ "'")

/-! ## Commands -/

def executeWithMode (c : Connector) (command : GatewayCommand) (session : SessionState)
    (mode : ExecuteMode) (io : CallIo) : Except GatewayError GatewayResponse × SessionState × Connector :=
  match command with
  | .ping => (.ok .pong, session, c)
  | .quit => (.ok .bye, session, { c.setLease none with preparedSql := fun _ => none })
  | .useDatabase database => useDatabase c database session io.control
  -- the backend `BEGIN` waits for the first statement
  | .begin => (.ok (.ok 0 none), { session with transactionState := .active }, c)
  | .commit =>
    match finishTransaction c "COMMIT" io.control with
    | (.error e, c) => (.error e, session, c)
    | (.ok response, c) => (.ok response, { session with transactionState := .idle }, c)
  | .rollback =>
    match finishTransaction c "ROLLBACK" io.control with
    | (.error e, c) => (.error e, session, c)
    | (.ok response, c) => (.ok response, { session with transactionState := .idle }, c)
  | .query sql =>
    match selectEndpoint c session with
    | .error e => (.error e, session, c)
    | .ok endpoint => withSession session (executeSimpleQuery c endpoint sql session io.statement)
  | .queryParams sql parameters =>
    match selectEndpoint c session with
    | .error e => (.error e, session, c)
    | .ok endpoint =>
      withSession session (executeParamQuery c endpoint sql parameters session io.statement)
  | .prepare sql =>
    (.ok (prepareStatement c sql session io.statement).1, session, (prepareStatement c sql session io.statement).2)
  | .execute statementId parameters =>
    match c.preparedSql statementId with
    | none => (.error (unknownStatement statementId), session, c)
    | some sql =>
      match arityError sql parameters with
      | some e => (.error e, session, c)
      | none =>
        match selectEndpoint c session with
        | .error e => (.error e, session, c)
        | .ok endpoint =>
          withSession session (executeParamQuery c endpoint sql parameters session io.statement)
  | .closeStatement statementId =>
    (.ok (.ok 0 none), session, { c with preparedSql := Function.update c.preparedSql statementId none })
  | .describeSql sql =>
    match selectEndpoint c session with
    | .error e => (.error e, session, c)
    | .ok endpoint =>
      match describeSqlColumns c endpoint sql session io.statement with
      | (.error e, c) => (.error e, session, c)
      | (.ok columns, c) => (.ok (.rowDescription columns), session, c)
  | .clientWire packets => (.ok (.wire packets), session, c)
  | .pgBackendSync =>
    (.error (.unsupported "mysql backend does not support PgBackendSync"), session, c)

/-- The mode of a row command: rows are streamed, and a passed-through statement with parameters is
    demoted to Streaming. -/
def rowMode (command : GatewayCommand) (mode : ExecuteMode) : ExecuteMode :=
  match command, mode.promoteRowStream with
  | .query _, mode => mode
  | _, .passthrough => demoted
  | _, mode => mode

def executeOutcome (c : Connector) (command : GatewayCommand) (session : SessionState)
    (mode : ExecuteMode) (io : CallIo) : Except GatewayError Outcome × SessionState × Connector :=
  match command with
  | .query sql =>
    if (rowMode command mode).isPassthrough then
      completed (executeWithMode c command session .passthrough io)
    else
      match selectEndpoint c session with
      | .error e => (.error e, session, c)
      | .ok endpoint =>
        withSession session (executeSimpleQueryStreaming c endpoint sql session (rowMode command mode)
          (c.leasing session) io.statement)
  | .queryParams sql parameters =>
    match selectEndpoint c session with
    | .error e => (.error e, session, c)
    | .ok endpoint =>
      withSession session (executeParamQueryStreaming c endpoint sql parameters session
        (rowMode command mode) (c.leasing session) io.statement)
  | .execute statementId parameters =>
    match c.preparedSql statementId with
    | none => (.error (unknownStatement statementId), session, c)
    | some sql =>
      match arityError sql parameters with
      | some e => (.error e, session, c)
      | none =>
        match selectEndpoint c session with
        | .error e => (.error e, session, c)
        | .ok endpoint =>
          withSession session (executeParamQueryStreaming c endpoint sql parameters session
            (rowMode command mode) (c.leasing session) io.statement)
  | other => completed (executeWithMode c other session mode io)

end DataNexus.Backend.MySql
