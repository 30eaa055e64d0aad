/-
  How the PostgreSQL connector runs one command (`backend/postgresql.rs`).

      execute_outcome
        ├─ PgBackendSync ........................ execute_pg_backend_sync
        ├─ Passthrough
        │    ├─ Query, no buffered frames ........ execute_simple_query_tcp_relay[_txn]
        │    ├─ buffered frames .................. execute_client_extended_frames_tcp_relay
        │    └─ parameters, frames not relayed ... execute_extended_text_bind_tcp_relay
        ├─ Streaming ............................. execute_{simple,param}_query_streaming
        └─ anything else ......................... execute_with_mode
-/
import DataNexus.Backend.Connector

namespace DataNexus.Backend

open DataNexus.Stream

/-! ## Pooled statements -/

/-- `execute_simple_query`: leases only while the session is `Active`. -/
def executeSimpleQuery (c : Connector) (endpoint : EndpointConfig) (sql : String)
    (session : SessionState) (io : PoolIo) : Except GatewayError GatewayResponse × Connector :=
  if session.transactionState = .active then
    match leaseForStatement c endpoint session io with
    | (.failed e, c) => (.error e, c)
    | (.answered response, c) => (.ok response, c)
    | (.on conn, c) =>
      match executeOnConn c conn sql io.clientOpen io.statement io.blockAfter with
      | (response, c) => (response, c.storeLease conn)
  else
    match c.acquireConn endpoint session io.acquire with
    | (.error e, c) => (.error e, c)
    | (.ok conn, c) =>
      match executeOnConn c conn sql io.clientOpen io.statement io.blockAfter with
      | (response, c) => (response, c.putConn conn)

/-- The tail of `execute_simple_query_streaming`, from `simple_query_raw` on. -/
def streamRaw (c : Connector) (conn : Conn) (mode : ExecuteMode) (inTransaction : Bool)
    (io : PoolIo) : Except GatewayError Outcome × Connector :=
  match io.start with
  -- `?`: the connection is dropped, inside a transaction too
  | .error e => (.error e, c.putConn conn)
  | .ok items =>
    match awaitRowDescription items with
    | .complete response => (.ok (.complete response), c.giveBack inTransaction conn)
    | .error e => (.error e, c.giveBack inTransaction conn)
    | .rows columns rest =>
      (.ok (.streaming columns
          (produce (windowOf mode) (maxRowsOf mode) (rest.map SimpleItem.item) [] 0 false)),
        c.spawnProducer conn inTransaction)

def executeSimpleQueryStreaming (c : Connector) (endpoint : EndpointConfig) (sql : String)
    (session : SessionState) (mode : ExecuteMode) (inTransaction : Bool) (io : PoolIo) :
    Except GatewayError Outcome × Connector :=
  match connForStatement c inTransaction endpoint session io with
  | (.failed e, c) => (.error e, c)
  | (.answered response, c) => (.ok (.complete response), c)
  | (.on conn, c) =>
    -- `?`: the connection is dropped
    if !io.clientOpen then (.error notOpen, c.putConn conn)
    else streamRaw (c.send conn (.simpleQuery sql) io.blockAfter) conn mode inTransaction io

/-- `execute` of a prepared statement that returns no rows. -/
def runExecute (c : Connector) (conn : Conn) (inTransaction : Bool) (io : PoolIo) :
    Except GatewayError Outcome × Connector :=
  match io.execute with
  | .error e => (.error e, c.giveBack inTransaction conn)
  | .ok n => (.ok (.complete (.ok n none)), c.giveBack inTransaction conn)

/-- The tail of `execute_param_query_streaming`, from the prepared statement on. -/
def streamPrepared (c : Connector) (conn : Conn) (mode : ExecuteMode) (inTransaction : Bool)
    (columns : List Column) (io : PoolIo) : Except GatewayError Outcome × Connector :=
  -- a statement without columns returns no rows
  if columns.isEmpty then runExecute c conn inTransaction io
  else
    match io.queryRaw with
    | .failed e => (.error e, c.giveBack inTransaction conn)
    | .noRows => runExecute c conn inTransaction io
    | .rows items =>
      match awaitFirstRow items with
      | .complete response => (.ok (.complete response), c.giveBack inTransaction conn)
      | .error e => (.error e, c.giveBack inTransaction conn)
      | .rows columns rest =>
        (.ok (.streaming columns
            (produce (windowOf mode) (maxRowsOf mode) (rest.map TypedItem.item) [] 0 false)),
          c.spawnProducer conn inTransaction)

def executeParamQueryStreaming (c : Connector) (endpoint : EndpointConfig) (sql : String)
    (parameters : List GatewayValue) (session : SessionState) (mode : ExecuteMode)
    (inTransaction : Bool) (io : PoolIo) : Except GatewayError Outcome × Connector :=
  match arityError sql parameters with
  | some e => (.error e, c)
  | none =>
    if parameters.isEmpty then
      executeSimpleQueryStreaming c endpoint sql session mode inTransaction io
    else
      match connForStatement c inTransaction endpoint session io with
      | (.failed e, c) => (.error e, c)
      | (.answered response, c) => (.ok (.complete response), c)
      | (.on conn, c) =>
        match io.prepare with
        | .error e => (.error e, c.giveBack inTransaction conn)
        | .ok columns =>
          if !io.clientOpen then (.error notOpen, c.giveBack inTransaction conn)
          else
            streamPrepared (c.send conn (.bound sql parameters) io.blockAfter) conn mode
              inTransaction columns io

/-! ## Relay sessions -/

namespace Connector

/-- `PgTcpSession::connect`. -/
def openSession (c : Connector) (key : String) (io : RelayIo) : Except GatewayError Conn × Connector :=
  match io.connect with
  | .error e => (.error e, c)
  | .ok () => (.ok (c.freshConn key).1, (c.freshConn key).2)

/-- `PgTcpIdlePool::take_or_connect`: the first idle session of the key that is still good (the ones
    before it are discarded), or a new one. -/
def takeOrConnect (c : Connector) (endpoint : EndpointConfig) (database : String) (io : RelayIo) :
    Except GatewayError Conn × Connector :=
  match (c.tcpIdle.filter (·.key == tcpPoolKey endpoint database)).dropWhile
      (fun conn => !io.healthy conn) with
  | conn :: rest =>
    (.ok conn, { c with tcpIdle := c.tcpIdle.filter (·.key != tcpPoolKey endpoint database) ++ rest })
  | [] =>
    { c with tcpIdle := c.tcpIdle.filter (·.key != tcpPoolKey endpoint database) }.openSession
      (tcpPoolKey endpoint database) io

/-- `take_or_open_tcp_txn`; the flag is `is_new`. -/
def takeOrOpenTcpTxn (c : Connector) (endpoint : EndpointConfig) (session : SessionState)
    (io : RelayIo) : Except GatewayError (Conn × Bool) × Connector :=
  match c.tcpTxn with
  | some conn => (.ok (conn, false), { c with tcpTxn := none })
  | none =>
    match effectiveDatabase endpoint session with
    | .error e => (.error e, c)
    | .ok database =>
      match c.openSession (tcpPoolKey endpoint database) io with
      | (.error e, c) => (.error e, c)
      | (.ok conn, c) => (.ok (conn, true), c)

/-- The slot or queue that a finished relay session goes to. -/
def returnSession (c : Connector) (relay : WireRelay) : Connector :=
  match relay.returnTo with
  | .drop => c
  | .txn => { c with tcpTxn := some relay.conn }
  | .hold => { c with tcpExtHold := some relay.conn }
  | .idle => c.putIdle relay.conn
  | .idleOrTxn =>
    match relay.response.readyStatus with
    | some 73 => c.putIdle relay.conn
    | some 84 | some 69 => { c with tcpTxn := some relay.conn }
    -- a partially drained or malformed response is not reusable
    | _ => c

/-- `PgTcpWireStream::finish_session`, when the response was read or the stream is dropped. -/
def finishSession (c : Connector) (relay : WireRelay) : Connector :=
  returnSession { c with inBlock := Function.update c.inBlock relay.conn relay.response.inBlock } relay

end Connector

/-- How the opening lines of a relayed statement inside a transaction end. -/
inductive TxnSession where
  | failed (e : GatewayError)
  /-- The frames of a `BEGIN` that the server refused; the session is dropped. -/
  | refused (packets : List (List UInt8))
  | on (conn : Conn)

/-- `take_or_open_tcp_txn`, and `BEGIN` on a new session. -/
def tcpTxnSession (c : Connector) (endpoint : EndpointConfig) (session : SessionState)
    (io : RelayIo) : TxnSession × Connector :=
  match c.takeOrOpenTcpTxn endpoint session io with
  | (.error e, c) => (.failed e, c)
  | (.ok (conn, isNew), c) =>
    if isNew then
      match io.begin with
      | .error e => (.failed e, c.send conn (.simpleQuery "BEGIN") false)
      | .ok packets =>
        if packets.any (fun p => p.head? == some 69) then
          (.refused packets, c.send conn (.simpleQuery "BEGIN") false)
        else (.on conn, c.send conn (.simpleQuery "BEGIN") true)
    else (.on conn, c)

/-- Write to a relay session and hand out the stream of its response.  A failed write drops it. -/
def relayInto (c : Connector) (conn : Conn) (sent : List Sent) (returnTo : SessionReturn)
    (io : RelayIo) : Except GatewayError Outcome × Connector :=
  match io.write with
  | .error e => (.error e, c.sendAll conn sent)
  | .ok () => (.ok (.wireRelay ⟨conn, returnTo, io.response⟩), c.sendAll conn sent)

/-- A simple Query and its whole response; the session comes back in `returnTo` unless reading fails. -/
def collectInto (c : Connector) (conn : Conn) (sql : String) (returnTo : SessionReturn)
    (io : RelayIo) : Except GatewayError GatewayResponse × Connector :=
  match relayInto c conn [.simpleQuery sql] returnTo io with
  | (.error e, c) => (.error e, c)
  | (.ok _, c) =>
    match io.response.failed with
    | some e =>
      (.error e, if returnTo = .idleOrTxn then c.finishSession ⟨conn, returnTo, io.response⟩ else c)
    | none => (.ok (.wire io.response.packets), c.finishSession ⟨conn, returnTo, io.response⟩)

/-- `execute_simple_query_tcp_relay_collect` and `execute_simple_query_tcp_relay_txn_collect`, chosen by
    `execute_simple_query_wire`. -/
def executeSimpleQueryWire (c : Connector) (endpoint : EndpointConfig) (sql : String)
    (session : SessionState) (io : RelayIo) : Except GatewayError GatewayResponse × Connector :=
  if c.inTxn session then
    match tcpTxnSession c endpoint session io with
    | (.failed e, c) => (.error e, c)
    | (.refused packets, c) => (.ok (.wire packets), c)
    | (.on conn, c) => collectInto c conn sql .txn io
  else
    match effectiveDatabase endpoint session with
    | .error e => (.error e, c)
    | .ok database =>
      match c.takeOrConnect endpoint database io with
      | (.error e, c) => (.error e, c)
      | (.ok conn, c) => collectInto c conn sql .idleOrTxn io

/-- `execute_simple_query_tcp_relay` outside a transaction, `execute_simple_query_tcp_relay_txn` in one. -/
def executeSimpleQueryTcpRelay (c : Connector) (endpoint : EndpointConfig) (sql : String)
    (session : SessionState) (inTxn : Bool) (io : RelayIo) : Except GatewayError Outcome × Connector :=
  if inTxn then
    match tcpTxnSession c endpoint session io with
    | (.failed e, c) => (.error e, c)
    | (.refused packets, c) => (.ok (.complete (.wire packets)), c)
    | (.on conn, c) => relayInto c conn [.simpleQuery sql] .txn io
  else
    match effectiveDatabase endpoint session with
    | .error e => (.error e, c)
    | .ok database =>
      match c.takeOrConnect endpoint database io with
      | (.error e, c) => (.error e, c)
      | (.ok conn, c) => relayInto c conn [.simpleQuery sql] .idleOrTxn io

/-- `execute_extended_text_bind_tcp_relay`.  Every parameter has a text form. -/
def executeExtendedTextBindTcpRelay (c : Connector) (endpoint : EndpointConfig) (sql : String)
    (parameters : List GatewayValue) (session : SessionState) (inTxn : Bool) (io : RelayIo) :
    Except GatewayError Outcome × Connector :=
  match effectiveDatabase endpoint session with
  | .error e => (.error e, c)
  | .ok database =>
    if inTxn then
      match tcpTxnSession c endpoint session io with
      | (.failed e, c) => (.error e, c)
      | (.refused packets, c) => (.ok (.complete (.wire packets)), c)
      | (.on conn, c) => relayInto c conn [.textBind sql parameters] .txn io
    else
      match c.takeOrConnect endpoint database io with
      | (.error e, c) => (.error e, c)
      | (.ok conn, c) => relayInto c conn [.textBind sql parameters] .idle io

/-! ## The client's own frames -/

/-- The loop of `client_frames_relay_hold_into`: a Describe of the portal bound last goes before the first Execute of a
    unit that has a Bind and no Describe so far. -/
def withDescribe : List ClientFrame → (sawDescribe : Bool) → (bound : Option String) → List Sent
  | [], sawDescribe, bound =>
    match bound with
    | some portal => if sawDescribe then [] else [.describePortal portal]
    | none => []
  | f :: rest, sawDescribe, bound =>
    match f.boundPortal.or bound with
    | some portal =>
      if !(sawDescribe || f.isDescribe) && f.isExecute then
        .describePortal portal :: .frame f :: withDescribe rest true (some portal)
      else .frame f :: withDescribe rest (sawDescribe || f.isDescribe) (some portal)
    | none => .frame f :: withDescribe rest (sawDescribe || f.isDescribe) none

/-- What `client_frames_relay_hold_into` writes. -/
def clientFramesHold (frames : List ClientFrame) : List Sent := withDescribe frames false none ++ [.flush]

/-- What `client_execute_relay_hold_into` writes. -/
def clientExecuteHold (frames : List ClientFrame) : List Sent := frames.map .frame ++ [.flush]

/-- The `open_sess` block of `execute_client_extended_frames_tcp_relay`. -/
def openFrameSession (c : Connector) (endpoint : EndpointConfig) (database : String)
    (session : SessionState) (inTxn : Bool) (io : RelayIo) : Except GatewayError Conn × Connector :=
  if inTxn then
    match tcpTxnSession c endpoint session io with
    | (.failed e, c) => (.error e, c)
    | (.refused _, c) => (.error (.backend "pg client-frame relay: BEGIN failed"), c)
    | (.on conn, c) => (.ok conn, c)
  else c.takeOrConnect endpoint database io

/-- The resume branch of `execute_client_extended_frames_tcp_relay`: only Execute frames, and the unit's
    session is held. -/
def resumeHeldUnit (c : Connector) (frames : List ClientFrame) (session : SessionState)
    (io : RelayIo) : Except GatewayError Outcome × SessionState × Connector :=
  match c.tcpExtHold with
  | none => (.error (.backend "pg ext hold session missing"), session, c)
  | some conn =>
    match relayInto { c with tcpExtHold := none } conn (clientExecuteHold frames) .hold io with
    | (.error e, c) => (.error e, session, c)
    | (.ok outcome, c) => (.ok outcome, { session with pgExtTcpHold := true }, c)

/-- The rest of it: a new unit on a session of its own.  On error the frames are put back. -/
def relayUnit (c : Connector) (endpoint : EndpointConfig) (frames : List ClientFrame)
    (session : SessionState) (inTxn : Bool) (io : RelayIo) : Except GatewayError Outcome × SessionState × Connector :=
  match effectiveDatabase endpoint session with
  | .error e => (.error e, session, c)
  | .ok database =>
    match openFrameSession c endpoint database session inTxn io with
    | (.error e, c) => (.error e, { session with pgClientExtendedFrames := frames }, c)
    | (.ok conn, c) =>
      match relayInto c conn (clientFramesHold frames) .hold io with
      | (.ok outcome, c) => (.ok outcome, { session with pgExtTcpHold := true }, c)
      | (.error e, c) =>
        (.error e, { session with pgClientExtendedFrames := frames, pgExtTcpHold := false }, c)

/-- `execute_client_extended_frames_tcp_relay`; the frames are taken out of the session first. -/
def executeClientExtendedFramesTcpRelay (c : Connector) (endpoint : EndpointConfig)
    (session : SessionState) (inTxn : Bool) (io : RelayIo) : Except GatewayError Outcome × SessionState × Connector :=
  if session.pgClientExtendedFrames.isEmpty then
    (.error (.backend "pg client extended frames empty"), session, c)
  else if session.pgClientExtendedFrames.all ClientFrame.isExecute && session.pgExtTcpHold then
    resumeHeldUnit c session.pgClientExtendedFrames { session with pgClientExtendedFrames := [] } io
  else
    relayUnit c endpoint session.pgClientExtendedFrames
      { session with pgClientExtendedFrames := [] } inTxn io

/-- The result of a function that leaves the session alone. -/
def withSession {α : Type} (session : SessionState) (r : Except GatewayError α × Connector) :
    Except GatewayError α × SessionState × Connector :=
  (r.1, session, r.2)

def executePgBackendSync (c : Connector) (session : SessionState) (io : RelayIo) :
    Except GatewayError Outcome × SessionState × Connector :=
  match c.tcpExtHold with
  | none =>
    (.error (.backend "pg backend sync: no held extended TCP session"), session, c)
  | some conn =>
    withSession { session with pgExtTcpHold := false, pgClientExtendedFrames := [] }
      (relayInto { c with tcpExtHold := none } conn [.sync] .txn io)

/-! ## Commands -/

def executeParamQuery (c : Connector) (endpoint : EndpointConfig) (sql : String)
    (parameters : List GatewayValue) (session : SessionState) (mode : ExecuteMode) (io : CallIo) :
    Except GatewayError GatewayResponse × Connector :=
  match arityError sql parameters with
  | some e => (.error e, c)
  | none =>
    if parameters.isEmpty then
      if mode.isPassthrough then executeSimpleQueryWire c endpoint sql session io.relay
      else executeSimpleQuery c endpoint sql session io.pool
    else
      match connForStatement c (c.leasing session) endpoint session io.pool with
      | (.failed e, c₁) => (.error e, c₁)
      | (.answered response, c₁) => (.ok response, c₁)
      | (.on conn, c₁) =>
        (io.pool.statement, (c₁.send conn (.bound sql parameters) io.pool.blockAfter).giveBack (c.leasing session) conn)

/-- The answer to COMMIT or ROLLBACK over the driver. -/
def controlAnswer (sql : String) : Except GatewayError GatewayResponse → Except GatewayError GatewayResponse
  | .error e => .error e
  | .ok (.ok _ _) => .ok (.commandComplete sql)
  | .ok (.resultSet columns rows) => .ok (.resultSet columns rows)
  | .ok (.error code message) => .error (.backend ("postgresql " ++ code ++ ": " ++ message))
  | .ok _ => .error (.backend "postgresql control statement unexpected response")

/-- `finish_transaction`.  The relay session is preferred; a pooled lease beside it is dropped. -/
def finishTransaction (c : Connector) (sql : String) (io : FinishIo) :
    Except GatewayError GatewayResponse × Connector :=
  match c.tcpTxn with
  | some conn =>
    match io.relay with
    | .error e => (.error e, { c with tcpTxn := none }.send conn (.simpleQuery sql) false)
    | .ok packets =>
      (.ok (.wire packets), ({ c with tcpTxn := none }.send conn (.simpleQuery sql) false).setLease none)
  | none =>
    match c.txnLease with
    | none => (.ok (.commandComplete sql), c)
    | some conn =>
      match executeOnConn { c with txnLease := none } conn sql io.clientOpen io.statement false with
      | (answer, c) => (controlAnswer sql answer, c.putConn conn)

/-- The `DescribeSql` branch: prepare, never `BEGIN`. -/
def describeSql (c : Connector) (sql : String) (session : SessionState) (io : PoolIo) :
    Except GatewayError GatewayResponse × Connector :=
  match selectEndpoint c session with
  | .error e => (.error e, c)
  | .ok endpoint =>
    match (if c.leasing session then c.takeOrAcquireLease endpoint session io.acquire
      else c.acquireConn endpoint session io.acquire) with
    | (.error e, c₁) => (.error e, c₁)
    | (.ok conn, c₁) =>
      (io.prepare.map .rowDescription, (c₁.sendAll conn [.prepare sql]).giveBack (c.leasing session) conn)

/-- `PreparedRegistry::prepare`; the id is a wrapping `u32`. -/
def prepareStatement (c : Connector) (sql : String) : GatewayResponse × Connector :=
  let id := (c.preparedNext + 1) % 2 ^ 32
  (.prepared (toString id) (countPgPlaceholders sql) [],
    { c with
      preparedNext := id
      preparedSql := Function.update c.preparedSql (toString id) (some sql) })

/-- The error of an unknown prepared statement. -/
def unknownStatement (statementId : String) : GatewayError :=
  .backend ("unknown postgresql prepared statement id '" ++ statementId ++ "'")

def executeWithMode (c : Connector) (command : GatewayCommand) (session : SessionState)
    (mode : ExecuteMode) (io : CallIo) : Except GatewayError GatewayResponse × SessionState × Connector :=
  match command with
  | .ping => (.ok .pong, session, c)
  | .quit =>
    (.ok .bye, session, { c.setLease none with tcpTxn := none, preparedSql := fun _ => none })
  | .useDatabase database => (.ok (.ok 0 none), { session with database := some database }, c)
  -- the backend `BEGIN` waits for the first statement
  | .begin =>
    (.ok (.commandComplete "BEGIN"), { session with transactionState := .active }, c)
  | .commit =>
    match finishTransaction c "COMMIT" io.finish with
    | (.error e, c) => (.error e, session, c)
    | (.ok response, c) => (.ok response, { session with transactionState := .idle }, c)
  | .rollback =>
    match finishTransaction c "ROLLBACK" io.finish with
    | (.error e, c) => (.error e, session, c)
    | (.ok response, c) => (.ok response, { session with transactionState := .idle }, c)
  | .query sql =>
    match selectEndpoint c session with
    | .error e => (.error e, session, c)
    | .ok endpoint =>
      if mode.isPassthrough then
        withSession session (executeSimpleQueryWire c endpoint sql session io.relay)
      else withSession session (executeSimpleQuery c endpoint sql session io.pool)
  | .queryParams sql parameters =>
    match selectEndpoint c session with
    | .error e => (.error e, session, c)
    | .ok endpoint =>
      withSession session (executeParamQuery c endpoint sql parameters session mode io)
  | .prepare sql =>
    (.ok (prepareStatement c sql).1, session, (prepareStatement c sql).2)
  | .execute statementId parameters =>
    match c.preparedSql statementId with
    | none => (.error (unknownStatement statementId), session, c)
    | some sql =>
      match arityError sql parameters with
      | some e => (.error e, session, c)
      | none =>
        match selectEndpoint c session with
        | .error e => (.error e, session, c)
        | .ok endpoint =>
          withSession session (executeParamQuery c endpoint sql parameters session mode io)
  | .closeStatement statementId =>
    (.ok (.ok 0 none), session, { c with preparedSql := Function.update c.preparedSql statementId none })
  | .describeSql sql =>
    withSession session (describeSql c sql session io.pool)
  | .clientWire packets => (.ok (.wire packets), session, c)
  | .pgBackendSync =>
    (.error (.unsupported "use execute_outcome for PgBackendSync"), session, c)

/-- Lift a response to an outcome: `Ok(ExecuteOutcome::Complete(response))`. -/
def completed (r : Except GatewayError GatewayResponse × SessionState × Connector) :
    Except GatewayError Outcome × SessionState × Connector :=
  match r with
  | (.error e, session, c) => (.error e, session, c)
  | (.ok response, session, c) => (.ok (.complete response), session, c)

theorem completed_session (r : Except GatewayError GatewayResponse × SessionState × Connector) :
    (completed r).2.1 = r.2.1 := by
  obtain ⟨e | response, session, c⟩ := r <;> rfl

/-- The command returns rows: Query, QueryParams or Execute. -/
def isRowCommand : GatewayCommand → Bool
  | .query _ => true
  | .queryParams _ _ => true
  | .execute _ _ => true
  | _ => false

/-- The streaming branches at the end of `execute_outcome`. -/
def executeStreaming (c : Connector) (command : GatewayCommand) (session : SessionState)
    (mode : ExecuteMode) (inTxn : Bool) (io : CallIo) : Except GatewayError Outcome × SessionState × Connector :=
  match command with
  | .query sql =>
    match selectEndpoint c session with
    | .error e => (.error e, session, c)
    | .ok endpoint =>
      withSession session (executeSimpleQueryStreaming c endpoint sql session mode inTxn io.pool)
  | .queryParams sql parameters =>
    match selectEndpoint c session with
    | .error e => (.error e, session, c)
    | .ok endpoint =>
      withSession session (executeParamQueryStreaming c endpoint sql parameters session mode inTxn io.pool)
  | .execute statementId parameters =>
    match c.preparedSql statementId with
    | none => (.error (unknownStatement statementId), session, c)
    | some sql =>
      match arityError sql parameters with
      | some e => (.error e, session, c)
      | none =>
        match selectEndpoint c session with
        | .error e => (.error e, session, c)
        | .ok endpoint =>
          withSession session (executeParamQueryStreaming c endpoint sql parameters session mode inTxn io.pool)
  | other => completed (executeWithMode c other session mode io)

/-- The text and parameters that the text-bind relay is tried with. -/
def tryRelay (c : Connector) : GatewayCommand → Option (String × List GatewayValue)
  | .queryParams sql parameters => some (sql, parameters)
  | .execute statementId parameters =>
    (c.preparedSql statementId).map fun sql => (sql, parameters)
  | _ => none

/-- The mode of a Passthrough command that no relay took. -/
def demoted : ExecuteMode := ExecuteMode.fromStreamingConfig 256 none

/-- A Passthrough command with parameters: the text-bind relay, then the demotion to Streaming. -/
def textBindOrDemote (c : Connector) (command : GatewayCommand) (session : SessionState)
    (inTxn : Bool) (io : CallIo) : Except GatewayError Outcome × SessionState × Connector :=
  match tryRelay c command with
  | none => executeStreaming c command session demoted inTxn io
  | some (sql, parameters) =>
    match selectEndpoint c session with
    | .error e => (.error e, session, c)
    | .ok endpoint =>
      match executeExtendedTextBindTcpRelay c endpoint sql parameters session inTxn io.textBind with
      | (.ok outcome, c) => (.ok outcome, session, c)
      | (.error _, c) => executeStreaming c command session demoted inTxn io

/-- What follows in `execute_outcome` when the frames were not relayed; a plain Query goes to
    `execute_with_mode`. -/
def executeUnrelayed (c : Connector) (command : GatewayCommand) (session : SessionState)
    (inTxn : Bool) (io : CallIo) : Except GatewayError Outcome × SessionState × Connector :=
  match command with
  | .query _ => completed (executeWithMode c command session .passthrough io)
  | _ => textBindOrDemote c command session inTxn io

def executeOutcome (c : Connector) (command : GatewayCommand) (session : SessionState)
    (mode : ExecuteMode) (io : CallIo) : Except GatewayError Outcome × SessionState × Connector :=
  match command with
  | .pgBackendSync => executePgBackendSync c session io.relay
  | _ =>
    if !isRowCommand command then completed (executeWithMode c command session mode io)
    else
      match mode.promoteRowStream with
      | .passthrough =>
        if session.pgClientExtendedFrames.isEmpty then
          match command with
          | .query sql =>
            match selectEndpoint c session with
            | .error e => (.error e, session, c)
            | .ok endpoint =>
              withSession session (executeSimpleQueryTcpRelay c endpoint sql session (c.inTxn session) io.relay)
          | _ => executeUnrelayed c command session (c.inTxn session) io
        else
          match selectEndpoint c session with
          | .error e => (.error e, session, c)
          | .ok endpoint =>
            match executeClientExtendedFramesTcpRelay c endpoint session (c.inTxn session) io.frames with
            | (.ok outcome, session', c') => (.ok outcome, session', c')
            | (.error _, session', c') => executeUnrelayed c' command session' (c.inTxn session) io
      | mode => executeStreaming c command session mode (c.inTxn session) io

end DataNexus.Backend
