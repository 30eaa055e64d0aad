/-
  Runs of client commands against the PostgreSQL connector.

  A step is the client's next command, the end of a producer task at any later moment, or a FETCH, which probes the
  leased connection.  `decode_query_command` sets the transaction state before a call, its outcome sets it afterwards.
  `txn` is a history variable: what was handed to connections since the client's BEGIN.

  A session OCCUPIES a connection that is leased, held in a relay slot, or owned by a producer that will put it back:
  at most one (`OneConnection`), and none without a transaction (`Coherence`).
-/
import DataNexus.Backend.Frame
import DataNexus.Lib.Run

namespace DataNexus.Backend

/-! ## Around a command -/

/-- `decode_query_command`: BEGIN, COMMIT and ROLLBACK set the transaction state before they run. -/
def decoded (session : SessionState) : GatewayCommand → SessionState
  | .begin => { session with transactionState := .active }
  | .commit => { session with transactionState := .idle }
  | .rollback => { session with transactionState := .idle }
  | _ => session

/-- The transaction state that a ReadyForQuery status stands for. -/
def stateOfReady (status : UInt8) : TransactionState :=
  if status == 84 then .active else if status == 69 then .failed else .idle

/-- What the engine notes about a relayed response. -/
def observeRelay (session : SessionState) (response : RelayEnd) : SessionState :=
  let session :=
    if response.errorResponse && session.pgExtendedQuery then
      { session with
        pgExtendedError := true
        transactionState := session.transactionState.afterError }
    else session
  match response.readyStatus with
  | some status => { session with transactionState := stateOfReady status }
  | none => session

/-- An error answer: the rest of an extended unit is ignored, an open transaction has failed. -/
def observeError (session : SessionState) : SessionState :=
  { session with
    pgExtendedError := session.pgExtendedError || session.pgExtendedQuery
    transactionState := session.transactionState.afterError }

/-- What `handle_frame_inner` does with the outcome of a call.  A relay is drained here; if its socket fails, only its
    session is put away. -/
def afterOutcome (session : SessionState) (c : Connector) : Except GatewayError Outcome → SessionState × Connector
  | .error _ => (observeError session, c)
  | .ok (.complete (.error _ _)) => (observeError session, c)
  | .ok (.complete _) => (session, c)
  | .ok (.streaming _ _) => (session, c)
  | .ok (.wireRelay relay) =>
    match relay.response.failed with
    | some _ => (session, c.finishSession relay)
    | none => (observeRelay session relay.response, c.finishSession relay)

/-- The end of a producer task: its connection goes to the lease slot or is dropped. -/
def producerDone (c : Connector) (i : Nat) : Connector :=
  match c.producers[i]? with
  | none => c
  | some p =>
    if p.toLease then { c with producers := c.producers.eraseIdx i }.setLease (some p.conn)
    else { c with producers := c.producers.eraseIdx i }.putConn p.conn

/-- `check_session_health`: `SELECT 1` on the leased connection; a failure drops it. -/
def checkSessionHealth (c : Connector) (alive after : Bool) : Bool × Connector :=
  match c.txnLease with
  | none => (true, c)
  | some conn =>
    if alive then
      (true, ({ c with txnLease := none }.sendAll conn [.simpleQuery "SELECT 1"]).storeLease conn)
    else (false, ({ c with txnLease := none }.send conn (.simpleQuery "SELECT 1") after).putConn conn)

/-! ## The system -/

structure Client where
  session : SessionState
  connector : Connector
  /-- What was handed to connections since BEGIN; `none` outside a transaction. -/
  txn : Option (List (Conn × Sent))

/-- The client's next command: the endpoint that the router chose, the frames that the frontend has buffered. -/
structure Request where
  command : GatewayCommand
  mode : ExecuteMode
  backendEndpoint : Option String
  frames : List ClientFrame
  extendedQuery : Bool
  io : CallIo

inductive Act where
  | command (r : Request)
  | producerDone (i : Nat)
  | fetch (alive after : Bool)

/-- The session in which `execute_outcome` is called. -/
def Request.session (r : Request) (s : Client) : SessionState :=
  { decoded s.session r.command with
    backendEndpoint := r.backendEndpoint
    pgClientExtendedFrames := r.frames
    pgExtendedQuery := r.extendedQuery }

def Request.run (r : Request) (s : Client) : SessionState × Connector :=
  let out := executeOutcome s.connector r.command (r.session s) r.mode r.io
  afterOutcome out.2.1 out.2.2 out.1

def nextTxn (txn : Option (List (Conn × Sent))) (writes : List (Conn × Sent)) :
    GatewayCommand → Option (List (Conn × Sent))
  -- BEGIN inside a transaction continues it
  | .begin => some (txn.getD [])
  | .commit => none
  | .rollback => none
  | .quit => none
  | _ => txn.map (· ++ writes)

def writesOf (c c' : Connector) : List (Conn × Sent) := c'.log.drop c.log.length

theorem writesOf_eq {c c' : Connector} {ws : List (Conn × Sent)} (h : c'.log = c.log ++ ws) : writesOf c c' = ws := by
  unfold writesOf
  rw [h, List.drop_left]

/-- One step; the answer is what it handed to connections. -/
def step (s : Client) : Act → List (Conn × Sent) × Client
  | .command r =>
    let after := r.run s
    let writes := writesOf s.connector after.2
    (writes, ⟨after.1, after.2, nextTxn s.txn writes r.command⟩)
  | .producerDone i => ([], { s with connector := producerDone s.connector i })
  | .fetch alive after =>
    let health := checkSessionHealth s.connector alive after
    let writes := writesOf s.connector health.2
    let session := if health.1 then s.session else { s.session with transactionState := .failed }
    (writes, ⟨session, health.2, s.txn.map (· ++ writes)⟩)

def Client.start (session : SessionState) (endpoints : List EndpointConfig) : Client where
  session := { session with transactionState := .idle, pgExtTcpHold := false }
  connector := Connector.withEndpoints endpoints
  txn := none

/-! ## Occupied connections -/

/-- The pooled connections the session occupies. -/
def poolOcc (c : Connector) : List Conn := c.txnLease.toList ++ (c.producers.filter (·.toLease)).map (·.conn)

def relayOcc (c : Connector) : List Conn := c.tcpTxn.toList ++ c.tcpExtHold.toList

/-- No producer will put a connection into the lease. -/
def NoLeaseProducer (c : Connector) : Prop := ∀ p ∈ c.producers, p.toLease = false

variable {c c' : Connector}

theorem poolOcc_congr (h : SamePool c c') : poolOcc c' = poolOcc c := by
  unfold poolOcc
  rw [h.txnLease, h.producers]

theorem relayOcc_congr (h : SameRelay c c') : relayOcc c' = relayOcc c := by
  unfold relayOcc
  rw [h.tcpTxn, h.tcpExtHold]

theorem NoLeaseProducer.filter_eq (h : NoLeaseProducer c) : c.producers.filter (·.toLease) = [] := by
  rw [List.filter_eq_nil_iff]
  intro p hp
  rw [h p hp]
  exact Bool.false_ne_true

theorem NoLeaseProducer.poolOcc_eq (h : NoLeaseProducer c) : poolOcc c = c.txnLease.toList := by
  unfold poolOcc
  rw [h.filter_eq]
  simp

theorem NoLeaseProducer.congr (h : NoLeaseProducer c) (hp : c'.producers = c.producers) : NoLeaseProducer c' := by
  intro p hmem
  rw [hp] at hmem
  exact h p hmem

theorem relayOcc_eq_nil : relayOcc c = [] ↔ c.tcpTxn = none ∧ c.tcpExtHold = none := by
  unfold relayOcc
  cases c.tcpTxn <;> cases c.tcpExtHold <;> simp

end DataNexus.Backend
