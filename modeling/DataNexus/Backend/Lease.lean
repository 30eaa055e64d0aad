/-
  A failing statement and the transaction's connection.

  A statement inside a transaction takes the leased connection out of its slot and has to put it back on
  every exit, or the connection (with its open transaction) is filed in the pool and the ROLLBACK that
  follows finds no lease.  With the lease held no `BEGIN` is sent, so the exits that matter are those
  after it.

  All of them put the connection back but two, both in `execute_simple_query_streaming`: the missing
  client and the failed start of `simple_query_raw`, which leave through `?`.  `lease_kept_iff` says
  that these two are exactly the failures that lose the connection.
-/
import DataNexus.Backend.Frame

namespace DataNexus.Backend

open DataNexus.Stream

/-- The four functions that run a statement over the driver. -/
inductive Statement where
  | simpleQuery
  | simpleQueryStreaming (inTransaction : Bool)
  | paramQuery (parameters : List GatewayValue)
  | paramQueryStreaming (parameters : List GatewayValue) (inTransaction : Bool)

def errorOf {α : Type} : Except GatewayError α → Option GatewayError
  | .error e => some e
  | .ok _ => none

/-- Run the statement: its error, if any, and the connector afterwards. -/
def Statement.run (statement : Statement) (c : Connector) (endpoint : EndpointConfig) (sql : String)
    (session : SessionState) (mode : ExecuteMode) (io : CallIo) : Option GatewayError × Connector :=
  match statement with
  | .simpleQuery =>
    (errorOf (executeSimpleQuery c endpoint sql session io.pool).1,
      (executeSimpleQuery c endpoint sql session io.pool).2)
  | .simpleQueryStreaming inTransaction =>
    (errorOf (executeSimpleQueryStreaming c endpoint sql session mode inTransaction io.pool).1,
      (executeSimpleQueryStreaming c endpoint sql session mode inTransaction io.pool).2)
  | .paramQuery parameters =>
    (errorOf (executeParamQuery c endpoint sql parameters session mode io).1,
      (executeParamQuery c endpoint sql parameters session mode io).2)
  | .paramQueryStreaming parameters inTransaction =>
    (errorOf (executeParamQueryStreaming c endpoint sql parameters session mode inTransaction io.pool).1,
      (executeParamQueryStreaming c endpoint sql parameters session mode inTransaction io.pool).2)

/-- The statement runs through `simple_query_raw` as part of a transaction: by itself, or as a parameter
    statement without parameters. -/
def Statement.startsRaw : Statement → (sql : String) → Bool
  | .simpleQueryStreaming inTransaction, _ => inTransaction
  | .paramQueryStreaming parameters inTransaction, sql =>
    inTransaction && parameters.isEmpty && countPgPlaceholders sql == 0
  | _, _ => false

/-- `simple_query_raw` cannot be called or fails at once. -/
def StartFails (io : PoolIo) : Prop := io.clientOpen = false ∨ ∃ e, io.start = .error e

/-! ## The lease on every exit -/

section Held

variable {c : Connector} {conn : Conn} (endpoint : EndpointConfig) (session : SessionState)

theorem leaseForStatement_of_lease (h : c.txnLease = some conn) (io : PoolIo) :
    leaseForStatement c endpoint session io = (.on conn, { c with txnLease := none }) := by
  unfold leaseForStatement Connector.takeOrAcquireLease
  rw [h]
  rfl

theorem acquireConn_txnLease (c : Connector) (io : AcquireIo) :
    (c.acquireConn endpoint session io).2.txnLease = c.txnLease := by
  unfold Connector.acquireConn Connector.buildConn
  split
  · rfl
  split
  · rfl
  split
  · split <;> rfl
  split
  · rfl
  · split <;> rfl

theorem giveBack_true_txnLease (c : Connector) (conn : Conn) : (c.giveBack true conn).txnLease = some conn := by
  unfold Connector.giveBack Connector.storeLease
  simp

theorem giveBack_false_txnLease (c : Connector) (conn : Conn) : (c.giveBack false conn).txnLease = c.txnLease := by
  unfold Connector.giveBack
  simp

theorem executeSimpleQuery_txnLease (h : c.txnLease = some conn) (sql : String) (io : PoolIo) :
    (executeSimpleQuery c endpoint sql session io).2.txnLease = some conn := by
  unfold executeSimpleQuery
  split
  · rw [leaseForStatement_of_lease endpoint session h]
    simp [Connector.storeLease]
  · have hlease := acquireConn_txnLease endpoint session c io.acquire
    rcases hget : c.acquireConn endpoint session io.acquire with ⟨e | other, c₁⟩
    · rw [hget, h] at hlease
      exact hlease
    · rw [hget, h] at hlease
      show (Connector.putConn (executeOnConn c₁ other sql _ _ _).2 other).txnLease = some conn
      rw [putConn_txnLease]
      unfold executeOnConn
      split
      · exact hlease
      · exact hlease

theorem connForStatement_false_txnLease (h : c.txnLease = some conn) (io : PoolIo) :
    (connForStatement c false endpoint session io).2.txnLease = some conn := by
  have hlease := acquireConn_txnLease endpoint session c io.acquire
  unfold connForStatement
  rcases hget : c.acquireConn endpoint session io.acquire with ⟨e | other, c₁⟩
  · rw [hget, h] at hlease
    exact hlease
  · rw [hget, h] at hlease
    exact hlease

theorem streamRaw_false_txnLease (c : Connector) (other : Conn) (mode : ExecuteMode) (io : PoolIo) :
    (streamRaw c other mode false io).2.txnLease = c.txnLease := by
  unfold streamRaw
  split
  · exact putConn_txnLease c other
  split
  · exact giveBack_false_txnLease c other
  · exact giveBack_false_txnLease c other
  · rfl

theorem streamPrepared_false_txnLease (c : Connector) (other : Conn) (mode : ExecuteMode)
    (columns : List Column) (io : PoolIo) : (streamPrepared c other mode false columns io).2.txnLease = c.txnLease := by
  have hexecute : (runExecute c other false io).2.txnLease = c.txnLease := by
    unfold runExecute
    split <;> exact giveBack_false_txnLease c other
  unfold streamPrepared
  split
  · exact hexecute
  split
  · exact giveBack_false_txnLease c other
  · exact hexecute
  split
  · exact giveBack_false_txnLease c other
  · exact giveBack_false_txnLease c other
  · rfl

variable {e : GatewayError}

theorem streamRaw_true_txnLease (c : Connector) (mode : ExecuteMode) {io : PoolIo} {items : List SimpleItem}
    (hstart : io.start = .ok items) (herr : (streamRaw c conn mode true io).1 = .error e) :
    (streamRaw c conn mode true io).2.txnLease = some conn := by
  unfold streamRaw at herr ⊢
  rw [hstart] at herr ⊢
  dsimp only at herr ⊢
  split
  · exact giveBack_true_txnLease c conn
  · exact giveBack_true_txnLease c conn
  · rename_i hrows
    rw [hrows] at herr
    cases herr

theorem streamPrepared_true_txnLease (c : Connector) (mode : ExecuteMode) (columns : List Column) {io : PoolIo}
    (herr : (streamPrepared c conn mode true columns io).1 = .error e) :
    (streamPrepared c conn mode true columns io).2.txnLease = some conn := by
  have hexecute : (runExecute c conn true io).2.txnLease = some conn := by
    unfold runExecute
    split <;> exact giveBack_true_txnLease c conn
  unfold streamPrepared at herr ⊢
  split
  · exact hexecute
  · rename_i hcols
    rw [if_neg hcols] at herr
    split
    · exact giveBack_true_txnLease c conn
    · exact hexecute
    · rename_i items hraw
      rw [hraw] at herr
      dsimp only at herr
      split
      · exact giveBack_true_txnLease c conn
      · exact giveBack_true_txnLease c conn
      · rename_i hrows
        rw [hrows] at herr
        cases herr

end Held

/-! ## The failures that lose the connection -/

/-- The lease holds `conn`, and ROLLBACK goes to it (a relay session would take precedence). -/
def RollbackReaches (c : Connector) (conn : Conn) : Prop :=
  c.txnLease = some conn ∧
    ∀ io : FinishIo, io.clientOpen = true → c.tcpTxn = none →
      (finishTransaction c "ROLLBACK" io).2.log = c.log ++ [(conn, .simpleQuery "ROLLBACK")]

theorem rollbackReaches_iff (c : Connector) (conn : Conn) : RollbackReaches c conn ↔ c.txnLease = some conn := by
  constructor
  · intro h
    exact h.1
  · intro h
    refine ⟨h, ?_⟩
    intro io hopen htcp
    unfold finishTransaction executeOnConn
    rw [htcp, h, hopen]
    simp

section Losing

variable {c : Connector} {conn : Conn} (endpoint : EndpointConfig) (session : SessionState)

theorem executeSimpleQueryStreaming_lease (h : c.txnLease = some conn) (sql : String)
    (mode : ExecuteMode) (b : Bool) (io : PoolIo) :
    (∀ e, (executeSimpleQueryStreaming c endpoint sql session mode b io).1 = .error e →
      (executeSimpleQueryStreaming c endpoint sql session mode b io).2.txnLease = some conn) ↔
      ¬(b = true ∧ StartFails io) := by
  cases b with
  | false =>
    refine iff_of_true ?_ (fun hb => Bool.noConfusion hb.1)
    intro e _
    have hlease := connForStatement_false_txnLease endpoint session h io
    unfold executeSimpleQueryStreaming
    rcases hget : connForStatement c false endpoint session io with ⟨e | response | other, c₁⟩
    · rw [hget] at hlease
      exact hlease
    · rw [hget] at hlease
      exact hlease
    rw [hget] at hlease
    dsimp only
    split
    · rw [putConn_txnLease]
      exact hlease
    · rw [streamRaw_false_txnLease]
      exact hlease
  | true =>
    have hconn : connForStatement c true endpoint session io =
        (.on conn, { c with txnLease := none }) :=
      leaseForStatement_of_lease endpoint session h io
    unfold executeSimpleQueryStreaming
    rw [hconn]
    dsimp only
    cases hopen : io.clientOpen with
    | false =>
      refine iff_of_false ?_ (fun hnot => hnot ⟨rfl, .inl hopen⟩)
      intro hkept
      have hnone := hkept notOpen rfl
      simp at hnone
    | true =>
      cases hstart : io.start with
      | error e =>
        refine iff_of_false ?_ (fun hnot => hnot ⟨rfl, .inr ⟨e, hstart⟩⟩)
        intro hkept
        have hnone := hkept e (by simp [streamRaw, hstart])
        simp [streamRaw, hstart] at hnone
      | ok items =>
        refine iff_of_true ?_ ?_
        · intro e herr
          exact streamRaw_true_txnLease _ mode hstart herr
        · rintro ⟨_, hfails | ⟨e, hfails⟩⟩
          · rw [hopen] at hfails
            cases hfails
          · rw [hstart] at hfails
            cases hfails

theorem executeParamQueryStreaming_lease (h : c.txnLease = some conn) (sql : String)
    (parameters : List GatewayValue) (mode : ExecuteMode) (b : Bool) (io : PoolIo) :
    (∀ e, (executeParamQueryStreaming c endpoint sql parameters session mode b io).1 = .error e →
      (executeParamQueryStreaming c endpoint sql parameters session mode b io).2.txnLease = some conn) ↔
      ¬((b && parameters.isEmpty && countPgPlaceholders sql == 0) = true ∧ StartFails io) := by
  unfold executeParamQueryStreaming
  cases harity : arityError sql parameters with
  | some e =>
    -- an arity error is found before the lease is taken
    have hne : ¬countPgPlaceholders sql = parameters.length := by
      intro heq
      rw [arityError, if_pos heq] at harity
      cases harity
    refine iff_of_true (fun _ _ => h) ?_
    rintro ⟨hraw, _⟩
    simp only [Bool.and_eq_true, List.isEmpty_iff, beq_iff_eq] at hraw
    rw [hraw.1.2, hraw.2] at hne
    exact hne rfl
  | none =>
    have heq : countPgPlaceholders sql = parameters.length := by
      by_contra hne
      rw [arityError, if_neg hne] at harity
      cases harity
    cases parameters with
    | nil =>
      have hraw : (b && ([] : List GatewayValue).isEmpty && countPgPlaceholders sql == 0) = b := by
        rw [heq]
        simp
      rw [hraw]
      exact executeSimpleQueryStreaming_lease endpoint session h sql mode b io
    | cons v vs =>
      refine iff_of_true ?_ (by simp)
      cases b with
      | false =>
        intro e _
        have hlease := connForStatement_false_txnLease endpoint session h io
        rcases hget : connForStatement c false endpoint session io with ⟨e | response | other, c₁⟩
        · rw [hget] at hlease
          exact hlease
        · rw [hget] at hlease
          exact hlease
        rw [hget] at hlease
        dsimp only [List.isEmpty_cons]
        rw [if_neg Bool.false_ne_true]
        split
        · rw [giveBack_false_txnLease]
          exact hlease
        split
        · rw [giveBack_false_txnLease]
          exact hlease
        · rw [streamPrepared_false_txnLease]
          exact hlease
      | true =>
        have hconn : connForStatement c true endpoint session io =
            (.on conn, { c with txnLease := none }) :=
          leaseForStatement_of_lease endpoint session h io
        intro e herr
        rw [hconn] at herr ⊢
        dsimp only [List.isEmpty_cons] at herr ⊢
        rw [if_neg Bool.false_ne_true] at herr ⊢
        cases hprep : io.prepare with
        | error e' => exact giveBack_true_txnLease _ conn
        | ok columns =>
          rw [hprep] at herr
          dsimp only at herr ⊢
          split
          · exact giveBack_true_txnLease _ conn
          · rename_i hopen
            rw [if_neg hopen] at herr
            exact streamPrepared_true_txnLease _ mode columns herr

theorem executeParamQuery_txnLease (h : c.txnLease = some conn) (sql : String)
    (parameters : List GatewayValue) (mode : ExecuteMode) (io : CallIo) :
    (executeParamQuery c endpoint sql parameters session mode io).2.txnLease = some conn := by
  unfold executeParamQuery
  split
  · exact h
  split
  · split
    · rw [(samePool_executeSimpleQueryWire c endpoint session io.relay sql).txnLease]
      exact h
    · exact executeSimpleQuery_txnLease endpoint session h sql io.pool
  · have hleasing : c.leasing session = true := by
      unfold Connector.leasing
      rw [h]
      simp
    have hconn : connForStatement c true endpoint session io.pool =
        (.on conn, { c with txnLease := none }) :=
      leaseForStatement_of_lease endpoint session h io.pool
    rw [hleasing, hconn]
    exact giveBack_true_txnLease _ conn

end Losing

theorem run_error_iff {α : Type} {r : Except GatewayError α} {P : Prop} :
    ((∃ e, errorOf r = some e) → P) ↔ ∀ e, r = .error e → P := by
  cases r with
  | error e => simp [errorOf]
  | ok a => simp [errorOf]

/-- **A failing statement keeps the transaction's connection, unless it could not even start**: the lease holds the same
    connection and ROLLBACK reaches it, unless `simple_query_raw` inside the transaction cannot be called or fails at once. -/
theorem lease_kept_iff (statement : Statement) (c : Connector) (endpoint : EndpointConfig)
    (sql : String) (session : SessionState) (mode : ExecuteMode) (io : CallIo) (conn : Conn)
    (h : c.txnLease = some conn) : ((∃ e, (statement.run c endpoint sql session mode io).1 = some e) →
      RollbackReaches (statement.run c endpoint sql session mode io).2 conn) ↔
      ¬(statement.startsRaw sql = true ∧ StartFails io.pool) := by
  rw [rollbackReaches_iff]
  cases statement with
  | simpleQuery =>
    refine iff_of_true ?_ (fun hraw => Bool.noConfusion hraw.1)
    intro _
    exact executeSimpleQuery_txnLease endpoint session h sql io.pool
  | simpleQueryStreaming b =>
    exact run_error_iff.trans (executeSimpleQueryStreaming_lease endpoint session h sql mode b io.pool)
  | paramQuery parameters =>
    refine iff_of_true ?_ (fun hraw => Bool.noConfusion hraw.1)
    intro _
    exact executeParamQuery_txnLease endpoint session h sql parameters mode io
  | paramQueryStreaming parameters b =>
    exact run_error_iff.trans
      (executeParamQueryStreaming_lease endpoint session h sql parameters mode b io.pool)

def primary : EndpointConfig where
  name := "primary"
  address := "10.0.0.1:5432"
  database := some "app"
  role := .readWrite
  username := "app"
  weight := 1

/-- The connection that holds the example's transaction. -/
def leased : Conn := ⟨"10.0.0.1:5432|app", 0⟩

/-- A connector in the middle of a transaction on `leased`. -/
def midTransaction : Connector :=
  { Connector.withEndpoints [primary] with
    txnLease := some leased
    nextSerial := 1
    inBlock := fun conn => conn == leased }

def refusedStart : CallIo :=
  { CallIo.works with
    pool := { PoolIo.works with
      start := .error (.backend "postgresql error: string contains embedded null")
      blockAfter := true } }

theorem lease_kept_failed_first_item : midTransaction.txnLease = some leased ∧
      ((∃ e, ((Statement.simpleQueryStreaming true).run midTransaction primary "select 1"
          { SessionState.default with transactionState := .active } demoted
          { CallIo.works with pool := { PoolIo.works with start := .ok [.failed (.backend "x")] } }).1
          = some e) →
        RollbackReaches ((Statement.simpleQueryStreaming true).run midTransaction primary "select 1"
          { SessionState.default with transactionState := .active } demoted
          { CallIo.works with pool := { PoolIo.works with start := .ok [.failed (.backend "x")] } }).2
          leased) :=
  ⟨rfl, (lease_kept_iff (.simpleQueryStreaming true) midTransaction primary "select 1"
    { SessionState.default with transactionState := .active } demoted
    { CallIo.works with pool := { PoolIo.works with start := .ok [.failed (.backend "x")] } } leased
    rfl).mpr (by simp [Statement.startsRaw, StartFails, PoolIo.works])⟩

/-- The refused start files the connection in the pool with its transaction open, and ROLLBACK is
    answered without being sent. -/
theorem refused_start_loses_lease :
    let r := (Statement.simpleQueryStreaming true).run midTransaction primary "select 1"
      { SessionState.default with transactionState := .active } demoted refusedStart
    midTransaction.txnLease = some leased ∧
    r.1 = some (.backend "postgresql error: string contains embedded null") ∧
    ¬RollbackReaches r.2 leased ∧
    r.2.pool = [leased] ∧ r.2.inBlock leased = true ∧
    (finishTransaction r.2 "ROLLBACK" CallIo.works.finish).2.log = r.2.log := by
  refine ⟨rfl, rfl, ?_, rfl, rfl, rfl⟩
  rw [rollbackReaches_iff]
  intro hlease
  cases hlease

end DataNexus.Backend
