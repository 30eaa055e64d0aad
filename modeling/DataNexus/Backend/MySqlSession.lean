/-
  Runs of client commands against the MySQL connector, and the one connection of a transaction.

  A step is the client's next command, the end of a producer task, or an error of the cursor surface, which
  fails an open transaction without a call.  A MySQL error answer leaves the tracked state alone.

  The invariant is the one of the PostgreSQL connector, over the lease alone: the session occupies at most
  one pooled connection, and its transaction has written to no other.  `Smooth` is again the condition that
  the slot a statement looks at is not empty because its connection is elsewhere, and that no exit of the
  statement loses it.
-/
import DataNexus.Backend.MySql
import DataNexus.Backend.OneConnection

namespace DataNexus.Backend.MySql

open DataNexus.Stream DataNexus.Run

/-! ## The system -/

/-- The client's next command, as it reaches the connector. -/
structure Request where
  command : GatewayCommand
  mode : ExecuteMode
  backendEndpoint : Option String
  io : CallIo

inductive Act where
  | command (r : Request)
  | producerDone (i : Nat)
  /-- An unknown or taken cursor name, an error of the engine alone. -/
  | cursorError

/-- The session in which `execute_outcome` is called. -/
def Request.session (r : Request) (s : Client) : SessionState :=
  { decoded s.session r.command with backendEndpoint := r.backendEndpoint }

/-- Result, session and connector after the command. -/
def Request.run (r : Request) (s : Client) : Except GatewayError Outcome × SessionState × Connector :=
  executeOutcome s.connector r.command (r.session s) r.mode r.io

/-- One step; the answer is what it handed to connections. -/
def step (s : Client) : Act → List (Conn × Sent) × Client
  | .command r =>
    let after := (r.run s).2
    let writes := writesOf s.connector after.2
    (writes, ⟨after.1, after.2, nextTxn s.txn writes r.command⟩)
  | .producerDone i => ([], { s with connector := producerDone s.connector i })
  | .cursorError =>
    ([], { s with
      session := { s.session with transactionState := s.session.transactionState.afterError } })

/-! ## Smooth steps -/

/-- The exits of `execute_simple_query_streaming` through `?`. -/
def losesSimple : Header → Bool
  | .unreadable _ => true
  | .ok (.error _) => true
  | .badCount _ => true
  | .badColumns _ => true
  | _ => false

/-- The exit of `execute_param_query_streaming` through `?`. -/
def losesBinary : Header → Bool
  | .ok (.error _) => true
  | _ => false

/-- The steps of a statement that can lose its connection go well. -/
structure Steady (io : StatementIo) : Prop where
  clientOpen : io.clientOpen = true
  begin : ∃ response, io.begin = .ok response ∧ isOkResponse response = true
  send : io.send = .ok ()
  simple : losesSimple io.header = false

def takesConnection : GatewayCommand → Bool
  | .query _ => true
  | .queryParams _ _ => true
  | .execute _ _ => true
  | .prepare _ => true
  | .describeSql _ => true
  | _ => false

/-- The command meets its transaction on one connection, and no step of it loses that. -/
structure SmoothRequest (s : Client) (r : Request) : Prop where
  /-- Inside a transaction: no producer has its connection, and the statement will lease. -/
  statement : takesConnection r.command = true →
    s.txn.isSome ∨ s.connector.leasing (r.session s) = true →
    NoLeaseProducer s.connector ∧ s.connector.leasing (r.session s) = true ∧ Steady r.io.statement
  /-- A passed-through statement leases in the state `Active` only. -/
  passthrough : r.mode.isPassthrough = true →
    s.txn.isSome ∨ s.connector.leasing (r.session s) = true →
    (r.session s).transactionState = .active
  /-- The end of the transaction finds its connection in the slot. -/
  finish : (finishText r.command).isSome → s.txn.isSome → NoLeaseProducer s.connector ∧ r.io.control.clientOpen = true

def Smooth (s : Client) : Act → Prop
  | .command r => SmoothRequest s r
  | .producerDone _ => True
  | .cursorError => True

/-! ## Statements inside a transaction -/

/-- What the call writes goes to one connection, the occupied one if there is any; or it writes and moves nothing. -/
def OnPool (c c' : Connector) : Prop :=
  ∃ ws, c'.log = c.log ++ ws ∧
    ((ws = [] ∧ poolOcc c' = poolOcc c) ∨
      ∃ conn, (∀ w ∈ ws, w.1 = conn) ∧ (poolOcc c = [] ∨ poolOcc c = [conn]) ∧ poolOcc c' = [conn])

variable {c c' c₁ : Connector} {s : Client} {r : Request}

theorem OnPool.of_eq (hlog : c'.log = c.log) (hocc : poolOcc c' = poolOcc c) : OnPool c c' :=
  ⟨[], by simpa using hlog, .inl ⟨rfl, hocc⟩⟩

theorem OnPool.refl (c : Connector) : OnPool c c := OnPool.of_eq rfl rfl

theorem acquireConn_frame (c : Connector) (endpoint : EndpointConfig) (session : SessionState) (io : AcquireIo) :
    (acquireConn c endpoint session io).2.log = c.log ∧ (acquireConn c endpoint session io).2.producers = c.producers ∧
    (acquireConn c endpoint session io).2.txnLease = c.txnLease := by
  unfold acquireConn Connector.buildConn
  split
  · exact ⟨rfl, rfl, rfl⟩
  dsimp only
  split
  · split <;> exact ⟨rfl, rfl, rfl⟩
  split
  · exact ⟨rfl, rfl, rfl⟩
  · split <;> exact ⟨rfl, rfl, rfl⟩

theorem takeOrAcquireLease_cases (c : Connector) (endpoint : EndpointConfig) (session : SessionState)
    (io : AcquireIo) : (∃ e c₁, takeOrAcquireLease c endpoint session io = (.error e, c₁) ∧ c₁.log = c.log ∧
      c₁.txnLease = c.txnLease ∧ c₁.producers = c.producers) ∨
    ∃ conn c₁, takeOrAcquireLease c endpoint session io = (.ok conn, c₁) ∧ c₁.log = c.log ∧ LeasedOn c conn c₁ := by
  unfold takeOrAcquireLease
  cases hlease : c.txnLease with
  | some conn =>
    refine .inr ⟨conn, { c with txnLease := none }, rfl, rfl, ?_⟩
    exact ⟨⟨[], by simp, by simp⟩, rfl, rfl, .inr hlease⟩
  | none =>
    obtain ⟨hlog, hprod, hsame⟩ := acquireConn_frame c endpoint session io
    rcases hget : acquireConn c endpoint session io with ⟨e | conn, c₁⟩
    · rw [hget] at hlog hprod hsame
      exact .inl ⟨e, c₁, rfl, hlog, hsame.trans hlease, hprod⟩
    · rw [hget] at hlog hprod hsame
      refine .inr ⟨conn, c₁, rfl, hlog, ?_⟩
      exact ⟨⟨[], by simpa using hlog, by simp⟩, hsame.trans hlease, hprod, .inl hlease⟩

/-- With `BEGIN` accepted, a statement of the transaction fails without a trace or has its connection. -/
theorem leaseForStatement_cases (c : Connector) (endpoint : EndpointConfig) (session : SessionState)
    {io : StatementIo} (hio : Steady io) :
    (∃ e c₁, leaseForStatement c endpoint session io = (.failed e, c₁) ∧ c₁.log = c.log ∧
      c₁.txnLease = c.txnLease ∧ c₁.producers = c.producers) ∨
    ∃ conn c₁, leaseForStatement c endpoint session io = (.on conn, c₁) ∧ LeasedOn c conn c₁ := by
  obtain ⟨response, hbegin, hok⟩ := hio.begin
  unfold leaseForStatement
  rcases takeOrAcquireLease_cases c endpoint session io.acquire with
    ⟨e, c₁, hget, hlog, hlease, hprod⟩ | ⟨conn, c₁, hget, hlog, hon⟩
  · rw [hget]
    exact .inl ⟨e, c₁, rfl, hlog, hlease, hprod⟩
  · rw [hget]
    dsimp only
    split
    · have hrun : executeOnConn c₁ conn "BEGIN" io.clientOpen io.begin
          (succeeded io.begin || c₁.inBlock conn) =
          (.ok response, c₁.send conn (.simpleQuery "BEGIN") true) := by
        unfold executeOnConn
        rw [hio.clientOpen, hbegin]
        rfl
      rw [hrun]
      dsimp only
      rw [if_pos hok]
      refine .inr ⟨conn, _, rfl, ?_⟩
      refine ⟨⟨[(conn, .simpleQuery "BEGIN")], ?_, ?_⟩, hon.txnLease, hon.producers, hon.before⟩
      · rw [send_log, hlog]
      · intro w hw
        rw [List.mem_singleton.mp hw]
    · exact .inr ⟨conn, c₁, rfl, hon⟩

theorem onPool_of_leased {c₂ c₃ : Connector} {conn : Conn} (sent : List Sent) (hprod : NoLeaseProducer c)
    (hon : LeasedOn c conn c₁) (hsent : c₂.log = c₁.log ++ sent.map fun s => (conn, s))
    (hplaced : Placed conn c₂ c₃) : OnPool c c₃ := by
  obtain ⟨ws, hws, hconn⟩ := hon.writes
  refine ⟨ws ++ sent.map fun s => (conn, s), ?_, .inr ⟨conn, ?_, ?_, hplaced.poolOcc⟩⟩
  · rw [hplaced.log, hsent, hws, List.append_assoc]
  · intro w hw
    rcases List.mem_append.mp hw with hw | hw
    · exact hconn w hw
    · obtain ⟨s, _, rfl⟩ := List.mem_map.mp hw
      rfl
  · rw [hprod.poolOcc_eq]
    rcases hon.before with hnone | hsome
    · rw [hnone]
      exact .inl rfl
    · rw [hsome]
      exact .inr rfl

theorem onPool_of_failed (hlog : c₁.log = c.log) (hlease : c₁.txnLease = c.txnLease)
    (hprod : c₁.producers = c.producers) : OnPool c c₁ := by
  refine OnPool.of_eq hlog ?_
  unfold poolOcc
  rw [hlease, hprod]

section Placing

variable {c₁ : Connector} {conn : Conn} (hlease : c₁.txnLease = none) (hprod : NoLeaseProducer c₁)

include hlease hprod

theorem placed_readSimpleHeader (mode : ExecuteMode) {header : Header} (hkeeps : losesSimple header = false) :
    Placed conn c₁ (readSimpleHeader c₁ conn mode true header).2 := by
  cases header with
  | columns columns rows => exact placed_spawn hlease hprod
  | ok answer =>
    cases answer with
    | error e => cases hkeeps
    | ok response => exact placed_giveBack hlease hprod
  | err code message => exact placed_giveBack hlease hprod
  | empty => exact placed_giveBack hlease hprod
  | nullCount => exact placed_giveBack hlease hprod
  | unreadable e => cases hkeeps
  | badCount e => cases hkeeps
  | badColumns e => cases hkeeps

theorem placed_readBinaryHeader (mode : ExecuteMode) {header : Header} (hkeeps : losesBinary header = false) :
    Placed conn c₁ (readBinaryHeader c₁ conn mode true header).2 := by
  cases header with
  | columns columns rows => exact placed_spawn hlease hprod
  | ok answer =>
    cases answer with
    | error e => cases hkeeps
    | ok response => exact placed_giveBack hlease hprod
  | _ => exact placed_giveBack hlease hprod

end Placing

theorem losesBinary_of_simple {header : Header} (h : losesSimple header = false) : losesBinary header = false := by
  cases header with
  | ok answer =>
    cases answer with
    | error e => cases h
    | ok response => rfl
  | _ => rfl

section Statements

variable {c : Connector} (endpoint : EndpointConfig) (session : SessionState)
variable (hprod : NoLeaseProducer c)

include hprod

theorem onPool_executeSimpleQueryStreaming (sql : String) (mode : ExecuteMode) {io : StatementIo} (hio : Steady io) :
    OnPool c (executeSimpleQueryStreaming c endpoint sql session mode true io).2 := by
  unfold executeSimpleQueryStreaming
  have hconn : connForStatement c true endpoint session io = leaseForStatement c endpoint session io := rfl
  rw [hconn]
  rcases leaseForStatement_cases c endpoint session hio with
    ⟨e, c₁, hget, hlog, hlease, hsame⟩ | ⟨conn, c₁, hget, hon⟩
  · rw [hget]
    exact onPool_of_failed hlog hlease hsame
  · rw [hget, hio.clientOpen, hio.send]
    have hplaced : Placed conn (c₁.send conn (.simpleQuery sql) io.blockAfter)
        (readSimpleHeader (c₁.send conn (.simpleQuery sql) io.blockAfter) conn mode true io.header).2 :=
      by
        refine placed_readSimpleHeader ?_ ?_ mode hio.simple
        · exact hon.txnLease
        · exact hprod.congr hon.producers
    exact onPool_of_leased [.simpleQuery sql] hprod hon rfl hplaced

theorem onPool_executeParamQueryStreaming (sql : String) (parameters : List GatewayValue)
    (mode : ExecuteMode) {io : StatementIo} (hio : Steady io) :
    OnPool c (executeParamQueryStreaming c endpoint sql parameters session mode true io).2 := by
  unfold executeParamQueryStreaming
  split
  · exact OnPool.refl c
  split
  · exact onPool_executeSimpleQueryStreaming endpoint session hprod sql mode hio
  have hconn : connForStatement c true endpoint session io = leaseForStatement c endpoint session io := rfl
  rw [hconn]
  rcases leaseForStatement_cases c endpoint session hio with
    ⟨e, c₁, hget, hlog, hlease, hsame⟩ | ⟨conn, c₁, hget, hon⟩
  · rw [hget]
    exact onPool_of_failed hlog hlease hsame
  · rw [hget]
    dsimp only
    have hno : NoLeaseProducer c₁ := hprod.congr hon.producers
    split
    · refine onPool_of_leased [.prepare sql] hprod hon rfl (placed_giveBack ?_ ?_)
      · exact hon.txnLease
      · exact hno
    · rw [hio.send]
      refine onPool_of_leased [.bound sql parameters] hprod hon rfl
        (placed_readBinaryHeader ?_ ?_ mode (losesBinary_of_simple hio.simple))
      · exact hon.txnLease
      · exact hno

theorem onPool_executeSimpleQuery (sql : String) {io : StatementIo} (hio : Steady io)
    (hactive : session.transactionState = .active) : OnPool c (executeSimpleQuery c endpoint sql session io).2 := by
  unfold executeSimpleQuery
  rw [if_pos hactive]
  rcases leaseForStatement_cases c endpoint session hio with
    ⟨e, c₁, hget, hlog, hlease, hsame⟩ | ⟨conn, c₁, hget, hon⟩
  · rw [hget]
    exact onPool_of_failed hlog hlease hsame
  · rw [hget]
    unfold executeOnConn
    rw [hio.clientOpen]
    refine onPool_of_leased [.simpleQuery sql] hprod hon rfl (placed_giveBack ?_ ?_)
    · exact hon.txnLease
    · exact hprod.congr hon.producers

theorem onPool_describeSqlColumns (sql : String) (io : StatementIo) (hleasing : c.leasing session = true) :
    OnPool c (describeSqlColumns c endpoint sql session io).2 := by
  unfold describeSqlColumns
  rw [hleasing, if_pos rfl]
  rcases takeOrAcquireLease_cases c endpoint session io.acquire with
    ⟨e, c₁, hget, hlog, hlease, hsame⟩ | ⟨conn, c₁, hget, hlog, hon⟩
  · rw [hget]
    exact onPool_of_failed hlog hlease hsame
  · rw [hget]
    have hno : NoLeaseProducer c₁ := hprod.congr hon.producers
    dsimp only
    cases io.clientOpen with
    | true =>
      refine onPool_of_leased [.prepare sql] hprod hon rfl (placed_giveBack ?_ ?_)
      · exact hon.txnLease
      · exact hno
    | false =>
      exact onPool_of_leased [] hprod hon (by simp) (placed_giveBack hon.txnLease hno)

end Statements

/-! ## Statements outside -/

theorem poolOcc_acquireConn {endpoint : EndpointConfig} {session : SessionState} {io : AcquireIo}
    {answer : Except GatewayError Conn} (h : acquireConn c endpoint session io = (answer, c₁)) :
    poolOcc c₁ = poolOcc c := by
  obtain ⟨_, hprod, hlease⟩ := acquireConn_frame c endpoint session io
  rw [h] at hprod hlease
  unfold poolOcc
  rw [hprod, hlease]

theorem poolOcc_readSimpleHeader (c : Connector) (conn : Conn) (mode : ExecuteMode) (header : Header) :
    poolOcc (readSimpleHeader c conn mode false header).2 = poolOcc c := by
  cases header with
  | columns columns rows => exact poolOcc_spawn_false c conn
  | ok answer => cases answer <;> exact poolOcc_putConn c conn
  | _ => exact poolOcc_putConn c conn

theorem poolOcc_readBinaryHeader (c : Connector) (conn : Conn) (mode : ExecuteMode) (header : Header) :
    poolOcc (readBinaryHeader c conn mode false header).2 = poolOcc c := by
  cases header with
  | columns columns rows => exact poolOcc_spawn_false c conn
  | ok answer => cases answer <;> exact poolOcc_putConn c conn
  | _ => exact poolOcc_putConn c conn

section Outside

variable (c : Connector) (endpoint : EndpointConfig) (session : SessionState)

theorem poolOcc_executeSimpleQueryStreaming (sql : String) (mode : ExecuteMode) (io : StatementIo) :
    poolOcc (executeSimpleQueryStreaming c endpoint sql session mode false io).2 = poolOcc c := by
  unfold executeSimpleQueryStreaming connForStatement
  rw [if_neg Bool.false_ne_true]
  rcases hget : acquireConn c endpoint session io.acquire with ⟨e | conn, c₁⟩
  · exact poolOcc_acquireConn hget
  · refine Eq.trans ?_ (poolOcc_acquireConn hget)
    dsimp only
    split
    · exact poolOcc_putConn c₁ conn
    split
    · exact poolOcc_putConn _ conn
    · exact poolOcc_readSimpleHeader _ conn mode io.header

theorem poolOcc_executeParamQueryStreaming (sql : String) (parameters : List GatewayValue)
    (mode : ExecuteMode) (io : StatementIo) :
    poolOcc (executeParamQueryStreaming c endpoint sql parameters session mode false io).2 = poolOcc c := by
  unfold executeParamQueryStreaming
  split
  · rfl
  split
  · exact poolOcc_executeSimpleQueryStreaming c endpoint session sql mode io
  unfold connForStatement
  rw [if_neg Bool.false_ne_true]
  rcases hget : acquireConn c endpoint session io.acquire with ⟨e | conn, c₁⟩
  · exact poolOcc_acquireConn hget
  · refine Eq.trans ?_ (poolOcc_acquireConn hget)
    dsimp only
    split
    · exact poolOcc_putConn _ conn
    split
    · exact poolOcc_putConn _ conn
    · exact poolOcc_readBinaryHeader _ conn mode io.header

theorem poolOcc_executeSimpleQuery (sql : String) (io : StatementIo) (hidle : session.transactionState ≠ .active) :
    poolOcc (executeSimpleQuery c endpoint sql session io).2 = poolOcc c := by
  unfold executeSimpleQuery executeOnConn
  rw [if_neg hidle]
  rcases hget : acquireConn c endpoint session io.acquire with ⟨e | conn, c₁⟩
  · exact poolOcc_acquireConn hget
  · refine Eq.trans ?_ (poolOcc_acquireConn hget)
    dsimp only
    split <;> exact poolOcc_putConn _ conn

theorem poolOcc_describeSqlColumns (sql : String) (io : StatementIo) (hleasing : c.leasing session = false) :
    poolOcc (describeSqlColumns c endpoint sql session io).2 = poolOcc c := by
  unfold describeSqlColumns
  rw [hleasing, if_neg Bool.false_ne_true]
  rcases hget : acquireConn c endpoint session io.acquire with ⟨e | conn, c₁⟩
  · exact poolOcc_acquireConn hget
  · refine Eq.trans ?_ (poolOcc_acquireConn hget)
    dsimp only
    split <;> exact poolOcc_putConn _ conn

end Outside

/-! ## The invariant -/

/-- A session occupies at most one pooled connection, and what its transaction has written, it wrote
    there. -/
structure Single (s : Client) : Prop where
  single : (poolOcc s.connector).length ≤ 1
  owns : ∀ ws, s.txn = some ws → ∀ w ∈ ws, poolOcc s.connector = [w.1]

theorem single_start (session : SessionState) (endpoints : List EndpointConfig) :
    Single (Client.start session endpoints) :=
  ⟨Nat.zero_le 1, nofun⟩

theorem single_of_no_txn (hle : (poolOcc s.connector).length ≤ 1) (htxn : s.txn = none) : Single s := by
  refine ⟨hle, ?_⟩
  intro ws hws
  rw [htxn] at hws
  cases hws

theorem Single.onPool (hs : Single s) (hone : OnPool s.connector c') (session : SessionState) :
    Single ⟨session, c', s.txn.map (· ++ writesOf s.connector c')⟩ := by
  obtain ⟨ws, hlog, hcase⟩ := hone
  rw [writesOf_eq hlog]
  rcases hcase with ⟨hnil, hocc⟩ | ⟨conn, hws, hbefore, hafter⟩
  · refine ⟨?_, ?_⟩
    · show (poolOcc c').length ≤ 1
      rw [hocc]
      exact hs.single
    · intro vs hvs w hw
      obtain ⟨us, hus, rfl⟩ := Option.map_eq_some_iff.mp hvs
      rw [hnil, List.append_nil] at hw
      show poolOcc c' = [w.1]
      rw [hocc]
      exact hs.owns us hus w hw
  · refine ⟨?_, ?_⟩
    · show (poolOcc c').length ≤ 1
      rw [hafter]
      exact Nat.le_refl 1
    · intro vs hvs w hw
      obtain ⟨us, hus, rfl⟩ := Option.map_eq_some_iff.mp hvs
      show poolOcc c' = [w.1]
      rw [hafter]
      rcases List.mem_append.mp hw with hw | hw
      · -- the transaction had written before: its connection is the occupied one
        have hold := hs.owns us hus w hw
        rcases hbefore with hnil | hconn
        · rw [hnil] at hold
          cases hold
        · rw [hconn] at hold
          cases hold
          rfl
      · rw [hws w hw]

def Request.after (r : Request) (s : Client) : Connector := (r.run s).2.2

theorem single_of_command (hs : Single s) (r : Request) (hinside : inside r.command = true)
    (h : OnPool s.connector (r.after s) ∨ (s.txn = none ∧ poolOcc (r.after s) = poolOcc s.connector)) :
    Single (step s (.command r)).2 := by
  have hstep : (step s (.command r)).2 =
      ⟨(r.run s).2.1, r.after s, s.txn.map (· ++ writesOf s.connector (r.after s))⟩ := by
    rw [← nextTxn_inside hinside]
    rfl
  rw [hstep]
  rcases h with hone | ⟨htxn, hocc⟩
  · exact hs.onPool hone _
  · refine single_of_no_txn ?_ ?_
    · show (poolOcc (r.after s)).length ≤ 1
      rw [hocc]
      exact hs.single
    · show s.txn.map _ = none
      rw [htxn]
      rfl

theorem single_statement (hs : Single s) (hok : SmoothRequest s r) (htakes : takesConnection r.command = true)
    (hinside : inside r.command = true) (hin : NoLeaseProducer s.connector → s.connector.leasing (r.session s) = true →
      Steady r.io.statement → OnPool s.connector (r.after s))
    (hout : s.connector.leasing (r.session s) = false → poolOcc (r.after s) = poolOcc s.connector) :
    Single (step s (.command r)).2 := by
  refine single_of_command hs r hinside ?_
  by_cases htxn : s.txn.isSome ∨ s.connector.leasing (r.session s) = true
  · obtain ⟨hprod, hleasing, hio⟩ := hok.statement htakes htxn
    exact .inl (hin hprod hleasing hio)
  · obtain ⟨hnone, hnot⟩ := not_or.mp htxn
    exact .inr ⟨Option.not_isSome_iff_eq_none.mp hnone, hout (Bool.eq_false_iff.mpr hnot)⟩

theorem completed_connector (r : Except GatewayError GatewayResponse × SessionState × Connector) :
    (completed r).2.2 = r.2.2 := by
  obtain ⟨e | response, session, c⟩ := r <;> rfl

section Commands

variable {s : Client} {r : Request} (hs : Single s) (hok : SmoothRequest s r)

include hs hok

theorem single_query {sql : String} (hc : r.command = .query sql) : Single (step s (.command r)).2 := by
  have hafter : r.after s = (executeOutcome s.connector (.query sql) (r.session s) r.mode r.io).2.2 := by
    unfold Request.after Request.run
    rw [hc]
  refine single_statement hs hok ?_ ?_ ?_ ?_
  · rw [hc]
    rfl
  · rw [hc]
    rfl
  · intro hprod hleasing hio
    rw [hafter]
    unfold executeOutcome
    cases hmode : (rowMode (.query sql) r.mode).isPassthrough with
    | true =>
      have hpass : r.mode.isPassthrough = true := by
        revert hmode
        cases r.mode <;> exact id
      have hactive := hok.passthrough hpass (.inr hleasing)
      dsimp only
      rw [if_pos rfl, completed_connector]
      unfold executeWithMode
      dsimp only
      split
      · exact OnPool.refl _
      · exact onPool_executeSimpleQuery _ (r.session s) hprod sql hio hactive
    | false =>
      dsimp only
      rw [if_neg Bool.false_ne_true]
      split
      · exact OnPool.refl _
      · rw [hleasing]
        exact onPool_executeSimpleQueryStreaming _ _ hprod sql _ hio
  · intro hleasing
    have hidle : (r.session s).transactionState ≠ .active := by
      intro hactive
      unfold Connector.leasing at hleasing
      rw [hactive] at hleasing
      cases hleasing
    rw [hafter]
    unfold executeOutcome
    dsimp only
    split
    · rw [completed_connector]
      unfold executeWithMode
      dsimp only
      split
      · rfl
      · exact poolOcc_executeSimpleQuery s.connector _ (r.session s) sql r.io.statement hidle
    · split
      · rfl
      · rw [hleasing]
        exact poolOcc_executeSimpleQueryStreaming s.connector _ _ sql _ _

theorem single_params (hrow : isRowCommand r.command = true) (hquery : ∀ sql, r.command ≠ .query sql) :
    Single (step s (.command r)).2 := by
  have htakes : takesConnection r.command = true := by
    cases hc : r.command <;> rw [hc] at hrow <;> first | rfl | cases hrow
  have hinside : inside r.command = true := by
    cases hc : r.command <;> rw [hc] at hrow <;> first | rfl | cases hrow
  -- either nothing happens, or the parameter path runs
  have hafter : r.after s = s.connector ∨ ∃ endpoint sql parameters mode,
      r.after s = (executeParamQueryStreaming s.connector endpoint sql parameters (r.session s) mode
        (s.connector.leasing (r.session s)) r.io.statement).2 := by
    unfold Request.after Request.run executeOutcome
    cases hc : r.command with
    | query sql => exact absurd hc (hquery sql)
    | queryParams sql parameters =>
      dsimp only
      split
      · exact .inl rfl
      · exact .inr ⟨_, sql, parameters, _, rfl⟩
    | execute id parameters =>
      dsimp only
      split
      · exact .inl rfl
      split
      · exact .inl rfl
      split
      · exact .inl rfl
      · exact .inr ⟨_, _, parameters, _, rfl⟩
    | _ =>
      rw [hc] at hrow
      cases hrow
  refine single_statement hs hok htakes hinside ?_ ?_
  · intro hprod hleasing hio
    rcases hafter with h | ⟨endpoint, sql, parameters, mode, h⟩
    · rw [h]
      exact OnPool.refl _
    · rw [h, hleasing]
      exact onPool_executeParamQueryStreaming endpoint _ hprod sql parameters mode hio
  · intro hleasing
    rcases hafter with h | ⟨endpoint, sql, parameters, mode, h⟩
    · rw [h]
    · rw [h, hleasing]
      exact poolOcc_executeParamQueryStreaming s.connector endpoint _ sql parameters mode _

theorem single_describe {sql : String} (hc : r.command = .prepare sql ∨ r.command = .describeSql sql) :
    Single (step s (.command r)).2 := by
  -- either no connection is involved, or the columns are asked for
  have hafter : OnPool s.connector (r.after s) ∧ poolOcc (r.after s) = poolOcc s.connector ∨
      ∃ c endpoint, c.log = s.connector.log ∧ poolOcc c = poolOcc s.connector ∧
        NoLeaseProducer c = NoLeaseProducer s.connector ∧
        c.leasing (r.session s) = s.connector.leasing (r.session s) ∧
        r.after s = (describeSqlColumns c endpoint sql (r.session s) r.io.statement).2 := by
    unfold Request.after Request.run executeOutcome
    rcases hc with hc | hc
    · rw [hc]
      dsimp only
      rw [completed_connector]
      unfold executeWithMode prepareStatement
      dsimp only
      split
      · exact .inl ⟨OnPool.of_eq rfl rfl, rfl⟩
      · rename_i endpoint _
        refine .inr ⟨register s.connector sql, endpoint, rfl, rfl, rfl, rfl, ?_⟩
        split
        · rename_i h
          rw [h]
        · rename_i h
          rw [h]
    · rw [hc]
      dsimp only
      rw [completed_connector]
      unfold executeWithMode
      dsimp only
      split
      · exact .inl ⟨OnPool.of_eq rfl rfl, rfl⟩
      · rename_i endpoint _
        refine .inr ⟨s.connector, endpoint, rfl, rfl, rfl, rfl, ?_⟩
        split
        · rename_i h
          rw [h]
        · rename_i h
          rw [h]
  refine single_statement hs hok ?_ ?_ ?_ ?_
  · rcases hc with hc | hc <;> rw [hc] <;> rfl
  · rcases hc with hc | hc <;> rw [hc] <;> rfl
  · intro hprod hleasing _
    rcases hafter with ⟨h, _⟩ | ⟨c, endpoint, hlog, hocc, hno, hsame, h⟩
    · exact h
    · have hpool := onPool_describeSqlColumns (c := c) endpoint (r.session s) (hno ▸ hprod) sql
        r.io.statement (hsame.trans hleasing)
      rw [← h] at hpool
      unfold OnPool at hpool ⊢
      rw [hlog, hocc] at hpool
      exact hpool
  · intro hleasing
    rcases hafter with ⟨_, h⟩ | ⟨c, endpoint, hlog, hocc, hno, hsame, h⟩
    · exact h
    · rw [h, poolOcc_describeSqlColumns c endpoint (r.session s) sql r.io.statement
        (hsame.trans hleasing)]
      exact hocc

end Commands

theorem single_useDatabase (hs : Single s) {database : String} (hc : r.command = .useDatabase database) :
    Single (step s (.command r)).2 := by
  refine single_of_command hs r (by rw [hc]; rfl) (.inl ?_)
  have hafter : r.after s = (useDatabase s.connector database (r.session s) r.io.control).2.2 := by
    unfold Request.after Request.run executeOutcome
    rw [hc]
    exact completed_connector _
  rw [hafter]
  unfold useDatabase
  split
  · rename_i conn _ hlease _
    -- the lease is the one occupied connection
    have hocc : poolOcc s.connector = [conn] := by
      have hle := hs.single
      unfold poolOcc at hle ⊢
      rw [hlease] at hle ⊢
      rw [Option.toList_some, List.singleton_append, List.length_cons] at hle
      rw [List.length_eq_zero_iff.mp (Nat.le_zero.mp (Nat.le_of_succ_le_succ hle))]
      rfl
    have hcontrol : OnPool s.connector
        (executeControlSql s.connector conn (useSql database) r.io.control).2 := by
      have hback : ∀ c : Connector, c.txnLease = none → c.producers = s.connector.producers →
          poolOcc (c.storeLease conn) = [conn] := by
        intro c hnone hprod
        rw [← hocc]
        unfold Connector.storeLease poolOcc
        rw [setLease_txnLease, setLease_producers, hprod, hlease]
      unfold executeControlSql executeOnConn
      cases r.io.control.clientOpen with
      | true =>
        refine ⟨[(conn, .simpleQuery (useSql database))], ?_, .inr ⟨conn, ?_, .inr hocc, ?_⟩⟩
        · exact setLease_log _ _
        · intro w hw
          rw [List.mem_singleton.mp hw]
        · exact hback _ rfl rfl
      | false =>
        refine OnPool.of_eq (setLease_log _ _) ?_
        rw [hocc]
        exact hback _ rfl rfl
    split
    · rename_i h
      rw [h] at hcontrol
      exact hcontrol
    · rename_i h
      rw [h] at hcontrol
      exact hcontrol
  · exact OnPool.refl _

theorem after_finish {text : String} (hc : finishText r.command = some text) :
    r.after s = (finishTransaction s.connector text r.io.control).2 := by
  unfold Request.after Request.run executeOutcome
  cases hcmd : r.command with
  | commit =>
    rw [hcmd] at hc
    cases hc
    dsimp only
    rw [completed_connector]
    unfold executeWithMode
    dsimp only
    rcases finishTransaction s.connector "COMMIT" r.io.control with ⟨e | response, c⟩ <;> rfl
  | rollback =>
    rw [hcmd] at hc
    cases hc
    dsimp only
    rw [completed_connector]
    unfold executeWithMode
    dsimp only
    rcases finishTransaction s.connector "ROLLBACK" r.io.control with ⟨e | response, c⟩ <;> rfl
  | _ =>
    rw [hcmd] at hc
    cases hc

theorem poolOcc_finishTransaction_le (c : Connector) (text : String) (io : ControlIo) :
    (poolOcc (finishTransaction c text io).2).length ≤ (poolOcc c).length := by
  unfold finishTransaction executeOnConn
  cases hlease : c.txnLease with
  | none => exact Nat.le_refl _
  | some conn =>
    dsimp only
    cases io.clientOpen <;> simp [poolOcc, hlease]

theorem finishTransaction_log {conn : Conn} (hocc : poolOcc c = [conn]) (hprod : NoLeaseProducer c)
    (text : String) {io : ControlIo} (hopen : io.clientOpen = true) :
    (finishTransaction c text io).2.log = c.log ++ [(conn, .simpleQuery text)] := by
  rw [hprod.poolOcc_eq] at hocc
  unfold finishTransaction executeOnConn
  cases hlease : c.txnLease with
  | none =>
    rw [hlease] at hocc
    cases hocc
  | some conn' =>
    rw [hlease] at hocc
    cases hocc
    rw [hopen]
    simp

theorem single_command (hs : Single s) (hok : SmoothRequest s r) : Single (step s (.command r)).2 := by
  have hfinish : ∀ text, finishText r.command = some text → (step s (.command r)).2.txn = none →
      Single (step s (.command r)).2 := by
    intro text hc htxn
    refine single_of_no_txn ?_ htxn
    show (poolOcc (r.after s)).length ≤ 1
    rw [after_finish hc]
    exact Nat.le_trans (poolOcc_finishTransaction_le _ _ _) hs.single
  have hsame : inside r.command = true → (r.after s).log = s.connector.log →
      poolOcc (r.after s) = poolOcc s.connector → Single (step s (.command r)).2 := by
    intro hinside hlog hocc
    exact single_of_command hs r hinside (.inl (OnPool.of_eq hlog hocc))
  have hafter : ∀ command, r.command = command →
      r.after s = (executeOutcome s.connector command (r.session s) r.mode r.io).2.2 := by
    intro command hc
    rw [← hc]
    rfl
  cases hc : r.command with
  | query sql => exact single_query hs hok hc
  | queryParams sql parameters =>
    exact single_params hs hok (by rw [hc]; rfl) (by rw [hc]; nofun)
  | execute id parameters => exact single_params hs hok (by rw [hc]; rfl) (by rw [hc]; nofun)
  | prepare sql => exact single_describe hs hok (.inl hc)
  | describeSql sql => exact single_describe hs hok (.inr hc)
  | useDatabase database => exact single_useDatabase hs hc
  | commit =>
    refine hfinish "COMMIT" (by rw [hc]; rfl) ?_
    show nextTxn s.txn _ r.command = none
    rw [hc]
    rfl
  | rollback =>
    refine hfinish "ROLLBACK" (by rw [hc]; rfl) ?_
    show nextTxn s.txn _ r.command = none
    rw [hc]
    rfl
  | quit =>
    refine single_of_no_txn ?_ ?_
    · show (poolOcc (r.after s)).length ≤ 1
      rw [hafter _ hc]
      refine Nat.le_trans ?_ hs.single
      show (poolOcc { s.connector.setLease none with preparedSql := fun _ => none }).length ≤ _
      simp [poolOcc]
    · show nextTxn s.txn _ r.command = none
      rw [hc]
      rfl
  | begin =>
    have hrun : r.after s = s.connector := hafter _ hc
    refine ⟨?_, ?_⟩
    · show (poolOcc (r.after s)).length ≤ 1
      rw [hrun]
      exact hs.single
    · -- what the transaction has written so far, or nothing
      intro ws hws w hw
      show poolOcc (r.after s) = [w.1]
      have hnext : some (s.txn.getD []) = some ws := by
        rw [← hws]
        show _ = nextTxn s.txn _ r.command
        rw [hc]
        rfl
      cases hnext
      rw [hrun]
      cases htxn : s.txn with
      | none =>
        rw [htxn] at hw
        cases hw
      | some ws =>
        rw [htxn] at hw
        exact hs.owns ws htxn w hw
  | ping => exact hsame (by rw [hc]; rfl) (by rw [hafter _ hc]; rfl) (by rw [hafter _ hc]; rfl)
  | closeStatement id =>
    exact hsame (by rw [hc]; rfl) (by rw [hafter _ hc]; rfl) (by rw [hafter _ hc]; rfl)
  | clientWire packets =>
    exact hsame (by rw [hc]; rfl) (by rw [hafter _ hc]; rfl) (by rw [hafter _ hc]; rfl)
  | pgBackendSync =>
    exact hsame (by rw [hc]; rfl) (by rw [hafter _ hc]; rfl) (by rw [hafter _ hc]; rfl)

theorem single_step (s : Client) (a : Act) (hs : Single s) (hok : Smooth s a) : Single (step s a).2 := by
  cases a with
  | command r => exact single_command hs hok
  | cursorError => exact ⟨hs.single, hs.owns⟩
  | producerDone i =>
    have hocc := poolOcc_producerDone hs.single i
    refine ⟨?_, ?_⟩
    · show (poolOcc (producerDone s.connector i)).length ≤ 1
      rw [hocc]
      exact hs.single
    · intro ws hws w hw
      show poolOcc (producerDone s.connector i) = [w.1]
      rw [hocc]
      exact hs.owns ws hws w hw

theorem finish_sent (hs : Single s) (hok : SmoothRequest s r) {text : String}
    (hc : finishText r.command = some text) {ws : List (Conn × Sent)} (hws : s.txn = some ws) {w : Conn × Sent}
    (hw : w ∈ ws) : (step s (.command r)).1 = [(w.1, .simpleQuery text)] := by
  obtain ⟨hprod, hopen⟩ := hok.finish (by rw [hc]; rfl) (by rw [hws]; rfl)
  have hlog := finishTransaction_log (hs.owns ws hws w hw) hprod text hopen
  show writesOf s.connector (r.after s) = _
  rw [after_finish hc]
  exact writesOf_eq hlog

end DataNexus.Backend.MySql
