/-
  What one command does to the connections a session occupies.

  A statement inside a transaction, when nothing is mixed and nothing is lost, is `OnOne`: everything it
  writes goes to one connection, which is the occupied one if there is any, and which it leaves occupied.
  Outside a transaction a driver statement changes nothing that is occupied, and a relay occupies at most
  its own session.  One lemma per path of `execute_outcome`; `OneConnection` and `Coherence` put them
  together.
-/
import DataNexus.Backend.Client
import DataNexus.Backend.Lease

namespace DataNexus.Backend

open DataNexus.Stream

def occ (c : Connector) : List Conn := poolOcc c ++ relayOcc c

/-- What the call writes goes to one connection, the occupied one if there is any; or it writes and moves nothing. -/
def OnOne (c c' : Connector) : Prop :=
  ∃ ws, c'.log = c.log ++ ws ∧
    ((ws = [] ∧ occ c' = occ c) ∨ ∃ conn, (∀ w ∈ ws, w.1 = conn) ∧ (occ c = [] ∨ occ c = [conn]) ∧ occ c' = [conn])

theorem OnOne.refl (c : Connector) : OnOne c c := ⟨[], by simp, .inl ⟨rfl, rfl⟩⟩

variable {c c₁ : Connector}

theorem OnOne.of_eq {c' : Connector} (hlog : c'.log = c.log) (hocc : occ c' = occ c) : OnOne c c' :=
  ⟨[], by simpa using hlog, .inl ⟨rfl, hocc⟩⟩

/-! ## Statements over the driver -/

/-- A pooled statement keeps its connection: the client is open, `BEGIN` is accepted and `simple_query_raw` starts. -/
structure PoolSteady (io : PoolIo) : Prop where
  clientOpen : io.clientOpen = true
  begin : ∃ response, io.begin = .ok response ∧ isOkResponse response = true
  start : ∃ items, io.start = .ok items

/-- A statement of the transaction has connection `conn` in hand: taken out of the lease, or new with
    `BEGIN` sent. -/
structure LeasedOn (c : Connector) (conn : Conn) (c₁ : Connector) : Prop where
  writes : ∃ ws, c₁.log = c.log ++ ws ∧ ∀ w ∈ ws, w.1 = conn
  txnLease : c₁.txnLease = none
  producers : c₁.producers = c.producers
  before : c.txnLease = none ∨ c.txnLease = some conn

section Pooled

variable (c : Connector) (endpoint : EndpointConfig) (session : SessionState)

theorem acquireConn_log (io : AcquireIo) : (c.acquireConn endpoint session io).2.log = c.log := by
  unfold Connector.acquireConn Connector.buildConn
  split
  · rfl
  split
  · rfl
  split
  · split <;> rfl
  split
  · rfl
  · split <;> rfl

theorem acquireConn_producers (io : AcquireIo) : (c.acquireConn endpoint session io).2.producers = c.producers := by
  unfold Connector.acquireConn Connector.buildConn
  split
  · rfl
  split
  · rfl
  split
  · split <;> rfl
  split
  · rfl
  · split <;> rfl

/-- `take_or_acquire_lease` either fails without a trace or has the connection in hand. -/
theorem takeOrAcquireLease_cases (io : AcquireIo) :
    (∃ e c₁, c.takeOrAcquireLease endpoint session io = (.error e, c₁) ∧ c₁.log = c.log ∧
      c₁.txnLease = c.txnLease ∧ c₁.producers = c.producers) ∨
    ∃ conn c₁, c.takeOrAcquireLease endpoint session io = (.ok conn, c₁) ∧ c₁.log = c.log ∧ LeasedOn c conn c₁ := by
  unfold Connector.takeOrAcquireLease
  cases hlease : c.txnLease with
  | some conn =>
    refine .inr ⟨conn, { c with txnLease := none }, rfl, rfl, ?_⟩
    exact ⟨⟨[], by simp, by simp⟩, rfl, rfl, .inr hlease⟩
  | none =>
    have hlog := acquireConn_log c endpoint session io
    have hprod := acquireConn_producers c endpoint session io
    have hsame := acquireConn_txnLease endpoint session c io
    rcases hget : c.acquireConn endpoint session io with ⟨e | conn, c₁⟩
    · rw [hget] at hlog hprod hsame
      exact .inl ⟨e, c₁, rfl, hlog, hsame.trans hlease, hprod⟩
    · rw [hget] at hlog hprod hsame
      refine .inr ⟨conn, c₁, rfl, hlog, ?_⟩
      exact ⟨⟨[], by simpa using hlog, by simp⟩, hsame.trans hlease, hprod, .inl hlease⟩

/-- With `BEGIN` accepted, a statement of the transaction fails without a trace or has its connection. -/
theorem leaseForStatement_cases {io : PoolIo} (hio : PoolSteady io) :
    (∃ e c₁, leaseForStatement c endpoint session io = (.failed e, c₁) ∧ c₁.log = c.log ∧
      c₁.txnLease = c.txnLease ∧ c₁.producers = c.producers) ∨
    ∃ conn c₁, leaseForStatement c endpoint session io = (.on conn, c₁) ∧ LeasedOn c conn c₁ := by
  obtain ⟨response, hbegin, hok⟩ := hio.begin
  unfold leaseForStatement
  rcases takeOrAcquireLease_cases c endpoint session io.acquire with
    ⟨e, c₁, hget, hlog, hlease, hprod⟩ | ⟨conn, c₁, hget, hlog, hon⟩
  · rw [hget]
    exact .inl ⟨e, c₁, rfl, hlog, hlease, hprod⟩
  · rw [hget]
    dsimp only
    split
    · have hrun : executeOnConn c₁ conn "BEGIN" io.clientOpen io.begin
          (succeeded io.begin || c₁.inBlock conn) =
          (.ok response, c₁.send conn (.simpleQuery "BEGIN") true) := by
        unfold executeOnConn
        rw [hio.clientOpen, hbegin]
        rfl
      rw [hrun]
      dsimp only
      rw [if_pos hok]
      refine .inr ⟨conn, _, rfl, ?_⟩
      refine ⟨⟨[(conn, .simpleQuery "BEGIN")], ?_, ?_⟩, hon.txnLease, hon.producers, hon.before⟩
      · rw [send_log, hlog]
      · intro w hw
        rw [List.mem_singleton.mp hw]
    · exact .inr ⟨conn, c₁, rfl, hon⟩

variable {c₁ : Connector}

theorem poolOcc_giveBack {conn : Conn} (_ : c₁.txnLease = none) (hprod : NoLeaseProducer c₁) :
    poolOcc (c₁.giveBack true conn) = [conn] := by
  have hgive : c₁.giveBack true conn = c₁.setLease (some conn) := rfl
  have hno : NoLeaseProducer (c₁.setLease (some conn)) := hprod.congr (setLease_producers _ _)
  rw [hgive, hno.poolOcc_eq, setLease_txnLease]
  rfl

theorem poolOcc_spawn {conn : Conn} (hlease : c₁.txnLease = none) (hprod : NoLeaseProducer c₁) :
    poolOcc (c₁.spawnProducer conn true) = [conn] := by
  unfold poolOcc Connector.spawnProducer
  rw [hlease, List.filter_append, hprod.filter_eq]
  rfl

theorem giveBack_log (b : Bool) (conn : Conn) : (c.giveBack b conn).log = c.log := by
  unfold Connector.giveBack Connector.storeLease
  split
  · exact setLease_log c _
  · exact putConn_log c conn

end Pooled

/-- What follows once the connection is in hand writes nothing more and leaves it occupied. -/
structure Placed (conn : Conn) (c₁ c₂ : Connector) : Prop where
  log : c₂.log = c₁.log
  poolOcc : poolOcc c₂ = [conn]

section Placing

variable {c₁ : Connector} {conn : Conn} (hlease : c₁.txnLease = none) (hprod : NoLeaseProducer c₁)

include hlease hprod

theorem placed_giveBack : Placed conn c₁ (c₁.giveBack true conn) :=
  ⟨giveBack_log c₁ true conn, poolOcc_giveBack hlease hprod⟩

theorem placed_spawn : Placed conn c₁ (c₁.spawnProducer conn true) := ⟨rfl, poolOcc_spawn hlease hprod⟩

theorem placed_streamRaw (mode : ExecuteMode) {io : PoolIo} (hio : PoolSteady io) :
    Placed conn c₁ (streamRaw c₁ conn mode true io).2 := by
  obtain ⟨items, hstart⟩ := hio.start
  unfold streamRaw
  rw [hstart]
  dsimp only
  split
  · exact placed_giveBack hlease hprod
  · exact placed_giveBack hlease hprod
  · exact placed_spawn hlease hprod

theorem placed_runExecute (io : PoolIo) : Placed conn c₁ (runExecute c₁ conn true io).2 := by
  unfold runExecute
  split <;> exact placed_giveBack hlease hprod

theorem placed_streamPrepared (mode : ExecuteMode) (columns : List Column) (io : PoolIo) :
    Placed conn c₁ (streamPrepared c₁ conn mode true columns io).2 := by
  unfold streamPrepared
  split
  · exact placed_runExecute hlease hprod io
  split
  · exact placed_giveBack hlease hprod
  · exact placed_runExecute hlease hprod io
  split
  · exact placed_giveBack hlease hprod
  · exact placed_giveBack hlease hprod
  · exact placed_spawn hlease hprod

end Placing

theorem onOne_of_leased {c₂ c₃ : Connector} {conn : Conn} (sent : List Sent) (hprod : NoLeaseProducer c)
    (hrelay : relayOcc c = []) (hon : LeasedOn c conn c₁)
    (hsent : c₂.log = c₁.log ++ sent.map fun s => (conn, s)) (hplaced : Placed conn c₂ c₃)
    (hsame : SameRelay c c₃) : OnOne c c₃ := by
  obtain ⟨ws, hws, hconn⟩ := hon.writes
  refine ⟨ws ++ sent.map fun s => (conn, s), ?_, .inr ⟨conn, ?_, ?_, ?_⟩⟩
  · rw [hplaced.log, hsent, hws, List.append_assoc]
  · intro w hw
    rcases List.mem_append.mp hw with hw | hw
    · exact hconn w hw
    · obtain ⟨s, _, rfl⟩ := List.mem_map.mp hw
      rfl
  · unfold occ
    rw [hrelay, List.append_nil, hprod.poolOcc_eq]
    rcases hon.before with hnone | hsome
    · rw [hnone]
      exact .inl rfl
    · rw [hsome]
      exact .inr rfl
  · unfold occ
    rw [hplaced.poolOcc, relayOcc_congr hsame, hrelay]
    rfl

theorem onOne_of_failed (hlog : c₁.log = c.log) (hlease : c₁.txnLease = c.txnLease)
    (hprod : c₁.producers = c.producers) (hsame : SameRelay c c₁) : OnOne c c₁ := by
  refine OnOne.of_eq hlog ?_
  unfold occ poolOcc
  rw [hlease, hprod, relayOcc_congr hsame]

section Streaming

variable {c : Connector} (endpoint : EndpointConfig) (session : SessionState)
variable (hprod : NoLeaseProducer c) (hrelay : relayOcc c = [])

include hprod hrelay

theorem onOne_executeSimpleQueryStreaming (sql : String) (mode : ExecuteMode) {io : PoolIo} (hio : PoolSteady io) :
    OnOne c (executeSimpleQueryStreaming c endpoint sql session mode true io).2 := by
  have hsame := sameRelay_executeSimpleQueryStreaming c endpoint session sql mode true io
  unfold executeSimpleQueryStreaming at hsame ⊢
  have hconn : connForStatement c true endpoint session io = leaseForStatement c endpoint session io := rfl
  rw [hconn] at hsame ⊢
  rcases leaseForStatement_cases c endpoint session hio with
    ⟨e, c₁, hget, hlog, hlease, hsameProd⟩ | ⟨conn, c₁, hget, hon⟩
  · rw [hget] at hsame ⊢
    exact onOne_of_failed hlog hlease hsameProd hsame
  · rw [hget, hio.clientOpen] at hsame ⊢
    have hplaced : Placed conn (c₁.send conn (.simpleQuery sql) io.blockAfter)
        (streamRaw (c₁.send conn (.simpleQuery sql) io.blockAfter) conn mode true io).2 := by
      refine placed_streamRaw ?_ ?_ mode hio
      · exact hon.txnLease
      · exact hprod.congr hon.producers
    exact onOne_of_leased [.simpleQuery sql] hprod hrelay hon rfl hplaced hsame

theorem onOne_executeParamQueryStreaming (sql : String) (parameters : List GatewayValue)
    (mode : ExecuteMode) {io : PoolIo} (hio : PoolSteady io) :
    OnOne c (executeParamQueryStreaming c endpoint sql parameters session mode true io).2 := by
  have hsame := sameRelay_executeParamQueryStreaming c endpoint session sql parameters mode true io
  unfold executeParamQueryStreaming at hsame ⊢
  split
  · exact OnOne.refl c
  rename_i harity
  rw [harity] at hsame
  dsimp only at hsame
  split
  · exact onOne_executeSimpleQueryStreaming endpoint session hprod hrelay sql mode hio
  rename_i hparams
  rw [if_neg hparams] at hsame
  have hconn : connForStatement c true endpoint session io = leaseForStatement c endpoint session io := rfl
  rw [hconn] at hsame ⊢
  rcases leaseForStatement_cases c endpoint session hio with
    ⟨e, c₁, hget, hlog, hlease, hsameProd⟩ | ⟨conn, c₁, hget, hon⟩
  · rw [hget] at hsame ⊢
    exact onOne_of_failed hlog hlease hsameProd hsame
  · rw [hget] at hsame ⊢
    dsimp only at hsame ⊢
    have hno : NoLeaseProducer c₁ := hprod.congr hon.producers
    cases hprep : io.prepare with
    | error e =>
      rw [hprep] at hsame
      exact onOne_of_leased [] hprod hrelay hon (by simp) (placed_giveBack hon.txnLease hno) hsame
    | ok columns =>
      rw [hprep, hio.clientOpen] at hsame
      rw [hio.clientOpen]
      have hplaced : Placed conn (c₁.send conn (.bound sql parameters) io.blockAfter)
          (streamPrepared (c₁.send conn (.bound sql parameters) io.blockAfter) conn mode true columns
            io).2 := by
        refine placed_streamPrepared ?_ ?_ mode columns io
        · exact hon.txnLease
        · exact hno
      exact onOne_of_leased [.bound sql parameters] hprod hrelay hon rfl hplaced hsame

theorem onOne_describeSql (sql : String) (io : PoolIo) (hleasing : c.leasing session = true) :
    OnOne c (describeSql c sql session io).2 := by
  have hsame := sameRelay_describeSql c session sql io
  unfold describeSql at hsame ⊢
  split
  · exact OnOne.refl c
  rename_i endpoint hend
  rw [hend] at hsame
  rw [hleasing] at hsame ⊢
  dsimp only [if_true] at hsame ⊢
  rcases takeOrAcquireLease_cases c endpoint session io.acquire with
    ⟨e, c₁, hget, hlog, hlease, hsameProd⟩ | ⟨conn, c₁, hget, hlog, hon⟩
  · rw [if_pos rfl, hget] at hsame ⊢
    exact onOne_of_failed hlog hlease hsameProd hsame
  · rw [if_pos rfl, hget] at hsame ⊢
    have hplaced : Placed conn (c₁.sendAll conn [.prepare sql])
        ((c₁.sendAll conn [.prepare sql]).giveBack true conn) := by
      refine placed_giveBack ?_ ?_
      · exact hon.txnLease
      · exact hprod.congr hon.producers
    exact onOne_of_leased [.prepare sql] hprod hrelay hon rfl hplaced hsame

end Streaming

/-! ## Relayed statements -/

/-- The steps of a relayed statement that can lose its session go well. -/
structure RelaySteady (io : RelayIo) : Prop where
  connect : io.connect = .ok ()
  begin : ∃ packets, io.begin = .ok packets ∧ packets.any (fun p => p.head? == some 69) = false
  write : io.write = .ok ()
  response : io.response.failed = none

/-- A relayed statement of the transaction has session `conn` in hand. -/
structure RelayOn (c : Connector) (conn : Conn) (c₁ : Connector) : Prop where
  writes : ∃ ws, c₁.log = c.log ++ ws ∧ ∀ w ∈ ws, w.1 = conn
  samePool : SamePool c c₁
  taken : relayOcc c₁ = []
  before : relayOcc c = [] ∨ relayOcc c = [conn]

/-- `take_or_open_tcp_txn` with an accepted `BEGIN`: no database, or the session is in hand. -/
theorem tcpTxnSession_cases (c : Connector) (endpoint : EndpointConfig) (session : SessionState)
    {io : RelayIo} (hio : RelaySteady io) (hhold : c.tcpExtHold = none) :
    (∃ e e', tcpTxnSession c endpoint session io = (.failed e, c) ∧
      effectiveDatabase endpoint session = .error e' ∧ c.tcpTxn = none) ∨
    ∃ conn c₁, tcpTxnSession c endpoint session io = (.on conn, c₁) ∧ RelayOn c conn c₁ := by
  obtain ⟨packets, hbegin, haccepted⟩ := hio.begin
  have hsame := samePool_tcpTxnSession c endpoint session io
  unfold tcpTxnSession Connector.takeOrOpenTcpTxn Connector.openSession at hsame ⊢
  cases htcp : c.tcpTxn with
  | some conn =>
    refine .inr ⟨conn, { c with tcpTxn := none }, rfl, ?_⟩
    refine ⟨⟨[], by simp, by simp⟩, ⟨rfl, rfl, rfl⟩, ?_, ?_⟩
    · exact relayOcc_eq_nil.mpr ⟨rfl, hhold⟩
    · refine .inr ?_
      unfold relayOcc
      rw [htcp, hhold]
      rfl
  | none =>
    rw [htcp] at hsame
    cases hdb : effectiveDatabase endpoint session with
    | error e => exact .inl ⟨e, e, rfl, rfl, rfl⟩
    | ok database =>
      rw [hdb] at hsame
      rw [hio.connect, hbegin] at hsame ⊢
      dsimp only at hsame ⊢
      rw [if_pos rfl, if_neg (by rw [haccepted]; exact Bool.false_ne_true)] at hsame ⊢
      refine .inr ⟨(c.freshConn (tcpPoolKey endpoint database)).1, _, rfl, ?_⟩
      refine ⟨⟨[((c.freshConn (tcpPoolKey endpoint database)).1, .simpleQuery "BEGIN")], rfl, ?_⟩,
        hsame, ?_, ?_⟩
      · intro w hw
        rw [List.mem_singleton.mp hw]
      · exact relayOcc_eq_nil.mpr ⟨htcp, hhold⟩
      · exact .inl (relayOcc_eq_nil.mpr ⟨htcp, hhold⟩)

theorem relayInto_steady (c : Connector) (conn : Conn) (sent : List Sent) (returnTo : SessionReturn)
    {io : RelayIo} (hio : RelaySteady io) : relayInto c conn sent returnTo io =
      (.ok (.wireRelay ⟨conn, returnTo, io.response⟩), c.sendAll conn sent) := by
  unfold relayInto
  rw [hio.write]

theorem finishSession_log (c : Connector) (relay : WireRelay) : (c.finishSession relay).log = c.log := by
  have hidle : ∀ (c : Connector) (conn : Conn), (c.putIdle conn).log = c.log := by
    intro c conn
    rw [putIdle_eq]
  unfold Connector.finishSession Connector.returnSession
  split
  · rfl
  · rfl
  · rfl
  · exact hidle _ _
  split
  · exact hidle _ _
  all_goals rfl

theorem relayOcc_finishSession {relay : WireRelay} (hocc : relayOcc c = [])
    (hreturn : relay.returnTo = .txn ∨ relay.returnTo = .hold) : relayOcc (c.finishSession relay) = [relay.conn] := by
  obtain ⟨htcp, hhold⟩ := relayOcc_eq_nil.mp hocc
  unfold Connector.finishSession Connector.returnSession
  rcases hreturn with h | h
  · rw [h]
    unfold relayOcc
    simp [hhold]
  · rw [h]
    unfold relayOcc
    simp [htcp]

theorem onOne_of_relayed {conn : Conn} (sent : List Sent) {returnTo : SessionReturn}
    (hreturn : returnTo = .txn ∨ returnTo = .hold) (response : RelayEnd) (hpool : poolOcc c = [])
    (hon : RelayOn c conn c₁) : OnOne c ((c₁.sendAll conn sent).finishSession ⟨conn, returnTo, response⟩) := by
  obtain ⟨ws, hws, hconn⟩ := hon.writes
  refine ⟨ws ++ sent.map fun s => (conn, s), ?_, .inr ⟨conn, ?_, ?_, ?_⟩⟩
  · rw [finishSession_log]
    show c₁.log ++ _ = _
    rw [hws, List.append_assoc]
  · intro w hw
    rcases List.mem_append.mp hw with hw | hw
    · exact hconn w hw
    · obtain ⟨s, _, rfl⟩ := List.mem_map.mp hw
      rfl
  · unfold occ
    rw [hpool, List.nil_append]
    exact hon.before
  · have hsame : SamePool c ((c₁.sendAll conn sent).finishSession ⟨conn, returnTo, response⟩) :=
      (hon.samePool.trans (samePool_sendAll c₁ conn sent)).trans (samePool_finishSession _ _)
    have hocc : relayOcc (c₁.sendAll conn sent) = [] := hon.taken
    unfold occ
    rw [poolOcc_congr hsame, hpool, relayOcc_finishSession hocc hreturn]
    rfl

theorem relayOn_of_hold {conn : Conn} (hhold : c.tcpExtHold = some conn) (htcp : c.tcpTxn = none) :
    RelayOn c conn { c with tcpExtHold := none } := by
  refine ⟨⟨[], by simp, by simp⟩, ⟨rfl, rfl, rfl⟩, relayOcc_eq_nil.mpr ⟨htcp, rfl⟩, .inr ?_⟩
  unfold relayOcc
  rw [htcp, hhold]
  rfl

/-! ## Commands inside a transaction -/

/-- The connector after a call whose outcome the engine has handled. -/
def handled (r : Except GatewayError Outcome × SessionState × Connector) : Connector := (afterOutcome r.2.1 r.2.2 r.1).2

theorem handled_error (e : GatewayError) (session : SessionState) (c : Connector) :
    handled (.error e, session, c) = c := rfl

theorem handled_complete (response : GatewayResponse) (session : SessionState) (c : Connector) :
    handled (.ok (.complete response), session, c) = c := by
  unfold handled
  cases response <;> rfl

theorem handled_wireRelay (relay : WireRelay) (session : SessionState) (c : Connector) :
    handled (.ok (.wireRelay relay), session, c) = c.finishSession relay := by
  unfold handled afterOutcome
  dsimp only
  split <;> rfl

theorem handled_completed (r : Except GatewayError GatewayResponse × SessionState × Connector) :
    handled (completed r) = r.2.2 := by
  obtain ⟨e | response, session, c⟩ := r
  · rfl
  · exact handled_complete response session c

section RelayCommands

variable {c : Connector} (endpoint : EndpointConfig) (session : SessionState) {io : RelayIo}
variable (hio : RelaySteady io) (hpool : poolOcc c = []) (hhold : c.tcpExtHold = none)

include hio hpool hhold

theorem onOne_executeSimpleQueryTcpRelay (sql : String) (session' : SessionState) :
    OnOne c (handled (withSession session' (executeSimpleQueryTcpRelay c endpoint sql session true io))) := by
  unfold executeSimpleQueryTcpRelay
  rw [if_pos rfl]
  rcases tcpTxnSession_cases c endpoint session hio hhold with
    ⟨e, e', hget, _⟩ | ⟨conn, c₁, hget, hon⟩
  · rw [hget]
    exact OnOne.refl c
  · rw [hget]
    dsimp only
    rw [relayInto_steady c₁ conn _ .txn hio]
    unfold withSession
    rw [handled_wireRelay]
    exact onOne_of_relayed _ (.inl rfl) io.response hpool hon

theorem onOne_executeSimpleQueryWire (sql : String) (hin : c.inTxn session = true) :
    OnOne c (executeSimpleQueryWire c endpoint sql session io).2 := by
  unfold executeSimpleQueryWire
  rw [if_pos hin]
  rcases tcpTxnSession_cases c endpoint session hio hhold with
    ⟨e, e', hget, _⟩ | ⟨conn, c₁, hget, hon⟩
  · rw [hget]
    exact OnOne.refl c
  · rw [hget]
    dsimp only
    unfold collectInto
    rw [relayInto_steady c₁ conn _ .txn hio, hio.response]
    exact onOne_of_relayed _ (.inl rfl) io.response hpool hon

theorem executeExtendedTextBindTcpRelay_cases (sql : String) (parameters : List GatewayValue) :
    (∃ e e', executeExtendedTextBindTcpRelay c endpoint sql parameters session true io =
        (.error e, c) ∧ effectiveDatabase endpoint session = .error e') ∨
    ∃ outcome c₁, executeExtendedTextBindTcpRelay c endpoint sql parameters session true io =
        (.ok outcome, c₁) ∧ ∀ session', OnOne c (handled (.ok outcome, session', c₁)) := by
  unfold executeExtendedTextBindTcpRelay
  cases hdb : effectiveDatabase endpoint session with
  | error e => exact .inl ⟨e, e, rfl, rfl⟩
  | ok database =>
    dsimp only
    rw [if_pos rfl]
    rcases tcpTxnSession_cases c endpoint session hio hhold with
      ⟨e, e', hget, hno, _⟩ | ⟨conn, c₁, hget, hon⟩
    · rw [hdb] at hno
      cases hno
    · rw [hget]
      dsimp only
      rw [relayInto_steady c₁ conn _ .txn hio]
      refine .inr ⟨_, _, rfl, ?_⟩
      intro session'
      rw [handled_wireRelay]
      exact onOne_of_relayed _ (.inl rfl) io.response hpool hon

end RelayCommands

/-- The buffered frames continue the unit that is held: Execute frames only. -/
def resumes (session : SessionState) : Bool :=
  !session.pgClientExtendedFrames.isEmpty &&
    (session.pgClientExtendedFrames.all ClientFrame.isExecute && session.pgExtTcpHold)

theorem onOne_resume {conn : Conn} (endpoint : EndpointConfig) {session : SessionState} (b : Bool)
    {io : RelayIo} (hio : RelaySteady io) (hpool : poolOcc c = []) (hhold : c.tcpExtHold = some conn)
    (htcp : c.tcpTxn = none) (hresumes : resumes session = true) :
    ∃ outcome session' c₁, executeClientExtendedFramesTcpRelay c endpoint session b io =
      (.ok outcome, session', c₁) ∧ OnOne c (handled (.ok outcome, session', c₁)) := by
  unfold resumes at hresumes
  obtain ⟨hne, hexec⟩ := Bool.and_eq_true_iff.mp hresumes
  have hframes : ¬session.pgClientExtendedFrames.isEmpty = true := by
    intro h
    rw [h] at hne
    cases hne
  unfold executeClientExtendedFramesTcpRelay resumeHeldUnit
  rw [if_neg hframes, if_pos hexec, hhold]
  dsimp only
  rw [relayInto_steady _ conn _ .hold hio]
  refine ⟨_, _, _, rfl, ?_⟩
  rw [handled_wireRelay]
  exact onOne_of_relayed _ (.inr rfl) io.response hpool (relayOn_of_hold hhold htcp)

theorem executeClientExtendedFramesTcpRelay_cases (endpoint : EndpointConfig) (session : SessionState)
    {io : RelayIo} (hio : RelaySteady io) (hpool : poolOcc c = []) (hhold : c.tcpExtHold = none) :
    (∃ e session', executeClientExtendedFramesTcpRelay c endpoint session true io =
        (.error e, session', c) ∧ session'.transactionState = session.transactionState) ∨
    ∃ outcome session' c₁, executeClientExtendedFramesTcpRelay c endpoint session true io =
        (.ok outcome, session', c₁) ∧ OnOne c (handled (.ok outcome, session', c₁)) := by
  unfold executeClientExtendedFramesTcpRelay
  split
  · exact .inl ⟨_, session, rfl, rfl⟩
  split
  · unfold resumeHeldUnit
    rw [hhold]
    exact .inl ⟨_, _, rfl, rfl⟩
  · unfold relayUnit openFrameSession
    cases hdb : effectiveDatabase endpoint { session with pgClientExtendedFrames := [] } with
    | error e => exact .inl ⟨e, _, rfl, rfl⟩
    | ok database =>
      dsimp only
      rw [if_pos rfl]
      rcases tcpTxnSession_cases c endpoint { session with pgClientExtendedFrames := [] } hio hhold with
        ⟨e, e', hget, hno, _⟩ | ⟨conn, c₁, hget, hon⟩
      · rw [hdb] at hno
        cases hno
      · rw [hget]
        dsimp only
        rw [relayInto_steady c₁ conn _ .hold hio]
        refine .inr ⟨_, _, _, rfl, ?_⟩
        rw [handled_wireRelay]
        exact onOne_of_relayed _ (.inr rfl) io.response hpool hon

section NoDatabase

variable {c : Connector} {endpoint : EndpointConfig} {session : SessionState}

theorem acquireConn_noDatabase {e' : GatewayError}
    (hdb : effectiveDatabase endpoint session = .error e') (io : AcquireIo) :
    ∃ e, c.acquireConn endpoint session io = (.error e, c) := by
  unfold Connector.acquireConn
  split
  · exact ⟨_, rfl⟩
  · rw [hdb]
    exact ⟨e', rfl⟩

variable {e' : GatewayError}

theorem connForStatement_noDatabase (hdb : effectiveDatabase endpoint session = .error e')
    (hlease : c.txnLease = none) (b : Bool) (io : PoolIo) :
    ∃ e, connForStatement c b endpoint session io = (.failed e, c) := by
  obtain ⟨e, hget⟩ := acquireConn_noDatabase (c := c) hdb io.acquire
  unfold connForStatement leaseForStatement Connector.takeOrAcquireLease
  rw [hlease, hget]
  cases b <;> exact ⟨e, rfl⟩

theorem executeParamQueryStreaming_noDatabase (hdb : effectiveDatabase endpoint session = .error e')
    (hlease : c.txnLease = none) (sql : String) (parameters : List GatewayValue) (mode : ExecuteMode) (b : Bool)
    (io : PoolIo) : ∃ e, executeParamQueryStreaming c endpoint sql parameters session mode b io = (.error e, c) := by
  obtain ⟨e, hget⟩ := connForStatement_noDatabase hdb hlease b io
  unfold executeParamQueryStreaming executeSimpleQueryStreaming
  rw [hget]
  split
  · exact ⟨_, rfl⟩
  split
  · exact ⟨e, rfl⟩
  · exact ⟨e, rfl⟩

end NoDatabase

theorem handled_executeStreaming_noDatabase {command : GatewayCommand} {session : SessionState}
    {endpoint : EndpointConfig} {e' : GatewayError} {text : String × List GatewayValue}
    (htry : tryRelay c command = some text) (hend : selectEndpoint c session = .ok endpoint)
    (hdb : effectiveDatabase endpoint session = .error e') (hlease : c.txnLease = none) (mode : ExecuteMode)
    (b : Bool) (io : CallIo) : handled (executeStreaming c command session mode b io) = c := by
  cases command with
  | queryParams sql parameters =>
    obtain ⟨e, hget⟩ := executeParamQueryStreaming_noDatabase hdb hlease sql parameters mode b io.pool
    unfold executeStreaming
    rw [hend]
    dsimp only
    rw [hget]
    rfl
  | execute id parameters =>
    unfold executeStreaming
    dsimp only
    split
    · rfl
    rename_i sql _
    split
    · rfl
    obtain ⟨e, hget⟩ := executeParamQueryStreaming_noDatabase hdb hlease sql parameters mode b io.pool
    rw [hend]
    dsimp only
    rw [hget]
    rfl
  | _ => cases htry

structure Steady (io : CallIo) : Prop where
  relay : RelaySteady io.relay
  frames : RelaySteady io.frames
  textBind : RelaySteady io.textBind

theorem onOne_textBindOrDemote {command : GatewayCommand} {session : SessionState} {io : CallIo}
    (hrow : isRowCommand command = true) (hquery : ∀ sql, command ≠ .query sql) (hio : Steady io)
    (hpool : poolOcc c = []) (hlease : c.txnLease = none) (hhold : c.tcpExtHold = none) :
    OnOne c (handled (textBindOrDemote c command session true io)) := by
  unfold textBindOrDemote
  cases htry : tryRelay c command with
  | none =>
    -- an unknown prepared statement
    cases command with
    | execute id parameters =>
      have hsql : c.preparedSql id = none := by
        unfold tryRelay at htry
        exact Option.map_eq_none_iff.mp htry
      unfold executeStreaming
      dsimp only
      rw [hsql]
      exact OnOne.refl c
    | query sql => exact absurd rfl (hquery sql)
    | queryParams sql parameters => cases htry
    | _ => cases hrow
  | some text =>
    dsimp only
    cases hend : selectEndpoint c session with
    | error e => exact OnOne.refl c
    | ok endpoint =>
      dsimp only
      rcases executeExtendedTextBindTcpRelay_cases endpoint session hio.textBind hpool hhold text.1
        text.2 with ⟨e, e', hget, hdb⟩ | ⟨outcome, c₁, hget, hone⟩
      · rw [hget]
        dsimp only
        rw [handled_executeStreaming_noDatabase htry hend hdb hlease]
        exact OnOne.refl c
      · rw [hget]
        exact hone session

theorem onOne_executeUnrelayed {command : GatewayCommand} {session : SessionState} {io : CallIo}
    (hrow : isRowCommand command = true) (hio : Steady io) (hpool : poolOcc c = []) (hlease : c.txnLease = none)
    (hhold : c.tcpExtHold = none) (hin : c.inTxn session = true) :
    OnOne c (handled (executeUnrelayed c command session true io)) := by
  unfold executeUnrelayed
  cases command with
  | query sql =>
    dsimp only
    rw [handled_completed]
    unfold executeWithMode
    dsimp only
    cases hend : selectEndpoint c session with
    | error e => exact OnOne.refl c
    | ok endpoint =>
      exact onOne_executeSimpleQueryWire endpoint session hio.relay hpool hhold sql hin
  | queryParams sql parameters =>
    exact onOne_textBindOrDemote hrow (fun _ => GatewayCommand.noConfusion) hio hpool hlease hhold
  | execute id parameters =>
    exact onOne_textBindOrDemote hrow (fun _ => GatewayCommand.noConfusion) hio hpool hlease hhold
  | _ => cases hrow

/-! ## The driver's outcomes are not relays -/

def NoRelay (r : Except GatewayError Outcome) : Prop := ∀ relay, r ≠ .ok (.wireRelay relay)

theorem noRelay_completed (r : Except GatewayError GatewayResponse × SessionState × Connector) :
    NoRelay (completed r).1 := by
  obtain ⟨e | response, session, c⟩ := r
  · exact nofun
  · exact nofun

theorem handled_noRelay {r : Except GatewayError Outcome × Connector} (h : NoRelay r.1)
    (session : SessionState) : handled (withSession session r) = r.2 := by
  obtain ⟨e | outcome, c⟩ := r
  · rfl
  · cases outcome with
    | complete response => exact handled_complete response session c
    | streaming columns windows => rfl
    | wireRelay relay => exact absurd rfl (h relay)

theorem noRelay_streamRaw (c : Connector) (conn : Conn) (mode : ExecuteMode) (b : Bool)
    (io : PoolIo) : NoRelay (streamRaw c conn mode b io).1 := by
  intro relay
  unfold streamRaw
  split
  · exact nofun
  split <;> exact nofun

theorem noRelay_runExecute (c : Connector) (conn : Conn) (b : Bool) (io : PoolIo) :
    NoRelay (runExecute c conn b io).1 := by
  intro relay
  unfold runExecute
  split <;> exact nofun

theorem noRelay_streamPrepared (c : Connector) (conn : Conn) (mode : ExecuteMode) (b : Bool)
    (columns : List Column) (io : PoolIo) : NoRelay (streamPrepared c conn mode b columns io).1 := by
  unfold streamPrepared
  split
  · exact noRelay_runExecute c conn b io
  split
  · exact nofun
  · exact noRelay_runExecute c conn b io
  split <;> exact nofun

theorem noRelay_executeSimpleQueryStreaming (c : Connector) (endpoint : EndpointConfig)
    (sql : String) (session : SessionState) (mode : ExecuteMode) (b : Bool) (io : PoolIo) :
    NoRelay (executeSimpleQueryStreaming c endpoint sql session mode b io).1 := by
  unfold executeSimpleQueryStreaming
  split
  · exact nofun
  · exact nofun
  split
  · exact nofun
  · exact noRelay_streamRaw _ _ mode b io

theorem noRelay_executeParamQueryStreaming (c : Connector) (endpoint : EndpointConfig)
    (sql : String) (parameters : List GatewayValue) (session : SessionState) (mode : ExecuteMode)
    (b : Bool) (io : PoolIo) :
    NoRelay (executeParamQueryStreaming c endpoint sql parameters session mode b io).1 := by
  unfold executeParamQueryStreaming
  split
  · exact nofun
  split
  · exact noRelay_executeSimpleQueryStreaming c endpoint sql session mode b io
  split
  · exact nofun
  · exact nofun
  split
  · exact nofun
  split
  · exact nofun
  · exact noRelay_streamPrepared _ _ mode b _ io

/-- The command starts with `simple_query_raw` when it runs over the driver. -/
def startsSimple : GatewayCommand → Bool
  | .query _ => true
  | .queryParams _ parameters => parameters.isEmpty
  | .execute _ parameters => parameters.isEmpty
  | _ => false

/-- The text that a row command runs: its own, or the one registered for a prepared statement. -/
def runText (c : Connector) : GatewayCommand → Option String
  | .query sql => some sql
  | .queryParams sql _ => some sql
  | .execute statementId _ => c.preparedSql statementId
  | _ => none

theorem executeStreaming_cases {c : Connector} {command : GatewayCommand}
    (hrow : isRowCommand command = true) (session : SessionState) (mode : ExecuteMode) (b : Bool) (io : CallIo) :
    (∃ e, executeStreaming c command session mode b io = (.error e, session, c)) ∨
    (∃ endpoint sql, runText c command = some sql ∧ startsSimple command = true ∧
      executeStreaming c command session mode b io = withSession session
        (executeSimpleQueryStreaming c endpoint sql session mode b io.pool)) ∨
    ∃ endpoint sql parameters, runText c command = some sql ∧ startsSimple command = parameters.isEmpty ∧
      executeStreaming c command session mode b io = withSession session
        (executeParamQueryStreaming c endpoint sql parameters session mode b io.pool) := by
  cases command with
  | query sql =>
    unfold executeStreaming
    dsimp only
    cases hend : selectEndpoint c session with
    | error e => exact .inl ⟨e, rfl⟩
    | ok endpoint => exact .inr (.inl ⟨endpoint, sql, rfl, rfl, rfl⟩)
  | queryParams sql parameters =>
    unfold executeStreaming
    dsimp only
    cases hend : selectEndpoint c session with
    | error e => exact .inl ⟨e, rfl⟩
    | ok endpoint => exact .inr (.inr ⟨endpoint, sql, parameters, rfl, rfl, rfl⟩)
  | execute id parameters =>
    unfold executeStreaming
    dsimp only
    split
    · exact .inl ⟨_, rfl⟩
    rename_i sql hsql
    split
    · exact .inl ⟨_, rfl⟩
    cases hend : selectEndpoint c session with
    | error e => exact .inl ⟨e, rfl⟩
    | ok endpoint => exact .inr (.inr ⟨endpoint, sql, parameters, hsql, rfl, rfl⟩)
  | _ => cases hrow

theorem onOne_executeStreaming {command : GatewayCommand} (hrow : isRowCommand command = true)
    (session : SessionState) (mode : ExecuteMode) {io : CallIo} (hprod : NoLeaseProducer c)
    (hrelay : relayOcc c = []) (hio : PoolSteady io.pool) :
    OnOne c (handled (executeStreaming c command session mode true io)) := by
  rcases executeStreaming_cases (c := c) hrow session mode true io with
    ⟨e, h⟩ | ⟨endpoint, sql, _, _, h⟩ | ⟨endpoint, sql, parameters, _, _, h⟩
  · rw [h]
    exact OnOne.refl c
  · rw [h, handled_noRelay (noRelay_executeSimpleQueryStreaming c endpoint sql session mode true _)]
    exact onOne_executeSimpleQueryStreaming endpoint session hprod hrelay sql mode hio
  · rw [h, handled_noRelay
      (noRelay_executeParamQueryStreaming c endpoint sql parameters session mode true _)]
    exact onOne_executeParamQueryStreaming endpoint session hprod hrelay sql parameters mode hio

/-! ## Commands outside a transaction -/

section Outside

variable (c : Connector) (endpoint : EndpointConfig) (session : SessionState)

theorem poolOcc_giveBack_false (conn : Conn) : poolOcc (c.giveBack false conn) = poolOcc c := by
  unfold Connector.giveBack poolOcc
  simp

theorem poolOcc_spawn_false (conn : Conn) : poolOcc (c.spawnProducer conn false) = poolOcc c := by
  unfold Connector.spawnProducer poolOcc
  simp

theorem poolOcc_putConn (conn : Conn) : poolOcc (c.putConn conn) = poolOcc c := by
  unfold poolOcc
  simp

theorem poolOcc_acquireConn (io : AcquireIo) : poolOcc (c.acquireConn endpoint session io).2 = poolOcc c := by
  unfold poolOcc
  rw [acquireConn_txnLease, acquireConn_producers]

theorem poolOcc_connForStatement_false (io : PoolIo) :
    poolOcc (connForStatement c false endpoint session io).2 = poolOcc c := by
  have hacq := poolOcc_acquireConn c endpoint session io.acquire
  unfold connForStatement
  rcases hget : c.acquireConn endpoint session io.acquire with ⟨e | conn, c₁⟩
  · rw [hget] at hacq
    exact hacq
  · rw [hget] at hacq
    exact hacq

theorem poolOcc_streamRaw_false (conn : Conn) (mode : ExecuteMode) (io : PoolIo) :
    poolOcc (streamRaw c conn mode false io).2 = poolOcc c := by
  unfold streamRaw
  split
  · exact poolOcc_putConn c conn
  split
  · exact poolOcc_giveBack_false c conn
  · exact poolOcc_giveBack_false c conn
  · exact poolOcc_spawn_false c conn

theorem poolOcc_runExecute_false (conn : Conn) (io : PoolIo) :
    poolOcc (runExecute c conn false io).2 = poolOcc c := by
  unfold runExecute
  split <;> exact poolOcc_giveBack_false c conn

theorem poolOcc_streamPrepared_false (conn : Conn) (mode : ExecuteMode) (columns : List Column)
    (io : PoolIo) : poolOcc (streamPrepared c conn mode false columns io).2 = poolOcc c := by
  unfold streamPrepared
  split
  · exact poolOcc_runExecute_false c conn io
  split
  · exact poolOcc_giveBack_false c conn
  · exact poolOcc_runExecute_false c conn io
  split
  · exact poolOcc_giveBack_false c conn
  · exact poolOcc_giveBack_false c conn
  · exact poolOcc_spawn_false c conn

theorem poolOcc_executeSimpleQueryStreaming_false (sql : String) (mode : ExecuteMode) (io : PoolIo) :
    poolOcc (executeSimpleQueryStreaming c endpoint sql session mode false io).2 = poolOcc c := by
  have hconn := poolOcc_connForStatement_false c endpoint session io
  unfold executeSimpleQueryStreaming
  rcases hget : connForStatement c false endpoint session io with ⟨e | response | conn, c₁⟩
  · rw [hget] at hconn
    exact hconn
  · rw [hget] at hconn
    exact hconn
  rw [hget] at hconn
  dsimp only
  split
  · rw [poolOcc_putConn]
    exact hconn
  · rw [poolOcc_streamRaw_false]
    exact hconn

theorem poolOcc_executeParamQueryStreaming_false (sql : String) (parameters : List GatewayValue)
    (mode : ExecuteMode) (io : PoolIo) :
    poolOcc (executeParamQueryStreaming c endpoint sql parameters session mode false io).2 = poolOcc c := by
  unfold executeParamQueryStreaming
  split
  · rfl
  split
  · exact poolOcc_executeSimpleQueryStreaming_false c endpoint session sql mode io
  have hconn := poolOcc_connForStatement_false c endpoint session io
  rcases hget : connForStatement c false endpoint session io with ⟨e | response | conn, c₁⟩
  · rw [hget] at hconn
    exact hconn
  · rw [hget] at hconn
    exact hconn
  rw [hget] at hconn
  dsimp only
  split
  · rw [poolOcc_giveBack_false]
    exact hconn
  split
  · rw [poolOcc_giveBack_false]
    exact hconn
  · rw [poolOcc_streamPrepared_false]
    exact hconn

end Outside

theorem poolOcc_executeStreaming_false {c : Connector} {command : GatewayCommand}
    (hrow : isRowCommand command = true) (session : SessionState) (mode : ExecuteMode) (io : CallIo) :
    poolOcc (handled (executeStreaming c command session mode false io)) = poolOcc c := by
  rcases executeStreaming_cases (c := c) hrow session mode false io with
    ⟨e, h⟩ | ⟨endpoint, sql, _, _, h⟩ | ⟨endpoint, sql, parameters, _, _, h⟩
  · rw [h, handled_error]
  · rw [h, handled_noRelay (noRelay_executeSimpleQueryStreaming c endpoint sql session mode false _),
      poolOcc_executeSimpleQueryStreaming_false]
  · rw [h, handled_noRelay
        (noRelay_executeParamQueryStreaming c endpoint sql parameters session mode false _),
      poolOcc_executeParamQueryStreaming_false]

theorem sameRelay_executeStreaming {c : Connector} {command : GatewayCommand}
    (hrow : isRowCommand command = true) (session : SessionState) (mode : ExecuteMode) (b : Bool)
    (io : CallIo) : SameRelay c (handled (executeStreaming c command session mode b io)) := by
  rcases executeStreaming_cases (c := c) hrow session mode b io with
    ⟨e, h⟩ | ⟨endpoint, sql, _, _, h⟩ | ⟨endpoint, sql, parameters, _, _, h⟩
  · rw [h, handled_error]
    exact SameRelay.refl c
  · rw [h, handled_noRelay (noRelay_executeSimpleQueryStreaming c endpoint sql session mode b _)]
    exact sameRelay_executeSimpleQueryStreaming c endpoint session sql mode b io.pool
  · rw [h, handled_noRelay
        (noRelay_executeParamQueryStreaming c endpoint sql parameters session mode b _)]
    exact sameRelay_executeParamQueryStreaming c endpoint session sql parameters mode b io.pool

theorem occ_executeStreaming_false {command : GatewayCommand} (hrow : isRowCommand command = true)
    (session : SessionState) (mode : ExecuteMode) (io : CallIo) :
    occ (handled (executeStreaming c command session mode false io)) = occ c := by
  unfold occ
  rw [poolOcc_executeStreaming_false hrow, relayOcc_congr (sameRelay_executeStreaming hrow session mode false io)]

theorem noRelay_executeStreaming {c : Connector} {command : GatewayCommand}
    (hrow : isRowCommand command = true) (session : SessionState) (mode : ExecuteMode) (b : Bool)
    (io : CallIo) : NoRelay (executeStreaming c command session mode b io).1 ∧
      (executeStreaming c command session mode b io).2.1 = session := by
  rcases executeStreaming_cases (c := c) hrow session mode b io with
    ⟨e, h⟩ | ⟨endpoint, sql, _, _, h⟩ | ⟨endpoint, sql, parameters, _, _, h⟩
  · rw [h]
    exact ⟨nofun, rfl⟩
  · rw [h]
    exact ⟨noRelay_executeSimpleQueryStreaming c endpoint sql session mode b io.pool, rfl⟩
  · rw [h]
    exact ⟨noRelay_executeParamQueryStreaming c endpoint sql parameters session mode b io.pool, rfl⟩

theorem poolOcc_describeSql_false {session : SessionState} (sql : String) (io : PoolIo)
    (hleasing : c.leasing session = false) : poolOcc (describeSql c sql session io).2 = poolOcc c := by
  unfold describeSql
  split
  · rfl
  rename_i endpoint _
  rw [hleasing]
  have hacq := poolOcc_acquireConn c endpoint session io.acquire
  rw [if_neg Bool.false_ne_true]
  rcases hget : c.acquireConn endpoint session io.acquire with ⟨e | conn, c₁⟩
  · rw [hget] at hacq
    exact hacq
  · rw [hget] at hacq
    dsimp only
    rw [poolOcc_giveBack_false]
    exact hacq

theorem occ_describeSql_false {session : SessionState} (sql : String) (io : PoolIo)
    (hleasing : c.leasing session = false) : occ (describeSql c sql session io).2 = occ c := by
  unfold occ
  rw [poolOcc_describeSql_false sql io hleasing, relayOcc_congr (sameRelay_describeSql c session sql io)]

/-! ## Relays outside a transaction -/

section Vacant

variable {c : Connector} (endpoint : EndpointConfig) (session : SessionState)

theorem occ_eq_nil : occ c = [] ↔ poolOcc c = [] ∧ relayOcc c = [] := List.append_eq_nil_iff

theorem relayOcc_takeOrConnect (database : String) (io : RelayIo) :
    relayOcc (c.takeOrConnect endpoint database io).2 = relayOcc c := by
  unfold Connector.takeOrConnect Connector.openSession
  split
  · rfl
  · split <;> rfl

theorem occ_takeOrConnect (database : String) (io : RelayIo) :
    occ (c.takeOrConnect endpoint database io).2 = occ c := by
  unfold occ
  rw [poolOcc_congr (samePool_takeOrConnect c endpoint io database), relayOcc_takeOrConnect]

theorem occ_finishSession_le (hvacant : occ c = []) (relay : WireRelay) : (occ (c.finishSession relay)).length ≤ 1 := by
  obtain ⟨hpool, hrelay⟩ := occ_eq_nil.mp hvacant
  obtain ⟨htcp, hhold⟩ := relayOcc_eq_nil.mp hrelay
  have hidle : ∀ (c : Connector) (conn : Conn), relayOcc (c.putIdle conn) = relayOcc c := by
    intro c conn
    rw [putIdle_eq]
    rfl
  have hle : (relayOcc (c.finishSession relay)).length ≤ 1 := by
    unfold Connector.finishSession Connector.returnSession
    split
    · simp [relayOcc, htcp, hhold]
    · simp [relayOcc, hhold]
    · simp [relayOcc, htcp]
    · rw [hidle]
      simp [relayOcc, htcp, hhold]
    split
    · rw [hidle]
      simp [relayOcc, htcp, hhold]
    · simp [relayOcc, hhold]
    · simp [relayOcc, hhold]
    · simp [relayOcc, htcp, hhold]
  unfold occ
  rw [poolOcc_congr (samePool_finishSession c relay), hpool, List.nil_append]
  exact hle

theorem occ_relayInto_le (hvacant : occ c = []) (conn : Conn) (sent : List Sent)
    (returnTo : SessionReturn) (io : RelayIo) :
    (occ (handled (withSession session (relayInto c conn sent returnTo io)))).length ≤ 1 := by
  have hsent : occ (c.sendAll conn sent) = [] := hvacant
  unfold relayInto
  split
  · show (occ (c.sendAll conn sent)).length ≤ 1
    rw [hsent]
    exact Nat.zero_le 1
  · unfold withSession
    rw [handled_wireRelay]
    exact occ_finishSession_le hsent _

theorem occ_executeSimpleQueryTcpRelay_le (hvacant : occ c = []) (sql : String)
    (session' : SessionState) (io : RelayIo) : (occ (handled (withSession session'
      (executeSimpleQueryTcpRelay c endpoint sql session false io)))).length ≤ 1 := by
  have hzero : (occ c).length ≤ 1 := by
    rw [hvacant]
    exact Nat.zero_le 1
  unfold executeSimpleQueryTcpRelay
  rw [if_neg Bool.false_ne_true]
  split
  · exact hzero
  rename_i database _
  have htake := occ_takeOrConnect (c := c) endpoint database io
  rcases hget : c.takeOrConnect endpoint database io with ⟨e | conn, c₁⟩
  · rw [hget] at htake
    show (occ c₁).length ≤ 1
    rw [htake]
    exact hzero
  · rw [hget] at htake
    exact occ_relayInto_le session' (htake.trans hvacant) conn _ _ io

theorem occ_collectInto_le (hvacant : occ c = []) (conn : Conn) (sql : String)
    (returnTo : SessionReturn) (io : RelayIo) : (occ (collectInto c conn sql returnTo io).2).length ≤ 1 := by
  have hsent : occ (c.sendAll conn [.simpleQuery sql]) = [] := hvacant
  have hzero : (occ (c.sendAll conn [.simpleQuery sql])).length ≤ 1 := by
    rw [hsent]
    exact Nat.zero_le 1
  unfold collectInto relayInto
  cases io.write with
  | error e => exact hzero
  | ok _ =>
    dsimp only
    split
    · dsimp only
      split
      · exact occ_finishSession_le hsent _
      · exact hzero
    · exact occ_finishSession_le hsent _

theorem occ_executeSimpleQueryWire_le (hvacant : occ c = []) (sql : String) (io : RelayIo)
    (hin : c.inTxn session = false) : (occ (executeSimpleQueryWire c endpoint sql session io).2).length ≤ 1 := by
  have hzero : (occ c).length ≤ 1 := by
    rw [hvacant]
    exact Nat.zero_le 1
  unfold executeSimpleQueryWire
  rw [if_neg (by rw [hin]; exact Bool.false_ne_true)]
  split
  · exact hzero
  rename_i database _
  have htake := occ_takeOrConnect (c := c) endpoint database io
  rcases hget : c.takeOrConnect endpoint database io with ⟨e | conn, c₁⟩
  · rw [hget] at htake
    show (occ c₁).length ≤ 1
    rw [htake]
    exact hzero
  · rw [hget] at htake
    exact occ_collectInto_le (htake.trans hvacant) conn sql .idleOrTxn io

theorem executeExtendedTextBindTcpRelay_vacant (hvacant : occ c = []) (sql : String)
    (parameters : List GatewayValue) (io : RelayIo) :
    (∃ outcome c₁, executeExtendedTextBindTcpRelay c endpoint sql parameters session false io =
      (.ok outcome, c₁) ∧ ∀ session', (occ (handled (.ok outcome, session', c₁))).length ≤ 1) ∨
    ∃ e c₁, executeExtendedTextBindTcpRelay c endpoint sql parameters session false io =
      (.error e, c₁) ∧ occ c₁ = [] := by
  unfold executeExtendedTextBindTcpRelay
  split
  · exact .inr ⟨_, c, rfl, hvacant⟩
  rename_i database _
  rw [if_neg Bool.false_ne_true]
  have htake := occ_takeOrConnect (c := c) endpoint database io
  rcases hget : c.takeOrConnect endpoint database io with ⟨e | conn, c₁⟩
  · rw [hget] at htake
    exact .inr ⟨e, c₁, rfl, htake.trans hvacant⟩
  · rw [hget] at htake
    have hvacant₁ : occ c₁ = [] := htake.trans hvacant
    dsimp only
    unfold relayInto
    cases io.write with
    | error e => exact .inr ⟨e, _, rfl, hvacant₁⟩
    | ok _ =>
      have hsent : occ (c₁.sendAll conn [.textBind sql parameters]) = [] := hvacant₁
      refine .inl ⟨_, _, rfl, ?_⟩
      intro session'
      rw [handled_wireRelay]
      exact occ_finishSession_le hsent _

theorem executeClientExtendedFramesTcpRelay_vacant (hvacant : occ c = []) (io : RelayIo) :
    (∃ outcome session' c₁, executeClientExtendedFramesTcpRelay c endpoint session false io =
      (.ok outcome, session', c₁) ∧ (occ (handled (.ok outcome, session', c₁))).length ≤ 1) ∨
    ∃ e session' c₁, executeClientExtendedFramesTcpRelay c endpoint session false io =
      (.error e, session', c₁) ∧ occ c₁ = [] ∧ session'.transactionState = session.transactionState := by
  have hhold : c.tcpExtHold = none := (relayOcc_eq_nil.mp (occ_eq_nil.mp hvacant).2).2
  unfold executeClientExtendedFramesTcpRelay
  split
  · exact .inr ⟨_, session, c, rfl, hvacant, rfl⟩
  split
  · unfold resumeHeldUnit
    rw [hhold]
    exact .inr ⟨_, _, c, rfl, hvacant, rfl⟩
  · unfold relayUnit openFrameSession
    split
    · exact .inr ⟨_, _, c, rfl, hvacant, rfl⟩
    rename_i database _
    rw [if_neg Bool.false_ne_true]
    have htake := occ_takeOrConnect (c := c) endpoint database io
    rcases hget : c.takeOrConnect endpoint database io with ⟨e | conn, c₁⟩
    · rw [hget] at htake
      exact .inr ⟨e, _, c₁, rfl, htake.trans hvacant, rfl⟩
    · rw [hget] at htake
      have hvacant₁ : occ c₁ = [] := htake.trans hvacant
      dsimp only
      unfold relayInto
      cases io.write with
      | error e => exact .inr ⟨e, _, _, rfl, hvacant₁, rfl⟩
      | ok _ =>
        have hsent : occ (c₁.sendAll conn
            (clientFramesHold session.pgClientExtendedFrames)) = [] := hvacant₁
        refine .inl ⟨_, _, _, rfl, ?_⟩
        rw [handled_wireRelay]
        exact occ_finishSession_le hsent _

end Vacant

theorem txnLease_of_poolOcc (hpool : poolOcc c = []) : c.txnLease = none := by
  have hnil := (List.append_eq_nil_iff.mp hpool).1
  cases hlease : c.txnLease with
  | none => rfl
  | some conn =>
    rw [hlease] at hnil
    cases hnil

theorem inTxn_of_vacant (hvacant : occ c = []) (session : SessionState) :
    c.inTxn session = (session.transactionState == .active) := by
  obtain ⟨hpool, hrelay⟩ := occ_eq_nil.mp hvacant
  have htcp : c.tcpTxn = none := (relayOcc_eq_nil.mp hrelay).1
  have hlease : c.txnLease = none := txnLease_of_poolOcc hpool
  unfold Connector.inTxn
  rw [hlease, htcp]
  simp

theorem occ_executeUnrelayed_le {command : GatewayCommand} (hrow : isRowCommand command = true)
    {session : SessionState} (io : CallIo) (hvacant : occ c = []) (hin : c.inTxn session = false) :
    (occ (handled (executeUnrelayed c command session false io))).length ≤ 1 := by
  have hzero : (occ c).length ≤ 1 := by
    rw [hvacant]
    exact Nat.zero_le 1
  have hdemoted : ∀ c₁ : Connector, occ c₁ = [] →
      (occ (handled (executeStreaming c₁ command session demoted false io))).length ≤ 1 := by
    intro c₁ h
    rw [occ_executeStreaming_false hrow, h]
    exact Nat.zero_le 1
  have hparams : (occ (handled (textBindOrDemote c command session false io))).length ≤ 1 := by
    unfold textBindOrDemote
    split
    · exact hdemoted c hvacant
    split
    · exact hzero
    rename_i sql parameters _ _ endpoint _
    rcases executeExtendedTextBindTcpRelay_vacant endpoint session hvacant sql parameters io.textBind with
      ⟨outcome, c₁, hget, hle⟩ | ⟨e, c₁, hget, hocc⟩
    · rw [hget]
      exact hle session
    · rw [hget]
      exact hdemoted c₁ hocc
  unfold executeUnrelayed
  cases command with
  | query sql =>
    dsimp only
    rw [handled_completed]
    unfold executeWithMode
    dsimp only
    cases hend : selectEndpoint c session with
    | error e => exact hzero
    | ok endpoint => exact occ_executeSimpleQueryWire_le endpoint session hvacant sql io.relay hin
  | queryParams sql parameters => exact hparams
  | execute id parameters => exact hparams
  | _ => cases hrow

end DataNexus.Backend
