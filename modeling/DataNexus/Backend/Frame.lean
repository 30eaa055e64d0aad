/-
  What each path of the PostgreSQL connector leaves alone.

  The connector has a POOL SIDE (`txnLease`, `pool`, `producers`) and a RELAY SIDE (`tcpTxn`,
  `tcpExtHold`, `tcpIdle`).  Statements of the driver move connections on the pool side only, relayed
  statements on the relay side only.  `SameRelay` and `SamePool` say so, one lemma per function, and no
  later proof unfolds a path to learn it.
-/
import DataNexus.Backend.Execute

namespace DataNexus.Backend

open DataNexus.Stream

/-! ## The moves, field by field -/

section Moves

variable (c : Connector) (conn : Conn)

@[simp] theorem send_txnLease (s : Sent) (b : Bool) : (c.send conn s b).txnLease = c.txnLease := rfl
@[simp] theorem send_tcpTxn (s : Sent) (b : Bool) : (c.send conn s b).tcpTxn = c.tcpTxn := rfl
@[simp] theorem send_tcpExtHold (s : Sent) (b : Bool) : (c.send conn s b).tcpExtHold = c.tcpExtHold := rfl
@[simp] theorem send_pool (s : Sent) (b : Bool) : (c.send conn s b).pool = c.pool := rfl
@[simp] theorem send_tcpIdle (s : Sent) (b : Bool) : (c.send conn s b).tcpIdle = c.tcpIdle := rfl
@[simp] theorem send_producers (s : Sent) (b : Bool) : (c.send conn s b).producers = c.producers := rfl
@[simp] theorem send_nextSerial (s : Sent) (b : Bool) : (c.send conn s b).nextSerial = c.nextSerial := rfl
@[simp] theorem send_log (s : Sent) (b : Bool) : (c.send conn s b).log = c.log ++ [(conn, s)] := rfl
@[simp] theorem send_inBlock (s : Sent) (b : Bool) : (c.send conn s b).inBlock = Function.update c.inBlock conn b := rfl

theorem putConn_eq : c.putConn conn = { c with pool := (c.putConn conn).pool } := by
  unfold Connector.putConn
  split <;> rfl

@[simp] theorem putConn_txnLease : (c.putConn conn).txnLease = c.txnLease := by rw [putConn_eq]
@[simp] theorem putConn_tcpTxn : (c.putConn conn).tcpTxn = c.tcpTxn := by rw [putConn_eq]
@[simp] theorem putConn_tcpExtHold : (c.putConn conn).tcpExtHold = c.tcpExtHold := by rw [putConn_eq]
@[simp] theorem putConn_tcpIdle : (c.putConn conn).tcpIdle = c.tcpIdle := by rw [putConn_eq]
@[simp] theorem putConn_producers : (c.putConn conn).producers = c.producers := by rw [putConn_eq]

@[simp] theorem putConn_log : (c.putConn conn).log = c.log := by rw [putConn_eq]
@[simp] theorem putConn_inBlock : (c.putConn conn).inBlock = c.inBlock := by rw [putConn_eq]

theorem setLease_eq (slot : Option Conn) :
    c.setLease slot = { c with txnLease := slot, pool := (c.setLease slot).pool } := by
  unfold Connector.setLease
  cases c.txnLease with
  | none => rfl
  | some old =>
    dsimp only
    rw [putConn_eq c old]

@[simp] theorem setLease_txnLease (slot : Option Conn) : (c.setLease slot).txnLease = slot := by
  rw [setLease_eq]
@[simp] theorem setLease_tcpTxn (slot : Option Conn) : (c.setLease slot).tcpTxn = c.tcpTxn := by
  rw [setLease_eq]
@[simp] theorem setLease_tcpExtHold (slot : Option Conn) :
    (c.setLease slot).tcpExtHold = c.tcpExtHold := by rw [setLease_eq]
@[simp] theorem setLease_tcpIdle (slot : Option Conn) : (c.setLease slot).tcpIdle = c.tcpIdle := by
  rw [setLease_eq]
@[simp] theorem setLease_producers (slot : Option Conn) :
    (c.setLease slot).producers = c.producers := by rw [setLease_eq]

@[simp] theorem setLease_log (slot : Option Conn) : (c.setLease slot).log = c.log := by
  rw [setLease_eq]
@[simp] theorem setLease_inBlock (slot : Option Conn) : (c.setLease slot).inBlock = c.inBlock := by
  rw [setLease_eq]

theorem putIdle_eq : c.putIdle conn = { c with tcpIdle := (c.putIdle conn).tcpIdle } := by
  unfold Connector.putIdle
  split
  · split <;> rfl
  · rfl

end Moves

/-! ## The two sides -/

structure SameRelay (c c' : Connector) : Prop where
  tcpTxn : c'.tcpTxn = c.tcpTxn
  tcpExtHold : c'.tcpExtHold = c.tcpExtHold
  tcpIdle : c'.tcpIdle = c.tcpIdle

structure SamePool (c c' : Connector) : Prop where
  txnLease : c'.txnLease = c.txnLease
  pool : c'.pool = c.pool
  producers : c'.producers = c.producers

theorem SameRelay.refl (c : Connector) : SameRelay c c := ⟨rfl, rfl, rfl⟩

theorem SamePool.refl (c : Connector) : SamePool c c := ⟨rfl, rfl, rfl⟩

variable {c₁ c₂ c₃ c : Connector}

theorem SameRelay.trans (h : SameRelay c₁ c₂) (h' : SameRelay c₂ c₃) : SameRelay c₁ c₃ :=
  ⟨h'.tcpTxn.trans h.tcpTxn, h'.tcpExtHold.trans h.tcpExtHold, h'.tcpIdle.trans h.tcpIdle⟩

theorem SamePool.trans (h : SamePool c₁ c₂) (h' : SamePool c₂ c₃) : SamePool c₁ c₃ :=
  ⟨h'.txnLease.trans h.txnLease, h'.pool.trans h.pool, h'.producers.trans h.producers⟩

theorem sameRelay_send (c : Connector) (conn : Conn) (s : Sent) (b : Bool) :
    SameRelay c (c.send conn s b) := ⟨rfl, rfl, rfl⟩

theorem sameRelay_putConn (c : Connector) (conn : Conn) : SameRelay c (c.putConn conn) := ⟨by simp, by simp, by simp⟩

theorem sameRelay_setLease (c : Connector) (slot : Option Conn) : SameRelay c (c.setLease slot) :=
  ⟨by simp, by simp, by simp⟩

theorem sameRelay_giveBack (c : Connector) (b : Bool) (conn : Conn) : SameRelay c (c.giveBack b conn) := by
  unfold Connector.giveBack
  split
  · exact sameRelay_setLease c (some conn)
  · exact sameRelay_putConn c conn

theorem samePool_send (c : Connector) (conn : Conn) (s : Sent) (b : Bool) :
    SamePool c (c.send conn s b) := ⟨rfl, rfl, rfl⟩

theorem samePool_putIdle (c : Connector) (conn : Conn) : SamePool c (c.putIdle conn) := by
  rw [putIdle_eq]
  exact ⟨rfl, rfl, rfl⟩

/-! ## Pooled statements keep the relay side -/

section Pooled

variable (c : Connector) (endpoint : EndpointConfig) (session : SessionState)

theorem sameRelay_buildConn (key : String) (io : AcquireIo) : SameRelay c (c.buildConn key io).2 := by
  unfold Connector.buildConn
  split
  · exact SameRelay.refl c
  · exact ⟨rfl, rfl, rfl⟩

theorem sameRelay_acquireConn (io : AcquireIo) : SameRelay c (c.acquireConn endpoint session io).2 := by
  unfold Connector.acquireConn
  split
  · exact SameRelay.refl c
  split
  · exact SameRelay.refl c
  split
  · exact sameRelay_buildConn c _ io
  rename_i conn _
  have herase : SameRelay c { c with pool := c.pool.erase conn } := ⟨rfl, rfl, rfl⟩
  split
  · exact herase
  · exact herase.trans (sameRelay_buildConn _ _ io)

theorem sameRelay_takeOrAcquireLease (io : AcquireIo) : SameRelay c (c.takeOrAcquireLease endpoint session io).2 := by
  unfold Connector.takeOrAcquireLease
  split
  · exact ⟨rfl, rfl, rfl⟩
  · exact sameRelay_acquireConn c endpoint session io

theorem sameRelay_executeOnConn (conn : Conn) (sql : String) (clientOpen : Bool)
    (answer : Except GatewayError GatewayResponse) (after : Bool) :
    SameRelay c (executeOnConn c conn sql clientOpen answer after).2 := by
  unfold executeOnConn
  split
  · exact sameRelay_send c conn _ _
  · exact SameRelay.refl c

theorem sameRelay_leaseForStatement (io : PoolIo) : SameRelay c (leaseForStatement c endpoint session io).2 := by
  have hlease := sameRelay_takeOrAcquireLease c endpoint session io.acquire
  unfold leaseForStatement
  rcases htake : c.takeOrAcquireLease endpoint session io.acquire with ⟨e | conn, c₁⟩
  · rw [htake] at hlease
    exact hlease
  rw [htake] at hlease
  dsimp only
  split
  · have hbegin := sameRelay_executeOnConn c₁ conn "BEGIN" io.clientOpen io.begin
      (succeeded io.begin || c₁.inBlock conn)
    rcases hon : executeOnConn c₁ conn "BEGIN" io.clientOpen io.begin
      (succeeded io.begin || c₁.inBlock conn) with ⟨e | response, c₂⟩
    · rw [hon] at hbegin
      exact (hlease.trans hbegin).trans (sameRelay_putConn c₂ conn)
    · rw [hon] at hbegin
      dsimp only
      split
      · exact hlease.trans hbegin
      · exact (hlease.trans hbegin).trans (sameRelay_setLease c₂ (some conn))
  · exact hlease

theorem sameRelay_connForStatement (b : Bool) (io : PoolIo) :
    SameRelay c (connForStatement c b endpoint session io).2 := by
  unfold connForStatement
  split
  · exact sameRelay_leaseForStatement c endpoint session io
  · have hacq := sameRelay_acquireConn c endpoint session io.acquire
    rcases hget : c.acquireConn endpoint session io.acquire with ⟨e | conn, c₁⟩
    · rw [hget] at hacq
      exact hacq
    · rw [hget] at hacq
      exact hacq

theorem sameRelay_streamRaw (conn : Conn) (mode : ExecuteMode) (b : Bool) (io : PoolIo) :
    SameRelay c (streamRaw c conn mode b io).2 := by
  unfold streamRaw
  split
  · exact sameRelay_putConn c conn
  split
  · exact sameRelay_giveBack c b conn
  · exact sameRelay_giveBack c b conn
  · exact ⟨rfl, rfl, rfl⟩

theorem sameRelay_runExecute (conn : Conn) (b : Bool) (io : PoolIo) : SameRelay c (runExecute c conn b io).2 := by
  unfold runExecute
  split <;> exact sameRelay_giveBack c b conn

theorem sameRelay_streamPrepared (conn : Conn) (mode : ExecuteMode) (b : Bool) (columns : List Column) (io : PoolIo) :
    SameRelay c (streamPrepared c conn mode b columns io).2 := by
  unfold streamPrepared
  split
  · exact sameRelay_runExecute c conn b io
  split
  · exact sameRelay_giveBack c b conn
  · exact sameRelay_runExecute c conn b io
  split
  · exact sameRelay_giveBack c b conn
  · exact sameRelay_giveBack c b conn
  · exact ⟨rfl, rfl, rfl⟩

theorem sameRelay_executeSimpleQueryStreaming (sql : String) (mode : ExecuteMode) (b : Bool) (io : PoolIo) :
    SameRelay c (executeSimpleQueryStreaming c endpoint sql session mode b io).2 := by
  have hconn := sameRelay_connForStatement c endpoint session b io
  unfold executeSimpleQueryStreaming
  rcases hget : connForStatement c b endpoint session io with ⟨e | response | conn, c₁⟩
  · rw [hget] at hconn
    exact hconn
  · rw [hget] at hconn
    exact hconn
  rw [hget] at hconn
  dsimp only
  split
  · exact hconn.trans (sameRelay_putConn c₁ conn)
  · exact (hconn.trans (sameRelay_send c₁ conn _ _)).trans (sameRelay_streamRaw _ conn mode b io)

theorem sameRelay_executeParamQueryStreaming (sql : String) (parameters : List GatewayValue)
    (mode : ExecuteMode) (b : Bool) (io : PoolIo) :
    SameRelay c (executeParamQueryStreaming c endpoint sql parameters session mode b io).2 := by
  unfold executeParamQueryStreaming
  split
  · exact SameRelay.refl c
  split
  · exact sameRelay_executeSimpleQueryStreaming c endpoint session sql mode b io
  have hconn := sameRelay_connForStatement c endpoint session b io
  rcases hget : connForStatement c b endpoint session io with ⟨e | response | conn, c₁⟩
  · rw [hget] at hconn
    exact hconn
  · rw [hget] at hconn
    exact hconn
  rw [hget] at hconn
  dsimp only
  split
  · exact hconn.trans (sameRelay_giveBack c₁ b conn)
  split
  · exact hconn.trans (sameRelay_giveBack c₁ b conn)
  · exact (hconn.trans (sameRelay_send c₁ conn _ _)).trans
      (sameRelay_streamPrepared _ conn mode b _ io)

theorem sameRelay_describeSql (sql : String) (io : PoolIo) : SameRelay c (describeSql c sql session io).2 := by
  unfold describeSql
  split
  · exact SameRelay.refl c
  rename_i endpoint _
  have hget : SameRelay c (if c.leasing session then c.takeOrAcquireLease endpoint session io.acquire
      else c.acquireConn endpoint session io.acquire).2 := by
    split
    · exact sameRelay_takeOrAcquireLease c endpoint session io.acquire
    · exact sameRelay_acquireConn c endpoint session io.acquire
  split
  · rename_i heq
    rw [heq] at hget
    exact hget
  · rename_i conn c₁ heq
    rw [heq] at hget
    have hsend : SameRelay c₁ (c₁.sendAll conn [.prepare sql]) := ⟨rfl, rfl, rfl⟩
    exact (hget.trans hsend).trans (sameRelay_giveBack _ _ conn)

end Pooled

/-! ## Relayed statements keep the pool side -/

section Relayed

variable (c : Connector) (endpoint : EndpointConfig) (session : SessionState) (io : RelayIo)

theorem samePool_openSession (key : String) : SamePool c (c.openSession key io).2 := by
  unfold Connector.openSession
  split
  · exact SamePool.refl c
  · exact ⟨rfl, rfl, rfl⟩

theorem samePool_takeOrConnect (database : String) : SamePool c (c.takeOrConnect endpoint database io).2 := by
  unfold Connector.takeOrConnect
  have hdiscard : SamePool c
      { c with tcpIdle := c.tcpIdle.filter (·.key != tcpPoolKey endpoint database) } :=
    ⟨rfl, rfl, rfl⟩
  split
  · exact ⟨rfl, rfl, rfl⟩
  · exact hdiscard.trans (samePool_openSession _ io _)

theorem samePool_takeOrOpenTcpTxn : SamePool c (c.takeOrOpenTcpTxn endpoint session io).2 := by
  unfold Connector.takeOrOpenTcpTxn
  split
  · exact ⟨rfl, rfl, rfl⟩
  split
  · exact SamePool.refl c
  rename_i database _
  have hopen := samePool_openSession c io (tcpPoolKey endpoint database)
  rcases hget : c.openSession (tcpPoolKey endpoint database) io with ⟨e | conn, c₁⟩
  · rw [hget] at hopen
    exact hopen
  · rw [hget] at hopen
    exact hopen

theorem samePool_tcpTxnSession : SamePool c (tcpTxnSession c endpoint session io).2 := by
  have htake := samePool_takeOrOpenTcpTxn c endpoint session io
  unfold tcpTxnSession
  rcases hget : c.takeOrOpenTcpTxn endpoint session io with ⟨e | ⟨conn, isNew⟩, c₁⟩
  · rw [hget] at htake
    exact htake
  rw [hget] at htake
  dsimp only
  split
  · split
    · exact htake.trans (samePool_send c₁ conn _ _)
    · split <;> exact htake.trans (samePool_send c₁ conn _ _)
  · exact htake

theorem samePool_sendAll (conn : Conn) (sent : List Sent) : SamePool c (c.sendAll conn sent) := ⟨rfl, rfl, rfl⟩

theorem samePool_relayInto (conn : Conn) (sent : List Sent) (returnTo : SessionReturn) :
    SamePool c (relayInto c conn sent returnTo io).2 := by
  unfold relayInto
  split <;> exact samePool_sendAll c conn sent

theorem samePool_finishSession (relay : WireRelay) : SamePool c (c.finishSession relay) := by
  have hblock : SamePool c
      { c with inBlock := Function.update c.inBlock relay.conn relay.response.inBlock } :=
    ⟨rfl, rfl, rfl⟩
  refine hblock.trans ?_
  unfold Connector.finishSession Connector.returnSession
  split
  · exact ⟨rfl, rfl, rfl⟩
  · exact ⟨rfl, rfl, rfl⟩
  · exact ⟨rfl, rfl, rfl⟩
  · exact samePool_putIdle _ relay.conn
  split
  · exact samePool_putIdle _ relay.conn
  all_goals exact ⟨rfl, rfl, rfl⟩

theorem samePool_collectInto (conn : Conn) (sql : String) (returnTo : SessionReturn) :
    SamePool c (collectInto c conn sql returnTo io).2 := by
  have hrelay := samePool_relayInto c io conn [.simpleQuery sql] returnTo
  unfold collectInto
  rcases hget : relayInto c conn [.simpleQuery sql] returnTo io with ⟨e | outcome, c₁⟩
  · rw [hget] at hrelay
    exact hrelay
  rw [hget] at hrelay
  dsimp only
  split
  · dsimp only
    split
    · exact hrelay.trans (samePool_finishSession c₁ _)
    · exact hrelay
  · exact hrelay.trans (samePool_finishSession c₁ _)

theorem samePool_executeSimpleQueryWire (sql : String) :
    SamePool c (executeSimpleQueryWire c endpoint sql session io).2 := by
  unfold executeSimpleQueryWire
  split
  · have htxn := samePool_tcpTxnSession c endpoint session io
    rcases hget : tcpTxnSession c endpoint session io with ⟨e | packets | conn, c₁⟩
    · rw [hget] at htxn
      exact htxn
    · rw [hget] at htxn
      exact htxn
    · rw [hget] at htxn
      exact htxn.trans (samePool_collectInto c₁ io conn sql .txn)
  split
  · exact SamePool.refl c
  rename_i database _
  have htake := samePool_takeOrConnect c endpoint io database
  rcases hget : c.takeOrConnect endpoint database io with ⟨e | conn, c₁⟩
  · rw [hget] at htake
    exact htake
  · rw [hget] at htake
    exact htake.trans (samePool_collectInto c₁ io conn sql .idleOrTxn)

end Relayed

/-! ## Dispatch -/

theorem executeOutcome_driver {command : GatewayCommand} {mode : ExecuteMode}
    (hrow : isRowCommand command = true) (hmode : mode.isPassthrough = false) (session : SessionState) (io : CallIo) :
    executeOutcome c command session mode io =
      executeStreaming c command session mode.promoteRowStream (c.inTxn session) io := by
  unfold executeOutcome
  cases command with
  | pgBackendSync => cases hrow
  | query sql => cases mode <;> first | rfl | cases hmode
  | queryParams sql parameters => cases mode <;> first | rfl | cases hmode
  | execute id parameters => cases mode <;> first | rfl | cases hmode
  | _ => cases hrow

theorem executeOutcome_other {command : GatewayCommand} (hrow : isRowCommand command = false)
    (hsync : command ≠ .pgBackendSync) (session : SessionState) (mode : ExecuteMode) (io : CallIo) :
    executeOutcome c command session mode io = completed (executeWithMode c command session mode io) := by
  unfold executeOutcome
  cases command with
  | pgBackendSync => exact absurd rfl hsync
  | query sql => cases hrow
  | queryParams sql parameters => cases hrow
  | execute id parameters => cases hrow
  | _ => rfl

theorem inTxn_congr {session session' : SessionState} (h : session'.transactionState = session.transactionState) :
    c.inTxn session' = c.inTxn session := by
  unfold Connector.inTxn
  rw [h]

/-- Once frames are buffered the branch is the same for all three row commands. -/
theorem executeOutcome_buffered (c : Connector) {command : GatewayCommand} (hrow : isRowCommand command = true)
    {session : SessionState} (hframes : session.pgClientExtendedFrames.isEmpty = false) (io : CallIo) :
    executeOutcome c command session .passthrough io =
      match selectEndpoint c session with
      | .error e => (.error e, session, c)
      | .ok endpoint =>
        match executeClientExtendedFramesTcpRelay c endpoint session (c.inTxn session) io.frames with
        | (.ok outcome, session', c') => (.ok outcome, session', c')
        | (.error _, session', c') => executeUnrelayed c' command session' (c.inTxn session) io := by
  unfold executeOutcome
  rw [hframes]
  cases command with
  | query sql => rfl
  | queryParams sql parameters => rfl
  | execute id parameters => rfl
  | _ => cases hrow

theorem executeOutcome_unbuffered (c : Connector) (sql : String) {session : SessionState}
    (hframes : session.pgClientExtendedFrames.isEmpty = true) (io : CallIo) :
    executeOutcome c (.query sql) session .passthrough io =
      match selectEndpoint c session with
      | .error e => (.error e, session, c)
      | .ok endpoint => withSession session
          (executeSimpleQueryTcpRelay c endpoint sql session (c.inTxn session) io.relay) := by
  unfold executeOutcome
  rw [hframes]
  rfl

theorem executeOutcome_relay_cases (c : Connector) {command : GatewayCommand}
    (hrow : isRowCommand command = true) (session : SessionState) (io : CallIo) :
    (∃ e, executeOutcome c command session .passthrough io = (.error e, session, c)) ∨
    (session.pgClientExtendedFrames.isEmpty = true ∧ ∃ sql endpoint, command = .query sql ∧
      executeOutcome c command session .passthrough io = withSession session
        (executeSimpleQueryTcpRelay c endpoint sql session (c.inTxn session) io.relay)) ∨
    (session.pgClientExtendedFrames.isEmpty = true ∧ (∀ sql, command ≠ .query sql) ∧
      executeOutcome c command session .passthrough io = executeUnrelayed c command session (c.inTxn session) io) ∨
    (session.pgClientExtendedFrames.isEmpty = false ∧ ∃ endpoint outcome session' c',
      executeClientExtendedFramesTcpRelay c endpoint session (c.inTxn session) io.frames = (.ok outcome, session', c') ∧
      executeOutcome c command session .passthrough io = (.ok outcome, session', c')) ∨
    (session.pgClientExtendedFrames.isEmpty = false ∧ ∃ endpoint e session' c',
      executeClientExtendedFramesTcpRelay c endpoint session (c.inTxn session) io.frames = (.error e, session', c') ∧
      executeOutcome c command session .passthrough io =
        executeUnrelayed c' command session' (c.inTxn session) io) := by
  cases hframes : session.pgClientExtendedFrames.isEmpty with
  | false =>
    rw [executeOutcome_buffered c hrow hframes]
    cases hend : selectEndpoint c session with
    | error e => exact .inl ⟨e, rfl⟩
    | ok endpoint =>
      dsimp only
      rcases hget : executeClientExtendedFramesTcpRelay c endpoint session (c.inTxn session)
        io.frames with ⟨e | outcome, session', c'⟩
      · exact .inr (.inr (.inr (.inr ⟨rfl, endpoint, e, session', c', hget, rfl⟩)))
      · exact .inr (.inr (.inr (.inl ⟨rfl, endpoint, outcome, session', c', hget, rfl⟩)))
  | true =>
    cases command with
    | query sql =>
      rw [executeOutcome_unbuffered c sql hframes]
      cases hend : selectEndpoint c session with
      | error e => exact .inl ⟨e, rfl⟩
      | ok endpoint => exact .inr (.inl ⟨rfl, sql, endpoint, rfl, rfl⟩)
    | queryParams sql parameters =>
      refine .inr (.inr (.inl ⟨rfl, by rintro _ ⟨⟩, ?_⟩))
      unfold executeOutcome
      rw [hframes]
      rfl
    | execute id parameters =>
      refine .inr (.inr (.inl ⟨rfl, by rintro _ ⟨⟩, ?_⟩))
      unfold executeOutcome
      rw [hframes]
      rfl
    | _ => cases hrow

end DataNexus.Backend
