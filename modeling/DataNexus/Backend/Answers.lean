/-
  What a connector answers with when it does not relay.

  The rows of a statement leave either connector as a stream whose columns the server gave; everything else
  is an answer without rows: the affected rows, an empty result, or what the server said to BEGIN or in an OK
  packet.  A Describe is answered with the columns of a prepare.

  `StatementAnswer` and `DescribeAnswer` say this against what the world told the connector, and hold of every
  call: the two connectors differ in where the columns come from (`PoolIo.Gives`, `StatementIo.Gives`).
-/
import DataNexus.Backend.Occupied
import DataNexus.Backend.MySql
import DataNexus.Stream.Failure

namespace DataNexus.Backend

open DataNexus.Stream

/-! ## Answers -/

/-- An answer that needs no columns: affected rows, an empty result or an error. -/
def isColumnless : GatewayResponse → Bool
  | .ok _ _ => true
  | .resultSet columns rows => columns.isEmpty && rows.isEmpty
  | .error _ _ => true
  | _ => false

/-- A statement that is not relayed: a stream with columns, an answer without rows, or an acknowledgement. -/
def StatementAnswer (gives : List Column → Prop) (acks : GatewayResponse → Prop) : Except GatewayError Outcome → Prop
  | .error _ => True
  | .ok (.streaming columns _) => gives columns
  | .ok (.complete response) => isColumnless response = true ∨ acks response
  | .ok (.wireRelay _) => False

/-- A Describe: the columns that the server told. -/
def DescribeAnswer (tells : List Column → Prop) : Except GatewayError Outcome → Prop
  | .error _ => True
  | .ok (.complete (.rowDescription columns)) => tells columns
  | _ => False

section Answers

variable {gives : List Column → Prop} {acks : GatewayResponse → Prop}

theorem statementAnswer_awaited {response : GatewayResponse}
    (h : ∃ n i, response = .ok n i ∨ response = .resultSet [] []) :
    StatementAnswer gives acks (.ok (.complete response)) := by
  obtain ⟨n, i, rfl | rfl⟩ := h
  · exact .inl rfl
  · exact .inl rfl

theorem statementAnswer_acked {response : GatewayResponse} (h : acks response) :
    StatementAnswer gives acks (.ok (.complete response)) :=
  .inr h

theorem StatementAnswer.mono {gives' : List Column → Prop} {outcome : Except GatewayError Outcome}
    (h : StatementAnswer gives acks outcome) (hgives : ∀ columns, gives columns → gives' columns) :
    StatementAnswer gives' acks outcome := by
  rcases outcome with e | (response | ⟨columns, windows⟩ | relay)
  · exact trivial
  · exact h
  · exact hgives columns h
  · exact h

end Answers

/-! ## PostgreSQL -/

/-- The columns of the rows that the server sends for a statement. -/
def PoolIo.Gives (io : PoolIo) (columns : List Column) : Prop :=
  (∃ items names, io.start = .ok items ∧ .rowDescription names ∈ items ∧
      columns = names.map fun n => ⟨n, "text"⟩) ∨
    ∃ items values, io.queryRaw = .rows items ∧ .row columns values ∈ items

def PoolIo.Acks (io : PoolIo) (response : GatewayResponse) : Prop := io.begin = .ok response

/-- The columns that the server tells of a prepared text. -/
def PoolIo.Tells (io : PoolIo) (columns : List Column) : Prop := io.prepare = .ok columns

theorem connForStatement_answered {c c' : Connector} {endpoint : EndpointConfig} {session : SessionState}
    {io : PoolIo} {inTransaction : Bool} {response : GatewayResponse}
    (h : connForStatement c inTransaction endpoint session io = (.answered response, c')) : io.Acks response := by
  unfold connForStatement at h
  split at h
  · unfold leaseForStatement executeOnConn at h
    split at h
    · cases h
    · split at h
      · cases hopen : io.clientOpen with
        | false =>
          rw [hopen] at h
          cases h
        | true =>
          rw [hopen] at h
          cases hbegin : io.begin with
          | error e =>
            rw [hbegin] at h
            cases h
          | ok answer =>
            rw [hbegin] at h
            rw [if_pos rfl] at h
            dsimp only at h
            split at h
            · cases h
            · cases h
              exact hbegin
      · cases h
  · split at h
    · cases h
    · cases h

theorem columns_of_awaitRowDescription {items rest : List SimpleItem} {columns : List Column}
    (h : awaitRowDescription items = .rows columns rest) :
    ∃ names, .rowDescription names ∈ items ∧ columns = names.map fun n => ⟨n, "text"⟩ := by
  induction items with
  | nil => cases h
  | cons item items ih =>
    cases item with
    | rowDescription names =>
      cases h
      exact ⟨names, List.mem_cons_self, rfl⟩
    | other =>
      obtain ⟨names, hmem, hcolumns⟩ := ih h
      exact ⟨names, List.mem_cons_of_mem _ hmem, hcolumns⟩
    | row values => cases h
    | commandComplete count => cases h
    | failed e => cases h

theorem columns_of_awaitFirstRow {items rest : List TypedItem} {columns : List Column}
    (h : awaitFirstRow items = .rows columns rest) : ∃ values, .row columns values ∈ items := by
  cases items with
  | nil => cases h
  | cons item items =>
    cases item with
    | failed e => cases h
    | row columns' values =>
      cases values with
      | error e => cases h
      | ok row =>
        cases h
        exact ⟨_, List.mem_cons_self⟩

theorem statementAnswer_simple (c : Connector) (endpoint : EndpointConfig) (sql : String)
    (session : SessionState) (mode : ExecuteMode) (inTransaction : Bool) (io : PoolIo) :
    StatementAnswer io.Gives io.Acks
      (executeSimpleQueryStreaming c endpoint sql session mode inTransaction io).1 := by
  unfold executeSimpleQueryStreaming
  split
  · exact trivial
  · next response c' h => exact statementAnswer_acked (connForStatement_answered h)
  · split
    · exact trivial
    · unfold streamRaw
      cases hitems : io.start with
      | error e => exact trivial
      | ok items =>
        dsimp only
        cases hstart : awaitRowDescription items with
        | error e => exact trivial
        | rows columns rest =>
          obtain ⟨names, hmem, hcolumns⟩ := columns_of_awaitRowDescription hstart
          exact .inl ⟨items, names, hitems, hmem, hcolumns⟩
        | complete response => exact statementAnswer_awaited ((awaitRowDescription_spec items).2 response hstart)

theorem statementAnswer_param (c : Connector) (endpoint : EndpointConfig) (sql : String)
    (parameters : List GatewayValue) (session : SessionState) (mode : ExecuteMode)
    (inTransaction : Bool) (io : PoolIo) : StatementAnswer io.Gives io.Acks
      (executeParamQueryStreaming c endpoint sql parameters session mode inTransaction io).1 := by
  have hexecute : ∀ c conn, StatementAnswer io.Gives io.Acks (runExecute c conn inTransaction io).1 := by
    intro c conn
    unfold runExecute
    split
    · exact trivial
    · exact .inl rfl
  unfold executeParamQueryStreaming
  split
  · exact trivial
  · split
    · exact statementAnswer_simple c endpoint sql session mode inTransaction io
    · split
      · exact trivial
      · next response c' h => exact statementAnswer_acked (connForStatement_answered h)
      · split
        · exact trivial
        · split
          · exact trivial
          · unfold streamPrepared
            split
            · exact hexecute _ _
            · cases hraw : io.queryRaw with
              | failed e => exact trivial
              | noRows => exact hexecute _ _
              | rows items =>
                dsimp only
                cases hstart : awaitFirstRow items with
                | error e => exact trivial
                | rows columns rest =>
                  obtain ⟨values, hmem⟩ := columns_of_awaitFirstRow hstart
                  exact .inr ⟨items, values, hraw, hmem⟩
                | complete response =>
                  exact statementAnswer_awaited ((awaitFirstRow_spec items).2 response hstart)

/-- **A statement that PostgreSQL streams.** -/
theorem statementAnswer_postgreSql (c : Connector) {command : GatewayCommand} (session : SessionState)
    (window : Nat) (cap : Option Nat) (io : CallIo) (hrow : isRowCommand command = true) :
    StatementAnswer io.pool.Gives io.pool.Acks (executeOutcome c command session (.streaming window cap) io).1 := by
  have hmode : executeOutcome c command session (.streaming window cap) io =
      executeStreaming c command session (.streaming window cap) (c.inTxn session) io := by
    unfold executeOutcome
    cases command with
    | query sql => rfl
    | queryParams sql parameters => rfl
    | execute id parameters => rfl
    | _ => cases hrow
  rw [hmode]
  rcases executeStreaming_cases (c := c) hrow session (.streaming window cap) (c.inTxn session) io with
    ⟨e, h⟩ | ⟨endpoint, sql, _, _, h⟩ | ⟨endpoint, sql, parameters, _, _, h⟩
  · rw [h]
    exact trivial
  · rw [h]
    exact statementAnswer_simple c endpoint sql session _ _ io.pool
  · rw [h]
    exact statementAnswer_param c endpoint sql parameters session _ _ io.pool

theorem describeSql_cases (c : Connector) (sql : String) (session : SessionState) (io : PoolIo) :
    (∃ e, (describeSql c sql session io).1 = .error e) ∨
      (describeSql c sql session io).1 = io.prepare.map .rowDescription := by
  unfold describeSql
  split
  · exact .inl ⟨_, rfl⟩
  · generalize (if c.leasing session then _ else _ : Except GatewayError Conn × Connector) = lease
    rcases lease with ⟨e | conn, c'⟩
    · exact .inl ⟨e, rfl⟩
    · exact .inr rfl

theorem describeAnswer_postgreSql (c : Connector) (sql : String) (session : SessionState) (mode : ExecuteMode)
    (io : CallIo) : DescribeAnswer io.pool.Tells (executeOutcome c (.describeSql sql) session mode io).1 := by
  show DescribeAnswer _ (completed (withSession session (describeSql c sql session io.pool))).1
  unfold completed withSession
  rcases describeSql_cases c sql session io.pool with ⟨e, h⟩ | h
  · rw [h]
    exact trivial
  · rw [h]
    cases hprepare : io.pool.prepare with
    | error e => exact trivial
    | ok columns => exact hprepare

/-! ## MySQL -/

namespace MySql

/-- The columns of the rows that the server sends for a statement. -/
def StatementIo.Gives (io : StatementIo) (columns : List Column) : Prop := ∃ rows, io.header = .columns columns rows

/-- What the server says to BEGIN, or in the OK packet of a statement. -/
def StatementIo.Acks (io : StatementIo) (response : GatewayResponse) : Prop :=
  io.begin = .ok response ∨ io.header = .ok (.ok response)

theorem connForStatement_answered {c c' : Connector} {endpoint : EndpointConfig}
    {session : SessionState} {io : StatementIo} {inTransaction : Bool} {response : GatewayResponse}
    (h : connForStatement c inTransaction endpoint session io = (.answered response, c')) :
    io.begin = .ok response := by
  unfold connForStatement at h
  split at h
  · unfold leaseForStatement executeOnConn at h
    split at h
    · cases h
    · split at h
      · cases hopen : io.clientOpen with
        | false =>
          rw [hopen] at h
          cases h
        | true =>
          rw [hopen] at h
          cases hbegin : io.begin with
          | error e =>
            rw [hbegin] at h
            cases h
          | ok answer =>
            rw [hbegin] at h
            rw [if_pos rfl] at h
            dsimp only at h
            split at h
            · cases h
            · cases h
              rfl
      · cases h
  · split at h
    · cases h
    · cases h

theorem statementAnswer_header (c : Connector) (conn : Conn) (mode : ExecuteMode) (inTransaction : Bool)
    (io : StatementIo) : StatementAnswer io.Gives io.Acks (readSimpleHeader c conn mode inTransaction io.header).1 ∧
      StatementAnswer io.Gives io.Acks (readBinaryHeader c conn mode inTransaction io.header).1 := by
  cases hheader : io.header with
  | ok answer =>
    cases answer with
    | error e => exact ⟨trivial, trivial⟩
    | ok response => exact ⟨.inr (.inr hheader), .inr (.inr hheader)⟩
  | err code message => exact ⟨.inl rfl, .inl rfl⟩
  | columns columns rows => exact ⟨⟨rows, hheader⟩, ⟨rows, hheader⟩⟩
  | _ => exact ⟨trivial, trivial⟩

theorem statementAnswer_simple (c : Connector) (endpoint : EndpointConfig) (sql : String)
    (session : SessionState) (mode : ExecuteMode) (inTransaction : Bool) (io : StatementIo) :
    StatementAnswer io.Gives io.Acks
      (executeSimpleQueryStreaming c endpoint sql session mode inTransaction io).1 := by
  unfold executeSimpleQueryStreaming
  split
  · exact trivial
  · next response c' h => exact statementAnswer_acked (.inl (connForStatement_answered h))
  · split
    · exact trivial
    · split
      · exact trivial
      · exact (statementAnswer_header _ _ mode inTransaction io).1

theorem statementAnswer_param (c : Connector) (endpoint : EndpointConfig) (sql : String)
    (parameters : List GatewayValue) (session : SessionState) (mode : ExecuteMode)
    (inTransaction : Bool) (io : StatementIo) : StatementAnswer io.Gives io.Acks
      (executeParamQueryStreaming c endpoint sql parameters session mode inTransaction io).1 := by
  unfold executeParamQueryStreaming
  split
  · exact trivial
  · split
    · exact statementAnswer_simple c endpoint sql session mode inTransaction io
    · split
      · exact trivial
      · next response c' h => exact statementAnswer_acked (.inl (connForStatement_answered h))
      · split
        · exact trivial
        · split
          · exact trivial
          · exact (statementAnswer_header _ _ mode inTransaction io).2

/-- **A statement that MySQL streams.** -/
theorem statementAnswer_mySql (c : Connector) {command : GatewayCommand} (session : SessionState)
    (window : Nat) (cap : Option Nat) (io : CallIo) (hrow : isRowCommand command = true) :
    StatementAnswer io.statement.Gives io.statement.Acks
      (executeOutcome c command session (.streaming window cap) io).1 := by
  unfold executeOutcome
  cases command with
  | query sql =>
    dsimp only
    rw [if_neg (show ¬(rowMode (.query sql) (.streaming window cap)).isPassthrough = true from
      Bool.false_ne_true)]
    split
    · exact trivial
    · exact statementAnswer_simple c _ sql session _ _ io.statement
  | queryParams sql parameters =>
    dsimp only
    split
    · exact trivial
    · exact statementAnswer_param c _ sql parameters session _ _ io.statement
  | execute id parameters =>
    dsimp only
    split
    · exact trivial
    · split
      · exact trivial
      · split
        · exact trivial
        · exact statementAnswer_param c _ _ parameters session _ _ io.statement
  | _ => cases hrow

end MySql

end DataNexus.Backend
