/-
  What a call of the PostgreSQL connector may change in the session, and what it hands to connections.

  The connector looks at the whole session but writes to four fields of it only, and a row command to two:
  the frame buffer and the hold.  To connections it hands the text it was given, BEGIN before it, and, on
  the frame path, frames that were in the buffer.  `Wrote P c c'` says that everything handed over on the
  way from `c` to `c'` satisfies `P`; there is one lemma per function, and the path to a statement is
  never unfolded again.
-/
import DataNexus.Backend.Occupied

namespace DataNexus.Backend

open DataNexus.Stream

/-! ## The session -/

/-- Everything but the database, the transaction state, the frame buffer and the hold is as it was. -/
def Touches (session session' : SessionState) : Prop :=
  ∃ database state frames hold, session' =
    { session with
      database := database
      transactionState := state
      pgClientExtendedFrames := frames
      pgExtTcpHold := hold }

/-- Only the frame buffer and the hold may have moved. -/
def TouchesFrames (session session' : SessionState) : Prop :=
  ∃ frames hold, session' = { session with pgClientExtendedFrames := frames, pgExtTcpHold := hold }

theorem TouchesFrames.refl (session : SessionState) : TouchesFrames session session :=
  ⟨session.pgClientExtendedFrames, session.pgExtTcpHold, rfl⟩

theorem TouchesFrames.touches {s s' : SessionState} (h : TouchesFrames s s') : Touches s s' := by
  obtain ⟨frames, hold, rfl⟩ := h
  exact ⟨s.database, s.transactionState, frames, hold, rfl⟩

theorem Touches.refl (session : SessionState) : Touches session session := (TouchesFrames.refl session).touches

variable {c : Connector} {P : Sent → Prop}

theorem executeWithMode_row_session {command : GatewayCommand} (hrow : isRowCommand command = true)
    (session : SessionState) (mode : ExecuteMode) (io : CallIo) :
    (executeWithMode c command session mode io).2.1 = session := by
  cases command with
  | query sql =>
    unfold executeWithMode
    cases selectEndpoint c session with
    | error e => rfl
    | ok endpoint =>
      dsimp only
      split <;> rfl
  | queryParams sql parameters =>
    unfold executeWithMode
    cases selectEndpoint c session <;> rfl
  | execute id parameters =>
    unfold executeWithMode
    dsimp only
    cases c.preparedSql id with
    | none => rfl
    | some sql =>
      dsimp only
      cases arityError sql parameters with
      | some e => rfl
      | none =>
        dsimp only
        cases selectEndpoint c session <;> rfl
  | _ => cases hrow

theorem executeWithMode_other_session {command : GatewayCommand} (hrow : isRowCommand command = false)
    (c : Connector) (session : SessionState) (mode : ExecuteMode) (io : CallIo) :
    ∃ database state, (executeWithMode c command session mode io).2.1 =
      { session with database := database, transactionState := state } := by
  cases command with
  | query sql => cases hrow
  | queryParams sql parameters => cases hrow
  | execute id parameters => cases hrow
  | commit =>
    unfold executeWithMode
    rcases finishTransaction c "COMMIT" io.finish with ⟨e | response, c₁⟩
    · exact ⟨_, _, rfl⟩
    · exact ⟨_, _, rfl⟩
  | rollback =>
    unfold executeWithMode
    rcases finishTransaction c "ROLLBACK" io.finish with ⟨e | response, c₁⟩
    · exact ⟨_, _, rfl⟩
    · exact ⟨_, _, rfl⟩
  | useDatabase database => exact ⟨some database, _, rfl⟩
  | begin => exact ⟨_, .active, rfl⟩
  | _ => exact ⟨_, _, rfl⟩

theorem executeWithMode_touches (c : Connector) (command : GatewayCommand) (session : SessionState)
    (mode : ExecuteMode) (io : CallIo) : Touches session (executeWithMode c command session mode io).2.1 := by
  cases hrow : isRowCommand command with
  | true =>
    rw [executeWithMode_row_session hrow]
    exact Touches.refl session
  | false =>
    obtain ⟨database, state, h⟩ := executeWithMode_other_session hrow c session mode io
    exact ⟨database, state, session.pgClientExtendedFrames, session.pgExtTcpHold, h⟩

theorem executeStreaming_session {command : GatewayCommand} (hrow : isRowCommand command = true)
    (session : SessionState) (mode : ExecuteMode) (inTxn : Bool) (io : CallIo) :
    (executeStreaming c command session mode inTxn io).2.1 = session := by
  rcases executeStreaming_cases (c := c) hrow session mode inTxn io with
    ⟨e, h⟩ | ⟨endpoint, sql, _, _, h⟩ | ⟨endpoint, sql, parameters, _, _, h⟩
  · rw [h]
  · rw [h]
    rfl
  · rw [h]
    rfl

theorem executeUnrelayed_session {command : GatewayCommand} (hrow : isRowCommand command = true)
    (session : SessionState) (inTxn : Bool) (io : CallIo) :
    (executeUnrelayed c command session inTxn io).2.1 = session := by
  have hdemote : (textBindOrDemote c command session inTxn io).2.1 = session := by
    unfold textBindOrDemote
    split
    · exact executeStreaming_session hrow session _ inTxn io
    · cases selectEndpoint c session with
      | error e => rfl
      | ok endpoint =>
        dsimp only
        split
        · rfl
        · exact executeStreaming_session hrow session _ inTxn io
  cases command with
  | query sql =>
    unfold executeUnrelayed
    rw [completed_session]
    exact executeWithMode_row_session hrow session _ io
  | queryParams sql parameters => exact hdemote
  | execute id parameters => exact hdemote
  | _ => cases hrow

theorem executeClientExtendedFramesTcpRelay_touches (c : Connector) (endpoint : EndpointConfig)
    (session : SessionState) (inTxn : Bool) (io : RelayIo) : TouchesFrames session
      (executeClientExtendedFramesTcpRelay c endpoint session inTxn io).2.1 := by
  unfold executeClientExtendedFramesTcpRelay
  split
  · exact TouchesFrames.refl session
  split
  · unfold resumeHeldUnit
    cases c.tcpExtHold with
    | none => exact ⟨_, _, rfl⟩
    | some conn =>
      dsimp only
      split <;> exact ⟨_, _, rfl⟩
  · unfold relayUnit
    split
    · exact ⟨_, _, rfl⟩
    split
    · exact ⟨_, _, rfl⟩
    split <;> exact ⟨_, _, rfl⟩

theorem executeOutcome_row_touches {command : GatewayCommand} (hrow : isRowCommand command = true)
    (session : SessionState) (mode : ExecuteMode) (io : CallIo) :
    TouchesFrames session (executeOutcome c command session mode io).2.1 := by
  cases hmode : mode.isPassthrough with
  | false =>
    rw [executeOutcome_driver hrow hmode session io, executeStreaming_session hrow]
    exact TouchesFrames.refl session
  | true =>
    obtain rfl : mode = .passthrough := by cases mode <;> first | rfl | cases hmode
    rcases executeOutcome_relay_cases c hrow session io with
      ⟨e, h⟩ | ⟨_, sql, endpoint, _, h⟩ | ⟨_, _, h⟩ | ⟨_, endpoint, outcome, s', c', hrun, h⟩ |
      ⟨_, endpoint, e, s', c', hrun, h⟩
    · rw [h]
      exact TouchesFrames.refl session
    · rw [h]
      exact TouchesFrames.refl session
    · rw [h, executeUnrelayed_session hrow]
      exact TouchesFrames.refl session
    · have ht := executeClientExtendedFramesTcpRelay_touches c endpoint session (c.inTxn session)
        io.frames
      rw [hrun] at ht
      rw [h]
      exact ht
    · have ht := executeClientExtendedFramesTcpRelay_touches c endpoint session (c.inTxn session)
        io.frames
      rw [hrun] at ht
      rw [h, executeUnrelayed_session hrow]
      exact ht

/-- **What a call may change in the session.** -/
theorem executeOutcome_touches (c : Connector) (command : GatewayCommand) (session : SessionState)
    (mode : ExecuteMode) (io : CallIo) : Touches session (executeOutcome c command session mode io).2.1 := by
  cases hrow : isRowCommand command with
  | true => exact (executeOutcome_row_touches hrow session mode io).touches
  | false =>
    by_cases hsync : command = .pgBackendSync
    · rw [hsync]
      unfold executeOutcome executePgBackendSync
      cases c.tcpExtHold with
      | none => exact Touches.refl session
      | some conn => exact ⟨_, _, _, _, rfl⟩
    · rw [executeOutcome_other hrow hsync, completed_session]
      exact executeWithMode_touches c command session mode io

/-! ## What is handed to connections -/

/-- The statement text in what is handed over; a client frame carries its own. -/
def Sent.text : Sent → Option String
  | .simpleQuery sql => some sql
  | .prepare sql => some sql
  | .bound sql _ => some sql
  | .textBind sql _ => some sql
  | _ => none

def Runs (sql : String) (w : Sent) : Prop := w.text = some "BEGIN" ∨ w.text = some sql

def OfUnit (frames : List ClientFrame) (w : Sent) : Prop :=
  (∃ f ∈ frames, w = .frame f) ∨ (∃ portal, w = .describePortal portal) ∨ w = .flush

/-- Everything handed over between the two satisfies `P`. -/
def Wrote (P : Sent → Prop) (c c' : Connector) : Prop := ∃ ws, c'.log = c.log ++ ws ∧ ∀ w ∈ ws, P w.2

section Rules

variable {P Q : Sent → Prop} {c c₁ c₂ : Connector}

theorem Wrote.of_eq (h : c₁.log = c.log) : Wrote P c c₁ :=
  ⟨[], by rw [h, List.append_nil], fun w hw => absurd hw List.not_mem_nil⟩

theorem Wrote.refl (c : Connector) : Wrote P c c := Wrote.of_eq rfl

theorem Wrote.trans (h : Wrote P c c₁) (h' : Wrote P c₁ c₂) : Wrote P c c₂ := by
  obtain ⟨ws, hlog, hws⟩ := h
  obtain ⟨ws', hlog', hws'⟩ := h'
  refine ⟨ws ++ ws', by rw [hlog', hlog, List.append_assoc], fun w hw => ?_⟩
  rcases List.mem_append.mp hw with hw | hw
  · exact hws w hw
  · exact hws' w hw

theorem Wrote.then_eq (h : Wrote P c c₁) (hlog : c₂.log = c₁.log) : Wrote P c c₂ := h.trans (Wrote.of_eq hlog)

theorem Wrote.mono (h : Wrote P c c₁) (hPQ : ∀ w, P w → Q w) : Wrote Q c c₁ := by
  obtain ⟨ws, hlog, hws⟩ := h
  exact ⟨ws, hlog, fun w hw => hPQ w.2 (hws w hw)⟩

theorem wrote_send {w : Sent} (hw : P w) (conn : Conn) (b : Bool) : Wrote P c (c.send conn w b) := by
  refine ⟨[(conn, w)], rfl, fun x hx => ?_⟩
  rw [List.mem_singleton.mp hx]
  exact hw

theorem wrote_sendAll {sent : List Sent} (hsent : ∀ w ∈ sent, P w) (conn : Conn) :
    Wrote P c (c.sendAll conn sent) := by
  refine ⟨sent.map fun s => (conn, s), rfl, fun x hx => ?_⟩
  obtain ⟨w, hw, rfl⟩ := List.mem_map.mp hx
  exact hsent w hw

theorem Wrote.mem (h : Wrote P c c₁) {w : Conn × Sent} (hw : w ∈ writesOf c c₁) : P w.2 := by
  obtain ⟨ws, hlog, hws⟩ := h
  unfold writesOf at hw
  rw [hlog, List.drop_left] at hw
  exact hws w hw

end Rules

/-! ### Pooled statements -/

section Pooled

variable (c : Connector) (endpoint : EndpointConfig) (session : SessionState) (sql : String)

theorem takeOrAcquireLease_log (io : AcquireIo) : (c.takeOrAcquireLease endpoint session io).2.log = c.log := by
  unfold Connector.takeOrAcquireLease
  cases c.txnLease with
  | none => exact acquireConn_log c endpoint session io
  | some conn => rfl

theorem wrote_executeOnConn (conn : Conn) (clientOpen : Bool)
    (answer : Except GatewayError GatewayResponse) (after : Bool) {P : Sent → Prop} (hsql : P (.simpleQuery sql)) :
    Wrote P c (executeOnConn c conn sql clientOpen answer after).2 := by
  unfold executeOnConn
  split
  · exact wrote_send hsql conn after
  · exact Wrote.refl c

theorem wrote_leaseForStatement (io : PoolIo) : Wrote (Runs sql) c (leaseForStatement c endpoint session io).2 := by
  have hget := takeOrAcquireLease_log c endpoint session io.acquire
  unfold leaseForStatement
  generalize c.takeOrAcquireLease endpoint session io.acquire = out at hget ⊢
  rcases out with ⟨e | conn, c₁⟩
  · exact Wrote.of_eq hget
  · dsimp only at hget ⊢
    split
    · have hbegin : Wrote (Runs sql) c₁ (executeOnConn c₁ conn "BEGIN" io.clientOpen io.begin
          (succeeded io.begin || c₁.inBlock conn)).2 :=
        wrote_executeOnConn c₁ "BEGIN" conn _ _ _ (.inl rfl)
      have hall := (Wrote.of_eq hget).trans hbegin
      revert hall
      rcases executeOnConn c₁ conn "BEGIN" io.clientOpen io.begin
        (succeeded io.begin || c₁.inBlock conn) with ⟨e | response, c₂⟩
      · exact fun hall => hall.then_eq (putConn_log c₂ conn)
      · intro hall
        dsimp only
        split
        · exact hall
        · exact hall.then_eq (setLease_log c₂ _)
    · exact Wrote.of_eq hget

theorem wrote_connForStatement (b : Bool) (io : PoolIo) :
    Wrote (Runs sql) c (connForStatement c b endpoint session io).2 := by
  unfold connForStatement
  split
  · exact wrote_leaseForStatement c endpoint session sql io
  · have hget := acquireConn_log c endpoint session io.acquire
    generalize c.acquireConn endpoint session io.acquire = out at hget ⊢
    rcases out with ⟨e | conn, c₁⟩
    · exact Wrote.of_eq hget
    · exact Wrote.of_eq hget

theorem streamRaw_log (conn : Conn) (mode : ExecuteMode) (b : Bool) (io : PoolIo) :
    (streamRaw c conn mode b io).2.log = c.log := by
  unfold streamRaw
  split
  · exact putConn_log c conn
  · split
    · exact giveBack_log c b conn
    · exact giveBack_log c b conn
    · rfl

theorem runExecute_log (conn : Conn) (b : Bool) (io : PoolIo) : (runExecute c conn b io).2.log = c.log := by
  unfold runExecute
  split <;> exact giveBack_log c b conn

theorem streamPrepared_log (conn : Conn) (mode : ExecuteMode) (b : Bool) (columns : List Column)
    (io : PoolIo) : (streamPrepared c conn mode b columns io).2.log = c.log := by
  unfold streamPrepared
  split
  · exact runExecute_log c conn b io
  · split
    · exact giveBack_log c b conn
    · exact runExecute_log c conn b io
    · split
      · exact giveBack_log c b conn
      · exact giveBack_log c b conn
      · rfl

theorem wrote_executeSimpleQueryStreaming (mode : ExecuteMode) (b : Bool) (io : PoolIo) :
    Wrote (Runs sql) c (executeSimpleQueryStreaming c endpoint sql session mode b io).2 := by
  have hget := wrote_connForStatement c endpoint session sql b io
  unfold executeSimpleQueryStreaming
  generalize connForStatement c b endpoint session io = out at hget ⊢
  rcases out with ⟨e | response | conn, c₁⟩
  · exact hget
  · exact hget
  · dsimp only
    split
    · exact hget.then_eq (putConn_log c₁ conn)
    · exact (hget.trans (wrote_send (.inr rfl) conn _)).then_eq (streamRaw_log _ conn mode b io)

theorem wrote_executeParamQueryStreaming (parameters : List GatewayValue) (mode : ExecuteMode)
    (b : Bool) (io : PoolIo) : Wrote (Runs sql) c
      (executeParamQueryStreaming c endpoint sql parameters session mode b io).2 := by
  unfold executeParamQueryStreaming
  split
  · exact Wrote.refl c
  split
  · exact wrote_executeSimpleQueryStreaming c endpoint session sql mode b io
  · have hget := wrote_connForStatement c endpoint session sql b io
    generalize connForStatement c b endpoint session io = out at hget ⊢
    rcases out with ⟨e | response | conn, c₁⟩
    · exact hget
    · exact hget
    · dsimp only
      split
      · exact hget.then_eq (giveBack_log c₁ b conn)
      · split
        · exact hget.then_eq (giveBack_log c₁ b conn)
        · exact (hget.trans (wrote_send (.inr rfl) conn _)).then_eq
            (streamPrepared_log _ conn mode b _ io)

end Pooled

/-! ### Relayed statements -/

section Relayed

variable (c : Connector) (endpoint : EndpointConfig) (session : SessionState) (sql : String)
  (io : RelayIo)

theorem openSession_log (key : String) : (c.openSession key io).2.log = c.log := by
  unfold Connector.openSession
  split <;> rfl

theorem takeOrConnect_log (database : String) : (c.takeOrConnect endpoint database io).2.log = c.log := by
  unfold Connector.takeOrConnect
  split
  · rfl
  · exact openSession_log _ io _

theorem takeOrOpenTcpTxn_log : (c.takeOrOpenTcpTxn endpoint session io).2.log = c.log := by
  unfold Connector.takeOrOpenTcpTxn
  split
  · rfl
  · split
    · rfl
    · rename_i database _
      have h := openSession_log c io (tcpPoolKey endpoint database)
      revert h
      rcases c.openSession (tcpPoolKey endpoint database) io with ⟨e | conn, c₁⟩
      · exact id
      · exact id

theorem wrote_tcpTxnSession : Wrote (Runs sql) c (tcpTxnSession c endpoint session io).2 := by
  have hget := takeOrOpenTcpTxn_log c endpoint session io
  unfold tcpTxnSession
  generalize c.takeOrOpenTcpTxn endpoint session io = out at hget ⊢
  rcases out with ⟨e | ⟨conn, isNew⟩, c₁⟩
  · exact Wrote.of_eq hget
  · have hbegin : ∀ b, Wrote (Runs sql) c (c₁.send conn (.simpleQuery "BEGIN") b) := fun b =>
      (Wrote.of_eq hget).trans (wrote_send (.inl rfl) conn b)
    dsimp only
    split
    · split
      · exact hbegin false
      · split
        · exact hbegin false
        · exact hbegin true
    · exact Wrote.of_eq hget

variable {P : Sent → Prop} {w : Sent}

theorem wrote_relayInto (conn : Conn) (sent : List Sent) (returnTo : SessionReturn) (hsent : ∀ w ∈ sent, P w) :
    Wrote P c (relayInto c conn sent returnTo io).2 := by
  unfold relayInto
  split <;> exact wrote_sendAll hsent conn

theorem wrote_relayInto_one (conn : Conn) (returnTo : SessionReturn) (hw : P w) :
    Wrote P c (relayInto c conn [w] returnTo io).2 := by
  refine wrote_relayInto c io conn [w] returnTo fun x hx => ?_
  rw [List.mem_singleton.mp hx]
  exact hw

theorem wrote_collectInto (conn : Conn) (returnTo : SessionReturn) :
    Wrote (Runs sql) c (collectInto c conn sql returnTo io).2 := by
  have hrun : Wrote (Runs sql) c (relayInto c conn [.simpleQuery sql] returnTo io).2 :=
    wrote_relayInto_one c io conn returnTo (.inr rfl)
  unfold collectInto
  revert hrun
  rcases relayInto c conn [.simpleQuery sql] returnTo io with ⟨e | outcome, c₁⟩
  · exact id
  · intro hrun
    dsimp only
    split
    · split
      · exact hrun.then_eq (finishSession_log _ _)
      · exact hrun
    · exact hrun.then_eq (finishSession_log _ _)

theorem wrote_executeSimpleQueryWire : Wrote (Runs sql) c (executeSimpleQueryWire c endpoint sql session io).2 := by
  unfold executeSimpleQueryWire
  split
  · have hget := wrote_tcpTxnSession c endpoint session sql io
    generalize tcpTxnSession c endpoint session io = out at hget ⊢
    rcases out with ⟨e | packets | conn, c₁⟩
    · exact hget
    · exact hget
    · exact hget.trans (wrote_collectInto c₁ sql io conn .txn)
  · split
    · exact Wrote.refl c
    · rename_i database _
      have hget := takeOrConnect_log c endpoint io database
      revert hget
      rcases c.takeOrConnect endpoint database io with ⟨e | conn, c₁⟩
      · exact fun hget => Wrote.of_eq hget
      · exact fun hget => (Wrote.of_eq hget).trans (wrote_collectInto c₁ sql io conn .idleOrTxn)

theorem wrote_executeSimpleQueryTcpRelay (b : Bool) :
    Wrote (Runs sql) c (executeSimpleQueryTcpRelay c endpoint sql session b io).2 := by
  unfold executeSimpleQueryTcpRelay
  split
  · have hget := wrote_tcpTxnSession c endpoint session sql io
    generalize tcpTxnSession c endpoint session io = out at hget ⊢
    rcases out with ⟨e | packets | conn, c₁⟩
    · exact hget
    · exact hget
    · exact hget.trans (wrote_relayInto_one c₁ io conn .txn (.inr rfl))
  · split
    · exact Wrote.refl c
    · rename_i database _
      have hget := takeOrConnect_log c endpoint io database
      revert hget
      rcases c.takeOrConnect endpoint database io with ⟨e | conn, c₁⟩
      · exact fun hget => Wrote.of_eq hget
      · exact fun hget =>
          (Wrote.of_eq hget).trans (wrote_relayInto_one c₁ io conn .idleOrTxn (.inr rfl))

theorem wrote_executeExtendedTextBindTcpRelay (parameters : List GatewayValue) (b : Bool) : Wrote (Runs sql) c
      (executeExtendedTextBindTcpRelay c endpoint sql parameters session b io).2 := by
  unfold executeExtendedTextBindTcpRelay
  split
  · exact Wrote.refl c
  rename_i database _
  split
  · have hget := wrote_tcpTxnSession c endpoint session sql io
    generalize tcpTxnSession c endpoint session io = out at hget ⊢
    rcases out with ⟨e | packets | conn, c₁⟩
    · exact hget
    · exact hget
    · exact hget.trans (wrote_relayInto_one c₁ io conn .txn (.inr rfl))
  · have hget := takeOrConnect_log c endpoint io database
    revert hget
    rcases c.takeOrConnect endpoint database io with ⟨e | conn, c₁⟩
    · exact fun hget => Wrote.of_eq hget
    · exact fun hget => (Wrote.of_eq hget).trans (wrote_relayInto_one c₁ io conn .idle (.inr rfl))

/-! ### Frames -/

theorem withDescribe_mem {frames : List ClientFrame} {sawDescribe : Bool} {bound : Option String}
    (hw : w ∈ withDescribe frames sawDescribe bound) : OfUnit frames w := by
  have hmore : ∀ {f : ClientFrame} {rest : List ClientFrame} {w : Sent}, OfUnit rest w →
      OfUnit (f :: rest) w := by
    rintro f rest w (⟨g, hg, rfl⟩ | h)
    · exact .inl ⟨g, List.mem_cons_of_mem f hg, rfl⟩
    · exact .inr h
  induction frames generalizing sawDescribe bound with
  | nil =>
    unfold withDescribe at hw
    cases bound with
    | none => cases hw
    | some portal =>
      dsimp only at hw
      split at hw
      · cases hw
      · exact .inr (.inl ⟨portal, List.mem_singleton.mp hw⟩)
  | cons f rest ih =>
    unfold withDescribe at hw
    cases hbound : f.boundPortal.or bound with
    | none =>
      rw [hbound] at hw
      rcases List.mem_cons.mp hw with rfl | hw
      · exact .inl ⟨f, List.mem_cons_self, rfl⟩
      · exact hmore (ih hw)
    | some portal =>
      rw [hbound] at hw
      dsimp only at hw
      split at hw
      · rcases List.mem_cons.mp hw with rfl | hw
        · exact .inr (.inl ⟨portal, rfl⟩)
        · rcases List.mem_cons.mp hw with rfl | hw
          · exact .inl ⟨f, List.mem_cons_self, rfl⟩
          · exact hmore (ih hw)
      · rcases List.mem_cons.mp hw with rfl | hw
        · exact .inl ⟨f, List.mem_cons_self, rfl⟩
        · exact hmore (ih hw)

theorem clientFramesHold_mem {frames : List ClientFrame} (hw : w ∈ clientFramesHold frames) : OfUnit frames w := by
  unfold clientFramesHold at hw
  rcases List.mem_append.mp hw with hw | hw
  · exact withDescribe_mem hw
  · exact .inr (.inr (List.mem_singleton.mp hw))

theorem clientExecuteHold_mem {frames : List ClientFrame} (hw : w ∈ clientExecuteHold frames) : OfUnit frames w := by
  unfold clientExecuteHold at hw
  rcases List.mem_append.mp hw with hw | hw
  · obtain ⟨f, hf, rfl⟩ := List.mem_map.mp hw
    exact .inl ⟨f, hf, rfl⟩
  · exact .inr (.inr (List.mem_singleton.mp hw))

theorem wrote_openFrameSession (database : String) (b : Bool) :
    Wrote (Runs sql) c (openFrameSession c endpoint database session b io).2 := by
  unfold openFrameSession
  split
  · have hget := wrote_tcpTxnSession c endpoint session sql io
    generalize tcpTxnSession c endpoint session io = out at hget ⊢
    rcases out with ⟨e | packets | conn, c₁⟩
    · exact hget
    · exact hget
    · exact hget
  · exact Wrote.of_eq (takeOrConnect_log c endpoint io database)

theorem wrote_executeClientExtendedFramesTcpRelay (b : Bool) :
    Wrote (fun w => Runs sql w ∨ OfUnit session.pgClientExtendedFrames w) c
      (executeClientExtendedFramesTcpRelay c endpoint session b io).2.2 := by
  unfold executeClientExtendedFramesTcpRelay
  split
  · exact Wrote.refl c
  split
  · unfold resumeHeldUnit
    cases c.tcpExtHold with
    | none => exact Wrote.refl c
    | some conn =>
      have hrun := wrote_relayInto { c with tcpExtHold := none } io conn
        (clientExecuteHold session.pgClientExtendedFrames) .hold fun w hw =>
          Or.inr (a := Runs sql w) (clientExecuteHold_mem hw)
      revert hrun
      dsimp only
      rcases relayInto { c with tcpExtHold := none } conn
        (clientExecuteHold session.pgClientExtendedFrames) .hold io with ⟨e | outcome, c₁⟩
      · exact id
      · exact id
  · unfold relayUnit
    split
    · exact Wrote.refl c
    rename_i database _
    have hget := wrote_openFrameSession c endpoint
      { session with pgClientExtendedFrames := [] } sql io database b
    revert hget
    rcases openFrameSession c endpoint database { session with pgClientExtendedFrames := [] } b io with
      ⟨e | conn, c₁⟩
    · exact fun hget => hget.mono fun w hw => .inl hw
    · intro hget
      have hrun := wrote_relayInto c₁ io conn (clientFramesHold session.pgClientExtendedFrames) .hold
        fun w hw => Or.inr (a := Runs sql w) (clientFramesHold_mem hw)
      have hall := (hget.mono fun w hw => Or.inl hw).trans hrun
      revert hall
      dsimp only
      rcases relayInto c₁ conn (clientFramesHold session.pgClientExtendedFrames) .hold io with
        ⟨e | outcome, c₂⟩
      · exact id
      · exact id

end Relayed

/-! ### Commands -/

theorem wrote_finishTransaction (c : Connector) (sql : String) (io : FinishIo) (hP : P (.simpleQuery sql)) :
    Wrote P c (finishTransaction c sql io).2 := by
  have hsent : ∀ conn, Wrote P c ({ c with tcpTxn := none }.send conn (.simpleQuery sql) false) := by
    intro conn
    refine ⟨[(conn, .simpleQuery sql)], rfl, fun w hw => ?_⟩
    rw [List.mem_singleton.mp hw]
    exact hP
  have hrun : ∀ conn, Wrote P c (executeOnConn { c with txnLease := none } conn sql io.clientOpen
      io.statement false).2 := by
    intro conn
    have hstart : Wrote P c { c with txnLease := none } := Wrote.of_eq rfl
    exact hstart.trans (wrote_executeOnConn _ sql conn io.clientOpen io.statement false hP)
  unfold finishTransaction
  split
  · rename_i conn _
    split
    · exact hsent conn
    · exact (hsent conn).then_eq (setLease_log _ none)
  · split
    · exact Wrote.refl c
    · rename_i conn _
      exact (hrun conn).then_eq (putConn_log _ conn)

theorem wrote_control (c : Connector) (session : SessionState) (sql : String) (io : CallIo)
    (hP : P (.simpleQuery sql)) : Wrote P c (match finishTransaction c sql io.finish with
      | (.error e, c) => ((.error e, session, c) : Except GatewayError GatewayResponse × _ × Connector)
      | (.ok response, c) => (.ok response, { session with transactionState := .idle }, c)).2.2 := by
  have h := wrote_finishTransaction c sql io.finish hP
  generalize finishTransaction c sql io.finish = out at h ⊢
  obtain ⟨e | response, c₁⟩ := out
  · exact h
  · exact h

theorem wrote_describeSql (c : Connector) (session : SessionState) (sql : String) (io : PoolIo) :
    Wrote (fun w => w = .prepare sql) c (describeSql c sql session io).2 := by
  unfold describeSql
  cases selectEndpoint c session with
  | error e => exact Wrote.refl c
  | ok endpoint =>
    dsimp only
    have hget : (if c.leasing session then c.takeOrAcquireLease endpoint session io.acquire
        else c.acquireConn endpoint session io.acquire).2.log = c.log := by
      split
      · exact takeOrAcquireLease_log c endpoint session io.acquire
      · exact acquireConn_log c endpoint session io.acquire
    generalize (if c.leasing session then c.takeOrAcquireLease endpoint session io.acquire
      else c.acquireConn endpoint session io.acquire) = out at hget ⊢
    rcases out with ⟨e | conn, c₁⟩
    · exact Wrote.of_eq hget
    · refine ((Wrote.of_eq hget).trans (wrote_sendAll ?_ conn)).then_eq (giveBack_log _ _ conn)
      intro w hw
      exact List.mem_singleton.mp hw

section Commands

variable {command : GatewayCommand} {P : Sent → Prop}

/-- `P` holds of BEGIN and of every text that the command can run. -/
structure Covers (P : Sent → Prop) (command : GatewayCommand) : Prop where
  row : isRowCommand command = true
  begin : ∀ w : Sent, w.text = some "BEGIN" → P w
  text : ∀ c sql, runText c command = some sql → ∀ w : Sent, w.text = some sql → P w

theorem Covers.runs (h : Covers P command) {c : Connector} {sql : String}
    (hsql : runText c command = some sql) (w : Sent) (hw : Runs sql w) : P w := by
  rcases hw with hw | hw
  · exact h.begin w hw
  · exact h.text c sql hsql w hw

variable (h : Covers P command) (c : Connector) (session : SessionState)

include h

theorem wrote_executeStreaming (mode : ExecuteMode) (b : Bool) (io : CallIo) :
    Wrote P c (executeStreaming c command session mode b io).2.2 := by
  rcases executeStreaming_cases (c := c) h.row session mode b io with
    ⟨e, hrun⟩ | ⟨endpoint, text, htext, _, hrun⟩ | ⟨endpoint, text, parameters, htext, _, hrun⟩
  · rw [hrun]
    exact Wrote.refl c
  · rw [hrun]
    exact (wrote_executeSimpleQueryStreaming c endpoint session text mode b io.pool).mono
      (h.runs htext)
  · rw [hrun]
    exact (wrote_executeParamQueryStreaming c endpoint session text parameters mode b io.pool).mono
      (h.runs htext)

theorem wrote_textBindOrDemote (b : Bool) (io : CallIo) :
    Wrote P c (textBindOrDemote c command session b io).2.2 := by
  unfold textBindOrDemote
  cases htry : tryRelay c command with
  | none => exact wrote_executeStreaming h c session demoted b io
  | some relay =>
    obtain ⟨text, parameters⟩ := relay
    have htext : runText c command = some text := by
      cases command with
      | queryParams sql ps =>
        injection htry with htry
        injection htry with hsql
        rw [← hsql]
        rfl
      | execute id ps =>
        obtain ⟨sql, hsql, heq⟩ := Option.map_eq_some_iff.mp htry
        injection heq with hsame
        rw [← hsame]
        exact hsql
      | _ => cases htry
    cases selectEndpoint c session with
    | error e => exact Wrote.refl c
    | ok endpoint =>
      have hrun := (wrote_executeExtendedTextBindTcpRelay c endpoint session text io.textBind parameters
        b).mono (h.runs htext)
      dsimp only
      generalize executeExtendedTextBindTcpRelay c endpoint text parameters session b io.textBind = out
        at hrun ⊢
      rcases out with ⟨e | outcome, c₁⟩
      · exact hrun.trans (wrote_executeStreaming h c₁ session demoted b io)
      · exact hrun

theorem wrote_executeUnrelayed (b : Bool) (io : CallIo) :
    Wrote P c (executeUnrelayed c command session b io).2.2 := by
  cases command with
  | query text =>
    unfold executeUnrelayed executeWithMode
    cases selectEndpoint c session with
    | error e => exact Wrote.refl c
    | ok endpoint =>
      have hrun := (wrote_executeSimpleQueryWire c endpoint session text io.relay).mono
        (h.runs (c := c) rfl)
      dsimp only
      rw [if_pos (show ExecuteMode.passthrough.isPassthrough = true from rfl)]
      generalize executeSimpleQueryWire c endpoint text session io.relay = out at hrun ⊢
      rcases out with ⟨e | response, c₁⟩
      · exact hrun
      · exact hrun
  | queryParams text parameters => exact wrote_textBindOrDemote h c session b io
  | execute id parameters => exact wrote_textBindOrDemote h c session b io
  | _ => cases h.row

theorem wrote_relayedFrames (endpoint : EndpointConfig) (b : Bool) (io : RelayIo) :
    Wrote (fun w => P w ∨ OfUnit session.pgClientExtendedFrames w) c
      (executeClientExtendedFramesTcpRelay c endpoint session b io).2.2 := by
  refine (wrote_executeClientExtendedFramesTcpRelay c endpoint session "BEGIN" io b).mono ?_
  intro w hw
  rcases hw with (hw | hw) | hw
  · exact .inl (h.begin w hw)
  · exact .inl (h.begin w hw)
  · exact .inr hw

/-- **What a statement hands to connections**: BEGIN, its text, and, if it is passed through, pieces of
    the buffered unit. -/
theorem wrote_executeOutcome (mode : ExecuteMode) (io : CallIo) :
    Wrote (fun w => P w ∨ (mode = .passthrough ∧ session.pgClientExtendedFrames ≠ [] ∧
        OfUnit session.pgClientExtendedFrames w)) c (executeOutcome c command session mode io).2.2 := by
  have hbuffered : session.pgClientExtendedFrames.isEmpty = false →
      session.pgClientExtendedFrames ≠ [] := by
    intro hfalse hnil
    rw [hnil] at hfalse
    cases hfalse
  cases hmode : mode.isPassthrough with
  | false =>
    rw [executeOutcome_driver h.row hmode session io]
    exact (wrote_executeStreaming h c session _ _ io).mono fun w hw => .inl hw
  | true =>
    obtain rfl : mode = .passthrough := by cases mode <;> first | rfl | cases hmode
    rcases executeOutcome_relay_cases c h.row session io with
      ⟨e, hrun⟩ | ⟨_, text, endpoint, htext, hrun⟩ | ⟨_, _, hrun⟩ |
      ⟨hne, endpoint, outcome, s', c', hframes, hrun⟩ | ⟨hne, endpoint, e, s', c', hframes, hrun⟩
    · rw [hrun]
      exact Wrote.refl c
    · rw [hrun]
      refine (wrote_executeSimpleQueryTcpRelay c endpoint session text io.relay _).mono ?_
      intro w hw
      exact .inl (h.runs (c := c) (by rw [htext]; rfl) w hw)
    · rw [hrun]
      exact (wrote_executeUnrelayed h c session _ io).mono fun w hw => .inl hw
    · have hwrote := wrote_relayedFrames h c session endpoint (c.inTxn session) io.frames
      rw [hframes] at hwrote
      rw [hrun]
      exact hwrote.mono fun w hw => hw.imp id fun hunit => ⟨rfl, hbuffered hne, hunit⟩
    · have hwrote := wrote_relayedFrames h c session endpoint (c.inTxn session) io.frames
      rw [hframes] at hwrote
      rw [hrun]
      refine Wrote.trans
        (hwrote.mono fun w hw => hw.imp id fun hunit => ⟨rfl, hbuffered hne, hunit⟩) ?_
      exact (wrote_executeUnrelayed h c' s' _ io).mono fun w hw => .inl hw

omit h

theorem wrote_executeWithMode_other (hrow : isRowCommand command = false) (mode : ExecuteMode) (io : CallIo) :
    Wrote (fun w => ∃ sql, w.text = some sql) c (executeWithMode c command session mode io).2.2 := by
  cases command with
  | query text => cases hrow
  | queryParams text parameters => cases hrow
  | execute id parameters => cases hrow
  | commit => exact wrote_control c session "COMMIT" io ⟨_, rfl⟩
  | rollback => exact wrote_control c session "ROLLBACK" io ⟨_, rfl⟩
  | describeSql text =>
    refine (wrote_describeSql c session text io.pool).mono fun w hw => ⟨text, ?_⟩
    rw [hw]
    rfl
  | quit => exact Wrote.of_eq (setLease_log c none)
  | _ => exact Wrote.of_eq rfl

theorem wrote_executeOutcome_other (hrow : isRowCommand command = false) (mode : ExecuteMode) (io : CallIo) :
    Wrote (fun w => ∀ f, w ≠ .frame f) c (executeOutcome c command session mode io).2.2 := by
  by_cases hsync : command = .pgBackendSync
  · rw [hsync]
    unfold executeOutcome executePgBackendSync
    cases c.tcpExtHold with
    | none => exact Wrote.refl c
    | some conn =>
      have hrun : Wrote (fun w => ∀ f, w ≠ .frame f) { c with tcpExtHold := none }
          (relayInto { c with tcpExtHold := none } conn [.sync] .txn io.relay).2 :=
        wrote_relayInto_one _ io.relay conn .txn fun f h => by cases h
      exact hrun
  · rw [executeOutcome_other hrow hsync]
    have hnone : ∀ w : Sent, (∃ sql, w.text = some sql) → ∀ f, w ≠ .frame f := by
      rintro w ⟨sql, hsql⟩ f rfl
      cases hsql
    have h := (wrote_executeWithMode_other c session hrow mode io).mono hnone
    generalize executeWithMode c command session mode io = out at h ⊢
    obtain ⟨e | response, s', c'⟩ := out
    · exact h
    · exact h

end Commands

end DataNexus.Backend
