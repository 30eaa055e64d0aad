/-
  Transaction control in the two PostgreSQL protocols.

  Only `decode_query_command` looks for BEGIN, COMMIT and ROLLBACK, by comparing the whole text with four spellings.
  Behind Parse / Bind / Execute the same text is an ordinary statement, and so is every other spelling in either:

                            simple Query                    Parse / Bind / Execute
      BEGIN                 `.begin`, state Active           `.query "BEGIN"`, state as it was
      BEGIN READ ONLY       `.query ..`, state as it was     `.query ..`, state as it was

  The two agree on statements that neither the gateway nor the server takes for transaction control (`idle_step`).
-/
import DataNexus.Backend.Blocks
import DataNexus.Engine.Rewrite

namespace DataNexus.Backend

/-! ## The relays that a call hands out -/

/-- If the outcome is a relay, its response is one of these. -/
def Hands (responses : List RelayEnd) (outcome : Except GatewayError Outcome) : Prop :=
  ∀ relay, outcome = .ok (.wireRelay relay) → relay.response ∈ responses

theorem Hands.mono {responses more : List RelayEnd} {outcome : Except GatewayError Outcome}
    (h : Hands responses outcome) (hsub : responses ⊆ more) : Hands more outcome :=
  fun relay hrelay => hsub (h relay hrelay)

theorem hands_error (e : GatewayError) : Hands [] (.error e) := nofun

theorem hands_complete (response : GatewayResponse) : Hands [] (.ok (.complete response)) := nofun

theorem hands_relayInto (c : Connector) (conn : Conn) (sent : List Sent) (returnTo : SessionReturn)
    (io : RelayIo) : Hands [io.response] (relayInto c conn sent returnTo io).1 := by
  intro relay h
  unfold relayInto at h
  split at h
  · cases h
  · cases h
    exact List.mem_singleton.mpr rfl

theorem hands_tcpTxnSession (c : Connector) (endpoint : EndpointConfig) (session : SessionState)
    (sent : List Sent) (io : RelayIo) : Hands [io.response] (match tcpTxnSession c endpoint session io with
        | (.failed e, c) => ((.error e, c) : Except GatewayError Outcome × Connector)
        | (.refused packets, c) => (.ok (.complete (.wire packets)), c)
        | (.on conn, c) => relayInto c conn sent .txn io).1 := by
  split
  · exact nofun
  · exact nofun
  · exact hands_relayInto _ _ _ _ io

theorem hands_executeSimpleQueryTcpRelay (c : Connector) (endpoint : EndpointConfig) (sql : String)
    (session : SessionState) (inTxn : Bool) (io : RelayIo) :
    Hands [io.response] (executeSimpleQueryTcpRelay c endpoint sql session inTxn io).1 := by
  unfold executeSimpleQueryTcpRelay
  split
  · exact hands_tcpTxnSession c endpoint session [.simpleQuery sql] io
  · split
    · exact nofun
    · split
      · exact nofun
      · exact hands_relayInto _ _ _ _ io

theorem hands_executeExtendedTextBindTcpRelay (c : Connector) (endpoint : EndpointConfig) (sql : String)
    (parameters : List GatewayValue) (session : SessionState) (inTxn : Bool) (io : RelayIo) : Hands [io.response]
      (executeExtendedTextBindTcpRelay c endpoint sql parameters session inTxn io).1 := by
  unfold executeExtendedTextBindTcpRelay
  split
  · exact nofun
  · split
    · exact hands_tcpTxnSession c endpoint session [.textBind sql parameters] io
    · split
      · exact nofun
      · exact hands_relayInto _ _ _ _ io

theorem hands_executeClientExtendedFramesTcpRelay (c : Connector) (endpoint : EndpointConfig)
    (session : SessionState) (inTxn : Bool) (io : RelayIo) :
    Hands [io.response] (executeClientExtendedFramesTcpRelay c endpoint session inTxn io).1 := by
  have hinto : ∀ (c c' : Connector) conn sent outcome,
      relayInto c conn sent .hold io = (.ok outcome, c') → Hands [io.response] (.ok outcome) := by
    intro c c' conn sent outcome h
    have hands := hands_relayInto c conn sent .hold io
    rw [h] at hands
    exact hands
  unfold executeClientExtendedFramesTcpRelay
  split
  · exact nofun
  split
  · unfold resumeHeldUnit
    split
    · exact nofun
    · split
      · exact nofun
      · rename_i h
        exact hinto _ _ _ _ _ h
  · unfold relayUnit
    split
    · exact nofun
    split
    · exact nofun
    split
    · rename_i h
      exact hinto _ _ _ _ _ h
    · exact nofun

theorem hands_completed (r : Except GatewayError GatewayResponse × SessionState × Connector) :
    Hands [] (completed r).1 := by
  obtain ⟨e | response, session, c⟩ := r
  · exact hands_error e
  · exact hands_complete response

theorem hands_executeSimpleQueryStreaming (c : Connector) (endpoint : EndpointConfig) (sql : String)
    (session : SessionState) (mode : ExecuteMode) (inTxn : Bool) (io : PoolIo) :
    Hands [] (executeSimpleQueryStreaming c endpoint sql session mode inTxn io).1 := by
  unfold executeSimpleQueryStreaming
  split
  · exact nofun
  · exact nofun
  · split
    · exact nofun
    · unfold streamRaw
      split
      · exact nofun
      · split <;> exact nofun

theorem hands_executeParamQueryStreaming (c : Connector) (endpoint : EndpointConfig) (sql : String)
    (parameters : List GatewayValue) (session : SessionState) (mode : ExecuteMode) (inTxn : Bool) (io : PoolIo) :
    Hands [] (executeParamQueryStreaming c endpoint sql parameters session mode inTxn io).1 := by
  have hexecute : ∀ c conn, Hands [] (runExecute c conn inTxn io).1 := by
    intro c conn
    unfold runExecute
    split <;> exact nofun
  unfold executeParamQueryStreaming
  split
  · exact nofun
  split
  · exact hands_executeSimpleQueryStreaming c endpoint sql session mode inTxn io
  split
  · exact nofun
  · exact nofun
  split
  · exact nofun
  split
  · exact nofun
  · unfold streamPrepared
    split
    · exact hexecute _ _
    split
    · exact nofun
    · exact hexecute _ _
    · split <;> exact nofun

variable {c : Connector}

theorem hands_executeStreaming {command : GatewayCommand} (hrow : isRowCommand command = true)
    (session : SessionState) (mode : ExecuteMode) (inTxn : Bool) (io : CallIo) :
    Hands [] (executeStreaming c command session mode inTxn io).1 := by
  rcases executeStreaming_cases (c := c) hrow session mode inTxn io with
    ⟨e, h⟩ | ⟨endpoint, sql, _, _, h⟩ | ⟨endpoint, sql, parameters, _, _, h⟩
  · rw [h]
    exact hands_error e
  · rw [h]
    exact hands_executeSimpleQueryStreaming c endpoint sql session mode inTxn io.pool
  · rw [h]
    exact hands_executeParamQueryStreaming c endpoint sql parameters session mode inTxn io.pool

theorem hands_executeUnrelayed {command : GatewayCommand} (hrow : isRowCommand command = true)
    (session : SessionState) (inTxn : Bool) (io : CallIo) :
    Hands [io.textBind.response] (executeUnrelayed c command session inTxn io).1 := by
  have hdemote : Hands [io.textBind.response] (textBindOrDemote c command session inTxn io).1 := by
    have hnone : ∀ c session, Hands [io.textBind.response] (executeStreaming c command session demoted inTxn io).1 :=
      fun c session => (hands_executeStreaming hrow session demoted inTxn io).mono (List.nil_subset _)
    unfold textBindOrDemote
    split
    · exact hnone c session
    · rename_i sql parameters _
      split
      · exact nofun
      · rename_i endpoint _
        have hands := hands_executeExtendedTextBindTcpRelay c endpoint sql parameters session inTxn io.textBind
        split
        · rename_i h
          rw [h] at hands
          exact hands
        · exact hnone _ session
  unfold executeUnrelayed
  split
  · exact (hands_completed _).mono (List.nil_subset _)
  · exact hdemote

/-- **Relays.**  Whatever the command, a relay's response is one of those the call was given. -/
theorem hands_executeOutcome (c : Connector) (command : GatewayCommand) (session : SessionState)
    (mode : ExecuteMode) (io : CallIo) : Hands io.responses (executeOutcome c command session mode io).1 := by
  cases hrow : isRowCommand command with
  | false =>
    by_cases hsync : command = .pgBackendSync
    · rw [hsync]
      unfold executeOutcome executePgBackendSync
      dsimp only
      split
      · exact nofun
      · exact (hands_relayInto _ _ _ _ io.relay).mono (relay_mem_responses io)
    · rw [executeOutcome_other hrow hsync]
      exact (hands_completed _).mono (List.nil_subset _)
  | true =>
    cases hmode : mode.isPassthrough with
    | false =>
      rw [executeOutcome_driver hrow hmode]
      exact (hands_executeStreaming hrow _ _ _ io).mono (List.nil_subset _)
    | true =>
      obtain rfl : mode = .passthrough := by cases mode <;> first | rfl | cases hmode
      rcases executeOutcome_relay_cases c hrow session io with
        ⟨e, h⟩ | ⟨_, sql, endpoint, _, h⟩ | ⟨_, _, h⟩ | ⟨_, endpoint, outcome, s', c', hrun, h⟩ |
        ⟨_, endpoint, e, s', c', hrun, h⟩
      · rw [h]
        exact nofun
      · rw [h]
        exact (hands_executeSimpleQueryTcpRelay c endpoint sql session _ io.relay).mono (relay_mem_responses io)
      · rw [h]
        exact (hands_executeUnrelayed hrow session _ io).mono (textBind_mem_responses io)
      · have hands := hands_executeClientExtendedFramesTcpRelay c endpoint session (c.inTxn session) io.frames
        rw [hrun] at hands
        rw [h]
        exact hands.mono (frames_mem_responses io)
      · rw [h]
        exact (hands_executeUnrelayed hrow s' _ io).mono (textBind_mem_responses io)

/-! ## The transaction state during a call -/

def isControl : GatewayCommand → Bool
  | .begin => true
  | .commit => true
  | .rollback => true
  | _ => false

theorem executeOutcome_state (c : Connector) {command : GatewayCommand}
    (hcontrol : isControl command = false) (session : SessionState) (mode : ExecuteMode) (io : CallIo) :
    (executeOutcome c command session mode io).2.1.transactionState = session.transactionState := by
  cases hrow : isRowCommand command with
  | true =>
    obtain ⟨frames, hold, h⟩ := executeOutcome_row_touches hrow session mode io (c := c)
    rw [h]
  | false =>
    cases command with
    | query sql => cases hrow
    | queryParams sql parameters => cases hrow
    | execute id parameters => cases hrow
    | begin => cases hcontrol
    | commit => cases hcontrol
    | rollback => cases hcontrol
    | pgBackendSync =>
      unfold executeOutcome executePgBackendSync
      dsimp only
      split <;> rfl
    | describeSql sql =>
      rw [executeOutcome_other hrow nofun, completed_session]
      rfl
    | _ => rfl

end DataNexus.Backend

namespace DataNexus.Engine

open DataNexus.Frontend DataNexus.Backend DataNexus.Pdp DataNexus.Tickets DataNexus.Stream

/-! ## The statements and the server -/

/-- The texts that `decode_query_command` takes for transaction control. -/
def controlWords : List String := ["begin", "start transaction", "commit", "rollback"]

/-- What the server does to its transaction state for a text it accepts. -/
inductive Effect where
  /-- BEGIN, START TRANSACTION, with any modes. -/
  | opens
  /-- COMMIT, END, ROLLBACK, ABORT. -/
  | ends
deriving DecidableEq

/-- The server's reading of a text; `none` leaves the transaction state alone. -/
abbrev Reading := String → Option Effect

/-- The server's transaction state after a text. -/
def serverNext (pg : Reading) (sql : String) (accepted : Bool) (state : TransactionState) : TransactionState :=
  if accepted then
    match pg sql with
    | some .opens => .active
    | some .ends => .idle
    | none => state
  else state.afterError

/-- What the world answers while a frame is handled. -/
abbrev World := Nat → CommandIo CallIo HealthIo

/-- One statement, as either client says it, and what the world answers to each of its messages. -/
structure Spoken where
  sql : String
  /-- The names, arguments, formats and page that the extended protocol needs besides. -/
  statement : String
  portal : String
  parameters : List (Option String)
  resultFormats : List Int
  maxRows : Int
  accepted : Bool
  onQuery : World
  onParse : World
  onBind : World
  onExecute : World
  onSync : World

def Spoken.worlds (s : Spoken) : List World := [s.onQuery, s.onParse, s.onBind, s.onExecute, s.onSync]

inductive QueryProtocol where
  | simple
  | extended
deriving DecidableEq

def Spoken.acts (s : Spoken) : QueryProtocol → List (Runtime.Act RawFrame CallIo HealthIo Nat)
  | .simple => [.frame (frameOf (.query s.sql)) s.onQuery]
  | .extended =>
    [.frame (frameOf (.parse s.statement s.sql)) s.onParse,
     .frame (frameOf (.bind s.portal s.statement s.parameters s.resultFormats)) s.onBind,
     .frame (frameOf (.execute s.portal s.maxRows)) s.onExecute,
     .frame (frameOf .sync) s.onSync]

/-- A session with PostgreSQL on both sides; `none` is a closed one. -/
abbrev PgSession := Option (Gateway PostgreSqlFrontend Connector)

/-- A service with PostgreSQL on both sides, as `Runtime`. -/
abbrev PgRuntime := Runtime PostgreSqlFrontend RawFrame Connector CallIo HealthIo Nat

def speak (r : PgRuntime) (protocol : QueryProtocol) (g : PgSession) (s : Spoken) : List Event × PgSession :=
  ((Run.entries r.step g (s.acts protocol)).flatMap (·.out), Run.final r.step g (s.acts protocol))

abbrev spoken (r : PgRuntime) (protocol : QueryProtocol) (g : PgSession) (statements : List Spoken) :=
  Run.entries (speak r protocol) g statements

def statesOf (run : List (Run.Entry PgSession Spoken (List Event))) : List (Option TransactionState) :=
  run.map fun e => e.post.map (·.session.transactionState)

/-- The BEGIN, COMMIT and ROLLBACK commands that the connector got. -/
def controlsOf (run : List (Run.Entry PgSession Spoken (List Event))) : List GatewayCommand :=
  ((run.flatMap fun e => calls e.out).map HandOff.command).filter isControl

def serverStates (pg : Reading) : TransactionState → List Spoken → List TransactionState
  | _, [] => []
  | state, s :: rest =>
    serverNext pg s.sql s.accepted state :: serverStates pg (serverNext pg s.sql s.accepted state) rest

/-- Two views of the transaction state agree, as long as both sessions are open. -/
def Agree (a b : Option TransactionState) : Prop := a = none ∨ b = none ∨ a = b

/-- **Transaction control means the same** in both protocols, and the same as for the server. -/
structure MeansTheSame (r : PgRuntime) (pg : Reading) (g : Gateway PostgreSqlFrontend Connector)
    (statements : List Spoken) : Prop where
  states : List.Forall₂ Agree (statesOf (spoken r .simple (some g) statements))
    (statesOf (spoken r .extended (some g) statements))
  commands : controlsOf (spoken r .simple (some g) statements) = controlsOf (spoken r .extended (some g) statements)
  follows : ∀ protocol, List.Forall₂ Agree (statesOf (spoken r protocol (some g) statements))
    ((serverStates pg .idle statements).map some)

/-- The transaction status of a relayed response is the server's. -/
def TellsState (state : TransactionState) (world : World) : Prop :=
  ∀ i, ∀ response ∈ (world i).call.responses, ∀ status, response.readyStatus = some status → stateOfReady status = state

/-- In every relayed response the server tells its state. -/
def Truthful (pg : Reading) : TransactionState → List Spoken → Prop
  | _, [] => True
  | state, s :: rest =>
    (∀ world ∈ s.worlds, TellsState (serverNext pg s.sql s.accepted state) world) ∧
      Truthful pg (serverNext pg s.sql s.accepted state) rest

/-- A statement that nobody takes for the start of a transaction, and no FETCH with a dead connection. -/
structure Plain (pg : Reading) (s : Spoken) : Prop where
  spelled : controlKeyword s.sql ∉ controlWords
  opensNothing : pg s.sql ≠ some .opens
  alive : ∀ world ∈ s.worlds, ∀ i, (world i).health.answer = .ok ()

/-! ## An idle session stays idle -/

/-- The tracked state is `Idle`. -/
def Idle (g : Gateway PostgreSqlFrontend Connector) : Prop := g.session.transactionState = .idle

/-- No answer of the world speaks of a transaction. -/
structure NoBlock (io : CommandIo CallIo HealthIo) : Prop where
  tells : ∀ response ∈ io.call.responses, ∀ status, response.readyStatus = some status → stateOfReady status = .idle
  alive : io.health.answer = .ok ()

theorem afterError_idle {state : TransactionState} (h : state = .idle) : state.afterError = .idle := by
  rw [h]
  rfl

section Commands

variable (r : PgRuntime)

variable {g : Gateway PostgreSqlFrontend Connector}

theorem idle_encodeOwed (h : Idle g) (response : GatewayResponse) (obligations : Option Obligations)
    (io : CommandIo CallIo HealthIo) : Idle (r.encodeOwed g response obligations io).gateway := by
  unfold Runtime.encodeOwed
  split
  · exact h
  · exact h

theorem idle_failUnit {session : SessionState} (h : session.transactionState = .idle) :
    (r.failUnit session).transactionState = .idle := by
  unfold Runtime.failUnit
  split
  · exact afterError_idle h
  · exact h

theorem idle_rejectUnsupportedCapability (h : Idle g) (capability : UnsupportedSqlCapability)
    (io : CommandIo CallIo HealthIo) : Idle (r.rejectUnsupportedCapability g capability io).gateway :=
  idle_encodeOwed r (g := { g with session := r.failUnit g.session }) (idle_failUnit r h) _ none io

theorem idle_cursorError (h : Idle g) (code message : String) (io : CommandIo CallIo HealthIo) :
    Idle (r.cursorError g code message io).gateway := by
  have hfailed : Idle { g with
      session := { g.session with transactionState := g.session.transactionState.afterError } } :=
    afterError_idle h
  exact idle_encodeOwed r hfailed _ none io

theorem idle_observeRelay {session : SessionState} (h : session.transactionState = .idle) {response : RelayEnd}
    (htells : ∀ status, response.readyStatus = some status → stateOfReady status = .idle) :
    (observeRelay session response).transactionState = .idle := by
  unfold observeRelay
  dsimp only
  cases hready : response.readyStatus with
  | some status => exact htells status hready
  | none =>
    dsimp only
    split
    · exact afterError_idle h
    · exact h

theorem idle_settleRelay (h : Idle g) (command : GatewayCommand) {relay : WireRelay} (io : CommandIo CallIo HealthIo)
    (htells : ∀ status, relay.response.readyStatus = some status → stateOfReady status = .idle) :
    Idle (r.settleRelay g command relay io).gateway := by
  unfold Runtime.settleRelay
  dsimp only
  split
  · exact h
  · exact h
  · have hafter := idle_observeRelay h htells
    unfold Idle Runtime.relayedSession
    dsimp only
    split
    · exact hafter
    · split
      · exact hafter
      · exact hafter

theorem pageSession_state (session : SessionState) :
    (Runtime.pageSession session).transactionState = session.transactionState := by
  unfold Runtime.pageSession
  split <;> rfl

theorem afterPage_state (g : Gateway PostgreSqlFrontend Connector) (columns : List Column) (page : LoopEnd) :
    (Runtime.afterPage g columns page).session.transactionState = g.session.transactionState := by
  unfold Runtime.afterPage
  dsimp only
  split
  · exact pageSession_state g.session
  · split
    · exact pageSession_state g.session
    · split <;> exact pageSession_state g.session

theorem idle_settleRows (h : Idle g) (obligations : Obligations) (mode : ExecuteMode) (columns : List Column)
    (windows : List (List Row)) (io : CommandIo CallIo HealthIo) :
    Idle (r.settleRows g obligations mode columns windows io).gateway := by
  unfold Runtime.settleRows
  dsimp only
  split
  · exact (pageSession_state g.session).trans h
  · exact (pageSession_state g.session).trans h
  · exact (afterPage_state _ _ _).trans h

theorem idle_settleResponse (h : Idle g) (command : GatewayCommand) (response : GatewayResponse)
    (obligations : Option Obligations) (io : CommandIo CallIo HealthIo) :
    Idle (r.settleResponse g command response obligations io).gateway := by
  have hdrop : ∀ g : Gateway PostgreSqlFrontend Connector, Idle g → Idle (Runtime.dropCursors command g) := by
    intro g hg
    unfold Runtime.dropCursors
    split <;> exact hg
  have hsession : (if Runtime.isErrorResponse response && r.frontend.protocol == .postgreSql then
      observeError g.session else g.session).transactionState = .idle := by
    split
    · exact afterError_idle h
    · exact h
  have hencoded := idle_encodeOwed r (g := { g with session := _ }) hsession response obligations io
  unfold Runtime.settleResponse
  dsimp only
  split
  · exact hencoded
  · exact hdrop _ hencoded

theorem idle_settle (h : Idle g) (command : GatewayCommand) (obligations : Obligations) (mode : ExecuteMode)
    {io : CommandIo CallIo HealthIo} (hio : NoBlock io) {outcome : Except GatewayError Outcome}
    (hands : Hands io.call.responses outcome) : Idle (r.settle g command obligations mode io outcome).gateway := by
  rcases outcome with e | response | ⟨columns, windows⟩ | relay
  · exact idle_settleResponse r h command _ none io
  · exact idle_settleResponse r h command response _ io
  · exact idle_settleRows r h obligations mode columns windows io
  · exact idle_settleRelay r h command io (hio.tells _ (hands relay rfl))

end Commands

section Backend

variable (t : PgSetup) (d : Dialect) (codec : PostgreSqlFrontend → SessionState → Option Obligations → RowCodec)
variable (service : Service)

variable {g : Gateway PostgreSqlFrontend Connector}

theorem idle_execute (h : Idle g) (decoded : GatewayCommand) {command : GatewayCommand}
    (hcontrol : isControl command = false) (obligations : Obligations) {io : CommandIo CallIo HealthIo}
    (hio : NoBlock io) : Idle (t.runtime.execute g decoded command obligations io).gateway := by
  have hdrop : Idle (Runtime.dropInvalidatedPortal g) := by
    unfold Runtime.dropInvalidatedPortal
    split <;> exact h
  unfold Runtime.execute
  dsimp only [Handled.after_gateway]
  rcases t.runtime.obtainOutcome_cases g command (t.runtime.execMode command obligations) io with
    ⟨held, hout⟩ | ⟨out, hcall, hout⟩
  · rw [hout]
    refine idle_settle _ ?_ decoded obligations _ hio ?_
    · exact hdrop
    · exact nofun
  · have hstate := executeOutcome_state g.backend hcontrol (Runtime.dropInvalidatedPortal g).session
      (t.runtime.execMode command obligations) io.call
    have hands := hands_executeOutcome g.backend command (Runtime.dropInvalidatedPortal g).session
      (t.runtime.execMode command obligations) io.call
    obtain rfl : executeOutcome g.backend command (Runtime.dropInvalidatedPortal g).session
      (t.runtime.execMode command obligations) io.call = out := hcall
    rw [hout]
    refine idle_settle _ ?_ decoded obligations _ hio hands
    exact hstate.trans hdrop

theorem idle_declareCursor (h : Idle g) (name selectSql : String) (withHold : Bool) (io : CommandIo CallIo HealthIo) :
    Idle (t.runtime.declareCursor g name selectSql withHold io).gateway := by
  unfold Runtime.declareCursor
  split
  · exact idle_cursorError _ h _ _ io
  · have hcall : (executeOutcome g.backend (.query selectSql) g.session
        t.runtime.declareMode io.call).2.1.transactionState = .idle :=
      (executeOutcome_state g.backend rfl g.session _ io.call).trans h
    dsimp only [Handled.after_gateway]
    unfold Runtime.settleDeclare
    split
    · exact hcall
    · refine idle_encodeOwed _ ?_ _ none io
      exact hcall
    · refine idle_encodeOwed _ ?_ _ none io
      exact hcall
    · refine idle_encodeOwed _ ?_ _ none io
      exact hcall
    · refine idle_encodeOwed _ ?_ _ none io
      exact hcall

theorem idle_fetchCursor (h : Idle g) (name : String) (count : Nat) {io : CommandIo CallIo HealthIo}
    (hio : NoBlock io) : Idle (t.runtime.fetchCursor g name count io).gateway := by
  have halive : ∀ e c, checkHealth g.backend io.health ≠ (.error e, c) := by
    intro e c hdead
    unfold checkHealth checkSessionHealth at hdead
    rw [hio.alive] at hdead
    revert hdead
    cases g.backend.txnLease with
    | none => exact nofun
    | some conn => exact nofun
  unfold Runtime.fetchCursor
  split
  · exact idle_cursorError _ h _ _ io
  · split
    · rename_i e backend hdead
      exact absurd hdead (halive e backend)
    · refine idle_encodeOwed _ ?_ _ none io
      exact h

theorem idle_handleNamedCursorSql (h : Idle g) {io : CommandIo CallIo HealthIo} (hio : NoBlock io)
    (kind : NamedCursorSql) : Idle (t.runtime.handleNamedCursorSql g io kind).gateway := by
  cases kind with
  | declare name selectSql withHold => exact idle_declareCursor t h name selectSql withHold io
  | fetch name count => exact idle_fetchCursor t h name count hio
  | close name =>
    unfold Runtime.handleNamedCursorSql Runtime.closeCursor
    dsimp only
    split
    · exact idle_cursorError _ h _ _ io
    · refine idle_encodeOwed _ ?_ _ none io
      exact h
  | unsupported verb => exact idle_encodeOwed _ h _ none io

theorem isControl_kindOf (command : GatewayCommand) : isControl (kindOf command) = isControl command := by
  cases command <;> rfl

/-- A command that is no transaction control: the session stays idle, and no transaction control is
    handed over. -/
theorem idle_handleCommand (htr : t.service.translation = none) (h : Idle g) {command : GatewayCommand}
    (hcontrol : isControl command = false) {io : CommandIo CallIo HealthIo} (hio : NoBlock io) :
    Idle (t.runtime.handleCommand g command io).gateway := by
  unfold Runtime.handleCommand
  split
  · exact idle_rejectUnsupportedCapability _ h _ io
  split
  · exact h
  rename_i session hroute
  have hsession : Idle { g with session := session } := by
    unfold Idle
    rw [Runtime.route_ok _ hroute]
    exact h
  split
  · rename_i kind _
    exact idle_handleNamedCursorSql t hsession hio kind
  · unfold Runtime.decideAndExecute
    dsimp only
    rcases hcheck : t.runtime.precheck command session io with
      ⟨halt | ⟨response, session'⟩ | ⟨handed, obl⟩, asked⟩
    · exact hsession
    · refine idle_encodeOwed _ ?_ response none io
      rcases (Runtime.precheck_refused _ hcheck).2 with rfl | rfl
      · exact hsession
      · exact idle_failUnit _ hsession
    · obtain ⟨a, ha, hstage⟩ := Runtime.precheck_admitted _ hcheck
      have hkind : kindOf handed = kindOf command := (kindOf_securityStage hstage).trans (kindOf_asked htr ha)
      have hhanded : isControl handed = false := by
        rw [← isControl_kindOf, hkind, isControl_kindOf]
        exact hcontrol
      exact idle_execute t hsession command hhanded obl hio

theorem calls_plain (htr : t.service.translation = none) (g : Gateway PostgreSqlFrontend Connector)
    {command : GatewayCommand} (hcontrol : isControl command = false) (io : CommandIo CallIo HealthIo) :
    ∀ h ∈ calls (t.runtime.handleCommand g command io).events, isControl h.command = false := by
  intro h hmem
  have hone : calls (t.runtime.handleCommand g command io).events = [h] := by
    cases t.runtime.reaches_handleCommand g command io with
    | not hnone =>
      rw [hnone] at hmem
      cases hmem
    | declare name selectSql withHold session hsql hroute hnew hone =>
      rw [hone] at hmem ⊢
      rw [List.mem_singleton.mp hmem]
    | admitted session handed o asked hroute hcheck hasked hone =>
      rw [hone] at hmem ⊢
      rw [List.mem_singleton.mp hmem]
  rw [← isControl_kindOf, kindOf_handed htr hone, isControl_kindOf]
  exact hcontrol

end Backend

/-! ## Frames -/

/-- A message that `decode` does not take for transaction control. -/
def PlainMessage (message : FrontendMessage) : Prop := ∀ sql, message = .query sql → controlKeyword sql ∉ controlWords

structure DecodesPlain (session : SessionState) (out : Decoded) : Prop where
  state : out.2.1.transactionState = session.transactionState
  commands : ∀ commands, out.1 = .ok commands → ∀ c ∈ commands, isControl c = false

variable {session' : SessionState} {pg : Reading}

theorem decodesPlain_one {session : SessionState} {command : GatewayCommand}
    (hstate : session'.transactionState = session.transactionState) (hcontrol : isControl command = false)
    (p : PostgreSqlFrontend) : DecodesPlain session (.ok [command], session', p) := by
  refine ⟨hstate, ?_⟩
  intro commands h c hmem
  obtain rfl : [command] = commands := by injection h
  rw [List.mem_singleton.mp hmem]
  exact hcontrol

theorem decodesPlain_wire {session : SessionState}
    (hstate : session'.transactionState = session.transactionState) (packets : List (List UInt8))
    (p : PostgreSqlFrontend) : DecodesPlain session (clientWire packets session' p) :=
  decodesPlain_one hstate rfl p

theorem decodesPlain_nothing (session : SessionState) (p : PostgreSqlFrontend) :
    DecodesPlain session (.ok [], session, p) := by
  refine ⟨rfl, ?_⟩
  intro commands h c hmem
  obtain rfl : [] = commands := by injection h
  cases hmem

theorem decodesPlain_query {sql : String} (h : controlKeyword sql ∉ controlWords)
    (p : PostgreSqlFrontend) (session : SessionState) : DecodesPlain session (decodeQuery p sql session) := by
  have hword : ∀ word ∈ controlWords, controlKeyword sql ≠ word := by
    intro word hmem heq
    rw [heq] at h
    exact h hmem
  have hbegin := hword "begin" (by decide)
  have hstart := hword "start transaction" (by decide)
  have hcommit := hword "commit" (by decide)
  have hrollback := hword "rollback" (by decide)
  unfold decodeQuery decodeQueryCommand
  dsimp only
  rw [if_neg (not_or.mpr ⟨hbegin, hstart⟩), if_neg hcommit, if_neg hrollback]
  refine decodesPlain_one ?_ rfl _
  -- SET client_encoding is noted in the session
  cases clientEncodingFromSetQuery sql <;> rfl

theorem decodesPlain_message (d : Dialect) (p : PostgreSqlFrontend) {frame : ClientFrame}
    (h : PlainMessage frame.message) (session : SessionState) :
    DecodesPlain session (decodeMessage d p frame session) := by
  unfold decodeMessage
  split
  · exact decodesPlain_nothing session p
  cases hm : frame.message with
  | query sql => exact decodesPlain_query (h sql hm) p session
  | terminate => exact decodesPlain_one rfl rfl p
  | flush => exact decodesPlain_nothing session p
  | sync =>
    dsimp only
    unfold decodeSync
    dsimp only
    split
    · refine decodesPlain_one ?_ rfl _
      rfl
    · refine decodesPlain_wire ?_ _ _
      rfl
  | parse statement query =>
    dsimp only
    unfold decodeParse
    split
    · exact ⟨rfl, nofun⟩
    · refine decodesPlain_wire ?_ _ _
      rfl
  | bind portal statement parameters formats =>
    dsimp only
    unfold decodeBind
    dsimp only
    split
    · exact ⟨rfl, nofun⟩
    · split
      · exact ⟨rfl, nofun⟩
      · refine decodesPlain_wire ?_ _ _
        rfl
  | describe target name =>
    dsimp only
    unfold decodeDescribe
    dsimp only
    split
    · split
      · refine decodesPlain_wire ?_ _ _
        rfl
      · split
        · exact ⟨rfl, nofun⟩
        · refine decodesPlain_one ?_ rfl _
          rfl
        · refine decodesPlain_wire ?_ _ _
          rfl
    · split
      · exact ⟨rfl, nofun⟩
      · refine decodesPlain_wire ?_ _ _
        rfl
  | execute portal maxRows =>
    dsimp only
    unfold decodeExecute
    dsimp only
    split
    · exact ⟨rfl, nofun⟩
    · refine decodesPlain_one ?_ ?_ _
      · rfl
      · split <;> rfl
  | close target name =>
    dsimp only
    unfold decodeClose
    cases target with
    | statement =>
      refine decodesPlain_wire ?_ _ _
      rfl
    | portal =>
      refine decodesPlain_wire ?_ _ _
      split <;> rfl

section Frames

variable (t : PgSetup) (d : Dialect) (codec : PostgreSqlFrontend → SessionState → Option Obligations → RowCodec)
variable (service : Service)

def IdleOrClosed (g : PgSession) : Prop := ∀ g', g = some g' → Idle g'

variable {world : World} {g : PgSession} {a : Runtime.Act RawFrame CallIo HealthIo Nat} {pg : Reading} {s : Spoken}

theorem idle_refused {g : Gateway PostgreSqlFrontend Connector} {frame : RawFrame}
    (h : Idle (t.runtime.decoded g frame)) (hnone : t.runtime.commandsOf g frame = []) :
    Idle (t.runtime.handleFrame g frame world).gateway := by
  unfold Runtime.commandsOf at hnone
  unfold Runtime.handleFrame
  dsimp only
  split
  · rename_i commands hdec
    rw [hdec] at hnone
    rw [show commands = [] from hnone]
    exact h
  · split
    · exact idle_rejectUnsupportedCapability _ h _ (world 0)
    · exact h
  · exact h

theorem idle_handleFrame (htr : t.service.translation = none) {g : Gateway PostgreSqlFrontend Connector}
    (h : Idle g) {message : FrontendMessage} (hplain : PlainMessage message) (hio : NoBlock (world 0)) :
    Idle (t.runtime.handleFrame g (frameOf message) world).gateway ∧
    ∀ call ∈ calls (t.runtime.handleFrame g (frameOf message) world).events, isControl call.command = false := by
  have hdec : DecodesPlain g.session (decodeMessage t.d g.frontend ⟨[], message⟩ g.session) :=
    decodesPlain_message t.d g.frontend hplain g.session
  have hidle : Idle (t.runtime.decoded g (frameOf message)) := hdec.state.trans h
  rcases t.runtime.handleFrame_cases g (frameOf message) world with
    ⟨hnone, hquiet, _⟩ | ⟨command, _, hcommands, hevents, hgateway, _⟩
  · refine ⟨?_, ?_⟩
    · exact idle_refused t hidle hnone
    · intro call hmem
      rw [hquiet.calls] at hmem
      cases hmem
  · have hcontrol : isControl command = false :=
      hdec.commands [command] hcommands command List.mem_cons_self
    rw [hevents, hgateway]
    exact ⟨idle_handleCommand t htr hidle hcontrol hio, calls_plain t htr _ hcontrol (world 0)⟩

/-- A message that is no transaction control, in a world that tells of none. -/
def PlainAct : Runtime.Act RawFrame CallIo HealthIo Nat → Prop
  | .frame frame world => (∃ message, frame = frameOf message ∧ PlainMessage message) ∧ NoBlock (world 0)
  | .background _ => False

/-- **One step.**  The session stays idle or is closed, and no transaction control is handed over. -/
theorem idle_step (htr : t.service.translation = none) (h : IdleOrClosed g) (ha : PlainAct a) :
    IdleOrClosed (t.runtime.step g a).2 ∧
    ∀ call ∈ calls (t.runtime.step g a).1, isControl call.command = false := by
  cases g with
  | none =>
    refine ⟨?_, ?_⟩
    · intro g' hg'
      cases hg'
    · intro call hmem
      cases hmem
  | some g =>
    cases a with
    | background k => exact absurd ha id
    | frame frame world =>
      obtain ⟨⟨message, rfl, hplain⟩, hio⟩ := ha
      obtain ⟨hidle, hcalls⟩ := idle_handleFrame t htr (h g rfl) hplain hio
      refine ⟨?_, hcalls⟩
      intro g' hg'
      change t.runtime.afterFrame (frameOf message) (t.runtime.handleFrame g (frameOf message) world) = some g' at hg'
      unfold Runtime.afterFrame at hg'
      split at hg'
      · split at hg'
        · cases hg'
        · obtain rfl := Option.some.inj hg'
          exact hidle
      · cases hg'
      · split at hg'
        · obtain rfl := Option.some.inj hg'
          exact afterError_idle hidle
        · cases hg'
      · obtain rfl := Option.some.inj hg'
        exact hidle

/-! ## Statements -/

/-- A plain statement whose relayed responses tell of no block. -/
def PlainAnswered (pg : Reading) (s : Spoken) : Prop := Plain pg s ∧ ∀ world ∈ s.worlds, TellsState .idle world

theorem plainAct_of_mem (h : PlainAnswered pg s) {protocol : QueryProtocol} (ha : a ∈ s.acts protocol) :
    PlainAct a := by
  have hblock : ∀ world ∈ s.worlds, NoBlock (world 0) := by
    intro world hmem
    exact ⟨h.2 world hmem 0, h.1.alive world hmem 0⟩
  have hother : ∀ message : FrontendMessage, (∀ sql, message ≠ .query sql) → PlainMessage message := by
    intro message hne sql heq
    exact absurd heq (hne sql)
  cases protocol with
  | simple =>
    rw [List.mem_singleton.mp ha]
    refine ⟨⟨_, rfl, ?_⟩, hblock s.onQuery (by simp [Spoken.worlds])⟩
    intro sql heq
    cases heq
    exact h.1.spelled
  | extended =>
    simp only [Spoken.acts, List.mem_cons, List.not_mem_nil, or_false] at ha
    rcases ha with rfl | rfl | rfl | rfl
    · exact ⟨⟨_, rfl, hother _ (by rintro _ ⟨⟩)⟩, hblock s.onParse (by simp [Spoken.worlds])⟩
    · exact ⟨⟨_, rfl, hother _ (by rintro _ ⟨⟩)⟩, hblock s.onBind (by simp [Spoken.worlds])⟩
    · exact ⟨⟨_, rfl, hother _ (by rintro _ ⟨⟩)⟩, hblock s.onExecute (by simp [Spoken.worlds])⟩
    · exact ⟨⟨_, rfl, hother _ (by rintro _ ⟨⟩)⟩, hblock s.onSync (by simp [Spoken.worlds])⟩

theorem mem_calls_flatMap {α : Type} {xs : List α} {f : α → List Event} {call : HandOff}
    (h : call ∈ calls (xs.flatMap f)) : ∃ x ∈ xs, call ∈ calls (f x) := by
  obtain ⟨event, hevent, heq⟩ := List.mem_filterMap.mp h
  obtain ⟨x, hx, hmem⟩ := List.mem_flatMap.mp hevent
  exact ⟨x, hx, List.mem_filterMap.mpr ⟨event, hmem, heq⟩⟩

theorem idle_speak (htr : t.service.translation = none) (h : PlainAnswered pg s) (protocol : QueryProtocol)
    (hg : IdleOrClosed g) : IdleOrClosed (speak t.runtime protocol g s).2 ∧
    ∀ call ∈ calls (speak t.runtime protocol g s).1, isControl call.command = false := by
  have hstep : ∀ g a, IdleOrClosed g → PlainAct a → IdleOrClosed (t.runtime.step g a).2 :=
    fun g a hg ha => (idle_step t htr hg ha).1
  have hmeets : Run.Meets t.runtime.step (fun _ a => PlainAct a) g (s.acts protocol) := by
    intro e he
    exact plainAct_of_mem h (Run.act_mem he)
  refine ⟨Run.inv_final IdleOrClosed hstep hg hmeets, ?_⟩
  intro call hmem
  obtain ⟨e, he, hcall⟩ := mem_calls_flatMap hmem
  rw [(Run.entry_eq he).1] at hcall
  have hpre := (Run.inv_of_mem_entries IdleOrClosed hstep hg hmeets he).1
  exact (idle_step t htr hpre (hmeets e he)).2 call hcall

theorem idle_spoken (htr : t.service.translation = none) {statements : List Spoken}
    (h : ∀ s ∈ statements, PlainAnswered pg s) (protocol : QueryProtocol) (hg : IdleOrClosed g)
    {e : Run.Entry PgSession Spoken (List Event)} (he : e ∈ spoken t.runtime protocol g statements) :
    IdleOrClosed e.post ∧ ∀ call ∈ calls e.out, isControl call.command = false := by
  have hstep : ∀ g s, IdleOrClosed g → PlainAnswered pg s → IdleOrClosed (speak t.runtime protocol g s).2 :=
    fun g s hg hs => (idle_speak t htr hs protocol hg).1
  have hmeets : Run.Meets (speak t.runtime protocol) (fun _ s => PlainAnswered pg s) g statements := by
    intro e he
    exact h e.act (Run.act_mem he)
  have hpre := (Run.inv_of_mem_entries IdleOrClosed hstep hg hmeets he).1
  obtain ⟨hpost, hcalls⟩ := idle_speak t htr (hmeets e he) protocol hpre
  rw [(Run.entry_eq he).1, (Run.entry_eq he).2]
  exact ⟨hpost, hcalls⟩

theorem statesOf_idle (htr : t.service.translation = none) {statements : List Spoken}
    (h : ∀ s ∈ statements, PlainAnswered pg s) (protocol : QueryProtocol) (hg : IdleOrClosed g) : ∀ state ∈ statesOf
      (spoken t.runtime protocol g statements), state = none ∨ state = some .idle := by
  intro state hmem
  obtain ⟨e, he, rfl⟩ := List.mem_map.mp hmem
  have hpost := (idle_spoken t htr h protocol hg he).1
  cases hp : e.post with
  | none => exact .inl rfl
  | some g' => exact .inr (congrArg some (hpost g' hp))

theorem controlsOf_nil (htr : t.service.translation = none) {statements : List Spoken}
    (h : ∀ s ∈ statements, PlainAnswered pg s) (protocol : QueryProtocol) (hg : IdleOrClosed g) :
    controlsOf (spoken t.runtime protocol g statements) = [] := by
  unfold controlsOf
  rw [List.filter_eq_nil_iff]
  intro command hmem
  obtain ⟨call, hcall, rfl⟩ := List.mem_map.mp hmem
  obtain ⟨e, he, hcall⟩ := List.mem_flatMap.mp hcall
  rw [(idle_spoken t htr h protocol hg he).2 call hcall]
  exact Bool.false_ne_true

end Frames

/-! ## The server -/

theorem serverNext_idle {s : Spoken} (h : Plain pg s) : serverNext pg s.sql s.accepted .idle = .idle := by
  unfold serverNext
  split
  · split
    · rename_i hopens
      exact absurd hopens h.opensNothing
    · rfl
    · rfl
  · rfl

theorem server_idle {statements : List Spoken} (h : ∀ s ∈ statements, Plain pg s) :
    (∀ state ∈ serverStates pg .idle statements, state = .idle) ∧
    (Truthful pg .idle statements → ∀ s ∈ statements, PlainAnswered pg s) := by
  induction statements with
  | nil => exact ⟨nofun, fun _ => nofun⟩
  | cons s rest ih =>
    have hs : Plain pg s := h s List.mem_cons_self
    obtain ⟨hstates, htells⟩ := ih fun t ht => h t (List.mem_cons_of_mem s ht)
    refine ⟨?_, ?_⟩
    · intro state hmem
      rw [serverStates, serverNext_idle hs] at hmem
      rcases List.mem_cons.mp hmem with rfl | hmem
      · rfl
      · exact hstates state hmem
    · intro htrue t ht
      rw [Truthful, serverNext_idle hs] at htrue
      rcases List.mem_cons.mp ht with rfl | ht
      · exact ⟨hs, htrue.1⟩
      · exact htells htrue.2 t ht

theorem agree_of_idle {xs ys : List (Option TransactionState)} (hlen : xs.length = ys.length)
    (hx : ∀ x ∈ xs, x = none ∨ x = some .idle) (hy : ∀ y ∈ ys, y = none ∨ y = some .idle) :
    List.Forall₂ Agree xs ys := by
  induction xs generalizing ys with
  | nil =>
    cases ys with
    | nil => exact .nil
    | cons y ys => cases hlen
  | cons x xs ih =>
    cases ys with
    | nil => cases hlen
    | cons y ys =>
      refine .cons ?_ (ih (Nat.succ.inj hlen) ?_ ?_)
      · rcases hx x List.mem_cons_self with hx | hx
        · exact .inl hx
        · rcases hy y List.mem_cons_self with hy | hy
          · exact .inr (.inl hy)
          · exact .inr (.inr (hx.trans hy.symm))
      · exact fun x' hx' => hx x' (List.mem_cons_of_mem x hx')
      · exact fun y' hy' => hy y' (List.mem_cons_of_mem y hy')

theorem length_statesOf (r : PgRuntime) (protocol : QueryProtocol) (g : PgSession) (statements : List Spoken) :
    (statesOf (spoken r protocol g statements)).length = statements.length := by
  rw [statesOf, List.length_map, Run.length_entries]

theorem length_serverStates (pg : Reading) (state : TransactionState) (statements : List Spoken) :
    (serverStates pg state statements).length = statements.length := by
  induction statements generalizing state with
  | nil => rfl
  | cons s rest ih => exact congrArg (· + 1) (ih _)

/-- The documented spellings, by the first words of the text. -/
def documented : Reading := fun sql =>
  let text := Text.trimEndMatches (· == ';') (Text.trim sql.toList)
  match (Text.splitWhitespace (Text.toAsciiLowercase text)).map String.ofList with
  | "begin" :: _ => some .opens
  | "start" :: "transaction" :: _ => some .opens
  | "commit" :: "prepared" :: _ => none
  | "rollback" :: "prepared" :: _ => none
  | "rollback" :: "to" :: _ => none
  | "commit" :: _ => some .ends
  | "end" :: _ => some .ends
  | "rollback" :: _ => some .ends
  | "abort" :: _ => some .ends
  | _ => none

/-- A statement without parameters, in a world where everything works. -/
def working (sql : String) : Spoken where
  sql := sql
  statement := ""
  portal := ""
  parameters := []
  resultFormats := []
  maxRows := 0
  accepted := true
  onQuery := fun _ => workingIo (rulesOnly []) noRewriters
  onParse := fun _ => workingIo (rulesOnly []) noRewriters
  onBind := fun _ => workingIo (rulesOnly []) noRewriters
  onExecute := fun _ => workingIo (rulesOnly []) noRewriters
  onSync := fun _ => workingIo (rulesOnly []) noRewriters

theorem truthful_working (pg : Reading) (state : TransactionState) (sqls : List String) :
    Truthful pg state (sqls.map working) := by
  induction sqls generalizing state with
  | nil => trivial
  | cons sql rest ih =>
    refine ⟨?_, ih _⟩
    intro world hworld i response hresponse status hstatus
    simp only [Spoken.worlds, working, List.mem_cons, List.not_mem_nil, or_false, or_self] at hworld
    rw [hworld] at hresponse
    have hnone : response.readyStatus = none := by
      simp only [CallIo.responses, workingIo, CallIo.works, List.mem_cons, List.not_mem_nil, or_false,
        or_self] at hresponse
      rw [hresponse]
      rfl
    rw [hnone] at hstatus
    cases hstatus

theorem plain_working {sql : String} (hword : controlKeyword sql ∉ controlWords) (hopens : pg sql ≠ some .opens) :
    Plain pg (working sql) := by
  refine ⟨hword, hopens, ?_⟩
  intro world hworld i
  simp only [Spoken.worlds, working, List.mem_cons, List.not_mem_nil, or_false, or_self] at hworld
  rw [hworld]
  rfl

end DataNexus.Engine
