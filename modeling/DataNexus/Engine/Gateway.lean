/-
  `CoreGatewayConnection::handle_frame_inner`: what happens to one client frame (`core_engine.rs`), and the session loop
  around it (`gateway.rs`).

      decode ─▶ refused capability? ─▶ route ─▶ named cursor? ─▶ plugins ─▶ translation ─▶ PDP
             ─▶ execution mode ─▶ held portal | backend.execute_outcome ─▶ relay | rows | response

  Frontend and backend are trait objects, so they are parameters here; `Engine.PostgreSql` puts in a pair.  What the
  world answers is given to each command as a `CommandIo`, and every command leaves a trace of `Event`s.  Metrics, audit
  records and spans are left out, and so is the mapping of column types between protocols.
-/
import DataNexus.Backend.Client
import DataNexus.Engine.Cursor
import DataNexus.Engine.Route
import DataNexus.Pdp.Authorize

namespace DataNexus.Engine

open DataNexus.Stream DataNexus.Pdp DataNexus.Tickets
open DataNexus.Backend (Outcome WireRelay observeRelay observeError isRowCommand windowOf)

/-! ## Interfaces -/

/-- How a frontend writes rows: the header after the watermark column was added, the masked and
    watermarked row, and the encoders. -/
structure RowCodec where
  header : List Column → List Column
  view : List Column → Row → Row
  encodeHeader : List Column → Except GatewayError (List ClientMessage)
  encodeRow : List Column → Row → Except GatewayError ClientMessage

/-- `FrontendProtocolAdapter` with the state `φ`, over frames `ι`.  The last fields are what both
    frontends keep to. -/
structure FrontendProtocolAdapter (φ ι : Type) where
  protocol : ProtocolKind
  decode : φ → ι → SessionState → Except Halt (List GatewayCommand) × SessionState × φ
  /-- What encoding a response leaves behind. -/
  encoded : φ → GatewayResponse → φ
  /-- What encoding the header of a row stream leaves behind. -/
  headerEncoded : φ → φ
  codec : φ → SessionState → Option Obligations → RowCodec
  /-- `frame.first()`. -/
  tag : ι → UInt8
  terminates : ι → Bool
  /-- The frame as a relay would send it on; `none` if this frontend buffers nothing. -/
  clientFrame : ι → Option ClientFrame
  /-- The text that the portal of an Execute frame is bound to. -/
  boundText : φ → ClientFrame → Option String
  /-- A frame is at most one command. -/
  decode_single : ∀ p f s commands, (decode p f s).1 = .ok commands → commands.length ≤ 1
  /-- Only the frame itself is added to the buffer, and an Execute under a hold empties it first. -/
  decode_frames : ∀ p f s commands command g, (decode p f s).1 = .ok commands → command ∈ commands →
    g ∈ (decode p f s).2.1.pgClientExtendedFrames →
    clientFrame f = some g ∨
      (g ∈ s.pgClientExtendedFrames ∧ ¬(s.pgExtTcpHold = true ∧ (clientFrame f).any ClientFrame.isExecute = true))
  /-- An Execute becomes a command with the text of its portal. -/
  decode_text : ∀ p f s commands command g, (decode p f s).1 = .ok commands → command ∈ commands →
    clientFrame f = some g → g.isExecute = true → sqlText command = boundText (decode p f s).2.2 g
  /-- The endpoint is the engine's business. -/
  decode_endpoint : ∀ p f s, (decode p f s).2.1.backendEndpoint = s.backendEndpoint

/-- `BackendConnector` with the state `β`; `ω` and `η` are what the world answers to a command and to a
    health check, `κ` what can happen in the background. -/
structure BackendConnector (β ω η κ : Type) where
  protocol : ProtocolKind
  executeOutcome : β → GatewayCommand → SessionState → ExecuteMode → ω → Except GatewayError Outcome × SessionState × β
  /-- A relayed response was read, or its stream is dropped. -/
  finishRelay : β → WireRelay → β
  checkSessionHealth : β → η → Except GatewayError Unit × β
  background : β → κ → β
  /-- A connector runs a command where the session is; it does not move it. -/
  executeOutcome_endpoint : ∀ b command s mode io,
    (executeOutcome b command s mode io).2.1.backendEndpoint = s.backendEndpoint

inductive PluginDecision where
  | proceed
  | reject (code message : String)
  | rewrite (sql : String)
deriving DecidableEq

/-- What the decision point reads when it is asked: policy snapshots, clock and ticket store. -/
structure PdpIo where
  rewriters : Rewriters
  reads : Reads
  clock : Clock
  store : TicketStore

/-- What the world answers while one command is handled. -/
structure CommandIo (ω η : Type) where
  draw : Draw
  /-- The error text of `plugins.evaluate`, or its decision. -/
  plugin : Except String PluginDecision
  pdp : PdpIo
  call : ω
  health : η
  /-- Encoding the answer and writing it to the client. -/
  written : Except GatewayError Unit

/-- The configuration of the service a session belongs to. -/
structure Service where
  name : String
  passthroughEnabled : Bool
  streamMode : ExecuteMode
  /-- `security` is `Some`. -/
  securityEnabled : Bool
  /-- `plugins` is `Some`. -/
  pluginsEnabled : Bool
  routePolicy : Option CoreRoutePolicy
  /-- `prepare_cross_protocol_command` under the translation policy. -/
  translation : Option (GatewayCommand → Except GatewayError GatewayCommand)
  /-- `classify_dangerous_sql` for the frontend's dialect. -/
  classifyDangerousSql : String → Option UnsupportedSqlCapability
  /-- `leading_keyword` of the frontend's dialect. -/
  leadingKeyword : String → Option String
  /-- `extract_object_set` for the frontend's protocol. -/
  extractObjectSet : String → ObjectSet

structure Runtime (φ ι β ω η κ : Type) where
  frontend : FrontendProtocolAdapter φ ι
  backend : BackendConnector β ω η κ
  service : Service

/-- `CoreGatewayConnection`. -/
structure Gateway (φ β : Type) where
  frontend : φ
  backend : β
  session : SessionState
  /-- The rest of a portal whose page was full. -/
  heldPortalStream : Option StreamingQuery
  namedCursors : String → Option NamedCursorHeld

/-- What handling a command does that can be seen from outside. -/
inductive Event where
  /-- `authorize_command_with_objects` was asked. -/
  | authorized (call : Call) (store : TicketStore) (command : GatewayCommand)
  /-- `execute_outcome` was called. -/
  | executed (command : GatewayCommand) (session : SessionState) (mode : ExecuteMode)
  /-- A response was encoded for the client, under the masks and caps it is owed. -/
  | answered (response : GatewayResponse) (obligations : Option Obligations)
  | rows (messages : List ClientMessage)
  | relayed (packets : List (List UInt8))

/-- The end of a call: its result, the connection, and what happened. -/
structure Handled (γ : Type) where
  result : Except Halt Unit
  gateway : γ
  events : List Event

def Handled.after {γ : Type} (h : Handled γ) (events : List Event) : Handled γ :=
  { h with events := events ++ h.events }

variable {γ : Type}

@[simp] theorem Handled.after_events (h : Handled γ) (events : List Event) :
    (h.after events).events = events ++ h.events := rfl

@[simp] theorem Handled.after_gateway (h : Handled γ) (events : List Event) :
    (h.after events).gateway = h.gateway := rfl

@[simp] theorem Handled.after_result (h : Handled γ) (events : List Event) : (h.after events).result = h.result := rfl

variable {φ ι β ω η κ : Type}

namespace Runtime

/-! ## Answers -/

/-- `encode_response_to_writer`; `obligations` are the deferred ones.  The binary flag applies to one
    response only. -/
def encodeOwed (r : Runtime φ ι β ω η κ) (g : Gateway φ β) (response : GatewayResponse)
    (obligations : Option Obligations) (io : CommandIo ω η) : Handled (Gateway φ β) :=
  match io.written with
  | .error e =>
    ⟨.error (.error e), { g with frontend := r.frontend.encoded g.frontend response }, [.answered response obligations]⟩
  | .ok () =>
    ⟨.ok (),
      { g with
        frontend := r.frontend.encoded g.frontend response
        session := { g.session with preferBinaryResult := false } },
      [.answered response obligations]⟩

def encodeResponse (r : Runtime φ ι β ω η κ) (g : Gateway φ β) (response : GatewayResponse)
    (io : CommandIo ω η) : Handled (Gateway φ β) :=
  r.encodeOwed g response none io

/-- A refusal inside a PostgreSQL extended unit: the rest of the unit is ignored, an open transaction has
    failed. -/
def failUnit (r : Runtime φ ι β ω η κ) (session : SessionState) : SessionState :=
  if r.frontend.protocol = .postgreSql ∧ session.pgExtendedQuery then
    { session with
      pgExtendedError := true
      transactionState := session.transactionState.afterError }
  else session

def rejectUnsupportedCapability (r : Runtime φ ι β ω η κ) (g : Gateway φ β)
    (capability : UnsupportedSqlCapability) (io : CommandIo ω η) : Handled (Gateway φ β) :=
  r.encodeResponse { g with session := r.failUnit g.session }
    (.error "0A000" ("unsupported capability: " ++ capability.asStr)) io

def dangerousCommandCapability (r : Runtime φ ι β ω η κ) (command : GatewayCommand) :
    Option UnsupportedSqlCapability :=
  (sqlText command).bind r.service.classifyDangerousSql

/-! ## Before execution -/

/-- The endpoint of the command: `plan_command` and `apply_route_plan`. -/
def route (r : Runtime φ ι β ω η κ) (command : GatewayCommand) (session : SessionState)
    (io : CommandIo ω η) : Except GatewayError SessionState :=
  match r.service.routePolicy with
  | none => .ok session
  | some policy =>
    match policy.planCommand command session io.draw with
    | .error e => .error e
    | .ok endpoint => .ok (applyRoutePlan endpoint session)

inductive Verdict where
  | halted (h : Halt)
  /-- An error answer; the session is as it stands then. -/
  | refused (response : GatewayResponse) (session : SessionState)
  | admitted (command : GatewayCommand) (obligations : Obligations)

/-- Put another text into a command that carries one: `CommandSummary::rewritten_sql`. -/
def rewrittenSql (sql : String) : GatewayCommand → GatewayCommand
  | .query _ => .query sql
  -- the summary has no parameters
  | .queryParams _ _ => .queryParams sql []
  | .prepare _ => .prepare sql
  | other => other

def pluginStage (r : Runtime φ ι β ω η κ) (command : GatewayCommand) (session : SessionState)
    (io : CommandIo ω η) : Verdict :=
  if r.service.pluginsEnabled then
    match io.plugin with
    | .error text => .halted (.error (.configuration ("plugin evaluate failed: " ++ text)))
    | .ok .proceed => .admitted command .none
    | .ok (.reject code message) => .refused (.error code message) session
    | .ok (.rewrite sql) => .admitted (rewrittenSql sql command) .none
  else .admitted command .none

/-- The translation stage of a cross-protocol service. -/
def translationStage (r : Runtime φ ι β ω η κ) (command : GatewayCommand) (session : SessionState) : Verdict :=
  match r.service.translation with
  | none => .admitted command .none
  | some translate =>
    match translate command with
    | .ok translated => .admitted translated .none
    | .error e => .refused (.error "translation_error" e.text) (r.failUnit session)

/-- The call of the decision point for a command in a session. -/
def pdpCall (r : Runtime φ ι β ω η κ) (command : GatewayCommand) (session : SessionState)
    (io : CommandIo ω η) : Call where
  rewriters := io.pdp.rewriters
  reads := io.pdp.reads
  clock := io.pdp.clock
  subject := Subject.fromProtocolUser session.user session.database
  service := r.service.name
  dialect := r.service.leadingKeyword
  objects := (sqlText command).map r.service.extractObjectSet

/-- What `AllowRewrite` does to the command: a DescribeSql keeps its text. -/
def withRewrite (sql : String) : GatewayCommand → GatewayCommand
  | .query _ => .query sql
  | .queryParams _ parameters => .queryParams sql parameters
  | .prepare _ => .prepare sql
  | other => other

/-- The decision of the security stage, as the engine acts on it. -/
def enforce (command : GatewayCommand) (session : SessionState) : Option SecurityDecision → Verdict
  | none => .halted .panicked
  | some (.allow obligations) => .admitted command obligations
  | some (.allowRewrite sql obligations) => .admitted (withRewrite sql command) obligations
  | some (.requireTicket _ _ message) => .refused (.error "security_require_ticket" message) session
  | some (.deny _ message) => .refused (.error "security_deny" message) session

/-- The security stage, with the question it asked. -/
def securityStage (r : Runtime φ ι β ω η κ) (command : GatewayCommand) (session : SessionState)
    (io : CommandIo ω η) : Verdict × List Event :=
  if r.service.securityEnabled then
    let call := r.pdpCall command session io
    (enforce command session (authorizeCommandWithObjects call command io.pdp.store).1,
      [.authorized call io.pdp.store command])
  else (.admitted command .none, [])

/-- Plugins, translation and security, one after the other. -/
def precheck (r : Runtime φ ι β ω η κ) (command : GatewayCommand) (session : SessionState)
    (io : CommandIo ω η) : Verdict × List Event :=
  match r.pluginStage command session io with
  | .admitted command _ =>
    match r.translationStage command session with
    | .admitted command _ => r.securityStage command session io
    | other => (other, [])
  | other => (other, [])

/-! ## Execution -/

def wantPassthrough (r : Runtime φ ι β ω η κ) (command : GatewayCommand) (obligations : Obligations) : Bool :=
  r.service.passthroughEnabled && (r.frontend.protocol == r.backend.protocol) &&
    !obligations.hasResultObligations &&
    (isRowCommand command || command == .pgBackendSync) && r.service.translation.isNone

def mergedCap : Option Nat → Option Nat → Option Nat
  | some a, some b => some (min a b)
  | none, some b => some b
  | some a, none => some a
  | none, none => none

def execMode (r : Runtime φ ι β ω η κ) (command : GatewayCommand) (obligations : Obligations) : ExecuteMode :=
  if r.wantPassthrough command obligations then .passthrough
  else if r.service.translation.isSome || obligations.hasResultObligations then
    match r.service.streamMode with
    | .streaming windowRows maxRows => .streaming windowRows maxRows
    | _ => ExecuteMode.fromStreamingConfig 256 obligations.maxRows
  else
    match r.service.streamMode with
    | .streaming windowRows maxRows => .streaming windowRows (mergedCap maxRows obligations.maxRows)
    | .materialized =>
      if isRowCommand command then ExecuteMode.fromStreamingConfig 256 obligations.maxRows
      else .materialized
    | .passthrough => .passthrough

/-- A held portal serves this command: the next page of the same Execute. -/
def resumesHeldPortal (g : Gateway φ β) (command : GatewayCommand) : Bool :=
  g.heldPortalStream.isSome && g.session.pgPortalName.isSome && g.session.pgExecuteMaxRows.isSome &&
    g.session.pgExtendedQuery && isRowCommand command

/-- A Bind, Close or Sync invalidated the held portal. -/
def dropInvalidatedPortal (g : Gateway φ β) : Gateway φ β :=
  if g.session.pgDropPortalHold then
    { g with heldPortalStream := none, session := { g.session with pgDropPortalHold := false } }
  else g

/-- The outcome of the command: the held stream, or a call of the backend. -/
def obtainOutcome (r : Runtime φ ι β ω η κ) (g : Gateway φ β) (command : GatewayCommand)
    (mode : ExecuteMode) (io : CommandIo ω η) : Except GatewayError Outcome × Gateway φ β × List Event :=
  let g := dropInvalidatedPortal g
  match g.heldPortalStream, resumesHeldPortal g command with
  | some held, true =>
    (.ok (.streaming held.columns held.windows), { g with heldPortalStream := none }, [])
  | _, _ =>
    let out := r.backend.executeOutcome g.backend command g.session mode io.call
    (out.1, { g with backend := out.2.2, session := out.2.1, heldPortalStream := none },
      [.executed command g.session mode])

/-- The command's frames were relayed, or their place was taken by a re-encoded statement. -/
def isExtendedRelay (command : GatewayCommand) (session : SessionState) : Bool :=
  match command with
  | .queryParams _ _ => true
  | .execute _ _ => true
  | .query _ => session.pgExtendedQuery
  | _ => false

/-- The session after a relayed response; `command` is the command as it was decoded. -/
def relayedSession (command : GatewayCommand) (session : SessionState) (response : Backend.RelayEnd) : SessionState :=
  let session := observeRelay session response
  if command = .pgBackendSync then { session with pgExtendedQuery := false, pgExtTcpHold := false }
  else if isExtendedRelay command session then { session with pgClientExtendedFrames := [] }
  else session

/-- The packets that reach the client: inside a unit, only Sync answers ReadyForQuery. -/
def relayedPackets (command : GatewayCommand) (session : SessionState)
    (packets : List (List UInt8)) : List (List UInt8) :=
  if session.pgExtendedQuery ∧ command ≠ .pgBackendSync then
    packets.filter fun p => p.head? != some 90 && p.head? != some 49 && p.head? != some 50
  else packets

/-- `ExecuteOutcome::WireRelay`. -/
def settleRelay (r : Runtime φ ι β ω η κ) (g : Gateway φ β) (command : GatewayCommand)
    (relay : WireRelay) (io : CommandIo ω η) : Handled (Gateway φ β) :=
  let g := { g with backend := r.backend.finishRelay g.backend relay }
  let events := [.relayed (relayedPackets command g.session relay.response.packets)]
  match relay.response.failed, io.written with
  | some e, _ => ⟨.error (.error e), g, events⟩
  | none, .error e => ⟨.error (.error e), g, events⟩
  | none, .ok () =>
    ⟨.ok (), { g with session := relayedSession command g.session relay.response }, events⟩

/-- The obligations of one page: the client's page size is one more row cap. -/
def pageObligations (obligations : Obligations) (session : SessionState) : Obligations :=
  { obligations with maxRows := mergedCap obligations.maxRows session.pgExecuteMaxRows }

def wantHold (session : SessionState) : Bool :=
  session.pgExecuteMaxRows.isSome && session.pgPortalName.isSome && session.pgExtendedQuery

/-- The session in which a page is written: a resumed stream is at its offset already. -/
def pageSession (session : SessionState) : SessionState :=
  if wantHold session then { session with pgPortalSkipRows := 0 } else session

def pageWriter (r : Runtime φ ι β ω η κ) (g : Gateway φ β) (obligations : Obligations)
    (mode : ExecuteMode) (columns : List Column) : Writer :=
  let page := pageObligations obligations g.session
  let codec := r.frontend.codec g.frontend g.session
    (if page.hasResultObligations then some page else none)
  let columns := codec.header columns
  { columns := columns
    window := windowOf mode
    maxTotal := page.maxRows
    skipRows := (pageSession g.session).pgPortalSkipRows
    holdRemainder := wantHold g.session
    view := codec.view columns
    encodeHeader := codec.encodeHeader
    encodeRow := codec.encodeRow
    extendedQuery := g.session.pgExtendedQuery
    executeMaxRows := g.session.pgExecuteMaxRows }

/-- The connection after a page: the rest is held, or skipped over next time, or the portal is done. -/
def afterPage (g : Gateway φ β) (columns : List Column) (page : LoopEnd) : Gateway φ β :=
  let session := pageSession g.session
  let settled : SessionState × Option StreamingQuery :=
    match page.held with
    | some (leftover, windows) =>
      ({ session with pgPortalSkipRows := 0 }, some ⟨columns, leftover :: windows⟩)
    | none =>
      if page.truncated && session.pgExecuteMaxRows.isSome && session.pgPortalName.isSome then
        ({ session with pgPortalSkipRows := session.pgPortalSkipRows + page.totalRows }, none)
      else if session.pgPortalName.isSome then
        ({ session with pgPortalSkipRows := 0, pgPortalName := none }, none)
      else (session, g.heldPortalStream)
  { g with
    session := { settled.1 with
      preferBinaryResult := false
      pgExecuteMaxRows := none
      resultTruncated := false }
    heldPortalStream := settled.2 }

/-- `ExecuteOutcome::Streaming`. -/
def settleRows (r : Runtime φ ι β ω η κ) (g : Gateway φ β) (obligations : Obligations)
    (mode : ExecuteMode) (columns : List Column) (windows : List (List Row)) (io : CommandIo ω η) :
    Handled (Gateway φ β) :=
  let writer := r.pageWriter g obligations mode columns
  let g := { g with frontend := r.frontend.headerEncoded g.frontend }
  match writer.write windows, io.written with
  | .error (e, messages), _ =>
    ⟨.error (.error e), { g with session := pageSession g.session }, [.rows messages]⟩
  | .ok (_, messages), .error e =>
    ⟨.error (.error e), { g with session := pageSession g.session }, [.rows messages]⟩
  -- the held stream has the columns of the header that was written
  | .ok (page, messages), .ok () => ⟨.ok (), afterPage g writer.columns page, [.rows messages]⟩

/-- `matches!(response, GatewayResponse::Error { .. })`. -/
def isErrorResponse : GatewayResponse → Bool
  | .error _ _ => true
  | _ => false

/-- Cursors that a command ends: COMMIT and ROLLBACK those without WITH HOLD, Quit all. -/
def dropCursors (command : GatewayCommand) (g : Gateway φ β) : Gateway φ β :=
  match command with
  | .quit => { g with namedCursors := fun _ => none }
  | .commit | .rollback =>
    { g with namedCursors := fun name => (g.namedCursors name).filter (·.withHold) }
  | _ => g

/-- A response to be encoded: `ExecuteOutcome::Complete` or an error of the backend. -/
def settleResponse (r : Runtime φ ι β ω η κ) (g : Gateway φ β) (command : GatewayCommand)
    (response : GatewayResponse) (obligations : Option Obligations) (io : CommandIo ω η) : Handled (Gateway φ β) :=
  let session :=
    if isErrorResponse response && r.frontend.protocol == .postgreSql then observeError g.session
    else g.session
  let out := r.encodeOwed { g with session := session } response obligations io
  match out.result with
  | .error _ => out
  | .ok () => { out with gateway := dropCursors command out.gateway }

/-- What the engine does with the outcome; `command` is the command as it was decoded. -/
def settle (r : Runtime φ ι β ω η κ) (g : Gateway φ β) (command : GatewayCommand)
    (obligations : Obligations) (mode : ExecuteMode) (io : CommandIo ω η) :
    Except GatewayError Outcome → Handled (Gateway φ β)
  | .ok (.wireRelay relay) => r.settleRelay g command relay io
  | .ok (.streaming columns windows) => r.settleRows g obligations mode columns windows io
  | .ok (.complete response) =>
    r.settleResponse g command response
      (if obligations.hasResultObligations then some obligations else none) io
  | .error e => r.settleResponse g command (.error "gateway_error" e.text) none io

def execute (r : Runtime φ ι β ω η κ) (g : Gateway φ β) (decoded command : GatewayCommand)
    (obligations : Obligations) (io : CommandIo ω η) : Handled (Gateway φ β) :=
  let mode := r.execMode command obligations
  let out := r.obtainOutcome g command mode io
  (r.settle out.2.1 decoded obligations mode io out.1).after out.2.2

/-! ## Named cursors -/

/-- An error of the cursor surface: an open transaction has failed. -/
def cursorError (r : Runtime φ ι β ω η κ) (g : Gateway φ β) (code message : String)
    (io : CommandIo ω η) : Handled (Gateway φ β) :=
  r.encodeResponse
    { g with session := { g.session with transactionState := g.session.transactionState.afterError } }
    (.error code message) io

def unknownCursor (r : Runtime φ ι β ω η κ) (g : Gateway φ β) (name : String) (io : CommandIo ω η) :
    Handled (Gateway φ β) :=
  r.cursorError g "34000"
    ("cursor \"" ++ name ++ "\" does not exist (process-local; not SQL WITH HOLD)") io

/-- Keep the rows under the cursor's name and answer DECLARE. -/
def openCursor (r : Runtime φ ι β ω η κ) (g : Gateway φ β) (name : String)
    (held : NamedCursorHeld) (io : CommandIo ω η) : Handled (Gateway φ β) :=
  r.encodeResponse { g with namedCursors := Function.update g.namedCursors name (some held) }
    (.commandComplete "DECLARE CURSOR") io

/-- What DECLARE makes of the outcome of its select. -/
def settleDeclare (r : Runtime φ ι β ω η κ) (g : Gateway φ β) (name : String) (withHold : Bool)
    (io : CommandIo ω η) : Except GatewayError Outcome → Handled (Gateway φ β)
  | .error e => ⟨.error (.error e), g, []⟩
  | .ok (.streaming columns windows) =>
    r.openCursor g name ⟨withHold, columns, windows.flatten, false⟩ io
  | .ok (.complete (.resultSet columns rows)) =>
    r.openCursor g name ⟨withHold, columns, rows, false⟩ io
  | .ok (.complete other) => r.encodeResponse g other io
  -- the stream is dropped
  | .ok (.wireRelay relay) =>
    r.encodeResponse { g with backend := r.backend.finishRelay g.backend relay }
      (.error "0A000" "DECLARE cursor cannot use wire passthrough (process-local hold only)") io

/-- The mode in which DECLARE runs its select: no row cap. -/
def declareMode (r : Runtime φ ι β ω η κ) : ExecuteMode :=
  ExecuteMode.fromStreamingConfig (windowOf r.service.streamMode) none

/-- DECLARE: the select goes to the backend at once. -/
def declareCursor (r : Runtime φ ι β ω η κ) (g : Gateway φ β) (name selectSql : String)
    (withHold : Bool) (io : CommandIo ω η) : Handled (Gateway φ β) :=
  match g.namedCursors name with
  | some _ =>
    r.cursorError g "42P03"
      ("cursor \"" ++ name ++ "\" already exists (process-local; not SQL WITH HOLD)") io
  | none =>
    let out := r.backend.executeOutcome g.backend (.query selectSql) g.session r.declareMode io.call
    (r.settleDeclare { g with backend := out.2.2, session := out.2.1 } name withHold io out.1).after
      [.executed (.query selectSql) g.session r.declareMode]

def fetchCursor (r : Runtime φ ι β ω η κ) (g : Gateway φ β) (name : String) (count : Nat)
    (io : CommandIo ω η) : Handled (Gateway φ β) :=
  match g.namedCursors name with
  | none => r.unknownCursor g name io
  | some held =>
    match r.backend.checkSessionHealth g.backend io.health with
    -- the cursor was taken out of the table before the check
    | (.error e, backend) =>
      r.encodeResponse
        { g with
          backend := backend
          namedCursors := Function.update g.namedCursors name none
          session := { g.session with transactionState := .failed } }
        (.error "08006" ("cursor backend connection failed: " ++ e.text)) io
    | (.ok (), backend) =>
      let taken := held.take count
      r.encodeResponse
        { g with
          backend := backend
          namedCursors := Function.update g.namedCursors name (some taken.2) }
        (.taggedResultSet taken.2.columns taken.1 ("FETCH " ++ toString taken.1.length)) io

def closeCursor (r : Runtime φ ι β ω η κ) (g : Gateway φ β) (name : String) (io : CommandIo ω η) :
    Handled (Gateway φ β) :=
  match g.namedCursors name with
  | none => r.unknownCursor g name io
  | some _ =>
    r.encodeResponse { g with namedCursors := Function.update g.namedCursors name none }
      (.commandComplete "CLOSE CURSOR") io

def handleNamedCursorSql (r : Runtime φ ι β ω η κ) (g : Gateway φ β) (io : CommandIo ω η) :
    NamedCursorSql → Handled (Gateway φ β)
  | .declare name selectSql withHold => r.declareCursor g name selectSql withHold io
  | .fetch name count => r.fetchCursor g name count io
  | .close name => r.closeCursor g name io
  | .unsupported verb =>
    r.encodeResponse g
      (.error "0A000" (verb ++
        " is not supported on process-local cursors (forward FETCH only; not backend SQL cursor)")) io

/-- A simple Query that speaks about a named cursor. -/
def cursorSql : GatewayCommand → Option NamedCursorSql
  | .query sql => parseNamedCursorSql sql
  | _ => none

/-! ## Commands and frames -/

/-- The part of the loop body behind routing and cursors. -/
def decideAndExecute (r : Runtime φ ι β ω η κ) (g : Gateway φ β) (command : GatewayCommand)
    (io : CommandIo ω η) : Handled (Gateway φ β) :=
  match r.precheck command g.session io with
  | (.halted h, events) => ⟨.error h, g, events⟩
  | (.refused response session, events) =>
    (r.encodeResponse { g with session := session } response io).after events
  | (.admitted admitted obligations, events) =>
    (r.execute g command admitted obligations io).after events

/-- The loop body of `handle_frame_inner`. -/
def handleCommand (r : Runtime φ ι β ω η κ) (g : Gateway φ β) (command : GatewayCommand)
    (io : CommandIo ω η) : Handled (Gateway φ β) :=
  match r.dangerousCommandCapability command with
  | some capability => r.rejectUnsupportedCapability g capability io
  | none =>
    match r.route command g.session io with
    | .error e => ⟨.error (.error e), g, []⟩
    | .ok session =>
      match cursorSql command with
      | some kind => r.handleNamedCursorSql { g with session := session } io kind
      | none => r.decideAndExecute { g with session := session } command io

/-- The loop over the commands of a frame; the `i`-th command gets the `i`-th answers. -/
def handleCommands (r : Runtime φ ι β ω η κ) :
    Gateway φ β → List GatewayCommand → (Nat → CommandIo ω η) → Handled (Gateway φ β)
  | g, [], _ => ⟨.ok (), g, []⟩
  | g, command :: rest, io =>
    let out := r.handleCommand g command (io 0)
    match out.result with
    | .error h => ⟨.error h, out.gateway, out.events⟩
    | .ok () => (r.handleCommands out.gateway rest fun i => io (i + 1)).after out.events

/-- `handle_frame_inner`. -/
def handleFrame (r : Runtime φ ι β ω η κ) (g : Gateway φ β) (frame : ι) (io : Nat → CommandIo ω η) :
    Handled (Gateway φ β) :=
  let out := r.frontend.decode g.frontend frame g.session
  let g := { g with frontend := out.2.2, session := out.2.1 }
  match out.1 with
  | .ok commands => r.handleCommands g commands io
  | .error (.error (.unsupported code)) =>
    match UnsupportedSqlCapability.fromCode code with
    | some capability => r.rejectUnsupportedCapability g capability (io 0)
    | none => ⟨.error (.error (.unsupported code)), g, []⟩
  | .error h => ⟨.error h, g, []⟩

/-! ## The session loop -/

/-- Parse, Bind, Describe, Execute, Close, Flush and Sync. -/
def isExtendedTag (tag : UInt8) : Bool := [80, 66, 68, 69, 67, 72, 83].contains tag

/-- `postgresql_extended_error_packet`: the errors that a PostgreSQL session survives. -/
def survives (tag : UInt8) (session : SessionState) : GatewayError → Bool
  | .protocol _ => session.pgExtendedQuery || isExtendedTag tag
  | .unsupported _ => session.pgExtendedQuery || isExtendedTag tag
  | _ => false

/-- The session that goes on after such an error. -/
def erredSession (session : SessionState) : SessionState :=
  { session with
    pgExtendedQuery := true
    pgExtendedError := true
    transactionState := session.transactionState.afterError }

/-- How `run_postgresql_core_session` and its MySQL sibling go on after a frame: the connection, or
    `none` when the socket is closed. -/
def afterFrame (r : Runtime φ ι β ω η κ) (frame : ι) (out : Handled (Gateway φ β)) : Option (Gateway φ β) :=
  match out.result, r.frontend.protocol with
  | .ok (), _ => if r.frontend.terminates frame then none else some out.gateway
  | .error .panicked, _ => none
  | .error (.error e), .postgreSql =>
    if survives (r.frontend.tag frame) out.gateway.session e then
      some { out.gateway with session := erredSession out.gateway.session }
    else none
  | .error (.error _), .mySql => some out.gateway

inductive Act (ι ω η κ : Type) where
  | frame (frame : ι) (io : Nat → CommandIo ω η)
  | background (k : κ)

/-- One step of a session; `none` is a closed one. -/
def step (r : Runtime φ ι β ω η κ) (g : Option (Gateway φ β)) (a : Act ι ω η κ) : List Event × Option (Gateway φ β) :=
  match g, a with
  | none, _ => ([], none)
  | some g, .background k => ([], some { g with backend := r.backend.background g.backend k })
  | some g, .frame frame io =>
    let out := r.handleFrame g frame io
    (out.events, r.afterFrame frame out)

end Runtime

def Gateway.start (frontend : φ) (backend : β) (session : SessionState) : Gateway φ β where
  frontend := frontend
  backend := backend
  session := session
  heldPortalStream := none
  namedCursors := fun _ => none

end DataNexus.Engine
