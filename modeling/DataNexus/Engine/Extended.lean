/-
  Is every message of the extended protocol answered as the protocol asks?

  1. **The replies** (`frameReplies`) — the encoded answers, the rows, and the ErrorResponse of the session loop.

  2. **The property** (`Replied`) — one answer of the right kind for each message, a ReadyForQuery for a Sync only; or an
     ErrorResponse.  RowDescription and DataRow have as many fields as the text has columns.

  3. **The condition** (`Orderly`) — it goes wrong with a relayed unit, an Execute of a FETCH, a watermark column or a
     changed select list behind a description, a failing Describe or Close that opens a unit, and a refused Sync.
-/
import DataNexus.Backend.Answers
import DataNexus.Engine.MySql
import DataNexus.Engine.Portals
import DataNexus.Frontend.Replies

namespace DataNexus.Engine

open DataNexus.Frontend DataNexus.Backend DataNexus.Pdp DataNexus.Tickets DataNexus.Stream DataNexus.Run

variable {β ω η κ : Type}

/-! ## What the connectors answer -/

/-- What the answers of a connector are made of: columns for rows and for a Describe, and acknowledgements. -/
structure Answering (backend : BackendConnector β ω η κ) where
  gives : ω → List Column → Prop
  acks : ω → GatewayResponse → Prop
  tells : ω → List Column → Prop
  statement : ∀ b command session window cap io, isRowCommand command = true → StatementAnswer (gives io) (acks io)
      (backend.executeOutcome b command session (.streaming window cap) io).1
  describe : ∀ b sql session mode io,
    DescribeAnswer (tells io) (backend.executeOutcome b (.describeSql sql) session mode io).1
  wire : ∀ b packets session mode io,
    (backend.executeOutcome b (.clientWire packets) session mode io).1 = .ok (.complete (.wire packets))
  extended : ∀ b command session mode io,
    (backend.executeOutcome b command session mode io).2.1.pgExtendedQuery = session.pgExtendedQuery
  /-- The server's packets, when the frames of the unit are taken by a relay. -/
  relays : β → SessionState → ω → Option RelayEnd
  relayed : ∀ b command session io response, isRowCommand command = true → relays b session io = some response →
      ∃ relay, (backend.executeOutcome b command session .passthrough io).1 = .ok (.wireRelay relay) ∧
        relay.response = response
  /-- The server's packets, when a held relay session gets the Sync. -/
  syncs : β → ω → Option RelayEnd
  synced : ∀ b session mode io response, syncs b io = some response →
    ∃ relay, (backend.executeOutcome b .pgBackendSync session mode io).1 = .ok (.wireRelay relay) ∧
      relay.response = response

/-- The frames of a unit go to a relay session, and this is what comes back. -/
def unitRelayed (c : Connector) (session : SessionState) (io : CallIo) : Option RelayEnd :=
  match selectEndpoint c session with
  | .error _ => none
  | .ok endpoint =>
    match (executeClientExtendedFramesTcpRelay c endpoint session (c.inTxn session) io.frames).1 with
    | .ok (.wireRelay relay) => some relay.response
    | _ => none

/-- The Sync goes to the held relay session, and this is what comes back. -/
def heldSynced (c : Connector) (io : CallIo) : Option RelayEnd :=
  match c.tcpExtHold, io.relay.write with
  | some _, .ok () => some io.relay.response
  | _, _ => none

theorem unitRelayed_outcome {c : Connector} {command : GatewayCommand} {session : SessionState} {io : CallIo}
    {response : RelayEnd} (hrow : isRowCommand command = true) (h : unitRelayed c session io = some response) :
    ∃ relay, (executeOutcome c command session .passthrough io).1 = .ok (.wireRelay relay) ∧
      relay.response = response := by
  unfold unitRelayed at h
  have hframes : session.pgClientExtendedFrames.isEmpty = false := by
    cases hempty : session.pgClientExtendedFrames.isEmpty with
    | false => rfl
    | true =>
      have hnone : ∀ endpoint, (executeClientExtendedFramesTcpRelay c endpoint session (c.inTxn session)
          io.frames).1 = .error (.backend "pg client extended frames empty") := by
        intro endpoint
        unfold executeClientExtendedFramesTcpRelay
        rw [if_pos hempty]
      split at h
      · cases h
      · rw [hnone] at h
        cases h
  unfold executeOutcome
  split
  · cases hrow
  · rw [hrow, if_neg (show ¬(!true) = true from Bool.false_ne_true)]
    dsimp only [ExecuteMode.promoteRowStream]
    rw [hframes, if_neg Bool.false_ne_true]
    cases hendpoint : selectEndpoint c session with
    | error e =>
      rw [hendpoint] at h
      cases h
    | ok endpoint =>
      rw [hendpoint] at h
      dsimp only at h
      rcases hout : executeClientExtendedFramesTcpRelay c endpoint session (c.inTxn session) io.frames with
        ⟨outcome, session', c'⟩
      rw [hout] at h
      dsimp only
      rw [hout]
      rcases outcome with e | (response | ⟨columns, windows⟩ | relay)
      · cases h
      · cases h
      · cases h
      · cases h
        exact ⟨relay, rfl, rfl⟩

def postgreSqlAnswering : Answering postgreSqlConnector where
  gives io := io.pool.Gives
  acks io := io.pool.Acks
  tells io := io.pool.Tells
  statement c command session window cap io := statementAnswer_postgreSql c session window cap io
  describe c sql session mode io := describeAnswer_postgreSql c sql session mode io
  wire c packets session mode io := rfl
  extended c command session mode io := by
    obtain ⟨database, state, frames, hold, h⟩ := executeOutcome_touches c command session mode io
    show (executeOutcome c command session mode io).2.1.pgExtendedQuery = _
    rw [h]
  relays := unitRelayed
  relayed c command session io response hrow h := unitRelayed_outcome hrow h
  syncs := heldSynced
  synced c session mode io response h := by
    show ∃ relay, (executePgBackendSync c session io.relay).1 = _ ∧ _
    unfold heldSynced at h
    unfold executePgBackendSync
    cases hhold : c.tcpExtHold with
    | none =>
      rw [hhold] at h
      cases h
    | some conn =>
      rw [hhold] at h
      cases hwrite : io.relay.write with
      | error e =>
        rw [hwrite] at h
        cases h
      | ok u =>
        rw [hwrite] at h
        cases h
        dsimp only [withSession]
        unfold relayInto
        rw [hwrite]
        exact ⟨_, rfl, rfl⟩

/-- A translation changes texts and parameters, not the kind of a command. -/
structure TranslatesTexts (service : Service) : Prop where
  wire : ∀ translate packets command, service.translation = some translate →
    translate (.clientWire packets) = .ok command → command = .clientWire packets
  describe : ∀ translate sql command, service.translation = some translate →
    translate (.describeSql sql) = .ok command → ∃ sql', command = .describeSql sql'
  sync : ∀ translate command, service.translation = some translate →
    translate .pgBackendSync = .ok command → command = .pgBackendSync
  rows : ∀ translate command command', service.translation = some translate →
    translate command = .ok command' → isRowCommand command = true → isRowCommand command' = true

/-! ## The replies -/

/-- `PostgreSqlFrontendProtocol` as a writer of rows. -/
def pgCodec (display : Display) (binary : BinaryEncoder) (p : PostgreSqlFrontend) (session : SessionState)
    (owed : Option Obligations) : RowCodec where
  header := fun columns => streamColumns display columns (owed.getD .none)
  view := fun columns => streamRow display columns (owed.getD .none)
  encodeHeader := encodeResultsetHeader p
  encodeRow := if session.preferBinaryResult then encodePgResultsetRowBinary binary else encodePgResultsetRow display

def extendedRuntime (d : Dialect) (display : Display) (binary : BinaryEncoder)
    (backend : BackendConnector β ω η κ) (service : Service) : Runtime PostgreSqlFrontend RawFrame β ω η κ :=
  ⟨postgreSqlAdapter (describing d) (pgCodec display binary), backend, service⟩

def owedResponse (display : Display) (response : GatewayResponse) : Option Obligations → GatewayResponse
  | some owed => applyObligationsToResponse display response owed
  | none => response

/-- What the client gets of an event.  Header suppression and extended mode are those that the decoder left. -/
def eventReplies (display : Display) (p : PostgreSqlFrontend) (session : SessionState) : Event → List ClientReply
  | .authorized _ _ _ => []
  | .executed _ _ _ => []
  | .answered response owed => encodeReplies p session (owedResponse display response owed)
  | .rows messages => messages.map messageReply
  | .relayed packets => packets.map packetReply

/-- The ErrorResponse that the session loop writes after an error. -/
def loopReplies (tag : UInt8) (session : SessionState) : Except Halt Unit → List ClientReply
  | .error (.error e) => if Runtime.survives tag session e then [.errorResponse] else []
  | _ => []

section Replies

variable (d : Dialect) (display : Display) (binary : BinaryEncoder) (backend : BackendConnector β ω η κ)
  (service : Service)

def frameReplies (g : Gateway PostgreSqlFrontend β) (frame : RawFrame) (io : Nat → CommandIo ω η) :
    List ClientReply :=
  let r := extendedRuntime d display binary backend service
  let out := r.handleFrame g frame io
  out.events.flatMap (eventReplies display (r.decoded g frame).frontend (r.decoded g frame).session) ++
    loopReplies frame.tag out.gateway.session out.result

/-! ## The property -/

/-- The answer to a Describe; a description has the columns of the text that is described. -/
def Describes (arity : String → Nat) (p : PostgreSqlFrontend) (target : DescribeTarget) (name : String) :
    ClientReply → Prop
  | .noData => True
  | .rowDescription fields => ∃ sql, describedSql p target name = some sql ∧ fields = arity sql
  | _ => False

def RowsOf (arity : String → Nat) (p : PostgreSqlFrontend) (portal : String) (replies : List ClientReply) : Prop :=
  replies = [] ∨ ∃ sql n, p.portals portal = some sql ∧ replies = List.replicate n (.dataRow (arity sql))

/-- The replies to a message, as the protocol asks; `p` is the adapter before it. -/
def Conforms (arity : String → Nat) (p : PostgreSqlFrontend) : FrontendMessage → List ClientReply → Prop
  | .parse _ _, replies => replies = [.parseComplete]
  | .bind _ _ _ _, replies => replies = [.bindComplete]
  | .describe .statement name, replies =>
    ∃ answer, Describes arity p .statement name answer ∧ replies = [.parameterDescription, answer]
  | .describe .portal name, replies => ∃ answer, Describes arity p .portal name answer ∧ replies = [answer]
  | .execute portal _, replies =>
    ∃ rows ending, RowsOf arity p portal rows ∧ (ending = .commandComplete ∨ ending = .portalSuspended) ∧
      replies = rows ++ [ending]
  | .close _ _, replies => replies = [.closeComplete]
  | .sync, replies => replies = [.readyForQuery]
  | .flush, replies => replies = []
  -- these two are no messages of the extended protocol
  | .query _, _ => True
  | .terminate, _ => True

def Begun (arity : String → Nat) (p : PostgreSqlFrontend) : FrontendMessage → List ClientReply → Prop
  | .execute portal _, replies => RowsOf arity p portal replies
  | _, replies => replies = []

/-- A message is answered as the protocol asks, or with one ErrorResponse, or the connection is closed. -/
def Replied (arity : String → Nat) (p : PostgreSqlFrontend) (message : FrontendMessage) (closed : Prop)
    (replies : List ClientReply) : Prop :=
  Conforms arity p message replies ∨
    (message ≠ .sync ∧ ∃ rows, Begun arity p message rows ∧ replies = rows ++ [.errorResponse]) ∨
    (closed ∧ Begun arity p message replies)

/-- **Every message is answered once.**  What follows an error is ignored up to the Sync. -/
def RepliesConform (arity : String → Nat) (s : Option (Gateway PostgreSqlFrontend β))
    (a : Runtime.Act RawFrame ω η κ) : Prop :=
  match s, a with
  | some g, .frame frame io =>
    ∀ f, readFrame frame = some f →
      if g.session.pgExtendedError && !endsIgnoring f.message then
        frameReplies d display binary backend service g frame io = []
      else
        Replied arity g.frontend f.message ((extendedRuntime d display binary backend service).afterFrame frame
            ((extendedRuntime d display binary backend service).handleFrame g frame io) = none)
          (frameReplies d display binary backend service g frame io)
  | _, _ => True

/-! ## The condition -/

/-- What a unit gets of relayed packets: its ParseComplete and BindComplete were sent before, and only a Sync is
    answered with ReadyForQuery. -/
def unitReplies (packets : List (List UInt8)) : List ClientReply :=
  (packets.map packetReply).filter fun reply =>
    reply != .readyForQuery && reply != .parseComplete && reply != .bindComplete

def isAck : GatewayResponse → Bool
  | .ok _ _ => true
  | .commandComplete _ => true
  | .error _ _ => true
  | _ => false

def succeeds : Except GatewayError Outcome → Bool
  | .error _ => false
  | .ok (.complete (.error _ _)) => false
  | _ => true

/-- The unit was begun by a Parse, Bind or Execute; or the message is let through and has no error. -/
def Opened (g : Gateway PostgreSqlFrontend β) (frame : RawFrame) (io : Nat → CommandIo ω η) : Prop :=
  g.session.pgExtendedQuery = true ∨
    ∃ x, (extendedRuntime d display binary backend service).granted g frame io = some x ∧
      succeeds ((extendedRuntime d display binary backend service).obtained
        ((extendedRuntime d display binary backend service).decoded g frame) x (io 0)).1 = true

variable {backend}

def InOrder (w : Answering backend) (arity : String → Nat) (g : Gateway PostgreSqlFrontend β) (frame : RawFrame)
    (io : Nat → CommandIo ω η) : FrontendMessage → Prop
  | .parse _ query =>
    -- the select list is read as the server reads it
    ∀ columns, d.inferSelectResultColumns query = some columns → columns.length = arity query
  | .describe target name =>
    Opened d display binary backend service g frame io ∧
      ∀ sql columns, describedSql g.frontend target name = some sql → w.tells (io 0).call columns →
        columns.length = arity sql
  | .close _ _ => Opened d display binary backend service g frame io
  | .execute portal _ =>
    -- no FETCH of an open cursor
    (∀ command ∈ (extendedRuntime d display binary backend service).commandsOf g frame, ∀ name count,
      Runtime.cursorSql command = some (.fetch name count) → g.namedCursors name = none ∨
        ∃ e, (backend.checkSessionHealth g.backend (io 0).health).1 = .error e) ∧
    (∀ response, w.acks (io 0).call response → isAck response = true) ∧
    ∀ x, (extendedRuntime d display binary backend service).granted g frame io = some x →
      if !Runtime.resumes ((extendedRuntime d display binary backend service).decoded g frame) x &&
          ((extendedRuntime d display binary backend service).execMode x.command x.obligations).isPassthrough then
        -- the frames are relayed, and the server sends no description: it refuses the unit, or the Execute goes
        -- to a unit that is held; to a new unit with a Bind the relay adds a Describe
        ∃ response sql n ending,
          w.relays g.backend { x.session with pgDropPortalHold := false } (io 0).call = some response ∧
            response.failed = none ∧ g.frontend.portals portal = some sql ∧
            ending ∈ [ClientReply.commandComplete, .portalSuspended, .errorResponse] ∧
            unitReplies response.packets = List.replicate n (.dataRow (arity sql)) ++ [ending]
      else
        -- the rows that come, or that are held, have the columns of the portal's text; no watermark is added
        ∀ sql columns, g.frontend.portals portal = some sql →
          (w.gives (io 0).call columns ∨ ∃ q, g.heldPortalStream = some q ∧ q.columns = columns) →
          (streamColumns display columns x.obligations).length = arity sql
  | .sync =>
    (extendedRuntime d display binary backend service).granted g frame io ≠ none ∧
      -- a held relay session is there, and answers the Sync
      (g.session.pgExtTcpHold = true → ∃ response, w.syncs g.backend (io 0).call = some response ∧
        response.failed = none ∧ response.packets.map packetReply = [.readyForQuery])
  | .bind _ _ _ _ => True
  | .flush => True
  -- no messages of the extended protocol
  | .query _ => False
  | .terminate => False

/-- The client's socket takes what is written, and the message is one of the extended protocol that does not go
    wrong. -/
def Orderly (w : Answering backend) (arity : String → Nat) (s : Option (Gateway PostgreSqlFrontend β))
    (a : Runtime.Act RawFrame ω η κ) : Prop :=
  match s, a with
  | some g, .frame frame io =>
    (io 0).written = .ok () ∧
      ∀ f, readFrame frame = some f → (g.session.pgExtendedError && !endsIgnoring f.message) = false →
        InOrder d display binary service w arity g frame io f.message
  | _, _ => True

end Replies

/-! ## One command -/

/-- The adapter keeps the texts and the columns. -/
structure SameTables (p p' : PostgreSqlFrontend) : Prop where
  prepared : p'.prepared = p.prepared
  preparedColumns : p'.preparedColumns = p.preparedColumns
  portals : p'.portals = p.portals
  portalColumns : p'.portalColumns = p.portalColumns

theorem SameTables.refl (p : PostgreSqlFrontend) : SameTables p p := ⟨rfl, rfl, rfl, rfl⟩

theorem SameTables.known {arity : String → Nat} {p p' : PostgreSqlFrontend} (h : SameTables p p')
    (hknown : Known arity p) : Known arity p' :=
  hknown.congr h.prepared h.preparedColumns h.portals h.portalColumns

theorem sameTables_encoded (p : PostgreSqlFrontend) {response : GatewayResponse}
    (h : ∀ columns, response ≠ .rowDescription columns) : SameTables p (encoded p response) := by
  cases response with
  | rowDescription columns => exact absurd rfl (h columns)
  | resultSet columns rows => exact ⟨rfl, rfl, rfl, rfl⟩
  | _ => exact .refl p

/-- How the handling of a command ends for the client of the adapter `p`: its replies and its result. -/
structure Sends (display : Display) (p : PostgreSqlFrontend) (session : SessionState)
    (out : Handled (Gateway PostgreSqlFrontend β)) (replies : List ClientReply) (result : Except Halt Unit) :
    Prop where
  replies : out.events.flatMap (eventReplies display p session) = replies
  result : out.result = result
  tables : SameTables p out.gateway.frontend

/-- One ErrorResponse inside a unit, or nothing and a halt. -/
def Fails (display : Display) (p : PostgreSqlFrontend) (session : SessionState)
    (out : Handled (Gateway PostgreSqlFrontend β)) : Prop :=
  Sends display p session out [.errorResponse] (.ok ()) ∨ ∃ halt, Sends display p session out [] (.error halt)

/-- What the runtime of the extended protocol is built from. -/
structure Setup (β ω η κ : Type) where
  d : Dialect
  display : Display
  binary : BinaryEncoder
  backend : BackendConnector β ω η κ
  service : Service

abbrev Setup.runtime (t : Setup β ω η κ) := extendedRuntime t.d t.display t.binary t.backend t.service

abbrev Setup.Opened (t : Setup β ω η κ) := Engine.Opened t.d t.display t.binary t.backend t.service

section Commands

variable (d : Dialect) (display : Display) (binary : BinaryEncoder) (backend : BackendConnector β ω η κ)
  (service : Service) (t : Setup β ω η κ)

theorem silent_replies (p : PostgreSqlFrontend) (session : SessionState) {events : List Event}
    (h : ∀ event ∈ events, Runtime.Event.silent event = true) :
    events.flatMap (eventReplies display p session) = [] := by
  refine List.flatMap_eq_nil_iff.mpr fun event hevent => ?_
  have hsilent := h event hevent
  cases event with
  | authorized call store command => rfl
  | executed command session mode => rfl
  | _ => cases hsilent

variable {p : PostgreSqlFrontend} {g : Gateway PostgreSqlFrontend β} {w : Writer} {o : Obligations} {x : Granted}

theorem Sends.after {session : SessionState} {out : Handled (Gateway PostgreSqlFrontend β)}
    {replies : List ClientReply} {result : Except Halt Unit} (h : Sends display p session out replies result)
    {events : List Event} (hevents : ∀ event ∈ events, Runtime.Event.silent event = true) :
    Sends display p session (out.after events) replies result := by
  refine ⟨?_, h.result, h.tables⟩
  show (events ++ out.events).flatMap _ = replies
  rw [List.flatMap_append, silent_replies display p session hevents, h.replies, List.nil_append]

theorem Fails.after {session : SessionState} {out : Handled (Gateway PostgreSqlFrontend β)}
    (h : Fails display p session out) {events : List Event}
    (hevents : ∀ event ∈ events, Runtime.Event.silent event = true) : Fails display p session (out.after events) := by
  rcases h with h | ⟨halt, h⟩
  · exact .inl (h.after display hevents)
  · exact .inr ⟨halt, h.after display hevents⟩

theorem fails_halt (g : Gateway PostgreSqlFrontend β) (halt : Halt) (session : SessionState) :
    Fails display g.frontend session (⟨.error halt, g, []⟩ : Handled (Gateway PostgreSqlFrontend β)) :=
  .inr ⟨halt, rfl, rfl, .refl _⟩

theorem sends_encodeOwed {response : GatewayResponse} (hcolumns : ∀ columns, response ≠ .rowDescription columns)
    (owed : Option Obligations) {io : CommandIo ω η} (hwritten : io.written = .ok ()) {session : SessionState} :
    Sends t.display g.frontend session (t.runtime.encodeOwed g response owed io)
      (encodeReplies g.frontend session (owedResponse t.display response owed)) (.ok ()) := by
  unfold Runtime.encodeOwed
  rw [hwritten]
  exact ⟨List.append_nil _, rfl, sameTables_encoded g.frontend hcolumns⟩

theorem sends_encodeResponse (hfrontend : g.frontend = p) (response : GatewayResponse)
    (hcolumns : ∀ columns, response ≠ .rowDescription columns) (session : SessionState) {io : CommandIo ω η}
    (hwritten : io.written = .ok ()) :
    Sends t.display p session (t.runtime.encodeResponse g response io)
      (encodeReplies p session response) (.ok ()) := by
  subst hfrontend
  exact sends_encodeOwed t hcolumns none hwritten

theorem errorReplies {session : SessionState} (h : session.pgExtendedQuery = true) (p : PostgreSqlFrontend)
    (code message : String) : encodeReplies p session (.error code message) = [.errorResponse] := by
  show .errorResponse :: readyReply session = _
  unfold readyReply
  rw [if_pos h]

theorem fails_error (g : Gateway PostgreSqlFrontend β) (hfrontend : g.frontend = p) {session : SessionState}
    (hunit : session.pgExtendedQuery = true) (response : GatewayResponse)
    (herror : Runtime.isErrorResponse response = true) {io : CommandIo ω η} (hwritten : io.written = .ok ()) :
    Fails t.display p session (t.runtime.encodeResponse g response io) := by
  cases response with
  | error code message =>
    have hsends := sends_encodeResponse t hfrontend (.error code message) (fun _ h => by cases h) session hwritten
    rw [errorReplies hunit] at hsends
    exact .inl hsends
  | _ => cases herror

/-- **A command that is refused** inside a unit. -/
theorem fails_refused {command : GatewayCommand} {io : CommandIo ω η} (hwritten : io.written = .ok ())
    (hunit : g.session.pgExtendedQuery = true) (hrefused : t.runtime.grantedCommand g command io = none)
    (hcursor : Runtime.cursorSql command = none) : Fails t.display g.frontend g.session
      (t.runtime.handleCommand g command io) := by
  unfold Runtime.grantedCommand at hrefused
  unfold Runtime.handleCommand
  cases hdanger : t.runtime.dangerousCommandCapability command with
  | some capability =>
    exact fails_error t
      { g with session := t.runtime.failUnit g.session } rfl hunit
      (.error "0A000" ("unsupported capability: " ++ capability.asStr)) rfl hwritten
  | none =>
    rw [hdanger] at hrefused
    dsimp only
    rcases hroute : t.runtime.route command g.session io with e | session
    · exact fails_halt t.display g (.error e) g.session
    · rw [hroute, hcursor] at hrefused
      rw [hcursor]
      dsimp only at hrefused ⊢
      unfold Runtime.decideAndExecute
      dsimp only
      have hquiet := t.runtime.silent_precheck command session io
      rcases hcheck : t.runtime.precheck command session io with
        ⟨halt | ⟨response, session'⟩ | ⟨handed, obligations⟩, asked⟩
      · rw [hcheck] at hquiet
        exact .inr ⟨halt, silent_replies t.display _ _ hquiet, rfl, .refl _⟩
      · rw [hcheck] at hquiet
        have herror := (t.runtime.precheck_refused hcheck).1
        have hfails := fails_error t { g with session := session' } rfl hunit response herror hwritten
        exact hfails.after t.display hquiet
      · rw [hcheck] at hrefused
        cases hrefused

/-! ## Named cursors -/

def Completes (display : Display) (p : PostgreSqlFrontend) (session : SessionState)
    (out : Handled (Gateway PostgreSqlFrontend β)) : Prop :=
  Sends display p session out [.commandComplete] (.ok ()) ∨ Fails display p session out

theorem Completes.after {session : SessionState} {out : Handled (Gateway PostgreSqlFrontend β)}
    (h : Completes display p session out) {events : List Event}
    (hevents : ∀ event ∈ events, Runtime.Event.silent event = true) :
    Completes display p session (out.after events) :=
  h.imp (·.after display hevents) (·.after display hevents)

theorem ackReplies {session : SessionState} (h : session.pgExtendedQuery = true) (p : PostgreSqlFrontend)
    {response : GatewayResponse} (hack : isAck response = true) :
    encodeReplies p session response = [.commandComplete] ∨ encodeReplies p session response = [.errorResponse] := by
  have hready : readyReply session = [] := if_pos h
  cases response with
  | ok n i => exact .inl (congrArg (ClientReply.commandComplete :: ·) hready)
  | commandComplete tag => exact .inl (congrArg (ClientReply.commandComplete :: ·) hready)
  | error code message => exact .inr (congrArg (ClientReply.errorResponse :: ·) hready)
  | _ => cases hack

theorem completes_ack (g : Gateway PostgreSqlFrontend β) (hfrontend : g.frontend = p) {session : SessionState}
    (hunit : session.pgExtendedQuery = true) (response : GatewayResponse) (hack : isAck response = true)
    {io : CommandIo ω η} (hwritten : io.written = .ok ()) : Completes t.display p session
      (t.runtime.encodeResponse g response io) := by
  have hsends := sends_encodeResponse t hfrontend response (fun _ h => by rw [h] at hack; cases hack) session hwritten
  rcases ackReplies hunit p hack with h | h
  · rw [h] at hsends
    exact .inl hsends
  · rw [h] at hsends
    exact .inr (.inl hsends)

theorem completes_settleDeclare (g : Gateway PostgreSqlFrontend β) (hfrontend : g.frontend = p)
    {session : SessionState} (hunit : session.pgExtendedQuery = true) (name : String) (withHold : Bool)
    {io : CommandIo ω η} (hwritten : io.written = .ok ()) {gives : List Column → Prop}
    {acks : GatewayResponse → Prop} (hacks : ∀ response, acks response → isAck response = true)
    {outcome : Except GatewayError Outcome} (h : StatementAnswer gives acks outcome) : Completes t.display p session
      (t.runtime.settleDeclare g name withHold io outcome) := by
  have hopen : ∀ held, Completes t.display p session (t.runtime.openCursor g name held io) := by
    intro held
    exact completes_ack t
      { g with namedCursors := Function.update g.namedCursors name (some held) } hfrontend hunit
      (.commandComplete "DECLARE CURSOR") rfl hwritten
  rcases outcome with e | (response | ⟨columns, windows⟩ | relay)
  · subst hfrontend
    exact .inr (fails_halt t.display g (.error e) session)
  · have hanswer : (∃ columns rows, response = .resultSet columns rows) ∨ isAck response = true := by
      rcases h with hdone | hack
      · cases response with
        | resultSet columns rows => exact .inl ⟨columns, rows, rfl⟩
        | ok n i => exact .inr rfl
        | error code message => exact .inr rfl
        | _ => cases hdone
      · exact .inr (hacks response hack)
    rcases hanswer with ⟨columns, rows, rfl⟩ | hack
    · exact hopen ⟨withHold, columns, rows, false⟩
    · have hencoded := completes_ack t g hfrontend hunit response hack hwritten
      cases response with
      | resultSet columns rows => cases hack
      | _ => exact hencoded
  · exact hopen ⟨withHold, columns, windows.flatten, false⟩
  · cases h

/-- **A statement about a named cursor** inside a unit, but for a FETCH of rows. -/
theorem completes_namedCursor (w : Answering t.backend) (g : Gateway PostgreSqlFrontend β)
    (hfrontend : g.frontend = p) {session : SessionState} (hunit : session.pgExtendedQuery = true)
    {io : CommandIo ω η} (hwritten : io.written = .ok ())
    (hacks : ∀ response, w.acks io.call response → isAck response = true) (kind : NamedCursorSql)
    (hfetch : ∀ name count, kind = .fetch name count → g.namedCursors name = none ∨
      ∃ e, (t.backend.checkSessionHealth g.backend io.health).1 = .error e) : Completes t.display p session
      (t.runtime.handleNamedCursorSql g io kind) := by
  have herror : ∀ code message, Completes t.display p session (t.runtime.cursorError g code message io) := by
    intro code message
    exact .inr (fails_error t
      { g with session := { g.session with transactionState := g.session.transactionState.afterError } } hfrontend hunit
      (.error code message) rfl hwritten)
  cases kind with
  | declare name selectSql withHold =>
    show Completes t.display p session (t.runtime.declareCursor g name selectSql withHold io)
    unfold Runtime.declareCursor
    cases g.namedCursors name with
    | some held => exact herror _ _
    | none =>
      have hanswer := w.statement g.backend (.query selectSql) g.session
        (max (windowOf t.service.streamMode) 1) none io.call rfl
      have hsettled := completes_settleDeclare t
        { g with
          backend := (t.backend.executeOutcome g.backend (.query selectSql) g.session
            (.streaming (max (windowOf t.service.streamMode) 1) none) io.call).2.2
          session := (t.backend.executeOutcome g.backend (.query selectSql) g.session
            (.streaming (max (windowOf t.service.streamMode) 1) none) io.call).2.1 } hfrontend hunit name withHold hwritten
        hacks hanswer
      refine hsettled.after t.display fun event hevent => ?_
      rw [List.mem_singleton.mp hevent]
      rfl
  | fetch name count =>
    show Completes t.display p session (t.runtime.fetchCursor g name count io)
    unfold Runtime.fetchCursor
    rcases hfetch name count rfl with hnone | ⟨e, hsick⟩
    · rw [hnone]
      exact herror _ _
    · cases g.namedCursors name with
      | none => exact herror _ _
      | some held =>
        dsimp only
        have hsick' : (t.runtime.backend.checkSessionHealth g.backend io.health).1 = .error e := hsick
        rcases hhealth : t.runtime.backend.checkSessionHealth g.backend io.health with ⟨answer, backend'⟩
        rw [hhealth] at hsick'
        obtain rfl : answer = .error e := hsick'
        exact .inr (fails_error t
          { g with
            backend := backend'
            namedCursors := Function.update g.namedCursors name none
            session := { g.session with transactionState := .failed } } hfrontend hunit
          (.error "08006" ("cursor backend connection failed: " ++ e.text)) rfl hwritten)
  | close name =>
    show Completes t.display p session (t.runtime.closeCursor g name io)
    unfold Runtime.closeCursor
    cases g.namedCursors name with
    | none => exact herror _ _
    | some held =>
      exact completes_ack t
        { g with namedCursors := Function.update g.namedCursors name none } hfrontend hunit
        (.commandComplete "CLOSE CURSOR") rfl hwritten
  | unsupported verb =>
    exact .inr (fails_error t g hfrontend hunit (.error "0A000" (verb ++
        " is not supported on process-local cursors (forward FETCH only; not backend SQL cursor)")) rfl hwritten)

/-! ## Rows -/

/-- So many rows, ended by CommandComplete or PortalSuspended; or the rows up to an error. -/
def AnswersRows (display : Display) (p : PostgreSqlFrontend) (session : SessionState)
    (out : Handled (Gateway PostgreSqlFrontend β)) (fields : Nat) : Prop :=
  (∃ n ending, (ending = .commandComplete ∨ ending = .portalSuspended) ∧
    Sends display p session out (List.replicate n (.dataRow fields) ++ [ending]) (.ok ())) ∨
  ∃ n halt, Sends display p session out (List.replicate n (.dataRow fields)) (.error halt)

theorem replies_encodeRows (hrow : ∀ row message, w.encodeRow w.columns row = .ok message →
      messageReply message = .dataRow w.columns.length) {rows : List Row} {encoded : List ClientMessage}
    (h : w.encodeRows rows = .ok encoded) :
    encoded.map messageReply = List.replicate encoded.length (.dataRow w.columns.length) := by
  induction rows generalizing encoded with
  | nil =>
    cases h
    rfl
  | cons row rows ih =>
    rw [Writer.encodeRows] at h
    split at h
    · cases h
    · rename_i message hmessage
      split at h
      · cases h
      · rename_i messages hmessages
        cases h
        rw [List.map_cons, hrow _ _ hmessage, ih hmessages, List.length_cons, List.replicate_succ]

theorem footer_unit (h : w.extendedQuery = true) (total : Nat) (truncated : Bool) :
    ∃ ending, (ending = .commandComplete ∨ ending = .portalSuspended) ∧
      (w.footer total truncated).map messageReply = [ending] := by
  unfold Writer.footer
  rw [h]
  dsimp only
  split
  · exact ⟨_, .inr rfl, rfl⟩
  · exact ⟨_, .inl rfl, rfl⟩

theorem owedColumns (columns : List Column) (obligations : Obligations) (session : SessionState) :
    streamColumns display columns ((if (Runtime.pageObligations obligations session).hasResultObligations then
        some (Runtime.pageObligations obligations session) else none).getD .none) =
      streamColumns display columns obligations := by
  split
  · rfl
  · rename_i hnothing
    have hnone : obligations.watermark = none := by
      unfold Obligations.hasResultObligations at hnothing
      simp only [Bool.or_eq_true, not_or] at hnothing
      exact Option.not_isSome_iff_eq_none.mp hnothing.2
    unfold streamColumns
    rw [hnone]
    rfl

/-- **A page of rows** inside a unit, with its header suppressed. -/
theorem answersRows_settleRows (g : Gateway PostgreSqlFrontend β) (hfrontend : g.frontend = p)
    (hsuppressed : p.suppressNextRowDescription = true) (hunit : g.session.pgExtendedQuery = true)
    (session : SessionState) (obligations : Obligations) (mode : ExecuteMode) (columns : List Column)
    (windows : List (List Row)) {io : CommandIo ω η} (hwritten : io.written = .ok ()) : AnswersRows t.display p session
      (t.runtime.settleRows g obligations mode columns windows io)
      (streamColumns t.display columns obligations).length := by
  have hwriter : (t.runtime.pageWriter g obligations mode
      columns).columns = streamColumns t.display columns obligations :=
    owedColumns t.display columns obligations g.session
  have hheader : (t.runtime.pageWriter g obligations mode
      columns).encodeHeader (t.runtime.pageWriter g obligations mode
      columns).columns = .ok [] := by
    show (if g.frontend.suppressNextRowDescription then _ else _) = _
    rw [hfrontend, if_pos hsuppressed]
  have hhold : (t.runtime.pageWriter g obligations mode columns).holdRemainder = true → (t.runtime.pageWriter g
      obligations mode columns).skipRows = 0 := by
    intro h
    show (Runtime.pageSession g.session).pgPortalSkipRows = 0
    unfold Runtime.pageSession
    rw [if_pos (show Runtime.wantHold g.session = true from h)]
  have hrow : ∀ row message, (t.runtime.pageWriter g obligations mode
      columns).encodeRow (t.runtime.pageWriter g obligations mode
      columns).columns row = .ok message → messageReply message = .dataRow (t.runtime.pageWriter g obligations mode
          columns).columns.length := by
    intro row message h
    have h' : (if g.session.preferBinaryResult then encodePgResultsetRowBinary t.binary
        else encodePgResultsetRow t.display) (t.runtime.pageWriter g
          obligations mode columns).columns row = .ok message := h
    split at h'
    · exact messageReply_of_binaryRow h'
    · exact messageReply_of_row h'
  unfold Runtime.settleRows
  dsimp only
  obtain ⟨rows, encoded, hencoded, hwrite⟩ := write_encoded _ hhold hheader windows
  have hreplies := replies_encodeRows hrow hencoded
  rw [hwriter] at hreplies
  rcases hwrite with ⟨e, hwrite⟩ | ⟨page, hwrite⟩
  · rw [hwrite]
    refine .inr ⟨encoded.length, .error e, ?_, rfl, ?_⟩
    · show (([] ++ encoded).map messageReply) ++ [] = _
      rw [List.append_nil, List.nil_append, hreplies]
    · subst hfrontend
      exact ⟨rfl, rfl, rfl, rfl⟩
  · rw [hwrite, hwritten]
    obtain ⟨ending, hending, hfooter⟩ := footer_unit (w := t.runtime.pageWriter g obligations mode columns)
      hunit page.totalRows page.truncated
    refine .inl ⟨encoded.length, ending, hending, ?_, rfl, ?_⟩
    · show (([] ++ encoded ++ _).map messageReply) ++ [] = _
      rw [List.append_nil, List.nil_append, List.map_append, hreplies, hfooter]
    · subst hfrontend
      exact ⟨rfl, rfl, rfl, rfl⟩

/-! ## Commands that are let through -/

/-- What the stages before execution leave of a command: another text, not another kind. -/
structure SameKind (command handed : GatewayCommand) : Prop where
  rows : isRowCommand command = true → isRowCommand handed = true
  wire : ∀ packets, command = .clientWire packets → handed = .clientWire packets
  describe : ∀ sql, command = .describeSql sql → ∃ sql', handed = .describeSql sql'
  sync : command = .pgBackendSync → handed = .pgBackendSync

theorem SameKind.refl (command : GatewayCommand) : SameKind command command :=
  ⟨id, fun _ => id, fun sql h => ⟨sql, h⟩, id⟩

theorem SameKind.trans {command command' handed : GatewayCommand} (h : SameKind command command')
    (h' : SameKind command' handed) : SameKind command handed := by
  refine ⟨h'.rows ∘ h.rows, fun packets hwire => h'.wire packets (h.wire packets hwire), fun sql hsql => ?_,
    h'.sync ∘ h.sync⟩
  obtain ⟨sql', hsql'⟩ := h.describe sql hsql
  exact h'.describe sql' hsql'

theorem sameKind_rewrittenSql (sql : String) (command : GatewayCommand) :
    SameKind command (Runtime.rewrittenSql sql command) := by
  cases command with
  | query text => exact ⟨fun _ => rfl, nofun, nofun, nofun⟩
  | queryParams text parameters => exact ⟨fun _ => rfl, nofun, nofun, nofun⟩
  | prepare text => exact ⟨nofun, nofun, nofun, nofun⟩
  | _ => exact .refl _

theorem sameKind_withRewrite (sql : String) (command : GatewayCommand) :
    SameKind command (Runtime.withRewrite sql command) := by
  cases command with
  | query text => exact ⟨fun _ => rfl, nofun, nofun, nofun⟩
  | queryParams text parameters => exact ⟨fun _ => rfl, nofun, nofun, nofun⟩
  | prepare text => exact ⟨nofun, nofun, nofun, nofun⟩
  | _ => exact .refl _

variable {t}

theorem sameKind_pluginStage {command handed : GatewayCommand} {session : SessionState} {io : CommandIo ω η}
    (h : t.runtime.pluginStage command session io = .admitted handed o) : SameKind command handed := by
  unfold Runtime.pluginStage at h
  split at h
  · split at h
    · cases h
    · cases h
      exact .refl _
    · cases h
    · cases h
      exact sameKind_rewrittenSql _ _
  · cases h
    exact .refl _

theorem sameKind_translationStage (htexts : TranslatesTexts t.service) {command handed : GatewayCommand}
    {session : SessionState}
    (h : t.runtime.translationStage command session = .admitted handed o) : SameKind command handed := by
  unfold Runtime.translationStage at h
  cases htranslation : t.service.translation with
  | none =>
    rw [show t.runtime.service.translation = none from htranslation] at h
    cases h
    exact .refl _
  | some translate =>
    rw [show t.runtime.service.translation = some translate from htranslation] at h
    dsimp only at h
    cases htranslated : translate command with
    | error e =>
      rw [htranslated] at h
      cases h
    | ok translated =>
      rw [htranslated] at h
      cases h
      refine ⟨fun hrow => htexts.rows translate command handed htranslation htranslated hrow, ?_, ?_, ?_⟩
      · rintro packets rfl
        exact htexts.wire translate packets handed htranslation htranslated
      · rintro sql rfl
        exact htexts.describe translate sql handed htranslation htranslated
      · rintro rfl
        exact htexts.sync translate handed htranslation htranslated

theorem sameKind_granted (htexts : TranslatesTexts t.service) {command : GatewayCommand} {io : CommandIo ω η}
    (h : t.runtime.grantedCommand g command io = some x) : SameKind command x.command := by
  obtain ⟨_, _, _, hcheck⟩ := t.runtime.grantedCommand_cases h
  unfold Runtime.precheck at hcheck
  rcases hplugin : t.runtime.pluginStage command x.session io with
    halt | ⟨response, s⟩ | ⟨rewritten, o₁⟩
  · rw [hplugin] at hcheck
    cases hcheck
  · rw [hplugin] at hcheck
    cases hcheck
  · rw [hplugin] at hcheck
    dsimp only at hcheck
    rcases htr : t.runtime.translationStage rewritten x.session with
      halt | ⟨response, s⟩ | ⟨translated, o₂⟩
    · rw [htr] at hcheck
      cases hcheck
    · rw [htr] at hcheck
      cases hcheck
    · rw [htr] at hcheck
      have hbefore := (sameKind_pluginStage hplugin).trans (sameKind_translationStage htexts htr)
      refine hbefore.trans ?_
      dsimp only at hcheck
      unfold Runtime.securityStage at hcheck
      split at hcheck
      · rcases Runtime.enforce_admitted hcheck with ⟨_, hsame⟩ | ⟨text, _, hrewrite⟩
        · rw [hsame]
          exact .refl _
        · rw [hrewrite]
          exact sameKind_withRewrite text translated
      · injection hcheck with hsame
        rw [← hsame]
        exact .refl _

variable (t)

theorem obtained_unit (w : Answering t.backend) (g : Gateway PostgreSqlFrontend β)
    (hsession : x.session.pgExtendedQuery = g.session.pgExtendedQuery) (io : CommandIo ω η) :
    (t.runtime.obtained g x io).2.1.frontend = g.frontend ∧ (t.runtime.obtained g x io).2.1.session.pgExtendedQuery =
        g.session.pgExtendedQuery := by
  unfold Runtime.obtained
  rcases t.runtime.obtainOutcome_cases
    { g with session := x.session } x.command
    (t.runtime.execMode x.command x.obligations) io with
    ⟨held, h⟩ | ⟨out, hout, h⟩
  · rw [h, Runtime.dropInvalidatedPortal_eq]
    exact ⟨rfl, hsession⟩
  · rw [h, ← hout, Runtime.dropInvalidatedPortal_eq]
    refine ⟨rfl, ?_⟩
    refine Eq.trans ?_ hsession
    exact w.extended _ _ _ _ _

theorem execMode_rows {command : GatewayCommand} (hrow : isRowCommand command = true) {obligations : Obligations}
    (hmode : (t.runtime.execMode command obligations).isPassthrough = false) :
    ∃ window cap, t.runtime.execMode command obligations = .streaming window cap := by
  have hfalse : ¬ExecuteMode.isPassthrough .passthrough = false := Bool.noConfusion
  unfold Runtime.execMode at hmode ⊢
  split at hmode
  · exact absurd hmode hfalse
  · rename_i hwant
    rw [if_neg hwant]
    split
    · split
      · exact ⟨_, _, rfl⟩
      · exact ⟨_, _, rfl⟩
    · rename_i howed
      rw [if_neg howed] at hmode
      split
      · exact ⟨_, _, rfl⟩
      · exact ⟨_, _, rfl⟩
      · rename_i hpassthrough
        rw [hpassthrough] at hmode
        exact absurd hmode hfalse

theorem sends_settleResponse (g : Gateway PostgreSqlFrontend β) (hfrontend : g.frontend = p)
    (command : GatewayCommand) (response : GatewayResponse)
    (hcolumns : ∀ columns, response ≠ .rowDescription columns) (owed : Option Obligations)
    (session : SessionState) {io : CommandIo ω η} (hwritten : io.written = .ok ()) : Sends t.display p session
      (t.runtime.settleResponse g command response owed io)
      (encodeReplies p session (owedResponse t.display response owed)) (.ok ()) := by
  subst hfrontend
  have htables : ∀ g' : Gateway PostgreSqlFrontend β, (Runtime.dropCursors command g').frontend = g'.frontend := by
    intro g'
    unfold Runtime.dropCursors
    cases command with
    | _ => rfl
  unfold Runtime.settleResponse Runtime.encodeOwed
  rw [hwritten]
  refine ⟨List.append_nil _, rfl, ?_⟩
  dsimp only
  rw [htables]
  exact sameTables_encoded g.frontend hcolumns

theorem columnlessReplies (hsuppressed : p.suppressNextRowDescription = true) {session : SessionState}
    (hunit : session.pgExtendedQuery = true) {response : GatewayResponse}
    (h : isColumnless response = true ∨ isAck response = true) (owed : Option Obligations) :
    encodeReplies p session (owedResponse display response owed) = [.commandComplete] ∨
      encodeReplies p session (owedResponse display response owed) = [.errorResponse] := by
  have hsame : isAck response = true → owedResponse display response owed = response := by
    intro hack
    cases owed with
    | none => rfl
    | some o =>
      show applyObligationsToResponse display response o = response
      unfold applyObligationsToResponse
      split
      · rfl
      · cases response with
        | resultSet columns rows => cases hack
        | taggedResultSet columns rows tag => cases hack
        | _ => rfl
  by_cases hack : isAck response = true
  · rw [hsame hack]
    exact ackReplies hunit p hack
  · have hdone := h.resolve_right hack
    cases response with
    | ok n i => exact absurd rfl hack
    | error code message => exact absurd rfl hack
    | resultSet columns rows =>
      obtain ⟨hcolumns, hrows⟩ := Bool.and_eq_true_iff.mp hdone
      obtain rfl := List.isEmpty_iff.mp hcolumns
      obtain rfl := List.isEmpty_iff.mp hrows
      have hrowless : ∃ columns, owedResponse display (.resultSet [] []) owed = .resultSet columns [] := by
        cases owed with
        | none => exact ⟨[], rfl⟩
        | some o =>
          show ∃ columns, applyObligationsToResponse display (.resultSet [] []) o = .resultSet columns []
          unfold applyObligationsToResponse
          split
          · exact ⟨[], rfl⟩
          · have hnone : (applyObligationsToResultset display [] [] o).2 = [] := by
              rw [applyObligationsToResultset_rows]
              unfold capRows
              cases o.maxRows with
              | none => rfl
              | some most =>
                dsimp only
                rw [List.take_nil, List.map_nil]
            dsimp only
            rw [hnone]
            exact ⟨_, rfl⟩
      obtain ⟨columns, howed⟩ := hrowless
      rw [howed]
      refine .inl ?_
      unfold encodeReplies readyReply
      rw [hsuppressed, hunit]
      rfl
    | _ => cases hdone

theorem AnswersRows.after {session : SessionState} {out : Handled (Gateway PostgreSqlFrontend β)} {fields : Nat}
    (h : AnswersRows display p session out fields) {events : List Event}
    (hevents : ∀ event ∈ events, Runtime.Event.silent event = true) :
    AnswersRows display p session (out.after events) fields := by
  rcases h with ⟨n, ending, hending, h⟩ | ⟨n, halt, h⟩
  · exact .inl ⟨n, ending, hending, h.after display hevents⟩
  · exact .inr ⟨n, halt, h.after display hevents⟩

theorem handled_granted {command : GatewayCommand} {io : CommandIo ω η}
    (hx : t.runtime.grantedCommand g command io = some x) :
    ∃ events, (∀ event ∈ events, Runtime.Event.silent event = true) ∧ t.runtime.handleCommand g command io =
        (t.runtime.settle (t.runtime.obtained g x io).2.1 command x.obligations
          (t.runtime.execMode x.command x.obligations) io
          (t.runtime.obtained g x io).1).after events := by
  refine ⟨(t.runtime.precheck command x.session io).2 ++ (t.runtime.obtained g x io).2.2, ?_, ?_⟩
  · intro event hevent
    rcases List.mem_append.mp hevent with hevent | hevent
    · exact t.runtime.silent_precheck command x.session io event hevent
    · exact t.runtime.silent_obtained g x io event hevent
  · rw [t.runtime.handleCommand_of_granted hx]
    show Handled.after (Handled.after _ _) _ = _
    unfold Handled.after
    dsimp only
    rw [List.append_assoc]
    rfl

theorem unit_of_granted {command : GatewayCommand} {io : CommandIo ω η}
    (hx : t.runtime.grantedCommand g command io = some x) :
    x.session.pgExtendedQuery = g.session.pgExtendedQuery := by
  obtain ⟨_, hroute, _⟩ := t.runtime.grantedCommand_cases hx
  rw [t.runtime.route_ok hroute]

theorem obtained_calls (h : Runtime.resumes g x = false) (io : CommandIo ω η) : (t.runtime.obtained g x io).1 =
      (t.backend.executeOutcome g.backend x.command { x.session with pgDropPortalHold := false }
        (t.runtime.execMode x.command x.obligations) io.call).1 := by
  have hdropped := Runtime.dropInvalidatedPortal_eq { g with session := x.session }
  unfold Runtime.resumes at h
  unfold Runtime.obtained Runtime.obtainOutcome
  dsimp only
  generalize Runtime.dropInvalidatedPortal { g with session := x.session } = g₁ at h hdropped ⊢
  rw [h]
  cases g₁.heldPortalStream with
  | none =>
    rw [hdropped]
    rfl
  | some held =>
    rw [hdropped]
    rfl

/-- **An Execute that is let through** and not relayed. -/
theorem answers_execute (w : Answering t.backend) (htexts : TranslatesTexts t.service) {command : GatewayCommand}
    {io : CommandIo ω η} (hx : t.runtime.grantedCommand g command io = some x)
    (hwritten : io.written = .ok ()) (hunit : g.session.pgExtendedQuery = true)
    (hsuppressed : g.frontend.suppressNextRowDescription = true) (hrow : isRowCommand command = true)
    (hmode : Runtime.resumes g x = false → (t.runtime.execMode x.command x.obligations).isPassthrough = false)
    (hacks : ∀ response, w.acks io.call response → isAck response = true) {fields : Nat}
    (hfields : ∀ columns, (w.gives io.call columns ∨ ∃ q, g.heldPortalStream = some q ∧ q.columns = columns) →
      (streamColumns t.display columns x.obligations).length = fields) : AnswersRows t.display g.frontend g.session
        (t.runtime.handleCommand g command io) fields ∨
      Completes t.display g.frontend g.session (t.runtime.handleCommand g command io) := by
  obtain ⟨events, hsilent, hhandled⟩ := handled_granted t hx
  obtain ⟨hfrontend, hinside⟩ := obtained_unit t w g (unit_of_granted t hx) io
  rw [hunit] at hinside
  -- the rows come from the held stream, or from a call that streams them
  have hanswer : StatementAnswer
      (fun columns => w.gives io.call columns ∨ ∃ q, g.heldPortalStream = some q ∧ q.columns = columns)
      (w.acks io.call) (t.runtime.obtained g x io).1 := by
    cases hres : Runtime.resumes g x with
    | true =>
      obtain ⟨q, hq, _, hstream, _⟩ := t.runtime.obtained_resumed hres io
      rw [hstream]
      exact .inr ⟨q, hq, rfl⟩
    | false =>
      obtain ⟨window, cap, hstreaming⟩ := execMode_rows t ((sameKind_granted htexts hx).rows hrow) (hmode hres)
      rw [obtained_calls t hres io, hstreaming]
      have hstatement := w.statement g.backend x.command { x.session with pgDropPortalHold := false } window cap io.call
        ((sameKind_granted htexts hx).rows hrow)
      exact hstatement.mono fun columns => .inl
  rw [hhandled]
  generalize t.runtime.obtained g x io = obtained
    at hanswer hfrontend hinside ⊢
  obtain ⟨outcome, g', called⟩ := obtained
  dsimp only at hanswer hfrontend hinside ⊢
  have hresponse : ∀ response owed, isColumnless response = true ∨ isAck response = true →
      Completes t.display g.frontend g.session ((t.runtime.settleResponse g' command response owed io).after
          events) := by
    intro response owed hdone
    have hsends := sends_settleResponse t g' hfrontend command response
      (fun columns h => by rw [h] at hdone; rcases hdone with h | h <;> cases h) owed g.session hwritten
    rcases columnlessReplies t.display hsuppressed hunit hdone owed with h | h
    · rw [h] at hsends
      exact .inl (hsends.after t.display hsilent)
    · rw [h] at hsends
      exact .inr (.inl (hsends.after t.display hsilent))
  rcases outcome with e | (response | ⟨columns, windows⟩ | relay)
  · exact .inr (hresponse _ _ (.inl rfl))
  · exact .inr (hresponse _ _ (hanswer.imp_right (hacks response)))
  · refine .inl ?_
    rw [← hfields columns hanswer]
    exact (answersRows_settleRows t g' hfrontend hsuppressed hinside g.session
      x.obligations _ columns windows hwritten).after t.display hsilent
  · cases hanswer

theorem map_packetReply_filter (packets : List (List UInt8)) :
    (packets.filter fun p => p.head? != some 90 && p.head? != some 49 && p.head? != some 50).map packetReply =
      unitReplies packets := by
  have hpacket : ∀ p : List UInt8, (p.head? != some 90 && p.head? != some 49 && p.head? != some 50) =
      (packetReply p != .readyForQuery && packetReply p != .parseComplete && packetReply p != .bindComplete) := by
    intro p
    unfold packetReply
    generalize p.head? = head
    split <;> try rfl
    -- a packet of another kind
    rename_i hparse hbind _ _ _ _ _ _ _ _ hready
    rw [bne_iff_ne.mpr hready, bne_iff_ne.mpr hparse, bne_iff_ne.mpr hbind]
    rfl
  unfold unitReplies
  rw [List.filter_map]
  refine congrArg (List.map packetReply) (List.filter_congr fun p _ => ?_)
  exact hpacket p

theorem sends_settleRelay (g : Gateway PostgreSqlFrontend β) (hfrontend : g.frontend = p)
    (command : GatewayCommand) (relay : WireRelay) (session : SessionState) {io : CommandIo ω η}
    (hread : relay.response.failed = none) (hwritten : io.written = .ok ()) : Sends t.display p session
      (t.runtime.settleRelay g command relay io)
      ((Runtime.relayedPackets command g.session relay.response.packets).map packetReply) (.ok ()) := by
  subst hfrontend
  unfold Runtime.settleRelay
  dsimp only
  rw [hread, hwritten]
  exact ⟨List.append_nil _, rfl, .refl _⟩

/-- **A command that goes to a relay**: its packets, with what the unit gets elsewhere taken out. -/
theorem sends_relayed (w : Answering t.backend) {command : GatewayCommand} {io : CommandIo ω η}
    (hx : t.runtime.grantedCommand g command io = some x)
    (hwritten : io.written = .ok ()) {relay : WireRelay} (hread : relay.response.failed = none)
    (hrelay : (t.runtime.obtained g x io).1 = .ok (.wireRelay relay)) :
    ∃ session, session.pgExtendedQuery = g.session.pgExtendedQuery ∧ Sends t.display g.frontend g.session
        (t.runtime.handleCommand g command io)
        ((Runtime.relayedPackets command session relay.response.packets).map packetReply) (.ok ()) := by
  obtain ⟨events, hsilent, hhandled⟩ := handled_granted t hx
  obtain ⟨hfrontend, hinside⟩ := obtained_unit t w g (unit_of_granted t hx) io
  rw [hhandled]
  generalize t.runtime.obtained g x io = obtained
    at hrelay hfrontend hinside ⊢
  obtain ⟨outcome, g', called⟩ := obtained
  dsimp only at hrelay hfrontend hinside ⊢
  rw [hrelay]
  refine ⟨g'.session, hinside, ?_⟩
  exact (sends_settleRelay t g' hfrontend command relay g.session hread hwritten).after t.display hsilent

theorem called_of_other (hrow : isRowCommand x.command = false) (io : CommandIo ω η) :
    ∃ session, (t.runtime.obtained g x io).1 = (t.backend.executeOutcome g.backend x.command session
        (t.runtime.execMode x.command x.obligations) io.call).1 := by
  have hres : Runtime.resumes g x = false := by
    unfold Runtime.resumes Runtime.resumesHeldPortal
    rw [hrow, Bool.and_false]
  exact ⟨_, obtained_calls t hres io⟩

/-- **Packets of the decoder** that are let through. -/
theorem sends_wire (w : Answering t.backend) (htexts : TranslatesTexts t.service) {packets : List (List UInt8)}
    {io : CommandIo ω η} (hx : t.runtime.grantedCommand g (.clientWire packets) io = some x)
    (hwritten : io.written = .ok ()) : Sends t.display g.frontend g.session
      (t.runtime.handleCommand g (.clientWire packets) io)
      (packets.map packetReply) (.ok ()) := by
  obtain ⟨events, hsilent, hhandled⟩ := handled_granted t hx
  obtain ⟨hfrontend, _⟩ := obtained_unit t w g (unit_of_granted t hx) io
  have hcommand := (sameKind_granted htexts hx).wire packets rfl
  have hwire : (t.runtime.obtained g x io).1 = .ok (.complete (.wire packets)) := by
    obtain ⟨session, hcall⟩ := called_of_other t (g := g) (x := x) (by rw [hcommand]; rfl) io
    rw [hcall, hcommand]
    exact w.wire _ _ _ _ _
  have howed : ∀ owed, owedResponse t.display (.wire packets) owed = .wire packets := by
    intro owed
    cases owed with
    | none => rfl
    | some o =>
      show applyObligationsToResponse t.display (.wire packets) o = _
      unfold applyObligationsToResponse
      split <;> rfl
  rw [hhandled]
  generalize t.runtime.obtained g x io = obtained at hwire hfrontend ⊢
  obtain ⟨outcome, g', called⟩ := obtained
  dsimp only at hwire hfrontend ⊢
  rw [hwire]
  have hsends := sends_settleResponse t g' hfrontend (.clientWire packets) (.wire packets) (fun _ h => by cases h)
    (if x.obligations.hasResultObligations then some x.obligations else none) g.session hwritten
  rw [howed] at hsends
  exact hsends.after t.display hsilent

structure Described (w : Answering backend) (g : Gateway PostgreSqlFrontend β) (io : CommandIo ω η)
    (out : Handled (Gateway PostgreSqlFrontend β)) (columns : List Column) : Prop where
  told : w.tells io.call columns
  replies : out.events.flatMap (eventReplies display g.frontend g.session) =
    encodeReplies g.frontend g.session (.rowDescription columns)
  result : out.result = .ok ()
  frontend : out.gateway.frontend = encoded g.frontend (.rowDescription columns)

/-- **A catalog Describe** that is let through, inside a unit or without an error. -/
theorem describes_granted (w : Answering t.backend) (htexts : TranslatesTexts t.service) {sql : String}
    {io : CommandIo ω η} (hx : t.runtime.grantedCommand g (.describeSql sql) io = some x)
    (hwritten : io.written = .ok ()) (hopened : g.session.pgExtendedQuery = true ∨
      succeeds (t.runtime.obtained g x io).1 = true) :
    Fails t.display g.frontend g.session (t.runtime.handleCommand g (.describeSql sql) io) ∨
      ∃ columns, Described t.display t.backend w g io (t.runtime.handleCommand g (.describeSql sql) io) columns := by
  obtain ⟨events, hsilent, hhandled⟩ := handled_granted t hx
  obtain ⟨hfrontend, _⟩ := obtained_unit t w g (unit_of_granted t hx) io
  obtain ⟨text, hcommand⟩ := (sameKind_granted htexts hx).describe sql rfl
  have hanswer : DescribeAnswer (w.tells io.call) (t.runtime.obtained g x io).1 := by
    obtain ⟨session, hcall⟩ := called_of_other t (g := g) (x := x) (by rw [hcommand]; rfl) io
    rw [hcall, hcommand]
    exact w.describe _ _ _ _ _
  rw [hhandled]
  generalize t.runtime.obtained g x io = obtained
    at hanswer hfrontend hopened ⊢
  obtain ⟨outcome, g', called⟩ := obtained
  dsimp only at hanswer hfrontend hopened ⊢
  rcases outcome with e | (response | ⟨columns, windows⟩ | relay)
  · have hunit : g.session.pgExtendedQuery = true := hopened.resolve_right Bool.false_ne_true
    have hsends := sends_settleResponse t g' hfrontend (.describeSql sql)
      (.error "gateway_error" e.text) (fun _ h => by cases h) none g.session hwritten
    have herror := errorReplies hunit g.frontend "gateway_error" e.text
    rw [show owedResponse t.display (.error "gateway_error" e.text) none = .error "gateway_error" e.text from rfl,
      herror] at hsends
    exact .inl (.inl (hsends.after t.display hsilent))
  · cases response with
    | rowDescription columns =>
      refine .inr ⟨columns, hanswer, ?_, ?_, ?_⟩
      · have howed : ∀ owed, owedResponse t.display (.rowDescription columns) owed = .rowDescription columns := by
          intro owed
          cases owed with
          | none => rfl
          | some o =>
            show applyObligationsToResponse t.display (.rowDescription columns) o = _
            unfold applyObligationsToResponse
            split <;> rfl
        show (events ++ _).flatMap _ = _
        rw [List.flatMap_append, silent_replies t.display _ _ hsilent, List.nil_append, Runtime.settle,
          Runtime.settleResponse_events]
        show encodeReplies _ _ (owedResponse _ _ _) ++ [] = _
        rw [howed, List.append_nil]
      · show (Runtime.settleResponse _ _ _ _ _ _).result = _
        unfold Runtime.settleResponse Runtime.encodeOwed
        rw [hwritten]
      · show (Runtime.settleResponse _ _ _ _ _ _).gateway.frontend = _
        unfold Runtime.settleResponse Runtime.encodeOwed
        rw [hwritten]
        show encoded g'.frontend (.rowDescription columns) = _
        rw [hfrontend]
    | _ => cases hanswer
  · cases hanswer
  · cases hanswer

end Commands

end DataNexus.Engine
