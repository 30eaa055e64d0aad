/-
  The PostgreSQL frontend and the PostgreSQL connector as the two adapters of the engine.

  Here the contracts of `FrontendProtocolAdapter` and `BackendConnector` are proved for the pair: `decode`
  adds at most the frame itself to the buffer, an Execute becomes the text its portal is bound to, and
  the connector leaves the session at its endpoint.
-/
import DataNexus.Backend.Writes
import DataNexus.Engine.Gateway
import DataNexus.Frontend.PostgreSql

namespace DataNexus.Engine

open DataNexus.Frontend DataNexus.Backend DataNexus.Pdp DataNexus.Tickets

/-! ## The frontend -/

/-- The text that the portal of an Execute frame is bound to. -/
def portalText (p : PostgreSqlFrontend) (frame : ClientFrame) : Option String :=
  match frame.message with
  | .execute portal _ => p.portals portal
  | _ => none

/-- The frame of a raw frame that could be read. -/
def readFrame (frame : RawFrame) : Option ClientFrame :=
  match frame.content with
  | .ok f => some f
  | .error _ => none

theorem decodeQueryCommand_cases (sql : String) (session : SessionState) :
    ∃ charset state, (decodeQueryCommand sql session).2 =
      { session with charset := charset, transactionState := state } := by
  unfold decodeQueryCommand
  cases clientEncodingFromSetQuery sql with
  | none =>
    dsimp only
    split
    · exact ⟨session.charset, .active, rfl⟩
    · split
      · exact ⟨session.charset, .idle, rfl⟩
      · split
        · exact ⟨session.charset, .idle, rfl⟩
        · exact ⟨session.charset, session.transactionState, rfl⟩
  | some encoding =>
    dsimp only
    split
    · exact ⟨some encoding, .active, rfl⟩
    · split
      · exact ⟨some encoding, .idle, rfl⟩
      · split
        · exact ⟨some encoding, .idle, rfl⟩
        · exact ⟨some encoding, session.transactionState, rfl⟩

/-- The buffer after a frame, when it was not ignored: as it was, emptied, or with the frame added. -/
inductive Buffered (frame : ClientFrame) (session session' : SessionState) : Prop where
  | kept (h : session'.pgClientExtendedFrames = session.pgClientExtendedFrames)
      (hexec : frame.isExecute = false)
  | emptied (h : session'.pgClientExtendedFrames = []) (hexec : frame.isExecute = false)
  | added (h : session'.pgClientExtendedFrames = session.pgClientExtendedFrames ++ [frame])
      (hhold : frame.isExecute = true → session.pgExtTcpHold = false)
  | restarted (h : session'.pgClientExtendedFrames = [frame]) (hexec : frame.isExecute = true)
      (hhold : session.pgExtTcpHold = true)

def IsStatement : GatewayCommand → Prop
  | .query _ => True
  | .queryParams _ _ => True
  | _ => False

/-- What one frame can do: at most one command; an Execute becomes a statement with the text of its portal. -/
structure Decodes (frame : ClientFrame) (session : SessionState) (out : Decoded) : Prop where
  single : ∀ commands, out.1 = .ok commands → commands.length ≤ 1
  endpoint : out.2.1.backendEndpoint = session.backendEndpoint
  hold : out.2.1.pgExtTcpHold = session.pgExtTcpHold
  buffered : Buffered frame session out.2.1 ∨
    (out.1 = .ok [] ∧ out.2.1.pgClientExtendedFrames = session.pgClientExtendedFrames)
  text : ∀ commands command, out.1 = .ok commands → command ∈ commands → frame.isExecute = true →
    IsStatement command ∧ sqlText command = portalText out.2.2 frame

variable {session' : SessionState}

theorem decodes_one {frame : ClientFrame} {session : SessionState} {p : PostgreSqlFrontend}
    {command : GatewayCommand} (hend : session'.backendEndpoint = session.backendEndpoint)
    (hhold : session'.pgExtTcpHold = session.pgExtTcpHold) (hbuf : Buffered frame session session')
    (htext : frame.isExecute = true → IsStatement command ∧ sqlText command = portalText p frame) :
    Decodes frame session (.ok [command], session', p) := by
  refine ⟨?_, hend, hhold, .inl hbuf, ?_⟩
  · intro commands h
    obtain rfl : [command] = commands := by injection h
    exact Nat.le_refl 1
  · intro commands other h hmem hex
    obtain rfl : [command] = commands := by injection h
    rw [List.mem_singleton.mp hmem]
    exact htext hex

theorem not_execute {frame : ClientFrame} (h : frame.isExecute = false) {P : Prop} : frame.isExecute = true → P := by
  intro hex
  rw [h] at hex
  cases hex

theorem decodes_wire {frame : ClientFrame} {session : SessionState} (packets : List (List UInt8))
    (p : PostgreSqlFrontend) (hend : session'.backendEndpoint = session.backendEndpoint)
    (hhold : session'.pgExtTcpHold = session.pgExtTcpHold) (hexec : frame.isExecute = false)
    (hbuf : Buffered frame session session') : Decodes frame session (clientWire packets session' p) :=
  decodes_one hend hhold hbuf (not_execute hexec)

theorem decodes_error {frame : ClientFrame} {session : SessionState} (h : Halt) (p : PostgreSqlFrontend)
    (hend : session'.backendEndpoint = session.backendEndpoint)
    (hhold : session'.pgExtTcpHold = session.pgExtTcpHold) (hbuf : Buffered frame session session') :
    Decodes frame session (.error h, session', p) :=
  ⟨nofun, hend, hhold, .inl hbuf, nofun⟩

theorem decodes_nothing (frame : ClientFrame) (session : SessionState) (p : PostgreSqlFrontend) :
    Decodes frame session (.ok [], session, p) := by
  refine ⟨?_, rfl, rfl, .inr ⟨rfl, rfl⟩, ?_⟩
  · intro commands h
    obtain rfl : [] = commands := by injection h
    exact Nat.zero_le 1
  · intro commands command h hmem
    obtain rfl : [] = commands := by injection h
    cases hmem

theorem decodes_query {frame : ClientFrame} {sql : String} (hm : frame.message = .query sql)
    (p : PostgreSqlFrontend) (session : SessionState) : Decodes frame session (decodeQuery p sql session) := by
  have hexec : frame.isExecute = false := by unfold ClientFrame.isExecute; rw [hm]
  obtain ⟨charset, state, hs⟩ := decodeQueryCommand_cases sql { session with pgExtendedQuery := false }
  unfold decodeQuery
  dsimp only
  rw [hs]
  exact decodes_one rfl rfl (.kept rfl hexec) (not_execute hexec)

theorem decodes_sync {frame : ClientFrame} (hm : frame.message = .sync) (p : PostgreSqlFrontend)
    (session : SessionState) : Decodes frame session (decodeSync p session) := by
  have hexec : frame.isExecute = false := by unfold ClientFrame.isExecute; rw [hm]
  unfold decodeSync
  dsimp only
  split
  · exact decodes_one rfl rfl (.emptied rfl hexec) (not_execute hexec)
  · exact decodes_wire _ _ rfl rfl hexec (.emptied rfl hexec)

theorem decodes_parse {frame : ClientFrame} {statement query : String}
    (hm : frame.message = .parse statement query) (d : Dialect) (p : PostgreSqlFrontend) (session : SessionState) :
    Decodes frame session (decodeParse d p frame statement query session) := by
  have hexec : frame.isExecute = false := by unfold ClientFrame.isExecute; rw [hm]
  unfold decodeParse
  split
  · exact decodes_error _ _ rfl rfl (.kept rfl hexec)
  · exact decodes_wire _ _ rfl rfl hexec (.added rfl (not_execute hexec))

theorem decodes_bind {frame : ClientFrame} {portal statement : String}
    {parameters : List (Option String)} {formats : List Int}
    (hm : frame.message = .bind portal statement parameters formats) (p : PostgreSqlFrontend) (session : SessionState) :
    Decodes frame session (decodeBind p frame portal statement parameters formats session) := by
  have hexec : frame.isExecute = false := by unfold ClientFrame.isExecute; rw [hm]
  have hnot : frame.isExecute = true → session.pgExtTcpHold = false := not_execute hexec
  unfold decodeBind
  dsimp only
  cases p.prepared statement with
  | none => exact decodes_error _ _ rfl rfl (.added rfl hnot)
  | some sql =>
    dsimp only
    cases bindArityError sql (bindParameters parameters) with
    | some e => exact decodes_error _ _ rfl rfl (.added rfl hnot)
    | none => exact decodes_wire _ _ rfl rfl hexec (.added rfl hnot)

theorem decodes_describe {frame : ClientFrame} {target : DescribeTarget} {name : String}
    (hm : frame.message = .describe target name) (d : Dialect) (p : PostgreSqlFrontend) (session : SessionState) :
    Decodes frame session (decodeDescribe d p frame target name session) := by
  have hexec : frame.isExecute = false := by unfold ClientFrame.isExecute; rw [hm]
  have hadd : Buffered frame session (bufferFrame frame session) := .added rfl (not_execute hexec)
  unfold decodeDescribe
  dsimp only
  split
  · cases describedSql p target name with
    | none => exact decodes_wire _ _ rfl rfl hexec hadd
    | some sql =>
      dsimp only
      rcases looksLikeSelect sql with _ | _ | _
      · exact decodes_error _ _ rfl rfl hadd
      · exact decodes_wire _ _ rfl rfl hexec hadd
      · exact decodes_one rfl rfl hadd (not_execute hexec)
  · split
    · exact decodes_error _ _ rfl rfl hadd
    · exact decodes_wire _ _ rfl rfl hexec hadd

theorem buffered_execute {frame : ClientFrame} (hexec : frame.isExecute = true) (portal : String)
    (maxRows : Int) (session : SessionState) :
    Buffered frame session (executeSession frame portal maxRows session) := by
  cases hhold : session.pgExtTcpHold with
  | true =>
    refine .restarted ?_ hexec hhold
    unfold executeSession
    dsimp only
    rw [hhold]
    rfl
  | false =>
    refine .added ?_ (fun _ => hhold)
    unfold executeSession
    dsimp only
    rw [hhold]
    rfl

theorem decodes_execute {frame : ClientFrame} {portal : String} {maxRows : Int}
    (hm : frame.message = .execute portal maxRows) (p : PostgreSqlFrontend) (session : SessionState) :
    Decodes frame session (decodeExecute p frame portal maxRows session) := by
  have hexec : frame.isExecute = true := by unfold ClientFrame.isExecute; rw [hm]
  have hbuf := buffered_execute hexec portal maxRows session
  unfold decodeExecute
  dsimp only
  cases hp : p.portals portal with
  | none => exact decodes_error _ _ rfl rfl hbuf
  | some sql =>
    have htext : portalText p frame = some sql := by unfold portalText; rw [hm]; exact hp
    refine decodes_one rfl rfl ?_ ?_
    · cases hbuf with
      | kept h hex => exact .kept h hex
      | emptied h hex => exact .emptied h hex
      | added h hhold => exact .added h hhold
      | restarted h hex hhold => exact .restarted h hex hhold
    · intro _
      split
      · exact ⟨trivial, htext.symm⟩
      · exact ⟨trivial, htext.symm⟩

theorem decodes_close {frame : ClientFrame} {target : DescribeTarget} {name : String}
    (hm : frame.message = .close target name) (p : PostgreSqlFrontend) (session : SessionState) :
    Decodes frame session (decodeClose p target name session) := by
  have hexec : frame.isExecute = false := by unfold ClientFrame.isExecute; rw [hm]
  unfold decodeClose
  cases target with
  | statement => exact decodes_wire _ _ rfl rfl hexec (.kept rfl hexec)
  | portal =>
    dsimp only
    split
    · exact decodes_wire _ _ rfl rfl hexec (.kept rfl hexec)
    · exact decodes_wire _ _ rfl rfl hexec (.kept rfl hexec)

/-- **Decoding.**  Every frame that could be read. -/
theorem decodes_decodeMessage (d : Dialect) (p : PostgreSqlFrontend) (frame : ClientFrame)
    (session : SessionState) : Decodes frame session (decodeMessage d p frame session) := by
  unfold decodeMessage
  split
  · exact decodes_nothing frame session p
  · cases hm : frame.message with
    | query sql => exact decodes_query hm p session
    | terminate =>
      have hexec : frame.isExecute = false := by unfold ClientFrame.isExecute; rw [hm]
      exact decodes_one rfl rfl (.kept rfl hexec) (not_execute hexec)
    | sync => exact decodes_sync hm p session
    | parse statement query => exact decodes_parse hm d p session
    | bind portal statement parameters formats => exact decodes_bind hm p session
    | describe target name => exact decodes_describe hm d p session
    | execute portal maxRows => exact decodes_execute hm p session
    | close target name => exact decodes_close hm p session
    | flush => exact decodes_nothing frame session p

/-- The buffer after a frame that gave a command: the frame itself, and what was there unless an Execute
    under a hold started it anew. -/
theorem Buffered.mem {frame g : ClientFrame} {session : SessionState} (h : Buffered frame session session')
    (hg : g ∈ session'.pgClientExtendedFrames) : frame = g ∨ (g ∈ session.pgClientExtendedFrames ∧
      ¬(session.pgExtTcpHold = true ∧ frame.isExecute = true)) := by
  cases h with
  | kept h hexec =>
    rw [h] at hg
    refine .inr ⟨hg, ?_⟩
    rw [hexec]
    exact fun hboth => Bool.false_ne_true hboth.2
  | emptied h hexec =>
    rw [h] at hg
    cases hg
  | added h hhold =>
    rw [h] at hg
    rcases List.mem_append.mp hg with hg | hg
    · refine .inr ⟨hg, ?_⟩
      rintro ⟨hheld, hexec⟩
      rw [hhold hexec] at hheld
      cases hheld
    · exact .inl (List.mem_singleton.mp hg).symm
  | restarted h hexec hhold =>
    rw [h] at hg
    exact .inl (List.mem_singleton.mp hg).symm

/-- `PostgreSqlFrontendProtocol` as the engine's frontend. -/
def postgreSqlAdapter (d : Dialect) (codec : PostgreSqlFrontend → SessionState → Option Obligations → RowCodec) :
    FrontendProtocolAdapter PostgreSqlFrontend RawFrame where
  protocol := .postgreSql
  decode := decode d
  encoded := encoded
  headerEncoded := fun p => { p with suppressNextRowDescription := false }
  codec := codec
  tag := RawFrame.tag
  terminates := fun frame => frame.tag == 88
  clientFrame := readFrame
  boundText := portalText
  decode_single := by
    rintro p ⟨tag, _ | frame⟩ s commands h
    · cases h
    · exact (decodes_decodeMessage d p frame s).single commands h
  decode_frames := by
    rintro p ⟨tag, _ | frame⟩ s commands command g h hmem hg
    · cases h
    · rcases (decodes_decodeMessage d p frame s).buffered with hbuf | ⟨hnone, _⟩
      · rcases hbuf.mem hg with rfl | hold
        · exact .inl rfl
        · exact .inr hold
      · have hempty : commands = [] := by
          have heq := h.symm.trans hnone
          injection heq
        rw [hempty] at hmem
        cases hmem
  decode_text := by
    rintro p ⟨tag, _ | frame⟩ s commands command g h hmem hg hexec
    · cases h
    · obtain rfl : frame = g := by injection hg
      exact ((decodes_decodeMessage d p frame s).text commands command h hmem hexec).2
  decode_endpoint := by
    rintro p ⟨tag, _ | frame⟩ s
    · rfl
    · exact (decodes_decodeMessage d p frame s).endpoint

/-! ## The backend -/

/-- What a health check of the leased connection answers. -/
structure HealthIo where
  answer : Except GatewayError Unit
  /-- The server is in a transaction block afterwards. -/
  blockAfter : Bool

/-- `check_session_health`, with its error. -/
def checkHealth (c : Connector) (io : HealthIo) : Except GatewayError Unit × Connector :=
  match checkSessionHealth c (succeeded io.answer) io.blockAfter with
  | (true, c) => (.ok (), c)
  | (false, c) => (io.answer, c)

/-- `PostgreSqlBackendConnector` as the engine's backend; in the background its producers end. -/
def postgreSqlConnector : BackendConnector Connector CallIo HealthIo Nat where
  protocol := .postgreSql
  executeOutcome := executeOutcome
  finishRelay := Connector.finishSession
  checkSessionHealth := checkHealth
  background := producerDone
  executeOutcome_endpoint := by
    intro c command session mode io
    obtain ⟨database, state, frames, hold, h⟩ := executeOutcome_touches c command session mode io
    rw [h]

def postgreSqlRuntime (d : Dialect)
    (codec : PostgreSqlFrontend → SessionState → Option Obligations → RowCodec) (service : Service) :
    Runtime PostgreSqlFrontend RawFrame Connector CallIo HealthIo Nat :=
  ⟨postgreSqlAdapter d codec, postgreSqlConnector, service⟩

/-- What the runtime of the PostgreSQL gateway is built from. -/
structure PgSetup where
  d : Dialect
  codec : PostgreSqlFrontend → SessionState → Option Obligations → RowCodec
  service : Service

abbrev PgSetup.runtime (t : PgSetup) := postgreSqlRuntime t.d t.codec t.service

/-! ## A service to run the examples on -/

/-- Nothing is refused, no columns are guessed, and a RowDescription is its tag. -/
def plainDialect : Dialect where
  classifyDangerousSql := fun _ => none
  inferSelectResultColumns := fun _ => none
  encodeRowDescription := fun _ _ => .ok [84]

def plainCodec (_ : PostgreSqlFrontend) (_ : SessionState) (_ : Option Obligations) : RowCodec where
  header := id
  view := fun _ row => row
  encodeHeader := fun _ => .ok []
  encodeRow := fun _ _ => .ok (.dataRow [])

/-- A service with security, without plugins, translation and routing. -/
def plainService (passthrough : Bool) : Service where
  name := "svc"
  passthroughEnabled := passthrough
  streamMode := .materialized
  securityEnabled := true
  pluginsEnabled := false
  routePolicy := none
  translation := none
  classifyDangerousSql := fun _ => none
  leadingKeyword := leadingKeyword
  extractObjectSet := fun sql =>
    ⟨(extractTableNames sql).map fun t => ⟨none, t, [], .select, false⟩, false, true⟩

/-- That service with PostgreSQL on both sides. -/
def plainRuntime (passthrough : Bool) : Runtime PostgreSqlFrontend RawFrame Connector CallIo HealthIo Nat :=
  postgreSqlRuntime plainDialect plainCodec (plainService passthrough)

def rulesOnly (rules : List SecurityRuleConfig) : LocalPdpInner where
  failClosed := true
  starPolicy := .deny
  rules := rules
  maskRules := []
  columnTags := []
  highRiskRules := []
  timeRules := []
  defaultMaxRows := none
  watermark := ⟨false, "column", "_dn_wm", ""⟩
  cedar := none
  cedarRequired := false
  remote := none

def workingIo (policy : LocalPdpInner) (rewriters : Rewriters) : CommandIo CallIo HealthIo where
  draw := ⟨0, 0⟩
  plugin := .ok .proceed
  pdp := ⟨rewriters, Reads.single policy, ⟨0, 0, 0, 0, 0⟩, TicketStore.new⟩
  call := .works
  health := ⟨.ok (), false⟩
  written := .ok ()

/-- The session of `alice` on one endpoint. -/
def aliceStart : Gateway PostgreSqlFrontend Connector :=
  Gateway.start .new (Connector.withEndpoints [⟨"e", "db:5432", some "app", .readWrite, "dn", 1⟩])
    { SessionState.default with
      user := some "alice", database := some "app", backendEndpoint := some "e" }

/-- A client message as a frame; its bytes do not matter. -/
def frameOf (message : FrontendMessage) : RawFrame := Frontend.ClientFrame.raw ⟨[], message⟩

/-- The client sends a message and everything works, under the policy. -/
def sends (policy : LocalPdpInner) (rewriters : Rewriters) (message : FrontendMessage) :
    Runtime.Act RawFrame CallIo HealthIo Nat :=
  .frame (frameOf message) fun _ => workingIo policy rewriters

def noRewriters : Rewriters := ⟨fun _ _ => none, fun _ _ => none⟩

end DataNexus.Engine
