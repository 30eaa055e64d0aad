/-
  What a refused command leaves of the session.

  Before the backend refuses a command, three places have written to the session:

      decode          BEGIN, COMMIT, ROLLBACK and COM_INIT_DB are noted before they run
      route           the endpoint planned for the command, except for a forbidden text
      the refusal     a forbidden text or a refused translation fails the PostgreSQL unit it is in

  `refused_handleFrame` says so for any pair of adapters, `refusal_leaves_session` what is left for the two frontends.
-/
import DataNexus.Engine.Control
import DataNexus.Engine.MySql

namespace DataNexus.Engine

open DataNexus.Frontend DataNexus.Backend DataNexus.Pdp DataNexus.Tickets

inductive Refusal where
  | dangerousSql
  | plugin
  | translation
  /-- Denied, or for want of a ticket. -/
  | security
deriving DecidableEq

def Refusal.failsUnit : Refusal → Bool
  | .dangerousSql => true
  | .translation => true
  | _ => false

variable {φ ι β ω η κ : Type}

namespace Runtime

variable (r : Runtime φ ι β ω η κ)

/-! ## Refusals -/

def decisionRefusal (command : GatewayCommand) (session : SessionState) (io : CommandIo ω η) : Option Refusal :=
  match r.pluginStage command session io with
  | .halted _ => none
  | .refused _ _ => some .plugin
  | .admitted command _ =>
    match r.translationStage command session with
    | .halted _ => none
    | .refused _ _ => some .translation
    | .admitted command _ =>
      match (r.securityStage command session io).1 with
      | .refused _ _ => some .security
      | _ => none

def commandRefusal (command : GatewayCommand) (session : SessionState) (io : CommandIo ω η) : Option Refusal :=
  match r.dangerousCommandCapability command with
  | some _ => some .dangerousSql
  | none =>
    match r.route command session io, cursorSql command with
    | .ok routed, none => r.decisionRefusal command routed io
    | _, _ => none

def frameRefusal (g : Gateway φ β) (frame : ι) (io : Nat → CommandIo ω η) : Option Refusal :=
  match (r.frontend.decode g.frontend frame g.session).1 with
  | .ok (command :: _) => r.commandRefusal command (r.decoded g frame).session (io 0)
  | .error (.error (.unsupported code)) =>
    (UnsupportedSqlCapability.fromCode code).map fun _ => .dangerousSql
  | _ => none

/-- The endpoint that routing plans for a command. -/
def plannedEndpoint (command : GatewayCommand) (session : SessionState) (io : CommandIo ω η) : Option String :=
  match r.route command session io with
  | .ok routed => routed.backendEndpoint
  | .error _ => session.backendEndpoint

/-- The endpoint behind a refusal: the planned one, except for a forbidden text. -/
def refusedEndpoint (g : Gateway φ β) (frame : ι) (io : Nat → CommandIo ω η) : Refusal → Option String
  | .dangerousSql => g.session.backendEndpoint
  | _ =>
    match (r.frontend.decode g.frontend frame g.session).1 with
    | .ok (command :: _) => r.plannedEndpoint command (r.decoded g frame).session (io 0)
    | _ => g.session.backendEndpoint

/-! ## What a refusal leaves -/

/-- The backend was not called, and what became of the three fields, from the session in which the command
    was handled. -/
structure Refused (kind : Refusal) (session : SessionState) (endpoint : Option String)
    (out : Handled (Gateway φ β)) : Prop where
  calls : calls out.events = []
  state : out.gateway.session.transactionState =
    if kind.failsUnit then (r.failUnit session).transactionState else session.transactionState
  database : out.gateway.session.database = session.database
  endpoint : out.gateway.session.backendEndpoint = endpoint

theorem failUnit_database (session : SessionState) : (r.failUnit session).database = session.database := by
  unfold failUnit
  split <;> rfl

theorem encodeResponse_session (g : Gateway φ β) (response : GatewayResponse) (io : CommandIo ω η) :
    ∃ binary, (r.encodeResponse g response io).gateway.session = { g.session with preferBinaryResult := binary } := by
  unfold encodeResponse encodeOwed
  split
  · exact ⟨g.session.preferBinaryResult, rfl⟩
  · exact ⟨false, rfl⟩

theorem refused_plain {kind : Refusal} (hkind : kind.failsUnit = false) (g : Gateway φ β)
    (response : GatewayResponse) (io : CommandIo ω η) (events : List Event)
    (hevents : DataNexus.Engine.calls events = []) : r.Refused kind g.session g.session.backendEndpoint
      ((r.encodeResponse g response io).after events) := by
  obtain ⟨binary, hsession⟩ := r.encodeResponse_session g response io
  have hcalls := (r.quiet_encodeResponse g response io).calls
  refine ⟨?_, ?_, ?_, ?_⟩
  · rw [Handled.after_events, calls_append, hevents, hcalls, List.append_nil]
  · rw [Handled.after_gateway, hsession, hkind]
    rfl
  · rw [Handled.after_gateway, hsession]
  · rw [Handled.after_gateway, hsession]

theorem refused_unit {kind : Refusal} (hkind : kind.failsUnit = true) (g : Gateway φ β)
    (response : GatewayResponse) (io : CommandIo ω η) : r.Refused kind g.session g.session.backendEndpoint
      (r.encodeResponse { g with session := r.failUnit g.session } response io) := by
  obtain ⟨binary, hsession⟩ := r.encodeResponse_session { g with session := r.failUnit g.session } response io
  refine ⟨(r.quiet_encodeResponse _ response io).calls, ?_, ?_, ?_⟩
  · rw [hsession, hkind]
    rfl
  · rw [hsession]
    exact r.failUnit_database g.session
  · rw [hsession]
    exact r.failUnit_endpoint g.session

theorem calls_securityStage (command : GatewayCommand) (session : SessionState) (io : CommandIo ω η) :
    DataNexus.Engine.calls (r.securityStage command session io).2 = [] := by
  unfold securityStage
  split <;> rfl

variable {session' : SessionState}

theorem securityStage_refused {command : GatewayCommand} {session : SessionState} {io : CommandIo ω η}
    {response : GatewayResponse} {asked : List Event}
    (h : r.securityStage command session io = (.refused response session', asked)) : session' = session := by
  unfold securityStage at h
  split at h
  · dsimp only at h
    generalize (authorizeCommandWithObjects (r.pdpCall command session io) command io.pdp.store).1 = d at h
    rcases d with _ | (_ | _ | _ | _)
    · cases h
    · cases h
    · cases h
    · cases h
      rfl
    · cases h
      rfl
  · cases h

theorem pluginStage_refused {command : GatewayCommand} {session : SessionState} {io : CommandIo ω η}
    {response : GatewayResponse} (h : r.pluginStage command session io = .refused response session') :
    session' = session := by
  unfold pluginStage at h
  split at h
  · split at h
    · cases h
    · cases h
    · cases h
      rfl
    · cases h
  · cases h

theorem translationStage_refused {command : GatewayCommand} {session : SessionState}
    {response : GatewayResponse} (h : r.translationStage command session = .refused response session') :
    session' = r.failUnit session := by
  unfold translationStage at h
  split at h
  · cases h
  · split at h
    · cases h
    · cases h
      rfl

theorem refused_decideAndExecute {kind : Refusal} (g : Gateway φ β) (command : GatewayCommand)
    (io : CommandIo ω η) (h : r.decisionRefusal command g.session io = some kind) :
    r.Refused kind g.session g.session.backendEndpoint (r.decideAndExecute g command io) := by
  unfold decisionRefusal at h
  unfold decideAndExecute precheck
  cases hplugin : r.pluginStage command g.session io with
  | halted halt =>
    rw [hplugin] at h
    cases h
  | refused response session =>
    rw [hplugin] at h
    cases h
    rw [r.pluginStage_refused hplugin]
    exact r.refused_plain rfl g response io [] rfl
  | admitted command owed =>
    rw [hplugin] at h
    dsimp only at h ⊢
    cases htranslation : r.translationStage command g.session with
    | halted halt =>
      rw [htranslation] at h
      cases h
    | refused response session =>
      rw [htranslation] at h
      cases h
      rw [r.translationStage_refused htranslation]
      exact r.refused_unit rfl g response io
    | admitted command owed =>
      rw [htranslation] at h
      dsimp only at h ⊢
      have hcalls := r.calls_securityStage command g.session io
      cases hsecurity : r.securityStage command g.session io with
      | mk verdict events =>
        rw [hsecurity] at h hcalls
        cases verdict with
        | halted halt => cases h
        | admitted command owed => cases h
        | refused response session =>
          cases h
          rw [r.securityStage_refused hsecurity]
          exact r.refused_plain rfl g response io events hcalls

theorem refused_handleCommand {kind : Refusal} (g : Gateway φ β) (command : GatewayCommand)
    (io : CommandIo ω η) (h : r.commandRefusal command g.session io = some kind) :
    r.Refused kind g.session
      (if kind = .dangerousSql then g.session.backendEndpoint
        else r.plannedEndpoint command g.session io)
      (r.handleCommand g command io) := by
  unfold commandRefusal at h
  unfold handleCommand
  cases hdangerous : r.dangerousCommandCapability command with
  | some capability =>
    rw [hdangerous] at h
    cases h
    exact r.refused_unit rfl g _ io
  | none =>
    rw [hdangerous] at h
    dsimp only at h ⊢
    cases hroute : r.route command g.session io with
    | error e =>
      rw [hroute] at h
      cases h
    | ok routed =>
      rw [hroute] at h
      cases hcursor : cursorSql command with
      | some cursor =>
        rw [hcursor] at h
        cases h
      | none =>
        rw [hcursor] at h
        dsimp only at h ⊢
        have hrefused := r.refused_decideAndExecute { g with session := routed } command io h
        have hsame := r.route_ok hroute
        have hfail : (r.failUnit routed).transactionState =
            (r.failUnit g.session).transactionState := by
          rw [hsame]
          unfold failUnit
          dsimp only
          split <;> rfl
        have hkind : kind ≠ .dangerousSql := by
          rintro rfl
          unfold decisionRefusal at h
          split at h
          · cases h
          · cases h
          · split at h
            · cases h
            · cases h
            · split at h
              · cases h
              · cases h
        refine ⟨hrefused.calls, hrefused.state.trans ?_, hrefused.database.trans ?_, hrefused.endpoint.trans ?_⟩
        · dsimp only
          rw [hfail, hsame]
        · dsimp only
          rw [hsame]
        · rw [if_neg hkind]
          unfold plannedEndpoint
          rw [hroute]

/-- **A refused frame**, for any two adapters. -/
theorem refused_handleFrame {kind : Refusal} (g : Gateway φ β) (frame : ι)
    (io : Nat → CommandIo ω η) (h : r.frameRefusal g frame io = some kind) :
    r.Refused kind (r.decoded g frame).session (r.refusedEndpoint g frame io kind) (r.handleFrame g frame io) := by
  have hendpoint : (r.decoded g frame).session.backendEndpoint = g.session.backendEndpoint :=
    r.frontend.decode_endpoint g.frontend frame g.session
  unfold frameRefusal at h
  rcases r.handleFrame_cases g frame io with ⟨hnone, _⟩ | ⟨command, _, hdec, hevents, hgateway, _⟩
  · -- a text that was forbidden while it was decoded
    unfold commandsOf at hnone
    split at h
    · next command rest hdec =>
      rw [hdec] at hnone
      cases hnone
    · next code hdec =>
      obtain ⟨capability, hcode, hkind⟩ := Option.map_eq_some_iff.mp h
      subst hkind
      have hfails : Refusal.failsUnit .dangerousSql = true := rfl
      have hreject := r.refused_unit hfails (r.decoded g frame)
        (.error "0A000" ("unsupported capability: " ++ capability.asStr)) (io 0)
      have hframe : r.handleFrame g frame io =
          r.rejectUnsupportedCapability (r.decoded g frame) capability (io 0) := by
        unfold handleFrame
        dsimp only
        rw [hdec]
        dsimp only
        rw [hcode]
        rfl
      rw [hframe]
      exact ⟨hreject.calls, hreject.state, hreject.database, hreject.endpoint.trans hendpoint⟩
    · cases h
  · rw [hdec] at h
    have hrefused := r.refused_handleCommand (r.decoded g frame) command (io 0) h
    refine ⟨?_, ?_, ?_, ?_⟩
    · rw [hevents]
      exact hrefused.calls
    · rw [hgateway]
      exact hrefused.state
    · rw [hgateway]
      exact hrefused.database
    · rw [hgateway, hrefused.endpoint]
      unfold refusedEndpoint
      cases kind with
      | dangerousSql => exact hendpoint
      | plugin => rw [hdec]; rfl
      | translation => rw [hdec]; rfl
      | security => rw [hdec]; rfl

/-- Routing stays where the session is: without a policy, or at an endpoint that was chosen once. -/
def StaysPut (session : SessionState) : Prop :=
  match r.service.routePolicy with
  | none => True
  | some policy =>
    session.backendEndpoint.isSome = true ∧ (policy.isSticky = true ∨ session.transactionState = .active)

theorem plannedEndpoint_stays {session : SessionState} (h : r.StaysPut session)
    (command : GatewayCommand) (io : CommandIo ω η) :
    r.plannedEndpoint command session io = session.backendEndpoint := by
  unfold plannedEndpoint route
  unfold StaysPut at h
  cases hpolicy : r.service.routePolicy with
  | none => rfl
  | some policy =>
    rw [hpolicy] at h
    dsimp only at h ⊢
    obtain ⟨name, hname⟩ := Option.isSome_iff_exists.mp h.1
    have hplan : policy.planCommand command session io.draw = policy.endpointByName name := by
      unfold CoreRoutePolicy.planCommand
      rw [hname]
      refine if_pos ?_
      rcases h.2 with hsticky | hactive
      · rw [hsticky]
        rfl
      · rw [hactive]
        exact Bool.or_true _
    rw [hplan]
    cases hfound : policy.endpointByName name with
    | error e => rfl
    | ok endpoint =>
      show some endpoint.name = session.backendEndpoint
      rw [hname, (endpointByName_ok hfound).2]

/-- A frame refused by `kind` changes only what the decoder wrote, the failed unit and the planned endpoint. -/
structure LeavesSession (kind : Refusal) (g : Gateway φ β) (frame : ι) (io : Nat → CommandIo ω η)
    (control usesDatabase : Prop) : Prop where
  calls : calls (r.handleFrame g frame io).events = []
  state : ¬control →
    (r.handleFrame g frame io).gateway.session.transactionState =
      if kind.failsUnit = true ∧ r.frontend.protocol = .postgreSql ∧
          (r.decoded g frame).session.pgExtendedQuery = true then
        g.session.transactionState.afterError
      else g.session.transactionState
  database : ¬usesDatabase → (r.handleFrame g frame io).gateway.session.database = g.session.database
  endpoint : (r.handleFrame g frame io).gateway.session.backendEndpoint = r.refusedEndpoint g frame io kind
  stays : kind = .dangerousSql ∨ r.StaysPut (r.decoded g frame).session →
    (r.handleFrame g frame io).gateway.session.backendEndpoint = g.session.backendEndpoint

theorem failUnit_state (session : SessionState) : (r.failUnit session).transactionState =
      if r.frontend.protocol = .postgreSql ∧ session.pgExtendedQuery = true then
        session.transactionState.afterError
      else session.transactionState := by
  unfold failUnit
  split
  · rfl
  · rfl

theorem leavesSession {kind : Refusal} {g : Gateway φ β} {frame : ι} {io : Nat → CommandIo ω η}
    (h : r.frameRefusal g frame io = some kind) {control usesDatabase : Prop}
    (hstate : ¬control → (r.decoded g frame).session.transactionState = g.session.transactionState)
    (hdatabase : ¬usesDatabase → (r.decoded g frame).session.database = g.session.database) :
    r.LeavesSession kind g frame io control usesDatabase := by
  have hrefused := r.refused_handleFrame g frame io h
  have hendpoint : (r.decoded g frame).session.backendEndpoint = g.session.backendEndpoint :=
    r.frontend.decode_endpoint g.frontend frame g.session
  refine ⟨hrefused.calls, ?_, fun hplain => hrefused.database.trans (hdatabase hplain), hrefused.endpoint, ?_⟩
  · intro hplain
    rw [hrefused.state, r.failUnit_state, hstate hplain]
    cases kind.failsUnit with
    | true =>
      rw [if_pos rfl]
      exact if_congr ⟨fun hunit => ⟨rfl, hunit⟩, fun hunit => hunit.2⟩ rfl rfl
    | false => exact (if_neg fun hfails => Bool.false_ne_true hfails.1).symm
  · intro hstays
    rw [hrefused.endpoint]
    unfold refusedEndpoint
    rcases hstays with rfl | hstays
    · rfl
    · cases kind with
      | dangerousSql => rfl
      | _ =>
        dsimp only
        split
        · exact (r.plannedEndpoint_stays hstays _ (io 0)).trans hendpoint
        · rfl

end Runtime

/-! ## What the decoders write -/

/-- Transaction control, as the PostgreSQL decoder takes it. -/
def controlFrame (frame : RawFrame) : Prop := ∃ f, frame.content = .ok f ∧ ¬PlainMessage f.message

/-- Transaction control, as the MySQL decoder takes it. -/
def controlPacket : MySqlPacket → Prop
  | .query (.ok sql) => normalized sql ∈ controlWords
  | _ => False

def initDbPacket : MySqlPacket → Prop
  | .initDb _ => True
  | _ => False

theorem decodeMessage_database (d : Dialect) (p : PostgreSqlFrontend) (frame : ClientFrame) (session : SessionState) :
    (decodeMessage d p frame session).2.1.database = session.database := by
  unfold decodeMessage
  split
  · rfl
  cases frame.message with
  | query sql =>
    obtain ⟨charset, state, hs⟩ := decodeQueryCommand_cases sql { session with pgExtendedQuery := false }
    dsimp only
    unfold decodeQuery
    dsimp only
    rw [hs]
  | terminate => rfl
  | flush => rfl
  | sync =>
    dsimp only
    unfold decodeSync
    dsimp only
    split <;> rfl
  | parse statement query =>
    dsimp only
    unfold decodeParse
    split <;> rfl
  | bind portal statement parameters formats =>
    dsimp only
    unfold decodeBind
    dsimp only
    split
    · rfl
    · split <;> rfl
  | describe target name =>
    dsimp only
    unfold decodeDescribe
    dsimp only
    split
    · split
      · rfl
      · split <;> rfl
    · split <;> rfl
  | execute portal maxRows =>
    dsimp only
    unfold decodeExecute
    dsimp only
    split <;> rfl
  | close target name =>
    dsimp only
    unfold decodeClose
    cases target with
    | statement => rfl
    | portal =>
      dsimp only [clientWire]
      split <;> rfl

theorem decode_database (d : Dialect) (p : PostgreSqlFrontend) (frame : RawFrame)
    (session : SessionState) : (decode d p frame session).2.1.database = session.database := by
  unfold decode
  cases frame.content with
  | error e => rfl
  | ok f => exact decodeMessage_database d p f session

theorem decode_state (d : Dialect) (p : PostgreSqlFrontend) {frame : RawFrame}
    (session : SessionState) (h : ¬controlFrame frame) :
    (decode d p frame session).2.1.transactionState = session.transactionState := by
  unfold decode
  cases hcontent : frame.content with
  | error e => rfl
  | ok f =>
    have hplain : PlainMessage f.message := by
      by_contra hcontrol
      exact h ⟨f, hcontent, hcontrol⟩
    exact (decodesPlain_message d p hplain session).state

theorem decodeMySql_state (p : MySqlFrontend) {packet : MySqlPacket} (session : SessionState)
    (h : ¬controlPacket packet) : (decodeMySql p packet session).2.1.transactionState = session.transactionState := by
  cases packet with
  | query sql =>
    rcases sql with e | sql
    · rfl
    · have hword : ∀ word ∈ controlWords, normalized sql ≠ word := by
        intro word hmem heq
        exact h (show normalized sql ∈ controlWords from heq ▸ hmem)
      have hbegin := hword "begin" (by decide)
      have hstart := hword "start transaction" (by decide)
      have hcommit := hword "commit" (by decide)
      have hrollback := hword "rollback" (by decide)
      rw [decodeMySql_query]
      unfold decodeMySqlQuery
      rw [if_neg (not_or.mpr ⟨hbegin, hstart⟩), if_neg hcommit, if_neg hrollback]
      split <;> rfl
  | initDb database => rcases database with e | database <;> rfl
  | stmtPrepare sql => rcases sql with e | sql <;> rfl
  | stmtExecute payload => rcases payload with _ | ⟨id, e | parameters⟩ <;> rfl
  | stmtClose id => rcases id with _ | id <;> rfl
  | _ => rfl

theorem decodeMySql_database (p : MySqlFrontend) {packet : MySqlPacket} (session : SessionState)
    (h : ¬initDbPacket packet) : (decodeMySql p packet session).2.1.database = session.database := by
  cases packet with
  | query sql =>
    rcases sql with e | sql
    · rfl
    · obtain ⟨charset, state, hs⟩ := decodeMySqlQuery_touches p sql session
      rw [decodeMySql_query, hs]
  | initDb database => exact absurd trivial h
  | stmtPrepare sql => rcases sql with e | sql <;> rfl
  | stmtExecute payload => rcases payload with _ | ⟨id, e | parameters⟩ <;> rfl
  | stmtClose id => rcases id with _ | id <;> rfl
  | _ => rfl

/-- **Refusals.**  A frame refused before the backend leaves the database as it was, unless it is a COM_INIT_DB; the
    transaction, unless it is transaction control or its unit failed; and the endpoint planned for the command. -/
theorem refusal_leaves_session (backend : BackendConnector β ω η κ) (service : Service) :
    (∀ (d : Dialect) (codec : PostgreSqlFrontend → SessionState → Option Obligations → RowCodec)
        (g : Gateway PostgreSqlFrontend β) (frame : RawFrame) (io : Nat → CommandIo ω η) (kind : Refusal),
      (Runtime.mk (postgreSqlAdapter d codec) backend service).frameRefusal g frame io = some kind →
      (Runtime.mk (postgreSqlAdapter d codec) backend service).LeavesSession kind g frame io
        (controlFrame frame) False) ∧ ∀ (codec : MySqlFrontend → SessionState → Option Obligations → RowCodec)
        (g : Gateway MySqlFrontend β) (packet : MySqlPacket) (io : Nat → CommandIo ω η) (kind : Refusal),
      (Runtime.mk (mySqlAdapter codec) backend service).frameRefusal g packet io = some kind →
      (Runtime.mk (mySqlAdapter codec) backend service).LeavesSession kind g packet io
        (controlPacket packet) (initDbPacket packet) := by
  constructor
  · intro d codec g frame io kind h
    exact Runtime.leavesSession _ h (decode_state d g.frontend g.session)
      fun _ => decode_database d g.frontend frame g.session
  · intro codec g packet io kind h
    exact Runtime.leavesSession _ h (decodeMySql_state g.frontend g.session)
      (decodeMySql_database g.frontend g.session)

/-! ## A plugin that rejects everything -/

/-- Everything works, but a plugin rejects the command. -/
def rejectedIo : CommandIo CallIo HealthIo :=
  { workingIo (rulesOnly []) noRewriters with
    plugin := .ok (.reject "circuit_break" "audit plugin rejected") }

def rejectedMySqlIo : CommandIo MySql.CallIo Unit where
  draw := ⟨0, 0⟩
  plugin := .ok (.reject "circuit_break" "audit plugin rejected")
  pdp := (workingIo (rulesOnly []) noRewriters).pdp
  call := MySql.CallIo.works .empty
  health := ()
  written := .ok ()

/-- A service with plugins, and one that splits reads from writes. -/
def pluginService : Service := { plainService false with pluginsEnabled := true }

/-- A reader beside the endpoint `e`. -/
def splittingService : Service :=
  { pluginService with
    routePolicy := some
      ⟨[⟨"e", "db:5432", some "app", .readWrite, "dn", 1⟩, ⟨"r", "db:5433", some "app", .read, "dn", 1⟩],
        .readWrite ⟨.random, [⟨"r", "db:5433", some "app", .read, "dn", 1⟩]⟩
          ⟨.random, [⟨"e", "db:5432", some "app", .readWrite, "dn", 1⟩]⟩,
        fun _ => true⟩ }

/-- A PostgreSQL service that takes every text for forbidden. -/
def forbiddingRuntime : Runtime PostgreSqlFrontend RawFrame Connector CallIo HealthIo Nat :=
  postgreSqlRuntime { plainDialect with classifyDangerousSql := fun _ => some .postgresDo } plainCodec
    pluginService

/-- A MySQL session on the database `app`. -/
def mySqlStart : Gateway MySqlFrontend Connector :=
  Gateway.start ⟨false⟩ aliceStart.backend { SessionState.default with database := some "app" }

theorem rejected_statements_leave_session :
    (postgreSqlRuntime plainDialect plainCodec pluginService).LeavesSession .plugin aliceStart
        (frameOf (.query "select 1")) (fun _ => rejectedIo) (controlFrame (frameOf (.query "select 1"))) False ∧
      (mySqlRuntime (fun _ _ _ => plainCodec .new .default none) pluginService).LeavesSession .plugin
        mySqlStart (.query (.ok "select 1")) (fun _ => rejectedMySqlIo)
        (controlPacket (.query (.ok "select 1"))) (initDbPacket (.query (.ok "select 1"))) :=
  ⟨(refusal_leaves_session postgreSqlConnector pluginService).1 plainDialect plainCodec aliceStart
      (frameOf (.query "select 1")) (fun _ => rejectedIo) .plugin (by decide),
    (refusal_leaves_session mySqlConnector pluginService).2 (fun _ _ _ => plainCodec .new .default none)
      mySqlStart (.query (.ok "select 1")) (fun _ => rejectedMySqlIo) .plugin (by decide +kernel)⟩

/-- All three fields are as before a refused frame. -/
def LeavesAll (r : Runtime φ ι β ω η κ) (g : Gateway φ β) (frame : ι) (io : Nat → CommandIo ω η) : Prop :=
  ∀ kind, r.frameRefusal g frame io = some kind →
    (r.handleFrame g frame io).gateway.session.transactionState = g.session.transactionState ∧
      (r.handleFrame g frame io).gateway.session.database = g.session.database ∧
      (r.handleFrame g frame io).gateway.session.backendEndpoint = g.session.backendEndpoint

/-- **What is left behind**: `Active` after a rejected BEGIN, the other database, a failed transaction, the endpoint
    planned for a rejected read. -/
theorem refusals_leave_traces : ¬LeavesAll (postgreSqlRuntime plainDialect plainCodec pluginService) aliceStart
        (frameOf (.query "BEGIN")) (fun _ => rejectedIo) ∧
      ¬LeavesAll (mySqlRuntime (fun _ _ _ => plainCodec .new .default none) pluginService) mySqlStart
        (.initDb (.ok "other")) (fun _ => rejectedMySqlIo) ∧ ¬LeavesAll forbiddingRuntime
        { aliceStart with session := { aliceStart.session with transactionState := .active } }
        (frameOf (.parse "" "do $$ $$")) (fun _ => rejectedIo) ∧
      ¬LeavesAll (postgreSqlRuntime plainDialect plainCodec splittingService) aliceStart
        (frameOf (.query "select 1")) (fun _ => rejectedIo) := by
  refine ⟨fun h => ?_, fun h => ?_, fun h => ?_, fun h => ?_⟩
  · exact absurd (h .plugin (by decide)).1 (by decide)
  · exact absurd (h .plugin (by decide)).2.1 (by decide)
  · exact absurd (h .dangerousSql (by decide)).1 (by decide)
  · exact absurd (h .plugin (by decide)).2.2 (by decide)

end DataNexus.Engine
