/-
  Prepared execution and the obligations of its text.

  The decision for a statement is taken twice on the COM_STMT path: on the text when it is prepared, and
  on the bare id when it is executed.  Obligations are attached per command, so the rows of an Execute are
  written under those of the second decision:

      row filter, column rewrite   in the text: Prepare registers the text as the decision rewrote it
      row cap                      the policy's, attached to every Execute
      column masks, watermark      attached to the text's decision only, and lost

  `Treatment` is what the rows of a statement go through on their way to the client.
-/
import DataNexus.Engine.Mediation
import DataNexus.Engine.MySql

namespace DataNexus.Engine

open DataNexus.Frontend DataNexus.Backend DataNexus.Pdp DataNexus.Tickets

/-! ## Statements that are let through -/

/-- A frame that was let through: the routed session, the command handed to the backend, and the
    obligations under which its rows are written. -/
structure Granted where
  session : SessionState
  command : GatewayCommand
  obligations : Obligations
deriving DecidableEq

namespace Runtime

variable {φ ι β ω η κ : Type} (r : Runtime φ ι β ω η κ)

/-- A command that is routed, is no statement about cursors, and passes the stages before execution. -/
def grantedCommand (g : Gateway φ β) (command : GatewayCommand) (io : CommandIo ω η) : Option Granted :=
  match r.dangerousCommandCapability command, r.route command g.session io, cursorSql command with
  | none, .ok session, none =>
    match (r.precheck command session io).1 with
    | .admitted handed obligations => some ⟨session, handed, obligations⟩
    | _ => none
  | _, _, _ => none

def granted (g : Gateway φ β) (frame : ι) (io : Nat → CommandIo ω η) : Option Granted :=
  match r.commandsOf g frame with
  | [command] => r.grantedCommand (r.decoded g frame) command (io 0)
  | _ => none

variable {g : Gateway φ β} {x : Granted}

theorem granted_of_decode {frame : ι} {command : GatewayCommand}
    (h : (r.frontend.decode g.frontend frame g.session).1 = .ok [command]) (io : Nat → CommandIo ω η) :
    r.granted g frame io = r.grantedCommand (r.decoded g frame) command (io 0) := by
  unfold granted commandsOf
  rw [h]

theorem grantedCommand_cases {command : GatewayCommand} {io : CommandIo ω η}
    (h : r.grantedCommand g command io = some x) :
    r.dangerousCommandCapability command = none ∧ r.route command g.session io = .ok x.session ∧
      cursorSql command = none ∧ (r.precheck command x.session io).1 = .admitted x.command x.obligations := by
  unfold grantedCommand at h
  split at h
  · rename_i session hdanger hroute hcursor
    split at h
    · rename_i handed obligations hcheck
      cases h
      exact ⟨hdanger, hroute, hcursor, hcheck⟩
    · cases h
  · cases h

theorem handleCommand_of_granted {command : GatewayCommand} {io : CommandIo ω η}
    (h : r.grantedCommand g command io = some x) : r.handleCommand g command io =
      (r.execute { g with session := x.session } command x.command x.obligations io).after
        (r.precheck command x.session io).2 := by
  obtain ⟨hdanger, hroute, hcursor, hcheck⟩ := r.grantedCommand_cases h
  unfold handleCommand
  rw [hdanger, hroute, hcursor]
  dsimp only
  unfold decideAndExecute
  dsimp only
  rcases hpre : r.precheck command x.session io with ⟨verdict, asked⟩
  rw [hpre] at hcheck
  dsimp only at hcheck
  rw [hcheck]

/-- The text of a statement as the plugins leave it. -/
def pluginText (service : Service) (io : CommandIo ω η) (sql : String) : String :=
  match service.pluginsEnabled, io.plugin with
  | true, .ok (.rewrite text) => text
  | _, _ => sql

theorem asked_pluginText (htranslation : r.service.translation = none) {command a : GatewayCommand}
    {io : CommandIo ω η} (h : r.asked command io = some a) :
    a = command ∧ (∀ sql, pluginText r.service io sql = sql) ∨
      ∃ text, (∀ sql, pluginText r.service io sql = text) ∧ a = rewrittenSql text command := by
  unfold asked pluginStage translationStage at h
  rw [htranslation] at h
  unfold pluginText
  cases hon : r.service.pluginsEnabled with
  | false =>
    rw [hon] at h
    cases h
    exact .inl ⟨rfl, fun _ => rfl⟩
  | true =>
    rw [hon] at h
    cases hplugin : io.plugin with
    | error text =>
      rw [hplugin] at h
      cases h
    | ok decision =>
      rw [hplugin] at h
      cases decision with
      | proceed =>
        cases h
        exact .inl ⟨rfl, fun _ => rfl⟩
      | reject code message => cases h
      | rewrite text =>
        cases h
        exact .inr ⟨text, fun _ => rfl, rfl⟩

theorem grantedCommand_decided (hsecurity : r.service.securityEnabled = true) {command : GatewayCommand}
    {io : CommandIo ω η} (h : r.grantedCommand g command io = some x) : ∃ a, r.asked command io = some a ∧
      ((r.decision a x.session io = some (.allow x.obligations) ∧ x.command = a) ∨
        ∃ text, r.decision a x.session io = some (.allowRewrite text x.obligations) ∧
          x.command = withRewrite text a) := by
  obtain ⟨_, _, _, hcheck⟩ := r.grantedCommand_cases h
  have hpair : r.precheck command x.session io =
      (.admitted x.command x.obligations, (r.precheck command x.session io).2) := by
    rw [← hcheck]
  obtain ⟨a, hasked, hstage⟩ := r.precheck_admitted hpair
  exact ⟨a, hasked, (r.securityStage_admitted hsecurity hstage).2⟩

end Runtime

/-! ## What rows go through -/

/-- What the rows of a statement go through on their way to the client. -/
structure Treatment where
  /-- The text they come from, with its row filter and column rewrite. -/
  text : Option String
  columnMasks : List MaskSpec
  watermark : Option WatermarkSpec
  writerCap : Option Nat
  producerCap : Option Nat
deriving DecidableEq

/-- The text whose rows a command returns; an Execute has it from the registry. -/
def rowText (c : Connector) : GatewayCommand → Option String
  | .query sql => some sql
  | .queryParams sql _ => some sql
  | .execute id _ => c.preparedSql id
  | _ => none

section MySql

variable (codec : MySqlFrontend → SessionState → Option Obligations → RowCodec) (service : Service)

/-- The treatment of a granted command, over the connector `c`. -/
def treatment (c : Connector) (x : Granted) : Treatment where
  text := rowText c x.command
  columnMasks := x.obligations.columnMasks
  watermark := x.obligations.watermark
  writerCap := x.obligations.maxRows
  producerCap := maxRowsOf (MySql.rowMode x.command ((mySqlRuntime codec service).execMode x.command x.obligations))

/-- Two commands meet the same plugins and, under the policy `p`, the same decision point. -/
structure SameWorld (p : LocalPdpInner) (a b : CommandIo MySql.CallIo Unit) : Prop where
  plugin : a.plugin = b.plugin
  pdp : a.pdp = b.pdp
  reads : a.pdp.reads = Reads.single p

/-- The policy attaches neither a mask nor a watermark to the text. -/
def Unmarked (c : Call) (sql : String) : Prop :=
  ∀ r, classify c sql = .ok r → r.action = .select →
    collectMaskSpecs c.reads.masks c.subject c.objects r.tables r.columns = [] ∧
    c.reads.watermark.watermark.enabled = false

/-! ## The registry -/

theorem preparedSql_acquireConn (c : Connector) (endpoint : EndpointConfig) (session : SessionState)
    (io : AcquireIo) : (MySql.acquireConn c endpoint session io).2.preparedSql = c.preparedSql := by
  unfold MySql.acquireConn Connector.buildConn
  split
  · rfl
  dsimp only
  split
  · split <;> rfl
  split
  · rfl
  · split <;> rfl

theorem preparedSql_takeOrAcquireLease (c : Connector) (endpoint : EndpointConfig)
    (session : SessionState) (io : AcquireIo) :
    (MySql.takeOrAcquireLease c endpoint session io).2.preparedSql = c.preparedSql := by
  unfold MySql.takeOrAcquireLease
  split
  · rfl
  · exact preparedSql_acquireConn c endpoint session io

theorem preparedSql_giveBack (c : Connector) (toLease : Bool) (conn : Conn) :
    (c.giveBack toLease conn).preparedSql = c.preparedSql := by
  unfold Connector.giveBack Connector.storeLease Connector.putConn Connector.setLease Connector.putConn
  repeat' split
  all_goals rfl

theorem preparedSql_describeSqlColumns (c : Connector) (endpoint : EndpointConfig) (sql : String)
    (session : SessionState) (io : MySql.StatementIo) :
    (MySql.describeSqlColumns c endpoint sql session io).2.preparedSql = c.preparedSql := by
  have hconn : (if c.leasing session then MySql.takeOrAcquireLease c endpoint session io.acquire
      else MySql.acquireConn c endpoint session io.acquire).2.preparedSql = c.preparedSql := by
    split
    · exact preparedSql_takeOrAcquireLease c endpoint session io.acquire
    · exact preparedSql_acquireConn c endpoint session io.acquire
  unfold MySql.describeSqlColumns
  split
  · rename_i hget
    rw [hget] at hconn
    exact hconn
  · rename_i hget
    rw [hget] at hconn
    rw [preparedSql_giveBack, ← hconn]
    split <;> rfl

theorem prepareStatement_registers (c : Connector) (sql : String) (session : SessionState) (io : MySql.StatementIo) :
    (MySql.prepareStatement c sql session io).2.preparedSql (toString (MySql.nextId c)) = some sql := by
  have hregister : (MySql.register c sql).preparedSql (toString (MySql.nextId c)) = some sql :=
    Function.update_self _ _ _
  unfold MySql.prepareStatement
  split
  · exact hregister
  · rename_i endpoint _
    have hdescribe := preparedSql_describeSqlColumns (MySql.register c sql) endpoint sql session io
    split
    · rename_i hget
      rw [hget] at hdescribe
      rw [← hregister, ← hdescribe]
    · rename_i hget
      rw [hget] at hdescribe
      rw [← hregister, ← hdescribe]

theorem execute_prepare_backend (g : Gateway MySqlFrontend Connector) (decoded : GatewayCommand)
    (text : String) (o : Obligations) (io : CommandIo MySql.CallIo Unit) :
    ∃ session, ((mySqlRuntime codec service).execute g decoded (.prepare text) o io).gateway.backend =
      (MySql.prepareStatement g.backend text session io.call.statement).2 := by
  have hres : ∀ g' : Gateway MySqlFrontend Connector,
      Runtime.resumesHeldPortal g' (.prepare text) = false := by
    intro g'
    exact Bool.and_false _
  have hback : (Runtime.dropInvalidatedPortal g).backend = g.backend := by
    rw [Runtime.dropInvalidatedPortal_eq]
  refine ⟨(Runtime.dropInvalidatedPortal g).session, ?_⟩
  unfold Runtime.execute Runtime.obtainOutcome
  dsimp only
  rw [hres]
  split
  · rename_i htrue
    cases htrue
  · rw [Handled.after_gateway, (Runtime.settle_leaves _ _ _ _ _ _ _).1, hback]
    rfl

variable {g : Gateway MySqlFrontend Connector} {x : Granted} {o o' : Obligations} {c : Call}

theorem registered_of_granted {sql text : String} {io : Nat → CommandIo MySql.CallIo Unit}
    (h : (mySqlRuntime codec service).granted g (.stmtPrepare (.ok sql)) io = some x)
    (htext : x.command = .prepare text) :
    ((mySqlRuntime codec service).handleFrame g (.stmtPrepare (.ok sql)) io).gateway.backend.preparedSql
      (toString (MySql.nextId g.backend)) = some text := by
  have hone : (mySqlRuntime codec service).commandsOf g (.stmtPrepare (.ok sql)) = [.prepare sql] := rfl
  rcases (mySqlRuntime codec service).handleFrame_cases g (.stmtPrepare (.ok sql)) io with
    ⟨hnone, _⟩ | ⟨command, hcommand, _, _, hgateway, _⟩
  · rw [hone] at hnone
    cases hnone
  · rw [hone] at hcommand
    cases hcommand
    have hgranted : (mySqlRuntime codec service).grantedCommand
        ((mySqlRuntime codec service).decoded g (.stmtPrepare (.ok sql))) (.prepare sql) (io 0) = some x := h
    have hhandled := (mySqlRuntime codec service).handleCommand_of_granted hgranted
    rw [hgateway, hhandled, Handled.after_gateway, htext]
    obtain ⟨session, hbackend⟩ := execute_prepare_backend codec service
      { (mySqlRuntime codec service).decoded g (.stmtPrepare (.ok sql)) with session := x.session }
      (.prepare sql) text x.obligations (io 0)
    rw [hbackend]
    exact prepareStatement_registers g.backend text session (io 0).call.statement

/-! ## Query and Execute -/

/-- The question about a statement: the text as the plugins leave it. -/
def question (g : Gateway MySqlFrontend Connector) (sql : String) (io : CommandIo MySql.CallIo Unit) : Call :=
  (mySqlRuntime codec service).pdpCall (.query (Runtime.pluginText service io sql)) g.session io

/-- The decision allows the text `asked` as `text`. -/
def Allows (d : Option SecurityDecision) (asked text : String) (o : Obligations) : Prop :=
  (d = some (.allow o) ∧ text = asked) ∨ d = some (.allowRewrite text o)

theorem allows_unique {d : Option SecurityDecision} {asked text text' : String} (h : Allows d asked text o)
    (h' : Allows d asked text' o') : text = text' ∧ o = o' := by
  rcases h with ⟨rfl, rfl⟩ | rfl
  · rcases h' with ⟨h', rfl⟩ | h'
    · cases h'
      exact ⟨rfl, rfl⟩
    · cases h'
  · rcases h' with ⟨h', _⟩ | h'
    · cases h'
    · cases h'
      exact ⟨rfl, rfl⟩

theorem grantedCommand_allows (hsecurity : service.securityEnabled = true)
    (htranslation : service.translation = none) {make : String → GatewayCommand}
    (hmake : make = .query ∨ make = .prepare) {sql : String} {io : CommandIo MySql.CallIo Unit}
    (h : (mySqlRuntime codec service).grantedCommand g (make sql) io = some x) : ∃ text, x.command = make text ∧
      Allows (sqlOutcome ((mySqlRuntime codec service).pdpCall
          (.query (Runtime.pluginText service io sql)) x.session io)
        (Runtime.pluginText service io sql) io.pdp.store).1
        (Runtime.pluginText service io sql) text x.obligations := by
  obtain ⟨a, hasked, hdecided⟩ := Runtime.grantedCommand_decided _ hsecurity h
  -- the command asked about is the same one with the plugins' text
  have ha : a = make (Runtime.pluginText service io sql) := by
    rcases Runtime.asked_pluginText _ htranslation hasked with ⟨rfl, htext⟩ | ⟨text, htext, rfl⟩
    · exact congrArg make (htext sql).symm
    · rw [show Runtime.pluginText service io sql = text from htext sql]
      rcases hmake with rfl | rfl <;> rfl
  have hdecision : ∀ t session, (mySqlRuntime codec service).decision (make t) session io =
      (sqlOutcome ((mySqlRuntime codec service).pdpCall (.query t) session io) t io.pdp.store).1 := by
    intro t session
    rcases hmake with rfl | rfl <;> rfl
  rw [ha, hdecision] at hdecided
  rcases hdecided with ⟨hd, hcommand⟩ | ⟨text, hd, hcommand⟩
  · exact ⟨_, hcommand, .inl ⟨hd, rfl⟩⟩
  · refine ⟨text, ?_, .inr hd⟩
    rw [hcommand]
    rcases hmake with rfl | rfl <;> rfl

theorem grantedCommand_execute (hsecurity : service.securityEnabled = true)
    (htranslation : service.translation = none) {id : String} {parameters : List GatewayValue}
    {io : CommandIo MySql.CallIo Unit} (hopen : io.pdp.reads.entry.failClosed = false)
    (h : (mySqlRuntime codec service).grantedCommand g (.execute id parameters) io = some x) :
    x.command = .execute id parameters ∧
      x.obligations = { Obligations.none with maxRows := io.pdp.reads.entry.defaultMaxRows } := by
  obtain ⟨a, hasked, hdecided⟩ := Runtime.grantedCommand_decided _ hsecurity h
  have ha : a = .execute id parameters := by
    rcases Runtime.asked_pluginText _ htranslation hasked with ⟨rfl, _⟩ | ⟨text, _, rfl⟩
    · rfl
    · rfl
  have hdecision : (mySqlRuntime codec service).decision (.execute id parameters) x.session io =
      some (.allow { Obligations.none with maxRows := io.pdp.reads.entry.defaultMaxRows }) := by
    unfold Runtime.decision authorizeCommandWithObjects authorizeCommand
    dsimp only
    rw [show ((mySqlRuntime codec service).pdpCall (.execute id parameters) x.session io).reads.entry =
      io.pdp.reads.entry from rfl, hopen, if_neg Bool.false_ne_true]
    rfl
  rw [ha, hdecision] at hdecided
  rcases hdecided with ⟨hd, hcommand⟩ | ⟨text, hd, _⟩
  · injection hd with hd
    injection hd with hd
    exact ⟨hcommand, hd.symm⟩
  · cases hd

/-- The mode of a row command depends on its obligations alone, and the demotion of a passed-through
    Execute opens no other cap. -/
theorem producerCap_eq (text id : String) (parameters : List GatewayValue)
    (hresult : o'.hasResultObligations = o.hasResultObligations) (hcap : o'.maxRows = o.maxRows) :
    maxRowsOf (MySql.rowMode (.execute id parameters)
      ((mySqlRuntime codec service).execMode (.execute id parameters) o')) =
    maxRowsOf (MySql.rowMode (.query text) ((mySqlRuntime codec service).execMode (.query text) o)) := by
  have hmode : (mySqlRuntime codec service).execMode (.execute id parameters) o' =
      (mySqlRuntime codec service).execMode (.query text) o := by
    unfold Runtime.execMode Runtime.wantPassthrough
    rw [hresult, hcap]
    rfl
  rw [hmode]
  cases (mySqlRuntime codec service).execMode (.query text) o with
  | materialized => rfl
  | streaming windowRows maxRows => rfl
  | passthrough => rfl

theorem owes_of_allows {sql text : String} {store : TicketStore}
    (h : Allows (sqlOutcome c sql store).1 sql text o) : ∃ r, classify c sql = .ok r ∧ Owes c r o := by
  rcases h with ⟨hd, _⟩ | hd
  · obtain ⟨r, hr, hpath⟩ := sqlOutcome_allowed hd rfl
    exact ⟨r, hr, allowPath_owes (.inl hpath)⟩
  · obtain ⟨r, hr, hpath⟩ := sqlOutcome_allowed hd rfl
    exact ⟨r, hr, allowPath_owes (.inr ⟨text, hpath⟩)⟩

theorem unmarked_iff {sql : String} {r : Classified} (hr : classify c sql = .ok r) (ho : Owes c r o) :
    Unmarked c sql ↔ o.columnMasks = [] ∧ o.watermark = none := by
  have hwatermark : buildWatermark c.reads.watermark c.subject c.service c.clock.watermarkMs = none ↔
      c.reads.watermark.watermark.enabled = false := by
    unfold buildWatermark
    cases c.reads.watermark.watermark.enabled with
    | true => exact ⟨nofun, nofun⟩
    | false => exact ⟨fun _ => rfl, fun _ => rfl⟩
  rw [ho.columnMasks, ho.watermark]
  by_cases hselect : r.action = .select
  · rw [if_pos hselect, if_pos hselect, hwatermark]
    constructor
    · intro h
      exact h r hr hselect
    · intro h r' hr' _
      rw [hr] at hr'
      cases hr'
      exact h
  · rw [if_neg hselect, if_neg hselect]
    refine ⟨fun _ => ⟨rfl, rfl⟩, ?_⟩
    intro _ r' hr' hselect'
    rw [hr] at hr'
    cases hr'
    exact absurd hselect' hselect

theorem pdpCall_routed {r : Runtime MySqlFrontend MySqlPacket Connector MySql.CallIo Unit Nat}
    {session : SessionState} {command : GatewayCommand} {io io' : CommandIo MySql.CallIo Unit}
    (hroute : r.route command session io = .ok session') (huser : session.user = g.session.user)
    (hdatabase : session.database = g.session.database) (hpdp : io.pdp = io'.pdp) (asked : GatewayCommand) :
    r.pdpCall asked session' io = r.pdpCall asked g.session io' := by
  rw [r.route_ok hroute]
  unfold Runtime.pdpCall
  dsimp only
  rw [huser, hdatabase, hpdp]

theorem granted_query_allows (hsecurity : service.securityEnabled = true)
    (htranslation : service.translation = none) {sql text : String} {io : Nat → CommandIo MySql.CallIo Unit}
    (h : (mySqlRuntime codec service).granted g (.query (.ok sql)) io = some x) (htext : x.command = .query text) :
    Allows (sqlOutcome (question codec service g sql (io 0)) (Runtime.pluginText service (io 0) sql)
      (io 0).pdp.store).1 (Runtime.pluginText service (io 0) sql) text x.obligations := by
  have hdecoded : ∀ command, (decodeMySqlQuery g.frontend sql g.session).1 = .ok [command] →
      (mySqlRuntime codec service).grantedCommand
        ((mySqlRuntime codec service).decoded g (.query (.ok sql))) command (io 0) = some x := by
    intro command hcommand
    rw [← decodeMySql_query] at hcommand
    rw [Runtime.granted_of_decode (mySqlRuntime codec service) hcommand] at h
    exact h
  rcases decodeMySqlQuery_cases g.frontend sql g.session with ⟨command, hcommand, hcontrol⟩ | hcommand
  · -- a control command is not handed over as a Query
    obtain ⟨a, hasked, hdecided⟩ := Runtime.grantedCommand_decided _ hsecurity (hdecoded command hcommand)
    have ha : a = command := by
      rcases Runtime.asked_pluginText _ htranslation hasked with ⟨rfl, _⟩ | ⟨text', _, rfl⟩
      · rfl
      · rcases hcontrol with rfl | rfl | rfl <;> rfl
    have hhanded : x.command = command := by
      rcases hdecided with ⟨_, hx⟩ | ⟨text', _, hx⟩
      · exact hx.trans ha
      · rw [hx, ha]
        rcases hcontrol with rfl | rfl | rfl <;> rfl
    rw [htext] at hhanded
    rcases hcontrol with rfl | rfl | rfl <;> cases hhanded
  · have hgranted := hdecoded (.query sql) hcommand
    obtain ⟨text', hcommand', hallows⟩ := grantedCommand_allows codec service hsecurity htranslation (.inl rfl) hgranted
    obtain ⟨charset, state, htouched⟩ := decodeMySqlQuery_touches g.frontend sql g.session
    have hsession : ((mySqlRuntime codec service).decoded g (.query (.ok sql))).session =
        { g.session with charset := charset, transactionState := state } := by
      rw [← htouched, ← decodeMySql_query]
      rfl
    have hcall : (mySqlRuntime codec service).pdpCall
        (.query (Runtime.pluginText service (io 0) sql)) x.session (io 0) =
          question codec service g sql (io 0) := by
      refine pdpCall_routed (Runtime.grantedCommand_cases _ hgranted).2.1 ?_ ?_ rfl _
      · rw [hsession]
      · rw [hsession]
    rw [hcall] at hallows
    rw [htext] at hcommand'
    injection hcommand' with hsame
    rw [hsame]
    exact hallows

theorem granted_prepare_allows (hsecurity : service.securityEnabled = true)
    (htranslation : service.translation = none) {p : LocalPdpInner} {sql : String}
    {ioQuery io : Nat → CommandIo MySql.CallIo Unit} (hsame : SameWorld p (ioQuery 0) (io 0))
    (h : (mySqlRuntime codec service).granted g (.stmtPrepare (.ok sql)) io = some x) :
    ∃ text, x.command = .prepare text ∧ Allows (sqlOutcome (question codec service g sql (ioQuery 0))
        (Runtime.pluginText service (ioQuery 0) sql) (ioQuery 0).pdp.store).1
        (Runtime.pluginText service (ioQuery 0) sql) text x.obligations := by
  have hgranted : (mySqlRuntime codec service).grantedCommand
      ((mySqlRuntime codec service).decoded g (.stmtPrepare (.ok sql))) (.prepare sql) (io 0) = some x := h
  have hplugin : Runtime.pluginText service (io 0) sql =
      Runtime.pluginText service (ioQuery 0) sql := by
    unfold Runtime.pluginText
    rw [hsame.plugin]
  have hcall : (mySqlRuntime codec service).pdpCall
      (.query (Runtime.pluginText service (ioQuery 0) sql)) x.session (io 0) =
        question codec service g sql (ioQuery 0) :=
    pdpCall_routed (Runtime.grantedCommand_cases _ hgranted).2.1 rfl rfl hsame.pdp.symm _
  obtain ⟨text, hcommand, hallows⟩ := grantedCommand_allows codec service hsecurity htranslation (.inr rfl) hgranted
  rw [hplugin, hcall, ← hsame.pdp] at hallows
  exact ⟨text, hcommand, hallows⟩

/-- **Prepared execution and direct execution** under a policy that is not fail-closed: the rows of the Execute are
    treated as those of the Query iff the policy attaches neither a mask nor a watermark to the text. -/
theorem prepared_treated_alike_iff (hsecurity : service.securityEnabled = true)
    (htranslation : service.translation = none) (p : LocalPdpInner) (hopen : p.failClosed = false)
    (g : Gateway MySqlFrontend Connector) (sql text : String)
    (ioQuery ioPrepare ioExecute : Nat → CommandIo MySql.CallIo Unit) (hsame : SameWorld p (ioQuery 0) (ioPrepare 0))
    (hreads : (ioExecute 0).pdp.reads = Reads.single p) {query prepared executed : Granted}
    (hquery : (mySqlRuntime codec service).granted g (.query (.ok sql)) ioQuery = some query)
    (htext : query.command = .query text)
    (hprepare : (mySqlRuntime codec service).granted g (.stmtPrepare (.ok sql)) ioPrepare = some prepared)
    (later : Gateway MySqlFrontend Connector) (hkept : later.backend.preparedSql (toString (MySql.nextId g.backend)) =
      ((mySqlRuntime codec service).handleFrame g (.stmtPrepare (.ok sql))
        ioPrepare).gateway.backend.preparedSql (toString (MySql.nextId g.backend)))
    (parameters : List GatewayValue) (hexecute : (mySqlRuntime codec service).granted later
      (.stmtExecute (some (MySql.nextId g.backend, .ok parameters))) ioExecute = some executed) :
    treatment codec service later.backend executed = treatment codec service g.backend query ↔
      Unmarked (question codec service g sql (ioQuery 0))
        (Runtime.pluginText service (ioQuery 0) sql) := by
  have hallowed := granted_query_allows codec service hsecurity htranslation hquery htext
  obtain ⟨text', hprepared, hallowed'⟩ := granted_prepare_allows codec service hsecurity htranslation hsame hprepare
  obtain ⟨hsameText, _⟩ := allows_unique hallowed hallowed'
  subst hsameText
  obtain ⟨r, hr, howes⟩ := owes_of_allows hallowed
  have hregistered : later.backend.preparedSql (toString (MySql.nextId g.backend)) = some text := by
    rw [hkept]
    exact registered_of_granted codec service hprepare hprepared
  have hentry : (ioExecute 0).pdp.reads.entry = p := by
    rw [hreads]
    rfl
  have hclosed : (ioExecute 0).pdp.reads.entry.failClosed = false := by
    rw [hentry]
    exact hopen
  have hexecute' : (mySqlRuntime codec service).grantedCommand
      ((mySqlRuntime codec service).decoded later
        (.stmtExecute (some (MySql.nextId g.backend, .ok parameters))))
      (.execute (toString (MySql.nextId g.backend)) parameters) (ioExecute 0) = some executed := hexecute
  obtain ⟨hcommand, hobligations⟩ := grantedCommand_execute codec service hsecurity htranslation hclosed hexecute'
  have hcap : executed.obligations.maxRows = query.obligations.maxRows := by
    rw [howes.maxRows, hobligations, hentry]
    show p.defaultMaxRows = (ioQuery 0).pdp.reads.entry.defaultMaxRows
    rw [hsame.reads]
    rfl
  rw [unmarked_iff hr howes]
  constructor
  · intro h
    have hmasks : executed.obligations.columnMasks = query.obligations.columnMasks := congrArg Treatment.columnMasks h
    have hwatermark : executed.obligations.watermark = query.obligations.watermark := congrArg Treatment.watermark h
    rw [← hmasks, ← hwatermark, hobligations]
    exact ⟨rfl, rfl⟩
  · rintro ⟨hmasks, hwatermark⟩
    have hresult : executed.obligations.hasResultObligations =
        query.obligations.hasResultObligations := by
      unfold Obligations.hasResultObligations
      rw [hcap, hmasks, hwatermark, hobligations]
      rfl
    unfold treatment
    rw [Treatment.mk.injEq, hmasks, hwatermark, hcommand, htext]
    refine ⟨hregistered, ?_, ?_, hcap, ?_⟩
    · rw [hobligations]
      rfl
    · rw [hobligations]
      rfl
    · exact producerCap_eq codec service text _ parameters hresult hcap

end MySql

/-! ## A text with a row filter, without and with a mask -/

def plainMySqlCodec (_ : MySqlFrontend) (_ : SessionState) (_ : Option Obligations) : RowCodec where
  header := id
  view := fun _ row => row
  encodeHeader := fun _ => .ok []
  encodeRow := fun _ _ => .ok (.dataRow [])

/-- SELECT on `users` is filtered and capped; `tags` and `rules` say what is masked. -/
def filteredUsers (tags : List SecurityColumnTagConfig) (rules : List SecurityMaskRuleConfig) : LocalPdpInner :=
  { rulesOnly [⟨"tenant", "allow", ["select"], ["users"], [], [], some "tenant = 1"⟩] with
    failClosed := false
    defaultMaxRows := some 10
    columnTags := tags
    maskRules := rules }

/-- `alice` on one endpoint. -/
def aliceMySql : Gateway MySqlFrontend Connector :=
  Gateway.start ⟨false⟩ (Connector.withEndpoints [primary])
    { SessionState.default with user := some "alice", database := some "app" }

/-- Everything works, under the policy; the filter goes to the end of the text. -/
def mySqlIo (policy : LocalPdpInner) : Nat → CommandIo MySql.CallIo Unit := fun _ =>
  { draw := ⟨0, 0⟩
    plugin := .ok .proceed
    pdp := ⟨⟨fun _ _ => none, fun sql filter => some (sql ++ " WHERE (" ++ filter ++ ")")⟩,
      Reads.single policy, ⟨0, 0, 0, 0, 0⟩, TicketStore.new⟩
    call := .works (.columns [] [])
    health := ()
    written := .ok () }

def directly (policy : LocalPdpInner) : Option Granted :=
  (mySqlRuntime plainMySqlCodec (plainService false)).granted aliceMySql
    (.query (.ok "select email from users")) (mySqlIo policy)

def asPrepare (policy : LocalPdpInner) : Option Granted :=
  (mySqlRuntime plainMySqlCodec (plainService false)).granted aliceMySql
    (.stmtPrepare (.ok "select email from users")) (mySqlIo policy)

def afterPrepare (policy : LocalPdpInner) : Gateway MySqlFrontend Connector :=
  ((mySqlRuntime plainMySqlCodec (plainService false)).handleFrame aliceMySql
    (.stmtPrepare (.ok "select email from users")) (mySqlIo policy)).gateway

def asExecute (policy : LocalPdpInner) : Option Granted :=
  (mySqlRuntime plainMySqlCodec (plainService false)).granted (afterPrepare policy)
    (.stmtExecute (some (MySql.nextId aliceMySql.backend, .ok []))) (mySqlIo policy)

/-- Nothing is masked: the Execute returns the same rows, filtered and capped. -/
theorem prepared_treated_alike_filtered : ∃ query executed, directly (filteredUsers [] []) = some query ∧
      asExecute (filteredUsers [] []) = some executed ∧
      treatment plainMySqlCodec (plainService false) (afterPrepare (filteredUsers [] [])).backend executed =
        treatment plainMySqlCodec (plainService false) aliceMySql.backend query ∧
      treatment plainMySqlCodec (plainService false) aliceMySql.backend query =
        ⟨some "select email from users WHERE (tenant = 1)", [], none, some 10, some 10⟩ := by
  have hdirectly : (directly (filteredUsers [] [])).map
      (fun x => (x.command, treatment plainMySqlCodec (plainService false) aliceMySql.backend x)) =
        some (.query "select email from users WHERE (tenant = 1)",
          ⟨some "select email from users WHERE (tenant = 1)", [], none, some 10, some 10⟩) := by
    decide +kernel
  have hprepare : (asPrepare (filteredUsers [] [])).isSome := by decide
  have hexecute : (asExecute (filteredUsers [] [])).isSome := by decide
  obtain ⟨query, hquery, hpair⟩ := Option.map_eq_some_iff.mp hdirectly
  obtain ⟨prepared, hprepared⟩ := Option.isSome_iff_exists.mp hprepare
  obtain ⟨executed, hexecuted⟩ := Option.isSome_iff_exists.mp hexecute
  injection hpair with hcommand htreatment
  refine ⟨query, executed, hquery, hexecuted, ?_, htreatment⟩
  refine (prepared_treated_alike_iff plainMySqlCodec (plainService false) rfl rfl (filteredUsers [] [])
    rfl aliceMySql "select email from users" _ (mySqlIo _) (mySqlIo _) (mySqlIo _) ⟨rfl, rfl, rfl⟩ rfl
    hquery hcommand hprepared (afterPrepare (filteredUsers [] [])) rfl [] hexecuted).mpr ?_
  intro r _ _
  exact ⟨rfl, rfl⟩

/-- The column `email` is masked. -/
def maskedUsers : LocalPdpInner := filteredUsers [⟨"email", ["users"], [], "hide"⟩] [⟨"hide", "replace", "", 0, 0⟩]

/-- With the column masked, the rows of the Query are masked and those of the Execute are not. -/
theorem masks_lost_on_execute : maskedUsers.failClosed = false ∧
    (directly maskedUsers).map (treatment plainMySqlCodec (plainService false) aliceMySql.backend) =
      some ⟨some "select email from users WHERE (tenant = 1)",
        [⟨"email", .replace, "***", 0, 0, "hide"⟩], none, some 10, some 10⟩ ∧ (asExecute maskedUsers).map
        (treatment plainMySqlCodec (plainService false) (afterPrepare maskedUsers).backend) =
      some ⟨some "select email from users WHERE (tenant = 1)", [], none, some 10, some 10⟩ := by
  decide +kernel

end DataNexus.Engine
