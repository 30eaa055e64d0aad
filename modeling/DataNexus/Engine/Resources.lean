/-
  Concurrency permits and the gauge of commands in flight (`core_engine.rs`: `handle_frame_inner`,
  `finish_command_metrics`).  Both are taken early and given back by hand on every exit:

      exit                                gauge                 permit
      refused capability, route error     not counted           none taken
      named cursor command                back twice if Ok      none taken
      plugin rejects                      back if Ok            none taken
      translation refuses                 back if Ok            KEPT
      decision point refuses              back if Ok            back if Ok
      relay, row stream                   back if Ok            back if Ok
      response                            back if Ok            back

  "If Ok" is the `?` behind the writing of the answer.  `meteredCommand` is `handleCommand` with both counted
  (`meteredCommand_handled`).
-/
import DataNexus.Engine.MySql
import DataNexus.Engine.Plugins
import DataNexus.Engine.PostgreSql
import DataNexus.Lib.Run

namespace DataNexus.Engine

open DataNexus.Run DataNexus.Stream DataNexus.Frontend DataNexus.Pdp DataNexus.Tickets
open DataNexus.Backend (Outcome WireRelay succeeded)

/-! ## The gauge -/

/-- The labels of a command's metrics; the others are the connection's own. -/
structure CommandLabels where
  commandType : String
  endpoint : String
deriving DecidableEq

/-- What happens to the gauge `sql_under_processing`. -/
inductive GaugeOp where
  | inc (labels : CommandLabels)
  | dec (labels : CommandLabels)
deriving DecidableEq

def commandMetricType : GatewayCommand → String
  | .query _ => "QUERY"
  | .queryParams _ _ => "QUERY_PARAMS"
  | .prepare _ => "PREPARE"
  | .execute _ _ => "EXECUTE"
  | .closeStatement _ => "CLOSE"
  | .describeSql _ => "DESCRIBE_SQL"
  | .clientWire _ => "CLIENT_WIRE"
  | .pgBackendSync => "PG_BACKEND_SYNC"
  | .useDatabase _ => "USE"
  | .begin => "BEGIN"
  | .commit => "COMMIT"
  | .rollback => "ROLLBACK"
  | .ping => "PING"
  | .quit => "QUIT"

variable {φ ι β ω η κ : Type}

/-- The end of a command with what became of the permits and the gauge. -/
structure Metered (γ : Type) where
  handled : Handled γ
  plugins : PluginPhase
  gauge : List GaugeOp

/-- The answers of the world with the plugins' own in its place. -/
def CommandIo.decided (io : CommandIo ω η) (decision : PluginDecision) : CommandIo ω η :=
  { io with plugin := .ok decision }

namespace Runtime

variable (r : Runtime φ ι β ω η κ)

/-- `route_endpoint_label`, after routing. -/
def routeEndpointLabel (command : GatewayCommand) (session routed : SessionState) (io : CommandIo ω η) : String :=
  match r.service.routePolicy with
  | none => routed.backendEndpoint.getD ""
  | some policy =>
    match policy.planCommand command session io.draw with
    | .error _ => routed.backendEndpoint.getD ""
    | .ok endpoint => endpoint.address

/-- `labels`. -/
def commandLabels (command : GatewayCommand) (session routed : SessionState) (io : CommandIo ω η) : CommandLabels :=
  ⟨commandMetricType command, r.routeEndpointLabel command session routed io⟩

/-! ## The loop body, counted -/

/-- Behind `?`: the next line runs if the call before it returned `Ok`. -/
def ifOk {γ α : Type} (out : Handled γ) (next otherwise : α) : α :=
  match out.result with
  | .ok () => next
  | .error _ => otherwise

/-- `finish_command_metrics` behind `?`. -/
def finishCommandMetrics {γ : Type} (labels : CommandLabels) (out : Handled γ) : List GaugeOp :=
  ifOk out [.dec labels] []

/-- The permits after the outcome was answered: a relay and a row stream give back behind `?`, a response
    before it is written. -/
def releasedAfter {γ : Type} (p : PluginPhase) (rule : Option Nat) (out : Handled γ) :
    Except GatewayError Outcome → PluginPhase
  | .ok (.wireRelay _) => ifOk out (p.release rule) p
  | .ok (.streaming _ _) => ifOk out (p.release rule) p
  | .ok (.complete _) => p.release rule
  | .error _ => p.release rule

def evaluatePlugins (p : PluginPhase) (command : GatewayCommand) (now : Nat) :
    PluginDecision × Option Nat × PluginPhase :=
  if r.service.pluginsEnabled then p.evaluate (matchText command) now else (.proceed, none, p)

/-- `execute`, counted. -/
def meteredExecute (g : Gateway φ β) (p : PluginPhase) (rule : Option Nat) (labels : CommandLabels)
    (decoded command : GatewayCommand) (obligations : Obligations) (io : CommandIo ω η) : Metered (Gateway φ β) :=
  let mode := r.execMode command obligations
  let obtained := r.obtainOutcome g command mode io
  let out := r.settle obtained.2.1 decoded obligations mode io obtained.1
  ⟨out.after obtained.2.2, releasedAfter p rule out obtained.1, finishCommandMetrics labels out⟩

/-- `decideAndExecute`, counted; `rule` is `concurrency_rule_idx`. -/
def meteredDecide (g : Gateway φ β) (p : PluginPhase) (rule : Option Nat) (labels : CommandLabels)
    (decoded : GatewayCommand) (io : CommandIo ω η) : Metered (Gateway φ β) :=
  match r.pluginStage decoded g.session io with
  | .halted h => ⟨⟨.error h, g, []⟩, p, [.dec labels]⟩
  | .refused response session =>
    let out := r.encodeResponse { g with session := session } response io
    ⟨out, p, finishCommandMetrics labels out⟩
  | .admitted command _ =>
    match r.translationStage command g.session with
    | .halted h => ⟨⟨.error h, g, []⟩, p, []⟩
    | .refused response session =>
      let out := r.encodeResponse { g with session := session } response io
      ⟨out, p, finishCommandMetrics labels out⟩
    | .admitted command _ =>
      match r.securityStage command g.session io with
      | (.halted h, events) => ⟨⟨.error h, g, events⟩, p, []⟩
      | (.refused response session, events) =>
        let out := r.encodeResponse { g with session := session } response io
        ⟨out.after events, ifOk out (p.release rule) p, finishCommandMetrics labels out⟩
      | (.admitted command obligations, events) =>
        let out := r.meteredExecute g p rule labels decoded command obligations io
        { out with handled := out.handled.after events }

/-- `handleCommand`, counted. -/
def meteredCommand (g : Gateway φ β) (p : PluginPhase) (command : GatewayCommand) (io : CommandIo ω η)
    (now : Nat) : Metered (Gateway φ β) :=
  match r.dangerousCommandCapability command with
  | some capability => ⟨r.rejectUnsupportedCapability g capability io, p, []⟩
  | none =>
    match r.route command g.session io with
    | .error e => ⟨⟨.error (.error e), g, []⟩, p, []⟩
    | .ok session =>
      let labels := r.commandLabels command g.session session io
      let g := { g with session := session }
      match cursorSql command with
      | some kind =>
        let out := r.handleNamedCursorSql g io kind
        -- once in `handle_named_cursor_sql`, once behind the call
        ⟨out, p, .inc labels :: finishCommandMetrics labels out ++ [.dec labels]⟩
      | none =>
        let asked := r.evaluatePlugins p command now
        let out := r.meteredDecide g asked.2.2 asked.2.1 labels command (io.decided asked.1)
        { out with gauge := .inc labels :: out.gauge }

/-- The loop over the commands of a frame, counted. -/
def meteredCommands :
    Gateway φ β → PluginPhase → List GatewayCommand → (Nat → CommandIo ω η) → (Nat → Nat) → Metered (Gateway φ β)
  | g, p, [], _, _ => ⟨⟨.ok (), g, []⟩, p, []⟩
  | g, p, command :: rest, io, now =>
    let out := r.meteredCommand g p command (io 0) (now 0)
    match out.handled.result with
    | .error _ => out
    | .ok () =>
      let more := meteredCommands out.handled.gateway out.plugins rest (fun i => io (i + 1))
        fun i => now (i + 1)
      ⟨more.handled.after out.handled.events, more.plugins, out.gauge ++ more.gauge⟩

/-- `handle_frame_inner`, counted. -/
def meteredFrame (g : Gateway φ β) (p : PluginPhase) (frame : ι) (io : Nat → CommandIo ω η)
    (now : Nat → Nat) : Metered (Gateway φ β) :=
  let out := r.frontend.decode g.frontend frame g.session
  let g := { g with frontend := out.2.2, session := out.2.1 }
  match out.1 with
  | .ok commands => r.meteredCommands g p commands io now
  | .error (.error (.unsupported code)) =>
    match UnsupportedSqlCapability.fromCode code with
    | some capability => ⟨r.rejectUnsupportedCapability g capability (io 0), p, []⟩
    | none => ⟨⟨.error (.error (.unsupported code)), g, []⟩, p, []⟩
  | .error h => ⟨⟨.error h, g, []⟩, p, []⟩

/-! ## Counting changes nothing else -/

theorem meteredDecide_handled (g : Gateway φ β) (p : PluginPhase) (rule : Option Nat)
    (labels : CommandLabels) (decoded : GatewayCommand) (io : CommandIo ω η) :
    (r.meteredDecide g p rule labels decoded io).handled = r.decideAndExecute g decoded io := by
  unfold meteredDecide decideAndExecute precheck
  cases hplugin : r.pluginStage decoded g.session io with
  | halted h => rfl
  | refused response session => rfl
  | admitted command owed =>
    dsimp only
    cases htranslation : r.translationStage command g.session with
    | halted h => rfl
    | refused response session => rfl
    | admitted command owed =>
      dsimp only
      cases hsecurity : r.securityStage command g.session io with
      | mk verdict events =>
        cases verdict with
        | halted h => rfl
        | refused response session => rfl
        | admitted command obligations => rfl

/-- The connection goes on as `handleCommand` says under the plugins' answer. -/
theorem meteredCommand_handled (g : Gateway φ β) (p : PluginPhase) (command : GatewayCommand)
    (io : CommandIo ω η) (now : Nat) : (r.meteredCommand g p command io now).handled =
      r.handleCommand g command (io.decided (r.evaluatePlugins p command now).1) := by
  have hroute : ∀ decision, r.route command g.session (io.decided decision) =
      r.route command g.session io := fun _ => rfl
  unfold meteredCommand handleCommand
  cases hdangerous : r.dangerousCommandCapability command with
  | some capability => rfl
  | none =>
    dsimp only
    rw [hroute]
    cases hsession : r.route command g.session io with
    | error e => rfl
    | ok session =>
      dsimp only
      cases hcursor : cursorSql command with
      | some kind => cases kind <;> rfl
      | none => exact r.meteredDecide_handled _ _ _ _ _ _

/-! ## When the books balance -/

/-- The outcome can be given to the client: the backend's stream does not break off and the client takes
    the answer. -/
def delivers (g : Gateway φ β) (obligations : Obligations) (mode : ExecuteMode) (io : CommandIo ω η) :
    Except GatewayError Outcome → Bool
  | .ok (.wireRelay relay) => relay.response.failed.isNone && succeeded io.written
  | .ok (.streaming columns windows) =>
    succeeded ((r.pageWriter g obligations mode columns).write windows) && succeeded io.written
  | .ok (.complete _) => succeeded io.written
  | .error _ => succeeded io.written

/-- A named cursor command ends in an error: the client does not take the answer, or DECLARE's select
    fails. -/
def cursorBreaksOff (g : Gateway φ β) (io : CommandIo ω η) : NamedCursorSql → Bool
  | .declare name selectSql _ =>
    !succeeded io.written || (g.namedCursors name).isNone &&
      !succeeded
        (r.backend.executeOutcome g.backend (.query selectSql) g.session r.declareMode io.call).1
  | _ => !succeeded io.written

/-- Behind the plugins: no stage unwinds, the translation does not refuse a command that holds a permit,
    and the answer reaches the client. -/
def decisionSettles (g : Gateway φ β) (rule : Option Nat) (decoded : GatewayCommand) (io : CommandIo ω η) : Bool :=
  match r.pluginStage decoded g.session io with
  | .halted _ => true
  | .refused _ _ => succeeded io.written
  | .admitted command _ =>
    match r.translationStage command g.session with
    | .halted _ => false
    | .refused _ _ => succeeded io.written && rule.isNone
    | .admitted command _ =>
      match (r.securityStage command g.session io).1 with
      | .halted _ => false
      | .refused _ _ => succeeded io.written
      | .admitted command obligations =>
        let mode := r.execMode command obligations
        let obtained := r.obtainOutcome g command mode io
        r.delivers obtained.2.1 obligations mode io obtained.1

/-- A command that is not counted, a named cursor command that breaks off, or any other command as in
    `decisionSettles`. -/
def commandSettles (g : Gateway φ β) (p : PluginPhase) (command : GatewayCommand) (io : CommandIo ω η)
    (now : Nat) : Bool :=
  match r.dangerousCommandCapability command with
  | some _ => true
  | none =>
    match r.route command g.session io with
    | .error _ => true
    | .ok session =>
      let g := { g with session := session }
      match cursorSql command with
      | some kind => r.cursorBreaksOff g io kind
      | none =>
        let asked := r.evaluatePlugins p command now
        r.decisionSettles g asked.2.1 command (io.decided asked.1)

/-- The same for the command of a frame, if it has one. -/
def frameSettles (g : Gateway φ β) (p : PluginPhase) (frame : ι) (io : Nat → CommandIo ω η) (now : Nat → Nat) : Bool :=
  let out := r.frontend.decode g.frontend frame g.session
  match out.1 with
  | .ok (command :: _) =>
    r.commandSettles { g with frontend := out.2.2, session := out.2.1 } p command (io 0) (now 0)
  | _ => true

theorem encodeOwed_result (g : Gateway φ β) (response : GatewayResponse)
    (owed : Option Obligations) (io : CommandIo ω η) :
    succeeded (r.encodeOwed g response owed io).result = succeeded io.written := by
  unfold encodeOwed
  cases io.written with
  | error e => rfl
  | ok u => rfl

theorem settleResponse_result (g : Gateway φ β) (command : GatewayCommand) (response : GatewayResponse)
    (owed : Option Obligations) (io : CommandIo ω η) :
    succeeded (r.settleResponse g command response owed io).result = succeeded io.written := by
  unfold settleResponse
  dsimp only
  rw [← r.encodeOwed_result _ response owed io]
  split
  · rfl
  · rfl

theorem settle_result (g : Gateway φ β) (command : GatewayCommand) (obligations : Obligations)
    (mode : ExecuteMode) (io : CommandIo ω η) (outcome : Except GatewayError Outcome) :
    succeeded (r.settle g command obligations mode io outcome).result = r.delivers g obligations mode io outcome := by
  match outcome with
  | .error e => exact r.settleResponse_result g command _ _ io
  | .ok (.complete response) => exact r.settleResponse_result g command _ _ io
  | .ok (.wireRelay relay) =>
    show succeeded (r.settleRelay g command relay io).result = _
    unfold settleRelay delivers
    dsimp only
    cases relay.response.failed with
    | some e => rfl
    | none =>
      cases io.written with
      | error e => rfl
      | ok u => rfl
  | .ok (.streaming columns windows) =>
    show succeeded (r.settleRows g obligations mode columns windows io).result = _
    unfold settleRows delivers
    dsimp only
    cases (r.pageWriter g obligations mode columns).write windows with
    | error failed => rfl
    | ok page =>
      cases io.written with
      | error e => rfl
      | ok u => rfl

theorem encodeResponse_result (g : Gateway φ β) (response : GatewayResponse) (io : CommandIo ω η) :
    succeeded (r.encodeResponse g response io).result = succeeded io.written :=
  r.encodeOwed_result g response none io

theorem handleNamedCursorSql_result (g : Gateway φ β) (io : CommandIo ω η) (kind : NamedCursorSql) :
    succeeded (r.handleNamedCursorSql g io kind).result = !r.cursorBreaksOff g io kind := by
  have hwritten : succeeded io.written = !!succeeded io.written := (Bool.not_not _).symm
  cases kind with
  | unsupported verb => exact (r.encodeResponse_result g _ io).trans hwritten
  | close name =>
    show succeeded (r.closeCursor g name io).result = _
    unfold closeCursor
    split
    · exact (r.encodeResponse_result _ _ io).trans hwritten
    · exact (r.encodeResponse_result _ _ io).trans hwritten
  | fetch name count =>
    show succeeded (r.fetchCursor g name count io).result = _
    unfold fetchCursor
    split
    · exact (r.encodeResponse_result _ _ io).trans hwritten
    · split
      · exact (r.encodeResponse_result _ _ io).trans hwritten
      · exact (r.encodeResponse_result _ _ io).trans hwritten
  | declare name selectSql withHold =>
    show succeeded (r.declareCursor g name selectSql withHold io).result = _
    unfold declareCursor cursorBreaksOff
    dsimp only
    cases hname : g.namedCursors name with
    | some held =>
      refine (r.encodeResponse_result _ _ io).trans ?_
      rw [Option.isNone_some, Bool.false_and, Bool.or_false, Bool.not_not]
    | none =>
      dsimp only
      rw [Option.isNone_none, Bool.true_and, Bool.not_or, Bool.not_not, Bool.not_not, Handled.after_result]
      cases hout :
          (r.backend.executeOutcome g.backend (.query selectSql) g.session r.declareMode io.call).1 with
      | error e => exact (Bool.and_false _).symm
      | ok outcome =>
        refine Eq.trans ?_ (Bool.and_true _).symm
        match outcome with
        | .streaming columns windows => exact r.encodeResponse_result _ _ io
        | .wireRelay relay => exact r.encodeResponse_result _ _ io
        | .complete response =>
          cases response with
          | resultSet columns rows => exact r.encodeResponse_result _ _ io
          | _ => exact r.encodeResponse_result _ _ io

/-! ## One command -/

variable {γ : Type} {q p : PluginPhase}

theorem ifOk_eq {α : Type} (out : Handled γ) (next otherwise : α) :
    ifOk out next otherwise = if succeeded out.result then next else otherwise := by
  unfold ifOk
  cases out.result with
  | error h => rfl
  | ok u => rfl

theorem finishCommandMetrics_eq (labels : CommandLabels) (out : Handled γ) :
    finishCommandMetrics labels out = [.dec labels] ↔ succeeded out.result = true := by
  unfold finishCommandMetrics
  rw [ifOk_eq]
  cases succeeded out.result with
  | false => exact iff_of_false nofun Bool.false_ne_true
  | true => exact iff_of_true rfl rfl

/-- Gauge and permits are as they were before the command was counted. -/
structure GaveBack (labels : CommandLabels) (out : Metered (Gateway φ β)) : Prop where
  gauge : out.gauge = [.dec labels]
  permits : out.plugins.AllHome

theorem gaveBack_refused (labels : CommandLabels) (g : Gateway φ β) (response : GatewayResponse)
    (io : CommandIo ω η) (events : List Event) (p : PluginPhase) (hq : q.AllHome) : GaveBack labels
        ⟨(r.encodeResponse g response io).after events, ifOk (r.encodeResponse g response io) q p,
          finishCommandMetrics labels (r.encodeResponse g response io)⟩ ↔ succeeded io.written = true := by
  rw [← r.encodeResponse_result g response io]
  constructor
  · intro h
    exact (finishCommandMetrics_eq labels _).mp h.gauge
  · intro h
    refine ⟨(finishCommandMetrics_eq labels _).mpr h, ?_⟩
    show (ifOk _ q p).AllHome
    rw [ifOk_eq, if_pos h]
    exact hq

theorem gaveBack_execute {rule : Option Nat} (labels : CommandLabels) (hreleased : (p.release rule).AllHome)
    (g : Gateway φ β) (decoded command : GatewayCommand) (obligations : Obligations) (io : CommandIo ω η) :
    GaveBack labels (r.meteredExecute g p rule labels decoded command obligations io) ↔
      (let mode := r.execMode command obligations
        let obtained := r.obtainOutcome g command mode io
        r.delivers obtained.2.1 obligations mode io obtained.1) = true := by
  unfold meteredExecute
  dsimp only
  rw [← r.settle_result _ decoded]
  constructor
  · intro h
    exact (finishCommandMetrics_eq labels _).mp h.gauge
  · intro h
    refine ⟨(finishCommandMetrics_eq labels _).mpr h, ?_⟩
    have hrelay : (ifOk (r.settle (r.obtainOutcome g command (r.execMode command obligations) io).2.1
        decoded obligations (r.execMode command obligations) io
        (r.obtainOutcome g command (r.execMode command obligations) io).1) (p.release rule) p).AllHome := by
      rw [ifOk_eq, if_pos h]
      exact hreleased
    unfold releasedAfter
    dsimp only
    split
    · exact hrelay
    · exact hrelay
    · exact hreleased
    · exact hreleased

theorem gaveBack_decide {rule : Option Nat} (hhome : p.AllHome ↔ rule = none)
    (hreleased : (p.release rule).AllHome) (g : Gateway φ β) (labels : CommandLabels) (decoded : GatewayCommand)
    (io : CommandIo ω η) (hplugin : io.plugin = .ok .proceed ∨
      ∃ code message, io.plugin = .ok (.reject code message) ∧ rule = none) :
    GaveBack labels (r.meteredDecide g p rule labels decoded io) ↔ r.decisionSettles g rule decoded io = true := by
  unfold meteredDecide decisionSettles
  cases hstage : r.pluginStage decoded g.session io with
  | halted h =>
    unfold pluginStage at hstage
    split at hstage
    · rcases hplugin with hproceed | ⟨code, message, hreject, _⟩
      · rw [hproceed] at hstage
        cases hstage
      · rw [hreject] at hstage
        cases hstage
    · cases hstage
  | refused response session =>
    -- a rejected command holds no permit
    have hnone : rule = none := by
      rcases hplugin with hproceed | ⟨code, message, _, hnone⟩
      · unfold pluginStage at hstage
        rw [hproceed] at hstage
        split at hstage
        · cases hstage
        · cases hstage
      · exact hnone
    have h := r.gaveBack_refused labels { g with session := session } response io [] p (hhome.mpr hnone)
    rw [ifOk_eq, ite_self] at h
    exact h
  | admitted command owed =>
    dsimp only
    cases htranslation : r.translationStage command g.session with
    | halted h => exact iff_of_false (fun hgave => absurd hgave.gauge nofun) Bool.false_ne_true
    | refused response session =>
      dsimp only
      rw [Bool.and_eq_true, Option.isNone_iff_eq_none, ← hhome]
      constructor
      · intro h
        refine ⟨?_, h.permits⟩
        rw [← r.encodeResponse_result { g with session := session } response io]
        exact (finishCommandMetrics_eq labels _).mp h.gauge
      · rintro ⟨hwritten, hp⟩
        rw [← r.encodeResponse_result { g with session := session } response io] at hwritten
        exact ⟨(finishCommandMetrics_eq labels _).mpr hwritten, hp⟩
    | admitted command owed =>
      dsimp only
      cases hsecurity : r.securityStage command g.session io with
      | mk verdict events =>
        cases verdict with
        | halted h => exact iff_of_false (fun hgave => absurd hgave.gauge nofun) Bool.false_ne_true
        | refused response session =>
          exact r.gaveBack_refused labels { g with session := session } response io events p hreleased
        | admitted command obligations =>
          have h := r.gaveBack_execute labels hreleased g decoded command obligations io
          exact ⟨fun hgave => h.mp ⟨hgave.gauge, hgave.permits⟩, fun hok => ⟨(h.mpr hok).gauge, (h.mpr hok).permits⟩⟩

/-- The same permits are held as before, and a counted command was counted up and down once. -/
structure Balanced (p : PluginPhase) (q : PluginPhase) (gauge : List GaugeOp) : Prop where
  permits : q.held = p.held
  gauge : gauge = [] ∨ ∃ labels, gauge = [.inc labels, .dec labels]

theorem Balanced.length_le {gauge : List GaugeOp} (h : Balanced p q gauge) : gauge.length ≤ 2 := by
  rcases h.gauge with hnil | ⟨labels, htwo⟩
  · rw [hnil]
    exact Nat.zero_le 2
  · rw [htwo]
    exact Nat.le_refl 2

theorem length_releasedAfter (p : PluginPhase) (rule : Option Nat) (out : Handled γ)
    (outcome : Except GatewayError Outcome) :
    (releasedAfter p rule out outcome).concurrencyControl.length = p.concurrencyControl.length := by
  have hrelease := p.length_release rule
  unfold releasedAfter
  split
  · rw [ifOk_eq]
    split
    · exact hrelease
    · rfl
  · rw [ifOk_eq]
    split
    · exact hrelease
    · rfl
  · exact hrelease
  · exact hrelease

theorem length_meteredDecide (g : Gateway φ β) (p : PluginPhase) (rule : Option Nat)
    (labels : CommandLabels) (decoded : GatewayCommand) (io : CommandIo ω η) :
    (r.meteredDecide g p rule labels decoded io).plugins.concurrencyControl.length = p.concurrencyControl.length := by
  unfold meteredDecide
  cases r.pluginStage decoded g.session io with
  | halted h => rfl
  | refused response session => rfl
  | admitted command owed =>
    dsimp only
    cases r.translationStage command g.session with
    | halted h => rfl
    | refused response session => rfl
    | admitted command owed =>
      dsimp only
      cases r.securityStage command g.session io with
      | mk verdict events =>
        cases verdict with
        | halted h => rfl
        | refused response session =>
          dsimp only
          rw [ifOk_eq]
          split
          · exact p.length_release rule
          · rfl
        | admitted command obligations => exact length_releasedAfter _ _ _ _

theorem evaluated_evaluatePlugins (hp : p.AllHome) (command : GatewayCommand) (now : Nat) :
    PluginPhase.Evaluated p (r.evaluatePlugins p command now) := by
  unfold evaluatePlugins
  split
  · exact PluginPhase.evaluated_evaluate hp (matchText command) now
  · exact ⟨rfl, .inl rfl, iff_of_true hp rfl, hp⟩

/-- **One command**, with no permit out before it. -/
theorem balanced_command (hp : p.AllHome) (g : Gateway φ β) (command : GatewayCommand) (io : CommandIo ω η)
    (now : Nat) :
    Balanced p (r.meteredCommand g p command io now).plugins (r.meteredCommand g p command io now).gauge ↔
      r.commandSettles g p command io now = true := by
  have huncounted : Balanced p p [] ↔ true = true := iff_of_true ⟨rfl, .inl rfl⟩ rfl
  unfold meteredCommand commandSettles
  cases r.dangerousCommandCapability command with
  | some capability => exact huncounted
  | none =>
    dsimp only
    cases r.route command g.session io with
    | error e => exact huncounted
    | ok session =>
      dsimp only
      cases cursorSql command with
      | some kind =>
        -- counted down twice if the command is answered
        dsimp only
        have hresult := r.handleNamedCursorSql_result { g with session := session } io kind
        unfold finishCommandMetrics
        rw [ifOk_eq, hresult]
        cases r.cursorBreaksOff { g with session := session } io kind with
        | true => exact iff_of_true ⟨rfl, .inr ⟨_, rfl⟩⟩ rfl
        | false =>
          refine iff_of_false ?_ Bool.false_ne_true
          rintro ⟨_, hnil | ⟨labels, htwo⟩⟩
          · cases hnil
          · cases htwo
      | none =>
        dsimp only
        have hasked := r.evaluated_evaluatePlugins hp command now
        have hdecision : (io.decided (r.evaluatePlugins p command now).1).plugin = .ok .proceed ∨
            ∃ code message,
              (io.decided (r.evaluatePlugins p command now).1).plugin = .ok (.reject code message) ∧
                (r.evaluatePlugins p command now).2.1 = none := by
          rcases hasked.decision with hproceed | ⟨code, message, hreject, hnone⟩
          · exact .inl (congrArg Except.ok hproceed)
          · exact .inr ⟨code, message, congrArg Except.ok hreject, hnone⟩
        rw [← r.gaveBack_decide hasked.home hasked.released { g with session := session }
          (r.commandLabels command g.session session io) command _ hdecision]
        have hlength := (r.length_meteredDecide { g with session := session }
          (r.evaluatePlugins p command now).2.2 (r.evaluatePlugins p command now).2.1
          (r.commandLabels command g.session session io) command
          (io.decided (r.evaluatePlugins p command now).1)).trans hasked.length
        constructor
        · rintro ⟨hpermits, hnil | ⟨labels, htwo⟩⟩
          · cases hnil
          · injection htwo with hinc hdec
            injection hinc with hlabels
            rw [← hlabels] at hdec
            exact ⟨hdec, (PluginPhase.held_eq_iff hp hlength).mp hpermits⟩
        · intro hgave
          exact ⟨(PluginPhase.held_eq_iff hp hlength).mpr hgave.permits, .inr ⟨_, congrArg (_ :: ·) hgave.gauge⟩⟩

/-! ## One frame -/

/-- **One frame**, with no permit out before it. -/
theorem balanced_frame (hp : p.AllHome) (g : Gateway φ β) (frame : ι) (io : Nat → CommandIo ω η) (now : Nat → Nat) :
    Balanced p (r.meteredFrame g p frame io now).plugins (r.meteredFrame g p frame io now).gauge ↔
      r.frameSettles g p frame io now = true := by
  have huncounted : Balanced p p [] ↔ true = true := iff_of_true ⟨rfl, .inl rfl⟩ rfl
  unfold meteredFrame frameSettles
  dsimp only
  cases hdecoded : (r.frontend.decode g.frontend frame g.session).1 with
  | error h =>
    cases h with
    | panicked => exact huncounted
    | error e =>
      cases e with
      | unsupported code =>
        dsimp only
        cases UnsupportedSqlCapability.fromCode code with
        | some capability => exact huncounted
        | none => exact huncounted
      | _ => exact huncounted
  | ok commands =>
    -- a frame is at most one command
    have hsingle := r.frontend.decode_single g.frontend frame g.session commands hdecoded
    match commands with
    | [] => exact huncounted
    | command :: other :: rest =>
      exact absurd hsingle (by simp only [List.length_cons]; omega)
    | [command] =>
      dsimp only
      rw [← r.balanced_command hp]
      unfold meteredCommands
      dsimp only
      split
      · exact Iff.rfl
      · unfold meteredCommands
        dsimp only
        rw [List.append_nil]

/-! ## Runs -/

/-- What can happen next to a session; `now` are the clock readings of a frame's commands. -/
inductive MeteredAct (ι ω η κ : Type) where
  | frame (frame : ι) (io : Nat → CommandIo ω η) (now : Nat → Nat)
  | background (k : κ)

/-- A session with its plugins; the answer of a step is what it did to the gauge. -/
structure MeteredSession (φ β : Type) where
  gateway : Option (Gateway φ β)
  plugins : PluginPhase

/-- One step; a closed session does nothing more. -/
def meteredStep (s : MeteredSession φ β) (a : MeteredAct ι ω η κ) : List GaugeOp × MeteredSession φ β :=
  match s.gateway, a with
  | none, _ => ([], s)
  | some g, .background k =>
    ([], { s with gateway := some { g with backend := r.backend.background g.backend k } })
  | some g, .frame frame io now =>
    let out := r.meteredFrame g s.plugins frame io now
    (out.gauge, ⟨r.afterFrame frame out.handled, out.plugins⟩)

/-- `frameSettles`, for a step. -/
def stepSettles (s : MeteredSession φ β) : MeteredAct ι ω η κ → Bool
  | .background _ => true
  | .frame frame io now =>
    match s.gateway with
    | none => true
    | some g => r.frameSettles g s.plugins frame io now

def StepBalanced (s : MeteredSession φ β) (a : MeteredAct ι ω η κ) : Prop :=
  Balanced s.plugins (r.meteredStep s a).2.plugins (r.meteredStep s a).1

theorem stepBalanced_iff {s : MeteredSession φ β} (hs : s.plugins.AllHome) (a : MeteredAct ι ω η κ) :
    r.StepBalanced s a ↔ r.stepSettles s a = true := by
  have hidle : Balanced s.plugins s.plugins [] ↔ true = true := iff_of_true ⟨rfl, .inl rfl⟩ rfl
  unfold StepBalanced meteredStep stepSettles
  cases hg : s.gateway with
  | none =>
    cases a with
    | frame frame io now => exact hidle
    | background k => exact hidle
  | some g =>
    cases a with
    | frame frame io now => exact r.balanced_frame hs g frame io now
    | background k => exact hidle

/-- A new session: the plugins are built from the configuration. -/
def MeteredSession.start (g : Gateway φ β) (circuitBreak : List (String → Bool))
    (rules : List ((String → Bool) × Nat × Nat)) : MeteredSession φ β :=
  ⟨some g, ⟨circuitBreak, rules.map fun c => .new c.1 c.2.1 c.2.2⟩⟩

theorem allHome_start (g : Gateway φ β) (circuitBreak : List (String → Bool))
    (rules : List ((String → Bool) × Nat × Nat)) : (MeteredSession.start g circuitBreak rules).plugins.AllHome := by
  intro c hc
  obtain ⟨rule, _, rfl⟩ := List.mem_map.mp hc
  exact Int.sub_self _

/-- **Permits and gauge** are given back and taken off once by every step, iff every step is as `stepSettles` says. -/
theorem resources_balanced_iff (g : Gateway φ β) (circuitBreak : List (String → Bool))
    (rules : List ((String → Bool) × Nat × Nat)) (acts : List (MeteredAct ι ω η κ)) :
    (∀ e ∈ entries r.meteredStep (.start g circuitBreak rules) acts, r.StepBalanced e.pre e.act) ↔
      Meets r.meteredStep (fun s a => r.stepSettles s a = true) (.start g circuitBreak rules) acts := by
  refine forall_entries_iff_meets (fun s : MeteredSession φ β => s.plugins.AllHome)
    (fun s a hs => r.stepBalanced_iff hs a) ?_
    (allHome_start g circuitBreak rules)
  intro s a hs hsettles
  exact PluginPhase.AllHome.of_held_eq hs ((r.stepBalanced_iff hs a).mpr hsettles).permits

end Runtime

/-! ## Two commands that leave something behind -/

def oneAtATime : List ((String → Bool) × Nat × Nat) := [(fun _ => true, 1, 60)]

/-- The client sends a message and everything works. -/
def sendsMetered (message : FrontendMessage) : Runtime.MeteredAct RawFrame Backend.CallIo HealthIo Nat :=
  .frame (frameOf message) (fun _ => workingIo (rulesOnly []) noRewriters) fun _ => 0

/-- A PostgreSQL client of a MySQL service whose translation refuses every text. -/
def refusingRuntime : Runtime PostgreSqlFrontend RawFrame Backend.Connector Backend.MySql.CallIo Unit Nat :=
  ⟨postgreSqlAdapter plainDialect plainCodec, mySqlConnector,
    { plainService false with
      pluginsEnabled := true
      translation := some fun _ => .error (.unsupported "statement") }⟩

def asksTranslated (message : FrontendMessage) : Runtime.MeteredAct RawFrame Backend.MySql.CallIo Unit Nat :=
  .frame (frameOf message)
    (fun _ =>
      { draw := ⟨0, 0⟩
        plugin := .ok .proceed
        pdp := (workingIo (rulesOnly []) noRewriters).pdp
        call := Backend.MySql.CallIo.works .empty
        health := ()
        written := .ok () })
    fun _ => 0

/-- **Counted down twice, and a permit kept**: by the CLOSE of a cursor, and by a translation that is refused. -/
theorem cursor_and_translation_unbalanced :
    ((entries (plainRuntime false).meteredStep (.start aliceStart [] []) [sendsMetered (.query "CLOSE c")]).map
          (·.out) = [[.inc ⟨"QUERY", "e"⟩, .dec ⟨"QUERY", "e"⟩, .dec ⟨"QUERY", "e"⟩]] ∧
      ¬∀ e ∈ entries (plainRuntime false).meteredStep (.start aliceStart [] [])
          [sendsMetered (.query "CLOSE c")], (plainRuntime false).StepBalanced e.pre e.act) ∧
    (entries refusingRuntime.meteredStep (.start aliceStart [] oneAtATime)
          [asksTranslated (.query "select 1"), asksTranslated (.query "select 1")]).map
        (fun e => e.post.plugins.held) = [[1], [1]] ∧
    ¬∀ e ∈ entries refusingRuntime.meteredStep (.start aliceStart [] oneAtATime)
        [asksTranslated (.query "select 1"), asksTranslated (.query "select 1")],
      refusingRuntime.StepBalanced e.pre e.act := by
  refine ⟨⟨by decide, ?_⟩, by decide, ?_⟩
  · intro h
    exact absurd (h _ List.mem_cons_self).length_le (by decide)
  · intro h
    exact absurd (h _ List.mem_cons_self).permits (by decide)

end DataNexus.Engine
