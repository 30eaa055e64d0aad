/-
  Rewrites and the extended protocol: does the server execute the text that the decision point put in
  place of the client's?

  Under passthrough the connector relays the client's frames and does not look at the command.  So the client's text is
  executed when the rewrite comes without a result obligation, and when the rewritten Execute is still in the buffer while
  a later command is passed through.  `Replaceable` excludes these two (`rewrite_survives`).
-/
import DataNexus.Engine.Mediation

namespace DataNexus.Engine

open DataNexus.Frontend DataNexus.Backend DataNexus.Pdp DataNexus.Tickets DataNexus.Run

variable {φ ι η κ : Type}

/-! ## The property and the condition -/

/-- What the connector handed to its connections while it handled a frame. -/
def handedOver (r : Runtime φ ι Connector CallIo η κ) (g : Gateway φ Connector) (frame : ι)
    (io : Nat → CommandIo CallIo η) : List (Conn × Sent) :=
  writesOf g.backend (r.handleFrame g frame io).gateway.backend

/-- The decision point answered a question of the trace with a rewrite to `sql`. -/
def RewrittenTo (events : List Event) (sql : String) : Prop :=
  ∃ call store asked o, .authorized call store asked ∈ events ∧
    (authorizeCommandWithObjects call asked store).1 = some (.allowRewrite sql o)

/-- **Rewrites survive**: an Execute frame is handed over only for itself, when it was not rewritten. -/
structure Survives (r : Runtime φ ι Connector CallIo η κ) (g : Gateway φ Connector) (frame : ι)
    (io : Nat → CommandIo CallIo η) : Prop where
  text : (r.frontend.clientFrame frame).any ClientFrame.isExecute = true → ∀ sql,
    RewrittenTo (r.handleFrame g frame io).events sql → ∀ w ∈ handedOver r g frame io, Runs sql w.2
  frames : ∀ conn f, (conn, .frame f) ∈ handedOver r g frame io → f.isExecute = true →
    r.frontend.clientFrame frame = some f ∧
    ∀ sql, ¬RewrittenTo (r.handleFrame g frame io).events sql

def SurvivesStep (r : Runtime φ ι Connector CallIo η κ) (g : Option (Gateway φ Connector))
    (a : Runtime.Act ι CallIo η κ) : Prop :=
  ∀ g' frame io, g = some g' → a = .frame frame io → Survives r g' frame io

/-- The text of an Execute can be replaced: no earlier Execute is in the buffer, except that one under a hold starts it
    anew, and a rewrite comes with an obligation on the result. -/
structure Replaceable (r : Runtime φ ι Connector CallIo η κ) (g : Gateway φ Connector) (frame : ι)
    (command : GatewayCommand) (io : CommandIo CallIo η) : Prop where
  leftover : r.canRelay = true → ∀ f ∈ g.session.pgClientExtendedFrames, f.isExecute = true →
    g.session.pgExtTcpHold = true ∧ (r.frontend.clientFrame frame).any ClientFrame.isExecute = true
  owed : r.canRelay = true → (r.frontend.clientFrame frame).any ClientFrame.isExecute = true →
    ∀ a sql o, r.asked command io = some a →
      r.decision a (r.decoded g frame).session io = some (.allowRewrite sql o) →
      o.hasResultObligations = true

def ReplaceableStep (r : Runtime φ ι Connector CallIo η κ) (g : Option (Gateway φ Connector))
    (a : Runtime.Act ι CallIo η κ) : Prop :=
  ∀ g' frame io command, g = some g' → a = .frame frame io → r.commandsOf g' frame = [command] →
    Replaceable r g' frame command (io 0)

/-! ## What a command is handed over as -/

/-- A command without its text: plugins and decisions change no more than that. -/
def kindOf : GatewayCommand → GatewayCommand
  | .query _ => .query ""
  | .queryParams _ _ => .queryParams "" []
  | .prepare _ => .prepare ""
  | other => other

theorem kindOf_rewrittenSql (sql : String) (command : GatewayCommand) :
    kindOf (Runtime.rewrittenSql sql command) = kindOf command := by
  cases command <;> rfl

theorem kindOf_withRewrite (sql : String) (command : GatewayCommand) :
    kindOf (Runtime.withRewrite sql command) = kindOf command := by
  cases command <;> rfl

section Kinds

variable {φ ι β ω η κ : Type} {r : Runtime φ ι β ω η κ}

variable {a : GatewayCommand}

theorem kindOf_asked {command : GatewayCommand} {io : CommandIo ω η} (htr : r.service.translation = none)
    (h : r.asked command io = some a) : kindOf a = kindOf command := by
  have hplugin : ∀ c o, r.pluginStage command .default io = .admitted c o → kindOf c = kindOf command := by
    intro c o hp
    unfold Runtime.pluginStage at hp
    revert hp
    generalize io.plugin = decision
    intro hp
    split at hp
    · rcases decision with text | _ | ⟨code, message⟩ | sql
      · cases hp
      · cases hp
        rfl
      · cases hp
      · cases hp
        exact kindOf_rewrittenSql sql command
    · cases hp
      rfl
  unfold Runtime.asked at h
  rcases hp : r.pluginStage command .default io with halt | ⟨response, s⟩ | ⟨c, o⟩
  · rw [hp] at h
    cases h
  · rw [hp] at h
    cases h
  · rw [hp] at h
    dsimp only at h
    unfold Runtime.translationStage at h
    rw [htr] at h
    obtain rfl : c = a := by injection h
    exact hplugin c o hp

theorem kindOf_securityStage {handed : GatewayCommand} {session : SessionState} {io : CommandIo ω η}
    {o : Obligations} {evs : List Event} (h : r.securityStage a session io = (.admitted handed o, evs)) :
    kindOf handed = kindOf a := by
  unfold Runtime.securityStage at h
  split at h
  · dsimp only at h
    injection h with hverdict _
    rcases Runtime.enforce_admitted hverdict with ⟨_, rfl⟩ | ⟨text, _, rfl⟩
    · rfl
    · exact kindOf_withRewrite text a
  · injection h with hverdict _
    injection hverdict with hcommand _
    rw [hcommand]

theorem kindOf_handed (htr : r.service.translation = none) {g : Gateway φ β}
    {command : GatewayCommand} {io : CommandIo ω η} {h : HandOff}
    (hcalls : calls (r.handleCommand g command io).events = [h]) : kindOf h.command = kindOf command := by
  cases r.reaches_handleCommand g command io with
  | not hnone =>
    rw [hnone] at hcalls
    cases hcalls
  | declare name selectSql withHold session hsql hroute hnew hone =>
    rw [hone] at hcalls
    injection hcalls with hhanded
    rw [← hhanded]
    -- only a Query can be a DECLARE, and it is handed over as one
    cases command with
    | query sql => rfl
    | _ => cases hsql
  | admitted session handed o asked hroute hcheck hasked hone =>
    rw [hone] at hcalls
    injection hcalls with hhanded
    rw [← hhanded]
    obtain ⟨a, ha, hstage⟩ := r.precheck_admitted hcheck
    exact (kindOf_securityStage hstage).trans (kindOf_asked htr ha)

end Kinds

variable {a : GatewayCommand}

theorem eq_of_kindOf {b : GatewayCommand} (h : kindOf a = kindOf b) (hb : kindOf b = b)
    (hrow : isRowCommand b = false) (hprepare : ∀ sql, b ≠ .prepare sql) : a = b := by
  rw [hb] at h
  cases a with
  | query sql =>
    rw [← h] at hrow
    cases hrow
  | queryParams sql parameters =>
    rw [← h] at hrow
    cases hrow
  | prepare sql => exact absurd h.symm (hprepare "")
  | _ => exact h

/-! ## Statements -/

theorem covers_rewrite (ha : IsStatement a) (sql : String) : Covers (Runs sql) (Runtime.withRewrite sql a) := by
  have htext : ∀ c text, runText c (Runtime.withRewrite sql a) = some text → text = sql := by
    intro c text h
    cases a with
    | query old => injection h with h; exact h.symm
    | queryParams old parameters => injection h with h; exact h.symm
    | _ => exact ha.elim
  refine ⟨?_, fun w hw => .inl hw, ?_⟩
  · cases a with
    | query old => rfl
    | queryParams old parameters => rfl
    | _ => exact ha.elim
  · intro c text h w hw
    rw [htext c text h] at hw
    exact .inr hw

theorem covers_text {command : GatewayCommand} (hrow : isRowCommand command = true) :
    Covers (fun w => ∀ f, w ≠ .frame f) command := by
  have hnone : ∀ (w : Sent) (text : String), w.text = some text → ∀ f, w ≠ .frame f := by
    rintro w text hw f rfl
    cases hw
  exact ⟨hrow, fun w hw => hnone w _ hw, fun c sql _ w hw => hnone w sql hw⟩

theorem isStatement_asked {r : Runtime φ ι Connector CallIo η κ} {command : GatewayCommand}
    {io : CommandIo CallIo η} (htr : r.service.translation = none) (h : r.asked command io = some a)
    (hc : IsStatement command) : IsStatement a := by
  have hkind := kindOf_asked htr h
  cases command with
  | query sql =>
    cases a with
    | query sql => exact trivial
    | _ => cases hkind
  | queryParams sql parameters =>
    cases a with
    | queryParams sql parameters => exact trivial
    | _ => cases hkind
  | _ => exact hc.elim

/-! ## One step -/

section Step

variable {t : PgSetup} {d : Dialect} {codec : PostgreSqlFrontend → SessionState → Option Obligations → RowCodec}
  {service : Service}

variable {g : Gateway PostgreSqlFrontend Connector} {r : Runtime φ ι Connector CallIo η κ}

theorem isStatement_execute {frame : RawFrame} {command : GatewayCommand}
    (hone : (t.runtime.frontend.decode g.frontend frame g.session).1 =
      .ok [command]) (hexec : (readFrame frame).any ClientFrame.isExecute = true) : IsStatement command := by
  obtain ⟨tag, _ | f⟩ := frame
  · cases hexec
  · exact ((decodes_decodeMessage t.d g.frontend f g.session).text [command] command hone
      (List.mem_singleton.mpr rfl) hexec).1

theorem wrote_checkHealth (c : Connector) (io : HealthIo) :
    Wrote (fun w => ∃ sql, w.text = some sql) c (checkHealth c io).2 := by
  have hprobe : ∀ conn, ∀ w ∈ [((conn, .simpleQuery "SELECT 1") : Conn × Sent)], ∃ sql, w.2.text = some sql := by
    intro conn w hw
    rw [List.mem_singleton.mp hw]
    exact ⟨_, rfl⟩
  unfold checkHealth checkSessionHealth
  cases hlease : c.txnLease with
  | none => exact Wrote.refl c
  | some conn =>
    cases succeeded io.answer with
    | true => exact ⟨_, setLease_log _ _, hprobe conn⟩
    | false => exact ⟨_, putConn_log _ _, hprobe conn⟩

theorem settled_log (out : Except GatewayError Outcome × SessionState × Connector) :
    (t.runtime.settled out).log = out.2.2.log := by
  obtain ⟨e | response | ⟨columns, windows⟩ | relay, s, c⟩ := out
  · rfl
  · rfl
  · rfl
  · exact finishSession_log c relay

theorem wrote_handleCommand (t : PgSetup) (g : Gateway PostgreSqlFrontend Connector) (command : GatewayCommand) (io : CommandIo CallIo HealthIo) :
    Wrote (fun w => ∀ f, w = .frame f → f ∈ g.session.pgClientExtendedFrames ∧
        ∃ h, calls (t.runtime.handleCommand g command io).events = [h] ∧ h.mode = .passthrough)
      g.backend (t.runtime.handleCommand g command io).gateway.backend := by
  cases t.runtime.serves_handleCommand g command io with
  | still hcalls h => exact Wrote.of_eq (by rw [h.backend])
  | probed hcalls hcursor hbackend hunit =>
    rw [hbackend]
    refine (wrote_checkHealth g.backend io.health).mono ?_
    rintro w ⟨sql, hsql⟩ f rfl
    cases hsql
  | called h hcalls hunit hstate hbackend hleaves =>
    rw [hbackend]
    refine Wrote.then_eq ?_ (settled_log _)
    have hframes : h.session.pgClientExtendedFrames = g.session.pgClientExtendedFrames := congrArg Prod.fst hunit
    cases hrow : isRowCommand h.command with
    | false =>
      exact (wrote_executeOutcome_other g.backend h.session hrow h.mode io.call).mono
        fun w hw f hf => absurd hf (hw f)
    | true =>
      refine (wrote_executeOutcome (covers_text hrow) g.backend h.session h.mode io.call).mono ?_
      rintro w (hw | ⟨hmode, _, hunit⟩) f rfl
      · exact absurd rfl (hw f)
      · rcases hunit with ⟨f', hf', heq⟩ | ⟨portal, heq⟩ | heq
        · injection heq with heq
          rw [heq, ← hframes]
          exact ⟨hf', h, hcalls, hmode⟩
        · cases heq
        · cases heq

theorem calls_of_rewrite {g : Gateway φ Connector} {command : GatewayCommand} {io : CommandIo CallIo η}
    {sql : String} (h : RewrittenTo (r.handleCommand g command io).events sql) :
    ∃ a o, r.asked command io = some a ∧ r.decision a g.session io = some (.allowRewrite sql o) ∧
      Runtime.cursorSql command = none ∧ ∀ handed ∈ calls (r.handleCommand g command io).events,
        handed.command = Runtime.withRewrite sql a ∧ handed.mode = r.execMode handed.command o := by
  obtain ⟨call, store, a, o, hmem, hdec⟩ := h
  obtain ⟨session, hroute, hcursor, hq⟩ := r.questions_handleCommand (mem_questions.mpr hmem)
  obtain ⟨hasked, hcall, hstore, hcheck⟩ := r.questions_precheck hq
  have hdecision : r.decision a session io = some (.allowRewrite sql o) := by
    unfold Runtime.decision
    rw [← hcall, ← hstore]
    exact hdec
  have hsame : r.decision a session io = r.decision a g.session io := by
    rw [r.route_ok hroute]
    rfl
  rw [hdecision] at hcheck
  refine ⟨a, o, hasked, hsame ▸ hdecision, hcursor, ?_⟩
  intro handed hhanded
  cases r.reaches_handleCommand g command io with
  | not hnone =>
    rw [hnone] at hhanded
    cases hhanded
  | declare name selectSql withHold session' hsql hroute' hnew hcalls =>
    rw [hcursor] at hsql
    cases hsql
  | admitted session' command' o' asked hroute' hcheck' hasked' hcalls =>
    obtain rfl : session = session' := by
      have heq := hroute.symm.trans hroute'
      injection heq
    have hverdict := congrArg Prod.fst (hcheck.symm.trans hcheck')
    injection hverdict with hcommand hobl
    rw [hcalls] at hhanded
    rw [List.mem_singleton.mp hhanded, ← hcommand, ← hobl]
    exact ⟨rfl, rfl⟩

theorem canRelay_of_passthrough {g : Gateway φ Connector} {command : GatewayCommand} {io : CommandIo CallIo η}
    {handed : HandOff} (hcalls : calls (r.handleCommand g command io).events = [handed])
    (hmode : handed.mode = .passthrough) : r.canRelay = true := by
  cases r.reaches_handleCommand g command io with
  | not hnone =>
    rw [hnone] at hcalls
    cases hcalls
  | declare name selectSql withHold session hsql hroute hnew hone =>
    rw [hone] at hcalls
    injection hcalls with hhanded
    rw [← hhanded] at hmode
    cases hmode
  | admitted session command' o asked hroute hcheck hasked hone =>
    rw [hone] at hcalls
    injection hcalls with hhanded
    rw [← hhanded] at hmode
    exact (r.execMode_passthrough hmode).1

/-- **The new text.**  A rewritten Execute hands over BEGIN and the new text. -/
theorem rewritten_text (htr : t.service.translation = none) {frame : RawFrame} {command : GatewayCommand}
    {io : CommandIo CallIo HealthIo} (hstmt : IsStatement command)
    (hexec : (readFrame frame).any ClientFrame.isExecute = true)
    (hok : Replaceable t.runtime g frame command io) {sql : String}
    (h : RewrittenTo (t.runtime.handleCommand (t.runtime.decoded g frame) command io).events sql) :
    Wrote (Runs sql) g.backend (t.runtime.handleCommand (t.runtime.decoded g frame) command io).gateway.backend := by
  obtain ⟨a, o, hasked, hdec, hcursor, hcalls⟩ := calls_of_rewrite h
  have ha : IsStatement a := isStatement_asked htr hasked hstmt
  cases t.runtime.serves_handleCommand (t.runtime.decoded g frame) command io with
  | still _ hstill =>
    refine Wrote.of_eq ?_
    rw [hstill.backend]
    rfl
  | probed _ hfetch _ _ => exact absurd hcursor hfetch
  | called handed hone hunit hstate hbackend hleaves =>
    obtain ⟨hcommand, hmode⟩ := hcalls handed (by rw [hone]; exact List.mem_singleton.mpr rfl)
    rw [hbackend]
    refine Wrote.then_eq ?_ (settled_log _)
    have hcover := covers_rewrite ha sql
    rw [← hcommand] at hcover
    refine (wrote_executeOutcome hcover _ handed.session handed.mode io.call).mono ?_
    rintro w (hw | ⟨hpass, _⟩)
    · exact hw
    · -- passed through only without obligations, and then there is no rewrite
      rw [hpass] at hmode
      obtain ⟨hrelay, hobl, _⟩ := t.runtime.execMode_passthrough hmode.symm
      rw [hok.owed hrelay hexec a sql o hasked hdec] at hobl
      cases hobl

/-- **The frames.**  An Execute frame that is handed over is the frame in hand. -/
theorem own_frame {frame : RawFrame} {command : GatewayCommand} {io : CommandIo CallIo HealthIo}
    (hone : (t.runtime.frontend.decode g.frontend frame g.session).1 =
      .ok [command]) (hok : Replaceable t.runtime g frame command io)
    {f : ClientFrame} (hrelay : t.runtime.canRelay = true)
    (hf : f ∈ (t.runtime.decoded g frame).session.pgClientExtendedFrames)
    (hexec : f.isExecute = true) : readFrame frame = some f := by
  have hframes := t.runtime.frontend.decode_frames _ _ _ _ command f hone (List.mem_singleton.mpr rfl) hf
  rcases hframes with hown | ⟨hold, hnot⟩
  · exact hown
  · exact absurd (hok.leftover hrelay f hold hexec) hnot

/-- **One step.** -/
theorem survives_frame (htr : t.service.translation = none) {frame : RawFrame} {io : Nat → CommandIo CallIo HealthIo}
    (hok : ∀ command, t.runtime.commandsOf g frame = [command] → Replaceable t.runtime g frame command (io 0)) :
    Survives t.runtime g frame io := by
  rcases t.runtime.handleFrame_cases g frame io with
    ⟨_, hquiet, hstill⟩ | ⟨command, hcmd, hone, hevents, hgateway, _⟩
  · have hnothing : handedOver t.runtime g frame io = [] := by
      unfold handedOver writesOf
      rw [hstill.backend]
      exact List.drop_length
    refine ⟨fun _ sql _ w hw => ?_, fun conn f hf _ => ?_⟩
    · rw [hnothing] at hw
      cases hw
    · rw [hnothing] at hf
      cases hf
  · have hcond := hok command hcmd
    constructor
    · intro hexec sql hrewritten w hw
      unfold handedOver at hw
      rw [hgateway] at hw
      rw [hevents] at hrewritten
      exact (rewritten_text htr (isStatement_execute hone hexec) hexec hcond hrewritten).mem hw
    · intro conn f hf hexec
      unfold handedOver at hf
      rw [hgateway] at hf
      have hwrote := wrote_handleCommand t (t.runtime.decoded g frame) command (io 0)
      obtain ⟨hbuffer, handed, hcalls, hpass⟩ := hwrote.mem hf f rfl
      refine ⟨own_frame hone hcond (canRelay_of_passthrough hcalls hpass) hbuffer hexec, ?_⟩
      -- a rewritten Execute hands over no frame at all
      intro sql hrewritten
      have hown := own_frame hone hcond (canRelay_of_passthrough hcalls hpass) hbuffer hexec
      have hexecFrame : (readFrame frame).any ClientFrame.isExecute = true := by
        rw [hown]
        exact hexec
      rw [hevents] at hrewritten
      rcases (rewritten_text htr (isStatement_execute hone hexecFrame) hexecFrame hcond hrewritten).mem hf
        with hw | hw
      · cases hw
      · cases hw

end Step

/-! ## Runs -/

/-- **Rewrites survive** in every run in which the text of every Execute can be replaced. -/
theorem rewrite_survives (d : Dialect)
    (codec : PostgreSqlFrontend → SessionState → Option Obligations → RowCodec) (service : Service)
    (htr : service.translation = none) (g : Gateway PostgreSqlFrontend Connector)
    (acts : List (Runtime.Act RawFrame CallIo HealthIo Nat)) (hok : Meets (postgreSqlRuntime d codec service).step
      (ReplaceableStep (postgreSqlRuntime d codec service)) (some g) acts)
    {e : Entry _ _ _} (he : e ∈ entries (postgreSqlRuntime d codec service).step (some g) acts) :
    SurvivesStep (postgreSqlRuntime d codec service) e.pre e.act := by
  intro g' frame io hg ha
  exact survives_frame (t := ⟨d, codec, service⟩) htr fun command hcmd => hok e he g' frame io command hg ha hcmd

/-! ## A row filter that is not applied -/

/-- Everybody sees their own accounts; with a row cap or without. -/
def ownAccounts (maxRows : Option Nat) : LocalPdpInner :=
  { rulesOnly [⟨"own", "allow", [], ["accounts"], [], [], some "owner = 1"⟩] with
    defaultMaxRows := maxRows }

def appendFilter : Rewriters := ⟨fun _ _ => none, fun sql filter => some (sql ++ " where " ++ filter)⟩

/-- `alice` prepares and binds a statement over all accounts. -/
def bindsAccounts (maxRows : Option Nat) : List (Runtime.Act RawFrame CallIo HealthIo Nat) :=
  [.parse "s" "select * from accounts", .bind "p" "s" [] []].map (sends (ownAccounts maxRows) appendFilter)

def executesAccounts (maxRows : Option Nat) : Runtime.Act RawFrame CallIo HealthIo Nat :=
  sends (ownAccounts maxRows) appendFilter (.execute "p" 0)

def beforeAccounts (maxRows : Option Nat) : Option (Gateway PostgreSqlFrontend Connector) :=
  final (plainRuntime true).step (some aliceStart) (bindsAccounts maxRows)

def accountsHanded (maxRows : Option Nat) : Option (List Sent) :=
  (beforeAccounts maxRows).map fun g =>
    (handedOver (plainRuntime true) g (frameOf (.execute "p" 0)) fun _ =>
      workingIo (ownAccounts maxRows) appendFilter).map (·.2)

/-- Whether the decision has an obligation for the rows of a rewritten text. -/
def owesRows : SecurityDecision → Bool
  | .allowRewrite _ o => o.hasResultObligations
  | _ => false

/-- Nothing is left in the buffer while a statement is prepared, bound and executed, and the row cap is
    owed. -/
theorem replaceableStep_accounts {g : Option (Gateway PostgreSqlFrontend Connector)} {message : FrontendMessage}
    (hbuffer : g.map (fun g => g.session.pgClientExtendedFrames.any ClientFrame.isExecute) = some false)
    (howed : (frameOf message).content.toOption.any ClientFrame.isExecute = true →
      message = .execute "p" 0 ∧ g.map (fun g => ((plainRuntime true).commandsOf g (frameOf message),
          ((plainRuntime true).decoded g (frameOf message)).session.user,
          ((plainRuntime true).decoded g (frameOf message)).session.database)) =
        some ([.query "select * from accounts"], some "alice", some "app")) :
    ReplaceableStep (plainRuntime true) g (sends (ownAccounts (some 10)) appendFilter message) := by
  rintro g' frame io command rfl ⟨⟩ hcmd
  refine ⟨fun _ f hf hexec => ?_, fun _ hexec a sql o hasked hdec => ?_⟩
  · injection hbuffer with hnone
    exact absurd hexec (List.any_eq_false.mp hnone f hf)
  · obtain ⟨rfl, hview⟩ := howed hexec
    injection hview with hview
    injection hview with hcommands hview
    injection hview with huser hdatabase
    obtain rfl : command = .query "select * from accounts" := by
      have heq := hcmd.symm.trans hcommands
      injection heq
    obtain rfl : .query "select * from accounts" = a := by
      injection hasked
    have hcall : (plainRuntime true).pdpCall (.query "select * from accounts")
        ((plainRuntime true).decoded g' (frameOf (.execute "p" 0))).session
        (workingIo (ownAccounts (some 10)) appendFilter) =
      (plainRuntime true).pdpCall (.query "select * from accounts") aliceStart.session
        (workingIo (ownAccounts (some 10)) appendFilter) := by
      unfold Runtime.pdpCall
      rw [huser, hdatabase]
      rfl
    unfold Runtime.decision at hdec
    rw [hcall] at hdec
    have howes : ((authorizeCommandWithObjects ((plainRuntime true).pdpCall
        (.query "select * from accounts") aliceStart.session
        (workingIo (ownAccounts (some 10)) appendFilter)) (.query "select * from accounts")
        (workingIo (ownAccounts (some 10)) appendFilter).pdp.store).1.map owesRows) = some true := by decide
    rw [hdec] at howes
    injection howes

/-- With a row cap the filtered text is executed, and nothing else. -/
theorem capped_filter_survives :
    accountsHanded (some 10) = some [.simpleQuery "select * from accounts where owner = 1"] ∧
    ∀ e ∈ entries (plainRuntime true).step (some aliceStart)
        (bindsAccounts (some 10) ++ [executesAccounts (some 10)]), SurvivesStep (plainRuntime true) e.pre e.act := by
  refine ⟨by decide, fun e he => ?_⟩
  refine rewrite_survives plainDialect plainCodec (plainService true) rfl aliceStart _ ?_ he
  refine meets_cons (replaceableStep_accounts ?_ ?_) (meets_cons (replaceableStep_accounts ?_ ?_)
    (meets_cons (replaceableStep_accounts ?_ ?_) meets_nil))
  · decide
  · intro h
    cases h
  · decide
  · intro h
    cases h
  · decide
  · intro _
    exact ⟨rfl, by decide⟩

/-- **A row filter that is not applied**: without a row cap the command is passed through as it is. -/
theorem filter_passed_by :
    (beforeAccounts none).map (fun g => (plainRuntime true).decision (.query "select * from accounts")
      g.session (workingIo (ownAccounts none) appendFilter)) =
      some (some (.allowRewrite "select * from accounts where owner = 1"
        { Obligations.none with rowFilter := some "owner = 1" })) ∧
    accountsHanded none = some [.frame ⟨[], .parse "s" "select * from accounts"⟩,
      .frame ⟨[], .bind "p" "s" [] []⟩, .describePortal "p", .frame ⟨[], .execute "p" 0⟩, .flush] ∧
    ¬∀ e ∈ entries (plainRuntime true).step (some aliceStart) (bindsAccounts none ++ [executesAccounts none]),
      SurvivesStep (plainRuntime true) e.pre e.act := by
  have hhanded : accountsHanded none = some [.frame ⟨[], .parse "s" "select * from accounts"⟩,
      .frame ⟨[], .bind "p" "s" [] []⟩, .describePortal "p", .frame ⟨[], .execute "p" 0⟩, .flush] := by
    decide
  refine ⟨by decide, hhanded, fun h => ?_⟩
  have hlast := h _ (last_mem_entries _ _ (bindsAccounts none) (executesAccounts none))
  obtain ⟨g, hg, hwrites⟩ := Option.map_eq_some_iff.mp hhanded
  have hsurvives := hlast g _ _ hg rfl
  -- the Execute is rewritten, so its frame should not be among the writes
  have hmem : Sent.frame ⟨[], .execute "p" 0⟩ ∈ (handedOver (plainRuntime true) g (frameOf (.execute "p" 0)) fun _ =>
        workingIo (ownAccounts none) appendFilter).map (·.2) := by
    rw [hwrites]
    decide
  obtain ⟨⟨conn, sent⟩, hin, hsent⟩ := List.mem_map.mp hmem
  obtain rfl : sent = .frame ⟨[], .execute "p" 0⟩ := hsent
  have hquestions : (beforeAccounts none).map (fun g => (questions ((plainRuntime true).handleFrame g
      (frameOf (.execute "p" 0)) fun _ => workingIo (ownAccounts none) appendFilter).events).map
      fun q => (authorizeCommandWithObjects q.1 q.2.2 q.2.1).1) =
      some [some (.allowRewrite "select * from accounts where owner = 1"
        { Obligations.none with rowFilter := some "owner = 1" })] := by decide
  obtain ⟨g', hg', hq⟩ := Option.map_eq_some_iff.mp hquestions
  obtain rfl : g = g' := by
    have heq := hg.symm.trans hg'
    injection heq
  obtain ⟨⟨call, store, asked⟩, hqmem, hdec⟩ := List.mem_map.mp (by
    rw [hq]; exact List.mem_singleton.mpr rfl)
  exact (hsurvives.frames conn _ hin rfl).2 _ ⟨call, store, asked, _, mem_questions.mp hqmem, hdec⟩

end DataNexus.Engine
