/-
  Complete mediation: does every text that is handed to the backend pass the decision point?

  When a command is passed through, an Execute among the buffered client frames runs its text.  So the decision point is
  not passed by DECLARE; by a Describe whose text it rewrites; by an Execute that was denied, rewritten or answered from
  rows and is still in the buffer; and by a rewritten Execute that is passed through itself.  `Mediable` excludes these
  four (`complete_mediation`).
-/
import DataNexus.Engine.Trace
import DataNexus.Engine.PostgreSql
import DataNexus.Lib.Run

namespace DataNexus.Engine

open DataNexus.Pdp DataNexus.Tickets DataNexus.Run
open DataNexus.Backend (isRowCommand)

variable {φ ι β ω η κ : Type}

namespace Runtime

variable (r : Runtime φ ι β ω η κ)

/-! ## Texts and decisions -/

/-- The text is handed to the backend for execution: in the command, or by an Execute in the buffer that
    a passed-through command relays. -/
def HandsText (g : Gateway φ β) (frame : ι) (h : HandOff) (text : String) : Prop :=
  sqlText h.command = some text ∨
  (h.mode = .passthrough ∧ isRowCommand h.command = true ∧
    ∃ f ∈ h.session.pgClientExtendedFrames, f.isExecute = true ∧
      r.frontend.boundText (r.decoded g frame).frontend f = some text)

def subjectOf (session : SessionState) : Subject := Subject.fromProtocolUser session.user session.database

/-- The decision point allowed the text for the subject, or put it in the place of another. -/
def Allows (events : List Event) (subject : Subject) (text : String) : Prop :=
  ∃ call store asked, .authorized call store asked ∈ events ∧ call.subject = subject ∧
    ((∃ o, (authorizeCommandWithObjects call asked store).1 = some (.allow o) ∧
        sqlText asked = some text) ∨
      ∃ o, (authorizeCommandWithObjects call asked store).1 = some (.allowRewrite text o))

/-- Every text that a step hands over is allowed in that step. -/
def Mediated (g : Option (Gateway φ β)) (a : Act ι ω η κ) (events : List Event) : Prop :=
  ∀ g' frame io, g = some g' → a = .frame frame io → ∀ h ∈ calls events, ∀ text,
    r.HandsText g' frame h text → Allows events (subjectOf h.session) text

/-! ## When the decision point is passed by -/

/-- The command that the decision point is asked about: after plugins and translation. -/
def asked (command : GatewayCommand) (io : CommandIo ω η) : Option GatewayCommand :=
  match r.pluginStage command .default io with
  | .admitted command _ =>
    match r.translationStage command .default with
    | .admitted command _ => some command
    | _ => none
  | _ => none

/-- What the decision point answers about a command in a session. -/
def decision (command : GatewayCommand) (session : SessionState) (io : CommandIo ω η) : Option SecurityDecision :=
  (authorizeCommandWithObjects (r.pdpCall command session io) command io.pdp.store).1

/-- Some command of the service can be passed through. -/
def canRelay : Bool := r.service.passthroughEnabled || r.service.streamMode == .passthrough

/-- The decision point cannot be passed by in this step. -/
structure Mediable (g : Gateway φ β) (frame : ι) (command : GatewayCommand) (io : CommandIo ω η) :
    Prop where
  /-- A DECLARE names a cursor that is open already. -/
  cursor : ∀ name selectSql withHold, cursorSql command = some (.declare name selectSql withHold) →
    g.namedCursors name ≠ none
  /-- A Describe is not answered with a rewrite. -/
  describe : ∀ sql text o, r.asked command io = some (.describeSql sql) →
    r.decision (.describeSql sql) (r.decoded g frame).session io ≠ some (.allowRewrite text o)
  /-- No Execute of an earlier command is left in the buffer, except that an Execute under a hold starts
      the buffer anew. -/
  leftover : r.canRelay = true → ∀ f ∈ g.session.pgClientExtendedFrames, f.isExecute = true →
    g.session.pgExtTcpHold = true ∧ (r.frontend.clientFrame frame).any ClientFrame.isExecute = true
  /-- An Execute that can be passed through keeps its text: no plugin rewrites it, and the decision point
      does so only together with an obligation on the result. -/
  unrewritten : r.canRelay = true →
    (r.frontend.clientFrame frame).any ClientFrame.isExecute = true →
    (∀ sql, r.service.pluginsEnabled = true → io.plugin ≠ .ok (.rewrite sql)) ∧
    ∀ text o, r.decision command (r.decoded g frame).session io = some (.allowRewrite text o) →
      o.hasResultObligations = true

def MediableStep (g : Option (Gateway φ β)) (a : Act ι ω η κ) : Prop :=
  ∀ g' frame io command, g = some g' → a = .frame frame io → r.commandsOf g' frame = [command] →
    r.Mediable g' frame command (io 0)

/-! ## The stages, read backwards -/

variable {command' a : GatewayCommand} {o : Obligations} {evs : List Event}

theorem pluginStage_admitted {command : GatewayCommand} {session : SessionState} {io : CommandIo ω η}
    (h : r.pluginStage command session io = .admitted command' o) (session' : SessionState) :
    r.pluginStage command session' io = .admitted command' o := by
  unfold pluginStage at h ⊢
  split
  · rename_i hon
    rw [if_pos hon] at h
    revert h
    generalize io.plugin = d
    intro h
    rcases d with text | _ | ⟨code, message⟩ | sql
    · cases h
    · exact h
    · cases h
    · exact h
  · rename_i hoff
    rw [if_neg hoff] at h
    exact h

theorem translationStage_admitted {command : GatewayCommand} {session : SessionState}
    (h : r.translationStage command session = .admitted command' o) (session' : SessionState) :
    r.translationStage command session' = .admitted command' o := by
  unfold translationStage at h ⊢
  cases htr : r.service.translation with
  | none =>
    rw [htr] at h
    exact h
  | some translate =>
    rw [htr] at h
    dsimp only at h ⊢
    cases hout : translate command with
    | ok translated =>
      rw [hout] at h
      exact h
    | error e =>
      rw [hout] at h
      cases h

theorem precheck_admitted {command handed : GatewayCommand} {session : SessionState} {io : CommandIo ω η}
    (h : r.precheck command session io = (.admitted handed o, evs)) :
    ∃ a, r.asked command io = some a ∧ r.securityStage a session io = (.admitted handed o, evs) := by
  unfold precheck at h
  rcases hp : r.pluginStage command session io with halt | ⟨response, s⟩ | ⟨c, o₁⟩
  · rw [hp] at h
    cases h
  · rw [hp] at h
    cases h
  · rw [hp] at h
    dsimp only at h
    rcases ht : r.translationStage c session with halt | ⟨response, s⟩ | ⟨a, o₂⟩
    · rw [ht] at h
      cases h
    · rw [ht] at h
      cases h
    · rw [ht] at h
      refine ⟨a, ?_, h⟩
      unfold asked
      rw [r.pluginStage_admitted hp]
      dsimp only
      rw [r.translationStage_admitted ht]

theorem questions_precheck {command : GatewayCommand} {session : SessionState} {io : CommandIo ω η}
    {call : Call} {store : TicketStore} (h : (call, store, a) ∈ questions (r.precheck command session io).2) :
    r.asked command io = some a ∧ call = r.pdpCall a session io ∧ store = io.pdp.store ∧
      r.precheck command session io = (enforce a session (r.decision a session io),
        [.authorized (r.pdpCall a session io) io.pdp.store a]) := by
  unfold precheck at h ⊢
  unfold asked
  rcases hp : r.pluginStage command session io with halt | ⟨response, s⟩ | ⟨c, o₁⟩
  · rw [hp] at h
    cases h
  · rw [hp] at h
    cases h
  · rw [hp] at h
    rw [r.pluginStage_admitted hp]
    dsimp only at h ⊢
    rcases ht : r.translationStage c session with halt | ⟨response, s⟩ | ⟨b, o₂⟩
    · rw [ht] at h
      cases h
    · rw [ht] at h
      cases h
    · rw [ht] at h
      rw [r.translationStage_admitted ht]
      dsimp only at h ⊢
      unfold securityStage at h ⊢
      split at h
      · rename_i hsec
        have hq := List.mem_singleton.mp h
        injection hq with hcall hq
        injection hq with hstore hb
        rw [if_pos hsec]
        subst hb
        exact ⟨rfl, hcall, hstore, rfl⟩
      · cases h

theorem enforce_admitted {command handed : GatewayCommand} {session : SessionState}
    {d : Option SecurityDecision} (h : enforce command session d = .admitted handed o) :
    (d = some (.allow o) ∧ handed = command) ∨
    ∃ text, d = some (.allowRewrite text o) ∧ handed = withRewrite text command := by
  unfold enforce at h
  rcases d with _ | (o' | ⟨text, o'⟩ | _ | _)
  · cases h
  · cases h
    exact .inl ⟨rfl, rfl⟩
  · cases h
    exact .inr ⟨text, rfl, rfl⟩
  · cases h
  · cases h

theorem securityStage_admitted (hsec : r.service.securityEnabled = true) {handed : GatewayCommand}
    {session : SessionState} {io : CommandIo ω η} (h : r.securityStage a session io = (.admitted handed o, evs)) :
    .authorized (r.pdpCall a session io) io.pdp.store a ∈ evs ∧
    ((r.decision a session io = some (.allow o) ∧ handed = a) ∨
      ∃ text, r.decision a session io = some (.allowRewrite text o) ∧ handed = withRewrite text a) := by
  unfold securityStage at h
  rw [if_pos hsec] at h
  dsimp only at h
  injection h with hverdict hevs
  refine ⟨?_, enforce_admitted hverdict⟩
  rw [← hevs]
  exact List.mem_singleton.mpr rfl

theorem execMode_passthrough {command : GatewayCommand} (h : r.execMode command o = .passthrough) :
    r.canRelay = true ∧ o.hasResultObligations = false ∧ r.service.translation = none := by
  unfold execMode at h
  split at h
  · rename_i hwant
    unfold wantPassthrough at hwant
    simp only [Bool.and_eq_true, Bool.not_eq_true', Option.isNone_iff_eq_none] at hwant
    obtain ⟨⟨⟨⟨hon, _⟩, hobl⟩, _⟩, htr⟩ := hwant
    refine ⟨?_, hobl, htr⟩
    unfold canRelay
    rw [hon]
    rfl
  · split at h
    · split at h
      · cases h
      · cases h
    · rename_i hneither
      simp only [Bool.or_eq_true, not_or, Bool.not_eq_true, Option.isSome_eq_false_iff,
        Option.isNone_iff_eq_none] at hneither
      split at h
      · cases h
      · split at h
        · cases h
        · cases h
      · rename_i hmode
        refine ⟨?_, hneither.2, hneither.1⟩
        unfold canRelay
        rw [hmode]
        cases r.service.passthroughEnabled <;> rfl

theorem asked_eq {command : GatewayCommand} {io : CommandIo ω η} (h : r.asked command io = some a)
    (htr : r.service.translation = none)
    (hplugin : ∀ sql, r.service.pluginsEnabled = true → io.plugin ≠ .ok (.rewrite sql)) : a = command := by
  have hstage : ∀ c o, r.pluginStage command .default io = .admitted c o → c = command := by
    intro c o hp
    unfold pluginStage at hp
    split at hp
    · rename_i hon
      cases hio : io.plugin with
      | error text => rw [hio] at hp; cases hp
      | ok d =>
        rw [hio] at hp
        cases d with
        | proceed => cases hp; rfl
        | reject code message => cases hp
        | rewrite sql => exact absurd hio (hplugin sql hon)
    · cases hp
      rfl
  unfold asked at h
  rcases hp : r.pluginStage command .default io with halt | ⟨response, s⟩ | ⟨c, o⟩
  · rw [hp] at h
    cases h
  · rw [hp] at h
    cases h
  · rw [hp] at h
    dsimp only at h
    unfold translationStage at h
    rw [htr] at h
    obtain rfl : c = a := by injection h
    exact hstage c o hp

/-! ## One step -/

theorem allows_command {handed : GatewayCommand} {session : SessionState} {io : CommandIo ω η}
    {events : List Event} {text : String} (hask : .authorized (r.pdpCall a session io) io.pdp.store a ∈ events)
    (hdec : (r.decision a session io = some (.allow o) ∧ handed = a) ∨
      ∃ text, r.decision a session io = some (.allowRewrite text o) ∧ handed = withRewrite text a)
    (hdescribe : ∀ sql text o, a = .describeSql sql →
      r.decision a session io ≠ some (.allowRewrite text o)) (htext : sqlText handed = some text) :
    Allows events (subjectOf session) text := by
  refine ⟨_, _, a, hask, rfl, ?_⟩
  rcases hdec with ⟨hallow, rfl⟩ | ⟨new, hrewrite, rfl⟩
  · exact .inl ⟨o, hallow, htext⟩
  · refine .inr ⟨o, ?_⟩
    -- the rewritten text stands in every command that carries a text, a DescribeSql apart
    have hnew : new = text := by
      cases a with
      | query sql => injection htext
      | queryParams sql parameters => injection htext
      | prepare sql => injection htext
      | describeSql sql => exact absurd hrewrite (hdescribe sql new o rfl)
      | _ => cases htext
    rw [← hnew]
    exact hrewrite

/-- **One command.**  What it hands over is allowed in its own step. -/
theorem allows_of_mediable (hsec : r.service.securityEnabled = true) {g : Gateway φ β} {frame : ι}
    {command : GatewayCommand} {io : CommandIo ω η}
    (hone : (r.frontend.decode g.frontend frame g.session).1 = .ok [command])
    (hok : r.Mediable g frame command io) {h : HandOff}
    (hcall : h ∈ calls (r.handleCommand (r.decoded g frame) command io).events) {text : String}
    (htext : r.HandsText g frame h text) :
    Allows (r.handleCommand (r.decoded g frame) command io).events (subjectOf h.session) text := by
  have hmem : command ∈ [command] := List.mem_singleton.mpr rfl
  cases r.reaches_handleCommand (r.decoded g frame) command io with
  | not hnone =>
    rw [hnone] at hcall
    cases hcall
  | declare name selectSql withHold session hsql hroute hnew hcalls =>
    exact absurd hnew (hok.cursor name selectSql withHold hsql)
  | admitted session handed o asked hroute hcheck hasked hcalls =>
    rw [hcalls] at hcall
    obtain rfl := List.mem_singleton.mp hcall
    obtain ⟨a, ha, hstage⟩ := r.precheck_admitted hcheck
    obtain ⟨hask, hdec⟩ := r.securityStage_admitted hsec hstage
    have hsame : r.decision a session io = r.decision a (r.decoded g frame).session io := by
      rw [r.route_ok hroute]
      rfl
    have hevent := hasked _ hask
    rcases htext with hsql | ⟨hmode, hrow, f, hf, hexec, hbound⟩
    · change Allows _ (subjectOf session) text
      refine r.allows_command hevent hdec ?_ hsql
      intro sql new o' hdescribe
      rw [hsame, hdescribe]
      exact hok.describe sql new o' (hdescribe ▸ ha)
    · obtain ⟨hrelay, hobl, htr⟩ := r.execMode_passthrough hmode
      have hbuffer : f ∈ (r.decoded g frame).session.pgClientExtendedFrames := by
        rw [r.route_ok hroute] at hf
        exact hf
      -- an Execute in the buffer is the frame in hand
      have hown : r.frontend.clientFrame frame = some f := by
        rcases r.frontend.decode_frames _ _ _ _ command f hone hmem hbuffer with hown | ⟨hold, hnot⟩
        · exact hown
        · exact absurd (hok.leftover hrelay f hold hexec) hnot
      have hexecFrame : (r.frontend.clientFrame frame).any ClientFrame.isExecute = true := by
        rw [hown]
        exact hexec
      obtain ⟨hplugin, hrewrite⟩ := hok.unrewritten hrelay hexecFrame
      obtain rfl : a = command := r.asked_eq ha htr hplugin
      have hcommand : sqlText a = some text := (r.frontend.decode_text _ _ _ _ a f hone hmem hown hexec).trans hbound
      rcases hdec with ⟨hallow, _⟩ | ⟨new, hnew, _⟩
      · exact ⟨_, _, a, hevent, rfl, .inl ⟨o, hallow, hcommand⟩⟩
      · rw [hsame] at hnew
        rw [hrewrite new o hnew] at hobl
        cases hobl

/-- **One step.** -/
theorem mediated_step (hsec : r.service.securityEnabled = true) {g : Option (Gateway φ β)}
    {a : Act ι ω η κ} (hok : r.MediableStep g a) : r.Mediated g a (r.step g a).1 := by
  rintro g' frame io rfl rfl h hcall text htext
  change h ∈ calls (r.handleFrame g' frame io).events at hcall
  change Allows (r.handleFrame g' frame io).events _ _
  rcases r.handleFrame_cases g' frame io with ⟨_, hquiet, _⟩ | ⟨command, hcmd, hone, hevents, _, _⟩
  · rw [hquiet.calls] at hcall
    cases hcall
  · rw [hevents] at hcall ⊢
    exact r.allows_of_mediable hsec hone (hok g' frame io command rfl rfl hcmd) hcall htext

end Runtime

/-! ## Runs -/

/-- `secrets` is closed to everybody. -/
def secretsDenied : LocalPdpInner := rulesOnly [⟨"no-secrets", "deny", [], ["secrets"], [], [], none⟩]

/-- `alice` asks for an open table. -/
def readsOpen : Runtime.Act Frontend.RawFrame Backend.CallIo HealthIo Nat :=
  sends secretsDenied noRewriters (.query "select * from open")

/-- `alice` declares a cursor over the closed one. -/
def declaresSecrets : Runtime.Act Frontend.RawFrame Backend.CallIo HealthIo Nat :=
  sends secretsDenied noRewriters (.query "declare c cursor for select * from secrets")

/-- The event is a question about the text, or one that was answered with a rewrite. -/
def concerns (text : String) : Event → Bool
  | .authorized call store asked =>
    sqlText asked == some text ||
      (match (authorizeCommandWithObjects call asked store).1 with
        | some (.allowRewrite _ _) => true
        | _ => false)
  | _ => false

theorem not_allows {events : List Event} {text : String}
    (h : events.any (concerns text) = false) (subject : Subject) : ¬Runtime.Allows events subject text := by
  rintro ⟨call, store, asked, hmem, _, hallowed⟩
  have hno := List.any_eq_false.mp h _ hmem
  rcases hallowed with ⟨o, _, htext⟩ | ⟨o, hrewrite⟩
  · refine hno ?_
    dsimp only [concerns]
    rw [htext]
    simp
  · refine hno ?_
    dsimp only [concerns]
    rw [hrewrite]
    simp

/-- Two statements in one unit, the first over the closed table, up to the last Execute. -/
def twoStatements : List (Runtime.Act Frontend.RawFrame Backend.CallIo HealthIo Nat) :=
  [.parse "s1" "select * from secrets", .bind "p1" "s1" [] [], .execute "p1" 0,
    .parse "s2" "select * from open", .bind "p2" "s2" [] []].map (sends secretsDenied noRewriters)

def executesOpen : Runtime.Act Frontend.RawFrame Backend.CallIo HealthIo Nat :=
  sends secretsDenied noRewriters (.execute "p2" 0)

def beforeExecute : Option (Gateway Frontend.PostgreSqlFrontend Backend.Connector) :=
  final (plainRuntime true).step (some aliceStart) twoStatements

end DataNexus.Engine
