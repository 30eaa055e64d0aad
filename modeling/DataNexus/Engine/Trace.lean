/-
  What one command of a frame can hand to the backend.

  A command reaches `execute_outcome` at most once, and on two ways only:

      DECLARE of a new cursor    its select, behind routing and nothing else
      an admitted command        behind plugins, translation and the decision point

  `calls_handleCommand` says so.  Everything later about hand-offs is read off from it; the thousand lines
  of the loop body are not unfolded again.
-/
import DataNexus.Engine.Gateway

namespace DataNexus.Engine

open DataNexus.Stream DataNexus.Pdp DataNexus.Tickets
open DataNexus.Backend (Outcome WireRelay)

/-! ## Hand-offs -/

/-- The arguments of a call of `execute_outcome`. -/
structure HandOff where
  command : GatewayCommand
  session : SessionState
  mode : ExecuteMode

/-- The calls of `execute_outcome` in a trace. -/
def calls (events : List Event) : List HandOff :=
  events.filterMap fun
    | .executed command session mode => some ⟨command, session, mode⟩
    | _ => none

@[simp] theorem calls_nil : calls [] = [] := rfl

@[simp] theorem calls_append (xs ys : List Event) : calls (xs ++ ys) = calls xs ++ calls ys := List.filterMap_append

@[simp] theorem calls_executed (command : GatewayCommand) (session : SessionState)
    (mode : ExecuteMode) (rest : List Event) :
    calls (.executed command session mode :: rest) = ⟨command, session, mode⟩ :: calls rest := rfl

/-- The questions to the decision point in a trace. -/
def questions (events : List Event) : List (Call × TicketStore × GatewayCommand) :=
  events.filterMap fun
    | .authorized call store command => some (call, store, command)
    | _ => none

@[simp] theorem questions_append (xs ys : List Event) : questions (xs ++ ys) = questions xs ++ questions ys :=
  List.filterMap_append

theorem mem_questions {events : List Event} {call : Call} {store : TicketStore} {command : GatewayCommand} :
    (call, store, command) ∈ questions events ↔ .authorized call store command ∈ events := by
  unfold questions
  rw [List.mem_filterMap]
  constructor
  · rintro ⟨event, hmem, h⟩
    cases event with
    | authorized call' store' command' =>
      injection h with h
      injection h with hcall h
      injection h with hstore hcommand
      rw [← hcall, ← hstore, ← hcommand]
      exact hmem
    | _ => cases h
  · intro h
    exact ⟨_, h, rfl⟩

variable {φ ι β ω η κ : Type} (r : Runtime φ ι β ω η κ)

namespace Runtime

/-! ## Answers hand over nothing and stay at the endpoint -/

/-- The call hands nothing to the backend, asks nothing and leaves the session at its endpoint. -/
structure Quiet (g : Gateway φ β) (out : Handled (Gateway φ β)) : Prop where
  calls : calls out.events = []
  questions : questions out.events = []
  endpoint : out.gateway.session.backendEndpoint = g.session.backendEndpoint

theorem quiet_encodeOwed (g : Gateway φ β) (response : GatewayResponse)
    (obligations : Option Obligations) (io : CommandIo ω η) : Quiet g (r.encodeOwed g response obligations io) := by
  unfold encodeOwed
  split <;> exact ⟨rfl, rfl, rfl⟩

theorem quiet_encodeResponse (g : Gateway φ β) (response : GatewayResponse) (io : CommandIo ω η) :
    Quiet g (r.encodeResponse g response io) :=
  r.quiet_encodeOwed g response none io

theorem failUnit_endpoint (session : SessionState) :
    (r.failUnit session).backendEndpoint = session.backendEndpoint := by
  unfold failUnit
  split <;> rfl

theorem quiet_rejectUnsupportedCapability (g : Gateway φ β) (capability : UnsupportedSqlCapability)
    (io : CommandIo ω η) : Quiet g (r.rejectUnsupportedCapability g capability io) := by
  have h := r.quiet_encodeResponse { g with session := r.failUnit g.session }
    (.error "0A000" ("unsupported capability: " ++ capability.asStr)) io
  exact ⟨h.calls, h.questions, h.endpoint.trans (r.failUnit_endpoint g.session)⟩

theorem quiet_cursorError (g : Gateway φ β) (code message : String) (io : CommandIo ω η) :
    Quiet g (r.cursorError g code message io) :=
  have h := r.quiet_encodeResponse
    { g with session := { g.session with transactionState := g.session.transactionState.afterError } }
    (.error code message) io
  ⟨h.calls, h.questions, h.endpoint⟩

theorem observeRelay_endpoint (session : SessionState) (response : Backend.RelayEnd) :
    (Backend.observeRelay session response).backendEndpoint = session.backendEndpoint := by
  unfold Backend.observeRelay
  dsimp only
  split <;> split <;> rfl

theorem relayedSession_endpoint (command : GatewayCommand) (session : SessionState) (response : Backend.RelayEnd) :
    (relayedSession command session response).backendEndpoint = session.backendEndpoint := by
  unfold relayedSession
  dsimp only
  split
  · exact observeRelay_endpoint session response
  · split
    · exact observeRelay_endpoint session response
    · exact observeRelay_endpoint session response

theorem quiet_settleRelay (g : Gateway φ β) (command : GatewayCommand) (relay : WireRelay)
    (io : CommandIo ω η) : Quiet g (r.settleRelay g command relay io) := by
  unfold settleRelay
  dsimp only
  split
  · exact ⟨rfl, rfl, rfl⟩
  · exact ⟨rfl, rfl, rfl⟩
  · exact ⟨rfl, rfl, relayedSession_endpoint command g.session relay.response⟩

theorem pageSession_endpoint (session : SessionState) :
    (pageSession session).backendEndpoint = session.backendEndpoint := by
  unfold pageSession
  split <;> rfl

theorem afterPage_endpoint (g : Gateway φ β) (columns : List Column) (page : LoopEnd) :
    (afterPage g columns page).session.backendEndpoint = g.session.backendEndpoint := by
  unfold afterPage
  dsimp only
  split
  · exact pageSession_endpoint g.session
  · split
    · exact pageSession_endpoint g.session
    · split <;> exact pageSession_endpoint g.session

theorem quiet_settleRows (g : Gateway φ β) (obligations : Obligations) (mode : ExecuteMode)
    (columns : List Column) (windows : List (List Row)) (io : CommandIo ω η) :
    Quiet g (r.settleRows g obligations mode columns windows io) := by
  unfold settleRows
  dsimp only
  split
  · exact ⟨rfl, rfl, pageSession_endpoint g.session⟩
  · exact ⟨rfl, rfl, pageSession_endpoint g.session⟩
  · exact ⟨rfl, rfl, afterPage_endpoint _ _ _⟩

theorem dropCursors_endpoint (command : GatewayCommand) (g : Gateway φ β) :
    (dropCursors command g).session.backendEndpoint = g.session.backendEndpoint := by
  unfold dropCursors
  split <;> rfl

theorem quiet_settleResponse (g : Gateway φ β) (command : GatewayCommand)
    (response : GatewayResponse) (obligations : Option Obligations) (io : CommandIo ω η) :
    Quiet g (r.settleResponse g command response obligations io) := by
  unfold settleResponse
  dsimp only
  -- the error flags are set before the answer is encoded
  generalize hs : (if isErrorResponse response && r.frontend.protocol == .postgreSql then
    Backend.observeError g.session else g.session) = session
  have hend : session.backendEndpoint = g.session.backendEndpoint := by
    rw [← hs]
    split <;> rfl
  have h := r.quiet_encodeOwed { g with session := session } response obligations io
  split
  · exact ⟨h.calls, h.questions, h.endpoint.trans hend⟩
  · exact ⟨h.calls, h.questions, (dropCursors_endpoint command _).trans (h.endpoint.trans hend)⟩

theorem quiet_settle (g : Gateway φ β) (command : GatewayCommand) (obligations : Obligations)
    (mode : ExecuteMode) (io : CommandIo ω η) (outcome : Except GatewayError Outcome) :
    Quiet g (r.settle g command obligations mode io outcome) := by
  rcases outcome with e | response | ⟨columns, windows⟩ | relay
  · exact r.quiet_settleResponse g command _ none io
  · exact r.quiet_settleResponse g command response _ io
  · exact r.quiet_settleRows g obligations mode columns windows io
  · exact r.quiet_settleRelay g command relay io

/-! ## One call at most -/

theorem dropInvalidatedPortal_eq (g : Gateway φ β) : dropInvalidatedPortal g = { g with
        heldPortalStream := (dropInvalidatedPortal g).heldPortalStream
        session := { g.session with pgDropPortalHold := false } } := by
  unfold dropInvalidatedPortal
  split
  · rfl
  · rename_i h
    have hfalse : g.session.pgDropPortalHold = false := by
      cases hd : g.session.pgDropPortalHold with
      | true => exact absurd hd h
      | false => rfl
    obtain ⟨frontend, backend, session, held, cursors⟩ := g
    obtain ⟨_, _, _, _, _, _, _, _, _, _, _, _, drop, _, _⟩ := session
    dsimp only at hfalse
    rw [hfalse]

theorem obtainOutcome_cases (g : Gateway φ β) (command : GatewayCommand) (mode : ExecuteMode) (io : CommandIo ω η) :
    (∃ held : StreamingQuery, r.obtainOutcome g command mode io = (.ok (.streaming held.columns held.windows),
        { dropInvalidatedPortal g with heldPortalStream := none }, [])) ∨
    (∃ out, r.backend.executeOutcome g.backend command (dropInvalidatedPortal g).session mode io.call
        = out ∧
      r.obtainOutcome g command mode io =
        (out.1, { g with backend := out.2.2, session := out.2.1, heldPortalStream := none },
          [.executed command (dropInvalidatedPortal g).session mode])) := by
  have hbackend : (dropInvalidatedPortal g).backend = g.backend := by rw [dropInvalidatedPortal_eq]
  have hcall : ∀ out, r.backend.executeOutcome (dropInvalidatedPortal g).backend command
      (dropInvalidatedPortal g).session mode io.call = out →
      ({ dropInvalidatedPortal g with
        backend := out.2.2, session := out.2.1, heldPortalStream := none } : Gateway φ β) =
      { g with backend := out.2.2, session := out.2.1, heldPortalStream := none } := by
    intro out _
    rw [dropInvalidatedPortal_eq]
  unfold obtainOutcome
  dsimp only
  split
  · rename_i held _ _
    exact .inl ⟨held, rfl⟩
  · refine .inr ⟨_, rfl, ?_⟩
    rw [hcall _ rfl, hbackend]

theorem calls_execute (g : Gateway φ β) (decoded command : GatewayCommand)
    (obligations : Obligations) (io : CommandIo ω η) :
    calls (r.execute g decoded command obligations io).events = [] ∨
    calls (r.execute g decoded command obligations io).events =
      [⟨command, (dropInvalidatedPortal g).session, r.execMode command obligations⟩] := by
  unfold execute
  dsimp only
  rcases r.obtainOutcome_cases g command (r.execMode command obligations) io with
    ⟨held, h⟩ | ⟨out, _, h⟩
  · rw [h]
    refine .inl ?_
    simp [(r.quiet_settle _ decoded obligations _ io _).calls]
  · rw [h]
    refine .inr ?_
    simp [(r.quiet_settle _ decoded obligations _ io _).calls]

theorem questions_execute (g : Gateway φ β) (decoded command : GatewayCommand)
    (obligations : Obligations) (io : CommandIo ω η) :
    questions (r.execute g decoded command obligations io).events = [] := by
  unfold execute
  dsimp only
  rcases r.obtainOutcome_cases g command (r.execMode command obligations) io with
    ⟨held, h⟩ | ⟨out, _, h⟩
  · rw [h]
    exact (r.quiet_settle _ decoded obligations _ io _).questions
  · rw [h]
    exact (r.quiet_settle _ decoded obligations _ io _).questions

theorem execute_endpoint (g : Gateway φ β) (decoded command : GatewayCommand)
    (obligations : Obligations) (io : CommandIo ω η) :
    (r.execute g decoded command obligations io).gateway.session.backendEndpoint = g.session.backendEndpoint := by
  unfold execute
  dsimp only [Handled.after_gateway]
  refine (r.quiet_settle _ decoded obligations _ io _).endpoint.trans ?_
  rcases r.obtainOutcome_cases g command (r.execMode command obligations) io with
    ⟨held, h⟩ | ⟨out, hout, h⟩
  · rw [h]
    dsimp only
    rw [dropInvalidatedPortal_eq]
  · rw [h]
    dsimp only
    rw [← hout, r.backend.executeOutcome_endpoint, dropInvalidatedPortal_eq]

/-! ## The two ways to the backend -/

variable {session' : SessionState} {g : Gateway φ β}

theorem route_ok {command : GatewayCommand} {session : SessionState} {io : CommandIo ω η}
    (h : r.route command session io = .ok session') :
    session' = { session with backendEndpoint := session'.backendEndpoint } := by
  unfold route at h
  cases hp : r.service.routePolicy with
  | none =>
    rw [hp] at h
    obtain rfl : session = session' := by injection h
    rfl
  | some policy =>
    rw [hp] at h
    dsimp only at h
    cases hplan : policy.planCommand command session io.draw with
    | error e => rw [hplan] at h; cases h
    | ok endpoint =>
      rw [hplan] at h
      obtain rfl : applyRoutePlan endpoint session = session' := by injection h
      rfl

theorem quiet_openCursor (g : Gateway φ β) (name : String) (held : NamedCursorHeld)
    (io : CommandIo ω η) : Quiet g (r.openCursor g name held io) :=
  ⟨(r.quiet_encodeResponse _ _ io).calls, (r.quiet_encodeResponse _ _ io).questions,
    (r.quiet_encodeResponse _ _ io).endpoint⟩

theorem quiet_settleDeclare (g : Gateway φ β) (name : String) (withHold : Bool) (io : CommandIo ω η)
    (outcome : Except GatewayError Outcome) : Quiet g (r.settleDeclare g name withHold io outcome) := by
  rcases outcome with e | response | ⟨columns, windows⟩ | relay
  · exact ⟨rfl, rfl, rfl⟩
  · cases response with
    | resultSet columns rows => exact r.quiet_openCursor g name _ io
    | _ => exact r.quiet_encodeResponse g _ io
  · exact r.quiet_openCursor g name _ io
  · exact ⟨(r.quiet_encodeResponse _ _ io).calls, (r.quiet_encodeResponse _ _ io).questions,
    (r.quiet_encodeResponse _ _ io).endpoint⟩

theorem quiet_fetchCursor (g : Gateway φ β) (name : String) (count : Nat) (io : CommandIo ω η) :
    Quiet g (r.fetchCursor g name count io) := by
  unfold fetchCursor
  split
  · exact r.quiet_cursorError g _ _ io
  · rcases r.backend.checkSessionHealth g.backend io.health with ⟨e | _, backend⟩
    · have h := r.quiet_encodeResponse
        { g with
          backend := backend
          namedCursors := Function.update g.namedCursors name none
          session := { g.session with transactionState := .failed } }
        (.error "08006" ("cursor backend connection failed: " ++ e.text)) io
      exact ⟨h.calls, h.questions, h.endpoint⟩
    · exact ⟨(r.quiet_encodeResponse _ _ io).calls, (r.quiet_encodeResponse _ _ io).questions,
    (r.quiet_encodeResponse _ _ io).endpoint⟩

theorem quiet_closeCursor (g : Gateway φ β) (name : String) (io : CommandIo ω η) :
    Quiet g (r.closeCursor g name io) := by
  unfold closeCursor
  split
  · exact r.quiet_cursorError g _ _ io
  · exact ⟨(r.quiet_encodeResponse _ _ io).calls, (r.quiet_encodeResponse _ _ io).questions,
    (r.quiet_encodeResponse _ _ io).endpoint⟩

theorem declareCursor_cases (g : Gateway φ β) (name selectSql : String) (withHold : Bool) (io : CommandIo ω η) :
    Quiet g (r.declareCursor g name selectSql withHold io) ∨ (g.namedCursors name = none ∧
      calls (r.declareCursor g name selectSql withHold io).events = [⟨.query selectSql, g.session, r.declareMode⟩] ∧
      (r.declareCursor g name selectSql withHold io).gateway.session.backendEndpoint =
        g.session.backendEndpoint) := by
  unfold declareCursor
  cases hopen : g.namedCursors name with
  | some held => exact .inl (r.quiet_cursorError g _ _ io)
  | none =>
    refine .inr ⟨rfl, ?_, ?_⟩
    · simp [(r.quiet_settleDeclare _ name withHold io _).calls]
    · dsimp only [Handled.after_gateway]
      refine (r.quiet_settleDeclare _ name withHold io _).endpoint.trans ?_
      exact r.backend.executeOutcome_endpoint _ _ _ _ _

inductive Reaches (g : Gateway φ β) (command : GatewayCommand) (io : CommandIo ω η)
    (out : Handled (Gateway φ β)) : Prop where
  /-- It does not. -/
  | not (h : calls out.events = [])
  /-- DECLARE of a new name: the select, in the routed session. -/
  | declare (name selectSql : String) (withHold : Bool) (session : SessionState)
      (hsql : cursorSql command = some (.declare name selectSql withHold))
      (hroute : r.route command g.session io = .ok session)
      (hnew : g.namedCursors name = none)
      (hcalls : calls out.events = [⟨.query selectSql, session, r.declareMode⟩])
  /-- An admitted command, with the questions that were asked about it. -/
  | admitted (session : SessionState) (handed : GatewayCommand) (obligations : Obligations)
      (asked : List Event)
      (hroute : r.route command g.session io = .ok session)
      (hcheck : r.precheck command session io = (.admitted handed obligations, asked))
      (hasked : ∀ ev ∈ asked, ev ∈ out.events)
      (hcalls : calls out.events =
        [⟨handed, { session with pgDropPortalHold := false }, r.execMode handed obligations⟩])

theorem calls_precheck (command : GatewayCommand) (session : SessionState) (io : CommandIo ω η) :
    calls (r.precheck command session io).2 = [] := by
  unfold precheck
  split
  · split
    · unfold securityStage
      split <;> rfl
    · rfl
  · rfl

theorem precheck_refused {command : GatewayCommand} {session : SessionState} {io : CommandIo ω η}
    {response : GatewayResponse} {asked : List Event}
    (h : r.precheck command session io = (.refused response session', asked)) :
    isErrorResponse response = true ∧ (session' = session ∨ session' = r.failUnit session) := by
  have hplugin : ∀ resp s, r.pluginStage command session io = .refused resp s →
      isErrorResponse resp = true ∧ s = session := by
    intro resp s hp
    unfold pluginStage at hp
    split at hp
    · split at hp
      · cases hp
      · cases hp
      · cases hp
        exact ⟨rfl, rfl⟩
      · cases hp
    · cases hp
  have htrans : ∀ c resp s, r.translationStage c session = .refused resp s →
      isErrorResponse resp = true ∧ s = r.failUnit session := by
    intro c resp s ht
    unfold translationStage at ht
    split at ht
    · cases ht
    · split at ht
      · cases ht
      · cases ht
        exact ⟨rfl, rfl⟩
  have hsec : ∀ c resp s evs, r.securityStage c session io = (.refused resp s, evs) →
      isErrorResponse resp = true ∧ s = session := by
    intro c resp s evs hs
    unfold securityStage at hs
    split at hs
    · dsimp only at hs
      generalize (authorizeCommandWithObjects (r.pdpCall c session io) c io.pdp.store).1 = d at hs
      unfold enforce at hs
      rcases d with _ | (_ | _ | _ | _)
      · cases hs
      · cases hs
      · cases hs
      · cases hs
        exact ⟨rfl, rfl⟩
      · cases hs
        exact ⟨rfl, rfl⟩
    · cases hs
  unfold precheck at h
  cases hp : r.pluginStage command session io with
  | halted halt => rw [hp] at h; cases h
  | refused resp s =>
    rw [hp] at h
    cases h
    exact ⟨(hplugin _ _ hp).1, .inl (hplugin _ _ hp).2⟩
  | admitted c o =>
    rw [hp] at h
    dsimp only at h
    cases ht : r.translationStage c session with
    | halted halt => rw [ht] at h; cases h
    | refused resp s =>
      rw [ht] at h
      cases h
      exact ⟨(htrans _ _ _ ht).1, .inr (htrans _ _ _ ht).2⟩
    | admitted c' o' =>
      rw [ht] at h
      exact ⟨(hsec _ _ _ _ h).1, .inl (hsec _ _ _ _ h).2⟩

theorem precheck_refused_endpoint {command : GatewayCommand} {session : SessionState} {io : CommandIo ω η}
    {response : GatewayResponse} {asked : List Event}
    (h : r.precheck command session io = (.refused response session', asked)) :
    session'.backendEndpoint = session.backendEndpoint := by
  rcases (r.precheck_refused h).2 with rfl | rfl
  · rfl
  · exact r.failUnit_endpoint session

/-- **The ways to the backend.**  A command reaches it not at all, by DECLARE, or admitted. -/
theorem reaches_handleCommand (g : Gateway φ β) (command : GatewayCommand) (io : CommandIo ω η) :
    r.Reaches g command io (r.handleCommand g command io) := by
  unfold handleCommand
  split
  · exact .not (r.quiet_rejectUnsupportedCapability g _ io).calls
  split
  · exact .not rfl
  rename_i session hroute
  split
  · rename_i kind hkind
    cases kind with
    | declare name selectSql withHold =>
      rcases r.declareCursor_cases { g with session := session } name selectSql withHold io with
        h | ⟨hnew, hcalls, _⟩
      · exact .not h.calls
      · exact .declare name selectSql withHold session hkind hroute hnew hcalls
    | fetch name count => exact .not (r.quiet_fetchCursor _ name count io).calls
    | close name => exact .not (r.quiet_closeCursor _ name io).calls
    | unsupported verb => exact .not (r.quiet_encodeResponse _ _ io).calls
  · unfold decideAndExecute
    dsimp only
    rcases hcheck : r.precheck command session io with ⟨halt | ⟨response, session'⟩ | ⟨handed, obl⟩, asked⟩
    · refine .not ?_
      have h := r.calls_precheck command session io
      rw [hcheck] at h
      exact h
    · refine .not ?_
      have h := r.calls_precheck command session io
      rw [hcheck] at h
      simp [(r.quiet_encodeResponse _ response io).calls, h]
    · have h := r.calls_precheck command session io
      rw [hcheck] at h
      have hsession : (dropInvalidatedPortal { g with session := session }).session =
          { session with pgDropPortalHold := false } := by
        rw [dropInvalidatedPortal_eq]
      rcases r.calls_execute { g with session := session } command handed obl io with hc | hc
      · refine .not ?_
        simp [h, hc]
      · refine .admitted session handed obl asked hroute hcheck ?_ ?_
        · intro ev hev
          simp [hev]
        · simp [h, hc, hsession]

/-- A command that was asked about: it was routed, is no cursor statement, and the stages before execution
    asked. -/
theorem questions_handleCommand {command : GatewayCommand} {io : CommandIo ω η}
    {q : Call × TicketStore × GatewayCommand} (h : q ∈ questions (r.handleCommand g command io).events) :
    ∃ session, r.route command g.session io = .ok session ∧ cursorSql command = none ∧
      q ∈ questions (r.precheck command session io).2 := by
  have hnone : ∀ {g' : Gateway φ β} {out : Handled (Gateway φ β)}, Quiet g' out →
      q ∉ questions out.events := by
    intro g' out hquiet hq
    rw [hquiet.questions] at hq
    cases hq
  revert h
  unfold handleCommand
  split
  · exact fun h => absurd h (hnone (r.quiet_rejectUnsupportedCapability g _ io))
  split
  · intro h
    cases h
  rename_i session hroute
  split
  · rename_i kind hkind
    intro h
    refine absurd h ?_
    cases kind with
    | declare name selectSql withHold =>
      unfold handleNamedCursorSql declareCursor
      dsimp only
      split
      · exact hnone (r.quiet_cursorError _ _ _ io)
      · simp only [Handled.after_events, questions_append]
        rw [(r.quiet_settleDeclare _ name withHold io _).questions]
        exact List.not_mem_nil
    | fetch name count => exact hnone (r.quiet_fetchCursor _ name count io)
    | close name => exact hnone (r.quiet_closeCursor _ name io)
    | unsupported verb => exact hnone (r.quiet_encodeResponse _ _ io)
  · rename_i hcursor
    intro h
    refine ⟨session, hroute, hcursor, ?_⟩
    unfold decideAndExecute at h
    dsimp only at h
    rcases hcheck : r.precheck command session io with ⟨halt | ⟨response, session'⟩ | ⟨handed, obl⟩, asked⟩
    · rw [hcheck] at h
      exact h
    · rw [hcheck] at h
      simp only [Handled.after_events, questions_append] at h
      rw [(r.quiet_encodeResponse _ response io).questions, List.append_nil] at h
      exact h
    · rw [hcheck] at h
      simp only [Handled.after_events, questions_append] at h
      rw [r.questions_execute, List.append_nil] at h
      exact h

theorem handleCommand_endpoint (g : Gateway φ β) (command : GatewayCommand) (io : CommandIo ω η) :
    Quiet g (r.handleCommand g command io) ∨ ∃ session, r.route command g.session io = .ok session ∧
      (r.handleCommand g command io).gateway.session.backendEndpoint = session.backendEndpoint := by
  unfold handleCommand
  split
  · exact .inl (r.quiet_rejectUnsupportedCapability g _ io)
  split
  · exact .inl ⟨rfl, rfl, rfl⟩
  rename_i session hroute
  refine .inr ⟨session, hroute, ?_⟩
  split
  · rename_i kind hkind
    cases kind with
    | declare name selectSql withHold =>
      rcases r.declareCursor_cases { g with session := session } name selectSql withHold io with
        h | ⟨_, _, hend⟩
      · exact h.endpoint
      · exact hend
    | fetch name count => exact (r.quiet_fetchCursor _ name count io).endpoint
    | close name => exact (r.quiet_closeCursor _ name io).endpoint
    | unsupported verb => exact (r.quiet_encodeResponse _ _ io).endpoint
  · unfold decideAndExecute
    dsimp only
    rcases hcheck : r.precheck command session io with ⟨halt | ⟨response, session'⟩ | ⟨handed, obl⟩, asked⟩
    · rfl
    · exact (r.quiet_encodeResponse _ response io).endpoint.trans (r.precheck_refused_endpoint hcheck)
    · exact r.execute_endpoint _ command handed obl io

/-! ## What the backend sees -/

/-- The frame buffer and the hold: what the frontend and the connector share. -/
def unitOf (session : SessionState) : List ClientFrame × Bool := (session.pgClientExtendedFrames, session.pgExtTcpHold)

/-- The backend after a call whose outcome was handled. -/
def settled (out : Except GatewayError Outcome × SessionState × β) : β :=
  match out.1 with
  | .ok (.wireRelay relay) => r.backend.finishRelay out.2.2 relay
  | _ => out.2.2

/-- Neither the backend nor the unit is touched. -/
structure Still (g : Gateway φ β) (out : Handled (Gateway φ β)) : Prop where
  backend : out.gateway.backend = g.backend
  unit : unitOf out.gateway.session = unitOf g.session

theorem still_encodeOwed (g : Gateway φ β) (response : GatewayResponse)
    (obligations : Option Obligations) (io : CommandIo ω η) : Still g (r.encodeOwed g response obligations io) := by
  unfold encodeOwed
  split <;> exact ⟨rfl, rfl⟩

theorem still_encodeResponse (g : Gateway φ β) (response : GatewayResponse) (io : CommandIo ω η) :
    Still g (r.encodeResponse g response io) :=
  r.still_encodeOwed g response none io

theorem failUnit_unit (session : SessionState) : unitOf (r.failUnit session) = unitOf session := by
  unfold failUnit
  split <;> rfl

theorem still_rejectUnsupportedCapability (g : Gateway φ β) (capability : UnsupportedSqlCapability)
    (io : CommandIo ω η) : Still g (r.rejectUnsupportedCapability g capability io) := by
  have h := r.still_encodeResponse { g with session := r.failUnit g.session }
    (.error "0A000" ("unsupported capability: " ++ capability.asStr)) io
  exact ⟨h.backend, h.unit.trans (r.failUnit_unit g.session)⟩

theorem still_settleRows (g : Gateway φ β) (obligations : Obligations) (mode : ExecuteMode)
    (columns : List Column) (windows : List (List Row)) (io : CommandIo ω η) :
    Still g (r.settleRows g obligations mode columns windows io) := by
  have hpage : ∀ session : SessionState, unitOf (pageSession session) = unitOf session := by
    intro session
    unfold pageSession
    split <;> rfl
  have hafter : ∀ (g : Gateway φ β) columns page,
      unitOf (afterPage g columns page).session = unitOf g.session := by
    intro g columns page
    refine Eq.trans ?_ (hpage g.session)
    unfold afterPage
    dsimp only
    split
    · rfl
    · split
      · rfl
      · split <;> rfl
  unfold settleRows
  dsimp only
  split
  · exact ⟨rfl, hpage g.session⟩
  · exact ⟨rfl, hpage g.session⟩
  · exact ⟨rfl, hafter _ _ _⟩

theorem still_settleResponse (g : Gateway φ β) (command : GatewayCommand)
    (response : GatewayResponse) (obligations : Option Obligations) (io : CommandIo ω η) :
    Still g (r.settleResponse g command response obligations io) := by
  have hdrop : ∀ g : Gateway φ β, (dropCursors command g).backend = g.backend ∧
      (dropCursors command g).session = g.session := by
    intro g
    unfold dropCursors
    split <;> exact ⟨rfl, rfl⟩
  unfold settleResponse
  dsimp only
  generalize hs : (if isErrorResponse response && r.frontend.protocol == .postgreSql then
    Backend.observeError g.session else g.session) = session
  have hunit : unitOf session = unitOf g.session := by
    rw [← hs]
    split <;> rfl
  have h := r.still_encodeOwed { g with session := session } response obligations io
  split
  · exact ⟨h.backend, h.unit.trans hunit⟩
  · refine ⟨(hdrop _).1.trans h.backend, ?_⟩
    rw [(hdrop _).2]
    exact h.unit.trans hunit

/-- What is left of the unit when an outcome was handled. -/
inductive Leaves (command : GatewayCommand) (out : Except GatewayError Outcome × SessionState × β)
    (session : SessionState) : Prop where
  | same (h : unitOf session = unitOf out.2.1)
  | relayed (relay : WireRelay) (hout : out.1 = .ok (.wireRelay relay))
      (h : unitOf session = unitOf (relayedSession command out.2.1 relay.response))

theorem settle_leaves (g : Gateway φ β) (command : GatewayCommand) (obligations : Obligations)
    (mode : ExecuteMode) (io : CommandIo ω η) (outcome : Except GatewayError Outcome) :
    (r.settle g command obligations mode io outcome).gateway.backend = r.settled (outcome, g.session, g.backend) ∧
    Leaves command (outcome, g.session, g.backend)
      (r.settle g command obligations mode io outcome).gateway.session := by
  rcases outcome with e | response | ⟨columns, windows⟩ | relay
  · have h := r.still_settleResponse g command (.error "gateway_error" e.text) none io
    exact ⟨h.backend, .same h.unit⟩
  · have h := r.still_settleResponse g command response
      (if obligations.hasResultObligations then some obligations else none) io
    exact ⟨h.backend, .same h.unit⟩
  · have h := r.still_settleRows g obligations mode columns windows io
    exact ⟨h.backend, .same h.unit⟩
  · dsimp only [settle]
    unfold settleRelay
    dsimp only
    split
    · exact ⟨rfl, .same rfl⟩
    · exact ⟨rfl, .same rfl⟩
    · exact ⟨rfl, .relayed relay rfl rfl⟩

theorem settleDeclare_leaves (g : Gateway φ β) (command : GatewayCommand) (name : String)
    (withHold : Bool) (io : CommandIo ω η) (outcome : Except GatewayError Outcome) :
    (r.settleDeclare g name withHold io outcome).gateway.backend = r.settled (outcome, g.session, g.backend) ∧
    Leaves command (outcome, g.session, g.backend) (r.settleDeclare g name withHold io outcome).gateway.session := by
  have hopen : ∀ held, Still g (r.openCursor g name held io) := by
    intro held
    have h := r.still_encodeResponse
      { g with namedCursors := Function.update g.namedCursors name (some held) }
      (.commandComplete "DECLARE CURSOR") io
    exact ⟨h.backend, h.unit⟩
  rcases outcome with e | response | ⟨columns, windows⟩ | relay
  · exact ⟨rfl, .same rfl⟩
  · cases response with
    | resultSet columns rows => exact ⟨(hopen _).backend, .same (hopen _).unit⟩
    | _ => exact ⟨(r.still_encodeResponse g _ io).backend, .same (r.still_encodeResponse g _ io).unit⟩
  · exact ⟨(hopen _).backend, .same (hopen _).unit⟩
  · have h := r.still_encodeResponse { g with backend := r.backend.finishRelay g.backend relay }
      (.error "0A000" "DECLARE cursor cannot use wire passthrough (process-local hold only)") io
    exact ⟨h.backend, .same h.unit⟩

/-- **What a command does to the backend and to the unit**: nothing, a health check, or the one call. -/
inductive Serves (g : Gateway φ β) (command : GatewayCommand) (io : CommandIo ω η)
    (out : Handled (Gateway φ β)) : Prop where
  | still (hcalls : calls out.events = []) (h : Still g out)
  | probed (hcalls : calls out.events = []) (hcursor : cursorSql command ≠ none)
      (hbackend : out.gateway.backend = (r.backend.checkSessionHealth g.backend io.health).2)
      (hunit : unitOf out.gateway.session = unitOf g.session)
  | called (h : HandOff) (hcalls : calls out.events = [h]) (hunit : unitOf h.session = unitOf g.session)
      (hstate : h.session.transactionState = g.session.transactionState)
      (hbackend : out.gateway.backend =
        r.settled (r.backend.executeOutcome g.backend h.command h.session h.mode io.call))
      (hleaves : Leaves command
        (r.backend.executeOutcome g.backend h.command h.session h.mode io.call) out.gateway.session)

theorem Serves.after {command : GatewayCommand} {io : CommandIo ω η} {out : Handled (Gateway φ β)}
    (h : r.Serves g command io out) {events : List Event} (hevents : calls events = []) :
    r.Serves g command io (out.after events) := by
  have hcalls : calls (out.after events).events = calls out.events := by simp [hevents]
  cases h with
  | still hc h => exact .still (hcalls.trans hc) ⟨h.backend, h.unit⟩
  | probed hc hcur hb hu => exact .probed (hcalls.trans hc) hcur hb hu
  | called h hc hu hs hb hl => exact .called h (hcalls.trans hc) hu hs hb hl

/-- The routed session has the unit and the transaction state of the one before. -/
theorem Serves.of_routed {command : GatewayCommand} {io : CommandIo ω η} {out : Handled (Gateway φ β)}
    (session : SessionState) (hunit : unitOf session = unitOf g.session)
    (hstate : session.transactionState = g.session.transactionState)
    (h : r.Serves { g with session := session } command io out) : r.Serves g command io out := by
  cases h with
  | still hc h => exact .still hc ⟨h.backend, h.unit.trans hunit⟩
  | probed hc hcur hb hu => exact .probed hc hcur hb (hu.trans hunit)
  | called h hc hu hs hb hl => exact .called h hc (hu.trans hunit) (hs.trans hstate) hb hl

theorem serves_still {g' : Gateway φ β} {command : GatewayCommand} {io : CommandIo ω η}
    {out : Handled (Gateway φ β)} (hquiet : calls out.events = []) (h : Still g' out)
    (hbackend : g'.backend = g.backend) (hunit : unitOf g'.session = unitOf g.session) : r.Serves g command io out :=
  .still hquiet ⟨h.backend.trans hbackend, h.unit.trans hunit⟩

theorem serves_execute (g : Gateway φ β) (command handed : GatewayCommand)
    (obligations : Obligations) (io : CommandIo ω η) :
    r.Serves g command io (r.execute g command handed obligations io) := by
  have hunit : unitOf (dropInvalidatedPortal g).session = unitOf g.session := by
    rw [dropInvalidatedPortal_eq]
    rfl
  have hstate : (dropInvalidatedPortal g).session.transactionState = g.session.transactionState := by
    rw [dropInvalidatedPortal_eq]
  have hbackend : (dropInvalidatedPortal g).backend = g.backend := by
    rw [dropInvalidatedPortal_eq]
  unfold execute
  dsimp only
  rcases r.obtainOutcome_cases g handed (r.execMode handed obligations) io with
    ⟨held, h⟩ | ⟨out, hout, h⟩
  · rw [h]
    dsimp only
    have hquiet := r.quiet_settle { dropInvalidatedPortal g with heldPortalStream := none } command
      obligations (r.execMode handed obligations) io (.ok (.streaming held.columns held.windows))
    have hstill := r.still_settleRows { dropInvalidatedPortal g with heldPortalStream := none }
      obligations (r.execMode handed obligations) held.columns held.windows io
    exact (r.serves_still hquiet.calls hstill hbackend hunit).after r calls_nil
  · rw [h]
    dsimp only
    have hquiet := r.quiet_settle { g with backend := out.2.2, session := out.2.1, heldPortalStream := none }
      command obligations (r.execMode handed obligations) io out.1
    obtain ⟨hb, hl⟩ := r.settle_leaves
      { g with backend := out.2.2, session := out.2.1, heldPortalStream := none } command obligations
      (r.execMode handed obligations) io out.1
    refine .called ⟨handed, (dropInvalidatedPortal g).session, r.execMode handed obligations⟩
      ?_ hunit hstate ?_ ?_
    · simp [hquiet.calls]
    · rw [hout]
      exact hb
    · rw [hout]
      exact hl

theorem serves_declareCursor (g : Gateway φ β) (command : GatewayCommand) (name selectSql : String)
    (withHold : Bool) (io : CommandIo ω η) :
    r.Serves g command io (r.declareCursor g name selectSql withHold io) := by
  unfold declareCursor
  cases g.namedCursors name with
  | some held =>
    exact r.serves_still (r.quiet_cursorError g _ _ io).calls (r.still_encodeResponse _ _ io) rfl rfl
  | none =>
    dsimp only
    generalize hout : r.backend.executeOutcome g.backend (.query selectSql) g.session r.declareMode
      io.call = out
    obtain ⟨hb, hl⟩ := r.settleDeclare_leaves { g with backend := out.2.2, session := out.2.1 } command
      name withHold io out.1
    refine .called ⟨.query selectSql, g.session, r.declareMode⟩ ?_ rfl rfl ?_ ?_
    · simp [(r.quiet_settleDeclare _ name withHold io _).calls]
    · rw [hout]
      exact hb
    · rw [hout]
      exact hl

theorem serves_fetchCursor (g : Gateway φ β) {command : GatewayCommand}
    (hcursor : cursorSql command ≠ none) (name : String) (count : Nat) (io : CommandIo ω η) :
    r.Serves g command io (r.fetchCursor g name count io) := by
  have hcalls := (r.quiet_fetchCursor g name count io).calls
  revert hcalls
  unfold fetchCursor
  cases g.namedCursors name with
  | none => exact fun hcalls => r.serves_still hcalls (r.still_encodeResponse _ _ io) rfl rfl
  | some held =>
    dsimp only
    rcases hprobe : r.backend.checkSessionHealth g.backend io.health with ⟨e | _, backend⟩
    · intro hcalls
      have h := r.still_encodeResponse
        { g with
          backend := backend
          namedCursors := Function.update g.namedCursors name none
          session := { g.session with transactionState := .failed } }
        (.error "08006" ("cursor backend connection failed: " ++ e.text)) io
      refine .probed hcalls hcursor ?_ h.unit
      rw [hprobe]
      exact h.backend
    · intro hcalls
      refine .probed hcalls hcursor ?_ (r.still_encodeResponse _ _ io).unit
      rw [hprobe]
      exact (r.still_encodeResponse _ _ io).backend

theorem precheck_refused_unit {command : GatewayCommand} {session : SessionState} {io : CommandIo ω η}
    {response : GatewayResponse} {asked : List Event}
    (h : r.precheck command session io = (.refused response session', asked)) : unitOf session' = unitOf session := by
  rcases (r.precheck_refused h).2 with rfl | rfl
  · rfl
  · exact r.failUnit_unit session

theorem serves_handleCommand (g : Gateway φ β) (command : GatewayCommand) (io : CommandIo ω η) :
    r.Serves g command io (r.handleCommand g command io) := by
  unfold handleCommand
  split
  · exact .still (r.quiet_rejectUnsupportedCapability g _ io).calls
      (r.still_rejectUnsupportedCapability g _ io)
  split
  · exact .still rfl ⟨rfl, rfl⟩
  rename_i session hroute
  -- the rest runs in the routed session
  refine Serves.of_routed r session ?_ ?_ ?_
  · rw [r.route_ok hroute]
    rfl
  · rw [r.route_ok hroute]
  split
  · rename_i kind hkind
    cases kind with
    | declare name selectSql withHold =>
      exact r.serves_declareCursor _ command name selectSql withHold io
    | fetch name count =>
      refine r.serves_fetchCursor _ ?_ name count io
      rw [hkind]
      exact Option.some_ne_none _
    | close name =>
      refine r.serves_still (r.quiet_closeCursor _ name io).calls ?_ rfl rfl
      unfold handleNamedCursorSql closeCursor
      dsimp only
      split
      · have h := r.still_encodeResponse
          { g with session := { session with transactionState := session.transactionState.afterError } }
          (.error "34000"
            ("cursor \"" ++ name ++ "\" does not exist (process-local; not SQL WITH HOLD)")) io
        exact ⟨h.backend, h.unit⟩
      · have h := r.still_encodeResponse
          { g with session := session, namedCursors := Function.update g.namedCursors name none }
          (.commandComplete "CLOSE CURSOR") io
        exact ⟨h.backend, h.unit⟩
    | unsupported verb =>
      exact r.serves_still (r.quiet_encodeResponse _ _ io).calls (r.still_encodeResponse _ _ io)
        rfl rfl
  · unfold decideAndExecute
    dsimp only
    have hasked := r.calls_precheck command session io
    rcases hcheck : r.precheck command session io with ⟨halt | ⟨response, session'⟩ | ⟨handed, obl⟩, asked⟩
    · rw [hcheck] at hasked
      exact .still hasked ⟨rfl, rfl⟩
    · rw [hcheck] at hasked
      have h := r.still_encodeResponse { g with session := session' } response io
      refine Serves.after r ?_ hasked
      exact .still (r.quiet_encodeResponse _ response io).calls
        ⟨h.backend, h.unit.trans (r.precheck_refused_unit hcheck)⟩
    · rw [hcheck] at hasked
      exact (r.serves_execute _ command handed obl io).after r hasked

/-! ## Frames -/

def decoded (g : Gateway φ β) (frame : ι) : Gateway φ β :=
  { g with
    frontend := (r.frontend.decode g.frontend frame g.session).2.2
    session := (r.frontend.decode g.frontend frame g.session).2.1 }

/-- The commands of a frame; none if it was refused. -/
def commandsOf (g : Gateway φ β) (frame : ι) : List GatewayCommand :=
  match (r.frontend.decode g.frontend frame g.session).1 with
  | .ok commands => commands
  | .error _ => []

theorem handleFrame_cases (g : Gateway φ β) (frame : ι) (io : Nat → CommandIo ω η) :
    (r.commandsOf g frame = [] ∧ Quiet (r.decoded g frame) (r.handleFrame g frame io) ∧
      Still (r.decoded g frame) (r.handleFrame g frame io)) ∨ ∃ command, r.commandsOf g frame = [command] ∧
      (r.frontend.decode g.frontend frame g.session).1 = .ok [command] ∧ (r.handleFrame g frame io).events =
        (r.handleCommand (r.decoded g frame) command (io 0)).events ∧ (r.handleFrame g frame io).gateway =
        (r.handleCommand (r.decoded g frame) command (io 0)).gateway ∧ (r.handleFrame g frame io).result =
        (r.handleCommand (r.decoded g frame) command (io 0)).result := by
  unfold handleFrame commandsOf
  dsimp only
  rcases hdec : (r.frontend.decode g.frontend frame g.session).1 with halt | commands
  · refine .inl ⟨rfl, ?_⟩
    rcases halt with (m | m | m | code) | _
    · exact ⟨⟨rfl, rfl, rfl⟩, rfl, rfl⟩
    · exact ⟨⟨rfl, rfl, rfl⟩, rfl, rfl⟩
    · exact ⟨⟨rfl, rfl, rfl⟩, rfl, rfl⟩
    · dsimp only
      split
      · exact ⟨r.quiet_rejectUnsupportedCapability (r.decoded g frame) _ (io 0),
          r.still_rejectUnsupportedCapability (r.decoded g frame) _ (io 0)⟩
      · exact ⟨⟨rfl, rfl, rfl⟩, rfl, rfl⟩
    · exact ⟨⟨rfl, rfl, rfl⟩, rfl, rfl⟩
  · have hlen := r.frontend.decode_single _ _ _ commands hdec
    match commands, hlen with
    | [], _ => exact .inl ⟨rfl, ⟨rfl, rfl, rfl⟩, rfl, rfl⟩
    | [command], _ =>
      refine .inr ⟨command, rfl, rfl, ?_⟩
      dsimp only [handleCommands]
      rcases hres : (r.handleCommand (r.decoded g frame) command (io 0)).result with e | u
      · have hres' := hres
        unfold decoded at hres'
        rw [hres']
        exact ⟨rfl, rfl, rfl⟩
      · have hres' := hres
        unfold decoded at hres'
        rw [hres']
        refine ⟨?_, rfl, rfl⟩
        simp only [Handled.after_events, List.append_nil]
        rfl

end Runtime

end DataNexus.Engine
