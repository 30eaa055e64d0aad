/-
  Portals of one session: does an Execute go on where the last one of the same portal stopped?

  The engine keeps ONE held stream for the whole session, and an Execute with a row limit resumes whatever is held.

  1. **The log** (`PortalLog`) — per portal its statement, the rows of its run, and how many were returned.  `owner` is the
     portal whose Execute was last let through.

  2. **The property** (`Isolated`) — an Execute answers the rows of its portal's statement, right after those returned.

  3. **The condition** (`continues`) — a held stream is resumed for its owner only, and a statement is run again only
     while none of its rows have been returned.  `Follows` is the invariant (`follows_frame`).
-/
import DataNexus.Engine.Prepared
import DataNexus.Stream.Failure
import DataNexus.Stream.Sent

namespace DataNexus.Engine

open DataNexus.Frontend DataNexus.Backend DataNexus.Pdp DataNexus.Tickets DataNexus.Stream DataNexus.Run

/-! ## What a statement gives -/

/-- The rows that a run of a statement delivers. -/
def outcomeRows : Except GatewayError Outcome → List Row
  | .ok (.streaming _ windows) => windows.flatten
  | .ok (.complete (.resultSet _ rows)) => rows
  | _ => []

def isRelay : Except GatewayError Outcome → Bool
  | .ok (.wireRelay _) => true
  | _ => false

def dataRows (packets : List (List UInt8)) : Nat := packets.countP fun packet => packet.head? == some 68

/-- The rows of a materialized result that the client is shown. -/
def cappedRows (obligations : Obligations) (rows : List Row) : Nat :=
  match obligations.maxRows with
  | some most => min most rows.length
  | none => rows.length

namespace Runtime

variable {φ ι β ω η κ : Type} (r : Runtime φ ι β ω η κ)

/-- The outcome of a command that was let through, with the connection it leaves. -/
def obtained (g : Gateway φ β) (x : Granted) (io : CommandIo ω η) :
    Except GatewayError Outcome × Gateway φ β × List Event :=
  r.obtainOutcome { g with session := x.session } x.command (r.execMode x.command x.obligations) io

def resumes (g : Gateway φ β) (x : Granted) : Bool :=
  resumesHeldPortal (dropInvalidatedPortal { g with session := x.session }) x.command

/-- The writer of the page that answers the command. -/
def answering (g : Gateway φ β) (x : Granted) (io : CommandIo ω η) (columns : List Column) : Writer :=
  r.pageWriter (r.obtained g x io).2.1 x.obligations (r.execMode x.command x.obligations) columns

/-- The first row of a run that the client gets: a page may skip rows, a materialized result does not. -/
def startsAt (g : Gateway φ β) (x : Granted) (io : CommandIo ω η) : Nat :=
  match (r.obtained g x io).1 with
  | .ok (.streaming columns _) => (r.answering g x io columns).skipRows
  | _ => 0

def shown (g : Gateway φ β) (x : Granted) (io : CommandIo ω η) : Nat :=
  match (r.obtained g x io).1 with
  | .ok (.streaming columns windows) => (r.answering g x io columns).sent windows
  | .ok (.complete (.resultSet _ rows)) => cappedRows x.obligations rows
  | .ok (.complete (.wire packets)) => dataRows packets
  | .ok (.wireRelay relay) => dataRows relay.response.packets
  | _ => 0

end Runtime

/-! ## The log -/

structure PortalLog where
  /-- The text and the arguments of the last Bind; `none` after a Close. -/
  binding : Option (String × List GatewayValue)
  /-- The rows of the last run of the binding's statement. -/
  delivered : List Row
  /-- How many rows the Executes of this binding have returned. -/
  returned : Nat

def statementOf (binding : String × List GatewayValue) : GatewayCommand :=
  if binding.2.isEmpty then .query binding.1 else .queryParams binding.1 binding.2

def executedPortal (frame : RawFrame) : Option String :=
  match (readFrame frame).map ClientFrame.message with
  | some (.execute portal _) => some portal
  | _ => none

/-- The portal that a frame binds or closes, with its new binding. -/
def rebinds (p : PostgreSqlFrontend) (frame : RawFrame) : Option (String × Option (String × List GatewayValue)) :=
  match (readFrame frame).map ClientFrame.message with
  | some (.bind portal statement parameters _) =>
    (p.prepared statement).map fun sql => (portal, some (sql, bindParameters parameters))
  | some (.close .portal portal) => some (portal, none)
  | _ => none

structure Tracked where
  gateway : Option (Gateway PostgreSqlFrontend Connector)
  log : String → PortalLog
  /-- The portal whose Execute was the last command to be let through. -/
  owner : Option String

def Tracked.start (g : Gateway PostgreSqlFrontend Connector) : Tracked := ⟨some g, fun _ => ⟨none, [], 0⟩, none⟩

section Steps

variable (r : Runtime PostgreSqlFrontend RawFrame Connector CallIo HealthIo Nat)

/-- An accepted Bind or Close begins the log of its portal anew. -/
def Tracked.rebound (s : Tracked) (g : Gateway PostgreSqlFrontend Connector) (frame : RawFrame) : Tracked :=
  match rebinds g.frontend frame with
  | none => s
  | some (portal, binding) =>
    if (r.commandsOf g frame).isEmpty then s
    else
      { s with
        log := Function.update s.log portal ⟨binding, [], 0⟩
        owner := s.owner.filter (· != portal) }

/-- The log of the portal after an Execute that was let through. -/
def PortalLog.executed (l : PortalLog) (g : Gateway PostgreSqlFrontend Connector) (x : Granted)
    (io : CommandIo CallIo HealthIo) : PortalLog where
  binding := l.binding
  delivered := if Runtime.resumes g x then l.delivered else outcomeRows (r.obtained g x io).1
  returned := l.returned + r.shown g x io

def Tracked.next (s : Tracked) (g : Gateway PostgreSqlFrontend Connector) (frame : RawFrame)
    (io : Nat → CommandIo CallIo HealthIo) : Tracked :=
  let s := s.rebound r g frame
  match r.granted g frame io, executedPortal frame with
  | none, _ => s
  | some _, none => { s with owner := none }
  | some x, some portal =>
    { s with
      log := Function.update s.log portal ((s.log portal).executed r (r.decoded g frame) x (io 0))
      owner := some portal }

def portalStep (s : Tracked) (a : Runtime.Act RawFrame CallIo HealthIo Nat) : List Event × Tracked :=
  match s.gateway, a with
  | some g, .frame frame io =>
    ((r.step s.gateway a).1, { s.next r g frame io with gateway := (r.step s.gateway a).2 })
  | _, _ => ((r.step s.gateway a).1, { s with gateway := (r.step s.gateway a).2 })

/-! ## The property and its condition -/

/-- What an Execute may answer, from the log of its portal before and after it. -/
def Answers (g : Gateway PostgreSqlFrontend Connector) (frame : RawFrame)
    (io : Nat → CommandIo CallIo HealthIo) (before after : PortalLog) : Event → Prop
  | .rows messages =>
    ∃ x columns, r.granted g frame io = some x ∧ (r.answering (r.decoded g frame) x (io 0) columns).Shows
        ((after.delivered.drop before.returned).take (after.returned - before.returned)) messages
  | .answered (.resultSet _ rows) _ => rows = after.delivered.drop before.returned
  | .answered (.wire _) _ => r.granted g frame io ≠ none → before.returned = 0
  -- the packets of a call that this Execute made
  | .relayed packets =>
    ∃ x relay, r.granted g frame io = some x ∧ Runtime.resumes (r.decoded g frame) x = false ∧
      (r.obtained (r.decoded g frame) x (io 0)).1 = .ok (.wireRelay relay) ∧
      ∀ packet ∈ packets, packet ∈ relay.response.packets
  | _ => True

/-- Where the rows of a portal come from: its statement is run now, or nothing new is delivered. -/
def Delivers (g : Gateway PostgreSqlFrontend Connector) (x : Granted) (io : CommandIo CallIo HealthIo)
    (events : List Event) (before after : PortalLog) : Prop :=
  after.delivered = before.delivered ∨ ∃ session mode, .executed x.command session mode ∈ events ∧
      after.delivered = outcomeRows (r.backend.executeOutcome g.backend x.command session mode io.call).1

/-- **The portals are isolated.**  An Execute answers with the next rows of its portal's last Bind. -/
def Isolated (s : Tracked) (a : Runtime.Act RawFrame CallIo HealthIo Nat) : Prop :=
  match s.gateway, a with
  | some g, .frame frame io =>
    ∀ portal, executedPortal frame = some portal → (∀ command ∈ r.commandsOf g frame,
        ∃ binding, (s.log portal).binding = some binding ∧ command = statementOf binding) ∧
      (∀ x, r.granted g frame io = some x →
        Delivers r g x (io 0) (portalStep r s a).1 (s.log portal) ((portalStep r s a).2.log portal)) ∧
      ∀ event ∈ (portalStep r s a).1, Answers r g frame io (s.log portal) ((portalStep r s a).2.log portal) event
  | _, _ => True

/-- The Execute resumes a held stream of its own portal, or is relayed, or starts right after the rows returned. -/
def continues (s : Tracked) (a : Runtime.Act RawFrame CallIo HealthIo Nat) : Bool :=
  match s.gateway, a with
  | some g, .frame frame io =>
    match executedPortal frame, r.granted g frame io with
    | some portal, some x =>
      if Runtime.resumes (r.decoded g frame) x then s.owner == some portal
      else isRelay (r.obtained (r.decoded g frame) x (io 0)).1 ||
        (s.log portal).returned == r.startsAt (r.decoded g frame) x (io 0)
    | _, _ => true
  | _, _ => true

end Steps

/-! ## One command that is let through -/

namespace Runtime

variable {φ ι β ω η κ : Type} (r : Runtime φ ι β ω η κ)

def Tells (g : Gateway φ β) (obligations : Obligations) (mode : ExecuteMode)
    (outcome : Except GatewayError Outcome) : Event → Prop
  | .rows messages =>
    ∃ columns windows, outcome = .ok (.streaming columns windows) ∧
      messages = (r.pageWriter g obligations mode columns).messages windows
  | .answered response _ => outcome = .ok (.complete response) ∨ isErrorResponse response = true
  | .relayed packets =>
    ∃ relay, outcome = .ok (.wireRelay relay) ∧ ∀ packet ∈ packets, packet ∈ relay.response.packets
  | _ => True

theorem settleRelay_events (g : Gateway φ β) (command : GatewayCommand) (relay : WireRelay) (io : CommandIo ω η) :
    (r.settleRelay g command relay io).events =
      [.relayed (relayedPackets command g.session relay.response.packets)] := by
  unfold settleRelay
  dsimp only
  split <;> rfl

theorem tells_settleRelay (g : Gateway φ β) (command : GatewayCommand) (obligations : Obligations)
    (mode : ExecuteMode) (relay : WireRelay) (io : CommandIo ω η) :
    ∀ event ∈ (r.settleRelay g command relay io).events,
      r.Tells g obligations mode (.ok (.wireRelay relay)) event := by
  have hpackets : ∀ session, ∀ packet ∈ relayedPackets command session relay.response.packets,
      packet ∈ relay.response.packets := by
    intro session packet hpacket
    unfold relayedPackets at hpacket
    split at hpacket
    · exact List.mem_of_mem_filter hpacket
    · exact hpacket
  intro event hevent
  rw [settleRelay_events] at hevent
  rw [List.mem_singleton.mp hevent]
  exact ⟨relay, rfl, hpackets g.session⟩

theorem settleRows_events (g : Gateway φ β) (obligations : Obligations) (mode : ExecuteMode)
    (columns : List Column) (windows : List (List Row)) (io : CommandIo ω η) :
    (r.settleRows g obligations mode columns windows io).events =
      [.rows ((r.pageWriter g obligations mode columns).messages windows)] := by
  unfold settleRows Writer.messages
  dsimp only
  rcases (r.pageWriter g obligations mode columns).write windows with ⟨e, messages⟩ | ⟨page, messages⟩
  · rfl
  · rcases io.written with e | u
    · rfl
    · rfl

theorem tells_settleRows (g : Gateway φ β) (obligations : Obligations) (mode : ExecuteMode)
    (columns : List Column) (windows : List (List Row)) (io : CommandIo ω η) :
    ∀ event ∈ (r.settleRows g obligations mode columns windows io).events,
      r.Tells g obligations mode (.ok (.streaming columns windows)) event := by
  intro event hevent
  rw [settleRows_events] at hevent
  rw [List.mem_singleton.mp hevent]
  exact ⟨columns, windows, rfl, rfl⟩

theorem settleResponse_events (g : Gateway φ β) (command : GatewayCommand) (response : GatewayResponse)
    (obligations : Option Obligations) (io : CommandIo ω η) :
    (r.settleResponse g command response obligations io).events = [.answered response obligations] := by
  unfold settleResponse encodeOwed
  dsimp only
  rcases io.written with e | u
  · rfl
  · rfl

theorem tells_settle (g : Gateway φ β) (command : GatewayCommand) (obligations : Obligations)
    (mode : ExecuteMode) (io : CommandIo ω η) (outcome : Except GatewayError Outcome) :
    ∀ event ∈ (r.settle g command obligations mode io outcome).events, r.Tells g obligations mode outcome event := by
  rcases outcome with e | (response | ⟨columns, windows⟩ | relay)
  · intro event hevent
    rw [settle, settleResponse_events] at hevent
    rw [List.mem_singleton.mp hevent]
    exact .inr rfl
  · intro event hevent
    rw [settle, settleResponse_events] at hevent
    rw [List.mem_singleton.mp hevent]
    exact .inl rfl
  · exact r.tells_settleRows g obligations mode columns windows io
  · exact r.tells_settleRelay g command obligations mode relay io

variable {g : Gateway φ β} {q : StreamingQuery} {x : Granted}

theorem afterPage_held (hnone : g.heldPortalStream = none) {columns : List Column} {page : LoopEnd}
    (h : (afterPage g columns page).heldPortalStream = some q) :
    ∃ leftover rest, page.held = some (leftover, rest) ∧ q.windows = leftover :: rest := by
  unfold afterPage at h
  dsimp only at h
  rcases hheld : page.held with _ | ⟨leftover, rest⟩
  · rw [hheld] at h
    dsimp only at h
    split at h
    · cases h
    · split at h
      · cases h
      · rw [hnone] at h
        cases h
  · rw [hheld] at h
    injection h with h
    rw [← h]
    exact ⟨leftover, rest, rfl, rfl⟩

theorem settleResponse_held (g : Gateway φ β) (command : GatewayCommand) (response : GatewayResponse)
    (obligations : Option Obligations) (io : CommandIo ω η) :
    (r.settleResponse g command response obligations io).gateway.heldPortalStream = g.heldPortalStream := by
  unfold settleResponse encodeOwed dropCursors
  dsimp only
  rcases io.written with e | u
  · rfl
  · dsimp only
    split <;> rfl

theorem settleRelay_held (g : Gateway φ β) (command : GatewayCommand) (relay : WireRelay) (io : CommandIo ω η) :
    (r.settleRelay g command relay io).gateway.heldPortalStream = g.heldPortalStream := by
  unfold settleRelay
  dsimp only
  split <;> rfl

theorem held_settle (hnone : g.heldPortalStream = none) {command : GatewayCommand} {obligations : Obligations}
    {mode : ExecuteMode} {io : CommandIo ω η} {outcome : Except GatewayError Outcome}
    (h : (r.settle g command obligations mode io outcome).gateway.heldPortalStream = some q) :
    ∃ columns windows page messages leftover rest, outcome = .ok (.streaming columns windows) ∧
      (r.pageWriter g obligations mode columns).write windows = .ok (page, messages) ∧
      page.held = some (leftover, rest) ∧ q.windows = leftover :: rest := by
  rcases outcome with e | (response | ⟨columns, windows⟩ | relay)
  · rw [settle, settleResponse_held, hnone] at h
    cases h
  · rw [settle, settleResponse_held, hnone] at h
    cases h
  · unfold settle settleRows at h
    dsimp only at h
    rcases hwrite : (r.pageWriter g obligations mode columns).write windows with
      ⟨e, messages⟩ | ⟨page, messages⟩
    · rw [hwrite] at h
      dsimp only at h
      rw [hnone] at h
      cases h
    · rw [hwrite] at h
      rcases hwritten : io.written with e | u
      · rw [hwritten] at h
        dsimp only at h
        rw [hnone] at h
        cases h
      · rw [hwritten] at h
        obtain ⟨leftover, rest, hheld, hq⟩ := afterPage_held hnone h
        exact ⟨columns, windows, page, messages, leftover, rest, rfl, hwrite, hheld, hq⟩
  · rw [settle, settleRelay_held, hnone] at h
    cases h

theorem obtained_resumed (h : resumes g x = true) (io : CommandIo ω η) :
    ∃ q, g.heldPortalStream = some q ∧ x.session.pgDropPortalHold = false ∧
      (r.obtained g x io).1 = .ok (.streaming q.columns q.windows) ∧
      wantHold (r.obtained g x io).2.1.session = true := by
  unfold resumes at h
  have hdrop : x.session.pgDropPortalHold = false := by
    cases hd : x.session.pgDropPortalHold with
    | false => rfl
    | true =>
      unfold dropInvalidatedPortal at h
      rw [if_pos (show ({ g with session := x.session } : Gateway φ β).session.pgDropPortalHold = true from hd)] at h
      cases h
  have hsame : dropInvalidatedPortal { g with session := x.session } = { g with session := x.session } := by
    unfold dropInvalidatedPortal
    rw [if_neg]
    show ¬x.session.pgDropPortalHold = true
    rw [hdrop]
    exact Bool.false_ne_true
  rw [hsame] at h
  have hfields := h
  unfold resumesHeldPortal at hfields
  simp only [Bool.and_eq_true] at hfields
  obtain ⟨⟨⟨⟨hheld, hname⟩, hrows⟩, hextended⟩, hcommand⟩ := hfields
  obtain ⟨q, hq⟩ := Option.isSome_iff_exists.mp hheld
  have hq' : g.heldPortalStream = some q := hq
  have hobtained : r.obtained g x io = (.ok (.streaming q.columns q.windows),
      { g with session := x.session, heldPortalStream := none }, []) := by
    unfold obtained obtainOutcome
    dsimp only
    rw [hsame, h]
    dsimp only
    rw [hq']
  rw [hobtained]
  refine ⟨q, hq', hdrop, rfl, ?_⟩
  unfold wantHold
  simp only [Bool.and_eq_true]
  exact ⟨⟨hrows, hname⟩, hextended⟩

theorem obtained_called (h : resumes g x = false) (io : CommandIo ω η) :
    ∃ session, .executed x.command session (r.execMode x.command x.obligations) ∈ (r.obtained g x io).2.2 ∧
      (r.obtained g x io).1 = (r.backend.executeOutcome g.backend x.command session
        (r.execMode x.command x.obligations) io.call).1 := by
  have hbackend : (dropInvalidatedPortal { g with session := x.session }).backend = g.backend := by
    rw [dropInvalidatedPortal_eq]
  unfold resumes at h
  unfold obtained obtainOutcome
  dsimp only
  generalize dropInvalidatedPortal { g with session := x.session } = g₁ at h hbackend ⊢
  refine ⟨g₁.session, ?_⟩
  rw [h]
  cases g₁.heldPortalStream with
  | none =>
    dsimp only
    rw [hbackend]
    exact ⟨List.mem_singleton.mpr rfl, rfl⟩
  | some held =>
    dsimp only
    rw [hbackend]
    exact ⟨List.mem_singleton.mpr rfl, rfl⟩

theorem obtained_held (g : Gateway φ β) (x : Granted) (io : CommandIo ω η) :
    (r.obtained g x io).2.1.heldPortalStream = none := by
  unfold obtained
  rcases r.obtainOutcome_cases { g with session := x.session } x.command
      (r.execMode x.command x.obligations) io with ⟨held, h⟩ | ⟨out, _, h⟩
  · rw [h]
  · rw [h]

theorem answering_hold (g : Gateway φ β) (x : Granted) (io : CommandIo ω η) (columns : List Column)
    (h : (r.answering g x io columns).holdRemainder = true) : (r.answering g x io columns).skipRows = 0 := by
  show (pageSession (r.obtained g x io).2.1.session).pgPortalSkipRows = 0
  unfold pageSession
  rw [if_pos (show wantHold (r.obtained g x io).2.1.session = true from h)]

/-- What encoding answers leaves of the frontend. -/
def Rendered (p p' : φ) : Prop :=
  p' = p ∨ (∃ response, p' = r.frontend.encoded p response) ∨ p' = r.frontend.headerEncoded p

theorem rendered_encodeOwed (g : Gateway φ β) (response : GatewayResponse)
    (obligations : Option Obligations) (io : CommandIo ω η) :
    r.Rendered g.frontend (r.encodeOwed g response obligations io).gateway.frontend := by
  refine .inr (.inl ⟨response, ?_⟩)
  unfold encodeOwed
  split <;> rfl

theorem rendered_settle (g : Gateway φ β) (command : GatewayCommand) (obligations : Obligations)
    (mode : ExecuteMode) (io : CommandIo ω η) (outcome : Except GatewayError Outcome) :
    r.Rendered g.frontend (r.settle g command obligations mode io outcome).gateway.frontend := by
  have hresponse : ∀ response owed,
      r.Rendered g.frontend (r.settleResponse g command response owed io).gateway.frontend := by
    intro response owed
    unfold settleResponse encodeOwed dropCursors
    dsimp only
    rcases io.written with e | u
    · exact .inr (.inl ⟨response, rfl⟩)
    · refine .inr (.inl ⟨response, ?_⟩)
      dsimp only
      split <;> rfl
  rcases outcome with e | (response | ⟨columns, windows⟩ | relay)
  · exact hresponse _ _
  · exact hresponse _ _
  · refine .inr (.inr ?_)
    unfold settle settleRows
    dsimp only
    split <;> rfl
  · refine .inl ?_
    unfold settle settleRelay
    dsimp only
    split <;> rfl

def Event.carriesRows : Event → Bool
  | .rows _ => true
  | .relayed _ => true
  | .answered (.resultSet _ _) _ => true
  | _ => false

/-- A command that is not let through: no rows, and the held stream stays as it is. -/
structure Untouched (g : Gateway φ β) (out : Handled (Gateway φ β)) : Prop where
  frontend : r.Rendered g.frontend out.gateway.frontend
  held : out.gateway.heldPortalStream = g.heldPortalStream
  drop : out.gateway.session.pgDropPortalHold = g.session.pgDropPortalHold
  rowless : ∀ event ∈ out.events, Event.carriesRows event = false

theorem untouched_nothing (g : Gateway φ β) (halt : Halt) : r.Untouched g ⟨.error halt, g, []⟩ :=
  ⟨.inl rfl, rfl, rfl, fun _ hevent => absurd hevent List.not_mem_nil⟩

theorem untouched_encodeResponse (g : Gateway φ β) {response : GatewayResponse}
    (hresponse : Event.carriesRows (.answered response none) = false) (io : CommandIo ω η) :
    r.Untouched g (r.encodeResponse g response io) := by
  have hevents : (r.encodeResponse g response io).events = [.answered response none] := by
    unfold encodeResponse encodeOwed
    split <;> rfl
  refine ⟨r.rendered_encodeOwed g response none io, ?_, ?_, ?_⟩
  · unfold encodeResponse encodeOwed
    split <;> rfl
  · unfold encodeResponse encodeOwed
    split <;> rfl
  · intro event hevent
    rw [hevents] at hevent
    rw [List.mem_singleton.mp hevent]
    exact hresponse

theorem Untouched.congr {g' : Gateway φ β} {out : Handled (Gateway φ β)} (h : r.Untouched g' out)
    (hfrontend : g'.frontend = g.frontend) (hheld : g'.heldPortalStream = g.heldPortalStream)
    (hdrop : g'.session.pgDropPortalHold = g.session.pgDropPortalHold) : r.Untouched g out :=
  ⟨hfrontend ▸ h.frontend, h.held.trans hheld, h.drop.trans hdrop, h.rowless⟩

theorem Untouched.after {out : Handled (Gateway φ β)} (h : r.Untouched g out) {events : List Event}
    (hevents : ∀ event ∈ events, Event.carriesRows event = false) : r.Untouched g (out.after events) := by
  refine ⟨h.frontend, h.held, h.drop, ?_⟩
  intro event hevent
  rcases List.mem_append.mp hevent with hevent | hevent
  · exact hevents event hevent
  · exact h.rowless event hevent

theorem failUnit_drop (session : SessionState) : (r.failUnit session).pgDropPortalHold = session.pgDropPortalHold := by
  unfold failUnit
  split <;> rfl

theorem untouched_rejectUnsupportedCapability (g : Gateway φ β) (capability : UnsupportedSqlCapability)
    (io : CommandIo ω η) : r.Untouched g (r.rejectUnsupportedCapability g capability io) :=
  (r.untouched_encodeResponse { g with session := r.failUnit g.session } rfl io).congr r rfl rfl
    (r.failUnit_drop g.session)

theorem untouched_openCursor (g : Gateway φ β) (name : String) (held : NamedCursorHeld)
    (io : CommandIo ω η) : r.Untouched g (r.openCursor g name held io) :=
  (r.untouched_encodeResponse
    { g with namedCursors := Function.update g.namedCursors name (some held) } rfl io).congr r rfl rfl rfl

theorem untouched_settleDeclare (g : Gateway φ β) (name : String) (withHold : Bool) (io : CommandIo ω η)
    (outcome : Except GatewayError Outcome) : r.Untouched g (r.settleDeclare g name withHold io outcome) := by
  rcases outcome with e | (response | ⟨columns, windows⟩ | relay)
  · exact r.untouched_nothing g (.error e)
  · cases response with
    | resultSet columns rows => exact r.untouched_openCursor g name _ io
    | _ => exact r.untouched_encodeResponse g rfl io
  · exact r.untouched_openCursor g name _ io
  · exact (r.untouched_encodeResponse
      { g with backend := r.backend.finishRelay g.backend relay } rfl io).congr r rfl rfl rfl

theorem untouched_fetchCursor (g : Gateway φ β) (name : String) (count : Nat) (io : CommandIo ω η) :
    r.Untouched g (r.fetchCursor g name count io) := by
  unfold fetchCursor
  cases g.namedCursors name with
  | none =>
    exact (r.untouched_encodeResponse { g with session :=
      { g.session with transactionState := g.session.transactionState.afterError } } rfl io).congr r
      rfl rfl rfl
  | some held =>
    dsimp only
    rcases r.backend.checkSessionHealth g.backend io.health with ⟨e | u, backend⟩
    · exact (r.untouched_encodeResponse { g with
        backend := backend
        namedCursors := Function.update g.namedCursors name none
        session := { g.session with transactionState := .failed } } rfl io).congr r rfl rfl rfl
    · exact (r.untouched_encodeResponse { g with
        backend := backend
        namedCursors := Function.update g.namedCursors name (some (held.take count).2) } rfl io).congr r
        rfl rfl rfl

theorem untouched_handleNamedCursorSql (hkeeps : ∀ b command s mode io,
      (r.backend.executeOutcome b command s mode io).2.1.pgDropPortalHold = s.pgDropPortalHold)
    (g : Gateway φ β) (io : CommandIo ω η) (kind : NamedCursorSql) :
    r.Untouched g (r.handleNamedCursorSql g io kind) := by
  have herror : ∀ code message, r.Untouched g (r.cursorError g code message io) := by
    intro code message
    exact (r.untouched_encodeResponse { g with session :=
      { g.session with transactionState := g.session.transactionState.afterError } } rfl io).congr r
      rfl rfl rfl
  cases kind with
  | declare name selectSql withHold =>
    show r.Untouched g (r.declareCursor g name selectSql withHold io)
    unfold declareCursor
    cases g.namedCursors name with
    | some held => exact herror _ _
    | none =>
      dsimp only
      have hdrop := hkeeps g.backend (.query selectSql) g.session r.declareMode io.call
      generalize r.backend.executeOutcome g.backend (.query selectSql) g.session r.declareMode io.call
        = out at hdrop ⊢
      refine Untouched.after r ?_ ?_
      · exact (r.untouched_settleDeclare { g with backend := out.2.2, session := out.2.1 } name withHold
          io out.1).congr r rfl rfl hdrop
      · intro event hevent
        rw [List.mem_singleton.mp hevent]
        rfl
  | fetch name count => exact r.untouched_fetchCursor g name count io
  | close name =>
    show r.Untouched g (r.closeCursor g name io)
    unfold closeCursor
    cases g.namedCursors name with
    | none => exact herror _ _
    | some held =>
      exact (r.untouched_encodeResponse
        { g with namedCursors := Function.update g.namedCursors name none } rfl io).congr r rfl rfl rfl
  | unsupported verb => exact r.untouched_encodeResponse g rfl io

/-- The event is a question or a call; the client does not see it. -/
def Event.silent : Event → Bool
  | .authorized _ _ _ => true
  | .executed _ _ _ => true
  | _ => false

theorem rowless_of_silent {event : Event} (h : Event.silent event = true) : Event.carriesRows event = false := by
  cases event with
  | authorized call store command => rfl
  | executed command session mode => rfl
  | _ => cases h

theorem silent_precheck (command : GatewayCommand) (session : SessionState) (io : CommandIo ω η) :
    ∀ event ∈ (r.precheck command session io).2, Event.silent event = true := by
  have hnone : ∀ event ∈ ([] : List Event), Event.silent event = true := fun _ hevent => absurd hevent List.not_mem_nil
  unfold precheck
  split
  · split
    · unfold securityStage
      split
      · intro event hevent
        rw [List.mem_singleton.mp hevent]
        rfl
      · exact hnone
    · exact hnone
  · exact hnone

theorem silent_obtained (g : Gateway φ β) (x : Granted) (io : CommandIo ω η) :
    ∀ event ∈ (r.obtained g x io).2.2, Event.silent event = true := by
  intro event hevent
  unfold obtained at hevent
  rcases r.obtainOutcome_cases { g with session := x.session } x.command
      (r.execMode x.command x.obligations) io with ⟨held, h⟩ | ⟨out, _, h⟩
  · rw [h] at hevent
    cases hevent
  · rw [h] at hevent
    rw [List.mem_singleton.mp hevent]
    rfl

theorem untouched_handleCommand (hkeeps : ∀ b command s mode io,
      (r.backend.executeOutcome b command s mode io).2.1.pgDropPortalHold = s.pgDropPortalHold)
    {command : GatewayCommand} {io : CommandIo ω η} (h : r.grantedCommand g command io = none) :
    r.Untouched g (r.handleCommand g command io) := by
  unfold grantedCommand at h
  unfold handleCommand
  cases hdanger : r.dangerousCommandCapability command with
  | some capability => exact r.untouched_rejectUnsupportedCapability g capability io
  | none =>
    rw [hdanger] at h
    dsimp only
    rcases hroute : r.route command g.session io with e | session
    · exact r.untouched_nothing g (.error e)
    · rw [hroute] at h
      have hdrop : session.pgDropPortalHold = g.session.pgDropPortalHold := by rw [r.route_ok hroute]
      dsimp only
      cases hcursor : cursorSql command with
      | some kind =>
        exact (r.untouched_handleNamedCursorSql hkeeps { g with session := session } io kind).congr r
          rfl rfl hdrop
      | none =>
        rw [hcursor] at h
        have hasked : ∀ event ∈ (r.precheck command session io).2, Event.carriesRows event = false :=
          fun event hevent => rowless_of_silent (r.silent_precheck command session io event hevent)
        dsimp only at h ⊢
        unfold decideAndExecute
        dsimp only
        rcases hcheck : r.precheck command session io with
          ⟨halt | ⟨response, session'⟩ | ⟨handed, obligations⟩, asked⟩
        · rw [hcheck] at hasked
          exact ⟨.inl rfl, rfl, hdrop, hasked⟩
        · rw [hcheck] at hasked
          have hdrop' : session'.pgDropPortalHold = g.session.pgDropPortalHold := by
            rcases (r.precheck_refused hcheck).2 with rfl | rfl
            · exact hdrop
            · exact (r.failUnit_drop session).trans hdrop
          have hrowless : Event.carriesRows (.answered response none) = false := by
            have herror := (r.precheck_refused hcheck).1
            cases response with
            | error code message => rfl
            | _ => cases herror
          have huntouched : r.Untouched g (r.encodeResponse { g with session := session' } response io) :=
            (r.untouched_encodeResponse { g with session := session' } hrowless io).congr r rfl rfl hdrop'
          exact huntouched.after r hasked
        · rw [hcheck] at h
          cases h

theorem commandsOf_cases (g : Gateway φ β) (frame : ι) : (r.commandsOf g frame = [] ∧
      ((∃ halt, (r.frontend.decode g.frontend frame g.session).1 = .error halt) ∨
        (r.frontend.decode g.frontend frame g.session).1 = .ok [])) ∨ ∃ command, r.commandsOf g frame = [command] ∧
      (r.frontend.decode g.frontend frame g.session).1 = .ok [command] := by
  unfold commandsOf
  rcases hdec : (r.frontend.decode g.frontend frame g.session).1 with halt | commands
  · exact .inl ⟨rfl, .inl ⟨halt, rfl⟩⟩
  · have hlen := r.frontend.decode_single _ _ _ commands hdec
    match commands, hlen with
    | [], _ => exact .inl ⟨rfl, .inr rfl⟩
    | [command], _ => exact .inr ⟨command, rfl, rfl⟩

theorem untouched_handleFrame (hkeeps : ∀ b command s mode io,
      (r.backend.executeOutcome b command s mode io).2.1.pgDropPortalHold = s.pgDropPortalHold) {frame : ι}
    {io : Nat → CommandIo ω η} (h : r.granted g frame io = none) :
    r.Untouched (r.decoded g frame) (r.handleFrame g frame io) := by
  rcases hdec : (r.frontend.decode g.frontend frame g.session).1 with halt | commands
  · have hnothing := r.untouched_nothing (r.decoded g frame) halt
    unfold handleFrame
    dsimp only
    rw [hdec]
    rcases halt with (m | m | m | code) | _
    · exact hnothing
    · exact hnothing
    · exact hnothing
    · dsimp only
      split
      · exact r.untouched_rejectUnsupportedCapability (r.decoded g frame) _ (io 0)
      · exact hnothing
    · exact hnothing
  · have hlen := r.frontend.decode_single _ _ _ commands hdec
    match commands, hlen with
    | [], _ =>
      unfold handleFrame
      dsimp only
      rw [hdec]
      exact ⟨.inl rfl, rfl, rfl, fun _ hevent => absurd hevent List.not_mem_nil⟩
    | [command], _ =>
      rw [r.granted_of_decode hdec] at h
      have hcommand := r.untouched_handleCommand hkeeps h
      rcases r.handleFrame_cases g frame io with ⟨hnone, _⟩ | ⟨command', _, hone, hevents, hgateway, _⟩
      · unfold commandsOf at hnone
        rw [hdec] at hnone
        cases hnone
      · rw [hdec] at hone
        cases hone
        refine ⟨?_, ?_, ?_, ?_⟩
        · rw [hgateway]
          exact hcommand.frontend
        · rw [hgateway]
          exact hcommand.held
        · rw [hgateway]
          exact hcommand.drop
        · rw [hevents]
          exact hcommand.rowless

theorem handleFrame_of_granted {frame : ι} {io : Nat → CommandIo ω η} (h : r.granted g frame io = some x) :
    ∃ command out silent, r.commandsOf g frame = [command] ∧
      r.grantedCommand (r.decoded g frame) command (io 0) = some x ∧
      out = r.settle (r.obtained (r.decoded g frame) x (io 0)).2.1 command x.obligations
        (r.execMode x.command x.obligations) (io 0) (r.obtained (r.decoded g frame) x (io 0)).1 ∧
      (r.handleFrame g frame io).gateway = out.gateway ∧ (r.handleFrame g frame io).events = silent ++ out.events ∧
      (∀ event ∈ silent, Event.silent event = true) ∧
      ∀ event ∈ (r.obtained (r.decoded g frame) x (io 0)).2.2, event ∈ silent := by
  rcases r.handleFrame_cases g frame io with ⟨hnone, _⟩ | ⟨command, hcommands, hone, hevents, hgateway, _⟩
  · unfold granted at h
    rw [hnone] at h
    cases h
  · rw [r.granted_of_decode hone] at h
    have hhandled := r.handleCommand_of_granted h
    have hquiet := r.silent_precheck command x.session (io 0)
    have hcall := r.silent_obtained (r.decoded g frame) x (io 0)
    refine ⟨command, _, (r.precheck command x.session (io 0)).2 ++
      (r.obtained (r.decoded g frame) x (io 0)).2.2, hcommands, h, rfl, ?_, ?_, ?_,
      fun event hevent => List.mem_append_right _ hevent⟩
    · rw [hgateway, hhandled]
      rfl
    · rw [hevents, hhandled, List.append_assoc]
      rfl
    · intro event hevent
      rcases List.mem_append.mp hevent with hevent | hevent
      · exact hquiet event hevent
      · exact hcall event hevent

end Runtime

/-! ## What the decoder does to the portals -/

def portalEntry (p : PostgreSqlFrontend) (portal : String) : Option String × Option (List GatewayValue) :=
  (p.portals portal, p.portalArgs portal)

def entryOf (binding : Option (String × List GatewayValue)) : Option String × Option (List GatewayValue) :=
  (binding.map (·.1), binding.map (·.2))

/-- The decoder touches a portal only by an accepted Bind or Close, and only invalidates a hold. -/
structure Rebinds (p : PostgreSqlFrontend) (frame : RawFrame) (session : SessionState) (out : Decoded) :
    Prop where
  drop : out.2.1.pgDropPortalHold = false → session.pgDropPortalHold = false
  kept : rebinds p frame = none ∨ (∃ halt, out.1 = .error halt) ∨ out.1 = .ok [] →
    ∀ portal, portalEntry out.2.2 portal = portalEntry p portal
  bound : ∀ portal binding command, rebinds p frame = some (portal, binding) → out.1 = .ok [command] →
    ∀ portal', portalEntry out.2.2 portal' = if portal' = portal then entryOf binding else portalEntry p portal'

variable {p p' : PostgreSqlFrontend} {session' : SessionState}

theorem rebinds_other {frame : RawFrame} {session : SessionState} {out : Decoded} (hnone : rebinds p frame = none)
    (hdrop : out.2.1.pgDropPortalHold = false → session.pgDropPortalHold = false)
    (hsame : ∀ portal, portalEntry out.2.2 portal = portalEntry p portal) : Rebinds p frame session out := by
  refine ⟨hdrop, fun _ => hsame, ?_⟩
  intro portal binding command hsome
  rw [hnone] at hsome
  cases hsome

theorem rebinds_refused {frame : RawFrame} {session : SessionState} (halt : Halt)
    (hdrop : session'.pgDropPortalHold = false → session.pgDropPortalHold = false)
    (hsame : ∀ portal, portalEntry p' portal = portalEntry p portal) :
    Rebinds p frame session (.error halt, session', p') :=
  ⟨hdrop, fun _ => hsame, nofun⟩

theorem rebinds_update {frame : RawFrame} {session : SessionState} {portal : String}
    {binding : Option (String × List GatewayValue)} {packets : List (List UInt8)}
    (hsome : rebinds p frame = some (portal, binding))
    (hdrop : session'.pgDropPortalHold = false → session.pgDropPortalHold = false)
    (hportals : p'.portals = Function.update p.portals portal (binding.map (·.1)))
    (hargs : p'.portalArgs = Function.update p.portalArgs portal (binding.map (·.2))) :
    Rebinds p frame session (clientWire packets session' p') := by
  refine ⟨hdrop, ?_, ?_⟩
  · rintro (hnone | ⟨halt, herror⟩ | hempty)
    · rw [hnone] at hsome
      cases hsome
    · cases herror
    · cases hempty
  · intro portal₁ binding₁ command hsome₁ _ portal'
    rw [hsome] at hsome₁
    cases hsome₁
    show (p'.portals portal', p'.portalArgs portal') = _
    rw [hportals, hargs, Function.update_apply, Function.update_apply]
    split <;> rfl

section Decode

variable (d : Dialect) {p : PostgreSqlFrontend} {frame : RawFrame} {f : ClientFrame} {session : SessionState}

theorem rebinds_decodeBind {portal statement : String} {parameters : List (Option String)}
    {formats : List Int} (hf : readFrame frame = some f) (hm : f.message = .bind portal statement parameters formats) :
    Rebinds p frame session (decodeBind p f portal statement parameters formats session) := by
  have hrebinds : rebinds p frame =
      (p.prepared statement).map fun sql => (portal, some (sql, bindParameters parameters)) := by
    unfold rebinds
    rw [hf, Option.map_some, hm]
  unfold decodeBind
  dsimp only
  cases hprepared : p.prepared statement with
  | none => exact rebinds_refused _ id fun _ => rfl
  | some sql =>
    rw [hprepared] at hrebinds
    dsimp only
    cases bindArityError sql (bindParameters parameters) with
    | some e => exact rebinds_refused _ id fun _ => rfl
    | none => exact rebinds_update hrebinds nofun rfl rfl

theorem rebinds_decodeClose {target : DescribeTarget} {name : String} (hf : readFrame frame = some f)
    (hm : f.message = .close target name) : Rebinds p frame session (decodeClose p target name session) := by
  unfold decodeClose
  cases target with
  | statement =>
    refine rebinds_other ?_ id fun _ => rfl
    unfold rebinds
    rw [hf, Option.map_some, hm]
  | portal =>
    have hrebinds : rebinds p frame = some (name, none) := by
      unfold rebinds
      rw [hf, Option.map_some, hm]
    refine rebinds_update hrebinds ?_ rfl rfl
    split
    · exact nofun
    · exact id

theorem rebinds_decodeDescribe {target : DescribeTarget} {name : String} (hf : readFrame frame = some f)
    (hm : f.message = .describe target name) :
    Rebinds p frame session (decodeDescribe d p f target name session) := by
  have hnone : rebinds p frame = none := by
    unfold rebinds
    rw [hf, Option.map_some, hm]
  have hunmark : ∀ portal, portalEntry (unmarkDescribed p target name) portal = portalEntry p portal := by
    intro portal
    unfold unmarkDescribed
    split <;> rfl
  have hmark : ∀ portal, portalEntry (markDescribed p target name) portal = portalEntry p portal := by
    intro portal
    unfold markDescribed
    split <;> rfl
  unfold decodeDescribe
  dsimp only
  split
  · cases describedSql p target name with
    | none => exact rebinds_other hnone id hunmark
    | some sql =>
      dsimp only
      rcases looksLikeSelect sql with _ | _ | _
      · exact rebinds_refused _ id fun _ => rfl
      · exact rebinds_other hnone id hunmark
      · exact rebinds_other hnone id fun _ => rfl
  · split
    · exact rebinds_refused _ id fun _ => rfl
    · exact rebinds_other hnone id hmark

theorem rebinds_decodeQuery (sql : String) (hnone : rebinds p frame = none) :
    Rebinds p frame session (decodeQuery p sql session) := by
  obtain ⟨charset, state, hs⟩ := decodeQueryCommand_cases sql { session with pgExtendedQuery := false }
  unfold decodeQuery
  dsimp only
  rw [hs]
  exact rebinds_other hnone id fun _ => rfl

/-- **Decoding and portals.** -/
theorem rebinds_decode (p : PostgreSqlFrontend) (frame : RawFrame) (session : SessionState) :
    Rebinds p frame session (decode d p frame session) := by
  obtain ⟨tag, e | f⟩ := frame
  · exact rebinds_refused _ id fun _ => rfl
  · have hf : readFrame ⟨tag, .ok f⟩ = some f := rfl
    show Rebinds p ⟨tag, .ok f⟩ session (decodeMessage d p f session)
    unfold decodeMessage
    split
    · refine ⟨id, fun _ _ => rfl, ?_⟩
      intro portal binding command _ hone
      cases hone
    · have hrebinds : rebinds p ⟨tag, .ok f⟩ = rebinds p ⟨tag, .ok ⟨f.bytes, f.message⟩⟩ := rfl
      cases hm : f.message with
      | query sql => exact rebinds_decodeQuery sql (by rw [hrebinds, hm]; rfl)
      | terminate => exact rebinds_other (by rw [hrebinds, hm]; rfl) id fun _ => rfl
      | sync =>
        refine rebinds_other (by rw [hrebinds, hm]; rfl) ?_ ?_
        · unfold decodeSync
          dsimp only
          split <;> exact nofun
        · unfold decodeSync
          dsimp only
          split <;> exact fun _ => rfl
      | parse statement query =>
        refine rebinds_other (by rw [hrebinds, hm]; rfl) ?_ ?_
        · show (decodeParse d p f statement query session).2.1.pgDropPortalHold = _ → _
          unfold decodeParse
          split <;> exact id
        · show ∀ portal, portalEntry (decodeParse d p f statement query session).2.2 portal = _
          unfold decodeParse
          split <;> exact fun _ => rfl
      | bind portal statement parameters formats => exact rebinds_decodeBind hf hm
      | describe target name => exact rebinds_decodeDescribe d hf hm
      | execute portal maxRows =>
        refine rebinds_other (by rw [hrebinds, hm]; rfl) ?_ ?_
        · show (decodeExecute p f portal maxRows session).2.1.pgDropPortalHold = _ → _
          unfold decodeExecute
          cases p.portals portal <;> exact id
        · show ∀ portal', portalEntry (decodeExecute p f portal maxRows session).2.2 portal' = _
          unfold decodeExecute
          cases p.portals portal <;> exact fun _ => rfl
      | close target name => exact rebinds_decodeClose hf hm
      | flush => exact rebinds_other (by rw [hrebinds, hm]; rfl) id fun _ => rfl

theorem decode_executed {portal : String} (hexec : executedPortal frame = some portal)
    {command : GatewayCommand} (h : (decode d p frame session).1 = .ok [command]) :
    ∃ sql, p.portals portal = some sql ∧ command = statementOf (sql, (p.portalArgs portal).getD []) := by
  obtain ⟨tag, e | f⟩ := frame
  · cases hexec
  · have hm : ∃ maxRows, f.message = .execute portal maxRows := by
      unfold executedPortal at hexec
      rw [show readFrame ⟨tag, .ok f⟩ = some f from rfl, Option.map_some] at hexec
      split at hexec
      · rename_i portal' maxRows hmessage
        cases hexec
        exact ⟨maxRows, Option.some.inj hmessage⟩
      · cases hexec
    obtain ⟨maxRows, hm⟩ := hm
    have hdecode : (decodeMessage d p f session).1 = .ok [command] := h
    unfold decodeMessage at hdecode
    split at hdecode
    · cases hdecode
    · rw [hm] at hdecode
      dsimp only at hdecode
      unfold decodeExecute at hdecode
      cases hportal : p.portals portal with
      | none =>
        rw [hportal] at hdecode
        cases hdecode
      | some sql =>
        rw [hportal] at hdecode
        refine ⟨sql, rfl, ?_⟩
        have hcommands := Except.ok.inj hdecode
        exact (List.singleton_inj.mp hcommands).symm

end Decode

/-! ## The invariant -/

/-- The log is true of the session: portals are bound as it says, a held stream has the rows that come next. -/
structure Follows (s : Tracked) (g : Gateway PostgreSqlFrontend Connector) : Prop where
  bound : ∀ portal, portalEntry g.frontend portal = entryOf (s.log portal).binding
  held : ∀ q portal, g.heldPortalStream = some q → g.session.pgDropPortalHold = false → s.owner = some portal →
    q.windows.flatten = (s.log portal).delivered.drop (s.log portal).returned

theorem entryOf_some {binding : Option (String × List GatewayValue)} {sql : String}
    {args : Option (List GatewayValue)} (h : (some sql, args) = entryOf binding) :
    binding = some (sql, args.getD []) := by
  unfold entryOf at h
  cases binding with
  | none => cases h
  | some b =>
    obtain ⟨hsql, hargs⟩ := Prod.mk.inj h
    rw [hargs, Option.map_some, Option.getD_some, Option.some.inj hsql]

theorem rebinds_executed {frame : RawFrame} {portal : String} (h : executedPortal frame = some portal) :
    rebinds p frame = none := by
  unfold executedPortal at h
  unfold rebinds
  split at h
  · rename_i hm
    rw [hm]
  · cases h

section Follow

variable (t : PgSetup) (d : Dialect) (codec : PostgreSqlFrontend → SessionState → Option Obligations → RowCodec)
  (service : Service)

theorem executeOutcome_drop (c : Connector) (command : GatewayCommand) (session : SessionState)
    (mode : ExecuteMode) (io : CallIo) :
    (executeOutcome c command session mode io).2.1.pgDropPortalHold = session.pgDropPortalHold := by
  obtain ⟨database, state, frames, hold, h⟩ := executeOutcome_touches c command session mode io
  rw [h]

theorem rendered_entry {p p' : PostgreSqlFrontend} (h : t.runtime.Rendered p p')
    (portal : String) : portalEntry p' portal = portalEntry p portal := by
  rcases h with rfl | ⟨response, rfl⟩ | rfl
  · rfl
  · show portalEntry (encoded p response) portal = portalEntry p portal
    cases response with
    | rowDescription columns =>
      unfold encoded
      dsimp only
      cases p.pendingDescribe with
      | none =>
        dsimp only
        split <;> rfl
      | some pending =>
        dsimp only
        split
        · unfold unmarkDescribed
          split <;> rfl
        · cases pending.target with
          | statement => rfl
          | portal => rfl
    | _ => rfl
  · rfl

theorem obtained_frontend (g : Gateway PostgreSqlFrontend Connector) (x : Granted) (io : CommandIo CallIo HealthIo) :
    (t.runtime.obtained g x io).2.1.frontend = g.frontend := by
  unfold Runtime.obtained
  rcases t.runtime.obtainOutcome_cases { g with session := x.session } x.command
      (t.runtime.execMode x.command x.obligations) io with
    ⟨held, h⟩ | ⟨out, _, h⟩
  · rw [h, Runtime.dropInvalidatedPortal_eq]
  · rw [h]

variable {g : Gateway PostgreSqlFrontend Connector} {x : Granted} {s : Tracked} {event : Event}

theorem session_of_granted {frame : RawFrame} {io : Nat → CommandIo CallIo HealthIo}
    (hx : t.runtime.granted g frame io = some x) :
    x.session = { (t.runtime.decoded g frame).session with
      backendEndpoint := x.session.backendEndpoint } := by
  obtain ⟨command, _, _, _, hgranted, _⟩ := t.runtime.handleFrame_of_granted hx
  obtain ⟨_, hroute, _⟩ := t.runtime.grantedCommand_cases hgranted
  exact t.runtime.route_ok hroute

theorem follows_rebound (h : Follows s g) (frame : RawFrame) : Follows (s.rebound t.runtime g frame)
      (t.runtime.decoded g frame) := by
  have hdec := rebinds_decode t.d g.frontend frame g.session
  have hheld : ∀ q portal, g.heldPortalStream = some q →
      (t.runtime.decoded g frame).session.pgDropPortalHold = false →
      s.owner = some portal →
      q.windows.flatten = (s.log portal).delivered.drop (s.log portal).returned :=
    fun q portal hq hdrop hown => h.held q portal hq (hdec.drop hdrop) hown
  unfold Tracked.rebound
  cases hrebinds : rebinds g.frontend frame with
  | none => exact ⟨fun portal => (hdec.kept (.inl hrebinds) portal).trans (h.bound portal), hheld⟩
  | some bound =>
    obtain ⟨portal, binding⟩ := bound
    dsimp only
    rcases t.runtime.commandsOf_cases g frame with
      ⟨hempty, hnone⟩ | ⟨command, hcommand, hone⟩
    · rw [hempty, if_pos (show ([] : List GatewayCommand).isEmpty = true from rfl)]
      exact ⟨fun portal => (hdec.kept (.inr hnone) portal).trans (h.bound portal), hheld⟩
    · rw [hcommand, if_neg (show ¬[command].isEmpty = true from Bool.false_ne_true)]
      refine ⟨fun portal' => ?_, fun q portal' hq hdrop hown => ?_⟩
      · refine (hdec.bound portal binding command hrebinds hone portal').trans ?_
        dsimp only
        rw [Function.update_apply]
        split
        · rfl
        · exact h.bound portal'
      · obtain ⟨hown, hne⟩ := Option.filter_eq_some_iff.mp hown
        have hne' : portal' ≠ portal := by simpa using hne
        dsimp only
        rw [Function.update_of_ne hne']
        exact hheld q portal' hq hdrop hown

theorem continues_cases {frame : RawFrame} {io : Nat → CommandIo CallIo HealthIo} {portal : String}
    (hgateway : s.gateway = some g) (hexec : executedPortal frame = some portal)
    (hx : t.runtime.granted g frame io = some x) (hok : continues t.runtime s (.frame frame io) = true) :
    (Runtime.resumes (t.runtime.decoded g frame) x = true ∧ s.owner = some portal) ∨
    (Runtime.resumes (t.runtime.decoded g frame) x = false ∧ (isRelay (t.runtime.obtained
          (t.runtime.decoded g frame) x (io 0)).1 = true ∨
        (s.log portal).returned = t.runtime.startsAt (t.runtime.decoded g frame) x (io 0))) := by
  unfold continues at hok
  rw [hgateway] at hok
  dsimp only at hok
  rw [hexec, hx] at hok
  dsimp only at hok
  cases hres : Runtime.resumes (t.runtime.decoded g frame) x with
  | true =>
    rw [hres, if_pos rfl] at hok
    exact .inl ⟨rfl, beq_iff_eq.mp hok⟩
  | false =>
    rw [hres, if_neg Bool.false_ne_true] at hok
    exact .inr ⟨rfl, (Bool.or_eq_true_iff.mp hok).imp_right beq_iff_eq.mp⟩

theorem windows_of_continues (h : Follows s g) {frame : RawFrame} {io : Nat → CommandIo CallIo HealthIo}
    {portal : String} (hgateway : s.gateway = some g) (hexec : executedPortal frame = some portal)
    (hx : t.runtime.granted g frame io = some x)
    (hok : continues t.runtime s (.frame frame io) = true) {columns : List Column}
    {windows : List (List Row)} (hout : (t.runtime.obtained
      (t.runtime.decoded g frame) x (io 0)).1 = .ok (.streaming columns windows)) :
    windows.flatten.drop (t.runtime.answering (t.runtime.decoded g frame) x (io 0) columns).skipRows =
      ((s.log portal).executed t.runtime
        (t.runtime.decoded g frame) x (io 0)).delivered.drop (s.log portal).returned := by
  have hsession := session_of_granted t hx
  unfold PortalLog.executed
  dsimp only
  rcases continues_cases t hgateway hexec hx hok with ⟨hres, hown⟩ | ⟨hres, hstart⟩
  · obtain ⟨q, hq, hdrop, hstream, hhold⟩ :=
      t.runtime.obtained_resumed hres (io 0)
    rw [hstream] at hout
    cases hout
    have hundropped : (t.runtime.decoded g frame).session.pgDropPortalHold = false := by
      rw [hsession] at hdrop
      exact hdrop
    rw [Runtime.answering_hold _ _ x (io 0) q.columns hhold, if_pos hres]
    exact h.held q portal hq ((rebinds_decode t.d g.frontend frame g.session).drop hundropped) hown
  · have hstart := hstart.resolve_left (by rw [hout]; exact Bool.false_ne_true)
    unfold Runtime.startsAt at hstart
    rw [hout] at hstart
    rw [hstart, hout, hres]
    rfl

theorem rebound_executed {frame : RawFrame} {portal : String} (hexec : executedPortal frame = some portal)
    (r : Runtime PostgreSqlFrontend RawFrame Connector CallIo HealthIo Nat) : s.rebound r g frame = s := by
  unfold Tracked.rebound
  rw [rebinds_executed hexec]

theorem held_of_executed (h : Follows s g) {frame : RawFrame} {io : Nat → CommandIo CallIo HealthIo}
    {portal : String} (hgateway : s.gateway = some g) (hexec : executedPortal frame = some portal)
    (hx : t.runtime.granted g frame io = some x)
    (hok : continues t.runtime s (.frame frame io) = true) {q : StreamingQuery}
    (hq : (t.runtime.handleFrame g frame io).gateway.heldPortalStream = some q)
    {after : PortalLog} (hafter : after = (s.log portal).executed t.runtime (t.runtime.decoded g frame) x (io 0)) :
    q.windows.flatten = after.delivered.drop after.returned := by
  obtain ⟨command, out, silent, _, _, hout, hgate, _⟩ := t.runtime.handleFrame_of_granted hx
  have hnone := t.runtime.obtained_held (t.runtime.decoded g frame) x (io 0)
  rw [hgate, hout] at hq
  obtain ⟨columns, windows, page, messages, leftover, rest, hstream, hwrite, hpage, hrest⟩ :=
    t.runtime.held_settle hnone hq
  have hwindows := windows_of_continues t h hgateway hexec hx hok hstream
  have hhold := t.runtime.answering_hold (t.runtime.decoded g frame) x (io 0) columns
  have hreturned : after.returned = (s.log portal).returned + (t.runtime.answering
        (t.runtime.decoded g frame) x (io 0) columns).sent windows := by
    rw [hafter]
    show (s.log portal).returned + Runtime.shown _ _ x (io 0) = _
    unfold Runtime.shown
    rw [hstream]
  have hheld : leftover ++ rest.flatten = (windows.flatten.drop (t.runtime.answering
      (t.runtime.decoded g frame) x (io 0) columns).skipRows).drop ((t.runtime.answering
          (t.runtime.decoded g frame) x (io 0) columns).sent windows) :=
    held_after_sent _ hhold hwrite hpage
  rw [hrest, List.flatten_cons, hheld, hwindows, List.drop_drop, hreturned, hafter]

/-- **One frame keeps the invariant**, if an Execute in it continues its portal. -/
theorem follows_frame (h : Follows s g) (hgateway : s.gateway = some g) (frame : RawFrame)
    (io : Nat → CommandIo CallIo HealthIo) (hok : continues t.runtime s (.frame frame io) = true) :
    Follows (s.next t.runtime g frame io) (t.runtime.handleFrame g frame io).gateway := by
  have hrebound := follows_rebound t h frame
  unfold Tracked.next
  dsimp only
  cases hx : t.runtime.granted g frame io with
  | none =>
    have hsame := t.runtime.untouched_handleFrame executeOutcome_drop hx
    refine ⟨fun portal => ?_, fun q portal hq hdrop hown => ?_⟩
    · exact (rendered_entry t hsame.frontend portal).trans (hrebound.bound portal)
    · exact hrebound.held q portal (hsame.held.symm.trans hq) (hsame.drop.symm.trans hdrop) hown
  | some x =>
    obtain ⟨command, out, silent, _, hgranted, hout, hafter, _⟩ := t.runtime.handleFrame_of_granted hx
    have hentry : ∀ portal, portalEntry (t.runtime.handleFrame g frame io).gateway.frontend portal =
          entryOf ((s.rebound t.runtime g frame).log portal).binding := by
      intro portal
      have hrendered := t.runtime.rendered_settle (t.runtime.obtained
          (t.runtime.decoded g frame) x (io 0)).2.1 command x.obligations
        (t.runtime.execMode x.command x.obligations) (io 0)
        (t.runtime.obtained (t.runtime.decoded g frame) x (io 0)).1
      rw [obtained_frontend, ← hout, ← hafter] at hrendered
      exact (rendered_entry t hrendered portal).trans (hrebound.bound portal)
    cases hexec : executedPortal frame with
    | none => exact ⟨hentry, fun q portal _ _ hown => absurd hown nofun⟩
    | some portal =>
      rw [rebound_executed hexec] at hentry ⊢
      refine ⟨fun portal' => (hentry portal').trans ?_, fun q portal' hq hdrop hown => ?_⟩
      · dsimp only
        rw [Function.update_apply]
        split
        · rename_i heq
          rw [heq]
          rfl
        · rfl
      · obtain rfl : portal = portal' := Option.some.inj hown
        dsimp only
        rw [Function.update_self]
        exact held_of_executed t h hgateway hexec hx hok hq rfl

/-- An outcome that is no stream is not the held one; if it is no relay either, the Execute is the first
    of its binding to return rows. -/
theorem fresh_of_continues {frame : RawFrame} {io : Nat → CommandIo CallIo HealthIo} {portal : String}
    (hgateway : s.gateway = some g) (hexec : executedPortal frame = some portal)
    (hx : t.runtime.granted g frame io = some x) (hok : continues t.runtime s (.frame frame io) = true)
    (hout : ∀ columns windows, (t.runtime.obtained
      (t.runtime.decoded g frame) x (io 0)).1 ≠ .ok (.streaming columns windows)) :
    Runtime.resumes (t.runtime.decoded g frame) x = false ∧ (isRelay (t.runtime.obtained
          (t.runtime.decoded g frame) x (io 0)).1 = true ∨
        (s.log portal).returned = 0) := by
  rcases continues_cases t hgateway hexec hx hok with ⟨hres, _⟩ | ⟨hres, hstart⟩
  · obtain ⟨q, _, _, hstream, _⟩ := t.runtime.obtained_resumed hres (io 0)
    exact absurd hstream (hout q.columns q.windows)
  · refine ⟨hres, hstart.imp_right fun hstart => hstart.trans ?_⟩
    unfold Runtime.startsAt
    split
    · rename_i columns windows hstream
      exact absurd hstream (hout columns windows)
    · rfl

theorem answers_granted (h : Follows s g) {frame : RawFrame} {io : Nat → CommandIo CallIo HealthIo}
    {portal : String} (hgateway : s.gateway = some g) (hexec : executedPortal frame = some portal)
    (hx : t.runtime.granted g frame io = some x) (hok : continues t.runtime s (.frame frame io) = true)
    (hevent : event ∈ (t.runtime.handleFrame g frame io).events) :
    Answers t.runtime g frame io (s.log portal) ((s.log portal).executed t.runtime
        (t.runtime.decoded g frame) x (io 0)) event := by
  obtain ⟨command, out, silent, _, _, hout, _, hevents, hsilent, _⟩ := t.runtime.handleFrame_of_granted hx
  rw [hevents] at hevent
  rcases List.mem_append.mp hevent with hevent | hevent
  · have hnone := hsilent event hevent
    cases event with
    | authorized call store command => exact trivial
    | executed command session mode => exact trivial
    | _ => cases hnone
  · rw [hout] at hevent
    have htells := t.runtime.tells_settle _ command x.obligations _ (io 0) _ event hevent
    cases event with
    | authorized call store command => exact trivial
    | executed command session mode => exact trivial
    | rows messages =>
      obtain ⟨columns, windows, hstream, hmessages⟩ := htells
      have hwindows := windows_of_continues t h hgateway hexec hx hok hstream
      have hhold := t.runtime.answering_hold (t.runtime.decoded g frame) x (io 0) columns
      have hshown : Runtime.shown t.runtime (t.runtime.decoded g frame) x (io 0) = (t.runtime.answering
            (t.runtime.decoded g frame) x (io 0) columns).sent windows := by
        unfold Runtime.shown
        rw [hstream]
      refine ⟨x, columns, hx, ?_⟩
      have hshows := shows_messages (t.runtime.answering (t.runtime.decoded g frame) x (io 0) columns) hhold windows
      rw [hwindows, ← hshown] at hshows
      rw [hmessages]
      show Writer.Shows _ (List.take ((s.log portal).returned + _ - (s.log portal).returned) _) _
      rw [Nat.add_sub_cancel_left]
      exact hshows
    | answered response owed =>
      -- only a statement that is run now is answered so
      have hcomplete : Runtime.isErrorResponse response = false → (t.runtime.obtained
            (t.runtime.decoded g frame) x (io 0)).1 = .ok (.complete response) ∧
          Runtime.resumes (t.runtime.decoded g frame) x = false ∧
          (s.log portal).returned = 0 := by
        intro hnoerror
        have houtcome := htells.resolve_right (by rw [hnoerror]; exact Bool.false_ne_true)
        obtain ⟨hres, hfresh⟩ := fresh_of_continues t hgateway hexec hx hok
          (fun columns windows => by rw [houtcome]; nofun)
        rw [houtcome] at hfresh
        exact ⟨houtcome, hres, hfresh.resolve_left Bool.false_ne_true⟩
      cases response with
      | resultSet columns rows =>
        obtain ⟨houtcome, hres, hzero⟩ := hcomplete rfl
        show rows = List.drop (s.log portal).returned (if _ then _ else _)
        rw [hres, if_neg Bool.false_ne_true, houtcome, hzero]
        rfl
      | wire packets =>
        intro _
        exact (hcomplete rfl).2.2
      | _ => exact trivial
    | relayed packets =>
      obtain ⟨relay, hrelay, hpackets⟩ := htells
      have hfresh := fresh_of_continues t hgateway hexec hx hok (fun columns windows => by rw [hrelay]; nofun)
      exact ⟨x, relay, hx, hfresh.1, hrelay, hpackets⟩

theorem answers_refused {frame : RawFrame} {io : Nat → CommandIo CallIo HealthIo}
    (hx : t.runtime.granted g frame io = none) (before after : PortalLog)
    (hevent : event ∈ (t.runtime.handleFrame g frame io).events) :
    Answers t.runtime g frame io before after event := by
  have hsame := t.runtime.untouched_handleFrame executeOutcome_drop hx
  have hrowless := hsame.rowless event hevent
  cases event with
  | rows messages => cases hrowless
  | relayed packets => cases hrowless
  | answered response owed =>
    cases response with
    | resultSet columns rows => cases hrowless
    | wire packets => exact fun hgranted => absurd hx hgranted
    | _ => exact trivial
  | _ => exact trivial

theorem delivers_executed {frame : RawFrame} {io : Nat → CommandIo CallIo HealthIo}
    (hx : t.runtime.granted g frame io = some x) (before : PortalLog) :
    Delivers t.runtime g x (io 0) (t.runtime.handleFrame g frame io).events before (before.executed t.runtime
        (t.runtime.decoded g frame) x (io 0)) := by
  obtain ⟨command, out, silent, _, _, _, _, hevents, _, hcalled⟩ := t.runtime.handleFrame_of_granted hx
  unfold Delivers PortalLog.executed
  dsimp only
  cases hres : Runtime.resumes (t.runtime.decoded g frame) x with
  | true => exact .inl rfl
  | false =>
    obtain ⟨session, hcall, houtcome⟩ := t.runtime.obtained_called hres (io 0)
    refine .inr ⟨session, t.runtime.execMode x.command x.obligations, ?_, ?_⟩
    · rw [hevents]
      exact List.mem_append_left _ (hcalled _ hcall)
    · rw [if_neg Bool.false_ne_true, houtcome]
      rfl

/-- **One Execute.** -/
theorem isolated_frame (h : Follows s g) (hgateway : s.gateway = some g) (frame : RawFrame)
    (io : Nat → CommandIo CallIo HealthIo) (hok : continues t.runtime s (.frame frame io) = true) :
    Isolated t.runtime s (.frame frame io) := by
  have hevents : (portalStep t.runtime s (.frame frame io)).1 = (t.runtime.handleFrame g frame io).events := by
    unfold portalStep
    rw [hgateway]
    rfl
  have hlog : (portalStep t.runtime s (.frame frame io)).2.log = (s.next t.runtime g frame io).log := by
    unfold portalStep
    rw [hgateway]
  unfold Isolated
  rw [hgateway, hevents, hlog]
  intro portal hexec
  -- the log of the portal after an Execute that is let through
  have hafter : ∀ x, t.runtime.granted g frame io = some x → (s.next t.runtime g frame io).log portal =
        (s.log portal).executed t.runtime (t.runtime.decoded g frame) x (io 0) := by
    intro x hx
    unfold Tracked.next
    dsimp only
    rw [hx, hexec, rebound_executed hexec]
    dsimp only
    rw [Function.update_self]
  refine ⟨?_, ?_, ?_⟩
  · intro command hcommand
    rcases t.runtime.commandsOf_cases g frame with
      ⟨hempty, _⟩ | ⟨command', hcommands, hone⟩
    · rw [hempty] at hcommand
      cases hcommand
    · rw [hcommands] at hcommand
      obtain rfl := List.mem_singleton.mp hcommand
      obtain ⟨sql, hsql, hstatement⟩ := decode_executed t.d hexec hone
      have hentry := h.bound portal
      unfold portalEntry at hentry
      rw [hsql] at hentry
      exact ⟨_, entryOf_some hentry, hstatement⟩
  · intro x hx
    rw [hafter x hx]
    exact delivers_executed t hx (s.log portal)
  · intro event hevent
    cases hx : t.runtime.granted g frame io with
    | none => exact answers_refused t hx _ _ hevent
    | some x =>
      rw [hafter x hx]
      exact answers_granted t h hgateway hexec hx hok hevent

theorem follows_afterFrame {frame : RawFrame} {out : Handled (Gateway PostgreSqlFrontend Connector)}
    (h : Follows s out.gateway) (hg : t.runtime.afterFrame frame out = some g) : Follows s g := by
  unfold Runtime.afterFrame at hg
  split at hg
  · split at hg
    · cases hg
    · obtain rfl := Option.some.inj hg
      exact h
  · cases hg
  · split at hg
    · obtain rfl := Option.some.inj hg
      exact ⟨h.bound, h.held⟩
    · cases hg
  · obtain rfl := Option.some.inj hg
    exact h

theorem follows_step (h : ∀ g, s.gateway = some g → Follows s g) {a : Runtime.Act RawFrame CallIo HealthIo Nat}
    (hok : continues t.runtime s a = true) {g' : Gateway PostgreSqlFrontend Connector}
    (hg' : (portalStep t.runtime s a).2.gateway = some g') : Follows (portalStep t.runtime s a).2 g' := by
  cases hgateway : s.gateway with
  | none =>
    unfold portalStep at hg'
    rw [hgateway] at hg'
    cases hg'
  | some g =>
    have hs := h g hgateway
    cases a with
    | background i =>
      have hstep : portalStep t.runtime s (.background i) =
          ([], { s with gateway := some { g with backend := producerDone g.backend i } }) := by
        unfold portalStep
        rw [hgateway]
        rfl
      rw [hstep] at hg' ⊢
      obtain rfl := Option.some.inj hg'
      exact ⟨hs.bound, hs.held⟩
    | frame frame io =>
      have hstep : (portalStep t.runtime s (.frame frame io)).2 =
          { s.next t.runtime g frame io with
            gateway := t.runtime.afterFrame frame (t.runtime.handleFrame g frame io) } := by
        unfold portalStep
        rw [hgateway]
        rfl
      rw [hstep] at hg' ⊢
      have hframe := follows_frame t hs hgateway frame io hok
      have hafter := follows_afterFrame t hframe hg'
      exact ⟨hafter.bound, hafter.held⟩

end Follow

def textCodec (p : PostgreSqlFrontend) (session : SessionState) (owed : Option Obligations) : RowCodec :=
  { plainCodec p session owed with encodeRow := fun _ row => textDataRow row }

def pagedRuntime : Runtime PostgreSqlFrontend RawFrame Connector CallIo HealthIo Nat :=
  postgreSqlRuntime plainDialect textCodec (plainService false)

/-- The client sends a message; a statement that is run gives these texts, one per row. -/
def asks (texts : List String) (message : FrontendMessage) : Runtime.Act RawFrame CallIo HealthIo Nat :=
  .frame (frameOf message) fun _ =>
    { workingIo (rulesOnly []) noRewriters with
      call := { CallIo.works with
        pool := { PoolIo.works with
          start := .ok (.rowDescription ["id"] :: texts.map fun text => .row [.string text]) } } }

/-- Two statements, bound to the portals `a` and `b`. -/
def bindsTwo : List (Runtime.Act RawFrame CallIo HealthIo Nat) :=
  [asks [] (.parse "sa" "select id from a"), asks [] (.parse "sb" "select id from b"),
    asks [] (.bind "a" "sa" [] []), asks [] (.bind "b" "sb" [] [])]

def rowsWritten (events : List Event) : List (List ClientMessage) :=
  events.filterMap fun
    | .rows messages => some messages
    | _ => none

def textRow (text : String) : ClientMessage :=
  .dataRow ([0, 1, 0, 0, 0, text.length.toUInt8] ++ text.toList.map (·.toNat.toUInt8))

/-- One portal after the other, each in pages; a Bind restarts its portal. -/
def pagesInTurn : List (Runtime.Act RawFrame CallIo HealthIo Nat) :=
  bindsTwo ++ [asks ["a1", "a2", "a3"] (.execute "a" 2), asks [] (.execute "a" 2),
    asks ["b1", "b2"] (.execute "b" 1), asks [] (.execute "b" 1), asks [] (.bind "a" "sa" [] []),
    asks ["a1", "a2", "a3"] (.execute "a" 1)]

theorem textRow_not_footer (w : Writer) (text : String) (total : Nat) (truncated : Bool) :
    textRow text ∉ w.footer total truncated := by
  intro hmem
  unfold Writer.footer textRow at hmem
  dsimp only at hmem
  split at hmem
  · cases List.mem_singleton.mp hmem
  · split at hmem
    · cases List.mem_singleton.mp hmem
    · rcases List.mem_cons.mp hmem with hmem | hmem
      · cases hmem
      · cases List.mem_singleton.mp hmem

theorem not_isolated {start : Tracked} {acts : List (Runtime.Act RawFrame CallIo HealthIo Nat)}
    {s : Tracked} (hs : final (portalStep pagedRuntime) start acts = s) (hopen : s.gateway.isSome = true)
    {frame : RawFrame} {io : Nat → CommandIo CallIo HealthIo} {portal : String}
    (hexec : executedPortal frame = some portal) (text : String) (messages : List ClientMessage)
    (hrows : rowsWritten (portalStep pagedRuntime s (.frame frame io)).1 = [textRow text :: messages])
    (hnothing : ((portalStep pagedRuntime s (.frame frame io)).2.log portal).delivered = []) :
    ¬∀ e ∈ entries (portalStep pagedRuntime) start (acts ++ [.frame frame io]),
      Isolated pagedRuntime e.pre e.act := by
  intro h
  have hlast := h _ (last_mem_entries (portalStep pagedRuntime) start acts (.frame frame io))
  dsimp only at hlast
  rw [hs] at hlast
  obtain ⟨g, hg⟩ := Option.isSome_iff_exists.mp hopen
  have hmem : Event.rows (textRow text :: messages) ∈ (portalStep pagedRuntime s (.frame frame io)).1 := by
    have hsome : textRow text :: messages ∈ rowsWritten (portalStep pagedRuntime s (.frame frame io)).1 := by
      rw [hrows]
      exact List.mem_singleton.mpr rfl
    obtain ⟨event, hevent, hmessages⟩ := List.mem_filterMap.mp hsome
    cases event with
    | rows messages =>
      cases hmessages
      exact hevent
    | _ => cases hmessages
  unfold Isolated at hlast
  rw [hg] at hlast
  obtain ⟨x, columns, _, hshows⟩ := (hlast portal hexec).2.2 _ hmem
  rw [hnothing, List.drop_nil, List.take_nil] at hshows
  obtain ⟨encoded, hencoded, hmessages⟩ := hshows
  obtain rfl : [] = encoded := Except.ok.inj hencoded
  have hfirst : textRow text ∈ textRow text :: messages := List.mem_cons_self
  rcases hmessages with hnil | ⟨total, truncated, hfooter⟩
  · cases hnil
  · rw [hfooter] at hfirst
    exact textRow_not_footer _ text total truncated hfirst

/-- A page of `a`. -/
def pageOfA : List (Runtime.Act RawFrame CallIo HealthIo Nat) := bindsTwo ++ [asks ["a1", "a2"] (.execute "a" 1)]

end DataNexus.Engine
