/-
  How far the row cap of a decision reaches.

  1. **One answer** (`shown_le`, `events_showAtMost`) — a command that is let through shows at most `max_rows` rows, and at
     most a page of them.  A cap is a result obligation, so the connector is never asked for a relay.

  2. **A portal** (`Counted`) — the next page may bring the total beyond the cap, unless nothing was returned yet, or the
     page and the rows that are there fit in what is left of it (`fits`).

  3. **A named cursor** is outside of it: DECLARE asks for no decision and opens the select without a cap.
-/
import DataNexus.Backend.Answers
import DataNexus.Engine.MySql
import DataNexus.Engine.Portals

namespace DataNexus.Engine

open DataNexus.Frontend DataNexus.Backend DataNexus.Pdp DataNexus.Tickets DataNexus.Stream DataNexus.Run

variable {φ ι β ω η κ : Type}

/-! ## Rows the gateway writes itself -/

def isRowless : GatewayResponse → Bool
  | .resultSet _ _ => false
  | .taggedResultSet _ _ _ => false
  | .wire _ => false
  | _ => true

/-- A row stream, whose rows the gateway encodes; or an answer without rows. -/
def isOwn : Except GatewayError Outcome → Bool
  | .ok (.wireRelay _) => false
  | .ok (.complete (.resultSet _ rows)) => rows.isEmpty
  | .ok (.complete response) => isRowless response
  | _ => true

/-- Under a streaming mode the connector leaves encoding and page size to the gateway. -/
structure StreamsRows (backend : BackendConnector β ω η κ) (Plain : ω → Prop) : Prop where
  own : ∀ b command session window cap io, isRowCommand command = true → Plain io →
    isOwn (backend.executeOutcome b command session (.streaming window cap) io).1 = true
  page : ∀ b command session mode io,
    (backend.executeOutcome b command session mode io).2.1.pgExecuteMaxRows = session.pgExecuteMaxRows

/-- BEGIN, which the connector sends before a statement, gives no rows. -/
def BeginRowless (io : CallIo) : Prop := ∀ response, io.pool.begin = .ok response → isRowless response = true

/-- The same for MySQL, where an OK packet gives none either. -/
def OkRowless (io : MySql.CallIo) : Prop :=
  (∀ response, io.statement.begin = .ok response → isRowless response = true) ∧
    ∀ response, io.statement.header = .ok (.ok response) → isRowless response = true

theorem isOwn_of_answer {gives : List Column → Prop} {acks : GatewayResponse → Prop}
    (hacks : ∀ response, acks response → isRowless response = true) {outcome : Except GatewayError Outcome}
    (h : StatementAnswer gives acks outcome) : isOwn outcome = true := by
  rcases outcome with e | (response | ⟨columns, windows⟩ | relay)
  · rfl
  · rcases h with hdone | hack
    · cases response with
      | resultSet columns rows => exact (Bool.and_eq_true _ _ ▸ hdone : _ ∧ _).2
      | ok n i => rfl
      | error code message => rfl
      | _ => cases hdone
    · have hrowless := hacks response hack
      cases response with
      | resultSet columns rows => cases hrowless
      | taggedResultSet columns rows tag => cases hrowless
      | wire packets => cases hrowless
      | _ => rfl
  · rfl
  · cases h

theorem streamsRows_postgreSql : StreamsRows postgreSqlConnector BeginRowless := by
  constructor
  · intro c command session window cap io hrow hbegin
    exact isOwn_of_answer hbegin (statementAnswer_postgreSql c session window cap io hrow)
  · intro c command session mode io
    obtain ⟨database, state, frames, hold, h⟩ := executeOutcome_touches c command session mode io
    show (executeOutcome c command session mode io).2.1.pgExecuteMaxRows = _
    rw [h]

theorem streamsRows_mySql : StreamsRows mySqlConnector OkRowless := by
  constructor
  · intro c command session window cap io hrow hio
    refine isOwn_of_answer (fun response hacks => ?_)
      (MySql.statementAnswer_mySql c session window cap io hrow)
    exact hacks.elim (hio.1 response) (hio.2 response)
  · intro c command session mode io
    obtain ⟨database, state, h⟩ := mySql_executeOutcome_touches c command session mode io
    show (MySql.executeOutcome c command session mode io).2.1.pgExecuteMaxRows = _
    rw [h]

/-! ## One command -/

/-- The event shows at most `n` rows of the page. -/
def Event.ShowsAtMost (w : List Column → Writer) (n : Nat) : Event → Prop
  | .rows messages => ∃ columns page, (w columns).Shows page messages ∧ page.length ≤ n
  | .answered (.resultSet _ result) owed => cappedRows (owed.getD .none) result ≤ n
  | .answered (.taggedResultSet _ _ _) _ => False
  | .answered (.wire _) _ => False
  | .relayed _ => False
  | _ => True

namespace Runtime

variable (r : Runtime φ ι β ω η κ)

variable {m : Nat}

theorem execMode_capped (command : GatewayCommand) {obligations : Obligations} (h : obligations.maxRows = some m) :
    ∃ window cap, r.execMode command obligations = .streaming window cap := by
  have howed : obligations.hasResultObligations = true := by
    unfold Obligations.hasResultObligations
    rw [h, Option.isSome_some, Bool.or_true, Bool.true_or]
  have hrelay : r.wantPassthrough command obligations = false := by
    unfold wantPassthrough
    rw [howed, Bool.not_true, Bool.and_false, Bool.false_and, Bool.false_and]
  unfold execMode
  rw [hrelay, if_neg Bool.false_ne_true, howed, Bool.or_true, if_pos rfl]
  split
  · exact ⟨_, _, rfl⟩
  · exact ⟨_, _, rfl⟩

/-- How many rows the command can be answered with: those that are there, and no more than its page. -/
def pageRows (g : Gateway φ β) (x : Granted) (io : CommandIo ω η) : Nat :=
  match x.session.pgExecuteMaxRows with
  | some page => min page (outcomeRows (r.obtained g x io).1).length
  | none => (outcomeRows (r.obtained g x io).1).length

theorem obtained_own {Plain : ω → Prop} (hbackend : StreamsRows r.backend Plain) {g : Gateway φ β}
    {x : Granted} {io : CommandIo ω η} (hio : Plain io.call) (hrow : isRowCommand x.command = true) {m : Nat}
    (hcap : x.obligations.maxRows = some m) : isOwn (r.obtained g x io).1 = true ∧
      (r.obtained g x io).2.1.session.pgExecuteMaxRows = x.session.pgExecuteMaxRows := by
  obtain ⟨window, cap, hmode⟩ := r.execMode_capped x.command hcap
  unfold obtained
  rw [hmode]
  rcases r.obtainOutcome_cases { g with session := x.session } x.command (.streaming window cap) io with
    ⟨held, h⟩ | ⟨out, hout, h⟩
  · rw [h, dropInvalidatedPortal_eq]
    exact ⟨rfl, rfl⟩
  · rw [h, ← hout, dropInvalidatedPortal_eq]
    refine ⟨hbackend.own _ _ _ _ _ _ hrow hio, ?_⟩
    exact hbackend.page _ _ _ _ _

theorem shown_le {Plain : ω → Prop} (hbackend : StreamsRows r.backend Plain) {g : Gateway φ β}
    {x : Granted} {io : CommandIo ω η} (hio : Plain io.call) (hrow : isRowCommand x.command = true) {m : Nat}
    (hcap : x.obligations.maxRows = some m) : r.shown g x io ≤ m ∧ r.shown g x io ≤ r.pageRows g x io := by
  obtain ⟨hown, hpage⟩ := r.obtained_own hbackend hio hrow hcap
  unfold shown pageRows
  rcases hout : (r.obtained g x io).1 with e | (response | ⟨columns, windows⟩ | relay)
  · exact ⟨Nat.zero_le m, Nat.zero_le _⟩
  · rw [hout] at hown
    cases response with
    | resultSet columns rows =>
      have hempty : rows = [] := List.isEmpty_iff.mp hown
      have hnone : cappedRows x.obligations rows = 0 := by
        unfold cappedRows
        rw [hcap, hempty]
        exact Nat.min_zero m
      dsimp only
      rw [hnone]
      exact ⟨Nat.zero_le m, Nat.zero_le _⟩
    | taggedResultSet columns rows tag => cases hown
    | wire packets => cases hown
    | _ => exact ⟨Nat.zero_le m, Nat.zero_le _⟩
  · have hsent := sent_le_room (r.answering g x io columns) windows
    have hmost : (r.answering g x io columns).maxTotal = mergedCap (some m) x.session.pgExecuteMaxRows := by
      rw [← hcap, ← hpage]
      rfl
    unfold Writer.room at hsent
    rw [hmost] at hsent
    dsimp only [outcomeRows]
    cases hrows : x.session.pgExecuteMaxRows with
    | none =>
      rw [hrows] at hsent
      dsimp only [mergedCap] at hsent
      dsimp only
      exact ⟨by omega, by omega⟩
    | some page =>
      rw [hrows] at hsent
      dsimp only [mergedCap] at hsent
      dsimp only
      exact ⟨by omega, by omega⟩
  · rw [hout] at hown
    cases hown

theorem events_showAtMost {Plain : ω → Prop} (hbackend : StreamsRows r.backend Plain) {g : Gateway φ β}
    {frame : ι} {io : Nat → CommandIo ω η} {x : Granted} (hx : r.granted g frame io = some x)
    (hio : Plain (io 0).call) (hrow : isRowCommand x.command = true) (hcap : x.obligations.maxRows = some m) :
    ∀ event ∈ (r.handleFrame g frame io).events,
      event.ShowsAtMost (r.answering (r.decoded g frame) x (io 0)) (r.shown (r.decoded g frame) x (io 0)) := by
  obtain ⟨hown, _⟩ := r.obtained_own (g := r.decoded g frame) hbackend hio hrow hcap
  have howed : (if x.obligations.hasResultObligations then some x.obligations else none) =
      some x.obligations := by
    rw [if_pos]
    unfold Obligations.hasResultObligations
    rw [hcap, Option.isSome_some, Bool.or_true, Bool.true_or]
  obtain ⟨command, out, silent, _, _, hout, _, hevents, hsilent, _⟩ := r.handleFrame_of_granted hx
  intro event hevent
  rw [hevents] at hevent
  rcases List.mem_append.mp hevent with hevent | hevent
  · have hquiet := hsilent event hevent
    cases event with
    | authorized call store command => exact trivial
    | executed command session mode => exact trivial
    | _ => cases hquiet
  · rw [hout] at hevent
    unfold shown
    rcases hobtained : (r.obtained (r.decoded g frame) x (io 0)).1 with
      e | (response | ⟨columns, windows⟩ | relay)
    · rw [hobtained, settle, settleResponse_events] at hevent
      rw [List.mem_singleton.mp hevent]
      exact trivial
    · rw [hobtained, settle, settleResponse_events, howed] at hevent
      rw [List.mem_singleton.mp hevent]
      rw [hobtained] at hown
      cases response with
      | resultSet columns rows => exact Nat.le_refl _
      | taggedResultSet columns rows tag => cases hown
      | wire packets => cases hown
      | _ => exact trivial
    · rw [hobtained, settle, settleRows_events] at hevent
      rw [List.mem_singleton.mp hevent]
      refine ⟨columns, _, shows_messages _ (r.answering_hold _ x (io 0) columns) windows, ?_⟩
      exact List.length_take_le _ _
    · rw [hobtained] at hown
      cases hown

end Runtime

/-! ## The pages of a portal -/

/-- A session of a PostgreSQL client, with the rows that each portal has returned since its last Bind. -/
structure Counted (β : Type) where
  gateway : Option (Gateway PostgreSqlFrontend β)
  returned : String → Nat

def Counted.start (g : Gateway PostgreSqlFrontend β) : Counted β := ⟨some g, fun _ => 0⟩

section Pages

variable (r : Runtime PostgreSqlFrontend RawFrame β ω η κ)

/-- An accepted Bind or Close begins the count of its portal anew. -/
def Counted.rebound (s : Counted β) (g : Gateway PostgreSqlFrontend β) (frame : RawFrame) : String → Nat :=
  match rebinds g.frontend frame with
  | none => s.returned
  | some (portal, _) =>
    if (r.commandsOf g frame).isEmpty then s.returned else Function.update s.returned portal 0

/-- The counts after a frame: an Execute that is let through adds the rows it shows. -/
def Counted.next (s : Counted β) (g : Gateway PostgreSqlFrontend β) (frame : RawFrame)
    (io : Nat → CommandIo ω η) : String → Nat :=
  match r.granted g frame io, executedPortal frame with
  | some x, some portal =>
    Function.update (s.rebound r g frame) portal
      (s.rebound r g frame portal + r.shown (r.decoded g frame) x (io 0))
  | _, _ => s.rebound r g frame

def countStep (s : Counted β) (a : Runtime.Act RawFrame ω η κ) : List Event × Counted β :=
  match s.gateway, a with
  | some g, .frame frame io => ((r.step s.gateway a).1, ⟨(r.step s.gateway a).2, s.next r g frame io⟩)
  | _, _ => ((r.step s.gateway a).1, ⟨(r.step s.gateway a).2, s.returned⟩)

/-- The world answers the command of the frame as `Plain` says. -/
def AnswersAct (Plain : ω → Prop) : Runtime.Act RawFrame ω η κ → Prop
  | .frame _ io => Plain (io 0).call
  | .background _ => True

/-- An Execute that is let through has a decision with the row cap `m`, and its page fits in what is left of it. -/
def fits (m : Nat) (s : Counted β) (a : Runtime.Act RawFrame ω η κ) : Bool :=
  match s.gateway, a with
  | some g, .frame frame io =>
    match executedPortal frame, r.granted g frame io with
    | some portal, some x =>
      isRowCommand x.command && x.obligations.maxRows == some m &&
        (s.returned portal == 0 ||
          decide (s.returned portal + r.pageRows (r.decoded g frame) x (io 0) ≤ m))
    | _, _ => true
  | _, _ => true

variable {m : Nat}

theorem rebound_le {s : Counted β} (h : ∀ portal, s.returned portal ≤ m) (g : Gateway PostgreSqlFrontend β)
    (frame : RawFrame) (portal : String) : s.rebound r g frame portal ≤ m := by
  unfold Counted.rebound
  cases rebinds g.frontend frame with
  | none => exact h portal
  | some bound =>
    dsimp only
    split
    · exact h portal
    · rw [Function.update_apply]
      split
      · exact Nat.zero_le m
      · exact h portal

/-- **One page.**  What fits keeps every portal under the cap. -/
theorem returned_le_step {Plain : ω → Prop} (hbackend : StreamsRows r.backend Plain) (s : Counted β)
    (a : Runtime.Act RawFrame ω η κ) (h : ∀ portal, s.returned portal ≤ m)
    (hok : AnswersAct Plain a ∧ fits r m s a = true) : ∀ portal, (countStep r s a).2.returned portal ≤ m := by
  obtain ⟨hio, hok⟩ := hok
  unfold countStep
  unfold fits at hok
  split
  · rename_i g frame io hgateway
    rw [hgateway] at hok
    have hrebound := rebound_le r h g frame
    intro portal
    show s.next r g frame io portal ≤ m
    unfold Counted.next
    cases hx : r.granted g frame io with
    | none => exact hrebound portal
    | some x =>
      cases hexec : executedPortal frame with
      | none => exact hrebound portal
      | some executed =>
        dsimp only at hok
        rw [hexec, hx] at hok
        dsimp only at hok
        simp only [Bool.and_eq_true, Bool.or_eq_true, beq_iff_eq, decide_eq_true_eq] at hok
        obtain ⟨⟨hrow, hcap⟩, hroom⟩ := hok
        have hshown := r.shown_le (g := r.decoded g frame) hbackend hio hrow hcap
        have hsame : s.rebound r g frame = s.returned := by
          unfold Counted.rebound
          rw [rebinds_executed hexec]
        dsimp only
        rw [hsame, Function.update_apply]
        split
        · rcases hroom with hzero | hfits
          · rw [hzero, Nat.zero_add]
            exact hshown.1
          · exact Nat.le_trans (Nat.add_le_add_left hshown.2 _) hfits
        · exact h portal
  · exact h

theorem returned_le_run {Plain : ω → Prop} (hbackend : StreamsRows r.backend Plain)
    (g : Gateway PostgreSqlFrontend β) {acts : List (Runtime.Act RawFrame ω η κ)}
    (hok : Meets (countStep r) (fun s a => AnswersAct Plain a ∧ fits r m s a = true) (.start g) acts) :
    ∀ e ∈ entries (countStep r) (.start g) acts, ∀ portal, e.post.returned portal ≤ m := by
  intro e he
  have hstart : ∀ portal, (Counted.start g).returned portal ≤ m := fun _ => Nat.zero_le m
  exact (inv_of_mem_entries (fun s : Counted β => ∀ portal, s.returned portal ≤ m)
    (fun s a hs ha => returned_le_step r hbackend s a hs ha) hstart hok he).2

end Pages

def cappedPolicy : LocalPdpInner := { rulesOnly [] with defaultMaxRows := some 2 }

/-- The client sends a message under that policy; a statement that is run gives these texts. -/
def asksCapped (texts : List String) (message : FrontendMessage) : Runtime.Act RawFrame CallIo HealthIo Nat :=
  .frame (frameOf message) fun _ =>
    { workingIo cappedPolicy noRewriters with
      call := { CallIo.works with
        pool := { PoolIo.works with
          start := .ok (.rowDescription ["id"] :: texts.map fun text => .row [.string text]) } } }

def streamingRuntime : Runtime PostgreSqlFrontend RawFrame Connector CallIo HealthIo Nat :=
  postgreSqlRuntime plainDialect textCodec { plainService false with streamMode := .streaming 256 none }

def pagesOf (sizes : List Int) : List (Runtime.Act RawFrame CallIo HealthIo Nat) :=
  asksCapped [] (.parse "sa" "select id from a") :: asksCapped [] (.bind "a" "sa" [] []) ::
    sizes.map fun size => asksCapped ["a1", "a2", "a3", "a4"] (.execute "a" size)

/-- A statement that is let through has a decision with the row cap `m`. -/
def cappedAt (m : Nat) (e : Entry (Counted Connector) (Runtime.Act RawFrame CallIo HealthIo Nat) (List Event)) :
    Bool :=
  match e.pre.gateway, e.act with
  | some g, .frame frame io =>
    (streamingRuntime.granted g frame io).all fun x =>
      !isRowCommand x.command || x.obligations.maxRows == some m
  | _, _ => true

def rowsFetched (events : List Event) : List (List Row) :=
  events.filterMap fun
    | .answered (.taggedResultSet _ rows _) _ => some rows
    | _ => none

/-- The same select as a statement and through a named cursor. -/
def viaCursor : List (Runtime.Act RawFrame CallIo HealthIo Nat) :=
  [asksCapped ["a1", "a2", "a3"] (.query "select id from a"), asksCapped [] (.query "begin"),
    asksCapped ["a1", "a2", "a3"] (.query "declare c cursor for select id from a"),
    asksCapped [] (.query "fetch 3 from c")]

end DataNexus.Engine
