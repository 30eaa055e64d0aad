/-
  The MySQL frontend and the MySQL connector as the two adapters of the engine.

  The frontend buffers no frames, so what the interface says about frames holds for want of any.  The
  connector relays nothing and has no health check of its own.
-/
import DataNexus.Backend.MySqlSession
import DataNexus.Engine.Trace
import DataNexus.Frontend.MySql

namespace DataNexus.Engine

open DataNexus.Frontend DataNexus.Backend DataNexus.Pdp DataNexus.Tickets

/-- `MySqlFrontendProtocol` as the engine's frontend. -/
def mySqlAdapter (codec : MySqlFrontend → SessionState → Option Obligations → RowCodec) :
    FrontendProtocolAdapter MySqlFrontend MySqlPacket where
  protocol := .mySql
  decode := decodeMySql
  encoded := encodedMySql
  headerEncoded := id
  codec := codec
  tag := MySqlPacket.tag
  terminates := fun packet => packet.tag == 1
  clientFrame := fun _ => none
  boundText := fun _ _ => none
  decode_single := by
    intro p packet session commands h
    obtain ⟨command, rfl⟩ := (mySqlDecodes_decode p packet session).single commands h
    exact Nat.le_refl 1
  decode_frames := by
    intro p packet session commands command frame _ _ hframe
    rw [(mySqlDecodes_decode p packet session).frames] at hframe
    exact .inr ⟨hframe, fun h => Bool.false_ne_true h.2⟩
  decode_text := by
    intro p packet session commands command frame _ _ hframe
    have hnone : (none : Option ClientFrame) = some frame := hframe
    cases hnone
  decode_endpoint := by
    intro p packet session
    exact (mySqlDecodes_decode p packet session).endpoint

theorem mySql_executeWithMode_touches (c : Connector) (command : GatewayCommand)
    (session : SessionState) (mode : ExecuteMode) (io : MySql.CallIo) :
    ∃ database state, (MySql.executeWithMode c command session mode io).2.1 =
      { session with database := database, transactionState := state } := by
  have hsame : ∃ database state, session =
      { session with database := database, transactionState := state } :=
    ⟨session.database, session.transactionState, rfl⟩
  cases command with
  | begin => exact ⟨session.database, .active, rfl⟩
  | useDatabase database =>
    show ∃ d st, (MySql.useDatabase c database session io.control).2.1 = _
    unfold MySql.useDatabase
    split
    · split
      · exact hsame
      · exact ⟨some database, session.transactionState, rfl⟩
    · exact ⟨some database, session.transactionState, rfl⟩
  | commit =>
    unfold MySql.executeWithMode
    dsimp only
    split
    · exact hsame
    · exact ⟨session.database, .idle, rfl⟩
  | rollback =>
    unfold MySql.executeWithMode
    dsimp only
    split
    · exact hsame
    · exact ⟨session.database, .idle, rfl⟩
  | query sql =>
    unfold MySql.executeWithMode
    dsimp only
    split <;> exact hsame
  | queryParams sql parameters =>
    unfold MySql.executeWithMode
    dsimp only
    split <;> exact hsame
  | execute id parameters =>
    unfold MySql.executeWithMode
    dsimp only
    split
    · exact hsame
    split
    · exact hsame
    split <;> exact hsame
  | describeSql sql =>
    unfold MySql.executeWithMode
    dsimp only
    split
    · exact hsame
    split <;> exact hsame
  | _ => exact hsame

theorem mySql_executeOutcome_touches (c : Connector) (command : GatewayCommand)
    (session : SessionState) (mode : ExecuteMode) (io : MySql.CallIo) :
    ∃ database state, (MySql.executeOutcome c command session mode io).2.1 =
      { session with database := database, transactionState := state } := by
  have hsame : ∃ database state, session =
      { session with database := database, transactionState := state } :=
    ⟨session.database, session.transactionState, rfl⟩
  have hmode : ∀ command mode, ∃ database state,
      (completed (MySql.executeWithMode c command session mode io)).2.1 =
        { session with database := database, transactionState := state } := by
    intro command mode
    rw [completed_session]
    exact mySql_executeWithMode_touches c command session mode io
  cases command with
  | query sql =>
    unfold MySql.executeOutcome
    dsimp only
    split
    · exact hmode _ _
    split <;> exact hsame
  | queryParams sql parameters =>
    unfold MySql.executeOutcome
    dsimp only
    split <;> exact hsame
  | execute id parameters =>
    unfold MySql.executeOutcome
    dsimp only
    split
    · exact hsame
    split
    · exact hsame
    split <;> exact hsame
  | _ => exact hmode _ _

/-- `MySqlBackendConnector` as the engine's backend; in the background its producers end. -/
def mySqlConnector : BackendConnector Connector MySql.CallIo Unit Nat where
  protocol := .mySql
  executeOutcome := MySql.executeOutcome
  finishRelay := fun c _ => c
  checkSessionHealth := fun c _ => (.ok (), c)
  background := producerDone
  executeOutcome_endpoint := by
    intro c command session mode io
    obtain ⟨database, state, h⟩ := mySql_executeOutcome_touches c command session mode io
    rw [h]

def mySqlRuntime (codec : MySqlFrontend → SessionState → Option Obligations → RowCodec)
    (service : Service) : Runtime MySqlFrontend MySqlPacket Connector MySql.CallIo Unit Nat :=
  ⟨mySqlAdapter codec, mySqlConnector, service⟩

end DataNexus.Engine
