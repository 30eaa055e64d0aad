/-
  The MySQL frontend of a session: `MySqlFrontendProtocol::decode` (`frontend/mysql.rs`).

      COM_QUERY         Begin, Commit or Rollback if the text is one of these words, else Query
      COM_STMT_PREPARE  Prepare with the text
      COM_STMT_EXECUTE  Execute with the id; the next result is binary, also when this is refused
      COM_STMT_CLOSE    CloseStatement; the next answer is not sent, also when this is refused
      COM_STMT_RESET    Ping

  A packet is given as what the readers of its payload make of it: `decode_text_payload` for a text,
  `decode_stmt_execute_params` for the parameters.
-/
import DataNexus.Session
import DataNexus.Lib.Text

namespace DataNexus.Frontend

open DataNexus.Text

/-! ## Packets -/

/-- A command packet, with its payload as it is read. -/
inductive MySqlPacket where
  | empty
  | quit
  | initDb (database : Except GatewayError String)
  | query (sql : Except GatewayError String)
  | ping
  | stmtPrepare (sql : Except GatewayError String)
  /-- `none` if the payload is too short; else the id and the parameters. -/
  | stmtExecute (payload : Option (Nat × Except GatewayError (List GatewayValue)))
  /-- `none` if the payload is too short. -/
  | stmtClose (id : Option Nat)
  | stmtReset
  | other (byte : UInt8)

/-- `frame.first()`; the empty packet has none, and counts as 0. -/
def MySqlPacket.tag : MySqlPacket → UInt8
  | .empty => 0
  | .quit => 1
  | .initDb _ => 2
  | .query _ => 3
  | .ping => 14
  | .stmtPrepare _ => 22
  | .stmtExecute _ => 23
  | .stmtClose _ => 25
  | .stmtReset => 26
  | .other byte => byte

/-! ## Texts -/

def isAsciiWhitespace (c : Char) : Bool := c == ' ' || c == '\t' || c == '\n' || c == '\x0c' || c == '\r'

def splitAsciiWhitespace : List Char → List (List Char)
  | [] => []
  | c :: s =>
    if isAsciiWhitespace c then splitAsciiWhitespace s
    else if (s.head?.map isAsciiWhitespace).getD true then [c] :: splitAsciiWhitespace s
    else
      match splitAsciiWhitespace s with
      | [] => [[c]]
      | word :: words => (c :: word) :: words

def unquoted (word : List Char) : List Char := trimMatches (fun c => c == '\'' || c == '"') word

/-- `parse_set_names`: the character set of SET NAMES, with or without `=`. -/
def parseSetNames (sql : String) : Option String :=
  match splitAsciiWhitespace (trimEndMatches (· == ';') (trim sql.toList)) with
  | set :: names :: word :: rest =>
    if !sameIgnoringCase set "set".toList || !sameIgnoringCase names "names".toList then none
    else
      let named : Option (List Char × List (List Char)) :=
        if unquoted word = ['='] then
          match rest with
          | [] => none
          | word :: rest => some (unquoted word, rest)
        else some (unquoted word, rest)
      match named with
      | some (charset, []) => if charset.isEmpty then none else some (String.ofList charset)
      | _ => none
  | _ => none

example : parseSetNames "SET NAMES 'utf8mb4';" = some "utf8mb4" := by decide

/-- `strip_suffix(';').unwrap_or(..)`: one semicolon at most. -/
def stripSemicolon (s : List Char) : List Char := if s.getLast? = some ';' then s.dropLast else s

/-- The text in `decode_query_command` that is compared with the control words. -/
@[irreducible] def normalized (sql : String) : String :=
  String.ofList (toAsciiLowercase (trimEnd (stripSemicolon (trim sql.toList))))

/-! ## Decoding -/

/-- `MySqlFrontendProtocol`: the state that `decode` and `encode` share. -/
structure MySqlFrontend where
  suppressNextResponse : Bool
deriving DecidableEq

/-- What `decode` gives: the commands or the error, the session, the adapter. -/
abbrev MySqlDecoded := Except Halt (List GatewayCommand) × SessionState × MySqlFrontend

/-- `decode_query_command`, on a text that could be read. -/
def decodeMySqlQuery (p : MySqlFrontend) (sql : String) (session : SessionState) : MySqlDecoded :=
  if normalized sql = "begin" ∨ normalized sql = "start transaction" then
    (.ok [.begin], { session with transactionState := .active }, p)
  else if normalized sql = "commit" then
    (.ok [.commit], { session with transactionState := .idle }, p)
  else if normalized sql = "rollback" then
    (.ok [.rollback], { session with transactionState := .idle }, p)
  else
    match parseSetNames sql with
    | some charset => (.ok [.query sql], { session with charset := some charset }, p)
    | none => (.ok [.query sql], session, p)

/-- `MySqlFrontendProtocol::decode`. -/
def decodeMySql (p : MySqlFrontend) (packet : MySqlPacket) (session : SessionState) : MySqlDecoded :=
  match packet with
  | .empty => (.error (.error (.protocol "empty mysql command frame")), session, p)
  | .quit => (.ok [.quit], session, p)
  | .initDb (.error e) => (.error (.error e), session, p)
  | .initDb (.ok database) =>
    (.ok [.useDatabase database], { session with database := some database }, p)
  | .query (.error e) => (.error (.error e), session, p)
  | .query (.ok sql) => decodeMySqlQuery p sql session
  | .ping => (.ok [.ping], session, p)
  | .stmtPrepare (.error e) => (.error (.error e), session, p)
  | .stmtPrepare (.ok sql) => (.ok [.prepare sql], session, p)
  | .stmtExecute payload =>
    -- the flag is set before the payload is looked at
    let session := { session with preferBinaryResult := true }
    match payload with
    | none =>
      (.error (.error (.protocol "mysql COM_STMT_EXECUTE payload too short")), session, p)
    | some (_, .error e) => (.error (.error e), session, p)
    | some (id, .ok parameters) => (.ok [.execute (toString id) parameters], session, p)
  | .stmtClose id =>
    let p := { p with suppressNextResponse := true }
    match id with
    | none =>
      (.error (.error (.protocol "mysql statement command payload is missing statement id")),
        session, p)
    | some id => (.ok [.closeStatement (toString id)], session, p)
  | .stmtReset => (.ok [.ping], session, p)
  | .other byte =>
    (.error (.error (.unsupported ("unsupported mysql command byte " ++ toString byte.toNat))),
      session, p)

/-- What `encode` leaves behind: an answer was sent or suppressed. -/
def encodedMySql (p : MySqlFrontend) (_ : GatewayResponse) : MySqlFrontend := { p with suppressNextResponse := false }

/-- What `decode` leaves of the session: nothing that belongs to the engine or to PostgreSQL moves. -/
structure MySqlDecodes (session : SessionState) (out : MySqlDecoded) : Prop where
  single : ∀ commands, out.1 = .ok commands → ∃ command, commands = [command]
  endpoint : out.2.1.backendEndpoint = session.backendEndpoint
  frames : out.2.1.pgClientExtendedFrames = session.pgClientExtendedFrames

variable {session' : SessionState} {p : MySqlFrontend}

theorem mySqlDecodes_one {session : SessionState} (command : GatewayCommand)
    (hend : session'.backendEndpoint = session.backendEndpoint)
    (hframes : session'.pgClientExtendedFrames = session.pgClientExtendedFrames) :
    MySqlDecodes session (.ok [command], session', p) := by
  refine ⟨?_, hend, hframes⟩
  intro commands h
  injection h with h
  exact ⟨command, h.symm⟩

theorem mySqlDecodes_error {session : SessionState} (h : Halt)
    (hend : session'.backendEndpoint = session.backendEndpoint)
    (hframes : session'.pgClientExtendedFrames = session.pgClientExtendedFrames) :
    MySqlDecodes session (.error h, session', p) :=
  ⟨nofun, hend, hframes⟩

theorem mySqlDecodes_query (p : MySqlFrontend) (sql : String) (session : SessionState) :
    MySqlDecodes session (decodeMySqlQuery p sql session) := by
  unfold decodeMySqlQuery
  split
  · exact mySqlDecodes_one _ rfl rfl
  split
  · exact mySqlDecodes_one _ rfl rfl
  split
  · exact mySqlDecodes_one _ rfl rfl
  split
  · exact mySqlDecodes_one _ rfl rfl
  · exact mySqlDecodes_one _ rfl rfl

/-- **Decoding.**  Every packet. -/
theorem mySqlDecodes_decode (p : MySqlFrontend) (packet : MySqlPacket) (session : SessionState) :
    MySqlDecodes session (decodeMySql p packet session) := by
  cases packet with
  | empty => exact mySqlDecodes_error _ rfl rfl
  | quit => exact mySqlDecodes_one _ rfl rfl
  | ping => exact mySqlDecodes_one _ rfl rfl
  | stmtReset => exact mySqlDecodes_one _ rfl rfl
  | other byte => exact mySqlDecodes_error _ rfl rfl
  | initDb database =>
    rcases database with e | database
    · exact mySqlDecodes_error _ rfl rfl
    · exact mySqlDecodes_one _ rfl rfl
  | query sql =>
    rcases sql with e | sql
    · exact mySqlDecodes_error _ rfl rfl
    · exact mySqlDecodes_query p sql session
  | stmtPrepare sql =>
    rcases sql with e | sql
    · exact mySqlDecodes_error _ rfl rfl
    · exact mySqlDecodes_one _ rfl rfl
  | stmtExecute payload =>
    rcases payload with _ | ⟨id, e | parameters⟩
    · exact mySqlDecodes_error _ rfl rfl
    · exact mySqlDecodes_error _ rfl rfl
    · exact mySqlDecodes_one _ rfl rfl
  | stmtClose id =>
    rcases id with _ | id
    · exact mySqlDecodes_error _ rfl rfl
    · exact mySqlDecodes_one _ rfl rfl

theorem decodeMySql_query (p : MySqlFrontend) (sql : String) (session : SessionState) :
    decodeMySql p (.query (.ok sql)) session = decodeMySqlQuery p sql session := by
  rw [decodeMySql]

theorem decodeMySqlQuery_cases (p : MySqlFrontend) (sql : String) (session : SessionState) :
    (∃ command, (decodeMySqlQuery p sql session).1 = .ok [command] ∧
      (command = .begin ∨ command = .commit ∨ command = .rollback)) ∨
    (decodeMySqlQuery p sql session).1 = .ok [.query sql] := by
  unfold decodeMySqlQuery
  split
  · exact .inl ⟨.begin, rfl, .inl rfl⟩
  split
  · exact .inl ⟨.commit, rfl, .inr (.inl rfl)⟩
  split
  · exact .inl ⟨.rollback, rfl, .inr (.inr rfl)⟩
  split
  · exact .inr rfl
  · exact .inr rfl

theorem decodeMySqlQuery_touches (p : MySqlFrontend) (sql : String) (session : SessionState) :
    ∃ charset state, (decodeMySqlQuery p sql session).2.1 =
      { session with charset := charset, transactionState := state } := by
  unfold decodeMySqlQuery
  split
  · exact ⟨session.charset, .active, rfl⟩
  split
  · exact ⟨session.charset, .idle, rfl⟩
  split
  · exact ⟨session.charset, .idle, rfl⟩
  split
  · exact ⟨_, session.transactionState, rfl⟩
  · exact ⟨session.charset, session.transactionState, rfl⟩

end DataNexus.Frontend
