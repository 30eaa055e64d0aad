/-
  The one-shot flags of a MySQL session: `suppress_next_response` and `prefer_binary_result`
  (`frontend/mysql.rs`, `core_engine.rs`, and `run_mysql_core_session` in `gateway.rs`).

      COM_STMT_CLOSE    sets the first: the next call of `encode` gives nothing and clears it
      COM_STMT_EXECUTE  sets the second: rows are binary until a response has been written

  `decode` sets them before it looks at the payload, and only some of the ways out of `handle_frame_inner` (`Exit`) clear
  them.  `flags_apply_iff`: every command gets its `ownReplies` and leaves the later ones alone iff every COM_STMT_CLOSE is
  answered and every COM_STMT_EXECUTE ends in a way that clears the flag.
-/
import DataNexus.Frontend.MySql
import DataNexus.Lib.Run

namespace DataNexus.MySqlFlags

open DataNexus.Frontend Run

/-! ## Encoding -/

/-- The row encodings: `ProtocolText` and `ProtocolBinary`. -/
inductive RowFormat where
  | text
  | binary
  deriving DecidableEq

inductive Reply where
  /-- The packets of a response without rows. -/
  | packets (response : GatewayResponse)
  | rows (format : RowFormat) (rows : List (List GatewayValue))
  | wire (packets : List (List UInt8))
  /-- The error packet of the session loop. -/
  | errorPacket (h : Halt)

/-- The part of a connection that the flags are in. -/
structure State where
  frontend : MySqlFrontend
  session : SessionState

def formatOf (session : SessionState) : RowFormat := if session.preferBinaryResult then .binary else .text

/-- `MySqlFrontendProtocol::encode`; `encoded` is what the encoder of rows or of columns says. -/
def encode (p : MySqlFrontend) (response : GatewayResponse) (session : SessionState)
    (encoded : Except GatewayError Unit) : Except GatewayError (List Reply) × MySqlFrontend :=
  if p.suppressNextResponse then (.ok [], { p with suppressNextResponse := false })
  else
    match response, encoded with
    | .resultSet _ rows, .ok () => (.ok [.rows (formatOf session) rows], p)
    | .resultSet _ _, .error e => (.error e, p)
    | .taggedResultSet _ rows _, .ok () => (.ok [.rows (formatOf session) rows], p)
    | .taggedResultSet _ _ _, .error e => (.error e, p)
    | .prepared id count columns, .ok () => (.ok [.packets (.prepared id count columns)], p)
    | .prepared _ _ _, .error e => (.error e, p)
    | .wire packets, _ => (.ok [.wire packets], p)
    | .rowDescription _, _ => (.ok [], p)
    | response, _ => (.ok [.packets response], p)

structure Answering where
  /-- `use_windowed`. -/
  windowed : Bool
  /-- The rows that were sent before a windowed result set failed, and the error. -/
  progress : Except (Nat × GatewayError) Unit
  encoded : Except GatewayError Unit
  written : Except GatewayError Unit

/-- A call of the connection: its result, the connection, and what was sent. -/
structure Called where
  result : Except Halt Unit
  state : State
  replies : List Reply

/-- `self.session.prefer_binary_result = false`. -/
def State.cleared (st : State) : State := { st with session := { st.session with preferBinaryResult := false } }

/-- `frontend.encode(..)?`, `write_packets`, and the flag. -/
def encodeAndWrite (st : State) (response : GatewayResponse) (io : Answering) : Called :=
  let out := encode st.frontend response st.session io.encoded
  let st := { st with frontend := out.2 }
  match out.1 with
  | .error e => ⟨.error (.error e), st, []⟩
  | .ok replies =>
    match io.written with
    | .error e => ⟨.error (.error e), st.cleared, []⟩
    | .ok () => ⟨.ok (), st.cleared, replies⟩

/-- Rows that go out window by window: `encode` is not called, and an error leaves by `?`. -/
def writeRows (st : State) (rows : List (List GatewayValue)) (progress : Except (Nat × GatewayError) Unit) : Called :=
  match progress with
  | .error (sent, e) => ⟨.error (.error e), st, [.rows (formatOf st.session) (rows.take sent)]⟩
  | .ok () => ⟨.ok (), st.cleared, [.rows (formatOf st.session) rows]⟩

def encodeResponseToWriter (st : State) (response : GatewayResponse) (io : Answering) : Called :=
  match response with
  | .resultSet columns rows =>
    if io.windowed then writeRows st rows io.progress else encodeAndWrite st (.resultSet columns rows) io
  | .wire packets =>
    match io.written with
    | .error e => ⟨.error (.error e), st.cleared, []⟩
    | .ok () => ⟨.ok (), st.cleared, [.wire packets]⟩
  | response => encodeAndWrite st response io

/-! ## Frames -/

/-- How `handle_frame_inner` goes on with a decoded command. -/
inductive Exit where
  | failed (e : GatewayError)
  | answered (response : GatewayResponse) (io : Answering)
  | streamed (rows : List (List GatewayValue)) (progress : Except (Nat × GatewayError) Unit)
  | relayed (packets : List (List UInt8)) (ended : Except GatewayError Unit)

/-- The rest of `handle_frame_inner`; the relay does not touch the flags. -/
def handleCommand (st : State) : Exit → Called
  | .failed e => ⟨.error (.error e), st, []⟩
  | .answered response io => encodeResponseToWriter st response io
  | .streamed rows progress => writeRows st rows progress
  | .relayed packets ended => ⟨ended.mapError .error, st, [.wire packets]⟩

/-- `handle_frame_inner`.  The text for an unknown command byte is no capability, so no decode error is answered here:
`other_not_capability`. -/
def handleFrame (st : State) (packet : MySqlPacket) (exit : Exit) : Called :=
  let out := decodeMySql st.frontend packet st.session
  let st : State := ⟨out.2.2, out.2.1⟩
  match out.1 with
  | .error h => ⟨.error h, st, []⟩
  | .ok _ => handleCommand st exit

/-- A frame of the client, and how its command goes. -/
abbrev Act := MySqlPacket × Exit

/-- `frame.first() == Some(&COM_QUIT)`. -/
def isQuit : MySqlPacket → Bool
  | .quit => true
  | _ => false

/-- One turn of `run_mysql_core_session`; `none` is a closed connection. -/
def step (st : Option State) (a : Act) : List Reply × Option State :=
  match st with
  | none => ([], none)
  | some st =>
    let out := handleFrame st a.1 a.2
    match out.result with
    | .error h => (out.replies ++ [.errorPacket h], some out.state)
    | .ok () => (out.replies, if isQuit a.1 then none else some out.state)

def newSession (session : SessionState) : Option State := some ⟨⟨false⟩, { session with preferBinaryResult := false }⟩

/-! ## What each command should get -/

def isStmtClose : MySqlPacket → Bool
  | .stmtClose _ => true
  | _ => false

/-- COM_STMT_EXECUTE, also when it is malformed. -/
def isStmtExecute : MySqlPacket → Bool
  | .stmtExecute _ => true
  | _ => false

/-- The error of `decode`, which no flag decides. -/
def decodeError (packet : MySqlPacket) : Option Halt :=
  match (decodeMySql ⟨false⟩ packet .default).1 with
  | .error h => some h
  | .ok _ => none

/-- Rows in a format, and the error packet if they broke off. -/
def rowReplies (format : RowFormat) (rows : List (List GatewayValue)) : Except (Nat × GatewayError) Unit → List Reply
  | .ok () => [.rows format rows]
  | .error (sent, e) => [.rows format (rows.take sent), .errorPacket (.error e)]

def wholeReplies (replies : List Reply) (encoded written : Except GatewayError Unit) : List Reply :=
  match encoded, written with
  | .error e, _ => [.errorPacket (.error e)]
  | .ok (), .error e => [.errorPacket (.error e)]
  | .ok (), .ok () => replies

/-- The replies to a command with rows in the format. -/
def exitReplies (format : RowFormat) : Exit → List Reply
  | .failed e => [.errorPacket (.error e)]
  | .streamed rows progress => rowReplies format rows progress
  | .relayed packets (.ok ()) => [.wire packets]
  | .relayed packets (.error e) => [.wire packets, .errorPacket (.error e)]
  | .answered (.resultSet _ rows) io =>
    if io.windowed then rowReplies format rows io.progress else wholeReplies [.rows format rows] io.encoded io.written
  | .answered (.taggedResultSet _ rows _) io => wholeReplies [.rows format rows] io.encoded io.written
  | .answered (.prepared id count columns) io =>
    wholeReplies [.packets (.prepared id count columns)] io.encoded io.written
  | .answered (.wire packets) io => wholeReplies [.wire packets] (.ok ()) io.written
  | .answered (.rowDescription _) io => wholeReplies [] (.ok ()) io.written
  | .answered response io => wholeReplies [.packets response] (.ok ()) io.written

/-- **What a command should get**: nothing iff it is a COM_STMT_CLOSE, and binary rows iff it is a
COM_STMT_EXECUTE. -/
def ownReplies (a : Act) : List Reply :=
  if isStmtClose a.1 then []
  else
    match decodeError a.1 with
    | some h => [.errorPacket h]
    | none => exitReplies (if isStmtExecute a.1 then .binary else .text) a.2

def repliesAlong (st : Option State) (acts : List Act) : List (List Reply) := (entries step st acts).map (·.out)

def State.fresh (st : State) : State := ⟨⟨false⟩, { st.session with preferBinaryResult := false }⟩

/-- Whatever comes next is answered as if no earlier command had set a flag. -/
def Independent (st : Option State) : Prop := ∀ acts, repliesAlong st acts = repliesAlong (st.map State.fresh) acts

/-- A command gets its own replies, and leaves the later ones alone.  A closed connection gets none. -/
def AppliesOwn (st : Option State) (a : Act) : Prop :=
  st = none ∨ (step st a).1 = ownReplies a ∧ Independent (step st a).2

def Clears : Exit → Prop
  | .failed _ => False
  | .streamed _ progress => progress = .ok ()
  | .relayed _ _ => False
  | .answered (.resultSet _ _) io => if io.windowed then io.progress = .ok () else io.encoded = .ok ()
  | .answered (.taggedResultSet _ _ _) io => io.encoded = .ok ()
  | .answered (.prepared _ _ _) io => io.encoded = .ok ()
  | .answered _ _ => True

/-- An answer that goes through `encode`, which the suppression swallows; the empty write succeeds. -/
def Acknowledged : Exit → Prop
  | .answered (.resultSet _ _) io => io.windowed = false ∧ io.written = .ok ()
  | .answered (.wire _) _ => False
  | .answered _ io => io.written = .ok ()
  | _ => False

/-- **When a command clears the flags it sets**: a COM_STMT_CLOSE has an id and is answered, a COM_STMT_EXECUTE is well
formed and leaves by a way that clears the flag. -/
def Settles (a : Act) : Prop :=
  match a.1 with
  | .stmtClose id => id.isSome = true ∧ Acknowledged a.2
  | .stmtExecute payload => (∃ id parameters, payload = some (id, .ok parameters)) ∧ Clears a.2
  | _ => True

/-! ## The flags -/

def FlagsClear (st : State) : Prop := st.frontend.suppressNextResponse = false ∧ st.session.preferBinaryResult = false

variable {st : State} {a : Act}

theorem fresh_eq (h : FlagsClear st) : st.fresh = st := by
  obtain ⟨⟨suppress⟩, session⟩ := st
  obtain ⟨rfl, hprefer⟩ := h
  unfold State.fresh
  dsimp only at hprefer ⊢
  rw [← hprefer]

/-- The connection after `decode`. -/
def decoded (st : State) (packet : MySqlPacket) : State :=
  ⟨(decodeMySql st.frontend packet st.session).2.2, (decodeMySql st.frontend packet st.session).2.1⟩

theorem decodeMySqlQuery_flags (p : MySqlFrontend) (sql : String) (session : SessionState) :
    (decodeMySqlQuery p sql session).2.2 = p ∧
      (decodeMySqlQuery p sql session).2.1.preferBinaryResult = session.preferBinaryResult ∧
      ∃ commands, (decodeMySqlQuery p sql session).1 = .ok commands := by
  unfold decodeMySqlQuery
  split
  · exact ⟨rfl, rfl, _, rfl⟩
  split
  · exact ⟨rfl, rfl, _, rfl⟩
  split
  · exact ⟨rfl, rfl, _, rfl⟩
  split
  · exact ⟨rfl, rfl, _, rfl⟩
  · exact ⟨rfl, rfl, _, rfl⟩

/-- **What `decode` does to the flags.** -/
theorem decoded_flags (st : State) (packet : MySqlPacket) :
    (decoded st packet).frontend.suppressNextResponse = (st.frontend.suppressNextResponse || isStmtClose packet) ∧
      (decoded st packet).session.preferBinaryResult = (st.session.preferBinaryResult || isStmtExecute packet) := by
  have hkeep : ∀ b : Bool, b = (b || false) := fun b => (Bool.or_false b).symm
  have hset : ∀ b : Bool, true = (b || true) := fun b => (Bool.or_true b).symm
  unfold decoded
  cases packet with
  | query sql =>
    rcases sql with e | sql
    · exact ⟨hkeep _, hkeep _⟩
    · obtain ⟨hp, hprefer, -⟩ := decodeMySqlQuery_flags st.frontend sql st.session
      rw [decodeMySql_query]
      exact ⟨(congrArg _ hp).trans (hkeep _), hprefer.trans (hkeep _)⟩
  | initDb database => rcases database with e | database <;> exact ⟨hkeep _, hkeep _⟩
  | stmtPrepare sql => rcases sql with e | sql <;> exact ⟨hkeep _, hkeep _⟩
  | stmtExecute payload => rcases payload with _ | ⟨id, e | parameters⟩ <;> exact ⟨hkeep _, hset _⟩
  | stmtClose id => rcases id with _ | id <;> exact ⟨hset _, hkeep _⟩
  | _ => exact ⟨hkeep _, hkeep _⟩

theorem decode_result (st : State) (packet : MySqlPacket) :
    (∃ h, decodeError packet = some h ∧ (decodeMySql st.frontend packet st.session).1 = .error h) ∨
      decodeError packet = none ∧ ∃ commands, (decodeMySql st.frontend packet st.session).1 = .ok commands := by
  unfold decodeError
  cases packet with
  | query sql =>
    rcases sql with e | sql
    · exact .inl ⟨_, rfl, rfl⟩
    · obtain ⟨-, -, commands, h⟩ := decodeMySqlQuery_flags ⟨false⟩ sql .default
      obtain ⟨-, -, commands', h'⟩ := decodeMySqlQuery_flags st.frontend sql st.session
      rw [decodeMySql_query, decodeMySql_query, h, h']
      exact .inr ⟨rfl, _, rfl⟩
  | initDb database =>
    rcases database with e | database
    · exact .inl ⟨_, rfl, rfl⟩
    · exact .inr ⟨rfl, _, rfl⟩
  | stmtPrepare sql =>
    rcases sql with e | sql
    · exact .inl ⟨_, rfl, rfl⟩
    · exact .inr ⟨rfl, _, rfl⟩
  | stmtExecute payload =>
    rcases payload with _ | ⟨id, e | parameters⟩
    · exact .inl ⟨_, rfl, rfl⟩
    · exact .inl ⟨_, rfl, rfl⟩
    · exact .inr ⟨rfl, _, rfl⟩
  | stmtClose id =>
    rcases id with _ | id
    · exact .inl ⟨_, rfl, rfl⟩
    · exact .inr ⟨rfl, _, rfl⟩
  | empty => exact .inl ⟨_, rfl, rfl⟩
  | other byte => exact .inl ⟨_, rfl, rfl⟩
  | _ => exact .inr ⟨rfl, _, rfl⟩

theorem handleFrame_of_error {packet : MySqlPacket} {h : Halt} (herr : decodeError packet = some h) (st : State)
    (exit : Exit) : handleFrame st packet exit = ⟨.error h, decoded st packet, []⟩ := by
  rcases decode_result st packet with ⟨h', herr', hresult⟩ | ⟨hnone, -⟩
  · obtain rfl : h = h' := Option.some.inj (herr.symm.trans herr')
    unfold handleFrame
    dsimp only
    rw [hresult]
    rfl
  · rw [herr] at hnone
    cases hnone

theorem handleFrame_of_ok {packet : MySqlPacket} (hnone : decodeError packet = none) (st : State) (exit : Exit) :
    handleFrame st packet exit = handleCommand (decoded st packet) exit := by
  rcases decode_result st packet with ⟨h, herr, -⟩ | ⟨-, commands, hresult⟩
  · rw [hnone] at herr
    cases herr
  · unfold handleFrame
    dsimp only
    rw [hresult]
    rfl

/-! ## Ways out -/

/-- What a call sends, with the error packet of the session loop. -/
def Called.sent (c : Called) : List Reply :=
  match c.result with
  | .error h => c.replies ++ [.errorPacket h]
  | .ok () => c.replies

theorem step_some (st : State) (a : Act) : (step (some st) a).1 = (handleFrame st a.1 a.2).sent ∧
      ((step (some st) a).2 = some (handleFrame st a.1 a.2).state ∨ (step (some st) a).2 = none) := by
  unfold step Called.sent
  dsimp only
  cases (handleFrame st a.1 a.2).result with
  | error h => exact ⟨rfl, .inl rfl⟩
  | ok =>
    dsimp only
    split
    · exact ⟨rfl, .inr rfl⟩
    · exact ⟨rfl, .inl rfl⟩

theorem step_stays (h : isQuit a.1 = false) : (step (some st) a).2 = some (handleFrame st a.1 a.2).state := by
  unfold step
  dsimp only
  cases (handleFrame st a.1 a.2).result with
  | error e => rfl
  | ok => exact congrArg (fun b : Bool => if b then none else some (handleFrame st a.1 a.2).state) h

theorem encodeAndWrite_sent (h : st.frontend.suppressNextResponse = false) (response : GatewayResponse)
    (io : Answering) : (encodeAndWrite st response io).sent = exitReplies (formatOf st.session) (.answered response
      { io with windowed := false }) := by
  obtain ⟨⟨suppress⟩, session⟩ := st
  obtain rfl : suppress = false := h
  obtain ⟨windowed, progress, encoded, written⟩ := io
  cases response <;> cases encoded <;> cases written <;> rfl

theorem writeRows_sent (st : State) (rows : List (List GatewayValue)) (progress : Except (Nat × GatewayError) Unit) :
    (writeRows st rows progress).sent = rowReplies (formatOf st.session) rows progress := by
  cases progress <;> rfl

/-- **Without a suppression, the replies are those of the way out.** -/
theorem handleCommand_sent (h : st.frontend.suppressNextResponse = false) (exit : Exit) :
    (handleCommand st exit).sent = exitReplies (formatOf st.session) exit := by
  cases exit with
  | failed e => rfl
  | streamed rows progress => exact writeRows_sent st rows progress
  | relayed packets ended => cases ended <;> rfl
  | answered response io =>
    have hwhole := encodeAndWrite_sent h response io
    cases response with
    | resultSet columns rows =>
      show (if io.windowed then _ else _ : Called).sent = if io.windowed then _ else _
      split
      · exact writeRows_sent st rows io.progress
      · exact hwhole
    | wire packets =>
      obtain ⟨windowed, progress, encoded, written⟩ := io
      cases written <;> rfl
    | _ => exact hwhole

theorem handleCommand_flags (h : st.frontend.suppressNextResponse = false) (exit : Exit) :
    (handleCommand st exit).state.frontend.suppressNextResponse = false ∧
      ((handleCommand st exit).state.session.preferBinaryResult = false ↔
        st.session.preferBinaryResult = false ∨ Clears exit) := by
  have hkept : ∀ {P : Prop}, ¬ P → (st.session.preferBinaryResult = false ↔
      st.session.preferBinaryResult = false ∨ P) := fun hP => ⟨.inl, fun h => h.resolve_right hP⟩
  have hcleared : ∀ {P : Prop}, P → ((false : Bool) = false ↔ st.session.preferBinaryResult = false ∨ P) :=
    fun hP => ⟨fun _ => .inr hP, fun _ => rfl⟩
  obtain ⟨⟨suppress⟩, session⟩ := st
  obtain rfl : suppress = false := h
  cases exit with
  | failed e => exact ⟨rfl, hkept id⟩
  | relayed packets ended => exact ⟨rfl, hkept id⟩
  | streamed rows progress =>
    cases progress with
    | error e => exact ⟨rfl, hkept nofun⟩
    | ok => exact ⟨rfl, hcleared rfl⟩
  | answered response io =>
    obtain ⟨windowed, progress, encoded, written⟩ := io
    cases response with
    | resultSet columns rows =>
      cases windowed with
      | true =>
        cases progress with
        | error e => exact ⟨rfl, hkept nofun⟩
        | ok => exact ⟨rfl, hcleared rfl⟩
      | false =>
        cases encoded with
        | error e => exact ⟨rfl, hkept nofun⟩
        | ok => cases written <;> exact ⟨rfl, hcleared rfl⟩
    | taggedResultSet columns rows tag =>
      cases encoded with
      | error e => exact ⟨rfl, hkept nofun⟩
      | ok => cases written <;> exact ⟨rfl, hcleared rfl⟩
    | prepared id count columns =>
      cases encoded with
      | error e => exact ⟨rfl, hkept nofun⟩
      | ok => cases written <;> exact ⟨rfl, hcleared rfl⟩
    | _ => cases encoded <;> cases written <;> exact ⟨rfl, hcleared trivial⟩

/-- **Under a suppression nothing is sent iff the command is acknowledged**, and then the flags are clear. -/
theorem handleCommand_suppressed (h : st.frontend.suppressNextResponse = true)
    (hprefer : st.session.preferBinaryResult = false) (exit : Exit) :
    ((handleCommand st exit).sent = [] ↔ Acknowledged exit) ∧
      (Acknowledged exit → FlagsClear (handleCommand st exit).state) := by
  obtain ⟨⟨suppress⟩, session⟩ := st
  obtain rfl : suppress = true := h
  cases exit with
  | failed e => exact ⟨iff_of_false nofun id, False.elim⟩
  | relayed packets ended => cases ended <;> exact ⟨iff_of_false nofun id, False.elim⟩
  | streamed rows progress => rcases progress with ⟨n, e⟩ | _ <;> exact ⟨iff_of_false nofun id, False.elim⟩
  | answered response io =>
    obtain ⟨windowed, progress, encoded, written⟩ := io
    have hwritten : ∀ {replies : List Reply}, replies ≠ [] → ¬ (replies = []) := fun h => h
    cases response with
    | resultSet columns rows =>
      cases windowed with
      | true => rcases progress with ⟨n, e⟩ | _ <;> exact ⟨iff_of_false nofun nofun, nofun⟩
      | false =>
        cases written with
        | error e => exact ⟨iff_of_false nofun nofun, nofun⟩
        | ok => exact ⟨iff_of_true rfl ⟨rfl, rfl⟩, fun _ => ⟨rfl, rfl⟩⟩
    | wire packets => cases written <;> exact ⟨iff_of_false nofun id, False.elim⟩
    | _ =>
      cases written with
      | error e => exact ⟨iff_of_false nofun nofun, nofun⟩
      | ok => exact ⟨iff_of_true rfl rfl, fun _ => ⟨rfl, rfl⟩⟩

/-! ## Independence -/

/-- An answer that is encoded and written, window by window. -/
def windowedOk : Answering := ⟨true, .ok (), .ok (), .ok ()⟩

theorem repliesAlong_one (st : Option State) (a : Act) : repliesAlong st [a] = [(step st a).1] := rfl

/-- **Later commands are independent of the earlier ones iff both flags are clear**: a COM_PING finds the suppression,
a query the row format. -/
theorem independent_iff (st : State) : Independent (some st) ↔ FlagsClear st := by
  constructor
  · intro hind
    have hping := hind [(.ping, .answered .pong windowedOk)]
    rw [repliesAlong_one, repliesAlong_one] at hping
    have hsuppress : st.frontend.suppressNextResponse = false := by
      obtain ⟨⟨suppress⟩, session⟩ := st
      cases suppress with
      | false => rfl
      | true => cases hping
    have hquery := hind [(.query (.ok "select 1"), .answered (.resultSet [] []) windowedOk)]
    rw [repliesAlong_one, repliesAlong_one] at hquery
    refine ⟨hsuppress, ?_⟩
    have hsent : ∀ st : State, st.frontend.suppressNextResponse = false →
        (step (some st) (.query (.ok "select 1"), .answered (.resultSet [] []) windowedOk)).1 =
          [.rows (formatOf st.session) []] := by
      intro st hst
      have hflags := decoded_flags st (.query (.ok "select 1"))
      rw [hst] at hflags
      have hnone : decodeError (.query (.ok "select 1")) = none := by
        rcases decode_result st (.query (.ok "select 1")) with ⟨h, -, hresult⟩ | ⟨hnone, -⟩
        · obtain ⟨-, -, commands, hok⟩ := decodeMySqlQuery_flags st.frontend "select 1" st.session
          rw [decodeMySql_query, hok] at hresult
          cases hresult
        · exact hnone
      rw [(step_some st _).1, handleFrame_of_ok hnone, handleCommand_sent hflags.1]
      have hformat : formatOf (decoded st (.query (.ok "select 1"))).session = formatOf st.session := by
        unfold formatOf
        rw [hflags.2]
        show (if (st.session.preferBinaryResult || false) = true then _ else _) = _
        rw [Bool.or_false]
      rw [hformat]
      rfl
    have hformat := (hsent st hsuppress).symm.trans ((List.cons.inj hquery).1.trans (hsent st.fresh rfl))
    have hfresh : formatOf st.session = .text := (Reply.rows.inj (List.cons.inj hformat).1).1
    unfold formatOf at hfresh
    cases hprefer : st.session.preferBinaryResult with
    | false => rfl
    | true =>
      rw [hprefer] at hfresh
      cases hfresh
  · intro hclear acts
    show _ = repliesAlong (some st.fresh) acts
    rw [fresh_eq hclear]

theorem independent_none : Independent none := fun _ => rfl

/-! ## Main result -/

theorem handleFrame_other {st : State} (hclear : FlagsClear st) {a : Act} (hclose : isStmtClose a.1 = false)
    (hexecute : isStmtExecute a.1 = false) :
    (handleFrame st a.1 a.2).sent = ownReplies a ∧ FlagsClear (handleFrame st a.1 a.2).state := by
  obtain ⟨hsuppress, hprefer⟩ := decoded_flags st a.1
  rw [hclear.1, hclose] at hsuppress
  rw [hclear.2, hexecute] at hprefer
  unfold ownReplies
  rw [hclose, hexecute]
  cases herr : decodeError a.1 with
  | some h =>
    rw [handleFrame_of_error herr]
    exact ⟨rfl, hsuppress, hprefer⟩
  | none =>
    have hflags := handleCommand_flags hsuppress a.2
    rw [handleFrame_of_ok herr, handleCommand_sent hsuppress]
    refine ⟨?_, hflags.1, hflags.2.mpr (.inl hprefer)⟩
    unfold formatOf
    rw [hprefer]
    rfl

/-- **One frame**, on a connection whose flags are clear. -/
theorem handleFrame_own (hclear : FlagsClear st) (a : Act) :
    (handleFrame st a.1 a.2).sent = ownReplies a ∧ FlagsClear (handleFrame st a.1 a.2).state ↔ Settles a := by
  obtain ⟨packet, exit⟩ := a
  obtain ⟨hsuppress, hprefer⟩ := decoded_flags st packet
  rw [hclear.1, Bool.false_or] at hsuppress
  rw [hclear.2, Bool.false_or] at hprefer
  cases packet with
  | stmtClose id =>
    cases id with
    | none =>
      -- refused with an error packet
      refine iff_of_false (fun h => ?_) (fun h => absurd h.1 Bool.false_ne_true)
      have hsent := h.1
      rw [handleFrame_of_error rfl] at hsent
      cases hsent
    | some id =>
      have hnone : decodeError (.stmtClose (some id)) = none := rfl
      obtain ⟨hsent, hflags⟩ := handleCommand_suppressed hsuppress hprefer exit
      rw [handleFrame_of_ok hnone]
      exact ⟨fun h => ⟨rfl, hsent.mp h.1⟩, fun h => ⟨hsent.mpr h.2, hflags h.2⟩⟩
  | stmtExecute payload =>
    rcases payload with _ | ⟨id, e | parameters⟩
    · refine iff_of_false (fun h => ?_) (fun h => by obtain ⟨⟨_, _, hpayload⟩, -⟩ := h; cases hpayload)
      have hflags := h.2.2
      rw [handleFrame_of_error rfl, hprefer] at hflags
      cases hflags
    · refine iff_of_false (fun h => ?_) (fun h => by obtain ⟨⟨_, _, hpayload⟩, -⟩ := h; cases hpayload)
      have hflags := h.2.2
      rw [handleFrame_of_error rfl, hprefer] at hflags
      cases hflags
    · have hnone : decodeError (.stmtExecute (some (id, .ok parameters))) = none := rfl
      obtain ⟨hstays, hcleared⟩ := handleCommand_flags hsuppress exit
      rw [handleFrame_of_ok hnone]
      constructor
      · rintro ⟨-, -, hafter⟩
        refine ⟨⟨id, parameters, rfl⟩, (hcleared.mp hafter).resolve_left ?_⟩
        rw [hprefer]
        nofun
      · rintro ⟨-, hexit⟩
        refine ⟨?_, hstays, hcleared.mpr (.inr hexit)⟩
        rw [handleCommand_sent hsuppress]
        unfold formatOf
        rw [hprefer]
        rfl
  | _ => exact iff_of_true (handleFrame_other hclear rfl rfl) trivial

def AllClear (st : Option State) : Prop := ∀ s, st = some s → FlagsClear s

/-- **One command**, on a connection whose flags are clear. -/
theorem appliesOwn_iff {st : Option State} (hclear : AllClear st) (a : Act) :
    AppliesOwn st a ↔ st = none ∨ Settles a := by
  unfold AppliesOwn
  cases st with
  | none => exact iff_of_true (.inl rfl) (.inl rfl)
  | some st =>
    have hst := hclear st rfl
    refine or_congr_right ?_
    rw [(step_some st a).1, ← handleFrame_own hst a]
    refine and_congr_right fun hsent => ?_
    cases hquit : isQuit a.1 with
    | false => rw [step_stays hquit, independent_iff]
    | true =>
      -- COM_QUIT sets no flag
      have hflags : FlagsClear (handleFrame st a.1 a.2).state := by
        obtain ⟨packet, exit⟩ := a
        cases packet with
        | quit => exact (handleFrame_other (a := (.quit, exit)) hst rfl rfl).2
        | _ => cases hquit
      rcases (step_some st a).2 with hpost | hpost
      · rw [hpost, independent_iff]
      · rw [hpost]
        exact iff_of_true independent_none hflags

theorem step_allClear {st : Option State} (hclear : AllClear st) (ha : st = none ∨ Settles a) :
    AllClear (step st a).2 := by
  intro s hs
  cases st with
  | none => cases hs
  | some st =>
    have hsettles : Settles a := ha.resolve_left nofun
    have hflags := ((handleFrame_own (hclear st rfl) a).mpr hsettles).2
    rcases (step_some st a).2 with hpost | hpost
    · rw [hpost] at hs
      exact Option.some.inj hs ▸ hflags
    · rw [hpost] at hs
      cases hs

/-- **The flags apply to exactly their own command iff** each COM_STMT_CLOSE is answered and each COM_STMT_EXECUTE leaves
by a way that clears the flag. -/
theorem flags_apply_iff (session : SessionState) (acts : List Act) :
    (∀ e ∈ entries step (newSession session) acts, AppliesOwn e.pre e.act) ↔
      Meets step (fun st a => st = none ∨ Settles a) (newSession session) acts := by
  refine forall_entries_iff_meets AllClear (fun st a hclear => appliesOwn_iff hclear a)
    (fun st a hclear ha => step_allClear hclear ha) ?_
  intro s hs
  obtain rfl := Option.some.inj hs
  exact ⟨rfl, rfl⟩

/-- A COM_STMT_CLOSE without an id: it is refused with an error packet, and the COM_PING behind it gets nothing. -/
theorem malformed_close_silences_ping :
    repliesAlong (newSession .default) [(.stmtClose none, .failed (.protocol "")), (.ping, .answered .pong windowedOk)] =
        [[.errorPacket (.error (.protocol "mysql statement command payload is missing statement id"))], []] ∧
      ¬ ∀ e ∈ entries step (newSession .default) [(.stmtClose none, .failed (.protocol ""))], AppliesOwn e.pre e.act := by
  refine ⟨rfl, fun h => ?_⟩
  have happlies := h _ List.mem_cons_self
  rcases happlies with hnone | ⟨hreplies, -⟩
  · cases hnone
  · cases hreplies

end DataNexus.MySqlFlags
