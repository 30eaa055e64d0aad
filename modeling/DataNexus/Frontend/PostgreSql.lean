/-
  The PostgreSQL frontend of a session: `decode` and what `encode` does to the adapter (`frontend/postgresql.rs`).

  The extended protocol is answered locally: Parse, Bind and Close only fill the adapter's tables, and an Execute becomes
  the Query or QueryParams of its portal's text.  The raw frames go into `session.pgClientExtendedFrames`:

      Parse, Bind, Describe   append the frame           (Bind also when it is refused afterwards)
      Execute                 append it; under a hold the buffer is emptied first
      Close, Flush, Query     leave the buffer alone
      Sync                    empties it
-/
import DataNexus.Backend.Connector
import DataNexus.Lib.Text

namespace DataNexus.Frontend

open DataNexus.Text DataNexus.Backend

/-! ## Encoders of the small packets -/

/-- `i32::to_be_bytes`. -/
def be32 (n : Nat) : List UInt8 :=
  [UInt8.ofNat (n / 16777216), UInt8.ofNat (n / 65536), UInt8.ofNat (n / 256), UInt8.ofNat n]

/-- `i16::to_be_bytes`. -/
def be16 (n : Nat) : List UInt8 := [UInt8.ofNat (n / 256), UInt8.ofNat n]

def encodeMessage (tag : UInt8) (body : List UInt8) : List UInt8 := tag :: be32 (body.length + 4) ++ body

def encodeParseComplete : List UInt8 := encodeMessage 49 []

def encodeBindComplete : List UInt8 := encodeMessage 50 []

def encodeCloseComplete : List UInt8 := encodeMessage 51 []

def encodeNoData : List UInt8 := encodeMessage 110 []

/-- `encode_parameter_description` of `n` parameters of type TEXT (OID 25). -/
def encodeParameterDescription (n : Nat) : List UInt8 :=
  encodeMessage 116 (be16 n ++ (List.replicate n (be32 25)).flatten)

/-- `transaction_status`, as the byte in the packet. -/
def transactionStatus : TransactionState → UInt8
  | .idle => 73
  | .active => 84
  | .failed => 69

def encodeReadyForQuery (state : TransactionState) : List UInt8 := encodeMessage 90 [transactionStatus state]

example : encodeReadyForQuery .active = [90, 0, 0, 0, 5, 84] := by decide

/-! ## The adapter -/

/-- What the adapter takes from the SQL analysis: refused statements, select lists, and the RowDescription of columns. -/
structure Dialect where
  classifyDangerousSql : String → Option UnsupportedSqlCapability
  inferSelectResultColumns : String → Option (List Column)
  encodeRowDescription : List Column → (formatCode : Int) → Except GatewayError (List UInt8)

/-- `PendingDescribe`: a Describe whose columns the backend has to tell. -/
structure PendingDescribe where
  target : DescribeTarget
  name : String
  /-- The ParameterDescription of a Describe of a statement. -/
  paramDesc : Option (List UInt8)
  formatCode : Int

/-- `PostgreSqlFrontendProtocol`.  A hash map is the function that looks a key up. -/
structure PostgreSqlFrontend where
  prepared : String → Option String
  preparedParams : String → Option Nat
  portals : String → Option String
  portalArgs : String → Option (List GatewayValue)
  portalParams : String → Option Nat
  portalResultFormats : String → Option (List Int)
  preparedColumns : String → Option (List Column)
  portalColumns : String → Option (List Column)
  portalRowDescribed : String → Option Bool
  preparedRowDescribed : String → Option Bool
  suppressNextRowDescription : Bool
  pendingDescribe : Option PendingDescribe

def PostgreSqlFrontend.new : PostgreSqlFrontend where
  prepared := fun _ => none
  preparedParams := fun _ => none
  portals := fun _ => none
  portalArgs := fun _ => none
  portalParams := fun _ => none
  portalResultFormats := fun _ => none
  preparedColumns := fun _ => none
  portalColumns := fun _ => none
  portalRowDescribed := fun _ => none
  preparedRowDescribed := fun _ => none
  suppressNextRowDescription := false
  pendingDescribe := none

/-- What `decode` returns: the commands, and session and adapter after it. -/
abbrev Decoded := Except Halt (List GatewayCommand) × SessionState × PostgreSqlFrontend

/-- `Ok(vec![GatewayCommand::ClientWire { packets }])`. -/
def clientWire (packets : List (List UInt8)) (session : SessionState) (p : PostgreSqlFrontend) : Decoded :=
  (.ok [.clientWire packets], session, p)

/-! ## Text scanners -/

/-- `strip_ascii_prefix`: the prefix, in any case, and then white space or the end. -/
def stripAsciiPrefix (value keyword : List Char) : Option (List Char) :=
  if sameIgnoringCase (value.take keyword.length) keyword && keyword.length ≤ value.length then
    let rest := value.drop keyword.length
    if (rest.head?.map isWhitespace).getD true then some rest else none
  else none

/-- `unquote`, and the doubled quotes of the text inside undone.  `find` stops at the first quote, so
    there are none. -/
def unquote (value : List Char) (quote : Char) : Option (List Char) :=
  match value with
  | [] => none
  | c :: rest => if c = quote ∧ quote ∈ rest then some (rest.takeWhile (· != quote)) else none

def parseSetValue (value : List Char) : Option (List Char) :=
  let value := trim value
  let value :=
    match stripAsciiPrefix value "to".toList, value with
    | some rest, _ => trim rest
    | none, '=' :: rest => trim rest
    | none, _ => value
  let value := trim (trimEndMatches (· == ';') value)
  match value with
  | [] => none
  | '\'' :: _ => unquote value '\''
  | '"' :: _ => unquote value '"'
  | _ => (firstWord value).map (trimMatches (· == ';'))

def clientEncodingFromSetQuery (sql : String) : Option String :=
  let sql := trim (trimEndMatches (· == ';') (trim sql.toList))
  ((stripAsciiPrefix sql "set client_encoding".toList).or
    (stripAsciiPrefix sql "set names".toList)).bind fun value =>
      (parseSetValue value).map String.ofList

/-- `looks_like_select`; `none` is the panic of `t[..6]` inside a character. -/
def looksLikeSelect (sql : String) : Option Bool :=
  let t := trimStart sql.toList
  if byteLength t < 6 then some false
  else (takeBytes 6 t).map fun head => sameIgnoringCase head "select".toList

def countPgPlaceholdersFrontend (sql : String) : Nat := scanPlaceholders 65535 sql.toList .outside 0

/-- The arity check of `bind_pg_text_params`; the count is a `usize` there. -/
def bindArityError (sql : String) (parameters : List GatewayValue) : Option GatewayError :=
  let max := scanPlaceholders (2 ^ 64 - 1) sql.toList .outside 0
  if max = parameters.length then none
  else some (.protocol ("postgresql Bind expects " ++ toString max ++ " parameters, got "
    ++ toString parameters.length))

/-! ## Messages -/

/-- The control keyword of a simple query: `"COMMIT;"` and `" begin "` count. -/
def controlKeyword (sql : String) : String :=
  String.ofList (toAsciiLowercase (trim (trimEndMatches (· == ';') (trim sql.toList))))

/-- `decode_query_command`: BEGIN, COMMIT and ROLLBACK set the transaction state before they run. -/
def decodeQueryCommand (sql : String) (session : SessionState) : GatewayCommand × SessionState :=
  let session :=
    match clientEncodingFromSetQuery sql with
    | some encoding => { session with charset := some encoding }
    | none => session
  if controlKeyword sql = "begin" ∨ controlKeyword sql = "start transaction" then
    (.begin, { session with transactionState := .active })
  else if controlKeyword sql = "commit" then
    (.commit, { session with transactionState := .idle })
  else if controlKeyword sql = "rollback" then
    (.rollback, { session with transactionState := .idle })
  else (.query sql, session)

/-- `FrontendMessage::Query`. -/
def decodeQuery (p : PostgreSqlFrontend) (sql : String) (session : SessionState) : Decoded :=
  let out := decodeQueryCommand sql { session with pgExtendedQuery := false }
  (.ok [out.1], out.2, { p with suppressNextRowDescription := false })

/-- `FrontendMessage::Sync`: the unit ends.  A held relay session still waits for its Sync. -/
def decodeSync (p : PostgreSqlFrontend) (session : SessionState) : Decoded :=
  let p := { p with
    suppressNextRowDescription := false
    pendingDescribe := none
    portalRowDescribed := fun _ => none }
  let session := { session with
    preferBinaryResult := false
    pgExecuteMaxRows := none
    resultTruncated := false
    pgPortalName := none
    pgPortalSkipRows := 0
    pgDropPortalHold := true
    pgClientExtendedFrames := []
    pgExtendedError := false }
  if session.pgExtTcpHold then (.ok [.pgBackendSync], { session with pgExtendedQuery := true }, p)
  else
    clientWire [encodeReadyForQuery session.transactionState]
      { session with pgExtendedQuery := false } p

def bufferFrame (frame : ClientFrame) (session : SessionState) : SessionState :=
  { session with pgClientExtendedFrames := session.pgClientExtendedFrames ++ [frame] }

/-- `FrontendMessage::Parse`. -/
def decodeParse (d : Dialect) (p : PostgreSqlFrontend) (frame : ClientFrame)
    (statement query : String) (session : SessionState) : Decoded :=
  match d.classifyDangerousSql query with
  | some capability =>
    (.error (.error (.unsupported capability.asStr)),
      { session with pgExtendedQuery := true, pgExtendedError := true }, p)
  | none =>
    clientWire [encodeParseComplete] (bufferFrame frame { session with pgExtendedQuery := true })
      { p with
        preparedParams := Function.update p.preparedParams statement (some (countPgPlaceholdersFrontend query))
        preparedColumns := Function.update p.preparedColumns statement (d.inferSelectResultColumns query)
        prepared := Function.update p.prepared statement (some query) }

def bindParameters (parameters : List (Option String)) : List GatewayValue :=
  parameters.map fun
    | none => .null
    | some s => .string s

/-- `FrontendMessage::Bind`.  The frame is buffered before the statement is looked up. -/
def decodeBind (p : PostgreSqlFrontend) (frame : ClientFrame) (portal statement : String)
    (parameters : List (Option String)) (resultFormats : List Int) (session : SessionState) : Decoded :=
  let session := bufferFrame frame { session with pgExtendedQuery := true }
  match p.prepared statement with
  | none =>
    (.error (.error (.protocol ("postgresql Bind: unknown statement '" ++ statement ++ "'"))),
      session, p)
  | some sql =>
    match bindArityError sql (bindParameters parameters) with
    | some e => (.error (.error e), session, p)
    | none =>
      clientWire [encodeBindComplete]
        { session with
          pgDropPortalHold := true
          pgPortalSkipRows := if session.pgPortalName = some portal then 0 else session.pgPortalSkipRows
          pgPortalName := some portal }
        { p with
          portalColumns := Function.update p.portalColumns portal (p.preparedColumns statement)
          portalRowDescribed := Function.update p.portalRowDescribed portal none
          suppressNextRowDescription := false
          portals := Function.update p.portals portal (some sql)
          portalArgs := Function.update p.portalArgs portal (some (bindParameters parameters))
          portalParams := Function.update p.portalParams portal
            (some ((p.preparedParams statement).getD (countPgPlaceholdersFrontend sql)))
          portalResultFormats := Function.update p.portalResultFormats portal (some resultFormats) }

def wantsBinary (formats : Option (List Int)) : Bool := (formats.getD []).any (· == 1)

/-- The parameter count that a Describe reports. -/
def describedParams (p : PostgreSqlFrontend) (target : DescribeTarget) (name : String) : Nat :=
  match target with
  | .statement =>
    ((p.preparedParams name).or ((p.prepared name).map countPgPlaceholdersFrontend)).getD 0
  | .portal => (p.portalParams name).getD 0

/-- The columns a Describe knows without asking. -/
def describedColumns (p : PostgreSqlFrontend) (target : DescribeTarget) (name : String) : List Column :=
  match target with
  | .statement => (p.preparedColumns name).getD []
  | .portal => (p.portalColumns name).getD []

def describedSql (p : PostgreSqlFrontend) (target : DescribeTarget) (name : String) : Option String :=
  match target with
  | .statement => p.prepared name
  | .portal => p.portals name

/-- The format of the described columns: a portal's own, text for a statement. -/
def describedFormat (p : PostgreSqlFrontend) (target : DescribeTarget) (name : String) : Int :=
  match target with
  | .statement => 0
  | .portal => if wantsBinary (p.portalResultFormats name) then 1 else 0

def paramDesc (p : PostgreSqlFrontend) (target : DescribeTarget) (name : String) : Option (List UInt8) :=
  match target with
  | .statement => some (encodeParameterDescription (describedParams p target name))
  | .portal => none

/-- The target has been described with columns. -/
def markDescribed (p : PostgreSqlFrontend) (target : DescribeTarget) (name : String) : PostgreSqlFrontend :=
  match target with
  | .statement =>
    { p with preparedRowDescribed := Function.update p.preparedRowDescribed name (some true) }
  | .portal => { p with portalRowDescribed := Function.update p.portalRowDescribed name (some true) }

/-- The target has been described without columns; only a portal's mark is taken back. -/
def unmarkDescribed (p : PostgreSqlFrontend) (target : DescribeTarget) (name : String) : PostgreSqlFrontend :=
  match target with
  | .statement => p
  | .portal => { p with portalRowDescribed := Function.update p.portalRowDescribed name none }

/-- `FrontendMessage::Describe`: answered from the tables, or by asking the backend for the columns. -/
def decodeDescribe (d : Dialect) (p : PostgreSqlFrontend) (frame : ClientFrame)
    (target : DescribeTarget) (name : String) (session : SessionState) : Decoded :=
  let session := bufferFrame frame session
  let columns := describedColumns p target name
  if columns.isEmpty then
    match describedSql p target name with
    | none =>
      clientWire ((paramDesc p target name).toList ++ [encodeNoData]) session
        (unmarkDescribed p target name)
    | some sql =>
      match looksLikeSelect sql with
      | none => (.error .panicked, session, p)
      | some true =>
        (.ok [.describeSql sql], session,
          { p with
            pendingDescribe := some ⟨target, name, paramDesc p target name, describedFormat p target name⟩ })
      | some false =>
        clientWire ((paramDesc p target name).toList ++ [encodeNoData]) session
          (unmarkDescribed p target name)
  else
    match d.encodeRowDescription columns (describedFormat p target name) with
    | .error e => (.error (.error e), session, p)
    | .ok packet =>
      clientWire ((paramDesc p target name).toList ++ [packet]) session (markDescribed p target name)

/-- The session after an Execute was buffered and its page noted. -/
def executeSession (frame : ClientFrame) (portal : String) (maxRows : Int) (session : SessionState) : SessionState :=
  { session with
    pgExtendedQuery := true
    -- under a hold the Parse and Bind frames were relayed already
    pgClientExtendedFrames := (if session.pgExtTcpHold then [] else session.pgClientExtendedFrames) ++ [frame]
    pgExecuteMaxRows := if 0 < maxRows then some maxRows.toNat else none
    resultTruncated := false
    pgPortalSkipRows := if session.pgPortalName = some portal then session.pgPortalSkipRows else 0
    pgPortalName := some portal }

/-- `FrontendMessage::Execute`: the portal's text, whatever it is, becomes a Query or a QueryParams. -/
def decodeExecute (p : PostgreSqlFrontend) (frame : ClientFrame) (portal : String) (maxRows : Int)
    (session : SessionState) : Decoded :=
  let session := executeSession frame portal maxRows session
  match p.portals portal with
  | none =>
    (.error (.error (.protocol ("postgresql Execute: unknown portal '" ++ portal ++ "'"))), session, p)
  | some sql =>
    let parameters := (p.portalArgs portal).getD []
    (.ok [if parameters.isEmpty then .query sql else .queryParams sql parameters],
      { session with preferBinaryResult := wantsBinary (p.portalResultFormats portal) },
      { p with
        portalRowDescribed := Function.update p.portalRowDescribed portal none
        suppressNextRowDescription := true })

/-- `FrontendMessage::Close`. -/
def decodeClose (p : PostgreSqlFrontend) (target : DescribeTarget) (name : String) (session : SessionState) : Decoded :=
  match target with
  | .statement =>
    clientWire [encodeCloseComplete] session
      { p with
        prepared := Function.update p.prepared name none
        preparedParams := Function.update p.preparedParams name none
        preparedColumns := Function.update p.preparedColumns name none
        preparedRowDescribed := Function.update p.preparedRowDescribed name none }
  | .portal =>
    clientWire [encodeCloseComplete]
      (if session.pgPortalName = some name then
        { session with pgPortalName := none, pgPortalSkipRows := 0, pgDropPortalHold := true }
      else session)
      { p with
        portals := Function.update p.portals name none
        portalArgs := Function.update p.portalArgs name none
        portalParams := Function.update p.portalParams name none
        portalResultFormats := Function.update p.portalResultFormats name none
        portalColumns := Function.update p.portalColumns name none
        portalRowDescribed := Function.update p.portalRowDescribed name none }

/-- Sync and Terminate end the state in which messages are ignored. -/
def endsIgnoring : FrontendMessage → Bool
  | .sync => true
  | .terminate => true
  | _ => false

/-- `decode` of a frame that was read as a message. -/
def decodeMessage (d : Dialect) (p : PostgreSqlFrontend) (frame : ClientFrame) (session : SessionState) : Decoded :=
  if session.pgExtendedError && !endsIgnoring frame.message then (.ok [], session, p)
  else
    match frame.message with
    | .query sql => decodeQuery p sql session
    | .terminate => (.ok [.quit], session, p)
    | .sync => decodeSync p session
    | .flush => (.ok [], session, p)
    | .parse statement query => decodeParse d p frame statement query session
    | .bind portal statement parameters resultFormats =>
      decodeBind p frame portal statement parameters resultFormats session
    | .describe target name => decodeDescribe d p frame target name session
    | .execute portal maxRows => decodeExecute p frame portal maxRows session
    | .close target name => decodeClose p target name session

/-- A frame from the client's socket: its first byte, and what `decode_frontend_message` reads from it. -/
structure RawFrame where
  tag : UInt8
  content : Except GatewayError ClientFrame

def decode (d : Dialect) (p : PostgreSqlFrontend) (frame : RawFrame) (session : SessionState) : Decoded :=
  match frame.content with
  | .error e => (.error (.error e), session, p)
  | .ok frame => decodeMessage d p frame session

/-- The first byte of a frame that holds the message. -/
def tagOf : FrontendMessage → UInt8
  | .query _ => 81
  | .terminate => 88
  | .sync => 83
  | .parse _ _ => 80
  | .bind _ _ _ _ => 66
  | .describe _ _ => 68
  | .execute _ _ => 69
  | .close _ _ => 67
  | .flush => 72

def ClientFrame.raw (f : ClientFrame) : RawFrame := ⟨tagOf f.message, .ok f⟩

/-! ## Answers -/

/-- What `encode` leaves behind: a result set uses up the suppression, a row description is cached. -/
def encoded (p : PostgreSqlFrontend) : GatewayResponse → PostgreSqlFrontend
  | .resultSet _ _ => { p with suppressNextRowDescription := false }
  | .rowDescription columns =>
    match p.pendingDescribe with
    | none =>
      if columns.isEmpty then { p with pendingDescribe := none }
      else
        { p with
          preparedColumns := Function.update p.preparedColumns "" (some columns)
          preparedRowDescribed := Function.update p.preparedRowDescribed "" (some true) }
    | some pending =>
      let p := { p with pendingDescribe := none }
      if columns.isEmpty then unmarkDescribed p pending.target pending.name
      else
        match pending.target with
        | .statement =>
          markDescribed
            { p with
              preparedColumns := Function.update p.preparedColumns pending.name (some columns) }
            .statement pending.name
        | .portal =>
          markDescribed
            { p with portalColumns := Function.update p.portalColumns pending.name (some columns) }
            .portal pending.name
  | _ => p

end DataNexus.Frontend
