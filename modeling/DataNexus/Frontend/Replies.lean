/-
  What a PostgreSQL client sees: the kinds of the messages it is sent.

  1. **ClientReply** — a message by its tag; of a RowDescription and a DataRow also the number of fields.
  2. **The encoders** — `encode` of each response, the RowDescription of a Describe, and the rows of a stream
     (`encode_pg_resultset_rows`), which refuses a row that is not as wide as its header.
  3. **What a Describe knows** (`Known`) — the columns kept for a statement or a portal are as many as its text has
     (`arity`).  Every message and every answer keeps it, if inference and server agree with `arity`.
-/
import DataNexus.Frontend.PostgreSql
import DataNexus.Stream.Streaming

namespace DataNexus.Frontend

open DataNexus.Text DataNexus.Backend DataNexus.Stream

/-! ## Replies -/

inductive ClientReply where
  | parseComplete
  | bindComplete
  | closeComplete
  | parameterDescription
  | rowDescription (fields : Nat)
  | noData
  | dataRow (fields : Nat)
  | commandComplete
  | portalSuspended
  | errorResponse
  | readyForQuery
  | other
deriving DecidableEq

/-- The big-endian `i16` that a body begins with. -/
def leadingCount (body : List UInt8) : Nat := (body.getD 0 0).toNat * 256 + (body.getD 1 0).toNat

/-- A packet by its tag; the body is behind tag and length. -/
def packetReply (packet : List UInt8) : ClientReply :=
  match packet.head? with
  | some 49 => .parseComplete
  | some 50 => .bindComplete
  | some 51 => .closeComplete
  | some 116 => .parameterDescription
  | some 84 => .rowDescription (leadingCount (packet.drop 5))
  | some 110 => .noData
  | some 68 => .dataRow (leadingCount (packet.drop 5))
  | some 67 => .commandComplete
  | some 115 => .portalSuspended
  | some 69 => .errorResponse
  | some 90 => .readyForQuery
  | _ => .other

def messageReply : ClientMessage → ClientReply
  | .rowDescription columns => .rowDescription columns.length
  | .dataRow body => .dataRow (leadingCount body)
  | .commandComplete _ => .commandComplete
  | .portalSuspended => .portalSuspended
  | .errorResponse _ _ => .errorResponse
  | .readyForQuery => .readyForQuery

/-! ## The encoders -/

def readyReply (session : SessionState) : List ClientReply := if session.pgExtendedQuery then [] else [.readyForQuery]

/-- `encode`, in kinds of messages. -/
def encodeReplies (p : PostgreSqlFrontend) (session : SessionState) : GatewayResponse → List ClientReply
  | .ok _ _ => .commandComplete :: readyReply session
  | .commandComplete _ => .commandComplete :: readyReply session
  | .pong => .commandComplete :: readyReply session
  | .bye => []
  | .error _ _ => .errorResponse :: readyReply session
  | .resultSet columns rows =>
    (if p.suppressNextRowDescription then [] else [.rowDescription columns.length]) ++
      rows.map (fun row => .dataRow row.length) ++ .commandComplete :: readyReply session
  -- the suppression is not asked for here
  | .taggedResultSet columns rows _ =>
    .rowDescription columns.length ::
      (rows.map (fun row => .dataRow row.length) ++ .commandComplete :: readyReply session)
  | .wire packets => packets.map packetReply
  | .prepared _ _ _ => .commandComplete :: readyReply session
  | .rowDescription columns =>
    ((p.pendingDescribe.bind PendingDescribe.paramDesc).map packetReply).toList ++
      [if columns.isEmpty then .noData else .rowDescription columns.length]

def gatewayValueToText (d : Display) : GatewayValue → Option (List UInt8)
  | .null => none
  | .boolean b => some [if b then 116 else 102]
  | .integer i => some (utf8 (toString i).toList)
  | .unsignedInteger n => some (utf8 (toString n).toList)
  | .float bits => some (utf8 (d.float bits).toList)
  | .decimal text => some (utf8 text.toList)
  | .string text => some (utf8 text.toList)
  | .bytes data => some data

/-- `gateway_value_to_pg_binary`, from the type of the column. -/
abbrev BinaryEncoder := (dataType : String) → GatewayValue → Except GatewayError (Option (List UInt8))

/-- `ProtocolError::InvalidLength` without an expected length. -/
def invalidLength (actual : Nat) : GatewayError := .protocol ("invalid postgresql packet length: " ++ toString actual)

/-- The loop of `encode_data_row`: every value behind its length, a NULL as -1. -/
def encodeCells : List (Option (List UInt8)) → Except GatewayError (List UInt8)
  | [] => .ok []
  | none :: cells => (encodeCells cells).map ([255, 255, 255, 255] ++ ·)
  | some value :: cells =>
    if value.length < 2147483648 then (encodeCells cells).map (be32 value.length ++ value ++ ·)
    else .error (invalidLength value.length)

def encodeDataRow (cells : List (Option (List UInt8))) : Except GatewayError ClientMessage :=
  if cells.length < 32768 then (encodeCells cells).map fun body => .dataRow (be16 cells.length ++ body)
  else .error (invalidLength cells.length)

def binaryCells (binary : BinaryEncoder) : List Column → Row → Except GatewayError (List (Option (List UInt8)))
  | column :: columns, value :: row =>
    match binary column.dataType value with
    | .error e => .error e
    | .ok cell => (binaryCells binary columns row).map (cell :: ·)
  | _, _ => .ok []

/-- A row of `encode_pg_resultset_rows`. -/
def encodePgResultsetRow (d : Display) (columns : List Column) (row : Row) : Except GatewayError ClientMessage :=
  if row.length = columns.length then encodeDataRow (row.map (gatewayValueToText d))
  else .error (.protocol ("postgresql resultset row has " ++ toString row.length ++ " values for "
    ++ toString columns.length ++ " columns"))

/-- A row of `encode_pg_resultset_rows_binary`. -/
def encodePgResultsetRowBinary (binary : BinaryEncoder) (columns : List Column) (row : Row) :
    Except GatewayError ClientMessage :=
  if row.length = columns.length then
    match binaryCells binary columns row with
    | .error e => .error e
    | .ok cells => encodeDataRow cells
  else .error (.protocol ("postgresql binary resultset row has " ++ toString row.length ++ " values for "
    ++ toString columns.length ++ " columns"))

/-- `encode_resultset_header`: the suppressed header is empty. -/
def encodeResultsetHeader (p : PostgreSqlFrontend) (columns : List Column) :
    Except GatewayError (List ClientMessage) :=
  if p.suppressNextRowDescription then .ok []
  else if columns.length < 32768 then .ok [.rowDescription columns]
  else .error (invalidLength columns.length)

/-- `FieldDescription`; the type modifier is -1 always. -/
structure FieldDescription where
  name : String
  typeOid : Nat
  typeSize : Int
  formatCode : Int

def postgresqlTypeInfo (dataType : String) : Nat × Int :=
  match String.ofList (toAsciiLowercase dataType.toList) with
  | "bool" | "boolean" => (16, 1)
  | "int2" | "smallint" => (21, 2)
  | "int" | "int4" | "integer" => (23, 4)
  | "int8" | "bigint" => (20, 8)
  | "float4" | "real" => (700, 4)
  | "float8" | "double" | "double precision" => (701, 8)
  | "numeric" | "decimal" => (1700, -1)
  | "date" => (1082, 4)
  | "time" => (1083, 8)
  | "timestamp" => (1114, 8)
  | "timestamptz" => (1184, 8)
  | "bytea" | "bytes" | "binary" | "varbinary" => (17, -1)
  | "varchar" | "char" | "bpchar" => (1043, -1)
  | _ => (25, -1)

/-- `gateway_column_to_postgresql_field`, in a format. -/
def gatewayColumnToPostgresqlField (formatCode : Int) (column : Column) : FieldDescription :=
  ⟨column.name, (postgresqlTypeInfo column.dataType).1, (postgresqlTypeInfo column.dataType).2, formatCode⟩

/-- `i16::to_be_bytes` of a number that may be negative. -/
def signed16 (n : Int) : List UInt8 := be16 (n % 65536).toNat

/-- A field of `encode_row_description`. -/
def encodeField (field : FieldDescription) : List UInt8 :=
  utf8 field.name.toList ++ [0] ++ be32 0 ++ be16 0 ++ be32 field.typeOid ++ signed16 field.typeSize ++
    [255, 255, 255, 255] ++ signed16 field.formatCode

def encodeRowDescription (fields : List FieldDescription) : Except GatewayError (List UInt8) :=
  if fields.length < 32768 then .ok (encodeMessage 84 (be16 fields.length ++ (fields.map encodeField).flatten))
  else .error (invalidLength fields.length)

/-- The SQL analysis with the frontend's own RowDescription. -/
def describing (d : Dialect) : Dialect :=
  { d with encodeRowDescription := fun columns formatCode =>
      encodeRowDescription (columns.map (gatewayColumnToPostgresqlField formatCode)) }

/-! ## The counts in the packets -/

theorem leadingCount_be16 {n : Nat} (h : n < 32768) (body : List UInt8) : leadingCount (be16 n ++ body) = n := by
  have hhigh : (UInt8.ofNat (n / 256)).toNat = n / 256 := by
    rw [UInt8.toNat_ofNat']
    omega
  have hlow : (UInt8.ofNat n).toNat = n % 256 := UInt8.toNat_ofNat'
  show (UInt8.ofNat (n / 256)).toNat * 256 + (UInt8.ofNat n).toNat = n
  rw [hhigh, hlow]
  omega

/-- **A RowDescription names its columns**: the client reads as many fields as the Describe knows. -/
theorem packetReply_of_describing {d : Dialect} {columns : List Column} {formatCode : Int} {packet : List UInt8}
    (h : (describing d).encodeRowDescription columns formatCode = .ok packet) :
    packetReply packet = .rowDescription columns.length := by
  have h' : encodeRowDescription (columns.map (gatewayColumnToPostgresqlField formatCode)) = .ok packet := h
  unfold encodeRowDescription at h'
  rw [List.length_map] at h'
  split at h'
  · rename_i hcount
    injection h' with hpacket
    rw [← hpacket]
    exact congrArg ClientReply.rowDescription (leadingCount_be16 hcount _)
  · cases h'

theorem messageReply_of_dataRow {cells : List (Option (List UInt8))} {message : ClientMessage}
    (h : encodeDataRow cells = .ok message) : messageReply message = .dataRow cells.length := by
  unfold encodeDataRow at h
  split at h
  · rename_i hcount
    cases hbody : encodeCells cells with
    | error e =>
      rw [hbody] at h
      cases h
    | ok body =>
      rw [hbody] at h
      cases h
      exact congrArg ClientReply.dataRow (leadingCount_be16 hcount body)
  · cases h

theorem length_binaryCells {binary : BinaryEncoder} {columns : List Column} {row : Row}
    {cells : List (Option (List UInt8))} (hwidth : row.length = columns.length)
    (h : binaryCells binary columns row = .ok cells) : cells.length = columns.length := by
  induction columns generalizing row cells with
  | nil =>
    cases h
    rfl
  | cons column columns ih =>
    cases row with
    | nil => cases hwidth
    | cons value row =>
      unfold binaryCells at h
      split at h
      · cases h
      · cases hrest : binaryCells binary columns row with
        | error e =>
          rw [hrest] at h
          cases h
        | ok rest =>
          rw [hrest] at h
          cases h
          rw [List.length_cons, List.length_cons, ih (Nat.succ.inj hwidth) hrest]

/-- **A row goes out with as many fields as its header has columns**, in either format. -/
theorem messageReply_of_row {d : Display} {columns : List Column} {row : Row} {message : ClientMessage}
    (h : encodePgResultsetRow d columns row = .ok message) : messageReply message = .dataRow columns.length := by
  unfold encodePgResultsetRow at h
  split at h
  · rename_i hwidth
    rw [messageReply_of_dataRow h, List.length_map, hwidth]
  · cases h

theorem messageReply_of_binaryRow {binary : BinaryEncoder} {columns : List Column} {row : Row}
    {message : ClientMessage} (h : encodePgResultsetRowBinary binary columns row = .ok message) :
    messageReply message = .dataRow columns.length := by
  unfold encodePgResultsetRowBinary at h
  split at h
  · rename_i hwidth
    cases hcells : binaryCells binary columns row with
    | error e =>
      rw [hcells] at h
      cases h
    | ok cells =>
      rw [hcells] at h
      rw [messageReply_of_dataRow h, length_binaryCells hwidth hcells]
  · cases h

/-! ## What a Describe knows -/

/-- The columns kept for a statement or a portal are those of its text; `arity` is how many columns a text
    has. -/
structure Known (arity : String → Nat) (p : PostgreSqlFrontend) : Prop where
  statement : ∀ name columns, p.preparedColumns name = some columns →
    ∃ sql, p.prepared name = some sql ∧ columns.length = arity sql
  portal : ∀ name columns, p.portalColumns name = some columns →
    ∃ sql, p.portals name = some sql ∧ columns.length = arity sql

section Known

variable {arity : String → Nat} {p : PostgreSqlFrontend}

theorem known_new : Known arity .new := ⟨nofun, nofun⟩

theorem Known.described (h : Known arity p) {target : DescribeTarget} {name : String}
    (hcolumns : (describedColumns p target name).isEmpty = false) :
    ∃ sql, describedSql p target name = some sql ∧ (describedColumns p target name).length = arity sql := by
  cases target with
  | statement =>
    unfold describedColumns at hcolumns ⊢
    cases hkept : p.preparedColumns name with
    | none =>
      rw [hkept] at hcolumns
      cases hcolumns
    | some columns => exact h.statement name columns hkept
  | portal =>
    unfold describedColumns at hcolumns ⊢
    cases hkept : p.portalColumns name with
    | none =>
      rw [hkept] at hcolumns
      cases hcolumns
    | some columns => exact h.portal name columns hkept

variable {p' : PostgreSqlFrontend}

theorem Known.update_statement (h : Known arity p) {name : String} {text : Option String}
    {columns : Option (List Column)} (hprepared : p'.prepared = Function.update p.prepared name text)
    (hcolumns : p'.preparedColumns = Function.update p.preparedColumns name columns)
    (hportals : p'.portals = p.portals) (hportalColumns : p'.portalColumns = p.portalColumns)
    (hnew : ∀ kept, columns = some kept → ∃ sql, text = some sql ∧ kept.length = arity sql) : Known arity p' := by
  refine ⟨fun other kept hkept => ?_, fun other kept hkept => ?_⟩
  · rw [hcolumns, Function.update_apply] at hkept
    rw [hprepared, Function.update_apply]
    by_cases heq : other = name
    · rw [if_pos heq] at hkept ⊢
      exact hnew kept hkept
    · rw [if_neg heq] at hkept ⊢
      exact h.statement other kept hkept
  · rw [hportalColumns] at hkept
    rw [hportals]
    exact h.portal other kept hkept

theorem Known.update_portal (h : Known arity p) {name : String} {text : Option String}
    {columns : Option (List Column)} (hportals : p'.portals = Function.update p.portals name text)
    (hcolumns : p'.portalColumns = Function.update p.portalColumns name columns)
    (hprepared : p'.prepared = p.prepared) (hpreparedColumns : p'.preparedColumns = p.preparedColumns)
    (hnew : ∀ kept, columns = some kept → ∃ sql, text = some sql ∧ kept.length = arity sql) : Known arity p' := by
  refine ⟨fun other kept hkept => ?_, fun other kept hkept => ?_⟩
  · rw [hpreparedColumns] at hkept
    rw [hprepared]
    exact h.statement other kept hkept
  · rw [hcolumns, Function.update_apply] at hkept
    rw [hportals, Function.update_apply]
    by_cases heq : other = name
    · rw [if_pos heq] at hkept ⊢
      exact hnew kept hkept
    · rw [if_neg heq] at hkept ⊢
      exact h.portal other kept hkept

theorem Known.congr (h : Known arity p) (hprepared : p'.prepared = p.prepared)
    (hpreparedColumns : p'.preparedColumns = p.preparedColumns) (hportals : p'.portals = p.portals)
    (hportalColumns : p'.portalColumns = p.portalColumns) : Known arity p' := by
  refine ⟨?_, ?_⟩
  · rw [hprepared, hpreparedColumns]
    exact h.statement
  · rw [hportals, hportalColumns]
    exact h.portal

theorem known_markDescribed (h : Known arity p) (target : DescribeTarget) (name : String) :
    Known arity (markDescribed p target name) := by
  cases target with
  | statement => exact h.congr rfl rfl rfl rfl
  | portal => exact h.congr rfl rfl rfl rfl

theorem known_unmarkDescribed (h : Known arity p) (target : DescribeTarget) (name : String) :
    Known arity (unmarkDescribed p target name) := by
  cases target with
  | statement => exact h
  | portal => exact h.congr rfl rfl rfl rfl

variable (d : Dialect) {f : ClientFrame} {session : SessionState}

theorem known_decodeBind (h : Known arity p) (portal statement : String) (parameters : List (Option String))
    (formats : List Int) : Known arity (decodeBind p f portal statement parameters formats session).2.2 := by
  unfold decodeBind
  dsimp only
  cases hprepared : p.prepared statement with
  | none => exact h
  | some sql =>
    dsimp only
    cases bindArityError sql (bindParameters parameters) with
    | some e => exact h
    | none =>
      refine h.update_portal rfl rfl rfl rfl ?_
      intro kept hkept
      obtain ⟨text, htext, hlength⟩ := h.statement statement kept hkept
      rw [hprepared] at htext
      exact ⟨text, htext, hlength⟩

theorem known_decodeDescribe (h : Known arity p) (target : DescribeTarget) (name : String) :
    Known arity (decodeDescribe d p f target name session).2.2 := by
  unfold decodeDescribe
  dsimp only
  split
  · cases describedSql p target name with
    | none => exact known_unmarkDescribed h target name
    | some sql =>
      dsimp only
      rcases looksLikeSelect sql with _ | _ | _
      · exact h
      · exact known_unmarkDescribed h target name
      · exact h.congr rfl rfl rfl rfl
  · cases d.encodeRowDescription (describedColumns p target name) (describedFormat p target name) with
    | error e => exact h
    | ok packet => exact known_markDescribed h target name

theorem known_decodeClose (h : Known arity p) (target : DescribeTarget) (name : String) :
    Known arity (decodeClose p target name session).2.2 := by
  cases target with
  | statement => exact h.update_statement rfl rfl rfl rfl nofun
  | portal => exact h.update_portal rfl rfl rfl rfl nofun

/-- **Decoding keeps what is known**, if the columns inferred from a text are as many as it has. -/
theorem known_decodeMessage (h : Known arity p)
    (hinfer : ∀ statement query columns, f.message = .parse statement query →
      d.inferSelectResultColumns query = some columns → columns.length = arity query) :
    Known arity (decodeMessage d p f session).2.2 := by
  unfold decodeMessage
  split
  · exact h
  · cases hm : f.message with
    | query sql => exact h.congr rfl rfl rfl rfl
    | terminate => exact h
    | sync =>
      show Known arity (decodeSync p session).2.2
      unfold decodeSync
      dsimp only
      split
      · exact h.congr rfl rfl rfl rfl
      · exact h.congr rfl rfl rfl rfl
    | flush => exact h
    | parse statement query =>
      show Known arity (decodeParse d p f statement query session).2.2
      unfold decodeParse
      cases d.classifyDangerousSql query with
      | some capability => exact h
      | none =>
        refine h.update_statement rfl rfl rfl rfl ?_
        intro kept hkept
        exact ⟨query, rfl, hinfer statement query kept hm hkept⟩
    | bind portal statement parameters formats => exact known_decodeBind h portal statement parameters formats
    | describe target name => exact known_decodeDescribe d h target name
    | execute portal maxRows =>
      show Known arity (decodeExecute p f portal maxRows session).2.2
      unfold decodeExecute
      cases p.portals portal with
      | none => exact h
      | some sql => exact h.congr rfl rfl rfl rfl
    | close target name => exact known_decodeClose h target name

/-- **Answering keeps it**, if the columns told for the pending Describe are as many as its text has. -/
theorem known_encoded (h : Known arity p) {response : GatewayResponse}
    (htold : ∀ columns, response = .rowDescription columns → ∃ pending, p.pendingDescribe = some pending ∧
        ∃ sql, describedSql p pending.target pending.name = some sql ∧ columns.length = arity sql) :
    Known arity (encoded p response) := by
  cases response with
  | resultSet columns rows => exact h.congr rfl rfl rfl rfl
  | rowDescription columns =>
    obtain ⟨pending, hpending, htext⟩ := htold columns rfl
    have hcleared : Known arity { p with pendingDescribe := none } := h.congr rfl rfl rfl rfl
    unfold encoded
    rw [hpending]
    dsimp only
    split
    · exact known_unmarkDescribed hcleared pending.target pending.name
    · cases htarget : pending.target with
      | statement =>
        rw [htarget] at htext
        have hcached : Known arity { p with
            pendingDescribe := none
            preparedColumns := Function.update p.preparedColumns pending.name (some columns) } := by
          refine h.update_statement (Function.update_eq_self pending.name p.prepared).symm rfl rfl rfl ?_
          intro kept hkept
          rw [← Option.some.inj hkept]
          exact htext
        exact known_markDescribed hcached .statement pending.name
      | portal =>
        rw [htarget] at htext
        have hcached : Known arity { p with
            pendingDescribe := none
            portalColumns := Function.update p.portalColumns pending.name (some columns) } := by
          refine h.update_portal (Function.update_eq_self pending.name p.portals).symm rfl rfl rfl ?_
          intro kept hkept
          rw [← Option.some.inj hkept]
          exact htext
        exact known_markDescribed hcached .portal pending.name
  | _ => exact h

end Known

end DataNexus.Frontend
