/-
  Rows of the binary protocol of MySQL: what the frontend writes (`frontend/mysql.rs`), and the decoder for it
  (`backend/mysql.rs`).

  1. **Program** — `encodeBinaryRow`, `mysqlColumnType` for the header, `binaryRowToGatewayValues`.

  2. **Specification** — `SameValue`: one value up to its text.  `Decodes`: the row is read to its end, and every cell has
     its value.

  3. **The condition** — `Fits`: a number stands in a column of its width and range, a text in no column of numbers, a date
     or a time loses no digit.  A row of fitting cells decodes, and a row of one cell only if the cell fits
     (`row_self_consistent`); in a longer row two cells can make up for each other.
-/
import DataNexus.Lib.Fallible
import DataNexus.Lib.Utf8
import DataNexus.Model
import DataNexus.Frontend.Temporal

namespace DataNexus.BinaryRows

open DataNexus.Text DataNexus.Utf8 DataNexus.LittleEndian DataNexus.Fallible
open DataNexus.Temporal (Kind Moment momentOf framed)

/-- `f64 as f32`, `f32 as f64`, and what `String::from_utf8_lossy` makes of bytes that are no UTF-8. -/
structure Conversions where
  narrow : UInt64 → UInt32
  widen : UInt32 → UInt64
  replaced : List UInt8 → String
  marked : ∀ bytes, fromUtf8 bytes = none → (Char.ofNat 0xFFFD) ∈ (replaced bytes).toList

/-- `String::from_utf8_lossy`. -/
def Conversions.lossy (cv : Conversions) (bytes : List UInt8) : String := (fromUtf8 bytes).getD (cv.replaced bytes)

/-! ## The header -/

inductive ColumnType where
  | decimal
  | tiny
  | short
  | long
  | float
  | double
  | null
  | timestamp
  | longLong
  | int24
  | date
  | time
  | datetime
  | year
  | newDate
  | varchar
  | bit
  | newDecimal
  | enum
  | set
  | tinyBlob
  | mediumBlob
  | longBlob
  | blob
  | varString
  | string
  | geometry
deriving DecidableEq

/-- `ColumnInfo`, as far as rows are read by it. -/
structure ColumnInfo where
  columnType : ColumnType
  columnFlag : Nat
deriving DecidableEq

def mysqlColumnType (dataType : String) : ColumnType :=
  let dt := lower dataType
  if dt ∈ ["tiny", "int1", "bool", "boolean"] then .tiny
  else if dt ∈ ["short", "int2", "smallint"] then .short
  else if dt ∈ ["long", "int", "int4", "integer"] then .long
  else if dt ∈ ["longlong", "int8", "bigint"] then .longLong
  else if dt ∈ ["float", "float4"] then .float
  else if dt ∈ ["double", "float8"] then .double
  else if dt ∈ ["decimal", "numeric", "new_decimal"] then .newDecimal
  else if dt = "date" then .date
  else if dt = "time" then .time
  else if dt = "datetime" then .datetime
  else if dt ∈ ["timestamp", "timestamptz"] then .timestamp
  else if dt ∈ ["blob", "bytea", "bytes", "binary", "varbinary"] then .blob
  else .varString

def gatewayColumnToMysqlColumn (column : Column) : ColumnInfo := ⟨mysqlColumnType column.dataType, 0⟩

/-! ## Writing -/

/-- `put_lenc_int(n, true)`. -/
def putLencInt (n : Nat) : List UInt8 :=
  if n ≤ 250 then [UInt8.ofNat n]
  else if n ≤ 0xffff then 0xfc :: le 2 n
  else if n ≤ 0xffffff then 0xfd :: le 3 n
  else 0xfe :: le 8 n

def lenc (bytes : List UInt8) : List UInt8 := putLencInt bytes.length ++ bytes

/-- The bytes of `GatewayValue::Integer`. -/
def integerWidth (dataType : String) : Nat :=
  let dt := lower dataType
  if dt ∈ ["tiny", "int1", "bool", "boolean"] then 1
  else if dt ∈ ["short", "int2", "smallint", "year"] then 2
  else if dt ∈ ["longlong", "int8", "bigint"] then 8
  else 4

/-- The bytes of `GatewayValue::UnsignedInteger`. -/
def unsignedWidth (dataType : String) : Nat :=
  let dt := lower dataType
  if dt ∈ ["tiny", "int1"] then 1
  else if dt ∈ ["short", "int2", "smallint"] then 2
  else if dt ∈ ["longlong", "int8", "bigint"] then 8
  else 4

def isDouble (dataType : String) : Bool := lower dataType ∈ ["double", "float8"]

/-- The texts that are written as a date or a time. -/
def textKind (dataType : String) : Option Kind :=
  let dt := lower dataType
  if dt = "date" then some .date
  else if dt ∈ ["datetime", "timestamp", "timestamptz"] then some .datetime
  else if dt = "time" then some .time
  else none

/-- `encode_binary_value` for a text. -/
def encodeText (s dataType : String) : Except String (List UInt8) :=
  match textKind dataType with
  | some kind => Temporal.encode s.toList kind
  | none => .ok (lenc (toUtf8 s))

def encodeBinaryValue (cv : Conversions) (value : GatewayValue) (dataType : String) : Except String (List UInt8) :=
  match value with
  | .null => .ok []
  | .boolean b => .ok [if b then 1 else 0]
  | .integer i => .ok (leInt (integerWidth dataType) i)
  | .unsignedInteger u => .ok (le (unsignedWidth dataType) u)
  | .float bits => .ok (if isDouble dataType then le 8 bits.toNat else le 4 (cv.narrow bits).toNat)
  | .decimal s => encodeText s dataType
  | .string s => encodeText s dataType
  | .bytes b => .ok (lenc b)

/-- `null_bitmap[bit / 8] |= 1 << (bit % 8)`. -/
def setBit (bitmap : List UInt8) (bit : Nat) : List UInt8 :=
  bitmap.modify (bit / 8) (· ||| ((1 : UInt8) <<< UInt8.ofNat (bit % 8)))

/-- `null_bitmap[bit / 8] & (1 << (bit % 8)) != 0`. -/
def hasBit (bitmap : List UInt8) (bit : Nat) : Bool :=
  (bitmap.getD (bit / 8) 0 &&& ((1 : UInt8) <<< UInt8.ofNat (bit % 8))) != 0

/-- The loop that marks the NULLs, from a column on; the bits start at 2. -/
def markNulls (bitmap : List UInt8) : Nat → List GatewayValue → List UInt8
  | _, [] => bitmap
  | i, value :: row => markNulls (if value = .null then setBit bitmap (i + 2) else bitmap) (i + 1) row

def nullLen (columns : Nat) : Nat := (columns + 7 + 2) / 8

def encodeBinaryRow (cv : Conversions) (row : List GatewayValue) (columns : List Column) :
    Except String (List UInt8) :=
  if row.length ≠ columns.length then
    .error ("mysql binary resultset row has " ++ toString row.length ++ " values for " ++ toString columns.length ++
      " columns")
  else do
    let cells ← (columns.zip row).mapM fun cell => encodeBinaryValue cv cell.2 cell.1.dataType
    return 0 :: (markNulls (List.replicate (nullLen columns.length) 0) 0 row ++ cells.flatten)

/-! ## Reading -/

/-- `ColumnFlag::UNSIGNED_FLAG` is set. -/
def ColumnInfo.isUnsigned (column : ColumnInfo) : Bool := (column.columnFlag &&& 32) > 0

def decodeInteger (width : Nat) (name : String) (data : List UInt8) (column : ColumnInfo) :
    Except String (GatewayValue × Nat) :=
  if data.length < width then .error ("mysql binary " ++ name ++ " truncated")
  else if column.isUnsigned then .ok (.unsignedInteger (ofLe (data.take width)), width)
  else .ok (.integer (signed (256 ^ width) (ofLe (data.take width))), width)

/-- What follows the header of `decode_lenc_bytes`. -/
def decodeLencBody (data : List UInt8) (len hdr : Nat) : Except String (List UInt8 × Nat) :=
  if data.length < hdr + len then .error "mysql lenc value exceeds packet"
  else .ok ((data.drop hdr).take len, hdr + len)

def decodeLencBytes (data : List UInt8) : Except String (List UInt8 × Nat) :=
  match data with
  | [] => .error "mysql lenc empty"
  | b :: rest =>
    if b = 0xfb then .ok ([], 1)
    else if b < 0xfb then decodeLencBody data b.toNat 1
    else if b = 0xfc then
      if data.length < 3 then .error "mysql lenc 0xfc truncated" else decodeLencBody data (ofLe (rest.take 2)) 3
    else if b = 0xfd then
      if data.length < 4 then .error "mysql lenc 0xfd truncated" else decodeLencBody data (ofLe (rest.take 3)) 4
    else if b = 0xfe then
      if data.length < 9 then .error "mysql lenc 0xfe truncated" else decodeLencBody data (ofLe (rest.take 8)) 9
    else .error "mysql lenc unexpected prefix 0xff"

def ColumnType.kind : ColumnType → Option Kind
  | .time => some .time
  | .date | .newDate => some .date
  | .datetime | .timestamp => some .datetime
  | _ => none

def decodeTemporal (kind : Kind) : List UInt8 → Except String (GatewayValue × Nat)
  | [] => .error "mysql binary date/time truncated"
  | len :: rest =>
    if rest.length < len.toNat then .error "mysql binary date/time length exceeds packet"
    else do
      let text ← Temporal.decode (rest.take len.toNat) kind
      return (.string (String.ofList text), 1 + len.toNat)

def textValue (cv : Conversions) (bytes : List UInt8) : ColumnType → GatewayValue
  | .blob | .tinyBlob | .mediumBlob | .longBlob => .bytes bytes
  | .decimal | .newDecimal => .decimal (cv.lossy bytes)
  | _ => .string (cv.lossy bytes)

def decodeBinaryResultValue (cv : Conversions) (data : List UInt8) (column : ColumnInfo) :
    Except String (GatewayValue × Nat) :=
  match column.columnType with
  | .tiny => decodeInteger 1 "TINY" data column
  | .short | .year => decodeInteger 2 "SHORT" data column
  | .long | .int24 => decodeInteger 4 "LONG" data column
  | .longLong => decodeInteger 8 "LONGLONG" data column
  | .float =>
    if data.length < 4 then .error "mysql binary FLOAT truncated"
    else .ok (.float (cv.widen (UInt32.ofNat (ofLe (data.take 4)))), 4)
  | .double =>
    if data.length < 8 then .error "mysql binary DOUBLE truncated"
    else .ok (.float (UInt64.ofNat (ofLe (data.take 8))), 8)
  | .time => decodeTemporal .time data
  | .date | .newDate => decodeTemporal .date data
  | .datetime | .timestamp => decodeTemporal .datetime data
  | .string | .varString | .varchar | .blob | .tinyBlob | .mediumBlob | .longBlob | .decimal | .newDecimal | .enum
  | .set | .bit | .geometry | .null => do
    let (bytes, n) ← decodeLencBytes data
    return (textValue cv bytes column.columnType, n)

/-- `{:02x}`. -/
def hexByte (b : UInt8) : String := String.ofList [Nat.digitChar (b.toNat / 16), Nat.digitChar (b.toNat % 16)]

/-- The loop over the columns, from one on; with the values comes what is left of the row. -/
def decodeCells (cv : Conversions) (bitmap : List UInt8) :
    Nat → List ColumnInfo → List UInt8 → Except String (List GatewayValue × List UInt8)
  | _, [], data => .ok ([], data)
  | i, column :: columns, data =>
    if hasBit bitmap (i + 2) then do
      let (values, rest) ← decodeCells cv bitmap (i + 1) columns data
      return (.null :: values, rest)
    else do
      let (value, consumed) ← decodeBinaryResultValue cv data column
      let (values, rest) ← decodeCells cv bitmap (i + 1) columns (data.drop consumed)
      return (value :: values, rest)

/-- `binary_row_to_gateway_values`; what is left of the row is not looked at. -/
def binaryRowToGatewayValues (cv : Conversions) (row : List UInt8) (columns : List ColumnInfo) :
    Except String (List GatewayValue × List UInt8) :=
  match row with
  | [] => .error "mysql binary row payload is empty"
  | header :: data =>
    if data.length < nullLen columns.length then .error "mysql binary row shorter than null bitmap"
    else if header ≠ 0 then .error ("mysql binary row header expected 0x00, got 0x" ++ hexByte header)
    else decodeCells cv (data.take (nullLen columns.length)) 0 columns (data.drop (nullLen columns.length))

/-! ## One value -/

/-- The text of a value that is neither NULL nor a float, as bytes. -/
def textForm : GatewayValue → Option (List UInt8)
  | .null => none
  | .boolean b => some (utf8 (if b then ['1'] else ['0']))
  | .integer i => some (utf8 (decimal i))
  | .unsignedInteger u => some (utf8 (decimal u))
  | .float _ => none
  | .decimal s => some (toUtf8 s)
  | .string s => some (toUtf8 s)
  | .bytes b => some b

def textOf : GatewayValue → Option (List Char)
  | .decimal s => some s.toList
  | .string s => some s.toList
  | _ => none

/-- One value up to its text; in a column of dates or times, what the text denotes. -/
def SameValue (kind : Option Kind) (v w : GatewayValue) : Prop :=
  (v = .null ∧ w = .null) ∨
    match kind with
    | none => (∃ bits, v = .float bits ∧ w = .float bits) ∨ ∃ text, textForm v = some text ∧ textForm w = some text
    | some kind => ∃ s t m, textOf v = some s ∧ textOf w = some t ∧ momentOf s kind = some m ∧ momentOf t kind = some m

/-- The row decodes under the types of its header: nothing is left of it, and every cell has its value. -/
def Decodes (cv : Conversions) (columns : List Column) (row : List GatewayValue) (packet : List UInt8) : Prop :=
  ∃ values, binaryRowToGatewayValues cv packet (columns.map gatewayColumnToMysqlColumn) = .ok (values, []) ∧
    List.Forall₂ (fun (cell : Column × GatewayValue) value =>
      SameValue (mysqlColumnType cell.1.dataType).kind cell.2 value) (columns.zip row) values

/-! ## The condition -/

def ColumnType.width : ColumnType → Option Nat
  | .tiny => some 1
  | .short => some 2
  | .long => some 4
  | .longLong => some 8
  | _ => none

/-- The types of texts that the header announces. -/
def ColumnType.isText : ColumnType → Bool
  | .newDecimal | .varString | .blob => true
  | _ => false

/-- A text fits a column of texts; as a date or a time it loses no digit of its fraction. -/
def TextFits (s : String) (type : ColumnType) : Prop :=
  match type.kind with
  | some kind => ∃ m, momentOf s.toList kind = some m ∧ m.fraction.length ≤ 6
  | none => type.isText = true ∧ (toUtf8 s).length < 2 ^ 64

def Fits (cv : Conversions) (dataType : String) : GatewayValue → Prop
  | .null => True
  | .boolean _ => mysqlColumnType dataType = .tiny
  | .integer i =>
    ∃ w, (mysqlColumnType dataType).width = some w ∧ -((256 ^ w : Nat) : Int) ≤ 2 * i ∧ 2 * i < (256 ^ w : Nat)
  | .unsignedInteger u =>
    lower dataType ∉ ["bool", "boolean"] ∧ ∃ w, (mysqlColumnType dataType).width = some w ∧ 2 * u < 256 ^ w
  | .float bits =>
    mysqlColumnType dataType = .double ∨ (mysqlColumnType dataType = .float ∧ cv.widen (cv.narrow bits) = bits)
  | .decimal s => TextFits s (mysqlColumnType dataType)
  | .string s => TextFits s (mysqlColumnType dataType)
  | .bytes b =>
    (mysqlColumnType dataType).isText = true ∧ b.length < 2 ^ 64 ∧
      (mysqlColumnType dataType = .blob ∨ (fromUtf8 b).isSome = true)

/-! ## The two tables -/

structure Profile where
  type : ColumnType
  integer : Nat
  unsigned : Nat
  double : Bool
  text : Option Kind
  bool : Bool
deriving DecidableEq

def profile (dataType : String) : Profile :=
  ⟨mysqlColumnType dataType, integerWidth dataType, unsignedWidth dataType, isDouble dataType, textKind dataType,
    decide (lower dataType ∈ ["bool", "boolean"])⟩

def profiles : List Profile :=
  [⟨.tiny, 1, 1, false, none, false⟩, ⟨.tiny, 1, 4, false, none, true⟩, ⟨.short, 2, 2, false, none, false⟩,
    ⟨.long, 4, 4, false, none, false⟩, ⟨.longLong, 8, 8, false, none, false⟩, ⟨.float, 4, 4, false, none, false⟩,
    ⟨.double, 4, 4, true, none, false⟩, ⟨.newDecimal, 4, 4, false, none, false⟩,
    ⟨.date, 4, 4, false, some .date, false⟩, ⟨.time, 4, 4, false, some .time, false⟩,
    ⟨.datetime, 4, 4, false, some .datetime, false⟩, ⟨.timestamp, 4, 4, false, some .datetime, false⟩,
    ⟨.blob, 4, 4, false, none, false⟩, ⟨.varString, 2, 4, false, none, false⟩, ⟨.varString, 4, 4, false, none, false⟩]

def typeNames : List String :=
  ["tiny", "int1", "bool", "boolean", "short", "int2", "smallint", "year", "long", "int", "int4", "integer", "longlong",
    "int8", "bigint", "float", "float4", "double", "float8", "decimal", "numeric", "new_decimal", "date", "time",
    "datetime", "timestamp", "timestamptz", "blob", "bytea", "bytes", "binary", "varbinary"]

theorem profile_mem (dataType : String) : profile dataType ∈ profiles := by
  unfold profile mysqlColumnType integerWidth unsignedWidth isDouble textKind
  generalize lower dataType = dt
  by_cases h : dt ∈ typeNames
  · revert dt
    decide
  · have hrest : (⟨.varString, 4, 4, false, none, false⟩ : Profile) ∈ profiles := by decide
    simp only [typeNames, List.mem_cons, not_or] at h
    simpa [h] using hrest

/-! ## Lengths are read back -/

theorem decodeLencBody_append (hdr bytes rest : List UInt8) :
    decodeLencBody (hdr ++ bytes ++ rest) bytes.length hdr.length = .ok (bytes, (hdr ++ bytes).length) := by
  unfold decodeLencBody
  rw [if_neg (by rw [List.length_append, List.length_append]; omega), List.append_assoc, List.drop_left,
    List.take_left, List.length_append]

/-- **A text of bytes is read back.** -/
theorem decodeLencBytes_lenc {bytes : List UInt8} (h : bytes.length < 2 ^ 64) (rest : List UInt8) :
    decodeLencBytes (lenc bytes ++ rest) = .ok (bytes, (lenc bytes).length) := by
  unfold lenc putLencInt
  split
  · rename_i hlen
    have hbyte : (UInt8.ofNat bytes.length).toNat = bytes.length := Temporal.toNat_ofNat_of_le (by omega)
    have hlt : UInt8.ofNat bytes.length < 0xfb := by
      rw [UInt8.lt_iff_toNat_lt, hbyte]
      exact Nat.lt_succ_of_le hlen
    have hne : UInt8.ofNat bytes.length ≠ 0xfb := by
      intro heq
      rw [heq] at hlt
      exact absurd hlt (by decide)
    have hbody := decodeLencBody_append [UInt8.ofNat bytes.length] bytes rest
    show decodeLencBytes (UInt8.ofNat bytes.length :: (bytes ++ rest)) = _
    unfold decodeLencBytes
    dsimp only
    rw [if_neg hne, if_pos hlt, hbyte]
    exact hbody
  · split
    · rename_i hlen
      have hbody := decodeLencBody_append (0xfc :: le 2 bytes.length) bytes rest
      have hvalue : ofLe (le 2 bytes.length) = bytes.length := ofLe_le_of_lt (by omega)
      show decodeLencBytes (0xfc :: (le 2 bytes.length ++ bytes ++ rest)) = _
      unfold decodeLencBytes
      dsimp only
      rw [if_neg (by decide), if_neg (by decide), if_pos rfl, List.append_assoc,
        List.take_left' (length_le 2 bytes.length), hvalue,
        if_neg (by rw [List.length_cons, List.length_append, length_le]; omega), ← List.append_assoc]
      exact hbody
    · split
      · rename_i hlen
        have hbody := decodeLencBody_append (0xfd :: le 3 bytes.length) bytes rest
        have hvalue : ofLe (le 3 bytes.length) = bytes.length := ofLe_le_of_lt (by omega)
        show decodeLencBytes (0xfd :: (le 3 bytes.length ++ bytes ++ rest)) = _
        unfold decodeLencBytes
        dsimp only
        rw [if_neg (by decide), if_neg (by decide), if_neg (by decide), if_pos rfl, List.append_assoc,
          List.take_left' (length_le 3 bytes.length), hvalue,
          if_neg (by rw [List.length_cons, List.length_append, length_le]; omega), ← List.append_assoc]
        exact hbody
      · have hbody := decodeLencBody_append (0xfe :: le 8 bytes.length) bytes rest
        have hvalue : ofLe (le 8 bytes.length) = bytes.length := ofLe_le_of_lt (by omega)
        show decodeLencBytes (0xfe :: (le 8 bytes.length ++ bytes ++ rest)) = _
        unfold decodeLencBytes
        dsimp only
        rw [if_neg (by decide), if_neg (by decide), if_neg (by decide), if_neg (by decide), if_pos rfl,
          List.append_assoc, List.take_left' (length_le 8 bytes.length), hvalue,
          if_neg (by rw [List.length_cons, List.length_append, length_le]; omega), ← List.append_assoc]
        exact hbody

theorem length_of_decodeLencBytes {bytes out : List UInt8}
    (h : decodeLencBytes (lenc bytes) = .ok (out, (lenc bytes).length)) : bytes.length < 2 ^ 64 := by
  by_contra hge
  have hheader : lenc bytes = 0xfe :: (le 8 bytes.length ++ bytes) := by
    unfold lenc putLencInt
    rw [if_neg (by omega), if_neg (by omega), if_neg (by omega)]
    rfl
  have hmod := Nat.mod_lt bytes.length (show 0 < 256 ^ 8 by decide)
  rw [hheader] at h
  unfold decodeLencBytes decodeLencBody at h
  dsimp only at h
  rw [if_neg (by decide), if_neg (by decide), if_neg (by decide), if_neg (by decide), if_pos rfl,
    List.take_left' (length_le 8 bytes.length), ofLe_le] at h
  split_ifs at h
  have hlen := (Prod.mk.inj (Except.ok.inj h)).2
  rw [List.length_cons, List.length_append, length_le] at hlen
  omega

variable {data cell bitmap : List UInt8} {n w : Nat} {i : Int} {p : Profile} {v : GatewayValue} {s : String}

theorem decodeLencBytes_suffix {out : List UInt8} (h : decodeLencBytes data = .ok (out, data.length)) :
    ∃ front, front ≠ [] ∧ data = front ++ out := by
  have hbody : ∀ len hdr, 0 < hdr → decodeLencBody data len hdr = .ok (out, data.length) →
      ∃ front, front ≠ [] ∧ data = front ++ out := by
    intro len hdr hpos h
    unfold decodeLencBody at h
    split at h
    · cases h
    · obtain ⟨hout, hlen⟩ := Prod.mk.inj (Except.ok.inj h)
      refine ⟨data.take hdr, ?_, ?_⟩
      · intro hnil
        have htake := congrArg List.length hnil
        rw [List.length_take, List.length_nil] at htake
        omega
      · have hall : (data.drop hdr).take len = data.drop hdr :=
          List.take_of_length_le (by rw [List.length_drop]; omega)
        rw [← hout, hall, List.take_append_drop]
  unfold decodeLencBytes at h
  split at h
  · cases h
  · rename_i b rest
    split_ifs at h
    · obtain ⟨rfl, hlen⟩ := Prod.mk.inj (Except.ok.inj h)
      exact ⟨b :: rest, nofun, (List.append_nil _).symm⟩
    · exact hbody _ _ (by decide) h
    · exact hbody _ _ (by decide) h
    · exact hbody _ _ (by decide) h
    · exact hbody _ _ (by decide) h

theorem decodeLencBytes_le {out : List UInt8} (h : decodeLencBytes data = .ok (out, n)) : n ≤ data.length := by
  have hbody : ∀ len hdr, decodeLencBody data len hdr = .ok (out, n) → n ≤ data.length := by
    intro len hdr h
    unfold decodeLencBody at h
    split_ifs at h with hshort
    have hn := (Prod.mk.inj (Except.ok.inj h)).2
    omega
  unfold decodeLencBytes at h
  split at h
  · cases h
  · split_ifs at h
    · have hn := (Prod.mk.inj (Except.ok.inj h)).2
      rw [List.length_cons]
      omega
    · exact hbody _ _ h
    · exact hbody _ _ h
    · exact hbody _ _ h
    · exact hbody _ _ h

/-! ## Text and bytes of a number are told apart -/

theorem length_le_utf8 (s : List Char) : s.length ≤ (utf8 s).length := by
  induction s with
  | nil => exact Nat.zero_le _
  | cons c s ih =>
    have hsize : 0 < (String.utf8EncodeChar c).length := by
      rw [String.length_utf8EncodeChar]
      exact Char.utf8Size_pos c
    have hcons : utf8 (c :: s) = String.utf8EncodeChar c ++ utf8 s := rfl
    rw [hcons, List.length_append, List.length_cons]
    omega

theorem utf8_digit {c : Char} (h : c.isDigit = true) :
    ∃ b : UInt8, String.utf8EncodeChar c = [b] ∧ 48 ≤ b.toNat ∧ b.toNat ≤ 57 := by
  simp only [Char.isDigit, Bool.and_eq_true, decide_eq_true_eq] at h
  have hlo : 48 ≤ c.toNat := h.1
  have hhi : c.toNat ≤ 57 := h.2
  have hsize : c.utf8Size = 1 := by
    rw [Char.utf8Size_eq_one_iff, UInt32.le_iff_toNat_le]
    exact Nat.le_trans hhi (by decide)
  refine ⟨c.val.toUInt8, String.utf8EncodeChar_eq_singleton hsize, ?_, ?_⟩
  · show 48 ≤ c.toNat % 256
    omega
  · show c.toNat % 256 ≤ 57
    omega

/-- **The bytes of a number do not end with its text.** -/
theorem no_decimal {front : List UInt8} (hne : front ≠ []) (h : leInt w i = front ++ utf8 (decimal i)) : False := by
  obtain ⟨digits, c, hdec, hc⟩ := decimal_last i
  obtain ⟨b, hb, hlo, hhi⟩ := utf8_digit hc
  have htext : utf8 (decimal i) = utf8 digits ++ [b] := by
    rw [hdec, utf8, List.flatMap_append, List.flatMap_singleton, hb]
    rfl
  have hlen := congrArg List.length h
  rw [length_leInt, List.length_append] at hlen
  have hfront := List.length_pos_iff.mpr hne
  have htextLen := length_le_utf8 (decimal i)
  obtain ⟨k, rfl⟩ : ∃ k, w = k + 1 := ⟨w - 1, by omega⟩
  have hsmall : i.natAbs < 10 ^ k := natAbs_lt_of_length (by omega)
  have hpow : 10 ^ k ≤ 256 ^ k := Nat.pow_le_pow_left (by decide) k
  obtain ⟨front', last, hlast, hbyte⟩ := last_leInt (w := k) (i := i) (by omega)
  rw [hlast, htext, ← List.append_assoc] at h
  have hsame : last = b := by
    have := congrArg List.getLast? h
    simpa using this
  rw [hsame] at hbyte
  omega

theorem utf8_decimal_inj {j : Int} (h : utf8 (decimal i) = utf8 (decimal j)) : i = j := by
  have hstring : toUtf8 (String.ofList (decimal i)) = toUtf8 (String.ofList (decimal j)) := by
    unfold toUtf8
    rw [String.toList_ofList, String.toList_ofList]
    exact h
  exact decimal_inj (String.ofList_injective (toUtf8_inj.mp hstring))

theorem eq_of_lossy (cv : Conversions) {bytes : List UInt8} (h : toUtf8 (cv.lossy bytes) = utf8 (decimal i)) :
    bytes = utf8 (decimal i) := by
  unfold Conversions.lossy at h
  cases hvalid : fromUtf8 bytes with
  | some s =>
    rw [hvalid, Option.getD_some] at h
    rw [fromUtf8_eq_some.mp hvalid, h]
  | none =>
    -- what is replaced leaves a mark, which is no part of a number
    rw [hvalid, Option.getD_none] at h
    have hreplaced : cv.replaced bytes = String.ofList (decimal i) := by
      refine toUtf8_inj.mp (h.trans ?_)
      unfold toUtf8
      rw [String.toList_ofList]
    have hmark := cv.marked bytes hvalid
    rw [hreplaced, String.toList_ofList] at hmark
    rcases mem_decimal hmark with hdigit | hdash
    · exact absurd hdigit (by decide)
    · exact absurd hdash (by decide)

theorem lossy_toUtf8 (cv : Conversions) (s : String) : cv.lossy (toUtf8 s) = s := by
  unfold Conversions.lossy
  rw [fromUtf8_toUtf8, Option.getD_some]

/-! ## The kinds of types -/

/-- What the header announces, by how a cell is read. -/
inductive Class (cv : Conversions) (type : ColumnType) : Prop where
  | integer (w : Nat) (name : String) (hwidth : type.width = some w) (hkind : type.kind = none)
      (hdecode : ∀ data flag, decodeBinaryResultValue cv data ⟨type, flag⟩ = decodeInteger w name data ⟨type, flag⟩)
  | float (htype : type = .float ∨ type = .double)
  | text (htext : type.isText = true) (hkind : type.kind = none)
      (hdecode : ∀ data flag, decodeBinaryResultValue cv data ⟨type, flag⟩ = (do
        let (bytes, n) ← decodeLencBytes data
        return (textValue cv bytes type, n)))
  | temporal (kind : Kind) (hkind : type.kind = some kind)
      (hdecode : ∀ data flag, decodeBinaryResultValue cv data ⟨type, flag⟩ = decodeTemporal kind data)

theorem class_of_mem (cv : Conversions) (h : p ∈ profiles) : Class cv p.type := by
  simp only [profiles, List.mem_cons, List.not_mem_nil, or_false] at h
  rcases h with rfl | rfl | rfl | rfl | rfl | rfl | rfl | rfl | rfl | rfl | rfl | rfl | rfl | rfl | rfl
  · exact .integer 1 "TINY" rfl rfl fun _ _ => rfl
  · exact .integer 1 "TINY" rfl rfl fun _ _ => rfl
  · exact .integer 2 "SHORT" rfl rfl fun _ _ => rfl
  · exact .integer 4 "LONG" rfl rfl fun _ _ => rfl
  · exact .integer 8 "LONGLONG" rfl rfl fun _ _ => rfl
  · exact .float (.inl rfl)
  · exact .float (.inr rfl)
  · exact .text rfl rfl fun _ _ => rfl
  · exact .temporal .date rfl fun _ _ => rfl
  · exact .temporal .time rfl fun _ _ => rfl
  · exact .temporal .datetime rfl fun _ _ => rfl
  · exact .temporal .datetime rfl fun _ _ => rfl
  · exact .text rfl rfl fun _ _ => rfl
  · exact .text rfl rfl fun _ _ => rfl
  · exact .text rfl rfl fun _ _ => rfl

theorem class_of (cv : Conversions) (dataType : String) : Class cv (mysqlColumnType dataType) :=
  class_of_mem cv (profile_mem dataType)

/-- Where the tables agree, and that they do not for unsigned integers in a column of Booleans. -/
structure Profile.Agrees (p : Profile) : Prop where
  ofInteger : p.type.width = none ∨ p.type.width = some p.integer
  ofUnsigned : p.bool = false → p.type.width = none ∨ p.type.width = some p.unsigned
  ofBool : p.bool = true → p.type = .tiny ∧ p.unsigned = 4
  ofText : p.text = p.type.kind
  ofDouble : p.double = true ↔ p.type = .double

theorem Profile.agrees_iff_width : p.Agrees ↔ (p.type.width = none ∨ p.type.width = some p.integer) ∧
      (p.bool = false → p.type.width = none ∨ p.type.width = some p.unsigned) ∧
      (p.bool = true → p.type = .tiny ∧ p.unsigned = 4) ∧ p.text = p.type.kind ∧
      (p.double = true ↔ p.type = .double) :=
  ⟨fun h => ⟨h.ofInteger, h.ofUnsigned, h.ofBool, h.ofText, h.ofDouble⟩, fun ⟨h1, h2, h3, h4, h5⟩ => ⟨h1, h2, h3, h4, h5⟩⟩

theorem tables_agree (dataType : String) : (profile dataType).Agrees := by
  have h : ∀ p ∈ profiles, p.Agrees := by
    simp only [Profile.agrees_iff_width]
    decide
  exact h _ (profile_mem dataType)

/-! ## A cell that fits -/

theorem decodeInteger_append {w : Nat} {name : String} {bytes : List UInt8} (hlen : bytes.length = w) (rest : List UInt8)
    (type : ColumnType) :
    decodeInteger w name (bytes ++ rest) ⟨type, 0⟩ = .ok (.integer (signed (256 ^ w) (ofLe bytes)), w) := by
  unfold decodeInteger
  have hsigned : ¬ (⟨type, 0⟩ : ColumnInfo).isUnsigned = true := by
    show ¬ decide ((0 &&& 32 : Nat) > 0) = true
    decide
  rw [if_neg (by rw [List.length_append]; omega), if_neg hsigned, List.take_left' hlen]

theorem decode_integer (cv : Conversions) {dataType : String} (hwidth : (mysqlColumnType dataType).width = some w)
    (hrange : -((256 ^ w : Nat) : Int) ≤ 2 * i ∧ 2 * i < (256 ^ w : Nat)) (rest : List UInt8) :
    decodeBinaryResultValue cv (leInt w i ++ rest) ⟨mysqlColumnType dataType, 0⟩ = .ok (.integer i, w) ∧
      (mysqlColumnType dataType).kind = none := by
  cases class_of cv dataType with
  | integer w' name hwidth' hkind hdecode =>
    rw [hwidth] at hwidth'
    obtain rfl := Option.some.inj hwidth'
    rw [hdecode, decodeInteger_append (length_leInt w i), (signed_leInt_iff w i).mpr hrange]
    exact ⟨rfl, hkind⟩
  | float htype =>
    rcases htype with h | h
    · rw [h] at hwidth
      cases hwidth
    · rw [h] at hwidth
      cases hwidth
  | text htext hkind hdecode =>
    cases htype : mysqlColumnType dataType <;> rw [htype] at hwidth htext <;> cases hwidth <;> cases htext
  | temporal kind hkind hdecode =>
    cases htype : mysqlColumnType dataType <;> rw [htype] at hwidth hkind <;> cases hwidth <;> cases hkind

theorem decode_text (cv : Conversions) {type : ColumnType} (hclass : Class cv type) (htext : type.isText = true)
    {bytes : List UInt8} (hlen : bytes.length < 2 ^ 64) (rest : List UInt8) :
    decodeBinaryResultValue cv (lenc bytes ++ rest) ⟨type, 0⟩ =
        .ok (textValue cv bytes type, (lenc bytes).length) ∧ type.kind = none := by
  cases hclass with
  | integer w name hwidth hkind hdecode =>
    cases type <;> cases htext <;> cases hwidth
  | float htype =>
    rcases htype with rfl | rfl <;> cases htext
  | text htext' hkind hdecode =>
    rw [hdecode, decodeLencBytes_lenc hlen]
    exact ⟨rfl, hkind⟩
  | temporal kind hkind hdecode =>
    cases type <;> cases htext <;> cases hkind

/-- The value of a text of bytes has the bytes for its text, if they are UTF-8 where the column is no blob. -/
theorem textForm_textValue (cv : Conversions) {type : ColumnType} (htext : type.isText = true) {bytes : List UInt8}
    (hvalid : type = .blob ∨ (fromUtf8 bytes).isSome = true) : textForm (textValue cv bytes type) = some bytes := by
  have hlossy : (fromUtf8 bytes).isSome = true → toUtf8 (cv.lossy bytes) = bytes := by
    intro hsome
    obtain ⟨s, hs⟩ := Option.isSome_iff_exists.mp hsome
    have hbytes := fromUtf8_eq_some.mp hs
    rw [hbytes, lossy_toUtf8]
  cases type with
  | blob => rfl
  | newDecimal =>
    rcases hvalid with h | h
    · cases h
    · exact congrArg some (hlossy h)
  | varString =>
    rcases hvalid with h | h
    · cases h
    · exact congrArg some (hlossy h)
  | _ => cases htext

theorem decodeTemporal_framed {kind : Kind} {payload : List UInt8} {text : List Char} (hshort : payload.length ≤ 12)
    (hdecode : Temporal.decode payload kind = .ok text) (rest : List UInt8) :
    decodeTemporal kind (framed payload ++ rest) = .ok (.string (String.ofList text), (framed payload).length) := by
  have hbyte : (UInt8.ofNat payload.length).toNat = payload.length := Temporal.toNat_ofNat_of_le (by omega)
  show decodeTemporal kind (UInt8.ofNat payload.length :: (payload ++ rest)) = _
  unfold decodeTemporal
  dsimp only
  rw [hbyte, if_neg (by rw [List.length_append]; omega), List.take_left, hdecode]
  show Except.ok (GatewayValue.string (String.ofList text), 1 + payload.length) = _
  rw [framed, List.length_cons, Nat.add_comm]

theorem same_integer (h : textForm v = some (utf8 (decimal i))) :
    SameValue none v (.integer i) := .inr (.inr ⟨_, h, rfl⟩)

structure IsTextOf (v : GatewayValue) (s : String) : Prop where
  text : textOf v = some s.toList
  form : textForm v = some (toUtf8 s)

theorem decode_moment (cv : Conversions) {dataType : String} {kind : Kind}
    (hkind : (mysqlColumnType dataType).kind = some kind) (henc : encodeText s dataType = .ok cell) :
    ∃ text moment, (∀ rest, decodeBinaryResultValue cv (cell ++ rest) ⟨mysqlColumnType dataType, 0⟩ =
        .ok (.string (String.ofList text), cell.length)) ∧ momentOf text kind = some moment ∧
      ∀ m, momentOf s.toList kind = some m → (m = moment ↔ m.fraction.length ≤ 6) := by
  have htext : textKind dataType = some kind := (tables_agree dataType).ofText.trans hkind
  unfold encodeText at henc
  rw [htext] at henc
  obtain ⟨payload, text, moment, rfl, hread⟩ := Temporal.encode_spec henc
  refine ⟨text, moment, fun rest => ?_, hread.denotes, hread.same⟩
  cases class_of cv dataType with
  | integer w name hwidth hkind' hdecode =>
    rw [hkind] at hkind'
    cases hkind'
  | float htype =>
    rcases htype with h | h <;> rw [h] at hkind <;> cases hkind
  | text htext' hkind' hdecode =>
    rw [hkind] at hkind'
    cases hkind'
  | temporal kind' hkind' hdecode =>
    rw [hkind] at hkind'
    obtain rfl := Option.some.inj hkind'
    rw [hdecode]
    exact decodeTemporal_framed hread.short hread.decoded rest

theorem encodeText_of_none {dataType : String} (hkind : (mysqlColumnType dataType).kind = none) :
    encodeText s dataType = .ok (lenc (toUtf8 s)) := by
  have htext : textKind dataType = none := (tables_agree dataType).ofText.trans hkind
  unfold encodeText
  rw [htext]

theorem decode_textFits (cv : Conversions) {dataType : String} (hv : IsTextOf v s)
    (henc : encodeText s dataType = .ok cell) (hfits : TextFits s (mysqlColumnType dataType)) :
    ∀ rest, ∃ w, decodeBinaryResultValue cv (cell ++ rest) ⟨mysqlColumnType dataType, 0⟩ = .ok (w, cell.length) ∧
      SameValue (mysqlColumnType dataType).kind v w := by
  intro rest
  unfold TextFits at hfits
  cases hkind : (mysqlColumnType dataType).kind with
  | none =>
    rw [hkind] at hfits
    rw [encodeText_of_none hkind] at henc
    obtain rfl := Except.ok.inj henc
    have hvalid : (fromUtf8 (toUtf8 s)).isSome = true := by
      rw [fromUtf8_toUtf8]
      rfl
    refine ⟨_, (decode_text cv (class_of cv dataType) hfits.1 hfits.2 rest).1, .inr (.inr ⟨_, hv.form, ?_⟩)⟩
    exact textForm_textValue cv hfits.1 (.inr hvalid)
  | some kind =>
    rw [hkind] at hfits
    obtain ⟨m, hm, hlen⟩ := hfits
    obtain ⟨text, moment, hdecode, hmoment, hsame⟩ := decode_moment cv hkind henc
    refine ⟨_, hdecode rest, .inr ⟨_, text, m, hv.text, ?_, hm, ?_⟩⟩
    · show some (String.ofList text).toList = some text
      rw [String.toList_ofList]
    · rw [(hsame m hm).mpr hlen]
      exact hmoment

theorem leInt_width {dataType : String} (h : (mysqlColumnType dataType).width = some w) :
    integerWidth dataType = w := by
  have hagree : (mysqlColumnType dataType).width = none ∨ (mysqlColumnType dataType).width = some (integerWidth dataType) :=
    (tables_agree dataType).ofInteger
  rcases hagree with hnone | hsome
  · rw [h] at hnone
    cases hnone
  · rw [h] at hsome
    exact (Option.some.inj hsome).symm

theorem le_width {dataType : String} (hbool : lower dataType ∉ ["bool", "boolean"])
    (h : (mysqlColumnType dataType).width = some w) : unsignedWidth dataType = w := by
  have hagree : (mysqlColumnType dataType).width = none ∨ (mysqlColumnType dataType).width = some (unsignedWidth dataType) :=
    (tables_agree dataType).ofUnsigned (decide_eq_false hbool)
  rcases hagree with hnone | hsome
  · rw [h] at hnone
    cases hnone
  · rw [h] at hsome
    exact (Option.some.inj hsome).symm

theorem isDouble_iff (dataType : String) : isDouble dataType = true ↔ mysqlColumnType dataType = .double :=
  (tables_agree dataType).ofDouble

theorem decode_float (cv : Conversions) (data : List UInt8) (flag : Nat) :
    decodeBinaryResultValue cv data ⟨.float, flag⟩ =
      if data.length < 4 then .error "mysql binary FLOAT truncated"
      else .ok (.float (cv.widen (UInt32.ofNat (ofLe (data.take 4)))), 4) := rfl

theorem decode_double (cv : Conversions) (data : List UInt8) (flag : Nat) :
    decodeBinaryResultValue cv data ⟨.double, flag⟩ =
      if data.length < 8 then .error "mysql binary DOUBLE truncated"
      else .ok (.float (UInt64.ofNat (ofLe (data.take 8))), 8) := rfl

/-- **A cell that fits is read back**, whatever follows it. -/
theorem decode_fits (cv : Conversions) {dataType : String} (hne : v ≠ .null)
    (henc : encodeBinaryValue cv v dataType = .ok cell) (hfits : Fits cv dataType v) (rest : List UInt8) :
    ∃ w, decodeBinaryResultValue cv (cell ++ rest) ⟨mysqlColumnType dataType, 0⟩ = .ok (w, cell.length) ∧
      SameValue (mysqlColumnType dataType).kind v w := by
  cases v with
  | null => exact absurd rfl hne
  | boolean b =>
    obtain rfl := Except.ok.inj henc
    have htype : mysqlColumnType dataType = .tiny := hfits
    have hbytes : ([if b then 1 else 0] : List UInt8) = leInt 1 (if b then 1 else 0) := by
      cases b with
      | true => rfl
      | false => rfl
    have hwidth : (mysqlColumnType dataType).width = some 1 := by rw [htype]; rfl
    rw [hbytes]
    obtain ⟨hdecode, hkind⟩ := decode_integer cv (i := if b then 1 else 0) hwidth (by cases b <;> decide) rest
    refine ⟨_, hdecode, ?_⟩
    rw [hkind]
    apply same_integer
    cases b with
    | true => rfl
    | false => rfl
  | integer i =>
    obtain rfl := Except.ok.inj henc
    obtain ⟨w, hwidth, hrange⟩ := hfits
    obtain ⟨hdecode, hkind⟩ := decode_integer cv hwidth hrange rest
    rw [leInt_width hwidth, length_leInt, hkind]
    exact ⟨_, hdecode, same_integer rfl⟩
  | unsignedInteger u =>
    obtain rfl := Except.ok.inj henc
    obtain ⟨hbool, w, hwidth, hrange⟩ := hfits
    obtain ⟨hdecode, hkind⟩ := decode_integer cv (i := u) hwidth (by omega) rest
    rw [leInt_natCast] at hdecode
    rw [le_width hbool hwidth, length_le, hkind]
    exact ⟨_, hdecode, same_integer rfl⟩
  | float bits =>
    obtain rfl := Except.ok.inj henc
    rcases hfits with htype | ⟨htype, hback⟩
    · have hbits : UInt64.ofNat (ofLe (le 8 bits.toNat)) = bits := by
        rw [ofLe_le_of_lt bits.toNat_lt, UInt64.ofNat_toNat]
      rw [if_pos ((isDouble_iff dataType).mpr htype), htype, length_le]
      refine ⟨.float bits, ?_, .inr (.inl ⟨bits, rfl, rfl⟩)⟩
      rw [decode_double, if_neg (by rw [List.length_append, length_le]; omega), List.take_left' (length_le 8 _), hbits]
    · have hdouble : ¬ isDouble dataType = true := by
        rw [isDouble_iff, htype]
        nofun
      have hbits : UInt32.ofNat (ofLe (le 4 (cv.narrow bits).toNat)) = cv.narrow bits := by
        rw [ofLe_le_of_lt (cv.narrow bits).toNat_lt, UInt32.ofNat_toNat]
      rw [if_neg hdouble, htype, length_le]
      refine ⟨.float bits, ?_, .inr (.inl ⟨bits, rfl, rfl⟩)⟩
      rw [decode_float, if_neg (by rw [List.length_append, length_le]; omega), List.take_left' (length_le 4 _), hbits,
        hback]
  | decimal s => exact decode_textFits cv ⟨rfl, rfl⟩ henc hfits rest
  | string s => exact decode_textFits cv ⟨rfl, rfl⟩ henc hfits rest
  | bytes b =>
    obtain rfl := Except.ok.inj henc
    obtain ⟨htext, hlen, hvalid⟩ := hfits
    obtain ⟨hdecode, hkind⟩ := decode_text cv (class_of cv dataType) htext hlen rest
    rw [hkind]
    exact ⟨_, hdecode, .inr (.inr ⟨b, rfl, textForm_textValue cv htext hvalid⟩)⟩

/-! ## A cell alone -/

structure IsNumber (v : GatewayValue) (i : Int) (cell : List UInt8) : Prop where
  form : textForm v = some (utf8 (decimal i))
  bytes : ∃ w, cell = leInt w i

theorem putLencInt_ne_nil (n : Nat) : putLencInt n ≠ [] := by
  unfold putLencInt
  split_ifs <;> nofun

theorem no_number (cv : Conversions) {type : ColumnType} (htext : type.isText = true) {bytes text : List UInt8}
    (hv : IsNumber v i cell) (hdecode : decodeLencBytes cell = .ok (bytes, cell.length))
    (hform : textForm v = some text) (hsame : textForm (textValue cv bytes type) = some text) : False := by
  obtain ⟨w, hcell⟩ := hv.bytes
  obtain ⟨front, hne, hsuffix⟩ := decodeLencBytes_suffix hdecode
  rw [hv.form] at hform
  obtain rfl := Option.some.inj hform
  have hbytes : bytes = utf8 (decimal i) := by
    cases type with
    | blob => exact Option.some.inj hsame
    | newDecimal => exact eq_of_lossy cv (Option.some.inj hsame)
    | varString => exact eq_of_lossy cv (Option.some.inj hsame)
    | _ => cases htext
  rw [hbytes, hcell] at hsuffix
  exact no_decimal hne hsuffix

theorem no_text {bytes : List UInt8} (hcell : lenc bytes = leInt w i) (htext : bytes = utf8 (decimal i)) : False := by
  have hfront : leInt w i = putLencInt bytes.length ++ utf8 (decimal i) := by
    rw [← htext]
    exact hcell.symm
  exact no_decimal (putLencInt_ne_nil _) hfront

theorem decodeInteger_alone {name : String} {type : ColumnType} {value : GatewayValue}
    (h : decodeInteger w name cell ⟨type, 0⟩ = .ok (value, cell.length)) :
    ∃ i, value = .integer i ∧ cell = leInt w i ∧ signed (256 ^ w) (ofLe cell) = i ∧ cell.length = w := by
  have hlen : cell.length = w := by
    unfold decodeInteger at h
    split_ifs at h
    · exact (Prod.mk.inj (Except.ok.inj h)).2.symm
    · exact (Prod.mk.inj (Except.ok.inj h)).2.symm
  have hdecode := @decodeInteger_append w name cell hlen [] type
  rw [List.append_nil, h] at hdecode
  refine ⟨_, (Prod.mk.inj (Except.ok.inj hdecode)).1, ?_, rfl, hlen⟩
  rw [← hlen]
  exact (leInt_signed cell).symm

theorem fits_of_integer (cv : Conversions) {dataType : String} (hne : v ≠ .null)
    (henc : encodeBinaryValue cv v dataType = .ok cell) (hwidth : (mysqlColumnType dataType).width = some w)
    (hkind : (mysqlColumnType dataType).kind = none) (hcell : cell = leInt w i)
    (hvalue : signed (256 ^ w) (ofLe cell) = i) (hlen : cell.length = w)
    (hform : textForm v = some (utf8 (decimal i))) : Fits cv dataType v := by
  cases v with
  | null => exact absurd rfl hne
  | boolean b =>
    obtain rfl := Except.ok.inj henc
    have hone : w = 1 := hlen.symm
    rw [hone] at hwidth
    show mysqlColumnType dataType = .tiny
    cases htype : mysqlColumnType dataType with
    | tiny => rfl
    | _ => rw [htype] at hwidth; cases hwidth
  | integer j =>
    obtain rfl := utf8_decimal_inj (Option.some.inj hform)
    rw [hcell] at hvalue
    exact ⟨w, hwidth, (signed_leInt_iff w j).mp hvalue⟩
  | unsignedInteger u =>
    obtain rfl := utf8_decimal_inj (Option.some.inj hform)
    rw [hcell] at hvalue
    have hrange := (signed_leInt_iff w (u : Int)).mp hvalue
    refine ⟨fun hbool => ?_, w, hwidth, by omega⟩
    -- a Boolean is announced as one byte, and four are written
    obtain ⟨htype, hfour⟩ := (tables_agree dataType).ofBool (decide_eq_true hbool)
    have htype' : mysqlColumnType dataType = .tiny := htype
    have hfour' : unsignedWidth dataType = 4 := hfour
    rw [htype'] at hwidth
    obtain rfl : 1 = w := Option.some.inj hwidth
    have hwritten := congrArg List.length (Except.ok.inj henc)
    rw [hfour', length_le, hlen] at hwritten
    cases hwritten
  | float bits => cases hform
  | decimal s =>
    have henc' : encodeText s dataType = .ok cell := henc
    rw [encodeText_of_none hkind] at henc'
    exact (no_text ((Except.ok.inj henc').trans hcell) (Option.some.inj hform)).elim
  | string s =>
    have henc' : encodeText s dataType = .ok cell := henc
    rw [encodeText_of_none hkind] at henc'
    exact (no_text ((Except.ok.inj henc').trans hcell) (Option.some.inj hform)).elim
  | bytes b => exact (no_text ((Except.ok.inj henc).trans hcell) (Option.some.inj hform)).elim

theorem fits_of_text (cv : Conversions) {dataType : String} {bytes text : List UInt8} (hne : v ≠ .null)
    (henc : encodeBinaryValue cv v dataType = .ok cell) (htext : (mysqlColumnType dataType).isText = true)
    (hkind : (mysqlColumnType dataType).kind = none) (hdecode : decodeLencBytes cell = .ok (bytes, cell.length))
    (hform : textForm v = some text)
    (hsame : textForm (textValue cv bytes (mysqlColumnType dataType)) = some text) : Fits cv dataType v := by
  have hnumber : ∀ i, IsNumber v i cell → Fits cv dataType v :=
    fun i hv => (no_number cv htext hv hdecode hform hsame).elim
  have htexts : ∀ s, encodeText s dataType = .ok cell → TextFits s (mysqlColumnType dataType) := by
    intro s henc
    rw [encodeText_of_none hkind] at henc
    obtain rfl := Except.ok.inj henc
    unfold TextFits
    rw [hkind]
    exact ⟨htext, length_of_decodeLencBytes hdecode⟩
  cases v with
  | null => exact absurd rfl hne
  | boolean b =>
    refine hnumber (if b then 1 else 0) ⟨?_, 1, ?_⟩
    · cases b with
      | true => rfl
      | false => rfl
    · rw [← Except.ok.inj henc]
      cases b with
      | true => rfl
      | false => rfl
  | integer i => exact hnumber i ⟨rfl, _, (Except.ok.inj henc).symm⟩
  | unsignedInteger u => exact hnumber u ⟨rfl, unsignedWidth dataType, by rw [leInt_natCast]; exact (Except.ok.inj henc).symm⟩
  | float bits => cases hform
  | decimal s => exact htexts s henc
  | string s => exact htexts s henc
  | bytes b =>
    obtain rfl := Except.ok.inj henc
    have hlen := length_of_decodeLencBytes hdecode
    refine ⟨htext, hlen, ?_⟩
    have hback := decodeLencBytes_lenc hlen []
    rw [List.append_nil, hdecode] at hback
    obtain rfl := (Prod.mk.inj (Except.ok.inj hback)).1
    obtain rfl := Option.some.inj hform
    have hvalid : ∀ t : String, toUtf8 t = bytes → (fromUtf8 bytes).isSome = true := by
      intro t ht
      rw [← ht, fromUtf8_toUtf8]
      rfl
    cases htype : mysqlColumnType dataType with
    | blob => exact .inl rfl
    | newDecimal =>
      rw [htype] at hsame
      exact .inr (hvalid _ (Option.some.inj hsame))
    | varString =>
      rw [htype] at hsame
      exact .inr (hvalid _ (Option.some.inj hsame))
    | _ =>
      rw [htype] at htext
      cases htext

theorem textForm_textValue_float (cv : Conversions) (bytes : List UInt8) (type : ColumnType) (bits : UInt64) :
    textValue cv bytes type ≠ .float bits := by
  cases type <;> nofun

/-- **A cell that is read back alone fits.** -/
theorem fits_of_alone (cv : Conversions) {dataType : String} {w : GatewayValue} (hne : v ≠ .null)
    (henc : encodeBinaryValue cv v dataType = .ok cell)
    (hdec : decodeBinaryResultValue cv cell ⟨mysqlColumnType dataType, 0⟩ = .ok (w, cell.length))
    (hsame : SameValue (mysqlColumnType dataType).kind v w) : Fits cv dataType v := by
  have hsame := hsame.resolve_left fun h => hne h.1
  cases class_of cv dataType with
  | integer width name hwidth hkind hdecode =>
    rw [hdecode] at hdec
    obtain ⟨i, rfl, hcell, hvalue, hlen⟩ := decodeInteger_alone hdec
    rw [hkind] at hsame
    rcases hsame with ⟨bits, _, hbits⟩ | ⟨text, hform, hinteger⟩
    · cases hbits
    · obtain rfl := Option.some.inj hinteger
      exact fits_of_integer cv hne henc hwidth hkind hcell hvalue hlen hform
  | float htype =>
    have hkind : (mysqlColumnType dataType).kind = none := by
      rcases htype with h | h
      · rw [h]
        rfl
      · rw [h]
        rfl
    obtain ⟨bits, rfl⟩ : ∃ bits, w = .float bits := by
      rcases htype with h | h
      · rw [h, decode_float] at hdec
        split_ifs at hdec
        exact ⟨_, (Prod.mk.inj (Except.ok.inj hdec)).1.symm⟩
      · rw [h, decode_double] at hdec
        split_ifs at hdec
        exact ⟨_, (Prod.mk.inj (Except.ok.inj hdec)).1.symm⟩
    rw [hkind] at hsame
    rcases hsame with ⟨bits', rfl, hbits⟩ | ⟨text, _, hfloat⟩
    · obtain rfl := GatewayValue.float.inj hbits
      rcases htype with h | h
      · refine .inr ⟨h, ?_⟩
        have hdouble : ¬ isDouble dataType = true := by
          rw [isDouble_iff, h]
          nofun
        have hcell : le 4 (cv.narrow bits).toNat = cell := by
          have henc' := Except.ok.inj henc
          rw [if_neg hdouble] at henc'
          exact henc'
        have hbits : UInt32.ofNat (ofLe (le 4 (cv.narrow bits).toNat)) = cv.narrow bits := by
          rw [ofLe_le_of_lt (cv.narrow bits).toNat_lt, UInt32.ofNat_toNat]
        rw [h, decode_float, ← hcell, if_neg (by rw [length_le]; decide),
          List.take_of_length_le (by rw [length_le]), hbits] at hdec
        exact GatewayValue.float.inj (Prod.mk.inj (Except.ok.inj hdec)).1
      · exact .inl h
    · cases hfloat
  | text htext hkind hdecode =>
    rw [hdecode] at hdec
    obtain ⟨⟨bytes, n⟩, hlenc, hdec⟩ := bind_eq_ok.mp hdec
    obtain ⟨rfl, rfl⟩ := Prod.mk.inj (pure_eq_ok.mp hdec)
    rw [hkind] at hsame
    rcases hsame with ⟨bits, _, hbits⟩ | ⟨text, hform, hvalue⟩
    · exact absurd hbits (textForm_textValue_float cv bytes _ bits)
    · exact fits_of_text cv hne henc htext hkind hlenc hform hvalue
  | temporal kind hkind hdecode =>
    rw [hkind] at hsame
    obtain ⟨s, t, m, hs, ht, hm, hm'⟩ := hsame
    have htexts : ∀ text : String, text.toList = s → encodeText text dataType = .ok cell →
        TextFits text (mysqlColumnType dataType) := by
      intro text htext henc
      obtain ⟨read, moment, hread, hmoment, hkept⟩ := decode_moment cv hkind henc
      have hback := hread []
      rw [List.append_nil, hdec] at hback
      obtain rfl := (Prod.mk.inj (Except.ok.inj hback)).1
      obtain rfl : read = t := by
        have hlist : (String.ofList read).toList = t := Option.some.inj ht
        rw [String.toList_ofList] at hlist
        exact hlist
      rw [hmoment] at hm'
      obtain rfl := Option.some.inj hm'
      rw [← htext] at hm
      unfold TextFits
      rw [hkind]
      exact ⟨_, hm, (hkept _ hm).mp rfl⟩
    cases v with
    | decimal text => exact htexts text (Option.some.inj hs) henc
    | string text => exact htexts text (Option.some.inj hs) henc
    | _ => cases hs

/-! ## The bitmap -/

@[simp] theorem length_setBit (bitmap : List UInt8) (bit : Nat) : (setBit bitmap bit).length = bitmap.length :=
  List.length_modify ..

theorem bit_or (x : UInt8) {k k' : Nat} (hk : k < 8) (hk' : k' < 8) :
    ((x ||| ((1 : UInt8) <<< UInt8.ofNat k)) &&& ((1 : UInt8) <<< UInt8.ofNat k') != 0) =
      (decide (k = k') || ((x &&& ((1 : UInt8) <<< UInt8.ofNat k')) != 0)) := by
  have hsplit : ∀ a b : UInt8, (x ||| a) &&& b = (x &&& b) ||| (a &&& b) := fun a b => by
    apply UInt8.toBitVec_inj.mp
    simp only [UInt8.toBitVec_and, UInt8.toBitVec_or]
    exact BitVec.and_or_distrib_right
  have hmask : ∀ k < 8, ∀ k' < 8,
      ((1 : UInt8) <<< UInt8.ofNat k) &&& ((1 : UInt8) <<< UInt8.ofNat k') =
        if k = k' then (1 : UInt8) <<< UInt8.ofNat k else 0 := by decide
  have hone : ∀ k < 8, ((1 : UInt8) <<< UInt8.ofNat k) ≠ 0 := by decide
  rw [hsplit, hmask k hk k' hk']
  by_cases heq : k = k'
  · subst heq
    rw [if_pos rfl]
    simp [hone k hk]
  · rw [if_neg heq]
    simp [heq]

theorem hasBit_setBit {bit : Nat} (h : bit / 8 < bitmap.length) (bit' : Nat) :
    hasBit (setBit bitmap bit) bit' = (decide (bit = bit') || hasBit bitmap bit') := by
  unfold hasBit setBit
  by_cases hbyte : bit / 8 = bit' / 8
  · have hsame : (bit = bit') ↔ bit % 8 = bit' % 8 := by omega
    have hor := bit_or bitmap[bit / 8] (Nat.mod_lt bit (by decide)) (Nat.mod_lt bit' (by decide))
    have hget : (bitmap.modify (bit / 8) (· ||| ((1 : UInt8) <<< UInt8.ofNat (bit % 8)))).getD (bit' / 8) 0 =
        bitmap[bit / 8] ||| ((1 : UInt8) <<< UInt8.ofNat (bit % 8)) := by
      rw [← hbyte, List.getD_eq_getElem?_getD, List.getElem?_modify_eq, List.getElem?_eq_getElem h]
      rfl
    have hold : bitmap.getD (bit' / 8) 0 = bitmap[bit / 8] := by
      rw [← hbyte, List.getD_eq_getElem?_getD, List.getElem?_eq_getElem h]
      rfl
    rw [hget, hold, hor, decide_eq_decide.mpr hsame]
  · have hne : bit ≠ bit' := fun heq => hbyte (heq ▸ rfl)
    rw [List.getD_eq_getElem?_getD, List.getElem?_modify_ne _ _ hbyte, ← List.getD_eq_getElem?_getD, decide_eq_false hne,
      Bool.false_or]

theorem length_markNulls (bitmap : List UInt8) (i : Nat) (row : List GatewayValue) :
    (markNulls bitmap i row).length = bitmap.length := by
  induction row generalizing bitmap i with
  | nil => rfl
  | cons value row ih =>
    rw [markNulls, ih]
    split
    · exact length_setBit _ _
    · rfl

theorem hasBit_markNulls {i : Nat} {row : List GatewayValue} (h : (i + row.length + 1) / 8 < bitmap.length)
    (bit : Nat) : hasBit (markNulls bitmap i row) bit = true ↔
      hasBit bitmap bit = true ∨ ∃ k, row[k]? = some .null ∧ bit = i + k + 2 := by
  induction row generalizing bitmap i with
  | nil => simp [markNulls]
  | cons value row ih =>
    rw [List.length_cons] at h
    have hstep : hasBit (if value = .null then setBit bitmap (i + 2) else bitmap) bit = true ↔
        (value = .null ∧ bit = i + 2) ∨ hasBit bitmap bit = true := by
      by_cases hnull : value = .null
      · rw [if_pos hnull, hasBit_setBit (by omega), Bool.or_eq_true, decide_eq_true_eq, and_iff_right hnull]
        exact or_congr_left eq_comm
      · rw [if_neg hnull]
        simp [hnull]
    have hlen : (if value = .null then setBit bitmap (i + 2) else bitmap).length = bitmap.length := by
      split
      · exact length_setBit _ _
      · rfl
    rw [markNulls, ih (by rw [hlen]; omega), hstep]
    constructor
    · rintro ((⟨hnull, hbit⟩ | hold) | ⟨k, hk, hbit⟩)
      · exact .inr ⟨0, congrArg some hnull, hbit⟩
      · exact .inl hold
      · exact .inr ⟨k + 1, hk, by omega⟩
    · rintro (hold | ⟨k, hk, hbit⟩)
      · exact .inl (.inr hold)
      · cases k with
        | zero => exact .inl (.inl ⟨Option.some.inj hk, hbit⟩)
        | succ k => exact .inr ⟨k, hk, by omega⟩

theorem hasBit_zeros (n bit : Nat) : hasBit (List.replicate n 0) bit = false := by
  unfold hasBit
  have hzero : (List.replicate n (0 : UInt8)).getD (bit / 8) 0 = 0 := by
    rw [List.getD_eq_getElem?_getD, List.getElem?_replicate]
    split
    · rfl
    · rfl
  rw [hzero]
  simp

/-! ## Rows -/

/-- The bitmap tells which values, from a column on, are NULL. -/
def Marks (bitmap : List UInt8) (i : Nat) (row : List GatewayValue) : Prop :=
  ∀ k v, row[k]? = some v → (hasBit bitmap (i + k + 2) = true ↔ v = .null)

theorem Marks.head {i : Nat} {row : List GatewayValue} (h : Marks bitmap i (v :: row)) :
    hasBit bitmap (i + 2) = true ↔ v = .null := h 0 v rfl

theorem Marks.tail {i : Nat} {row : List GatewayValue} (h : Marks bitmap i (v :: row)) :
    Marks bitmap (i + 1) row := by
  intro k w hk
  have hnext := h (k + 1) w hk
  rw [show i + 1 + k + 2 = i + (k + 1) + 2 by omega]
  exact hnext

theorem marks_markNulls (row : List GatewayValue) :
    Marks (markNulls (List.replicate (nullLen row.length) 0) 0 row) 0 row := by
  intro k v hk
  have hroom : (0 + row.length + 1) / 8 < (List.replicate (nullLen row.length) (0 : UInt8)).length := by
    rw [List.length_replicate]
    unfold nullLen
    omega
  rw [hasBit_markNulls hroom, hasBit_zeros]
  constructor
  · rintro (hzero | ⟨k', hk', hbit⟩)
    · cases hzero
    · obtain rfl : k = k' := by omega
      exact Option.some.inj (hk.symm.trans hk')
  · rintro rfl
    exact .inr ⟨k, hk, by omega⟩

abbrev Written (cv : Conversions) (row : List (Column × GatewayValue)) (cells : List (List UInt8)) : Prop :=
  List.Forall₂ (fun cell bytes => encodeBinaryValue cv cell.2 cell.1.dataType = .ok bytes) row cells

abbrev ReadBack (row : List (Column × GatewayValue)) (values : List GatewayValue) : Prop :=
  List.Forall₂ (fun cell value => SameValue (mysqlColumnType cell.1.dataType).kind cell.2 value) row values

theorem encodeBinaryRow_eq_ok {cv : Conversions} {row : List GatewayValue} {columns : List Column} {packet : List UInt8} :
    encodeBinaryRow cv row columns = .ok packet ↔
      row.length = columns.length ∧ ∃ cells, Written cv (columns.zip row) cells ∧
        packet = 0 :: (markNulls (List.replicate (nullLen columns.length) 0) 0 row ++ cells.flatten) := by
  unfold encodeBinaryRow
  by_cases hlen : row.length = columns.length
  · rw [if_neg (not_not_intro hlen), bind_eq_ok]
    simp only [mapM_eq_ok, pure_eq_ok, and_iff_right hlen]
    constructor
    · rintro ⟨cells, hcells, rfl⟩
      exact ⟨cells, hcells, rfl⟩
    · rintro ⟨cells, hcells, rfl⟩
      exact ⟨cells, hcells, rfl⟩
  · rw [if_pos hlen]
    constructor
    · nofun
    · rintro ⟨heq, _⟩
      exact absurd heq hlen

theorem binaryRow_cells (cv : Conversions) (row : List GatewayValue) {columns : List Column} (cells : List UInt8) :
    binaryRowToGatewayValues cv (0 :: (markNulls (List.replicate (nullLen columns.length) 0) 0 row ++ cells))
        (columns.map gatewayColumnToMysqlColumn) =
      decodeCells cv (markNulls (List.replicate (nullLen columns.length) 0) 0 row) 0
        (columns.map gatewayColumnToMysqlColumn) cells := by
  have hlen : (markNulls (List.replicate (nullLen columns.length) 0) 0 row).length =
      nullLen (columns.map gatewayColumnToMysqlColumn).length := by
    rw [length_markNulls, List.length_replicate, List.length_map]
  unfold binaryRowToGatewayValues
  dsimp only
  rw [if_neg (by rw [List.length_append]; omega), if_neg (by simp), List.take_left' hlen, List.drop_left' hlen]

theorem decodeCells_fits (cv : Conversions) {columns : List Column} {row : List GatewayValue}
    {cells : List (List UInt8)} {i : Nat} (hlen : row.length = columns.length) (hmarks : Marks bitmap i row)
    (hwritten : Written cv (columns.zip row) cells) (hfits : ∀ cell ∈ columns.zip row, Fits cv cell.1.dataType cell.2) :
    ∃ values, decodeCells cv bitmap i (columns.map gatewayColumnToMysqlColumn) cells.flatten = .ok (values, []) ∧
      ReadBack (columns.zip row) values := by
  induction columns generalizing row cells i with
  | nil =>
    cases hwritten
    exact ⟨[], rfl, .nil⟩
  | cons column columns ih =>
    cases row with
    | nil => cases hlen
    | cons v row =>
      rw [List.zip_cons_cons] at hwritten hfits ⊢
      rw [List.forall_mem_cons] at hfits
      obtain ⟨cell, cells', hcell, hrest, rfl⟩ := List.forall₂_cons_left_iff.mp hwritten
      obtain ⟨values, hvalues, hback⟩ := ih (by simpa using hlen) hmarks.tail hrest hfits.2
      rw [List.map_cons, List.flatten_cons]
      unfold decodeCells
      by_cases hnull : v = .null
      · subst hnull
        obtain rfl := Except.ok.inj hcell
        rw [if_pos (hmarks.head.mpr rfl), List.nil_append, hvalues]
        exact ⟨.null :: values, rfl, .cons (.inl ⟨rfl, rfl⟩) hback⟩
      · obtain ⟨w, hread, hsame⟩ := decode_fits cv hnull hcell hfits.1 cells'.flatten
        rw [if_neg fun hbit => hnull (hmarks.head.mp hbit)]
        unfold gatewayColumnToMysqlColumn
        rw [hread, ok_bind]
        dsimp only
        rw [List.drop_left]
        unfold gatewayColumnToMysqlColumn at hvalues
        rw [hvalues]
        exact ⟨w :: values, rfl, .cons hsame hback⟩

theorem consumed_le (cv : Conversions) {dataType : String} {w : GatewayValue}
    (h : decodeBinaryResultValue cv data ⟨mysqlColumnType dataType, 0⟩ = .ok (w, n)) : n ≤ data.length := by
  cases class_of cv dataType with
  | integer width name hwidth hkind hdecode =>
    rw [hdecode] at h
    unfold decodeInteger at h
    split_ifs at h with hshort
    · have hn := (Prod.mk.inj (Except.ok.inj h)).2
      omega
    · have hn := (Prod.mk.inj (Except.ok.inj h)).2
      omega
  | float htype =>
    rcases htype with htype | htype
    · rw [htype, decode_float] at h
      split_ifs at h with hshort
      have hn := (Prod.mk.inj (Except.ok.inj h)).2
      omega
    · rw [htype, decode_double] at h
      split_ifs at h with hshort
      have hn := (Prod.mk.inj (Except.ok.inj h)).2
      omega
  | text htext hkind hdecode =>
    rw [hdecode] at h
    obtain ⟨⟨bytes, m⟩, hlenc, h⟩ := bind_eq_ok.mp h
    obtain ⟨-, rfl⟩ := Prod.mk.inj (pure_eq_ok.mp h)
    exact decodeLencBytes_le hlenc
  | temporal kind hkind hdecode =>
    rw [hdecode] at h
    unfold decodeTemporal at h
    split at h
    · cases h
    · split_ifs at h with hshort
      obtain ⟨text, -, h⟩ := bind_eq_ok.mp h
      have hn := (Prod.mk.inj (pure_eq_ok.mp h)).2
      rw [List.length_cons]
      omega

theorem fits_of_decodes (cv : Conversions) {column : Column}
    (hcell : encodeBinaryValue cv v column.dataType = .ok cell) (hmarks : Marks bitmap 0 [v])
    {values : List GatewayValue}
    (hdecode : decodeCells cv bitmap 0 [gatewayColumnToMysqlColumn column] cell = .ok (values, []))
    (hback : ReadBack [(column, v)] values) : Fits cv column.dataType v := by
  by_cases hnull : v = .null
  · subst hnull
    trivial
  · unfold decodeCells decodeCells at hdecode
    rw [if_neg fun hbit => hnull (hmarks.head.mp hbit)] at hdecode
    obtain ⟨⟨w, n⟩, hread, hdecode⟩ := bind_eq_ok.mp hdecode
    obtain ⟨rfl, hdrop⟩ := Prod.mk.inj (pure_eq_ok.mp hdecode)
    have hle := consumed_le cv hread
    have hn : n = cell.length := by
      have hlen := List.drop_eq_nil_iff.mp hdrop
      omega
    rw [hn] at hread
    exact fits_of_alone cv hnull hcell hread (List.forall₂_cons.mp hback).1

/-- **Which rows are self-consistent**: those whose cells all fit; a row of one cell decodes only if it fits. -/
theorem row_self_consistent (cv : Conversions) {columns : List Column} {row : List GatewayValue} {packet : List UInt8}
    (h : encodeBinaryRow cv row columns = .ok packet) :
    ((∀ cell ∈ columns.zip row, Fits cv cell.1.dataType cell.2) → Decodes cv columns row packet) ∧
      (columns.length = 1 → Decodes cv columns row packet →
        ∀ cell ∈ columns.zip row, Fits cv cell.1.dataType cell.2) := by
  obtain ⟨hlen, cells, hwritten, rfl⟩ := encodeBinaryRow_eq_ok.mp h
  have hmarks := marks_markNulls row
  rw [hlen] at hmarks
  unfold Decodes
  rw [binaryRow_cells]
  constructor
  · intro hfits
    exact decodeCells_fits cv hlen hmarks hwritten hfits
  · rintro hone ⟨values, hdecode, hback⟩ cell hmem
    obtain ⟨column, rfl⟩ := List.length_eq_one_iff.mp hone
    obtain ⟨v, rfl⟩ := List.length_eq_one_iff.mp hlen
    obtain ⟨bytes, rest, hcell, hrest, rfl⟩ := List.forall₂_cons_left_iff.mp hwritten
    obtain rfl := List.forall₂_nil_left_iff.mp hrest
    rw [List.flatten_cons, List.flatten_nil, List.append_nil] at hdecode
    obtain rfl := List.mem_singleton.mp hmem
    exact fits_of_decodes cv hcell hmarks hdecode hback

theorem row_self_consistent_plain : Decodes ⟨fun _ => 0, fun _ => 0, fun _ => "\uFFFD", fun _ _ => by decide⟩
      [⟨"id", "int"⟩, ⟨"name", "varchar"⟩, ⟨"born", "DATE"⟩] [.integer (-2), .string "a", .null]
      [0, 16, 254, 255, 255, 255, 1, 97] := by
  refine (row_self_consistent _ (by rfl)).1 ?_
  intro cell hcell
  simp only [List.zip_cons_cons, List.zip_nil_left, List.mem_cons, List.not_mem_nil, or_false] at hcell
  rcases hcell with rfl | rfl | rfl
  · exact ⟨4, by decide, by decide, by decide⟩
  · exact ⟨by decide, by decide⟩
  · trivial

/-- A mask in a column of integers is read as the integer of its first bytes, and shifts what follows. -/
theorem mask_shifts_row : ∃ columns row packet, ∀ cv : Conversions, encodeBinaryRow cv row columns = .ok packet ∧
      binaryRowToGatewayValues cv packet (columns.map gatewayColumnToMysqlColumn) =
        .ok ([.integer 707406340, .integer 1834], [0]) ∧ ¬ Decodes cv columns row packet := by
  refine ⟨[⟨"salary", "int"⟩, ⟨"id", "int"⟩], [.string "****", .integer 7],
    [0, 0, 4, 42, 42, 42, 42, 7, 0, 0, 0], fun cv => ?_⟩
  have hdecode : binaryRowToGatewayValues cv [0, 0, 4, 42, 42, 42, 42, 7, 0, 0, 0]
      ([⟨"salary", "int"⟩, ⟨"id", "int"⟩].map gatewayColumnToMysqlColumn) =
        .ok ([.integer 707406340, .integer 1834], [0]) := rfl
  refine ⟨rfl, hdecode, ?_⟩
  rintro ⟨values, hvalues, -⟩
  rw [hdecode] at hvalues
  cases (Prod.mk.inj (Except.ok.inj hvalues)).2

/-- Two cells that do not fit can make up for each other: one is three bytes short, one three bytes too long. -/
example (cv : Conversions) : encodeBinaryRow cv [.boolean true, .unsignedInteger 0] [⟨"a", "int"⟩, ⟨"b", "bool"⟩] =
      .ok [0, 0, 1, 0, 0, 0, 0] ∧
    binaryRowToGatewayValues cv [0, 0, 1, 0, 0, 0, 0] ([⟨"a", "int"⟩, ⟨"b", "bool"⟩].map gatewayColumnToMysqlColumn) =
      .ok ([.integer 1, .integer 0], []) := ⟨rfl, rfl⟩

end DataNexus.BinaryRows
