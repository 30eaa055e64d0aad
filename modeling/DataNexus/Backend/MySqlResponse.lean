/-
  A response of a MySQL server, packet by packet (`protocol/mysql/src/client/{codec,resultset}.rs`, the readers of
  `backend/mysql.rs`).

  1. **Program** — `Wire.next` reads a packet over the states of `ResultsetCodec`, `readHeader` is the opening part of the
     two streaming functions, `producer` the task that reads the rows.

  2. **Responses** — `Response`: what a server may send, how many packets arrive, and how the connection then ends.

  3. **What is left unread** — `readHeader_response`, and `left_producer`: what stands behind the first row that cannot
     be decoded, else behind the last EOF.
-/
import DataNexus.Backend.MySql
import DataNexus.Frontend.BinaryRows

namespace DataNexus.MySqlResponse

open DataNexus.Text DataNexus.Utf8 DataNexus.LittleEndian DataNexus.Stream
open DataNexus.Backend.MySql (Header)
open DataNexus.BinaryRows (ColumnInfo Conversions)

abbrev Packet := List UInt8

/-! ## Packets from the socket -/

def isEof (p : Packet) : Bool := p.length ≤ 5 && p.head? == some 0xfe

def isOk (p : Packet) : Bool := 3 < p.length && p.head? == some 0

/-- `DecodeResultsetState`; rows of either protocol are cut alike. -/
inductive DecodeState where
  | columnCount
  | columnInfo
  | row
  | complete
deriving DecidableEq

/-- What `ResultsetStream::poll_next` makes of a packet, and the state after it. -/
def DecodeState.take (state : DecodeState) (p : Packet) : Option Packet × DecodeState :=
  match state with
  | .columnCount => (some p, if p.head? = some 0xff ∨ isOk p then .complete else .columnInfo)
  | .columnInfo => (some p, if isEof p ∨ isOk p then .row else .columnInfo)
  | .row => if isEof p then (none, .complete) else (some p, .row)
  | .complete => (none, .complete)

/-- How a connection ends for a reader who waits for the next packet. -/
inductive Last where
  | closed
  | failed (error : String)
deriving DecidableEq

/-- One side of a connection, as the gateway reads it. -/
structure Wire where
  state : DecodeState
  /-- What has not been read of the responses. -/
  packets : List Packet
  last : Last
  dead : Bool
deriving DecidableEq

def Wire.fresh : Wire := ⟨.complete, [], .closed, false⟩

/-- The result of waiting for a connection that ends. -/
def Last.result : Last → Except GatewayError (Option Packet)
  | .closed => .ok none
  | .failed error => .error (.backend ("read mysql result packet: " ++ error))

/-- `read_optional_mysql_result_packet`. -/
def Wire.next (w : Wire) : Except GatewayError (Option Packet) × Wire :=
  if w.state = .complete then (.ok none, w)
  else
    match w.packets with
    | [] => (w.last.result, { w with dead := true })
    | p :: ps => (.ok (w.state.take p).1, { w with state := (w.state.take p).2, packets := ps })

/-- `read_mysql_result_packet`. -/
def Wire.read (w : Wire) (context : String) : Except GatewayError Packet × Wire :=
  match w.next with
  | (.error e, w) => (.error e, w)
  | (.ok none, w) => (.error (.backend ("mysql backend closed while reading " ++ context)), w)
  | (.ok (some p), w) => (.ok p, w)

/-! ## Decoding -/

def decodeFixedLencInt (data : List UInt8) (context : String) (valueLen totalLen : Nat) :
    Except GatewayError (Nat × Bool × Nat) :=
  if data.length < totalLen then
    .error (.protocol (context ++ " length-encoded integer is shorter than " ++ toString totalLen ++ " bytes"))
  else .ok (ofLe ((data.drop 1).take valueLen), false, totalLen)

/-- `decode_lenc_int`: the value, whether it is NULL, and the bytes it takes. -/
def decodeLencInt (data : List UInt8) (context : String) : Except GatewayError (Nat × Bool × Nat) :=
  match data.head? with
  | none => .error (.protocol (context ++ " is missing"))
  | some 0xfb => .ok (0, true, 1)
  | some 0xfc => decodeFixedLencInt data context 2 3
  | some 0xfd => decodeFixedLencInt data context 3 4
  | some 0xfe => decodeFixedLencInt data context 8 9
  | some value => .ok (value.toNat, false, 1)

/-- The decoders that are not followed further: of column definitions, of text values and of binary rows. -/
structure Decoders where
  column : Packet → ColumnInfo × Column
  textValue : ColumnInfo → List UInt8 → GatewayValue
  conversions : Conversions

def okPacketToGatewayResponse (payload : Packet) : Except GatewayError GatewayResponse := do
  let (affectedRows, _, affectedPos) ← decodeLencInt (payload.drop 1) "mysql OK affected rows"
  let lastInsertId :=
    if payload.length < 1 + affectedPos then none
    else ((decodeLencInt (payload.drop (1 + affectedPos)) "mysql OK last insert id").toOption.map (·.1)).filter (0 < ·)
  return .ok affectedRows lastInsertId

/-- `err_packet_to_gateway_response`: the code and the message. -/
def errPacketToGatewayResponse (cv : Conversions) (payload : Packet) : String × String :=
  let code := if payload.length < 3 then "HY000" else toString (ofLe ((payload.drop 1).take 2))
  let offset := if payload[3]? = some 35 ∧ 9 ≤ payload.length then 9 else 3
  let message := String.ofList (trimStart (cv.lossy (payload.drop offset)).toList)
  (code, if payload.length < offset ∨ message.isEmpty then "mysql backend error" else message)

/-- The loop of `text_row_to_gateway_values`; `n` is the number of all columns. -/
def textCells (d : Decoders) (n : Nat) : List ColumnInfo → List UInt8 → Except GatewayError (List GatewayValue)
  | [], [] => .ok []
  | [], _ => .error (.protocol "mysql row has more values than the result column metadata")
  | column :: columns, row =>
    if row.isEmpty then
      .error (.protocol ("mysql row has fewer values than the " ++ toString n ++ " result columns"))
    else do
      let (length, isNull, pos) ← decodeLencInt row "mysql text row value length"
      if isNull then
        let values ← textCells d n columns (row.drop pos)
        return .null :: values
      else if row.length < pos + length then
        .error (.protocol "mysql text row value length exceeds packet payload")
      else
        let values ← textCells d n columns (row.drop (pos + length))
        return d.textValue column ((row.drop pos).take length) :: values

def textRowToGatewayValues (d : Decoders) (columns : List ColumnInfo) (row : Packet) : Except GatewayError Row :=
  textCells d columns.length columns row

def binaryRowToGatewayValues (d : Decoders) (columns : List ColumnInfo) (row : Packet) : Except GatewayError Row :=
  match BinaryRows.binaryRowToGatewayValues d.conversions row columns with
  | .error message => .error (.protocol message)
  | .ok (values, _) => .ok values

def rowDecoder (d : Decoders) (binary : Bool) (columns : List ColumnInfo) : Packet → Except GatewayError Row :=
  if binary then binaryRowToGatewayValues d columns else textRowToGatewayValues d columns

/-! ## The opening part -/

def Wire.readColumns : Nat → Wire → Except GatewayError (List Packet) × Wire
  | 0, w => (.ok [], w)
  | n + 1, w =>
    match w.read "mysql column definition" with
    | (.error e, w) => (.error e, w)
    | (.ok p, w) =>
      match Wire.readColumns n w with
      | (.error e, w) => (.error e, w)
      | (.ok ps, w) => (.ok (p :: ps), w)

/-- The number of columns, if the first packet opens a result set. -/
def columnCount (payload : Packet) : Option Nat :=
  match payload.head? with
  | none | some 0 | some 0xff => none
  | some _ =>
    match decodeLencInt payload "mysql column count" with
    | .ok (count, false, _) => some count
    | _ => none

/-- What a first packet says that opens no result set. -/
def headerOf (d : Decoders) (payload : Packet) : Header :=
  match payload.head? with
  | some 0 => .ok (okPacketToGatewayResponse payload)
  | some 0xff =>
    .err (errPacketToGatewayResponse d.conversions payload).1 (errPacketToGatewayResponse d.conversions payload).2
  | none => .empty
  | some _ =>
    match decodeLencInt payload "mysql column count" with
    | .error e => .badCount e
    | .ok _ => .nullCount

inductive Opening where
  | header (h : Header)
  | columns (definitions : List Packet)

/-- The opening part: the header packet, and the columns of a result set. -/
def readOpening (d : Decoders) (what : String) (w : Wire) : Opening × Wire :=
  match w.read ("mysql " ++ what ++ " header") with
  | (.error e, w) => (.header (.unreadable e), w)
  | (.ok payload, w) =>
    match columnCount payload with
    | none => (.header (headerOf d payload), w)
    | some count =>
      match w.readColumns count with
      | (.error e, w) => (.header (.badColumns e), w)
      | (.ok definitions, w) =>
        match w.read "mysql column eof" with
        | (.error e, w) => (.header (.badColumns e), w)
        | (.ok _, w) => (.columns definitions, w)

/-! ## The rows -/

/-- The row packets that a reader sees, up to the end of the result or of the connection. -/
def items (row : Packet → Except GatewayError Row) (last : Last) : DecodeState → List Packet → List Item
  | .complete, _ => []
  | _, [] =>
    match last with
    | .closed => []
    | .failed error => [.failed (.backend ("read mysql result packet: " ++ error))]
  | state, p :: ps =>
    match state.take p with
    | (none, _) => []
    | (some p, state) => .row (row p) :: items row last state ps

/-- How the producer task ends: the windows it sent, and the connection. -/
structure Produced where
  windows : List (List Row)
  wire : Wire

def Produced.before (window : List Row) (p : Produced) : Produced := { p with windows := window :: p.windows }

/-- The loop of a producer whose receiver is gone: the rest of the result is read and dropped. -/
def drain (last : Last) : DecodeState → List Packet → Wire
  | .complete, ps => ⟨.complete, ps, last, false⟩
  | state, [] => ⟨state, [], last, true⟩
  | state, p :: ps =>
    match state.take p with
    | (none, state) => ⟨state, ps, last, false⟩
    | (some _, state) => drain last state ps

/-- The producer task.  `heard` is the number of windows after which the receiver is gone, if it goes. -/
def producer (row : Packet → Except GatewayError Row) (last : Last) (window : Nat) (maxRows : Option Nat) :
    DecodeState → List Packet → (buf : List Row) → (total : Nat) → (truncated : Bool) → (heard : Option Nat) → Produced
  | .complete, ps, buf, _, _, _ => ⟨if buf.isEmpty then [] else [buf], ⟨.complete, ps, last, false⟩⟩
  | state, [], buf, _, _, _ =>
    match last with
    | .closed => ⟨if buf.isEmpty then [] else [buf], ⟨state, [], last, true⟩⟩
    -- `?`: the rows in the buffer are lost
    | .failed _ => ⟨[], ⟨state, [], last, true⟩⟩
  | state, p :: ps, buf, total, truncated, heard =>
    match state.take p with
    | (none, state) => ⟨if buf.isEmpty then [] else [buf], ⟨state, ps, last, false⟩⟩
    | (some p, state) =>
      if truncated then producer row last window maxRows state ps buf total truncated heard
      else if maxRows.any (· ≤ total) then producer row last window maxRows state ps buf total true heard
      else
        match row p with
        -- `?`: what follows stays unread
        | .error _ => ⟨[], ⟨state, ps, last, false⟩⟩
        | .ok values =>
          if window ≤ buf.length + 1 then
            match heard with
            | some 0 => ⟨[], drain last state ps⟩
            | heard =>
              (producer row last window maxRows state ps [] (total + 1) truncated (heard.map (· - 1))).before
                (buf ++ [values])
          else producer row last window maxRows state ps (buf ++ [values]) (total + 1) truncated heard

/-- While the receiver stays, the windows are those of `produce`. -/
theorem windows_producer (row : Packet → Except GatewayError Row) (last : Last) (window : Nat) (maxRows : Option Nat)
    (ps : List Packet) (state : DecodeState) (buf : List Row) (total : Nat) (truncated : Bool) :
    (producer row last window maxRows state ps buf total truncated none).windows =
      produce window maxRows (items row last state ps) buf total truncated := by
  induction ps generalizing state buf total truncated with
  | nil =>
    cases state with
    | complete => rfl
    | _ =>
      cases last with
      | closed => rfl
      | failed error => rfl
  | cons p ps ih =>
    cases state with
    | complete => rfl
    | _ =>
      unfold producer items
      rcases htake : DecodeState.take _ p with ⟨_ | q, state'⟩
      · rfl
      · dsimp only
        unfold produce
        dsimp only
        split
        · exact ih ..
        split
        · exact ih ..
        cases row q with
        | error e => rfl
        | ok values =>
          dsimp only
          rw [List.length_append, List.length_singleton]
          split
          · exact congrArg ((buf ++ [values]) :: ·) (ih ..)
          · exact ih ..

/-! ## Responses -/

/-- What a server sends for one statement, and how much of it arrives.  Without a result set the first packet is
    followed by `more` alone. -/
structure Response where
  head : Packet
  definitions : List Packet
  definitionsEnd : Packet
  rows : List Packet
  rowsEnd : Packet
  more : List Packet
  arrived : Nat
  last : Last
  counted : ∀ n, columnCount head = some n → definitions.length = n
  plain_definitions : ∀ p ∈ definitions, isEof p = false ∧ isOk p = false
  definitions_end : isEof definitionsEnd = true
  plain_rows : ∀ p ∈ rows, isEof p = false
  rows_end : isEof rowsEnd = true

def Response.isResultSet (r : Response) : Bool := (columnCount r.head).isSome

def Response.body (r : Response) : List Packet := r.rows ++ r.rowsEnd :: r.more

def Response.all (r : Response) : List Packet :=
  r.head :: (if r.isResultSet then r.definitions ++ r.definitionsEnd :: r.body else r.more)

def Response.packets (r : Response) : List Packet := r.all.take r.arrived

/-- The packets that arrive behind the columns. -/
def Response.arrivedBody (r : Response) : List Packet := r.body.take (r.arrived - (r.definitions.length + 2))

variable {w : Wire} {p : Packet} {total : Nat}

theorem Wire.next_cons {ps : List Packet} (hstate : w.state ≠ .complete) (hpackets : w.packets = p :: ps) :
    w.next = (.ok (w.state.take p).1, { w with state := (w.state.take p).2, packets := ps }) := by
  unfold Wire.next
  rw [if_neg hstate, hpackets]

theorem Wire.read_nil {w : Wire} (hstate : w.state ≠ .complete) (hpackets : w.packets = []) (context : String) :
    ∃ e, w.read context = (.error e, { w with dead := true }) := by
  unfold Wire.read Wire.next
  rw [if_neg hstate, hpackets]
  dsimp only
  cases w.last with
  | closed => exact ⟨_, rfl⟩
  | failed error => exact ⟨_, rfl⟩

theorem Wire.read_cons {w : Wire} {p : Packet} {ps : List Packet} {state : DecodeState} (hstate : w.state ≠ .complete)
    (hpackets : w.packets = p :: ps) (htake : w.state.take p = (some p, state)) (context : String) :
    w.read context = (.ok p, { w with state := state, packets := ps }) := by
  unfold Wire.read
  rw [w.next_cons hstate hpackets, htake]

theorem readColumns_eq {definitions : List Packet} (hplain : ∀ p ∈ definitions, isEof p = false ∧ isOk p = false)
    (tail : List Packet) (last : Last) (m : Nat) :
    (definitions.length ≤ m ∧ Wire.readColumns definitions.length ⟨.columnInfo, (definitions ++ tail).take m, last, false⟩ =
        (.ok definitions, ⟨.columnInfo, tail.take (m - definitions.length), last, false⟩)) ∨
      (m < definitions.length ∧ ∃ e,
        Wire.readColumns definitions.length ⟨.columnInfo, (definitions ++ tail).take m, last, false⟩ =
          (.error e, ⟨.columnInfo, [], last, true⟩)) := by
  induction definitions generalizing m with
  | nil => exact .inl ⟨Nat.zero_le m, rfl⟩
  | cons p definitions ih =>
    rw [List.forall_mem_cons] at hplain
    have htake : DecodeState.columnInfo.take p = (some p, .columnInfo) := by
      unfold DecodeState.take
      dsimp only
      rw [hplain.1.1, hplain.1.2, if_neg (by decide)]
    cases m with
    | zero =>
      obtain ⟨e, he⟩ := Wire.read_nil (w := ⟨.columnInfo, [], last, false⟩) nofun rfl "mysql column definition"
      refine .inr ⟨Nat.zero_lt_succ _, e, ?_⟩
      rw [List.take_zero, List.length_cons, Wire.readColumns, he]
    | succ m =>
      have hread := Wire.read_cons (w := ⟨.columnInfo, p :: (definitions ++ tail).take m, last, false⟩) nofun rfl htake
        "mysql column definition"
      rw [List.cons_append, List.take_succ_cons, List.length_cons, Wire.readColumns, hread]
      dsimp only
      rcases ih hplain.2 m with ⟨hle, hok⟩ | ⟨hlt, e, herror⟩
      · refine .inl ⟨Nat.succ_le_succ hle, ?_⟩
        rw [hok, Nat.succ_sub_succ]
      · refine .inr ⟨Nat.succ_lt_succ hlt, e, ?_⟩
        rw [herror]

theorem take_head {head : Packet} {n : Nat} (h : columnCount head = some n) :
    DecodeState.columnCount.take head = (some head, .columnInfo) := by
  have herr : head.head? ≠ some 0xff := by
    intro heq
    unfold columnCount at h
    rw [heq] at h
    cases h
  have hok : isOk head = false := by
    unfold isOk
    have hne : head.head? ≠ some 0 := by
      intro heq
      unfold columnCount at h
      rw [heq] at h
      cases h
    rw [Bool.and_eq_false_iff]
    exact .inr (beq_eq_false_iff_ne.mpr hne)
  unfold DecodeState.take
  dsimp only
  rw [hok, if_neg (by simp [herr])]

/-- Where the opening part of a response ends, and what it leaves. -/
inductive Opens (d : Decoders) (r : Response) (out : Opening × Wire) : Prop where
  | lost (e : GatewayError) (harrived : r.arrived = 0) (heq : out.1 = .header (.unreadable e))
      (hpackets : out.2.packets = []) (hdead : out.2.dead = true)
  /-- The first packet says all. -/
  | said (harrived : 0 < r.arrived) (hset : r.isResultSet = false) (heq : out.1 = .header (headerOf d r.head))
      (hpackets : out.2.packets = r.more.take (r.arrived - 1)) (hdead : out.2.dead = false)
  /-- The connection ends before the rows. -/
  | cut (e : GatewayError) (harrived : 0 < r.arrived) (hset : r.isResultSet = true)
      (hcut : r.arrived < r.definitions.length + 2) (heq : out.1 = .header (.badColumns e)) (hpackets : out.2.packets = [])
      (hdead : out.2.dead = true)
  | rows (hset : r.isResultSet = true) (harrived : r.definitions.length + 2 ≤ r.arrived)
      (heq : out.1 = .columns r.definitions) (hwire : out.2 = ⟨.row, r.arrivedBody, r.last, false⟩)

/-- The connection after a statement was sent on it. -/
def Wire.answered (w : Wire) (r : Response) : Wire :=
  if w.dead then w else ⟨.columnCount, w.packets ++ r.packets, r.last, false⟩

theorem opens_response (d : Decoders) (what : String) (r : Response) :
    Opens d r (readOpening d what ⟨.columnCount, r.packets, r.last, false⟩) := by
  unfold readOpening
  cases harrived : r.arrived with
  | zero =>
    have hpackets : r.packets = [] := by
      unfold Response.packets
      rw [harrived]
      rfl
    obtain ⟨e, he⟩ := Wire.read_nil (w := ⟨.columnCount, [], r.last, false⟩) nofun rfl ("mysql " ++ what ++ " header")
    rw [hpackets, he]
    exact .lost e harrived rfl rfl rfl
  | succ m =>
    cases hcount : columnCount r.head with
    | none =>
      have hset : r.isResultSet = false := by
        unfold Response.isResultSet
        rw [hcount]
        rfl
      have hpackets : r.packets = r.head :: r.more.take m := by
        unfold Response.packets Response.all
        rw [harrived, hset]
        rfl
      have hread : ∃ state, Wire.read ⟨.columnCount, r.packets, r.last, false⟩ ("mysql " ++ what ++ " header") =
          (.ok r.head, ⟨state, r.more.take m, r.last, false⟩) :=
        ⟨_, Wire.read_cons (w := ⟨.columnCount, r.packets, r.last, false⟩) nofun hpackets rfl _⟩
      obtain ⟨state, hread⟩ := hread
      rw [hread]
      dsimp only
      rw [hcount]
      refine .said (by omega) hset rfl ?_ rfl
      rw [harrived]
      rfl
    | some n =>
      have hset : r.isResultSet = true := by
        unfold Response.isResultSet
        rw [hcount]
        rfl
      have hpackets : r.packets = r.head :: (r.definitions ++ r.definitionsEnd :: r.body).take m := by
        unfold Response.packets Response.all
        rw [harrived, hset]
        rfl
      have hread := Wire.read_cons (w := ⟨.columnCount, r.packets, r.last, false⟩) nofun hpackets (take_head hcount)
        ("mysql " ++ what ++ " header")
      rw [hread]
      dsimp only
      rw [hcount]
      dsimp only
      rw [← r.counted n hcount]
      rcases readColumns_eq r.plain_definitions (r.definitionsEnd :: r.body) r.last m with
        ⟨hle, hok⟩ | ⟨hlt, e, herror⟩
      · rw [hok]
        dsimp only
        cases hrest : m - r.definitions.length with
        | zero =>
          obtain ⟨e, he⟩ := Wire.read_nil (w := ⟨.columnInfo, [], r.last, false⟩) nofun rfl "mysql column eof"
          rw [List.take_zero, he]
          exact .cut e (by omega) hset (by omega) rfl rfl rfl
        | succ k =>
          have htake : DecodeState.columnInfo.take r.definitionsEnd = (some r.definitionsEnd, .row) := by
            unfold DecodeState.take
            dsimp only
            rw [r.definitions_end, if_pos (.inl rfl)]
          have heof := Wire.read_cons
            (w := ⟨.columnInfo, r.definitionsEnd :: r.body.take k, r.last, false⟩) nofun rfl htake "mysql column eof"
          rw [List.take_succ_cons, heof]
          refine .rows hset (by omega) rfl ?_
          unfold Response.arrivedBody
          rw [harrived, show m + 1 - (r.definitions.length + 2) = k by omega]
      · rw [herror]
        exact .cut e (by omega) hset (by omega) rfl rfl rfl

/-! ## What the producer leaves -/

def isBad (row : Packet → Except GatewayError Row) (p : Packet) : Bool :=
  match row p with
  | .error _ => true
  | .ok _ => false

/-- The first elements of a list, all of them without a bound. -/
def upTo (bound : Option Nat) (ps : List Packet) : List Packet :=
  match bound with
  | none => ps
  | some n => ps.take n

/-- The rows that a producer decodes: up to the row cap, and up to the window that nobody takes. -/
def lookedAt (window : Nat) (maxRows heard : Option Nat) (rows : List Packet) : List Packet :=
  upTo (heard.map fun k => (k + 1) * window) (upTo maxRows rows)

def stillLookedAt (window : Nat) (maxRows : Option Nat) (buffered total : Nat) (truncated : Bool) (heard : Option Nat)
    (rows : List Packet) : List Packet :=
  if truncated then []
  else upTo (heard.map fun k => (k + 1) * window - buffered) (upTo (maxRows.map (· - total)) rows)

/-- A connection behind the row with this number, or behind the last EOF. -/
structure LeftAt (rows tail : List Packet) (stop : Option Nat) (w : Wire) : Prop where
  packets : w.packets = match stop with
    | some i => (rows ++ tail).drop (i + 1)
    | none => tail.drop 1
  dead : w.dead = (stop.isNone && tail.isEmpty)

theorem LeftAt.tail {rows tail : List Packet} {stop : Option Nat} (h : LeftAt rows tail stop w) :
    LeftAt (p :: rows) tail (stop.map (· + 1)) w := by
  cases stop with
  | none => exact ⟨h.packets, h.dead⟩
  | some i => exact ⟨h.packets, h.dead⟩

@[simp] theorem upTo_nil (bound : Option Nat) : upTo bound [] = [] := by
  cases bound with
  | none => rfl
  | some n => exact List.take_nil

theorem upTo_cons {bound : Option Nat} (h : bound.any (· = 0) = false) (p : Packet) (ps : List Packet) :
    upTo bound (p :: ps) = p :: upTo (bound.map (· - 1)) ps := by
  cases bound with
  | none => rfl
  | some n =>
    cases n with
    | zero => cases h
    | succ n => rfl

@[simp] theorem looked_nil (window : Nat) (maxRows : Option Nat) (buffered total : Nat) (truncated : Bool)
    (heard : Option Nat) : stillLookedAt window maxRows buffered total truncated heard [] = [] := by
  unfold stillLookedAt
  rw [upTo_nil, upTo_nil, ite_self]

@[simp] theorem looked_truncated (window : Nat) (maxRows : Option Nat) (buffered total : Nat) (heard : Option Nat)
    (rows : List Packet) : stillLookedAt window maxRows buffered total true heard rows = [] := rfl

theorem looked_capped {window : Nat} {maxRows : Option Nat} (h : maxRows.any (· ≤ total) = true)
    (buffered : Nat) (truncated : Bool) (heard : Option Nat) (rows : List Packet) :
    stillLookedAt window maxRows buffered total truncated heard rows = [] := by
  cases maxRows with
  | none => cases h
  | some max =>
    have hzero : max - total = 0 := Nat.sub_eq_zero_of_le (of_decide_eq_true h)
    have hnone : upTo ((some max).map (· - total)) rows = [] := by
      rw [Option.map_some, hzero]
      exact List.take_zero (l := rows)
    unfold stillLookedAt
    rw [hnone, upTo_nil, ite_self]

theorem looked_cons {window : Nat} {maxRows : Option Nat} {buffered : Nat}
    (hcap : ¬ maxRows.any (· ≤ total) = true) (hbuf : buffered < window) (heard : Option Nat) (p : Packet)
    (rows : List Packet) : stillLookedAt window maxRows buffered total false heard (p :: rows) =
      p :: stillLookedAt window maxRows (buffered + 1) (total + 1) false heard rows := by
  have hmax : (maxRows.map (· - total)).any (· = 0) = false := by
    cases maxRows with
    | none => rfl
    | some max =>
      have hlt : total < max := by simpa using hcap
      simpa using Nat.sub_ne_zero_of_lt hlt
  have hheard : (heard.map fun k => (k + 1) * window - buffered).any (· = 0) = false := by
    cases heard with
    | none => rfl
    | some k =>
      have hle : window ≤ (k + 1) * window := Nat.le_mul_of_pos_left window (Nat.succ_pos k)
      simpa using Nat.sub_ne_zero_of_lt (Nat.lt_of_lt_of_le hbuf hle)
  unfold stillLookedAt
  rw [if_neg Bool.false_ne_true, if_neg Bool.false_ne_true, upTo_cons hmax, upTo_cons hheard, Option.map_map,
    Option.map_map]
  rfl

theorem looked_sent (window : Nat) (maxRows : Option Nat) (total : Nat) (heard : Option Nat) (hheard : heard ≠ some 0)
    (rows : List Packet) : stillLookedAt window maxRows window total false heard rows =
      stillLookedAt window maxRows 0 total false (heard.map (· - 1)) rows := by
  cases heard with
  | none => rfl
  | some k =>
    cases k with
    | zero => exact absurd rfl hheard
    | succ k =>
      unfold stillLookedAt
      have hnum : (k + 1 + 1) * window - window = (k + 1) * window - 0 := by
        rw [Nat.succ_mul (k + 1) window]
        omega
      simp only [Option.map_some, hnum, Nat.add_sub_cancel]

theorem looked_refused (window : Nat) (maxRows : Option Nat) (total : Nat) (rows : List Packet) :
    stillLookedAt window maxRows window total false (some 0) rows = [] := by
  unfold stillLookedAt upTo
  simp

theorem take_row (h : isEof p = false) : DecodeState.row.take p = (some p, .row) := by
  unfold DecodeState.take
  dsimp only
  rw [h]
  rfl

theorem take_eof (h : isEof p = true) : DecodeState.row.take p = (none, .complete) := by
  unfold DecodeState.take
  dsimp only
  rw [h]
  rfl

section Tail

variable {rows tail : List Packet} (hrows : ∀ p ∈ rows, isEof p = false) (htail : ∀ p ∈ tail.head?, isEof p = true)

include hrows htail

theorem left_drain (last : Last) : LeftAt rows tail none (drain last .row (rows ++ tail)) := by
  induction rows with
  | nil =>
    cases tail with
    | nil => exact ⟨rfl, rfl⟩
    | cons eof more =>
      unfold drain
      dsimp only [List.nil_append]
      rw [take_eof (htail eof rfl)]
      exact ⟨rfl, rfl⟩
  | cons p rows ih =>
    rw [List.forall_mem_cons] at hrows
    unfold drain
    dsimp only [List.cons_append]
    rw [take_row hrows.1]
    exact (ih hrows.2).tail

variable (row : Packet → Except GatewayError Row) (last : Last) {window : Nat} (maxRows : Option Nat)

/-- **What the producer leaves unread**: what stands behind the first row that it decodes in vain, else what stands behind
    the last EOF. -/
theorem left_producer {buf : List Row} (hbuf : buf.length < window) (total : Nat) (truncated : Bool)
    (heard : Option Nat) :
    LeftAt rows tail ((stillLookedAt window maxRows buf.length total truncated heard rows).findIdx? (isBad row))
      (producer row last window maxRows .row (rows ++ tail) buf total truncated heard).wire := by
  induction rows generalizing buf total truncated heard with
  | nil =>
    rw [looked_nil, List.findIdx?_nil, List.nil_append]
    cases tail with
    | nil =>
      unfold producer
      cases last with
      | closed => exact ⟨rfl, rfl⟩
      | failed error => exact ⟨rfl, rfl⟩
    | cons eof more =>
      unfold producer
      rw [take_eof (htail eof rfl)]
      exact ⟨rfl, rfl⟩
  | cons p rows ih =>
    rw [List.forall_mem_cons] at hrows
    have hnext := @ih hrows.2
    rw [List.cons_append]
    unfold producer
    rw [take_row hrows.1]
    dsimp only
    cases truncated with
    | true =>
      rw [if_pos rfl, looked_truncated, List.findIdx?_nil]
      exact (hnext hbuf total true heard).tail
    | false =>
      rw [if_neg Bool.false_ne_true]
      by_cases hcap : maxRows.any (· ≤ total) = true
      · rw [if_pos hcap, looked_capped hcap, List.findIdx?_nil]
        exact (hnext hbuf total true heard).tail
      · rw [if_neg hcap, looked_cons hcap hbuf, List.findIdx?_cons]
        cases hrow : row p with
        | error e =>
          have hbad : isBad row p = true := by
            unfold isBad
            rw [hrow]
          rw [hbad, if_pos rfl]
          exact ⟨rfl, rfl⟩
        | ok values =>
          have hgood : isBad row p = false := by
            unfold isBad
            rw [hrow]
          rw [hgood, if_neg Bool.false_ne_true]
          dsimp only
          by_cases hfull : window ≤ buf.length + 1
          · have hwindow : buf.length + 1 = window := Nat.le_antisymm hbuf hfull
            rw [if_pos hfull, hwindow]
            cases heard with
            | none =>
              rw [looked_sent window maxRows (total + 1) none nofun]
              exact (@hnext [] (Nat.lt_of_le_of_lt (Nat.zero_le _) hbuf) (total + 1) false none).tail
            | some k =>
              cases k with
              | zero =>
                rw [looked_refused, List.findIdx?_nil]
                exact (left_drain hrows.2 htail last).tail
              | succ k =>
                rw [looked_sent window maxRows (total + 1) (some (k + 1)) nofun]
                exact (@hnext [] (Nat.lt_of_le_of_lt (Nat.zero_le _) hbuf) (total + 1) false (some k)).tail
          · rw [if_neg hfull]
            have hlen : (buf ++ [values]).length = buf.length + 1 := by rw [List.length_append, List.length_singleton]
            rw [← hlen]
            exact (@hnext (buf ++ [values]) (by omega) (total + 1) false heard).tail

end Tail

/-! ## Where the reader of a response stops -/

def Response.arrivedRows (r : Response) : List Packet := r.rows.take (r.arrived - (r.definitions.length + 2))

/-- The number of the row at which the producer gives up. -/
def Response.stop (r : Response) (row : Packet → Except GatewayError Row) (window : Nat) (maxRows heard : Option Nat) :
    Option Nat :=
  (lookedAt window maxRows heard r.arrivedRows).findIdx? (isBad row)

/-- The packets that arrive behind the place where the reader stops. -/
def Response.behind (r : Response) (stop : Option Nat) : List Packet :=
  if r.isResultSet then
    match stop with
    | some i => r.arrivedBody.drop (i + 1)
    | none => r.arrivedBody.drop (r.rows.length + 1)
  else r.more.take (r.arrived - 1)

/-- The reader waits for a packet that does not come. -/
def Response.endsWaiting (r : Response) (stop : Option Nat) : Prop :=
  r.arrived = 0 ∨ r.isResultSet = true ∧ stop = none ∧ r.arrived ≤ r.definitions.length + 2 + r.rows.length

/-- The whole result set is there, with every row that is looked at, and no ERR among the rows. -/
structure Response.WholeRows (r : Response) (stop : Option Nat) : Prop where
  arrived : r.definitions.length + 2 + r.rows.length < r.arrived
  noErr : ∀ p ∈ r.rows, p.head? ≠ some 0xff
  decoded : stop = none

theorem left_rows (r : Response) (row : Packet → Except GatewayError Row) {window : Nat} (hwindow : 0 < window)
    (maxRows heard : Option Nat) (hset : r.isResultSet = true) (harrived : r.definitions.length + 2 ≤ r.arrived) :
    (producer row r.last window maxRows .row r.arrivedBody [] 0 false heard).wire.packets =
        r.behind (r.stop row window maxRows heard) ∧
      ((producer row r.last window maxRows .row r.arrivedBody [] 0 false heard).wire.dead = true ↔
        r.endsWaiting (r.stop row window maxRows heard)) := by
  have hsplit : r.arrivedBody = r.arrivedRows ++
      (r.rowsEnd :: r.more).take (r.arrived - (r.definitions.length + 2) - r.rows.length) := List.take_append ..
  have hrows : ∀ p ∈ r.arrivedRows, isEof p = false := fun p hp => r.plain_rows p (List.mem_of_mem_take hp)
  have htail : ∀ p ∈ ((r.rowsEnd :: r.more).take (r.arrived - (r.definitions.length + 2) - r.rows.length)).head?,
      isEof p = true := by
    intro p hp
    cases hk : r.arrived - (r.definitions.length + 2) - r.rows.length with
    | zero =>
      rw [hk] at hp
      cases hp
    | succ k =>
      rw [hk] at hp
      obtain rfl := Option.some.inj hp
      exact r.rows_end
  have hlooked : stillLookedAt window maxRows ([] : List Row).length 0 false heard r.arrivedRows =
      lookedAt window maxRows heard r.arrivedRows := by
    unfold stillLookedAt lookedAt
    rw [if_neg Bool.false_ne_true]
    cases heard <;> cases maxRows <;> rfl
  have hleft := @left_producer _ _ hrows htail row r.last window maxRows [] hwindow 0 false heard
  rw [hlooked, ← hsplit] at hleft
  change LeftAt _ _ (r.stop row window maxRows heard) _ at hleft
  constructor
  · rw [hleft.packets]
    unfold Response.behind
    rw [if_pos hset]
    cases hstop : r.stop row window maxRows heard with
    | some i =>
      dsimp only
      rw [← hsplit]
    | none =>
      dsimp only
      rw [hsplit]
      unfold Response.arrivedRows
      by_cases hle : r.arrived - (r.definitions.length + 2) ≤ r.rows.length
      · rw [Nat.sub_eq_zero_of_le hle, List.take_zero, List.append_nil, List.drop_nil]
        refine (List.drop_eq_nil_of_le ?_).symm
        rw [List.length_take]
        omega
      · rw [List.take_of_length_le (Nat.le_of_not_le hle), List.drop_append, Nat.add_sub_cancel_left,
          List.drop_eq_nil_of_le (Nat.le_succ _), List.nil_append]
  · rw [hleft.dead, Bool.and_eq_true, Option.isNone_iff_eq_none, List.isEmpty_iff, List.take_eq_nil_iff]
    unfold Response.endsWaiting
    constructor
    · rintro ⟨hstop, hzero | hnil⟩
      · exact .inr ⟨hset, hstop, by omega⟩
      · cases hnil
    · rintro (hzero | ⟨-, hstop, hle⟩)
      · omega
      · exact ⟨hstop, .inl (by omega)⟩

end DataNexus.MySqlResponse
