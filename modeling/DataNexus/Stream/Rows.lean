/-
  Streaming rows from a PostgreSQL backend to the client
  (`backend/postgresql.rs`, `gateway/core/src/transport.rs`, `frontend/postgresql.rs`).

      backend items ──produce──▶ windows ──channel──▶ writeLoop ──▶ messages to the client

  The CALL waits for the columns and spawns a PRODUCER, which cuts the backend stream into windows for a bounded channel;
  the WRITER polls, masks and encodes them.  `poll_window` answers `None` when the producer is gone, WHATEVER the reason.
-/
import DataNexus.Model

namespace DataNexus.Stream

abbrev Row := List GatewayValue

/-! ## What the backend driver delivers -/

/-- An item of `simple_query_raw`; `failed` carries the error already mapped by
    `postgresql_backend_error`.  The end of the list is the end of the stream. -/
inductive SimpleItem where
  | rowDescription (names : List String)
  | row (values : Row)
  | commandComplete (count : Nat)
  | other
  | failed (e : GatewayError)

/-- An item of `query_raw`: a typed row with its columns and what decoding it gives, or a failure. -/
inductive TypedItem where
  | row (columns : List Column) (values : Except GatewayError Row)
  | failed (e : GatewayError)

/-- What the producer sees in an item of either stream. -/
inductive Item where
  | row (values : Except GatewayError Row)
  | ignored
  | failed (e : GatewayError)

/-- The producer of the simple path looks at rows and failures only. -/
def SimpleItem.item : SimpleItem → Item
  | .row values => .row (.ok values)
  | .failed e => .failed e
  | _ => .ignored

def TypedItem.item : TypedItem → Item
  | .row _ values => .row values
  | .failed e => .failed e

/-! ## Before the producer is spawned -/

/-- How the opening part of a streaming call ends. -/
inductive Start (ι : Type) where
  /-- `Ok(Complete(response))`: no rows to stream. -/
  | complete (response : GatewayResponse)
  /-- `Err(e)`. -/
  | error (e : GatewayError)
  /-- The columns are known; the producer gets the rest of the stream. -/
  | rows (columns : List Column) (rest : List ι)

/-- The loop of `execute_simple_query_streaming` that waits for the row description. -/
def awaitRowDescription : List SimpleItem → Start SimpleItem
  | [] => .complete (.ok 0 none)
  | .failed e :: _ => .error e
  | .rowDescription names :: rest => .rows (names.map fun n => ⟨n, "text"⟩) rest
  | .commandComplete count :: _ => .complete (.ok count none)
  | .row _ :: _ =>
    .error (.protocol "postgresql simple_query_raw delivered DataRow before RowDescription")
  | .other :: rest => awaitRowDescription rest

/-- The same for `execute_param_query_streaming`: the first row establishes the columns.  It is decoded
    here and handed to the producer as its first item. -/
def awaitFirstRow : List TypedItem → Start TypedItem
  | [] => .complete (.resultSet [] [])
  | .failed e :: _ => .error e
  | .row _ (.error e) :: _ => .error e
  | .row columns (.ok values) :: rest => .rows columns (.row columns (.ok values) :: rest)

/-! ## The producer -/

/-- The producer task.  `buf` is `window_buf`, `total` the rows taken so far, `truncated` is set once the row cap was hit.
    A failure ends the task through `?`: the rows in `buf` are lost. -/
def produce (window : Nat) (maxRows : Option Nat) :
    List Item → (buf : List Row) → (total : Nat) → (truncated : Bool) → List (List Row)
  | [], buf, _, _ => if buf.isEmpty then [] else [buf]
  | .failed _ :: _, _, _, _ => []
  | .ignored :: items, buf, total, truncated => produce window maxRows items buf total truncated
  | .row values :: items, buf, total, truncated =>
    if truncated then produce window maxRows items buf total truncated
    else if maxRows.any (· ≤ total) then produce window maxRows items buf total true
    else match values with
      | .error _ => []
      | .ok values =>
        let buf := buf ++ [values]
        if buf.length ≥ window then buf :: produce window maxRows items [] (total + 1) truncated
        else produce window maxRows items buf (total + 1) truncated

/-! ## The writer -/

inductive ClientMessage where
  | rowDescription (columns : List Column)
  | dataRow (payload : List UInt8)
  | commandComplete (tag : String)
  | portalSuspended
  | errorResponse (code message : String)
  | readyForQuery
deriving DecidableEq

/-- What `write_streaming_query_with_obligations_sample` works with.  `view` is the masking and
    watermarking of one row, `encodeHeader` and `encodeRow` the frontend's encoders, which refuse what
    they cannot represent. -/
structure Writer where
  /-- The header, after the watermark column was added. -/
  columns : List Column
  window : Nat
  /-- `obligations.max_rows`, with the client's page size folded in. -/
  maxTotal : Option Nat
  /-- `session.pg_portal_skip_rows`. -/
  skipRows : Nat
  holdRemainder : Bool
  view : Row → Row
  encodeHeader : List Column → Except GatewayError (List ClientMessage)
  encodeRow : List Column → Row → Except GatewayError ClientMessage
  /-- `session.pg_extended_query`. -/
  extendedQuery : Bool
  /-- `session.pg_execute_max_rows`. -/
  executeMaxRows : Option Nat

/-- `encode_resultset_rows`: row by row, the first refusal ends it. -/
def Writer.encodeRows (w : Writer) : List Row → Except GatewayError (List ClientMessage)
  | [] => .ok []
  | row :: rows =>
    match w.encodeRow w.columns (w.view row) with
    | .error e => .error e
    | .ok m =>
      match w.encodeRows rows with
      | .error e => .error e
      | .ok ms => .ok (m :: ms)

/-- `encode_resultset_footer`. -/
def Writer.footer (w : Writer) (totalRows : Nat) (truncated : Bool) : List ClientMessage :=
  let clientPage := w.executeMaxRows.filter (0 < ·)
  if w.extendedQuery && truncated && clientPage.any (· ≤ totalRows) then [.portalSuspended]
  else if w.extendedQuery then [.commandComplete ("SELECT " ++ toString totalRows)]
  else [.commandComplete ("SELECT " ++ toString totalRows), .readyForQuery]

structure LoopEnd where
  totalRows : Nat
  truncated : Bool
  /-- The stream kept for the next page: the rows already polled, and what is still in the channel. -/
  held : Option (List Row × List (List Row))

/-- The row cap is reached: keep the stream for the next page if there is more, or drain it. -/
def Writer.atCap (w : Writer) (chunks : List (List Row)) (total : Nat) (truncated : Bool)
    (leftover : Option (List Row)) : LoopEnd :=
  if w.holdRemainder then
    match leftover, chunks with
    | some rows, _ => ⟨total, true, some (rows, chunks)⟩
    | none, chunk :: rest =>
      if chunk.isEmpty then ⟨total, truncated, none⟩ else ⟨total, true, some (chunk, rest)⟩
    | none, [] => ⟨total, truncated, none⟩
  else ⟨total, chunks.any (fun c => !c.isEmpty) || truncated, none⟩

/-- The loop of `write_streaming_query_with_obligations_sample`: a turn stops at the cap or writes one window. -/
def Writer.writeLoop (w : Writer) : List (List Row) → (total skip : Nat) → (truncated : Bool) →
    (leftover : Option (List Row)) → (out : List ClientMessage) →
    Except (GatewayError × List ClientMessage) (LoopEnd × List ClientMessage)
  | chunks, total, skip, truncated, leftover, out =>
    if w.maxTotal.any (· ≤ total) then .ok (w.atCap chunks total truncated leftover, out)
    else match chunks with
      | [] => .ok (⟨total, truncated, none⟩, out)
      | chunk :: rest =>
        let skipN := min skip chunk.length
        let chunk := chunk.drop skipN
        if 0 < skip ∧ chunk.isEmpty then w.writeLoop rest total (skip - skipN) truncated leftover out
        else
          let remain := match w.maxTotal with
            | some max => max - total
            | none => chunk.length
          let excess := remain < chunk.length
          let rows := chunk.take remain
          let leftover := if excess ∧ w.holdRemainder then some (chunk.drop remain) else leftover
          match w.encodeRows rows with
          | .error e => .error (e, out)
          | .ok messages =>
            w.writeLoop rest (total + rows.length) (skip - skipN) (truncated || excess) leftover
              (out ++ messages)

/-- `write_streaming_query_with_obligations_sample`: header, rows, footer.  An error is returned with
    the messages that were already written. -/
def Writer.write (w : Writer) (chunks : List (List Row)) :
    Except (GatewayError × List ClientMessage) (LoopEnd × List ClientMessage) :=
  match w.encodeHeader w.columns with
  | .error e => .error (e, [])
  | .ok header =>
    match w.writeLoop chunks 0 w.skipRows false none header with
    | .error failure => .error failure
    | .ok (e, messages) => .ok (e, messages ++ w.footer e.totalRows e.truncated)

end DataNexus.Stream
