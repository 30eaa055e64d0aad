/-
  What the client sees when a backend row stream fails.

  A truncated result must not look complete: whatever the position at which the stream fails, the
  answer should end with an error.  Three facts decide it.

  1. Before the producer is spawned an error is returned by the call and becomes an ErrorResponse.
  2. Afterwards the producer keeps the error to itself (it is logged) and the channel closes, so the
     writer's own result depends on the encoder only: `write_error_iff`.
  3. A writer that succeeds ends with its footer, and a footer is never an error.

  `reply_ends_with_error_iff` puts them together for both streaming paths.
-/
import DataNexus.Stream.Rows

namespace DataNexus.Stream

/-! ## The writer's result -/

def Writer.Refuses (w : Writer) (row : Row) : Prop := ∃ e, w.encodeRow w.columns (w.view row) = .error e

/-- The rows of this page: what the windows hold, without the rows of earlier pages and up to the cap. -/
def Writer.page (w : Writer) (chunks : List (List Row)) (total skip : Nat) : List Row :=
  match w.maxTotal with
  | some max => (chunks.flatten.drop skip).take (max - total)
  | none => chunks.flatten.drop skip

theorem encodeRows_error_iff (w : Writer) (rows : List Row) :
    (∃ e, w.encodeRows rows = .error e) ↔ ∃ row ∈ rows, w.Refuses row := by
  induction rows with
  | nil => simp [Writer.encodeRows]
  | cons row rows ih =>
    unfold Writer.encodeRows
    cases hrow : w.encodeRow w.columns (w.view row) with
    | error e =>
      constructor
      · intro _
        exact ⟨row, List.mem_cons_self, e, hrow⟩
      · intro _
        exact ⟨e, rfl⟩
    | ok m =>
      have hnot : ¬w.Refuses row := by
        rintro ⟨e, he⟩
        rw [hrow] at he
        cases he
      constructor
      · rintro ⟨e, he⟩
        cases hrest : w.encodeRows rows with
        | error e' =>
          obtain ⟨r, hr, hrefuses⟩ := ih.mp ⟨e', hrest⟩
          exact ⟨r, List.mem_cons_of_mem _ hr, hrefuses⟩
        | ok ms => rw [hrest] at he; cases he
      · rintro ⟨r, hr, hrefuses⟩
        rcases List.mem_cons.mp hr with rfl | hr
        · exact absurd hrefuses hnot
        · obtain ⟨e, he⟩ := ih.mpr ⟨r, hr, hrefuses⟩
          exact ⟨e, by rw [he]⟩

variable {w : Writer} {total skip : Nat} {chunk : List Row}

theorem page_at_cap (h : w.maxTotal.any (· ≤ total) = true) (chunks : List (List Row)) (skip : Nat) :
    w.page chunks total skip = [] := by
  unfold Writer.page
  cases hmax : w.maxTotal with
  | none => rw [hmax] at h; cases h
  | some max =>
    rw [hmax] at h
    have hle : max ≤ total := by simpa using h
    show (chunks.flatten.drop skip).take (max - total) = []
    rw [Nat.sub_eq_zero_of_le hle, List.take_zero]

theorem page_skip (w : Writer) (rest : List (List Row)) (total : Nat) (h : chunk.length ≤ skip) :
    w.page (chunk :: rest) total skip = w.page rest total (skip - min skip chunk.length) := by
  have hdrop : (chunk :: rest).flatten.drop skip =
      rest.flatten.drop (skip - min skip chunk.length) := by
    rw [List.flatten_cons, List.drop_append, List.drop_eq_nil_of_le h, List.nil_append, Nat.min_eq_right h]
  unfold Writer.page
  rw [hdrop]

theorem page_cons (w : Writer) (rest : List (List Row)) {remain : Nat}
    (hcap : w.maxTotal.any (· ≤ total) = false) (hskip : skip ≤ chunk.length) (hremain : remain = match w.maxTotal with
      | some max => max - total
      | none => (chunk.drop skip).length) :
    w.page (chunk :: rest) total skip =
      (chunk.drop skip).take remain ++
        w.page rest (total + ((chunk.drop skip).take remain).length) 0 := by
  unfold Writer.page
  rw [List.flatten_cons, List.drop_append_of_le_length hskip]
  cases hmax : w.maxTotal with
  | none =>
    rw [hmax] at hremain
    simp only at hremain
    rw [hremain, List.take_length]
    simp
  | some max =>
    rw [hmax] at hremain hcap
    simp only at hremain
    subst hremain
    have hlt : total < max := by simpa using hcap
    have hleft : max - total - (chunk.drop skip).length =
        max - (total + ((chunk.drop skip).take (max - total)).length) := by
      rw [List.length_take]
      omega
    simp only [List.drop_zero]
    rw [List.take_append, hleft]

/-- **The writer's loop fails exactly on a row it cannot encode.**  Induction on the windows. -/
theorem writeLoop_error_iff (w : Writer) (chunks : List (List Row)) :
    ∀ (total skip : Nat) (truncated : Bool) (leftover : Option (List Row)) (out : List ClientMessage),
      (∃ x, w.writeLoop chunks total skip truncated leftover out = .error x) ↔
        ∃ row ∈ w.page chunks total skip, w.Refuses row := by
  induction chunks with
  | nil =>
    intro total skip truncated leftover out
    have hpage : w.page [] total skip = [] := by
      unfold Writer.page
      cases w.maxTotal <;> simp
    rw [hpage, Writer.writeLoop]
    split <;> simp
  | cons chunk rest ih =>
    intro total skip truncated leftover out
    rw [Writer.writeLoop]
    by_cases hcap : w.maxTotal.any (· ≤ total) = true
    · rw [if_pos hcap, page_at_cap hcap]
      simp
    · have hcap' : w.maxTotal.any (· ≤ total) = false := by simpa using hcap
      rw [if_neg hcap]
      simp only
      by_cases hempty : 0 < skip ∧ (chunk.drop (min skip chunk.length)).isEmpty = true
      · -- only rows of earlier pages
        rw [if_pos hempty, ih]
        have hlen : chunk.length ≤ skip := by
          have := List.isEmpty_iff.mp hempty.2
          have := List.drop_eq_nil_iff.mp this
          omega
        rw [page_skip w rest total hlen]
      · rw [if_neg hempty]
        -- either nothing is skipped, or the skipped rows end inside this window
        have hskip : skip ≤ chunk.length := by
          by_contra hgt
          apply hempty
          refine ⟨by omega, ?_⟩
          rw [Nat.min_eq_right (by omega), List.drop_length]
          rfl
        rw [Nat.min_eq_left hskip, Nat.sub_self]
        rw [page_cons w rest hcap' hskip rfl]
        generalize hrows : (chunk.drop skip).take (match w.maxTotal with
          | some max => max - total
          | none => (chunk.drop skip).length) = rows
        cases henc : w.encodeRows rows with
        | error e =>
          obtain ⟨row, hmem, hrefuses⟩ := (encodeRows_error_iff w rows).mp ⟨e, henc⟩
          constructor
          · intro _
            exact ⟨row, List.mem_append_left _ hmem, hrefuses⟩
          · intro _
            exact ⟨(e, out), rfl⟩
        | ok messages =>
          have hno : ¬∃ row ∈ rows, w.Refuses row := by
            rw [← encodeRows_error_iff, henc]
            simp
          simp only
          rw [ih]
          constructor
          · rintro ⟨row, hmem, hrefuses⟩
            exact ⟨row, List.mem_append_right _ hmem, hrefuses⟩
          · rintro ⟨row, hmem, hrefuses⟩
            rcases List.mem_append.mp hmem with hmem | hmem
            · exact absurd ⟨row, hmem, hrefuses⟩ hno
            · exact ⟨row, hmem, hrefuses⟩

/-- The header or some row of the page cannot be encoded. -/
def Writer.Unencodable (w : Writer) (chunks : List (List Row)) : Prop :=
  (∃ e, w.encodeHeader w.columns = .error e) ∨ ∃ row ∈ w.page chunks 0 w.skipRows, w.Refuses row

/-- The whole writer fails exactly when something cannot be encoded: the stream's own failure is not
    among its reasons. -/
theorem write_error_iff (w : Writer) (chunks : List (List Row)) :
    (∃ x, w.write chunks = .error x) ↔ w.Unencodable chunks := by
  unfold Writer.write Writer.Unencodable
  cases hheader : w.encodeHeader w.columns with
  | error e => simp
  | ok header =>
    have hloop := writeLoop_error_iff w chunks 0 w.skipRows false none header
    cases hrun : w.writeLoop chunks 0 w.skipRows false none header with
    | error x =>
      rw [hrun] at hloop
      simp only [hrun]
      constructor
      · intro _
        exact Or.inr (hloop.mp ⟨x, rfl⟩)
      · intro _
        exact ⟨x, rfl⟩
    | ok r =>
      rw [hrun] at hloop
      simp only [hrun]
      constructor
      · rintro ⟨x, hx⟩
        cases hx
      · rintro (⟨e, he⟩ | h)
        · cases he
        · obtain ⟨x, hx⟩ := hloop.mpr h
          cases hx

/-! ## The answer to a streaming query -/

/-- What the client gets: the messages written, and the error the session loop then reports (by an
    ErrorResponse or by closing the connection). -/
structure Reply where
  messages : List ClientMessage
  error : Option GatewayError

/-- ReadyForQuery closes every answer outside an extended-query unit. -/
def Writer.ready (w : Writer) : List ClientMessage := if w.extendedQuery then [] else [.readyForQuery]

/-- `encode` of the responses a streaming call can complete with. -/
def Writer.encodeComplete (w : Writer) : GatewayResponse → List ClientMessage
  | .ok affectedRows _ => .commandComplete ("OK " ++ toString affectedRows) :: w.ready
  | .resultSet columns rows =>
    .rowDescription columns :: .commandComplete ("SELECT " ++ toString rows.length) :: w.ready
  | _ => w.ready

/-- The path from the opening of the stream to the client.  An error of the call becomes an
    ErrorResponse (`gateway_error` has no SQLSTATE of its own). -/
def reply {ι : Type} (w : List Column → Writer) (window : Nat) (maxRows : Option Nat)
    (item : ι → Item) : Start ι → Reply
  | .complete response => ⟨(w []).encodeComplete response, none⟩
  | .error e => ⟨.errorResponse "XX000" e.text :: (w []).ready, none⟩
  | .rows columns rest =>
    match (w columns).write (produce window maxRows (rest.map item) [] 0 false) with
    | .ok (_, messages) => ⟨messages, none⟩
    | .error (e, messages) => ⟨messages, some e⟩

/-- `execute_simple_query_streaming`, then the writer. -/
def replySimple (w : List Column → Writer) (window : Nat) (maxRows : Option Nat) (items : List SimpleItem) : Reply :=
  reply w window maxRows SimpleItem.item (awaitRowDescription items)

/-- `execute_param_query_streaming`, then the writer. -/
def replyTyped (w : List Column → Writer) (window : Nat) (maxRows : Option Nat) (items : List TypedItem) : Reply :=
  reply w window maxRows TypedItem.item (awaitFirstRow items)

/-- The last message that is not ReadyForQuery. -/
def lastAnswer (messages : List ClientMessage) : Option ClientMessage :=
  (messages.filter (· != .readyForQuery)).getLast?

def Reply.EndsWithError (r : Reply) : Prop :=
  r.error ≠ none ∨ ∃ code message, lastAnswer r.messages = some (.errorResponse code message)

/-- An item at which the backend row stream fails: a network or server error, or a value that cannot
    be decoded. -/
def Item.fails : Item → Bool
  | .failed _ => true
  | .row (.error _) => true
  | _ => false

/-- The simple path fails while it waits for the columns: the first item that is no notice is an error,
    or a row that came too early. -/
def failsBeforeColumns : List SimpleItem → Bool
  | .other :: rest => failsBeforeColumns rest
  | .failed _ :: _ => true
  | .row _ :: _ => true
  | _ => false

/-- The parameter path fails while it waits for the columns: at its first row. -/
def failsAtFirstRow : List TypedItem → Bool
  | .failed _ :: _ => true
  | .row _ (.error _) :: _ => true
  | _ => false

theorem lastAnswer_footer (w : Writer) (messages : List ClientMessage) (totalRows : Nat)
    (truncated : Bool) (code message : String) :
    lastAnswer (messages ++ w.footer totalRows truncated) ≠ some (.errorResponse code message) := by
  unfold lastAnswer Writer.footer
  simp only
  split
  · simp
  · split <;> simp

theorem write_ok_no_error {chunks : List (List Row)} {e : LoopEnd} {messages : List ClientMessage}
    (h : w.write chunks = .ok (e, messages)) : ¬Reply.EndsWithError ⟨messages, none⟩ := by
  unfold Writer.write at h
  rintro (hno | ⟨code, message, hlast⟩)
  · exact hno rfl
  · cases hheader : w.encodeHeader w.columns with
    | error e => rw [hheader] at h; cases h
    | ok header =>
      simp only [hheader] at h
      cases hrun : w.writeLoop chunks 0 w.skipRows false none header with
      | error x => rw [hrun] at h; cases h
      | ok r =>
        rw [hrun] at h
        cases h
        exact lastAnswer_footer w _ _ _ _ _ hlast

/-- **The answer ends with an error exactly when the call failed or the encoder did.** -/
theorem reply_ends_iff {ι : Type} (w : List Column → Writer) (window : Nat) (maxRows : Option Nat)
    (item : ι → Item) (start : Start ι) (hstart : ∀ r, start = .complete r → ∃ n i, r = .ok n i ∨
      r = .resultSet [] []) : (reply w window maxRows item start).EndsWithError ↔
      (∃ e, start = .error e) ∨ ∃ columns rest, start = .rows columns rest ∧
        (w columns).Unencodable (produce window maxRows (rest.map item) [] 0 false) := by
  cases start with
  | complete response =>
    have hno : ¬(reply w window maxRows item (.complete response)).EndsWithError := by
      rintro (h | ⟨code, message, h⟩)
      · exact h rfl
      · obtain ⟨n, i, rfl | rfl⟩ := hstart response rfl
        · simp only [reply, Writer.encodeComplete, Writer.ready, lastAnswer] at h
          split at h <;> simp at h
        · simp only [reply, Writer.encodeComplete, Writer.ready, lastAnswer] at h
          split at h <;> simp at h
    simp [hno]
  | error e =>
    have hyes : (reply w window maxRows item (.error e : Start ι)).EndsWithError := by
      refine Or.inr ⟨"XX000", e.text, ?_⟩
      simp only [reply, Writer.ready, lastAnswer]
      split <;> simp
    simp [hyes]
  | rows columns rest =>
    have hw := write_error_iff (w columns) (produce window maxRows (rest.map item) [] 0 false)
    cases hrun : (w columns).write (produce window maxRows (rest.map item) [] 0 false) with
    | error x =>
      have hunenc := hw.mp ⟨x, hrun⟩
      have hyes : (reply w window maxRows item (.rows columns rest)).EndsWithError := by
        refine Or.inl ?_
        simp [reply, hrun]
      constructor
      · intro _
        exact Or.inr ⟨columns, rest, rfl, hunenc⟩
      · intro _
        exact hyes
    | ok r =>
      have hno : ¬(reply w window maxRows item (.rows columns rest)).EndsWithError := by
        simp only [reply, hrun]
        exact write_ok_no_error hrun
      constructor
      · intro h
        exact absurd h hno
      · rintro (⟨e, he⟩ | ⟨columns', rest', he, hunenc⟩)
        · cases he
        · cases he
          obtain ⟨x, hx⟩ := hw.mpr hunenc
          rw [hrun] at hx
          cases hx

/-- The opening of the simple path fails exactly where `failsBeforeColumns` says. -/
theorem awaitRowDescription_spec (items : List SimpleItem) :
    ((∃ e, awaitRowDescription items = .error e) ↔ failsBeforeColumns items = true) ∧
      ∀ r, awaitRowDescription items = .complete r → ∃ n i, r = .ok n i ∨ r = .resultSet [] [] := by
  induction items with
  | nil =>
    refine ⟨by simp [awaitRowDescription, failsBeforeColumns], ?_⟩
    intro r h
    cases h
    exact ⟨0, none, Or.inl rfl⟩
  | cons it rest ih =>
    cases it with
    | rowDescription names => simp [awaitRowDescription, failsBeforeColumns]
    | row values => simp [awaitRowDescription, failsBeforeColumns]
    | commandComplete count =>
      refine ⟨by simp [awaitRowDescription, failsBeforeColumns], ?_⟩
      intro r h
      cases h
      exact ⟨count, none, Or.inl rfl⟩
    | other => exact ih
    | failed e => simp [awaitRowDescription, failsBeforeColumns]

theorem awaitFirstRow_spec (items : List TypedItem) :
    ((∃ e, awaitFirstRow items = .error e) ↔ failsAtFirstRow items = true) ∧
      ∀ r, awaitFirstRow items = .complete r → ∃ n i, r = .ok n i ∨ r = .resultSet [] [] := by
  cases items with
  | nil =>
    refine ⟨by simp [awaitFirstRow, failsAtFirstRow], ?_⟩
    intro r h
    cases h
    exact ⟨0, none, Or.inr rfl⟩
  | cons it rest =>
    cases it with
    | failed e => simp [awaitFirstRow, failsAtFirstRow]
    | row columns values => cases values <;> simp [awaitFirstRow, failsAtFirstRow]

/-- The simple path reports the failure: it comes before the columns, or a header or row of the page
    cannot be encoded anyway. -/
def ReportsSimple (w : List Column → Writer) (window : Nat) (maxRows : Option Nat) (items : List SimpleItem) : Prop :=
  failsBeforeColumns items = true ∨ ∃ columns rest, awaitRowDescription items = .rows columns rest ∧
    (w columns).Unencodable (produce window maxRows (rest.map SimpleItem.item) [] 0 false)

def ReportsTyped (w : List Column → Writer) (window : Nat) (maxRows : Option Nat) (items : List TypedItem) : Prop :=
  failsAtFirstRow items = true ∨ ∃ columns rest, awaitFirstRow items = .rows columns rest ∧
    (w columns).Unencodable (produce window maxRows (rest.map TypedItem.item) [] 0 false)

/-- **When a failing stream is reported**: if and only if it fails before the producer is spawned, or the encoder refuses
    something. -/
theorem failing_stream_reported_iff (w : List Column → Writer) (window : Nat)
    (maxRows : Option Nat) (simple : List SimpleItem) (typed : List TypedItem) :
    (((∃ it ∈ simple, it.item.fails = true) → (replySimple w window maxRows simple).EndsWithError) ↔
      ((∃ it ∈ simple, it.item.fails = true) → ReportsSimple w window maxRows simple)) ∧
    (((∃ it ∈ typed, it.item.fails = true) → (replyTyped w window maxRows typed).EndsWithError) ↔
      ((∃ it ∈ typed, it.item.fails = true) → ReportsTyped w window maxRows typed)) := by
  have hsimple : (replySimple w window maxRows simple).EndsWithError ↔
      ReportsSimple w window maxRows simple := by
    obtain ⟨herror, hcomplete⟩ := awaitRowDescription_spec simple
    unfold replySimple ReportsSimple
    rw [reply_ends_iff w window maxRows SimpleItem.item _ hcomplete, herror]
  have htyped : (replyTyped w window maxRows typed).EndsWithError ↔
      ReportsTyped w window maxRows typed := by
    obtain ⟨herror, hcomplete⟩ := awaitFirstRow_spec typed
    unfold replyTyped ReportsTyped
    rw [reply_ends_iff w window maxRows TypedItem.item _ hcomplete, herror]
  rw [hsimple, htyped]
  exact ⟨Iff.rfl, Iff.rfl⟩

/-! ## A truncated result that looks complete -/

/-- A text DataRow: the column count, then length and bytes of each cell. -/
def textDataRow (row : Row) : Except GatewayError ClientMessage :=
  .ok (.dataRow ([0, row.length.toUInt8] ++ row.flatMap fun cell =>
    match cell with
    | .string text => [0, 0, 0, text.length.toUInt8] ++ text.toList.map (·.toNat.toUInt8)
    | _ => [255, 255, 255, 255]))

def plainWriter (columns : List Column) : Writer where
  columns := columns
  window := 1
  maxTotal := none
  skipRows := 0
  holdRemainder := false
  view := id
  encodeHeader := fun columns => .ok [.rowDescription columns]
  encodeRow := fun _ row => textDataRow row
  extendedQuery := false
  executeMaxRows := none

/-- The server sends two rows and then an error; the client is told `SELECT 2`. -/
theorem failing_stream_looks_complete :
    ¬((∃ it ∈ [SimpleItem.rowDescription ["id"], .row [.string "1"], .row [.string "2"],
          .failed (.backend "connection closed")], it.item.fails = true) →
      (replySimple plainWriter 1 none [SimpleItem.rowDescription ["id"], .row [.string "1"],
        .row [.string "2"], .failed (.backend "connection closed")]).EndsWithError) := by
  intro h
  have hreply : (replySimple plainWriter 1 none [SimpleItem.rowDescription ["id"],
      .row [.string "1"], .row [.string "2"], .failed (.backend "connection closed")]).error = none ∧
      lastAnswer (replySimple plainWriter 1 none [SimpleItem.rowDescription ["id"],
        .row [.string "1"], .row [.string "2"],
        .failed (.backend "connection closed")]).messages = some (.commandComplete "SELECT 2") := by
    decide
  rcases h ⟨.failed (.backend "connection closed"), by simp, rfl⟩ with hno | ⟨code, message, hlast⟩
  · exact hno hreply.1
  · rw [hreply.2] at hlast
    cases hlast

end DataNexus.Stream
