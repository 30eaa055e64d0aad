/-
  Which delivered rows carry the watermark (`apply_watermark_to_resultset` and the streaming writer).

  Every path skips some content: a column of the same name, a separator in the cell.  The streaming path stamps text cells
  only, and the windowed encoder masks what was stamped.

  1. **Specification** — `carries`: a text cell of the row holds the token.

  2. **One row** — what each path makes of a row, and when that carries the token (`carries_bufferedRow`,
     `carries_windowedRow`, `carries_streamRow`).

  3. **Every path** — `watermarked_iff`: all delivered rows carry the token iff it reaches every one of them.
-/
import DataNexus.Stream.Streaming

namespace DataNexus.Stream

open DataNexus.Poll DataNexus.Text

/-! ## The token in a row -/

def holds (token : String) : GatewayValue → Bool
  | .string s => contains token.toList s.toList
  | _ => false

/-- **A row with the watermark.** -/
def carries (token : String) (row : Row) : Bool := row.any (holds token)

def unmarked : GatewayValue → Bool
  | .string s => !contains " |wm=".toList s.toList
  | _ => true

/-- There is a cell at that place, and the marker is appended to it. -/
def takesMarker (row : Row) (place : Option Nat) : Bool := (place.bind (row[·]?)).any unmarked

theorem holds_token (token : String) : holds token (.string token) = true := contains_of_infix (List.infix_refl _)

theorem holds_marker (wm : WatermarkSpec) (s : String) : holds wm.token (.string (s ++ watermarkMarker wm)) = true := by
  apply contains_of_infix
  unfold watermarkMarker
  rw [String.toList_append, String.toList_append]
  exact ⟨s.toList ++ " |wm=".toList, [], by simp⟩

theorem carries_append (token : String) (row row' : Row) :
    carries token (row ++ row') = (carries token row || carries token row') := List.any_append

theorem stamp_cases (d : Display) (wm : WatermarkSpec) (cell : GatewayValue) :
    (unmarked cell = true ∧ holds wm.token (stamp d (watermarkMarker wm) cell) = true) ∨
      (unmarked cell = false ∧ stamp d (watermarkMarker wm) cell = cell) := by
  by_cases hstring : isString cell = true
  · obtain ⟨s, rfl⟩ : ∃ s, cell = .string s := by
      cases cell <;> first | exact ⟨_, rfl⟩ | exact absurd hstring nofun
    by_cases hthere : contains " |wm=".toList s.toList = true
    · refine .inr ⟨by rw [unmarked, hthere]; rfl, ?_⟩
      show GatewayValue.string (stampText _ s) = _
      rw [stampText, if_pos hthere]
    · refine .inl ⟨by rw [unmarked, Bool.eq_false_iff.mpr hthere]; rfl, ?_⟩
      show holds _ (.string (stampText _ s)) = true
      rw [stampText, if_neg hthere]
      exact holds_marker wm s
  · rw [Bool.not_eq_true] at hstring
    refine .inl ⟨?_, ?_⟩
    · cases cell <;> first | rfl | exact absurd hstring nofun
    · rw [stamp_of_not_isString d _ hstring]
      exact holds_marker wm _

theorem modify_eq_self {f : GatewayValue → GatewayValue} {row : Row} {i : Nat}
    (h : ∀ cell, row[i]? = some cell → f cell = cell) : row.modify i f = row := by
  refine List.ext_getElem? fun k => ?_
  rw [List.getElem?_modify]
  cases hcell : row[k]? with
  | none => rfl
  | some cell =>
    show some (if i = k then f cell else cell) = some cell
    split
    · rename_i hik
      rw [h cell (hik ▸ hcell)]
    · rfl

def stampAt (d : Display) (marker : String) (row : Row) : (place : Option Nat) → Row
  | some i => row.modify i (stamp d marker)
  | none => row

theorem stampRow_eq_stampAt (d : Display) (marker : String) (row : Row) :
    stampRow d marker row = stampAt d marker row (carrier row) := by
  rw [stampRow_eq_modify]
  cases carrier row <;> rfl

theorem stampFirst_eq_stampAt (d : Display) (marker : String) (row : Row) :
    (stampFirst marker row).getD row = stampAt d marker row (row.findIdx? isString) := by
  rw [stampFirst_eq d]
  cases row.findIdx? isString <;> rfl

theorem getElem?_stampAt (d : Display) (marker : String) (row : Row) (place : Option Nat) (k : Nat) :
    (stampAt d marker row place)[k]? =
      row[k]?.map fun cell => if place = some k then stamp d marker cell else cell := by
  cases place with
  | none => simp [stampAt]
  | some i =>
    rw [stampAt, List.getElem?_modify, Option.map_eq_map]
    congr 1
    funext cell
    simp

theorem carries_stampAt (d : Display) (wm : WatermarkSpec) (row : Row) (place : Option Nat) :
    carries wm.token (stampAt d (watermarkMarker wm) row place) = (takesMarker row place || carries wm.token row) := by
  cases place with
  | none => rfl
  | some i =>
    rw [takesMarker, Option.bind_some, stampAt]
    cases hcell : row[i]? with
    | none =>
      rw [modify_eq_self fun cell hsome => absurd (hcell.symm.trans hsome) nofun]
      rfl
    | some cell =>
      rw [Option.any_some]
      rcases stamp_cases d wm cell with ⟨hfree, hholds⟩ | ⟨hthere, hstays⟩
      · rw [hfree, Bool.true_or]
        refine List.any_eq_true.mpr ⟨_, List.mem_of_getElem? (i := i) ?_, hholds⟩
        rw [List.getElem?_modify, hcell]
        exact congrArg some (if_pos rfl)
      · rw [hthere, Bool.false_or, modify_eq_self]
        intro cell' hsome
        obtain rfl := Option.some.inj (hcell.symm.trans hsome)
        exact hstays

theorem carries_fillRow (token : String) (missing : Nat) (row : Row) :
    carries token (fillRow token missing row) = (decide (0 < missing) || carries token row) := by
  induction missing, row using fillRow.induct with
  | case1 row => rfl
  | case2 row =>
    have hlast : carries token [.string token] = true := by
      rw [carries, List.any_cons, holds_token]
      rfl
    rw [fillRow, carries_append, hlast, Bool.or_true]
    rfl
  | case3 row missing ih =>
    rw [fillRow, ih]
    simp

/-! ## One row -/

/-- The token reaches a row of the buffered paths. -/
def BufferedMark (d : Display) (columns : List Column) (o : Obligations) (wm : WatermarkSpec) (row : Row) : Prop :=
  let masked := maskRow d (buildMaskIndex columns o.columnMasks) row
  carries wm.token masked = true ∨
    match wm.mode with
    | .column => addsColumn columns wm = true
    | .suffix => takesMarker masked (carrier masked) = true

/-- `apply_watermark_to_resultset` on one row. -/
def watermarkRow (d : Display) (columns : List Column) (wm : WatermarkSpec) (row : Row) : Row :=
  match wm.mode with
  | .column => if addsColumn columns wm then row ++ [.string wm.token] else row
  | .suffix => stampRow d (watermarkMarker wm) row

/-- A row of the windowed encoder: the masks come last. -/
def windowedRow (d : Display) (columns : List Column) (o : Obligations) (wm : WatermarkSpec) (row : Row) : Row :=
  maskRow d (buildMaskIndex (streamColumns d columns o) o.columnMasks) (watermarkRow d columns wm row)

/-- The token reaches a row of the windowed encoder, and no mask takes it away. -/
def WindowedMark (d : Display) (columns : List Column) (o : Obligations) (wm : WatermarkSpec) (row : Row) : Prop :=
  let masked := maskCell d (streamColumns d columns o) o.columnMasks
  match wm.mode with
  | .column => carries wm.token (row.mapIdx masked) = true ∨
      (addsColumn columns wm = true ∧ holds wm.token (masked row.length (.string wm.token)) = true)
  | .suffix => ∃ k cell, row[k]? = some cell ∧
      holds wm.token (masked k (if carrier row = some k then stamp d (watermarkMarker wm) cell else cell)) = true

/-- The token reaches a row of the streaming path: a short row is filled up with it, and otherwise only a text cell
    takes the marker. -/
def StreamMark (d : Display) (columns : List Column) (o : Obligations) (wm : WatermarkSpec) (row : Row) : Prop :=
  let masked := maskRow d (buildMaskIndex (streamColumns d columns o) o.columnMasks) row
  row.length < (streamColumns d columns o).length ∨ carries wm.token masked = true ∨
    match wm.mode with
    | .column => False
    | .suffix => takesMarker masked (masked.findIdx? isString) = true

section Rows

variable {d : Display} {columns : List Column} {o : Obligations} {wm : WatermarkSpec}

theorem carries_bufferedRow (hwm : o.watermark = some wm) (row : Row) :
    carries wm.token (bufferedRow d columns o row) = true ↔ BufferedMark d columns o wm row := by
  unfold bufferedRow BufferedMark
  rw [hwm]
  dsimp only
  cases wm.mode with
  | column =>
    dsimp only
    by_cases hadds : addsColumn columns wm = true
    · rw [if_pos hadds, carries_append]
      have hlast : carries wm.token [.string wm.token] = true := by
        rw [carries, List.any_cons, holds_token]
        rfl
      rw [hlast, Bool.or_true]
      exact iff_of_true rfl (.inr hadds)
    · rw [if_neg hadds]
      exact ⟨.inl, fun h => h.resolve_right hadds⟩
  | suffix =>
    dsimp only
    rw [stampRow_eq_stampAt, carries_stampAt, Bool.or_eq_true]
    exact Or.comm

theorem carries_windowedRow (row : Row) :
    carries wm.token (windowedRow d columns o wm row) = true ↔ WindowedMark d columns o wm row := by
  unfold windowedRow WindowedMark watermarkRow
  rw [maskRow_eq_mapIdx]
  dsimp only
  cases wm.mode with
  | column =>
    dsimp only
    by_cases hadds : addsColumn columns wm = true
    · rw [if_pos hadds, List.mapIdx_append, carries_append, Bool.or_eq_true]
      refine or_congr Iff.rfl ?_
      rw [List.mapIdx_singleton, carries, List.any_cons, List.any_nil, Bool.or_false]
      simp [hadds]
    · rw [if_neg hadds]
      exact ⟨.inl, fun h => h.resolve_right fun h => hadds h.1⟩
  | suffix =>
    dsimp only
    rw [stampRow_eq_stampAt, carries, List.any_eq_true]
    constructor
    · rintro ⟨cell, hmem, hholds⟩
      obtain ⟨k, hk⟩ := List.getElem?_of_mem hmem
      rw [List.getElem?_mapIdx, getElem?_stampAt, Option.map_map] at hk
      obtain ⟨cell', hcell', rfl⟩ := Option.map_eq_some_iff.mp hk
      exact ⟨k, cell', hcell', hholds⟩
    · rintro ⟨k, cell, hcell, hholds⟩
      refine ⟨_, List.mem_of_getElem? (i := k) ?_, hholds⟩
      rw [List.getElem?_mapIdx, getElem?_stampAt, hcell]
      rfl

theorem carries_streamRow (hwm : o.watermark = some wm) (row : Row) :
    carries wm.token (streamRow d (streamColumns d columns o) o row) = true ↔ StreamMark d columns o wm row := by
  unfold streamRow StreamMark
  rw [hwm]
  dsimp only
  generalize hmasked : maskRow d (buildMaskIndex (streamColumns d columns o) o.columnMasks) row = masked
  have hlength : masked.length = row.length := by rw [← hmasked, length_maskRow]
  rw [hlength]
  by_cases hshort : row.length < (streamColumns d columns o).length
  · -- the last cell that is filled in is the token
    have hfilled : carries wm.token
        (fillRow wm.token ((streamColumns d columns o).length - row.length) masked) = true := by
      rw [carries_fillRow, decide_eq_true (Nat.sub_pos_of_lt hshort), Bool.true_or]
    refine iff_of_true ?_ (.inl hshort)
    cases wm.mode with
    | column => exact hfilled
    | suffix =>
      dsimp only
      rw [stampFirst_eq_stampAt d, carries_stampAt, hfilled, Bool.or_true]
  · rw [fillRow_zero wm.token masked (by omega), or_iff_right hshort]
    cases wm.mode with
    | column => exact (or_iff_left id).symm
    | suffix =>
      dsimp only
      rw [stampFirst_eq_stampAt d, carries_stampAt, Bool.or_eq_true]
      exact Or.comm

end Rows

/-! ## Every path -/

/-- A result on its way to the client, by the path that it takes. -/
inductive Delivery where
  /-- `apply_obligations_to_response`. -/
  | response (columns : List Column) (rows : List Row)
  /-- The same for the answer of a cursor. -/
  | tagged (columns : List Column) (rows : List Row) (tag : String)
  /-- `apply_obligations_windowed`. -/
  | buffered (columns : List Column) (rows : List Row) (windowRows : Nat)
  /-- `write_resultset_windowed_with_obligations`. -/
  | windowed (columns : List Column) (rows : List Row) (windowRows : Nat)
  /-- `write_streaming_query_with_obligations_sample`, on any stream of windows. -/
  | streaming (enc : Encoders) (session : SessionState) (columns : List Column) (windowRows : Nat)
      (holdRemainder : Bool) (s : RowStream)

def responseRows : GatewayResponse → List Row
  | .resultSet _ rows => rows
  | .taggedResultSet _ rows _ => rows
  | _ => []

def delivered (d : Display) (o : Obligations) : Delivery → List Row
  | .response columns rows => responseRows (applyObligationsToResponse d (.resultSet columns rows) o)
  | .tagged columns rows tag => responseRows (applyObligationsToResponse d (.taggedResultSet columns rows tag) o)
  | .buffered columns rows windowRows => responseRows (applyObligationsWindowed d columns rows o windowRows)
  | .windowed columns rows windowRows =>
    (writeResultsetWindowedWithObligations d columns rows windowRows (some o)).rows
  | .streaming enc session columns windowRows holdRemainder s =>
    ((queryWriter d enc session columns windowRows (some o) holdRemainder).stream s).1.flatten

def Writer.raw (w : Writer) : Writer := { w with view := id }

def taken (d : Display) (o : Obligations) : Delivery → List Row
  | .response _ rows | .tagged _ rows _ | .buffered _ rows _ | .windowed _ rows _ => capRows o.maxRows rows
  | .streaming enc session columns windowRows holdRemainder s =>
    ((queryWriter d enc session columns windowRows (some o) holdRemainder).raw.stream s).1.flatten

def Reaches (d : Display) (o : Obligations) (wm : WatermarkSpec) : Delivery → Row → Prop
  | .response columns _ | .tagged columns _ _ | .buffered columns _ _ => BufferedMark d columns o wm
  | .windowed columns _ _ => WindowedMark d columns o wm
  | .streaming _ _ columns _ _ _ => StreamMark d columns o wm

theorem pollLoop_view (w : Writer) (s : RowStream) (total skip : Nat) (truncated : Bool)
    (leftover : Option (List Row)) : (w.pollLoop s total skip truncated leftover).1 =
      (w.raw.pollLoop s total skip truncated leftover).1.map fun window => window.map w.view := by
  have hcap : w.raw.maxTotal = w.maxTotal := rfl
  have hwant : ∀ total skip, w.raw.want total skip = w.want total skip := fun _ _ => rfl
  have hremain : ∀ total chunk, w.raw.remain total chunk = w.remain total chunk := fun _ _ => rfl
  have hraw : ∀ rows : List Row, rows.map w.raw.view = rows := List.map_id
  induction s generalizing total skip truncated leftover with
  | ended =>
    rw [Writer.pollLoop, Writer.pollLoop, hcap]
    split <;> rfl
  | live answer next ih =>
    rw [Writer.pollLoop, Writer.pollLoop, hcap, hwant]
    by_cases hfull : w.maxTotal.any (· ≤ total) = true
    · rw [if_pos hfull, if_pos hfull]
      rfl
    · rw [if_neg hfull, if_neg hfull]
      dsimp only
      cases hanswer : answer (w.want total skip) with
      | error e => rfl
      | ok window =>
        cases window with
        | none => rfl
        | some chunk =>
          dsimp only
          by_cases hempty : 0 < skip ∧ (chunk.drop (min skip chunk.length)).isEmpty = true
          · rw [if_pos hempty, if_pos hempty]
            exact ih _ _ _ _ _
          · rw [if_neg hempty, if_neg hempty, List.map_cons, ih, hremain, hraw]
            rfl

theorem stream_view (w : Writer) (s : RowStream) : (w.stream s).1.flatten = (w.raw.stream s).1.flatten.map w.view := by
  unfold Writer.stream
  rw [pollLoop_view, List.map_flatten]
  rfl

theorem applyWatermark_rows (d : Display) (columns : List Column) (rows : List Row) (wm : WatermarkSpec) :
    (applyWatermark d columns rows (some wm)).2 = rows.map (watermarkRow d columns wm) := by
  obtain ⟨mode, column, token⟩ := wm
  unfold applyWatermark applyWatermarkToResultset watermarkRow
  cases mode with
  | column =>
    dsimp only
    by_cases hadds : addsColumn columns ⟨.column, column, token⟩ = true
    · simp only [if_pos hadds]
    · simp only [if_neg hadds, List.map_id']
  | suffix => rfl

/-- **The watermark on every delivered row**: on every path all rows carry the token iff it reaches each of them. -/
theorem watermarked_iff (d : Display) (o : Obligations) (wm : WatermarkSpec) (hwm : o.watermark = some wm)
    (x : Delivery) :
    (∀ row ∈ delivered d o x, carries wm.token row = true) ↔ ∀ row ∈ taken d o x, Reaches d o wm x row := by
  have hbuffered : ∀ columns rows,
      (∀ row ∈ (applyObligationsToResultset d columns rows o).2, carries wm.token row = true) ↔
        ∀ row ∈ capRows o.maxRows rows, BufferedMark d columns o wm row := by
    intro columns rows
    rw [applyObligationsToResultset_rows, List.forall_mem_map]
    exact forall₂_congr fun row _ => carries_bufferedRow hwm row
  have hresponse : ∀ columns rows, responseRows (applyObligationsToResponse d (.resultSet columns rows) o) =
      (applyObligationsToResultset d columns rows o).2 := by
    intro columns rows
    rw [applyObligationsToResponse_resultSet]
    rfl
  cases x with
  | response columns rows =>
    rw [delivered, hresponse]
    exact hbuffered columns rows
  | tagged columns rows tag =>
    have howed : o.hasResultObligations = true := by
      unfold Obligations.hasResultObligations
      rw [hwm]
      exact Bool.or_true _
    have htagged : responseRows (applyObligationsToResponse d (.taggedResultSet columns rows tag) o) =
        (applyObligationsToResultset d columns rows o).2 := by
      unfold applyObligationsToResponse
      rw [howed]
      rfl
    rw [delivered, htagged]
    exact hbuffered columns rows
  | buffered columns rows windowRows =>
    rw [delivered, applyObligationsWindowed_eq, hresponse]
    exact hbuffered columns rows
  | windowed columns rows windowRows =>
    have hrows : (writeResultsetWindowedWithObligations d columns rows windowRows (some o)).rows =
        (capRows o.maxRows rows).map (windowedRow d columns o wm) := by
      rw [writeResultsetWindowed_rows, applyWatermark_columns d columns _ [] o.watermark, hwm, applyWatermark_rows,
        List.map_map]
      unfold windowedRow streamColumns
      rw [hwm]
      rfl
    rw [delivered, hrows, List.forall_mem_map]
    exact forall₂_congr fun row _ => carries_windowedRow row
  | streaming enc session columns windowRows holdRemainder s =>
    rw [delivered, stream_view, List.forall_mem_map]
    exact forall₂_congr fun row _ => carries_streamRow hwm row

theorem number_watermarked : let d : Display := ⟨fun _ => "", fun _ => ""⟩
    let wm : WatermarkSpec := ⟨.column, "_dn_wm", "t9"⟩
    let o : Obligations := { Obligations.none with watermark := some wm }
    (∀ row ∈ delivered d o (.response [⟨"id", "int4"⟩] [[.integer 1]]), carries wm.token row = true) ↔
      ∀ row ∈ taken d o (.response [⟨"id", "int4"⟩] [[.integer 1]]),
        Reaches d o wm (.response [⟨"id", "int4"⟩] [[.integer 1]]) row :=
  watermarked_iff _ _ _ rfl _

/-- A client that names its own column like the watermark column gets its rows without the token. -/
theorem own_column_unmarked :
    ¬ ∀ (d : Display) (o : Obligations) (wm : WatermarkSpec) (x : Delivery), o.watermark = some wm →
      ∀ row ∈ delivered d o x, carries wm.token row = true := by
  intro h
  have hrow := h ⟨fun _ => "", fun _ => ""⟩ { Obligations.none with watermark := some ⟨.column, "_dn_wm", "t9"⟩ }
    ⟨.column, "_dn_wm", "t9"⟩ (.response [⟨"_DN_WM", "int4"⟩] [[.integer 1]]) rfl [.integer 1] (by decide)
  revert hrow
  decide

end DataNexus.Stream
