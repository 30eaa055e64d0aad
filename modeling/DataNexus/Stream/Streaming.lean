/-
  The obligations on the streaming path (`write_streaming_query_with_obligations_sample`).

  The streaming writer does not call `apply_watermark_to_resultset` on rows; the last cell it fills gets the token.

      streaming row:  mask (expanded header) ▸ fill to the header's width ▸ stamp a string cell, if any
      buffered row:   mask ▸ append the token, or stamp a string cell or else the last cell

  `streaming_agrees_iff` says for which rows these are the same.
-/
import DataNexus.Session
import DataNexus.Stream.Polled

namespace DataNexus.Stream

open DataNexus.Poll DataNexus.Text

/-! ## The writer of a query -/

structure Encoders where
  header : List Column → Except GatewayError (List ClientMessage)
  row : List Column → Row → Except GatewayError ClientMessage

/-- The loop `while row.len() < header_width`, by the number of missing cells. -/
def fillRow (token : String) : (missing : Nat) → Row → Row
  | 0, row => row
  | 1, row => row ++ [.string token]
  | missing + 2, row => fillRow token (missing + 1) (row ++ [.null])

/-- A row of a window, masked and watermarked.  `columns` is the expanded header. -/
def streamRow (d : Display) (columns : List Column) (o : Obligations) (row : Row) : Row :=
  let row := maskRow d (buildMaskIndex columns o.columnMasks) row
  match o.watermark with
  | none => row
  | some wm =>
    let row := fillRow wm.token (columns.length - row.length) row
    match wm.mode with
    | .column => row
    | .suffix => (stampFirst (watermarkMarker wm) row).getD row

/-- The header of a streamed result: a watermark column is added before the first window. -/
def streamColumns (d : Display) (columns : List Column) (o : Obligations) : List Column :=
  (applyWatermark d columns [] o.watermark).1

/-- The arguments of `write_streaming_query_with_obligations_sample`.  No obligations are the empty
    obligations. -/
def queryWriter (d : Display) (enc : Encoders) (session : SessionState) (columns : List Column)
    (windowRows : Nat) (o : Option Obligations) (holdRemainder : Bool) : Writer :=
  let o := o.getD Obligations.none
  { columns := streamColumns d columns o
    window := max windowRows 1
    maxTotal := o.maxRows
    skipRows := session.pgPortalSkipRows
    holdRemainder := holdRemainder
    view := streamRow d (streamColumns d columns o) o
    encodeHeader := enc.header
    encodeRow := enc.row
    extendedQuery := session.pgExtendedQuery
    executeMaxRows := session.pgExecuteMaxRows }

/-! ## Row by row -/

def bufferedRow (d : Display) (columns : List Column) (o : Obligations) (row : Row) : Row :=
  let row := maskRow d (buildMaskIndex columns o.columnMasks) row
  match o.watermark with
  | none => row
  | some wm =>
    match wm.mode with
    | .column => if addsColumn columns wm then row ++ [.string wm.token] else row
    | .suffix => stampRow d (watermarkMarker wm) row

/-- After masking there is a string cell in the row: one that is not masked, or whose mask puts a text
    there. -/
def HasText (columns : List Column) (masks : List MaskSpec) (row : Row) : Prop :=
  ∃ k cell, row[k]? = some cell ∧
    match maskAt columns masks k with
    | some spec => spec.algorithm ≠ .nullify
    | none => isString cell = true

/-- A row on which the streaming path does what the buffered path does. -/
def StreamsAlike (columns : List Column) (o : Obligations) (row : Row) : Prop :=
  match o.watermark with
  | none => True
  | some wm =>
    match wm.mode with
    | .column =>
      if addsColumn columns wm then row.length = columns.length else columns.length ≤ row.length
    | .suffix => columns.length ≤ row.length ∧ (row = [] ∨ HasText columns o.columnMasks row)

section Rows

variable {d : Display} {columns : List Column} {masks : List MaskSpec} {row : Row}

theorem applyObligationsToResultset_rows (d : Display) (columns : List Column) (rows : List Row) (o : Obligations) :
    (applyObligationsToResultset d columns rows o).2 = (capRows o.maxRows rows).map (bufferedRow d columns o) := by
  rw [applyObligationsToResultset_eq]
  unfold applyWatermark bufferedRow
  cases o.watermark with
  | none => rfl
  | some wm =>
    obtain ⟨mode, column, token⟩ := wm
    unfold applyWatermarkToResultset
    cases mode with
    | column =>
      dsimp only
      by_cases hadds : addsColumn columns ⟨.column, column, token⟩ = true
      · simp only [if_pos hadds, List.map_map]
        rfl
      · simp only [if_neg hadds]
    | suffix =>
      dsimp only
      rw [List.map_map]
      rfl

theorem length_maskRow (d : Display) (columns : List Column) (masks : List MaskSpec) (row : Row) :
    (maskRow d (buildMaskIndex columns masks) row).length = row.length := by
  rw [maskRow_eq_mapIdx, List.length_mapIdx]

theorem length_fillRow (token : String) (missing : Nat) (row : Row) :
    (fillRow token missing row).length = row.length + missing := by
  induction missing, row using fillRow.induct with
  | case1 row => rfl
  | case2 row =>
    rw [fillRow, List.length_append]
    rfl
  | case3 row missing ih =>
    rw [fillRow, ih, List.length_append, List.length_singleton]
    omega

theorem fillRow_zero (token : String) {missing : Nat} (row : Row) (h : missing = 0) :
    fillRow token missing row = row := by
  subst h
  rfl

theorem length_stampFirst {marker : String} {row stamped : Row} (h : stampFirst marker row = some stamped) :
    stamped.length = row.length := by
  rw [stampFirst_eq ⟨fun _ => "", fun _ => ""⟩] at h
  obtain ⟨i, _, rfl⟩ := Option.map_eq_some_iff.mp h
  exact List.length_modify ..

theorem length_stampRow (d : Display) (marker : String) (row : Row) : (stampRow d marker row).length = row.length := by
  rw [stampRow_eq_modify]
  cases carrier row with
  | none => rfl
  | some i => exact List.length_modify ..

theorem isString_maskGatewayValue (d : Display) (cell : GatewayValue) (spec : MaskSpec) :
    isString (maskGatewayValue d cell spec) = true ↔ spec.algorithm ≠ .nullify := by
  unfold maskGatewayValue
  cases spec.algorithm <;> simp [isString]

theorem hasText_iff : HasText columns masks row ↔
    ∃ cell ∈ maskRow d (buildMaskIndex columns masks) row, isString cell = true := by
  have hcell : ∀ k cell, (isString (maskCell d columns masks k cell) = true ↔
      match maskAt columns masks k with
      | some spec => spec.algorithm ≠ .nullify
      | none => isString cell = true) := by
    intro k cell
    unfold maskCell
    cases maskAt columns masks k with
    | none => exact Iff.rfl
    | some spec => exact isString_maskGatewayValue d cell spec
  rw [maskRow_eq_mapIdx]
  constructor
  · rintro ⟨k, cell, hget, hstring⟩
    refine ⟨maskCell d columns masks k cell, ?_, (hcell k cell).mpr hstring⟩
    refine List.mem_of_getElem? (i := k) ?_
    rw [List.getElem?_mapIdx, hget]
    rfl
  · rintro ⟨masked, hmem, hstring⟩
    obtain ⟨k, hget⟩ := List.getElem?_of_mem hmem
    rw [List.getElem?_mapIdx] at hget
    obtain ⟨cell, hcellget, rfl⟩ := Option.map_eq_some_iff.mp hget
    exact ⟨k, cell, hcellget, (hcell k cell).mp hstring⟩

/-- Stamping only a string cell, or else the last cell too: the same if there is a string cell, or no
    cell. -/
theorem stampFirst_getD_eq_iff (d : Display) (marker : String) (row : Row) :
    (stampFirst marker row).getD row = stampRow d marker row ↔ row = [] ∨ ∃ cell ∈ row, isString cell = true := by
  unfold stampRow
  cases hfirst : stampFirst marker row with
  | some stamped =>
    refine iff_of_true rfl (.inr ?_)
    rw [stampFirst_eq d] at hfirst
    obtain ⟨i, hfind, _⟩ := Option.map_eq_some_iff.mp hfirst
    obtain ⟨hlt, hstring, _⟩ := List.findIdx?_eq_some_iff_getElem.mp hfind
    exact ⟨row[i], List.getElem_mem hlt, hstring⟩
  | none =>
    have hno : ∀ cell ∈ row, isString cell = false := by
      rw [stampFirst_eq d, Option.map_eq_none_iff] at hfirst
      exact List.findIdx?_eq_none_iff.mp hfirst
    rcases List.eq_nil_or_concat row with rfl | ⟨init, last, rfl⟩
    · exact iff_of_true rfl (.inl rfl)
    · refine iff_of_false ?_ ?_
      · intro heq
        have hlast := congrArg List.getLast? heq
        simp at hlast
        have htext := hno last (by simp)
        rw [hlast] at htext
        cases htext
      · rintro (hnil | ⟨cell, hmem, hstring⟩)
        · simp at hnil
        · rw [hno cell hmem] at hstring
          cases hstring

/-- **One row of the streaming path.**  Where the widths differ, so do the lengths of the two results. -/
theorem streamRow_eq_iff (o : Obligations) :
    streamRow d (streamColumns d columns o) o row = bufferedRow d columns o row ↔ StreamsAlike columns o row := by
  unfold streamRow streamColumns bufferedRow StreamsAlike
  cases o.watermark with
  | none => exact iff_of_true rfl trivial
  | some wm =>
    obtain ⟨mode, name, token⟩ := wm
    unfold applyWatermark applyWatermarkToResultset
    cases mode with
    | column =>
      dsimp only
      by_cases hadds : addsColumn columns ⟨.column, name, token⟩ = true
      · simp only [if_pos hadds]
        constructor
        · intro heq
          have hlen := congrArg List.length heq
          rw [length_fillRow, List.length_append, List.length_append, length_maskRow, length_maskRow,
            List.length_singleton, List.length_singleton] at hlen
          omega
        · intro hlen
          generalize (⟨watermarkColumn ⟨.column, name, token⟩, "varchar"⟩ : Column) = column
          have hmissing : (columns ++ [column]).length -
              (maskRow d (buildMaskIndex (columns ++ [column]) o.columnMasks) row).length = 1 := by
            rw [length_maskRow, List.length_append, List.length_singleton]
            omega
          rw [hmissing, fillRow, maskRow_eq_mapIdx, maskRow_eq_mapIdx, mapIdx_expanded_iff.mpr]
          intro cell hcell
          rw [← hlen, List.getElem?_eq_none (Nat.le_refl _)] at hcell
          exact absurd hcell nofun
      · simp only [if_neg hadds]
        constructor
        · intro heq
          have hlen := congrArg List.length heq
          rw [length_fillRow, length_maskRow] at hlen
          omega
        · intro hle
          exact fillRow_zero token _ (by rw [length_maskRow]; omega)
    | suffix =>
      dsimp only
      have hnil : row = [] ↔ maskRow d (buildMaskIndex columns o.columnMasks) row = [] := by
        rw [← List.length_eq_zero_iff, ← List.length_eq_zero_iff, length_maskRow]
      rw [hnil, hasText_iff (d := d)]
      generalize hmasked : maskRow d (buildMaskIndex columns o.columnMasks) row = masked
      have hwidth : masked.length = row.length := by rw [← hmasked, length_maskRow]
      by_cases hle : columns.length ≤ row.length
      · rw [fillRow_zero token masked (by omega), and_iff_right hle]
        exact stampFirst_getD_eq_iff d _ masked
      · refine iff_of_false ?_ (fun h => hle h.1)
        intro heq
        have hlen := congrArg List.length heq
        have hgetD : ((stampFirst (watermarkMarker ⟨.suffix, name, token⟩)
            (fillRow token (columns.length - masked.length) masked)).getD
              (fillRow token (columns.length - masked.length) masked)).length =
            masked.length + (columns.length - masked.length) := by
          rw [← length_fillRow token]
          cases hstamped : stampFirst (watermarkMarker ⟨.suffix, name, token⟩)
              (fillRow token (columns.length - masked.length) masked) with
          | none => rfl
          | some stamped => exact length_stampFirst hstamped
        rw [hgetD, length_stampRow] at hlen
        omega

end Rows

/-! ## Result -/

/-- **Streaming and buffered obligations agree exactly on results all of whose rows stream alike.**
    However the stream cuts the rows into windows, whatever the window size, held or not. -/
theorem streaming_agrees_iff (d : Display) (enc : Encoders) (session : SessionState)
    (columns : List Column) (windowRows : Nat) (o : Obligations) (holdRemainder : Bool) (s : RowStream)
    (rows : List Row) (hrows : s.Yields rows) (hskip : session.pgPortalSkipRows = 0) :
    let w := queryWriter d enc session columns windowRows (some o) holdRemainder
    (∃ e, (w.stream s).2 = .ok e) ∧
      (applyObligationsToResponse d (.resultSet columns rows) o =
          .resultSet w.columns (w.stream s).1.flatten ↔
        ∀ row ∈ capRows o.maxRows rows, StreamsAlike columns o row) := by
  intro w
  have hwindow : 0 < w.window := Nat.lt_of_lt_of_le Nat.zero_lt_one (Nat.le_max_right windowRows 1)
  obtain ⟨windows, e, hloop, hflat, _, _⟩ := pollLoop_spec hwindow hrows 0 w.skipRows (.inl hskip) (fun _ => hskip)
  have hstream : w.stream s = (windows, .ok e) := hloop
  have hpage : w.pageOf rows 0 w.skipRows = capRows o.maxRows rows := by
    have hmax : w.maxTotal = o.maxRows := rfl
    have hskips : w.skipRows = 0 := hskip
    unfold Writer.pageOf
    rw [hmax, hskips]
    cases o.maxRows <;> rfl
  have hcolumns : (applyObligationsToResultset d columns rows o).1 = w.columns :=
    applyWatermark_columns d columns _ _ o.watermark
  refine ⟨⟨e, by rw [hstream]⟩, ?_⟩
  rw [hstream, applyObligationsToResponse_resultSet, hcolumns, applyObligationsToResultset_rows]
  dsimp only
  rw [hflat, hpage]
  constructor
  · intro h row hmem
    have heach := List.map_inj_left.mp (GatewayResponse.resultSet.inj h).2 row hmem
    exact (streamRow_eq_iff o).mp heach.symm
  · intro h
    refine congrArg _ (List.map_inj_left.mpr fun row hmem => ?_)
    exact ((streamRow_eq_iff o).mpr (h row hmem)).symm

/-- Two rows in two windows, the second cut off, under a watermark column. -/
theorem two_windows_stream_alike : let d : Display := ⟨fun _ => "", fun _ => ""⟩
    let o : Obligations := { Obligations.none with
      maxRows := some 1, watermark := some ⟨.column, "_dn_wm", "t9"⟩ }
    let w := queryWriter d ⟨fun _ => .ok [], fun _ _ => .ok .portalSuspended⟩ SessionState.default
      [⟨"id", "int4"⟩] 2 (some o) false
    applyObligationsToResponse d (.resultSet [⟨"id", "int4"⟩] [[.integer 1], [.integer 2]]) o =
      .resultSet w.columns (w.stream (.ofWindows [[[.integer 1]], [[.integer 2]]])).1.flatten := by
  intro d o w
  have hrows : (Source.ofWindows [[[.integer 1]], [[.integer 2]]] : RowStream).Yields
      [[.integer 1], [.integer 2]] := Source.yields_ofWindows _
  refine (streaming_agrees_iff d _ SessionState.default [⟨"id", "int4"⟩] 2 o false _ _ hrows rfl).2.mpr ?_
  intro row hmem
  have hrow : row = [.integer 1] := List.mem_singleton.mp hmem
  have hadds : addsColumn [⟨"id", "int4"⟩] ⟨.column, "_dn_wm", "t9"⟩ = true := by decide
  show if addsColumn [⟨"id", "int4"⟩] ⟨.column, "_dn_wm", "t9"⟩ = true then row.length = 1 else 1 ≤ row.length
  rw [if_pos hadds, hrow]
  rfl

/-- A row of numbers gets no suffix watermark from the streaming path. -/
theorem numbers_stream_unmarked : let d : Display := ⟨fun _ => "", fun _ => ""⟩
    let o : Obligations := { Obligations.none with watermark := some ⟨.suffix, "", "t9"⟩ }
    let w := queryWriter d ⟨fun _ => .ok [], fun _ _ => .ok .portalSuspended⟩ SessionState.default
      [⟨"id", "int4"⟩] 256 (some o) false
    let s : RowStream := .ofWindows [[[.integer 5]]]
    s.Yields [[.integer 5]] ∧
      applyObligationsToResponse d (.resultSet [⟨"id", "int4"⟩] [[.integer 5]]) o =
        .resultSet [⟨"id", "int4"⟩] [[.string "5 |wm=t9"]] ∧
      (w.stream s).1.flatten = [[.integer 5]] ∧
      applyObligationsToResponse d (.resultSet [⟨"id", "int4"⟩] [[.integer 5]]) o ≠
        .resultSet w.columns (w.stream s).1.flatten := by
  intro d o w s
  have hbuffered : applyObligationsToResponse d (.resultSet [⟨"id", "int4"⟩] [[.integer 5]]) o =
      .resultSet [⟨"id", "int4"⟩] [[.string "5 |wm=t9"]] := by decide
  have hstream : (w.stream s).1.flatten = [[.integer 5]] := by decide
  refine ⟨Source.yields_ofWindows _, hbuffered, hstream, ?_⟩
  rw [hbuffered, hstream]
  exact nofun

end DataNexus.Stream
