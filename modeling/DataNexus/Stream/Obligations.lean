/-
  Masks, watermark and row cap on a result (`gateway/core/src/obligations.rs`, `transport.rs`).

      buffered:          mask ▸ cut ▸ watermark
      buffered, windows: cut ▸ mask each window ▸ watermark
      windowed encoder:  cut ▸ watermark ▸ mask each window

  The first two agree on everything; `windowed_agrees_iff` says on which rows the third does.  A mask works cell by cell
  (`maskRow_eq_mapIdx`), the suffix watermark on a single cell (`stampRow_eq_modify`).
-/
import DataNexus.Stream.Rows
import DataNexus.Lib.Text

namespace DataNexus.Stream

open DataNexus.Text

/-! ## Masks -/

/-- How a number or a byte string reads as text: `f64::to_string` and `String::from_utf8_lossy`. -/
structure Display where
  float : UInt64 → String
  bytes : List UInt8 → String

def valueAsDisplay (d : Display) : GatewayValue → String
  | .null => ""
  | .boolean b => if b then "true" else "false"
  | .integer i => toString i
  | .unsignedInteger n => toString n
  | .float bits => d.float bits
  | .decimal text => text
  | .string text => text
  | .bytes data => d.bytes data

/-- `simple_fingerprint`: FNV-1a over the UTF-8 bytes, as 16 hexadecimal digits. -/
def simpleFingerprint (input : String) : String :=
  let hash := (utf8 input.toList).foldl
    (fun (hash : UInt64) byte => (hash ^^^ byte.toUInt64) * 0x100000001b3) 0xcbf29ce484222325
  let digits := Nat.toDigits 16 hash.toNat
  String.ofList (List.replicate (16 - digits.length) '0' ++ digits)

def partialMask (s : List Char) (keepFirst keepLast : Nat) : List Char :=
  let n := s.length
  if n = 0 then []
  else if keepFirst + keepLast ≥ n then List.replicate (max n 1) '*'
  else s.take keepFirst ++ List.replicate (n - keepFirst - keepLast) '*' ++ s.drop (n - keepLast)

def keepPrefixMask (s : List Char) (keepFirst : Nat) : List Char :=
  if s.isEmpty then []
  else
    let keep := min keepFirst s.length
    s.take keep ++ (if keep < s.length then "***".toList else [])

def maskGatewayValue (d : Display) (value : GatewayValue) (spec : MaskSpec) : GatewayValue :=
  match spec.algorithm with
  | .nullify => .null
  | .replace => .string (if spec.replaceWith.isEmpty then "***" else spec.replaceWith)
  | .hash => .string ("hash:" ++ simpleFingerprint (valueAsDisplay d value))
  | .partialMask => .string (String.ofList
      (partialMask (valueAsDisplay d value).toList spec.prefixLen spec.suffixLen))
  | .keepPrefix => .string (String.ofList
      (keepPrefixMask (valueAsDisplay d value).toList spec.prefixLen))

/-- The bare column name that `build_mask_index` looks up. -/
def bareColumn (name : String) : String :=
  String.ofList (toAsciiLowercase (trimMatches (· == '"') (trimMatches (· == '`')
    (lastSegment '.' name.toList))))

/-- The map `by_name`: of several masks for one column the last is kept. -/
def maskByName (masks : List MaskSpec) (bare : String) : Option MaskSpec :=
  masks.reverse.find? fun m => lower m.column == bare

def maskEntry (masks : List MaskSpec) (column : Column × Nat) : Option (Nat × MaskSpec) :=
  (maskByName masks (bareColumn column.1.name)).map fun spec => (column.2, spec)

def buildMaskIndex (columns : List Column) (masks : List MaskSpec) : List (Nat × MaskSpec) :=
  columns.zipIdx.filterMap (maskEntry masks)

/-- The masks on one row: a cell that is not there is passed over. -/
def maskRow (d : Display) (maskIdx : List (Nat × MaskSpec)) (row : Row) : Row :=
  maskIdx.foldl (fun row (i, spec) => row.modify i (maskGatewayValue d · spec)) row

def applyMasksToRows (d : Display) (rows : List Row) (maskIdx : List (Nat × MaskSpec)) : List Row :=
  if maskIdx.isEmpty then rows else rows.map (maskRow d maskIdx)

/-! ## Watermark -/

def watermarkColumn (wm : WatermarkSpec) : String := if (trim wm.column.toList).isEmpty then "_dn_wm" else wm.column

def watermarkMarker (wm : WatermarkSpec) : String := " |wm=" ++ wm.token

def addsColumn (columns : List Column) (wm : WatermarkSpec) : Bool :=
  !columns.any fun c => eqIgnoreAsciiCase c.name (watermarkColumn wm)

/-- A string cell gets the marker, unless it has one. -/
def stampText (marker s : String) : String := if contains " |wm=".toList s.toList then s else s ++ marker

/-- The loop over the cells of a row: the first string cell is stamped; `none` if there is none. -/
def stampFirst (marker : String) : Row → Option Row
  | [] => none
  | .string s :: rest => some (.string (stampText marker s) :: rest)
  | cell :: rest => (stampFirst marker rest).map (cell :: ·)

/-- The suffix mode of `apply_watermark_to_resultset` on one row: without a string cell the last cell
    becomes one. -/
def stampRow (d : Display) (marker : String) (row : Row) : Row :=
  match stampFirst marker row with
  | some stamped => stamped
  | none =>
    match row.getLast? with
    | some last => row.dropLast ++ [.string (valueAsDisplay d last ++ marker)]
    | none => row

def applyWatermarkToResultset (d : Display) (columns : List Column) (rows : List Row)
    (wm : WatermarkSpec) : List Column × List Row :=
  match wm.mode with
  | .column =>
    if addsColumn columns wm then
      (columns ++ [⟨watermarkColumn wm, "varchar"⟩], rows.map (· ++ [.string wm.token]))
    else (columns, rows)
  | .suffix => (columns, rows.map (stampRow d (watermarkMarker wm)))

def applyWatermark (d : Display) (columns : List Column) (rows : List Row) :
    Option WatermarkSpec → List Column × List Row
  | some wm => applyWatermarkToResultset d columns rows wm
  | none => (columns, rows)

/-! ## The three paths -/

def capRows (maxRows : Option Nat) (rows : List Row) : List Row :=
  match maxRows with
  | some max => rows.take max
  | none => rows

/-- The result set branch of `apply_obligations_to_response`. -/
def applyObligationsToResultset (d : Display) (columns : List Column) (rows : List Row)
    (o : Obligations) : List Column × List Row :=
  let rows := applyMasksToRows d rows (buildMaskIndex columns o.columnMasks)
  applyWatermark d columns (capRows o.maxRows rows) o.watermark

def applyObligationsToResponse (d : Display) (response : GatewayResponse) (o : Obligations) : GatewayResponse :=
  if !o.hasResultObligations then response
  else match response with
    | .resultSet columns rows =>
      let out := applyObligationsToResultset d columns rows o
      .resultSet out.1 out.2
    | .taggedResultSet columns rows tag =>
      let out := applyObligationsToResultset d columns rows o
      .taggedResultSet out.1 out.2 tag
    | other => other

/-- The windows that a `while !rows.is_empty()` loop drains. -/
def windows (window : Nat) (rows : List Row) : List (List Row) :=
  if h : rows = [] then []
  else rows.take (max window 1) :: windows window (rows.drop (max window 1))
termination_by rows.length
decreasing_by
  have hpos : 0 < rows.length := List.length_pos_of_ne_nil h
  rw [List.length_drop]
  omega

def applyObligationsWindowed (d : Display) (columns : List Column) (rows : List Row) (o : Obligations)
    (windowRows : Nat) : GatewayResponse :=
  if !o.hasResultObligations then .resultSet columns rows
  else
    let rows := capRows o.maxRows rows
    let maskIdx := buildMaskIndex columns o.columnMasks
    let rows :=
      if maskIdx.isEmpty then rows
      else (windows windowRows rows).flatMap fun chunk => applyMasksToRows d chunk maskIdx
    let out := applyWatermark d columns rows o.watermark
    .resultSet out.1 out.2

/-- What a write path hands over: the columns, the windows of rows, how many rows, and whether some were cut off. -/
structure Sent where
  columns : List Column
  windows : List (List Row)
  totalRows : Nat
  truncated : Bool
deriving DecidableEq

def Sent.rows (s : Sent) : List Row := s.windows.flatten

def writeResultsetWindowedWithObligations (d : Display) (columns : List Column) (rows : List Row)
    (windowRows : Nat) (o : Option Obligations) : Sent :=
  let truncated := ((o.bind (·.maxRows)).map fun max => decide (max < rows.length)).getD false
  let rows := capRows (o.bind (·.maxRows)) rows
  let out := applyWatermark d columns rows (o.bind (·.watermark))
  let maskIdx := (o.map fun o => buildMaskIndex out.1 o.columnMasks).getD []
  { columns := out.1
    windows := (windows windowRows out.2).map fun chunk => applyMasksToRows d chunk maskIdx
    totalRows := out.2.length
    truncated := truncated }

/-! ## One cell at a time -/

/-- The mask of the `k`-th column. -/
def maskAt (columns : List Column) (masks : List MaskSpec) (k : Nat) : Option MaskSpec :=
  columns[k]?.bind fun column => maskByName masks (bareColumn column.name)

/-- What the masks make of a cell in the `k`-th place. -/
def maskCell (d : Display) (columns : List Column) (masks : List MaskSpec) (k : Nat)
    (cell : GatewayValue) : GatewayValue :=
  match maskAt columns masks k with
  | some spec => maskGatewayValue d cell spec
  | none => cell

section Cells

variable (d : Display) (columns : List Column) (masks : List MaskSpec)

/-- The index of the columns from the `n`-th place on, and what is masked by it. -/
theorem getElem?_maskRow (n : Nat) (row : Row) (k : Nat) :
    (maskRow d ((columns.zipIdx n).filterMap (maskEntry masks)) row)[k]? =
      row[k]?.map fun cell => if n ≤ k then maskCell d columns masks (k - n) cell else cell := by
  induction columns generalizing n row with
  | nil =>
    have hcell : ∀ cell, (if n ≤ k then maskCell d [] masks (k - n) cell else cell) = cell := by
      intro cell
      split <;> rfl
    simp only [hcell, Option.map_id']
    rfl
  | cons column rest ih =>
    -- the cell in the `n`-th place belongs to `column`, those after it to `rest`
    have hrest : ∀ cell, n + 1 ≤ k →
        maskCell d (column :: rest) masks (k - n) cell = maskCell d rest masks (k - (n + 1)) cell := by
      intro cell hk
      have hsub : k - n = (k - (n + 1)) + 1 := by omega
      unfold maskCell maskAt
      rw [hsub, List.getElem?_cons_succ]
    rw [List.zipIdx_cons]
    cases hmask : maskByName masks (bareColumn column.name) with
    | none =>
      have hfirst : ∀ cell, maskCell d (column :: rest) masks 0 cell = cell := by
        intro cell
        unfold maskCell maskAt
        rw [List.getElem?_cons_zero, Option.bind_some, hmask]
      have hskipped : maskEntry masks (column, n) = none := by
        unfold maskEntry
        rw [hmask]
        rfl
      rw [List.filterMap_cons_none hskipped, ih]
      congr 1
      funext cell
      rcases Nat.lt_trichotomy n k with hlt | heq | hgt
      · rw [if_pos (by omega), if_pos (by omega), hrest cell hlt]
      · subst heq
        rw [if_neg (by omega), if_pos (by omega), Nat.sub_self, hfirst]
      · rw [if_neg (by omega), if_neg (by omega)]
    | some spec =>
      have hfirst : ∀ cell, maskCell d (column :: rest) masks 0 cell = maskGatewayValue d cell spec := by
        intro cell
        unfold maskCell maskAt
        rw [List.getElem?_cons_zero, Option.bind_some, hmask]
      have hkept : maskEntry masks (column, n) = some (n, spec) := by
        unfold maskEntry
        rw [hmask]
        rfl
      rw [List.filterMap_cons_some hkept]
      show (maskRow d _ (row.modify n (maskGatewayValue d · spec)))[k]? = _
      rw [ih, List.getElem?_modify, Option.map_eq_map, Option.map_map]
      congr 1
      funext cell
      show (if n + 1 ≤ k then maskCell d rest masks (k - (n + 1)) (if n = k then _ else cell)
        else if n = k then _ else cell) = _
      rcases Nat.lt_trichotomy n k with hlt | heq | hgt
      · have hne : n ≠ k := by omega
        rw [if_pos (show n + 1 ≤ k from hlt), if_neg hne, if_pos (Nat.le_of_lt hlt), hrest cell hlt]
      · subst heq
        rw [if_neg (by omega), if_pos rfl, if_pos (Nat.le_refl n), Nat.sub_self, hfirst]
      · rw [if_neg (by omega), if_neg (by omega), if_neg (by omega)]

/-- **A mask works cell by cell.** -/
theorem maskRow_eq_mapIdx (row : Row) :
    maskRow d (buildMaskIndex columns masks) row = row.mapIdx (maskCell d columns masks) := by
  refine List.ext_getElem? fun k => ?_
  rw [List.getElem?_mapIdx]
  have hcell := getElem?_maskRow d columns masks 0 row k
  simp only [Nat.zero_le, if_true, Nat.sub_zero] at hcell
  exact hcell

theorem applyMasksToRows_eq (rows : List Row) (maskIdx : List (Nat × MaskSpec)) :
    applyMasksToRows d rows maskIdx = rows.map (maskRow d maskIdx) := by
  unfold applyMasksToRows
  cases maskIdx with
  | nil => exact (List.map_id rows).symm
  | cons first rest => rfl

end Cells

theorem windows_flatten (window : Nat) (rows : List Row) : (windows window rows).flatten = rows := by
  induction rows using windows.induct window with
  | case1 =>
    rw [windows]
    rfl
  | case2 rows hne ih =>
    rw [windows, dif_neg hne, List.flatten_cons, ih, List.take_append_drop]

theorem windows_map_flatten (window : Nat) (rows : List Row) (f : Row → Row) :
    ((windows window rows).map fun chunk => chunk.map f).flatten = rows.map f := by
  rw [← List.map_flatten, windows_flatten]

theorem applyObligationsToResponse_resultSet (d : Display) (columns : List Column) (rows : List Row)
    (o : Obligations) : applyObligationsToResponse d (.resultSet columns rows) o =
      .resultSet (applyObligationsToResultset d columns rows o).1
        (applyObligationsToResultset d columns rows o).2 := by
  unfold applyObligationsToResponse
  by_cases howed : o.hasResultObligations = true
  · rw [if_neg (by rw [howed]; exact nofun)]
  · -- nothing is owed: no mask, no cap and no watermark
    rw [if_pos (by rw [Bool.not_eq_true] at howed; rw [howed]; rfl)]
    unfold Obligations.hasResultObligations at howed
    simp only [Bool.or_eq_true, not_or, Bool.not_eq_true, Bool.not_eq_false', List.isEmpty_iff,
      Option.isSome_eq_false_iff, Option.isNone_iff_eq_none] at howed
    obtain ⟨⟨hmasks, hmax⟩, hwm⟩ := howed
    have hidx : buildMaskIndex columns [] = [] := by
      unfold buildMaskIndex
      exact List.filterMap_eq_nil_iff.mpr fun column _ => rfl
    unfold applyObligationsToResultset
    rw [hmasks, hmax, hwm, hidx]
    rfl

theorem capRows_map (maxRows : Option Nat) (rows : List Row) (f : Row → Row) :
    capRows maxRows (rows.map f) = (capRows maxRows rows).map f := by
  cases maxRows with
  | none => rfl
  | some max => exact (List.map_take).symm

theorem applyObligationsWindowed_eq (d : Display) (columns : List Column) (rows : List Row)
    (o : Obligations) (windowRows : Nat) : applyObligationsWindowed d columns rows o windowRows =
      applyObligationsToResponse d (.resultSet columns rows) o := by
  unfold applyObligationsWindowed
  by_cases howed : o.hasResultObligations = true
  · rw [if_neg (by rw [howed]; exact nofun), applyObligationsToResponse_resultSet]
    unfold applyObligationsToResultset
    dsimp only
    have hmasked : (if (buildMaskIndex columns o.columnMasks).isEmpty then capRows o.maxRows rows
        else (windows windowRows (capRows o.maxRows rows)).flatMap fun chunk =>
          applyMasksToRows d chunk (buildMaskIndex columns o.columnMasks)) =
        capRows o.maxRows (applyMasksToRows d rows (buildMaskIndex columns o.columnMasks)) := by
      rw [applyMasksToRows_eq, capRows_map]
      split
      · rename_i hempty
        rw [List.isEmpty_iff.mp hempty]
        exact (List.map_id _).symm
      · simp only [applyMasksToRows_eq]
        rw [List.flatMap_def, windows_map_flatten]
    rw [hmasked]
  · rw [Bool.not_eq_true] at howed
    unfold applyObligationsToResponse
    rw [howed]
    rfl

/-! ## Where the marker goes -/

def isString : GatewayValue → Bool
  | .string _ => true
  | _ => false

/-- The cell that the suffix mode stamps: the first string cell, or the last cell if there is none. -/
def carrier (row : Row) : Option Nat := (row.findIdx? isString).or (if row.isEmpty then none else some (row.length - 1))

def stamp (d : Display) (marker : String) : GatewayValue → GatewayValue
  | .string s => .string (stampText marker s)
  | cell => .string (valueAsDisplay d cell ++ marker)

theorem stamp_of_not_isString (d : Display) (marker : String) {cell : GatewayValue}
    (h : isString cell = false) : stamp d marker cell = .string (valueAsDisplay d cell ++ marker) := by
  cases cell <;> first | rfl | exact absurd h nofun

theorem stampFirst_eq (d : Display) (marker : String) (row : Row) :
    stampFirst marker row = (row.findIdx? isString).map fun i => row.modify i (stamp d marker) := by
  induction row with
  | nil => rfl
  | cons cell rest ih =>
    rw [List.findIdx?_cons]
    by_cases hstring : isString cell = true
    · rw [if_pos hstring]
      cases cell <;> first | rfl | exact absurd hstring nofun
    · have hnext : stampFirst marker (cell :: rest) = (stampFirst marker rest).map (cell :: ·) := by
        cases cell <;> first | rfl | exact absurd rfl hstring
      rw [if_neg hstring, hnext, ih, Option.map_map, Option.map_map]
      rfl

/-- **The suffix watermark works on a single cell.** -/
theorem stampRow_eq_modify (d : Display) (marker : String) (row : Row) :
    stampRow d marker row = match carrier row with
      | some i => row.modify i (stamp d marker)
      | none => row := by
  unfold stampRow carrier
  rw [stampFirst_eq d]
  cases hfind : row.findIdx? isString with
  | some i => rfl
  | none =>
    rcases List.eq_nil_or_concat row with rfl | ⟨init, last, rfl⟩
    · rfl
    · have hlast : isString last = false :=
        List.findIdx?_eq_none_iff.mp hfind last (by simp)
      have hmodify : (init.concat last).modify init.length (stamp d marker) =
          init ++ [stamp d marker last] := by
        rw [List.concat_eq_append, List.modify_eq_take_cons_drop (by simp)]
        simp
      rw [stamp_of_not_isString d marker hlast] at hmodify
      simpa using hmodify.symm

/-! ## The watermark under the masks -/

section Order

variable {d : Display} {columns : List Column} {masks : List MaskSpec}

theorem mapIdx_modify_eq_iff {m : Nat → GatewayValue → GatewayValue} {f : GatewayValue → GatewayValue}
    {row : Row} {i j : Nat} : (row.modify i f).mapIdx m = (row.mapIdx m).modify j f ↔
      if i = j then ∀ cell, row[i]? = some cell → m i (f cell) = f (m i cell)
      else (∀ cell, row[i]? = some cell → m i (f cell) = m i cell) ∧
        ∀ cell, row[j]? = some cell → f (m j cell) = m j cell := by
  have hcells : (row.modify i f).mapIdx m = (row.mapIdx m).modify j f ↔
      ∀ k cell, row[k]? = some cell →
        m k (if i = k then f cell else cell) = if j = k then f (m k cell) else m k cell := by
    constructor
    · intro h k cell hcell
      have hk := congrArg (·[k]?) h
      rw [List.getElem?_mapIdx, List.getElem?_modify, List.getElem?_modify, List.getElem?_mapIdx, hcell] at hk
      exact Option.some.inj hk
    · intro h
      refine List.ext_getElem? fun k => ?_
      rw [List.getElem?_mapIdx, List.getElem?_modify, List.getElem?_modify, List.getElem?_mapIdx]
      cases hcell : row[k]? with
      | none => rfl
      | some cell => exact congrArg some (h k cell hcell)
  rw [hcells]
  by_cases hij : i = j
  · subst hij
    rw [if_pos rfl]
    constructor
    · intro h cell hcell
      have hi := h i cell hcell
      rwa [if_pos rfl, if_pos rfl] at hi
    · intro h k cell hcell
      by_cases hk : i = k
      · subst hk
        rw [if_pos rfl, if_pos rfl]
        exact h cell hcell
      · rw [if_neg hk, if_neg hk]
  · rw [if_neg hij]
    constructor
    · intro h
      refine ⟨fun cell hcell => ?_, fun cell hcell => ?_⟩
      · have hi := h i cell hcell
        rwa [if_pos rfl, if_neg (Ne.symm hij)] at hi
      · have hj := h j cell hcell
        rw [if_neg hij, if_pos rfl] at hj
        exact hj.symm
    · rintro ⟨hi, hj⟩ k cell hcell
      by_cases hk : i = k
      · subst hk
        rw [if_pos rfl, if_neg (Ne.symm hij)]
        exact hi cell hcell
      · rw [if_neg hk]
        by_cases hk' : j = k
        · subst hk'
          rw [if_pos rfl]
          exact (hj cell hcell).symm
        · rw [if_neg hk']

variable {k : Nat}

theorem maskCell_append_of_lt (column : Column) (hk : k < columns.length) (cell : GatewayValue) :
    maskCell d (columns ++ [column]) masks k cell = maskCell d columns masks k cell := by
  unfold maskCell maskAt
  rw [List.getElem?_append_left hk]

theorem maskCell_of_le (hk : columns.length ≤ k) (cell : GatewayValue) : maskCell d columns masks k cell = cell := by
  unfold maskCell maskAt
  rw [List.getElem?_eq_none hk]
  rfl

theorem mapIdx_expanded_iff {column : Column} {row : Row} :
    row.mapIdx (maskCell d (columns ++ [column]) masks) = row.mapIdx (maskCell d columns masks) ↔
      ∀ cell, row[columns.length]? = some cell →
        maskCell d (columns ++ [column]) masks columns.length cell = cell := by
  constructor
  · intro h cell hcell
    have hk := congrArg (·[columns.length]?) h
    rw [List.getElem?_mapIdx, List.getElem?_mapIdx, hcell] at hk
    exact (Option.some.inj hk).trans (maskCell_of_le (Nat.le_refl _) cell)
  · intro h
    refine List.ext_getElem? fun k => ?_
    rw [List.getElem?_mapIdx, List.getElem?_mapIdx]
    cases hcell : row[k]? with
    | none => rfl
    | some cell =>
      refine congrArg some ?_
      rcases Nat.lt_trichotomy k columns.length with hlt | heq | hgt
      · exact maskCell_append_of_lt column hlt cell
      · subst heq
        rw [h cell hcell, maskCell_of_le (Nat.le_refl _)]
      · rw [maskCell_of_le (Nat.le_of_lt hgt), maskCell_of_le]
        rw [List.length_append]
        exact hgt

theorem mapIdx_append_eq_iff {column : Column} {row : Row} {token : GatewayValue} :
    (row ++ [token]).mapIdx (maskCell d (columns ++ [column]) masks) =
        row.mapIdx (maskCell d columns masks) ++ [token] ↔
      maskCell d (columns ++ [column]) masks row.length token = token ∧ ∀ cell, row[columns.length]? = some cell →
          maskCell d (columns ++ [column]) masks columns.length cell = cell := by
  have hsplit : (row ++ [token]).mapIdx (maskCell d (columns ++ [column]) masks) =
      row.mapIdx (maskCell d (columns ++ [column]) masks) ++
        [maskCell d (columns ++ [column]) masks row.length token] := by
    rw [List.mapIdx_append]
    simp
  rw [hsplit, ← mapIdx_expanded_iff]
  constructor
  · intro h
    obtain ⟨hcells, htoken⟩ := List.append_inj' h rfl
    exact ⟨List.singleton_inj.mp htoken, hcells⟩
  · rintro ⟨htoken, hcells⟩
    rw [htoken, hcells]

end Order

/-- Masks and watermark do not meet on this row: no mask changes the token or the cell under its header; or the cell
    stamped before masking is the one stamped after it, or the mask hides the marker. -/
def MasksCommute (d : Display) (columns : List Column) (o : Obligations) (row : Row) : Prop :=
  match o.watermark with
  | none => True
  | some wm =>
    match wm.mode with
    | .column =>
      let masked := maskCell d (columns ++ [⟨watermarkColumn wm, "varchar"⟩]) o.columnMasks
      addsColumn columns wm = true →
        masked row.length (.string wm.token) = .string wm.token ∧
          ∀ cell, row[columns.length]? = some cell → masked columns.length cell = cell
    | .suffix =>
      let masked := maskCell d columns o.columnMasks
      let stamped := stamp d (watermarkMarker wm)
      ∀ i j, carrier row = some i → carrier (row.mapIdx masked) = some j →
        if i = j then ∀ cell, row[i]? = some cell → masked i (stamped cell) = stamped (masked i cell)
        else (∀ cell, row[i]? = some cell → masked i (stamped cell) = masked i cell) ∧
          ∀ cell, row[j]? = some cell → stamped (masked j cell) = masked j cell

theorem carrier_eq_none_iff (row : Row) : carrier row = none ↔ row = [] := by
  unfold carrier
  constructor
  · intro h
    rw [Option.or_eq_none_iff] at h
    by_contra hne
    rw [if_neg (by simpa using hne)] at h
    exact absurd h.2 nofun
  · rintro rfl
    rfl

theorem stamp_mask_iff (d : Display) (marker : String) (m : Nat → GatewayValue → GatewayValue) (row : Row) :
    (stampRow d marker row).mapIdx m = stampRow d marker (row.mapIdx m) ↔
      ∀ i j, carrier row = some i → carrier (row.mapIdx m) = some j →
        if i = j then ∀ cell, row[i]? = some cell → m i (stamp d marker cell) = stamp d marker (m i cell)
        else (∀ cell, row[i]? = some cell → m i (stamp d marker cell) = m i cell) ∧
          ∀ cell, row[j]? = some cell → stamp d marker (m j cell) = m j cell := by
  rw [stampRow_eq_modify, stampRow_eq_modify]
  cases hi : carrier row with
  | none =>
    have hrow := (carrier_eq_none_iff row).mp hi
    subst hrow
    exact iff_of_true rfl nofun
  | some i =>
    cases hj : carrier (row.mapIdx m) with
    | none =>
      have hrow : row = [] := by simpa using (carrier_eq_none_iff _).mp hj
      subst hrow
      exact absurd hi nofun
    | some j =>
      dsimp only
      rw [mapIdx_modify_eq_iff]
      constructor
      · rintro h i' j' hi' hj'
        cases hi'
        cases hj'
        exact h
      · intro h
        exact h i j rfl rfl

/-! ## Result -/

theorem writeResultsetWindowed_rows (d : Display) (columns : List Column) (rows : List Row)
    (windowRows : Nat) (o : Obligations) :
    (writeResultsetWindowedWithObligations d columns rows windowRows (some o)).rows =
      (applyWatermark d columns (capRows o.maxRows rows) o.watermark).2.map
        (maskRow d (buildMaskIndex (applyWatermark d columns (capRows o.maxRows rows) o.watermark).1
          o.columnMasks)) := by
  unfold Sent.rows writeResultsetWindowedWithObligations
  simp only [applyMasksToRows_eq]
  exact windows_map_flatten _ _ _

theorem applyObligationsToResultset_eq (d : Display) (columns : List Column) (rows : List Row) (o : Obligations) :
    applyObligationsToResultset d columns rows o = applyWatermark d columns ((capRows o.maxRows rows).map
        (maskRow d (buildMaskIndex columns o.columnMasks))) o.watermark := by
  unfold applyObligationsToResultset
  dsimp only
  rw [applyMasksToRows_eq, capRows_map]

theorem applyWatermark_columns (d : Display) (columns : List Column) (rows rows' : List Row)
    (wm : Option WatermarkSpec) : (applyWatermark d columns rows wm).1 = (applyWatermark d columns rows' wm).1 := by
  cases wm with
  | none => rfl
  | some wm =>
    obtain ⟨mode, column, token⟩ := wm
    cases mode with
    | column =>
      unfold applyWatermark applyWatermarkToResultset
      by_cases hadds : addsColumn columns ⟨.column, column, token⟩ = true
      · simp only [if_pos hadds]
      · simp only [if_neg hadds]
    | suffix => rfl

theorem watermark_mask_iff (d : Display) (columns : List Column) (rows : List Row) (o : Obligations) :
    (applyWatermark d columns rows o.watermark).2.map
        (maskRow d (buildMaskIndex (applyWatermark d columns rows o.watermark).1 o.columnMasks)) =
      (applyWatermark d columns (rows.map (maskRow d (buildMaskIndex columns o.columnMasks))) o.watermark).2 ↔
      ∀ row ∈ rows, MasksCommute d columns o row := by
  unfold MasksCommute
  cases o.watermark with
  | none => exact iff_of_true (by rfl) fun _ _ => trivial
  | some wm =>
    obtain ⟨mode, column, token⟩ := wm
    unfold applyWatermark applyWatermarkToResultset
    cases mode with
    | column =>
      dsimp only
      by_cases hadds : addsColumn columns ⟨.column, column, token⟩ = true
      · simp only [if_pos hadds, List.map_map, List.map_inj_left]
        refine forall₂_congr fun row _ => ?_
        rw [forall_prop_of_true hadds, ← mapIdx_append_eq_iff, ← maskRow_eq_mapIdx, ← maskRow_eq_mapIdx]
        rfl
      · simp only [if_neg hadds]
        exact iff_of_true trivial fun row _ h => absurd h hadds
    | suffix =>
      dsimp only
      rw [List.map_map, List.map_map, List.map_inj_left]
      refine forall₂_congr fun row _ => ?_
      rw [← stamp_mask_iff, ← maskRow_eq_mapIdx, ← maskRow_eq_mapIdx]
      rfl

/-- **The windowed encoder agrees with the buffered path exactly where masks and watermark do not
    interfere**; applying the obligations window by window always agrees. -/
theorem windowed_agrees_iff (d : Display) (columns : List Column) (rows : List Row) (windowRows : Nat)
    (o : Obligations) : (applyObligationsToResponse d (.resultSet columns rows) o =
        .resultSet (writeResultsetWindowedWithObligations d columns rows windowRows (some o)).columns
          (writeResultsetWindowedWithObligations d columns rows windowRows (some o)).rows ∧
      applyObligationsToResponse d (.resultSet columns rows) o = applyObligationsWindowed d columns rows o windowRows) ↔
      ∀ row ∈ capRows o.maxRows rows, MasksCommute d columns o row := by
  rw [and_iff_left (applyObligationsWindowed_eq d columns rows o windowRows).symm,
    applyObligationsToResponse_resultSet, ← watermark_mask_iff, ← writeResultsetWindowed_rows]
  have hcolumns : (applyObligationsToResultset d columns rows o).1 =
      (writeResultsetWindowedWithObligations d columns rows windowRows (some o)).columns :=
    applyWatermark_columns d columns _ _ o.watermark
  rw [hcolumns, applyObligationsToResultset_eq]
  constructor
  · intro h
    exact (GatewayResponse.resultSet.inj h).2.symm
  · intro h
    rw [h]

/-- A mask on the only column takes the suffix watermark away in the windowed encoder.  The buffered path
    stamps what the mask has left. -/
theorem nullified_watermark_lost : let d : Display := ⟨fun _ => "", fun _ => ""⟩
    let o : Obligations := { Obligations.none with
      columnMasks := [⟨"name", .nullify, "***", 3, 2, "m"⟩], watermark := some ⟨.suffix, "", "t9"⟩ }
    let sent := writeResultsetWindowedWithObligations d [⟨"name", "varchar"⟩] [[.string "alice"]] 256 (some o)
    applyObligationsToResponse d (.resultSet [⟨"name", "varchar"⟩] [[.string "alice"]]) o =
        .resultSet [⟨"name", "varchar"⟩] [[.string " |wm=t9"]] ∧
      sent.rows = [[.null]] ∧
      applyObligationsToResponse d (.resultSet [⟨"name", "varchar"⟩] [[.string "alice"]]) o ≠
        .resultSet sent.columns sent.rows := by
  intro d o sent
  have hbuffered : applyObligationsToResponse d (.resultSet [⟨"name", "varchar"⟩] [[.string "alice"]]) o =
      .resultSet [⟨"name", "varchar"⟩] [[.string " |wm=t9"]] := by decide
  have hsent : sent.rows = [[.null]] := by
    rw [writeResultsetWindowed_rows]
    decide
  refine ⟨hbuffered, hsent, ?_⟩
  rw [hbuffered, hsent]
  exact nofun

end DataNexus.Stream
