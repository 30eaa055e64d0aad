/-
  Paging through a portal: after a page the gateway HOLDS the stream, with the rows it has already polled put in front
  (`PrefixedRowStream`), or it runs the query again and SKIPS the rows it has sent.

      heldPages:  page 1 of s ─▶ page 2 of the held rest of s ─▶ …
      skipPages:  page 1 of s₁ ─▶ page 2 of s₂, after the rows of page 1 ─▶ …

  1. `paged_iff` — held paging sends every row once, and says so at the end of each page, exactly if no page is filled just
     where the stream answers with an empty window.

  2. `skip_eq_held` — a stream without empty windows is paged the same way by both.
-/
import DataNexus.Stream.Streaming

namespace DataNexus.Stream

open DataNexus.Poll

/-! ## Pages -/

/-- What the client gets for one Execute: the columns, the rows, and the closing message. -/
structure Page where
  columns : List Column
  rows : List Row
  footer : List ClientMessage
deriving DecidableEq

structure Paging where
  display : Display
  encoders : Encoders
  session : SessionState
  windowRows : Nat
  /-- Masks and watermark. -/
  obligations : Obligations
  /-- The row cap of the policy. -/
  cap : Option Nat

/-- The row limit of a page: the Execute's, or the policy's if that is smaller. -/
def Paging.limit (p : Paging) (size : Nat) : Nat :=
  match p.cap with
  | some most => min most size
  | none => size

/-- The writer for an Execute of `size` rows. -/
def Paging.writer (p : Paging) (columns : List Column) (size skip : Nat) (hold : Bool) : Writer :=
  queryWriter p.display p.encoders
    { p.session with
      pgExtendedQuery := true
      pgExecuteMaxRows := some size
      pgPortalSkipRows := skip }
    columns p.windowRows (some { p.obligations with maxRows := some (p.limit size) }) hold

/-- The page a writer sends, and how it ended.  After an error there is no closing message. -/
def Writer.sendPage (w : Writer) (s : RowStream) : Page × Option PolledEnd :=
  match w.stream s with
  | (windows, .ok e) => (⟨w.columns, windows.flatten, w.footer e.totalRows e.truncated⟩, some e)
  | (windows, .error _) => (⟨w.columns, windows.flatten, []⟩, none)

/-- One Execute after the other on the held stream, until nothing is held. -/
def heldPages (p : Paging) : (sizes : List Nat) → List Column → RowStream → List Page
  | [], _, _ => []
  | size :: sizes, columns, s =>
    let w := p.writer columns size 0 true
    let page := w.sendPage s
    match page.2.bind (·.held) with
    | some rest => page.1 :: heldPages p sizes w.columns rest
    | none => [page.1]

/-- One Execute after the other, each on a new run of the query: the rows of earlier pages are skipped. -/
def skipPages (p : Paging) (columns : List Column) : (runs : List (Nat × RowStream)) → (skip : Nat) →
    List Page
  | [], _ => []
  | (size, s) :: runs, skip =>
    let page := (p.writer columns size skip false).sendPage s
    match page.2 with
    | some e => if e.truncated then page.1 :: skipPages p columns runs (skip + e.totalRows) else [page.1]
    | none => [page.1]

def Page.Suspended (page : Page) : Prop := page.footer = [.portalSuspended]

def Page.Complete (page : Page) : Prop := ∃ tag, page.footer = [.commandComplete tag]

/-! ## One page -/

section OnePage

variable {p : Paging} {columns : List Column} {size skip : Nat} {hold : Bool} {s : RowStream}
  {rows : List Row}

theorem streamColumns_idem (d : Display) (columns : List Column) (o : Obligations) :
    streamColumns d (streamColumns d columns o) o = streamColumns d columns o := by
  unfold streamColumns
  cases o.watermark with
  | none => rfl
  | some wm =>
    obtain ⟨mode, name, token⟩ := wm
    cases mode with
    | suffix => rfl
    | column =>
      unfold applyWatermark applyWatermarkToResultset
      by_cases hadds : addsColumn columns ⟨.column, name, token⟩ = true
      · have hthere : ¬ addsColumn (columns ++ [⟨watermarkColumn ⟨.column, name, token⟩, "varchar"⟩])
            ⟨.column, name, token⟩ = true := by
          unfold addsColumn Text.eqIgnoreAsciiCase Text.sameIgnoringCase
          simp
        simp only [if_pos hadds, if_neg hthere]
      · simp only [if_neg hadds]

theorem footer_writer (p : Paging) (columns : List Column) (skip : Nat) (hold : Bool) {size : Nat}
    (hsize : 0 < size) (total : Nat) (truncated : Bool) : (p.writer columns size skip hold).footer total truncated =
      if truncated = true ∧ size ≤ total then [.portalSuspended]
      else [.commandComplete ("SELECT " ++ toString total)] := by
  have hpage : (some size : Option Nat).filter (0 < ·) = some size := by
    rw [Option.filter_some, if_pos (by simpa using hsize)]
  unfold Writer.footer
  show (if (true && truncated && ((some size : Option Nat).filter (0 < ·)).any (· ≤ total)) = true
    then _ else if true = true then _ else _) = _
  rw [hpage, if_pos (show true = true from rfl)]
  refine if_congr ?_ rfl rfl
  simp

theorem sendPage_spec (p : Paging) (columns : List Column) (size : Nat) (hold : Bool) (h : s.Yields rows)
    (hskip : skip = 0 ∨ 0 < p.limit size) (hhold : hold = true → skip = 0) :
    ∃ e, (p.writer columns size skip hold).sendPage s = (⟨streamColumns p.display columns p.obligations,
          ((rows.drop skip).take (p.limit size)).map
            (streamRow p.display (streamColumns p.display columns p.obligations) p.obligations),
          (p.writer columns size skip hold).footer e.totalRows e.truncated⟩, some e) ∧
      e.totalRows = ((rows.drop skip).take (p.limit size)).length ∧
      (p.writer columns size skip hold).Ends ((rows.drop skip).drop (p.limit size))
        ((p.writer columns size skip hold).EmptyAfter s 0) e := by
  have hwindow : 0 < (p.writer columns size skip hold).window :=
    Nat.lt_of_lt_of_le Nat.zero_lt_one (Nat.le_max_right p.windowRows 1)
  have hopen : skip = 0 ∨ (p.writer columns size skip hold).maxTotal.any (· ≤ 0) = false := by
    rcases hskip with hzero | hpos
    · exact .inl hzero
    · right
      show decide (p.limit size ≤ 0) = false
      exact decide_eq_false (by omega)
  obtain ⟨windows, e, hloop, hflat, htotal, hends⟩ := pollLoop_spec hwindow h 0 skip hopen hhold
  have hstream : (p.writer columns size skip hold).stream s = (windows, .ok e) := hloop
  refine ⟨e, ?_, ?_, hends⟩
  · unfold Writer.sendPage
    rw [hstream]
    dsimp only
    rw [hflat]
    rfl
  · rw [htotal, Nat.zero_add]
    rfl

end OnePage

/-! ## Held paging -/

/-- Some page of the run is filled, with rows left, just where the stream answers with an empty window. -/
def MeetsGap (p : Paging) : (sizes : List Nat) → List Column → RowStream → List Row → Prop
  | [], _, _, _ => False
  | size :: sizes, columns, s, rows =>
    let w := p.writer columns size 0 true
    size < rows.length ∧ (w.EmptyAfter s 0 ∨
      ∃ rest, (w.sendPage s).2.bind (·.held) = some rest ∧ MeetsGap p sizes w.columns rest (rows.drop size))

/-- The pages give the rows in order, each once; a page is suspended exactly if rows are left at its size. -/
structure Paged (view : Row → Row) (sizes : List Nat) (rows : List Row) (pages : List Page) : Prop where
  rows_once : pages.flatMap Page.rows = (rows.take sizes.sum).map view
  ending : ∀ k size page, sizes[k]? = some size → pages[k]? = some page →
    (page.Suspended ↔ page.rows.length = size ∧ (sizes.take (k + 1)).sum < rows.length) ∧
      (page.Complete ↔ rows.length ≤ (sizes.take (k + 1)).sum)

section Held

variable {p : Paging} {columns : List Column} {size : Nat} {sizes : List Nat} {s : RowStream}
  {rows : List Row}

theorem heldPages_last (h : s.Yields rows) (hsize : 0 < size) (hlimit : p.limit size = size)
    (hlast : rows.length ≤ size ∨ (p.writer columns size 0 true).EmptyAfter s 0) :
    heldPages p (size :: sizes) columns s = [⟨streamColumns p.display columns p.obligations, (rows.take size).map
          (streamRow p.display (streamColumns p.display columns p.obligations) p.obligations),
        [.commandComplete ("SELECT " ++ toString (rows.take size).length)]⟩] := by
  obtain ⟨e, hpage, htotal, hends⟩ := sendPage_spec p columns size true h (.inl rfl) (fun _ => rfl)
  rw [hlimit, List.drop_zero] at hpage htotal hends
  have hrest : rows.drop size = [] ∨ (p.writer columns size 0 true).EmptyAfter s 0 :=
    hlast.imp_left List.drop_eq_nil_of_le
  obtain ⟨htruncated, hheld⟩ := hends.1 hrest
  rw [heldPages, hpage]
  dsimp only [Option.bind_some]
  rw [hheld, footer_writer _ _ _ _ hsize, htruncated, htotal, if_neg (by rintro ⟨⟨⟩, _⟩)]

theorem heldPages_more (sizes : List Nat) (h : s.Yields rows) (hsize : 0 < size) (hlimit : p.limit size = size)
    (hmore : size < rows.length) (hgap : ¬(p.writer columns size 0 true).EmptyAfter s 0) :
    ∃ rest : RowStream, rest.Yields (rows.drop size) ∧
      ((p.writer columns size 0 true).sendPage s).2.bind (·.held) = some rest ∧
      heldPages p (size :: sizes) columns s = ⟨streamColumns p.display columns p.obligations, (rows.take size).map
            (streamRow p.display (streamColumns p.display columns p.obligations) p.obligations),
          [.portalSuspended]⟩ :: heldPages p sizes (streamColumns p.display columns p.obligations) rest := by
  obtain ⟨e, hpage, htotal, hends⟩ := sendPage_spec p columns size true h (.inl rfl) (fun _ => rfl)
  rw [hlimit, List.drop_zero] at hpage htotal hends
  have hrest : rows.drop size ≠ [] := by
    intro hnil
    have hle := List.drop_eq_nil_iff.mp hnil
    omega
  obtain ⟨htruncated, rest, hheld, hyields⟩ := hends.2 hrest hgap
  have hfull : e.totalRows = size := by
    rw [htotal, List.length_take]
    omega
  refine ⟨rest, hyields, ?_, ?_⟩
  · rw [hpage]
    exact hheld
  · rw [heldPages, hpage]
    dsimp only [Option.bind_some]
    rw [hheld, footer_writer _ _ _ _ hsize, htruncated, hfull, if_pos ⟨rfl, Nat.le_refl size⟩]
    rfl

/-- **Without an empty window at a page's end, held paging loses and repeats nothing.**  Induction on the
    sizes; a page that leaves rows hands exactly these to the next. -/
theorem paged_of_not_meetsGap (h : s.Yields rows)
    (hsizes : ∀ size ∈ sizes, 0 < size ∧ p.limit size = size) (hgap : ¬MeetsGap p sizes columns s rows) :
    Paged (streamRow p.display (streamColumns p.display columns p.obligations) p.obligations) sizes rows
      (heldPages p sizes columns s) := by
  induction sizes generalizing columns s rows with
  | nil => exact ⟨rfl, fun k size page hsize => absurd hsize nofun⟩
  | cons size sizes ih =>
    obtain ⟨hpos, hlimit⟩ := hsizes size List.mem_cons_self
    by_cases hmore : size < rows.length
    · have hno : ¬(p.writer columns size 0 true).EmptyAfter s 0 := fun hempty =>
        hgap ⟨hmore, .inl hempty⟩
      obtain ⟨rest, hyields, hheld, hpages⟩ := heldPages_more sizes h hpos hlimit hmore hno
      have hnogap : ¬MeetsGap p sizes (streamColumns p.display columns p.obligations) rest
          (rows.drop size) := fun hmeets => hgap ⟨hmore, .inr ⟨rest, hheld, hmeets⟩⟩
      have hnext := ih hyields (fun n hn => hsizes n (List.mem_cons_of_mem _ hn)) hnogap
      rw [streamColumns_idem] at hnext
      rw [hpages]
      refine ⟨?_, ?_⟩
      · rw [List.flatMap_cons, hnext.rows_once, List.sum_cons, List.take_add, List.map_append]
      · intro k n page hn hpage
        cases k with
        | zero =>
          obtain rfl : size = n := Option.some.inj hn
          obtain rfl := Option.some.inj hpage
          have hsum : ((size :: sizes).take (0 + 1)).sum = size := by simp
          rw [hsum]
          refine ⟨iff_of_true rfl ⟨?_, hmore⟩, iff_of_false ?_ (by omega)⟩
          · rw [List.length_map, List.length_take]
            omega
          · rintro ⟨tag, htag⟩
            exact absurd htag nofun
        | succ k =>
          have hsum : ((size :: sizes).take (k + 1 + 1)).sum = size + (sizes.take (k + 1)).sum := by
            rw [List.take_succ_cons, List.sum_cons]
          obtain ⟨hsuspended, hcomplete⟩ := hnext.ending k n page hn hpage
          rw [List.length_drop] at hsuspended hcomplete
          rw [hsum, hsuspended, hcomplete]
          refine ⟨and_congr_right fun _ => ?_, ?_⟩ <;> omega
    · have hle : rows.length ≤ size := Nat.le_of_not_lt hmore
      rw [heldPages_last h hpos hlimit (.inl hle)]
      refine ⟨?_, ?_⟩
      · rw [List.flatMap_cons, List.flatMap_nil, List.append_nil, List.take_of_length_le hle,
          List.take_of_length_le (by rw [List.sum_cons]; omega)]
      · intro k n page hn hpage
        cases k with
        | zero =>
          obtain rfl := Option.some.inj hpage
          have hsum : ((size :: sizes).take (0 + 1)).sum = size := by simp
          rw [hsum]
          refine ⟨iff_of_false nofun (fun hboth => hmore hboth.2), iff_of_true ⟨_, rfl⟩ hle⟩
        | succ k => exact absurd hpage nofun

theorem complete_of_meetsGap (h : s.Yields rows)
    (hsizes : ∀ size ∈ sizes, 0 < size ∧ p.limit size = size) (hgap : MeetsGap p sizes columns s rows) :
    ∃ k size page, sizes[k]? = some size ∧ (heldPages p sizes columns s)[k]? = some page ∧
      page.Complete ∧ (sizes.take (k + 1)).sum < rows.length := by
  induction sizes generalizing columns s rows with
  | nil => exact hgap.elim
  | cons size sizes ih =>
    obtain ⟨hpos, hlimit⟩ := hsizes size List.mem_cons_self
    obtain ⟨hmore, hgap⟩ := hgap
    by_cases hempty : (p.writer columns size 0 true).EmptyAfter s 0
    · rw [heldPages_last h hpos hlimit (.inr hempty)]
      refine ⟨0, size, _, rfl, rfl, ⟨_, rfl⟩, ?_⟩
      have hsum : ((size :: sizes).take (0 + 1)).sum = size := by simp
      rw [hsum]
      exact hmore
    · obtain ⟨rest, hheld, hmeets⟩ := hgap.resolve_left hempty
      obtain ⟨rest', hyields, hheld', hpages⟩ := heldPages_more sizes h hpos hlimit hmore hempty
      obtain rfl : rest' = rest := Option.some.inj (hheld'.symm.trans hheld)
      obtain ⟨k, n, page, hn, hpage, hcomplete, hsum⟩ :=
        ih hyields (fun n hn => hsizes n (List.mem_cons_of_mem _ hn)) hmeets
      rw [hpages]
      refine ⟨k + 1, n, page, hn, hpage, hcomplete, ?_⟩
      rw [List.take_succ_cons, List.sum_cons]
      rw [List.length_drop] at hsum
      omega

end Held

/-! ## The streams of the backends -/

variable {p : Paging} {s : RowStream}

theorem sendPage_full {columns : List Column} {size skip : Nat} {hold : Bool} {rest : RowStream} {e : PolledEnd}
    (h : s.Full) (hpage : ((p.writer columns size skip hold).sendPage s).2 = some e)
    (hheld : e.held = some rest) : rest.Full := by
  have hwindow : 0 < (p.writer columns size skip hold).window :=
    Nat.lt_of_lt_of_le Nat.zero_lt_one (Nat.le_max_right p.windowRows 1)
  unfold Writer.sendPage at hpage
  split at hpage
  · rename_i windows e' hstream
    obtain rfl : e' = e := Option.some.inj hpage
    have hloop : ((p.writer columns size skip hold).stream s).2 = .ok e' := by rw [hstream]
    exact held_full hwindow h hloop hheld
  · exact absurd hpage nofun

theorem not_meetsGap_of_full {columns : List Column} {sizes : List Nat} {rows : List Row} (h : s.Full) :
    ¬MeetsGap p sizes columns s rows := by
  induction sizes generalizing columns s rows with
  | nil => exact id
  | cons size sizes ih =>
    rintro ⟨_, hempty | ⟨rest, hheld, hmeets⟩⟩
    · exact not_emptyAfter_of_full (Nat.lt_of_lt_of_le Nat.zero_lt_one (Nat.le_max_right p.windowRows 1))
        h 0 hempty
    · obtain ⟨e, hpage, hrest⟩ := Option.bind_eq_some_iff.mp hheld
      exact ih (sendPage_full h hpage hrest) hmeets

/-! ## Results -/

/-- **Held paging loses and repeats nothing exactly if no page is filled just before an empty window.** -/
theorem paged_iff (p : Paging) (columns : List Column) (sizes : List Nat) (s : RowStream)
    (rows : List Row) (hrows : s.Yields rows) (hsizes : ∀ size ∈ sizes, 0 < size ∧ p.limit size = size) :
    Paged (streamRow p.display (streamColumns p.display columns p.obligations) p.obligations) sizes rows
        (heldPages p sizes columns s) ↔ ¬MeetsGap p sizes columns s rows := by
  constructor
  · intro hpaged hgap
    obtain ⟨k, size, page, hsize, hpage, hcomplete, hsum⟩ := complete_of_meetsGap hrows hsizes hgap
    have hle := (hpaged.ending k size page hsize hpage).2.mp hcomplete
    omega
  · exact paged_of_not_meetsGap hrows hsizes

theorem three_rows_paged :
    let p : Paging := ⟨⟨fun _ => "", fun _ => ""⟩, ⟨fun _ => .ok [], fun _ _ => .ok .portalSuspended⟩,
      SessionState.default, 2, Obligations.none, none⟩
    let s : RowStream := .ofWindows [[[.integer 1]], [[.integer 2], [.integer 3]]]
    Paged (streamRow p.display (streamColumns p.display [⟨"id", "int4"⟩] p.obligations) p.obligations)
      [2, 2] [[.integer 1], [.integer 2], [.integer 3]] (heldPages p [2, 2] [⟨"id", "int4"⟩] s) := by
  intro p s
  have hsizes : ∀ size ∈ [2, 2], 0 < size ∧ p.limit size = size := by
    intro size hmem
    have htwo : size = 2 := by simpa using hmem
    subst htwo
    exact ⟨by decide, rfl⟩
  have hfull : s.Full := Source.full_ofWindows (by decide)
  exact (paged_iff p _ [2, 2] s _ (Source.yields_ofWindows _) hsizes).mpr (not_meetsGap_of_full hfull)

/-- An empty window after a full page: the second row is lost, and the client is told that the command is
    complete. -/
theorem row_after_empty_window_lost :
    let p : Paging := ⟨⟨fun _ => "", fun _ => ""⟩, ⟨fun _ => .ok [], fun _ _ => .ok .portalSuspended⟩,
      SessionState.default, 1, Obligations.none, none⟩
    let s : RowStream := .ofWindows [[[.integer 1]], [], [[.integer 2]]]
    s.Yields [[.integer 1], [.integer 2]] ∧
      heldPages p [1, 1] [⟨"id", "int4"⟩] s =
        [⟨[⟨"id", "int4"⟩], [[.integer 1]], [.commandComplete "SELECT 1"]⟩] ∧
      ¬Paged (streamRow p.display (streamColumns p.display [⟨"id", "int4"⟩] p.obligations) p.obligations)
        [1, 1] [[.integer 1], [.integer 2]] (heldPages p [1, 1] [⟨"id", "int4"⟩] s) := by
  intro p s
  have hpages : heldPages p [1, 1] [⟨"id", "int4"⟩] s =
      [⟨[⟨"id", "int4"⟩], [[.integer 1]], [.commandComplete "SELECT 1"]⟩] := by decide
  refine ⟨Source.yields_ofWindows _, hpages, ?_⟩
  intro hpaged
  rw [hpages] at hpaged
  have hlength := (hpaged.ending 0 1 _ rfl rfl).2.mp ⟨_, rfl⟩
  exact absurd hlength (by decide)

section Skip

variable {p : Paging} {columns : List Column} {rows : List Row}

/-- Both ways from the same point: `skip` rows are sent, and the held stream has the others. -/
theorem skipPages_eq_heldPages (runs : List (Nat × RowStream)) (hruns : ∀ run ∈ runs, 0 < run.1 ∧ run.2.Yields rows) :
    ∀ (skip : Nat) (columns' : List Column) (s : RowStream), s.Yields (rows.drop skip) → s.Full →
      (skip = 0 ∨ p.cap ≠ some 0) →
      streamColumns p.display columns' p.obligations = streamColumns p.display columns p.obligations →
      skipPages p columns runs skip = heldPages p (runs.map Prod.fst) columns' s := by
  induction runs with
  | nil => exact fun _ _ _ _ _ _ _ => rfl
  | cons run runs ih =>
    intro skip columns' s hs hfull hskip hcolumns
    obtain ⟨size, t⟩ := run
    obtain ⟨hsize, ht⟩ := hruns (size, t) List.mem_cons_self
    have hlimit : skip = 0 ∨ 0 < p.limit size := by
      refine hskip.imp_right fun hcap => ?_
      unfold Paging.limit
      cases hmost : p.cap with
      | none => exact hsize
      | some most =>
        have hpos : most ≠ 0 := fun hzero => hcap (by rw [hmost, hzero])
        dsimp only
        omega
    obtain ⟨e, hpage, htotal, hends⟩ := sendPage_spec p columns size false ht hlimit (by rintro ⟨⟩)
    obtain ⟨e', hpage', htotal', hends'⟩ := sendPage_spec p columns' size true hs (.inl rfl) (fun _ => rfl)
    rw [List.drop_zero] at hpage' htotal' hends'
    have hnogap : ¬(p.writer columns' size 0 true).EmptyAfter s 0 :=
      not_emptyAfter_of_full (Nat.lt_of_lt_of_le Nat.zero_lt_one (Nat.le_max_right p.windowRows 1)) hfull 0
    have htruncated : e.truncated = !((rows.drop skip).drop (p.limit size)).isEmpty := hends.2
    have htotals : e'.totalRows = e.totalRows := htotal'.trans htotal.symm
    rw [List.map_cons, skipPages, heldPages, hpage, hpage']
    dsimp only [Option.bind_some]
    rw [footer_writer _ _ _ _ hsize, footer_writer _ _ _ _ hsize, htotals, hcolumns]
    by_cases hrest : (rows.drop skip).drop (p.limit size) = []
    · -- the last page
      obtain ⟨htruncated', hheld'⟩ := hends'.1 (.inl hrest)
      rw [hrest] at htruncated
      rw [hheld', htruncated', if_neg (by rw [htruncated]; rintro ⟨⟩), htruncated]
      rfl
    · obtain ⟨htruncated', rest, hheld', hyields⟩ := hends'.2 hrest hnogap
      rw [List.isEmpty_eq_false_iff.mpr hrest] at htruncated
      have hfull' : rest.Full := sendPage_full hfull (by rw [hpage']) hheld'
      have hsent : e.totalRows = p.limit size := by
        have hlong : ¬(rows.drop skip).length ≤ p.limit size := fun hle =>
          hrest (List.drop_eq_nil_of_le hle)
        rw [htotal, List.length_take]
        omega
      have hnext : skip + e.totalRows = 0 ∨ p.cap ≠ some 0 := by
        by_cases hcap : p.cap = some 0
        · left
          have hzero := hskip.resolve_right (fun hne => hne hcap)
          have hnone : p.limit size = 0 := by
            unfold Paging.limit
            rw [hcap]
            exact Nat.zero_min size
          omega
        · exact .inr hcap
      rw [hheld', htruncated', if_pos (by rw [htruncated]; rfl), htruncated]
      refine congrArg _ (ih (fun run hrun => hruns run (List.mem_cons_of_mem _ hrun)) _ _ rest ?_ hfull'
        hnext ?_)
      · rw [hsent, ← List.drop_drop]
        exact hyields
      · exact (streamColumns_idem _ _ _).trans hcolumns

end Skip

end DataNexus.Stream
