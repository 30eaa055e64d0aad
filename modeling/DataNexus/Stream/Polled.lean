/-
  The streaming writer on a row stream that is polled (`gateway/core/src/transport.rs`).

  A `RowStream` can be anything that answers `poll_window(max_rows)`; the answers of a `PrefixedRowStream` do depend on
  `max_rows`.  The encoders are left out: what the loop hands to them is recorded, window by window.

  1. `pollLoop` is the loop, `atCapOf` its branch at the row cap.

  2. `pollLoop_spec` says what a page of a stream with the rows `R` sends, and how it ends.

  3. `writeLoop_eq_pollLoop` — on the windows of a channel it is the loop of `Stream/Rows.lean`.
-/
import DataNexus.Lib.Poll
import DataNexus.Stream.Obligations

namespace DataNexus.Stream

open DataNexus.Poll

abbrev RowStream := Source GatewayError Row

/-! ## A chunk before a stream -/

/-- A `PrefixedRowStream` whose chunk has been taken: only `max_rows.max(1)` is left of it. -/
def passing : RowStream → RowStream
  | .ended => .ended
  | .live answer next => .live (fun n => answer (max n 1)) fun n => passing (next (max n 1))

def prefixedRowStream (chunk : List Row) (inner : RowStream) : RowStream :=
  if h : chunk = [] then passing inner
  else .live
    (fun maxRows =>
      let maxRows := max maxRows 1
      if maxRows < chunk.length then .ok (some (chunk.take maxRows))
      else if chunk.length = maxRows then .ok (some chunk)
      else match (inner.poll (maxRows - chunk.length)).1 with
        | .error e => .error e
        | .ok none => .ok (some chunk)
        | .ok (some more) => .ok (some (chunk ++ more)))
    (fun maxRows =>
      let maxRows := max maxRows 1
      if maxRows < chunk.length then prefixedRowStream (chunk.drop maxRows) inner
      else if chunk.length = maxRows then passing inner
      else passing (inner.poll (maxRows - chunk.length)).2)
termination_by chunk.length
decreasing_by
  have hpos : 0 < chunk.length := List.length_pos_of_ne_nil h
  rw [List.length_drop]
  omega

theorem yields_passing {s : RowStream} {rows : List Row} (h : s.Yields rows) : (passing s).Yields rows := by
  induction s generalizing rows with
  | ended => exact h
  | live answer next ih =>
    intro n hn
    have hmax : max n 1 = n := by omega
    dsimp only
    rw [hmax]
    rcases h.poll_cases hn with ⟨hpoll, rfl, hnext⟩ | ⟨chunk, rest, hpoll, rfl, hrest⟩
    · have hanswer : answer n = .ok none := hpoll
      rw [hanswer]
      exact ⟨rfl, ih n hnext⟩
    · have hanswer : answer n = .ok (some chunk) := hpoll
      rw [hanswer]
      exact ⟨rest, rfl, ih n hrest⟩

theorem yields_prefixed (chunk : List Row) {inner : RowStream} {rows : List Row}
    (h : inner.Yields rows) : (prefixedRowStream chunk inner).Yields (chunk ++ rows) := by
  induction hlen : chunk.length using Nat.strongRecOn generalizing chunk with
  | ind len ih =>
    rw [prefixedRowStream]
    by_cases hempty : chunk = []
    · rw [dif_pos hempty, hempty]
      exact yields_passing h
    · rw [dif_neg hempty]
      intro n hn
      have hpos : 0 < chunk.length := List.length_pos_of_ne_nil hempty
      have hmax : max n 1 = n := by omega
      dsimp only
      rw [hmax]
      by_cases hlong : n < chunk.length
      · rw [if_pos hlong, if_pos hlong]
        refine ⟨chunk.drop n ++ rows, by rw [← List.append_assoc, List.take_append_drop], ?_⟩
        exact ih (chunk.drop n).length (by rw [List.length_drop]; omega) (chunk.drop n) rfl
      · rw [if_neg hlong, if_neg hlong]
        by_cases hexact : chunk.length = n
        · rw [if_pos hexact, if_pos hexact]
          exact ⟨rows, rfl, yields_passing h⟩
        · -- the window is filled up from the stream behind
          rw [if_neg hexact, if_neg hexact]
          have hneed : 0 < n - chunk.length := by omega
          rcases h.poll_cases hneed with ⟨hpoll, rfl, hnext⟩ | ⟨more, rest, hpoll, rfl, hrest⟩
          · rw [hpoll]
            exact ⟨[], rfl, yields_passing hnext⟩
          · rw [hpoll]
            exact ⟨rest, (List.append_assoc _ _ _).symm, yields_passing hrest⟩

/-! ## The loop -/

/-- How the row loop ended, with the stream that is kept for the next page. -/
structure PolledEnd where
  totalRows : Nat
  truncated : Bool
  held : Option RowStream

/-- The row cap is reached: keep the stream if there is more, or drain it. -/
def Writer.atCapOf (w : Writer) (s : RowStream) (total : Nat) (truncated : Bool)
    (leftover : Option (List Row)) : Except GatewayError PolledEnd :=
  if w.holdRemainder then
    match leftover with
    | some rows => .ok ⟨total, true, some (prefixedRowStream rows s)⟩
    | none =>
      match s.poll w.window with
      | (.error e, _) => .error e
      | (.ok none, _) => .ok ⟨total, truncated, none⟩
      | (.ok (some chunk), rest) =>
        if chunk.isEmpty then .ok ⟨total, truncated, none⟩
        else .ok ⟨total, true, some (prefixedRowStream chunk rest)⟩
  else
    match s.drain w.window with
    | .error e => .error e
    | .ok sawMore => .ok ⟨total, sawMore || truncated, none⟩

def Writer.want (w : Writer) (total skip : Nat) : Nat :=
  if 0 < skip then max (min (max w.window skip) 4096) 1
  else match w.maxTotal with
    | some most => max (min (most - total) w.window) 1
    | none => w.window

/-- How many rows of a window still fit under the cap. -/
def Writer.remain (w : Writer) (total : Nat) (chunk : List Row) : Nat :=
  match w.maxTotal with
  | some most => most - total
  | none => chunk.length

/-- The loop of `write_streaming_query_with_obligations_sample`: the windows it hands to the encoder, and
    how it ends. -/
def Writer.pollLoop (w : Writer) : RowStream → (total skip : Nat) → (truncated : Bool) →
    (leftover : Option (List Row)) → List (List Row) × Except GatewayError PolledEnd
  | s, total, skip, truncated, leftover =>
    if w.maxTotal.any (· ≤ total) then ([], w.atCapOf s total truncated leftover)
    else match s with
      | .ended => ([], .ok ⟨total, truncated, none⟩)
      | .live answer next =>
        match answer (w.want total skip) with
        | .error e => ([], .error e)
        | .ok none => ([], .ok ⟨total, truncated, none⟩)
        | .ok (some chunk) =>
          let skipN := min skip chunk.length
          let chunk := chunk.drop skipN
          if 0 < skip ∧ chunk.isEmpty then
            w.pollLoop (next (w.want total skip)) total (skip - skipN) truncated leftover
          else
            let excess := w.remain total chunk < chunk.length
            let rows := chunk.take (w.remain total chunk)
            let leftover := if excess ∧ w.holdRemainder then some (chunk.drop (w.remain total chunk)) else leftover
            let rest := w.pollLoop (next (w.want total skip)) (total + rows.length) (skip - skipN)
              (truncated || excess) leftover
            (rows.map w.view :: rest.1, rest.2)

/-- One page: the windows that are encoded, and the end. -/
def Writer.stream (w : Writer) (s : RowStream) : List (List Row) × Except GatewayError PolledEnd :=
  w.pollLoop s 0 w.skipRows false none

/-! ## One page of a sequence of rows -/

def Writer.pageOf (w : Writer) (rows : List Row) (total skip : Nat) : List Row :=
  match w.maxTotal with
  | some most => (rows.drop skip).take (most - total)
  | none => rows.drop skip

def Writer.restOf (w : Writer) (rows : List Row) (total skip : Nat) : List Row :=
  match w.maxTotal with
  | some most => (rows.drop skip).drop (most - total)
  | none => []

/-- The page is filled to its limit just where the stream answers the next poll with an empty window. -/
def Writer.EmptyAfter (w : Writer) : RowStream → (total : Nat) → Prop
  | s, total =>
    if w.maxTotal.any (· ≤ total) then (s.poll w.window).1 = .ok (some [])
    else match s with
      | .ended => False
      | .live answer next =>
        match answer (w.want total 0) with
        | .ok (some chunk) => chunk.length ≤ w.remain total chunk ∧
            w.EmptyAfter (next (w.want total 0)) (total + chunk.length)
        | _ => False

/-- How a page ends that leaves the rows `rest`.  With hold, an empty window at the limit counts as the
    end. -/
def Writer.Ends (w : Writer) (rest : List Row) (gap : Prop) (e : PolledEnd) : Prop :=
  if w.holdRemainder then
    (rest = [] ∨ gap → e.truncated = false ∧ e.held = none) ∧
      (rest ≠ [] → ¬gap → e.truncated = true ∧ ∃ s, e.held = some s ∧ s.Yields rest)
  else e.held = none ∧ e.truncated = !rest.isEmpty

section Page

variable {w : Writer} {chunk rows : List Row} {total skip : Nat}

theorem pageOf_skip (w : Writer) (rows : List Row) (total : Nat) (h : chunk.length ≤ skip) :
    w.pageOf (chunk ++ rows) total skip = w.pageOf rows total (skip - chunk.length) ∧
      w.restOf (chunk ++ rows) total skip = w.restOf rows total (skip - chunk.length) := by
  have hdrop : (chunk ++ rows).drop skip = rows.drop (skip - chunk.length) := by
    rw [List.drop_append, List.drop_eq_nil_of_le h, List.nil_append]
  unfold Writer.pageOf Writer.restOf
  rw [hdrop]
  exact ⟨rfl, rfl⟩

theorem pageOf_window (rows : List Row) (hskip : skip ≤ chunk.length)
    (hfits : (chunk.drop skip).length ≤ w.remain total (chunk.drop skip)) : w.pageOf (chunk ++ rows) total skip =
        chunk.drop skip ++ w.pageOf rows (total + (chunk.drop skip).length) 0 ∧
      w.restOf (chunk ++ rows) total skip = w.restOf rows (total + (chunk.drop skip).length) 0 := by
  unfold Writer.remain at hfits
  unfold Writer.pageOf Writer.restOf
  rw [List.drop_append_of_le_length hskip]
  cases hmax : w.maxTotal with
  | none => exact ⟨rfl, rfl⟩
  | some most =>
    rw [hmax] at hfits
    dsimp only at hfits ⊢
    have hleft : most - total - (chunk.drop skip).length = most - (total + (chunk.drop skip).length) := by
      omega
    rw [List.take_append, List.take_of_length_le hfits, List.drop_append, List.drop_eq_nil_of_le hfits, hleft]
    exact ⟨rfl, rfl⟩

theorem pageOf_excess (rows : List Row) (hskip : skip ≤ chunk.length)
    (hexcess : w.remain total (chunk.drop skip) < (chunk.drop skip).length) :
    w.pageOf (chunk ++ rows) total skip = (chunk.drop skip).take (w.remain total (chunk.drop skip)) ∧
      w.restOf (chunk ++ rows) total skip = (chunk.drop skip).drop (w.remain total (chunk.drop skip)) ++ rows := by
  unfold Writer.remain at hexcess ⊢
  unfold Writer.pageOf Writer.restOf
  rw [List.drop_append_of_le_length hskip]
  cases hmax : w.maxTotal with
  | none =>
    rw [hmax] at hexcess
    exact absurd hexcess (Nat.lt_irrefl _)
  | some most =>
    rw [hmax] at hexcess
    dsimp only at hexcess ⊢
    rw [List.take_append_of_le_length (Nat.le_of_lt hexcess), List.drop_append_of_le_length (Nat.le_of_lt hexcess)]
    exact ⟨rfl, rfl⟩

theorem pageOf_atCap (rows : List Row) (skip : Nat) (hcap : w.maxTotal.any (· ≤ total) = true) :
    w.pageOf rows total skip = [] ∧ w.restOf rows total skip = rows.drop skip := by
  unfold Writer.pageOf Writer.restOf
  cases hmax : w.maxTotal with
  | none =>
    rw [hmax] at hcap
    exact absurd hcap nofun
  | some most =>
    rw [hmax] at hcap
    have hle : most ≤ total := of_decide_eq_true hcap
    dsimp only
    rw [Nat.sub_eq_zero_of_le hle]
    exact ⟨rfl, rfl⟩

theorem pageOf_nil (w : Writer) (total skip : Nat) : w.pageOf [] total skip = [] ∧ w.restOf [] total skip = [] := by
  unfold Writer.pageOf Writer.restOf
  cases w.maxTotal <;> simp

theorem ends_congr {rest : List Row} {gap gap' : Prop} {e : PolledEnd}
    (h : w.Ends rest gap e) (hgap : w.holdRemainder = true → (gap ↔ gap')) : w.Ends rest gap' e := by
  unfold Writer.Ends at h ⊢
  split at h
  · rename_i hhold
    rw [if_pos hhold, ← hgap hhold]
    exact h
  · rename_i hhold
    rw [if_neg hhold]
    exact h

theorem ends_exhausted (gap : Prop) : w.Ends [] gap ⟨total, false, none⟩ := by
  unfold Writer.Ends
  split
  · exact ⟨fun _ => ⟨rfl, rfl⟩, fun h => absurd rfl h⟩
  · exact ⟨rfl, rfl⟩

end Page

section Loop

variable {w : Writer} {s : RowStream} {rows : List Row}

theorem want_pos (hwindow : 0 < w.window) (total skip : Nat) : 0 < w.want total skip := by
  unfold Writer.want
  split
  · omega
  · split <;> omega

theorem pollLoop_atCap {total skip : Nat} {truncated : Bool} {leftover : Option (List Row)}
    (hcap : w.maxTotal.any (· ≤ total) = true) :
    w.pollLoop s total skip truncated leftover = ([], w.atCapOf s total truncated leftover) := by
  cases s with
  | ended => rw [Writer.pollLoop, if_pos hcap]
  | live answer next => rw [Writer.pollLoop, if_pos hcap]

theorem atCapOf_spec (hwindow : 0 < w.window) (h : s.Yields rows) (total : Nat) :
    ∃ e, w.atCapOf s total false none = .ok e ∧ e.totalRows = total ∧
      w.Ends rows ((s.poll w.window).1 = .ok (some [])) e := by
  unfold Writer.atCapOf Writer.Ends
  by_cases hhold : w.holdRemainder = true
  · simp only [if_pos hhold]
    rcases h.poll_cases hwindow with ⟨hpoll, rfl, hnext⟩ | ⟨chunk, rest, hpoll, rfl, hrest⟩
    · have hboth : s.poll w.window = (.ok none, (s.poll w.window).2) := Prod.ext hpoll rfl
      rw [hboth]
      exact ⟨_, rfl, rfl, fun _ => ⟨rfl, rfl⟩, fun hne => absurd rfl hne⟩
    · have hboth : s.poll w.window = (.ok (some chunk), (s.poll w.window).2) := Prod.ext hpoll rfl
      rw [hboth]
      dsimp only
      by_cases hempty : chunk = []
      · subst hempty
        refine ⟨_, if_pos rfl, rfl, fun _ => ⟨rfl, rfl⟩, fun _ hgap => absurd rfl hgap⟩
      · refine ⟨_, if_neg (by simpa using hempty), rfl, ?_, ?_⟩
        · rintro (hnil | hgap)
          · exact absurd (List.append_eq_nil_iff.mp hnil).1 hempty
          · exact absurd (Option.some.inj (Except.ok.inj hgap)) hempty
        · exact fun _ _ => ⟨rfl, _, rfl, yields_prefixed chunk hrest⟩
  · simp only [if_neg hhold]
    rw [h.drain_eq hwindow]
    exact ⟨_, rfl, rfl, rfl, Bool.or_false _⟩

theorem atCapOf_cut (hwindow : 0 < w.window) (h : s.Yields rows) (total : Nat) {cut : List Row}
    (hcut : cut ≠ []) (gap : Prop) (hgap : ¬gap) :
    ∃ e, w.atCapOf s total true (if w.holdRemainder = true then some cut else none) = .ok e ∧
      e.totalRows = total ∧ w.Ends (cut ++ rows) gap e := by
  have hne : cut ++ rows ≠ [] := by
    intro hnil
    exact hcut (List.append_eq_nil_iff.mp hnil).1
  unfold Writer.atCapOf Writer.Ends
  by_cases hhold : w.holdRemainder = true
  · simp only [if_pos hhold]
    refine ⟨_, rfl, rfl, ?_, fun _ _ => ⟨rfl, _, rfl, yields_prefixed cut h⟩⟩
    rintro (hnil | hgap')
    · exact absurd hnil hne
    · exact absurd hgap' hgap
  · simp only [if_neg hhold]
    rw [h.drain_eq hwindow]
    refine ⟨_, rfl, rfl, rfl, ?_⟩
    rw [Bool.or_true, List.isEmpty_eq_false_iff.mpr hne]
    rfl

/-- **What a page sends, and how it ends.**  Induction on the stream; rows are only skipped before the
    first one is sent, so there is nothing to skip at the cap. -/
theorem pollLoop_spec (hwindow : 0 < w.window) (h : s.Yields rows) (total skip : Nat)
    (hskip : skip = 0 ∨ w.maxTotal.any (· ≤ total) = false) (hhold : w.holdRemainder = true → skip = 0) :
    ∃ windows e, w.pollLoop s total skip false none = (windows, .ok e) ∧
      windows.flatten = (w.pageOf rows total skip).map w.view ∧
      e.totalRows = total + (w.pageOf rows total skip).length ∧
      w.Ends (w.restOf rows total skip) (w.EmptyAfter s total) e := by
  induction s generalizing rows total skip with
  | ended =>
    obtain rfl : rows = [] := h
    obtain ⟨hpage, hrest⟩ := pageOf_nil w total skip
    rw [Writer.pollLoop, hpage, hrest]
    by_cases hcap : w.maxTotal.any (· ≤ total) = true
    · obtain ⟨e, he, htotal, hends⟩ := atCapOf_spec (w := w) hwindow
        (show (Source.ended : RowStream).Yields [] from rfl) total
      rw [if_pos hcap, he]
      refine ⟨[], e, rfl, rfl, htotal, ends_congr hends fun _ => ?_⟩
      rw [Writer.EmptyAfter, if_pos hcap]
    · rw [if_neg hcap]
      exact ⟨[], _, rfl, rfl, rfl, ends_exhausted _⟩
  | live answer next ih =>
    rw [Writer.pollLoop]
    by_cases hcap : w.maxTotal.any (· ≤ total) = true
    · obtain ⟨e, he, htotal, hends⟩ := atCapOf_spec hwindow h total
      obtain ⟨hpage, hrest⟩ := pageOf_atCap rows skip hcap
      have hzero : skip = 0 := by
        rcases hskip with hzero | hopen
        · exact hzero
        · cases hopen.symm.trans hcap
      rw [if_pos hcap, he, hpage, hrest, hzero]
      refine ⟨[], e, rfl, rfl, htotal, ends_congr hends fun _ => ?_⟩
      rw [Writer.EmptyAfter, if_pos hcap]
    · have hwant : 0 < w.want total skip := want_pos hwindow total skip
      rw [if_neg hcap]
      rcases h.poll_cases hwant with ⟨hpoll, rfl, _⟩ | ⟨chunk, rest, hpoll, rfl, hrest⟩
      · have hanswer : answer (w.want total skip) = .ok none := hpoll
        obtain ⟨hpage, hrest⟩ := pageOf_nil w total skip
        rw [hanswer, hpage, hrest]
        exact ⟨[], _, rfl, rfl, rfl, ends_exhausted _⟩
      · have hanswer : answer (w.want total skip) = .ok (some chunk) := hpoll
        have hnext : (next (w.want total skip)).Yields rest := hrest
        rw [hanswer]
        dsimp only
        by_cases hempty : 0 < skip ∧ (chunk.drop (min skip chunk.length)).isEmpty = true
        · -- only rows of earlier pages
          have hle : chunk.length ≤ skip := by
            have hnil := List.drop_eq_nil_iff.mp (List.isEmpty_iff.mp hempty.2)
            omega
          have hopen : w.maxTotal.any (· ≤ total) = false := by simpa using hcap
          obtain ⟨hpage, hrestOf⟩ := pageOf_skip w rest total hle
          have hnohold : ¬ w.holdRemainder = true := by
            intro hh
            have hzero := hhold hh
            omega
          rw [if_pos hempty, Nat.min_eq_right hle, hpage, hrestOf]
          obtain ⟨windows, e, hloop, hflat, htotal, hends⟩ :=
            ih _ hnext total (skip - chunk.length) (.inr hopen) (fun hh => absurd hh hnohold)
          exact ⟨windows, e, hloop, hflat, htotal, ends_congr hends fun hh => absurd hh hnohold⟩
        · have hle : skip ≤ chunk.length := by
            by_contra hlt
            refine hempty ⟨by omega, ?_⟩
            rw [Nat.min_eq_right (by omega), List.drop_length]
            rfl
          rw [if_neg hempty, Nat.min_eq_left hle, Nat.sub_self]
          have hgap : w.holdRemainder = true → (w.EmptyAfter (.live answer next) total ↔
              chunk.length ≤ w.remain total chunk ∧
                w.EmptyAfter (next (w.want total skip)) (total + chunk.length)) := by
            intro hh
            have hzero := hhold hh
            subst hzero
            rw [Writer.EmptyAfter, if_neg hcap, hanswer]
          by_cases hexcess : w.remain total (chunk.drop skip) < (chunk.drop skip).length
          · -- the window is cut at the cap
            obtain ⟨hpage, hrestOf⟩ := pageOf_excess rest hle hexcess
            have hlen : ((chunk.drop skip).take (w.remain total (chunk.drop skip))).length =
                w.remain total (chunk.drop skip) := by
              rw [List.length_take]
              omega
            have hfull : w.maxTotal.any (· ≤ total + w.remain total (chunk.drop skip)) = true := by
              unfold Writer.remain at hexcess ⊢
              cases hmax : w.maxTotal with
              | none =>
                rw [hmax] at hexcess
                exact absurd hexcess (Nat.lt_irrefl _)
              | some most =>
                refine decide_eq_true ?_
                dsimp only
                omega
            have hcut : (chunk.drop skip).drop (w.remain total (chunk.drop skip)) ≠ [] := by
              intro hnil
              have hshort := List.drop_eq_nil_iff.mp hnil
              omega
            obtain ⟨e, he, htotal, hends⟩ := atCapOf_cut (w := w) hwindow hnext
              (total + w.remain total (chunk.drop skip)) hcut False id
            have hleftover : (if w.remain total (chunk.drop skip) < (chunk.drop skip).length ∧
                w.holdRemainder = true
                then some ((chunk.drop skip).drop (w.remain total (chunk.drop skip))) else none) =
                if w.holdRemainder = true
                then some ((chunk.drop skip).drop (w.remain total (chunk.drop skip))) else none := by
              simp only [hexcess, true_and]
            rw [hleftover, hlen, pollLoop_atCap hfull, decide_eq_true hexcess, Bool.false_or, he, hpage, hrestOf]
            refine ⟨_, e, rfl, ?_, ?_, ends_congr hends fun hh => ?_⟩
            · rw [List.flatten_cons, List.flatten_nil, List.append_nil]
            · rw [htotal, hlen]
            · rw [hgap hh]
              refine iff_of_false id fun hfits => ?_
              have hzero := hhold hh
              subst hzero
              rw [List.drop_zero] at hexcess
              omega
          · have hfits : (chunk.drop skip).length ≤ w.remain total (chunk.drop skip) := by omega
            obtain ⟨hpage, hrestOf⟩ := pageOf_window rest hle hfits
            obtain ⟨windows, e, hloop, hflat, htotal, hends⟩ :=
              ih _ hnext (total + (chunk.drop skip).length) 0 (.inl rfl) (fun _ => rfl)
            rw [if_neg (fun hboth => hexcess hboth.1), List.take_of_length_le hfits,
              decide_eq_false hexcess, Bool.or_false, hloop, hpage, hrestOf]
            refine ⟨_, e, rfl, ?_, ?_, ends_congr hends fun hh => ?_⟩
            · rw [List.flatten_cons, hflat, List.map_append]
            · rw [htotal, List.length_append]
              omega
            · rw [hgap hh]
              have hzero := hhold hh
              subst hzero
              rw [List.drop_zero] at hfits ⊢
              rw [and_iff_right hfits]

end Loop

/-! ## The windows of a channel -/

/-- The frontend's encoder on the windows of a page, one after the other. -/
def Writer.encodeWindows (w : Writer) : List (List Row) → List ClientMessage →
    Except (GatewayError × List ClientMessage) (List ClientMessage)
  | [], out => .ok out
  | window :: rest, out =>
    match { w with view := id }.encodeRows window with
    | .error e => .error (e, out)
    | .ok messages => w.encodeWindows rest (out ++ messages)

/-- A loop over the windows of a channel, as the end of a polled stream. -/
def LoopEnd.polled (e : LoopEnd) : PolledEnd :=
  ⟨e.totalRows, e.truncated, e.held.map fun held => prefixedRowStream held.1 (.ofWindows held.2)⟩

section Channel

variable (w : Writer)

theorem encodeRows_view (rows : List Row) :
    w.encodeRows rows = { w with view := id }.encodeRows (rows.map w.view) := by
  induction rows with
  | nil => rfl
  | cons row rows ih =>
    rw [List.map_cons, Writer.encodeRows, Writer.encodeRows, ih]
    rfl

theorem drain_ofWindows (window : Nat) (chunks : List (List Row)) :
    (Source.ofWindows chunks : RowStream).drain window = .ok (chunks.any fun c => !c.isEmpty) := by
  induction chunks with
  | nil => rfl
  | cons chunk rest ih =>
    rw [Source.ofWindows, Source.drain, ih]
    rfl

theorem atCap_polled (chunks : List (List Row)) (total : Nat) (truncated : Bool) (leftover : Option (List Row)) :
    w.atCapOf (.ofWindows chunks) total truncated leftover =
      .ok (w.atCap chunks total truncated leftover).polled := by
  unfold Writer.atCapOf Writer.atCap
  by_cases hhold : w.holdRemainder = true
  · rw [if_pos hhold, if_pos hhold]
    cases leftover with
    | some rows => rfl
    | none =>
      cases chunks with
      | nil => rfl
      | cons chunk rest =>
        show (if chunk.isEmpty = true then _ else _) = Except.ok (LoopEnd.polled (if _ then _ else _))
        split <;> rfl
  · rw [if_neg hhold, if_neg hhold, drain_ofWindows]
    rfl

/-- **On the windows of a channel the polling loop is the loop of `Stream/Rows.lean`**, with the encoder
    after it. -/
theorem writeLoop_eq_pollLoop (chunks : List (List Row)) :
    ∀ (total skip : Nat) (truncated : Bool) (leftover : Option (List Row)) (out : List ClientMessage),
      (w.writeLoop chunks total skip truncated leftover out).map (fun x => (x.1.polled, x.2)) =
        match w.encodeWindows (w.pollLoop (.ofWindows chunks) total skip truncated leftover).1 out with
        | .error failure => .error failure
        | .ok out' =>
          match (w.pollLoop (.ofWindows chunks) total skip truncated leftover).2 with
          | .error e => .error (e, out')
          | .ok e => .ok (e, out') := by
  induction chunks with
  | nil =>
    intro total skip truncated leftover out
    rw [Writer.writeLoop]
    by_cases hcap : w.maxTotal.any (· ≤ total) = true
    · rw [if_pos hcap, pollLoop_atCap hcap, atCap_polled]
      rfl
    · have hpoll : w.pollLoop (.ofWindows []) total skip truncated leftover =
          ([], .ok ⟨total, truncated, none⟩) := by
        rw [Source.ofWindows, Writer.pollLoop, if_neg hcap]
      rw [if_neg hcap, hpoll]
      rfl
  | cons chunk rest ih =>
    intro total skip truncated leftover out
    rw [Writer.writeLoop]
    by_cases hcap : w.maxTotal.any (· ≤ total) = true
    · rw [if_pos hcap, pollLoop_atCap hcap, atCap_polled]
      rfl
    · rw [if_neg hcap, Source.ofWindows, Writer.pollLoop, if_neg hcap]
      dsimp only
      by_cases hempty : 0 < skip ∧ (chunk.drop (min skip chunk.length)).isEmpty = true
      · rw [if_pos hempty, if_pos hempty]
        exact ih total _ truncated leftover out
      · rw [if_neg hempty, if_neg hempty]
        show Except.map _ (match w.encodeRows ((chunk.drop (min skip chunk.length)).take
            (w.remain total (chunk.drop (min skip chunk.length)))) with
          | .error e => Except.error (e, out)
          | .ok messages => w.writeLoop rest _ _ _ _ (out ++ messages)) = _
        rw [encodeRows_view, Writer.encodeWindows]
        cases { w with view := id }.encodeRows (((chunk.drop (min skip chunk.length)).take
            (w.remain total (chunk.drop (min skip chunk.length)))).map w.view) with
        | error e => rfl
        | ok messages => exact ih _ _ _ _ (out ++ messages)

end Channel

/-! ## Streams without empty windows -/

section Full

variable {w : Writer} {s : RowStream}

theorem full_passing (h : s.Full) : (passing s).Full := by
  induction s with
  | ended => trivial
  | live answer next ih =>
    intro n hn
    obtain ⟨hanswer, hnext⟩ := h (max n 1) (by omega)
    exact ⟨hanswer, ih _ hnext⟩

theorem full_prefixed (chunk : List Row) {inner : RowStream} (h : inner.Full) :
    (prefixedRowStream chunk inner).Full := by
  induction hlen : chunk.length using Nat.strongRecOn generalizing chunk with
  | ind len ih =>
    rw [prefixedRowStream]
    by_cases hempty : chunk = []
    · rw [dif_pos hempty]
      exact full_passing h
    · rw [dif_neg hempty]
      intro n hn
      have hpos : 0 < chunk.length := List.length_pos_of_ne_nil hempty
      have hmax : max n 1 = n := by omega
      have hanswer : ∀ more : List Row,
          (Except.ok (some (chunk ++ more)) : Except GatewayError (Option (List Row))) ≠ .ok (some []) := by
        intro more hnil
        exact hempty (List.append_eq_nil_iff.mp (Option.some.inj (Except.ok.inj hnil))).1
      have hchunk : (Except.ok (some chunk) : Except GatewayError (Option (List Row))) ≠ .ok (some []) := by
        intro hnil
        exact hempty (Option.some.inj (Except.ok.inj hnil))
      dsimp only
      rw [hmax]
      by_cases hlong : n < chunk.length
      · rw [if_pos hlong, if_pos hlong]
        refine ⟨?_, ih (chunk.drop n).length (by rw [List.length_drop]; omega) (chunk.drop n) rfl⟩
        intro hnil
        have hlen := congrArg List.length (Option.some.inj (Except.ok.inj hnil))
        rw [List.length_take, List.length_nil] at hlen
        omega
      · rw [if_neg hlong, if_neg hlong]
        by_cases hexact : chunk.length = n
        · rw [if_pos hexact, if_pos hexact]
          exact ⟨hchunk, full_passing h⟩
        · rw [if_neg hexact, if_neg hexact]
          have hneed : 0 < n - chunk.length := by omega
          refine ⟨?_, full_passing (h.poll hneed).2⟩
          cases (inner.poll (n - chunk.length)).1 with
          | error e => exact nofun
          | ok window =>
            cases window with
            | none => exact hchunk
            | some more => exact hanswer more

theorem not_emptyAfter_of_full (hwindow : 0 < w.window) (h : s.Full) (total : Nat) : ¬w.EmptyAfter s total := by
  induction s generalizing total with
  | ended =>
    rw [Writer.EmptyAfter]
    split <;> exact nofun
  | live answer next ih =>
    rw [Writer.EmptyAfter]
    obtain ⟨_, hnext⟩ := h _ (want_pos hwindow total 0)
    split
    · exact (h w.window hwindow).1
    · split
      · exact fun hboth => ih _ hnext _ hboth.2
      · exact id

theorem held_full (hwindow : 0 < w.window) (h : s.Full) {total skip : Nat} {truncated : Bool}
    {leftover : Option (List Row)} {e : PolledEnd} {rest : RowStream}
    (hloop : (w.pollLoop s total skip truncated leftover).2 = .ok e) (hheld : e.held = some rest) : rest.Full := by
  have hatCap : ∀ (s : RowStream) (total : Nat) (truncated : Bool) (leftover : Option (List Row)), s.Full →
      w.atCapOf s total truncated leftover = .ok e → rest.Full := by
    intro s total truncated leftover h hatCap
    unfold Writer.atCapOf at hatCap
    split at hatCap
    · split at hatCap
      · obtain rfl := Except.ok.inj hatCap
        obtain rfl := Option.some.inj hheld
        exact full_prefixed _ h
      · split at hatCap
        · exact absurd hatCap nofun
        · obtain rfl := Except.ok.inj hatCap
          exact absurd hheld nofun
        · rename_i chunk next hpoll
          split at hatCap
          · obtain rfl := Except.ok.inj hatCap
            exact absurd hheld nofun
          · obtain rfl := Except.ok.inj hatCap
            obtain rfl := Option.some.inj hheld
            have hnext : (s.poll w.window).2.Full := (h.poll hwindow).2
            rw [hpoll] at hnext
            exact full_prefixed _ hnext
    · split at hatCap
      · exact absurd hatCap nofun
      · obtain rfl := Except.ok.inj hatCap
        exact absurd hheld nofun
  induction s generalizing total skip truncated leftover with
  | ended =>
    rw [Writer.pollLoop] at hloop
    split at hloop
    · exact hatCap _ _ _ _ h hloop
    · obtain rfl := Except.ok.inj hloop
      exact absurd hheld nofun
  | live answer next ih =>
    have hnext : (next (w.want total skip)).Full := (h _ (want_pos hwindow total skip)).2
    rw [Writer.pollLoop] at hloop
    split at hloop
    · exact hatCap _ _ _ _ h hloop
    · split at hloop
      · exact absurd hloop nofun
      · obtain rfl := Except.ok.inj hloop
        exact absurd hheld nofun
      · dsimp only at hloop
        split at hloop
        · exact ih _ hnext hloop
        · exact ih _ hnext hloop

end Full

end DataNexus.Stream
