/-
  FETCH from a cursor whose rows are polled (`handle_named_cursor_sql` of `core_engine.rs`).

  The stream is asked for at most 256 rows at a time.  A window that is too long is cut, and the rest goes in front of
  the stream again; a poll that finds nothing marks the cursor as exhausted.

  * `fetchRows_spec` — one FETCH takes the next rows, whatever the windows;
  * `fetches_page` — so any number of them do, and the cursor that holds a list (`Engine/Cursor.lean`) does the same.
-/
import DataNexus.Engine.Cursor
import DataNexus.Stream.Polled

namespace DataNexus.Engine

open DataNexus.Poll DataNexus.Stream

/-! ## FETCH -/

/-- The row loop: the rows, the stream that is left, and whether a poll found nothing. -/
def fetchRows : RowStream → Nat → Except GatewayError (List Row × RowStream × Bool)
  | s, 0 => .ok ([], s, false)
  | .ended, _ + 1 => .ok ([], .ended, true)
  | .live answer next, remaining + 1 =>
    let want := min (remaining + 1) 256
    match answer want with
    | .error e => .error e
    | .ok none => .ok ([], next want, true)
    | .ok (some chunk) =>
      if chunk.isEmpty then .ok ([], next want, true)
      else if remaining + 1 < chunk.length then
        .ok (chunk.take (remaining + 1), prefixedRowStream (chunk.drop (remaining + 1)) (next want), false)
      else (fetchRows (next want) (remaining + 1 - chunk.length)).map fun out => (chunk ++ out.1, out.2)

/-- What a cursor keeps of its query. -/
structure HeldStream where
  stream : RowStream
  exhausted : Bool

def HeldStream.fetch (held : HeldStream) (count : Nat) : Except GatewayError (List Row × HeldStream) :=
  if held.exhausted then .ok ([], held)
  else (fetchRows held.stream count).map fun out => (out.1, ⟨out.2.1, out.2.2⟩)

/-- The pages of some FETCHes. -/
def HeldStream.fetches (held : HeldStream) : List Nat → Except GatewayError (List (List Row))
  | [] => .ok []
  | count :: counts =>
    match held.fetch count with
    | .error e => .error e
    | .ok (page, held) => (held.fetches counts).map (page :: ·)

def NamedCursorHeld.fetches (held : NamedCursorHeld) : List Nat → List (List Row)
  | [] => []
  | count :: counts => (held.take count).1 :: (held.take count).2.fetches counts

/-- The result of a SELECT: a sequence of rows, in windows that are not empty. -/
structure SelectStream where
  columns : List Column
  stream : RowStream
  rows : List Row
  yields : stream.Yields rows
  full : stream.Full

/-! ## Streams as lists -/

theorem full_passing {s : RowStream} (h : s.Full) : (passing s).Full := by
  induction s with
  | ended => trivial
  | live answer next ih =>
    intro n hn
    have hlive := h (max n 1) (Nat.lt_of_lt_of_le hn (Nat.le_max_left n 1))
    exact ⟨hlive.1, ih _ hlive.2⟩

theorem full_prefixed {chunk : List Row} {inner : RowStream} (h : inner.Full) :
    (prefixedRowStream chunk inner).Full := by
  induction hlen : chunk.length using Nat.strongRecOn generalizing chunk with
  | ind len ih =>
    rw [prefixedRowStream]
    by_cases hempty : chunk = []
    · rw [dif_pos hempty]
      exact full_passing h
    rw [dif_neg hempty]
    intro n hn
    have hpos : 0 < chunk.length := List.length_pos_of_ne_nil hempty
    have hmax : max n 1 = n := by omega
    dsimp only
    rw [hmax]
    by_cases hlong : n < chunk.length
    · rw [if_pos hlong, if_pos hlong]
      refine ⟨?_, ih (chunk.drop n).length (by rw [List.length_drop]; omega) rfl⟩
      intro heq
      have htake : chunk.take n = [] := Option.some.inj (Except.ok.inj heq)
      have hzero : (chunk.take n).length = 0 := by rw [htake]; rfl
      rw [List.length_take] at hzero
      omega
    rw [if_neg hlong, if_neg hlong]
    by_cases hexact : chunk.length = n
    · rw [if_pos hexact, if_pos hexact]
      refine ⟨?_, full_passing h⟩
      intro heq
      exact hempty (Option.some.inj (Except.ok.inj heq))
    · rw [if_neg hexact, if_neg hexact]
      have hneed : 0 < n - chunk.length := by omega
      refine ⟨?_, full_passing (h.poll hneed).2⟩
      split
      · rintro ⟨⟩
      · intro heq
        exact hempty (Option.some.inj (Except.ok.inj heq))
      · intro heq
        exact hempty (List.append_eq_nil_iff.mp (Option.some.inj (Except.ok.inj heq))).1

/-- **One FETCH** takes the next rows, and finds the end exactly when it asks for more than there are. -/
theorem fetchRows_spec {s : RowStream} {rows : List Row} (count : Nat) (hyields : s.Yields rows) (hfull : s.Full) :
    ∃ rest, fetchRows s count = .ok (rows.take count, rest, decide (rows.length < count)) ∧
      rest.Yields (rows.drop count) ∧ rest.Full := by
  induction s generalizing rows count with
  | ended =>
    obtain rfl : rows = [] := hyields
    cases count with
    | zero => exact ⟨.ended, rfl, rfl, trivial⟩
    | succ remaining => exact ⟨.ended, by simp [fetchRows], rfl, trivial⟩
  | live answer next ih =>
    cases count with
    | zero => exact ⟨_, by simp [fetchRows], hyields, hfull⟩
    | succ remaining =>
      have hwant : 0 < min (remaining + 1) 256 := by omega
      have hnext : (next (min (remaining + 1) 256)).Full := (hfull _ hwant).2
      have hsome : answer (min (remaining + 1) 256) ≠ .ok (some []) := (hfull _ hwant).1
      unfold fetchRows
      dsimp only
      rcases hyields.poll_cases hwant with ⟨hpoll, rfl, hend⟩ | ⟨chunk, rest, hpoll, rfl, hrest⟩
      · have hanswer : answer (min (remaining + 1) 256) = .ok none := hpoll
        rw [hanswer]
        exact ⟨_, rfl, List.drop_nil.symm ▸ hend, hnext⟩
      · have hanswer : answer (min (remaining + 1) 256) = .ok (some chunk) := hpoll
        have hchunk : chunk ≠ [] := fun h => hsome (hanswer.trans (by rw [h]))
        have hpos : 0 < chunk.length := List.length_pos_of_ne_nil hchunk
        rw [hanswer]
        dsimp only
        rw [if_neg (by simpa using hchunk)]
        by_cases hlong : remaining + 1 < chunk.length
        · -- the window is cut
          rw [if_pos hlong, List.take_append_of_le_length (Nat.le_of_lt hlong),
            List.drop_append_of_le_length (Nat.le_of_lt hlong)]
          have hless : ¬ (chunk ++ rest).length < remaining + 1 := by
            rw [List.length_append]
            omega
          rw [decide_eq_false hless]
          exact ⟨_, rfl, yields_prefixed _ hrest, full_prefixed hnext⟩
        · obtain ⟨s', hfetch, hyields', hfull'⟩ := ih _ (remaining + 1 - chunk.length) hrest hnext
          rw [if_neg hlong, hfetch]
          have hlength : ((chunk ++ rest).length < remaining + 1) = (rest.length < remaining + 1 - chunk.length) := by
            rw [List.length_append]
            exact propext ⟨fun _ => by omega, fun _ => by omega⟩
          have hle : chunk.length ≤ remaining + 1 := Nat.le_of_not_lt hlong
          simp only [Except.map, List.take_append, List.drop_append, List.take_of_length_le hle,
            List.drop_eq_nil_of_le hle, List.nil_append, hlength]
          exact ⟨s', rfl, hyields', hfull'⟩

/-- The stream is the list of rows that are left. -/
structure Shows (held : HeldStream) (list : NamedCursorHeld) : Prop where
  exhausted : held.exhausted = list.exhausted
  yields : held.stream.Yields list.rows
  full : held.stream.Full

/-- **Step lemma.** -/
theorem shows_fetch {held : HeldStream} {list : NamedCursorHeld} (h : Shows held list) (count : Nat) :
    ∃ held', held.fetch count = .ok ((list.take count).1, held') ∧ Shows held' (list.take count).2 := by
  unfold HeldStream.fetch NamedCursorHeld.take
  rw [h.exhausted]
  by_cases hend : list.exhausted = true
  · rw [if_pos hend, if_pos hend]
    exact ⟨held, rfl, h⟩
  · rw [if_neg hend, if_neg hend]
    obtain ⟨rest, hfetch, hyields, hfull⟩ := fetchRows_spec count h.yields h.full
    rw [hfetch]
    exact ⟨_, rfl, ⟨rfl, hyields, hfull⟩⟩

/-- **Run lemma.** -/
theorem shows_fetches (counts : List Nat) : ∀ {held : HeldStream} {list : NamedCursorHeld}, Shows held list →
    held.fetches counts = .ok (list.fetches counts) := by
  induction counts with
  | nil => exact fun _ => rfl
  | cons count counts ih =>
    intro held list h
    obtain ⟨held', hfetch, hshows⟩ := shows_fetch h count
    unfold HeldStream.fetches
    rw [hfetch]
    dsimp only
    rw [ih hshows]
    rfl

/-- An exhausted cursor has no rows left. -/
theorem flatten_fetches (counts : List Nat) : ∀ {held : NamedCursorHeld}, (held.exhausted = true → held.rows = []) →
    (held.fetches counts).flatten = held.rows.take counts.sum := by
  induction counts with
  | nil => exact fun _ => rfl
  | cons count counts ih =>
    intro held h
    have hpage : (held.take count).1 = held.rows.take count ∧ (held.take count).2.rows = held.rows.drop count ∧
        ((held.take count).2.exhausted = true → (held.take count).2.rows = []) := by
      unfold NamedCursorHeld.take
      split
      · rename_i hend
        have hnil : held.rows = [] := h hend
        exact ⟨by rw [hnil, List.take_nil], by rw [hnil, List.drop_nil], fun _ => hnil⟩
      · exact ⟨rfl, rfl, fun hless => List.drop_eq_nil_of_le (Nat.le_of_lt (of_decide_eq_true hless))⟩
    unfold NamedCursorHeld.fetches
    rw [List.flatten_cons, ih hpage.2.2, hpage.1, hpage.2.1, List.sum_cons, List.take_add]

/-- **Any FETCHes page the result**: they answer as a cursor that holds the list of the rows, and put together the pages
    are the beginning of the result. -/
theorem fetches_page (result : SelectStream) (withHold : Bool) (counts : List Nat) :
    let list : NamedCursorHeld := ⟨withHold, result.columns, result.rows, false⟩
    (⟨result.stream, false⟩ : HeldStream).fetches counts = .ok (list.fetches counts) ∧
      (list.fetches counts).flatten = result.rows.take counts.sum :=
  ⟨shows_fetches counts ⟨rfl, result.yields, result.full⟩, flatten_fetches counts (by rintro ⟨⟩)⟩

end DataNexus.Engine
