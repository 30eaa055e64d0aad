/-
  What one page of a row stream has sent, and what it holds back.

  The engine cuts the rows of a portal into pages with `Writer.write` (`Stream/Rows.lean`).  A page that
  holds its remainder skips nothing; another may skip rows first.

  1. `sent` counts the rows the client got, also on a page that broke off at a row that cannot be encoded;
  2. `shows_messages`: the messages show exactly the first `sent` rows behind the skipped ones;
  3. `held_after_sent`: what the page holds for the next one comes right after them.

  Both come from one induction over the windows (`writeLoop_sends`), and a second one over the windows that
  are skipped.
-/
import DataNexus.Stream.Polled

namespace DataNexus.Stream

/-! ## Pages -/

/-- The rows that a page has sent: all it counted, or those before a row that could not be encoded. -/
def Writer.sent (w : Writer) (chunks : List (List Row)) : Nat :=
  match w.encodeHeader w.columns, w.write chunks with
  | .error _, _ => 0
  | .ok header, .error (_, messages) => messages.length - header.length
  | .ok _, .ok (page, _) => page.totalRows

/-- The messages of a page, also of one that broke off. -/
def Writer.messages (w : Writer) (chunks : List (List Row)) : List ClientMessage :=
  match w.write chunks with
  | .error (_, messages) => messages
  | .ok (_, messages) => messages

/-- The messages show exactly these rows: a header, one message per row, and a footer if the page came to
    its end. -/
def Writer.Shows (w : Writer) (rows : List Row) (messages : List ClientMessage) : Prop :=
  match w.encodeHeader w.columns with
  | .error _ => rows = [] ∧ messages = []
  | .ok header =>
    ∃ encoded, w.encodeRows rows = .ok encoded ∧
      (messages = header ++ encoded ∨ ∃ total truncated, messages = header ++ encoded ++ w.footer total truncated)

section Sent

variable (w : Writer)

theorem encodeRows_length {rows : List Row} {encoded : List ClientMessage}
    (h : w.encodeRows rows = .ok encoded) : encoded.length = rows.length := by
  induction rows generalizing encoded with
  | nil =>
    obtain rfl : [] = encoded := Except.ok.inj h
    rfl
  | cons row rows ih =>
    rw [Writer.encodeRows] at h
    split at h
    · cases h
    · rename_i m _
      split at h
      · cases h
      · rename_i ms hms
        obtain rfl : m :: ms = encoded := Except.ok.inj h
        rw [List.length_cons, List.length_cons, ih hms]

theorem encodeRows_append {rows rows' : List Row} {encoded encoded' : List ClientMessage}
    (h : w.encodeRows rows = .ok encoded) (h' : w.encodeRows rows' = .ok encoded') :
    w.encodeRows (rows ++ rows') = .ok (encoded ++ encoded') := by
  induction rows generalizing encoded with
  | nil =>
    obtain rfl : [] = encoded := Except.ok.inj h
    exact h'
  | cons row rows ih =>
    rw [Writer.encodeRows] at h
    rw [List.cons_append, Writer.encodeRows]
    split at h
    · cases h
    · rename_i m hm
      split at h
      · cases h
      · rename_i ms hms
        obtain rfl : m :: ms = encoded := Except.ok.inj h
        rw [ih hms]
        rfl

/-- What the row loop leaves, with the rows `rows` before it: `n` of them are sent, and what is held comes
    right after these. -/
def Writer.Sends (w : Writer) (rows : List Row) (total : Nat) (out : List ClientMessage) :
    Except (GatewayError × List ClientMessage) (LoopEnd × List ClientMessage) → Prop
  | .error (_, messages) =>
    ∃ n encoded, n ≤ rows.length ∧ w.encodeRows (rows.take n) = .ok encoded ∧ messages = out ++ encoded
  | .ok (page, messages) =>
    ∃ n encoded, w.encodeRows (rows.take n) = .ok encoded ∧ messages = out ++ encoded ∧
      page.totalRows = total + n ∧
      ∀ leftover rest, page.held = some (leftover, rest) → leftover ++ rest.flatten = rows.drop n

theorem atCap_held (chunks : List (List Row)) (total : Nat) (truncated : Bool) (leftover : Option (List Row)) :
    (w.atCap chunks total truncated leftover).totalRows = total ∧
      ∀ cut rest, (w.atCap chunks total truncated leftover).held = some (cut, rest) →
        cut ++ rest.flatten = leftover.getD [] ++ chunks.flatten := by
  unfold Writer.atCap
  split
  · cases leftover with
    | some rows =>
      refine ⟨rfl, fun cut rest h => ?_⟩
      cases h
      rfl
    | none =>
      cases chunks with
      | nil => exact ⟨rfl, nofun⟩
      | cons chunk chunks =>
        dsimp only
        split
        · exact ⟨rfl, nofun⟩
        · refine ⟨rfl, fun cut rest h => ?_⟩
          cases h
          rfl
  · exact ⟨rfl, nofun⟩

variable {chunks : List (List Row)} {total skip n n' : Nat} {chunk : List Row}

theorem writeLoop_atCap {truncated : Bool} {leftover : Option (List Row)} {out : List ClientMessage}
    (hcap : w.maxTotal.any (· ≤ total) = true) : w.writeLoop chunks total skip truncated leftover out =
      .ok (w.atCap chunks total truncated leftover, out) := by
  cases chunks with
  | nil => rw [Writer.writeLoop, if_pos hcap]
  | cons chunk rest => rw [Writer.writeLoop, if_pos hcap]

theorem atCap_drained {truncated : Bool} {leftover : Option (List Row)} (hhold : ¬w.holdRemainder = true) :
    (w.atCap chunks total truncated leftover).held = none := by
  unfold Writer.atCap
  rw [if_neg hhold]

theorem writeLoop_window {rest : List (List Row)} {truncated : Bool} {out : List ClientMessage}
    (hcap : ¬w.maxTotal.any (· ≤ total) = true) :
    w.writeLoop (chunk :: rest) total 0 truncated none out =
      match w.encodeRows (chunk.take (w.remain total chunk)) with
      | .error e => .error (e, out)
      | .ok messages =>
        w.writeLoop rest (total + (chunk.take (w.remain total chunk)).length) 0
          (truncated || decide (w.remain total chunk < chunk.length))
          (if w.remain total chunk < chunk.length ∧ w.holdRemainder = true then
            some (chunk.drop (w.remain total chunk)) else none)
          (out ++ messages) := by
  have hnone : chunk.drop (min 0 chunk.length) = chunk := by rw [Nat.zero_min, List.drop_zero]
  rw [Writer.writeLoop, if_neg hcap]
  dsimp only
  rw [if_neg (fun hskip => absurd hskip.1 (Nat.lt_irrefl 0)), hnone, Nat.zero_sub]
  rfl

theorem remain_of_excess (hexcess : w.remain total chunk < chunk.length) :
    (chunk.take (w.remain total chunk)).length = w.remain total chunk ∧
      w.maxTotal.any (· ≤ total + w.remain total chunk) = true := by
  refine ⟨List.length_take_of_le (Nat.le_of_lt hexcess), ?_⟩
  unfold Writer.remain at hexcess ⊢
  cases hmax : w.maxTotal with
  | none =>
    rw [hmax] at hexcess
    exact absurd hexcess (Nat.lt_irrefl _)
  | some most => exact decide_eq_true (show most ≤ total + (most - total) by omega)

/-- **The row loop**, when no rows are skipped.  Induction on the windows; a window that is cut at the cap
    ends the loop in its next turn. -/
theorem writeLoop_sends (chunks : List (List Row)) (total : Nat) (truncated : Bool) (out : List ClientMessage) :
    w.Sends chunks.flatten total out (w.writeLoop chunks total 0 truncated none out) := by
  induction chunks generalizing total truncated out with
  | nil =>
    by_cases hcap : w.maxTotal.any (· ≤ total) = true
    · rw [writeLoop_atCap w hcap]
      obtain ⟨htotal, hheld⟩ := atCap_held w [] total truncated none
      exact ⟨0, [], rfl, (List.append_nil out).symm, htotal, hheld⟩
    · rw [Writer.writeLoop, if_neg hcap]
      exact ⟨0, [], rfl, (List.append_nil out).symm, rfl, by rintro _ _ ⟨⟩⟩
  | cons chunk rest ih =>
    by_cases hcap : w.maxTotal.any (· ≤ total) = true
    · rw [writeLoop_atCap w hcap]
      obtain ⟨htotal, hheld⟩ := atCap_held w (chunk :: rest) total truncated none
      exact ⟨0, [], rfl, (List.append_nil out).symm, htotal, hheld⟩
    · rw [writeLoop_window w hcap]
      cases hrows : w.encodeRows (chunk.take (w.remain total chunk)) with
      | error e => exact ⟨0, [], Nat.zero_le _, rfl, (List.append_nil out).symm⟩
      | ok messages =>
        dsimp only
        by_cases hexcess : w.remain total chunk < chunk.length
        · obtain ⟨hlength, hnext⟩ := remain_of_excess w hexcess
          rw [hlength, writeLoop_atCap w hnext]
          refine ⟨w.remain total chunk, messages, ?_, rfl, (atCap_held w _ _ _ _).1, ?_⟩
          · rw [List.flatten_cons, List.take_append_of_le_length (Nat.le_of_lt hexcess)]
            exact hrows
          · intro cut windows hcut
            by_cases hhold : w.holdRemainder = true
            · rw [if_pos ⟨hexcess, hhold⟩] at hcut
              rw [(atCap_held w _ _ _ _).2 cut windows hcut, List.flatten_cons,
                List.drop_append_of_le_length (Nat.le_of_lt hexcess)]
              rfl
            · rw [atCap_drained w hhold] at hcut
              cases hcut
        · have hall : chunk.take (w.remain total chunk) = chunk :=
            List.take_of_length_le (Nat.le_of_not_lt hexcess)
          rw [hall] at hrows
          rw [hall, if_neg (fun hboth => hexcess hboth.1)]
          have htail := ih (total + chunk.length)
            (truncated || decide (w.remain total chunk < chunk.length)) (out ++ messages)
          generalize w.writeLoop rest _ 0 _ none _ = ending at htail ⊢
          rcases ending with ⟨e, written⟩ | ⟨page, written⟩
          · obtain ⟨n, encoded, hn, hencoded, hwritten⟩ := htail
            refine ⟨chunk.length + n, messages ++ encoded, ?_, ?_, ?_⟩
            · rw [List.flatten_cons, List.length_append]
              omega
            · rw [List.flatten_cons, List.take_length_add_append]
              exact encodeRows_append w hrows hencoded
            · rw [hwritten, List.append_assoc]
          · obtain ⟨n, encoded, hencoded, hwritten, htotal, hheld⟩ := htail
            refine ⟨chunk.length + n, messages ++ encoded, ?_, ?_, ?_, ?_⟩
            · rw [List.flatten_cons, List.take_length_add_append]
              exact encodeRows_append w hrows hencoded
            · rw [hwritten, List.append_assoc]
            · rw [htotal, Nat.add_assoc]
            · intro cut windows hcut
              rw [hheld cut windows hcut, List.flatten_cons, List.drop_length_add_append]

theorem writeLoop_skipped {rest : List (List Row)} {truncated : Bool} {out : List ClientMessage}
    (hcap : ¬w.maxTotal.any (· ≤ total) = true) (hskip : skip < chunk.length) :
    w.writeLoop (chunk :: rest) total skip truncated none out =
      w.writeLoop (chunk.drop skip :: rest) total 0 truncated none out := by
  have hempty : ¬(0 < skip ∧ (chunk.drop skip).isEmpty = true) := by
    rintro ⟨_, hnil⟩
    have hle := List.drop_eq_nil_iff.mp (List.isEmpty_iff.mp hnil)
    omega
  rw [writeLoop_window w hcap, Writer.writeLoop, if_neg hcap]
  dsimp only
  rw [Nat.min_eq_left (Nat.le_of_lt hskip), if_neg hempty, Nat.sub_self]
  rfl

theorem writeLoop_sends_skip (hhold : ¬w.holdRemainder = true) (chunks : List (List Row)) (skip : Nat)
    (truncated : Bool) (out : List ClientMessage) (total : Nat) : w.Sends (chunks.flatten.drop skip) total out
      (w.writeLoop chunks total skip truncated none out) := by
  induction chunks generalizing skip with
  | nil =>
    have hsame : w.writeLoop [] total skip truncated none out = w.writeLoop [] total 0 truncated none out := by
      rw [Writer.writeLoop, Writer.writeLoop]
    rw [hsame, List.flatten_nil, List.drop_nil]
    exact writeLoop_sends w [] total truncated out
  | cons chunk rest ih =>
    by_cases hcap : w.maxTotal.any (· ≤ total) = true
    · rw [writeLoop_atCap w hcap]
      refine ⟨0, [], rfl, (List.append_nil out).symm, (atCap_held w _ _ _ _).1, ?_⟩
      intro leftover windows hheld
      rw [atCap_drained w hhold] at hheld
      cases hheld
    · by_cases hskip : skip < chunk.length
      · rw [writeLoop_skipped w hcap hskip, List.flatten_cons,
          List.drop_append_of_le_length (Nat.le_of_lt hskip)]
        exact writeLoop_sends w (chunk.drop skip :: rest) total truncated out
      · have hle : chunk.length ≤ skip := Nat.le_of_not_lt hskip
        by_cases hzero : skip = 0
        · rw [hzero]
          exact writeLoop_sends w (chunk :: rest) total truncated out
        · have hempty : 0 < skip ∧ (chunk.drop (min skip chunk.length)).isEmpty = true := by
            refine ⟨Nat.pos_of_ne_zero hzero, ?_⟩
            rw [Nat.min_eq_right hle, List.drop_length]
            rfl
          rw [Writer.writeLoop, if_neg hcap]
          dsimp only
          rw [if_pos hempty, Nat.min_eq_right hle, List.flatten_cons, List.drop_append,
            List.drop_eq_nil_of_le hle, List.nil_append]
          exact ih (skip - chunk.length)

theorem sends_writeLoop (hhold : w.holdRemainder = true → w.skipRows = 0) (chunks : List (List Row))
    (header : List ClientMessage) : w.Sends (chunks.flatten.drop w.skipRows) 0 header
      (w.writeLoop chunks 0 w.skipRows false none header) := by
  by_cases hold : w.holdRemainder = true
  · rw [hhold hold]
    exact writeLoop_sends w chunks 0 false header
  · exact writeLoop_sends_skip w hold chunks w.skipRows false header 0

theorem shows_messages (hhold : w.holdRemainder = true → w.skipRows = 0) (chunks : List (List Row)) :
    w.Shows ((chunks.flatten.drop w.skipRows).take (w.sent chunks)) (w.messages chunks) := by
  unfold Writer.Shows Writer.sent Writer.messages Writer.write
  cases hheader : w.encodeHeader w.columns with
  | error e => exact ⟨List.take_zero, rfl⟩
  | ok header =>
    have hsends := sends_writeLoop w hhold chunks header
    dsimp only
    rcases hloop : w.writeLoop chunks 0 w.skipRows false none header with ⟨e, written⟩ | ⟨page, written⟩
    · rw [hloop] at hsends
      obtain ⟨n, encoded, hn, hencoded, hwritten⟩ := hsends
      have hlength : written.length - header.length = n := by
        rw [hwritten, List.length_append, encodeRows_length w hencoded, List.length_take_of_le hn]
        omega
      dsimp only
      rw [hlength]
      exact ⟨encoded, hencoded, .inl hwritten⟩
    · rw [hloop] at hsends
      obtain ⟨n, encoded, hencoded, hwritten, htotal, _⟩ := hsends
      have hcount : page.totalRows = n := htotal.trans (Nat.zero_add n)
      dsimp only
      refine ⟨encoded, ?_, .inr ⟨page.totalRows, page.truncated, ?_⟩⟩
      · rw [hcount]
        exact hencoded
      · rw [hwritten]

theorem held_after_sent (hhold : w.holdRemainder = true → w.skipRows = 0) {page : LoopEnd}
    {messages : List ClientMessage} (h : w.write chunks = .ok (page, messages)) {leftover : List Row}
    {rest : List (List Row)} (hheld : page.held = some (leftover, rest)) :
    leftover ++ rest.flatten = (chunks.flatten.drop w.skipRows).drop (w.sent chunks) := by
  unfold Writer.sent
  rw [h]
  unfold Writer.write at h
  cases hheader : w.encodeHeader w.columns with
  | error e =>
    rw [hheader] at h
    cases h
  | ok header =>
    rw [hheader] at h
    have hsends := sends_writeLoop w hhold chunks header
    dsimp only at h ⊢
    rcases hloop : w.writeLoop chunks 0 w.skipRows false none header with ⟨e, written⟩ | ⟨page', written⟩
    · rw [hloop] at h
      cases h
    · rw [hloop] at h hsends
      cases h
      obtain ⟨n, _, _, _, htotal, hafter⟩ := hsends
      rw [htotal, Nat.zero_add]
      exact hafter leftover rest hheld

theorem write_encoded (hhold : w.holdRemainder = true → w.skipRows = 0) {header : List ClientMessage}
    (hheader : w.encodeHeader w.columns = .ok header) (chunks : List (List Row)) :
    ∃ rows encoded, w.encodeRows rows = .ok encoded ∧ ((∃ e, w.write chunks = .error (e, header ++ encoded)) ∨
        ∃ page, w.write chunks = .ok (page, header ++ encoded ++ w.footer page.totalRows page.truncated)) := by
  have hsends := sends_writeLoop w hhold chunks header
  unfold Writer.write
  rw [hheader]
  dsimp only
  generalize w.writeLoop chunks 0 w.skipRows false none header = ending at hsends ⊢
  rcases ending with ⟨e, written⟩ | ⟨page, written⟩
  · obtain ⟨n, encoded, _, hencoded, hwritten⟩ := hsends
    exact ⟨_, encoded, hencoded, .inl ⟨e, by rw [hwritten]⟩⟩
  · obtain ⟨n, encoded, hencoded, hwritten, _⟩ := hsends
    exact ⟨_, encoded, hencoded, .inr ⟨page, by rw [hwritten]⟩⟩

/-! ## How many rows are sent -/

/-- At most `n` more rows are sent, behind `total` of them and the messages `out`. -/
def Within (n total : Nat) (out : List ClientMessage) :
    Except (GatewayError × List ClientMessage) (LoopEnd × List ClientMessage) → Prop
  | .error (_, messages) => messages.length ≤ out.length + n
  | .ok (page, _) => page.totalRows ≤ total + n

theorem Within.add {out sent : List ClientMessage} (hsent : sent.length = n)
    {ending : Except (GatewayError × List ClientMessage) (LoopEnd × List ClientMessage)}
    (h : Within n' (total + n) (out ++ sent) ending) : Within (n + n') total out ending := by
  rcases ending with ⟨e, written⟩ | ⟨page, written⟩
  · have hle : written.length ≤ (out ++ sent).length + n' := h
    rw [List.length_append, hsent] at hle
    show written.length ≤ out.length + (n + n')
    omega
  · have hle : page.totalRows ≤ total + n + n' := h
    show page.totalRows ≤ total + (n + n')
    omega

theorem Within.mono {out : List ClientMessage} (hle : n ≤ n')
    {ending : Except (GatewayError × List ClientMessage) (LoopEnd × List ClientMessage)}
    (h : Within n total out ending) : Within n' total out ending := by
  rcases ending with ⟨e, written⟩ | ⟨page, written⟩
  · exact Nat.le_trans h (Nat.add_le_add_left hle out.length)
  · exact Nat.le_trans h (Nat.add_le_add_left hle total)

/-- How many of so many rows still fit under the cap. -/
def Writer.room (w : Writer) (total rows : Nat) : Nat :=
  match w.maxTotal with
  | some most => min (most - total) rows
  | none => rows

theorem room_mono {rows rows' : Nat} (h : rows ≤ rows') : w.room total rows ≤ w.room total rows' := by
  unfold Writer.room
  cases w.maxTotal with
  | none => exact h
  | some most =>
    dsimp only
    omega

theorem room_window {skipN rest : Nat} (hcap : ¬w.maxTotal.any (· ≤ total) = true) :
    ((chunk.drop skipN).take (w.remain total (chunk.drop skipN))).length +
        w.room (total + ((chunk.drop skipN).take (w.remain total (chunk.drop skipN))).length) rest ≤
      w.room total (chunk.length + rest) := by
  rw [List.length_take, List.length_drop]
  unfold Writer.remain Writer.room
  cases hmost : w.maxTotal with
  | none =>
    dsimp only
    rw [List.length_drop]
    omega
  | some most =>
    have hbelow : total < most := by
      rw [hmost] at hcap
      simpa using hcap
    dsimp only
    omega

theorem within_writeLoop (chunks : List (List Row)) (total skip : Nat) (truncated : Bool)
    (leftover : Option (List Row)) (out : List ClientMessage) : Within (w.room total chunks.flatten.length) total out
      (w.writeLoop chunks total skip truncated leftover out) := by
  induction chunks generalizing total skip truncated leftover out with
  | nil =>
    by_cases hcap : w.maxTotal.any (· ≤ total) = true
    · rw [writeLoop_atCap w hcap]
      exact Nat.le_trans (Nat.le_of_eq (atCap_held w [] total truncated leftover).1) (Nat.le_add_right _ _)
    · rw [Writer.writeLoop, if_neg hcap]
      exact Nat.le_add_right _ _
  | cons chunk rest ih =>
    by_cases hcap : w.maxTotal.any (· ≤ total) = true
    · rw [writeLoop_atCap w hcap]
      exact Nat.le_trans (Nat.le_of_eq (atCap_held w _ total truncated leftover).1) (Nat.le_add_right _ _)
    · rw [Writer.writeLoop, if_neg hcap, List.flatten_cons, List.length_append]
      dsimp only
      split
      · -- the whole window is skipped
        exact (ih total _ truncated leftover out).mono (room_mono w (Nat.le_add_left _ _))
      · show Within _ total out (match w.encodeRows ((chunk.drop (min skip chunk.length)).take
          (w.remain total (chunk.drop (min skip chunk.length)))) with
          | .error e => .error (e, out)
          | .ok messages => _)
        cases hrows : w.encodeRows _ with
        | error e => exact Nat.le_add_right _ _
        | ok messages =>
          have hlength := encodeRows_length w hrows
          exact (Within.add hlength (ih _ _ _ _ _)).mono (room_window w hcap)

theorem sent_le_room (chunks : List (List Row)) : w.sent chunks ≤ w.room 0 chunks.flatten.length := by
  unfold Writer.sent Writer.write
  cases w.encodeHeader w.columns with
  | error e => exact Nat.zero_le _
  | ok header =>
    have hwithin := within_writeLoop w chunks 0 w.skipRows false none header
    dsimp only
    generalize w.writeLoop chunks 0 w.skipRows false none header = ending at hwithin ⊢
    rcases ending with ⟨e, written⟩ | ⟨page, written⟩
    · have hle : written.length ≤ header.length + w.room 0 chunks.flatten.length := hwithin
      show written.length - header.length ≤ _
      omega
    · have hle : page.totalRows ≤ 0 + w.room 0 chunks.flatten.length := hwithin
      show page.totalRows ≤ _
      omega

end Sent

end DataNexus.Stream
