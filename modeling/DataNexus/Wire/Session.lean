/-
  `PgTcpSession` and `PgTcpWireStream`: a backend connection as bytes, the frames that are cut out of them,
  and the destructor that gives the connection back.

  A session is what has been read but not used (`readBuf`) and what is still on the way (`wire`).  A read
  may bring any number of bytes, so a script of reads decides where the frames are cut; a script that ends
  while a frame is awaited is a future that was dropped there.  What no script decides is which bytes come
  next: those of the responses, in order.

  The loop of `poll_packets` and the loop of the health probe are one function, `readFrames`, with the
  frame at which each of them stops.
-/
import DataNexus.Model
import DataNexus.Lib.Frames

namespace DataNexus.Wire

open DataNexus.Frames

/-! ## Frames -/

abbrev Frame := List UInt8

def fromBeBytes (a b c d : UInt8) : Nat := ((a.toNat * 256 + b.toNat) * 256 + c.toNat) * 256 + d.toNat

/-- `try_split_frame`: the first message of the buffer and what is behind it, if the message is
    complete. -/
def trySplitFrame (buf : List UInt8) : Except GatewayError (Option (Frame × List UInt8)) :=
  match buf with
  | _ :: a :: b :: c :: d :: _ =>
    let len := fromBeBytes a b c d
    if len < 4 then .error (.protocol ("pg frame: invalid length " ++ toString len))
    else
      let total := 1 + len
      if buf.length < total then .ok none
      else .ok (some (buf.take total, buf.drop total))
  | _ => .ok none

def hasTag (c : Char) (f : Frame) : Bool := f.head? == some (UInt8.ofNat c.toNat)

def isReady (f : Frame) : Bool := hasTag 'Z' f

/-- CommandComplete, PortalSuspended or ErrorResponse. -/
def endsPage (f : Frame) : Bool := hasTag 'C' f || hasTag 's' f || hasTag 'E' f

/-- What the backend sends are whole messages: the length counts itself and the body. -/
def isFrame : Frame → Bool
  | _ :: a :: b :: c :: d :: body => fromBeBytes a b c d == body.length + 4
  | _ => false

/-! ## Sessions -/

/-- `PgTcpSession`, with the part of its socket that matters here. -/
structure PgTcpSession where
  readBuf : List UInt8
  /-- Sent by the backend and not read. -/
  wire : List UInt8
  closed : Bool
deriving DecidableEq

/-- A session as `connect` leaves it: the handshake has been read up to ReadyForQuery. -/
def PgTcpSession.connected : PgTcpSession := ⟨[], [], false⟩

def PgTcpSession.unread (s : PgTcpSession) : List UInt8 := s.readBuf ++ s.wire

/-- A request is written, and the backend answers it with these frames. -/
def PgTcpSession.send (s : PgTcpSession) (answer : List Frame) : PgTcpSession :=
  if s.closed then s else { s with wire := s.wire ++ answer.flatten }

/-- What one `read` on the socket does. -/
inductive Read where
  /-- At most this many bytes; none of them if nothing has arrived. -/
  | bytes (n : Nat)
  | eof
  | error (message : String)
deriving DecidableEq

/-- The session after `eof`: nothing more will come. -/
def PgTcpSession.ended (s : PgTcpSession) : PgTcpSession := { s with wire := [], closed := true }

/-- The session after a read of `n` bytes into the buffer of 16 KiB. -/
def PgTcpSession.fill (s : PgTcpSession) (n : Nat) : PgTcpSession :=
  { s with
    readBuf := s.readBuf ++ s.wire.take (min n (16 * 1024))
    wire := s.wire.drop (min n (16 * 1024)) }

/-- How `next_raw_frame` ends. -/
inductive Next where
  | frame (f : Frame)
  | none
  | failed (e : GatewayError)
  /-- It is awaiting a read. -/
  | waiting

/-- `next_raw_frame`, with the reads that are left. -/
def nextRawFrame (reads : List Read) (s : PgTcpSession) : Next × PgTcpSession × List Read :=
  match trySplitFrame s.readBuf with
  | .error e => (.failed e, s, reads)
  | .ok (some (f, rest)) => (.frame f, { s with readBuf := rest }, reads)
  | .ok none =>
    match reads with
    | [] => (.waiting, s, [])
    | .error m :: reads => (.failed (.backend ("pg tcp read: " ++ m)), s, reads)
    | .eof :: reads =>
      if s.readBuf.isEmpty then (.none, s.ended, reads)
      else (.failed (.backend "pg tcp: connection closed mid-message"), s.ended, reads)
    | .bytes n :: reads => nextRawFrame reads (s.fill n)

/-- Why a loop over `next_raw_frame` is left. -/
inductive Stop where
  /-- There is no room for another frame. -/
  | full
  | found
  | closed
  | failed (e : GatewayError)
  | waiting

/-- The frames up to the first with `ends`, at most `room` of them. -/
def readFrames (ends : Frame → Bool) : Nat → List Read → PgTcpSession →
    List Frame × Stop × PgTcpSession
  | 0, _, s => ([], .full, s)
  | room + 1, reads, s =>
    match nextRawFrame reads s with
    | (.failed e, s, _) => ([], .failed e, s)
    | (.waiting, s, _) => ([], .waiting, s)
    | (.none, s, _) => ([], .closed, s)
    | (.frame f, s, reads) =>
      if ends f then ([f], .found, s)
      else
        let rest := readFrames ends room reads s
        (f :: rest.1, rest.2)

/-! ## The health probe -/

/-- The frame at which `health_check_inner` leaves its loop. -/
def endsProbe (f : Frame) : Bool := hasTag 'E' f || hasTag 'Z' f || f.isEmpty

/-- `health_check`: the frames read, and the session if it can be used.  `unsent`: the query could not be
    written; a script that runs out is the timeout. -/
def PgTcpSession.healthCheck (s : PgTcpSession) (unsent : Option String) (answer : List Frame)
    (reads : List Read) : List Frame × Except GatewayError PgTcpSession :=
  match unsent with
  | some m => ([], .error (.backend ("pg health query write: " ++ m)))
  | none =>
    let s := s.send answer
    -- every frame takes a byte, so there is room for all that can come
    match readFrames endsProbe (s.unread.length + 1) reads s with
    | (frames, .failed e, _) => (frames, .error e)
    | (frames, .waiting, _) => (frames, .error (.backend "pg tcp health probe timed out"))
    | (frames, .full, _) => (frames, .error (.backend "pg tcp health probe timed out"))
    | (frames, .closed, _) =>
      (frames, .error (.backend "pg tcp health probe: closed before ReadyForQuery"))
    | (frames, .found, s) =>
      match frames.getLast? with
      | none => (frames, .error (.backend "pg tcp health probe: empty frame"))
      | some f =>
        if hasTag 'E' f then (frames, .error (.backend "pg tcp health probe: ErrorResponse"))
        else if hasTag 'Z' f then (frames, .ok s)
        else (frames, .error (.backend "pg tcp health probe: empty frame"))

/-! ## What is read -/

variable {f : Frame} {s s' : PgTcpSession} {reads' : List Read}

theorem isFrame_cons (h : isFrame f = true) :
    ∃ t a b c d body, f = t :: a :: b :: c :: d :: body ∧ fromBeBytes a b c d = body.length + 4 := by
  match f, h with
  | t :: a :: b :: c :: d :: body, h => exact ⟨t, a, b, c, d, body, rfl, beq_iff_eq.mp h⟩

/-- The inversion of `try_split_frame`: what it splits off is as long as the first bytes say. -/
theorem trySplitFrame_some {buf : List UInt8} {rest : List UInt8} (h : trySplitFrame buf = .ok (some (f, rest))) :
    ∃ t a b c d tail, buf = t :: a :: b :: c :: d :: tail ∧
      f = buf.take (1 + fromBeBytes a b c d) ∧ rest = buf.drop (1 + fromBeBytes a b c d) ∧
      1 + fromBeBytes a b c d ≤ buf.length := by
  match buf, h with
  | t :: a :: b :: c :: d :: tail, h =>
    unfold trySplitFrame at h
    dsimp only at h
    split at h
    · cases h
    · split at h
      · cases h
      · rename_i hlen
        cases h
        exact ⟨t, a, b, c, d, tail, rfl, rfl, rfl, Nat.le_of_not_lt hlen⟩

/-- **Out of a beginning of the responses the first frame is split.** -/
theorem trySplitFrame_first {buf wire : List UInt8} {g : Frame} {rest more : List UInt8} (hf : isFrame f = true)
    (hp : buf ++ wire <+: f ++ more) (h : trySplitFrame buf = .ok (some (g, rest))) :
    g = f ∧ rest ++ wire <+: more := by
  obtain ⟨t, a, b, c, d, tail, rfl, hg, hrest, hlen⟩ := trySplitFrame_some h
  obtain ⟨t', a', b', c', d', body, rfl, hbody⟩ := isFrame_cons hf
  -- the length field is the frame's own
  obtain ⟨unseen, heq⟩ := hp
  simp only [List.cons_append, List.cons.injEq] at heq
  obtain ⟨rfl, rfl, rfl, rfl, rfl, htail⟩ := heq
  have htotal : 1 + fromBeBytes a b c d = (t :: a :: b :: c :: d :: body).length := by
    rw [hbody]
    simp only [List.length_cons]
    omega
  rw [htotal] at hg hrest hlen
  have hshort : body.length ≤ tail.length := by
    simp only [List.length_cons] at hlen
    omega
  have hsplit : tail = body ++ tail.drop body.length := by
    have hbodyFirst : body <+: body ++ more := List.prefix_append body more
    have htailFirst : tail <+: body ++ more := by
      rw [← htail, List.append_assoc]
      exact List.prefix_append _ _
    obtain ⟨left, rfl⟩ := List.prefix_of_prefix_length_le hbodyFirst htailFirst hshort
    rw [List.drop_left]
  refine ⟨?_, ?_⟩
  · rw [hg, hsplit]
    simp
  · have hrest' : rest = tail.drop body.length := by
      rw [hrest]
      simp
    refine ⟨unseen, ?_⟩
    rw [hsplit, List.append_assoc, List.append_assoc, List.append_cancel_left_eq] at htail
    rw [hrest', List.append_assoc]
    exact htail

/-- What `next_raw_frame` does to a session on which the frames `rest` are pending, or a beginning of
    them. -/
def TakesNext (rest : List Frame) : Next × PgTcpSession × List Read → Prop
  | (.frame f, s, _) => ∃ left, rest = f :: left ∧ s.unread <+: left.flatten
  | (.none, s, _) => s.unread = []
  | (.failed _, s, _) => s.unread <+: rest.flatten
  | (.waiting, s, _) => s.unread <+: rest.flatten

theorem unread_fill (s : PgTcpSession) (n : Nat) : (s.fill n).unread = s.unread := by
  unfold PgTcpSession.unread PgTcpSession.fill
  dsimp only
  rw [List.append_assoc, List.take_append_drop]

theorem unread_ended (s : PgTcpSession) : s.ended.unread = s.readBuf := by
  unfold PgTcpSession.unread PgTcpSession.ended
  exact List.append_nil _

theorem takes_split {rest : List Frame} {reads : List Read} {left : List UInt8}
    (hrest : ∀ f ∈ rest, isFrame f = true) (hs : s.unread <+: rest.flatten)
    (hsplit : trySplitFrame s.readBuf = .ok (some (f, left))) :
    TakesNext rest (.frame f, { s with readBuf := left }, reads) := by
  cases rest with
  | nil =>
    have hnone : s.readBuf = [] := (List.append_eq_nil_iff.mp (List.prefix_nil.mp hs)).1
    rw [hnone] at hsplit
    cases hsplit
  | cons g rest =>
    obtain ⟨rfl, hleft⟩ := trySplitFrame_first (hrest g List.mem_cons_self) hs hsplit
    exact ⟨rest, rfl, hleft⟩

theorem nextRawFrame_takes {rest : List Frame} (hrest : ∀ f ∈ rest, isFrame f = true)
    (reads : List Read) (s : PgTcpSession) (hs : s.unread <+: rest.flatten) :
    TakesNext rest (nextRawFrame reads s) := by
  induction reads generalizing s with
  | nil =>
    unfold nextRawFrame
    split
    · exact hs
    · rename_i f left hsplit
      exact takes_split hrest hs hsplit
    · exact hs
  | cons read reads ih =>
    unfold nextRawFrame
    split
    · exact hs
    · rename_i f left hsplit
      exact takes_split hrest hs hsplit
    · cases read with
      | bytes n =>
        refine ih (s.fill n) ?_
        rw [unread_fill]
        exact hs
      | eof =>
        dsimp only
        split
        · rename_i hempty
          show s.ended.unread = []
          rw [unread_ended]
          exact List.isEmpty_iff.mp hempty
        · show s.ended.unread <+: rest.flatten
          rw [unread_ended]
          exact (List.prefix_append _ _).trans hs
      | error m => exact hs

/-- What a loop over `next_raw_frame` does to such a session. -/
structure TakesFrames (ends : Frame → Bool) (rest : List Frame)
    (r : List Frame × Stop × PgTcpSession) : Prop where
  split : ∃ left, rest = r.1 ++ left ∧ r.2.2.unread <+: left.flatten
  found : r.2.1 = .found → ∃ before f, r.1 = before ++ [f] ∧ ends f = true
  unfound : r.2.1 ≠ .found → free ends r.1 = true
  closed : r.2.1 = .closed → r.2.2.unread = []

/-- **The frames that are read are the next ones of the responses, and what stays pending is what comes
    after them.** -/
theorem readFrames_takes {ends : Frame → Bool} (room : Nat) {rest : List Frame}
    (hrest : ∀ f ∈ rest, isFrame f = true) (reads : List Read) (s : PgTcpSession)
    (hs : s.unread <+: rest.flatten) : TakesFrames ends rest (readFrames ends room reads s) := by
  induction room generalizing rest reads s with
  | zero => exact ⟨⟨rest, rfl, hs⟩, nofun, fun _ => rfl, nofun⟩
  | succ room ih =>
    have hnext := nextRawFrame_takes hrest reads s hs
    rw [readFrames]
    split
    · rename_i heq
      rw [heq] at hnext
      exact ⟨⟨rest, rfl, hnext⟩, nofun, fun _ => rfl, nofun⟩
    · rename_i heq
      rw [heq] at hnext
      exact ⟨⟨rest, rfl, hnext⟩, nofun, fun _ => rfl, nofun⟩
    · rename_i s' _ heq
      rw [heq] at hnext
      have hnone : s'.unread = [] := hnext
      refine ⟨⟨rest, rfl, ?_⟩, nofun, fun _ => rfl, fun _ => hnone⟩
      rw [hnone]
      exact List.nil_prefix
    · rename_i f s' reads' heq
      rw [heq] at hnext
      obtain ⟨left, rfl, hleft⟩ := hnext
      split
      · rename_i hends
        exact ⟨⟨left, rfl, hleft⟩, fun _ => ⟨[], f, rfl, hends⟩, fun h => absurd rfl h, nofun⟩
      · rename_i hends
        have hlater := ih (fun g hg => hrest g (List.mem_cons_of_mem f hg)) reads' s' hleft
        obtain ⟨left', hsplit, hleft'⟩ := hlater.split
        refine ⟨⟨left', congrArg (f :: ·) hsplit, hleft'⟩, ?_, ?_, hlater.closed⟩
        · intro hfound
          obtain ⟨before, g, hbefore, hg⟩ := hlater.found hfound
          exact ⟨f :: before, g, congrArg (f :: ·) hbefore, hg⟩
        · intro hunfound
          have hfirst : free ends [f] = true := by
            rw [free_iff]
            intro g hg
            rw [List.mem_singleton.mp hg]
            exact Bool.eq_false_iff.mpr hends
          exact free_append hfirst (hlater.unfound hunfound)

theorem unread_split_lt {rest : List UInt8} (h : trySplitFrame s.readBuf = .ok (some (f, rest))) :
    (PgTcpSession.unread { s with readBuf := rest }).length < s.unread.length := by
  obtain ⟨t, a, b, c, d, tail, _, _, rfl, hlen⟩ := trySplitFrame_some h
  unfold PgTcpSession.unread
  simp only [List.length_append, List.length_drop]
  omega

theorem nextRawFrame_shorter (reads : List Read) (s : PgTcpSession)
    (h : nextRawFrame reads s = (.frame f, s', reads')) : s'.unread.length < s.unread.length := by
  induction reads generalizing s with
  | nil =>
    unfold nextRawFrame at h
    split at h
    · cases h
    · rename_i heq
      cases h
      exact unread_split_lt heq
    · cases h
  | cons read reads ih =>
    unfold nextRawFrame at h
    split at h
    · cases h
    · rename_i heq
      cases h
      exact unread_split_lt heq
    · cases read with
      | bytes n =>
        have hlt := ih (s.fill n) h
        rw [unread_fill] at hlt
        exact hlt
      | eof =>
        dsimp only at h
        split at h
        · cases h
        · cases h
      | error m => cases h

theorem readFrames_not_full (ends : Frame → Bool) (room : Nat) (reads : List Read) (s : PgTcpSession)
    (h : s.unread.length < room) : (readFrames ends room reads s).2.1 ≠ .full := by
  induction room generalizing reads s with
  | zero => omega
  | succ room ih =>
    rw [readFrames]
    split
    · nofun
    · nofun
    · nofun
    · rename_i f s' reads' heq
      split
      · nofun
      · have hlt := nextRawFrame_shorter reads s heq
        exact ih reads' s' (by omega)

theorem eof_of_none (reads : List Read) (s : PgTcpSession) (h : nextRawFrame reads s = (.none, s', reads')) :
    .eof ∈ reads := by
  induction reads generalizing s with
  | nil =>
    unfold nextRawFrame at h
    split at h <;> cases h
  | cons read reads ih =>
    unfold nextRawFrame at h
    split at h
    · cases h
    · cases h
    · cases read with
      | bytes n => exact List.mem_cons_of_mem _ (ih (s.fill n) h)
      | eof => exact List.mem_cons_self
      | error m => cases h

theorem reads_subset (reads : List Read) (s : PgTcpSession) : (nextRawFrame reads s).2.2 ⊆ reads := by
  induction reads generalizing s with
  | nil =>
    unfold nextRawFrame
    split <;> exact List.Subset.refl _
  | cons read reads ih =>
    unfold nextRawFrame
    split
    · exact List.Subset.refl _
    · exact List.Subset.refl _
    · cases read with
      | bytes n => exact List.subset_cons_of_subset _ (ih (s.fill n))
      | eof =>
        dsimp only
        split <;> exact List.subset_cons_self _ _
      | error m => exact List.subset_cons_self _ _

theorem eof_of_closed (ends : Frame → Bool) (room : Nat) (reads : List Read) (s : PgTcpSession)
    (h : (readFrames ends room reads s).2.1 = .closed) : .eof ∈ reads := by
  induction room generalizing reads s with
  | zero => cases h
  | succ room ih =>
    rw [readFrames] at h
    split at h
    · cases h
    · cases h
    · rename_i heq
      exact eof_of_none reads s heq
    · rename_i f s' reads' heq
      split at h
      · cases h
      · have hsub := reads_subset reads s
        rw [heq] at hsub
        exact hsub (ih reads' s' h)

/-- On a session with nothing pending, what is pending after a request is its answer, or nothing if the
    peer has gone. -/
theorem unread_send (hs : s.unread = []) (answer : List Frame) : (s.send answer).unread <+: answer.flatten := by
  unfold PgTcpSession.send
  split
  · rw [hs]
    exact List.nil_prefix
  · obtain ⟨hbuf, hwire⟩ := List.append_eq_nil_iff.mp hs
    show s.readBuf ++ (s.wire ++ answer.flatten) <+: answer.flatten
    rw [hbuf, hwire]
    exact List.prefix_rfl

/-- **The probe reads its own answer**: a session without pending bytes that passes has none again. -/
theorem healthCheck_reads (hs : s.unread = []) (unsent : Option String) {answer : List Frame}
    (hframes : ∀ f ∈ answer, isFrame f = true) (hready : onlyLast isReady answer = true) (reads : List Read) :
    (s.healthCheck unsent answer reads).1 <+: answer ∧ ∀ s', (s.healthCheck unsent answer reads).2 = .ok s' →
        s'.unread = [] ∧ (s.healthCheck unsent answer reads).1 = answer := by
  unfold PgTcpSession.healthCheck
  cases unsent with
  | some m => exact ⟨List.nil_prefix, nofun⟩
  | none =>
    dsimp only
    have htakes : TakesFrames endsProbe answer _ := readFrames_takes
      ((s.send answer).unread.length + 1) hframes reads (s.send answer) (unread_send hs answer)
    generalize readFrames endsProbe ((s.send answer).unread.length + 1) reads (s.send answer) = r
      at htakes
    obtain ⟨frames, stop, s₁⟩ := r
    obtain ⟨left, hsplit, hleft⟩ := htakes.split
    have hbegins : frames <+: answer := ⟨left, hsplit.symm⟩
    cases stop with
    | failed e => exact ⟨hbegins, nofun⟩
    | waiting => exact ⟨hbegins, nofun⟩
    | full => exact ⟨hbegins, nofun⟩
    | closed => exact ⟨hbegins, nofun⟩
    | found =>
      obtain ⟨before, f, hbefore, _⟩ := htakes.found rfl
      dsimp only at hbefore hsplit hleft
      have hlast : frames.getLast? = some f := by
        rw [hbefore, List.getLast?_concat]
      dsimp only
      rw [hlast]
      dsimp only
      split
      · exact ⟨hbegins, nofun⟩
      · split
        · rename_i hz
          refine ⟨hbegins, ?_⟩
          rintro s' ⟨⟩
          -- behind the ReadyForQuery of the answer there is nothing
          have hall : answer = before ++ f :: left := by
            rw [hsplit, hbefore, List.append_assoc]
            rfl
          rw [hall] at hready
          obtain rfl := rest_nil_of_onlyLast hready hz
          exact ⟨List.prefix_nil.mp hleft, (hsplit.trans (List.append_nil _)).symm⟩
        · exact ⟨hbegins, nofun⟩

end DataNexus.Wire
