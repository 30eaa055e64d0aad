/-
  Runs over pooled relay sessions, and when they stay aligned.

  A `World` has the idle pools, the slots, the sessions that were taken out of them and the streams that are being read.

  1. **Aligned** — a session that lies in a pool or a slot, or was taken from one, has no unread bytes.

  2. **Faithful** — the frames that a stream returns are those of the answer to its own request, in order, and all of them
     if it came to its end.

  3. **The slip** — `Txn`, `Idle` and `Hold` take back a session whatever is left on it (`leak`).

  4. **The condition** — `Clean`: a stream with such a destination is dropped with nothing left to read, and the client's
     frames make up one request (`sessions_stay_aligned`).
-/
import DataNexus.Lib.Run
import DataNexus.Wire.Replies

namespace DataNexus.Wire

open DataNexus.Frames DataNexus.Run

/-! ## The world -/

structure Exchange where
  stream : PgTcpWireStream
  /-- What the backend sends for the request. -/
  answer : List Frame
  /-- Read off the session. -/
  taken : List Frame
  /-- Returned by `poll_packets`. -/
  given : List Frame
  /-- A poll failed or was cut off. -/
  broken : Bool
  /-- The peer closed the connection during a poll. -/
  cut : Bool

structure World where
  places : Places
  /-- Sessions in the hands of their users. -/
  held : Nat → Option PgTcpSession
  relays : Nat → Option Exchange
  /-- The health probes made so far. -/
  probed : List Probed

inductive Act where
  /-- `PgTcpSession::connect`. -/
  | connect (hand : Nat)
  | takeOrConnect (hand pool : Nat) (key : String) (attempts : List Attempt) (connects : Bool)
  /-- `slot.lock().take()`. -/
  | takeSlot (hand slot : Nat)
  /-- `store_tcp_txn`; with an empty hand `clear_tcp_txn`. -/
  | storeSlot (hand slot : Nat)
  | discard (hand : Nat)
  | relay (hand id : Nat) (request : Request) (returnTo : SessionReturn) (unsent : Option Unsent)
      (replies : List (List Frame))
  | poll (id now maxPackets : Nat) (reads : List Read)
  /-- The stream is dropped, wherever it is. -/
  | drop (id now : Nat)
  | purgeExpired (pool now : Nat)

def Poll.batch : Poll → List Frame
  | .packets batch => batch
  | _ => []

def Poll.lost : Poll → Bool
  | .failed _ => true
  | .waiting => true
  | _ => false

def Exchange.polled (ex : Exchange) (poll : Poll) (frames : List Frame) (st : PgTcpWireStream)
    (reads : List Read) : Exchange :=
  ⟨st, ex.answer, ex.taken ++ frames, ex.given ++ poll.batch, ex.broken || poll.lost, ex.cut || reads.contains .eof⟩

def step (w : World) : Act → Option Poll × World
  | .connect hand => (none, { w with held := Function.update w.held hand (some .connected) })
  | .takeOrConnect hand pool key attempts connects =>
    let r := (w.places.pools pool).takeOrConnect key attempts connects
    (none,
      { w with
        places := { w.places with pools := Function.update w.places.pools pool r.2.2 }
        held := Function.update w.held hand r.1
        probed := w.probed ++ r.2.1 })
  | .takeSlot hand slot =>
    (none,
      { w with
        places := w.places.setSlot slot none
        held := Function.update w.held hand (w.places.slots slot) })
  | .storeSlot hand slot =>
    (none,
      { w with
        places := w.places.setSlot slot (w.held hand)
        held := Function.update w.held hand none })
  | .discard hand => (none, { w with held := Function.update w.held hand none })
  | .relay hand id request returnTo unsent replies =>
    match w.held hand, w.relays id with
    | some s, none =>
      let w := { w with held := Function.update w.held hand none }
      match request.relayInto s returnTo unsent replies.flatten with
      | .ok st =>
        (none,
          { w with
            relays := Function.update w.relays id (some ⟨st, replies.flatten, [], [], false, false⟩) })
      | .error _ => (none, w)
    | _, _ => (none, w)
  | .poll id now maxPackets reads =>
    match w.relays id with
    | none => (none, w)
    | some ex =>
      let r := ex.stream.pollPackets now maxPackets reads w.places
      (some r.1,
        { w with
          places := r.2.2.2
          relays := Function.update w.relays id (some (ex.polled r.1 r.2.1 r.2.2.1 reads)) })
  | .drop id now =>
    match w.relays id with
    | none => (none, w)
    | some ex =>
      (none,
        { w with
          places := (ex.stream.finishSession now w.places).2
          relays := Function.update w.relays id none })
  | .purgeExpired pool now =>
    (none,
      { w with
        places :=
          { w.places with
            pools := Function.update w.places.pools pool ((w.places.pools pool).purgeExpired now) } })

/-- What an idle pool is made with: `max_per_key`, `idle_ttl`, `health_probe`. -/
structure PoolConfig where
  maxPerKey : Nat
  idleTtl : Nat
  healthProbe : Bool

def World.start (config : Nat → PoolConfig) : World :=
  { places :=
      { pools := fun n => .new (config n).maxPerKey (config n).idleTtl (config n).healthProbe
        slots := fun _ => none }
    held := fun _ => none
    relays := fun _ => none
    probed := [] }

/-- The backend answers the probe as any query. -/
def Attempt.obeys (attempt : Attempt) : Bool := conforms false [.query "SELECT 1"] [attempt.answer]

/-- The backend answers as the protocol has it. -/
def Obeys (w : World) : Act → Bool
  | .takeOrConnect _ _ _ attempts _ =>
    attempts.all Attempt.obeys
  | .relay _ _ request _ _ replies => conforms false request.messages replies
  | _ => true

/-- Nothing is left to read on the session of the stream, or the stream will not give it back. -/
def Exchange.mayDrop (ex : Exchange) : Bool :=
  match ex.stream.session with
  | none => true
  | some s => !ex.stream.returnTo.fixed || s.unread.isEmpty

/-- A stream whose destination is fixed is dropped with nothing left to read, and frames of the client are
    relayed one request at a time. -/
def Clean (w : World) : Act → Bool
  | .relay _ _ request _ _ _ => request.single
  | .drop id _ =>
    match w.relays id with
    | none => true
    | some ex => ex.mayDrop
  | _ => true

/-! ## The slip -/

def frame (tag : Char) (body : List UInt8) : Frame :=
  UInt8.ofNat tag.toNat :: 0 :: 0 :: 0 :: UInt8.ofNat (body.length + 4) :: body

/-- The answer to a query with the one row `row`. -/
def oneRow (row : List UInt8) : List Frame :=
  [frame 'T' [], frame 'D' row, frame 'C' [], frame 'Z' [UInt8.ofNat 'I'.toNat]]

/-- The replies to an extended unit with the one row `row`. -/
def oneRowExtended (row : List UInt8) : List (List Frame) :=
  [[frame '1' []], [frame '2' []], [frame 'T' []], [frame 'D' row, frame 'C' []], [frame 'Z' [UInt8.ofNat 'I'.toNat]]]

def onePool : Nat → PoolConfig := fun _ => ⟨4, 30000, true⟩

/-- A first client drops its stream after one frame; a second one takes the session. -/
def leak : List Act :=
  [.takeOrConnect 0 0 "db" [] true,
    .relay 0 0 (.extendedTextBind "SELECT salary" []) (.idle 0 "db") none (oneRowExtended [7]),
    .poll 0 0 1 [.bytes 64],
    .drop 0 0,
    .takeOrConnect 1 0 "db" [⟨1, none, oneRow [1], [.bytes 64]⟩] true,
    .relay 1 1 (.extendedTextBind "SELECT name" []) (.idle 0 "db") none (oneRowExtended [9]),
    .poll 1 2 64 [.bytes 64, .bytes 64]]

theorem leaked_across_clients : (∀ e ∈ entries step (World.start onePool) leak, Obeys e.pre e.act = true) ∧
      -- the pooled session has bytes of the first answer on it
      (∃ entry ∈ ((final step (World.start onePool) (leak.take 4)).places.pools 0).idle "db",
        entry.session.unread ≠ []) ∧
      -- the probe took them for its own
      (final step (World.start onePool) leak).probed.map (fun p => (p.frames == p.answer, p.passed)) = [(false, true)] ∧
      -- the second client was given the answer of the probe
      ((final step (World.start onePool) leak).relays 1).map (·.given) = some (oneRow [1]) := by
  refine ⟨by decide, ?_, by decide, by decide⟩
  decide

/-! ## Places -/

/-- Nothing is unread on the sessions of a pool. -/
def PgTcpIdlePool.Aligned (pool : PgTcpIdlePool) : Prop := ∀ key, ∀ entry ∈ pool.idle key, entry.session.unread = []

/-- Nothing is unread on a session that lies anywhere. -/
structure Places.Aligned (p : Places) : Prop where
  pools : ∀ pool, (p.pools pool).Aligned
  slots : ∀ slot s, p.slots slot = some s → s.unread = []

theorem setQueue_aligned {pool : PgTcpIdlePool} (h : pool.Aligned) {key : String}
    {queue : List IdleEntry} (hqueue : ∀ entry ∈ queue, entry.session.unread = []) :
    (pool.setQueue key queue).Aligned := by
  show ∀ key', ∀ entry ∈ Function.update pool.idle key queue key', entry.session.unread = []
  rw [Function.forall_update_iff pool.idle fun _ queue => ∀ entry ∈ queue, entry.session.unread = []]
  exact ⟨hqueue, fun key' _ => h key'⟩

variable {s : PgTcpSession} {p : Places} {st : PgTcpWireStream} {attempts : List Attempt} {ex : Exchange}
  {w : World}

theorem put_aligned {pool : PgTcpIdlePool} (h : pool.Aligned) (now : Nat) (key : String) (hs : s.unread = []) :
    (pool.put now key s).Aligned := by
  refine setQueue_aligned h ?_
  intro entry hentry
  have hfresh : ∀ entry ∈ (pool.idle key).dropWhile (pool.expired now), entry.session.unread = [] := by
    intro entry hmem
    exact h key entry ((List.dropWhile_sublist _).subset hmem)
  rcases List.mem_append.mp hentry with hold | hnew
  · split at hold
    · exact hfresh entry (List.mem_of_mem_tail hold)
    · exact hfresh entry hold
  · rw [List.mem_singleton.mp hnew]
    exact hs

theorem take_aligned {pool : PgTcpIdlePool} (h : pool.Aligned) (now : Nat) (key : String) :
    (∀ s, (pool.take now key).1 = some s → s.unread = []) ∧ (pool.take now key).2.Aligned := by
  unfold PgTcpIdlePool.take
  have hsub := List.dropWhile_sublist (pool.expired now) (l := pool.idle key)
  split
  · exact ⟨nofun, setQueue_aligned h nofun⟩
  · rename_i entry rest heq
    rw [heq] at hsub
    refine ⟨?_, setQueue_aligned h ?_⟩
    · rintro s ⟨⟩
      exact h key entry (hsub.subset List.mem_cons_self)
    · intro other hother
      exact h key other (hsub.subset (List.mem_cons_of_mem entry hother))

theorem setPool_aligned (h : p.Aligned) (pool : Nat) {new : PgTcpIdlePool} (hnew : new.Aligned) :
    Places.Aligned { p with pools := Function.update p.pools pool new } := by
  refine ⟨?_, h.slots⟩
  show ∀ other, (Function.update p.pools pool new other).Aligned
  rw [Function.forall_update_iff p.pools fun _ pool => pool.Aligned]
  exact ⟨hnew, fun other _ => h.pools other⟩

theorem putIdle_aligned (h : p.Aligned) (now pool : Nat) (key : String) (hs : s.unread = []) :
    (p.putIdle now pool key s).Aligned :=
  setPool_aligned h pool (put_aligned (h.pools pool) now key hs)

theorem setSlot_aligned (h : p.Aligned) (slot : Nat) {s : Option PgTcpSession}
    (hs : ∀ s', s = some s' → s'.unread = []) : (p.setSlot slot s).Aligned := by
  refine ⟨h.pools, ?_⟩
  show ∀ other s', Function.update p.slots slot s other = some s' → s'.unread = []
  rw [Function.forall_update_iff p.slots fun _ s => ∀ s', s = some s' → s'.unread = []]
  exact ⟨hs, fun other _ => h.slots other⟩

theorem giveBack_aligned (h : p.Aligned) (now : Nat)
    (hs : s.unread = [] ∨ (st.returnTo.fixed = false ∧ st.readyStatus = none)) : (st.giveBack now s p).Aligned := by
  rcases hs with hs | ⟨hfixed, hstatus⟩
  · have hsome : ∀ s', some s = some s' → s'.unread = [] := by
      rintro s' ⟨⟩
      exact hs
    unfold PgTcpWireStream.giveBack
    split
    · exact h
    · exact setSlot_aligned h _ hsome
    · exact setSlot_aligned h _ hsome
    · exact putIdle_aligned h now _ _ hs
    · split
      · exact putIdle_aligned h now _ _ hs
      · split
        · exact setSlot_aligned h _ hsome
        · exact h
  · unfold PgTcpWireStream.giveBack
    cases hreturn : st.returnTo with
    | drop => exact h
    | txn slot =>
      rw [hreturn] at hfixed
      cases hfixed
    | idle pool key =>
      rw [hreturn] at hfixed
      cases hfixed
    | idleOrTxn pool key txn =>
      dsimp only
      rw [hstatus]
      exact h
    | hold slot =>
      rw [hreturn] at hfixed
      cases hfixed

/-! ## Taking a session -/

structure Probed.Faithful (p : Probed) : Prop where
  own : p.frames <+: p.answer
  whole : p.passed = true → p.frames = p.answer

/-- What `take_or_connect` hands out. -/
structure TakesAligned (r : Option PgTcpSession × List Probed × PgTcpIdlePool) : Prop where
  session : ∀ s, r.1 = some s → s.unread = []
  probed : ∀ p ∈ r.2.1, p.Faithful
  pool : r.2.2.Aligned

theorem healthCheck_aligned (hs : s.unread = []) {attempt : Attempt} (hobeys : attempt.obeys = true) :
    (s.healthCheck attempt.unsent attempt.answer attempt.reads).1 <+: attempt.answer ∧
      ∀ s', (s.healthCheck attempt.unsent attempt.answer attempt.reads).2 = .ok s' → s'.unread = [] ∧
          (s.healthCheck attempt.unsent attempt.answer attempt.reads).1 = attempt.answer := by
  have hframes := isFrame_of_conforms hobeys
  have hready := onlyLast_ready (show readyLast [.query "SELECT 1"] = true from rfl) hobeys
  rw [List.flatten_singleton] at hframes hready
  exact healthCheck_reads hs attempt.unsent hframes hready attempt.reads

theorem tryIdle_aligned (key : String) (rounds : Nat) (hobeys : ∀ attempt ∈ attempts, attempt.obeys = true)
    {pool : PgTcpIdlePool} (h : pool.Aligned) : TakesAligned (tryIdle key rounds attempts pool) := by
  induction rounds generalizing attempts pool with
  | zero => exact ⟨nofun, nofun, h⟩
  | succ rounds ih =>
    cases attempts with
    | nil => exact ⟨nofun, nofun, h⟩
    | cons attempt attempts =>
      obtain ⟨htaken, hpool⟩ := take_aligned h attempt.now key
      rw [tryIdle]
      split
      · rename_i heq
        rw [heq] at hpool
        exact ⟨nofun, nofun, hpool⟩
      · rename_i s pool' heq
        rw [heq] at htaken hpool
        have hs : s.unread = [] := htaken s rfl
        split
        · refine ⟨?_, nofun, hpool⟩
          rintro s' ⟨⟩
          exact hs
        · obtain ⟨hown, hwhole⟩ := healthCheck_aligned hs (hobeys attempt List.mem_cons_self)
          split
          · rename_i frames s' hcheck
            rw [hcheck] at hown hwhole
            obtain ⟨hs', hall⟩ := hwhole s' rfl
            refine ⟨?_, ?_, hpool⟩
            · rintro s'' ⟨⟩
              exact hs'
            · intro p hp
              rw [List.mem_singleton.mp hp]
              exact ⟨hown, fun _ => hall⟩
          · rename_i frames e hcheck
            rw [hcheck] at hown
            have hlater := ih (fun a ha => hobeys a (List.mem_cons_of_mem attempt ha)) hpool
            refine ⟨hlater.session, ?_, hlater.pool⟩
            intro p hp
            rcases List.mem_cons.mp hp with rfl | hp
            · exact ⟨hown, nofun⟩
            · exact hlater.probed p hp

theorem takeOrConnect_aligned {pool : PgTcpIdlePool} (h : pool.Aligned) (key : String)
    (hobeys : ∀ attempt ∈ attempts, attempt.obeys = true) (connects : Bool) :
    TakesAligned (pool.takeOrConnect key attempts connects) := by
  have hidle := tryIdle_aligned key pool.maxPerKey hobeys h
  unfold PgTcpIdlePool.takeOrConnect
  split
  · rename_i heq
    rw [heq] at hidle
    exact hidle
  · rename_i heq
    rw [heq] at hidle
    refine ⟨?_, hidle.probed, hidle.pool⟩
    intro s hs
    dsimp only at hs
    split at hs
    · cases hs
      rfl
    · cases hs

/-! ## Reading a stream -/

/-- What holds of a request under way: it has taken a beginning of its own answer, and what is pending on
    its session comes right after that. -/
structure Exchange.Good (ex : Exchange) : Prop where
  frames : ∀ f ∈ ex.answer, isFrame f = true
  ends : onlyLast (PgTcpWireStream.endsUnit ex.stream.stopBeforeReady) ex.answer = true
  split : ∃ left, ex.answer = ex.taken ++ left ∧ ∀ s, ex.stream.session = some s → s.unread <+: left.flatten
  /-- No ReadyForQuery has been seen yet. -/
  reading : ex.stream.done = false → ex.stream.readyStatus = none
  ended : ex.stream.done = true → ex.stream.session = none
  whole : ex.stream.done = true → ex.cut = false → ex.taken = ex.answer
  sublist : ex.given.Sublist ex.taken
  returned : ex.broken = false → ex.given = ex.taken

theorem noteReady_free {frames : List Frame} (h : free isReady frames = true) (status : Option UInt8) :
    frames.foldl PgTcpWireStream.noteReady status = status := by
  induction frames with
  | nil => rfl
  | cons f frames ih =>
    have hfirst : isReady f = false := free_iff.mp h f List.mem_cons_self
    have hnote : PgTcpWireStream.noteReady status f = status := by
      unfold PgTcpWireStream.noteReady
      rw [hfirst]
      rfl
    rw [List.foldl_cons, hnote]
    exact ih (free_iff.mpr fun g hg => free_iff.mp h g (List.mem_cons_of_mem f hg))

theorem free_ready_of_unit {stop : Bool} {frames : List Frame}
    (h : free (PgTcpWireStream.endsUnit stop) frames = true) : free isReady frames = true := by
  rw [free_iff] at h ⊢
  intro f hf
  exact (Bool.or_eq_false_iff.mp (h f hf)).1

theorem finishSession_some (h : st.session = some s) (now : Nat) (p : Places) :
    st.finishSession now p = ({ st with session := none }, st.giveBack now s p) := by
  unfold PgTcpWireStream.finishSession
  rw [h]

theorem batch_ofBatch (frames : List Frame) : (Poll.ofBatch frames).batch = frames := by
  unfold Poll.ofBatch
  split
  · rename_i hempty
    exact (List.isEmpty_iff.mp hempty).symm
  · rfl

/-- What the poll of a good exchange leaves behind. -/
def PollKeeps (ex : Exchange) (reads : List Read) (r : Poll × List Frame × PgTcpWireStream × Places) : Prop :=
  (ex.polled r.1 r.2.1 r.2.2.1 reads).Good ∧ r.2.2.2.Aligned

theorem polled_nothing (h : ex.Good) {poll : Poll} (hbatch : poll.batch = []) (reads : List Read) :
    (ex.polled poll [] ex.stream reads).Good := by
  obtain ⟨left, hall, hleft⟩ := h.split
  refine ⟨h.frames, h.ends, ⟨left, ?_, hleft⟩, h.reading, h.ended, ?_, ?_, ?_⟩
  · exact hall.trans (congrArg (· ++ left) (List.append_nil _).symm)
  · intro hdone hcut
    exact (List.append_nil _).trans (h.whole hdone (Bool.or_eq_false_iff.mp hcut).1)
  · show (ex.given ++ poll.batch).Sublist (ex.taken ++ [])
    rw [hbatch]
    exact h.sublist.append (List.Sublist.refl [])
  · intro hbroken
    show ex.given ++ poll.batch = ex.taken ++ []
    rw [hbatch, h.returned (Bool.or_eq_false_iff.mp hbroken).1]

theorem polled_midway (h : ex.Good) {reads : List Read} {poll : Poll} {frames : List Frame}
    (hdone : ex.stream.done = false)
    (hsplit : ∃ left, ex.answer = (ex.taken ++ frames) ++ left ∧ s.unread <+: left.flatten)
    (hfree : free (PgTcpWireStream.endsUnit ex.stream.stopBeforeReady) frames = true)
    (hpoll : poll.lost = true ∧ poll.batch = [] ∨ poll.batch = frames) : (ex.polled poll frames { ex.stream with
        session := some s
        readyStatus := frames.foldl PgTcpWireStream.noteReady ex.stream.readyStatus } reads).Good := by
  obtain ⟨left, hall, hleft⟩ := hsplit
  refine ⟨h.frames, h.ends, ⟨left, hall, ?_⟩, ?_, ?_, ?_, ?_, ?_⟩
  · rintro s' ⟨⟩
    exact hleft
  · intro _
    show frames.foldl PgTcpWireStream.noteReady ex.stream.readyStatus = none
    rw [noteReady_free (free_ready_of_unit hfree), h.reading hdone]
  · intro hnot
    cases hdone.symm.trans hnot
  · intro hnot
    cases hdone.symm.trans hnot
  · show (ex.given ++ poll.batch).Sublist (ex.taken ++ frames)
    rcases hpoll with ⟨_, hbatch⟩ | hbatch
    · rw [hbatch]
      exact h.sublist.append (List.nil_sublist frames)
    · rw [hbatch]
      exact h.sublist.append (List.Sublist.refl frames)
  · intro hbroken
    obtain ⟨hbefore, hlost⟩ := Bool.or_eq_false_iff.mp hbroken
    show ex.given ++ poll.batch = ex.taken ++ frames
    rcases hpoll with ⟨hpoll, _⟩ | hbatch
    · cases hpoll.symm.trans hlost
    · rw [hbatch, h.returned hbefore]

theorem polled_end (h : ex.Good) {reads : List Read} {frames : List Frame} {status : Option UInt8}
    (hsplit : ∃ left, ex.answer = (ex.taken ++ frames) ++ left)
    (hwhole : .eof ∉ reads → ex.taken ++ frames = ex.answer) : (ex.polled (.ofBatch frames) frames
      { ex.stream with session := none, done := true, readyStatus := status } reads).Good := by
  obtain ⟨left, hall⟩ := hsplit
  refine ⟨h.frames, h.ends, ⟨left, hall, by rintro _ ⟨⟩⟩, by rintro ⟨⟩, fun _ => rfl, ?_, ?_, ?_⟩
  · intro _ hcut
    obtain ⟨_, hreads⟩ := Bool.or_eq_false_iff.mp hcut
    refine hwhole ?_
    intro hmem
    cases hreads.symm.trans (List.contains_iff_mem.mpr hmem)
  · show (ex.given ++ (Poll.ofBatch frames).batch).Sublist (ex.taken ++ frames)
    rw [batch_ofBatch]
    exact h.sublist.append (List.Sublist.refl frames)
  · intro hbroken
    obtain ⟨hbefore, _⟩ := Bool.or_eq_false_iff.mp hbroken
    show ex.given ++ (Poll.ofBatch frames).batch = ex.taken ++ frames
    rw [batch_ofBatch, h.returned hbefore]

/-- **A poll takes the next frames of its own answer, and gives the session back with nothing unread.** -/
theorem pollPackets_keeps (h : ex.Good) (hp : p.Aligned) (now maxPackets : Nat) (reads : List Read) :
    PollKeeps ex reads (ex.stream.pollPackets now maxPackets reads p) := by
  unfold PgTcpWireStream.pollPackets
  split
  · exact ⟨polled_nothing h rfl reads, hp⟩
  · rename_i hnot
    have hdone : ex.stream.done = false := Bool.eq_false_iff.mpr hnot
    split
    · exact ⟨polled_nothing h rfl reads, hp⟩
    · rename_i s hsession
      dsimp only
      obtain ⟨left, hall, hleft⟩ := h.split
      have hframes : ∀ f ∈ left, isFrame f = true := by
        intro f hf
        refine h.frames f ?_
        rw [hall]
        exact List.mem_append_right _ hf
      have htakes : TakesFrames (PgTcpWireStream.endsUnit ex.stream.stopBeforeReady) left _ :=
        readFrames_takes (max maxPackets 1) hframes reads s (hleft s hsession)
      have hclosed := eof_of_closed (PgTcpWireStream.endsUnit ex.stream.stopBeforeReady)
        (max maxPackets 1) reads s
      generalize readFrames (PgTcpWireStream.endsUnit ex.stream.stopBeforeReady) (max maxPackets 1) reads s
        = r at htakes hclosed
      obtain ⟨frames, stop, s'⟩ := r
      obtain ⟨left', hleft', hunread⟩ := htakes.split
      have hrest : ex.answer = (ex.taken ++ frames) ++ left' := by
        rw [hall, hleft', List.append_assoc]
      have hmidway : ∃ left, ex.answer = (ex.taken ++ frames) ++ left ∧ s'.unread <+: left.flatten :=
        ⟨left', hrest, hunread⟩
      cases stop with
      | failed e =>
        exact ⟨polled_midway h hdone hmidway (htakes.unfound nofun) (.inl ⟨rfl, rfl⟩), hp⟩
      | waiting =>
        exact ⟨polled_midway h hdone hmidway (htakes.unfound nofun) (.inl ⟨rfl, rfl⟩), hp⟩
      | full =>
        exact ⟨polled_midway h hdone hmidway (htakes.unfound nofun) (.inr (batch_ofBatch frames)), hp⟩
      | found =>
        obtain ⟨before, f, hbefore, hf⟩ := htakes.found rfl
        dsimp only at hbefore
        -- behind the frame that ends the unit there is nothing
        have hends := h.ends
        rw [hrest, hbefore, ← List.append_assoc, List.append_assoc, List.singleton_append] at hends
        obtain rfl := rest_nil_of_onlyLast hends hf
        have hwhole : ex.taken ++ frames = ex.answer := by
          rw [hrest, List.append_nil]
        refine ⟨polled_end h ⟨[], hrest⟩ fun _ => hwhole, ?_⟩
        exact giveBack_aligned hp now (.inl (List.prefix_nil.mp hunread))
      | closed =>
        refine ⟨polled_end h ⟨left', hrest⟩ ?_, ?_⟩
        · intro hnone
          exact absurd (hclosed rfl) hnone
        · exact giveBack_aligned hp now (.inl (htakes.closed rfl))

/-! ## Runs -/

structure World.Good (w : World) : Prop where
  places : w.places.Aligned
  held : ∀ hand s, w.held hand = some s → s.unread = []
  relays : ∀ id ex, w.relays id = some ex → ex.Good
  probed : ∀ p ∈ w.probed, p.Faithful

theorem start_good (config : Nat → PoolConfig) : (World.start config).Good :=
  ⟨⟨fun _ _ => nofun, nofun⟩, nofun, nofun, nofun⟩

theorem update_held (h : w.Good) (hand : Nat) {s : Option PgTcpSession} (hs : ∀ s', s = some s' → s'.unread = []) :
    ∀ other s', Function.update w.held hand s other = some s' → s'.unread = [] := by
  rw [Function.forall_update_iff w.held fun _ s => ∀ s', s = some s' → s'.unread = []]
  exact ⟨hs, fun other _ => h.held other⟩

theorem update_relays (h : w.Good) (id : Nat) {ex : Option Exchange} (hex : ∀ ex', ex = some ex' → ex'.Good) :
    ∀ other ex', Function.update w.relays id ex other = some ex' → ex'.Good := by
  rw [Function.forall_update_iff w.relays fun _ ex => ∀ ex', ex = some ex' → ex'.Good]
  exact ⟨hex, fun other _ => h.relays other⟩

theorem relayInto_good {request : Request} (hsingle : request.single = true) (hs : s.unread = [])
    {replies : List (List Frame)} (hobeys : conforms false request.messages replies = true)
    {returnTo : SessionReturn} {unsent : Option Unsent}
    (h : request.relayInto s returnTo unsent replies.flatten = .ok st) :
    (⟨st, replies.flatten, [], [], false, false⟩ : Exchange).Good := by
  unfold Request.relayInto at h
  split at h
  · cases h
  · cases h
  · cases h
    refine ⟨isFrame_of_conforms hobeys, onlyLast_endsUnit hsingle hobeys, ⟨replies.flatten, rfl, ?_⟩,
      fun _ => rfl, nofun, nofun, List.Sublist.refl [], fun _ => rfl⟩
    rintro s' ⟨⟩
    exact unread_send hs replies.flatten

theorem drop_aligned (h : ex.Good) (hmay : ex.mayDrop = true) (hp : p.Aligned) (now : Nat) :
    (ex.stream.finishSession now p).2.Aligned := by
  unfold Exchange.mayDrop at hmay
  cases hsession : ex.stream.session with
  | none =>
    unfold PgTcpWireStream.finishSession
    rw [hsession]
    exact hp
  | some s =>
    rw [finishSession_some hsession]
    rw [hsession] at hmay
    refine giveBack_aligned hp now ?_
    rcases Bool.or_eq_true_iff.mp hmay with hfixed | hempty
    · -- not done, so no ReadyForQuery has been seen
      have hdone : ex.stream.done = false := by
        cases hdone : ex.stream.done with
        | false => rfl
        | true => exact absurd (hsession.symm.trans (h.ended hdone)) nofun
      have hnot : ex.stream.returnTo.fixed = false := by
        cases hreturn : ex.stream.returnTo.fixed with
        | false => rfl
        | true =>
          rw [hreturn] at hfixed
          cases hfixed
      exact .inr ⟨hnot, h.reading hdone⟩
    · exact .inl (List.isEmpty_iff.mp hempty)

/-- **Every clean step keeps the sessions aligned.** -/
theorem step_good (w : World) (act : Act) (h : w.Good)
    (hok : Obeys w act = true ∧ Clean w act = true) : (step w act).2.Good := by
  obtain ⟨hobeys, hclean⟩ := hok
  cases act with
  | connect hand =>
    refine ⟨h.places, update_held h hand ?_, h.relays, h.probed⟩
    rintro s ⟨⟩
    rfl
  | takeOrConnect hand pool key attempts connects =>
    have htakes := takeOrConnect_aligned (h.places.pools pool) key (List.all_eq_true.mp hobeys) connects
    refine ⟨setPool_aligned h.places pool htakes.pool, update_held h hand htakes.session, h.relays, ?_⟩
    intro p hp
    rcases List.mem_append.mp hp with hp | hp
    · exact h.probed p hp
    · exact htakes.probed p hp
  | takeSlot hand slot =>
    exact ⟨setSlot_aligned h.places slot nofun, update_held h hand (h.places.slots slot), h.relays, h.probed⟩
  | storeSlot hand slot =>
    exact ⟨setSlot_aligned h.places slot (h.held hand), update_held h hand nofun, h.relays, h.probed⟩
  | discard hand => exact ⟨h.places, update_held h hand nofun, h.relays, h.probed⟩
  | relay hand id request returnTo unsent replies =>
    rw [step]
    split
    · rename_i s hheld _
      have hempty := update_held h hand (s := none) nofun
      dsimp only
      split
      · rename_i st hrelay
        refine ⟨h.places, hempty, update_relays h id ?_, h.probed⟩
        rintro ex ⟨⟩
        exact relayInto_good hclean (h.held hand s hheld) hobeys hrelay
      · exact ⟨h.places, hempty, h.relays, h.probed⟩
    · exact h
  | poll id now maxPackets reads =>
    rw [step]
    split
    · exact h
    · rename_i ex hrelay
      obtain ⟨hex, hplaces⟩ := pollPackets_keeps (h.relays id ex hrelay) h.places now maxPackets reads
      refine ⟨hplaces, h.held, update_relays h id ?_, h.probed⟩
      rintro ex' ⟨⟩
      exact hex
  | drop id now =>
    unfold Clean at hclean
    dsimp only at hclean
    rw [step]
    split
    · exact h
    · rename_i ex hrelay
      rw [hrelay] at hclean
      exact ⟨drop_aligned (h.relays id ex hrelay) hclean h.places now, h.held, update_relays h id nofun, h.probed⟩
  | purgeExpired pool now =>
    refine ⟨setPool_aligned h.places pool ?_, h.held, h.relays, h.probed⟩
    intro key entry hentry
    exact h.places.pools pool key entry (List.mem_filter.mp hentry).1

/-- What a stream returned is of its own answer. -/
structure Exchange.Faithful (ex : Exchange) : Prop where
  own : ex.given.Sublist ex.answer
  inOrder : ex.broken = false → ex.given <+: ex.answer
  whole : ex.broken = false → ex.stream.done = true → ex.cut = false → ex.given = ex.answer

theorem Exchange.Good.faithful (h : ex.Good) : ex.Faithful := by
  obtain ⟨left, hall, _⟩ := h.split
  have htaken : ex.taken <+: ex.answer := ⟨left, hall.symm⟩
  refine ⟨h.sublist.trans htaken.sublist, ?_, ?_⟩
  · intro hbroken
    rw [h.returned hbroken]
    exact htaken
  · intro hbroken hdone hcut
    rw [h.returned hbroken, h.whole hdone hcut]

/-- **In every run of clean steps no pooled session has unread bytes, and every query gets its own answer.** -/
theorem sessions_stay_aligned (config : Nat → PoolConfig) (acts : List Act)
    (hobeys : Meets step (fun w act => Obeys w act = true) (World.start config) acts)
    (hclean : Meets step (fun w act => Clean w act = true) (World.start config) acts) :
    let w := final step (World.start config) acts
    (∀ pool key, ∀ entry ∈ (w.places.pools pool).idle key, entry.session.unread = []) ∧
      (∀ slot s, w.places.slots slot = some s → s.unread = []) ∧
      (∀ hand s, w.held hand = some s → s.unread = []) ∧
      (∀ id ex, w.relays id = some ex → ex.Faithful) ∧
      ∀ p ∈ w.probed, p.Faithful := by
  have hboth : Meets step (fun w act => Obeys w act = true ∧ Clean w act = true) (World.start config)
      acts := fun e he => ⟨hobeys e he, hclean e he⟩
  have hgood : (final step (World.start config) acts).Good := inv_final World.Good step_good (start_good config) hboth
  exact ⟨hgood.places.pools, hgood.places.slots, hgood.held,
    fun id ex hex => (hgood.relays id ex hex).faithful, hgood.probed⟩

/-- The two clients of `leak`, with the first one reading to the end. -/
def reuse : List Act :=
  [.takeOrConnect 0 0 "db" [] true,
    .relay 0 0 (.extendedTextBind "SELECT salary" []) (.idle 0 "db") none (oneRowExtended [7]),
    .poll 0 0 64 [.bytes 3, .bytes 64],
    .drop 0 0,
    .takeOrConnect 1 0 "db" [⟨1, none, oneRow [1], [.bytes 64]⟩] true,
    .relay 1 1 (.extendedTextBind "SELECT name" []) (.idle 0 "db") none (oneRowExtended [9]),
    .poll 1 2 64 [.bytes 64]]

theorem reused_session_aligned : ((final step (World.start onePool) reuse).relays 1).map (·.given) =
        some (oneRowExtended [9]).flatten ∧
      ∀ pool key, ∀ entry ∈ ((final step (World.start onePool) reuse).places.pools pool).idle key,
        entry.session.unread = [] := by
  have hobeys : Meets step (fun w act => Obeys w act = true) (World.start onePool) reuse := by
    unfold Meets
    decide
  have hclean : Meets step (fun w act => Clean w act = true) (World.start onePool) reuse := by
    unfold Meets
    decide
  exact ⟨by decide, (sessions_stay_aligned onePool reuse hobeys hclean).1⟩

end DataNexus.Wire
