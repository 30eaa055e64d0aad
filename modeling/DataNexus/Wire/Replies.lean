/-
  What a PostgreSQL backend answers, message by message, and where the answer to a request ends.

  A Query, a function call and a Sync are answered up to ReadyForQuery; an Execute ends with CommandComplete,
  PortalSuspended or ErrorResponse; the other messages of the extended protocol end with neither; after an error everything
  up to the next Sync is passed over.

  * `onlyLast_ready` — a request whose last message alone is answered with ReadyForQuery has it at the end only;
  * `onlyLast_page` — a request with one Execute, and nothing after it that is answered, has the end of a page at the end of
    the answer only.
-/
import DataNexus.Wire.Relay

namespace DataNexus.Wire

open DataNexus.Frames

/-! ## Replies -/

inductive Asks where
  /-- Query, function call, Sync. -/
  | ready
  /-- Execute, and the end of a COPY. -/
  | page
  /-- Parse, Bind, Describe, Close. -/
  | word
  /-- Flush and all others. -/
  | nothing
deriving DecidableEq

def tagIn (chars : List Char) (tag : Option UInt8) : Bool := chars.any fun c => tag == some (UInt8.ofNat c.toNat)

def Message.asks (m : Message) : Asks :=
  if tagIn ['Q', 'F', 'S'] m.tag then .ready
  else if tagIn ['E', 'c', 'f'] m.tag then .page
  else if tagIn ['P', 'B', 'D', 'C'] m.tag then .word
  else .nothing

def completes (f : Frame) : Bool := hasTag 'C' f || hasTag 's' f

/-- The reply is one that the protocol allows for the message; `skipping`: an error has not been synced
    yet. -/
def replyFits (skipping : Bool) (reply : List Frame) : Asks → Bool
  | .ready => onlyLast isReady reply
  | .page => free isReady reply && onlyLast endsPage reply && (!skipping || reply.isEmpty)
  | .word =>
    free isReady reply && free completes reply && onlyLast endsPage reply &&
      (!skipping || reply.isEmpty)
  | .nothing => reply.isEmpty

def skipsAfter (skipping : Bool) (reply : List Frame) : Asks → Bool
  | .ready => false
  | _ => skipping || reply.any (hasTag 'E')

/-- The replies are those of a backend to the messages, one for each. -/
def conforms : Bool → List Message → List (List Frame) → Bool
  | _, [], [] => true
  | skipping, m :: messages, reply :: replies =>
    reply.all isFrame && replyFits skipping reply m.asks &&
      conforms (skipsAfter skipping reply m.asks) messages replies
  | _, _, _ => false

variable {skipping : Bool}

theorem conforms_cons {m : Message} {messages : List Message} {replies : List (List Frame)}
    (h : conforms skipping (m :: messages) replies = true) :
    ∃ reply rest, replies = reply :: rest ∧ reply.all isFrame = true ∧ replyFits skipping reply m.asks = true ∧
      conforms (skipsAfter skipping reply m.asks) messages rest = true := by
  cases replies with
  | nil => cases h
  | cons reply rest =>
    rw [conforms, Bool.and_eq_true, Bool.and_eq_true] at h
    exact ⟨reply, rest, rfl, h.1.1, h.1.2, h.2⟩

theorem conforms_nil {replies : List (List Frame)} (h : conforms skipping [] replies = true) : replies = [] := by
  cases replies with
  | nil => rfl
  | cons reply rest => cases h

theorem isFrame_of_conforms {messages : List Message} {replies : List (List Frame)}
    (h : conforms skipping messages replies = true) : ∀ f ∈ replies.flatten, isFrame f = true := by
  induction messages generalizing skipping replies with
  | nil =>
    obtain rfl := conforms_nil h
    nofun
  | cons m messages ih =>
    obtain ⟨reply, rest, rfl, hframes, _, hrest⟩ := conforms_cons h
    intro f hf
    rw [List.flatten_cons, List.mem_append] at hf
    rcases hf with hf | hf
    · exact List.all_eq_true.mp hframes f hf
    · exact ih hrest f hf

/-! ## One ReadyForQuery -/

/-- No message but the last is answered with ReadyForQuery. -/
def readyLast (messages : List Message) : Bool := onlyLast (fun m => m.asks == .ready) messages

theorem free_ready {reply : List Frame} {asks : Asks} (hasks : asks ≠ .ready)
    (h : replyFits skipping reply asks = true) : free isReady reply = true := by
  cases asks with
  | ready => exact absurd rfl hasks
  | page =>
    rw [replyFits, Bool.and_eq_true, Bool.and_eq_true] at h
    exact h.1.1
  | word =>
    rw [replyFits, Bool.and_eq_true, Bool.and_eq_true, Bool.and_eq_true] at h
    exact h.1.1.1
  | nothing =>
    rw [List.isEmpty_iff.mp h]
    rfl

theorem onlyLast_ready {messages : List Message} {replies : List (List Frame)}
    (hlast : readyLast messages = true) (h : conforms skipping messages replies = true) :
    onlyLast isReady replies.flatten = true := by
  induction messages generalizing skipping replies with
  | nil =>
    obtain rfl := conforms_nil h
    rfl
  | cons m messages ih =>
    obtain ⟨reply, rest, rfl, _, hfits, hrest⟩ := conforms_cons h
    rw [readyLast, onlyLast, Bool.and_eq_true] at hlast
    rw [List.flatten_cons]
    by_cases hm : m.asks = .ready
    · -- the last message: nothing is answered after it
      have hnone : messages = [] := by
        have hfirst := hlast.1
        rw [hm] at hfirst
        exact List.isEmpty_iff.mp hfirst
      rw [hnone] at hrest
      obtain rfl := conforms_nil hrest
      rw [hm] at hfits
      rw [List.flatten_nil, List.append_nil]
      exact hfits
    · exact onlyLast_append (free_ready hm hfits) (ih hlast.2 hrest)

/-! ## One page -/

/-- At most one message is an Execute, and nothing that is answered comes after it. -/
def pageLast : List Message → Bool
  | [] => true
  | m :: messages =>
    match m.asks with
    | .ready => false
    | .page => messages.all fun m => m.asks == .nothing
    | .word => pageLast messages
    | .nothing => pageLast messages

theorem flatten_nothing {messages : List Message} {replies : List (List Frame)}
    (hnothing : (messages.all fun m => m.asks == .nothing) = true)
    (h : conforms skipping messages replies = true) : replies.flatten = [] := by
  induction messages generalizing skipping replies with
  | nil =>
    obtain rfl := conforms_nil h
    rfl
  | cons m messages ih =>
    obtain ⟨reply, rest, rfl, _, hfits, hrest⟩ := conforms_cons h
    rw [List.all_cons, Bool.and_eq_true] at hnothing
    rw [beq_iff_eq.mp hnothing.1] at hfits
    rw [List.flatten_cons, List.isEmpty_iff.mp hfits, ih hnothing.2 hrest]
    rfl

theorem flatten_skipping {messages : List Message} {replies : List (List Frame)}
    (hpage : pageLast messages = true) (h : conforms true messages replies = true) : replies.flatten = [] := by
  induction messages generalizing replies with
  | nil =>
    obtain rfl := conforms_nil h
    rfl
  | cons m messages ih =>
    obtain ⟨reply, rest, rfl, _, hfits, hrest⟩ := conforms_cons h
    rw [List.flatten_cons]
    unfold pageLast at hpage
    cases hm : m.asks with
    | ready =>
      rw [hm] at hpage
      cases hpage
    | page =>
      rw [hm] at hpage hfits
      rw [replyFits, Bool.and_eq_true] at hfits
      rw [List.isEmpty_iff.mp hfits.2, flatten_nothing hpage hrest]
      rfl
    | word =>
      rw [hm] at hpage hfits hrest
      rw [replyFits, Bool.and_eq_true] at hfits
      rw [List.isEmpty_iff.mp hfits.2, ih hpage hrest]
      rfl
    | nothing =>
      rw [hm] at hpage hfits hrest
      rw [List.isEmpty_iff.mp hfits, ih hpage hrest]
      rfl

theorem free_endsPage {reply : List Frame} (hcompletes : free completes reply = true)
    (herror : reply.any (hasTag 'E') = false) : free endsPage reply = true := by
  rw [free_iff] at hcompletes ⊢
  rw [List.any_eq_false] at herror
  intro f hf
  have hnot : hasTag 'E' f = false := Bool.eq_false_iff.mpr (herror f hf)
  have hcomplete := hcompletes f hf
  unfold completes at hcomplete
  unfold endsPage
  rw [hcomplete, hnot]
  rfl

theorem onlyLast_page {messages : List Message} {replies : List (List Frame)} (hpage : pageLast messages = true)
    (h : conforms skipping messages replies = true) :
    free isReady replies.flatten = true ∧ onlyLast endsPage replies.flatten = true := by
  induction messages generalizing skipping replies with
  | nil =>
    obtain rfl := conforms_nil h
    exact ⟨rfl, rfl⟩
  | cons m messages ih =>
    obtain ⟨reply, rest, rfl, _, hfits, hrest⟩ := conforms_cons h
    rw [List.flatten_cons]
    unfold pageLast at hpage
    cases hm : m.asks with
    | ready =>
      rw [hm] at hpage
      cases hpage
    | page =>
      rw [hm] at hpage hfits
      rw [flatten_nothing hpage hrest, List.append_nil]
      rw [replyFits, Bool.and_eq_true, Bool.and_eq_true] at hfits
      exact hfits.1
    | word =>
      rw [hm] at hpage hfits hrest
      rw [replyFits, Bool.and_eq_true, Bool.and_eq_true, Bool.and_eq_true] at hfits
      obtain ⟨⟨⟨hready, hcompletes⟩, hends⟩, _⟩ := hfits
      cases herror : reply.any (hasTag 'E') with
      | true =>
        -- the error ends the page: the rest is passed over
        have hskip : skipsAfter skipping reply .word = true := by
          show (skipping || reply.any (hasTag 'E')) = true
          rw [herror, Bool.or_true]
        rw [hskip] at hrest
        rw [flatten_skipping hpage hrest, List.append_nil]
        exact ⟨hready, hends⟩
      | false =>
        obtain ⟨hreadyRest, hendsRest⟩ := ih hpage hrest
        exact ⟨free_append hready hreadyRest, onlyLast_append (free_endsPage hcompletes herror) hendsRest⟩
    | nothing =>
      rw [hm] at hpage hfits hrest
      rw [List.isEmpty_iff.mp hfits, List.nil_append]
      exact ih hpage hrest

/-! ## Requests -/

/-- The messages of the request have one answer with one end: Query, Sync and Execute come last. -/
def Request.single (request : Request) : Bool :=
  if request.stopBeforeReady then pageLast request.messages else readyLast request.messages

/-- **The answer to a single request ends where its stream ends, and only there.** -/
theorem onlyLast_endsUnit {request : Request} (hsingle : request.single = true)
    {replies : List (List Frame)} (h : conforms false request.messages replies = true) :
    onlyLast (PgTcpWireStream.endsUnit request.stopBeforeReady) replies.flatten = true := by
  unfold Request.single at hsingle
  split at hsingle
  · rename_i hstop
    obtain ⟨hready, hpage⟩ := onlyLast_page hsingle h
    rw [hstop]
    refine onlyLast_of_agree ?_ hpage
    intro f hf
    unfold PgTcpWireStream.endsUnit
    rw [free_iff.mp hready f hf]
    rfl
  · rename_i hstop
    rw [Bool.eq_false_iff.mpr hstop]
    refine onlyLast_of_agree ?_ (onlyLast_ready hsingle h)
    intro f _
    exact Bool.or_false _

end DataNexus.Wire
