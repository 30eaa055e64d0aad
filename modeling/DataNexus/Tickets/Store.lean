/-
  The approval-ticket store (`gateway/core/src/ticket.rs`).

  A ticket authorises ONE statement text, up to its fingerprint, for one subject.  The data plane names it in a leading
  comment (`/*dn_ticket:ID*/`) and the store is asked to `consume` a use.  With dual control a ticket is born `pending`.

  Choices: the map is an association list (`AList`), `now` is an argument, `seq` is a `Nat`.  `persist` writes the file
  backend; its result is dropped by every operation.  `sql[2..end]` panics on a text that starts with `/*/`: the scanners
  answer `none` there and the operations `panicked`, before the map is locked.
-/
import DataNexus.Lib.Text
import Mathlib.Data.List.AList

namespace DataNexus.Tickets

open DataNexus.Text

/-! ## Scanning SQL text for tickets -/

/-- `strip_ticket_comment`: drop one leading ticket comment; any other text is returned as it is. -/
def stripTicketComment (sql : String) : Option String :=
  let s := trimStart sql.toList
  if startsWith "/*".toList s then
    match find "*/".toList s with
    | none => some sql
    | some stop =>
      (slice 2 stop s).map fun inner =>
        let body := toAsciiLowercase inner
        if contains "dn_ticket".toList body || contains "data_nexus_ticket".toList body then
          String.ofList (trimStart (s.drop (stop + 2)))
        else sql
  else some sql

/-- The loop body of `sql_fingerprint`: collapse white space, lower-case the rest. -/
def fingerprintStep (acc : List Char × Bool) (ch : Char) : List Char × Bool :=
  if isWhitespace ch then
    if !acc.2 && !acc.1.isEmpty then (acc.1 ++ [' '], true) else acc
  else (acc.1 ++ [ch.toLower], false)

/-- `sql_fingerprint`: normalise SQL for ticket binding. -/
def sqlFingerprint (sql : String) : Option String :=
  (stripTicketComment sql).map fun stripped =>
    let out := (stripped.toList.foldl fingerprintStep ([], false)).1
    String.ofList (trim (trimEndMatches (· == ';') (trim out)))

/-- The `for prefix in [...]` loop of `extract_ticket_id`.  A prefix that matches always ends the
    search: with an id, or (through `?` on the empty rest) without one.  `none` means that no prefix
    matched. -/
def ticketIdByPrefix (body : List Char) : List String → Option (Option String)
  | [] => none
  | pre :: more =>
    if startsWith pre.toList (toAsciiLowercase body) then
      some ((firstWord (body.drop pre.length)).map String.ofList)
    else ticketIdByPrefix body more

/-- `extract_ticket_id`.  The outer `none` is the panic of `s[2..end]`. -/
def extractTicketId (sql : String) : Option (Option String) :=
  let s := trimStart sql.toList
  if !startsWith "/*".toList s then some none
  else match find "*/".toList s with
    | none => some none
    | some stop =>
      (slice 2 stop s).map fun inner =>
        let body := trim (trimStartMatches (· == '+') (trim inner))
        match ticketIdByPrefix body ["dn_ticket:", "data_nexus_ticket:", "dn_ticket="] with
        | some answer => answer
        | none =>
          match find "dn_ticket".toList (toAsciiLowercase body) with
          | none => none
          | some pos =>
            let rest := trimStart (body.drop (pos + "dn_ticket".length))
            let rest := trimStart (trimStartMatches (fun c => c == ':' || c == '=') rest)
            (firstWord rest).map String.ofList

/-- The scanning loop of `contains_top_level_keyword` over the upper-cased text: `prev` is the
    character before the current position, `depth` the parenthesis depth. -/
def topLevelKeywordFrom (key : List Char) : Option Char → Int → List Char → Bool
  | _, _, [] => false
  | prev, depth, c :: rest =>
    if c = '(' then topLevelKeywordFrom key (some c) (depth + 1) rest
    else if c = ')' then topLevelKeywordFrom key (some c) (depth - 1) rest
    else if depth = 0 ∧ startsWith key (c :: rest) ∧
        (prev.all fun p => !p.isAlphanum) ∧
        (((c :: rest).drop key.length).head?.all fun a => !a.isAlphanum) then true
    else topLevelKeywordFrom key (some c) depth rest

def containsTopLevelKeyword (sql keyword : String) : Bool :=
  topLevelKeywordFrom (toAsciiUppercase keyword.toList) none 0 (toAsciiUppercase sql.toList)

/-- `is_write_without_where`: UPDATE/DELETE without a top-level WHERE. -/
def isWriteWithoutWhere (sql : String) : Option Bool :=
  (stripTicketComment sql).map fun s =>
    let upper := toAsciiUppercase (trimStart s.toList)
    if !(startsWith "UPDATE".toList upper || startsWith "DELETE".toList upper) then false
    else !containsTopLevelKeyword s "WHERE"

/-! ## The record -/

inductive TicketStatus where
  /-- Waiting for a second approver (dual control only). -/
  | pending
  /-- Usable by the data plane. -/
  | active
  | rejected
deriving DecidableEq

structure Ticket where
  id : String
  ticketType : String
  subjectId : String
  sqlFingerprint : String
  sqlSample : Option String
  issuedAtUnixMs : Nat
  expiresAtUnixMs : Nat
  maxUses : Nat
  uses : Nat
  issuedBy : Option String
  note : Option String
  dualControl : Bool
  status : TicketStatus
  approvedBy : Option String
  approvedAtUnixMs : Option Nat
  rejectedBy : Option String
  rejectReason : Option String
deriving DecidableEq

def Ticket.isExpired (t : Ticket) (nowMs : Nat) : Bool := nowMs > t.expiresAtUnixMs

/-- `Ticket::remaining_uses` (`saturating_sub`). -/
def Ticket.remainingUses (t : Ticket) : Nat := t.maxUses - t.uses

def Ticket.isConsumable (t : Ticket) (nowMs : Nat) : Except String Unit :=
  if t.isExpired nowMs then .error ("ticket '" ++ t.id ++ "' expired")
  else match t.status with
    | .pending =>
      .error ("ticket '" ++ t.id ++ "' is pending dual-control approval (POST /admin/tickets/" ++
        t.id ++ "/approve)")
    | .rejected => .error ("ticket '" ++ t.id ++ "' was rejected")
    | .active =>
      if t.remainingUses = 0 then .error ("ticket '" ++ t.id ++ "' has no remaining uses")
      else .ok ()

structure IssueTicketRequest where
  subjectId : String
  sql : String
  ticketType : String
  ttlSecs : Nat
  maxUses : Nat
  note : Option String
  issuedBy : Option String
  dualControl : Bool
deriving DecidableEq

def defaultTicketType : String := "high_risk"

/-- `u64::saturating_add` / `u64::saturating_mul`: the result, capped at `u64::MAX`. -/
def saturate (n : Nat) : Nat := min n (2 ^ 64 - 1)

/-! ## The store -/

/-- `TicketStore`: the map and the sequence counter. -/
structure TicketStore where
  inner : AList (fun _ : String => Ticket)
  seq : Nat

def TicketStore.new : TicketStore := ⟨∅, 1⟩

def TicketStore.get (store : TicketStore) (id : String) : Option Ticket := store.inner.lookup id

/-- `format!("tkt-{}-{}", now, seq)`. -/
def ticketId (now seq : Nat) : String := "tkt-" ++ toString now ++ "-" ++ toString seq

/-- The record `issue` builds, from the fingerprint and the sample text. -/
def freshTicket (now seq : Nat) (req : IssueTicketRequest) (fp sample : String) : Ticket where
  id := ticketId now seq
  ticketType := if (trim req.ticketType.toList).isEmpty then defaultTicketType else req.ticketType
  subjectId := req.subjectId
  sqlFingerprint := fp
  sqlSample := some sample
  issuedAtUnixMs := now
  expiresAtUnixMs := saturate (now + saturate (req.ttlSecs * 1000))
  maxUses := max req.maxUses 1
  uses := 0
  issuedBy := req.issuedBy
  note := req.note
  dualControl := req.dualControl
  status := if req.dualControl then .pending else .active
  approvedBy := none
  approvedAtUnixMs := none
  rejectedBy := none
  rejectReason := none

inductive Answer where
  /-- `issue` returned this ticket. -/
  | issued (t : Ticket)
  /-- `approve`, `reject`, `revoke` or `consume` returned this result. -/
  | result (r : Except String Ticket)
  /-- `prune_expired` removed this many. -/
  | pruned (removed : Nat)
  /-- The call panicked while scanning the SQL text. -/
  | panicked
deriving DecidableEq

/-- `TicketStore::issue`.  The sequence number is drawn before the text is scanned. -/
def TicketStore.issue (store : TicketStore) (now : Nat) (req : IssueTicketRequest) : Answer × TicketStore :=
  match sqlFingerprint req.sql, stripTicketComment req.sql with
  | some fp, some sample =>
    let ticket := freshTicket now store.seq req fp sample
    (.issued ticket, ⟨store.inner.insert ticket.id ticket, store.seq + 1⟩)
  | _, _ => (.panicked, { store with seq := store.seq + 1 })

/-- The shape shared by `approve`, `reject` and `consume`: `get_mut` the ticket, check it, change it
    in place, answer the changed record.  An error leaves before anything is written. -/
def TicketStore.update (store : TicketStore) (ticketId : String)
    (change : Ticket → Except String Ticket) : Except String Ticket × TicketStore :=
  match store.get ticketId with
  | none => (.error ("ticket '" ++ ticketId ++ "' not found"), store)
  | some ticket =>
    match change ticket with
    | .error e => (.error e, store)
    | .ok ticket' => (.ok ticket', { store with inner := store.inner.insert ticketId ticket' })

/-- The checks and the assignment of `approve`, on the ticket found. -/
def approveTicket (ticketId approver : String) (now : Nat) (ticket : Ticket) : Except String Ticket :=
  if ticket.isExpired now then .error ("ticket '" ++ ticketId ++ "' expired")
  else if !ticket.dualControl then
    .error ("ticket '" ++ ticketId ++ "' is not dual-control (already active on issue)")
  else match ticket.status with
    | .active => .error ("ticket '" ++ ticketId ++ "' is already active")
    | .rejected => .error ("ticket '" ++ ticketId ++ "' was rejected")
    | .pending =>
      match ticket.issuedBy with
      | some issuer =>
        if eqIgnoreAsciiCase issuer approver then
          .error ("ticket '" ++ ticketId ++
            "' dual-control: approver must differ from issuer '" ++ issuer ++ "'")
        else .ok { ticket with
          status := .active, approvedBy := some approver, approvedAtUnixMs := some now }
      | none => .ok { ticket with
          status := .active, approvedBy := some approver, approvedAtUnixMs := some now }

def TicketStore.approve (store : TicketStore) (now : Nat) (ticketId approvedBy : String) :
    Except String Ticket × TicketStore :=
  let approver := trim approvedBy.toList
  if approver.isEmpty then (.error "approved_by is required", store)
  else store.update ticketId (approveTicket ticketId (String.ofList approver) now)

/-- The checks and the assignment of `reject`, on the ticket found. -/
def rejectTicket (ticketId rejector : String) (reason : Option String) (ticket : Ticket) : Except String Ticket :=
  if ticket.uses > 0 then
    .error ("ticket '" ++ ticketId ++ "' already consumed and cannot be rejected")
  else match ticket.status with
    | .rejected => .error ("ticket '" ++ ticketId ++ "' already rejected")
    | _ => .ok { ticket with
        status := .rejected, rejectedBy := some rejector, rejectReason := reason }

def TicketStore.reject (store : TicketStore) (ticketId rejectedBy : String)
    (reason : Option String) : Except String Ticket × TicketStore :=
  let rejector := trim rejectedBy.toList
  if rejector.isEmpty then (.error "rejected_by is required", store)
  else store.update ticketId (rejectTicket ticketId (String.ofList rejector) reason)

/-- `TicketStore::revoke`: an alias of `reject`. -/
def TicketStore.revoke (store : TicketStore) (ticketId revokedBy : String)
    (reason : Option String) : Except String Ticket × TicketStore :=
  store.reject ticketId revokedBy reason

def TicketStore.pruneExpired (store : TicketStore) (now : Nat) : Nat × TicketStore :=
  let kept := store.inner.entries.filter fun entry => !entry.2.isExpired now
  (store.inner.entries.length - kept.length,
    { store with
      inner := ⟨kept, List.NodupKeys.sublist List.filter_sublist store.inner.nodupKeys⟩ })

/-- `expected_type` is compared only when it is given and not empty. -/
def typeMatches (ticket : Ticket) (expectedType : Option String) : Bool :=
  match expectedType with
  | none => true
  | some tt => tt.isEmpty || eqIgnoreAsciiCase ticket.ticketType tt

/-- The checks and the increment of `consume`, on the ticket found. -/
def consumeTicket (ticketId subjectId fp : String) (expectedType : Option String) (now : Nat)
    (ticket : Ticket) : Except String Ticket :=
  match ticket.isConsumable now with
  | .error e => .error e
  | .ok () =>
    if !eqIgnoreAsciiCase ticket.subjectId subjectId then
      .error ("ticket '" ++ ticketId ++ "' subject mismatch (expected " ++ ticket.subjectId ++
        ", got " ++ subjectId ++ ")")
    else if !typeMatches ticket expectedType then
      .error ("ticket '" ++ ticketId ++ "' type mismatch (expected " ++ expectedType.getD "" ++
        ", got " ++ ticket.ticketType ++ ")")
    else if ticket.sqlFingerprint ≠ fp then
      .error ("ticket '" ++ ticketId ++ "' SQL fingerprint mismatch (re-issue for this statement)")
    else .ok { ticket with uses := ticket.uses + 1 }

/-- `TicketStore::consume`.  `none` is a panic of `sql_fingerprint`, before the map is locked. -/
def TicketStore.consume (store : TicketStore) (now : Nat) (ticketId subjectId sql : String)
    (expectedType : Option String) : Option (Except String Ticket) × TicketStore :=
  match sqlFingerprint sql with
  | none => (none, store)
  | some fp =>
    let r := store.update ticketId (consumeTicket ticketId subjectId fp expectedType now)
    (some r.1, r.2)

/-! ## What one operation does to the map -/

/-- What `update` does: it fails and keeps the store, or it replaces the one ticket found. -/
theorem update_cases (store : TicketStore) (id : String) (change : Ticket → Except String Ticket) :
    (∃ e, store.update id change = (.error e, store)) ∨ (∃ t t', store.get id = some t ∧ change t = .ok t' ∧
      store.update id change = (.ok t', { store with inner := store.inner.insert id t' })) := by
  unfold TicketStore.update
  cases hget : store.get id with
  | none => exact Or.inl ⟨_, rfl⟩
  | some t =>
    cases hc : change t with
    | error e => exact Or.inl ⟨e, by simp [hc]⟩
    | ok t' => exact Or.inr ⟨t, t', rfl, hc, by simp [hc]⟩

theorem get_insert (store : TicketStore) (seq : Nat) (id id' : String) (t : Ticket) :
    TicketStore.get ⟨store.inner.insert id t, seq⟩ id' =
      if id' = id then some t else store.get id' := by
  unfold TicketStore.get
  by_cases h : id' = id
  · subst h; simp
  · simp [h, AList.lookup_insert_ne h]

theorem get_pruneExpired (store : TicketStore) (now : Nat) (id : String) :
    (store.pruneExpired now).2.get id = store.get id ∨ (store.pruneExpired now).2.get id = none := by
  cases hafter : (store.pruneExpired now).2.get id with
  | none => exact Or.inr rfl
  | some t =>
    refine Or.inl ?_
    have hmem : (⟨id, t⟩ : Sigma fun _ : String => Ticket) ∈ store.inner.entries := by
      have hin : (⟨id, t⟩ : Sigma fun _ : String => Ticket) ∈
          (store.pruneExpired now).2.inner.entries :=
        AList.mem_lookup_iff.mp (Option.mem_def.mpr hafter)
      exact (List.mem_filter.mp hin).1
    exact (Option.mem_def.mp (AList.mem_lookup_iff.mpr hmem)).symm

variable {t t' : Ticket} {now' seq' : Nat}

/-- When `approve` succeeds: a live, pending, dual-control ticket becomes active and approved. -/
theorem approveTicket_ok {id approver : String} {now : Nat} (h : approveTicket id approver now t = .ok t') :
    t.isExpired now = false ∧ t.dualControl = true ∧ t.status = .pending ∧
      (∀ issuer, t.issuedBy = some issuer → eqIgnoreAsciiCase issuer approver = false) ∧ t' = { t with
        status := .active, approvedBy := some approver, approvedAtUnixMs := some now } := by
  unfold approveTicket at h
  split at h
  · cases h
  · rename_i hexp
    split at h
    · cases h
    · rename_i hdual
      split at h
      · cases h
      · cases h
      · rename_i hstatus
        have hrest : t.isExpired now = false ∧ t.dualControl = true := ⟨by simpa using hexp, by simpa using hdual⟩
        split at h
        · rename_i issuer hissuer
          split at h
          · cases h
          · rename_i hne
            refine ⟨hrest.1, hrest.2, hstatus, ?_, (Except.ok.inj h).symm⟩
            intro i hi
            rw [hissuer] at hi
            cases hi
            simpa using hne
        · rename_i hnone
          refine ⟨hrest.1, hrest.2, hstatus, ?_, (Except.ok.inj h).symm⟩
          intro i hi
          rw [hnone] at hi
          cases hi

/-- When `reject` succeeds: an unused ticket that was not rejected before becomes rejected. -/
theorem rejectTicket_ok {id rejector : String} {reason : Option String}
    (h : rejectTicket id rejector reason t = .ok t') : t.uses = 0 ∧ t.status ≠ .rejected ∧ t' = { t with
        status := .rejected, rejectedBy := some rejector, rejectReason := reason } := by
  unfold rejectTicket at h
  split at h
  · cases h
  · rename_i huses
    split at h
    · cases h
    · rename_i hstatus
      exact ⟨by omega, hstatus, (Except.ok.inj h).symm⟩

theorem isConsumable_ok {now : Nat} (h : t.isConsumable now = .ok ()) :
    t.isExpired now = false ∧ t.status = .active ∧ t.uses < t.maxUses := by
  unfold Ticket.isConsumable at h
  split at h
  · cases h
  · rename_i hexp
    split at h
    · cases h
    · cases h
    · rename_i hstatus
      split at h
      · cases h
      · rename_i huses
        unfold Ticket.remainingUses at huses
        exact ⟨by simpa using hexp, hstatus, by omega⟩

/-- When `consume` succeeds: the ticket is consumable and all three bindings match the call. -/
theorem consumeTicket_ok {id subject fp : String} {ty : Option String} {now : Nat}
    (h : consumeTicket id subject fp ty now t = .ok t') :
    t.isExpired now = false ∧ t.status = .active ∧ t.uses < t.maxUses ∧
      eqIgnoreAsciiCase t.subjectId subject = true ∧ typeMatches t ty = true ∧
      t.sqlFingerprint = fp ∧ t' = { t with uses := t.uses + 1 } := by
  unfold consumeTicket at h
  split at h
  · cases h
  · rename_i hcons
    obtain ⟨hexp, hstatus, huses⟩ := isConsumable_ok hcons
    split at h
    · cases h
    · rename_i hsubject
      split at h
      · cases h
      · rename_i htype
        split at h
        · cases h
        · rename_i hfp
          exact ⟨hexp, hstatus, huses, by simpa using hsubject, by simpa using htype,
            by simpa using hfp, (Except.ok.inj h).symm⟩

/-! ## One lemma per operation -/

/-- `get` through a successful `update`: the id asked for has the new ticket, every other id its
    old one. -/
theorem get_of_update {store : TicketStore} {id id' : String} :
    TicketStore.get { store with inner := store.inner.insert id t' } id' =
      if id' = id then some t' else store.get id' :=
  get_insert store store.seq id id' t'

/-- `issue` either panics, and then the map is as it was, or files a fresh ticket. -/
theorem issue_cases (store : TicketStore) (now : Nat) (req : IssueTicketRequest) :
    (store.issue now req = (.panicked, { store with seq := store.seq + 1 })) ∨ (∃ fp sample, store.issue now req =
      (.issued (freshTicket now store.seq req fp sample),
        ⟨store.inner.insert (ticketId now store.seq) (freshTicket now store.seq req fp sample),
          store.seq + 1⟩)) := by
  unfold TicketStore.issue
  split
  · exact Or.inr ⟨_, _, rfl⟩
  · exact Or.inl rfl

theorem approve_cases (store : TicketStore) (now : Nat) (id by' : String) :
    (∃ e, store.approve now id by' = (.error e, store)) ∨
    (∃ approver t t', store.get id = some t ∧ approveTicket id approver now t = .ok t' ∧
      store.approve now id by' = (.ok t', { store with inner := store.inner.insert id t' })) := by
  unfold TicketStore.approve
  simp only
  split
  · exact Or.inl ⟨_, rfl⟩
  · rcases update_cases store id (approveTicket id (String.ofList (trim by'.toList)) now) with
      h | ⟨t, t', hget, hok, h⟩
    · exact Or.inl h
    · exact Or.inr ⟨_, t, t', hget, hok, h⟩

theorem reject_cases (store : TicketStore) (id by' : String) (reason : Option String) :
    (∃ e, store.reject id by' reason = (.error e, store)) ∨
    (∃ rejector t t', store.get id = some t ∧ rejectTicket id rejector reason t = .ok t' ∧
      store.reject id by' reason = (.ok t', { store with inner := store.inner.insert id t' })) := by
  unfold TicketStore.reject
  simp only
  split
  · exact Or.inl ⟨_, rfl⟩
  · rcases update_cases store id (rejectTicket id (String.ofList (trim by'.toList)) reason) with
      h | ⟨t, t', hget, hok, h⟩
    · exact Or.inl h
    · exact Or.inr ⟨_, t, t', hget, hok, h⟩

/-- `consume` panics or fails and keeps the store, or spends one use of the ticket found. -/
theorem consume_cases (store : TicketStore) (now : Nat) (id subject sql : String) (ty : Option String) :
    (store.consume now id subject sql ty = (none, store)) ∨
    (∃ e, store.consume now id subject sql ty = (some (.error e), store)) ∨
    (∃ fp t t', sqlFingerprint sql = some fp ∧ store.get id = some t ∧ consumeTicket id subject fp ty now t = .ok t' ∧
      store.consume now id subject sql ty = (some (.ok t'), { store with inner := store.inner.insert id t' })) := by
  unfold TicketStore.consume
  cases hfp : sqlFingerprint sql with
  | none => exact Or.inl rfl
  | some fp =>
    rcases update_cases store id (consumeTicket id subject fp ty now) with
      ⟨e, h⟩ | ⟨t, t', hget, hok, h⟩
    · exact Or.inr (Or.inl ⟨e, by simp only [h]⟩)
    · exact Or.inr (Or.inr ⟨fp, t, t', rfl, hget, hok, by simp only [h]⟩)

/-! ## Ticket ids -/

theorem ticketId_injective {now seq : Nat} (h : ticketId now seq = ticketId now' seq') : now = now' ∧ seq = seq' := by
  have hl := congrArg String.toList h
  simp only [ticketId, String.toList_append, Nat.toString_eq_ofList_toDigits,
    String.toList_ofList, List.append_assoc] at hl
  have hrest := List.append_cancel_left hl
  exact dashed_injective (by simpa using hrest)

theorem ticketId_seq_injective {now seq : Nat} (h : ticketId now seq = ticketId now' seq') : seq = seq' :=
  (ticketId_injective h).2

end DataNexus.Tickets
