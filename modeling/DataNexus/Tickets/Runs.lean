/-
  The ticket store over whole runs: any list of calls, each with the clock reading it saw, from the empty store.

  1. **Inversion** (`exec_cases`) — what one call can do to the ticket stored under ONE id.  Every later proof is a case
     analysis of this lemma.

  2. **Invariant** (`Sound`) — a stored ticket is filed under its own id, has `uses ≤ max_uses`, is approved when it is
     active under dual control, and its id carries a sequence number BELOW the counter, so it means one ticket for the
     whole run.

  3. **Budget** (`consumes_le_remaining`) — from any sound state the rest of the run spends at most the uses that are left.
-/
import DataNexus.Lib.Run
import DataNexus.Tickets.Store

namespace DataNexus.Tickets

open DataNexus.Text DataNexus.Run

/-! ## Calls -/

/-- One call on the store, with the clock reading it takes. -/
inductive Op where
  | issue (now : Nat) (req : IssueTicketRequest)
  | approve (now : Nat) (ticketId approvedBy : String)
  | reject (ticketId rejectedBy : String) (reason : Option String)
  | revoke (ticketId revokedBy : String) (reason : Option String)
  | pruneExpired (now : Nat)
  | consume (now : Nat) (ticketId subjectId sql : String) (expectedType : Option String)

def exec (store : TicketStore) : Op → Answer × TicketStore
  | .issue now req => store.issue now req
  | .approve now id by' =>
    let r := store.approve now id by'
    (.result r.1, r.2)
  | .reject id by' reason =>
    let r := store.reject id by' reason
    (.result r.1, r.2)
  | .revoke id by' reason =>
    let r := store.revoke id by' reason
    (.result r.1, r.2)
  | .pruneExpired now =>
    let r := store.pruneExpired now
    (.pruned r.1, r.2)
  | .consume now id subject sql ty =>
    match store.consume now id subject sql ty with
    | (some r, store') => (.result r, store')
    | (none, store') => (.panicked, store')

abbrev Step := Entry TicketStore Op Answer

def Issues (t : Ticket) (e : Step) : Prop := e.out = .issued t

/-- `consumed id op answer` — the call was a `consume` of `id` and it succeeded. -/
def consumed (id : String) : Op → Answer → Bool
  | .consume _ id' _ _ _, .result (.ok _) => id' == id
  | _, _ => false

/-- The step spent one use of ticket `id`. -/
def spends (id : String) (e : Step) : Bool := consumed id e.act e.out

/-- The step rejected or revoked ticket `id`. -/
def Rejects (id : String) (e : Step) : Prop :=
  (∃ by' reason t, e.act = .reject id by' reason ∧ e.out = .result (.ok t)) ∨
    (∃ by' reason t, e.act = .revoke id by' reason ∧ e.out = .result (.ok t))

/-! ## What one call does to one ticket -/

/-- The ways in which one call can treat the ticket under `id`. -/
inductive Effect (store : TicketStore) (op : Op) (id : String) : Prop
  /-- The entry under `id` is as it was. -/
  | kept (h : (exec store op).2.get id = store.get id)
      (hc : consumed id op (exec store op).1 = false)
  /-- `issue` filed a fresh ticket under `id`. -/
  | issued (now : Nat) (req : IssueTicketRequest) (fp sample : String) (hop : op = .issue now req)
      (hid : id = ticketId now store.seq)
      (h : (exec store op).2.get id = some (freshTicket now store.seq req fp sample))
  /-- `approve` made a pending dual-control ticket active. -/
  | approved (t t' : Ticket) (now : Nat) (approver by' : String) (hop : op = .approve now id by')
      (hget : store.get id = some t) (hok : approveTicket id approver now t = .ok t')
      (h : (exec store op).2.get id = some t')
  /-- `reject` or `revoke` rejected an unused ticket. -/
  | rejected (t t' : Ticket) (rejector : String) (reason : Option String)
      (hget : store.get id = some t) (hok : rejectTicket id rejector reason t = .ok t')
      (h : (exec store op).2.get id = some t')
      (hc : consumed id op (exec store op).1 = false)
  /-- `prune_expired` dropped it. -/
  | dropped (now : Nat) (hop : op = .pruneExpired now) (h : (exec store op).2.get id = none)
  /-- `consume` spent one use. -/
  | spent (t t' : Ticket) (now : Nat) (subject sql fp : String) (ty : Option String)
      (hop : op = .consume now id subject sql ty) (hfp : sqlFingerprint sql = some fp)
      (hget : store.get id = some t) (hok : consumeTicket id subject fp ty now t = .ok t')
      (h : (exec store op).2.get id = some t')

/-- **Inversion.**  Every call treats every id in one of the six ways of `Effect`. -/
theorem exec_cases (store : TicketStore) (op : Op) (id : String) : Effect store op id := by
  cases op with
  | issue now req =>
    rcases issue_cases store now req with h | ⟨fp, sample, h⟩
    · exact .kept (by simp only [exec, h]; rfl) rfl
    · by_cases hid : id = ticketId now store.seq
      · refine .issued now req fp sample rfl hid ?_
        simp only [exec, h, get_insert, if_pos hid]
      · refine .kept ?_ rfl
        simp only [exec, h, get_insert, if_neg hid]
  | approve now id' by' =>
    rcases approve_cases store now id' by' with ⟨e, h⟩ | ⟨approver, t, t', hget, hok, h⟩
    · exact .kept (by simp only [exec, h]) rfl
    · by_cases hid : id = id'
      · subst hid
        refine .approved t t' now approver by' rfl hget hok ?_
        simp only [exec, h, get_of_update, if_true]
      · refine .kept ?_ rfl
        simp only [exec, h, get_of_update, if_neg hid]
  | reject id' by' reason =>
    rcases reject_cases store id' by' reason with ⟨e, h⟩ | ⟨rejector, t, t', hget, hok, h⟩
    · exact .kept (by simp only [exec, h]) rfl
    · by_cases hid : id = id'
      · subst hid
        refine .rejected t t' rejector reason hget hok ?_ rfl
        simp only [exec, h, get_of_update, if_true]
      · refine .kept ?_ rfl
        simp only [exec, h, get_of_update, if_neg hid]
  | revoke id' by' reason =>
    rcases reject_cases store id' by' reason with ⟨e, h⟩ | ⟨rejector, t, t', hget, hok, h⟩
    · exact .kept (by simp only [exec, TicketStore.revoke, h]) rfl
    · by_cases hid : id = id'
      · subst hid
        refine .rejected t t' rejector reason hget hok ?_ rfl
        simp only [exec, TicketStore.revoke, h, get_of_update, if_true]
      · refine .kept ?_ rfl
        simp only [exec, TicketStore.revoke, h, get_of_update, if_neg hid]
  | pruneExpired now =>
    rcases get_pruneExpired store now id with h | h
    · exact .kept h rfl
    · exact .dropped now rfl h
  | consume now id' subject sql ty =>
    rcases consume_cases store now id' subject sql ty with
      h | ⟨e, h⟩ | ⟨fp, t, t', hfp, hget, hok, h⟩
    · exact .kept (by simp only [exec, h]) (by simp only [exec, h, consumed])
    · exact .kept (by simp only [exec, h]) (by simp only [exec, h, consumed])
    · by_cases hid : id = id'
      · subst hid
        refine .spent t t' now subject sql fp ty rfl hfp hget hok ?_
        simp only [exec, h, get_of_update, if_true]
      · refine .kept ?_ ?_
        · simp only [exec, h, get_of_update, if_neg hid]
        · simp [exec, h, consumed, Ne.symm hid]

theorem seq_le_exec (store : TicketStore) (op : Op) : store.seq ≤ (exec store op).2.seq := by
  cases op with
  | issue now req =>
    rcases issue_cases store now req with h | ⟨fp, sample, h⟩ <;> simp only [exec, h] <;> omega
  | approve now id by' =>
    rcases approve_cases store now id by' with ⟨e, h⟩ | ⟨a, t, t', hget, hok, h⟩ <;>
      simp only [exec, h, le_refl]
  | reject id by' reason =>
    rcases reject_cases store id by' reason with ⟨e, h⟩ | ⟨r, t, t', hget, hok, h⟩ <;>
      simp only [exec, h, le_refl]
  | revoke id by' reason =>
    rcases reject_cases store id by' reason with ⟨e, h⟩ | ⟨r, t, t', hget, hok, h⟩ <;>
      simp only [exec, TicketStore.revoke, h, le_refl]
  | pruneExpired now => exact le_refl _
  | consume now id subject sql ty =>
    rcases consume_cases store now id subject sql ty with
      h | ⟨e, h⟩ | ⟨fp, t, t', hfp, hget, hok, h⟩ <;> simp only [exec, h, le_refl]

theorem exec_error {store : TicketStore} {op : Op} {msg : String}
    (h : (exec store op).1 = .result (.error msg)) : (exec store op).2 = store := by
  cases op with
  | issue now req =>
    rcases issue_cases store now req with hc | ⟨fp, sample, hc⟩ <;>
      simp only [exec, hc] at h <;> cases h
  | approve now id by' =>
    rcases approve_cases store now id by' with ⟨e, hc⟩ | ⟨a, t, t', hget, hok, hc⟩
    · simp only [exec, hc]
    · simp only [exec, hc] at h; cases h
  | reject id by' reason =>
    rcases reject_cases store id by' reason with ⟨e, hc⟩ | ⟨r, t, t', hget, hok, hc⟩
    · simp only [exec, hc]
    · simp only [exec, hc] at h; cases h
  | revoke id by' reason =>
    rcases reject_cases store id by' reason with ⟨e, hc⟩ | ⟨r, t, t', hget, hok, hc⟩
    · simp only [exec, TicketStore.revoke, hc]
    · simp only [exec, TicketStore.revoke, hc] at h; cases h
  | pruneExpired now => simp only [exec] at h; cases h
  | consume now id subject sql ty =>
    rcases consume_cases store now id subject sql ty with
      hc | ⟨e, hc⟩ | ⟨fp, t, t', hfp, hget, hok, hc⟩
    · simp only [exec, hc]
    · simp only [exec, hc]
    · simp only [exec, hc] at h; cases h

/-! ## The invariant -/

/-- The id carries a sequence number that the store has already handed out. -/
def Numbered (store : TicketStore) (id : String) : Prop := ∃ now seq, id = ticketId now seq ∧ seq < store.seq

structure Sound (store : TicketStore) : Prop where
  /-- A ticket is filed under its own id. -/
  filed : ∀ id t, store.get id = some t → t.id = id
  /-- No ticket is used more often than allowed. -/
  bounded : ∀ id t, store.get id = some t → t.uses ≤ t.maxUses
  /-- Under dual control, active means approved. -/
  approved : ∀ id t, store.get id = some t → t.dualControl = true → t.status = .active → t.approvedBy ≠ none
  /-- Its id was handed out by this store. -/
  numbered : ∀ id t, store.get id = some t → Numbered store id

theorem sound_new : Sound TicketStore.new := by
  refine ⟨?_, ?_, ?_, ?_⟩ <;> (intro id t h; cases h)

theorem Numbered.exec {store : TicketStore} {id : String} (h : Numbered store id) (op : Op) :
    Numbered (exec store op).2 id := by
  obtain ⟨now, seq, hid, hlt⟩ := h
  exact ⟨now, seq, hid, lt_of_lt_of_le hlt (seq_le_exec store op)⟩

theorem Numbered.ne_next {store : TicketStore} {id : String} (h : Numbered store id) (now : Nat) :
    id ≠ ticketId now store.seq := by
  intro heq
  obtain ⟨now', seq, hid, hlt⟩ := h
  have hseq : seq = store.seq := ticketId_seq_injective (hid.symm.trans heq)
  omega

/-- `issue` draws its number from the counter, so the fresh id is below the counter afterwards. -/
theorem numbered_issue (store : TicketStore) (now : Nat) (req : IssueTicketRequest) :
    Numbered (exec store (.issue now req)).2 (ticketId now store.seq) := by
  refine ⟨now, store.seq, rfl, ?_⟩
  rcases issue_cases store now req with h | ⟨fp, sample, h⟩ <;> simp only [exec, h] <;> omega

/-- The clauses of `Sound` about one ticket, as one predicate of the ticket and the id it is
    filed under. -/
structure SoundTicket (store : TicketStore) (id : String) (t : Ticket) : Prop where
  filed : t.id = id
  bounded : t.uses ≤ t.maxUses
  approved : t.dualControl = true → t.status = .active → t.approvedBy ≠ none
  numbered : Numbered store id

variable {t : Ticket}

theorem Sound.ticket {store : TicketStore} (hs : Sound store) {id : String} (h : store.get id = some t) :
    SoundTicket store id t :=
  ⟨hs.filed id t h, hs.bounded id t h, hs.approved id t h, hs.numbered id t h⟩

theorem sound_of_tickets {store : TicketStore}
    (h : ∀ id t, store.get id = some t → SoundTicket store id t) : Sound store :=
  ⟨fun id t ht => (h id t ht).filed, fun id t ht => (h id t ht).bounded,
    fun id t ht => (h id t ht).approved, fun id t ht => (h id t ht).numbered⟩

/-- **Step lemma.**  Every call keeps the invariant. -/
theorem sound_exec (store : TicketStore) (op : Op) (hs : Sound store) : Sound (exec store op).2 := by
  refine sound_of_tickets ?_
  intro id t hget
  cases exec_cases store op id with
  | kept h hc =>
    rw [h] at hget
    have ht := hs.ticket hget
    exact ⟨ht.filed, ht.bounded, ht.approved, ht.numbered.exec op⟩
  | issued now req fp sample hop hid h =>
    subst hop
    rw [h] at hget
    cases hget
    refine ⟨hid.symm, Nat.zero_le _, ?_, hid ▸ numbered_issue store now req⟩
    -- a fresh dual-control ticket is pending, hence not active
    intro hdual hactive
    have hd : req.dualControl = true := hdual
    simp [freshTicket, hd] at hactive
  | approved t0 t' now approver by' hop hget0 hok h =>
    rw [h] at hget
    cases hget
    have ht := hs.ticket hget0
    obtain ⟨_, _, _, _, rfl⟩ := approveTicket_ok hok
    exact ⟨ht.filed, ht.bounded, fun _ _ => by simp, ht.numbered.exec op⟩
  | rejected t0 t' rejector reason hget0 hok h hc =>
    rw [h] at hget
    cases hget
    have ht := hs.ticket hget0
    obtain ⟨_, _, rfl⟩ := rejectTicket_ok hok
    refine ⟨ht.filed, ht.bounded, ?_, ht.numbered.exec op⟩
    intro _ hactive
    cases hactive
  | dropped now hop h =>
    rw [h] at hget
    cases hget
  | spent t0 t' now subject sql fp ty hop hfp hget0 hok h =>
    rw [h] at hget
    cases hget
    have ht := hs.ticket hget0
    obtain ⟨_, hactive, huses, _, _, _, rfl⟩ := consumeTicket_ok hok
    exact ⟨ht.filed, huses, fun hdual _ => ht.approved hdual hactive, ht.numbered.exec op⟩

/-! ## Dead ids: rejected, revoked or dropped -/

/-- `Dead store id` — the id was handed out, and there is no ticket under it any more or the one
    there is rejected. -/
def Dead (store : TicketStore) (id : String) : Prop :=
  Numbered store id ∧ ∀ t, store.get id = some t → t.status = .rejected

theorem dead_exec {store : TicketStore} {id : String} (hd : Dead store id) (op : Op) : Dead (exec store op).2 id := by
  refine ⟨hd.1.exec op, ?_⟩
  intro t hget
  cases exec_cases store op id with
  | kept h hc => exact hd.2 t (h ▸ hget)
  | issued now req fp sample hop hid h => exact absurd hid (hd.1.ne_next now)
  | approved t0 t' now approver by' hop hget0 hok h =>
    have hrej := hd.2 t0 hget0
    rw [(approveTicket_ok hok).2.2.1] at hrej
    cases hrej
  | rejected t0 t' rejector reason hget0 hok h hc =>
    exact absurd (hd.2 t0 hget0) (rejectTicket_ok hok).2.1
  | dropped now hop h =>
    rw [h] at hget
    cases hget
  | spent t0 t' now subject sql fp ty hop hfp hget0 hok h =>
    have hrej := hd.2 t0 hget0
    rw [(consumeTicket_ok hok).2.1] at hrej
    cases hrej

theorem dead_not_consumed {store : TicketStore} {id : String} (hd : Dead store id) (op : Op) :
    consumed id op (exec store op).1 = false := by
  cases exec_cases store op id with
  | kept h hc => exact hc
  | issued now req fp sample hop hid h => subst hop; rfl
  | approved t0 t' now approver by' hop hget0 hok h => subst hop; rfl
  | rejected t0 t' rejector reason hget0 hok h hc => exact hc
  | dropped now hop h => subst hop; rfl
  | spent t0 t' now subject sql fp ty hop hfp hget0 hok h =>
    have hrej := hd.2 t0 hget0
    rw [(consumeTicket_ok hok).2.1] at hrej
    cases hrej

theorem dead_count {id : String} (ops : List Op) : ∀ {store : TicketStore}, Dead store id →
    (entries exec store ops).countP (spends id) = 0 := by
  induction ops with
  | nil => intro store hd; rfl
  | cons op ops ih =>
    intro store hd
    have hhead : consumed id op (exec store op).1 = false := dead_not_consumed hd op
    simp [entries, spends, hhead]
    simpa [spends] using ih (dead_exec hd op)

theorem dead_of_rejects {store : TicketStore} {op : Op} {id : String} (hs : Sound store)
    (hr : Rejects id ⟨store, op, (exec store op).1, (exec store op).2⟩) : Dead (exec store op).2 id := by
  have key : ∀ by' reason t, store.reject id by' reason = (Except.ok t, (exec store op).2) →
      Dead (exec store op).2 id := by
    intro by' reason t hrej
    rcases reject_cases store id by' reason with ⟨e, h⟩ | ⟨rejector, t0, t', hget, hok, h⟩
    · rw [h] at hrej; cases hrej
    · refine ⟨(hs.numbered id t0 hget).exec op, ?_⟩
      intro t1 hget1
      have hpost : (exec store op).2 = { store with inner := store.inner.insert id t' } := by
        rw [h] at hrej
        exact (Prod.ext_iff.mp hrej).2.symm
      rw [hpost, get_of_update, if_pos rfl] at hget1
      cases hget1
      rw [(rejectTicket_ok hok).2.2]
  rcases hr with ⟨by', reason, t, hop, hout⟩ | ⟨by', reason, t, hop, hout⟩
  · simp only at hop hout
    subst hop
    simp only [exec, Answer.result.injEq] at hout
    exact key by' reason t (Prod.ext hout rfl)
  · simp only at hop hout
    subst hop
    simp only [exec, TicketStore.revoke, Answer.result.injEq] at hout
    exact key by' reason t (Prod.ext hout rfl)

/-! ## Budgets -/

/-- **Budget.**  From a sound state, the rest of the run spends at most the uses left. -/
theorem consumes_le_remaining {id : String} (ops : List Op) : ∀ {store : TicketStore} {t : Ticket},
    Sound store → store.get id = some t → (entries exec store ops).countP (spends id) ≤ t.maxUses - t.uses := by
  induction ops with
  | nil => intro store t hs hget; exact Nat.zero_le _
  | cons op ops ih =>
    intro store t hs hget
    have hs' : Sound (exec store op).2 := sound_exec store op hs
    rw [entries, List.countP_cons]
    -- the head spends a use exactly in the last case, and there the budget shrinks by one
    cases exec_cases store op id with
    | kept h hc =>
      have := ih hs' (h.trans hget)
      simp only [spends, hc] at this ⊢
      simpa using this
    | issued now req fp sample hop hid h =>
      exact absurd hid ((hs.numbered id t hget).ne_next now)
    | approved t0 t' now approver by' hop hget0 hok h =>
      subst hop
      cases hget.symm.trans hget0
      have := ih hs' h
      obtain ⟨_, _, _, _, rfl⟩ := approveTicket_ok hok
      simpa [spends, consumed] using this
    | rejected t0 t' rejector reason hget0 hok h hc =>
      cases hget.symm.trans hget0
      have := ih hs' h
      obtain ⟨_, _, rfl⟩ := rejectTicket_ok hok
      simp only [spends, hc] at this ⊢
      simpa using this
    | dropped now hop h =>
      have hdead : Dead (exec store op).2 id :=
        ⟨(hs.numbered id t hget).exec op, fun t' ht' => by rw [h] at ht'; cases ht'⟩
      subst hop
      rw [dead_count ops hdead]
      simp [spends, consumed]
    | spent t0 t' now subject sql fp ty hop hfp hget0 hok h =>
      cases hget.symm.trans hget0
      have hrest := ih hs' h
      obtain ⟨_, _, huses, _, _, _, rfl⟩ := consumeTicket_ok hok
      have hone : (if spends id ⟨store, op, (exec store op).1, (exec store op).2⟩ = true
          then 1 else 0) ≤ 1 := by split <;> omega
      simp only at hrest
      omega

theorem issues_spec {store : TicketStore} {op : Op} {t : Ticket}
    (h : Issues t ⟨store, op, (exec store op).1, (exec store op).2⟩) :
    ∃ now req, op = .issue now req ∧ t.id = ticketId now store.seq ∧ t.uses = 0 ∧
      (exec store op).2.get t.id = some t := by
  unfold Issues at h
  simp only at h
  cases op with
  | issue now req =>
    rcases issue_cases store now req with hc | ⟨fp, sample, hc⟩
    · simp only [exec, hc] at h; cases h
    · simp only [exec, hc, Answer.issued.injEq] at h
      subst h
      refine ⟨now, req, rfl, rfl, rfl, ?_⟩
      simp only [exec, hc, get_insert]
      exact if_pos rfl
  | approve now id by' => simp only [exec] at h; cases h
  | reject id by' reason => simp only [exec] at h; cases h
  | revoke id by' reason => simp only [exec] at h; cases h
  | pruneExpired now => simp only [exec] at h; cases h
  | consume now id subject sql ty =>
    rcases consume_cases store now id subject sql ty with
      hc | ⟨e, hc⟩ | ⟨fp, t0, t', hfp, hget, hok, hc⟩ <;>
      (simp only [exec, hc] at h; cases h)

theorem stored_of_consumed {store : TicketStore} {op : Op} {id : String}
    (h : consumed id op (exec store op).1 = true) : ∃ t, store.get id = some t := by
  cases exec_cases store op id with
  | kept h' hc => rw [hc] at h; cases h
  | issued now req fp sample hop hid h' => subst hop; cases h
  | approved t t' now approver by' hop hget hok h' => exact ⟨t, hget⟩
  | rejected t t' rejector reason hget hok h' hc => exact ⟨t, hget⟩
  | dropped now hop h' => subst hop; cases h
  | spent t t' now subject sql fp ty hop hfp hget hok h' => exact ⟨t, hget⟩

theorem seq_le_of_mem {store : TicketStore} {ops : List Op} {e : Step}
    (he : e ∈ entries exec store ops) : store.seq ≤ e.pre.seq :=
  (inv_of_mem_entries (fun s : TicketStore => store.seq ≤ s.seq)
    (fun s op h _ => le_trans h (seq_le_exec s op)) (le_refl _) (meets_always exec store ops) he).1

/-- Over the whole run an issued ticket is consumed at most `max_uses` times, and never before its issue. -/
theorem issued_count (ops : List Op) : ∀ {store : TicketStore}, Sound store →
    (∃ e ∈ entries exec store ops, Issues t e) → (entries exec store ops).countP (spends t.id) ≤ t.maxUses := by
  induction ops with
  | nil => rintro store hs ⟨e, he, _⟩; simp [entries] at he
  | cons op ops ih =>
    rintro store hs ⟨e, he, hissue⟩
    rw [entries, List.countP_cons]
    rcases List.mem_cons.mp he with rfl | he
    · -- the issue itself: nothing spent here, the full budget ahead
      obtain ⟨now, req, hop, hid, hzero, hget⟩ := issues_spec hissue
      have hrest := consumes_le_remaining ops (sound_exec store op hs) hget
      subst hop
      have hhead : spends t.id ⟨store, .issue now req, (exec store (.issue now req)).1,
          (exec store (.issue now req)).2⟩ = false := rfl
      rw [hhead]
      simp only [Bool.false_eq_true, if_false]
      omega
    · -- the issue comes later: the head cannot be a consume of an id that does not exist yet
      have hrest := ih (sound_exec store op hs) ⟨e, he, hissue⟩
      have hhead : spends t.id ⟨store, op, (exec store op).1, (exec store op).2⟩ = false := by
        by_contra hspent
        obtain ⟨t0, hget⟩ := stored_of_consumed (by simpa [spends] using hspent)
        have hout : Issues t ⟨e.pre, e.act, (exec e.pre e.act).1, (exec e.pre e.act).2⟩ := by
          have := (entry_eq he).1
          unfold Issues at hissue ⊢
          simp only
          rw [← this]
          exact hissue
        obtain ⟨now, req, _, hid, _, _⟩ := issues_spec hout
        obtain ⟨now', seq, hid', hlt⟩ := hs.numbered t.id t0 hget
        have hseq : seq = e.pre.seq := ticketId_seq_injective (hid'.symm.trans hid)
        have h1 := seq_le_exec store op
        have h2 := seq_le_of_mem he
        omega
      rw [hhead]
      simpa using hrest

theorem unissued_count {id : String} (ops : List Op) : ∀ {store : TicketStore},
    store.get id = none → (∀ e ∈ entries exec store ops, ∀ t, Issues t e → t.id ≠ id) →
    (entries exec store ops).countP (spends id) = 0 := by
  induction ops with
  | nil => intro store hget hno; rfl
  | cons op ops ih =>
    intro store hget hno
    have hhead : consumed id op (exec store op).1 = false := by
      by_contra hc
      obtain ⟨t, ht⟩ := stored_of_consumed (by simpa using hc)
      rw [hget] at ht
      cases ht
    have hget' : (exec store op).2.get id = none := by
      cases exec_cases store op id with
      | kept h hc => rw [h, hget]
      | issued now req fp sample hop hid h =>
        subst hop
        rcases issue_cases store now req with hc | ⟨fp', sample', hc⟩
        · simp only [exec, hc]; exact hget
        · -- the head would be an issue of `id`
          have hissue := hno ⟨store, .issue now req, (exec store (.issue now req)).1,
            (exec store (.issue now req)).2⟩ (by simp [entries])
            (freshTicket now store.seq req fp' sample') (by simp only [Issues, exec, hc])
          exact absurd hid.symm hissue
      | approved t t' now approver by' hop hget0 hok h => rw [hget] at hget0; cases hget0
      | rejected t t' rejector reason hget0 hok h hc => rw [hget] at hget0; cases hget0
      | dropped now hop h => exact h
      | spent t t' now subject sql fp ty hop hfp hget0 hok h => rw [hget] at hget0; cases hget0
    have hrest := ih hget' (fun e he t ht => hno e (by simp [entries, he]) t ht)
    rw [entries, List.countP_cons, hrest]
    simp [spends, hhead]

/-! ## Whole runs -/

theorem consume_success {store : TicketStore} {now : Nat} {id subject sql : String} {ty : Option String} {t' : Ticket}
    (h : (exec store (.consume now id subject sql ty)).1 = .result (.ok t')) :
    ∃ t fp, store.get id = some t ∧ t.status = .active ∧ t.isExpired now = false ∧
      eqIgnoreAsciiCase t.subjectId subject = true ∧ typeMatches t ty = true ∧
      sqlFingerprint sql = some fp ∧ t.sqlFingerprint = fp := by
  rcases consume_cases store now id subject sql ty with
    hc | ⟨e, hc⟩ | ⟨fp, t, t1, hfp, hget, hok, hc⟩
  · simp only [exec, hc] at h; cases h
  · simp only [exec, hc] at h; cases h
  · obtain ⟨hexp, hactive, _, hsubject, htype, hfp', _⟩ := consumeTicket_ok hok
    exact ⟨t, fp, hget, hactive, hexp, hsubject, htype, hfp, hfp'⟩

/-- **The ticket store over every run.**  `max_uses` bounds the uses kept and the successful consumes; a consume succeeds
    only on an active, unexpired, matching ticket; none follows a rejection; and an error changes nothing. -/
theorem ticketStore_runs (ops : List Op) :
    (∀ e ∈ entries exec TicketStore.new ops, ∀ id t, e.post.get id = some t → t.uses ≤ t.maxUses) ∧
    ((∀ e ∈ entries exec TicketStore.new ops, ∀ t, Issues t e →
        (entries exec TicketStore.new ops).countP (spends t.id) ≤ t.maxUses) ∧
      (∀ id, (∀ e ∈ entries exec TicketStore.new ops, ∀ t, Issues t e → t.id ≠ id) →
        (entries exec TicketStore.new ops).countP (spends id) = 0)) ∧
    (∀ e ∈ entries exec TicketStore.new ops, ∀ now id subject sql ty t',
      e.act = .consume now id subject sql ty → e.out = .result (.ok t') →
      ∃ t fp, e.pre.get id = some t ∧ t.status = .active ∧
        (t.dualControl = true → t.approvedBy ≠ none) ∧ t.isExpired now = false ∧
        eqIgnoreAsciiCase t.subjectId subject = true ∧ typeMatches t ty = true ∧
        sqlFingerprint sql = some fp ∧ t.sqlFingerprint = fp) ∧
    (∀ id, (entries exec TicketStore.new ops).Pairwise
      (fun e e' => Rejects id e → spends id e' = false)) ∧
    (∀ e ∈ entries exec TicketStore.new ops, ∀ msg, e.out = .result (.error msg) →
      e.post = e.pre) := by
  have hsound : ∀ e ∈ entries exec TicketStore.new ops, Sound e.pre ∧ Sound e.post :=
    fun e he => inv_of_mem_entries Sound (fun s op hs _ => sound_exec s op hs) sound_new
      (meets_always exec TicketStore.new ops) he
  refine ⟨?_, ⟨?_, ?_⟩, ?_, ?_, ?_⟩
  · intro e he id t hget
    exact (hsound e he).2.bounded id t hget
  · intro e he t hissue
    exact issued_count ops sound_new ⟨e, he, hissue⟩
  · intro id hno
    exact unissued_count ops rfl hno
  · intro e he now id subject sql ty t' hact hout
    rw [(entry_eq he).1, hact] at hout
    obtain ⟨t, fp, hget, hactive, hrest⟩ := consume_success hout
    exact ⟨t, fp, hget, hactive, fun hdual => (hsound e he).1.approved id t hget hdual hactive, hrest⟩
  · intro id
    have hdead : (entries exec TicketStore.new ops).Pairwise
        (fun e e' => Rejects id e → Dead e'.pre id) :=
      pairwise_of_stable Sound (Rejects id) (fun s => Dead s id)
        (fun s op hs => sound_exec s op hs)
        (fun s op hs hr => dead_of_rejects hs hr) (fun s op _ hd => dead_exec hd op) sound_new
    refine List.Pairwise.imp_of_mem ?_ hdead
    intro e e' _ he' hstays hr
    have hno := dead_not_consumed (hstays hr) e'.act
    rw [← (entry_eq he').1] at hno
    exact hno
  · intro e he msg hout
    have heq := entry_eq he
    rw [heq.1] at hout
    rw [heq.2]
    exact exec_error hout

end DataNexus.Tickets
