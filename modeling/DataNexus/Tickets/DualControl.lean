/-
  The two-person rule of the ticket store.

  `approve` compares the approver, TRIMMED, with the issuer AS STORED; an absent issuer is not compared at all.  So

  * `consumed_after_approval` — behind every consumed dual-control ticket there is an `approve` of it, by a named identity,
    and a recorded issuer without surrounding white space is somebody else;
  * `approved_without_issuer` — an anonymous request is approved and consumed with nobody to differ from.

  `active` under dual control is entered by an `approve` only (`vouched_of_exec`), and the fields that the rule compares
  are written by `issue` alone (`marked_exec`).
-/
import DataNexus.Tickets.Runs

namespace DataNexus.Tickets

open DataNexus.Text DataNexus.Run

/-! ## Identities -/

/-- Two spellings of one identity: equal after trimming, ASCII case ignored. -/
def sameIdentity (a b : String) : Bool := sameIgnoringCase (trim a.toList) (trim b.toList)

/-- The step approved ticket `id` in the name of `approvedBy`. -/
def Approves (id approvedBy : String) (e : Step) : Prop :=
  ∃ now t, e.act = .approve now id approvedBy ∧ e.out = .result (.ok t)

/-- What a successful `approve` needs, in terms of the identity it was given. -/
theorem approve_success {store : TicketStore} {now : Nat} {id by' : String} {t' : Ticket}
    (h : (store.approve now id by').1 = .ok t') : trim by'.toList ≠ [] ∧ ∃ t, store.get id = some t ∧
      approveTicket id (String.ofList (trim by'.toList)) now t = .ok t' := by
  unfold TicketStore.approve at h
  simp only at h
  split at h
  · cases h
  · rename_i hnamed
    refine ⟨by simpa using hnamed, ?_⟩
    rcases update_cases store id (approveTicket id (String.ofList (trim by'.toList)) now) with
      ⟨e, hu⟩ | ⟨t, t1, hget, hok, hu⟩
    · rw [hu] at h; cases h
    · rw [hu] at h
      cases h
      exact ⟨t, hget, hok⟩

/-! ## Where an approval comes from -/

/-- The ticket under `id` is active under dual control, and `issuer` is the issuer on record. -/
def Vouched (id : String) (issuer : Option String) (store : TicketStore) : Prop :=
  ∃ t, store.get id = some t ∧ t.dualControl = true ∧ t.status = .active ∧ t.issuedBy = issuer

/-- The step approved `id` in a name that passed the comparison with `issuer`. -/
def Vouches (id : String) (issuer : Option String) (e : Step) : Prop :=
  ∃ by', Approves id by' e ∧ trim by'.toList ≠ [] ∧
    ∀ i, issuer = some i → eqIgnoreAsciiCase i (String.ofList (trim by'.toList)) = false

/-- **Step lemma.**  Only `approve` makes a dual-control ticket active. -/
theorem vouched_of_exec (id : String) (issuer : Option String) (store : TicketStore) (op : Op)
    (h : Vouched id issuer (exec store op).2) : Vouched id issuer store ∨
      Vouches id issuer ⟨store, op, (exec store op).1, (exec store op).2⟩ := by
  obtain ⟨t, hget, hdual, hactive, hissuer⟩ := h
  cases exec_cases store op id with
  | kept hk hc => exact Or.inl ⟨t, hk ▸ hget, hdual, hactive, hissuer⟩
  | issued now req fp sample hop hid hk =>
    -- a fresh dual-control ticket is pending
    rw [hk] at hget
    cases hget
    have hd : req.dualControl = true := hdual
    simp [freshTicket, hd] at hactive
  | approved t0 t' now approver by' hop hget0 hok hk =>
    refine Or.inr ?_
    subst hop
    have hout : (store.approve now id by').1 = .ok t' := by
      rcases approve_cases store now id by' with ⟨e, ha⟩ | ⟨a, t1, t2, hget1, hok1, ha⟩
      · -- a failed call would have left the pending ticket in place
        have hstay : (exec store (.approve now id by')).2 = store := by simp only [exec, ha]
        rw [hstay] at hk
        have hpend := (approveTicket_ok hok).2.2.1
        cases hget0.symm.trans hk
        rw [(approveTicket_ok hok).2.2.2.2] at hpend
        cases hpend
      · have hpost : (exec store (.approve now id by')).2.get id = some t2 := by
          simp only [exec, ha, get_of_update, if_true]
        cases hpost.symm.trans hk
        rw [ha]
    obtain ⟨hnamed, t1, hget1, hok1⟩ := approve_success hout
    have hsame := hk.symm.trans hget
    cases hsame
    obtain ⟨_, _, _, hdiffer, hrecord⟩ := approveTicket_ok hok1
    refine ⟨by', ⟨now, t, rfl, ?_⟩, hnamed, ?_⟩
    · simp only [exec, hout]
    · intro i hi
      refine hdiffer i ?_
      rw [hrecord] at hissuer
      exact hissuer.trans hi
  | rejected t0 t' rejector reason hget0 hok hk hc =>
    rw [hk] at hget
    cases hget
    rw [(rejectTicket_ok hok).2.2] at hactive
    cases hactive
  | dropped now hop hk =>
    rw [hk] at hget
    cases hget
  | spent t0 t' now subject sql fp ty hop hfp hget0 hok hk =>
    rw [hk] at hget
    cases hget
    obtain ⟨_, hactive0, _, _, _, _, hrecord⟩ := consumeTicket_ok hok
    rw [hrecord] at hdual hissuer
    exact Or.inl ⟨t0, hget0, hdual, hactive0, hissuer⟩

/-! ## The issuer on record -/

/-- `id` was handed out, and the ticket still under it carries the issuer and the dual-control flag that
    `t0` was issued with. -/
def Marked (t0 : Ticket) (store : TicketStore) : Prop :=
  Numbered store t0.id ∧ ∀ t, store.get t0.id = some t → t.issuedBy = t0.issuedBy ∧ t.dualControl = t0.dualControl

variable {t0 : Ticket}

theorem marked_exec {store : TicketStore} (hm : Marked t0 store) (op : Op) : Marked t0 (exec store op).2 := by
  refine ⟨hm.1.exec op, ?_⟩
  intro t hget
  cases exec_cases store op t0.id with
  | kept h hc => exact hm.2 t (h ▸ hget)
  | issued now req fp sample hop hid h => exact absurd hid (hm.1.ne_next now)
  | approved t1 t' now approver by' hop hget1 hok h =>
    rw [h] at hget
    cases hget
    rw [(approveTicket_ok hok).2.2.2.2]
    exact hm.2 t1 hget1
  | rejected t1 t' rejector reason hget1 hok h hc =>
    rw [h] at hget
    cases hget
    rw [(rejectTicket_ok hok).2.2]
    exact hm.2 t1 hget1
  | dropped now hop h =>
    rw [h] at hget
    cases hget
  | spent t1 t' now subject sql fp ty hop hfp hget1 hok h =>
    rw [h] at hget
    cases hget
    rw [(consumeTicket_ok hok).2.2.2.2.2.2]
    exact hm.2 t1 hget1

theorem marked_of_issues {store : TicketStore} {op : Op}
    (h : Issues t0 ⟨store, op, (exec store op).1, (exec store op).2⟩) : Marked t0 (exec store op).2 := by
  obtain ⟨now, req, hop, hid, _, hget⟩ := issues_spec h
  refine ⟨?_, ?_⟩
  · rw [hid, hop]
    exact numbered_issue store now req
  · intro t ht
    cases hget.symm.trans ht
    exact ⟨rfl, rfl⟩

theorem marked_of_issued_before {ops : List Op} {before after : List Step} {e e0 : Step}
    (hrun : entries exec TicketStore.new ops = before ++ e :: after) (he0 : e0 ∈ before) (hissue : Issues t0 e0) :
    Marked t0 e.pre := by
  have hpair : (entries exec TicketStore.new ops).Pairwise
      (fun e e' => Issues t0 e → Marked t0 e'.pre) :=
    pairwise_of_stable (fun _ => True) (Issues t0) (Marked t0) (fun _ _ _ => trivial)
      (fun s op _ h => marked_of_issues h) (fun s op _ h => marked_exec h op) trivial
  rw [hrun] at hpair
  exact (List.pairwise_append.mp hpair).2.2 e0 he0 e List.mem_cons_self hissue

/-! ## Whole runs -/

/-- The step consumed a use of ticket `id`. -/
def Consumes (id : String) (e : Step) : Prop :=
  ∃ now subject sql ty t, e.act = .consume now id subject sql ty ∧ e.out = .result (.ok t)

/-- **Two persons.**  A ticket under dual control is approved before it is consumed, and not by its issuer, if that is
    named without surrounding white space. -/
theorem consumed_after_approval (ops : List Op) (before after : List Step) (e : Step)
    (hrun : entries exec TicketStore.new ops = before ++ e :: after) (t0 : Ticket)
    (hconsume : Consumes t0.id e) (e0 : Step) (he0 : e0 ∈ before) (hissue : Issues t0 e0)
    (hdual : t0.dualControl = true) :
    ∃ e' ∈ before, ∃ approvedBy, Approves t0.id approvedBy e' ∧ trim approvedBy.toList ≠ [] ∧
      ∀ issuer, t0.issuedBy = some issuer → trim issuer.toList = issuer.toList →
        sameIdentity issuer approvedBy = false := by
  have he : e ∈ entries exec TicketStore.new ops := by
    rw [hrun]
    exact List.mem_append_right before List.mem_cons_self
  obtain ⟨now, subject, sql, ty, t', hact, hout⟩ := hconsume
  rw [(entry_eq he).1, hact] at hout
  obtain ⟨t, fp, hget, hactive, _⟩ := consume_success hout
  obtain ⟨hissuer, hflag⟩ := (marked_of_issued_before hrun he0 hissue).2 t hget
  have hvouched : Vouched t0.id t0.issuedBy e.pre := ⟨t, hget, hflag.trans hdual, hactive, hissuer⟩
  have hnew : ¬ Vouched t0.id t0.issuedBy TicketStore.new := by
    rintro ⟨t1, h1, _⟩
    cases h1
  obtain ⟨e', he', by', happroves, hnamed, hdiffer⟩ :=
    made_before (Vouches t0.id t0.issuedBy) (Vouched t0.id t0.issuedBy)
      (vouched_of_exec t0.id t0.issuedBy) before hnew hrun hvouched
  refine ⟨e', he', by', happroves, hnamed, ?_⟩
  intro issuer hi hbare
  have hne := hdiffer issuer hi
  unfold sameIdentity
  rw [hbare]
  simpa [eqIgnoreAsciiCase] using hne

/-- A high-risk statement for `root`, under dual control, with the given issuer. -/
def dualRequest (issuedBy : Option String) : IssueTicketRequest where
  subjectId := "root"
  sql := "DROP TABLE t"
  ticketType := "ddl"
  ttlSecs := 60
  maxUses := 1
  note := none
  issuedBy := issuedBy
  dualControl := true

/-- Issued, approved by `approvedBy`, consumed by `root`. -/
def dualRun (issuedBy : Option String) (approvedBy : String) : List Op :=
  [.issue 1 (dualRequest issuedBy), .approve 2 "tkt-1-1" approvedBy,
    .consume 3 "tkt-1-1" "root" "DROP TABLE t" none]

def dualTicket (issuedBy : Option String) : Ticket :=
  freshTicket 1 1 (dualRequest issuedBy) "drop table t" "DROP TABLE t"

def usedTicket (issuedBy : Option String) (approvedBy : String) : Ticket :=
  { dualTicket issuedBy with
    status := .active, approvedBy := some approvedBy, approvedAtUnixMs := some 2, uses := 1 }

/-- Carrying out `op` in `store`, as a step of a run. -/
def stepAt (store : TicketStore) (op : Op) : Step := ⟨store, op, (exec store op).1, (exec store op).2⟩

def issueStep (issuedBy : Option String) : Step := stepAt TicketStore.new (.issue 1 (dualRequest issuedBy))

def approveStep (issuedBy : Option String) (approvedBy : String) : Step :=
  stepAt (issueStep issuedBy).post (.approve 2 "tkt-1-1" approvedBy)

def consumeStep (issuedBy : Option String) (approvedBy : String) : Step :=
  stepAt (approveStep issuedBy approvedBy).post (.consume 3 "tkt-1-1" "root" "DROP TABLE t" none)

theorem entries_dualRun (issuedBy : Option String) (approvedBy : String) :
    entries exec TicketStore.new (dualRun issuedBy approvedBy) =
      [issueStep issuedBy, approveStep issuedBy approvedBy] ++ consumeStep issuedBy approvedBy :: [] :=
  rfl

theorem dualTicket_id (issuedBy : Option String) : (dualTicket issuedBy).id = "tkt-1-1" := by
  show ticketId 1 1 = "tkt-1-1"
  decide

theorem consumes_consumeStep {issuedBy : Option String} {approvedBy : String}
    (h : (consumeStep issuedBy approvedBy).out = .result (.ok (usedTicket issuedBy approvedBy))) :
    Consumes (dualTicket issuedBy).id (consumeStep issuedBy approvedBy) := by
  refine ⟨3, "root", "DROP TABLE t", none, usedTicket issuedBy approvedBy, ?_, h⟩
  rw [dualTicket_id]
  rfl

/-- With an issuer on record the rule is at work: what `alice` issued, `bob` approved. -/
theorem consumed_after_bob_approved :
    ∃ e' ∈ [issueStep (some "alice"), approveStep (some "alice") "bob"], ∃ approvedBy,
      Approves (dualTicket (some "alice")).id approvedBy e' ∧ trim approvedBy.toList ≠ [] ∧
      ∀ issuer, (dualTicket (some "alice")).issuedBy = some issuer →
        trim issuer.toList = issuer.toList → sameIdentity issuer approvedBy = false := by
  have hissued : Issues (dualTicket (some "alice")) (issueStep (some "alice")) := by
    show (issueStep (some "alice")).out = .issued (dualTicket (some "alice"))
    decide
  exact consumed_after_approval (dualRun (some "alice") "bob") _ [] _
    (entries_dualRun (some "alice") "bob") (dualTicket (some "alice"))
    (consumes_consumeStep (by decide)) _ List.mem_cons_self hissued rfl

/-- **An anonymous request** has no issuer to compare the approver with. -/
theorem approved_without_issuer : ¬ ∀ (ops : List Op) (before after : List Step) (e : Step),
      entries exec TicketStore.new ops = before ++ e :: after → ∀ t0 : Ticket, Consumes t0.id e →
      ∀ e0 ∈ before, Issues t0 e0 → t0.dualControl = true →
      ∃ e' ∈ before, ∃ approvedBy issuer, Approves t0.id approvedBy e' ∧
        t0.issuedBy = some issuer ∧ sameIdentity issuer approvedBy = false := by
  intro h
  have hissued : Issues (dualTicket none) (issueStep none) := by
    show (issueStep none).out = .issued (dualTicket none)
    decide
  obtain ⟨e', _, approvedBy, issuer, _, hissuer, _⟩ :=
    h (dualRun none "alice") _ [] _ (entries_dualRun none "alice") (dualTicket none)
      (consumes_consumeStep (by decide)) _ List.mem_cons_self hissued rfl
  cases hissuer

end DataNexus.Tickets
