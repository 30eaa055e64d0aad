/-
  `authorize_command_with_objects`: the decision pipeline and the tickets it spends.

  In `EStateM`: the state is the ticket store, the exception an early return (`Stop.decided`) or a panic of a scanner.

      preludeStage fail-closed checks, classification, table rules, Cedar, remote PDP   (no ticket)
      timeGate    time rules; effect `require_ticket` CONSUMES a use and falls through
      highRisk    high-risk rules; CONSUMES a use and falls through
      allowPath   column ACL, row filter, masks, watermark; can still DENY              (no ticket)

  Every `self.inner()` is a fresh read of the snapshot: `Reads` holds one snapshot per read.

  `authorize_ticket_iff`: a ticket is spent only on a command that is let through, and at most once, unless a use was spent
  and a high-risk rule or the allow path then denies.
-/
import DataNexus.Pdp.Policy

namespace DataNexus.Pdp

open DataNexus.Text DataNexus.Tickets

/-! ## The environment of one call -/

/-- One snapshot for each `self.inner()` of the call, in source order. -/
structure Reads where
  entry : LocalPdpInner
  evaluate : LocalPdpInner
  cedar : LocalPdpInner
  remote : LocalPdpInner
  time : LocalPdpInner
  highRisk : LocalPdpInner
  hasColumnRules : LocalPdpInner
  columnAcl : LocalPdpInner
  rowFilter : LocalPdpInner
  masks : LocalPdpInner
  watermark : LocalPdpInner

def Reads.single (p : LocalPdpInner) : Reads := ⟨p, p, p, p, p, p, p, p, p, p, p⟩

structure Clock where
  /-- `security_now_unix_secs()`. -/
  securityNow : Int
  /-- `Local::now().offset()`, in minutes. -/
  localOffset : Int
  /-- `now_unix_ms()` in the consume of the time gate. -/
  timeTicketMs : Nat
  /-- `now_unix_ms()` in the consume of the high-risk gate. -/
  highRiskTicketMs : Nat
  /-- The reading inside `build_watermark`. -/
  watermarkMs : Nat

/-- The arguments of one call, with what it reads from its surroundings.  `dialect` is
    `DialectParser::leading_keyword` of the parser object passed in. -/
structure Call where
  rewriters : Rewriters
  reads : Reads
  clock : Clock
  subject : Subject
  service : String
  dialect : String → Option String
  objects : Option ObjectSet

inductive Stop where
  /-- `return decision`. -/
  | decided (d : SecurityDecision)
  | panicked

abbrev PdpM := EStateM Stop TicketStore

/-- An early `return`. -/
def stopWith (d : SecurityDecision) : PdpM Unit := throw (.decided d)

def scanning {α : Type} (x : Option α) : PdpM α :=
  match x with
  | some a => pure a
  | none => throw .panicked

/-! ## Stages -/

/-- What the preludeStage hands to the later stages. -/
structure Classified where
  action : StatementAction
  tables : List String
  columns : List String

/-- The fail-closed checks on the object set and the keyword. -/
def classify (c : Call) (sql : String) : Except SecurityDecision Classified :=
  let p := c.reads.entry
  let badParse := match c.objects with
    | some set => set.parseFailed && set.objects.isEmpty && p.failClosed
    | none => false
  if badParse then
    .error (.deny "fail_closed" "security policy deny: SQL object extraction failed (fail_closed)")
  else
    let keyword := c.dialect sql
    if keyword.isNone && p.failClosed then
      .error (.deny "fail_closed" "security policy deny: empty or unparseable SQL (fail_closed)")
    else
      let action := match keyword with
        | some k => StatementAction.fromKeyword k
        | none => .other
      match c.objects with
      | some set =>
        if set.parseFailed && set.objects.isEmpty then .ok ⟨action, extractTableNames sql, []⟩
        else .ok ⟨action, set.tables, collectBareColumns set⟩
      | none => .ok ⟨action, extractTableNames sql, []⟩

/-- Classification, table rules, Cedar and the remote decision point, apart from the ticket store; `none` is a panic. -/
def preludeStage (c : Call) (sql : String) : Option (Except SecurityDecision Classified) :=
  match classify c sql with
  | .error d => some (.error d)
  | .ok r =>
    let tableDecision := evaluate c.reads.evaluate c.subject c.service r.action r.tables
    if tableDecision.isDeny then some (.error tableDecision)
    else match evaluateCedar c.reads.cedar c.subject r.action r.tables with
      | some d => some (.error d)
      | none =>
        (evaluateRemote c.reads.remote c.subject c.service r.action r.tables sql).map fun remote =>
          match remote with
          | some d => .error d
          | none => .ok r

variable {c : Call} {r : Classified} {store' s₀ s₁ s₂ : TicketStore} {d : SecurityDecision}

theorem preludeStage_of_classify {sql : String} (hclassify : classify c sql = .ok r) :
    preludeStage c sql =
      if (evaluate c.reads.evaluate c.subject c.service r.action r.tables).isDeny then
        some (.error (evaluate c.reads.evaluate c.subject c.service r.action r.tables))
      else match evaluateCedar c.reads.cedar c.subject r.action r.tables with
        | some d => some (.error d)
        | none =>
          (evaluateRemote c.reads.remote c.subject c.service r.action r.tables sql).map fun remote =>
            match remote with
            | some d => .error d
            | none => .ok r := by
  unfold preludeStage
  rw [hclassify]

/-- The shape of `try_consume_ticket` and `try_consume_time_ticket`: find the id in the text, consume
    one use.  `hint` is the message when the text names no ticket, `rejected e` when the store refuses. -/
def tryConsume (c : Call) (sql ticketType hint : String) (rejected : String → String) (now : Nat) :
    PdpM (Except String String) := do
  match ← scanning (extractTicketId sql) with
  | none => pure (.error hint)
  | some ticketId =>
    let store ← get
    let (answer, store') := store.consume now ticketId c.subject.subjectId sql (some ticketType)
    match ← scanning answer with
    | .ok t => do
      set store'
      pure (.ok t.id)
    | .error e => pure (.error (rejected e))

def tryConsumeTimeTicket (c : Call) (sql : String) (tr : SecurityTimeRuleConfig) : PdpM (Except String String) :=
  tryConsume c sql tr.ticketType
    ("security time policy '" ++ tr.name ++ "': " ++
      (if (trim tr.message.toList).isEmpty then "outside allowed time window; ticket required"
        else tr.message) ++
      " (ticket type '" ++ tr.ticketType ++ "'; prefix SQL with /*dn_ticket:<id>*/)")
    (fun e => "security time policy '" ++ tr.name ++ "' ticket rejected: " ++ e)
    c.clock.timeTicketMs

def tryConsumeTicket (c : Call) (sql : String) (hr : SecurityHighRiskRuleConfig) : PdpM (Except String String) :=
  tryConsume c sql hr.ticketType
    (if (trim hr.message.toList).isEmpty then
        "security policy '" ++ hr.name ++ "' requires ticket type '" ++ hr.ticketType ++
          "'; re-issue via POST /admin/tickets and prefix SQL with /*dn_ticket:<id>*/"
      else "security policy '" ++ hr.name ++ "': " ++ hr.message ++ " (ticket type '" ++
        hr.ticketType ++ "'; prefix SQL with /*dn_ticket:<id>*/)")
    (fun e => "security policy '" ++ hr.name ++ "' ticket rejected: " ++ e)
    c.clock.highRiskTicketMs

/-- The time rule that decides: the first one that applies now. -/
def firstTimeRule (c : Call) (r : Classified) : Option SecurityTimeRuleConfig :=
  c.reads.time.timeRules.find? fun tr =>
    timeRuleApplies tr c.clock.localOffset c.clock.securityNow c.subject r.action c.objects r.tables

/-- `evaluate_time_rules` and the `return` of its decision. -/
def timeGate (c : Call) (sql : String) (r : Classified) : PdpM Unit :=
  match firstTimeRule c r with
  | none => pure ()
  | some tr =>
    if lower tr.effect = "require_ticket" then do
      match ← tryConsumeTimeTicket c sql tr with
      | .ok _ => pure ()
      | .error message => stopWith (.requireTicket tr.name tr.ticketType message)
    else stopWith (.deny tr.name (timeRuleMessage tr r.action))

/-- `match_high_risk`, then the ticket it asks for. -/
def highRiskGate (c : Call) (sql : String) (r : Classified) : PdpM Unit := do
  match ← scanning (matchHighRisk c.reads.highRisk c.subject r.action sql c.objects r.tables) with
  | none => pure ()
  | some hr =>
    match ← tryConsumeTicket c sql hr with
    | .ok _ => pure ()
    | .error message => stopWith (.requireTicket hr.name hr.ticketType message)

def hasColumnRules (p : LocalPdpInner) : Bool := p.rules.any fun r => !r.columns.isEmpty

/-- The column stage: the rewritten text, if any, or the denial. -/
def columnStage (c : Call) (sql : String) (r : Classified) : Except SecurityDecision (Option String) :=
  match hasColumnRules c.reads.hasColumnRules, c.objects with
  | true, some set =>
    if !set.parseFailed || !set.objects.isEmpty then
      match evaluateColumnAcl c.rewriters c.reads.columnAcl c.subject c.service r.action set sql with
      | .unchanged => .ok none
      | .rewrite rewritten => .ok (some rewritten)
      | .deny rule message => .error (.deny rule message)
    else if c.reads.entry.failClosed then
      .error (.deny "fail_closed"
        "security policy deny: column ACL requires parseable SQL (fail_closed)")
    else .ok none
  | _, _ => .ok none

/-- The row-filter stage: the rewritten text and the filter, or the denial.  The filter is injected
    into the text as the column stage left it. -/
def rowFilterStage (c : Call) (sql : String) (rewritten : Option String) (r : Classified) :
    Except SecurityDecision (Option String × Option String) :=
  if r.action = .select then
    match collectRowFilter c.reads.rowFilter c.subject r.action c.objects r.tables with
    | none => .ok (rewritten, none)
    | some filter =>
      match c.rewriters.injectRowFilter (rewritten.getD sql) filter with
      | some next => .ok (some next, some filter)
      | none =>
        if c.reads.entry.failClosed then
          .error (.deny "row_filter"
            ("security policy deny: cannot inject row_filter '" ++ filter ++ "' into SQL"))
        else .ok (rewritten, none)
  else .ok (rewritten, none)

def allowPath (c : Call) (sql : String) (r : Classified) : SecurityDecision :=
  match columnStage c sql r with
  | .error d => d
  | .ok rewritten =>
    match rowFilterStage c sql rewritten r with
    | .error d => d
    | .ok (rewritten, rowFilter) =>
      let select := r.action = .select
      let obligations : Obligations := {
        columnMasks := if select then
            collectMaskSpecs c.reads.masks c.subject c.objects r.tables r.columns else []
        rowFilter := rowFilter
        maxRows := c.reads.entry.defaultMaxRows
        auditLevel := none
        watermark := if select then
            buildWatermark c.reads.watermark c.subject c.service c.clock.watermarkMs else none }
      match rewritten with
      | some sql' => .allowRewrite sql' obligations
      | none => .allow obligations

/-- The SQL branch: `Query`, `QueryParams`, `Prepare` and `DescribeSql`. -/
def authorizeSql (c : Call) (sql : String) : PdpM SecurityDecision := do
  match ← scanning (preludeStage c sql) with
  | .error d => pure d
  | .ok r => do
    timeGate c sql r
    highRiskGate c sql r
    pure (allowPath c sql r)

/-- `authorize_command_with_objects`. -/
def authorizeCommand (c : Call) : GatewayCommand → PdpM SecurityDecision
  | .ping | .quit | .closeStatement _ | .clientWire _ | .pgBackendSync =>
    pure (.allow Obligations.none)
  | .begin | .commit | .rollback =>
    pure (evaluate c.reads.evaluate c.subject c.service .tcl [])
  | .useDatabase database =>
    pure (evaluate c.reads.evaluate c.subject c.service .other [database])
  | .execute _ _ =>
    if c.reads.entry.failClosed then
      pure (.deny "fail_closed"
        "security policy deny: prepared EXECUTE not classified (fail_closed)")
    else pure (.allow { Obligations.none with maxRows := c.reads.entry.defaultMaxRows })
  | .query sql | .queryParams sql _ | .prepare sql | .describeSql sql => authorizeSql c sql

/-- What a call returns (`none`: it panicked) and the ticket store it leaves. -/
def authorizeCommandWithObjects (c : Call) (command : GatewayCommand) (store : TicketStore) :
    Option SecurityDecision × TicketStore :=
  match (authorizeCommand c command).run store with
  | .ok d store' => (some d, store')
  | .error (.decided d) store' => (some d, store')
  | .error .panicked store' => (none, store')

/-! ## Spending one use -/

/-- `SpentOn id store store'` — one use of ticket `id` was spent and nothing else changed. -/
def SpentOn (id : String) (store store' : TicketStore) : Prop :=
  ∃ t, store.get id = some t ∧ store' = { store with inner := store.inner.insert id { t with uses := t.uses + 1 } }

theorem SpentOn.uses {id : String} {store : TicketStore} (h : SpentOn id store store') :
    ∃ t, store.get id = some t ∧ store'.get id = some { t with uses := t.uses + 1 } := by
  obtain ⟨t, hget, rfl⟩ := h
  refine ⟨t, hget, ?_⟩
  rw [get_insert store store.seq id id _, if_pos rfl]

theorem SpentOn.frame {id id' : String} {store : TicketStore} (h : SpentOn id store store') (hne : id' ≠ id) :
    store'.get id' = store.get id' := by
  obtain ⟨t, hget, rfl⟩ := h
  rw [get_insert store store.seq id id' _, if_neg hne]

theorem SpentOn.ne {id : String} {store : TicketStore} (h : SpentOn id store store') : store' ≠ store := by
  intro heq
  obtain ⟨t, hget, hget'⟩ := h.uses
  rw [heq, hget] at hget'
  have huses : t.uses = t.uses + 1 := congrArg Ticket.uses (Option.some.inj hget')
  omega

theorem two_uses {id : String} (h₁ : SpentOn id s₀ s₁) (h₂ : SpentOn id s₁ s₂) :
    s₂ ≠ s₀ ∧ ∀ id', ¬SpentOn id' s₀ s₂ := by
  obtain ⟨t, hget₀, hget₁⟩ := h₁.uses
  obtain ⟨t', hget₁', hget₂⟩ := h₂.uses
  have ht' : t' = { t with uses := t.uses + 1 } := Option.some.inj (hget₁'.symm.trans hget₁)
  have huses : ∀ u, s₂.get id = some u → u.uses = t.uses + 2 := by
    intro u hu
    rw [Option.some.inj (hu.symm.trans hget₂), ht']
  refine ⟨?_, ?_⟩
  · intro heq
    have := huses t (heq ▸ hget₀)
    omega
  · intro id' hspent
    by_cases hid : id' = id
    · subst hid
      obtain ⟨u, hu, hu'⟩ := hspent.uses
      have h2 := huses _ hu'
      rw [Option.some.inj (hu.symm.trans hget₀)] at h2
      simp only at h2
      omega
    · have hsame := hspent.frame (Ne.symm hid)
      have := huses t (hsame.trans hget₀)
      omega

/-- Does the text name a ticket that the store accepts for this call? -/
def acceptsTicket (c : Call) (sql ticketType : String) (now : Nat) (store : TicketStore) : Bool :=
  match extractTicketId sql with
  | some (some id) =>
    match (store.consume now id c.subject.subjectId sql (some ticketType)).1 with
    | some (.ok _) => true
    | _ => false
  | _ => false

/-- A text on which one of the ticket scanners panics. -/
def Unscannable (sql : String) : Prop := extractTicketId sql = none ∨ stripTicketComment sql = none

/-- What a call of `try_consume_*` can do: spend one use of the ticket the text names (exactly when
    that ticket is accepted), or leave the store alone and report an error, or panic. -/
inductive Consumes (sql : String) (accepted : Bool) (store : TicketStore)
    (m : PdpM (Except String String)) : Prop
  | spent (id tid : String) (store' : TicketStore) (hacc : accepted = true)
      (hid : extractTicketId sql = some (some id)) (hspent : SpentOn id store store')
      (hscan : ¬Unscannable sql) (hrun : m.run store = .ok (.ok tid) store')
  | refused (message : String) (hacc : accepted = false)
      (hrun : m.run store = .ok (.error message) store)
  | panicked (hacc : accepted = false) (hscan : Unscannable sql)
      (hrun : m.run store = .error .panicked store)

theorem tryConsume_cases (c : Call) (sql ty hint : String) (rejected : String → String) (now : Nat)
    (store : TicketStore) : Consumes sql (acceptsTicket c sql ty now store) store
      (tryConsume c sql ty hint rejected now) := by
  unfold acceptsTicket tryConsume
  cases hid : extractTicketId sql with
  | none => exact .panicked rfl (Or.inl hid) rfl
  | some found =>
    cases found with
    | none => exact .refused hint rfl rfl
    | some id =>
      rcases consume_cases store now id c.subject.subjectId sql (some ty) with
        h | ⟨e, h⟩ | ⟨fp, t, t', hfp, hget, hok, h⟩
      · -- the store panicked, which only the fingerprint does
        refine .panicked (by simp only [h]) (Or.inr ?_) ?_
        · have hnone : (store.consume now id c.subject.subjectId sql (some ty)).1 = none := by
            rw [h]
          unfold TicketStore.consume at hnone
          cases hstrip : stripTicketComment sql with
          | none => rfl
          | some s => simp [sqlFingerprint, hstrip] at hnone
        · simp only [scanning, EStateM.run_bind, EStateM.run_pure, EStateM.run_get, h]
          rfl
      · refine .refused (rejected e) (by simp only [h]) ?_
        simp only [scanning, EStateM.run_bind, EStateM.run_pure, EStateM.run_get, h]
      · obtain ⟨_, _, _, _, _, _, rfl⟩ := consumeTicket_ok hok
        refine .spent id t.id _ (by simp only [h]) hid ⟨t, hget, rfl⟩ ?_ ?_
        · rintro (hnone | hnone)
          · rw [hid] at hnone; cases hnone
          · simp [sqlFingerprint, hnone] at hfp
        · simp only [scanning, EStateM.run_bind, EStateM.run_pure, EStateM.run_get, h]
          rfl

/-! ## The two gates -/

/-- The time gate is going to spend a use: the deciding time rule asks for a ticket and the one the
    text names is accepted. -/
def timeSpends (c : Call) (sql : String) (r : Classified) (store : TicketStore) : Bool :=
  match firstTimeRule c r with
  | some tr =>
    lower tr.effect == "require_ticket" &&
      acceptsTicket c sql tr.ticketType c.clock.timeTicketMs store
  | none => false

/-- The high-risk rule that matches the statement, if any. -/
def highRiskRule (c : Call) (sql : String) (r : Classified) : Option SecurityHighRiskRuleConfig :=
  (matchHighRisk c.reads.highRisk c.subject r.action sql c.objects r.tables).join

/-- The high-risk gate is going to spend a use. -/
def highRiskSpends (c : Call) (sql : String) (r : Classified) (store : TicketStore) : Bool :=
  match highRiskRule c sql r with
  | some hr => acceptsTicket c sql hr.ticketType c.clock.highRiskTicketMs store
  | none => false

/-- What a ticket gate can do.  `asked` says that a rule of the gate applies, `spends` that the ticket
    it asks for is accepted. -/
inductive Gate (sql : String) (asked : Prop) (spends : Bool) (store : TicketStore) (m : PdpM Unit) :
    Prop
  | spent (id : String) (store' : TicketStore) (hspends : spends = true) (hasked : asked)
      (hid : extractTicketId sql = some (some id)) (hspent : SpentOn id store store')
      (hscan : ¬Unscannable sql) (hrun : m.run store = .ok () store')
  | passed (hspends : spends = false) (hasked : ¬asked) (hrun : m.run store = .ok () store)
  | stopped (d : SecurityDecision) (hspends : spends = false) (hasked : asked)
      (hdeny : d.isDeny = true) (hrun : m.run store = .error (.decided d) store)
  | panicked (hspends : spends = false) (hscan : Unscannable sql)
      (hrun : m.run store = .error .panicked store)

theorem timeGate_cases (c : Call) (sql : String) (r : Classified) (store : TicketStore) :
    Gate sql (firstTimeRule c r ≠ none) (timeSpends c sql r store) store (timeGate c sql r) := by
  unfold timeSpends timeGate
  cases htr : firstTimeRule c r with
  | none => exact .passed rfl (by simp) rfl
  | some tr =>
    simp only
    by_cases heff : lower tr.effect = "require_ticket"
    · rw [if_pos heff]
      simp only [heff, beq_self_eq_true, Bool.true_and]
      have hcases : Consumes sql (acceptsTicket c sql tr.ticketType c.clock.timeTicketMs store) store
          (tryConsumeTimeTicket c sql tr) := tryConsume_cases c sql tr.ticketType _ _ _ store
      cases hcases with
      | spent id tid store' hacc hid hspent hscan hrun =>
        refine .spent id store' hacc (by simp) hid hspent hscan ?_
        simp only [EStateM.run_bind, hrun]
        rfl
      | refused message hacc hrun =>
        refine .stopped (.requireTicket tr.name tr.ticketType message) hacc (by simp) rfl ?_
        simp only [EStateM.run_bind, hrun]
        rfl
      | panicked hacc hscan hrun =>
        refine .panicked hacc hscan ?_
        simp only [EStateM.run_bind, hrun]
    · rw [if_neg heff]
      exact .stopped (.deny tr.name (timeRuleMessage tr r.action)) (by simp [heff]) (by simp) rfl rfl

/-- Matching the high-risk rules panics only where `strip_ticket_comment` does. -/
theorem matchHighRisk_panics {sql : String}
    (h : matchHighRisk c.reads.highRisk c.subject r.action sql c.objects r.tables = none) :
    stripTicketComment sql = none := by
  unfold matchHighRisk at h
  cases hstrip : stripTicketComment sql with
  | none => rfl
  | some s =>
    have hhit : ∀ hr, highRiskHit hr r.action sql c.objects r.tables ≠ none := by
      intro hr
      simp only [highRiskHit, isWriteWithoutWhere, hstrip, Option.map_some]
      split_ifs <;> simp
    exfalso
    generalize c.reads.highRisk.highRiskRules = rules at h
    induction rules with
    | nil => simp [matchHighRiskFrom] at h
    | cons hr rules ih =>
      rw [matchHighRiskFrom] at h
      split at h
      · exact ih h
      · split at h
        · rename_i hnone
          exact hhit hr hnone
        · cases h
        · exact ih h

theorem highRiskGate_cases (c : Call) (sql : String) (r : Classified) (store : TicketStore) :
    Gate sql (highRiskRule c sql r ≠ none) (highRiskSpends c sql r store) store (highRiskGate c sql r) := by
  unfold highRiskSpends highRiskGate highRiskRule
  cases hmatch : matchHighRisk c.reads.highRisk c.subject r.action sql c.objects r.tables with
  | none => exact .panicked rfl (Or.inr (matchHighRisk_panics hmatch)) rfl
  | some rule =>
    cases rule with
    | none => exact .passed rfl (by simp) rfl
    | some hr =>
      simp only [Option.join_some]
      have hcases : Consumes sql
          (acceptsTicket c sql hr.ticketType c.clock.highRiskTicketMs store) store
          (tryConsumeTicket c sql hr) := tryConsume_cases c sql hr.ticketType _ _ _ store
      cases hcases with
      | spent id tid store' hacc hid hspent hscan hrun =>
        refine .spent id store' hacc (by simp) hid hspent hscan ?_
        simp only [scanning, EStateM.run_bind, EStateM.run_pure, hrun]
      | refused message hacc hrun =>
        refine .stopped (.requireTicket hr.name hr.ticketType message) hacc (by simp) rfl ?_
        simp only [scanning, EStateM.run_bind, EStateM.run_pure, hrun]
        rfl
      | panicked hacc hscan hrun =>
        refine .panicked hacc hscan ?_
        simp only [scanning, EStateM.run_bind, EStateM.run_pure, hrun]

theorem highRiskSpends_scannable {sql : String} {store : TicketStore} (h : highRiskSpends c sql r store = true) :
    ¬Unscannable sql := by
  cases highRiskGate_cases c sql r store with
  | spent id store' hspends hasked hid hspent hscan hrun => exact hscan
  | passed hspends hasked hrun => rw [h] at hspends; cases hspends
  | stopped d hspends hasked hdeny hrun => rw [h] at hspends; cases hspends
  | panicked hspends hscan hrun => rw [h] at hspends; cases hspends

/-! ## Tickets and decisions -/

def sqlText : GatewayCommand → Option String
  | .query sql | .queryParams sql _ | .prepare sql | .describeSql sql => some sql
  | _ => none

/-- **A ticket is spent only on an authorised command**: none after a refusal, at most one after an allow. -/
def SpentOnlyIfAllowed (store : TicketStore) (out : Option SecurityDecision × TicketStore) : Prop :=
  match out.1 with
  | none => True
  | some d => if d.isDeny then out.2 = store else out.2 = store ∨ ∃ id, SpentOn id store out.2

/-- The calls that waste a use: a ticket is spent, and then the high-risk rule or the allow path denies. -/
def Wastes (c : Call) (sql : String) (store : TicketStore) : Prop :=
  ∃ r, preludeStage c sql = some (.ok r) ∧
    ((timeSpends c sql r store = true ∧
        (highRiskRule c sql r ≠ none ∨ (allowPath c sql r).isDeny = true)) ∨
      (firstTimeRule c r = none ∧ highRiskSpends c sql r store = true ∧ (allowPath c sql r).isDeny = true))

/-- What the SQL branch returns, read off `authorizeSql`. -/
def sqlOutcome (c : Call) (sql : String) (store : TicketStore) : Option SecurityDecision × TicketStore :=
  match (authorizeSql c sql).run store with
  | .ok d store' => (some d, store')
  | .error (.decided d) store' => (some d, store')
  | .error .panicked store' => (none, store')

theorem authorizeCommand_of_sqlText {command : GatewayCommand} {store : TicketStore} {sql : String}
    (h : sqlText command = some sql) : authorizeCommandWithObjects c command store = sqlOutcome c sql store := by
  cases command <;> simp only [sqlText, Option.some.injEq, reduceCtorEq] at h <;> subst h <;> rfl

theorem spentOnlyIfAllowed_same (store : TicketStore) (d : Option SecurityDecision) :
    SpentOnlyIfAllowed store (d, store) := by
  unfold SpentOnlyIfAllowed
  cases d with
  | none => trivial
  | some d =>
    show if d.isDeny = true then store = store else store = store ∨ _
    split
    · rfl
    · exact Or.inl rfl

theorem spentOnlyIfAllowed_spent {id : String} {store : TicketStore} (h : SpentOn id store store') :
    SpentOnlyIfAllowed store (some d, store') ↔ d.isDeny = false := by
  unfold SpentOnlyIfAllowed
  simp only
  split
  · rename_i hdeny
    exact ⟨fun heq => absurd heq h.ne, fun hno => by rw [hno] at hdeny; cases hdeny⟩
  · rename_i hdeny
    exact ⟨fun _ => by simpa using hdeny, fun _ => Or.inr ⟨id, h⟩⟩

theorem spentOnlyIfAllowed_twice {id : String} (h₁ : SpentOn id s₀ s₁) (h₂ : SpentOn id s₁ s₂) :
    ¬SpentOnlyIfAllowed s₀ (some d, s₂) := by
  obtain ⟨hne, hone⟩ := two_uses h₁ h₂
  unfold SpentOnlyIfAllowed
  simp only
  split
  · exact hne
  · rintro (heq | ⟨id', hspent⟩)
    · exact hne heq
    · exact hone id' hspent

theorem afterTimeSpend {sql id : String} {store store₁ : TicketStore}
    (hid : extractTicketId sql = some (some id)) (hscan : ¬Unscannable sql) (hspent : SpentOn id store store₁)
    (hpre : preludeStage c sql = some (.ok r)) (hrun : (timeGate c sql r).run store = .ok () store₁) :
    SpentOnlyIfAllowed store (sqlOutcome c sql store) ↔
      ¬(highRiskRule c sql r ≠ none ∨ (allowPath c sql r).isDeny = true) := by
  unfold sqlOutcome authorizeSql
  simp only [scanning, hpre, EStateM.run_bind, EStateM.run_pure, hrun]
  cases highRiskGate_cases c sql r store₁ with
  | spent id' store₂ hspends hasked hid' hspent' hscan' hrun' =>
    -- both gates name the same ticket, so it loses two uses
    have hsame : id' = id := by
      rw [hid] at hid'
      exact (Option.some.inj (Option.some.inj hid')).symm
    subst hsame
    simp only [hrun']
    exact ⟨fun h => absurd h (spentOnlyIfAllowed_twice hspent hspent'), fun h => absurd (Or.inl hasked) h⟩
  | passed hspends hasked hrun' =>
    simp only [hrun']
    rw [spentOnlyIfAllowed_spent hspent]
    simp [hasked]
  | stopped d hspends hasked hdeny hrun' =>
    simp only [hrun']
    rw [spentOnlyIfAllowed_spent hspent, hdeny]
    simp [hasked]
  | panicked hspends hscan' hrun' => exact absurd hscan' hscan

theorem afterTimePass {sql : String} {store : TicketStore} (hpre : preludeStage c sql = some (.ok r))
    (hrun : (timeGate c sql r).run store = .ok () store) : SpentOnlyIfAllowed store (sqlOutcome c sql store) ↔
      ¬(highRiskSpends c sql r store = true ∧ (allowPath c sql r).isDeny = true) := by
  unfold sqlOutcome authorizeSql
  simp only [scanning, hpre, EStateM.run_bind, EStateM.run_pure, hrun]
  cases highRiskGate_cases c sql r store with
  | spent id store₂ hspends hasked hid hspent hscan hrun' =>
    simp only [hrun']
    rw [spentOnlyIfAllowed_spent hspent]
    simp [hspends]
  | passed hspends hasked hrun' =>
    simp only [hrun', hspends]
    exact ⟨fun _ => by simp, fun _ => spentOnlyIfAllowed_same store _⟩
  | stopped d hspends hasked hdeny hrun' =>
    simp only [hrun', hspends]
    exact ⟨fun _ => by simp, fun _ => spentOnlyIfAllowed_same store _⟩
  | panicked hspends hscan hrun' =>
    simp only [hrun', hspends]
    exact ⟨fun _ => by simp, fun _ => spentOnlyIfAllowed_same store _⟩

theorem sqlOutcome_iff (c : Call) (sql : String) (store : TicketStore) :
    SpentOnlyIfAllowed store (sqlOutcome c sql store) ↔ ¬Wastes c sql store := by
  cases hpre : preludeStage c sql with
  | none =>
    have hout : sqlOutcome c sql store = (none, store) := by
      unfold sqlOutcome authorizeSql
      simp only [scanning, hpre, EStateM.run_bind]
      rfl
    rw [hout]
    refine ⟨?_, fun _ => spentOnlyIfAllowed_same store _⟩
    rintro _ ⟨r, hr, _⟩
    rw [hpre] at hr
    cases hr
  | some outcome =>
    cases outcome with
    | error d =>
      have hout : sqlOutcome c sql store = (some d, store) := by
        unfold sqlOutcome authorizeSql
        simp only [scanning, hpre, EStateM.run_bind, EStateM.run_pure]
      rw [hout]
      refine ⟨?_, fun _ => spentOnlyIfAllowed_same store _⟩
      rintro _ ⟨r, hr, _⟩
      rw [hpre] at hr
      cases hr
    | ok r =>
      -- `Wastes` speaks about this `r` and no other
      have hwastes : Wastes c sql store ↔
          ((timeSpends c sql r store = true ∧
              (highRiskRule c sql r ≠ none ∨ (allowPath c sql r).isDeny = true)) ∨
            (firstTimeRule c r = none ∧ highRiskSpends c sql r store = true ∧
              (allowPath c sql r).isDeny = true)) := by
        constructor
        · rintro ⟨r', hr', h⟩
          rw [hpre] at hr'
          cases hr'
          exact h
        · intro h
          exact ⟨r, hpre, h⟩
      rw [hwastes]
      cases timeGate_cases c sql r store with
      | spent id store₁ hspends hasked hid hspent hscan hrun =>
        rw [afterTimeSpend hid hscan hspent hpre hrun]
        simp [hspends, hasked]
      | passed hspends hasked hrun =>
        rw [afterTimePass hpre hrun]
        simp only [hspends, not_not.mp hasked]
        simp
      | stopped d hspends hasked hdeny hrun =>
        have hout : sqlOutcome c sql store = (some d, store) := by
          unfold sqlOutcome authorizeSql
          simp only [scanning, hpre, EStateM.run_bind, EStateM.run_pure, hrun]
        rw [hout]
        refine ⟨fun _ => ?_, fun _ => spentOnlyIfAllowed_same store _⟩
        rintro (h | h)
        · rw [hspends] at h; cases h.1
        · exact hasked h.1
      | panicked hspends hscan hrun =>
        have hout : sqlOutcome c sql store = (none, store) := by
          unfold sqlOutcome authorizeSql
          simp only [scanning, hpre, EStateM.run_bind, EStateM.run_pure, hrun]
        rw [hout]
        refine ⟨fun _ => ?_, fun _ => spentOnlyIfAllowed_same store _⟩
        rintro (h | h)
        · rw [hspends] at h; cases h.1
        · exact highRiskSpends_scannable h.2.1 hscan

/-- **When tickets are spent only on authorised commands**: a refusal leaves the store as it was and an allow spends at
    most one use, if and only if the call is not one of `Wastes`. -/
theorem authorize_ticket_iff (c : Call) (command : GatewayCommand) (store : TicketStore) :
    SpentOnlyIfAllowed store (authorizeCommandWithObjects c command store) ↔
      ∀ sql, sqlText command = some sql → ¬Wastes c sql store := by
  cases htext : sqlText command with
  | some sql =>
    rw [authorizeCommand_of_sqlText htext, sqlOutcome_iff]
    refine ⟨?_, fun h => h sql rfl⟩
    intro h sql' hs
    cases hs
    exact h
  | none =>
    -- every other command is answered without the store
    have hsame : ∃ d, authorizeCommandWithObjects c command store = (some d, store) := by
      cases command with
      | execute id params =>
        unfold authorizeCommandWithObjects authorizeCommand
        by_cases hfc : c.reads.entry.failClosed = true
        · exact ⟨_, by rw [if_pos hfc]; rfl⟩
        · exact ⟨_, by rw [if_neg hfc]; rfl⟩
      | query sql => cases htext
      | queryParams sql params => cases htext
      | prepare sql => cases htext
      | describeSql sql => cases htext
      | _ => exact ⟨_, rfl⟩
    obtain ⟨d, hd⟩ := hsame
    rw [hd]
    refine ⟨?_, fun _ => spentOnlyIfAllowed_same store _⟩
    intro _ sql hs
    cases hs

/-! ## A wasted ticket -/

/-- Two ticket gates on one statement: a time rule that is always outside its window, and a high-risk rule. -/
def bothGates : LocalPdpInner where
  failClosed := true
  starPolicy := .deny
  rules := []
  maskRules := []
  columnTags := []
  highRiskRules := [⟨"bulk-write", "write_no_where", "bulk", [], [], [], ""⟩]
  timeRules := [⟨"freeze", "require_ticket", true, [], "00:00", "00:00", "UTC", ["*"], [], [], "bulk", ""⟩]
  defaultMaxRows := none
  watermark := ⟨false, "column", "_dn_wm", ""⟩
  cedar := none
  cedarRequired := false
  remote := none

/-- `alice` under that policy, at time zero, with the default dialect and no object set. -/
def bothGatesCall : Call where
  rewriters := ⟨fun _ _ => none, fun _ _ => none⟩
  reads := Reads.single bothGates
  clock := ⟨0, 0, 0, 0, 0⟩
  subject := ⟨"alice", some "alice", none⟩
  service := "svc"
  dialect := leadingKeyword
  objects := none

/-- A store with one single-use ticket for `alice` and this statement. -/
def oneTicket : TicketStore := (TicketStore.new.issue 0 ⟨"alice", "DELETE FROM t", "bulk", 600, 1, none, none, false⟩).2

/-- The time gate spends the only use, the high-risk gate then finds none left and refuses: the
    command is not run and the ticket is gone. -/
theorem bothGates_wastes_ticket : ¬SpentOnlyIfAllowed oneTicket (authorizeCommandWithObjects bothGatesCall
        (.query "/*dn_ticket:tkt-0-1*/ DELETE FROM t") oneTicket) := by
  have hdecision : ((authorizeCommandWithObjects bothGatesCall
      (.query "/*dn_ticket:tkt-0-1*/ DELETE FROM t") oneTicket).1.map SecurityDecision.isDeny) =
        some true := by decide
  have hspent : ((authorizeCommandWithObjects bothGatesCall
      (.query "/*dn_ticket:tkt-0-1*/ DELETE FROM t") oneTicket).2.get "tkt-0-1").map Ticket.uses =
        some 1 := by decide
  have hunspent : (oneTicket.get "tkt-0-1").map Ticket.uses = some 0 := by decide
  intro h
  obtain ⟨d, hd, hdeny⟩ := Option.map_eq_some_iff.mp hdecision
  unfold SpentOnlyIfAllowed at h
  rw [hd] at h
  simp only [hdeny, if_true] at h
  rw [h, hunspent] at hspent
  cases hspent

/-! ## What an allow owes -/

theorem preludeStage_error {sql : String} (h : preludeStage c sql = some (.error d)) : d.isDeny = true := by
  have hclassify : ∀ d, classify c sql = .error d → d.isDeny = true := by
    intro d hd
    unfold classify at hd
    dsimp only at hd
    repeat' split at hd
    all_goals first | cases hd; rfl | cases hd
  unfold preludeStage at h
  cases hc : classify c sql with
  | error d' =>
    rw [hc] at h
    cases h
    exact hclassify _ hc
  | ok r =>
    rw [hc] at h
    dsimp only at h
    split at h
    · rename_i hdeny
      cases h
      exact hdeny
    · split at h
      · rename_i d' hcedar
        cases h
        unfold evaluateCedar at hcedar
        repeat' split at hcedar
        all_goals cases hcedar
        · rfl
        · rfl
      · obtain ⟨remote, hremote, heq⟩ := Option.map_eq_some_iff.mp h
        cases remote with
        | none => cases heq
        | some d' =>
          cases heq
          unfold evaluateRemote at hremote
          split at hremote
          · cases hremote
          · obtain ⟨fp, _, hfp⟩ := Option.map_eq_some_iff.mp hremote
            repeat' split at hfp
            all_goals cases hfp
            rfl

theorem preludeStage_ok {sql : String} (h : preludeStage c sql = some (.ok r)) : classify c sql = .ok r := by
  unfold preludeStage at h
  cases hc : classify c sql with
  | error d =>
    rw [hc] at h
    cases h
  | ok r' =>
    rw [hc] at h
    dsimp only at h
    split at h
    · cases h
    · split at h
      · cases h
      · obtain ⟨remote, _, heq⟩ := Option.map_eq_some_iff.mp h
        cases remote with
        | none =>
          cases heq
          rfl
        | some d => cases heq

theorem sqlOutcome_allowed {sql : String} {store : TicketStore} (h : (sqlOutcome c sql store).1 = some d)
    (hallow : d.isDeny = false) : ∃ r, classify c sql = .ok r ∧ allowPath c sql r = d := by
  have hrefused : ∀ d', d'.isDeny = true → some d' = some d → False := by
    intro d' hdeny heq
    cases heq
    rw [hallow] at hdeny
    cases hdeny
  unfold sqlOutcome authorizeSql at h
  cases hpre : preludeStage c sql with
  | none =>
    simp only [scanning, hpre, EStateM.run_bind] at h
    cases h
  | some outcome =>
    cases outcome with
    | error d' =>
      simp only [scanning, hpre, EStateM.run_bind, EStateM.run_pure] at h
      exact (hrefused d' (preludeStage_error hpre) h).elim
    | ok r =>
      refine ⟨r, preludeStage_ok hpre, ?_⟩
      have hpath : ∀ store', (timeGate c sql r).run store = .ok () store' → allowPath c sql r = d := by
        intro store' htime
        simp only [scanning, hpre, EStateM.run_bind, EStateM.run_pure, htime] at h
        cases highRiskGate_cases c sql r store' with
        | spent id store₂ _ _ _ _ _ hrun =>
          rw [hrun] at h
          exact Option.some.inj h
        | passed _ _ hrun =>
          rw [hrun] at h
          exact Option.some.inj h
        | stopped d' _ _ hdeny hrun =>
          rw [hrun] at h
          exact (hrefused d' hdeny h).elim
        | panicked _ _ hrun =>
          rw [hrun] at h
          cases h
      cases timeGate_cases c sql r store with
      | spent id store₁ _ _ _ _ _ hrun => exact hpath _ hrun
      | passed _ _ hrun => exact hpath _ hrun
      | stopped d' _ _ hdeny hrun =>
        simp only [scanning, hpre, EStateM.run_bind, EStateM.run_pure, hrun] at h
        exact (hrefused d' hdeny h).elim
      | panicked _ _ hrun =>
        simp only [scanning, hpre, EStateM.run_bind, EStateM.run_pure, hrun] at h
        cases h

/-- The obligations of an allowed text: masks and watermark if it is a SELECT, and the row cap of the
    policy.  A row filter is in the text too. -/
structure Owes (c : Call) (r : Classified) (o : Obligations) : Prop where
  columnMasks : o.columnMasks = if r.action = .select then
    collectMaskSpecs c.reads.masks c.subject c.objects r.tables r.columns else []
  watermark : o.watermark = if r.action = .select then
    buildWatermark c.reads.watermark c.subject c.service c.clock.watermarkMs else none
  maxRows : o.maxRows = c.reads.entry.defaultMaxRows

theorem allowPath_owes {sql : String} {o : Obligations}
    (h : allowPath c sql r = .allow o ∨ ∃ sql', allowPath c sql r = .allowRewrite sql' o) : Owes c r o := by
  unfold allowPath at h
  cases hcol : columnStage c sql r with
  | error d =>
    -- a refusal of the column stage is no allow
    rw [hcol] at h
    dsimp only at h
    have hdeny : d.isDeny = true := by
      unfold columnStage at hcol
      repeat' split at hcol
      all_goals first | cases hcol; rfl | cases hcol
    rcases h with rfl | ⟨sql', rfl⟩
    · cases hdeny
    · cases hdeny
  | ok rewritten =>
    rw [hcol] at h
    dsimp only at h
    cases hrow : rowFilterStage c sql rewritten r with
    | error d =>
      rw [hrow] at h
      dsimp only at h
      have hdeny : d.isDeny = true := by
        unfold rowFilterStage at hrow
        repeat' split at hrow
        all_goals first | cases hrow; rfl | cases hrow
      rcases h with rfl | ⟨sql', rfl⟩
      · cases hdeny
      · cases hdeny
    | ok out =>
      obtain ⟨rewritten', rowFilter⟩ := out
      rw [hrow] at h
      dsimp only at h
      cases rewritten' with
      | none =>
        rcases h with h | ⟨sql', h⟩
        · cases h
          exact ⟨rfl, rfl, rfl⟩
        · cases h
      | some text =>
        rcases h with h | ⟨sql', h⟩
        · cases h
        · cases h
          exact ⟨rfl, rfl, rfl⟩

end DataNexus.Pdp
