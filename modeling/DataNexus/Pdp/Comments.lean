/-
  Comments before a statement, and what they do to its decision.

  Without an object set keyword, tables, ticket and WHERE are read off the text by scanners of their own.

  1. **What is compared** — the decision for `t` is as restrictive as that for `s` (`AsRestrictive`): no allow where `s` is
     refused, a spent ticket apart, and it owes at least what `s` owes.

  2. **Result** — for all policies, subjects and stores `t` is as restrictive as `s` iff the scanners say the same
     (`SameScan`, `asRestrictive_iff`).  One direction follows the pipeline stage by stage; for the other there is a policy
     for each difference.
-/
import DataNexus.Pdp.Authorize
import Mathlib.Data.List.TakeWhile

namespace DataNexus.Pdp

open DataNexus.Text DataNexus.Tickets

/-! ## What is compared -/

inductive Blank : List Char → Prop where
  | nil : Blank []
  | space {c : Char} {rest : List Char} (hc : isWhitespace c = true) (hrest : Blank rest) :
      Blank (c :: rest)
  | line {text rest : List Char} (htext : '\n' ∉ text) (hrest : Blank rest) :
      Blank ('-' :: '-' :: (text ++ '\n' :: rest))
  | block {text rest : List Char} (htext : contains ['*', '/'] text = false) (hrest : Blank rest) :
      Blank ('/' :: '*' :: (text ++ '*' :: '/' :: rest))

def granted : Option SecurityDecision → Option Obligations
  | some (.allow o) => some o
  | some (.allowRewrite _ o) => some o
  | _ => none

theorem granted_eq_none_iff (d : SecurityDecision) : granted (some d) = none ↔ d.isDeny = true := by
  cases d with
  | allow o => exact iff_of_false nofun nofun
  | allowRewrite sql o => exact iff_of_false nofun nofun
  | requireTicket rule ticketType message => exact iff_of_true rfl rfl
  | deny rule message => exact iff_of_true rfl rfl

/-- No mask, row filter, watermark or row cap is lost. -/
structure KeptIn (o o' : Obligations) : Prop where
  columnMasks : ∀ m ∈ o.columnMasks, m ∈ o'.columnMasks
  rowFilter : ∀ f, o.rowFilter = some f → o'.rowFilter = some f
  watermark : ∀ w, o.watermark = some w → o'.watermark = some w
  maxRows : ∀ n, o.maxRows = some n → ∃ n', o'.maxRows = some n' ∧ n' ≤ n

theorem KeptIn.refl (o : Obligations) : KeptIn o o :=
  ⟨fun _ h => h, fun _ h => h, fun _ h => h, fun n h => ⟨n, h, Nat.le_refl n⟩⟩

/-- The second outcome is as restrictive as the first, both from the same ticket store. -/
structure AsRestrictive (store : TicketStore) (plain commented : Option SecurityDecision × TicketStore) :
    Prop where
  refused : ∀ d, plain.1 = some d → d.isDeny = true → granted commented.1 ≠ none → commented.2 ≠ store
  kept : ∀ o o', granted plain.1 = some o → granted commented.1 = some o' → KeptIn o o'

/-! ## What the scanners say -/

/-- The action that the pipeline takes a text for. -/
def actionOf (sql : String) : StatementAction :=
  match leadingKeyword sql with
  | some k => StatementAction.fromKeyword k
  | none => .other

/-- The text test of the high-risk kind `export`. -/
def isExport (sql : String) : Option Bool :=
  (stripTicketComment sql).map fun s =>
    let u := toAsciiUppercase s.toList
    contains " INTO OUTFILE".toList u || contains "DUMPFILE".toList u ||
      startsWith "COPY ".toList u || contains " COPY ".toList u

/-- What a policy sees of `t` is what it sees of `s`.  A scanner that panics ends the call. -/
structure SameScan (rewriters : Rewriters) (s t : String) : Prop where
  action : actionOf t = actionOf s
  keyword : leadingKeyword s = none → leadingKeyword t = none
  tables : extractTableNames t = extractTableNames s
  fingerprint : ∀ f g, sqlFingerprint s = some f → sqlFingerprint t = some g → g = f
  writeNoWhere : isWriteWithoutWhere s = some true → isWriteWithoutWhere t ≠ some false
  exports : isExport s = some true → isExport t ≠ some false
  rowFilter : actionOf s = .select → ∀ f : String, (trim f.toList).isEmpty = false →
    (rewriters.injectRowFilter t f).isSome = (rewriters.injectRowFilter s f).isSome

/-! ## The stages -/

section Stages

variable {c : Call} {s t sql : String} {r : Classified} {store : TicketStore}

theorem classify_noObjects (hdialect : c.dialect = leadingKeyword) (hobjects : c.objects = none) :
    classify c sql =
      if (leadingKeyword sql).isNone && c.reads.entry.failClosed then
        .error (.deny "fail_closed" "security policy deny: empty or unparseable SQL (fail_closed)")
      else .ok ⟨actionOf sql, extractTableNames sql, []⟩ := by
  unfold classify
  rw [hobjects, hdialect]
  rfl

theorem preludeStage_ok_iff (hclassify : classify c sql = .ok r) : preludeStage c sql = some (.ok r) ↔
      (evaluate c.reads.evaluate c.subject c.service r.action r.tables).isDeny = false ∧
        evaluateCedar c.reads.cedar c.subject r.action r.tables = none ∧
        evaluateRemote c.reads.remote c.subject c.service r.action r.tables sql = some none := by
  rw [preludeStage_of_classify hclassify]
  by_cases hdeny : (evaluate c.reads.evaluate c.subject c.service r.action r.tables).isDeny = true
  · rw [if_pos hdeny, hdeny]
    exact iff_of_false nofun nofun
  · rw [if_neg hdeny, Bool.not_eq_true] at *
    rw [and_iff_right hdeny]
    cases evaluateCedar c.reads.cedar c.subject r.action r.tables with
    | some d => exact iff_of_false nofun nofun
    | none =>
      rw [and_iff_right rfl]
      cases evaluateRemote c.reads.remote c.subject c.service r.action r.tables sql with
      | none => exact iff_of_false nofun nofun
      | some remote =>
        cases remote with
        | none => exact iff_of_true rfl rfl
        | some d => exact iff_of_false nofun nofun

theorem sqlOutcome_quiet (hpre : preludeStage c sql = some (.ok r)) (htime : firstTimeRule c r = none)
    (hrisk : matchHighRisk c.reads.highRisk c.subject r.action sql c.objects r.tables = some none) :
    sqlOutcome c sql store = (some (allowPath c sql r), store) := by
  unfold sqlOutcome authorizeSql timeGate highRiskGate
  simp only [scanning, hpre, htime, hrisk, EStateM.run_bind, EStateM.run_pure]

theorem sqlOutcome_refused {d : SecurityDecision} (hpre : preludeStage c sql = some (.error d)) :
    sqlOutcome c sql store = (some d, store) := by
  unfold sqlOutcome authorizeSql
  simp only [scanning, hpre, EStateM.run_bind, EStateM.run_pure]

theorem sqlOutcome_panicked (hpre : preludeStage c sql = none) : sqlOutcome c sql store = (none, store) := by
  unfold sqlOutcome authorizeSql
  simp only [scanning, hpre, EStateM.run_bind]
  rfl

theorem matchHighRisk_of_passed (hasked : ¬ highRiskRule c sql r ≠ none) {store' : TicketStore}
    (hrun : (highRiskGate c sql r).run store = .ok () store') :
    matchHighRisk c.reads.highRisk c.subject r.action sql c.objects r.tables = some none := by
  have hnone : highRiskRule c sql r = none := not_not.mp hasked
  unfold highRiskRule at hnone
  cases hmatch : matchHighRisk c.reads.highRisk c.subject r.action sql c.objects r.tables with
  | none =>
    unfold highRiskGate at hrun
    rw [hmatch] at hrun
    exact absurd hrun nofun
  | some rule =>
    rw [hmatch] at hnone
    exact congrArg some hnone

variable {store₁ : TicketStore} {o : Obligations}

theorem sqlOutcome_afterTime (store : TicketStore) (hpre : preludeStage c sql = some (.ok r))
    (htime : (timeGate c sql r).run store = .ok () store₁) :
    sqlOutcome c sql store =
      match (highRiskGate c sql r).run store₁ with
      | .ok _ store₂ => (some (allowPath c sql r), store₂)
      | .error (.decided d) store₂ => (some d, store₂)
      | .error .panicked store₂ => (none, store₂) := by
  unfold sqlOutcome authorizeSql
  simp only [scanning, hpre, EStateM.run_bind, EStateM.run_pure, htime]
  cases (highRiskGate c sql r).run store₁ with
  | ok u store₂ => rfl
  | error e store₂ => cases e <;> rfl

theorem granted_afterTime (hpre : preludeStage c sql = some (.ok r))
    (htime : (timeGate c sql r).run store = .ok () store₁) (h : granted (sqlOutcome c sql store).1 = some o) :
    granted (some (allowPath c sql r)) = some o ∧
      ((∃ id, extractTicketId sql = some (some id) ∧ SpentOn id store₁ (sqlOutcome c sql store).2) ∨
        ((sqlOutcome c sql store).2 = store₁ ∧
          matchHighRisk c.reads.highRisk c.subject r.action sql c.objects r.tables = some none)) := by
  rw [sqlOutcome_afterTime store hpre htime] at h ⊢
  cases highRiskGate_cases c sql r store₁ with
  | spent id store₂ _ _ hid hspent _ hrun =>
    rw [hrun] at h ⊢
    exact ⟨h, .inl ⟨id, hid, hspent⟩⟩
  | passed _ hasked hrun =>
    have hnone := matchHighRisk_of_passed hasked hrun
    rw [hrun] at h ⊢
    exact ⟨h, .inr ⟨rfl, hnone⟩⟩
  | stopped d _ _ hdeny hrun =>
    rw [hrun] at h
    exact absurd (((granted_eq_none_iff d).mpr hdeny).symm.trans h) nofun
  | panicked _ _ hrun =>
    rw [hrun] at h
    exact absurd h nofun

theorem sqlOutcome_granted (h : granted (sqlOutcome c sql store).1 = some o) :
    ∃ r, preludeStage c sql = some (.ok r) ∧ granted (some (allowPath c sql r)) = some o ∧
      ((sqlOutcome c sql store).2 ≠ store ∨ (firstTimeRule c r = none ∧
        matchHighRisk c.reads.highRisk c.subject r.action sql c.objects r.tables = some none)) := by
  have hrefused : ∀ d store', d.isDeny = true → sqlOutcome c sql store ≠ (some d, store') := by
    intro d store' hdeny hout
    rw [hout] at h
    exact absurd (((granted_eq_none_iff d).mpr hdeny).symm.trans h) nofun
  cases hpre : preludeStage c sql with
  | none =>
    rw [sqlOutcome_panicked hpre] at h
    exact absurd h nofun
  | some outcome =>
    cases outcome with
    | error d => exact absurd (sqlOutcome_refused hpre) (hrefused d store (preludeStage_error hpre))
    | ok r =>
      refine ⟨r, rfl, ?_⟩
      cases timeGate_cases c sql r store with
      | spent id store₁ _ _ hid hspent _ htime =>
        obtain ⟨hallow, ⟨id', hid', hspent'⟩ | ⟨hstore, _⟩⟩ := granted_afterTime hpre htime h
        · have hsame : id' = id := Option.some.inj (Option.some.inj (hid'.symm.trans hid))
          subst hsame
          exact ⟨hallow, .inl (two_uses hspent hspent').1⟩
        · rw [hstore]
          exact ⟨hallow, .inl hspent.ne⟩
      | passed _ hasked htime =>
        obtain ⟨hallow, ⟨id, _, hspent⟩ | ⟨_, hnone⟩⟩ := granted_afterTime hpre htime h
        · exact ⟨hallow, .inl hspent.ne⟩
        · exact ⟨hallow, .inr ⟨not_not.mp hasked, hnone⟩⟩
      | stopped d _ _ hdeny htime =>
        refine absurd ?_ (hrefused d store hdeny)
        unfold sqlOutcome authorizeSql
        simp only [scanning, hpre, EStateM.run_bind, EStateM.run_pure, htime]
      | panicked _ _ htime =>
        have hout : sqlOutcome c sql store = (none, store) := by
          unfold sqlOutcome authorizeSql
          simp only [scanning, hpre, EStateM.run_bind, EStateM.run_pure, htime]
        rw [hout] at h
        exact absurd h nofun

/-! ## The row filter -/

theorem trim_eq_nil_iff (s : List Char) : (trim s).isEmpty = true ↔ ∀ x ∈ s, isWhitespace x = true := by
  unfold trim trimEnd trimStart
  rw [List.isEmpty_iff, List.reverse_eq_nil_iff, List.dropWhile_eq_nil_iff]
  simp only [List.mem_reverse]
  constructor
  · intro h x hx
    by_contra hspace
    have hkept : x ∈ s.dropWhile isWhitespace := by
      rw [← List.takeWhile_append_dropWhile (p := isWhitespace) (l := s)] at hx
      rcases List.mem_append.mp hx with hx | hx
      · exact absurd (List.mem_takeWhile_imp hx) hspace
      · exact hx
    exact hspace (h x hkept)
  · intro h x hx
    exact h x ((List.dropWhile_sublist isWhitespace).subset hx)

theorem collectRowFilter_nonblank {p : LocalPdpInner} {subject : Subject} {action : StatementAction}
    {objects : Option ObjectSet} {tables : List String} {f : String}
    (h : collectRowFilter p subject action objects tables = some f) : (trim f.toList).isEmpty = false := by
  have hall : ∀ f ∈ matchingFilters p subject action objects tables, (trim f.toList).isEmpty = false := by
    unfold matchingFilters
    refine List.foldlRecOn (motive := fun filters : List String => ∀ f ∈ filters, (trim f.toList).isEmpty = false) p.rules _
      (by rintro _ ⟨⟩) ?_
    intro filters hall rule _
    cases rule.rowFilter with
    | none => exact hall
    | some filter =>
      dsimp only
      split
      · exact hall
      · rename_i htest
        intro f hf
        rcases List.mem_append.mp hf with hf | hf
        · exact hall f hf
        · rw [List.mem_singleton.mp hf]
          by_contra hblank
          exact htest (by rw [(Bool.not_eq_false _).mp hblank]; rfl)
  unfold collectRowFilter at h
  generalize matchingFilters p subject action objects tables = filters at hall h
  rcases filters with _ | ⟨first, _ | ⟨second, rest⟩⟩
  · cases h
  · obtain rfl : first = f := Option.some.inj h
    exact hall first List.mem_cons_self
  · obtain rfl : " AND ".intercalate ((first :: second :: rest).map fun f => "(" ++ f ++ ")") = f :=
      Option.some.inj h
    rw [← Bool.not_eq_true, trim_eq_nil_iff]
    intro hspace
    have hparen : '(' ∈ (" AND ".intercalate
        ((first :: second :: rest).map fun f => "(" ++ f ++ ")")).toList := by
      rw [String.toList_intercalate]
      simp
    exact absurd (hspace '(' hparen) (by decide)

theorem granted_allowPath_eq (hobjects : c.objects = none) :
    ∃ owed : Option String → Obligations, (∀ f, (owed f).rowFilter = f) ∧
      ∀ sql, granted (some (allowPath c sql r)) =
        match rowFilterStage c sql none r with
        | .error d => granted (some d)
        | .ok out => some (owed out.2) := by
  refine ⟨fun rowFilter => {
    columnMasks := if r.action = .select then
        collectMaskSpecs c.reads.masks c.subject c.objects r.tables r.columns else []
    rowFilter := rowFilter
    maxRows := c.reads.entry.defaultMaxRows
    auditLevel := none
    watermark := if r.action = .select then
        buildWatermark c.reads.watermark c.subject c.service c.clock.watermarkMs else none },
    fun _ => rfl, ?_⟩
  intro sql
  have hcolumns : columnStage c sql r = .ok none := by
    unfold columnStage
    rw [hobjects]
    split <;> first | rfl | contradiction
  unfold allowPath
  rw [hcolumns]
  dsimp only
  cases rowFilterStage c sql none r with
  | error d => rfl
  | ok out =>
    obtain ⟨rewritten, rowFilter⟩ := out
    cases rewritten <;> rfl

/-- What the allow path owes depends on the text only through whether the row filter can be written into
    it. -/
theorem granted_allowPath (hobjects : c.objects = none)
    (hsame : r.action = .select → ∀ f : String, (trim f.toList).isEmpty = false →
      (c.rewriters.injectRowFilter t f).isSome = (c.rewriters.injectRowFilter s f).isSome) :
    granted (some (allowPath c t r)) = granted (some (allowPath c s r)) := by
  obtain ⟨owed, _, howed⟩ := granted_allowPath_eq (r := r) hobjects
  rw [howed, howed]
  unfold rowFilterStage
  by_cases hselect : r.action = .select
  · rw [if_pos hselect, if_pos hselect]
    cases hfilter : collectRowFilter c.reads.rowFilter c.subject r.action c.objects r.tables with
    | none => rfl
    | some f =>
      have hboth := hsame hselect f (collectRowFilter_nonblank hfilter)
      dsimp only [Option.getD_none]
      cases ht : c.rewriters.injectRowFilter t f with
      | none =>
        rw [ht] at hboth
        have hs : c.rewriters.injectRowFilter s f = none :=
          Option.not_isSome_iff_eq_none.mp (by rw [← hboth]; exact nofun)
        rw [hs]
      | some next =>
        rw [ht] at hboth
        obtain ⟨next', hs⟩ := Option.isSome_iff_exists.mp hboth.symm
        rw [hs]
  · rw [if_neg hselect, if_neg hselect]

/-! ## Same scanners, same restrictions -/

theorem classify_of_sameScan (hscan : SameScan c.rewriters s t) (hdialect : c.dialect = leadingKeyword)
    (hobjects : c.objects = none) (ht : classify c t = .ok r) : classify c s = .ok r := by
  rw [classify_noObjects hdialect hobjects] at ht ⊢
  split at ht
  · exact absurd ht nofun
  · rename_i hkeyword
    have hs : ¬ ((leadingKeyword s).isNone && c.reads.entry.failClosed) = true := by
      intro hs
      obtain ⟨hnone, hclosed⟩ := Bool.and_eq_true_iff.mp hs
      refine hkeyword (Bool.and_eq_true_iff.mpr ⟨?_, hclosed⟩)
      rw [hscan.keyword (Option.isNone_iff_eq_none.mp hnone)]
      rfl
    rw [if_neg hs, ← hscan.action, ← hscan.tables]
    exact ht

theorem matchHighRisk_of_sameScan (hscan : SameScan c.rewriters s t) (rules : List SecurityHighRiskRuleConfig)
    (action : StatementAction) (tables : List String)
    (ht : matchHighRiskFrom c.subject action t none tables rules = some none) :
    matchHighRiskFrom c.subject action s none tables rules = some none ∨
      matchHighRiskFrom c.subject action s none tables rules = none := by
  have hexport : ∀ sql, (stripTicketComment sql).map (fun x =>
      let u := toAsciiUppercase x.toList
      contains " INTO OUTFILE".toList u || contains "DUMPFILE".toList u ||
        startsWith "COPY ".toList u || contains " COPY ".toList u) = isExport sql := fun _ => rfl
  have hhit : ∀ hr, highRiskHit hr action t none tables = some false →
      highRiskHit hr action s none tables ≠ some true := by
    intro hr hfalse htrue
    unfold highRiskHit at hfalse htrue
    rw [hexport] at hfalse htrue
    dsimp only at hfalse htrue
    split at hfalse
    · rename_i hkind
      rw [if_pos hkind] at htrue
      cases hfalse.symm.trans htrue
    · rename_i hkind
      rw [if_neg hkind] at htrue
      split at hfalse
      · rename_i hkind'
        rw [if_pos hkind'] at htrue
        exact hscan.writeNoWhere htrue hfalse
      · rename_i hkind'
        rw [if_neg hkind'] at htrue
        split at hfalse
        · rename_i hkind''
          rw [if_pos hkind''] at htrue
          exact hscan.exports htrue hfalse
        · rename_i hkind''
          rw [if_neg hkind''] at htrue
          cases hfalse.symm.trans htrue
  induction rules with
  | nil => exact .inl rfl
  | cons hr rules ih =>
    rw [matchHighRiskFrom] at ht ⊢
    by_cases hsubject : (!subjectAllowed hr.subjects c.subject) = true
    · rw [if_pos hsubject] at ht ⊢
      exact ih ht
    · rw [if_neg hsubject] at ht ⊢
      cases hitT : highRiskHit hr action t none tables with
      | none =>
        rw [hitT] at ht
        cases ht
      | some hit =>
        rw [hitT] at ht
        cases hit with
        | true => cases ht
        | false =>
          cases hitS : highRiskHit hr action s none tables with
          | none => exact .inr rfl
          | some hitS' =>
            cases hitS' with
            | true => exact absurd hitS (hhit hr hitT)
            | false => exact ih ht

/-- **Texts that scan alike are restricted alike.** -/
theorem asRestrictive_of_sameScan (hscan : SameScan c.rewriters s t) (hdialect : c.dialect = leadingKeyword)
    (hobjects : c.objects = none) : AsRestrictive store (sqlOutcome c s store) (sqlOutcome c t store) := by
  have hrow : ∀ {r}, classify c s = .ok r → r.action = .select → ∀ f : String,
      (trim f.toList).isEmpty = false →
      (c.rewriters.injectRowFilter t f).isSome = (c.rewriters.injectRowFilter s f).isSome := by
    intro r hclassify hselect
    rw [classify_noObjects hdialect hobjects] at hclassify
    split at hclassify
    · cases hclassify
    · cases hclassify
      exact hscan.rowFilter hselect
  constructor
  · intro d hplain hdeny hgranted hsame
    obtain ⟨o, ho⟩ := Option.ne_none_iff_exists'.mp hgranted
    obtain ⟨r, hpreT, hallowT, hspent | ⟨htime, hriskT⟩⟩ := sqlOutcome_granted ho
    · exact hspent hsame
    · -- no ticket rule applies to `t`; then `s` is allowed too, or its scan panics
      have hclassT := preludeStage_ok hpreT
      have hclassS := classify_of_sameScan hscan hdialect hobjects hclassT
      obtain ⟨hevaluate, hcedar, hremoteT⟩ := (preludeStage_ok_iff hclassT).mp hpreT
      have hpreS : preludeStage c s = some (.ok r) ∨ preludeStage c s = none := by
        have hremoteS : evaluateRemote c.reads.remote c.subject c.service r.action r.tables s = some none ∨
            evaluateRemote c.reads.remote c.subject c.service r.action r.tables s = none := by
          unfold evaluateRemote at hremoteT ⊢
          cases hclient : c.reads.remote.remote with
          | none => exact .inl rfl
          | some client =>
            rw [hclient] at hremoteT
            dsimp only at hremoteT ⊢
            obtain ⟨g, hg, hanswer⟩ := Option.map_eq_some_iff.mp hremoteT
            cases hf : sqlFingerprint s with
            | none => exact .inr rfl
            | some f =>
              rw [hscan.fingerprint f g hf hg] at hanswer
              exact .inl (congrArg some hanswer)
        rcases hremoteS with hremote | hremote
        · exact .inl ((preludeStage_ok_iff hclassS).mpr ⟨hevaluate, hcedar, hremote⟩)
        · right
          rw [preludeStage_of_classify hclassS, if_neg (by rw [hevaluate]; rintro ⟨⟩), hcedar, hremote]
          rfl
      rcases hpreS with hpreS | hpreS
      · unfold matchHighRisk at hriskT
        rw [hobjects] at hriskT
        have hriskS := matchHighRisk_of_sameScan hscan c.reads.highRisk.highRiskRules r.action r.tables hriskT
        rcases hriskS with hriskS | hriskS
        · have hquiet : matchHighRisk c.reads.highRisk c.subject r.action s c.objects r.tables = some none := by
            rw [hobjects]
            exact hriskS
          rw [sqlOutcome_quiet hpreS htime hquiet] at hplain
          obtain rfl : allowPath c s r = d := Option.some.inj hplain
          rw [granted_allowPath hobjects (hrow hclassS), (granted_eq_none_iff _).mpr hdeny] at hallowT
          cases hallowT
        · have hpanics : (highRiskGate c s r).run store = .error .panicked store := by
            unfold highRiskGate matchHighRisk
            rw [hobjects, hriskS]
            rfl
          have hpassed : (timeGate c s r).run store = .ok () store := by
            unfold timeGate
            rw [htime]
            rfl
          rw [sqlOutcome_afterTime store hpreS hpassed, hpanics] at hplain
          cases hplain
      · rw [sqlOutcome_panicked hpreS] at hplain
        cases hplain
  · intro o o' hplain hcommented
    obtain ⟨rS, hpreS, hallowS, _⟩ := sqlOutcome_granted hplain
    obtain ⟨rT, hpreT, hallowT, _⟩ := sqlOutcome_granted hcommented
    have hclassS := preludeStage_ok hpreS
    have hclassT := classify_of_sameScan hscan hdialect hobjects (preludeStage_ok hpreT)
    obtain rfl : rT = rS := Except.ok.inj (hclassT.symm.trans hclassS)
    rw [granted_allowPath hobjects (hrow hclassS), hallowS] at hallowT
    obtain rfl : o = o' := Option.some.inj hallowT
    exact KeptIn.refl o

end Stages

/-! ## A policy for each difference -/

def openPolicy : LocalPdpInner where
  failClosed := false
  starPolicy := .allow
  rules := []
  maskRules := []
  columnTags := []
  highRiskRules := []
  timeRules := []
  defaultMaxRows := none
  watermark := ⟨false, "column", "_dn_wm", ""⟩
  cedar := none
  cedarRequired := false
  remote := none

/-- A call under one policy, without an object set. -/
def bareCall (rewriters : Rewriters) (p : LocalPdpInner) : Call where
  rewriters := rewriters
  reads := Reads.single p
  clock := ⟨0, 0, 0, 0, 0⟩
  subject := ⟨"alice", some "alice", none⟩
  service := "svc"
  dialect := leadingKeyword
  objects := none

section Policies

variable {rewriters : Rewriters} {p : LocalPdpInner} {s t sql : String} {store : TicketStore}

theorem classify_bareCall (rewriters : Rewriters) (h : leadingKeyword sql ≠ none ∨ p.failClosed = false) :
    classify (bareCall rewriters p) sql = .ok ⟨actionOf sql, extractTableNames sql, []⟩ := by
  rw [classify_noObjects rfl rfl, if_neg]
  intro hboth
  obtain ⟨hnone, hclosed⟩ := Bool.and_eq_true_iff.mp hboth
  rcases h with h | h
  · exact h (Option.isNone_iff_eq_none.mp hnone)
  · cases h.symm.trans hclosed

/-- The gates before the tickets let the text through. -/
structure Passes (rewriters : Rewriters) (p : LocalPdpInner) (sql : String) : Prop where
  keyword : leadingKeyword sql ≠ none ∨ p.failClosed = false
  rules : (evaluate p ⟨"alice", some "alice", none⟩ "svc" (actionOf sql)
    (extractTableNames sql)).isDeny = false
  cedar : evaluateCedar p ⟨"alice", some "alice", none⟩ (actionOf sql) (extractTableNames sql) = none
  remote : evaluateRemote p ⟨"alice", some "alice", none⟩ "svc" (actionOf sql) (extractTableNames sql)
    sql = some none
  time : p.timeRules = []
  highRisk : matchHighRisk p ⟨"alice", some "alice", none⟩ (actionOf sql) sql none
    (extractTableNames sql) = some none

theorem Passes.outcome (h : Passes rewriters p sql) : sqlOutcome (bareCall rewriters p) sql store =
      (some (allowPath (bareCall rewriters p) sql ⟨actionOf sql, extractTableNames sql, []⟩), store) := by
  have hclassify := classify_bareCall rewriters h.keyword
  have htime : firstTimeRule (bareCall rewriters p) ⟨actionOf sql, extractTableNames sql, []⟩ = none := by
    unfold firstTimeRule
    show p.timeRules.find? _ = none
    rw [h.time]
    rfl
  exact sqlOutcome_quiet ((preludeStage_ok_iff hclassify).mpr ⟨h.rules, h.cedar, h.remote⟩) htime h.highRisk

theorem Passes.granted (h : Passes rewriters p sql)
    (hfilter : collectRowFilter p ⟨"alice", some "alice", none⟩ (actionOf sql) none (extractTableNames sql) = none) :
    granted (sqlOutcome (bareCall rewriters p) sql store).1 ≠ none := by
  rw [h.outcome]
  obtain ⟨owed, _, howed⟩ := granted_allowPath_eq (c := bareCall rewriters p)
    (r := ⟨actionOf sql, extractTableNames sql, []⟩) rfl
  have hstage : rowFilterStage (bareCall rewriters p) sql none
      ⟨actionOf sql, extractTableNames sql, []⟩ = .ok (none, none) := by
    unfold rowFilterStage
    split
    · have hcollect : collectRowFilter (bareCall rewriters p).reads.rowFilter
          (bareCall rewriters p).subject (actionOf sql) (bareCall rewriters p).objects
          (extractTableNames sql) = none := hfilter
      dsimp only
      rw [hcollect]
    · rfl
  show Pdp.granted (some (allowPath _ sql _)) ≠ none
  rw [howed, hstage]
  exact nofun

variable {d : SecurityDecision} {f : String}

theorem not_asRestrictive {c : Call} {plain : TicketStore} (hs : sqlOutcome c s store = (some d, plain))
    (hdeny : d.isDeny = true) (ht : granted (sqlOutcome c t store).1 ≠ none)
    (hstore : (sqlOutcome c t store).2 = store) :
    ¬ AsRestrictive store (sqlOutcome c s store) (sqlOutcome c t store) := by
  intro h
  exact h.refused d (by rw [hs]) hdeny ht hstore

theorem not_asRestrictive_of_passes {plain : TicketStore}
    (hs : sqlOutcome (bareCall rewriters p) s store = (some d, plain)) (hdeny : d.isDeny = true)
    (ht : Passes rewriters p t) (hfilter : collectRowFilter p ⟨"alice", some "alice", none⟩ (actionOf t) none
      (extractTableNames t) = none) : ¬ AsRestrictive store (sqlOutcome (bareCall rewriters p) s store)
      (sqlOutcome (bareCall rewriters p) t store) :=
  not_asRestrictive hs hdeny (ht.granted hfilter) (by rw [ht.outcome])

theorem actionMatchesActions_asStr (a b : StatementAction) : actionMatchesActions [a.asStr] b = true ↔ b = a := by
  cases a <;> cases b <;> decide

theorem action_of_asRestrictive (h : ∀ p, AsRestrictive store (sqlOutcome (bareCall rewriters p) s store)
      (sqlOutcome (bareCall rewriters p) t store)) : actionOf t = actionOf s := by
  by_contra hne
  let p : LocalPdpInner := { openPolicy with
    rules := [⟨"r", "deny", [(actionOf s).asStr], [], [], [], none⟩] }
  have hmatch : ∀ sql, ruleMatches ⟨"r", "deny", [(actionOf s).asStr], [], [], [], none⟩
      ⟨"alice", some "alice", none⟩ (actionOf sql) (extractTableNames sql) =
        actionMatchesActions [(actionOf s).asStr] (actionOf sql) := by
    intro sql
    show (true && _ && true) = _
    rw [Bool.and_true, Bool.true_and]
  have hdeny : evaluate p ⟨"alice", some "alice", none⟩ "svc" (actionOf s) (extractTableNames s) =
      .deny "r" ("security policy '" ++ "r" ++ "' denied " ++ (actionOf s).asStr ++
        " on service '" ++ "svc" ++ "'") := by
    show evaluateRules _ _ _ _ [_] = _
    have heffect : lower "deny" = "deny" := by decide
    rw [evaluateRules, hmatch, (actionMatchesActions_asStr _ _).mpr rfl]
    exact (if_neg nofun).trans (if_pos heffect)
  have hallow : evaluate p ⟨"alice", some "alice", none⟩ "svc" (actionOf t) (extractTableNames t) =
      .allow Obligations.none := by
    have hno : actionMatchesActions [(actionOf s).asStr] (actionOf t) = false := by
      rw [← Bool.not_eq_true, actionMatchesActions_asStr]
      exact hne
    show evaluateRules _ _ _ _ [_] = _
    rw [evaluateRules, hmatch, hno]
    rfl
  have hs : preludeStage (bareCall rewriters p) s = some (.error (evaluate p
      ⟨"alice", some "alice", none⟩ "svc" (actionOf s) (extractTableNames s))) := by
    rw [preludeStage_of_classify (classify_bareCall rewriters (.inr rfl))]
    exact if_pos (show (evaluate p ⟨"alice", some "alice", none⟩ "svc" (actionOf s)
      (extractTableNames s)).isDeny = true by rw [hdeny]; rfl)
  refine not_asRestrictive_of_passes (sqlOutcome_refused hs) (by rw [hdeny]; rfl)
    ⟨.inr rfl, by rw [hallow]; rfl, rfl, rfl, rfl, rfl⟩ rfl (h p)

theorem keyword_of_asRestrictive (h : ∀ p, AsRestrictive store (sqlOutcome (bareCall rewriters p) s store)
      (sqlOutcome (bareCall rewriters p) t store)) (hs : leadingKeyword s = none) : leadingKeyword t = none := by
  by_contra ht
  let p : LocalPdpInner := { openPolicy with failClosed := true }
  have hclassify : classify (bareCall rewriters p) s = .error
      (.deny "fail_closed" "security policy deny: empty or unparseable SQL (fail_closed)") := by
    rw [classify_noObjects rfl rfl, hs]
    rfl
  have hpre : preludeStage (bareCall rewriters p) s = some (.error
      (.deny "fail_closed" "security policy deny: empty or unparseable SQL (fail_closed)")) := by
    unfold preludeStage
    rw [hclassify]
  exact not_asRestrictive_of_passes (sqlOutcome_refused hpre) rfl
    ⟨.inl ht, rfl, rfl, rfl, rfl, rfl⟩ rfl (h p)

theorem tables_of_asRestrictive (h : ∀ p, AsRestrictive store (sqlOutcome (bareCall rewriters p) s store)
      (sqlOutcome (bareCall rewriters p) t store)) : extractTableNames t = extractTableNames s := by
  by_contra hne
  let p : LocalPdpInner := { openPolicy with
    cedarRequired := true
    cedar := some fun _ _ tables => if tables = extractTableNames s then .error "" else .ok () }
  have hcedar : ∀ sql, evaluateCedar p ⟨"alice", some "alice", none⟩ (actionOf sql)
      (extractTableNames sql) =
        if extractTableNames sql = extractTableNames s then some (.deny "cedar" "") else none := by
    intro sql
    unfold evaluateCedar
    refine (if_neg Bool.false_ne_true).trans ?_
    dsimp only [p]
    by_cases heq : extractTableNames sql = extractTableNames s
    · rw [if_pos heq, if_pos heq]
    · rw [if_neg heq, if_neg heq]
  have hs : preludeStage (bareCall rewriters p) s = some (.error (.deny "cedar" "")) := by
    rw [preludeStage_of_classify (classify_bareCall rewriters (.inr rfl))]
    have hdenied : evaluateCedar (bareCall rewriters p).reads.cedar (bareCall rewriters p).subject (actionOf s)
        (extractTableNames s) = some (.deny "cedar" "") := (hcedar s).trans (if_pos rfl)
    dsimp only
    rw [hdenied]
    rfl
  refine not_asRestrictive_of_passes (sqlOutcome_refused hs) rfl
    ⟨.inr rfl, rfl, ?_, rfl, rfl, rfl⟩ rfl (h p)
  rw [hcedar, if_neg hne]

theorem fingerprint_of_asRestrictive (h : ∀ p, AsRestrictive store (sqlOutcome (bareCall rewriters p) s store)
      (sqlOutcome (bareCall rewriters p) t store)) {g : String} (hf : sqlFingerprint s = some f)
    (hg : sqlFingerprint t = some g) : g = f := by
  by_contra hne
  let p : LocalPdpInner := { openPolicy with
    remote := some ⟨fun _ _ _ _ fp => if fp = f then .error "" else .ok (), true⟩ }
  have hremote : ∀ sql fp, sqlFingerprint sql = some fp →
      evaluateRemote p ⟨"alice", some "alice", none⟩ "svc" (actionOf sql) (extractTableNames sql) sql =
        some (if fp = f then some (.deny "remote" "") else none) := by
    intro sql fp hfp
    unfold evaluateRemote
    dsimp only [p]
    rw [hfp, Option.map_some]
    by_cases heq : fp = f
    · rw [if_pos heq, if_pos heq]
      rfl
    · rw [if_neg heq, if_neg heq]
  have hs : preludeStage (bareCall rewriters p) s = some (.error (.deny "remote" "")) := by
    rw [preludeStage_of_classify (classify_bareCall rewriters (.inr rfl))]
    show (evaluateRemote p ⟨"alice", some "alice", none⟩ "svc" (actionOf s) (extractTableNames s) s).map _
      = _
    rw [hremote s f hf, if_pos rfl]
    rfl
  refine not_asRestrictive_of_passes (sqlOutcome_refused hs) rfl
    ⟨.inr rfl, rfl, rfl, ?_, rfl, rfl⟩ rfl (h p)
  rw [hremote t g hg, if_neg hne]

theorem extractTicketId_ne_none (h : stripTicketComment sql ≠ none) : extractTicketId sql ≠ none := by
  intro hid
  refine h ?_
  unfold extractTicketId at hid
  unfold stripTicketComment
  dsimp only at hid ⊢
  split at hid
  · exact absurd hid nofun
  · rename_i hopen
    rw [Bool.not_eq_true', Bool.not_eq_false] at hopen
    rw [if_pos hopen]
    cases hstop : find "*/".toList (trimStart sql.toList) with
    | none =>
      rw [hstop] at hid
      exact absurd hid nofun
    | some stop =>
      rw [hstop] at hid
      dsimp only at hid ⊢
      rw [Option.map_eq_none_iff.mp hid]
      rfl

def kindRule (kind : String) : SecurityHighRiskRuleConfig := ⟨"r", kind, "change", [], [], [], ""⟩

theorem highRisk_of_asRestrictive (kind : String) {test : String → Option Bool}
    (hkind : ∀ action sql tables, highRiskHit (kindRule kind) action sql none tables = test sql)
    (hscan : ∀ sql, test sql ≠ none → stripTicketComment sql ≠ none)
    (h : ∀ p, AsRestrictive TicketStore.new (sqlOutcome (bareCall rewriters p) s TicketStore.new)
      (sqlOutcome (bareCall rewriters p) t TicketStore.new)) (hs : test s = some true) : test t ≠ some false := by
  intro ht
  let p : LocalPdpInner := { openPolicy with highRiskRules := [kindRule kind] }
  have hpre : preludeStage (bareCall rewriters p) s =
      some (.ok ⟨actionOf s, extractTableNames s, []⟩) :=
    (preludeStage_ok_iff (classify_bareCall rewriters (.inr rfl))).mpr ⟨rfl, rfl, rfl⟩
  have hmatch : matchHighRisk p ⟨"alice", some "alice", none⟩ (actionOf s) s none (extractTableNames s) =
      some (some (kindRule kind)) := by
    show matchHighRiskFrom _ _ _ _ _ [kindRule kind] = _
    rw [matchHighRiskFrom]
    refine (if_neg Bool.false_ne_true).trans ?_
    rw [hkind, hs]
  have hpasses : Passes rewriters p t := by
    refine ⟨.inr rfl, rfl, rfl, rfl, rfl, ?_⟩
    show matchHighRiskFrom _ _ _ _ _ [kindRule kind] = _
    rw [matchHighRiskFrom]
    refine (if_neg Bool.false_ne_true).trans ?_
    rw [hkind, ht]
    rfl
  have hstrip : stripTicketComment s ≠ none := hscan s (by rw [hs]; rintro ⟨⟩)
  have hout := sqlOutcome_afterTime TicketStore.new hpre rfl
  -- no ticket exists, so the gate can only refuse
  cases highRiskGate_cases (bareCall rewriters p) s ⟨actionOf s, extractTableNames s, []⟩
      TicketStore.new with
  | spent id store' _ _ _ hspent _ _ =>
    obtain ⟨ticket, hget, _⟩ := hspent
    cases hget
  | passed _ hasked _ =>
    refine hasked ?_
    show (matchHighRisk p ⟨"alice", some "alice", none⟩ (actionOf s) s none
      (extractTableNames s)).join ≠ none
    rw [hmatch]
    rintro ⟨⟩
  | stopped d _ _ hdeny hrun =>
    rw [hrun] at hout
    exact not_asRestrictive_of_passes hout hdeny hpasses rfl (h p)
  | panicked _ hscan' _ =>
    rcases hscan' with hid | hnone
    · exact extractTicketId_ne_none hstrip hid
    · exact hstrip hnone

theorem writeNoWhere_of_asRestrictive
    (h : ∀ p, AsRestrictive TicketStore.new (sqlOutcome (bareCall rewriters p) s TicketStore.new)
      (sqlOutcome (bareCall rewriters p) t TicketStore.new))
    (hs : isWriteWithoutWhere s = some true) : isWriteWithoutWhere t ≠ some false := by
  refine highRisk_of_asRestrictive "write_no_where" ?_ ?_ h hs
  · intro action sql tables
    unfold highRiskHit
    have hlower : lower (kindRule "write_no_where").kind = "write_no_where" := by decide
    rw [hlower, if_neg (by decide), if_pos rfl]
  · intro sql hsome hnone
    refine hsome ?_
    unfold isWriteWithoutWhere
    rw [hnone]
    rfl

theorem export_of_asRestrictive
    (h : ∀ p, AsRestrictive TicketStore.new (sqlOutcome (bareCall rewriters p) s TicketStore.new)
      (sqlOutcome (bareCall rewriters p) t TicketStore.new))
    (hs : isExport s = some true) : isExport t ≠ some false := by
  refine highRisk_of_asRestrictive "export" ?_ ?_ h hs
  · intro action sql tables
    unfold highRiskHit
    have hlower : lower (kindRule "export").kind = "export" := by decide
    rw [hlower, if_neg (by decide), if_neg (by decide), if_pos rfl]
    rfl
  · intro sql hsome hnone
    refine hsome ?_
    unfold isExport
    rw [hnone]
    rfl

def filterPolicy (closed : Bool) (f : String) : LocalPdpInner :=
  { openPolicy with failClosed := closed, rules := [⟨"r", "allow", [], [], [], [], some f⟩] }

theorem collectRowFilter_filterPolicy {closed : Bool} (hf : (trim f.toList).isEmpty = false)
    (action : StatementAction) (tables : List String) :
    collectRowFilter (filterPolicy closed f) ⟨"alice", some "alice", none⟩ action none tables = some f := by
  have hmatching : matchingFilters (filterPolicy closed f) ⟨"alice", some "alice", none⟩ action none
      tables = [f] := by
    show (if ((trim f.toList).isEmpty || false || false) = true then [] else [] ++ [f]) = [f]
    rw [hf]
    rfl
  unfold collectRowFilter
  rw [hmatching]

theorem filterPolicy_outcome (rewriters : Rewriters) (store : TicketStore) (closed : Bool)
    (hf : (trim f.toList).isEmpty = false) (hselect : actionOf sql = .select) :
    ∃ d, sqlOutcome (bareCall rewriters (filterPolicy closed f)) sql store = (some d, store) ∧
      ∃ owed : Option String → Obligations, (∀ f, (owed f).rowFilter = f) ∧
        granted (some d) = match rewriters.injectRowFilter sql f with
          | some _ => some (owed (some f))
          | none => if closed then none else some (owed none) := by
  have hkeyword : leadingKeyword sql ≠ none := by
    intro hnone
    unfold actionOf at hselect
    rw [hnone] at hselect
    exact absurd hselect nofun
  have hallow : evaluate (filterPolicy closed f) ⟨"alice", some "alice", none⟩ "svc" (actionOf sql)
      (extractTableNames sql) = .allow Obligations.none := by
    have hdeny : lower "allow" ≠ "deny" := by decide
    have hallows : lower "allow" = "allow" := by decide
    have hmatches : ruleMatches ⟨"r", "allow", [], [], [], [], some f⟩ ⟨"alice", some "alice", none⟩
        (actionOf sql) (extractTableNames sql) = true := rfl
    show evaluateRules _ _ _ _ [_] = _
    rw [evaluateRules, hmatches]
    exact (if_neg nofun).trans ((if_neg hdeny).trans (if_pos hallows))
  have hpasses : Passes rewriters (filterPolicy closed f) sql :=
    ⟨.inl hkeyword, by rw [hallow]; rfl, rfl, rfl, rfl, rfl⟩
  obtain ⟨owed, hfilter, howed⟩ := granted_allowPath_eq
    (c := bareCall rewriters (filterPolicy closed f)) (r := ⟨actionOf sql, extractTableNames sql, []⟩) rfl
  refine ⟨_, hpasses.outcome, owed, hfilter, ?_⟩
  rw [howed]
  have hcollect : collectRowFilter (bareCall rewriters (filterPolicy closed f)).reads.rowFilter
      (bareCall rewriters (filterPolicy closed f)).subject (actionOf sql)
      (bareCall rewriters (filterPolicy closed f)).objects (extractTableNames sql) = some f :=
    collectRowFilter_filterPolicy hf _ _
  have hstage : rowFilterStage (bareCall rewriters (filterPolicy closed f)) sql none
      ⟨actionOf sql, extractTableNames sql, []⟩ =
        match rewriters.injectRowFilter sql f with
        | some next => .ok (some next, some f)
        | none => if closed then .error (.deny "row_filter"
            ("security policy deny: cannot inject row_filter '" ++ f ++ "' into SQL"))
          else .ok (none, none) := by
    unfold rowFilterStage
    rw [if_pos hselect]
    dsimp only
    rw [hcollect]
    rfl
  rw [hstage]
  cases rewriters.injectRowFilter sql f with
  | some next => rfl
  | none => cases closed <;> rfl

theorem rowFilter_of_asRestrictive (h : ∀ p, AsRestrictive store (sqlOutcome (bareCall rewriters p) s store)
      (sqlOutcome (bareCall rewriters p) t store)) (hs : actionOf s = .select) (ht : actionOf t = .select)
    (hf : (trim f.toList).isEmpty = false) :
    (rewriters.injectRowFilter t f).isSome = (rewriters.injectRowFilter s f).isSome := by
  cases hinS : rewriters.injectRowFilter s f with
  | some next =>
    cases hinT : rewriters.injectRowFilter t f with
    | some next' => rfl
    | none =>
      -- an open policy lets `t` through without the filter
      obtain ⟨d, hout, owed, hfilter, hgranted⟩ := filterPolicy_outcome rewriters
        store false hf hs
      obtain ⟨d', hout', owed', hfilter', hgranted'⟩ := filterPolicy_outcome rewriters
        store false hf ht
      have hp := h (filterPolicy false f)
      rw [hout, hout'] at hp
      rw [hinS] at hgranted
      rw [hinT] at hgranted'
      have hkept := (hp.kept _ _ hgranted hgranted').rowFilter f (hfilter _)
      rw [hfilter'] at hkept
      exact absurd hkept nofun
  | none =>
    cases hinT : rewriters.injectRowFilter t f with
    | none => rfl
    | some next =>
      -- a fail-closed policy refuses `s`
      obtain ⟨d, hout, owed, hfilter, hgranted⟩ := filterPolicy_outcome rewriters
        store true hf hs
      obtain ⟨d', hout', owed', hfilter', hgranted'⟩ := filterPolicy_outcome rewriters
        store true hf ht
      rw [hinS] at hgranted
      rw [hinT] at hgranted'
      refine absurd (h (filterPolicy true f))
        (not_asRestrictive hout ((granted_eq_none_iff d).mp hgranted) ?_ ?_)
      · rw [hout', hgranted']
        exact nofun
      · rw [hout']

theorem asRestrictive_iff : (∀ p, AsRestrictive TicketStore.new (sqlOutcome (bareCall rewriters p) s TicketStore.new)
      (sqlOutcome (bareCall rewriters p) t TicketStore.new)) ↔ SameScan rewriters s t := by
  constructor
  · intro h
    have haction := action_of_asRestrictive h
    exact {
      action := haction
      keyword := keyword_of_asRestrictive h
      tables := tables_of_asRestrictive h
      fingerprint := fun f g => fingerprint_of_asRestrictive h
      writeNoWhere := writeNoWhere_of_asRestrictive h
      exports := export_of_asRestrictive h
      rowFilter := fun hselect f hf =>
        rowFilter_of_asRestrictive h hselect (haction.trans hselect) hf }
  · intro h p
    exact asRestrictive_of_sameScan h rfl rfl

end Policies

/-! ## Result -/

/-- **Exactly the prefixes that no scanner sees leave the decision as restrictive as it was**, blank or
    not.  `command` is any command that carries a text. -/
theorem prefixed_asRestrictive_iff (rewriters : Rewriters) (p s : List Char) :
    (∀ (c : Call) (store : TicketStore) (command : String → GatewayCommand), c.rewriters = rewriters →
        c.dialect = leadingKeyword → c.objects = none → (∀ sql, sqlText (command sql) = some sql) →
        AsRestrictive store (authorizeCommandWithObjects c (command (String.ofList s)) store)
          (authorizeCommandWithObjects c (command (String.ofList (p ++ s))) store)) ↔
      SameScan rewriters (String.ofList s) (String.ofList (p ++ s)) := by
  constructor
  · intro h
    rw [← asRestrictive_iff]
    intro policy
    have hquery := h (bareCall rewriters policy) TicketStore.new .query rfl rfl rfl (fun _ => rfl)
    rwa [authorizeCommand_of_sqlText rfl, authorizeCommand_of_sqlText rfl] at hquery
  · intro hscan c store command hrewriters hdialect hobjects htext
    rw [authorizeCommand_of_sqlText (htext _), authorizeCommand_of_sqlText (htext _)]
    subst hrewriters
    exact asRestrictive_of_sameScan hscan hdialect hobjects

def noSelect : LocalPdpInner := { openPolicy with rules := [⟨"no_select", "deny", ["select"], [], [], [], none⟩] }

/-- A comment in front makes `/*` the keyword: the statement is no Select any more. -/
theorem commented_select_allowed : Blank "/* report */ ".toList ∧
      ¬ ∀ (c : Call) (store : TicketStore) (command : String → GatewayCommand),
        c.rewriters = ⟨fun _ _ => none, fun _ _ => none⟩ → c.dialect = leadingKeyword →
        c.objects = none → (∀ sql, sqlText (command sql) = some sql) → AsRestrictive store
          (authorizeCommandWithObjects c (command "SELECT ssn FROM users") store)
          (authorizeCommandWithObjects c (command "/* report */ SELECT ssn FROM users") store) := by
  constructor
  · have htext : contains ['*', '/'] " report ".toList = false := by decide
    exact Blank.block htext (.space (by decide) .nil)
  · intro h
    have hquery := h (bareCall ⟨fun _ _ => none, fun _ _ => none⟩ noSelect) TicketStore.new .query
      rfl rfl rfl (fun _ => rfl)
    rw [authorizeCommand_of_sqlText rfl, authorizeCommand_of_sqlText rfl] at hquery
    have hdenied : (sqlOutcome (bareCall ⟨fun _ _ => none, fun _ _ => none⟩ noSelect)
        "SELECT ssn FROM users" TicketStore.new).1 = some (.deny "no_select"
          "security policy 'no_select' denied select on service 'svc'") := by decide
    have hallowed : sqlOutcome (bareCall ⟨fun _ _ => none, fun _ _ => none⟩ noSelect)
        "/* report */ SELECT ssn FROM users" TicketStore.new =
          (some (.allow Obligations.none), TicketStore.new) := by rfl
    refine hquery.refused _ hdenied rfl ?_ ?_
    · rw [hallowed]
      exact nofun
    · rw [hallowed]

end DataNexus.Pdp
