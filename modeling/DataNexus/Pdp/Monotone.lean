/-
  Denials and larger table sets.

  `evaluate` reads an ORDERED rule list: the first table rule that matches decides, and a rule matches as soon as one
  touched table matches one of its patterns.  With more tables the search can only stop EARLIER (`decides_mono`); a denial
  is lost exactly when it stops at an allow rule, and that rule matches one of the added tables (`deny_lost_iff`).
-/
import DataNexus.Pdp.Policy

namespace DataNexus.Pdp

open DataNexus.Text

/-! ## First match -/

/-- The rule decides a request: a table rule (not a column rule) that matches, with effect `deny` or `allow`. -/
def decides (subject : Subject) (action : StatementAction) (tables : List String) (rule : SecurityRuleConfig) : Bool :=
  rule.columns.isEmpty && ruleMatches rule subject action tables &&
    (lower rule.effect == "deny" || lower rule.effect == "allow")

section

variable {subject : Subject} {service : String} {action : StatementAction}

/-- **First match.**  The loop denies iff the first rule that decides has effect `deny`. -/
theorem isDeny_evaluateRules (tables : List String) (rules : List SecurityRuleConfig) :
    (evaluateRules subject service action tables rules).isDeny =
      (rules.find? (decides subject action tables)).any fun rule => lower rule.effect == "deny" := by
  induction rules with
  | nil => rfl
  | cons rule rules ih =>
    rw [evaluateRules, List.find?_cons]
    by_cases hskip : (!rule.columns.isEmpty || !ruleMatches rule subject action tables) = true
    · -- a column rule, or no match
      have hno : decides subject action tables rule = false := by
        unfold decides
        rcases Bool.or_eq_true_iff.mp hskip with h | h <;> simp at h <;> simp [h]
      rw [if_pos hskip, hno]
      exact ih
    · have hboth : rule.columns.isEmpty = true ∧ ruleMatches rule subject action tables = true := by
        simpa using hskip
      rw [if_neg hskip]
      by_cases hdeny : lower rule.effect = "deny"
      · have hyes : decides subject action tables rule = true := by
          simp [decides, hboth.1, hboth.2, hdeny]
        rw [if_pos hdeny, hyes]
        simp [SecurityDecision.isDeny, hdeny]
      · rw [if_neg hdeny]
        by_cases hallow : lower rule.effect = "allow"
        · have hyes : decides subject action tables rule = true := by
            simp [decides, hboth.1, hboth.2, hallow]
          rw [if_pos hallow, hyes]
          simp [SecurityDecision.isDeny, hallow]
        · -- any other effect is passed over
          have hno : decides subject action tables rule = false := by
            simp [decides, hdeny, hallow]
          rw [if_neg hallow, hno]
          exact ih

/-! ## More tables -/

variable {patterns extra : List String}

theorem tablesHit_union {few all : List String} (hall : ∀ t, t ∈ all ↔ t ∈ few ∨ t ∈ extra) :
    tablesHit patterns all = true ↔ tablesHit patterns few = true ∨ tablesHit patterns extra = true := by
  unfold tablesHit
  simp only [List.any_eq_true]
  constructor
  · rintro ⟨t, ht, hp⟩
    rcases (hall t).mp ht with h | h
    · exact Or.inl ⟨t, h, hp⟩
    · exact Or.inr ⟨t, h, hp⟩
  · rintro (⟨t, ht, hp⟩ | ⟨t, ht, hp⟩)
    · exact ⟨t, (hall t).mpr (Or.inl ht), hp⟩
    · exact ⟨t, (hall t).mpr (Or.inr ht), hp⟩

theorem isEmpty_of_tablesHit {tables : List String} (h : tablesHit patterns tables = true) :
    tables.isEmpty = false := by
  cases tables with
  | nil => cases h
  | cons t tables => rfl

theorem ruleMatches_iff {rule : SecurityRuleConfig} {tables : List String} :
    ruleMatches rule subject action tables = true ↔
      (subjectAllowed rule.subjects subject = true ∧ actionMatchesActions rule.actions action = true) ∧
        (rule.tables.isEmpty = true ∨ tablesHit rule.tables tables = true) := by
  unfold ruleMatches
  rw [Bool.and_eq_true, Bool.and_eq_true, Bool.or_eq_true, Bool.and_eq_true]
  constructor
  · rintro ⟨hsa, hempty | ⟨_, hhit⟩⟩
    · exact ⟨hsa, Or.inl hempty⟩
    · exact ⟨hsa, Or.inr hhit⟩
  · rintro ⟨hsa, hempty | hhit⟩
    · exact ⟨hsa, Or.inl hempty⟩
    · exact ⟨hsa, Or.inr ⟨by rw [isEmpty_of_tablesHit hhit]; rfl, hhit⟩⟩

theorem ruleMatches_union {rule : SecurityRuleConfig} {few all : List String}
    (hall : ∀ t, t ∈ all ↔ t ∈ few ∨ t ∈ extra) :
    (ruleMatches rule subject action few = true → ruleMatches rule subject action all = true) ∧
    (ruleMatches rule subject action all = true → ruleMatches rule subject action few = false →
      tablesHit rule.tables extra = true) := by
  constructor
  · intro h
    obtain ⟨hsa, hempty | hhit⟩ := ruleMatches_iff.mp h
    · exact ruleMatches_iff.mpr ⟨hsa, Or.inl hempty⟩
    · exact ruleMatches_iff.mpr ⟨hsa, Or.inr ((tablesHit_union hall).mpr (Or.inl hhit))⟩
  · intro h hnot
    obtain ⟨hsa, hempty | hhit⟩ := ruleMatches_iff.mp h
    · rw [ruleMatches_iff.mpr ⟨hsa, Or.inl hempty⟩] at hnot
      cases hnot
    · rcases (tablesHit_union hall).mp hhit with hfew | hextra
      · rw [ruleMatches_iff.mpr ⟨hsa, Or.inr hfew⟩] at hnot
        cases hnot
      · exact hextra

theorem decides_mono {rule : SecurityRuleConfig} {few all : List String}
    (hall : ∀ t, t ∈ all ↔ t ∈ few ∨ t ∈ extra) (h : decides subject action few rule = true) :
    decides subject action all rule = true := by
  unfold decides at h ⊢
  rw [Bool.and_eq_true, Bool.and_eq_true] at h ⊢
  exact ⟨⟨h.1.1, (ruleMatches_union hall).1 h.1.2⟩, h.2⟩

end

/-- **When a denial is lost**: exactly when the first rule that decides the larger request is an allow rule; it matches an
    added table and did not match before. -/
theorem deny_lost_iff (p : LocalPdpInner) (subject : Subject) (service : String)
    (action : StatementAction) (few extra all : List String) (hall : ∀ t, t ∈ all ↔ t ∈ few ∨ t ∈ extra)
    (hdeny : (evaluate p subject service action few).isDeny = true) :
    (evaluate p subject service action all).isDeny = false ↔ ∃ above rule below, p.rules = above ++ rule :: below ∧
        (rule.columns = [] ∧ lower rule.effect = "allow") ∧
        ruleMatches rule subject action all = true ∧ ruleMatches rule subject action few = false ∧
        tablesHit rule.tables extra = true ∧ ∀ q ∈ above, decides subject action all q = false := by
  unfold evaluate at hdeny ⊢
  rw [isDeny_evaluateRules] at hdeny ⊢
  -- the rule that denied
  obtain ⟨denier, hdenier, heffect⟩ : ∃ denier,
      p.rules.find? (decides subject action few) = some denier ∧ lower denier.effect = "deny" := by
    cases hfind : p.rules.find? (decides subject action few) with
    | none =>
      rw [hfind] at hdeny
      cases hdeny
    | some denier =>
      rw [hfind] at hdeny
      exact ⟨denier, rfl, by simpa using hdeny⟩
  have hstill : decides subject action all denier = true := decides_mono hall (List.find?_some hdenier)
  constructor
  · intro hlost
    cases hfind : p.rules.find? (decides subject action all) with
    | none =>
      have hnone := List.find?_eq_none.mp hfind denier (List.mem_of_find?_eq_some hdenier)
      exact absurd hstill hnone
    | some rule =>
      rw [hfind] at hlost
      obtain ⟨hrule, above, below, hsplit, habove⟩ := List.find?_eq_some_iff_append.mp hfind
      have habove' : ∀ q ∈ above, decides subject action all q = false := by
        intro q hq
        simpa using habove q hq
      have hparts : (rule.columns.isEmpty = true ∧ ruleMatches rule subject action all = true) ∧
          (lower rule.effect = "deny" ∨ lower rule.effect = "allow") := by
        simpa [decides] using hrule
      have hcolumns : rule.columns = [] := by simpa using hparts.1.1
      have hallow : lower rule.effect = "allow" := by
        rcases hparts.2 with h | h
        · simp [h] at hlost
        · exact h
      -- had it matched before, it would have been the first then, too
      have hbefore : ruleMatches rule subject action few = false := by
        by_contra hnot
        have hmatch : ruleMatches rule subject action few = true := by simpa using hnot
        have hdecided : decides subject action few rule = true := by
          simp [decides, hcolumns, hallow, hmatch]
        have hfirst : p.rules.find? (decides subject action few) = some rule := by
          refine List.find?_eq_some_iff_append.mpr ⟨hdecided, above, below, hsplit, ?_⟩
          intro q hq
          by_contra hq'
          have := decides_mono hall (by simpa using hq')
          rw [habove' q hq] at this
          cases this
        rw [hfirst] at hdenier
        cases hdenier
        rw [hallow] at heffect
        exact absurd heffect (by decide)
      exact ⟨above, rule, below, hsplit, ⟨hcolumns, hallow⟩, hparts.1.2, hbefore,
        (ruleMatches_union hall).2 hparts.1.2 hbefore, habove'⟩
  · rintro ⟨above, rule, below, hsplit, ⟨hcolumns, hallow⟩, hmatch, _, _, habove⟩
    have hrule : decides subject action all rule = true := by
      simp [decides, hcolumns, hallow, hmatch]
    have hfirst : p.rules.find? (decides subject action all) = some rule :=
      List.find?_eq_some_iff_append.mpr ⟨hrule, above, below, hsplit, fun q hq => by
        rw [habove q hq]
        rfl⟩
    rw [hfirst]
    simp [hallow]

/-- A policy of two rules: `orders` is allowed, `secrets` is denied. -/
def allowThenDeny : LocalPdpInner where
  failClosed := true
  starPolicy := .deny
  rules := [⟨"orders", "allow", [], ["orders"], [], [], none⟩,
    ⟨"secrets", "deny", [], ["secrets"], [], [], none⟩]
  maskRules := []
  columnTags := []
  highRiskRules := []
  timeRules := []
  defaultMaxRows := none
  watermark := ⟨false, "", "", ""⟩
  cedar := none
  cedarRequired := false
  remote := none

def reader : Subject := Subject.fromProtocolUser (some "alice") none

/-- Joined with a permitted table, the forbidden one is let through: the allow rule stands above. -/
theorem joined_secret_allowed : (evaluate allowThenDeny reader "svc" .select ["secrets"]).isDeny = true ∧
      (evaluate allowThenDeny reader "svc" .select ["secrets", "orders"]).isDeny = false := by
  decide

/-- What decided there: the allow rule for the added table. -/
theorem joined_secret_lost : ∃ above rule below, allowThenDeny.rules = above ++ rule :: below ∧
      (rule.columns = [] ∧ lower rule.effect = "allow") ∧
      ruleMatches rule reader .select ["secrets", "orders"] = true ∧
      ruleMatches rule reader .select ["secrets"] = false ∧ tablesHit rule.tables ["orders"] = true ∧
      ∀ q ∈ above, decides reader .select ["secrets", "orders"] q = false :=
  (deny_lost_iff allowThenDeny reader "svc" .select ["secrets"] ["orders"] ["secrets", "orders"]
    (by simp) (by decide)).mp (by decide)

end DataNexus.Pdp
