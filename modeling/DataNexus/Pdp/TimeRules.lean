/-
  Time rules as an ordered list (`evaluate_time_rules` of `gateway/core/src/pdp.rs`).

  The first rule that matches and is active decides.  A rule that asks for a ticket lets the statement through once its
  ticket is accepted, and the rules behind it are not looked at.

  * `letsPass_iff` — when the stage lets a statement through at all;
  * `deny_passed_iff` — when it does so although a deny rule is active, for one list and for any other order of it.
-/
import DataNexus.Pdp.Authorize

namespace DataNexus.TimeRules

open DataNexus.Pdp DataNexus.Text DataNexus.Tickets

/-! ## What the stage answers -/

/-- The rule matches the statement and is active now. -/
def Applies (c : Call) (r : Classified) (tr : SecurityTimeRuleConfig) : Prop :=
  timeRuleApplies tr c.clock.localOffset c.clock.securityNow c.subject r.action c.objects r.tables = true

instance (c : Call) (r : Classified) (tr : SecurityTimeRuleConfig) : Decidable (Applies c r tr) :=
  inferInstanceAs (Decidable (_ = true))

/-- A deny rule that matches the statement and is active now. -/
def Denies (c : Call) (r : Classified) (tr : SecurityTimeRuleConfig) : Prop := lower tr.effect = "deny" ∧ Applies c r tr

/-- The stage returns without a decision: the statement goes on. -/
def LetsPass (c : Call) (sql : String) (r : Classified) (store : TicketStore) : Prop :=
  ∃ store', (timeGate c sql r).run store = .ok () store'

/-- The rule asks for a ticket and accepts the one that the text carries. -/
def Satisfied (c : Call) (sql : String) (store : TicketStore) (tr : SecurityTimeRuleConfig) : Prop :=
  lower tr.effect = "require_ticket" ∧ acceptsTicket c sql tr.ticketType c.clock.timeTicketMs store = true

/-- The first rule that applies is one whose ticket is accepted. -/
def TicketFirst (c : Call) (sql : String) (r : Classified) (store : TicketStore) : Prop :=
  ∃ above tr below, c.reads.time.timeRules = above ++ tr :: below ∧ (∀ t ∈ above, ¬Applies c r t) ∧ Applies c r tr ∧
    Satisfied c sql store tr

def withRules (c : Call) (rules : List SecurityTimeRuleConfig) : Call :=
  { c with reads := { c.reads with time := { c.reads.time with timeRules := rules } } }

/-! ## Which rule decides -/

variable {c : Call} {r : Classified}

theorem firstTimeRule_eq_some {tr : SecurityTimeRuleConfig} :
    firstTimeRule c r = some tr ↔ ∃ above below, c.reads.time.timeRules = above ++ tr :: below ∧
      (∀ t ∈ above, ¬Applies c r t) ∧ Applies c r tr := by
  unfold firstTimeRule Applies
  rw [List.find?_eq_some_iff_append]
  constructor
  · rintro ⟨happlies, above, below, hsplit, habove⟩
    exact ⟨above, below, hsplit, fun t ht => by simpa using habove t ht, happlies⟩
  · rintro ⟨above, below, hsplit, habove, happlies⟩
    exact ⟨happlies, above, below, hsplit, fun t ht => by simpa using habove t ht⟩

theorem firstTimeRule_eq_none : firstTimeRule c r = none ↔ ∀ tr ∈ c.reads.time.timeRules, ¬Applies c r tr := by
  unfold firstTimeRule Applies
  exact List.find?_eq_none

theorem timeSpends_iff {sql : String} {store : TicketStore} :
    timeSpends c sql r store = true ↔ TicketFirst c sql r store := by
  unfold timeSpends TicketFirst Satisfied
  cases hfirst : firstTimeRule c r with
  | none =>
    rw [firstTimeRule_eq_none] at hfirst
    constructor
    · intro h
      cases h
    · rintro ⟨above, tr, below, hsplit, -, happlies, -⟩
      have hmem : tr ∈ c.reads.time.timeRules := hsplit ▸ List.mem_append_right _ List.mem_cons_self
      exact absurd happlies (hfirst tr hmem)
  | some tr =>
    simp only [Bool.and_eq_true, beq_iff_eq]
    constructor
    · rintro ⟨heffect, haccepts⟩
      obtain ⟨above, below, hsplit, habove, happlies⟩ := firstTimeRule_eq_some.mp hfirst
      exact ⟨above, tr, below, hsplit, habove, happlies, heffect, haccepts⟩
    · rintro ⟨above, tr', below, hsplit, habove, happlies, heffect, haccepts⟩
      have hsame := firstTimeRule_eq_some.mpr ⟨above, below, hsplit, habove, happlies⟩
      rw [hfirst] at hsame
      obtain rfl := Option.some.inj hsame
      exact ⟨heffect, haccepts⟩

/-- **What the stage lets through**: statements that no rule applies to, and those whose first rule accepts a ticket. -/
theorem letsPass_iff {sql : String} {store : TicketStore} :
    LetsPass c sql r store ↔ (∀ tr ∈ c.reads.time.timeRules, ¬Applies c r tr) ∨ TicketFirst c sql r store := by
  unfold LetsPass
  rw [← timeSpends_iff, ← firstTimeRule_eq_none]
  cases timeGate_cases c sql r store with
  | spent id store' hspends _ _ _ _ hrun => exact ⟨fun _ => .inr hspends, fun _ => ⟨store', hrun⟩⟩
  | passed _ hasked hrun => exact ⟨fun _ => .inl (not_not.mp hasked), fun _ => ⟨store, hrun⟩⟩
  | stopped d hspends hasked _ hrun =>
    rw [hrun, hspends]
    constructor
    · rintro ⟨store', hok⟩
      cases hok
    · rintro (hnone | hspent)
      · exact absurd hnone hasked
      · cases hspent
  | panicked hspends hscan hrun =>
    rw [hrun, hspends]
    constructor
    · rintro ⟨store', hok⟩
      cases hok
    · rintro (hnone | hspent)
      · -- no rule, so nothing was scanned
        unfold timeGate at hrun
        rw [hnone] at hrun
        cases hrun
      · cases hspent

/-! ## Deny rules -/

/-- **A deny rule that is active**: the statement passes iff a rule whose ticket is accepted stands above all others. -/
theorem deny_passed_iff (c : Call) (sql : String) (r : Classified) (store : TicketStore)
    (hdeny : ∃ tr ∈ c.reads.time.timeRules, Denies c r tr) : (LetsPass c sql r store ↔ TicketFirst c sql r store) ∧
      ∀ rules : List SecurityTimeRuleConfig, rules.Perm c.reads.time.timeRules → ¬LetsPass c sql r store →
        LetsPass (withRules c rules) sql r store →
          TicketFirst (withRules c rules) sql r store ∧ ¬TicketFirst c sql r store := by
  have hiff : LetsPass c sql r store ↔ TicketFirst c sql r store := by
    rw [letsPass_iff]
    constructor
    · rintro (hnone | hfirst)
      · obtain ⟨tr, hmem, -, happlies⟩ := hdeny
        exact absurd happlies (hnone tr hmem)
      · exact hfirst
    · exact .inr
  refine ⟨hiff, fun rules hperm hrefused hpass => ⟨?_, fun hfirst => hrefused (hiff.mpr hfirst)⟩⟩
  rcases letsPass_iff.mp hpass with hnone | hfirst
  · obtain ⟨tr, hmem, -, happlies⟩ := hdeny
    exact absurd happlies (hnone tr (hperm.mem_iff.mpr hmem))
  · exact hfirst

/-- A rule for every action whose window is empty, so that it is always active. -/
def always (name effect : String) : SecurityTimeRuleConfig :=
  ⟨name, effect, true, [], "00:00", "00:00", "UTC", ["*"], [], [], "bulk", ""⟩

/-- A freeze below a rule that asks for a ticket. -/
def frozenCall : Call := withRules bothGatesCall [always "change" "require_ticket", always "freeze" "deny"]

def ticketed : String := "/*dn_ticket:tkt-0-1*/ DELETE FROM t"

def demoClassified : Classified := ⟨.delete, ["t"], []⟩

/-- The ticket is accepted, and the freeze behind it is not looked at. -/
theorem freeze_passed_by_ticket : ¬ ∀ (c : Call) (sql : String) (r : Classified) (store : TicketStore),
      (∃ tr ∈ c.reads.time.timeRules, Denies c r tr) → ¬LetsPass c sql r store := by
  intro h
  have hdenies : Denies frozenCall demoClassified (always "freeze" "deny") := ⟨by decide, by decide⟩
  refine h frozenCall ticketed demoClassified oneTicket ⟨_, List.mem_cons_of_mem _ List.mem_cons_self, hdenies⟩ ?_
  refine letsPass_iff.mpr (.inr ⟨[], _, [always "freeze" "deny"], rfl, nofun, ?_, ?_, ?_⟩)
  · decide
  · decide
  · decide

theorem freeze_without_ticket : (LetsPass frozenCall "DELETE FROM t" demoClassified oneTicket ↔
      TicketFirst frozenCall "DELETE FROM t" demoClassified oneTicket) ∧
      ∀ rules : List SecurityTimeRuleConfig, rules.Perm frozenCall.reads.time.timeRules →
        ¬LetsPass frozenCall "DELETE FROM t" demoClassified oneTicket →
        LetsPass (withRules frozenCall rules) "DELETE FROM t" demoClassified oneTicket →
          TicketFirst (withRules frozenCall rules) "DELETE FROM t" demoClassified oneTicket ∧
            ¬TicketFirst frozenCall "DELETE FROM t" demoClassified oneTicket :=
  deny_passed_iff frozenCall "DELETE FROM t" demoClassified oneTicket
    ⟨always "freeze" "deny", List.mem_cons_of_mem _ List.mem_cons_self, by decide, by decide⟩

end DataNexus.TimeRules
