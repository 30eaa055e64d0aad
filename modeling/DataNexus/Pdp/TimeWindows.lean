/-
  Time windows as intervals (`matches_now` of `gateway/core/src/time_rules.rs`).

  A window begins on a weekday that the rule lists, and one whose end comes before its start runs past midnight.  The
  code asks for the weekday of the instant, not of the day on which the window began: `window_iff` says where the two
  differ.

  Choices.  A day is counted from the epoch, a Thursday.  Instants for which `chrono` has no date (beyond 260 000
  years; the code takes the clock's instead) are left out.
-/
import DataNexus.Pdp.Policy

namespace DataNexus.TimeWindows

open DataNexus.Pdp DataNexus.Text

/-! ## Occurrences -/

def listed (days : List String) (day : Int) : Bool := days.any fun d => parseWeekday d == some ((day + 3) % 7).toNat

/-- The local instant lies in an occurrence of the window that began on a listed day. -/
def Occurs (days : List String) (start stop : Nat) (instant : Int) : Prop :=
  ∃ day : Int, listed days day = true ∧ day * 86400 + start * 60 ≤ instant ∧
    instant < day * 86400 + stop * 60 + if stop < start then 86400 else 0

/-- What the rule should say of the local instant. -/
def Active (tr : SecurityTimeRuleConfig) (start stop : Nat) (instant : Int) : Prop :=
  if tr.outside then ¬Occurs tr.days start stop instant else Occurs tr.days start stop instant

/-- The part after midnight of an overnight window, where one of this day and the day before is listed and the other
    is not. -/
def DayTurned (days : List String) (start stop : Nat) (instant : Int) : Prop :=
  stop < start ∧ instant % 86400 < stop * 60 ∧ listed days (instant / 86400) ≠ listed days (instant / 86400 - 1)

variable {tr : SecurityTimeRuleConfig} {days : List String} {start stop : Nat} {instant localOffset now offset : Int}

theorem lt_of_parseHhmm {s : String} {minute : Nat} (h : parseHhmm s = some minute) : minute < 1440 := by
  unfold parseHhmm at h
  split at h
  · split at h
    · split at h
      · cases h
      · have hminute := Option.some.inj h
        omega
    · cases h
  · cases h

theorem occurs_iff (hstart : start < 1440) (hstop : stop < 1440) : Occurs days start stop instant ↔
    (listed days (instant / 86400) = true ∧ start * 60 ≤ instant % 86400 ∧
      (stop < start ∨ instant % 86400 < stop * 60)) ∨
    (listed days (instant / 86400 - 1) = true ∧ stop < start ∧ instant % 86400 < stop * 60) := by
  constructor
  · rintro ⟨day, hlisted, hfrom, hto⟩
    have hday : day = instant / 86400 ∨ day = instant / 86400 - 1 := by
      split at hto <;> omega
    rcases hday with rfl | rfl
    · refine .inl ⟨hlisted, by omega, ?_⟩
      split at hto
      · rename_i hover
        exact .inl hover
      · exact .inr (by omega)
    · split at hto
      · rename_i hover
        exact .inr ⟨hlisted, hover, by omega⟩
      · omega
  · rintro (⟨hlisted, hfrom, hto⟩ | ⟨hlisted, hover, hto⟩)
    · refine ⟨instant / 86400, hlisted, by omega, ?_⟩
      split <;> omega
    · refine ⟨instant / 86400 - 1, hlisted, by omega, ?_⟩
      rw [if_pos hover]
      omega

theorem isInsideWindow_iff : isInsideWindow (instant % 86400 / 60).toNat start stop = true ↔
    (start * 60 ≤ instant % 86400 ∧ (stop < start ∨ instant % 86400 < stop * 60)) ∨
      (stop < start ∧ instant % 86400 < stop * 60) := by
  unfold isInsideWindow
  split
  · subst start
    simp only [Bool.false_eq_true, false_iff]
    omega
  · split
    · rw [Bool.and_eq_true, decide_eq_true_eq, decide_eq_true_eq]
      omega
    · rw [Bool.or_eq_true, decide_eq_true_eq, decide_eq_true_eq]
      omega

theorem matchesNow_eq (htz : parseTimezoneOffsetMinutes localOffset tr.timezone = some offset)
    (hstart : parseHhmm tr.start = some start) (hstop : parseHhmm tr.stop = some stop) (hdays : tr.days ≠ []) :
    tr.matchesNow localOffset now = (tr.outside ^^ (listed tr.days ((now + offset * 60) / 86400) &&
      isInsideWindow ((now + offset * 60) % 86400 / 60).toNat start stop)) := by
  have hempty : tr.days.isEmpty = false := by
    rw [List.isEmpty_eq_false_iff]
    exact hdays
  unfold SecurityTimeRuleConfig.matchesNow
  rw [htz, hstart, hstop]
  simp only [civilParts, hempty, Bool.not_false, Bool.true_and]
  rw [show (tr.days.any fun d => parseWeekday d == some (((now + offset * 60) / 86400 + 3) % 7).toNat) =
    listed tr.days ((now + offset * 60) / 86400) from rfl]
  generalize isInsideWindow _ start stop = inside
  cases listed tr.days ((now + offset * 60) / 86400) <;> cases tr.outside <;> cases inside <;> rfl

/-- **Windows** are right exactly when the instant is not past midnight in a window over the edge of the listed days. -/
theorem window_iff (htz : parseTimezoneOffsetMinutes localOffset tr.timezone = some offset)
    (hstart : parseHhmm tr.start = some start) (hstop : parseHhmm tr.stop = some stop) (hdays : tr.days ≠ []) :
    (tr.matchesNow localOffset now = true ↔ Active tr start stop (now + offset * 60)) ↔
      ¬DayTurned tr.days start stop (now + offset * 60) := by
  have hoccurs := @occurs_iff tr.days start stop (now + offset * 60) (lt_of_parseHhmm hstart) (lt_of_parseHhmm hstop)
  have hinside := @isInsideWindow_iff start stop (now + offset * 60)
  have hsame : (tr.matchesNow localOffset now = true ↔ Active tr start stop (now + offset * 60)) ↔
      ((listed tr.days ((now + offset * 60) / 86400) = true ∧
        isInsideWindow ((now + offset * 60) % 86400 / 60).toNat start stop = true) ↔
          Occurs tr.days start stop (now + offset * 60)) := by
    rw [matchesNow_eq htz hstart hstop hdays, ← Bool.and_eq_true]
    unfold Active
    generalize (listed _ _ && isInsideWindow _ _ _) = inside
    cases tr.outside <;> cases inside <;> simp
  rw [hsame, hoccurs, hinside]
  unfold DayTurned
  -- only the part after midnight reads two days
  cases listed tr.days ((now + offset * 60) / 86400) <;>
    cases listed tr.days ((now + offset * 60) / 86400 - 1) <;>
    simp only [Bool.false_eq_true, Bool.true_eq_false, true_and, false_and, false_or, or_false, ne_eq, not_true_eq_false,
      not_false_eq_true, and_false, and_true, false_iff]
  omega

def mondayNights : SecurityTimeRuleConfig :=
  ⟨"night", "deny", false, ["mon"], "22:00", "06:00", "UTC", [], [], [], "bulk", ""⟩

/-- Tuesday, 2 January 2024, at one in the morning, is in the night that began on Monday; the code says no. -/
theorem night_left_out : ¬ ∀ (tr : SecurityTimeRuleConfig) (localOffset now offset : Int) (start stop : Nat),
    parseTimezoneOffsetMinutes localOffset tr.timezone = some offset → parseHhmm tr.start = some start →
      parseHhmm tr.stop = some stop → tr.days ≠ [] →
        (tr.matchesNow localOffset now = true ↔ Active tr start stop (now + offset * 60)) := by
  intro h
  have hnight : Active mondayNights 1320 360 (1704157200 + 0 * 60) := ⟨19723, by decide, by decide, by decide⟩
  have hcode : mondayNights.matchesNow 0 1704157200 = false := by decide
  rw [← h mondayNights 0 1704157200 0 1320 360 (by decide) (by decide) (by decide) (by decide),
    hcode] at hnight
  cases hnight

theorem monday_night : (mondayNights.matchesNow 0 1704150000 = true ↔ Active mondayNights 1320 360 (1704150000 + 0 * 60)) ↔
    ¬DayTurned mondayNights.days 1320 360 (1704150000 + 0 * 60) :=
  window_iff (by decide) (by decide) (by decide) (by decide)

end DataNexus.TimeWindows
