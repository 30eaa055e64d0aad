/-
  Runs of a deterministic step function `step : σ → α → ρ × σ`, and the invariant rules for them.

  What the outside world decides is part of the ACTION.  `entries step s as` is the run from `s`, one `Entry` per step.

  * `inv_of_mem_entries` — an invariant kept by every step that meets `Ok` holds in every state of such runs;
  * `mem_entries_forall` — a fact about single steps under that invariant holds of every entry;
  * `forall_entries_iff_meets` — the same as an equivalence, when the condition is exact for single steps;
  * `pairwise_of_stable` — what one step establishes and none undoes holds before every later step;
  * `made_before` — what did not hold at the start was made by an earlier step;
  * `view_final` — an observer's view is computed from the actions it sees.
-/
import Mathlib.Data.List.Basic

namespace DataNexus.Run

variable {σ α ρ : Type*}

structure Entry (σ α ρ : Type*) where
  pre : σ
  act : α
  out : ρ
  post : σ

/-- The run of `step` from `s` along the actions. -/
def entries (step : σ → α → ρ × σ) : σ → List α → List (Entry σ α ρ)
  | _, [] => []
  | s, a :: as => ⟨s, a, (step s a).1, (step s a).2⟩ :: entries step (step s a).2 as

def final (step : σ → α → ρ × σ) : σ → List α → σ
  | s, [] => s
  | s, a :: as => final step (step s a).2 as

/-- `Meets step Ok s as` — every step of the run meets the condition `Ok` on the state before it and
    its action. -/
def Meets (step : σ → α → ρ × σ) (Ok : σ → α → Prop) (s : σ) (as : List α) : Prop :=
  ∀ e ∈ entries step s as, Ok e.pre e.act

def always : σ → α → Prop := fun _ _ => True

variable {step : σ → α → ρ × σ} {Ok : σ → α → Prop}

theorem meets_always (step : σ → α → ρ × σ) (s : σ) (as : List α) : Meets step always s as := fun _ _ => trivial

variable {s : σ} {a : α} {as : List α} {e : Entry σ α ρ} {P : σ → α → Prop}

theorem Meets.head (h : Meets step Ok s (a :: as)) : Ok s a := h ⟨s, a, (step s a).1, (step s a).2⟩ List.mem_cons_self

theorem Meets.tail (h : Meets step Ok s (a :: as)) : Meets step Ok (step s a).2 as :=
  fun e he => h e (List.mem_cons_of_mem _ he)

theorem meets_nil : Meets step Ok s [] := nofun

theorem meets_cons (h : Ok s a) (ht : Meets step Ok (step s a).2 as) : Meets step Ok s (a :: as) := by
  intro e he
  rcases List.mem_cons.mp he with rfl | he
  · exact h
  · exact ht e he

theorem entry_eq (he : e ∈ entries step s as) : e.out = (step e.pre e.act).1 ∧ e.post = (step e.pre e.act).2 := by
  induction as generalizing s with
  | nil => cases he
  | cons a as ih =>
    rcases List.mem_cons.mp he with rfl | he
    · exact ⟨rfl, rfl⟩
    · exact ih he

theorem act_mem (he : e ∈ entries step s as) : e.act ∈ as := by
  induction as generalizing s with
  | nil => cases he
  | cons a as ih =>
    rcases List.mem_cons.mp he with rfl | he
    · exact List.mem_cons_self
    · exact List.mem_cons_of_mem a (ih he)

theorem length_entries (step : σ → α → ρ × σ) (s : σ) (as : List α) : (entries step s as).length = as.length := by
  induction as generalizing s with
  | nil => rfl
  | cons a as ih => exact congrArg (· + 1) (ih _)

theorem last_mem_entries (step : σ → α → ρ × σ) (s : σ) (as : List α) (a : α) :
    ⟨final step s as, a, (step (final step s as) a).1, (step (final step s as) a).2⟩ ∈
      entries step s (as ++ [a]) := by
  induction as generalizing s with
  | nil => exact List.mem_singleton.mpr rfl
  | cons b as ih => exact List.mem_cons_of_mem _ (ih (step s b).2)

/-- **Invariant rule.**  What every admissible step keeps, every state of an admissible run has. -/
theorem inv_of_mem_entries (Inv : σ → Prop) (hstep : ∀ s a, Inv s → Ok s a → Inv (step s a).2) (h0 : Inv s)
    (hok : Meets step Ok s as) (he : e ∈ entries step s as) : Inv e.pre ∧ Inv e.post := by
  induction as generalizing s with
  | nil => cases he
  | cons a as ih =>
    have h1 : Inv (step s a).2 := hstep s a h0 hok.head
    rcases List.mem_cons.mp he with rfl | he
    · exact ⟨h0, h1⟩
    · exact ih h1 hok.tail he

theorem inv_final (Inv : σ → Prop) (hstep : ∀ s a, Inv s → Ok s a → Inv (step s a).2) (h0 : Inv s)
    (hok : Meets step Ok s as) : Inv (final step s as) := by
  induction as generalizing s with
  | nil => exact h0
  | cons a as ih => exact ih (hstep s a h0 hok.head) hok.tail

theorem mem_entries_forall (Inv : σ → Prop) (hstep : ∀ s a, Inv s → Ok s a → Inv (step s a).2)
    (hP : ∀ s a, Inv s → Ok s a → P s a) (h0 : Inv s) (hok : Meets step Ok s as) (he : e ∈ entries step s as) :
    P e.pre e.act :=
  hP e.pre e.act (inv_of_mem_entries Inv hstep h0 hok he).1 (hok e he)

/-- **Exact condition.**  If the invariant makes a fact about single steps the same as the condition `Ok`, and
    is kept by the steps that meet it, then the fact holds of every entry iff every step meets `Ok`. -/
theorem forall_entries_iff_meets (Inv : σ → Prop) (hiff : ∀ s a, Inv s → (P s a ↔ Ok s a))
    (hstep : ∀ s a, Inv s → Ok s a → Inv (step s a).2) (h0 : Inv s) :
    (∀ e ∈ entries step s as, P e.pre e.act) ↔ Meets step Ok s as := by
  constructor
  · intro h
    induction as generalizing s with
    | nil => exact meets_nil
    | cons a as ih =>
      have hok : Ok s a := (hiff s a h0).mp (h ⟨s, a, (step s a).1, (step s a).2⟩ List.mem_cons_self)
      exact meets_cons hok
        (ih (hstep s a h0 hok) fun e he => h e (List.mem_cons_of_mem _ he))
  · intro hok e he
    exact mem_entries_forall Inv hstep (fun s a hs ha => (hiff s a hs).mpr ha) h0 hok he

/-- **Stability rule.**  If the event `Made` leaves `Stays` behind and no step undoes `Stays`, then
    `Stays` holds before every step that comes after a `Made` step. -/
theorem pairwise_of_stable (Inv : σ → Prop) (Made : Entry σ α ρ → Prop) (Stays : σ → Prop)
    (hinv : ∀ s a, Inv s → Inv (step s a).2)
    (hmade : ∀ s a, Inv s → Made ⟨s, a, (step s a).1, (step s a).2⟩ → Stays (step s a).2)
    (hstays : ∀ s a, Inv s → Stays s → Stays (step s a).2) (h0 : Inv s) :
    (entries step s as).Pairwise (fun e e' => Made e → Stays e'.pre) := by
  induction as generalizing s with
  | nil => exact List.Pairwise.nil
  | cons a as ih =>
    refine List.Pairwise.cons ?_ (ih (hinv s a h0))
    intro e' he' hm
    -- both facts at once: the tail of the run starts in a state that has `Stays`
    have hboth : Inv (step s a).2 ∧ Stays (step s a).2 := ⟨hinv s a h0, hmade s a h0 hm⟩
    have hkeep : ∀ t b, Inv t ∧ Stays t → always t b → Inv (step t b).2 ∧ Stays (step t b).2 := by
      intro t b ht _
      exact ⟨hinv t b ht.1, hstays t b ht.1 ht.2⟩
    exact (inv_of_mem_entries (fun t => Inv t ∧ Stays t) hkeep hboth
      (meets_always step _ as) he').1.2

/-- **Origin rule.**  If `Stays` can only be entered by a `Made` step, then a run that starts without it
    and has it before the step `e` took a `Made` step before `e`. -/
theorem made_before (Made : Entry σ α ρ → Prop) (Stays : σ → Prop)
    (hstep : ∀ s a, Stays (step s a).2 → Stays s ∨ Made ⟨s, a, (step s a).1, (step s a).2⟩)
    {after : List (Entry σ α ρ)} (before : List (Entry σ α ρ)) :
    ∀ {s : σ} {as : List α}, ¬ Stays s → entries step s as = before ++ e :: after → Stays e.pre →
      ∃ e' ∈ before, Made e' := by
  induction before with
  | nil =>
    intro s as h0 hrun hs
    cases as with
    | nil => cases hrun
    | cons a as =>
      rw [entries, List.nil_append, List.cons.injEq] at hrun
      rw [← hrun.1] at hs
      exact absurd hs h0
  | cons b before ih =>
    intro s as h0 hrun hs
    cases as with
    | nil => cases hrun
    | cons a as =>
      rw [entries, List.cons_append, List.cons.injEq] at hrun
      obtain ⟨hb, hrest⟩ := hrun
      by_cases hmid : Stays (step s a).2
      · -- entered by this very step
        rcases hstep s a hmid with hs0 | hmade
        · exact absurd hs0 h0
        · exact ⟨b, List.mem_cons_self, hb ▸ hmade⟩
      · obtain ⟨e', he', hmade⟩ := ih hmid hrest hs
        exact ⟨e', List.mem_cons_of_mem b he', hmade⟩

/-- **Projection rule.**  If the kept actions act on the view alone and the others leave it as it is, then the
    view at the end of a run is computed from the kept actions. -/
theorem view_final {V : Type*} (Inv : σ → Prop) (view : σ → V) (keep : α → Bool) (act : V → α → V)
    (hstep : ∀ s a, Inv s → Ok s a → Inv (step s a).2)
    (hkept : ∀ s a, Inv s → Ok s a → keep a = true → view (step s a).2 = act (view s) a)
    (hleft : ∀ s a, Inv s → Ok s a → keep a = false → view (step s a).2 = view s) (h0 : Inv s)
    (hok : Meets step Ok s as) : view (final step s as) = (as.filter keep).foldl act (view s) := by
  induction as generalizing s with
  | nil => rfl
  | cons a as ih =>
    have hrest := ih (hstep s a h0 hok.head) hok.tail
    rw [final, hrest]
    cases hk : keep a with
    | true => rw [List.filter_cons_of_pos hk, List.foldl_cons, hkept s a h0 hok.head hk]
    | false => rw [List.filter_cons_of_neg (by rw [hk]; decide), hleft s a h0 hok.head hk]

end DataNexus.Run
