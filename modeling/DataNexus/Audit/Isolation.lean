/-
  Priority events are isolated from the others (`gateway/core/src/audit_pipeline.rs`).

  With a queue of their own, the priority events that get written are computed from the priority sends and the points
  at which the worker takes an event (`priority_isolated`).  With a priority capacity of zero there is no such queue.

  `priorityView` is what is seen; `Separated` says that an event is only ever in its queue; everything but priority
  sends and takes leaves the view as it is (`priorityView_kept`, `priorityView_left`), and `view_final` does the rest.
-/
import DataNexus.Audit.Pipeline

namespace DataNexus.Audit

open DataNexus.Run

variable {P : Type}

/-! ## What is seen of a run -/

def AuditEvent.isPriority (event : AuditEvent P) : Bool := isPriorityDecision event.decision

/-- The priority events that get written: the ones that are, and the one the worker is busy with. -/
def priorityWritten (p : Pipeline P) : List (AuditEvent P) :=
  ((p.log ++ p.dispatching.toList).map (·.2)).filter (·.isPriority)

/-- The worker takes an event only when it is idle. -/
def Enabled (p : Pipeline P) : Act P → Prop
  | .take => p.dispatching = none
  | _ => True

/-- What is left of a run without the sends of other events and the time that writing takes. -/
def concernsPriority : Act P → Bool
  | .send _ event => event.isPriority
  | .take => true
  | .finish => false

/-- The part of the pipeline that belongs to the priority events. -/
structure PriorityView (P : Type) where
  queue : List (AuditEvent P)
  taken : List (AuditEvent P)

def priorityView (p : Pipeline P) : PriorityView P where
  queue := p.priorityQueue
  taken := p.writtenFrom .priority ++ p.dispatchingFrom .priority

def actOnView (settings : Settings) (v : PriorityView P) : Act P → PriorityView P
  | .send now event =>
    { v with queue := (enqueue settings.overflow now v.queue settings.priorityCapacity event).2.1 }
  | .take =>
    match v.queue with
    | event :: rest => ⟨rest, v.taken ++ [event]⟩
    | [] => v
  | .finish => v

/-! ## Events stay in their queues -/

/-- Every event is in the queue it goes to, or came from it. -/
structure Separated (settings : Settings) (p : Pipeline P) : Prop where
  opened : p.closed = false
  queued : ∀ lane, ∀ event ∈ p.lane lane, settings.laneOf event = lane
  dispatching : ∀ entry, p.dispatching = some entry → settings.laneOf entry.2 = entry.1
  log : ∀ entry ∈ p.log, settings.laneOf entry.2 = entry.1

theorem separated_new (settings : Settings) : Separated settings (Pipeline.new : Pipeline P) := by
  refine ⟨rfl, ?_, ?_, ?_⟩
  · rintro (_ | _) event hin <;> cases hin
  · intro entry h
    cases h
  · intro entry h
    cases h

variable {settings : Settings} {p : Pipeline P} {a : Act P}

theorem separated_take (h : Separated settings p) : Separated settings (take p) := by
  unfold take
  cases hprio : p.priorityQueue with
  | cons event rest =>
    have hq := h.queued .priority
    refine ⟨h.opened, ?_, ?_, h.log⟩
    · rintro (_ | _) e hin
      · exact h.queued .normal e hin
      · exact hq e (by show e ∈ p.priorityQueue; rw [hprio]; exact List.mem_cons_of_mem _ hin)
    · intro entry he
      cases he
      exact hq event (by show event ∈ p.priorityQueue; rw [hprio]; exact List.mem_cons_self)
  | nil =>
    cases hqueue : p.queue with
    | cons event rest =>
      have hq := h.queued .normal
      refine ⟨h.opened, ?_, ?_, h.log⟩
      · rintro (_ | _) e hin
        · exact hq e (by show e ∈ p.queue; rw [hqueue]; exact List.mem_cons_of_mem _ hin)
        · cases hin
      · intro entry he
        cases he
        exact hq event (by show event ∈ p.queue; rw [hqueue]; exact List.mem_cons_self)
    | nil => exact h

/-- **Step lemma.**  Events stay in their queues. -/
theorem separated_step (h : Separated settings p) (a : Act P) : Separated settings (step settings p a).2 := by
  cases a with
  | send now event =>
    have hcases := trySend_cases settings h.opened now event
    show Separated settings (trySend settings p now event)
    generalize trySend settings p now event = p' at hcases
    have hlanes : Untouched (settings.laneOf event) p p' →
        (∀ e ∈ p'.lane (settings.laneOf event), e ∈ p.lane (settings.laneOf event) ∨ e = event) →
          Separated settings p' := by
      intro hrest hmem
      refine ⟨hrest.closed.trans h.opened, ?_, ?_, ?_⟩
      · intro lane e hin
        by_cases hl : lane = settings.laneOf event
        · subst hl
          rcases hmem e hin with hold | rfl
          · exact h.queued _ e hold
          · rfl
        · rw [(hrest.other lane hl).1] at hin
          exact h.queued lane e hin
      · rw [hrest.dispatching]
        exact h.dispatching
      · rw [hrest.log]
        exact h.log
    cases hcases with
    | refused hrest hlane _ _ _ =>
      refine hlanes hrest ?_
      rw [hlane]
      exact fun e he => Or.inl he
    | replaced hrest _ hlane _ _ _ =>
      refine hlanes hrest ?_
      rw [hlane]
      intro e he
      rcases List.mem_append.mp he with he | he
      · exact Or.inl (List.mem_of_mem_tail he)
      · exact Or.inr (List.mem_singleton.mp he)
    | appended hrest _ hlane _ _ _ =>
      refine hlanes hrest ?_
      rw [hlane]
      intro e he
      rcases List.mem_append.mp he with he | he
      · exact Or.inl he
      · exact Or.inr (List.mem_singleton.mp he)
  | take =>
    simp only [step]
    split
    · exact h
    · exact separated_take h
  | finish =>
    obtain ⟨hlane, _, _, _, hclosed, hidle, _⟩ := finish_rest p
    refine ⟨hclosed.trans h.opened, ?_, ?_, ?_⟩
    · show ∀ lane, ∀ e ∈ (finish p).lane lane, _
      rw [hlane]
      exact h.queued
    · intro entry he
      have hnone : (finish p).dispatching = some entry := he
      rw [hidle] at hnone
      cases hnone
    · show ∀ entry ∈ (finish p).log, _
      unfold finish
      cases hd : p.dispatching with
      | none => exact h.log
      | some current =>
        intro entry hin
        rcases List.mem_append.mp hin with hin | hin
        · exact h.log entry hin
        · rw [List.mem_singleton.mp hin]
          exact h.dispatching current hd

/-! ## Projection -/

theorem laneOf_eq (hpos : 0 < settings.priorityCapacity) (event : AuditEvent P) :
    settings.laneOf event = if event.isPriority then Lane.priority else Lane.normal := by
  unfold Settings.laneOf Settings.prioritizes AuditEvent.isPriority
  simp [hpos]

/-- The queue that `enqueue` leaves, for an event that goes to the priority queue. -/
theorem trySend_priorityQueue (settings : Settings) (hopen : p.closed = false) (now : Nat)
    {event : AuditEvent P} (hprio : settings.prioritizes event = true) : (trySend settings p now event).priorityQueue =
      (enqueue settings.overflow now p.priorityQueue settings.priorityCapacity event).2.1 := by
  unfold trySend
  rw [if_neg (by rw [hopen]; decide), if_pos hprio]
  rcases enqueue_cases settings.overflow now p.priorityQueue settings.priorityCapacity event with
    ⟨hq, _⟩ | ⟨hq, _⟩ | ⟨hq, _⟩ <;> rw [hq] <;> rfl

theorem priorityView_trySend (settings : Settings) (hopen : p.closed = false) (now : Nat) (event : AuditEvent P) :
    priorityView (trySend settings p now event) =
      { priorityView p with queue := (trySend settings p now event).priorityQueue } := by
  have hrest : Untouched (settings.laneOf event) p (trySend settings p now event) := by
    cases trySend_cases settings hopen now event with
    | refused hrest => exact hrest
    | replaced hrest => exact hrest
    | appended hrest => exact hrest
  unfold priorityView Pipeline.dispatchingFrom Pipeline.writtenFrom
  rw [hrest.dispatching, hrest.log]

theorem priorityView_take (settings : Settings) (hidle : p.dispatching = none) :
    priorityView (take p) = actOnView settings (priorityView p) .take := by
  have hnone : p.dispatchingFrom .priority = [] := by
    unfold Pipeline.dispatchingFrom
    rw [hidle]
    rfl
  have hwritten : (take p).writtenFrom .priority = p.writtenFrom .priority := by
    unfold Pipeline.writtenFrom
    rw [(take_rest p).2.2.1]
  have htake := take_lane hidle .priority
  unfold priorityView actOnView
  rw [hwritten, hnone, List.append_nil]
  unfold take at htake ⊢
  cases hprio : p.priorityQueue with
  | cons event rest => rfl
  | nil =>
    -- the worker turns to the main queue or waits
    cases hqueue : p.queue with
    | cons event rest =>
      show PriorityView.mk [] (p.writtenFrom .priority ++ []) = _
      rw [List.append_nil]
    | nil =>
      show PriorityView.mk p.priorityQueue (p.writtenFrom .priority ++ p.dispatchingFrom .priority) = _
      rw [hprio, hnone, List.append_nil]

/-- **Step lemma.**  A step that concerns the priority events acts on their part alone. -/
theorem priorityView_kept (hpos : 0 < settings.priorityCapacity) (h : Separated settings p) (hok : Enabled p a)
    (hkeep : concernsPriority a = true) :
    priorityView (step settings p a).2 = actOnView settings (priorityView p) a := by
  cases a with
  | send now event =>
    have hprio : settings.prioritizes event = true := by
      unfold Settings.prioritizes
      rw [Bool.and_eq_true, decide_eq_true_eq]
      exact ⟨hpos, hkeep⟩
    show priorityView (trySend settings p now event) = _
    rw [priorityView_trySend settings h.opened, trySend_priorityQueue settings h.opened now hprio]
    rfl
  | take =>
    have hidle : p.dispatching = none := hok
    have hstep : (step settings p .take).2 = take p := by
      simp only [step, hidle]
      rfl
    rw [hstep]
    exact priorityView_take settings hidle
  | finish => cases hkeep

/-- **Step lemma.**  The other steps leave the part of the priority events as it is. -/
theorem priorityView_left (hpos : 0 < settings.priorityCapacity) (h : Separated settings p)
    (hkeep : concernsPriority a = false) : priorityView (step settings p a).2 = priorityView p := by
  cases a with
  | send now event =>
    have hlane : settings.laneOf event = .normal := by
      rw [laneOf_eq hpos]
      have hflag : event.isPriority = false := hkeep
      rw [hflag]
      rfl
    have hcases := trySend_cases settings h.opened now event
    rw [hlane] at hcases
    have hqueue : (trySend settings p now event).priorityQueue = p.priorityQueue := by
      cases hcases with
      | refused hrest => exact (hrest.other .priority (by decide)).1
      | replaced hrest => exact (hrest.other .priority (by decide)).1
      | appended hrest => exact (hrest.other .priority (by decide)).1
    show priorityView (trySend settings p now event) = _
    rw [priorityView_trySend settings h.opened, hqueue]
    rfl
  | take => cases hkeep
  | finish =>
    have hqueue : (finish p).priorityQueue = p.priorityQueue := congrFun (finish_rest p).1 .priority
    show priorityView (finish p) = priorityView p
    unfold priorityView
    rw [(finish_writtenFrom p .priority).1, (finish_writtenFrom p .priority).2, hqueue, List.append_nil]

theorem priorityWritten_eq (hpos : 0 < settings.priorityCapacity) (h : Separated settings p) :
    priorityWritten p = (priorityView p).taken := by
  show _ = p.writtenFrom .priority ++ p.dispatchingFrom .priority
  unfold priorityWritten Pipeline.writtenFrom Pipeline.dispatchingFrom
  rw [← List.map_append, ← List.filter_append, List.filter_map]
  refine congrArg (List.map _) (List.filter_congr ?_)
  intro entry hin
  have hlane : settings.laneOf entry.2 = entry.1 := by
    rcases List.mem_append.mp hin with hin | hin
    · exact h.log entry hin
    · exact h.dispatching entry (Option.mem_toList.mp hin)
  rw [laneOf_eq hpos] at hlane
  rw [← hlane]
  show entry.2.isPriority = decide _
  cases entry.2.isPriority <;> rfl

/-- **Isolation.**  Two runs that agree on the priority events and on when the worker takes an event write the
    same priority events. -/
theorem priority_isolated (hpos : 0 < settings.priorityCapacity) {as bs : List (Act P)}
    (has : Meets (step settings) Enabled Pipeline.new as) (hbs : Meets (step settings) Enabled Pipeline.new bs)
    (hsame : as.filter concernsPriority = bs.filter concernsPriority) :
    priorityWritten (final (step settings) Pipeline.new as) =
      priorityWritten (final (step settings) Pipeline.new bs) := by
  have hview : ∀ cs : List (Act P), Meets (step settings) Enabled Pipeline.new cs →
      priorityView (final (step settings) Pipeline.new cs) =
        (cs.filter concernsPriority).foldl (actOnView settings) (priorityView Pipeline.new) := by
    intro cs hcs
    exact view_final (Separated settings) priorityView concernsPriority (actOnView settings)
      (fun p a h _ => separated_step h a) (fun p a h hok hk => priorityView_kept hpos h hok hk)
      (fun p a h _ hk => priorityView_left hpos h hk) (separated_new settings) hcs
  have hsep : ∀ cs : List (Act P), Separated settings (final (step settings) Pipeline.new cs) := by
    intro cs
    have hany : Meets (step settings) always Pipeline.new cs := meets_always _ _ _
    exact inv_final (Separated settings) (fun p a h _ => separated_step h a) (separated_new settings) hany
  rw [priorityWritten_eq hpos (hsep as), priorityWritten_eq hpos (hsep bs), hview as has, hview bs hbs, hsame]

/-- **The audit pipeline.**  Everything sent is accounted for, and a priority queue of its own is not disturbed. -/
theorem conserved_and_isolated (settings : Settings) :
    (∀ as : List (Act P), Accounted settings (sends as) (final (step settings) Pipeline.new as)) ∧
    (0 < settings.priorityCapacity → ∀ as bs : List (Act P),
      Meets (step settings) Enabled Pipeline.new as → Meets (step settings) Enabled Pipeline.new bs →
        as.filter concernsPriority = bs.filter concernsPriority →
          priorityWritten (final (step settings) Pipeline.new as) =
            priorityWritten (final (step settings) Pipeline.new bs)) := by
  constructor
  · intro as
    have h := accounted_final settings as 0 Pipeline.new rfl (accounted_new settings)
    rw [Nat.zero_add] at h
    exact h
  · intro hpos as bs has hbs hsame
    exact priority_isolated hpos has hbs hsame

/-- An event that was allowed, and one that was denied. -/
def allowed : AuditEvent Unit := ⟨some "allow", ()⟩

def denied : AuditEvent Unit := ⟨some "deny", ()⟩

theorem denial_survives_flood : priorityWritten (final (step (Settings.ofConfig 1 1 "drop_new")) Pipeline.new
        [.send 0 allowed, .send 0 allowed, .send 0 denied, .take, .finish]) =
      priorityWritten (final (step (Settings.ofConfig 1 1 "drop_new")) Pipeline.new [.send 0 denied, .take]) :=
  (conserved_and_isolated (Settings.ofConfig 1 1 "drop_new")).2 (by decide) _ _
    (meets_cons trivial (meets_cons trivial (meets_cons trivial (meets_cons rfl (meets_cons trivial meets_nil)))))
    (meets_cons trivial (meets_cons rfl meets_nil)) rfl

theorem shared_queue_loses_denial : ¬ ∀ (settings : Settings) (as bs : List (Act Unit)),
      Meets (step settings) Enabled Pipeline.new as → Meets (step settings) Enabled Pipeline.new bs →
        as.filter concernsPriority = bs.filter concernsPriority →
          priorityWritten (final (step settings) Pipeline.new as) =
            priorityWritten (final (step settings) Pipeline.new bs) := by
  intro h
  have hsame := h (Settings.ofConfig 1 0 "drop_new") [.send 0 allowed, .send 0 denied, .take]
    [.send 0 denied, .take] (meets_cons trivial (meets_cons trivial (meets_cons rfl meets_nil)))
    (meets_cons trivial (meets_cons rfl meets_nil)) rfl
  exact absurd hsame (by decide)

end DataNexus.Audit
