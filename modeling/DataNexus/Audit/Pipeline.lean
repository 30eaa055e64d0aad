/-
  The audit pipeline (`gateway/core/src/audit_pipeline.rs`): `try_send`, two bounded queues, one worker.

  Critical decisions have a queue of their own, unless its capacity is zero.  A send has one of three outcomes
  (`trySend_cases`).  Along every interleaving (`accounted_final`) every event sent is written, being dispatched, queued
  or dropped, the queues keep to their capacities, and what leaves a queue does so in the order it was accepted.

  One critical section is one step.  The preparation of an event (id, time, trimming, the ring of recent events) is left
  out; the clock that `sample` reads is part of the action; counters are `Nat`s.
-/
import DataNexus.Lib.Run
import DataNexus.Lib.Text

namespace DataNexus.Audit

open DataNexus.Text DataNexus.Run

/-! ## Settings and state -/

inductive OverflowPolicy where
  | dropNew | dropOld | sample | block
deriving DecidableEq

def OverflowPolicy.parse (raw : String) : OverflowPolicy :=
  let name := toAsciiLowercase (trim raw.toList)
  if name = "drop_old".toList then .dropOld
  else if name = "sample".toList then .sample
  else if name = "block".toList then .block
  else .dropNew

/-- An event: its decision, and the rest of it. -/
structure AuditEvent (P : Type) where
  decision : Option String
  payload : P
deriving DecidableEq

def isPriorityDecision (decision : Option String) : Bool :=
  match decision.map fun d => toAsciiLowercase (trim d.toList) with
  | some d => d = "deny".toList || d = "require_approval".toList || d = "require_ticket".toList
  | none => false

/-- What `AuditPipeline::new` keeps of its configuration for the queues. -/
structure Settings where
  capacity : Nat
  priorityCapacity : Nat
  overflow : OverflowPolicy
  capacity_pos : 0 < capacity

/-- `AuditPipeline::new`. -/
def Settings.ofConfig (queueCapacity priorityQueueCapacity : Nat) (overflow : String) : Settings where
  capacity := max queueCapacity 1
  priorityCapacity := priorityQueueCapacity
  overflow := OverflowPolicy.parse overflow
  capacity_pos := by omega

inductive Lane where
  | normal | priority
deriving DecidableEq

variable {P : Type}

/-- The queues, the worker and the counters of `AuditPipeline`. -/
structure Pipeline (P : Type) where
  queue : List (AuditEvent P)
  priorityQueue : List (AuditEvent P)
  closed : Bool
  /-- The event that the worker is writing, with the queue it came from (history). -/
  dispatching : Option (Lane × AuditEvent P)
  dropped : Nat
  priorityDropped : Nat
  accepted : Nat
  priorityAccepted : Nat
  written : Nat
  /-- History: what was accepted into each queue. -/
  acceptedIn : Lane → List (AuditEvent P)
  /-- History: what was written, with the queue it came from. -/
  log : List (Lane × AuditEvent P)

def Pipeline.new : Pipeline P where
  queue := []
  priorityQueue := []
  closed := false
  dispatching := none
  dropped := 0
  priorityDropped := 0
  accepted := 0
  priorityAccepted := 0
  written := 0
  acceptedIn := fun _ => []
  log := []

/-! ## `try_send` and the worker -/

/-- `enqueue`: whether the event was accepted, the queue, and how many drops were recorded. -/
def enqueue (overflow : OverflowPolicy) (nowUnixMs : Nat) (queue : List (AuditEvent P)) (capacity : Nat)
    (event : AuditEvent P) : Bool × List (AuditEvent P) × Nat :=
  if queue.length ≥ capacity then
    match overflow with
    | .dropOld => (true, queue.tail ++ [event], 1)
    | .sample =>
      if nowUnixMs % 2 = 0 then (false, queue, 1)
      else (true, queue.tail ++ [event], 1)
    | .dropNew => (false, queue, 1)
    | .block => (false, queue, 1)
  else (true, queue ++ [event], 0)

def Settings.prioritizes (settings : Settings) (event : AuditEvent P) : Bool :=
  settings.priorityCapacity > 0 && isPriorityDecision event.decision

def trySend (settings : Settings) (p : Pipeline P) (nowUnixMs : Nat) (event : AuditEvent P) : Pipeline P :=
  if p.closed then p
  else if settings.prioritizes event then
    let (ok, queue, drops) := enqueue settings.overflow nowUnixMs p.priorityQueue settings.priorityCapacity event
    let p := { p with
      priorityQueue := queue
      dropped := p.dropped + drops
      priorityDropped := p.priorityDropped + drops }
    if !ok then p
    else { p with
      priorityAccepted := p.priorityAccepted + 1
      accepted := p.accepted + 1
      acceptedIn := Function.update p.acceptedIn .priority (p.acceptedIn .priority ++ [event]) }
  else
    let (ok, queue, drops) := enqueue settings.overflow nowUnixMs p.queue settings.capacity event
    let p := { p with
      queue := queue
      dropped := p.dropped + drops }
    if !ok then p
    else { p with
      accepted := p.accepted + 1
      acceptedIn := Function.update p.acceptedIn .normal (p.acceptedIn .normal ++ [event]) }

/-- The critical section of `worker_loop`: the oldest priority event, else the oldest event.  With both queues
    empty the worker waits. -/
def take (p : Pipeline P) : Pipeline P :=
  match p.priorityQueue with
  | event :: rest => { p with priorityQueue := rest, dispatching := some (.priority, event) }
  | [] =>
    match p.queue with
    | event :: rest => { p with queue := rest, dispatching := some (.normal, event) }
    | [] => p

/-- `dispatch` returned: the event is written and counted. -/
def finish (p : Pipeline P) : Pipeline P :=
  match p.dispatching with
  | none => p
  | some event => { p with dispatching := none, written := p.written + 1, log := p.log ++ [event] }

inductive Act (P : Type) where
  | send (nowUnixMs : Nat) (event : AuditEvent P)
  | take
  /-- The worker is done with the event it was busy with. -/
  | finish

/-- Carry out one step.  The worker takes nothing while it is busy. -/
def step (settings : Settings) (p : Pipeline P) : Act P → Unit × Pipeline P
  | .send now event => ((), trySend settings p now event)
  | .take => ((), if p.dispatching.isSome then p else take p)
  | .finish => ((), finish p)

/-! ## Lanes -/

def Pipeline.lane (p : Pipeline P) : Lane → List (AuditEvent P)
  | .normal => p.queue
  | .priority => p.priorityQueue

def Settings.capacityOf (settings : Settings) : Lane → Nat
  | .normal => settings.capacity
  | .priority => settings.priorityCapacity

def Settings.laneOf (settings : Settings) (event : AuditEvent P) : Lane :=
  if settings.prioritizes event then .priority else .normal

/-- What was taken from a queue and written, in the order of writing. -/
def Pipeline.writtenFrom (p : Pipeline P) (lane : Lane) : List (AuditEvent P) := (p.log.filter (·.1 = lane)).map (·.2)

/-- What was taken from a queue and is being dispatched. -/
def Pipeline.dispatchingFrom (p : Pipeline P) (lane : Lane) : List (AuditEvent P) :=
  (p.dispatching.toList.filter (·.1 = lane)).map (·.2)

theorem capacityOf_laneOf_pos (settings : Settings) (event : AuditEvent P) :
    0 < settings.capacityOf (settings.laneOf event) := by
  unfold Settings.laneOf
  split
  · rename_i h
    unfold Settings.prioritizes at h
    rw [Bool.and_eq_true, decide_eq_true_eq] at h
    exact h.1
  · exact settings.capacity_pos

/-! ## What one send does -/

theorem enqueue_cases (overflow : OverflowPolicy) (now : Nat) (queue : List (AuditEvent P)) (capacity : Nat)
    (event : AuditEvent P) : (enqueue overflow now queue capacity event = (false, queue, 1) ∧ capacity ≤ queue.length) ∨
    (enqueue overflow now queue capacity event = (true, queue.tail ++ [event], 1) ∧ capacity ≤ queue.length) ∨
    (enqueue overflow now queue capacity event = (true, queue ++ [event], 0) ∧ queue.length < capacity) := by
  unfold enqueue
  by_cases hfull : queue.length ≥ capacity
  · rw [if_pos hfull]
    cases overflow with
    | dropNew => exact Or.inl ⟨rfl, hfull⟩
    | dropOld => exact Or.inr (Or.inl ⟨rfl, hfull⟩)
    | sample =>
      by_cases heven : now % 2 = 0
      · exact Or.inl ⟨by simp only [if_pos heven], hfull⟩
      · exact Or.inr (Or.inl ⟨by simp only [if_neg heven], hfull⟩)
    | block => exact Or.inl ⟨rfl, hfull⟩
  · rw [if_neg hfull]
    exact Or.inr (Or.inr ⟨rfl, by omega⟩)

/-- A send leaves the worker and the other queue alone. -/
structure Untouched (lane : Lane) (p p' : Pipeline P) : Prop where
  closed : p'.closed = p.closed
  dispatching : p'.dispatching = p.dispatching
  written : p'.written = p.written
  log : p'.log = p.log
  other : ∀ l, l ≠ lane → p'.lane l = p.lane l ∧ p'.acceptedIn l = p.acceptedIn l

inductive Sent (lane : Lane) (capacity : Nat) (event : AuditEvent P) (p p' : Pipeline P) : Prop
  | refused (hrest : Untouched lane p p') (hlane : p'.lane lane = p.lane lane)
      (haccepted : p'.acceptedIn lane = p.acceptedIn lane) (hcount : p'.accepted = p.accepted)
      (hdropped : p'.dropped = p.dropped + 1)
  | replaced (hrest : Untouched lane p p') (hfull : capacity ≤ (p.lane lane).length)
      (hlane : p'.lane lane = (p.lane lane).tail ++ [event])
      (haccepted : p'.acceptedIn lane = p.acceptedIn lane ++ [event]) (hcount : p'.accepted = p.accepted + 1)
      (hdropped : p'.dropped = p.dropped + 1)
  | appended (hrest : Untouched lane p p') (hroom : (p.lane lane).length < capacity)
      (hlane : p'.lane lane = p.lane lane ++ [event])
      (haccepted : p'.acceptedIn lane = p.acceptedIn lane ++ [event]) (hcount : p'.accepted = p.accepted + 1)
      (hdropped : p'.dropped = p.dropped)

variable {p : Pipeline P} {settings : Settings}

/-- **Inversion.**  A send before shutdown has one of the three outcomes in the queue the event goes to. -/
theorem trySend_cases (settings : Settings) (hopen : p.closed = false) (now : Nat) (event : AuditEvent P) :
    Sent (settings.laneOf event) (settings.capacityOf (settings.laneOf event)) event p
      (trySend settings p now event) := by
  have hclosed : ¬ p.closed = true := by rw [hopen]; decide
  unfold trySend Settings.laneOf
  rw [if_neg hclosed]
  by_cases hprio : settings.prioritizes event = true
  · rw [if_pos hprio, if_pos hprio]
    rcases enqueue_cases settings.overflow now p.priorityQueue settings.priorityCapacity event with
      ⟨hq, hfull⟩ | ⟨hq, hfull⟩ | ⟨hq, hroom⟩
    · rw [hq]
      refine .refused ⟨rfl, rfl, rfl, rfl, ?_⟩ rfl rfl rfl rfl
      rintro (_ | _) hl
      · exact ⟨rfl, rfl⟩
      · exact absurd rfl hl
    · rw [hq]
      refine .replaced ⟨rfl, rfl, rfl, rfl, ?_⟩ hfull rfl (by simp) rfl rfl
      rintro (_ | _) hl
      · exact ⟨rfl, by simp [hl]⟩
      · exact absurd rfl hl
    · rw [hq]
      refine .appended ⟨rfl, rfl, rfl, rfl, ?_⟩ hroom rfl (by simp) rfl rfl
      rintro (_ | _) hl
      · exact ⟨rfl, by simp [hl]⟩
      · exact absurd rfl hl
  · rw [if_neg hprio, if_neg hprio]
    rcases enqueue_cases settings.overflow now p.queue settings.capacity event with
      ⟨hq, hfull⟩ | ⟨hq, hfull⟩ | ⟨hq, hroom⟩
    · rw [hq]
      refine .refused ⟨rfl, rfl, rfl, rfl, ?_⟩ rfl rfl rfl rfl
      rintro (_ | _) hl
      · exact absurd rfl hl
      · exact ⟨rfl, rfl⟩
    · rw [hq]
      refine .replaced ⟨rfl, rfl, rfl, rfl, ?_⟩ hfull rfl (by simp) rfl rfl
      rintro (_ | _) hl
      · exact absurd rfl hl
      · exact ⟨rfl, by simp [hl]⟩
    · rw [hq]
      refine .appended ⟨rfl, rfl, rfl, rfl, ?_⟩ hroom rfl (by simp) rfl rfl
      rintro (_ | _) hl
      · exact absurd rfl hl
      · exact ⟨rfl, by simp [hl]⟩

/-! ## Conservation -/

/-- All events sent are accounted for, within the capacities and in order. -/
structure Accounted (settings : Settings) (sent : Nat) (p : Pipeline P) : Prop where
  conserved : sent = p.written + p.dispatching.toList.length + (p.lane .normal).length +
    (p.lane .priority).length + p.dropped
  counted : p.accepted = (p.acceptedIn .normal).length + (p.acceptedIn .priority).length
  bounded : ∀ lane, (p.lane lane).length ≤ settings.capacityOf lane
  ordered : ∀ lane, List.Sublist (p.writtenFrom lane ++ p.dispatchingFrom lane ++ p.lane lane)
    (p.acceptedIn lane)

def sends : List (Act P) → Nat
  | [] => 0
  | .send _ _ :: as => sends as + 1
  | _ :: as => sends as

theorem accounted_new (settings : Settings) : Accounted settings 0 (Pipeline.new : Pipeline P) := by
  refine ⟨rfl, rfl, ?_, ?_⟩
  · rintro (_ | _) <;> exact Nat.zero_le _
  · rintro (_ | _) <;> exact List.Sublist.refl _

/-- **Step lemma.**  A send is accounted for in the queue the event goes to. -/
theorem accounted_trySend {sent : Nat} (hopen : p.closed = false) (h : Accounted settings sent p) (now : Nat)
    (event : AuditEvent P) : Accounted settings (sent + 1) (trySend settings p now event) := by
  have hcap := capacityOf_laneOf_pos settings event
  have hcases := trySend_cases settings hopen now event
  generalize settings.laneOf event = lane at hcap hcases
  generalize trySend settings p now event = p' at hcases
  have hbound := h.bounded lane
  -- the events taken from the queues are those of before
  have htaken : Untouched lane p p' → ∀ l, p'.writtenFrom l = p.writtenFrom l ∧
      p'.dispatchingFrom l = p.dispatchingFrom l := by
    intro hrest l
    unfold Pipeline.writtenFrom Pipeline.dispatchingFrom
    rw [hrest.log, hrest.dispatching]
    exact ⟨rfl, rfl⟩
  have hlen : Untouched lane p p' → p'.dropped + (p'.lane lane).length =
      p.dropped + (p.lane lane).length + 1 → sent + 1 = p'.written + p'.dispatching.toList.length +
        (p'.lane .normal).length + (p'.lane .priority).length + p'.dropped := by
    intro hrest hsum
    have hold := h.conserved
    rw [hrest.written, hrest.dispatching]
    cases lane with
    | normal =>
      rw [(hrest.other .priority (by decide)).1]
      omega
    | priority =>
      rw [(hrest.other .normal (by decide)).1]
      omega
  have hcount : Untouched lane p p' → ∀ d, (p'.acceptedIn lane).length = (p.acceptedIn lane).length + d →
      p'.accepted = p.accepted + d →
        p'.accepted = (p'.acceptedIn .normal).length + (p'.acceptedIn .priority).length := by
    intro hrest d hlane haccepted
    have hold := h.counted
    cases lane with
    | normal =>
      rw [(hrest.other .priority (by decide)).2]
      omega
    | priority =>
      rw [(hrest.other .normal (by decide)).2]
      omega
  have hother : Untouched lane p p' → ∀ l, l ≠ lane → (p'.lane l).length ≤ settings.capacityOf l ∧
      List.Sublist (p'.writtenFrom l ++ p'.dispatchingFrom l ++ p'.lane l) (p'.acceptedIn l) := by
    intro hrest l hl
    rw [(htaken hrest l).1, (htaken hrest l).2, (hrest.other l hl).1, (hrest.other l hl).2]
    exact ⟨h.bounded l, h.ordered l⟩
  cases hcases with
  | refused hrest hlane haccepted hmade hdropped =>
    refine ⟨hlen hrest (by rw [hlane, hdropped]; omega), hcount hrest 0 (by rw [haccepted]; rfl) hmade, ?_, ?_⟩
    · intro l
      by_cases hl : l = lane
      · rw [hl, hlane]
        exact hbound
      · exact (hother hrest l hl).1
    · intro l
      by_cases hl : l = lane
      · rw [hl, (htaken hrest lane).1, (htaken hrest lane).2, hlane, haccepted]
        exact h.ordered lane
      · exact (hother hrest l hl).2
  | replaced hrest hfull hlane haccepted hmade hdropped =>
    have htail : (p.lane lane).tail.length + 1 = (p.lane lane).length := by
      rw [List.length_tail]
      omega
    refine ⟨hlen hrest (by rw [hlane, hdropped, List.length_append, List.length_singleton]; omega),
      hcount hrest 1 (by rw [haccepted, List.length_append, List.length_singleton]) hmade, ?_, ?_⟩
    · intro l
      by_cases hl : l = lane
      · rw [hl, hlane, List.length_append, List.length_singleton]
        omega
      · exact (hother hrest l hl).1
    · intro l
      by_cases hl : l = lane
      · rw [hl, (htaken hrest lane).1, (htaken hrest lane).2, hlane, haccepted, ← List.append_assoc]
        refine List.Sublist.append ?_ (List.Sublist.refl _)
        exact ((List.Sublist.refl _).append (List.tail_sublist _)).trans (h.ordered lane)
      · exact (hother hrest l hl).2
  | appended hrest hroom hlane haccepted hmade hdropped =>
    refine ⟨hlen hrest (by rw [hlane, hdropped, List.length_append, List.length_singleton]; omega),
      hcount hrest 1 (by rw [haccepted, List.length_append, List.length_singleton]) hmade, ?_, ?_⟩
    · intro l
      by_cases hl : l = lane
      · rw [hl, hlane, List.length_append, List.length_singleton]
        omega
      · exact (hother hrest l hl).1
    · intro l
      by_cases hl : l = lane
      · rw [hl, (htaken hrest lane).1, (htaken hrest lane).2, hlane, haccepted, ← List.append_assoc]
        exact (h.ordered lane).append (List.Sublist.refl _)
      · exact (hother hrest l hl).2

theorem take_lane (hidle : p.dispatching = none) (lane : Lane) :
    (take p).dispatchingFrom lane ++ (take p).lane lane = p.lane lane := by
  unfold take
  cases hprio : p.priorityQueue with
  | cons event rest =>
    cases lane with
    | normal => rfl
    | priority => exact hprio.symm
  | nil =>
    cases hqueue : p.queue with
    | cons event rest =>
      cases lane with
      | normal => exact hqueue.symm
      | priority => exact hprio.symm
    | nil =>
      unfold Pipeline.dispatchingFrom
      simp only [hidle]
      rfl

theorem take_rest (p : Pipeline P) :
    (take p).written = p.written ∧ (take p).dropped = p.dropped ∧ (take p).log = p.log ∧
      (take p).acceptedIn = p.acceptedIn ∧ (take p).accepted = p.accepted ∧ (take p).closed = p.closed := by
  unfold take
  split
  · exact ⟨rfl, rfl, rfl, rfl, rfl, rfl⟩
  · split <;> exact ⟨rfl, rfl, rfl, rfl, rfl, rfl⟩

theorem take_length (hidle : p.dispatching = none) :
    (take p).dispatching.toList.length + ((take p).lane .normal).length +
      ((take p).lane .priority).length = (p.lane .normal).length + (p.lane .priority).length := by
  unfold take
  cases hprio : p.priorityQueue with
  | cons event rest =>
    show 1 + p.queue.length + rest.length = p.queue.length + p.priorityQueue.length
    rw [hprio, List.length_cons]
    omega
  | nil =>
    cases hqueue : p.queue with
    | cons event rest =>
      show 1 + rest.length + 0 = p.queue.length + p.priorityQueue.length
      rw [hqueue, hprio, List.length_cons, List.length_nil]
      omega
    | nil =>
      simp only [hidle]
      show 0 + p.queue.length + p.priorityQueue.length = _
      rw [Nat.zero_add]
      rfl

theorem accounted_take {sent : Nat} (hidle : p.dispatching = none) (h : Accounted settings sent p) :
    Accounted settings sent (take p) := by
  obtain ⟨hwritten, hdropped, hlog, haccepted, hcount, _⟩ := take_rest p
  have hlen := take_length hidle
  refine ⟨?_, ?_, ?_, ?_⟩
  · have hold := h.conserved
    rw [hidle] at hold
    have hnone : (none : Option (Lane × AuditEvent P)).toList.length = 0 := rfl
    rw [hnone] at hold
    rw [hwritten, hdropped]
    omega
  · rw [hcount, haccepted]
    exact h.counted
  · intro lane
    have hold := congrArg List.length (take_lane hidle lane)
    rw [List.length_append] at hold
    have hbound := h.bounded lane
    omega
  · intro lane
    have hsame : (take p).writtenFrom lane = p.writtenFrom lane := by
      unfold Pipeline.writtenFrom
      rw [hlog]
    have hnone : p.dispatchingFrom lane = [] := by
      unfold Pipeline.dispatchingFrom
      rw [hidle]
      rfl
    have hold := h.ordered lane
    rw [hnone, List.append_nil] at hold
    rw [hsame, List.append_assoc, take_lane hidle lane, haccepted]
    exact hold

theorem finish_writtenFrom (p : Pipeline P) (lane : Lane) :
    (finish p).writtenFrom lane = p.writtenFrom lane ++ p.dispatchingFrom lane ∧
      (finish p).dispatchingFrom lane = [] := by
  unfold finish
  cases hd : p.dispatching with
  | none =>
    unfold Pipeline.writtenFrom Pipeline.dispatchingFrom
    simp only [hd]
    exact ⟨(List.append_nil _).symm, rfl⟩
  | some event =>
    unfold Pipeline.writtenFrom Pipeline.dispatchingFrom
    simp only [hd, List.filter_append, List.map_append]
    exact ⟨rfl, rfl⟩

theorem finish_rest (p : Pipeline P) : (finish p).lane = p.lane ∧ (finish p).dropped = p.dropped ∧
    (finish p).acceptedIn = p.acceptedIn ∧ (finish p).accepted = p.accepted ∧
      (finish p).closed = p.closed ∧ (finish p).dispatching = none ∧
      (finish p).written = p.written + p.dispatching.toList.length := by
  unfold finish
  cases hd : p.dispatching with
  | none => exact ⟨rfl, rfl, rfl, rfl, rfl, hd, rfl⟩
  | some event =>
    refine ⟨?_, rfl, rfl, rfl, rfl, rfl, rfl⟩
    funext lane
    cases lane <;> rfl

theorem accounted_finish {sent : Nat} (h : Accounted settings sent p) : Accounted settings sent (finish p) := by
  obtain ⟨hlane, hdropped, haccepted, hcount, _, hidle, hwritten⟩ := finish_rest p
  refine ⟨?_, ?_, ?_, ?_⟩
  · have hold := h.conserved
    have hnone : (none : Option (Lane × AuditEvent P)).toList.length = 0 := rfl
    rw [hwritten, hdropped, hlane, hidle, hnone]
    omega
  · rw [hcount, haccepted]
    exact h.counted
  · intro lane
    rw [hlane]
    exact h.bounded lane
  · intro lane
    rw [(finish_writtenFrom p lane).1, (finish_writtenFrom p lane).2, hlane, haccepted, List.append_nil]
    exact h.ordered lane

/-- **Step lemma.**  Every step keeps the account. -/
theorem accounted_step {sent : Nat} (hopen : p.closed = false) (h : Accounted settings sent p) (a : Act P) :
    Accounted settings (sent + sends [a]) (step settings p a).2 ∧ (step settings p a).2.closed = false := by
  cases a with
  | send now event =>
    refine ⟨accounted_trySend hopen h now event, ?_⟩
    show (trySend settings p now event).closed = false
    cases trySend_cases settings hopen now event with
    | refused hrest => exact hrest.closed.trans hopen
    | replaced hrest => exact hrest.closed.trans hopen
    | appended hrest => exact hrest.closed.trans hopen
  | take =>
    show Accounted settings sent (if p.dispatching.isSome then p else take p) ∧ _
    simp only [step]
    cases hd : p.dispatching with
    | some event => exact ⟨h, hopen⟩
    | none => exact ⟨accounted_take hd h, (take_rest p).2.2.2.2.2.trans hopen⟩
  | finish => exact ⟨accounted_finish h, (finish_rest p).2.2.2.2.1.trans hopen⟩

/-- **Run lemma.**  Along every interleaving everything sent is accounted for. -/
theorem accounted_final (settings : Settings) (as : List (Act P)) :
    ∀ (sent : Nat) (p : Pipeline P), p.closed = false → Accounted settings sent p →
      Accounted settings (sent + sends as) (final (step settings) p as) := by
  induction as with
  | nil => intro sent p _ h; exact h
  | cons a as ih =>
    intro sent p hopen h
    obtain ⟨hnext, hopen'⟩ := accounted_step hopen h a
    have hrest := ih (sent + sends [a]) _ hopen' hnext
    have hsum : sends [a] + sends as = sends (a :: as) := by
      cases a with
      | send now event => exact Nat.add_comm 1 _
      | take => exact Nat.zero_add _
      | finish => exact Nat.zero_add _
    rw [Nat.add_assoc, hsum] at hrest
    exact hrest

end DataNexus.Audit
