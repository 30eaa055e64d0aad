/-
  The permits of a concurrency rule over time (`plugin/src/concurrency_control/mod.rs`, `plugin/src/build_phase.rs`).

  Any number of commands ask the plugins; each that was granted a permit gives it back once, later, by the index of its
  rule.  The first command after the `duration` of a rule is admitted without a permit and ends the WINDOW: the semaphore
  is made anew.  A permit belongs to the window in which it was granted:

      permits left + permits of this window that are out = max_concurrency

  as long as nobody gives back a permit of an earlier window (`window_conserved`).
-/
import DataNexus.Engine.Plugins
import DataNexus.Lib.Run
import Mathlib.Data.List.Perm.Basic

namespace DataNexus.Engine

open Run

/-! ## One rule is asked -/

/-- What a matching command hears from its rule. -/
inductive Answer where
  | granted
  | full
  | windowOver
  deriving DecidableEq

/-- A matching command asks a rule for a permit. -/
def ask (c : ConcurrencyControlInstance) (now : Nat) : Answer × ConcurrencyControlInstance :=
  match c.startAt with
  | none =>
    let taken := { c with startAt := some now }.tryAcquire
    (if taken.1 then .granted else .full, taken.2)
  | some start =>
    if c.duration < now - start then (.windowOver, { c with startAt := none, permits := c.maxConcurrency })
    else
      let taken := c.tryAcquire
      (if taken.1 then .granted else .full, taken.2)

/-- What `is_allow` makes of the answer. -/
def Answer.toAllow (idx : Nat) : Answer → Option Nat × Bool
  | .granted => (some idx, true)
  | .full => (some idx, false)
  | .windowOver => (none, true)

def matching (input : String) (rules : List ConcurrencyControlInstance) : Option Nat := rules.findIdx? (·.isMatch input)

structure Asks (c : ConcurrencyControlInstance) (now : Nat) (out : Answer × ConcurrencyControlInstance) : Prop where
  max : out.2.maxConcurrency = c.maxConcurrency
  granted : out.1 = .granted → out.2.permits + 1 = c.permits
  full : out.1 = .full → out.2.permits = c.permits ∧ c.permits = 0
  windowOver : out.1 = .windowOver → out.2.permits = c.maxConcurrency ∧ out.2.startAt = none ∧
    ∃ start, c.startAt = some start ∧ c.duration < now - start

theorem asks_tryAcquire {c d : ConcurrencyControlInstance} {now : Nat} (hmax : d.maxConcurrency = c.maxConcurrency)
    (hpermits : d.permits = c.permits) :
    Asks c now (if d.tryAcquire.1 then Answer.granted else .full, d.tryAcquire.2) := by
  cases hout : d.tryAcquire.1 with
  | false =>
    have heq := tryAcquire_refused hout
    have hzero : d.permits = 0 := by simpa using hout
    exact ⟨(congrArg (·.maxConcurrency) heq).trans hmax, nofun,
      fun _ => ⟨(congrArg (·.permits) heq).trans hpermits, hpermits ▸ hzero⟩, nofun⟩
  | true =>
    obtain ⟨heq, hpos⟩ := tryAcquire_granted hout
    refine ⟨(congrArg (·.maxConcurrency) heq).trans hmax, fun _ => ?_, nofun, nofun⟩
    rw [heq]
    show d.permits - 1 + 1 = c.permits
    omega

theorem asks_ask (c : ConcurrencyControlInstance) (now : Nat) : Asks c now (ask c now) := by
  unfold ask
  cases hstart : c.startAt with
  | none => exact asks_tryAcquire rfl rfl
  | some start =>
    dsimp only
    by_cases hover : c.duration < now - start
    · rw [if_pos hover]
      exact ⟨rfl, nofun, nofun, fun _ => ⟨rfl, rfl, start, hstart, hover⟩⟩
    · rw [if_neg hover]
      exact asks_tryAcquire rfl rfl

/-- **Only the first matching rule is asked.** -/
theorem isAllow_eq (input : String) (now idx : Nat) (rules : List ConcurrencyControlInstance) :
    (matching input rules = none ∧ isAllow input now idx rules = ((none, true), rules)) ∨
      ∃ i c, matching input rules = some i ∧ rules[i]? = some c ∧
        isAllow input now idx rules = ((ask c now).1.toAllow (idx + i), rules.set i (ask c now).2) := by
  induction rules generalizing idx with
  | nil => exact .inl ⟨rfl, rfl⟩
  | cons c rest ih =>
    unfold isAllow
    by_cases hmatch : c.isMatch input = true
    · refine .inr ⟨0, c, ?_, rfl, ?_⟩
      · simp [matching, List.findIdx?_cons, hmatch]
      · rw [if_pos hmatch]
        unfold ask
        cases c.startAt with
        | none =>
          dsimp only
          cases ({ c with startAt := some now } : ConcurrencyControlInstance).tryAcquire.1 <;> rfl
        | some start =>
          dsimp only
          by_cases hover : c.duration < now - start
          · rw [if_pos hover, if_pos hover]
            rfl
          · rw [if_neg hover, if_neg hover]
            cases c.tryAcquire.1 <;> rfl
    · rw [if_neg hmatch]
      have hshift : matching input (c :: rest) = (matching input rest).map (· + 1) := by
        simp [matching, List.findIdx?_cons, hmatch]
      rcases ih (idx + 1) with ⟨hnone, hout⟩ | ⟨i, d, hsome, hat, hout⟩
      · refine .inl ⟨by rw [hshift, hnone]; rfl, ?_⟩
        rw [hout]
      · refine .inr ⟨i + 1, d, by rw [hshift, hsome]; rfl, hat, ?_⟩
        rw [hout, Nat.add_assoc, Nat.add_comm 1 i]
        rfl

/-- The rule a command asks, and what it hears. -/
def PluginPhase.asked (p : PluginPhase) (input : String) (now : Nat) : Option (Nat × Answer) :=
  if p.circuitBreak.any (· input) then none
  else do
    let i ← matching input p.concurrencyControl
    let c ← p.concurrencyControl[i]?
    return (i, (ask c now).1)

/-- **What `evaluate` does**: nothing to the rules if none is asked; otherwise the first rule that matches answers, a
    permit is held iff it is granted, and the other rules are left alone. -/
theorem evaluate_eq (p : PluginPhase) (input : String) (now : Nat) :
    (p.asked input now = none ∧ (p.evaluate input now).2 = (none, p) ∧
        ((p.evaluate input now).1 = .proceed → matching input p.concurrencyControl = none)) ∨
      ∃ i c, matching input p.concurrencyControl = some i ∧ p.concurrencyControl[i]? = some c ∧
        p.asked input now = some (i, (ask c now).1) ∧
        (p.evaluate input now).2.2 = { p with concurrencyControl := p.concurrencyControl.set i (ask c now).2 } ∧
        (p.evaluate input now).2.1 = (if (ask c now).1 = .granted then some i else none) ∧
        ((p.evaluate input now).1 = .proceed → (ask c now).1 ≠ .full) := by
  unfold PluginPhase.asked PluginPhase.evaluate
  by_cases hbreak : p.circuitBreak.any (· input) = true
  · rw [if_pos hbreak, if_pos hbreak]
    exact .inl ⟨rfl, rfl, nofun⟩
  · rw [if_neg hbreak, if_neg hbreak]
    rcases isAllow_eq input now 0 p.concurrencyControl with ⟨hnone, hout⟩ | ⟨i, c, hsome, hat, hout⟩
    · refine .inl ⟨by rw [hnone]; rfl, ?_, fun _ => hnone⟩
      rw [hout]
      rfl
    · refine .inr ⟨i, c, hsome, hat, by rw [hsome]; simp [hat], ?_⟩
      rw [hout, Nat.zero_add]
      cases hans : (ask c now).1 with
      | granted => exact ⟨rfl, rfl, nofun⟩
      | full => exact ⟨rfl, rfl, nofun⟩
      | windowOver => exact ⟨rfl, rfl, nofun⟩

/-! ## Commands and their permits -/

/-- A permit that is out: the rule that granted it, and in which of its windows. -/
structure Permit where
  rule : Nat
  window : Nat
  deriving DecidableEq

/-- The plugins of a service with the commands that run.  Only `plugins` is kept by the program; the rest says what
    became of the permits. -/
structure Gate where
  plugins : PluginPhase
  window : Nat → Nat
  out : List Permit
  stale : Nat → Nat

/-- A command is evaluated, or one of the commands that hold a permit is done. -/
inductive GateAct where
  | evaluate (input : String) (now : Nat)
  | release (k : Nat)

namespace Gate

/-- The plugins are built from the configuration: what each rule matches, `max_concurrency` and `duration`. -/
def start (circuitBreak : List (String → Bool)) (rules : List ((String → Bool) × Nat × Nat)) : Gate :=
  ⟨⟨circuitBreak, rules.map fun c => .new c.1 c.2.1 c.2.2⟩, fun _ => 0, [], fun _ => 0⟩

/-- `release_concurrency` with the index of the rule of a permit that is out. -/
def giveBack (s : Gate) (k : Nat) (permit : Permit) : Gate where
  plugins := s.plugins.release (some permit.rule)
  window := s.window
  out := s.out.eraseIdx k
  stale :=
    if permit.window = s.window permit.rule then s.stale
    else Function.update s.stale permit.rule (s.stale permit.rule + 1)

/-- One call: the decision with `concurrency_rule_idx`, and the state. -/
def step (s : Gate) : GateAct → Option (PluginDecision × Option Nat) × Gate
  | .evaluate input now =>
    let (decision, rule, plugins) := s.plugins.evaluate input now
    let out := match rule with
      | some i => ⟨i, s.window i⟩ :: s.out
      | none => s.out
    match s.plugins.asked input now with
    | some (i, .windowOver) =>
      (some (decision, rule), ⟨plugins, Function.update s.window i (s.window i + 1), out, Function.update s.stale i 0⟩)
    | _ => (some (decision, rule), ⟨plugins, s.window, out, s.stale⟩)
  | .release k =>
    match s.out[k]? with
    | none => (none, s)
    | some permit => (none, s.giveBack k permit)

/-- How many permits of a rule's current window are out. -/
def running (s : Gate) (i : Nat) : Nat := s.out.count ⟨i, s.window i⟩

/-- The books of a rule: what is left and what is out make up the maximum, and what was given back from earlier
    windows. -/
structure Accounted (s : Gate) : Prop where
  balance : ∀ i c, s.plugins.concurrencyControl[i]? = some c → c.permits + s.running i = c.maxConcurrency + s.stale i
  granted : ∀ p ∈ s.out, p.window ≤ s.window p.rule

/-! ## One step -/

/-- The state after a rule has answered a command. -/
def answered (s : Gate) (i : Nat) (c : ConcurrencyControlInstance) : Answer → Gate
  | .granted =>
    ⟨{ s.plugins with concurrencyControl := s.plugins.concurrencyControl.set i c }, s.window,
      ⟨i, s.window i⟩ :: s.out, s.stale⟩
  | .full =>
    ⟨{ s.plugins with concurrencyControl := s.plugins.concurrencyControl.set i c }, s.window, s.out, s.stale⟩
  | .windowOver =>
    ⟨{ s.plugins with concurrencyControl := s.plugins.concurrencyControl.set i c },
      Function.update s.window i (s.window i + 1), s.out, Function.update s.stale i 0⟩

/-- A command changes nothing, or one rule answers it.  Without a permit it goes on if no rule matches or the window is
    over. -/
theorem step_evaluate (s : Gate) (input : String) (now : Nat) :
    ((s.step (.evaluate input now)).2 = s ∧ ((s.step (.evaluate input now)).1 = some (.proceed, none) →
        matching input s.plugins.concurrencyControl = none)) ∨
      ∃ i c, matching input s.plugins.concurrencyControl = some i ∧ s.plugins.concurrencyControl[i]? = some c ∧
        (s.step (.evaluate input now)).2 = s.answered i (ask c now).2 (ask c now).1 ∧
        ((s.step (.evaluate input now)).1 = some (.proceed, none) → (ask c now).1 = .windowOver) := by
  rcases evaluate_eq s.plugins input now with ⟨hnone, hout, hproceed⟩ |
    ⟨i, c, hmatching, hat, hasked, hplugins, hrule, hproceed⟩
  · refine .inl ⟨?_, fun h => hproceed ?_⟩
    · simp only [step, hnone, hout]
    · simp only [step, hnone] at h
      exact (Prod.mk.inj (Option.some.inj h)).1
  · refine .inr ⟨i, c, hmatching, hat, ?_, ?_⟩
    · simp only [step, hasked, hplugins, hrule]
      cases (ask c now).1 with
      | granted => rfl
      | full => rfl
      | windowOver => rfl
    · simp only [step, hasked, hrule]
      cases hans : (ask c now).1 with
      | granted => exact fun h => nomatch (Prod.mk.inj (Option.some.inj h)).2
      | full => exact fun h => absurd hans (hproceed (Prod.mk.inj (Option.some.inj h)).1)
      | windowOver => exact fun _ => rfl

variable {s : Gate} {i : Nat} {c : ConcurrencyControlInstance}

theorem Accounted.next_window (h : s.Accounted) (i : Nat) : s.out.count ⟨i, s.window i + 1⟩ = 0 := by
  rw [List.count_eq_zero]
  intro hmem
  have hle := h.granted _ hmem
  dsimp only at hle
  omega

/-- **A rule that answers keeps the books.** -/
theorem Accounted.answered (h : s.Accounted) {now : Nat} (hc : s.plugins.concurrencyControl[i]? = some c)
    {out : Answer × ConcurrencyControlInstance} (hout : Asks c now out) : (s.answered i out.2 out.1).Accounted := by
  have hbal := h.balance i c hc
  -- the rule that answered, and the others
  have hrules : ∀ j d, (s.plugins.concurrencyControl.set i out.2)[j]? = some d →
      (j = i ∧ d = out.2) ∨ (j ≠ i ∧ s.plugins.concurrencyControl[j]? = some d) := by
    intro j d hd
    by_cases hji : j = i
    · subst hji
      rw [List.getElem?_set_self (List.getElem?_eq_some_iff.mp hc).1] at hd
      exact .inl ⟨rfl, (Option.some.inj hd).symm⟩
    · rw [List.getElem?_set_ne (Ne.symm hji)] at hd
      exact .inr ⟨hji, hd⟩
  obtain ⟨answer, c'⟩ := out
  unfold running at hbal
  cases answer with
  | granted =>
    have hpermits := hout.granted rfl
    have hmax := hout.max
    refine ⟨fun j d hd => ?_, fun p hp => ?_⟩
    · unfold running Gate.answered
      dsimp only
      rcases hrules j d hd with ⟨rfl, rfl⟩ | ⟨hji, hd⟩
      · rw [List.count_cons_self]
        dsimp only at hpermits hmax ⊢
        omega
      · rw [List.count_cons_of_ne (fun heq => hji (congrArg Permit.rule heq).symm)]
        exact h.balance j d hd
    · rcases List.mem_cons.mp hp with rfl | hp
      · exact le_refl _
      · exact h.granted p hp
  | full =>
    obtain ⟨hpermits, -⟩ := hout.full rfl
    have hmax := hout.max
    refine ⟨fun j d hd => ?_, h.granted⟩
    rcases hrules j d hd with ⟨rfl, rfl⟩ | ⟨hji, hd⟩
    · unfold running Gate.answered
      dsimp only at hpermits hmax ⊢
      omega
    · exact h.balance j d hd
  | windowOver =>
    obtain ⟨hpermits, -, -⟩ := hout.windowOver rfl
    have hmax := hout.max
    refine ⟨fun j d hd => ?_, fun p hp => ?_⟩
    · unfold running Gate.answered
      dsimp only
      rcases hrules j d hd with ⟨rfl, rfl⟩ | ⟨hji, hd⟩
      · rw [Function.update_self, Function.update_self, h.next_window]
        dsimp only at hpermits hmax ⊢
        omega
      · rw [Function.update_of_ne hji, Function.update_of_ne hji]
        exact h.balance j d hd
    · have hle := h.granted p hp
      show p.window ≤ Function.update s.window i (s.window i + 1) p.rule
      by_cases hpi : p.rule = i
      · rw [hpi, Function.update_self]
        rw [hpi] at hle
        omega
      · rw [Function.update_of_ne hpi]
        exact hle

/-- **A permit that is given back keeps the books**: one of the current window moves from those that are out to those
    that are left, one of an earlier window is added. -/
theorem Accounted.giveBack (h : s.Accounted) {k : Nat} {permit : Permit} (hk : s.out[k]? = some permit) :
    (s.giveBack k permit).Accounted := by
  obtain ⟨hlt, hat⟩ := List.getElem?_eq_some_iff.mp hk
  have hcount : ∀ q, s.out.count q = (s.out.eraseIdx k).count q + if permit = q then 1 else 0 := by
    intro q
    have hperm := List.Perm.count_eq (List.getElem_cons_eraseIdx_perm hlt) q
    rw [hat, List.count_cons] at hperm
    rw [← hperm]
    simp only [beq_iff_eq]
  refine ⟨fun j d hd => ?_, fun p hp => h.granted p (List.mem_of_mem_eraseIdx hp)⟩
  have hd' : (s.plugins.concurrencyControl.modify permit.rule fun c => { c with permits := c.permits + 1 })[j]? =
    some d := hd
  rw [List.getElem?_modify] at hd'
  obtain ⟨c, hc, heq⟩ := Option.map_eq_some_iff.mp hd'
  have hbal := h.balance j c hc
  unfold running at hbal ⊢
  rw [hcount] at hbal
  unfold Gate.giveBack
  dsimp only
  by_cases hj : permit.rule = j
  · rw [if_pos hj] at heq
    subst heq hj
    dsimp only
    by_cases hwindow : permit.window = s.window permit.rule
    · rw [if_pos hwindow]
      rw [if_pos (by rw [← hwindow])] at hbal
      omega
    · rw [if_neg hwindow, Function.update_self]
      rw [if_neg (fun heq => hwindow (congrArg Permit.window heq))] at hbal
      omega
  · rw [if_neg hj] at heq
    subst heq
    rw [if_neg (fun heq => hj (congrArg Permit.rule heq))] at hbal
    have hstale : (if permit.window = s.window permit.rule then s.stale
        else Function.update s.stale permit.rule (s.stale permit.rule + 1)) j = s.stale j := by
      split_ifs
      · rfl
      · exact Function.update_of_ne (Ne.symm hj) _ _
    rw [hstale]
    exact hbal

theorem Accounted.step (h : s.Accounted) (a : GateAct) : (s.step a).2.Accounted := by
  cases a with
  | evaluate input now =>
    rcases step_evaluate s input now with ⟨heq, -⟩ | ⟨i, c, -, hat, heq, -⟩
    · exact heq.symm ▸ h
    · exact heq.symm ▸ h.answered hat (asks_ask c now)
  | release k =>
    show (match s.out[k]? with | none => (none, s) | some permit => (none, s.giveBack k permit)).2.Accounted
    cases hk : s.out[k]? with
    | none => exact h
    | some permit => exact h.giveBack hk

/-! ## Runs -/

def Configured (rules : List ((String → Bool) × Nat × Nat)) (s : Gate) : Prop :=
  s.plugins.concurrencyControl.map (·.maxConcurrency) = rules.map (·.2.1)

theorem Configured.answered {rules : List ((String → Bool) × Nat × Nat)} (h : Configured rules s)
    {c' : ConcurrencyControlInstance} (hc : s.plugins.concurrencyControl[i]? = some c)
    (hmax : c'.maxConcurrency = c.maxConcurrency) (answer : Answer) : Configured rules (s.answered i c' answer) := by
  have hset : (s.plugins.concurrencyControl.set i c').map (·.maxConcurrency) = rules.map (·.2.1) := by
    obtain ⟨hlt, hat⟩ := List.getElem?_eq_some_iff.mp hc
    have hlt' : i < (s.plugins.concurrencyControl.map (·.maxConcurrency)).length := by simpa using hlt
    have hget : (s.plugins.concurrencyControl.map (·.maxConcurrency))[i] = c.maxConcurrency := by
      rw [List.getElem_map, hat]
    rw [List.map_set, hmax, ← hget, List.set_getElem_self]
    exact h
  cases answer with
  | granted => exact hset
  | full => exact hset
  | windowOver => exact hset

theorem Configured.step {rules : List ((String → Bool) × Nat × Nat)} (h : Configured rules s) (a : GateAct) :
    Configured rules (s.step a).2 := by
  cases a with
  | evaluate input now =>
    rcases step_evaluate s input now with ⟨heq, -⟩ | ⟨i, c, -, hat, heq, -⟩
    · exact heq.symm ▸ h
    · exact heq.symm ▸ h.answered hat (asks_ask c now).max _
  | release k =>
    show Configured rules (match s.out[k]? with | none => (none, s) | some permit => (none, s.giveBack k permit)).2
    cases hk : s.out[k]? with
    | none => exact h
    | some permit =>
      show (s.plugins.concurrencyControl.modify permit.rule fun c => { c with permits := c.permits + 1 }).map
        (·.maxConcurrency) = rules.map (·.2.1)
      rw [← h]
      apply List.ext_getElem?
      intro j
      rw [List.getElem?_map, List.getElem?_map, List.getElem?_modify]
      cases s.plugins.concurrencyControl[j]? with
      | none => rfl
      | some c =>
        show some (ConcurrencyControlInstance.maxConcurrency _) = _
        split_ifs <;> rfl

theorem accounted_start (circuitBreak : List (String → Bool)) (rules : List ((String → Bool) × Nat × Nat)) :
    (start circuitBreak rules).Accounted ∧ Configured rules (start circuitBreak rules) := by
  refine ⟨⟨fun i c hc => ?_, nofun⟩, ?_⟩
  · have hc' : (rules.map fun c => ConcurrencyControlInstance.new c.1 c.2.1 c.2.2)[i]? = some c := hc
    obtain ⟨rule, -, rfl⟩ := List.mem_map.mp (List.mem_of_getElem? hc')
    rfl
  · show (rules.map fun c => ConcurrencyControlInstance.new c.1 c.2.1 c.2.2).map (·.maxConcurrency) = _
    rw [List.map_map]
    rfl

/-- A window of the rule `i` with the limit `max`: what is left and what is out make up the limit. -/
def Conserved (s : Gate) (i max : Nat) : Prop :=
  ∃ c, s.plugins.concurrencyControl[i]? = some c ∧ c.permits + s.running i = max

theorem Configured.get {rules : List ((String → Bool) × Nat × Nat)} {s : Gate} (h : Configured rules s) {i : Nat} :
    (s.plugins.concurrencyControl[i]?).map (·.maxConcurrency) = (rules[i]?).map (·.2.1) := by
  rw [← List.getElem?_map, ← List.getElem?_map, show s.plugins.concurrencyControl.map _ = _ from h]

theorem Accounted.conserved {rules : List ((String → Bool) × Nat × Nat)} (h : s.Accounted)
    (hconf : Configured rules s) {rule : (String → Bool) × Nat × Nat} (hrule : rules[i]? = some rule)
    (hstale : s.stale i = 0) : s.Conserved i rule.2.1 := by
  have hmax := hconf.get (i := i)
  rw [hrule] at hmax
  obtain ⟨c, hc, heq⟩ := Option.map_eq_some_iff.mp hmax
  have hbal := h.balance i c hc
  rw [hstale, heq] at hbal
  exact ⟨c, hc, hbal⟩

theorem Conserved.running_le {max : Nat} (h : s.Conserved i max) : s.running i ≤ max := by
  obtain ⟨c, -, hbal⟩ := h
  omega

/-- One rule that every text matches, with one permit, for ten units of time. -/
def oneRule : List ((String → Bool) × Nat × Nat) := [(fun _ => true, 1, 10)]

/-- **Permits are conserved within a window**: as long as no permit of an earlier window was given back in it, those left
    and those out make up `max_concurrency`.  A command without a permit is one that no rule matches, or that finds the
    window over. -/
theorem window_conserved (circuitBreak : List (String → Bool)) (rules : List ((String → Bool) × Nat × Nat))
    (acts : List GateAct) {e : Entry Gate GateAct (Option (PluginDecision × Option Nat))}
    (he : e ∈ entries step (start circuitBreak rules) acts) : (∀ i rule, rules[i]? = some rule → e.post.stale i = 0 →
      e.post.Conserved i rule.2.1 ∧ e.post.running i ≤ rule.2.1) ∧
    (∀ input now, e.act = .evaluate input now → e.out = some (.proceed, none) →
      matching input e.pre.plugins.concurrencyControl = none ∨
      ∃ i rule c begun, matching input e.pre.plugins.concurrencyControl = some i ∧ rules[i]? = some rule ∧
        e.pre.plugins.concurrencyControl[i]? = some c ∧ c.startAt = some begun ∧ c.duration < now - begun ∧
        e.post.stale i = 0 ∧ e.post.Conserved i rule.2.1 ∧ e.post.running i = 0) := by
  obtain ⟨⟨hpre, hpreConf⟩, ⟨hpost, hpostConf⟩⟩ :=
    inv_of_mem_entries (fun s => s.Accounted ∧ Configured rules s) (fun s a hs _ => ⟨hs.1.step a, hs.2.step a⟩)
      (accounted_start circuitBreak rules) (meets_always step _ acts) he
  refine ⟨fun i rule hrule hstale => ?_, fun input now hact hout => ?_⟩
  · have hconserved := hpost.conserved hpostConf hrule hstale
    exact ⟨hconserved, hconserved.running_le⟩
  · obtain ⟨hentryOut, hentryPost⟩ := entry_eq he
    rw [hact] at hentryOut hentryPost
    rcases step_evaluate e.pre input now with ⟨-, hfree⟩ | ⟨i, c, hmatching, hc, hstep, hfree⟩
    · exact .inl (hfree (hentryOut.symm.trans hout))
    · have hover := hfree (hentryOut.symm.trans hout)
      have hmax := hpreConf.get (i := i)
      rw [hc] at hmax
      obtain ⟨rule, hrule, -⟩ := Option.map_eq_some_iff.mp hmax.symm
      obtain ⟨-, -, start, hstart, hlong⟩ := (asks_ask c now).windowOver hover
      rw [hstep, hover] at hentryPost
      have hstale : e.post.stale i = 0 := by
        rw [hentryPost]
        exact Function.update_self _ _ _
      have hrunning : e.post.running i = 0 := by
        rw [hentryPost]
        show e.pre.out.count ⟨i, Function.update e.pre.window i (e.pre.window i + 1) i⟩ = 0
        rw [Function.update_self]
        exact hpre.next_window i
      exact .inr ⟨i, rule, c, start, hmatching, hrule, hc, hstart, hlong, hstale,
        hpost.conserved hpostConf hrule hstale, hrunning⟩

theorem one_command_conserved : ((start [] oneRule).step (.evaluate "q" 0)).2.Conserved 0 1 ∧
      ((start [] oneRule).step (.evaluate "q" 0)).2.running 0 ≤ 1 :=
  (window_conserved [] oneRule [.evaluate "q" 0] (last_mem_entries step _ [] (.evaluate "q" 0))).1 0 (fun _ => true, 1, 10)
    rfl rfl

/-- A second permit for a rule with one: the next window has a permit again while the first is still out. -/
theorem expired_window_grants_again :
    ((entries step (start [] oneRule) [.evaluate "q" 0, .evaluate "q" 11, .evaluate "q" 12, .release 1]).map fun e =>
      (e.out, e.post.plugins.concurrencyControl.map (·.permits), e.post.out.length)) =
        [(some (.proceed, some 0), [0], 1), (some (.proceed, none), [1], 1), (some (.proceed, some 0), [0], 2),
          (none, [1], 1)] ∧
    ¬ ∀ e ∈ entries step (start [] oneRule) [.evaluate "q" 0, .evaluate "q" 11, .evaluate "q" 12, .release 1],
      ∀ c ∈ e.post.plugins.concurrencyControl, c.permits + e.post.out.length = c.maxConcurrency := by
  refine ⟨by decide, fun h => ?_⟩
  have hlast := h _ (last_mem_entries step _ [.evaluate "q" 0, .evaluate "q" 11, .evaluate "q" 12] (.release 1))
  revert hlast
  decide

end Gate

end DataNexus.Engine
