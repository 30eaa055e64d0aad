/-
  The governance plugins of a connection (`plugin/src/build_phase.rs`, `circuit_break/mod.rs`,
  `concurrency_control/mod.rs`).

  A concurrency rule has a semaphore.  `is_allow` takes a permit of the first rule that matches and forgets
  it; the engine gives it back with `release_concurrency` when the command is done.  After `duration` the
  semaphore is made anew, whatever was taken from the old one.

  Regular expressions are known only through what they match; the clock is a reading per call.  Both plugins
  wrap a service that always succeeds, so `evaluate` has no error of its own.
-/
import DataNexus.Engine.Gateway

namespace DataNexus.Engine

/-! ## The rules -/

/-- `ConcurrencyControlInstance`; `isMatch` is "some of its expressions match", `permits` is what its
    semaphore has left. -/
structure ConcurrencyControlInstance where
  isMatch : String → Bool
  maxConcurrency : Nat
  duration : Nat
  permits : Nat
  startAt : Option Nat

namespace ConcurrencyControlInstance

/-- A rule of the configuration: `isMatch`, `max_concurrency` and `duration`. -/
def new (isMatch : String → Bool) (maxConcurrency duration : Nat) : ConcurrencyControlInstance :=
  ⟨isMatch, maxConcurrency, duration, maxConcurrency, none⟩

/-- `try_acquire_owned` and `forget`. -/
def tryAcquire (c : ConcurrencyControlInstance) : Bool × ConcurrencyControlInstance :=
  if c.permits = 0 then (false, c) else (true, { c with permits := c.permits - 1 })

/-- The permits that were taken and not given back. -/
def held (c : ConcurrencyControlInstance) : Int := (c.maxConcurrency : Int) - c.permits

end ConcurrencyControlInstance

/-- `is_allow`: the rule that was asked, if any, and whether the command may go on.  `idx` is the position
    of the first rule of the list. -/
def isAllow (input : String) (now : Nat) :
    Nat → List ConcurrencyControlInstance → (Option Nat × Bool) × List ConcurrencyControlInstance
  | _, [] => ((none, true), [])
  | idx, c :: rest =>
    if c.isMatch input then
      match c.startAt with
      | none =>
        let taken := { c with startAt := some now }.tryAcquire
        ((some idx, taken.1), taken.2 :: rest)
      | some start =>
        if c.duration < now - start then
          -- the rule has expired: a new semaphore, and this command is not counted
          ((none, true), { c with startAt := none, permits := c.maxConcurrency } :: rest)
        else
          let taken := c.tryAcquire
          ((some idx, taken.1), taken.2 :: rest)
    else
      let out := isAllow input now (idx + 1) rest
      (out.1, c :: out.2)

def addPermits (idx : Nat) (rules : List ConcurrencyControlInstance) : List ConcurrencyControlInstance :=
  rules.modify idx fun c => { c with permits := c.permits + 1 }

/-- `PluginPhase`; a circuit breaker is known by what it matches. -/
structure PluginPhase where
  circuitBreak : List (String → Bool)
  concurrencyControl : List ConcurrencyControlInstance

def matchText : GatewayCommand → String
  | .query sql => sql
  | .queryParams sql _ => sql
  | .prepare sql => sql
  | .describeSql sql => sql
  | .execute statementId _ => statementId
  | .closeStatement statementId => statementId
  | .useDatabase database => database
  | .clientWire _ => "CLIENT_WIRE"
  | .pgBackendSync => "PG_BACKEND_SYNC"
  | .begin => "BEGIN"
  | .commit => "COMMIT"
  | .rollback => "ROLLBACK"
  | .ping => "PING"
  | .quit => "QUIT"

namespace PluginPhase

/-- `evaluate`: the decision and `concurrency_rule_idx`. -/
def evaluate (p : PluginPhase) (input : String) (now : Nat) : PluginDecision × Option Nat × PluginPhase :=
  if p.circuitBreak.any (· input) then
    (.reject "circuit_break" "audit plugin rejected", none, p)
  else
    let out := isAllow input now 0 p.concurrencyControl
    let p := { p with concurrencyControl := out.2 }
    if out.1.2 then (.proceed, out.1.1, p)
    else (.reject "concurrency_control" "concurrency control plugin rejected", none, p)

/-- `release_concurrency`, for a command that holds a permit. -/
def release (p : PluginPhase) : Option Nat → PluginPhase
  | none => p
  | some idx => { p with concurrencyControl := addPermits idx p.concurrencyControl }

/-- The permits a connection holds, rule by rule. -/
def held (p : PluginPhase) : List Int := p.concurrencyControl.map (·.held)

def AllHome (p : PluginPhase) : Prop := ∀ c ∈ p.concurrencyControl, c.held = 0

end PluginPhase

/-! ## Taking and giving back -/

@[simp] theorem tryAcquire_fst (c : ConcurrencyControlInstance) : c.tryAcquire.1 = !decide (c.permits = 0) := by
  unfold ConcurrencyControlInstance.tryAcquire
  split
  · next h => simp [h]
  · next h => simp [h]

variable {c : ConcurrencyControlInstance}

theorem tryAcquire_refused (h : c.tryAcquire.1 = false) : c.tryAcquire.2 = c := by
  unfold ConcurrencyControlInstance.tryAcquire at h ⊢
  split
  · rfl
  · next hpermits =>
    rw [if_neg hpermits] at h
    cases h

theorem tryAcquire_granted (h : c.tryAcquire.1 = true) :
    c.tryAcquire.2 = { c with permits := c.permits - 1 } ∧ 0 < c.permits := by
  unfold ConcurrencyControlInstance.tryAcquire at h ⊢
  split
  · next hpermits =>
    rw [if_pos hpermits] at h
    cases h
  · next hpermits => exact ⟨rfl, by omega⟩

theorem acquire_home (hc : c.held = 0) : (c.tryAcquire.1 = false → c.tryAcquire.2.held = 0) ∧
      (c.tryAcquire.1 = true → c.tryAcquire.2.held = 1 ∧
        { c.tryAcquire.2 with permits := c.tryAcquire.2.permits + 1 }.held = 0) := by
  constructor
  · intro h
    rw [tryAcquire_refused h]
    exact hc
  · intro h
    obtain ⟨heq, hpos⟩ := tryAcquire_granted h
    rw [heq]
    unfold ConcurrencyControlInstance.held at hc ⊢
    dsimp only
    constructor
    · omega
    · omega

/-- The rules after they were asked, with no permit out before: one permit of the returned rule is out, or
    none is. -/
structure Asked (idx : Nat) (rules : List ConcurrencyControlInstance)
    (out : (Option Nat × Bool) × List ConcurrencyControlInstance) : Prop where
  length : out.2.length = rules.length
  refused : out.1.2 = false → ∀ c ∈ out.2, c.held = 0
  free : out.1 = (none, true) → ∀ c ∈ out.2, c.held = 0
  taken : ∀ k, out.1 = (some k, true) →
    idx ≤ k ∧ (∃ c ∈ out.2, c.held = 1) ∧ ∀ c ∈ addPermits (k - idx) out.2, c.held = 0

theorem asked_head {idx : Nat} {c' : ConcurrencyControlInstance} {rest : List ConcurrencyControlInstance}
    (hrest : ∀ c ∈ rest, c.held = 0) (hc : c'.held = 0) :
    Asked idx (c :: rest) ((some idx, c'.tryAcquire.1), c'.tryAcquire.2 :: rest) := by
  obtain ⟨hrefused, hgranted⟩ := acquire_home hc
  refine ⟨rfl, ?_, nofun, ?_⟩
  · intro hout d hd
    rcases List.mem_cons.mp hd with rfl | hd
    · exact hrefused hout
    · exact hrest d hd
  · intro k hout
    injection hout with hk htaken
    injection hk with hk
    obtain ⟨hone, hback⟩ := hgranted htaken
    refine ⟨Nat.le_of_eq hk, ⟨_, List.mem_cons_self, hone⟩, ?_⟩
    rw [hk, Nat.sub_self]
    intro d hd
    rcases List.mem_cons.mp hd with rfl | hd
    · exact hback
    · exact hrest d hd

theorem asked_isAllow (input : String) (now idx : Nat) (rules : List ConcurrencyControlInstance)
    (hhome : ∀ c ∈ rules, c.held = 0) : Asked idx rules (isAllow input now idx rules) := by
  induction rules generalizing idx with
  | nil => exact ⟨rfl, nofun, fun _ => hhome, nofun⟩
  | cons c rest ih =>
    have hc : c.held = 0 := hhome c List.mem_cons_self
    have hrest : ∀ d ∈ rest, d.held = 0 := fun d hd => hhome d (List.mem_cons_of_mem c hd)
    unfold isAllow
    split
    · cases hstart : c.startAt with
      | none => exact asked_head hrest hc
      | some start =>
        dsimp only
        split
        · refine ⟨rfl, nofun, ?_, nofun⟩
          intro _ d hd
          rcases List.mem_cons.mp hd with rfl | hd
          · exact Int.sub_self _
          · exact hrest d hd
        · exact asked_head hrest hc
    · have h := ih (idx + 1) hrest
      have hcons : ∀ {ds : List ConcurrencyControlInstance}, (∀ d ∈ ds, d.held = 0) →
          ∀ d ∈ c :: ds, d.held = 0 := by
        intro ds hds d hd
        rcases List.mem_cons.mp hd with rfl | hd
        · exact hc
        · exact hds d hd
      refine ⟨congrArg (· + 1) h.length, fun hout => hcons (h.refused hout), fun hout => hcons (h.free hout), ?_⟩
      intro k hout
      obtain ⟨hle, ⟨d, hd, hone⟩, hback⟩ := h.taken k hout
      refine ⟨by omega, ⟨d, List.mem_cons_of_mem c hd, hone⟩, ?_⟩
      -- the position counts from one place further on in the rest
      have hshift : k - idx = (k - (idx + 1)) + 1 := by omega
      rw [hshift]
      exact hcons hback

namespace PluginPhase

variable {p q : PluginPhase}

theorem AllHome.of_held_eq (hp : p.AllHome) (h : q.held = p.held) : q.AllHome := by
  intro c hc
  have hmem : c.held ∈ p.held := h ▸ List.mem_map_of_mem hc
  obtain ⟨d, hd, heq⟩ := List.mem_map.mp hmem
  exact heq.symm.trans (hp d hd)

theorem held_eq_iff (hp : p.AllHome) (hlength : q.concurrencyControl.length = p.concurrencyControl.length) :
    q.held = p.held ↔ q.AllHome := by
  refine ⟨hp.of_held_eq, fun hq => ?_⟩
  have hzeros : ∀ s : PluginPhase, s.AllHome → s.held = List.replicate s.concurrencyControl.length 0 := by
    intro s hs
    refine List.eq_replicate_iff.mpr ⟨List.length_map _, fun n hn => ?_⟩
    obtain ⟨c, hc, rfl⟩ := List.mem_map.mp hn
    exact hs c hc
  rw [hzeros q hq, hzeros p hp, hlength]

theorem length_release (p : PluginPhase) (rule : Option Nat) :
    (p.release rule).concurrencyControl.length = p.concurrencyControl.length := by
  cases rule with
  | none => rfl
  | some idx => exact List.length_modify _ _ _

/-- **Evaluation**: a rejected command holds no permit; one that goes on holds one iff it was given a rule. -/
structure Evaluated (p : PluginPhase) (out : PluginDecision × Option Nat × PluginPhase) : Prop where
  length : out.2.2.concurrencyControl.length = p.concurrencyControl.length
  decision : out.1 = .proceed ∨ ∃ code message, out.1 = .reject code message ∧ out.2.1 = none
  home : out.2.2.AllHome ↔ out.2.1 = none
  released : (out.2.2.release out.2.1).AllHome

theorem evaluated_evaluate (hp : p.AllHome) (input : String) (now : Nat) : Evaluated p (p.evaluate input now) := by
  have h := asked_isAllow input now 0 p.concurrencyControl hp
  unfold evaluate
  split
  · exact ⟨rfl, .inr ⟨_, _, rfl, rfl⟩, iff_of_true hp rfl, hp⟩
  · dsimp only
    cases hallow : (isAllow input now 0 p.concurrencyControl).1.2 with
    | false =>
      have hhome := h.refused hallow
      rw [if_neg Bool.false_ne_true]
      exact ⟨h.length, .inr ⟨_, _, rfl, rfl⟩, iff_of_true hhome rfl, hhome⟩
    | true =>
      rw [if_pos rfl]
      cases hrule : (isAllow input now 0 p.concurrencyControl).1.1 with
      | none =>
        have hhome := h.free (Prod.ext hrule hallow)
        exact ⟨h.length, .inl rfl, iff_of_true hhome rfl, hhome⟩
      | some k =>
        obtain ⟨_, ⟨c, hc, hone⟩, hback⟩ := h.taken k (Prod.ext hrule hallow)
        refine ⟨h.length, .inl rfl, iff_of_false ?_ nofun, hback⟩
        intro hhome
        have hzero := hhome c hc
        rw [hone] at hzero
        cases hzero

end PluginPhase

end DataNexus.Engine
