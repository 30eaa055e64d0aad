/-
  The merged rows of the shards (`MergeStream` of `protocol/mysql/src/client/codec.rs`, in the state `Row`).

  A turn of the loop of `poll_next` polls one inner stream.  The loop is left when a round ends with `none_count` at the
  number of streams, or `limit_idx` reaches the limit.  Both tests are equalities, and the first does not reset
  `limit_idx`, so a round that meets both takes it past the limit for ever.

  * `going_run` — nothing is lost, doubled or moved, and the end is told only when every stream has ended;
  * `merge_complete` — without such a round it is told after a bounded number of turns.

  An inner stream is what it still yields; in `buf` an item stands with the number of its stream (not in the source).
-/
import Mathlib.Logic.Function.Basic
import Mathlib.Tactic.SplitIfs

namespace DataNexus.Merge

/-! ## The stream -/

structure MergeStream (α : Type) where
  inner : Nat → List α
  idx : Nat
  buf : List (Nat × α)
  limitIdx : Nat
  noneCount : Nat

variable {α : Type}

/-- `MergeStream::new` of streams that are at their rows. -/
def start (inner : Nat → List α) : MergeStream α := ⟨inner, 0, [], 0, 0⟩

/-- `s.poll_next(cx)`, ready, and what is done with the item. -/
def MergeStream.pollInner (me : MergeStream α) : MergeStream α :=
  match me.inner me.idx with
  | data :: rest =>
    { inner := Function.update me.inner me.idx rest
      idx := me.idx + 1
      buf := me.buf ++ [(me.idx, data)]
      limitIdx := me.limitIdx + 1
      noneCount := me.noneCount }
  | [] => { me with
            idx := me.idx + 1
            limitIdx := me.limitIdx + 1
            noneCount := me.noneCount + 1 }

/-- What a turn leads to: the next one (`none`), or the answer of `poll_next`. -/
abbrev Turn (α : Type) : Type := Option (Option (List (Nat × α))) × MergeStream α

def MergeStream.leave (me : MergeStream α) : Turn α :=
  (some (if me.buf.isEmpty then none else some me.buf), { me with buf := [] })

def MergeStream.testLimit (baseLength : Nat) (me : MergeStream α) : Turn α :=
  if me.limitIdx = baseLength * 100 then { me with limitIdx := 0, noneCount := 0 }.leave else (none, me)

def MergeStream.turn (baseLength : Nat) (me : MergeStream α) : Turn α :=
  let me := me.pollInner
  if me.idx = baseLength then
    let me := { me with idx := 0 }
    if me.noneCount = baseLength then { me with noneCount := 0 }.leave else me.testLimit baseLength
  else me.testLimit baseLength

structure Seen (α : Type) where
  delivered : List (Nat × α)
  ended : Bool
  stream : MergeStream α

/-- `while let Some(chunk) = stream.next().await`, by whether the polled stream is ready in each turn. -/
def run (baseLength : Nat) : List Bool → List (Nat × α) → MergeStream α → Seen α
  | [], delivered, me => ⟨delivered, false, me⟩
  | false :: acts, delivered, me => run baseLength acts delivered me
  | true :: acts, delivered, me =>
    match me.turn baseLength with
    | (none, me) => run baseLength acts delivered me
    | (some (some chunk), me) => run baseLength acts (delivered ++ chunk) me
    | (some none, me) => ⟨delivered, true, me⟩

/-- This turn ends a round with `none_count` at the number of streams and `limit_idx` at the limit. -/
def MergeStream.Overruns (baseLength : Nat) (me : MergeStream α) : Prop :=
  me.idx + 1 = baseLength ∧ me.noneCount + (if me.inner me.idx = [] then 1 else 0) = baseLength ∧
    me.limitIdx + 1 = baseLength * 100

def InBounds (baseLength : Nat) : List Bool → MergeStream α → Prop
  | [], _ => True
  | false :: acts, me => InBounds baseLength acts me
  | true :: acts, me => ¬ me.Overruns baseLength ∧
    ((me.turn baseLength).1 ≠ some none → InBounds baseLength acts (me.turn baseLength).2)

def ofStream (i : Nat) (items : List (Nat × α)) : List α := (items.filter (·.1 = i)).map (·.2)

/-! ## One turn -/

/-- What holds between the turns; `all` are the streams at the start, `out` what was delivered. -/
structure Going (n : Nat) (all : Nat → List α) (out : List (Nat × α)) (me : MergeStream α) : Prop where
  idx : me.idx < n
  aligned : me.limitIdx % n = me.idx
  kept : ∀ i, ofStream i (out ++ me.buf) ++ me.inner i = all i
  empty : me.buf = [] → me.noneCount = me.idx ∧ ∀ j < me.idx, me.inner j = []

/-- What the first `k` streams still yield. -/
def left (inner : Nat → List α) : Nat → Nat
  | 0 => 0
  | k + 1 => left inner k + (inner k).length

theorem left_update {inner : Nat → List α} {i : Nat} {x : α} {rest : List α} (h : inner i = x :: rest) (k : Nat) :
    left (Function.update inner i rest) k + (if i < k then 1 else 0) = left inner k := by
  induction k with
  | zero => rfl
  | succ k ih =>
    simp only [left]
    by_cases hi : i = k
    · subst hi
      simp only [Function.update_self, h, List.length_cons]
      grind
    · rw [Function.update_of_ne (Ne.symm hi)]
      grind

def work (n : Nat) (me : MergeStream α) : Nat :=
  (left me.inner n + me.buf.length) * (n * 100) + (n * 100 - me.limitIdx)

variable {n : Nat} {all : Nat → List α} {out : List (Nat × α)} {me : MergeStream α}

/-- What a poll does to the invariant, and that it only moves an item. -/
theorem pollInner_spec (h : Going n all out me) : me.pollInner.idx = me.idx + 1 ∧
    me.pollInner.limitIdx = me.limitIdx + 1 ∧
    me.pollInner.noneCount = me.noneCount + (if me.inner me.idx = [] then 1 else 0) ∧
    (∀ i, ofStream i (out ++ me.pollInner.buf) ++ me.pollInner.inner i = all i) ∧
    (me.pollInner.buf = [] → me.pollInner.noneCount = me.idx + 1 ∧ ∀ j < me.idx + 1, me.pollInner.inner j = []) ∧
    left me.pollInner.inner n + me.pollInner.buf.length = left me.inner n + me.buf.length := by
  unfold MergeStream.pollInner
  cases hi : me.inner me.idx with
  | nil =>
    refine ⟨rfl, rfl, rfl, h.kept, ?_, rfl⟩
    intro hb
    obtain ⟨hcount, hended⟩ := h.empty hb
    exact ⟨congrArg (· + 1) hcount, fun j hj => (Nat.lt_succ_iff_lt_or_eq.mp hj).elim (hended j) (· ▸ hi)⟩
  | cons x rest =>
    refine ⟨rfl, rfl, rfl, ?_, fun hb => absurd hb (by simp), ?_⟩
    · intro i
      have hk := h.kept i
      by_cases hij : i = me.idx
      · subst hij
        simpa [ofStream, hi] using hk
      · simpa [ofStream, Ne.symm hij, Function.update_of_ne hij] using hk
    · have hleft := left_update hi n
      rw [if_pos h.idx] at hleft
      simp only [List.length_append, List.length_singleton]
      omega

/-- What the answer of a turn hands to the consumer. -/
def chunkOf (answer : Option (Option (List (Nat × α)))) : List (Nat × α) := answer.join.getD []

/-- Leaving the loop at the end of a round hands over the buffer; with an empty one the end is told. -/
theorem leave_spec {p : MergeStream α} (hn : 0 < n) (hidx : p.idx = 0) (haligned : p.limitIdx % n = 0)
    (hcount : p.noneCount = 0) (hkept : ∀ i, ofStream i (out ++ p.buf) ++ p.inner i = all i) :
    Going n all (out ++ chunkOf p.leave.1) p.leave.2 ∧ (p.leave.1 = some none ↔ p.buf = []) := by
  have hchunk : chunkOf p.leave.1 = p.buf := by
    cases hb : p.buf <;> simp [chunkOf, MergeStream.leave, hb]
  refine ⟨⟨hidx ▸ hn, haligned.trans hidx.symm, ?_, ?_⟩, ?_⟩
  · rw [hchunk]
    simpa [MergeStream.leave] using hkept
  · intro _
    refine ⟨hcount.trans hidx.symm, fun j hj => ?_⟩
    exact absurd (hidx ▸ hj : j < 0) (Nat.not_lt_zero j)
  · cases hb : p.buf <;> simp [MergeStream.leave, hb]

/-- **Step lemma.**  A turn keeps this, tells the end when all is delivered, and in bounds comes nearer to it. -/
theorem going_turn (h : Going n all out me) : Going n all (out ++ chunkOf (me.turn n).1) (me.turn n).2 ∧
    ((me.turn n).1 = some none → ∀ i < n, ofStream i out = all i) ∧
    (¬ me.Overruns n → me.limitIdx < n * 100 → (me.turn n).1 ≠ some none →
      (me.turn n).2.limitIdx < n * 100 ∧ work n (me.turn n).2 < work n me) := by
  obtain ⟨hidx, hlimit, hcount, hkept, hempty, hleft⟩ := pollInner_spec h
  have hn : 0 < n := Nat.zero_lt_of_lt h.idx
  have hmod : (me.limitIdx + 1) % n = (me.idx + 1) % n := by
    rw [Nat.add_mod, h.aligned, ← Nat.add_mod_mod]
    simp
  unfold MergeStream.turn MergeStream.Overruns
  rw [← hcount]
  generalize me.pollInner = p at *
  simp only [hidx, MergeStream.testLimit]
  split_ifs with hround hnone hfull hfull
  · -- the round found nothing
    have haligned : p.limitIdx % n = 0 := by rw [hlimit, hmod, hround, Nat.mod_self]
    have hspec := leave_spec (p := { p with idx := 0, noneCount := 0 }) hn rfl haligned rfl hkept
    refine ⟨hspec.1, ?_, ?_⟩
    · intro hend i hi
      have hb : p.buf = [] := hspec.2.mp hend
      have hk := hkept i
      rwa [hb, (hempty hb).2 i (by omega), List.append_nil, List.append_nil] at hk
    · intro hover hlt _
      have hne : p.limitIdx ≠ n * 100 := fun heq => hover ⟨hround, hnone, hlimit ▸ heq⟩
      refine ⟨by simp only [MergeStream.leave]; omega, ?_⟩
      have hmul := Nat.mul_le_mul_right (n * 100) (show left p.inner n ≤ left me.inner n + me.buf.length by omega)
      simp only [work, MergeStream.leave, List.length_nil, Nat.add_zero]
      omega
  · -- the limit, at the end of a round that found something
    have hbuf : p.buf ≠ [] := fun hb => hnone ((hempty hb).1.trans hround)
    have hspec := leave_spec (p := { p with idx := 0, limitIdx := 0, noneCount := 0 }) hn rfl (Nat.zero_mod n) rfl hkept
    refine ⟨hspec.1, fun hend => absurd (hspec.2.mp hend) hbuf, ?_⟩
    intro _ hlt _
    refine ⟨by simp only [MergeStream.leave]; omega, ?_⟩
    have hpos := List.length_pos_iff.mpr hbuf
    have hmul := Nat.mul_le_mul_right (n * 100) (show left p.inner n + 1 ≤ left me.inner n + me.buf.length by omega)
    rw [Nat.add_mul] at hmul
    simp only [work, MergeStream.leave, List.length_nil, Nat.add_zero]
    omega
  · -- the next round
    have hbuf : p.buf ≠ [] := fun hb => hnone ((hempty hb).1.trans hround)
    refine ⟨⟨hn, ?_, by simpa [chunkOf] using hkept, fun hb => absurd hb hbuf⟩, (by rintro ⟨⟩), ?_⟩
    · rw [hlimit, hmod, hround, Nat.mod_self]
    · intro _ hlt _
      simp only [work, hleft]
      omega
  · -- the limit is a multiple of the number of streams
    have hzero : (me.limitIdx + 1) % n = 0 := by rw [← hlimit, hfull, Nat.mul_mod_right]
    rw [hmod, Nat.mod_eq_of_lt (by have := h.idx; omega)] at hzero
    omega
  · -- the next stream
    have hlt := h.idx
    refine ⟨⟨by simp only [hidx]; omega, ?_, by simpa [chunkOf] using hkept, hidx ▸ hempty⟩, (by rintro ⟨⟩), ?_⟩
    · rw [hlimit, hmod, Nat.mod_eq_of_lt (by omega), hidx]
    · intro _ hlt _
      simp only [work, hleft]
      omega

/-- Each stream is handed on in its order, nothing of it twice or lost, and the end is told when all of it was. -/
def Faithful (n : Nat) (all : Nat → List α) (seen : Seen α) : Prop :=
  (∀ i, ofStream i (seen.delivered ++ seen.stream.buf) ++ seen.stream.inner i = all i) ∧
    (seen.ended = true → ∀ i < n, ofStream i seen.delivered = all i)

/-- **Run lemma.** -/
theorem going_run (acts : List Bool) : ∀ {out : List (Nat × α)} {me : MergeStream α}, Going n all out me →
    Faithful n all (run n acts out me) ∧
    (InBounds n acts me → me.limitIdx < n * 100 → work n me ≤ acts.count true → (run n acts out me).ended = true) := by
  induction acts with
  | nil =>
    intro out me h
    refine ⟨⟨h.kept, (by rintro ⟨⟩)⟩, ?_⟩
    intro _ hlt hwork
    simp only [work, List.count_nil] at hwork
    omega
  | cons act acts ih =>
    intro out me h
    cases act with
    | false => simpa [run, InBounds] using ih h
    | true =>
      obtain ⟨hgoing, hend, hnear⟩ := going_turn h
      rw [List.count_cons_self]
      unfold run InBounds
      rcases hturn : me.turn n with ⟨_ | _ | chunk, next⟩ <;> rw [hturn] at hgoing hend hnear
      · have hrest := ih (by simpa [chunkOf] using hgoing)
        refine ⟨hrest.1, fun hin hlt hwork => ?_⟩
        obtain ⟨hlt', hless⟩ := hnear hin.1 hlt (by rintro ⟨⟩)
        exact hrest.2 (hin.2 (by rintro ⟨⟩)) hlt' (Nat.le_of_lt_succ (Nat.lt_of_lt_of_le hless hwork))
      · refine ⟨⟨?_, fun _ => hend rfl⟩, fun _ _ _ => rfl⟩
        simpa [chunkOf] using hgoing.kept
      · have hrest := ih hgoing
        refine ⟨hrest.1, fun hin hlt hwork => ?_⟩
        obtain ⟨hlt', hless⟩ := hnear hin.1 hlt (by simp)
        exact hrest.2 (hin.2 (by simp)) hlt' (Nat.le_of_lt_succ (Nat.lt_of_lt_of_le hless hwork))

theorem going_start (hn : 0 < n) (inner : Nat → List α) : Going n inner [] (start inner) where
  idx := hn
  aligned := Nat.zero_mod n
  kept := fun _ => rfl
  empty := fun _ => ⟨rfl, fun _ hj => absurd hj (Nat.not_lt_zero _)⟩

/-- **The merge loses nothing**, whatever the turns; and a run in which no round meets both tests tells the end within
    `100 n` turns for each item, and `100 n` more. -/
theorem merge_complete (others : Nat) (inner : Nat → List α) (acts : List Bool) :
    Faithful (others + 1) inner (run (others + 1) acts [] (start inner)) ∧
    (InBounds (others + 1) acts (start inner) →
      (left inner (others + 1) + 1) * ((others + 1) * 100) ≤ acts.count true →
      (run (others + 1) acts [] (start inner)).ended = true) := by
  obtain ⟨hfaithful, hended⟩ := going_run acts (going_start (Nat.succ_pos others) inner)
  refine ⟨hfaithful, fun hin hcount => hended hin (by simp only [start]; omega) ?_⟩
  simpa [work, start, Nat.add_mul] using hcount

/-! ## Past the limit -/

theorem run_append (acts acts' : List Bool) (out : List (Nat × α)) (me : MergeStream α)
    (h : (run n acts out me).ended = false) :
    run n (acts ++ acts') out me = run n acts' (run n acts out me).delivered (run n acts out me).stream := by
  induction acts generalizing out me with
  | nil => rfl
  | cons act acts ih =>
    cases act with
    | false => exact ih out me h
    | true =>
      rw [List.cons_append]
      simp only [run] at h ⊢
      split <;> rename_i hturn <;> simp only [hturn] at h
      · exact ih _ _ h
      · exact ih _ _ h
      · cases h

/-- Every stream has ended, and both counters are past what they are compared with. -/
def Stuck (n : Nat) (me : MergeStream α) : Prop :=
  (∀ i, me.inner i = []) ∧ n < me.noneCount ∧ n * 100 < me.limitIdx

theorem never_ends (acts : List Bool) : ∀ {me : MergeStream α}, Stuck n me → (run n acts out me).ended = false := by
  induction acts with
  | nil => exact fun _ => rfl
  | cons act acts ih =>
    intro me h
    cases act with
    | false => exact ih h
    | true =>
      obtain ⟨hinner, hnone, hlimit⟩ := h
      have hturn : ∃ i, me.turn n = (none, { me with
          idx := i
          limitIdx := me.limitIdx + 1
          noneCount := me.noneCount + 1 }) := by
        simp only [MergeStream.turn, MergeStream.pollInner, hinner, MergeStream.testLimit]
        split_ifs <;> first | omega | exact ⟨_, rfl⟩
      obtain ⟨i, hi⟩ := hturn
      unfold run
      rw [hi]
      exact ih ⟨hinner, Nat.lt_succ_of_lt hnone, Nat.lt_succ_of_lt hlimit⟩

/-- Two streams, the first without a row and the second with 101. -/
def oneSided (i : Nat) : List Nat := if i = 1 then List.replicate 101 7 else []

theorem stuck_oneSided : (run 2 (List.replicate 204 true) [] (start oneSided)).ended = false ∧
    Stuck 2 (run 2 (List.replicate 204 true) [] (start oneSided)).stream := by
  have hseen : (run 2 (List.replicate 204 true) [] (start oneSided)).ended = false ∧
      (run 2 (List.replicate 204 true) [] (start oneSided)).stream.noneCount = 3 ∧
      (run 2 (List.replicate 204 true) [] (start oneSided)).stream.limitIdx = 204 ∧
      (run 2 (List.replicate 204 true) [] (start oneSided)).stream.inner 1 = [] := by
    decide +kernel
  have hkept := (going_run (List.replicate 204 true) (going_start (Nat.succ_pos 1) oneSided)).1.1
  generalize run 2 (List.replicate 204 true) [] (start oneSided) = seen at hseen hkept ⊢
  obtain ⟨hended, hnone, hlimit, hinner⟩ := hseen
  refine ⟨hended, fun i => ?_, by rw [hnone]; decide, by rw [hlimit]; decide⟩
  by_cases hi : i = 1
  · rw [hi]
    exact hinner
  · exact (List.append_eq_nil_iff.mp ((hkept i).trans (if_neg hi))).2

theorem last_row_stuck : ¬ ∀ (others : Nat) (inner : Nat → List Nat), ∃ turns, ∀ acts : List Bool,
    turns ≤ acts.count true → (run (others + 1) acts [] (start inner)).ended = true := by
  intro h
  obtain ⟨turns, hturns⟩ := h 1 oneSided
  have hcount : (List.replicate turns true).count true = turns := List.count_replicate_self
  have hended := hturns (List.replicate 204 true ++ List.replicate turns true) (by rw [List.count_append, hcount]; omega)
  rw [run_append _ _ _ _ stuck_oneSided.1, never_ends _ stuck_oneSided.2] at hended
  cases hended

end DataNexus.Merge
