/-
  A store of numbered records that is installed again while it is live.

  The store hands out ids `mkId now seq`, keeps its records in memory and, with a file, writes them after each change.
  Installing it again puts the records and the counter of a FRESH store, empty or read from the file, in the place of the
  live ones.  In a run of `Careful` steps

  * `reinstall_keeps` — every unexpired record survives a re-installation as it was;
  * `ids_differ` — no id is handed out twice.

  The counter may fall back; then the clock keeps the ids apart (`floor`, a history variable).
-/
import DataNexus.Lib.Run

namespace DataNexus.Reload

open DataNexus.Run

/-- The store: its operations, and what they are relied on for. -/
structure Keeper (S Op Ans F R : Type) where
  new : S
  exec : S → Op → Ans × S
  get : S → String → Option R
  seq : S → Nat
  /-- The file of a store that was just created. -/
  empty : F
  toFile : S → F
  load : F → S
  /-- The call ends with a write of the file. -/
  saves : Op → Ans → Bool
  /-- The clock reading in the id that the call handed out. -/
  issued : Op → Ans → Option Nat
  mkId : Nat → Nat → String
  expired : Nat → R → Bool
  Inv : S → Prop
  inv_new : Inv new
  inv_exec : ∀ s op, Inv s → Inv (exec s op).2
  inv_load : ∀ f, Inv (load f)
  get_new : ∀ id, get new id = none
  get_empty : ∀ id, get (load empty) id = none
  get_load_toFile : ∀ s, Inv s → ∀ id, get (load (toFile s)) id = get s id
  get_unsaved : ∀ s op, saves op (exec s op).1 = false → ∀ id, get (exec s op).2 id = get s id
  seq_le : ∀ s op, seq s ≤ seq (exec s op).2
  seq_issued : ∀ s op now, issued op (exec s op).1 = some now → seq (exec s op).2 = seq s + 1
  mkId_injective : ∀ now n now' n', mkId now n = mkId now' n' → now = now' ∧ n = n'
  get_exec : ∀ s op, Inv s → ∀ id, get (exec s op).2 id ≠ none → get s id ≠ none ∨
    ∃ now, issued op (exec s op).1 = some now ∧ id = mkId now (seq s)
  lt_seq_load : ∀ f now n, get (load f) (mkId now n) ≠ none → n < seq (load f)

inductive Setup where
  /-- The configuration is refused: installing fails before anything is built. -/
  | refused
  | memory
  | file
deriving DecidableEq

structure Process (S F : Type) where
  store : S
  /-- The live store writes the file. -/
  onFile : Bool
  disk : Option F
  /-- History: clock reading and number of each id handed out. -/
  handedOut : List (Nat × Nat)
  /-- History: where the clock must have got to since the counter fell back. -/
  floor : Nat

inductive Act (Op F : Type) where
  /-- A call; `written` is whether its write of the file succeeded. -/
  | call (op : Op) (written : Bool)
  /-- The store is installed again at `now`; `readable` is whether the file could be read. -/
  | install (now : Nat) (readable : Bool)
  /-- Somebody else replaces or removes the file. -/
  | foreign (disk : Option F)

variable {S Op Ans F R : Type} (k : Keeper S Op Ans F R) (setup : Setup)

/-- Opening the file: the store read from it, and the file afterwards. -/
def openFile (disk : Option F) : S × F :=
  match disk with
  | none => (k.new, k.empty)
  | some f => (k.load f, f)

def start (disk : Option F) : Process S F :=
  match setup with
  | .refused => ⟨k.new, false, disk, [], 0⟩
  | .memory => ⟨k.new, false, disk, [], 0⟩
  | .file => ⟨(openFile k disk).1, true, some (openFile k disk).2, [], 0⟩

/-- A clock reading later than all that were used. -/
def pastAll (handedOut : List (Nat × Nat)) : Nat := handedOut.foldr (fun stamp top => max (stamp.1 + 1) top) 0

/-- The fresh store takes the place of the live one. -/
def replaceStore (p : Process S F) (fresh : S) : Process S F :=
  { p with
    store := fresh
    floor := if k.seq fresh < k.seq p.store then max p.floor (pastAll p.handedOut) else p.floor }

def install (p : Process S F) (readable : Bool) : Process S F :=
  match setup with
  | .refused => p
  | .memory => { replaceStore k p k.new with onFile := false }
  | .file =>
    if readable then
      { replaceStore k p (openFile k p.disk).1 with
        onFile := true, disk := some (openFile k p.disk).2 }
    else p

def step (p : Process S F) : Act Op F → Option Ans × Process S F
  | .call op written =>
    let r := k.exec p.store op
    (some r.1, { p with
      store := r.2
      disk := if p.onFile && k.saves op r.1 && written then some (k.toFile r.2) else p.disk
      handedOut := match k.issued op r.1 with
        | some now => (now, k.seq p.store) :: p.handedOut
        | none => p.handedOut })
  | .install _ readable => (none, install k setup p readable)
  | .foreign disk => (none, { p with disk := disk })

/-- The condition on a step: writes to the file succeed and nobody else touches it; an empty memory store is installed;
    and once the counter has fallen back, ids are handed out at later clock readings. -/
def Careful (p : Process S F) : Act Op F → Prop
  | .call op written =>
    (p.onFile = true → written = true) ∧ ∀ now, k.issued op (k.exec p.store op).1 = some now → p.floor ≤ now
  | .install now _ =>
    setup = .memory → ∀ id r, k.get p.store id = some r → k.expired now r = true
  | .foreign _ => p.onFile = false

/-! ## The invariant -/

structure Kept (p : Process S F) : Prop where
  inv : k.Inv p.store
  onFile : p.onFile = true ↔ setup = .file
  /-- The file brings back what the live store holds. -/
  saved : p.onFile = true → ∃ f, p.disk = some f ∧ ∀ id, k.get (k.load f) id = k.get p.store id
  /-- The number of an id on record is below the counter. -/
  below : ∀ now n, k.get p.store (k.mkId now n) ≠ none → n < k.seq p.store
  /-- An id that was handed out has its number below the counter, or its clock reading below `floor`. -/
  past : ∀ now n, (now, n) ∈ p.handedOut → n < k.seq p.store ∨ now < p.floor

variable {k setup}

theorem openFile_spec (disk : Option F) : k.Inv (openFile k disk).1 ∧
      (∀ id, k.get (k.load (openFile k disk).2) id = k.get (openFile k disk).1 id) ∧
      ∀ now n, k.get (openFile k disk).1 (k.mkId now n) ≠ none → n < k.seq (openFile k disk).1 := by
  cases disk with
  | none =>
    refine ⟨k.inv_new, ?_, ?_⟩
    · intro id
      exact (k.get_empty id).trans (k.get_new id).symm
    · intro now n h
      exact absurd (k.get_new _) h
  | some f => exact ⟨k.inv_load f, fun id => rfl, k.lt_seq_load f⟩

theorem kept_start (disk : Option F) : Kept k setup (start k setup disk) := by
  have hnew : ∀ now n, k.get k.new (k.mkId now n) ≠ none → n < k.seq k.new := fun now n h => absurd (k.get_new _) h
  cases setup with
  | refused => exact ⟨k.inv_new, by simp [start], by simp [start], hnew, by simp [start]⟩
  | memory => exact ⟨k.inv_new, by simp [start], by simp [start], hnew, by simp [start]⟩
  | file =>
    obtain ⟨hinv, hget, hbelow⟩ := openFile_spec (k := k) disk
    exact ⟨hinv, by simp [start], fun _ => ⟨_, rfl, hget⟩, hbelow, by simp [start]⟩

theorem lt_pastAll {handedOut : List (Nat × Nat)} {stamp : Nat × Nat} (h : stamp ∈ handedOut) :
    stamp.1 < pastAll handedOut := by
  induction handedOut with
  | nil => cases h
  | cons first rest ih =>
    show stamp.1 < max (first.1 + 1) (pastAll rest)
    rcases List.mem_cons.mp h with rfl | h
    · omega
    · have := ih h
      omega

variable {p : Process S F} {r : R}

theorem past_replaceStore (h : Kept k setup p) (fresh : S) : ∀ now n, (now, n) ∈ p.handedOut →
      n < k.seq fresh ∨ now < (replaceStore k p fresh).floor := by
  intro now n hmem
  unfold replaceStore
  by_cases hfall : k.seq fresh < k.seq p.store
  · -- the counter falls back: every clock reading used so far is below the new floor
    refine Or.inr ?_
    have hlt := lt_pastAll hmem
    show now < if k.seq fresh < k.seq p.store then max p.floor (pastAll p.handedOut) else p.floor
    rw [if_pos hfall]
    omega
  · rcases h.past now n hmem with hn | hnow
    · exact Or.inl (by omega)
    · refine Or.inr ?_
      show now < if k.seq fresh < k.seq p.store then max p.floor (pastAll p.handedOut) else p.floor
      rw [if_neg hfall]
      exact hnow

theorem kept_install (h : Kept k setup p) (readable : Bool) : Kept k setup (install k setup p readable) := by
  unfold install
  cases setup with
  | refused => exact h
  | memory =>
    refine ⟨k.inv_new, by simp, by simp, ?_, past_replaceStore h k.new⟩
    intro now n hne
    exact absurd (k.get_new _) hne
  | file =>
    cases readable with
    | false => exact h
    | true =>
      obtain ⟨hinv, hget, hbelow⟩ := openFile_spec (k := k) p.disk
      exact ⟨hinv, by simp, fun _ => ⟨_, rfl, hget⟩, hbelow, past_replaceStore h _⟩

theorem kept_call (h : Kept k setup p) (op : Op) (written : Bool) (hok : Careful k setup p (.call op written)) :
    Kept k setup (step k setup p (.call op written)).2 := by
  have hseq := k.seq_le p.store op
  refine ⟨k.inv_exec p.store op h.inv, h.onFile, ?_, ?_, ?_⟩
  · -- either the write publishes the new map, or the map has not changed
    intro hfile
    have hw : written = true := hok.1 hfile
    have hon : p.onFile = true := hfile
    cases hsaves : k.saves op (k.exec p.store op).1 with
    | true =>
      refine ⟨k.toFile (k.exec p.store op).2, ?_, k.get_load_toFile _ (k.inv_exec _ _ h.inv)⟩
      simp [step, hon, hw, hsaves]
    | false =>
      obtain ⟨f, hf, hget⟩ := h.saved hon
      refine ⟨f, ?_, ?_⟩
      · simp [step, hsaves, hf]
      · intro id
        rw [hget id]
        exact (k.get_unsaved p.store op hsaves id).symm
  · intro now n hne
    rcases k.get_exec p.store op h.inv _ hne with hold | ⟨now', hissued, hid⟩
    · exact Nat.lt_of_lt_of_le (h.below now n hold) hseq
    · have hn := (k.mkId_injective _ _ _ _ hid).2
      have hnext := k.seq_issued p.store op now' hissued
      show n < k.seq (k.exec p.store op).2
      omega
  · intro now n hmem
    show n < k.seq (k.exec p.store op).2 ∨ now < p.floor
    have hmem' : (now, n) ∈ (match k.issued op (k.exec p.store op).1 with
        | some now => (now, k.seq p.store) :: p.handedOut
        | none => p.handedOut) := hmem
    cases hissued : k.issued op (k.exec p.store op).1 with
    | none =>
      rw [hissued] at hmem'
      rcases h.past now n hmem' with hn | hnow
      · exact Or.inl (by omega)
      · exact Or.inr hnow
    | some now' =>
      rw [hissued] at hmem'
      have hnext := k.seq_issued p.store op now' hissued
      rcases List.mem_cons.mp hmem' with heq | hmem'
      · cases heq
        exact Or.inl (by omega)
      · rcases h.past now n hmem' with hn | hnow
        · exact Or.inl (by omega)
        · exact Or.inr hnow

/-- **Step lemma.**  A careful step keeps the invariant. -/
theorem kept_step (p : Process S F) (act : Act Op F) (h : Kept k setup p)
    (hok : Careful k setup p act) : Kept k setup (step k setup p act).2 := by
  cases act with
  | call op written => exact kept_call h op written hok
  | install now readable => exact kept_install h readable
  | foreign disk =>
    have hoff : p.onFile = false := hok
    refine ⟨h.inv, h.onFile, ?_, h.below, h.past⟩
    intro hfile
    have hon : p.onFile = true := hfile
    rw [hoff] at hon
    cases hon

/-! ## What a re-installation keeps -/

theorem get_install (h : Kept k setup p) {now : Nat} {readable : Bool}
    (hok : Careful k setup p (Act.install now readable : Act Op F)) {id : String}
    (hget : k.get p.store id = some r) (hlive : k.expired now r = false) :
    k.get (install k setup p readable).store id = some r := by
  unfold install
  cases setup with
  | refused => exact hget
  | memory =>
    -- nothing unexpired was in the store
    have hexp := hok rfl id r hget
    rw [hexp] at hlive
    cases hlive
  | file =>
    cases readable with
    | false => exact hget
    | true =>
      obtain ⟨f, hf, hsame⟩ := h.saved (h.onFile.mpr rfl)
      show k.get (openFile k p.disk).1 id = some r
      rw [hf]
      exact (hsame id).trans hget

theorem fresh_id (h : Kept k setup p) {op : Op} {written : Bool} (hok : Careful k setup p (.call op written))
    {now : Nat} (hissued : k.issued op (k.exec p.store op).1 = some now) :
    k.get p.store (k.mkId now (k.seq p.store)) = none ∧
      ∀ now' n', (now', n') ∈ p.handedOut → k.mkId now' n' ≠ k.mkId now (k.seq p.store) := by
  constructor
  · by_contra hne
    exact absurd (h.below now _ hne) (Nat.lt_irrefl _)
  · intro now' n' hmem heq
    obtain ⟨hnow, hn⟩ := k.mkId_injective _ _ _ _ heq
    have hfloor := hok.2 now hissued
    rcases h.past now' n' hmem with hlt | hlt <;> omega

/-! ## Whole runs -/

variable (k setup)

/-- The step handed out `id`. -/
def HandsOut (id : String) (e : Entry (Process S F) (Act Op F) (Option Ans)) : Prop :=
  ∃ op written now, e.act = .call op written ∧
    k.issued op (k.exec e.pre.store op).1 = some now ∧ id = k.mkId now (k.seq e.pre.store)

variable {k setup}

/-- **Re-installation.**  In a run of careful steps, every re-installation keeps every unexpired record. -/
theorem reinstall_keeps {disk : Option F} {acts : List (Act Op F)}
    (hok : Meets (step k setup) (Careful k setup) (start k setup disk) acts)
    {e : Entry (Process S F) (Act Op F) (Option Ans)}
    (he : e ∈ entries (step k setup) (start k setup disk) acts) {now : Nat} {readable : Bool}
    (hact : e.act = .install now readable) {id : String} (hget : k.get e.pre.store id = some r)
    (hlive : k.expired now r = false) : k.get e.post.store id = some r := by
  have hkept := (inv_of_mem_entries (Kept k setup) kept_step (kept_start disk) hok he).1
  have hcareful := hok e he
  rw [(entry_eq he).2]
  rw [hact] at hcareful ⊢
  exact get_install hkept hcareful hget hlive

theorem handedOut_step {now n : Nat} (p : Process S F) (act : Act Op F)
    (h : (now, n) ∈ p.handedOut) : (now, n) ∈ (step k setup p act).2.handedOut := by
  cases act with
  | call op written =>
    show (now, n) ∈ (match k.issued op (k.exec p.store op).1 with
        | some now => (now, k.seq p.store) :: p.handedOut
        | none => p.handedOut)
    split
    · exact List.mem_cons_of_mem _ h
    · exact h
  | install now' readable =>
    show (now, n) ∈ (install k setup p readable).handedOut
    unfold install
    cases setup with
    | refused => exact h
    | memory => exact h
    | file =>
      cases readable with
      | false => exact h
      | true => exact h
  | foreign disk => exact h

/-- **Ids.**  In a run of careful steps no id is handed out twice. -/
theorem ids_differ {disk : Option F} {acts : List (Act Op F)}
    (hok : Meets (step k setup) (Careful k setup) (start k setup disk) acts) :
    (entries (step k setup) (start k setup disk) acts).Pairwise
      (fun e e' => ∀ id id', HandsOut k id e → HandsOut k id' e' → id ≠ id') := by
  have hpast : ∀ now n, (entries (step k setup) (start k setup disk) acts).Pairwise
      (fun e e' => (∃ op written, e.act = .call op written ∧
        k.issued op (k.exec e.pre.store op).1 = some now ∧ k.seq e.pre.store = n) →
        (now, n) ∈ e'.pre.handedOut) := by
    intro now n
    refine pairwise_of_stable (fun _ => True) _ (fun p : Process S F => (now, n) ∈ p.handedOut)
      ?_ ?_ ?_ trivial
    · intro p act _
      trivial
    · rintro p act _ ⟨op, written, hact, hissued, hn⟩
      simp only at hact hissued hn
      subst hact
      show (now, n) ∈ (match k.issued op (k.exec p.store op).1 with
          | some now => (now, k.seq p.store) :: p.handedOut
          | none => p.handedOut)
      rw [hissued, ← hn]
      exact List.mem_cons_self
    · intro p act _ h
      exact handedOut_step p act h
  refine List.pairwise_iff_getElem.mpr ?_
  intro i j hi hj hij id id' hout hout' heq
  obtain ⟨op, written, now, hact, hissued, rfl⟩ := hout
  obtain ⟨op', written', now', hact', hissued', rfl⟩ := hout'
  have hmem := List.pairwise_iff_getElem.mp (hpast now _) i j hi hj hij
    ⟨op, written, hact, hissued, rfl⟩
  have he' := List.getElem_mem hj
  have hkept := (inv_of_mem_entries (Kept k setup) kept_step (kept_start disk) hok he').1
  have hcareful := hok _ he'
  rw [hact'] at hcareful
  exact (fresh_id hkept hcareful hissued').2 now _ hmem heq

end DataNexus.Reload
