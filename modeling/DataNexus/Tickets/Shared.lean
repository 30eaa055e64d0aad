/-
  Several ticket stores on one file: a store reads it once, and each of its writes replaces the whole file by its own view.

  * `last_writer_wins` — a store is true to itself: it spends a ticket at most `max_uses` times, a ticket it holds stays
    until it prunes it, and its write publishes exactly what it holds;
  * `shared_ticket_spent_twice` — across stores neither holds.

  A call and its `persist` are separate steps: the lock on the map is released in between.  The calls of one store, taken
  out of the run, are a run of the store alone (`count_own`).
-/
import DataNexus.Tickets.File

namespace DataNexus.Tickets

open DataNexus.Text DataNexus.Run DataNexus.State

/-! ## Stores on one file -/

structure Shared where
  stores : Nat → Option TicketStore
  /-- Calls that have changed the map and are on their way to `persist`. -/
  unsaved : Nat → Nat
  file : Option TicketFile

def Shared.new : Shared := ⟨fun _ => none, fun _ => 0, none⟩

inductive SharedAct where
  /-- `with_file`: the store reads the file, or creates it. -/
  | withFile (i : Nat)
  /-- A call, up to the release of the lock on the map. -/
  | call (i : Nat) (op : Op)
  /-- The `persist` at the end of a call; whether the write succeeded is not looked at. -/
  | persist (i : Nat) (written : Bool)

/-- Store `i` is now `store`. -/
def setStore (stores : Nat → Option TicketStore) (i : Nat) (store : TicketStore) : Nat → Option TicketStore :=
  fun j => if j = i then some store else stores j

def sharedStep (s : Shared) : SharedAct → Option Answer × Shared
  | .withFile i =>
    match s.stores i with
    | some _ => (none, s)
    | none =>
      let r := TicketStore.withFile s.file
      (none, { s with stores := setStore s.stores i r.1, file := some r.2 })
  | .call i op =>
    match s.stores i with
    | none => (none, s)
    | some store =>
      let r := exec store op
      (some r.1, { s with
        stores := setStore s.stores i r.2
        unsaved := fun j => if j = i ∧ persists op r.1 then s.unsaved j + 1 else s.unsaved j })
  | .persist i written =>
    match s.stores i with
    | none => (none, s)
    | some store =>
      if s.unsaved i = 0 then (none, s)
      else (none, { s with
        unsaved := fun j => if j = i then s.unsaved j - 1 else s.unsaved j
        file := if written then some store.toFile else s.file })

abbrev SharedEntry := Entry Shared SharedAct (Option Answer)

/-- The call of store `i` that the step carried out, and its answer. -/
def callOf (i : Nat) (e : SharedEntry) : Option (Op × Answer) :=
  match e.act, e.out with
  | .call j op, some answer => if j = i then some (op, answer) else none
  | _, _ => none

/-- The step spent a use of ticket `id` in store `i`. -/
def spendsIn (i : Nat) (id : String) (e : SharedEntry) : Bool :=
  ((callOf i e).map fun c => consumed id c.1 c.2).getD false

/-- The step spent a use of ticket `id`, in whichever store. -/
def spendsAnywhere (id : String) (e : SharedEntry) : Bool :=
  match e.act with
  | .call i _ => spendsIn i id e
  | _ => false

/-- Store `i` issued `t` in this step. -/
def IssuesIn (i : Nat) (t : Ticket) (e : SharedEntry) : Prop := ∃ op, callOf i e = some (op, .issued t)

/-- Store `i` read `t` from the file when it was opened. -/
def ReadsIn (i : Nat) (t : Ticket) (e : SharedEntry) : Prop :=
  e.act = .withFile i ∧ e.pre.stores i = none ∧ ∃ store, e.post.stores i = some store ∧ store.get t.id = some t

@[simp] theorem setStore_self (stores : Nat → Option TicketStore) (i : Nat) (store : TicketStore) :
    setStore stores i store i = some store := if_pos rfl

variable {i : Nat} {s : Shared} {e : SharedEntry} {t : Ticket}

theorem setStore_other {stores : Nat → Option TicketStore} {j : Nat} {store : TicketStore} (h : j ≠ i) :
    setStore stores i store j = stores j := if_neg h

/-! ## Sound stores, sound file -/

structure SoundShared (s : Shared) : Prop where
  stores : ∀ i store, s.stores i = some store → Sound store
  file : ∀ file, s.file = some file → SoundFile file

theorem soundShared_new : SoundShared Shared.new := by
  refine ⟨?_, ?_⟩
  · intro i store h
    cases h
  · intro file h
    cases h

theorem sound_setStore {stores : Nat → Option TicketStore} {store : TicketStore}
    (hstores : ∀ j store, stores j = some store → Sound store) (hs : Sound store) :
    ∀ j store', setStore stores i store j = some store' → Sound store' := by
  intro j store' h
  by_cases hj : j = i
  · subst hj
    rw [setStore_self] at h
    cases h
    exact hs
  · rw [setStore_other hj] at h
    exact hstores j store' h

theorem sound_withFile {file : Option TicketFile} (hf : ∀ f, file = some f → SoundFile f) :
    Sound (TicketStore.withFile file).1 ∧ SoundFile (TicketStore.withFile file).2 := by
  cases file with
  | none => exact ⟨sound_new, soundFile_empty⟩
  | some f => exact ⟨sound_load (hf f rfl), hf f rfl⟩

/-- **Step lemma.**  Every step keeps stores and file sound. -/
theorem soundShared_step (s : Shared) (act : SharedAct) (h : SoundShared s) : SoundShared (sharedStep s act).2 := by
  cases act with
  | withFile i =>
    simp only [sharedStep]
    split
    · exact h
    · obtain ⟨hstore, hfile⟩ := sound_withFile h.file
      refine ⟨sound_setStore h.stores hstore, ?_⟩
      intro f hf
      cases hf
      exact hfile
  | call i op =>
    simp only [sharedStep]
    split
    · exact h
    · rename_i store hstore
      exact ⟨sound_setStore h.stores (sound_exec store op (h.stores i store hstore)), h.file⟩
  | persist i written =>
    simp only [sharedStep]
    split
    · exact h
    · rename_i store hstore
      split
      · exact h
      · refine ⟨h.stores, ?_⟩
        intro f hf
        cases written with
        | false => exact h.file f hf
        | true =>
          cases hf
          exact soundFile_toFile (h.stores i store hstore)

/-! ## One store inside the run -/

/-- The calls of store `i`, in order. -/
def ownCalls (i : Nat) : List SharedAct → List Op
  | [] => []
  | .call j op :: acts => if j = i then op :: ownCalls i acts else ownCalls i acts
  | _ :: acts => ownCalls i acts

theorem stores_step_other {store : TicketStore} (hopen : s.stores i = some store) {act : SharedAct}
    (hother : ∀ op, act ≠ .call i op) : (sharedStep s act).2.stores i = some store := by
  cases act with
  | withFile j =>
    simp only [sharedStep]
    split
    · exact hopen
    · rename_i hclosed
      have hj : i ≠ j := by
        rintro rfl
        rw [hopen] at hclosed
        cases hclosed
      show setStore _ _ _ i = some store
      rw [setStore_other hj]
      exact hopen
  | call j op =>
    have hj : i ≠ j := by
      rintro rfl
      exact hother op rfl
    simp only [sharedStep]
    split
    · exact hopen
    · show setStore _ _ _ i = some store
      rw [setStore_other hj]
      exact hopen
  | persist j written =>
    simp only [sharedStep]
    split
    · exact hopen
    · split <;> exact hopen

theorem stores_step_call {store : TicketStore} (hopen : s.stores i = some store) (op : Op) :
    (sharedStep s (.call i op)).1 = some (exec store op).1 ∧
      (sharedStep s (.call i op)).2.stores i = some (exec store op).2 := by
  simp only [sharedStep, hopen]
  exact ⟨trivial, setStore_self _ _ _⟩

theorem callOf_other (hother : ∀ op, e.act ≠ .call i op) : callOf i e = none := by
  unfold callOf
  split
  · rename_i j op answer hact hout
    rw [if_neg]
    rintro rfl
    exact hother op hact
  · rfl

theorem ownCalls_other {act : SharedAct} (hother : ∀ op, act ≠ .call i op) (acts : List SharedAct) :
    ownCalls i (act :: acts) = ownCalls i acts := by
  cases act with
  | withFile j => rfl
  | call j op =>
    rw [ownCalls, if_neg]
    rintro rfl
    exact hother op rfl
  | persist j written => rfl

/-- **Projection.**  From the moment store `i` is open, its calls and their answers in the shared run are those
    of the run of its own calls. -/
theorem callOf_entries (i : Nat) (acts : List SharedAct) :
    ∀ {s : Shared} {store : TicketStore}, s.stores i = some store → (entries sharedStep s acts).filterMap (callOf i) =
      (entries exec store (ownCalls i acts)).map fun e => (e.act, e.out) := by
  induction acts with
  | nil => intro s store hopen; rfl
  | cons act acts ih =>
    intro s store hopen
    rw [entries, List.filterMap_cons]
    by_cases hown : ∃ op, act = .call i op
    · obtain ⟨op, rfl⟩ := hown
      obtain ⟨hout, hpost⟩ := stores_step_call hopen op
      simp only [callOf, hout, if_true, ownCalls, entries, List.map_cons]
      rw [ih hpost]
    · have hother : ∀ op, act ≠ .call i op := fun op h => hown ⟨op, h⟩
      rw [callOf_other hother, ownCalls_other hother, ih (stores_step_other hopen hother)]

theorem count_own (i : Nat) (id : String) (acts : List SharedAct) {store : TicketStore}
    (hopen : s.stores i = some store) : (entries sharedStep s acts).countP (spendsIn i id) =
      (entries exec store (ownCalls i acts)).countP (spends id) := by
  have hfilter := congrArg (List.countP fun c : Op × Answer => consumed id c.1 c.2)
    (callOf_entries i acts hopen)
  rw [List.countP_filterMap, List.countP_map] at hfilter
  exact hfilter

theorem issues_own (i : Nat) (t : Ticket) (acts : List SharedAct) {store : TicketStore}
    (hopen : s.stores i = some store) : (∃ e ∈ entries sharedStep s acts, IssuesIn i t e) ↔
      ∃ e ∈ entries exec store (ownCalls i acts), Issues t e := by
  have hleft : (∃ e ∈ entries sharedStep s acts, IssuesIn i t e) ↔
      ∃ op, (op, Answer.issued t) ∈ (entries sharedStep s acts).filterMap (callOf i) := by
    simp only [List.mem_filterMap]
    constructor
    · rintro ⟨e, he, op, hc⟩
      exact ⟨op, e, he, hc⟩
    · rintro ⟨op, e, he, hc⟩
      exact ⟨e, he, op, hc⟩
  have hright : (∃ e ∈ entries exec store (ownCalls i acts), Issues t e) ↔
      ∃ op, (op, Answer.issued t) ∈
        (entries exec store (ownCalls i acts)).map fun e => (e.act, e.out) := by
    simp only [List.mem_map, Prod.mk.injEq]
    constructor
    · rintro ⟨e, he, hissue⟩
      exact ⟨e.act, e, he, rfl, hissue⟩
    · rintro ⟨op, e, he, _, hissue⟩
      exact ⟨e, he, hissue⟩
  rw [hleft, hright, callOf_entries i acts hopen]

theorem callOf_closed (hclosed : s.stores i = none) (act : SharedAct) :
    callOf i ⟨s, act, (sharedStep s act).1, (sharedStep s act).2⟩ = none := by
  unfold callOf
  split
  · rename_i j op answer hact hout
    simp only at hact hout
    subst hact
    rw [if_neg]
    rintro rfl
    simp only [sharedStep, hclosed] at hout
    cases hout
  · rfl

/-! ## Budgets -/

/-- Store `i` came by the ticket `t`: it issued it, or read it when it was opened. -/
def Gets (i : Nat) (t : Ticket) (e : SharedEntry) : Prop := IssuesIn i t e ∨ ReadsIn i t e

theorem stores_step_closed (hclosed : s.stores i = none) {act : SharedAct} (hother : act ≠ .withFile i) :
    (sharedStep s act).2.stores i = none := by
  cases act with
  | withFile j =>
    have hj : i ≠ j := by
      rintro rfl
      exact hother rfl
    simp only [sharedStep]
    split
    · exact hclosed
    · show setStore _ _ _ i = none
      rw [setStore_other hj]
      exact hclosed
  | call j op =>
    simp only [sharedStep]
    split
    · exact hclosed
    · rename_i store hstore
      have hj : i ≠ j := by
        rintro rfl
        rw [hclosed] at hstore
        cases hstore
      show setStore _ _ _ i = none
      rw [setStore_other hj]
      exact hclosed
  | persist j written =>
    simp only [sharedStep]
    split
    · exact hclosed
    · split <;> exact hclosed

theorem stores_step_open (hclosed : s.stores i = none) :
    (sharedStep s (.withFile i)).2.stores i = some (TicketStore.withFile s.file).1 := by
  simp only [sharedStep, hclosed]
  exact setStore_self _ _ _

theorem open_budget {store : TicketStore} (hopen : s.stores i = some store) (hs : Sound store)
    (acts : List SharedAct) (hgets : store.get t.id = some t ∨ ∃ e ∈ entries sharedStep s acts, IssuesIn i t e) :
    (entries sharedStep s acts).countP (spendsIn i t.id) ≤ t.maxUses := by
  rw [count_own i t.id acts hopen]
  rcases hgets with hheld | hissued
  · exact le_trans (consumes_le_remaining (ownCalls i acts) hs hheld) (Nat.sub_le _ _)
  · exact issued_count (ownCalls i acts) hs ((issues_own i t acts hopen).mp hissued)

theorem open_of_mem (hopen : s.stores i ≠ none) {acts : List SharedAct} (he : e ∈ entries sharedStep s acts) :
    e.pre.stores i ≠ none := by
  refine (inv_of_mem_entries (fun s : Shared => s.stores i ≠ none) ?_ hopen
    (meets_always sharedStep s acts) he).1
  intro s act h _
  obtain ⟨store, hstore⟩ := Option.ne_none_iff_exists'.mp h
  by_cases hown : ∃ op, act = .call i op
  · obtain ⟨op, rfl⟩ := hown
    rw [(stores_step_call hstore op).2]
    exact Option.some_ne_none _
  · rw [stores_step_other hstore fun op heq => hown ⟨op, heq⟩]
    exact Option.some_ne_none _

/-- The head of a run from a state in which store `i` is closed counts for nothing. -/
theorem count_closed_cons (hclosed : s.stores i = none) (id : String) (act : SharedAct) (acts : List SharedAct) :
    (entries sharedStep s (act :: acts)).countP (spendsIn i id) =
      (entries sharedStep (sharedStep s act).2 acts).countP (spendsIn i id) := by
  rw [entries, List.countP_cons, spendsIn, callOf_closed hclosed act]
  rfl

theorem not_issuesIn_closed (hclosed : s.stores i = none) (act : SharedAct) (t : Ticket) :
    ¬ IssuesIn i t ⟨s, act, (sharedStep s act).1, (sharedStep s act).2⟩ := by
  rintro ⟨op, hop⟩
  rw [callOf_closed hclosed act] at hop
  cases hop

/-- **Run lemma.**  Over the whole run, store `i` spends a ticket it came by at most `max_uses` times. -/
theorem budget_of_store (acts : List SharedAct) : ∀ {s : Shared},
    SoundShared s → s.stores i = none → (∃ e ∈ entries sharedStep s acts, Gets i t e) →
    (entries sharedStep s acts).countP (spendsIn i t.id) ≤ t.maxUses := by
  induction acts with
  | nil => rintro s hs hclosed ⟨e, he, _⟩; cases he
  | cons act acts ih =>
    rintro s hs hclosed ⟨e, he, hgets⟩
    rw [count_closed_cons hclosed]
    have hs' := soundShared_step s act hs
    by_cases hact : act = .withFile i
    · -- the store is opened here: everything later is its own run
      subst hact
      have hopen := stores_step_open hclosed
      refine open_budget hopen (hs'.stores i _ hopen) acts ?_
      rcases List.mem_cons.mp he with rfl | he
      · rcases hgets with hissue | ⟨_, _, store, hstore, hget⟩
        · exact absurd hissue (not_issuesIn_closed hclosed _ t)
        · cases hopen.symm.trans hstore
          exact Or.inl hget
      · rcases hgets with hissue | ⟨_, hpre, _⟩
        · exact Or.inr ⟨e, he, hissue⟩
        · exact absurd hpre (open_of_mem (by rw [hopen]; exact Option.some_ne_none _) he)
    · refine ih hs' (stores_step_closed hclosed hact) ?_
      rcases List.mem_cons.mp he with rfl | he
      · rcases hgets with hissue | ⟨hopened, _⟩
        · exact absurd hissue (not_issuesIn_closed hclosed _ t)
        · exact absurd hopened hact
      · exact ⟨e, he, hgets⟩

/-- **Run lemma.**  A ticket that store `i` neither issued nor read is never spent by it. -/
theorem unknown_of_store {id : String} (acts : List SharedAct) : ∀ {s : Shared}, SoundShared s → s.stores i = none →
    (∀ e ∈ entries sharedStep s acts, ∀ t, Gets i t e → t.id ≠ id) →
    (entries sharedStep s acts).countP (spendsIn i id) = 0 := by
  induction acts with
  | nil => intro s hs hclosed hno; rfl
  | cons act acts ih =>
    intro s hs hclosed hno
    rw [count_closed_cons hclosed]
    have hs' := soundShared_step s act hs
    have htail : ∀ e ∈ entries sharedStep (sharedStep s act).2 acts, ∀ t, Gets i t e → t.id ≠ id :=
      fun e he => hno e (List.mem_cons_of_mem _ he)
    by_cases hact : act = .withFile i
    · subst hact
      have hopen := stores_step_open hclosed
      have hsound := hs'.stores i _ hopen
      rw [count_own i id acts hopen]
      refine unissued_count (ownCalls i acts) ?_ ?_
      · -- a ticket under `id` would have been read at the opening
        cases hget : (TicketStore.withFile s.file).1.get id with
        | none => rfl
        | some t =>
          have hid := hsound.filed id t hget
          exact absurd hid (hno _ List.mem_cons_self t
            (Or.inr ⟨rfl, hclosed, _, hopen, by rw [hid]; exact hget⟩))
      · intro e he t hissue
        obtain ⟨e', he', hissue'⟩ := (issues_own i t acts hopen).mpr ⟨e, he, hissue⟩
        exact htail e' he' t (Or.inl hissue')
    · exact ih hs' (stores_step_closed hclosed hact) htail

/-! ## What a store holds -/

/-- How far a ticket has come: pending, active, rejected. -/
def TicketStatus.rank : TicketStatus → Nat
  | .pending => 0
  | .active => 1
  | .rejected => 2

/-- `t'` is `t` at the same or a later stage of its life. -/
structure Later (t t' : Ticket) : Prop where
  status : t.status.rank ≤ t'.status.rank
  uses : t.uses ≤ t'.uses
  expires : t'.expiresAtUnixMs = t.expiresAtUnixMs

theorem Later.refl (t : Ticket) : Later t t := ⟨le_refl _, le_refl _, rfl⟩

theorem Later.trans {t' t'' : Ticket} (h : Later t t') (h' : Later t' t'') : Later t t'' :=
  ⟨le_trans h.status h'.status, le_trans h.uses h'.uses, h'.expires.trans h.expires⟩

theorem get_pruneExpired_live {store : TicketStore} {now : Nat} {id : String} (hget : store.get id = some t)
    (hlive : t.isExpired now = false) : (store.pruneExpired now).2.get id = some t := by
  have hmem : (⟨id, t⟩ : Sigma fun _ : String => Ticket) ∈ store.inner.entries :=
    AList.mem_lookup_iff.mp (Option.mem_def.mpr hget)
  refine Option.mem_def.mp (AList.mem_lookup_iff.mpr ?_)
  exact List.mem_filter.mpr ⟨hmem, by simp [hlive]⟩

/-- **Step lemma.**  A call moves a ticket forward or leaves it, unless it prunes it after its expiry. -/
theorem later_exec {store : TicketStore} (hs : Sound store) {id : String} (hget : store.get id = some t)
    {op : Op} (hprune : ∀ now, op = .pruneExpired now → now ≤ t.expiresAtUnixMs) :
    ∃ t', (exec store op).2.get id = some t' ∧ Later t t' := by
  cases exec_cases store op id with
  | kept h hc => exact ⟨t, h.trans hget, Later.refl t⟩
  | issued now req fp sample hop hid h => exact absurd hid ((hs.numbered id t hget).ne_next now)
  | approved t0 t' now approver by' hop hget0 hok h =>
    cases hget.symm.trans hget0
    obtain ⟨_, _, hpending, _, rfl⟩ := approveTicket_ok hok
    exact ⟨_, h, by rw [hpending]; exact Nat.zero_le _, le_refl _, rfl⟩
  | rejected t0 t' rejector reason hget0 hok h hc =>
    cases hget.symm.trans hget0
    obtain ⟨_, _, rfl⟩ := rejectTicket_ok hok
    refine ⟨_, h, ?_, le_refl _, rfl⟩
    show t.status.rank ≤ 2
    cases t.status <;> decide
  | dropped now hop h =>
    subst hop
    have hlive : t.isExpired now = false := by
      have := hprune now rfl
      simp only [Ticket.isExpired, decide_eq_false_iff_not]
      omega
    exact ⟨t, get_pruneExpired_live hget hlive, Later.refl t⟩
  | spent t0 t' now subject sql fp ty hop hfp hget0 hok h =>
    cases hget.symm.trans hget0
    obtain ⟨_, _, _, _, _, _, rfl⟩ := consumeTicket_ok hok
    exact ⟨_, h, le_refl _, Nat.le_succ _, rfl⟩

/-- Store `i` holds `t` under `id`, or what has become of it. -/
def HoldsSince (i : Nat) (id : String) (t : Ticket) (s : Shared) : Prop :=
  ∃ store t', s.stores i = some store ∧ store.get id = some t' ∧ Later t t'

/-- The step is no `prune_expired` of store `i` after the expiry of `t`. -/
def NoPrune (i : Nat) (t : Ticket) (s : Shared) (act : SharedAct) : Prop :=
  ∀ now, act = .call i (.pruneExpired now) → now ≤ t.expiresAtUnixMs

/-- **Step lemma.**  No step of another store, and no read or write of the file, touches what store `i` holds. -/
theorem holdsSince_step {id : String} (s : Shared) (act : SharedAct) (h : SoundShared s ∧ HoldsSince i id t s)
    (hok : NoPrune i t s act) : SoundShared (sharedStep s act).2 ∧ HoldsSince i id t (sharedStep s act).2 := by
  obtain ⟨hs, store, t', hopen, hget, hlater⟩ := h
  refine ⟨soundShared_step s act hs, ?_⟩
  by_cases hown : ∃ op, act = .call i op
  · obtain ⟨op, rfl⟩ := hown
    have hprune : ∀ now, op = .pruneExpired now → now ≤ t'.expiresAtUnixMs := by
      intro now heq
      rw [hlater.expires]
      exact hok now (by rw [heq])
    obtain ⟨t'', hget', hlater'⟩ := later_exec (hs.stores i store hopen) hget hprune
    exact ⟨_, t'', (stores_step_call hopen op).2, hget', hlater.trans hlater'⟩
  · exact ⟨store, t', stores_step_other hopen fun op heq => hown ⟨op, heq⟩, hget, hlater⟩

/-! ## The file -/

theorem file_step_persist {store : TicketStore} (hopen : s.stores i = some store) (hs : Sound store)
    (hunsaved : 0 < s.unsaved i) : ∃ f, (sharedStep s (.persist i true)).2.file = some f ∧
      ∀ id t, store.get id = some t ↔ t ∈ f.tickets ∧ t.id = id := by
  refine ⟨store.toFile, ?_, ?_⟩
  · simp only [sharedStep, hopen]
    rw [if_neg (by omega)]
    rfl
  · intro id t
    rw [← get_load (soundFile_toFile hs), get_load_toFile hs.filedById]

theorem file_step_other {f : TicketFile} (hfile : s.file = some f) {act : SharedAct}
    (hother : ∀ i, act ≠ .persist i true) : (sharedStep s act).2.file = some f := by
  cases act with
  | withFile i =>
    simp only [sharedStep]
    split
    · exact hfile
    · show some (TicketStore.withFile s.file).2 = some f
      rw [hfile]
      rfl
  | call i op =>
    simp only [sharedStep]
    split <;> exact hfile
  | persist i written =>
    have hw : written = false := by
      cases written with
      | false => rfl
      | true => exact absurd rfl (hother i)
    subst hw
    simp only [sharedStep]
    split
    · exact hfile
    · split <;> exact hfile

/-- **Last writer wins.**  A store spends a ticket at most `max_uses` times and never takes it back; a write replaces the
    file by what the writer holds, and the file changes in no other way. -/
theorem last_writer_wins (acts : List SharedAct) : (∀ i t, (∃ e ∈ entries sharedStep Shared.new acts, Gets i t e) →
      (entries sharedStep Shared.new acts).countP (spendsIn i t.id) ≤ t.maxUses) ∧
    (∀ i id, (∀ e ∈ entries sharedStep Shared.new acts, ∀ t, Gets i t e → t.id ≠ id) →
      (entries sharedStep Shared.new acts).countP (spendsIn i id) = 0) ∧
    (∀ i store id t, (final sharedStep Shared.new acts).stores i = some store →
      store.get id = some t → ∀ more,
      Meets sharedStep (NoPrune i t) (final sharedStep Shared.new acts) more →
      HoldsSince i id t (final sharedStep (final sharedStep Shared.new acts) more)) ∧
    (∀ i store, (final sharedStep Shared.new acts).stores i = some store →
      0 < (final sharedStep Shared.new acts).unsaved i →
      ∃ f, (sharedStep (final sharedStep Shared.new acts) (.persist i true)).2.file = some f ∧
        ∀ id t, store.get id = some t ↔ t ∈ f.tickets ∧ t.id = id) ∧
    (∀ f, (final sharedStep Shared.new acts).file = some f → ∀ act, (∀ i, act ≠ .persist i true) →
      (sharedStep (final sharedStep Shared.new acts) act).2.file = some f) := by
  have hsound : SoundShared (final sharedStep Shared.new acts) :=
    inv_final SoundShared (fun s act h _ => soundShared_step s act h) soundShared_new
      (meets_always sharedStep Shared.new acts)
  refine ⟨?_, ?_, ?_, ?_, ?_⟩
  · intro i t hgets
    exact budget_of_store acts soundShared_new rfl hgets
  · intro i id hno
    exact unknown_of_store acts soundShared_new rfl hno
  · intro i store id t hopen hget more hok
    exact (inv_final (fun s => SoundShared s ∧ HoldsSince i id t s) holdsSince_step
      ⟨hsound, store, t, hopen, hget, Later.refl t⟩ hok).2
  · intro i store hopen hunsaved
    exact file_step_persist hopen (hsound.stores i store hopen) hunsaved
  · intro f hfile act hother
    exact file_step_other hfile hother

/-! ## Across stores -/

def onceRequest : IssueTicketRequest where
  subjectId := "root"
  sql := "DELETE FROM t"
  ticketType := "high_risk"
  ttlSecs := 600
  maxUses := 1
  note := none
  issuedBy := some "admin"
  dualControl := false

def onceUse (now : Nat) : Op := .consume now "tkt-1-1" "root" "DELETE FROM t" none

/-- Store 0 issues and publishes the ticket, store 1 opens the file, and both use it. -/
def twiceSpent : List SharedAct :=
  [.withFile 0, .call 0 (.issue 1 onceRequest), .persist 0 true, .withFile 1,
    .call 0 (onceUse 2), .persist 0 true, .call 1 (onceUse 3), .persist 1 true]

/-- Both stores open the empty file; store 0 publishes a ticket, and store 1 issues one of its own. -/
def wipedOut : List SharedAct :=
  [.withFile 0, .withFile 1, .call 0 (.issue 1 onceRequest), .persist 0 true, .call 1 (.issue 2 onceRequest)]

/-- **Across stores** the uses of one ticket can exceed its `max_uses`, and a write can drop another store's ticket. -/
theorem shared_ticket_spent_twice : (¬ ∀ (acts : List SharedAct) (i : Nat) (t : Ticket),
      (∃ e ∈ entries sharedStep Shared.new acts, IssuesIn i t e) →
      (entries sharedStep Shared.new acts).countP (spendsAnywhere t.id) ≤ t.maxUses) ∧
    (¬ ∀ (acts : List SharedAct) (t : Ticket) (f : TicketFile),
      (final sharedStep Shared.new acts).file = some f → t ∈ f.tickets →
      (∀ i now, SharedAct.call i (.pruneExpired now) ∉ acts) → ∀ j, ∃ f',
        (sharedStep (final sharedStep Shared.new acts) (.persist j true)).2.file = some f' ∧
          ∃ t' ∈ f'.tickets, t'.id = t.id) := by
  let t := freshTicket 1 1 onceRequest "delete from t" "DELETE FROM t"
  have hid : t.id = "tkt-1-1" := by decide
  constructor
  · intro h
    have htwice : (entries sharedStep Shared.new twiceSpent).countP (spendsAnywhere "tkt-1-1") = 2 := by
      decide +kernel
    have hissued : IssuesIn 0 t ⟨final sharedStep Shared.new (twiceSpent.take 1),
        .call 0 (.issue 1 onceRequest),
        (sharedStep (final sharedStep Shared.new (twiceSpent.take 1))
          (.call 0 (.issue 1 onceRequest))).1,
        (sharedStep (final sharedStep Shared.new (twiceSpent.take 1))
          (.call 0 (.issue 1 onceRequest))).2⟩ := by
      have hout : (sharedStep (final sharedStep Shared.new (twiceSpent.take 1))
          (.call 0 (.issue 1 onceRequest))).1 = some (.issued t) := by decide
      exact ⟨.issue 1 onceRequest, by rw [callOf, hout]; rfl⟩
    have hle := h twiceSpent 0 t ⟨_, List.mem_cons_of_mem _ List.mem_cons_self, hissued⟩
    rw [hid, htwice] at hle
    exact absurd hle (by decide)
  · intro h
    have hfile : (final sharedStep Shared.new wipedOut).file = some ⟨[t]⟩ := by decide +kernel
    obtain ⟨f', hf', t', ht', hid'⟩ := h wipedOut t ⟨[t]⟩ hfile List.mem_cons_self
      (by intro i now hmem; simp [wipedOut] at hmem) 1
    have hgone : (sharedStep (final sharedStep Shared.new wipedOut) (.persist 1 true)).2.file.map
        (fun f => f.tickets.map (·.id)) = some ["tkt-2-1"] := by decide +kernel
    rw [hf', Option.map_some, Option.some.injEq] at hgone
    have hmem : t.id ∈ f'.tickets.map (·.id) := List.mem_map.mpr ⟨t', ht', hid'⟩
    rw [hgone, hid] at hmem
    exact absurd hmem (by decide)

end DataNexus.Tickets
