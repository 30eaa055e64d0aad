/-
  The connection pool of an endpoint, under concurrent calls (`proxy/pool/src/conn_pool.rs`).

  The unit of a step is one access of a shared object.  A call in between is a `Task`; an `Act` picks the task that goes on.

      get      contains? ─▶ insert ─▶ generation ─▶ pop ─▶ ping ─▶ init ─▶ holding ─▶ drop
                                                    └▶ contains? ─▶ insert ─▶ build … ┘
      rebuild  contains? ─▶ insert ─▶ generation ─▶ build ─▶ init ─▶ holding ─▶ drop
      refresh  [ pop … pop, none left, generation + 1 ]

  A guard of the map is a reader/writer lock: `drop` and `insert` wait for `refresh`.  Ghost data: `refreshes`, `since`
  and `prior`.

  `refresh_retires`: a refresh retires every older connection on every interleaving in which no entry is inserted over
  another one and a connection reports its endpoint.
-/
import DataNexus.Lib.Run
import Mathlib.Logic.Function.Basic

namespace DataNexus.ConnPool

open Run

/-! ## State -/

structure Conn where
  id : Nat
  since : Nat
  prior : Nat
  deriving DecidableEq

/-- `PoolInner`; `base` is the ghost count at which the entry was inserted. -/
structure Inner where
  queue : List Conn
  generation : Nat
  base : Nat
  deriving DecidableEq

/-- `get_conn_with_endpoint_session`, or one of the two `rebuild_conn`. -/
inductive Kind where
  | get
  | rebuild
  deriving DecidableEq

/-- A call for a connection; `began` is the ghost count at its beginning. -/
structure Call where
  kind : Kind
  endpoint : String
  began : Nat
  deriving DecidableEq

inductive Task where
  /-- `contains_key` said no: the entry is about to be inserted. -/
  | missing (c : Call)
  | present (c : Call)
  | labelled (c : Call) (generation : Nat)
  | empty (c : Call) (generation : Nat)
  | missingAgain (c : Call) (generation : Nat)
  /-- About to build. -/
  | waiting (c : Call) (generation tries : Nat)
  | building (c : Call) (generation tries since : Nat)
  | pinging (c : Call) (generation : Nat) (conn : Conn)
  | initializing (c : Call) (generation : Nat) (conn : Conn)
  /-- A `PoolConn` in the hands of the caller. -/
  | holding (c : Call) (generation : Nat) (conn : Conn)
  | refreshing (endpoint : String)
  /-- A refresh that found the queue empty. -/
  | drained (endpoint : String)
  deriving DecidableEq

def Task.conn : Task → Option Conn
  | .pinging _ _ conn => some conn
  | .initializing _ _ conn => some conn
  | .holding _ _ conn => some conn
  | _ => none

/-- `Pool`, the calls under way and the read guards they hold. -/
structure Pool where
  size : Nat
  inners : String → Option Inner
  tasks : Nat → Option Task
  guards : String → List Nat
  nextId : Nat
  refreshes : String → Nat

def new (size : Nat) : Pool := ⟨size, fun _ => none, fun _ => none, fun _ => [], 0, fun _ => 0⟩

namespace Pool

def idle (s : Pool) (endpoint : String) : List Conn := ((s.inners endpoint).map (·.queue)).getD []

/-- `generation().unwrap_or_default()`. -/
def generation (s : Pool) (endpoint : String) : Nat := ((s.inners endpoint).map (·.generation)).getD 0

def setTask (s : Pool) (id : Nat) (task : Option Task) : Pool := { s with tasks := Function.update s.tasks id task }

def setInner (s : Pool) (endpoint : String) (inner : Inner) : Pool :=
  { s with inners := Function.update s.inners endpoint (some inner) }

/-- `insert(endpoint, PoolInner::new(size))`. -/
def insertInner (s : Pool) (endpoint : String) : Pool := s.setInner endpoint ⟨[], 0, s.refreshes endpoint⟩

def setQueue (s : Pool) (endpoint : String) (queue : List Conn) : Pool :=
  match s.inners endpoint with
  | some inner => s.setInner endpoint { inner with queue := queue }
  | none => s

def putConn (s : Pool) (endpoint : String) (conn : Conn) : Pool :=
  if (s.idle endpoint).length < s.size then s.setQueue endpoint (s.idle endpoint ++ [conn]) else s

/-- The end of `refresh`: `fetch_add`, and the guard is released. -/
def bump (s : Pool) (id : Nat) (endpoint : String) : Pool :=
  let s := { s with
    refreshes := Function.update s.refreshes endpoint (s.refreshes endpoint + 1)
    guards := Function.update s.guards endpoint ((s.guards endpoint).filter (· ≠ id)) }
  match s.inners endpoint with
  | some inner => s.setInner endpoint { inner with generation := inner.generation + 1 }
  | none => s

end Pool

/-! ## Steps -/

inductive Act where
  | start (id : Nat) (kind : Kind) (endpoint : String)
  | startRefresh (id : Nat) (endpoint : String)
  /-- The task takes its next step; `ok` is what building or pinging answers. -/
  | advance (id : Nat) (ok : Bool)
  /-- `PoolConn::drop`, with what `conn.get_endpoint()` answers. -/
  | drop (id : Nat) (reported : String)
  | cancel (id : Nat)

inductive Out where
  | none
  | handed (c : Call) (conn : Conn)

def advance (s : Pool) (id : Nat) (ok : Bool) : Out × Pool :=
  match s.tasks id with
  | none => (.none, s)
  | some (.missing c) =>
    if s.guards c.endpoint = [] then (.none, (s.insertInner c.endpoint).setTask id (some (.present c))) else (.none, s)
  | some (.present c) => (.none, s.setTask id (some (.labelled c (s.generation c.endpoint))))
  | some (.labelled c g) =>
    match c.kind, s.idle c.endpoint with
    | .rebuild, _ => (.none, s.setTask id (some (.building c g 0 (s.refreshes c.endpoint))))
    | .get, [] => (.none, s.setTask id (some (.empty c g)))
    | .get, conn :: rest =>
      (.none, (s.setQueue c.endpoint rest).setTask id
        (some (.pinging c g ⟨conn.id, s.refreshes c.endpoint, conn.since⟩)))
  | some (.empty c g) =>
    (.none, s.setTask id (some (if (s.inners c.endpoint).isSome then .waiting c g 0 else .missingAgain c g)))
  | some (.missingAgain c g) =>
    if s.guards c.endpoint = [] then (.none, (s.insertInner c.endpoint).setTask id (some (.waiting c g 0)))
    else (.none, s)
  | some (.waiting c g tries) => (.none, s.setTask id (some (.building c g tries (s.refreshes c.endpoint))))
  | some (.building c g tries since) =>
    if ok then
      (.none, ({ s with nextId := s.nextId + 1 } : Pool).setTask id (some (.initializing c g ⟨s.nextId, since, since⟩)))
    -- a rebuild fails at once, a get after ten more tries
    else if c.kind = .rebuild ∨ tries = 10 then (.none, s.setTask id none)
    else (.none, s.setTask id (some (.waiting c g (tries + 1))))
  | some (.pinging c g conn) => (.none, s.setTask id (some (if ok then .initializing c g conn else .waiting c g 1)))
  | some (.initializing c g conn) => (.handed c conn, s.setTask id (some (.holding c g conn)))
  | some (.holding _ _ _) => (.none, s)
  | some (.refreshing endpoint) =>
    match s.idle endpoint with
    | [] => (.none, s.setTask id (some (.drained endpoint)))
    | _ :: rest => (.none, s.setQueue endpoint rest)
  | some (.drained endpoint) => (.none, (s.bump id endpoint).setTask id none)

/-- `PoolConn::drop`: back into the queue if the generation is still the same. -/
def drop (s : Pool) (id : Nat) (reported : String) : Pool :=
  match s.tasks id with
  | some (.holding _ g conn) =>
    if s.guards reported = [] then
      match s.inners reported with
      | some inner => if inner.generation = g then (s.putConn reported conn).setTask id none else s.setTask id none
      | none => s.setTask id none
    else s
  | _ => s

/-- A call that is not waited for any more; its connection is closed. -/
def cancel (s : Pool) (id : Nat) : Pool :=
  match s.tasks id with
  | some (.holding _ _ _) => s
  | some (.refreshing _) => s
  | some (.drained _) => s
  | _ => s.setTask id none

def step (s : Pool) : Act → Out × Pool
  | .start id kind endpoint =>
    match s.tasks id with
    | some _ => (.none, s)
    | none =>
      let c : Call := ⟨kind, endpoint, s.refreshes endpoint⟩
      (.none, s.setTask id (some (if (s.inners endpoint).isSome then .present c else .missing c)))
  | .startRefresh id endpoint =>
    match s.tasks id, s.inners endpoint with
    | some _, _ => (.none, s)
    | none, none =>
      (.none, { s with refreshes := Function.update s.refreshes endpoint (s.refreshes endpoint + 1) })
    | none, some _ =>
      (.none, ({ s with guards := Function.update s.guards endpoint (id :: s.guards endpoint) } : Pool).setTask id
        (some (.refreshing endpoint)))
  | .advance id ok => advance s id ok
  | .drop id reported => (.none, drop s id reported)
  | .cancel id => (.none, cancel s id)

/-! ## Properties -/

/-- Where a connection can be: at a position of a queue, or with a task. -/
inductive Place where
  | idle (endpoint : String) (position : Nat)
  | task (id : Nat)

def Pool.at (s : Pool) : Place → Option Conn
  | .idle endpoint position => (s.idle endpoint)[position]?
  | .task id => (s.tasks id).bind Task.conn

def Bounded (s : Pool) : Prop := ∀ endpoint, (s.idle endpoint).length ≤ s.size

def Exclusive (s : Pool) : Prop := ∀ p q c c', s.at p = some c → s.at q = some c' → c.id = c'.id → p = q

/-- No idle connection was popped, or its building begun, before the last refresh had ended. -/
def Retired (s : Pool) : Prop := ∀ endpoint, ∀ c ∈ s.idle endpoint, c.since = s.refreshes endpoint

/-- A connection that is handed out had not been popped, nor its building begun, before a refresh that had ended when
the call began. -/
def HandsFresh : Out → Prop
  | .none => True
  | .handed c conn => c.began ≤ conn.prior

/-- The condition: no entry is inserted over another one, and a connection reports the endpoint it was taken for. -/
def Lawful (s : Pool) : Act → Prop
  | .advance id _ => ∀ c g, s.tasks id = some (.missing c) ∨ s.tasks id = some (.missingAgain c g) →
      s.inners c.endpoint = none
  | .drop id reported => ∀ c g conn, s.tasks id = some (.holding c g conn) → reported = c.endpoint
  | _ => True

/-! ## What the operations do to the queues -/

namespace Pool

variable {s : Pool} {id : Nat} {endpoint : String}

@[simp] theorem idle_setTask (task : Option Task) (e : String) : (s.setTask id task).idle e = s.idle e := rfl

theorem at_task_setTask (task : Option Task) (i : Nat) :
    (s.setTask id task).at (.task i) = if i = id then task.bind Task.conn else s.at (.task i) := by
  show (Function.update s.tasks id task i).bind Task.conn = _
  rw [Function.update_apply]
  split <;> rfl

theorem idle_setInner (inner : Inner) (e : String) :
    (s.setInner endpoint inner).idle e = if e = endpoint then inner.queue else s.idle e := by
  show ((Function.update s.inners endpoint (some inner) e).map (·.queue)).getD [] = _
  rw [Function.update_apply]
  split <;> rfl

theorem idle_setQueue {inner : Inner} (h : s.inners endpoint = some inner) (queue : List Conn) (e : String) :
    (s.setQueue endpoint queue).idle e = if e = endpoint then queue else s.idle e := by
  unfold setQueue
  rw [h]
  exact idle_setInner _ e

theorem inner_of_idle {conn : Conn} {rest : List Conn} (h : s.idle endpoint = conn :: rest) :
    ∃ inner, s.inners endpoint = some inner ∧ inner.queue = conn :: rest := by
  unfold idle at h
  cases hinner : s.inners endpoint with
  | none =>
    rw [hinner] at h
    cases h
  | some inner =>
    rw [hinner] at h
    exact ⟨inner, rfl, h⟩

theorem idle_insertInner (e : String) :
    (s.insertInner endpoint).idle e = if e = endpoint then [] else s.idle e := idle_setInner _ e

theorem tasks_setQueue (queue : List Conn) : (s.setQueue endpoint queue).tasks = s.tasks := by
  unfold setQueue
  split <;> rfl

theorem size_setQueue (queue : List Conn) : (s.setQueue endpoint queue).size = s.size := by
  unfold setQueue
  split <;> rfl

theorem nextId_setQueue (queue : List Conn) : (s.setQueue endpoint queue).nextId = s.nextId := by
  unfold setQueue
  split <;> rfl

theorem idle_bump (e : String) : (s.bump id endpoint).idle e = s.idle e := by
  unfold bump
  dsimp only
  cases hinner : s.inners endpoint with
  | none => rfl
  | some inner =>
    dsimp only
    rw [idle_setInner]
    split
    · rename_i he
      rw [he]
      unfold idle
      rw [hinner]
      rfl
    · rfl

theorem tasks_bump : (s.bump id endpoint).tasks = s.tasks := by
  unfold bump
  dsimp only
  split <;> rfl

theorem size_bump : (s.bump id endpoint).size = s.size := by
  unfold bump
  dsimp only
  split <;> rfl

theorem nextId_bump : (s.bump id endpoint).nextId = s.nextId := by
  unfold bump
  dsimp only
  split <;> rfl

end Pool

/-! ## Bounds and owners, on every interleaving -/

/-- Every connection is in one place, and was built. -/
structure Owned (s : Pool) : Prop where
  exclusive : Exclusive s
  known : ∀ p c, s.at p = some c → c.id < s.nextId

variable {s s' : Pool} {g : Nat} {c : Call}

/-- A step that only moves connections: what is at a place now was somewhere, and no two were at one place. -/
theorem Owned.of_moves (h : Owned s) (f : Place → Place)
    (hmoves : ∀ p c', s'.at p = some c' → ∃ c, s.at (f p) = some c ∧ c.id = c'.id)
    (hf : ∀ p q, (s'.at p).isSome → (s'.at q).isSome → f p = f q → p = q) (hnext : s.nextId = s'.nextId) :
    Owned s' := by
  constructor
  · intro p q c c' hp hq hid
    obtain ⟨d, hd, hdc⟩ := hmoves p c hp
    obtain ⟨d', hd', hdc'⟩ := hmoves q c' hq
    refine hf p q (by rw [hp]; rfl) (by rw [hq]; rfl) (h.exclusive _ _ d d' hd hd' ?_)
    rw [hdc, hdc', hid]
  · intro p c hp
    obtain ⟨d, hd, hdc⟩ := hmoves p c hp
    rw [← hnext, ← hdc]
    exact h.known _ d hd

theorem Owned.setTask (h : Owned s) (id : Nat) (task : Option Task)
    (htask : ∀ c', task.bind Task.conn = some c' → ∃ c, s.at (.task id) = some c ∧ c.id = c'.id)
    (hidle : ∀ (e : String) (k : Nat) (c : Conn), (s'.idle e)[k]? = some c → (s.idle e)[k]? = some c)
    (htasks : s'.tasks = Function.update s.tasks id task) (hnext : s.nextId = s'.nextId) : Owned s' := by
  refine h.of_moves (fun p => p) ?_ (fun _ _ _ _ hpq => hpq) hnext
  intro p c' hp
  cases p with
  | idle e k => exact ⟨c', hidle e k c' hp, rfl⟩
  | task i =>
    have hat : s'.at (.task i) = if i = id then task.bind Task.conn else s.at (.task i) := by
      show (s'.tasks i).bind Task.conn = _
      rw [htasks]
      exact Pool.at_task_setTask (s := s) task i
    rw [hat] at hp
    split at hp
    · rename_i hi
      rw [hi]
      exact htask c' hp
    · exact ⟨c', hp, rfl⟩

theorem Owned.of_new (h : Owned s) {id : Nat} (hid : id < s'.nextId) (hfree : ∀ p c, s.at p = some c → c.id ≠ id)
    {place : Place} (hat : ∀ p c, s'.at p = some c → (p = place ∧ c.id = id) ∨ s.at p = some c)
    (hnext : s.nextId ≤ s'.nextId) : Owned s' := by
  constructor
  · intro p q c c' hp hq hcc
    rcases hat p c hp with ⟨rfl, hc⟩ | hp'
    · rcases hat q c' hq with ⟨rfl, _⟩ | hq'
      · rfl
      · exact absurd (hcc.symm.trans hc) (hfree q c' hq')
    · rcases hat q c' hq with ⟨rfl, hc'⟩ | hq'
      · exact absurd (hcc.trans hc') (hfree p c hp')
      · exact h.exclusive p q c c' hp' hq' hcc
  · intro p c hp
    rcases hat p c hp with ⟨_, rfl⟩ | hp'
    · exact hid
    · exact Nat.lt_of_lt_of_le (h.known p c hp') hnext

theorem Owned.give (h : Owned s) {id : Nat} {task : Task} {conn : Conn} (htask : task.conn = some conn)
    (hid : conn.id < s.nextId) (hfree : ∀ p c, s.at p = some c → c.id ≠ conn.id) : Owned (s.setTask id (some task)) := by
  refine @Owned.of_new s _ h conn.id hid hfree (.task id) (fun p c hp => ?_) (Nat.le_refl _)
  cases p with
  | idle e k => exact .inr hp
  | task i =>
    rw [Pool.at_task_setTask] at hp
    split at hp
    · rename_i hi
      exact .inl ⟨congrArg Place.task hi, congrArg Conn.id (Option.some.inj (hp.symm.trans htask))⟩
    · exact .inr hp

/-- Where a connection was before another was popped. -/
def beforePop (endpoint : String) : Place → Place
  | .idle e k => if e = endpoint then .idle e (k + 1) else .idle e k
  | .task i => .task i

theorem at_beforePop {endpoint : String} {conn : Conn} {rest : List Conn} (hidle : s.idle endpoint = conn :: rest) {p : Place}
    {c : Conn} (hp : (s.setQueue endpoint rest).at p = some c) : s.at (beforePop endpoint p) = some c := by
  unfold beforePop
  obtain ⟨inner, hinner, -⟩ := Pool.inner_of_idle hidle
  cases p with
  | idle e k =>
    have hat : ((s.setQueue endpoint rest).idle e)[k]? = some c := hp
    rw [Pool.idle_setQueue hinner rest] at hat
    dsimp only
    split at hat
    · rename_i he
      subst he
      rw [if_pos rfl]
      show (s.idle e)[k + 1]? = some c
      rw [hidle]
      exact hat
    · rename_i he
      rw [if_neg he]
      exact hat
  | task i =>
    show (s.tasks i).bind Task.conn = some c
    rw [← Pool.tasks_setQueue rest]
    exact hp

theorem Owned.popClosed (h : Owned s) {endpoint : String} {conn : Conn} {rest : List Conn}
    (hidle : s.idle endpoint = conn :: rest) : Owned (s.setQueue endpoint rest) ∧
      ∀ p c, (s.setQueue endpoint rest).at p = some c → c.id ≠ conn.id := by
  constructor
  · refine h.of_moves (beforePop endpoint) (fun p c hp => ⟨c, at_beforePop hidle hp, rfl⟩) ?_ (Pool.nextId_setQueue rest).symm
    intro p q _ _ hpq
    unfold beforePop at hpq
    cases p with
    | idle e k =>
      cases q with
      | idle e' k' =>
        dsimp only at hpq
        split at hpq
        · split at hpq
          · obtain ⟨rfl, hk⟩ := Place.idle.inj hpq
            rw [Nat.succ.inj hk]
          · rename_i he he'
            exact absurd ((Place.idle.inj hpq).1 ▸ he) he'
        · split at hpq
          · rename_i he he'
            exact absurd ((Place.idle.inj hpq).1 ▸ he') he
          · exact hpq
      | task i =>
        dsimp only at hpq
        split at hpq <;> cases hpq
    | task i =>
      cases q with
      | idle e k =>
        dsimp only at hpq
        split at hpq <;> cases hpq
      | task j => exact hpq
  · intro p c hp hid
    have hfront : s.at (.idle endpoint 0) = some conn := by
      show (s.idle endpoint)[0]? = some conn
      rw [hidle]
      rfl
    have hplace := h.exclusive _ _ c conn (at_beforePop hidle hp) hfront hid
    unfold beforePop at hplace
    cases p with
    | idle e k =>
      dsimp only at hplace
      split at hplace
      · exact absurd (Place.idle.inj hplace).2 (Nat.succ_ne_zero k)
      · rename_i he
        exact he (Place.idle.inj hplace).1
    | task i => cases hplace

theorem Owned.pop (h : Owned s) {id : Nat} {endpoint : String} {conn conn' : Conn} {rest : List Conn}
    (hidle : s.idle endpoint = conn :: rest) {task : Task} (htask : task.conn = some conn')
    (hid : conn'.id = conn.id) : Owned ((s.setQueue endpoint rest).setTask id (some task)) := by
  obtain ⟨howned, hfree⟩ := h.popClosed hidle
  refine howned.give htask ?_ (hid ▸ hfree)
  rw [hid, Pool.nextId_setQueue]
  refine h.known (.idle endpoint 0) conn ?_
  show (s.idle endpoint)[0]? = some conn
  rw [hidle]
  rfl

theorem Owned.put (h : Owned s) {id : Nat} {endpoint : String} {conn : Conn} {inner : Inner}
    (hinner : s.inners endpoint = some inner) (htask : s.at (.task id) = some conn) :
    Owned ((s.setQueue endpoint (s.idle endpoint ++ [conn])).setTask id none) := by
  have hqueue := Pool.idle_setQueue hinner (s.idle endpoint ++ [conn])
  have hnext := @Pool.nextId_setQueue s endpoint (s.idle endpoint ++ [conn])
  have hleft : Owned (s.setTask id none) := h.setTask id none (fun c' hc => by cases hc) (fun _ _ _ hc => hc) rfl rfl
  have hat : ∀ {p : Place} {c : Conn}, (s.setTask id none).at p = some c → s.at p = some c ∧ p ≠ .task id := by
    intro p c hp
    cases p with
    | idle e k => exact ⟨hp, Place.noConfusion⟩
    | task i =>
      rw [Pool.at_task_setTask] at hp
      split at hp
      · cases hp
      · rename_i hi
        exact ⟨hp, fun heq => hi (Place.task.inj heq)⟩
  refine @Owned.of_new _ _ hleft conn.id ?_ (fun p c hp hid => ?_) (.idle endpoint (s.idle endpoint).length) (fun p c hp => ?_)
    (Nat.le_of_eq hnext.symm)
  · exact hnext.symm ▸ h.known _ conn htask
  · exact (hat hp).2 (h.exclusive _ _ c conn (hat hp).1 htask hid)
  · cases p with
    | idle e k =>
      have hidle : ((s.setQueue endpoint (s.idle endpoint ++ [conn])).idle e)[k]? = some c := hp
      rw [hqueue] at hidle
      split at hidle
      · rename_i he
        subst he
        rcases Nat.lt_trichotomy k (s.idle e).length with hlt | rfl | hgt
        · rw [List.getElem?_append_left hlt] at hidle
          exact .inr hidle
        · rw [List.getElem?_concat_length] at hidle
          exact .inl ⟨rfl, congrArg Conn.id (Option.some.inj hidle).symm⟩
        · rw [List.getElem?_eq_none (by rw [List.length_append, List.length_singleton]; omega)] at hidle
          cases hidle
      · exact .inr hidle
    | task i =>
      refine .inr ?_
      rw [Pool.at_task_setTask] at hp ⊢
      rw [← hp]
      split
      · rfl
      · show (s.tasks i).bind Task.conn = ((s.setQueue endpoint _).tasks i).bind Task.conn
        rw [Pool.tasks_setQueue]

theorem Owned.build (h : Owned s) {id : Nat} {task : Task} {conn : Conn} (htask : task.conn = some conn)
    (hid : conn.id = s.nextId) : Owned (({ s with nextId := s.nextId + 1 } : Pool).setTask id (some task)) := by
  have hmore : Owned ({ s with nextId := s.nextId + 1 } : Pool) :=
    ⟨h.exclusive, fun p c hp => Nat.lt_succ_of_lt (h.known p c hp)⟩
  exact hmore.give htask (hid ▸ Nat.lt_succ_self s.nextId) fun p c hp => hid ▸ Nat.ne_of_lt (h.known p c hp)

structure Kept (s : Pool) : Prop where
  bounded : Bounded s
  owned : Owned s

theorem Kept.setTask (h : Kept s) {id : Nat} {task : Option Task}
    (htask : ∀ c', task.bind Task.conn = some c' → ∃ c, s.at (.task id) = some c ∧ c.id = c'.id) :
    Kept (s.setTask id task) :=
  ⟨h.bounded, h.owned.setTask id task htask (fun _ _ _ hc => hc) rfl rfl⟩

theorem Kept.insertInner (h : Kept s) {id : Nat} {endpoint : String} {task : Task} (htask : task.conn = none) :
    Kept ((s.insertInner endpoint).setTask id (some task)) := by
  have hidle : ∀ e, (s.insertInner endpoint).idle e = if e = endpoint then [] else s.idle e :=
    fun e => Pool.idle_insertInner e
  constructor
  · intro e
    show ((s.insertInner endpoint).idle e).length ≤ s.size
    rw [hidle]
    split
    · exact Nat.zero_le _
    · exact h.bounded e
  · refine h.owned.setTask id (some task) (fun c' hc' => ?_) (fun e k c hc => ?_) rfl rfl
    · rw [Option.bind_some, htask] at hc'
      cases hc'
    · rw [Pool.idle_setTask, hidle] at hc
      split at hc
      · cases hc
      · exact hc

theorem Bounded.setQueue (h : Bounded s) {endpoint : String} {conn : Conn} {rest : List Conn}
    (hidle : s.idle endpoint = conn :: rest) : Bounded (s.setQueue endpoint rest) := by
  obtain ⟨inner, hinner, -⟩ := Pool.inner_of_idle hidle
  intro e
  rw [Pool.idle_setQueue hinner, Pool.size_setQueue]
  split
  · have hlen := h endpoint
    rw [hidle, List.length_cons] at hlen
    omega
  · exact h e

theorem advance_kept (h : Kept s) (id : Nat) (ok : Bool) : Kept (advance s id ok).2 := by
  -- a task without a connection gets another one without a connection
  have hnone : ∀ {task : Option Task}, task.bind Task.conn = none → Kept (s.setTask id task) := by
    intro task htask
    refine h.setTask fun c' hc' => ?_
    rw [htask] at hc'
    cases hc'
  -- a task keeps its connection
  have hsame : ∀ {task task' : Task}, s.tasks id = some task → task'.conn = task.conn →
      Kept (s.setTask id (some task')) := by
    intro task task' htask hconn
    refine h.setTask fun c' hc' => ⟨c', ?_, rfl⟩
    show (s.tasks id).bind Task.conn = _
    rw [htask, Option.bind_some, ← hconn]
    exact hc'
  unfold advance
  cases htask : s.tasks id with
  | none => exact h
  | some task =>
    cases task with
    | missing c =>
      dsimp only
      split
      · exact h.insertInner rfl
      · exact h
    | present c => exact hnone rfl
    | labelled c g =>
      dsimp only
      cases c.kind with
      | rebuild => exact hnone rfl
      | get =>
        cases hidle : s.idle c.endpoint with
        | nil => exact hnone rfl
        | cons conn rest =>
          refine ⟨fun e => ?_, h.owned.pop hidle rfl rfl⟩
          exact h.bounded.setQueue hidle e
    | empty c g =>
      refine hnone ?_
      split <;> rfl
    | missingAgain c g =>
      dsimp only
      split
      · exact h.insertInner rfl
      · exact h
    | waiting c g tries => exact hnone rfl
    | building c g tries since =>
      dsimp only
      split
      · exact ⟨h.bounded, h.owned.build rfl rfl⟩
      split
      · exact hnone rfl
      · exact hnone rfl
    | pinging c g conn =>
      dsimp only
      cases ok with
      | true => exact hsame htask rfl
      | false => exact hnone rfl
    | initializing c g conn => exact hsame htask rfl
    | holding c g conn => exact h
    | refreshing endpoint =>
      dsimp only
      cases hidle : s.idle endpoint with
      | nil => exact hnone rfl
      | cons conn rest => exact ⟨h.bounded.setQueue hidle, (h.owned.popClosed hidle).1⟩
    | drained endpoint =>
      constructor
      · intro e
        show ((s.bump id endpoint).idle e).length ≤ (s.bump id endpoint).size
        rw [Pool.idle_bump, Pool.size_bump]
        exact h.bounded e
      · refine h.owned.setTask id none nofun (fun e k c hc => ?_) ?_ Pool.nextId_bump.symm
        · rw [Pool.idle_setTask, Pool.idle_bump] at hc
          exact hc
        · show Function.update (s.bump id endpoint).tasks id none = _
          rw [Pool.tasks_bump]

theorem drop_kept (h : Kept s) (id : Nat) (reported : String) : Kept (drop s id reported) := by
  have hnone : Kept (s.setTask id none) := h.setTask nofun
  unfold drop
  split
  · rename_i c g conn htask
    split
    · split
      · rename_i inner hinner
        split
        · unfold Pool.putConn
          split
          · rename_i hroom
            refine ⟨fun e => ?_, h.owned.put hinner ?_⟩
            · show ((s.setQueue reported (s.idle reported ++ [conn])).idle e).length ≤
                (s.setQueue reported (s.idle reported ++ [conn])).size
              rw [Pool.idle_setQueue hinner, Pool.size_setQueue]
              split
              · rw [List.length_append, List.length_singleton]
                exact hroom
              · exact h.bounded e
            · show (s.tasks id).bind Task.conn = _
              rw [htask]
              rfl
          · exact hnone
        · exact hnone
      · exact hnone
    · exact h
  · exact h

theorem step_kept (h : Kept s) (a : Act) : Kept (step s a).2 := by
  cases a with
  | start id kind endpoint =>
    unfold step
    dsimp only
    split
    · exact h
    · refine h.setTask fun c' hc' => ?_
      split at hc' <;> cases hc'
  | startRefresh id endpoint =>
    unfold step
    dsimp only
    split
    · exact h
    · exact ⟨h.bounded, h.owned.of_moves (fun p => p) (fun p c' hp => ⟨c', hp, rfl⟩) (fun _ _ _ _ hpq => hpq) rfl⟩
    · refine ⟨h.bounded, h.owned.setTask id (some (.refreshing endpoint)) nofun ?_ rfl rfl⟩
      exact fun e k c hc => hc
  | advance id ok => exact advance_kept h id ok
  | drop id reported => exact drop_kept h id reported
  | cancel id =>
    have hnone : Kept (s.setTask id none) := h.setTask nofun
    show Kept (cancel s id)
    unfold cancel
    split
    · exact h
    · exact h
    · exact h
    · exact hnone

theorem kept_new (size : Nat) : Kept (new size) := by
  refine ⟨fun e => Nat.zero_le _, ?_, ?_⟩
  · intro p q c c' hp
    cases p <;> cases hp
  · intro p c hp
    cases p <;> cases hp

/-! ## Refreshes, on lawful interleavings -/

/-- Entries stay, their generations grow with the refreshes, and their base stays. -/
def Grows (s s' : Pool) : Prop :=
  ∀ endpoint, s.refreshes endpoint ≤ s'.refreshes endpoint ∧ ∀ inner, s.inners endpoint = some inner →
    ∃ inner', s'.inners endpoint = some inner' ∧ inner.generation ≤ inner'.generation ∧ inner'.base = inner.base

def Read (s : Pool) (endpoint : String) (generation : Nat) : Prop :=
  ∃ inner, s.inners endpoint = some inner ∧ generation ≤ inner.generation

/-- A connection that was popped, or began to be built, at the count `since`, after the generation was read. -/
def Taken (s : Pool) (c : Call) (generation since prior : Nat) : Prop :=
  since ≤ s.refreshes c.endpoint ∧ (c.began ≤ prior ∧ prior ≤ since) ∧
    ∃ inner, s.inners c.endpoint = some inner ∧ generation ≤ inner.generation ∧ generation + inner.base ≤ since

def TaskInv (s : Pool) : Task → Prop
  | .missing c => c.began ≤ s.refreshes c.endpoint
  | .present c => c.began ≤ s.refreshes c.endpoint ∧ (s.inners c.endpoint).isSome
  | .labelled c g => c.began ≤ s.refreshes c.endpoint ∧ Read s c.endpoint g
  | .empty c g => c.began ≤ s.refreshes c.endpoint ∧ Read s c.endpoint g
  | .missingAgain c g => c.began ≤ s.refreshes c.endpoint ∧ Read s c.endpoint g
  | .waiting c g _ => c.began ≤ s.refreshes c.endpoint ∧ Read s c.endpoint g
  | .building c g _ since => Taken s c g since since
  | .pinging c g conn => Taken s c g conn.since conn.prior
  | .initializing c g conn => Taken s c g conn.since conn.prior
  | .holding c g conn => Taken s c g conn.since conn.prior
  | .refreshing endpoint => (s.inners endpoint).isSome
  | .drained endpoint => (s.inners endpoint).isSome ∧ s.idle endpoint = []

def Task.refreshes : Task → Option String
  | .refreshing endpoint => some endpoint
  | .drained endpoint => some endpoint
  | _ => none

structure RetireInv (s : Pool) : Prop where
  counted : ∀ endpoint inner, s.inners endpoint = some inner → s.refreshes endpoint = inner.generation + inner.base
  retired : Retired s
  guarded : ∀ id task endpoint, s.tasks id = some task → task.refreshes = some endpoint → id ∈ s.guards endpoint
  tasks : ∀ id task, s.tasks id = some task → TaskInv s task

theorem Grows.refl (s : Pool) : Grows s s := fun _ => ⟨Nat.le_refl _, fun inner h => ⟨inner, h, Nat.le_refl _, rfl⟩⟩

theorem Grows.isSome (h : Grows s s') {endpoint : String} (hsome : (s.inners endpoint).isSome) :
    (s'.inners endpoint).isSome := by
  obtain ⟨inner, hinner⟩ := Option.isSome_iff_exists.mp hsome
  obtain ⟨inner', hinner', -⟩ := (h endpoint).2 inner hinner
  rw [hinner']
  rfl

theorem Grows.read (h : Grows s s') {endpoint : String} (hread : Read s endpoint g) : Read s' endpoint g := by
  obtain ⟨inner, hinner, hle⟩ := hread
  obtain ⟨inner', hinner', hgen, -⟩ := (h endpoint).2 inner hinner
  exact ⟨inner', hinner', Nat.le_trans hle hgen⟩

theorem Grows.taken (h : Grows s s') {since prior : Nat} (htaken : Taken s c g since prior) :
    Taken s' c g since prior := by
  obtain ⟨hsince, hprior, inner, hinner, hle, hbase⟩ := htaken
  obtain ⟨hcount, hinners⟩ := h c.endpoint
  obtain ⟨inner', hinner', hgen, hbase'⟩ := hinners inner hinner
  refine ⟨Nat.le_trans hsince hcount, hprior, inner', hinner', Nat.le_trans hle hgen, ?_⟩
  rw [hbase']
  exact hbase

theorem TaskInv.mono (h : Grows s s') {task : Task} (htask : TaskInv s task)
    (hdrained : ∀ endpoint, task = .drained endpoint → s'.idle endpoint = []) : TaskInv s' task := by
  cases task with
  | missing c => exact Nat.le_trans htask (h c.endpoint).1
  | present c => exact ⟨Nat.le_trans htask.1 (h c.endpoint).1, h.isSome htask.2⟩
  | labelled c g => exact ⟨Nat.le_trans htask.1 (h c.endpoint).1, h.read htask.2⟩
  | empty c g => exact ⟨Nat.le_trans htask.1 (h c.endpoint).1, h.read htask.2⟩
  | missingAgain c g => exact ⟨Nat.le_trans htask.1 (h c.endpoint).1, h.read htask.2⟩
  | waiting c g tries => exact ⟨Nat.le_trans htask.1 (h c.endpoint).1, h.read htask.2⟩
  | building c g tries since => exact h.taken htask
  | pinging c g conn => exact h.taken htask
  | initializing c g conn => exact h.taken htask
  | holding c g conn => exact h.taken htask
  | refreshing endpoint => exact h.isSome htask
  | drained endpoint => exact ⟨h.isSome htask.1, hdrained endpoint rfl⟩

theorem RetireInv.update (h : RetireInv s) (id : Nat) (task : Option Task) (hgrows : Grows s s')
    (htasks : s'.tasks = Function.update s.tasks id task)
    (hcounted : ∀ endpoint inner, s'.inners endpoint = some inner →
      s'.refreshes endpoint = inner.generation + inner.base) (hretired : Retired s')
    (hdrained : ∀ i endpoint, i ≠ id → s.tasks i = some (.drained endpoint) → s'.idle endpoint = [])
    (hguards : ∀ i endpoint, i ≠ id → i ∈ s.guards endpoint → i ∈ s'.guards endpoint)
    (hguard : ∀ t endpoint, task = some t → t.refreshes = some endpoint → id ∈ s'.guards endpoint)
    (hnew : ∀ t, task = some t → TaskInv s' t) : RetireInv s' := by
  have hother : ∀ i t, s'.tasks i = some t → i = id ∧ task = some t ∨ i ≠ id ∧ s.tasks i = some t := by
    intro i t ht
    rw [htasks, Function.update_apply] at ht
    split at ht
    · rename_i hi
      exact .inl ⟨hi, ht⟩
    · rename_i hi
      exact .inr ⟨hi, ht⟩
  refine ⟨hcounted, hretired, ?_, ?_⟩
  · intro i t endpoint ht href
    rcases hother i t ht with ⟨rfl, htask⟩ | ⟨hi, htask⟩
    · exact hguard t endpoint htask href
    · exact hguards i endpoint hi (h.guarded i t endpoint htask href)
  · intro i t ht
    rcases hother i t ht with ⟨rfl, htask⟩ | ⟨hi, htask⟩
    · exact hnew t htask
    · exact (h.tasks i t htask).mono hgrows fun endpoint hd => hdrained i endpoint hi (hd ▸ htask)

theorem RetireInv.setTask (h : RetireInv s) (id : Nat) (task : Option Task)
    (hnone : ∀ t, task = some t → t.refreshes = none) (hnew : ∀ t, task = some t → TaskInv s t) :
    RetireInv (s.setTask id task) := by
  refine h.update id task (Grows.refl s) rfl h.counted h.retired ?_ (fun _ _ _ hi => hi) ?_ ?_
  · exact fun i endpoint _ ht => (h.tasks i _ ht).2
  · intro t endpoint ht href
    rw [hnone t ht] at href
    cases href
  · exact fun t ht => (hnew t ht).mono (Grows.refl s) fun endpoint hd => by
      have := hnone t ht
      rw [hd] at this
      cases this

theorem inners_setInner {endpoint : String} (inner : Inner) (e : String) :
    (s.setInner endpoint inner).inners e = if e = endpoint then some inner else s.inners e := by
  show Function.update s.inners endpoint (some inner) e = _
  rw [Function.update_apply]

theorem setQueue_eq {endpoint : String} {inner : Inner} (h : s.inners endpoint = some inner) (queue : List Conn) :
    s.setQueue endpoint queue = s.setInner endpoint { inner with queue := queue } := by
  unfold Pool.setQueue
  rw [h]

theorem grows_setInner {endpoint : String} {inner inner' : Inner} (h : s.inners endpoint = some inner)
    (hgen : inner.generation ≤ inner'.generation) (hbase : inner'.base = inner.base) :
    Grows s (s.setInner endpoint inner') := by
  intro e
  refine ⟨Nat.le_refl _, fun i hi => ?_⟩
  rw [inners_setInner]
  split
  · rename_i he
    subst he
    obtain rfl := Option.some.inj (h.symm.trans hi)
    exact ⟨inner', rfl, hgen, hbase⟩
  · exact ⟨i, hi, Nat.le_refl _, rfl⟩

theorem RetireInv.pop (h : RetireInv s) {endpoint : String} {conn : Conn} {rest : List Conn}
    (hidle : s.idle endpoint = conn :: rest) : RetireInv (s.setQueue endpoint rest) := by
  obtain ⟨inner, hinner, -⟩ := Pool.inner_of_idle hidle
  have hqueue := Pool.idle_setQueue hinner rest
  rw [setQueue_eq hinner] at hqueue ⊢
  have hgrows : Grows s (s.setInner endpoint { inner with queue := rest }) := grows_setInner hinner (Nat.le_refl _) rfl
  refine ⟨fun e i hi => ?_, fun e c hc => ?_, h.guarded, fun i task htask => ?_⟩
  · rw [inners_setInner] at hi
    split at hi
    · rename_i he
      obtain rfl := Option.some.inj hi
      rw [he]
      exact h.counted endpoint inner hinner
    · exact h.counted e i hi
  · rw [hqueue] at hc
    split at hc
    · rename_i he
      subst he
      exact h.retired e c (hidle ▸ List.mem_cons_of_mem conn hc)
    · exact h.retired e c hc
  · refine (h.tasks i task htask).mono hgrows fun e he => ?_
    have hempty := (he ▸ h.tasks i task htask : TaskInv s (.drained e)).2
    rw [hqueue]
    split
    · rename_i heq
      rw [heq, hidle] at hempty
      cases hempty
    · exact hempty

theorem RetireInv.insertInner (h : RetireInv s) {endpoint : String} (hnone : s.inners endpoint = none) :
    RetireInv (s.insertInner endpoint) := by
  have hidle : ∀ e, (s.insertInner endpoint).idle e = s.idle e := by
    intro e
    rw [Pool.idle_insertInner]
    split
    · rename_i he
      rw [he]
      unfold Pool.idle
      rw [hnone]
      rfl
    · rfl
  have hgrows : Grows s (s.insertInner endpoint) := by
    intro e
    refine ⟨Nat.le_refl _, fun i hi => ⟨i, ?_, Nat.le_refl _, rfl⟩⟩
    show (s.setInner endpoint _).inners e = _
    rw [inners_setInner, if_neg]
    · exact hi
    · rintro rfl
      rw [hnone] at hi
      cases hi
  refine ⟨fun e i hi => ?_, fun e c hc => ?_, h.guarded, fun i task htask => ?_⟩
  · have hi' : (s.setInner endpoint ⟨[], 0, s.refreshes endpoint⟩).inners e = some i := hi
    rw [inners_setInner] at hi'
    split at hi'
    · rename_i he
      obtain rfl := Option.some.inj hi'
      rw [he]
      exact (Nat.zero_add _).symm
    · exact h.counted e i hi'
  · rw [hidle] at hc
    exact h.retired e c hc
  · refine (h.tasks i task htask).mono hgrows fun e he => ?_
    rw [hidle]
    exact (he ▸ h.tasks i task htask : TaskInv s (.drained e)).2

theorem bump_eq {endpoint : String} {inner : Inner} (h : s.inners endpoint = some inner) (id : Nat) :
    s.bump id endpoint = ({ s with
      refreshes := Function.update s.refreshes endpoint (s.refreshes endpoint + 1)
      guards := Function.update s.guards endpoint ((s.guards endpoint).filter (· ≠ id)) } : Pool).setInner endpoint
        { inner with generation := inner.generation + 1 } := by
  unfold Pool.bump
  dsimp only
  rw [h]

theorem RetireInv.bump (h : RetireInv s) {id : Nat} {endpoint : String}
    (htask : s.tasks id = some (.drained endpoint)) : RetireInv ((s.bump id endpoint).setTask id none) := by
  obtain ⟨hsome, hempty⟩ : (s.inners endpoint).isSome ∧ s.idle endpoint = [] := h.tasks id _ htask
  obtain ⟨inner, hinner⟩ := Option.isSome_iff_exists.mp hsome
  have hcount : ∀ e, (s.bump id endpoint).refreshes e = if e = endpoint then s.refreshes e + 1 else s.refreshes e := by
    intro e
    rw [bump_eq hinner]
    show Function.update s.refreshes endpoint (s.refreshes endpoint + 1) e = _
    rw [Function.update_apply]
    split
    · rename_i he
      rw [he]
    · rfl
  have hinners : ∀ e, (s.bump id endpoint).inners e =
      if e = endpoint then some { inner with generation := inner.generation + 1 } else s.inners e := by
    intro e
    rw [bump_eq hinner]
    exact inners_setInner _ e
  have hguards : ∀ e, (s.bump id endpoint).guards e =
      if e = endpoint then (s.guards endpoint).filter (· ≠ id) else s.guards e := by
    intro e
    rw [bump_eq hinner]
    show Function.update s.guards endpoint _ e = _
    rw [Function.update_apply]
  have hgrows : Grows s (s.bump id endpoint) := by
    intro e
    rw [hcount, hinners]
    split
    · rename_i he
      subst he
      refine ⟨Nat.le_succ _, fun i hi => ⟨_, rfl, ?_, ?_⟩⟩
      · obtain rfl := Option.some.inj (hinner.symm.trans hi)
        exact Nat.le_succ _
      · obtain rfl := Option.some.inj (hinner.symm.trans hi)
        rfl
    · exact ⟨Nat.le_refl _, fun i hi => ⟨i, hi, Nat.le_refl _, rfl⟩⟩
  refine h.update id none hgrows ?_ (fun e i hi => ?_) (fun e c hc => ?_) (fun i e hi htask' => ?_)
    (fun i e hi hmem => ?_) nofun nofun
  · show Function.update (s.bump id endpoint).tasks id none = _
    rw [Pool.tasks_bump]
  · have hi' : (s.bump id endpoint).inners e = some i := hi
    show (s.bump id endpoint).refreshes e = _
    rw [hinners] at hi'
    rw [hcount]
    split at hi'
    · rename_i he
      obtain rfl := Option.some.inj hi'
      rw [if_pos he, he, h.counted endpoint inner hinner]
      show _ = inner.generation + 1 + inner.base
      omega
    · rename_i he
      rw [if_neg he]
      exact h.counted e i hi'
  · rw [Pool.idle_setTask, Pool.idle_bump] at hc
    show c.since = (s.bump id endpoint).refreshes e
    rw [hcount, if_neg]
    · exact h.retired e c hc
    · rintro rfl
      rw [hempty] at hc
      cases hc
  · rw [Pool.idle_setTask, Pool.idle_bump]
    exact (h.tasks i _ htask' : TaskInv s (.drained e)).2
  · show i ∈ (s.bump id endpoint).guards e
    rw [hguards]
    split
    · rename_i he
      rw [List.mem_filter]
      exact ⟨he ▸ hmem, decide_eq_true hi⟩
    · exact hmem

theorem RetireInv.put (h : RetireInv s) {id : Nat} {conn : Conn} {inner : Inner}
    (htask : s.tasks id = some (.holding c g conn)) (hguards : s.guards c.endpoint = [])
    (hinner : s.inners c.endpoint = some inner) (hgen : inner.generation = g) :
    RetireInv (s.setQueue c.endpoint (s.idle c.endpoint ++ [conn])) := by
  have hqueue := Pool.idle_setQueue hinner (s.idle c.endpoint ++ [conn])
  rw [setQueue_eq hinner] at hqueue ⊢
  have hgrows : Grows s (s.setInner c.endpoint { inner with queue := s.idle c.endpoint ++ [conn] }) :=
    grows_setInner hinner (Nat.le_refl _) rfl
  -- what it was taken at is the present count
  have hsince : conn.since = s.refreshes c.endpoint := by
    obtain ⟨hle, -, inner', hinner', -, hbase⟩ : Taken s c g conn.since conn.prior := h.tasks id _ htask
    obtain rfl := Option.some.inj (hinner.symm.trans hinner')
    have hcounted := h.counted c.endpoint inner hinner
    omega
  refine ⟨fun e i hi => ?_, fun e d hd => ?_, h.guarded, fun i task ht => ?_⟩
  · rw [inners_setInner] at hi
    split at hi
    · rename_i he
      obtain rfl := Option.some.inj hi
      rw [he]
      exact h.counted c.endpoint inner hinner
    · exact h.counted e i hi
  · rw [hqueue] at hd
    split at hd
    · rename_i he
      subst he
      rcases List.mem_append.mp hd with hd | hd
      · exact h.retired _ d hd
      · rw [List.mem_singleton.mp hd]
        exact hsince
    · exact h.retired e d hd
  · refine (h.tasks i task ht).mono hgrows fun e he => ?_
    -- a drained queue is under a guard
    have hguard := h.guarded i task e ht (he ▸ rfl)
    rw [hqueue]
    split
    · rename_i heq
      rw [heq, hguards] at hguard
      cases hguard
    · exact (he ▸ h.tasks i task ht : TaskInv s (.drained e)).2

theorem advance_retire (h : RetireInv s) {id : Nat} {ok : Bool} (hlawful : Lawful s (.advance id ok)) :
    RetireInv (advance s id ok).2 ∧ HandsFresh (advance s id ok).1 := by
  -- a task that refreshes nothing takes over what it knows
  have hset : ∀ task, task.refreshes = none → TaskInv s task → RetireInv (s.setTask id (some task)) := by
    intro task hnone hinv
    refine h.setTask id (some task) (fun t ht => ?_) (fun t ht => ?_)
    · rw [← Option.some.inj ht]
      exact hnone
    · rw [← Option.some.inj ht]
      exact hinv
  have hend : RetireInv (s.setTask id none) := h.setTask id none nofun nofun
  unfold advance
  cases htask : s.tasks id with
  | none => exact ⟨h, trivial⟩
  | some task =>
    have hinv := h.tasks id task htask
    cases task with
    | missing c =>
      dsimp only
      split
      · -- the entry is inserted where there is none
        have hinsert := h.insertInner (hlawful c 0 (.inl htask))
        refine ⟨hinsert.setTask id _ (fun t ht => ?_) (fun t ht => ?_), trivial⟩
        · rw [← Option.some.inj ht]
          rfl
        · rw [← Option.some.inj ht]
          refine ⟨hinv, ?_⟩
          show ((s.setInner c.endpoint _).inners c.endpoint).isSome = true
          rw [inners_setInner, if_pos rfl]
          rfl
      · exact ⟨h, trivial⟩
    | present c =>
      refine ⟨hset _ rfl ⟨hinv.1, ?_⟩, trivial⟩
      obtain ⟨inner, hinner⟩ := Option.isSome_iff_exists.mp hinv.2
      refine ⟨inner, hinner, ?_⟩
      unfold Pool.generation
      rw [hinner]
      exact Nat.le_refl _
    | labelled c g =>
      obtain ⟨hbegan, inner, hinner, hread⟩ := hinv
      have hcounted := h.counted c.endpoint inner hinner
      dsimp only
      cases c.kind with
      | rebuild =>
        refine ⟨hset _ rfl ⟨Nat.le_refl _, ⟨hbegan, Nat.le_refl _⟩, inner, hinner, hread, ?_⟩, trivial⟩
        omega
      | get =>
        cases hidle : s.idle c.endpoint with
        | nil => exact ⟨hset _ rfl ⟨hbegan, inner, hinner, hread⟩, trivial⟩
        | cons conn rest =>
          have hsince := h.retired c.endpoint conn (hidle ▸ List.mem_cons_self)
          refine ⟨(h.pop hidle).setTask id _ (fun t ht => ?_) (fun t ht => ?_), trivial⟩
          · rw [← Option.some.inj ht]
            rfl
          · rw [← Option.some.inj ht, setQueue_eq hinner]
            refine ⟨Nat.le_refl _, ⟨?_, Nat.le_of_eq hsince⟩, { inner with queue := rest }, ?_, hread, ?_⟩
            · show c.began ≤ conn.since
              omega
            · rw [inners_setInner, if_pos rfl]
            · show g + inner.base ≤ s.refreshes c.endpoint
              omega
    | empty c g =>
      obtain ⟨hbegan, inner, hinner, hread⟩ := hinv
      dsimp only
      rw [hinner]
      exact ⟨hset _ rfl ⟨hbegan, inner, hinner, hread⟩, trivial⟩
    | missingAgain c g =>
      obtain ⟨-, inner, hinner, -⟩ := hinv
      rw [hlawful c g (.inr htask)] at hinner
      cases hinner
    | waiting c g tries =>
      obtain ⟨hbegan, inner, hinner, hread⟩ := hinv
      have hcounted := h.counted c.endpoint inner hinner
      refine ⟨hset _ rfl ⟨Nat.le_refl _, ⟨hbegan, Nat.le_refl _⟩, inner, hinner, hread, ?_⟩, trivial⟩
      omega
    | building c g tries since =>
      obtain ⟨hsince, hprior, inner, hinner, hread, hbase⟩ := hinv
      dsimp only
      split
      · refine ⟨?_, trivial⟩
        have hnext : RetireInv { s with nextId := s.nextId + 1 } := ⟨h.counted, h.retired, h.guarded, h.tasks⟩
        refine hnext.setTask id _ (fun t ht => ?_) (fun t ht => ?_)
        · rw [← Option.some.inj ht]
          rfl
        · rw [← Option.some.inj ht]
          exact ⟨hsince, hprior, inner, hinner, hread, hbase⟩
      split
      · exact ⟨hend, trivial⟩
      · exact ⟨hset _ rfl ⟨Nat.le_trans hprior.1 hsince, inner, hinner, hread⟩, trivial⟩
    | pinging c g conn =>
      cases ok with
      | true => exact ⟨hset _ rfl hinv, trivial⟩
      | false =>
        obtain ⟨hsince, hprior, inner, hinner, hread, hbase⟩ := hinv
        refine ⟨hset _ rfl ⟨?_, inner, hinner, hread⟩, trivial⟩
        exact Nat.le_trans (Nat.le_trans hprior.1 hprior.2) hsince
    | initializing c g conn => exact ⟨hset _ rfl hinv, hinv.2.1.1⟩
    | holding c g conn => exact ⟨h, trivial⟩
    | refreshing endpoint =>
      dsimp only
      cases hidle : s.idle endpoint with
      | nil =>
        refine ⟨h.update id _ (Grows.refl s) rfl h.counted h.retired (fun i e _ ht => (h.tasks i _ ht).2)
          (fun _ _ _ hi => hi) (fun t e ht href => ?_) (fun t ht => ?_), trivial⟩
        · rw [← Option.some.inj ht] at href
          exact h.guarded id _ e htask href
        · rw [← Option.some.inj ht]
          exact ⟨hinv, hidle⟩
      | cons conn rest => exact ⟨h.pop hidle, trivial⟩
    | drained endpoint => exact ⟨h.bump htask, trivial⟩

theorem drop_retire (h : RetireInv s) {id : Nat} {reported : String} (hlawful : Lawful s (.drop id reported)) :
    RetireInv (drop s id reported) := by
  have hend : ∀ {s : Pool}, RetireInv s → RetireInv (s.setTask id none) := fun h => h.setTask id none nofun nofun
  unfold drop
  split
  · rename_i c g conn htask
    obtain rfl := hlawful c g conn htask
    split
    · rename_i hguards
      split
      · rename_i inner hinner
        split
        · rename_i hgen
          unfold Pool.putConn
          split
          · exact hend (h.put htask hguards hinner hgen)
          · exact hend h
        · exact hend h
      · exact hend h
    · exact h
  · exact h

/-- **One step** of a lawful interleaving. -/
theorem step_retire (h : RetireInv s) {a : Act} (hlawful : Lawful s a) :
    RetireInv (step s a).2 ∧ HandsFresh (step s a).1 := by
  cases a with
  | start id kind endpoint =>
    unfold step
    dsimp only
    split
    · exact ⟨h, trivial⟩
    · refine ⟨h.setTask id _ (fun t ht => ?_) (fun t ht => ?_), trivial⟩
      · rw [← Option.some.inj ht]
        split <;> rfl
      · rw [← Option.some.inj ht]
        split
        · rename_i hsome
          exact ⟨Nat.le_refl _, hsome⟩
        · exact Nat.le_refl _
  | startRefresh id endpoint =>
    unfold step
    dsimp only
    split
    · exact ⟨h, trivial⟩
    · rename_i _ hnone
      -- there is no entry, and nothing to retire
      have hcount : ∀ e, e ≠ endpoint →
          Function.update s.refreshes endpoint (s.refreshes endpoint + 1) e = s.refreshes e :=
        fun e he => Function.update_of_ne he _ _
      refine ⟨⟨fun e i hi => ?_, fun e c hc => ?_, h.guarded, fun i task htask => ?_⟩, trivial⟩
      · show Function.update s.refreshes endpoint (s.refreshes endpoint + 1) e = _
        rw [hcount e]
        · exact h.counted e i hi
        · rintro rfl
          rw [show s.inners e = some i from hi] at hnone
          cases hnone
      · show c.since = Function.update s.refreshes endpoint (s.refreshes endpoint + 1) e
        rw [hcount e]
        · exact h.retired e c hc
        · rintro rfl
          obtain ⟨rest, hrest⟩ : ∃ rest, s.idle e = rest ∧ c ∈ rest := ⟨_, rfl, hc⟩
          unfold Pool.idle at hrest
          rw [hnone] at hrest
          obtain ⟨rfl, hmem⟩ := hrest
          cases hmem
      · have hgrows : Grows s
            ({ s with refreshes := Function.update s.refreshes endpoint (s.refreshes endpoint + 1) } : Pool) := by
          refine fun e => ⟨?_, fun inner hinner => ⟨inner, hinner, Nat.le_refl _, rfl⟩⟩
          show s.refreshes e ≤ Function.update s.refreshes endpoint (s.refreshes endpoint + 1) e
          rw [Function.update_apply]
          split
          · rename_i he
            rw [he]
            exact Nat.le_succ _
          · exact Nat.le_refl _
        refine TaskInv.mono hgrows (h.tasks i task htask) fun e he => ?_
        have hdrained : TaskInv s (.drained e) := he ▸ h.tasks i task htask
        exact hdrained.2
    · rename_i inner hnone hinner
      refine ⟨h.update id _ (Grows.refl s) rfl h.counted h.retired (fun i e _ ht => (h.tasks i _ ht).2)
        (fun i e _ hi => ?_) (fun t e ht href => ?_) (fun t ht => ?_), trivial⟩
      · show i ∈ Function.update s.guards endpoint (id :: s.guards endpoint) e
        rw [Function.update_apply]
        split
        · rename_i he
          exact List.mem_cons_of_mem _ (he ▸ hi)
        · exact hi
      · rw [← Option.some.inj ht] at href
        obtain rfl := Option.some.inj href
        show id ∈ Function.update s.guards endpoint (id :: s.guards endpoint) endpoint
        rw [Function.update_self]
        exact List.mem_cons_self
      · rw [← Option.some.inj ht]
        show (s.inners endpoint).isSome = true
        rw [hinner]
        rfl
  | advance id ok => exact advance_retire h hlawful
  | drop id reported => exact ⟨drop_retire h hlawful, trivial⟩
  | cancel id =>
    refine ⟨?_, trivial⟩
    show RetireInv (cancel s id)
    unfold cancel
    split
    · exact h
    · exact h
    · exact h
    · exact h.setTask id none nofun nofun

theorem retireInv_new (size : Nat) : RetireInv (new size) := ⟨nofun, nofun, nofun, nofun⟩

/-- **Refreshing an endpoint retires every older connection**, on every lawful interleaving; the bounds and the owners
need no condition. -/
theorem refresh_retires (size : Nat) (acts : List Act) :
    (∀ e ∈ entries step (new size) acts, Bounded e.post ∧ Exclusive e.post) ∧ (Meets step Lawful (new size) acts →
        ∀ e ∈ entries step (new size) acts, Retired e.post ∧ HandsFresh e.out) := by
  refine ⟨fun e he => ?_, fun hmeets e he => ?_⟩
  · have hkept := (inv_of_mem_entries Kept (fun s a h _ => step_kept h a) (kept_new size) (meets_always step _ acts) he).2
    exact ⟨hkept.bounded, hkept.owned.exclusive⟩
  · have hinv := inv_of_mem_entries RetireInv (fun s a h ha => (step_retire h ha).1) (retireInv_new size) hmeets he
    refine ⟨hinv.2.retired, ?_⟩
    rw [(entry_eq he).1]
    exact (step_retire hinv.1 (hmeets e he)).2

/-- Two calls find no entry; a connection comes back under the new generation, and the next call gets it. -/
def overwritten : List Act :=
  [.start 0 .get "db", .start 1 .get "db", .advance 1 true, .advance 1 true, .advance 1 true, .advance 1 true,
    .advance 1 true, .advance 1 true, .advance 1 true, .startRefresh 2 "db", .advance 2 true, .advance 2 true,
    .advance 0 true, .drop 1 "db"]

/-- **The entry that is inserted over another one** brings the old generation back. -/
theorem overwritten_entry_keeps_old : ¬ ∀ e ∈ entries step (new 4) overwritten, Retired e.post := by
  intro hall
  have hlast := hall _ (last_mem_entries step (new 4) (overwritten.dropLast) (.drop 1 "db"))
  have hidle : (⟨0, 0, 0⟩ : Conn) ∈ (final step (new 4) overwritten).idle "db" := by decide
  have hcount : (0 : Nat) = 1 := hlast "db" ⟨0, 0, 0⟩ hidle
  cases hcount

end DataNexus.ConnPool
