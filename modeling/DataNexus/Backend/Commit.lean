/-
  The answer to COMMIT, against what the server did.

  Neither connector looks at the server's answer over the driver: `finish_transaction` puts the tag COMMIT on the
  ROLLBACK of a failed transaction, and with an empty lease nothing is sent at all.

  `Told` adds to a step whether the server has given up the transaction, and `Watched` keeps it per connection.  By the
  one-connection invariant (`Single`) the COMMIT of a smooth run goes to the connection with all the writes; what is
  left is the failed transaction.
-/
import DataNexus.Backend.MySqlSession
import DataNexus.Frontend.PostgreSql

namespace DataNexus.Backend

open DataNexus.Run

/-! ## Sessions watched from the server -/

/-- A session, and the connections on which the server has given up the open transaction. -/
structure Watched where
  client : Client
  failed : Conn → Bool

/-- A step, and whether the server has given up the transaction it was part of: a PostgreSQL error inside a
    block, a MySQL deadlock. -/
structure Told (α : Type) where
  act : α
  broke : Bool

def endsTransaction : Sent → Bool
  | .simpleQuery sql => sql == "COMMIT" || sql == "ROLLBACK"
  | _ => false

/-- The failed transactions after the writes of a step. -/
def failedAfter (writes : List (Conn × Sent)) (broke : Bool) (failed : Conn → Bool) : Conn → Bool :=
  fun conn =>
    match (writes.filter fun w => w.1 == conn).getLast? with
    | none => failed conn
    | some w => !endsTransaction w.2 && (failed conn || broke)

def watch {α : Type} (step : Client → α → List (Conn × Sent) × Client) (w : Watched) (t : Told α) :
    List (Conn × Sent) × Watched :=
  ((step w.client t.act).1, ⟨(step w.client t.act).2, failedAfter (step w.client t.act).1 t.broke w.failed⟩)

def Watched.start (session : SessionState) (endpoints : List EndpointConfig) : Watched :=
  ⟨Client.start session endpoints, fun _ => false⟩

/-! ## The acknowledgement -/

/-- `CommandComplete` with the tag COMMIT. -/
def commitTag : List UInt8 := Frontend.encodeMessage 67 [67, 79, 77, 77, 73, 84, 0]

/-- The client is told that its COMMIT went through: the tag COMMIT, or a MySQL OK. -/
def tellsCommit : Except GatewayError Outcome → Bool
  | .ok (.complete (.commandComplete tag)) => tag == "COMMIT"
  | .ok (.complete (.ok _ _)) => true
  | .ok (.complete (.wire packets)) => packets.contains commitTag
  | _ => false

/-- The statements of the transaction that were sent to a backend. -/
def statementsOf (txn : Option (List (Conn × Sent))) : List (Conn × Sent) :=
  (txn.getD []).filter fun w => w.2 != .simpleQuery "BEGIN"

/-- COMMIT was processed: there is nothing to commit, or the connection with the statements got it unfailed. -/
def Processed (statements writes : List (Conn × Sent)) (failed : Conn → Bool) : Prop :=
  statements = [] ∨
    ∃ conn, (∀ w ∈ statements, w.1 = conn) ∧ (conn, .simpleQuery "COMMIT") ∈ writes ∧
      failed conn = false

/-- **COMMIT is acknowledged only when committed**, for a step of a run; `commitOf` is the outcome of the
    step if it is a COMMIT. -/
def CommitTruthful {α : Type} (commitOf : Client → α → Option (Except GatewayError Outcome))
    (e : Entry Watched (Told α) (List (Conn × Sent))) : Prop :=
  ∀ outcome, commitOf e.pre.client e.act.act = some outcome → tellsCommit outcome = true →
    Processed (statementsOf e.pre.client.txn) e.out e.pre.failed

/-- The condition on a step: it is smooth, and a COMMIT does not come after the server has given up the
    transaction. -/
structure Careful {α : Type} (smooth : Client → α → Prop)
    (commitOf : Client → α → Option (Except GatewayError Outcome)) (w : Watched) (t : Told α) : Prop where
  smooth : smooth w.client t.act
  unbroken : (commitOf w.client t.act).isSome → ∀ x ∈ statementsOf w.client.txn, w.failed x.1 = false

/-- What a connector owes for this: an invariant of its smooth steps under which COMMIT is sent to the
    connection of every write. -/
structure SendsCommit {α : Type} (step : Client → α → List (Conn × Sent) × Client)
    (smooth : Client → α → Prop)
    (commitOf : Client → α → Option (Except GatewayError Outcome)) (Inv : Client → Prop) : Prop where
  keeps : ∀ s a, Inv s → smooth s a → Inv (step s a).2
  sends : ∀ s a outcome ws, Inv s → smooth s a → commitOf s a = some outcome → s.txn = some ws →
    ∀ w ∈ ws, (step s a).1 = [(w.1, .simpleQuery "COMMIT")]

theorem mem_of_statementsOf {txn : Option (List (Conn × Sent))} {x : Conn × Sent}
    (h : x ∈ statementsOf txn) : ∃ ws, txn = some ws ∧ x ∈ ws := by
  cases txn with
  | none => cases h
  | some ws => exact ⟨ws, rfl, (List.mem_filter.mp h).1⟩

section Runs

variable {α : Type} {step : Client → α → List (Conn × Sent) × Client} {smooth : Client → α → Prop}
variable {commitOf : Client → α → Option (Except GatewayError Outcome)} {Inv : Client → Prop}

variable {w : Watched}

theorem processed_of_careful (h : SendsCommit step smooth commitOf Inv) {t : Told α} (hinv : Inv w.client)
    (hok : Careful smooth commitOf w t) {outcome : Except GatewayError Outcome}
    (hcommit : commitOf w.client t.act = some outcome) :
    Processed (statementsOf w.client.txn) (watch step w t).1 w.failed := by
  cases hst : statementsOf w.client.txn with
  | nil => exact .inl rfl
  | cons x rest =>
    have hx : x ∈ statementsOf w.client.txn := by
      rw [hst]
      exact List.mem_cons_self
    obtain ⟨ws, hws, hmem⟩ := mem_of_statementsOf hx
    have hsent := h.sends w.client t.act outcome ws hinv hok.smooth hcommit hws
    refine .inr ⟨x.1, ?_, ?_, ?_⟩
    · intro y hy
      rw [← hst] at hy
      obtain ⟨ws', hws', hy⟩ := mem_of_statementsOf hy
      rw [hws] at hws'
      obtain rfl := Option.some.inj hws'
      -- the one write of the step names both connections
      have hboth := (hsent x hmem).symm.trans (hsent y hy)
      rw [List.cons.injEq, Prod.mk.injEq] at hboth
      exact hboth.1.1.symm
    · show (x.1, Sent.simpleQuery "COMMIT") ∈ (step w.client t.act).1
      rw [hsent x hmem]
      exact List.mem_cons_self
    · refine hok.unbroken ?_ x hx
      rw [hcommit]
      rfl

theorem commitTruthful_of_careful (h : SendsCommit step smooth commitOf Inv) (hinv : Inv w.client)
    {acts : List (Told α)} (hok : Meets (watch step) (Careful smooth commitOf) w acts) :
    ∀ e ∈ entries (watch step) w acts, CommitTruthful commitOf e := by
  intro e he outcome hcommit _
  have hkeep : ∀ (w : Watched) (t : Told α), Inv w.client → Careful smooth commitOf w t →
      Inv (watch step w t).2.client :=
    fun w t hw ht => h.keeps w.client t.act hw ht.smooth
  have hpre := (inv_of_mem_entries (fun w => Inv w.client) hkeep hinv hok he).1
  have hprocessed := processed_of_careful h hpre (hok e he) hcommit
  rw [(entry_eq he).1]
  exact hprocessed

end Runs

/-! ## The two connectors -/

/-- The outcome of a COMMIT over the PostgreSQL connector. -/
def commitOf (s : Client) : Act → Option (Except GatewayError Outcome)
  | .command r =>
    if r.command = .commit then
      some (executeOutcome s.connector r.command (r.session s) r.mode r.io).1
    else none
  | _ => none

theorem sendsCommit : SendsCommit step Smooth commitOf Single := by
  refine ⟨single_step, ?_⟩
  intro s a outcome ws hs hok hcommit hws w hw
  cases a with
  | command r =>
    have hc : r.command = .commit := by
      by_contra hne
      unfold commitOf at hcommit
      dsimp only at hcommit
      rw [if_neg hne] at hcommit
      cases hcommit
    have hone := onOneConnection_of_single hs hok (single_step s (.command r) hs hok)
    refine hone.finish r "COMMIT" ws rfl ?_ hws w hw
    rw [hc]
    rfl
  | producerDone i => cases hcommit
  | fetch alive after => cases hcommit

namespace MySql

/-- The outcome of a COMMIT over the MySQL connector. -/
def commitOf (s : Client) : Act → Option (Except GatewayError Outcome)
  | .command r => if r.command = .commit then some (r.run s).1 else none
  | _ => none

theorem sendsCommit : SendsCommit step Smooth commitOf Single := by
  refine ⟨single_step, ?_⟩
  intro s a outcome ws hs hok hcommit hws w hw
  cases a with
  | command r =>
    have hc : r.command = .commit := by
      by_contra hne
      unfold commitOf at hcommit
      dsimp only at hcommit
      rw [if_neg hne] at hcommit
      cases hcommit
    refine finish_sent hs hok ?_ hws hw
    rw [hc]
    rfl
  | producerDone i => cases hcommit
  | cursorError => cases hcommit

end MySql

/-- A MySQL request in which everything works; `header` answers a statement. -/
def MySql.request (command : GatewayCommand) (header : MySql.Header) : MySql.Request where
  command := command
  mode := .materialized
  backendEndpoint := none
  io := .works header

/-- BEGIN, an insert, a second statement answered by `header`, COMMIT. -/
def mySqlTransaction (header : MySql.Header) : List (Told MySql.Act) :=
  [⟨.command (MySql.request .begin .empty), false⟩,
   ⟨.command (MySql.request (.query "insert into t values (1)") (.ok (.ok (.ok 1 none)))), false⟩,
   ⟨.command (MySql.request (.query "insert into t values (2)") header), false⟩,
   ⟨.command (MySql.request .commit .empty), false⟩]

/-- The streamed transaction, whose second statement gives `start` and may break the transaction. -/
def postgreSqlTransaction (start : Except GatewayError (List Stream.SimpleItem)) (broke : Bool) : List (Told Act) :=
  [⟨.command (request .begin .materialized), false⟩,
   ⟨.command (request (.query "insert into t values (1)") .materialized), false⟩,
   ⟨.command { request (.query "insert into t values (2)") .materialized with
      io := { CallIo.works with pool := { PoolIo.works with start := start, blockAfter := true } } },
    broke⟩,
   ⟨.command (request .commit .materialized), false⟩]

theorem postgreSqlTransaction_careful :
    Meets (watch step) (Careful Smooth commitOf) (Watched.start .default [primary])
      (postgreSqlTransaction (.ok []) false) := by
  have hsteady : PoolSteady (request .begin .materialized).io.pool := ⟨rfl, ⟨_, rfl, rfl⟩, ⟨_, rfl⟩⟩
  have hnone : ∀ {c : Connector}, c.producers = [] → NoLeaseProducer c := by
    intro c h p hp
    rw [h] at hp
    cases hp
  refine meets_cons ?_ (meets_cons ?_ (meets_cons ?_ (meets_cons ?_ meets_nil)))
  · exact ⟨⟨nofun, nofun, nofun, nofun, nofun, nofun⟩, nofun⟩
  · exact ⟨⟨fun _ _ => ⟨hnone rfl, rfl, rfl, hsteady⟩, nofun, nofun, nofun, nofun, nofun⟩, nofun⟩
  · exact ⟨⟨fun _ _ => ⟨hnone rfl, rfl, rfl, hsteady⟩, nofun, nofun, nofun, nofun, nofun⟩, nofun⟩
  · refine ⟨⟨nofun, nofun, nofun, nofun, fun _ _ => ⟨hnone rfl, rfl, rfl⟩, nofun⟩, ?_⟩
    intro _
    decide

theorem mySqlTransaction_careful :
    Meets (watch MySql.step) (Careful MySql.Smooth MySql.commitOf) (Watched.start .default [primary])
      (mySqlTransaction (.ok (.ok (.ok 1 none)))) := by
  have hsteady : MySql.Steady (MySql.request .begin (.ok (.ok (.ok 1 none)))).io.statement :=
    ⟨rfl, ⟨_, rfl, rfl⟩, rfl, rfl⟩
  have hnone : ∀ {c : Connector}, c.producers = [] → NoLeaseProducer c := by
    intro c h p hp
    rw [h] at hp
    cases hp
  refine meets_cons ?_ (meets_cons ?_ (meets_cons ?_ (meets_cons ?_ meets_nil)))
  · exact ⟨⟨nofun, nofun, nofun⟩, nofun⟩
  · exact ⟨⟨fun _ _ => ⟨hnone rfl, rfl, hsteady⟩, nofun, nofun⟩, nofun⟩
  · exact ⟨⟨fun _ _ => ⟨hnone rfl, rfl, hsteady⟩, nofun, nofun⟩, nofun⟩
  · refine ⟨⟨nofun, nofun, fun _ _ => ⟨hnone rfl, rfl⟩⟩, ?_⟩
    intro _
    decide

/-- A step of a run that acknowledges a COMMIT which was not processed. -/
def FalseCommit {α : Type} (step : Client → α → List (Conn × Sent) × Client)
    (commitOf : Client → α → Option (Except GatewayError Outcome)) (acts : List (Told α)) : Prop :=
  ∃ e ∈ entries (watch step) (Watched.start .default [primary]) acts, ¬CommitTruthful commitOf e

end DataNexus.Backend
