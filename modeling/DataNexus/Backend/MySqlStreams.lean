/-
  What becomes of a MySQL connection on which a statement is streamed (`backend/mysql.rs`).

  1. **Program** — the functions of `Backend/MySql`, with header and rows read from the packets of a `Response`; `wires`
     has what is unread on every connection.  The producer of a statement has ended when the next command starts.

  2. **Specification** — `Handled`: an unreadable response is an error to the client, what goes to the pool has nothing
     unread and no open transaction, and a transaction finds its connection in the lease, with nothing unread.

  3. **The condition** — `Condition`, exact for every statement of every run (`streams_clean_iff`).
-/
import DataNexus.Backend.MySqlResponse
import DataNexus.Backend.MySqlSession

namespace DataNexus.MySqlStreams

open DataNexus.Stream DataNexus.Run DataNexus.Backend DataNexus.MySqlResponse
open DataNexus.Backend.MySql (Header StatementIo ControlIo losesSimple losesBinary)

/-! ## Statements -/

/-- A connector with what is unread on its connections. -/
structure State where
  connector : Connector
  wires : Conn → Wire

/-- A statement for one of the two streaming functions; without parameters it is a simple query. -/
structure Statement where
  endpoint : EndpointConfig
  session : SessionState
  mode : ExecuteMode
  sql : String
  parameters : Option (List GatewayValue)
  io : StatementIo
  response : Response
  /-- The windows after which the receiver is gone, if it goes. -/
  heard : Option Nat

namespace Statement

variable (st : Statement)

/-- The statement runs over the binary protocol. -/
def binary : Bool := st.parameters.any (!·.isEmpty)

def execute (c : Connector) (io : StatementIo) : Except GatewayError Outcome × Connector :=
  match st.parameters with
  | none => MySql.executeSimpleQueryStreaming c st.endpoint st.sql st.session st.mode (c.leasing st.session) io
  | some parameters =>
    MySql.executeParamQueryStreaming c st.endpoint st.sql parameters st.session st.mode (c.leasing st.session) io

def lease (c : Connector) : Lease × Connector :=
  match st.parameters.bind (MySql.arityError st.sql) with
  | some e => (.failed e, c)
  | none => MySql.connForStatement c (c.leasing st.session) st.endpoint st.session st.io

/-- What is checked before the statement is sent. -/
def ready : Except GatewayError Unit :=
  if st.binary then MySql.preparePayload (st.parameters.getD []) st.io
  else if st.io.clientOpen then .ok () else .error MySql.notOpen

def row (d : Decoders) (definitions : List Packet) : Packet → Except GatewayError Row :=
  rowDecoder d st.binary (definitions.map fun p => (d.column p).1)

/-- The opening part of the response, read from the connection. -/
def opening (d : Decoders) (w : Wire) : Opening × Wire :=
  readOpening d (if st.binary then "binary query" else "query") (w.answered st.response)

/-- The header of the response, with the rows that the producer will see. -/
def header (d : Decoders) (w : Wire) : Header :=
  match st.opening d w with
  | (.header h, _) => h
  | (.columns definitions, w) =>
    .columns (definitions.map fun p => (d.column p).2) (items (st.row d definitions) w.last w.state w.packets)

/-- The connection when the call and its producer have ended.  A failed send drops the socket. -/
def wireAfter (d : Decoders) (w : Wire) : Wire :=
  match st.ready, st.io.send with
  | .error _, _ => w
  | .ok (), .error _ => ⟨.complete, [], .closed, true⟩
  | .ok (), .ok () =>
    match st.opening d w with
    | (.header _, w) => w
    | (.columns definitions, w) =>
      (producer (st.row d definitions) w.last (windowOf st.mode) (maxRowsOf st.mode) w.state w.packets [] 0 false
        st.heard).wire

def run (d : Decoders) (s : State) : Except GatewayError Outcome × State :=
  match (st.lease s.connector).1 with
  | .on conn =>
    let out := st.execute s.connector { st.io with header := st.header d (s.wires conn) }
    (out.1, ⟨producerDone out.2 0, Function.update s.wires conn (st.wireAfter d (s.wires conn))⟩)
  | _ => ((st.execute s.connector st.io).1, ⟨producerDone (st.execute s.connector st.io).2 0, s.wires⟩)

end Statement

inductive Act where
  | statement (st : Statement)
  /-- COMMIT or ROLLBACK; its response is read whole. -/
  | finish (sql : String) (io : ControlIo)

/-- One step; the answer is what the frontend gets. -/
def step (d : Decoders) (s : State) : Act → Except GatewayError Outcome × State
  | .statement st => st.run d s
  | .finish sql io =>
    ((MySql.finishTransaction s.connector sql io).1.map .complete, { s with connector := (MySql.finishTransaction s.connector sql io).2 })

def State.start (endpoints : List EndpointConfig) : State := ⟨Connector.withEndpoints endpoints, fun _ => .fresh⟩

/-! ## Specification -/

def IsError (answer : Except GatewayError Outcome) : Prop :=
  (∃ e, answer = .error e) ∨ ∃ code message, answer = .ok (.complete (.error code message))

/-- The statement was sent on a connection that is alive. -/
structure Statement.Sent (st : Statement) (w : Wire) : Prop where
  ready : st.ready = .ok ()
  send : st.io.send = .ok ()
  alive : w.dead = false

def Statement.stop (d : Decoders) (st : Statement) : Option Nat :=
  st.response.stop (st.row d st.response.definitions) (windowOf st.mode) (maxRowsOf st.mode) st.heard

/-- The response is there: an OK, or a whole result set. -/
def Statement.Answered (d : Decoders) (st : Statement) (w : Wire) : Prop :=
  st.Sent w ∧
    ((0 < st.response.arrived ∧ ∃ response, headerOf d st.response.head = .ok (.ok response)) ∨
      st.response.isResultSet = true ∧ st.response.WholeRows (st.stop d))

/-- Nothing is unread on a connection in the pool, and it is outside a transaction. -/
structure Clean (s : State) (conn : Conn) : Prop where
  read : (s.wires conn).packets = []
  free : (s.wires conn).dead = true ∨ s.connector.inBlock conn = false

/-- What is asked of a statement on this connection. -/
structure Handled (d : Decoders) (s : State) (st : Statement) (conn : Conn) : Prop where
  /-- Nothing of an earlier response is unread. -/
  used : (s.wires conn).packets = []
  /-- A failure is an error to the client, while it listens. -/
  honest : st.heard = none → ¬ st.Answered d (s.wires conn) → IsError (st.run d s).1
  /-- What goes to the pool is clean. -/
  pooled : conn ∈ (st.run d s).2.connector.pool → Clean (st.run d s).2 conn
  /-- What goes to the lease is read. -/
  leased : (st.run d s).2.connector.txnLease = some conn → ((st.run d s).2.wires conn).packets = []
  /-- A transaction finds its connection again. -/
  kept : s.connector.leasing st.session = true → (st.run d s).2.connector.txnLease = some conn

def Sound (d : Decoders) (s : State) : Act → Prop
  | .statement st => ∀ conn, (st.lease s.connector).1 = .on conn → Handled d s st conn
  | .finish sql io => ∀ conn, s.connector.txnLease = some conn →
    (s.wires conn).packets = [] ∧
      (conn ∈ (step d s (.finish sql io)).2.connector.pool → Clean (step d s (.finish sql io)).2 conn)

/-! ## The condition -/

/-- The statement leaves through an exit that drops its connection. -/
def Statement.Loses (d : Decoders) (st : Statement) (w : Wire) : Prop :=
  if st.binary then
    st.Sent w ∧ 0 < st.response.arrived ∧ st.response.isResultSet = false ∧ losesBinary (headerOf d st.response.head)
  else
    ¬ st.Sent w ∨ st.response.arrived = 0 ∨
      st.response.isResultSet = true ∧ st.response.arrived < st.response.definitions.length + 2 ∨
      st.response.isResultSet = false ∧ losesSimple (headerOf d st.response.head)

/-- When a statement is handled as it should be. -/
structure Condition (d : Decoders) (st : Statement) (inTransaction : Bool) (w : Wire) : Prop where
  /-- No exit drops the connection of a transaction. -/
  keeps : inTransaction = true → ¬ st.Loses d w
  /-- Nothing arrives behind the place where the reader stops. -/
  read : st.Sent w → st.response.behind (st.stop d) = []
  /-- Outside a transaction the statement opens none. -/
  free : inTransaction = false → st.Sent w → st.io.blockAfter = false ∨ st.response.endsWaiting (st.stop d)
  /-- Rows that are streamed are whole. -/
  whole : st.heard = none → st.Sent w → st.response.isResultSet = true →
    st.response.definitions.length + 2 ≤ st.response.arrived → st.response.WholeRows (st.stop d)

def Meets (d : Decoders) (s : State) : Act → Prop
  | .statement st => ∀ conn, (st.lease s.connector).1 = .on conn →
    Condition d st (s.connector.leasing st.session) (s.wires conn)
  | .finish _ io => ∀ conn, s.connector.txnLease = some conn →
    io.clientOpen = true ∨ (s.wires conn).dead = true ∨ s.connector.inBlock conn = false

/-! ## The invariant -/

def placed (c : Connector) (hand : List Conn) : List Conn := hand ++ c.txnLease.toList ++ c.pool

/-- Every connection is in one place, one for each key; nothing is unread on those in a place, and those in the pool are
    outside a transaction. -/
structure Orderly (wires : Conn → Wire) (c : Connector) (hand : List Conn) : Prop where
  keys : ((placed c hand).map (·.key)).Nodup
  size : 0 < c.poolSize
  idle : c.producers = []
  known : ∀ conn ∈ placed c hand, conn.serial < c.nextSerial
  fresh : ∀ conn, c.nextSerial ≤ conn.serial → wires conn = .fresh ∧ c.inBlock conn = false
  read : ∀ conn ∈ placed c hand, (wires conn).packets = []
  free : ∀ conn ∈ c.pool, (wires conn).dead = true ∨ c.inBlock conn = false

theorem orderly_start (endpoints : List EndpointConfig) :
    Orderly (State.start endpoints).wires (State.start endpoints).connector [] := by
  refine ⟨List.nodup_nil, ?_, rfl, nofun, fun _ _ => ⟨rfl, rfl⟩, nofun, nofun⟩
  show 0 < 16
  decide

section Moves

variable {wires : Conn → Wire} {c : Connector} {conn : Conn}

theorem Orderly.mem_hand (_ : Orderly wires c [conn]) : conn ∈ placed c [conn] := List.mem_append_left _ List.mem_cons_self

theorem Orderly.key_notMem (h : Orderly wires c [conn]) : conn.key ∉ (c.txnLease.toList ++ c.pool).map (·.key) := by
  have hkeys := h.keys
  unfold placed at hkeys
  rw [List.append_assoc, List.singleton_append, List.map_cons, List.nodup_cons] at hkeys
  exact hkeys.1

theorem Orderly.putConn_eq (h : Orderly wires c [conn]) : c.putConn conn = { c with pool := c.pool ++ [conn] } := by
  have hnone : c.pool.filter (·.key == conn.key) = [] := by
    rw [List.filter_eq_nil_iff]
    intro other hother heq
    refine h.key_notMem (List.mem_map.mpr ⟨other, List.mem_append_right _ hother, eq_of_beq heq⟩)
  unfold Connector.putConn
  rw [hnone]
  exact if_pos h.size

variable {w : Wire}

theorem Orderly.settle (h : Orderly wires c [conn]) (hread : w.packets = []) {c' : Connector}
    (hplaced : (placed c' []).Perm (placed c [conn])) (hsize : c'.poolSize = c.poolSize)
    (hidle : c'.producers = []) (hserial : c'.nextSerial = c.nextSerial) (hblock : c'.inBlock = c.inBlock)
    (hpool : ∀ x ∈ c'.pool, x = conn ∧ (w.dead = true ∨ c.inBlock conn = false) ∨ x ≠ conn ∧ x ∈ c.pool) :
    Orderly (Function.update wires conn w) c' [] := by
  refine ⟨?_, ?_, hidle, ?_, ?_, ?_, ?_⟩
  · exact (hplaced.map _).nodup_iff.mpr h.keys
  · rw [hsize]
    exact h.size
  · intro x hx
    rw [hserial]
    exact h.known x (hplaced.mem_iff.mp hx)
  · intro x hx
    rw [hserial] at hx
    have hne : x ≠ conn := by
      rintro rfl
      exact Nat.not_lt.mpr hx (h.known x h.mem_hand)
    rw [Function.update_of_ne hne, hblock]
    exact h.fresh x hx
  · intro x hx
    by_cases heq : x = conn
    · rw [heq, Function.update_self]
      exact hread
    · rw [Function.update_of_ne heq]
      exact h.read x (hplaced.mem_iff.mp hx)
  · intro x hx
    rw [hblock]
    rcases hpool x hx with ⟨rfl, hfree⟩ | ⟨hne, hmem⟩
    · rw [Function.update_self]
      exact hfree
    · rw [Function.update_of_ne hne]
      exact h.free x hmem

theorem Orderly.put (h : Orderly wires c [conn]) (hread : w.packets = [])
    (hfree : w.dead = true ∨ c.inBlock conn = false) :
    Orderly (Function.update wires conn w) (c.putConn conn) [] := by
  rw [h.putConn_eq]
  refine h.settle hread ?_ rfl h.idle rfl rfl ?_
  · unfold placed
    rw [List.nil_append, ← List.append_assoc]
    exact List.perm_append_singleton ..
  · intro x hx
    rcases List.mem_append.mp hx with hmem | hmem
    · refine .inr ⟨?_, hmem⟩
      rintro rfl
      exact h.key_notMem (List.mem_map.mpr ⟨x, List.mem_append_right _ hmem, rfl⟩)
    · exact .inl ⟨List.mem_singleton.mp hmem, hfree⟩

theorem Orderly.store (h : Orderly wires c [conn]) (hlease : c.txnLease = none) (hread : w.packets = []) :
    Orderly (Function.update wires conn w) (c.storeLease conn) [] := by
  have hstore : c.storeLease conn = { c with txnLease := some conn } := by
    unfold Connector.storeLease Connector.setLease
    rw [hlease]
  rw [hstore]
  refine h.settle hread ?_ rfl h.idle rfl rfl ?_
  · unfold placed
    rw [hlease]
    exact List.Perm.refl _
  · intro x hx
    refine .inr ⟨?_, hx⟩
    rintro rfl
    exact h.key_notMem (List.mem_map.mpr ⟨x, List.mem_append_right _ hx, rfl⟩)

theorem Orderly.sent (h : Orderly wires c [conn]) (sent : Sent) (after : Bool) :
    Orderly wires (c.send conn sent after) [conn] := by
  have hother : ∀ x, x ≠ conn → (c.send conn sent after).inBlock x = c.inBlock x := fun x hne =>
    Function.update_of_ne hne ..
  refine ⟨h.keys, h.size, h.idle, h.known, ?_, h.read, ?_⟩
  · intro x hx
    have hne : x ≠ conn := by
      rintro rfl
      exact Nat.not_lt.mpr hx (h.known x h.mem_hand)
    rw [hother x hne]
    exact h.fresh x hx
  · intro x hx
    have hne : x ≠ conn := by
      rintro rfl
      exact h.key_notMem (List.mem_map.mpr ⟨x, List.mem_append_right _ hx, rfl⟩)
    rw [hother x hne]
    exact h.free x hx

end Moves

/-! ## Taking a connection -/

/-- A connection in the hand, with an empty lease. -/
structure InHand (wires : Conn → Wire) (c : Connector) (conn : Conn) : Prop where
  orderly : Orderly wires c [conn]
  lease : c.txnLease = none

def FreeIn (wires : Conn → Wire) (c : Connector) (conn : Conn) : Prop :=
  (wires conn).dead = true ∨ c.inBlock conn = false

variable {c c₁ : Connector} {st : Statement} {inTransaction : Bool} {w : Wire} {d : Decoders} {s : State}

theorem buildConn_cases {wires : Conn → Wire} (h : Orderly wires c []) (hlease : c.txnLease = none)
    {key : String} (hkey : key ∉ c.pool.map (·.key)) (io : AcquireIo) : (∃ e, c.buildConn key io = (.error e, c)) ∨
      ∃ conn c₁, c.buildConn key io = (.ok conn, c₁) ∧ InHand wires c₁ conn ∧ FreeIn wires c₁ conn := by
  unfold Connector.buildConn
  cases io.build with
  | error e => exact .inl ⟨e, rfl⟩
  | ok u =>
    refine .inr ⟨⟨key, c.nextSerial⟩, { c with nextSerial := c.nextSerial + 1 }, rfl, ⟨?_, hlease⟩, ?_⟩
    · have hnew := h.fresh ⟨key, c.nextSerial⟩ (Nat.le_refl _)
      have hold : placed { c with nextSerial := c.nextSerial + 1 } [⟨key, c.nextSerial⟩] =
          ⟨key, c.nextSerial⟩ :: placed c [] := rfl
      refine ⟨?_, h.size, h.idle, ?_, ?_, ?_, h.free⟩
      · have hkeys := h.keys
        have hnil : placed c [] = c.pool := by
          unfold placed
          rw [hlease]
          rfl
        rw [hnil] at hkeys
        rw [hold, hnil, List.map_cons, List.nodup_cons]
        exact ⟨hkey, hkeys⟩
      · intro x hx
        rw [hold] at hx
        rcases List.mem_cons.mp hx with rfl | hx
        · exact Nat.lt_succ_self _
        · exact Nat.lt_succ_of_lt (h.known x hx)
      · intro x hx
        exact h.fresh x (Nat.le_of_succ_le hx)
      · intro x hx
        rw [hold] at hx
        rcases List.mem_cons.mp hx with rfl | hx
        · rw [hnew.1]
          rfl
        · exact h.read x hx
    · exact .inr (h.fresh ⟨key, c.nextSerial⟩ (Nat.le_refl _)).2

theorem Orderly.popped {wires : Conn → Wire} {conn : Conn} (h : Orderly wires c []) (hmem : conn ∈ c.pool) :
    Orderly wires { c with pool := c.pool.erase conn } [conn] ∧ Orderly wires { c with pool := c.pool.erase conn } [] := by
  have hperm : (placed { c with pool := c.pool.erase conn } [conn]).Perm (placed c []) := by
    unfold placed
    have herase := (List.perm_cons_erase hmem).symm
    rw [List.append_assoc, List.singleton_append, List.nil_append]
    exact List.perm_middle.symm.trans (herase.append_left _)
  have hsub : ∀ x ∈ placed { c with pool := c.pool.erase conn } [], x ∈ placed c [] := by
    intro x hx
    refine hperm.mem_iff.mp ?_
    unfold placed at hx ⊢
    rw [List.nil_append] at hx
    rw [List.append_assoc]
    exact List.mem_append_right _ hx
  constructor
  · refine ⟨(hperm.map _).nodup_iff.mpr h.keys, h.size, h.idle, ?_, h.fresh, ?_, ?_⟩
    · exact fun x hx => h.known x (hperm.mem_iff.mp hx)
    · exact fun x hx => h.read x (hperm.mem_iff.mp hx)
    · exact fun x hx => h.free x (List.mem_of_mem_erase hx)
  · refine ⟨?_, h.size, h.idle, fun x hx => h.known x (hsub x hx), h.fresh, fun x hx => h.read x (hsub x hx), ?_⟩
    · have hall := (hperm.map (·.key)).nodup_iff.mpr h.keys
      unfold placed at hall ⊢
      rw [List.append_assoc, List.singleton_append, List.map_cons, List.nodup_cons] at hall
      exact hall.2
    · exact fun x hx => h.free x (List.mem_of_mem_erase hx)

theorem acquireConn_cases {wires : Conn → Wire} (h : Orderly wires c []) (hlease : c.txnLease = none)
    (endpoint : EndpointConfig) (session : SessionState) (io : AcquireIo) :
    (∃ e c₁, MySql.acquireConn c endpoint session io = (.error e, c₁) ∧ Orderly wires c₁ []) ∨
      ∃ conn c₁, MySql.acquireConn c endpoint session io = (.ok conn, c₁) ∧ InHand wires c₁ conn ∧ FreeIn wires c₁ conn := by
  unfold MySql.acquireConn
  cases io.address with
  | error e => exact .inl ⟨e, c, rfl, h⟩
  | ok u =>
    dsimp only
    cases hfind : c.pool.find? (·.key == MySql.mysqlPoolKey endpoint (MySql.effectiveDatabase endpoint session)) with
    | none =>
      have hkey : MySql.mysqlPoolKey endpoint (MySql.effectiveDatabase endpoint session) ∉ c.pool.map (·.key) := by
        intro hmem
        obtain ⟨other, hother, heq⟩ := List.mem_map.mp hmem
        exact List.find?_eq_none.mp hfind other hother (beq_iff_eq.mpr heq)
      rcases buildConn_cases h hlease hkey io with ⟨e, he⟩ | ⟨conn, c₁, hbuild, hhand⟩
      · exact .inl ⟨e, c, he, h⟩
      · exact .inr ⟨conn, c₁, hbuild, hhand⟩
    | some conn =>
      have hmem : conn ∈ c.pool := List.mem_of_find?_eq_some hfind
      have hkey : conn.key = MySql.mysqlPoolKey endpoint (MySql.effectiveDatabase endpoint session) :=
        beq_iff_eq.mp (List.find?_some (p := fun x : Conn => x.key == MySql.mysqlPoolKey endpoint (MySql.effectiveDatabase endpoint session))
          hfind)
      obtain ⟨hin, hout⟩ := h.popped hmem
      dsimp only
      by_cases hping : io.pingOk = true
      · rw [if_pos hping]
        exact .inr ⟨conn, _, rfl, ⟨hin, hlease⟩, h.free conn hmem⟩
      · rw [if_neg hping]
        have hgone : MySql.mysqlPoolKey endpoint (MySql.effectiveDatabase endpoint session) ∉
            (c.pool.erase conn).map (·.key) := by
          intro hmem'
          rw [← hkey] at hmem'
          have hnot := hin.key_notMem
          rw [hlease] at hnot
          exact hnot hmem'
        rcases buildConn_cases hout hlease hgone io with ⟨e, he⟩ | ⟨conn', c₁, hbuild, hhand⟩
        · exact .inl ⟨e, _, he, hout⟩
        · exact .inr ⟨conn', c₁, hbuild, hhand⟩

theorem Orderly.taken {wires : Conn → Wire} {conn : Conn} (h : Orderly wires c [])
    (hlease : c.txnLease = some conn) : InHand wires { c with txnLease := none } conn := by
  have hplaced : placed { c with txnLease := none } [conn] = placed c [] := by
    unfold placed
    rw [hlease]
    rfl
  refine ⟨⟨?_, h.size, h.idle, ?_, h.fresh, ?_, h.free⟩, rfl⟩
  · rw [hplaced]
    exact h.keys
  · rw [hplaced]
    exact h.known
  · rw [hplaced]
    exact h.read

theorem Orderly.dropped {wires : Conn → Wire} {conn : Conn} (h : Orderly wires c [conn])
    (hfree : FreeIn wires c conn) : Orderly wires (c.putConn conn) [] := by
  have hput := h.put (h.read conn h.mem_hand) hfree
  rw [Function.update_eq_self] at hput
  exact hput

theorem Orderly.stored {wires : Conn → Wire} {conn : Conn} (h : Orderly wires c [conn])
    (hlease : c.txnLease = none) : Orderly wires (c.storeLease conn) [] := by
  have hstore := h.store hlease (h.read conn h.mem_hand)
  rw [Function.update_eq_self] at hstore
  exact hstore

theorem begin_cases {wires : Conn → Wire} (h : Orderly wires c []) (hlease : c.txnLease = none)
    (endpoint : EndpointConfig) (session : SessionState) (io : StatementIo) :
    (∃ conn c₁, MySql.leaseForStatement c endpoint session io = (.on conn, c₁) ∧ InHand wires c₁ conn) ∨
      (∀ conn, (MySql.leaseForStatement c endpoint session io).1 ≠ .on conn) ∧
        Orderly wires (MySql.leaseForStatement c endpoint session io).2 [] := by
  unfold MySql.leaseForStatement MySql.takeOrAcquireLease
  rw [hlease]
  dsimp only
  rcases acquireConn_cases h hlease endpoint session io.acquire with
    ⟨e, c₁, hget, hkeep⟩ | ⟨conn, c₁, hget, hhand, hfree⟩
  · rw [hget]
    exact .inr ⟨nofun, hkeep⟩
  · rw [hget]
    dsimp only
    rw [if_pos Option.isNone_none]
    unfold MySql.executeOnConn
    by_cases hopen : io.clientOpen = true
    · rw [if_pos hopen]
      have hsent := hhand.orderly.sent (.simpleQuery "BEGIN") (succeeded io.begin || c₁.inBlock conn)
      cases hbegin : io.begin with
      | error e =>
        rw [hbegin] at hsent
        refine .inr ⟨nofun, hsent.dropped ?_⟩
        rcases hfree with hdead | hout
        · exact .inl hdead
        · refine .inr ?_
          show Function.update c₁.inBlock conn _ conn = false
          rw [Function.update_self, hout]
          rfl
      | ok response =>
        rw [hbegin] at hsent
        dsimp only
        by_cases hok : isOkResponse response = true
        · rw [if_pos hok]
          exact .inl ⟨conn, _, rfl, hsent, hhand.lease⟩
        · rw [if_neg hok]
          exact .inr ⟨nofun, hsent.stored hhand.lease⟩
    · rw [if_neg hopen]
      exact .inr ⟨nofun, hhand.orderly.dropped hfree⟩

/-- The opening lines of a statement: it fails or is answered already, or has a connection, outside a transaction a free
    one. -/
theorem lease_cases {wires : Conn → Wire} (h : Orderly wires c []) (st : Statement) :
    (∃ conn c₁, st.lease c = (.on conn, c₁) ∧ InHand wires c₁ conn ∧
        (c.leasing st.session = false → FreeIn wires c₁ conn)) ∨
      (∀ conn, (st.lease c).1 ≠ .on conn) ∧ Orderly wires (st.lease c).2 [] := by
  unfold Statement.lease
  cases st.parameters.bind (MySql.arityError st.sql) with
  | some e => exact .inr ⟨nofun, h⟩
  | none =>
    dsimp only
    unfold MySql.connForStatement
    cases htxn : c.leasing st.session with
    | true =>
      rw [if_pos rfl]
      cases hlease : c.txnLease with
      | none =>
        rcases begin_cases h hlease st.endpoint st.session st.io with ⟨conn, c₁, hget, hhand⟩ | hnone
        · exact .inl ⟨conn, c₁, hget, hhand, nofun⟩
        · exact .inr hnone
      | some conn =>
        have hget : MySql.leaseForStatement c st.endpoint st.session st.io = (.on conn, { c with txnLease := none }) := by
          unfold MySql.leaseForStatement MySql.takeOrAcquireLease
          rw [hlease]
          rfl
        exact .inl ⟨conn, _, hget, h.taken hlease, nofun⟩
    | false =>
      rw [if_neg Bool.false_ne_true]
      have hlease : c.txnLease = none := by
        unfold Connector.leasing at htxn
        exact Option.isNone_iff_eq_none.mp (by simpa using (Bool.or_eq_false_iff.mp htxn).2)
      rcases acquireConn_cases h hlease st.endpoint st.session st.io.acquire with
        ⟨e, c₁, hget, hkeep⟩ | ⟨conn, c₁, hget, hhand, hfree⟩
      · rw [hget]
        exact .inr ⟨nofun, hkeep⟩
      · rw [hget]
        exact .inl ⟨conn, c₁, rfl, hhand, fun _ => hfree⟩

/-! ## The statement on its connection -/

/-- What was handed to the connection, and its block. -/
structure Wrote (c c' : Connector) (conn : Conn) (block : Bool) : Prop where
  pool : c'.pool = c.pool
  txnLease : c'.txnLease = c.txnLease
  producers : c'.producers = c.producers
  poolSize : c'.poolSize = c.poolSize
  nextSerial : c'.nextSerial = c.nextSerial
  inBlock : c'.inBlock = Function.update c.inBlock conn block

theorem wrote_send (c : Connector) (conn : Conn) (sent : Sent) (after : Bool) :
    Wrote c (c.send conn sent after) conn after := ⟨rfl, rfl, rfl, rfl, rfl, rfl⟩

theorem wrote_sendAll (c : Connector) (conn : Conn) (sent : List Sent) :
    Wrote c (c.sendAll conn sent) conn (c.inBlock conn) :=
  ⟨rfl, rfl, rfl, rfl, rfl, (Function.update_eq_self conn c.inBlock).symm⟩

theorem wrote_nothing (c : Connector) (conn : Conn) : Wrote c c conn (c.inBlock conn) :=
  ⟨rfl, rfl, rfl, rfl, rfl, (Function.update_eq_self conn c.inBlock).symm⟩

/-- An early exit of the statement: the binary path stores the lease first. -/
def Statement.exit (st : Statement) (c : Connector) (inTransaction : Bool) (conn : Conn) : Connector :=
  if st.binary then c.giveBack inTransaction conn else c.putConn conn

/-- The tail of the statement, from the header packet on. -/
def Statement.readHeader (st : Statement) (c : Connector) (conn : Conn) (inTransaction : Bool) (h : Header) :
    Except GatewayError Outcome × Connector :=
  if st.binary then MySql.readBinaryHeader c conn st.mode inTransaction h
  else MySql.readSimpleHeader c conn st.mode inTransaction h

inductive Executes (st : Statement) (c : Connector) (conn : Conn) (inTransaction : Bool) (h : Header)
    (out : Except GatewayError Outcome × Connector) : Prop where
  | unready (e : GatewayError) (c' : Connector) (hready : st.ready = .error e) (hwrote : Wrote c c' conn (c.inBlock conn))
      (heq : out = (.error e, st.exit c' inTransaction conn))
  | unsent (e : GatewayError) (c' : Connector) (hready : st.ready = .ok ()) (hsend : st.io.send = .error e)
      (hwrote : Wrote c c' conn st.io.blockAfter) (heq : out = (.error e, st.exit c' inTransaction conn))
  | sent (c' : Connector) (hready : st.ready = .ok ()) (hsend : st.io.send = .ok ())
      (hwrote : Wrote c c' conn st.io.blockAfter) (heq : out = st.readHeader c' conn inTransaction h)

theorem simple_executes {conn : Conn} (hbinary : st.binary = false)
    (hconn : MySql.connForStatement c inTransaction st.endpoint st.session st.io = (.on conn, c₁)) (h : Header) :
    Executes st c₁ conn inTransaction h
      (MySql.executeSimpleQueryStreaming c st.endpoint st.sql st.session st.mode inTransaction
        { st.io with header := h }) := by
  have hconn' : MySql.connForStatement c inTransaction st.endpoint st.session { st.io with header := h } = (.on conn, c₁) :=
    hconn
  have hready : st.ready = if st.io.clientOpen then .ok () else .error MySql.notOpen := by
    unfold Statement.ready
    rw [hbinary]
    rfl
  unfold MySql.executeSimpleQueryStreaming
  rw [hconn']
  dsimp only
  by_cases hopen : st.io.clientOpen = true
  · rw [if_pos hopen] at hready
    rw [if_neg (by rw [hopen]; decide)]
    cases hsend : st.io.send with
    | error e =>
      refine .unsent e _ hready hsend (wrote_send c₁ conn (.simpleQuery st.sql) st.io.blockAfter) ?_
      unfold Statement.exit
      rw [hbinary]
      rfl
    | ok u =>
      refine .sent _ hready hsend (wrote_send c₁ conn (.simpleQuery st.sql) st.io.blockAfter) ?_
      unfold Statement.readHeader
      rw [hbinary]
      rfl
  · rw [if_neg hopen] at hready
    rw [if_pos (by rw [Bool.eq_false_iff.mpr hopen]; rfl)]
    refine .unready _ _ hready (wrote_nothing c₁ conn) ?_
    unfold Statement.exit
    rw [hbinary]
    rfl

theorem executes {conn : Conn} (hlease : st.lease c = (.on conn, c₁)) (h : Header) :
    Executes st c₁ conn (c.leasing st.session) h (st.execute c { st.io with header := h }) := by
  have harity : st.parameters.bind (MySql.arityError st.sql) = none ∧
      MySql.connForStatement c (c.leasing st.session) st.endpoint st.session st.io = (.on conn, c₁) := by
    unfold Statement.lease at hlease
    cases hbind : st.parameters.bind (MySql.arityError st.sql) with
    | some e =>
      rw [hbind] at hlease
      cases hlease
    | none =>
      rw [hbind] at hlease
      exact ⟨rfl, hlease⟩
  obtain ⟨harity, hconn⟩ := harity
  unfold Statement.execute
  cases hparams : st.parameters with
  | none =>
    have hbinary : st.binary = false := by
      unfold Statement.binary
      rw [hparams]
      rfl
    exact simple_executes hbinary hconn h
  | some parameters =>
    rw [hparams, Option.bind_some] at harity
    dsimp only
    unfold MySql.executeParamQueryStreaming
    rw [harity]
    dsimp only
    by_cases hempty : parameters.isEmpty = true
    · rw [if_pos hempty]
      have hbinary : st.binary = false := by
        unfold Statement.binary
        rw [hparams, Option.any_some, hempty]
        rfl
      exact simple_executes hbinary hconn h
    · rw [if_neg hempty]
      have hbinary : st.binary = true := by
        unfold Statement.binary
        rw [hparams, Option.any_some, Bool.eq_false_iff.mpr hempty]
        rfl
      have hready : st.ready = MySql.preparePayload parameters { st.io with header := h } := by
        unfold Statement.ready
        rw [hbinary, hparams]
        rfl
      have hconn' : MySql.connForStatement c (c.leasing st.session) st.endpoint st.session { st.io with header := h } =
          (.on conn, c₁) := hconn
      rw [hconn', ← hready]
      dsimp only
      cases hpay : st.ready with
      | error e =>
        refine .unready e _ hpay (wrote_sendAll c₁ conn [.prepare st.sql]) ?_
        unfold Statement.exit
        rw [hbinary]
        rfl
      | ok u =>
        dsimp only
        cases hsend : st.io.send with
        | error e =>
          refine .unsent e _ hpay hsend (wrote_send c₁ conn (.bound st.sql parameters) st.io.blockAfter) ?_
          unfold Statement.exit
          rw [hbinary]
          rfl
        | ok u =>
          refine .sent _ hpay hsend (wrote_send c₁ conn (.bound st.sql parameters) st.io.blockAfter) ?_
          unfold Statement.readHeader
          rw [hbinary]
          rfl

theorem InHand.wrote {wires : Conn → Wire} {c' : Connector} {conn : Conn} {block : Bool}
    (h : InHand wires c conn) (hwrote : Wrote c c' conn block) : InHand wires c' conn := by
  have hplaced : placed c' [conn] = placed c [conn] := by
    unfold placed
    rw [hwrote.pool, hwrote.txnLease]
  have hsent := h.orderly.sent (.simpleQuery "") block
  refine ⟨⟨?_, ?_, ?_, ?_, ?_, ?_, ?_⟩, hwrote.txnLease.trans h.lease⟩
  · rw [hplaced]
    exact hsent.keys
  · rw [hwrote.poolSize]
    exact hsent.size
  · rw [hwrote.producers]
    exact hsent.idle
  · rw [hplaced, hwrote.nextSerial]
    exact hsent.known
  · rw [hwrote.nextSerial, hwrote.inBlock]
    exact hsent.fresh
  · rw [hplaced]
    exact hsent.read
  · rw [hwrote.pool, hwrote.inBlock]
    exact hsent.free

/-! ## Where the connection goes -/

/-- The exits of the header that drop the connection of a transaction. -/
def Statement.losesHeader (st : Statement) (h : Header) : Bool := if st.binary then losesBinary h else losesSimple h

def home (c : Connector) (conn : Conn) (toLease : Bool) : Connector := if toLease then c.storeLease conn else c.putConn conn

theorem producerDone_of_idle (h : c.producers = []) : producerDone c 0 = c := by
  unfold producerDone
  rw [h]
  rfl

theorem home_idle {conn : Conn} {toLease : Bool} (h : c.producers = []) : (home c conn toLease).producers = [] := by
  unfold home Connector.storeLease Connector.setLease Connector.putConn
  split
  · split
    · exact h
    · split
      · exact h
      · exact h
  · split
    · exact h
    · exact h

theorem producerDone_spawn (h : c.producers = []) (conn : Conn) (toLease : Bool) :
    producerDone (c.spawnProducer conn toLease) 0 = home c conn toLease := by
  have hsame : { c with producers := [] } = c := by
    cases c
    cases h
    rfl
  unfold producerDone Connector.spawnProducer home Connector.storeLease
  rw [h]
  dsimp only [List.nil_append, List.getElem?_cons_zero, List.eraseIdx_cons_zero]
  rw [hsame]

theorem exit_home (st : Statement) (c : Connector) (inTransaction : Bool) (conn : Conn) :
    st.exit c inTransaction conn = home c conn (inTransaction && st.binary) := by
  unfold Statement.exit Connector.giveBack home
  cases st.binary <;> cases inTransaction <;> rfl

theorem readHeader_home (hidle : c.producers = []) (st : Statement) (conn : Conn) (inTransaction : Bool) (h : Header) :
    producerDone (st.readHeader c conn inTransaction h).2 0 = home c conn (inTransaction && !st.losesHeader h) := by
  have hcolumns : ∀ columns rows, producerDone (MySql.streamRows c conn st.mode inTransaction columns rows).2 0 =
      home c conn inTransaction := fun columns rows => producerDone_spawn hidle conn inTransaction
  have hdone : ∀ b, producerDone (home c conn b) 0 = home c conn b := fun b => producerDone_of_idle (home_idle hidle)
  have hkept : producerDone (c.giveBack inTransaction conn) 0 = home c conn (inTransaction && true) := by
    rw [Bool.and_true]
    exact hdone inTransaction
  have hlost : producerDone (c.putConn conn) 0 = home c conn (inTransaction && false) := by
    rw [Bool.and_false]
    exact hdone false
  unfold Statement.readHeader Statement.losesHeader
  cases st.binary with
  | true =>
    cases h with
    | ok answer =>
      cases answer with
      | error e => exact hlost
      | ok response => exact hkept
    | columns columns rows => exact (hcolumns columns rows).trans (by rw [if_pos rfl]; exact (congrArg _ (Bool.and_true _)).symm)
    | _ => exact hkept
  | false =>
    cases h with
    | ok answer =>
      cases answer with
      | error e => exact hlost
      | ok response => exact hkept
    | columns columns rows =>
      exact (hcolumns columns rows).trans (by rw [if_neg Bool.false_ne_true]; exact (congrArg _ (Bool.and_true _)).symm)
    | unreadable e => exact hlost
    | badCount e => exact hlost
    | badColumns e => exact hlost
    | err code message => exact hkept
    | empty => exact hkept
    | nullCount => exact hkept

theorem isError_readHeader {conn : Conn} {h : Header} (hok : ∀ response, h ≠ .ok (.ok response))
    (hcolumns : ∀ columns rows, h ≠ .columns columns rows) : IsError (st.readHeader c conn inTransaction h).1 := by
  unfold Statement.readHeader
  cases st.binary with
  | true =>
    cases h with
    | ok answer =>
      cases answer with
      | error e => exact .inl ⟨e, rfl⟩
      | ok response => exact absurd rfl (hok response)
    | columns columns rows => exact absurd rfl (hcolumns columns rows)
    | err code message => exact .inr ⟨code, message, rfl⟩
    | _ => exact .inl ⟨_, rfl⟩
  | false =>
    cases h with
    | ok answer =>
      cases answer with
      | error e => exact .inl ⟨e, rfl⟩
      | ok response => exact absurd rfl (hok response)
    | columns columns rows => exact absurd rfl (hcolumns columns rows)
    | err code message => exact .inr ⟨code, message, rfl⟩
    | _ => exact .inl ⟨_, rfl⟩

theorem not_isError_rows (c : Connector) (st : Statement) (conn : Conn) (inTransaction : Bool) (columns : List Column)
    (rows : List Item) : ¬ IsError (st.readHeader c conn inTransaction (.columns columns rows)).1 := by
  unfold Statement.readHeader
  cases st.binary with
  | true =>
    rintro (⟨e, he⟩ | ⟨code, message, he⟩)
    · cases he
    · cases he
  | false =>
    rintro (⟨e, he⟩ | ⟨code, message, he⟩)
    · cases he
    · cases he

/-! ## What is read -/

theorem opening_dead (st : Statement) (hdead : w.dead = true) (hread : w.packets = []) (d : Decoders) :
    ∃ e w', st.opening d w = (.header (.unreadable e), w') ∧ w'.packets = [] ∧ w'.dead = true := by
  have hsame : w.answered st.response = w := by
    unfold Wire.answered
    rw [if_pos hdead]
  unfold Statement.opening readOpening
  rw [hsame]
  by_cases hstate : w.state = .complete
  · have hnext : w.next = (.ok none, w) := by
      unfold Wire.next
      rw [if_pos hstate]
    unfold Wire.read
    rw [hnext]
    exact ⟨_, w, rfl, hread, hdead⟩
  · obtain ⟨e, he⟩ := Wire.read_nil hstate hread ("mysql " ++ (if st.binary then "binary query" else "query") ++ " header")
    rw [he]
    exact ⟨e, _, rfl, hread, rfl⟩

theorem opens (st : Statement) (halive : w.dead = false) (hread : w.packets = []) (d : Decoders) :
    Opens d st.response (st.opening d w) := by
  have hsame : w.answered st.response = ⟨.columnCount, st.response.packets, st.response.last, false⟩ := by
    unfold Wire.answered
    rw [if_neg (by rw [halive]; decide), hread, List.nil_append]
  unfold Statement.opening
  rw [hsame]
  exact opens_response d _ st.response

theorem headerOf_resultSet {r : Response} (h : r.isResultSet = true) : headerOf d r.head = .nullCount := by
  unfold Response.isResultSet columnCount at h
  unfold headerOf
  cases hhead : r.head.head? with
  | none =>
    rw [hhead] at h
    cases h
  | some b =>
    rw [hhead] at h
    split at h
    · cases h
    · cases h
    · cases h
    · rename_i _ h0 hff heq
      split at h
      · rename_i count pos hcount
        split
        · rename_i hb
          exact (h0 ((Option.some.inj heq).symm.trans (Option.some.inj hb))).elim
        · rename_i hb
          exact (hff ((Option.some.inj heq).symm.trans (Option.some.inj hb))).elim
        · rename_i hb
          cases hb
        · rw [hcount]
      · cases h

theorem headerOf_cases (d : Decoders) (p : Packet) :
    (∃ answer, headerOf d p = .ok answer) ∨ (∃ code message, headerOf d p = .err code message) ∨ headerOf d p = .empty ∨
      (∃ e, headerOf d p = .badCount e) ∨ headerOf d p = .nullCount := by
  unfold headerOf
  split
  · exact .inl ⟨_, rfl⟩
  · exact .inr (.inl ⟨_, _, rfl⟩)
  · exact .inr (.inr (.inl rfl))
  · split
    · exact .inr (.inr (.inr (.inl ⟨_, rfl⟩)))
    · exact .inr (.inr (.inr (.inr rfl)))

theorem wireAfter_sent (hread : w.packets = []) (hsent : st.Sent w) (d : Decoders) :
    (st.wireAfter d w).packets = st.response.behind (st.stop d) ∧
      ((st.wireAfter d w).dead = true ↔ st.response.endsWaiting (st.stop d)) := by
  have hopens := opens st hsent.alive hread d
  unfold Statement.wireAfter
  rw [hsent.ready, hsent.send]
  dsimp only
  rcases hout : st.opening d w with ⟨opening, w'⟩
  rw [hout] at hopens
  have hnone : st.response.arrived < st.response.definitions.length + 2 → st.stop d = none := by
    intro hlt
    have hrows : st.response.arrivedRows = [] := by
      unfold Response.arrivedRows
      rw [Nat.sub_eq_zero_of_le (Nat.le_of_lt hlt), List.take_zero]
    unfold Statement.stop Response.stop lookedAt
    rw [hrows, upTo_nil, upTo_nil, List.findIdx?_nil]
  cases hopens with
  | lost e harrived heq hpackets hdead =>
    obtain rfl := heq
    refine ⟨?_, fun _ => .inl harrived, fun _ => hdead⟩
    rw [hpackets]
    unfold Response.behind Response.arrivedBody
    rw [hnone (by omega), harrived, Nat.zero_sub, Nat.zero_sub, List.take_zero, List.take_zero, List.drop_nil, ite_self]
  | said harrived hset heq hpackets hdead =>
    obtain rfl := heq
    refine ⟨?_, ?_⟩
    · rw [hpackets]
      unfold Response.behind
      rw [hset, if_neg Bool.false_ne_true]
    · rw [hdead]
      refine ⟨by rintro ⟨⟩, ?_⟩
      rintro (hzero | ⟨htrue, -, -⟩)
      · omega
      · rw [hset] at htrue
        cases htrue
  | cut e harrived hset hcut heq hpackets hdead =>
    obtain rfl := heq
    refine ⟨?_, fun _ => .inr ⟨hset, hnone hcut, by omega⟩, fun _ => hdead⟩
    rw [hpackets]
    unfold Response.behind Response.arrivedBody
    rw [if_pos hset, hnone hcut, Nat.sub_eq_zero_of_le (Nat.le_of_lt hcut), List.take_zero, List.drop_nil]
  | rows hset harrived heq hwire =>
    obtain rfl := heq
    obtain rfl := hwire
    have hwindow : 0 < windowOf st.mode := by
      unfold windowOf
      split
      · omega
      · decide
    exact left_rows st.response (st.row d st.response.definitions) hwindow (maxRowsOf st.mode) st.heard hset harrived

/-- A statement that is not sent leaves the connection as it is; one that cannot be sent, or is sent on a dead connection,
    leaves it dead. -/
theorem wireAfter_unsent (hread : w.packets = []) (hsent : ¬ st.Sent w) (d : Decoders) :
    (st.wireAfter d w).packets = [] ∧
      ((st.wireAfter d w).dead = true ∨ (∃ e, st.ready = .error e) ∧ st.wireAfter d w = w) := by
  cases hready : st.ready with
  | error e =>
    have hsame : st.wireAfter d w = w := by
      unfold Statement.wireAfter
      rw [hready]
    rw [hsame]
    exact ⟨hread, .inr ⟨⟨e, rfl⟩, rfl⟩⟩
  | ok u =>
    cases hsend : st.io.send with
    | error e =>
      unfold Statement.wireAfter
      rw [hready, hsend]
      exact ⟨rfl, .inl rfl⟩
    | ok u =>
      have hdead : w.dead = true := by
        by_contra hne
        exact hsent ⟨hready, hsend, Bool.eq_false_iff.mpr hne⟩
      obtain ⟨e, w', hopen, hpackets, hdead'⟩ := opening_dead st hdead hread d
      unfold Statement.wireAfter
      rw [hready, hsend]
      dsimp only
      rw [hopen]
      exact ⟨hpackets, .inl hdead'⟩

theorem loses_binary (hbinary : st.binary = true) (d : Decoders) (w : Wire) :
    st.Loses d w ↔ st.Sent w ∧ 0 < st.response.arrived ∧ st.response.isResultSet = false ∧
      losesBinary (headerOf d st.response.head) = true := by
  unfold Statement.Loses
  rw [if_pos hbinary]

theorem loses_simple (hbinary : st.binary = false) (d : Decoders) (w : Wire) :
    st.Loses d w ↔ ¬ st.Sent w ∨ st.response.arrived = 0 ∨
      st.response.isResultSet = true ∧ st.response.arrived < st.response.definitions.length + 2 ∨
      st.response.isResultSet = false ∧ losesSimple (headerOf d st.response.head) = true := by
  unfold Statement.Loses
  rw [if_neg (by rw [hbinary]; decide)]

theorem losesHeader_sent (hread : w.packets = []) (hsent : st.Sent w) (d : Decoders) :
    st.losesHeader (st.header d w) = true ↔ st.Loses d w := by
  have hopens := opens st hsent.alive hread d
  unfold Statement.header Statement.losesHeader
  rcases hout : st.opening d w with ⟨opening, w'⟩
  rw [hout] at hopens
  cases hbinary : st.binary with
  | true =>
    rw [if_pos rfl, loses_binary hbinary]
    cases hopens with
    | lost e harrived heq hpackets hdead =>
      obtain rfl := heq
      refine ⟨nofun, fun h => ?_⟩
      omega
    | said harrived hset heq hpackets hdead =>
      obtain rfl := heq
      exact ⟨fun h => ⟨hsent, harrived, hset, h⟩, fun h => h.2.2.2⟩
    | cut e harrived hset hcut heq hpackets hdead =>
      obtain rfl := heq
      exact ⟨nofun, fun h => absurd h.2.2.1 (by rw [hset]; decide)⟩
    | rows hset harrived heq hwire =>
      obtain rfl := heq
      exact ⟨nofun, fun h => absurd h.2.2.1 (by rw [hset]; decide)⟩
  | false =>
    rw [if_neg Bool.false_ne_true, loses_simple hbinary]
    cases hopens with
    | lost e harrived heq hpackets hdead =>
      obtain rfl := heq
      exact ⟨fun _ => .inr (.inl harrived), fun _ => rfl⟩
    | said harrived hset heq hpackets hdead =>
      obtain rfl := heq
      refine ⟨fun h => .inr (.inr (.inr ⟨hset, h⟩)), ?_⟩
      rintro (hnot | hzero | ⟨htrue, -⟩ | ⟨-, h⟩)
      · exact absurd hsent hnot
      · omega
      · rw [hset] at htrue
        cases htrue
      · exact h
    | cut e harrived hset hcut heq hpackets hdead =>
      obtain rfl := heq
      exact ⟨fun _ => .inr (.inr (.inl ⟨hset, hcut⟩)), fun _ => rfl⟩
    | rows hset harrived heq hwire =>
      obtain rfl := heq
      refine ⟨nofun, ?_⟩
      rintro (hnot | hzero | ⟨-, hcut⟩ | ⟨hfalse, -⟩)
      · exact absurd hsent hnot
      · omega
      · omega
      · rw [hset] at hfalse
        cases hfalse

theorem header_cases (hread : w.packets = []) (hsent : st.Sent w) (d : Decoders) :
    ((∀ response, st.header d w ≠ .ok (.ok response)) ∧ (∀ columns rows, st.header d w ≠ .columns columns rows) ∧
        ¬ (st.response.isResultSet = true ∧ st.response.definitions.length + 2 ≤ st.response.arrived)) ∨
      ((∃ columns rows, st.header d w = .columns columns rows) ∧ st.response.isResultSet = true ∧
        st.response.definitions.length + 2 ≤ st.response.arrived) ∨
      0 < st.response.arrived ∧ st.response.isResultSet = false ∧
        ∃ response, headerOf d st.response.head = .ok (.ok response) := by
  have hopens := opens st hsent.alive hread d
  unfold Statement.header
  rcases hout : st.opening d w with ⟨opening, w'⟩
  rw [hout] at hopens
  cases hopens with
  | lost e harrived heq hpackets hdead =>
    obtain rfl := heq
    exact .inl ⟨nofun, nofun, fun h => by omega⟩
  | said harrived hset heq hpackets hdead =>
    obtain rfl := heq
    dsimp only
    have hnot : ¬ (st.response.isResultSet = true ∧ st.response.definitions.length + 2 ≤ st.response.arrived) := by
      rw [hset]
      rintro ⟨h, -⟩
      cases h
    rcases headerOf_cases d st.response.head with ⟨answer, h⟩ | ⟨code, message, h⟩ | h | ⟨e, h⟩ | h
    · cases answer with
      | error e =>
        rw [h]
        exact .inl ⟨nofun, nofun, hnot⟩
      | ok response => exact .inr (.inr ⟨harrived, hset, response, h⟩)
    · rw [h]
      exact .inl ⟨nofun, nofun, hnot⟩
    · rw [h]
      exact .inl ⟨nofun, nofun, hnot⟩
    · rw [h]
      exact .inl ⟨nofun, nofun, hnot⟩
    · rw [h]
      exact .inl ⟨nofun, nofun, hnot⟩
  | cut e harrived hset hcut heq hpackets hdead =>
    obtain rfl := heq
    exact .inl ⟨nofun, nofun, fun h => by omega⟩
  | rows hset harrived heq hwire =>
    obtain rfl := heq
    exact .inr (.inl ⟨⟨_, _, rfl⟩, hset, harrived⟩)

theorem header_dead (st : Statement) (hread : w.packets = []) (hdead : w.dead = true) (d : Decoders) :
    ∃ e, st.header d w = .unreadable e := by
  obtain ⟨e, w', hopen, -, -⟩ := opening_dead st hdead hread d
  unfold Statement.header
  rw [hopen]
  exact ⟨e, rfl⟩

/-! ## A statement -/

/-- What a statement does that has its connection: where that goes, and what the client is told. -/
structure Ran (d : Decoders) (s : State) (st : Statement) (conn : Conn) (c₁ : Connector) : Prop where
  place : ∃ c' lose, InHand s.wires c' conn ∧
    (lose = true ↔ st.Loses d (s.wires conn)) ∧
    (st.Sent (s.wires conn) → c'.inBlock conn = st.io.blockAfter) ∧
    ((∃ e, st.ready = .error e) → c'.inBlock conn = c₁.inBlock conn) ∧
    (st.run d s).2 = ⟨home c' conn (s.connector.leasing st.session && !lose),
      Function.update s.wires conn (st.wireAfter d (s.wires conn))⟩
  refused : ¬ st.Sent (s.wires conn) → IsError (st.run d s).1
  answer : st.Sent (s.wires conn) → ∃ c', (st.run d s).1 =
    (st.readHeader c' conn (s.connector.leasing st.session) (st.header d (s.wires conn))).1

theorem ran {d : Decoders} {s : State} {st : Statement} {conn : Conn} {c₁ : Connector}
    (hlease : st.lease s.connector = (.on conn, c₁)) (hhand : InHand s.wires c₁ conn) : Ran d s st conn c₁ := by
  have hread : (s.wires conn).packets = [] := hhand.orderly.read conn hhand.orderly.mem_hand
  have hrun : st.run d s =
      ((st.execute s.connector { st.io with header := st.header d (s.wires conn) }).1,
        ⟨producerDone (st.execute s.connector { st.io with header := st.header d (s.wires conn) }).2 0,
          Function.update s.wires conn (st.wireAfter d (s.wires conn))⟩) := by
    unfold Statement.run
    rw [hlease]
  have hexit : ∀ {c'}, c'.producers = [] → ∀ b, producerDone (st.exit c' b conn) 0 = home c' conn (b && st.binary) := by
    intro c' hidle b
    rw [exit_home]
    exact producerDone_of_idle (home_idle hidle)
  -- an exit before the statement is sent
  have hunsent : ¬ st.Sent (s.wires conn) → ((!st.binary) = true ↔ st.Loses d (s.wires conn)) := by
    intro hnot
    cases hbinary : st.binary with
    | true =>
      rw [loses_binary hbinary]
      exact ⟨nofun, fun h => absurd h.1 hnot⟩
    | false =>
      rw [loses_simple hbinary]
      exact ⟨fun _ => .inl hnot, fun _ => rfl⟩
  cases executes hlease (st.header d (s.wires conn)) with
  | unready e c' hready hwrote heq =>
    rw [heq] at hrun
    have hin := hhand.wrote hwrote
    have hnot : ¬ st.Sent (s.wires conn) := fun h => by
      have hok := h.ready
      rw [hready] at hok
      cases hok
    refine ⟨⟨c', !st.binary, hin, hunsent hnot, fun h => absurd h hnot, fun _ => ?_, ?_⟩, fun _ => ?_,
      fun h => absurd h hnot⟩
    · rw [hwrote.inBlock, Function.update_self]
    · rw [hrun, Bool.not_not]
      dsimp only
      rw [hexit hin.orderly.idle]
    · rw [hrun]
      exact .inl ⟨e, rfl⟩
  | unsent e c' hready hsend hwrote heq =>
    rw [heq] at hrun
    have hin := hhand.wrote hwrote
    have hnot : ¬ st.Sent (s.wires conn) := fun h => by
      have hok := h.send
      rw [hsend] at hok
      cases hok
    refine ⟨⟨c', !st.binary, hin, hunsent hnot, fun h => absurd h hnot, ?_, ?_⟩, fun _ => ?_, fun h => absurd h hnot⟩
    · rintro ⟨e, he⟩
      rw [hready] at he
      cases he
    · rw [hrun, Bool.not_not]
      dsimp only
      rw [hexit hin.orderly.idle]
    · rw [hrun]
      exact .inl ⟨e, rfl⟩
  | sent c' hready hsend hwrote heq =>
    rw [heq] at hrun
    have hin := hhand.wrote hwrote
    have hplace : (st.run d s).2 = ⟨home c' conn (s.connector.leasing st.session &&
        !st.losesHeader (st.header d (s.wires conn))),
        Function.update s.wires conn (st.wireAfter d (s.wires conn))⟩ := by
      rw [hrun]
      dsimp only
      rw [readHeader_home hin.orderly.idle]
    have hblock : c'.inBlock conn = st.io.blockAfter := by rw [hwrote.inBlock, Function.update_self]
    have hready' : (∃ e, st.ready = .error e) → c'.inBlock conn = c₁.inBlock conn := by
      rintro ⟨e, he⟩
      rw [hready] at he
      cases he
    by_cases hsent : st.Sent (s.wires conn)
    · refine ⟨⟨c', _, hin, losesHeader_sent hread hsent d, fun _ => hblock, hready', hplace⟩, fun h => absurd hsent h,
        fun _ => ⟨c', ?_⟩⟩
      rw [hrun]
    · have hdead : (s.wires conn).dead = true := by
        by_contra hne
        exact hsent ⟨hready, hsend, Bool.eq_false_iff.mpr hne⟩
      obtain ⟨e, hheader⟩ := header_dead st hread hdead d
      refine ⟨⟨c', _, hin, ?_, fun h => absurd h hsent, hready', hplace⟩, fun _ => ?_, fun h => absurd h hsent⟩
      · have hloses : st.losesHeader (.unreadable e) = !st.binary := by
          unfold Statement.losesHeader
          cases st.binary <;> rfl
        rw [hheader, hloses]
        exact hunsent hsent
      · rw [hrun, hheader]
        exact isError_readHeader nofun nofun

section Handling

variable {d : Decoders} {s : State} {st : Statement} {conn : Conn} {c₁ : Connector}
  (hlease : st.lease s.connector = (.on conn, c₁)) (hhand : InHand s.wires c₁ conn)
  (hfree : s.connector.leasing st.session = false → FreeIn s.wires c₁ conn)

include hlease hhand

theorem honest_iff : (st.heard = none → ¬ st.Answered d (s.wires conn) → IsError (st.run d s).1) ↔
      (st.heard = none → st.Sent (s.wires conn) → st.response.isResultSet = true →
        st.response.definitions.length + 2 ≤ st.response.arrived → st.response.WholeRows (st.stop d)) := by
  have hread : (s.wires conn).packets = [] := hhand.orderly.read conn hhand.orderly.mem_hand
  have hran := ran (d := d) hlease hhand
  constructor
  · intro h hheard hsent hset harrived
    by_contra hnot
    have herror := h hheard ?_
    · obtain ⟨c', hanswer⟩ := hran.answer hsent
      rcases header_cases hread hsent d with ⟨-, -, hno⟩ | ⟨⟨columns, rows, hcolumns⟩, -, -⟩ | ⟨-, hfalse, -⟩
      · exact hno ⟨hset, harrived⟩
      · rw [hanswer, hcolumns] at herror
        exact not_isError_rows c' st conn _ columns rows herror
      · rw [hset] at hfalse
        cases hfalse
    · rintro ⟨-, ⟨-, response, hok⟩ | ⟨-, hwhole⟩⟩
      · rw [headerOf_resultSet hset] at hok
        cases hok
      · exact hnot hwhole
  · intro h hheard hnot
    by_cases hsent : st.Sent (s.wires conn)
    · obtain ⟨c', hanswer⟩ := hran.answer hsent
      rw [hanswer]
      rcases header_cases hread hsent d with ⟨hok, hcolumns, -⟩ | ⟨-, hset, harrived⟩ | ⟨harrived, -, hok⟩
      · exact isError_readHeader hok hcolumns
      · exact absurd ⟨hsent, .inr ⟨hset, h hheard hsent hset harrived⟩⟩ hnot
      · exact absurd ⟨hsent, .inl ⟨harrived, hok⟩⟩ hnot
    · exact hran.refused hsent

include hfree

/-- **When a statement with this connection is handled as it should be.** -/
theorem handled_iff : Handled d s st conn ↔ Condition d st (s.connector.leasing st.session) (s.wires conn) := by
  have hread : (s.wires conn).packets = [] := hhand.orderly.read conn hhand.orderly.mem_hand
  obtain ⟨c', lose, hin, hlose, hblock, hsame, hpost⟩ := (ran (d := d) hlease hhand).place
  have hwire : (st.run d s).2.wires conn = st.wireAfter d (s.wires conn) := by
    rw [hpost]
    exact Function.update_self ..
  have hinBlock : (st.run d s).2.connector.inBlock conn = c'.inBlock conn := by
    rw [hpost]
    unfold home Connector.storeLease Connector.setLease
    rw [hin.lease, hin.orderly.putConn_eq]
    split <;> rfl
  -- the two places
  have hstored : (s.connector.leasing st.session && !lose) = true →
      (st.run d s).2.connector.txnLease = some conn ∧ conn ∉ (st.run d s).2.connector.pool := by
    intro htrue
    rw [hpost, htrue]
    unfold home Connector.storeLease Connector.setLease
    rw [hin.lease, if_pos rfl]
    exact ⟨rfl, fun hmem => hin.orderly.key_notMem (List.mem_map.mpr ⟨conn, List.mem_append_right _ hmem, rfl⟩)⟩
  have hdropped : (s.connector.leasing st.session && !lose) = false →
      (st.run d s).2.connector.txnLease = none ∧ conn ∈ (st.run d s).2.connector.pool := by
    intro hfalse
    rw [hpost, hfalse]
    unfold home
    rw [if_neg Bool.false_ne_true, hin.orderly.putConn_eq]
    exact ⟨hin.lease, List.mem_append_right _ List.mem_cons_self⟩
  have hunread : (st.wireAfter d (s.wires conn)).packets = [] ↔
      (st.Sent (s.wires conn) → st.response.behind (st.stop d) = []) := by
    by_cases hsent : st.Sent (s.wires conn)
    · rw [(wireAfter_sent hread hsent d).1]
      exact ⟨fun h _ => h, fun h => h hsent⟩
    · exact ⟨fun _ h => absurd h hsent, fun _ => (wireAfter_unsent hread hsent d).1⟩
  have hfreed : s.connector.leasing st.session = false →
      (((st.wireAfter d (s.wires conn)).dead = true ∨ c'.inBlock conn = false) ↔
        (st.Sent (s.wires conn) → st.io.blockAfter = false ∨ st.response.endsWaiting (st.stop d))) := by
    intro hout
    by_cases hsent : st.Sent (s.wires conn)
    · rw [(wireAfter_sent hread hsent d).2, hblock hsent]
      exact ⟨fun h _ => h.symm, fun h => (h hsent).symm⟩
    · refine ⟨fun _ h => absurd h hsent, fun _ => ?_⟩
      rcases (wireAfter_unsent hread hsent d).2 with hdead | ⟨hready, heq⟩
      · exact .inl hdead
      · rw [heq, hsame hready]
        exact hfree hout
  constructor
  · intro h
    have hkeeps : s.connector.leasing st.session = true → ¬ st.Loses d (s.wires conn) := by
      intro htxn hloses
      have hgone := (hdropped (by rw [hlose.mpr hloses, htxn]; rfl)).1
      rw [h.kept htxn] at hgone
      cases hgone
    have hunread' : (st.wireAfter d (s.wires conn)).packets = [] := by
      rw [← hwire]
      cases hplace : (s.connector.leasing st.session && !lose) with
      | true => exact h.leased (hstored hplace).1
      | false => exact (h.pooled (hdropped hplace).2).read
    refine ⟨hkeeps, hunread.mp hunread', ?_, (honest_iff hlease hhand).mp h.honest⟩
    intro hout
    refine (hfreed hout).mp ?_
    have hclean := (h.pooled (hdropped (by rw [hout]; rfl)).2).free
    rw [hwire, hinBlock] at hclean
    exact hclean
  · intro h
    have hunread' : ((st.run d s).2.wires conn).packets = [] := by
      rw [hwire]
      exact hunread.mpr h.read
    have hkept : s.connector.leasing st.session = true → (st.run d s).2.connector.txnLease = some conn := by
      intro htxn
      have hno : lose = false := Bool.eq_false_iff.mpr fun htrue => h.keeps htxn (hlose.mp htrue)
      exact (hstored (by rw [htxn, hno]; rfl)).1
    refine ⟨hread, (honest_iff hlease hhand).mpr h.whole, ?_, fun _ => hunread', hkept⟩
    intro hmem
    refine ⟨hunread', ?_⟩
    rw [hwire, hinBlock]
    cases htxn : s.connector.leasing st.session with
    | true =>
      have hno : lose = false := Bool.eq_false_iff.mpr fun htrue => h.keeps htxn (hlose.mp htrue)
      exact absurd hmem (hstored (by rw [htxn, hno]; rfl)).2
    | false => exact (hfreed htxn).mpr (h.free htxn)

theorem orderly_handled (h : Condition d st (s.connector.leasing st.session) (s.wires conn)) :
    Orderly (st.run d s).2.wires (st.run d s).2.connector [] := by
  have hread : (s.wires conn).packets = [] := hhand.orderly.read conn hhand.orderly.mem_hand
  obtain ⟨c', lose, hin, hlose, hblock, hsame, hpost⟩ := (ran (d := d) hlease hhand).place
  have hhandled := (handled_iff hlease hhand hfree).mpr h
  have hunread : (st.wireAfter d (s.wires conn)).packets = [] := by
    by_cases hsent : st.Sent (s.wires conn)
    · rw [(wireAfter_sent hread hsent d).1]
      exact h.read hsent
    · exact (wireAfter_unsent hread hsent d).1
  rw [hpost]
  cases htxn : s.connector.leasing st.session with
  | true =>
    have hno : lose = false := Bool.eq_false_iff.mpr fun htrue => h.keeps htxn (hlose.mp htrue)
    rw [hno]
    exact hin.orderly.store hin.lease hunread
  | false =>
    refine hin.orderly.put hunread ?_
    have hpooled : conn ∈ (st.run d s).2.connector.pool := by
      rw [hpost, htxn]
      unfold home
      rw [Bool.false_and, if_neg Bool.false_ne_true, hin.orderly.putConn_eq]
      exact List.mem_append_right _ List.mem_cons_self
    have hclean := (hhandled.pooled hpooled).free
    rw [hpost, htxn] at hclean
    unfold home at hclean
    rw [Bool.false_and, if_neg Bool.false_ne_true, hin.orderly.putConn_eq] at hclean
    dsimp only at hclean
    rw [Function.update_self] at hclean
    exact hclean

end Handling

theorem execute_off (h : ∀ conn, (st.lease c).1 ≠ .on conn) : (st.execute c st.io).2 = (st.lease c).2 := by
  have hsimple : st.parameters.bind (MySql.arityError st.sql) = none →
      (MySql.executeSimpleQueryStreaming c st.endpoint st.sql st.session st.mode (c.leasing st.session) st.io).2 =
        (st.lease c).2 := by
    intro harity
    unfold Statement.lease at h ⊢
    rw [harity] at h ⊢
    dsimp only at h ⊢
    unfold MySql.executeSimpleQueryStreaming
    rcases hconn : MySql.connForStatement c (c.leasing st.session) st.endpoint st.session st.io with ⟨lease, c₁⟩
    rw [hconn] at h
    cases lease with
    | failed e => rfl
    | answered response => rfl
    | on conn => exact absurd rfl (h conn)
  unfold Statement.execute
  cases hparams : st.parameters with
  | none => exact hsimple (by rw [hparams]; rfl)
  | some parameters =>
    dsimp only
    unfold MySql.executeParamQueryStreaming
    cases harity : MySql.arityError st.sql parameters with
    | some e =>
      unfold Statement.lease
      rw [hparams, Option.bind_some, harity]
    | none =>
      have hbind : st.parameters.bind (MySql.arityError st.sql) = none := by rw [hparams, Option.bind_some, harity]
      dsimp only
      by_cases hempty : parameters.isEmpty = true
      · rw [if_pos hempty]
        exact hsimple hbind
      · rw [if_neg hempty]
        unfold Statement.lease at h ⊢
        rw [hbind] at h ⊢
        dsimp only at h ⊢
        rcases hconn : MySql.connForStatement c (c.leasing st.session) st.endpoint st.session st.io with ⟨lease, c₁⟩
        rw [hconn] at h
        cases lease with
        | failed e => rfl
        | answered response => rfl
        | on conn => exact absurd rfl (h conn)

/-! ## Runs -/

theorem finish_eq {conn : Conn} (h : Orderly s.wires s.connector []) (hlease : s.connector.txnLease = some conn)
    (d : Decoders) (sql : String) (io : ControlIo) : ∃ c' block, InHand s.wires c' conn ∧ c'.inBlock conn = block ∧
      (block = false ↔ io.clientOpen = true ∨ s.connector.inBlock conn = false) ∧
      (step d s (.finish sql io)).2 = ⟨c'.putConn conn, s.wires⟩ := by
  have hin := h.taken hlease
  show ∃ c' block, _ ∧ _ ∧ _ ∧ (⟨(MySql.finishTransaction s.connector sql io).2, s.wires⟩ : State) = _
  unfold MySql.finishTransaction MySql.executeOnConn
  rw [hlease]
  dsimp only
  by_cases hopen : io.clientOpen = true
  · rw [if_pos hopen]
    have hwrote := wrote_send { s.connector with txnLease := none } conn (.simpleQuery sql) false
    refine ⟨_, false, hin.wrote hwrote, ?_, ⟨fun _ => .inl hopen, fun _ => rfl⟩, rfl⟩
    rw [hwrote.inBlock, Function.update_self]
  · rw [if_neg hopen]
    exact ⟨_, _, hin, rfl, ⟨fun hfree => .inr hfree, fun hfree => hfree.resolve_left hopen⟩, rfl⟩

theorem sound_iff (h : Orderly s.wires s.connector []) (a : Act) : Sound d s a ↔ Meets d s a := by
  cases a with
  | statement st =>
    refine forall_congr' fun conn => forall_congr' fun hon => ?_
    rcases lease_cases h st with ⟨conn', c₁, hlease, hhand, hfree⟩ | ⟨hnone, -⟩
    · obtain rfl : conn' = conn := by
        rw [hlease] at hon
        exact Lease.on.inj hon
      exact handled_iff hlease hhand hfree
    · exact absurd hon (hnone conn)
  | finish sql io =>
    refine forall_congr' fun conn => forall_congr' fun hlease => ?_
    obtain ⟨c', block, hin, hblock, hfree, hpost⟩ := finish_eq h hlease d sql io
    have hread : (s.wires conn).packets = [] := hin.orderly.read conn hin.orderly.mem_hand
    rw [hpost, and_iff_right hread, hin.orderly.putConn_eq]
    have hmem : conn ∈ c'.pool ++ [conn] := List.mem_append_right _ List.mem_cons_self
    constructor
    · intro hclean
      rcases (hclean hmem).free with hdead | hout
      · exact .inr (.inl hdead)
      · rcases hfree.mp (hblock.symm.trans hout) with hopen | hbefore
        · exact .inl hopen
        · exact .inr (.inr hbefore)
    · rintro hmeets -
      refine ⟨hread, ?_⟩
      rcases hmeets with hopen | hdead | hbefore
      · exact .inr (hblock.trans (hfree.mpr (.inl hopen)))
      · exact .inl hdead
      · exact .inr (hblock.trans (hfree.mpr (.inr hbefore)))

theorem orderly_step (s : State) (a : Act) (h : Orderly s.wires s.connector []) (hok : Meets d s a) :
    Orderly (step d s a).2.wires (step d s a).2.connector [] := by
  cases a with
  | statement st =>
    rcases lease_cases h st with ⟨conn, c₁, hlease, hhand, hfree⟩ | ⟨hnone, hkeep⟩
    · exact orderly_handled hlease hhand hfree (hok conn (by rw [hlease]))
    · have hrun : (st.run d s).2 = ⟨producerDone (st.execute s.connector st.io).2 0, s.wires⟩ := by
        unfold Statement.run
        split
        · rename_i conn hon
          exact absurd hon (hnone conn)
        · rfl
      show Orderly (st.run d s).2.wires (st.run d s).2.connector []
      rw [hrun, execute_off hnone, producerDone_of_idle hkeep.idle]
      exact hkeep
  | finish sql io =>
    cases hlease : s.connector.txnLease with
    | none =>
      show Orderly s.wires (MySql.finishTransaction s.connector sql io).2 []
      unfold MySql.finishTransaction
      rw [hlease]
      exact h
    | some conn =>
      obtain ⟨c', block, hin, hblock, hfree, hpost⟩ := finish_eq h hlease d sql io
      rw [hpost]
      refine hin.orderly.dropped ?_
      rcases hok conn hlease with hopen | hdead | hbefore
      · exact .inr (hblock.trans (hfree.mpr (.inl hopen)))
      · exact .inl hdead
      · exact .inr (hblock.trans (hfree.mpr (.inr hbefore)))

end DataNexus.MySqlStreams
