/-
  Who owns a backend connection, and which of them may be inside a transaction block.

  A connection is in one place at a time: a slot, a pool queue, a producer task, or in the hand of the
  call that runs.  `Tidy c hand` says so, and that a connection which waits for its next user (in the pool,
  among the idle relay sessions, or in a producer that will file it there) is not inside a block.

  Single moves keep `Tidy` because they never copy a connection; the block of a connection changes while
  it is in the hand only, so no waiting connection is affected.  The paths of `execute_outcome` are
  sequences of such moves.
-/
import DataNexus.Backend.Occupied

namespace DataNexus.Backend

open DataNexus.Stream

def owned (c : Connector) : List Conn :=
  c.txnLease.toList ++ c.tcpTxn.toList ++ c.tcpExtHold.toList ++ c.pool ++ c.tcpIdle ++
    c.producers.map (·.conn)

/-- The connections that wait for their next user. -/
def waiting (c : Connector) : List Conn := c.pool ++ c.tcpIdle ++ (c.producers.filter (!·.toLease)).map (·.conn)

/-- Every connection is in one place, and the waiting ones are outside a transaction block. -/
structure Tidy (c : Connector) (hand : List Conn) : Prop where
  once : ∀ x, (hand ++ owned c).count x ≤ 1
  known : ∀ x ∈ hand ++ owned c, x.serial < c.nextSerial
  fresh : ∀ x, c.nextSerial ≤ x.serial → c.inBlock x = false
  clean : ∀ x ∈ waiting c, c.inBlock x = false

theorem tidy_withEndpoints (endpoints : List EndpointConfig) : Tidy (Connector.withEndpoints endpoints) [] :=
  ⟨fun _ => Nat.zero_le 1, nofun, fun _ _ => rfl, nofun⟩

theorem waiting_subset_owned (c : Connector) : waiting c ⊆ owned c := by
  intro x hx
  simp [waiting, owned] at hx ⊢
  grind

/-! ## Moves -/

theorem Tidy.move {c c' : Connector} {hand hand' : List Conn} (h : Tidy c hand)
    (hcount : ∀ x, (hand' ++ owned c').count x ≤ (hand ++ owned c).count x)
    (hserial : c'.nextSerial = c.nextSerial) (hblock : c'.inBlock = c.inBlock)
    (hwaiting : ∀ x ∈ waiting c', x ∈ waiting c ∨ c.inBlock x = false) : Tidy c' hand' := by
  refine ⟨?_, ?_, ?_, ?_⟩
  · intro x
    exact Nat.le_trans (hcount x) (h.once x)
  · intro x hx
    rw [hserial]
    refine h.known x (List.count_pos_iff.mp ?_)
    exact Nat.lt_of_lt_of_le (List.count_pos_iff.mpr hx) (hcount x)
  · intro x hx
    rw [hblock]
    rw [hserial] at hx
    exact h.fresh x hx
  · intro x hx
    rw [hblock]
    rcases hwaiting x hx with hmem | hfree
    · exact h.clean x hmem
    · exact hfree

section Moves

variable {c : Connector} {conn : Conn}

theorem Tidy.close (h : Tidy c [conn]) : Tidy c [] := by
  refine h.move ?_ rfl rfl (fun x hx => .inl hx)
  intro x
  simp [List.count_cons]

theorem Tidy.putConn (h : Tidy c [conn]) (hfree : c.inBlock conn = false) : Tidy (c.putConn conn) [] := by
  unfold Connector.putConn
  split
  · refine h.move ?_ rfl rfl ?_
    · intro x
      simp [owned, List.count_cons]
      omega
    · intro x hx
      simp [waiting] at hx ⊢
      grind
  · exact h.close

theorem Tidy.setLease (h : Tidy c [conn]) (hlease : c.txnLease = none) : Tidy (c.setLease (some conn)) [] := by
  unfold Connector.setLease
  rw [hlease]
  refine h.move ?_ rfl rfl (fun x hx => .inl hx)
  intro x
  simp [owned, hlease, List.count_cons]

theorem Tidy.spawn (h : Tidy c [conn]) (b : Bool) (hfree : b = false → c.inBlock conn = false) :
    Tidy (c.spawnProducer conn b) [] := by
  refine h.move ?_ rfl rfl ?_
  · intro x
    simp [owned, Connector.spawnProducer, List.count_cons]
    omega
  · intro x hx
    cases b <;> simp [waiting, Connector.spawnProducer] at hx hfree ⊢ <;> grind

theorem Tidy.putIdle (h : Tidy c [conn]) (hfree : c.inBlock conn = false) : Tidy (c.putIdle conn) [] := by
  have hwaiting : ∀ (l : List Conn) (x : Conn), (∀ y ∈ l, y ∈ c.tcpIdle) →
      x ∈ waiting { c with tcpIdle := l ++ [conn] } → x ∈ waiting c ∨ c.inBlock x = false := by
    intro l x hl hx
    simp [waiting] at hx ⊢
    grind
  unfold Connector.putIdle
  split
  · rename_i old hold
    split
    · refine h.move ?_ rfl rfl (fun x => hwaiting _ x fun y hy => List.mem_of_mem_erase hy)
      intro x
      have herase : (c.tcpIdle.erase old).count x ≤ c.tcpIdle.count x := List.erase_sublist.count_le x
      simp [owned, List.count_cons]
      omega
    · refine h.move ?_ rfl rfl (fun x => hwaiting _ x fun y hy => hy)
      intro x
      simp [owned, List.count_cons]
      omega
  · refine h.move ?_ rfl rfl (fun x => hwaiting _ x fun y hy => hy)
    intro x
    simp [owned, List.count_cons]
    omega

theorem Tidy.takeLease (h : Tidy c []) (hlease : c.txnLease = some conn) :
    Tidy { c with txnLease := none } [conn] := by
  refine h.move ?_ rfl rfl (fun x hx => .inl hx)
  intro x
  simp [owned, hlease, List.count_cons]

theorem Tidy.takeTcpTxn (h : Tidy c []) (htcp : c.tcpTxn = some conn) : Tidy { c with tcpTxn := none } [conn] := by
  refine h.move ?_ rfl rfl (fun x hx => .inl hx)
  intro x
  simp [owned, htcp, List.count_cons]
  omega

theorem Tidy.takeHold (h : Tidy c []) (hhold : c.tcpExtHold = some conn) :
    Tidy { c with tcpExtHold := none } [conn] := by
  refine h.move ?_ rfl rfl (fun x hx => .inl hx)
  intro x
  simp [owned, hhold, List.count_cons]
  omega

theorem Tidy.setTcpTxn (h : Tidy c [conn]) : Tidy { c with tcpTxn := some conn } [] := by
  refine h.move ?_ rfl rfl (fun x hx => .inl hx)
  intro x
  simp [owned, List.count_cons]
  omega

theorem Tidy.setHold (h : Tidy c [conn]) : Tidy { c with tcpExtHold := some conn } [] := by
  refine h.move ?_ rfl rfl (fun x hx => .inl hx)
  intro x
  simp [owned, List.count_cons]
  omega

theorem Tidy.block (h : Tidy c [conn]) (b : Bool) (log : List (Conn × Sent)) :
    Tidy { c with inBlock := Function.update c.inBlock conn b, log := log } [conn] := by
  have hne : ∀ x ∈ owned c, x ≠ conn := by
    intro x hx heq
    have hone := h.once x
    have hpos : 0 < (owned c).count x := List.count_pos_iff.mpr hx
    rw [heq] at hone hpos
    simp at hone
    omega
  have hconn : conn.serial < c.nextSerial := h.known conn List.mem_cons_self
  refine ⟨h.once, h.known, ?_, ?_⟩
  · intro x hx
    have hne : x ≠ conn := by
      intro heq
      rw [heq] at hx
      exact absurd hconn (Nat.not_lt.mpr hx)
    show Function.update c.inBlock conn b x = false
    rw [Function.update_of_ne hne]
    exact h.fresh x hx
  · intro x hx
    show Function.update c.inBlock conn b x = false
    rw [Function.update_of_ne (hne x (waiting_subset_owned c hx))]
    exact h.clean x hx

theorem Tidy.send (h : Tidy c [conn]) (sent : Sent) (b : Bool) : Tidy (c.send conn sent b) [conn] := h.block b _

theorem Tidy.sendAll {hand : List Conn} (h : Tidy c hand) (sent : List Sent) : Tidy (c.sendAll conn sent) hand :=
  ⟨h.once, h.known, h.fresh, h.clean⟩

theorem Tidy.freshConn (h : Tidy c []) (key : String) :
    Tidy (c.freshConn key).2 [(c.freshConn key).1] ∧ c.inBlock (c.freshConn key).1 = false := by
  have hnew : (c.freshConn key).1 ∉ owned c := by
    intro hmem
    exact absurd (h.known _ hmem) (Nat.lt_irrefl _)
  refine ⟨⟨?_, ?_, ?_, h.clean⟩, h.fresh _ (Nat.le_refl _)⟩
  · intro x
    have hone := h.once x
    have hzero : (owned c).count (c.freshConn key).1 = 0 := List.count_eq_zero.mpr hnew
    show ([(c.freshConn key).1] ++ owned c).count x ≤ 1
    rw [List.nil_append] at hone
    rw [List.singleton_append]
    by_cases hx : (c.freshConn key).1 = x
    · subst hx
      exact Nat.le_of_eq (List.count_cons_self.trans (congrArg (· + 1) hzero))
    · rw [List.count_cons_of_ne hx]
      exact hone
  · intro x hx
    show x.serial < c.nextSerial + 1
    rcases List.mem_cons.mp hx with rfl | hx
    · exact Nat.lt_succ_self _
    · exact Nat.lt_succ_of_lt (h.known x hx)
  · intro x hx
    exact h.fresh x (Nat.le_of_succ_le hx)

end Moves

/-! ## Connections for a statement -/

/-- A connection was got without a trace: it comes to hand outside a block. -/
structure Got (c : Connector) (conn : Conn) (c₁ : Connector) : Prop where
  tidy : Tidy c₁ [conn]
  inBlock : c₁.inBlock = c.inBlock
  log : c₁.log = c.log
  free : c.inBlock conn = false

/-- No connection was got; at most some idle ones are gone. -/
structure NotGot (c c₁ : Connector) : Prop where
  tidy : Tidy c₁ []
  inBlock : c₁.inBlock = c.inBlock
  log : c₁.log = c.log

section Acquire

variable {c : Connector} (h : Tidy c []) (endpoint : EndpointConfig)

include h

theorem got_buildConn (key : String) (io : AcquireIo) : (∃ e c₁, c.buildConn key io = (.error e, c₁) ∧ NotGot c c₁) ∨
    ∃ conn c₁, c.buildConn key io = (.ok conn, c₁) ∧ Got c conn c₁ := by
  unfold Connector.buildConn
  cases io.build with
  | error e => exact .inl ⟨e, c, rfl, h, rfl, rfl⟩
  | ok _ =>
    obtain ⟨htidy, hfree⟩ := h.freshConn key
    exact .inr ⟨_, _, rfl, htidy, rfl, rfl, hfree⟩

theorem got_openSession (key : String) (io : RelayIo) : (∃ e c₁, c.openSession key io = (.error e, c₁) ∧ NotGot c c₁) ∨
    ∃ conn c₁, c.openSession key io = (.ok conn, c₁) ∧ Got c conn c₁ := by
  unfold Connector.openSession
  cases io.connect with
  | error e => exact .inl ⟨e, c, rfl, h, rfl, rfl⟩
  | ok _ =>
    obtain ⟨htidy, hfree⟩ := h.freshConn key
    exact .inr ⟨_, _, rfl, htidy, rfl, rfl, hfree⟩

theorem got_acquireConn (session : SessionState) (io : AcquireIo) :
    (∃ e c₁, c.acquireConn endpoint session io = (.error e, c₁) ∧ NotGot c c₁) ∨
    ∃ conn c₁, c.acquireConn endpoint session io = (.ok conn, c₁) ∧ Got c conn c₁ := by
  unfold Connector.acquireConn
  split
  · exact .inl ⟨_, c, rfl, h, rfl, rfl⟩
  split
  · exact .inl ⟨_, c, rfl, h, rfl, rfl⟩
  split
  · exact got_buildConn h _ io
  · rename_i conn hfind
    have hmem : conn ∈ c.pool := List.mem_of_find?_eq_some hfind
    have hfree : c.inBlock conn = false := h.clean conn (by simp [waiting, hmem])
    have hpos : 0 < c.pool.count conn := List.count_pos_iff.mpr hmem
    have hwaiting : ∀ x ∈ waiting { c with pool := c.pool.erase conn }, x ∈ waiting c ∨ c.inBlock x = false := by
      intro x hx
      have hsub := fun y (hy : y ∈ c.pool.erase conn) => List.mem_of_mem_erase hy
      simp [waiting] at hx ⊢
      grind
    split
    · refine .inr ⟨conn, _, rfl, ?_, rfl, rfl, hfree⟩
      refine h.move ?_ rfl rfl hwaiting
      intro x
      simp [owned, List.count_cons, List.count_erase]
      split
      · rename_i heq
        subst heq
        omega
      · omega
    · -- the idle connection did not answer and is closed
      have herased : Tidy { c with pool := c.pool.erase conn } [] := by
        refine h.move ?_ rfl rfl hwaiting
        intro x
        have herase : (c.pool.erase conn).count x ≤ c.pool.count x := List.erase_sublist.count_le x
        simp [owned]
        omega
      rcases got_buildConn herased (postgresqlPoolKey endpoint _) io with
        ⟨e, c₁, hget, hnot⟩ | ⟨conn', c₁, hget, hgot⟩
      · exact .inl ⟨e, c₁, hget, hnot.tidy, hnot.inBlock, hnot.log⟩
      · exact .inr ⟨conn', c₁, hget, hgot.tidy, hgot.inBlock, hgot.log, hgot.free⟩

theorem got_takeOrConnect (database : String) (io : RelayIo) :
    (∃ e c₁, c.takeOrConnect endpoint database io = (.error e, c₁) ∧ NotGot c c₁) ∨
    ∃ conn c₁, c.takeOrConnect endpoint database io = (.ok conn, c₁) ∧ Got c conn c₁ := by
  -- the sessions of other keys stay, those of this key are a suffix of what was there
  have hsplit : ∀ x, (c.tcpIdle.filter (·.key == tcpPoolKey endpoint database)).count x +
      (c.tcpIdle.filter (·.key != tcpPoolKey endpoint database)).count x = c.tcpIdle.count x := by
    intro x
    have hperm := (List.filter_append_perm (·.key == tcpPoolKey endpoint database) c.tcpIdle).count_eq x
    rw [List.count_append] at hperm
    exact hperm
  have hdrop : ∀ x, ((c.tcpIdle.filter (·.key == tcpPoolKey endpoint database)).dropWhile
      (fun conn => !io.healthy conn)).count x ≤
        (c.tcpIdle.filter (·.key == tcpPoolKey endpoint database)).count x :=
    fun x => (List.dropWhile_sublist _).count_le x
  unfold Connector.takeOrConnect
  split
  · rename_i conn rest hrest
    rw [hrest] at hdrop
    have hmem : ∀ y ∈ conn :: rest, y ∈ c.tcpIdle := by
      intro y hy
      have hpos : 0 < (conn :: rest).count y := List.count_pos_iff.mpr hy
      have hle := hdrop y
      have hsum := hsplit y
      exact List.count_pos_iff.mp (by omega)
    refine .inr ⟨conn, _, rfl, ?_, rfl, rfl, ?_⟩
    · refine h.move ?_ rfl rfl ?_
      · intro x
        have hle := hdrop x
        have hsum := hsplit x
        rw [List.count_cons] at hle
        simp [owned, List.count_cons] at hle ⊢
        omega
      · intro x hx
        have hrestMem := fun y (hy : y ∈ rest) => hmem y (List.mem_cons_of_mem _ hy)
        simp [waiting] at hx ⊢
        grind
    · exact h.clean conn (by simp [waiting, hmem conn List.mem_cons_self])
  · have hothers : Tidy
        { c with tcpIdle := c.tcpIdle.filter (·.key != tcpPoolKey endpoint database) } [] := by
      refine h.move ?_ rfl rfl ?_
      · intro x
        have hsum := hsplit x
        simp [owned]
        omega
      · intro x hx
        simp [waiting] at hx ⊢
        grind
    rcases got_openSession hothers (tcpPoolKey endpoint database) io with
      ⟨e, c₁, hget, hnot⟩ | ⟨conn', c₁, hget, hgot⟩
    · exact .inl ⟨e, c₁, hget, hnot.tidy, hnot.inBlock, hnot.log⟩
    · exact .inr ⟨conn', c₁, hget, hgot.tidy, hgot.inBlock, hgot.log, hgot.free⟩

end Acquire

end DataNexus.Backend
