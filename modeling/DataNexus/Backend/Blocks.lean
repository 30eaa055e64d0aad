/-
  The paths of `execute_outcome` and transaction blocks.

  Outside a transaction a call is `Free`: it writes only to connections that are not inside a block, and
  leaves the others in theirs.  Inside a transaction a call over the driver keeps the connections `Tidy`
  and ends with one pooled connection occupied at most.  A relayed call may also leave a session in the
  transaction slot; `SlotTold` says that the session state knows when that one is inside a block.
-/
import DataNexus.Backend.Owned

namespace DataNexus.Backend

open DataNexus.Stream

/-! ## Calls that keep out of blocks -/

/-- The call writes to connections outside a block only, and ends no block. -/
structure Free (c c' : Connector) : Prop where
  writes : ∃ ws, c'.log = c.log ++ ws ∧ ∀ w ∈ ws, c.inBlock w.1 = false
  blocks : ∀ x, c.inBlock x = true → c'.inBlock x = true

variable {c c' a b c₁ : Connector} {p : SessionState × Connector} {r : Except GatewayError Outcome}

theorem Free.of_eq (hlog : c'.log = c.log) (hblock : c'.inBlock = c.inBlock) : Free c c' := by
  refine ⟨⟨[], by simpa using hlog, by simp⟩, ?_⟩
  intro x hx
  rw [hblock]
  exact hx

theorem Free.refl (c : Connector) : Free c c := Free.of_eq rfl rfl

theorem Free.trans (h : Free a b) (h' : Free b c) : Free a c := by
  obtain ⟨us, hus, hfree⟩ := h.writes
  obtain ⟨vs, hvs, hfree'⟩ := h'.writes
  refine ⟨⟨us ++ vs, by rw [hvs, hus, List.append_assoc], ?_⟩, fun x hx => h'.blocks x (h.blocks x hx)⟩
  intro w hw
  rcases List.mem_append.mp hw with hw | hw
  · exact hfree w hw
  · -- a block of `a` is still one in `b`
    cases hblock : a.inBlock w.1 with
    | false => rfl
    | true =>
      have hstill := h.blocks w.1 hblock
      rw [hfree' w hw] at hstill
      cases hstill

section FreeMoves

variable {c : Connector} {conn : Conn} (hfree : c.inBlock conn = false)

include hfree

theorem Free.block (b : Bool) (log : List (Conn × Sent)) (ws : List (Conn × Sent))
    (hlog : log = c.log ++ ws) (hws : ∀ w ∈ ws, w.1 = conn) :
    Free c { c with inBlock := Function.update c.inBlock conn b, log := log } := by
  refine ⟨⟨ws, hlog, ?_⟩, ?_⟩
  · intro w hw
    rw [hws w hw]
    exact hfree
  · intro x hx
    have hne : x ≠ conn := by
      intro heq
      rw [heq, hfree] at hx
      cases hx
    show Function.update c.inBlock conn b x = true
    rw [Function.update_of_ne hne]
    exact hx

theorem Free.send (sent : Sent) (b : Bool) : Free c (c.send conn sent b) := by
  refine Free.block hfree b _ [(conn, sent)] rfl ?_
  intro w hw
  rw [List.mem_singleton.mp hw]

theorem Free.sendAll (sent : List Sent) : Free c (c.sendAll conn sent) := by
  refine ⟨⟨sent.map fun s => (conn, s), rfl, ?_⟩, fun x hx => hx⟩
  intro w hw
  obtain ⟨s, _, rfl⟩ := List.mem_map.mp hw
  exact hfree

end FreeMoves

theorem Got.toFree {conn : Conn} (h : Got c conn c₁) : Free c c₁ := Free.of_eq h.log h.inBlock

theorem Got.free₁ {conn : Conn} (h : Got c conn c₁) : c₁.inBlock conn = false := by
  rw [h.inBlock]
  exact h.free

theorem NotGot.toFree (h : NotGot c c₁) : Free c c₁ := Free.of_eq h.log h.inBlock

/-! ## Over the driver, outside a transaction -/

structure Outside (c c' : Connector) : Prop where
  tidy : Tidy c' []
  free : Free c c'

theorem Outside.after (h : Outside b c) (hfree : Free a b) : Outside a c := ⟨h.tidy, hfree.trans h.free⟩

section OutsideHand

variable {c : Connector} {conn : Conn} (h : Tidy c [conn]) (hfree : c.inBlock conn = false)

include h hfree

theorem outside_putConn : Outside c (c.putConn conn) :=
  ⟨h.putConn hfree, Free.of_eq (putConn_log c conn) (putConn_inBlock c conn)⟩

theorem outside_spawn : Outside c (c.spawnProducer conn false) := ⟨h.spawn false (fun _ => hfree), Free.of_eq rfl rfl⟩

theorem outside_streamRaw (mode : ExecuteMode) (io : PoolIo) : Outside c (streamRaw c conn mode false io).2 := by
  unfold streamRaw
  split
  · exact outside_putConn h hfree
  split
  · exact outside_putConn h hfree
  · exact outside_putConn h hfree
  · exact outside_spawn h hfree

theorem outside_runExecute (io : PoolIo) : Outside c (runExecute c conn false io).2 := by
  unfold runExecute
  split <;> exact outside_putConn h hfree

theorem outside_streamPrepared (mode : ExecuteMode) (columns : List Column) (io : PoolIo) :
    Outside c (streamPrepared c conn mode false columns io).2 := by
  unfold streamPrepared
  split
  · exact outside_runExecute h hfree io
  split
  · exact outside_putConn h hfree
  · exact outside_runExecute h hfree io
  split
  · exact outside_putConn h hfree
  · exact outside_putConn h hfree
  · exact outside_spawn h hfree

end OutsideHand

section OutsideCommands

variable {c : Connector} (h : Tidy c []) (endpoint : EndpointConfig) (session : SessionState)

include h

theorem connForStatement_outside (io : PoolIo) :
    (∃ e c₁, connForStatement c false endpoint session io = (.failed e, c₁) ∧ NotGot c c₁) ∨
    ∃ conn c₁, connForStatement c false endpoint session io = (.on conn, c₁) ∧ Got c conn c₁ := by
  unfold connForStatement
  rcases got_acquireConn h endpoint session io.acquire with ⟨e, c₁, hget, hnot⟩ | ⟨conn, c₁, hget, hgot⟩
  · rw [hget]
    exact .inl ⟨e, c₁, rfl, hnot⟩
  · rw [hget]
    exact .inr ⟨conn, c₁, rfl, hgot⟩

theorem outside_executeSimpleQueryStreaming (sql : String) (mode : ExecuteMode) {io : PoolIo}
    (hafter : io.blockAfter = false) :
    Outside c (executeSimpleQueryStreaming c endpoint sql session mode false io).2 := by
  unfold executeSimpleQueryStreaming
  rcases connForStatement_outside h endpoint session io with ⟨e, c₁, hget, hnot⟩ | ⟨conn, c₁, hget, hgot⟩
  · rw [hget]
    exact ⟨hnot.tidy, hnot.toFree⟩
  · rw [hget]
    dsimp only
    split
    · exact (outside_putConn hgot.tidy hgot.free₁).after hgot.toFree
    · have hsent : Free c (c₁.send conn (.simpleQuery sql) io.blockAfter) :=
        hgot.toFree.trans (Free.send hgot.free₁ _ _)
      refine (outside_streamRaw (hgot.tidy.send _ _) ?_ mode io).after hsent
      rw [hafter]
      exact Function.update_self conn false c₁.inBlock

theorem outside_executeParamQueryStreaming (sql : String) (parameters : List GatewayValue)
    (mode : ExecuteMode) {io : PoolIo} (hafter : io.blockAfter = false) :
    Outside c (executeParamQueryStreaming c endpoint sql parameters session mode false io).2 := by
  unfold executeParamQueryStreaming
  split
  · exact ⟨h, Free.refl c⟩
  split
  · exact outside_executeSimpleQueryStreaming h endpoint session sql mode hafter
  rcases connForStatement_outside h endpoint session io with ⟨e, c₁, hget, hnot⟩ | ⟨conn, c₁, hget, hgot⟩
  · rw [hget]
    exact ⟨hnot.tidy, hnot.toFree⟩
  · rw [hget]
    dsimp only
    split
    · exact (outside_putConn hgot.tidy hgot.free₁).after hgot.toFree
    split
    · exact (outside_putConn hgot.tidy hgot.free₁).after hgot.toFree
    · have hsent : Free c (c₁.send conn (.bound sql parameters) io.blockAfter) :=
        hgot.toFree.trans (Free.send hgot.free₁ _ _)
      refine (outside_streamPrepared (hgot.tidy.send _ _) ?_ mode _ io).after hsent
      rw [hafter]
      exact Function.update_self conn false c₁.inBlock

theorem outside_executeStreaming {command : GatewayCommand} (hrow : isRowCommand command = true)
    (mode : ExecuteMode) {io : CallIo} (hafter : io.pool.blockAfter = false) :
    Outside c (handled (executeStreaming c command session mode false io)) := by
  rcases executeStreaming_cases (c := c) hrow session mode false io with
    ⟨e, hcall⟩ | ⟨endpoint, sql, _, _, hcall⟩ | ⟨endpoint, sql, parameters, _, _, hcall⟩
  · rw [hcall]
    exact ⟨h, Free.refl c⟩
  · rw [hcall, handled_noRelay (noRelay_executeSimpleQueryStreaming c endpoint sql session mode false _)]
    exact outside_executeSimpleQueryStreaming h endpoint session sql mode hafter
  · rw [hcall, handled_noRelay
      (noRelay_executeParamQueryStreaming c endpoint sql parameters session mode false _)]
    exact outside_executeParamQueryStreaming h endpoint session sql parameters mode hafter

theorem outside_describeSql (sql : String) (io : PoolIo) (hleasing : c.leasing session = false) :
    Outside c (describeSql c sql session io).2 ∧ (describeSql c sql session io).2.inBlock = c.inBlock := by
  unfold describeSql
  split
  · exact ⟨⟨h, Free.refl c⟩, rfl⟩
  rename_i endpoint _
  rw [hleasing, if_neg Bool.false_ne_true]
  rcases got_acquireConn h endpoint session io.acquire with ⟨e, c₁, hget, hnot⟩ | ⟨conn, c₁, hget, hgot⟩
  · rw [hget]
    exact ⟨⟨hnot.tidy, hnot.toFree⟩, hnot.inBlock⟩
  · rw [hget]
    have hsent : Free c (c₁.sendAll conn [.prepare sql]) := hgot.toFree.trans (Free.sendAll hgot.free₁ _)
    refine ⟨(outside_putConn (hgot.tidy.sendAll _) hgot.free₁).after hsent, ?_⟩
    show ((c₁.sendAll conn [.prepare sql]).putConn conn).inBlock = c.inBlock
    rw [putConn_inBlock]
    exact hgot.inBlock

end OutsideCommands

/-! ## Over the driver, inside a transaction -/

structure Inside (c' : Connector) : Prop where
  tidy : Tidy c' []
  single : (poolOcc c').length ≤ 1

structure LeaseInHand (conn : Conn) (c₁ : Connector) : Prop where
  tidy : Tidy c₁ [conn]
  txnLease : c₁.txnLease = none
  noProducer : NoLeaseProducer c₁

theorem inside_of_noProducer (h : Tidy c' []) (hprod : NoLeaseProducer c') : Inside c' := by
  refine ⟨h, ?_⟩
  rw [hprod.poolOcc_eq]
  cases c'.txnLease with
  | none => exact Nat.zero_le 1
  | some conn => exact Nat.le_refl 1

section InsideHand

variable {c : Connector} {conn : Conn} (h : LeaseInHand conn c)

include h

theorem inside_giveBack : Inside (c.giveBack true conn) :=
  inside_of_noProducer (h.tidy.setLease h.txnLease) (h.noProducer.congr (setLease_producers _ _))

theorem inside_spawn : Inside (c.spawnProducer conn true) := by
  refine ⟨h.tidy.spawn true (fun hfalse => nomatch hfalse), ?_⟩
  rw [poolOcc_spawn h.txnLease h.noProducer]
  exact Nat.le_refl 1

theorem inside_streamRaw (mode : ExecuteMode) {io : PoolIo} {items : List SimpleItem}
    (hstart : io.start = .ok items) : Inside (streamRaw c conn mode true io).2 := by
  unfold streamRaw
  rw [hstart]
  dsimp only
  split
  · exact inside_giveBack h
  · exact inside_giveBack h
  · exact inside_spawn h

theorem inside_runExecute (io : PoolIo) : Inside (runExecute c conn true io).2 := by
  unfold runExecute
  split <;> exact inside_giveBack h

theorem inside_streamPrepared (mode : ExecuteMode) (columns : List Column) (io : PoolIo) :
    Inside (streamPrepared c conn mode true columns io).2 := by
  unfold streamPrepared
  split
  · exact inside_runExecute h io
  split
  · exact inside_giveBack h
  · exact inside_runExecute h io
  split
  · exact inside_giveBack h
  · exact inside_giveBack h
  · exact inside_spawn h

theorem LeaseInHand.send (sent : Sent) (b : Bool) : LeaseInHand conn (c.send conn sent b) :=
  ⟨h.tidy.send sent b, h.txnLease, h.noProducer⟩

end InsideHand

def Starts (io : PoolIo) : Prop := io.clientOpen = true ∧ ∃ items, io.start = .ok items

section InsideCommands

variable {c : Connector} (h : Tidy c []) (hprod : NoLeaseProducer c)
variable (endpoint : EndpointConfig) (session : SessionState)

include h hprod

theorem takeOrAcquireLease_inside (io : AcquireIo) :
    (∃ e c₁, c.takeOrAcquireLease endpoint session io = (.error e, c₁) ∧ Inside c₁) ∨
    ∃ conn c₁, c.takeOrAcquireLease endpoint session io = (.ok conn, c₁) ∧ LeaseInHand conn c₁ ∧
      (c.txnLease = none → c₁.inBlock conn = false) := by
  unfold Connector.takeOrAcquireLease
  cases hlease : c.txnLease with
  | some conn =>
    exact .inr ⟨conn, _, rfl, ⟨h.takeLease hlease, rfl, hprod.congr rfl⟩, nofun⟩
  | none =>
    have hsame := acquireConn_txnLease endpoint session c io
    have hproducers := acquireConn_producers c endpoint session io
    rcases got_acquireConn h endpoint session io with ⟨e, c₁, hget, hnot⟩ | ⟨conn, c₁, hget, hgot⟩
    · rw [hget] at hproducers
      exact .inl ⟨e, c₁, hget, inside_of_noProducer hnot.tidy (hprod.congr hproducers)⟩
    · rw [hget] at hsame hproducers
      refine .inr ⟨conn, c₁, hget, ?_, fun _ => hgot.free₁⟩
      exact ⟨hgot.tidy, hsame.trans hlease, hprod.congr hproducers⟩

/-- Whatever `BEGIN` answers, a connection that goes to the pool is outside a block. -/
theorem leaseForStatement_inside (io : PoolIo) :
    (∃ conn c₁, leaseForStatement c endpoint session io = (.on conn, c₁) ∧ LeaseInHand conn c₁) ∨
    ((∀ conn, (leaseForStatement c endpoint session io).1 ≠ .on conn) ∧
      Inside (leaseForStatement c endpoint session io).2) := by
  unfold leaseForStatement
  rcases takeOrAcquireLease_inside h hprod endpoint session io.acquire with
    ⟨e, c₁, hget, hin⟩ | ⟨conn, c₁, hget, hhand, hnew⟩
  · rw [hget]
    exact .inr ⟨nofun, hin⟩
  · rw [hget]
    dsimp only
    split
    · rename_i hnone
      have hfree : c₁.inBlock conn = false := hnew (Option.isNone_iff_eq_none.mp hnone)
      unfold executeOnConn
      cases hopen : io.clientOpen with
      | false =>
        refine .inr ⟨nofun, ?_⟩
        exact inside_of_noProducer (hhand.tidy.putConn hfree)
          (hhand.noProducer.congr (putConn_producers _ _))
      | true =>
        rw [if_pos rfl]
        cases hbegin : io.begin with
        | error e =>
          -- `BEGIN` was refused: no block
          have hafter : (c₁.send conn (.simpleQuery "BEGIN")
              (succeeded (.error e : Except GatewayError GatewayResponse) || c₁.inBlock conn)).inBlock
                conn = false := by
            rw [hfree]
            exact Function.update_self conn false c₁.inBlock
          refine .inr ⟨nofun, ?_⟩
          exact inside_of_noProducer ((hhand.tidy.send _ _).putConn hafter)
            (hhand.noProducer.congr (putConn_producers _ _))
        | ok response =>
          dsimp only
          split
          · exact .inl ⟨conn, _, rfl, hhand.send _ _⟩
          · exact .inr ⟨nofun, inside_giveBack (hhand.send _ _)⟩
    · exact .inl ⟨conn, c₁, rfl, hhand⟩

theorem inside_executeSimpleQueryStreaming (sql : String) (mode : ExecuteMode) {io : PoolIo} (hio : Starts io) :
    Inside (executeSimpleQueryStreaming c endpoint sql session mode true io).2 := by
  obtain ⟨hopen, items, hstart⟩ := hio
  have hconn : connForStatement c true endpoint session io = leaseForStatement c endpoint session io := rfl
  unfold executeSimpleQueryStreaming
  rw [hconn]
  rcases leaseForStatement_inside h hprod endpoint session io with ⟨conn, c₁, hget, hhand⟩ | ⟨hno, hin⟩
  · rw [hget, hopen]
    exact inside_streamRaw (hhand.send _ _) mode hstart
  · rcases hget : leaseForStatement c endpoint session io with ⟨e | response | conn, c₁⟩
    · rw [hget] at hin
      exact hin
    · rw [hget] at hin
      exact hin
    · rw [hget] at hno
      exact absurd rfl (hno conn)

theorem inside_executeParamQueryStreaming (sql : String) (parameters : List GatewayValue)
    (mode : ExecuteMode) {io : PoolIo} (hio : parameters.isEmpty = true → Starts io) :
    Inside (executeParamQueryStreaming c endpoint sql parameters session mode true io).2 := by
  have hconn : connForStatement c true endpoint session io = leaseForStatement c endpoint session io := rfl
  unfold executeParamQueryStreaming
  split
  · exact inside_of_noProducer h hprod
  split
  · rename_i hempty
    exact inside_executeSimpleQueryStreaming h hprod endpoint session sql mode (hio hempty)
  rw [hconn]
  rcases leaseForStatement_inside h hprod endpoint session io with ⟨conn, c₁, hget, hhand⟩ | ⟨hno, hin⟩
  · rw [hget]
    dsimp only
    split
    · exact inside_giveBack hhand
    split
    · exact inside_giveBack hhand
    · exact inside_streamPrepared (hhand.send _ _) mode _ io
  · rcases hget : leaseForStatement c endpoint session io with ⟨e | response | conn, c₁⟩
    · rw [hget] at hin
      exact hin
    · rw [hget] at hin
      exact hin
    · rw [hget] at hno
      exact absurd rfl (hno conn)

theorem inside_executeStreaming {command : GatewayCommand} (hrow : isRowCommand command = true)
    (mode : ExecuteMode) {io : CallIo} (hio : startsSimple command = true → Starts io.pool) :
    Inside (handled (executeStreaming c command session mode true io)) := by
  rcases executeStreaming_cases (c := c) hrow session mode true io with
    ⟨e, hcall⟩ | ⟨endpoint, sql, _, hsimple, hcall⟩ |
      ⟨endpoint, sql, parameters, _, hsimple, hcall⟩
  · rw [hcall]
    exact inside_of_noProducer h hprod
  · rw [hcall, handled_noRelay (noRelay_executeSimpleQueryStreaming c endpoint sql session mode true _)]
    exact inside_executeSimpleQueryStreaming h hprod endpoint session sql mode (hio hsimple)
  · rw [hcall, handled_noRelay
      (noRelay_executeParamQueryStreaming c endpoint sql parameters session mode true _)]
    refine inside_executeParamQueryStreaming h hprod endpoint session sql parameters mode ?_
    intro hempty
    exact hio (hsimple.trans hempty)

theorem inside_describeSql (sql : String) (io : PoolIo) (hleasing : c.leasing session = true) :
    Inside (describeSql c sql session io).2 := by
  unfold describeSql
  split
  · exact inside_of_noProducer h hprod
  rename_i endpoint _
  rw [hleasing, if_pos rfl]
  rcases takeOrAcquireLease_inside h hprod endpoint session io.acquire with
    ⟨e, c₁, hget, hin⟩ | ⟨conn, c₁, hget, hhand, _⟩
  · rw [hget]
    exact hin
  · rw [hget]
    have hsent : LeaseInHand conn (c₁.sendAll conn [.prepare sql]) :=
      ⟨hhand.tidy.sendAll _, hhand.txnLease, hhand.noProducer⟩
    exact inside_giveBack hsent

end InsideCommands

/-! ## Relayed -/

/-- The session in the transaction slot is outside a block. -/
def SlotFree (c : Connector) : Prop := ∀ x, c.tcpTxn = some x → c.inBlock x = false

/-- The relay slots hold nothing that is inside a block. -/
structure SlotsFree (c : Connector) : Prop where
  slot : SlotFree c
  hold : c.tcpExtHold = none

/-- If the session in the transaction slot is inside a block, the session state says so. -/
def SlotTold (state : TransactionState) (c : Connector) : Prop := state = .idle → SlotFree c

structure RelayInHand (c : Connector) (conn : Conn) (c₁ : Connector) : Prop where
  tidy : Tidy c₁ [conn]
  taken : c₁.tcpTxn = none
  samePool : SamePool c c₁
  hold : c₁.tcpExtHold = c.tcpExtHold
  free : SlotsFree c → Free c c₁ ∧ c.inBlock conn = false

structure Missed (c c₁ : Connector) : Prop where
  tidy : Tidy c₁ []
  samePool : SamePool c c₁
  slot : SlotFree c → SlotFree c₁
  empty : c.tcpTxn = none → c₁.tcpTxn = none
  hold : c.tcpExtHold = none → c₁.tcpExtHold = none
  free : SlotsFree c → Free c c₁

theorem Missed.refl (h : Tidy c []) : Missed c c := ⟨h, SamePool.refl c, id, id, id, fun _ => Free.refl c⟩

theorem Missed.slots (h : Missed c c₁) (hslots : SlotsFree c) : SlotsFree c₁ := ⟨h.slot hslots.slot, h.hold hslots.hold⟩

theorem slotFree_of_none (h : c.tcpTxn = none) : SlotFree c := by
  intro x hx
  rw [h] at hx
  cases hx

theorem RelayInHand.sendAll {conn : Conn} (h : RelayInHand c conn c₁) (sent : List Sent) :
    RelayInHand c conn (c₁.sendAll conn sent) := by
  refine ⟨h.tidy.sendAll sent, h.taken, h.samePool.trans (samePool_sendAll c₁ conn sent), h.hold, ?_⟩
  intro hslots
  obtain ⟨hfree, hconn⟩ := h.free hslots
  refine ⟨?_, hconn⟩
  obtain ⟨ws, hws, hall⟩ := hfree.writes
  refine ⟨⟨ws ++ sent.map fun s => (conn, s), ?_, ?_⟩, hfree.blocks⟩
  · show c₁.log ++ _ = _
    rw [hws, List.append_assoc]
  · intro w hw
    rcases List.mem_append.mp hw with hw | hw
    · exact hall w hw
    · obtain ⟨s, _, rfl⟩ := List.mem_map.mp hw
      exact hconn

theorem RelayInHand.missed {conn : Conn} (h : RelayInHand c conn c₁) : Missed c c₁ :=
  ⟨h.tidy.close, h.samePool, fun _ => slotFree_of_none h.taken, fun _ => h.taken,
    fun hnone => h.hold.trans hnone, fun hslots => (h.free hslots).1⟩

/-- What the gateway knows at the end of a response: the server said it, or there is no block. -/
def Tells (response : RelayEnd) : Prop :=
  (response.failed = none ∧ response.readyStatus.isSome) ∨ response.inBlock = false

def RelayEnd.reportsBlock (response : RelayEnd) : Prop :=
  response.readyStatus = some 84 ∨ response.readyStatus = some 69

/-- The end of a relayed call, after the engine has handled it; `responses` are those it may have read. -/
structure Ended (responses : List RelayEnd) (c : Connector) (state : TransactionState)
    (p : SessionState × Connector) : Prop where
  tidy : Tidy p.2 []
  poolOcc : poolOcc p.2 = poolOcc c
  free : SlotsFree c → Free c p.2
  told : SlotTold state c → SlotTold p.1.transactionState p.2
  /-- An idle session leaves that state only because the server says so. -/
  leaves : state = .idle → p.1.transactionState ≠ .idle → ∃ response ∈ responses, response.reportsBlock

theorem Ended.after {responses : List RelayEnd} {state : TransactionState} (h : Ended responses b state p)
    (hmiss : Missed a b) : Ended responses a state p := by
  refine ⟨h.tidy, h.poolOcc.trans (poolOcc_congr hmiss.samePool), ?_, ?_, h.leaves⟩
  · intro hslots
    exact (hmiss.free hslots).trans (h.free (hmiss.slots hslots))
  · intro htold
    refine h.told ?_
    intro hidle
    exact hmiss.slot (htold hidle)

theorem Ended.mono {responses responses' : List RelayEnd} {state : TransactionState}
    (h : Ended responses c state p) (hsub : responses ⊆ responses') : Ended responses' c state p := by
  refine ⟨h.tidy, h.poolOcc, h.free, h.told, ?_⟩
  intro hidle hafter
  obtain ⟨response, hmem, hreports⟩ := h.leaves hidle hafter
  exact ⟨response, hsub hmem, hreports⟩

theorem idle_of_afterError {t : TransactionState} (h : t.afterError = .idle) : t = .idle := by
  cases t <;> first | rfl | cases h

theorem idle_of_noRelay (hno : NoRelay r) {session : SessionState}
    (h : (afterOutcome session c r).1.transactionState = .idle) : session.transactionState = .idle := by
  rcases r with e | outcome
  · exact idle_of_afterError h
  · cases outcome with
    | complete response => cases response <;> first | exact h | exact idle_of_afterError h
    | streaming columns windows => exact h
    | wireRelay relay => exact absurd rfl (hno relay)

theorem noRelay_idle (hno : NoRelay r) {session : SessionState} (h : session.transactionState = .idle) :
    (afterOutcome session c r).1.transactionState = .idle := by
  have hafter : (observeError session).transactionState = .idle := by
    unfold observeError
    rw [h]
    rfl
  rcases r with e | outcome
  · exact hafter
  · cases outcome with
    | complete response => cases response <;> first | exact h | exact hafter
    | streaming columns windows => exact h
    | wireRelay relay => exact absurd rfl (hno relay)

theorem ended_missed {responses : List RelayEnd} {session : SessionState} (hno : NoRelay r) (h : Missed c c₁) :
    Ended responses c session.transactionState (afterOutcome session c₁ r) := by
  have hconn : (afterOutcome session c₁ r).2 = c₁ := handled_noRelay (r := (r, c₁)) hno session
  refine ⟨?_, ?_, ?_, ?_, ?_⟩
  · rw [hconn]
    exact h.tidy
  · rw [hconn]
    exact poolOcc_congr h.samePool
  · rw [hconn]
    exact h.free
  · intro htold hidle
    rw [hconn]
    exact h.slot (htold (idle_of_noRelay hno hidle))
  · intro hidle hafter
    exact absurd (noRelay_idle hno hidle) hafter

section Finish

variable {c c₁ : Connector} {conn : Conn} (h : RelayInHand c conn c₁) (returnTo : SessionReturn)
variable (response : RelayEnd)

include h

omit h in
theorem tidy_finishSession (htidy : Tidy c₁ [conn]) (hidle : returnTo = .idle → response.inBlock = false) :
    Tidy (c₁.finishSession ⟨conn, returnTo, response⟩) [] := by
  have hblock : Tidy { c₁ with inBlock := Function.update c₁.inBlock conn response.inBlock } [conn] :=
    htidy.block response.inBlock c₁.log
  have hself : Function.update c₁.inBlock conn response.inBlock conn = response.inBlock :=
    Function.update_self conn response.inBlock c₁.inBlock
  unfold Connector.finishSession Connector.returnSession
  cases returnTo with
  | drop => exact hblock.close
  | txn => exact hblock.setTcpTxn
  | hold => exact hblock.setHold
  | idle => exact hblock.putIdle (hself.trans (hidle rfl))
  | idleOrTxn =>
    dsimp only
    split
    · rename_i hready
      refine hblock.putIdle (hself.trans ?_)
      unfold RelayEnd.inBlock
      rw [hready]
      rfl
    · exact hblock.setTcpTxn
    · exact hblock.setTcpTxn
    · exact hblock.close

omit h in
theorem finishSession_inBlock (relay : WireRelay) : (c₁.finishSession relay).inBlock =
      Function.update c₁.inBlock relay.conn relay.response.inBlock := by
  have hidle : ∀ (c : Connector) (conn : Conn), (c.putIdle conn).inBlock = c.inBlock := by
    intro c conn
    rw [putIdle_eq]
  unfold Connector.finishSession Connector.returnSession
  split
  · rfl
  · rfl
  · rfl
  · exact hidle _ _
  split
  · exact hidle _ _
  all_goals rfl

theorem free_finishSession (hslots : SlotsFree c) : Free c (c₁.finishSession ⟨conn, returnTo, response⟩) := by
  obtain ⟨hfree, hconn⟩ := h.free hslots
  obtain ⟨ws, hws, hall⟩ := hfree.writes
  refine ⟨⟨ws, ?_, hall⟩, ?_⟩
  · rw [finishSession_log]
    exact hws
  · intro x hx
    have hne : x ≠ conn := by
      intro heq
      rw [heq, hconn] at hx
      cases hx
    rw [finishSession_inBlock, Function.update_of_ne hne]
    exact hfree.blocks x hx

theorem slot_finishSession {x : Conn} (hx : (c₁.finishSession ⟨conn, returnTo, response⟩).tcpTxn = some x) :
    (c₁.finishSession ⟨conn, returnTo, response⟩).inBlock x = response.inBlock := by
  have hidle : ∀ (c : Connector) (conn : Conn), (c.putIdle conn).tcpTxn = c.tcpTxn := by
    intro c conn
    rw [putIdle_eq]
  have hself : Function.update c₁.inBlock conn response.inBlock conn = response.inBlock :=
    Function.update_self conn response.inBlock c₁.inBlock
  unfold Connector.finishSession Connector.returnSession at hx ⊢
  cases returnTo with
  | drop =>
    dsimp only at hx
    rw [h.taken] at hx
    cases hx
  | txn =>
    cases hx
    exact hself
  | hold =>
    dsimp only at hx
    rw [h.taken] at hx
    cases hx
  | idle =>
    dsimp only at hx
    rw [hidle, h.taken] at hx
    cases hx
  | idleOrTxn =>
    dsimp only at hx ⊢
    split at hx
    · rw [hidle, h.taken] at hx
      cases hx
    · cases hx
      exact hself
    · cases hx
      exact hself
    · rw [h.taken] at hx
      cases hx

omit h in
theorem inBlock_of_idle {session : SessionState} (htells : session.transactionState = .idle → Tells response)
    (hidle : (afterOutcome session c₁ (.ok (.wireRelay ⟨conn, returnTo, response⟩))).1.transactionState =
      .idle) : response.inBlock = false := by
  unfold afterOutcome at hidle
  dsimp only at hidle
  cases hfailed : response.failed with
  | some e =>
    rw [hfailed] at hidle
    rcases htells hidle with ⟨hnone, _⟩ | hfree
    · rw [hfailed] at hnone
      cases hnone
    · exact hfree
  | none =>
    rw [hfailed] at hidle
    dsimp only at hidle
    unfold observeRelay at hidle
    cases hready : response.readyStatus with
    | some status =>
      rw [hready] at hidle
      dsimp only at hidle
      unfold RelayEnd.inBlock
      rw [hready]
      unfold stateOfReady at hidle
      split at hidle
      · cases hidle
      split at hidle
      · cases hidle
      · rename_i h84 h69
        dsimp only
        rw [Bool.eq_false_iff.mpr h84, Bool.eq_false_iff.mpr h69]
        rfl
    | none =>
      rw [hready] at hidle
      dsimp only at hidle
      have hstate : session.transactionState = .idle := by
        split at hidle
        · exact idle_of_afterError hidle
        · exact hidle
      rcases htells hstate with ⟨_, hsome⟩ | hfree
      · rw [hready] at hsome
        cases hsome
      · exact hfree

omit h in
theorem reportsBlock_of_left (session : SessionState) (hpre : session.transactionState = .idle)
    (hafter : (afterOutcome session c₁ (.ok (.wireRelay ⟨conn, returnTo, response⟩))).1.transactionState ≠ .idle) :
    response.reportsBlock := by
  unfold afterOutcome at hafter
  dsimp only at hafter
  cases hfailed : response.failed with
  | some e =>
    rw [hfailed] at hafter
    exact absurd hpre hafter
  | none =>
    rw [hfailed] at hafter
    dsimp only at hafter
    unfold observeRelay at hafter
    cases hready : response.readyStatus with
    | some status =>
      rw [hready] at hafter
      dsimp only at hafter
      unfold stateOfReady at hafter
      unfold RelayEnd.reportsBlock
      rw [hready]
      by_cases h84 : status = 84
      · exact .inl (by rw [h84])
      · by_cases h69 : status = 69
        · exact .inr (by rw [h69])
        · simp [h84, h69] at hafter
    | none =>
      rw [hready] at hafter
      dsimp only at hafter
      refine absurd ?_ hafter
      split
      · show session.transactionState.afterError = .idle
        rw [hpre]
        rfl
      · exact hpre

theorem ended_relay {session : SessionState} (hidle : returnTo = .idle → response.inBlock = false)
    (htells : returnTo ≠ .hold → session.transactionState = .idle → Tells response) :
    Ended [response] c session.transactionState (afterOutcome session c₁ (.ok (.wireRelay ⟨conn, returnTo, response⟩))) := by
  have hconn : (afterOutcome session c₁ (.ok (.wireRelay ⟨conn, returnTo, response⟩))).2 =
      c₁.finishSession ⟨conn, returnTo, response⟩ := handled_wireRelay _ session c₁
  refine ⟨?_, ?_, ?_, ?_, ?_⟩
  · rw [hconn]
    exact tidy_finishSession returnTo response h.tidy hidle
  · rw [hconn]
    exact poolOcc_congr (h.samePool.trans (samePool_finishSession c₁ _))
  · rw [hconn]
    exact free_finishSession h returnTo response
  · intro _ hafter
    rw [hconn]
    by_cases hhold : returnTo = .hold
    · refine slotFree_of_none ?_
      rw [hhold]
      exact h.taken
    · intro x hx
      rw [slot_finishSession h returnTo response hx]
      exact inBlock_of_idle returnTo response (htells hhold) hafter
  · intro hpre hafter
    exact ⟨response, List.mem_singleton.mpr rfl, reportsBlock_of_left returnTo response session hpre hafter⟩

end Finish

section RelaySessions

variable {c : Connector} (h : Tidy c []) (endpoint : EndpointConfig) (session : SessionState)

include h

theorem takeOrConnect_cases (htcp : c.tcpTxn = none) (database : String) (io : RelayIo) :
    (∃ e c₁, c.takeOrConnect endpoint database io = (.error e, c₁) ∧ Missed c c₁) ∨
    ∃ conn c₁, c.takeOrConnect endpoint database io = (.ok conn, c₁) ∧ RelayInHand c conn c₁ := by
  have hsame := samePool_takeOrConnect c endpoint io database
  have hslots : (c.takeOrConnect endpoint database io).2.tcpTxn = c.tcpTxn ∧
      (c.takeOrConnect endpoint database io).2.tcpExtHold = c.tcpExtHold := by
    unfold Connector.takeOrConnect Connector.openSession
    split
    · exact ⟨rfl, rfl⟩
    · split <;> exact ⟨rfl, rfl⟩
  rcases got_takeOrConnect h endpoint database io with ⟨e, c₁, hget, hnot⟩ | ⟨conn, c₁, hget, hgot⟩
  · rw [hget] at hsame hslots
    have hempty : c₁.tcpTxn = none := hslots.1.trans htcp
    exact .inl ⟨e, c₁, hget, hnot.tidy, hsame, fun _ => slotFree_of_none hempty, fun _ => hempty,
      fun hnone => hslots.2.trans hnone, fun _ => hnot.toFree⟩
  · rw [hget] at hsame hslots
    exact .inr ⟨conn, c₁, hget, hgot.tidy, hslots.1.trans htcp, hsame, hslots.2, fun _ => ⟨hgot.toFree, hgot.free⟩⟩

/-- A session of the transaction: the one in the slot, or a new one with `BEGIN`. -/
theorem tcpTxnSession_inHand (io : RelayIo) :
    (∃ conn c₁, tcpTxnSession c endpoint session io = (.on conn, c₁) ∧ RelayInHand c conn c₁) ∨
    ((∀ conn, (tcpTxnSession c endpoint session io).1 ≠ .on conn) ∧
      Missed c (tcpTxnSession c endpoint session io).2) := by
  unfold tcpTxnSession Connector.takeOrOpenTcpTxn
  cases htcp : c.tcpTxn with
  | some conn =>
    refine .inl ⟨conn, { c with tcpTxn := none }, rfl, h.takeTcpTxn htcp, rfl, ⟨rfl, rfl, rfl⟩, rfl, ?_⟩
    exact fun hslots => ⟨Free.of_eq rfl rfl, hslots.slot conn htcp⟩
  | none =>
    cases hdb : effectiveDatabase endpoint session with
    | error e => exact .inr ⟨nofun, Missed.refl h⟩
    | ok database =>
      dsimp only
      have hsame := samePool_openSession c io (tcpPoolKey endpoint database)
      have hslots : (c.openSession (tcpPoolKey endpoint database) io).2.tcpTxn = c.tcpTxn ∧
          (c.openSession (tcpPoolKey endpoint database) io).2.tcpExtHold = c.tcpExtHold := by
        unfold Connector.openSession
        split <;> exact ⟨rfl, rfl⟩
      rcases got_openSession h (tcpPoolKey endpoint database) io with
        ⟨e, c₁, hget, hnot⟩ | ⟨conn, c₁, hget, hgot⟩
      · rw [hget] at hsame hslots ⊢
        have hempty : c₁.tcpTxn = none := hslots.1.trans htcp
        exact .inr ⟨nofun, hnot.tidy, hsame, fun _ => slotFree_of_none hempty, fun _ => hempty,
          fun hnone => hslots.2.trans hnone, fun _ => hnot.toFree⟩
      · rw [hget] at hsame hslots ⊢
        dsimp only
        rw [if_pos rfl]
        have hin : ∀ b, RelayInHand c conn (c₁.send conn (.simpleQuery "BEGIN") b) := by
          intro b
          refine ⟨hgot.tidy.send _ _, hslots.1.trans htcp, hsame.trans (samePool_send c₁ conn _ b), hslots.2, ?_⟩
          exact fun _ => ⟨hgot.toFree.trans (Free.send hgot.free₁ _ _), hgot.free⟩
        cases io.begin with
        | error e => exact .inr ⟨nofun, (hin false).missed⟩
        | ok packets =>
          dsimp only
          split
          · exact .inr ⟨nofun, (hin false).missed⟩
          · exact .inl ⟨conn, _, rfl, hin true⟩

end RelaySessions

/-! ## Relayed commands -/

theorem ended_relayInto {conn : Conn} (hon : RelayInHand c conn c₁) (sent : List Sent)
    (returnTo : SessionReturn) (io : RelayIo) (session : SessionState)
    (hidle : returnTo = .idle → io.response.inBlock = false)
    (htells : returnTo ≠ .hold → session.transactionState = .idle → Tells io.response) :
    Ended [io.response] c session.transactionState (afterOutcome session (relayInto c₁ conn sent returnTo io).2
      (relayInto c₁ conn sent returnTo io).1) := by
  unfold relayInto
  cases io.write with
  | error e => exact ended_missed nofun (hon.sendAll sent).missed
  | ok _ => exact ended_relay (hon.sendAll sent) returnTo io.response hidle htells

theorem ended_collectInto {conn : Conn} (hon : RelayInHand c conn c₁) (sql : String) {returnTo : SessionReturn}
    (hreturn : returnTo ≠ .idle) (io : RelayIo) {session : SessionState}
    (hblock : session.transactionState = .idle → io.response.inBlock = false) :
    Ended [io.response] c session.transactionState (afterOutcome session (completed (withSession session
      (collectInto c₁ conn sql returnTo io))).2.2
      (completed (withSession session (collectInto c₁ conn sql returnTo io))).1) := by
  have hsent := hon.sendAll [.simpleQuery sql]
  have hfinish : ∀ {r : Except GatewayError Outcome}, NoRelay r →
      Ended [io.response] c session.transactionState (afterOutcome session
        ((c₁.sendAll conn [.simpleQuery sql]).finishSession ⟨conn, returnTo, io.response⟩) r) := by
    intro r hno
    have hconn : (afterOutcome session ((c₁.sendAll conn [.simpleQuery sql]).finishSession
        ⟨conn, returnTo, io.response⟩) r).2 = (c₁.sendAll conn [.simpleQuery sql]).finishSession
        ⟨conn, returnTo, io.response⟩ := handled_noRelay (r := (r, _)) hno session
    refine ⟨?_, ?_, ?_, ?_, ?_⟩
    · rw [hconn]
      exact tidy_finishSession returnTo io.response hsent.tidy (fun h => absurd h hreturn)
    · rw [hconn]
      exact poolOcc_congr (hsent.samePool.trans (samePool_finishSession _ _))
    · rw [hconn]
      exact free_finishSession hsent returnTo io.response
    · intro _ hidle x hx
      rw [hconn] at hx ⊢
      rw [slot_finishSession hsent returnTo io.response hx]
      exact hblock (idle_of_noRelay hno hidle)
    · intro hidle hafter
      exact absurd (noRelay_idle hno hidle) hafter
  unfold collectInto relayInto
  cases io.write with
  | error e => exact ended_missed nofun hsent.missed
  | ok _ =>
    dsimp only
    cases io.response.failed with
    | some e =>
      dsimp only
      split
      · exact hfinish nofun
      · exact ended_missed nofun hsent.missed
    | none => exact hfinish nofun

/-- The relay takes the statement if it gets as far as writing it. -/
structure RelayStarts (io : RelayIo) : Prop where
  connect : io.connect = .ok ()
  begin : ∃ packets, io.begin = .ok packets ∧ packets.any (fun p => p.head? == some 69) = false
  write : io.write = .ok ()

section RelayCommands

variable {c : Connector} (h : Tidy c []) (endpoint : EndpointConfig) (session : SessionState)

include h

variable {b : Bool}

theorem ended_executeSimpleQueryTcpRelay (sql : String) (hb : b = false → c.tcpTxn = none) {io : RelayIo}
    (htells : session.transactionState = .idle → Tells io.response) :
    Ended [io.response] c session.transactionState (afterOutcome session (executeSimpleQueryTcpRelay c endpoint sql session b io).2
      (executeSimpleQueryTcpRelay c endpoint sql session b io).1) := by
  unfold executeSimpleQueryTcpRelay
  cases b with
  | true =>
    rw [if_pos rfl]
    rcases tcpTxnSession_inHand h endpoint session io with ⟨conn, c₁, hget, hon⟩ | ⟨hno, hmiss⟩
    · rw [hget]
      exact ended_relayInto hon _ .txn io session nofun (fun _ => htells)
    · rcases hget : tcpTxnSession c endpoint session io with ⟨e | packets | conn, c₁⟩
      · rw [hget] at hmiss
        exact ended_missed nofun hmiss
      · rw [hget] at hmiss
        exact ended_missed nofun hmiss
      · rw [hget] at hno
        exact absurd rfl (hno conn)
  | false =>
    rw [if_neg Bool.false_ne_true]
    split
    · exact ended_missed nofun (Missed.refl h)
    rename_i database _
    rcases takeOrConnect_cases h endpoint (hb rfl) database io with
      ⟨e, c₁, hget, hmiss⟩ | ⟨conn, c₁, hget, hon⟩
    · rw [hget]
      exact ended_missed nofun hmiss
    · rw [hget]
      exact ended_relayInto hon _ .idleOrTxn io session nofun (fun _ => htells)

theorem ended_executeSimpleQueryWire (sql : String) {io : RelayIo}
    (hblock : session.transactionState = .idle → io.response.inBlock = false) :
    Ended [io.response] c session.transactionState (afterOutcome session
      (completed (withSession session (executeSimpleQueryWire c endpoint sql session io))).2.2
      (completed (withSession session (executeSimpleQueryWire c endpoint sql session io))).1) := by
  unfold executeSimpleQueryWire
  cases hin : c.inTxn session with
  | true =>
    rw [if_pos rfl]
    rcases tcpTxnSession_inHand h endpoint session io with ⟨conn, c₁, hget, hon⟩ | ⟨hno, hmiss⟩
    · rw [hget]
      exact ended_collectInto hon sql (nofun : SessionReturn.txn ≠ .idle) io hblock
    · rcases hget : tcpTxnSession c endpoint session io with ⟨e | packets | conn, c₁⟩
      · rw [hget] at hmiss
        exact ended_missed nofun hmiss
      · rw [hget] at hmiss
        exact ended_missed nofun hmiss
      · rw [hget] at hno
        exact absurd rfl (hno conn)
  | false =>
    have htcp : c.tcpTxn = none := by
      unfold Connector.inTxn at hin
      exact Option.not_isSome_iff_eq_none.mp (Bool.eq_false_iff.mp (Bool.or_eq_false_iff.mp hin).2)
    rw [if_neg Bool.false_ne_true]
    split
    · exact ended_missed nofun (Missed.refl h)
    rename_i database _
    rcases takeOrConnect_cases h endpoint htcp database io with
      ⟨e, c₁, hget, hmiss⟩ | ⟨conn, c₁, hget, hon⟩
    · rw [hget]
      exact ended_missed nofun hmiss
    · rw [hget]
      exact ended_collectInto hon sql (nofun : SessionReturn.idleOrTxn ≠ .idle) io hblock

/-- The text-bind relay; inside a transaction it comes to nothing only for want of a database, once it
    gets as far as writing. -/
theorem executeExtendedTextBindTcpRelay_ended (sql : String) (parameters : List GatewayValue)
    (hb : b = false → c.tcpTxn = none) {io : RelayIo} (hidle : b = false → io.response.inBlock = false)
    (htells : session.transactionState = .idle → Tells io.response) :
    (∃ outcome c₁, executeExtendedTextBindTcpRelay c endpoint sql parameters session b io =
      (.ok outcome, c₁) ∧ Ended [io.response] c session.transactionState (afterOutcome session c₁ (.ok outcome))) ∨
    ∃ e c₁, executeExtendedTextBindTcpRelay c endpoint sql parameters session b io = (.error e, c₁) ∧
      Missed c c₁ ∧ (b = true → RelayStarts io → c₁ = c ∧ ∃ e', effectiveDatabase endpoint session = .error e') := by
  -- a write that fails, or a relay
  have hwrite : ∀ (returnTo : SessionReturn) {conn : Conn} {c₁ : Connector}, RelayInHand c conn c₁ →
      (returnTo = .idle → io.response.inBlock = false) →
      (∃ outcome c₂, relayInto c₁ conn [.textBind sql parameters] returnTo io = (.ok outcome, c₂) ∧
        Ended [io.response] c session.transactionState (afterOutcome session c₂ (.ok outcome))) ∨
      ∃ e c₂, relayInto c₁ conn [.textBind sql parameters] returnTo io = (.error e, c₂) ∧
        Missed c c₂ ∧ ¬RelayStarts io := by
    intro returnTo conn c₁ hon hidle
    have hended := ended_relayInto hon [.textBind sql parameters] returnTo io session hidle
      (fun _ => htells)
    unfold relayInto at hended ⊢
    cases hio : io.write with
    | error e =>
      refine .inr ⟨e, _, rfl, (hon.sendAll _).missed, ?_⟩
      intro hstarts
      rw [hstarts.write] at hio
      cases hio
    | ok _ =>
      rw [hio] at hended
      exact .inl ⟨_, _, rfl, hended⟩
  unfold executeExtendedTextBindTcpRelay
  cases hdb : effectiveDatabase endpoint session with
  | error e => exact .inr ⟨e, c, rfl, Missed.refl h, fun _ _ => ⟨rfl, e, rfl⟩⟩
  | ok database =>
    dsimp only
    cases b with
    | true =>
      rw [if_pos rfl]
      rcases tcpTxnSession_inHand h endpoint session io with ⟨conn, c₁, hget, hon⟩ | ⟨hno, hmiss⟩
      · rw [hget]
        dsimp only
        rcases hwrite .txn hon nofun with
          ⟨outcome, c₂, hrelay, hended⟩ | ⟨e, c₂, hrelay, hmiss, hstarts⟩
        · exact .inl ⟨outcome, c₂, hrelay, hended⟩
        · exact .inr ⟨e, c₂, hrelay, hmiss, fun _ hio => absurd hio hstarts⟩
      · rcases hget : tcpTxnSession c endpoint session io with ⟨e | packets | conn, c₁⟩
        · rw [hget] at hmiss
          refine .inr ⟨e, c₁, rfl, hmiss, ?_⟩
          intro _ hio
          -- the session is there or can be opened, and `BEGIN` is accepted
          obtain ⟨packets, hbegin, haccepted⟩ := hio.begin
          unfold tcpTxnSession Connector.takeOrOpenTcpTxn Connector.openSession at hget
          rw [hdb, hio.connect, hbegin] at hget
          cases htcp : c.tcpTxn with
          | some conn =>
            rw [htcp] at hget
            cases hget
          | none =>
            rw [htcp] at hget
            dsimp only at hget
            rw [if_pos rfl, haccepted] at hget
            cases hget
        · rw [hget] at hmiss
          exact .inl ⟨_, c₁, rfl, ended_missed nofun hmiss⟩
        · rw [hget] at hno
          exact absurd rfl (hno conn)
    | false =>
      rw [if_neg Bool.false_ne_true]
      rcases takeOrConnect_cases h endpoint (hb rfl) database io with
        ⟨e, c₁, hget, hmiss⟩ | ⟨conn, c₁, hget, hon⟩
      · rw [hget]
        exact .inr ⟨e, c₁, rfl, hmiss, nofun⟩
      · rw [hget]
        dsimp only
        rcases hwrite .idle hon (fun _ => hidle rfl) with
          ⟨outcome, c₂, hrelay, hended⟩ | ⟨e, c₂, hrelay, hmiss, _⟩
        · exact .inl ⟨outcome, c₂, hrelay, hended⟩
        · exact .inr ⟨e, c₂, hrelay, hmiss, nofun⟩

omit h in
/-- A unit that is written to the session in hand ends, or the session is given up. -/
theorem writeUnit_ended {conn : Conn} {c₁ : Connector} (hon : RelayInHand c conn c₁) (frames : List ClientFrame)
    (io : RelayIo) :
    (∃ outcome session' c₂,
      (match relayInto c₁ conn (clientFramesHold frames) .hold io with
        | (.ok outcome, c) => (.ok outcome, { session with pgExtTcpHold := true }, c)
        | (.error e, c) =>
          (.error e, { session with pgClientExtendedFrames := frames, pgExtTcpHold := false }, c)) =
        ((.ok outcome : Except GatewayError Outcome), session', c₂) ∧
      Ended [io.response] c session.transactionState (afterOutcome session' c₂ (.ok outcome))) ∨
    ∃ e session' c₂,
      (match relayInto c₁ conn (clientFramesHold frames) .hold io with
        | (.ok outcome, c) => (.ok outcome, { session with pgExtTcpHold := true }, c)
        | (.error e, c) =>
          (.error e, { session with pgClientExtendedFrames := frames, pgExtTcpHold := false }, c)) =
        ((.error e : Except GatewayError Outcome), session', c₂) ∧
      Missed c c₂ ∧ session'.transactionState = session.transactionState := by
  have hended := ended_relayInto hon (clientFramesHold frames) .hold io
    { session with pgExtTcpHold := true } (by rintro ⟨⟩) (fun hne => absurd rfl hne)
  unfold relayInto at hended ⊢
  cases hio : io.write with
  | error e => exact .inr ⟨e, _, _, rfl, (hon.sendAll _).missed, rfl⟩
  | ok _ =>
    rw [hio] at hended
    exact .inl ⟨_, _, _, rfl, hended⟩

theorem relayUnit_ended (frames : List ClientFrame) (hb : b = false → c.tcpTxn = none) (io : RelayIo) :
    (∃ outcome session' c₁, relayUnit c endpoint frames session b io = (.ok outcome, session', c₁) ∧
      Ended [io.response] c session.transactionState (afterOutcome session' c₁ (.ok outcome))) ∨
    ∃ e session' c₁, relayUnit c endpoint frames session b io = (.error e, session', c₁) ∧
      Missed c c₁ ∧ session'.transactionState = session.transactionState := by
  unfold relayUnit openFrameSession
  split
  · exact .inr ⟨_, session, c, rfl, Missed.refl h, rfl⟩
  rename_i database _
  cases b with
  | true =>
    rw [if_pos rfl]
    rcases tcpTxnSession_inHand h endpoint session io with ⟨conn, c₁, hget, hon⟩ | ⟨hno, hmiss⟩
    · rw [hget]
      exact writeUnit_ended session hon frames io
    · rcases hget : tcpTxnSession c endpoint session io with ⟨e | packets | conn, c₁⟩
      · rw [hget] at hmiss
        exact .inr ⟨_, _, c₁, rfl, hmiss, rfl⟩
      · rw [hget] at hmiss
        exact .inr ⟨_, _, c₁, rfl, hmiss, rfl⟩
      · rw [hget] at hno
        exact absurd rfl (hno conn)
  | false =>
    rw [if_neg Bool.false_ne_true]
    rcases takeOrConnect_cases h endpoint (hb rfl) database io with
      ⟨e, c₁, hget, hmiss⟩ | ⟨conn, c₁, hget, hon⟩
    · rw [hget]
      exact .inr ⟨_, _, c₁, rfl, hmiss, rfl⟩
    · rw [hget]
      exact writeUnit_ended session hon frames io

omit h in
theorem idle_of_quiet (session : SessionState) {relay : WireRelay} (hquiet : relay.response.readyStatus = none)
    (hidle : (afterOutcome session c (.ok (.wireRelay relay))).1.transactionState = .idle) :
    session.transactionState = .idle := by
  unfold afterOutcome at hidle
  dsimp only at hidle
  cases hfailed : relay.response.failed with
  | some e =>
    rw [hfailed] at hidle
    exact hidle
  | none =>
    rw [hfailed] at hidle
    dsimp only at hidle
    unfold observeRelay at hidle
    rw [hquiet] at hidle
    dsimp only at hidle
    split at hidle
    · exact idle_of_afterError hidle
    · exact hidle

/-- A held unit that is continued.  Before Sync the server says nothing about the transaction. -/
theorem resumeHeldUnit_ended (frames : List ClientFrame) {io : RelayIo}
    (hquiet : c.tcpTxn.isSome → io.response.readyStatus = none) :
    (∃ outcome session' c₁, resumeHeldUnit c frames session io = (.ok outcome, session', c₁) ∧
      Ended [io.response] c session.transactionState (afterOutcome session' c₁ (.ok outcome))) ∨
    ∃ e session' c₁, resumeHeldUnit c frames session io = (.error e, session', c₁) ∧
      Missed c c₁ ∧ session'.transactionState = session.transactionState := by
  unfold resumeHeldUnit
  cases hhold : c.tcpExtHold with
  | none => exact .inr ⟨_, _, c, rfl, Missed.refl h, rfl⟩
  | some conn =>
    have htaken := h.takeHold hhold
    have hnot : ¬SlotsFree c := by
      intro hslots
      have hnone := hslots.hold
      rw [hhold] at hnone
      cases hnone
    dsimp only
    unfold relayInto
    cases hio : io.write with
    | error e =>
      have htidy : Tidy ({ c with tcpExtHold := none }.sendAll conn (clientExecuteHold frames)) [] :=
        (htaken.sendAll _).close
      refine .inr ⟨e, _, _, rfl, ⟨htidy, ⟨rfl, rfl, rfl⟩, id, id, fun _ => rfl, ?_⟩, rfl⟩
      exact fun hslots => absurd hslots hnot
    | ok _ =>
      refine .inl ⟨_, _, _, rfl, ?_⟩
      have hconn : (afterOutcome { session with pgExtTcpHold := true }
          ({ c with tcpExtHold := none }.sendAll conn (clientExecuteHold frames))
          (.ok (.wireRelay ⟨conn, .hold, io.response⟩))).2 = _ := handled_wireRelay _ _ _
      refine ⟨?_, ?_, fun hslots => absurd hslots hnot, ?_, ?_⟩
      · rw [hconn]
        exact tidy_finishSession .hold io.response (htaken.sendAll _) nofun
      · rw [hconn]
        have hsame : SamePool c ({ c with tcpExtHold := none }.sendAll conn (clientExecuteHold frames)) :=
          ⟨rfl, rfl, rfl⟩
        exact poolOcc_congr (hsame.trans (samePool_finishSession _ _))
      · intro htold hidle x hx
        rw [hconn] at hx ⊢
        have htcp : c.tcpTxn = some x := hx
        have hne : x ≠ conn := by
          intro heq
          have hone := htaken.once x
          rw [heq] at hone htcp
          simp [owned, htcp] at hone
        rw [finishSession_inBlock, Function.update_of_ne hne]
        have hsilent : io.response.readyStatus = none := hquiet (by rw [htcp]; rfl)
        exact htold (idle_of_quiet { session with pgExtTcpHold := true } hsilent hidle) x htcp
      · intro hidle hafter
        exact ⟨io.response, List.mem_singleton.mpr rfl,
          reportsBlock_of_left .hold io.response { session with pgExtTcpHold := true } hidle
            hafter⟩

theorem executeClientExtendedFramesTcpRelay_ended (hb : b = false → c.tcpTxn = none) {io : RelayIo}
    (hquiet : resumes session = true → c.tcpTxn.isSome → io.response.readyStatus = none) :
    (∃ outcome session' c₁, executeClientExtendedFramesTcpRelay c endpoint session b io =
      (.ok outcome, session', c₁) ∧ Ended [io.response] c session.transactionState (afterOutcome session' c₁ (.ok outcome))) ∨
    ∃ e session' c₁, executeClientExtendedFramesTcpRelay c endpoint session b io =
      (.error e, session', c₁) ∧ Missed c c₁ ∧ session'.transactionState = session.transactionState := by
  unfold executeClientExtendedFramesTcpRelay
  split
  · exact .inr ⟨_, session, c, rfl, Missed.refl h, rfl⟩
  rename_i hframes
  split
  · rename_i hexec
    have hresumes : resumes session = true := by
      unfold resumes
      rw [hexec, Bool.eq_false_iff.mpr hframes]
      rfl
    exact resumeHeldUnit_ended h { session with pgClientExtendedFrames := [] }
      session.pgClientExtendedFrames (hquiet hresumes)
  · exact relayUnit_ended h endpoint { session with pgClientExtendedFrames := [] }
      session.pgClientExtendedFrames hb io

end RelayCommands

/-! ## Commands under Passthrough -/

/-- Session and connector after a call whose outcome the engine has handled. -/
def settled (r : Except GatewayError Outcome × SessionState × Connector) : SessionState × Connector :=
  afterOutcome r.2.1 r.2.2 r.1

/-- The command is a plain Query, which has no parameters to bind. -/
def isQuery : GatewayCommand → Bool
  | .query _ => true
  | _ => false

/-- What a relayed command must not meet, for a flag `b` that says whether it runs in the transaction. -/
structure RelayKeeps (session : SessionState) (command : GatewayCommand) (b : Bool) (io : CallIo) :
    Prop where
  /-- Inside the transaction the statement is not demoted to the driver. -/
  inside : isQuery command = false → b = true → RelayStarts io.textBind
  /-- Outside it opens no block. -/
  outside : isQuery command = false → b = false → io.pool.blockAfter = false ∧ io.textBind.response.inBlock = false
  /-- An idle session learns of a block that its statement opens. -/
  tellsQuery : isQuery command = true → session.transactionState = .idle →
    session.pgClientExtendedFrames.isEmpty = true → Tells io.relay.response
  tellsWire : isQuery command = true → session.transactionState = .idle →
    session.pgClientExtendedFrames.isEmpty = false → io.relay.response.inBlock = false
  tellsParams : isQuery command = false → session.transactionState = .idle → Tells io.textBind.response

def CallIo.responses (io : CallIo) : List RelayEnd := [io.relay.response, io.frames.response, io.textBind.response]

theorem relay_mem_responses (io : CallIo) : [io.relay.response] ⊆ io.responses := by
  intro response hmem
  rw [List.mem_singleton.mp hmem]
  exact List.mem_cons_self

theorem frames_mem_responses (io : CallIo) : [io.frames.response] ⊆ io.responses := by
  intro response hmem
  rw [List.mem_singleton.mp hmem]
  exact List.mem_cons_of_mem _ List.mem_cons_self

theorem textBind_mem_responses (io : CallIo) : [io.textBind.response] ⊆ io.responses := by
  intro response hmem
  rw [List.mem_singleton.mp hmem]
  exact List.mem_cons_of_mem _ (List.mem_cons_of_mem _ List.mem_cons_self)

section Passthrough

variable {c : Connector} (h : Tidy c []) {command : GatewayCommand}
variable (hrow : isRowCommand command = true) (session : SessionState) {io : CallIo}

include h hrow

theorem ended_streaming_outside (htcp : c.tcpTxn = none) (hafter : io.pool.blockAfter = false) :
    Ended io.responses c session.transactionState
      (settled (executeStreaming c command session demoted false io)) := by
  have hout := outside_executeStreaming h session hrow demoted hafter
  have hpool := poolOcc_executeStreaming_false (c := c) hrow session demoted io
  have hrelay := sameRelay_executeStreaming (c := c) hrow session demoted false io
  obtain ⟨hno, hsession⟩ := noRelay_executeStreaming (c := c) hrow session demoted false io
  refine ⟨hout.tidy, hpool, fun _ => hout.free, ?_, ?_⟩
  · intro _ _
    exact slotFree_of_none (hrelay.tcpTxn.trans htcp)
  · intro hidle hleft
    refine absurd (noRelay_idle hno ?_) hleft
    rw [hsession]
    exact hidle

variable {b : Bool}

theorem ended_streaming_failed (hsame : handled (executeStreaming c command session demoted b io) = c) :
    Ended io.responses c session.transactionState (settled (executeStreaming c command session demoted b io)) := by
  obtain ⟨hno, hsession⟩ := noRelay_executeStreaming (c := c) hrow session demoted b io
  rcases hcall : executeStreaming c command session demoted b io with ⟨r, session', c'⟩
  rw [hcall] at hno hsession hsame
  have hconn : c' = c := by
    rw [← hsame]
    exact (handled_noRelay (r := (r, c')) hno session').symm
  have hmiss : Missed c c' := by
    rw [hconn]
    exact Missed.refl h
  have hsession' : session' = session := hsession
  rw [← hsession']
  exact ended_missed hno hmiss

theorem ended_textBindOrDemote (hb : b = false → c.tcpTxn = none) (hlease : c.txnLease = none)
    (hquery : isQuery command = false) (hok : RelayKeeps session command b io) :
    Ended io.responses c session.transactionState (settled (textBindOrDemote c command session b io)) := by
  unfold textBindOrDemote
  cases htry : tryRelay c command with
  | none =>
    -- an unknown prepared statement
    cases command with
    | execute id parameters =>
      have hsql : c.preparedSql id = none := by
        unfold tryRelay at htry
        exact Option.map_eq_none_iff.mp htry
      refine ended_streaming_failed h hrow session ?_
      unfold executeStreaming
      dsimp only
      rw [hsql]
      rfl
    | query sql => cases hquery
    | queryParams sql parameters => cases htry
    | _ => cases hrow
  | some text =>
    dsimp only
    cases hend : selectEndpoint c session with
    | error e => exact ended_missed nofun (Missed.refl h)
    | ok endpoint =>
      dsimp only
      rcases executeExtendedTextBindTcpRelay_ended h endpoint session text.1 text.2 hb
        (fun hfalse => (hok.outside hquery hfalse).2) (hok.tellsParams hquery) with
        ⟨outcome, c₁, hget, hended⟩ | ⟨e, c₁, hget, hmiss, hstarts⟩
      · rw [hget]
        exact hended.mono (textBind_mem_responses io)
      · rw [hget]
        dsimp only
        cases b with
        | true =>
          obtain ⟨hsame, e', hdb⟩ := hstarts rfl (hok.inside hquery rfl)
          subst hsame
          exact ended_streaming_failed h hrow session
            (handled_executeStreaming_noDatabase htry hend hdb hlease demoted true io)
        | false =>
          have hended := ended_streaming_outside hmiss.tidy hrow session (hmiss.empty (hb rfl))
            (hok.outside hquery rfl).1
          exact hended.after hmiss

theorem ended_executeUnrelayed (hb : b = false → c.tcpTxn = none) (hlease : c.txnLease = none)
    (hframes : isQuery command = true → session.transactionState = .idle → io.relay.response.inBlock = false)
    (hok : RelayKeeps session command b io) : Ended io.responses c session.transactionState
      (settled (executeUnrelayed c command session b io)) := by
  unfold executeUnrelayed
  cases command with
  | query sql =>
    dsimp only
    unfold executeWithMode
    dsimp only
    cases hend : selectEndpoint c session with
    | error e => exact ended_missed nofun (Missed.refl h)
    | ok endpoint =>
      have hended := ended_executeSimpleQueryWire h endpoint session sql (hframes rfl)
      dsimp only
      unfold settled
      rw [if_pos (by rfl)]
      rcases hget : executeSimpleQueryWire c endpoint sql session io.relay with ⟨e | response, c₁⟩
      · rw [hget] at hended
        exact hended.mono (relay_mem_responses io)
      · rw [hget] at hended
        exact hended.mono (relay_mem_responses io)
  | queryParams sql parameters => exact ended_textBindOrDemote h hrow session hb hlease rfl hok
  | execute id parameters => exact ended_textBindOrDemote h hrow session hb hlease rfl hok
  | _ => cases hrow

theorem ended_executeOutcome_relay (hlease : c.txnLease = none) (hok : RelayKeeps session command (c.inTxn session) io)
    (hquiet : resumes session = true → c.tcpTxn.isSome → io.frames.response.readyStatus = none) :
    Ended io.responses c session.transactionState (settled (executeOutcome c command session .passthrough io)) := by
  have hb : c.inTxn session = false → c.tcpTxn = none := by
    intro hin
    unfold Connector.inTxn at hin
    exact Option.not_isSome_iff_eq_none.mp (Bool.eq_false_iff.mp (Bool.or_eq_false_iff.mp hin).2)
  rcases executeOutcome_relay_cases c hrow session io with
    ⟨e, hcall⟩ | ⟨hempty, sql, endpoint, hquery, hcall⟩ | ⟨hempty, hquery, hcall⟩ |
      ⟨_, endpoint, outcome, session', c₁, hget, hcall⟩ |
      ⟨hframes, endpoint, e, session', c₁, hget, hcall⟩
  · rw [hcall]
    exact ended_missed nofun (Missed.refl h)
  · rw [hcall]
    have htells := hok.tellsQuery (by rw [hquery]; rfl)
    have hended := ended_executeSimpleQueryTcpRelay h endpoint session sql hb
      (fun hidle => htells hidle hempty)
    exact hended.mono (relay_mem_responses io)
  · rw [hcall]
    refine ended_executeUnrelayed h hrow session hb hlease ?_ hok
    intro hq
    cases command with
    | query sql => exact absurd rfl (hquery sql)
    | _ => cases hq
  · rcases executeClientExtendedFramesTcpRelay_ended h endpoint session hb hquiet with
      ⟨outcome', session'', c₂, hget', hended⟩ | ⟨e', session'', c₂, hget', _⟩
    · rw [hget'] at hget
      cases hget
      rw [hcall]
      exact hended.mono (frames_mem_responses io)
    · rw [hget'] at hget
      cases hget
  · rcases executeClientExtendedFramesTcpRelay_ended h endpoint session hb hquiet with
      ⟨outcome', session'', c₂, hget', _⟩ | ⟨e', session'', c₂, hget', hmiss, hstate⟩
    · rw [hget'] at hget
      cases hget
    · rw [hget'] at hget
      cases hget
      rw [hcall]
      have hkeeps : RelayKeeps session' command (c.inTxn session) io := by
        refine ⟨hok.inside, hok.outside, ?_, ?_, ?_⟩
        · intro hq hidle _
          exact .inr (hok.tellsWire hq (hstate.symm.trans hidle) hframes)
        · intro hq hidle _
          exact hok.tellsWire hq (hstate.symm.trans hidle) hframes
        · intro hq hidle
          exact hok.tellsParams hq (hstate.symm.trans hidle)
      have hended := ended_executeUnrelayed hmiss.tidy hrow session'
        (fun hin => hmiss.empty (hb hin)) (hmiss.samePool.txnLease.trans hlease)
        (fun hq hidle => hok.tellsWire hq (hstate.symm.trans hidle) hframes) hkeeps
      rw [hstate] at hended
      exact hended.after hmiss

end Passthrough

end DataNexus.Backend
