/-
  The lease and the session: after COMMIT or ROLLBACK the lease is empty and stays so.

  COMMIT does not wait for the producer that has the leased connection: it finds an empty slot, sends nothing, and the
  producer later fills the lease of an idle session (`late_producer`).  `Keeps` leaves this out, and the other ways to
  lose track of a block: the autocommit Sync of an extended unit, a BEGIN inside a unit that runs over the driver, QUIT
  and a failed health check.

  In every run of steps that keep, an idle session has no lease and no producer that would refill it, and writes to
  connections outside a block only.
-/
import DataNexus.Backend.Blocks
import DataNexus.Backend.OneConnection

namespace DataNexus.Backend

open DataNexus.Run

/-! ## Steps that keep track -/

/-- The command finds its connection where it looks for it, and leaves no block behind. -/
structure KeepsRequest (s : Client) (r : Request) : Prop where
  /-- Over the driver inside a transaction: neither a producer nor the relay has its connection, and
      `simple_query_raw` starts. -/
  driverInside : isRowCommand r.command = true → r.mode.isPassthrough = false →
    s.connector.inTxn (r.session s) = true →
    NoLeaseProducer s.connector ∧ relayOcc s.connector = [] ∧ (startsSimple r.command = true → Starts r.io.pool)
  /-- Outside, the statement opens no block. -/
  driverOutside : isRowCommand r.command = true → r.mode.isPassthrough = false →
    s.connector.inTxn (r.session s) = false → r.io.pool.blockAfter = false
  describe : ∀ sql, r.command = .describeSql sql → s.connector.leasing (r.session s) = true →
    NoLeaseProducer s.connector ∧ relayOcc s.connector = []
  relay : r.overRelay = true → poolOcc s.connector = [] ∧
    RelayKeeps (r.session s) r.command (s.connector.inTxn (r.session s)) r.io
  /-- The server reports no transaction status before Sync. -/
  held : r.overRelay = true → resumes (r.session s) = true → s.connector.tcpTxn.isSome →
    r.io.frames.response.readyStatus = none
  sync : r.command = .pgBackendSync → s.session.transactionState = .idle → Tells r.io.relay.response
  /-- COMMIT and ROLLBACK find the leased connection in its slot, and it can be used. -/
  finish : (finishText r.command).isSome →
    NoLeaseProducer s.connector ∧ (s.connector.txnLease.isSome → r.io.finish.clientOpen = true)
  quit : r.command = .quit → poolOcc s.connector = []

def Keeps (s : Client) : Act → Prop
  | .command r => KeepsRequest s r
  | .producerDone _ => True
  | .fetch alive after => s.connector.txnLease.isSome → alive = true ∨ after = false

/-! ## The invariant -/

/-- Session and connector agree on the open transaction. -/
structure Agrees (session : SessionState) (c : Connector) : Prop where
  tidy : Tidy c []
  single : (poolOcc c).length ≤ 1
  /-- A pooled connection is occupied in a transaction only. -/
  opened : poolOcc c ≠ [] → session.transactionState ≠ .idle
  /-- And then the relay has none. -/
  apart : poolOcc c ≠ [] → relayOcc c = []
  slot : SlotTold session.transactionState c

/-- What a command leaves: agreement, and what the two run properties need of the step. -/
structure Kept (s : Client) (r : Request) (p : SessionState × Connector) : Prop where
  agrees : Agrees p.1 p.2
  leaves : s.session.transactionState = .idle → p.1.transactionState ≠ .idle →
    r.command = .begin ∨ ∃ response ∈ r.io.responses, response.reportsBlock
  free : s.session.transactionState = .idle → s.connector.tcpExtHold = none → Free s.connector p.2

theorem agrees_start (session : SessionState) (endpoints : List EndpointConfig) :
    Agrees (Client.start session endpoints).session (Client.start session endpoints).connector :=
  ⟨tidy_withEndpoints endpoints, Nat.zero_le 1, fun h => absurd rfl h, fun h => absurd rfl h, fun _ => nofun⟩

variable {c : Connector} {s : Client}

theorem agrees_of_poolOcc {session : SessionState} (htidy : Tidy c []) (hpool : poolOcc c = [])
    (hslot : SlotTold session.transactionState c) : Agrees session c :=
  ⟨htidy, by rw [hpool]; exact Nat.zero_le 1, fun h => absurd hpool h, fun h => absurd hpool h, hslot⟩

theorem Agrees.slotsFree {session : SessionState} (h : Agrees session c)
    (hidle : session.transactionState = .idle) (hhold : c.tcpExtHold = none) : SlotsFree c :=
  ⟨h.slot hidle, hhold⟩

theorem Agrees.poolOcc_of_idle {session : SessionState} (h : Agrees session c)
    (hidle : session.transactionState = .idle) : poolOcc c = [] := by
  by_contra hne
  exact h.opened hne hidle

theorem Agrees.poolOcc_of_relay {session : SessionState} (h : Agrees session c) (hrelay : relayOcc c ≠ []) :
    poolOcc c = [] := by
  by_contra hne
  exact hrelay (h.apart hne)

theorem session_state {s : Client} {r : Request} (h : inside r.command = true) :
    (r.session s).transactionState = s.session.transactionState := by
  unfold Request.session decoded
  cases hc : r.command <;> rw [hc] at h <;> first | rfl | cases h

/-! ## One command -/

section Commands

variable {s : Client} {r : Request} (hs : Agrees s.session s.connector) (hok : KeepsRequest s r)

theorem kept_inside {out : Except GatewayError Outcome × SessionState × Connector}
    (hrun : r.run s = settled out) (hno : NoRelay out.1)
    (hstate : out.2.1.transactionState = s.session.transactionState)
    (hpre : s.session.transactionState ≠ .idle) (hcall : Inside (handled out))
    (hrelay : relayOcc (handled out) = []) : Kept s r (r.run s) := by
  have hpost : (r.run s).1.transactionState ≠ .idle := by
    intro h
    rw [hrun] at h
    exact hpre (hstate.symm.trans (idle_of_noRelay hno h))
  have hconn : (r.run s).2 = handled out := by
    rw [hrun]
    rfl
  rw [← hconn] at hcall hrelay
  refine ⟨⟨hcall.tidy, hcall.single, fun _ => hpost, fun _ => hrelay, ?_⟩, ?_, ?_⟩
  · exact fun h => absurd h hpost
  · exact fun h => absurd h hpre
  · exact fun h => absurd h hpre

include hs

theorem kept_outside {out : Except GatewayError Outcome × SessionState × Connector}
    (hrun : r.run s = settled out) (hno : NoRelay out.1)
    (hstate : out.2.1.transactionState = s.session.transactionState)
    (hcall : Outside s.connector (handled out)) (hpool : poolOcc (handled out) = poolOcc s.connector)
    (hrelay : relayOcc (handled out) = relayOcc s.connector)
    (hslot : SlotFree s.connector → SlotFree (handled out)) : Kept s r (r.run s) := by
  have hidle : (r.run s).1.transactionState = .idle → s.session.transactionState = .idle := by
    intro h
    rw [hrun] at h
    exact hstate.symm.trans (idle_of_noRelay hno h)
  have hconn : (r.run s).2 = handled out := by
    rw [hrun]
    rfl
  rw [← hconn] at hcall hpool hrelay hslot
  refine ⟨⟨hcall.tidy, ?_, ?_, ?_, ?_⟩, ?_, fun _ _ => hcall.free⟩
  · rw [hpool]
    exact hs.single
  · intro hne h
    rw [hpool] at hne
    exact hs.opened hne (hidle h)
  · intro hne
    rw [hpool] at hne
    rw [hrelay]
    exact hs.apart hne
  · intro h
    exact hslot (hs.slot (hidle h))
  · intro h hne
    refine absurd ?_ hne
    rw [hrun]
    exact noRelay_idle hno (hstate.trans h)

theorem kept_begin (hc : r.command = .begin) : Kept s r (r.run s) := by
  have hconn : (r.run s).2 = s.connector := by
    rw [run_connector, hc]
    rfl
  have hstate : (r.run s).1.transactionState = .active := by
    unfold Request.run
    rw [hc]
    rfl
  have hpost : (r.run s).1.transactionState ≠ .idle := by
    rw [hstate]
    nofun
  refine ⟨⟨?_, ?_, fun _ => hpost, ?_, fun h => absurd h hpost⟩, fun _ _ => .inl hc, ?_⟩
  · rw [hconn]
    exact hs.tidy
  · rw [hconn]
    exact hs.single
  · rw [hconn]
    exact hs.apart
  · intro _ _
    rw [hconn]
    exact Free.refl _

theorem kept_other (hrow : isRowCommand r.command = false) (hinside : inside r.command = true)
    (hsync : r.command ≠ .pgBackendSync) (hdescribe : ∀ sql, r.command ≠ .describeSql sql) : Kept s r (r.run s) := by
  have hrun : r.run s =
      settled (completed (executeWithMode s.connector r.command (r.session s) r.mode r.io)) := by
    rw [← executeOutcome_other hrow hsync]
    rfl
  have hno := noRelay_completed (executeWithMode s.connector r.command (r.session s) r.mode r.io)
  have hstate := session_state (s := s) hinside
  -- the registry of prepared statements apart, nothing moves
  have hkept : (executeWithMode s.connector r.command (r.session s) r.mode r.io).2.1.transactionState =
        (r.session s).transactionState →
      (∃ next sql, (executeWithMode s.connector r.command (r.session s) r.mode r.io).2.2 =
        { s.connector with preparedNext := next, preparedSql := sql }) → Kept s r (r.run s) := by
    intro hsession hsame
    obtain ⟨next, sql, hsame⟩ := hsame
    have hconn : handled (completed (executeWithMode s.connector r.command (r.session s) r.mode r.io)) =
        { s.connector with preparedNext := next, preparedSql := sql } :=
      (handled_completed _).trans hsame
    have hstate' : (completed (executeWithMode s.connector r.command (r.session s) r.mode
        r.io)).2.1.transactionState = s.session.transactionState := by
      rw [← hstate, ← hsession]
      rcases executeWithMode s.connector r.command (r.session s) r.mode r.io with
        ⟨e | response, session', c⟩ <;> rfl
    refine kept_outside hs hrun hno hstate' ?_ ?_ ?_ ?_
    · rw [hconn]
      exact ⟨⟨hs.tidy.once, hs.tidy.known, hs.tidy.fresh, hs.tidy.clean⟩, Free.of_eq rfl rfl⟩
    · rw [hconn]
      rfl
    · rw [hconn]
      rfl
    · intro hslot
      rw [hconn]
      exact hslot
  cases hc : r.command with
  | ping => exact hkept (by rw [hc]; rfl) ⟨_, _, by rw [hc]; rfl⟩
  | useDatabase database => exact hkept (by rw [hc]; rfl) ⟨_, _, by rw [hc]; rfl⟩
  | prepare sql => exact hkept (by rw [hc]; rfl) ⟨_, _, by rw [hc]; rfl⟩
  | closeStatement id => exact hkept (by rw [hc]; rfl) ⟨_, _, by rw [hc]; rfl⟩
  | clientWire packets => exact hkept (by rw [hc]; rfl) ⟨_, _, by rw [hc]; rfl⟩
  | describeSql sql => exact absurd hc (hdescribe sql)
  | pgBackendSync => exact absurd hc hsync
  | query sql =>
    rw [hc] at hrow
    cases hrow
  | queryParams sql parameters =>
    rw [hc] at hrow
    cases hrow
  | execute id parameters =>
    rw [hc] at hrow
    cases hrow
  | _ =>
    rw [hc] at hinside
    cases hinside

include hok

theorem kept_row_driver (hrow : isRowCommand r.command = true) (hmode : r.mode.isPassthrough = false) :
    Kept s r (r.run s) := by
  have hinside : inside r.command = true := by
    cases hc : r.command <;> rw [hc] at hrow <;> first | rfl | cases hrow
  have hstate := session_state (s := s) hinside
  have hrun : r.run s = settled (executeStreaming s.connector r.command (r.session s)
      r.mode.promoteRowStream (s.connector.inTxn (r.session s)) r.io) := by
    rw [← executeOutcome_driver hrow hmode]
    rfl
  obtain ⟨hno, hsession⟩ := noRelay_executeStreaming (c := s.connector) hrow (r.session s)
    r.mode.promoteRowStream (s.connector.inTxn (r.session s)) r.io
  have hrelay := sameRelay_executeStreaming (c := s.connector) hrow (r.session s)
    r.mode.promoteRowStream (s.connector.inTxn (r.session s)) r.io
  rw [← hsession] at hstate
  cases hin : s.connector.inTxn (r.session s) with
  | true =>
    rw [hin] at hrun hno hstate hrelay
    obtain ⟨hprod, hempty, hstarts⟩ := hok.driverInside hrow hmode hin
    have hcall := inside_executeStreaming hs.tidy hprod (r.session s) hrow r.mode.promoteRowStream hstarts
    refine kept_inside hrun hno hstate ?_ hcall ((relayOcc_congr hrelay).trans hempty)
    -- the flag is set, and not because of the relay
    intro h
    have hlease := txnLease_of_poolOcc (hs.poolOcc_of_idle h)
    have hnone := (relayOcc_eq_nil.mp hempty).1
    have hidle := session_state (s := s) hinside
    unfold Connector.inTxn at hin
    rw [hlease, hnone, hidle, h] at hin
    cases hin
  | false =>
    rw [hin] at hrun hno hstate hrelay
    have hcall := outside_executeStreaming hs.tidy (r.session s) hrow r.mode.promoteRowStream
      (hok.driverOutside hrow hmode hin)
    have hpool := poolOcc_executeStreaming_false (c := s.connector) hrow (r.session s)
      r.mode.promoteRowStream r.io
    refine kept_outside hs hrun hno hstate hcall hpool (relayOcc_congr hrelay) ?_
    intro _
    refine slotFree_of_none (hrelay.tcpTxn.trans ?_)
    unfold Connector.inTxn at hin
    exact Option.not_isSome_iff_eq_none.mp (Bool.eq_false_iff.mp (Bool.or_eq_false_iff.mp hin).2)

theorem kept_describe {sql : String} (hc : r.command = .describeSql sql) : Kept s r (r.run s) := by
  have hidle := session_state (s := s) (r := r) (by rw [hc]; rfl)
  have hrun : r.run s = settled (completed (withSession (r.session s)
      (describeSql s.connector sql (r.session s) r.io.pool))) := by
    unfold Request.run
    rw [hc]
    rfl
  have hno := noRelay_completed (withSession (r.session s)
    (describeSql s.connector sql (r.session s) r.io.pool))
  have hstate : (completed (withSession (r.session s)
      (describeSql s.connector sql (r.session s) r.io.pool))).2.1.transactionState =
        s.session.transactionState := by
    rw [← hidle]
    rcases describeSql s.connector sql (r.session s) r.io.pool with ⟨e | response, c⟩ <;> rfl
  have hconn : handled (completed (withSession (r.session s)
      (describeSql s.connector sql (r.session s) r.io.pool))) =
        (describeSql s.connector sql (r.session s) r.io.pool).2 := handled_completed _
  have hrelay := sameRelay_describeSql s.connector (r.session s) sql r.io.pool
  cases hleasing : s.connector.leasing (r.session s) with
  | true =>
    obtain ⟨hprod, hempty⟩ := hok.describe sql hc hleasing
    have hcall := inside_describeSql hs.tidy hprod (r.session s) sql r.io.pool hleasing
    refine kept_inside hrun hno hstate ?_ ?_ ?_
    · intro h
      have hlease := txnLease_of_poolOcc (hs.poolOcc_of_idle h)
      unfold Connector.leasing at hleasing
      rw [hlease, hidle, h] at hleasing
      cases hleasing
    · rw [hconn]
      exact hcall
    · rw [hconn, relayOcc_congr hrelay]
      exact hempty
  | false =>
    obtain ⟨hcall, hblock⟩ := outside_describeSql hs.tidy (r.session s) sql r.io.pool hleasing
    refine kept_outside hs hrun hno hstate ?_ ?_ ?_ ?_
    · rw [hconn]
      exact hcall
    · rw [hconn]
      exact poolOcc_describeSql_false sql r.io.pool hleasing
    · rw [hconn]
      exact relayOcc_congr hrelay
    · intro hslot x hx
      rw [hconn] at hx ⊢
      rw [hrelay.tcpTxn] at hx
      rw [hblock]
      exact hslot x hx

theorem kept_row_relay (hrow : isRowCommand r.command = true) (hmode : r.mode.isPassthrough = true) :
    Kept s r (r.run s) := by
  have hinside : inside r.command = true := by
    cases hc : r.command <;> rw [hc] at hrow <;> first | rfl | cases hrow
  have hstate := session_state (s := s) hinside
  have hrelay : r.overRelay = true := by
    unfold Request.overRelay
    rw [hrow, hmode]
    rfl
  have hpass : r.mode = .passthrough := by
    cases hm : r.mode <;> rw [hm] at hmode <;> first | rfl | cases hmode
  obtain ⟨hpool, hkeeps⟩ := hok.relay hrelay
  have hrun : r.run s = settled (executeOutcome s.connector r.command (r.session s) .passthrough r.io) := by
    unfold Request.run
    rw [hpass]
    rfl
  have hended := ended_executeOutcome_relay hs.tidy hrow (r.session s) (txnLease_of_poolOcc hpool) hkeeps
    (hok.held hrelay)
  rw [← hrun, hstate] at hended
  refine ⟨agrees_of_poolOcc hended.tidy (hended.poolOcc.trans hpool) (hended.told hs.slot), ?_, ?_⟩
  · intro h hne
    exact .inr (hended.leaves h hne)
  · intro h hhold
    exact hended.free (hs.slotsFree h hhold)

theorem kept_sync (hc : r.command = .pgBackendSync) : Kept s r (r.run s) := by
  have hstate := session_state (s := s) (r := r) (by rw [hc]; rfl)
  have hrun : r.run s = settled (executePgBackendSync s.connector (r.session s) r.io.relay) := by
    unfold Request.run
    rw [hc]
    rfl
  unfold executePgBackendSync at hrun
  cases hhold : s.connector.tcpExtHold with
  | none =>
    rw [hhold] at hrun
    refine kept_outside hs hrun nofun hstate ⟨hs.tidy, Free.refl _⟩ rfl rfl ?_
    exact fun hslot => hslot
  | some conn =>
    rw [hhold] at hrun
    dsimp only at hrun
    have htaken : Tidy (Connector.sendAll { s.connector with tcpExtHold := none } conn [.sync]) [conn] :=
      (hs.tidy.takeHold hhold).sendAll [.sync]
    have hpool : poolOcc s.connector = [] := by
      refine hs.poolOcc_of_relay ?_
      intro hnil
      have hnone := (relayOcc_eq_nil.mp hnil).2
      rw [hhold] at hnone
      cases hnone
    have hfree : ∀ {p : Prop}, s.connector.tcpExtHold = none → p := by
      intro p hnone
      rw [hhold] at hnone
      cases hnone
    unfold relayInto at hrun
    cases hio : r.io.relay.write with
    | error e =>
      rw [hio] at hrun
      have hidle : (r.run s).1.transactionState = .idle → s.session.transactionState = .idle := by
        intro h
        rw [hrun] at h
        exact hstate.symm.trans (idle_of_afterError h)
      have hconn : (r.run s).2 = { s.connector with tcpExtHold := none }.sendAll conn [.sync] := by
        rw [hrun]
        rfl
      refine ⟨agrees_of_poolOcc ?_ ?_ ?_, ?_, fun _ => hfree⟩
      · rw [hconn]
        exact htaken.close
      · rw [hconn]
        exact hpool
      · intro h
        rw [hconn]
        exact hs.slot (hidle h)
      · intro h hne
        refine absurd ?_ hne
        rw [hrun]
        show (r.session s).transactionState.afterError = .idle
        rw [hstate, h]
        rfl
    | ok _ =>
      rw [hio] at hrun
      have hconn : (r.run s).2 = ({ s.connector with tcpExtHold := none }.sendAll conn [.sync]).finishSession
          ⟨conn, .txn, r.io.relay.response⟩ := by
        rw [hrun]
        exact handled_wireRelay _ _ _
      refine ⟨agrees_of_poolOcc ?_ ?_ ?_, ?_, fun _ => hfree⟩
      · rw [hconn]
        exact tidy_finishSession .txn r.io.relay.response htaken nofun
      · rw [hconn]
        exact (poolOcc_congr (samePool_finishSession _ _)).trans hpool
      · intro h x hx
        rw [hconn] at hx ⊢
        rw [finishSession_inBlock]
        cases hx
        rw [Function.update_self]
        rw [hrun] at h
        refine inBlock_of_idle .txn r.io.relay.response ?_ h
        intro hpre
        exact hok.sync hc (hstate.symm.trans hpre)
      · intro h hne
        rw [hrun] at hne
        refine .inr ⟨r.io.relay.response, List.mem_cons_self, ?_⟩
        exact reportsBlock_of_left .txn r.io.relay.response
          { r.session s with pgExtTcpHold := false, pgClientExtendedFrames := [] } (hstate.trans h) hne

omit hs hok in
theorem finishTransaction_lease {c : Connector} {conn : Conn} (htcp : c.tcpTxn = none)
    (hlease : c.txnLease = some conn) (text : String) {io : FinishIo} (hopen : io.clientOpen = true) :
    (finishTransaction c text io).2 =
      ({ c with txnLease := none }.send conn (.simpleQuery text) false).putConn conn := by
  unfold finishTransaction executeOnConn
  rw [htcp, hlease, hopen]
  rfl

theorem finishTransaction_ends {text : String} (hc : finishText r.command = some text) :
    Tidy (finishTransaction s.connector text r.io.finish).2 [] ∧
    poolOcc (finishTransaction s.connector text r.io.finish).2 = [] ∧
    (finishTransaction s.connector text r.io.finish).2.tcpTxn = none := by
  obtain ⟨hprod, hopen⟩ := hok.finish (by rw [hc]; rfl)
  cases htcp : s.connector.tcpTxn with
  | some conn =>
    have hpool : poolOcc s.connector = [] := by
      refine hs.poolOcc_of_relay ?_
      intro hnil
      have hnone := (relayOcc_eq_nil.mp hnil).1
      rw [htcp] at hnone
      cases hnone
    have hlease : s.connector.txnLease = none := txnLease_of_poolOcc hpool
    have hsent : Tidy ({ s.connector with tcpTxn := none }.send conn (.simpleQuery text) false) [] :=
      ((hs.tidy.takeTcpTxn htcp).send _ _).close
    unfold finishTransaction
    rw [htcp]
    cases r.io.finish.relay with
    | error e => exact ⟨hsent, hpool, rfl⟩
    | ok packets =>
      have hset : ({ s.connector with tcpTxn := none }.send conn (.simpleQuery text) false).setLease none =
          { s.connector with tcpTxn := none }.send conn (.simpleQuery text) false := by
        unfold Connector.setLease
        rw [send_txnLease, hlease]
        simp [Connector.send, hlease]
      dsimp only
      rw [hset]
      exact ⟨hsent, hpool, rfl⟩
  | none =>
    cases hlease : s.connector.txnLease with
    | none =>
      have hsame : (finishTransaction s.connector text r.io.finish).2 = s.connector := by
        unfold finishTransaction
        rw [htcp, hlease]
      rw [hsame]
      refine ⟨hs.tidy, ?_, htcp⟩
      rw [hprod.poolOcc_eq, hlease]
      rfl
    | some conn =>
      have hsent := (hs.tidy.takeLease hlease).send (.simpleQuery text) false
      have hno : NoLeaseProducer (({ s.connector with txnLease := none }.send conn (.simpleQuery text)
          false).putConn conn) := hprod.congr (putConn_producers _ _)
      rw [finishTransaction_lease htcp hlease text (hopen (by rw [hlease]; rfl))]
      refine ⟨hsent.putConn ?_, ?_, ?_⟩
      · rw [send_inBlock, Function.update_self]
      · rw [hno.poolOcc_eq, putConn_txnLease]
        rfl
      · rw [putConn_tcpTxn]
        exact htcp

omit hok in
theorem free_finishTransaction (text : String) (io : FinishIo) (hidle : s.session.transactionState = .idle) :
    Free s.connector (finishTransaction s.connector text io).2 := by
  have hlease : s.connector.txnLease = none := txnLease_of_poolOcc (hs.poolOcc_of_idle hidle)
  unfold finishTransaction
  cases htcp : s.connector.tcpTxn with
  | some conn =>
    have hconn : { s.connector with tcpTxn := none }.inBlock conn = false := hs.slot hidle conn htcp
    have htake : Free s.connector { s.connector with tcpTxn := none } := Free.of_eq rfl rfl
    have hsent : Free s.connector
        ({ s.connector with tcpTxn := none }.send conn (.simpleQuery text) false) :=
      htake.trans (Free.send hconn _ _)
    cases io.relay with
    | error e => exact hsent
    | ok packets => exact hsent.trans (Free.of_eq (setLease_log _ _) (setLease_inBlock _ _))
  | none =>
    rw [hlease]
    exact Free.refl _

theorem kept_finish {text : String} (hc : finishText r.command = some text) :
    Kept s r (r.run s) ∧ (r.run s).1.transactionState = .idle := by
  obtain ⟨htidy, hpool, htcp⟩ := finishTransaction_ends hs hok hc
  have hconn := run_finish (s := s) hc
  have hidle : (r.run s).1.transactionState = .idle := by
    cases hcmd : r.command with
    | commit =>
      unfold Request.run Request.session
      rw [hcmd]
      show (settled (completed _)).1.transactionState = .idle
      refine noRelay_idle (noRelay_completed _) ?_
      unfold executeWithMode
      dsimp only
      rcases finishTransaction s.connector "COMMIT" r.io.finish with ⟨e | response, c⟩ <;> rfl
    | rollback =>
      unfold Request.run Request.session
      rw [hcmd]
      show (settled (completed _)).1.transactionState = .idle
      refine noRelay_idle (noRelay_completed _) ?_
      unfold executeWithMode
      dsimp only
      rcases finishTransaction s.connector "ROLLBACK" r.io.finish with ⟨e | response, c⟩ <;> rfl
    | _ =>
      rw [hcmd] at hc
      cases hc
  rw [← hconn] at htidy hpool htcp
  refine ⟨⟨agrees_of_poolOcc htidy hpool (fun _ => slotFree_of_none htcp), ?_, ?_⟩, hidle⟩
  · intro _ hne
    exact absurd hidle hne
  · intro h _
    rw [hconn]
    exact free_finishTransaction hs text r.io.finish h

theorem kept_quit (hc : r.command = .quit) : Kept s r (r.run s) := by
  have hpool := hok.quit hc
  have hlease : s.connector.txnLease = none := txnLease_of_poolOcc hpool
  have hconn : (r.run s).2 =
      { s.connector with txnLease := none, tcpTxn := none, preparedSql := fun _ => none } := by
    rw [run_connector, hc]
    show { s.connector.setLease none with tcpTxn := none, preparedSql := fun _ => none } = _
    unfold Connector.setLease
    rw [hlease]
  have htidy : Tidy (r.run s).2 [] := by
    rw [hconn]
    refine hs.tidy.move ?_ rfl rfl (fun x hx => .inl hx)
    intro x
    simp [owned]
    omega
  refine ⟨agrees_of_poolOcc htidy ?_ ?_, ?_, ?_⟩
  · rw [hconn]
    unfold poolOcc at hpool ⊢
    exact List.append_eq_nil_iff.mpr ⟨rfl, (List.append_eq_nil_iff.mp hpool).2⟩
  · intro _
    rw [hconn]
    exact slotFree_of_none rfl
  · intro h hne
    refine absurd ?_ hne
    unfold Request.run Request.session
    rw [hc]
    exact h
  · intro _ _
    rw [hconn]
    exact Free.of_eq rfl rfl

theorem kept_command : Kept s r (r.run s) := by
  have hrows : isRowCommand r.command = true → Kept s r (r.run s) := by
    intro hrow
    cases hmode : r.mode.isPassthrough with
    | true => exact kept_row_relay hs hok hrow hmode
    | false => exact kept_row_driver hs hok hrow hmode
  cases hc : r.command with
  | query sql => exact hrows (by rw [hc]; rfl)
  | queryParams sql parameters => exact hrows (by rw [hc]; rfl)
  | execute id parameters => exact hrows (by rw [hc]; rfl)
  | describeSql sql => exact kept_describe hs hok hc
  | pgBackendSync => exact kept_sync hs hok hc
  | commit =>
    have htext : finishText r.command = some "COMMIT" := by rw [hc]; rfl
    exact (kept_finish hs hok htext).1
  | rollback =>
    have htext : finishText r.command = some "ROLLBACK" := by rw [hc]; rfl
    exact (kept_finish hs hok htext).1
  | quit => exact kept_quit hs hok hc
  | begin => exact kept_begin hs hc
  | _ =>
    exact kept_other hs (by rw [hc]; rfl) (by rw [hc]; rfl) (by rw [hc]; nofun) (by rw [hc]; nofun)

end Commands

/-! ## The other steps -/

theorem tidy_producerDone (h : Tidy c []) (hle : (poolOcc c).length ≤ 1) (i : Nat) : Tidy (producerDone c i) [] := by
  unfold producerDone
  cases hget : c.producers[i]? with
  | none => exact h
  | some p =>
    obtain ⟨before, after, hall, herase⟩ := producers_split hget
    dsimp only
    rw [herase]
    have htaken : Tidy { c with producers := before ++ after } [p.conn] := by
      refine h.move ?_ rfl rfl ?_
      · intro x
        simp [owned, hall, List.count_cons]
        omega
      · intro x hx
        refine .inl ?_
        simp [waiting, hall] at hx ⊢
        grind
    cases hlease : p.toLease with
    | true =>
      have hnone : c.txnLease = none := by
        cases htxn : c.txnLease with
        | none => rfl
        | some conn =>
          unfold poolOcc at hle
          rw [htxn, hall] at hle
          simp [hlease] at hle
      rw [if_pos rfl]
      exact htaken.setLease hnone
    | false =>
      have hfree : c.inBlock p.conn = false := by
        refine h.clean p.conn ?_
        simp [waiting, hall, hlease]
      rw [if_neg Bool.false_ne_true]
      exact htaken.putConn hfree

theorem producerDone_inBlock (c : Connector) (i : Nat) : (producerDone c i).inBlock = c.inBlock := by
  unfold producerDone
  split
  · rfl
  · split
    · rw [setLease_inBlock]
    · rw [putConn_inBlock]

theorem agrees_producerDone {session : SessionState} (h : Agrees session c) (i : Nat) :
    Agrees session (producerDone c i) := by
  have hpool := poolOcc_producerDone h.single i
  have hrelay := sameRelay_producerDone c i
  refine ⟨tidy_producerDone h.tidy h.single i, ?_, ?_, ?_, ?_⟩
  · rw [hpool]
    exact h.single
  · rw [hpool]
    exact h.opened
  · rw [hpool, relayOcc_congr hrelay]
    exact h.apart
  · intro hidle x hx
    rw [hrelay.tcpTxn] at hx
    rw [producerDone_inBlock]
    exact h.slot hidle x hx

theorem agrees_fetch (hs : Agrees s.session s.connector) {alive after : Bool} (hok : Keeps s (.fetch alive after)) :
    Agrees (step s (.fetch alive after)).2.session (step s (.fetch alive after)).2.connector := by
  have hstep : (step s (.fetch alive after)).2.connector = (checkSessionHealth s.connector alive after).2 := rfl
  have hsession : (step s (.fetch alive after)).2.session =
      if (checkSessionHealth s.connector alive after).1 then s.session
      else { s.session with transactionState := .failed } := rfl
  rw [hstep, hsession]
  unfold checkSessionHealth
  cases hlease : s.connector.txnLease with
  | none => exact hs
  | some conn =>
    have hne : poolOcc s.connector ≠ [] := by
      unfold poolOcc
      rw [hlease]
      nofun
    have hopened := hs.opened hne
    have hrelay := hs.apart hne
    have htaken := hs.tidy.takeLease hlease
    have hrest : poolOcc { s.connector with txnLease := none } = [] := by
      have hle := hs.single
      unfold poolOcc at hle ⊢
      rw [hlease] at hle
      simp at hle ⊢
      exact hle
    cases alive with
    | true =>
      have hprod : poolOcc ((Connector.sendAll { s.connector with txnLease := none } conn
          [.simpleQuery "SELECT 1"]).storeLease conn) = [conn] := by
        have hmap := (List.append_eq_nil_iff.mp hrest).2
        unfold poolOcc Connector.storeLease
        rw [setLease_txnLease, setLease_producers]
        show [conn] ++ _ = [conn]
        rw [show ((Connector.sendAll { s.connector with txnLease := none } conn
          [.simpleQuery "SELECT 1"]).producers.filter (·.toLease)).map (·.conn) = [] from hmap]
        rfl
      refine ⟨(htaken.sendAll _).setLease rfl, ?_, fun _ => hopened, ?_, fun h => absurd h hopened⟩
      · show (poolOcc (Connector.storeLease _ _)).length ≤ 1
        rw [hprod]
        exact Nat.le_refl 1
      · intro _
        show relayOcc (Connector.setLease _ _) = []
        unfold relayOcc
        rw [setLease_tcpTxn, setLease_tcpExtHold]
        exact hrelay
    | false =>
      have hafter : after = false := by
        rcases hok (by rw [hlease]; rfl) with h | h
        · cases h
        · exact h
      refine agrees_of_poolOcc ((htaken.send _ _).putConn ?_) ?_ nofun
      · rw [send_inBlock, Function.update_self]
        exact hafter
      · show poolOcc (Connector.putConn _ _) = []
        rw [poolOcc_putConn]
        exact hrest

theorem agrees_step (s : Client) (a : Act) (hs : Agrees s.session s.connector) (hok : Keeps s a) :
    Agrees (step s a).2.session (step s a).2.connector := by
  cases a with
  | command r => exact (kept_command hs hok).agrees
  | producerDone i => exact agrees_producerDone hs i
  | fetch alive after => exact agrees_fetch hs hok

/-! ## Whole runs -/

/-- The lease is coherent with the session across a step of a run. -/
structure LeaseCoherent (e : Entry Client Act (List (Conn × Sent))) : Prop where
  /-- COMMIT and ROLLBACK leave an idle session. -/
  finished : ∀ r, e.act = .command r → (finishText r.command).isSome → e.post.session.transactionState = .idle
  /-- An idle session has no lease, and no producer that would install one. -/
  lease : e.post.session.transactionState = .idle → e.post.connector.txnLease = none ∧ NoLeaseProducer e.post.connector
  /-- It stays idle until BEGIN, or until the server reports that a statement opened a block. -/
  stays : e.pre.session.transactionState = .idle → e.post.session.transactionState ≠ .idle →
    ∃ r, e.act = .command r ∧ (r.command = .begin ∨ ∃ response ∈ r.io.responses, response.reportsBlock)
  /-- No connection waits for its next user inside a block. -/
  pool : ∀ conn ∈ e.post.connector.pool ++ e.post.connector.tcpIdle, e.post.connector.inBlock conn = false
  /-- What an idle session runs, it runs outside a block. -/
  autocommit : e.pre.session.transactionState = .idle → e.pre.connector.tcpExtHold = none →
    ∀ w ∈ e.out, e.pre.connector.inBlock w.1 = false

theorem Free.writesOf {c' : Connector} (h : Free c c') : ∀ w ∈ writesOf c c', c.inBlock w.1 = false := by
  obtain ⟨ws, hlog, hfree⟩ := h.writes
  rw [writesOf_eq hlog]
  exact hfree

theorem leaseCoherent_step {a : Act} (hs : Agrees s.session s.connector) (hok : Keeps s a) :
    LeaseCoherent ⟨s, a, (step s a).1, (step s a).2⟩ := by
  have hpost := agrees_step s a hs hok
  have hlease : (step s a).2.session.transactionState = .idle →
      (step s a).2.connector.txnLease = none ∧ NoLeaseProducer (step s a).2.connector := by
    intro hidle
    have hpool := hpost.poolOcc_of_idle hidle
    refine ⟨txnLease_of_poolOcc hpool, ?_⟩
    intro p hp
    by_contra hne
    have hmap := (List.append_eq_nil_iff.mp hpool).2
    have hmem : p ∈ (step s a).2.connector.producers.filter (·.toLease) := List.mem_filter.mpr ⟨hp, by simpa using hne⟩
    rw [List.map_eq_nil_iff.mp hmap] at hmem
    cases hmem
  have hpool : ∀ conn ∈ (step s a).2.connector.pool ++ (step s a).2.connector.tcpIdle,
      (step s a).2.connector.inBlock conn = false := by
    intro conn hconn
    refine hpost.tidy.clean conn ?_
    unfold waiting
    exact List.mem_append_left _ hconn
  cases a with
  | command r =>
    have hkept := kept_command hs hok
    refine ⟨?_, hlease, ?_, hpool, ?_⟩
    · intro r' hact hfin
      cases hact
      obtain ⟨text, hc⟩ := Option.isSome_iff_exists.mp hfin
      exact (kept_finish hs hok hc).2
    · intro hidle hne
      exact ⟨r, rfl, hkept.leaves hidle hne⟩
    · intro hidle hhold
      exact (hkept.free hidle hhold).writesOf
  | producerDone i =>
    refine ⟨?_, hlease, fun hidle hne => absurd hidle hne, hpool, ?_⟩
    · intro r hact
      cases hact
    · intro _ _ w hw
      exact absurd hw List.not_mem_nil
  | fetch alive after =>
    -- an idle session has no lease to check
    have hnothing : s.session.transactionState = .idle →
        checkSessionHealth s.connector alive after = (true, s.connector) := by
      intro hidle
      unfold checkSessionHealth
      rw [txnLease_of_poolOcc (hs.poolOcc_of_idle hidle)]
    refine ⟨?_, hlease, ?_, hpool, ?_⟩
    · intro r hact
      cases hact
    · intro hidle hne
      refine absurd ?_ hne
      show (if (checkSessionHealth s.connector alive after).1 then s.session
        else { s.session with transactionState := .failed }).transactionState = .idle
      rw [hnothing hidle]
      exact hidle
    · intro hidle _
      show ∀ w ∈ writesOf s.connector (checkSessionHealth s.connector alive after).2, _
      rw [hnothing hidle]
      exact (Free.refl s.connector).writesOf

/-- A drained streaming transaction, with the producer of its second statement done before COMMIT. -/
def drainedTransaction : List Act :=
  [.command (request .begin .materialized),
   .command { request (.query "select id from t") .materialized with
     io := { CallIo.works with pool := { PoolIo.works with blockAfter := true } } },
   .producerDone 0,
   .command (request .commit .materialized)]

/-- The same commands; the client pages through the result and commits first. -/
def pagedTransaction : List Act :=
  [.command (request .begin .materialized),
   .command { request (.query "select id from t") .materialized with
     io := { CallIo.works with pool := { PoolIo.works with blockAfter := true } } },
   .command (request .commit .materialized),
   .producerDone 0,
   .command (request (.query "update t set id = 2") .materialized)]

theorem drainedTransaction_keeps : Meets step Keeps (Client.start .default [primary]) drainedTransaction := by
  have hnone : ∀ {c : Connector}, c.producers = [] → NoLeaseProducer c := by
    intro c h p hp
    rw [h] at hp
    cases hp
  refine meets_cons ?_ (meets_cons ?_ (meets_cons trivial (meets_cons ?_ meets_nil)))
  · exact ⟨nofun, nofun, nofun, nofun, nofun, nofun, nofun, nofun⟩
  · refine ⟨fun _ _ _ => ⟨hnone rfl, rfl, fun _ => ⟨rfl, _, rfl⟩⟩, ?_, nofun, nofun, nofun, nofun, nofun,
      nofun⟩
    exact fun _ _ hin => nomatch hin
  · exact ⟨nofun, nofun, nofun, nofun, nofun, nofun, fun _ => ⟨hnone rfl, fun _ => rfl⟩, nofun⟩

end DataNexus.Backend
