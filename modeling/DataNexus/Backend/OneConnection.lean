/-
  One client transaction, one backend connection.

  A statement with result obligations goes over the driver, one without is relayed, so a transaction that has both gets
  two connections with a `BEGIN` each, and COMMIT prefers the relay (`mixed_transaction`).

  `Smooth` leaves these out, and failures that lose the connection.  In every run of smooth steps a session occupies at
  most one connection, a transaction writes to no other, and its COMMIT or ROLLBACK is sent there.
-/
import DataNexus.Backend.Occupied

namespace DataNexus.Backend

open DataNexus.Run

/-! ## Smooth steps -/

/-- The command takes its connection over the driver. -/
def Request.overDriver (r : Request) : Bool :=
  match r.command with
  | .describeSql _ => true
  | command => isRowCommand command && !r.mode.isPassthrough

/-- The command is relayed, or is first tried on the relay. -/
def Request.overRelay (r : Request) : Bool := isRowCommand r.command && r.mode.isPassthrough

def finishText : GatewayCommand → Option String
  | .commit => some "COMMIT"
  | .rollback => some "ROLLBACK"
  | _ => none

/-- The command meets its transaction on one connection, and no step of it loses that. -/
structure SmoothRequest (s : Client) (r : Request) : Prop where
  /-- Over the driver inside a transaction: the relay has no session of it, no producer has its
      connection, and the statement will lease. -/
  driver : r.overDriver = true → s.txn.isSome ∨ s.connector.inTxn (r.session s) = true →
    NoLeaseProducer s.connector ∧ relayOcc s.connector = [] ∧
      s.connector.leasing (r.session s) = true ∧ PoolSteady r.io.pool
  /-- On the relay: no pooled connection is occupied, and a held unit is continued. -/
  relay : r.overRelay = true → poolOcc s.connector = [] ∧ (s.connector.tcpExtHold = none ∨ resumes (r.session s) = true)
  /-- A relayed statement of the transaction will use the transaction's session. -/
  relayTxn : r.overRelay = true → s.txn.isSome → s.connector.inTxn (r.session s) = true ∨ s.connector.tcpExtHold.isSome
  relaySteady : r.overRelay = true →
    s.connector.inTxn (r.session s) = true ∨ s.connector.tcpExtHold.isSome → Steady r.io
  /-- The end of the transaction finds its connection in a slot. -/
  finish : (finishText r.command).isSome → s.txn.isSome →
    NoLeaseProducer s.connector ∧ s.connector.tcpExtHold = none ∧ r.io.finish.clientOpen = true
  sync : r.command = .pgBackendSync → s.txn.isSome → RelaySteady r.io.relay

def Smooth (s : Client) : Act → Prop
  | .command r => SmoothRequest s r
  | .producerDone _ => True
  | .fetch alive _ => s.txn.isSome → s.connector.txnLease.isSome → alive = true

/-! ## What a command does to the occupied connections -/

theorem run_connector (r : Request) (s : Client) :
    (r.run s).2 = handled (executeOutcome s.connector r.command (r.session s) r.mode r.io) := rfl

variable {c c' : Connector} {s : Client} {r : Request}

theorem onOne_executeOutcome_relay {command : GatewayCommand} {session : SessionState} {io : CallIo}
    (hrow : isRowCommand command = true) (hio : Steady io) (hpool : poolOcc c = [])
    (hhold : c.tcpExtHold = none) (hin : c.inTxn session = true) :
    OnOne c (handled (executeOutcome c command session .passthrough io)) := by
  have hlease : c.txnLease = none := txnLease_of_poolOcc hpool
  rcases executeOutcome_relay_cases c hrow session io with
    ⟨e, h⟩ | ⟨_, sql, endpoint, _, h⟩ | ⟨_, _, h⟩ | ⟨_, endpoint, outcome, session', c₁, hget, h⟩ |
      ⟨_, endpoint, e, session', c₁, hget, h⟩
  · rw [h]
    exact OnOne.refl c
  · rw [h, hin]
    exact onOne_executeSimpleQueryTcpRelay endpoint session hio.relay hpool hhold sql session
  · rw [h, hin]
    exact onOne_executeUnrelayed hrow hio hpool hlease hhold hin
  · rw [hin] at hget
    rcases executeClientExtendedFramesTcpRelay_cases endpoint session hio.frames hpool hhold with
      ⟨e', session'', hget', _⟩ | ⟨outcome', session'', c₂, hget', hone⟩
    · rw [hget'] at hget
      cases hget
    · rw [hget'] at hget
      cases hget
      rw [h]
      exact hone
  · rw [hin] at hget
    rcases executeClientExtendedFramesTcpRelay_cases endpoint session hio.frames hpool hhold with
      ⟨e', session'', hget', hstate⟩ | ⟨outcome', session'', c₂, hget', _⟩
    · rw [hget'] at hget
      cases hget
      rw [h, hin]
      exact onOne_executeUnrelayed hrow hio hpool hlease hhold ((inTxn_congr hstate).trans hin)
    · rw [hget'] at hget
      cases hget

theorem onOne_executeOutcome_resume {command : GatewayCommand} {session : SessionState} {io : CallIo}
    (hrow : isRowCommand command = true) (hio : Steady io) (hpool : poolOcc c = []) {conn : Conn}
    (hhold : c.tcpExtHold = some conn) (htcp : c.tcpTxn = none) (hresumes : resumes session = true) :
    OnOne c (handled (executeOutcome c command session .passthrough io)) := by
  have hframes : session.pgClientExtendedFrames.isEmpty = false := by
    unfold resumes at hresumes
    simpa using (Bool.and_eq_true_iff.mp hresumes).1
  rcases executeOutcome_relay_cases c hrow session io with
    ⟨e, h⟩ | ⟨hempty, _⟩ | ⟨hempty, _⟩ | ⟨_, endpoint, outcome, session', c₁, hget, h⟩ |
      ⟨_, endpoint, e, session', c₁, hget, h⟩
  · rw [h]
    exact OnOne.refl c
  · rw [hframes] at hempty
    cases hempty
  · rw [hframes] at hempty
    cases hempty
  · obtain ⟨outcome', session'', c₂, hget', hone⟩ :=
      onOne_resume endpoint (c.inTxn session) hio.frames hpool hhold htcp hresumes
    rw [hget'] at hget
    cases hget
    rw [h]
    exact hone
  · obtain ⟨outcome', session'', c₂, hget', _⟩ :=
      onOne_resume endpoint (c.inTxn session) hio.frames hpool hhold htcp hresumes
    rw [hget'] at hget
    cases hget

theorem occ_executeOutcome_relay_le {command : GatewayCommand} {session : SessionState}
    (hrow : isRowCommand command = true) (io : CallIo) (hvacant : occ c = []) (hin : c.inTxn session = false) :
    (occ (handled (executeOutcome c command session .passthrough io))).length ≤ 1 := by
  have hzero : (occ c).length ≤ 1 := by
    rw [hvacant]
    exact Nat.zero_le 1
  rcases executeOutcome_relay_cases c hrow session io with
    ⟨e, h⟩ | ⟨_, sql, endpoint, _, h⟩ | ⟨_, _, h⟩ | ⟨_, endpoint, outcome, session', c₁, hget, h⟩ |
      ⟨_, endpoint, e, session', c₁, hget, h⟩
  · rw [h]
    exact hzero
  · rw [h, hin]
    exact occ_executeSimpleQueryTcpRelay_le endpoint session hvacant sql session io.relay
  · rw [h, hin]
    exact occ_executeUnrelayed_le hrow io hvacant hin
  · rw [hin] at hget
    rcases executeClientExtendedFramesTcpRelay_vacant endpoint session hvacant io.frames with
      ⟨outcome', session'', c₂, hget', hle⟩ | ⟨e', session'', c₂, hget', _⟩
    · rw [hget'] at hget
      cases hget
      rw [h]
      exact hle
    · rw [hget'] at hget
      cases hget
  · rw [hin] at hget
    rcases executeClientExtendedFramesTcpRelay_vacant endpoint session hvacant io.frames with
      ⟨outcome', session'', c₂, hget', _⟩ | ⟨e', session'', c₂, hget', hvacant₂, hstate⟩
    · rw [hget'] at hget
      cases hget
    · rw [hget'] at hget
      cases hget
      have hin₂ : c₁.inTxn session' = false := by
        rw [inTxn_of_vacant hvacant₂, hstate, ← inTxn_of_vacant hvacant]
        exact hin
      rw [h, hin]
      exact occ_executeUnrelayed_le hrow io hvacant₂ hin₂

/-! ## The invariant -/

/-- A session occupies at most one connection, and what its transaction has written, it wrote there. -/
structure Single (s : Client) : Prop where
  single : (occ s.connector).length ≤ 1
  owns : ∀ ws, s.txn = some ws → ∀ w ∈ ws, occ s.connector = [w.1]

theorem single_start (session : SessionState) (endpoints : List EndpointConfig) :
    Single (Client.start session endpoints) :=
  ⟨Nat.zero_le 1, nofun⟩

theorem Single.onOne (hs : Single s) (hone : OnOne s.connector c') (session : SessionState) :
    Single ⟨session, c', s.txn.map (· ++ writesOf s.connector c')⟩ := by
  obtain ⟨ws, hlog, hcase⟩ := hone
  rw [writesOf_eq hlog]
  rcases hcase with ⟨hnil, hocc⟩ | ⟨conn, hws, hbefore, hafter⟩
  · refine ⟨?_, ?_⟩
    · show (occ c').length ≤ 1
      rw [hocc]
      exact hs.single
    · intro vs hvs w hw
      obtain ⟨us, hus, rfl⟩ := Option.map_eq_some_iff.mp hvs
      rw [hnil, List.append_nil] at hw
      show occ c' = [w.1]
      rw [hocc]
      exact hs.owns us hus w hw
  · refine ⟨?_, ?_⟩
    · show (occ c').length ≤ 1
      rw [hafter]
      exact Nat.le_refl 1
    · intro vs hvs w hw
      obtain ⟨us, hus, rfl⟩ := Option.map_eq_some_iff.mp hvs
      show occ c' = [w.1]
      rw [hafter]
      rcases List.mem_append.mp hw with hw | hw
      · -- the transaction had written before: its connection is the occupied one
        have hold := hs.owns us hus w hw
        rcases hbefore with hnil | hconn
        · rw [hnil] at hold
          cases hold
        · rw [hconn] at hold
          cases hold
          rfl
      · rw [hws w hw]

theorem single_of_no_txn (hle : (occ s.connector).length ≤ 1) (htxn : s.txn = none) : Single s := by
  refine ⟨hle, ?_⟩
  intro ws hws
  rw [htxn] at hws
  cases hws

/-- A command that ends no transaction and begins none. -/
def inside : GatewayCommand → Bool
  | .begin | .commit | .rollback | .quit => false
  | _ => true

theorem nextTxn_inside {command : GatewayCommand} (h : inside command = true)
    (txn : Option (List (Conn × Sent))) (ws : List (Conn × Sent)) : nextTxn txn ws command = txn.map (· ++ ws) := by
  cases command <;> first | rfl | cases h

/-- What a smooth command leaves: its writes on one connection, or, outside a transaction, at most one
    occupied connection. -/
theorem single_of_command (hs : Single s) (r : Request) (hinside : inside r.command = true)
    (h : OnOne s.connector (r.run s).2 ∨ (s.txn = none ∧ (occ (r.run s).2).length ≤ 1)) :
    Single (step s (.command r)).2 := by
  have hstep : (step s (.command r)).2 =
      ⟨(r.run s).1, (r.run s).2, s.txn.map (· ++ writesOf s.connector (r.run s).2)⟩ := by
    rw [← nextTxn_inside hinside]
    rfl
  rw [hstep]
  rcases h with hone | ⟨htxn, hle⟩
  · exact hs.onOne hone _
  · refine single_of_no_txn hle ?_
    show s.txn.map _ = none
    rw [htxn]
    rfl

/-! ## One step -/

section Commands

variable {s : Client} {r : Request} (hs : Single s) (hok : SmoothRequest s r)

include hs hok

theorem single_driver (hdriver : r.overDriver = true) (hinside : inside r.command = true)
    (hin : s.connector.leasing (r.session s) = true → NoLeaseProducer s.connector →
      relayOcc s.connector = [] → PoolSteady r.io.pool → OnOne s.connector (r.run s).2)
    (hout : s.connector.inTxn (r.session s) = false →
      occ (r.run s).2 = occ s.connector) : Single (step s (.command r)).2 := by
  refine single_of_command hs r hinside ?_
  by_cases htxn : s.txn.isSome ∨ s.connector.inTxn (r.session s) = true
  · obtain ⟨hprod, hrelay, hleasing, hio⟩ := hok.driver hdriver htxn
    exact .inl (hin hleasing hprod hrelay hio)
  · obtain ⟨hnone, hnot⟩ := not_or.mp htxn
    refine .inr ⟨Option.not_isSome_iff_eq_none.mp hnone, ?_⟩
    rw [hout (Bool.eq_false_iff.mpr hnot)]
    exact hs.single

theorem single_row_driver (hrow : isRowCommand r.command = true) (hmode : r.mode.isPassthrough = false) :
    Single (step s (.command r)).2 := by
  have hdriver : r.overDriver = true := by
    unfold Request.overDriver
    rw [hmode]
    cases hc : r.command <;> rw [hc] at hrow <;> first | rfl | cases hrow
  have hinside : inside r.command = true := by
    cases hc : r.command <;> rw [hc] at hrow <;> first | rfl | cases hrow
  refine single_driver hs hok hdriver hinside ?_ ?_
  · intro hleasing hprod hrelay hio
    have hin : s.connector.inTxn (r.session s) = true := by
      unfold Connector.inTxn
      unfold Connector.leasing at hleasing
      rw [hleasing]
      rfl
    rw [run_connector, executeOutcome_driver hrow hmode, hin]
    exact onOne_executeStreaming hrow _ _ hprod hrelay hio
  · intro hin
    rw [run_connector, executeOutcome_driver hrow hmode, hin]
    exact occ_executeStreaming_false hrow _ _ _

theorem single_describe {sql : String} (hc : r.command = .describeSql sql) : Single (step s (.command r)).2 := by
  have hrun : (r.run s).2 = (describeSql s.connector sql (r.session s) r.io.pool).2 := by
    rw [run_connector, hc]
    exact handled_completed _
  refine single_driver hs hok ?_ ?_ ?_ ?_
  · unfold Request.overDriver
    rw [hc]
  · rw [hc]
    rfl
  · intro hleasing hprod hrelay _
    rw [hrun]
    exact onOne_describeSql (r.session s) hprod hrelay sql r.io.pool hleasing
  · intro hin
    rw [hrun]
    refine occ_describeSql_false sql r.io.pool ?_
    unfold Connector.inTxn at hin
    exact (Bool.or_eq_false_iff.mp hin).1

theorem single_row_relay (hrow : isRowCommand r.command = true) (hmode : r.mode.isPassthrough = true) :
    Single (step s (.command r)).2 := by
  have hrelay : r.overRelay = true := by
    unfold Request.overRelay
    rw [hrow, hmode]
    rfl
  have hpass : r.mode = .passthrough := by
    cases hm : r.mode <;> rw [hm] at hmode <;> first | rfl | cases hmode
  have hinside : inside r.command = true := by
    cases hc : r.command <;> rw [hc] at hrow <;> first | rfl | cases hrow
  obtain ⟨hpool, hunit⟩ := hok.relay hrelay
  refine single_of_command hs r hinside ?_
  rw [run_connector, hpass]
  cases hhold : s.connector.tcpExtHold with
  | some conn =>
    have hio : Steady r.io := hok.relaySteady hrelay (.inr (by rw [hhold]; rfl))
    have hresumes : resumes (r.session s) = true := by
      rcases hunit with hnone | hresumes
      · rw [hhold] at hnone
        cases hnone
      · exact hresumes
    have htcp : s.connector.tcpTxn = none := by
      have hle := hs.single
      unfold occ relayOcc at hle
      rw [hpool, hhold] at hle
      cases htcp : s.connector.tcpTxn with
      | none => rfl
      | some conn' =>
        rw [htcp] at hle
        exact absurd hle (by simp)
    exact .inl (onOne_executeOutcome_resume hrow hio hpool hhold htcp hresumes)
  | none =>
    cases hin : s.connector.inTxn (r.session s) with
    | true =>
      exact .inl (onOne_executeOutcome_relay hrow (hok.relaySteady hrelay (.inl hin)) hpool hhold hin)
    | false =>
      have htxn : s.txn = none := by
        cases htxn : s.txn with
        | none => rfl
        | some ws =>
          rcases hok.relayTxn hrelay (by rw [htxn]; rfl) with h | h
          · rw [hin] at h
            cases h
          · rw [hhold] at h
            cases h
      have htcp : s.connector.tcpTxn = none := by
        unfold Connector.inTxn at hin
        have hnone := (Bool.or_eq_false_iff.mp hin).2
        exact Option.not_isSome_iff_eq_none.mp (Bool.eq_false_iff.mp hnone)
      have hvacant : occ s.connector = [] := occ_eq_nil.mpr ⟨hpool, relayOcc_eq_nil.mpr ⟨htcp, hhold⟩⟩
      exact .inr ⟨htxn, occ_executeOutcome_relay_le hrow r.io hvacant hin⟩

theorem single_sync (hc : r.command = .pgBackendSync) : Single (step s (.command r)).2 := by
  have hrun : (r.run s).2 = handled (executePgBackendSync s.connector (r.session s) r.io.relay) := by
    rw [run_connector, hc]
    rfl
  refine single_of_command hs r (by rw [hc]; rfl) ?_
  rw [hrun]
  unfold executePgBackendSync
  cases hhold : s.connector.tcpExtHold with
  | none => exact .inl (OnOne.refl _)
  | some conn =>
    have hle := hs.single
    unfold occ relayOcc at hle
    rw [hhold] at hle
    have htcp : s.connector.tcpTxn = none := by
      cases htcp : s.connector.tcpTxn with
      | none => rfl
      | some conn' =>
        rw [htcp] at hle
        exact absurd hle (by simp)
    have hpool : poolOcc s.connector = [] := by
      cases hpool : poolOcc s.connector with
      | nil => rfl
      | cons x xs =>
        rw [hpool] at hle
        exact absurd hle (by simp)
    have hon := relayOn_of_hold hhold htcp
    cases htxn : s.txn with
    | some ws =>
      have hio : RelaySteady r.io.relay := hok.sync hc (by rw [htxn]; rfl)
      dsimp only
      rw [relayInto_steady _ conn _ .txn hio]
      unfold withSession
      rw [handled_wireRelay]
      exact .inl (onOne_of_relayed _ (.inl rfl) _ hpool hon)
    | none =>
      have hvacant : occ { s.connector with tcpExtHold := none } = [] := occ_eq_nil.mpr ⟨hpool, hon.taken⟩
      exact .inr ⟨rfl, occ_relayInto_le _ hvacant conn _ .txn _⟩

end Commands

theorem run_finish {s : Client} {r : Request} {text : String} (hc : finishText r.command = some text) :
    (r.run s).2 = (finishTransaction s.connector text r.io.finish).2 := by
  rw [run_connector]
  cases hcmd : r.command with
  | commit =>
    rw [hcmd] at hc
    cases hc
    show handled (completed _) = _
    rw [handled_completed]
    unfold executeWithMode
    dsimp only
    rcases hfin : finishTransaction s.connector "COMMIT" r.io.finish with ⟨e | response, c⟩ <;> rfl
  | rollback =>
    rw [hcmd] at hc
    cases hc
    show handled (completed _) = _
    rw [handled_completed]
    unfold executeWithMode
    dsimp only
    rcases hfin : finishTransaction s.connector "ROLLBACK" r.io.finish with ⟨e | response, c⟩ <;> rfl
  | _ =>
    rw [hcmd] at hc
    cases hc

theorem occ_finishTransaction_le (c : Connector) (text : String) (io : FinishIo) :
    (occ (finishTransaction c text io).2).length ≤ (occ c).length := by
  unfold finishTransaction executeOnConn
  cases htcp : c.tcpTxn with
  | some conn =>
    dsimp only
    split
    · simp [occ, poolOcc, relayOcc, htcp]
    · simp [occ, poolOcc, relayOcc, htcp]
      omega
  | none =>
    cases hlease : c.txnLease with
    | none => exact Nat.le_refl _
    | some conn =>
      dsimp only
      cases io.clientOpen <;> simp [occ, poolOcc, relayOcc, hlease] <;> omega

theorem finishTransaction_log {conn : Conn} (hocc : occ c = [conn]) (hprod : NoLeaseProducer c)
    (hhold : c.tcpExtHold = none) (text : String) {io : FinishIo} (hopen : io.clientOpen = true) :
    (finishTransaction c text io).2.log = c.log ++ [(conn, .simpleQuery text)] := by
  unfold occ relayOcc at hocc
  rw [hprod.poolOcc_eq, hhold] at hocc
  unfold finishTransaction executeOnConn
  cases htcp : c.tcpTxn with
  | some conn' =>
    cases hlease : c.txnLease with
    | some old =>
      rw [htcp, hlease] at hocc
      cases hocc
    | none =>
      rw [htcp, hlease] at hocc
      cases hocc
      dsimp only
      split
      · rfl
      · simp
  | none =>
    cases hlease : c.txnLease with
    | none =>
      rw [htcp, hlease] at hocc
      cases hocc
    | some conn' =>
      rw [htcp, hlease] at hocc
      cases hocc
      rw [hopen]
      simp

theorem onOne_other (hrow : isRowCommand r.command = false) (hinside : inside r.command = true)
    (hsync : r.command ≠ .pgBackendSync) (hdescribe : ∀ sql, r.command ≠ .describeSql sql) :
    OnOne s.connector (r.run s).2 := by
  rw [run_connector, executeOutcome_other hrow hsync, handled_completed]
  cases hc : r.command with
  | describeSql sql => exact absurd hc (hdescribe sql)
  | pgBackendSync => exact absurd hc hsync
  | ping => exact OnOne.refl _
  | useDatabase database => exact OnOne.refl _
  | prepare sql => exact OnOne.of_eq rfl rfl
  | closeStatement id => exact OnOne.of_eq rfl rfl
  | clientWire packets => exact OnOne.refl _
  | query sql =>
    rw [hc] at hrow
    cases hrow
  | queryParams sql parameters =>
    rw [hc] at hrow
    cases hrow
  | execute id parameters =>
    rw [hc] at hrow
    cases hrow
  | _ =>
    rw [hc] at hinside
    cases hinside

theorem single_command (hs : Single s) (hok : SmoothRequest s r) : Single (step s (.command r)).2 := by
  have hfinish : ∀ text, finishText r.command = some text → (step s (.command r)).2.txn = none →
      Single (step s (.command r)).2 := by
    intro text hc htxn
    refine single_of_no_txn ?_ htxn
    show (occ (r.run s).2).length ≤ 1
    rw [run_finish hc]
    exact Nat.le_trans (occ_finishTransaction_le _ _ _) hs.single
  have hrows : isRowCommand r.command = true → Single (step s (.command r)).2 := by
    intro hrow
    cases hmode : r.mode.isPassthrough with
    | true => exact single_row_relay hs hok hrow hmode
    | false => exact single_row_driver hs hok hrow hmode
  have hother : isRowCommand r.command = false → inside r.command = true →
      r.command ≠ .pgBackendSync → (∀ sql, r.command ≠ .describeSql sql) →
      Single (step s (.command r)).2 := by
    intro hrow hinside hsync hdescribe
    exact single_of_command hs r hinside (.inl (onOne_other hrow hinside hsync hdescribe))
  cases hc : r.command with
  | query sql => exact hrows (by rw [hc]; rfl)
  | queryParams sql parameters => exact hrows (by rw [hc]; rfl)
  | execute id parameters => exact hrows (by rw [hc]; rfl)
  | describeSql sql => exact single_describe hs hok hc
  | pgBackendSync => exact single_sync hs hok hc
  | commit =>
    refine hfinish "COMMIT" (by rw [hc]; rfl) ?_
    show nextTxn s.txn _ r.command = none
    rw [hc]
    rfl
  | rollback =>
    refine hfinish "ROLLBACK" (by rw [hc]; rfl) ?_
    show nextTxn s.txn _ r.command = none
    rw [hc]
    rfl
  | quit =>
    have hocc : (occ (r.run s).2).length ≤ (occ s.connector).length := by
      rw [run_connector, hc]
      show (occ { s.connector.setLease none with tcpTxn := none, preparedSql := fun _ => none }).length ≤ _
      simp [occ, poolOcc, relayOcc]
      omega
    refine single_of_no_txn (Nat.le_trans hocc hs.single) ?_
    show nextTxn s.txn _ r.command = none
    rw [hc]
    rfl
  | begin =>
    have hrun : (r.run s).2 = s.connector := by
      rw [run_connector, hc]
      exact handled_completed _
    refine ⟨?_, ?_⟩
    · show (occ (r.run s).2).length ≤ 1
      rw [hrun]
      exact hs.single
    · -- what the transaction has written so far, or nothing
      intro ws hws w hw
      show occ (r.run s).2 = [w.1]
      have hnext : some (s.txn.getD []) = some ws := by
        rw [← hws]
        show _ = nextTxn s.txn _ r.command
        rw [hc]
        rfl
      cases hnext
      rw [hrun]
      cases htxn : s.txn with
      | none =>
        rw [htxn] at hw
        cases hw
      | some ws =>
        rw [htxn] at hw
        exact hs.owns ws htxn w hw
  | ping => exact hother (by rw [hc]; rfl) (by rw [hc]; rfl) (by rw [hc]; rintro ⟨⟩) (by rw [hc]; rintro _ ⟨⟩)
  | useDatabase database =>
    exact hother (by rw [hc]; rfl) (by rw [hc]; rfl) (by rw [hc]; rintro ⟨⟩) (by rw [hc]; rintro _ ⟨⟩)
  | prepare sql =>
    exact hother (by rw [hc]; rfl) (by rw [hc]; rfl) (by rw [hc]; rintro ⟨⟩) (by rw [hc]; rintro _ ⟨⟩)
  | closeStatement id =>
    exact hother (by rw [hc]; rfl) (by rw [hc]; rfl) (by rw [hc]; rintro ⟨⟩) (by rw [hc]; rintro _ ⟨⟩)
  | clientWire packets =>
    exact hother (by rw [hc]; rfl) (by rw [hc]; rfl) (by rw [hc]; rintro ⟨⟩) (by rw [hc]; rintro _ ⟨⟩)

theorem producers_split {l : List Producer} {i : Nat} {p : Producer} (h : l[i]? = some p) :
    ∃ before after, l = before ++ p :: after ∧ l.eraseIdx i = before ++ after := by
  obtain ⟨hi, hp⟩ := List.getElem?_eq_some_iff.mp h
  refine ⟨l.take i, l.drop (i + 1), ?_, List.eraseIdx_eq_take_drop_succ l i⟩
  rw [← hp, List.getElem_cons_drop, List.take_append_drop]

theorem poolOcc_producerDone (hle : (poolOcc c).length ≤ 1) (i : Nat) : poolOcc (producerDone c i) = poolOcc c := by
  unfold producerDone
  cases hget : c.producers[i]? with
  | none => rfl
  | some p =>
    obtain ⟨before, after, hall, herase⟩ := producers_split hget
    dsimp only
    rw [herase]
    cases hlease : p.toLease with
    | false =>
      rw [if_neg Bool.false_ne_true]
      simp [poolOcc, hall, hlease]
    | true =>
      -- it is the only one that occupies a connection
      rw [if_pos rfl]
      have hlen : c.txnLease.toList.length + (before.filter (·.toLease)).length +
          (after.filter (·.toLease)).length = 0 := by
        unfold poolOcc at hle
        rw [hall] at hle
        simp [hlease] at hle
        omega
      have hnone : c.txnLease.toList = [] := List.length_eq_zero_iff.mp (by omega)
      have hbefore : before.filter (·.toLease) = [] := List.length_eq_zero_iff.mp (by omega)
      have hafter : after.filter (·.toLease) = [] := List.length_eq_zero_iff.mp (by omega)
      unfold poolOcc
      rw [hnone, hall, List.filter_append, List.filter_cons_of_pos hlease, hbefore, hafter,
        setLease_txnLease, setLease_producers]
      show [p.conn] ++ ((before ++ after).filter (·.toLease)).map (·.conn) = _
      rw [List.filter_append, hbefore, hafter]
      rfl

theorem sameRelay_producerDone (c : Connector) (i : Nat) : SameRelay c (producerDone c i) := by
  unfold producerDone
  split
  · exact SameRelay.refl c
  · rename_i p _
    have herase : SameRelay c { c with producers := c.producers.eraseIdx i } := ⟨rfl, rfl, rfl⟩
    split
    · exact herase.trans (sameRelay_setLease _ _)
    · exact herase.trans (sameRelay_putConn _ _)

theorem occ_producerDone (hle : (occ c).length ≤ 1) (i : Nat) : occ (producerDone c i) = occ c := by
  have hpool : (poolOcc c).length ≤ 1 := by
    unfold occ at hle
    rw [List.length_append] at hle
    omega
  unfold occ
  rw [poolOcc_producerDone hpool, relayOcc_congr (sameRelay_producerDone c i)]

theorem occ_of_lease {conn : Conn} (hlease : c.txnLease = some conn) :
    occ c = conn :: occ { c with txnLease := none } := by
  unfold occ poolOcc
  rw [hlease]
  rfl

theorem onOne_checkSessionHealth (hle : (occ c).length ≤ 1) (after : Bool) :
    OnOne c (checkSessionHealth c true after).2 := by
  unfold checkSessionHealth
  cases hlease : c.txnLease with
  | none => exact OnOne.refl c
  | some conn =>
    have hocc : occ c = [conn] := by
      rw [occ_of_lease hlease] at hle ⊢
      rw [List.length_eq_zero_iff.mp (Nat.le_zero.mp (Nat.le_of_succ_le_succ hle))]
    refine ⟨[(conn, .simpleQuery "SELECT 1")], ?_, .inr ⟨conn, ?_, .inr hocc, ?_⟩⟩
    · show (Connector.setLease _ _).log = _
      rw [setLease_log]
      rfl
    · intro w hw
      rw [List.mem_singleton.mp hw]
    · rw [← hocc]
      show occ (Connector.setLease _ _) = occ c
      unfold occ poolOcc relayOcc
      rw [setLease_txnLease, setLease_producers, setLease_tcpTxn, setLease_tcpExtHold, hlease]
      rfl

theorem single_step (s : Client) (a : Act) (hs : Single s) (hok : Smooth s a) : Single (step s a).2 := by
  cases a with
  | command r => exact single_command hs hok
  | producerDone i =>
    have hocc : occ (producerDone s.connector i) = occ s.connector := occ_producerDone hs.single i
    refine ⟨?_, ?_⟩
    · show (occ (producerDone s.connector i)).length ≤ 1
      rw [hocc]
      exact hs.single
    · intro ws hws w hw
      show occ (producerDone s.connector i) = [w.1]
      rw [hocc]
      exact hs.owns ws hws w hw
  | fetch alive after =>
    cases alive with
    | true => exact hs.onOne (onOne_checkSessionHealth hs.single after) _
    | false =>
      cases hlease : s.connector.txnLease with
      | none =>
        have hsame : (checkSessionHealth s.connector false after).2 = s.connector := by
          unfold checkSessionHealth
          rw [hlease]
        refine hs.onOne ?_ _
        rw [hsame]
        exact OnOne.refl _
      | some conn =>
        have htxn : s.txn = none := by
          cases htxn : s.txn with
          | none => rfl
          | some ws =>
            have halive := hok (by rw [htxn]; rfl) (by rw [hlease]; rfl)
            cases halive
        refine single_of_no_txn ?_ ?_
        · have hle := hs.single
          rw [occ_of_lease hlease] at hle
          have hdrop : occ (checkSessionHealth s.connector false after).2 =
              occ { s.connector with txnLease := none } := by
            unfold checkSessionHealth
            rw [hlease]
            simp [occ, poolOcc, relayOcc]
          show (occ (checkSessionHealth s.connector false after).2).length ≤ 1
          rw [hdrop]
          exact Nat.le_of_succ_le hle
        · show s.txn.map _ = none
          rw [htxn]
          rfl

/-! ## Whole runs -/

/-- What a transaction on one connection means for a step of a run. -/
structure OnOneConnection (e : Entry Client Act (List (Conn × Sent))) : Prop where
  /-- The pooled lease and the relay slot are not both in use. -/
  slots : ¬(e.post.connector.txnLease.isSome ∧ e.post.connector.tcpTxn.isSome)
  /-- Everything written since BEGIN went to one connection. -/
  writes : ∀ ws, e.post.txn = some ws → ∀ w ∈ ws, ∀ w' ∈ ws, w.1 = w'.1
  /-- COMMIT and ROLLBACK are sent, and only there. -/
  finish : ∀ r text ws, e.act = .command r → finishText r.command = some text → e.pre.txn = some ws →
    ∀ w ∈ ws, e.out = [(w.1, .simpleQuery text)]

theorem onOneConnection_of_single {a : Act} (hs : Single s) (hok : Smooth s a) (hpost : Single (step s a).2) :
    OnOneConnection ⟨s, a, (step s a).1, (step s a).2⟩ := by
  refine ⟨?_, ?_, ?_⟩
  · rintro ⟨hlease, htcp⟩
    have hle := hpost.single
    obtain ⟨x, hx⟩ := Option.isSome_iff_exists.mp hlease
    obtain ⟨y, hy⟩ := Option.isSome_iff_exists.mp htcp
    unfold occ poolOcc relayOcc at hle
    dsimp only at hx hy
    rw [hx, hy] at hle
    simp at hle
  · intro ws hws w hw w' hw'
    have h := hpost.owns ws hws w hw
    rw [hpost.owns ws hws w' hw'] at h
    exact (List.singleton_inj.mp h).symm
  · intro r text ws hact hc hws w hw
    cases hact
    have htxn : s.txn.isSome := by
      rw [show s.txn = some ws from hws]
      rfl
    obtain ⟨hprod, hhold, hopen⟩ := hok.finish (by rw [hc]; rfl) htxn
    have hlog := finishTransaction_log (hs.owns ws hws w hw) hprod hhold text hopen
    show writesOf s.connector (r.run s).2 = _
    rw [run_finish hc]
    exact writesOf_eq hlog

theorem transaction_on_one_connection (session : SessionState) (endpoints : List EndpointConfig)
    (acts : List Act) (hok : Meets step Smooth (Client.start session endpoints) acts) :
    ∀ e ∈ entries step (Client.start session endpoints) acts, OnOneConnection e := by
  intro e he
  obtain ⟨hpre, hpost⟩ := inv_of_mem_entries Single single_step (single_start session endpoints) hok he
  obtain ⟨hout, hnext⟩ := entry_eq he
  have hsingle : Single (step e.pre e.act).2 := by
    rw [← hnext]
    exact hpost
  have h := onOneConnection_of_single hpre (hok e he) hsingle
  rw [← hout, ← hnext] at h
  exact h

/-- A request on the primary endpoint in which everything works. -/
def request (command : GatewayCommand) (mode : ExecuteMode) : Request where
  command := command
  mode := mode
  backendEndpoint := none
  frames := []
  extendedQuery := false
  io := { CallIo.works with pool := { PoolIo.works with start := .ok [], blockAfter := true } }

/-- BEGIN, two statements over the driver, COMMIT. -/
def streamedTransaction : List Act :=
  [.command (request .begin .materialized),
   .command (request (.query "insert into t values (1)") .materialized),
   .command (request (.query "insert into t values (2)") .materialized),
   .command (request .commit .materialized)]

/-- The same, with the second statement relayed. -/
def mixedTransaction : List Act :=
  [.command (request .begin .materialized),
   .command (request (.query "insert into t values (1)") .materialized),
   .command (request (.query "insert into t values (2)") .passthrough),
   .command (request .commit .materialized)]

theorem streamedTransaction_smooth : Meets step Smooth (Client.start .default [primary]) streamedTransaction := by
  have hsteady : PoolSteady (request .begin .materialized).io.pool := ⟨rfl, ⟨_, rfl, rfl⟩, ⟨_, rfl⟩⟩
  have hnone : ∀ {c : Connector}, c.producers = [] → NoLeaseProducer c := by
    intro c h p hp
    rw [h] at hp
    cases hp
  refine meets_cons ?_ (meets_cons ?_ (meets_cons ?_ (meets_cons ?_ meets_nil)))
  · exact ⟨nofun, nofun, nofun, nofun, nofun, nofun⟩
  · exact ⟨fun _ _ => ⟨hnone rfl, rfl, rfl, hsteady⟩, nofun, nofun, nofun, nofun, nofun⟩
  · exact ⟨fun _ _ => ⟨hnone rfl, rfl, rfl, hsteady⟩, nofun, nofun, nofun, nofun, nofun⟩
  · exact ⟨nofun, nofun, nofun, nofun, fun _ _ => ⟨hnone rfl, rfl, rfl⟩, nofun⟩

theorem transaction_on_one_connection_streamed :
    Meets step Smooth (Client.start .default [primary]) streamedTransaction ∧
    ∀ e ∈ entries step (Client.start .default [primary]) streamedTransaction, OnOneConnection e :=
  ⟨streamedTransaction_smooth,
    transaction_on_one_connection .default [primary] streamedTransaction streamedTransaction_smooth⟩

/-- The mixed transaction runs on two connections, COMMIT reaches the second only, and the first goes to
    the pool inside its transaction. -/
theorem mixed_transaction_two_connections :
    (∃ e ∈ entries step (Client.start .default [primary]) mixedTransaction, ¬OnOneConnection e) ∧
    (entries step (Client.start .default [primary]) mixedTransaction).map (·.out) =
      [[],
       [(⟨"10.0.0.1:5432|app", 0⟩, .simpleQuery "BEGIN"),
        (⟨"10.0.0.1:5432|app", 0⟩, .simpleQuery "insert into t values (1)")],
       [(⟨"10.0.0.1:5432|app|app", 1⟩, .simpleQuery "BEGIN"),
        (⟨"10.0.0.1:5432|app|app", 1⟩, .simpleQuery "insert into t values (2)")],
       [(⟨"10.0.0.1:5432|app|app", 1⟩, .simpleQuery "COMMIT")]] ∧
    (final step (Client.start .default [primary]) mixedTransaction).connector.pool = [⟨"10.0.0.1:5432|app", 0⟩] ∧
    (final step (Client.start .default [primary]) mixedTransaction).connector.inBlock
      ⟨"10.0.0.1:5432|app", 0⟩ = true := by
  refine ⟨?_, rfl, rfl, rfl⟩
  refine ⟨_, List.mem_cons_of_mem _ (List.mem_cons_of_mem _ List.mem_cons_self), ?_⟩
  intro h
  exact h.slots ⟨rfl, rfl⟩

end DataNexus.Backend
