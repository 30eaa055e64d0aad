/-
  The frame relay: are the client's own frames what the backend session gets?

  The decoder buffers Parse, Bind, Describe and Execute frames; the first Execute that is passed through writes the buffer
  to a relay session and holds it; under the hold every further Execute is written to that session alone.

  By design the gateway adds a Flush after each Execute, and a Describe before the first one of a unit that has none.  A
  Parse, Bind or Describe under the hold is dropped by the next Execute.  Apart from that: one session, the client's
  frames, in order, none dropped and none repeated (`relay_faithful`).  `UnitLog` is a history variable.
-/
import DataNexus.Engine.Rewrite

namespace DataNexus.Engine

open DataNexus.Frontend DataNexus.Backend DataNexus.Pdp DataNexus.Tickets DataNexus.Run

/-! ## Units -/

/-- The client's frames since the last Sync, and what was written to relay sessions for them. -/
structure UnitLog where
  frames : List ClientFrame
  written : List (Conn × Sent)
  /-- No frame was refused, no Parse, Bind or Describe came under a hold, every Execute was relayed as
      frames, and nothing else came in between. -/
  intact : Bool
deriving DecidableEq

def Sent.ofUnit : Sent → Bool
  | .frame _ => true
  | .describePortal _ => true
  | .flush => true
  | _ => false

def Sent.clientFrame : Sent → Option ClientFrame
  | .frame f => some f
  | _ => none

def Sent.isAdded : Sent → Bool
  | .describePortal _ => true
  | _ => false

/-- **The relay was faithful**: one session, the client's frames in order, at most one Describe beside Flush. -/
structure Faithful (u : UnitLog) : Prop where
  session : ∃ conn, ∀ w ∈ u.written, w.1 = conn
  frames : u.written.filterMap (fun w => Sent.clientFrame w.2) = u.frames
  added : (u.written.filter fun w => Sent.isAdded w.2).length ≤ 1
  bound : ∀ conn portal, (conn, .describePortal portal) ∈ u.written → ∃ f ∈ u.frames, f.boundPortal = some portal

/-- The frame relay takes the call and writes the buffered frames. -/
def relaysFrames (c : Connector) (h : HandOff) (io : CallIo) : Bool :=
  isRowCommand h.command && h.mode.isPassthrough && !h.session.pgClientExtendedFrames.isEmpty &&
    match selectEndpoint c h.session with
    | .ok endpoint =>
      succeeded (executeClientExtendedFramesTcpRelay c endpoint h.session (c.inTxn h.session) io.frames).1
    | .error _ => false

section Log

variable (r : Runtime PostgreSqlFrontend RawFrame Connector CallIo HealthIo Nat)

/-- The call of this frame was relayed as frames. -/
def framesRelayed (g : Gateway PostgreSqlFrontend Connector) (frame : RawFrame)
    (io : Nat → CommandIo CallIo HealthIo) : Bool :=
  (calls (r.handleFrame g frame io).events).any fun h => relaysFrames g.backend h (io 0).call

def UnitLog.next (u : UnitLog) (g : Gateway PostgreSqlFrontend Connector) (frame : RawFrame)
    (io : Nat → CommandIo CallIo HealthIo) : UnitLog :=
  let written := u.written ++ (handedOver r g frame io).filter fun w => Sent.ofUnit w.2
  match readFrame frame with
  | none => { u with intact := false }
  | some f =>
    if g.session.pgExtendedError && !endsIgnoring f.message then u
    else
      match f.message with
      | .sync => ⟨[], [], true⟩
      | .execute _ _ => ⟨u.frames ++ [f], written, u.intact && framesRelayed r g frame io⟩
      | .query _ => ⟨u.frames, written, u.intact && u.frames.isEmpty⟩
      | .terminate => { u with intact := false }
      | .close _ _ => u
      | .flush => u
      | _ =>
        ⟨u.frames ++ [f], written, u.intact && !g.session.pgExtTcpHold &&
            succeeded (r.frontend.decode g.frontend frame g.session).1⟩

structure Relayed where
  gateway : Option (Gateway PostgreSqlFrontend Connector)
  unit : UnitLog

def Relayed.start (g : Gateway PostgreSqlFrontend Connector) : Relayed := ⟨some g, ⟨[], [], true⟩⟩

/-- One step; the answer is the log of an Execute that was relayed as frames. -/
def relayedStep (s : Relayed) (a : Runtime.Act RawFrame CallIo HealthIo Nat) : Option UnitLog × Relayed :=
  match s.gateway, a with
  | some g, .frame frame io =>
    let unit := s.unit.next r g frame io
    (if (readFrame frame).any ClientFrame.isExecute && framesRelayed r g frame io then some unit else none,
      ⟨(r.step s.gateway a).2, unit⟩)
  | _, _ => (none, ⟨(r.step s.gateway a).2, s.unit⟩)

end Log

/-! ## The frames that are written -/

theorem withDescribe_frames (frames : List ClientFrame) (sawDescribe : Bool) (bound : Option String) :
    (withDescribe frames sawDescribe bound).filterMap Sent.clientFrame = frames := by
  induction frames generalizing sawDescribe bound with
  | nil =>
    unfold withDescribe
    cases bound with
    | none => rfl
    | some portal => cases sawDescribe <;> rfl
  | cons f rest ih =>
    unfold withDescribe
    cases f.boundPortal.or bound with
    | none =>
      show f :: _ = _
      rw [ih]
    | some portal =>
      dsimp only
      split
      · show f :: _ = _
        rw [ih]
      · show f :: _ = _
        rw [ih]

theorem withDescribe_added (frames : List ClientFrame) (sawDescribe : Bool) (bound : Option String) :
    ((withDescribe frames sawDescribe bound).filter Sent.isAdded).length ≤
      if sawDescribe then 0 else 1 := by
  induction frames generalizing sawDescribe bound with
  | nil =>
    unfold withDescribe
    cases bound with
    | none => exact Nat.zero_le _
    | some portal =>
      cases sawDescribe with
      | true => exact Nat.le_refl 0
      | false => exact Nat.le_refl 1
  | cons f rest ih =>
    have hle : ∀ saw : Bool, (if (sawDescribe || saw) = true then 0 else 1) ≤
        if sawDescribe = true then 0 else 1 := by
      intro saw
      cases sawDescribe <;> cases saw <;> decide
    unfold withDescribe
    cases f.boundPortal.or bound with
    | none => exact Nat.le_trans (ih (sawDescribe || f.isDescribe) none) (hle f.isDescribe)
    | some portal =>
      dsimp only
      split
      · rename_i hadd
        have hsaw : sawDescribe = false := by
          cases sawDescribe with
          | false => rfl
          | true => simp at hadd
        have hrest := ih true (some portal)
        rw [if_pos rfl] at hrest
        rw [hsaw, if_neg Bool.false_ne_true]
        show (List.filter Sent.isAdded (withDescribe rest true (some portal))).length + 1 ≤ 1
        omega
      · exact Nat.le_trans (ih (sawDescribe || f.isDescribe) (some portal)) (hle f.isDescribe)

theorem withDescribe_bound {frames : List ClientFrame} {sawDescribe : Bool} {bound : Option String}
    {portal : String} (h : .describePortal portal ∈ withDescribe frames sawDescribe bound) :
    bound = some portal ∨ ∃ f ∈ frames, f.boundPortal = some portal := by
  induction frames generalizing sawDescribe bound with
  | nil =>
    unfold withDescribe at h
    cases bound with
    | none => cases h
    | some p =>
      dsimp only at h
      split at h
      · cases h
      · have heq := List.mem_singleton.mp h
        injection heq with heq
        rw [heq]
        exact .inl rfl
  | cons f rest ih =>
    -- the portal bound so far is the frame's own, or the one from before
    have hor : f.boundPortal.or bound = some portal →
        bound = some portal ∨ ∃ g ∈ f :: rest, g.boundPortal = some portal := by
      intro hp
      cases hf : f.boundPortal with
      | none =>
        rw [hf] at hp
        exact .inl hp
      | some p =>
        rw [hf] at hp
        exact .inr ⟨f, List.mem_cons_self, hf.trans hp⟩
    have hmore : (f.boundPortal.or bound = some portal ∨ ∃ g ∈ rest, g.boundPortal = some portal) →
        bound = some portal ∨ ∃ g ∈ f :: rest, g.boundPortal = some portal := by
      rintro (hp | ⟨g, hg, hp⟩)
      · exact hor hp
      · exact .inr ⟨g, List.mem_cons_of_mem f hg, hp⟩
    unfold withDescribe at h
    cases hb : f.boundPortal.or bound with
    | none =>
      rw [hb] at h hmore
      rcases List.mem_cons.mp h with heq | h
      · cases heq
      · exact hmore (ih h)
    | some p =>
      rw [hb] at h hmore
      dsimp only at h
      split at h
      · rcases List.mem_cons.mp h with heq | h
        · injection heq with heq
          exact hmore (.inl (by rw [heq]))
        · rcases List.mem_cons.mp h with heq | h
          · cases heq
          · exact hmore (ih h)
      · rcases List.mem_cons.mp h with heq | h
        · cases heq
        · exact hmore (ih h)

/-! ## Commands that leave the unit alone -/

/-- The outcome of the call leaves backend writes and unit alone, and is no relay that could change it. -/
structure Apart (c : Connector) (session : SessionState)
    (out : Except GatewayError Outcome × SessionState × Connector) : Prop where
  unit : Runtime.unitOf out.2.1 = Runtime.unitOf session
  writes : Wrote (fun w => Sent.ofUnit w = false) c out.2.2

theorem ofUnit_of_text {w : Sent} {sql : String} (h : w.text = some sql) : Sent.ofUnit w = false := by
  cases w with
  | frame f => cases h
  | describePortal portal => cases h
  | flush => cases h
  | _ => rfl

theorem apart_row {command : GatewayCommand} (hrow : isRowCommand command = true) (c : Connector)
    {session : SessionState} (hframes : session.pgClientExtendedFrames = []) (mode : ExecuteMode)
    (io : CallIo) : Apart c session (executeOutcome c command session mode io) := by
  have hcovers : Covers (fun w => Sent.ofUnit w = false) command :=
    ⟨hrow, fun w hw => ofUnit_of_text hw, fun c sql _ w hw => ofUnit_of_text hw⟩
  constructor
  · have hempty : session.pgClientExtendedFrames.isEmpty = true := by rw [hframes]; rfl
    cases hmode : mode.isPassthrough with
    | false =>
      rw [executeOutcome_driver hrow hmode session io, executeStreaming_session hrow]
    | true =>
      obtain rfl : mode = .passthrough := by cases mode <;> first | rfl | cases hmode
      rcases executeOutcome_relay_cases c hrow session io with
        ⟨e, h⟩ | ⟨_, sql, endpoint, _, h⟩ | ⟨_, _, h⟩ | ⟨hne, _⟩ | ⟨hne, _⟩
      · rw [h]
      · rw [h]
        rfl
      · rw [h, executeUnrelayed_session hrow]
      · rw [hempty] at hne
        cases hne
      · rw [hempty] at hne
        cases hne
  · refine (wrote_executeOutcome hcovers c session mode io).mono ?_
    rintro w (hw | ⟨_, hne, _⟩)
    · exact hw
    · exact absurd hframes hne

theorem apart_other {command : GatewayCommand} (hrow : isRowCommand command = false)
    (hsync : command ≠ .pgBackendSync) (c : Connector) (session : SessionState) (mode : ExecuteMode)
    (io : CallIo) : Apart c session (executeOutcome c command session mode io) := by
  rw [executeOutcome_other hrow hsync]
  constructor
  · rw [completed_session]
    obtain ⟨database, state, h⟩ := executeWithMode_other_session hrow c session mode io
    rw [h]
    rfl
  · have h := wrote_executeWithMode_other c session hrow mode io
    generalize executeWithMode c command session mode io = out at h ⊢
    obtain ⟨e | response, s', c'⟩ := out
    · exact h.mono fun w hw => by
        obtain ⟨sql, hsql⟩ := hw
        exact ofUnit_of_text hsql
    · exact h.mono fun w hw => by
        obtain ⟨sql, hsql⟩ := hw
        exact ofUnit_of_text hsql

/-! ## The frame relay -/

variable {c c' : Connector} {u : UnitLog}

/-- **A successful frame relay**: the held session gets the Execute frames, or a session of its own gets
    the whole buffer. -/
theorem framesRelay_ok {endpoint : EndpointConfig} {session session' : SessionState} {b : Bool} {io : RelayIo}
    {outcome : Outcome}
    (h : executeClientExtendedFramesTcpRelay c endpoint session b io = (.ok outcome, session', c')) :
    ∃ conn, outcome = .wireRelay ⟨conn, .hold, io.response⟩ ∧ Runtime.unitOf session' = ([], true) ∧
      ((session.pgExtTcpHold = true ∧ c.tcpExtHold = some conn ∧
          c'.log = c.log ++ (clientExecuteHold session.pgClientExtendedFrames).map (conn, ·)) ∨
        (¬(session.pgClientExtendedFrames.all ClientFrame.isExecute && session.pgExtTcpHold) = true ∧
          ∃ c₁, Wrote (fun w => Sent.ofUnit w = false) c c₁ ∧
            c'.log = c₁.log ++ (clientFramesHold session.pgClientExtendedFrames).map (conn, ·))) := by
  have hrelay : ∀ {c c' : Connector} {conn : Conn} {sent : List Sent} {outcome : Outcome},
      relayInto c conn sent .hold io = (.ok outcome, c') →
      outcome = .wireRelay ⟨conn, .hold, io.response⟩ ∧ c'.log = c.log ++ sent.map (conn, ·) := by
    intro c c' conn sent outcome hrun
    unfold relayInto at hrun
    split at hrun
    · cases hrun
    · cases hrun
      exact ⟨rfl, rfl⟩
  unfold executeClientExtendedFramesTcpRelay at h
  split at h
  · cases h
  split at h
  · rename_i hresume
    unfold resumeHeldUnit at h
    cases hhold : c.tcpExtHold with
    | none =>
      rw [hhold] at h
      cases h
    | some conn =>
      rw [hhold] at h
      dsimp only at h
      rcases hrun : relayInto { c with tcpExtHold := none } conn
        (clientExecuteHold session.pgClientExtendedFrames) .hold io with ⟨e | out, c₁⟩
      · rw [hrun] at h
        cases h
      · rw [hrun] at h
        cases h
        obtain ⟨hout, hlog⟩ := hrelay hrun
        exact ⟨conn, hout, rfl, .inl ⟨(Bool.and_eq_true_iff.mp hresume).2, rfl, hlog⟩⟩
  · rename_i hnot
    unfold relayUnit at h
    split at h
    · cases h
    rename_i database _
    have hopen := wrote_openFrameSession c endpoint { session with pgClientExtendedFrames := [] } "BEGIN"
      io database b
    revert hopen
    rcases hsess : openFrameSession c endpoint database { session with pgClientExtendedFrames := [] } b io
      with ⟨e | conn, c₁⟩
    · rw [hsess] at h
      cases h
    · rw [hsess] at h
      intro hopen
      dsimp only at h
      rcases hrun : relayInto c₁ conn (clientFramesHold session.pgClientExtendedFrames) .hold io with
        ⟨e | out, c₂⟩
      · rw [hrun] at h
        cases h
      · rw [hrun] at h
        cases h
        obtain ⟨hout, hlog⟩ := hrelay hrun
        refine ⟨conn, hout, rfl, .inr ⟨hnot, c₁, ?_, hlog⟩⟩
        exact hopen.mono fun w hw => hw.elim ofUnit_of_text ofUnit_of_text

/-! ## The invariant -/

/-- The session knows its unit: before the first Execute it is the buffer; under the hold all was written. -/
structure Tracks (g : Gateway PostgreSqlFrontend Connector) (u : UnitLog) : Prop where
  fresh : g.session.pgExtTcpHold = false → u.written = [] ∧ g.session.pgClientExtendedFrames = u.frames
  held : g.session.pgExtTcpHold = true →
    g.session.pgClientExtendedFrames = [] ∧ Faithful u ∧ (u.frames = [] → u.written = []) ∧
      ∀ conn, g.backend.tcpExtHold = some conn → ∀ w ∈ u.written, w.1 = conn

theorem faithful_nil (b : Bool) : Faithful ⟨[], [], b⟩ :=
  ⟨⟨⟨"", 0⟩, fun _ hw => absurd hw List.not_mem_nil⟩, rfl, Nat.zero_le 1, fun _ _ h => absurd h List.not_mem_nil⟩

theorem Tracks.congr {g g' : Gateway PostgreSqlFrontend Connector} (h : Tracks g u)
    (hunit : Runtime.unitOf g'.session = Runtime.unitOf g.session)
    (hhold : u.written = [] ∨ g'.backend.tcpExtHold = g.backend.tcpExtHold) : Tracks g' u := by
  have hframes : g'.session.pgClientExtendedFrames = g.session.pgClientExtendedFrames := congrArg Prod.fst hunit
  have hflag : g'.session.pgExtTcpHold = g.session.pgExtTcpHold := congrArg Prod.snd hunit
  constructor
  · intro hfree
    rw [hframes]
    exact h.fresh (hflag.symm.trans hfree)
  · intro hheld
    obtain ⟨hbuffer, hfaithful, hnil, hconn⟩ := h.held (hflag.symm.trans hheld)
    refine ⟨hframes.trans hbuffer, hfaithful, hnil, ?_⟩
    intro conn hc w hw
    rcases hhold with hempty | hsame
    · rw [hempty] at hw
      cases hw
    · exact hconn conn (hsame.symm.trans hc) w hw

theorem filter_ofUnit_nil (h : Wrote (fun w => Sent.ofUnit w = false) c c') :
    (writesOf c c').filter (fun w => Sent.ofUnit w.2) = [] := by
  rw [List.filter_eq_nil_iff]
  intro w hw
  rw [h.mem hw]
  exact Bool.false_ne_true

theorem filter_ofUnit_hold (conn : Conn) (frames : List ClientFrame) :
    ((clientExecuteHold frames).map (conn, ·)).filter (fun w => Sent.ofUnit w.2) =
      (clientExecuteHold frames).map (conn, ·) ∧
    ((clientFramesHold frames).map (conn, ·)).filter (fun w => Sent.ofUnit w.2) =
      (clientFramesHold frames).map (conn, ·) := by
  have hpiece : ∀ {w : Sent}, OfUnit frames w → Sent.ofUnit w = true := by
    rintro w (⟨f, _, rfl⟩ | ⟨portal, rfl⟩ | rfl) <;> rfl
  constructor
  · rw [List.filter_eq_self]
    intro w hw
    obtain ⟨x, hx, rfl⟩ := List.mem_map.mp hw
    exact hpiece (clientExecuteHold_mem hx)
  · rw [List.filter_eq_self]
    intro w hw
    obtain ⟨x, hx, rfl⟩ := List.mem_map.mp hw
    exact hpiece (clientFramesHold_mem hx)

theorem faithful_buffer (conn : Conn) (frames : List ClientFrame) (b : Bool) :
    Faithful ⟨frames, (clientFramesHold frames).map (conn, ·), b⟩ := by
  refine ⟨⟨conn, ?_⟩, ?_, ?_, ?_⟩
  · intro w hw
    obtain ⟨x, _, rfl⟩ := List.mem_map.mp hw
    rfl
  · show ((clientFramesHold frames).map (conn, ·)).filterMap (fun w => Sent.clientFrame w.2) = frames
    rw [List.filterMap_map]
    show (clientFramesHold frames).filterMap Sent.clientFrame = frames
    unfold clientFramesHold
    rw [List.filterMap_append, withDescribe_frames]
    exact List.append_nil frames
  · show (((clientFramesHold frames).map (conn, ·)).filter fun w => Sent.isAdded w.2).length ≤ 1
    rw [List.filter_map, List.length_map]
    show ((clientFramesHold frames).filter Sent.isAdded).length ≤ 1
    unfold clientFramesHold
    rw [List.filter_append]
    have hone := withDescribe_added frames false none
    rw [if_neg Bool.false_ne_true] at hone
    have hflush : [Sent.flush].filter Sent.isAdded = [] := rfl
    rw [hflush, List.append_nil]
    exact hone
  · intro conn' portal h
    obtain ⟨x, hx, heq⟩ := List.mem_map.mp h
    injection heq with _ heq
    rw [heq] at hx
    unfold clientFramesHold at hx
    rcases List.mem_append.mp hx with hx | hx
    · rcases withDescribe_bound hx with hnone | hbound
      · cases hnone
      · exact hbound
    · cases List.mem_singleton.mp hx

theorem Faithful.execute (h : Faithful u) {conn : Conn} (hconn : ∀ w ∈ u.written, w.1 = conn) (f : ClientFrame)
    (b : Bool) : Faithful ⟨u.frames ++ [f], u.written ++ (clientExecuteHold [f]).map (conn, ·), b⟩ := by
  refine ⟨⟨conn, ?_⟩, ?_, ?_, ?_⟩
  · intro w hw
    rcases List.mem_append.mp hw with hw | hw
    · exact hconn w hw
    · obtain ⟨x, _, rfl⟩ := List.mem_map.mp hw
      rfl
  · show (u.written ++ _).filterMap (fun w => Sent.clientFrame w.2) = u.frames ++ [f]
    rw [List.filterMap_append, h.frames]
    rfl
  · show ((u.written ++ _).filter fun w => Sent.isAdded w.2).length ≤ 1
    rw [List.filter_append]
    have hnone : ((clientExecuteHold [f]).map (conn, ·)).filter (fun w => Sent.isAdded w.2) = [] := rfl
    rw [hnone, List.append_nil]
    exact h.added
  · intro conn' portal hmem
    rcases List.mem_append.mp hmem with hmem | hmem
    · obtain ⟨f', hf', hbound⟩ := h.bound conn' portal hmem
      exact ⟨f', List.mem_append_left _ hf', hbound⟩
    · obtain ⟨x, hx, heq⟩ := List.mem_map.mp hmem
      injection heq with _ heq
      rw [heq] at hx
      rcases List.mem_cons.mp hx with hx | hx
      · cases hx
      · cases List.mem_singleton.mp hx

/-! ## One command -/

theorem relayedSession_unit {command : GatewayCommand} {session : SessionState}
    (hsync : command ≠ .pgBackendSync) (hframes : session.pgClientExtendedFrames = []) (response : RelayEnd) :
    Runtime.unitOf (Runtime.relayedSession command session response) = Runtime.unitOf session := by
  have hobserve : Runtime.unitOf (observeRelay session response) = Runtime.unitOf session := by
    unfold observeRelay
    dsimp only
    split <;> split <;> rfl
  unfold Runtime.relayedSession
  dsimp only
  rw [if_neg hsync]
  split
  · refine Eq.trans ?_ hobserve
    show ([], _) = (_, _)
    have h : (observeRelay session response).pgClientExtendedFrames = [] := (congrArg Prod.fst hobserve).trans hframes
    rw [h]
  · exact hobserve

section Commands

variable (t : PgSetup) (d : Dialect) (codec : PostgreSqlFrontend → SessionState → Option Obligations → RowCodec)
  (service : Service)

theorem handleCommand_apart (htr : t.service.translation = none)
    (g : Gateway PostgreSqlFrontend Connector) {command : GatewayCommand}
    (hkind : kindOf command = command) (hrow : isRowCommand command = false)
    (hprepare : ∀ sql, command ≠ .prepare sql) (hsync : command ≠ .pgBackendSync) (io : CommandIo CallIo HealthIo) :
    Runtime.unitOf (t.runtime.handleCommand g command io).gateway.session =
        Runtime.unitOf g.session ∧ Wrote (fun w => Sent.ofUnit w = false) g.backend
      (t.runtime.handleCommand g command io).gateway.backend := by
  cases t.runtime.serves_handleCommand g command io with
  | still hcalls h => exact ⟨h.unit, Wrote.of_eq (by rw [h.backend])⟩
  | probed hcalls hcursor hbackend hunit =>
    cases command with
    | query sql => cases hrow
    | _ => exact absurd rfl hcursor
  | called h hcalls hunit hstate hbackend hleaves =>
    have hcommand : h.command = command := eq_of_kindOf (kindOf_handed htr hcalls) hkind hrow hprepare
    have hapart := apart_other hrow hsync g.backend h.session h.mode io.call
    rw [hcommand] at hbackend hleaves
    refine ⟨?_, ?_⟩
    · cases hleaves with
      | same hsame => exact hsame.trans (hapart.unit.trans hunit)
      | relayed relay hout hsame =>
        -- such a command is answered with a response
        have hrun : (executeOutcome g.backend command h.session h.mode io.call).1 = .ok (.wireRelay relay) := hout
        rw [executeOutcome_other hrow hsync] at hrun
        exact absurd hrun (noRelay_completed _ relay)
    · rw [hbackend]
      exact hapart.writes.then_eq (settled_log _)

variable {g : Gateway PostgreSqlFrontend Connector} {c : Connector} {h : HandOff} {u : UnitLog} {f : ClientFrame}
  {φ ι β ω η κ : Type} {p : PostgreSqlFrontend}

theorem handleCommand_empty (htr : t.service.translation = none) (hframes : g.session.pgClientExtendedFrames = [])
    {command : GatewayCommand} (hsync : command ≠ .pgBackendSync) (io : CommandIo CallIo HealthIo) :
    Runtime.unitOf (t.runtime.handleCommand g command io).gateway.session =
        Runtime.unitOf g.session ∧ Wrote (fun w => Sent.ofUnit w = false) g.backend
      (t.runtime.handleCommand g command io).gateway.backend := by
  cases t.runtime.serves_handleCommand g command io with
  | still hcalls h => exact ⟨h.unit, Wrote.of_eq (by rw [h.backend])⟩
  | probed hcalls hcursor hbackend hunit =>
    refine ⟨hunit, ?_⟩
    rw [hbackend]
    refine (wrote_checkHealth g.backend io.health).mono fun w hw => ?_
    obtain ⟨sql, hsql⟩ := hw
    exact ofUnit_of_text hsql
  | called h hcalls hunit hstate hbackend hleaves =>
    have hnotSync : h.command ≠ .pgBackendSync := by
      intro heq
      have hkind := kindOf_handed htr hcalls
      rw [heq] at hkind
      cases command with
      | pgBackendSync => exact hsync rfl
      | _ => cases hkind
    have hbuffer : h.session.pgClientExtendedFrames = [] := (congrArg Prod.fst hunit).trans hframes
    have hapart : Apart g.backend h.session (executeOutcome g.backend h.command h.session h.mode io.call) := by
      cases hrow : isRowCommand h.command with
      | true => exact apart_row hrow g.backend hbuffer h.mode io.call
      | false => exact apart_other hrow hnotSync g.backend h.session h.mode io.call
    refine ⟨?_, ?_⟩
    · cases hleaves with
      | same hsame => exact hsame.trans (hapart.unit.trans hunit)
      | relayed relay hout hsame =>
        refine hsame.trans ?_
        refine (relayedSession_unit hsync ?_ relay.response).trans (hapart.unit.trans hunit)
        exact (congrArg Prod.fst hapart.unit).trans hbuffer
    · rw [hbackend]
      exact hapart.writes.then_eq (settled_log _)

theorem handleCommand_sync (htr : t.service.translation = none) (hframes : g.session.pgClientExtendedFrames = [])
    (io : CommandIo CallIo HealthIo) : (t.runtime.handleCommand g .pgBackendSync
      io).gateway.session.pgClientExtendedFrames = [] := by
  cases t.runtime.serves_handleCommand g .pgBackendSync io with
  | still hcalls h => exact (congrArg Prod.fst h.unit).trans hframes
  | probed hcalls hcursor hbackend hunit => exact absurd rfl hcursor
  | called h hcalls hunit hstate hbackend hleaves =>
    have hcommand : h.command = .pgBackendSync := eq_of_kindOf (kindOf_handed htr hcalls) rfl rfl nofun
    have hbuffer : h.session.pgClientExtendedFrames = [] := (congrArg Prod.fst hunit).trans hframes
    have hsync : (executeOutcome g.backend .pgBackendSync h.session h.mode
        io.call).2.1.pgClientExtendedFrames = [] := by
      unfold executeOutcome executePgBackendSync
      cases g.backend.tcpExtHold with
      | none => exact hbuffer
      | some conn => rfl
    rw [hcommand] at hleaves
    cases hleaves with
    | same hsame => exact (congrArg Prod.fst hsame).trans hsync
    | relayed relay hout hsame =>
      refine (congrArg Prod.fst hsame).trans ?_
      have hobserve : (observeRelay (executeOutcome g.backend .pgBackendSync h.session h.mode
          io.call).2.1 relay.response).pgClientExtendedFrames = [] := by
        refine Eq.trans ?_ hsync
        unfold observeRelay
        dsimp only
        split <;> split <;> rfl
      unfold Runtime.relayedSession
      dsimp only
      rw [if_pos rfl]
      exact hobserve

theorem executeOutcome_relaysFrames {io : CallIo} (hrelays : relaysFrames c h io = true) :
    ∃ endpoint outcome session' c',
      executeClientExtendedFramesTcpRelay c endpoint h.session (c.inTxn h.session) io.frames =
        (.ok outcome, session', c') ∧
      executeOutcome c h.command h.session h.mode io = (.ok outcome, session', c') := by
  unfold relaysFrames at hrelays
  obtain ⟨⟨⟨hrow, hmode⟩, hne⟩, hrun⟩ : ((isRowCommand h.command = true ∧ h.mode.isPassthrough = true) ∧
      (!h.session.pgClientExtendedFrames.isEmpty) = true) ∧ _ := by
    simpa only [Bool.and_eq_true] using hrelays
  have hpass : h.mode = .passthrough := by
    cases hm : h.mode with
    | passthrough => rfl
    | _ => rw [hm] at hmode; cases hmode
  have hfalse : h.session.pgClientExtendedFrames.isEmpty = false := by
    cases hempty : h.session.pgClientExtendedFrames.isEmpty with
    | false => rfl
    | true => rw [hempty] at hne; cases hne
  cases hend : selectEndpoint c h.session with
  | error e =>
    rw [hend] at hrun
    cases hrun
  | ok endpoint =>
    rw [hend] at hrun
    dsimp only at hrun
    rcases hout : executeClientExtendedFramesTcpRelay c endpoint h.session (c.inTxn h.session) io.frames
      with ⟨e | outcome, session', c'⟩
    · rw [hout] at hrun
      cases hrun
    · refine ⟨endpoint, outcome, session', c', hout, ?_⟩
      rw [hpass]
      unfold executeOutcome
      cases hcommand : h.command with
      | query sql =>
        simp only [isRowCommand, ExecuteMode.promoteRowStream, hfalse, hend, hout, Bool.not_true,
          Bool.false_eq_true, if_false]
      | queryParams sql parameters =>
        simp only [isRowCommand, ExecuteMode.promoteRowStream, hfalse, hend, hout, Bool.not_true,
          Bool.false_eq_true, if_false]
      | execute id parameters =>
        simp only [isRowCommand, ExecuteMode.promoteRowStream, hfalse, hend, hout, Bool.not_true,
          Bool.false_eq_true, if_false]
      | _ => rw [hcommand] at hrow; cases hrow

/-- **An Execute that is relayed.**  `frames` is the buffer with it. -/
theorem tracks_execute {g' : Gateway PostgreSqlFrontend Connector} (hu : Tracks g u)
    (hexec : f.isExecute = true) {io : CallIo} (hunit : Runtime.unitOf h.session =
      ((if g.session.pgExtTcpHold then [] else g.session.pgClientExtendedFrames) ++ [f],
        g.session.pgExtTcpHold)) (hrelays : relaysFrames g.backend h io = true) {command : GatewayCommand}
    (hsync : command ≠ .pgBackendSync) (hbackend : g'.backend = t.runtime.settled
      (executeOutcome g.backend h.command h.session h.mode io))
    (hleaves : Runtime.Leaves command (executeOutcome g.backend h.command h.session h.mode io)
      g'.session) (b : Bool) :
    g'.session.pgExtTcpHold = true ∧
    Tracks g' ⟨u.frames ++ [f],
      u.written ++ (writesOf g.backend g'.backend).filter (fun w => Sent.ofUnit w.2), b⟩ := by
  obtain ⟨endpoint, outcome, session', c', hrun, hout⟩ := executeOutcome_relaysFrames hrelays
  obtain ⟨conn, houtcome, hunit', hcase⟩ := framesRelay_ok hrun
  rw [hout] at hbackend hleaves
  have hframes : h.session.pgClientExtendedFrames =
      (if g.session.pgExtTcpHold then [] else g.session.pgClientExtendedFrames) ++ [f] :=
    congrArg Prod.fst hunit
  have hflag : h.session.pgExtTcpHold = g.session.pgExtTcpHold := congrArg Prod.snd hunit
  -- the unit afterwards
  have hafter : Runtime.unitOf g'.session = ([], true) := by
    cases hleaves with
    | same hsame => exact hsame.trans hunit'
    | relayed relay hrelay hsame =>
      refine hsame.trans ((relayedSession_unit hsync ?_ relay.response).trans hunit')
      exact congrArg Prod.fst hunit'
  have hheld : g'.backend.tcpExtHold = some conn := by
    rw [hbackend, houtcome]
    rfl
  have hlog : g'.backend.log = c'.log := by
    rw [hbackend]
    exact settled_log _
  have hfaithful : ∃ ws, u.written ++ (writesOf g.backend g'.backend).filter (fun w => Sent.ofUnit w.2) = ws ∧
      Faithful ⟨u.frames ++ [f], ws, b⟩ ∧ ∀ w ∈ ws, w.1 = conn := by
    have hconnMap : ∀ sent : List Sent, ∀ w ∈ sent.map ((conn, ·) : Sent → Conn × Sent), w.1 = conn := by
      intro sent w hw
      obtain ⟨x, _, rfl⟩ := List.mem_map.mp hw
      rfl
    rcases hcase with ⟨hhold, hconn, hgrow⟩ | ⟨hnot, c₁, hopen, hgrow⟩
    · -- the unit is held: this Execute goes to its session
      have hghold : g.session.pgExtTcpHold = true := hflag.symm.trans hhold
      obtain ⟨_, hfaith, _, hsame⟩ := hu.held hghold
      have hone : h.session.pgClientExtendedFrames = [f] := by
        rw [hframes, if_pos hghold]
        rfl
      rw [hone] at hgrow
      rw [writesOf_eq (hlog.trans hgrow), (filter_ofUnit_hold conn [f]).1]
      refine ⟨_, rfl, hfaith.execute (hsame conn hconn) f b, ?_⟩
      intro w hw
      rcases List.mem_append.mp hw with hw | hw
      · exact hsame conn hconn w hw
      · exact hconnMap _ w hw
    · -- the unit is not held yet: the buffer is all of it
      have hghold : g.session.pgExtTcpHold = false := by
        cases hg : g.session.pgExtTcpHold with
        | false => rfl
        | true =>
          refine absurd ?_ hnot
          rw [hframes, hflag, hg, if_pos rfl]
          simp [hexec]
      obtain ⟨hnone, hbuffer⟩ := hu.fresh hghold
      have hall : h.session.pgClientExtendedFrames = u.frames ++ [f] := by
        rw [hframes, hghold, if_neg Bool.false_ne_true, hbuffer]
      obtain ⟨ws, hws, hapart⟩ := hopen
      rw [hws, List.append_assoc, hall] at hgrow
      have hnoUnit : ws.filter (fun w => Sent.ofUnit w.2) = [] := by
        rw [List.filter_eq_nil_iff]
        intro w hw
        rw [hapart w hw]
        exact Bool.false_ne_true
      rw [writesOf_eq (hlog.trans hgrow), List.filter_append, hnoUnit, hnone, (filter_ofUnit_hold conn _).2]
      exact ⟨_, rfl, faithful_buffer conn _ b, hconnMap _⟩
  obtain ⟨ws, hws, hfaith, hconn⟩ := hfaithful
  rw [hws]
  have htrue : g'.session.pgExtTcpHold = true := congrArg Prod.snd hafter
  refine ⟨htrue, ?_, ?_⟩
  · intro hfalse
    rw [htrue] at hfalse
    cases hfalse
  · intro _
    refine ⟨congrArg Prod.fst hafter, hfaith, ?_, ?_⟩
    · intro hnil
      exact absurd hnil (by simp)
    · intro conn' hconn' w hw
      have heq : conn = conn' := by
        have h := hheld.symm.trans hconn'
        injection h
      rw [← heq]
      exact hconn w hw

/-! ## One frame -/

theorem handleFrame_one (r : Runtime φ ι β ω η κ) (g : Gateway φ β) (frame : ι) {command : GatewayCommand}
    (h : (r.frontend.decode g.frontend frame g.session).1 = .ok [command]) (io : Nat → CommandIo ω η) :
    (r.handleFrame g frame io).gateway = (r.handleCommand (r.decoded g frame) command (io 0)).gateway ∧
    (r.handleFrame g frame io).events = (r.handleCommand (r.decoded g frame) command (io 0)).events := by
  rcases r.handleFrame_cases g frame io with ⟨hnone, _⟩ | ⟨command', _, hone, hevents, hgateway, _⟩
  · unfold Runtime.commandsOf at hnone
    rw [h] at hnone
    cases hnone
  · have heq := h.symm.trans hone
    injection heq with heq
    injection heq with heq
    rw [heq]
    exact ⟨hgateway, hevents⟩

theorem handleFrame_nothing (r : Runtime φ ι β ω η κ) (g : Gateway φ β) (frame : ι)
    (h : (r.frontend.decode g.frontend frame g.session).1 = .ok []) (io : Nat → CommandIo ω η) :
    (r.handleFrame g frame io).gateway.backend = g.backend ∧
    Runtime.unitOf (r.handleFrame g frame io).gateway.session = Runtime.unitOf (r.decoded g frame).session ∧
    calls (r.handleFrame g frame io).events = [] := by
  rcases r.handleFrame_cases g frame io with ⟨_, hquiet, hstill⟩ | ⟨command, hcmd, hone, _⟩
  · exact ⟨hstill.backend, hstill.unit, hquiet.calls⟩
  · rw [h] at hone
    cases hone

/-- A Parse, Bind or Describe that is accepted: it is buffered and answered, or its columns are asked
    for. -/
theorem decode_piece {session : SessionState} (hlive : (session.pgExtendedError && !endsIgnoring f.message) = false)
    (hpiece : (∃ statement query, f.message = .parse statement query) ∨
      (∃ portal statement parameters formats, f.message = .bind portal statement parameters formats) ∨
      ∃ target name, f.message = .describe target name) (hok : succeeded (decodeMessage d p f session).1 = true) :
    ∃ command, (decodeMessage d p f session).1 = .ok [command] ∧
      ((∃ packets, command = .clientWire packets) ∨ ∃ sql, command = .describeSql sql) ∧
      Runtime.unitOf (decodeMessage d p f session).2.1 =
        (session.pgClientExtendedFrames ++ [f], session.pgExtTcpHold) := by
  unfold decodeMessage at hok ⊢
  rw [hlive, if_neg Bool.false_ne_true] at hok ⊢
  rcases hpiece with ⟨statement, query, hm⟩ | ⟨portal, statement, parameters, formats, hm⟩ |
    ⟨target, name, hm⟩
  · rw [hm] at hok ⊢
    dsimp only at hok ⊢
    unfold decodeParse at hok ⊢
    cases hd : d.classifyDangerousSql query with
    | some capability =>
      rw [hd] at hok
      cases hok
    | none => exact ⟨_, rfl, .inl ⟨_, rfl⟩, rfl⟩
  · rw [hm] at hok ⊢
    dsimp only at hok ⊢
    unfold decodeBind at hok ⊢
    dsimp only at hok ⊢
    cases hp : p.prepared statement with
    | none =>
      rw [hp] at hok
      cases hok
    | some sql =>
      rw [hp] at hok
      dsimp only at hok ⊢
      cases ha : bindArityError sql (bindParameters parameters) with
      | some e =>
        rw [ha] at hok
        cases hok
      | none => exact ⟨_, rfl, .inl ⟨_, rfl⟩, rfl⟩
  · rw [hm] at hok ⊢
    dsimp only at hok ⊢
    unfold decodeDescribe at hok ⊢
    dsimp only at hok ⊢
    split
    · rename_i hcolumns
      rw [if_pos hcolumns] at hok
      cases hsql : describedSql p target name with
      | none => exact ⟨_, rfl, .inl ⟨_, rfl⟩, rfl⟩
      | some sql =>
        rw [hsql] at hok
        dsimp only at hok ⊢
        rcases hselect : looksLikeSelect sql with _ | _ | _
        · rw [hselect] at hok
          cases hok
        · exact ⟨_, rfl, .inl ⟨_, rfl⟩, rfl⟩
        · exact ⟨_, rfl, .inr ⟨sql, rfl⟩, rfl⟩
    · rename_i hcolumns
      rw [if_neg hcolumns] at hok
      cases hrow : d.encodeRowDescription (describedColumns p target name) (describedFormat p target name) with
      | error e =>
        rw [hrow] at hok
        cases hok
      | ok packet => exact ⟨_, rfl, .inl ⟨_, rfl⟩, rfl⟩

theorem handleCommand_piece (htr : t.service.translation = none)
    (g : Gateway PostgreSqlFrontend Connector) {command : GatewayCommand}
    (hcommand : (∃ packets, command = .clientWire packets) ∨ ∃ sql, command = .describeSql sql)
    (io : CommandIo CallIo HealthIo) :
    Runtime.unitOf (t.runtime.handleCommand g command io).gateway.session =
        Runtime.unitOf g.session ∧ Wrote (fun w => Sent.ofUnit w = false) g.backend
      (t.runtime.handleCommand g command io).gateway.backend := by
  rcases hcommand with ⟨packets, rfl⟩ | ⟨sql, rfl⟩
  · exact handleCommand_apart t htr g rfl rfl (by nofun) (by nofun) io
  · exact handleCommand_apart t htr g rfl rfl (by nofun) (by nofun) io

theorem handleCommand_wire (htr : t.service.translation = none)
    (g : Gateway PostgreSqlFrontend Connector) (packets : List (List UInt8)) (io : CommandIo CallIo HealthIo) :
    (t.runtime.handleCommand g (.clientWire packets) io).gateway.backend = g.backend := by
  cases t.runtime.serves_handleCommand g (.clientWire packets) io with
  | still hcalls h => exact h.backend
  | probed hcalls hcursor hbackend hunit => exact absurd rfl hcursor
  | called h hcalls hunit hstate hbackend hleaves =>
    have hcommand : h.command = .clientWire packets := eq_of_kindOf (kindOf_handed htr hcalls) rfl rfl nofun
    rw [hbackend, hcommand]
    rfl

theorem decode_execute {session : SessionState} {portal : String} {maxRows : Int}
    (hlive : (session.pgExtendedError && !endsIgnoring f.message) = false) (hm : f.message = .execute portal maxRows) :
    Runtime.unitOf (decodeMessage d p f session).2.1 =
      ((if session.pgExtTcpHold then [] else session.pgClientExtendedFrames) ++ [f], session.pgExtTcpHold) := by
  unfold decodeMessage
  rw [hlive, if_neg Bool.false_ne_true, hm]
  dsimp only
  unfold decodeExecute
  cases p.portals portal with
  | none => rfl
  | some sql => rfl

theorem decode_ignored {session : SessionState}
    (h : (session.pgExtendedError && !endsIgnoring f.message) = true ∨ f.message = .flush) :
    decodeMessage d p f session = (.ok [], session, p) := by
  unfold decodeMessage
  split
  · rfl
  · rename_i hlive
    rcases h with h | h
    · exact absurd h hlive
    · rw [h]

theorem decode_query {session : SessionState} {sql : String}
    (hlive : (session.pgExtendedError && !endsIgnoring f.message) = false) (hm : f.message = .query sql) :
    ∃ command, (decodeMessage d p f session).1 = .ok [command] ∧ command ≠ .pgBackendSync ∧
      Runtime.unitOf (decodeMessage d p f session).2.1 = Runtime.unitOf session := by
  unfold decodeMessage
  rw [hlive, if_neg Bool.false_ne_true, hm]
  dsimp only
  refine ⟨_, rfl, ?_, ?_⟩
  · unfold decodeQueryCommand
    dsimp only
    split
    · nofun
    · split
      · nofun
      · split
        · nofun
        · nofun
  · obtain ⟨charset, state, hs⟩ := decodeQueryCommand_cases sql { session with pgExtendedQuery := false }
    unfold decodeQuery
    dsimp only
    rw [hs]
    rfl

def readable (tag : UInt8) (f : ClientFrame) : RawFrame := ⟨tag, .ok f⟩

theorem tracks_piece (htr : t.service.translation = none) (hu : Tracks g u) (tag : UInt8)
    (hlive : (g.session.pgExtendedError && !endsIgnoring f.message) = false)
    (hpiece : (∃ statement query, f.message = .parse statement query) ∨
      (∃ portal statement parameters formats, f.message = .bind portal statement parameters formats) ∨
      ∃ target name, f.message = .describe target name) (hfree : g.session.pgExtTcpHold = false)
    (hok : succeeded (decodeMessage t.d g.frontend f g.session).1 = true) (io : Nat → CommandIo CallIo HealthIo)
    (b : Bool) : Tracks (t.runtime.handleFrame g (readable tag f) io).gateway
      ⟨u.frames ++ [f], u.written ++ (handedOver t.runtime g (readable tag f)
        io).filter (fun w => Sent.ofUnit w.2), b⟩ := by
  obtain ⟨command, hone, hkind, hunit⟩ := decode_piece t.d hlive hpiece hok
  obtain ⟨hgateway, _⟩ := handleFrame_one t.runtime g (readable tag f) hone io
  obtain ⟨hsame, hwrote⟩ := handleCommand_piece t htr (t.runtime.decoded g (readable tag f)) hkind (io 0)
  have hafter := hsame.trans hunit
  obtain ⟨hnone, hbuffer⟩ := hu.fresh hfree
  have hfilter : (handedOver t.runtime g (readable tag f) io).filter (fun w => Sent.ofUnit w.2) = [] := by
    unfold handedOver
    rw [hgateway]
    exact filter_ofUnit_nil hwrote
  rw [hgateway, hfilter, List.append_nil, hnone]
  constructor
  · intro _
    refine ⟨rfl, (congrArg Prod.fst hafter).trans ?_⟩
    show g.session.pgClientExtendedFrames ++ [f] = u.frames ++ [f]
    rw [hbuffer]
  · intro hheld
    have hflag : false = true := hfree.symm.trans ((congrArg Prod.snd hafter).symm.trans hheld)
    cases hflag

theorem tracks_sync (htr : t.service.translation = none) (g : Gateway PostgreSqlFrontend Connector) (tag : UInt8)
    (hm : f.message = .sync) (io : Nat → CommandIo CallIo HealthIo) :
    Tracks (t.runtime.handleFrame g (readable tag f) io).gateway ⟨[], [], true⟩ := by
  have hframes : (t.runtime.handleFrame g (readable tag f) io).gateway.session.pgClientExtendedFrames = [] := by
    have hdec : decodeMessage t.d g.frontend f g.session = decodeSync g.frontend g.session := by
      unfold decodeMessage
      rw [hm]
      simp [endsIgnoring]
    have hbuffer : (decodeSync g.frontend g.session).2.1.pgClientExtendedFrames = [] := by
      unfold decodeSync
      dsimp only
      split <;> rfl
    have hdecoded : (t.runtime.decoded g (readable tag f)).session.pgClientExtendedFrames = [] := by
      show (decodeMessage t.d g.frontend f g.session).2.1.pgClientExtendedFrames = []
      rw [hdec]
      exact hbuffer
    have hcommand : (decodeMessage t.d g.frontend f g.session).1 = .ok [.pgBackendSync] ∨
        ∃ packets, (decodeMessage t.d g.frontend f g.session).1 = .ok [.clientWire packets] := by
      rw [hdec]
      unfold decodeSync
      dsimp only
      split
      · exact .inl rfl
      · exact .inr ⟨_, rfl⟩
    rcases hcommand with hone | ⟨packets, hone⟩
    · rw [(handleFrame_one t.runtime g (readable tag f) hone io).1]
      exact handleCommand_sync t htr hdecoded (io 0)
    · rw [(handleFrame_one t.runtime g (readable tag f) hone io).1]
      obtain ⟨hsame, _⟩ := handleCommand_piece t htr
        (t.runtime.decoded g (readable tag f)) (.inl ⟨packets, rfl⟩) (io 0)
      exact (congrArg Prod.fst hsame).trans hdecoded
  constructor
  · exact fun _ => ⟨rfl, hframes⟩
  · exact fun _ => ⟨hframes, faithful_nil true, fun _ => rfl, fun conn _ w hw => absurd hw List.not_mem_nil⟩

theorem tracks_query (htr : t.service.translation = none) (hu : Tracks g u) (hempty : u.frames = []) (tag : UInt8)
    {sql : String} (hlive : (g.session.pgExtendedError && !endsIgnoring f.message) = false)
    (hm : f.message = .query sql) (io : Nat → CommandIo CallIo HealthIo) (b : Bool) :
    Tracks (t.runtime.handleFrame g (readable tag f) io).gateway
      ⟨u.frames, u.written ++ (handedOver t.runtime g (readable tag f) io).filter (fun w => Sent.ofUnit w.2), b⟩ := by
  have hbuffer : g.session.pgClientExtendedFrames = [] ∧ u.written = [] := by
    cases hhold : g.session.pgExtTcpHold with
    | false => exact ⟨(hu.fresh hhold).2.trans hempty, (hu.fresh hhold).1⟩
    | true => exact ⟨(hu.held hhold).1, (hu.held hhold).2.2.1 hempty⟩
  obtain ⟨command, hone, hsync, hunit⟩ := decode_query t.d (p := g.frontend) hlive hm
  obtain ⟨hgateway, _⟩ := handleFrame_one t.runtime g (readable tag f) hone io
  have hdecoded : (t.runtime.decoded g (readable tag f)).session.pgClientExtendedFrames = [] :=
    (congrArg Prod.fst hunit).trans hbuffer.1
  obtain ⟨hsame, hwrote⟩ := handleCommand_empty t htr hdecoded hsync (io 0)
  have hframes : (t.runtime.handleFrame g (readable tag f) io).gateway.session.pgClientExtendedFrames = [] := by
    rw [hgateway]
    exact (congrArg Prod.fst hsame).trans hdecoded
  have hfilter : (handedOver t.runtime g (readable tag f) io).filter (fun w => Sent.ofUnit w.2) = [] := by
    unfold handedOver
    rw [hgateway]
    exact filter_ofUnit_nil hwrote
  rw [hfilter, List.append_nil, hempty, hbuffer.2]
  constructor
  · exact fun _ => ⟨rfl, hframes⟩
  · exact fun _ => ⟨hframes, faithful_nil b, fun _ => rfl, fun conn _ w hw => absurd hw List.not_mem_nil⟩

theorem tracks_executeFrame (hu : Tracks g u) (tag : UInt8) {portal : String} {maxRows : Int}
    (hlive : (g.session.pgExtendedError && !endsIgnoring f.message) = false)
    (hm : f.message = .execute portal maxRows) (io : Nat → CommandIo CallIo HealthIo)
    (hrelayed : framesRelayed t.runtime g (readable tag f) io = true) (b : Bool) :
    (t.runtime.handleFrame g (readable tag f) io).gateway.session.pgExtTcpHold = true ∧
    Tracks (t.runtime.handleFrame g (readable tag f) io).gateway
      ⟨u.frames ++ [f], u.written ++ (handedOver t.runtime g (readable tag f)
        io).filter (fun w => Sent.ofUnit w.2), b⟩ := by
  have hexec : f.isExecute = true := by
    unfold ClientFrame.isExecute
    rw [hm]
  obtain ⟨h, hmem, hrelays⟩ := List.any_eq_true.mp hrelayed
  rcases t.runtime.handleFrame_cases g (readable tag f) io with
    ⟨_, hquiet, _⟩ | ⟨command, _, hone, hevents, hgateway, _⟩
  · rw [hquiet.calls] at hmem
    cases hmem
  · have hsync : command ≠ .pgBackendSync := by
      rintro rfl
      exact isStatement_execute hone hexec
    rw [hevents] at hmem
    unfold handedOver
    rw [hgateway]
    cases t.runtime.serves_handleCommand (t.runtime.decoded g (readable tag f)) command (io 0) with
    | still hcalls _ =>
      rw [hcalls] at hmem
      cases hmem
    | probed hcalls _ _ _ =>
      rw [hcalls] at hmem
      cases hmem
    | called handed hcalls hunit hstate hbackend hleaves =>
      rw [hcalls] at hmem
      obtain rfl := List.mem_singleton.mp hmem
      exact tracks_execute t hu hexec (hunit.trans (decode_execute t.d hlive hm)) hrelays hsync hbackend hleaves b

theorem tracks_unbuffered (htr : t.service.translation = none) (hu : Tracks g u) (tag : UInt8)
    (hmessage : (g.session.pgExtendedError && !endsIgnoring f.message) = true ∨ f.message = .flush ∨
      ∃ target name, f.message = .close target name) (io : Nat → CommandIo CallIo HealthIo) :
    Tracks (t.runtime.handleFrame g (readable tag f) io).gateway u := by
  have hnothing : decodeMessage t.d g.frontend f g.session = (.ok [], g.session, g.frontend) →
      Tracks (t.runtime.handleFrame g (readable tag f) io).gateway u := by
    intro hdec
    obtain ⟨hbackend, hunit, _⟩ := handleFrame_nothing t.runtime g (readable tag f) (congrArg Prod.fst hdec) io
    refine hu.congr (hunit.trans ?_) (.inr (by rw [hbackend]))
    show Runtime.unitOf (decodeMessage t.d g.frontend f g.session).2.1 = _
    rw [hdec]
  rcases hmessage with hignored | hflush | ⟨target, name, hm⟩
  · exact hnothing (decode_ignored t.d (.inl hignored))
  · exact hnothing (decode_ignored t.d (.inr hflush))
  · cases hlive : (g.session.pgExtendedError && !endsIgnoring f.message) with
    | true => exact hnothing (decode_ignored t.d (.inl hlive))
    | false =>
      obtain ⟨packets, hone, hunit⟩ : ∃ packets,
          (decodeMessage t.d g.frontend f g.session).1 = .ok [.clientWire packets] ∧
          Runtime.unitOf (decodeMessage t.d g.frontend f g.session).2.1 = Runtime.unitOf g.session := by
        unfold decodeMessage
        rw [hlive, if_neg Bool.false_ne_true, hm]
        dsimp only
        unfold decodeClose
        cases target with
        | statement => exact ⟨_, rfl, rfl⟩
        | portal =>
          refine ⟨_, rfl, ?_⟩
          show Runtime.unitOf (if _ then _ else _) = _
          split <;> rfl
      obtain ⟨hgateway, _⟩ := handleFrame_one t.runtime g (readable tag f) hone io
      obtain ⟨hsame, _⟩ := handleCommand_piece t htr
        (t.runtime.decoded g (readable tag f)) (.inl ⟨packets, rfl⟩) (io 0)
      have hwire := handleCommand_wire t htr (t.runtime.decoded g (readable tag f)) packets (io 0)
      refine hu.congr ?_ (.inr ?_)
      · rw [hgateway]
        exact hsame.trans hunit
      · rw [hgateway, hwire]
        rfl

/-- **One frame.**  The log stays true, and an Execute relayed as frames was relayed faithfully. -/
theorem tracks_frame (htr : t.service.translation = none) (hu : u.intact = true → Tracks g u) (frame : RawFrame)
    (io : Nat → CommandIo CallIo HealthIo) (hintact : (u.next t.runtime g frame io).intact = true) :
    Tracks (t.runtime.handleFrame g frame io).gateway
      (u.next t.runtime g frame io) ∧ ((readFrame frame).any ClientFrame.isExecute = true →
      framesRelayed t.runtime g frame io = true →
      Faithful (u.next t.runtime g frame io)) := by
  obtain ⟨tag, e | f⟩ := frame
  · cases hintact
  change Tracks (t.runtime.handleFrame g (readable tag f) io).gateway
      (u.next t.runtime g (readable tag f) io) ∧ (f.isExecute = true →
      framesRelayed t.runtime g (readable tag f) io = true →
      Faithful (u.next t.runtime g (readable tag f) io))
  change (u.next t.runtime g (readable tag f) io).intact = true at hintact
  unfold UnitLog.next at hintact ⊢
  dsimp only [readable, readFrame] at hintact ⊢
  cases hlive : (g.session.pgExtendedError && !endsIgnoring f.message) with
  | true =>
    rw [hlive, if_pos rfl] at hintact
    rw [if_pos rfl]
    refine ⟨tracks_unbuffered t htr (hu hintact) tag (.inl hlive) io, ?_⟩
    intro _ hrelayed
    -- an ignored frame reaches nobody
    obtain ⟨h, hmem, _⟩ := List.any_eq_true.mp hrelayed
    obtain ⟨_, _, hnone⟩ := handleFrame_nothing t.runtime g (readable tag f)
      (congrArg Prod.fst (decode_ignored t.d (.inl hlive))) io
    exact absurd (hnone ▸ hmem : h ∈ []) List.not_mem_nil
  | false =>
    rw [hlive, if_neg Bool.false_ne_true] at hintact
    rw [if_neg Bool.false_ne_true]
    have hexecute : f.isExecute = true → ∃ portal maxRows, f.message = .execute portal maxRows := by
      intro hexec
      unfold ClientFrame.isExecute at hexec
      split at hexec
      · rename_i portal maxRows heq
        exact ⟨portal, maxRows, heq⟩
      · cases hexec
    -- what is said about Execute frames is nothing for the others
    have hother : (∀ portal maxRows, f.message ≠ .execute portal maxRows) → ∀ {P : Prop}, f.isExecute = true → P := by
      intro hne P hexec
      obtain ⟨portal, maxRows, heq⟩ := hexecute hexec
      exact absurd heq (hne portal maxRows)
    cases hm : f.message with
    | query sql =>
      rw [hm] at hintact
      obtain ⟨hint, hempty⟩ := Bool.and_eq_true_iff.mp hintact
      have hnil : u.frames = [] := List.isEmpty_iff.mp hempty
      refine ⟨tracks_query t htr (hu hint) hnil tag hlive hm io _, ?_⟩
      exact hother (by rw [hm]; nofun)
    | terminate =>
      rw [hm] at hintact
      cases hintact
    | sync =>
      refine ⟨tracks_sync t htr g tag hm io, ?_⟩
      exact hother (by rw [hm]; nofun)
    | parse statement query =>
      rw [hm] at hintact
      obtain ⟨hint, hok⟩ := Bool.and_eq_true_iff.mp hintact
      obtain ⟨hint, hfree⟩ := Bool.and_eq_true_iff.mp hint
      refine ⟨tracks_piece t htr (hu hint) tag hlive (.inl ⟨statement, query, hm⟩)
        (Bool.not_eq_true' _ ▸ hfree) hok io _, ?_⟩
      exact hother (by rw [hm]; nofun)
    | bind portal statement parameters formats =>
      rw [hm] at hintact
      obtain ⟨hint, hok⟩ := Bool.and_eq_true_iff.mp hintact
      obtain ⟨hint, hfree⟩ := Bool.and_eq_true_iff.mp hint
      refine ⟨tracks_piece t htr (hu hint) tag hlive
        (.inr (.inl ⟨portal, statement, parameters, formats, hm⟩)) (Bool.not_eq_true' _ ▸ hfree) hok io _, ?_⟩
      exact hother (by rw [hm]; nofun)
    | describe target name =>
      rw [hm] at hintact
      obtain ⟨hint, hok⟩ := Bool.and_eq_true_iff.mp hintact
      obtain ⟨hint, hfree⟩ := Bool.and_eq_true_iff.mp hint
      refine ⟨tracks_piece t htr (hu hint) tag hlive (.inr (.inr ⟨target, name, hm⟩))
        (Bool.not_eq_true' _ ▸ hfree) hok io _, ?_⟩
      exact hother (by rw [hm]; nofun)
    | execute portal maxRows =>
      rw [hm] at hintact
      obtain ⟨hint, hrelayed⟩ := Bool.and_eq_true_iff.mp hintact
      obtain ⟨hheld, htracks⟩ := tracks_executeFrame t (hu hint) tag hlive hm io hrelayed
        (u.intact && framesRelayed t.runtime g (readable tag f) io)
      exact ⟨htracks, fun _ _ => (htracks.held hheld).2.1⟩
    | close target name =>
      rw [hm] at hintact
      refine ⟨tracks_unbuffered t htr (hu hintact) tag (.inr (.inr ⟨target, name, hm⟩)) io, ?_⟩
      exact hother (by rw [hm]; nofun)
    | flush =>
      rw [hm] at hintact
      refine ⟨tracks_unbuffered t htr (hu hintact) tag (.inr (.inl hm)) io, ?_⟩
      exact hother (by rw [hm]; nofun)

end Commands

/-! ## Runs -/

theorem afterFrame_unit {φ ι β ω η κ : Type} {r : Runtime φ ι β ω η κ} {frame : ι}
    {out : Handled (Gateway φ β)} {g : Gateway φ β} (h : r.afterFrame frame out = some g) :
    g.backend = out.gateway.backend ∧ Runtime.unitOf g.session = Runtime.unitOf out.gateway.session := by
  unfold Runtime.afterFrame at h
  split at h
  · split at h
    · cases h
    · injection h with h
      rw [h]
      exact ⟨rfl, rfl⟩
  · cases h
  · split at h
    · injection h with h
      rw [← h]
      exact ⟨rfl, rfl⟩
    · cases h
  · injection h with h
    rw [h]
    exact ⟨rfl, rfl⟩

theorem producerDone_tcpExtHold (c : Connector) (i : Nat) : (producerDone c i).tcpExtHold = c.tcpExtHold := by
  unfold producerDone
  split
  · rfl
  · split
    · exact setLease_tcpExtHold _ _
    · exact putConn_tcpExtHold _ _

def relayFrame (message : FrontendMessage) : ClientFrame := ⟨[], message⟩

/-- The logs of the Execute frames that are relayed when `alice` sends the messages. -/
def relayLogs (messages : List FrontendMessage) : List UnitLog :=
  (entries (relayedStep (plainRuntime true)) (.start aliceStart)
    (messages.map (sends (rulesOnly []) noRewriters))).filterMap (·.out)

/-- The claim without the additions: nothing but the client's frames goes out, Flush apart. -/
def ExactlyFrames (u : UnitLog) : Prop := (u.written.map (·.2)).filter (· != .flush) = u.frames.map .frame

instance (u : UnitLog) : Decidable (ExactlyFrames u) :=
  inferInstanceAs (Decidable ((u.written.map (·.2)).filter (· != .flush) = u.frames.map .frame))

end DataNexus.Engine
