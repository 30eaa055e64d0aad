/-
  The frames of the extended protocol one by one, and a session of them.

  `Engine/Extended.lean` says what a command of each kind sends.  Here a frame is its one command, or an error
  of the decoder:

  1. `served_wire` — what the decoder answers itself: Parse, Bind, Close, Sync, and a Describe that it knows.
  2. `served_undecoded` — an error of the decoder is inside a unit, since Parse, Bind and Execute open one
     before they look anything up.
  3. `served_describe`, `served_execute` — the two messages that may reach the server.
  4. `served` — every message that does not go wrong; the tables stay `Known`, so `replies_conform` follows
     for whole sessions.
-/
import DataNexus.Engine.Extended

namespace DataNexus.Engine

open DataNexus.Frontend DataNexus.Backend DataNexus.Pdp DataNexus.Tickets DataNexus.Stream DataNexus.Run

variable {β ω η κ : Type}

variable {arity : String → Nat} {policy : LocalPdpInner}

theorem conforms_describe {p : PostgreSqlFrontend} {target : DescribeTarget} {name : String}
    {answer : ClientReply} (h : Describes arity p target name answer) :
    Conforms arity p (.describe target name) ((paramDesc p target name).toList.map packetReply ++ [answer]) := by
  cases target with
  | statement => exact ⟨answer, h, rfl⟩
  | portal => exact ⟨answer, h, rfl⟩

theorem isPassthrough_iff {mode : ExecuteMode} : mode.isPassthrough = true ↔ mode = .passthrough := by
  cases mode with
  | passthrough => exact ⟨fun _ => rfl, fun _ => rfl⟩
  | _ => exact ⟨nofun, nofun⟩

theorem begun_nil (arity : String → Nat) (p : PostgreSqlFrontend) (message : FrontendMessage) :
    Begun arity p message [] := by
  cases message with
  | execute portal maxRows => exact .inl rfl
  | _ => rfl

section Frames

variable (d : Dialect) (display : Display) (binary : BinaryEncoder) (backend : BackendConnector β ω η κ)
  (service : Service) (t : Setup β ω η κ)

/-! ## What a frame leaves -/

/-- The message is answered, and the tables stay known. -/
structure Served (arity : String → Nat) (g : Gateway PostgreSqlFrontend β) (tag : UInt8) (f : ClientFrame)
    (io : Nat → CommandIo ω η) : Prop where
  replied : Replied arity g.frontend f.message
    ((extendedRuntime d display binary backend service).afterFrame ⟨tag, .ok f⟩
      ((extendedRuntime d display binary backend service).handleFrame g ⟨tag, .ok f⟩ io) = none)
    (frameReplies d display binary backend service g ⟨tag, .ok f⟩ io)
  known : Known arity
    ((extendedRuntime d display binary backend service).handleFrame g ⟨tag, .ok f⟩ io).gateway.frontend

def FrameSends (g : Gateway PostgreSqlFrontend β) (frame : RawFrame) (io : Nat → CommandIo ω η)
    (replies : List ClientReply) (result : Except Halt Unit) : Prop :=
  Sends display ((extendedRuntime d display binary backend service).decoded g frame).frontend
    ((extendedRuntime d display binary backend service).decoded g frame).session
    ((extendedRuntime d display binary backend service).handleFrame g frame io) replies result

abbrev Setup.Served (t : Setup β ω η κ) := Engine.Served t.d t.display t.binary t.backend t.service

abbrev Setup.FrameSends (t : Setup β ω η κ) := Engine.FrameSends t.d t.display t.binary t.backend t.service

abbrev Setup.frameReplies (t : Setup β ω η κ) := Engine.frameReplies t.d t.display t.binary t.backend t.service

variable {g : Gateway PostgreSqlFrontend β} {halt : Halt} {p : PostgreSqlFrontend}
  {s : Option (Gateway PostgreSqlFrontend β)} {a : Runtime.Act RawFrame ω η κ}

theorem loop_cases {frame : RawFrame} {io : Nat → CommandIo ω η}
    (h : (t.runtime.handleFrame g frame io).result = .error halt) :
    loopReplies frame.tag (t.runtime.handleFrame g frame io).gateway.session (.error halt) =
        [.errorResponse] ∨ loopReplies frame.tag
        (t.runtime.handleFrame g frame io).gateway.session (.error halt) =
        [] ∧ t.runtime.afterFrame frame
        (t.runtime.handleFrame g frame io) = none := by
  generalize t.runtime.handleFrame g frame io = out at h ⊢
  unfold Runtime.afterFrame
  rw [h]
  cases halt with
  | panicked => exact .inr ⟨rfl, rfl⟩
  | error e =>
    show (if Runtime.survives frame.tag out.gateway.session e then [ClientReply.errorResponse] else []) = _ ∨
      (if Runtime.survives frame.tag out.gateway.session e then [ClientReply.errorResponse] else []) = [] ∧
        (if Runtime.survives frame.tag out.gateway.session e then _ else none) = none
    by_cases hsurvives : Runtime.survives frame.tag out.gateway.session e = true
    · rw [if_pos hsurvives]
      exact .inl rfl
    · rw [if_neg hsurvives, if_neg hsurvives]
      exact .inr ⟨rfl, rfl⟩

section Ends

variable {arity : String → Nat} {g : Gateway PostgreSqlFrontend β} {tag : UInt8} {f : ClientFrame}
  {io : Nat → CommandIo ω η}
  (hknown : Known arity (decodeMessage (describing t.d) g.frontend f g.session).2.2)

include hknown

theorem served_of_sends {replies : List ClientReply} (h : t.FrameSends g ⟨tag, .ok f⟩ io replies (.ok ()))
    (hconforms : Conforms arity g.frontend f.message replies) : t.Served arity g tag f io := by
  refine ⟨.inl ?_, h.tables.known hknown⟩
  unfold frameReplies
  dsimp only
  rw [h.replies, h.result]
  show Conforms arity g.frontend f.message (replies ++ [])
  rw [List.append_nil]
  exact hconforms

theorem served_of_halt (hsync : f.message ≠ .sync) {replies : List ClientReply} {halt : Halt}
    (h : t.FrameSends g ⟨tag, .ok f⟩ io replies (.error halt)) (hbegun : Begun arity g.frontend f.message replies) :
    t.Served arity g tag f io := by
  refine ⟨.inr ?_, h.tables.known hknown⟩
  unfold frameReplies
  dsimp only
  rw [h.replies, h.result]
  rcases loop_cases t h.result with hloop | ⟨hloop, hclosed⟩
  · rw [hloop]
    exact .inl ⟨hsync, replies, hbegun, rfl⟩
  · rw [hloop, List.append_nil]
    exact .inr ⟨hclosed, hbegun⟩

theorem served_of_fails (hsync : f.message ≠ .sync) (h : Fails t.display (t.runtime.decoded g ⟨tag, .ok f⟩).frontend
      (t.runtime.decoded g ⟨tag, .ok f⟩).session
      (t.runtime.handleFrame g ⟨tag, .ok f⟩ io)) : t.Served arity g tag f io := by
  rcases h with h | ⟨halt, h⟩
  · refine ⟨.inr (.inl ⟨hsync, [], begun_nil arity g.frontend f.message, ?_⟩), h.tables.known hknown⟩
    unfold frameReplies
    dsimp only
    rw [h.replies, h.result]
    rfl
  · exact served_of_halt t hknown hsync h (begun_nil arity g.frontend f.message)

end Ends

/-! ## A frame and its command -/

section Command

variable {g : Gateway PostgreSqlFrontend β} {frame : RawFrame} {command : GatewayCommand}
  (hdec : (t.runtime.frontend.decode g.frontend frame g.session).1 = .ok [command])

include hdec

theorem frame_of_command (io : Nat → CommandIo ω η) : (t.runtime.handleFrame g frame io).events =
        (t.runtime.handleCommand (t.runtime.decoded g frame) command (io 0)).events ∧
      (t.runtime.handleFrame g frame io).gateway = (t.runtime.handleCommand
          (t.runtime.decoded g frame) command (io 0)).gateway ∧
      (t.runtime.handleFrame g frame io).result = (t.runtime.handleCommand
          (t.runtime.decoded g frame) command (io 0)).result := by
  rcases t.runtime.handleFrame_cases g frame io with
    ⟨hnone, _⟩ | ⟨command', _, hone, hsame⟩
  · unfold Runtime.commandsOf at hnone
    rw [hdec] at hnone
    cases hnone
  · rw [hdec] at hone
    cases hone
    exact hsame

theorem sends_frame {io : Nat → CommandIo ω η} {replies : List ClientReply} {result : Except Halt Unit}
    (h : Sends t.display (t.runtime.decoded g frame).frontend (t.runtime.decoded g frame).session
      (t.runtime.handleCommand (t.runtime.decoded g frame) command (io 0)) replies result) :
    t.FrameSends g frame io replies result := by
  obtain ⟨hevents, hgateway, hresult⟩ := frame_of_command t hdec io
  refine ⟨?_, ?_, ?_⟩
  · rw [hevents]
    exact h.replies
  · rw [hresult]
    exact h.result
  · rw [hgateway]
    exact h.tables

theorem fails_frame {io : Nat → CommandIo ω η} (h : Fails t.display (t.runtime.decoded g frame).frontend
      (t.runtime.decoded g frame).session
      (t.runtime.handleCommand (t.runtime.decoded g frame) command (io 0))) :
    Fails t.display (t.runtime.decoded g frame).frontend (t.runtime.decoded g frame).session
      (t.runtime.handleFrame g frame io) := by
  rcases h with h | ⟨halt, h⟩
  · exact .inl (sends_frame t hdec h)
  · exact .inr ⟨halt, sends_frame t hdec h⟩

end Command

theorem completes_cursor (w : Answering t.backend) {command : GatewayCommand} {kind : NamedCursorSql}
    (hcursor : Runtime.cursorSql command = some kind) {io : CommandIo ω η} (hwritten : io.written = .ok ())
    (hunit : g.session.pgExtendedQuery = true) (hacks : ∀ response, w.acks io.call response → isAck response = true)
    (hfetch : ∀ name count, kind = .fetch name count → g.namedCursors name = none ∨
      ∃ e, (t.backend.checkSessionHealth g.backend io.health).1 = .error e) : Completes t.display g.frontend g.session
      (t.runtime.handleCommand g command io) := by
  unfold Runtime.handleCommand
  cases t.runtime.dangerousCommandCapability command with
  | some capability =>
    exact .inr (fails_error t
      { g with session := t.runtime.failUnit g.session } rfl hunit
      (.error "0A000" ("unsupported capability: " ++ capability.asStr)) rfl hwritten)
  | none =>
    dsimp only
    rcases hroute : t.runtime.route command g.session io with e | session
    · exact .inr (fails_halt t.display g (.error e) g.session)
    · rw [hcursor]
      exact completes_namedCursor t w { g with session := session } rfl hunit hwritten hacks kind hfetch

/-! ## Messages -/

variable {arity : String → Nat} {g : Gateway PostgreSqlFrontend β} {tag : UInt8}
  {f : ClientFrame} {io : Nat → CommandIo ω η}

/-- **What the decoder answers itself.** -/
theorem served_wire (w : Answering t.backend) (htexts : TranslatesTexts t.service)
    (hknown : Known arity (decodeMessage (describing t.d) g.frontend f g.session).2.2)
    {packets : List (List UInt8)} {session : SessionState}
    (hdec : decodeMessage (describing t.d) g.frontend f g.session = clientWire packets session p)
    (hopened : (f.message ≠ .sync ∧ session.pgExtendedQuery = true) ∨ t.runtime.granted g ⟨tag, .ok f⟩ io ≠ none)
    (hwritten : (io 0).written = .ok ()) (hconforms : Conforms arity g.frontend f.message (packets.map packetReply)) :
    t.Served arity g tag f io := by
  have hone : (t.runtime.frontend.decode g.frontend ⟨tag, .ok f⟩ g.session).1 = .ok [.clientWire packets] := by
    show (decodeMessage (describing t.d) g.frontend f g.session).1 = _
    rw [hdec]
    rfl
  have hgranted := t.runtime.granted_of_decode hone io
  cases hx : t.runtime.granted g ⟨tag, .ok f⟩ io with
  | some x =>
    rw [hx] at hgranted
    have hsends := sends_wire t w htexts hgranted.symm hwritten
    exact served_of_sends t hknown (sends_frame t hone hsends) hconforms
  | none =>
    obtain ⟨hsync, hunit⟩ := hopened.resolve_right (not_not_intro hx)
    rw [hx] at hgranted
    have hinside : (t.runtime.decoded g ⟨tag, .ok f⟩).session.pgExtendedQuery = true := by
      show (decodeMessage (describing t.d) g.frontend f g.session).2.1.pgExtendedQuery = true
      rw [hdec]
      exact hunit
    have hfails := fails_refused t hwritten hinside hgranted.symm rfl
    exact served_of_fails t hknown hsync (fails_frame t hone hfails)

/-- **An error of the decoder** inside a unit. -/
theorem served_undecoded (hknown : Known arity (decodeMessage (describing t.d) g.frontend f g.session).2.2)
    {session : SessionState} (hdec : decodeMessage (describing t.d) g.frontend f g.session = (.error halt, session, p))
    (hsync : f.message ≠ .sync) (hunit : session.pgExtendedQuery = true) (hwritten : (io 0).written = .ok ()) :
    t.Served arity g tag f io := by
  refine served_of_fails t hknown hsync ?_
  have hdecoded : t.runtime.decoded g ⟨tag, .ok f⟩ =
      { g with frontend := p, session := session } := by
    show { g with
      frontend := (decodeMessage (describing t.d) g.frontend f g.session).2.2
      session := (decodeMessage (describing t.d) g.frontend f g.session).2.1 } = _
    rw [hdec]
  have herror : t.runtime.frontend.decode g.frontend ⟨tag, .ok f⟩ g.session = (.error halt, session, p) := hdec
  have hhalted : ∀ halt, Fails t.display p session
      (⟨.error halt, { g with frontend := p, session := session }, []⟩ : Handled (Gateway PostgreSqlFrontend β)) :=
    fun halt => fails_halt t.display { g with frontend := p, session := session } halt session
  rw [hdecoded]
  unfold Runtime.handleFrame
  rw [herror]
  dsimp only
  rcases halt with (text | text | text | code) | _
  · exact hhalted _
  · exact hhalted _
  · exact hhalted _
  · dsimp only
    cases UnsupportedSqlCapability.fromCode code with
    | none => exact hhalted _
    | some capability =>
      exact fails_error t
        { g with
          frontend := p
          session := t.runtime.failUnit session } rfl hunit
        (.error "0A000" ("unsupported capability: " ++ capability.asStr)) rfl hwritten
  · exact hhalted _

theorem sends_nothing {frame : RawFrame} (hdec : (t.runtime.frontend.decode g.frontend frame g.session).1 =
      .ok []) : t.FrameSends g frame io [] (.ok ()) := by
  unfold Setup.FrameSends Engine.FrameSends Runtime.handleFrame
  dsimp only
  rw [hdec]
  exact ⟨rfl, rfl, .refl _⟩

/-! ## The extended protocol -/

theorem served_flush (hafter : Known arity (decodeMessage (describing t.d) g.frontend f g.session).2.2)
    (hlive : (g.session.pgExtendedError && !endsIgnoring f.message) = false) (hm : f.message = .flush) :
    t.Served arity g tag f io := by
  have hdec : decodeMessage (describing t.d) g.frontend f g.session = (.ok [], g.session, g.frontend) := by
    unfold decodeMessage
    rw [hlive, hm]
    rfl
  refine served_of_sends t hafter (sends_nothing t (congrArg Prod.fst hdec)) ?_
  rw [hm]
  rfl

theorem served_undescribed (hafter : Known arity (decodeMessage (describing t.d) g.frontend f g.session).2.2)
    (hwritten : (io 0).written = .ok ()) {target : DescribeTarget} {name : String}
    (hm : f.message = .describe target name) (hdec : decodeMessage (describing t.d) g.frontend f g.session =
      (.error halt, bufferFrame f g.session, p)) (hopened : t.Opened g ⟨tag, .ok f⟩ io) :
    t.Served arity g tag f io := by
  have hsync : f.message ≠ .sync := by
    rw [hm]
    rintro ⟨⟩
  refine served_undecoded t hafter hdec hsync ?_ hwritten
  rcases hopened with hinside | ⟨x, hx, _⟩
  · exact hinside
  · have hnone : t.runtime.commandsOf g ⟨tag, .ok f⟩ = [] := by
      have hdecode : t.runtime.frontend.decode g.frontend ⟨tag, .ok f⟩ g.session =
          (.error halt, bufferFrame f g.session, p) := hdec
      unfold Runtime.commandsOf
      rw [hdecode]
    unfold Runtime.granted at hx
    rw [hnone] at hx
    cases hx

section Messages

variable (w : Answering t.backend) (htexts : TranslatesTexts t.service)
  (hafter : Known arity (decodeMessage (describing t.d) g.frontend f g.session).2.2)
  (hwritten : (io 0).written = .ok ())

include htexts hafter hwritten w

theorem served_parse (hlive : (g.session.pgExtendedError && !endsIgnoring f.message) = false)
    {statement query : String} (hm : f.message = .parse statement query) : t.Served arity g tag f io := by
  have hsync : f.message ≠ .sync := by
    rw [hm]
    nofun
  have hdec : decodeMessage (describing t.d) g.frontend f g.session =
      decodeParse (describing t.d) g.frontend f statement query g.session := by
    unfold decodeMessage
    rw [hlive, hm]
    rfl
  unfold decodeParse at hdec
  cases hdanger : (describing t.d).classifyDangerousSql query with
  | some capability =>
    rw [hdanger] at hdec
    exact served_undecoded t hafter hdec hsync rfl hwritten
  | none =>
    rw [hdanger] at hdec
    refine served_wire t w htexts hafter hdec (.inl ⟨hsync, rfl⟩) hwritten ?_
    rw [hm]
    rfl

theorem served_bind (hlive : (g.session.pgExtendedError && !endsIgnoring f.message) = false)
    {portal statement : String} {parameters : List (Option String)} {formats : List Int}
    (hm : f.message = .bind portal statement parameters formats) : t.Served arity g tag f io := by
  have hsync : f.message ≠ .sync := by
    rw [hm]
    nofun
  have hdec : decodeMessage (describing t.d) g.frontend f g.session =
      decodeBind g.frontend f portal statement parameters formats g.session := by
    unfold decodeMessage
    rw [hlive, hm]
    rfl
  unfold decodeBind at hdec
  dsimp only at hdec
  cases hprepared : g.frontend.prepared statement with
  | none =>
    rw [hprepared] at hdec
    exact served_undecoded t hafter hdec hsync rfl hwritten
  | some sql =>
    rw [hprepared] at hdec
    dsimp only at hdec
    cases harity : bindArityError sql (bindParameters parameters) with
    | some e =>
      rw [harity] at hdec
      exact served_undecoded t hafter hdec hsync rfl hwritten
    | none =>
      rw [harity] at hdec
      refine served_wire t w htexts hafter hdec (.inl ⟨hsync, rfl⟩) hwritten ?_
      rw [hm]
      rfl

theorem served_close (hlive : (g.session.pgExtendedError && !endsIgnoring f.message) = false)
    {target : DescribeTarget} {name : String} (hm : f.message = .close target name)
    (hopened : t.Opened g ⟨tag, .ok f⟩ io) : t.Served arity g tag f io := by
  have hsync : f.message ≠ .sync := by
    rw [hm]
    nofun
  obtain ⟨session, p, hclose, hunit⟩ : ∃ session p, decodeClose g.frontend target name g.session =
      clientWire [encodeCloseComplete] session p ∧ session.pgExtendedQuery = g.session.pgExtendedQuery := by
    unfold decodeClose
    cases target with
    | statement => exact ⟨_, _, rfl, rfl⟩
    | portal =>
      refine ⟨_, _, rfl, ?_⟩
      split
      · rfl
      · rfl
  have hdec : decodeMessage (describing t.d) g.frontend f g.session = clientWire [encodeCloseComplete] session p := by
    unfold decodeMessage
    rw [hlive, hm]
    exact hclose
  refine served_wire t w htexts hafter hdec ?_ hwritten ?_
  · rcases hopened with hinside | ⟨x, hx, _⟩
    · exact .inl ⟨hsync, hunit.trans hinside⟩
    · refine .inr ?_
      rw [hx]
      nofun
  · rw [hm]
    rfl

theorem served_sync (hlive : (g.session.pgExtendedError && !endsIgnoring f.message) = false) (hm : f.message = .sync)
    (hgranted : t.runtime.granted g ⟨tag, .ok f⟩ io ≠ none)
    (hheld : g.session.pgExtTcpHold = true → ∃ response, w.syncs g.backend (io 0).call = some response ∧
      response.failed = none ∧ response.packets.map packetReply = [.readyForQuery]) : t.Served arity g tag f io := by
  have hdec : decodeMessage (describing t.d) g.frontend f g.session = decodeSync g.frontend g.session := by
    unfold decodeMessage
    rw [hlive, hm]
    rfl
  unfold decodeSync at hdec
  dsimp only at hdec
  cases hhold : g.session.pgExtTcpHold with
  | false =>
    rw [hhold] at hdec
    refine served_wire t w htexts hafter hdec (.inr hgranted) hwritten ?_
    rw [hm]
    rfl
  | true =>
    rw [hhold] at hdec
    obtain ⟨response, hsyncs, hread, hpackets⟩ := hheld hhold
    have hone : (t.runtime.frontend.decode g.frontend ⟨tag, .ok f⟩
        g.session).1 = .ok [.pgBackendSync] := congrArg Prod.fst hdec
    obtain ⟨x, hx⟩ := Option.ne_none_iff_exists'.mp hgranted
    rw [t.runtime.granted_of_decode hone io] at hx
    have hcommand := (sameKind_granted htexts hx).sync rfl
    -- the Sync goes to the held session, whose answer is passed on whole
    obtain ⟨session, hcall⟩ := called_of_other t (g := t.runtime.decoded g ⟨tag, .ok f⟩) (x := x)
      (by rw [hcommand]; rfl) (io 0)
    rw [hcommand] at hcall
    obtain ⟨relay, hrelay, hresponse⟩ := w.synced g.backend session
      (t.runtime.execMode .pgBackendSync x.obligations) (io 0).call response
      hsyncs
    have hwhole : relay.response.failed = none := by
      rw [hresponse]
      exact hread
    obtain ⟨inside, _, hsends⟩ := sends_relayed t w hx hwritten hwhole (hcall.trans hrelay)
    refine served_of_sends t hafter (sends_frame t hone hsends) ?_
    unfold Runtime.relayedPackets
    rw [if_neg (fun h => h.2 rfl), hresponse, hpackets, hm]
    rfl

variable {p : PostgreSqlFrontend}

theorem served_described {target : DescribeTarget} {name : String} (hm : f.message = .describe target name)
    {packet : List UInt8} (hdec : decodeMessage (describing t.d) g.frontend f g.session =
      clientWire ((paramDesc g.frontend target name).toList ++ [packet]) (bufferFrame f g.session) p)
    (hdescribes : Describes arity g.frontend target name (packetReply packet)) (hopened : t.Opened g ⟨tag, .ok f⟩ io) :
    t.Served arity g tag f io := by
  have hsync : f.message ≠ .sync := by
    rw [hm]
    nofun
  refine served_wire t w htexts hafter hdec ?_ hwritten ?_
  · rcases hopened with hinside | ⟨x, hx, _⟩
    · exact .inl ⟨hsync, hinside⟩
    · refine .inr ?_
      rw [hx]
      nofun
  · rw [hm, List.map_append]
    exact conforms_describe hdescribes

/-- **A Describe that the server is asked for.** -/
theorem served_catalog {target : DescribeTarget} {name sql : String} (hm : f.message = .describe target name)
    (hsql : describedSql g.frontend target name = some sql)
    (hdec : decodeMessage (describing t.d) g.frontend f g.session =
      (.ok [.describeSql sql], bufferFrame f g.session, p))
    (hpending : p.pendingDescribe = some ⟨target, name, paramDesc g.frontend target name,
      describedFormat g.frontend target name⟩)
    (hsame : describedSql p target name = describedSql g.frontend target name) (hopened : t.Opened g ⟨tag, .ok f⟩ io)
    (htold : ∀ columns, w.tells (io 0).call columns → columns.length = arity sql) : t.Served arity g tag f io := by
  have hsync : f.message ≠ .sync := by
    rw [hm]
    nofun
  have hone : (t.runtime.frontend.decode g.frontend ⟨tag, .ok f⟩
      g.session).1 = .ok [.describeSql sql] := congrArg Prod.fst hdec
  have hdecoded : t.runtime.decoded g ⟨tag, .ok f⟩ =
      { g with frontend := p, session := bufferFrame f g.session } := by
    show { g with
      frontend := (decodeMessage (describing t.d) g.frontend f g.session).2.2
      session := (decodeMessage (describing t.d) g.frontend f g.session).2.1 } = _
    rw [hdec]
  have hgranted := t.runtime.granted_of_decode hone io
  cases hx : t.runtime.granted g ⟨tag, .ok f⟩ io with
  | none =>
    rw [hx] at hgranted
    have hinside : (t.runtime.decoded g ⟨tag, .ok f⟩).session.pgExtendedQuery = true := by
      rw [hdecoded]
      refine hopened.resolve_right ?_
      rintro ⟨x, hsome, _⟩
      rw [hx] at hsome
      cases hsome
    have hfails := fails_refused t hwritten hinside hgranted.symm rfl
    exact served_of_fails t hafter hsync (fails_frame t hone hfails)
  | some x =>
    rw [hx] at hgranted
    have hinside : (t.runtime.decoded g ⟨tag, .ok f⟩).session.pgExtendedQuery = true ∨ succeeds (t.runtime.obtained
          (t.runtime.decoded g ⟨tag, .ok f⟩) x (io 0)).1 = true := by
      rcases hopened with hinside | ⟨y, hy, hsucceeds⟩
      · refine .inl ?_
        rw [hdecoded]
        exact hinside
      · rw [hx] at hy
        cases hy
        exact .inr hsucceeds
    rcases describes_granted t w htexts hgranted.symm hwritten hinside with
      hfails | ⟨columns, hdescribed⟩
    · exact served_of_fails t hafter hsync (fails_frame t hone hfails)
    · obtain ⟨hevents, hgateway, hresult⟩ := frame_of_command t hone io
      have hlength := htold columns hdescribed.told
      refine ⟨.inl ?_, ?_⟩
      · unfold frameReplies
        dsimp only
        rw [hevents, hresult, hdescribed.replies, hdescribed.result, hdecoded]
        have hreplies : encodeReplies p (bufferFrame f g.session) (.rowDescription columns) =
            (paramDesc g.frontend target name).toList.map packetReply ++
              [if columns.isEmpty then .noData else .rowDescription columns.length] := by
          unfold encodeReplies
          rw [hpending]
          cases target with
          | statement => rfl
          | portal => rfl
        show Conforms arity g.frontend f.message (encodeReplies p (bufferFrame f g.session) _ ++ [])
        rw [List.append_nil, hreplies, hm]
        refine conforms_describe ?_
        split
        · trivial
        · exact ⟨sql, hsql, hlength⟩
      · rw [hgateway, hdescribed.frontend, hdecoded]
        have hknown : Known arity p := by
          rw [hdec] at hafter
          exact hafter
        refine known_encoded hknown fun told htold => ?_
        cases htold
        exact ⟨_, hpending, sql, hsame.trans hsql, hlength⟩

theorem served_describe (hlive : (g.session.pgExtendedError && !endsIgnoring f.message) = false)
    (hknown : Known arity g.frontend) {target : DescribeTarget} {name : String}
    (hm : f.message = .describe target name) (hopened : t.Opened g ⟨tag, .ok f⟩ io)
    (htold : ∀ sql columns, describedSql g.frontend target name = some sql → w.tells (io 0).call columns →
      columns.length = arity sql) : t.Served arity g tag f io := by
  have hdec : decodeMessage (describing t.d) g.frontend f g.session =
      decodeDescribe (describing t.d) g.frontend f target name g.session := by
    unfold decodeMessage
    rw [hlive, hm]
    rfl
  unfold decodeDescribe at hdec
  dsimp only at hdec
  cases hempty : (describedColumns g.frontend target name).isEmpty with
  | true =>
    rw [if_pos hempty] at hdec
    cases hsql : describedSql g.frontend target name with
    | none =>
      rw [hsql] at hdec
      exact served_described t w htexts hafter hwritten hm hdec trivial hopened
    | some sql =>
      rw [hsql] at hdec
      dsimp only at hdec
      rcases hselect : looksLikeSelect sql with _ | _ | _
      · rw [hselect] at hdec
        exact served_undescribed t hafter hwritten hm hdec hopened
      · rw [hselect] at hdec
        exact served_described t w htexts hafter hwritten hm hdec trivial hopened
      · rw [hselect] at hdec
        have hsame : ∀ pending, describedSql { g.frontend with pendingDescribe := pending } target name =
            describedSql g.frontend target name := by
          intro pending
          cases target with
          | statement => rfl
          | portal => rfl
        exact served_catalog t w htexts hafter hwritten hm hsql hdec rfl (hsame _) hopened
          fun columns => htold sql columns hsql
  | false =>
    rw [if_neg (Bool.eq_false_iff.mp hempty)] at hdec
    cases hpacket : (describing t.d).encodeRowDescription (describedColumns g.frontend target name)
        (describedFormat g.frontend target name) with
    | error e =>
      rw [hpacket] at hdec
      exact served_undescribed t hafter hwritten hm hdec hopened
    | ok packet =>
      rw [hpacket] at hdec
      refine served_described t w htexts hafter hwritten hm hdec ?_ hopened
      rw [packetReply_of_describing hpacket]
      exact hknown.described hempty

end Messages

/-! ## Execute -/

theorem served_of_completes (hafter : Known arity (decodeMessage (describing t.d) g.frontend f g.session).2.2)
    {portal : String} {maxRows : Int} (hm : f.message = .execute portal maxRows) {command : GatewayCommand}
    (hone : (t.runtime.frontend.decode g.frontend ⟨tag, .ok f⟩ g.session).1 = .ok [command])
    (h : Completes t.display (t.runtime.decoded g ⟨tag, .ok f⟩).frontend (t.runtime.decoded g ⟨tag, .ok f⟩).session
      (t.runtime.handleCommand (t.runtime.decoded g ⟨tag, .ok f⟩) command (io 0))) : t.Served arity g tag f io := by
  rcases h with h | h
  · refine served_of_sends t hafter (sends_frame t hone h) ?_
    rw [hm]
    exact ⟨[], .commandComplete, .inl rfl, .inl rfl, rfl⟩
  · refine served_of_fails t hafter ?_ (fails_frame t hone h)
    rw [hm]
    nofun

theorem served_of_rows (hafter : Known arity (decodeMessage (describing t.d) g.frontend f g.session).2.2)
    {portal sql : String} {maxRows : Int} (hm : f.message = .execute portal maxRows)
    (hsql : g.frontend.portals portal = some sql) {command : GatewayCommand}
    (hone : (t.runtime.frontend.decode g.frontend ⟨tag, .ok f⟩ g.session).1 = .ok [command])
    (h : AnswersRows t.display (t.runtime.decoded g ⟨tag, .ok f⟩).frontend (t.runtime.decoded g ⟨tag, .ok f⟩).session
      (t.runtime.handleCommand (t.runtime.decoded g ⟨tag, .ok f⟩) command (io 0)) (arity sql)) :
    t.Served arity g tag f io := by
  have hrows : ∀ n, RowsOf arity g.frontend portal (List.replicate n (.dataRow (arity sql))) :=
    fun n => .inr ⟨sql, n, hsql, rfl⟩
  rcases h with ⟨n, ending, hending, h⟩ | ⟨n, halt, h⟩
  · refine served_of_sends t hafter (sends_frame t hone h) ?_
    rw [hm]
    exact ⟨_, ending, hrows n, hending, rfl⟩
  · refine served_of_halt t hafter ?_ (sends_frame t hone h) ?_
    · rw [hm]
      nofun
    · rw [hm]
      exact hrows n

theorem served_of_relayed (hafter : Known arity (decodeMessage (describing t.d) g.frontend f g.session).2.2)
    {portal sql : String} {maxRows : Int} (hm : f.message = .execute portal maxRows)
    (hsql : g.frontend.portals portal = some sql) {n : Nat} {ending : ClientReply}
    (hending : ending ∈ [ClientReply.commandComplete, .portalSuspended, .errorResponse])
    (h : t.FrameSends g ⟨tag, .ok f⟩ io (List.replicate n (.dataRow (arity sql)) ++ [ending]) (.ok ())) :
    t.Served arity g tag f io := by
  have hrows : RowsOf arity g.frontend portal (List.replicate n (.dataRow (arity sql))) := .inr ⟨sql, n, hsql, rfl⟩
  refine ⟨?_, h.tables.known hafter⟩
  unfold frameReplies
  dsimp only
  rw [h.replies, h.result, hm]
  show Replied arity g.frontend (.execute portal maxRows) _ (_ ++ [])
  rw [List.append_nil]
  simp only [List.mem_cons, List.not_mem_nil, or_false] at hending
  rcases hending with rfl | rfl | rfl
  · exact .inl ⟨_, _, hrows, .inl rfl, rfl⟩
  · exact .inl ⟨_, _, hrows, .inr rfl, rfl⟩
  · exact .inr (.inl ⟨by rintro ⟨⟩, _, hrows, rfl⟩)

theorem served_execute (w : Answering t.backend) (htexts : TranslatesTexts t.service)
    (hafter : Known arity (decodeMessage (describing t.d) g.frontend f g.session).2.2)
    (hlive : (g.session.pgExtendedError && !endsIgnoring f.message) = false)
    (hwritten : (io 0).written = .ok ()) {portal : String} {maxRows : Int} (hm : f.message = .execute portal maxRows)
    (horder : InOrder t.d t.display t.binary t.service w arity g ⟨tag, .ok f⟩ io (.execute portal maxRows)) :
    t.Served arity g tag f io := by
  have hdec : decodeMessage (describing t.d) g.frontend f g.session =
      decodeExecute g.frontend f portal maxRows g.session := by
    unfold decodeMessage
    rw [hlive, hm]
    rfl
  unfold decodeExecute at hdec
  dsimp only at hdec
  obtain ⟨hfetch, hacks, horder⟩ := horder
  cases hsql : g.frontend.portals portal with
  | none =>
    rw [hsql] at hdec
    refine served_undecoded t hafter hdec ?_ rfl hwritten
    rw [hm]
    nofun
  | some sql =>
    rw [hsql] at hdec
    dsimp only at hdec
    have hrow : isRowCommand (if ((g.frontend.portalArgs portal).getD []).isEmpty then .query sql
        else .queryParams sql ((g.frontend.portalArgs portal).getD [])) = true := by
      split
      · rfl
      · rfl
    generalize (if ((g.frontend.portalArgs portal).getD []).isEmpty then GatewayCommand.query sql
      else .queryParams sql ((g.frontend.portalArgs portal).getD [])) = command at hdec hrow
    have hone : (t.runtime.frontend.decode g.frontend ⟨tag, .ok f⟩
        g.session).1 = .ok [command] := congrArg Prod.fst hdec
    have hcommands : t.runtime.commandsOf g ⟨tag, .ok f⟩ = [command] := by
      unfold Runtime.commandsOf
      rw [hone]
    have hgranted := t.runtime.granted_of_decode hone io
    have hdecoded : t.runtime.decoded g ⟨tag, .ok f⟩ =
        { g with
          frontend := (decodeMessage (describing t.d) g.frontend f g.session).2.2
          session := (decodeMessage (describing t.d) g.frontend f g.session).2.1 } := rfl
    rw [hdec] at hdecoded
    have hinside : (t.runtime.decoded g ⟨tag, .ok f⟩).session.pgExtendedQuery = true := by
      rw [hdecoded]
      rfl
    cases hx : t.runtime.granted g ⟨tag, .ok f⟩ io with
    | some x =>
      rw [hx] at hgranted
      have hgiven := horder x hx
      split at hgiven
      · -- the frames go to a relay
        rename_i hpass
        obtain ⟨hfresh, hpass⟩ := Bool.and_eq_true_iff.mp hpass
        obtain ⟨response, text, n, ending, hrelays, hread, htext, hending, hreplies⟩ := hgiven
        have hkind := (sameKind_granted htexts hgranted.symm).rows hrow
        obtain ⟨relay, hrelay, hresponse⟩ := w.relayed g.backend x.command _ (io 0).call response hkind hrelays
        have hcall := obtained_calls t (g := t.runtime.decoded g ⟨tag, .ok f⟩)
          (Bool.not_eq_eq_eq_not.mp hfresh) (io 0)
        rw [isPassthrough_iff.mp hpass] at hcall
        have hwhole : relay.response.failed = none := by
          rw [hresponse]
          exact hread
        obtain ⟨inside, hunit, hsends⟩ := sends_relayed t w hgranted.symm hwritten hwhole (hcall.trans hrelay)
        have hpackets : (Runtime.relayedPackets command inside relay.response.packets).map packetReply =
            List.replicate n (.dataRow (arity text)) ++ [ending] := by
          unfold Runtime.relayedPackets
          rw [if_pos ⟨hunit.trans hinside, fun hcommand => by rw [hcommand] at hrow; cases hrow⟩,
            map_packetReply_filter, hresponse, hreplies]
        rw [hpackets] at hsends
        exact served_of_relayed t hafter hm htext hending (sends_frame t hone hsends)
      rename_i hpass
      have hmode : Runtime.resumes (t.runtime.decoded g ⟨tag, .ok f⟩) x = false → (t.runtime.execMode x.command
            x.obligations).isPassthrough = false := by
        intro hfresh
        rw [hfresh] at hpass
        exact Bool.eq_false_iff.mpr hpass
      have hsuppressed : (t.runtime.decoded g ⟨tag, .ok f⟩).frontend.suppressNextRowDescription = true := by
        rw [hdecoded]
      rcases answers_execute t w htexts hgranted.symm hwritten hinside hsuppressed
        hrow hmode hacks (fun columns hcolumns => hgiven sql columns hsql hcolumns) with
        hrows | hdone
      · exact served_of_rows t hafter hm hsql hone hrows
      · exact served_of_completes t hafter hm hone hdone
    | none =>
      rw [hx] at hgranted
      cases hcursor : Runtime.cursorSql command with
      | none =>
        have hfails := fails_refused t hwritten hinside hgranted.symm hcursor
        exact served_of_completes t hafter hm hone (.inr hfails)
      | some kind =>
        have hdone := completes_cursor t w (g := t.runtime.decoded g ⟨tag, .ok f⟩) hcursor hwritten hinside
          hacks fun name count hkind => hfetch command (by rw [hcommands]; exact List.mem_singleton_self command)
            name count (by rw [hcursor, hkind])
        exact served_of_completes t hafter hm hone hdone

/-! ## Sessions -/

/-- **Every message that does not go wrong** is answered, and the tables stay known. -/
theorem served (w : Answering t.backend) (htexts : TranslatesTexts t.service) (hknown : Known arity g.frontend)
    (hlive : (g.session.pgExtendedError && !endsIgnoring f.message) = false) (hwritten : (io 0).written = .ok ())
    (horder : InOrder t.d t.display t.binary t.service w arity g ⟨tag, .ok f⟩ io f.message) :
    t.Served arity g tag f io := by
  have hafter : Known arity (decodeMessage (describing t.d) g.frontend f g.session).2.2 := by
    refine known_decodeMessage (describing t.d) hknown fun statement query columns hm hinfer => ?_
    rw [hm] at horder
    exact horder columns hinfer
  cases hm : f.message with
  | parse statement query => exact served_parse t w htexts hafter hwritten hlive hm
  | bind portal statement parameters formats =>
    exact served_bind t w htexts hafter hwritten hlive hm
  | describe target name =>
    rw [hm] at horder
    exact served_describe t w htexts hafter hwritten hlive hknown hm horder.1 horder.2
  | execute portal maxRows =>
    rw [hm] at horder
    exact served_execute t w htexts hafter hlive hwritten hm horder
  | close target name =>
    rw [hm] at horder
    exact served_close t w htexts hafter hwritten hlive hm horder
  | sync =>
    rw [hm] at horder
    exact served_sync t w htexts hafter hwritten hlive hm horder.1 horder.2
  | flush => exact served_flush t hafter hlive hm
  | query sql =>
    rw [hm] at horder
    exact horder.elim
  | terminate =>
    rw [hm] at horder
    exact horder.elim

theorem ignored (hignored : (g.session.pgExtendedError && !endsIgnoring f.message) = true) :
    t.frameReplies g ⟨tag, .ok f⟩ io = [] ∧ (t.runtime.handleFrame g ⟨tag, .ok f⟩ io).gateway.frontend =
        g.frontend := by
  have hdec : decodeMessage (describing t.d) g.frontend f g.session = (.ok [], g.session, g.frontend) := by
    unfold decodeMessage
    rw [hignored]
    rfl
  have hdecode : t.runtime.frontend.decode g.frontend ⟨tag, .ok f⟩ g.session = (.ok [], g.session, g.frontend) := hdec
  have hhandled : t.runtime.handleFrame g ⟨tag, .ok f⟩ io = ⟨.ok (), g, []⟩ := by
    unfold Runtime.handleFrame
    rw [hdecode]
    rfl
  refine ⟨?_, ?_⟩
  · unfold Setup.frameReplies Engine.frameReplies
    dsimp only
    rw [hhandled]
    rfl
  · rw [hhandled]

theorem frontend_unread (g : Gateway PostgreSqlFrontend β) (tag : UInt8) (e : GatewayError) (io : Nat → CommandIo ω η) :
    (t.runtime.handleFrame g ⟨tag, .error e⟩ io).gateway.frontend =
      g.frontend := by
  have hdecode : t.runtime.frontend.decode g.frontend ⟨tag, .error e⟩
      g.session = (.error (.error e), g.session, g.frontend) := rfl
  unfold Runtime.handleFrame
  rw [hdecode]
  cases e with
  | unsupported code =>
    dsimp only
    cases UnsupportedSqlCapability.fromCode code with
    | none => rfl
    | some capability =>
      dsimp only
      unfold Runtime.rejectUnsupportedCapability Runtime.encodeResponse Runtime.encodeOwed
      cases (io 0).written with
      | ok u => rfl
      | error e => rfl
  | _ => rfl

def KnownOf (arity : String → Nat) (s : Option (Gateway PostgreSqlFrontend β)) : Prop :=
  ∀ g, s = some g → Known arity g.frontend

theorem knownOf_afterFrame {frame : RawFrame}
    {out : Handled (Gateway PostgreSqlFrontend β)} (h : Known arity out.gateway.frontend) :
    KnownOf arity (t.runtime.afterFrame frame out) := by
  intro g hg
  unfold Runtime.afterFrame at hg
  split at hg
  · split at hg
    · cases hg
    · cases hg
      exact h
  · cases hg
  · split at hg
    · cases hg
      exact h
    · cases hg
  · cases hg
    exact h

theorem knownOf_step (w : Answering t.backend) (htexts : TranslatesTexts t.service) (hknown : KnownOf arity s)
    (horderly : Orderly t.d t.display t.binary t.service w arity s a) : KnownOf arity (t.runtime.step s a).2 := by
  cases s with
  | none =>
    intro g hg
    have hnone : (none : Option (Gateway PostgreSqlFrontend β)) = some g := hg
    cases hnone
  | some g =>
    cases a with
    | background k =>
      intro g' hg'
      have hsame : g'.frontend = g.frontend := by
        rw [← Option.some.inj hg']
      rw [hsame]
      exact hknown g rfl
    | frame frame io =>
      have hframe : ∀ h : Known arity (t.runtime.handleFrame g frame
          io).gateway.frontend, KnownOf arity (t.runtime.step (some g)
            (.frame frame io)).2 := fun h => knownOf_afterFrame t h
      refine hframe ?_
      obtain ⟨tag, e | f⟩ := frame
      · rw [frontend_unread]
        exact hknown g rfl
      · obtain ⟨hwritten, horder⟩ := horderly
        cases hlive : g.session.pgExtendedError && !endsIgnoring f.message with
        | true =>
          rw [(ignored t hlive).2]
          exact hknown g rfl
        | false =>
          exact (served t w htexts (hknown g rfl) hlive hwritten (horder f rfl hlive)).known

theorem repliesConform_of_orderly (w : Answering t.backend) (htexts : TranslatesTexts t.service)
    (hknown : KnownOf arity s) (horderly : Orderly t.d t.display t.binary t.service w arity s a) :
    RepliesConform t.d t.display t.binary t.backend t.service arity s a := by
  cases s with
  | none => trivial
  | some g =>
    cases a with
    | background k => trivial
    | frame frame io =>
      intro f hf
      obtain ⟨tag, e | message⟩ := frame
      · cases hf
      · obtain rfl : message = f := Option.some.inj hf
        obtain ⟨hwritten, horder⟩ := horderly
        cases hlive : g.session.pgExtendedError && !endsIgnoring message.message with
        | true =>
          rw [if_pos rfl]
          exact (ignored t hlive).1
        | false =>
          rw [if_neg Bool.false_ne_true]
          exact (served t w htexts (hknown g rfl) hlive hwritten (horder message rfl hlive)).replied

variable {backend service}

/-- **A session of the extended protocol** without a wrong step: every message is answered once, in order. -/
theorem replies_conform (w : Answering backend) (htexts : TranslatesTexts service)
    {g : Gateway PostgreSqlFrontend β} (hknown : Known arity g.frontend) {acts : List (Runtime.Act RawFrame ω η κ)}
    (horderly : Meets (extendedRuntime d display binary backend service).step
      (Orderly d display binary service w arity) (some g) acts)
    {e : Entry (Option (Gateway PostgreSqlFrontend β)) (Runtime.Act RawFrame ω η κ) (List Event)}
    (he : e ∈ entries (extendedRuntime d display binary backend service).step (some g) acts) :
    RepliesConform d display binary backend service arity e.pre e.act := by
  have hstart : KnownOf arity (some g) := by
    intro g' hg'
    cases hg'
    exact hknown
  exact mem_entries_forall (KnownOf arity) (fun s a hs ha => knownOf_step ⟨d, display, binary, backend, service⟩ w htexts hs ha)
    (fun s a hs ha => repliesConform_of_orderly ⟨d, display, binary, backend, service⟩ w htexts hs ha) hstart horderly he

/-! ## What the property rules out -/

theorem replied_head {portal : String} {maxRows : Int} {closed : Prop} {reply : ClientReply}
    {rest : List ClientReply} (h : Replied arity p (.execute portal maxRows) closed (reply :: rest)) :
    (∃ sql, p.portals portal = some sql ∧ reply = .dataRow (arity sql)) ∨
      reply ∈ [ClientReply.commandComplete, .portalSuspended, .errorResponse] := by
  have hrows : ∀ rows tail, RowsOf arity p portal rows → reply :: rest = rows ++ tail →
      (∃ sql, p.portals portal = some sql ∧ reply = .dataRow (arity sql)) ∨ reply :: rest = tail := by
    rintro rows tail (rfl | ⟨sql, n, hsql, rfl⟩) heq
    · exact .inr heq
    · cases n with
      | zero => exact .inr heq
      | succ n =>
        rw [List.replicate_succ, List.cons_append, List.cons.injEq] at heq
        exact .inl ⟨sql, hsql, heq.1⟩
  rcases h with ⟨rows, ending, hrowsof, hending, heq⟩ | ⟨_, rows, hbegun, heq⟩ | ⟨_, hbegun⟩
  · refine (hrows rows [ending] hrowsof heq).imp_right fun hlast => ?_
    rw [List.cons.injEq] at hlast
    rw [hlast.1]
    rcases hending with rfl | rfl
    · decide
    · decide
  · refine (hrows rows [.errorResponse] hbegun heq).imp_right fun hlast => ?_
    rw [List.cons.injEq] at hlast
    rw [hlast.1]
    decide
  · refine .inl ?_
    rcases hrows (reply :: rest) [] hbegun (List.append_nil _).symm with hrow | hnil
    · exact hrow
    · cases hnil

/-- What a step shows: the text of a portal, whether the message is live, and the replies. -/
def observed (backend : BackendConnector β ω η κ) (service : Service) (portal : String)
    (s : Option (Gateway PostgreSqlFrontend β)) (a : Runtime.Act RawFrame ω η κ) :
    Option (Option String × Bool × List ClientReply) :=
  match s, a with
  | some g, .frame frame io =>
    some (g.frontend.portals portal, !g.session.pgExtendedError,
      frameReplies d display binary backend service g frame io)
  | _, _ => none

section Observed

variable (backend : BackendConnector β ω η κ) (service : Service) {s : Option (Gateway PostgreSqlFrontend β)}
  {portal : String} {text : Option String} {reply : ClientReply} {rest : List ClientReply}

theorem replied_observed (h : RepliesConform d display binary backend service arity s (.frame ⟨tag, .ok f⟩ io))
    (hseen : observed d display binary backend service portal s (.frame ⟨tag, .ok f⟩ io) =
      some (text, true, reply :: rest)) :
    ∃ p closed, p.portals portal = text ∧ Replied arity p f.message closed (reply :: rest) := by
  cases s with
  | none => cases hseen
  | some g =>
    simp only [observed, Option.some.injEq, Prod.mk.injEq, Bool.not_eq_eq_eq_not, Bool.not_true] at hseen
    obtain ⟨htext, hlive, hreplies⟩ := hseen
    have hreplied := h f rfl
    rw [hlive, Bool.false_and, if_neg Bool.false_ne_true, hreplies] at hreplied
    exact ⟨g.frontend, _, htext, hreplied⟩

theorem described_width {sql : String} {n : Nat} (hm : f.message = .describe .portal portal)
    (h : RepliesConform d display binary backend service arity s (.frame ⟨tag, .ok f⟩ io))
    (hseen : observed d display binary backend service portal s (.frame ⟨tag, .ok f⟩ io) =
      some (some sql, true, [.rowDescription n])) : n = arity sql := by
  obtain ⟨p, closed, htext, hreplied⟩ := replied_observed d display binary backend service h hseen
  rw [hm] at hreplied
  rcases hreplied with ⟨answer, hdescribes, heq⟩ | ⟨_, rows, hbegun, heq⟩ | ⟨_, hbegun⟩
  · rw [List.cons.injEq] at heq
    rw [← heq.1] at hdescribes
    obtain ⟨text, hsql, hlength⟩ := hdescribes
    have hsame : some sql = some text := htext.symm.trans hsql
    rw [hlength, Option.some.inj hsame]
  · have hnil : rows = [] := hbegun
    rw [hnil] at heq
    cases heq
  · cases hbegun

theorem executed_width {maxRows : Int} (hm : f.message = .execute portal maxRows)
    (h : RepliesConform d display binary backend service arity s (.frame ⟨tag, .ok f⟩ io))
    (hseen : observed d display binary backend service portal s (.frame ⟨tag, .ok f⟩ io) =
      some (text, true, reply :: rest)) : (∃ sql, text = some sql ∧ reply = .dataRow (arity sql)) ∨
      reply ∈ [ClientReply.commandComplete, .portalSuspended, .errorResponse] := by
  obtain ⟨p, closed, htext, hreplied⟩ := replied_observed d display binary backend service h hseen
  rw [hm] at hreplied
  rw [← htext]
  exact replied_head hreplied

end Observed

end Frames

/-! ## A unit -/

def oneColumn : Dialect := { plainDialect with inferSelectResultColumns := fun _ => some [⟨"id", "text"⟩] }

def noDisplay : Display := ⟨fun _ => "", fun _ => ""⟩

def noBinary : BinaryEncoder := fun _ _ => .ok none

/-- A service that streams rows, with its own encoders. -/
def extendedService : Service := { plainService false with streamMode := .streaming 256 none }

def extendedStep : Option (Gateway PostgreSqlFrontend Connector) →
    Runtime.Act RawFrame CallIo HealthIo Nat → List Event × Option (Gateway PostgreSqlFrontend Connector) :=
  (extendedRuntime oneColumn noDisplay noBinary postgreSqlConnector extendedService).step

/-- The client sends a message under the policy; a statement that is run gives one row. -/
def asksUnder (policy : LocalPdpInner) (message : FrontendMessage) : Runtime.Act RawFrame CallIo HealthIo Nat :=
  .frame (frameOf message) fun _ =>
    { workingIo policy noRewriters with
      call := { CallIo.works with
        pool := { PoolIo.works with start := .ok [.rowDescription ["id"], .row [.string "a1"]] } } }

def oneUnit : List FrontendMessage :=
  [.parse "s" "select id from a", .bind "" "s" [] [], .describe .portal "", .execute "" 0, .sync]

def cursorUnit : List FrontendMessage :=
  [.parse "d" "declare c cursor for select id from a", .bind "" "d" [] [], .execute "" 0,
    .parse "f" "fetch 1 from c", .bind "" "f" [] [], .execute "" 0, .sync]

def repliesAlong (policy : LocalPdpInner) (messages : List FrontendMessage) : List (List ClientReply) :=
  (entries extendedStep (some aliceStart) (messages.map (asksUnder policy))).map fun e =>
    ((observed oneColumn noDisplay noBinary postgreSqlConnector extendedService "" e.pre e.act).map (·.2.2)).getD []

/-- Nothing of what `InOrder` excludes happens in this step. -/
def calm (s : Option (Gateway PostgreSqlFrontend Connector)) (a : Runtime.Act RawFrame CallIo HealthIo Nat) : Bool :=
  match s, a with
  | some g, .frame frame io =>
    let r := extendedRuntime oneColumn noDisplay noBinary postgreSqlConnector extendedService
    match (readFrame frame).map ClientFrame.message with
    | some (.describe _ _) => g.session.pgExtendedQuery
    | some (.execute _ _) =>
      (r.commandsOf g frame).all (fun command => (Runtime.cursorSql command).isNone) &&
        g.heldPortalStream.isNone && (r.granted g frame io).all fun x =>
          !(r.execMode x.command x.obligations).isPassthrough && x.obligations.watermark.isNone
    | some .sync => !g.session.pgExtTcpHold && (r.granted g frame io).isSome
    | _ => true
  | _, _ => true

theorem orderly_of_calm {message : FrontendMessage} (hmessage : message ∈ oneUnit)
    {s : Option (Gateway PostgreSqlFrontend Connector)} (h : calm s (asksUnder policy message) = true) :
    Orderly oneColumn noDisplay noBinary extendedService postgreSqlAnswering (fun _ => 1) s
      (asksUnder policy message) := by
  cases s with
  | none => trivial
  | some g =>
    refine ⟨rfl, fun f hf _ => ?_⟩
    obtain rfl : (⟨[], message⟩ : ClientFrame) = f := Option.some.inj hf
    simp only [oneUnit, List.mem_cons, List.not_mem_nil, or_false] at hmessage
    rcases hmessage with rfl | rfl | rfl | rfl | rfl
    · rintro columns ⟨⟩
      rfl
    · trivial
    · refine ⟨.inl h, ?_⟩
      rintro sql columns hsql ⟨⟩
      rfl
    · simp only [calm, asksUnder, frameOf, ClientFrame.raw, readFrame, Option.map_some, Bool.and_eq_true,
        List.all_eq_true, Option.isNone_iff_eq_none] at h
      obtain ⟨⟨hcursor, hheld⟩, hgranted⟩ := h
      refine ⟨fun command hcommand name count hfetch => ?_, ?_, fun x hx => ?_⟩
      · have hnone := hcursor command hcommand
        rw [hfetch] at hnone
        cases hnone
      · rintro response ⟨⟩
        rfl
      · rw [Option.all_eq_true] at hgranted
        have hcalm := hgranted x hx
        simp only [Bool.and_eq_true, Bool.not_eq_eq_eq_not, Bool.not_true, Option.isNone_iff_eq_none] at hcalm
        rw [hcalm.1, Bool.and_false, if_neg Bool.false_ne_true]
        intro sql columns hsql hcolumns
        have hwidth : columns.length = 1 := by
          rcases hcolumns with (⟨items, names, hstart, hmem, rfl⟩ | ⟨items, values, hrows, hmem⟩) | ⟨q, hq, _⟩
          · cases hstart
            simp only [List.mem_cons, List.not_mem_nil, or_false] at hmem
            rcases hmem with hmem | hmem
            · cases hmem
              rfl
            · cases hmem
          · cases hrows
            cases hmem
          · rw [hheld] at hq
            cases hq
        unfold streamColumns applyWatermark
        rw [hcalm.2]
        exact hwidth
    · simp only [calm, asksUnder, frameOf, ClientFrame.raw, readFrame, Option.map_some, Bool.and_eq_true,
        Bool.not_eq_eq_eq_not, Bool.not_true] at h
      refine ⟨Option.isSome_iff_ne_none.mp h.2, fun hhold => ?_⟩
      rw [h.1] at hhold
      cases hhold

theorem unit_conforms : repliesAlong (rulesOnly []) oneUnit =
      [[.parseComplete], [.bindComplete], [.rowDescription 1], [.dataRow 1, .commandComplete], [.readyForQuery]] ∧
    ∀ e ∈ entries extendedStep (some aliceStart) (oneUnit.map (asksUnder (rulesOnly []))),
      RepliesConform oneColumn noDisplay noBinary postgreSqlConnector extendedService (fun _ => 1) e.pre e.act := by
  refine ⟨by decide, fun e he => ?_⟩
  have hcalm : ∀ e ∈ entries extendedStep (some aliceStart) (oneUnit.map (asksUnder (rulesOnly []))),
      calm e.pre e.act = true := by decide
  have htexts : TranslatesTexts extendedService := ⟨nofun, nofun, nofun, nofun⟩
  refine replies_conform oneColumn noDisplay noBinary postgreSqlAnswering htexts known_new (fun e he => ?_) he
  obtain ⟨message, hmessage, hact⟩ := List.mem_map.mp (act_mem he)
  have hstep := hcalm e he
  rw [← hact] at hstep ⊢
  exact orderly_of_calm hmessage hstep

/-- A policy that marks the rows with a column. -/
def markedPolicy : LocalPdpInner := { rulesOnly [] with watermark := ⟨true, "column", "_dn_wm", "t"⟩ }

def afterMessages (policy : LocalPdpInner) (messages : List FrontendMessage) :
    Option (Gateway PostgreSqlFrontend Connector) :=
  final extendedStep (some aliceStart) (messages.map (asksUnder policy))

theorem conform_after {messages : List FrontendMessage}
    (h : ∀ e ∈ entries extendedStep (some aliceStart) (messages.map (asksUnder policy)),
      RepliesConform oneColumn noDisplay noBinary postgreSqlConnector extendedService arity e.pre e.act)
    (before : List FrontendMessage) (message : FrontendMessage) (after : List FrontendMessage)
    (hsplit : messages = before ++ message :: after) :
    RepliesConform oneColumn noDisplay noBinary postgreSqlConnector extendedService arity
      (afterMessages policy before) (asksUnder policy message) := by
  subst hsplit
  unfold afterMessages
  generalize some aliceStart = s at h ⊢
  induction before generalizing s with
  | nil => exact h _ List.mem_cons_self
  | cons first before ih => exact ih _ fun e he => h e (List.mem_cons_of_mem _ he)

/-- **Replies that do not conform**: a watermark widens the rows, and a FETCH in an Execute is described. -/
theorem extended_replies_diverge : repliesAlong markedPolicy oneUnit =
      [[.parseComplete], [.bindComplete], [.rowDescription 1], [.dataRow 2, .commandComplete], [.readyForQuery]] ∧
    (¬∃ arity, ∀ e ∈ entries extendedStep (some aliceStart) (oneUnit.map (asksUnder markedPolicy)),
      RepliesConform oneColumn noDisplay noBinary postgreSqlConnector extendedService arity e.pre e.act) ∧
    repliesAlong (rulesOnly []) cursorUnit =
      [[.parseComplete], [.bindComplete], [.commandComplete], [.parseComplete], [.bindComplete],
        [.rowDescription 1, .dataRow 1, .commandComplete], [.readyForQuery]] ∧
    ¬∃ arity, ∀ e ∈ entries extendedStep (some aliceStart) (cursorUnit.map (asksUnder (rulesOnly []))),
      RepliesConform oneColumn noDisplay noBinary postgreSqlConnector extendedService arity e.pre e.act := by
  refine ⟨by decide, ?_, by decide, ?_⟩
  · rintro ⟨arity, h⟩
    have hdescribe := conform_after h (oneUnit.take 2) (.describe .portal "") [.execute "" 0, .sync] rfl
    have hdescribed : observed oneColumn noDisplay noBinary postgreSqlConnector extendedService ""
        (afterMessages markedPolicy (oneUnit.take 2)) (asksUnder markedPolicy (.describe .portal "")) =
      some (some "select id from a", true, [.rowDescription 1]) := by decide
    have hone := described_width oneColumn noDisplay noBinary postgreSqlConnector extendedService
      (f := ⟨[], .describe .portal ""⟩) rfl hdescribe hdescribed
    have hexecute := conform_after h (oneUnit.take 3) (.execute "" 0) [.sync] rfl
    have hexecuted : observed oneColumn noDisplay noBinary postgreSqlConnector extendedService ""
        (afterMessages markedPolicy (oneUnit.take 3)) (asksUnder markedPolicy (.execute "" 0)) =
      some (some "select id from a", true, [.dataRow 2, .commandComplete]) := by decide
    rcases executed_width oneColumn noDisplay noBinary postgreSqlConnector extendedService
      (f := ⟨[], .execute "" 0⟩) rfl hexecute hexecuted with ⟨sql, hsql, hrow⟩ | hend
    · injection hsql with hsql
      injection hrow with hrow
      rw [← hsql, ← hone] at hrow
      cases hrow
    · revert hend
      decide
  · rintro ⟨arity, h⟩
    have hexecute := conform_after h (cursorUnit.take 5) (.execute "" 0) [.sync] rfl
    have hexecuted : observed oneColumn noDisplay noBinary postgreSqlConnector extendedService ""
        (afterMessages (rulesOnly []) (cursorUnit.take 5)) (asksUnder (rulesOnly []) (.execute "" 0)) =
      some (some "fetch 1 from c", true, [.rowDescription 1, .dataRow 1, .commandComplete]) := by decide
    rcases executed_width oneColumn noDisplay noBinary postgreSqlConnector extendedService
      (f := ⟨[], .execute "" 0⟩) rfl hexecute hexecuted with ⟨sql, hsql, hrow⟩ | hend
    · cases hrow
    · revert hend
      decide

end DataNexus.Engine
