/-
  Read/write splitting and transactions: is a transaction executed at one endpoint, the read-write one?

  The plan of a command sticks to the session's endpoint only while the transaction state is `Active`, and `decode`
  changes that state before the plan is made.  So BEGIN sticks to wherever the last command went; COMMIT and ROLLBACK are
  drawn anew; a `Failed` transaction is not sticky; an Execute of the text BEGIN leaves the state alone.

  `Steady` excludes these.  In a run of steady steps every command from BEGIN to COMMIT or ROLLBACK is executed at one
  read-write endpoint (`transaction_at_one_endpoint`).  `txn` is a history variable.
-/
import DataNexus.Engine.Trace
import DataNexus.Engine.PostgreSql
import DataNexus.Lib.Run

namespace DataNexus.Engine

open DataNexus.Run
open DataNexus.Frontend (controlKeyword)

variable {φ ι β ω η κ : Type}

/-! ## Sessions with their transaction -/

/-- A session and the endpoints its transaction was executed at; `none` outside a transaction. -/
structure Routed (φ β : Type) where
  gateway : Option (Gateway φ β)
  txn : Option (List (Option String))

def endpointsOf (events : List Event) : List (Option String) := (calls events).map (·.session.backendEndpoint)

/-- The command, or the text that it executes, is BEGIN. -/
def opensTransaction : GatewayCommand → Bool
  | .begin => true
  | .query sql => ["begin", "start transaction"].contains (controlKeyword sql)
  | .queryParams sql _ => ["begin", "start transaction"].contains (controlKeyword sql)
  | _ => false

/-- The command, or the text that it executes, is COMMIT or ROLLBACK, or the client leaves. -/
def endsTransaction : GatewayCommand → Bool
  | .commit => true
  | .rollback => true
  | .quit => true
  | .query sql => ["commit", "rollback"].contains (controlKeyword sql)
  | .queryParams sql _ => ["commit", "rollback"].contains (controlKeyword sql)
  | _ => false

namespace Runtime

variable (r : Runtime φ ι β ω η κ)

def commandsOfAct (g : Option (Gateway φ β)) (a : Act ι ω η κ) : List GatewayCommand :=
  match g, a with
  | some g, .frame frame _ => r.commandsOf g frame
  | _, _ => []

/-- The endpoints used in the transaction before this step; BEGIN inside a transaction continues it. -/
def usedBefore (s : Routed φ β) (a : Act ι ω η κ) : Option (List (Option String)) :=
  if (r.commandsOfAct s.gateway a).any opensTransaction then some (s.txn.getD []) else s.txn

/-- The endpoints used in the transaction up to this step. -/
def usedIn (s : Routed φ β) (a : Act ι ω η κ) : Option (List (Option String)) :=
  (r.usedBefore s a).map (· ++ endpointsOf (r.step s.gateway a).1)

/-- One step; the answer is the endpoints used in the transaction so far. -/
def routedStep (s : Routed φ β) (a : Act ι ω η κ) : Option (List (Option String)) × Routed φ β :=
  (r.usedIn s a,
    ⟨(r.step s.gateway a).2, if (r.commandsOfAct s.gateway a).any endsTransaction then none else r.usedIn s a⟩)

end Runtime

/-! ## The condition and the property -/

def CoreRoutePolicy.IsReadWrite (p : CoreRoutePolicy) (name : Option String) : Prop :=
  ∃ endpoint, p.endpointByName endpoint.name = .ok endpoint ∧ endpoint.role = .readWrite ∧ name = some endpoint.name

/-- **One read-write endpoint** for everything the transaction executed. -/
def CoreRoutePolicy.OneEndpoint (p : CoreRoutePolicy) (used : List (Option String)) : Prop :=
  ∀ name ∈ used, p.IsReadWrite name ∧ ∀ other ∈ used, other = name

/-- The policy would send the text to a replica. -/
def CoreRoutePolicy.isReadCommand (p : CoreRoutePolicy) : GatewayCommand → Bool
  | .query sql => p.isReadOnly sql
  | .queryParams sql _ => p.isReadOnly sql
  | _ => false

/-- A command that does not move its transaction: BEGIN at a read-write endpoint, and later no read, drawn to the endpoint
    where the session is or to a read-write one if nothing was executed yet.  `used` is what was executed so far. -/
structure Steady (r : Runtime φ ι β ω η κ) (p : CoreRoutePolicy) (readwriteBalancer : Balancer)
    (used : List (Option String)) (g : Gateway φ β) (frame : ι) (command : GatewayCommand)
    (draw : Draw) : Prop where
  active : (r.decoded g frame).session.transactionState = .active → used = [] → p.IsReadWrite g.session.backendEndpoint
  read : (r.decoded g frame).session.transactionState ≠ .active → p.isReadCommand command = false
  first : (r.decoded g frame).session.transactionState ≠ .active → used = [] →
    p.IsReadWrite ((readwriteBalancer.next draw).map (·.name))
  next : (r.decoded g frame).session.transactionState ≠ .active → used ≠ [] →
    (readwriteBalancer.next draw).map (·.name) = g.session.backendEndpoint

/-- The condition on a step of a run: it is about the commands of a transaction, BEGIN included. -/
def SteadyStep (r : Runtime φ ι β ω η κ) (p : CoreRoutePolicy) (readwriteBalancer : Balancer)
    (s : Routed φ β) (a : Runtime.Act ι ω η κ) : Prop :=
  ∀ g frame io command used, s.gateway = some g → a = .frame frame io →
    r.commandsOf g frame = [command] → r.usedBefore s a = some used →
    Steady r p readwriteBalancer used g frame command (io 0).draw

/-! ## One step -/

section Step

variable {r : Runtime φ ι β ω η κ} {p : CoreRoutePolicy} {readBalancer readwriteBalancer : Balancer}

variable {session' : SessionState} {g : Gateway φ β} {s : Routed φ β} {a : Runtime.Act ι ω η κ}

theorem route_active {session : SessionState} {command : GatewayCommand} {io : CommandIo ω η} {name : String}
    (hpolicy : r.service.routePolicy = some p) (hactive : session.transactionState = .active)
    (hname : session.backendEndpoint = some name) (h : r.route command session io = .ok session') :
    session'.backendEndpoint = some name := by
  unfold Runtime.route at h
  rw [hpolicy] at h
  dsimp only at h
  rw [planCommand_active hactive hname] at h
  cases hfound : p.endpointByName name with
  | error e => rw [hfound] at h; cases h
  | ok endpoint =>
    rw [hfound] at h
    obtain rfl : applyRoutePlan endpoint session = session' := by injection h
    exact congrArg some (endpointByName_ok hfound).2

/-- A plan in another state is where the read-write balancer's draw falls, for a command that is no
    read. -/
theorem route_drawn {session : SessionState} {command : GatewayCommand} {io : CommandIo ω η} {name : String}
    (hpolicy : r.service.routePolicy = some p) (hkind : p.kind = .readWrite readBalancer readwriteBalancer)
    (hstate : session.transactionState ≠ .active) (hread : p.isReadCommand command = false)
    (hdraw : (readwriteBalancer.next io.draw).map (·.name) = some name)
    (h : r.route command session io = .ok session') : session'.backendEndpoint = some name := by
  have hrole : p.commandTargetRole command session = .readWrite := by
    unfold CoreRoutePolicy.commandTargetRole
    rw [if_neg hstate]
    cases command with
    | query sql =>
      change p.isReadOnly sql = false at hread
      simp [hread]
    | queryParams sql parameters =>
      change p.isReadOnly sql = false at hread
      simp [hread]
    | _ => rfl
  have hplan : p.planCommand command session io.draw =
      p.selectFromBalancer readwriteBalancer io.draw := by
    unfold CoreRoutePolicy.planCommand CoreRoutePolicy.isSticky CoreRoutePolicy.planForRole
    rw [hrole, hkind, beq_eq_false_iff_ne.mpr hstate]
    cases session.backendEndpoint <;> rfl
  obtain ⟨drawn, hnext, hdrawn⟩ := Option.map_eq_some_iff.mp hdraw
  unfold Runtime.route at h
  rw [hpolicy] at h
  dsimp only at h
  rw [hplan] at h
  unfold CoreRoutePolicy.selectFromBalancer at h
  rw [hnext] at h
  dsimp only at h
  rw [hdrawn] at h
  cases hfound : p.endpointByName name with
  | error e => rw [hfound] at h; cases h
  | ok endpoint =>
    rw [hfound] at h
    obtain rfl : applyRoutePlan endpoint session = session' := by injection h
    exact congrArg some (endpointByName_ok hfound).2

theorem afterFrame_endpoint {frame : ι} {out : Handled (Gateway φ β)} (h : r.afterFrame frame out = some g) :
    g.session.backendEndpoint = out.gateway.session.backendEndpoint := by
  unfold Runtime.afterFrame at h
  split at h
  · split at h
    · cases h
    · injection h with h
      rw [h]
  · cases h
  · split at h
    · injection h with h
      rw [← h]
      rfl
    · cases h
  · injection h with h
    rw [h]

/-- A transaction is at one read-write endpoint, and so is its session. -/
def AtEndpoint (p : CoreRoutePolicy) (used : List (Option String)) (g : Option (Gateway φ β)) : Prop :=
  p.OneEndpoint used ∧ ∀ g', g = some g' → ∀ name ∈ used, g'.session.backendEndpoint = name

theorem OneEndpoint.append {before new : List (Option String)} {target : Option String}
    (hbefore : ∀ name ∈ before, name = target) (hnew : ∀ name ∈ new, name = target)
    (htarget : p.IsReadWrite target) : p.OneEndpoint (before ++ new) := by
  have hall : ∀ name ∈ before ++ new, name = target := by
    intro name hname
    rcases List.mem_append.mp hname with hname | hname
    · exact hbefore name hname
    · exact hnew name hname
  intro name hname
  rw [hall name hname]
  exact ⟨htarget, hall⟩

/-- A command that is planned onto `target` is executed there; the session is there afterwards, or nothing
    happened. -/
theorem command_at_target {command : GatewayCommand} {io : CommandIo ω η} {target : Option String}
    (hroute : ∀ session, r.route command g.session io = .ok session → session.backendEndpoint = target) :
    (∀ used ∈ endpointsOf (r.handleCommand g command io).events, used = target) ∧
    ((r.handleCommand g command io).gateway.session.backendEndpoint = target ∨
      (endpointsOf (r.handleCommand g command io).events = [] ∧
        (r.handleCommand g command io).gateway.session.backendEndpoint = g.session.backendEndpoint)) := by
  unfold endpointsOf
  constructor
  · intro used hused
    cases r.reaches_handleCommand g command io with
    | not hnone =>
      rw [hnone] at hused
      cases hused
    | declare cursor selectSql withHold session hsql hr hnew hcalls =>
      rw [hcalls] at hused
      rw [List.mem_singleton.mp hused]
      exact hroute session hr
    | admitted session handed o asked hr hcheck hasked hcalls =>
      rw [hcalls] at hused
      rw [List.mem_singleton.mp hused]
      exact hroute session hr
  · rcases r.handleCommand_endpoint g command io with hquiet | ⟨session, hr, h⟩
    · refine .inr ⟨?_, hquiet.endpoint⟩
      rw [hquiet.calls]
      rfl
    · exact .inl (h.trans (hroute session hr))

theorem steady_target (hpolicy : r.service.routePolicy = some p)
    (hkind : p.kind = .readWrite readBalancer readwriteBalancer) {frame : ι} {io : CommandIo ω η}
    {command : GatewayCommand} {used : List (Option String)} (hinv : AtEndpoint p used (some g))
    (hok : Steady r p readwriteBalancer used g frame command io.draw) :
    ∃ target, p.IsReadWrite target ∧ (∀ name ∈ used, name = target) ∧
      ∀ session, r.route command (r.decoded g frame).session io = .ok session → session.backendEndpoint = target := by
  have hused : ∀ name ∈ used, g.session.backendEndpoint = name := hinv.2 g rfl
  have hdecoded : (r.decoded g frame).session.backendEndpoint = g.session.backendEndpoint :=
    r.frontend.decode_endpoint _ _ _
  -- what was executed before was executed at a read-write endpoint, where the session still is
  have hat : used ≠ [] → p.IsReadWrite g.session.backendEndpoint := by
    intro hne
    obtain ⟨name, hname⟩ := List.exists_mem_of_ne_nil used hne
    rw [hused name hname]
    exact (hinv.1 name hname).1
  by_cases hactive : (r.decoded g frame).session.transactionState = .active
  · have hrw : p.IsReadWrite g.session.backendEndpoint := by
      by_cases hempty : used = []
      · exact hok.active hactive hempty
      · exact hat hempty
    refine ⟨g.session.backendEndpoint, hrw, fun name hname => (hused name hname).symm, ?_⟩
    intro session hr
    obtain ⟨endpoint, _, _, hname⟩ := hrw
    rw [hname]
    exact route_active hpolicy hactive (hdecoded.trans hname) hr
  · have hdrawn : p.IsReadWrite ((readwriteBalancer.next io.draw).map (·.name)) ∧
        ∀ name ∈ used, name = (readwriteBalancer.next io.draw).map (·.name) := by
      by_cases hempty : used = []
      · refine ⟨hok.first hactive hempty, ?_⟩
        rw [hempty]
        exact fun name hname => absurd hname List.not_mem_nil
      · rw [hok.next hactive hempty]
        exact ⟨hat hempty, fun name hname => (hused name hname).symm⟩
    refine ⟨_, hdrawn.1, hdrawn.2, ?_⟩
    intro session hr
    obtain ⟨endpoint, _, _, hname⟩ := hdrawn.1
    rw [hname]
    exact route_drawn hpolicy hkind hactive (hok.read hactive) hname hr

/-- **One frame** of a transaction. -/
theorem frame_atEndpoint (hpolicy : r.service.routePolicy = some p)
    (hkind : p.kind = .readWrite readBalancer readwriteBalancer) {frame : ι} {io : Nat → CommandIo ω η}
    {used : List (Option String)} (hinv : AtEndpoint p used (some g))
    (hok : ∀ command, r.commandsOf g frame = [command] →
      Steady r p readwriteBalancer used g frame command (io 0).draw) :
    AtEndpoint p (used ++ endpointsOf (r.handleFrame g frame io).events)
      (r.afterFrame frame (r.handleFrame g frame io)) := by
  have hused : ∀ name ∈ used, g.session.backendEndpoint = name := hinv.2 g rfl
  have hdecoded : (r.decoded g frame).session.backendEndpoint = g.session.backendEndpoint :=
    r.frontend.decode_endpoint _ _ _
  rcases r.handleFrame_cases g frame io with ⟨_, hquiet, _⟩ | ⟨command, hcmd, _, hev, hgw, _⟩
  · have hnone : endpointsOf (r.handleFrame g frame io).events = [] := by
      unfold endpointsOf
      rw [hquiet.calls]
      rfl
    rw [hnone, List.append_nil]
    refine ⟨hinv.1, fun g' hg' name hname => ?_⟩
    exact (afterFrame_endpoint hg').trans
      (hquiet.endpoint.trans (hdecoded.trans (hused name hname)))
  · obtain ⟨target, hrw, hold, hroute⟩ := steady_target hpolicy hkind hinv (hok command hcmd)
    obtain ⟨hnew, hend⟩ := command_at_target hroute
    rw [← hev] at hnew hend
    rw [← hgw] at hend
    refine ⟨OneEndpoint.append hold hnew hrw, fun g' hg' name hname => ?_⟩
    refine (afterFrame_endpoint hg').trans ?_
    rcases hend with hend | ⟨hnone, hend⟩
    · rcases List.mem_append.mp hname with hname | hname
      · rw [hend, hold name hname]
      · rw [hend, hnew name hname]
    · rw [hnone, List.append_nil] at hname
      exact hend.trans (hdecoded.trans (hused name hname))

theorem idle_atEndpoint {used : List (Option String)} (hinv : AtEndpoint p used s.gateway)
    (hcalls : (r.step s.gateway a).1 = []) (hsame : ∀ g', (r.step s.gateway a).2 = some g' →
      ∃ g, s.gateway = some g ∧ g'.session = g.session) :
    AtEndpoint p (used ++ endpointsOf (r.step s.gateway a).1) (r.step s.gateway a).2 := by
  rw [hcalls]
  change AtEndpoint p (used ++ []) _
  rw [List.append_nil]
  refine ⟨hinv.1, fun g' hg' name hname => ?_⟩
  obtain ⟨g, hg, hsession⟩ := hsame g' hg'
  rw [hsession]
  exact hinv.2 g hg name hname

theorem usedBefore_atEndpoint (hinv : ∀ used, s.txn = some used → AtEndpoint p used s.gateway)
    {used : List (Option String)} (h : r.usedBefore s a = some used) : AtEndpoint p used s.gateway := by
  unfold Runtime.usedBefore at h
  split at h
  · injection h with h
    rw [← h]
    cases htxn : s.txn with
    | some old => exact hinv old htxn
    | none =>
      exact ⟨fun name hname => absurd hname List.not_mem_nil, fun g' _ name hname => absurd hname List.not_mem_nil⟩
  · exact hinv used h

/-- **One step.**  What the invariant says about a step's answer. -/
theorem usedIn_atEndpoint (hpolicy : r.service.routePolicy = some p)
    (hkind : p.kind = .readWrite readBalancer readwriteBalancer)
    (hinv : ∀ used, s.txn = some used → AtEndpoint p used s.gateway)
    (hok : SteadyStep r p readwriteBalancer s a) {used : List (Option String)}
    (hused : r.usedIn s a = some used) : AtEndpoint p used (r.step s.gateway a).2 := by
  obtain ⟨before, hbefore, hsplit⟩ := Option.map_eq_some_iff.mp hused
  rw [← hsplit]
  have hat := usedBefore_atEndpoint hinv hbefore
  cases hgw : s.gateway with
  | none =>
    -- a closed session does nothing any more
    rw [← hgw]
    refine idle_atEndpoint hat ?_ ?_
    · rw [hgw]
      rfl
    · intro g' hg'
      rw [hgw] at hg'
      cases hg'
  | some g =>
    cases a with
    | background k =>
      rw [← hgw]
      refine idle_atEndpoint hat ?_ ?_
      · rw [hgw]
        rfl
      · intro g' hg'
        rw [hgw] at hg'
        injection hg' with hg'
        exact ⟨g, hgw, by rw [← hg']⟩
    | frame frame io =>
      rw [hgw] at hat
      exact frame_atEndpoint hpolicy hkind hat fun command hcmd =>
        hok g frame io command before hgw rfl hcmd hbefore

end Step

/-! ## Runs -/

/-- **A transaction stays at one read-write endpoint** in every run of steady steps under read/write splitting. -/
theorem transaction_at_one_endpoint (r : Runtime φ ι β ω η κ) (p : CoreRoutePolicy)
    (readBalancer readwriteBalancer : Balancer) (hpolicy : r.service.routePolicy = some p)
    (hkind : p.kind = .readWrite readBalancer readwriteBalancer) (g : Gateway φ β) (acts : List (Runtime.Act ι ω η κ))
    (hok : Meets r.routedStep (SteadyStep r p readwriteBalancer) ⟨some g, none⟩ acts)
    {e : Entry _ _ _} (he : e ∈ entries r.routedStep ⟨some g, none⟩ acts)
    {used : List (Option String)} (hused : e.out = some used) : p.OneEndpoint used := by
  -- the invariant: an open transaction is where its session is
  have hstep : ∀ (s : Routed φ β) (a : Runtime.Act ι ω η κ),
      (∀ used, s.txn = some used → AtEndpoint p used s.gateway) →
      SteadyStep r p readwriteBalancer s a →
      ∀ used, (r.routedStep s a).2.txn = some used → AtEndpoint p used (r.routedStep s a).2.gateway := by
    intro s a hinv hsteady used hused
    unfold Runtime.routedStep at hused ⊢
    dsimp only at hused ⊢
    split at hused
    · cases hused
    · exact usedIn_atEndpoint hpolicy hkind hinv hsteady hused
  have hinv := inv_of_mem_entries
    (fun s : Routed φ β => ∀ used, s.txn = some used → AtEndpoint p used s.gateway) hstep
    (fun used h => absurd h.symm (Option.some_ne_none used)) hok he
  rw [(entry_eq he).1] at hused
  exact (usedIn_atEndpoint hpolicy hkind hinv.1 (hok e he) hused).1

/-! ## A transaction on a replica -/

def splitEndpoints : List EndpointConfig :=
  [⟨"p1", "p1:5432", none, .readWrite, "dn", 1⟩, ⟨"p2", "p2:5432", none, .readWrite, "dn", 1⟩,
    ⟨"q", "q:5432", none, .read, "dn", 1⟩]

def startsWithSelect (sql : String) : Bool := Pdp.leadingKeyword sql == some "SELECT"

def splitWriters : Balancer := buildBalancer .random (splitEndpoints.filter (·.role == .readWrite))

/-- What `build` makes of them under `read_write_splitting`. -/
def splitPolicy : CoreRoutePolicy where
  endpoints := splitEndpoints
  kind := .readWrite (buildBalancer .random (splitEndpoints.filter (·.role == .read))) splitWriters
  isReadOnly := startsWithSelect

def splitRuntime : Runtime Frontend.PostgreSqlFrontend Frontend.RawFrame Backend.Connector
    Backend.CallIo HealthIo Nat :=
  postgreSqlRuntime plainDialect plainCodec { plainService false with routePolicy := some splitPolicy }

def splitStart : Routed Frontend.PostgreSqlFrontend Backend.Connector where
  gateway := some (Gateway.start .new (Backend.Connector.withEndpoints splitEndpoints)
    { SessionState.default with
      user := some "alice", database := some "app", backendEndpoint := some "p1" })
  txn := none

/-- The client sends a simple query; the balancer's number is `random`. -/
def queries (random : Nat) (sql : String) : Runtime.Act Frontend.RawFrame Backend.CallIo HealthIo Nat :=
  .frame (frameOf (.query sql)) fun _ =>
    { workingIo (rulesOnly []) noRewriters with draw := ⟨random, 0⟩ }

/-- The endpoints of the transaction, step by step. -/
def routes (acts : List (Runtime.Act Frontend.RawFrame Backend.CallIo HealthIo Nat)) :
    List (Option (List (Option String))) :=
  (entries splitRuntime.routedStep splitStart acts).map (·.out)

/-- The session at `"p1"` and the query on its way: what `Steady` asks about. -/
theorem steadyStep_queries {random : Nat} {sql : String}
    {s : Routed Frontend.PostgreSqlFrontend Backend.Connector} (state : TransactionState) (command : GatewayCommand)
    (hview : s.gateway.map (fun g => ((splitRuntime.decoded g (frameOf (.query sql))).session.transactionState,
        g.session.backendEndpoint, splitRuntime.commandsOf g (frameOf (.query sql)))) =
      some (state, some "p1", [command])) (hread : splitPolicy.isReadCommand command = false)
    (hdraw : (splitWriters.next ⟨random, 0⟩).map (·.name) = some "p1") :
    SteadyStep splitRuntime splitPolicy splitWriters s (queries random sql) := by
  rintro g frame io command' used hg ⟨⟩ hcmd -
  rw [hg] at hview
  injection hview with hview
  injection hview with hstate hview
  injection hview with hat hcommands
  have hrw : splitPolicy.IsReadWrite (some "p1") :=
    ⟨⟨"p1", "p1:5432", none, .readWrite, "dn", 1⟩, rfl, rfl, rfl⟩
  obtain rfl : command = command' := by
    have heq := hcommands.symm.trans hcmd
    injection heq
  refine ⟨?_, ?_, ?_, ?_⟩
  · intro _ _
    rw [hat]
    exact hrw
  · exact fun _ => hread
  · intro _ _
    exact hdraw.symm ▸ hrw
  · intro _ _
    exact hdraw.trans hat.symm

theorem insert_at_one_endpoint :
    routes [queries 0 "begin", queries 0 "insert into t values (1)", queries 0 "commit"] =
      [some [some "p1"], some [some "p1", some "p1"], some [some "p1", some "p1", some "p1"]] ∧
    ∀ e ∈ entries splitRuntime.routedStep splitStart
        [queries 0 "begin", queries 0 "insert into t values (1)", queries 0 "commit"],
      ∀ used, e.out = some used → splitPolicy.OneEndpoint used := by
  refine ⟨by decide, fun e he used hused => ?_⟩
  refine transaction_at_one_endpoint splitRuntime splitPolicy _ splitWriters rfl rfl _ _ ?_ he hused
  refine meets_cons (steadyStep_queries .active .begin ?_ rfl ?_) ?_
  · decide
  · decide
  refine meets_cons (steadyStep_queries .active (.query "insert into t values (1)") ?_ ?_ ?_) ?_
  · decide
  · decide
  · decide
  refine meets_cons (steadyStep_queries .idle .commit ?_ rfl ?_) meets_nil
  · decide
  · decide

/-- **A transaction on a replica**, after a read; its COMMIT is drawn to a read-write endpoint. -/
theorem transaction_on_replica : CoreRoutePolicy.build (some "read_write_splitting") splitEndpoints startsWithSelect =
      .ok splitPolicy ∧ routes [queries 0 "select 1", queries 0 "begin", queries 0 "insert into t values (1)",
        queries 0 "commit"] =
      [none, some [some "q"], some [some "q", some "q"], some [some "q", some "q", some "p1"]] ∧
    ¬splitPolicy.OneEndpoint [some "q"] ∧
    routes [queries 0 "begin", queries 1 "insert into t values (1)", queries 1 "commit"] =
      [some [some "p1"], some [some "p1", some "p1"], some [some "p1", some "p1", some "p2"]] ∧
    ¬splitPolicy.OneEndpoint [some "p1", some "p1", some "p2"] := by
  refine ⟨rfl, by decide, ?_, by decide, ?_⟩
  · intro h
    obtain ⟨⟨endpoint, hfound, hrole, hname⟩, _⟩ := h (some "q") (List.mem_singleton.mpr rfl)
    have hq : splitPolicy.endpointByName "q" = .ok ⟨"q", "q:5432", none, .read, "dn", 1⟩ := rfl
    injection hname with hname
    rw [← hname, hq] at hfound
    injection hfound with hfound
    rw [← hfound] at hrole
    cases hrole
  · intro h
    have heq := (h (some "p1") (by simp)).2 (some "p2") (by simp)
    exact absurd heq (by decide)

end DataNexus.Engine
