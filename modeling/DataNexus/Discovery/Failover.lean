/-
  Failover: the monitor loop and the dispatcher, step by step.

  The monitor loop sends new lists through a channel; the dispatcher takes what has been sent when the next statement
  comes.  If a round panics, nothing is sent any more.

  1. **A round** puts a replica into the read-write list only if a primary is reported down
     (`readwrite_of_changeReadWrite`, `readwrite_of_changeRead`).

  2. **Building the balancers** succeeds as the first time (`getEndpointGroup_isSome`, `buildRules_isSome`), and what is
     dispatched with the role `ReadWrite` goes to the list they were built for (`mem_readwrite_of_get`).

  `failover_sound` carries these along every run whose rounds meet `Careful`.
-/
import DataNexus.Discovery.Dispatch
import DataNexus.Lib.Fallible
import DataNexus.Lib.Run

namespace DataNexus.Discovery

open DataNexus.Run

/-! ## The system -/

/-- The monitor loop, the channel and the dispatcher. -/
structure System where
  /-- What the loop knew at the end of its last round. -/
  report : Report
  /-- The thread of the loop has not panicked. -/
  alive : Bool
  /-- What has been sent and not been taken. -/
  waiting : List ReadWriteEndpoint
  dispatcher : ReadWriteSplittingDynamic
  /-- History: what was sent last, or the configuration. -/
  published : ReadWriteEndpoint

inductive Act where
  /-- A round, with the reports that came in. -/
  | round (responses : List MonitorResponse)
  /-- A statement is dispatched; `draw` is the balancer's choice. -/
  | dispatch (input : RouteInput) (draw : Nat)

inductive Answer where
  | rounded
  /-- The round panicked, or the thread is gone. -/
  | dead
  | dispatched (d : Dispatched)

def step (env : Env) (mha : MasterHighAvailability) (rwEndpoint : ReadWriteEndpoint) (s : System) :
    Act → Answer × System
  | .round responses =>
    if s.alive then
      match s.report.round mha rwEndpoint responses with
      | none => (.dead, { s with alive := false })
      | some (sent, report) =>
        (.rounded, { s with
          report := report
          waiting := s.waiting ++ sent.toList
          published := sent.getD s.published })
    else (.dead, s)
  | .dispatch input draw =>
    let r := s.dispatcher.dispatch env s.waiting input draw
    (.dispatched r.1, { s with dispatcher := r.2, waiting := [] })

def System.start (rwEndpoint : ReadWriteEndpoint) (dispatcher : ReadWriteSplittingDynamic) : System :=
  ⟨Report.start rwEndpoint, true, [], dispatcher, rwEndpoint⟩

/-- The endpoint is reported not to accept connections, or not to answer pings. -/
def Report.unreachable (report : Report) (primary : Endpoint) : Prop :=
  (report.connect.bind fun response => response.readwrite.lookup primary.addr) = some .disconnected ∨
    (report.ping.bind fun response => response.readwrite.lookup primary.addr) = some .pingNotOk

def Report.isMaster (report : Report) (e : Endpoint) : Prop :=
  (report.readOnly.bind fun response => response.roles.lookup e.addr) = some .master

/-- What the published lists should be: the configured primaries, or a replica that reports to be the master. -/
def Sound (rwEndpoint : ReadWriteEndpoint) (report : Report) (published : ReadWriteEndpoint) : Prop :=
  published.readwrite ≠ [] ∧
    (published.readwrite = rwEndpoint.readwrite ∨
      ∃ r ∈ rwEndpoint.read, published.readwrite = [r] ∧ report.isMaster r ∧
        ∀ primary ∈ rwEndpoint.readwrite, report.unreachable primary)

/-- A report is about configured primaries, each once. -/
def ForConfigured (rwEndpoint : ReadWriteEndpoint) : MonitorResponse → Prop
  | .connect response => (response.readwrite.map (·.1)).Nodup ∧
      ∀ entry ∈ response.readwrite, ∃ primary ∈ rwEndpoint.readwrite, primary.addr = entry.1
  | .ping response => (response.readwrite.map (·.1)).Nodup ∧
      ∀ entry ∈ response.readwrite, ∃ primary ∈ rwEndpoint.readwrite, primary.addr = entry.1
  | .replicationLag _ => True
  | .readOnly _ => True

/-- The condition on a round: when a primary is down and a replica reports to be the master, all primaries are
    down, and whatever node groups there are name that replica as their primary. -/
def Careful (mha : MasterHighAvailability) (rwEndpoint : ReadWriteEndpoint) (nodeGroupConfig : Option NodeGroup)
    (s : System) : Act → Prop
  | .round responses =>
    (∀ response ∈ responses, ForConfigured rwEndpoint response) ∧
      ((∃ primary ∈ rwEndpoint.readwrite, (responses.foldl Report.receive s.report).unreachable primary) →
        mha.readOnlyEnabled = true →
        ∀ r ∈ rwEndpoint.read, (responses.foldl Report.receive s.report).isMaster r →
          (∀ primary ∈ rwEndpoint.readwrite, (responses.foldl Report.receive s.report).unreachable primary) ∧
          ∀ group, nodeGroupConfig = some group → ∀ member ∈ group.members, member.readwrite = r.name)
  | .dispatch _ _ => True

/-! ## A round -/

variable {mha : MasterHighAvailability} {rw curr curr' seen : ReadWriteEndpoint} {β : Type} {member : Member}
  {nodegroup : Option NodeGroup} {groups' : List (String × ReadWriteEndpoint)} {env : Env}
  {d : ReadWriteSplittingDynamic} {input : RouteInput} {s : System}

theorem readwrite_of_changeRead {connect : Option ConnectMonitorResponse} {ping : Option PingMonitorResponse}
    {lag : Option ReplicationLagMonitorResponse}
    (h : changeReadIfNecessary mha rw connect ping lag curr = some curr') : curr'.readwrite = curr.readwrite := by
  have hremove : ∀ {addr : String} {a b : ReadWriteEndpoint}, removeRead rw addr a = some b →
      b.readwrite = a.readwrite := by
    intro addr a b h
    obtain ⟨i, -, h⟩ := Option.bind_eq_some_iff.mp h
    obtain ⟨read, -, h⟩ := Option.bind_eq_some_iff.mp h
    cases h
    rfl
  have hlag : ∀ {a b : ReadWriteEndpoint}, changeReadByLag mha rw lag a = some b → b.readwrite = a.readwrite := by
    intro a b h
    unfold changeReadByLag at h
    split at h
    · split at h
      · refine Fallible.foldlM_invariant (fun c => c.readwrite = a.readwrite) ?_ rfl h
        intro entry _ c d hc hd
        unfold changeReadByLagEntry at hd
        split at hd
        · split at hd
          · cases hd
            exact hc
          · cases hd
            exact hc
        · exact (hremove hd).trans hc
      · cases h
        rfl
    · cases h
      rfl
  obtain ⟨response, -, h⟩ := Option.bind_eq_some_iff.mp h
  refine Fallible.foldlM_invariant (fun c => c.readwrite = curr.readwrite) ?_ rfl h
  intro entry _ c d hc hd
  unfold changeReadByConnect at hd
  split at hd
  · split at hd
    · refine Fallible.foldlM_invariant (fun x => x.readwrite = curr.readwrite) ?_ hc hd
      intro entry' _ x y hx hy
      unfold changeReadByPing at hy
      split at hy
      · exact (hlag hy).trans hx
      · exact (hremove hy).trans hx
    · cases hd
      exact hc
  · exact (hremove hd).trans hc

/-- What the other part of the round makes of the lists: `curr` itself, or a replica that reports to be the master
    instead of the primaries. -/
def Promoted (mha : MasterHighAvailability) (readOnly : Option ReadOnlyMonitorResponse)
    (curr curr' : ReadWriteEndpoint) : Prop :=
  curr'.read = curr.read ∧ ∃ r ∈ curr.read, curr'.readwrite = [r] ∧ mha.readOnlyEnabled = true ∧
    (readOnly.bind fun response => response.roles.lookup r.addr) = some .master

theorem changeSlaveToMaster_cases {readOnly : Option ReadOnlyMonitorResponse} {a b : ReadWriteEndpoint}
    (ha : a = curr ∨ Promoted mha readOnly curr a) (h : changeSlaveToMasterByReadOnly mha readOnly a = some b) :
    b = curr ∨ Promoted mha readOnly curr b := by
  have hread : a.read = curr.read := by
    rcases ha with rfl | ha
    · rfl
    · exact ha.1
  refine Fallible.foldlM_invariant (fun c => c = curr ∨ Promoted mha readOnly curr c) ?_ ha h
  intro r hr c d hc hd
  unfold promote at hd
  split at hd
  · rename_i henabled
    split at hd
    · rename_i response
      split at hd
      · cases hd
      · rename_i hmaster
        cases hd
        have hcread : c.read = curr.read := by
          rcases hc with rfl | hc
          · rfl
          · exact hc.1
        exact .inr ⟨hcread, r, hread ▸ hr, rfl, henabled, hmaster⟩
      · cases hd
        exact hc
    · cases hd
      exact hc
  · cases hd
    exact hc

/-- **A round.**  A replica is put in the place of the primaries only if one of these is reported down. -/
theorem changeReadWrite_cases {connect : Option ConnectMonitorResponse} {ping : Option PingMonitorResponse}
    {readOnly : Option ReadOnlyMonitorResponse}
    (h : changeReadWriteIfNecessary mha connect ping readOnly curr = some curr') :
    curr' = curr ∨ Promoted mha readOnly curr curr' ∧
      ((∃ response, connect = some response ∧ ∃ addr, (addr, .disconnected) ∈ response.readwrite) ∨
        ∃ response, ping = some response ∧ ∃ addr, (addr, .pingNotOk) ∈ response.readwrite) := by
  obtain ⟨response, hconnect, h⟩ := Option.bind_eq_some_iff.mp h
  refine Fallible.foldlM_invariant (fun c => c = curr ∨ Promoted mha readOnly curr c ∧
    ((∃ response, connect = some response ∧ ∃ addr, (addr, .disconnected) ∈ response.readwrite) ∨
      ∃ response, ping = some response ∧ ∃ addr, (addr, .pingNotOk) ∈ response.readwrite)) ?_ (.inl rfl) h
  rintro ⟨addr, status⟩ hentry c d hc hd
  have hc' : c = curr ∨ Promoted mha readOnly curr c := hc.imp_right And.left
  cases status with
  | disconnected =>
    rcases changeSlaveToMaster_cases hc' hd with hd | hd
    · exact .inl hd
    · exact .inr ⟨hd, .inl ⟨response, hconnect, addr, hentry⟩⟩
  | connected =>
    obtain ⟨pings, hping, hd⟩ := Option.bind_eq_some_iff.mp hd
    refine Fallible.foldlM_invariant (fun c => c = curr ∨ Promoted mha readOnly curr c ∧
      ((∃ response, connect = some response ∧ ∃ addr, (addr, .disconnected) ∈ response.readwrite) ∨
        ∃ response, ping = some response ∧ ∃ addr, (addr, .pingNotOk) ∈ response.readwrite)) ?_ hc hd
    rintro ⟨paddr, pstatus⟩ hpentry x y hx hy
    cases pstatus with
    | pingOk =>
      cases hy
      exact hx
    | pingNotOk =>
      have hy' : (if x.read.length > 0 then changeSlaveToMasterByReadOnly mha readOnly x else some x) = some y := hy
      split at hy'
      · rcases changeSlaveToMaster_cases (hx.imp_right And.left) hy' with hy' | hy'
        · exact .inl hy'
        · exact .inr ⟨hy', .inr ⟨pings, hping, paddr, hpentry⟩⟩
      · cases hy'
        exact hx

/-! ## Building the balancers -/

theorem lookup_insertEntry (key : String) (value : β) (entries : List (String × β)) (x : String) :
    (insertEntry key value entries).lookup x = if x = key then some value else entries.lookup x := by
  induction entries with
  | nil =>
    show List.lookup x [(key, value)] = _
    by_cases hx : x = key
    · simp [hx]
    · rw [if_neg hx, List.lookup_cons, beq_eq_false_iff_ne.mpr hx, List.lookup_nil]
  | cons entry entries ih =>
    unfold insertEntry
    by_cases hk : entry.1 = key
    · rw [if_pos hk, List.lookup_cons, List.lookup_cons, hk]
      by_cases hx : x = key
      · simp [hx]
      · rw [if_neg hx, beq_eq_false_iff_ne.mpr hx]
    · rw [if_neg hk, List.lookup_cons, List.lookup_cons, ih]
      by_cases hx : x = entry.1
      · simp [hx, hk]
      · rw [beq_eq_false_iff_ne.mpr hx]

theorem insertEntry_ne_nil (key : String) (value : β) (entries : List (String × β)) :
    insertEntry key value entries ≠ [] := by
  cases entries with
  | nil => simp [insertEntry]
  | cons entry entries =>
    unfold insertEntry
    split <;> simp

theorem memberEndpoint_isOk :
    (∃ group, memberEndpoint rw member = .ok group) ↔ ∃ e ∈ rw.readwrite, e.name = member.readwrite := by
  unfold memberEndpoint
  cases hfind : rw.readwrite.find? (·.name == member.readwrite) with
  | none =>
    simp only [reduceCtorEq, exists_false, false_iff]
    rintro ⟨e, he, hname⟩
    exact List.find?_eq_none.mp hfind e he (by simpa using hname)
  | some e =>
    have hfound := List.find?_some hfind
    exact ⟨fun _ => ⟨e, List.mem_of_find?_eq_some hfind, by simpa using hfound⟩, fun _ => ⟨_, rfl⟩⟩

theorem readwrite_of_memberEndpoint {group : ReadWriteEndpoint} (h : memberEndpoint rw member = .ok group) :
    group.readwrite ⊆ rw.readwrite := by
  unfold memberEndpoint at h
  cases hfind : rw.readwrite.find? (·.name == member.readwrite) with
  | none =>
    rw [hfind] at h
    cases h
  | some e =>
    rw [hfind] at h
    cases h
    intro x hx
    obtain rfl := List.mem_singleton.mp hx
    exact List.mem_of_find?_eq_some hfind

/-- What is known of the groups that were found: the names of the members, each with endpoints to write to that are
    on the list. -/
structure GroupsOf (members : List Member) (rw : ReadWriteEndpoint)
    (groups : List (String × ReadWriteEndpoint)) : Prop where
  isEmpty : groups = [] ↔ members = []
  lookup : ∀ name, (groups.lookup name).isSome = true ↔ ∃ member ∈ members, member.name = name
  readwrite : ∀ name group, groups.lookup name = some group → group.readwrite ⊆ rw.readwrite

def membersOf (nodegroup : Option NodeGroup) : List Member := (nodegroup.map (·.members)).getD []

theorem getEndpointGroup_eq (nodegroup : Option NodeGroup) (rw : ReadWriteEndpoint) :
    getEndpointGroup nodegroup rw = (membersOf nodegroup).foldlM (addMember rw) [] := by
  cases nodegroup <;> rfl

theorem groupsOf_getEndpointGroup {groups : List (String × ReadWriteEndpoint)}
    (h : getEndpointGroup nodegroup rw = .ok groups) : GroupsOf (membersOf nodegroup) rw groups := by
  rw [getEndpointGroup_eq] at h
  -- the loop, from groups that were found for the members before
  have hloop : ∀ (members before : List Member) (start : List (String × ReadWriteEndpoint)),
      GroupsOf before rw start →
      members.foldlM (addMember rw) start = Except.ok groups →
      GroupsOf (before ++ members) rw groups := by
    intro members
    induction members with
    | nil =>
      intro before start hstart h
      cases h
      rwa [List.append_nil]
    | cons member members ih =>
      intro before start hstart h
      rw [List.foldlM_cons] at h
      obtain ⟨next, hnext, hrest⟩ := Fallible.bind_eq_ok.mp h
      obtain ⟨group, hgroup, hnext⟩ := Fallible.bind_eq_ok.mp hnext
      cases hnext
      have hmore : GroupsOf (before ++ [member]) rw (insertEntry member.name group start) := by
        refine ⟨⟨fun h => absurd h (insertEntry_ne_nil _ _ _), by simp⟩, ?_, ?_⟩
        · intro name
          rw [lookup_insertEntry]
          by_cases hname : name = member.name
          · simp [hname]
          · rw [if_neg hname, hstart.lookup]
            simp [eq_comm, hname]
        · intro name group' hlookup
          rw [lookup_insertEntry] at hlookup
          split at hlookup
          · cases hlookup
            exact readwrite_of_memberEndpoint hgroup
          · exact hstart.readwrite name group' hlookup
      have := ih (before ++ [member]) _ hmore hrest
      rwa [List.append_assoc] at this
  exact hloop _ [] [] ⟨by simp, by simp, by simp⟩ h

/-- **Building.**  The groups are found when every member's primary is on the read-write list. -/
theorem getEndpointGroup_isOk : (∃ groups, getEndpointGroup nodegroup rw = .ok groups) ↔
      ∀ member ∈ membersOf nodegroup, ∃ e ∈ rw.readwrite, e.name = member.readwrite := by
  rw [getEndpointGroup_eq]
  generalize ([] : List (String × ReadWriteEndpoint)) = start
  induction membersOf nodegroup generalizing start with
  | nil => exact ⟨fun _ => by simp, fun _ => ⟨start, rfl⟩⟩
  | cons member members ih =>
    rw [List.forall_mem_cons, ← memberEndpoint_isOk, List.foldlM_cons]
    constructor
    · rintro ⟨groups, h⟩
      obtain ⟨next, hnext, hrest⟩ := Fallible.bind_eq_ok.mp h
      obtain ⟨group, hgroup, -⟩ := Fallible.bind_eq_ok.mp hnext
      exact ⟨⟨group, hgroup⟩, (ih next).mp ⟨groups, hrest⟩⟩
    · rintro ⟨⟨group, hgroup⟩, hmembers⟩
      obtain ⟨groups, hrest⟩ := (ih (insertEntry member.name group start)).mpr hmembers
      refine ⟨groups, ?_⟩
      rw [show addMember rw start member = .ok (insertEntry member.name group start) by
        unfold addMember
        rw [hgroup]
        rfl]
      exact hrest

theorem buildBalance_isOk {rule : RegexRule} {groups : List (String × ReadWriteEndpoint)}
    (rw' : ReadWriteEndpoint) (hempty : groups = [] ↔ groups' = [])
    (hlookup : ∀ name, (groups.lookup name).isSome = (groups'.lookup name).isSome)
    (h : ∃ balances, RegexRuleMatchInner.buildBalance rule groups rw = .ok balances) :
    ∃ balances, RegexRuleMatchInner.buildBalance rule groups' rw' = .ok balances := by
  -- the loop, whatever was built before
  have hloop : ∀ (names : List String) (start start' balances : List (String × BalanceType)),
      names.foldlM (RegexRuleMatchInner.addGroup rule groups) start = .ok balances →
      ∃ balances', names.foldlM (RegexRuleMatchInner.addGroup rule groups') start' = .ok balances' := by
    intro names
    induction names with
    | nil => exact fun start start' balances h => ⟨start', rfl⟩
    | cons name names ih =>
      intro start start' balances h
      rw [List.foldlM_cons] at h ⊢
      obtain ⟨next, hnext, hrest⟩ := Fallible.bind_eq_ok.mp h
      have hname := hlookup name
      unfold RegexRuleMatchInner.addGroup at hnext
      cases hl : groups.lookup name with
      | none =>
        rw [hl] at hnext
        cases hnext
      | some group =>
        rw [hl] at hname
        obtain ⟨group', hl'⟩ := Option.isSome_iff_exists.mp hname.symm
        have hfirst : RegexRuleMatchInner.addGroup rule groups' start' name = .ok (insertEntry name
            (RegexRuleMatchInner.buildBalanceInner rule.algorithmName rule.target group') start') := by
          unfold RegexRuleMatchInner.addGroup
          rw [hl']
        rw [hfirst]
        exact ih next _ balances hrest
  unfold RegexRuleMatchInner.buildBalance at h ⊢
  have hsame : groups.isEmpty = groups'.isEmpty := by
    rw [Bool.eq_iff_iff, List.isEmpty_iff, List.isEmpty_iff]
    exact hempty
  rw [← hsame]
  split at h
  · rename_i hglobal
    rw [if_pos hglobal]
    exact ⟨_, rfl⟩
  · rename_i hnamed
    rw [if_neg hnamed]
    obtain ⟨balances, h⟩ := h
    exact hloop _ [] [] balances h

theorem regexNew_isSome {rule : RegexRule} {groups : List (String × ReadWriteEndpoint)}
    (rw' : ReadWriteEndpoint) (hempty : groups = [] ↔ groups' = [])
    (hlookup : ∀ name, (groups.lookup name).isSome = (groups'.lookup name).isSome)
    (h : ∃ inner, RegexRuleMatchInner.new env rule groups rw = some inner) :
    ∃ inner, RegexRuleMatchInner.new env rule groups' rw' = some inner := by
  obtain ⟨inner, h⟩ := h
  obtain ⟨balance, hbalance, h⟩ := Option.bind_eq_some_iff.mp h
  obtain ⟨regexs, hregexs, h⟩ := Option.bind_eq_some_iff.mp h
  have hok := Fallible.toOption_eq_some.mp hbalance
  obtain ⟨balance', hbalance'⟩ := buildBalance_isOk rw' hempty hlookup ⟨balance, hok⟩
  refine ⟨⟨rule, regexs, balance'⟩, ?_⟩
  unfold RegexRuleMatchInner.new
  rw [hbalance', hregexs]
  rfl

theorem buildRules_isSome {rules : List ReadWriteSplittingRule} {groups : List (String × ReadWriteEndpoint)}
    (rw' : ReadWriteEndpoint) {target : TargetRole} (hempty : groups = [] ↔ groups' = [])
    (hlookup : ∀ name, (groups.lookup name).isSome = (groups'.lookup name).isSome)
    (h : ∃ inner, buildRules env rules groups rw target = some inner) :
    ∃ inner, buildRules env rules groups' rw' target = some inner := by
  have hloop : ∀ (regexRules : List RegexRule) (instances : List RegexRuleMatchInner),
      regexRules.mapM (fun rule => RegexRuleMatchInner.new env rule groups rw) = some instances →
      ∃ instances', regexRules.mapM (fun rule => RegexRuleMatchInner.new env rule groups' rw') =
        some instances' := by
    intro regexRules
    induction regexRules with
    | nil => exact fun instances h => ⟨[], rfl⟩
    | cons rule regexRules ih =>
      intro instances h
      rw [List.mapM_cons] at h ⊢
      obtain ⟨first, hfirst, h⟩ := Option.bind_eq_some_iff.mp h
      obtain ⟨rest, hrest, -⟩ := Option.bind_eq_some_iff.mp h
      obtain ⟨first', hfirst'⟩ := regexNew_isSome rw' hempty hlookup ⟨first, hfirst⟩
      obtain ⟨rest', hrest'⟩ := ih rest hrest
      exact ⟨first' :: rest', by rw [hfirst', hrest']; rfl⟩
  obtain ⟨inner, h⟩ := h
  obtain ⟨instances, hinstances, -⟩ := Option.bind_eq_some_iff.mp h
  obtain ⟨instances', hinstances'⟩ := hloop _ instances hinstances
  unfold buildRules
  rw [hinstances']
  exact ⟨_, rfl⟩

/-! ## Writing -/

structure BuiltFor (env : Env) (d : ReadWriteSplittingDynamic) (seen : ReadWriteEndpoint) : Prop where
  defaultBalance : d.rulesMatch.defaultBalance = buildDefaultBalance d.rulesMatch.defaultTarget seen
  defaultTransBalance : d.rulesMatch.defaultTransBalance = buildDefaultBalance .readWrite seen
  inner : ∃ groups, getEndpointGroup d.nodeGroupConfig seen = .ok groups ∧
    buildRules env d.rules groups seen d.rulesMatch.defaultTarget = some d.rulesMatch.inner

theorem builtFor_build {rules : List ReadWriteSplittingRule} {target : TargetRole} {nodeGroupConfig : Option NodeGroup}
    (h : ReadWriteSplittingDynamic.build env rules target nodeGroupConfig rw = some d) :
    BuiltFor env d rw ∧ d.nodeGroupConfig = nodeGroupConfig := by
  obtain ⟨groups, hgroups, h⟩ := Option.bind_eq_some_iff.mp h
  obtain ⟨rulesMatch, hrules, h⟩ := Option.bind_eq_some_iff.mp h
  obtain ⟨inner, hinner, hrules⟩ := Option.bind_eq_some_iff.mp hrules
  cases h
  cases hrules
  exact ⟨⟨rfl, rfl, groups, Fallible.toOption_eq_some.mp hgroups, hinner⟩, rfl⟩

/-- **Building.**  New lists on which every member's primary is found are taken over without a panic. -/
theorem builtFor_rebuild (hbuilt : BuiltFor env d seen) (rw : ReadWriteEndpoint)
    (hmembers : ∀ member ∈ membersOf d.nodeGroupConfig, ∃ e ∈ rw.readwrite, e.name = member.readwrite) :
    (d.rebuild env rw).2 = true ∧ BuiltFor env (d.rebuild env rw).1 rw ∧
      (d.rebuild env rw).1.nodeGroupConfig = d.nodeGroupConfig := by
  obtain ⟨groups, hgroups, hinner⟩ := hbuilt.inner
  obtain ⟨groups', hgroups'⟩ := getEndpointGroup_isOk.mpr hmembers
  have hof := groupsOf_getEndpointGroup hgroups
  have hof' := groupsOf_getEndpointGroup hgroups'
  have hempty : groups = [] ↔ groups' = [] := hof.isEmpty.trans hof'.isEmpty.symm
  have hlookup : ∀ name, (groups.lookup name).isSome = (groups'.lookup name).isSome := by
    intro name
    rw [Bool.eq_iff_iff, hof.lookup, hof'.lookup]
  obtain ⟨inner', hinner'⟩ := buildRules_isSome rw hempty hlookup ⟨_, hinner⟩
  have hrebuild : d.rebuild env rw = ({ d with rulesMatch := { d.rulesMatch with
      defaultBalance := buildDefaultBalance d.rulesMatch.defaultTarget rw
      defaultTransBalance := buildDefaultBalance .readWrite rw
      inner := inner' } }, true) := by
    unfold ReadWriteSplittingDynamic.rebuild
    rw [hgroups']
    simp only [Except.toOption, Option.bind_eq_bind, Option.bind_some]
    rw [hinner']
  rw [hrebuild]
  exact ⟨rfl, ⟨rfl, rfl, groups', hgroups', hinner'⟩, rfl⟩

theorem items_of_regexNew {rule : RegexRule} {groups : List (String × ReadWriteEndpoint)}
    {members : List Member} (hof : GroupsOf members rw groups) {inner : RegexRuleMatchInner}
    (h : RegexRuleMatchInner.new env rule groups rw = some inner) (htarget : rule.target = .readWrite)
    {name : String} {balance : BalanceType} (hlookup : inner.balance.lookup name = some balance) :
    balance.items ⊆ rw.readwrite := by
  obtain ⟨balances, hbalances, h⟩ := Option.bind_eq_some_iff.mp h
  obtain ⟨regexs, -, h⟩ := Option.bind_eq_some_iff.mp h
  cases h
  have hbuild := Fallible.toOption_eq_some.mp hbalances
  have hinner : ∀ algorithmName group, group.readwrite ⊆ rw.readwrite →
      (RegexRuleMatchInner.buildBalanceInner algorithmName rule.target group).items ⊆ rw.readwrite := by
    intro algorithmName group hsub e he
    rw [htarget] at he
    exact hsub (mem_items_balanceOf he)
  unfold RegexRuleMatchInner.buildBalance at hbuild
  split at hbuild
  · cases hbuild
    rw [List.lookup_cons] at hlookup
    split at hlookup
    · cases hlookup
      exact hinner _ rw fun e he => he
    · cases hlookup
  · have hloop : ∀ (names : List String) (start : List (String × BalanceType)),
        (∀ name balance, start.lookup name = some balance → balance.items ⊆ rw.readwrite) →
        names.foldlM (RegexRuleMatchInner.addGroup rule groups) start = .ok balances →
        ∀ name balance, balances.lookup name = some balance → balance.items ⊆ rw.readwrite := by
      intro names
      induction names with
      | nil =>
        intro start hstart h
        cases h
        exact hstart
      | cons group names ih =>
        intro start hstart h
        rw [List.foldlM_cons] at h
        obtain ⟨next, hnext, hrest⟩ := Fallible.bind_eq_ok.mp h
        refine ih next ?_ hrest
        unfold RegexRuleMatchInner.addGroup at hnext
        split at hnext
        · rename_i endpoints hendpoints
          cases hnext
          intro name balance hlookup
          rw [lookup_insertEntry] at hlookup
          split at hlookup
          · cases hlookup
            exact hinner _ endpoints (hof.readwrite group endpoints hendpoints)
          · exact hstart name balance hlookup
        · cases hnext
    exact hloop _ [] (by simp) hbuild name balance hlookup

theorem items_of_regexGet {rule : RegexRule} {groups : List (String × ReadWriteEndpoint)}
    {members : List Member} (hof : GroupsOf members rw groups) {inner : RegexRuleMatchInner}
    (hnew : RegexRuleMatchInner.new env rule groups rw = some inner) {balance : BalanceType}
    (h : inner.get input = some (balance, .readWrite)) : balance.items ⊆ rw.readwrite := by
  have hrule : inner.rule = rule := by
    obtain ⟨balances, -, hnew⟩ := Option.bind_eq_some_iff.mp hnew
    obtain ⟨regexs, -, hnew⟩ := Option.bind_eq_some_iff.mp hnew
    cases hnew
    rfl
  have hpicked : ∃ name, (inner.balance.lookup name).map (·, inner.rule.target) = some (balance, .readWrite) := by
    cases input with
    | shardingStatement sql nodeGroup => exact ⟨nodeGroup, h⟩
    | shardingTransaction sql nodeGroup => exact ⟨nodeGroup, h⟩
    | statement sql => exact ⟨"GLOBAL", h⟩
    | transaction sql => exact ⟨"GLOBAL", h⟩
    | sharding endpoint => exact ⟨"GLOBAL", h⟩
    | none => exact ⟨"GLOBAL", h⟩
  obtain ⟨name, hpicked⟩ := hpicked
  obtain ⟨b, hlookup, hb⟩ := Option.map_eq_some_iff.mp hpicked
  obtain ⟨rfl, htarget⟩ := Prod.mk.inj hb
  exact items_of_regexNew hof hnew (hrule ▸ htarget) hlookup

theorem items_of_genericGet {rule : GenericRule} {target : TargetRole} {balance : BalanceType}
    (h : (GenericRuleMatchInner.new rule target rw).get env input = some (balance, .readWrite)) :
    balance.items ⊆ rw.readwrite := by
  have hwrite : (GenericRuleMatchInner.buildBalance .readWrite rule.algorithmName rw).items ⊆ rw.readwrite :=
    fun e he => mem_items_balanceOf he
  have hdefault : ∀ {b : BalanceType}, some ((GenericRuleMatchInner.new rule target rw).defaultBalance, target) =
      some (b, TargetRole.readWrite) → b.items ⊆ rw.readwrite := by
    intro b hb
    obtain ⟨rfl, rfl⟩ := Prod.mk.inj (Option.some.inj hb)
    exact hwrite
  cases input with
  | statement sql =>
    unfold GenericRuleMatchInner.get at h
    simp only at h
    split at h
    · split at h
      · cases h
      · split at h
        · cases h
          exact hwrite
        · exact hdefault h
    · exact hdefault h
  | transaction sql =>
    cases h
    exact hwrite
  | none => exact hdefault h
  | sharding endpoint => cases h
  | shardingStatement sql nodeGroup => cases h
  | shardingTransaction sql nodeGroup => cases h

theorem firstMatch_cases {fallback b : BalanceType × TargetRole} {rules : List RulesMatchInner}
    (h : firstMatch env input fallback rules = some b) :
    b = fallback ∨ ∃ rule ∈ rules, rule.get env input = some b := by
  induction rules with
  | nil =>
    cases h
    exact .inl rfl
  | cons rule rules ih =>
    obtain ⟨matched, -, h⟩ := Option.bind_eq_some_iff.mp h
    cases matched with
    | true => exact .inr ⟨rule, List.mem_cons_self, h⟩
    | false =>
      rcases ih h with h | ⟨rule', hmem, h⟩
      · exact .inl h
      · exact .inr ⟨rule', List.mem_cons_of_mem rule hmem, h⟩

/-- **Writing.**  A balancer that is picked for writing holds endpoints of the read-write list only. -/
theorem mem_readwrite_of_get (hbuilt : BuiltFor env d seen) {balance : BalanceType}
    (h : d.rulesMatch.get env input = some (balance, .readWrite)) : balance.items ⊆ seen.readwrite := by
  have hwrite : (buildDefaultBalance .readWrite seen).items ⊆ seen.readwrite := fun e he => mem_items_balanceOf he
  have hfirst : ∀ input, firstMatch env input (d.rulesMatch.defaultBalance, d.rulesMatch.defaultTarget)
      d.rulesMatch.inner = some (balance, .readWrite) → balance.items ⊆ seen.readwrite := by
    intro input h
    rcases firstMatch_cases h with h | ⟨rule, hrule, h⟩
    · -- no rule matched
      obtain ⟨hbalance, hrole⟩ := Prod.mk.inj h
      rw [hbalance, hbuilt.defaultBalance, ← hrole]
      exact hwrite
    · obtain ⟨groups, hgroups, hinner⟩ := hbuilt.inner
      obtain ⟨instances, hinstances, hall⟩ := Option.bind_eq_some_iff.mp hinner
      rw [← Option.some.inj hall] at hrule
      rcases List.mem_append.mp hrule with hrule | hrule
      · obtain ⟨inner, hin, rfl⟩ := List.mem_map.mp hrule
        obtain ⟨regexRule, -, hnew⟩ := Fallible.exists_of_mem_mapM hinstances hin
        exact items_of_regexGet (groupsOf_getEndpointGroup hgroups) hnew h
      · obtain ⟨inner, hin, rfl⟩ := List.mem_map.mp hrule
        obtain ⟨genericRule, -, rfl⟩ := List.mem_map.mp hin
        exact items_of_genericGet h
  cases input with
  | transaction sql =>
    cases h
    rw [hbuilt.defaultTransBalance]
    exact hwrite
  | statement sql => exact hfirst _ h
  | sharding endpoint => exact hfirst _ h
  | shardingStatement sql nodeGroup => exact hfirst _ h
  | shardingTransaction sql nodeGroup => exact hfirst _ h
  | none => exact hfirst _ h

/-! ## Runs -/

/-- What a step owes: lists as they should be, balancers without a panic, writes to the published list. -/
def Routed (rwEndpoint : ReadWriteEndpoint) (e : Entry System Act Answer) : Prop :=
  Sound rwEndpoint e.post.report e.post.published ∧
    e.out ≠ .dispatched .rebuildPanicked ∧
    ∀ endpoint, e.out = .dispatched (.plan (.single endpoint .readWrite)) → endpoint ∈ e.pre.published.readwrite

structure Kept (env : Env) (rw : ReadWriteEndpoint) (nodeGroupConfig : Option NodeGroup) (s : System) : Prop where
  configured : rw.readwrite ≠ []
  primaries : ∀ member ∈ membersOf nodeGroupConfig, ∃ e ∈ rw.readwrite, e.name = member.readwrite
  /-- What was sent last is what the last round arrived at. -/
  published : s.published = s.report.pre
  sound : Sound rw s.report s.published
  connect : ∀ response, s.report.connect = some response → ForConfigured rw (.connect response)
  ping : ∀ response, s.report.ping = some response → ForConfigured rw (.ping response)
  config : s.dispatcher.nodeGroupConfig = nodeGroupConfig
  /-- The members' primaries are on the published list. -/
  members : ∀ member ∈ membersOf nodeGroupConfig, ∃ e ∈ s.published.readwrite, e.name = member.readwrite
  /-- The balancers are those of the published lists, or these are waiting. -/
  built : ∃ seen, BuiltFor env s.dispatcher seen ∧
    (s.waiting = [] ∧ seen = s.published ∨ s.waiting.getLast? = some s.published)

theorem kept_start {rules : List ReadWriteSplittingRule} {target : TargetRole} {nodeGroupConfig : Option NodeGroup}
    (hbuild : ReadWriteSplittingDynamic.build env rules target nodeGroupConfig rw = some d)
    (hne : rw.readwrite ≠ []) : Kept env rw nodeGroupConfig (System.start rw d) := by
  obtain ⟨hbuilt, hconfig⟩ := builtFor_build hbuild
  obtain ⟨groups, hgroups, -⟩ := hbuilt.inner
  rw [hconfig] at hgroups
  have hprimaries := getEndpointGroup_isOk.mp ⟨groups, hgroups⟩
  exact ⟨hne, hprimaries, rfl, ⟨hne, .inl rfl⟩, nofun, nofun, hconfig, hprimaries, rw, hbuilt, .inl ⟨rfl, rfl⟩⟩

theorem lookup_of_mem {entries : List (String × β)} (hnodup : (entries.map (·.1)).Nodup) {key : String}
    {value : β} (h : (key, value) ∈ entries) : entries.lookup key = some value := by
  induction entries with
  | nil => cases h
  | cons entry entries ih =>
    rw [List.map_cons, List.nodup_cons] at hnodup
    rw [List.lookup_cons]
    rcases List.mem_cons.mp h with rfl | h
    · simp
    · have hne : key ≠ entry.1 := fun heq => hnodup.1 (heq ▸ List.mem_map_of_mem (f := Prod.fst) h)
      rw [beq_eq_false_iff_ne.mpr hne]
      exact ih hnodup.2 h

theorem pre_foldl_receive (report : Report) (responses : List MonitorResponse) :
    (responses.foldl Report.receive report).pre = report.pre := by
  induction responses generalizing report with
  | nil => rfl
  | cons response responses ih =>
    rw [List.foldl_cons, ih]
    cases response <;> rfl

theorem forConfigured_foldl_receive {responses : List MonitorResponse}
    (hresponses : ∀ response ∈ responses, ForConfigured rw response) {report : Report}
    (hconnect : ∀ response, report.connect = some response → ForConfigured rw (.connect response))
    (hping : ∀ response, report.ping = some response → ForConfigured rw (.ping response)) :
    (∀ response, (responses.foldl Report.receive report).connect = some response →
      ForConfigured rw (.connect response)) ∧
    ∀ response, (responses.foldl Report.receive report).ping = some response → ForConfigured rw (.ping response) := by
  induction responses generalizing report with
  | nil => exact ⟨hconnect, hping⟩
  | cons first responses ih =>
    rw [List.forall_mem_cons] at hresponses
    refine ih hresponses.2 ?_ ?_
    · intro response h
      cases first with
      | connect r =>
        cases h
        exact hresponses.1
      | ping r => exact hconnect response h
      | replicationLag r => exact hconnect response h
      | readOnly r => exact hconnect response h
    · intro response h
      cases first with
      | connect r => exact hping response h
      | ping r =>
        cases h
        exact hresponses.1
      | replicationLag r => exact hping response h
      | readOnly r => exact hping response h

theorem reconcile_careful {report : Report}
    (hconnect : ∀ response, report.connect = some response → ForConfigured rw (.connect response))
    (hping : ∀ response, report.ping = some response → ForConfigured rw (.ping response))
    (h : report.reconcile mha rw = some curr) : curr.readwrite = rw.readwrite ∨ mha.readOnlyEnabled = true ∧
      (∃ primary ∈ rw.readwrite, report.unreachable primary) ∧
      ∃ r ∈ rw.read, curr.readwrite = [r] ∧ report.isMaster r := by
  obtain ⟨promoted, hpromoted, hread⟩ := Option.bind_eq_some_iff.mp h
  rw [readwrite_of_changeRead hread]
  rcases changeReadWrite_cases hpromoted with rfl | ⟨⟨-, r, hr, hlist, henabled, hmaster⟩, hdown⟩
  · exact .inl rfl
  · refine .inr ⟨henabled, ?_, r, hr, hlist, hmaster⟩
    rcases hdown with ⟨response, hresponse, addr, hentry⟩ | ⟨response, hresponse, addr, hentry⟩
    · obtain ⟨hnodup, hkeys⟩ := hconnect response hresponse
      obtain ⟨primary, hprimary, rfl⟩ := hkeys _ hentry
      refine ⟨primary, hprimary, .inl ?_⟩
      rw [hresponse]
      exact lookup_of_mem hnodup hentry
    · obtain ⟨hnodup, hkeys⟩ := hping response hresponse
      obtain ⟨primary, hprimary, rfl⟩ := hkeys _ hentry
      refine ⟨primary, hprimary, .inr ?_⟩
      rw [hresponse]
      exact lookup_of_mem hnodup hentry

/-- **Step lemma, for a round.** -/
theorem kept_round {nodeGroupConfig : Option NodeGroup} (h : Kept env rw nodeGroupConfig s)
    {responses : List MonitorResponse} (hok : Careful mha rw nodeGroupConfig s (.round responses)) :
    Kept env rw nodeGroupConfig (step env mha rw s (.round responses)).2 := by
  obtain ⟨hresponses, hpromotes⟩ := hok
  obtain ⟨hconnect, hping⟩ := forConfigured_foldl_receive hresponses h.connect h.ping
  cases halive : s.alive with
  | false =>
    have hstep : (step env mha rw s (.round responses)).2 = s := by simp [step, halive]
    rw [hstep]
    exact h
  | true =>
    cases hcurr : (responses.foldl Report.receive s.report).reconcile mha rw with
    | none =>
      have hstep : (step env mha rw s (.round responses)).2 = { s with alive := false } := by
        simp [step, halive, Report.round, hcurr]
      rw [hstep]
      exact ⟨h.configured, h.primaries, h.published, h.sound, h.connect, h.ping, h.config, h.members, h.built⟩
    | some curr =>
      obtain ⟨sent, hsent⟩ : ∃ sent, (if (responses.foldl Report.receive s.report).pre ≠ curr then some curr
        else none) = sent := ⟨_, rfl⟩
      have hstep : (step env mha rw s (.round responses)).2 = { s with
          report := { responses.foldl Report.receive s.report with pre := curr }
          waiting := s.waiting ++ sent.toList
          published := sent.getD s.published } := by
        simp [step, halive, Report.round, hcurr, ← hsent]
      rw [hstep]
      -- whether it was sent or is what was sent before: the published lists are `curr`
      rw [pre_foldl_receive, ← h.published] at hsent
      have hpublished : sent.getD s.published = curr := by
        rw [← hsent]
        split
        · rfl
        · rename_i heq
          exact not_not.mp heq
      have hcases := reconcile_careful hconnect hping hcurr
      refine ⟨h.configured, h.primaries, hpublished, ?_, hconnect, hping, h.config, ?_, ?_⟩
      · show Sound rw _ (sent.getD s.published)
        rw [hpublished]
        rcases hcases with hkept | ⟨henabled, hdown, r, hr, hlist, hmaster⟩
        · refine ⟨?_, .inl hkept⟩
          rw [hkept]
          exact h.configured
        · refine ⟨by rw [hlist]; simp, .inr ⟨r, hr, hlist, hmaster, ?_⟩⟩
          exact (hpromotes hdown henabled r hr hmaster).1
      · intro member hmember
        show ∃ e ∈ (sent.getD s.published).readwrite, _
        rw [hpublished]
        rcases hcases with hkept | ⟨henabled, hdown, r, hr, hlist, hmaster⟩
        · rw [hkept]
          exact h.primaries member hmember
        · refine ⟨r, by rw [hlist]; simp, ?_⟩
          cases nodeGroupConfig with
          | none => simp [membersOf] at hmember
          | some group => exact ((hpromotes hdown henabled r hr hmaster).2 group rfl member hmember).symm
      · obtain ⟨seen, hbuilt, hseen⟩ := h.built
        refine ⟨seen, hbuilt, ?_⟩
        show s.waiting ++ sent.toList = [] ∧ seen = sent.getD s.published ∨
          (s.waiting ++ sent.toList).getLast? = some (sent.getD s.published)
        cases sent with
        | none =>
          rw [Option.toList_none, List.append_nil]
          exact hseen
        | some rw' => exact .inr (by simp)

/-- **Step lemma, for a dispatch.**  The balancers are those of the published lists afterwards. -/
theorem kept_dispatch {nodeGroupConfig : Option NodeGroup} (h : Kept env rw nodeGroupConfig s)
    (input : RouteInput) (draw : Nat) : Kept env rw nodeGroupConfig (step env mha rw s (.dispatch input draw)).2 ∧
      (step env mha rw s (.dispatch input draw)).1 ≠ .dispatched .rebuildPanicked ∧
      ∀ endpoint, (step env mha rw s (.dispatch input draw)).1 = .dispatched (.plan (.single endpoint .readWrite)) →
        endpoint ∈ s.published.readwrite := by
  -- `current`: the dispatcher that picks
  obtain ⟨current, hcurrent⟩ : ∃ current, s.dispatcher.takeOver env s.waiting = current := ⟨_, rfl⟩
  have hbuilt : current.2 = true ∧ BuiltFor env current.1 s.published ∧
      current.1.nodeGroupConfig = nodeGroupConfig := by
    obtain ⟨seen, hseen, hwaiting⟩ := h.built
    rw [← hcurrent]
    unfold ReadWriteSplittingDynamic.takeOver
    rcases hwaiting with ⟨hempty, rfl⟩ | hlast
    · rw [hempty]
      exact ⟨rfl, hseen, h.config⟩
    · rw [hlast]
      have hrebuilt := builtFor_rebuild hseen s.published (by rw [h.config]; exact h.members)
      exact ⟨hrebuilt.1, hrebuilt.2.1, hrebuilt.2.2.trans h.config⟩
  obtain ⟨hgo, hbuilt, hconfig⟩ := hbuilt
  have hkept : Kept env rw nodeGroupConfig { s with dispatcher := current.1, waiting := [] } :=
    ⟨h.configured, h.primaries, h.published, h.sound, h.connect, h.ping, hconfig, h.members,
      s.published, hbuilt, .inl ⟨rfl, rfl⟩⟩
  cases hpick : current.1.pick env input draw with
  | none =>
    have hdispatch : s.dispatcher.dispatch env s.waiting input draw = (.pickPanicked, current.1) := by
      unfold ReadWriteSplittingDynamic.dispatch
      rw [hcurrent, if_pos hgo, hpick]
    simp only [step, hdispatch]
    exact ⟨hkept, by simp, by simp⟩
  | some plan =>
    have hdispatch : s.dispatcher.dispatch env s.waiting input draw = (.plan plan, current.1) := by
      unfold ReadWriteSplittingDynamic.dispatch
      rw [hcurrent, if_pos hgo, hpick]
    simp only [step, hdispatch]
    refine ⟨hkept, by simp, ?_⟩
    intro endpoint hplan
    obtain rfl : plan = .single endpoint .readWrite := by simpa using hplan
    obtain ⟨b, hget, hnext⟩ := Option.bind_eq_some_iff.mp hpick
    cases hn : b.1.next draw with
    | none =>
      rw [hn] at hnext
      cases hnext
    | some e =>
      rw [hn] at hnext
      obtain ⟨rfl, hrole⟩ : e = endpoint ∧ b.2 = .readWrite := by simpa using hnext
      have hget' : current.1.rulesMatch.get env input = some (b.1, .readWrite) := by rw [hget, ← hrole]
      exact mem_readwrite_of_get hbuilt hget' (mem_items_of_next hn)

/-- **Step lemma.** -/
theorem kept_step {nodeGroupConfig : Option NodeGroup} (s : System) (a : Act)
    (h : Kept env rw nodeGroupConfig s) (hok : Careful mha rw nodeGroupConfig s a) :
    Kept env rw nodeGroupConfig (step env mha rw s a).2 := by
  cases a with
  | round responses => exact kept_round h hok
  | dispatch input draw => exact (kept_dispatch h input draw).1

/-- In every run of careful rounds from a configuration with a primary, every step does what it owes. -/
theorem failover_sound {env : Env} {mha : MasterHighAvailability} {rules : List ReadWriteSplittingRule}
    {target : TargetRole} {nodeGroupConfig : Option NodeGroup} {rw : ReadWriteEndpoint} {d : ReadWriteSplittingDynamic}
    (hbuild : ReadWriteSplittingDynamic.build env rules target nodeGroupConfig rw = some d)
    (hne : rw.readwrite ≠ []) {acts : List Act}
    (hok : Meets (step env mha rw) (Careful mha rw nodeGroupConfig) (System.start rw d) acts) :
    ∀ e ∈ entries (step env mha rw) (System.start rw d) acts, Routed rw e := by
  intro e he
  obtain ⟨hpre, hpost⟩ := inv_of_mem_entries (Kept env rw nodeGroupConfig) kept_step (kept_start hbuild hne) hok he
  obtain ⟨hout, -⟩ := entry_eq he
  refine ⟨hpost.sound, ?_⟩
  rw [hout]
  cases hact : e.act with
  | round responses =>
    have hround : (step env mha rw e.pre (.round responses)).1 = .rounded ∨
        (step env mha rw e.pre (.round responses)).1 = .dead := by
      unfold step
      simp only
      split
      · split
        · exact .inr rfl
        · exact .inl rfl
      · exact .inr rfl
    rcases hround with hround | hround
    · rw [hround]
      exact ⟨by simp, by simp⟩
    · rw [hround]
      exact ⟨by simp, by simp⟩
  | dispatch input draw => exact (kept_dispatch hpre input draw).2

def testPair : ReadWriteEndpoint where
  read := [⟨"mysql", 1, "r", "db", "root", "root", "127.0.0.1:3308"⟩]
  readwrite := [⟨"mysql", 1, "p", "db", "root", "root", "127.0.0.1:3307"⟩]

/-- The primary goes down, the replica reports to be the master, and a statement is written. -/
def testFailover : List Act :=
  [.round [.connect ⟨[("127.0.0.1:3308", .connected)], [("127.0.0.1:3307", .disconnected)]⟩,
      .ping ⟨[("127.0.0.1:3308", .pingOk)], [("127.0.0.1:3307", .pingNotOk)]⟩,
      .readOnly ⟨[("127.0.0.1:3308", .master), ("127.0.0.1:3307", .master)]⟩],
    .dispatch (.statement "INSERT INTO t VALUES (1)") 0]

def testDispatcher (nodeGroupConfig : Option NodeGroup) : ReadWriteSplittingDynamic where
  rules := []
  nodeGroupConfig := nodeGroupConfig
  rulesMatch := ⟨.readWrite, ⟨.random, testPair.readwrite⟩, ⟨.random, testPair.readwrite⟩, []⟩

theorem failover_without_groups : testFailover ≠ [] ∧
    ∀ e ∈ entries (step ⟨fun _ => none, id⟩ ⟨true, false⟩ testPair) (System.start testPair (testDispatcher none))
      testFailover, Routed testPair e := by
  have hbuild : ReadWriteSplittingDynamic.build ⟨fun _ => none, id⟩ [] .readWrite none testPair =
      some (testDispatcher none) := rfl
  refine ⟨List.cons_ne_nil _ _, failover_sound hbuild (by decide) ?_⟩
  refine meets_cons ⟨?_, ?_⟩ (meets_cons trivial meets_nil)
  · intro response hresponse
    simp only [List.mem_cons, List.not_mem_nil, or_false] at hresponse
    rcases hresponse with rfl | rfl | rfl
    · exact ⟨by decide, fun entry hentry => ⟨_, List.mem_singleton.mpr rfl, by
        rw [List.mem_singleton.mp hentry]⟩⟩
    · exact ⟨by decide, fun entry hentry => ⟨_, List.mem_singleton.mpr rfl, by
        rw [List.mem_singleton.mp hentry]⟩⟩
    · trivial
  · intro hdown henabled r hr hmaster
    refine ⟨fun primary hprimary => ?_, nofun⟩
    obtain rfl := List.mem_singleton.mp hprimary
    exact .inl rfl

/-- With a node group that names the primary, the dispatch panics. -/
theorem failover_with_group_panics :
    ReadWriteSplittingDynamic.build ⟨fun _ => none, id⟩ [] .readWrite (some ⟨[⟨"g", "p", ["r"]⟩]⟩) testPair =
        some (testDispatcher (some ⟨[⟨"g", "p", ["r"]⟩]⟩)) ∧
      ¬ ∀ e ∈ entries (step ⟨fun _ => none, id⟩ ⟨true, false⟩ testPair)
        (System.start testPair (testDispatcher (some ⟨[⟨"g", "p", ["r"]⟩]⟩))) testFailover, Routed testPair e := by
  refine ⟨rfl, fun h => ?_⟩
  have hlast := (h _ (List.mem_cons_of_mem _ (List.mem_singleton.mpr rfl))).2.1
  exact hlast rfl

end DataNexus.Discovery
