/-
  Read-write splitting with endpoints that change (`proxy/strategy/src/readwritesplitting/`, `route.rs`).

  A rule picks a balancer over the read or the read-write endpoints, of the whole configuration or of a node group.  When
  the monitor has sent new lists, `ReadWriteSplittingDynamic::dispatch` builds all balancers anew (`rebuild`).

  `none` is a panic.  `Env` has what is outside `src/` or the model: regular expressions, the upper-casing of a word.
  Which endpoint of a balancer `next` gives is the draw that the caller makes.
-/
import DataNexus.Discovery.Reconcile
import DataNexus.Lib.Text

namespace DataNexus.Discovery

open DataNexus.Text

/-! ## Configuration -/

/-- `Member` of a `NodeGroup`. -/
structure Member where
  name : String
  readwrite : String
  reads : List String
deriving DecidableEq

structure NodeGroup where
  members : List Member
deriving DecidableEq

inductive TargetRole where
  | read
  | readWrite
deriving DecidableEq

inductive AlgorithmName where
  | random
  | roundRobin
deriving DecidableEq

structure RegexRule where
  regex : List String
  target : TargetRole
  algorithmName : AlgorithmName
  nodeGroupName : List String
deriving DecidableEq

structure GenericRule where
  algorithmName : AlgorithmName
deriving DecidableEq

inductive ReadWriteSplittingRule where
  | regex (rule : RegexRule)
  | generic (rule : GenericRule)
deriving DecidableEq

inductive StragegyError where
  | endpointNotFound (name : String)
  | nodeGroupNotFound (name : String)
deriving DecidableEq

/-- What is taken from outside: `Regex::new` with `is_match`, and `str::to_uppercase`. -/
structure Env where
  compile : String → Option (String → Bool)
  upper : String → String

/-! ## Node groups -/

/-- `IndexMap::insert`: a value that is there is replaced in its place. -/
def insertEntry {β : Type} (key : String) (value : β) : List (String × β) → List (String × β)
  | [] => [(key, value)]
  | entry :: entries =>
    if entry.1 = key then (key, value) :: entries else entry :: insertEntry key value entries

/-- The endpoints of one member of a node group. -/
def memberEndpoint (rwEndpoint : ReadWriteEndpoint) (member : Member) : Except StragegyError ReadWriteEndpoint :=
  let set := (rwEndpoint.read.map (·.name)).eraseDups
  let intersec := set.filter member.reads.contains
  let read := intersec.filterMap fun x => rwEndpoint.read.find? (·.name == x)
  match rwEndpoint.readwrite.find? (·.name == member.readwrite) with
  | none => .error (.endpointNotFound member.readwrite)
  | some readwrite => .ok ⟨read, [readwrite]⟩

/-- The body of the loop of `RouteStrategy::get_endpoint_group`. -/
def addMember (rwEndpoint : ReadWriteEndpoint) (endpointGroup : List (String × ReadWriteEndpoint))
    (member : Member) : Except StragegyError (List (String × ReadWriteEndpoint)) := do
  let rw ← memberEndpoint rwEndpoint member
  .ok (insertEntry member.name rw endpointGroup)

def getEndpointGroup (nodegroup : Option NodeGroup) (rwEndpoint : ReadWriteEndpoint) :
    Except StragegyError (List (String × ReadWriteEndpoint)) :=
  match nodegroup with
  | some group => group.members.foldlM (addMember rwEndpoint) []
  | none => .ok []

/-! ## Balancers -/

/-- `BalanceType`, by its endpoints. -/
structure BalanceType where
  algorithmName : AlgorithmName
  items : List Endpoint
deriving DecidableEq

/-- `LoadBalance::add`: an endpoint whose name is there is not added again. -/
def BalanceType.add (balance : BalanceType) (endpoint : Endpoint) : BalanceType :=
  if balance.items.any (·.name == endpoint.name) then balance
  else { balance with items := balance.items ++ [endpoint] }

/-- `LoadBalance::next`, for the item that is drawn. -/
def BalanceType.next (balance : BalanceType) (draw : Nat) : Option Endpoint := balance.items[draw]?

/-- `Balance::build_balance` followed by `balance_add_endpoint`. -/
def balanceOf (algorithmName : AlgorithmName) (endpoints : List Endpoint) : BalanceType :=
  endpoints.foldl BalanceType.add ⟨algorithmName, []⟩

def buildDefaultBalance (defaultTarget : TargetRole) (rwEndpoint : ReadWriteEndpoint) : BalanceType :=
  match defaultTarget with
  | .read => balanceOf .random rwEndpoint.read
  | .readWrite => balanceOf .random rwEndpoint.readwrite

/-! ## Rules -/

structure RegexRuleMatchInner where
  rule : RegexRule
  regexs : List (String → Bool)
  balance : List (String × BalanceType)

structure GenericRuleMatchInner where
  rBalance : BalanceType
  rwBalance : BalanceType
  defaultBalance : BalanceType
  defaultTargetRole : TargetRole

def RegexRuleMatchInner.buildBalanceInner (algorithmName : AlgorithmName) (target : TargetRole)
    (rwEndpoint : ReadWriteEndpoint) : BalanceType :=
  match target with
  | .read => balanceOf algorithmName (if rwEndpoint.read.length = 0 then rwEndpoint.readwrite else rwEndpoint.read)
  | .readWrite => balanceOf algorithmName rwEndpoint.readwrite

/-- The body of the loop of `RegexRuleMatchInner::build_balance`. -/
def RegexRuleMatchInner.addGroup (rule : RegexRule) (endpointGroup : List (String × ReadWriteEndpoint))
    (balances : List (String × BalanceType)) (group : String) : Except StragegyError (List (String × BalanceType)) :=
  match endpointGroup.lookup group with
  | some rw => .ok (insertEntry group (buildBalanceInner rule.algorithmName rule.target rw) balances)
  | none => .error (.nodeGroupNotFound group)

def RegexRuleMatchInner.buildBalance (rule : RegexRule) (endpointGroup : List (String × ReadWriteEndpoint))
    (rwEndpoint : ReadWriteEndpoint) : Except StragegyError (List (String × BalanceType)) :=
  if endpointGroup.isEmpty || rule.nodeGroupName.isEmpty then
    .ok [("GLOBAL", buildBalanceInner rule.algorithmName rule.target rwEndpoint)]
  else rule.nodeGroupName.foldlM (addGroup rule endpointGroup) []

/-- `RegexRuleMatchInner::new(..).unwrap()`. -/
def RegexRuleMatchInner.new (env : Env) (rule : RegexRule) (endpointGroup : List (String × ReadWriteEndpoint))
    (rwEndpoint : ReadWriteEndpoint) : Option RegexRuleMatchInner := do
  let balance ← (buildBalance rule endpointGroup rwEndpoint).toOption
  let regexs ← rule.regex.mapM env.compile
  some ⟨rule, regexs, balance⟩

def GenericRuleMatchInner.buildBalance (role : TargetRole) (algorithmName : AlgorithmName)
    (rwEndpoint : ReadWriteEndpoint) : BalanceType :=
  match role with
  | .read =>
    balanceOf algorithmName
      ((if rwEndpoint.read.length = 0 then rwEndpoint.readwrite else []) ++ rwEndpoint.read)
  | .readWrite => balanceOf algorithmName rwEndpoint.readwrite

def GenericRuleMatchInner.new (rule : GenericRule) (defaultTargetRole : TargetRole)
    (rwEndpoint : ReadWriteEndpoint) : GenericRuleMatchInner where
  rBalance := buildBalance .read rule.algorithmName rwEndpoint
  rwBalance := buildBalance .readWrite rule.algorithmName rwEndpoint
  defaultBalance := buildBalance defaultTargetRole rule.algorithmName rwEndpoint
  defaultTargetRole := defaultTargetRole

inductive RulesMatchInner where
  | regex (inner : RegexRuleMatchInner)
  | generic (inner : GenericRuleMatchInner)

def ReadWriteSplittingRule.asRegex : ReadWriteSplittingRule → Option RegexRule
  | .regex rule => some rule
  | .generic _ => none

def ReadWriteSplittingRule.asGeneric : ReadWriteSplittingRule → Option GenericRule
  | .regex _ => none
  | .generic rule => some rule

/-- `RulesMatchBuilder::build_rules`: the regex rules in their order, then the generic ones. -/
def buildRules (env : Env) (rules : List ReadWriteSplittingRule)
    (endpointGroup : List (String × ReadWriteEndpoint)) (rwEndpoint : ReadWriteEndpoint)
    (defaultTarget : TargetRole) : Option (List RulesMatchInner) := do
  let instances ← (rules.filterMap (·.asRegex)).mapM fun rule =>
    RegexRuleMatchInner.new env rule endpointGroup rwEndpoint
  let genericInstances := (rules.filterMap (·.asGeneric)).map fun rule =>
    GenericRuleMatchInner.new rule defaultTarget rwEndpoint
  some (instances.map .regex ++ genericInstances.map .generic)

structure RulesMatch where
  defaultTarget : TargetRole
  defaultBalance : BalanceType
  defaultTransBalance : BalanceType
  inner : List RulesMatchInner

/-- `RulesMatchBuilder::build`. -/
def buildRulesMatch (env : Env) (rules : List ReadWriteSplittingRule) (defaultTarget : TargetRole)
    (endpointGroup : List (String × ReadWriteEndpoint)) (rwEndpoint : ReadWriteEndpoint) : Option RulesMatch := do
  let inner ← buildRules env rules endpointGroup rwEndpoint defaultTarget
  some ⟨defaultTarget, buildDefaultBalance defaultTarget rwEndpoint, buildDefaultBalance .readWrite rwEndpoint, inner⟩

/-! ## Picking a balancer -/

inductive RouteInput where
  | statement (sql : String)
  | transaction (sql : String)
  | sharding (endpoint : Endpoint)
  | shardingStatement (sql nodeGroup : String)
  | shardingTransaction (sql nodeGroup : String)
  | none

/-- `RegexRuleMatchInner::is_match`; `unreachable!()` is a panic. -/
def RegexRuleMatchInner.isMatch (inner : RegexRuleMatchInner) : RouteInput → Option Bool
  | .statement val => some (inner.regexs.any fun r => r val)
  | .transaction val => some (inner.regexs.any fun r => r val)
  | .shardingStatement val _ => some (inner.regexs.any fun r => r val)
  | .shardingTransaction val _ => some (inner.regexs.any fun r => r val)
  | .none => some false
  | .sharding _ => Option.none

def RegexRuleMatchInner.get (inner : RegexRuleMatchInner) : RouteInput → Option (BalanceType × TargetRole)
  | .shardingStatement _ nodeGroup => (inner.balance.lookup nodeGroup).map (·, inner.rule.target)
  | .shardingTransaction _ nodeGroup => (inner.balance.lookup nodeGroup).map (·, inner.rule.target)
  | _ => (inner.balance.lookup "GLOBAL").map (·, inner.rule.target)

/-- The keys of `GENERIC_RULE_TOKEN`. -/
def genericRuleToken : List String := ["SELECT", "UPDATE", "INSERT", "DELETE", "SET", "START"]

/-- The first piece of `sql.split(" ")`, in upper case, is one of the tokens. -/
def startsWithToken (env : Env) (sql : String) : Bool :=
  match splitOn ' ' sql.toList with
  | [] => false
  | first :: _ => genericRuleToken.contains (env.upper (String.ofList first))

def GenericRuleMatchInner.isMatch (env : Env) : RouteInput → Option Bool
  | .statement sql => some (startsWithToken env sql)
  | .transaction sql => some (startsWithToken env sql)
  | .none => some false
  | _ => Option.none

def GenericRuleMatchInner.get (env : Env) (inner : GenericRuleMatchInner) :
    RouteInput → Option (BalanceType × TargetRole)
  | .statement sql =>
    match splitOn ' ' sql.toList with
    | keyWord :: _ :: _ =>
      let token := String.ofList (trim (env.upper (String.ofList keyWord)).toList)
      if token = "SELECT" then some (inner.rBalance, .read)
      else if ["INSERT", "UPDATE", "DELETE", "SET", "START"].contains token then some (inner.rwBalance, .readWrite)
      else some (inner.defaultBalance, inner.defaultTargetRole)
    | _ => some (inner.defaultBalance, inner.defaultTargetRole)
  | .transaction _ => some (inner.rwBalance, .readWrite)
  | .none => some (inner.defaultBalance, inner.defaultTargetRole)
  | _ => Option.none

/-- `is_match` of a rule, whichever it is. -/
def RulesMatchInner.isMatch (env : Env) (input : RouteInput) : RulesMatchInner → Option Bool
  | .regex inner => inner.isMatch input
  | .generic _ => GenericRuleMatchInner.isMatch env input

/-- `get` of a rule, whichever it is. -/
def RulesMatchInner.get (env : Env) (input : RouteInput) : RulesMatchInner → Option (BalanceType × TargetRole)
  | .regex inner => inner.get input
  | .generic inner => inner.get env input

/-- The loop of `RulesMatch::get`: the first rule that matches decides. -/
def firstMatch (env : Env) (input : RouteInput) (fallback : BalanceType × TargetRole) :
    List RulesMatchInner → Option (BalanceType × TargetRole)
  | [] => some fallback
  | rule :: rules => do
    let matched ← rule.isMatch env input
    if matched then rule.get env input else firstMatch env input fallback rules

def RulesMatch.get (env : Env) (rulesMatch : RulesMatch) (input : RouteInput) : Option (BalanceType × TargetRole) :=
  match input with
  | .transaction _ => some (rulesMatch.defaultTransBalance, .readWrite)
  | _ => firstMatch env input (rulesMatch.defaultBalance, rulesMatch.defaultTarget) rulesMatch.inner

/-! ## Dispatching -/

inductive DispatchPlan where
  | single (endpoint : Endpoint) (role : TargetRole)
  | reject (reason : String)
deriving DecidableEq

/-- `ReadWriteSplittingDynamic`, without its end of the channel. -/
structure ReadWriteSplittingDynamic where
  rules : List ReadWriteSplittingRule
  nodeGroupConfig : Option NodeGroup
  rulesMatch : RulesMatch

/-- `RouteStrategy::new` for the dynamic strategy: an error comes before a panic of a rule that does not compile. -/
def ReadWriteSplittingDynamic.build (env : Env) (rules : List ReadWriteSplittingRule)
    (defaultTarget : TargetRole) (nodeGroupConfig : Option NodeGroup) (rwEndpoint : ReadWriteEndpoint) :
    Option ReadWriteSplittingDynamic := do
  let endpointGroup ← (getEndpointGroup nodeGroupConfig rwEndpoint).toOption
  let rulesMatch ← buildRulesMatch env rules defaultTarget endpointGroup rwEndpoint
  some ⟨rules, nodeGroupConfig, rulesMatch⟩

/-- The first branch of `ReadWriteSplittingDynamic::dispatch`: balancers for new lists, and whether nothing panicked. -/
def ReadWriteSplittingDynamic.rebuild (env : Env) (d : ReadWriteSplittingDynamic)
    (rwEndpoint : ReadWriteEndpoint) : ReadWriteSplittingDynamic × Bool :=
  let rulesMatch := { d.rulesMatch with
    defaultBalance := buildDefaultBalance d.rulesMatch.defaultTarget rwEndpoint
    defaultTransBalance := buildDefaultBalance .readWrite rwEndpoint }
  let rebuilt := do
    let endpointGroup ← (getEndpointGroup d.nodeGroupConfig rwEndpoint).toOption
    buildRules env d.rules endpointGroup rwEndpoint d.rulesMatch.defaultTarget
  match rebuilt with
  | none => ({ d with rulesMatch := rulesMatch }, false)
  | some inner => ({ d with rulesMatch := { rulesMatch with inner := inner } }, true)

/-- The `match` of `ReadWriteSplittingDynamic::dispatch` on the lists that were waiting: the last one counts. -/
def ReadWriteSplittingDynamic.takeOver (env : Env) (d : ReadWriteSplittingDynamic)
    (waiting : List ReadWriteEndpoint) : ReadWriteSplittingDynamic × Bool :=
  match waiting.getLast? with
  | some rwEndpoint => d.rebuild env rwEndpoint
  | none => (d, true)

/-- The end of `ReadWriteSplittingDynamic::dispatch`. -/
def ReadWriteSplittingDynamic.pick (env : Env) (d : ReadWriteSplittingDynamic) (input : RouteInput) (draw : Nat) :
    Option DispatchPlan := do
  let b ← d.rulesMatch.get env input
  match b.1.next draw with
  | some endpoint => some (.single endpoint b.2)
  | none => some (.reject "read write splitting dynamic route produced no endpoint")

inductive Dispatched where
  | rebuildPanicked
  | pickPanicked
  | plan (plan : DispatchPlan)
deriving DecidableEq

/-- `ReadWriteSplittingDynamic::dispatch`, for the lists that were waiting. -/
def ReadWriteSplittingDynamic.dispatch (env : Env) (d : ReadWriteSplittingDynamic)
    (waiting : List ReadWriteEndpoint) (input : RouteInput) (draw : Nat) : Dispatched × ReadWriteSplittingDynamic :=
  let current := d.takeOver env waiting
  if current.2 then
    match current.1.pick env input draw with
    | none => (.pickPanicked, current.1)
    | some plan => (.plan plan, current.1)
  else (.rebuildPanicked, current.1)

/-! ## What a balancer holds -/

variable {e : Endpoint}

theorem mem_items_add {balance : BalanceType} {endpoint : Endpoint} (h : e ∈ (balance.add endpoint).items) :
    e ∈ balance.items ∨ e = endpoint := by
  unfold BalanceType.add at h
  split at h
  · exact .inl h
  · simpa using h

theorem mem_items_balanceOf {algorithmName : AlgorithmName} {endpoints : List Endpoint}
    (h : e ∈ (balanceOf algorithmName endpoints).items) : e ∈ endpoints := by
  have hfold : ∀ (endpoints : List Endpoint) (balance : BalanceType),
      e ∈ (endpoints.foldl BalanceType.add balance).items → e ∈ balance.items ∨ e ∈ endpoints := by
    intro endpoints
    induction endpoints with
    | nil => exact fun balance h => .inl h
    | cons endpoint endpoints ih =>
      intro balance h
      rcases ih (balance.add endpoint) h with h | h
      · rcases mem_items_add h with h | rfl
        · exact .inl h
        · exact .inr List.mem_cons_self
      · exact .inr (List.mem_cons_of_mem endpoint h)
  rcases hfold endpoints ⟨algorithmName, []⟩ h with h | h
  · cases h
  · exact h

theorem mem_items_of_next {balance : BalanceType} {draw : Nat} (h : balance.next draw = some e) :
    e ∈ balance.items := List.mem_of_getElem? h

end DataNexus.Discovery
