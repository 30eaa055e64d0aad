/-
  Endpoint selection of a service (`core_engine.rs`: `CoreRoutePolicy`, `apply_route_plan`,
  `command_target_role`; `proxy/loadbalance/src/random_weighted.rs`).

  A command is planned onto one endpoint.  `First` and `Simple` stay at the endpoint the session already
  has.  Read/write splitting stays there only while the transaction state is `Active`; otherwise a
  read-only text goes to the read balancer and everything else to the read-write balancer.

  A balancer draws at random: `Draw` is what the generator gives, so a theorem over all draws is one over
  all choices the balancer can make.
-/
import DataNexus.Session
import DataNexus.Lib.Text

namespace DataNexus.Engine

open DataNexus.Text

/-! ## Balancers -/

inductive AlgorithmName where
  | random
  | roundRobin
deriving DecidableEq

/-- `BalanceType`: the endpoints it was given, one per name. -/
structure Balancer where
  algorithm : AlgorithmName
  items : List EndpointConfig
deriving DecidableEq

/-- `LoadBalance::add`. -/
def addEndpoint (items : List EndpointConfig) (endpoint : EndpointConfig) : List EndpointConfig :=
  if items.any (·.name == endpoint.name) then items else items ++ [endpoint]

def buildBalancer (algorithm : AlgorithmName) (endpoints : List EndpointConfig) : Balancer :=
  ⟨algorithm, endpoints.foldl addEndpoint []⟩

/-- The random numbers of one draw: `gen_range` of the weighted choice, the position of the rotation. -/
structure Draw where
  random : Nat
  rotation : Nat
deriving DecidableEq

/-- The loop of `RandomWeighted::next`: the endpoint in whose share of the weights the number falls. -/
def weightedChoice : List EndpointConfig → Nat → Option EndpointConfig
  | [], _ => none
  | e :: rest, w => if w ≤ e.weight then some e else weightedChoice rest (w - e.weight)

/-- `LoadBalance::next`.  Without weights there is no choice. -/
def Balancer.next (b : Balancer) (draw : Draw) : Option EndpointConfig :=
  let sum := (b.items.map (·.weight)).sum
  match b.algorithm with
  | .random =>
    if sum = 0 then none else (weightedChoice b.items (draw.random % sum + 1)).or b.items.getLast?
  | .roundRobin => b.items[draw.rotation % b.items.length]?

/-! ## The policy -/

inductive CoreRoutePolicyKind where
  | first
  | simple (balancer : Balancer)
  | readWrite (readBalancer readwriteBalancer : Balancer)
deriving DecidableEq

/-- `CoreRoutePolicy`; `isReadOnly` is the backend dialect's classifier. -/
structure CoreRoutePolicy where
  endpoints : List EndpointConfig
  kind : CoreRoutePolicyKind
  isReadOnly : String → Bool

inductive RouteTargetRole where
  | read
  | readWrite
deriving DecidableEq

def normalizePolicyKind (kind : String) : String :=
  lower (String.ofList (kind.toList.filter fun c => c != '_' && c != '-'))

def simpleLoadBalanceAlgorithm (kind : String) : Option AlgorithmName :=
  if lower kind = "simple_load_balance" ∨ lower kind = "random" then some .random
  else if lower kind = "round_robin" ∨ lower kind = "round-robin" ∨ lower kind = "roundrobin" then
    some .roundRobin
  else none

def buildReadWrite (endpoints : List EndpointConfig) : Except GatewayError CoreRoutePolicyKind :=
  let readEndpoints := endpoints.filter (·.role == .read)
  let readwriteEndpoints := endpoints.filter (·.role == .readWrite)
  if readwriteEndpoints.isEmpty then
    .error (.configuration
      "read_write_splitting route policy requires at least one readwrite endpoint")
  else
    .ok (.readWrite
      (buildBalancer .random (if readEndpoints.isEmpty then readwriteEndpoints else readEndpoints))
      (buildBalancer .random readwriteEndpoints))

def CoreRoutePolicy.build (routePolicyKind : Option String) (endpoints : List EndpointConfig)
    (isReadOnly : String → Bool) : Except GatewayError CoreRoutePolicy :=
  if routePolicyKind.map normalizePolicyKind = some "readwritesplitting" then
    (buildReadWrite endpoints).map fun kind => ⟨endpoints, kind, isReadOnly⟩
  else
    match routePolicyKind.bind simpleLoadBalanceAlgorithm with
    | some algorithm => .ok ⟨endpoints, .simple (buildBalancer algorithm endpoints), isReadOnly⟩
    | none => .ok ⟨endpoints, .first, isReadOnly⟩

namespace CoreRoutePolicy

def firstEndpoint (p : CoreRoutePolicy) : Except GatewayError EndpointConfig :=
  match p.endpoints.head? with
  | some endpoint => .ok endpoint
  | none => .error (.configuration "service has no endpoints")

def endpointByName (p : CoreRoutePolicy) (name : String) : Except GatewayError EndpointConfig :=
  match p.endpoints.find? (·.name == name) with
  | some endpoint => .ok endpoint
  | none =>
    .error (.configuration ("route policy references missing endpoint '" ++ name ++ "'"))

/-- `select_from_balancer`: a balancer without a choice falls back to the first endpoint. -/
def selectFromBalancer (p : CoreRoutePolicy) (balancer : Balancer) (draw : Draw) :
    Except GatewayError EndpointConfig :=
  match balancer.next draw with
  | some selected => p.endpointByName selected.name
  | none => p.firstEndpoint

def planForRole (p : CoreRoutePolicy) (role : RouteTargetRole) (draw : Draw) : Except GatewayError EndpointConfig :=
  match p.kind with
  | .first => p.firstEndpoint
  | .simple balancer => p.selectFromBalancer balancer draw
  | .readWrite readBalancer readwriteBalancer =>
    match role with
    | .read => p.selectFromBalancer readBalancer draw
    | .readWrite => p.selectFromBalancer readwriteBalancer draw

def commandTargetRole (p : CoreRoutePolicy) (command : GatewayCommand) (session : SessionState) : RouteTargetRole :=
  if session.transactionState = .active then .readWrite
  else
    match command with
    | .query sql => if p.isReadOnly sql then .read else .readWrite
    | .queryParams sql _ => if p.isReadOnly sql then .read else .readWrite
    | _ => .readWrite

/-- The policy keeps the endpoint that was chosen once. -/
def isSticky (p : CoreRoutePolicy) : Bool :=
  match p.kind with
  | .readWrite _ _ => false
  | _ => true

def planCommand (p : CoreRoutePolicy) (command : GatewayCommand) (session : SessionState)
    (draw : Draw) : Except GatewayError EndpointConfig :=
  match session.backendEndpoint with
  | some name =>
    if p.isSticky || session.transactionState == .active then p.endpointByName name
    else p.planForRole (p.commandTargetRole command session) draw
  | none => p.planForRole (p.commandTargetRole command session) draw

def selectInitialEndpoint (p : CoreRoutePolicy) (draw : Draw) : Except GatewayError EndpointConfig :=
  p.planForRole .readWrite draw

end CoreRoutePolicy

/-- `apply_route_plan` of a `Single` plan, the only kind the policy makes. -/
def applyRoutePlan (endpoint : EndpointConfig) (session : SessionState) : SessionState :=
  { session with backendEndpoint := some endpoint.name }

/-! ## What a plan is -/

variable {p : CoreRoutePolicy}

theorem endpointByName_ok {name : String} {e : EndpointConfig} (h : p.endpointByName name = .ok e) :
    e ∈ p.endpoints ∧ e.name = name := by
  unfold CoreRoutePolicy.endpointByName at h
  cases hf : p.endpoints.find? (·.name == name) with
  | none => rw [hf] at h; cases h
  | some found =>
    rw [hf] at h
    obtain rfl : found = e := by injection h
    have hname : (found.name == name) = true := by simpa using List.find?_some hf
    exact ⟨List.mem_of_find?_eq_some hf, by simpa using hname⟩

theorem planCommand_active {session : SessionState} {name : String}
    (hstate : session.transactionState = .active) (hname : session.backendEndpoint = some name)
    (command : GatewayCommand) (draw : Draw) : p.planCommand command session draw = p.endpointByName name := by
  unfold CoreRoutePolicy.planCommand
  rw [hname]
  simp [hstate]

end DataNexus.Engine
