/-
  Sharding rules of the data proxy (`proxy/strategy/src/config.rs`, `sharding_rewrite/generic_meta.rs`) and the
  index of a sharding value (`CalcShardingIdx` in `sharding_rewrite/mod.rs`).

  A rule splits one logical table over data nodes (database strategy), over suffixed tables of one node (table
  strategy) or over both.  The index of a value is its remainder, or the remainder of its CRC32, by the number
  of shards.  `crc32fast::hash` and the arithmetic of `f64` are not in the repository: they are fields of
  `Arith`.

  A panic of the source is a `Failure` like its errors: in both cases no statement is produced.
-/
import DataNexus.Lib.Fallible
import Mathlib.Algebra.Group.Int.Defs
import Mathlib.Algebra.GroupWithZero.Nat

namespace DataNexus.ShardingRewrite

/-! ## Outcomes -/

/-- `ShardingRewriteError`, and the panics of the rewriter. -/
inductive Failure where
  | shardingColumnNotFound
  | parseIntError
  | parseFloatError
  | calcShardingIdxError
  | endpointNotFound
  | fieldsIsEmpty
  | panic
  deriving DecidableEq

abbrev Outcome := Except Failure

/-- `unwrap`, and an index into a vector. -/
def unwrap {α : Type} : Option α → Outcome α
  | some a => .ok a
  | none => .error .panic

/-- `ok_or_else`. -/
def okOr {α : Type} (f : Failure) : Option α → Outcome α
  | some a => .ok a
  | none => .error f

variable {α : Type}

@[simp] theorem unwrap_eq_ok {o : Option α} {a : α} : unwrap o = .ok a ↔ o = some a := by
  cases o <;> simp [unwrap]

@[simp] theorem unwrap_some (a : α) : unwrap (some a) = .ok a := rfl

@[simp] theorem okOr_eq_ok {f : Failure} {o : Option α} {a : α} : okOr f o = .ok a ↔ o = some a := by
  cases o <;> simp [okOr]

/-! ## Numbers -/

/-- `str::parse::<u64>`: a plus sign is accepted. -/
def parseU64 (s : String) : Option Nat :=
  let digits := match s.toList with
    | '+' :: rest => rest
    | cs => cs
  if digits ≠ [] ∧ digits.all Char.isDigit then
    let v := digits.foldl (fun n c => 10 * n + (c.toNat - '0'.toNat)) 0
    if v < 2 ^ 64 then some v else none
  else none

/-- `str::parse::<i64>`. -/
def parseI64 (s : String) : Option Int :=
  match s.toList with
  | '-' :: digits =>
    if digits ≠ [] ∧ digits.all Char.isDigit then
      let v := digits.foldl (fun n c => 10 * n + (c.toNat - '0'.toNat)) 0
      if v ≤ 2 ^ 63 then some (-v) else none
    else none
  | _ => (parseU64 s).bind fun v => if v < 2 ^ 63 then some v else none

def toBeBytes (v : Nat) : List UInt8 := (List.range 8).map fun i => (v / 256 ^ (7 - i)).toUInt8

/-! ## The index of a value -/

inductive ShardingAlgorithmName where
  | mod
  | crc32Mod
  deriving DecidableEq

/-- What the rewriter uses from outside the repository: `crc32fast::hash`, and `f64::parse` followed by the
    `f64` version of `calc`. -/
structure Arith where
  hash : List UInt8 → UInt32
  calcF64 : String → ShardingAlgorithmName → Nat → Option Nat

/-- `u64::calc`; the remainder by zero panics. -/
def calcU64 (arith : Arith) (v : Nat) (algo : ShardingAlgorithmName) (shardingCount : Nat) : Outcome Nat :=
  if shardingCount = 0 then .error .panic
  else match algo with
    | .mod => .ok (v % shardingCount)
    | .crc32Mod => .ok ((arith.hash (toBeBytes v)).toNat % shardingCount)

/-- `i64::calc`: the remainder has the sign of the value, and `as u64` wraps it. -/
def calcI64 (arith : Arith) (v : Int) (algo : ShardingAlgorithmName) (shardingCount : Nat) : Outcome Nat :=
  if shardingCount = 0 then .error .panic
  else match algo with
    | .mod => .ok (v.tmod shardingCount % 2 ^ 64).toNat
    | .crc32Mod => .ok ((arith.hash (toBeBytes (v % 2 ^ 64).toNat)).toNat % shardingCount)

theorem calcU64_lt {arith : Arith} {v : Nat} {algo : ShardingAlgorithmName} {count idx : Nat}
    (h : calcU64 arith v algo count = .ok idx) : idx < count := by
  unfold calcU64 at h
  split at h
  · cases h
  · rename_i hc
    cases algo <;> simp only [Except.ok.injEq] at h <;> rw [← h] <;> exact Nat.mod_lt _ (by omega)

theorem calcU64_isOk (arith : Arith) (v : Nat) (algo : ShardingAlgorithmName) {count : Nat} (hc : 0 < count) :
    ∃ idx, calcU64 arith v algo count = .ok idx := by
  unfold calcU64
  rw [if_neg (by omega)]
  cases algo
  · exact ⟨_, rfl⟩
  · exact ⟨_, rfl⟩

/-! ## Rules -/

/-- The strategy of a rule.  `Sharding` has an optional field for each; the first one set in this order is the
    one that every function of `generic_meta.rs` looks at. -/
inductive Strategy where
  | database (algo : ShardingAlgorithmName) (column : String)
  | table (algo : ShardingAlgorithmName) (column : String) (shardingCount : Nat)
  | databaseTable (databaseAlgo : ShardingAlgorithmName) (databaseColumn : String)
      (tableAlgo : ShardingAlgorithmName) (tableColumn : String) (shardingCount : Nat)
  deriving DecidableEq

structure Sharding where
  tableName : String
  actualDatanodes : List String
  strategy : Strategy
  deriving DecidableEq

/-- `Endpoint`, with what distinguishes one from another. -/
structure Endpoint where
  name : String
  db : String
  addr : String
  deriving DecidableEq

inductive StrategyTyp where
  | databaseTable
  | database
  | table
  deriving DecidableEq

namespace Sharding

/-- `get_sharding_column`: of the database, of the table. -/
def getShardingColumn (rule : Sharding) : Option String × Option String :=
  match rule.strategy with
  | .database _ column => (some column, none)
  | .table _ column _ => (none, some column)
  | .databaseTable _ databaseColumn _ tableColumn _ => (some databaseColumn, some tableColumn)

def getAlgo (rule : Sharding) : Option ShardingAlgorithmName × Option ShardingAlgorithmName :=
  match rule.strategy with
  | .database algo _ => (some algo, none)
  | .table algo _ _ => (none, some algo)
  | .databaseTable databaseAlgo _ tableAlgo _ _ => (some databaseAlgo, some tableAlgo)

def getShardingCount (rule : Sharding) : Option Nat × Option Nat :=
  match rule.strategy with
  | .database _ _ => (some rule.actualDatanodes.length, none)
  | .table _ _ count => (none, some count)
  | .databaseTable _ _ _ _ count => (some rule.actualDatanodes.length, some count)

def getStrategyTyp (rule : Sharding) : StrategyTyp :=
  match rule.strategy with
  | .database _ _ => .database
  | .table _ _ _ => .table
  | .databaseTable _ _ _ _ _ => .databaseTable

def endpointAt (rule : Sharding) (endpoints : List Endpoint) (idx : Nat) : Outcome (Option Endpoint) := do
  let node ← unwrap rule.actualDatanodes[idx]?
  return endpoints.find? (·.name == node)

def getActualSchema (rule : Sharding) (endpoints : List Endpoint) (idx : Nat) : Outcome (Option String) :=
  match rule.strategy with
  | .table _ _ _ => .ok none
  | _ => (rule.endpointAt endpoints idx).map (·.map (·.db))

def getEndpoint (rule : Sharding) (endpoints : List Endpoint) (idx : Nat) : Outcome (Option Endpoint) :=
  match rule.strategy with
  | .table _ _ _ => rule.endpointAt endpoints 0
  | _ => rule.endpointAt endpoints idx

end Sharding

/-! ## The rewriter -/

/-- What a `ShardingRewrite` was made from, with the client's database of the call. -/
structure Rewriter where
  arith : Arith
  rules : List Sharding
  endpoints : List Endpoint
  hasRw : Bool
  nodeGroupMembers : Option (List String)
  defaultDb : Option String

inductive DataSource where
  | endpoint (ep : Endpoint)
  | nodeGroup (name : String)
  deriving DecidableEq

def Rewriter.genDataSource (r : Rewriter) (rule : Sharding) (shardIdx : Nat) : Outcome DataSource :=
  if r.hasRw then do
    let node ← unwrap rule.actualDatanodes[0]?
    return .nodeGroup node
  else do
    let ep ← rule.getEndpoint r.endpoints shardIdx
    let ep ← okOr .endpointNotFound ep
    return .endpoint ep

/-- The shard that a statement goes to: its data source, the database that replaces the one of the table's
    name, and the suffix of the table. -/
structure Shard where
  ds : DataSource
  schema : Option String
  suffix : Option Nat
  deriving DecidableEq

/-- A rule that the configuration makes usable: it has nodes, every node has an endpoint, and a table strategy
    has at least one table. -/
structure Sharding.Usable (rule : Sharding) (endpoints : List Endpoint) : Prop where
  hasNodes : rule.actualDatanodes ≠ []
  nodesKnown : ∀ node ∈ rule.actualDatanodes, ∃ ep, endpoints.find? (·.name == node) = some ep
  hasTables : ∀ count, rule.getShardingCount.2 = some count → 0 < count

end DataNexus.ShardingRewrite
