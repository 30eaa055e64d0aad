/-
  `ShardingRewrite::rewrite` (`sharding_rewrite/mod.rs`).

  A statement with sharded tables becomes one statement for each shard that it has to go to: all shards, unless the
  equalities that were filed name an index (`find_try_where`, the first one on the sharding column of the first sharded
  table of a query).  The `*_iproduct` functions list the shards.

  The text is not produced here, except for inserts; a shard is listed with the table that is renamed, its new place and
  the columns that are added for it.
-/
import DataNexus.Sharding.Insert

namespace DataNexus.ShardingRewrite

/-! ## Tables with a rule -/

/-- `endpoints.find(…)` on the iterator that all tables share: what it runs past is gone. -/
def nextEndpoint (p : Endpoint → Bool) (endpoints : List Endpoint) : Bool × List Endpoint :=
  match endpoints.dropWhile (!p ·) with
  | [] => (false, [])
  | _ :: rest => (true, rest)

/-- Whether some node of the rule has an endpoint, among those left, with the default database. -/
def findDefaultDb (db : String) : List String → List Endpoint → Bool × List Endpoint
  | [], endpoints => (false, endpoints)
  | node :: nodes, endpoints =>
    match nextEndpoint (fun ep => ep.name == node && db == ep.db) endpoints with
    | (true, rest) => (true, rest)
    | (false, rest) => findDefaultDb db nodes rest

namespace Rewriter

/-- The rule of a table, by its name without backticks. -/
def ruleOf (r : Rewriter) (table : TableIdent) : Option Sharding := r.rules.find? (·.tableName == unquote table.name)

/-- `has_default_db`, with the endpoints left for the next table. -/
def hasDefaultDb (r : Rewriter) (rule : Sharding) (endpoints : List Endpoint) : Outcome (Bool × List Endpoint) :=
  match r.defaultDb with
  | none => .ok (false, endpoints)
  | some db =>
    if r.hasRw then do
      let members ← unwrap r.nodeGroupMembers
      return (rule.actualDatanodes.any members.contains, endpoints)
    else .ok (findDefaultDb db rule.actualDatanodes endpoints)

/-- One call of the closure of `find_table_rule`. -/
def tryTable (r : Rewriter) (queryId : Nat) (table : TableIdent) (endpoints : List Endpoint) :
    Outcome (Option TryTable × List Endpoint) :=
  match r.ruleOf table with
  | none => .ok (none, endpoints)
  | some rule => do
    let (hasDb, rest) ← r.hasDefaultDb rule endpoints
    return (if table.schema.isSome || hasDb then some ⟨queryId, rule, table⟩ else none, rest)

/-- `find_table`: over all tables in the order of their queries. -/
def findTable (r : Rewriter) : List (Nat × TableIdent) → List Endpoint → Outcome (List TryTable)
  | [], _ => .ok []
  | (queryId, table) :: tables, endpoints => do
    let (found, rest) ← r.tryTable queryId table endpoints
    let others ← r.findTable tables rest
    return found.toList ++ others

def findTableRule (r : Rewriter) (tables : IndexMap Nat TableIdent) : Outcome (List TryTable) :=
  r.findTable tables.entries r.endpoints

end Rewriter

/-! ## Equalities -/

def getWhereMatchRight (metas : List WhereMeta) (shardingColumn : String) : Option WhereMetaRightDataType :=
  (metas.find? fun w => unquote w.left == shardingColumn).map (·.right)

def parseWhere (arith : Arith) (right : WhereMetaRightDataType) (shardingCount : Nat)
    (algo : ShardingAlgorithmName) : Outcome (Option Nat) :=
  match right with
  | .num val => do
    let val ← okOr .parseIntError (parseU64 val)
    return some (← calcU64 arith val algo shardingCount)
  | .signedNum val => do
    let val ← okOr .parseIntError (parseI64 val)
    return some (← calcI64 arith val algo shardingCount)
  | .floatNum val => (okOr .parseFloatError (arith.calcF64 val algo shardingCount)).map some
  | .string _ => .ok none

/-- The index of one of the two columns of a rule; `none` where the query has no equality on it. -/
def whereIdx (arith : Arith) (metas : List WhereMeta) (column : Option String) (count : Option Nat)
    (algo : Option ShardingAlgorithmName) : Outcome (Option (Option Nat)) := do
  let column ← unwrap column
  match getWhereMatchRight metas column with
  | none => return none
  | some right => return some (← parseWhere arith right (← unwrap count) (← unwrap algo))

/-- The turn of `find_try_where` for one query: what it pushes. -/
def tryWhere (arith : Arith) (typ : StrategyTyp) (tryTables : List TryTable) (queryId : Nat)
    (metas : List WhereMeta) : Outcome (Option (List (Option Nat))) := do
  let t ← unwrap (tryTables.find? (·.queryId == queryId))
  let column := t.rule.getShardingColumn
  let count := t.rule.getShardingCount
  let algo := t.rule.getAlgo
  match typ with
  | .database => return (← whereIdx arith metas column.1 count.1 algo.1).map ([·])
  | .table => return (← whereIdx arith metas column.2 count.2 algo.2).map ([·])
  | .databaseTable =>
    let db ← whereIdx arith metas column.1 count.1 algo.1
    let table ← whereIdx arith metas column.2 count.2 algo.2
    return some [db.join, table.join]

def findTryWhere (arith : Arith) (typ : StrategyTyp) (tryTables : List TryTable) (wheres : IndexMap Nat WhereMeta) :
    Outcome (List (List (Option Nat))) := do
  let found ← wheres.mapM fun (queryId, metas) => tryWhere arith typ tryTables queryId metas
  return found.reduceOption

/-! ## Columns that a shard adds -/

structure AvgChange where
  countField : String
  sumField : String
  oriField : String
  deriving DecidableEq

/-- What is added to the select list of a shard: `ChangeTargetMeta::OrderGroup` and `::Avg`. -/
structure Derived where
  orderFields : List String
  groupFields : List String
  avgs : List AvgChange
  deriving DecidableEq

/-- `"{}_{}_{:05}"` of the name in upper case, the kind and the table. -/
def derivedName (name kind : String) (tableIdx : Nat) : String :=
  String.ofList (toAsciiUppercase name.toList ++ '_' :: kind.toList ++ '_' :: pad5 tableIdx)
where
  toAsciiUppercase (s : List Char) : List Char := s.map Char.toUpper

/-- Whether a column is among the fields of the select list. -/
def isSelected (fields : List FieldMeta) (name : String) : Bool :=
  fields.any fun
    | .ident field _ => unquote field == unquote name
    | .tableWild _ => false

/-- The helper columns of a clause: those that are not selected.  Their names need the index of the table. -/
def helperFields (fields : List FieldMeta) (names : List String) (kind : String) (idx : ShardingIdx) :
    Outcome (List String) :=
  (names.filter fun name => !isSelected fields name).mapM fun name => do
    return derivedName (unquote name) kind (← unwrap idx.table)

def changeOrderGroup (stmt : RewriteMetaData) (queryId : Nat) (idx : ShardingIdx) :
    Outcome (List String × List String) :=
  match stmt.orders.get? queryId, stmt.groups.get? queryId with
  | none, none => .ok ([], [])
  | orders, groups => do
    let fields := (stmt.fields.get? queryId).getD []
    if queryId ∈ stmt.fieldBlocks then
      let orderFields ← helperFields fields (orders.getD []) "ORDER_BY_DERIVED" idx
      let groupFields ← helperFields fields (groups.getD []) "GROUP_BY_DERIVED" idx
      return (orderFields, groupFields)
    else .error .panic

def changeAvg (stmt : RewriteMetaData) (queryId : Nat) (idx : ShardingIdx) : Outcome (List AvgChange) :=
  let avgs := ((stmt.fields.get? queryId).getD []).filterMap fun
    | .ident name (.avg field) => some (name, field)
    | _ => none
  avgs.mapM fun (name, field) => do
    let tableIdx ← unwrap idx.table
    return { countField := derivedName field "AVG_DERIVED_COUNT" tableIdx
             sumField := derivedName field "AVG_DERIVED_SUM" tableIdx, oriField := name }

def derivedOf (stmt : RewriteMetaData) (queryId : Nat) (idx : ShardingIdx) : Outcome Derived := do
  let (orderFields, groupFields) ← changeOrderGroup stmt queryId idx
  let avgs ← changeAvg stmt queryId idx
  return ⟨orderFields, groupFields, avgs⟩

/-! ## Shards -/

/-- A table of the statement, the shard it is renamed to, and what is added to its query. -/
structure ChangePlan where
  key : DataSourceShardingIdx
  queryId : Nat
  table : TableIdent
  shard : Shard
  derived : Derived
  deriving DecidableEq

/-- `DatabaseTableStrategyPart`. -/
inductive Part where
  | database (idx : Nat)
  | table (idx : Nat)
  | databaseTable (databaseIdx tableIdx : Nat)
  | all
  deriving DecidableEq

def Part.databaseIdx : Part → Option Nat
  | .database idx => some idx
  | .databaseTable idx _ => some idx
  | _ => none

def Part.tableIdx : Part → Option Nat
  | .table idx => some idx
  | .databaseTable _ idx => some idx
  | _ => none

/-- The nodes that a statement goes to, with their places in the list that is walked. -/
def actualNodes (rule : Sharding) (part : Part) : Outcome (List (String × Nat)) :=
  match part.databaseIdx with
  | some idx => (unwrap rule.actualDatanodes[idx]?).map fun node => [(node, 0)]
  | none => .ok rule.actualDatanodes.zipIdx

def shardingRange (part : Part) (count : Nat) : List Nat :=
  match part.tableIdx with
  | some idx => [idx]
  | none => List.range count

namespace Rewriter

def keyColumn (rule : Sharding) : ShardingColumn := ⟨rule.getShardingColumn.1, rule.getShardingColumn.2⟩

/-- The body of the loop of `database_strategy_iproduct`; the index in the key is the place in the walked
    list. -/
def databasePlan (r : Rewriter) (stmt : RewriteMetaData) (part : Part) (t : TryTable) (node : String)
    (nodeIdx : Nat) : Outcome ChangePlan := do
  let ep ← unwrap (r.endpoints.find? (·.name == node))
  let _ ← r.changeTable t.table ep.db 0
  let ds ← r.genDataSource t.rule (part.databaseIdx.getD nodeIdx)
  let idx : ShardingIdx := ⟨some nodeIdx, none⟩
  let derived ← derivedOf stmt t.queryId idx
  return ⟨⟨ds, idx, keyColumn t.rule⟩, t.queryId, t.table, ⟨ds, some ep.db, none⟩, derived⟩

def databaseStrategyIproduct (r : Rewriter) (stmt : RewriteMetaData) (part : Part) (tables : List TryTable) :
    Outcome (List ChangePlan) := do
  let plans ← tables.mapM fun t => do
    let _ ← unwrap t.rule.getShardingColumn.1
    let nodes ← actualNodes t.rule part
    nodes.mapM fun x => r.databasePlan stmt part t x.1 x.2
  return plans.flatten

/-- The body of the loop of `table_strategy_iproduct`. -/
def tablePlan (r : Rewriter) (stmt : RewriteMetaData) (ds : DataSource) (t : TryTable) (tableIdx : Nat) :
    Outcome ChangePlan := do
  let _ ← r.changeTable t.table "" tableIdx
  let idx : ShardingIdx := ⟨none, some tableIdx⟩
  let derived ← derivedOf stmt t.queryId idx
  return ⟨⟨ds, idx, keyColumn t.rule⟩, t.queryId, t.table, ⟨ds, none, some tableIdx⟩, derived⟩

def tableStrategyIproduct (r : Rewriter) (stmt : RewriteMetaData) (part : Part) (tables : List TryTable) :
    Outcome (List ChangePlan) := do
  let plans ← tables.mapM fun t => do
    let ds ← r.genDataSource t.rule 0
    let _ ← unwrap t.rule.getShardingColumn.2
    let count ← unwrap t.rule.getShardingCount.2
    (shardingRange part count).mapM fun tableIdx => r.tablePlan stmt ds t tableIdx
  return plans.flatten

/-- The body of the inner loop of `database_table_strategy_iproduct`. -/
def databaseTablePlan (r : Rewriter) (stmt : RewriteMetaData) (ds : DataSource) (db : String) (t : TryTable)
    (dbIdx tableIdx : Nat) : Outcome ChangePlan := do
  let _ ← r.changeTable { t.table with schema := some db } "" tableIdx
  let idx : ShardingIdx := ⟨some dbIdx, some tableIdx⟩
  let derived ← derivedOf stmt t.queryId idx
  return ⟨⟨ds, idx, keyColumn t.rule⟩, t.queryId, t.table, ⟨ds, some db, some tableIdx⟩, derived⟩

def databaseTableNode (r : Rewriter) (stmt : RewriteMetaData) (part : Part) (count : Nat) (t : TryTable)
    (node : String) (nodeIdx : Nat) : Outcome (List ChangePlan) := do
  let ep ← unwrap (r.endpoints.find? (·.name == node))
  let _ ← r.changeTable t.table ep.db 0
  let dbIdx := part.databaseIdx.getD nodeIdx
  let ds ← r.genDataSource t.rule dbIdx
  (shardingRange part count).mapM fun tableIdx => r.databaseTablePlan stmt ds ep.db t dbIdx tableIdx

def databaseTableStrategyIproduct (r : Rewriter) (stmt : RewriteMetaData) (part : Part) (tables : List TryTable) :
    Outcome (List ChangePlan) := do
  let plans ← tables.mapM fun t => do
    let count ← unwrap t.rule.getShardingCount.2
    let nodes ← actualNodes t.rule part
    let plans ← nodes.mapM fun x => r.databaseTableNode stmt part count t x.1 x.2
    return plans.flatten
  return plans.flatten

end Rewriter

/-! ## Strategies -/

/-- The part that the database and the table strategy follow: the first index, if the sum agrees. -/
def agreedIdx (found : List (List (Option Nat))) : Outcome (Option Nat) := do
  match found with
  | [] => return none
  | first :: _ =>
    let firstIdx ← unwrap (first[0]?.join)
    let idxs ← found.mapM fun x => unwrap (x[0]?.join)
    return if firstIdx * found.length ≠ idxs.sum then none else some firstIdx

/-- The part that the strategy with both follows: what the first query with equalities says. -/
def firstPart (found : List (List (Option Nat))) : Outcome Part := do
  match found.filter (!·.isEmpty) with
  | [] => return .all
  | first :: _ =>
    let db ← unwrap first[0]?
    let table ← unwrap first[1]?
    match db, table with
    | none, table => return .table (← unwrap table)
    | some db, none => return .database db
    | some db, some table => return .databaseTable db table

namespace Rewriter

def partOf (r : Rewriter) (typ : StrategyTyp) (tryTables : List TryTable) (wheres : IndexMap Nat WhereMeta) :
    Outcome Part := do
  if wheres.isEmpty then return .all
  let found ← findTryWhere r.arith typ tryTables wheres
  match typ with
  | .database => return (← agreedIdx found).elim .all .database
  | .table => return (← agreedIdx found).elim .all .table
  | .databaseTable => firstPart found

def iproduct (r : Rewriter) (stmt : RewriteMetaData) (part : Part) (tables : List TryTable) :
    StrategyTyp → Outcome (List ChangePlan)
  | .database => r.databaseStrategyIproduct stmt part tables
  | .table => r.tableStrategyIproduct stmt part tables
  | .databaseTable => r.databaseTableStrategyIproduct stmt part tables

/-- The shards of a statement without rows: `database_strategy`, `table_strategy` and
    `database_table_strategy` behind their inserts. -/
def plansOf (r : Rewriter) (stmt : RewriteMetaData) (typ : StrategyTyp) (tryTables : List TryTable) :
    Outcome (List ChangePlan) := do
  let part ← r.partOf typ tryTables stmt.wheres
  r.iproduct stmt part tryTables typ

/-- `ShardingRewriteOutput`: statements of an insert with their text, or the plans of the statements for each
    data source and index. -/
inductive Output where
  | inserts (results : List InsertResult)
  | plans (results : IndexMap DataSourceShardingIdx ChangePlan)

def rewrite (r : Rewriter) (rawSql : List Char) (stmt : SqlStmt) : Outcome Output := do
  let m := getMeta stmt
  let tryTables ← r.findTableRule m.tables
  match tryTables with
  | [] => return .plans []
  | first :: _ =>
    if m.inserts.isEmpty then
      let plans ← r.plansOf m first.rule.getStrategyTyp tryTables
      return .plans (plans.foldl (fun changes plan => changes.push plan.key plan) [])
    else if m.fields.isEmpty then .error .fieldsIsEmpty
    else return .inserts (← r.changeInsertSql rawSql tryTables m.fields m.inserts)

end Rewriter

end DataNexus.ShardingRewrite
