/-
  The insert path of the rewriter (`change_insert_sql` and below in `sharding_rewrite/mod.rs`).

  The rows that the walk filed are sent one by one: the value at the position of the sharding column gives the
  shard, the first row of a shard opens its statement with the text before the first row, its table replaced,
  and every row of the shard adds its own text.  What stands behind the rows is not copied.

  Spans count characters here and bytes in the source, which is the same for ASCII statements.
-/
import DataNexus.Lib.Text
import DataNexus.Sharding.Meta

namespace DataNexus.ShardingRewrite

open DataNexus.Text

/-! ## Names of shards -/

structure ShardingIdx where
  database : Option Nat
  table : Option Nat
  deriving DecidableEq

structure ShardingColumn where
  database : Option String
  table : Option String
  deriving DecidableEq

structure DataSourceShardingIdx where
  ds : DataSource
  idx : ShardingIdx
  column : ShardingColumn
  deriving DecidableEq

/-- `{:05}`. -/
def pad5 (n : Nat) : List Char :=
  let digits := Nat.toDigits 10 n
  List.replicate (5 - digits.length) '0' ++ digits

/-- `contains("`")`. -/
def isQuoted (name : String) : Bool := name.toList.contains '`'

def Rewriter.changeTable (r : Rewriter) (table : TableIdent) (actualDb : String) (tableIdx : Nat) :
    Outcome (List Char) := do
  let db ← match table.schema with
    | some schema => .ok schema
    | none => unwrap r.defaultDb
  if actualDb.isEmpty then
    let name := (unquote table.name).toList ++ '_' :: pad5 tableIdx
    return '`' :: (db.toList ++ ['`', '.'] ++ (if isQuoted table.name then '`' :: (name ++ ['`']) else name))
  else
    let schema := if isQuoted db then '`' :: (actualDb.toList ++ ['`']) else actualDb.toList
    return schema ++ '.' :: table.name.toList

/-- `change_sql` with offset `0`: the text of the span is replaced. -/
def changeSql (sql : List Char) (span : Span) (target : List Char) : Outcome (List Char) :=
  if span.start ≤ span.stop ∧ span.stop ≤ sql.length then
    .ok (sql.take span.start ++ target ++ sql.drop span.stop)
  else .error .panic

/-! ## The shard of a row -/

/-- `ShardingMetaBaseInfo`: a rule with one strategy has it in the first place. -/
structure ShardingMetaBaseInfo where
  column : Option String × Option String
  count : Option Nat × Option Nat
  algo : Option ShardingAlgorithmName × Option ShardingAlgorithmName

/-- The base info that `change_insert_sql` makes of a rule. -/
def baseInfo (rule : Sharding) : ShardingMetaBaseInfo :=
  match rule.strategy with
  | .table _ _ _ =>
    { column := (rule.getShardingColumn.2, none), count := (rule.getShardingCount.2, none),
      algo := (rule.getAlgo.2, none) }
  | .database _ _ =>
    { column := (rule.getShardingColumn.1, none), count := (rule.getShardingCount.1, none),
      algo := (rule.getAlgo.1, none) }
  | .databaseTable _ _ _ _ _ =>
    { column := rule.getShardingColumn, count := rule.getShardingCount, algo := rule.getAlgo }

/-- `InsertShardingValue` with its span: `ChangeInsertMeta`. -/
structure ChangeInsertMeta where
  database : Option String
  table : Option String
  span : Span

structure InsertRowValueIdx where
  shardingIdx : ShardingIdx
  span : Span
  deriving DecidableEq

def findInsertFieldIdx (fields : List FieldMeta) (column : String) : Outcome Nat :=
  okOr .shardingColumnNotFound (fields.findIdx? fun
    | .ident name _ => name == column
    | .tableWild _ => false)

def findInserts (typ : StrategyTyp) (inserts : List InsertValsMeta) (fields : List FieldMeta)
    (info : ShardingMetaBaseInfo) : Outcome (List ChangeInsertMeta) := do
  match typ with
  | .database =>
    let column ← unwrap info.column.1
    let idx ← findInsertFieldIdx fields column
    inserts.mapM fun x => do return { database := some (← unwrap x.values[idx]?), table := none, span := x.span }
  | .table =>
    let column ← unwrap info.column.1
    let idx ← findInsertFieldIdx fields column
    inserts.mapM fun x => do return { database := none, table := some (← unwrap x.values[idx]?), span := x.span }
  | .databaseTable =>
    let dbColumn ← unwrap info.column.1
    let dbIdx ← findInsertFieldIdx fields dbColumn
    let tableColumn ← unwrap info.column.2
    let tableIdx ← findInsertFieldIdx fields tableColumn
    inserts.mapM fun x => do
      return { database := some (← unwrap x.values[dbIdx]?), table := some (← unwrap x.values[tableIdx]?),
               span := x.span }

/-- The index of a recorded value: it is read as a `u64`. -/
def calcShardingIdx (arith : Arith) (value : Option String) (algo : Option ShardingAlgorithmName)
    (count : Option Nat) : Outcome Nat := do
  let algo ← unwrap algo
  let count ← unwrap count
  let value ← okOr .calcShardingIdxError value
  let value ← okOr .parseIntError (parseU64 value)
  calcU64 arith value algo count

def calcDatabaseOrTableShardingIdx (arith : Arith) (value : Option String) (info : ShardingMetaBaseInfo) :
    Outcome Nat :=
  calcShardingIdx arith value info.algo.1 info.count.1

def calcDatabaseAndTableShardingIdx (arith : Arith) (dbValue tableValue : Option String)
    (info : ShardingMetaBaseInfo) : Outcome (Nat × Nat) := do
  let dbIdx ← calcShardingIdx arith dbValue info.algo.1 info.count.1
  let tableIdx ← calcShardingIdx arith tableValue info.algo.2 info.count.2
  return (dbIdx, tableIdx)

def changeInsert (arith : Arith) (typ : StrategyTyp) (inserts : List InsertValsMeta) (fields : List FieldMeta)
    (info : ShardingMetaBaseInfo) : Outcome (List InsertRowValueIdx) := do
  let values ← findInserts typ inserts fields info
  values.mapM fun value =>
    match typ with
    | .database => do
      let idx ← calcDatabaseOrTableShardingIdx arith value.database info
      return ⟨⟨some idx, none⟩, value.span⟩
    | .table => do
      let idx ← calcDatabaseOrTableShardingIdx arith value.table info
      return ⟨⟨none, some idx⟩, value.span⟩
    | .databaseTable => do
      let (dbIdx, tableIdx) ← calcDatabaseAndTableShardingIdx arith value.database value.table info
      return ⟨⟨some dbIdx, some tableIdx⟩, value.span⟩

/-! ## The statements -/

/-- `ShardingRewriteResult` of an insert. -/
structure InsertResult where
  dsIdx : DataSourceShardingIdx
  targetSql : List Char
  deriving DecidableEq

/-- `entry(key).or_insert(prefix).push_str(row)`. -/
def pushRow : List (ShardingIdx × List Char) → ShardingIdx → List Char → List Char →
    List (ShardingIdx × List Char)
  | [], key, front, row => [(key, front ++ row)]
  | (k, text) :: sqls, key, front, row =>
    if k = key then (k, text ++ row) :: sqls else (k, text) :: pushRow sqls key front row

def Rewriter.insertTarget (r : Rewriter) (rule : Sharding) (table : TableIdent) (idx : ShardingIdx) :
    Outcome (List Char) := do
  match rule.getStrategyTyp with
  | .database =>
    let dbIdx ← unwrap idx.database
    let actualDb := (← rule.getActualSchema r.endpoints dbIdx).getD ""
    r.changeTable table actualDb dbIdx
  | .table =>
    let tableIdx ← unwrap idx.table
    r.changeTable table "" tableIdx
  | .databaseTable =>
    let dbIdx ← unwrap idx.database
    let actualDb := (← rule.getActualSchema r.endpoints dbIdx).getD ""
    let _ ← r.changeTable table actualDb dbIdx
    let tableIdx ← unwrap idx.table
    r.changeTable { table with schema := some actualDb } "" tableIdx

/-- One turn of the loop over the rows: `get_change_insert_row` and the push. -/
def Rewriter.insertRow (r : Rewriter) (rule : Sharding) (table : TableIdent) (rawSql front : List Char)
    (sqls : List (ShardingIdx × List Char)) (change : InsertRowValueIdx) :
    Outcome (List (ShardingIdx × List Char)) := do
  let target ← r.insertTarget rule table change.shardingIdx
  let targetFront ← changeSql front table.span target
  let row ← unwrap (slice change.span.start change.span.stop rawSql)
  return pushRow sqls change.shardingIdx targetFront (row ++ [',', ' '])

/-- `trim_end_matches(", ")`. -/
def trimComma (s : List Char) : List Char :=
  let rec go : List Char → List Char
    | ' ' :: ',' :: rest => go rest
    | rest => rest
  (go s.reverse).reverse

def Rewriter.changeInsertSqlInner (r : Rewriter) (rawSql : List Char) (rule : Sharding) (table : TableIdent)
    (inserts : List InsertValsMeta) (fields : List FieldMeta) : Outcome (List InsertResult) := do
  let info := baseInfo rule
  let changes ← changeInsert r.arith rule.getStrategyTyp inserts fields info
  let first ← unwrap changes[0]?
  let front ← unwrap (slice 0 first.span.start rawSql)
  let sqls ← changes.foldlM (r.insertRow rule table rawSql front) []
  sqls.mapM fun (idx, text) => do
    let ds ← r.genDataSource rule (idx.database.getD 0)
    return ⟨⟨ds, idx, ⟨info.column.1, info.column.2⟩⟩, trimComma text⟩

/-- A table of the statement that has a rule: an entry of `try_tables`. -/
structure TryTable where
  queryId : Nat
  rule : Sharding
  table : TableIdent
  deriving DecidableEq

def Rewriter.changeInsertSql (r : Rewriter) (rawSql : List Char) (tryTables : List TryTable)
    (fields : IndexMap Nat FieldMeta) (inserts : IndexMap Nat InsertValsMeta) : Outcome (List InsertResult) := do
  let results ← tryTables.mapM fun t => do
    r.changeInsertSqlInner rawSql t.rule t.table (← unwrap (inserts.get? t.queryId))
      (← unwrap (fields.get? t.queryId))
  return results.flatten

end DataNexus.ShardingRewrite
