/-
  The rows of an insert, as the walk files them.

  The walk files the literals that it meets in a row, not the expressions: `-3` files `3`, `NULL` and calls of
  functions file nothing, `3 + 4` files two values.  A row with a query inside is not filed.

  * `recordedNumber` — the number that the rewriter reads at a column, from the literals;
  * `RowValue.numberAt` — the number that stands at the column, from the expressions;
  * `getMeta_insert` — what is filed of an insert without queries;
  * `changeInsert_eq_ok` — the shard of a row is the one of its recorded numbers.
-/
import DataNexus.Sharding.Shards

namespace DataNexus.ShardingRewrite

open DataNexus.Fallible

/-! ## Literals of a row -/

def Node.literal : Node → Option String
  | .expr (.literal (.num number)) => some number
  | .expr (.literal (.text text)) => some text
  | _ => none

def Node.isExpr : Node → Bool
  | .expr _ => true
  | _ => false

def plain (exprs : List Expr) : Bool := (visitExprs exprs).all Node.isExpr

/-- The values that are filed of a row without queries. -/
def recorded (exprs : List Expr) : List String := (visitExprs exprs).filterMap Node.literal

def RowValue.filed (row : RowValue) : InsertValsMeta := ⟨recorded row.values, row.span⟩

def fieldsOf (idents : List InsertIdent) : List FieldMeta :=
  idents.filterMap fun
    | .ident (.ident value quoted) => some (.ident (if quoted then unquote value else value) .none)
    | .ident _ => none
    | .tableWild table => some (.tableWild table)

namespace RewriteMetaData

structure Keeps (m m' : RewriteMetaData) : Prop where
  tables : m'.tables = m.tables
  fields : m'.fields = m.fields
  inserts : m'.inserts = m.inserts
  queryId : m'.queryId = m.queryId

theorem transExpr_keeps (m : RewriteMetaData) (e : Expr) : Keeps m (m.transExpr e) := by
  unfold transExpr
  repeat' split
  all_goals exact ⟨rfl, rfl, rfl, rfl⟩

variable {nodes : List Node} {m : RewriteMetaData} {args : List String}

theorem foldl_trans_exprs (h : nodes.all Node.isExpr = true) (m : RewriteMetaData) :
    Keeps m (nodes.foldl trans m) := by
  induction nodes generalizing m with
  | nil => exact ⟨rfl, rfl, rfl, rfl⟩
  | cons n nodes ih =>
    rw [List.all_cons, Bool.and_eq_true] at h
    cases n
    case expr e =>
      obtain ⟨ht, hf, hi, hq⟩ := ih h.2 (m.transExpr e)
      obtain ⟨ht', hf', hi', hq'⟩ := transExpr_keeps m e
      exact ⟨ht.trans ht', hf.trans hf', hi.trans hi', hq.trans hq'⟩
    all_goals cases h.1

theorem transExpr_state (hm : m.state = .insertRowValue args) (e : Expr) :
    (m.transExpr e).state = .insertRowValue (args ++ (Node.literal (.expr e)).toList) := by
  cases e
  case simpleIdent value => cases value <;> simp [transExpr, hm, Node.literal]
  case binaryOperation operator left right =>
    simp only [transExpr]
    split <;> simp [hm, Node.literal]
  case literal value => cases value <;> simp [transExpr, hm, Node.literal]
  all_goals simp [transExpr, hm, Node.literal]

theorem foldl_trans_state (h : nodes.all Node.isExpr = true) (hm : m.state = .insertRowValue args) :
    (nodes.foldl trans m).state = .insertRowValue (args ++ nodes.filterMap Node.literal) := by
  induction nodes generalizing m args with
  | nil => simpa using hm
  | cons n nodes ih =>
    rw [List.all_cons, Bool.and_eq_true] at h
    cases n
    case expr e =>
      rw [List.foldl_cons, show m.trans (.expr e) = m.transExpr e from rfl, ih h.2 (transExpr_state hm e),
        List.append_assoc]
      cases hl : Node.literal (.expr e) <;> simp [hl]
    all_goals cases h.1

/-- The state in which a row begins with no values. -/
def Ready (m : RewriteMetaData) : Prop := ∀ args, m.state = .insertRowValue args → args = []

theorem trans_completeRow (hm : m.state = .insertRowValue args) (span : Span) : m.trans (.completeRow span) =
      { m with state := .insertRowValue [], inserts := m.inserts.push m.queryId ⟨args, span⟩ } := by
  simp only [trans, hm]

theorem foldl_trans_row {row : RowValue} (h : plain row.values = true) (hm : m.Ready) :
    let m' := row.visit.foldl trans m
    m'.Ready ∧ m'.tables = m.tables ∧ m'.fields = m.fields ∧ m'.queryId = m.queryId ∧
      m'.inserts = m.inserts.push m.queryId row.filed := by
  have hstart : (m.trans .rowValue).state = .insertRowValue [] ∧ Keeps m (m.trans .rowValue) := by
    simp only [trans]
    split
    · rename_i args hargs
      rw [hm args hargs] at hargs
      exact ⟨hargs, rfl, rfl, rfl, rfl⟩
    · exact ⟨rfl, rfl, rfl, rfl, rfl⟩
  obtain ⟨hstate, ht, hf, hi, hq⟩ := hstart
  have hargs := foldl_trans_state h hstate
  obtain ⟨ht', hf', hi', hq'⟩ := foldl_trans_exprs h (m.trans .rowValue)
  intro m'
  have heq : m' = (((visitExprs row.values).foldl trans (m.trans .rowValue)).trans (.completeRow row.span)) := by
    simp [m', RowValue.visit, List.foldl_append]
  rw [heq, trans_completeRow hargs]
  refine ⟨?_, ht'.trans ht, hf'.trans hf, hq'.trans hq, ?_⟩
  · intro args hempty
    exact (ScanState.insertRowValue.inj hempty).symm
  · show IndexMap.push _ _ _ = _
    rw [hi', hi, hq', hq]
    rfl

theorem foldl_trans_rows {rows : List RowValue} (h : ∀ row ∈ rows, plain row.values = true) (hm : m.Ready) :
    let m' := (rows.flatMap RowValue.visit).foldl trans m
    m'.tables = m.tables ∧ m'.fields = m.fields ∧ m'.queryId = m.queryId ∧
      m'.inserts = rows.foldl (fun inserts row => inserts.push m.queryId row.filed) m.inserts := by
  induction rows generalizing m with
  | nil => exact ⟨rfl, rfl, rfl, rfl⟩
  | cons row rows ih =>
    rw [List.forall_mem_cons] at h
    obtain ⟨hready, ht, hf, hq, hi⟩ := foldl_trans_row h.1 hm
    obtain ⟨ht', hf', hq', hi'⟩ := ih h.2 hready
    rw [List.flatMap_cons, List.foldl_append]
    refine ⟨ht'.trans ht, hf'.trans hf, hq'.trans hq, ?_⟩
    rw [hi', hi, hq]
    rfl

theorem foldl_trans_idents (idents : List InsertIdent) (m : RewriteMetaData) :
    let m' := (idents.map .insertIdent).foldl trans m
    m'.tables = m.tables ∧ m'.inserts = m.inserts ∧ m'.queryId = m.queryId ∧
      m'.fields = (fieldsOf idents).foldl (fun fields field => fields.push m.queryId field) m.fields := by
  induction idents generalizing m with
  | nil => exact ⟨rfl, rfl, rfl, rfl⟩
  | cons ident idents ih =>
    obtain ⟨ht, hi, hq, hf⟩ := ih (m.trans (.insertIdent ident))
    rw [List.map_cons, List.foldl_cons]
    cases ident with
    | ident value =>
      cases value <;> exact ⟨ht, hi, hq, hf⟩
    | tableWild table => exact ⟨ht, hi, hq, hf⟩

end RewriteMetaData

variable {κ α β : Type}

theorem IndexMap.foldl_push_same [DecidableEq κ] (k : κ) (value : β → α) (as : List α) (bs : List β) :
    bs.foldl (fun m b => IndexMap.push m k (value b)) [(k, as)] = [(k, as ++ bs.map value)] := by
  induction bs generalizing as with
  | nil => simp
  | cons b bs ih => simp [IndexMap.push, ih]

theorem IndexMap.foldl_push_new [DecidableEq κ] (k : κ) (value : β → α) {bs : List β} (h : bs ≠ []) :
    bs.foldl (fun m b => IndexMap.push m k (value b)) [] = [(k, bs.map value)] := by
  cases bs with
  | nil => exact absurd rfl h
  | cons b bs => simpa [IndexMap.push] using IndexMap.foldl_push_same k value [value b] bs

/-- `INSERT INTO table(idents) VALUES rows …`. -/
def valuesInsert (table : TableIdent) (idents : List InsertIdent) (rows : List RowValue)
    (insUpdates updates : List Expr) : SqlStmt :=
  .insert { table, construct := some ⟨rows, idents⟩, insUpdates, updates, queryExpr := none }

theorem getMeta_insert (table : TableIdent) (idents : List InsertIdent) {rows : List RowValue}
    {insUpdates updates : List Expr} (hrows : ∀ row ∈ rows, plain row.values = true)
    (hins : plain insUpdates = true) (hupdates : plain updates = true) :
    let m := getMeta (valuesInsert table idents rows insUpdates updates)
    m.tables = [(0, [table])] ∧
      m.inserts = (rows.foldl (fun inserts row => IndexMap.push inserts 0 row.filed) []) ∧
      m.fields = ((fieldsOf idents).foldl (fun fields field => IndexMap.push fields 0 field) []) := by
  intro m
  let start := RewriteMetaData.new.trans (.insertStmt table)
  have hready : start.Ready := by
    intro args h
    cases h
  obtain ⟨ht, hf, hq, hi⟩ := RewriteMetaData.foldl_trans_rows hrows hready
  obtain ⟨ht', hi', hq', hf'⟩ := RewriteMetaData.foldl_trans_idents idents
    ((rows.flatMap RowValue.visit).foldl RewriteMetaData.trans start)
  obtain ⟨ht₂, hf₂, hi₂, -⟩ := RewriteMetaData.foldl_trans_exprs hins
    ((idents.map .insertIdent).foldl RewriteMetaData.trans
      ((rows.flatMap RowValue.visit).foldl RewriteMetaData.trans start))
  obtain ⟨ht₃, hf₃, hi₃, -⟩ := RewriteMetaData.foldl_trans_exprs hupdates
    ((visitExprs insUpdates).foldl RewriteMetaData.trans
      ((idents.map .insertIdent).foldl RewriteMetaData.trans
        ((rows.flatMap RowValue.visit).foldl RewriteMetaData.trans start)))
  have heq : m = (visitExprs updates).foldl RewriteMetaData.trans
      ((visitExprs insUpdates).foldl RewriteMetaData.trans
        ((idents.map .insertIdent).foldl RewriteMetaData.trans
          ((rows.flatMap RowValue.visit).foldl RewriteMetaData.trans start))) := by
    simp [m, getMeta, valuesInsert, SqlStmt.visit, InsertFromConstruct.visit, List.foldl_append, start]
  rw [heq, ht₃, ht₂, ht', ht, hi₃, hi₂, hi', hi, hf₃, hf₂, hf', hf, hq]
  exact ⟨rfl, rfl, rfl⟩

/-! ## Numbers at the sharding columns -/

/-- The number that the rewriter reads at a column. -/
def recordedNumber (fields : List FieldMeta) (values : List String) (column : String) : Option Nat := do
  let p ← (findInsertFieldIdx fields column).toOption
  parseU64 (← values[p]?)

def Sharding.idxOf (rule : Sharding) (arith : Arith) (number : String → Option Nat) : Option ShardingIdx :=
  match rule.strategy with
  | .database algo column => do
    let i ← (calcU64 arith (← number column) algo rule.actualDatanodes.length).toOption
    return ⟨some i, none⟩
  | .table algo column count => do
    let k ← (calcU64 arith (← number column) algo count).toOption
    return ⟨none, some k⟩
  | .databaseTable dbAlgo dbColumn tableAlgo tableColumn count => do
    let i ← (calcU64 arith (← number dbColumn) dbAlgo rule.actualDatanodes.length).toOption
    let k ← (calcU64 arith (← number tableColumn) tableAlgo count).toOption
    return ⟨some i, some k⟩

theorem Sharding.idxOf_valid {rule : Sharding} {arith : Arith} {number : String → Option Nat} {idx : ShardingIdx}
    (h : rule.idxOf arith number = some idx) : rule.Valid idx := by
  obtain ⟨tableName, nodes, strategy⟩ := rule
  cases strategy with
  | database algo column =>
    obtain ⟨v, hv, h⟩ := Option.bind_eq_some_iff.mp h
    obtain ⟨i, hi, h⟩ := Option.bind_eq_some_iff.mp h
    cases h
    exact ⟨i, calcU64_lt (toOption_eq_some.mp hi), rfl⟩
  | table algo column count =>
    obtain ⟨v, hv, h⟩ := Option.bind_eq_some_iff.mp h
    obtain ⟨k, hk, h⟩ := Option.bind_eq_some_iff.mp h
    cases h
    exact ⟨k, calcU64_lt (toOption_eq_some.mp hk), rfl⟩
  | databaseTable dbAlgo dbColumn tableAlgo tableColumn count =>
    obtain ⟨v, hv, h⟩ := Option.bind_eq_some_iff.mp h
    obtain ⟨i, hi, h⟩ := Option.bind_eq_some_iff.mp h
    obtain ⟨w, hw, h⟩ := Option.bind_eq_some_iff.mp h
    obtain ⟨k, hk, h⟩ := Option.bind_eq_some_iff.mp h
    cases h
    exact ⟨i, calcU64_lt (toOption_eq_some.mp hi), k, calcU64_lt (toOption_eq_some.mp hk), rfl⟩

theorem calcShardingIdx_eq_ok {arith : Arith} {value : String} {algo : ShardingAlgorithmName} {count i : Nat} :
    calcShardingIdx arith (some value) (some algo) (some count) = .ok i ↔
      ∃ v, parseU64 value = some v ∧ calcU64 arith v algo count = .ok i := by
  show ((okOr Failure.parseIntError (parseU64 value)) >>= fun v => calcU64 arith v algo count) = .ok i ↔ _
  rw [bind_eq_ok]
  simp only [okOr_eq_ok]

theorem recordedNumber_eq_some {fields : List FieldMeta} {values : List String} {column : String} {v : Nat} :
    recordedNumber fields values column = some v ↔
      ∃ p, findInsertFieldIdx fields column = .ok p ∧ ∃ text, values[p]? = some text ∧ parseU64 text = some v := by
  unfold recordedNumber
  simp only [Option.bind_eq_bind, Option.bind_eq_some_iff, toOption_eq_some]

/-- **The shard of a row is the one of its recorded numbers.** -/
theorem changeInsert_eq_ok {arith : Arith} {rule : Sharding} {fields : List FieldMeta} {xs : List InsertValsMeta}
    (hxs : xs ≠ []) {changes : List InsertRowValueIdx} :
    changeInsert arith rule.getStrategyTyp xs fields (baseInfo rule) = .ok changes ↔
      List.Forall₂ (fun x change => rule.idxOf arith (recordedNumber fields x.values) = some change.shardingIdx ∧
        change.span = x.span) xs changes := by
  -- every row needs the place of the column, and there is a row
  have hplace : ∀ (column : String) (A : Nat → InsertValsMeta → InsertRowValueIdx → Prop),
      (∃ p, findInsertFieldIdx fields column = .ok p ∧ List.Forall₂ (A p) xs changes) ↔
        List.Forall₂ (fun x change => ∃ p, findInsertFieldIdx fields column = .ok p ∧ A p x change) xs changes := by
    intro column A
    constructor
    · rintro ⟨p, hp, h⟩
      exact h.imp fun x change hA => ⟨p, hp, hA⟩
    · intro h
      cases h with
      | nil => exact absurd rfl hxs
      | cons hx hrest =>
        obtain ⟨p, hp, hA⟩ := hx
        refine ⟨p, hp, .cons hA (hrest.imp ?_)⟩
        rintro x change ⟨q, hq, hA⟩
        rw [hp] at hq
        cases hq
        exact hA
  have hrows : ∀ {A B : InsertValsMeta → InsertRowValueIdx → Prop}, (∀ x change, A x change ↔ B x change) →
      (List.Forall₂ A xs changes ↔ List.Forall₂ B xs changes) := by
    intro A B hiff
    exact ⟨fun h => h.imp fun x change => (hiff x change).mp, fun h => h.imp fun x change => (hiff x change).mpr⟩
  obtain ⟨tableName, nodes, strategy⟩ := rule
  cases strategy with
  | database algo column =>
    show ((findInsertFieldIdx fields column >>= fun p => xs.mapM _) >>= fun values => values.mapM _) = _ ↔ _
    rw [bind_assoc, bind_eq_ok]
    simp only [mapM_bind_mapM_eq_ok]
    rw [hplace]
    refine hrows fun x change => ?_
    simp only [Sharding.getStrategyTyp, calcDatabaseOrTableShardingIdx, baseInfo, Sharding.getAlgo,
      Sharding.getShardingCount, bind_eq_ok, unwrap_eq_ok, pure_eq_ok, Sharding.idxOf, Option.bind_eq_bind,
      Option.bind_eq_some_iff, recordedNumber_eq_some, toOption_eq_some]
    constructor
    · rintro ⟨p, hp, _, ⟨text, htext, rfl⟩, i, hi, rfl⟩
      obtain ⟨v, hv, hi⟩ := calcShardingIdx_eq_ok.mp hi
      exact ⟨⟨v, ⟨p, hp, text, htext, hv⟩, i, hi, rfl⟩, rfl⟩
    · obtain ⟨idx, span⟩ := change
      rintro ⟨⟨v, ⟨p, hp, text, htext, hv⟩, i, hi, h⟩, rfl⟩
      cases h
      exact ⟨p, hp, _, ⟨text, htext, rfl⟩, i, calcShardingIdx_eq_ok.mpr ⟨v, hv, hi⟩, rfl⟩
  | table algo column count =>
    show ((findInsertFieldIdx fields column >>= fun p => xs.mapM _) >>= fun values => values.mapM _) = _ ↔ _
    rw [bind_assoc, bind_eq_ok]
    simp only [mapM_bind_mapM_eq_ok]
    rw [hplace]
    refine hrows fun x change => ?_
    simp only [Sharding.getStrategyTyp, calcDatabaseOrTableShardingIdx, baseInfo, Sharding.getAlgo,
      Sharding.getShardingCount, bind_eq_ok, unwrap_eq_ok, pure_eq_ok, Sharding.idxOf, Option.bind_eq_bind,
      Option.bind_eq_some_iff, recordedNumber_eq_some, toOption_eq_some]
    constructor
    · rintro ⟨p, hp, _, ⟨text, htext, rfl⟩, k, hk, rfl⟩
      obtain ⟨v, hv, hk⟩ := calcShardingIdx_eq_ok.mp hk
      exact ⟨⟨v, ⟨p, hp, text, htext, hv⟩, k, hk, rfl⟩, rfl⟩
    · obtain ⟨idx, span⟩ := change
      rintro ⟨⟨v, ⟨p, hp, text, htext, hv⟩, k, hk, h⟩, rfl⟩
      cases h
      exact ⟨p, hp, _, ⟨text, htext, rfl⟩, k, calcShardingIdx_eq_ok.mpr ⟨v, hv, hk⟩, rfl⟩
  | databaseTable dbAlgo dbColumn tableAlgo tableColumn count =>
    show ((findInsertFieldIdx fields dbColumn >>= fun p => findInsertFieldIdx fields tableColumn >>= fun q =>
      xs.mapM _) >>= fun values => values.mapM _) = _ ↔ _
    simp only [bind_assoc]
    rw [bind_eq_ok]
    refine (exists_congr fun p => and_congr_right fun _ => bind_eq_ok.trans <|
      (exists_congr fun q => and_congr_right fun _ => mapM_bind_mapM_eq_ok).trans (hplace tableColumn _)).trans ?_
    rw [hplace]
    refine hrows fun x change => ?_
    simp only [Sharding.getStrategyTyp, calcDatabaseAndTableShardingIdx, baseInfo, Sharding.getAlgo,
      Sharding.getShardingCount, bind_eq_ok, unwrap_eq_ok, pure_eq_ok, Sharding.idxOf, Option.bind_eq_bind,
      Option.bind_eq_some_iff, recordedNumber_eq_some, toOption_eq_some]
    constructor
    · rintro ⟨p, hp, q, hq, _, ⟨dbText, hdbText, tableText, htableText, rfl⟩, _, ⟨i, hi, k, hk, rfl⟩, rfl⟩
      obtain ⟨v, hv, hi⟩ := calcShardingIdx_eq_ok.mp hi
      obtain ⟨w, hw, hk⟩ := calcShardingIdx_eq_ok.mp hk
      exact ⟨⟨v, ⟨p, hp, dbText, hdbText, hv⟩, i, hi, w, ⟨q, hq, tableText, htableText, hw⟩, k, hk, rfl⟩, rfl⟩
    · obtain ⟨idx, span⟩ := change
      rintro ⟨⟨v, ⟨p, hp, dbText, hdbText, hv⟩, i, hi, w, ⟨q, hq, tableText, htableText, hw⟩, k, hk, h⟩, rfl⟩
      cases h
      exact ⟨p, hp, q, hq, _, ⟨dbText, hdbText, tableText, htableText, rfl⟩, _,
        ⟨i, calcShardingIdx_eq_ok.mpr ⟨v, hv, hi⟩, k, calcShardingIdx_eq_ok.mpr ⟨w, hw, hk⟩, rfl⟩, rfl⟩

end DataNexus.ShardingRewrite
