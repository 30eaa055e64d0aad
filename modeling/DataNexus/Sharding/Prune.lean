/-
  Which shards a statement is sent to, against where its rows are.

  The rewriter lists all shards or follows an index that it found in an equality.  It looks at no connective
  above the equality, so the index may be one that the statement does not force.

  `pruning_sound_iff`: a statement finds every row that can satisfy its condition iff it can be rewritten and its
  condition forces the row into the shards with the named index.
-/
import DataNexus.Sharding.Condition
import DataNexus.Sharding.Shards

namespace DataNexus.ShardingRewrite

open DataNexus.Fallible

/-! ## Blocks -/

mutual

/-- The tables that a reference names itself, not those inside a derived table. -/
def TableRef.tables : TableRef → List TableIdent
  | .singleTable table => [table]
  | .derivedTable _ => []
  | .joinedTable left right _ => left.tables ++ right.tables
  | .tableRefsParens refs => tablesOf refs
  | .tableFunc _ => []

def tablesOf : List TableRef → List TableIdent
  | [] => []
  | ref :: refs => ref.tables ++ tablesOf refs

end

/-- A block of a statement: the tables that it reads and the condition on their rows. -/
structure Block where
  tables : List TableIdent
  where_ : Option Expr

mutual

/-- The blocks that give the rows of a query: itself and the arms of its unions. -/
def SelectStmt.blocks : SelectStmt → List Block
  | .query query => query.blocks
  | .subQuery query union _ _ => query.blocks ++ unionBlocks union
  | .withQuery _ body => body.blocks
  | .valueConstructor _ => []
  | .explicitTable _ => []
  | .none => []

def unionBlocks : Option SelectStmt → List Block
  | none => []
  | some select => select.blocks

/-- A `SELECT` with its unions. -/
def Query.blocks : Query → List Block
  | .mk _ refs w _ _ _ _ union => ⟨tablesOf refs, w⟩ :: unionBlocks union

end

/-- The blocks of a `SELECT`, `UPDATE` or `DELETE`. -/
def SqlStmt.blocks : SqlStmt → List Block
  | .select s => s.blocks
  | .update s => [⟨tablesOf s.tableRefs, s.where_⟩]
  | .delete s => [⟨s.table.toList ++ tablesOf s.tableRefs, s.where_⟩]
  | .insert _ => []
  | .other => []

/-- The row can satisfy the condition of the block. -/
def Block.Matches (block : Block) (row : Row) : Prop := ∀ w, block.where_ = some w → Evaluates row w (some true)

/-- The decision of `Matches`. -/
def Block.admits (block : Block) (row : Row) : Bool := block.where_.all (ShardingRewrite.admits row true)

theorem Block.matches_iff_admits (block : Block) (row : Row) : block.Matches row ↔ block.admits row = true := by
  unfold Block.Matches Block.admits
  cases block.where_ with
  | none => simp
  | some w => simp [evaluates_iff_admits]

/-! ## Where rows are -/

/-- A row is inserted with an index: the insert path gives it to some list of values which has the row's numbers
    at the sharding columns. -/
def InsertedAt (arith : Arith) (rule : Sharding) (row : Row) (idx : ShardingIdx) : Prop :=
  ∃ (x : InsertValsMeta) (fields : List FieldMeta),
    changeInsert arith rule.getStrategyTyp [x] fields (baseInfo rule) = .ok [⟨idx, x.span⟩] ∧
    ∀ column ∈ rule.columns, ∀ p text, findInsertFieldIdx fields column = .ok p → x.values[p]? = some text →
      ∃ v, parseU64 text = some v ∧ row column = some v

namespace Rewriter

/-- A table of the statement is the sharded one: it has the rule, and its database is named or is the one of a
    node of the rule. -/
def IsSharded (r : Rewriter) (rule : Sharding) (t : TableIdent) : Prop :=
  r.ruleOf t = some rule ∧
    (t.schema.isSome ∨ ∃ db, r.defaultDb = some db ∧ ∃ node ∈ rule.actualDatanodes,
      ∃ ep ∈ r.endpoints, ep.name = node ∧ ep.db = db)

/-- A statement for the table and the shard is among those of the result. -/
def Output.Reaches (output : Output) (t : TableIdent) (s : Shard) : Prop :=
  match output with
  | .inserts _ => False
  | .plans results => ∃ x ∈ results.entries, x.2.table = t ∧ x.2.shard = s

/-- Every row that can satisfy the condition of a block is in a shard that the block's table is sent to. -/
def PruningSound (r : Rewriter) (rawSql : List Char) (stmt : SqlStmt) (rule : Sharding) : Prop :=
  ∀ block ∈ stmt.blocks, ∀ t ∈ block.tables, r.IsSharded rule t →
    ∀ row idx, InsertedAt r.arith rule row idx → block.Matches row →
      ∀ s, r.insertShard rule idx = .ok s → ∃ output, r.rewrite rawSql stmt = .ok output ∧ output.Reaches t s

/-- The named index agrees with the one of a row: the node has the same place, and the table is the same. -/
structure Agrees (r : Rewriter) (rule : Sharding) (named : Option Nat × Option Nat) (idx : ShardingIdx) : Prop where
  node : ∀ i ∈ named.1, ∀ s, r.insertShard rule idx = .ok s → r.insertShard rule ⟨some i, idx.table⟩ = .ok s
  table : ∀ k ∈ named.2, idx.table = some k

/-! ## Indexes of rows -/

/-- The number of a row at a column has an index. -/
def HasIdx (arith : Arith) (row : Row) (column : String) (algo : ShardingAlgorithmName) (count i : Nat) : Prop :=
  ∃ v, row column = some v ∧ calcU64 arith v algo count = .ok i

theorem hasIdx_of_calc {arith : Arith} {row : Row} {column : String} {fields : List FieldMeta} {values : List String}
    {p : Nat} {value : String} {algo : ShardingAlgorithmName} {count i : Nat}
    (hrow : ∀ p text, findInsertFieldIdx fields column = .ok p → values[p]? = some text →
      ∃ v, parseU64 text = some v ∧ row column = some v)
    (hp : findInsertFieldIdx fields column = .ok p) (hvalue : unwrap values[p]? = .ok value)
    (h : calcShardingIdx arith (some value) (some algo) (some count) = .ok i) :
    HasIdx arith row column algo count i := by
  rw [unwrap_eq_ok] at hvalue
  obtain ⟨v, hparse, hv⟩ := hrow p value hp hvalue
  simp only [calcShardingIdx, unwrap_some, ok_bind, okOr, hparse] at h
  exact ⟨v, hv, h⟩

theorem insertedAt_idx {arith : Arith} {rule : Sharding} {row : Row} {idx : ShardingIdx}
    (h : InsertedAt arith rule row idx) : match rule.strategy with
    | .database algo column =>
      ∃ i, HasIdx arith row column algo rule.actualDatanodes.length i ∧ idx = ⟨some i, none⟩
    | .table algo column count => ∃ k, HasIdx arith row column algo count k ∧ idx = ⟨none, some k⟩
    | .databaseTable dbAlgo dbColumn tableAlgo tableColumn count =>
      ∃ i k, HasIdx arith row dbColumn dbAlgo rule.actualDatanodes.length i ∧
        HasIdx arith row tableColumn tableAlgo count k ∧ idx = ⟨some i, some k⟩ := by
  obtain ⟨x, fields, h, hrow⟩ := h
  obtain ⟨changes, hvalues, h⟩ := bind_eq_ok.mp h
  obtain ⟨change, hchange, hidx⟩ := (mem_of_mapM h).mp List.mem_cons_self
  obtain ⟨tableName, nodes, strategy⟩ := rule
  cases strategy with
  | database algo column =>
    obtain ⟨_, ⟨⟩, hvalues⟩ := bind_eq_ok.mp hvalues
    obtain ⟨p, hp, hvalues⟩ := bind_eq_ok.mp hvalues
    obtain ⟨x', hx', hchange⟩ := (mem_of_mapM hvalues).mp hchange
    rw [List.mem_singleton] at hx'
    subst hx'
    obtain ⟨value, hvalue, hchange⟩ := bind_eq_ok.mp hchange
    cases hchange
    obtain ⟨i, hi, hidx⟩ := bind_eq_ok.mp hidx
    exact ⟨i, hasIdx_of_calc (hrow column (by simp [Sharding.columns, Sharding.getShardingColumn])) hp hvalue hi,
      (congrArg InsertRowValueIdx.shardingIdx (pure_eq_ok.mp hidx)).symm⟩
  | table algo column count =>
    obtain ⟨_, ⟨⟩, hvalues⟩ := bind_eq_ok.mp hvalues
    obtain ⟨p, hp, hvalues⟩ := bind_eq_ok.mp hvalues
    obtain ⟨x', hx', hchange⟩ := (mem_of_mapM hvalues).mp hchange
    rw [List.mem_singleton] at hx'
    subst hx'
    obtain ⟨value, hvalue, hchange⟩ := bind_eq_ok.mp hchange
    cases hchange
    obtain ⟨k, hk, hidx⟩ := bind_eq_ok.mp hidx
    exact ⟨k, hasIdx_of_calc (hrow column (by simp [Sharding.columns, Sharding.getShardingColumn])) hp hvalue hk,
      (congrArg InsertRowValueIdx.shardingIdx (pure_eq_ok.mp hidx)).symm⟩
  | databaseTable dbAlgo dbColumn tableAlgo tableColumn count =>
    obtain ⟨_, ⟨⟩, hvalues⟩ := bind_eq_ok.mp hvalues
    obtain ⟨p, hp, hvalues⟩ := bind_eq_ok.mp hvalues
    obtain ⟨_, ⟨⟩, hvalues⟩ := bind_eq_ok.mp hvalues
    obtain ⟨q, hq, hvalues⟩ := bind_eq_ok.mp hvalues
    obtain ⟨x', hx', hchange⟩ := (mem_of_mapM hvalues).mp hchange
    rw [List.mem_singleton] at hx'
    subst hx'
    obtain ⟨dbValue, hdbValue, hchange⟩ := bind_eq_ok.mp hchange
    obtain ⟨tableValue, htableValue, hchange⟩ := bind_eq_ok.mp hchange
    cases hchange
    obtain ⟨⟨i, k⟩, hik, hidx⟩ := bind_eq_ok.mp hidx
    obtain ⟨i', hi, hik⟩ := bind_eq_ok.mp hik
    obtain ⟨k', hk, hik⟩ := bind_eq_ok.mp hik
    cases hik
    exact ⟨i, k,
      hasIdx_of_calc (hrow dbColumn (by simp [Sharding.columns, Sharding.getShardingColumn])) hp hdbValue hi,
      hasIdx_of_calc (hrow tableColumn (by simp [Sharding.columns, Sharding.getShardingColumn])) hq htableValue hk,
      (congrArg InsertRowValueIdx.shardingIdx (pure_eq_ok.mp hidx)).symm⟩

theorem insertedAt_valid {arith : Arith} {rule : Sharding} {row : Row} {idx : ShardingIdx}
    (h : InsertedAt arith rule row idx) : rule.Valid idx := by
  have hidx := insertedAt_idx h
  obtain ⟨tableName, nodes, strategy⟩ := rule
  cases strategy with
  | database algo column =>
    obtain ⟨i, ⟨v, -, hi⟩, rfl⟩ := hidx
    exact ⟨i, calcU64_lt hi, rfl⟩
  | table algo column count =>
    obtain ⟨k, ⟨v, -, hk⟩, rfl⟩ := hidx
    exact ⟨k, calcU64_lt hk, rfl⟩
  | databaseTable dbAlgo dbColumn tableAlgo tableColumn count =>
    obtain ⟨i, k, ⟨v, -, hi⟩, ⟨w, -, hk⟩, rfl⟩ := hidx
    exact ⟨i, calcU64_lt hi, k, calcU64_lt hk, rfl⟩

theorem listed_iff_agrees {r : Rewriter} {rule : Sharding} (husable : rule.Usable r.endpoints)
    {wheres : IndexMap Nat WhereMeta} {idx : ShardingIdx} (hvalid : rule.Valid idx) {s : Shard}
    (hs : r.insertShard rule idx = .ok s) :
    (∃ idx', Listed rule (r.named rule wheres) idx' ∧ r.insertShard rule idx' = .ok s) ↔
      Agrees r rule (r.named rule wheres) idx := by
  constructor
  · rintro ⟨idx', ⟨hvalid', hnode, htable⟩, hs'⟩
    have hsuffix : idx'.table = idx.table := by
      obtain ⟨s₁, h₁, hk₁⟩ := insertShard_isOk husable hvalid
      obtain ⟨s₂, h₂, hk₂⟩ := insertShard_isOk husable hvalid'
      rw [hs] at h₁
      rw [hs'] at h₂
      cases h₁
      cases h₂
      rw [← hk₁, ← hk₂]
    refine ⟨fun i hi s' hs₂ => ?_, fun k hk => ?_⟩
    · rw [hs] at hs₂
      cases hs₂
      have heq : (⟨some i, idx.table⟩ : ShardingIdx) = idx' := by
        rw [← hnode i hi, ← hsuffix]
      rw [heq]
      exact hs'
    · rw [← hsuffix]
      exact htable k hk
  · rintro ⟨hnode, htable⟩
    cases hn : (r.named rule wheres).1 with
    | none => exact ⟨idx, ⟨hvalid, fun n h => (by rw [hn] at h; cases h), htable⟩, hs⟩
    | some i =>
      have hi : i ∈ (r.named rule wheres).1 := by
        rw [hn]
        rfl
      have hlt := named_lt.1 i hi
      refine ⟨⟨some i, idx.table⟩, ⟨?_, fun n h => ?_, htable⟩, hnode i hi s hs⟩
      · obtain ⟨tableName, nodes, strategy⟩ := rule
        cases strategy with
        | database algo column =>
          obtain ⟨j, -, rfl⟩ := hvalid
          exact ⟨i, hlt, rfl⟩
        | table algo column count => cases hi
        | databaseTable dbAlgo dbColumn tableAlgo tableColumn count =>
          obtain ⟨j, -, k, hk, rfl⟩ := hvalid
          exact ⟨i, hlt, k, hk, rfl⟩
      · rw [hn] at h
        exact h

/-! ## The statement -/

theorem not_insert_of_mem_blocks {stmt : SqlStmt} {block : Block} (h : block ∈ stmt.blocks) :
    ∀ i, stmt ≠ .insert i := by
  rintro i rfl
  cases h

/-- The shards that a `SELECT`, `UPDATE` or `DELETE` on one sharded table is sent to. -/
theorem reaches_iff {r : Rewriter} {rawSql : List Char} {stmt : SqlStmt} {rule : Sharding}
    (husable : rule.Usable r.endpoints)
    (hrule : ∀ x ∈ (getMeta stmt).tables.entries, ∀ rule', r.ruleOf x.2 = some rule' → rule' = rule)
    (hstmt : ∀ i, stmt ≠ .insert i) (t : TableIdent) (s : Shard) :
    (∃ output, r.rewrite rawSql stmt = .ok output ∧ output.Reaches t s) ↔
      ∃ tt, r.findTableRule (getMeta stmt).tables = .ok tt ∧ Goes (getMeta stmt) rule tt ∧ (∃ e ∈ tt, e.table = t) ∧
        ∃ idx, Listed rule (r.named rule (getMeta stmt).wheres) idx ∧ r.insertShard rule idx = .ok s := by
  have hnum : ∀ q ∈ (getMeta stmt).wheres, ∀ w ∈ q.2, ∃ text, w.right = .num text := by
    intro q hq w hw
    exact getMeta_wheres (List.mem_flatMap.mpr ⟨q, hq, List.mem_map.mpr ⟨w, hw, rfl⟩⟩)
  have hinserts := getMeta_inserts hstmt
  have hspec : ∀ tt, r.findTableRule (getMeta stmt).tables = .ok tt →
      (∀ e ∈ tt, e.rule = rule) ∧ ∀ e ∈ tt, e.table.schema.isSome ∨ r.defaultDb.isSome := by
    intro tt htt
    refine ⟨fun e he => ?_, fun e he => (mem_findTable htt he).2.2⟩
    obtain ⟨hmem, hr, -⟩ := mem_findTable htt he
    exact hrule _ hmem _ hr
  have hreach : ∀ plans : List ChangePlan, Output.Reaches
      (.plans (plans.foldl (fun changes plan => changes.push plan.key plan) [])) t s ↔
      ∃ plan ∈ plans, plan.table = t ∧ plan.shard = s := by
    intro plans
    constructor
    · rintro ⟨x, hx, hx'⟩
      rcases IndexMap.mem_entries_foldl_push.mp hx with hx | ⟨plan, hplan, rfl⟩
      · cases hx
      · exact ⟨plan, hplan, hx'⟩
    · rintro ⟨plan, hplan, h⟩
      exact ⟨(plan.key, plan), IndexMap.mem_entries_foldl_push.mpr (.inr ⟨plan, hplan, rfl⟩), h⟩
  unfold rewrite
  constructor
  · rintro ⟨output, hout, hreaches⟩
    obtain ⟨tt, htt, hout⟩ := bind_eq_ok.mp hout
    obtain ⟨hrules, hdb⟩ := hspec tt htt
    cases tt with
    | nil =>
      cases hout
      obtain ⟨x, hx, -⟩ := hreaches
      cases hx
    | cons first rest =>
      simp only [hinserts, List.isEmpty_nil, if_true, hrules first List.mem_cons_self] at hout
      obtain ⟨plans, hplans, hout⟩ := bind_eq_ok.mp hout
      cases hout
      have hmem := (mem_shards_iff (getMeta stmt) husable hrules hdb hnum hplans t s).mp ((hreach plans).mp hreaches)
      exact ⟨_, htt, (plansOf_isOk _ husable hrules hdb hnum).mp ⟨plans, hplans⟩, hmem⟩
  · rintro ⟨tt, htt, hgoes, hex, hlisted⟩
    obtain ⟨hrules, hdb⟩ := hspec tt htt
    obtain ⟨plans, hplans⟩ := (plansOf_isOk _ husable hrules hdb hnum).mpr hgoes
    have hmem := (mem_shards_iff (getMeta stmt) husable hrules hdb hnum hplans t s).mpr ⟨hex, hlisted⟩
    refine ⟨_, bind_eq_ok.mpr ⟨tt, htt, ?_⟩, (hreach plans).mpr hmem⟩
    cases tt with
    | nil =>
      obtain ⟨e, he, -⟩ := hex
      cases he
    | cons first rest =>
      simp only [hinserts, List.isEmpty_nil, if_true, hrules first List.mem_cons_self]
      exact bind_eq_ok.mpr ⟨plans, hplans, rfl⟩

end Rewriter

/-! ## The rule of the source's tests -/

def testRule : Sharding := ⟨"tshard", ["ds001"], .table .mod "idx" 4⟩

def testRewriter : Rewriter :=
  { arith := ⟨fun _ => 0, fun _ _ _ => none⟩, rules := [testRule], endpoints := [⟨"ds001", "db", "127.0.0.1:3306"⟩],
    hasRw := false, nodeGroupMembers := none, defaultDb := none }

/-- The table `db.tshard` of the statement below. -/
def testTable : TableIdent := ⟨⟨14, 23⟩, some "db", "tshard"⟩

/-- `idx = number`. -/
def idxEq (number : String) : Expr := .binaryOperation .eq (.simpleIdent (.ident "idx" false)) (.literal (.num number))

/-- `SELECT * FROM db.tshard WHERE …`. -/
def selectWhere (w : Expr) : SqlStmt :=
  .select (.query (.mk [.wild] [.singleTable testTable] (some w) [] none [] none none))

theorem testRule_usable : testRule.Usable testRewriter.endpoints where
  hasNodes := by decide
  nodesKnown := by
    intro node hnode
    rw [show node = "ds001" from List.mem_singleton.mp hnode]
    exact ⟨⟨"ds001", "db", "127.0.0.1:3306"⟩, by decide⟩
  hasTables := by
    intro count hcount
    cases hcount
    decide

end DataNexus.ShardingRewrite
