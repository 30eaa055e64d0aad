/-
  The shards of a statement without rows.

  * `Rewriter.Goes` — what a statement needs to be rewritten at all: a sharded table for every query with an
    equality, numbers that are `u64`, helper columns only where their names can be formed.
  * `Rewriter.Walks` — a walk of one of the three strategies over its nodes and tables, for one sharded table.
  * `Rewriter.plansOf_isOk`, `Rewriter.mem_shards_iff` — a statement that goes is sent, for each of its sharded
    tables, to exactly the shards with the named index.
-/
import DataNexus.Sharding.Equalities

namespace DataNexus.ShardingRewrite

open DataNexus.Fallible

def Sharding.Valid (rule : Sharding) (idx : ShardingIdx) : Prop :=
  match rule.strategy with
  | .database _ _ => ∃ i < rule.actualDatanodes.length, idx = ⟨some i, none⟩
  | .table _ _ count => ∃ k < count, idx = ⟨none, some k⟩
  | .databaseTable _ _ _ _ count => ∃ i < rule.actualDatanodes.length, ∃ k < count, idx = ⟨some i, some k⟩

namespace Rewriter

/-- The shard that the insert path sends an index to. -/
def insertShard (r : Rewriter) (rule : Sharding) (idx : ShardingIdx) : Outcome Shard := do
  let ds ← r.genDataSource rule (idx.database.getD 0)
  match rule.getStrategyTyp with
  | .table => return ⟨ds, none, idx.table⟩
  | _ =>
    let dbIdx ← unwrap idx.database
    return ⟨ds, some ((← rule.getActualSchema r.endpoints dbIdx).getD ""), idx.table⟩

/-! ## Statements that can be rewritten -/

/-- The helper columns of a query can be named.  With the database strategy nothing is added at all. -/
structure HelpersFit (stmt : RewriteMetaData) (rule : Sharding) (queryId : Nat) : Prop where
  block : stmt.orders.get? queryId = none ∧ stmt.groups.get? queryId = none ∨ queryId ∈ stmt.fieldBlocks
  selected : rule.getStrategyTyp = .database → ∀ name ∈
    (stmt.orders.get? queryId).getD [] ++ (stmt.groups.get? queryId).getD [],
      isSelected ((stmt.fields.get? queryId).getD []) name = true
  noAvg : rule.getStrategyTyp = .database → ∀ field ∈ (stmt.fields.get? queryId).getD [],
    ∀ name column, field ≠ .ident name (.avg column)

structure Goes (stmt : RewriteMetaData) (rule : Sharding) (tryTables : List TryTable) : Prop where
  equalities : ∀ q ∈ stmt.wheres, EqualitiesFit tryTables rule q.1 q.2
  named : rule.getStrategyTyp = .databaseTable → ∀ q ∈ stmt.wheres.head?,
    ∃ column ∈ rule.columns, (getWhereMatchRight q.2 column).isSome = true
  helpers : ∀ t ∈ tryTables, HelpersFit stmt rule t.queryId

variable {r : Rewriter} {i k : Nat} {part : Part}

theorem changeTable_isOk {t : TableIdent} (h : t.schema.isSome ∨ r.defaultDb.isSome) (db : String) (idx : Nat) :
    ∃ text, r.changeTable t db idx = .ok text := by
  unfold changeTable
  cases hs : t.schema with
  | some schema =>
    simp only [bind, Except.bind, pure, Except.pure]
    split
    · exact ⟨_, rfl⟩
    · exact ⟨_, rfl⟩
  | none =>
    rw [hs] at h
    obtain ⟨d, hd⟩ := Option.isSome_iff_exists.mp (h.resolve_left (by simp))
    simp only [hd, unwrap_some, bind, Except.bind, pure, Except.pure]
    split
    · exact ⟨_, rfl⟩
    · exact ⟨_, rfl⟩

/-! ## Helper columns -/

theorem helperFields_isOk {fields : List FieldMeta} {names : List String} {kind : String} {idx : ShardingIdx} :
    (∃ l, helperFields fields names kind idx = .ok l) ↔
      (idx.table = none → ∀ name ∈ names, isSelected fields name = true) := by
  unfold helperFields
  rw [exists_mapM_eq_ok]
  cases htable : idx.table with
  | none =>
    constructor
    · intro h _ name hname
      by_contra hsel
      obtain ⟨b, hb⟩ := h name (by simp [List.mem_filter, hname, hsel])
      cases hb
    · intro h name hname
      obtain ⟨hname, hsel⟩ := List.mem_filter.mp hname
      rw [h rfl name hname] at hsel
      cases hsel
  | some k =>
    constructor
    · intro _ h
      cases h
    · intro _ name _
      exact ⟨_, rfl⟩

/-- `change_order_group` goes through iff the query has a select list where one is needed, and the columns can
    be named. -/
theorem changeOrderGroup_isOk {stmt : RewriteMetaData} {queryId : Nat} {idx : ShardingIdx} :
    (∃ l, changeOrderGroup stmt queryId idx = .ok l) ↔
      (stmt.orders.get? queryId = none ∧ stmt.groups.get? queryId = none ∨ queryId ∈ stmt.fieldBlocks) ∧
      (idx.table = none → ∀ name ∈ (stmt.orders.get? queryId).getD [] ++ (stmt.groups.get? queryId).getD [],
          isSelected ((stmt.fields.get? queryId).getD []) name = true) := by
  by_cases hnone : stmt.orders.get? queryId = none ∧ stmt.groups.get? queryId = none
  · obtain ⟨ho, hg⟩ := hnone
    constructor
    · intro _
      exact ⟨.inl ⟨ho, hg⟩, fun _ name hname => (by simp [ho, hg] at hname)⟩
    · intro _
      exact ⟨([], []), by simp [changeOrderGroup, ho, hg]⟩
  · have hunfold : changeOrderGroup stmt queryId idx =
        if queryId ∈ stmt.fieldBlocks then (do
          let orderFields ← helperFields ((stmt.fields.get? queryId).getD [])
            ((stmt.orders.get? queryId).getD []) "ORDER_BY_DERIVED" idx
          let groupFields ← helperFields ((stmt.fields.get? queryId).getD [])
            ((stmt.groups.get? queryId).getD []) "GROUP_BY_DERIVED" idx
          return (orderFields, groupFields))
        else .error .panic := by
      unfold changeOrderGroup
      split
      · rename_i ho hg
        exact absurd ⟨ho, hg⟩ hnone
      · rfl
    rw [hunfold]
    split_ifs with hblock
    · constructor
      · rintro ⟨l, h⟩
        obtain ⟨os, hos, h⟩ := bind_eq_ok.mp h
        obtain ⟨gs, hgs, -⟩ := bind_eq_ok.mp h
        refine ⟨.inr hblock, fun htable name hname => ?_⟩
        rcases List.mem_append.mp hname with hname | hname
        · exact helperFields_isOk.mp ⟨os, hos⟩ htable name hname
        · exact helperFields_isOk.mp ⟨gs, hgs⟩ htable name hname
      · rintro ⟨-, h⟩
        obtain ⟨os, hos⟩ := (helperFields_isOk ).mpr fun htable name hname =>
          h htable name (List.mem_append_left _ hname)
        obtain ⟨gs, hgs⟩ := (helperFields_isOk ).mpr fun htable name hname =>
          h htable name (List.mem_append_right _ hname)
        exact ⟨(os, gs), bind_eq_ok.mpr ⟨os, hos, bind_eq_ok.mpr ⟨gs, hgs, rfl⟩⟩⟩
    · constructor
      · rintro ⟨l, h⟩
        cases h
      · rintro ⟨h | h, -⟩
        · exact absurd h hnone
        · exact absurd h hblock

theorem changeAvg_isOk {stmt : RewriteMetaData} {queryId : Nat} {idx : ShardingIdx} :
    (∃ l, changeAvg stmt queryId idx = .ok l) ↔
      (idx.table = none → ∀ field ∈ (stmt.fields.get? queryId).getD [], ∀ name column,
        field ≠ .ident name (.avg column)) := by
  unfold changeAvg
  rw [exists_mapM_eq_ok]
  cases htable : idx.table with
  | none =>
    constructor
    · rintro h - field hfield name column rfl
      obtain ⟨b, hb⟩ := h (name, column) (List.mem_filterMap.mpr ⟨_, hfield, rfl⟩)
      cases hb
    · rintro h ⟨name, column⟩ hmem
      obtain ⟨field, hfield, hsome⟩ := List.mem_filterMap.mp hmem
      split at hsome
      · cases hsome
        exact absurd rfl (h rfl _ hfield name column)
      · cases hsome
  | some k =>
    constructor
    · intro _ h
      cases h
    · intro _ a _
      exact ⟨_, rfl⟩

theorem derivedOf_isOk {stmt : RewriteMetaData} {rule : Sharding} {queryId : Nat} {idx : ShardingIdx}
    (htable : idx.table = none ↔ rule.getStrategyTyp = .database) :
    (∃ d, derivedOf stmt queryId idx = .ok d) ↔ HelpersFit stmt rule queryId := by
  constructor
  · rintro ⟨d, h⟩
    obtain ⟨l, hl, h⟩ := bind_eq_ok.mp h
    obtain ⟨avgs, havgs, -⟩ := bind_eq_ok.mp h
    obtain ⟨hblock, hsel⟩ := changeOrderGroup_isOk.mp ⟨l, hl⟩
    exact ⟨hblock, fun hdb => hsel (htable.mpr hdb), fun hdb => changeAvg_isOk.mp ⟨avgs, havgs⟩ (htable.mpr hdb)⟩
  · rintro ⟨hblock, hsel, havg⟩
    obtain ⟨l, hl⟩ := changeOrderGroup_isOk.mpr ⟨hblock, fun h => hsel (htable.mp h)⟩
    obtain ⟨avgs, havgs⟩ := (changeAvg_isOk ).mpr fun h => havg (htable.mp h)
    exact ⟨_, bind_eq_ok.mpr ⟨l, hl, bind_eq_ok.mpr ⟨avgs, havgs, rfl⟩⟩⟩

/-! ## Places -/

/-- An index of the rule that a named index leaves. -/
structure Listed (rule : Sharding) (named : Option Nat × Option Nat) (idx : ShardingIdx) : Prop where
  valid : rule.Valid idx
  node : ∀ n ∈ named.1, idx.database = some n
  table : ∀ n ∈ named.2, idx.table = some n

theorem place_isOk {rule : Sharding} (husable : rule.Usable r.endpoints) (htyp : rule.getStrategyTyp ≠ .table)
    {node : String} (hi : rule.actualDatanodes[i]? = some node) (suffix : Option Nat) :
    ∃ ds ep, r.endpoints.find? (·.name == node) = some ep ∧ r.genDataSource rule i = .ok ds ∧
      r.insertShard rule ⟨some i, suffix⟩ = .ok ⟨ds, some ep.db, suffix⟩ := by
  obtain ⟨ep, hep⟩ := husable.nodesKnown node (List.mem_of_getElem? hi)
  have hat : rule.endpointAt r.endpoints i = .ok (some ep) := by
    unfold Sharding.endpointAt
    rw [hi, unwrap_some, ← hep]
    rfl
  obtain ⟨first, hfirst⟩ : ∃ first, rule.actualDatanodes[0]? = some first :=
    ⟨_, List.getElem?_eq_getElem (List.length_pos_iff.mpr husable.hasNodes)⟩
  obtain ⟨tableName, nodes, strategy⟩ := rule
  have hds : ∃ ds, r.genDataSource ⟨tableName, nodes, strategy⟩ i = .ok ds := by
    unfold genDataSource
    split_ifs with hrw
    · rw [hfirst]
      exact ⟨_, rfl⟩
    · cases strategy with
      | table _ _ _ => exact absurd rfl htyp
      | database _ _ =>
        show ∃ ds, (Sharding.endpointAt _ r.endpoints i >>= _) = .ok ds
        rw [hat]
        exact ⟨_, rfl⟩
      | databaseTable _ _ _ _ _ =>
        show ∃ ds, (Sharding.endpointAt _ r.endpoints i >>= _) = .ok ds
        rw [hat]
        exact ⟨_, rfl⟩
  obtain ⟨ds, hds⟩ := hds
  refine ⟨ds, ep, hep, hds, ?_⟩
  unfold insertShard
  rw [Option.getD_some, hds]
  cases strategy with
  | table _ _ _ => exact absurd rfl htyp
  | database _ _ =>
    show ((Sharding.endpointAt _ r.endpoints i).map _ >>= _) = _
    rw [hat]
    rfl
  | databaseTable _ _ _ _ _ =>
    show ((Sharding.endpointAt _ r.endpoints i).map _ >>= _) = _
    rw [hat]
    rfl

theorem tablePlace_isOk {rule : Sharding} (husable : rule.Usable r.endpoints)
    (htyp : rule.getStrategyTyp = .table) (suffix : Option Nat) :
    ∃ ds, r.genDataSource rule 0 = .ok ds ∧ r.insertShard rule ⟨none, suffix⟩ = .ok ⟨ds, none, suffix⟩ := by
  obtain ⟨first, hfirst⟩ : ∃ first, rule.actualDatanodes[0]? = some first :=
    ⟨_, List.getElem?_eq_getElem (List.length_pos_iff.mpr husable.hasNodes)⟩
  obtain ⟨ep, hep⟩ := husable.nodesKnown first (List.mem_of_getElem? hfirst)
  have hat : rule.endpointAt r.endpoints 0 = .ok (some ep) := by
    unfold Sharding.endpointAt
    rw [hfirst, unwrap_some, ← hep]
    rfl
  obtain ⟨tableName, nodes, strategy⟩ := rule
  have hds : ∃ ds, r.genDataSource ⟨tableName, nodes, strategy⟩ 0 = .ok ds := by
    unfold genDataSource
    split_ifs with hrw
    · rw [hfirst]
      exact ⟨_, rfl⟩
    · cases strategy with
      | table _ _ _ =>
        show ∃ ds, (Sharding.endpointAt _ r.endpoints 0 >>= _) = .ok ds
        rw [hat]
        exact ⟨_, rfl⟩
      | database _ _ => cases htyp
      | databaseTable _ _ _ _ _ => cases htyp
  obtain ⟨ds, hds⟩ := hds
  refine ⟨ds, hds, ?_⟩
  unfold insertShard
  rw [Option.getD_none, hds, htyp]
  rfl

theorem insertShard_isOk {rule : Sharding} (husable : rule.Usable r.endpoints) {idx : ShardingIdx}
    (hidx : rule.Valid idx) : ∃ s, r.insertShard rule idx = .ok s ∧ s.suffix = idx.table := by
  obtain ⟨tableName, nodes, strategy⟩ := rule
  cases strategy with
  | database _ _ =>
    obtain ⟨i, hi, rfl⟩ := hidx
    obtain ⟨ds, ep, -, -, hs⟩ := place_isOk husable (by simp [Sharding.getStrategyTyp])
      (List.getElem?_eq_getElem hi) none
    exact ⟨_, hs, rfl⟩
  | table _ _ _ =>
    obtain ⟨k, hk, rfl⟩ := hidx
    obtain ⟨ds, -, hs⟩ := tablePlace_isOk husable rfl (some k)
    exact ⟨_, hs, rfl⟩
  | databaseTable _ _ _ _ _ =>
    obtain ⟨i, hi, k, hk, rfl⟩ := hidx
    obtain ⟨ds, ep, -, -, hs⟩ := place_isOk husable (by simp [Sharding.getStrategyTyp])
      (List.getElem?_eq_getElem hi) (some k)
    exact ⟨_, hs, rfl⟩

/-! ## Nodes and tables that are walked -/

theorem actualNodes_isOk {rule : Sharding} (h : ∀ n ∈ part.databaseIdx, n < rule.actualDatanodes.length) :
    ∃ nodes, actualNodes rule part = .ok nodes := by
  unfold actualNodes
  cases hp : part.databaseIdx with
  | none => exact ⟨_, rfl⟩
  | some n =>
    have hn := h n (by rw [hp]; rfl)
    simp only [List.getElem?_eq_getElem hn, unwrap_some]
    exact ⟨_, rfl⟩

theorem mem_actualNodes {rule : Sharding} {nodes : List (String × Nat)} (h : actualNodes rule part = .ok nodes)
    {node : String} : (∃ j, (node, j) ∈ nodes ∧ part.databaseIdx.getD j = i) ↔
      rule.actualDatanodes[i]? = some node ∧ ∀ n ∈ part.databaseIdx, i = n := by
  unfold actualNodes at h
  cases hp : part.databaseIdx with
  | none =>
    rw [hp] at h
    cases h
    simp [List.mem_zipIdx_iff_getElem?]
  | some n =>
    rw [hp] at h
    obtain ⟨node', hnode', rfl⟩ := map_eq_ok.mp h
    rw [unwrap_eq_ok] at hnode'
    simp only [List.mem_singleton, Prod.mk.injEq, Option.getD_some, Option.mem_some_iff]
    constructor
    · rintro ⟨j, ⟨rfl, rfl⟩, rfl⟩
      exact ⟨hnode', fun n h => h⟩
    · rintro ⟨hi, hn⟩
      obtain rfl := hn n rfl
      rw [hnode'] at hi
      cases hi
      exact ⟨0, ⟨rfl, rfl⟩, rfl⟩

theorem mem_shardingRange {count : Nat} (hn : ∀ n ∈ part.tableIdx, n < count) :
    k ∈ shardingRange part count ↔ k < count ∧ ∀ n ∈ part.tableIdx, k = n := by
  unfold shardingRange
  cases hp : part.tableIdx with
  | none => simp
  | some n =>
    rw [hp] at hn
    have := hn n rfl
    simp only [List.mem_singleton, Option.mem_some_iff]
    constructor
    · rintro rfl
      exact ⟨this, fun n h => h⟩
    · rintro ⟨-, h⟩
      exact h n rfl

/-! ## Plans -/

/-- What the walk for one table gives: it goes through iff its helper columns can be named, and lists the shards
    that the part leaves. -/
structure Walks (r : Rewriter) (stmt : RewriteMetaData) (rule : Sharding) (part : Part) (t : TryTable)
    (plans : Outcome (List ChangePlan)) : Prop where
  isOk : (∃ ps, plans = .ok ps) ↔ HelpersFit stmt rule t.queryId
  shards : ∀ ps, plans = .ok ps → ∀ table s, (∃ plan ∈ ps, plan.table = table ∧ plan.shard = s) ↔
    t.table = table ∧ ∃ idx, Listed rule (part.databaseIdx, part.tableIdx) idx ∧ r.insertShard rule idx = .ok s

/-- A walk over places makes the plans it has to make, if places and plans are those of the part. -/
theorem walks_of_places {α : Type} {stmt : RewriteMetaData} {rule : Sharding} {t : TryTable}
    (husable : rule.Usable r.endpoints) {plans : Outcome (List ChangePlan)} (xs : List α)
    (f : α → Outcome ChangePlan) (place key : α → ShardingIdx)
    (hok : (∃ ps, plans = .ok ps) ↔ ∀ x ∈ xs, ∃ plan, f x = .ok plan)
    (hmem : ∀ ps, plans = .ok ps → ∀ plan, plan ∈ ps ↔ ∃ x ∈ xs, f x = .ok plan)
    (hplan : ∀ x ∈ xs, ∀ plan, f x = .ok plan ↔ ∃ s d, r.insertShard rule (place x) = .ok s ∧
      derivedOf stmt t.queryId (key x) = .ok d ∧ plan = ⟨⟨s.ds, key x, keyColumn rule⟩, t.queryId, t.table, s, d⟩)
    (hplaces : ∀ idx, (∃ x ∈ xs, place x = idx) ↔ Listed rule (part.databaseIdx, part.tableIdx) idx)
    (hkey : ∀ x, (key x).table = none ↔ rule.getStrategyTyp = .database) (hne : ∃ x, x ∈ xs) :
    Walks r stmt rule part t plans := by
  have hfit : ∀ x, (∃ d, derivedOf stmt t.queryId (key x) = .ok d) ↔ HelpersFit stmt rule t.queryId :=
    fun x => derivedOf_isOk (hkey x)
  have hisOk : (∃ ps, plans = .ok ps) ↔ HelpersFit stmt rule t.queryId := by
    rw [hok]
    constructor
    · intro h
      obtain ⟨x, hx⟩ := hne
      obtain ⟨plan, hp⟩ := h x hx
      obtain ⟨s, d, -, hd, -⟩ := (hplan x hx plan).mp hp
      exact (hfit x).mp ⟨d, hd⟩
    · intro h x hx
      obtain ⟨s, hs, -⟩ := insertShard_isOk husable ((hplaces _).mp ⟨x, hx, rfl⟩).valid
      obtain ⟨d, hd⟩ := (hfit x).mpr h
      exact ⟨_, (hplan x hx _).mpr ⟨s, d, hs, hd, rfl⟩⟩
  refine ⟨hisOk, fun ps hps table s => ?_⟩
  constructor
  · rintro ⟨plan, hplan', rfl, rfl⟩
    obtain ⟨x, hx, hp⟩ := (hmem ps hps plan).mp hplan'
    obtain ⟨s, d, hs, hd, rfl⟩ := (hplan x hx plan).mp hp
    exact ⟨rfl, _, (hplaces _).mp ⟨x, hx, rfl⟩, hs⟩
  · rintro ⟨rfl, idx, hlisted, hs⟩
    obtain ⟨x, hx, rfl⟩ := (hplaces idx).mpr hlisted
    obtain ⟨d, hd⟩ := (hfit x).mpr (hisOk.mp ⟨ps, hps⟩)
    exact ⟨_, (hmem ps hps _).mpr ⟨x, hx, (hplan x hx _).mpr ⟨s, d, hs, hd, rfl⟩⟩, rfl, rfl⟩

theorem exists_node {rule : Sharding} (husable : rule.Usable r.endpoints)
    (hnode : ∀ n ∈ part.databaseIdx, n < rule.actualDatanodes.length) :
    ∃ i < rule.actualDatanodes.length, ∀ n ∈ part.databaseIdx, i = n := by
  cases hp : part.databaseIdx with
  | none => exact ⟨0, List.length_pos_iff.mpr husable.hasNodes, by simp⟩
  | some n => exact ⟨n, hnode n (by rw [hp]; rfl), by simp⟩

theorem exists_table {count : Nat} (hc : 0 < count) (htable : ∀ n ∈ part.tableIdx, n < count) :
    ∃ k < count, ∀ n ∈ part.tableIdx, k = n := by
  cases hp : part.tableIdx with
  | none => exact ⟨0, hc, by simp⟩
  | some n => exact ⟨n, htable n (by rw [hp]; rfl), by simp⟩

section

variable {r : Rewriter} {stmt : RewriteMetaData} {rule : Sharding} {part : Part} {t : TryTable}
  (husable : rule.Usable r.endpoints) (hrule : t.rule = rule)
  (hdb : t.table.schema.isSome ∨ r.defaultDb.isSome)

include husable hrule hdb

theorem database_walks {algo : ShardingAlgorithmName} {column : String} (hs : rule.strategy = .database algo column)
    (hnode : ∀ n ∈ part.databaseIdx, n < rule.actualDatanodes.length) (hpart : part.tableIdx = none) :
    Walks r stmt rule part t (do
      let _ ← unwrap t.rule.getShardingColumn.1
      let nodes ← actualNodes t.rule part
      nodes.mapM fun x => r.databasePlan stmt part t x.1 x.2) := by
  obtain ⟨queryId, rule', tbl⟩ := t
  obtain rfl : rule' = rule := hrule
  have htyp : rule'.getStrategyTyp = .database := by simp [Sharding.getStrategyTyp, hs]
  have hcolumn : rule'.getShardingColumn.1 = some column := by simp [Sharding.getShardingColumn, hs]
  obtain ⟨nodes, hnodes⟩ := actualNodes_isOk hnode
  simp only [hcolumn, unwrap_some, ok_bind, hnodes]
  refine walks_of_places husable nodes (fun x => r.databasePlan stmt part ⟨queryId, rule', tbl⟩ x.1 x.2)
    (fun x => ⟨some (part.databaseIdx.getD x.2), none⟩) (fun x => ⟨some x.2, none⟩) exists_mapM_eq_ok
    (fun ps hps plan => mem_of_mapM hps) ?_ ?_ (fun x => by simp [htyp]) ?_
  · rintro ⟨node, j⟩ hx plan
    have hi := ((mem_actualNodes hnodes).mp ⟨j, hx, rfl⟩).1
    obtain ⟨ds, ep, hep, hds, hshard⟩ := place_isOk husable (by rw [htyp]; simp) hi none
    obtain ⟨text, htext⟩ := changeTable_isOk hdb ep.db 0
    simp only [databasePlan, hshard, hep, hds, htext, unwrap_some, ok_bind]
    rw [bind_eq_ok]
    constructor
    · rintro ⟨d, hd, ⟨⟩⟩
      exact ⟨_, d, rfl, hd, rfl⟩
    · rintro ⟨s, d, ⟨⟩, hd, rfl⟩
      exact ⟨d, hd, rfl⟩
  · intro idx
    constructor
    · rintro ⟨⟨node, j⟩, hx, rfl⟩
      obtain ⟨hi, hn⟩ := (mem_actualNodes hnodes).mp ⟨j, hx, rfl⟩
      refine ⟨?_, fun n h => congrArg some (hn n h), fun n h => ?_⟩
      · unfold Sharding.Valid
        rw [hs]
        exact ⟨_, (List.getElem?_eq_some_iff.mp hi).1, rfl⟩
      · rw [hpart] at h
        cases h
    · rintro ⟨hvalid, hn, -⟩
      unfold Sharding.Valid at hvalid
      rw [hs] at hvalid
      obtain ⟨i, hi, rfl⟩ := hvalid
      obtain ⟨j, hx, rfl⟩ := (mem_actualNodes hnodes).mpr
        ⟨List.getElem?_eq_getElem hi, fun n h => Option.some.inj (hn n h)⟩
      exact ⟨_, hx, rfl⟩
  · obtain ⟨i, hi, hn⟩ := exists_node husable hnode
    obtain ⟨j, hx, -⟩ := (mem_actualNodes hnodes).mpr ⟨List.getElem?_eq_getElem hi, hn⟩
    exact ⟨_, hx⟩

theorem table_walks {algo : ShardingAlgorithmName} {column : String} {count : Nat}
    (hs : rule.strategy = .table algo column count) (htable : ∀ n ∈ part.tableIdx, n < count)
    (hpart : part.databaseIdx = none) :
    Walks r stmt rule part t (do
      let ds ← r.genDataSource t.rule 0
      let _ ← unwrap t.rule.getShardingColumn.2
      let count ← unwrap t.rule.getShardingCount.2
      (shardingRange part count).mapM fun tableIdx => r.tablePlan stmt ds t tableIdx) := by
  obtain ⟨queryId, rule', tbl⟩ := t
  obtain rfl : rule' = rule := hrule
  have htyp : rule'.getStrategyTyp = .table := by simp [Sharding.getStrategyTyp, hs]
  have hcolumn : rule'.getShardingColumn.2 = some column := by simp [Sharding.getShardingColumn, hs]
  have hcount : rule'.getShardingCount.2 = some count := by simp [Sharding.getShardingCount, hs]
  obtain ⟨ds, hds, -⟩ := tablePlace_isOk husable htyp none
  simp only [hds, hcolumn, hcount, unwrap_some, ok_bind]
  refine walks_of_places husable (shardingRange part count)
    (fun k => r.tablePlan stmt ds ⟨queryId, rule', tbl⟩ k) (fun k => ⟨none, some k⟩) (fun k => ⟨none, some k⟩)
    exists_mapM_eq_ok (fun ps hps plan => mem_of_mapM hps) ?_ ?_ (fun x => by simp [htyp]) ?_
  · intro k hk plan
    obtain ⟨ds', hds', hshard⟩ := tablePlace_isOk husable htyp (some k)
    obtain rfl : ds' = ds := by rw [hds] at hds'; exact (Except.ok.inj hds').symm
    obtain ⟨text, htext⟩ := changeTable_isOk hdb "" k
    simp only [tablePlan, hshard, htext, ok_bind]
    rw [bind_eq_ok]
    constructor
    · rintro ⟨d, hd, ⟨⟩⟩
      exact ⟨_, d, rfl, hd, rfl⟩
    · rintro ⟨s, d, ⟨⟩, hd, rfl⟩
      exact ⟨d, hd, rfl⟩
  · intro idx
    constructor
    · rintro ⟨k, hk, rfl⟩
      obtain ⟨hk, hn⟩ := (mem_shardingRange htable).mp hk
      refine ⟨?_, fun n h => ?_, fun n h => congrArg some (hn n h)⟩
      · unfold Sharding.Valid
        rw [hs]
        exact ⟨k, hk, rfl⟩
      · rw [hpart] at h
        cases h
    · rintro ⟨hvalid, -, hn⟩
      unfold Sharding.Valid at hvalid
      rw [hs] at hvalid
      obtain ⟨k, hk, rfl⟩ := hvalid
      exact ⟨k, (mem_shardingRange htable).mpr ⟨hk, fun n h => Option.some.inj (hn n h)⟩, rfl⟩
  · obtain ⟨k, hk, hn⟩ := exists_table (husable.hasTables count hcount) htable
    exact ⟨k, (mem_shardingRange htable).mpr ⟨hk, hn⟩⟩

theorem databaseTable_walks {dbAlgo tableAlgo : ShardingAlgorithmName} {dbColumn tableColumn : String} {count : Nat}
    (hs : rule.strategy = .databaseTable dbAlgo dbColumn tableAlgo tableColumn count)
    (hnode : ∀ n ∈ part.databaseIdx, n < rule.actualDatanodes.length) (htable : ∀ n ∈ part.tableIdx, n < count) :
    Walks r stmt rule part t (do
      let count ← unwrap t.rule.getShardingCount.2
      let nodes ← actualNodes t.rule part
      let plans ← nodes.mapM fun x => r.databaseTableNode stmt part count t x.1 x.2
      return plans.flatten) := by
  obtain ⟨queryId, rule', tbl⟩ := t
  obtain rfl : rule' = rule := hrule
  have htyp : rule'.getStrategyTyp = .databaseTable := by simp [Sharding.getStrategyTyp, hs]
  have hcount : rule'.getShardingCount.2 = some count := by simp [Sharding.getShardingCount, hs]
  obtain ⟨nodes, hnodes⟩ := actualNodes_isOk hnode
  simp only [hcount, unwrap_some, ok_bind, hnodes]
  -- one node and one table of the walk
  let f : (String × Nat) × Nat → Outcome ChangePlan := fun x => do
    let ep ← unwrap (r.endpoints.find? (·.name == x.1.1))
    let ds ← r.genDataSource rule' (part.databaseIdx.getD x.1.2)
    r.databaseTablePlan stmt ds ep.db ⟨queryId, rule', tbl⟩ (part.databaseIdx.getD x.1.2) x.2
  have hplace : ∀ x ∈ nodes, ∀ suffix, ∃ ds ep, r.endpoints.find? (·.name == x.1) = some ep ∧
      r.genDataSource rule' (part.databaseIdx.getD x.2) = .ok ds ∧
      r.insertShard rule' ⟨some (part.databaseIdx.getD x.2), suffix⟩ = .ok ⟨ds, some ep.db, suffix⟩ := by
    rintro ⟨node, j⟩ hx suffix
    have hi := ((mem_actualNodes hnodes).mp ⟨j, hx, rfl⟩).1
    exact place_isOk husable (by rw [htyp]; simp) hi suffix
  have hwalk : (nodes.mapM fun x => r.databaseTableNode stmt part count ⟨queryId, rule', tbl⟩ x.1 x.2) =
      nodes.mapM fun x => (shardingRange part count).mapM fun k => f (x, k) := by
    refine mapM_congr fun x hx => ?_
    obtain ⟨ds, ep, hep, hds, -⟩ := hplace x hx none
    obtain ⟨text, htext⟩ := changeTable_isOk hdb ep.db 0
    simp only [databaseTableNode, f, hep, hds, htext, unwrap_some, ok_bind]
  rw [hwalk]
  refine walks_of_places husable (nodes.product (shardingRange part count)) f
    (fun x => ⟨some (part.databaseIdx.getD x.1.2), some x.2⟩)
    (fun x => ⟨some (part.databaseIdx.getD x.1.2), some x.2⟩) ?_ ?_ ?_ ?_ (fun x => by simp [htyp]) ?_
  · constructor
    · rintro ⟨ps, hps⟩ ⟨x, k⟩ hxk
      obtain ⟨hx, hk⟩ := List.pair_mem_product.mp hxk
      obtain ⟨bss, hbss, -⟩ := bind_eq_ok.mp hps
      obtain ⟨bs, hbs⟩ := exists_mapM_eq_ok.mp ⟨bss, hbss⟩ x hx
      exact exists_mapM_eq_ok.mp ⟨bs, hbs⟩ k hk
    · intro h
      obtain ⟨bss, hbss⟩ := exists_mapM_eq_ok.mpr (fun x hx => exists_mapM_eq_ok.mpr fun k hk =>
        h (x, k) (List.pair_mem_product.mpr ⟨hx, hk⟩))
      exact ⟨_, bind_eq_ok.mpr ⟨bss, hbss, rfl⟩⟩
  · intro ps hps plan
    obtain ⟨bss, hbss, hflat⟩ := bind_eq_ok.mp hps
    rw [pure_eq_ok] at hflat
    rw [← hflat, mem_flatten_of_mapM hbss]
    constructor
    · rintro ⟨x, hx, bs, hbs, hplan⟩
      obtain ⟨k, hk, hf⟩ := (mem_of_mapM hbs).mp hplan
      exact ⟨(x, k), List.pair_mem_product.mpr ⟨hx, hk⟩, hf⟩
    · rintro ⟨⟨x, k⟩, hxk, hf⟩
      obtain ⟨hx, hk⟩ := List.pair_mem_product.mp hxk
      obtain ⟨bs, hbs⟩ := exists_mapM_eq_ok.mp ⟨bss, hbss⟩ x hx
      exact ⟨x, hx, bs, hbs, (mem_of_mapM hbs).mpr ⟨k, hk, hf⟩⟩
  · rintro ⟨x, k⟩ hxk plan
    obtain ⟨hx, hk⟩ := List.pair_mem_product.mp hxk
    obtain ⟨ds, ep, hep, hds, hshard⟩ := hplace x hx (some k)
    obtain ⟨text, htext⟩ := changeTable_isOk
      (show ({ tbl with schema := some ep.db } : TableIdent).schema.isSome ∨ r.defaultDb.isSome from .inl rfl) "" k
    simp only [f, hep, hds, htext, hshard, unwrap_some, ok_bind, databaseTablePlan]
    rw [bind_eq_ok]
    constructor
    · rintro ⟨d, hd, ⟨⟩⟩
      exact ⟨_, d, rfl, hd, rfl⟩
    · rintro ⟨s, d, ⟨⟩, hd, rfl⟩
      exact ⟨d, hd, rfl⟩
  · intro idx
    constructor
    · rintro ⟨⟨⟨node, j⟩, k⟩, hxk, rfl⟩
      obtain ⟨hx, hk⟩ := List.pair_mem_product.mp hxk
      obtain ⟨hi, hn⟩ := (mem_actualNodes hnodes).mp ⟨j, hx, rfl⟩
      obtain ⟨hk, hm⟩ := (mem_shardingRange htable).mp hk
      refine ⟨?_, fun n h => congrArg some (hn n h), fun n h => congrArg some (hm n h)⟩
      unfold Sharding.Valid
      rw [hs]
      exact ⟨_, (List.getElem?_eq_some_iff.mp hi).1, k, hk, rfl⟩
    · rintro ⟨hvalid, hn, hm⟩
      unfold Sharding.Valid at hvalid
      rw [hs] at hvalid
      obtain ⟨i, hi, k, hk, rfl⟩ := hvalid
      obtain ⟨j, hx, rfl⟩ := (mem_actualNodes hnodes).mpr
        ⟨List.getElem?_eq_getElem hi, fun n h => Option.some.inj (hn n h)⟩
      have hk' := (mem_shardingRange htable).mpr ⟨hk, fun n h => Option.some.inj (hm n h)⟩
      exact ⟨(_, k), List.pair_mem_product.mpr ⟨hx, hk'⟩, rfl⟩
  · obtain ⟨i, hi, hn⟩ := exists_node husable hnode
    obtain ⟨j, hx, -⟩ := (mem_actualNodes hnodes).mpr ⟨List.getElem?_eq_getElem hi, hn⟩
    obtain ⟨k, hk, hm⟩ := exists_table (husable.hasTables count hcount) htable
    exact ⟨_, List.pair_mem_product.mpr ⟨hx, (mem_shardingRange htable).mpr ⟨hk, hm⟩⟩⟩

end

/-! ## The shards of a statement -/

theorem namedIdx_lt {column : Option String} {count : Nat} {algo : Option ShardingAlgorithmName}
    {metas : List WhereMeta} {n : Nat} (h : r.namedIdx column (some count) algo metas = some n) : n < count := by
  unfold namedIdx at h
  simp only [Option.bind_eq_bind, Option.bind_eq_some_iff] at h
  obtain ⟨column, -, count', hcount, algo, -, h⟩ := h
  cases hcount
  split at h
  · obtain ⟨v, -, hidx⟩ := Option.bind_eq_some_iff.mp h
    cases hcalc : calcU64 r.arith v algo count with
    | error e =>
      rw [hcalc] at hidx
      cases hidx
    | ok idx =>
      rw [hcalc] at hidx
      cases hidx
      exact calcU64_lt hcalc
  · cases h

theorem mem_of_agreed {ks : List Nat} (h : agreed ks = some k) : k ∈ ks := by
  cases ks with
  | nil => cases h
  | cons k' ks =>
    simp only [agreed] at h
    split_ifs at h
    cases h
    exact List.mem_cons_self

theorem named_lt {rule : Sharding} {wheres : IndexMap Nat WhereMeta} :
    (∀ n ∈ (r.named rule wheres).1, n < rule.actualDatanodes.length) ∧
    ∀ count, rule.getShardingCount.2 = some count → ∀ n ∈ (r.named rule wheres).2, n < count := by
  obtain ⟨tableName, nodes, strategy⟩ := rule
  cases strategy with
  | database algo column =>
    refine ⟨fun n hn => ?_, fun count hcount => by cases hcount⟩
    obtain ⟨q, -, hq⟩ := List.mem_filterMap.mp (mem_of_agreed hn)
    exact namedIdx_lt hq
  | table algo column count =>
    refine ⟨fun n hn => (by cases hn), fun count' hcount n hn => ?_⟩
    cases hcount
    obtain ⟨q, -, hq⟩ := List.mem_filterMap.mp (mem_of_agreed hn)
    exact namedIdx_lt hq
  | databaseTable dbAlgo dbColumn tableAlgo tableColumn count =>
    cases wheres with
    | nil => exact ⟨fun n hn => (by cases hn), fun count' hcount n hn => (by cases hn)⟩
    | cons q qs =>
      refine ⟨fun n hn => namedIdx_lt hn, fun count' hcount n hn => ?_⟩
      cases hcount
      exact namedIdx_lt hn

section

variable {r : Rewriter} (stmt : RewriteMetaData) {rule : Sharding} {tt : List TryTable}
  (husable : rule.Usable r.endpoints) (hrules : ∀ t ∈ tt, t.rule = rule)
  (hdb : ∀ t ∈ tt, t.table.schema.isSome ∨ r.defaultDb.isSome)

include husable hrules hdb

theorem iproduct_spec {part : Part} (hpart : part = partNamed (r.named rule stmt.wheres)) :
    ∃ plans : TryTable → Outcome (List ChangePlan),
      (∀ t ∈ tt, Walks r stmt rule part t (plans t)) ∧
      r.iproduct stmt part tt rule.getStrategyTyp = (do return (← tt.mapM plans).flatten) := by
  have hd : part.databaseIdx = (r.named rule stmt.wheres).1 := by rw [hpart, databaseIdx_partNamed]
  have ht : part.tableIdx = (r.named rule stmt.wheres).2 := by rw [hpart, tableIdx_partNamed]
  have hnode : ∀ n ∈ part.databaseIdx, n < rule.actualDatanodes.length := by
    rw [hd]
    exact named_lt.1
  have htable : ∀ count, rule.getShardingCount.2 = some count → ∀ n ∈ part.tableIdx, n < count := by
    rw [ht]
    exact named_lt.2
  obtain ⟨tableName, nodes, strategy⟩ := rule
  cases strategy with
  | database algo column =>
    exact ⟨_, fun t htt => database_walks husable (hrules t htt) (hdb t htt) rfl hnode (by rw [ht]; rfl), rfl⟩
  | table algo column count =>
    exact ⟨_, fun t htt => table_walks husable (hrules t htt) (hdb t htt) rfl (htable count rfl) (by rw [hd]; rfl), rfl⟩
  | databaseTable dbAlgo dbColumn tableAlgo tableColumn count =>
    exact ⟨_, fun t htt => databaseTable_walks husable (hrules t htt) (hdb t htt) rfl hnode (htable count rfl), rfl⟩

theorem plansOf_isOk (hnum : ∀ q ∈ stmt.wheres, ∀ w ∈ q.2, ∃ text, w.right = .num text) :
    (∃ plans, r.plansOf stmt rule.getStrategyTyp tt = .ok plans) ↔ Goes stmt rule tt := by
  have hpartOf := fun part => partOf_eq_ok husable hrules part hnum
  unfold plansOf
  constructor
  · rintro ⟨plans, h⟩
    obtain ⟨part, hp, h⟩ := bind_eq_ok.mp h
    obtain ⟨hfit, hnamed, rfl⟩ := (hpartOf part).mp hp
    obtain ⟨walk, hwalks, heq⟩ := iproduct_spec stmt husable hrules hdb rfl
    refine ⟨hfit, hnamed, fun t ht => ?_⟩
    rw [heq] at h
    obtain ⟨bss, hbss, -⟩ := bind_eq_ok.mp h
    exact (hwalks t ht).isOk.mp (exists_mapM_eq_ok.mp ⟨bss, hbss⟩ t ht)
  · intro hgoes
    obtain ⟨walk, hwalks, heq⟩ := iproduct_spec stmt husable hrules hdb rfl
    obtain ⟨bss, hbss⟩ := exists_mapM_eq_ok.mpr fun t ht => (hwalks t ht).isOk.mpr (hgoes.helpers t ht)
    refine ⟨bss.flatten, bind_eq_ok.mpr ⟨_, (hpartOf _).mpr ⟨hgoes.equalities, hgoes.named, rfl⟩, ?_⟩⟩
    rw [heq]
    exact bind_eq_ok.mpr ⟨bss, hbss, rfl⟩

theorem mem_shards_iff (hnum : ∀ q ∈ stmt.wheres, ∀ w ∈ q.2, ∃ text, w.right = .num text) {plans : List ChangePlan}
    (h : r.plansOf stmt rule.getStrategyTyp tt = .ok plans) (table : TableIdent) (s : Shard) :
    (∃ plan ∈ plans, plan.table = table ∧ plan.shard = s) ↔ (∃ t ∈ tt, t.table = table) ∧
      ∃ idx, Listed rule (r.named rule stmt.wheres) idx ∧ r.insertShard rule idx = .ok s := by
  obtain ⟨part, hp, h⟩ := bind_eq_ok.mp h
  obtain ⟨-, -, rfl⟩ := (partOf_eq_ok husable hrules part hnum).mp hp
  obtain ⟨walk, hwalks, heq⟩ := iproduct_spec stmt husable hrules hdb rfl
  rw [heq] at h
  obtain ⟨bss, hbss, hflat⟩ := bind_eq_ok.mp h
  rw [pure_eq_ok] at hflat
  have hpair : ((partNamed (r.named rule stmt.wheres)).databaseIdx, (partNamed (r.named rule stmt.wheres)).tableIdx) =
      r.named rule stmt.wheres := by
    rw [databaseIdx_partNamed, tableIdx_partNamed]
  constructor
  · rintro ⟨plan, hplan, htable, hshard⟩
    rw [← hflat, mem_flatten_of_mapM hbss] at hplan
    obtain ⟨t, ht, ps, hps, hplan⟩ := hplan
    obtain ⟨htt, hlisted⟩ := ((hwalks t ht).shards ps hps table s).mp ⟨plan, hplan, htable, hshard⟩
    rw [hpair] at hlisted
    exact ⟨⟨t, ht, htt⟩, hlisted⟩
  · rintro ⟨⟨t, ht, htt⟩, hlisted⟩
    rw [← hpair] at hlisted
    obtain ⟨ps, hps⟩ := exists_mapM_eq_ok.mp ⟨bss, hbss⟩ t ht
    obtain ⟨plan, hplan, h1, h2⟩ := ((hwalks t ht).shards ps hps table s).mpr ⟨htt, hlisted⟩
    refine ⟨plan, ?_, h1, h2⟩
    rw [← hflat, mem_flatten_of_mapM hbss]
    exact ⟨t, ht, ps, hps, hplan⟩

end

end Rewriter

end DataNexus.ShardingRewrite
