/-
  What the equalities of a statement say about its shards.

  `Rewriter.named` is the index that the filed equalities name, for the node and for the table: the first one of
  the only query or of queries that agree by their sum, or the one of the first query with equalities.  The part
  that the strategies follow is this index, for a statement whose equalities can be read
  (`Rewriter.partOf_eq_ok`).
-/
import DataNexus.Sharding.Rewrite
import Mathlib.Data.List.ReduceOption

namespace DataNexus.ShardingRewrite

open DataNexus.Fallible

def Sharding.columns (rule : Sharding) : List String :=
  rule.getShardingColumn.1.toList ++ rule.getShardingColumn.2.toList

namespace Rewriter

/-! ## The named index -/

/-- The index of the first equality of a query on a column. -/
def namedIdx (r : Rewriter) (column : Option String) (count : Option Nat) (algo : Option ShardingAlgorithmName)
    (metas : List WhereMeta) : Option Nat := do
  let column ← column
  let count ← count
  let algo ← algo
  match getWhereMatchRight metas column with
  | some (.num text) => (calcU64 r.arith (← parseU64 text) algo count).toOption
  | _ => none

def namedNode (r : Rewriter) (rule : Sharding) (metas : List WhereMeta) : Option Nat :=
  r.namedIdx rule.getShardingColumn.1 rule.getShardingCount.1 rule.getAlgo.1 metas

def namedTable (r : Rewriter) (rule : Sharding) (metas : List WhereMeta) : Option Nat :=
  r.namedIdx rule.getShardingColumn.2 rule.getShardingCount.2 rule.getAlgo.2 metas

/-- The first index of several queries, if they add up to that many times the first one. -/
def agreed : List Nat → Option Nat
  | [] => none
  | idx :: idxs => if idx * (idx :: idxs).length = (idx :: idxs).sum then some idx else none

/-- The index that the equalities of a statement name, for the node and for the table. -/
def named (r : Rewriter) (rule : Sharding) (wheres : IndexMap Nat WhereMeta) : Option Nat × Option Nat :=
  match rule.strategy with
  | .database _ _ => (agreed (wheres.filterMap fun q => r.namedNode rule q.2), none)
  | .table _ _ _ => (none, agreed (wheres.filterMap fun q => r.namedTable rule q.2))
  | .databaseTable _ _ _ _ _ =>
    match wheres with
    | [] => (none, none)
    | q :: _ => (r.namedNode rule q.2, r.namedTable rule q.2)

structure EqualitiesFit (tryTables : List TryTable) (rule : Sharding) (queryId : Nat) (metas : List WhereMeta) :
    Prop where
  sharded : ∃ t ∈ tryTables, t.queryId = queryId
  unsigned : ∀ column ∈ rule.columns, ∀ text, getWhereMatchRight metas column = some (.num text) →
    (parseU64 text).isSome = true

/-! ## Tables -/

variable {r : Rewriter} {e : TryTable} {metas : List WhereMeta}

theorem tryTable_eq_some {queryId : Nat} {table : TableIdent} {endpoints rest : List Endpoint}
    (h : r.tryTable queryId table endpoints = .ok (some e, rest)) :
    e.queryId = queryId ∧ e.table = table ∧ r.ruleOf table = some e.rule ∧
      (table.schema.isSome ∨ r.defaultDb.isSome) := by
  unfold tryTable at h
  cases hrule : r.ruleOf table with
  | none =>
    rw [hrule] at h
    cases h
  | some rule =>
    rw [hrule] at h
    obtain ⟨⟨hasDb, rest'⟩, hdb, h⟩ := bind_eq_ok.mp h
    simp only [pure_eq_ok, Prod.mk.injEq] at h
    obtain ⟨h, -⟩ := h
    split_ifs at h with hc
    cases h
    refine ⟨rfl, rfl, rfl, ?_⟩
    rw [Bool.or_eq_true] at hc
    rcases hc with hc | hc
    · exact .inl hc
    · subst hc
      unfold hasDefaultDb at hdb
      cases hd : r.defaultDb with
      | none =>
        rw [hd] at hdb
        cases hdb
      | some db => exact .inr rfl

theorem mem_findTable {tables : List (Nat × TableIdent)} {endpoints : List Endpoint} {tt : List TryTable}
    (h : r.findTable tables endpoints = .ok tt) (he : e ∈ tt) :
    (e.queryId, e.table) ∈ tables ∧ r.ruleOf e.table = some e.rule ∧
      (e.table.schema.isSome ∨ r.defaultDb.isSome) := by
  induction tables generalizing endpoints tt with
  | nil =>
    cases h
    cases he
  | cons x tables ih =>
    obtain ⟨queryId, table⟩ := x
    obtain ⟨⟨found, rest⟩, hfound, h⟩ := bind_eq_ok.mp h
    obtain ⟨others, hothers, h⟩ := bind_eq_ok.mp h
    rw [pure_eq_ok] at h
    rw [← h] at he
    rcases List.mem_append.mp he with he | he
    · rw [Option.mem_toList] at he
      subst he
      obtain ⟨rfl, rfl, hrule, hdb⟩ := tryTable_eq_some hfound
      exact ⟨List.mem_cons_self, hrule, hdb⟩
    · obtain ⟨hmem, hrest⟩ := ih hothers he
      exact ⟨List.mem_cons_of_mem _ hmem, hrest⟩

/-! ## Equalities -/

theorem calcU64_toOption (arith : Arith) (v : Nat) (algo : ShardingAlgorithmName) {count : Nat} (hc : 0 < count) :
    ∃ idx, calcU64 arith v algo count = .ok idx ∧ (calcU64 arith v algo count).toOption = some idx := by
  obtain ⟨idx, hidx⟩ := calcU64_isOk arith v algo hc
  exact ⟨idx, hidx, by rw [hidx]; rfl⟩

theorem whereIdx_eq_ok {column : String} {count : Nat} {algo : ShardingAlgorithmName} {o : Option (Option Nat)}
    (hc : 0 < count) (hnum : ∀ w ∈ metas, ∃ text, w.right = .num text) :
    whereIdx r.arith metas (some column) (some count) (some algo) = .ok o ↔
      (∀ text, getWhereMatchRight metas column = some (.num text) → (parseU64 text).isSome = true) ∧
      o = (r.namedIdx (some column) (some count) (some algo) metas).map some := by
  have hright : ∀ right, getWhereMatchRight metas column = some right → ∃ text, right = .num text := by
    intro right hr
    obtain ⟨w, hw, rfl⟩ := Option.map_eq_some_iff.mp hr
    exact hnum w (List.mem_of_find?_eq_some hw)
  cases hm : getWhereMatchRight metas column with
  | none =>
    have hnamed : r.namedIdx (some column) (some count) (some algo) metas = none := by
      simp only [namedIdx, Option.bind_eq_bind, Option.bind_some, hm]
    rw [hnamed]
    simp only [whereIdx, hm, unwrap_some, bind, Except.bind, pure, Except.pure]
    constructor
    · rintro ⟨⟩
      exact ⟨by simp, rfl⟩
    · rintro ⟨-, rfl⟩
      rfl
  | some right =>
    obtain ⟨text, rfl⟩ := hright right hm
    cases hp : parseU64 text with
    | none =>
      simp [whereIdx, hm, parseWhere, hp, okOr, bind, Except.bind]
    | some v =>
      obtain ⟨idx, hidx, hopt⟩ := calcU64_toOption r.arith v algo hc
      have hnamed : r.namedIdx (some column) (some count) (some algo) metas = some idx := by
        simp only [namedIdx, Option.bind_eq_bind, Option.bind_some, hm, hp, hopt]
      rw [hnamed]
      simp only [whereIdx, hm, parseWhere, hp, okOr, hidx, unwrap_some, bind, Except.bind, pure, Except.pure]
      constructor
      · rintro ⟨⟩
        exact ⟨by simp [hp], rfl⟩
      · rintro ⟨-, rfl⟩
        rfl

/-- What `find_try_where` keeps of a query. -/
def found (r : Rewriter) (rule : Sharding) (metas : List WhereMeta) : Option (List (Option Nat)) :=
  match rule.strategy with
  | .database _ _ => (r.namedNode rule metas).map fun i => [some i]
  | .table _ _ _ => (r.namedTable rule metas).map fun i => [some i]
  | .databaseTable _ _ _ _ _ => some [r.namedNode rule metas, r.namedTable rule metas]

section

variable {r : Rewriter} {rule : Sharding} {tt : List TryTable} (husable : rule.Usable r.endpoints)
  (hrules : ∀ t ∈ tt, t.rule = rule)

include husable

theorem length_pos_of_usable : 0 < rule.actualDatanodes.length := List.length_pos_iff.mpr husable.hasNodes

include hrules

theorem tryWhere_eq_ok {queryId : Nat} {metas : List WhereMeta} {o : Option (List (Option Nat))}
    (hnum : ∀ w ∈ metas, ∃ text, w.right = .num text) :
    tryWhere r.arith rule.getStrategyTyp tt queryId metas = .ok o ↔
      EqualitiesFit tt rule queryId metas ∧ o = r.found rule metas := by
  have hnodes := length_pos_of_usable husable
  have htables := husable.hasTables
  cases hf : tt.find? (·.queryId == queryId) with
  | none =>
    have hno : ¬ ∃ t ∈ tt, t.queryId = queryId := by
      rintro ⟨t, ht, hq⟩
      have hne := List.find?_eq_none.mp hf t ht
      simp [hq] at hne
    constructor
    · intro h
      simp [tryWhere, hf, unwrap, bind, Except.bind] at h
    · rintro ⟨hfit, -⟩
      exact absurd hfit.sharded hno
  | some t =>
    have ht : t ∈ tt := List.mem_of_find?_eq_some hf
    have hsharded : ∃ t ∈ tt, t.queryId = queryId := ⟨t, ht, by simpa using List.find?_some hf⟩
    have hfit : ∀ P, (EqualitiesFit tt rule queryId metas ∧ P) ↔ (∀ column ∈ rule.columns, ∀ text,
        getWhereMatchRight metas column = some (.num text) → (parseU64 text).isSome = true) ∧ P := by
      intro P
      exact ⟨fun h => ⟨h.1.unsigned, h.2⟩, fun h => ⟨⟨hsharded, h.1⟩, h.2⟩⟩
    rw [hfit]
    obtain ⟨q, rule', table⟩ := t
    obtain rfl : rule' = rule := hrules _ ht
    unfold tryWhere
    rw [hf, unwrap_some]
    obtain ⟨tableName, nodes, strategy⟩ := rule'
    cases strategy with
    | database algo column =>
      show (whereIdx r.arith metas (some column) (some nodes.length) (some algo) >>= fun i =>
        pure (i.map ([·]))) = .ok o ↔ (∀ c ∈ [column], _) ∧ o = (r.namedIdx _ _ _ metas).map _
      simp only [bind_eq_ok, whereIdx_eq_ok hnodes hnum, pure_eq_ok, List.forall_mem_singleton]
      constructor
      · rintro ⟨a, ⟨hu, rfl⟩, rfl⟩
        exact ⟨hu, by rw [Option.map_map]; rfl⟩
      · rintro ⟨hu, rfl⟩
        exact ⟨_, ⟨hu, rfl⟩, by rw [Option.map_map]; rfl⟩
    | table algo column count =>
      have hcount : 0 < count := htables count rfl
      show (whereIdx r.arith metas (some column) (some count) (some algo) >>= fun i =>
        pure (i.map ([·]))) = .ok o ↔ (∀ c ∈ [column], _) ∧ o = (r.namedIdx _ _ _ metas).map _
      simp only [bind_eq_ok, whereIdx_eq_ok hcount hnum, pure_eq_ok, List.forall_mem_singleton]
      constructor
      · rintro ⟨a, ⟨hu, rfl⟩, rfl⟩
        exact ⟨hu, by rw [Option.map_map]; rfl⟩
      · rintro ⟨hu, rfl⟩
        exact ⟨_, ⟨hu, rfl⟩, by rw [Option.map_map]; rfl⟩
    | databaseTable dbAlgo dbColumn tableAlgo tableColumn count =>
      have hcount : 0 < count := htables count rfl
      have hjoin : ∀ x : Option Nat, (x.map some).join = x := by
        intro x
        cases x <;> rfl
      show (whereIdx r.arith metas (some dbColumn) (some nodes.length) (some dbAlgo) >>= fun db =>
        whereIdx r.arith metas (some tableColumn) (some count) (some tableAlgo) >>= fun table =>
          pure (some [db.join, table.join])) = .ok o ↔
        (∀ c ∈ [dbColumn, tableColumn], _) ∧ o = some [r.namedIdx _ _ _ metas, r.namedIdx _ _ _ metas]
      simp only [bind_eq_ok, whereIdx_eq_ok hnodes hnum, whereIdx_eq_ok hcount hnum, pure_eq_ok, List.forall_mem_cons]
      constructor
      · rintro ⟨a, ⟨hu, rfl⟩, b, ⟨hv, rfl⟩, rfl⟩
        exact ⟨⟨hu, hv, by simp⟩, by rw [hjoin, hjoin]; rfl⟩
      · rintro ⟨⟨hu, hv, -⟩, rfl⟩
        exact ⟨_, ⟨hu, rfl⟩, _, ⟨hv, rfl⟩, by rw [hjoin, hjoin]; rfl⟩

theorem findTryWhere_eq_ok {wheres : IndexMap Nat WhereMeta} (res : List (List (Option Nat)))
    (hnum : ∀ q ∈ wheres, ∀ w ∈ q.2, ∃ text, w.right = .num text) :
    findTryWhere r.arith rule.getStrategyTyp tt wheres = .ok res ↔
      (∀ q ∈ wheres, EqualitiesFit tt rule q.1 q.2) ∧ res = wheres.filterMap fun q => r.found rule q.2 := by
  have hmap : ∀ bs, (wheres.mapM fun q => tryWhere r.arith rule.getStrategyTyp tt q.1 q.2) = .ok bs ↔
      (∀ q ∈ wheres, EqualitiesFit tt rule q.1 q.2) ∧ bs = wheres.map fun q => r.found rule q.2 := by
    intro bs
    exact mapM_eq_ok_iff fun q hq b => tryWhere_eq_ok husable hrules (hnum q hq)
  have hreduce : (wheres.map fun q => r.found rule q.2).reduceOption = wheres.filterMap fun q => r.found rule q.2 := by
    rw [List.reduceOption, List.filterMap_map]
    rfl
  unfold findTryWhere
  rw [bind_eq_ok]
  constructor
  · rintro ⟨bs, hbs, h⟩
    obtain ⟨hfit, rfl⟩ := (hmap bs).mp hbs
    rw [pure_eq_ok, hreduce] at h
    exact ⟨hfit, h.symm⟩
  · rintro ⟨hfit, rfl⟩
    refine ⟨_, (hmap _).mpr ⟨hfit, rfl⟩, ?_⟩
    rw [pure_eq_ok, hreduce]

end

/-! ## The part -/

def partNamed : Option Nat × Option Nat → Part
  | (none, none) => .all
  | (some i, none) => .database i
  | (none, some k) => .table k
  | (some i, some k) => .databaseTable i k

@[simp] theorem databaseIdx_partNamed (n : Option Nat × Option Nat) : (partNamed n).databaseIdx = n.1 := by
  obtain ⟨_ | i, _ | k⟩ := n <;> rfl

@[simp] theorem tableIdx_partNamed (n : Option Nat × Option Nat) : (partNamed n).tableIdx = n.2 := by
  obtain ⟨_ | i, _ | k⟩ := n <;> rfl

theorem agreedIdx_eq (ks : List Nat) : agreedIdx (ks.map fun i => [some i]) = .ok (agreed ks) := by
  cases ks with
  | nil => rfl
  | cons k ks =>
    have hidxs : ((k :: ks).map fun i => [some i]).mapM (fun x => unwrap (x[0]?.join)) = .ok (k :: ks) := by
      rw [mapM_eq_ok, List.forall₂_map_left_iff, List.forall₂_same]
      intro i hi
      rfl
    show (unwrap (some k) >>= fun firstIdx => _) = _
    rw [unwrap_some]
    show (((k :: ks).map fun i => [some i]).mapM (fun x => unwrap (x[0]?.join)) >>= fun idxs => _) = _
    rw [hidxs]
    show Except.ok (if k * ((k :: ks).map fun i => [some i]).length ≠ (k :: ks).sum then none else some k) =
      .ok (if k * (k :: ks).length = (k :: ks).sum then some k else none)
    rw [List.length_map, ite_not]

theorem firstPart_eq_ok {node table : Option Nat} {res : List (List (Option Nat))} {part : Part} :
    firstPart ([node, table] :: res) = .ok part ↔
      (node.isSome = true ∨ table.isSome = true) ∧ part = partNamed (node, table) := by
  have hfilter : ([node, table] :: res).filter (!·.isEmpty) = [node, table] :: res.filter (!·.isEmpty) := rfl
  unfold firstPart
  rw [hfilter]
  cases node with
  | none =>
    cases table with
    | none =>
      constructor
      · intro h
        cases h
      · rintro ⟨h, -⟩
        simp at h
    | some k =>
      constructor
      · rintro ⟨⟩
        exact ⟨.inr rfl, rfl⟩
      · rintro ⟨-, rfl⟩
        rfl
  | some i =>
    cases table with
    | none =>
      constructor
      · rintro ⟨⟩
        exact ⟨.inl rfl, rfl⟩
      · rintro ⟨-, rfl⟩
        rfl
    | some k =>
      constructor
      · rintro ⟨⟩
        exact ⟨.inl rfl, rfl⟩
      · rintro ⟨-, rfl⟩
        rfl

theorem isSome_namedIdx {column : String} {count : Nat} {algo : ShardingAlgorithmName} (hc : 0 < count)
    (hnum : ∀ w ∈ metas, ∃ text, w.right = .num text)
    (hu : ∀ text, getWhereMatchRight metas column = some (.num text) → (parseU64 text).isSome = true) :
    (r.namedIdx (some column) (some count) (some algo) metas).isSome = true ↔
      (getWhereMatchRight metas column).isSome = true := by
  cases hm : getWhereMatchRight metas column with
  | none => simp [namedIdx, hm]
  | some right =>
    obtain ⟨w, hw, rfl⟩ := Option.map_eq_some_iff.mp hm
    obtain ⟨text, htext⟩ := hnum w (List.mem_of_find?_eq_some hw)
    rw [htext] at hm
    obtain ⟨v, hv⟩ := Option.isSome_iff_exists.mp (hu text hm)
    obtain ⟨idx, -, hopt⟩ := calcU64_toOption r.arith v algo hc
    simp [namedIdx, hm, hv, hopt]

theorem partOf_of_ne_nil {wheres : IndexMap Nat WhereMeta} (hne : wheres ≠ []) (typ : StrategyTyp) (tt : List TryTable) :
    r.partOf typ tt wheres = findTryWhere r.arith typ tt wheres >>= fun found =>
      match typ with
      | .database => do return (← agreedIdx found).elim .all .database
      | .table => do return (← agreedIdx found).elim .all .table
      | .databaseTable => firstPart found := by
  cases wheres with
  | nil => exact absurd rfl hne
  | cons q0 qs => rfl

section

variable {r : Rewriter} {rule : Sharding} {tt : List TryTable} (husable : rule.Usable r.endpoints)
  (hrules : ∀ t ∈ tt, t.rule = rule)

include husable hrules

theorem partOf_eq_ok {wheres : IndexMap Nat WhereMeta} (part : Part)
    (hnum : ∀ q ∈ wheres, ∀ w ∈ q.2, ∃ text, w.right = .num text) :
    r.partOf rule.getStrategyTyp tt wheres = .ok part ↔ (∀ q ∈ wheres, EqualitiesFit tt rule q.1 q.2) ∧
      (rule.getStrategyTyp = .databaseTable → ∀ q ∈ wheres.head?,
        ∃ column ∈ rule.columns, (getWhereMatchRight q.2 column).isSome = true) ∧
      part = partNamed (r.named rule wheres) := by
  have hnodes := length_pos_of_usable husable
  have htables := husable.hasTables
  have hfound := fun res => findTryWhere_eq_ok husable hrules res hnum
  cases hw : wheres with
  | nil =>
    have hnamed : r.named rule [] = (none, none) := by
      unfold named
      cases rule.strategy <;> rfl
    rw [hnamed]
    constructor
    · rintro ⟨⟩
      exact ⟨fun q hq => (by cases hq), fun _ q hq => (by cases hq), rfl⟩
    · rintro ⟨-, -, rfl⟩
      rfl
  | cons q0 qs =>
    rw [← hw]
    rw [partOf_of_ne_nil (hw ▸ List.cons_ne_nil q0 qs), bind_eq_ok]
    simp only [hfound]
    obtain ⟨tableName, nodes, strategy⟩ := rule
    cases strategy with
    | database algo column =>
      have hks : (wheres.filterMap fun q => r.found ⟨tableName, nodes, .database algo column⟩ q.2) =
          (wheres.filterMap fun q => r.namedNode ⟨tableName, nodes, .database algo column⟩ q.2).map
            fun i => [some i] := by
        rw [List.map_filterMap]
        rfl
      constructor
      · rintro ⟨res, ⟨hfit, rfl⟩, h⟩
        rw [hks] at h
        simp only [Sharding.getStrategyTyp, agreedIdx_eq] at h
        refine ⟨hfit, fun h' => (by cases h'), ?_⟩
        cases h
        show Option.elim (agreed _) _ _ = partNamed (agreed _, none)
        cases agreed _ <;> rfl
      · rintro ⟨hfit, -, rfl⟩
        refine ⟨_, ⟨hfit, rfl⟩, ?_⟩
        rw [hks]
        simp only [Sharding.getStrategyTyp, agreedIdx_eq]
        show Except.ok (Option.elim (agreed _) _ _) = .ok (partNamed (agreed _, none))
        cases agreed _ <;> rfl
    | table algo column count =>
      have hks : (wheres.filterMap fun q => r.found ⟨tableName, nodes, .table algo column count⟩ q.2) =
          (wheres.filterMap fun q => r.namedTable ⟨tableName, nodes, .table algo column count⟩ q.2).map
            fun i => [some i] := by
        rw [List.map_filterMap]
        rfl
      constructor
      · rintro ⟨res, ⟨hfit, rfl⟩, h⟩
        rw [hks] at h
        simp only [Sharding.getStrategyTyp, agreedIdx_eq] at h
        refine ⟨hfit, fun h' => (by cases h'), ?_⟩
        cases h
        show Option.elim (agreed _) _ _ = partNamed (none, agreed _)
        cases agreed _ <;> rfl
      · rintro ⟨hfit, -, rfl⟩
        refine ⟨_, ⟨hfit, rfl⟩, ?_⟩
        rw [hks]
        simp only [Sharding.getStrategyTyp, agreedIdx_eq]
        show Except.ok (Option.elim (agreed _) _ _) = .ok (partNamed (none, agreed _))
        cases agreed _ <;> rfl
    | databaseTable dbAlgo dbColumn tableAlgo tableColumn count =>
      have hcount : 0 < count := htables count rfl
      have hq0 : ∀ w ∈ q0.2, ∃ text, w.right = .num text := hnum q0 (by rw [hw]; exact List.mem_cons_self)
      have hhead : wheres.head? = some q0 := by rw [hw]; rfl
      have hres : (wheres.filterMap fun q =>
          r.found ⟨tableName, nodes, .databaseTable dbAlgo dbColumn tableAlgo tableColumn count⟩ q.2) =
          [r.namedIdx (some dbColumn) (some nodes.length) (some dbAlgo) q0.2,
            r.namedIdx (some tableColumn) (some count) (some tableAlgo) q0.2] ::
          qs.filterMap fun q =>
            r.found ⟨tableName, nodes, .databaseTable dbAlgo dbColumn tableAlgo tableColumn count⟩ q.2 := by
        rw [hw]
        rfl
      have hsome : EqualitiesFit tt ⟨tableName, nodes, .databaseTable dbAlgo dbColumn tableAlgo tableColumn count⟩
          q0.1 q0.2 →
          ((r.namedIdx (some dbColumn) (some nodes.length) (some dbAlgo) q0.2).isSome = true ∨
            (r.namedIdx (some tableColumn) (some count) (some tableAlgo) q0.2).isSome = true ↔
          ∃ column ∈ [dbColumn, tableColumn], (getWhereMatchRight q0.2 column).isSome = true) := by
        intro hfit
        rw [isSome_namedIdx hnodes hq0 (hfit.unsigned dbColumn (by simp [Sharding.columns, Sharding.getShardingColumn])),
          isSome_namedIdx hcount hq0 (hfit.unsigned tableColumn (by
            simp [Sharding.columns, Sharding.getShardingColumn]))]
        simp
      have hnamed : r.named ⟨tableName, nodes, .databaseTable dbAlgo dbColumn tableAlgo tableColumn count⟩ wheres =
          (r.namedIdx (some dbColumn) (some nodes.length) (some dbAlgo) q0.2,
            r.namedIdx (some tableColumn) (some count) (some tableAlgo) q0.2) := by
        rw [hw]
        rfl
      have hmem : q0 ∈ wheres := by rw [hw]; exact List.mem_cons_self
      rw [hnamed]
      constructor
      · rintro ⟨res, ⟨hfit, rfl⟩, h⟩
        rw [hres] at h
        obtain ⟨hex, hp⟩ := firstPart_eq_ok.mp h
        refine ⟨hfit, fun _ q hq => ?_, hp⟩
        rw [hhead, Option.mem_some_iff] at hq
        subst hq
        exact (hsome (hfit _ hmem)).mp hex
      · rintro ⟨hfit, hex, rfl⟩
        refine ⟨_, ⟨hfit, rfl⟩, ?_⟩
        rw [hres]
        exact firstPart_eq_ok.mpr ⟨(hsome (hfit _ hmem)).mpr (hex rfl q0 hhead), rfl⟩

end

end Rewriter

end DataNexus.ShardingRewrite
