/-
  Whether a sharded insert keeps its rows.

  Each row goes to the shard of its recorded number, and behind the rows of a shard nothing is copied.  The row is
  meant for the shard of the number that its expression at the sharding column has.

  * `insert_results` — the statements that the insert path writes, whatever the rows are;
  * `rows_kept_iff` — every row is in the statement of its own shard, in order and with the clause behind the rows,
    if there is no such clause, no row has a query inside and every row's recorded number belongs to the same shard
    as its expression; and of the statements without queries, only then.
-/
import DataNexus.Lib.Joined
import DataNexus.Sharding.Prune
import DataNexus.Sharding.Rows

namespace DataNexus.ShardingRewrite

open DataNexus.Fallible DataNexus.Joined DataNexus.Text

/-! ## Inserts with rows -/

/-- `INSERT INTO table(idents) VALUES rows …` with its text, up to the place where it stops. -/
structure ValuesInsert where
  rawSql : List Char
  stop : Nat
  table : TableIdent
  idents : List InsertIdent
  rows : List RowValue
  insUpdates : List Expr
  updates : List Expr

def comma : List Char := [',', ' ']

namespace ValuesInsert

def stmt (i : ValuesInsert) : SqlStmt := valuesInsert i.table i.idents i.rows i.insUpdates i.updates

def textOf (i : ValuesInsert) (row : RowValue) : List Char := (i.rawSql.take row.span.stop).drop row.span.start

def front (i : ValuesInsert) : List Char := i.rawSql.take (i.rows.head?.elim 0 (·.span.start))

def clause (i : ValuesInsert) : List Char := (i.rawSql.take i.stop).drop (i.rows.getLast?.elim 0 (·.span.stop))

/-- What a parser says about where the parts of the statement stand. -/
structure Parsed (i : ValuesInsert) : Prop where
  hasRows : i.rows ≠ []
  table : i.table.span.start ≤ i.table.span.stop ∧ i.table.span.stop ≤ i.front.length
  spans : ∀ row ∈ i.rows, row.span.start ≤ row.span.stop ∧ row.span.stop ≤ i.rawSql.length
  /-- A row ends with the parenthesis that closes it, -/
  closes : ∀ row ∈ i.rows, (i.textOf row).getLast? = some ')'
  /-- so that none begins another one, and the same text has the same values. -/
  free : ∀ row ∈ i.rows, ∀ row' ∈ i.rows, i.textOf row <+: i.textOf row' →
    i.textOf row = i.textOf row' ∧ row.values = row'.values
  /-- A clause does not begin like one more row. -/
  clauseHead : i.clause.head? ≠ some ','
  noClause : i.clause = [] → i.insUpdates = [] ∧ i.updates = []

structure Plain (i : ValuesInsert) : Prop where
  rows : ∀ row ∈ i.rows, plain row.values = true
  insUpdates : plain i.insUpdates = true
  updates : plain i.updates = true

/-! ## The shards of a row -/

def columnOf : InsertIdent → Option String
  | .ident (.ident value quoted) => some (if quoted then unquote value else value)
  | .ident (.tableIdent field _ _) => some (unquote field)
  | _ => none

/-- The number of a row at a column.  `eval` is what the server makes of an expression: the unsigned number that it
    is, if it is one. -/
def numberAt (i : ValuesInsert) (eval : Expr → Option Nat) (row : RowValue) (column : String) : Option Nat := do
  let p ← i.idents.findIdx? (columnOf · == some column)
  eval (← row.values[p]?)

/-- The shard that a row belongs to, by its expressions. -/
def shardOf (i : ValuesInsert) (arith : Arith) (rule : Sharding) (eval : Expr → Option Nat) (row : RowValue) :
    Option ShardingIdx :=
  rule.idxOf arith (i.numberAt eval row)

/-- The shard that a row is sent to, by the literals that the walk filed. -/
def sentTo (i : ValuesInsert) (arith : Arith) (rule : Sharding) (row : RowValue) : Option ShardingIdx :=
  rule.idxOf arith (recordedNumber (fieldsOf i.idents) (recorded row.values))

end ValuesInsert

namespace Rewriter

/-- The text before the rows of a target: the one before all rows, with the table of the shard. -/
def opening (r : Rewriter) (rule : Sharding) (i : ValuesInsert) (idx : ShardingIdx) : Outcome (List Char) := do
  changeSql i.front i.table.span (← r.insertTarget rule i.table idx)

def Finds (r : Rewriter) (rule : Sharding) (table : TableIdent) : Prop :=
  ∃ rest, r.tryTable 0 table r.endpoints = .ok (some ⟨0, rule, table⟩, rest)

/-- **The insert keeps its rows**: one statement for each shard with exactly its rows, in order. -/
def KeepsRows (r : Rewriter) (rule : Sharding) (eval : Expr → Option Nat) (i : ValuesInsert) : Prop :=
  ∃ results, r.rewrite i.rawSql i.stmt = .ok (.inserts results) ∧
    (results.map (·.dsIdx.idx)).Nodup ∧
    (∀ row ∈ i.rows, ∃ result ∈ results, i.shardOf r.arith rule eval row = some result.dsIdx.idx) ∧
    ∀ result ∈ results, ∃ opening, r.opening rule i result.dsIdx.idx = .ok opening ∧
      (∃ row ∈ i.rows, i.shardOf r.arith rule eval row = some result.dsIdx.idx) ∧
      result.targetSql = opening ++ joined comma ((i.rows.filter fun row =>
        i.shardOf r.arith rule eval row == some result.dsIdx.idx).map i.textOf) ++ i.clause

structure RowsFit (r : Rewriter) (rule : Sharding) (eval : Expr → Option Nat) (i : ValuesInsert) : Prop where
  noQuery : ∀ row ∈ i.rows, plain row.values = true
  noClause : i.clause = []
  sameShard : ∀ row ∈ i.rows, ∃ idx, i.sentTo r.arith rule row = some idx ∧ i.shardOf r.arith rule eval row = some idx

end Rewriter

/-! ## The statements that are written -/

theorem pushRow_map {F G : ShardingIdx → List Char} {ks : List ShardingIdx} {key : ShardingIdx}
    {front row : List Char} (hother : ∀ k ∈ ks, k ≠ key → G k = F k) (hold : key ∈ ks → G key = F key ++ row)
    (hnew : key ∉ ks → G key = front ++ row) (hnodup : ks.Nodup) :
    pushRow (ks.map fun k => (k, F k)) key front row =
      (if key ∈ ks then ks else ks ++ [key]).map fun k => (k, G k) := by
  induction ks with
  | nil => simp [pushRow, hnew]
  | cons k ks ih =>
    rw [List.nodup_cons] at hnodup
    by_cases hk : k = key
    · subst hk
      have hrest : ks.map (fun j => (j, F j)) = ks.map fun j => (j, G j) := by
        refine List.map_congr_left fun j hj => ?_
        rw [hother j (List.mem_cons_of_mem _ hj) (by rintro rfl; exact hnodup.1 hj)]
      simp [pushRow, hold, hrest]
    · have hrest := ih (fun j hj => hother j (List.mem_cons_of_mem _ hj))
        (fun h => hold (List.mem_cons_of_mem _ h))
        (fun h => hnew (by simp [h, Ne.symm hk])) hnodup.2
      have hhead : G k = F k := hother k List.mem_cons_self hk
      rw [List.map_cons, pushRow, if_neg hk, hrest]
      by_cases hmem : key ∈ ks
      · rw [if_pos hmem, if_pos (List.mem_cons_of_mem k hmem), List.map_cons, hhead]
      · rw [if_neg hmem, if_neg (by simp [hmem, Ne.symm hk]), List.cons_append, List.map_cons, hhead]

/-- **Rows by shard.**  After all rows there is one text for each of their shards: the opening, and the rows of the
    shard in order. -/
theorem foldl_pushRow (opening : ShardingIdx → List Char) {β : Type} (key : β → ShardingIdx) (text : β → List Char)
    (rows : List β) : ∃ ks : List ShardingIdx, ks.Nodup ∧ (∀ k, k ∈ ks ↔ ∃ row ∈ rows, key row = k) ∧
      rows.foldl (fun sqls row => pushRow sqls (key row) (opening (key row)) (text row)) [] =
        ks.map fun k => (k, opening k ++ (rows.filter (key · == k)).flatMap text) := by
  induction rows using List.reverseRecOn with
  | nil => exact ⟨[], by simp⟩
  | append_singleton rows row ih =>
    obtain ⟨ks, hnodup, hmem, heq⟩ := ih
    rw [List.foldl_append, heq]
    refine ⟨if key row ∈ ks then ks else ks ++ [key row], ?_, ?_, ?_⟩
    · split
      · exact hnodup
      · rename_i hnew
        refine List.nodup_append.mpr ⟨hnodup, by simp, ?_⟩
        rintro a ha b hb rfl
        exact hnew (List.mem_singleton.mp hb ▸ ha)
    · intro k
      have hsplit : (∃ row' ∈ rows ++ [row], key row' = k) ↔ k ∈ ks ∨ key row = k := by
        simp [hmem, or_and_right, exists_or]
      rw [hsplit]
      split
      · rename_i hold
        exact ⟨Or.inl, fun h => h.elim id fun h => h ▸ hold⟩
      · simp [eq_comm]
    · refine pushRow_map ?_ ?_ ?_ hnodup
      · intro k _ hk
        simp [List.filter_append, Ne.symm hk]
      · intro _
        simp [List.filter_append]
      · intro hnew
        have hnone : rows.filter (key · == key row) = [] := by
          rw [List.filter_eq_nil_iff]
          intro row' hrow' h
          exact hnew ((hmem _).mpr ⟨row', hrow', by simpa using h⟩)
        simp [List.filter_append, hnone]

theorem trimComma_append {s : List Char} {c : Char} (h : s.getLast? = some c) (hc : c ≠ ' ') :
    trimComma (s ++ comma) = s := by
  obtain ⟨s', rfl⟩ : ∃ s', s = s' ++ [c] := by
    obtain ⟨s', hs'⟩ := List.getLast?_eq_some_iff.mp h
    exact ⟨s', hs'⟩
  have hgo : trimComma.go (c :: s'.reverse) = c :: s'.reverse := by
    unfold trimComma.go
    split
    · rename_i heq
      exact absurd (List.cons.inj heq).1 hc
    · rfl
  have hrev : (s' ++ [c] ++ comma).reverse = ' ' :: ',' :: c :: s'.reverse := by simp [comma]
  rw [trimComma, hrev]
  show (trimComma.go (c :: s'.reverse)).reverse = _
  rw [hgo]
  simp

namespace Rewriter

variable {r : Rewriter} {rule : Sharding} {i : ValuesInsert} {eval : Expr → Option Nat}

theorem Finds.hasDb {table : TableIdent} (h : r.Finds rule table) : table.schema.isSome ∨ r.defaultDb.isSome := by
  obtain ⟨rest, h⟩ := h
  exact (tryTable_eq_some h).2.2.2

theorem insertTarget_isOk (husable : rule.Usable r.endpoints) {table : TableIdent}
    (hdb : table.schema.isSome ∨ r.defaultDb.isSome) {idx : ShardingIdx} (hvalid : rule.Valid idx) :
    ∃ target, r.insertTarget rule table idx = .ok target := by
  obtain ⟨s, hs, -⟩ := insertShard_isOk husable hvalid
  obtain ⟨ds, -, hs⟩ := bind_eq_ok.mp hs
  obtain ⟨tableName, nodes, strategy⟩ := rule
  cases strategy with
  | database algo column =>
    obtain ⟨n, -, rfl⟩ := hvalid
    obtain ⟨_, ⟨⟩, hs⟩ := bind_eq_ok.mp hs
    obtain ⟨schema, hschema, -⟩ := bind_eq_ok.mp hs
    obtain ⟨target, htarget⟩ := changeTable_isOk hdb (schema.getD "") n
    exact ⟨target, bind_eq_ok.mpr ⟨n, rfl, bind_eq_ok.mpr ⟨schema, hschema, htarget⟩⟩⟩
  | table algo column count =>
    obtain ⟨k, -, rfl⟩ := hvalid
    obtain ⟨target, htarget⟩ := changeTable_isOk hdb "" k
    exact ⟨target, bind_eq_ok.mpr ⟨k, rfl, htarget⟩⟩
  | databaseTable dbAlgo dbColumn tableAlgo tableColumn count =>
    obtain ⟨n, -, k, -, rfl⟩ := hvalid
    obtain ⟨_, ⟨⟩, hs⟩ := bind_eq_ok.mp hs
    obtain ⟨schema, hschema, -⟩ := bind_eq_ok.mp hs
    obtain ⟨inDb, hinDb⟩ := changeTable_isOk hdb (schema.getD "") n
    obtain ⟨target, htarget⟩ := changeTable_isOk
      (t := { table with schema := some (schema.getD "") }) (r := r) (.inl rfl) "" k
    exact ⟨target, bind_eq_ok.mpr ⟨n, rfl, bind_eq_ok.mpr ⟨schema, hschema, bind_eq_ok.mpr ⟨inDb, hinDb,
      bind_eq_ok.mpr ⟨k, rfl, htarget⟩⟩⟩⟩⟩

theorem opening_isOk (husable : rule.Usable r.endpoints) (hparsed : i.Parsed) (hfinds : r.Finds rule i.table)
    {idx : ShardingIdx} (hvalid : rule.Valid idx) : ∃ opening, r.opening rule i idx = .ok opening := by
  obtain ⟨target, htarget⟩ := insertTarget_isOk husable hfinds.hasDb hvalid
  have hsql : changeSql i.front i.table.span target = .ok (i.front.take i.table.span.start ++ target ++
      i.front.drop i.table.span.stop) := if_pos hparsed.table
  exact ⟨_, bind_eq_ok.mpr ⟨target, htarget, hsql⟩⟩

theorem genDataSource_isOk (husable : rule.Usable r.endpoints) {idx : ShardingIdx} (hvalid : rule.Valid idx) :
    ∃ ds, r.genDataSource rule (idx.database.getD 0) = .ok ds := by
  obtain ⟨s, hs, -⟩ := insertShard_isOk husable hvalid
  obtain ⟨ds, hds, -⟩ := bind_eq_ok.mp hs
  exact ⟨ds, hds⟩

theorem slice_textOf (hparsed : i.Parsed) {row : RowValue} (hrow : row ∈ i.rows) :
    slice row.span.start row.span.stop i.rawSql = some (i.textOf row) := by
  unfold slice
  rw [if_pos (hparsed.spans row hrow)]
  rfl

def changeOf (code : RowValue → ShardingIdx) (row : RowValue) : InsertRowValueIdx := ⟨code row, row.span⟩

theorem changeInsert_rows (hparsed : i.Parsed) {changes : List InsertRowValueIdx} :
    changeInsert r.arith rule.getStrategyTyp (i.rows.map RowValue.filed) (fieldsOf i.idents) (baseInfo rule) =
        .ok changes ↔ ∃ code : RowValue → ShardingIdx, (∀ row ∈ i.rows, i.sentTo r.arith rule row = some (code row)) ∧
        changes = i.rows.map (changeOf code) := by
  rw [changeInsert_eq_ok (by simpa using hparsed.hasRows), List.forall₂_map_left_iff]
  constructor
  · intro h
    refine ⟨fun row => (i.sentTo r.arith rule row).getD ⟨none, none⟩, ?_⟩
    -- induction over the rows and their changes side by side
    generalize i.rows = rows at h
    induction h with
    | nil => exact ⟨nofun, rfl⟩
    | cons hrow _ ih =>
      rename_i row change rows changes _
      obtain ⟨hidx, hspan⟩ := hrow
      have hsent : i.sentTo r.arith rule row = some change.shardingIdx := hidx
      refine ⟨List.forall_mem_cons.mpr ⟨by simp [hsent], ih.1⟩, ?_⟩
      have hhead : changeOf (fun row => (i.sentTo r.arith rule row).getD ⟨none, none⟩) row = change := by
        obtain ⟨idx, span⟩ := change
        simp only [changeOf, hsent, Option.getD_some, InsertRowValueIdx.mk.injEq, true_and]
        exact hspan.symm
      rw [List.map_cons, hhead, ← ih.2]
  · rintro ⟨code, hcode, rfl⟩
    rw [List.forall₂_map_right_iff, List.forall₂_same]
    exact fun row hrow => ⟨hcode row hrow, rfl⟩

/-- What the statements of an insert look like, with the shards that its rows are sent to. -/
structure Written (r : Rewriter) (rule : Sharding) (i : ValuesInsert) (code : RowValue → ShardingIdx)
    (results : List InsertResult) : Prop where
  nodup : (results.map (·.dsIdx.idx)).Nodup
  shards : ∀ idx, idx ∈ results.map (·.dsIdx.idx) ↔ ∃ row ∈ i.rows, code row = idx
  texts : ∀ result ∈ results, ∃ opening, r.opening rule i result.dsIdx.idx = .ok opening ∧
    result.targetSql = opening ++ joined comma ((i.rows.filter (code · == result.dsIdx.idx)).map i.textOf)

/-- **The statements of an insert**, whatever its rows are. -/
theorem insert_results (husable : rule.Usable r.endpoints) (hparsed : i.Parsed) (hfinds : r.Finds rule i.table)
    {code : RowValue → ShardingIdx} (hcode : ∀ row ∈ i.rows, i.sentTo r.arith rule row = some (code row)) :
    ∃ results, r.changeInsertSqlInner i.rawSql rule i.table (i.rows.map RowValue.filed) (fieldsOf i.idents) =
        .ok results ∧ r.Written rule i code results := by
  have hvalid : ∀ row ∈ i.rows, rule.Valid (code row) := fun row hrow => Sharding.idxOf_valid (hcode row hrow)
  -- the opening and the data source of each shard
  have hopen : ∀ row ∈ i.rows, ∃ opening, r.opening rule i (code row) = .ok opening :=
    fun row hrow => opening_isOk husable hparsed hfinds (hvalid row hrow)
  have hsource : ∀ row ∈ i.rows, ∃ ds, r.genDataSource rule ((code row).database.getD 0) = .ok ds :=
    fun row hrow => genDataSource_isOk husable (hvalid row hrow)
  let openingOf : ShardingIdx → List Char := fun idx => (r.opening rule i idx).toOption.getD []
  have hopeningOf : ∀ row ∈ i.rows, r.opening rule i (code row) = .ok (openingOf (code row)) := by
    intro row hrow
    obtain ⟨opening, hopening⟩ := hopen row hrow
    simp only [openingOf, hopening]
    rfl
  have hchanges : changeInsert r.arith rule.getStrategyTyp (i.rows.map RowValue.filed) (fieldsOf i.idents)
      (baseInfo rule) = .ok (i.rows.map (changeOf code)) :=
    (changeInsert_rows hparsed).mpr ⟨code, hcode, rfl⟩
  obtain ⟨first, rest, hrows⟩ := List.exists_cons_of_ne_nil hparsed.hasRows
  have hfirst : first ∈ i.rows := by rw [hrows]; exact List.mem_cons_self
  have hfront : slice 0 first.span.start i.rawSql = some i.front := by
    have hspan := hparsed.spans first hfirst
    unfold slice
    rw [if_pos ⟨Nat.zero_le _, hspan.1.trans hspan.2⟩, List.drop_zero]
    simp [ValuesInsert.front, hrows]
  -- the loop over the rows pushes the text of each
  have hloop : ∀ (rows : List RowValue) (sqls : List (ShardingIdx × List Char)), (∀ row ∈ rows, row ∈ i.rows) →
      (rows.map (changeOf code)).foldlM (r.insertRow rule i.table i.rawSql i.front) sqls =
        .ok (rows.foldl (fun sqls row => pushRow sqls (code row) (openingOf (code row)) (i.textOf row ++ comma))
          sqls) := by
    intro rows
    induction rows with
    | nil => exact fun _ _ => rfl
    | cons row rows ih =>
      intro sqls hmem
      rw [List.forall_mem_cons] at hmem
      have hrow : r.insertRow rule i.table i.rawSql i.front sqls (changeOf code row) =
          .ok (pushRow sqls (code row) (openingOf (code row)) (i.textOf row ++ comma)) := by
        obtain ⟨target, htarget, hsql⟩ := bind_eq_ok.mp (hopeningOf row hmem.1)
        refine bind_eq_ok.mpr ⟨target, htarget, bind_eq_ok.mpr ⟨_, hsql, ?_⟩⟩
        exact bind_eq_ok.mpr ⟨i.textOf row, unwrap_eq_ok.mpr (slice_textOf hparsed hmem.1), rfl⟩
      rw [List.map_cons, List.foldlM_cons, hrow]
      exact ih _ hmem.2
  obtain ⟨ks, hnodup, hks, hfold⟩ := foldl_pushRow openingOf code (fun row => i.textOf row ++ comma) i.rows
  -- the last pass cuts the separator off and adds the data source
  let finish : ShardingIdx × List Char → Outcome InsertResult := fun entry => do
    let ds ← r.genDataSource rule (entry.1.database.getD 0)
    return ⟨⟨ds, entry.1, ⟨(baseInfo rule).column.1, (baseInfo rule).column.2⟩⟩, trimComma entry.2⟩
  have hfinish : ∀ entry result, finish entry = .ok result →
      result.dsIdx.idx = entry.1 ∧ result.targetSql = trimComma entry.2 := by
    intro entry result h
    obtain ⟨ds, -, h⟩ := bind_eq_ok.mp h
    rw [← pure_eq_ok.mp h]
    exact ⟨rfl, rfl⟩
  let textsOf : ShardingIdx → List Char := fun k =>
    openingOf k ++ (i.rows.filter (code · == k)).flatMap fun row => i.textOf row ++ comma
  obtain ⟨results, hresults⟩ : ∃ results, (ks.map fun k => (k, textsOf k)).mapM finish = .ok results := by
    refine exists_mapM_eq_ok.mpr fun entry hentry => ?_
    obtain ⟨k, hk, rfl⟩ := List.mem_map.mp hentry
    obtain ⟨row, hrow, rfl⟩ := (hks k).mp hk
    obtain ⟨ds, hds⟩ := hsource row hrow
    exact ⟨_, bind_eq_ok.mpr ⟨ds, hds, rfl⟩⟩
  have hkeys : results.map (·.dsIdx.idx) = ks := by
    have h := mapM_eq_ok.mp hresults
    rw [List.forall₂_map_left_iff] at h
    have heq : List.Forall₂ (· = ·) (results.map (·.dsIdx.idx)) ks := by
      rw [List.forall₂_map_left_iff]
      exact h.flip.imp fun result k hk => (hfinish _ _ hk).1
    exact List.forall₂_eq_eq_eq ▸ heq
  refine ⟨results, ?_, ?_, ?_, ?_⟩
  · refine bind_eq_ok.mpr ⟨_, hchanges, bind_eq_ok.mpr ⟨changeOf code first, ?_, bind_eq_ok.mpr ⟨i.front, ?_, ?_⟩⟩⟩
    · rw [hrows]
      rfl
    · exact unwrap_eq_ok.mpr hfront
    · exact bind_eq_ok.mpr ⟨_, (hloop i.rows [] fun _ h => h).trans (congrArg _ hfold), hresults⟩
  · rw [hkeys]
    exact hnodup
  · rw [hkeys]
    exact hks
  · intro result hresult
    obtain ⟨entry, hentry, h⟩ := (mem_of_mapM hresults).mp hresult
    obtain ⟨k, hk, rfl⟩ := List.mem_map.mp hentry
    obtain ⟨hidx, htext⟩ := hfinish _ _ h
    obtain ⟨row, hrow, hrowk⟩ := (hks k).mp hk
    rw [hidx, htext]
    refine ⟨openingOf k, hrowk ▸ hopeningOf row hrow, ?_⟩
    let words := (i.rows.filter (code · == k)).map i.textOf
    have hwords : words ≠ [] := by
      have hmem : row ∈ i.rows.filter (code · == k) := List.mem_filter.mpr ⟨hrow, by simp [hrowk]⟩
      exact List.ne_nil_of_mem (List.mem_map_of_mem hmem)
    have hcloses : ∀ word ∈ words, word.getLast? = some ')' := by
      intro word hword
      obtain ⟨row', hrow', rfl⟩ := List.mem_map.mp hword
      exact hparsed.closes row' (List.mem_of_mem_filter hrow')
    have hclosed : textsOf k = openingOf k ++ joined comma words ++ comma := by
      have hflat : (i.rows.filter (code · == k)).flatMap (fun row => i.textOf row ++ comma) = closed comma words := by
        rw [closed, List.flatMap_map]
      show openingOf k ++ _ = _
      rw [hflat, closed_eq comma hwords, List.append_assoc]
    rw [hclosed]
    refine trimComma_append (c := ')') ?_ (by decide)
    rw [List.getLast?_append, getLast?_joined hwords hcloses]
    rfl

theorem rewrite_insert (hplain : i.Plain) (hparsed : i.Parsed) (hfinds : r.Finds rule i.table)
    (results : List InsertResult) : r.rewrite i.rawSql i.stmt = .ok (.inserts results) ↔ fieldsOf i.idents ≠ [] ∧
      r.changeInsertSqlInner i.rawSql rule i.table (i.rows.map RowValue.filed) (fieldsOf i.idents) = .ok results := by
  obtain ⟨htables, hinserts, hfields⟩ := getMeta_insert i.table i.idents hplain.rows
    hplain.insUpdates hplain.updates
  rw [IndexMap.foldl_push_new 0 RowValue.filed hparsed.hasRows] at hinserts
  have htt : r.findTableRule (getMeta i.stmt).tables = .ok [⟨0, rule, i.table⟩] := by
    obtain ⟨rest, hrest⟩ := hfinds
    show r.findTableRule (getMeta (valuesInsert i.table i.idents i.rows i.insUpdates i.updates)).tables = _
    rw [htables]
    exact bind_eq_ok.mpr ⟨_, hrest, rfl⟩
  have hm : (getMeta i.stmt).inserts = [(0, i.rows.map RowValue.filed)] := hinserts
  have hf : (getMeta i.stmt).fields =
      (fieldsOf i.idents).foldl (fun fields field => IndexMap.push fields 0 field) [] := hfields
  show (r.findTableRule (getMeta i.stmt).tables >>= fun tryTables => _) = _ ↔ _
  rw [htt, ok_bind]
  simp only [hm, hf, List.isEmpty_cons, Bool.false_eq_true, if_false]
  by_cases hnone : fieldsOf i.idents = []
  · rw [hnone]
    constructor
    · intro h
      cases h
    · rintro ⟨h, -⟩
      exact absurd rfl h
  · rw [show (fieldsOf i.idents).foldl (fun fields field => IndexMap.push fields 0 field) [] = [(0, fieldsOf i.idents)]
      by simpa using IndexMap.foldl_push_new 0 id hnone]
    simp only [List.isEmpty_cons, Bool.false_eq_true, if_false]
    -- the one table of the statement gives the one list of results
    have hone : r.changeInsertSql i.rawSql [⟨0, rule, i.table⟩] [(0, fieldsOf i.idents)]
        [(0, i.rows.map RowValue.filed)] =
        (r.changeInsertSqlInner i.rawSql rule i.table (i.rows.map RowValue.filed) (fieldsOf i.idents) >>=
          fun results => pure [results].flatten) := by
      show ([(⟨0, rule, i.table⟩ : TryTable)].mapM _ >>= fun results => pure results.flatten) = _
      rw [List.mapM_cons, List.mapM_nil, bind_assoc]
      rfl
    rw [hone, bind_assoc, bind_eq_ok]
    constructor
    · rintro ⟨results', h, heq⟩
      have hflat : [results'].flatten = results := Output.inserts.inj (pure_eq_ok.mp heq)
      rw [List.flatten_singleton] at hflat
      exact ⟨hnone, hflat ▸ h⟩
    · rintro ⟨-, h⟩
      exact ⟨results, h, pure_eq_ok.mpr (by rw [List.flatten_singleton])⟩

theorem fields_of_sentTo {row : RowValue} {idx : ShardingIdx} (h : i.sentTo r.arith rule row = some idx) :
    fieldsOf i.idents ≠ [] := by
  intro hnone
  have hnumber : recordedNumber (fieldsOf i.idents) (recorded row.values) = fun _ => none := by
    rw [hnone]
    rfl
  unfold ValuesInsert.sentTo at h
  rw [hnumber] at h
  obtain ⟨tableName, nodes, strategy⟩ := rule
  cases strategy <;> cases h

theorem sentTo_of_results (hparsed : i.Parsed) {results : List InsertResult}
    (h : r.changeInsertSqlInner i.rawSql rule i.table (i.rows.map RowValue.filed) (fieldsOf i.idents) = .ok results) :
    ∃ code : RowValue → ShardingIdx, ∀ row ∈ i.rows, i.sentTo r.arith rule row = some (code row) := by
  obtain ⟨changes, hchanges, -⟩ := bind_eq_ok.mp h
  obtain ⟨code, hcode, -⟩ := (changeInsert_rows hparsed).mp hchanges
  exact ⟨code, hcode⟩

/-- Rows are kept if nothing stands behind them and the recorded number of every row belongs to the shard of its
    expression. -/
theorem keepsRows_of_fit (husable : rule.Usable r.endpoints) (hparsed : i.Parsed) (hfinds : r.Finds rule i.table)
    (hfit : r.RowsFit rule eval i) : r.KeepsRows rule eval i := by
  obtain ⟨hquery, hclause, hsame⟩ := hfit
  obtain ⟨hins, hupdates⟩ := hparsed.noClause hclause
  have hplain : i.Plain := ⟨hquery, by rw [hins]; rfl, by rw [hupdates]; rfl⟩
  have hcode : ∀ row ∈ i.rows, i.sentTo r.arith rule row =
      some ((i.shardOf r.arith rule eval row).getD ⟨none, none⟩) := by
    intro row hrow
    obtain ⟨idx, hsent, hshard⟩ := hsame row hrow
    rw [hsent, hshard]
    rfl
  obtain ⟨results, hinner, hnodup, hshards, hwritten⟩ := insert_results husable hparsed hfinds hcode
  obtain ⟨first, hfirst⟩ := List.exists_mem_of_ne_nil i.rows hparsed.hasRows
  obtain ⟨idx, hsent, -⟩ := hsame first hfirst
  -- an index is the one of a row iff the row belongs there
  have hiff : ∀ row ∈ i.rows, ∀ k, (i.shardOf r.arith rule eval row).getD ⟨none, none⟩ = k ↔
      i.shardOf r.arith rule eval row = some k := by
    intro row hrow k
    obtain ⟨idx, -, hshard⟩ := hsame row hrow
    simp [hshard]
  refine ⟨results, (rewrite_insert hplain hparsed hfinds results).mpr ⟨fields_of_sentTo hsent, hinner⟩, hnodup, ?_, ?_⟩
  · intro row hrow
    obtain ⟨result, hresult, hidx⟩ := List.mem_map.mp ((hshards _).mpr ⟨row, hrow, rfl⟩)
    exact ⟨result, hresult, (hiff row hrow _).mp hidx.symm⟩
  · intro result hresult
    obtain ⟨opening, hopening, htext⟩ := hwritten result hresult
    obtain ⟨row, hrow, hrowIdx⟩ := (hshards _).mp (List.mem_map_of_mem hresult)
    refine ⟨opening, hopening, ⟨row, hrow, (hiff row hrow _).mp hrowIdx⟩, ?_⟩
    have hfilter : (i.rows.filter fun row => (i.shardOf r.arith rule eval row).getD ⟨none, none⟩ == result.dsIdx.idx) =
        i.rows.filter fun row => i.shardOf r.arith rule eval row == some result.dsIdx.idx := by
      refine List.filter_congr fun row hrow => ?_
      rw [Bool.eq_iff_iff, beq_iff_eq, beq_iff_eq]
      exact hiff row hrow _
    rw [htext, hclause, List.append_nil, hfilter]

theorem fit_of_keepsRows (husable : rule.Usable r.endpoints) (hparsed : i.Parsed) (hfinds : r.Finds rule i.table)
    (hplain : i.Plain) : r.KeepsRows rule eval i → r.RowsFit rule eval i := by
  rintro ⟨results, hresults, hnodup, hevery, htexts⟩
  obtain ⟨-, hinner⟩ := (rewrite_insert hplain hparsed hfinds results).mp hresults
  obtain ⟨code, hcode⟩ := sentTo_of_results hparsed hinner
  obtain ⟨results', hinner', hnodup', hshards, hwritten⟩ := insert_results husable hparsed hfinds hcode
  rw [hinner] at hinner'
  cases hinner'
  -- what was written and what was meant are the same words
  have hsame : ∀ result ∈ results, (i.rows.filter (code · == result.dsIdx.idx)).map i.textOf =
      (i.rows.filter fun row => i.shardOf r.arith rule eval row == some result.dsIdx.idx).map i.textOf ∧
      i.clause = [] := by
    intro result hresult
    obtain ⟨opening, hopening, htext⟩ := hwritten result hresult
    obtain ⟨opening', hopening', ⟨row, hrow, hshard⟩, htext'⟩ := htexts result hresult
    rw [hopening] at hopening'
    cases hopening'
    rw [htext, List.append_assoc] at htext'
    obtain ⟨row', hrow', hcode'⟩ := (hshards result.dsIdx.idx).mp (List.mem_map_of_mem hresult)
    have hword : ∀ p : RowValue → Bool, ∀ word ∈ (i.rows.filter p).map i.textOf,
        ∃ row ∈ i.rows, i.textOf row = word := by
      intro p word hword
      obtain ⟨row, hrow, rfl⟩ := List.mem_map.mp hword
      exact ⟨row, List.mem_of_mem_filter hrow, rfl⟩
    refine joined_inj (fun word => ∃ row ∈ i.rows, i.textOf row = word) ?_ hparsed.clauseHead (hword _)
      (hword _) ?_ ?_ (List.append_cancel_left htext')
    · rintro _ _ ⟨a, ha, rfl⟩ ⟨b, hb, rfl⟩ hprefix
      exact (hparsed.free a ha b hb hprefix).1
    · exact List.ne_nil_of_mem (List.mem_map_of_mem (List.mem_filter.mpr ⟨hrow', by simpa using hcode'⟩))
    · exact List.ne_nil_of_mem (List.mem_map_of_mem (List.mem_filter.mpr ⟨hrow, by simpa using hshard⟩))
  obtain ⟨first, hfirst⟩ := List.exists_mem_of_ne_nil i.rows hparsed.hasRows
  refine ⟨hplain.rows, ?_, fun row hrow => ⟨code row, hcode row hrow, ?_⟩⟩
  · obtain ⟨result, hresult, -⟩ := hevery first hfirst
    exact (hsame result hresult).2
  · -- the row is among those written, so one with its text is meant for the shard
    obtain ⟨result, hresult, hidx⟩ := List.mem_map.mp ((hshards (code row)).mpr ⟨row, hrow, rfl⟩)
    have hmem : i.textOf row ∈ (i.rows.filter (code · == result.dsIdx.idx)).map i.textOf :=
      List.mem_map_of_mem (List.mem_filter.mpr ⟨hrow, by simp [← hidx]⟩)
    rw [(hsame result hresult).1] at hmem
    obtain ⟨row', hrow', htext⟩ := List.mem_map.mp hmem
    obtain ⟨hrow', hshard⟩ := List.mem_filter.mp hrow'
    have hvalues := (hparsed.free row' hrow' row hrow (htext ▸ List.prefix_rfl)).2
    have hshard' : i.shardOf r.arith rule eval row' = some (code row) := by
      rw [← hidx]
      simpa using hshard
    unfold ValuesInsert.shardOf ValuesInsert.numberAt at hshard' ⊢
    rw [← hvalues]
    exact hshard'

end Rewriter

/-! ## Inserts into the table of the source's tests -/

def evalNumber : Expr → Option Nat
  | .literal (.num text) => parseU64 text
  | _ => none

def twoRows : ValuesInsert :=
  { rawSql := "INSERT INTO db.tshard (idx) VALUES (1), (6)".toList, stop := 43,
    table := ⟨⟨12, 21⟩, some "db", "tshard"⟩, idents := [.ident (.ident "idx" false)],
    rows := [⟨⟨35, 38⟩, [.literal (.num "1")]⟩, ⟨⟨40, 43⟩, [.literal (.num "6")]⟩], insUpdates := [], updates := [] }

def rowOrUpdate : ValuesInsert :=
  { rawSql := "INSERT INTO db.tshard (idx) VALUES (1) ON DUPLICATE KEY UPDATE idx = 2".toList, stop := 70,
    table := ⟨⟨12, 21⟩, some "db", "tshard"⟩, idents := [.ident (.ident "idx" false)],
    rows := [⟨⟨35, 38⟩, [.literal (.num "1")]⟩], insUpdates := [.literal (.num "2")], updates := [] }

theorem twoRows_parsed : twoRows.Parsed := by
  refine ⟨List.cons_ne_nil _ _, by decide, by decide, by decide, ?_, by decide,
    fun _ => ⟨rfl, rfl⟩⟩
  intro row hrow row' hrow' hprefix
  rcases List.mem_pair.mp hrow with rfl | rfl <;> rcases List.mem_pair.mp hrow' with rfl | rfl
  · exact ⟨rfl, rfl⟩
  · exact absurd hprefix (by decide)
  · exact absurd hprefix (by decide)
  · exact ⟨rfl, rfl⟩

theorem rowOrUpdate_parsed : rowOrUpdate.Parsed := by
  refine ⟨List.cons_ne_nil _ _, by decide, by decide, by decide, ?_, by decide, ?_⟩
  · intro row hrow row' hrow' _
    obtain rfl := List.mem_singleton.mp hrow
    obtain rfl := List.mem_singleton.mp hrow'
    exact ⟨rfl, rfl⟩
  · intro h
    exact absurd h (by decide)

theorem finds_testRule (span : Span) : testRewriter.Finds testRule ⟨span, some "db", "tshard"⟩ := by
  have hrule : testRewriter.ruleOf ⟨span, some "db", "tshard"⟩ = some testRule := by
    show testRewriter.rules.find? (fun rule => rule.tableName == unquote "tshard") = some testRule
    decide
  refine ⟨testRewriter.endpoints, ?_⟩
  unfold Rewriter.tryTable
  rw [hrule]
  rfl

end DataNexus.ShardingRewrite
