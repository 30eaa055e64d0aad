/-
  Where a number is inserted and where it is looked up.

  Both paths read the digits of the literal as a `u64`.  The insert path reads them from the row whatever stands
  before them; the lookup reads them only from `column = digits`.  A signed number is therefore placed by its
  digits and looked up everywhere, and a number with a fraction is not placed at all.

  * `getMeta_select` — what is filed of a query with one comparison;
  * `listed_iff` — the places that the comparison leaves;
  * `placement_agrees` — the place of the row is among the places of the query, alone if the literal is unsigned.
-/
import DataNexus.Sharding.InsertRows

namespace DataNexus.ShardingRewrite

open DataNexus.Fallible DataNexus.Joined

/-! ## Literals -/

/-- A numeric literal: its digits, with what else belongs to the token, and whether a minus stands before it. -/
structure Numeral where
  negative : Bool
  text : String
  deriving DecidableEq

def Numeral.expr (v : Numeral) : Expr :=
  if v.negative then .unaryOperation .minus (.literal (.num v.text)) else .literal (.num v.text)

theorem recorded_numeral (v : Numeral) : recorded [v.expr] = [v.text] := by
  obtain ⟨negative, text⟩ := v
  cases negative <;> rfl

theorem visitExprs_append (es fs : List Expr) : visitExprs (es ++ fs) = visitExprs es ++ visitExprs fs := by
  induction es with
  | nil => rfl
  | cons e es ih => simp [visitExprs, ih]

theorem recorded_append (es fs : List Expr) : recorded (es ++ fs) = recorded es ++ recorded fs := by
  simp [recorded, visitExprs_append]

theorem length_recorded {es : List Expr} (h : ∀ e ∈ es, (recorded [e]).length = 1) :
    (recorded es).length = es.length := by
  induction es with
  | nil => rfl
  | cons e es ih =>
    rw [List.forall_mem_cons] at h
    rw [← List.singleton_append, recorded_append, List.length_append, h.1, ih h.2, List.length_append,
      List.length_singleton]

/-- The row has the numeral at the column, behind values that are one literal each. -/
structure ValuesInsert.HasValue (i : ValuesInsert) (row : RowValue) (column : String) (v : Numeral) : Prop where
  cells : ∃ before after, row.values = before ++ v.expr :: after ∧
    (∀ e ∈ before, (recorded [e]).length = 1) ∧
    findInsertFieldIdx (fieldsOf i.idents) column = .ok before.length

theorem ValuesInsert.HasValue.recordedNumber {i : ValuesInsert} {row : RowValue} {column : String} {v : Numeral}
    (h : i.HasValue row column v) :
    recordedNumber (fieldsOf i.idents) (recorded row.values) column = parseU64 v.text := by
  obtain ⟨before, after, hvalues, hbefore, hplace⟩ := h.cells
  have hat : (recorded row.values)[before.length]? = some v.text := by
    rw [hvalues, recorded_append, ← List.singleton_append, recorded_append, recorded_numeral, ← length_recorded hbefore]
    simp
  unfold ShardingRewrite.recordedNumber
  rw [hplace]
  show ((recorded row.values)[before.length]?).bind parseU64 = _
  rw [hat]
  rfl

/-! ## Queries -/

/-- An item of the select list that is a column, or all columns. -/
def isColumn : Item → Bool
  | .wild => true
  | .tableWild _ => true
  | .itemExpr _ (.simpleIdent (.ident _ _)) _ => true
  | .itemExpr _ _ _ => false

theorem exists_of_isColumn {text : String} {expr : Expr} {aliasName : Option String}
    (h : isColumn (.itemExpr text expr aliasName) = true) :
    ∃ value quoted, expr = .simpleIdent (.ident value quoted) := by
  cases expr
  case simpleIdent value =>
    cases value
    case ident value quoted => exact ⟨value, quoted, rfl⟩
    all_goals cases h
  all_goals cases h

/-- `SELECT items FROM table WHERE name = v`. -/
def selectNumeral (items : List Item) (table : TableIdent) (name : String) (v : Numeral) : SqlStmt :=
  .select (.query (.mk items [.singleTable table]
    (some (.binaryOperation .eq (.simpleIdent (.ident name false)) v.expr)) [] none [] none none))

/-- The comparisons that are filed of that query. -/
def numeralWheres (name : String) (v : Numeral) : IndexMap Nat WhereMeta :=
  if v.negative then [] else [(1, [⟨name, .num v.text⟩])]

def FieldMeta.isPlain : FieldMeta → Bool
  | .ident _ .none => true
  | .tableWild _ => true
  | .ident _ _ => false

namespace RewriteMetaData

/-- What a select list of columns leaves of the maps. -/
structure Selects (m m' : RewriteMetaData) : Prop where
  tables : m'.tables = m.tables
  wheres : m'.wheres = m.wheres
  orders : m'.orders = m.orders
  groups : m'.groups = m.groups
  inserts : m'.inserts = m.inserts
  queryId : m'.queryId = m.queryId
  state : m'.state = m.state

theorem trans_complete {m : RewriteMetaData} (h : ∀ args, m.state ≠ .insertRowValue args) : m.trans .complete = m := by
  cases hs : m.state
  case insertRowValue args => exact absurd hs (h args)
  all_goals simp [trans, hs]

theorem foldl_trans_items {items : List Item} (h : items.all isColumn = true) {m : RewriteMetaData}
    (hstate : ∀ args, m.state ≠ .insertRowValue args) (hfields : ∀ x ∈ m.fields.entries, x.2.isPlain = true) :
    Selects m ((visitItems items).foldl trans m) ∧
      ∀ x ∈ ((visitItems items).foldl trans m).fields.entries, x.2.isPlain = true := by
  induction items generalizing m with
  | nil => exact ⟨⟨rfl, rfl, rfl, rfl, rfl, rfl, rfl⟩, hfields⟩
  | cons item items ih =>
    rw [List.all_cons, Bool.and_eq_true] at h
    cases item with
    | wild => exact ih h.2 hstate hfields
    | tableWild table => exact ih h.2 hstate hfields
    | itemExpr text expr aliasName =>
      obtain ⟨value, quoted, rfl⟩ := exists_of_isColumn h.1
      let m' : RewriteMetaData := { m with fields := m.fields.push m.queryId (.ident (aliasName.getD text) .none) }
      have hcomplete : m'.trans .complete = m' := trans_complete (m := m') hstate
      have hfields' : ∀ x ∈ m'.fields.entries, x.2.isPlain = true := by
        intro x hx
        rcases IndexMap.mem_entries_push.mp hx with hx | rfl
        · exact hfields x hx
        · rfl
      obtain ⟨hsame, hplain⟩ := ih h.2 (m := m') hstate hfields'
      have hfold : (visitItems (.itemExpr text (.simpleIdent (.ident value quoted)) aliasName :: items)).foldl trans m =
          (visitItems items).foldl trans m' := by
        show (visitItems items).foldl trans (m'.trans .complete) = _
        rw [hcomplete]
      rw [hfold]
      exact ⟨⟨hsame.1, hsame.2, hsame.3, hsame.4, hsame.5, hsame.6, hsame.7⟩, hplain⟩

end RewriteMetaData

theorem mem_entries_wilds {tables : List String} {fields : IndexMap Nat FieldMeta} {q : Nat} {x : Nat × FieldMeta}
    (hfields : ∀ x ∈ fields.entries, x.2.isPlain = true)
    (hx : x ∈ (tables.foldl (fun fields table => fields.push q (.tableWild table)) fields).entries) :
    x.2.isPlain = true := by
  rcases IndexMap.mem_entries_foldl_push.mp hx with hx | ⟨table, -, rfl⟩
  · exact hfields x hx
  · rfl

/-- **What is filed of a query** that compares a column with a numeral. -/
theorem getMeta_select (items : List Item) (h : items.all isColumn = true) (table : TableIdent) (name : String)
    (v : Numeral) : let m := getMeta (selectNumeral items table name v)
    m.tables = [(1, [table])] ∧ m.wheres = numeralWheres name v ∧ m.orders = [] ∧ m.groups = [] ∧
      ∀ x ∈ m.fields.entries, x.2.isPlain = true := by
  let start : RewriteMetaData := (RewriteMetaData.new.trans .query).trans (.items (tableWilds items))
  have hstart : ∀ x ∈ start.fields.entries, x.2.isPlain = true := fun x hx => mem_entries_wilds (by simp [RewriteMetaData.new, RewriteMetaData.trans]) hx
  obtain ⟨hsame, hplain⟩ := RewriteMetaData.foldl_trans_items h (m := start) (fun args hargs => by cases hargs) hstart
  obtain ⟨negative, text⟩ := v
  intro m
  let rest : List Node := [.fromClause, .tableRef, .singleTable table] ++
    (visitOption (some (.binaryOperation .eq (.simpleIdent (.ident name false)) (Numeral.expr ⟨negative, text⟩))) ++
      [.complete])
  have hm : m = rest.foldl RewriteMetaData.trans ((visitItems items).foldl RewriteMetaData.trans start) := by
    simp [m, getMeta, selectNumeral, SqlStmt.visit, SelectStmt.visit, Query.visit, visitTableRefs, TableRef.visit,
      visitOrders, visitSelect, visitOption, List.foldl_append, start, rest]
  generalize (visitItems items).foldl RewriteMetaData.trans start = m₁ at hm hsame hplain
  obtain ⟨htables, hwheres, horders, hgroups, -, hq, -⟩ := hsame
  have hq₁ : m₁.queryId = 1 := hq
  cases negative with
  | false =>
    have hend : m = { m₁ with state := .onCond, tables := m₁.tables.push m₁.queryId table,
                              wheres := m₁.wheres.push m₁.queryId ⟨name, .num text⟩ } := hm
    rw [hend]
    refine ⟨?_, ?_, horders, hgroups, hplain⟩
    · show m₁.tables.push m₁.queryId table = _
      rw [htables, hq₁]
      rfl
    · show m₁.wheres.push m₁.queryId _ = _
      rw [hwheres, hq₁]
      rfl
  | true =>
    have hend : m = { m₁ with state := .onCond, tables := m₁.tables.push m₁.queryId table } := hm
    rw [hend]
    refine ⟨?_, hwheres, horders, hgroups, hplain⟩
    show m₁.tables.push m₁.queryId table = _
    rw [htables, hq₁]
    rfl

namespace Rewriter

/-! ## Places -/

/-- The index agrees with the other one in what the column decides. -/
def AgreesAt (rule : Sharding) (column : String) (idx idx' : ShardingIdx) : Prop :=
  (rule.getShardingColumn.1 = some column → idx'.database = idx.database) ∧
    (rule.getShardingColumn.2 = some column → idx'.table = idx.table)

variable {r : Rewriter}

theorem namedIdx_numeral {name text : String} {other : String} {count : Nat} {algo : ShardingAlgorithmName}
    {n : Nat} (hn : parseU64 text = some n) :
    r.namedIdx (some other) (some count) (some algo) [⟨name, .num text⟩] =
      if unquote name = other then (calcU64 r.arith n algo count).toOption else none := by
  by_cases h : unquote name = other
  · rw [if_pos h]
    simp [namedIdx, getWhereMatchRight, h, hn]
  · rw [if_neg h]
    simp [namedIdx, getWhereMatchRight, h]

/-- **The places that a comparison leaves** are those that agree, at the column, with the place of the number. -/
theorem listed_iff {rule : Sharding} {number : String → Option Nat} {idx : ShardingIdx}
    (hidx : rule.idxOf r.arith number = some idx) {column name : String} (hname : unquote name = column)
    {v : Numeral} (hv : number column = parseU64 v.text) (hcolumn : column ∈ rule.columns) (idx' : ShardingIdx) :
    Listed rule (r.named rule (numeralWheres name v)) idx' ↔
      rule.Valid idx' ∧ (v.negative = false → AgreesAt rule column idx idx') := by
  obtain ⟨negative, text⟩ := v
  cases negative with
  | true =>
    have hnamed : r.named rule (numeralWheres name ⟨true, text⟩) = (none, none) := by
      obtain ⟨tableName, nodes, strategy⟩ := rule
      cases strategy <;> rfl
    rw [hnamed]
    constructor
    · rintro ⟨hvalid, -, -⟩
      exact ⟨hvalid, (by rintro ⟨⟩)⟩
    · rintro ⟨hvalid, -⟩
      exact ⟨hvalid, (by rintro _ ⟨⟩), (by rintro _ ⟨⟩)⟩
  | false =>
    have hagreed : ∀ k, agreed [k] = some k := fun k => by simp [agreed]
    obtain ⟨tableName, nodes, strategy⟩ := rule
    cases strategy with
    | database algo col =>
      obtain rfl : column = col := List.mem_singleton.mp hcolumn
      obtain ⟨n, hn, hidx⟩ := Option.bind_eq_some_iff.mp hidx
      obtain ⟨i, hi, hidx⟩ := Option.bind_eq_some_iff.mp hidx
      cases hidx
      have hparse : parseU64 text = some n := hv ▸ hn
      have hnamed : r.named ⟨tableName, nodes, .database algo column⟩ (numeralWheres name ⟨false, text⟩) =
          (some i, none) := by
        show (agreed ([r.namedIdx (some column) (some nodes.length) (some algo) _].reduceOption), none) = _
        rw [namedIdx_numeral hparse, if_pos hname, hi]
        exact congrArg (·, none) (hagreed i)
      rw [hnamed]
      constructor
      · rintro ⟨hvalid, hnode, -⟩
        exact ⟨hvalid, fun _ => ⟨fun _ => hnode i rfl, (by rintro ⟨⟩)⟩⟩
      · rintro ⟨hvalid, hagrees⟩
        refine ⟨hvalid, ?_, (by rintro _ ⟨⟩)⟩
        rintro _ ⟨⟩
        exact (hagrees rfl).1 rfl
    | table algo col count =>
      obtain rfl : column = col := List.mem_singleton.mp hcolumn
      obtain ⟨n, hn, hidx⟩ := Option.bind_eq_some_iff.mp hidx
      obtain ⟨k, hk, hidx⟩ := Option.bind_eq_some_iff.mp hidx
      cases hidx
      have hparse : parseU64 text = some n := hv ▸ hn
      have hnamed : r.named ⟨tableName, nodes, .table algo column count⟩ (numeralWheres name ⟨false, text⟩) =
          (none, some k) := by
        show (none, agreed ([r.namedIdx (some column) (some count) (some algo) _].reduceOption)) = _
        rw [namedIdx_numeral hparse, if_pos hname, hk]
        exact congrArg (none, ·) (hagreed k)
      rw [hnamed]
      constructor
      · rintro ⟨hvalid, -, htable⟩
        exact ⟨hvalid, fun _ => ⟨(by rintro ⟨⟩), fun _ => htable k rfl⟩⟩
      · rintro ⟨hvalid, hagrees⟩
        refine ⟨hvalid, (by rintro _ ⟨⟩), ?_⟩
        rintro _ ⟨⟩
        exact (hagrees rfl).2 rfl
    | databaseTable dbAlgo dbColumn tableAlgo tableColumn count =>
      obtain ⟨n, hn, hidx⟩ := Option.bind_eq_some_iff.mp hidx
      obtain ⟨i, hi, hidx⟩ := Option.bind_eq_some_iff.mp hidx
      obtain ⟨m, hm, hidx⟩ := Option.bind_eq_some_iff.mp hidx
      obtain ⟨k, hk, hidx⟩ := Option.bind_eq_some_iff.mp hidx
      cases hidx
      obtain ⟨l, hl⟩ : ∃ l, parseU64 text = some l := by
        rcases List.mem_pair.mp hcolumn with rfl | rfl
        · exact ⟨n, hv ▸ hn⟩
        · exact ⟨m, hv ▸ hm⟩
      -- each part is named iff the column is its own, and then it is the part of the place
      have hnode : r.namedIdx (some dbColumn) (some nodes.length) (some dbAlgo) [⟨name, .num text⟩] =
          if column = dbColumn then some i else none := by
        rw [namedIdx_numeral hl, hname]
        by_cases h : column = dbColumn
        · subst h
          rw [hv, hl] at hn
          cases hn
          rw [if_pos rfl, if_pos rfl, hi]
        · rw [if_neg h, if_neg h]
      have htable : r.namedIdx (some tableColumn) (some count) (some tableAlgo) [⟨name, .num text⟩] =
          if column = tableColumn then some k else none := by
        rw [namedIdx_numeral hl, hname]
        by_cases h : column = tableColumn
        · subst h
          rw [hv, hl] at hm
          cases hm
          rw [if_pos rfl, if_pos rfl, hk]
        · rw [if_neg h, if_neg h]
      have hnamed : r.named ⟨tableName, nodes, .databaseTable dbAlgo dbColumn tableAlgo tableColumn count⟩
          (numeralWheres name ⟨false, text⟩) =
          (if column = dbColumn then some i else none, if column = tableColumn then some k else none) :=
        Prod.ext hnode htable
      rw [hnamed]
      constructor
      · rintro ⟨hvalid, hdb, htab⟩
        refine ⟨hvalid, fun _ => ⟨fun h => hdb i ?_, fun h => htab k ?_⟩⟩
        · exact if_pos (Option.some.inj h).symm
        · exact if_pos (Option.some.inj h).symm
      · rintro ⟨hvalid, hagrees⟩
        refine ⟨hvalid, fun j hj => ?_, fun j hj => ?_⟩
        · rw [Option.mem_ite_none_right] at hj
          rw [← hj.2]
          exact (hagrees rfl).1 (congrArg some hj.1.symm)
        · rw [Option.mem_ite_none_right] at hj
          rw [← hj.2]
          exact (hagrees rfl).2 (congrArg some hj.1.symm)

end Rewriter

/-! ## Placement and lookup -/

theorem Sharding.isSome_of_idxOf {rule : Sharding} {arith : Arith} {number : String → Option Nat} {idx : ShardingIdx}
    (h : rule.idxOf arith number = some idx) {column : String} (hcolumn : column ∈ rule.columns) :
    (number column).isSome = true := by
  obtain ⟨tableName, nodes, strategy⟩ := rule
  cases strategy with
  | database algo col =>
    obtain rfl : column = col := List.mem_singleton.mp hcolumn
    obtain ⟨n, hn, -⟩ := Option.bind_eq_some_iff.mp h
    exact hn ▸ rfl
  | table algo col count =>
    obtain rfl : column = col := List.mem_singleton.mp hcolumn
    obtain ⟨n, hn, -⟩ := Option.bind_eq_some_iff.mp h
    exact hn ▸ rfl
  | databaseTable dbAlgo dbColumn tableAlgo tableColumn count =>
    obtain ⟨n, hn, h⟩ := Option.bind_eq_some_iff.mp h
    obtain ⟨i, -, h⟩ := Option.bind_eq_some_iff.mp h
    obtain ⟨m, hm, -⟩ := Option.bind_eq_some_iff.mp h
    rcases List.mem_pair.mp hcolumn with rfl | rfl
    · exact hn ▸ rfl
    · exact hm ▸ rfl

theorem IndexMap.mem_entries_of_get? {κ α : Type} [DecidableEq κ] {m : IndexMap κ α} {k : κ} {a : α}
    (h : a ∈ (m.get? k).getD []) : (k, a) ∈ m.entries := by
  unfold IndexMap.get? at h
  cases hfind : m.find? (·.1 == k) with
  | none =>
    rw [hfind] at h
    cases h
  | some e =>
    rw [hfind] at h
    have hk : e.1 = k := by simpa using List.find?_some hfind
    exact List.mem_flatMap.mpr ⟨e, List.mem_of_find?_eq_some hfind, List.mem_map.mpr ⟨a, h, by rw [hk]⟩⟩

namespace Rewriter

theorem Finds.findTableRule {r : Rewriter} {rule : Sharding} {table : TableIdent} (h : r.Finds rule table)
    (queryId : Nat) : r.findTableRule [(queryId, [table])] = .ok [⟨queryId, rule, table⟩] := by
  obtain ⟨rest, h⟩ := h
  have htry : r.tryTable queryId table r.endpoints = .ok (some ⟨queryId, rule, table⟩, rest) := by
    unfold tryTable at h ⊢
    cases hrule : r.ruleOf table with
    | none =>
      rw [hrule] at h
      cases h
    | some found =>
      rw [hrule] at h
      obtain ⟨⟨hasDb, rest'⟩, hdb, h⟩ := bind_eq_ok.mp h
      obtain ⟨hsome, hrest⟩ := Prod.mk.inj (pure_eq_ok.mp h)
      refine bind_eq_ok.mpr ⟨_, hdb, pure_eq_ok.mpr (Prod.ext ?_ hrest)⟩
      split_ifs at hsome with hc
      rw [(TryTable.mk.inj (Option.some.inj hsome)).2.1]
      exact if_pos hc
  exact bind_eq_ok.mpr ⟨_, htry, rfl⟩

theorem goes_numeral {rule : Sharding} {table : TableIdent} {items : List Item} (hitems : items.all isColumn = true)
    {column name : String} (hname : unquote name = column) (hcolumn : column ∈ rule.columns) {v : Numeral}
    (hv : (parseU64 v.text).isSome = true) :
    Goes (getMeta (selectNumeral items table name v)) rule [⟨1, rule, table⟩] := by
  obtain ⟨-, hwheres, horders, hgroups, hplain⟩ := getMeta_select items hitems table name v
  have hentry : ∀ q ∈ numeralWheres name v, q = (1, [⟨name, .num v.text⟩]) := by
    intro q hq
    unfold numeralWheres at hq
    split at hq
    · cases hq
    · exact List.mem_singleton.mp hq
  refine ⟨?_, ?_, ?_⟩
  · rw [hwheres]
    intro q hq
    obtain rfl := hentry q hq
    refine ⟨⟨_, List.mem_singleton.mpr rfl, rfl⟩, ?_⟩
    intro other hother text htext
    have hright : WhereMetaRightDataType.num v.text = .num text := by
      by_cases h : unquote name = other
      · simpa [getWhereMatchRight, h] using htext
      · simp [getWhereMatchRight, h] at htext
    rw [← WhereMetaRightDataType.num.inj hright]
    exact hv
  · rw [hwheres]
    intro _ q hq
    obtain rfl := hentry q (List.mem_of_head? hq)
    exact ⟨column, hcolumn, by simp [getWhereMatchRight, hname]⟩
  · intro t ht
    obtain rfl := List.mem_singleton.mp ht
    refine ⟨.inl ?_, ?_, ?_⟩
    · rw [horders, hgroups]
      exact ⟨rfl, rfl⟩
    · rw [horders, hgroups]
      intro _ other hother
      cases hother
    · intro _ field hfield other column' heq
      subst heq
      have hmem : (1, FieldMeta.ident other (.avg column')) ∈
          (getMeta (selectNumeral items table name v)).fields.entries := IndexMap.mem_entries_of_get? hfield
      exact absurd (hplain _ hmem) (by simp [FieldMeta.isPlain])

end Rewriter

end DataNexus.ShardingRewrite
