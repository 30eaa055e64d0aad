/-
  What the rewriter remembers of a statement (`RewriteMetaData` in `sharding_rewrite/meta.rs`).

  `trans` is called on every node of the walk and files what it finds under the number of the query it believes
  to be in.  The number goes up at a `SELECT`, `UPDATE` or `DELETE` and down behind a subquery; queries side by
  side therefore share a number, and the arms of a `UNION` inside a subquery leave it one too high.

  An equality is filed wherever it stands in the tree: the node does not show what is above it.  Literals are
  filed as values of a row while the state is `InsertRowValue`, and a query inside the row ends that state.
-/
import DataNexus.Sharding.Sql

namespace DataNexus.ShardingRewrite

/-! ## Maps in order of insertion -/

/-- `IndexMap<K, Vec<V>>`. -/
abbrev IndexMap (κ α : Type) := List (κ × List α)

namespace IndexMap

variable {κ α : Type} [DecidableEq κ]

/-- `entry(k).or_insert(vec![]).push(a)`. -/
def push : IndexMap κ α → κ → α → IndexMap κ α
  | [], k, a => [(k, [a])]
  | (k', as) :: m, k, a => if k' = k then (k', as ++ [a]) :: m else (k', as) :: push m k a

/-- `get`. -/
def get? (m : IndexMap κ α) (k : κ) : Option (List α) := (m.find? (·.1 == k)).map (·.2)

def entries (m : IndexMap κ α) : List (κ × α) := m.flatMap fun e => e.2.map (Prod.mk e.1)

omit [DecidableEq κ] in
@[simp] theorem entries_nil : entries ([] : IndexMap κ α) = [] := rfl

omit [DecidableEq κ] in
@[simp] theorem entries_cons (e : κ × List α) (m : IndexMap κ α) :
    entries (e :: m) = e.2.map (Prod.mk e.1) ++ entries m := rfl

variable {m : IndexMap κ α} {x : κ × α}

theorem mem_entries_push {k : κ} {a : α} : x ∈ entries (push m k a) ↔ x ∈ entries m ∨ x = (k, a) := by
  induction m with
  | nil => simp [push]
  | cons e m ih =>
    obtain ⟨k', as⟩ := e
    by_cases hk : k' = k
    · subst hk
      simp only [push, if_true, entries_cons, List.map_append, List.mem_append, List.map_cons, List.map_nil,
        List.mem_singleton]
      tauto
    · simp only [push, if_neg hk, entries_cons, List.mem_append, ih]
      tauto

theorem mem_entries_foldl_push {β : Type} {key : β → κ} {value : β → α} {bs : List β} :
    x ∈ entries (bs.foldl (fun m b => push m (key b) (value b)) m) ↔
      x ∈ entries m ∨ ∃ b ∈ bs, x = (key b, value b) := by
  induction bs generalizing m with
  | nil => simp
  | cons b bs ih =>
    rw [List.foldl_cons, ih, mem_entries_push]
    simp only [List.mem_cons, exists_eq_or_imp, or_assoc]

end IndexMap

/-! ## What is filed -/

inductive FieldAggFunc where
  | avg (fieldName : String)
  | min | max | count | sum | none
  deriving DecidableEq

/-- `FieldMeta`, with the name of `FieldMetaIdent`. -/
inductive FieldMeta where
  | ident (name : String) (aggFunc : FieldAggFunc)
  | tableWild (table : String)
  deriving DecidableEq

inductive WhereMetaRightDataType where
  | string (value : String)
  | num (value : String)
  | signedNum (value : String)
  | floatNum (value : String)
  deriving DecidableEq

/-- `WhereMeta::BinaryExpr`. -/
structure WhereMeta where
  left : String
  right : WhereMetaRightDataType
  deriving DecidableEq

structure InsertValsMeta where
  values : List String
  span : Span
  deriving DecidableEq

inductive ScanState where
  | empty
  | tableName
  | field
  | order
  | group
  | onCond
  | insertRowValue (args : List String)
  deriving DecidableEq

/-- `RewriteMetaData`: the maps that the rewriter reads. -/
structure RewriteMetaData where
  tables : IndexMap Nat TableIdent
  fields : IndexMap Nat FieldMeta
  orders : IndexMap Nat String
  groups : IndexMap Nat String
  wheres : IndexMap Nat WhereMeta
  inserts : IndexMap Nat InsertValsMeta
  fieldBlocks : List Nat
  queryId : Nat
  state : ScanState

def RewriteMetaData.new : RewriteMetaData :=
  { tables := [], fields := [], orders := [], groups := [], wheres := [], inserts := [], fieldBlocks := [],
    queryId := 0, state := .empty }

/-- `replace("`", "")`. -/
def unquote (name : String) : String := String.ofList (name.toList.filter (· != '`'))

/-! ## `trans` -/

/-- The function of an item that is an aggregate. -/
def fieldAggFunc (name : AggFuncName) (exprs : List Expr) : FieldAggFunc :=
  match name with
  | .avg =>
    match exprs with
    | .inSum (.simpleIdent (.ident value _)) :: _ => .avg value
    | _ => .none
  | .max => .max
  | .min => .min
  | .count => .count
  | .sum => .sum
  | .other => .none

/-- `column = number`: the only equalities that are filed. -/
def whereMeta (operator : Op) (left right : Expr) : Option WhereMeta :=
  if operator ≠ .eq then none
  else match left, right with
    | .simpleIdent (.ident value _), .literal (.num number) => some ⟨value, .num number⟩
    | _, _ => none

namespace RewriteMetaData

/-- The `Node::ItemExpr` arm. -/
def transItem (m : RewriteMetaData) (text : String) (expr : Expr) (aliasName : Option String) : RewriteMetaData :=
  let name := aliasName.getD text
  match expr with
  | .simpleIdent (.ident _ _) => { m with fields := m.fields.push m.queryId (.ident name .none) }
  | .setFuncSpec (.agg agg _ exprs) =>
    { m with fields := m.fields.push m.queryId (.ident name (fieldAggFunc agg exprs)) }
  | _ => m

/-- The `Node::Expr` arm. -/
def transExpr (m : RewriteMetaData) : Expr → RewriteMetaData
  | .simpleIdent (.ident value _) =>
    match m.state with
    | .order => { m with orders := m.orders.push m.queryId value }
    | .group => { m with groups := m.groups.push m.queryId value }
    | _ => m
  | .binaryOperation operator left right =>
    match whereMeta operator left right with
    | some w => { m with wheres := m.wheres.push m.queryId w }
    | none => m
  | .literal value =>
    match m.state with
    | .insertRowValue args =>
      match value with
      | .num number => { m with state := .insertRowValue (args ++ [number]) }
      | .text text => { m with state := .insertRowValue (args ++ [text]) }
      | _ => m
    | _ => m
  | _ => m

/-- `trans`, and `complete`; the number of the query is a `u8`. -/
def trans (m : RewriteMetaData) : Node → RewriteMetaData
  | .query => { m with queryId := (m.queryId + 1) % 256 }
  | .leaveSubQuery => { m with queryId := (m.queryId + 255) % 256 }
  | .updateStmt => { m with queryId := (m.queryId + 1) % 256 }
  | .deleteStmt table =>
    let m := { m with queryId := (m.queryId + 1) % 256 }
    match table with
    | some t => { m with tables := m.tables.push m.queryId t }
    | none => m
  | .singleTable table => { m with tables := m.tables.push m.queryId table }
  | .fromClause => { m with state := .tableName }
  | .tableRef => { m with state := .onCond }
  | .items wilds =>
    { m with
      fieldBlocks := m.fieldBlocks ++ [m.queryId], state := .field
      fields := wilds.foldl (fun fields table => fields.push m.queryId (.tableWild table)) m.fields }
  | .itemExpr text expr aliasName => m.transItem text expr aliasName
  | .orderExpr _ => { m with state := .order }
  | .groupClause => { m with state := .group }
  | .insertStmt table => { m with tables := m.tables.push m.queryId table }
  | .rowValue =>
    match m.state with
    | .insertRowValue _ => m
    | _ => { m with state := .insertRowValue [] }
  | .insertIdent ident =>
    match ident with
    | .ident (.ident value quoted) =>
      let name := if quoted then unquote value else value
      { m with fields := m.fields.push m.queryId (.ident name .none) }
    | .ident _ => m
    | .tableWild table => { m with fields := m.fields.push m.queryId (.tableWild table) }
  | .expr expr => m.transExpr expr
  | .complete =>
    match m.state with
    | .insertRowValue _ => { m with state := .insertRowValue [] }
    | _ => m
  | .completeRow span =>
    match m.state with
    | .insertRowValue args =>
      { m with state := .insertRowValue [], inserts := m.inserts.push m.queryId ⟨args, span⟩ }
    | _ => m

end RewriteMetaData

def getMeta (stmt : SqlStmt) : RewriteMetaData := stmt.visit.foldl RewriteMetaData.trans .new

/-! ## Statements without rows -/

def Node.isRow : Node → Bool
  | .rowValue => true
  | .completeRow _ => true
  | _ => false

mutual

theorem Expr.visit_noRow : ∀ e : Expr, ∀ n ∈ e.visit, n.isRow = false
  | .binaryOperation _ l r => by
    simpa [Expr.visit, or_imp, forall_and, Node.isRow] using ⟨l.visit_noRow, r.visit_noRow⟩
  | .unaryOperation _ e => by simpa [Expr.visit, Node.isRow] using e.visit_noRow
  | .isTruth e _ _ => by simpa [Expr.visit, Node.isRow] using e.visit_noRow
  | .isUnknown e _ => by simpa [Expr.visit, Node.isRow] using e.visit_noRow
  | .isNull e _ => by simpa [Expr.visit, Node.isRow] using e.visit_noRow
  | .inExpr _ _ es => by simpa [Expr.visit, Node.isRow] using visitExprs_noRow es
  | .memberOf e f => by
    simpa [Expr.visit, or_imp, forall_and, Node.isRow] using ⟨e.visit_noRow, f.visit_noRow⟩
  | .between _ e l r => by
    simpa [Expr.visit, or_imp, forall_and, Node.isRow] using ⟨e.visit_noRow, l.visit_noRow, r.visit_noRow⟩
  | .sounds l r => by
    simpa [Expr.visit, or_imp, forall_and, Node.isRow] using ⟨l.visit_noRow, r.visit_noRow⟩
  | .like e _ _ escape => by
    simpa [Expr.visit, or_imp, forall_and, Node.isRow] using ⟨visitOption_noRow escape, e.visit_noRow⟩
  | .regexp l r _ => by
    simpa [Expr.visit, or_imp, forall_and, Node.isRow] using ⟨l.visit_noRow, r.visit_noRow⟩
  | .funcCall _ args => by simpa [Expr.visit] using visitExprs_noRow args
  | .var _ => by simp [Expr.visit]
  | .values _ => by simp [Expr.visit]
  | .simpleIdent _ => by simp [Expr.visit]
  | .literal _ => by simp [Expr.visit]
  | .row es => by simpa [Expr.visit] using visitExprs_noRow es
  | .matchAgainst e => by simpa [Expr.visit, Node.isRow] using e.visit_noRow
  | .binary e => by simpa [Expr.visit, Node.isRow] using e.visit_noRow
  | .cast e => by simpa [Expr.visit, Node.isRow] using e.visit_noRow
  | .case e whens f => by
    simpa [Expr.visit, or_imp, forall_and, Node.isRow] using
      ⟨visitOption_noRow e, visitWhens_noRow whens, visitOption_noRow f⟩
  | .subQuery s => by simpa [Expr.visit] using s.visit_noRow
  | .compSubQuery e _ s => by
    simpa [Expr.visit, or_imp, forall_and, Node.isRow] using ⟨e.visit_noRow, s.visit_noRow⟩
  | .existsSubQuery s => by simpa [Expr.visit] using s.visit_noRow
  | .default => by simp [Expr.visit]
  | .timeIntervalUnit _ => by simp [Expr.visit]
  | .collate _ e => by simpa [Expr.visit, Node.isRow] using e.visit_noRow
  | .paramMarker => by simp [Expr.visit]
  | .inSum e => by simpa [Expr.visit, Node.isRow] using e.visit_noRow
  | .setFuncSpec e => by simpa [Expr.visit, Node.isRow] using e.visit_noRow
  | .agg _ _ es => by simpa [Expr.visit] using visitExprs_noRow es
  | .ori _ => by simp [Expr.visit]
  | .none => by simp [Expr.visit]

theorem visitExprs_noRow : ∀ es : List Expr, ∀ n ∈ visitExprs es, n.isRow = false
  | [] => by simp [visitExprs]
  | e :: es => by
    simpa [visitExprs, or_imp, forall_and, Node.isRow] using ⟨e.visit_noRow, visitExprs_noRow es⟩

theorem visitOption_noRow : ∀ e : Option Expr, ∀ n ∈ visitOption e, n.isRow = false
  | none => by simp [visitOption]
  | some e => by simpa [visitOption, Node.isRow] using e.visit_noRow

theorem visitWhens_noRow : ∀ ws : List WhenExpr, ∀ n ∈ visitWhens ws, n.isRow = false
  | [] => by simp [visitWhens]
  | .mk w t :: ws => by
    simpa [visitWhens, or_imp, forall_and, Node.isRow] using
      ⟨w.visit_noRow, t.visit_noRow, visitWhens_noRow ws⟩

theorem visitItems_noRow : ∀ is : List Item, ∀ n ∈ visitItems is, n.isRow = false
  | [] => by simp [visitItems]
  | .wild :: is => by simpa [visitItems] using visitItems_noRow is
  | .tableWild _ :: is => by simpa [visitItems] using visitItems_noRow is
  | .itemExpr _ e _ :: is => by
    have he := e.visit_noRow
    have hrest := visitItems_noRow is
    by_cases hv : visitsItem e = true
    · simpa [visitItems, hv, or_imp, forall_and, Node.isRow] using ⟨he, hrest⟩
    · simpa [visitItems, hv, or_imp, forall_and, Node.isRow] using hrest

theorem visitOrders_noRow : ∀ os : List OrderExpr, ∀ n ∈ visitOrders os, n.isRow = false
  | [] => by simp [visitOrders]
  | .mk e _ :: os => by
    simpa [visitOrders, or_imp, forall_and, Node.isRow] using ⟨e.visit_noRow, visitOrders_noRow os⟩

theorem TableRef.visit_noRow : ∀ t : TableRef, ∀ n ∈ t.visit, n.isRow = false
  | .singleTable _ => by simp [TableRef.visit, Node.isRow]
  | .derivedTable s => by simpa [TableRef.visit] using s.visit_noRow
  | .joinedTable l r e => by
    simpa [TableRef.visit, or_imp, forall_and, Node.isRow] using
      ⟨l.visit_noRow, r.visit_noRow, visitOption_noRow e⟩
  | .tableRefsParens ts => by simpa [TableRef.visit] using visitTableRefs_noRow ts
  | .tableFunc e => by simpa [TableRef.visit, Node.isRow] using e.visit_noRow

theorem visitTableRefs_noRow : ∀ ts : List TableRef, ∀ n ∈ visitTableRefs ts, n.isRow = false
  | [] => by simp [visitTableRefs]
  | t :: ts => by
    simpa [visitTableRefs, or_imp, forall_and, Node.isRow] using ⟨t.visit_noRow, visitTableRefs_noRow ts⟩

theorem SelectStmt.visit_noRow : ∀ s : SelectStmt, ∀ n ∈ s.visit, n.isRow = false
  | .query q => by simpa [SelectStmt.visit, or_imp, forall_and, Node.isRow] using q.visit_noRow
  | .subQuery q u os _ => by
    simpa [SelectStmt.visit, or_imp, forall_and, Node.isRow] using
      ⟨q.visit_noRow, visitSelect_noRow u, visitOrders_noRow os⟩
  | .withQuery ts b => by
    simpa [SelectStmt.visit, or_imp, forall_and] using ⟨visitSelects_noRow ts, b.visit_noRow⟩
  | .valueConstructor es => by simpa [SelectStmt.visit] using visitExprs_noRow es
  | .explicitTable _ => by simp [SelectStmt.visit]
  | .none => by simp [SelectStmt.visit]

theorem visitSelect_noRow : ∀ s : Option SelectStmt, ∀ n ∈ visitSelect s, n.isRow = false
  | none => by simp [visitSelect]
  | some s => by simpa [visitSelect] using s.visit_noRow

theorem visitSelects_noRow : ∀ ss : List SelectStmt, ∀ n ∈ visitSelects ss, n.isRow = false
  | [] => by simp [visitSelects]
  | s :: ss => by
    simpa [visitSelects, or_imp, forall_and] using ⟨s.visit_noRow, visitSelects_noRow ss⟩

theorem Query.visit_noRow : ∀ q : Query, ∀ n ∈ q.visit, n.isRow = false
  | .mk items refs w gs h os _ u => by
    have hrefs := visitTableRefs_noRow refs
    have hgs := visitExprs_noRow gs
    have hrest := And.intro (visitItems_noRow items) (And.intro (visitOption_noRow w)
      (And.intro (visitOption_noRow h) (And.intro (visitOrders_noRow os) (visitSelect_noRow u))))
    obtain ⟨hitems, hw, hh, hos, hu⟩ := hrest
    intro n hn
    simp only [Query.visit, List.mem_cons, List.mem_append] at hn
    rcases hn with rfl | ((((((hn | hn) | hn) | hn) | hn) | hn) | hn)
    · rfl
    · exact hitems n hn
    · split at hn
      · cases hn
      · rcases List.mem_cons.mp hn with rfl | hn
        · rfl
        · exact hrefs n hn
    · exact hw n hn
    · split at hn
      · cases hn
      · rcases List.mem_cons.mp hn with rfl | hn
        · rfl
        · exact hgs n hn
    · exact hh n hn
    · exact hos n hn
    · exact hu n hn

end

namespace RewriteMetaData

variable {n : Node} {nodes : List Node} {m : RewriteMetaData} {x : Nat × WhereMeta}

theorem trans_inserts (m : RewriteMetaData) (h : n.isRow = false) : (m.trans n).inserts = m.inserts := by
  cases n
  case rowValue => cases h
  case completeRow => cases h
  case deleteStmt table => cases table <;> rfl
  case itemExpr text expr aliasName =>
    simp only [trans, transItem]
    split <;> rfl
  case insertIdent ident =>
    simp only [trans]
    split <;> rfl
  case complete =>
    simp only [trans]
    split <;> rfl
  case expr e =>
    simp only [trans, transExpr]
    repeat' split
    all_goals rfl
  all_goals rfl

theorem foldl_trans_inserts (h : ∀ n ∈ nodes, n.isRow = false) (m : RewriteMetaData) :
    (nodes.foldl trans m).inserts = m.inserts := by
  induction nodes generalizing m with
  | nil => rfl
  | cons n nodes ih =>
    rw [List.forall_mem_cons] at h
    rw [List.foldl_cons, ih h.2, trans_inserts m h.1]

theorem mem_trans_wheres (h : x ∈ (m.trans n).wheres.entries) :
    x ∈ m.wheres.entries ∨ ∃ text, x.2.right = .num text := by
  have keep : ∀ {m' : RewriteMetaData}, m'.wheres = m.wheres → x ∈ m'.wheres.entries →
      x ∈ m.wheres.entries ∨ ∃ text, x.2.right = .num text := by
    intro m' hm hx
    rw [hm] at hx
    exact .inl hx
  cases n
  case deleteStmt table => cases table <;> exact keep rfl h
  case rowValue =>
    refine keep ?_ h
    simp only [trans]
    split <;> rfl
  case completeRow =>
    refine keep ?_ h
    simp only [trans]
    split <;> rfl
  case itemExpr text expr aliasName =>
    refine keep ?_ h
    simp only [trans, transItem]
    split <;> rfl
  case insertIdent ident =>
    refine keep ?_ h
    simp only [trans]
    split <;> rfl
  case complete =>
    refine keep ?_ h
    simp only [trans]
    split <;> rfl
  case expr e =>
    by_cases hbinary : ∃ op l r, e = .binaryOperation op l r
    · obtain ⟨op, l, r, rfl⟩ := hbinary
      simp only [trans, transExpr] at h
      cases hw : whereMeta op l r with
      | none =>
        rw [hw] at h
        exact .inl h
      | some w =>
        rw [hw] at h
        rcases IndexMap.mem_entries_push.mp h with h | rfl
        · exact .inl h
        · refine .inr ?_
          unfold whereMeta at hw
          split_ifs at hw
          split at hw
          · cases hw
            exact ⟨_, rfl⟩
          · cases hw
    · refine keep ?_ h
      simp only [trans, transExpr]
      repeat' split
      all_goals first | rfl | exact absurd ⟨_, _, _, rfl⟩ hbinary
  all_goals exact keep rfl h

theorem mem_foldl_wheres (h : x ∈ (nodes.foldl trans m).wheres.entries) :
    x ∈ m.wheres.entries ∨ ∃ text, x.2.right = .num text := by
  induction nodes generalizing m with
  | nil => exact .inl h
  | cons n nodes ih =>
    rcases ih h with h | h
    · exact mem_trans_wheres h
    · exact .inr h

end RewriteMetaData

theorem getMeta_wheres {stmt : SqlStmt} {x : Nat × WhereMeta} (h : x ∈ (getMeta stmt).wheres.entries) :
    ∃ text, x.2.right = .num text := by
  rcases RewriteMetaData.mem_foldl_wheres h with h | h
  · cases h
  · exact h

theorem getMeta_inserts {stmt : SqlStmt} (h : ∀ i, stmt ≠ .insert i) : (getMeta stmt).inserts = [] := by
  refine RewriteMetaData.foldl_trans_inserts ?_ .new
  cases stmt with
  | insert i => exact absurd rfl (h i)
  | select s => exact s.visit_noRow
  | update s =>
    simpa [SqlStmt.visit, or_imp, forall_and, Node.isRow] using
      ⟨visitSelects_noRow s.withTables, visitTableRefs_noRow s.tableRefs, visitExprs_noRow s.updates,
        visitOption_noRow s.where_, visitOrders_noRow s.orders⟩
  | delete s =>
    simpa [SqlStmt.visit, or_imp, forall_and, Node.isRow] using
      ⟨visitSelects_noRow s.withTables, visitOption_noRow s.where_, visitOrders_noRow s.orders,
        visitTableRefs_noRow s.tableRefs⟩
  | other =>
    intro n hn
    cases hn

end DataNexus.ShardingRewrite
