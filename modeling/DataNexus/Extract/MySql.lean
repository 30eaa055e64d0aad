/-
  The second walker of `object_extract.rs`, over the tree of the project's own `mysql_parser`.

  The tree is one family over the kinds of phrases, as in `Extract.Sql`; statements without a case of their own are
  `otherStmt`.  Parts that the parser keeps as plain text (window specifications, index hints, triggers) hold no tree.

  This walker does not merge: every table reference pushes an object.  After the FROM of a block the
  objects it has added get the columns of the projection, and their wildcard flag is ASSIGNED.
-/
import DataNexus.Extract.Columns

namespace DataNexus.Extract.MySql

open DataNexus.Text DataNexus.Pdp

/-! ## The tree -/

structure TableIdent where
  schema : Option String
  name : String
deriving DecidableEq

def TableIdent.parts (ident : TableIdent) : ObjectName := ident.schema.toList ++ [ident.name]

/-- `Value`: the kinds that name a column, and the rest. -/
inductive Value where
  | text (value : String)
  | ident (value : String)
  | tableIdent (field table : String)
  | other

inductive InsertIdent where
  | ident (v : Value)
  | tableWild

inductive Phrase where
  | expr
  | whenExpr
  | select
  | item
  | tableRef
  | tableFactor
  | cte
  | updateElem
  | stmt
  | many (p : Phrase)
  | opt (p : Phrase)

inductive Ast : Phrase → Type where
  | nil {p : Phrase} : Ast (.many p)
  | cons {p : Phrase} (head : Ast p) (tail : Ast (.many p)) : Ast (.many p)
  | absent {p : Phrase} : Ast (.opt p)
  | present {p : Phrase} (x : Ast p) : Ast (.opt p)
  -- Expr
  | simpleIdent (v : Value) : Ast .expr
  | binaryOperation (left right : Ast .expr) : Ast .expr
  | unaryOperation (e : Ast .expr) : Ast .expr
  | funcCall (args : Ast (.many .expr)) : Ast .expr
  /-- IS TRUE, IS UNKNOWN, IS NULL, BINARY, CAST, COLLATE, MATCH .. AGAINST and the arguments of set
      functions. -/
  | wrapped (e : Ast .expr) : Ast .expr
  | inExpr (e : Ast .expr) (exprs : Ast (.many .expr)) : Ast .expr
  | between (e left right : Ast .expr) : Ast .expr
  | like (e pattern : Ast .expr) (escape : Ast (.opt .expr)) : Ast .expr
  | pair (left right : Ast .expr) : Ast .expr
  | row (exprs : Ast (.many .expr)) : Ast .expr
  | caseExpr (e : Ast (.opt .expr)) (whens : Ast (.many .whenExpr)) (elseExpr : Ast (.opt .expr)) :
      Ast .expr
  | whenThen (condition value : Ast .expr) : Ast .whenExpr
  | subQueryExpr (q : Ast .select) : Ast .expr
  | existsSubQuery (q : Ast .select) : Ast .expr
  | compSubQuery (e : Ast .expr) (q : Ast .select) : Ast .expr
  /-- `orders`: the ORDER BY of GROUP_CONCAT. -/
  | agg (exprs orders : Ast (.many .expr)) : Ast .expr
  /-- Literals, variables, DEFAULT, parameter markers. -/
  | leaf : Ast .expr
  -- SelectStmt
  /-- No FROM and FROM DUAL have no references. -/
  | query (items : Ast (.many .item)) (refs : Ast (.many .tableRef)) (condition : Ast (.opt .expr))
      (groups : Ast (.many .expr)) (having : Ast (.opt .expr)) (union : Ast (.opt .select))
      (orders : Ast (.many .expr)) : Ast .select
  | subQuery (q : Ast .select) (union : Ast (.opt .select)) (orders : Ast (.many .expr)) : Ast .select
  | withQuery (recursive : Bool) (ctes : Ast (.many .cte)) (body : Ast .select) : Ast .select
  | valueConstructor (rows : Ast (.many .expr)) : Ast .select
  | explicitTable (ident : TableIdent) : Ast .select
  | noSelect : Ast .select
  | cte (name : String) (q : Ast .select) : Ast .cte
  /-- `*` and `t.*`. -/
  | wild : Ast .item
  | itemExpr (e : Ast .expr) : Ast .item
  -- TableRef and TableFactor
  | factor (f : Ast .tableFactor) : Ast .tableRef
  | joined (left right : Ast .tableRef) (on : Ast (.opt .expr)) : Ast .tableRef
  | singleTable (ident : TableIdent) : Ast .tableFactor
  | derivedTable (q : Ast .select) : Ast .tableFactor
  | joinedParens (left right : Ast .tableRef) (on : Ast (.opt .expr)) : Ast .tableFactor
  | refsParens (refs : Ast (.many .tableRef)) : Ast .tableFactor
  | tableFunc (e : Ast .expr) : Ast .tableFactor
  -- SqlStmt
  | updateElem (target : Value) (e : Ast .expr) : Ast .updateElem
  | selectStmt (q : Ast .select) : Ast .stmt
  /-- `values`: the rows of VALUES; `updates`: INSERT .. SET; `onDuplicate`: ON DUPLICATE KEY UPDATE. -/
  | insertStmt (table : TableIdent) (fields : List InsertIdent) (values : Ast (.many .expr))
      (query : Ast (.opt .select)) (queryFields : List InsertIdent) (updates : Ast (.many .updateElem))
      (onDuplicate : Ast (.many .updateElem)) : Ast .stmt
  | updateStmt (recursive : Bool) (ctes : Ast (.many .cte)) (refs : Ast (.many .tableRef))
      (updates : Ast (.many .updateElem)) (condition : Ast (.opt .expr)) (orders : Ast (.many .expr)) :
      Ast .stmt
  | deleteStmt (recursive : Bool) (ctes : Ast (.many .cte)) (table : Option TableIdent)
      (refs : Ast (.many .tableRef)) (condition : Ast (.opt .expr)) (orders : Ast (.many .expr)) :
      Ast .stmt
  /-- CREATE TABLE, INDEX, VIEW and TRIGGER, SHOW, SET and all other statements. -/
  | otherStmt (tables : List TableIdent) (exprs : Ast (.many .expr)) (queries : Ast (.many .select)) :
      Ast .stmt

/-! ## The walker -/

def objectFromMySqlIdent (ident : TableIdent) (op : StatementAction) : ObjectAccess :=
  ⟨ident.schema, ident.name, [], op, false⟩

def mySqlValueIdent : Value → List String
  | .ident value => [value]
  | .tableIdent field table => [table ++ "." ++ field]
  | .text value => [value]
  | .other => []

/-- `set.objects.push(obj)`. -/
def push (set : ObjectSet) (obj : ObjectAccess) : ObjectSet := { set with objects := set.objects ++ [obj] }

/-- `collect_mysql_expr_columns`, also over the lists it loops through. -/
def collectMySqlExprColumns {p : Phrase} : Ast p → List String → List String
  | .nil, columns => columns
  | .cons head tail, columns => collectMySqlExprColumns tail (collectMySqlExprColumns head columns)
  | .itemExpr e, columns => collectMySqlExprColumns e columns
  | .simpleIdent v, columns => (mySqlValueIdent v).foldl pushCol columns
  | .binaryOperation left right, columns =>
    collectMySqlExprColumns right (collectMySqlExprColumns left columns)
  | .unaryOperation e, columns => collectMySqlExprColumns e columns
  | .funcCall args, columns => collectMySqlExprColumns args columns
  | _, columns => columns

def hasWild {p : Phrase} : Ast p → Bool
  | .cons head tail => hasWild head || hasWild tail
  | .wild => true
  | _ => false

/-- The loop over the objects that the FROM of a block added. -/
def assignProjection (before : Nat) (action : StatementAction) (wildcard : Bool)
    (columns : List String) (set : ObjectSet) : ObjectSet :=
  { set with
    objects := set.objects.take before ++ (set.objects.drop before).map fun o =>
      if o.op == action then
        { o with
          hasWildcard := wildcard
          columns := columns.foldl pushCol o.columns }
      else o }

/-- The loop over the objects that the references of an UPDATE added. -/
def addUpdated (before : Nat) (columns : List String) (set : ObjectSet) : ObjectSet :=
  { set with
    objects := set.objects.take before ++ (set.objects.drop before).map fun o =>
      if o.op == .update then { o with columns := columns.foldl pushCol o.columns } else o }

def updatedColumns {p : Phrase} : Ast p → List String
  | .cons head tail => updatedColumns head ++ updatedColumns tail
  | .updateElem target _ => mySqlValueIdent target
  | _ => []

def addFields (fields : List InsertIdent) (obj : ObjectAccess) : ObjectAccess :=
  fields.foldl (fun obj field =>
    match field with
    | .ident v => { obj with columns := (mySqlValueIdent v).foldl pushCol obj.columns }
    | .tableWild => { obj with hasWildcard := true }) obj

/-- The walker, over every kind of phrase; `action` is the operation that the tables of a FROM get. -/
def walk {p : Phrase} : Ast p → StatementAction → ObjectSet → ObjectSet
  | .nil, _, set => set
  | .cons head tail, action, set => walk tail action (walk head action set)
  | .absent, _, set => set
  | .present x, action, set => walk x action set
  -- walk_mysql_expr_subqueries
  | .binaryOperation left right, action, set => walk right action (walk left action set)
  | .unaryOperation e, action, set => walk e action set
  | .funcCall args, action, set => walk args action set
  | .wrapped e, action, set => walk e action set
  | .inExpr e exprs, action, set => walk exprs action (walk e action set)
  | .between e left right, action, set => walk right action (walk left action (walk e action set))
  | .like e pattern escape, action, set =>
    walk escape action (walk pattern action (walk e action set))
  | .pair left right, action, set => walk right action (walk left action set)
  | .row exprs, action, set => walk exprs action set
  | .caseExpr e whens elseExpr, action, set =>
    walk elseExpr action (walk whens action (walk e action set))
  | .whenThen condition value, action, set => walk value action (walk condition action set)
  | .subQueryExpr q, _, set => walk q .select set
  | .existsSubQuery q, _, set => walk q .select set
  | .compSubQuery e q, action, set => walk q .select (walk e action set)
  | .agg exprs _, action, set => walk exprs action set
  | .simpleIdent _, _, set | .leaf, _, set => set
  -- walk_mysql_select
  | .query items refs condition _ having union _, action, set =>
    let set := walk items action set
    let before := set.objects.length
    let set := walk refs action set
    let set := assignProjection before action (hasWild items) (collectMySqlExprColumns items []) set
    walk union action (walk having action (walk condition action set))
  | .itemExpr e, action, set => walk e action set
  | .wild, _, set => set
  | .subQuery q _ _, action, set => walk q action set
  | .withQuery _ _ body, action, set => walk body action set
  | .explicitTable ident, action, set => push set (objectFromMySqlIdent ident action)
  | .valueConstructor _, _, set | .noSelect, _, set | .cte _ _, _, set => set
  -- walk_mysql_table_ref and walk_mysql_table_factor
  | .factor f, action, set => walk f action set
  | .joined left right _, action, set => walk right action (walk left action set)
  | .singleTable ident, action, set => push set (objectFromMySqlIdent ident action)
  | .derivedTable q, _, set => walk q .select set
  | .joinedParens left right _, action, set => walk right action (walk left action set)
  | .refsParens refs, action, set => walk refs action set
  | .tableFunc _, _, set => set
  -- walk_mysql_stmt
  | .selectStmt q, _, set => walk q .select set
  | .insertStmt table fields _ query queryFields updates _, _, set =>
    let obj := addFields fields (objectFromMySqlIdent table .insert)
    let obj := addFields queryFields obj
    let set := walk query .select set
    push set { obj with columns := (updatedColumns updates).foldl pushCol obj.columns }
  | .updateElem _ e, action, set => walk e action set
  | .updateStmt _ _ refs updates condition _, _, set =>
    let before := set.objects.length
    let set := walk refs .update set
    let set := walk updates .select set
    let set := addUpdated before ((updatedColumns updates).foldl pushCol []) set
    walk condition .select set
  | .deleteStmt _ _ table refs condition _, _, set =>
    let set :=
      match table with
      | some ident => push set (objectFromMySqlIdent ident .delete)
      | none => set
    walk condition .select (walk refs .delete set)
  | .otherStmt _ _ _, _, set => set

/-- `extract_with_mysql_parser`, on the statements of a text that could be parsed. -/
def extractMySql (statements : Ast (.many .stmt)) : ObjectSet := walk statements .other ⟨[], false, false⟩

end DataNexus.Extract.MySql
