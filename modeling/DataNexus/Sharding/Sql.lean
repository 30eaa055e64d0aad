/-
  Statements as the MySQL parser of the data proxy gives them (`parser/mysql/src/ast`), and the order in which a visitor
  meets their nodes.

  Each node is shown to `Transformer::trans` and then visited, with a few exceptions.  What `trans` answers does not depend
  on what was met before, so a walk is a LIST of nodes, and the rewriter's memory is a fold over it (`Sharding/Meta.lean`).

  Calls of functions are text (`Expr::Ori`); an expression in parentheses is a row of one.  Nodes that the rewriter does
  nothing with are not listed.
-/
import DataNexus.Sharding.Rule

namespace DataNexus.ShardingRewrite

/-! ## Syntax -/

/-- `lrpar::Span`, over the characters of the statement. -/
structure Span where
  start : Nat
  stop : Nat
  deriving DecidableEq

inductive Op where
  | eq | assignEq | ne | gt | ge | lt | le | shiftLeft | shiftRight | or | bitOr | and | bitAnd
  | plus | minus | mul | div | mod | bitXor | not | neg
  deriving DecidableEq

/-- `Value`; `other` is one that no part of the rewriter looks into.  A number in an expression is never `signed`:
    the grammar sets that flag for the default of a column only, and reads `-3` as an operation on `3`. -/
inductive Value where
  | text (value : String)
  | ident (value : String) (quoted : Bool)
  | tableIdent (field table : String) (schema : Option String)
  | num (value : String)
  | floatNum (value : String)
  | hexNum (value : String)
  | binNum (value : String)
  | true
  | false
  | null
  | other
  deriving DecidableEq

structure TableIdent where
  span : Span
  schema : Option String
  name : String
  deriving DecidableEq

/-- `AggFuncName`, with the functions that shards are merged for. -/
inductive AggFuncName where
  | avg | max | min | count | sum | other
  deriving DecidableEq

structure LimitClause where
  opts : List String
  offset : Bool
  deriving DecidableEq

mutual

inductive Expr where
  | binaryOperation (operator : Op) (left right : Expr)
  | unaryOperation (operator : Op) (expr : Expr)
  | isTruth (expr : Expr) (isNot isTrue : Bool)
  | isUnknown (expr : Expr) (isNot : Bool)
  | isNull (expr : Expr) (isNot : Bool)
  | inExpr (expr : Expr) (isNot : Bool) (exprs : List Expr)
  | memberOf (expr ofExpr : Expr)
  | between (isNot : Bool) (expr left right : Expr)
  | sounds (left right : Expr)
  | like (expr : Expr) (isNot : Bool) (pattern : Expr) (escape : Option Expr)
  | regexp (left right : Expr) (isNot : Bool)
  | funcCall (name : String) (args : List Expr)
  | var (name : String)
  | values (value : Value)
  | simpleIdent (value : Value)
  | literal (value : Value)
  | row (exprs : List Expr)
  | matchAgainst (expr : Expr)
  | binary (expr : Expr)
  | cast (expr : Expr)
  | case (expr : Option Expr) (whens : List WhenExpr) (elseExpr : Option Expr)
  | subQuery (select : SelectStmt)
  | compSubQuery (expr : Expr) (operator : Op) (select : SelectStmt)
  | existsSubQuery (select : SelectStmt)
  | default
  | timeIntervalUnit (unit : String)
  | collate (name : String) (expr : Expr)
  | paramMarker
  | inSum (expr : Expr)
  | setFuncSpec (expr : Expr)
  | agg (name : AggFuncName) (distinct : Bool) (exprs : List Expr)
  | ori (text : String)
  | none

inductive WhenExpr where
  | mk (when «then» : Expr)

/-- `Item`; an item keeps the text it has in the statement. -/
inductive Item where
  | wild
  | tableWild (table : String)
  | itemExpr (text : String) (expr : Expr) (aliasName : Option String)

inductive OrderExpr where
  | mk (expr : Expr) (direction : Option String)

/-- `TableRef`, with the table factors and joins that it wraps. -/
inductive TableRef where
  | singleTable (table : TableIdent)
  | derivedTable (select : SelectStmt)
  | joinedTable (left right : TableRef) (onCond : Option Expr)
  | tableRefsParens (refs : List TableRef)
  | tableFunc (expr : Expr)

/-- `SelectStmt`.  A `WITH` lists the queries of its tables; the values of a constructor are listed row after
    row. -/
inductive SelectStmt where
  | query (query : Query)
  | subQuery (query : SelectStmt) (union : Option SelectStmt) (orders : List OrderExpr)
      (limit : Option LimitClause)
  | withQuery (tables : List SelectStmt) (body : SelectStmt)
  | valueConstructor (values : List Expr)
  | explicitTable (table : TableIdent)
  | none

/-- `Query`.  A clause with a list is empty where the statement has none. -/
inductive Query where
  | mk (items : List Item) (from_ : List TableRef) (where_ : Option Expr) (groups : List Expr)
      (having : Option Expr) (orders : List OrderExpr) (limit : Option LimitClause)
      (union : Option SelectStmt)

end

inductive InsertIdent where
  | ident (value : Value)
  | tableWild (table : String)
  deriving DecidableEq

structure RowValue where
  span : Span
  values : List Expr

structure InsertFromConstruct where
  rows : List RowValue
  fields : List InsertIdent

/-- `InsertStmt`; of an `UpdateElem` the rewriter sees the expression only. -/
structure InsertStmt where
  table : TableIdent
  construct : Option InsertFromConstruct
  insUpdates : List Expr
  updates : List Expr
  queryExpr : Option (SelectStmt × List InsertIdent)

structure UpdateStmt where
  withTables : List SelectStmt
  tableRefs : List TableRef
  updates : List Expr
  where_ : Option Expr
  orders : List OrderExpr

structure DeleteStmt where
  withTables : List SelectStmt
  table : Option TableIdent
  where_ : Option Expr
  orders : List OrderExpr
  tableRefs : List TableRef

/-- `SqlStmt`, with the statements that the rewriter enters. -/
inductive SqlStmt where
  | select (stmt : SelectStmt)
  | insert (stmt : InsertStmt)
  | update (stmt : UpdateStmt)
  | delete (stmt : DeleteStmt)
  | other

/-! ## Nodes -/

/-- `Node`, as far as `trans` and `complete` look at it; `leaveSubQuery` is what `trans` does behind the visit
    of a `SelectStmt::SubQuery`. -/
inductive Node where
  | query
  | leaveSubQuery
  | updateStmt
  | deleteStmt (table : Option TableIdent)
  | singleTable (table : TableIdent)
  | fromClause
  | tableRef
  | items (wilds : List String)
  | itemExpr (text : String) (expr : Expr) (aliasName : Option String)
  | orderExpr (direction : Option String)
  | groupClause
  | insertStmt (table : TableIdent)
  | rowValue
  | insertIdent (ident : InsertIdent)
  | expr (expr : Expr)
  | complete
  | completeRow (span : Span)

/-- The items that stand for all columns of a table. -/
def tableWilds (items : List Item) : List String :=
  items.filterMap fun
    | .tableWild table => some table
    | _ => none

/-- Whether `trans` of an item lets the visitor go on: only for an aggregate. -/
def visitsItem : Expr → Bool
  | .setFuncSpec (.agg _ _ _) => true
  | _ => false

mutual

def Expr.visit : Expr → List Node
  | .binaryOperation _ left right => .expr left :: .expr right :: (left.visit ++ right.visit)
  | .unaryOperation _ expr => .expr expr :: expr.visit
  | .isTruth expr _ _ => .expr expr :: expr.visit
  | .isUnknown expr _ => .expr expr :: expr.visit
  | .isNull expr _ => .expr expr :: expr.visit
  | .inExpr expr _ exprs => .expr expr :: visitExprs exprs
  | .memberOf expr ofExpr => .expr expr :: .expr ofExpr :: (expr.visit ++ ofExpr.visit)
  | .between _ expr left right =>
    .expr expr :: .expr left :: .expr right :: (expr.visit ++ left.visit ++ right.visit)
  | .sounds left right => .expr left :: .expr right :: (left.visit ++ right.visit)
  | .like expr _ pattern escape => .expr expr :: .expr pattern :: (visitOption escape ++ expr.visit)
  | .regexp left right _ => .expr left :: .expr right :: (left.visit ++ right.visit)
  | .funcCall _ args => visitExprs args
  | .var _ => []
  | .values _ => []
  | .simpleIdent _ => []
  | .literal _ => []
  | .row exprs => visitExprs exprs
  | .matchAgainst expr => .expr expr :: expr.visit
  | .binary expr => .expr expr :: expr.visit
  | .cast expr => .expr expr :: expr.visit
  | .case expr whens elseExpr => visitOption expr ++ visitWhens whens ++ visitOption elseExpr
  | .subQuery select => select.visit
  | .compSubQuery expr _ select => .expr expr :: (expr.visit ++ select.visit)
  | .existsSubQuery select => select.visit
  | .default => []
  | .timeIntervalUnit _ => []
  | .collate _ expr => .expr expr :: expr.visit
  | .paramMarker => []
  | .inSum expr => .expr expr :: expr.visit
  | .setFuncSpec expr => .expr expr :: expr.visit
  | .agg _ _ exprs => visitExprs exprs
  | .ori _ => []
  | .none => []

def visitExprs : List Expr → List Node
  | [] => []
  | expr :: exprs => .expr expr :: (expr.visit ++ visitExprs exprs)

def visitOption : Option Expr → List Node
  | none => []
  | some expr => .expr expr :: expr.visit

/-- `WhenExpr::visit`. -/
def visitWhens : List WhenExpr → List Node
  | [] => []
  | .mk when «then» :: whens =>
    .expr when :: (when.visit ++ .expr «then» :: («then».visit ++ visitWhens whens))

/-- `Items::visit`. -/
def visitItems : List Item → List Node
  | [] => []
  | .wild :: items => visitItems items
  | .tableWild _ :: items => visitItems items
  | .itemExpr text expr aliasName :: items =>
    .itemExpr text expr aliasName ::
      ((if visitsItem expr then .expr expr :: expr.visit else [.complete]) ++ visitItems items)

/-- `OrderClause::visit`. -/
def visitOrders : List OrderExpr → List Node
  | [] => []
  | .mk expr direction :: orders => .orderExpr direction :: .expr expr :: (expr.visit ++ visitOrders orders)

/-- `TableRef::visit`, behind the `trans` of the reference. -/
def TableRef.visit : TableRef → List Node
  | .singleTable table => [.singleTable table]
  | .derivedTable select => select.visit
  | .joinedTable left right onCond =>
    .tableRef :: (left.visit ++ .tableRef :: (right.visit ++ visitOption onCond))
  | .tableRefsParens refs => visitTableRefs refs
  | .tableFunc expr => .expr expr :: expr.visit

/-- The references of a clause, each shown and then visited. -/
def visitTableRefs : List TableRef → List Node
  | [] => []
  | ref :: refs => .tableRef :: (ref.visit ++ visitTableRefs refs)

/-- `SelectStmt::visit`.  A subquery is visited by `trans` itself, which answers that the visitor is to skip
    it. -/
def SelectStmt.visit : SelectStmt → List Node
  | .query query => .query :: (query.visit ++ [.complete])
  | .subQuery query union orders _ =>
    query.visit ++ visitSelect union ++ visitOrders orders ++ [.leaveSubQuery, .complete]
  | .withQuery tables body => visitSelects tables ++ body.visit
  | .valueConstructor values => visitExprs values
  | .explicitTable _ => []
  | .none => []

def visitSelect : Option SelectStmt → List Node
  | none => []
  | some select => select.visit

/-- `WithClause::visit`. -/
def visitSelects : List SelectStmt → List Node
  | [] => []
  | select :: selects => select.visit ++ visitSelects selects

def Query.visit : Query → List Node
  | .mk items from_ where_ groups having orders _ union =>
    .items (tableWilds items) :: (visitItems items ++
      (if from_.isEmpty then [] else .fromClause :: visitTableRefs from_) ++
      visitOption where_ ++
      (if groups.isEmpty then [] else .groupClause :: visitExprs groups) ++
      visitOption having ++ visitOrders orders ++ visitSelect union)

end

def RowValue.visit (row : RowValue) : List Node := .rowValue :: (visitExprs row.values ++ [.completeRow row.span])

/-- `InsertFromConstruct::visit`: the rows come before the fields. -/
def InsertFromConstruct.visit (construct : InsertFromConstruct) : List Node :=
  construct.rows.flatMap RowValue.visit ++ construct.fields.map .insertIdent

def SqlStmt.visit : SqlStmt → List Node
  | .select stmt => stmt.visit
  | .insert stmt =>
    .insertStmt stmt.table :: ((stmt.construct.elim [] InsertFromConstruct.visit) ++
      visitExprs stmt.insUpdates ++ visitExprs stmt.updates ++
      (stmt.queryExpr.elim [] fun q => q.1.visit ++ q.2.map .insertIdent))
  | .update stmt =>
    .updateStmt :: (visitSelects stmt.withTables ++ visitTableRefs stmt.tableRefs ++
      visitExprs stmt.updates ++ visitOption stmt.where_ ++ visitOrders stmt.orders)
  | .delete stmt =>
    .deleteStmt stmt.table :: (visitSelects stmt.withTables ++ visitOption stmt.where_ ++
      visitOrders stmt.orders ++ visitTableRefs stmt.tableRefs)
  | .other => []

end DataNexus.ShardingRewrite
