/-
  The parsed statements of `object_extract.rs`: the tree of the crate `sqlparser`, as far as a table can be named in it.

  The tree is one family of types, with `Vec` and `Option` as kinds of their own.  Constructors that the walker treats
  alike share one here.  No place where an expression, a query or the name of a table can stand is left out; types,
  aliases and flags are, and the OF of a locking clause.

  `occurrences` lists every place where a table is named: whether it stands for a base table, and whether the walker gets
  to it.
-/
import DataNexus.Pdp.Policy

namespace DataNexus.Extract

open DataNexus.Text DataNexus.Pdp

/-! ## The tree -/

/-- `ObjectName`: the parts of a possibly qualified name. -/
abbrev ObjectName := List String

inductive Phrase where
  | expr
  | functionArguments
  | functionArg
  | query
  | cte
  | setExpr
  | selectItem
  | tableWithJoins
  | join
  | joinOperator
  | tableFactor
  | assignment
  | statement
  /-- `Vec`. -/
  | many (p : Phrase)
  /-- `Option`. -/
  | opt (p : Phrase)

/-- The operators on one expression that the walker looks through. -/
inductive UnaryKind where
  | nested
  | unaryOp
  | cast
  /-- IS [NOT] NULL, TRUE, FALSE and UNKNOWN. -/
  | isTest
deriving DecidableEq

inductive Ast : Phrase → Type where
  -- Vec and Option
  | nil {p : Phrase} : Ast (.many p)
  | cons {p : Phrase} (head : Ast p) (tail : Ast (.many p)) : Ast (.many p)
  | absent {p : Phrase} : Ast (.opt p)
  | present {p : Phrase} (x : Ast p) : Ast (.opt p)
  -- Expr
  | identifier (name : String) : Ast .expr
  | compoundIdentifier (names : List String) : Ast .expr
  | unary (kind : UnaryKind) (e : Ast .expr) : Ast .expr
  | binaryOp (left right : Ast .expr) : Ast .expr
  | inList (e : Ast .expr) (list : Ast (.many .expr)) : Ast .expr
  | inSubquery (e : Ast .expr) (subquery : Ast .query) : Ast .expr
  | between (e low high : Ast .expr) : Ast .expr
  | like (e pattern : Ast .expr) : Ast .expr
  | subquery (q : Ast .query) : Ast .expr
  | existsSubquery (q : Ast .query) : Ast .expr
  /-- `rest`: FILTER, OVER, WITHIN GROUP and parameters. -/
  | function (args : Ast .functionArguments) (rest : Ast (.many .expr)) : Ast .expr
  | caseWhen (operand : Ast (.opt .expr)) (conditions results : Ast (.many .expr))
      (elseResult : Ast (.opt .expr)) : Ast .expr
  | tuple (items : Ast (.many .expr)) : Ast .expr
  /-- `left op ANY (right)`. -/
  | anyOp (left right : Ast .expr) : Ast .expr
  | allOp (left right : Ast .expr) : Ast .expr
  /-- Every other expression, with its parts: IS DISTINCT FROM, SIMILAR TO, SUBSTRING, ARRAY and so on;
      a literal has none. -/
  | otherExpr (parts : Ast (.many .expr)) : Ast .expr
  -- FunctionArguments and FunctionArg
  | noArguments : Ast .functionArguments
  | argumentSubquery (q : Ast .query) : Ast .functionArguments
  /-- `clauses`: ORDER BY, LIMIT, HAVING inside the parentheses. -/
  | argumentList (args : Ast (.many .functionArg)) (clauses : Ast (.many .expr)) :
      Ast .functionArguments
  | unnamedArg (e : Ast .expr) : Ast .functionArg
  | namedArg (e : Ast .expr) : Ast .functionArg
  | wildcardArg : Ast .functionArg
  -- Query, Cte, SetExpr, SelectItem
  /-- `limits`: LIMIT, LIMIT BY, OFFSET, FETCH and SETTINGS. -/
  | withQuery (recursive : Bool) (ctes : Ast (.many .cte)) (body : Ast .setExpr)
      (orderBy limits : Ast (.many .expr)) : Ast .query
  | cte (name : String) (q : Ast .query) : Ast .cte
  /-- `rest`: DISTINCT ON, TOP, LATERAL VIEW, PREWHERE, the hive clauses, WINDOW, QUALIFY, CONNECT BY. -/
  | select (projection : Ast (.many .selectItem)) (into : Option ObjectName)
      (relations : Ast (.many .tableWithJoins)) (selection : Ast (.opt .expr))
      (groupBy : Ast (.many .expr)) (having : Ast (.opt .expr)) (rest : Ast (.many .expr)) :
      Ast .setExpr
  | innerQuery (q : Ast .query) : Ast .setExpr
  | setOperation (left right : Ast .setExpr) : Ast .setExpr
  /-- The rows of VALUES, one after the other. -/
  | values (rows : Ast (.many .expr)) : Ast .setExpr
  /-- `TABLE t`; the crate keeps this name as strings, not as an `ObjectName`. -/
  | tableOnly (name : ObjectName) : Ast .setExpr
  /-- `SetExpr::Insert` and `SetExpr::Update`. -/
  | modification (s : Ast .statement) : Ast .setExpr
  /-- `UnnamedExpr` and `ExprWithAlias`. -/
  | item (e : Ast .expr) : Ast .selectItem
  /-- `Wildcard` and `QualifiedWildcard`, with the expressions of REPLACE. -/
  | wildcard (replaced : Ast (.many .expr)) : Ast .selectItem
  -- TableWithJoins, Join, TableFactor
  | tableWithJoins (relation : Ast .tableFactor) (joins : Ast (.many .join)) : Ast .tableWithJoins
  | join (relation : Ast .tableFactor) (operator : Ast .joinOperator) : Ast .join
  /-- A join whose constraint is ON, or another one. -/
  | constrained (on : Ast (.opt .expr)) : Ast .joinOperator
  | asOf (matchCondition : Ast .expr) (on : Ast (.opt .expr)) : Ast .joinOperator
  /-- CROSS JOIN and the APPLY joins. -/
  | unconditional : Ast .joinOperator
  /-- `rest`: arguments and hints. -/
  | table (name : ObjectName) (rest : Ast (.many .expr)) : Ast .tableFactor
  | derived (q : Ast .query) : Ast .tableFactor
  | nestedJoin (t : Ast .tableWithJoins) : Ast .tableFactor
  /-- TABLE(..), a table function, UNNEST, JSON_TABLE. -/
  | tableFunction (parts : Ast (.many .expr)) : Ast .tableFactor
  /-- PIVOT, UNPIVOT and MATCH_RECOGNIZE over a table. -/
  | pivot (t : Ast .tableFactor) (parts : Ast (.many .expr)) (source : Ast (.opt .query)) :
      Ast .tableFactor
  -- Statement
  | assign (targets : List ObjectName) (value : Ast .expr) : Ast .assignment
  | queryStatement (q : Ast .query) : Ast .statement
  /-- `rest`: ON CONFLICT, ON DUPLICATE KEY, PARTITION. -/
  | insert (name : ObjectName) (columns : List String) (source : Ast (.opt .query))
      (rest : Ast (.many .expr)) (returning : Ast (.many .selectItem)) : Ast .statement
  | update (target : Ast .tableWithJoins) (assignments : Ast (.many .assignment))
      (relation : Ast (.opt .tableWithJoins)) (selection : Ast (.opt .expr))
      (returning : Ast (.many .selectItem)) : Ast .statement
  /-- `rest`: ORDER BY and LIMIT. -/
  | delete (tables : List ObjectName) (relations usingTables : Ast (.many .tableWithJoins))
      (selection : Ast (.opt .expr)) (returning : Ast (.many .selectItem))
      (rest : Ast (.many .expr)) : Ast .statement
  /-- `source`: AS SELECT; `references`: LIKE, CLONE and foreign keys; `exprs`: defaults and checks. -/
  | createTable (name : ObjectName) (source : Ast (.opt .query)) (references : List ObjectName)
      (exprs : Ast (.many .expr)) : Ast .statement
  /-- `mentions`: the TO of a materialized view; `rest`: the options. -/
  | createView (name : ObjectName) (q : Ast .query) (mentions : List ObjectName)
      (rest : Ast (.many .expr)) : Ast .statement
  | createIndex (name : ObjectName) (exprs : Ast (.many .expr)) : Ast .statement
  | drop (names : List ObjectName) : Ast .statement
  | truncate (names : List ObjectName) (partitions : Ast (.many .expr)) : Ast .statement
  | alterTable (name : ObjectName) (references : List ObjectName) (exprs : Ast (.many .expr)) :
      Ast .statement
  /-- START TRANSACTION, COMMIT, ROLLBACK, SAVEPOINT and RELEASE. -/
  | control : Ast .statement
  | explain (s : Ast .statement) : Ast .statement
  /-- Every other statement: the table names that the crate's visitor reports as relations, those in
      other fields, and the parts. -/
  | otherStatement (relations mentions : List ObjectName) (factors : Ast (.many .tableFactor))
      (exprs : Ast (.many .expr)) (queries : Ast (.many .query)) : Ast .statement

/-! ## Where tables are named -/

/-- How the walker gets to a phrase: by its own functions, by the crate's visitor, by both, or not at
    all. -/
inductive Reach where
  | walked
  | visited
  | both
  | skipped
deriving DecidableEq

/-- A part that the walker's own functions do not follow. -/
def Reach.unfollowed : Reach → Reach
  | .walked => .skipped
  | .visited => .visited
  | .both => .visited
  | .skipped => .skipped

def Reach.toVisitor : Reach → Reach
  | .walked => .visited
  | .visited => .visited
  | .both => .visited
  | .skipped => .skipped

/-- A part that is given to the visitor and then walked. -/
def Reach.alsoVisited : Reach → Reach
  | .walked => .both
  | .visited => .visited
  | .both => .both
  | .skipped => .skipped

/-- The walker itself is here: it pushes names that the visitor does not report. -/
def Reach.own : Reach → Bool
  | .walked => true
  | .visited => false
  | .both => true
  | .skipped => false

def Reach.got : Reach → Bool
  | .skipped => false
  | _ => true

structure Occurrence where
  name : ObjectName
  base : Bool
  /-- The walker gets to it. -/
  shown : Bool
deriving DecidableEq

def isBase (scope : List String) : ObjectName → Bool
  | [name] => !scope.any (eqIgnoreAsciiCase name)
  | _ => true

/-- The name that a phrase of a list binds for those after it. -/
def boundBy {p : Phrase} : Ast p → List String
  | .cte name _ => [name]
  | _ => []

def cteNames {p : Phrase} : Ast p → List String
  | .cons head tail => boundBy head ++ cteNames tail
  | _ => []

def targets (shown : Bool) (names : List ObjectName) : List Occurrence := names.map fun name => ⟨name, true, shown⟩

/-- Every place in a phrase where a table is named, when the walker gets to the phrase by `r` and the
    names of `scope` are those of a WITH. -/
def occurrences {p : Phrase} (r : Reach) (scope : List String) : Ast p → List Occurrence
  | .nil => []
  | .cons head tail => occurrences r scope head ++ occurrences r (boundBy head ++ scope) tail
  | .absent => []
  | .present x => occurrences r scope x
  | .identifier _ => []
  | .compoundIdentifier _ => []
  | .unary _ e => occurrences r scope e
  | .binaryOp left right => occurrences r scope left ++ occurrences r scope right
  | .inList e list => occurrences r scope e ++ occurrences r scope list
  | .inSubquery e q => occurrences r scope e ++ occurrences r scope q
  | .between e low high =>
    occurrences r scope e ++ (occurrences r scope low ++ occurrences r scope high)
  | .like e pattern => occurrences r scope e ++ occurrences r scope pattern
  | .subquery q => occurrences r scope q
  | .existsSubquery q => occurrences r scope q
  | .function args rest => occurrences r scope args ++ occurrences r.unfollowed scope rest
  | .caseWhen operand conditions results elseResult =>
    occurrences r scope operand ++ (occurrences r scope conditions ++
      (occurrences r scope results ++ occurrences r scope elseResult))
  | .tuple items => occurrences r scope items
  | .anyOp left right =>
    occurrences r.unfollowed scope left ++ occurrences r.unfollowed scope right
  | .allOp left right =>
    occurrences r.unfollowed scope left ++ occurrences r.unfollowed scope right
  | .otherExpr parts => occurrences r.unfollowed scope parts
  | .noArguments => []
  | .argumentSubquery q => occurrences r scope q
  | .argumentList args clauses => occurrences r scope args ++ occurrences r.unfollowed scope clauses
  | .unnamedArg e => occurrences r scope e
  | .namedArg e => occurrences r.unfollowed scope e
  | .wildcardArg => []
  | .withQuery recursive ctes body orderBy limits =>
    let inner := cteNames ctes ++ scope
    occurrences r (if recursive then inner else scope) ctes ++ (occurrences r inner body ++
      (occurrences r.unfollowed inner orderBy ++ occurrences r.unfollowed inner limits))
  | .cte _ q => occurrences r scope q
  | .select projection into relations selection groupBy having rest =>
    occurrences r scope projection ++ (occurrences r scope relations ++
      (occurrences r scope selection ++ (occurrences r scope having ++
        (targets false into.toList ++ (occurrences r.unfollowed scope groupBy ++
          occurrences r.unfollowed scope rest)))))
  | .innerQuery q => occurrences r scope q
  | .setOperation left right => occurrences r scope left ++ occurrences r scope right
  | .values rows => occurrences r.unfollowed scope rows
  | .tableOnly name => [⟨name, isBase scope name, false⟩]
  | .modification s => occurrences r scope s
  | .item e => occurrences r scope e
  | .wildcard replaced => occurrences r.unfollowed scope replaced
  | .tableWithJoins relation joins => occurrences r scope relation ++ occurrences r scope joins
  | .join relation operator => occurrences r scope relation ++ occurrences r scope operator
  | .constrained on => occurrences r scope on
  | .asOf matchCondition on => occurrences r scope matchCondition ++ occurrences r scope on
  | .unconditional => []
  | .table name rest =>
    ⟨name, isBase scope name, r.got⟩ :: occurrences r.unfollowed scope rest
  | .derived q => occurrences r scope q
  | .nestedJoin t => occurrences r scope t
  | .tableFunction parts => occurrences r.unfollowed scope parts
  | .pivot t parts source =>
    occurrences r.unfollowed scope t ++ (occurrences r.unfollowed scope parts ++
      occurrences r.unfollowed scope source)
  | .assign _ value => occurrences r scope value
  | .queryStatement q => occurrences r scope q
  | .insert name _ source rest returning =>
    ⟨name, true, r.got⟩ :: (occurrences r scope source ++
      (occurrences r.unfollowed scope rest ++ occurrences r.unfollowed scope returning))
  | .update target assignments relation selection returning =>
    occurrences r scope target ++ (occurrences r scope assignments ++
      (occurrences r scope relation ++ (occurrences r scope selection ++
        occurrences r.unfollowed scope returning)))
  | .delete tables relations usingTables selection returning rest =>
    targets r.own tables ++ (occurrences r.toVisitor scope relations ++
      (occurrences r.alsoVisited scope usingTables ++ (occurrences r.toVisitor scope selection ++
        (occurrences r.toVisitor scope returning ++ occurrences r.toVisitor scope rest))))
  | .createTable name source references exprs =>
    ⟨name, true, r.got⟩ :: (targets false references ++
      (occurrences r.unfollowed scope source ++ occurrences r.unfollowed scope exprs))
  | .createView name q mentions rest =>
    ⟨name, true, r.own⟩ :: (occurrences r scope q ++
      (targets false mentions ++ occurrences r.unfollowed scope rest))
  | .createIndex name exprs => ⟨name, true, r.got⟩ :: occurrences r.unfollowed scope exprs
  | .drop names => targets r.own names
  | .truncate names partitions => targets r.got names ++ occurrences r.toVisitor scope partitions
  | .alterTable name references exprs =>
    ⟨name, true, r.got⟩ :: (targets false references ++ occurrences r.unfollowed scope exprs)
  | .control => []
  | .explain s => occurrences r.toVisitor scope s
  | .otherStatement relations mentions factors exprs queries =>
    targets r.got relations ++ (targets false mentions ++ (occurrences r.toVisitor scope factors ++
      (occurrences r.toVisitor scope exprs ++ occurrences r.toVisitor scope queries)))

end DataNexus.Extract
