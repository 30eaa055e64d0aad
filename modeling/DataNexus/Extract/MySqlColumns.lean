/-
  What the walker over the MySQL tree records, and what it misses.

  1. **What should be recorded** — `occurrences` lists every place where a table is named, `selects` every SELECT block.

  2. **What is recorded** — `blocks` lists the blocks that the walker gets to.  Each gives its columns to every object that
     its FROM pushed and ASSIGNS its wildcard flag to them (`Block.final`).

  3. **The proof** — two inductions on the phrase: `adds_walk` for the names and `walks_walk` for the columns.
-/
import DataNexus.Extract.MySql

namespace DataNexus.Extract.MySql

open DataNexus.Text DataNexus.Pdp

/-! ## Where tables are named -/

/-- The name that a phrase of a list binds for those after it. -/
def boundBy {p : Phrase} : Ast p → List String
  | .cte name _ => [name]
  | _ => []

def cteNames {p : Phrase} : Ast p → List String
  | .cons head tail => boundBy head ++ cteNames tail
  | _ => []

/-- Every place in a phrase where a table is named, when the names of `scope` are those of a WITH;
    `shown`: the walker gets to the phrase. -/
def occurrences {p : Phrase} (shown : Bool) (scope : List String) : Ast p → List Occurrence
  | .nil => []
  | .cons head tail => occurrences shown scope head ++ occurrences shown (boundBy head ++ scope) tail
  | .absent => []
  | .present x => occurrences shown scope x
  | .simpleIdent _ => []
  | .binaryOperation left right => occurrences shown scope left ++ occurrences shown scope right
  | .unaryOperation e => occurrences shown scope e
  | .funcCall args => occurrences shown scope args
  | .wrapped e => occurrences shown scope e
  | .inExpr e exprs => occurrences shown scope e ++ occurrences shown scope exprs
  | .between e left right =>
    occurrences shown scope e ++ (occurrences shown scope left ++ occurrences shown scope right)
  | .like e pattern escape =>
    occurrences shown scope e ++ (occurrences shown scope pattern ++ occurrences shown scope escape)
  | .pair left right => occurrences shown scope left ++ occurrences shown scope right
  | .row exprs => occurrences shown scope exprs
  | .caseExpr e whens elseExpr =>
    occurrences shown scope e ++ (occurrences shown scope whens ++ occurrences shown scope elseExpr)
  | .whenThen condition value => occurrences shown scope condition ++ occurrences shown scope value
  | .subQueryExpr q => occurrences shown scope q
  | .existsSubQuery q => occurrences shown scope q
  | .compSubQuery e q => occurrences shown scope e ++ occurrences shown scope q
  | .agg exprs orders => occurrences shown scope exprs ++ occurrences false scope orders
  | .leaf => []
  | .query items refs condition groups having union orders =>
    occurrences shown scope items ++ (occurrences shown scope refs ++ (occurrences shown scope condition ++
      (occurrences shown scope having ++ (occurrences shown scope union ++
        (occurrences false scope groups ++ occurrences false scope orders)))))
  | .subQuery q union orders =>
    occurrences shown scope q ++ (occurrences false scope union ++ occurrences false scope orders)
  | .withQuery recursive ctes body =>
    let inner := cteNames ctes ++ scope
    occurrences shown inner body ++ occurrences false (if recursive then inner else scope) ctes
  | .valueConstructor rows => occurrences false scope rows
  | .explicitTable ident => [⟨ident.parts, isBase scope ident.parts, shown⟩]
  | .noSelect => []
  | .cte _ q => occurrences false scope q
  | .wild => []
  | .itemExpr e => occurrences shown scope e
  | .factor f => occurrences shown scope f
  | .joined left right on =>
    occurrences shown scope left ++ (occurrences shown scope right ++ occurrences false scope on)
  | .singleTable ident => [⟨ident.parts, isBase scope ident.parts, shown⟩]
  | .derivedTable q => occurrences shown scope q
  | .joinedParens left right on =>
    occurrences shown scope left ++ (occurrences shown scope right ++ occurrences false scope on)
  | .refsParens refs => occurrences shown scope refs
  | .tableFunc e => occurrences false scope e
  | .updateElem _ e => occurrences shown scope e
  | .selectStmt q => occurrences shown scope q
  | .insertStmt table _ values query _ updates onDuplicate =>
    occurrences shown scope query ++ (⟨table.parts, true, shown⟩ :: (occurrences false scope values ++
      (occurrences false scope updates ++ occurrences false scope onDuplicate)))
  | .updateStmt recursive ctes refs updates condition orders =>
    let inner := cteNames ctes ++ scope
    occurrences shown inner refs ++ (occurrences shown inner updates ++
      (occurrences shown inner condition ++ (occurrences false inner orders ++
        occurrences false (if recursive then inner else scope) ctes)))
  | .deleteStmt recursive ctes table refs condition orders =>
    let inner := cteNames ctes ++ scope
    table.toList.map (fun ident => ⟨ident.parts, isBase inner ident.parts, shown⟩) ++
      (occurrences shown inner refs ++ (occurrences shown inner condition ++
        (occurrences false inner orders ++
          occurrences false (if recursive then inner else scope) ctes)))
  | .otherStmt tables exprs queries =>
    targets false (tables.map TableIdent.parts) ++
      (occurrences false scope exprs ++ occurrences false scope queries)

/-! ## The blocks of the statements -/

/-- Every column identifier of an expression, a subquery apart; `collected` as in `Column`. -/
def columns {p : Phrase} (collected : Bool) : Ast p → List Column
  | .cons head tail => columns collected head ++ columns collected tail
  | .present x => columns false x
  | .itemExpr e => columns collected e
  | .simpleIdent v => (mySqlValueIdent v).map (⟨·, collected⟩)
  | .binaryOperation left right => columns collected left ++ columns collected right
  | .unaryOperation e => columns collected e
  | .funcCall args => columns collected args
  | .wrapped e => columns false e
  | .inExpr e exprs => columns false e ++ columns false exprs
  | .between e left right => columns false e ++ (columns false left ++ columns false right)
  | .like e pattern escape => columns false e ++ (columns false pattern ++ columns false escape)
  | .pair left right => columns false left ++ columns false right
  | .row exprs => columns false exprs
  | .caseExpr e whens elseExpr => columns false e ++ (columns false whens ++ columns false elseExpr)
  | .whenThen condition value => columns false condition ++ columns false value
  | .compSubQuery e _ => columns false e
  | .agg exprs orders => columns false exprs ++ columns false orders
  | _ => []

/-- The base tables of a FROM: those of its subqueries belong to other blocks. -/
def fromTables {p : Phrase} (scope : List String) : Ast p → List ObjectName
  | .cons head tail => fromTables scope head ++ fromTables scope tail
  | .factor f => fromTables scope f
  | .joined left right _ => fromTables scope left ++ fromTables scope right
  | .singleTable ident => if isBase scope ident.parts then [ident.parts] else []
  | .joinedParens left right _ => fromTables scope left ++ fromTables scope right
  | .refsParens refs => fromTables scope refs
  | _ => []

/-- Every SELECT block of a phrase, when the names of `scope` are those of a WITH. -/
def selects {p : Phrase} (scope : List String) : Ast p → List Select
  | .nil => []
  | .cons head tail => selects scope head ++ selects (boundBy head ++ scope) tail
  | .absent => []
  | .present x => selects scope x
  | .simpleIdent _ => []
  | .binaryOperation left right => selects scope left ++ selects scope right
  | .unaryOperation e => selects scope e
  | .funcCall args => selects scope args
  | .wrapped e => selects scope e
  | .inExpr e exprs => selects scope e ++ selects scope exprs
  | .between e left right => selects scope e ++ (selects scope left ++ selects scope right)
  | .like e pattern escape => selects scope e ++ (selects scope pattern ++ selects scope escape)
  | .pair left right => selects scope left ++ selects scope right
  | .row exprs => selects scope exprs
  | .caseExpr e whens elseExpr => selects scope e ++ (selects scope whens ++ selects scope elseExpr)
  | .whenThen condition value => selects scope condition ++ selects scope value
  | .subQueryExpr q => selects scope q
  | .existsSubQuery q => selects scope q
  | .compSubQuery e q => selects scope e ++ selects scope q
  | .agg exprs orders => selects scope exprs ++ selects scope orders
  | .leaf => []
  | .query items refs condition groups having union orders =>
    ⟨fromTables scope refs, columns true items, hasWild items⟩ ::
      (selects scope items ++ (selects scope refs ++ (selects scope condition ++ (selects scope groups ++
        (selects scope having ++ (selects scope union ++ selects scope orders))))))
  | .subQuery q union orders => selects scope q ++ (selects scope union ++ selects scope orders)
  | .withQuery recursive ctes body =>
    let inner := cteNames ctes ++ scope
    selects (if recursive then inner else scope) ctes ++ selects inner body
  | .valueConstructor rows => selects scope rows
  | .explicitTable _ => []
  | .noSelect => []
  | .cte _ q => selects scope q
  | .wild => []
  | .itemExpr e => selects scope e
  | .factor f => selects scope f
  | .joined left right on => selects scope left ++ (selects scope right ++ selects scope on)
  | .singleTable _ => []
  | .derivedTable q => selects scope q
  | .joinedParens left right on => selects scope left ++ (selects scope right ++ selects scope on)
  | .refsParens refs => selects scope refs
  | .tableFunc e => selects scope e
  | .updateElem _ e => selects scope e
  | .selectStmt q => selects scope q
  | .insertStmt _ _ values query _ updates onDuplicate =>
    selects scope values ++ (selects scope query ++ (selects scope updates ++ selects scope onDuplicate))
  | .updateStmt recursive ctes refs updates condition orders =>
    let inner := cteNames ctes ++ scope
    selects (if recursive then inner else scope) ctes ++ (selects inner refs ++ (selects inner updates ++
      (selects inner condition ++ selects inner orders)))
  | .deleteStmt recursive ctes _ refs condition orders =>
    let inner := cteNames ctes ++ scope
    selects (if recursive then inner else scope) ctes ++ (selects inner refs ++
      (selects inner condition ++ selects inner orders))
  | .otherStmt _ exprs queries => selects scope exprs ++ selects scope queries

/-! ## The blocks of the walk -/

/-- The tables that the walk of a phrase pushes for SELECT, in order; `action` as in `walk`. -/
def pushed {p : Phrase} : Ast p → StatementAction → List ObjectName
  | .cons head tail, action => pushed head action ++ pushed tail action
  | .present x, action => pushed x action
  | .binaryOperation left right, action => pushed left action ++ pushed right action
  | .unaryOperation e, action => pushed e action
  | .funcCall args, action => pushed args action
  | .wrapped e, action => pushed e action
  | .inExpr e exprs, action => pushed e action ++ pushed exprs action
  | .between e left right, action => pushed e action ++ (pushed left action ++ pushed right action)
  | .like e pattern escape, action =>
    pushed e action ++ (pushed pattern action ++ pushed escape action)
  | .pair left right, action => pushed left action ++ pushed right action
  | .row exprs, action => pushed exprs action
  | .caseExpr e whens elseExpr, action =>
    pushed e action ++ (pushed whens action ++ pushed elseExpr action)
  | .whenThen condition value, action => pushed condition action ++ pushed value action
  | .subQueryExpr q, _ => pushed q .select
  | .existsSubQuery q, _ => pushed q .select
  | .compSubQuery e q, action => pushed e action ++ pushed q .select
  | .agg exprs _, action => pushed exprs action
  | .query items refs condition _ having union _, action =>
    pushed items action ++ (pushed refs action ++ (pushed condition action ++
      (pushed having action ++ pushed union action)))
  | .itemExpr e, action => pushed e action
  | .subQuery q _ _, action => pushed q action
  | .withQuery _ _ body, action => pushed body action
  | .explicitTable ident, action => if action = .select then [ident.parts] else []
  | .factor f, action => pushed f action
  | .joined left right _, action => pushed left action ++ pushed right action
  | .singleTable ident, action => if action = .select then [ident.parts] else []
  | .derivedTable q, _ => pushed q .select
  | .joinedParens left right _, action => pushed left action ++ pushed right action
  | .refsParens refs, action => pushed refs action
  | .updateElem _ e, action => pushed e action
  | .selectStmt q, _ => pushed q .select
  | .insertStmt _ _ _ query _ _ _, _ => pushed query .select
  | .updateStmt _ _ refs updates condition _, _ =>
    pushed refs .update ++ (pushed updates .select ++ pushed condition .select)
  | .deleteStmt _ _ _ refs condition _, _ => pushed refs .delete ++ pushed condition .select
  | _, _ => []

structure Block where
  /-- The tables that its FROM pushes, also from subqueries in it. -/
  relations : List ObjectName
  columns : List Column
  wildcard : Bool
  /-- No block around it assigns the flag of these tables again. -/
  final : Bool

def Block.overwritten (b : Block) : Block := { b with final := false }

def blocks {p : Phrase} : Ast p → StatementAction → List Block
  | .cons head tail, action => blocks head action ++ blocks tail action
  | .present x, action => blocks x action
  | .binaryOperation left right, action => blocks left action ++ blocks right action
  | .unaryOperation e, action => blocks e action
  | .funcCall args, action => blocks args action
  | .wrapped e, action => blocks e action
  | .inExpr e exprs, action => blocks e action ++ blocks exprs action
  | .between e left right, action => blocks e action ++ (blocks left action ++ blocks right action)
  | .like e pattern escape, action =>
    blocks e action ++ (blocks pattern action ++ blocks escape action)
  | .pair left right, action => blocks left action ++ blocks right action
  | .row exprs, action => blocks exprs action
  | .caseExpr e whens elseExpr, action =>
    blocks e action ++ (blocks whens action ++ blocks elseExpr action)
  | .whenThen condition value, action => blocks condition action ++ blocks value action
  | .subQueryExpr q, _ => blocks q .select
  | .existsSubQuery q, _ => blocks q .select
  | .compSubQuery e q, action => blocks e action ++ blocks q .select
  | .agg exprs _, action => blocks exprs action
  | .query items refs condition _ having union _, action =>
    let here :=
      if action = .select then
        (blocks refs action).map Block.overwritten ++
          [⟨pushed refs action, columns true items, hasWild items, true⟩]
      else blocks refs action
    blocks items action ++ (here ++ (blocks condition action ++
      (blocks having action ++ blocks union action)))
  | .itemExpr e, action => blocks e action
  | .subQuery q _ _, action => blocks q action
  | .withQuery _ _ body, action => blocks body action
  | .factor f, action => blocks f action
  | .joined left right _, action => blocks left action ++ blocks right action
  | .derivedTable q, _ => blocks q .select
  | .joinedParens left right _, action => blocks left action ++ blocks right action
  | .refsParens refs, action => blocks refs action
  | .updateElem _ e, action => blocks e action
  | .selectStmt q, _ => blocks q .select
  | .insertStmt _ _ _ query _ _ _, _ => blocks query .select
  | .updateStmt _ _ refs updates condition _, _ =>
    blocks refs .update ++ (blocks updates .select ++ blocks condition .select)
  | .deleteStmt _ _ _ refs condition _, _ => blocks refs .delete ++ blocks condition .select
  | _, _ => []

/-- The block gives the table the column, or a wildcard that no block around it overwrites. -/
structure Block.Gives (b : Block) (name : ObjectName) (what : Option String) : Prop where
  brought : Mentioned b.relations name
  collects : Collects b.columns b.wildcard what
  kept : what = none → b.final = true

/-! ## The names -/

theorem qualifiedTable_objectFromMySqlIdent (ident : TableIdent) (op : StatementAction) :
    (objectFromMySqlIdent ident op).qualifiedTable = qualified ident.parts := by
  obtain ⟨schema, name⟩ := ident
  cases schema <;> rfl

theorem adds_push (ident : TableIdent) (op : StatementAction) (base : Bool) :
    Adds (fun set => push set (objectFromMySqlIdent ident op)) (shownNames [⟨ident.parts, base, true⟩]) :=
  adds_append _ ident.parts (qualifiedTable_objectFromMySqlIdent ident op)

theorem addFields_table (fields : List InsertIdent) (obj : ObjectAccess) :
    (addFields fields obj).qualifiedTable = obj.qualifiedTable ∧ (addFields fields obj).op = obj.op := by
  induction fields generalizing obj with
  | nil => exact ⟨rfl, rfl⟩
  | cons field fields ih =>
    cases field with
    | ident v => exact ih { obj with columns := (mySqlValueIdent v).foldl pushCol obj.columns }
    | tableWild => exact ih { obj with hasWildcard := true }

theorem adds_mapFrom (before : Nat) {f : ObjectAccess → ObjectAccess}
    (hf : ∀ o, (f o).qualifiedTable = o.qualifiedTable) : Adds (fun set =>
      { set with objects := set.objects.take before ++ (set.objects.drop before).map f }) [] := by
  refine adds_of_tables ?_
  intro set
  dsimp only
  rw [List.map_append, List.map_map]
  conv_rhs => rw [← List.take_append_drop before set.objects, List.map_append]
  congr 1
  refine List.map_congr_left ?_
  intro o _
  exact hf o

theorem adds_assignProjection (before : Nat) (action : StatementAction) (wildcard : Bool)
    (columns : List String) : Adds (assignProjection before action wildcard columns) [] := by
  refine adds_mapFrom before ?_
  intro o
  split <;> rfl

theorem adds_addUpdated (before : Nat) (columns : List String) : Adds (addUpdated before columns) [] := by
  refine adds_mapFrom before ?_
  intro o
  split <;> rfl

variable {p : Phrase} {f : ObjectSet → ObjectSet}

theorem shownNames_hidden (a : Ast p) (scope : List String) : shownNames (occurrences false scope a) = [] := by
  induction a generalizing scope with
  | deleteStmt recursive ctes table refs condition orders ihCtes ihRefs ihCondition ihOrders =>
    cases table <;> simp_all [occurrences]
  | _ => simp_all [occurrences]

theorem shownNames_hidden_two {q : Phrase} (a : Ast p) (b : Ast q) (scope scope' : List String) :
    shownNames (occurrences false scope a ++ occurrences false scope' b) = [] := by
  rw [shownNames_append, shownNames_hidden, shownNames_hidden]
  rfl

/-- **Walking a phrase adds exactly the names it shows.** -/
theorem adds_walk (a : Ast p) (action : StatementAction) (scope : List String) :
    Adds (walk a action) (shownNames (occurrences true scope a)) := by
  induction a generalizing action scope with
  | nil => exact adds_nothing
  | cons head tail ihHead ihTail => exact (ihHead action scope).both (ihTail action _)
  | absent => exact adds_nothing
  | present x ih => exact ih action scope
  | simpleIdent v => exact adds_nothing
  | binaryOperation left right ihLeft ihRight =>
    exact (ihLeft action scope).both (ihRight action scope)
  | unaryOperation e ih => exact ih action scope
  | funcCall args ih => exact ih action scope
  | wrapped e ih => exact ih action scope
  | inExpr e exprs ihE ihExprs => exact (ihE action scope).both (ihExprs action scope)
  | between e left right ihE ihLeft ihRight =>
    exact (ihE action scope).both ((ihLeft action scope).both (ihRight action scope))
  | like e pattern escape ihE ihPattern ihEscape =>
    exact (ihE action scope).both ((ihPattern action scope).both (ihEscape action scope))
  | pair left right ihLeft ihRight => exact (ihLeft action scope).both (ihRight action scope)
  | row exprs ih => exact ih action scope
  | caseExpr e whens elseExpr ihE ihWhens ihElse =>
    exact (ihE action scope).both ((ihWhens action scope).both (ihElse action scope))
  | whenThen condition value ihCondition ihValue =>
    exact (ihCondition action scope).both (ihValue action scope)
  | subQueryExpr q ih => exact ih .select scope
  | existsSubQuery q ih => exact ih .select scope
  | compSubQuery e q ihE ihQ => exact (ihE action scope).both (ihQ .select scope)
  | agg exprs orders ihExprs _ => exact (ihExprs action scope).hidden (shownNames_hidden orders scope)
  | leaf => exact adds_nothing
  | query items refs condition groups having union orders ihItems ihRefs ihCondition _ ihHaving ihUnion _ =>
    intro set name
    have hfrom := (ihRefs action scope).andThen (adds_assignProjection
      (walk items action set).objects.length action (hasWild items) (collectMySqlExprColumns items []))
    rw [List.append_nil] at hfrom
    have hunion := (ihUnion action scope).hidden (shownNames_hidden_two groups orders scope scope)
    exact (ihItems action scope).both
      (Adds.both hfrom ((ihCondition action scope).both ((ihHaving action scope).both hunion))) set name
  | subQuery q union orders ihQ _ _ =>
    exact (ihQ action scope).hidden (shownNames_hidden_two union orders scope scope)
  | withQuery recursive ctes body _ ihBody => exact (ihBody action _).hidden (shownNames_hidden ctes _)
  | valueConstructor rows _ => exact adds_hidden (shownNames_hidden rows scope)
  | explicitTable ident => exact adds_push ident action _
  | noSelect => exact adds_nothing
  | cte name q _ => exact adds_hidden (shownNames_hidden q scope)
  | wild => exact adds_nothing
  | itemExpr e ih => exact ih action scope
  | factor f ih => exact ih action scope
  | joined left right on ihLeft ihRight _ =>
    exact (ihLeft action scope).both ((ihRight action scope).hidden (shownNames_hidden on scope))
  | singleTable ident => exact adds_push ident action _
  | derivedTable q ih => exact ih .select scope
  | joinedParens left right on ihLeft ihRight _ =>
    exact (ihLeft action scope).both ((ihRight action scope).hidden (shownNames_hidden on scope))
  | refsParens refs ih => exact ih action scope
  | tableFunc e _ => exact adds_hidden (shownNames_hidden e scope)
  | updateElem target e ih => exact ih action scope
  | selectStmt q ih => exact ih .select scope
  | insertStmt table fields values query queryFields updates onDuplicate _ ihQuery _ _ =>
    have hobj : ∀ columns, ({ addFields queryFields (addFields fields (objectFromMySqlIdent table .insert))
        with columns := columns } : ObjectAccess).qualifiedTable = qualified table.parts := by
      intro columns
      show (addFields queryFields (addFields fields (objectFromMySqlIdent table .insert))).qualifiedTable = _
      rw [(addFields_table queryFields _).1, (addFields_table fields _).1, qualifiedTable_objectFromMySqlIdent]
    have hrest : shownNames (occurrences false scope values ++ (occurrences false scope updates ++
        occurrences false scope onDuplicate)) = [] := by
      rw [shownNames_append, shownNames_hidden, shownNames_hidden_two]
      rfl
    have hpush : Adds (fun set => push set
        { addFields queryFields (addFields fields (objectFromMySqlIdent table .insert)) with
          columns := (updatedColumns updates).foldl pushCol
            (addFields queryFields (addFields fields (objectFromMySqlIdent table .insert))).columns })
        (shownNames [⟨table.parts, true, true⟩]) := adds_append _ table.parts (hobj _)
    exact (ihQuery .select scope).both (hpush.hidden hrest)
  | updateStmt recursive ctes refs updates condition orders _ ihRefs ihUpdates ihCondition _ =>
    intro set name
    have hupdates := (ihUpdates .select (cteNames ctes ++ scope)).andThen
      (adds_addUpdated set.objects.length ((updatedColumns updates).foldl pushCol []))
    rw [List.append_nil] at hupdates
    have hcondition := (ihCondition .select (cteNames ctes ++ scope)).hidden
      (shownNames_hidden_two orders ctes (cteNames ctes ++ scope)
        (if recursive then cteNames ctes ++ scope else scope))
    exact (ihRefs .update _).both (Adds.both hupdates hcondition) set name
  | deleteStmt recursive ctes table refs condition orders _ ihRefs ihCondition _ =>
    have hcondition := (ihCondition .select (cteNames ctes ++ scope)).hidden
      (shownNames_hidden_two orders ctes (cteNames ctes ++ scope)
        (if recursive then cteNames ctes ++ scope else scope))
    have hrest := (ihRefs .delete (cteNames ctes ++ scope)).both hcondition
    cases table with
    | none => exact hrest
    | some ident => exact (adds_push ident .delete _).both hrest
  | otherStmt tables exprs queries _ _ =>
    refine adds_hidden ?_
    rw [occurrences, shownNames_append, shownNames_targets, shownNames_hidden_two]
    rfl

theorem appears_extractMySql (statements : Ast (.many .stmt)) (name : ObjectName) :
    Appears name (extractMySql statements) ↔
      ∃ o ∈ occurrences true [] statements, o.shown = true ∧ sameTable o.name name = true := by
  rw [extractMySql, adds_walk statements .other []]
  exact shown_from_empty _ name

/-! ## The columns -/

/-- `collect_mysql_expr_columns` pushes the columns at collected places, in order. -/
theorem collectMySqlExprColumns_eq (a : Ast p) (cols : List String) :
    collectMySqlExprColumns a cols = (collectedNames (columns true a)).foldl pushCol cols := by
  have hnames : ∀ (names : List String), collectedNames (names.map fun n => ⟨n, true⟩) = names := by
    intro names
    induction names with
    | nil => rfl
    | cons n names ih => exact congrArg (n :: ·) ih
  have hfalse : ∀ {q : Phrase} (a : Ast q), collectedNames (columns false a) = [] := by
    have hnone : ∀ (names : List String), collectedNames (names.map fun n => ⟨n, false⟩) = [] := by
      intro names
      induction names with
      | nil => rfl
      | cons n names ih => exact ih
    intro q a
    induction a <;> simp_all only [columns, collectedNames_append, List.append_nil]
    all_goals rfl
  induction a generalizing cols with
  | cons head tail ihHead ihTail =>
    rw [collectMySqlExprColumns, columns, collectedNames_append, List.foldl_append, ihHead, ihTail]
  | itemExpr e ih => exact ih cols
  | simpleIdent v => rw [collectMySqlExprColumns, columns, hnames]
  | binaryOperation left right ihLeft ihRight =>
    rw [collectMySqlExprColumns, columns, collectedNames_append, List.foldl_append, ihLeft, ihRight]
  | unaryOperation e ih => exact ih cols
  | funcCall args ih => exact ih cols
  | _ =>
    -- a constructor that `collect_mysql_expr_columns` does not look into
    simp only [columns, collectedNames_append, hfalse, List.append_nil]
    rfl

/-- The function puts objects behind those that are there, for the tables `tables`, with what the blocks
    `given` give them. -/
def Walks (f : ObjectSet → ObjectSet) (tables : List ObjectName) (given : List Block) : Prop :=
  ∀ set, ∃ new, (f set).objects = set.objects ++ new ∧ (∀ name, Named new name ↔ Mentioned tables name) ∧
    ∀ name what, Records new name what ↔ ∃ b ∈ given, b.Gives name what

theorem walks_of_others {f : ObjectSet → ObjectSet}
    (h : ∀ set, ∃ new, (f set).objects = set.objects ++ new ∧ ∀ o ∈ new, o.op ≠ .select) : Walks f [] [] := by
  intro set
  obtain ⟨new, hobjects, hnew⟩ := h set
  refine ⟨new, hobjects, ?_, ?_⟩
  · intro name
    refine iff_of_false ?_ (not_mentioned_nil name)
    rintro ⟨o, ho, hfor⟩
    exact hnew o ho hfor.1
  · intro name what
    refine iff_of_false ?_ nofun
    rintro ⟨o, ho, hfor, _⟩
    exact hnew o ho hfor.1

theorem walks_nothing : Walks id [] [] := walks_of_others fun _ => ⟨[], (List.append_nil _).symm, nofun⟩

theorem Walks.andThen {g : ObjectSet → ObjectSet} {as bs : List ObjectName} {givenF givenG : List Block}
    (hf : Walks f as givenF) (hg : Walks g bs givenG) :
    Walks (fun set => g (f set)) (as ++ bs) (givenF ++ givenG) := by
  intro set
  obtain ⟨new₁, hobjects₁, hnamed₁, hgiven₁⟩ := hf set
  obtain ⟨new₂, hobjects₂, hnamed₂, hgiven₂⟩ := hg (f set)
  refine ⟨new₁ ++ new₂, ?_, ?_, ?_⟩
  · rw [hobjects₂, hobjects₁, List.append_assoc]
  · intro name
    rw [named_append, mentioned_append, hnamed₁, hnamed₂]
  · intro name what
    rw [records_append, hgiven₁, hgiven₂]
    simp only [List.mem_append, or_and_right, exists_or]

theorem walks_push (ident : TableIdent) (action : StatementAction) :
    Walks (fun set => push set (objectFromMySqlIdent ident action))
      (if action = .select then [ident.parts] else []) [] := by
  by_cases haction : action = .select
  · rw [if_pos haction]
    intro set
    have hfor : ∀ name, IsFor name (objectFromMySqlIdent ident action) ↔
        sameTable ident.parts name = true := by
      intro name
      unfold IsFor sameTable
      rw [qualifiedTable_objectFromMySqlIdent]
      exact and_iff_right haction
    refine ⟨[objectFromMySqlIdent ident action], rfl, ?_, ?_⟩
    · intro name
      unfold Named Mentioned
      simp only [List.mem_singleton, exists_eq_left, hfor]
    · intro name what
      refine iff_of_false ?_ nofun
      rintro ⟨o, ho, _, hhas⟩
      rw [List.mem_singleton.mp ho] at hhas
      cases what with
      | none => exact absurd hhas nofun
      | some c =>
        obtain ⟨c', hc', _⟩ := hhas
        exact List.not_mem_nil hc'
  · rw [if_neg haction]
    refine walks_of_others ?_
    intro set
    refine ⟨[objectFromMySqlIdent ident action], rfl, ?_⟩
    intro o ho
    rw [List.mem_singleton.mp ho]
    exact haction

theorem Walks.mapOthers {tables : List ObjectName} {given : List Block} (hf : Walks f tables given)
    {change : ObjectAccess → ObjectAccess} (hchange : ∀ o, Keeps o (change o)) : Walks (fun set =>
      { f set with objects := (f set).objects.take set.objects.length ++
          ((f set).objects.drop set.objects.length).map change }) tables given := by
  intro set
  obtain ⟨new, hobjects, hnamed, hgiven⟩ := hf set
  have hkeeps : List.Forall₂ Keeps new (new.map change) := by
    rw [List.forall₂_map_right_iff]
    exact List.forall₂_same.mpr fun o _ => hchange o
  refine ⟨new.map change, ?_, ?_, ?_⟩
  · dsimp only
    rw [hobjects, List.take_left, List.drop_left]
  · intro name
    rw [named_of_keeps hkeeps, hnamed]
  · intro name what
    rw [records_of_keeps hkeeps, hgiven]

/-- **The FROM of a block**: the objects that it added get the columns of the projection, and its wildcard
    flag in place of their own. -/
theorem walks_assigned (items : Ast p) {tables : List ObjectName} {given : List Block} (hf : Walks f tables given) :
    Walks (fun set => assignProjection set.objects.length .select (hasWild items)
        (collectMySqlExprColumns items []) (f set)) tables
      (given.map Block.overwritten ++ [⟨tables, columns true items, hasWild items, true⟩]) := by
  intro set
  obtain ⟨new, hobjects, hnamed, hgiven⟩ := hf set
  let give : ObjectAccess → ObjectAccess := fun o =>
    if o.op == .select then
      { o with
        hasWildcard := hasWild items
        columns := (collectMySqlExprColumns items []).foldl pushCol o.columns }
    else o
  have hfor : ∀ name o, IsFor name (give o) ↔ IsFor name o := by
    intro name o
    show IsFor name (if o.op == .select then _ else o) ↔ _
    split <;> exact Iff.rfl
  have hgive : ∀ o, o.op = .select → give o = { o with
      hasWildcard := hasWild items
      columns := (collectMySqlExprColumns items []).foldl pushCol o.columns } :=
    fun o hop => if_pos (beq_iff_eq.mpr hop)
  refine ⟨new.map give, ?_, ?_, ?_⟩
  · show (f set).objects.take _ ++ ((f set).objects.drop _).map give = _
    rw [hobjects, List.take_left, List.drop_left]
  · intro name
    rw [← hnamed]
    unfold Named
    simp only [List.mem_map, exists_exists_and_eq_and, hfor]
  · intro name what
    have hblock : (∃ b ∈ given.map Block.overwritten ++
        [(⟨tables, columns true items, hasWild items, true⟩ : Block)], b.Gives name what) ↔
        (∃ b ∈ given, b.overwritten.Gives name what) ∨
          (Named new name ∧ Collects (columns true items) (hasWild items) what) := by
      rw [hnamed]
      constructor
      · rintro ⟨b, hb, hgives⟩
        rcases List.mem_append.mp hb with hb | hb
        · obtain ⟨b', hb', rfl⟩ := List.mem_map.mp hb
          exact .inl ⟨b', hb', hgives⟩
        · rw [List.mem_singleton.mp hb] at hgives
          exact .inr ⟨hgives.brought, hgives.collects⟩
      · rintro (⟨b, hb, hgives⟩ | ⟨hbrought, hcollects⟩)
        · exact ⟨_, List.mem_append_left _ (List.mem_map_of_mem hb), hgives⟩
        · exact ⟨_, List.mem_append_right _ (List.mem_singleton.mpr rfl), hbrought, hcollects, fun _ => rfl⟩
    have hrecords : Records (new.map give) name what ↔
        ∃ o ∈ new, IsFor name o ∧ Has (give o) what := by
      unfold Records
      simp only [List.mem_map, exists_exists_and_eq_and, hfor]
    rw [hblock, hrecords]
    cases what with
    | none =>
      -- the flag is that of the projection, whatever it was
      constructor
      · rintro ⟨o, ho, hname, hhas⟩
        rw [hgive o hname.1] at hhas
        exact .inr ⟨⟨o, ho, hname⟩, hhas⟩
      · rintro (⟨b, _, hgives⟩ | ⟨⟨o, ho, hname⟩, hwildcard⟩)
        · exact absurd (hgives.kept rfl) nofun
        · refine ⟨o, ho, hname, ?_⟩
          rw [hgive o hname.1]
          exact hwildcard
    | some c =>
      have hsame : ∀ b : Block, b.overwritten.Gives name (some c) ↔ b.Gives name (some c) :=
        fun b => ⟨fun h => ⟨h.brought, h.collects, nofun⟩, fun h => ⟨h.brought, h.collects, nofun⟩⟩
      have hhas : ∀ o, o.op = .select → (Has (give o) (some c) ↔
          Has o (some c) ∨ Collects (columns true items) (hasWild items) (some c)) := by
        intro o hop
        rw [hgive o hop]
        show (∃ c' ∈ (collectMySqlExprColumns items []).foldl pushCol o.columns, _) ↔ _
        rw [collectMySqlExprColumns_eq, mem_foldl_pushCol_again, exists_collectedNames _ (hasWild items)]
        rfl
      simp only [hsame, ← hgiven]
      constructor
      · rintro ⟨o, ho, hname, hgot⟩
        rcases (hhas o hname.1).mp hgot with hold | hnew
        · exact .inl ⟨o, ho, hname, hold⟩
        · exact .inr ⟨⟨o, ho, hname⟩, hnew⟩
      · rintro (⟨o, ho, hname, hold⟩ | ⟨⟨o, ho, hname⟩, hnew⟩)
        · exact ⟨o, ho, hname, (hhas o hname.1).mpr (.inl hold)⟩
        · exact ⟨o, ho, hname, (hhas o hname.1).mpr (.inr hnew)⟩

theorem walks_assignedOther {action : StatementAction} (haction : action ≠ .select) (wildcard : Bool)
    (columns : List String) {tables : List ObjectName} {given : List Block} (hf : Walks f tables given) :
    Walks (fun set => assignProjection set.objects.length action wildcard columns (f set)) tables given := by
  refine hf.mapOthers ?_
  intro o
  split
  · rename_i hop
    refine ⟨rfl, ?_⟩
    intro hselect
    exact absurd ((beq_iff_eq.mp hop).symm.trans hselect) haction
  · exact Keeps.refl o

theorem walks_addUpdated (columns : List String) {tables : List ObjectName} {given : List Block}
    (hf : Walks f tables given) : Walks (fun set => addUpdated set.objects.length columns (f set)) tables given := by
  refine hf.mapOthers ?_
  intro o
  split
  · rename_i hop
    refine ⟨rfl, ?_⟩
    intro hselect
    exact absurd ((beq_iff_eq.mp hop).symm.trans hselect) nofun
  · exact Keeps.refl o

/-- **Walking a phrase pushes the tables and gives the columns that `pushed` and `blocks` say.** -/
theorem walks_walk (a : Ast p) (action : StatementAction) :
    Walks (walk a action) (pushed a action) (blocks a action) := by
  induction a generalizing action with
  | nil => exact walks_nothing
  | cons head tail ihHead ihTail => exact (ihHead action).andThen (ihTail action)
  | absent => exact walks_nothing
  | present x ih => exact ih action
  | simpleIdent v => exact walks_nothing
  | binaryOperation left right ihLeft ihRight => exact (ihLeft action).andThen (ihRight action)
  | unaryOperation e ih => exact ih action
  | funcCall args ih => exact ih action
  | wrapped e ih => exact ih action
  | inExpr e exprs ihE ihExprs => exact (ihE action).andThen (ihExprs action)
  | between e left right ihE ihLeft ihRight =>
    exact (ihE action).andThen ((ihLeft action).andThen (ihRight action))
  | like e pattern escape ihE ihPattern ihEscape =>
    exact (ihE action).andThen ((ihPattern action).andThen (ihEscape action))
  | pair left right ihLeft ihRight => exact (ihLeft action).andThen (ihRight action)
  | row exprs ih => exact ih action
  | caseExpr e whens elseExpr ihE ihWhens ihElse =>
    exact (ihE action).andThen ((ihWhens action).andThen (ihElse action))
  | whenThen condition value ihCondition ihValue => exact (ihCondition action).andThen (ihValue action)
  | subQueryExpr q ih => exact ih .select
  | existsSubQuery q ih => exact ih .select
  | compSubQuery e q ihE ihQ => exact (ihE action).andThen (ihQ .select)
  | agg exprs orders ihExprs _ => exact ihExprs action
  | leaf => exact walks_nothing
  | query items refs condition groups having union orders ihItems ihRefs ihCondition _ ihHaving ihUnion _ =>
    have hrest := (ihCondition action).andThen ((ihHaving action).andThen (ihUnion action))
    by_cases haction : action = .select
    · subst haction
      exact (ihItems .select).andThen ((walks_assigned items (ihRefs .select)).andThen hrest)
    · have hblocks : blocks (.query items refs condition groups having union orders) action =
          blocks items action ++ (blocks refs action ++ (blocks condition action ++
            (blocks having action ++ blocks union action))) := by
        rw [blocks, if_neg haction]
      rw [hblocks]
      exact (ihItems action).andThen ((walks_assignedOther haction (hasWild items)
        (collectMySqlExprColumns items []) (ihRefs action)).andThen hrest)
  | subQuery q union orders ihQ _ _ => exact ihQ action
  | withQuery recursive ctes body _ ihBody => exact ihBody action
  | valueConstructor rows _ => exact walks_nothing
  | explicitTable ident => exact walks_push ident action
  | noSelect => exact walks_nothing
  | cte name q _ => exact walks_nothing
  | wild => exact walks_nothing
  | itemExpr e ih => exact ih action
  | factor f ih => exact ih action
  | joined left right on ihLeft ihRight _ => exact (ihLeft action).andThen (ihRight action)
  | singleTable ident => exact walks_push ident action
  | derivedTable q ih => exact ih .select
  | joinedParens left right on ihLeft ihRight _ => exact (ihLeft action).andThen (ihRight action)
  | refsParens refs ih => exact ih action
  | tableFunc e _ => exact walks_nothing
  | updateElem target e ih => exact ih action
  | selectStmt q ih => exact ih .select
  | insertStmt table fields values query queryFields updates onDuplicate _ ihQuery _ _ =>
    have hpush := (ihQuery .select).andThen (walks_of_others (f := fun set => push set
        { addFields queryFields (addFields fields (objectFromMySqlIdent table .insert)) with
          columns := (updatedColumns updates).foldl pushCol
            (addFields queryFields (addFields fields (objectFromMySqlIdent table .insert))).columns }) (by
      intro set
      refine ⟨_, rfl, ?_⟩
      intro o ho
      rw [List.mem_singleton.mp ho]
      show (addFields queryFields (addFields fields (objectFromMySqlIdent table .insert))).op ≠ .select
      rw [(addFields_table queryFields _).2, (addFields_table fields _).2]
      exact nofun))
    rw [List.append_nil, List.append_nil] at hpush
    exact hpush
  | updateStmt recursive ctes refs updates condition orders _ ihRefs ihUpdates ihCondition _ =>
    have hupdated := walks_addUpdated ((updatedColumns updates).foldl pushCol [])
      ((ihRefs .update).andThen (ihUpdates .select))
    have hall := hupdated.andThen (ihCondition .select)
    rw [List.append_assoc, List.append_assoc] at hall
    exact hall
  | deleteStmt recursive ctes table refs condition orders _ ihRefs ihCondition _ =>
    have hrest := (ihRefs .delete).andThen (ihCondition .select)
    cases table with
    | none => exact hrest
    | some ident => exact (walks_push ident .delete).andThen hrest
  | otherStmt tables exprs queries _ _ => exact walks_nothing

theorem records_extractMySql (statements : Ast (.many .stmt)) (name : ObjectName)
    (what : Option String) : Records (extractMySql statements).objects name what ↔
      ∃ b ∈ blocks statements .other, b.Gives name what := by
  obtain ⟨new, hobjects, _, hgiven⟩ := walks_walk statements .other ⟨[], false, false⟩
  rw [extractMySql, hobjects, List.nil_append, hgiven]

/-! ## Completeness -/

/-- The set has everything that the statements name, and no wildcard recorded for a table is gone. -/
structure Complete (statements : Ast (.many .stmt)) : Prop where
  tables : ∀ o ∈ occurrences true [] statements, o.base = true → Appears o.name (extractMySql statements)
  columns : ∀ b ∈ selects [] statements, ∀ t ∈ b.tables, ∀ c ∈ b.columns,
    Records (extractMySql statements).objects t (some c.name)
  wildcards : ∀ b ∈ selects [] statements, ∀ t ∈ b.tables, b.wildcard = true →
    Records (extractMySql statements).objects t none
  uncleared : ∀ b ∈ blocks statements .other, b.wildcard = true → ∀ t, Mentioned b.relations t →
    Records (extractMySql statements).objects t none

/-- `WITH w AS (SELECT salary FROM payroll) SELECT id FROM (SELECT * FROM users) d`. -/
def clearedWildcard : Ast (.many .stmt) :=
  .cons (.selectStmt (.withQuery false
    (.cons (.cte "w" (.query (.cons (.itemExpr (.simpleIdent (.ident "salary"))) .nil)
      (.cons (.factor (.singleTable ⟨none, "payroll"⟩)) .nil) .absent .nil .absent .absent .nil)) .nil)
    (.query (.cons (.itemExpr (.simpleIdent (.ident "id"))) .nil)
      (.cons (.factor (.derivedTable (.query (.cons .wild .nil)
        (.cons (.factor (.singleTable ⟨none, "users"⟩)) .nil) .absent .nil .absent .absent .nil))) .nil)
      .absent .nil .absent .absent .nil))) .nil

end DataNexus.Extract.MySql
