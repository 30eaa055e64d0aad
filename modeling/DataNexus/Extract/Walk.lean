/-
  `extract_with_sqlparser`: the walker that collects the tables of a parsed statement, and what it misses.

  The functions of the source (`walk_query`, `walk_set_expr`, `collect_table_factor`, `walk_expr_subqueries` and so on) are
  the cases of `walk`.  DELETE, TRUNCATE and the statements without a case of their own go through the crate's visitor
  (`visit`).  The proof is one induction on the phrase: walking adds the names of its shown occurrences (`adds_walk`).
-/
import DataNexus.Extract.Sql

namespace DataNexus.Extract

open DataNexus.Text DataNexus.Pdp

/-! ## Objects -/

def objectFromName (name : ObjectName) (op : StatementAction) : ObjectAccess :=
  match name.reverse with
  | [] => ⟨none, "", [], op, false⟩
  | [table] => ⟨none, table, [], op, false⟩
  | table :: schema :: _ => ⟨some schema, table, [], op, false⟩

def pushCol (cols : List String) (name : String) : List String :=
  let n := String.ofList (trim name.toList)
  if n.isEmpty then cols
  else if cols.any (fun c => eqIgnoreAsciiCase c n) then cols
  else cols ++ [n]

/-- The object that is in the set already, with the columns of the new one. -/
def merged (existing obj : ObjectAccess) : ObjectAccess :=
  { existing with
    hasWildcard := existing.hasWildcard || obj.hasWildcard
    columns := obj.columns.foldl pushCol existing.columns }

/-- The search of `push_object`: the first object with the same qualified name and operation takes the
    new one in; `none` if there is none. -/
def mergeInto (obj : ObjectAccess) : List ObjectAccess → Option (List ObjectAccess)
  | [] => none
  | o :: rest =>
    if eqIgnoreAsciiCase o.qualifiedTable obj.qualifiedTable && o.op == obj.op then
      some (merged o obj :: rest)
    else (mergeInto obj rest).map (o :: ·)

def pushObject (set : ObjectSet) (obj : ObjectAccess) : ObjectSet :=
  { set with objects := (mergeInto obj set.objects).getD (set.objects ++ [obj]) }

/-- `push_object` for each name. -/
def pushNames (names : List ObjectName) (op : StatementAction) (set : ObjectSet) : ObjectSet :=
  names.foldl (fun set name => pushObject set (objectFromName name op)) set

/-- Change the last object with the operation; `none` if there is none. -/
def updateLast (op : StatementAction) (f : ObjectAccess → ObjectAccess) :
    List ObjectAccess → Option (List ObjectAccess)
  | [] => none
  | o :: rest =>
    match updateLast op f rest with
    | some rest => some (o :: rest)
    | none => if o.op == op then some (f o :: rest) else none

/-! ## Columns -/

/-- `collect_expr_columns`, also over the lists it loops through. -/
def collectExprColumns {p : Phrase} : Ast p → List String → List String
  | .nil, columns => columns
  | .cons head tail, columns => collectExprColumns tail (collectExprColumns head columns)
  | .present x, columns => collectExprColumns x columns
  | .item e, columns => collectExprColumns e columns
  | .identifier name, columns => pushCol columns name
  | .compoundIdentifier names, columns =>
    match names.reverse with
    | [] => columns
    | [last] => pushCol columns last
    | last :: table :: _ => pushCol columns (table ++ "." ++ last)
  | .unary _ e, columns => collectExprColumns e columns
  | .binaryOp left right, columns => collectExprColumns right (collectExprColumns left columns)
  | .function args _, columns => collectExprColumns args columns
  | .argumentList args _, columns => collectExprColumns args columns
  | .unnamedArg e, columns => collectExprColumns e columns
  | .caseWhen operand conditions results elseResult, columns =>
    collectExprColumns elseResult (collectExprColumns results
      (collectExprColumns conditions (collectExprColumns operand columns)))
  | _, columns => columns

def hasWildcardItem {p : Phrase} : Ast p → Bool
  | .cons head tail => hasWildcardItem head || hasWildcardItem tail
  | .wildcard _ => true
  | _ => false

/-- The loop over the objects that the FROM of a SELECT added: those of the action take the columns of
    the projection. -/
def addProjection (before : Nat) (action : StatementAction) (wildcard : Bool) (columns : List String)
    (set : ObjectSet) : ObjectSet :=
  { set with
    objects := set.objects.take before ++ (set.objects.drop before).map fun o =>
      if o.op == action then
        { o with
          hasWildcard := o.hasWildcard || wildcard
          columns := columns.foldl pushCol o.columns }
      else o }

/-- The columns that the assignments of an UPDATE set. -/
def assignedColumns {p : Phrase} : Ast p → List String
  | .cons head tail => assignedColumns head ++ assignedColumns tail
  | .assign targets _ => targets.filterMap List.getLast?
  | _ => []

/-! ## The visitor -/

/-- The names that `pre_visit_relation` is called with on the way through a phrase: the fields that the
    crate marks as relations. -/
def visit {p : Phrase} : Ast p → List ObjectName
  | .nil => []
  | .cons head tail => visit head ++ visit tail
  | .absent => []
  | .present x => visit x
  | .identifier _ => []
  | .compoundIdentifier _ => []
  | .unary _ e => visit e
  | .binaryOp left right => visit left ++ visit right
  | .inList e list => visit e ++ visit list
  | .inSubquery e q => visit e ++ visit q
  | .between e low high => visit e ++ (visit low ++ visit high)
  | .like e pattern => visit e ++ visit pattern
  | .subquery q => visit q
  | .existsSubquery q => visit q
  | .function args rest => visit args ++ visit rest
  | .caseWhen operand conditions results elseResult =>
    visit operand ++ (visit conditions ++ (visit results ++ visit elseResult))
  | .tuple items => visit items
  | .anyOp left right => visit left ++ visit right
  | .allOp left right => visit left ++ visit right
  | .otherExpr parts => visit parts
  | .noArguments => []
  | .argumentSubquery q => visit q
  | .argumentList args clauses => visit args ++ visit clauses
  | .unnamedArg e => visit e
  | .namedArg e => visit e
  | .wildcardArg => []
  | .withQuery _ ctes body orderBy limits =>
    visit ctes ++ (visit body ++ (visit orderBy ++ visit limits))
  | .cte _ q => visit q
  | .select projection _ relations selection groupBy having rest =>
    visit projection ++ (visit relations ++ (visit selection ++ (visit having ++
      (visit groupBy ++ visit rest))))
  | .innerQuery q => visit q
  | .setOperation left right => visit left ++ visit right
  | .values rows => visit rows
  | .tableOnly _ => []
  | .modification s => visit s
  | .item e => visit e
  | .wildcard replaced => visit replaced
  | .tableWithJoins relation joins => visit relation ++ visit joins
  | .join relation operator => visit relation ++ visit operator
  | .constrained on => visit on
  | .asOf matchCondition on => visit matchCondition ++ visit on
  | .unconditional => []
  | .table name rest => name :: visit rest
  | .derived q => visit q
  | .nestedJoin t => visit t
  | .tableFunction parts => visit parts
  | .pivot t parts source => visit t ++ (visit parts ++ visit source)
  | .assign _ value => visit value
  | .queryStatement q => visit q
  | .insert name _ source rest returning => name :: (visit source ++ (visit rest ++ visit returning))
  | .update target assignments relation selection returning =>
    visit target ++ (visit assignments ++ (visit relation ++ (visit selection ++ visit returning)))
  | .delete _ relations usingTables selection returning rest =>
    visit relations ++ (visit usingTables ++ (visit selection ++ (visit returning ++ visit rest)))
  | .createTable name source _ exprs => name :: (visit source ++ visit exprs)
  | .createView _ q _ rest => visit q ++ visit rest
  | .createIndex name exprs => name :: visit exprs
  | .drop _ => []
  | .truncate names partitions => names ++ visit partitions
  | .alterTable name _ exprs => name :: visit exprs
  | .control => []
  | .explain s => visit s
  | .otherStatement relations _ factors exprs queries =>
    relations ++ (visit factors ++ (visit exprs ++ visit queries))

/-! ## The walker -/

/-- The walker, over every kind of phrase.  `action` is the operation that the tables of a FROM get; an
    expression has no use for it. -/
def walk {p : Phrase} : Ast p → StatementAction → ObjectSet → ObjectSet
  | .nil, _, set => set
  | .cons head tail, action, set => walk tail action (walk head action set)
  | .absent, _, set => set
  | .present x, action, set => walk x action set
  -- walk_expr_subqueries
  | .unary _ e, action, set => walk e action set
  | .binaryOp left right, action, set => walk right action (walk left action set)
  | .inList e list, action, set => walk list action (walk e action set)
  | .inSubquery e q, action, set => walk q .select (walk e action set)
  | .between e low high, action, set => walk high action (walk low action (walk e action set))
  | .like e pattern, action, set => walk pattern action (walk e action set)
  | .subquery q, _, set => walk q .select set
  | .existsSubquery q, _, set => walk q .select set
  | .function args _, action, set => walk args action set
  | .argumentSubquery q, _, set => walk q .select set
  | .argumentList args _, action, set => walk args action set
  | .unnamedArg e, action, set => walk e action set
  | .caseWhen operand conditions results elseResult, action, set =>
    walk elseResult action (walk results action (walk conditions action (walk operand action set)))
  | .tuple items, action, set => walk items action set
  | .identifier _, _, set | .compoundIdentifier _, _, set | .anyOp _ _, _, set | .allOp _ _, _, set
  | .otherExpr _, _, set | .noArguments, _, set | .namedArg _, _, set | .wildcardArg, _, set => set
  -- walk_query
  | .withQuery _ ctes body _ _, action, set => walk body action (walk ctes action set)
  | .cte _ q, _, set => walk q .select set
  -- walk_set_expr
  | .select projection _ relations selection _ having _, action, set =>
    let set := walk projection action set
    let before := set.objects.length
    let set := walk relations action set
    let set := addProjection before action (hasWildcardItem projection)
      (collectExprColumns projection []) set
    walk having action (walk selection action set)
  | .item e, action, set => walk e action set
  | .wildcard _, _, set => set
  | .innerQuery q, action, set => walk q action set
  | .setOperation left right, action, set => walk right action (walk left action set)
  | .values _, _, set | .tableOnly _, _, set => set
  | .modification s, action, set => walk s action set
  -- collect_table_with_joins
  | .tableWithJoins relation joins, action, set => walk joins action (walk relation action set)
  | .join relation operator, action, set => walk operator action (walk relation action set)
  | .constrained on, action, set => walk on action set
  | .asOf matchCondition on, action, set => walk on action (walk matchCondition action set)
  | .unconditional, _, set => set
  -- collect_table_factor
  | .table name _, action, set => pushObject set (objectFromName name action)
  | .derived q, _, set => walk q .select set
  | .nestedJoin t, action, set => walk t action set
  | .tableFunction _, _, set | .pivot _ _ _, _, set => set
  -- walk_sqlparser_statement
  | .queryStatement q, _, set => walk q .select set
  | .insert name columns source _ _, _, set =>
    let obj := objectFromName name .insert
    let obj := { obj with columns := columns.foldl pushCol obj.columns }
    walk source .select { set with objects := set.objects ++ [obj] }
  | .update target assignments relation selection _, _, set =>
    let set := walk target .update set
    let set :=
      { set with
        objects := (updateLast .update
          (fun o => { o with columns := (assignedColumns assignments).foldl pushCol o.columns })
          set.objects).getD set.objects }
    walk selection .select (walk relation .select (walk assignments .select set))
  | .assign _ value, action, set => walk value action set
  | .delete tables relations usingTables selection returning rest, _, set =>
    let set := pushNames (visit relations ++ (visit usingTables ++ (visit selection ++
      (visit returning ++ visit rest)))) .delete set
    pushNames tables .delete (walk usingTables .select set)
  | .createTable name _ _ _, _, set => pushObject set (objectFromName name .ddl)
  | .createView name q _ _, _, set => walk q .select (pushObject set (objectFromName name .ddl))
  | .createIndex name _, _, set => pushObject set (objectFromName name .ddl)
  | .drop names, _, set => pushNames names .ddl set
  | .truncate names partitions, _, set => pushNames (names ++ visit partitions) .ddl set
  | .alterTable name _ _, _, set => pushObject set (objectFromName name .ddl)
  | .control, _, set => set
  | .explain s, _, set => pushNames (visit s) .other set
  | .otherStatement relations _ factors exprs queries, _, set =>
    pushNames (relations ++ (visit factors ++ (visit exprs ++ visit queries))) .other set

/-- `extract_with_sqlparser`, on the statements of a text that could be parsed. -/
def extract (statements : Ast (.many .statement)) : ObjectSet := walk statements .other ⟨[], false, false⟩

/-! ## The names in a set -/

/-- The qualified name that `object_from_name` gives a table. -/
def qualified (name : ObjectName) : String := (objectFromName name .other).qualifiedTable

/-- Two names of one table: equal up to case, as `push_object` compares them. -/
def sameTable (a b : ObjectName) : Bool := eqIgnoreAsciiCase (qualified a) (qualified b)

/-- The table is that of some object of the set. -/
def Appears (name : ObjectName) (set : ObjectSet) : Prop :=
  ∃ o ∈ set.objects, eqIgnoreAsciiCase o.qualifiedTable (qualified name) = true

/-- The names of a set after a function are those before and the given ones. -/
def Adds (f : ObjectSet → ObjectSet) (names : List ObjectName) : Prop :=
  ∀ set name, Appears name (f set) ↔ Appears name set ∨ ∃ m ∈ names, sameTable m name = true

theorem eqIgnoreAsciiCase_iff (a b : String) :
    eqIgnoreAsciiCase a b = true ↔ toAsciiLowercase a.toList = toAsciiLowercase b.toList := by
  unfold eqIgnoreAsciiCase sameIgnoringCase
  exact beq_iff_eq

theorem qualifiedTable_objectFromName (name : ObjectName) (op : StatementAction) :
    (objectFromName name op).qualifiedTable = qualified name := by
  unfold qualified objectFromName
  split <;> rfl

theorem adds_nothing : Adds id [] := by
  intro set name
  simp

variable {f g : ObjectSet → ObjectSet} {as bs : List ObjectName} {objects' : List ObjectAccess} {p : Phrase}

theorem Adds.andThen (hf : Adds f as) (hg : Adds g bs) : Adds (fun set => g (f set)) (as ++ bs) := by
  intro set name
  rw [hg, hf, or_assoc]
  refine or_congr Iff.rfl ?_
  constructor
  · rintro (⟨m, hm, h⟩ | ⟨m, hm, h⟩)
    · exact ⟨m, List.mem_append_left _ hm, h⟩
    · exact ⟨m, List.mem_append_right _ hm, h⟩
  · rintro ⟨m, hm, h⟩
    rcases List.mem_append.mp hm with hm | hm
    · exact .inl ⟨m, hm, h⟩
    · exact .inr ⟨m, hm, h⟩

theorem Adds.congr (h : Adds f as) (heq : ∀ m, m ∈ as ↔ m ∈ bs) : Adds f bs := by
  intro set name
  rw [h]
  refine or_congr Iff.rfl (exists_congr ?_)
  intro m
  rw [heq]

theorem adds_of_tables (h : ∀ set, (f set).objects.map ObjectAccess.qualifiedTable =
      set.objects.map ObjectAccess.qualifiedTable) : Adds f [] := by
  have hmem : ∀ set : ObjectSet, ∀ name, Appears name set ↔
      ∃ t ∈ set.objects.map ObjectAccess.qualifiedTable, eqIgnoreAsciiCase t (qualified name) = true := by
    intro set name
    unfold Appears
    simp
  intro set name
  rw [hmem, hmem, h]
  simp

theorem adds_append (obj : ObjectAccess) (name : ObjectName) (h : obj.qualifiedTable = qualified name) :
    Adds (fun set => { set with objects := set.objects ++ [obj] }) [name] := by
  intro set n
  unfold Appears sameTable
  simp only [List.mem_append, List.mem_singleton, or_and_right, exists_or, exists_eq_left, h]

/-! ## What each operation adds -/

theorem mergeInto_some {obj : ObjectAccess} {objects : List ObjectAccess} (h : mergeInto obj objects = some objects') :
    objects'.map ObjectAccess.qualifiedTable = objects.map ObjectAccess.qualifiedTable ∧
      ∃ o ∈ objects, eqIgnoreAsciiCase o.qualifiedTable obj.qualifiedTable = true := by
  induction objects generalizing objects' with
  | nil => cases h
  | cons o rest ih =>
    unfold mergeInto at h
    split at h
    · rename_i hfound
      cases h
      refine ⟨rfl, o, List.mem_cons_self, ?_⟩
      exact (Bool.and_eq_true_iff.mp hfound).1
    · obtain ⟨rest', hrest, rfl⟩ := Option.map_eq_some_iff.mp h
      obtain ⟨hmap, o', ho', hsame⟩ := ih hrest
      refine ⟨?_, o', List.mem_cons_of_mem _ ho', hsame⟩
      rw [List.map_cons, List.map_cons, hmap]

theorem adds_pushObject (obj : ObjectAccess) (name : ObjectName)
    (h : obj.qualifiedTable = qualified name) : Adds (fun set => pushObject set obj) [name] := by
  intro set n
  show Appears n (pushObject set obj) ↔ _
  cases hmerge : mergeInto obj set.objects with
  | none =>
    have hpush : pushObject set obj = { set with objects := set.objects ++ [obj] } := by
      unfold pushObject
      rw [hmerge]
      rfl
    rw [hpush]
    exact adds_append obj name h set n
  | some objects =>
    -- the object that took it in has the same name
    obtain ⟨hmap, o, ho, hsame⟩ := mergeInto_some hmerge
    have hkeep : Appears n (pushObject set obj) ↔ Appears n set := by
      unfold Appears pushObject
      rw [hmerge]
      show (∃ o ∈ objects, _) ↔ _
      constructor
      · rintro ⟨x, hx, hn⟩
        have hx' : x.qualifiedTable ∈ set.objects.map ObjectAccess.qualifiedTable := by
          rw [← hmap]
          exact List.mem_map_of_mem hx
        obtain ⟨y, hy, heq⟩ := List.mem_map.mp hx'
        exact ⟨y, hy, heq ▸ hn⟩
      · rintro ⟨x, hx, hn⟩
        have hx' : x.qualifiedTable ∈ objects.map ObjectAccess.qualifiedTable := by
          rw [hmap]
          exact List.mem_map_of_mem hx
        obtain ⟨y, hy, heq⟩ := List.mem_map.mp hx'
        exact ⟨y, hy, heq ▸ hn⟩
    rw [hkeep]
    refine ⟨.inl, ?_⟩
    rintro (hn | ⟨m, hm, hn⟩)
    · exact hn
    · rw [List.mem_singleton.mp hm] at hn
      refine ⟨o, ho, ?_⟩
      unfold sameTable at hn
      rw [h] at hsame
      rw [eqIgnoreAsciiCase_iff] at hn hsame ⊢
      exact hsame.trans hn

theorem adds_pushNames (names : List ObjectName) (op : StatementAction) : Adds (pushNames names op) names := by
  induction names with
  | nil => exact adds_nothing
  | cons name rest ih =>
    exact (adds_pushObject (objectFromName name op) name
      (qualifiedTable_objectFromName name op)).andThen ih

theorem updateLast_some {op : StatementAction} {f : ObjectAccess → ObjectAccess}
    (hf : ∀ o, (f o).qualifiedTable = o.qualifiedTable) {objects : List ObjectAccess}
    (h : updateLast op f objects = some objects') :
    objects'.map ObjectAccess.qualifiedTable = objects.map ObjectAccess.qualifiedTable := by
  induction objects generalizing objects' with
  | nil => cases h
  | cons o rest ih =>
    unfold updateLast at h
    split at h
    · rename_i rest' hrest
      cases h
      rw [List.map_cons, List.map_cons, ih hrest]
    · split at h
      · cases h
        rw [List.map_cons, List.map_cons, hf]
      · cases h

theorem adds_updateLast (op : StatementAction) {f : ObjectAccess → ObjectAccess}
    (hf : ∀ o, (f o).qualifiedTable = o.qualifiedTable) :
    Adds (fun set => { set with objects := (updateLast op f set.objects).getD set.objects }) [] := by
  refine adds_of_tables ?_
  intro set
  show ((updateLast op f set.objects).getD set.objects).map _ = _
  cases h : updateLast op f set.objects with
  | none => rfl
  | some objects => exact updateLast_some hf h

theorem adds_addProjection (before : Nat) (action : StatementAction) (wildcard : Bool)
    (columns : List String) : Adds (addProjection before action wildcard columns) [] := by
  refine adds_of_tables ?_
  intro set
  have hsame : ∀ o : ObjectAccess, ObjectAccess.qualifiedTable
      (if o.op == action then
        { o with
          hasWildcard := o.hasWildcard || wildcard
          columns := columns.foldl pushCol o.columns }
      else o) = o.qualifiedTable := by
    intro o
    split <;> rfl
  unfold addProjection
  dsimp only
  rw [List.map_append, List.map_map]
  conv_rhs => rw [← List.take_append_drop before set.objects, List.map_append]
  congr 1
  refine List.map_congr_left ?_
  intro o _
  exact hsame o

/-! ## Shown occurrences -/

def shownNames (os : List Occurrence) : List ObjectName := (os.filter (·.shown)).map (·.name)

@[simp] theorem shownNames_nil : shownNames [] = [] := rfl

@[simp] theorem shownNames_append (as bs : List Occurrence) :
    shownNames (as ++ bs) = shownNames as ++ shownNames bs := by
  unfold shownNames
  rw [List.filter_append, List.map_append]

@[simp] theorem shownNames_cons (o : Occurrence) (os : List Occurrence) :
    shownNames (o :: os) = (if o.shown then [o.name] else []) ++ shownNames os := by
  unfold shownNames
  cases h : o.shown <;> simp [h]

@[simp] theorem shownNames_targets (shown : Bool) (names : List ObjectName) :
    shownNames (targets shown names) = if shown then names else [] := by
  induction names with
  | nil => cases shown <;> rfl
  | cons name rest ih =>
    show shownNames (⟨name, true, shown⟩ :: targets shown rest) = _
    rw [shownNames_cons, ih]
    cases shown <;> rfl

attribute [local simp] occurrences visit

theorem shownNames_skipped (a : Ast p) (scope : List String) : shownNames (occurrences .skipped scope a) = [] := by
  -- every constructor passes `skipped` on
  induction a generalizing scope <;>
    simp_all [Reach.unfollowed, Reach.toVisitor, Reach.alsoVisited, Reach.own, Reach.got]

theorem shownNames_visited (a : Ast p) (scope : List String) :
    shownNames (occurrences .visited scope a) = visit a := by
  induction a generalizing scope <;>
    simp_all [Reach.unfollowed, Reach.toVisitor, Reach.alsoVisited, Reach.own, Reach.got]

theorem mem_shownNames_both (a : Ast p) (scope : List String) (m : ObjectName) :
    m ∈ shownNames (occurrences .both scope a) ↔ m ∈ shownNames (occurrences .walked scope a) ∨ m ∈ visit a := by
  -- at each constructor both sides are the same parts in another order
  induction a generalizing scope <;>
    simp only [occurrences, visit, shownNames_skipped, shownNames_visited, Reach.unfollowed,
      Reach.toVisitor, Reach.alsoVisited, Reach.own, Reach.got, shownNames_append, shownNames_cons,
      shownNames_nil, shownNames_targets, List.mem_append, *] <;> grind

/-! ## The walker adds what is shown -/

theorem Adds.both {as bs : List Occurrence} (hf : Adds f (shownNames as)) (hg : Adds g (shownNames bs)) :
    Adds (fun set => g (f set)) (shownNames (as ++ bs)) := by
  rw [shownNames_append]
  exact hf.andThen hg

theorem Adds.hidden {as bs : List Occurrence} (hf : Adds f (shownNames as)) (hbs : shownNames bs = []) :
    Adds f (shownNames (as ++ bs)) := by
  rw [shownNames_append, hbs, List.append_nil]
  exact hf

theorem adds_hidden {os : List Occurrence} (h : shownNames os = []) : Adds id (shownNames os) := by
  rw [h]
  exact adds_nothing

theorem shownNames_skipped_two {q : Phrase} (a : Ast p) (b : Ast q) (scope : List String) :
    shownNames (occurrences .skipped scope a ++ occurrences .skipped scope b) = [] := by
  rw [shownNames_append, shownNames_skipped, shownNames_skipped]
  rfl

theorem shownNames_targets_skipped (names : List ObjectName) (a : Ast p) (scope : List String) :
    shownNames (targets false names ++ occurrences .skipped scope a) = [] := by
  rw [shownNames_append, shownNames_targets, shownNames_skipped]
  rfl

theorem adds_name (name : ObjectName) (op : StatementAction) (base : Bool) :
    Adds (fun set => pushObject set (objectFromName name op)) (shownNames [⟨name, base, true⟩]) :=
  adds_pushObject _ name (qualifiedTable_objectFromName name op)

/-- **Walking a phrase adds exactly the names it shows.** -/
theorem adds_walk (a : Ast p) (action : StatementAction) (scope : List String) :
    Adds (walk a action) (shownNames (occurrences .walked scope a)) := by
  induction a generalizing action scope with
  | nil => exact adds_nothing
  | cons head tail ihHead ihTail => exact (ihHead action scope).both (ihTail action _)
  | absent => exact adds_nothing
  | present x ih => exact ih action scope
  | identifier name => exact adds_nothing
  | compoundIdentifier names => exact adds_nothing
  | unary kind e ih => exact ih action scope
  | binaryOp left right ihLeft ihRight => exact (ihLeft action scope).both (ihRight action scope)
  | inList e list ihE ihList => exact (ihE action scope).both (ihList action scope)
  | inSubquery e q ihE ihQ => exact (ihE action scope).both (ihQ .select scope)
  | between e low high ihE ihLow ihHigh =>
    exact (ihE action scope).both ((ihLow action scope).both (ihHigh action scope))
  | like e pattern ihE ihPattern => exact (ihE action scope).both (ihPattern action scope)
  | subquery q ih => exact ih .select scope
  | existsSubquery q ih => exact ih .select scope
  | function args rest ihArgs _ => exact (ihArgs action scope).hidden (shownNames_skipped rest scope)
  | caseWhen operand conditions results elseResult ihOperand ihConditions ihResults ihElse =>
    exact (ihOperand action scope).both
      ((ihConditions action scope).both ((ihResults action scope).both (ihElse action scope)))
  | tuple items ih => exact ih action scope
  | anyOp left right _ _ => exact adds_hidden (shownNames_skipped_two left right scope)
  | allOp left right _ _ => exact adds_hidden (shownNames_skipped_two left right scope)
  | otherExpr parts _ => exact adds_hidden (shownNames_skipped parts scope)
  | noArguments => exact adds_nothing
  | argumentSubquery q ih => exact ih .select scope
  | argumentList args clauses ihArgs _ =>
    exact (ihArgs action scope).hidden (shownNames_skipped clauses scope)
  | unnamedArg e ih => exact ih action scope
  | namedArg e _ => exact adds_hidden (shownNames_skipped e scope)
  | wildcardArg => exact adds_nothing
  | withQuery recursive ctes body orderBy limits ihCtes ihBody _ _ =>
    exact (ihCtes action _).both
      ((ihBody action _).hidden (shownNames_skipped_two orderBy limits _))
  | cte name q ih => exact ih .select scope
  | select projection into relations selection groupBy having rest ihProjection ihRelations ihSelection _
      ihHaving _ =>
    have hrest : shownNames (targets false into.toList ++
        (occurrences .skipped scope groupBy ++ occurrences .skipped scope rest)) = [] := by
      rw [shownNames_append, shownNames_targets, shownNames_skipped_two]
      rfl
    intro set name
    -- the objects of the FROM take the columns, which is no matter of names
    have hfrom := (ihRelations action scope).andThen (adds_addProjection
      (walk projection action set).objects.length action (hasWildcardItem projection)
      (collectExprColumns projection []))
    rw [List.append_nil] at hfrom
    exact (ihProjection action scope).both
      (Adds.both hfrom ((ihSelection action scope).both ((ihHaving action scope).hidden hrest))) set name
  | innerQuery q ih => exact ih action scope
  | setOperation left right ihLeft ihRight => exact (ihLeft action scope).both (ihRight action scope)
  | values rows _ => exact adds_hidden (shownNames_skipped rows scope)
  | tableOnly name => exact adds_hidden rfl
  | modification s ih => exact ih action scope
  | item e ih => exact ih action scope
  | wildcard replaced _ => exact adds_hidden (shownNames_skipped replaced scope)
  | tableWithJoins relation joins ihRelation ihJoins =>
    exact (ihRelation action scope).both (ihJoins action scope)
  | join relation operator ihRelation ihOperator =>
    exact (ihRelation action scope).both (ihOperator action scope)
  | constrained on ih => exact ih action scope
  | asOf matchCondition on ihMatch ihOn => exact (ihMatch action scope).both (ihOn action scope)
  | unconditional => exact adds_nothing
  | table name rest _ =>
    exact (adds_name name action _).hidden (shownNames_skipped rest scope)
  | derived q ih => exact ih .select scope
  | nestedJoin t ih => exact ih action scope
  | tableFunction parts _ => exact adds_hidden (shownNames_skipped parts scope)
  | pivot t parts source _ _ _ =>
    refine adds_hidden ?_
    rw [occurrences, shownNames_append]
    exact (congrArg₂ _ (shownNames_skipped t scope) (shownNames_skipped_two parts source scope))
  | assign targets value ih => exact ih action scope
  | queryStatement q ih => exact ih .select scope
  | insert name columns source rest returning ihSource _ _ =>
    have hobj : ∀ columns, ({ objectFromName name .insert with columns := columns } :
        ObjectAccess).qualifiedTable = qualified name :=
      fun _ => qualifiedTable_objectFromName name .insert
    exact (adds_append _ name (hobj _)).andThen
      ((ihSource .select scope).hidden (shownNames_skipped_two rest returning scope))
  | update target assignments relation selection returning ihTarget ihAssignments ihRelation ihSelection
      _ =>
    have htarget := (ihTarget .update scope).andThen (adds_updateLast .update
      (f := fun o => { o with columns := (assignedColumns assignments).foldl pushCol o.columns })
      (fun _ => rfl))
    rw [List.append_nil] at htarget
    have hall := Adds.both htarget ((ihAssignments .select scope).both ((ihRelation .select scope).both
      ((ihSelection .select scope).hidden (shownNames_skipped returning scope))))
    exact hall
  | delete tables relations usingTables selection returning rest _ ihUsing _ _ _ =>
    -- what is visited comes first, then USING is walked, then the names before FROM are pushed
    have hall := ((adds_pushNames (visit relations ++ (visit usingTables ++ (visit selection ++
      (visit returning ++ visit rest)))) .delete).andThen (ihUsing .select scope)).andThen
        (adds_pushNames tables .delete)
    refine hall.congr ?_
    intro m
    simp only [occurrences, Reach.toVisitor, Reach.alsoVisited, Reach.own, shownNames_append,
      shownNames_targets, shownNames_visited, List.mem_append, mem_shownNames_both]
    grind
  | createTable name source references exprs _ _ =>
    have hrest : shownNames (targets false references ++
        (occurrences .skipped scope source ++ occurrences .skipped scope exprs)) = [] := by
      rw [shownNames_append, shownNames_targets, shownNames_skipped_two]
      rfl
    exact (adds_name name .ddl true).hidden hrest
  | createView name q mentions rest ih _ =>
    exact (adds_name name .ddl true).both
      ((ih .select scope).hidden (shownNames_targets_skipped mentions rest scope))
  | createIndex name exprs _ =>
    exact (adds_name name .ddl true).hidden (shownNames_skipped exprs scope)
  | drop names =>
    rw [occurrences, shownNames_targets]
    exact adds_pushNames names .ddl
  | truncate names partitions _ =>
    have hshown := shownNames_visited partitions scope
    rw [occurrences, shownNames_append, shownNames_targets, Reach.toVisitor, hshown]
    exact adds_pushNames (names ++ visit partitions) .ddl
  | alterTable name references exprs _ =>
    exact (adds_name name .ddl true).hidden (shownNames_targets_skipped references exprs scope)
  | control => exact adds_nothing
  | explain s _ =>
    have hshown := shownNames_visited s scope
    rw [occurrences, Reach.toVisitor, hshown]
    exact adds_pushNames (visit s) .other
  | otherStatement relations mentions factors exprs queries _ _ _ =>
    have hshown : shownNames (occurrences .walked scope
        (.otherStatement relations mentions factors exprs queries)) =
        relations ++ (visit factors ++ (visit exprs ++ visit queries)) := by
      simp only [occurrences, Reach.toVisitor, Reach.got, shownNames_append, shownNames_targets, shownNames_visited]
      rfl
    rw [hshown]
    exact adds_pushNames _ .other

theorem shown_from_empty (os : List Occurrence) (name : ObjectName) :
    (Appears name ⟨[], false, false⟩ ∨ ∃ m ∈ shownNames os, sameTable m name = true) ↔
      ∃ o ∈ os, o.shown = true ∧ sameTable o.name name = true := by
  have hempty : ¬ Appears name ⟨[], false, false⟩ := by
    rintro ⟨o, ho, _⟩
    exact List.not_mem_nil ho
  rw [or_iff_right hempty]
  constructor
  · rintro ⟨m, hm, h⟩
    obtain ⟨o, ho, rfl⟩ := List.mem_map.mp hm
    obtain ⟨hmem, hshown⟩ := List.mem_filter.mp ho
    exact ⟨o, hmem, hshown, h⟩
  · rintro ⟨o, hmem, hshown, h⟩
    exact ⟨o.name, List.mem_map.mpr ⟨o, List.mem_filter.mpr ⟨hmem, hshown⟩, rfl⟩, h⟩

theorem appears_extract (statements : Ast (.many .statement)) (name : ObjectName) :
    Appears name (extract statements) ↔
      ∃ o ∈ occurrences .walked [] statements, o.shown = true ∧ sameTable o.name name = true := by
  rw [extract, adds_walk statements .other []]
  exact shown_from_empty _ name

/-! ## Completeness -/

/-- Every base table that is named anywhere in the statements is the table of some object. -/
def Complete (statements : Ast (.many .statement)) : Prop :=
  ∀ o ∈ occurrences .walked [] statements, o.base = true → Appears o.name (extract statements)

/-- `SELECT id FROM public.orders WHERE id = ANY (SELECT id FROM payroll)`. -/
def anySubquery : Ast (.many .statement) :=
  .cons (.queryStatement (.withQuery false .nil
    (.select (.cons (.item (.identifier "id")) .nil) none
      (.cons (.tableWithJoins (.table ["public", "orders"] .nil) .nil) .nil)
      (.present (.anyOp (.identifier "id") (.subquery (.withQuery false .nil
        (.select (.cons (.item (.identifier "id")) .nil) none
          (.cons (.tableWithJoins (.table ["payroll"] .nil) .nil) .nil) .absent .nil .absent .nil)
        .nil .nil))))
      .nil .absent .nil) .nil .nil)) .nil

end DataNexus.Extract
