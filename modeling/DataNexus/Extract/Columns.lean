/-
  Which columns the walker of `object_extract.rs` records for which tables.

  A SELECT block gives the columns of its projection to the objects that its FROM has ADDED to the set; a table that was
  there before is merged into its old object and gets nothing.

  1. **What should be recorded** — `selects` lists every SELECT block with its base tables, columns and wildcard.

  2. **What is recorded** — `blocks` lists the blocks that the walker gets to, with the tables walked before.
-/
import DataNexus.Extract.Walk
import Mathlib.Data.List.DropRight

namespace DataNexus.Extract

open DataNexus.Text DataNexus.Pdp

/-! ## Columns of a projection -/

structure Column where
  name : String
  /-- It stands at a place that `collect_expr_columns` looks at. -/
  collected : Bool
deriving DecidableEq

/-- The name under which a column is recorded: the last part, after the table it is qualified with. -/
def columnName (names : List String) : List String :=
  match names.reverse with
  | [] => []
  | [last] => [last]
  | last :: table :: _ => [table ++ "." ++ last]

/-- Every column identifier of an expression, a subquery apart: that one is a block of its own. -/
def columns {p : Phrase} (collected : Bool) : Ast p → List Column
  | .cons head tail => columns collected head ++ columns collected tail
  | .present x => columns collected x
  | .item e => columns collected e
  | .wildcard replaced => columns false replaced
  | .identifier name => [⟨name, collected⟩]
  | .compoundIdentifier names => (columnName names).map (⟨·, collected⟩)
  | .unary _ e => columns collected e
  | .binaryOp left right => columns collected left ++ columns collected right
  | .inList e list => columns false e ++ columns false list
  | .inSubquery e _ => columns false e
  | .between e low high => columns false e ++ (columns false low ++ columns false high)
  | .like e pattern => columns false e ++ columns false pattern
  | .function args rest => columns collected args ++ columns false rest
  | .argumentList args clauses => columns collected args ++ columns false clauses
  | .unnamedArg e => columns collected e
  | .namedArg e => columns false e
  | .caseWhen operand conditions results elseResult =>
    columns collected operand ++ (columns collected conditions ++
      (columns collected results ++ columns collected elseResult))
  | .tuple items => columns false items
  | .anyOp left right => columns false left ++ columns false right
  | .allOp left right => columns false left ++ columns false right
  | .otherExpr parts => columns false parts
  | _ => []

/-! ## The blocks of the statements -/

/-- The base tables of a FROM: those of its subqueries belong to other blocks. -/
def fromTables {p : Phrase} (scope : List String) : Ast p → List ObjectName
  | .cons head tail => fromTables scope head ++ fromTables scope tail
  | .tableWithJoins relation joins => fromTables scope relation ++ fromTables scope joins
  | .join relation _ => fromTables scope relation
  | .table name _ => if isBase scope name then [name] else []
  | .nestedJoin t => fromTables scope t
  | .pivot t _ _ => fromTables scope t
  | _ => []

structure Select where
  tables : List ObjectName
  columns : List Column
  wildcard : Bool

/-- Every SELECT block of a phrase, when the names of `scope` are those of a WITH. -/
def selects {p : Phrase} (scope : List String) : Ast p → List Select
  | .nil => []
  | .cons head tail => selects scope head ++ selects (boundBy head ++ scope) tail
  | .absent => []
  | .present x => selects scope x
  | .identifier _ => []
  | .compoundIdentifier _ => []
  | .unary _ e => selects scope e
  | .binaryOp left right => selects scope left ++ selects scope right
  | .inList e list => selects scope e ++ selects scope list
  | .inSubquery e q => selects scope e ++ selects scope q
  | .between e low high => selects scope e ++ (selects scope low ++ selects scope high)
  | .like e pattern => selects scope e ++ selects scope pattern
  | .subquery q => selects scope q
  | .existsSubquery q => selects scope q
  | .function args rest => selects scope args ++ selects scope rest
  | .caseWhen operand conditions results elseResult =>
    selects scope operand ++ (selects scope conditions ++
      (selects scope results ++ selects scope elseResult))
  | .tuple items => selects scope items
  | .anyOp left right => selects scope left ++ selects scope right
  | .allOp left right => selects scope left ++ selects scope right
  | .otherExpr parts => selects scope parts
  | .noArguments => []
  | .argumentSubquery q => selects scope q
  | .argumentList args clauses => selects scope args ++ selects scope clauses
  | .unnamedArg e => selects scope e
  | .namedArg e => selects scope e
  | .wildcardArg => []
  | .withQuery recursive ctes body orderBy limits =>
    let inner := cteNames ctes ++ scope
    selects (if recursive then inner else scope) ctes ++ (selects inner body ++
      (selects inner orderBy ++ selects inner limits))
  | .cte _ q => selects scope q
  | .select projection _ relations selection groupBy having rest =>
    ⟨fromTables scope relations, columns true projection, hasWildcardItem projection⟩ ::
      (selects scope projection ++ (selects scope relations ++ (selects scope selection ++
        (selects scope having ++ (selects scope groupBy ++ selects scope rest)))))
  | .innerQuery q => selects scope q
  | .setOperation left right => selects scope left ++ selects scope right
  | .values rows => selects scope rows
  | .tableOnly _ => []
  | .modification s => selects scope s
  | .item e => selects scope e
  | .wildcard replaced => selects scope replaced
  | .tableWithJoins relation joins => selects scope relation ++ selects scope joins
  | .join relation operator => selects scope relation ++ selects scope operator
  | .constrained on => selects scope on
  | .asOf matchCondition on => selects scope matchCondition ++ selects scope on
  | .unconditional => []
  | .table _ rest => selects scope rest
  | .derived q => selects scope q
  | .nestedJoin t => selects scope t
  | .tableFunction parts => selects scope parts
  | .pivot t parts source => selects scope t ++ (selects scope parts ++ selects scope source)
  | .assign _ value => selects scope value
  | .queryStatement q => selects scope q
  | .insert _ _ source rest returning =>
    selects scope source ++ (selects scope rest ++ selects scope returning)
  | .update target assignments relation selection returning =>
    selects scope target ++ (selects scope assignments ++ (selects scope relation ++
      (selects scope selection ++ selects scope returning)))
  | .delete _ relations usingTables selection returning rest =>
    selects scope relations ++ (selects scope usingTables ++ (selects scope selection ++
      (selects scope returning ++ selects scope rest)))
  | .createTable _ source _ exprs => selects scope source ++ selects scope exprs
  | .createView _ q _ rest => selects scope q ++ selects scope rest
  | .createIndex _ exprs => selects scope exprs
  | .drop _ => []
  | .truncate _ partitions => selects scope partitions
  | .alterTable _ _ exprs => selects scope exprs
  | .control => []
  | .explain s => selects scope s
  | .otherStatement _ _ factors exprs queries =>
    selects scope factors ++ (selects scope exprs ++ selects scope queries)

/-! ## The blocks of the walk -/

/-- The tables that the walk of a phrase pushes for SELECT, in order; `action` as in `walk`. -/
def pushed {p : Phrase} : Ast p → StatementAction → List ObjectName
  | .cons head tail, action => pushed head action ++ pushed tail action
  | .present x, action => pushed x action
  | .unary _ e, action => pushed e action
  | .binaryOp left right, action => pushed left action ++ pushed right action
  | .inList e list, action => pushed e action ++ pushed list action
  | .inSubquery e q, action => pushed e action ++ pushed q .select
  | .between e low high, action => pushed e action ++ (pushed low action ++ pushed high action)
  | .like e pattern, action => pushed e action ++ pushed pattern action
  | .subquery q, _ => pushed q .select
  | .existsSubquery q, _ => pushed q .select
  | .function args _, action => pushed args action
  | .argumentSubquery q, _ => pushed q .select
  | .argumentList args _, action => pushed args action
  | .unnamedArg e, action => pushed e action
  | .caseWhen operand conditions results elseResult, action =>
    pushed operand action ++ (pushed conditions action ++
      (pushed results action ++ pushed elseResult action))
  | .tuple items, action => pushed items action
  | .withQuery _ ctes body _ _, action => pushed ctes action ++ pushed body action
  | .cte _ q, _ => pushed q .select
  | .select projection _ relations selection _ having _, action =>
    pushed projection action ++ (pushed relations action ++
      (pushed selection action ++ pushed having action))
  | .item e, action => pushed e action
  | .innerQuery q, action => pushed q action
  | .setOperation left right, action => pushed left action ++ pushed right action
  | .modification s, action => pushed s action
  | .tableWithJoins relation joins, action => pushed relation action ++ pushed joins action
  | .join relation operator, action => pushed relation action ++ pushed operator action
  | .constrained on, action => pushed on action
  | .asOf matchCondition on, action => pushed matchCondition action ++ pushed on action
  | .table name _, action => if action = .select then [name] else []
  | .derived q, _ => pushed q .select
  | .nestedJoin t, action => pushed t action
  | .queryStatement q, _ => pushed q .select
  | .insert _ _ source _ _, _ => pushed source .select
  | .update target assignments relation selection _, _ =>
    pushed target .update ++ (pushed assignments .select ++
      (pushed relation .select ++ pushed selection .select))
  | .assign _ value, action => pushed value action
  | .delete _ _ usingTables _ _ _, _ => pushed usingTables .select
  | .createView _ q _ _, _ => pushed q .select
  | _, _ => []

structure Block where
  /-- The tables for SELECT that are in the set when its FROM is walked. -/
  before : List ObjectName
  /-- Those that its FROM pushes, also from subqueries in it. -/
  relations : List ObjectName
  columns : List Column
  wildcard : Bool

/-- The blocks of a walk that starts with the tables `seen` in the set. -/
def blocks {p : Phrase} : Ast p → StatementAction → List ObjectName → List Block
  | .cons head tail, action, seen =>
    blocks head action seen ++ blocks tail action (seen ++ pushed head action)
  | .present x, action, seen => blocks x action seen
  | .unary _ e, action, seen => blocks e action seen
  | .binaryOp left right, action, seen =>
    blocks left action seen ++ blocks right action (seen ++ pushed left action)
  | .inList e list, action, seen =>
    blocks e action seen ++ blocks list action (seen ++ pushed e action)
  | .inSubquery e q, action, seen =>
    blocks e action seen ++ blocks q .select (seen ++ pushed e action)
  | .between e low high, action, seen =>
    blocks e action seen ++ (blocks low action (seen ++ pushed e action) ++
      blocks high action (seen ++ pushed e action ++ pushed low action))
  | .like e pattern, action, seen =>
    blocks e action seen ++ blocks pattern action (seen ++ pushed e action)
  | .subquery q, _, seen => blocks q .select seen
  | .existsSubquery q, _, seen => blocks q .select seen
  | .function args _, action, seen => blocks args action seen
  | .argumentSubquery q, _, seen => blocks q .select seen
  | .argumentList args _, action, seen => blocks args action seen
  | .unnamedArg e, action, seen => blocks e action seen
  | .caseWhen operand conditions results elseResult, action, seen =>
    blocks operand action seen ++ (blocks conditions action (seen ++ pushed operand action) ++
      (blocks results action (seen ++ pushed operand action ++ pushed conditions action) ++
        blocks elseResult action
          (seen ++ pushed operand action ++ pushed conditions action ++ pushed results action)))
  | .tuple items, action, seen => blocks items action seen
  | .withQuery _ ctes body _ _, action, seen =>
    blocks ctes action seen ++ blocks body action (seen ++ pushed ctes action)
  | .cte _ q, _, seen => blocks q .select seen
  | .select projection _ relations selection _ having _, action, seen =>
    let before := seen ++ pushed projection action
    let after := before ++ pushed relations action
    blocks projection action seen ++ ((blocks relations action before ++
      (if action = .select then
        [⟨before, pushed relations action, columns true projection, hasWildcardItem projection⟩]
      else [])) ++ (blocks selection action after ++
        blocks having action (after ++ pushed selection action)))
  | .item e, action, seen => blocks e action seen
  | .innerQuery q, action, seen => blocks q action seen
  | .setOperation left right, action, seen =>
    blocks left action seen ++ blocks right action (seen ++ pushed left action)
  | .modification s, action, seen => blocks s action seen
  | .tableWithJoins relation joins, action, seen =>
    blocks relation action seen ++ blocks joins action (seen ++ pushed relation action)
  | .join relation operator, action, seen =>
    blocks relation action seen ++ blocks operator action (seen ++ pushed relation action)
  | .constrained on, action, seen => blocks on action seen
  | .asOf matchCondition on, action, seen =>
    blocks matchCondition action seen ++ blocks on action (seen ++ pushed matchCondition action)
  | .derived q, _, seen => blocks q .select seen
  | .nestedJoin t, action, seen => blocks t action seen
  | .queryStatement q, _, seen => blocks q .select seen
  | .insert _ _ source _ _, _, seen => blocks source .select seen
  | .update target assignments relation selection _, _, seen =>
    blocks target .update seen ++ (blocks assignments .select (seen ++ pushed target .update) ++
      (blocks relation .select (seen ++ pushed target .update ++ pushed assignments .select) ++
        blocks selection .select (seen ++ pushed target .update ++ pushed assignments .select ++
          pushed relation .select)))
  | .assign _ value, action, seen => blocks value action seen
  | .delete _ _ usingTables _ _ _, _, seen => blocks usingTables .select seen
  | .createView _ q _ _, _, seen => blocks q .select seen
  | _, _, _ => []

/-! ## Records -/

/-- The name of a column as `push_col` keeps it. -/
def trimmed (name : String) : String := String.ofList (trim name.toList)

def Mentioned (names : List ObjectName) (name : ObjectName) : Prop := ∃ m ∈ names, sameTable m name = true

def IsFor (name : ObjectName) (o : ObjectAccess) : Prop :=
  o.op = .select ∧ eqIgnoreAsciiCase o.qualifiedTable (qualified name) = true

/-- The object has the column, or, for `none`, the wildcard. -/
def Has (o : ObjectAccess) : Option String → Prop
  | some c => ∃ c' ∈ o.columns, eqIgnoreAsciiCase c' (trimmed c) = true
  | none => o.hasWildcard = true

def Named (objects : List ObjectAccess) (name : ObjectName) : Prop := ∃ o ∈ objects, IsFor name o

/-- Some object for SELECT of the table has the column or the wildcard. -/
def Records (objects : List ObjectAccess) (name : ObjectName) (what : Option String) : Prop :=
  ∃ o ∈ objects, IsFor name o ∧ Has o what

/-- The columns have this one at a collected place, and it is not blank. -/
def Collects (columns : List Column) (wildcard : Bool) : Option String → Prop
  | some c => ∃ n ∈ columns, n.collected = true ∧ trimmed n.name ≠ "" ∧
      eqIgnoreAsciiCase (trimmed n.name) (trimmed c) = true
  | none => wildcard = true

/-- The block brings the table into the set and gives it the column or the wildcard. -/
structure Block.Gives (b : Block) (name : ObjectName) (what : Option String) : Prop where
  brought : Mentioned b.relations name
  first : ¬ Mentioned b.before name
  collects : Collects b.columns b.wildcard what

/-! ## Pushing columns -/

theorem trim_trim (s : List Char) : trim (trim s) = trim s := by
  have hend : ∀ t, trimEnd t = t.rdropWhile isWhitespace := fun _ => rfl
  have hstart : trimStart (trimEnd (trimStart s)) = trimEnd (trimStart s) := by
    -- what is left at the end begins as before, and that is no whitespace
    have hbegins : trimEnd (trimStart s) <+: trimStart s := by
      rw [hend]
      exact List.rdropWhile_prefix _ _
    obtain ⟨tail, htail⟩ := hbegins
    cases hleft : trimEnd (trimStart s) with
    | nil => rfl
    | cons c cs =>
      have hidem : trimStart (trimStart s) = trimStart s := List.dropWhile_idempotent _ _
      rw [hleft] at htail
      rw [← htail, List.cons_append] at hidem
      unfold trimStart at hidem ⊢
      cases hc : isWhitespace c with
      | false => rw [List.dropWhile_cons_of_neg (by rw [hc]; decide)]
      | true =>
        rw [List.dropWhile_cons_of_pos hc] at hidem
        have hlen := (List.dropWhile_sublist isWhitespace (l := cs ++ tail)).length_le
        rw [hidem, List.length_cons] at hlen
        omega
  unfold trim
  rw [hstart, hend, hend]
  exact List.rdropWhile_idempotent _ _

theorem trimmed_trimmed (name : String) : trimmed (trimmed name) = trimmed name := by
  unfold trimmed
  rw [String.toList_ofList, trim_trim]

theorem mem_pushCol (cols : List String) (name c : String) :
    (∃ c' ∈ pushCol cols name, eqIgnoreAsciiCase c' c = true) ↔ (∃ c' ∈ cols, eqIgnoreAsciiCase c' c = true) ∨
        (trimmed name ≠ "" ∧ eqIgnoreAsciiCase (trimmed name) c = true) := by
  have hsame : ∀ {a b c : String}, eqIgnoreAsciiCase a b = true → (eqIgnoreAsciiCase a c = true ↔
      eqIgnoreAsciiCase b c = true) := by
    intro a b c hab
    rw [eqIgnoreAsciiCase_iff] at hab
    rw [eqIgnoreAsciiCase_iff, eqIgnoreAsciiCase_iff, hab]
  show (∃ c' ∈ (if (trimmed name).isEmpty then cols
    else if cols.any (fun c => eqIgnoreAsciiCase c (trimmed name)) then cols
    else cols ++ [trimmed name]), _) ↔ _
  split
  · rename_i hempty
    have hblank : trimmed name = "" := String.isEmpty_iff.mp hempty
    constructor
    · exact .inl
    · rintro (h | ⟨hne, _⟩)
      · exact h
      · exact absurd hblank hne
  · rename_i hempty
    have hne : trimmed name ≠ "" := fun h => hempty (String.isEmpty_iff.mpr h)
    split
    · rename_i hany
      obtain ⟨c', hmem, heq⟩ := List.any_eq_true.mp hany
      constructor
      · exact .inl
      · rintro (h | ⟨_, h⟩)
        · exact h
        · exact ⟨c', hmem, (hsame heq).mpr h⟩
    · constructor
      · rintro ⟨c', hmem, h⟩
        rcases List.mem_append.mp hmem with hmem | hmem
        · exact .inl ⟨c', hmem, h⟩
        · rw [List.mem_singleton.mp hmem] at h
          exact .inr ⟨hne, h⟩
      · rintro (⟨c', hmem, h⟩ | ⟨_, h⟩)
        · exact ⟨c', List.mem_append_left _ hmem, h⟩
        · exact ⟨trimmed name, List.mem_append_right _ (List.mem_singleton.mpr rfl), h⟩

theorem mem_foldl_pushCol (names cols : List String) (c : String) :
    (∃ c' ∈ names.foldl pushCol cols, eqIgnoreAsciiCase c' c = true) ↔ (∃ c' ∈ cols, eqIgnoreAsciiCase c' c = true) ∨
        ∃ n ∈ names, trimmed n ≠ "" ∧ eqIgnoreAsciiCase (trimmed n) c = true := by
  induction names generalizing cols with
  | nil => simp
  | cons name names ih =>
    rw [List.foldl_cons, ih, mem_pushCol, or_assoc]
    simp only [List.mem_cons, exists_eq_or_imp]

def collectedNames (cols : List Column) : List String := (cols.filter (·.collected)).map (·.name)

theorem collectedNames_append (as bs : List Column) :
    collectedNames (as ++ bs) = collectedNames as ++ collectedNames bs := by
  unfold collectedNames
  rw [List.filter_append, List.map_append]

variable {p : Phrase} {objects' : List ObjectAccess} {f g : ObjectSet → ObjectSet} {as bs : List ObjectName}
  {obj : ObjectAccess}

theorem collectedNames_none {as bs : List Column} (ha : collectedNames as = []) (hb : collectedNames bs = []) :
    collectedNames (as ++ bs) = [] := by
  rw [collectedNames_append, ha, hb, List.append_nil]

theorem collectedNames_false (a : Ast p) : collectedNames (columns false a) = [] := by
  have hnames : ∀ names : List String, collectedNames (names.map fun n => ⟨n, false⟩) = [] := by
    intro names
    induction names with
    | nil => rfl
    | cons n names ih => exact ih
  induction a with
  | compoundIdentifier names => exact hnames _
  | caseWhen operand conditions results elseResult ihOperand ihConditions ihResults ihElse =>
    exact collectedNames_none ihOperand (collectedNames_none ihConditions (collectedNames_none ihResults ihElse))
  | between e low high ihE ihLow ihHigh => exact collectedNames_none ihE (collectedNames_none ihLow ihHigh)
  -- of the others, each has the columns of its parts, or none
  | _ =>
    first
    | rfl
    | assumption
    | exact collectedNames_none ‹_› ‹_›
    | solve_by_elim only [collectedNames_none, *]

theorem collects_both {f g : List String → List String} {as bs : List Column}
    (hf : ∀ cols, f cols = (collectedNames as).foldl pushCol cols)
    (hg : ∀ cols, g cols = (collectedNames bs).foldl pushCol cols) (cols : List String) :
    g (f cols) = (collectedNames (as ++ bs)).foldl pushCol cols := by
  rw [collectedNames_append, List.foldl_append, hg, hf]

theorem collects_first {f : List String → List String} {as bs : List Column}
    (hf : ∀ cols, f cols = (collectedNames as).foldl pushCol cols) (hbs : collectedNames bs = [])
    (cols : List String) : f cols = (collectedNames (as ++ bs)).foldl pushCol cols := by
  rw [collectedNames_append, hbs, List.append_nil, hf]

theorem collects_none {as : List Column} (has : collectedNames as = []) (cols : List String) :
    cols = (collectedNames as).foldl pushCol cols := by
  rw [has, List.foldl_nil]

theorem collectExprColumns_eq (a : Ast p) (cols : List String) :
    collectExprColumns a cols = (collectedNames (columns true a)).foldl pushCol cols := by
  have hone : ∀ (cols : List String) (n : String), pushCol cols n =
      (collectedNames ([n].map fun x => ⟨x, true⟩)).foldl pushCol cols := by
    intro cols n
    have hnames : collectedNames ([n].map fun x => ⟨x, true⟩) = [n] := rfl
    rw [hnames, List.foldl_cons, List.foldl_nil]
  induction a generalizing cols with
  | cons head tail ihHead ihTail => exact collects_both ihHead ihTail cols
  | present x ih => exact ih cols
  | item e ih => exact ih cols
  | identifier name => exact hone cols name
  | compoundIdentifier names =>
    show _ = (collectedNames ((columnName names).map (⟨·, true⟩))).foldl pushCol cols
    unfold columnName
    change (match names.reverse with | [] => _ | [_] => _ | _ :: _ :: _ => _) = _
    generalize names.reverse = parts
    match parts with
    | [] => rfl
    | [last] => exact hone cols last
    | last :: table :: _ => exact hone cols (table ++ "." ++ last)
  | unary kind e ih => exact ih cols
  | binaryOp left right ihLeft ihRight => exact collects_both ihLeft ihRight cols
  | function args rest ih _ => exact collects_first ih (collectedNames_false rest) cols
  | argumentList args clauses ih _ => exact collects_first ih (collectedNames_false clauses) cols
  | unnamedArg e ih => exact ih cols
  | caseWhen operand conditions results elseResult ihOperand ihConditions ihResults ihElse =>
    exact collects_both ihOperand (collects_both ihConditions (collects_both ihResults ihElse)) cols
  -- what `collect_expr_columns` does not look into
  | inList e list => exact collects_none (collectedNames_false (.inList e list)) cols
  | inSubquery e q => exact collects_none (collectedNames_false e) cols
  | between e low high => exact collects_none (collectedNames_false (.between e low high)) cols
  | like e pattern => exact collects_none (collectedNames_false (.like e pattern)) cols
  | wildcard replaced => exact collects_none (collectedNames_false replaced) cols
  | namedArg e => exact collects_none (collectedNames_false e) cols
  | tuple items => exact collects_none (collectedNames_false items) cols
  | anyOp left right => exact collects_none (collectedNames_false (.anyOp left right)) cols
  | allOp left right => exact collects_none (collectedNames_false (.allOp left right)) cols
  | otherExpr parts => exact collects_none (collectedNames_false parts) cols
  | _ => rfl

/-! ## What a step of the walk does to the objects for SELECT -/

/-- An object keeps its place and its operation, and one for SELECT is not changed. -/
structure Keeps (o o' : ObjectAccess) : Prop where
  op : o'.op = o.op
  same : o.op = .select → o' = o

theorem Keeps.refl (o : ObjectAccess) : Keeps o o := ⟨rfl, fun _ => rfl⟩

theorem Keeps.trans {a b c : ObjectAccess} (hab : Keeps a b) (hbc : Keeps b c) : Keeps a c := by
  refine ⟨hbc.op.trans hab.op, ?_⟩
  intro ha
  rw [hbc.same (hab.op.trans ha), hab.same ha]

theorem keeps_refl (objects : List ObjectAccess) : List.Forall₂ Keeps objects objects :=
  List.forall₂_same.mpr fun o _ => Keeps.refl o

theorem forall₂_keeps_trans {as bs cs : List ObjectAccess} (hab : List.Forall₂ Keeps as bs)
    (hbc : List.Forall₂ Keeps bs cs) : List.Forall₂ Keeps as cs := by
  induction hab generalizing cs with
  | nil =>
    cases hbc
    exact .nil
  | cons hfirst _ ih =>
    cases hbc with
    | cons hfirst' hrest' => exact .cons (hfirst.trans hfirst') (ih hrest')

theorem exists_of_keeps {P : ObjectAccess → Prop} (hP : ∀ o, P o → o.op = .select) {objects : List ObjectAccess}
    (h : List.Forall₂ Keeps objects objects') : (∃ o ∈ objects', P o) ↔ ∃ o ∈ objects, P o := by
  induction h with
  | nil => exact Iff.rfl
  | @cons o o' rest rest' hkeeps _ ih =>
    have hfirst : P o' ↔ P o := by
      constructor
      · intro ho'
        rw [← hkeeps.same (hkeeps.op.symm.trans (hP o' ho'))]
        exact ho'
      · intro ho
        rw [hkeeps.same (hP o ho)]
        exact ho
    rw [List.exists_mem_cons_iff, List.exists_mem_cons_iff, hfirst, ih]

theorem named_of_keeps {objects : List ObjectAccess} (h : List.Forall₂ Keeps objects objects')
    (name : ObjectName) : Named objects' name ↔ Named objects name :=
  exists_of_keeps (fun _ ho => ho.1) h

theorem records_of_keeps {objects : List ObjectAccess} (h : List.Forall₂ Keeps objects objects')
    (name : ObjectName) (what : Option String) : Records objects' name what ↔ Records objects name what :=
  exists_of_keeps (fun _ ho => ho.1.1) h

theorem named_append (as bs : List ObjectAccess) (name : ObjectName) :
    Named (as ++ bs) name ↔ Named as name ∨ Named bs name := by
  unfold Named
  simp only [List.mem_append, or_and_right, exists_or]

theorem records_append (as bs : List ObjectAccess) (name : ObjectName) (what : Option String) :
    Records (as ++ bs) name what ↔ Records as name what ∨ Records bs name what := by
  unfold Records
  simp only [List.mem_append, or_and_right, exists_or]

theorem mentioned_append (as bs : List ObjectName) (name : ObjectName) :
    Mentioned (as ++ bs) name ↔ Mentioned as name ∨ Mentioned bs name := by
  unfold Mentioned
  simp only [List.mem_append, or_and_right, exists_or]

/-- The function puts objects behind those that are there: for the tables `tables` as far as they are new,
    with what `given` says for the tables seen so far. -/
def Walks (f : ObjectSet → ObjectSet) (tables : List ObjectName) (given : List ObjectName → List Block) : Prop :=
  ∀ set seen, (∀ name, Named set.objects name ↔ Mentioned seen name) →
    ∃ old new, (f set).objects = old ++ new ∧ List.Forall₂ Keeps set.objects old ∧
      (∀ name, Named new name ↔ Mentioned tables name ∧ ¬ Mentioned seen name) ∧
      ∀ name what, Records new name what ↔ ∃ b ∈ given seen, b.Gives name what

theorem not_named_nil (name : ObjectName) : ¬ Named [] name := by
  rintro ⟨o, ho, _⟩
  exact List.not_mem_nil ho

theorem not_records_nil (name : ObjectName) (what : Option String) : ¬ Records [] name what := by
  rintro ⟨o, ho, _⟩
  exact List.not_mem_nil ho

theorem not_mentioned_nil (name : ObjectName) : ¬ Mentioned [] name := by
  rintro ⟨m, hm, _⟩
  exact List.not_mem_nil hm

theorem walks_of_keeps (h : ∀ set, ∃ old new, (f set).objects = old ++ new ∧ List.Forall₂ Keeps set.objects old ∧
      ∀ o ∈ new, o.op ≠ .select) : Walks f [] fun _ => [] := by
  intro set seen _
  obtain ⟨old, new, hobjects, hold, hnew⟩ := h set
  refine ⟨old, new, hobjects, hold, ?_, ?_⟩
  · intro name
    constructor
    · rintro ⟨o, ho, hfor⟩
      exact absurd hfor.1 (hnew o ho)
    · rintro ⟨hnone, _⟩
      exact absurd hnone (not_mentioned_nil name)
  · intro name what
    constructor
    · rintro ⟨o, ho, hfor, _⟩
      exact absurd hfor.1 (hnew o ho)
    · rintro ⟨b, hb, _⟩
      exact absurd hb List.not_mem_nil

theorem walks_nothing : Walks id [] fun _ => [] :=
  walks_of_keeps fun set => ⟨set.objects, [], (List.append_nil _).symm, keeps_refl _, nofun⟩

theorem Walks.andThen {givenF givenG : List ObjectName → List Block} (hf : Walks f as givenF) (hg : Walks g bs givenG) :
    Walks (fun set => g (f set)) (as ++ bs) fun seen => givenF seen ++ givenG (seen ++ as) := by
  intro set seen hseen
  obtain ⟨old₁, new₁, hobjects₁, hold₁, hnamed₁, hgiven₁⟩ := hf set seen hseen
  have hseen₁ : ∀ name, Named (f set).objects name ↔ Mentioned (seen ++ as) name := by
    intro name
    rw [hobjects₁, named_append, named_of_keeps hold₁, hseen, hnamed₁, mentioned_append]
    tauto
  obtain ⟨old₂, new₂, hobjects₂, hold₂, hnamed₂, hgiven₂⟩ := hg (f set) (seen ++ as) hseen₁
  rw [hobjects₁] at hold₂
  -- the second function kept what was there at first, and what the first one put behind it
  have hfirst := List.forall₂_take old₁.length hold₂
  have hsecond := List.forall₂_drop old₁.length hold₂
  rw [List.take_left] at hfirst
  rw [List.drop_left] at hsecond
  refine ⟨old₂.take old₁.length, old₂.drop old₁.length ++ new₂, ?_, ?_, ?_, ?_⟩
  · rw [hobjects₂, ← List.append_assoc, List.take_append_drop]
  · exact forall₂_keeps_trans hold₁ hfirst
  · intro name
    rw [named_append, named_of_keeps hsecond, hnamed₁, hnamed₂, mentioned_append, mentioned_append]
    tauto
  · intro name what
    rw [records_append, records_of_keeps hsecond, hgiven₁, hgiven₂]
    simp only [List.mem_append, or_and_right, exists_or]

theorem Walks.after {given : List ObjectName → List Block} (hg : Walks g bs given) (hf : Walks f [] fun _ => []) :
    Walks (fun set => g (f set)) bs given := by
  have hboth := hf.andThen hg
  simp only [List.append_nil, List.nil_append] at hboth
  exact hboth

theorem Walks.followed {given : List ObjectName → List Block} (hf : Walks f as given) (hg : Walks g [] fun _ => []) :
    Walks (fun set => g (f set)) as given := by
  have hboth := hf.andThen hg
  simp only [List.append_nil] at hboth
  exact hboth

/-! ## The steps of the walk -/

theorem mergeInto_plain (hcolumns : obj.columns = []) (hwildcard : obj.hasWildcard = false)
    (objects : List ObjectAccess) : (mergeInto obj objects = some objects ∧ ∃ o ∈ objects,
        eqIgnoreAsciiCase o.qualifiedTable obj.qualifiedTable = true ∧ o.op = obj.op) ∨
      (mergeInto obj objects = none ∧ ∀ o ∈ objects,
        ¬ (eqIgnoreAsciiCase o.qualifiedTable obj.qualifiedTable = true ∧ o.op = obj.op)) := by
  have hmerged : ∀ o, merged o obj = o := by
    intro o
    unfold merged
    rw [hcolumns, hwildcard, Bool.or_false]
    rfl
  induction objects with
  | nil => exact .inr ⟨rfl, nofun⟩
  | cons o rest ih =>
    unfold mergeInto
    by_cases hfound : eqIgnoreAsciiCase o.qualifiedTable obj.qualifiedTable = true ∧ o.op = obj.op
    · have htest : (eqIgnoreAsciiCase o.qualifiedTable obj.qualifiedTable && o.op == obj.op) = true :=
        Bool.and_eq_true_iff.mpr ⟨hfound.1, beq_iff_eq.mpr hfound.2⟩
      rw [if_pos htest, hmerged]
      exact .inl ⟨rfl, o, List.mem_cons_self, hfound⟩
    · have htest : ¬ (eqIgnoreAsciiCase o.qualifiedTable obj.qualifiedTable && o.op == obj.op) = true := by
        intro htest
        obtain ⟨hname, hop⟩ := Bool.and_eq_true_iff.mp htest
        exact hfound ⟨hname, beq_iff_eq.mp hop⟩
      rw [if_neg htest]
      rcases ih with ⟨hsome, o', ho', hsame⟩ | ⟨hnone, hno⟩
      · rw [hsome]
        exact .inl ⟨rfl, o', List.mem_cons_of_mem o ho', hsame⟩
      · rw [hnone]
        refine .inr ⟨rfl, ?_⟩
        intro o' ho'
        rcases List.mem_cons.mp ho' with rfl | ho'
        · exact hfound
        · exact hno o' ho'

theorem objectFromName_plain (name : ObjectName) (op : StatementAction) :
    (objectFromName name op).columns = [] ∧ (objectFromName name op).hasWildcard = false ∧
      (objectFromName name op).op = op := by
  unfold objectFromName
  split <;> exact ⟨rfl, rfl, rfl⟩

/-- `push_object` of a bare table: it is there already, or is put at the end. -/
theorem pushObject_cases (set : ObjectSet) (name : ObjectName) (op : StatementAction) :
    ((pushObject set (objectFromName name op)).objects = set.objects ∧ ∃ o ∈ set.objects,
        o.op = op ∧ eqIgnoreAsciiCase o.qualifiedTable (qualified name) = true) ∨
      ((pushObject set (objectFromName name op)).objects = set.objects ++ [objectFromName name op] ∧
        ∀ o ∈ set.objects, ¬ (o.op = op ∧ eqIgnoreAsciiCase o.qualifiedTable (qualified name) = true)) := by
  obtain ⟨hcolumns, hwildcard, hop⟩ := objectFromName_plain name op
  have hname := qualifiedTable_objectFromName name op
  have hcases := mergeInto_plain hcolumns hwildcard set.objects
  rw [hop, hname] at hcases
  unfold pushObject
  dsimp only
  rcases hcases with ⟨hsome, o, ho, hsame⟩ | ⟨hnone, hno⟩
  · rw [hsome]
    exact .inl ⟨rfl, o, ho, hsame.symm⟩
  · rw [hnone]
    exact .inr ⟨rfl, fun o ho hboth => hno o ho hboth.symm⟩

theorem walks_pushSelect (name : ObjectName) :
    Walks (fun set => pushObject set (objectFromName name .select)) [name] fun _ => [] := by
  obtain ⟨hcolumns, hwildcard, hop⟩ := objectFromName_plain name .select
  have hone : ∀ n, Mentioned [name] n ↔ sameTable name n = true := by
    intro n
    unfold Mentioned
    simp
  intro set seen hseen
  rcases pushObject_cases set name .select with ⟨hobjects, o, ho, hselect, hsame⟩ | ⟨hobjects, hno⟩
  · refine ⟨set.objects, [], hobjects.trans (List.append_nil _).symm, keeps_refl _, ?_, ?_⟩
    · intro n
      refine iff_of_false (not_named_nil n) ?_
      rintro ⟨hmention, hfresh⟩
      -- the table has an object already
      refine hfresh ((hseen n).mp ⟨o, ho, hselect, ?_⟩)
      rw [hone, sameTable, eqIgnoreAsciiCase_iff] at hmention
      rw [eqIgnoreAsciiCase_iff] at hsame ⊢
      exact hsame.trans hmention
    · intro n what
      exact iff_of_false (not_records_nil n what) (by rintro ⟨_, ⟨⟩, _⟩)
  · refine ⟨set.objects, [objectFromName name .select], hobjects, keeps_refl _, ?_, ?_⟩
    · intro n
      rw [hone]
      constructor
      · rintro ⟨o, ho, hfor⟩
        rw [List.mem_singleton.mp ho, IsFor, qualifiedTable_objectFromName] at hfor
        refine ⟨hfor.2, ?_⟩
        intro hmentioned
        obtain ⟨old, hold, hselect, hsame⟩ := (hseen n).mpr hmentioned
        refine hno old hold ⟨hselect, ?_⟩
        have hname := hfor.2
        rw [eqIgnoreAsciiCase_iff] at hname hsame ⊢
        exact hsame.trans hname.symm
      · rintro ⟨hsame, _⟩
        refine ⟨_, List.mem_singleton.mpr rfl, hop, ?_⟩
        rw [qualifiedTable_objectFromName]
        exact hsame
    · intro n what
      refine iff_of_false ?_ (by rintro ⟨_, ⟨⟩, _⟩)
      rintro ⟨o, ho, _, hhas⟩
      rw [List.mem_singleton.mp ho] at hhas
      cases what with
      | none => cases hwildcard.symm.trans hhas
      | some c =>
        obtain ⟨c', hc', _⟩ := hhas
        rw [hcolumns] at hc'
        exact List.not_mem_nil hc'

theorem walks_pushOther (name : ObjectName) {op : StatementAction} (hother : op ≠ .select) :
    Walks (fun set => pushObject set (objectFromName name op)) [] fun _ => [] := by
  refine walks_of_keeps ?_
  intro set
  rcases pushObject_cases set name op with ⟨hobjects, _⟩ | ⟨hobjects, _⟩
  · exact ⟨set.objects, [], hobjects.trans (List.append_nil _).symm, keeps_refl _, nofun⟩
  · refine ⟨set.objects, [objectFromName name op], hobjects, keeps_refl _, ?_⟩
    intro o ho
    rw [List.mem_singleton.mp ho, (objectFromName_plain name op).2.2]
    exact hother

theorem walks_pushNames (names : List ObjectName) {op : StatementAction} (hother : op ≠ .select) :
    Walks (pushNames names op) [] fun _ => [] := by
  induction names with
  | nil => exact walks_nothing
  | cons name names ih => exact (walks_pushOther name hother).andThen ih

theorem updateLast_keeps {op : StatementAction} (hother : op ≠ .select) {f : ObjectAccess → ObjectAccess}
    (hf : ∀ o, (f o).op = o.op) {objects : List ObjectAccess} (h : updateLast op f objects = some objects') :
    List.Forall₂ Keeps objects objects' := by
  induction objects generalizing objects' with
  | nil => cases h
  | cons o rest ih =>
    unfold updateLast at h
    split at h
    · rename_i rest' hrest
      cases h
      exact .cons (Keeps.refl o) (ih hrest)
    · split at h
      · rename_i hop
        cases h
        refine .cons ⟨hf o, ?_⟩ (keeps_refl rest)
        intro hselect
        exact absurd ((beq_iff_eq.mp hop).symm.trans hselect) hother
      · cases h

theorem walks_updateLast {op : StatementAction} (hother : op ≠ .select)
    {f : ObjectAccess → ObjectAccess} (hf : ∀ o, (f o).op = o.op) :
    Walks (fun set => { set with objects := (updateLast op f set.objects).getD set.objects }) []
      fun _ => [] := by
  refine walks_of_keeps ?_
  intro set
  dsimp only
  refine ⟨(updateLast op f set.objects).getD set.objects, [], (List.append_nil _).symm, ?_, nofun⟩
  cases hlast : updateLast op f set.objects with
  | none => exact keeps_refl _
  | some objects => exact updateLast_keeps hother hf hlast

theorem walks_append (hother : obj.op ≠ .select) :
    Walks (fun set => { set with objects := set.objects ++ [obj] }) [] fun _ => [] := by
  refine walks_of_keeps ?_
  intro set
  refine ⟨set.objects, [obj], rfl, keeps_refl _, ?_⟩
  intro o ho
  rw [List.mem_singleton.mp ho]
  exact hother

/-! ## The projection -/

theorem mem_foldl_pushCol_trimmed {names cols : List String} {n : String}
    (h : n ∈ names.foldl pushCol cols) : n ∈ cols ∨ (trimmed n = n ∧ n ≠ "") := by
  induction names generalizing cols with
  | nil => exact .inl h
  | cons name names ih =>
    rcases ih h with hpushed | hkept
    · have hcases : n ∈ cols ∨ (n = trimmed name ∧ trimmed name ≠ "") := by
        change n ∈ (if (trimmed name).isEmpty then cols
          else if cols.any (fun c => eqIgnoreAsciiCase c (trimmed name)) then cols
          else cols ++ [trimmed name]) at hpushed
        split at hpushed
        · exact .inl hpushed
        · rename_i hempty
          split at hpushed
          · exact .inl hpushed
          · rcases List.mem_append.mp hpushed with hold | hnew
            · exact .inl hold
            · exact .inr ⟨List.mem_singleton.mp hnew, fun hblank => hempty (String.isEmpty_iff.mpr hblank)⟩
      rcases hcases with hold | ⟨rfl, hne⟩
      · exact .inl hold
      · exact .inr ⟨trimmed_trimmed name, hne⟩
    · exact .inr hkept

/-- Columns that have been through `push_col` once are given to an object. -/
theorem mem_foldl_pushCol_again (names cols : List String) (c : String) :
    (∃ c' ∈ (names.foldl pushCol []).foldl pushCol cols, eqIgnoreAsciiCase c' (trimmed c) = true) ↔
      (∃ c' ∈ cols, eqIgnoreAsciiCase c' (trimmed c) = true) ∨
        ∃ n ∈ names, trimmed n ≠ "" ∧ eqIgnoreAsciiCase (trimmed n) (trimmed c) = true := by
  rw [mem_foldl_pushCol]
  refine or_congr Iff.rfl ?_
  have hstored : ∀ n ∈ names.foldl pushCol [], trimmed n = n ∧ n ≠ "" := by
    intro n hn
    rcases mem_foldl_pushCol_trimmed hn with hnil | hstored
    · exact absurd hnil List.not_mem_nil
    · exact hstored
  have honce := mem_foldl_pushCol names [] (trimmed c)
  constructor
  · rintro ⟨n, hn, _, hsame⟩
    rw [(hstored n hn).1] at hsame
    rcases honce.mp ⟨n, hn, hsame⟩ with ⟨c', hc', _⟩ | hpushed
    · exact absurd hc' List.not_mem_nil
    · exact hpushed
  · intro hpushed
    obtain ⟨n, hn, hsame⟩ := honce.mpr (.inr hpushed)
    obtain ⟨htrimmed, hnonblank⟩ := hstored n hn
    refine ⟨n, hn, ?_, ?_⟩
    · rw [htrimmed]
      exact hnonblank
    · rw [htrimmed]
      exact hsame

theorem exists_collectedNames (cols : List Column) (wildcard : Bool) (c : String) :
    (∃ n ∈ collectedNames cols, trimmed n ≠ "" ∧ eqIgnoreAsciiCase (trimmed n) (trimmed c) = true) ↔
      Collects cols wildcard (some c) := by
  constructor
  · rintro ⟨n, hn, hne, hsame⟩
    obtain ⟨col, hcol, rfl⟩ := List.mem_map.mp hn
    obtain ⟨hmem, hcollected⟩ := List.mem_filter.mp hcol
    exact ⟨col, hmem, hcollected, hne, hsame⟩
  · rintro ⟨col, hmem, hcollected, hne, hsame⟩
    exact ⟨col.name, List.mem_map_of_mem (List.mem_filter.mpr ⟨hmem, hcollected⟩), hne, hsame⟩

theorem has_projection (projection : Ast p) (o : ObjectAccess) (what : Option String) :
    Has { o with
        hasWildcard := o.hasWildcard || hasWildcardItem projection
        columns := (collectExprColumns projection []).foldl pushCol o.columns } what ↔
      Has o what ∨ Collects (columns true projection) (hasWildcardItem projection) what := by
  cases what with
  | none => exact Bool.or_eq_true_iff
  | some c =>
    show (∃ c' ∈ (collectExprColumns projection []).foldl pushCol o.columns, _) ↔ _
    rw [collectExprColumns_eq, mem_foldl_pushCol_again, exists_collectedNames _ (hasWildcardItem projection)]
    rfl

/-- **The FROM of a block**: the objects that it added get the columns of the projection. -/
theorem walks_attributed (projection : Ast p) (action : StatementAction) {tables : List ObjectName}
    {given : List ObjectName → List Block} (hf : Walks f tables given) :
    Walks (fun set => addProjection set.objects.length action (hasWildcardItem projection)
        (collectExprColumns projection []) (f set)) tables
      fun seen => given seen ++ (if action = .select then
        [⟨seen, tables, columns true projection, hasWildcardItem projection⟩] else []) := by
  intro set seen hseen
  obtain ⟨old, new, hobjects, hold, hnamed, hgiven⟩ := hf set seen hseen
  have hlength : set.objects.length = old.length := hold.length_eq
  let give : ObjectAccess → ObjectAccess := fun o =>
    if o.op == action then
      { o with
        hasWildcard := o.hasWildcard || hasWildcardItem projection
        columns := (collectExprColumns projection []).foldl pushCol o.columns }
    else o
  have hfor : ∀ name o, IsFor name (give o) ↔ IsFor name o := by
    intro name o
    show IsFor name (if o.op == action then _ else o) ↔ _
    split <;> exact Iff.rfl
  have hhas : ∀ o what, o.op = .select → (Has (give o) what ↔ Has o what ∨
      (action = .select ∧ Collects (columns true projection) (hasWildcardItem projection) what)) := by
    intro o what hselect
    show Has (if o.op == action then _ else o) what ↔ _
    split
    · rename_i hop
      have haction : action = .select := (beq_iff_eq.mp hop).symm.trans hselect
      rw [has_projection, haction]
      simp
    · rename_i hop
      have haction : action ≠ .select := fun h => hop (beq_iff_eq.mpr (hselect.trans h.symm))
      simp [haction]
  refine ⟨old, new.map give, ?_, hold, ?_, ?_⟩
  · show (f set).objects.take _ ++ ((f set).objects.drop _).map give = _
    rw [hobjects, hlength, List.take_left, List.drop_left]
  · intro name
    rw [← hnamed]
    unfold Named
    simp only [List.mem_map, exists_exists_and_eq_and, hfor]
  · intro name what
    have hsplit : Records (new.map give) name what ↔ Records new name what ∨
        (Named new name ∧ action = .select ∧
          Collects (columns true projection) (hasWildcardItem projection) what) := by
      constructor
      · rintro ⟨o', ho', hname, hwhat⟩
        obtain ⟨o, ho, rfl⟩ := List.mem_map.mp ho'
        rw [hfor] at hname
        rcases (hhas o what hname.1).mp hwhat with hwhat | hblock
        · exact .inl ⟨o, ho, hname, hwhat⟩
        · exact .inr ⟨⟨o, ho, hname⟩, hblock⟩
      · rintro (⟨o, ho, hname, hwhat⟩ | ⟨⟨o, ho, hname⟩, hblock⟩)
        · exact ⟨give o, List.mem_map_of_mem ho, (hfor name o).mpr hname, (hhas o what hname.1).mpr (.inl hwhat)⟩
        · exact ⟨give o, List.mem_map_of_mem ho, (hfor name o).mpr hname, (hhas o what hname.1).mpr (.inr hblock)⟩
    rw [hsplit, hgiven, hnamed]
    dsimp only
    by_cases haction : action = .select
    · rw [if_pos haction]
      constructor
      · rintro (⟨b, hb, hgives⟩ | ⟨⟨hmention, hfresh⟩, _, hcollects⟩)
        · exact ⟨b, List.mem_append_left _ hb, hgives⟩
        · exact ⟨_, List.mem_append_right _ (List.mem_singleton.mpr rfl), hmention, hfresh, hcollects⟩
      · rintro ⟨b, hb, hgives⟩
        rcases List.mem_append.mp hb with hb | hb
        · exact .inl ⟨b, hb, hgives⟩
        · rw [List.mem_singleton.mp hb] at hgives
          exact .inr ⟨⟨hgives.brought, hgives.first⟩, haction, hgives.collects⟩
    · rw [if_neg haction, List.append_nil]
      constructor
      · rintro (hgives | ⟨_, hselect, _⟩)
        · exact hgives
        · exact absurd hselect haction
      · exact .inl

/-! ## The walk -/

/-- **Walking a phrase pushes the tables and gives the columns that `pushed` and `blocks` say.** -/
theorem walks_walk (a : Ast p) (action : StatementAction) :
    Walks (walk a action) (pushed a action) (blocks a action) := by
  induction a generalizing action with
  | nil => exact walks_nothing
  | cons head tail ihHead ihTail => exact (ihHead action).andThen (ihTail action)
  | absent => exact walks_nothing
  | present x ih => exact ih action
  | identifier name => exact walks_nothing
  | compoundIdentifier names => exact walks_nothing
  | unary kind e ih => exact ih action
  | binaryOp left right ihLeft ihRight => exact (ihLeft action).andThen (ihRight action)
  | inList e list ihE ihList => exact (ihE action).andThen (ihList action)
  | inSubquery e q ihE ihQ => exact (ihE action).andThen (ihQ .select)
  | between e low high ihE ihLow ihHigh =>
    exact (ihE action).andThen ((ihLow action).andThen (ihHigh action))
  | like e pattern ihE ihPattern => exact (ihE action).andThen (ihPattern action)
  | subquery q ih => exact ih .select
  | existsSubquery q ih => exact ih .select
  | function args rest ihArgs _ => exact ihArgs action
  | caseWhen operand conditions results elseResult ihOperand ihConditions ihResults ihElse =>
    exact (ihOperand action).andThen
      ((ihConditions action).andThen ((ihResults action).andThen (ihElse action)))
  | tuple items ih => exact ih action
  | anyOp left right _ _ => exact walks_nothing
  | allOp left right _ _ => exact walks_nothing
  | otherExpr parts _ => exact walks_nothing
  | noArguments => exact walks_nothing
  | argumentSubquery q ih => exact ih .select
  | argumentList args clauses ihArgs _ => exact ihArgs action
  | unnamedArg e ih => exact ih action
  | namedArg e _ => exact walks_nothing
  | wildcardArg => exact walks_nothing
  | withQuery recursive ctes body orderBy limits ihCtes ihBody _ _ =>
    exact (ihCtes action).andThen (ihBody action)
  | cte name q ih => exact ih .select
  | select projection into relations selection groupBy having rest ihProjection ihRelations ihSelection _
      ihHaving _ =>
    have hfrom := walks_attributed projection action (ihRelations action)
    exact (ihProjection action).andThen
      (hfrom.andThen ((ihSelection action).andThen (ihHaving action)))
  | innerQuery q ih => exact ih action
  | setOperation left right ihLeft ihRight => exact (ihLeft action).andThen (ihRight action)
  | values rows _ => exact walks_nothing
  | tableOnly name => exact walks_nothing
  | modification s ih => exact ih action
  | item e ih => exact ih action
  | wildcard replaced _ => exact walks_nothing
  | tableWithJoins relation joins ihRelation ihJoins =>
    exact (ihRelation action).andThen (ihJoins action)
  | join relation operator ihRelation ihOperator =>
    exact (ihRelation action).andThen (ihOperator action)
  | constrained on ih => exact ih action
  | asOf matchCondition on ihMatch ihOn => exact (ihMatch action).andThen (ihOn action)
  | unconditional => exact walks_nothing
  | table name rest _ =>
    by_cases haction : action = .select
    · subst haction
      exact walks_pushSelect name
    · have hpushed : pushed (.table name rest) action = [] := if_neg haction
      rw [hpushed]
      exact walks_pushOther name haction
  | derived q ih => exact ih .select
  | nestedJoin t ih => exact ih action
  | tableFunction parts _ => exact walks_nothing
  | pivot t parts source _ _ _ => exact walks_nothing
  | assign targets value ih => exact ih action
  | queryStatement q ih => exact ih .select
  | insert name columns source rest returning ihSource _ _ =>
    have hother : ({ objectFromName name .insert with
        columns := columns.foldl pushCol (objectFromName name .insert).columns } :
          ObjectAccess).op ≠ .select := by
      show (objectFromName name .insert).op ≠ .select
      rw [(objectFromName_plain name .insert).2.2]
      decide
    exact (ihSource .select).after (walks_append hother)
  | update target assignments relation selection returning ihTarget ihAssignments ihRelation ihSelection
      _ =>
    have hother : StatementAction.update ≠ .select := by decide
    have htarget := (ihTarget .update).followed (walks_updateLast hother
      (f := fun o => { o with columns := (assignedColumns assignments).foldl pushCol o.columns })
      (fun _ => rfl))
    exact htarget.andThen
      ((ihAssignments .select).andThen ((ihRelation .select).andThen (ihSelection .select)))
  | delete tables relations usingTables selection returning rest _ ihUsing _ _ _ =>
    have hother : StatementAction.delete ≠ .select := by decide
    have hvisited := walks_pushNames (visit relations ++ (visit usingTables ++ (visit selection ++
      (visit returning ++ visit rest)))) hother
    exact ((ihUsing .select).after hvisited).followed (walks_pushNames tables hother)
  | createTable name source references exprs _ _ => exact walks_pushOther name (by decide)
  | createView name q mentions rest ih _ => exact (ih .select).after (walks_pushOther name (by decide))
  | createIndex name exprs _ => exact walks_pushOther name (by decide)
  | drop names => exact walks_pushNames names (by decide)
  | truncate names partitions _ => exact walks_pushNames (names ++ visit partitions) (by decide)
  | alterTable name references exprs _ => exact walks_pushOther name (by decide)
  | control => exact walks_nothing
  | explain s _ => exact walks_pushNames (visit s) (by decide)
  | otherStatement relations mentions factors exprs queries _ _ _ =>
    exact walks_pushNames (relations ++ (visit factors ++ (visit exprs ++ visit queries))) (by decide)

theorem records_extract (statements : Ast (.many .statement)) (name : ObjectName)
    (what : Option String) : Records (extract statements).objects name what ↔
      ∃ b ∈ blocks statements .other [], b.Gives name what := by
  have hstart : ∀ name, Named [] name ↔ Mentioned [] name := by
    intro name
    exact iff_of_false (not_named_nil name) (not_mentioned_nil name)
  obtain ⟨old, new, hobjects, hold, _, hgiven⟩ := walks_walk statements .other ⟨[], false, false⟩ [] hstart
  rw [extract, hobjects, records_append, records_of_keeps hold, hgiven]
  exact or_iff_right (not_records_nil name what)

/-! ## Completeness -/

/-- Every column and wildcard of every SELECT block is recorded for each base table of its FROM. -/
def ColumnsComplete (statements : Ast (.many .statement)) : Prop :=
  ∀ b ∈ selects [] statements, ∀ t ∈ b.tables,
    (∀ c ∈ b.columns, Records (extract statements).objects t (some c.name)) ∧
      (b.wildcard = true → Records (extract statements).objects t none)

/-- **All columns are recorded exactly when a walked block that brings the table into the set collects them.** -/
theorem columns_complete_iff (statements : Ast (.many .statement)) : ColumnsComplete statements ↔
      ∀ b ∈ selects [] statements, ∀ t ∈ b.tables,
        (∀ c ∈ b.columns, ∃ b' ∈ blocks statements .other [], b'.Gives t (some c.name)) ∧
          (b.wildcard = true → ∃ b' ∈ blocks statements .other [], b'.Gives t none) := by
  unfold ColumnsComplete
  simp only [records_extract]

/-- `SELECT <column> FROM users`. -/
def fromUsers (column : String) : Ast .setExpr :=
  .select (.cons (.item (.identifier column)) .nil) none
    (.cons (.tableWithJoins (.table ["users"] .nil) .nil) .nil) .absent .nil .absent .nil

/-- `SELECT id FROM users UNION SELECT password FROM users`. -/
def secondBranch : Ast (.many .statement) :=
  .cons (.queryStatement (.withQuery false .nil
    (.setOperation (fromUsers "id") (fromUsers "password")) .nil .nil)) .nil

theorem second_branch_column_lost : (extract secondBranch).objects = [⟨none, "users", ["id"], .select, false⟩] ∧
      ¬ ColumnsComplete secondBranch := by
  have hobjects : (extract secondBranch).objects = [⟨none, "users", ["id"], .select, false⟩] := by
    decide
  refine ⟨hobjects, ?_⟩
  intro hcomplete
  have hblock : (⟨[["users"]], [⟨"password", true⟩], false⟩ : Select) ∈ selects [] secondBranch :=
    List.mem_cons_of_mem _ List.mem_cons_self
  obtain ⟨hcolumns, _⟩ := hcomplete _ hblock ["users"] List.mem_cons_self
  obtain ⟨o, ho, _, c, hc, hsame⟩ := hcolumns ⟨"password", true⟩ List.mem_cons_self
  rw [hobjects] at ho
  rw [List.mem_singleton.mp ho] at hc
  rw [List.mem_singleton.mp hc] at hsame
  revert hsame
  decide

end DataNexus.Extract
