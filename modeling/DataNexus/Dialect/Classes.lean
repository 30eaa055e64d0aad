/-
  Whether the action that a statement gets from its leading keyword is its real one.

  1. **What a text means** — each statement is a query or not, and changes data or the schema in a number of ways
     (`changes`).  `Right` is what the action of the whole text has to be.

  2. **What the code looks at** — the first statement only, and of that the head: `form`.

  3. **The proof** — `formSpec_kindOf` says what the action is for each form; `right_iff_of_formSpec` compares that with
     `Right`, once for both dialects.
-/
import DataNexus.Dialect.MySql

namespace DataNexus.Dialect

open DataNexus.Text DataNexus.Pdp

/-! ## What a text means -/

inductive Change where
  | insert
  | update
  | delete
  | ddl
deriving DecidableEq

def Change.action : Change → StatementAction
  | .insert => .insert
  | .update => .update
  | .delete => .delete
  | .ddl => .ddl

/-- The ways in which a phrase changes data or the schema. -/
def changes {p : Phrase} : Ast p → List Change
  | .nil => []
  | .cons head tail => changes head ++ changes tail
  | .query ctes body _ nested => changes ctes ++ (changes body ++ changes nested)
  | .select into nested => (if into then [.ddl] else []) ++ changes nested
  | .innerQuery q => changes q
  | .setOperation left right => changes left ++ changes right
  | .values nested => changes nested
  | .insertExpr s => changes s
  | .updateExpr s => changes s
  | .tableExpr => []
  | .queryStmt q => changes q
  | .insert nested => .insert :: changes nested
  | .update nested => .update :: changes nested
  | .delete nested => .delete :: changes nested
  | .merge nested => changes nested
  | .ddl _ nested => .ddl :: changes nested
  | .show _ => []
  | .explain analyze s => if analyze then changes s else []
  | .explainTable => []
  | .utility _ nested => changes nested

/-- The statement is a query: it gives rows and, its `changes` apart, does nothing else. -/
def isQuery {p : Phrase} : Ast p → Bool
  | .queryStmt _ => true
  | .show _ => true
  | .explain analyze s => !analyze || isQuery s
  | .explainTable => true
  | _ => false

namespace MySql

def changes : Stmt → List Change
  | .insert => [.insert]
  | .update => [.update]
  | .delete => [.delete]
  | .create => [.ddl]
  | _ => []

def isQuery : Stmt → Bool
  | .select _ => true
  | .show => true
  | _ => false

def isStatement : Stmt → Bool
  | .noStatement => false
  | _ => true

end MySql

structure Meaning where
  query : Bool
  changes : List Change

/-- The two parsers: the statements of a text, `none` where they fail or panic. -/
structure Parsers where
  postgreSql : String → Option (List (Ast .stmt))
  mySql : String → Option (List MySql.Stmt)

/-- The text has statements that its parser gives. -/
def Parsers.Parses (parsers : Parsers) (sql : String) : Protocol → Prop
  | .postgreSql => ∃ first rest, parsers.postgreSql sql = some (first :: rest)
  | .mySql => ∃ first rest, parsers.mySql sql = some (first :: rest)

/-- `runtime_dialect_parser(protocol).leading_keyword`. -/
def Parsers.leadingKeyword (parsers : Parsers) : Protocol → String → Option String
  | .postgreSql, sql => postgreSqlLeadingKeyword parsers.postgreSql sql
  | .mySql, sql => MySql.mySqlLeadingKeyword parsers.mySql sql

def Parsers.meanings (parsers : Parsers) (sql : String) : Protocol → List Meaning
  | .postgreSql => ((parsers.postgreSql sql).getD []).map fun s => ⟨isQuery s, changes s⟩
  | .mySql => (((parsers.mySql sql).getD []).filter MySql.isStatement).map fun s =>
      ⟨MySql.isQuery s, MySql.changes s⟩

/-- The action is that of the text: Select for queries without changes, Ddl if the schema changes, else a change of data. -/
structure Right (statements : List Meaning) (action : Option StatementAction) : Prop where
  select : action = some .select ↔ statements ≠ [] ∧ ∀ s ∈ statements, s.query = true ∧ s.changes = []
  ddl : (∃ s ∈ statements, .ddl ∈ s.changes) → action = some .ddl
  dml : (∀ s ∈ statements, .ddl ∉ s.changes) → (∃ s ∈ statements, s.changes ≠ []) →
    ∃ s ∈ statements, ∃ c ∈ s.changes, action = some c.action

/-! ## What the code looks at -/

/-- What the head of the first statement looks like. -/
inductive Form where
  /-- A query without a row lock, SHOW or EXPLAIN. -/
  | reading
  | writing
  /-- One of the listed CREATE statements. -/
  | defining
  | unknown
deriving DecidableEq

/-- The head of a statement: the lock of a query, then its body, through parentheses and the branches of a
    set operation. -/
def form {p : Phrase} : Ast p → Form
  | .query _ body locks _ => if locks.isEmpty then form body else .unknown
  | .select _ _ => .reading
  | .values _ => .reading
  | .tableExpr => .reading
  | .innerQuery q => form q
  | .setOperation left right =>
    if form left = .reading ∧ form right = .reading then .reading else .unknown
  | .insertExpr s => form s
  | .updateExpr s => form s
  | .queryStmt q => form q
  | .insert _ => .writing
  | .update _ => .writing
  | .delete _ => .writing
  | .ddl kind _ => if kind.isListedCreate then .defining else .unknown
  | .show kind => if kind = .status then .unknown else .reading
  | .explain _ _ => .reading
  | .explainTable => .reading
  | _ => .unknown

def MySql.form : MySql.Stmt → Form
  | .select q => if hasLockWords q then .unknown else .reading
  | .show => .reading
  | .insert => .writing
  | .update => .writing
  | .delete => .writing
  | .create => .defining
  | _ => .unknown

def Parsers.firstForm (parsers : Parsers) (sql : String) : Protocol → Form
  | .postgreSql => ((parsers.postgreSql sql).bind List.head?).elim .unknown form
  | .mySql => ((parsers.mySql sql).bind List.head?).elim .unknown MySql.form

/-- When the form of the first statement says enough about the whole text. -/
def Decided (statements : List Meaning) : Form → Prop
  | .reading => ∀ s ∈ statements, s.query = true ∧ s.changes = []
  | .writing => ∀ s ∈ statements, .ddl ∉ s.changes
  | .defining => True
  | .unknown => (∀ s ∈ statements, s.changes = []) ∧
      (statements = [] ∨ ∃ s ∈ statements, s.query = false)

/-! ## The comparison -/

/-- What the action is for each form, and what the statement with that head changes. -/
def FormSpec (action : StatementAction) (changes : List Change) : Form → Prop
  | .reading => action = .select
  | .writing => ∃ c ∈ changes, c ≠ .ddl ∧ action = c.action
  | .defining => action = .ddl ∧ .ddl ∈ changes
  | .unknown => action = .tcl ∨ action = .other

theorem right_iff_of_formSpec {statements : List Meaning} (first : Meaning) {action : StatementAction}
    {form : Form} (hspec : FormSpec action first.changes form) (hfirst : form ≠ .unknown → first ∈ statements) :
    Right statements (some action) ↔ Decided statements form := by
  have hsome : ∀ a, some action = some a ↔ action = a := fun a => Option.some_inj
  cases form with
  | reading =>
    have haction : action = .select := hspec
    have hmem := hfirst nofun
    subst haction
    constructor
    · intro hright
      exact (hright.select.mp rfl).2
    · intro hall
      have hnone : ∀ s ∈ statements, s.changes = [] := fun s hs => (hall s hs).2
      refine ⟨⟨fun _ => ⟨List.ne_nil_of_mem hmem, hall⟩, fun _ => rfl⟩, ?_, ?_⟩
      · rintro ⟨s, hs, hddl⟩
        rw [hnone s hs] at hddl
        exact absurd hddl List.not_mem_nil
      · rintro _ ⟨s, hs, hchanges⟩
        exact absurd (hnone s hs) hchanges
  | writing =>
    obtain ⟨c, hchanges, hdata, rfl⟩ := hspec
    have hmem := hfirst nofun
    have hselect : c.action ≠ .select := by cases c <;> exact nofun
    have hddl : c.action ≠ .ddl := by
      cases c with
      | ddl => exact absurd rfl hdata
      | _ => exact nofun
    constructor
    · intro hright s hs hmember
      exact hddl ((hsome _).mp (hright.ddl ⟨s, hs, hmember⟩))
    · intro hall
      refine ⟨⟨fun h => absurd ((hsome _).mp h) hselect, ?_⟩, ?_, ?_⟩
      · rintro ⟨_, hnone⟩
        rw [(hnone first hmem).2] at hchanges
        exact absurd hchanges List.not_mem_nil
      · rintro ⟨s, hs, hmember⟩
        exact absurd hmember (hall s hs)
      · intro _ _
        exact ⟨first, hmem, c, hchanges, rfl⟩
  | defining =>
    obtain ⟨rfl, hchanges⟩ := hspec
    have hmem := hfirst nofun
    refine iff_of_true ⟨⟨nofun, ?_⟩, fun _ => rfl, ?_⟩ trivial
    · rintro ⟨_, hnone⟩
      rw [(hnone first hmem).2] at hchanges
      exact absurd hchanges List.not_mem_nil
    · intro hall _
      exact absurd hchanges (hall first hmem)
  | unknown =>
    -- an action of no change and not Select: right only where none of those is asked for
    have hselect : action ≠ .select := by
      rintro rfl
      rcases hspec with h | h <;> exact absurd h nofun
    have hchange : ∀ c : Change, action ≠ c.action := by
      intro c h
      rcases hspec with hspec | hspec <;> rw [hspec] at h <;> cases c <;> exact absurd h nofun
    constructor
    · intro hright
      have hddl : ∀ s ∈ statements, .ddl ∉ s.changes := fun s hs hmember =>
        hchange .ddl ((hsome _).mp (hright.ddl ⟨s, hs, hmember⟩))
      have hnone : ∀ s ∈ statements, s.changes = [] := by
        intro s hs
        by_contra hchanges
        obtain ⟨_, _, c, _, haction⟩ := hright.dml hddl ⟨s, hs, hchanges⟩
        exact hchange c ((hsome _).mp haction)
      refine ⟨hnone, ?_⟩
      by_contra hqueries
      push Not at hqueries
      obtain ⟨hne, hall⟩ := hqueries
      refine hselect ((hsome _).mp (hright.select.mpr ⟨hne, ?_⟩))
      intro s hs
      exact ⟨(Bool.not_eq_false _).mp (hall s hs), hnone s hs⟩
    · rintro ⟨hnone, hqueries⟩
      refine ⟨⟨fun h => absurd ((hsome _).mp h) hselect, ?_⟩, ?_, ?_⟩
      · rintro ⟨hne, hall⟩
        rcases hqueries with hempty | ⟨s, hs, hquery⟩
        · exact absurd hempty hne
        · cases hquery.symm.trans (hall s hs).1
      · rintro ⟨s, hs, hmember⟩
        rw [hnone s hs] at hmember
        exact absurd hmember List.not_mem_nil
      · rintro _ ⟨s, hs, hchanges⟩
        exact absurd (hnone s hs) hchanges

def PostgresAstKind.action (kind : PostgresAstKind) : StatementAction := StatementAction.fromKeyword kind.leadingKeyword

theorem PostgresAstKind.action_eq (kind : PostgresAstKind) : kind.action =
    match kind with
    | .select | .values | .show | .explain => .select
    | .insert => .insert
    | .update => .update
    | .delete => .delete
    | .create => .ddl
    | .begin | .commit | .rollback => .tcl
    | .set | .copy | .other => .other := by
  cases kind <;> decide

theorem action_of_isReadOnlyFromAst {kind : PostgresAstKind} (h : kind.isReadOnlyFromAst = true) :
    kind.action = .select := by
  rw [PostgresAstKind.action_eq]
  cases kind <;> first | rfl | exact absurd h nofun

theorem FormSpec.mono {action : StatementAction} {some all : List Change} {form : Form}
    (h : FormSpec action some form) (hsub : some ⊆ all) : FormSpec action all form := by
  cases form with
  | reading => exact h
  | writing =>
    obtain ⟨c, hc, hdata, haction⟩ := h
    exact ⟨c, hsub hc, hdata, haction⟩
  | defining => exact ⟨h.1, hsub h.2⟩
  | unknown => exact h

structure Fits (kind : PostgresAstKind) (changes : List Change) (form : Form) : Prop where
  spec : FormSpec kind.action changes form
  reads : kind.isReadOnlyFromAst = true ↔ form = .reading

theorem fits_reading {kind : PostgresAstKind} (h : kind.isReadOnlyFromAst = true)
    (changes : List Change) : Fits kind changes .reading :=
  ⟨action_of_isReadOnlyFromAst h, iff_of_true h rfl⟩

theorem fits_unknown {kind : PostgresAstKind} (h : kind.action = .tcl ∨ kind.action = .other)
    (changes : List Change) : Fits kind changes .unknown := by
  refine ⟨h, iff_of_false ?_ nofun⟩
  intro hreads
  rw [action_of_isReadOnlyFromAst hreads] at h
  rcases h with h | h <;> exact absurd h nofun

theorem fits_other (changes : List Change) : Fits .other changes .unknown :=
  fits_unknown (.inr (PostgresAstKind.action_eq .other)) changes

theorem fits_writing {kind : PostgresAstKind} {c : Change} (hdata : c ≠ .ddl) (hkind : kind.action = c.action)
    {changes : List Change} (hc : c ∈ changes) : Fits kind changes .writing := by
  refine ⟨⟨c, hc, hdata, hkind⟩, iff_of_false ?_ nofun⟩
  intro hreads
  rw [action_of_isReadOnlyFromAst hreads] at hkind
  cases c <;> exact absurd hkind nofun

/-- **What the kind of a phrase says, for each form of its head.** -/
theorem fits_kindOf {p : Phrase} (a : Ast p) : Fits (kindOf a) (changes a) (form a) := by
  induction a with
  | nil => exact fits_other _
  | cons head tail _ _ => exact fits_other _
  | query ctes body locks nested _ ih _ =>
    rw [kindOf, form, changes]
    split
    · refine ⟨ih.spec.mono ?_, ih.reads⟩
      intro c hc
      exact List.mem_append_right _ (List.mem_append_left _ hc)
    · exact fits_other _
  | select into nested _ => exact fits_reading rfl _
  | values nested _ => exact fits_reading rfl _
  | tableExpr => exact fits_reading rfl _
  | innerQuery q ih => exact ih
  | setOperation left right ihLeft ihRight =>
    rw [kindOf, form]
    by_cases hboth : form left = .reading ∧ form right = .reading
    · have hreads := Bool.and_eq_true_iff.mpr ⟨ihLeft.reads.mpr hboth.1, ihRight.reads.mpr hboth.2⟩
      rw [if_pos hreads, if_pos hboth]
      exact fits_reading rfl _
    · have hreads : ¬ ((kindOf left).isReadOnlyFromAst && (kindOf right).isReadOnlyFromAst) = true := by
        intro hreads
        obtain ⟨hleft, hright⟩ := Bool.and_eq_true_iff.mp hreads
        exact hboth ⟨ihLeft.reads.mp hleft, ihRight.reads.mp hright⟩
      rw [if_neg hreads, if_neg hboth]
      exact fits_other _
  | insertExpr s ih => exact ih
  | updateExpr s ih => exact ih
  | queryStmt q ih => exact ih
  | insert nested _ =>
    exact fits_writing (c := .insert) nofun (PostgresAstKind.action_eq .insert) List.mem_cons_self
  | update nested _ =>
    exact fits_writing (c := .update) nofun (PostgresAstKind.action_eq .update) List.mem_cons_self
  | delete nested _ =>
    exact fits_writing (c := .delete) nofun (PostgresAstKind.action_eq .delete) List.mem_cons_self
  | merge nested _ => exact fits_other _
  | ddl kind nested _ =>
    rw [kindOf, form]
    split
    · exact ⟨⟨PostgresAstKind.action_eq .create, List.mem_cons_self⟩, iff_of_false nofun nofun⟩
    · exact fits_other _
  | «show» kind =>
    rw [kindOf, form]
    split
    · exact fits_other _
    · exact fits_reading rfl _
  | explain analyze s _ => exact fits_reading rfl _
  | explainTable => exact fits_reading rfl _
  | utility kind nested _ =>
    cases kind with
    | copy => exact fits_unknown (.inr (PostgresAstKind.action_eq .copy)) _
    | startTransaction => exact fits_unknown (.inl (PostgresAstKind.action_eq .begin)) _
    | commit => exact fits_unknown (.inl (PostgresAstKind.action_eq .commit)) _
    | rollback => exact fits_unknown (.inl (PostgresAstKind.action_eq .rollback)) _
    | set => exact fits_unknown (.inr (PostgresAstKind.action_eq .set)) _
    | other => exact fits_other _

theorem MySql.formSpec_stmtKind (s : MySql.Stmt) :
    FormSpec (StatementAction.fromKeyword (stmtKind s).leadingKeyword) (MySql.changes s) (MySql.form s) := by
  cases s with
  | select q =>
    rw [stmtKind, MySql.form]
    split
    · exact .inr (by decide)
    · show StatementAction.fromKeyword "SELECT" = .select
      decide
  | «show» =>
    show StatementAction.fromKeyword "SHOW" = .select
    decide
  | insert => exact ⟨.insert, List.mem_cons_self, nofun, by decide⟩
  | update => exact ⟨.update, List.mem_cons_self, nofun, by decide⟩
  | delete => exact ⟨.delete, List.mem_cons_self, nofun, by decide⟩
  | begin => exact .inl (by decide)
  | commit => exact .inl (by decide)
  | rollback => exact .inl (by decide)
  | set => exact .inr (by decide)
  | prepare => exact .inr (by decide)
  | execute => exact .inr (by decide)
  | deallocate => exact .inr (by decide)
  | create => exact ⟨by decide, List.mem_cons_self⟩
  | noStatement => exact .inr (by decide)

/-- The action that the gateway takes a text for. -/
def Parsers.action (parsers : Parsers) (protocol : Protocol) (sql : String) : Option StatementAction :=
  (parsers.leadingKeyword protocol sql).map StatementAction.fromKeyword

/-- **A text that parses gets its right action exactly when the form of its first statement decides it.** -/
theorem classification_right_iff (parsers : Parsers) (protocol : Protocol) (sql : String)
    (hparses : parsers.Parses sql protocol) : Right (parsers.meanings sql protocol) (parsers.action protocol sql) ↔
      Decided (parsers.meanings sql protocol) (parsers.firstForm sql protocol) := by
  cases protocol with
  | postgreSql =>
    obtain ⟨first, rest, hparse⟩ := hparses
    have haction : parsers.action .postgreSql sql = some (kindOf first).action := by
      show (postgreSqlLeadingKeyword parsers.postgreSql sql).map _ = _
      rw [postgreSqlLeadingKeyword, classifyPostgreSqlAst, hparse]
      rfl
    have hform : parsers.firstForm sql .postgreSql = form first := by
      show ((parsers.postgreSql sql).bind List.head?).elim .unknown form = _
      rw [hparse]
      rfl
    have hmeanings : parsers.meanings sql .postgreSql =
        (first :: rest).map fun s => ⟨isQuery s, changes s⟩ := by
      show ((parsers.postgreSql sql).getD []).map _ = _
      rw [hparse]
      rfl
    rw [haction, hform, hmeanings]
    exact right_iff_of_formSpec ⟨isQuery first, changes first⟩ (fits_kindOf first).spec
      fun _ => List.mem_cons_self
  | mySql =>
    obtain ⟨first, rest, hparse⟩ := hparses
    have haction : parsers.action .mySql sql =
        some (StatementAction.fromKeyword (MySql.stmtKind first).leadingKeyword) := by
      show (MySql.mySqlLeadingKeyword parsers.mySql sql).map _ = _
      rw [MySql.mySqlLeadingKeyword, MySql.classifyMySqlSql, hparse]
      rfl
    have hform : parsers.firstForm sql .mySql = MySql.form first := by
      show ((parsers.mySql sql).bind List.head?).elim .unknown MySql.form = _
      rw [hparse]
      rfl
    have hmeanings : parsers.meanings sql .mySql = ((first :: rest).filter MySql.isStatement).map fun s =>
        ⟨MySql.isQuery s, MySql.changes s⟩ := by
      show (((parsers.mySql sql).getD []).filter _).map _ = _
      rw [hparse]
      rfl
    rw [haction, hform, hmeanings]
    refine right_iff_of_formSpec ⟨MySql.isQuery first, MySql.changes first⟩
      (MySql.formSpec_stmtKind first) ?_
    intro hknown
    have hstatement : MySql.isStatement first = true := by
      cases first with
      | noStatement => exact absurd rfl hknown
      | _ => rfl
    exact List.mem_map_of_mem (List.mem_filter.mpr ⟨List.mem_cons_self, hstatement⟩)

def someTexts : Parsers where
  postgreSql := fun sql =>
    if sql = "DROP TABLE users" then some [.ddl .drop .nil]
    else if sql = "SELECT 1; DELETE FROM users" then
      some [.queryStmt (.query .nil (.select false .nil) [] .nil), .delete .nil]
    else if sql = "INSERT INTO t VALUES (1); SELECT 1" then
      some [.insert .nil, .queryStmt (.query .nil (.select false .nil) [] .nil)]
    else none
  mySql := fun _ => none

theorem insert_first_right : someTexts.Parses "INSERT INTO t VALUES (1); SELECT 1" .postgreSql ∧
      Right (someTexts.meanings "INSERT INTO t VALUES (1); SELECT 1" .postgreSql)
        (someTexts.action .postgreSql "INSERT INTO t VALUES (1); SELECT 1") := by
  have hparses : someTexts.Parses "INSERT INTO t VALUES (1); SELECT 1" .postgreSql := ⟨_, _, rfl⟩
  refine ⟨hparses, (classification_right_iff _ _ _ hparses).mpr ?_⟩
  show ∀ s ∈ someTexts.meanings "INSERT INTO t VALUES (1); SELECT 1" .postgreSql, .ddl ∉ s.changes
  decide

theorem drop_is_other : someTexts.Parses "DROP TABLE users" .postgreSql ∧
      someTexts.action .postgreSql "DROP TABLE users" = some .other ∧
      ¬ Right (someTexts.meanings "DROP TABLE users" .postgreSql) (someTexts.action .postgreSql "DROP TABLE users") ∧
      someTexts.Parses "SELECT 1; DELETE FROM users" .postgreSql ∧
      someTexts.action .postgreSql "SELECT 1; DELETE FROM users" = some .select ∧
      ¬ Right (someTexts.meanings "SELECT 1; DELETE FROM users" .postgreSql)
        (someTexts.action .postgreSql "SELECT 1; DELETE FROM users") := by
  have hdrop : someTexts.action .postgreSql "DROP TABLE users" = some .other := by decide
  have hmulti : someTexts.action .postgreSql "SELECT 1; DELETE FROM users" = some .select := by decide
  refine ⟨⟨_, _, rfl⟩, hdrop, ?_, ⟨_, _, rfl⟩, hmulti, ?_⟩
  · intro hright
    have haction := hright.ddl ⟨⟨false, [.ddl]⟩, List.mem_cons_self, List.mem_cons_self⟩
    rw [hdrop] at haction
    exact absurd haction nofun
  · intro hright
    have hall := (hright.select.mp hmulti).2
    exact absurd (hall ⟨false, [.delete]⟩ (List.mem_cons_of_mem _ List.mem_cons_self)).1 nofun

end DataNexus.Dialect
