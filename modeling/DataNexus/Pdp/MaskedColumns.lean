/-
  Column masks (`collect_mask_specs` of `gateway/core/src/pdp.rs`, `build_mask_index` of `gateway/core/src/obligations.rs`).

  1. **Program** — `collectMaskSpecs`, `buildMaskIndex` and `maskRow`: specs are collected for the columns that the
     statement names, and matched with the columns of the result by label.

  2. **Specification** — `Depends`: a result column shows the difference of two databases that differ in one column alone.
     `Hides`: every cell of a result column is replaced by its mask.

  3. **The crux** — `hides_iff`: a result column is masked exactly if a spec was collected under its label.
-/
import DataNexus.Pdp.Authorize
import DataNexus.Stream.Obligations

namespace DataNexus.Pdp.MaskedColumns

open DataNexus.Stream DataNexus.Text DataNexus.Tickets

/-! ## Specification -/

/-- What is in the tables: a cell for each table, row and column. -/
abbrev Database := String → Nat → String → GatewayValue

structure Executed where
  columns : List Column
  rows : Database → List Row

/-- The `j`-th column of the result depends on the column of the table. -/
def Executed.Depends (q : Executed) (table column : String) (j : Nat) : Prop :=
  ∃ db db' : Database, (∀ t i c, (t, c) ≠ (table, column) → db t i c = db' t i c) ∧
    (q.rows db).map (·[j]?) ≠ (q.rows db').map (·[j]?)

/-- The `j`-th cell of every row is replaced by its mask. -/
def Hides (d : Display) (columns : List Column) (masks : List MaskSpec) (j : Nat) : Prop :=
  ∃ spec ∈ masks, ∀ row : Row,
    (maskRow d (buildMaskIndex columns masks) row)[j]? = row[j]?.map (maskGatewayValue d · spec)

variable {p : LocalPdpInner} {subject : Subject}

/-- The tag gives the column of the table a mask. -/
structure Tags (p : LocalPdpInner) (subject : Subject) (table column : String) (tag : SecurityColumnTagConfig) : Prop where
  allowed : subjectAllowed tag.subjects subject = true
  inTable : tag.tables.isEmpty = true ∨ (tag.tables.any fun pat => tableGlobMatch pat table || table.isEmpty) = true
  named : columnPatternMatches tag.column column table = true
  rule : ∃ cfg, (p.maskRules.reverse.find? fun m => lower m.name == lower tag.maskRule) = some cfg ∧
    (parseMaskAlgorithm cfg.algorithm).isSome = true

def Sensitive (p : LocalPdpInner) (subject : Subject) (table column : String) : Prop :=
  ∃ tag ∈ p.columnTags, Tags p subject table column tag

/-- A column of this name is among those that the statement names, or that are tried for it, and is masked there. -/
def Collected (p : LocalPdpInner) (subject : Subject) (objects : Option ObjectSet) (tables columns : List String)
    (name : String) : Prop :=
  ∃ pair ∈ maskCandidates p objects tables columns, Sensitive p subject pair.1 pair.2 ∧ lower pair.2 = name

/-! ## Which specs are collected -/

theorem foldl_iff {α β : Type} {step : β → α → β} {P : β → Prop} {Q : α → Prop} (h : ∀ b a, P (step b a) ↔ P b ∨ Q a)
    (xs : List α) (b : β) : P (xs.foldl step b) ↔ P b ∨ ∃ a ∈ xs, Q a := by
  induction xs generalizing b with
  | nil => exact ⟨.inl, fun hb => hb.resolve_right fun ⟨a, ha, _⟩ => absurd ha List.not_mem_nil⟩
  | cons a xs ih => rw [List.foldl_cons, ih, h, List.exists_mem_cons_iff, or_assoc]

theorem eqIgnoreAsciiCase_iff {a b : String} : eqIgnoreAsciiCase a b = true ↔ lower a = lower b := by
  unfold eqIgnoreAsciiCase sameIgnoringCase lower
  rw [beq_iff_eq]
  exact ⟨congrArg String.ofList, fun h => by simpa using congrArg String.toList h⟩

def Named (name : String) (masks : List MaskSpec) : Prop := ∃ m ∈ masks, lower m.column = name

theorem named_append {name : String} {masks : List MaskSpec} {m : MaskSpec} :
    Named name (masks ++ [m]) ↔ Named name masks ∨ lower m.column = name := by
  unfold Named
  constructor
  · rintro ⟨x, hx, hname⟩
    rcases List.mem_append.mp hx with hx | hx
    · exact .inl ⟨x, hx, hname⟩
    · exact .inr (List.mem_singleton.mp hx ▸ hname)
  · rintro (⟨x, hx, hname⟩ | hname)
    · exact ⟨x, List.mem_append_left _ hx, hname⟩
    · exact ⟨m, List.mem_append_right _ List.mem_cons_self, hname⟩

/-- **One turn** of the inner loop: the cases are those of the checks. -/
theorem named_maskStep {table column name : String} (out : List MaskSpec) (tag : SecurityColumnTagConfig) :
    Named name (maskStep p subject table column out tag) ↔
      Named name out ∨ (Tags p subject table column tag ∧ lower column = name) := by
  have hskip : ¬ Tags p subject table column tag →
      (Named name out ↔ Named name out ∨ (Tags p subject table column tag ∧ lower column = name)) :=
    fun hno => ⟨.inl, fun h => h.resolve_right fun ht => hno ht.1⟩
  unfold maskStep
  split
  · rename_i hsubject
    exact hskip fun ht => by rw [ht.allowed] at hsubject; cases hsubject
  split
  · rename_i _ htables
    refine hskip fun ht => ?_
    rw [Bool.and_eq_true] at htables
    rcases ht.inTable with h | h
    · rw [h] at htables
      cases htables.1
    · rw [h] at htables
      cases htables.2
  split
  · rename_i _ _ hcolumn
    exact hskip fun ht => by rw [ht.named] at hcolumn; cases hcolumn
  rename_i hsubject htables hcolumn
  split
  · rename_i hrule
    refine hskip fun ht => ?_
    obtain ⟨cfg, hcfg, _⟩ := ht.rule
    rw [hrule] at hcfg
    cases hcfg
  · rename_i cfg hrule
    split
    · rename_i halgorithm
      refine hskip fun ht => ?_
      obtain ⟨cfg', hcfg, hsome⟩ := ht.rule
      obtain rfl := Option.some.inj (hrule.symm.trans hcfg)
      rw [halgorithm] at hsome
      cases hsome
    · rename_i algorithm halgorithm
      have ht : Tags p subject table column tag := by
        refine ⟨by simpa using hsubject, ?_, by simpa using hcolumn, cfg, hrule, by rw [halgorithm]; rfl⟩
        simpa [or_iff_not_imp_left] using htables
      split
      · -- a spec of that name is there already
        rename_i hthere
        refine ⟨.inl, fun h => h.elim id fun hnew => ?_⟩
        obtain ⟨m, hm, hsame⟩ := List.any_eq_true.mp hthere
        exact ⟨m, hm, (eqIgnoreAsciiCase_iff.mp hsame).trans hnew.2⟩
      · rw [named_append]
        exact or_congr_right ⟨fun h => ⟨ht, h⟩, fun h => h.2⟩

/-- **The specs are those of the columns that are collected.** -/
theorem named_collectMaskSpecs {objects : Option ObjectSet} {tables columns : List String} {name : String} :
    Named name (collectMaskSpecs p subject objects tables columns) ↔ Collected p subject objects tables columns name := by
  have hnone : ¬ Named name [] := fun ⟨m, hm, _⟩ => absurd hm List.not_mem_nil
  unfold collectMaskSpecs
  split
  · rename_i hempty
    refine ⟨fun h => absurd h hnone, ?_⟩
    rintro ⟨pair, _, ⟨tag, htag, ht⟩, _⟩
    obtain ⟨cfg, hcfg, _⟩ := ht.rule
    have hrule : cfg ∈ p.maskRules := List.mem_reverse.mp (List.mem_of_find?_eq_some hcfg)
    rcases Bool.or_eq_true_iff.mp hempty with h | h
    · rw [List.isEmpty_iff.mp h] at htag
      cases htag
    · rw [List.isEmpty_iff.mp h] at hrule
      cases hrule
  · have hturn : ∀ (out : List MaskSpec) (pair : String × String),
        Named name (p.columnTags.foldl (maskStep p subject pair.1 pair.2) out) ↔
          Named name out ∨ ∃ tag ∈ p.columnTags, Tags p subject pair.1 pair.2 tag ∧ lower pair.2 = name :=
      fun out pair => foldl_iff named_maskStep p.columnTags out
    rw [foldl_iff hturn]
    refine ⟨fun h => ?_, ?_⟩
    · obtain ⟨pair, hpair, tag, htag, ht, hname⟩ := h.resolve_left hnone
      exact ⟨pair, hpair, ⟨tag, htag, ht⟩, hname⟩
    · rintro ⟨pair, hpair, ⟨tag, htag, ht⟩, hname⟩
      exact .inr ⟨pair, hpair, tag, htag, ht, hname⟩

/-! ## Which result columns are masked -/

theorem mask_changes (d : Display) (spec : MaskSpec) : ∃ v, maskGatewayValue d v spec ≠ v := by
  unfold maskGatewayValue
  cases spec.algorithm with
  | nullify => exact ⟨.integer 0, by simp⟩
  | _ => exact ⟨.null, by simp⟩

theorem maskByName_isSome {masks : List MaskSpec} {name : String} :
    (∃ spec, maskByName masks name = some spec) ↔ Named name masks := by
  unfold maskByName
  rw [← Option.isSome_iff_exists, List.find?_isSome]
  constructor
  · rintro ⟨m, hm, hname⟩
    exact ⟨m, List.mem_reverse.mp hm, beq_iff_eq.mp hname⟩
  · rintro ⟨m, hm, hname⟩
    exact ⟨m, List.mem_reverse.mpr hm, beq_iff_eq.mpr hname⟩

/-- **A result column is masked if a spec has its label.** -/
theorem hides_iff (d : Display) (columns : List Column) (masks : List MaskSpec) (j : Nat) :
    Hides d columns masks j ↔ ∃ column, columns[j]? = some column ∧ Named (bareColumn column.name) masks := by
  have hcell : ∀ row : Row, (maskRow d (buildMaskIndex columns masks) row)[j]? = row[j]?.map (maskCell d columns masks j) := by
    intro row
    rw [maskRow_eq_mapIdx, List.getElem?_mapIdx]
  constructor
  · rintro ⟨spec, hspec, hmasked⟩
    obtain ⟨v, hv⟩ := mask_changes d spec
    have hsame := (hcell (List.replicate (j + 1) v)).symm.trans (hmasked (List.replicate (j + 1) v))
    rw [List.getElem?_replicate_of_lt (Nat.lt_succ_self j)] at hsame
    have hmask : maskCell d columns masks j v = maskGatewayValue d v spec := Option.some.inj hsame
    unfold maskCell at hmask
    cases hat : maskAt columns masks j with
    | none =>
      rw [hat] at hmask
      exact absurd hmask.symm hv
    | some found =>
      obtain ⟨column, hcolumn, hfound⟩ := Option.bind_eq_some_iff.mp hat
      exact ⟨column, hcolumn, maskByName_isSome.mp ⟨found, hfound⟩⟩
  · rintro ⟨column, hcolumn, hnamed⟩
    obtain ⟨spec, hspec⟩ := maskByName_isSome.mpr hnamed
    refine ⟨spec, List.mem_reverse.mp (List.mem_of_find?_eq_some hspec), fun row => ?_⟩
    have hat : maskAt columns masks j = some spec := Option.bind_eq_some_iff.mpr ⟨column, hcolumn, hspec⟩
    rw [hcell row]
    unfold maskCell
    rw [hat]

/-! ## The result -/

/-- The column of the result is called like a column for which a spec is collected. -/
def Labelled (c : Call) (r : Classified) (columns : List Column) (j : Nat) : Prop :=
  r.action = .select ∧ ∃ column, columns[j]? = some column ∧
    Collected c.reads.masks c.subject c.objects r.tables r.columns (bareColumn column.name)

theorem hides_of_owes {c : Call} {r : Classified} {o : Obligations} (h : Owes c r o) (d : Display) (columns : List Column)
    (j : Nat) : Hides d columns o.columnMasks j ↔ Labelled c r columns j := by
  rw [hides_iff, h.columnMasks]
  unfold Labelled
  by_cases hselect : r.action = .select
  · rw [if_pos hselect]
    simp only [named_collectMaskSpecs, hselect, true_and]
  · rw [if_neg hselect]
    refine ⟨?_, fun hlabel => absurd hlabel.1 hselect⟩
    rintro ⟨_, _, m, hm, _⟩
    exact absurd hm List.not_mem_nil

theorem execute_bare {c : Call} {id : String} {parameters : List GatewayValue} {store : TicketStore} {o : Obligations}
    (h : (authorizeCommandWithObjects c (.execute id parameters) store).1 = some (.allow o)) : o.columnMasks = [] := by
  unfold authorizeCommandWithObjects authorizeCommand at h
  dsimp only at h
  by_cases hclosed : c.reads.entry.failClosed = true
  · rw [if_pos hclosed] at h
    cases h
  · rw [if_neg hclosed] at h
    cases h
    rfl

/-- **Masks follow the data** exactly if each result column that depends on a masked column is called like a collected
    one.  What an Execute returns is not masked at all. -/
theorem masks_follow_iff (d : Display) {c : Call} {sql : String} {r : Classified} {store : TicketStore} {o : Obligations}
    (hr : classify c sql = .ok r) (hallow : (authorizeCommandWithObjects c (.query sql) store).1 = some (.allow o) ∨
      ∃ sql', (authorizeCommandWithObjects c (.query sql) store).1 = some (.allowRewrite sql' o)) (q : Executed) :
    ((∀ table column j, Sensitive c.reads.masks c.subject table column → q.Depends table column j →
          Hides d q.columns o.columnMasks j) ↔
        ∀ table column j, Sensitive c.reads.masks c.subject table column → q.Depends table column j →
          Labelled c r q.columns j) ∧ ∀ parameters,
        authorizeCommandWithObjects c (.queryParams sql parameters) store =
            authorizeCommandWithObjects c (.query sql) store ∧
          ∀ id store' o', (authorizeCommandWithObjects c (.execute id parameters) store').1 = some (.allow o') →
            ∀ j, (Hides d q.columns o.columnMasks j ↔ Hides d q.columns o'.columnMasks j) ↔
              ¬ Labelled c r q.columns j := by
  have howes : Owes c r o := by
    have hquery : authorizeCommandWithObjects c (.query sql) store = sqlOutcome c sql store :=
      authorizeCommand_of_sqlText rfl
    rw [hquery] at hallow
    rcases hallow with h | ⟨sql', h⟩
    · obtain ⟨r', hr', hpath⟩ := sqlOutcome_allowed h rfl
      obtain rfl := Except.ok.inj (hr.symm.trans hr')
      exact allowPath_owes (.inl hpath)
    · obtain ⟨r', hr', hpath⟩ := sqlOutcome_allowed h rfl
      obtain rfl := Except.ok.inj (hr.symm.trans hr')
      exact allowPath_owes (.inr ⟨sql', hpath⟩)
  refine ⟨by simp only [hides_of_owes howes], fun parameters => ⟨rfl, fun id store' o' hexecute j => ?_⟩⟩
  have hnot : ¬ Hides d q.columns o'.columnMasks j := by
    rintro ⟨spec, hspec, _⟩
    rw [execute_bare hexecute] at hspec
    exact absurd hspec List.not_mem_nil
  rw [hides_of_owes howes]
  exact ⟨fun h hlabel => hnot (h.mp hlabel), fun hno => ⟨fun h => absurd h hno, fun h => absurd h hnot⟩⟩

/-- `alice` reads `users`, where `email` is masked. -/
def emailCall : Call :=
  { bothGatesCall with
    reads := Reads.single
      { bothGates with
        failClosed := false, highRiskRules := [], timeRules := []
        columnTags := [⟨"email", ["users"], [], "hide"⟩], maskRules := [⟨"hide", "replace", "", 0, 0⟩] }
    objects := some ⟨[⟨none, "users", ["email"], .select, false⟩], false, false⟩ }

def emailObligations : Obligations := { Obligations.none with columnMasks := [⟨"email", .replace, "***", 0, 0, "hide"⟩] }

def emailQuery (label : String) : Executed := ⟨[⟨label, "text"⟩], fun db => [[db "users" 0 "email"]]⟩

theorem email_sensitive : Sensitive emailCall.reads.masks emailCall.subject "users" "email" :=
  ⟨⟨"email", ["users"], [], "hide"⟩, List.mem_cons_self, by decide, .inr (by decide), by decide,
    ⟨"hide", "replace", "", 0, 0⟩, by rfl, by decide⟩

theorem email_masked : Sensitive emailCall.reads.masks emailCall.subject "users" "email" ∧
    ∀ table column j, Sensitive emailCall.reads.masks emailCall.subject table column →
    (emailQuery "email").Depends table column j →
    Hides ⟨fun _ => "", fun _ => ""⟩ (emailQuery "email").columns emailObligations.columnMasks j := by
  refine ⟨email_sensitive, (@masks_follow_iff _ emailCall "select email from users" ⟨.select, ["users"], ["email"]⟩ TicketStore.new
    emailObligations (by rfl) (.inl (by rfl)) (emailQuery "email")).1.mpr ?_⟩
  rintro table column j - ⟨db, db', _, hne⟩
  cases j with
  | zero => exact ⟨rfl, ⟨"email", "text"⟩, rfl, ("users", "email"), by decide, email_sensitive, by decide⟩
  | succ j => exact absurd rfl hne

theorem alias_not_masked :
    (authorizeCommandWithObjects emailCall (.query "select email as e from users") TicketStore.new).1 =
        some (.allow emailObligations) ∧
      ¬ ∀ table column j, Sensitive emailCall.reads.masks emailCall.subject table column →
        (emailQuery "e").Depends table column j →
        Hides ⟨fun _ => "", fun _ => ""⟩ (emailQuery "e").columns emailObligations.columnMasks j := by
  refine ⟨by rfl, fun h => ?_⟩
  have hdepends : (emailQuery "e").Depends "users" "email" 0 := by
    refine ⟨fun _ _ _ => .null, fun t _ c => if (t, c) = ("users", "email") then .integer 1 else .null, ?_, ?_⟩
    · intro t i c hother
      exact (if_neg hother).symm
    · simp [emailQuery]
  have hidden := (hides_iff ⟨fun _ => "", fun _ => ""⟩ _ _ _).mp (h "users" "email" 0 email_sensitive hdepends)
  obtain ⟨column, hcolumn, m, hm, hname⟩ := hidden
  obtain rfl := Option.some.inj hcolumn
  obtain rfl := List.mem_singleton.mp hm
  revert hname
  decide

end DataNexus.Pdp.MaskedColumns
