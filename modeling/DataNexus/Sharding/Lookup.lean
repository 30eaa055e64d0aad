/-
  Which table references `find_table_rule` finds (`sharding_rewrite/mod.rs`).

  All references share one iterator over the endpoints, so the first data nodes of the references with a rule are looked
  up one behind the other: the names of the endpoints with the default database must have them as a sublist.
-/
import DataNexus.Sharding.Equalities

namespace DataNexus.ShardingRewrite

open DataNexus.Fallible

/-- The endpoints with the default database, by name. -/
def namesOf (db : String) (endpoints : List Endpoint) : List String := (endpoints.filter (db == ·.db)).map (·.name)

namespace Rewriter

/-- A data node of the rule is covered by the default database, whatever was examined before. -/
def covers (r : Rewriter) (rule : Sharding) : Bool :=
  match r.defaultDb with
  | none => false
  | some db => rule.actualDatanodes.any fun node =>
    if r.hasRw then (r.nodeGroupMembers.getD []).contains node else (namesOf db r.endpoints).contains node

def wanted (r : Rewriter) (x : Nat × TableIdent) : Option TryTable :=
  (r.ruleOf x.2).bind fun rule => if x.2.schema.isSome || r.covers rule then some ⟨x.1, rule, x.2⟩ else none

/-- The first data node of the rule of a reference. -/
def firstNode (r : Rewriter) (x : Nat × TableIdent) : Option String := (r.ruleOf x.2).bind (·.actualDatanodes.head?)

/-- The reference needs the default database, and has it. -/
def Due (r : Rewriter) (x : Nat × TableIdent) : Prop := x.2.schema.isSome = false ∧ (r.ruleOf x.2).any r.covers = true

/-- Every reference that is due is reached by the iterator, with those before it. -/
def Reached (r : Rewriter) (names : List String) (tables : List (Nat × TableIdent)) : Prop :=
  ∀ front x back, tables = front ++ x :: back → r.Due x → ((front ++ [x]).filterMap r.firstNode).Sublist names

end Rewriter

/-! ## The iterator -/

variable {r : Rewriter} {db node : String} {nodes : List String} {endpoints : List Endpoint}

inductive Search (node : String) (names : List String) : Bool → List String → Prop where
  | hit (front back) (h : names = front ++ node :: back) (hno : node ∉ front) : Search node names true back
  | miss (hno : node ∉ names) : Search node names false []

theorem namesOf_cons (ep : Endpoint) : namesOf db (ep :: endpoints) =
    if db == ep.db then ep.name :: namesOf db endpoints else namesOf db endpoints := by
  unfold namesOf
  rw [List.filter_cons]
  split <;> rfl

theorem nextEndpoint_search (db node : String) (endpoints : List Endpoint) : ∃ found rest,
    nextEndpoint (fun ep => ep.name == node && db == ep.db) endpoints = (found, rest) ∧
      Search node (namesOf db endpoints) found (namesOf db rest) ∧ (found = false → rest = []) := by
  induction endpoints with
  | nil => exact ⟨false, [], rfl, .miss List.not_mem_nil, fun _ => rfl⟩
  | cons ep endpoints ih =>
    rw [namesOf_cons]
    cases hp : ep.name == node && db == ep.db with
    | true =>
      obtain ⟨hname, hdb⟩ := Bool.and_eq_true_iff.mp hp
      refine ⟨true, endpoints, ?_, ?_, nofun⟩
      · rw [nextEndpoint, List.dropWhile_cons_of_neg (by rw [hp]; decide)]
      · rw [hdb, if_pos rfl, beq_iff_eq.mp hname]
        exact .hit [] _ rfl List.not_mem_nil
    | false =>
      obtain ⟨found, rest, hnext, hsearch, hend⟩ := ih
      refine ⟨found, rest, ?_, ?_, hend⟩
      · rw [← hnext, nextEndpoint, List.dropWhile_cons_of_pos (by rw [hp]; rfl)]
        rfl
      · cases hdb : db == ep.db with
        | false => exact hsearch
        | true =>
          have hname : node ≠ ep.name := by
            rintro rfl
            rw [beq_self_eq_true, hdb] at hp
            cases hp
          generalize namesOf db rest = left at hsearch
          cases hsearch with
          | hit front back h hno =>
            exact .hit (ep.name :: front) _ (congrArg (ep.name :: ·) h) (List.not_mem_cons_of_ne_of_not_mem hname hno)
          | miss hno => exact .miss (List.not_mem_cons_of_ne_of_not_mem hname hno)

theorem findDefaultDb_nil (db : String) (nodes : List String) : findDefaultDb db nodes [] = (false, []) := by
  induction nodes with
  | nil => rfl
  | cons node nodes ih => exact ih

/-- Only the first data node counts: if it is not found, nothing is left for the others. -/
theorem findDefaultDb_search (db node : String) (nodes : List String) (endpoints : List Endpoint) : ∃ found rest,
    findDefaultDb db (node :: nodes) endpoints = (found, rest) ∧
      Search node (namesOf db endpoints) found (namesOf db rest) := by
  obtain ⟨found, rest, hnext, hsearch, hend⟩ := nextEndpoint_search db node endpoints
  refine ⟨found, rest, ?_, hsearch⟩
  rw [findDefaultDb, hnext]
  cases found with
  | true => rfl
  | false => rw [hend rfl]; exact findDefaultDb_nil db nodes

theorem sublist_of_search {names left firsts : List String} {hit : Bool} (h : Search node names hit left) :
    (node :: firsts).Sublist names ↔ hit = true ∧ firsts.Sublist left := by
  cases h with
  | miss hno => exact ⟨fun hsub => absurd (hsub.subset List.mem_cons_self) hno, fun h => Bool.noConfusion h.1⟩
  | hit front _ h hno =>
    subst h
    rw [eq_self_iff_true, true_and]
    induction front with
    | nil => exact List.cons_sublist_cons
    | cons name front ih =>
      obtain ⟨hne, hno⟩ := List.ne_and_not_mem_of_not_mem_cons hno
      rw [List.cons_append, ← ih hno]
      refine ⟨fun hsub => ?_, fun hsub => hsub.cons name⟩
      cases hsub with
      | cons _ hsub => exact hsub
      | cons_cons _ _ => exact absurd rfl hne

/-! ## All references -/

namespace Rewriter

theorem firsts_of_due {x : Nat × TableIdent} (h : r.Due x) (front : List (Nat × TableIdent)) :
    (front ++ [x]).filterMap r.firstNode ≠ [] := by
  obtain ⟨-, hany⟩ := h
  intro hnil
  have hnone : r.firstNode x = none := List.filterMap_eq_nil_iff.mp hnil x (List.mem_append_right _ List.mem_cons_self)
  unfold firstNode at hnone
  cases hrule : r.ruleOf x.2 with
  | none => rw [hrule] at hany; cases hany
  | some rule =>
    rw [hrule] at hany hnone
    have hcovers : r.covers rule = true := hany
    unfold covers at hcovers
    rw [List.head?_eq_none_iff.mp hnone] at hcovers
    split at hcovers <;> cases hcovers

theorem reached_cons {names : List String} {x : Nat × TableIdent} {tables : List (Nat × TableIdent)} :
    r.Reached names (x :: tables) ↔ (r.Due x → ([x].filterMap r.firstNode).Sublist names) ∧
      ∀ front y back, tables = front ++ y :: back → r.Due y →
        ((x :: (front ++ [y])).filterMap r.firstNode).Sublist names := by
  constructor
  · intro h
    exact ⟨h [] x tables rfl, fun front y back heq => h (x :: front) y back (congrArg (x :: ·) heq)⟩
  · rintro ⟨hx, hrest⟩ front y back heq
    cases front with
    | nil => cases heq; exact hx
    | cons z front => cases heq; exact hrest front y back rfl

theorem turn_iff {s hit cov : Bool} (h : hit = true → cov = true) (e : TryTable) :
    let turn (b : Bool) := if s || b then some e else none
    (turn hit = none ∨ turn hit = turn cov) ∧ (turn hit = turn cov ↔ (s = false ∧ cov = true → hit = true)) := by
  cases s <;> cases hit <;> cases cov <;> simp_all

/-- The turn of one reference: it gives what it should unless it is due and missed. -/
theorem tryTable_search (hdb : r.defaultDb = some db) (hrw : r.hasRw = false)
    (hsub : namesOf db endpoints ⊆ namesOf db r.endpoints) (x : Nat × TableIdent) :
    ∃ found rest, r.tryTable x.1 x.2 endpoints = .ok (found, rest) ∧ (found = none ∨ found = r.wanted x) ∧
      ((r.firstNode x = none ∧ found = r.wanted x ∧ rest = endpoints) ∨
        ∃ node hit, r.firstNode x = some node ∧ Search node (namesOf db endpoints) hit (namesOf db rest) ∧
          (found = r.wanted x ↔ (r.Due x → hit = true))) := by
  unfold tryTable wanted firstNode Due
  cases hrule : r.ruleOf x.2 with
  | none => exact ⟨none, endpoints, rfl, .inl rfl, .inl ⟨rfl, rfl, rfl⟩⟩
  | some rule =>
    have hcovers : r.covers rule = rule.actualDatanodes.any fun node => (namesOf db r.endpoints).contains node := by
      rw [covers, hdb, hrw]
      rfl
    have hlook : r.hasDefaultDb rule endpoints = .ok (findDefaultDb db rule.actualDatanodes endpoints) := by
      rw [hasDefaultDb, hdb, hrw]
      rfl
    cases hnodes : rule.actualDatanodes with
    | nil =>
      rw [hnodes] at hlook hcovers
      refine ⟨_, endpoints, bind_eq_ok.mpr ⟨_, hlook, rfl⟩, .inr ?_, .inl ⟨congrArg List.head? hnodes, ?_, rfl⟩⟩ <;>
        exact (if_congr (by rw [hcovers]; rfl) rfl rfl)
    | cons node nodes =>
      obtain ⟨hit, rest, hfind, hsearch⟩ := findDefaultDb_search db node nodes endpoints
      rw [hnodes, hfind] at hlook
      have hhit : hit = true → r.covers rule = true := by
        intro h
        have hmem : node ∈ namesOf db endpoints := (sublist_of_search hsearch).mpr ⟨h, List.nil_sublist _⟩ |>.subset
          List.mem_cons_self
        rw [hcovers, hnodes, List.any_cons, List.contains_iff_mem.mpr (hsub hmem), Bool.true_or]
      obtain ⟨hfound, hiff⟩ := turn_iff (s := x.2.schema.isSome) hhit ⟨x.1, rule, x.2⟩
      exact ⟨_, rest, bind_eq_ok.mpr ⟨_, hlook, rfl⟩, hfound, .inr ⟨node, hit, congrArg List.head? hnodes, hsearch, hiff⟩⟩

theorem toList_append_inj {α : Type} {a b : Option α} {l m : List α} (ha : a = none ∨ a = b) (hsub : l.Sublist m) :
    a.toList ++ l = b.toList ++ m ↔ a = b ∧ l = m := by
  rcases ha with rfl | rfl
  · cases b with
    | none => exact (and_iff_right rfl).symm
    | some v =>
      refine ⟨fun h => ?_, nofun⟩
      have hlen : l.length = m.length + 1 := congrArg List.length h
      exact absurd hsub.length_le (by omega)
  · rw [List.append_cancel_left_eq, eq_self_iff_true, true_and]

/-- The loop over the references: what it gives is part of what it should give, and all of it exactly if every reference
    that is due is reached. -/
theorem findTable_iff (hdb : r.defaultDb = some db) (hrw : r.hasRw = false) (tables : List (Nat × TableIdent))
    (hsub : namesOf db endpoints ⊆ namesOf db r.endpoints) :
    ∃ l, r.findTable tables endpoints = .ok l ∧ l.Sublist (tables.filterMap r.wanted) ∧
      (l = tables.filterMap r.wanted ↔ r.Reached (namesOf db endpoints) tables) := by
  induction tables generalizing endpoints with
  | nil =>
    refine ⟨[], rfl, List.Sublist.refl _, iff_of_true rfl fun front x back h => ?_⟩
    cases front <;> cases h
  | cons x tables ih =>
    obtain ⟨found, rest, htry, hfound, hcase⟩ := tryTable_search hdb hrw hsub x
    have hrest : namesOf db rest ⊆ namesOf db r.endpoints := by
      rcases hcase with ⟨-, -, rfl⟩ | ⟨node, hit, -, hsearch, -⟩
      · exact hsub
      · generalize namesOf db rest = left at hsearch
        cases hsearch with
        | hit front _ h _ =>
          exact fun n hn => hsub (h ▸ List.mem_append_right _ (List.mem_cons_of_mem _ hn))
        | miss _ => exact List.nil_subset _
    obtain ⟨others, hothers, hpart, hiff⟩ := ih hrest
    have hfull : (x :: tables).filterMap r.wanted = (r.wanted x).toList ++ tables.filterMap r.wanted := by
      cases hwanted : r.wanted x with
      | none => exact List.filterMap_cons_none hwanted
      | some e => exact List.filterMap_cons_some hwanted
    refine ⟨found.toList ++ others, ?_, ?_, ?_⟩
    · rw [findTable, htry]
      show (r.findTable tables rest >>= _) = _
      rw [hothers]
      rfl
    · rw [hfull]
      refine List.Sublist.append ?_ hpart
      rcases hfound with rfl | rfl
      · exact List.nil_sublist _
      · exact List.Sublist.refl _
    · rw [hfull, toList_append_inj hfound hpart, hiff, reached_cons]
      rcases hcase with ⟨hno, hwanted, rfl⟩ | ⟨node, hit, hnode, hsearch, hwanted⟩
      · have hdue : ¬ r.Due x := fun h => firsts_of_due h [] (List.filterMap_cons_none hno)
        refine and_congr (iff_of_true hwanted fun h => absurd h hdue) ?_
        unfold Reached
        simp only [List.filterMap_cons_none hno]
      · rw [hwanted, List.filterMap_cons_some hnode]
        simp only [List.filterMap_cons_some hnode, sublist_of_search hsearch]
        refine and_congr (forall_congr' fun _ => (and_iff_left (List.nil_sublist _)).symm) ?_
        refine forall_congr' fun front => forall_congr' fun y => forall_congr' fun back => forall_congr' fun _ =>
          forall_congr' fun hdue => (and_iff_right_of_imp fun h => ?_).symm
        cases hit with
        | true => rfl
        | false =>
          generalize namesOf db rest = left at hsearch h
          cases hsearch
          exact absurd (List.sublist_nil.mp h) (firsts_of_due hdue front)

theorem findTable_eq (tables : List (Nat × TableIdent)) (endpoints : List Endpoint)
    (h : ∀ x ∈ tables, r.tryTable x.1 x.2 endpoints = .ok (r.wanted x, endpoints)) :
    r.findTable tables endpoints = .ok (tables.filterMap r.wanted) := by
  induction tables with
  | nil => rfl
  | cons x tables ih =>
    refine bind_eq_ok.mpr ⟨_, h x List.mem_cons_self, bind_eq_ok.mpr
      ⟨_, ih fun y hy => h y (List.mem_cons_of_mem x hy), ?_⟩⟩
    rw [List.filterMap_cons]
    cases r.wanted x <;> rfl

theorem findTable_ok {tables : List (Nat × TableIdent)} {endpoints : List Endpoint} {l : List TryTable}
    (h : r.findTable tables endpoints = .ok l) : ∀ x ∈ tables, ∃ endpoints result,
      r.tryTable x.1 x.2 endpoints = .ok result := by
  induction tables generalizing endpoints l with
  | nil => exact nofun
  | cons x tables ih =>
    obtain ⟨result, htry, h⟩ := bind_eq_ok.mp h
    obtain ⟨others, hothers, -⟩ := bind_eq_ok.mp h
    exact List.forall_mem_cons.mpr ⟨⟨endpoints, result, htry⟩, ih hothers⟩

/-- **Table references.**  Each one that should be found is, exactly if node groups are there when they are asked for, and
    otherwise the iterator reaches each reference that needs the default database and has it. -/
theorem findTableRule_iff (r : Rewriter) (tables : IndexMap Nat TableIdent) :
    r.findTableRule tables = .ok (tables.entries.filterMap r.wanted) ↔
      ∀ db, r.defaultDb = some db →
        (r.hasRw = true → ∀ x ∈ tables.entries, (r.ruleOf x.2).isSome → r.nodeGroupMembers.isSome) ∧
        (r.hasRw = false → r.Reached (namesOf db r.endpoints) tables.entries) := by
  unfold findTableRule
  cases hdb : r.defaultDb with
  | none =>
    refine iff_of_true (findTable_eq _ _ fun x _ => ?_) nofun
    unfold tryTable wanted hasDefaultDb covers
    rw [hdb]
    cases r.ruleOf x.2 <;> rfl
  | some db =>
    cases hrw : r.hasRw with
    | false =>
      obtain ⟨l, hl, -, hiff⟩ := findTable_iff hdb hrw tables.entries (List.Subset.refl (namesOf db r.endpoints))
      rw [hl, Except.ok.injEq, hiff]
      exact ⟨fun h db' heq => ⟨nofun, fun _ => Option.some.inj heq ▸ h⟩, fun h => (h db rfl).2 rfl⟩
    | true =>
      constructor
      · intro h db' _
        refine ⟨fun _ x hx hrule => ?_, nofun⟩
        obtain ⟨endpoints, result, htry⟩ := findTable_ok h x hx
        unfold tryTable hasDefaultDb at htry
        rw [hdb, hrw] at htry
        cases hmembers : r.nodeGroupMembers with
        | some members => rfl
        | none =>
          obtain ⟨rule, hrule⟩ := Option.isSome_iff_exists.mp hrule
          rw [hrule, hmembers] at htry
          cases htry
      · intro h
        refine findTable_eq _ _ fun x hx => ?_
        have hmembers := (h db rfl).1 rfl x hx
        unfold tryTable wanted hasDefaultDb covers
        rw [hdb, hrw]
        cases hrule : r.ruleOf x.2 with
        | none => rfl
        | some rule =>
          obtain ⟨members, hmembers⟩ := Option.isSome_iff_exists.mp (hmembers (by rw [hrule]; rfl))
          rw [hmembers]
          rfl

end Rewriter

/-- Two references to one table: the second one finds the iterator at its end. -/
theorem second_reference_missed : ¬ ∀ (r : Rewriter) (tables : IndexMap Nat TableIdent),
    r.findTableRule tables = .ok (tables.entries.filterMap r.wanted) := by
  intro h
  let r : Rewriter := ⟨⟨fun _ => 0, fun _ _ _ => none⟩, [⟨"t", ["ds001"], .table .mod "idx" 4⟩],
    [⟨"ds001", "db", "127.0.0.1:3306"⟩], false, none, some "db"⟩
  exact absurd (h r [(1, [⟨⟨0, 1⟩, none, "t"⟩, ⟨⟨2, 3⟩, none, "t"⟩])]) (by decide)

end DataNexus.ShardingRewrite
