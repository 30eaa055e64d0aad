/-
  Which balancer a rule gives (`RulesMatch::get` of `readwritesplitting/rule_match.rs`).

  A regex rule is built either over all endpoints, under the name `GLOBAL`, or over node groups, under their names; a
  statement asks for `GLOBAL` and a sharded statement for its group.  Generic rules come behind all regex rules and
  read the keyword.

  * `get_eq` — the balancer that is given, from the lists the rules were built over;
  * `served_iff` — when that is a balancer at all, and one of readwrite endpoints where it has to be.
-/
import DataNexus.Discovery.Failover

namespace DataNexus.Discovery

open DataNexus.Text

/-! ## What the rules are built over -/

/-- One of the expressions of the rule matches. -/
def RegexRule.covers (env : Env) (rule : RegexRule) (sql : String) : Bool :=
  rule.regex.any fun r => (env.compile r).any (· sql)

def firstRegex (env : Env) (rules : List ReadWriteSplittingRule) (sql : String) : Option RegexRule :=
  (rules.filterMap (·.asRegex)).find? (·.covers env sql)

/-- The endpoints that the balancer of a rule under this name is built over. -/
def poolOf (groups : List (String × ReadWriteEndpoint)) (rw : ReadWriteEndpoint) (rule : RegexRule) (key : String) :
    Option ReadWriteEndpoint :=
  if groups.isEmpty || rule.nodeGroupName.isEmpty then (if key = "GLOBAL" then some rw else none)
  else if key ∈ rule.nodeGroupName then groups.lookup key else none

/-- The endpoints that a rule takes from the lists it is built over. -/
def RegexRule.taken (rule : RegexRule) (pool : ReadWriteEndpoint) : List Endpoint :=
  (RegexRuleMatchInner.buildBalanceInner rule.algorithmName rule.target pool).items

def defaults (target : TargetRole) (rw : ReadWriteEndpoint) : List Endpoint := (buildDefaultBalance target rw).items

/-- Text and balancer name of an input that the rules are asked about. -/
def asked : RouteInput → Option (String × String)
  | .statement sql => some (sql, "GLOBAL")
  | .shardingStatement sql nodeGroup => some (sql, nodeGroup)
  | .shardingTransaction sql nodeGroup => some (sql, nodeGroup)
  | _ => none

/-! ## Keywords -/

/-- The first keyword: white space in front of it and its case do not count. -/
def keywordOf (env : Env) (sql : String) : String := env.upper (String.ofList ((firstWord sql.toList).getD []))

def writes (keyword : String) : Bool :=
  ["INSERT", "UPDATE", "DELETE", "REPLACE", "MERGE", "LOAD", "TRUNCATE", "LOCK"].contains keyword

def upToBlank (sql : String) : String := String.ofList (sql.toList.takeWhile (· != ' '))

/-- The text begins with one of the keywords for the primary, and a blank follows it. -/
def SentToPrimary (env : Env) (sql : String) : Prop :=
  ' ' ∈ sql.toList ∧ ["INSERT", "UPDATE", "DELETE", "SET", "START"].contains (env.upper (upToBlank sql)) = true

/-- What `to_uppercase` keeps: the empty text, and white space. -/
structure UpperLaws (env : Env) : Prop where
  empty : env.upper "" = ""
  blank : ∀ w, ∀ c ∈ w.toList, isWhitespace c = true → c ∈ (env.upper w).toList

/-! ## The property and its condition -/

variable (env : Env) (rules : List ReadWriteSplittingRule) (target : TargetRole)
  (groups : List (String × ReadWriteEndpoint)) (rw : ReadWriteEndpoint)

/-- What the caller may expect of `get`. -/
def Served (m : RulesMatch) : RouteInput → Prop
  | .statement sql => ∃ b, m.get env (.statement sql) = some b ∧
      (firstRegex env rules sql = none → (∃ rule, .generic rule ∈ rules) → writes (keywordOf env sql) = true →
        b.1.items ⊆ rw.readwrite)
  | .transaction sql => ∃ b, m.get env (.transaction sql) = some b ∧ b.1.items ⊆ rw.readwrite
  | .shardingTransaction sql nodeGroup => ∃ b, m.get env (.shardingTransaction sql nodeGroup) = some b ∧
      ∃ members, groups.lookup nodeGroup = some members ∧ b.1.items ⊆ members.readwrite
  | .shardingStatement sql nodeGroup => ∃ b, m.get env (.shardingStatement sql nodeGroup) = some b
  | .none => ∃ b, m.get env .none = some b
  | .sharding _ => True

/-- When `get` keeps it. -/
def Served.Fits : RouteInput → Prop
  | .statement sql => match firstRegex env rules sql with
    | some rule => (poolOf groups rw rule "GLOBAL").isSome
    | none => (∃ rule, .generic rule ∈ rules) → writes (keywordOf env sql) = true →
        SentToPrimary env sql ∨ defaults target rw ⊆ rw.readwrite
  | .shardingStatement sql nodeGroup => match firstRegex env rules sql with
    | some rule => (poolOf groups rw rule nodeGroup).isSome
    | none => ¬∃ rule, .generic rule ∈ rules
  | .shardingTransaction sql nodeGroup => ∃ members, groups.lookup nodeGroup = some members ∧
      match firstRegex env rules sql with
      | some rule => ∃ pool, poolOf groups rw rule nodeGroup = some pool ∧ rule.taken pool ⊆ members.readwrite
      | none => (¬∃ rule, .generic rule ∈ rules) ∧ defaults target rw ⊆ members.readwrite
  | _ => True

variable {env rules target groups rw} {m : RulesMatch} {input : RouteInput} {sql key : String}

/-! ## Regex rules -/

theorem lookup_buildBalance {rule : RegexRule} {balances : List (String × BalanceType)}
    (h : RegexRuleMatchInner.buildBalance rule groups rw = .ok balances) (key : String) :
    balances.lookup key = (poolOf groups rw rule key).map
      (RegexRuleMatchInner.buildBalanceInner rule.algorithmName rule.target) := by
  unfold RegexRuleMatchInner.buildBalance at h
  unfold poolOf
  split at h
  · rename_i hglobal
    cases h
    rw [if_pos hglobal]
    by_cases hkey : key = "GLOBAL"
    · simp [hkey]
    · rw [if_neg hkey, List.lookup_cons, beq_eq_false_iff_ne.mpr hkey]
      rfl
  · rename_i hnamed
    rw [if_neg hnamed]
    -- a name that was walked has the balancer of its group, whatever was there before
    have hloop : ∀ (names : List String) (start : List (String × BalanceType)),
        names.foldlM (RegexRuleMatchInner.addGroup rule groups) start = .ok balances →
        balances.lookup key = if key ∈ names then (groups.lookup key).map
          (RegexRuleMatchInner.buildBalanceInner rule.algorithmName rule.target) else start.lookup key := by
      intro names
      induction names with
      | nil =>
        intro start h
        cases h
        rfl
      | cons name names ih =>
        intro start h
        rw [List.foldlM_cons] at h
        obtain ⟨next, hnext, hrest⟩ := Fallible.bind_eq_ok.mp h
        rw [ih next hrest]
        unfold RegexRuleMatchInner.addGroup at hnext
        split at hnext
        · rename_i members hmembers
          cases hnext
          rw [lookup_insertEntry]
          by_cases hname : key = name
          · subst hname
            simp [hmembers]
          · simp [hname]
        · cases hnext
    rw [hloop _ _ h]
    split <;> rfl

theorem regexNew_cases {rule : RegexRule} {inner : RegexRuleMatchInner}
    (h : RegexRuleMatchInner.new env rule groups rw = some inner) :
    (∀ sql, (inner.regexs.any fun r => r sql) = rule.covers env sql) ∧ inner.rule = rule ∧
      ∀ key, inner.balance.lookup key = (poolOf groups rw rule key).map
        (RegexRuleMatchInner.buildBalanceInner rule.algorithmName rule.target) := by
  obtain ⟨balances, hbalances, h⟩ := Option.bind_eq_some_iff.mp h
  obtain ⟨regexs, hregexs, h⟩ := Option.bind_eq_some_iff.mp h
  cases h
  refine ⟨fun sql => ?_, rfl, lookup_buildBalance (Fallible.toOption_eq_some.mp hbalances)⟩
  have hall : ∀ (texts : List String) (regexs : List (String → Bool)), texts.mapM env.compile = some regexs →
      (regexs.any fun r => r sql) = texts.any fun r => (env.compile r).any (· sql) := by
    intro texts
    induction texts with
    | nil =>
      intro regexs h
      cases h
      rfl
    | cons text texts ih =>
      intro regexs h
      rw [List.mapM_cons] at h
      obtain ⟨first, hfirst, h⟩ := Option.bind_eq_some_iff.mp h
      obtain ⟨rest, hrest, h⟩ := Option.bind_eq_some_iff.mp h
      cases h
      rw [List.any_cons, List.any_cons, ih rest hrest, hfirst]
      rfl
  exact hall _ _ hregexs

theorem firstMatch_regex (hasked : asked input = some (sql, key)) (fallback : BalanceType × TargetRole)
    (behind : List RulesMatchInner) (regexRules : List RegexRule) (instances : List RegexRuleMatchInner)
    (h : regexRules.mapM (fun rule => RegexRuleMatchInner.new env rule groups rw) = some instances) :
    firstMatch env input fallback (instances.map .regex ++ behind) =
      match regexRules.find? (·.covers env sql) with
      | some rule => (poolOf groups rw rule key).map fun pool =>
          (RegexRuleMatchInner.buildBalanceInner rule.algorithmName rule.target pool, rule.target)
      | none => firstMatch env input fallback behind := by
  induction regexRules generalizing instances with
  | nil =>
    cases h
    rfl
  | cons rule regexRules ih =>
    rw [List.mapM_cons] at h
    obtain ⟨inner, hinner, h⟩ := Option.bind_eq_some_iff.mp h
    obtain ⟨rest, hrest, h⟩ := Option.bind_eq_some_iff.mp h
    cases h
    obtain ⟨hcovers, hrule, hlookup⟩ := regexNew_cases hinner
    have hmatch : RulesMatchInner.isMatch env input (.regex inner) = some (rule.covers env sql) := by
      rw [← hcovers]
      cases input <;> cases hasked <;> rfl
    have hget : RulesMatchInner.get env input (.regex inner) = (poolOf groups rw rule key).map fun pool =>
        (RegexRuleMatchInner.buildBalanceInner rule.algorithmName rule.target pool, rule.target) := by
      have hpicked : RulesMatchInner.get env input (.regex inner) =
          (inner.balance.lookup key).map (·, inner.rule.target) := by
        cases input <;> cases hasked <;> rfl
      rw [hpicked, hlookup, hrule, Option.map_map]
      rfl
    rw [List.map_cons, List.cons_append, firstMatch, hmatch, Option.bind_eq_bind, Option.bind_some, hget, ih rest hrest,
      List.find?_cons]
    cases rule.covers env sql <;> rfl

/-! ## Generic rules -/

theorem splitOn_eq_takeWhile (sep : Char) (s : List Char) :
    ∃ more, splitOn sep s = s.takeWhile (· != sep) :: more ∧ (more = [] ↔ sep ∉ s) := by
  induction s with
  | nil => exact ⟨[], rfl, by simp⟩
  | cons c s ih =>
    obtain ⟨more, hmore, hnil⟩ := ih
    unfold splitOn
    rw [hmore]
    by_cases hc : c = sep
    · subst hc
      exact ⟨s.takeWhile (· != c) :: more, by simp, by simp⟩
    · have hne : sep ≠ c := fun h => hc h.symm
      exact ⟨more, by simp [hc], by rw [hnil]; simp [hne]⟩

theorem takeWhile_congr {p q : Char → Bool} {s : List Char} (hpq : ∀ c, p c = true → q c = true)
    (hq : ∀ c ∈ s.takeWhile q, p c = true) : s.takeWhile p = s.takeWhile q := by
  induction s with
  | nil => rfl
  | cons c s ih =>
    cases hc : q c with
    | false =>
      have hp : p c = false := by
        cases hp : p c with
        | false => rfl
        | true => rw [hpq c hp] at hc; cases hc
      simp [hc, hp]
    | true =>
      rw [List.takeWhile_cons, hc] at hq
      have hp : p c = true := hq c List.mem_cons_self
      rw [List.takeWhile_cons, List.takeWhile_cons, hc, hp]
      exact congrArg (c :: ·) (ih fun c hc => hq c (List.mem_cons_of_mem _ hc))

theorem keywordOf_of_token (hupper : UpperLaws env) (h : genericRuleToken.contains (env.upper (upToBlank sql)) = true) :
    keywordOf env sql = env.upper (upToBlank sql) := by
  have hsolid : ∀ c ∈ sql.toList.takeWhile (· != ' '), (!isWhitespace c) = true := by
    intro c hc
    cases hblank : isWhitespace c with
    | false => rfl
    | true =>
      have hmem := hupper.blank (upToBlank sql) c (by rw [upToBlank, String.toList_ofList]; exact hc) hblank
      have hall : genericRuleToken.all (·.toList.all (!isWhitespace ·)) = true := by decide
      have hsolid := List.all_eq_true.mp (List.all_eq_true.mp hall _ (List.contains_iff_mem.mp h)) c hmem
      rw [hblank] at hsolid
      cases hsolid
  have hsame : sql.toList.takeWhile (fun c => !isWhitespace c) = sql.toList.takeWhile (· != ' ') := by
    refine takeWhile_congr (fun c hc => ?_) hsolid
    rw [bne_iff_ne]
    rintro rfl
    cases hc
  have hstart : trimStart sql.toList = sql.toList := by
    unfold trimStart
    cases hs : sql.toList with
    | nil => rfl
    | cons c s =>
      rw [hs] at hsame
      rw [List.dropWhile_cons]
      cases hblank : isWhitespace c with
      | false => rfl
      | true =>
        -- then the piece is empty, and no token is
        rw [List.takeWhile_cons, hblank] at hsame
        have hempty : upToBlank sql = "" := by
          rw [upToBlank, hs, ← hsame]
          rfl
        rw [hempty, hupper.empty] at h
        exact absurd h (by decide)
  unfold keywordOf firstWord
  rw [hstart, hsame]
  unfold upToBlank
  generalize sql.toList.takeWhile (· != ' ') = word
  cases word <;> rfl

theorem firstMatch_generic (fallback : BalanceType × TargetRole) (genericRules : List GenericRule) :
    firstMatch env (.statement sql) fallback
      ((genericRules.map fun rule => GenericRuleMatchInner.new rule target rw).map .generic) =
      match genericRules with
      | [] => some fallback
      | rule :: _ => if genericRuleToken.contains (env.upper (upToBlank sql)) then
          (GenericRuleMatchInner.new rule target rw).get env (.statement sql) else some fallback := by
  obtain ⟨more, hmore, -⟩ := splitOn_eq_takeWhile ' ' sql.toList
  have hmatch : startsWithToken env sql = genericRuleToken.contains (env.upper (upToBlank sql)) := by
    unfold startsWithToken
    rw [hmore]
    rfl
  have hmissed : startsWithToken env sql = false → ∀ rules : List GenericRule, firstMatch env (.statement sql) fallback
      ((rules.map fun rule => GenericRuleMatchInner.new rule target rw).map .generic) = some fallback := by
    intro hno rules
    induction rules with
    | nil => rfl
    | cons rule rules ih =>
      rw [List.map_cons, List.map_cons, firstMatch]
      simp only [RulesMatchInner.isMatch, GenericRuleMatchInner.isMatch, hno, Option.bind_eq_bind, Option.bind_some]
      exact ih
  cases genericRules with
  | nil => rfl
  | cons rule genericRules =>
    dsimp only
    rw [← hmatch]
    cases hyes : startsWithToken env sql with
    | false => exact hmissed hyes (rule :: genericRules)
    | true =>
      rw [List.map_cons, List.map_cons, firstMatch]
      simp only [RulesMatchInner.isMatch, GenericRuleMatchInner.isMatch, hyes, Option.bind_eq_bind, Option.bind_some,
        if_true]
      rfl

/-! ## The balancer that is given -/

theorem items_balanceOf (a b : AlgorithmName) (endpoints : List Endpoint) :
    (balanceOf a endpoints).items = (balanceOf b endpoints).items := by
  have hloop : ∀ (endpoints : List Endpoint) (x y : BalanceType), x.items = y.items →
      (endpoints.foldl BalanceType.add x).items = (endpoints.foldl BalanceType.add y).items := by
    intro endpoints
    induction endpoints with
    | nil => exact fun x y h => h
    | cons e endpoints ih =>
      intro x y h
      refine ih _ _ ?_
      unfold BalanceType.add
      rw [h]
      split
      · exact h
      · rfl
  exact hloop endpoints _ _ rfl

theorem defaults_generic (rule : GenericRule) :
    (GenericRuleMatchInner.new rule target rw).defaultBalance.items ⊆ rw.readwrite ↔
      defaults target rw ⊆ rw.readwrite := by
  have hwrite : ∀ algorithm, (balanceOf algorithm rw.readwrite).items ⊆ rw.readwrite :=
    fun algorithm e he => mem_items_balanceOf he
  cases target with
  | readWrite => exact iff_of_true (hwrite _) (hwrite _)
  | read =>
    show (balanceOf _ _).items ⊆ _ ↔ (balanceOf _ _).items ⊆ _
    cases hread : rw.read with
    | nil => exact iff_of_true (by simpa using hwrite _) (List.nil_subset _)
    | cons e more => rw [items_balanceOf rule.algorithmName .random]; rfl

/-- Generic rules give a balancer to every statement; to one that writes, when it is one of readwrite endpoints. -/
theorem statement_generic (hupper : UpperLaws env) (genericRules : List GenericRule) :
    ∃ b, firstMatch env (.statement sql) (buildDefaultBalance target rw, target)
      ((genericRules.map fun rule => GenericRuleMatchInner.new rule target rw).map .generic) = some b ∧
        (genericRules ≠ [] → writes (keywordOf env sql) = true →
          (b.1.items ⊆ rw.readwrite ↔ SentToPrimary env sql ∨ defaults target rw ⊆ rw.readwrite)) := by
  rw [firstMatch_generic]
  cases genericRules with
  | nil => exact ⟨_, rfl, fun hne => absurd rfl hne⟩
  | cons rule genericRules =>
    dsimp only
    split
    · rename_i htoken
      have hkeyword := keywordOf_of_token hupper htoken
      obtain ⟨more, hmore, hnil⟩ := splitOn_eq_takeWhile ' ' sql.toList
      have htrim : ∀ token ∈ genericRuleToken, String.ofList (trim token.toList) = token := by decide
      have hself := htrim _ (List.contains_iff_mem.mp htoken)
      unfold GenericRuleMatchInner.get SentToPrimary
      dsimp only
      rw [hmore]
      cases more with
      | nil =>
        refine ⟨_, rfl, fun _ _ => ?_⟩
        rw [defaults_generic]
        exact (or_iff_right fun h => hnil.mp rfl h.1).symm
      | cons piece more =>
        have hblank : ' ' ∈ sql.toList := Classical.not_not.mp fun h => nomatch hnil.mpr h
        dsimp only
        rw [show String.ofList (sql.toList.takeWhile (· != ' ')) = upToBlank sql from rfl, hself]
        split
        · rename_i hselect
          refine ⟨_, rfl, fun _ hwrites => ?_⟩
          rw [hkeyword, hselect] at hwrites
          exact absurd hwrites (by decide)
        · split
          · rename_i hprimary
            exact ⟨_, rfl, fun _ _ => iff_of_true (fun e he => mem_items_balanceOf he) (.inl ⟨hblank, hprimary⟩)⟩
          · rename_i hother
            exact ⟨_, rfl, fun _ _ => (defaults_generic rule).trans (or_iff_right fun h => hother h.2).symm⟩
    · rename_i htoken
      refine ⟨_, rfl, fun _ _ => (or_iff_right fun h => htoken ?_).symm⟩
      have hsub : ∀ token ∈ ["INSERT", "UPDATE", "DELETE", "SET", "START"], token ∈ genericRuleToken := by decide
      exact List.contains_iff_mem.mpr (hsub _ (List.contains_iff_mem.mp h.2))

theorem generic_ne_nil : rules.filterMap (·.asGeneric) ≠ [] ↔ ∃ rule, .generic rule ∈ rules := by
  constructor
  · intro hne
    obtain ⟨rule, h⟩ := List.exists_mem_of_ne_nil _ hne
    obtain ⟨r, hr, hrule⟩ := List.mem_filterMap.mp h
    cases r with
    | regex r => cases hrule
    | generic r => exact ⟨r, hr⟩
  · rintro ⟨rule, h⟩
    exact List.ne_nil_of_mem (List.mem_filterMap.mpr ⟨_, h, rfl⟩)

theorem sharded_generic (hpanics : GenericRuleMatchInner.isMatch env input = none)
    (fallback : BalanceType × TargetRole) : firstMatch env input fallback
      (((rules.filterMap (·.asGeneric)).map fun rule => GenericRuleMatchInner.new rule target rw).map .generic) =
      if rules.filterMap (·.asGeneric) ≠ [] then none else some fallback := by
  cases rules.filterMap (·.asGeneric) with
  | nil => rfl
  | cons rule genericRules =>
    rw [if_pos (List.cons_ne_nil _ _), List.map_cons, List.map_cons, firstMatch]
    show GenericRuleMatchInner.isMatch env input >>= _ = none
    rw [hpanics]
    rfl

/-- **What is given.**  The first regex rule that matches decides, else the generic rules do. -/
theorem get_eq (hbuild : buildRulesMatch env rules target groups rw = some m) (hasked : asked input = some (sql, key)) :
    m.get env input = match firstRegex env rules sql with
      | some rule => (poolOf groups rw rule key).map fun pool =>
          (RegexRuleMatchInner.buildBalanceInner rule.algorithmName rule.target pool, rule.target)
      | none => firstMatch env input (buildDefaultBalance target rw, target)
          (((rules.filterMap (·.asGeneric)).map fun rule => GenericRuleMatchInner.new rule target rw).map .generic) := by
  obtain ⟨inner, hinner, hm⟩ := Option.bind_eq_some_iff.mp hbuild
  obtain ⟨instances, hinstances, hinner⟩ := Option.bind_eq_some_iff.mp hinner
  cases hinner
  cases hm
  have hget := firstMatch_regex hasked (buildDefaultBalance target rw, target)
    (((rules.filterMap (·.asGeneric)).map fun rule => GenericRuleMatchInner.new rule target rw).map .generic) _ _
    hinstances
  cases input <;> cases hasked <;> exact hget

/-- **Rule matching.**  An input is served exactly when the first regex rule that matches has a balancer under the
    name that is asked for, no generic rule is asked about a sharded input, and a statement that writes is recognised
    or the default is a readwrite balancer. -/
theorem served_iff (hbuild : buildRulesMatch env rules target groups rw = some m) (hupper : UpperLaws env)
    (input : RouteInput) : Served env rules groups rw m input ↔ Served.Fits env rules target groups rw input := by
  cases input with
  | sharding endpoint => exact iff_of_true trivial trivial
  | none =>
    have hnone : ∀ (inner : List RulesMatchInner) (fallback : BalanceType × TargetRole),
        firstMatch env .none fallback inner = some fallback := by
      intro inner fallback
      induction inner with
      | nil => rfl
      | cons rule inner ih => cases rule <;> exact ih
    exact iff_of_true ⟨_, hnone m.inner _⟩ trivial
  | transaction sql =>
    obtain ⟨inner, -, hm⟩ := Option.bind_eq_some_iff.mp hbuild
    cases hm
    exact iff_of_true ⟨_, rfl, fun e he => mem_items_balanceOf he⟩ trivial
  | statement sql =>
    simp only [Served, Served.Fits]
    rw [get_eq hbuild rfl]
    cases firstRegex env rules sql with
    | some rule =>
      dsimp only
      cases poolOf groups rw rule "GLOBAL" with
      | none => exact iff_of_false (fun ⟨b, h, _⟩ => by cases h) nofun
      | some pool => exact iff_of_true ⟨_, rfl, nofun⟩ rfl
    | none =>
      obtain ⟨b, hb, hiff⟩ := @statement_generic env target rw sql hupper (rules.filterMap (·.asGeneric))
      dsimp only
      rw [hb]
      constructor
      · rintro ⟨b', h, hwrite⟩ hgeneric hwrites
        cases h
        exact (hiff (generic_ne_nil.mpr hgeneric) hwrites).mp (hwrite rfl hgeneric hwrites)
      · intro h
        exact ⟨b, rfl, fun _ hgeneric hwrites =>
          (hiff (generic_ne_nil.mpr hgeneric) hwrites).mpr (h hgeneric hwrites)⟩
  | shardingStatement sql nodeGroup =>
    simp only [Served, Served.Fits]
    rw [get_eq hbuild rfl]
    cases firstRegex env rules sql with
    | some rule =>
      dsimp only
      cases poolOf groups rw rule nodeGroup with
      | none => exact iff_of_false (fun ⟨b, h⟩ => by cases h) nofun
      | some pool => exact iff_of_true ⟨_, rfl⟩ rfl
    | none =>
      dsimp only
      rw [sharded_generic rfl, ← generic_ne_nil]
      split
      · rename_i hgeneric
        exact iff_of_false (fun ⟨b, h⟩ => nomatch h) fun h => h hgeneric
      · rename_i hgeneric
        exact iff_of_true ⟨_, rfl⟩ hgeneric
  | shardingTransaction sql nodeGroup =>
    simp only [Served, Served.Fits]
    rw [get_eq hbuild rfl]
    cases firstRegex env rules sql with
    | some rule =>
      constructor
      · rintro ⟨b, h, members, hmembers, hsub⟩
        obtain ⟨pool, hpool, rfl⟩ := Option.map_eq_some_iff.mp h
        exact ⟨members, hmembers, pool, hpool, hsub⟩
      · rintro ⟨members, hmembers, pool, hpool, hsub⟩
        exact ⟨_, Option.map_eq_some_iff.mpr ⟨pool, hpool, rfl⟩, members, hmembers, hsub⟩
    | none =>
      dsimp only
      rw [sharded_generic rfl, ← generic_ne_nil]
      constructor
      · rintro ⟨b, h, members, hmembers, hsub⟩
        split at h
        · cases h
        · rename_i hgeneric
          cases h
          exact ⟨members, hmembers, hgeneric, hsub⟩
      · rintro ⟨members, hmembers, hgeneric, hsub⟩
        exact ⟨_, if_neg hgeneric, members, hmembers, hsub⟩

theorem sharded_statement_panics : ¬ ∀ (env : Env) (rules : List ReadWriteSplittingRule) (target : TargetRole)
    (groups : List (String × ReadWriteEndpoint)) (rw : ReadWriteEndpoint) (m : RulesMatch) (input : RouteInput),
    UpperLaws env → buildRulesMatch env rules target groups rw = some m → Served env rules groups rw m input := by
  intro h
  obtain ⟨b, hb⟩ := h ⟨fun _ => none, id⟩ [.generic ⟨.random⟩] .readWrite [] testPair _
    (.shardingStatement "SELECT 1" "g") ⟨rfl, fun _ _ hc _ => hc⟩ rfl
  cases hb

theorem insert_served : Served ⟨fun _ => none, id⟩ [.generic ⟨.random⟩] [] testPair
      ⟨.read, ⟨.random, testPair.read⟩, ⟨.random, testPair.readwrite⟩,
        [.generic (.new ⟨.random⟩ .read testPair)]⟩ (.statement "INSERT INTO t VALUES (1)") ↔
    Served.Fits ⟨fun _ => none, id⟩ [.generic ⟨.random⟩] .read [] testPair (.statement "INSERT INTO t VALUES (1)") :=
  served_iff rfl ⟨rfl, fun _ _ hc _ => hc⟩ _

end DataNexus.Discovery
