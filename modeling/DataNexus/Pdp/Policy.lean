/-
  The local policy decision point: matching and the pure evaluators
  (`gateway/core/src/pdp.rs`, `object_set.rs`, `time_rules.rs`, `security.rs`).

  This file embeds everything that is computed FROM one snapshot (`LocalPdpInner`) without the ticket store;
  `DataNexus.Pdp.Authorize` runs it in order.  Left abstract: the Cedar engine and the remote decision point are functions
  of a snapshot, the two SQL rewriters are parameters (`Rewriters`), and `Local::now().offset()` is the argument
  `localOffset`, in minutes.
-/
import DataNexus.Lib.Text
import DataNexus.Model
import DataNexus.Tickets.Store

namespace DataNexus.Pdp

open DataNexus.Text DataNexus.Tickets

/-! ## Subjects, actions, objects -/

/-- `Subject`: the data-plane identity. -/
structure Subject where
  subjectId : String
  dbUser : Option String
  database : Option String
deriving DecidableEq

def Subject.fromProtocolUser (user database : Option String) : Subject where
  subjectId := ((user.filter fun u => !u.isEmpty)).getD "anonymous"
  dbUser := user
  database := database

inductive StatementAction where
  | select
  | insert
  | update
  | delete
  | ddl
  | tcl
  | other
deriving DecidableEq

def StatementAction.asStr : StatementAction → String
  | .select => "select"
  | .insert => "insert"
  | .update => "update"
  | .delete => "delete"
  | .ddl => "ddl"
  | .tcl => "tcl"
  | .other => "other"

def StatementAction.fromKeyword (keyword : String) : StatementAction :=
  let k := String.ofList (toAsciiUppercase (trim keyword.toList))
  if k ∈ ["SELECT", "WITH", "VALUES", "TABLE", "SHOW", "EXPLAIN", "DESCRIBE", "DESC"] then .select
  else if k ∈ ["INSERT", "REPLACE"] then .insert
  else if k = "UPDATE" then .update
  else if k = "DELETE" then .delete
  else if k ∈ ["CREATE", "ALTER", "DROP", "TRUNCATE", "RENAME", "COMMENT"] then .ddl
  else if k ∈ ["BEGIN", "START", "COMMIT", "ROLLBACK", "SAVEPOINT", "RELEASE"] then .tcl
  else .other

/-- `DialectParser::leading_keyword`, the trait's default body. -/
def leadingKeyword (sql : String) : Option String :=
  match firstWord (toAsciiUppercase (trimStart sql.toList)) with
  | none => none
  | some token =>
    let token := trimEndMatches (· == ';') token
    if token.isEmpty then none else some (String.ofList token)

inductive StarPolicy where
  | deny
  | allow
deriving DecidableEq

/-- `ObjectAccess`: one table touched by a statement. -/
structure ObjectAccess where
  schema : Option String
  table : String
  columns : List String
  op : StatementAction
  hasWildcard : Bool
deriving DecidableEq

def ObjectAccess.qualifiedTable (o : ObjectAccess) : String :=
  match o.schema with
  | some s => if s.isEmpty then o.table else s ++ "." ++ o.table
  | none => o.table

/-- `ObjectAccess::bare_columns`: last segment, unquoted, lower-cased. -/
def ObjectAccess.bareColumns (o : ObjectAccess) : List String :=
  o.columns.map fun c =>
    String.ofList (toAsciiLowercase
      (trimMatches (· == '"') (trimMatches (· == '`') (lastSegment '.' c.toList))))

structure ObjectSet where
  objects : List ObjectAccess
  parseFailed : Bool
  heuristic : Bool
deriving DecidableEq

/-- Append unless an entry equal up to ASCII case is there. -/
def pushUnique (out : List String) (name : String) : List String :=
  if out.any (fun t => eqIgnoreAsciiCase t name) then out else out ++ [name]

def ObjectSet.tables (set : ObjectSet) : List String :=
  set.objects.foldl (fun out obj => pushUnique (pushUnique out obj.qualifiedTable) obj.table) []

def ObjectSet.hasWildcard (set : ObjectSet) : Bool := set.objects.any (·.hasWildcard)

def collectBareColumns (set : ObjectSet) : List String :=
  set.objects.foldl (fun out obj =>
    obj.bareColumns.foldl (fun out c => if out.any (· == c) then out else out ++ [c]) out) []

/-! ## Policy snapshots -/

structure SecurityRuleConfig where
  name : String
  effect : String
  actions : List String
  tables : List String
  columns : List String
  subjects : List String
  rowFilter : Option String

structure SecurityMaskRuleConfig where
  name : String
  algorithm : String
  replaceWith : String
  prefixLen : Nat
  suffixLen : Nat

/-- `SecurityColumnTagConfig` (its audit label is not read here). -/
structure SecurityColumnTagConfig where
  column : String
  tables : List String
  subjects : List String
  maskRule : String

structure SecurityHighRiskRuleConfig where
  name : String
  kind : String
  ticketType : String
  actions : List String
  tables : List String
  subjects : List String
  message : String

structure SecurityTimeRuleConfig where
  name : String
  effect : String
  outside : Bool
  days : List String
  start : String
  stop : String
  timezone : String
  actions : List String
  subjects : List String
  tables : List String
  ticketType : String
  message : String

structure SecurityWatermarkConfig where
  enabled : Bool
  mode : String
  column : String
  token : String

/-- `RemotePdpClient`, as the decision point sees it. -/
structure RemotePdpClient where
  authorizeTables : (subjectId service : String) → StatementAction → (tables : List String) →
    (fingerprint : String) → Except String Unit
  failClosed : Bool

/-- `CedarEngine::authorize_tables`. -/
abbrev CedarEngine := (subjectId : String) → StatementAction → (tables : List String) → Except String Unit

/-- `LocalPdpInner`: one immutable policy snapshot. -/
structure LocalPdpInner where
  failClosed : Bool
  starPolicy : StarPolicy
  rules : List SecurityRuleConfig
  maskRules : List SecurityMaskRuleConfig
  columnTags : List SecurityColumnTagConfig
  highRiskRules : List SecurityHighRiskRuleConfig
  timeRules : List SecurityTimeRuleConfig
  defaultMaxRows : Option Nat
  watermark : SecurityWatermarkConfig
  cedar : Option CedarEngine
  cedarRequired : Bool
  remote : Option RemotePdpClient

/-! ## Globs -/

/-- The `while vi < value.len()` loop of `glob_match_bytes`, then the loop over trailing stars.
    `star` is `(star_p, star_v)` once a `*` was seen.  Each turn moves `pi` forward or, on a
    backtrack, `star_v`, so `globFuel` turns are enough. -/
def globLoop (pattern value : List UInt8) : Nat → Nat → Nat → Option (Nat × Nat) → Bool
  | 0, _, _, _ => false
  | fuel + 1, pi, vi, star =>
    match value[vi]? with
    | none => (pattern.drop pi).all (· == '*'.toNat.toUInt8)
    | some v =>
      match pattern[pi]?, star with
      | some p, _ =>
        if p = '?'.toNat.toUInt8 ∨ p = v then globLoop pattern value fuel (pi + 1) (vi + 1) star
        else if p = '*'.toNat.toUInt8 then globLoop pattern value fuel (pi + 1) vi (some (pi, vi))
        else match star with
          | some (sp, sv) => globLoop pattern value fuel (sp + 1) (sv + 1) (some (sp, sv + 1))
          | none => false
      | none, some (sp, sv) => globLoop pattern value fuel (sp + 1) (sv + 1) (some (sp, sv + 1))
      | none, none => false

/-- Turns that always suffice for `globLoop`. -/
def globFuel (pattern value : List UInt8) : Nat := (value.length + 1) * (pattern.length + 1) + 1

/-- `glob_match`: `*` is any run, `?` one byte, case-insensitive. -/
def globMatch (pattern value : String) : Bool :=
  let p := utf8 (toAsciiLowercase pattern.toList)
  let v := utf8 (toAsciiLowercase value.toList)
  globLoop p v (globFuel p v) 0 0 none

def tableGlobMatch (pattern table : String) : Bool :=
  let table := trimMatches (· == '\'') (trimMatches (· == '"') (trimMatches (· == '`') table.toList))
  let base := lastSegment '.' table
  let leaf := lastSegment '.' pattern.toList
  if globMatch pattern (String.ofList table) then true
  else if base ≠ table ∧ globMatch pattern (String.ofList base) then true
  else if leaf ≠ pattern.toList then globMatch (String.ofList leaf) (String.ofList base)
  else false

/-! ## Matching -/

/-- The subject test shared by all rule kinds: no pattern, or one that matches. -/
def subjectAllowed (subjects : List String) (subject : Subject) : Bool :=
  subjects.isEmpty || subjects.any fun p => globMatch p subject.subjectId

/-- `matches!(action, Insert | Update | Delete | Ddl)`. -/
def isWrite (action : StatementAction) : Bool :=
  action = .insert || action = .update || action = .delete || action = .ddl

/-- `action_matches_actions` (and `action_matches`, its copy for table rules). -/
def actionMatchesActions (actions : List String) (action : StatementAction) : Bool :=
  actions.isEmpty || actions.any fun raw =>
    let a := lower raw
    a == action.asStr || a == "*" || (a == "write" && isWrite action) ||
      (a == "read" && action == .select) ||
      (a == "dml" && (action == .insert || action == .update || action == .delete))

/-- Some touched object matches some table pattern, by qualified or bare name. -/
def objectsHit (patterns : List String) (objects : List ObjectAccess) : Bool :=
  objects.any fun obj => patterns.any fun p =>
    tableGlobMatch p obj.qualifiedTable || tableGlobMatch p obj.table

/-- Some table name matches some table pattern. -/
def tablesHit (patterns tables : List String) : Bool := tables.any fun t => patterns.any fun p => tableGlobMatch p t

/-- The object set when there is one, else the extracted names. -/
def touches (patterns : List String) (objects : Option ObjectSet) (tables : List String) : Bool :=
  match objects with
  | some set => objectsHit patterns set.objects
  | none => tablesHit patterns tables

/-- `rule_matches` on the parts of an `AccessRequest` it reads. -/
def ruleMatches (rule : SecurityRuleConfig) (subject : Subject) (action : StatementAction)
    (tables : List String) : Bool :=
  subjectAllowed rule.subjects subject && actionMatchesActions rule.actions action &&
    (rule.tables.isEmpty || (!tables.isEmpty && tablesHit rule.tables tables))

/-- A column pattern, bare or `table.col`, against a bare column of a table. -/
def columnPatternMatches (pattern bareCol table : String) : Bool :=
  let p := trim pattern.toList
  match beforeLast '.' p with
  | some tbl =>
    globMatch (String.ofList (lastSegment '.' p)) bareCol &&
      (tbl == ['*'] || globMatch (String.ofList tbl) table)
  | none => globMatch (String.ofList p) bareCol

/-! ## Decisions -/

inductive SecurityDecision where
  | allow (obligations : Obligations)
  | allowRewrite (sql : String) (obligations : Obligations)
  | requireTicket (rule ticketType message : String)
  | deny (rule message : String)
deriving DecidableEq

def SecurityDecision.isDeny : SecurityDecision → Bool
  | .deny _ _ => true
  | .requireTicket _ _ _ => true
  | _ => false

/-- `LocalPdp::evaluate` over one rule list: the first table rule that matches decides. -/
def evaluateRules (subject : Subject) (service : String) (action : StatementAction)
    (tables : List String) : List SecurityRuleConfig → SecurityDecision
  | [] => .allow Obligations.none
  | rule :: rules =>
    if !rule.columns.isEmpty || !ruleMatches rule subject action tables then
      evaluateRules subject service action tables rules
    else if lower rule.effect = "deny" then
      .deny rule.name ("security policy '" ++ rule.name ++ "' denied " ++ action.asStr ++
        " on service '" ++ service ++ "'")
    else if lower rule.effect = "allow" then .allow Obligations.none
    else evaluateRules subject service action tables rules

def evaluate (p : LocalPdpInner) (subject : Subject) (service : String) (action : StatementAction)
    (tables : List String) : SecurityDecision :=
  evaluateRules subject service action tables p.rules

/-- `evaluate_cedar` with the feature compiled in. -/
def evaluateCedar (p : LocalPdpInner) (subject : Subject) (action : StatementAction)
    (tables : List String) : Option SecurityDecision :=
  if !p.cedarRequired then none
  else match p.cedar with
    | none => some (.deny "cedar" "cedar PDP failed to load; deny (fail closed)")
    | some engine =>
      match engine subject.subjectId action tables with
      | .ok () => none
      | .error message => some (.deny "cedar" message)

/-- `evaluate_remote`.  The outer `none` is the panic of `sql_fingerprint`. -/
def evaluateRemote (p : LocalPdpInner) (subject : Subject) (service : String)
    (action : StatementAction) (tables : List String) (sql : String) : Option (Option SecurityDecision) :=
  match p.remote with
  | none => some none
  | some client =>
    (sqlFingerprint sql).map fun fp =>
      match client.authorizeTables subject.subjectId service action tables fp with
      | .ok () => none
      | .error message => if client.failClosed then some (.deny "remote" message) else none

/-! ## Time windows -/

/-- `parse_hhmm`, errors dropped (no caller in this model reads their text). -/
def parseHhmm (s : String) : Option Nat :=
  match splitOn ':' (trim s.toList) with
  | [hour, minute] =>
    match parseUnsigned (2 ^ 32 - 1) hour, parseUnsigned (2 ^ 32 - 1) minute with
    | some h, some m => if h > 23 ∨ m > 59 then none else some (h * 60 + m)
    | _, _ => none
  | _ => none

/-- `parse_weekday`, Monday as `0`. -/
def parseWeekday (s : String) : Option Nat :=
  let d := lower (String.ofList (trim s.toList))
  if d ∈ ["mon", "monday"] then some 0
  else if d ∈ ["tue", "tues", "tuesday"] then some 1
  else if d ∈ ["wed", "wednesday"] then some 2
  else if d ∈ ["thu", "thur", "thurs", "thursday"] then some 3
  else if d ∈ ["fri", "friday"] then some 4
  else if d ∈ ["sat", "saturday"] then some 5
  else if d ∈ ["sun", "sunday"] then some 6
  else none

/-- The hour and minute of a fixed offset text after its sign. -/
def parseOffsetParts (rest : List Char) : Option (Int × Int) :=
  let i32 := parseSigned (-2147483648) 2147483647
  if rest.contains ':' then
    match splitOn ':' rest with
    | [h, m] =>
      match i32 h, i32 m with
      | some h, some m => some (h, m)
      | _, _ => none
    | _ => none
  else if rest.length = 4 ∧ rest.all Char.isDigit then
    some ((i32 (rest.take 2)).getD 0, (i32 (rest.drop 2)).getD 0)
  else if rest.length = 2 ∧ rest.all Char.isDigit then some ((i32 rest).getD 0, 0)
  else none

/-- `parse_timezone_offset_minutes`, errors dropped. -/
def parseTimezoneOffsetMinutes (localOffset : Int) (tz : String) : Option Int :=
  let t := trim tz.toList
  let name := toAsciiLowercase t
  if t.isEmpty || name == "utc".toList || name == "z".toList then some 0
  else if name == "local".toList then some localOffset
  else
    let signed : Option (Int × List Char) := match t with
      | '+' :: rest => some (1, rest)
      | '-' :: rest => some (-1, rest)
      | _ => none
    match signed with
    | none => none
    | some (sign, rest) =>
      match parseOffsetParts (trim rest) with
      | none => none
      | some (h, m) =>
        if 0 ≤ h ∧ h ≤ 14 ∧ 0 ≤ m ∧ m ≤ 59 then some (sign * (h * 60 + m)) else none

/-- `is_inside_window`: half open, empty when the ends agree, overnight when `start > stop`. -/
def isInsideWindow (minuteOfDay start stop : Nat) : Bool :=
  if start = stop then false
  else if start < stop then start ≤ minuteOfDay && minuteOfDay < stop
  else start ≤ minuteOfDay || minuteOfDay < stop

/-- `civil_parts`: weekday (Monday `0`; the epoch was a Thursday) and minute of the day. -/
def civilParts (nowUnixSecs offsetMinutes : Int) : Nat × Nat :=
  let t := nowUnixSecs + offsetMinutes * 60
  (((t / 86400 + 3) % 7).toNat, ((t % 86400) / 60).toNat)

def SecurityTimeRuleConfig.matchesNow (tr : SecurityTimeRuleConfig) (localOffset nowUnixSecs : Int) : Bool :=
  match parseTimezoneOffsetMinutes localOffset tr.timezone, parseHhmm tr.start,
    parseHhmm tr.stop with
  | some offset, some startM, some stopM =>
    let (weekday, minute) := civilParts nowUnixSecs offset
    if !tr.days.isEmpty && !tr.days.any (fun d => parseWeekday d == some weekday) then tr.outside
    else if tr.outside then !isInsideWindow minute startM stopM
    else isInsideWindow minute startM stopM
  | _, _, _ => false

/-- The guards of the `for tr in &time_rules` loop: does this rule apply to the statement now? -/
def timeRuleApplies (tr : SecurityTimeRuleConfig) (localOffset now : Int) (subject : Subject)
    (action : StatementAction) (objects : Option ObjectSet) (tables : List String) : Bool :=
  subjectAllowed tr.subjects subject &&
    actionMatchesActions
      (if tr.actions.isEmpty then ["insert", "update", "delete", "ddl"] else tr.actions) action &&
    (tr.tables.isEmpty || touches tr.tables objects tables) && tr.matchesNow localOffset now

def timeRuleMessage (tr : SecurityTimeRuleConfig) (action : StatementAction) : String :=
  if (trim tr.message.toList).isEmpty then
    "security time policy '" ++ tr.name ++ "' blocked " ++ action.asStr ++
      " outside allowed window (" ++ tr.start ++ "–" ++ tr.stop ++ " " ++ tr.timezone ++ ")"
  else "security time policy '" ++ tr.name ++ "': " ++ tr.message

/-! ## High-risk classes -/

/-- Does one high-risk rule hit?  `none` is the panic of `strip_ticket_comment`. -/
def highRiskHit (hr : SecurityHighRiskRuleConfig) (action : StatementAction) (sql : String)
    (objects : Option ObjectSet) (tables : List String) : Option Bool :=
  let kind := lower hr.kind
  if kind = "ddl" then some (action == .ddl)
  else if kind = "write_no_where" then isWriteWithoutWhere sql
  else if kind = "export" then
    (stripTicketComment sql).map fun s =>
      let u := toAsciiUppercase s.toList
      contains " INTO OUTFILE".toList u || contains "DUMPFILE".toList u ||
        startsWith "COPY ".toList u || contains " COPY ".toList u
  else if kind = "action" then
    some (!hr.actions.isEmpty && actionMatchesActions hr.actions action)
  else if kind = "table_write" then
    some (isWrite action && (hr.tables.isEmpty || touches hr.tables objects tables))
  else some false

/-- `match_high_risk`: the first rule that hits. -/
def matchHighRiskFrom (subject : Subject) (action : StatementAction) (sql : String)
    (objects : Option ObjectSet) (tables : List String) :
    List SecurityHighRiskRuleConfig → Option (Option SecurityHighRiskRuleConfig)
  | [] => some none
  | hr :: rules =>
    if !subjectAllowed hr.subjects subject then
      matchHighRiskFrom subject action sql objects tables rules
    else match highRiskHit hr action sql objects tables with
      | none => none
      | some true => some (some hr)
      | some false => matchHighRiskFrom subject action sql objects tables rules

def matchHighRisk (p : LocalPdpInner) (subject : Subject) (action : StatementAction) (sql : String)
    (objects : Option ObjectSet) (tables : List String) : Option (Option SecurityHighRiskRuleConfig) :=
  matchHighRiskFrom subject action sql objects tables p.highRiskRules

/-! ## Column ACL -/

/-- The two SQL rewriters the decision point calls. -/
structure Rewriters where
  /-- `rewrite_select_strip_columns(sql, denied)`. -/
  stripColumns : String → List (String × String) → Option String
  /-- `inject_row_filter(sql, filter)`. -/
  injectRowFilter : String → String → Option String

inductive ColumnAclOutcome where
  | unchanged
  | rewrite (sql : String)
  | deny (rule message : String)
deriving DecidableEq

/-- The inner loop of `evaluate_column_acl` over the objects of one rule: the denied columns so far,
    or the wildcard denial that ends the scan. -/
def columnAclObjects (p : LocalPdpInner) (rule : SecurityRuleConfig) :
    List ObjectAccess → List (String × String) → Except ColumnAclOutcome (List (String × String))
  | [], denied => .ok denied
  | obj :: objs, denied =>
    if !rule.tables.isEmpty && !objectsHit rule.tables [obj] then columnAclObjects p rule objs denied
    else if obj.hasWildcard && p.starPolicy == .deny && eqIgnoreAsciiCase rule.effect "deny" then
      .error (.deny rule.name
        ("security policy '" ++ rule.name ++ "' denies wildcard projection on table '" ++
          obj.qualifiedTable ++ "' (star_policy=deny); list columns explicitly"))
    else
      let hits := obj.bareColumns.filter fun col =>
        rule.columns.any (fun pattern => columnPatternMatches pattern col obj.table) &&
          lower rule.effect == "deny"
      columnAclObjects p rule objs (denied ++ hits.map fun col => (rule.name, col))

def columnAclRules (p : LocalPdpInner) (subject : Subject) (action : StatementAction) (objects : ObjectSet) :
    List SecurityRuleConfig → List (String × String) → Except ColumnAclOutcome (List (String × String))
  | [], denied => .ok denied
  | rule :: rules, denied =>
    if rule.columns.isEmpty || !subjectAllowed rule.subjects subject ||
        !actionMatchesActions rule.actions action then
      columnAclRules p subject action objects rules denied
    else match columnAclObjects p rule objects.objects denied with
      | .error outcome => .error outcome
      | .ok denied' => columnAclRules p subject action objects rules denied'

def evaluateColumnAcl (rw : Rewriters) (p : LocalPdpInner) (subject : Subject) (service : String)
    (action : StatementAction) (objects : ObjectSet) (sql : String) : ColumnAclOutcome :=
  match columnAclRules p subject action objects p.rules [] with
  | .error outcome => outcome
  | .ok [] => .unchanged
  | .ok ((rule, col) :: more) =>
    let denial (why : String) : ColumnAclOutcome :=
      .deny rule ("security policy '" ++ rule ++ "' denied column '" ++ col ++ why)
    if action = .select ∧ !objects.hasWildcard then
      match rw.stripColumns sql ((rule, col) :: more) with
      | some rewritten =>
        if rewritten ≠ sql then .rewrite rewritten
        else denial ("' on service '" ++ service ++ "' (empty projection after strip)")
      | none => denial ("' on service '" ++ service ++ "' (rewrite not possible)")
    else denial ("' for " ++ action.asStr ++ " on service '" ++ service ++ "'")

/-! ## Row filter, masks, watermark -/

def rowFilterApplies (rule : SecurityRuleConfig) (subject : Subject) (action : StatementAction)
    (objects : Option ObjectSet) (tables : List String) : Bool :=
  !(!rule.columns.isEmpty && eqIgnoreAsciiCase rule.effect "deny") &&
    subjectAllowed rule.subjects subject && actionMatchesActions rule.actions action &&
    (rule.tables.isEmpty || touches rule.tables objects tables)

/-- The distinct filters of the matching rules, in rule order. -/
def matchingFilters (p : LocalPdpInner) (subject : Subject) (action : StatementAction)
    (objects : Option ObjectSet) (tables : List String) : List String :=
  p.rules.foldl (fun filters rule =>
    match rule.rowFilter with
    | none => filters
    | some filter =>
      if (trim filter.toList).isEmpty || !rowFilterApplies rule subject action objects tables ||
          filters.any (· == filter) then filters
      else filters ++ [filter]) []

def collectRowFilter (p : LocalPdpInner) (subject : Subject) (action : StatementAction)
    (objects : Option ObjectSet) (tables : List String) : Option String :=
  match matchingFilters p subject action objects tables with
  | [] => none
  | [filter] => some filter
  | filters => some (" AND ".intercalate (filters.map fun f => "(" ++ f ++ ")"))

/-- `MaskAlgorithm::parse`. -/
def parseMaskAlgorithm (raw : String) : Option MaskAlgorithm :=
  let a := lower (String.ofList (trim raw.toList))
  if a ∈ ["nullify", "null"] then some .nullify
  else if a ∈ ["partial", "mask"] then some .partialMask
  else if a = "hash" then some .hash
  else if a = "replace" then some .replace
  else if a ∈ ["keep_prefix", "prefix"] then some .keepPrefix
  else none

def tagBareColumn (tag : SecurityColumnTagConfig) : String :=
  String.ofList (toAsciiLowercase (lastSegment '.' tag.column.toList))

/-- The `(table, column)` pairs `collect_mask_specs` tries. -/
def maskCandidates (p : LocalPdpInner) (objects : Option ObjectSet) (tables columns : List String) :
    List (String × String) :=
  let first := tables.head?.getD ""
  match objects with
  | some set =>
    let pairs := set.objects.flatMap fun obj =>
      obj.bareColumns.map (fun col => (obj.table, col)) ++
        (if obj.hasWildcard then p.columnTags.map fun tag => (obj.table, tagBareColumn tag) else [])
    if pairs.isEmpty then p.columnTags.map fun tag => (first, tagBareColumn tag) else pairs
  | none => columns.map fun c => (first, lower c)

/-- One turn of the inner loop of `collect_mask_specs`. -/
def maskStep (p : LocalPdpInner) (subject : Subject) (table col : String) (out : List MaskSpec)
    (tag : SecurityColumnTagConfig) : List MaskSpec :=
  if !subjectAllowed tag.subjects subject then out
  else if !tag.tables.isEmpty && !tag.tables.any (fun pat => tableGlobMatch pat table || table.isEmpty)
  then out
  else if !columnPatternMatches tag.column col table then out
  -- the map keeps the LAST mask rule of a name
  else match p.maskRules.reverse.find? (fun m => lower m.name == lower tag.maskRule) with
    | none => out
    | some cfg =>
      match parseMaskAlgorithm cfg.algorithm with
      | none => out
      | some algorithm =>
        if out.any (fun m => eqIgnoreAsciiCase m.column col) then out
        else out ++ [{
          column := col, algorithm := algorithm,
          replaceWith := if cfg.replaceWith.isEmpty then "***" else cfg.replaceWith,
          prefixLen := cfg.prefixLen, suffixLen := cfg.suffixLen, rule := tag.maskRule }]

def collectMaskSpecs (p : LocalPdpInner) (subject : Subject) (objects : Option ObjectSet)
    (tables columns : List String) : List MaskSpec :=
  if p.columnTags.isEmpty || p.maskRules.isEmpty then []
  else (maskCandidates p objects tables columns).foldl
    (fun out pair => p.columnTags.foldl (maskStep p subject pair.1 pair.2) out) []

/-- `build_watermark`; `ms` is the clock reading of the call. -/
def buildWatermark (p : LocalPdpInner) (subject : Subject) (service : String) (ms : Nat) : Option WatermarkSpec :=
  if !p.watermark.enabled then none
  else some {
    mode := if lower (String.ofList (trim p.watermark.mode.toList)) = "suffix" then .suffix
      else .column
    column := if (trim p.watermark.column.toList).isEmpty then "_dn_wm" else p.watermark.column
    token := if (trim p.watermark.token.toList).isEmpty then
        subject.subjectId ++ "|" ++ service ++ "|" ++ String.ofList (Nat.toDigits 16 ms)
      else p.watermark.token }

/-! ## Heuristic table extraction -/

/-- The characters of an unquoted identifier after its first. -/
def isIdentChar (c : Char) : Bool := c.isAlphanum || c == '_' || c == '$' || c == '.'

def nextSqlIdent (input : List Char) : Option String :=
  let raw : Option (List Char) := match trimStart input with
    | [] => none
    | c :: rest =>
      if c == '`' || c == '"' || c == '\'' then some (rest.takeWhile (· != c))
      else if c.isAlphanum || c == '_' || c == '$' then some (c :: rest.takeWhile isIdentChar)
      else none
  match raw with
  | none => none
  | some out =>
    let name := trimMatches (· == '.') (trim out)
    let upper := String.ofList (toAsciiUppercase name)
    if name.isEmpty || upper ∈ ["SELECT", "WHERE", "SET", "VALUES", "ON", "AS", "LEFT", "RIGHT",
        "INNER", "OUTER", "CROSS", "ONLY"] then none
    else some (String.ofList name)

def extractTableNames (sql : String) : List String :=
  let text := sql.toList
  let afterKeywords := [" FROM ", " JOIN ", " INTO ", " UPDATE ", " TABLE ", "\nFROM ", "\nJOIN ",
    "\nINTO ", "\nUPDATE ", "\nTABLE "].flatMap fun keyword => restsAfter keyword.toList 0 text
  let trimmed := trimStart text
  let afterVerbs := ["UPDATE ", "INSERT INTO ", "DELETE FROM ", "TRUNCATE TABLE ",
    "TRUNCATE "].filterMap fun verb =>
      if startsWith verb.toList (toAsciiUppercase trimmed) then some (trimmed.drop verb.length)
      else none
  ((afterKeywords ++ afterVerbs).filterMap nextSqlIdent).foldl pushUnique []

end DataNexus.Pdp
