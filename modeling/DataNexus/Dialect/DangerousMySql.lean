/-
  What a MySQL server reads in a text, and what the check for dangerous statements makes of it.

  `lexAt` is the server's lexer, as far as the rules need it.  `forbids` states the rules over what it reads, and
  `sheltered` that no forbidden word stands outside of literals, names and comments.

  The scanner of the gateway agrees with the server on `plain` lexemes (`sqlTokens_of_plain`).  On such texts nothing is
  hidden (`rejected_of_forbids`), if `mysql` and `user` are not written in backticks, and nothing is refused without
  reason (`accepted_of_sheltered`).
-/
import DataNexus.Dialect.DangerousSql

namespace DataNexus.Dialect.Dangerous.MySql

open DataNexus.Text DataNexus.Scan

/-! ## The server's lexer -/

inductive Lexeme where
  | blank
  | comment
  /-- The `/*!50000` or the `*/` around code. -/
  | executable
  | literal (quote : UInt8) (body : List UInt8)
  | name (body : List UInt8)
  | word (text : List UInt8)
  | cast
  | separator
deriving DecidableEq

/-- `--` is a comment in front of a space, a control character or the end. -/
def isDashComment : List UInt8 → Bool
  | [] => false
  | b :: tail => b == ch '-' && tail.head?.all fun b => isSpace b || isAsciiControl b

/-- The version behind `/*!`: five or six digits, or none. -/
def skipVersion (rest : List UInt8) : List UInt8 :=
  if (rest.take 5).length == 5 && (rest.take 5).all isDigit then
    if (rest.drop 5).head?.any isDigit then rest.drop 6 else rest.drop 5
  else rest

/-- One lexeme; the state says whether the text is in an executable comment. -/
def lexAt : Step Bool UInt8 Lexeme := fun executable b tail =>
  if isSpace b then ([.blank], executable, tail)
  else if b == ch '-' && isDashComment tail then ([.comment], executable, skipLine (tail.drop 1))
  else if b == ch '#' then ([.comment], executable, skipLine tail)
  else if b == ch '/' && tail.head? == some (ch '*') then
    if (tail.drop 1).head? == some (ch '!') then ([.executable], true, skipVersion (tail.drop 2))
    else ([.comment], executable, skipBlock (tail.drop 1))
  else if executable && b == ch '*' && tail.head? == some (ch '/') then ([.executable], false, tail.drop 1)
  else if b == ch '\'' || b == ch '"' then
    ([.literal b (readQuoted b true tail).1], executable, (readQuoted b true tail).2)
  else if b == ch '`' then ([.name (readQuoted b false tail).1], executable, (readQuoted b false tail).2)
  else if b == ch ':' && tail.head? == some (ch ':') then ([.cast], executable, tail.drop 1)
  else if b == ch ';' then ([.separator], executable, tail)
  else if inWord b then ([.word (b :: tail.takeWhile inWord)], executable, tail.dropWhile inWord)
  else ([.blank], executable, tail)

def lexemes (sql : List UInt8) : List Lexeme := tokens lexAt false sql

/-! ## The rules over lexemes -/

/-- Numbers and operators are nothing to the rules. -/
def Lexeme.isSignificant : Lexeme → Bool
  | .blank | .comment | .executable => false
  | .word text => !text.all isDigit
  | _ => true

def Lexeme.keyword : Lexeme → Option String
  | .word text => some (upperWord text)
  | _ => none

def Lexeme.identifies : Lexeme → Option String
  | .word text => some (upperWord text)
  | .name body => some (upperWord body)
  | _ => none

def isOutfile (a b : Option String) : Bool := a == some "INTO" && (b == some "OUTFILE" || b == some "DUMPFILE")

def isUserTable (a b : Option String) : Bool := a == some "MYSQL" && b == some "USER"

/-- The rules that `classify_dangerous_sql` has for MySQL, over the significant lexemes of a statement. -/
def forbidsStatement (statement : List Lexeme) : Bool :=
  let keywords := statement.map Lexeme.keyword
  (["CALL"].map some).isPrefixOf keywords || (["LOAD", "DATA"].map some).isPrefixOf keywords ||
    adjacent isOutfile keywords || statement.any (· == .cast) ||
    (["SET", "GLOBAL"].map some).isPrefixOf keywords || (["SET", "PERSIST"].map some).isPrefixOf keywords ||
    (["SET", "PERSIST_ONLY"].map some).isPrefixOf keywords || adjacent isUserTable (statement.map Lexeme.identifies)

def forbids (sql : List UInt8) : Bool :=
  ((lexemes sql).splitOnP (· == .separator)).any fun statement => forbidsStatement (statement.filter Lexeme.isSignificant)

/-- Every forbidden statement has one of these. -/
def forbiddenWords : List String :=
  ["CALL", "LOAD", "OUTFILE", "DUMPFILE", "::", "GLOBAL", "PERSIST", "PERSIST_ONLY", "MYSQL"]

def Lexeme.isHarmless : Lexeme → Bool
  | .word text => !forbiddenWords.contains (upperWord text)
  | .cast => false
  | _ => true

/-- The forbidden words are inside literals, names and comments only. -/
def sheltered (sql : List UInt8) : Bool := (lexemes sql).all Lexeme.isHarmless

/-- **What the check is for**: it refuses what is forbidden, and not a text with forbidden words in literals and
comments only. -/
def Checked (sql : String) : Prop :=
  (forbids (utf8 sql.toList) = true → (classifyDangerousSql sql .mySql).isSome = true) ∧
    (sheltered (utf8 sql.toList) = true → classifyDangerousSql sql .mySql = none)

/-! ## Agreement with the scanner -/

/-- The lexeme is read alike by the scanner; what its parts are is another question. -/
def Lexeme.isPlain : Lexeme → Bool
  | .executable => false
  | .literal quote body => quote != ch '"' || !body.contains (ch '\\')
  | .name body => upperWord body != "MYSQL" && upperWord body != "USER"
  | .word text => isIdentifier text || (wordTokens .mySql text).all fun token => !forbiddenWords.contains token
  | _ => true

def Lexeme.expand : Lexeme → List String
  | .literal quote _ => if quote == ch '\'' then ["<LITERAL>"] else []
  | .name _ => ["<BACKTICK_IDENT>"]
  | .word text => wordTokens .mySql text
  | .cast => ["::"]
  | .separator => [";"]
  | _ => []

theorem advances_lexAt : Advances lexAt := by
  intro executable b tail
  have hdrop : ∀ n, (tail.drop n).length ≤ tail.length := by
    intro n
    rw [List.length_drop]
    exact Nat.sub_le _ _
  have hline : ∀ rest : List UInt8, (skipLine rest).length ≤ rest.length :=
    fun rest => (List.dropWhile_sublist _).length_le
  have hversion : ∀ rest : List UInt8, (skipVersion rest).length ≤ rest.length := by
    intro rest
    unfold skipVersion
    split
    · split
      · rw [List.length_drop]
        exact Nat.sub_le _ _
      · rw [List.length_drop]
        exact Nat.sub_le _ _
    · exact Nat.le_refl _
  unfold lexAt
  split
  · exact Nat.le_refl _
  · split
    · exact Nat.le_trans (hline _) (hdrop 1)
    · split
      · exact hline tail
      · split
        · split
          · exact Nat.le_trans (hversion _) (hdrop 2)
          · exact Nat.le_trans (length_skipBlock _) (hdrop 1)
        · split
          · exact hdrop 1
          · split
            · exact length_readQuoted _ _ tail
            · split
              · exact length_readQuoted _ _ tail
              · split
                · exact hdrop 1
                · split
                  · exact Nat.le_refl _
                  · split
                    · exact (List.dropWhile_sublist _).length_le
                    · exact Nat.le_refl _

def Lexeme.isFormed : Lexeme → Bool
  | .word text => text.all inWord
  | _ => true

theorem isFormed_lexAt (executable : Bool) (b : UInt8) (tail : List UInt8) :
    ∀ l ∈ (lexAt executable b tail).1, l.isFormed = true := by
  rw [← List.all_eq_true]
  unfold lexAt
  split
  · rfl
  · split
    · rfl
    · split
      · rfl
      · split
        · split
          · rfl
          · rfl
        · split
          · rfl
          · split
            · rfl
            · split
              · rfl
              · split
                · rfl
                · split
                  · rfl
                  · split
                    · rename_i hb
                      show ((b :: tail.takeWhile inWord).all inWord && true) = true
                      rw [List.all_cons, hb, List.all_takeWhile]
                      rfl
                    · rfl

theorem isLineComment_mySql (tail : List UInt8) : isLineComment .mySql tail = isDashComment tail := by
  have hbyte : ∀ b, (isAsciiWhitespace b || isAsciiControl b) = (isSpace b || isAsciiControl b) := fun b =>
    (byte_kinds b).2.2.2.elim (congrArg (· || isAsciiControl b)) fun hvertical => hvertical ▸ rfl
  cases tail with
  | nil => rfl
  | cons b tail =>
    show (b == ch '-' && (false || tail.head?.all fun b => isAsciiWhitespace b || isAsciiControl b)) =
      (b == ch '-' && tail.head?.all fun b => isSpace b || isAsciiControl b)
    rw [Bool.false_or, funext hbyte]

theorem tokenAt_mySql (before : List UInt8) (b : UInt8) (tail : List UInt8) :
    tokenAt .mySql before b tail =
      if isSpace b then ([], tail)
      else if b == ch '-' && isDashComment tail then ([], skipLine (tail.drop 1))
      else if b == ch '#' then ([], skipLine tail)
      else if b == ch '/' && tail.head? == some (ch '*') then ([], skipBlock (tail.drop 1))
      else if b == ch '\'' then (["<LITERAL>"], skipQuoted (ch '\'') true tail)
      else if b == ch '"' then ([], skipQuoted (ch '"') false tail)
      else if b == ch '`' then (["<BACKTICK_IDENT>"], skipQuoted (ch '`') false tail)
      else if b == ch ':' && tail.head? == some (ch ':') then (["::"], tail.drop 1)
      else if b == ch ';' then ([";"], tail)
      else if startsWord b then
        ([upperWord (b :: tail.takeWhile continuesWord)], tail.dropWhile continuesWord)
      else ([], tail) := by
  rcases (byte_kinds b).2.2.2 with hspace | rfl
  · unfold tokenAt
    rw [hspace, isLineComment_mySql, show (ProtocolKind.mySql == .mySql) = true from rfl,
      show (ProtocolKind.mySql == .postgreSql) = false from rfl, Bool.and_true, Bool.and_false, Bool.true_or]
    rfl
  · -- the vertical tab is a space to the server, and nothing to the scanner
    rfl

/-- **One lexeme** of the server, read by the scanner. -/
theorem reads_lexAt {before : List UInt8} {b : UInt8} {tail : List UInt8}
    (hplain : ∀ l ∈ (lexAt false b tail).1, l.isPlain = true) :
    ∃ before', Reads (readToken .mySql) before (b :: tail) ((lexAt false b tail).1.flatMap Lexeme.expand) before'
      (lexAt false b tail).2.2 ∧ (lexAt false b tail).2.1 = false := by
  have hturn := tokenAt_mySql before b tail
  unfold lexAt at hplain ⊢
  by_cases hspace : isSpace b = true
  · rw [if_pos hspace] at hturn ⊢
    exact ⟨_, reads_tokenAt hturn, rfl⟩
  rw [if_neg hspace] at hplain hturn ⊢
  by_cases hdash : (b == ch '-' && isDashComment tail) = true
  · rw [if_pos hdash] at hturn ⊢
    exact ⟨_, reads_tokenAt hturn, rfl⟩
  rw [if_neg hdash] at hplain hturn ⊢
  by_cases hhash : (b == ch '#') = true
  · rw [if_pos hhash] at hturn ⊢
    exact ⟨_, reads_tokenAt hturn, rfl⟩
  rw [if_neg hhash] at hplain hturn ⊢
  by_cases hblock : (b == ch '/' && tail.head? == some (ch '*')) = true
  · rw [if_pos hblock] at hplain hturn ⊢
    by_cases hbang : ((tail.drop 1).head? == some (ch '!')) = true
    · rw [if_pos hbang] at hplain
      exact absurd (hplain .executable List.mem_cons_self) Bool.false_ne_true
    · rw [if_neg hbang]
      exact ⟨_, reads_tokenAt hturn, rfl⟩
  rw [if_neg hblock] at hplain hturn ⊢
  -- no executable comment is open that could be closed
  rw [Bool.false_and, Bool.false_and, if_neg Bool.false_ne_true] at hplain ⊢
  by_cases hquote : (b == ch '\'') = true
  · rw [if_pos hquote] at hturn
    rw [hquote, Bool.true_or, if_pos rfl, beq_iff_eq.mp hquote, readQuoted_rest]
    rw [beq_iff_eq.mp hquote] at hturn
    exact ⟨_, reads_tokenAt hturn, rfl⟩
  rw [if_neg hquote] at hturn
  rw [Bool.eq_false_iff.mpr hquote, Bool.false_or] at hplain ⊢
  by_cases hdouble : (b == ch '"') = true
  · rw [if_pos hdouble, beq_iff_eq.mp hdouble] at hturn hplain
    rw [if_pos hdouble, beq_iff_eq.mp hdouble, readQuoted_rest]
    have hbody : ch '\\' ∉ (readQuoted (ch '"') true tail).1 := by
      have h := hplain _ List.mem_cons_self
      intro hmem
      rw [Lexeme.isPlain, List.contains_iff_mem.mpr hmem] at h
      exact Bool.false_ne_true h
    rw [skipQuoted_of_no_backslash (by decide) hbody] at hturn
    exact ⟨_, reads_tokenAt hturn, rfl⟩
  rw [if_neg hdouble] at hplain hturn ⊢
  by_cases hback : (b == ch '`') = true
  · rw [if_pos hback] at hturn ⊢
    rw [beq_iff_eq.mp hback] at hturn ⊢
    rw [readQuoted_rest]
    exact ⟨_, reads_tokenAt hturn, rfl⟩
  rw [if_neg hback] at hplain hturn ⊢
  by_cases hcast : (b == ch ':' && tail.head? == some (ch ':')) = true
  · rw [if_pos hcast] at hturn ⊢
    exact ⟨_, reads_tokenAt hturn, rfl⟩
  rw [if_neg hcast] at hplain hturn ⊢
  by_cases hsemi : (b == ch ';') = true
  · rw [if_pos hsemi] at hturn ⊢
    exact ⟨_, reads_tokenAt hturn, rfl⟩
  rw [if_neg hsemi] at hplain hturn ⊢
  by_cases hword : inWord b = true
  · rw [if_pos hword]
    have hrun : ∀ c ∈ b :: tail.takeWhile inWord, inWord c = true := by
      intro c hc
      rcases List.mem_cons.mp hc with rfl | hc
      · exact hword
      · exact List.all_eq_true.mp List.all_takeWhile c hc
    have hstop : ∀ c, (tail.dropWhile inWord).head? = some c → continuesWord c = false := by
      intro c hc
      have hin : inWord c = false := head_dropWhile hc
      exact (Bool.or_eq_false_iff.mp hin).1
    have hreads := reads_run hrun (fun _ => rfl) hstop before
    rw [List.cons_append, List.takeWhile_append_dropWhile, ← List.append_nil (wordTokens _ _)] at hreads
    exact ⟨_, hreads, rfl⟩
  · have hstart : ¬startsWord b = true := fun h => hword (inWord_of_startsWord h)
    rw [if_neg hstart] at hturn
    rw [if_neg hword]
    exact ⟨_, reads_tokenAt hturn, rfl⟩

/-- **On plain texts** the scanner reads what the server reads. -/
theorem sqlTokens_of_plain {sql : List UInt8} (hplain : ∀ l ∈ lexemes sql, l.isPlain = true) :
    sqlTokens sql .mySql = (lexemes sql).flatMap Lexeme.expand := by
  have hsim : ∀ (before : List UInt8) (executable : Bool) (b : UInt8) (tail : List UInt8), executable = false →
      (∀ l ∈ (lexAt executable b tail).1, l.isPlain = true) →
      ∃ before', Reads (readToken .mySql) before (b :: tail) ((lexAt executable b tail).1.flatMap Lexeme.expand)
        before' (lexAt executable b tail).2.2 ∧ (lexAt executable b tail).2.1 = false := by
    rintro before executable b tail rfl h
    exact reads_lexAt h
  exact tokens_eq_flatMap (advances_readToken .mySql) advances_lexAt hsim rfl hplain

/-! ## Nothing is hidden -/

variable {l : Lexeme}

theorem expand_of_insignificant (h : l.isSignificant = false) : l.expand = [] := by
  cases l with
  | blank => rfl
  | comment => rfl
  | executable => rfl
  | literal quote body => cases h
  | name body => cases h
  | word text =>
    have hdigits : text.all isDigit = true := by
      rw [← Bool.not_not (text.all isDigit), show (!text.all isDigit) = false from h]
      rfl
    exact wordTokens_digits hdigits
  | cast => cases h
  | separator => cases h

theorem expand_of_keyword {l : Lexeme} {word : String} (hword : isRuleWord word = true) (h : l.keyword = some word) :
    l.expand = [word] := by
  obtain ⟨hne, hall⟩ := Bool.and_eq_true_iff.mp hword
  cases l with
  | word text =>
    have htext : upperWord text = word := Option.some.inj h
    have hid := isIdentifier_of_upperWord htext (bne_iff_ne.mp hne) (List.all_eq_true.mp hall)
    show wordTokens .mySql text = [word]
    rw [wordTokens_identifier hid, htext]
  | _ => cases h

theorem expand_of_identifies {word : String} (hword : word = "MYSQL" ∨ word = "USER")
    (hplain : l.isPlain = true) (h : l.identifies = some word) : l.expand = [word] := by
  cases l with
  | word text =>
    have hrule : isRuleWord word = true := by
      rcases hword with rfl | rfl
      · decide
      · decide
    exact expand_of_keyword hrule h
  | name body =>
    have hbody : upperWord body = word := Option.some.inj h
    obtain ⟨hmysql, huser⟩ := Bool.and_eq_true_iff.mp hplain
    rcases hword with rfl | rfl
    · exact absurd hbody (bne_iff_ne.mp hmysql)
    · exact absurd hbody (bne_iff_ne.mp huser)
  | _ => cases h

theorem prefix_expanded {words : List String} {statement : List Lexeme} (hwords : words.all isRuleWord = true)
    (h : (words.map some).isPrefixOf (statement.map Lexeme.keyword) = true) :
    words.isPrefixOf (statement.flatMap Lexeme.expand) = true :=
  isPrefixOf_flatMap (fun _ _ word hword hl => expand_of_keyword (List.all_eq_true.mp hwords word hword) hl) h

theorem isDangerous_mySql (statement : List String) :
    isDangerous .mySql statement =
      (["CALL"].isPrefixOf statement || ["LOAD", "DATA"].isPrefixOf statement ||
        adjacent (fun a b => a == "INTO" && (b == "OUTFILE" || b == "DUMPFILE")) statement ||
        statement.any (· == "::") || ["SET", "GLOBAL"].isPrefixOf statement ||
        ["SET", "PERSIST"].isPrefixOf statement || ["SET", "PERSIST_ONLY"].isPrefixOf statement ||
        adjacent (fun a b => a == "MYSQL" && b == "USER") statement) := by
  unfold isDangerous isCrossDialect isPrivilegedCatalogOrSession
  dsimp only
  rw [show (ProtocolKind.mySql == .mySql) = true from rfl, show (ProtocolKind.mySql == .postgreSql) = false from rfl]
  simp only [head_eq_isPrefixOf, Bool.and_false, Bool.false_and, Bool.and_true, Bool.false_or, Bool.or_false, Bool.or_assoc]

/-- **A forbidden statement** is one for the scanner. -/
theorem isDangerous_of_forbidsStatement {statement : List Lexeme} (hplain : ∀ l ∈ statement, l.isPlain = true)
    (h : forbidsStatement statement = true) : isDangerous .mySql (statement.flatMap Lexeme.expand) = true := by
  have houtfile : adjacent isOutfile (statement.map Lexeme.keyword) = true →
      adjacent (fun a b => a == "INTO" && (b == "OUTFILE" || b == "DUMPFILE"))
        (statement.flatMap Lexeme.expand) = true := by
    rw [adjacent_map]
    refine adjacent_flatMap fun l _ m _ hp => ?_
    obtain ⟨hl, hm⟩ := Bool.and_eq_true_iff.mp hp
    have hinto := expand_of_keyword (by decide) (beq_iff_eq.mp hl)
    rcases Bool.or_eq_true_iff.mp hm with hm | hm
    · exact ⟨"INTO", "OUTFILE", hinto, expand_of_keyword (by decide) (beq_iff_eq.mp hm), by decide⟩
    · exact ⟨"INTO", "DUMPFILE", hinto, expand_of_keyword (by decide) (beq_iff_eq.mp hm), by decide⟩
  have hcast : statement.any (· == .cast) = true → (statement.flatMap Lexeme.expand).any (· == "::") = true := by
    intro h
    obtain ⟨l, hl, hcast⟩ := List.any_eq_true.mp h
    have hmem : "::" ∈ l.expand := by
      rw [beq_iff_eq.mp hcast]
      exact List.mem_cons_self
    exact List.any_eq_true.mpr ⟨"::", List.mem_flatMap.mpr ⟨l, hl, hmem⟩, by decide⟩
  have huser : adjacent isUserTable (statement.map Lexeme.identifies) = true →
      adjacent (fun a b => a == "MYSQL" && b == "USER") (statement.flatMap Lexeme.expand) = true := by
    rw [adjacent_map]
    refine adjacent_flatMap fun l hl m hm hp => ?_
    obtain ⟨hmysql, huser⟩ := Bool.and_eq_true_iff.mp hp
    exact ⟨"MYSQL", "USER", expand_of_identifies (.inl rfl) (hplain l hl) (beq_iff_eq.mp hmysql),
      expand_of_identifies (.inr rfl) (hplain m hm) (beq_iff_eq.mp huser), by decide⟩
  have hfront : ∀ words : List String, words.all isRuleWord = true →
      (words.map some).isPrefixOf (statement.map Lexeme.keyword) = true →
      words.isPrefixOf (statement.flatMap Lexeme.expand) = true := fun words => prefix_expanded
  rw [isDangerous_mySql]
  unfold forbidsStatement at h
  simp only [Bool.or_eq_true] at h ⊢
  rcases h with ((((((h | h) | h) | h) | h) | h) | h) | h
  · exact .inl (.inl (.inl (.inl (.inl (.inl (.inl (hfront _ (by decide) h)))))))
  · exact .inl (.inl (.inl (.inl (.inl (.inl (.inr (hfront _ (by decide) h)))))))
  · exact .inl (.inl (.inl (.inl (.inl (.inr (houtfile h))))))
  · exact .inl (.inl (.inl (.inl (.inr (hcast h)))))
  · exact .inl (.inl (.inl (.inr (hfront _ (by decide) h))))
  · exact .inl (.inl (.inr (hfront _ (by decide) h)))
  · exact .inl (.inr (hfront _ (by decide) h))
  · exact .inr (huser h)

theorem splitOn_of_plain {sql : List UInt8} (hplain : ∀ l ∈ lexemes sql, l.isPlain = true) :
    (sqlTokens sql .mySql).splitOn ";" =
      ((lexemes sql).splitOnP (· == .separator)).map (·.flatMap Lexeme.expand) := by
  rw [sqlTokens_of_plain hplain]
  refine splitOn_flatMap (fun l _ hl => ?_) (fun l hmem hl => ?_)
  · rw [beq_iff_eq.mp hl]
    rfl
  · cases l with
    | literal quote body =>
      show ";" ∉ if quote == ch '\'' then ["<LITERAL>"] else []
      split
      · decide
      · exact List.not_mem_nil
    | name body =>
      show ";" ∉ ["<BACKTICK_IDENT>"]
      decide
    | word text =>
      intro hsemi
      have hformed : text.all inWord = true := forall_tokens advances_lexAt isFormed_lexAt hmem
      obtain ⟨name, hname, htoken⟩ := wordTokens_words (List.all_eq_true.mp hformed) (fun _ => rfl) hsemi
      exact upperWord_head hname (by decide) htoken.symm
    | separator => cases hl
    | _ => decide

theorem rejected_of_forbids {sql : List UInt8} (hplain : ∀ l ∈ lexemes sql, l.isPlain = true)
    (h : forbids sql = true) : (classifyTokens .mySql (sqlTokens sql .mySql)).isSome = true := by
  rw [classifyTokens_isSome, splitOn_of_plain hplain]
  obtain ⟨statement, hmem, hforbids⟩ := List.any_eq_true.mp h
  have hsub : ∀ l ∈ statement.filter Lexeme.isSignificant, l.isPlain = true := fun l hl =>
    hplain l (mem_of_mem_splitOnP hmem (List.mem_of_mem_filter hl))
  have hdangerous := isDangerous_of_forbidsStatement hsub hforbids
  rw [flatMap_filter fun l => expand_of_insignificant] at hdangerous
  exact ⟨_, List.mem_map_of_mem hmem, hdangerous⟩

/-! ## Nothing is refused without reason -/

theorem exists_forbiddenWord {statement : List String} (h : isDangerous .mySql statement = true) :
    ∃ token ∈ statement, token ∈ forbiddenWords := by
  have hfront : ∀ {words : List String} {word : String}, words.isPrefixOf statement = true → word ∈ words →
      word ∈ forbiddenWords → ∃ token ∈ statement, token ∈ forbiddenWords := fun {words word} hwords hmem hword =>
    ⟨word, (List.isPrefixOf_iff_prefix.mp hwords).subset hmem, hword⟩
  rw [isDangerous_mySql] at h
  simp only [Bool.or_eq_true] at h
  rcases h with ((((((h | h) | h) | h) | h) | h) | h) | h
  · exact hfront h (List.mem_cons_self (a := "CALL")) (by decide)
  · exact hfront h (List.mem_cons_self (a := "LOAD")) (by decide)
  · obtain ⟨front, a, b, back, rfl, hp⟩ := adjacent_iff.mp h
    refine ⟨b, by simp, ?_⟩
    rcases Bool.or_eq_true_iff.mp (Bool.and_eq_true_iff.mp hp).2 with hb | hb
    · rw [beq_iff_eq.mp hb]
      decide
    · rw [beq_iff_eq.mp hb]
      decide
  · obtain ⟨token, hmem, htoken⟩ := List.any_eq_true.mp h
    refine ⟨token, hmem, ?_⟩
    rw [beq_iff_eq.mp htoken]
    decide
  · exact hfront h (List.mem_cons_of_mem _ (List.mem_cons_self (a := "GLOBAL"))) (by decide)
  · exact hfront h (List.mem_cons_of_mem _ (List.mem_cons_self (a := "PERSIST"))) (by decide)
  · exact hfront h (List.mem_cons_of_mem _ (List.mem_cons_self (a := "PERSIST_ONLY"))) (by decide)
  · obtain ⟨front, a, b, back, rfl, hp⟩ := adjacent_iff.mp h
    refine ⟨a, by simp, ?_⟩
    rw [beq_iff_eq.mp (Bool.and_eq_true_iff.mp hp).1]
    decide

theorem expand_of_isHarmless (hplain : l.isPlain = true) (h : l.isHarmless = true) {token : String}
    (htoken : token ∈ l.expand) : token ∉ forbiddenWords := by
  cases l with
  | literal quote body =>
    rw [show (Lexeme.literal quote body).expand = if quote == ch '\'' then ["<LITERAL>"] else [] from rfl] at htoken
    split at htoken
    · rw [List.mem_singleton.mp htoken]
      decide
    · cases htoken
  | name body =>
    rw [List.mem_singleton.mp htoken]
    decide
  | word text =>
    rcases Bool.or_eq_true_iff.mp hplain with hid | hparts
    · have hexpand : (Lexeme.word text).expand = [upperWord text] := wordTokens_identifier hid
      rw [hexpand] at htoken
      rw [List.mem_singleton.mp htoken]
      intro hmem
      rw [Lexeme.isHarmless, List.contains_iff_mem.mpr hmem] at h
      exact Bool.false_ne_true h
    · intro hmem
      have hpart := List.all_eq_true.mp hparts token htoken
      rw [List.contains_iff_mem.mpr hmem] at hpart
      exact Bool.false_ne_true hpart
  | separator =>
    rw [List.mem_singleton.mp htoken]
    decide
  | cast => cases h
  | _ => cases htoken

theorem accepted_of_sheltered {sql : List UInt8} (hplain : ∀ l ∈ lexemes sql, l.isPlain = true)
    (h : sheltered sql = true) : classifyTokens .mySql (sqlTokens sql .mySql) = none := by
  rw [← Option.not_isSome_iff_eq_none, classifyTokens_isSome]
  rintro ⟨statement, hstatement, hdangerous⟩
  obtain ⟨token, htoken, hforbidden⟩ := exists_forbiddenWord hdangerous
  have hmem : token ∈ sqlTokens sql .mySql := by
    rw [List.splitOn_eq_splitOnP] at hstatement
    exact mem_of_mem_splitOnP hstatement htoken
  rw [sqlTokens_of_plain hplain] at hmem
  obtain ⟨l, hl, htoken⟩ := List.mem_flatMap.mp hmem
  exact expand_of_isHarmless (hplain l hl) (List.all_eq_true.mp h l hl) htoken hforbidden

/-! ## Executable comments -/

theorem skipBlock_append {body : List UInt8} (hbody : ¬[ch '*', ch '/'] <:+: body) (rest : List UInt8) :
    skipBlock (body ++ ch '*' :: ch '/' :: rest) = rest := by
  induction body with
  | nil => rfl
  | cons a body ih =>
    have hlater : ¬[ch '*', ch '/'] <:+: body := fun h => hbody (List.infix_cons h)
    cases body with
    | nil =>
      show (if a == ch '*' && ch '*' == ch '/' then ch '/' :: rest else skipBlock (ch '*' :: ch '/' :: rest)) = rest
      rw [if_neg (by rw [show (ch '*' == ch '/') = false from rfl, Bool.and_false]; exact Bool.false_ne_true)]
      exact ih hlater
    | cons b body =>
      have hpair : ¬(a == ch '*' && b == ch '/') = true := by
        intro h
        obtain ⟨ha, hb⟩ := Bool.and_eq_true_iff.mp h
        refine hbody ⟨[], body, ?_⟩
        rw [beq_iff_eq.mp ha, beq_iff_eq.mp hb]
        rfl
      show (if a == ch '*' && b == ch '/' then _ else skipBlock (b :: (body ++ ch '*' :: ch '/' :: rest))) = rest
      rw [if_neg hpair]
      exact ih hlater

def inExecutableComment (body : String) : String := "/*!" ++ body ++ "*/"

theorem classify_executable {body : String} (hbody : ¬[ch '*', ch '/'] <:+: utf8 body.toList) :
    classifyDangerousSql (inExecutableComment body) .mySql = none := by
  have hbytes : utf8 (inExecutableComment body).toList =
      ch '/' :: ch '*' :: (ch '!' :: utf8 body.toList ++ ch '*' :: ch '/' :: []) := by
    unfold inExecutableComment utf8
    rw [String.toList_append, String.toList_append, List.flatMap_append, List.flatMap_append]
    rfl
  have hcomment : ¬[ch '*', ch '/'] <:+: ch '!' :: utf8 body.toList := by
    rw [List.infix_cons_iff]
    rintro (h | h)
    · exact absurd (List.cons_prefix_cons.mp h).1 (by decide)
    · exact hbody h
  have hturn : tokenAt .mySql [] (ch '/') (ch '*' :: (ch '!' :: utf8 body.toList ++ ch '*' :: ch '/' :: [])) =
      ([], []) := by
    show ([], skipBlock (ch '!' :: utf8 body.toList ++ ch '*' :: ch '/' :: [])) = ([], [])
    rw [skipBlock_append hcomment]
  have hnothing : sqlTokens (utf8 (inExecutableComment body).toList) .mySql = [] := by
    rw [hbytes]
    exact (reads_tokenAt hturn).tokens_eq (advances_readToken .mySql)
  unfold classifyDangerousSql
  rw [hnothing]
  rfl

/-- **The check for MySQL** is right on texts that scanner and server read alike, and blind in executable comments. -/
theorem mysql_texts_checked (sql : String) : ((∀ l ∈ lexemes (utf8 sql.toList), l.isPlain = true) → Checked sql) ∧
      ∀ body : String, ¬[ch '*', ch '/'] <:+: utf8 body.toList →
        (Checked (inExecutableComment body) ↔ forbids (utf8 (inExecutableComment body).toList) = false) := by
  constructor
  · exact fun hplain => ⟨rejected_of_forbids hplain, accepted_of_sheltered hplain⟩
  · intro body hbody
    have hnone := classify_executable hbody
    constructor
    · rintro ⟨hrejected, _⟩
      rw [← Bool.not_eq_true]
      intro hforbids
      have hsome := hrejected hforbids
      rw [hnone] at hsome
      exact Bool.false_ne_true hsome
    · intro hforbids
      refine ⟨fun h => ?_, fun _ => hnone⟩
      rw [hforbids] at h
      exact absurd h Bool.false_ne_true

/-- A refused text, a text that is let through with forbidden words in its literals and its comment, and a
comment that is code. -/
theorem mysql_texts_examples :
    Checked "SELECT 1 # it's fine\n; /* \" */ CALL p()" ∧ Checked "SELECT 'CALL \\' ;', \"mysql.user\" -- INTO OUTFILE" ∧
      ¬Checked (inExecutableComment "50000 CALL p() ") := by
  refine ⟨(mysql_texts_checked _).1 (by decide +kernel), (mysql_texts_checked _).1 (by decide +kernel), ?_⟩
  rw [(mysql_texts_checked "").2 "50000 CALL p() " (by decide +kernel)]
  decide +kernel

/-- A call in an executable comment, one behind an escaped quote, and the user table in backticks are hidden. -/
theorem mysql_texts_misread :
    ¬Checked "/*!50000 CALL p() */" ∧ ¬Checked "SELECT \"a\\\"\", 1; CALL p(); -- \"" ∧
      ¬Checked "SELECT * FROM `mysql`.`user`" ∧ ¬Checked "SELECT \"\\\"; CALL p(); --\"" := by
  refine ⟨fun h => ?_, fun h => ?_, fun h => ?_, fun h => ?_⟩
  · exact absurd (h.1 (by decide +kernel)) (by decide +kernel)
  · exact absurd (h.1 (by decide +kernel)) (by decide +kernel)
  · exact absurd (h.1 (by decide +kernel)) (by decide +kernel)
  · exact absurd (h.2 (by decide +kernel)) (by decide +kernel)

end DataNexus.Dialect.Dangerous.MySql
