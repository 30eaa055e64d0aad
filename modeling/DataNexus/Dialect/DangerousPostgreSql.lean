/-
  What a PostgreSQL server reads in a text, and what the check for dangerous statements makes of it.

  `lexemeAt` is the server's lexer, as far as the rules need it; a number with letters behind it is an error to it.
  `forbids` states the rules over what it reads, a statement behind `EXPLAIN` included.

  Up to the first backtick, which the check refuses anyway, the scanner agrees with the server on `plain` lexemes
  (`reads_lexemeAt`).  A text of such lexemes hides nothing (`rejected_of_forbids`) but a file behind `E` or `U&` and a
  statement behind `EXPLAIN`.
-/
import Mathlib.Data.List.TakeWhile
import DataNexus.Dialect.DangerousSql

namespace DataNexus.Dialect.Dangerous.PostgreSql

open DataNexus.Text DataNexus.Scan

/-! ## The server's lexer -/

inductive Introducer where
  | none
  | escape
  | unicode
deriving DecidableEq

inductive Lexeme where
  | blank
  /-- Ended by a carriage return that is no part of a line feed, or not. -/
  | lineComment (loneReturn : Bool)
  | blockComment (nested : Bool)
  /-- With the bytes before the quote, the last one first. -/
  | literal (before : List UInt8) (introducer : Introducer) (escapes : Bool) (body : List UInt8)
  | dollarQuoted (tag : List UInt8)
  | quotedName (unicode : Bool) (body : List UInt8)
  | word (text : List UInt8)
  | number (text : List UInt8)
  /-- No quote, with what follows. -/
  | dollar (tail : List UInt8)
  | backtick
  | cast
  | separator
  | other (b : UInt8)
deriving DecidableEq

/-- What the server remembers: an escape literal, behind which a line feed has passed or not. -/
inductive After where
  | other
  | escapeLiteral (newline : Bool)
deriving DecidableEq

/-- The state of the lexer, with the bytes passed, the last one first. -/
structure Position where
  before : List UInt8
  after : After

def isNewline (b : UInt8) : Bool := b == ch '\n' || b == ch '\r'

def After.blank (b : UInt8) : After → After
  | .other => .other
  | .escapeLiteral newline => .escapeLiteral (newline || isNewline b)

def inTag (b : UInt8) : Bool := isAlphanumeric b || b == ch '_' || 128 ≤ b

/-- The end of a line comment: whether it is a lone carriage return, and what follows it. -/
def endLine (rest : List UInt8) : Bool × List UInt8 :=
  match rest.dropWhile fun b => !isNewline b with
  | [] => (false, [])
  | [_] => (false, [])
  | b :: c :: rest =>
    if b == ch '\n' then (false, c :: rest)
    else if c == ch '\n' then (false, rest)
    else (true, c :: rest)

/-- The end of a block comment with so many comments open in it: whether another one is opened, and what follows. -/
def readBlock : Nat → List UInt8 → Bool × List UInt8
  | _, [] => (false, [])
  | _, [_] => (false, [])
  | depth, a :: b :: rest =>
    if a == ch '*' && b == ch '/' then
      match depth with
      | 0 => (false, rest)
      | depth + 1 => readBlock depth rest
    else if a == ch '/' && b == ch '*' then (true, (readBlock (depth + 1) rest).2)
    else readBlock depth (b :: rest)

/-- The tag of a dollar quote, behind the first dollar, and what follows the second. -/
def dollarTag (tail : List UInt8) : Option (List UInt8 × List UInt8) :=
  match tail.dropWhile inTag with
  | [] => none
  | b :: body =>
    if b == ch '$' && !(tail.takeWhile inTag).head?.any isDigit then some (tail.takeWhile inTag, body) else none

def literalAt (before : List UInt8) (introducer : Introducer) (escapes : Bool) (rest : List UInt8) :
    Lexeme × After × List UInt8 :=
  (.literal before introducer escapes (readQuoted (ch '\'') escapes rest).1,
    if escapes then .escapeLiteral false else .other, (readQuoted (ch '\'') escapes rest).2)

/-- A word, or the literal or name that it introduces. -/
def wordAt (before : List UInt8) (b : UInt8) (tail : List UInt8) : Lexeme × After × List UInt8 :=
  match tail with
  | c :: rest =>
    if (b == ch 'e' || b == ch 'E') && c == ch '\'' then literalAt (b :: before) .escape true rest
    else if (b == ch 'u' || b == ch 'U') && c == ch '&' then
      match rest with
      | d :: rest =>
        if d == ch '\'' then literalAt (c :: b :: before) .unicode false rest
        else if d == ch '"' then
          (.quotedName true (readQuoted (ch '"') false rest).1, .other, (readQuoted (ch '"') false rest).2)
        else (.word [b], .other, tail)
      | [] => (.word [b], .other, tail)
    else (.word (b :: tail.takeWhile inWord), .other, tail.dropWhile inWord)
  | [] => (.word [b], .other, [])

/-- A number, with the junk behind it if there is any. -/
def numberAt (b : UInt8) (tail : List UInt8) : Lexeme × After × List UInt8 :=
  if (tail.dropWhile isDigit).head?.any fun c => inWord c && c != ch '$' then
    (.number (b :: tail.takeWhile inWord), .other, tail.dropWhile inWord)
  else (.number (b :: tail.takeWhile isDigit), .other, tail.dropWhile isDigit)

def lexemeAt (p : Position) (b : UInt8) (tail : List UInt8) : Lexeme × After × List UInt8 :=
  if isSpace b then (.blank, p.after.blank b, tail)
  else if b == ch '-' && tail.head? == some (ch '-') then
    (.lineComment (endLine (tail.drop 1)).1, p.after.blank (ch '\n'), (endLine (tail.drop 1)).2)
  else if b == ch '/' && tail.head? == some (ch '*') then
    (.blockComment (readBlock 0 (tail.drop 1)).1, .other, (readBlock 0 (tail.drop 1)).2)
  else if b == ch '\'' then literalAt p.before .none (p.after == .escapeLiteral true) tail
  else if b == ch '"' then
    (.quotedName false (readQuoted (ch '"') false tail).1, .other, (readQuoted (ch '"') false tail).2)
  else if b == ch '`' then (.backtick, .other, tail)
  else if b == ch '$' then
    match dollarTag tail with
    | some (tag, body) => (.dollarQuoted tag, .other, skipPast (ch '$' :: tag ++ [ch '$']) body)
    | none => (.dollar tail, .other, tail)
  else if b == ch ':' && tail.head? == some (ch ':') then (.cast, .other, tail.drop 1)
  else if b == ch ';' then (.separator, .other, tail)
  else if isDigit b then numberAt b tail
  else if inWord b then wordAt p.before b tail
  else (.other b, .other, tail)

def lexAt : Step Position UInt8 Lexeme := fun p b tail =>
  ([(lexemeAt p b tail).1], ⟨advance p.before (b :: tail) (lexemeAt p b tail).2.2, (lexemeAt p b tail).2.1⟩,
    (lexemeAt p b tail).2.2)

def lexemes (sql : List UInt8) : List Lexeme := tokens lexAt ⟨[], .other⟩ sql

/-! ## The rules over lexemes -/

def Lexeme.isSignificant : Lexeme → Bool
  | .blank | .lineComment _ | .blockComment _ => false
  | _ => true

def Lexeme.keyword : Lexeme → Option String
  | .word text => some (upperWord text)
  | _ => none

def Lexeme.isString : Lexeme → Bool
  | .literal _ _ _ _ | .dollarQuoted _ => true
  | _ => false

/-- A string behind `E` or `U&`. -/
def Lexeme.isIntroduced : Lexeme → Bool
  | .literal _ introducer _ _ => introducer != .none
  | _ => false

def isCatalogName (name : List UInt8) : Bool := upperWord name == "PG_AUTHID" || upperWord name == "PG_SHADOW"

/-- A name in double quotes for a table of the catalog; `decode` is the server's reading of a name behind `U&`. -/
def Lexeme.quotesCatalog (decode : List UInt8 → List UInt8) : Lexeme → Bool
  | .quotedName unicode body =>
    let name := if unicode then decode body else body
    name == utf8 "pg_authid".toList || name == utf8 "pg_shadow".toList
  | _ => false

def Lexeme.isCatalog (decode : List UInt8 → List UInt8) : Lexeme → Bool
  | .word text => isCatalogName text
  | l => l.quotesCatalog decode

/-- `COPY` from or to a string of this kind. -/
def copiesFile (isFile : Lexeme → Bool) (statement : List Lexeme) : Bool :=
  (["COPY"].map some).isPrefixOf (statement.map Lexeme.keyword) &&
    adjacent (fun a b => (a.keyword == some "FROM" || a.keyword == some "TO") && isFile b) statement

/-- The rules that `classify_dangerous_sql` has for PostgreSQL, over the significant lexemes of a statement. -/
def forbidsStatement (decode : List UInt8 → List UInt8) (statement : List Lexeme) : Bool :=
  let keywords := statement.map Lexeme.keyword
  ((["COPY"].map some).isPrefixOf keywords && keywords.contains (some "PROGRAM")) ||
    copiesFile Lexeme.isString statement || (["DO"].map some).isPrefixOf keywords ||
    (["CALL"].map some).isPrefixOf keywords || (["VACUUM"].map some).isPrefixOf keywords ||
    (["ANALYZE"].map some).isPrefixOf keywords || statement.any (· == .backtick) ||
    (["SHOW", "TABLES"].map some).isPrefixOf keywords || (["ALTER", "SYSTEM"].map some).isPrefixOf keywords ||
    (["SET", "SESSION", "AUTHORIZATION"].map some).isPrefixOf keywords ||
    (["SET", "ROLE"].map some).isPrefixOf keywords || statement.any (Lexeme.isCatalog decode)

/-- What is behind the options of `EXPLAIN`. -/
def skipOptions (rest : List Lexeme) : List Lexeme :=
  if rest.head? == some (.other (ch '(')) then (rest.dropWhile (· != .other (ch ')'))).drop 1
  else rest.dropWhile fun l => l.keyword == some "ANALYZE" || l.keyword == some "VERBOSE"

/-- A forbidden statement behind `EXPLAIN`. -/
def forbidsExplained (decode : List UInt8 → List UInt8) : List Lexeme → Bool
  | [] => false
  | l :: rest => l.keyword == some "EXPLAIN" && forbidsStatement decode (skipOptions rest)

/-- The statements of the server, without blanks and comments. -/
def statements (sql : List UInt8) : List (List Lexeme) :=
  ((lexemes sql).splitOnP (· == .separator)).map (·.filter Lexeme.isSignificant)

def forbids (decode : List UInt8 → List UInt8) (sql : List UInt8) : Bool :=
  (statements sql).any fun statement => forbidsStatement decode statement || forbidsExplained decode statement

/-- **What the check is for**: it refuses what is forbidden. -/
def Checked (decode : List UInt8 → List UInt8) (sql : String) : Prop :=
  forbids decode (utf8 sql.toList) = true → (classifyDangerousSql sql .postgreSql).isSome = true

/-! ## Agreement with the scanner -/

def Lexeme.isPlain (decode : List UInt8 → List UInt8) : Lexeme → Bool
  | .lineComment loneReturn => !loneReturn
  | .blockComment nested => !nested
  | .literal before _ escapes body => isPostgresqlEscapeString before == escapes || !body.contains (ch '\\')
  | .dollarQuoted tag => tag.all fun b => isAlphanumeric b || b == ch '_'
  | .quotedName unicode body => !(Lexeme.quotedName unicode body).quotesCatalog decode
  | .word text => isIdentifier text || !text.contains (ch '$')
  | .number text => !text.contains (ch '$')
  | .dollar tail => (dollarQuoteTag tail).isNone
  | _ => true

/-- The rules see the statement: it copies no file with an introduced name, and is not behind `EXPLAIN`. -/
def isPlainStatement (decode : List UInt8 → List UInt8) (statement : List Lexeme) : Bool :=
  !copiesFile Lexeme.isIntroduced statement &&
    (forbidsStatement decode statement || !forbidsExplained decode statement)

/-- The text is read alike up to the first backtick, and the rules see its statements. -/
def Plain (decode : List UInt8 → List UInt8) (sql : List UInt8) : Prop :=
  (∀ l ∈ (lexemes sql).takeWhile (· != .backtick), l.isPlain decode = true) ∧
    ∀ statement ∈ statements sql, isPlainStatement decode statement = true

def Lexeme.expand : Lexeme → List String
  | .literal _ .none _ _ => ["<LITERAL>"]
  | .literal _ .escape _ _ => ["E", "<LITERAL>"]
  | .literal _ .unicode _ _ => ["U", "<LITERAL>"]
  | .dollarQuoted _ => ["<LITERAL>"]
  | .quotedName true _ => ["U"]
  | .word text => wordTokens .postgreSql text
  | .number text => wordTokens .postgreSql text
  | .cast => ["::"]
  | .separator => [";"]
  | _ => []

/-! ## Where lexemes end -/

variable {b : UInt8} {l : Lexeme}

theorem skipLine_cons_of_ne (rest : List UInt8) (h : b ≠ ch '\n') : skipLine (b :: rest) = skipLine rest := by
  have hb : (b != ch '\n') = true := bne_iff_ne.mpr h
  unfold skipLine
  rw [List.dropWhile_cons, hb, if_pos rfl]

theorem skipLine_dropWhile (rest : List UInt8) : skipLine (rest.dropWhile fun b => !isNewline b) = skipLine rest := by
  induction rest with
  | nil => rfl
  | cons b rest ih =>
    cases hb : isNewline b with
    | true => rw [List.dropWhile_cons, hb, if_neg (by decide)]
    | false =>
      have hother : b ≠ ch '\n' := by
        rintro rfl
        cases hb
      rw [List.dropWhile_cons, hb, if_pos (by decide), ih, skipLine_cons_of_ne rest hother]

theorem skipLine_of_endLine {rest : List UInt8} (h : (endLine rest).1 = false) :
    skipLine rest = ch '\n' :: (endLine rest).2 ∨ skipLine rest = [] ∧ (endLine rest).2 = [] := by
  have hline := skipLine_dropWhile rest
  have hstop : ∀ b, (rest.dropWhile fun b => !isNewline b).head? = some b → isNewline b = true := by
    intro b hb
    have hnot : (!isNewline b) = false := head_dropWhile (p := fun b => !isNewline b) hb
    rw [← Bool.not_not (isNewline b), hnot]
    rfl
  unfold endLine at h ⊢
  generalize (rest.dropWhile fun b => !isNewline b) = left at hline hstop h ⊢
  cases left with
  | nil => exact .inr ⟨hline.symm, rfl⟩
  | cons b left =>
    rw [← hline]
    by_cases hfeed : b = ch '\n'
    · subst hfeed
      left
      cases left with
      | nil => rfl
      | cons c more => rfl
    · rw [skipLine_cons_of_ne left hfeed]
      cases left with
      | nil => exact .inr ⟨rfl, rfl⟩
      | cons c more =>
        dsimp only at h ⊢
        rw [if_neg (by rw [beq_iff_eq]; exact hfeed)] at h ⊢
        by_cases hc : (c == ch '\n') = true
        · rw [if_pos hc, beq_iff_eq.mp hc]
          exact .inl rfl
        · rw [if_neg hc] at h
          cases h

theorem skipBlock_of_readBlock {rest : List UInt8} (h : (readBlock 0 rest).1 = false) :
    skipBlock rest = (readBlock 0 rest).2 := by
  induction rest with
  | nil => rfl
  | cons a rest ih =>
    cases rest with
    | nil => rfl
    | cons b rest =>
      unfold readBlock at h ⊢
      unfold skipBlock
      by_cases hend : (a == ch '*' && b == ch '/') = true
      · rw [if_pos hend, if_pos hend]
      · rw [if_neg hend] at h ⊢
        rw [if_neg hend]
        by_cases hopen : (a == ch '/' && b == ch '*') = true
        · rw [if_pos hopen] at h
          cases h
        · rw [if_neg hopen] at h ⊢
          exact ih h

theorem dollarQuoteTag_of_dollarTag {tail tag body : List UInt8} (h : dollarTag tail = some (tag, body))
    (htag : (tag.all fun b => isAlphanumeric b || b == ch '_') = true) :
    dollarQuoteTag tail = some (ch '$' :: tag ++ [ch '$'], body) := by
  have hsplit : tail.takeWhile inTag ++ tail.dropWhile inTag = tail := List.takeWhile_append_dropWhile
  unfold dollarTag at h
  split at h
  · cases h
  · rename_i b rest hrest
    split at h
    · rename_i hb
      obtain ⟨rfl, rfl⟩ := Prod.mk.inj (Option.some.inj h)
      have hdollar := beq_iff_eq.mp (Bool.and_eq_true_iff.mp hb).1
      generalize tail.takeWhile inTag = tag at htag hsplit ⊢
      have hstop : ∀ c, (ch '$' :: rest).head? = some c → (isAlphanumeric c || c == ch '_') = false := by
        rintro c ⟨⟩
        decide
      obtain ⟨htake, hdrop⟩ := takeWhile_append_of_stop hstop tag
      have hall := List.all_eq_true.mp htag
      rw [hrest, hdollar] at hsplit
      rw [← hsplit]
      unfold dollarQuoteTag
      rw [hdrop, htake, List.takeWhile_eq_self_iff.mpr hall, List.dropWhile_eq_nil_iff.mpr hall]
      rfl
    · cases h

/-! ## One lexeme, read by the scanner -/

theorem tokenAt_postgreSql (before : List UInt8) (b : UInt8) (tail : List UInt8) :
    tokenAt .postgreSql before b tail =
      if isSpace b then ([], tail)
      else if b == ch '-' && tail.head? == some (ch '-') then ([], skipLine (tail.drop 1))
      else if b == ch '/' && tail.head? == some (ch '*') then ([], skipBlock (tail.drop 1))
      else if b == ch '\'' then
        (["<LITERAL>"], skipQuoted (ch '\'') (isPostgresqlEscapeString before) tail)
      else if b == ch '"' then ([], skipQuoted (ch '"') false tail)
      else if b == ch '`' then (["<BACKTICK_IDENT>"], skipQuoted (ch '`') false tail)
      else
        match (if b == ch '$' then dollarQuoteTag tail else none) with
        | some (tag, body) => (["<LITERAL>"], skipPast tag body)
        | none =>
          if b == ch ':' && tail.head? == some (ch ':') then (["::"], tail.drop 1)
          else if b == ch ';' then ([";"], tail)
          else if startsWord b then
            ([upperWord (b :: tail.takeWhile continuesWord)], tail.dropWhile continuesWord)
          else ([], tail) := by
  have hdash : isLineComment .postgreSql tail = (tail.head? == some (ch '-')) := by
    cases tail with
    | nil => rfl
    | cons c tail =>
      show (c == ch '-' && true) = (c == ch '-')
      rw [Bool.and_true]
  rcases (byte_kinds b).2.2.2 with hspace | rfl
  · unfold tokenAt
    rw [hspace, hdash, show (ProtocolKind.postgreSql == .mySql) = false from rfl,
      show (ProtocolKind.postgreSql == .postgreSql) = true from rfl, Bool.and_false, Bool.and_true, Bool.false_or]
    rfl
  · -- the vertical tab is a space to the server, and nothing to the scanner
    rfl

theorem reads_literal {before : List UInt8} {introducer : Introducer} {escapes : Bool} {tail : List UInt8}
    {decode : List UInt8 → List UInt8} (hplain : (literalAt before introducer escapes tail).1.isPlain decode = true) :
    Reads (readToken .postgreSql) before (ch '\'' :: tail) ["<LITERAL>"]
      (advance before (ch '\'' :: tail) (literalAt before introducer escapes tail).2.2)
      (literalAt before introducer escapes tail).2.2 := by
  have hagree : skipQuoted (ch '\'') (isPostgresqlEscapeString before) tail =
      (readQuoted (ch '\'') escapes tail).2 := by
    rw [readQuoted_rest]
    rcases Bool.or_eq_true_iff.mp hplain with h | h
    · rw [beq_iff_eq.mp h]
    · have hbody : ch '\\' ∉ (readQuoted (ch '\'') escapes tail).1 := by
        intro hmem
        rw [show ((readQuoted (ch '\'') escapes tail).1).contains (ch '\\') = true from
          List.contains_iff_mem.mpr hmem] at h
        exact Bool.false_ne_true h
      exact skipQuoted_of_no_backslash (by decide) hbody _
  have hturn : tokenAt .postgreSql before (ch '\'') tail =
      (["<LITERAL>"], (readQuoted (ch '\'') escapes tail).2) := by
    rw [← hagree]
    rfl
  exact reads_tokenAt hturn

theorem reads_letter {before rest : List UInt8} {c : UInt8} (hb : isAlphabetic b = true)
    (hc : continuesWord c = false) :
    Reads (readToken .postgreSql) before (b :: c :: rest) [upperWord [b]] (b :: before) (c :: rest) := by
  have hword : isIdentifier [b] = true := by
    show ((isAlphabetic b || b == ch '_') && true) = true
    rw [hb]
    rfl
  have hstop : ∀ d, (c :: rest).head? = some d → continuesWord d = false := by
    rintro d ⟨⟩
    exact hc
  exact reads_identifier hword hstop before

theorem reads_word {before text rest : List UInt8} (htext : ∀ b ∈ text, inWord b = true)
    (hplain : (isIdentifier text || !text.contains (ch '$')) = true)
    (hrest : ∀ b, rest.head? = some b → continuesWord b = false) :
    Reads (readToken .postgreSql) before (text ++ rest) (wordTokens .postgreSql text)
      (advance before (text ++ rest) rest) rest := by
  rw [advance_append]
  rcases Bool.or_eq_true_iff.mp hplain with hid | hdollar
  · rw [wordTokens_identifier hid]
    exact reads_identifier hid hrest before
  · refine reads_run htext (fun hmem => ?_) hrest before
    rw [List.contains_iff_mem.mpr hmem] at hdollar
    cases hdollar

theorem reads_run_front {before : List UInt8} (tail : List UInt8) (hb : inWord b = true)
    (hplain : (isIdentifier (b :: tail.takeWhile inWord) || !(b :: tail.takeWhile inWord).contains (ch '$')) = true) :
    Reads (readToken .postgreSql) before (b :: tail) (wordTokens .postgreSql (b :: tail.takeWhile inWord))
      (advance before (b :: tail) (tail.dropWhile inWord)) (tail.dropWhile inWord) := by
  have hrun : ∀ c ∈ b :: tail.takeWhile inWord, inWord c = true := by
    intro c hc
    rcases List.mem_cons.mp hc with rfl | hc
    · exact hb
    · exact List.mem_takeWhile_imp hc
  have hstop : ∀ c, (tail.dropWhile inWord).head? = some c → continuesWord c = false := by
    intro c hc
    have hin : inWord c = false := head_dropWhile hc
    exact (Bool.or_eq_false_iff.mp hin).1
  have hreads : Reads (readToken .postgreSql) before _ _ _ _ := reads_word hrun hplain hstop
  rw [List.cons_append, List.takeWhile_append_dropWhile] at hreads
  exact hreads

theorem inWord_of_isDigit (h : isDigit b = true) : inWord b = true := by
  have hdigit := (byte_kinds b).2.1
  rw [h] at hdigit
  exact (Bool.and_eq_true_iff.mp (Bool.and_eq_true_iff.mp hdigit).1).1

theorem reads_numberAt {before : List UInt8} {tail : List UInt8} {decode : List UInt8 → List UInt8}
    (hb : isDigit b = true) (hplain : (numberAt b tail).1.isPlain decode = true) :
    Reads (readToken .postgreSql) before (b :: tail) (numberAt b tail).1.expand
      (advance before (b :: tail) (numberAt b tail).2.2) (numberAt b tail).2.2 := by
  unfold numberAt at hplain ⊢
  split at hplain
  · rename_i hjunk
    rw [if_pos hjunk]
    refine reads_run_front tail (inWord_of_isDigit hb) ?_
    rw [show (!(b :: tail.takeWhile inWord).contains (ch '$')) = true from hplain, Bool.or_true]
  · rename_i hjunk
    rw [if_neg hjunk]
    have hall : (b :: tail.takeWhile isDigit).all isDigit = true := by
      rw [List.all_cons, hb, List.all_takeWhile]
      rfl
    have hreads : Reads (readToken .postgreSql) before _ _ _ _ := reads_digits hall before (tail.dropWhile isDigit)
    have hnothing : wordTokens .postgreSql (b :: tail.takeWhile isDigit) = [] := wordTokens_digits hall
    rw [← advance_append, List.cons_append, List.takeWhile_append_dropWhile, ← hnothing] at hreads
    exact hreads

theorem reads_wordAt {before : List UInt8} {tail : List UInt8} {decode : List UInt8 → List UInt8}
    (hb : inWord b = true) (hplain : (wordAt before b tail).1.isPlain decode = true) :
    Reads (readToken .postgreSql) before (b :: tail) (wordAt before b tail).1.expand
      (advance before (b :: tail) (wordAt before b tail).2.2) (wordAt before b tail).2.2 := by
  cases tail with
  | nil => exact reads_run_front [] hb hplain
  | cons c rest =>
    unfold wordAt at hplain ⊢
    dsimp only at hplain ⊢
    by_cases hescape : ((b == ch 'e' || b == ch 'E') && c == ch '\'') = true
    · rw [if_pos hescape] at hplain ⊢
      obtain ⟨hletter, hquote⟩ := Bool.and_eq_true_iff.mp hescape
      rw [beq_iff_eq.mp hquote]
      have hupper : upperWord [b] = "E" ∧ isAlphabetic b = true := by
        rcases Bool.or_eq_true_iff.mp hletter with h | h
        · rw [beq_iff_eq.mp h]
          decide
        · rw [beq_iff_eq.mp h]
          decide
      have hfirst : Reads (readToken .postgreSql) before (b :: ch '\'' :: rest) [upperWord [b]] _ _ :=
        reads_letter hupper.2 (by decide)
      have hshort : (literalAt (b :: before) .escape true rest).2.2.length ≤ (ch '\'' :: rest).length :=
        Nat.le_succ_of_le (length_readQuoted _ _ rest)
      rw [hupper.1] at hfirst
      rw [advance_cons hshort]
      exact hfirst.trans (reads_literal hplain)
    rw [if_neg hescape] at hplain ⊢
    by_cases hunicode : ((b == ch 'u' || b == ch 'U') && c == ch '&') = true
    · rw [if_pos hunicode] at hplain ⊢
      obtain ⟨hletter, hand⟩ := Bool.and_eq_true_iff.mp hunicode
      have hupper : upperWord [b] = "U" ∧ isAlphabetic b = true := by
        rcases Bool.or_eq_true_iff.mp hletter with h | h
        · rw [beq_iff_eq.mp h]
          decide
        · rw [beq_iff_eq.mp h]
          decide
      rw [beq_iff_eq.mp hand] at hplain ⊢
      have hfirst : Reads (readToken .postgreSql) before (b :: ch '&' :: rest) [upperWord [b]] _ _ :=
        reads_letter hupper.2 (by decide)
      rw [hupper.1] at hfirst
      have hand : tokenAt .postgreSql (b :: before) (ch '&') rest = ([], rest) := rfl
      have hsecond := hfirst.trans (reads_tokenAt hand)
      rw [show advance (b :: before) (ch '&' :: rest) rest = ch '&' :: b :: before from
        advance_append (b :: before) [ch '&'] rest] at hsecond
      cases rest with
      | nil => exact reads_run_front [ch '&'] hb hplain
      | cons d rest =>
        dsimp only at hplain ⊢
        by_cases hquote : (d == ch '\'') = true
        · rw [if_pos hquote] at hplain ⊢
          rw [beq_iff_eq.mp hquote] at hsecond ⊢
          have hshort : (literalAt (ch '&' :: b :: before) .unicode false rest).2.2.length ≤ rest.length :=
            length_readQuoted _ _ rest
          rw [advance_cons (Nat.le_succ_of_le (Nat.le_succ_of_le hshort)), advance_cons (Nat.le_succ_of_le hshort)]
          exact hsecond.trans (reads_literal hplain)
        rw [if_neg hquote] at hplain ⊢
        by_cases hdouble : (d == ch '"') = true
        · rw [if_pos hdouble] at hplain ⊢
          rw [beq_iff_eq.mp hdouble] at hsecond ⊢
          have hshort := length_readQuoted (ch '"') false rest
          have hname : tokenAt .postgreSql (ch '&' :: b :: before) (ch '"') rest =
              ([], (readQuoted (ch '"') false rest).2) := by
            rw [readQuoted_rest]
            rfl
          dsimp only
          rw [advance_cons (Nat.le_succ_of_le (Nat.le_succ_of_le hshort)), advance_cons (Nat.le_succ_of_le hshort)]
          exact hsecond.trans (reads_tokenAt hname)
        · rw [if_neg hdouble] at hplain ⊢
          exact reads_run_front (ch '&' :: d :: rest) hb hplain
    rw [if_neg hunicode] at hplain ⊢
    exact reads_run_front (c :: rest) hb hplain

/-- **One lexeme** of the server, read by the scanner. -/
theorem reads_lexemeAt {p : Position} {tail : List UInt8} {decode : List UInt8 → List UInt8}
    (hplain : (lexemeAt p b tail).1.isPlain decode = true) (hback : (lexemeAt p b tail).1 ≠ .backtick) :
    Reads (readToken .postgreSql) p.before (b :: tail) (lexemeAt p b tail).1.expand
      (advance p.before (b :: tail) (lexemeAt p b tail).2.2) (lexemeAt p b tail).2.2 := by
  have hturn := tokenAt_postgreSql p.before b tail
  unfold lexemeAt at hplain hback ⊢
  by_cases hspace : isSpace b = true
  · rw [if_pos hspace] at hturn ⊢
    exact reads_tokenAt hturn
  rw [if_neg hspace] at hplain hback hturn ⊢
  by_cases hdash : (b == ch '-' && tail.head? == some (ch '-')) = true
  · rw [if_pos hdash] at hplain hturn ⊢
    have hline : (endLine (tail.drop 1)).1 = false := by
      rw [← Bool.not_not (endLine (tail.drop 1)).1, show (!(endLine (tail.drop 1)).1) = true from hplain]
      rfl
    rcases skipLine_of_endLine hline with hfeed | ⟨hend, hrest⟩
    · -- the line feed is a turn of its own
      rw [hfeed] at hturn
      have hsuffix : ch '\n' :: (endLine (tail.drop 1)).2 <:+ b :: tail := by
        rw [← hfeed]
        exact ((List.dropWhile_suffix _).trans (List.drop_suffix 1 tail)).trans (List.suffix_cons b tail)
      have hnext : tokenAt .postgreSql (advance p.before (b :: tail) (ch '\n' :: (endLine (tail.drop 1)).2)) (ch '\n')
          (endLine (tail.drop 1)).2 = ([], (endLine (tail.drop 1)).2) := rfl
      rw [← advance_trans hsuffix (List.suffix_cons _ _)]
      exact (reads_tokenAt hturn).trans (reads_tokenAt hnext)
    · rw [hend] at hturn
      rw [hrest]
      exact reads_tokenAt hturn
  rw [if_neg hdash] at hplain hback hturn ⊢
  by_cases hblock : (b == ch '/' && tail.head? == some (ch '*')) = true
  · rw [if_pos hblock] at hplain hturn ⊢
    have hnested : (readBlock 0 (tail.drop 1)).1 = false := by
      rw [← Bool.not_not (readBlock 0 (tail.drop 1)).1, show (!(readBlock 0 (tail.drop 1)).1) = true from hplain]
      rfl
    rw [skipBlock_of_readBlock hnested] at hturn
    exact reads_tokenAt hturn
  rw [if_neg hblock] at hplain hback hturn ⊢
  by_cases hquote : (b == ch '\'') = true
  · rw [if_pos hquote] at hplain ⊢
    rw [beq_iff_eq.mp hquote]
    exact reads_literal hplain
  rw [if_neg hquote] at hplain hback hturn ⊢
  by_cases hdouble : (b == ch '"') = true
  · rw [if_pos hdouble] at hturn ⊢
    rw [readQuoted_rest]
    exact reads_tokenAt hturn
  rw [if_neg hdouble] at hplain hback hturn ⊢
  by_cases htick : (b == ch '`') = true
  · rw [if_pos htick] at hback
    exact absurd rfl hback
  rw [if_neg htick] at hplain hback hturn ⊢
  by_cases hdollar : (b == ch '$') = true
  · rw [if_pos hdollar] at hplain hturn ⊢
    cases htag : dollarTag tail with
    | some quoted =>
      obtain ⟨tag, body⟩ := quoted
      rw [htag] at hplain
      rw [dollarQuoteTag_of_dollarTag htag hplain] at hturn
      exact reads_tokenAt hturn
    | none =>
      rw [htag] at hplain
      rw [Option.isNone_iff_eq_none.mp hplain, beq_iff_eq.mp hdollar] at hturn
      rw [beq_iff_eq.mp hdollar]
      exact reads_tokenAt hturn
  rw [if_neg hdollar] at hplain hback hturn ⊢
  dsimp only at hturn
  by_cases hcast : (b == ch ':' && tail.head? == some (ch ':')) = true
  · rw [if_pos hcast] at hturn ⊢
    exact reads_tokenAt hturn
  rw [if_neg hcast] at hplain hback hturn ⊢
  by_cases hsemi : (b == ch ';') = true
  · rw [if_pos hsemi] at hturn ⊢
    exact reads_tokenAt hturn
  rw [if_neg hsemi] at hplain hback hturn ⊢
  by_cases hdigit : isDigit b = true
  · rw [if_pos hdigit] at hplain ⊢
    exact reads_numberAt hdigit hplain
  rw [if_neg hdigit] at hplain hback ⊢
  by_cases hword : inWord b = true
  · rw [if_pos hword] at hplain ⊢
    exact reads_wordAt hword hplain
  · have hstart : ¬startsWord b = true := fun h => hword (inWord_of_startsWord h)
    rw [if_neg hstart] at hturn
    rw [if_neg hword]
    exact reads_tokenAt hturn

/-! ## The whole text -/

theorem length_endLine (rest : List UInt8) : (endLine rest).2.length ≤ rest.length := by
  have hdrop : (rest.dropWhile fun b => !isNewline b).length ≤ rest.length := (List.dropWhile_sublist _).length_le
  unfold endLine
  generalize (rest.dropWhile fun b => !isNewline b) = left at hdrop ⊢
  cases left with
  | nil => exact Nat.zero_le _
  | cons b left =>
    cases left with
    | nil => exact Nat.zero_le _
    | cons c more =>
      rw [List.length_cons, List.length_cons] at hdrop
      dsimp only
      split
      · exact Nat.le_of_succ_le hdrop
      · split
        · exact Nat.le_of_succ_le (Nat.le_of_succ_le hdrop)
        · exact Nat.le_of_succ_le hdrop

theorem length_readBlock (depth : Nat) (rest : List UInt8) : (readBlock depth rest).2.length ≤ rest.length := by
  fun_induction readBlock depth rest with
  | case1 => exact Nat.le_refl 0
  | case2 => exact Nat.zero_le 1
  | case3 a b rest h => exact Nat.le_succ_of_le (Nat.le_succ _)
  | case4 a b rest h depth ih => exact Nat.le_succ_of_le (Nat.le_succ_of_le ih)
  | case5 depth a b rest h h' ih => exact Nat.le_succ_of_le (Nat.le_succ_of_le ih)
  | case6 depth a b rest h h' ih => exact Nat.le_succ_of_le ih

theorem length_dollarTag {tail tag body : List UInt8} (h : dollarTag tail = some (tag, body)) :
    body.length ≤ tail.length := by
  have hdrop : (tail.dropWhile inTag).length ≤ tail.length := (List.dropWhile_sublist _).length_le
  unfold dollarTag at h
  split at h
  · cases h
  · rename_i b rest hrest
    split at h
    · cases h
      rw [hrest] at hdrop
      exact Nat.le_of_succ_le hdrop
    · cases h

/-- The words that the server reads have bytes of words. -/
def Lexeme.isFormed : Lexeme → Bool
  | .word text | .number text => text.all inWord
  | _ => true

/-- What is to be known of a lexeme that begins with this byte, whichever it is. -/
structure Fits (b : UInt8) (tail : List UInt8) (read : Lexeme × After × List UInt8) : Prop where
  shorter : read.2.2.length ≤ tail.length
  formed : read.1.isFormed = true
  tick : read.1 = .backtick → b = ch '`'

theorem isFormed_run (tail : List UInt8) (hb : inWord b = true) : (b :: tail.takeWhile inWord).all inWord = true := by
  rw [List.all_cons, hb, List.all_takeWhile]
  rfl

theorem fits_wordAt {before : List UInt8} (tail : List UInt8) (hb : inWord b = true) :
    Fits b tail (wordAt before b tail) := by
  cases tail with
  | nil => exact ⟨Nat.le_refl 0, isFormed_run [] hb, nofun⟩
  | cons c rest =>
    unfold wordAt
    dsimp only
    split
    · exact ⟨Nat.le_succ_of_le (length_readQuoted _ _ rest), rfl, nofun⟩
    · split
      · cases rest with
        | nil => exact ⟨Nat.le_refl _, isFormed_run [] hb, nofun⟩
        | cons d rest =>
          have hshort := Nat.le_succ_of_le (Nat.le_succ_of_le (length_readQuoted (ch '\'') false rest))
          have hshort' := Nat.le_succ_of_le (Nat.le_succ_of_le (length_readQuoted (ch '"') false rest))
          dsimp only
          split
          · exact ⟨hshort, rfl, nofun⟩
          · split
            · exact ⟨hshort', rfl, nofun⟩
            · exact ⟨Nat.le_refl _, isFormed_run [] hb, nofun⟩
      · exact ⟨(List.dropWhile_sublist _).length_le, isFormed_run (c :: rest) hb, nofun⟩

theorem fits_numberAt (tail : List UInt8) (hb : isDigit b = true) : Fits b tail (numberAt b tail) := by
  unfold numberAt
  split
  · exact ⟨(List.dropWhile_sublist _).length_le, isFormed_run tail (inWord_of_isDigit hb), nofun⟩
  · refine ⟨(List.dropWhile_sublist _).length_le, ?_, nofun⟩
    show (b :: tail.takeWhile isDigit).all inWord = true
    rw [List.all_eq_true]
    intro c hc
    rcases List.mem_cons.mp hc with rfl | hc
    · exact inWord_of_isDigit hb
    · exact inWord_of_isDigit (List.mem_takeWhile_imp hc)

theorem fits_lexemeAt (p : Position) (b : UInt8) (tail : List UInt8) : Fits b tail (lexemeAt p b tail) := by
  have hdrop : (tail.drop 1).length ≤ tail.length := by
    rw [List.length_drop]
    exact Nat.sub_le _ _
  unfold lexemeAt
  split
  · exact ⟨Nat.le_refl _, rfl, nofun⟩
  · split
    · exact ⟨Nat.le_trans (length_endLine _) hdrop, rfl, nofun⟩
    · split
      · exact ⟨Nat.le_trans (length_readBlock _ _) hdrop, rfl, nofun⟩
      · split
        · exact ⟨length_readQuoted _ _ tail, rfl, nofun⟩
        · split
          · exact ⟨length_readQuoted _ _ tail, rfl, nofun⟩
          · split
            · rename_i hb
              exact ⟨Nat.le_refl _, rfl, fun _ => beq_iff_eq.mp hb⟩
            · split
              · split
                · rename_i htag
                  exact ⟨Nat.le_trans (length_skipPast _ _) (length_dollarTag htag), rfl, nofun⟩
                · exact ⟨Nat.le_refl _, rfl, nofun⟩
              · split
                · exact ⟨hdrop, rfl, nofun⟩
                · split
                  · exact ⟨Nat.le_refl _, rfl, nofun⟩
                  · split
                    · rename_i hb
                      exact fits_numberAt tail hb
                    · split
                      · rename_i hb
                        exact fits_wordAt tail hb
                      · exact ⟨Nat.le_refl _, rfl, nofun⟩

theorem advances_lexAt : Advances lexAt := fun p b tail => (fits_lexemeAt p b tail).shorter

theorem isFormed_of_mem {sql : List UInt8} (hl : l ∈ lexemes sql) : l.isFormed = true := by
  refine forall_tokens advances_lexAt (P := fun l => l.isFormed = true) (fun p b tail l hl => ?_) hl
  rw [List.mem_singleton.mp hl]
  exact (fits_lexemeAt p b tail).formed

def SamePlace (before : List UInt8) (p : Position) : Prop := before = p.before

theorem simulates {decode : List UInt8 → List UInt8} (before : List UInt8) (p : Position) (b : UInt8)
    (tail : List UInt8) (hsame : SamePlace before p)
    (hplain : ∀ l ∈ (lexAt p b tail).1, l.isPlain decode = true ∧ l ≠ .backtick) :
    ∃ before', Reads (readToken .postgreSql) before (b :: tail) ((lexAt p b tail).1.flatMap Lexeme.expand) before'
      (lexAt p b tail).2.2 ∧ SamePlace before' (lexAt p b tail).2.1 := by
  obtain ⟨hone, hback⟩ := hplain _ List.mem_cons_self
  have hreads := reads_lexemeAt hone hback
  rw [← hsame, ← List.append_nil (lexemeAt p b tail).1.expand] at hreads
  refine ⟨_, hreads, ?_⟩
  rw [hsame]
  rfl

/-- **On plain texts** the scanner reads what the server reads. -/
theorem sqlTokens_of_plain {decode : List UInt8 → List UInt8} {sql : List UInt8}
    (hplain : ∀ l ∈ lexemes sql, l.isPlain decode = true ∧ l ≠ .backtick) :
    sqlTokens sql .postgreSql = (lexemes sql).flatMap Lexeme.expand :=
  tokens_eq_flatMap (advances_readToken .postgreSql) advances_lexAt simulates rfl hplain

theorem sqlTokens_of_backtick {decode : List UInt8 → List UInt8} {sql : List UInt8}
    (hplain : ∀ l ∈ (lexemes sql).takeWhile (· != .backtick), l.isPlain decode = true)
    (hback : .backtick ∈ lexemes sql) : "<BACKTICK_IDENT>" ∈ sqlTokens sql .postgreSql := by
  have halarm : ∀ (before : List UInt8) (p : Position) (b : UInt8) (tail : List UInt8), SamePlace before p →
      (∃ l ∈ (lexAt p b tail).1, (l == .backtick) = true) →
      "<BACKTICK_IDENT>" ∈ (readToken .postgreSql before b tail).1 := by
    rintro before p b tail - ⟨l, hl, hl'⟩
    have hlexeme : (lexemeAt p b tail).1 = .backtick := (List.mem_singleton.mp hl).symm.trans (beq_iff_eq.mp hl')
    rw [(fits_lexemeAt p b tail).tick hlexeme]
    exact List.mem_cons_self
  have hfront : ∀ l ∈ (lexemes sql).takeWhile fun l => !(l == .backtick),
      l.isPlain decode = true ∧ l ≠ .backtick := by
    intro l hl
    have hne : (!(l == .backtick)) = true := List.mem_takeWhile_imp (p := fun l => !(l == Lexeme.backtick)) hl
    refine ⟨hplain l hl, ?_⟩
    rintro rfl
    cases hne
  exact mem_tokens_of_first (advances_readToken .postgreSql) advances_lexAt simulates halarm
    (show SamePlace [] ⟨[], .other⟩ from rfl) hfront ⟨.backtick, hback, rfl⟩

/-! ## Nothing is hidden -/

theorem expand_of_insignificant (h : l.isSignificant = false) : l.expand = [] := by
  cases l with
  | blank => rfl
  | lineComment loneReturn => rfl
  | blockComment nested => rfl
  | _ => cases h

theorem expand_of_keyword {l : Lexeme} {word : String} (hword : isRuleWord word = true) (h : l.keyword = some word) :
    l.expand = [word] := by
  obtain ⟨hne, hall⟩ := Bool.and_eq_true_iff.mp hword
  cases l with
  | word text =>
    have htext : upperWord text = word := Option.some.inj h
    have hid := isIdentifier_of_upperWord htext (bne_iff_ne.mp hne) (List.all_eq_true.mp hall)
    show wordTokens .postgreSql text = [word]
    rw [wordTokens_identifier hid, htext]
  | _ => cases h

theorem prefix_expanded {words : List String} {statement : List Lexeme} (hwords : words.all isRuleWord = true)
    (h : (words.map some).isPrefixOf (statement.map Lexeme.keyword) = true) :
    words.isPrefixOf (statement.flatMap Lexeme.expand) = true :=
  isPrefixOf_flatMap (fun _ _ word hword hl => expand_of_keyword (List.all_eq_true.mp hwords word hword) hl) h

theorem isDangerous_postgreSql (statement : List String) :
    isDangerous .postgreSql statement =
      ((["COPY"].isPrefixOf statement && statement.any (· == "PROGRAM")) ||
        (["COPY"].isPrefixOf statement &&
          adjacent (fun a b => (a == "FROM" || a == "TO") && b == "<LITERAL>") statement) ||
        ["DO"].isPrefixOf statement || ["CALL"].isPrefixOf statement || ["VACUUM"].isPrefixOf statement ||
        ["ANALYZE"].isPrefixOf statement || statement.any (· == "<BACKTICK_IDENT>") ||
        ["SHOW", "TABLES"].isPrefixOf statement || ["ALTER", "SYSTEM"].isPrefixOf statement ||
        ["SET", "SESSION", "AUTHORIZATION"].isPrefixOf statement || ["SET", "ROLE"].isPrefixOf statement ||
        statement.any fun token => token == "PG_AUTHID" || token == "PG_SHADOW") := by
  unfold isDangerous isCrossDialect isPrivilegedCatalogOrSession
  dsimp only
  rw [show (ProtocolKind.postgreSql == .mySql) = false from rfl,
    show (ProtocolKind.postgreSql == .postgreSql) = true from rfl]
  simp only [head_eq_isPrefixOf, Bool.and_false, Bool.and_true, Bool.or_false, Bool.or_assoc]

theorem expand_of_isString (hstring : l.isString = true) (hplain : l.isIntroduced = false) :
    l.expand = ["<LITERAL>"] := by
  cases l with
  | literal before introducer escapes body =>
    cases introducer with
    | none => rfl
    | escape => cases hplain
    | unicode => cases hplain
  | dollarQuoted tag => rfl
  | _ => cases hstring

theorem copies_expanded {statement : List Lexeme} (hplain : copiesFile Lexeme.isIntroduced statement = false)
    (h : copiesFile Lexeme.isString statement = true) :
    (["COPY"].isPrefixOf (statement.flatMap Lexeme.expand) &&
      adjacent (fun a b => (a == "FROM" || a == "TO") && b == "<LITERAL>")
        (statement.flatMap Lexeme.expand)) = true := by
  obtain ⟨hcopy, hfile⟩ := Bool.and_eq_true_iff.mp h
  have hbare : adjacent (fun a b => (a.keyword == some "FROM" || a.keyword == some "TO") && b.isIntroduced)
      statement = false := by
    unfold copiesFile at hplain
    rw [hcopy, Bool.true_and] at hplain
    exact hplain
  rw [prefix_expanded (by decide) hcopy, Bool.true_and]
  obtain ⟨front, l, m, back, rfl, hp⟩ := adjacent_iff.mp hfile
  obtain ⟨hl, hm⟩ := Bool.and_eq_true_iff.mp hp
  have hm' : m.isIntroduced = false := by
    rw [← Bool.not_eq_true]
    intro hintroduced
    rw [adjacent_iff.mpr ⟨front, l, m, back, rfl, by rw [hl, hintroduced]; rfl⟩] at hbare
    cases hbare
  have hliteral := expand_of_isString hm hm'
  rw [List.flatMap_append, List.flatMap_cons, List.flatMap_cons, hliteral]
  rcases Bool.or_eq_true_iff.mp hl with hl | hl
  · rw [expand_of_keyword (by decide) (beq_iff_eq.mp hl)]
    exact adjacent_iff.mpr ⟨_, "FROM", "<LITERAL>", _, rfl, by decide⟩
  · rw [expand_of_keyword (by decide) (beq_iff_eq.mp hl)]
    exact adjacent_iff.mpr ⟨_, "TO", "<LITERAL>", _, rfl, by decide⟩

theorem expand_of_isCatalog {decode : List UInt8 → List UInt8} (hplain : l.isPlain decode = true)
    (h : l.isCatalog decode = true) : ∃ token ∈ l.expand, (token == "PG_AUTHID" || token == "PG_SHADOW") = true := by
  cases l with
  | word text =>
    rcases Bool.or_eq_true_iff.mp h with hname | hname
    · have hword := expand_of_keyword (l := .word text) (by decide) (congrArg some (beq_iff_eq.mp hname))
      rw [hword]
      exact ⟨_, List.mem_cons_self, rfl⟩
    · have hword := expand_of_keyword (l := .word text) (by decide) (congrArg some (beq_iff_eq.mp hname))
      rw [hword]
      exact ⟨_, List.mem_cons_self, rfl⟩
  | quotedName unicode body =>
    rw [Lexeme.isPlain, show (Lexeme.quotedName unicode body).quotesCatalog decode = true from h] at hplain
    cases hplain
  | _ => cases h

/-- **A forbidden statement** is one for the scanner. -/
theorem isDangerous_of_forbidsStatement {statement : List Lexeme} {decode : List UInt8 → List UInt8}
    (hplain : ∀ l ∈ statement, l.isPlain decode = true ∧ l ≠ .backtick)
    (hfile : copiesFile Lexeme.isIntroduced statement = false) (h : forbidsStatement decode statement = true) :
    isDangerous .postgreSql (statement.flatMap Lexeme.expand) = true := by
  have hprogram : ((["COPY"].map some).isPrefixOf (statement.map Lexeme.keyword) &&
      (statement.map Lexeme.keyword).contains (some "PROGRAM")) = true →
      (["COPY"].isPrefixOf (statement.flatMap Lexeme.expand) &&
        (statement.flatMap Lexeme.expand).any (· == "PROGRAM")) = true := by
    intro h
    obtain ⟨hcopy, hmem⟩ := Bool.and_eq_true_iff.mp h
    obtain ⟨l, hl, hkeyword⟩ := List.mem_map.mp (List.contains_iff_mem.mp hmem)
    have hword : "PROGRAM" ∈ l.expand := by
      rw [expand_of_keyword (by decide) hkeyword]
      exact List.mem_cons_self
    rw [prefix_expanded (by decide) hcopy, Bool.true_and]
    exact List.any_eq_true.mpr ⟨"PROGRAM", List.mem_flatMap.mpr ⟨l, hl, hword⟩, by decide⟩
  have hcatalog : statement.any (Lexeme.isCatalog decode) = true →
      ((statement.flatMap Lexeme.expand).any fun token => token == "PG_AUTHID" || token == "PG_SHADOW") = true := by
    intro h
    obtain ⟨l, hl, hname⟩ := List.any_eq_true.mp h
    obtain ⟨token, hmem, htoken⟩ := expand_of_isCatalog (hplain l hl).1 hname
    exact List.any_eq_true.mpr ⟨token, List.mem_flatMap.mpr ⟨l, hl, hmem⟩, htoken⟩
  have hback : ¬statement.any (· == .backtick) = true := by
    intro h
    obtain ⟨l, hl, htick⟩ := List.any_eq_true.mp h
    exact (hplain l hl).2 (beq_iff_eq.mp htick)
  have hfront : ∀ words : List String, words.all isRuleWord = true →
      (words.map some).isPrefixOf (statement.map Lexeme.keyword) = true →
      words.isPrefixOf (statement.flatMap Lexeme.expand) = true := fun words => prefix_expanded
  rw [isDangerous_postgreSql]
  unfold forbidsStatement at h
  simp only [Bool.or_eq_true] at h
  rcases h with ((((((((((h | h) | h) | h) | h) | h) | h) | h) | h) | h) | h) | h
  · rw [hprogram h]
    rfl
  · rw [copies_expanded hfile h, Bool.or_true]
    rfl
  · rw [hfront _ (by decide) h, Bool.or_true]
    rfl
  · rw [hfront _ (by decide) h, Bool.or_true]
    rfl
  · rw [hfront _ (by decide) h, Bool.or_true]
    rfl
  · rw [hfront _ (by decide) h, Bool.or_true]
    rfl
  · exact absurd h hback
  · rw [hfront _ (by decide) h, Bool.or_true]
    rfl
  · rw [hfront _ (by decide) h, Bool.or_true]
    rfl
  · rw [hfront _ (by decide) h, Bool.or_true]
    rfl
  · rw [hfront _ (by decide) h, Bool.or_true]
    rfl
  · rw [hcatalog h, Bool.or_true]

theorem semicolon_notMem_expand {decode : List UInt8 → List UInt8} (hformed : l.isFormed = true)
    (hplain : l.isPlain decode = true) (hother : (l == .separator) = false) : ";" ∉ l.expand := by
  have hwords : ∀ text : List UInt8, text.all inWord = true →
      (isIdentifier text || !text.contains (ch '$')) = true → ";" ∉ wordTokens .postgreSql text := by
    intro text htext hwhole hsemi
    rcases Bool.or_eq_true_iff.mp hwhole with hid | hdollar
    · rw [wordTokens_identifier hid] at hsemi
      exact upperWord_head hid (by decide) (List.mem_singleton.mp hsemi).symm
    · obtain ⟨name, hname, htoken⟩ := wordTokens_words (List.all_eq_true.mp htext) (fun hmem => by
        rw [List.contains_iff_mem.mpr hmem] at hdollar
        cases hdollar) hsemi
      exact upperWord_head hname (by decide) htoken.symm
  cases l with
  | literal before introducer escapes body =>
    cases introducer with
    | none => exact (by decide : ";" ∉ ["<LITERAL>"])
    | escape => exact (by decide : ";" ∉ ["E", "<LITERAL>"])
    | unicode => exact (by decide : ";" ∉ ["U", "<LITERAL>"])
  | dollarQuoted tag => exact (by decide : ";" ∉ ["<LITERAL>"])
  | quotedName unicode body =>
    cases unicode with
    | false => exact List.not_mem_nil
    | true => exact (by decide : ";" ∉ ["U"])
  | word text => exact hwords text hformed hplain
  | number text =>
    refine hwords text hformed ?_
    rw [show (!text.contains (ch '$')) = true from hplain, Bool.or_true]
  | cast => decide
  | separator => cases hother
  | _ => exact List.not_mem_nil

theorem splitOn_of_plain {decode : List UInt8 → List UInt8} {sql : List UInt8}
    (hplain : ∀ l ∈ lexemes sql, l.isPlain decode = true ∧ l ≠ .backtick) : (sqlTokens sql .postgreSql).splitOn ";" =
      ((lexemes sql).splitOnP (· == .separator)).map (·.flatMap Lexeme.expand) := by
  rw [sqlTokens_of_plain hplain]
  refine splitOn_flatMap (fun l _ hl => ?_) (fun l hmem hl => ?_)
  · rw [beq_iff_eq.mp hl]
    rfl
  · exact semicolon_notMem_expand (isFormed_of_mem hmem) (hplain l hmem).1 hl

theorem rejected_of_forbids {decode : List UInt8 → List UInt8} {sql : List UInt8} (hplain : Plain decode sql)
    (h : forbids decode sql = true) : (classifyTokens .postgreSql (sqlTokens sql .postgreSql)).isSome = true := by
  rw [classifyTokens_isSome]
  by_cases hback : Lexeme.backtick ∈ lexemes sql
  · have htoken := sqlTokens_of_backtick hplain.1 hback
    obtain ⟨statement, hstatement, hmem⟩ :
        ∃ statement ∈ (sqlTokens sql .postgreSql).splitOnP (· == ";"), "<BACKTICK_IDENT>" ∈ statement :=
      exists_mem_splitOnP htoken (by decide)
    rw [← List.splitOn_eq_splitOnP] at hstatement
    refine ⟨statement, hstatement, ?_⟩
    have hany : statement.any (· == "<BACKTICK_IDENT>") = true := List.any_eq_true.mpr ⟨_, hmem, by decide⟩
    rw [isDangerous_postgreSql, hany, Bool.or_true]
    rfl
  · have hnone : ∀ l ∈ lexemes sql, (l != .backtick) = true := by
      intro l hl
      rw [bne_iff_ne]
      rintro rfl
      exact hback hl
    obtain ⟨hlexemes, hstatements⟩ := hplain
    rw [List.takeWhile_eq_self_iff.mpr hnone] at hlexemes
    have hboth : ∀ l ∈ lexemes sql, l.isPlain decode = true ∧ l ≠ .backtick := fun l hl =>
      ⟨hlexemes l hl, bne_iff_ne.mp (hnone l hl)⟩
    obtain ⟨significant, hmem, hforbids⟩ := List.any_eq_true.mp h
    obtain ⟨hfile, hexplain⟩ := Bool.and_eq_true_iff.mp (hstatements significant hmem)
    have hdirect : forbidsStatement decode significant = true := by
      rcases Bool.or_eq_true_iff.mp hforbids with hforbids | hforbids
      · exact hforbids
      · rw [hforbids] at hexplain
        rcases Bool.or_eq_true_iff.mp hexplain with hexplain | hexplain
        · exact hexplain
        · cases hexplain
    obtain ⟨statement, hstatement, rfl⟩ := List.mem_map.mp hmem
    have hsub : ∀ l ∈ statement.filter Lexeme.isSignificant, l.isPlain decode = true ∧ l ≠ .backtick := fun l hl =>
      hboth l (mem_of_mem_splitOnP hstatement (List.mem_of_mem_filter hl))
    have hdangerous := isDangerous_of_forbidsStatement hsub (Bool.not_eq_true' _ ▸ hfile) hdirect
    rw [flatMap_filter fun l => expand_of_insignificant] at hdangerous
    rw [splitOn_of_plain hboth]
    exact ⟨_, List.mem_map_of_mem hstatement, hdangerous⟩

/-! ## Lone carriage returns -/

/-- A line comment that only a carriage return ends, and what follows it. -/
def behindReturn (sql : String) : String := "--\r" ++ sql

theorem classify_behindReturn {sql : String} (hsql : ch '\n' ∉ utf8 sql.toList) :
    classifyDangerousSql (behindReturn sql) .postgreSql = none := by
  have hbytes : utf8 (behindReturn sql).toList = ch '-' :: ch '-' :: ch '\r' :: utf8 sql.toList := by
    unfold behindReturn utf8
    rw [String.toList_append, List.flatMap_append]
    rfl
  have hskip : skipLine (ch '\r' :: utf8 sql.toList) = [] := by
    unfold skipLine
    rw [List.dropWhile_eq_nil_iff]
    intro b hb
    rw [bne_iff_ne]
    rintro rfl
    rcases List.mem_cons.mp hb with hb | hb
    · exact absurd hb (by decide)
    · exact hsql hb
  have hturn : tokenAt .postgreSql [] (ch '-') (ch '-' :: ch '\r' :: utf8 sql.toList) = ([], []) := by
    show ([], skipLine (ch '\r' :: utf8 sql.toList)) = ([], [])
    rw [hskip]
  have hnothing : sqlTokens (utf8 (behindReturn sql).toList) .postgreSql = [] := by
    rw [hbytes]
    exact (reads_tokenAt hturn).tokens_eq (advances_readToken .postgreSql)
  unfold classifyDangerousSql
  rw [hnothing]
  rfl

end DataNexus.Dialect.Dangerous.PostgreSql
