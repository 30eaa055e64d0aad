/-
  The check for statements that the gateway refuses whatever the policy (`gateway/core/src/dangerous_sql.rs`).

  `sql_tokens` scans the bytes of the text for both dialects at once; `classify_dangerous_sql` then looks at the tokens
  of each statement.  Both servers' readings need:

  * `reads_run` — bytes that a server takes for one word may be several words to the scanner;
  * `splitOn_flatMap` and `classifyTokens_isSome` — the rules work statement by statement.
-/
import DataNexus.Lib.Scan
import DataNexus.Lib.Text
import DataNexus.Model

namespace DataNexus.Dialect.Dangerous

open DataNexus.Text DataNexus.Scan

/-! ## Bytes -/

/-- `b'c'`. -/
def ch (c : Char) : UInt8 := c.toNat.toUInt8

/-- `u8::is_ascii_alphabetic`. -/
def isAlphabetic (b : UInt8) : Bool := (ch 'A' ≤ b && b ≤ ch 'Z') || (ch 'a' ≤ b && b ≤ ch 'z')

/-- `u8::is_ascii_digit`. -/
def isDigit (b : UInt8) : Bool := ch '0' ≤ b && b ≤ ch '9'

/-- `u8::is_ascii_alphanumeric`. -/
def isAlphanumeric (b : UInt8) : Bool := isAlphabetic b || isDigit b

/-- `u8::is_ascii_whitespace`: no vertical tab. -/
def isAsciiWhitespace (b : UInt8) : Bool := b == 32 || b == 9 || b == 10 || b == 12 || b == 13

def isAsciiControl (b : UInt8) : Bool := b < 32 || b == 127

def startsWord (b : UInt8) : Bool := isAlphabetic b || b == ch '_'

def continuesWord (b : UInt8) : Bool := isAlphanumeric b || b == ch '_' || b == ch '$'

def upperWord (word : List UInt8) : String := String.ofList (toAsciiUppercase (word.map fun b => Char.ofNat b.toNat))

/-! ## The scanner -/

/-- `is_line_comment`, behind the first dash. -/
def isLineComment (dialect : ProtocolKind) : List UInt8 → Bool
  | [] => false
  | b :: tail =>
    b == ch '-' && (dialect == .postgreSql || tail.head?.all fun b => isAsciiWhitespace b || isAsciiControl b)

def skipLine (rest : List UInt8) : List UInt8 := rest.dropWhile (· != ch '\n')

/-- The loop over the bytes of a block comment, and its end; without an end it takes everything. -/
def skipBlock : List UInt8 → List UInt8
  | [] => []
  | [_] => []
  | a :: b :: rest => if a == ch '*' && b == ch '/' then rest else skipBlock (b :: rest)

/-- `is_postgresql_escape_string`, from the bytes before the quote, the last one first. -/
def isPostgresqlEscapeString : List UInt8 → Bool
  | [] => false
  | b :: before =>
    (b == ch 'e' || b == ch 'E') && before.head?.all fun b => !continuesWord b

/-- `skip_quoted`, behind the opening quote. -/
def skipQuoted (quote : UInt8) (backslash : Bool) : List UInt8 → List UInt8
  | [] => []
  | [_] => []
  | a :: b :: rest =>
    if backslash && a == ch '\\' then skipQuoted quote backslash rest
    else if a == quote then if b == quote then skipQuoted quote backslash rest else b :: rest
    else skipQuoted quote backslash (b :: rest)

/-- `dollar_quote_tag`, behind the first dollar: the tag with its dollars, and what follows. -/
def dollarQuoteTag (tail : List UInt8) : Option (List UInt8 × List UInt8) :=
  match tail.dropWhile fun b => isAlphanumeric b || b == ch '_' with
  | [] => none
  | b :: body =>
    if b == ch '$' then
      some (ch '$' :: (tail.takeWhile fun b => isAlphanumeric b || b == ch '_') ++ [ch '$'], body)
    else none

/-- What follows the first occurrence of `needle` (`find_bytes`); nothing if there is none. -/
def skipPast (needle : List UInt8) : List UInt8 → List UInt8
  | [] => []
  | b :: rest =>
    if needle.isPrefixOf (b :: rest) then (b :: rest).drop needle.length else skipPast needle rest

/-- One turn of the loop of `sql_tokens`: the tokens it pushes and what it leaves. -/
def tokenAt (dialect : ProtocolKind) (before : List UInt8) (b : UInt8) (tail : List UInt8) :
    List String × List UInt8 :=
  if isAsciiWhitespace b then ([], tail)
  else if b == ch '-' && isLineComment dialect tail then ([], skipLine (tail.drop 1))
  else if b == ch '#' && dialect == .mySql then ([], skipLine tail)
  else if b == ch '/' && tail.head? == some (ch '*') then ([], skipBlock (tail.drop 1))
  else if b == ch '\'' then
    (["<LITERAL>"], skipQuoted (ch '\'') (dialect == .mySql || isPostgresqlEscapeString before) tail)
  else if b == ch '"' then ([], skipQuoted (ch '"') false tail)
  else if b == ch '`' then (["<BACKTICK_IDENT>"], skipQuoted (ch '`') false tail)
  else
    match (if b == ch '$' && dialect == .postgreSql then dollarQuoteTag tail else none) with
    | some (tag, body) => (["<LITERAL>"], skipPast tag body)
    | none =>
      if b == ch ':' && tail.head? == some (ch ':') then (["::"], tail.drop 1)
      else if b == ch ';' then ([";"], tail)
      else if startsWord b then
        ([upperWord (b :: tail.takeWhile continuesWord)], tail.dropWhile continuesWord)
      else ([], tail)

/-- The bytes before the rest of the input, the last one first. -/
def advance (before input rest : List UInt8) : List UInt8 := (input.take (input.length - rest.length)).reverse ++ before

/-- The turn as a step of a scanner, whose state are the bytes it has passed. -/
def readToken (dialect : ProtocolKind) : Step (List UInt8) UInt8 String := fun before b tail =>
  ((tokenAt dialect before b tail).1, advance before (b :: tail) (tokenAt dialect before b tail).2,
    (tokenAt dialect before b tail).2)

def sqlTokens (sql : List UInt8) (dialect : ProtocolKind) : List String := tokens (readToken dialect) [] sql

/-! ## The rules -/

/-- `windows(2).any(..)`. -/
def adjacent {α : Type} (p : α → α → Bool) : List α → Bool
  | a :: b :: rest => p a b || adjacent p (b :: rest)
  | _ => false

def isCrossDialect (statement : List String) : ProtocolKind → Bool
  | .mySql => statement.any (· == "::")
  | .postgreSql =>
    statement.any (· == "<BACKTICK_IDENT>") || ["SHOW", "TABLES"].isPrefixOf statement

def isPrivilegedCatalogOrSession (statement : List String) : ProtocolKind → Bool
  | .mySql =>
    ["SET", "GLOBAL"].isPrefixOf statement || ["SET", "PERSIST"].isPrefixOf statement ||
      ["SET", "PERSIST_ONLY"].isPrefixOf statement ||
      adjacent (fun a b => a == "MYSQL" && b == "USER") statement
  | .postgreSql =>
    ["ALTER", "SYSTEM"].isPrefixOf statement || ["SET", "SESSION", "AUTHORIZATION"].isPrefixOf statement ||
      ["SET", "ROLE"].isPrefixOf statement ||
      statement.any fun token => token == "PG_AUTHID" || token == "PG_SHADOW"

/-- The loop body of `classify_dangerous_sql`. -/
def classifyStatement (dialect : ProtocolKind) (statement : List String) : Option UnsupportedSqlCapability :=
  let first := statement.head?
  let postgreSql := dialect == .postgreSql
  let mySql := dialect == .mySql
  if first == some "COPY" && postgreSql && statement.any (· == "PROGRAM") then some .postgresCopyProgram
  else if first == some "COPY" && postgreSql &&
      adjacent (fun a b => (a == "FROM" || a == "TO") && b == "<LITERAL>") statement then
    some .postgresCopyFile
  else if first == some "DO" && postgreSql then some .postgresDo
  else if first == some "CALL" then some .storedProcedureCall
  else if ["LOAD", "DATA"].isPrefixOf statement && mySql then some .mysqlLoadData
  else if adjacent (fun a b => a == "INTO" && (b == "OUTFILE" || b == "DUMPFILE")) statement && mySql then
    some .mysqlOutfile
  else if (first == some "VACUUM" || first == some "ANALYZE") && postgreSql then some .postgresMaintenance
  else if isCrossDialect statement dialect then some .crossDialectStatement
  else if isPrivilegedCatalogOrSession statement dialect then some .privilegedCatalogSession
  else none

def classifyTokens (dialect : ProtocolKind) (tokens : List String) : Option UnsupportedSqlCapability :=
  (tokens.splitOn ";").findSome? fun statement =>
    if statement.isEmpty then none else classifyStatement dialect statement

def classifyDangerousSql (sql : String) (dialect : ProtocolKind) : Option UnsupportedSqlCapability :=
  classifyTokens dialect (sqlTokens (utf8 sql.toList) dialect)

/-! ## The rest of a turn -/

theorem length_skipBlock (rest : List UInt8) : (skipBlock rest).length ≤ rest.length := by
  induction rest with
  | nil => exact Nat.le_refl 0
  | cons a rest ih =>
    cases rest with
    | nil => exact Nat.zero_le 1
    | cons b rest =>
      unfold skipBlock
      split
      · exact Nat.le_succ_of_le (Nat.le_succ _)
      · exact Nat.le_succ_of_le ih

theorem length_skipQuoted (quote : UInt8) (backslash : Bool) (rest : List UInt8) :
    (skipQuoted quote backslash rest).length ≤ rest.length := by
  fun_induction skipQuoted quote backslash rest with
  | case1 => exact Nat.le_refl 0
  | case2 => exact Nat.zero_le 1
  | case3 a b rest h ih => exact Nat.le_succ_of_le (Nat.le_succ_of_le ih)
  | case4 a b rest h h' h'' ih => exact Nat.le_succ_of_le (Nat.le_succ_of_le ih)
  | case5 a b rest h h' h'' => exact Nat.le_succ _
  | case6 a b rest h h' ih => exact Nat.le_succ_of_le ih

theorem length_skipPast (needle rest : List UInt8) : (skipPast needle rest).length ≤ rest.length := by
  induction rest with
  | nil => exact Nat.le_refl 0
  | cons b rest ih =>
    unfold skipPast
    split
    · rw [List.length_drop]
      exact Nat.sub_le _ _
    · exact Nat.le_succ_of_le ih

theorem length_dollarQuoteTag {tail tag body : List UInt8} (h : dollarQuoteTag tail = some (tag, body)) :
    body.length ≤ tail.length := by
  unfold dollarQuoteTag at h
  have hdrop : (tail.dropWhile fun b => isAlphanumeric b || b == ch '_').length ≤ tail.length :=
    (List.dropWhile_sublist _).length_le
  split at h
  · cases h
  · rename_i b rest hrest
    split at h
    · cases h
      rw [hrest] at hdrop
      exact Nat.le_of_succ_le hdrop
    · cases h

theorem length_tokenAt (dialect : ProtocolKind) (before : List UInt8) (b : UInt8) (tail : List UInt8) :
    (tokenAt dialect before b tail).2.length ≤ tail.length := by
  have hdrop : (tail.drop 1).length ≤ tail.length := by
    rw [List.length_drop]
    exact Nat.sub_le _ _
  have hline : ∀ rest : List UInt8, (skipLine rest).length ≤ rest.length :=
    fun rest => (List.dropWhile_sublist _).length_le
  unfold tokenAt
  split
  · exact Nat.le_refl _
  · split
    · exact Nat.le_trans (hline _) hdrop
    · split
      · exact hline tail
      · split
        · exact Nat.le_trans (length_skipBlock _) hdrop
        · split
          · exact length_skipQuoted _ _ tail
          · split
            · exact length_skipQuoted _ _ tail
            · split
              · exact length_skipQuoted _ _ tail
              · split
                · rename_i tag body htag
                  split at htag
                  · exact Nat.le_trans (length_skipPast _ _) (length_dollarQuoteTag htag)
                  · cases htag
                · split
                  · exact hdrop
                  · split
                    · exact Nat.le_refl _
                    · split
                      · exact (List.dropWhile_sublist _).length_le
                      · exact Nat.le_refl _

theorem advances_readToken (dialect : ProtocolKind) : Advances (readToken dialect) :=
  fun before b tail => length_tokenAt dialect before b tail

theorem advance_append (before taken rest : List UInt8) :
    advance before (taken ++ rest) rest = taken.reverse ++ before := by
  unfold advance
  rw [List.length_append, Nat.add_sub_cancel, List.take_left']
  rfl

variable {input : List UInt8} {b : UInt8} {τ α : Type}

theorem advance_trans {before middle rest : List UInt8} (h : middle <:+ input) (h' : rest <:+ middle) :
    advance (advance before input middle) middle rest = advance before input rest := by
  obtain ⟨taken, rfl⟩ := h
  obtain ⟨more, rfl⟩ := h'
  rw [advance_append, advance_append, ← List.append_assoc taken more rest, advance_append, List.reverse_append, List.append_assoc]

theorem advance_cons {before rest : List UInt8} (h : rest.length ≤ input.length) :
    advance before (b :: input) rest = advance (b :: before) input rest := by
  unfold advance
  rw [List.length_cons, Nat.succ_sub h, List.take_succ_cons, List.reverse_cons, List.append_assoc]
  rfl

/-! ## Words of a server -/

/-- The bytes of the words of both servers; the scanner's words have no others. -/
def inWord (b : UInt8) : Bool := continuesWord b || 128 ≤ b

def isSpace (b : UInt8) : Bool := b == 32 || (9 ≤ b && b ≤ 13)

def isIdentifier : List UInt8 → Bool
  | [] => false
  | b :: tail => startsWord b && tail.all continuesWord

theorem continuesWord_of_startsWord (h : startsWord b = true) : continuesWord b = true := by
  unfold startsWord at h
  unfold continuesWord isAlphanumeric
  rcases Bool.or_eq_true_iff.mp h with h | h
  · rw [h]
    rfl
  · rw [h]
    simp only [Bool.or_true, Bool.true_or]

theorem inWord_of_startsWord (h : startsWord b = true) : inWord b = true := by
  unfold inWord
  rw [continuesWord_of_startsWord h]
  rfl

/-- What the scanner makes of the bytes of a word. -/
def wordTokens (dialect : ProtocolKind) (word : List UInt8) : List String := tokens (readToken dialect) [] word

theorem forall_byte {p : UInt8 → Bool} (h : (List.range 256).all (fun n => p (UInt8.ofNat n)) = true) (b : UInt8) :
    p b = true := by
  have hb := List.all_eq_true.mp h b.toNat (List.mem_range.mpr (UInt8.toNat_lt b))
  rw [UInt8.ofNat_toNat] at hb
  exact hb

/-- What a byte can begin; the vertical tab alone is a space to the servers only. -/
theorem byte_kinds (b : UInt8) :
    (!inWord b || !(isAsciiWhitespace b || b == ch '-' || b == ch '#' || b == ch '/' || b == ch '\'' || b == ch '"' ||
        b == ch '`' || b == ch ':' || b == ch ';')) = true ∧
      (!isDigit b || inWord b && !startsWord b && b != ch '$') = true ∧
      startsWord b = ((Char.ofNat b.toNat).toUpper.isUpper || (Char.ofNat b.toNat).toUpper == '_') ∧
      (isAsciiWhitespace b = isSpace b ∨ b = 11) := by
  have hall := forall_byte (p := fun b =>
    (!inWord b || !(isAsciiWhitespace b || b == ch '-' || b == ch '#' || b == ch '/' || b == ch '\'' || b == ch '"' ||
        b == ch '`' || b == ch ':' || b == ch ';')) &&
      ((!isDigit b || inWord b && !startsWord b && b != ch '$') &&
        (startsWord b == ((Char.ofNat b.toNat).toUpper.isUpper || (Char.ofNat b.toNat).toUpper == '_') &&
          (isAsciiWhitespace b == isSpace b || b == 11))))
    (by decide +kernel) b
  obtain ⟨hword, hrest⟩ := Bool.and_eq_true_iff.mp hall
  obtain ⟨hdigit, hrest⟩ := Bool.and_eq_true_iff.mp hrest
  obtain ⟨hstart, hspace⟩ := Bool.and_eq_true_iff.mp hrest
  exact ⟨hword, hdigit, beq_iff_eq.mp hstart, (Bool.or_eq_true_iff.mp hspace).imp beq_iff_eq.mp beq_iff_eq.mp⟩

theorem tokenAt_inWord {dialect : ProtocolKind} {before : List UInt8} (tail : List UInt8) (hb : inWord b = true)
    (hdollar : b = ch '$' → dialect = .mySql) :
    tokenAt dialect before b tail =
      if startsWord b then ([upperWord (b :: tail.takeWhile continuesWord)], tail.dropWhile continuesWord)
      else ([], tail) := by
  have hother := (byte_kinds b).1
  rw [hb] at hother
  simp only [Bool.not_true, Bool.false_or, Bool.not_eq_eq_eq_not, Bool.or_eq_false_iff] at hother
  obtain ⟨⟨⟨⟨⟨⟨⟨⟨hspace, hdash⟩, hhash⟩, hslash⟩, hquote⟩, hdouble⟩, hback⟩, hcolon⟩, hsemi⟩ := hother
  have hnot : (b == ch '$' && dialect == .postgreSql) = false := by
    cases hd : b == ch '$' with
    | false => rfl
    | true =>
      rw [hdollar (beq_iff_eq.mp hd)]
      rfl
  unfold tokenAt
  rw [hspace, hdash, hhash, hslash, hquote, hdouble, hback, hnot, hcolon, hsemi]
  rfl

/-- **A word of a server**: the scanner reads the words in it, whatever comes before and after. -/
theorem reads_run {dialect : ProtocolKind} {run rest : List UInt8} (hrun : ∀ b ∈ run, inWord b = true)
    (hdollar : ch '$' ∈ run → dialect = .mySql) (hrest : ∀ b, rest.head? = some b → continuesWord b = false)
    (before : List UInt8) :
    Reads (readToken dialect) before (run ++ rest) (wordTokens dialect run) (run.reverse ++ before) rest := by
  unfold wordTokens
  generalize hstart : ([] : List UInt8) = start
  clear hstart
  generalize hn : run.length = n
  induction n using Nat.strongRecOn generalizing run before start with
  | ind n ih =>
    cases run with
    | nil => exact .done before rest
    | cons b run =>
      have hb := hrun b List.mem_cons_self
      have hd : b = ch '$' → dialect = .mySql := fun h => hdollar (h ▸ List.mem_cons_self)
      obtain ⟨htake, hdrop⟩ := takeWhile_append_of_stop hrest run
      rw [tokens_cons (advances_readToken dialect)]
      -- the same turn with and without what follows the run
      obtain ⟨out, taken, left, hsplit, hwith, halone, hshort⟩ : ∃ out taken left, b :: run = taken ++ left ∧
          tokenAt dialect before b (run ++ rest) = (out, left ++ rest) ∧
          tokenAt dialect start b run = (out, left) ∧ left.length ≤ run.length := by
        rw [tokenAt_inWord _ hb hd, tokenAt_inWord _ hb hd, htake, hdrop]
        cases startsWord b with
        | true =>
          refine ⟨_, b :: run.takeWhile continuesWord, run.dropWhile continuesWord, ?_, rfl, rfl, ?_⟩
          · rw [List.cons_append, List.takeWhile_append_dropWhile]
          · exact (List.dropWhile_sublist _).length_le
        | false => exact ⟨[], [b], run, rfl, rfl, rfl, Nat.le_refl _⟩
      have hone : Reads (readToken dialect) before (b :: (run ++ rest)) out (taken.reverse ++ before)
          (left ++ rest) := by
        have h : Reads (readToken dialect) before (b :: (run ++ rest)) _ _ _ := .one before b (run ++ rest)
        unfold readToken at h
        rw [hwith, ← List.cons_append, hsplit, List.append_assoc, advance_append] at h
        rw [← List.cons_append, hsplit, List.append_assoc]
        exact h
      have hstep : (readToken dialect start b run).1 = out ∧ (readToken dialect start b run).2.2 = left := by
        unfold readToken
        rw [halone]
        exact ⟨rfl, rfl⟩
      have hleft : ∀ c ∈ left, c ∈ b :: run := by
        rw [hsplit]
        exact fun c hc => List.mem_append_right taken hc
      rw [List.length_cons] at hn
      have hlater := ih left.length (by omega) (fun c hc => hrun c (hleft c hc))
        (fun hc => hdollar (hleft _ hc)) (taken.reverse ++ before) (readToken dialect start b run).2.1 rfl
      rw [hstep.1, hstep.2, hsplit, List.reverse_append, List.append_assoc]
      rw [← List.cons_append, hsplit, List.append_assoc] at hone
      rw [List.append_assoc]
      exact hone.trans hlater

theorem tokenAt_identifier {dialect : ProtocolKind} {tail rest : List UInt8}
    (h : isIdentifier (b :: tail) = true) (hrest : ∀ b, rest.head? = some b → continuesWord b = false)
    (before : List UInt8) : tokenAt dialect before b (tail ++ rest) = ([upperWord (b :: tail)], rest) := by
  obtain ⟨hstart, hall⟩ := Bool.and_eq_true_iff.mp h
  have hall' := List.all_eq_true.mp hall
  have hb := inWord_of_startsWord hstart
  have hdollar : b = ch '$' → dialect = .mySql := by
    rintro rfl
    exact absurd hstart (by decide)
  obtain ⟨htake, hdrop⟩ := takeWhile_append_of_stop hrest []
  rw [List.nil_append, List.takeWhile_nil] at htake
  rw [List.nil_append, List.dropWhile_nil, List.nil_append] at hdrop
  rw [tokenAt_inWord _ hb hdollar, if_pos hstart, List.takeWhile_append_of_pos hall',
    List.dropWhile_append_of_pos hall', htake, hdrop, List.append_nil]

theorem reads_identifier {dialect : ProtocolKind} {word rest : List UInt8} (h : isIdentifier word = true)
    (hrest : ∀ b, rest.head? = some b → continuesWord b = false) (before : List UInt8) :
    Reads (readToken dialect) before (word ++ rest) [upperWord word] (word.reverse ++ before) rest := by
  cases word with
  | nil => cases h
  | cons b tail =>
    have hone : Reads (readToken dialect) before (b :: (tail ++ rest)) _ _ _ := .one before b (tail ++ rest)
    unfold readToken at hone
    rw [tokenAt_identifier h hrest, ← List.cons_append, advance_append] at hone
    exact hone

theorem wordTokens_identifier {dialect : ProtocolKind} {word : List UInt8} (h : isIdentifier word = true) :
    wordTokens dialect word = [upperWord word] := by
  have hend : ∀ b, ([] : List UInt8).head? = some b → continuesWord b = false := fun b hb => by cases hb
  have hreads : Reads (readToken dialect) [] (word ++ []) _ _ [] := reads_identifier h hend []
  have heq := hreads.tokens_eq (advances_readToken dialect)
  rw [List.append_nil] at heq
  exact heq

theorem wordTokens_words {dialect : ProtocolKind} {word : List UInt8} (hword : ∀ b ∈ word, inWord b = true)
    (hdollar : ch '$' ∈ word → dialect = .mySql) {token : String} (h : token ∈ wordTokens dialect word) :
    ∃ name, isIdentifier name = true ∧ token = upperWord name := by
  unfold wordTokens at h
  generalize ([] : List UInt8) = before at h
  generalize hn : word.length = n
  induction n using Nat.strongRecOn generalizing word before with
  | ind n ih =>
    cases word with
    | nil => cases h
    | cons b tail =>
      rw [tokens_cons (advances_readToken dialect)] at h
      unfold readToken at h
      rw [tokenAt_inWord tail (hword b List.mem_cons_self) fun hb => hdollar (hb ▸ List.mem_cons_self)] at h
      rw [List.length_cons] at hn
      cases hstart : startsWord b with
      | false =>
        rw [hstart] at h
        exact ih tail.length (by omega) (fun c hc => hword c (List.mem_cons_of_mem b hc))
          (fun hc => hdollar (List.mem_cons_of_mem b hc)) _ h rfl
      | true =>
        rw [hstart] at h
        rcases List.mem_append.mp h with h | h
        · refine ⟨b :: tail.takeWhile continuesWord, ?_, List.mem_singleton.mp h⟩
          show (startsWord b && (tail.takeWhile continuesWord).all continuesWord) = true
          rw [hstart, List.all_takeWhile]
          rfl
        · have hsub : ∀ c ∈ tail.dropWhile continuesWord, c ∈ b :: tail := fun c hc =>
            List.mem_cons_of_mem b ((List.dropWhile_sublist _).subset hc)
          have hshort : (tail.dropWhile continuesWord).length ≤ tail.length := (List.dropWhile_sublist _).length_le
          exact ih _ (by omega) (fun c hc => hword c (hsub c hc)) (fun hc => hdollar (hsub _ hc)) _ h rfl

theorem reads_digits {dialect : ProtocolKind} {run : List UInt8} (h : run.all isDigit = true)
    (before rest : List UInt8) : Reads (readToken dialect) before (run ++ rest) [] (run.reverse ++ before) rest := by
  induction run generalizing before with
  | nil => exact .done before rest
  | cons b run ih =>
    obtain ⟨hb, hrun⟩ := Bool.and_eq_true_iff.mp h
    have hdigit := (byte_kinds b).2.1
    rw [hb] at hdigit
    simp only [Bool.not_true, Bool.false_or, Bool.and_eq_true, Bool.not_eq_eq_eq_not, bne_iff_ne] at hdigit
    have hturn : tokenAt dialect before b (run ++ rest) = ([], run ++ rest) := by
      rw [tokenAt_inWord _ hdigit.1.1 fun heq => absurd heq hdigit.2, hdigit.1.2]
      rfl
    have hone : Reads (readToken dialect) before (b :: (run ++ rest)) _ _ _ := .one before b (run ++ rest)
    unfold readToken at hone
    rw [hturn, show b :: (run ++ rest) = [b] ++ (run ++ rest) from rfl, advance_append] at hone
    have hlater := ih hrun ([b].reverse ++ before)
    rw [List.reverse_cons, List.append_assoc]
    exact hone.trans hlater

theorem wordTokens_digits {dialect : ProtocolKind} {word : List UInt8} (h : word.all isDigit = true) :
    wordTokens dialect word = [] := by
  have hreads : Reads (readToken dialect) [] (word ++ []) [] _ [] := reads_digits h [] []
  have heq := hreads.tokens_eq (advances_readToken dialect)
  rw [List.append_nil] at heq
  exact heq

theorem isIdentifier_of_upperWord {word : List UInt8} {text : String} (h : upperWord word = text)
    (hne : text ≠ "") (htext : ∀ c ∈ text.toList, (c.isUpper || c == '_') = true) : isIdentifier word = true := by
  have hchars : toAsciiUppercase (word.map fun b => Char.ofNat b.toNat) = text.toList := by
    rw [← h]
    exact (String.toList_ofList).symm
  have hbyte : ∀ b ∈ word, startsWord b = true := by
    intro b hb
    have hmem : (Char.ofNat b.toNat).toUpper ∈ text.toList := by
      rw [← hchars]
      exact List.mem_map_of_mem (List.mem_map_of_mem hb)
    rw [(byte_kinds b).2.2.1]
    exact htext _ hmem
  cases word with
  | nil =>
    refine absurd ?_ hne
    rw [← h]
    rfl
  | cons b tail =>
    show (startsWord b && tail.all continuesWord) = true
    rw [hbyte b List.mem_cons_self, Bool.true_and, List.all_eq_true]
    exact fun c hc => continuesWord_of_startsWord (hbyte c (List.mem_cons_of_mem b hc))

theorem upperWord_head {name : List UInt8} (h : isIdentifier name = true) {token : String}
    (htoken : token.toList.head?.any (fun c => c.isUpper || c == '_') = false) : upperWord name ≠ token := by
  rintro rfl
  cases name with
  | nil => cases h
  | cons b tail =>
    have hstart := (Bool.and_eq_true_iff.mp h).1
    have hhead : (upperWord (b :: tail)).toList.head? = some (Char.ofNat b.toNat).toUpper := by
      unfold upperWord
      rw [String.toList_ofList]
      rfl
    rw [hhead] at htoken
    exact Bool.false_ne_true (htoken.symm.trans ((byte_kinds b).2.2.1.symm.trans hstart))

theorem reads_tokenAt {dialect : ProtocolKind} {before : List UInt8} {tail rest : List UInt8}
    {out : List String} (h : tokenAt dialect before b tail = (out, rest)) :
    Reads (readToken dialect) before (b :: tail) out (advance before (b :: tail) rest) rest := by
  have hone : Reads (readToken dialect) before (b :: tail) _ _ _ := .one before b tail
  unfold readToken at hone
  rw [h] at hone
  exact hone

/-! ## Quoted texts of a server -/

/-- The bytes between the quotes, as they are written, and what follows them; behind the opening quote. -/
def readQuoted (quote : UInt8) (escapes : Bool) : List UInt8 → List UInt8 × List UInt8
  | [] => ([], [])
  | [a] => (if a == quote then [] else [a], [])
  | a :: b :: rest =>
    if escapes && a == ch '\\' then (a :: b :: (readQuoted quote escapes rest).1, (readQuoted quote escapes rest).2)
    else if a == quote then
      if b == quote then (a :: b :: (readQuoted quote escapes rest).1, (readQuoted quote escapes rest).2)
      else ([], b :: rest)
    else (a :: (readQuoted quote escapes (b :: rest)).1, (readQuoted quote escapes (b :: rest)).2)

theorem readQuoted_rest (quote : UInt8) (escapes : Bool) (rest : List UInt8) :
    (readQuoted quote escapes rest).2 = skipQuoted quote escapes rest := by
  fun_induction skipQuoted quote escapes rest with
  | case1 => rfl
  | case2 => rfl
  | case3 a b rest h ih =>
    unfold readQuoted
    rw [if_pos h]
    exact ih
  | case4 a b rest h h' h'' ih =>
    unfold readQuoted
    rw [if_neg h, if_pos h', if_pos h'']
    exact ih
  | case5 a b rest h h' h'' =>
    unfold readQuoted
    rw [if_neg h, if_pos h', if_neg h'']
  | case6 a b rest h h' ih =>
    unfold readQuoted
    rw [if_neg h, if_neg h']
    exact ih

theorem length_readQuoted (quote : UInt8) (escapes : Bool) (rest : List UInt8) :
    (readQuoted quote escapes rest).2.length ≤ rest.length := by
  rw [readQuoted_rest]
  exact length_skipQuoted quote escapes rest

theorem skipQuoted_of_no_backslash {quote : UInt8} (hquote : quote ≠ ch '\\') {escapes : Bool} {rest : List UInt8}
    (h : ch '\\' ∉ (readQuoted quote escapes rest).1) (backslash : Bool) :
    skipQuoted quote backslash rest = skipQuoted quote escapes rest := by
  fun_induction skipQuoted quote escapes rest with
  | case1 => rfl
  | case2 => rfl
  | case3 a b rest hescape ih =>
    rw [readQuoted, if_pos hescape] at h
    have ha := beq_iff_eq.mp (Bool.and_eq_true_iff.mp hescape).2
    exact absurd (ha ▸ List.mem_cons_self) h
  | case4 a b rest hescape ha hb ih =>
    rw [readQuoted, if_neg hescape, if_pos ha, if_pos hb] at h
    have hplain : ¬(backslash && a == ch '\\') = true := by
      intro hslash
      have ha := beq_iff_eq.mp (Bool.and_eq_true_iff.mp hslash).2
      exact h (ha ▸ List.mem_cons_self)
    rw [skipQuoted, if_neg hplain, if_pos ha, if_pos hb]
    exact ih fun hmem => h (List.mem_cons_of_mem a (List.mem_cons_of_mem b hmem))
  | case5 a b rest hescape ha hb =>
    have hplain : ¬(backslash && a == ch '\\') = true := by
      intro hslash
      exact hquote ((beq_iff_eq.mp ha).symm.trans (beq_iff_eq.mp (Bool.and_eq_true_iff.mp hslash).2))
    rw [skipQuoted, if_neg hplain, if_pos ha, if_neg hb]
  | case6 a b rest hescape ha ih =>
    rw [readQuoted, if_neg hescape, if_neg ha] at h
    have hplain : ¬(backslash && a == ch '\\') = true := by
      intro hslash
      have ha := beq_iff_eq.mp (Bool.and_eq_true_iff.mp hslash).2
      exact h (ha ▸ List.mem_cons_self)
    rw [skipQuoted, if_neg hplain, if_neg ha]
    exact ih fun hmem => h (List.mem_cons_of_mem a hmem)

/-! ## Statements -/

theorem splitOn_append {front : List String} (h : ";" ∉ front) (rest : List String) :
    (front ++ rest).splitOn ";" = (rest.splitOn ";").modifyHead (front ++ ·) := by
  induction front with
  | nil =>
    show rest.splitOn ";" = _
    cases rest.splitOn ";" with
    | nil => rfl
    | cons first others => rfl
  | cons token front ih =>
    have hne : ¬token = ";" := fun heq => h (heq ▸ List.mem_cons_self)
    rw [List.cons_append, List.splitOn_cons_eq_if_modifyHead,
      if_neg (by rw [beq_iff_eq]; exact hne),
      ih fun hmem => h (List.mem_cons_of_mem token hmem)]
    cases rest.splitOn ";" with
    | nil => rfl
    | cons first others => rfl

theorem splitOn_flatMap {separates : τ → Bool} {expand : τ → List String} {ts : List τ}
    (hseparator : ∀ t ∈ ts, separates t = true → expand t = [";"])
    (hother : ∀ t ∈ ts, separates t = false → ";" ∉ expand t) :
    (ts.flatMap expand).splitOn ";" = (ts.splitOnP separates).map (·.flatMap expand) := by
  induction ts with
  | nil => rfl
  | cons t ts ih =>
    have ih := ih (fun t ht => hseparator t (List.mem_cons_of_mem _ ht))
      (fun t ht => hother t (List.mem_cons_of_mem _ ht))
    have hseparator := hseparator t List.mem_cons_self
    have hother := hother t List.mem_cons_self
    rw [List.flatMap_cons, List.splitOnP_cons_eq_if_modifyHead]
    cases ht : separates t with
    | true =>
      rw [hseparator ht, if_pos rfl]
      show (";" :: ts.flatMap expand).splitOn ";" = _
      rw [List.splitOn_cons_eq_if_modifyHead, if_pos (by decide), ih]
      rfl
    | false =>
      rw [splitOn_append (hother ht), ih, if_neg Bool.false_ne_true]
      cases ts.splitOnP separates with
      | nil => rfl
      | cons first others => rfl

theorem mem_of_mem_splitOnP {separates : τ → Bool} {ts statement : List τ} {t : τ}
    (h : statement ∈ ts.splitOnP separates) (ht : t ∈ statement) : t ∈ ts := by
  induction ts generalizing statement with
  | nil =>
    cases List.mem_singleton.mp h
    cases ht
  | cons u ts ih =>
    rw [List.splitOnP_cons_eq_if_modifyHead] at h
    split at h
    · rcases List.mem_cons.mp h with rfl | h
      · cases ht
      · exact List.mem_cons_of_mem u (ih h ht)
    · cases hsplit : ts.splitOnP separates with
      | nil =>
        rw [hsplit] at h
        cases h
      | cons first others =>
        rw [hsplit] at h ih
        rcases List.mem_cons.mp h with rfl | h
        · rcases List.mem_cons.mp ht with rfl | ht
          · exact List.mem_cons_self
          · exact List.mem_cons_of_mem u (ih List.mem_cons_self ht)
        · exact List.mem_cons_of_mem u (ih (List.mem_cons_of_mem first h) ht)

theorem adjacent_iff {p : α → α → Bool} {l : List α} :
    adjacent p l = true ↔ ∃ front a b back, l = front ++ a :: b :: back ∧ p a b = true := by
  constructor
  · intro h
    induction l with
    | nil => cases h
    | cons a rest ih =>
      cases rest with
      | nil => cases h
      | cons b back =>
        rcases Bool.or_eq_true_iff.mp h with h | h
        · exact ⟨[], a, b, back, rfl, h⟩
        · obtain ⟨front, a', b', back', heq, hp⟩ := ih h
          exact ⟨a :: front, a', b', back', congrArg (a :: ·) heq, hp⟩
  · rintro ⟨front, a, b, back, rfl, hp⟩
    induction front with
    | nil =>
      show (p a b || _) = true
      rw [hp]
      rfl
    | cons c front ih =>
      cases front with
      | nil =>
        show (_ || _) = true
        rw [show adjacent p (a :: b :: back) = true from ih, Bool.or_true]
      | cons d front =>
        show (p c d || adjacent p (d :: (front ++ a :: b :: back))) = true
        rw [show adjacent p (d :: (front ++ a :: b :: back)) = true from ih, Bool.or_true]

def isRuleWord (word : String) : Bool := word != "" && word.toList.all fun c => c.isUpper || c == '_'

theorem exists_mem_splitOnP {separates : τ → Bool} {ts : List τ} {t : τ} (ht : t ∈ ts)
    (hother : separates t = false) : ∃ statement ∈ ts.splitOnP separates, t ∈ statement := by
  induction ts with
  | nil => cases ht
  | cons u ts ih =>
    rw [List.splitOnP_cons_eq_if_modifyHead]
    split
    · rename_i hu
      rcases List.mem_cons.mp ht with rfl | ht
      · rw [hother] at hu
        cases hu
      · obtain ⟨statement, hmem, hin⟩ := ih ht
        exact ⟨statement, List.mem_cons_of_mem [] hmem, hin⟩
    · cases hsplit : ts.splitOnP separates with
      | nil => exact absurd hsplit (List.splitOnP_ne_nil separates ts)
      | cons first others =>
        rw [hsplit] at ih
        rcases List.mem_cons.mp ht with rfl | ht
        · exact ⟨t :: first, List.mem_cons_self, List.mem_cons_self⟩
        · obtain ⟨statement, hmem, hin⟩ := ih ht
          rcases List.mem_cons.mp hmem with rfl | hmem
          · exact ⟨u :: statement, List.mem_cons_self, List.mem_cons_of_mem u hin⟩
          · exact ⟨statement, List.mem_cons_of_mem _ hmem, hin⟩

theorem adjacent_map {β : Type} {p : β → β → Bool} {f : α → β} {l : List α} :
    adjacent p (l.map f) = adjacent (fun a b => p (f a) (f b)) l := by
  induction l with
  | nil => rfl
  | cons a l ih =>
    cases l with
    | nil => rfl
    | cons b l =>
      show (p (f a) (f b) || adjacent p ((b :: l).map f)) = _
      rw [ih]
      rfl

section Spelling

variable {τ : Type} {spelling : τ → Option String} {expand : τ → List String}

variable {ts : List τ}

theorem adjacent_flatMap {p : τ → τ → Bool} {q : String → String → Bool}
    (hspelling : ∀ t ∈ ts, ∀ u ∈ ts, p t u = true → ∃ a b, expand t = [a] ∧ expand u = [b] ∧ q a b = true)
    (h : adjacent p ts = true) : adjacent q (ts.flatMap expand) = true := by
  obtain ⟨front, t, u, back, rfl, hp⟩ := adjacent_iff.mp h
  obtain ⟨a, b, ha, hb, hq⟩ := hspelling t (by simp) u (by simp) hp
  rw [List.flatMap_append, List.flatMap_cons, List.flatMap_cons, ha, hb]
  exact adjacent_iff.mpr ⟨_, a, b, _, rfl, hq⟩

theorem isPrefixOf_flatMap {words : List String}
    (hspelling : ∀ t ∈ ts, ∀ word ∈ words, spelling t = some word → expand t = [word])
    (h : (words.map some).isPrefixOf (ts.map spelling) = true) : words.isPrefixOf (ts.flatMap expand) = true := by
  rw [List.isPrefixOf_iff_prefix] at h ⊢
  induction words generalizing ts with
  | nil => exact List.nil_prefix
  | cons word words ih =>
    obtain ⟨back, hback⟩ := h
    obtain ⟨t, ts, rfl, ht, hrest⟩ := List.map_eq_cons_iff.mp hback.symm
    rw [List.flatMap_cons, hspelling t List.mem_cons_self word List.mem_cons_self ht, List.singleton_append,
      List.prefix_cons_inj]
    exact ih (fun u hu other hother => hspelling u (List.mem_cons_of_mem t hu) other
      (List.mem_cons_of_mem word hother)) ⟨back, hrest.symm⟩

theorem flatMap_filter {significant : τ → Bool} (hnothing : ∀ t, significant t = false → expand t = [])
    (ts : List τ) : (ts.filter significant).flatMap expand = ts.flatMap expand := by
  induction ts with
  | nil => rfl
  | cons t ts ih =>
    cases h : significant t with
    | true => rw [List.filter_cons_of_pos h, List.flatMap_cons, List.flatMap_cons, ih]
    | false =>
      rw [List.filter_cons_of_neg (by rw [h]; exact Bool.false_ne_true), List.flatMap_cons, ih, hnothing t h]
      rfl

end Spelling

def isDangerous (dialect : ProtocolKind) (statement : List String) : Bool :=
  let first := statement.head?
  let postgreSql := dialect == .postgreSql
  let mySql := dialect == .mySql
  (first == some "COPY" && postgreSql && statement.any (· == "PROGRAM")) ||
    (first == some "COPY" && postgreSql &&
      adjacent (fun a b => (a == "FROM" || a == "TO") && b == "<LITERAL>") statement) ||
    (first == some "DO" && postgreSql) || first == some "CALL" ||
    (["LOAD", "DATA"].isPrefixOf statement && mySql) ||
    (adjacent (fun a b => a == "INTO" && (b == "OUTFILE" || b == "DUMPFILE")) statement && mySql) ||
    ((first == some "VACUUM" || first == some "ANALYZE") && postgreSql) ||
    isCrossDialect statement dialect || isPrivilegedCatalogOrSession statement dialect

theorem head_eq_isPrefixOf (statement : List String) (word : String) :
    (statement.head? == some word) = [word].isPrefixOf statement := by
  cases statement with
  | nil => rfl
  | cons token rest =>
    show (token == word) = (word == token && true)
    rw [Bool.and_true, Bool.beq_comm]

theorem classifyStatement_isSome (dialect : ProtocolKind) (statement : List String) :
    (classifyStatement dialect statement).isSome = isDangerous dialect statement := by
  unfold classifyStatement isDangerous
  dsimp only
  -- the chain of tests, as a disjunction
  have hchain : ∀ (c : UnsupportedSqlCapability) (test others : Bool) (rest : Option UnsupportedSqlCapability),
      rest.isSome = others → (if test then some c else rest).isSome = (test || others) := by
    intro c test others rest h
    cases test with
    | true => rfl
    | false => exact h
  simp only [Bool.or_assoc]
  repeat' refine hchain _ _ _ _ ?_
  cases isPrivilegedCatalogOrSession statement dialect with
  | true => rfl
  | false => rfl

/-- **A text is refused** when a rule applies to one of its statements. -/
theorem classifyTokens_isSome (dialect : ProtocolKind) (tokens : List String) :
    (classifyTokens dialect tokens).isSome = true ↔
      ∃ statement ∈ tokens.splitOn ";", isDangerous dialect statement = true := by
  unfold classifyTokens
  rw [List.findSome?_isSome_iff]
  refine exists_congr fun statement => and_congr_right fun _ => ?_
  rw [← classifyStatement_isSome]
  cases statement with
  | nil =>
    cases dialect with
    | mySql => exact iff_of_false Bool.false_ne_true (by decide)
    | postgreSql => exact iff_of_false Bool.false_ne_true (by decide)
  | cons token rest => exact Iff.rfl

end DataNexus.Dialect.Dangerous
