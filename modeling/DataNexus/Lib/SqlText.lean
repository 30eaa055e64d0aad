/-
  The lexical structure of an SQL text.

  `lex` cuts a text into tokens that keep their characters, so that the tokens of a text make up the text
  (`flatMap_lex`).  What servers disagree on is a parameter (`Lexis`): backslashes in literals, what double quotes and
  backticks enclose, which comments there are and whether they nest, dollar quotes and `$n` placeholders.
-/
import DataNexus.Lib.Scan
import DataNexus.Lib.Text

namespace DataNexus.SqlText

open DataNexus.Scan DataNexus.Text

/-! ## What servers disagree on -/

structure Lexis where
  /-- A backslash escapes in every literal. -/
  backslash : Bool
  /-- A backslash escapes in a literal behind `E`, and in what continues it on a later line. -/
  escapeLiterals : Bool
  /-- Double quotes enclose a literal, not a name. -/
  doubleQuoted : Bool
  backtick : Bool
  /-- `#` begins a comment. -/
  hash : Bool
  /-- `--` begins a comment only before a blank. -/
  dashesBlank : Bool
  nested : Bool
  /-- Dollar quotes and placeholders `$n`. -/
  dollar : Bool
deriving DecidableEq

def Lexis.postgreSql : Lexis := ⟨false, true, false, false, false, false, true, true⟩

def Lexis.mySql : Lexis := ⟨true, false, true, true, true, true, false, false⟩

inductive Kind where
  | blank
  | comment
  | literal
  /-- A name in quotes. -/
  | name
  | word
  | number
  | placeholder
  | symbol
deriving DecidableEq

structure Token where
  kind : Kind
  text : List Char
deriving DecidableEq

/-! ## How far a token goes -/

def isBlank (c : Char) : Bool := c == ' ' || (9 ≤ c.toNat && c.toNat ≤ 13)

def isNewline (c : Char) : Bool := c == '\n' || c == '\r'

def startsWord (c : Char) : Bool := c.isAlpha || c == '_' || 128 ≤ c.toNat

def inWord (c : Char) : Bool := startsWord c || c.isDigit || c == '$'

/-- A character of a number, with the letters of its exponent or its base. -/
def inNumber (c : Char) : Bool := startsWord c || c.isDigit || c == '.'

/-- The length of a block comment behind its opening, with so many comments open in it. -/
def blockLength (nested : Bool) : (depth : Nat) → List Char → Nat
  | _, [] => 0
  | _, [_] => 1
  | depth, a :: b :: rest =>
    if a = '*' ∧ b = '/' then
      match depth with
      | 0 => 2
      | depth + 1 => 2 + blockLength nested depth rest
    else if nested = true ∧ a = '/' ∧ b = '*' then 2 + blockLength nested (depth + 1) rest
    else 1 + blockLength nested depth (b :: rest)

/-- The length of what is in quotes, behind the opening quote. -/
def quotedLength (quote : Char) (escapes : Bool) : List Char → Nat
  | [] => 0
  | [_] => 1
  | c :: d :: rest =>
    if escapes = true ∧ c = '\\' then 2 + quotedLength quote escapes rest
    else if c = quote then if d = quote then 2 + quotedLength quote escapes rest else 1
    else 1 + quotedLength quote escapes (d :: rest)

/-- The tag of a dollar quote, behind its first dollar. -/
def dollarTag (tail : List Char) : Option (List Char) :=
  let tag := tail.takeWhile fun c => startsWord c || c.isDigit
  if (tail.drop tag.length).head? = some '$' ∧ tag.head?.any Char.isDigit = false then some tag else none

/-- The length of a dollar quote behind its first dollar. -/
def dollarLength (tag tail : List Char) : Nat :=
  let close := '$' :: tag ++ ['$']
  match find close (tail.drop (tag.length + 1)) with
  | some i => tag.length + 1 + i + close.length
  | none => tail.length

/-! ## The lexer -/

/-- What the lexer remembers: an escape literal, behind which a line has ended or not. -/
inductive After where
  | other
  | escapeLiteral (newline : Bool)
deriving DecidableEq

def After.blank (newline : Bool) : After → After
  | .other => .other
  | .escapeLiteral seen => .escapeLiteral (seen || newline)

/-- The length of a line comment, up to the end of the line. -/
def lineLength (tail : List Char) : Nat := (tail.takeWhile fun c => !isNewline c).length

/-- The token that begins with `c`: its kind, the number of its further characters, and what is remembered. -/
def tokenAt (x : Lexis) (after : After) (c : Char) (tail : List Char) : Kind × Nat × After :=
  let dashes := c == '-' && tail.head? == some '-' && (!x.dashesBlank || (tail.drop 1).head?.all isBlank)
  let escapes := x.backslash || after == .escapeLiteral true
  if isBlank c then (.blank, 0, after.blank (isNewline c))
  else if dashes || (x.hash && c == '#') then (.comment, lineLength tail, after.blank true)
  else if c == '/' && tail.head? == some '*' then (.comment, 1 + blockLength x.nested 0 (tail.drop 1), .other)
  else if c == '\'' then
    (.literal, quotedLength '\'' escapes tail, if escapes then .escapeLiteral false else .other)
  else if c == '"' then
    (if x.doubleQuoted then .literal else .name, quotedLength '"' (x.doubleQuoted && x.backslash) tail, .other)
  else if x.backtick && c == '`' then (.name, quotedLength '`' false tail, .other)
  else if x.escapeLiterals && (c == 'e' || c == 'E') && tail.head? == some '\'' then
    (.literal, 1 + quotedLength '\'' true (tail.drop 1), .escapeLiteral false)
  else if startsWord c || (!x.dollar && c == '$') then (.word, (tail.takeWhile inWord).length, .other)
  else if c.isDigit then (.number, (tail.takeWhile inNumber).length, .other)
  else if c == '.' && tail.head?.any Char.isDigit then (.number, (tail.takeWhile inNumber).length, .other)
  else if c == '$' && tail.head?.any Char.isDigit then
    (.placeholder, (tail.takeWhile Char.isDigit).length, .other)
  else if c == '$' then
    match dollarTag tail with
    | some tag => (.literal, dollarLength tag tail, .other)
    | none => (.symbol, 0, .other)
  else (.symbol, 0, .other)

def lexAt (x : Lexis) : Step After Char Token := fun after c tail =>
  ([⟨(tokenAt x after c tail).1, c :: tail.take (tokenAt x after c tail).2.1⟩], (tokenAt x after c tail).2.2,
    tail.drop (tokenAt x after c tail).2.1)

def lexFrom (x : Lexis) (after : After) (s : List Char) : List Token := tokens (lexAt x) after s

def lex (x : Lexis) (s : List Char) : List Token := lexFrom x .other s

theorem advances_lexAt (x : Lexis) : Advances (lexAt x) := by
  intro after c tail
  show (tail.drop _).length ≤ tail.length
  rw [List.length_drop]
  omega

theorem lexFrom_cons (x : Lexis) (after : After) (c : Char) (tail : List Char) :
    lexFrom x after (c :: tail) = ⟨(tokenAt x after c tail).1, c :: tail.take (tokenAt x after c tail).2.1⟩ ::
      lexFrom x (tokenAt x after c tail).2.2 (tail.drop (tokenAt x after c tail).2.1) :=
  tokens_cons (advances_lexAt x) after c tail

/-- **The tokens make up the text.** -/
theorem flatMap_lexFrom (x : Lexis) (after : After) (s : List Char) : (lexFrom x after s).flatMap Token.text = s := by
  refine flatMap_tokens (advances_lexAt x) (fun after c tail => ?_) after s
  show (([⟨_, c :: tail.take _⟩] : List Token).flatMap Token.text) ++ tail.drop _ = c :: tail
  rw [List.flatMap_singleton, List.cons_append, List.take_append_drop]

theorem flatMap_lex (x : Lexis) (s : List Char) : (lex x s).flatMap Token.text = s := flatMap_lexFrom x .other s

variable {x : Lexis} {s needle t : List Char} {i : Nat} {c : Char} {ts : List Token}

theorem mem_lex {t : Token} (h : t ∈ lex x s) :
    ∃ after c tail, t = ⟨(tokenAt x after c tail).1, c :: tail.take (tokenAt x after c tail).2.1⟩ :=
  forall_tokens (P := fun t => ∃ after c tail,
      t = ⟨(tokenAt x after c tail).1, c :: tail.take (tokenAt x after c tail).2.1⟩) (advances_lexAt x)
    (fun after c tail _ hu => ⟨after, c, tail, List.mem_singleton.mp hu⟩) h

theorem text_ne_nil {x : Lexis} {s : List Char} {t : Token} (h : t ∈ lex x s) : t.text ≠ [] := by
  obtain ⟨after, c, tail, rfl⟩ := mem_lex h
  exact List.cons_ne_nil _ _

theorem blank_of_mem_lex {t : Token} (h : t ∈ lex x s) (hkind : t.kind = .blank) :
    ∃ c, t.text = [c] ∧ isBlank c = true := by
  obtain ⟨after, c, tail, rfl⟩ := mem_lex h
  by_cases hblank : isBlank c = true
  · refine ⟨c, ?_, hblank⟩
    have hlen : (tokenAt x after c tail).2.1 = 0 := by
      unfold tokenAt
      dsimp only
      rw [if_pos hblank]
    show c :: tail.take (tokenAt x after c tail).2.1 = [c]
    rw [hlen, List.take_zero]
  · exfalso
    dsimp only at hkind
    unfold tokenAt at hkind
    dsimp only at hkind
    rw [if_neg hblank] at hkind
    generalize (c == '-' && tail.head? == some '-' && (!x.dashesBlank || (tail.drop 1).head?.all isBlank)) = dashes at hkind
    simp only [apply_ite Prod.fst] at hkind
    cases hdollar : dollarTag tail with
    | none =>
      rw [hdollar] at hkind
      simp only [ite_eq_iff, reduceCtorEq, and_false, or_false] at hkind
    | some tag =>
      rw [hdollar] at hkind
      simp only [ite_eq_iff, reduceCtorEq, and_false, or_false] at hkind

theorem lexFrom_suffix {after : After} {a b : List Token} (h : lexFrom x after s = a ++ b) :
    ∃ after', lexFrom x after' (b.flatMap Token.text) = b := by
  induction a generalizing after s with
  | nil =>
    refine ⟨after, ?_⟩
    rw [← show lexFrom x after s = b from h, flatMap_lexFrom]
  | cons t a ih =>
    cases s with
    | nil => cases h
    | cons c tail =>
      rw [lexFrom_cons, List.cons_append] at h
      exact ih (List.cons.inj h).2

/-! ## What is read in front of a blank or a parenthesis -/

/-- A character with which a token ends, or goes on whatever follows. -/
def IsBarrier (d : Char) : Prop := d = ' ' ∨ d = '(' ∨ d = ')'

instance : DecidablePred IsBarrier := fun d => inferInstanceAs (Decidable (d = ' ' ∨ d = '(' ∨ d = ')'))

variable {d : Char} {w : List Char}

theorem takeWhile_barrier {p : Char → Bool} (hd : p d = false) (t w : List Char) :
    (t ++ d :: w).takeWhile p = (t ++ [d]).takeWhile p := by
  rw [List.takeWhile_append, List.takeWhile_append, List.takeWhile_cons_of_neg (by rw [hd]; exact Bool.false_ne_true),
    List.takeWhile_cons_of_neg (by rw [hd]; exact Bool.false_ne_true)]

theorem head?_barrier (t w : List Char) : (t ++ d :: w).head? = (t ++ [d]).head? := by
  cases t with
  | nil => rfl
  | cons a t => rfl

theorem quotedLength_barrier {quote : Char} {escapes : Bool} (hd : d ≠ quote) (w : List Char) : ∀ t : List Char,
    quotedLength quote escapes (t ++ [d]) ≤ t.length →
    quotedLength quote escapes (t ++ d :: w) = quotedLength quote escapes (t ++ [d])
  | [], h => absurd h (by simp [quotedLength])
  | [c], h => by
    simp only [List.singleton_append, quotedLength] at h ⊢
    split at h
    · simp at h
    · rename_i hescape
      rw [if_neg hescape, if_neg hescape]
      split at h
      · rename_i hquote
        rw [if_pos hquote, if_pos hquote, if_neg hd, if_neg hd]
      · simp at h
  | c :: e :: t, h => by
    simp only [List.cons_append, quotedLength, List.length_cons] at h ⊢
    split
    · rename_i hescape
      rw [if_pos hescape] at h
      rw [quotedLength_barrier hd w t (by omega)]
    · rename_i hescape
      rw [if_neg hescape] at h
      split
      · rename_i hquote
        rw [if_pos hquote] at h
        split
        · rename_i hdouble
          rw [if_pos hdouble] at h
          rw [quotedLength_barrier hd w t (by omega)]
        · rfl
      · rename_i hquote
        rw [if_neg hquote] at h
        have hmore := quotedLength_barrier hd w (e :: t) (by rw [List.length_cons]; show quotedLength quote escapes (e :: (t ++ [d])) ≤ _; omega)
        rw [List.cons_append, List.cons_append] at hmore
        rw [hmore]

theorem blockLength_barrier {nested : Bool} (hd : IsBarrier d) (w : List Char) : ∀ (t : List Char) (depth : Nat),
    blockLength nested depth (t ++ [d]) ≤ t.length →
    blockLength nested depth (t ++ d :: w) = blockLength nested depth (t ++ [d])
  | [], depth, h => absurd h (by simp [blockLength])
  | [c], depth, h => by
    have hslash : d ≠ '/' := by rintro rfl; exact absurd hd (by decide)
    have hstar : d ≠ '*' := by rintro rfl; exact absurd hd (by decide)
    simp [blockLength, hslash, hstar] at h
  | c :: e :: t, depth, h => by
    simp only [List.cons_append, blockLength, List.length_cons] at h ⊢
    split
    · rename_i hclose
      rw [if_pos hclose] at h
      cases depth with
      | zero => rfl
      | succ depth =>
        dsimp only at h ⊢
        rw [blockLength_barrier hd w t depth (by omega)]
    · rename_i hclose
      rw [if_neg hclose] at h
      split
      · rename_i hopen
        rw [if_pos hopen] at h
        rw [blockLength_barrier hd w t (depth + 1) (by omega)]
      · rename_i hopen
        rw [if_neg hopen] at h
        have hmore := blockLength_barrier hd w (e :: t) depth
          (by rw [List.length_cons]; show blockLength nested depth (e :: (t ++ [d])) ≤ _; omega)
        rw [List.cons_append, List.cons_append] at hmore
        rw [hmore]

theorem length_le_of_find (h : find needle s = some i) : needle.length ≤ s.length := by
  induction s generalizing i with
  | nil =>
    unfold find at h
    by_cases hempty : needle.isEmpty = true
    · exact Nat.le_of_eq (congrArg List.length (List.isEmpty_iff.mp hempty))
    · rw [if_neg hempty] at h
      cases h
  | cons c s ih =>
    unfold find at h
    split at h
    · rename_i hstart
      exact (List.isPrefixOf_iff_prefix.mp hstart).length_le
    · obtain ⟨j, hj, _⟩ := Option.map_eq_some_iff.mp h
      exact Nat.le_succ_of_le (ih hj)

theorem find_append (h : find needle s = some i) (t : List Char) : find needle (s ++ t) = some i := by
  induction s generalizing i with
  | nil =>
    unfold find at h
    split at h
    · rename_i hempty
      obtain rfl := Option.some.inj h
      rw [List.isEmpty_iff.mp hempty]
      cases t with
      | nil => rfl
      | cons a t => rfl
    · cases h
  | cons c s ih =>
    rw [List.cons_append]
    unfold find at h ⊢
    split at h
    · rename_i hstart
      have hlong : startsWith needle (c :: (s ++ t)) = true :=
        List.isPrefixOf_iff_prefix.mpr ((List.isPrefixOf_iff_prefix.mp hstart).trans (List.prefix_append (c :: s) t))
      rw [if_pos hlong]
      exact h
    · rename_i hstart
      obtain ⟨j, hj, rfl⟩ := Option.map_eq_some_iff.mp h
      by_cases hlong : startsWith needle (c :: (s ++ t)) = true
      · refine absurd (List.isPrefixOf_iff_prefix.mpr ?_) hstart
        exact List.prefix_of_prefix_length_le (List.isPrefixOf_iff_prefix.mp hlong) (List.prefix_append (c :: s) t)
          (Nat.le_succ_of_le (length_le_of_find hj))
      · rw [if_neg hlong, ih hj]
        rfl

theorem barrier_facts (hd : IsBarrier d) :
    startsWord d = false ∧ d.isDigit = false ∧ isNewline d = false ∧ d ≠ '\'' ∧ d ≠ '"' ∧ d ≠ '`' ∧ d ≠ '-' ∧ d ≠ '*' ∧
      d ≠ '$' ∧ d ≠ '.' := by
  rcases hd with rfl | rfl | rfl <;> decide

theorem length_takeWhile_barrier {p : Char → Bool} (hd : p d = false) (t : List Char) :
    ((t ++ [d]).takeWhile p).length ≤ t.length := by
  rw [List.takeWhile_append, List.takeWhile_cons_of_neg (by rw [hd]; exact Bool.false_ne_true), List.append_nil]
  split
  · exact Nat.le_refl _
  · exact (List.takeWhile_sublist p).length_le

theorem dollarTag_barrier (hd : IsBarrier d) (t w : List Char) : dollarTag (t ++ d :: w) = dollarTag (t ++ [d]) := by
  obtain ⟨hword, hdigit, -⟩ := barrier_facts hd
  have hp : (startsWord d || d.isDigit) = false := by rw [hword, hdigit]; rfl
  have hlen := length_takeWhile_barrier (p := fun c => startsWord c || c.isDigit) hp t
  unfold dollarTag
  dsimp only
  rw [takeWhile_barrier hp t w, List.drop_append_of_le_length hlen, List.drop_append_of_le_length hlen, head?_barrier]

theorem length_dollarTag {tag : List Char} (hd : IsBarrier d) (h : dollarTag (t ++ [d]) = some tag) :
    tag.length ≤ t.length := by
  obtain ⟨hword, hdigit, -⟩ := barrier_facts hd
  have hp : (startsWord d || d.isDigit) = false := by rw [hword, hdigit]; rfl
  unfold dollarTag at h
  dsimp only at h
  split at h
  · obtain rfl := Option.some.inj h
    exact length_takeWhile_barrier hp t
  · cases h

theorem dollarLength_barrier {tag : List Char} (htag : tag.length ≤ t.length)
    (h : dollarLength tag (t ++ [d]) ≤ t.length) (w : List Char) :
    dollarLength tag (t ++ d :: w) = dollarLength tag (t ++ [d]) := by
  unfold dollarLength at h ⊢
  dsimp only at h ⊢
  have hsplit : t ++ d :: w = (t ++ [d]) ++ w := by rw [List.append_assoc, List.singleton_append]
  have hlen : tag.length + 1 ≤ (t ++ [d]).length := by
    rw [List.length_append, List.length_singleton]
    omega
  rw [hsplit, List.drop_append_of_le_length hlen]
  cases hfind : find ('$' :: tag ++ ['$']) ((t ++ [d]).drop (tag.length + 1)) with
  | some i => rw [find_append hfind]
  | none =>
    rw [hfind] at h
    simp only [List.length_append, List.length_singleton] at h
    omega

theorem lineLength_barrier (hd : IsBarrier d) (h : lineLength (t ++ [d]) ≤ t.length) (w : List Char) :
    lineLength (t ++ d :: w) = lineLength (t ++ [d]) := by
  obtain ⟨-, -, hnewline, -⟩ := barrier_facts hd
  unfold lineLength at h ⊢
  rw [List.takeWhile_append] at h ⊢
  rw [List.takeWhile_append]
  by_cases hall : (t.takeWhile fun c => !isNewline c).length = t.length
  · rw [if_pos hall, List.length_append] at h
    have hone : ([d].takeWhile fun c => !isNewline c).length = 1 := by simp [hnewline]
    omega
  · rw [if_neg hall, if_neg hall]

theorem cons_of_head? {a : Char} (had : d ≠ a) (h : ((t ++ [d]).head? == some a) = true) : ∃ t', t = a :: t' := by
  cases t with
  | nil => exact absurd (by simpa using h) had
  | cons b t =>
    obtain rfl : b = a := by simpa using h
    exact ⟨t, rfl⟩

/-- **A token that ends in front of a blank or a parenthesis** does so whatever comes behind that.  One case for each branch
    of the lexer. -/
theorem tokenAt_barrier {after : After} (hd : IsBarrier d) (h : (tokenAt x after c (t ++ [d])).2.1 ≤ t.length)
    (w : List Char) : tokenAt x after c (t ++ d :: w) = tokenAt x after c (t ++ [d]) := by
  obtain ⟨hword, hdigit, hnewline, hsingle, hdouble, hback, hdash, hstar, hdollar, hpoint⟩ := barrier_facts hd
  have hdashes : ((t ++ d :: w).head? == some '-' && (!x.dashesBlank || ((t ++ d :: w).drop 1).head?.all isBlank)) =
      ((t ++ [d]).head? == some '-' && (!x.dashesBlank || ((t ++ [d]).drop 1).head?.all isBlank)) := by
    cases t with
    | nil => simp [hdash]
    | cons a t =>
      show (_ && (_ || (t ++ d :: w).head?.all isBlank)) = (_ && (_ || (t ++ [d]).head?.all isBlank))
      rw [head?_barrier t w]
      rfl
  have hinWord : inWord d = false := by unfold inWord; simp [hword, hdigit, hdollar]
  have hinNumber : inNumber d = false := by unfold inNumber; simp [hword, hdigit, hpoint]
  unfold tokenAt at h ⊢
  dsimp only at h ⊢
  rw [Bool.and_assoc, hdashes, head?_barrier t w, ← Bool.and_assoc]
  generalize (c == '-' && (t ++ [d]).head? == some '-' && (!x.dashesBlank || ((t ++ [d]).drop 1).head?.all isBlank)) = dashes
    at h ⊢
  by_cases hblank : isBlank c = true
  · rw [if_pos hblank, if_pos hblank]
  rw [if_neg hblank] at h
  rw [if_neg hblank, if_neg hblank]
  by_cases hcomment : (dashes || (x.hash && c == '#')) = true
  · rw [if_pos hcomment] at h
    rw [if_pos hcomment, if_pos hcomment, lineLength_barrier hd h]
  rw [if_neg hcomment] at h
  rw [if_neg hcomment, if_neg hcomment]
  by_cases hblock : (c == '/' && (t ++ [d]).head? == some '*') = true
  · rw [if_pos hblock] at h
    rw [if_pos hblock, if_pos hblock]
    obtain ⟨t, rfl⟩ := cons_of_head? hstar (Bool.and_eq_true_iff.mp hblock).2
    have hlen : 1 + blockLength x.nested 0 (t ++ [d]) ≤ t.length + 1 := h
    have hmore := @blockLength_barrier d x.nested hd w t 0 (by omega)
    show (Kind.comment, 1 + blockLength x.nested 0 (t ++ d :: w), After.other) = _
    rw [hmore]
    rfl
  rw [if_neg hblock] at h
  rw [if_neg hblock, if_neg hblock]
  by_cases hliteral : (c == '\'') = true
  · rw [if_pos hliteral] at h
    rw [if_pos hliteral, if_pos hliteral, quotedLength_barrier hsingle w t h]
  rw [if_neg hliteral] at h
  rw [if_neg hliteral, if_neg hliteral]
  by_cases hname : (c == '"') = true
  · rw [if_pos hname] at h
    rw [if_pos hname, if_pos hname, quotedLength_barrier hdouble w t h]
  rw [if_neg hname] at h
  rw [if_neg hname, if_neg hname]
  by_cases htick : (x.backtick && c == '`') = true
  · rw [if_pos htick] at h
    rw [if_pos htick, if_pos htick, quotedLength_barrier hback w t h]
  rw [if_neg htick] at h
  rw [if_neg htick, if_neg htick]
  by_cases hescape : (x.escapeLiterals && (c == 'e' || c == 'E') && (t ++ [d]).head? == some '\'') = true
  · rw [if_pos hescape] at h
    rw [if_pos hescape, if_pos hescape]
    obtain ⟨t, rfl⟩ := cons_of_head? hsingle (Bool.and_eq_true_iff.mp hescape).2
    have hlen : 1 + quotedLength '\'' true (t ++ [d]) ≤ t.length + 1 := h
    have hmore := @quotedLength_barrier d '\'' true hsingle w t (by omega)
    show (Kind.literal, 1 + quotedLength '\'' true (t ++ d :: w), After.escapeLiteral false) = _
    rw [hmore]
    rfl
  rw [if_neg hescape] at h
  rw [if_neg hescape, if_neg hescape, takeWhile_barrier hinWord t w, takeWhile_barrier hinNumber t w,
    takeWhile_barrier hdigit t w]
  by_cases hfirst : (startsWord c || (!x.dollar && c == '$')) = true
  · rw [if_pos hfirst, if_pos hfirst]
  rw [if_neg hfirst] at h
  rw [if_neg hfirst, if_neg hfirst]
  by_cases hnumber : c.isDigit = true
  · rw [if_pos hnumber, if_pos hnumber]
  rw [if_neg hnumber] at h
  rw [if_neg hnumber, if_neg hnumber]
  by_cases hfraction : (c == '.' && (t ++ [d]).head?.any Char.isDigit) = true
  · rw [if_pos hfraction, if_pos hfraction]
  rw [if_neg hfraction] at h
  rw [if_neg hfraction, if_neg hfraction]
  by_cases hplace : (c == '$' && (t ++ [d]).head?.any Char.isDigit) = true
  · rw [if_pos hplace, if_pos hplace]
  rw [if_neg hplace] at h
  rw [if_neg hplace, if_neg hplace]
  by_cases hdollars : (c == '$') = true
  · rw [if_pos hdollars] at h
    rw [if_pos hdollars, if_pos hdollars, dollarTag_barrier hd t w]
    cases htag : dollarTag (t ++ [d]) with
    | none => rfl
    | some tag =>
      rw [htag] at h
      dsimp only at h ⊢
      rw [dollarLength_barrier (length_dollarTag hd htag) h w]
  · rw [if_neg hdollars, if_neg hdollars]

/-- **A text that stands by itself in front of a blank or a parenthesis** does so whatever comes behind that.  Induction on
    its tokens. -/
theorem lexFrom_barrier {d : Char} (hd : IsBarrier d) {k : Kind} {after : After} {u : List Char}
    (h : lexFrom x after (u ++ [d]) = ts ++ [⟨k, [d]⟩]) :
    ∃ after', ∀ w, lexFrom x after (u ++ d :: w) = ts ++ lexFrom x after' (d :: w) := by
  have htext := flatMap_lexFrom x after (u ++ [d])
  rw [h] at htext
  induction ts generalizing after u with
  | nil =>
    obtain rfl : u = [] := by
      have hlen := congrArg List.length htext
      simp at hlen
      exact hlen
    exact ⟨after, fun w => rfl⟩
  | cons t ts ih =>
    cases u with
    | nil =>
      rw [List.nil_append, lexFrom_cons] at h
      have hlen := congrArg List.length h
      simp [lexFrom, tokens_nil] at hlen
    | cons c u =>
      rw [List.cons_append, lexFrom_cons, List.cons_append] at h
      obtain ⟨rfl, hrest⟩ := List.cons.inj h
      have hlen : (tokenAt x after c (u ++ [d])).2.1 ≤ u.length := by
        by_contra hlong
        rw [List.drop_of_length_le (by rw [List.length_append, List.length_singleton]; omega)] at hrest
        simp [lexFrom, tokens_nil] at hrest
      rw [List.drop_append_of_le_length hlen] at hrest
      obtain ⟨after', hmore⟩ := ih hrest (by rw [← hrest]; exact flatMap_lexFrom x _ _)
      refine ⟨after', fun w => ?_⟩
      rw [List.cons_append, lexFrom_cons, tokenAt_barrier hd hlen w, List.drop_append_of_le_length hlen, hmore w,
        List.take_append_of_le_length hlen, List.take_append_of_le_length hlen]
      rfl

/-! ## Single tokens -/

theorem lexFrom_opening (x : Lexis) (after : After) (s : List Char) :
    lexFrom x after ('(' :: s) = ⟨.symbol, ['(']⟩ :: lexFrom x .other s := by
  have hword : startsWord '(' = false := by decide
  have htoken : tokenAt x after '(' s = (.symbol, 0, .other) := by
    simp [tokenAt, isBlank, hword, Char.isDigit]
  rw [lexFrom_cons, htoken]
  rfl

theorem lexFrom_closing (x : Lexis) (after : After) (s : List Char) :
    lexFrom x after (')' :: s) = ⟨.symbol, [')']⟩ :: lexFrom x .other s := by
  have hword : startsWord ')' = false := by decide
  have htoken : tokenAt x after ')' s = (.symbol, 0, .other) := by
    simp [tokenAt, isBlank, hword, Char.isDigit]
  rw [lexFrom_cons, htoken]
  rfl

theorem lexFrom_space (x : Lexis) (after : After) (s : List Char) :
    lexFrom x after (' ' :: s) = ⟨.blank, [' ']⟩ :: lexFrom x (after.blank false) s := by
  have htoken : tokenAt x after ' ' s = (.blank, 0, after.blank false) := by
    simp [tokenAt, isBlank, isNewline]
  rw [lexFrom_cons, htoken]
  rfl

theorem startsWord_of_isUpper (h : c.isUpper = true) : startsWord c = true := by
  show (c.isUpper || c.isLower || c == '_' || _) = true
  rw [h]
  rfl

theorem lexFrom_word {after : After} {cs : List Char} (hc : c.isUpper = true) (hE : c ≠ 'E')
    (hcs : ∀ a ∈ cs, a.isUpper = true) :
    lexFrom x after (c :: (cs ++ ' ' :: s)) = ⟨.word, c :: cs⟩ :: lexFrom x .other (' ' :: s) := by
  have hother : ∀ a : Char, a.isUpper = false → c ≠ a := by
    rintro a ha rfl
    rw [ha] at hc
    exact Bool.false_ne_true hc
  have hblank : isBlank c = false := by
    unfold isBlank
    have hge : 65 ≤ c.toNat := (of_decide_eq_true hc).1
    simp only [hother ' ' (by decide), Bool.or_eq_false_iff, beq_eq_false_iff_ne, ne_eq, not_false_eq_true, true_and,
      Bool.and_eq_false_iff, decide_eq_false_iff_not]
    omega
  have htake : (cs ++ ' ' :: s).takeWhile inWord = cs := by
    rw [List.takeWhile_append_of_pos fun a ha => ?_, List.takeWhile_cons_of_neg (by decide), List.append_nil]
    unfold inWord
    rw [startsWord_of_isUpper (hcs a ha)]
    rfl
  have htoken : tokenAt x after c (cs ++ ' ' :: s) = (.word, cs.length, .other) := by
    simp [tokenAt, hblank, hother '-' (by decide), hother '#' (by decide), hother '/' (by decide),
      hother '\'' (by decide), hother '"' (by decide), hother '`' (by decide), hother 'e' (by decide), hE,
      startsWord_of_isUpper hc, htake]
  rw [lexFrom_cons, htoken]
  dsimp only
  rw [List.take_left, List.drop_left]

theorem lexFrom_of_word {a b : After} {t : Token} (ht : t.kind = .word) (h : lexFrom x a s = t :: ts) :
    lexFrom x b s = t :: ts := by
  cases s with
  | nil => cases h
  | cons c tail =>
    rw [lexFrom_cons] at h ⊢
    obtain ⟨hhead, hrest⟩ := List.cons.inj h
    have hkind : (tokenAt x a c tail).1 = .word := by
      rw [← ht, ← hhead]
    have hsame : tokenAt x b c tail = tokenAt x a c tail := by
      -- only blanks, comments and literals know about the state
      unfold tokenAt at hkind ⊢
      dsimp only at hkind ⊢
      by_cases hblank : isBlank c = true
      · rw [if_pos hblank] at hkind
        cases hkind
      rw [if_neg hblank] at hkind
      rw [if_neg hblank, if_neg hblank]
      generalize (c == '-' && tail.head? == some '-' && (!x.dashesBlank || (tail.drop 1).head?.all isBlank)) = dashes
        at hkind ⊢
      by_cases hcomment : (dashes || (x.hash && c == '#')) = true
      · rw [if_pos hcomment] at hkind
        cases hkind
      rw [if_neg hcomment] at hkind
      rw [if_neg hcomment, if_neg hcomment]
      by_cases hblock : (c == '/' && tail.head? == some '*') = true
      · rw [if_pos hblock] at hkind
        cases hkind
      rw [if_neg hblock] at hkind
      rw [if_neg hblock, if_neg hblock]
      by_cases hliteral : (c == '\'') = true
      · rw [if_pos hliteral] at hkind
        cases hkind
      rw [if_neg hliteral, if_neg hliteral]
    rw [hsame, hhead, hrest]

end DataNexus.SqlText
