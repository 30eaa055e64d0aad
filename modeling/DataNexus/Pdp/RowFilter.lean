/-
  Row filters (`inject_row_filter` of `gateway/core/src/obligations.rs`).

  1. **Program** — `injectRowFilter`.  Blanks behind `WHERE` are counted in characters, and the count is taken for bytes.

  2. **Specification** — `Restricts`: of the clauses that a server reads only the condition is another one, the old one
     and the predicate; so the statement means what it meant over the rows with the predicate (`Meaning`).

  3. **The crux** — `inject_restricts`: in a quiet statement the scanner cuts where the server does, and what the code
     writes is read as it is meant, because what stands in front of it stands by itself (`Stands`).
-/
import DataNexus.Lib.Fallible
import DataNexus.Pdp.Clauses
import Mathlib.Data.List.TakeWhile

namespace DataNexus.Pdp.RowFilter

open DataNexus.Pdp.Clauses DataNexus.Pdp.TopLevel DataNexus.SqlText DataNexus.Text

/-! ## Program -/

/-- `KEYS` of `find_post_where_boundary`. -/
def postWhereKeys : List (List Char) :=
  ["GROUP".toList, "HAVING".toList, "ORDER".toList, "LIMIT".toList, "FOR".toList, "WINDOW".toList, "FETCH".toList,
    "OFFSET".toList]

/-- `KEYS` of `find_post_from_boundary`. -/
def postFromKeys : List (List Char) := "WHERE".toList :: postWhereKeys

/-- The earlier of what has been found and the keyword. -/
def earliest (sql : List Char) (best : Option Nat) (key : List Char) : Option Nat :=
  match findTopLevelKeyword key sql with
  | some idx => some (match best with | none => idx | some b => min b idx)
  | none => best

/-- `find_post_where_boundary` and `find_post_from_boundary`: the first of the keywords. -/
def findBoundary (keys : List (List Char)) (sql : List Char) : Option Nat := keys.foldl (earliest sql) none

inductive Panic where
  | slice
deriving DecidableEq

def tailText (tail : List Char) : List Char := if tail.isEmpty = true then [] else ' ' :: tail

/-- With a `WHERE` there: what is behind it is put in parentheses. -/
def conjoinWhere (indent pred trimmed : List Char) (whereIdx : Nat) : Except Panic (List Char) :=
  let afterWhere := trimmed.drop (whereIdx + 5)
  match takeBytes (afterWhere.takeWhile isWhitespace).length afterWhere with
  | none => .error .slice
  | some lead =>
    let rest := afterWhere.drop lead.length
    let boundary := (findBoundary postWhereKeys rest).getD rest.length
    .ok (indent ++ trimmed.take (whereIdx + 5) ++ lead ++ '(' :: (trimEnd (rest.take boundary) ++ ") AND (".toList ++ pred ++
      ')' :: tailText (trimStart (rest.drop boundary))))

def appendWhere (indent pred trimmed : List Char) : List Char :=
  let insertAt := (findBoundary postFromKeys trimmed).getD trimmed.length
  indent ++ trimEnd (trimmed.take insertAt) ++ " WHERE (".toList ++ pred ++ ')' :: tailText (trimStart (trimmed.drop insertAt))

def injectRowFilter (sql predicate : List Char) : Except Panic (Option (List Char)) :=
  let pred := trim predicate
  if pred.isEmpty = true then .ok (some sql)
  else
    let trimmed := trimStart sql
    let upper := toAsciiUppercase trimmed
    if ¬ (startsWith "SELECT".toList upper = true ∨ startsWith "WITH".toList upper = true) then .ok none
    else if contains " UNION ".toList upper = true then .ok none
    else
      match findTopLevelKeyword "FROM".toList trimmed with
      | none => .ok none
      | some _ =>
        match findTopLevelKeyword "WHERE".toList trimmed with
        | some whereIdx => (conjoinWhere (sql.takeWhile isWhitespace) pred trimmed whereIdx).map some
        | none => .ok (some (appendWhere (sql.takeWhile isWhitespace) pred trimmed))

/-! ## Specification -/

def and_ : Token := ⟨.word, "AND".toList⟩

def conjoin : Option (List Token) → List Token → List Token
  | none, p => opening :: p ++ [closing]
  | some w, p => opening :: w ++ [closing, and_] ++ (opening :: p ++ [closing])

def partsOf (x : Lexis) (s : List Char) : Parts := clausesOf (lexemes (lex x s))

def predicateOf (x : Lexis) (p : List Char) : List Token := lexemes (lex x (trim p))

/-- What a server makes of the clauses of a statement that reads one table: which rows a condition holds of, and what
    the rest of the statement answers from the rows that are left. -/
structure Meaning (Row Result : Type) where
  holds : List Token → Row → Bool
  answer : (front tail : List Token) → List Row → Result
  holds_group : ∀ a r, Nests 0 a → holds (opening :: a ++ [closing]) r = holds a r
  holds_and : ∀ a b r, Nests 0 a → Nests 0 b →
    holds (opening :: a ++ [closing, and_] ++ (opening :: b ++ [closing])) r = (holds a r && holds b r)

def Meaning.rows {Row Result : Type} (m : Meaning Row Result) (parts : Parts) (table : List Row) : Result :=
  m.answer parts.front parts.tail
    (match parts.condition with
    | none => table
    | some (_, w) => table.filter (m.holds w))

/-- The condition is conjoined with the predicate, and nothing else has changed. -/
structure Restricts (x : Lexis) (s p s' : List Char) : Prop where
  front : (partsOf x s').front = (partsOf x s).front
  condition : (partsOf x s').condition.map Prod.snd =
    some (conjoin ((partsOf x s).condition.map Prod.snd) (predicateOf x p))
  tail : (partsOf x s').tail = (partsOf x s).tail
  rows : ∀ {Row Result : Type} (m : Meaning Row Result) (table : List Row),
    m.rows (partsOf x s') table = m.rows (partsOf x s) (table.filter (m.holds (predicateOf x p)))

/-! ## When the code does that -/

/-- The tokens of a statement from its first word on. -/
def tokensOf (x : Lexis) (s : List Char) : List Token := (lex x s).dropWhile fun t => t.kind == .blank

/-- In front of `d` the text is read as these tokens, up to blanks and comments: it does not run into what is written
    behind it, as a line comment or an open literal does. -/
def Stands (x : Lexis) (u : List Char) (d : Token) (ts : List Token) : Prop :=
  ∃ us, lex x (u ++ d.text) = us ++ [d] ∧ lexemes us = ts

/-- What the code relies on where there is no condition. -/
structure Appends (x : Lexis) (indent : List Char) (front tail : List Token) : Prop where
  /-- The scanner sees in every token of the front what it is. -/
  quiet : ∀ t ∈ front, QuietToken postFromKeys t
  /-- The front is free of the keywords behind it, as it is not with an alias that is called like one. -/
  free : Free (isAnyWord postFromKeys) 0 front
  tailQuiet : ∀ t ∈ tail, QuietToken ["WHERE".toList] t
  tailFree : Free (isWord "WHERE".toList) 0 tail
  /-- The front stands by itself. -/
  stands : Stands x (indent ++ trimEnd (text front)) ⟨.blank, [' ']⟩ (lexemes front)

/-- What the code relies on where there is one, `w` behind `t`. -/
structure Conjoins (x : Lexis) (indent : List Char) (front : List Token) (t : Token) (w : List Token) : Prop where
  quiet : ∀ u ∈ front, QuietToken ["WHERE".toList] u
  free : Free (isWord "WHERE".toList) 0 front
  conditionQuiet : ∀ u ∈ w, QuietToken postWhereKeys u
  /-- The front and the condition stand by themselves. -/
  stands : Stands x (indent ++ text front ++ t.text ++ (text w).takeWhile isWhitespace) opening (lexemes front ++ [t])
  conditionStands : Stands x (trim (text w)) closing (lexemes w)

/-- The statements and the predicates that the code is right about. -/
structure Fits (x : Lexis) (s p : List Char) : Prop where
  nests : Nests 0 (tokensOf x s)
  /-- No placeholder runs into a word. -/
  apart : Apart (tokensOf x s)
  /-- There is a `FROM` clause. -/
  from_ : ¬ Free (isWord "FROM".toList) 0 (tokensOf x s)
  /-- What follows the condition begins with a keyword that the code knows. -/
  tail : ∀ t, (clausesOf (tokensOf x s)).tail.head? = some t → isAnyWord postWhereKeys t = true
  /-- What the code looks at is quiet, and what it writes behind stands by itself. -/
  insertion : match (clausesOf (tokensOf x s)).condition with
    | none => Appends x (s.takeWhile isWhitespace) (clausesOf (tokensOf x s)).front (clausesOf (tokensOf x s)).tail
    | some (t, w) => Conjoins x (s.takeWhile isWhitespace) (clausesOf (tokensOf x s)).front t w
  /-- So does the predicate, and its parentheses match. -/
  predicate : trim p ≠ [] ∧ Stands x (trim p) closing (predicateOf x p) ∧ Nests 0 (predicateOf x p)

/-! ## Blanks -/

theorem isKey_of_mem {key : List Char} (h : key ∈ postFromKeys) : IsKey key := by
  have hupper : postFromKeys.all (·.all (·.isUpper)) = true := rfl
  have hall : ∀ key ∈ postFromKeys, key ≠ [] := by decide
  exact ⟨List.all_eq_true.mp (List.all_eq_true.mp hupper key h), hall key h⟩

theorem isKey_of_postWhere {key : List Char} (h : key ∈ postWhereKeys) : IsKey key :=
  isKey_of_mem (List.mem_cons_of_mem "WHERE".toList h)

theorem not_isWhitespace_of_isAlphanum {c : Char} (h : c.isAlphanum = true) : isWhitespace c = false := by
  refine Bool.eq_false_iff.mpr fun hblank => ?_
  have hrange := range_of_isAlphanum h
  simp only [isWhitespace, Bool.or_eq_true, Bool.and_eq_true, decide_eq_true_eq, beq_iff_eq] at hblank
  omega

theorem head_of_key {t : Token} (h : isAnyWord postWhereKeys t = true) :
    ∃ c more, t.text = c :: more ∧ isWhitespace c = false := by
  obtain ⟨key, hmem, hkey⟩ := List.any_eq_true.mp h
  have hkeyed := isKey_of_postWhere hmem
  obtain ⟨c, more, htext⟩ := List.exists_cons_of_ne_nil (ne_nil_of_isWord hkeyed hkey)
  refine ⟨c, more, htext, not_isWhitespace_of_isAlphanum (isAlphanum_of_toUpper (hkeyed.upper _ ?_))⟩
  have hupper : toAsciiUppercase t.text = key := by simpa using (Bool.and_eq_true_iff.mp hkey).2
  rw [← hupper, htext]
  exact List.mem_cons_self

theorem head_of_quiet {keys : List (List Char)} {t : Token} (hquiet : QuietToken keys t) (hne : t.text ≠ [])
    (hkind : t.kind ≠ .blank) : ∃ c more, t.text = c :: more ∧ isWhitespace c = false := by
  obtain ⟨c, more, htext⟩ := List.exists_cons_of_ne_nil hne
  refine ⟨c, more, htext, ?_⟩
  by_cases hsymbol : t.kind = .symbol
  · exact ((hquiet.2.1 hsymbol).2 c (htext ▸ List.mem_cons_self)).2.2.2.2
  · have hhead := (hquiet.2.2 hkind hsymbol).2.2
    rw [htext] at hhead
    simpa using hhead

/-- The text of the tokens does not begin with a blank. -/
def Shown (ts : List Token) : Prop := ∀ t, ts.head? = some t → ∃ c more, t.text = c :: more ∧ isWhitespace c = false

theorem text_blanks {bs rest : List Token} (hbs : ∀ t ∈ bs, ∀ c ∈ t.text, isBlank c = true) (hrest : Shown rest) :
    (text (bs ++ rest)).takeWhile isWhitespace = text bs ∧ trimStart (text (bs ++ rest)) = text rest := by
  have hall : ∀ c ∈ text bs, isWhitespace c = true := by
    intro c hc
    obtain ⟨t, ht, hmem⟩ := List.mem_flatMap.mp hc
    exact isBlank_isWhitespace (hbs t ht c hmem)
  have htext : text (bs ++ rest) = text bs ++ text rest := List.flatMap_append
  have hstop : (text rest).takeWhile isWhitespace = [] ∧ (text rest).dropWhile isWhitespace = text rest := by
    cases rest with
    | nil => exact ⟨rfl, rfl⟩
    | cons t rest =>
      obtain ⟨c, more, hc, hblank⟩ := hrest t rfl
      have hcons : text (t :: rest) = c :: (more ++ text rest) := by
        show t.text ++ text rest = _
        rw [hc, List.cons_append]
      have hnot : ¬ isWhitespace c = true := by rw [hblank]; exact Bool.false_ne_true
      rw [hcons]
      exact ⟨List.takeWhile_cons_of_neg hnot, List.dropWhile_cons_of_neg hnot⟩
  unfold trimStart
  rw [htext, List.takeWhile_append_of_pos hall, List.dropWhile_append_of_pos hall, hstop.1, hstop.2, List.append_nil]
  exact ⟨rfl, rfl⟩

theorem trimStart_shown {ts : List Token} (h : Shown ts) : trimStart (text ts) = text ts :=
  (@text_blanks [] ts (fun _ ht => absurd ht List.not_mem_nil) h).2

theorem quietToken_mono {keys keys' : List (List Char)} (h : ∀ key ∈ keys', key ∈ keys) {t : Token}
    (hquiet : QuietToken keys t) : QuietToken keys' t :=
  ⟨hquiet.1, hquiet.2.1, fun hblank hsymbol => ⟨(hquiet.2.2 hblank hsymbol).1,
    fun key hkey => (hquiet.2.2 hblank hsymbol).2.1 key (h key hkey), (hquiet.2.2 hblank hsymbol).2.2⟩⟩

theorem apart_append {a b : List Token} (h : Apart (a ++ b)) : Apart b := by
  induction a with
  | nil => exact h
  | cons t a ih =>
    refine ih ?_
    rw [List.cons_append] at h
    cases hab : a ++ b with
    | nil => exact trivial
    | cons u more =>
      rw [hab] at h
      exact h.2

/-! ## What the code finds -/

variable {x : Lexis} {s p : List Char}

theorem text_lex (x : Lexis) (s : List Char) : text (lex x s) = s := flatMap_lex x s

theorem tokensOf_suffix (x : Lexis) (s : List Char) :
    lex x s = (lex x s).takeWhile (fun t => t.kind == .blank) ++ tokensOf x s := List.takeWhile_append_dropWhile.symm

theorem mem_tokensOf {t : Token} (h : t ∈ tokensOf x s) : t ∈ lex x s := (List.dropWhile_sublist _).subset h

theorem indent_blank {t : Token} (h : t ∈ (lex x s).takeWhile fun t => t.kind == .blank) :
    t.kind = .blank ∧ ∀ c ∈ t.text, isBlank c = true := by
  have hkind : t.kind = .blank := by simpa using List.mem_takeWhile_imp h
  obtain ⟨c, htext, hblank⟩ := blank_of_mem_lex ((List.takeWhile_sublist _).subset h) hkind
  refine ⟨hkind, fun a ha => ?_⟩
  rw [htext] at ha
  exact List.mem_singleton.mp ha ▸ hblank

theorem head_dropWhile {ts : List Token} {t : Token} (h : (ts.dropWhile fun t => t.kind == .blank).head? = some t) :
    t.kind ≠ .blank := by
  have hnot := List.head?_dropWhile_not (fun t : Token => t.kind == .blank) ts
  rw [h] at hnot
  simpa using hnot

theorem lexemes_blanks {bs : List Token} (h : ∀ t ∈ bs, t.kind = .blank) : lexemes bs = [] := by
  refine List.filter_eq_nil_iff.mpr fun t ht => ?_
  rw [h t ht]
  decide

theorem lexemes_tokensOf (x : Lexis) (s : List Char) : lexemes (lex x s) = lexemes (tokensOf x s) := by
  rw [tokensOf_suffix, lexemes_append, lexemes_blanks fun t ht => (indent_blank ht).1, List.nil_append]

theorem text_tokensOf (hhead : Shown (tokensOf x s)) :
    s.takeWhile isWhitespace = text ((lex x s).takeWhile fun t => t.kind == .blank) ∧
      trimStart s = text (tokensOf x s) := by
  have hblanks := @text_blanks ((lex x s).takeWhile fun t => t.kind == .blank) (tokensOf x s)
    (fun t ht => (indent_blank ht).2) hhead
  rw [← tokensOf_suffix, text_lex] at hblanks
  exact hblanks

/-- The first of the keywords is found if one is found there, and none in front of it.  Induction on the keywords. -/
theorem foldl_earliest {keys : List (List Char)} {s : List Char} {n : Nat}
    (hlow : ∀ key ∈ keys, ∀ i, findTopLevelKeyword key s = some i → n ≤ i) {best : Option Nat}
    (hbest : ∀ b, best = some b → n ≤ b) (hhit : best = some n ∨ ∃ key ∈ keys, findTopLevelKeyword key s = some n) :
    keys.foldl (earliest s) best = some n := by
  induction keys generalizing best with
  | nil =>
    rcases hhit with hhit | ⟨key, hkey, _⟩
    · exact hhit
    · exact absurd hkey List.not_mem_nil
  | cons key keys ih =>
    have hlow' : ∀ k ∈ keys, ∀ i, findTopLevelKeyword k s = some i → n ≤ i := fun k hk => hlow k (List.mem_cons_of_mem key hk)
    rw [List.foldl_cons]
    unfold earliest
    cases hfind : findTopLevelKeyword key s with
    | none =>
      refine ih hlow' hbest (hhit.imp id ?_)
      rintro ⟨k, hk, hfound⟩
      rcases List.mem_cons.mp hk with rfl | hk
      · rw [hfind] at hfound
        cases hfound
      · exact ⟨k, hk, hfound⟩
    | some i =>
      have hi : n ≤ i := hlow key List.mem_cons_self i hfind
      have hmore : i = n ∨ best = some n ∨ ∃ k ∈ keys, findTopLevelKeyword k s = some n := by
        rcases hhit with hhit | ⟨k, hk, hfound⟩
        · exact .inr (.inl hhit)
        · rcases List.mem_cons.mp hk with rfl | hk
          · rw [hfind] at hfound
            exact .inl (Option.some.inj hfound)
          · exact .inr (.inr ⟨k, hk, hfound⟩)
      cases best with
      | none =>
        refine ih hlow' (fun b hb => Option.some.inj hb ▸ hi) ?_
        rcases hmore with rfl | hmore | hmore
        · exact .inl rfl
        · cases hmore
        · exact .inr hmore
      | some b =>
        have hb : n ≤ b := hbest b rfl
        refine ih hlow' (fun m hm => ?_) ?_
        · obtain rfl : min b i = m := Option.some.inj hm
          omega
        · rcases hmore with rfl | hmore | hmore
          · exact .inl (congrArg some (show min b i = i by omega))
          · obtain rfl := Option.some.inj hmore
            exact .inl (congrArg some (show min b i = b by omega))
          · exact .inr hmore

theorem foldl_earliest_none {keys : List (List Char)} {s : List Char} (h : ∀ key ∈ keys, findTopLevelKeyword key s = none) :
    keys.foldl (earliest s) none = none := by
  induction keys with
  | nil => rfl
  | cons key keys ih =>
    rw [List.foldl_cons]
    unfold earliest
    rw [h key List.mem_cons_self]
    exact ih fun k hk => h k (List.mem_cons_of_mem key hk)

theorem boundary_cut {keys : List (List Char)} (hkeys : ∀ key ∈ keys, IsKey key) {a tail : List Token}
    (hquiet : ∀ t ∈ a, QuietToken keys t) (happart : Apart (a ++ tail)) (hne : ∀ t ∈ a ++ tail, t.text ≠ [])
    (hnests : Nests 0 (a ++ tail)) (hfree : Free (isAnyWord keys) 0 a)
    (htail : ∀ t, tail.head? = some t → isAnyWord keys t = true ∧ level 0 a = 0) :
    (text (a ++ tail)).take ((findBoundary keys (text (a ++ tail))).getD (text (a ++ tail)).length) = text a ∧
      (text (a ++ tail)).drop ((findBoundary keys (text (a ++ tail))).getD (text (a ++ tail)).length) = text tail := by
  have hfreeKey : ∀ key ∈ keys, Free (isWord key) 0 a := fun key hkey =>
    free_mono (fun t ht => List.any_eq_true.mpr ⟨key, hkey, ht⟩) hfree
  have hpassed := fun key (hkey : key ∈ keys) =>
    find_tokens hkey (hkeys key hkey) hquiet happart hne (Int.le_refl 0) hnests (hfreeKey key hkey) none
  have htext : text (a ++ tail) = text a ++ text tail := List.flatMap_append
  cases tail with
  | nil =>
    have hnone : findBoundary keys (text (a ++ [])) = none := foldl_earliest_none fun key hkey => hpassed key hkey
    rw [hnone, List.append_nil]
    exact ⟨List.take_length, List.drop_length⟩
  | cons t tail =>
    obtain ⟨hword, hlevel⟩ := htail t rfl
    obtain ⟨key, hkey, ht⟩ := List.any_eq_true.mp hword
    have hfound : findBoundary keys (text (a ++ t :: tail)) = some (text a).length := by
      refine foldl_earliest (fun k hk i hi => ?_) (fun b hb => (nomatch hb)) (.inr ⟨key, hkey, ?_⟩)
      · have hmap := (hpassed k hk).symm.trans hi
        obtain ⟨j, _, rfl⟩ := Option.map_eq_some_iff.mp hmap
        exact Nat.le_add_left _ j
      · exact find_at hkey (hkeys key hkey) ht hquiet happart hne hnests (hfreeKey key hkey) hlevel
    rw [hfound, Option.getD_some, htext, List.take_left, List.drop_left]
    exact ⟨rfl, rfl⟩

/-! ## What is read of what the code writes -/

theorem Stands.reads {u : List Char} {d : Token} {ts : List Token} (h : Stands x u d ts) {c : Char} (hd : d.text = [c])
    (hbarrier : IsBarrier c) : ∃ us, lexemes us = ts ∧ ∃ after, ∀ rest, lexFrom x .other (u ++ c :: rest) =
      us ++ lexFrom x after (c :: rest) := by
  obtain ⟨us, hread, hlexemes⟩ := h
  obtain ⟨kind, dtext⟩ := d
  obtain rfl : dtext = [c] := hd
  obtain ⟨after, hmore⟩ := lexFrom_barrier hbarrier hread
  exact ⟨us, hlexemes, after, hmore⟩

theorem Stands.reads_opening {u : List Char} {ts : List Token} (h : Stands x u opening ts) (rest : List Char) :
    lexemes (lexFrom x .other (u ++ '(' :: rest)) = ts ++ opening :: lexemes (lexFrom x .other rest) := by
  obtain ⟨us, hus, after, hread⟩ := h.reads (c := '(') rfl (.inr (.inl rfl))
  rw [hread, lexFrom_opening, lexemes_append, hus]
  rfl

theorem Stands.reads_closing {u : List Char} {ts : List Token} (h : Stands x u closing ts) (rest : List Char) :
    lexemes (lexFrom x .other (u ++ ')' :: rest)) = ts ++ closing :: lexemes (lexFrom x .other rest) := by
  obtain ⟨us, hus, after, hread⟩ := h.reads (c := ')') rfl (.inr (.inr rfl))
  rw [hread, lexFrom_closing, lexemes_append, hus]
  rfl

theorem Stands.reads_blank {u : List Char} {ts : List Token} (h : Stands x u ⟨.blank, [' ']⟩ ts) (rest : List Char) :
    ∃ after, lexemes (lexFrom x .other (u ++ ' ' :: rest)) = ts ++ lexemes (lexFrom x after rest) := by
  obtain ⟨us, hus, after, hread⟩ := h.reads (c := ' ') rfl (.inl rfl)
  refine ⟨after.blank false, ?_⟩
  rw [hread, lexFrom_space, lexemes_append, hus]
  rfl

theorem reads_tail {a tail : List Token} (hab : lex x s = a ++ tail)
    (hword : ∀ t, tail.head? = some t → t.kind = .word) :
    lexemes (lexFrom x .other (tailText (text tail))) = lexemes tail := by
  cases tail with
  | nil => rfl
  | cons t tail =>
    obtain ⟨after, hread⟩ := lexFrom_suffix hab
    have hne : t.text ≠ [] := text_ne_nil (x := x) (s := s) (hab ▸ List.mem_append_right a List.mem_cons_self)
    have hfull : (text (t :: tail)).isEmpty = false := by
      obtain ⟨c, more, hc⟩ := List.exists_cons_of_ne_nil hne
      show (t.text ++ text tail).isEmpty = false
      rw [hc]
      rfl
    unfold tailText
    have hsame : lexFrom x .other (text (t :: tail)) = t :: tail := lexFrom_of_word (hword t rfl) hread
    rw [if_neg (by rw [hfull]; exact Bool.false_ne_true), lexFrom_space]
    show lexemes (lexFrom x .other (text (t :: tail))) = _
    rw [hsame]

theorem reads_and (rest : List Char) :
    lexemes (lexFrom x .other (" AND (".toList ++ rest)) = and_ :: opening :: lexemes (lexFrom x .other rest) := by
  show lexemes (lexFrom x .other (' ' :: 'A' :: (['N', 'D'] ++ ' ' :: '(' :: rest))) = _
  rw [lexFrom_space, lexFrom_word rfl (by decide) (List.all_eq_true.mp rfl), lexFrom_space, lexFrom_opening]
  rfl

theorem reads_where (after : After) (rest : List Char) : lexemes (lexFrom x after ("WHERE (".toList ++ rest)) =
      ⟨.word, "WHERE".toList⟩ :: opening :: lexemes (lexFrom x .other rest) := by
  show lexemes (lexFrom x after ('W' :: (['H', 'E', 'R', 'E'] ++ ' ' :: '(' :: rest))) = _
  rw [lexFrom_word rfl (by decide) (List.all_eq_true.mp rfl), lexFrom_space, lexFrom_opening]
  rfl

/-! ## The conjunction -/

theorem conjoin_free {w : Option (List Token)} {q : List Token} (hw : ∀ v, w = some v → Nests 0 v) (hq : Nests 0 q) :
    Free endsClause 0 (conjoin w q) ∧ level 0 (conjoin w q) = 0 := by
  obtain ⟨hfreeq, hlevelq⟩ := free_group (p := endsClause) (by decide) hq
  cases w with
  | none => exact ⟨hfreeq, hlevelq⟩
  | some v =>
    obtain ⟨hfreev, hlevelv⟩ := free_group (p := endsClause) (by decide) (hw v rfl)
    have hsplit : conjoin (some v) q = (opening :: v ++ [closing]) ++ and_ :: (opening :: q ++ [closing]) := by
      simp [conjoin]
    rw [hsplit]
    constructor
    · rw [free_append, hlevelv, free_cons]
      exact ⟨hfreev, fun hand => absurd hand.2 (by decide), hfreeq⟩
    · rw [level_append, hlevelv]
      exact hlevelq

/-- **The rows**: the old condition of the rows with the predicate. -/
theorem rows_conjoin {Row Result : Type} (m : Meaning Row Result) {front tail : List Token} {t t' : Token}
    {w : Option (List Token)} {q : List Token} (hw : ∀ v, w = some v → Nests 0 v) (hq : Nests 0 q) (table : List Row) :
    m.rows ⟨front, some (t', conjoin w q), tail⟩ table =
      m.rows ⟨front, w.map fun v => (t, v), tail⟩ (table.filter (m.holds q)) := by
  unfold Meaning.rows
  cases w with
  | none =>
    show m.answer front tail (table.filter (m.holds (opening :: q ++ [closing]))) = m.answer front tail _
    congr 1
    exact List.filter_congr fun r _ => m.holds_group q r hq
  | some v =>
    show m.answer front tail (table.filter (m.holds (conjoin (some v) q))) =
      m.answer front tail ((table.filter (m.holds q)).filter (m.holds v))
    congr 1
    rw [List.filter_filter]
    exact List.filter_congr fun r _ => m.holds_and v q r (hw v rfl) hq

/-! ## The two ways to put it in -/

theorem kind_of_isAnyWord {keys : List (List Char)} {t : Token} (h : isAnyWord keys t = true) : t.kind = .word := by
  obtain ⟨key, _, hkey⟩ := List.any_eq_true.mp h
  simpa using (Bool.and_eq_true_iff.mp hkey).1

theorem endsClause_of_postWhere {t : Token} (h : isAnyWord postWhereKeys t = true) : endsClause t = true := by
  obtain ⟨key, hkey, ht⟩ := List.any_eq_true.mp h
  have hall : ∀ key ∈ postWhereKeys, key ∈ tailWords := by decide
  exact Bool.or_eq_true_iff.mpr (.inl (List.any_eq_true.mpr ⟨key, hall key hkey, ht⟩))

theorem postFrom_of_where {t : Token} (h : isWord "WHERE".toList t = true) : isAnyWord postFromKeys t = true :=
  Bool.or_eq_true_iff.mpr (.inl h)

theorem postFrom_of_postWhere {t : Token} (h : isAnyWord postWhereKeys t = true) : isAnyWord postFromKeys t = true :=
  Bool.or_eq_true_iff.mpr (.inr h)

theorem inject_cases {s' : List Char} (hp : trim p ≠ []) (hs : injectRowFilter s p = .ok (some s')) :
    (∃ i, findTopLevelKeyword "WHERE".toList (trimStart s) = some i ∧
        conjoinWhere (s.takeWhile isWhitespace) (trim p) (trimStart s) i = .ok s') ∨
      findTopLevelKeyword "WHERE".toList (trimStart s) = none ∧
        s' = appendWhere (s.takeWhile isWhitespace) (trim p) (trimStart s) := by
  unfold injectRowFilter at hs
  dsimp only at hs
  rw [if_neg fun hempty => hp (List.isEmpty_iff.mp hempty)] at hs
  split at hs
  · cases hs
  split at hs
  · cases hs
  cases hfrom : findTopLevelKeyword "FROM".toList (trimStart s) with
  | none =>
    rw [hfrom] at hs
    cases hs
  | some f =>
    rw [hfrom] at hs
    dsimp only at hs
    cases hwhere : findTopLevelKeyword "WHERE".toList (trimStart s) with
    | none =>
      rw [hwhere] at hs
      exact .inr ⟨rfl, (Option.some.inj (Except.ok.inj hs)).symm⟩
    | some i =>
      rw [hwhere] at hs
      obtain ⟨new, hnew, hsome⟩ := Fallible.map_eq_ok.mp hs
      obtain rfl := Option.some.inj hsome
      exact .inl ⟨i, rfl, hnew⟩

theorem takeBytes_blanks {b : List Char} (hb : ∀ c ∈ b, isBlank c = true) (rest : List Char) :
    takeBytes b.length (b ++ rest) = some b := by
  induction b with
  | nil => rw [List.length_nil, takeBytes]
  | cons c b ih =>
    have hsize : c.utf8Size = 1 := by
      have hblank := hb c List.mem_cons_self
      refine utf8Size_ascii ?_
      simp only [isBlank, Bool.or_eq_true, Bool.and_eq_true, decide_eq_true_eq, beq_iff_eq] at hblank
      rcases hblank with rfl | hrange
      · decide
      · omega
    rw [List.cons_append, List.length_cons, takeBytes, hsize, if_pos (Nat.le_add_left 1 _), Nat.add_sub_cancel,
      ih fun a ha => hb a (List.mem_cons_of_mem c ha)]
    rfl

theorem shown_of_quiet {keys : List (List Char)} {a b c : List Token} (hab : tokensOf x s = a ++ (b ++ c))
    (hquiet : ∀ t ∈ b, QuietToken keys t) (hb : ∀ t, b.head? = some t → t.kind ≠ .blank) (hc : b = [] → Shown c) :
    Shown (b ++ c) := by
  cases b with
  | nil => exact hc rfl
  | cons t b =>
    intro u hu
    obtain rfl := Option.some.inj hu
    have hmem : t ∈ tokensOf x s := hab ▸ List.mem_append_right a List.mem_cons_self
    exact head_of_quiet (hquiet t List.mem_cons_self) (text_ne_nil (mem_tokensOf hmem)) (hb t rfl)

theorem level_blanks {bs : List Token} (h : ∀ t ∈ bs, t.kind = .blank) : level 0 bs = 0 := by
  induction bs with
  | nil => rfl
  | cons t bs ih =>
    show level (0 + delta t) bs = 0
    rw [delta_of_kind (by rw [h t List.mem_cons_self]; decide), Int.add_zero]
    exact ih fun u hu => h u (List.mem_cons_of_mem t hu)

theorem shown_tokensOf {keys : List (List Char)} {head from_ rest : List Token} (hfront : Front head from_)
    (hts : tokensOf x s = head ++ from_ ++ rest) (hquiet : ∀ t ∈ head ++ from_, QuietToken keys t) :
    Shown (tokensOf x s) := by
  obtain ⟨f, more, hmore, _⟩ := hfront.first
  have hhead : ∀ t, (head ++ from_).head? = some t → t.kind ≠ .blank := by
    intro t ht
    refine @head_dropWhile (lex x s) t ?_
    show (tokensOf x s).head? = some t
    rw [hts, List.head?_append, ht]
    rfl
  rw [hts]
  refine @shown_of_quiet x s keys [] _ rest hts hquiet hhead fun hnil => ?_
  rw [hmore] at hnil
  exact absurd hnil (by simp)

theorem level_front {head from_ : List Token} (hfront : Front head from_) (hlevel : level 0 from_ = 0) :
    level 0 (head ++ from_) = 0 := by
  rw [level_append, hfront.headLevel, hlevel]

/-- **Without a condition.** -/
theorem inject_noWhere (h : Fits x s p) {head from_ tail : List Token} (hfront : Front head from_)
    (hts : tokensOf x s = head ++ (from_ ++ tail))
    (htail : ∀ u, tail.head? = some u → isWord "WHERE".toList u = false ∧ endsClause u = true ∧ level 0 from_ = 0)
    {s' : List Char} (hs : injectRowFilter s p = .ok (some s')) :
    lexemes (lex x s') = lexemes head ++ (lexemes from_ ++
      ⟨.word, "WHERE".toList⟩ :: ((opening :: predicateOf x p ++ [closing]) ++ lexemes tail)) := by
  have hparts := clausesOf_noWhere hfront htail
  rw [← hts] at hparts
  have hkeys := h.tail
  have happends := h.insertion
  have hnests := h.nests
  have happart := h.apart
  have hne : ∀ t ∈ tokensOf x s, t.text ≠ [] := fun t ht => text_ne_nil (mem_tokensOf ht)
  rw [hparts] at hkeys happends
  obtain ⟨hquiet, hfree, htailQuiet, htailFree, hstands⟩ := happends
  have hlevel : ∀ t, tail.head? = some t → isAnyWord postFromKeys t = true ∧ level 0 (head ++ from_) = 0 := fun t ht =>
    ⟨postFrom_of_postWhere (hkeys t ht), level_front hfront (htail t ht).2.2⟩
  rw [← List.append_assoc] at hts
  obtain ⟨_, htext⟩ := text_tokensOf (shown_tokensOf hfront hts hquiet)
  rw [hts] at hnests happart hne htext
  -- no `WHERE` is found
  have hwhere : findTopLevelKeyword "WHERE".toList (trimStart s) = none := by
    have hquiet' : ∀ t ∈ head ++ from_ ++ tail, QuietToken ["WHERE".toList] t := by
      intro t ht
      rcases List.mem_append.mp ht with ht | ht
      · exact quietToken_mono (by decide) (hquiet t ht)
      · exact htailQuiet t ht
    have hfree' : Free (isWord "WHERE".toList) 0 (head ++ from_ ++ tail) := by
      refine free_append.mpr ⟨free_mono (fun t => postFrom_of_where) hfree, ?_⟩
      cases tail with
      | nil => rfl
      | cons t tail =>
        rw [(hlevel t rfl).2]
        exact htailFree
    have hpassed := @find_tokens ["WHERE".toList] "WHERE".toList List.mem_cons_self (isKey_of_mem (by decide))
      (head ++ from_ ++ tail) [] hquiet'
    rw [List.append_nil] at hpassed
    rw [htext]
    exact hpassed happart hne (Int.le_refl 0) hnests hfree' none
  obtain ⟨htake, hdrop⟩ := boundary_cut (fun key => isKey_of_mem) hquiet happart hne hnests hfree hlevel
  rcases inject_cases h.predicate.1 hs with ⟨i, hi, _⟩ | ⟨_, hs'⟩
  · rw [hwhere] at hi
    cases hi
  · unfold appendWhere at hs'
    dsimp only at hs'
    rw [htext, htake, hdrop, trimStart_shown fun t ht => head_of_key (hkeys t ht)] at hs'
    obtain ⟨after, hread⟩ := hstands.reads_blank ("WHERE (".toList ++ (trim p ++ ')' :: tailText (text tail)))
    have hsuffix : lex x s = (lex x s).takeWhile (fun t => t.kind == .blank) ++ (head ++ from_) ++ tail :=
      (tokensOf_suffix x s).trans (by rw [hts]; simp only [List.append_assoc])
    have hs'' : s' = s.takeWhile isWhitespace ++ trimEnd (text (head ++ from_)) ++
        ' ' :: ("WHERE (".toList ++ (trim p ++ ')' :: tailText (text tail))) := by
      rw [hs']
      simp only [List.append_assoc]
      rfl
    rw [hs'']
    show lexemes (lexFrom x .other _) = _
    rw [hread, reads_where, h.predicate.2.1.reads_closing,
      reads_tail hsuffix fun t ht => kind_of_isAnyWord (hkeys t ht), lexemes_append]
    simp only [List.append_assoc, List.cons_append, List.nil_append]

/-- **With a condition.** -/
theorem inject_where (h : Fits x s p) {head from_ w tail : List Token} {t : Token} (hfront : Front head from_)
    (hts : tokensOf x s = head ++ (from_ ++ t :: (w ++ tail))) (hlevel : level 0 from_ = 0)
    (ht : isWord "WHERE".toList t = true) (hw : Free endsClause 0 w)
    (htail : ∀ u, tail.head? = some u → endsClause u = true ∧ level 0 w = 0)
    {s' : List Char} (hs : injectRowFilter s p = .ok (some s')) :
    lexemes (lex x s') = lexemes head ++ (lexemes from_ ++ t ::
      (((opening :: lexemes w ++ [closing, and_]) ++ (opening :: predicateOf x p ++ [closing])) ++ lexemes tail)) := by
  have hparts := clausesOf_where hfront hlevel ht hw htail
  rw [← hts] at hparts
  have hkeys := h.tail
  have hconjoins := h.insertion
  have hnests := h.nests
  have happart := h.apart
  have hne : ∀ t ∈ tokensOf x s, t.text ≠ [] := fun t ht => text_ne_nil (mem_tokensOf ht)
  rw [hparts] at hkeys hconjoins
  obtain ⟨hquiet, hfree, hwQuiet, hfrontStands, hconditionStands⟩ := hconjoins
  have hfrontLevel := level_front hfront hlevel
  have htkind : t.kind = .word := by simpa using (Bool.and_eq_true_iff.mp ht).1
  have htlen : t.text.length = 5 := by
    have hupper : toAsciiUppercase t.text = "WHERE".toList := by simpa using (Bool.and_eq_true_iff.mp ht).2
    have hlen := congrArg List.length hupper
    simpa [toAsciiUppercase] using hlen
  rw [← List.append_assoc] at hts
  obtain ⟨_, htext⟩ := text_tokensOf (shown_tokensOf hfront hts hquiet)
  -- the blanks behind the keyword, and the condition without them
  obtain ⟨wl, w', hsplit, hwl, hw'⟩ : ∃ wl w', w = wl ++ w' ∧ (∀ u ∈ wl, u.kind = .blank) ∧
      ∀ u, w'.head? = some u → u.kind ≠ .blank :=
    ⟨w.takeWhile fun u => u.kind == .blank, w.dropWhile fun u => u.kind == .blank, List.takeWhile_append_dropWhile.symm,
      fun u hu => by simpa using List.mem_takeWhile_imp hu, fun u hu => head_dropWhile hu⟩
  subst hsplit
  have hwQuiet' : ∀ u ∈ w', QuietToken postWhereKeys u := fun u hu => hwQuiet u (List.mem_append_right wl hu)
  have hrest : tokensOf x s = head ++ from_ ++ t :: wl ++ (w' ++ tail) := by
    rw [hts]
    simp only [List.append_assoc, List.cons_append]
  have hwlBlank : ∀ u ∈ wl, ∀ c ∈ u.text, isBlank c = true := fun u hu =>
    (hwQuiet u (List.mem_append_left w' hu)).1 (hwl u hu)
  have hwlLevel : level 0 wl = 0 := level_blanks hwl
  have hrestLevel : level 0 (head ++ from_ ++ t :: wl) = 0 := by
    rw [level_append, hfrontLevel]
    show level (0 + delta t) wl = 0
    rw [delta_of_kind (by rw [htkind]; decide), Int.add_zero, hwlLevel]
  have htailShown : Shown tail := fun u hu => head_of_key (hkeys u hu)
  have hwhere : findTopLevelKeyword "WHERE".toList (trimStart s) = some (text (head ++ from_)).length := by
    rw [htext, hts]
    rw [hts] at happart hne hnests
    exact find_at List.mem_cons_self (isKey_of_mem (by decide)) ht hquiet happart hne hnests hfree hfrontLevel
  have hrestShown : Shown (w' ++ tail) := shown_of_quiet hrest hwQuiet' hw' fun _ => htailShown
  have hwShown : Shown w' := by
    intro u hu
    refine hrestShown u ?_
    rw [List.head?_append, hu]
    rfl
  obtain ⟨hlead, _⟩ := text_blanks hwlBlank hrestShown
  obtain ⟨hleadw, htrimw⟩ := text_blanks hwlBlank hwShown
  have htrim : trimEnd (text w') = trim (text (wl ++ w')) := by
    unfold trim
    rw [htrimw]
  have htrimmed : trimStart s = text (head ++ from_) ++ t.text ++ text (wl ++ (w' ++ tail)) := by
    rw [htext, hrest]
    simp only [text, List.flatMap_append, List.flatMap_cons, List.append_assoc]
  have hlen : (text (head ++ from_)).length + 5 = (text (head ++ from_) ++ t.text).length := by
    rw [List.length_append, htlen]
  have hfreew : Free (isAnyWord postWhereKeys) 0 w' := by
    have hends := (free_append.mp hw).2
    rw [hwlLevel] at hends
    exact free_mono (fun t => endsClause_of_postWhere) hends
  have hlevelw : level 0 (wl ++ w') = level 0 w' := by rw [level_append, hwlLevel]
  obtain ⟨htake, hdrop⟩ := boundary_cut (fun key => isKey_of_postWhere) hwQuiet' (apart_append (hrest ▸ happart))
    (fun u hu => hne u (hrest ▸ List.mem_append_right _ hu)) (hrestLevel ▸ nests_append (hrest ▸ hnests)) hfreew
    fun u hu => ⟨hkeys u hu, hlevelw ▸ (htail u hu).2⟩
  rcases inject_cases h.predicate.1 hs with ⟨i, hi, hs'⟩ | ⟨hnone, _⟩
  · obtain rfl : (text (head ++ from_)).length = i := Option.some.inj (hwhere.symm.trans hi)
    unfold conjoinWhere at hs'
    dsimp only at hs'
    rw [hlen, htrimmed, List.drop_left, List.take_left, hlead] at hs'
    have hbytes : takeBytes (text wl).length (text (wl ++ (w' ++ tail))) = some (text wl) := by
      rw [show text (wl ++ (w' ++ tail)) = text wl ++ text (w' ++ tail) from List.flatMap_append]
      refine takeBytes_blanks (fun c hc => ?_) _
      obtain ⟨u, hu, hmem⟩ := List.mem_flatMap.mp hc
      exact hwlBlank u hu c hmem
    rw [hbytes] at hs'
    dsimp only at hs'
    rw [show text (wl ++ (w' ++ tail)) = text wl ++ text (w' ++ tail) from List.flatMap_append, List.drop_left, htake,
      hdrop, trimStart_shown htailShown, htrim] at hs'
    rw [hleadw] at hfrontStands
    have hsuffix : lex x s = (lex x s).takeWhile (fun t => t.kind == .blank) ++ (head ++ from_ ++ t :: (wl ++ w')) ++ tail :=
      (tokensOf_suffix x s).trans (by rw [hrest]; simp only [List.append_assoc, List.cons_append])
    have hs'' : s' = s.takeWhile isWhitespace ++ text (head ++ from_) ++ t.text ++ text wl ++
        '(' :: (trim (text (wl ++ w')) ++ ')' :: (" AND (".toList ++ (trim p ++ ')' :: tailText (text tail)))) := by
      rw [← Except.ok.inj hs']
      simp only [List.append_assoc]
      rfl
    rw [hs'']
    show lexemes (lexFrom x .other _) = _
    rw [hfrontStands.reads_opening, hconditionStands.reads_closing, reads_and, h.predicate.2.1.reads_closing,
      reads_tail hsuffix fun t ht => kind_of_isAnyWord (hkeys t ht), lexemes_append]
    simp only [List.append_assoc, List.cons_append, List.nil_append]
  · rw [hwhere] at hnone
    cases hnone

/-! ## The result -/

theorem restricts_of_parts (hq : Nests 0 (predicateOf x p)) {front tail : List Token} {t t' : Token}
    {w : Option (List Token)} (hw : ∀ v, w = some v → Nests 0 v) {s' : List Char}
    (hs : partsOf x s = ⟨front, w.map fun v => (t, v), tail⟩)
    (hs' : partsOf x s' = ⟨front, some (t', conjoin w (predicateOf x p)), tail⟩) : Restricts x s p s' := by
  have hsnd : (w.map fun v => (t, v)).map Prod.snd = w := by
    cases w with
    | none => rfl
    | some v => rfl
  refine ⟨by rw [hs, hs'], ?_, by rw [hs, hs'], fun m table => ?_⟩
  · rw [hs, hs']
    dsimp only
    rw [hsnd]
    rfl
  · rw [hs, hs']
    exact rows_conjoin m hw hq table

theorem level_whole {ts : List Token} (h : Nests 0 ts) : level 0 ts = 0 := level_of_nests (d := 0) (e := 0) h

theorem head_lexemes {tail : List Token} (h : ∀ u, tail.head? = some u → endsClause u = true) :
    (lexemes tail).head? = tail.head? := by
  cases tail with
  | nil => rfl
  | cons u tail => rw [lexemes_cons_pos (isLexeme_of_endsClause (h u rfl)), List.head?_cons, List.head?_cons]

theorem partsOf_eq (x : Lexis) (s : List Char) : partsOf x s = (clausesOf (tokensOf x s)).lexemes := by
  unfold partsOf
  rw [lexemes_tokensOf, clausesOf_lexemes]

theorem parts_conjoin (hq : Nests 0 (predicateOf x p)) {head from_ tail : List Token} {t : Token} {w : Option (List Token)}
    (hfront : Front head from_) (hlevel : level 0 from_ = 0) (ht : isWord "WHERE".toList t = true)
    (hw : ∀ v, w = some v → Nests 0 v) (htail : ∀ u, tail.head? = some u → endsClause u = true) {s' : List Char}
    (hread : lexemes (lex x s') =
      lexemes head ++ (lexemes from_ ++ t :: (conjoin w (predicateOf x p) ++ lexemes tail))) :
    partsOf x s' = ⟨lexemes head ++ lexemes from_, some (t, conjoin w (predicateOf x p)), lexemes tail⟩ := by
  obtain ⟨hfree, hlevelq⟩ := conjoin_free hw hq
  unfold partsOf
  rw [hread]
  refine clausesOf_where hfront.lexemes ((level_lexemes 0 from_).trans hlevel) ht hfree fun u hu => ?_
  rw [head_lexemes htail] at hu
  exact ⟨htail u hu, hlevelq⟩

end DataNexus.Pdp.RowFilter
