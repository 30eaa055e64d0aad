/-
  The clauses of a statement, as a server reads them, and what the scanner of the policy engine sees of them.

  1. **Specification** — `clausesOf` cuts the tokens of a statement at the keywords of its top level: the front up to the
     end of the `FROM` clause, the condition, and the rest.

  2. **Agreement** — a token is `Quiet` if the scanner sees nothing in it: it ends where it begins, no parenthesis is
     unmatched, and no keyword is found but the one the token is.

  3. **The crux** — `find_tokens`: the scanner passes over quiet tokens, and finds the keyword behind them (`find_at`).
-/
import DataNexus.Lib.SqlText
import DataNexus.Pdp.TopLevel

namespace DataNexus.Pdp.Clauses

open DataNexus.Pdp.TopLevel DataNexus.SqlText DataNexus.Text

/-! ## Tokens -/

def opening : Token := ⟨.symbol, ['(']⟩

def closing : Token := ⟨.symbol, [')']⟩

def delta (t : Token) : Int := if t = opening then 1 else if t = closing then -1 else 0

def isWord (key : List Char) (t : Token) : Bool := t.kind == .word && toAsciiUppercase t.text == key

def isAnyWord (keys : List (List Char)) (t : Token) : Bool := keys.any fun key => isWord key t

def text (ts : List Token) : List Char := ts.flatMap Token.text

def lexemes (ts : List Token) : List Token := ts.filter fun t => t.kind != .blank && t.kind != .comment

def Nests : Int → List Token → Prop
  | d, [] => d = 0
  | d, t :: ts => 0 ≤ d + delta t ∧ Nests (d + delta t) ts

instance decidableNests : (d : Int) → (ts : List Token) → Decidable (Nests d ts)
  | d, [] => inferInstanceAs (Decidable (d = 0))
  | d, t :: ts =>
    have := decidableNests (d + delta t) ts
    inferInstanceAs (Decidable (0 ≤ d + delta t ∧ Nests (d + delta t) ts))

/-! ## Cuts -/

/-- Cut in front of the first such token outside parentheses. -/
def splitTop (p : Token → Bool) : Int → List Token → List Token × List Token
  | _, [] => ([], [])
  | d, t :: ts =>
    if d = 0 ∧ p t = true then ([], t :: ts)
    else (t :: (splitTop p (d + delta t) ts).1, (splitTop p (d + delta t) ts).2)

theorem splitTop_append (p : Token → Bool) (d : Int) (ts : List Token) : (splitTop p d ts).1 ++ (splitTop p d ts).2 = ts := by
  induction ts generalizing d with
  | nil => rfl
  | cons t ts ih =>
    unfold splitTop
    split
    · rfl
    · exact congrArg (t :: ·) (ih (d + delta t))

def level : Int → List Token → Int
  | d, [] => d
  | d, t :: ts => level (d + delta t) ts

theorem level_append (d : Int) (a b : List Token) : level d (a ++ b) = level (level d a) b := by
  induction a generalizing d with
  | nil => rfl
  | cons t a ih => exact ih (d + delta t)

def Free (p : Token → Bool) (d : Int) (ts : List Token) : Prop := (splitTop p d ts).2 = []

instance (p : Token → Bool) (d : Int) (ts : List Token) : Decidable (Free p d ts) :=
  inferInstanceAs (Decidable ((splitTop p d ts).2 = []))

variable {p : Token → Bool} {d : Int} {t : Token} {ts a b from_ : List Token} {c : Char} {before' : Option Char}
  {s : List Char}

theorem free_cons : Free p d (t :: ts) ↔ ¬ (d = 0 ∧ p t = true) ∧ Free p (d + delta t) ts := by
  unfold Free
  rw [splitTop]
  by_cases h : d = 0 ∧ p t = true
  · rw [if_pos h]
    exact ⟨fun hnil => (nomatch hnil), fun hno => absurd h hno.1⟩
  · rw [if_neg h]
    exact ⟨fun hfree => ⟨h, hfree⟩, fun hfree => hfree.2⟩

theorem free_mono {q : Token → Bool} (h : ∀ t, q t = true → p t = true) (hfree : Free p d ts) : Free q d ts := by
  induction ts generalizing d with
  | nil => rfl
  | cons t ts ih =>
    obtain ⟨hno, hmore⟩ := free_cons.mp hfree
    exact free_cons.mpr ⟨fun hq => hno ⟨hq.1, h t hq.2⟩, ih hmore⟩

theorem splitTop_append_free (h : Free p d a) (b : List Token) :
    splitTop p d (a ++ b) = (a ++ (splitTop p (level d a) b).1, (splitTop p (level d a) b).2) := by
  induction a generalizing d with
  | nil => rfl
  | cons t a ih =>
    obtain ⟨hno, hmore⟩ := free_cons.mp h
    rw [List.cons_append, splitTop, if_neg hno, ih hmore]
    rfl

theorem free_append : Free p d (a ++ b) ↔ Free p d a ∧ Free p (level d a) b := by
  induction a generalizing d with
  | nil => exact ⟨fun h => ⟨rfl, h⟩, fun h => h.2⟩
  | cons t a ih =>
    rw [List.cons_append, free_cons, free_cons, ih, and_assoc]
    rfl

theorem splitTop_spec (p : Token → Bool) (d : Int) (ts : List Token) : Free p d (splitTop p d ts).1 ∧
      ∀ t b, (splitTop p d ts).2 = t :: b → p t = true ∧ level d (splitTop p d ts).1 = 0 := by
  induction ts generalizing d with
  | nil => exact ⟨rfl, fun t b h => (nomatch h)⟩
  | cons u ts ih =>
    rw [splitTop]
    by_cases hp : d = 0 ∧ p u = true
    · rw [if_pos hp]
      refine ⟨rfl, fun t b h => ?_⟩
      obtain ⟨rfl, rfl⟩ := List.cons.inj h
      exact ⟨hp.2, hp.1⟩
    · rw [if_neg hp]
      obtain ⟨hfree, hcut⟩ := ih (d + delta u)
      exact ⟨free_cons.mpr ⟨hp, hfree⟩, hcut⟩

theorem splitTop_of_cut (h : p t = true) : splitTop p 0 (t :: ts) = ([], t :: ts) := by
  rw [splitTop, if_pos ⟨rfl, h⟩]

theorem free_inside {p : Token → Bool} {d : Int} {a : List Token} (hd : 0 ≤ d) (h : Nests d a) : Free p (d + 1) a := by
  induction a generalizing d with
  | nil => rfl
  | cons t a ih =>
    refine free_cons.mpr ⟨fun hzero => by omega, ?_⟩
    rw [show d + 1 + delta t = d + delta t + 1 by omega]
    exact ih h.1 h.2

theorem level_of_nests {d e : Int} {a : List Token} (h : Nests d a) : level (d + e) a = e := by
  induction a generalizing d with
  | nil =>
    have hzero : d = 0 := h
    rw [hzero, Int.zero_add]
    rfl
  | cons t a ih =>
    show level (d + e + delta t) a = e
    rw [show d + e + delta t = d + delta t + e by omega]
    exact ih h.2

theorem free_group {p : Token → Bool} (hopen : p opening = false) {a : List Token} (h : Nests 0 a) :
    Free p 0 (opening :: a ++ [closing]) ∧ level 0 (opening :: a ++ [closing]) = 0 := by
  have hlevel : level 1 a = 1 := level_of_nests (e := 1) h
  have hinside : Free p 1 a := free_inside (d := 0) (Int.le_refl 0) h
  constructor
  · rw [List.cons_append, free_cons]
    refine ⟨fun hp => by rw [hopen] at hp; exact Bool.false_ne_true hp.2, free_append.mpr ⟨hinside, ?_⟩⟩
    show Free p (level 1 a) [closing]
    rw [hlevel]
    exact free_cons.mpr ⟨fun hp => by omega, rfl⟩
  · rw [List.cons_append]
    show level 1 (a ++ [closing]) = 0
    rw [level_append, hlevel]
    rfl

theorem nests_append (h : Nests d (a ++ b)) : Nests (level d a) b := by
  induction a generalizing d with
  | nil => exact h
  | cons t a ih => exact ih h.2

theorem nests_front (hd : 0 ≤ d) (h : Nests d (a ++ b)) (hlevel : level d a = 0) : Nests d a := by
  induction a generalizing d with
  | nil => exact hlevel
  | cons t a ih => exact ⟨h.1, ih h.1 h.2 hlevel⟩

/-! ## Lexemes -/

def IsLexeme (t : Token) : Prop := t.kind ≠ .blank ∧ t.kind ≠ .comment

theorem lexemes_append (a b : List Token) : lexemes (a ++ b) = lexemes a ++ lexemes b := List.filter_append ..

theorem lexemes_cons_pos (h : IsLexeme t) (ts : List Token) : lexemes (t :: ts) = t :: lexemes ts := by
  refine List.filter_cons_of_pos ?_
  rw [Bool.and_eq_true, bne_iff_ne, bne_iff_ne]
  exact h

theorem lexemes_cons_neg (h : ¬ IsLexeme t) (ts : List Token) : lexemes (t :: ts) = lexemes ts := by
  refine List.filter_cons_of_neg ?_
  rw [Bool.and_eq_true, bne_iff_ne, bne_iff_ne]
  exact h

theorem delta_of_not_lexeme (h : ¬ IsLexeme t) : delta t = 0 := by
  unfold delta
  rw [if_neg, if_neg]
  · rintro rfl
    exact h ⟨by decide, by decide⟩
  · rintro rfl
    exact h ⟨by decide, by decide⟩

theorem nests_lexemes (d : Int) (ts : List Token) : Nests d ts → Nests d (lexemes ts) := by
  induction ts generalizing d with
  | nil => exact id
  | cons t ts ih =>
    intro h
    by_cases ht : IsLexeme t
    · rw [lexemes_cons_pos ht]
      exact ⟨h.1, ih _ h.2⟩
    · rw [lexemes_cons_neg ht]
      have hmore := ih _ h.2
      rwa [delta_of_not_lexeme ht, Int.add_zero] at hmore

theorem splitTop_lexemes {p : Token → Bool} (hp : ∀ t, p t = true → IsLexeme t) (d : Int) (ts : List Token) :
    splitTop p d (lexemes ts) = (lexemes (splitTop p d ts).1, lexemes (splitTop p d ts).2) := by
  induction ts generalizing d with
  | nil => rfl
  | cons t ts ih =>
    by_cases hcut : d = 0 ∧ p t = true
    · rw [lexemes_cons_pos (hp t hcut.2), splitTop, splitTop, if_pos hcut, if_pos hcut, lexemes_cons_pos (hp t hcut.2)]
      rfl
    · rw [splitTop, if_neg hcut]
      by_cases ht : IsLexeme t
      · rw [lexemes_cons_pos ht, splitTop, if_neg hcut, ih]
        dsimp only
        rw [lexemes_cons_pos ht]
      · rw [lexemes_cons_neg ht]
        dsimp only
        rw [lexemes_cons_neg ht, delta_of_not_lexeme ht, Int.add_zero, ih]

/-! ## Clauses -/

def tailWords : List (List Char) :=
  ["GROUP".toList, "HAVING".toList, "WINDOW".toList, "ORDER".toList, "LIMIT".toList, "OFFSET".toList, "FETCH".toList,
    "FOR".toList, "LOCK".toList, "INTO".toList, "UNION".toList, "INTERSECT".toList, "EXCEPT".toList]

def endsClause (t : Token) : Bool := isAnyWord tailWords t || t == ⟨.symbol, [';']⟩

theorem free_lexemes (hp : ∀ t, p t = true → IsLexeme t) (h : Free p d ts) : Free p d (lexemes ts) := by
  unfold Free
  rw [splitTop_lexemes hp, show (splitTop p d ts).2 = [] from h]
  rfl

theorem level_lexemes (d : Int) (ts : List Token) : level d (lexemes ts) = level d ts := by
  induction ts generalizing d with
  | nil => rfl
  | cons t ts ih =>
    by_cases ht : IsLexeme t
    · rw [lexemes_cons_pos ht]
      exact ih _
    · rw [lexemes_cons_neg ht]
      show _ = level (d + delta t) ts
      rw [delta_of_not_lexeme ht, Int.add_zero]
      exact ih d

/-- What the `FROM` clause ends with. -/
def cutsCondition (t : Token) : Bool := isWord "WHERE".toList t || endsClause t

structure Parts where
  /-- Up to the end of the `FROM` clause. -/
  front : List Token
  /-- `WHERE`, and what follows it. -/
  condition : Option (Token × List Token)
  tail : List Token
deriving DecidableEq

def clausesOf (ts : List Token) : Parts :=
  let head := splitTop (isWord "FROM".toList) 0 ts
  let from_ := splitTop cutsCondition 0 head.2
  match from_.2 with
  | [] => ⟨head.1 ++ from_.1, none, []⟩
  | t :: rest =>
    if isWord "WHERE".toList t = true then
      ⟨head.1 ++ from_.1, some (t, (splitTop endsClause 0 rest).1), (splitTop endsClause 0 rest).2⟩
    else ⟨head.1 ++ from_.1, none, t :: rest⟩

theorem isLexeme_of_isWord {key : List Char} (h : isWord key t = true) : IsLexeme t := by
  have hkind : t.kind = .word := by simpa using (Bool.and_eq_true_iff.mp h).1
  exact ⟨by rw [hkind]; decide, by rw [hkind]; decide⟩

theorem isLexeme_of_isAnyWord {keys : List (List Char)} (h : isAnyWord keys t = true) : IsLexeme t := by
  obtain ⟨key, _, hkey⟩ := List.any_eq_true.mp h
  exact isLexeme_of_isWord hkey

theorem isLexeme_of_endsClause (h : endsClause t = true) : IsLexeme t := by
  rcases Bool.or_eq_true_iff.mp h with h | h
  · exact isLexeme_of_isAnyWord h
  · obtain rfl := eq_of_beq h
    exact ⟨by decide, by decide⟩

theorem isLexeme_of_cutsCondition (h : cutsCondition t = true) : IsLexeme t :=
  (Bool.or_eq_true_iff.mp h).elim isLexeme_of_isWord isLexeme_of_endsClause

def Parts.lexemes (p : Parts) : Parts :=
  ⟨Clauses.lexemes p.front, p.condition.map fun c => (c.1, Clauses.lexemes c.2), Clauses.lexemes p.tail⟩

theorem clausesOf_lexemes (ts : List Token) : clausesOf (lexemes ts) = (clausesOf ts).lexemes := by
  unfold clausesOf
  rw [splitTop_lexemes (p := isWord "FROM".toList) fun t => isLexeme_of_isWord]
  dsimp only
  rw [splitTop_lexemes fun t => isLexeme_of_cutsCondition]
  dsimp only
  cases hcut : (splitTop cutsCondition 0 (splitTop (isWord "FROM".toList) 0 ts).2).2 with
  | nil =>
    rw [← lexemes_append]
    rfl
  | cons t rest =>
    obtain ⟨hcuts, _⟩ := (splitTop_spec _ _ _).2 t rest hcut
    rw [lexemes_cons_pos (isLexeme_of_cutsCondition hcuts)]
    dsimp only
    split
    · rw [splitTop_lexemes fun t => isLexeme_of_endsClause, ← lexemes_append]
      rfl
    · rw [← lexemes_append, ← lexemes_cons_pos (isLexeme_of_cutsCondition hcuts)]
      rfl

theorem splitTop_eq (ha : Free p d a) (hb : ∀ t, b.head? = some t → p t = true ∧ level d a = 0) :
    splitTop p d (a ++ b) = (a, b) := by
  rw [splitTop_append_free ha]
  cases b with
  | nil =>
    show (a ++ [], []) = (a, [])
    rw [List.append_nil]
  | cons t b =>
    obtain ⟨hp, hlevel⟩ := hb t rfl
    rw [hlevel, splitTop_of_cut hp, List.append_nil]

/-- What is in front of `FROM`, and the `FROM` clause. -/
structure Front (head from_ : List Token) : Prop where
  headFree : Free (isWord "FROM".toList) 0 head
  headLevel : level 0 head = 0
  first : ∃ t more, from_ = t :: more ∧ isWord "FROM".toList t = true
  fromFree : Free cutsCondition 0 from_

theorem Front.lexemes {head : List Token} (h : Front head from_) :
    Front (Clauses.lexemes head) (Clauses.lexemes from_) := by
  obtain ⟨f, more, hmore, hf⟩ := h.first
  refine ⟨free_lexemes (fun t => isLexeme_of_isWord) h.headFree, (level_lexemes 0 head).trans h.headLevel,
    ⟨f, Clauses.lexemes more, ?_, hf⟩, free_lexemes (fun t => isLexeme_of_cutsCondition) h.fromFree⟩
  rw [hmore, lexemes_cons_pos (isLexeme_of_isWord hf)]

theorem Front.splitTop_from {head : List Token} (h : Front head from_) (rest : List Token) :
    splitTop (isWord "FROM".toList) 0 (head ++ (from_ ++ rest)) = (head, from_ ++ rest) := by
  obtain ⟨f, more, hmore, hf⟩ := h.first
  refine splitTop_eq h.headFree fun t ht => ⟨?_, h.headLevel⟩
  rw [hmore] at ht
  obtain rfl := Option.some.inj ht
  exact hf

theorem clausesOf_where {head w tail : List Token} (h : Front head from_) (hlevel : level 0 from_ = 0)
    (ht : isWord "WHERE".toList t = true) (hw : Free endsClause 0 w)
    (htail : ∀ u, tail.head? = some u → endsClause u = true ∧ level 0 w = 0) :
    clausesOf (head ++ (from_ ++ t :: (w ++ tail))) = ⟨head ++ from_, some (t, w), tail⟩ := by
  have hcut : splitTop cutsCondition 0 (from_ ++ t :: (w ++ tail)) = (from_, t :: (w ++ tail)) := by
    refine splitTop_eq h.fromFree fun u hu => ?_
    obtain rfl := Option.some.inj hu
    exact ⟨by unfold cutsCondition; rw [ht]; rfl, hlevel⟩
  unfold clausesOf
  rw [h.splitTop_from]
  dsimp only
  rw [hcut]
  dsimp only
  rw [if_pos ht, splitTop_eq hw htail]

theorem clausesOf_noWhere {head tail : List Token} (h : Front head from_)
    (htail : ∀ u, tail.head? = some u → isWord "WHERE".toList u = false ∧ endsClause u = true ∧ level 0 from_ = 0) :
    clausesOf (head ++ (from_ ++ tail)) = ⟨head ++ from_, none, tail⟩ := by
  have hcut : splitTop cutsCondition 0 (from_ ++ tail) = (from_, tail) := by
    refine splitTop_eq h.fromFree fun u hu => ?_
    obtain ⟨_, hends, hlevel⟩ := htail u hu
    exact ⟨by unfold cutsCondition; rw [hends, Bool.or_true], hlevel⟩
  unfold clausesOf
  rw [h.splitTop_from]
  dsimp only
  rw [hcut]
  cases tail with
  | nil => rfl
  | cons u tail =>
    obtain ⟨hno, _⟩ := htail u rfl
    dsimp only
    rw [if_neg (by rw [hno]; exact Bool.false_ne_true)]

theorem parts_of_from (hfrom : ¬ Free (isWord "FROM".toList) 0 ts) :
    ∃ head from_, Front head from_ ∧ head = (splitTop (isWord "FROM".toList) 0 ts).1 ∧
      ((∃ tail, ts = head ++ (from_ ++ tail) ∧
          ∀ u, tail.head? = some u → isWord "WHERE".toList u = false ∧ endsClause u = true ∧ level 0 from_ = 0) ∨
        ∃ t w tail, ts = head ++ (from_ ++ t :: (w ++ tail)) ∧ level 0 from_ = 0 ∧ isWord "WHERE".toList t = true ∧
          Free endsClause 0 w ∧ ∀ u, tail.head? = some u → endsClause u = true ∧ level 0 w = 0) := by
  obtain ⟨hheadFree, hheadCut⟩ := splitTop_spec (isWord "FROM".toList) 0 ts
  have hts := splitTop_append (isWord "FROM".toList) 0 ts
  cases hrest : (splitTop (isWord "FROM".toList) 0 ts).2 with
  | nil => exact absurd hrest hfrom
  | cons f rest =>
    rw [hrest] at hts
    obtain ⟨hf, hheadLevel⟩ := hheadCut f rest hrest
    generalize (splitTop (isWord "FROM".toList) 0 ts).1 = head at hheadFree hheadLevel hts ⊢
    obtain ⟨hfromFree, hfromCut⟩ := splitTop_spec cutsCondition 0 (f :: rest)
    have hfrest := splitTop_append cutsCondition 0 (f :: rest)
    have hnotcut : cutsCondition f = false := by
      obtain ⟨hkind, hupper⟩ : f.kind = .word ∧ toAsciiUppercase f.text = "FROM".toList := by simpa [isWord] using hf
      have hsymbol : (f == ⟨.symbol, [';']⟩) = false := beq_eq_false_iff_ne.mpr (by rintro rfl; cases hkind)
      have hany : (isWord "WHERE".toList f || isAnyWord tailWords f) = false := by
        unfold isAnyWord isWord tailWords
        rw [hupper]
        simp
      rw [Bool.or_eq_false_iff] at hany
      unfold cutsCondition endsClause
      rw [hany.1, hany.2, hsymbol]
      rfl
    have hfirst : ∃ more, (splitTop cutsCondition 0 (f :: rest)).1 = f :: more := by
      rw [splitTop, if_neg fun hcut => by rw [hnotcut] at hcut; exact Bool.false_ne_true hcut.2]
      exact ⟨_, rfl⟩
    generalize (splitTop cutsCondition 0 (f :: rest)).1 = from_ at hfromFree hfromCut hfrest hfirst
    obtain ⟨more, hmore⟩ := hfirst
    refine ⟨head, from_, ⟨hheadFree, hheadLevel, ⟨f, more, hmore, hf⟩, hfromFree⟩, rfl, ?_⟩
    cases htail : (splitTop cutsCondition 0 (f :: rest)).2 with
    | nil =>
      rw [htail] at hfrest
      exact .inl ⟨[], by rw [hfrest, hts], fun u hu => (nomatch hu)⟩
    | cons t tail =>
      rw [htail] at hfrest
      obtain ⟨hcuts, hlevel⟩ := hfromCut t tail htail
      by_cases hwhere : isWord "WHERE".toList t = true
      · obtain ⟨hwFree, hwCut⟩ := splitTop_spec endsClause 0 tail
        refine .inr ⟨t, (splitTop endsClause 0 tail).1, (splitTop endsClause 0 tail).2, ?_, hlevel, hwhere, hwFree, ?_⟩
        · rw [splitTop_append, hfrest, hts]
        · intro u hu
          cases hback : (splitTop endsClause 0 tail).2 with
          | nil =>
            rw [hback] at hu
            cases hu
          | cons v back =>
            rw [hback] at hu
            obtain rfl := Option.some.inj hu
            exact hwCut v back hback
      · refine .inl ⟨t :: tail, by rw [hfrest, hts], fun u hu => ?_⟩
        obtain rfl := Option.some.inj hu
        exact ⟨Bool.eq_false_iff.mpr hwhere, (Bool.or_eq_true_iff.mp hcuts).resolve_left hwhere, hlevel⟩

/-! ## What the scanner sees in a token -/

/-- The text ends on the top level, and closes nothing that it has not opened. -/
def Calm : Level → List Char → Prop
  | l, [] => l = .top
  | l, c :: s => 0 ≤ (l.next c).depth ∧ Calm (l.next c) s

instance decidableCalm : (l : Level) → (s : List Char) → Decidable (Calm l s)
  | l, [] => inferInstanceAs (Decidable (l = .top))
  | l, c :: s =>
    have := decidableCalm (l.next c) s
    inferInstanceAs (Decidable (0 ≤ (l.next c).depth ∧ Calm (l.next c) s))

/-- A symbol that is neither a quote nor part of a word. -/
def QuietSymbol (c : Char) : Prop := c ≠ '\'' ∧ c ≠ '"' ∧ c ≠ '`' ∧ c.isAlphanum = false ∧ isWhitespace c = false

instance : DecidablePred QuietSymbol := fun _ => inferInstanceAs (Decidable (_ ∧ _ ∧ _ ∧ _ ∧ _))

def QuietToken (keys : List (List Char)) (t : Token) : Prop :=
  (t.kind = .blank → ∀ c ∈ t.text, isBlank c = true) ∧
    (t.kind = .symbol → t.text.length = 1 ∧ ∀ c ∈ t.text, QuietSymbol c) ∧
    (t.kind ≠ .blank → t.kind ≠ .symbol → Calm .top t.text ∧
      (∀ key ∈ keys, isWord key t = true ∨ findTopLevelKeyword key t.text = none) ∧
      t.text.head?.all (!isWhitespace ·) = true)

instance (keys : List (List Char)) (t : Token) : Decidable (QuietToken keys t) :=
  have := List.decidableBAll (isBlank · = true) t.text
  have := List.decidableBAll QuietSymbol t.text
  inferInstanceAs (Decidable (_ ∧ _ ∧ _))

/-- No letter or digit stands next to one of another token. -/
def Apart : List Token → Prop
  | [] => True
  | [_] => True
  | t :: u :: ts =>
    ¬ (t.text.getLast?.any Char.isAlphanum = true ∧ u.text.head?.any Char.isAlphanum = true) ∧ Apart (u :: ts)

instance decidableApart : (ts : List Token) → Decidable (Apart ts)
  | [] => .isTrue trivial
  | [_] => .isTrue trivial
  | _ :: u :: ts =>
    have := decidableApart (u :: ts)
    inferInstanceAs (Decidable (_ ∧ _))

/-! ## Where the scanner finds a keyword -/

theorem isAlphanum_of_toUpper (h : c.toUpper.isUpper = true) : c.isAlphanum = true := by
  by_cases hlower : c.isLower = true
  · show (c.isUpper || c.isLower || c.isDigit) = true
    rw [hlower, Bool.or_true, Bool.true_or]
  · have hsame : c.toUpper = c := by
      unfold Char.toUpper
      exact dif_neg fun hrange => hlower (Bool.and_eq_true_iff.mpr ⟨decide_eq_true hrange.1, decide_eq_true hrange.2⟩)
    rw [hsame] at h
    show (c.isUpper || c.isLower || c.isDigit) = true
    rw [h, Bool.true_or, Bool.true_or]

theorem range_of_isAlphanum (h : c.isAlphanum = true) : (65 ≤ c.toNat ∧ c.toNat ≤ 90) ∨ (97 ≤ c.toNat ∧ c.toNat ≤ 122) ∨
    48 ≤ c.toNat ∧ c.toNat ≤ 57 := by
  have hranges : ((decide (65 ≤ c.val ∧ c.val ≤ 90) || (decide (97 ≤ c.val) && decide (c.val ≤ 122))) ||
      (decide (48 ≤ c.val) && decide (c.val ≤ 57))) = true := h
  simp only [Bool.or_eq_true, Bool.and_eq_true, decide_eq_true_eq, UInt32.le_iff_toNat_le, or_assoc] at hranges
  exact hranges

theorem next_shift (l : Level) (d : Int) (c : Char) :
    (Level.mk l.quote (l.depth + d)).next c = ⟨(l.next c).quote, (l.next c).depth + d⟩ := by
  unfold Level.next
  dsimp only
  congr 1
  split
  · omega
  · split
    · omega
    · rfl

def Hit (key : List Char) (before : Option Char) (s : List Char) : Prop :=
  startsWith key (toAsciiUppercase s) = true ∧ before.all (!·.isAlphanum) = true ∧
    (s.drop key.length).head?.all (!·.isAlphanum) = true

theorem findKeywordFrom_cons (key : List Char) (l : Level) (before : Option Char) (c : Char) (s : List Char) :
    (l = .top ∧ Hit key before (c :: s) ∧ findKeywordFrom key l before (c :: s) = some 0) ∨
      (¬ (l = .top ∧ Hit key before (c :: s)) ∧
        findKeywordFrom key l before (c :: s) = (findKeywordFrom key (l.next c) (some c) s).map (· + 1)) := by
  by_cases hhit : l = .top ∧ Hit key before (c :: s)
  · exact .inl ⟨hhit.1, hhit.2, by rw [findKeywordFrom]; exact if_pos hhit⟩
  · exact .inr ⟨hhit, by rw [findKeywordFrom]; exact if_neg hhit⟩

theorem hit_append {key : List Char} (hkey : ∀ k ∈ key, k.isUpper = true) {before : Option Char}
    (hbefore : before' = none ∨ before' = before) {rest : List Char} (hs : s ≠ [])
    (happart : ¬ (s.getLast?.any Char.isAlphanum = true ∧ rest.head?.any Char.isAlphanum = true))
    (h : Hit key before (s ++ rest)) : Hit key before' s := by
  obtain ⟨hstart, hfront, hback⟩ := h
  have hprefix : key <+: toAsciiUppercase s ++ toAsciiUppercase rest := by
    have hlong := List.isPrefixOf_iff_prefix.mp hstart
    unfold toAsciiUppercase at hlong ⊢
    rwa [List.map_append] at hlong
  have hbefore' : before'.all (!·.isAlphanum) = true := by
    rcases hbefore with rfl | rfl
    · rfl
    · exact hfront
  have hlen : (toAsciiUppercase s).length = s.length := List.length_map _
  rcases Nat.lt_or_ge s.length key.length with hover | hin
  · -- the keyword would run from a letter here to a letter there
    exfalso
    obtain ⟨more, hmore⟩ := List.prefix_of_prefix_length_le (List.prefix_append (toAsciiUppercase s) (toAsciiUppercase rest))
      hprefix (by omega)
    rw [← hmore] at hprefix hkey hover
    have hrest : more <+: toAsciiUppercase rest := (List.prefix_append_right_inj _).mp hprefix
    rw [List.length_append, hlen] at hover
    refine happart ⟨?_, ?_⟩
    · rw [List.getLast?_eq_some_getLast hs]
      refine isAlphanum_of_toUpper (hkey _ (List.mem_append_left _ ?_))
      exact List.mem_map_of_mem (List.getLast_mem hs)
    · cases more with
      | nil => simp at hover
      | cons a more =>
        cases rest with
        | nil => simp [toAsciiUppercase] at hrest
        | cons b rest =>
          have hab : a = b.toUpper := (List.cons_prefix_cons.mp hrest).1
          refine isAlphanum_of_toUpper ?_
          rw [← hab]
          exact hkey a (List.mem_append_right _ List.mem_cons_self)
  · refine ⟨List.isPrefixOf_iff_prefix.mpr ?_, hbefore', ?_⟩
    · exact List.prefix_of_prefix_length_le hprefix (List.prefix_append _ _) (by omega)
    · rw [List.drop_append_of_le_length hin] at hback
      cases hdrop : s.drop key.length with
      | nil => rfl
      | cons a more =>
        rw [hdrop] at hback
        exact hback

/-- **A calm text** in which nothing is found is passed over, at any depth.  Induction on the text, whose own level is
    `d` lower. -/
theorem find_calm {key : List Char} (hkey : ∀ k ∈ key, k.isUpper = true) {rest : List Char} (hd : 0 ≤ d)
    {l : Level} {before : Option Char} (hl : 0 ≤ l.depth) (hcalm : Calm l s)
    (hno : d = 0 → findKeywordFrom key l before' s = none) (hbefore : before' = none ∨ before' = before)
    (happart : ¬ (s.getLast?.any Char.isAlphanum = true ∧ rest.head?.any Char.isAlphanum = true)) :
    findKeywordFrom key ⟨l.quote, l.depth + d⟩ before (s ++ rest) =
      (findKeywordFrom key ⟨.none, d⟩ (s.getLast?.or before) rest).map (· + s.length) := by
  induction s generalizing l before before' with
  | nil =>
    obtain rfl : l = .top := hcalm
    have hzero : Level.top.depth + d = d := Int.zero_add d
    rw [hzero]
    show findKeywordFrom key ⟨.none, d⟩ before rest = (findKeywordFrom key ⟨.none, d⟩ before rest).map (· + 0)
    exact Option.map_id'.symm
  | cons c s ih =>
    rw [List.cons_append]
    rcases findKeywordFrom_cons key ⟨l.quote, l.depth + d⟩ before c (s ++ rest) with ⟨htop, hhit, _⟩ | ⟨_, hnext⟩
    · -- on the top level the text itself has no keyword
      exfalso
      obtain ⟨hquote, hdepth⟩ : l.quote = .none ∧ l.depth + d = 0 := by
        have := Level.mk.inj htop
        exact this
      have hzero : d = 0 := by omega
      have hltop : l = .top := by
        obtain ⟨quote, depth⟩ := l
        have hdepth0 : depth = 0 := by
          have : depth + d = 0 := hdepth
          omega
        rw [hdepth0]
        exact congrArg (Level.mk · 0) hquote
      have hself := hit_append hkey hbefore (List.cons_ne_nil c s) happart hhit
      rcases findKeywordFrom_cons key l before' c s with ⟨_, _, hfound⟩ | ⟨hmiss, _⟩
      · rw [hno hzero] at hfound
        cases hfound
      · exact hmiss ⟨hltop, hself⟩
    · have hno' : d = 0 → findKeywordFrom key (l.next c) (some c) s = none := by
        intro hzero
        rcases findKeywordFrom_cons key l before' c s with ⟨_, _, hfound⟩ | ⟨_, hmiss⟩
        · rw [hno hzero] at hfound
          cases hfound
        · rw [hno hzero] at hmiss
          exact Option.map_eq_none_iff.mp hmiss.symm
      have happart' : ¬ (s.getLast?.any Char.isAlphanum = true ∧ rest.head?.any Char.isAlphanum = true) := by
        cases s with
        | nil => exact fun h => Bool.false_ne_true h.1
        | cons a s => rwa [List.getLast?_cons_cons] at happart
      rw [hnext, next_shift, ih hcalm.1 hcalm.2 hno' (.inr rfl) happart', Option.map_map]
      have hlast : (c :: s).getLast?.or before = s.getLast?.or (some c) := by
        cases s with
        | nil => rfl
        | cons a s => rw [List.getLast?_cons_cons, List.getLast?_eq_some_getLast (List.cons_ne_nil a s)]; rfl
      rw [hlast]
      congr 1

structure IsKey (key : List Char) : Prop where
  upper : ∀ k ∈ key, k.isUpper = true
  nonempty : key ≠ []

theorem ne_nil_of_isWord {key : List Char} (hkey : IsKey key) (h : isWord key t = true) : t.text ≠ [] := by
  rintro hnil
  unfold isWord at h
  rw [hnil] at h
  exact hkey.nonempty (by simpa [toAsciiUppercase] using (Bool.and_eq_true_iff.mp h).2)

theorem find_word {key : List Char} (hkey : IsKey key) (h : isWord key t = true) {before : Option Char}
    {rest : List Char} (hbefore : ¬ (before.any Char.isAlphanum = true ∧ t.text.head?.any Char.isAlphanum = true))
    (happart : ¬ (t.text.getLast?.any Char.isAlphanum = true ∧ rest.head?.any Char.isAlphanum = true)) :
    findKeywordFrom key .top before (t.text ++ rest) = some 0 := by
  obtain ⟨hkind, hupper⟩ : t.kind = .word ∧ toAsciiUppercase t.text = key := by simpa [isWord] using h
  have hne := ne_nil_of_isWord hkey h
  have halnum : ∀ c ∈ t.text, c.isAlphanum = true := fun c hc =>
    isAlphanum_of_toUpper (hkey.upper _ (hupper ▸ List.mem_map_of_mem hc))
  have hlen : key.length = t.text.length := by rw [← hupper]; exact List.length_map _
  cases htext : t.text with
  | nil => exact absurd htext hne
  | cons c s =>
    rw [htext] at hbefore happart halnum hupper hlen
    rcases findKeywordFrom_cons key .top before c (s ++ rest) with ⟨_, _, hfound⟩ | ⟨hmiss, _⟩
    · exact hfound
    · refine absurd ⟨rfl, ?_, ?_, ?_⟩ hmiss
      · refine List.isPrefixOf_iff_prefix.mpr ?_
        rw [← hupper]
        unfold toAsciiUppercase
        rw [← List.cons_append, List.map_append]
        exact List.prefix_append _ _
      · cases before with
        | none => rfl
        | some b =>
          have hb : b.isAlphanum = false := Bool.eq_false_iff.mpr fun hb => hbefore ⟨hb, halnum c List.mem_cons_self⟩
          show (!b.isAlphanum) = true
          rw [hb]
          rfl
      · rw [← List.cons_append, hlen, List.drop_left]
        cases rest with
        | nil => rfl
        | cons a rest =>
          have ha : a.isAlphanum = false := by
            refine Bool.eq_false_iff.mpr fun ha => happart ⟨?_, ha⟩
            rw [List.getLast?_eq_some_getLast (List.cons_ne_nil c s)]
            exact halnum _ (List.getLast_mem _)
          show (!a.isAlphanum) = true
          rw [ha]
          rfl

theorem isBlank_isWhitespace (h : isBlank c = true) : isWhitespace c = true := by
  simp only [isBlank, isWhitespace, Bool.or_eq_true, Bool.and_eq_true, decide_eq_true_eq, beq_iff_eq] at h ⊢
  rcases h with rfl | h
  · decide
  · omega

theorem plain_of_isBlank (h : isBlank c = true) : plain c = true := plain_of_isWhitespace (isBlank_isWhitespace h)

theorem calm_plain (h : ∀ c ∈ s, plain c = true) : Calm .top s := by
  induction s with
  | nil => rfl
  | cons c s ih =>
    have hnext : Level.top.next c = .top := Level.next_plain (h c List.mem_cons_self)
    refine ⟨?_, ?_⟩
    · rw [hnext]
      exact Int.le_refl 0
    · rw [hnext]
      exact ih fun a ha => h a (List.mem_cons_of_mem c ha)

theorem not_hit {key : List Char} (hkey : IsKey key) {before : Option Char} (hc : c.isAlphanum = false) :
    ¬ Hit key before (c :: s) := by
  rintro ⟨hstart, -⟩
  obtain ⟨k, more, rfl⟩ := List.exists_cons_of_ne_nil hkey.nonempty
  have hk : k = c.toUpper := (List.cons_prefix_cons.mp (List.isPrefixOf_iff_prefix.mp hstart)).1
  have hupper := hkey.upper k List.mem_cons_self
  rw [hk] at hupper
  rw [isAlphanum_of_toUpper hupper] at hc
  cases hc

theorem find_no_letters {key : List Char} (hkey : IsKey key) (h : ∀ c ∈ s, c.isAlphanum = false) (l : Level)
    (before : Option Char) : findKeywordFrom key l before s = none := by
  induction s generalizing l before with
  | nil => rfl
  | cons c s ih =>
    rcases findKeywordFrom_cons key l before c s with ⟨_, hhit, _⟩ | ⟨_, hnext⟩
    · exact absurd hhit (not_hit hkey (h c List.mem_cons_self))
    · rw [hnext, ih fun a ha => h a (List.mem_cons_of_mem c ha)]
      rfl

theorem not_isAlphanum_of_isBlank (h : isBlank c = true) : c.isAlphanum = false := by
  have hle : c.toNat ≤ 32 := by
    simp only [isBlank, Bool.or_eq_true, Bool.and_eq_true, decide_eq_true_eq, beq_iff_eq] at h
    rcases h with rfl | h
    · decide
    · omega
  refine Bool.eq_false_iff.mpr fun halnum => ?_
  have hrange := range_of_isAlphanum halnum
  omega

theorem delta_of_kind (h : t.kind ≠ .symbol) : delta t = 0 := by
  unfold delta
  rw [if_neg, if_neg]
  · rintro rfl
    exact h rfl
  · rintro rfl
    exact h rfl

theorem next_symbol (hkind : t.kind = .symbol) (htext : t.text = [c]) (hc : QuietSymbol c) (d : Int) :
    (Level.mk .none d).next c = ⟨.none, d + delta t⟩ := by
  obtain ⟨hsingle, hdouble, hback, _⟩ := hc
  have ht : t = ⟨.symbol, [c]⟩ := by rw [← hkind, ← htext]
  rw [ht]
  by_cases hopen : c = '('
  · subst hopen
    rfl
  · by_cases hclose : c = ')'
    · subst hclose
      rfl
    · simp [Level.next, Quote.next, delta, opening, closing, hsingle, hdouble, hback, hopen, hclose]

/-- **One token**, not the keyword or not on the top level, is passed over. -/
theorem find_token {keys : List (List Char)} {key : List Char} (hmem : key ∈ keys) (hkey : IsKey key)
    (hquiet : QuietToken keys t) (hd : 0 ≤ d) (hnot : ¬ (d = 0 ∧ isWord key t = true)) {before : Option Char}
    {rest : List Char}
    (happart : ¬ (t.text.getLast?.any Char.isAlphanum = true ∧ rest.head?.any Char.isAlphanum = true)) :
    findKeywordFrom key ⟨.none, d⟩ before (t.text ++ rest) =
      (findKeywordFrom key ⟨.none, d + delta t⟩ (t.text.getLast?.or before) rest).map (· + t.text.length) := by
  obtain ⟨hblank, hsymbol, hother⟩ := hquiet
  by_cases hkind : t.kind = .symbol
  · obtain ⟨hlen, hall⟩ := hsymbol hkind
    obtain ⟨c, htext⟩ := List.length_eq_one_iff.mp hlen
    have hc : QuietSymbol c := hall c (htext ▸ List.mem_singleton_self c)
    rw [htext]
    rcases findKeywordFrom_cons key ⟨.none, d⟩ before c rest with ⟨_, hhit, _⟩ | ⟨_, hnext⟩
    · exact absurd hhit (not_hit hkey hc.2.2.2.1)
    · rw [List.singleton_append, hnext, next_symbol hkind htext hc]
      rfl
  · rw [delta_of_kind hkind, Int.add_zero]
    have hcalm : ∀ {s : List Char}, Calm .top s → (d = 0 → findTopLevelKeyword key s = none) →
        ¬ (s.getLast?.any Char.isAlphanum = true ∧ rest.head?.any Char.isAlphanum = true) →
        findKeywordFrom key ⟨.none, d⟩ before (s ++ rest) =
          (findKeywordFrom key ⟨.none, d⟩ (s.getLast?.or before) rest).map (· + s.length) := by
      intro s hs hno hs'
      have hfind : findKeywordFrom key ⟨.none, 0 + d⟩ before (s ++ rest) = _ :=
        find_calm hkey.upper hd (Int.le_refl 0) hs hno (.inl rfl) hs'
      rw [Int.zero_add] at hfind
      exact hfind
    by_cases hkindb : t.kind = .blank
    · have hall := hblank hkindb
      exact hcalm (calm_plain fun c hc => plain_of_isBlank (hall c hc))
        (fun _ => find_no_letters hkey (fun c hc => not_isAlphanum_of_isBlank (hall c hc)) _ _) happart
    · obtain ⟨hquiet, hkeys, _⟩ := hother hkindb hkind
      refine hcalm hquiet (fun hzero => ?_) happart
      exact (hkeys key hmem).resolve_left fun hword => hnot ⟨hzero, hword⟩

theorem apart_head (hne : ∀ u ∈ ts, u.text ≠ []) (h : Apart (t :: ts)) :
    ¬ (t.text.getLast?.any Char.isAlphanum = true ∧ (text ts).head?.any Char.isAlphanum = true) ∧ Apart ts := by
  cases ts with
  | nil => exact ⟨fun h => Bool.false_ne_true h.2, trivial⟩
  | cons u ts =>
    refine ⟨fun hboth => h.1 ⟨hboth.1, ?_⟩, h.2⟩
    obtain ⟨c, s, htext⟩ := List.exists_cons_of_ne_nil (hne u List.mem_cons_self)
    have hhead : (text (u :: ts)).head? = u.text.head? := by
      show (u.text ++ text ts).head? = _
      rw [htext]
      rfl
    rw [← hhead]
    exact hboth.2

/-- **Quiet tokens that are not the keyword are passed over.**  Induction on them; what follows them need not be quiet. -/
theorem find_tokens {keys : List (List Char)} {key : List Char} (hmem : key ∈ keys) (hkey : IsKey key) {a rest : List Token}
    (hquiet : ∀ t ∈ a, QuietToken keys t) (happart : Apart (a ++ rest)) (hne : ∀ t ∈ a ++ rest, t.text ≠ []) {d : Int}
    (hd : 0 ≤ d) (hnests : Nests d (a ++ rest)) (hfree : Free (isWord key) d a) (before : Option Char) :
    findKeywordFrom key ⟨.none, d⟩ before (text (a ++ rest)) =
      (findKeywordFrom key ⟨.none, level d a⟩ ((text a).getLast?.or before) (text rest)).map (· + (text a).length) := by
  induction a generalizing d before with
  | nil => exact Option.map_id'.symm
  | cons t a ih =>
    have hne' : ∀ u ∈ a ++ rest, u.text ≠ [] := fun u hu => hne u (List.mem_cons_of_mem t hu)
    obtain ⟨hnext, happart'⟩ := apart_head hne' happart
    obtain ⟨hno, hfree'⟩ := free_cons.mp hfree
    have htext : text (t :: a ++ rest) = t.text ++ text (a ++ rest) := rfl
    have htexta : text (t :: a) = t.text ++ text a := rfl
    rw [htext, find_token hmem hkey (hquiet t List.mem_cons_self) hd hno hnext,
      ih (fun u hu => hquiet u (List.mem_cons_of_mem t hu)) happart' hne' hnests.1 hnests.2 hfree', Option.map_map,
      htexta, List.getLast?_append, Option.or_assoc, List.length_append]
    show (findKeywordFrom key ⟨.none, level (d + delta t) a⟩ _ _).map (fun i => i + (text a).length + t.text.length) = _
    simp only [Nat.add_assoc, Nat.add_comm t.text.length]
    rfl

theorem apart_last {rest : List Token} (hne : ∀ u ∈ a, u.text ≠ []) (h : Apart (a ++ t :: rest)) :
    ¬ ((text a).getLast?.any Char.isAlphanum = true ∧ t.text.head?.any Char.isAlphanum = true) ∧ Apart (t :: rest) := by
  induction a with
  | nil => exact ⟨fun hboth => Bool.false_ne_true hboth.1, h⟩
  | cons u a ih =>
    have hne' : ∀ v ∈ a, v.text ≠ [] := fun v hv => hne v (List.mem_cons_of_mem u hv)
    have htext : text (u :: a) = u.text ++ text a := rfl
    cases a with
    | nil =>
      rw [htext, show text [] = [] from rfl, List.append_nil]
      exact h
    | cons v a =>
      obtain ⟨hlast, hrest⟩ := ih hne' h.2
      obtain ⟨c, hc⟩ : ∃ c, (text (v :: a)).getLast? = some c := by
        refine ⟨_, List.getLast?_eq_some_getLast fun hnil => hne' v List.mem_cons_self ?_⟩
        exact (List.append_eq_nil_iff.mp hnil).1
      rw [htext, List.getLast?_append, hc]
      rw [hc] at hlast
      exact ⟨hlast, hrest⟩

theorem find_at {keys : List (List Char)} {key : List Char} (hmem : key ∈ keys) (hkey : IsKey key)
    {rest : List Token} (ht : isWord key t = true) (hquiet : ∀ u ∈ a, QuietToken keys u)
    (happart : Apart (a ++ t :: rest)) (hne : ∀ u ∈ a ++ t :: rest, u.text ≠ [])
    (hnests : Nests 0 (a ++ t :: rest)) (hfree : Free (isWord key) 0 a) (hlevel : level 0 a = 0) :
    findTopLevelKeyword key (text (a ++ t :: rest)) = some (text a).length := by
  obtain ⟨hlast, hrest⟩ := apart_last (fun u hu => hne u (List.mem_append_left _ hu)) happart
  have hbehind := (apart_head (fun u hu => hne u (List.mem_append_right a (List.mem_cons_of_mem t hu))) hrest).1
  have hpassed := find_tokens hmem hkey hquiet happart hne (Int.le_refl 0) hnests hfree none
  rw [hlevel, Option.or_none] at hpassed
  show findKeywordFrom key ⟨.none, 0⟩ none _ = _
  rw [hpassed, show text (t :: rest) = t.text ++ text rest from rfl]
  have hword : findKeywordFrom key ⟨.none, 0⟩ (text a).getLast? (t.text ++ text rest) = some 0 :=
    find_word hkey ht hlast hbehind
  rw [hword, Option.map_some, Nat.zero_add]

end DataNexus.Pdp.Clauses
