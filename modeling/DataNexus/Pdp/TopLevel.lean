/-
  The scanner that the column strip and the row filter share (`find_top_level_keyword`, `find_matching_paren`,
  `split_select_list` of `gateway/core/src/{pdp,obligations}.rs`).

  It walks over a text with three flags, for the three kinds of quotes, and a count of open parentheses.  A character is
  on the top level when no flag is set and nothing is open.  Quotes, parentheses, commas and keywords are ASCII, so
  that the walk over bytes is the walk over characters.
-/
import DataNexus.Lib.Text

namespace DataNexus.Pdp.TopLevel

open DataNexus.Text

/-! ## Levels -/

/-- `in_single`, `in_double`, `in_back`: at most one of them is set. -/
inductive Quote where
  | none
  | single
  | double
  | back
deriving DecidableEq

def Quote.next : Quote → Char → Quote
  | .none, c => if c = '\'' then .single else if c = '"' then .double else if c = '`' then .back else .none
  | .single, c => if c = '\'' then .none else .single
  | .double, c => if c = '"' then .none else .double
  | .back, c => if c = '`' then .none else .back

/-- The flags and `depth`. -/
structure Level where
  quote : Quote
  depth : Int
deriving DecidableEq

def Level.top : Level := ⟨.none, 0⟩

def Level.next (l : Level) (c : Char) : Level :=
  ⟨l.quote.next c,
    if l.quote = .none ∧ c = '(' then l.depth + 1 else if l.quote = .none ∧ c = ')' then l.depth - 1 else l.depth⟩

def Level.run (l : Level) (s : List Char) : Level := s.foldl Level.next l

@[simp] theorem Level.run_nil (l : Level) : l.run [] = l := rfl

@[simp] theorem Level.run_cons (l : Level) (c : Char) (s : List Char) : l.run (c :: s) = (l.next c).run s := rfl

theorem Level.run_append (l : Level) (a b : List Char) : l.run (a ++ b) = (l.run a).run b := List.foldl_append

/-- A character that is no quote and no parenthesis. -/
def plain (c : Char) : Bool := c != '\'' && c != '"' && c != '`' && c != '(' && c != ')'

variable {c : Char} {l : Level} {s a b : List Char} {i : Nat}

theorem plain_eq_true (h : plain c = true) : c ≠ '\'' ∧ c ≠ '"' ∧ c ≠ '`' ∧ c ≠ '(' ∧ c ≠ ')' := by
  simpa [plain, and_assoc] using h

theorem Level.next_plain (h : plain c = true) : l.next c = l := by
  obtain ⟨hsingle, hdouble, hback, hopen, hclose⟩ := plain_eq_true h
  obtain ⟨quote, depth⟩ := l
  cases quote with
  | none => simp [Level.next, Quote.next, hsingle, hdouble, hback, hopen, hclose]
  | single => simp [Level.next, Quote.next, hsingle]
  | double => simp [Level.next, Quote.next, hdouble]
  | back => simp [Level.next, Quote.next, hback]

theorem Level.run_plain (h : ∀ c ∈ s, plain c = true) : l.run s = l := by
  induction s with
  | nil => rfl
  | cons c s ih =>
    rw [Level.run_cons, Level.next_plain (h c List.mem_cons_self), ih fun d hd => h d (List.mem_cons_of_mem c hd)]

theorem plain_of_isWhitespace (h : isWhitespace c = true) : plain c = true := by
  unfold plain
  simp only [Bool.and_eq_true, bne_iff_ne]
  refine ⟨⟨⟨⟨?_, ?_⟩, ?_⟩, ?_⟩, ?_⟩ <;> exact fun heq => absurd (heq ▸ h) (by decide)

/-! ## Keywords -/

theorem startsWith_upper_append {key : List Char} (h : startsWith key (toAsciiUppercase s) = true) (t : List Char) :
    startsWith key (toAsciiUppercase (s ++ t)) = true := by
  have hstart : key <+: toAsciiUppercase s := List.isPrefixOf_iff_prefix.mp h
  refine List.isPrefixOf_iff_prefix.mpr (hstart.trans ?_)
  unfold toAsciiUppercase
  rw [List.map_append]
  exact List.prefix_append _ _

/-- `find_top_level_keyword`, behind the character `before`: the keyword stands there in either case, and what is next
    to it is no letter and no digit. -/
def findKeywordFrom (key : List Char) : Level → (before : Option Char) → List Char → Option Nat
  | _, _, [] => none
  | l, before, c :: s =>
    if l = .top ∧ startsWith key (toAsciiUppercase (c :: s)) = true ∧ before.all (!·.isAlphanum) = true ∧
        ((c :: s).drop key.length).head?.all (!·.isAlphanum) = true then
      some 0
    else (findKeywordFrom key (l.next c) (some c) s).map (· + 1)

def findTopLevelKeyword (key s : List Char) : Option Nat := findKeywordFrom key .top none s

theorem findKeywordFrom_some {key : List Char} {before : Option Char} (h : findKeywordFrom key l before s = some i) :
    i ≤ s.length ∧ l.run (s.take i) = .top ∧ startsWith key (toAsciiUppercase (s.drop i)) = true := by
  induction s generalizing l before i with
  | nil => cases h
  | cons c s ih =>
    unfold findKeywordFrom at h
    split at h
    · rename_i hfound
      cases h
      exact ⟨Nat.zero_le _, hfound.1, hfound.2.1⟩
    · obtain ⟨j, hj, rfl⟩ := Option.map_eq_some_iff.mp h
      obtain ⟨hle, hrun, hkey⟩ := ih hj
      exact ⟨Nat.succ_le_succ hle, hrun, hkey⟩

/-! ## Parentheses -/

/-- `find_matching_paren`, with what is open. -/
def findParenFrom : Level → List Char → Option Nat
  | _, [] => none
  | l, c :: s => if c = ')' ∧ l = ⟨.none, 1⟩ then some 0 else (findParenFrom (l.next c) s).map (· + 1)

/-- `find_matching_paren`: the text begins behind the parenthesis that is to be matched. -/
def findMatchingParen (s : List Char) : Option Nat := findParenFrom ⟨.none, 1⟩ s

theorem findParenFrom_some (h : findParenFrom l s = some i) : s = s.take i ++ ')' :: s.drop (i + 1) := by
  induction s generalizing l i with
  | nil => cases h
  | cons c s ih =>
    unfold findParenFrom at h
    split at h
    · rename_i hfound
      cases h
      rw [hfound.1]
      rfl
    · obtain ⟨j, hj, rfl⟩ := Option.map_eq_some_iff.mp h
      exact congrArg (c :: ·) (ih hj)

/-! ## Commas -/

/-- The pieces between the commas of the top level. -/
def piecesFrom : Level → List Char → List (List Char)
  | _, [] => [[]]
  | l, c :: s =>
    if c = ',' ∧ l = .top then [] :: piecesFrom l s
    else
      match piecesFrom (l.next c) s with
      | [] => [[c]]
      | piece :: pieces => (c :: piece) :: pieces

def splitSelectList (list : List Char) : List (List Char) :=
  ((piecesFrom .top list).map trim).filter fun part => !part.isEmpty

theorem piecesFrom_ne_nil (l : Level) (s : List Char) : piecesFrom l s ≠ [] := by
  cases s with
  | nil => exact List.cons_ne_nil _ _
  | cons c s =>
    unfold piecesFrom
    split
    · exact List.cons_ne_nil _ _
    · split <;> exact List.cons_ne_nil _ _

theorem intercalate_piecesFrom (l : Level) (s : List Char) : List.intercalate [','] (piecesFrom l s) = s := by
  induction s generalizing l with
  | nil => rfl
  | cons c s ih =>
    unfold piecesFrom
    split
    · rename_i hcomma
      obtain ⟨piece, pieces, hpieces⟩ := List.exists_cons_of_ne_nil (piecesFrom_ne_nil l s)
      have hs := ih l
      rw [hpieces] at hs ⊢
      rw [List.intercalate_cons_cons, hs, hcomma.1]
      rfl
    · have hs := ih (l.next c)
      obtain ⟨piece, pieces, hpieces⟩ := List.exists_cons_of_ne_nil (piecesFrom_ne_nil (l.next c) s)
      rw [hpieces] at hs ⊢
      dsimp only
      cases pieces with
      | nil =>
        rw [List.intercalate_singleton] at hs ⊢
        rw [hs]
      | cons second pieces =>
        rw [List.intercalate_cons_cons] at hs ⊢
        rw [← hs]
        rfl

/-- A text that ends on the top level, with no comma there. -/
def Unbroken : Level → List Char → Prop
  | l, [] => l = .top
  | l, c :: s => ¬ (c = ',' ∧ l = .top) ∧ Unbroken (l.next c) s

theorem unbroken_piecesFrom (h : l.run s = .top) :
    ∃ piece pieces, piecesFrom l s = piece :: pieces ∧ Unbroken l piece ∧ ∀ p ∈ pieces, Unbroken .top p := by
  induction s generalizing l with
  | nil => exact ⟨[], [], rfl, h, fun p hp => absurd hp List.not_mem_nil⟩
  | cons c s ih =>
    obtain ⟨piece, pieces, hpieces, hpiece, hmore⟩ := ih h
    unfold piecesFrom
    by_cases hcomma : c = ',' ∧ l = .top
    · obtain ⟨rfl, rfl⟩ := hcomma
      rw [if_pos ⟨rfl, rfl⟩]
      refine ⟨[], _, rfl, rfl, ?_⟩
      rw [show piecesFrom .top s = piece :: pieces from hpieces]
      intro p hp
      rcases List.mem_cons.mp hp with rfl | hp
      · exact hpiece
      · exact hmore p hp
    · rw [if_neg hcomma, hpieces]
      exact ⟨c :: piece, pieces, rfl, ⟨hcomma, hpiece⟩, hmore⟩

theorem unbroken_of_mem {p : List Char} (h : Level.top.run s = .top) (hp : p ∈ piecesFrom .top s) :
    Unbroken .top p := by
  obtain ⟨piece, pieces, hpieces, hpiece, hmore⟩ := unbroken_piecesFrom h
  rw [hpieces] at hp
  rcases List.mem_cons.mp hp with rfl | hp
  · exact hpiece
  · exact hmore p hp

/-! ## ASCII -/

def Ascii (s : List Char) : Prop := ∀ c ∈ s, c.toNat < 128

theorem Ascii.of_subset (h : Ascii b) (hsub : a ⊆ b) : Ascii a := fun c hc => h c (hsub hc)

theorem Ascii.append (ha : Ascii a) (hb : Ascii b) : Ascii (a ++ b) := fun c hc =>
  (List.mem_append.mp hc).elim (ha c) (hb c)

instance (s : List Char) : Decidable (Ascii s) := List.decidableBAll (fun c : Char => c.toNat < 128) s

theorem utf8Size_ascii (h : c.toNat < 128) : c.utf8Size = 1 := by
  refine Char.utf8Size_eq_one_iff.mpr ?_
  show c.val.toNat ≤ 127
  have : c.val.toNat = c.toNat := rfl
  omega

theorem takeBytes_ascii (h : Ascii s) {n : Nat} (hn : n ≤ byteLength s) : ∃ word, takeBytes n s = some word := by
  induction s generalizing n with
  | nil =>
    obtain rfl : n = 0 := Nat.le_zero.mp hn
    exact ⟨[], rfl⟩
  | cons c s ih =>
    cases n with
    | zero => exact ⟨[], rfl⟩
    | succ n =>
      have hsize := utf8Size_ascii (h c List.mem_cons_self)
      have hlen : byteLength (c :: s) = 1 + byteLength s := by
        show c.utf8Size + byteLength s = _
        rw [hsize]
      obtain ⟨word, hword⟩ := ih (fun d hd => h d (List.mem_cons_of_mem c hd)) (show n ≤ byteLength s by omega)
      refine ⟨c :: word, ?_⟩
      unfold takeBytes
      rw [hsize, if_pos (Nat.le_add_left 1 n), Nat.add_sub_cancel, hword]
      rfl

end DataNexus.Pdp.TopLevel
