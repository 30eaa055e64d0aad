/-
  Denied columns stripped from select lists (`rewrite_select_strip_columns` of `gateway/core/src/pdp.rs`).

  1. **Program** — `rewriteOneSelectList` writes the head of a text anew, up to its `FROM`; `rewriteNestedSelectLists` does
     the same behind every parenthesis that `SELECT` follows.  Single bytes are pushed as characters.

  2. **Specification** — `Edit`: one select list is written anew, and everything around it stays.

  3. **The crux** — `nested_edits`: what the walk puts out is reached by edits (`Edit.within`).  Every recursion has lost a
     parenthesis (`count_rewritten`), so that it ends.
-/
import DataNexus.Pdp.TopLevel
import DataNexus.Lib.Fallible
import Mathlib.Data.List.TakeWhile
import Mathlib.Logic.Relation

namespace DataNexus.Pdp.SelectList

open DataNexus.Pdp.TopLevel DataNexus.Text Relation

/-! ## One list -/

def selectItemBareName (item : List Char) : List Char :=
  let expr :=
    match findTopLevelKeyword "AS".toList item with
    | some i => trim (item.take i)
    | none =>
      match splitWhitespace item with
      | first :: _ :: _ => if first.contains '(' then trim item else first
      | _ => trim item
  toAsciiLowercase
    (trimMatches (· == '\'') (trimMatches (· == '"') (trimMatches (· == '`') (lastSegment '.' expr))))

/-- The front of a text: its blanks, whether `DISTINCT` follows, what is in front of `FROM`, and the rest. -/
structure SelectHead where
  indent : List Char
  distinct : Bool
  list : List Char
  rest : List Char

/-- The steps of `rewrite_one_select_list` up to `FROM`. -/
def selectHead (sql : List Char) : Option SelectHead :=
  let trimmed := trimStart sql
  if startsWith "SELECT".toList (toAsciiUppercase trimmed) = true then
    let afterSelect := trimStart (trimmed.drop 6)
    let distinct := startsWith "DISTINCT".toList (toAsciiUppercase afterSelect)
    let afterSelect := if distinct = true then trimStart (afterSelect.drop 8) else afterSelect
    (findTopLevelKeyword "FROM".toList afterSelect).map fun i =>
      ⟨sql.takeWhile isWhitespace, distinct, afterSelect.take i, afterSelect.drop i⟩
  else none

def keptItems (names : List (List Char)) (parts : List (List Char)) : List (List Char) :=
  parts.filter fun part => !names.contains (selectItemBareName part)

/-- `rewrite_one_select_list`.  A list of which nothing is kept leaves `SELECT` and the rest. -/
def rewriteOneSelectList (names : List (List Char)) (sql : List Char) : Option (List Char) :=
  if names.isEmpty = true then some sql
  else
    match selectHead sql with
    | none => none
    | some head =>
      let list := trim head.list
      if list = ['*'] ∨ ".*".toList.isSuffixOf list = true then none
      else
        let parts := splitSelectList list
        if parts.isEmpty = true then none
        else if (keptItems names parts).isEmpty = true then some ("SELECT ".toList ++ head.rest)
        else
          some (head.indent ++ "SELECT ".toList ++ (if head.distinct = true then "DISTINCT ".toList else []) ++
            List.intercalate ", ".toList (keptItems names parts) ++ ' ' :: trimStart head.rest)

/-! ## Nested lists -/

/-- How a rewrite ends without a result; `fuel` is the model's own. -/
inductive Stop where
  | panic
  | fuel
deriving DecidableEq

/-- Whether `SELECT` follows.  The cut may fall inside a character. -/
def beginsSelect (after : List Char) : Except Stop Bool :=
  let trimmed := trimStart after
  if byteLength trimmed < 6 then .ok false
  else
    match takeBytes 6 trimmed with
    | none => .error .panic
    | some word => .ok (sameIgnoringCase word "SELECT".toList)

/-- `out.push(c as char)` for every byte of a character. -/
def asChars (c : Char) : List Char := (String.utf8EncodeChar c).map fun b => Char.ofNat b.toNat

/-- The loop of `rewrite_nested_select_lists`, with so many characters still to be passed over. -/
def walk (inner : List Char → Except Stop (List Char)) : (skip : Nat) → Quote → List Char → Except Stop (List Char)
  | _, _, [] => .ok []
  | skip + 1, q, _ :: s => walk inner skip q s
  | 0, q, c :: s =>
    if q = .none ∧ c = '(' then
      match beginsSelect s with
      | .error stop => .error stop
      | .ok select =>
        match (if select = true then findMatchingParen s else none) with
        | none => (walk inner 0 .none s).map ('(' :: ·)
        | some close =>
          match inner (s.take close) with
          | .error stop => .error stop
          | .ok rewritten =>
            (walk inner (close + 1) .none s).map fun rest =>
              '(' :: s.takeWhile isWhitespace ++ trimStart rewritten ++ ')' :: rest
    else (walk inner 0 (q.next c) s).map (asChars c ++ ·)

def rewriteNestedSelectLists (names : List (List Char)) : (fuel : Nat) → List Char → Except Stop (List Char)
  | 0, _ => .error .fuel
  | fuel + 1, sql =>
    if names.isEmpty = true then .ok sql
    else
      walk (fun inner => rewriteNestedSelectLists names fuel ((rewriteOneSelectList names inner).getD inner)) 0 .none sql

def deniedNames (denied : List (String × String)) : List (List Char) := denied.map fun d => toAsciiLowercase d.2.toList

/-- `rewrite_select_strip_columns`.  A recursion for every parenthesis is enough. -/
def rewriteSelectStripColumns (sql : List Char) (denied : List (String × String)) :
    Except Stop (Option (List Char)) :=
  if denied.isEmpty = true then .ok (some sql)
  else
    match rewriteOneSelectList (deniedNames denied) sql with
    | none => .ok none
    | some outer => (rewriteNestedSelectLists (deniedNames denied) (outer.count '(' + 1) outer).map some

/-! ## Specification -/

def letters (s : List Char) : List Char := toAsciiUppercase (s.filter fun c => !isWhitespace c)

def Blank (s : List Char) : Prop := ∀ c ∈ s, isWhitespace c = true

def items (pieces : List (List Char)) : List (List Char) := (pieces.map trim).filter fun part => !part.isEmpty

/-- One select list is written anew.  `head` is `SELECT`, or `SELECT DISTINCT`, up to case and blanks; the list is what is
    between commas, none of them inside quotes or parentheses; `FROM` follows. -/
inductive Edit (names : List (List Char)) : List Char → List Char → Prop
  | kept {front head head' gap back : List Char} {pieces : List (List Char)}
      (hhead : letters head = "SELECT".toList ∨ letters head = "SELECTDISTINCT".toList)
      (hsame : letters head' = letters head)
      (hpieces : ∀ p ∈ pieces, Unbroken .top p)
      (hgap : Blank gap)
      (hback : startsWith "FROM".toList (toAsciiUppercase back) = true)
      (hkept : keptItems names (items pieces) ≠ []) :
      Edit names (front ++ head ++ List.intercalate [','] pieces ++ gap ++ back)
        (front ++ head' ++ List.intercalate ", ".toList (keptItems names (items pieces)) ++ ' ' :: back)
  | emptied {front head head' gap back : List Char} {pieces : List (List Char)}
      (hhead : letters head = "SELECT".toList ∨ letters head = "SELECTDISTINCT".toList)
      (hsame : letters head' = "SELECT".toList)
      (hpieces : ∀ p ∈ pieces, Unbroken .top p)
      (hgap : Blank gap)
      (hback : startsWith "FROM".toList (toAsciiUppercase back) = true)
      (hkept : keptItems names (items pieces) = []) :
      Edit names (front ++ head ++ List.intercalate [','] pieces ++ gap ++ back) (front ++ head' ++ back)

abbrev Edits (names : List (List Char)) : List Char → List Char → Prop := ReflTransGen (Edit names)

variable {names : List (List Char)}

variable {a b ws s sep r : List Char} {c : Char} {xs : List (List Char)} {e : Stop} {skip : Nat} {q : Quote}

theorem Edit.within (h : Edit names a b) (x y : List Char) : Edit names (x ++ a ++ y) (x ++ b ++ y) := by
  cases h with
  | @kept front head head' gap back pieces hhead hsame hpieces hgap hback hkept =>
    have hedit := @Edit.kept names (x ++ front) head head' gap (back ++ y) pieces hhead hsame hpieces hgap
      (startsWith_upper_append hback y) hkept
    simpa only [List.append_assoc, List.cons_append] using hedit
  | @emptied front head head' gap back pieces hhead hsame hpieces hgap hback hkept =>
    have hedit := @Edit.emptied names (x ++ front) head head' gap (back ++ y) pieces hhead hsame hpieces hgap
      (startsWith_upper_append hback y) hkept
    simpa only [List.append_assoc, List.cons_append] using hedit

theorem Edits.within (h : Edits names a b) (x y : List Char) : Edits names (x ++ a ++ y) (x ++ b ++ y) :=
  ReflTransGen.lift (fun s => x ++ s ++ y) (fun _ _ hab => Edit.within hab x y) a b h

/-! ## The parts of a text -/

theorem blank_takeWhile (s : List Char) : Blank (s.takeWhile isWhitespace) := fun _ hc => List.mem_takeWhile_imp hc

theorem takeWhile_append_trimStart (s : List Char) : s.takeWhile isWhitespace ++ trimStart s = s :=
  List.takeWhile_append_dropWhile

theorem trimStart_blank_append (h : Blank ws) : trimStart (ws ++ s) = trimStart s := by
  induction ws with
  | nil => rfl
  | cons c ws ih =>
    show trimStart (c :: (ws ++ s)) = _
    unfold trimStart
    rw [List.dropWhile_cons_of_pos (h c List.mem_cons_self)]
    exact ih fun d hd => h d (List.mem_cons_of_mem c hd)

theorem trimStart_eq (h : isWhitespace c = false) : trimStart (c :: s) = c :: s := by
  unfold trimStart
  rw [List.dropWhile_cons_of_neg (by rw [h]; exact Bool.false_ne_true)]

theorem trim_parts (s : List Char) : ∃ front back, Blank front ∧ Blank back ∧ s = front ++ trim s ++ back := by
  refine ⟨s.takeWhile isWhitespace, ((trimStart s).reverse.takeWhile isWhitespace).reverse, blank_takeWhile s, ?_, ?_⟩
  · intro c hc
    exact List.mem_takeWhile_imp (List.mem_reverse.mp hc)
  · rw [List.append_assoc]
    have hback : trim s ++ ((trimStart s).reverse.takeWhile isWhitespace).reverse = trimStart s := by
      unfold trim trimEnd
      rw [← List.reverse_append, List.takeWhile_append_dropWhile, List.reverse_reverse]
    rw [hback, takeWhile_append_trimStart]

theorem letters_append (a b : List Char) : letters (a ++ b) = letters a ++ letters b := by
  unfold letters toAsciiUppercase
  rw [List.filter_append, List.map_append]

theorem letters_blank (h : Blank s) : letters s = [] := by
  have hnone : s.filter (fun c => !isWhitespace c) = [] := by
    refine List.filter_eq_nil_iff.mpr fun c hc => ?_
    rw [h c hc]
    exact Bool.false_ne_true
  unfold letters
  rw [hnone]
  rfl

theorem toUpper_blank (h : isWhitespace c = true) : c.toUpper = c := by
  unfold Char.toUpper
  refine dif_neg fun hlower => ?_
  have hge : 97 ≤ c.toNat := hlower.1
  have hle : c.toNat ≤ 122 := hlower.2
  simp only [isWhitespace, Bool.or_eq_true, Bool.and_eq_true, decide_eq_true_eq, beq_iff_eq] at h
  omega

theorem letters_take {key : List Char} (hkey : ∀ c ∈ key, isWhitespace c = false)
    (h : startsWith key (toAsciiUppercase s) = true) : letters (s.take key.length) = key := by
  have hupper : toAsciiUppercase (s.take key.length) = key := by
    have htake := List.prefix_iff_eq_take.mp (List.isPrefixOf_iff_prefix.mp h)
    unfold toAsciiUppercase at htake ⊢
    rw [List.map_take]
    exact htake.symm
  have hall : (s.take key.length).filter (fun c => !isWhitespace c) = s.take key.length := by
    refine List.filter_eq_self.mpr fun c hc => ?_
    by_contra hblank
    have hblank : isWhitespace c = true := by simpa using hblank
    have hmem : c ∈ key := by
      rw [← hupper, ← toUpper_blank hblank]
      exact List.mem_map_of_mem hc
    rw [hkey c hmem] at hblank
    exact Bool.false_ne_true hblank
  unfold letters
  rw [hall, hupper]

theorem cut_word {key : List Char} (hsolid : key.all (!isWhitespace ·) = true)
    (h : startsWith key (toAsciiUppercase s) = true) :
    ∃ word, s = word ++ trimStart (s.drop key.length) ∧ letters word = key := by
  have hkey : ∀ c ∈ key, isWhitespace c = false := fun c hc => by simpa using List.all_eq_true.mp hsolid c hc
  refine ⟨s.take key.length ++ (s.drop key.length).takeWhile isWhitespace, ?_, ?_⟩
  · rw [List.append_assoc, takeWhile_append_trimStart, List.take_append_drop]
  · rw [letters_append, letters_take hkey h, letters_blank (blank_takeWhile _), List.append_nil]

/-- `SELECT`, and `DISTINCT` behind it. -/
def selectWords (distinct : Bool) : List Char := if distinct = true then "SELECTDISTINCT".toList else "SELECT".toList

theorem selectHead_some {sql : List Char} {head : SelectHead} (h : selectHead sql = some head) :
    ∃ word, sql = head.indent ++ word ++ head.list ++ head.rest ∧ Blank head.indent ∧
      letters word = selectWords head.distinct ∧ Level.top.run head.list = .top ∧
      startsWith "FROM".toList (toAsciiUppercase head.rest) = true := by
  unfold selectHead at h
  dsimp only at h
  by_cases hselect : startsWith "SELECT".toList (toAsciiUppercase (trimStart sql)) = true
  · rw [if_pos hselect] at h
    obtain ⟨i, hi, rfl⟩ := Option.map_eq_some_iff.mp h
    obtain ⟨hle, hrun, hfrom⟩ := findKeywordFrom_some hi
    obtain ⟨word, hword, hletters⟩ := cut_word (by decide) hselect
    have hsql : sql = sql.takeWhile isWhitespace ++ (word ++ trimStart ((trimStart sql).drop 6)) := by
      rw [← show trimStart sql = word ++ trimStart ((trimStart sql).drop 6) from hword, takeWhile_append_trimStart]
    generalize trimStart ((trimStart sql).drop 6) = after at hi hle hrun hfrom hsql ⊢
    by_cases hdistinct : startsWith "DISTINCT".toList (toAsciiUppercase after) = true
    · obtain ⟨word', hword', hletters'⟩ := cut_word (by decide) hdistinct
      rw [if_pos hdistinct] at hi hle hrun hfrom ⊢
      refine ⟨word ++ word', ?_, blank_takeWhile sql, ?_, hrun, hfrom⟩
      · have hafter : after = word' ++ trimStart (after.drop 8) := hword'
        simp only [List.append_assoc, List.take_append_drop]
        rw [← hafter]
        exact hsql
      · rw [letters_append, hletters, hletters']
        unfold selectWords
        rw [if_pos hdistinct]
        rfl
    · rw [if_neg hdistinct] at hi hle hrun hfrom ⊢
      refine ⟨word, ?_, blank_takeWhile sql, ?_, hrun, hfrom⟩
      · simp only [List.append_assoc, List.take_append_drop]
        exact hsql
      · unfold selectWords
        rw [if_neg hdistinct, hletters]
  · rw [if_neg hselect] at h
    cases h

/-! ## One list is an edit -/

theorem plain_of_blank (h : Blank s) : ∀ c ∈ s, plain c = true := fun c hc => plain_of_isWhitespace (h c hc)

theorem run_trim (l : Level) (s : List Char) : l.run (trim s) = l.run s := by
  obtain ⟨front, back, hfront, hback, hs⟩ := trim_parts s
  rw [hs, Level.run_append, Level.run_append, Level.run_plain (plain_of_blank hfront), Level.run_plain (plain_of_blank hback)]
  congr 1
  rw [← hs]

theorem trimStart_from (h : startsWith "FROM".toList (toAsciiUppercase s) = true) : trimStart s = s := by
  cases s with
  | nil => rfl
  | cons c s =>
    refine trimStart_eq (Bool.eq_false_iff.mpr fun hblank => ?_)
    have hletter : 'F' = c.toUpper := (List.cons_prefix_cons.mp (List.isPrefixOf_iff_prefix.mp h)).1
    rw [toUpper_blank hblank] at hletter
    rw [← hletter] at hblank
    exact absurd hblank (by decide)

/-- **One list.**  What is in front of the new text may be any blanks. -/
theorem rewriteOne_edit {sql out lead : List Char} (hnames : names.isEmpty = false)
    (h : rewriteOneSelectList names sql = some out) (hlead : Blank lead) : Edit names sql (lead ++ trimStart out) := by
  unfold rewriteOneSelectList at h
  rw [if_neg (by rw [hnames]; exact Bool.false_ne_true)] at h
  cases hhead : selectHead sql with
  | none =>
    rw [hhead] at h
    cases h
  | some head =>
    rw [hhead] at h
    dsimp only at h
    obtain ⟨word, hsql, hindent, hletters, hrun, hfrom⟩ := selectHead_some hhead
    obtain ⟨front, gap, hfront, hgap, hlist⟩ := trim_parts head.list
    have hpieces : ∀ p ∈ piecesFrom .top (trim head.list), Unbroken .top p := fun p hp =>
      unbroken_of_mem ((run_trim .top head.list).trans hrun) hp
    have hsplit : sql = [] ++ (head.indent ++ word ++ front) ++ List.intercalate [','] (piecesFrom .top (trim head.list)) ++
        gap ++ head.rest := by
      rw [intercalate_piecesFrom, List.nil_append]
      calc sql = head.indent ++ word ++ head.list ++ head.rest := hsql
        _ = head.indent ++ word ++ (front ++ trim head.list ++ gap) ++ head.rest := by rw [← hlist]
        _ = head.indent ++ word ++ front ++ trim head.list ++ gap ++ head.rest := by simp only [List.append_assoc]
    have hword : letters (head.indent ++ word ++ front) = selectWords head.distinct := by
      rw [letters_append, letters_append, letters_blank hindent, letters_blank hfront, hletters]
      exact List.append_nil _
    have hwords : letters (head.indent ++ word ++ front) = "SELECT".toList ∨
        letters (head.indent ++ word ++ front) = "SELECTDISTINCT".toList := by
      rw [hword]
      cases head.distinct with
      | true => exact .inr rfl
      | false => exact .inl rfl
    split at h
    · cases h
    · split at h
      · cases h
      · split at h
        · rename_i hkept
          obtain rfl := Option.some.inj h
          have hedit := @Edit.emptied names [] (head.indent ++ word ++ front) (lead ++ "SELECT ".toList) gap head.rest _
            hwords (by rw [letters_append, letters_blank hlead]; decide) hpieces hgap hfrom (List.isEmpty_iff.mp hkept)
          rw [← hsplit] at hedit
          have hout : trimStart ("SELECT ".toList ++ head.rest) = "SELECT ".toList ++ head.rest := trimStart_eq (by decide)
          rw [hout]
          simpa only [List.nil_append, List.append_assoc] using hedit
        · rename_i hkept
          obtain rfl := Option.some.inj h
          have hedit := @Edit.kept names [] (head.indent ++ word ++ front)
            (lead ++ ("SELECT ".toList ++ if head.distinct = true then "DISTINCT ".toList else [])) gap head.rest _
            hwords ?_ hpieces hgap hfrom (fun hnil => hkept (List.isEmpty_iff.mpr hnil))
          · rw [← hsplit] at hedit
            have hout : trimStart (head.indent ++ "SELECT ".toList ++
                (if head.distinct = true then "DISTINCT ".toList else []) ++
                List.intercalate ", ".toList (keptItems names (splitSelectList (trim head.list))) ++
                ' ' :: trimStart head.rest) =
              "SELECT ".toList ++ (if head.distinct = true then "DISTINCT ".toList else []) ++
                List.intercalate ", ".toList (keptItems names (splitSelectList (trim head.list))) ++ ' ' :: head.rest := by
              simp only [List.append_assoc, trimStart_blank_append hindent, trimStart_from hfrom]
              exact trimStart_eq (by decide)
            rw [hout, show splitSelectList (trim head.list) = items (piecesFrom .top (trim head.list)) from rfl]
            simpa only [List.nil_append, List.append_assoc] using hedit
          · rw [letters_append, letters_blank hlead, hword]
            cases head.distinct with
            | true => decide
            | false => decide

/-! ## What a rewritten list is made of -/

theorem mem_intercalate (h : c ∈ List.intercalate sep xs) : c ∈ sep ∨ ∃ x ∈ xs, c ∈ x := by
  induction xs with
  | nil => cases h
  | cons x xs ih =>
    cases xs with
    | nil =>
      rw [List.intercalate_singleton] at h
      exact .inr ⟨x, List.mem_cons_self, h⟩
    | cons y xs =>
      rw [List.intercalate_cons_cons, List.mem_append, List.mem_append] at h
      rcases h with (h | h) | h
      · exact .inr ⟨x, List.mem_cons_self, h⟩
      · exact .inl h
      · rcases ih h with h | ⟨z, hz, hc⟩
        · exact .inl h
        · exact .inr ⟨z, List.mem_cons_of_mem x hz, hc⟩

theorem mem_intercalate_of_mem {x : List Char} (hx : x ∈ xs) (hc : c ∈ x) : c ∈ List.intercalate sep xs := by
  induction xs with
  | nil => cases hx
  | cons y xs ih =>
    cases xs with
    | nil =>
      obtain rfl := List.mem_singleton.mp hx
      rw [List.intercalate_singleton]
      exact hc
    | cons z xs =>
      rw [List.intercalate_cons_cons]
      rcases List.mem_cons.mp hx with rfl | hx
      · exact List.mem_append_left _ (List.mem_append_left _ hc)
      · exact List.mem_append_right _ (ih hx)

theorem count_intercalate (hsep : c ∉ sep) (xs : List (List Char)) :
    (List.intercalate sep xs).count c = xs.flatten.count c := by
  induction xs with
  | nil => rfl
  | cons x xs ih =>
    cases xs with
    | nil => rw [List.intercalate_singleton, List.flatten_singleton]
    | cons y xs =>
      rw [List.intercalate_cons_cons, List.count_append, List.count_append, ih, List.count_eq_zero.mpr hsep, Nat.add_zero]
      exact List.count_append.symm

theorem trim_sublist (s : List Char) : (trim s).Sublist s := by
  obtain ⟨front, back, _, _, hs⟩ := trim_parts s
  have hmid : (trim s).Sublist (front ++ trim s ++ back) :=
    (List.sublist_append_right front (trim s)).trans (List.sublist_append_left _ back)
  rwa [← hs] at hmid

theorem flatten_keptItems (names : List (List Char)) (pieces : List (List Char)) :
    (keptItems names (items pieces)).flatten.Sublist pieces.flatten := by
  induction pieces with
  | nil => exact List.Sublist.slnil
  | cons p pieces ih =>
    have hcases : keptItems names (items (p :: pieces)) = trim p :: keptItems names (items pieces) ∨
        keptItems names (items (p :: pieces)) = keptItems names (items pieces) := by
      unfold items keptItems
      rw [List.map_cons, List.filter_cons]
      split
      · rw [List.filter_cons]
        split
        · exact .inl rfl
        · exact .inr rfl
      · exact .inr rfl
    rw [List.flatten_cons]
    rcases hcases with hkept | hkept
    · rw [hkept, List.flatten_cons]
      exact (trim_sublist p).append ih
    · rw [hkept]
      exact ih.trans (List.sublist_append_right p _)

theorem paren_notMem_of_letters (h : letters s = "SELECT".toList ∨ letters s = "SELECTDISTINCT".toList) :
    s.count '(' = 0 := by
  refine List.count_eq_zero.mpr fun hmem => ?_
  have hletter : '(' ∈ letters s := by
    have hfilter : '(' ∈ s.filter fun c => !isWhitespace c := List.mem_filter.mpr ⟨hmem, by decide⟩
    exact List.mem_map_of_mem (f := Char.toUpper) hfilter
  rcases h with h | h
  · rw [h] at hletter
    exact absurd hletter (by decide)
  · rw [h] at hletter
    exact absurd hletter (by decide)

theorem Edit.count_le (h : Edit names a b) : b.count '(' ≤ a.count '(' := by
  cases h with
  | @kept front head head' gap back pieces hhead hsame hpieces hgap hback hkept =>
    have hnew := paren_notMem_of_letters (hhead.imp hsame.trans hsame.trans)
    have hitems := (flatten_keptItems names pieces).count_le '('
    simp only [List.count_append, List.count_cons_of_ne (show ' ' ≠ '(' by decide),
      count_intercalate (show '(' ∉ ", ".toList by decide), count_intercalate (show '(' ∉ [','] by decide)]
    omega
  | @emptied front head head' gap back pieces hhead hsame hpieces hgap hback hkept =>
    have hnew := paren_notMem_of_letters (.inl hsame)
    simp only [List.count_append]
    omega

theorem count_trimStart (s : List Char) : (trimStart s).count '(' = s.count '(' := by
  have hblank : (s.takeWhile isWhitespace).count '(' = 0 :=
    List.count_eq_zero.mpr fun hmem => absurd (blank_takeWhile s _ hmem) (by decide)
  have hcount := congrArg (List.count '(') (takeWhile_append_trimStart s)
  rw [List.count_append, hblank, Nat.zero_add] at hcount
  exact hcount

theorem count_rewritten (hnames : names.isEmpty = false) (sql : List Char) :
    ((rewriteOneSelectList names sql).getD sql).count '(' ≤ sql.count '(' := by
  cases hout : rewriteOneSelectList names sql with
  | none => exact Nat.le_refl _
  | some out =>
    have hle := (@rewriteOne_edit names sql out [] hnames hout fun c hc => absurd hc List.not_mem_nil).count_le
    rw [List.nil_append, count_trimStart] at hle
    exact hle

/-! ## ASCII -/

theorem ascii_kept {pieces : List (List Char)} (h : Ascii (List.intercalate [','] pieces)) :
    Ascii (List.intercalate ", ".toList (keptItems names (items pieces))) := by
  intro c hc
  rcases mem_intercalate hc with hc | ⟨x, hx, hc⟩
  · exact (show Ascii ", ".toList by decide) c hc
  · have hflat : c ∈ pieces.flatten := (flatten_keptItems names pieces).subset (List.mem_flatten.mpr ⟨x, hx, hc⟩)
    obtain ⟨p, hp, hc⟩ := List.mem_flatten.mp hflat
    exact h c (mem_intercalate_of_mem hp hc)

theorem ascii_rewritten (hnames : names.isEmpty = false) {sql : List Char} (h : Ascii sql) :
    Ascii ((rewriteOneSelectList names sql).getD sql) := by
  cases hout : rewriteOneSelectList names sql with
  | none => exact h
  | some out =>
    show Ascii out
    unfold rewriteOneSelectList at hout
    rw [if_neg (by rw [hnames]; exact Bool.false_ne_true)] at hout
    cases hhead : selectHead sql with
    | none =>
      rw [hhead] at hout
      cases hout
    | some head =>
      rw [hhead] at hout
      dsimp only at hout
      obtain ⟨word, hsql, _, _, _, hfrom⟩ := selectHead_some hhead
      rw [hsql] at h
      have hindent : Ascii head.indent := h.of_subset fun c hc => by simp [hc]
      have hrest : Ascii head.rest := h.of_subset fun c hc => by simp [hc]
      have hlist : Ascii (trim head.list) := h.of_subset fun c hc => by
        have := (trim_sublist head.list).subset hc
        simp [this]
      split at hout
      · cases hout
      · split at hout
        · cases hout
        · split at hout
          · obtain rfl := Option.some.inj hout
            exact Ascii.append (by decide) hrest
          · obtain rfl := Option.some.inj hout
            rw [← intercalate_piecesFrom .top (trim head.list)] at hlist
            refine (((hindent.append (by decide)).append ?_).append (ascii_kept hlist)).append ?_
            · cases head.distinct with
              | true => decide
              | false => decide
            · rw [trimStart_from hfrom]
              exact Ascii.append (show Ascii [' '] by decide) hrest

theorem asChars_ascii (h : c.toNat < 128) : asChars c = [c] := by
  unfold asChars
  rw [String.utf8EncodeChar_eq_singleton (utf8Size_ascii h)]
  have hlt : c.val.toNat < 256 := by
    have : c.val.toNat = c.toNat := rfl
    omega
  simp only [List.map_cons, List.map_nil, UInt32.toNat_toUInt8, Nat.mod_eq_of_lt hlt]
  exact congrArg (· :: []) (Char.ofNat_toNat c)

theorem beginsSelect_error (h : beginsSelect s = .error e) : e = .panic ∧ ¬ Ascii s := by
  unfold beginsSelect at h
  dsimp only at h
  split at h
  · cases h
  · rename_i hlong
    cases htake : takeBytes 6 (trimStart s) with
    | some word =>
      rw [htake] at h
      cases h
    | none =>
      rw [htake] at h
      refine ⟨(Except.error.inj h).symm, fun hascii => ?_⟩
      have hsub : trimStart s ⊆ s := fun c hc => (List.dropWhile_sublist _).subset hc
      obtain ⟨word, hword⟩ := takeBytes_ascii (hascii.of_subset hsub) (Nat.not_lt.mp hlong)
      rw [hword] at htake
      cases htake

/-! ## How the walk ends -/

theorem map_eq_error {ε α β : Type} {x : Except ε α} {f : α → β} {e : ε} (h : x.map f = .error e) : x = .error e := by
  cases x with
  | ok a => cases h
  | error e' => exact congrArg Except.error (Except.error.inj h)

theorem walk_error {inner : List Char → Except Stop (List Char)} (h : walk inner skip q s = .error e) :
    (∃ t, t ⊆ s ∧ t.count '(' < s.count '(' ∧ inner t = .error e) ∨ (e = .panic ∧ ¬ Ascii s) := by
  induction s generalizing skip q with
  | nil =>
    unfold walk at h
    cases h
  | cons c s ih =>
    have hmore : ((∃ t, t ⊆ s ∧ t.count '(' < s.count '(' ∧ inner t = .error e) ∨ (e = .panic ∧ ¬ Ascii s)) →
        (∃ t, t ⊆ c :: s ∧ t.count '(' < (c :: s).count '(' ∧ inner t = .error e) ∨ (e = .panic ∧ ¬ Ascii (c :: s)) := by
      rintro (⟨t, ht, hcount, hinner⟩ | ⟨he, hascii⟩)
      · exact .inl ⟨t, fun d hd => List.mem_cons_of_mem c (ht hd), Nat.lt_of_lt_of_le hcount (List.count_le_count_cons ..), hinner⟩
      · exact .inr ⟨he, fun hall => hascii fun d hd => hall d (List.mem_cons_of_mem c hd)⟩
    cases skip with
    | succ skip => exact hmore (ih h)
    | zero =>
      unfold walk at h
      by_cases hopen : q = .none ∧ c = '('
      · rw [if_pos hopen] at h
        cases hselect : beginsSelect s with
        | error stop =>
          rw [hselect] at h
          obtain rfl := Except.error.inj h
          exact hmore (.inr (beginsSelect_error hselect))
        | ok select =>
          rw [hselect] at h
          dsimp only at h
          cases hclose : (if select = true then findMatchingParen s else none) with
          | none =>
            rw [hclose] at h
            exact hmore (ih (map_eq_error h))
          | some close =>
            rw [hclose] at h
            dsimp only at h
            cases hinner : inner (s.take close) with
            | ok rewritten =>
              rw [hinner] at h
              exact hmore (ih (map_eq_error h))
            | error stop =>
              rw [hinner] at h
              obtain rfl := Except.error.inj h
              refine .inl ⟨s.take close, fun d hd => List.mem_cons_of_mem c (List.take_subset close s hd), ?_, hinner⟩
              rw [hopen.2, List.count_cons_self]
              exact Nat.lt_succ_of_le ((List.take_sublist close s).count_le '(')
      · rw [if_neg hopen] at h
        exact hmore (ih (map_eq_error h))

/-- A rewrite of nested lists ends with a result, unless the fuel is less than the parentheses, or a cut goes wrong. -/
theorem nested_error {fuel : Nat} {sql : List Char} (hnames : names.isEmpty = false)
    (h : rewriteNestedSelectLists names fuel sql = .error e) :
    (e = .fuel ∧ fuel ≤ sql.count '(') ∨ (e = .panic ∧ ¬ Ascii sql) := by
  induction fuel generalizing sql with
  | zero => exact .inl ⟨(Except.error.inj h).symm, Nat.zero_le _⟩
  | succ fuel ih =>
    unfold rewriteNestedSelectLists at h
    rw [if_neg (by rw [hnames]; exact Bool.false_ne_true)] at h
    rcases walk_error h with ⟨t, hsub, hcount, ht⟩ | hpanic
    · have hle := count_rewritten hnames t
      rcases ih ht with ⟨he, hfuel⟩ | ⟨he, hascii⟩
      · exact .inl ⟨he, by omega⟩
      · exact .inr ⟨he, fun hall => hascii (ascii_rewritten hnames (hall.of_subset hsub))⟩
    · exact .inr hpanic

/-! ## The walk edits -/

variable {inner : List Char → Except Stop (List Char)}

theorem walk_cons (hc : c.toNat < 128) (h : walk inner 0 q (c :: s) = .ok r) : ∃ rest, r = c :: rest := by
  unfold walk at h
  by_cases hopen : q = .none ∧ c = '('
  · rw [if_pos hopen] at h
    cases hselect : beginsSelect s with
    | error stop =>
      rw [hselect] at h
      cases h
    | ok select =>
      rw [hselect] at h
      dsimp only at h
      cases hclose : (if select = true then findMatchingParen s else none) with
      | none =>
        rw [hclose] at h
        obtain ⟨rest, _, hr⟩ := Fallible.map_eq_ok.mp h
        exact ⟨rest, by rw [← hr, hopen.2]⟩
      | some close =>
        rw [hclose] at h
        dsimp only at h
        cases hinner : inner (s.take close) with
        | error stop =>
          rw [hinner] at h
          cases h
        | ok rewritten =>
          rw [hinner] at h
          obtain ⟨rest, _, hr⟩ := Fallible.map_eq_ok.mp h
          exact ⟨_, by rw [← hr, hopen.2]; rfl⟩
  · rw [if_neg hopen] at h
    obtain ⟨rest, _, hr⟩ := Fallible.map_eq_ok.mp h
    rw [asChars_ascii hc] at hr
    exact ⟨rest, hr.symm⟩

theorem walk_copy {q : Quote} {c : Char} (h : c ≠ '(') (s : List Char) :
    walk inner 0 q (c :: s) = (walk inner 0 (q.next c) s).map (asChars c ++ ·) := by
  rw [walk, if_neg fun hopen => h hopen.2]

theorem walk_blank (hws : Blank ws) (hascii : Ascii ws) :
    walk inner 0 .none (ws ++ s) = (walk inner 0 .none s).map (ws ++ ·) := by
  generalize hrest : walk inner 0 .none s = rest
  induction ws with
  | nil =>
    rw [List.nil_append, hrest]
    cases rest with
    | ok r => rfl
    | error e => rfl
  | cons c ws ih =>
    obtain ⟨hsingle, hdouble, hback, hopen, hclose⟩ := plain_eq_true (plain_of_isWhitespace (hws c List.mem_cons_self))
    have hnext : Quote.none.next c = .none := by simp [Quote.next, hsingle, hdouble, hback]
    rw [List.cons_append, walk_copy hopen, hnext, asChars_ascii (hascii c List.mem_cons_self),
      ih (fun d hd => hws d (List.mem_cons_of_mem c hd)) fun d hd => hascii d (List.mem_cons_of_mem c hd)]
    cases rest with
    | ok r => rfl
    | error e => rfl

theorem takeWhile_inside {t rest : List Char} : (t ++ ')' :: rest).takeWhile isWhitespace = t.takeWhile isWhitespace := by
  rw [List.takeWhile_append]
  split
  · rename_i hall
    rw [List.takeWhile_cons_of_neg (by decide), List.append_nil]
    exact ((List.takeWhile_prefix isWhitespace).eq_of_length hall).symm
  · rfl

/-- **One step after the other.**  If the recursion edits, so does the walk. -/
theorem walk_edits (hinner : ∀ t r, Ascii t → inner t = .ok r → Edits names t (t.takeWhile isWhitespace ++ trimStart r))
    (hascii : Ascii s) (h : walk inner skip q s = .ok r) : Edits names (s.drop skip) r := by
  induction s generalizing skip q r with
  | nil =>
    unfold walk at h
    obtain rfl := Except.ok.inj h
    rw [List.drop_nil]
  | cons c s ih =>
    have hs : Ascii s := fun d hd => hascii d (List.mem_cons_of_mem c hd)
    cases skip with
    | succ skip => exact ih hs h
    | zero =>
      unfold walk at h
      by_cases hopen : q = .none ∧ c = '('
      · rw [if_pos hopen] at h
        cases hselect : beginsSelect s with
        | error stop =>
          rw [hselect] at h
          cases h
        | ok select =>
          rw [hselect] at h
          dsimp only at h
          cases hclose : (if select = true then findMatchingParen s else none) with
          | none =>
            rw [hclose] at h
            obtain ⟨rest, hrest, rfl⟩ := Fallible.map_eq_ok.mp h
            have hedits := Edits.within (ih hs hrest) ['('] []
            rw [hopen.2]
            simpa only [List.append_nil, List.singleton_append, List.drop_zero] using hedits
          | some close =>
            rw [hclose] at h
            dsimp only at h
            cases hrewritten : inner (s.take close) with
            | error stop =>
              rw [hrewritten] at h
              cases h
            | ok rewritten =>
              rw [hrewritten] at h
              obtain ⟨rest, hrest, rfl⟩ := Fallible.map_eq_ok.mp h
              have hparen : findMatchingParen s = some close := by
                cases select with
                | true => exact hclose
                | false => cases hclose
              have hsplit := findParenFrom_some hparen
              have hlead : s.takeWhile isWhitespace = (s.take close).takeWhile isWhitespace := by
                conv_lhs => rw [hsplit]
                exact takeWhile_inside
              -- first what is inside the parenthesis, then what is behind it
              have hinside := Edits.within
                (hinner _ _ (hs.of_subset (List.take_subset close s)) hrewritten) ['('] (')' :: s.drop (close + 1))
              have hbehind := Edits.within (ih hs hrest)
                ('(' :: (s.take close).takeWhile isWhitespace ++ trimStart rewritten ++ [')']) []
              have hstart : c :: s = ['('] ++ s.take close ++ ')' :: s.drop (close + 1) := by
                rw [hopen.2, List.singleton_append, List.cons_append, ← hsplit]
              rw [List.drop_zero, hstart, hlead]
              refine hinside.trans ?_
              simpa only [List.append_assoc, List.cons_append, List.nil_append, List.append_nil] using hbehind
      · rw [if_neg hopen] at h
        obtain ⟨rest, hrest, rfl⟩ := Fallible.map_eq_ok.mp h
        rw [asChars_ascii (hascii c List.mem_cons_self)]
        simpa only [List.append_nil, List.singleton_append, List.drop_zero] using Edits.within (ih hs hrest) [c] []

theorem walk_trimStart
    (hinner : ∀ t r, Ascii t → inner t = .ok r → Edits names t (t.takeWhile isWhitespace ++ trimStart r))
    (hascii : Ascii s) (h : walk inner 0 .none s = .ok r) : Edits names (trimStart s) (trimStart r) := by
  have hblank : Blank (s.takeWhile isWhitespace) := blank_takeWhile s
  have hlead : Ascii (s.takeWhile isWhitespace) := hascii.of_subset fun c hc => (List.takeWhile_sublist _).subset hc
  have htrim : Ascii (trimStart s) := hascii.of_subset fun c hc => (List.dropWhile_sublist _).subset hc
  rw [← takeWhile_append_trimStart s, walk_blank hblank hlead] at h
  obtain ⟨rest, hrest, rfl⟩ := Fallible.map_eq_ok.mp h
  have hedits := walk_edits hinner htrim hrest
  rw [List.drop_zero] at hedits
  rw [trimStart_blank_append hblank]
  have hkeep : trimStart rest = rest := by
    cases hs : trimStart s with
    | nil =>
      rw [hs] at hrest
      unfold walk at hrest
      obtain rfl := Except.ok.inj hrest
      rfl
    | cons c t =>
      rw [hs] at hrest htrim
      obtain ⟨u, rfl⟩ := walk_cons (htrim c List.mem_cons_self) hrest
      have hnot : ¬ isWhitespace c = true := fun hc => by
        have hhead := List.head?_dropWhile_not isWhitespace s
        rw [show s.dropWhile isWhitespace = c :: t from hs] at hhead
        simp [hc] at hhead
      exact trimStart_eq (Bool.eq_false_iff.mpr hnot)
  rw [hkeep]
  exact hedits

/-- **Nested lists.**  Induction on the fuel: the walk, with what is inside a parenthesis rewritten already. -/
theorem nested_edits (hnames : names.isEmpty = false) {fuel : Nat} {sql : List Char} (hascii : Ascii sql)
    (h : rewriteNestedSelectLists names fuel sql = .ok r) :
    Edits names sql r ∧ Edits names (trimStart sql) (trimStart r) := by
  induction fuel generalizing sql r with
  | zero => cases h
  | succ fuel ih =>
    unfold rewriteNestedSelectLists at h
    rw [if_neg (by rw [hnames]; exact Bool.false_ne_true)] at h
    have hinner : ∀ t r, Ascii t →
        rewriteNestedSelectLists names fuel ((rewriteOneSelectList names t).getD t) = .ok r →
        Edits names t (t.takeWhile isWhitespace ++ trimStart r) := by
      intro t r ht hr
      have hedits := (ih (ascii_rewritten hnames ht) hr).2
      cases hone : rewriteOneSelectList names t with
      | none =>
        rw [hone] at hedits
        have hwithin := Edits.within hedits (t.takeWhile isWhitespace) []
        rw [List.append_nil, List.append_nil, Option.getD_none, takeWhile_append_trimStart] at hwithin
        exact hwithin
      | some out =>
        rw [hone] at hedits
        have hwithin := Edits.within hedits (t.takeWhile isWhitespace) []
        rw [List.append_nil, List.append_nil] at hwithin
        exact ReflTransGen.head (rewriteOne_edit hnames hone (blank_takeWhile t)) hwithin
    have hwalk := walk_edits hinner hascii h
    rw [List.drop_zero] at hwalk
    exact ⟨hwalk, walk_trimStart hinner hascii h⟩

/-! ## The result -/

end DataNexus.Pdp.SelectList
