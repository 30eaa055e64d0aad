/-
  What a ticket binds: the fingerprint of a text (`gateway/core/src/ticket.rs`), and what a server reads in it.

  1. **Program** — `sqlFingerprint` squeezes white space, lower-cases and cuts trailing semicolons off.

  2. **Its kernel** — `fingerprint_eq_iff`: the same words, up to letter case and the semicolons at the end (`boundWords`).

  3. **The server** — `next` is the lexer of a server, character by character; at a place that depends on line ends or
     letter case (`fragile`) it stops.  Up to there it reads texts with the same fingerprint alike, up to letter case and
     white space (`same_fingerprint`).
-/
import Mathlib.Data.List.DropRight
import DataNexus.Lib.Joined
import DataNexus.Model
import DataNexus.Tickets.Store

namespace DataNexus.Fingerprint

open DataNexus.Text DataNexus.Tickets DataNexus.Joined

/-! ## The words of a text -/

/-- The text with its white space squeezed and its letters lower-cased; `skip` is behind a blank, or at the start. -/
def squeezed : Bool → List Char → List Char
  | _, [] => []
  | skip, c :: rest =>
    if isWhitespace c then if skip then squeezed true rest else ' ' :: squeezed true rest
    else c.toLower :: squeezed false rest

theorem foldl_fingerprintStep (text acc : List Char) (prevSpace : Bool) :
    (text.foldl fingerprintStep (acc, prevSpace)).1 = acc ++ squeezed (prevSpace || acc.isEmpty) text := by
  induction text generalizing acc prevSpace with
  | nil => rw [List.foldl_nil, squeezed, List.append_nil]
  | cons c rest ih =>
    rw [List.foldl_cons, squeezed]
    by_cases hc : isWhitespace c = true
    · rw [if_pos hc]
      cases prevSpace with
      | true =>
        have hstep : fingerprintStep (acc, true) c = (acc, true) := by simp [fingerprintStep, hc]
        rw [hstep, ih]
        rfl
      | false =>
        cases acc with
        | nil =>
          have hstep : fingerprintStep ([], false) c = ([], false) := by simp [fingerprintStep, hc]
          rw [hstep, ih]
          rfl
        | cons a acc =>
          have hstep : fingerprintStep (a :: acc, false) c = (a :: acc ++ [' '], true) := by simp [fingerprintStep, hc]
          rw [hstep, ih]
          simp
    · rw [if_neg hc]
      have hstep : fingerprintStep (acc, prevSpace) c = (acc ++ [c.toLower], false) := by simp [fingerprintStep, hc]
      have hne : (acc ++ [c.toLower]).isEmpty = false := by
        cases acc with
        | nil => rfl
        | cons a acc => rfl
      rw [hstep, ih, hne, Bool.or_false]
      simp

def spaced (words : List (List Char)) : List Char := joined [' '] words

theorem spaced_cons_cons (word word' : List Char) (words : List (List Char)) :
    spaced (word :: word' :: words) = word ++ ' ' :: spaced (word' :: words) := by
  simp [spaced, joined]

theorem spaced_char_cons (c : Char) (word : List Char) (words : List (List Char)) :
    spaced ((c :: word) :: words) = c :: spaced (word :: words) := rfl

def lowerWords (text : List Char) : List (List Char) := (splitWhitespace text).map toAsciiLowercase

variable {c : Char} {words : List (List Char)}

theorem lowerWords_blank (hc : isWhitespace c = true) (rest : List Char) :
    lowerWords (c :: rest) = lowerWords rest := by
  unfold lowerWords
  rw [splitWhitespace, if_pos hc]

theorem lowerWords_alone (hc : isWhitespace c = false) {rest : List Char}
    (hrest : (rest.head?.map isWhitespace).getD true = true) :
    lowerWords (c :: rest) = [c.toLower] :: lowerWords rest := by
  unfold lowerWords
  rw [splitWhitespace, if_neg (Bool.eq_false_iff.mp hc), if_pos hrest]
  rfl

theorem lowerWords_longer {d : Char} (hc : isWhitespace c = false) (hd : isWhitespace d = false) (rest : List Char) :
    ∃ word words, lowerWords (d :: rest) = word :: words ∧
      lowerWords (c :: d :: rest) = (c.toLower :: word) :: words := by
  have hne : ∃ word words, splitWhitespace (d :: rest) = word :: words := by
    rw [splitWhitespace, if_neg (Bool.eq_false_iff.mp hd)]
    split
    · exact ⟨_, _, rfl⟩
    · cases splitWhitespace rest with
      | nil => exact ⟨_, _, rfl⟩
      | cons word words => exact ⟨_, _, rfl⟩
  obtain ⟨word, words, hsplit⟩ := hne
  have hhead : ¬ (((d :: rest).head?.map isWhitespace).getD true = true) := by
    rw [List.head?_cons, Option.map_some, Option.getD_some, hd]
    exact Bool.false_ne_true
  refine ⟨toAsciiLowercase word, words.map toAsciiLowercase, ?_, ?_⟩
  · unfold lowerWords
    rw [hsplit]
    rfl
  · unfold lowerWords
    rw [splitWhitespace, if_neg (Bool.eq_false_iff.mp hc), if_neg hhead, hsplit]
    rfl

theorem squeezed_nonblank (hc : isWhitespace c = false) (skip : Bool) (rest : List Char) :
    squeezed skip (c :: rest) = c.toLower :: squeezed false rest := by
  rw [squeezed, if_neg (Bool.eq_false_iff.mp hc)]

theorem squeezed_eq_spaced (text : List Char) :
    ∃ tail, squeezed true text = spaced (lowerWords text) ++ tail ∧ (tail = [] ∨ tail = [' ']) ∧
      (lowerWords text = [] → tail = []) := by
  induction text with
  | nil => exact ⟨[], rfl, .inl rfl, fun _ => rfl⟩
  | cons c rest ih =>
    obtain ⟨tail, hrest, htail, hnil⟩ := ih
    cases hc : isWhitespace c with
    | true =>
      rw [lowerWords_blank hc]
      refine ⟨tail, ?_, htail, hnil⟩
      rw [squeezed, if_pos hc, if_pos rfl]
      exact hrest
    | false =>
      rw [squeezed_nonblank hc]
      cases rest with
      | nil =>
        rw [lowerWords_alone hc rfl]
        exact ⟨[], rfl, .inl rfl, fun _ => rfl⟩
      | cons d rest =>
        cases hd : isWhitespace d with
        | true =>
          -- the word ends here
          rw [lowerWords_alone hc (by simp [hd])]
          have hshort : squeezed false (d :: rest) = ' ' :: squeezed true (d :: rest) := by
            rw [squeezed, if_pos hd, if_neg Bool.false_ne_true, squeezed, if_pos hd, if_pos rfl]
          rw [hshort, hrest]
          cases hwords : lowerWords (d :: rest) with
          | nil =>
            rw [hnil hwords]
            exact ⟨[' '], rfl, .inr rfl, nofun⟩
          | cons word words =>
            rw [spaced_cons_cons]
            exact ⟨tail, by simp, htail, nofun⟩
        | false =>
          obtain ⟨word, words, hword, hlonger⟩ := lowerWords_longer hc hd rest
          rw [squeezed_nonblank hd true] at hrest
          rw [squeezed_nonblank hd false, hrest, hword, hlonger, spaced_char_cons]
          exact ⟨tail, rfl, htail, nofun⟩

/-! ## The end of a text -/

section ends

variable {α : Type*} {p : α → Bool}

variable {b : List α}

theorem rdropWhile_append_of_nil (a : List α) (h : b.rdropWhile p = []) : (a ++ b).rdropWhile p = a.rdropWhile p := by
  rw [List.rdropWhile, List.reverse_eq_nil_iff] at h
  rw [List.rdropWhile, List.reverse_append, List.dropWhile_append, h]
  rfl

theorem rdropWhile_append_of_ne (a : List α) (h : b.rdropWhile p ≠ []) :
    (a ++ b).rdropWhile p = a ++ b.rdropWhile p := by
  rw [List.rdropWhile, ne_eq, List.reverse_eq_nil_iff] at h
  rw [List.rdropWhile, List.reverse_append, List.dropWhile_append, if_neg (by simpa using h), List.reverse_append,
    List.reverse_reverse]
  rfl

/-- Cut blanks, then semicolons, then blanks off the end. -/
def cutEnd (blank semicolon : α → Bool) (text : List α) : List α :=
  ((text.rdropWhile blank).rdropWhile semicolon).rdropWhile blank

end ends

/-- `out.trim().trim_end_matches(';').trim()`. -/
def trimmed (out : List Char) : List Char := trim (trimEndMatches (· == ';') (trim out))

theorem sqlFingerprint_eq {sql stripped : String} (h : stripTicketComment sql = some stripped) :
    sqlFingerprint sql = some (String.ofList (trimmed (squeezed true stripped.toList))) := by
  unfold sqlFingerprint
  rw [h, Option.map_some]
  dsimp only
  rw [foldl_fingerprintStep]
  rfl

def Leads (text : List Char) : Prop := ∀ c, text.head? = some c → isWhitespace c = false

theorem Leads.trimStart {text : List Char} (h : Leads text) : trimStart text = text := by
  cases text with
  | nil => rfl
  | cons c rest => exact List.dropWhile_cons_of_neg (Bool.eq_false_iff.mp (h c rfl))

theorem Leads.rdropWhile {text : List Char} (h : Leads text) (p : Char → Bool) : Leads (text.rdropWhile p) := by
  obtain ⟨rest, hrest⟩ := List.rdropWhile_prefix p (l := text)
  intro c hc
  refine h c ?_
  rw [← hrest]
  cases hfront : text.rdropWhile p with
  | nil =>
    rw [hfront] at hc
    cases hc
  | cons d front =>
    rw [hfront] at hc
    exact hc

theorem Leads.trimmed_eq {text : List Char} (h : Leads text) : trimmed text = cutEnd isWhitespace (· == ';') text := by
  unfold trimmed trim
  rw [h.trimStart]
  exact congrArg trimEnd (h.rdropWhile _ |>.rdropWhile _).trimStart

def IsWord (word : List Char) : Prop := word ≠ [] ∧ ∀ c ∈ word, isWhitespace c = false

theorem IsWord.rdropWhile {word : List Char} (h : IsWord word) : word.rdropWhile isWhitespace = word := by
  refine List.rdropWhile_eq_self_iff.mpr fun hne => ?_
  exact Bool.eq_false_iff.mp (h.2 _ (List.getLast_mem hne))

/-- The words without the semicolons at their end. -/
def withoutEnd (words : List (List Char)) : List (List Char) :=
  match words.reverse with
  | [] => []
  | last :: front =>
    let last := trimEndMatches (· == ';') last
    if last = [] then front.reverse else front.reverse ++ [last]

def spacedFront : List (List Char) → List Char
  | [] => []
  | front => spaced front ++ [' ']

theorem spaced_concat (front : List (List Char)) (last : List Char) :
    spaced (front ++ [last]) = spacedFront front ++ last := by
  cases front with
  | nil => simp [spaced, joined, spacedFront]
  | cons word words => simp [spaced, joined, spacedFront]

theorem spaced_rdropWhile (h : ∀ word ∈ words, IsWord word) :
    (spaced words).rdropWhile isWhitespace = spaced words := by
  rcases List.eq_nil_or_concat words with rfl | ⟨front, last, rfl⟩
  · rfl
  · rw [List.concat_eq_append] at h ⊢
    have hlast : IsWord last := h last (by simp)
    have hkept := hlast.rdropWhile
    rw [spaced_concat, rdropWhile_append_of_ne _ (by rw [hkept]; exact hlast.1), hkept]

theorem cutEnd_spaced (h : ∀ word ∈ words, IsWord word) {tail : List Char} (htail : tail = [] ∨ tail = [' ']) :
    cutEnd isWhitespace (· == ';') (spaced words ++ tail) = spaced (withoutEnd words) := by
  have hblank : (spaced words ++ tail).rdropWhile isWhitespace = spaced words := by
    rw [rdropWhile_append_of_nil]
    · exact spaced_rdropWhile h
    · rcases htail with rfl | rfl
      · rfl
      · rfl
  unfold cutEnd
  rw [hblank]
  rcases List.eq_nil_or_concat words with rfl | ⟨front, last, rfl⟩
  · rfl
  · rw [List.concat_eq_append] at h ⊢
    have hlast : IsWord last := h last (by simp)
    have hfront : ∀ word ∈ front, IsWord word := fun word hword => h word (List.mem_append_left _ hword)
    rw [spaced_concat]
    unfold withoutEnd
    rw [List.reverse_append, List.reverse_singleton, List.singleton_append]
    dsimp only
    rw [List.reverse_reverse]
    split
    · -- the last word is all semicolons
      rename_i hnil
      rw [rdropWhile_append_of_nil _ hnil]
      cases front with
      | nil => rfl
      | cons word words =>
        have hsemi : ([' '] : List Char).rdropWhile (· == ';') = [' '] := rfl
        rw [spacedFront, rdropWhile_append_of_ne _ (by rw [hsemi]; nofun), hsemi, rdropWhile_append_of_nil _ rfl]
        · exact spaced_rdropWhile hfront
        · nofun
    · rename_i hne
      have hcut : IsWord (last.rdropWhile (· == ';')) :=
        ⟨hne, fun c hc => hlast.2 c ((List.rdropWhile_prefix _ last).subset hc)⟩
      have hkept := hcut.rdropWhile
      rw [rdropWhile_append_of_ne _ hne, spaced_concat, rdropWhile_append_of_ne _ (by rw [hkept]; exact hcut.1), hkept]
      rfl

/-! ## Words are read back -/

theorem of_toLower {P : Char → Char → Prop} (hself : ∀ c, P c c)
    (hupper : ∀ n ∈ List.range' 65 26, P (Char.ofNat n) (Char.ofNat n).toLower) (c : Char) : P c c.toLower := by
  by_cases hc : 65 ≤ c.toNat ∧ c.toNat ≤ 90
  · have h := hupper c.toNat (List.mem_range'_1.mpr (by omega))
    rw [Char.ofNat_toNat] at h
    exact h
  · have hlower : c.toLower = c := by
      unfold Char.toLower
      refine dif_neg fun hrange => hc ⟨?_, ?_⟩
      · exact hrange.1
      · exact hrange.2
    rw [hlower]
    exact hself c

theorem isWhitespace_toLower (c : Char) : isWhitespace c.toLower = isWhitespace c :=
  of_toLower (P := fun c d => isWhitespace d = isWhitespace c) (fun _ => rfl) (by decide) c

theorem isWord_splitWhitespace {text word : List Char} (h : word ∈ splitWhitespace text) : IsWord word := by
  induction text generalizing word with
  | nil => cases h
  | cons c rest ih =>
    rw [splitWhitespace] at h
    split at h
    · exact ih h
    · rename_i hc
      have hc' : isWhitespace c = false := Bool.eq_false_iff.mpr hc
      split at h
      · rcases List.mem_cons.mp h with rfl | h
        · refine ⟨nofun, fun d hd => ?_⟩
          rw [List.mem_singleton.mp hd]
          exact hc'
        · exact ih h
      · split at h
        · rcases List.mem_cons.mp h with rfl | h
          · refine ⟨nofun, fun d hd => ?_⟩
            rw [List.mem_singleton.mp hd]
            exact hc'
          · cases h
        · rename_i first words hsplit
          rw [hsplit] at ih
          rcases List.mem_cons.mp h with rfl | h
          · refine ⟨nofun, fun d hd => ?_⟩
            rcases List.mem_cons.mp hd with rfl | hd
            · exact hc'
            · exact (ih List.mem_cons_self).2 d hd
          · exact ih (List.mem_cons_of_mem _ h)

theorem isWord_lowerWords {text word : List Char} (h : word ∈ lowerWords text) : IsWord word := by
  obtain ⟨word, hword, rfl⟩ := List.mem_map.mp h
  have hw := isWord_splitWhitespace hword
  refine ⟨fun hnil => hw.1 (List.map_eq_nil_iff.mp hnil), fun c hc => ?_⟩
  obtain ⟨d, hd, rfl⟩ := List.mem_map.mp hc
  rw [isWhitespace_toLower]
  exact hw.2 d hd

theorem isWord_withoutEnd (h : ∀ word ∈ words, IsWord word) : ∀ word ∈ withoutEnd words, IsWord word := by
  rcases List.eq_nil_or_concat words with rfl | ⟨front, last, rfl⟩
  · nofun
  · rw [List.concat_eq_append] at h ⊢
    have hfront : ∀ word ∈ front, IsWord word := fun word hword => h word (List.mem_append_left _ hword)
    unfold withoutEnd
    rw [List.reverse_append, List.reverse_singleton, List.singleton_append]
    dsimp only
    rw [List.reverse_reverse]
    split
    · exact hfront
    · rename_i hne
      intro word hword
      rcases List.mem_append.mp hword with hword | hword
      · exact hfront word hword
      · rw [List.mem_singleton.mp hword]
        refine ⟨hne, fun c hc => (h last (by simp)).2 c ?_⟩
        exact (List.rdropWhile_prefix (· == ';') last).subset hc

theorem splitWhitespace_word {word : List Char} (h : IsWord word) (rest : List Char)
    (hrest : (rest.head?.map isWhitespace).getD true = true) :
    splitWhitespace (word ++ rest) = word :: splitWhitespace rest := by
  induction word with
  | nil => exact absurd rfl h.1
  | cons c word ih =>
    have hc : isWhitespace c = false := h.2 c List.mem_cons_self
    rw [List.cons_append, splitWhitespace, if_neg (Bool.eq_false_iff.mp hc)]
    cases word with
    | nil => exact if_pos hrest
    | cons d word =>
      have hd : isWhitespace d = false := h.2 d (List.mem_cons_of_mem _ List.mem_cons_self)
      have hword : IsWord (d :: word) := ⟨nofun, fun e he => h.2 e (List.mem_cons_of_mem _ he)⟩
      rw [if_neg (by simp [hd]), ih hword]

theorem splitWhitespace_spaced (h : ∀ word ∈ words, IsWord word) : splitWhitespace (spaced words) = words := by
  induction words with
  | nil => rfl
  | cons word words ih =>
    rw [List.forall_mem_cons] at h
    cases words with
    | nil =>
      have hone := splitWhitespace_word h.1 [] rfl
      rw [List.append_nil] at hone
      rw [show spaced [word] = word by simp [spaced, joined], hone]
      rfl
    | cons word' words =>
      have hblank : isWhitespace ' ' = true := rfl
      rw [spaced_cons_cons, splitWhitespace_word h.1 _ rfl, splitWhitespace, if_pos hblank, ih h.2]

/-! ## The kernel of the fingerprint -/

/-- The words a ticket binds: lower-cased, and without the semicolons at their end. -/
def boundWords (text : List Char) : List (List Char) := withoutEnd (lowerWords text)

theorem leads_squeezed (text : List Char) : Leads (squeezed true text) := by
  induction text with
  | nil => nofun
  | cons c rest ih =>
    cases hc : isWhitespace c with
    | true =>
      rw [squeezed, if_pos hc, if_pos rfl]
      exact ih
    | false =>
      rw [squeezed_nonblank hc]
      intro d hd
      rw [← Option.some.inj hd, isWhitespace_toLower]
      exact hc

theorem trimmed_squeezed (text : List Char) : trimmed (squeezed true text) = spaced (boundWords text) := by
  obtain ⟨tail, htext, htail, _⟩ := squeezed_eq_spaced text
  rw [(leads_squeezed text).trimmed_eq, htext]
  exact cutEnd_spaced (fun word hword => isWord_lowerWords hword) htail

theorem splitWhitespace_boundWords (text : List Char) :
    splitWhitespace (spaced (boundWords text)) = boundWords text :=
  splitWhitespace_spaced (isWord_withoutEnd fun _ hword => isWord_lowerWords hword)

/-- **Two texts have the same fingerprint exactly if they have the same words.** -/
theorem fingerprint_eq_iff {s t s' t' : String} (hs : stripTicketComment s = some s')
    (ht : stripTicketComment t = some t') :
    sqlFingerprint s = sqlFingerprint t ↔ boundWords s'.toList = boundWords t'.toList := by
  rw [sqlFingerprint_eq hs, sqlFingerprint_eq ht, trimmed_squeezed, trimmed_squeezed]
  constructor
  · intro h
    have hspaced := String.ofList_injective (Option.some.inj h)
    rw [← splitWhitespace_boundWords s'.toList, hspaced, splitWhitespace_boundWords]
  · intro h
    rw [h]

/-! ## The server -/

inductive Quote where
  | single
  | double
  | backtick
deriving DecidableEq

/-- What a character is to the lexer of a server. -/
inductive Sign where
  | blank
  | control
  | quote (q : Quote)
  | backslash
  | dash
  | slash
  | star
  | bang
  | hash
  | dollar
  | digit
  | letterE
  /-- Any other character of a word, which is every one beyond ASCII too. -/
  | letter
  | other
deriving DecidableEq

def sign (c : Char) : Sign :=
  if c = ' ' ∨ (9 ≤ c.toNat ∧ c.toNat ≤ 13) then .blank
  else if c.toNat < 32 ∨ c.toNat = 127 then .control
  else if c = '\'' then .quote .single
  else if c = '"' then .quote .double
  else if c.toNat = 96 then .quote .backtick
  else if c = '\\' then .backslash
  else if c = '-' then .dash
  else if c = '/' then .slash
  else if c = '*' then .star
  else if c = '!' then .bang
  else if c = '#' then .hash
  else if c = '$' then .dollar
  else if c.isDigit then .digit
  else if c = 'e' ∨ c = 'E' then .letterE
  else if c.isAlpha ∨ c = '_' ∨ 128 ≤ c.toNat then .letter
  else .other

inductive Mode where
  | code
  | word
  /-- A word that is just `E` so far. -/
  | letterE
  | dash
  | dashes
  | slash
  /-- In an executable comment. -/
  | star
  | dollar
  /-- Behind the opening of a comment. -/
  | opening
  | block (depth : Nat)
  | blockStar (depth : Nat)
  | blockSlash (depth : Nat)
  | quoted (quote : Quote) (escapes : Bool)
  | escaped (quote : Quote)
  /-- Behind a quote that ends the text, or doubles itself. -/
  | closing (quote : Quote) (escapes : Bool)
  /-- Behind a literal and blanks. -/
  | closed
  /-- The text goes on in a way that depends on letter case or on line ends. -/
  | fragile
deriving DecidableEq

/-- Where the lexer stands, and whether it is in an executable comment of MySQL. -/
structure Position where
  mode : Mode
  executable : Bool
deriving DecidableEq

def inCode (dialect : ProtocolKind) (executable : Bool) : Sign → Mode
  | .quote .backtick => if dialect == .mySql then .quoted .backtick false else .code
  | .quote quote => .quoted quote (dialect == .mySql)
  | .dash => .dash
  | .slash => .slash
  | .star => if executable then .star else .code
  | .hash => if dialect == .mySql then .fragile else .code
  | .dollar => if dialect == .mySql then .word else .dollar
  | .letterE => if dialect == .mySql then .word else .letterE
  | .letter => .word
  | .digit => .word
  | .blank | .control | .backslash | .bang | .other => .code

/-- The mode behind the next character, where it does not leave or enter an executable comment. -/
def nextMode (dialect : ProtocolKind) (executable : Bool) : Mode → Sign → Mode
  | .code, c => inCode dialect executable c
  | .word, c =>
    match c with
    | .letterE | .letter | .digit | .dollar => .word
    | c => inCode dialect executable c
  | .letterE, c =>
    match c with
    | .quote .single => .quoted .single true
    | .letterE | .letter | .digit | .dollar => .word
    | c => inCode dialect executable c
  | .dash, c =>
    match c with
    | .dash => if dialect == .mySql then .dashes else .fragile
    | c => inCode dialect executable c
  | .dashes, c =>
    match c with
    | .blank | .control => .fragile
    | .dash => .dashes
    | c => inCode dialect executable c
  | .slash, c =>
    match c with
    | .star => .opening
    | c => inCode dialect executable c
  | .star, c => inCode dialect executable c
  | .dollar, c =>
    match c with
    | .dollar | .letterE | .letter => .fragile
    | c => inCode dialect executable c
  | .opening, c =>
    match c with
    | .star => .blockStar 0
    | .slash => if dialect == .mySql then .block 0 else .blockSlash 0
    | _ => .block 0
  | .block depth, c =>
    match c with
    | .star => .blockStar depth
    | .slash => if dialect == .mySql then .block depth else .blockSlash depth
    | _ => .block depth
  | .blockStar depth, c =>
    match c, depth with
    | .slash, 0 => .code
    | .slash, depth + 1 => .block depth
    | .star, depth => .blockStar depth
    | _, depth => .block depth
  | .blockSlash depth, c =>
    match c with
    | .star => .block (depth + 1)
    | .slash => .blockSlash depth
    | _ => .block depth
  | .quoted quote escapes, c =>
    if escapes && c == .backslash then .escaped quote
    else if c == .quote quote then .closing quote escapes
    else .quoted quote escapes
  | .escaped quote, _ => .quoted quote true
  | .closing quote escapes, c =>
    if c == .quote quote then .quoted quote escapes
    else if dialect == .postgreSql && quote == .single && c == .blank then .closed
    else inCode dialect executable c
  | .closed, c =>
    match c with
    | .blank => .closed
    | .quote .single => .fragile
    | c => inCode dialect executable c
  | .fragile, _ => .fragile

def next (dialect : ProtocolKind) (p : Position) (c : Sign) : Position :=
  match p.mode, c with
  -- an executable comment begins, or ends
  | .opening, .bang => if dialect == .mySql then ⟨.code, true⟩ else ⟨.block 0, p.executable⟩
  | .star, .slash => ⟨.code, false⟩
  | mode, c => ⟨nextMode dialect p.executable mode c, p.executable⟩

def start : Position := ⟨.code, false⟩

/-- The characters of a text, each with where the lexer stands behind it. -/
def marks (dialect : ProtocolKind) : Position → List Char → List (Position × Char)
  | _, [] => []
  | p, c :: rest => (next dialect p (sign c), c) :: marks dialect (next dialect p (sign c)) rest

def inLiteral (dialect : ProtocolKind) (p : Position) : Bool :=
  match p.mode with
  | .quoted quote _ | .escaped quote | .closing quote _ =>
    quote == .single || (quote == .double && dialect == .mySql)
  | _ => false

def literals (dialect : ProtocolKind) (text : List Char) : List Char :=
  ((marks dialect start text).filter fun m => inLiteral dialect m.1).map (·.2)

/-! ## Neither letter case nor the width of white space moves the lexer -/

theorem sign_toLower (c : Char) : sign c.toLower = sign c :=
  of_toLower (P := fun c d => sign d = sign c) (fun _ => rfl) (by decide) c

theorem next_blank_blank (dialect : ProtocolKind) (p : Position) :
    next dialect (next dialect p .blank) .blank = next dialect p .blank := by
  obtain ⟨mode, executable⟩ := p
  cases mode with
  | quoted quote escapes =>
    cases escapes with
    | true => rfl
    | false => rfl
  | closing quote escapes =>
    cases dialect with
    | mySql => rfl
    | postgreSql =>
      cases quote with
      | single => rfl
      | double => rfl
      | backtick => rfl
  | _ => rfl

theorem marks_append (dialect : ProtocolKind) (p : Position) (front : List Char) (c : Char) :
    ∃ m, marks dialect p (front ++ [c]) = marks dialect p front ++ [(m, c)] := by
  induction front generalizing p with
  | nil => exact ⟨_, rfl⟩
  | cons d front ih =>
    obtain ⟨m, hm⟩ := ih (next dialect p (sign d))
    exact ⟨m, congrArg (_ :: ·) hm⟩

theorem marks_rdropWhile (dialect : ProtocolKind) (p : Position) (cut : Char → Bool) (text : List Char) :
    marks dialect p (text.rdropWhile cut) = (marks dialect p text).rdropWhile fun m => cut m.2 := by
  induction text using List.reverseRecOn with
  | nil => rfl
  | append_singleton front c ih =>
    obtain ⟨m, hm⟩ := marks_append dialect p front c
    rw [hm]
    cases hc : cut c with
    | true => rw [List.rdropWhile_concat_pos cut _ _ hc,
        List.rdropWhile_concat_pos (fun m : Position × Char => cut m.2) _ _ hc, ih]
    | false =>
      have hkept : ¬ cut c = true := Bool.eq_false_iff.mp hc
      rw [List.rdropWhile_concat_neg cut _ _ hkept,
        List.rdropWhile_concat_neg (fun m : Position × Char => cut m.2) _ _ hkept, hm]

/-- `squeezed`, over characters with where the lexer stands. -/
def squeezedMarks : Bool → List (Position × Char) → List (Position × Char)
  | _, [] => []
  | skip, m :: rest =>
    if isWhitespace m.2 then if skip then squeezedMarks true rest else (m.1, ' ') :: squeezedMarks true rest
    else (m.1, m.2.toLower) :: squeezedMarks false rest

/-- The white space of a text is white space to the servers. -/
def AsciiBlanks (text : List Char) : Prop := ∀ c ∈ text, isWhitespace c = true → sign c = .blank

instance (text : List Char) : Decidable (AsciiBlanks text) :=
  List.decidableBAll (fun c => isWhitespace c = true → sign c = .blank) text

theorem marks_squeezed (dialect : ProtocolKind) {text : List Char} (h : AsciiBlanks text) (p : Position) (skip : Bool)
    (hp : skip = true → next dialect p .blank = p) :
    marks dialect p (squeezed skip text) = squeezedMarks skip (marks dialect p text) := by
  induction text generalizing p skip with
  | nil => rfl
  | cons c rest ih =>
    have hrest : AsciiBlanks rest := fun d hd => h d (List.mem_cons_of_mem _ hd)
    rw [marks, squeezed, squeezedMarks]
    dsimp only
    by_cases hc : isWhitespace c = true
    · have hsign := h c List.mem_cons_self hc
      rw [if_pos hc, if_pos hc, hsign]
      cases skip with
      | true =>
        rw [if_pos rfl, if_pos rfl, hp rfl]
        exact ih hrest p true hp
      | false =>
        have hblank : sign ' ' = .blank := rfl
        rw [if_neg Bool.false_ne_true, if_neg Bool.false_ne_true, marks, hblank]
        rw [ih hrest _ true fun _ => next_blank_blank dialect p]
    · rw [if_neg hc, if_neg hc, marks, sign_toLower]
      rw [ih hrest _ false (by rintro ⟨⟩)]

/-- What a server reads in a text, up to letter case and the width of white space, without blanks and semicolons at its
end: the characters, each with where the lexer stands behind it. -/
def reading (dialect : ProtocolKind) (text : List Char) : List (Position × Char) :=
  cutEnd (fun m => isWhitespace m.2) (fun m => m.2 == ';') (squeezedMarks true (marks dialect start text))

theorem reading_eq (dialect : ProtocolKind) {text : List Char} (h : AsciiBlanks text) :
    reading dialect text = marks dialect start (spaced (boundWords text)) := by
  unfold reading cutEnd
  rw [← marks_squeezed dialect h start true fun _ => rfl, ← marks_rdropWhile,
    ← marks_rdropWhile dialect start (· == ';'), ← marks_rdropWhile, ← trimmed_squeezed, (leads_squeezed text).trimmed_eq]
  rfl

/-- **A ticket binds the words of a text**, and with them what a server reads in it, up to the letter case and the width
of the white space. -/
theorem same_fingerprint {s t s' t' : String} (hs : stripTicketComment s = some s')
    (ht : stripTicketComment t = some t') :
    (sqlFingerprint s = sqlFingerprint t ↔ boundWords s'.toList = boundWords t'.toList) ∧
      (sqlFingerprint s = sqlFingerprint t → AsciiBlanks s'.toList → AsciiBlanks t'.toList →
        ∀ dialect, reading dialect s'.toList = reading dialect t'.toList) := by
  refine ⟨fingerprint_eq_iff hs ht, fun heq hsblank htblank dialect => ?_⟩
  rw [reading_eq dialect hsblank, reading_eq dialect htblank, (fingerprint_eq_iff hs ht).mp heq]

/-- A text that the store issues a ticket for, and another one that it lets pass. -/
theorem same_fingerprint_ticket :
    reading .mySql "DROP  TABLE\n`Old`;".toList = reading .mySql "drop table `old`".toList :=
  (@same_fingerprint "/*dn_ticket:t1*/ DROP  TABLE\n`Old`;" "drop table `old`" "DROP  TABLE\n`Old`;" "drop table `old`"
    (by decide) (by decide)).2 (by decide) (by decide) (by decide) .mySql

/-- **The letter case of a literal is not bound**, on either server. -/
theorem literals_not_bound :
    ¬ ∀ dialect s t fingerprint, sqlFingerprint s = some fingerprint → sqlFingerprint t = some fingerprint →
      literals dialect s.toList = literals dialect t.toList := by
  intro h
  have hmysql := h .mySql "SELECT 'A'" "SELECT 'a'" "select 'a'" (by decide) (by decide)
  revert hmysql
  decide

end DataNexus.Fingerprint
