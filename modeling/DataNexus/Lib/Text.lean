/-
  Text operations of the Rust standard library, over `List Char`.

  Every byte offset that the scanners use is one that `find` returned or the length of an ASCII needle, so it falls on a
  character boundary, and positions are counted in CHARACTERS.  A slice with two ends can be out of order, which is a
  panic: see `slice`.  `to_ascii_lowercase` touches `A..Z` only; `is_whitespace` is the Unicode property.
-/
import Mathlib.Algebra.GroupWithZero.Nat
import Mathlib.Data.List.Basic

namespace DataNexus.Text

/-! ## Characters -/

/-- `char::is_whitespace`: the Unicode property `White_Space`, listed in full. -/
def isWhitespace (c : Char) : Bool :=
  let n := c.toNat
  (9 ≤ n && n ≤ 13) || n == 32 || n == 0x85 || n == 0xA0 || n == 0x1680 ||
    (0x2000 ≤ n && n ≤ 0x200A) || n == 0x2028 || n == 0x2029 || n == 0x202F || n == 0x205F ||
    n == 0x3000

/-! ## Slices and searches -/

def trimStart (s : List Char) : List Char := s.dropWhile isWhitespace

def trimEnd (s : List Char) : List Char := (s.reverse.dropWhile isWhitespace).reverse

def trim (s : List Char) : List Char := trimEnd (trimStart s)

/-- `str::trim_start_matches(p)` for a character predicate. -/
def trimStartMatches (p : Char → Bool) (s : List Char) : List Char := s.dropWhile p

/-- `str::trim_end_matches(p)` for a character predicate. -/
def trimEndMatches (p : Char → Bool) (s : List Char) : List Char := (s.reverse.dropWhile p).reverse

def startsWith (needle s : List Char) : Bool := needle.isPrefixOf s

/-- `str::find`: the first position at which `needle` occurs.  The empty needle is found at `0`, as
    in Rust. -/
def find (needle : List Char) : List Char → Option Nat
  | [] => if needle.isEmpty then some 0 else none
  | c :: s => if startsWith needle (c :: s) then some 0 else (find needle s).map (· + 1)

/-- `&s[i..j]`.  Rust PANICS when the range is not in order or leaves the text; the model answers
    `none` there, and a function that slices carries that `none` on as its own panic. -/
def slice (i j : Nat) (s : List Char) : Option (List Char) :=
  if i ≤ j ∧ j ≤ s.length then some ((s.take j).drop i) else none

def contains (needle s : List Char) : Bool := (find needle s).isSome

/-- `str::split_whitespace().next()`: the first word, if there is one. -/
def firstWord (s : List Char) : Option (List Char) :=
  match (trimStart s).takeWhile (fun c => !isWhitespace c) with
  | [] => none
  | w => some w

/-- `str::split_whitespace`: the words. -/
def splitWhitespace : List Char → List (List Char)
  | [] => []
  | c :: s =>
    if isWhitespace c then splitWhitespace s
    else if (s.head?.map isWhitespace).getD true then [c] :: splitWhitespace s
    else
      match splitWhitespace s with
      | [] => [[c]]
      | word :: words => (c :: word) :: words

/-- `&s[..n]`, with `n` counted in bytes.  Rust PANICS when the text is too short or `n` falls inside a
    character; the model answers `none` there. -/
def takeBytes : Nat → List Char → Option (List Char)
  | 0, _ => some []
  | _ + 1, [] => none
  | n + 1, c :: s =>
    if c.utf8Size ≤ n + 1 then (takeBytes (n + 1 - c.utf8Size) s).map (c :: ·) else none

/-- `str::len`: in bytes. -/
def byteLength (s : List Char) : Nat := (s.map Char.utf8Size).sum

/-- `str::trim_matches(p)`. -/
def trimMatches (p : Char → Bool) (s : List Char) : List Char := trimEndMatches p (trimStartMatches p s)

/-- `str::split(sep)` for one character: `n` separators give `n + 1` pieces. -/
def splitOn (sep : Char) : List Char → List (List Char)
  | [] => [[]]
  | c :: s =>
    match splitOn sep s with
    | [] => [[c]]
    | piece :: more => if c = sep then [] :: piece :: more else (c :: piece) :: more

/-- `str::rsplit(sep).next()`: what follows the last separator. -/
def lastSegment (sep : Char) (s : List Char) : List Char := (s.reverse.takeWhile (· != sep)).reverse

/-- What precedes the last separator, if there is one (the second piece of `rsplitn(2, sep)`). -/
def beforeLast (sep : Char) (s : List Char) : Option (List Char) :=
  match s.reverse.dropWhile (· != sep) with
  | [] => none
  | _ :: rest => some rest.reverse

/-- The rests of `s` after each leftmost, non-overlapping occurrence of `key` in the upper-cased text; `skip` counts the
    characters of the last occurrence that are still to be passed over. -/
def restsAfter (key : List Char) : Nat → List Char → List (List Char)
  | _, [] => []
  | skip + 1, _ :: s => restsAfter key skip s
  | 0, c :: s =>
    if !key.isEmpty && startsWith key ((c :: s).map Char.toUpper) then
      ((c :: s).drop key.length) :: restsAfter key (key.length - 1) s
    else restsAfter key 0 s

/-- `str::as_bytes`: UTF-8. -/
def utf8 (s : List Char) : List UInt8 := s.flatMap String.utf8EncodeChar

/-! ## Parsing numbers -/

/-- The value of a non-empty run of ASCII digits. -/
def digitsValue (s : List Char) : Option Nat :=
  if s.isEmpty || !s.all Char.isDigit then none else some (Nat.ofDigitChars 10 s 0)

/-- `str::parse::<uN>()` with the bound `max`: an optional `+`, then digits. -/
def parseUnsigned (max : Nat) (s : List Char) : Option Nat :=
  let digits := match s with
    | '+' :: rest => rest
    | _ => s
  (digitsValue digits).filter (· ≤ max)

/-- `str::parse::<iN>()` with the bounds `min` and `max`: an optional sign, then digits. -/
def parseSigned (min max : Int) (s : List Char) : Option Int :=
  let value : Option Int := match s with
    | '-' :: rest => (digitsValue rest).map fun n => -(n : Int)
    | '+' :: rest => (digitsValue rest).map fun n => (n : Int)
    | _ => (digitsValue s).map fun n => (n : Int)
  value.filter fun n => min ≤ n && n ≤ max

/-! ## ASCII case -/

def toAsciiLowercase (s : List Char) : List Char := s.map Char.toLower

def toAsciiUppercase (s : List Char) : List Char := s.map Char.toUpper

/-- `str::eq_ignore_ascii_case`. -/
def sameIgnoringCase (a b : List Char) : Bool := toAsciiLowercase a == toAsciiLowercase b

/-- `to_ascii_lowercase` on strings. -/
def lower (s : String) : String := String.ofList (toAsciiLowercase s.toList)

/-- `str::eq_ignore_ascii_case` on strings. -/
def eqIgnoreAsciiCase (a b : String) : Bool := sameIgnoringCase a.toList b.toList

/-! ## Searches find what is there -/

theorem contains_of_infix {needle s : List Char} (h : needle <:+: s) : contains needle s = true := by
  obtain ⟨before, after, rfl⟩ := h
  unfold contains
  rw [List.append_assoc]
  induction before with
  | nil =>
    rw [List.nil_append]
    cases hs : needle ++ after with
    | nil =>
      have hempty : needle = [] := (List.append_eq_nil_iff.mp hs).1
      rw [find, hempty]
      rfl
    | cons c rest =>
      have hstarts : startsWith needle (c :: rest) = true := by
        rw [← hs]
        exact List.isPrefixOf_iff_prefix.mpr (List.prefix_append needle after)
      rw [find, if_pos hstarts]
      rfl
  | cons c before ih =>
    rw [List.cons_append, find]
    split
    · rfl
    · rw [Option.isSome_map]
      exact ih

/-! ## Numbers inside formatted text -/

/-- A decimal numeral contains no `-`: the separator of `format!("{}-{}", a, b)` stays readable. -/
theorem dash_notMem_toDigits (n : Nat) : '-' ∉ Nat.toDigits 10 n := by
  intro h
  have hd : Char.isDigit '-' = true := Nat.isDigit_of_mem_toDigits (by decide) (by decide) h
  exact absurd hd (by decide)

theorem toDigits_injective {m n : Nat} (h : Nat.toDigits 10 m = Nat.toDigits 10 n) : m = n := by
  have hm := Nat.ofDigitChars_ten_toDigits (n := m)
  rw [h, Nat.ofDigitChars_ten_toDigits] at hm
  exact hm.symm

/-- `"{a}-{b}"` determines `b` (and `a`): decimal numerals never swallow the dash. -/
theorem dashed_injective {a b a' b' : Nat} (h : Nat.toDigits 10 a ++ '-' :: Nat.toDigits 10 b =
      Nat.toDigits 10 a' ++ '-' :: Nat.toDigits 10 b') : a = a' ∧ b = b' := by
  have hsplit := (List.append_cons_inj_of_notMem (dash_notMem_toDigits a)
    (dash_notMem_toDigits b)).mp h
  exact ⟨toDigits_injective hsplit.1, toDigits_injective hsplit.2.2⟩

end DataNexus.Text
