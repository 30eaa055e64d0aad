/-
  Process-local named cursors (`core_engine.rs`: `parse_named_cursor_sql`, `find_ascii_keyword`).

  `DECLARE c CURSOR FOR select`, `FETCH n FROM c` and `CLOSE c` in a simple query are not passed on.  The
  gateway runs the select itself, keeps the row stream under the cursor's name, and serves each FETCH from
  it.  The parser works on the text: it looks for the words CURSOR and FOR, and whatever follows FOR is
  the statement that is run.

  The stream of a cursor is kept as its remaining rows: a window boundary shows only in how often the
  loop of FETCH polls, and no producer sends an empty window.
-/
import DataNexus.Stream.Rows
import DataNexus.Lib.Text

namespace DataNexus.Engine

open DataNexus.Text DataNexus.Stream

/-! ## The statements -/

inductive NamedCursorSql where
  | declare (name selectSql : String) (withHold : Bool)
  | fetch (name : String) (count : Nat)
  | close (name : String)
  /-- MOVE, and every FETCH that does not go forward. -/
  | unsupported (verb : String)
deriving DecidableEq

/-- A byte that continues a word: `is_ascii_alphanumeric` or `_`. -/
def isWordChar (c : Char) : Bool := c.isAlphanum || c == '_'

/-- The loop of `find_ascii_keyword`: `before` is the character in front of the text. -/
def keywordFrom (keyword : List Char) : (before : Option Char) → List Char → Nat → Option Nat
  | _, [], _ => none
  | before, c :: s, offset =>
    if startsWith keyword (c :: s) && !before.any isWordChar &&
        !(((c :: s).drop keyword.length).head?).any isWordChar then some offset
    else keywordFrom keyword (some c) s (offset + 1)

/-- `find_ascii_keyword`: the keyword as a word of its own, at or after `start`. -/
def findAsciiKeyword (sql keyword : List Char) (start : Nat) : Option Nat :=
  keywordFrom keyword ((sql.take start).getLast?) (sql.drop start) start

/-- `trim_matches('"').to_string()`, refused when nothing is left. -/
def cursorName (word : List Char) : Option String :=
  let name := trimMatches (· == '"') word
  if name.isEmpty then none else some (String.ofList name)

/-- The words that may stand before the name of a cursor. -/
def cursorOptions : List String := ["BINARY", "INSENSITIVE", "NO", "SCROLL", "ASENSITIVE"]

/-- The DECLARE branch of `parse_named_cursor_sql`. -/
def parseDeclare (trimmed upper : List Char) : Option NamedCursorSql :=
  match findAsciiKeyword upper "CURSOR".toList 8 with
  | none => none
  | some cursorPos =>
    match findAsciiKeyword upper "FOR".toList (cursorPos + 6) with
    | none => none
    | some forPos =>
      let words := splitWhitespace ((trimmed.take cursorPos).drop 8)
      match words.find? (fun t => !cursorOptions.contains (String.ofList (toAsciiUppercase t))) with
      | none => none
      | some word =>
        match cursorName word with
        | none => none
        | some name =>
          let selectSql := trim (trimmed.drop (forPos + 3))
          if selectSql.isEmpty then none
          else
            some (.declare name (String.ofList selectSql)
              (contains " WITH HOLD".toList ((upper.take forPos).drop cursorPos)))

def isFromOrIn (token : List Char) : Bool := sameIgnoringCase token "FROM".toList || sameIgnoringCase token "IN".toList

/-- `FETCH [n|ALL] [FROM|IN] name`, after FORWARD or NEXT was taken off. -/
def parseForward (tokens : List (List Char)) : Option NamedCursorSql :=
  match tokens with
  | [] => none
  | first :: rest =>
    let counted : Nat × List (List Char) :=
      if sameIgnoringCase first "ALL".toList then ((2 ^ 64 - 1) / 4, rest)
      else
        match parseUnsigned (2 ^ 64 - 1) first with
        | some n => (max n 1, rest)
        | none => (1, tokens)
    let named :=
      match counted.2 with
      | token :: more => if isFromOrIn token then more else token :: more
      | [] => []
    named.head?.bind fun word => (cursorName word).map fun name => .fetch name counted.1

/-- The directions a forward-only cursor does not have. -/
def fetchDirections : List String := ["ABSOLUTE", "RELATIVE", "BACKWARD", "PRIOR", "FIRST", "LAST"]

/-- The FETCH branch of `parse_named_cursor_sql`. -/
def parseFetch (tokens : List (List Char)) : Option NamedCursorSql :=
  match tokens with
  | [] => none
  | token :: rest =>
    let first := String.ofList (toAsciiUppercase token)
    if fetchDirections.contains first then some (.unsupported ("FETCH " ++ first))
    else if first = "NEXT" ∧ !(rest.head?.any isFromOrIn) then
      some (.unsupported "FETCH NEXT (unsupported form)")
    else if first = "FORWARD" ∨ first = "NEXT" then parseForward rest
    else parseForward tokens

def parseNamedCursorSql (sql : String) : Option NamedCursorSql :=
  let trimmed := trim (trimEndMatches (· == ';') (trim sql.toList))
  let upper := toAsciiUppercase trimmed
  if startsWith "DECLARE ".toList upper then parseDeclare trimmed upper
  else if startsWith "MOVE ".toList upper then some (.unsupported "MOVE")
  else if startsWith "FETCH ".toList upper then parseFetch (splitWhitespace (trimmed.drop 6))
  else if startsWith "CLOSE ".toList upper then
    (cursorName (trim (trimmed.drop 6))).map .close
  else none

example : parseNamedCursorSql "declare c no scroll cursor with hold for select * from t;" =
    some (.declare "c" "select * from t" true) := by decide

example : parseNamedCursorSql "FETCH FORWARD 10 FROM c" = some (.fetch "c" 10) := by decide

/-! ## Open cursors -/

/-- `StreamingQuery`: the columns and the windows still to come. -/
structure StreamingQuery where
  columns : List Column
  windows : List (List Row)
deriving DecidableEq

structure NamedCursorHeld where
  withHold : Bool
  columns : List Column
  rows : List Row
  exhausted : Bool
deriving DecidableEq

/-- The row loop of FETCH: the next `count` rows, and the cursor afterwards.  It is exhausted once a poll
    found nothing. -/
def NamedCursorHeld.take (held : NamedCursorHeld) (count : Nat) : List Row × NamedCursorHeld :=
  if held.exhausted then ([], held)
  else
    (held.rows.take count, { held with rows := held.rows.drop count, exhausted := decide (held.rows.length < count) })

end DataNexus.Engine
