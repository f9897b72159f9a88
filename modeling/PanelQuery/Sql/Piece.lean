import PanelQuery.Decimal.Fixed
import PanelQuery.Text.Blank

/-!
Statement text as data. A statement is a list of pieces, and the piece says what a stretch of text
is: fixed wording, a quoted literal with user text inside, a name, a number, or the hole for the
groups of a Top-N panel. `Piece.chars` is the only place where anything is escaped or quoted, so
user text cannot become wording, and a text that looks like the hole is not one.
-/

namespace PanelQuery.Sql

/-! ## Quoting -/

/-- A character inside a single-quoted literal. -/
def escapeChar (c : Char) : List Char :=
  if c = '\\' then ['\\', '\\'] else if c = '\'' then ['\\', '\''] else [c]

def escapeChars (cs : List Char) : List Char := cs.flatMap escapeChar

/-- `s` as it stands inside a single-quoted literal. -/
def escape (s : String) : String := String.ofList (escapeChars s.toList)

def quoteChars (s : String) : List Char := '\'' :: escapeChars s.toList ++ ['\'']

/-- `s` as a single-quoted literal. -/
def quoteString (s : String) : String := String.ofList (quoteChars s)

/-- A letter or underscore, then letters, digits and underscores. -/
def isPlainName (cs : List Char) : Bool :=
  match cs with
  | [] => false
  | first :: _ => (first.isAlpha || first == '_') && cs.all Text.isWordChar

/-- A character inside back-ticks: a back-tick gets a backslash in front. -/
def tickChar (c : Char) : List Char := if c = '\x60' then ['\\', '\x60'] else [c]

def tickChars (cs : List Char) : List Char := cs.flatMap tickChar

/-- The name between back-ticks, with a backslash before each back-tick inside. -/
def backtickChars (name : String) : List Char := '\x60' :: tickChars name.toList ++ ['\x60']

/-- The name between back-ticks, whatever it is. -/
def quoteAlias (name : String) : String := String.ofList (backtickChars name)

def identifierChars (name : String) : List Char :=
  if isPlainName name.toList then name.toList else backtickChars name

/-- The name by itself if it is plain, else between back-ticks. -/
def quoteIdentifier (name : String) : String := String.ofList (identifierChars name)

/-! ## Pieces -/

/-- A sort direction as the request spelled it. -/
structure Direction where
  text : String
  isDirection : Text.asciiLower text = "asc" ∨ Text.asciiLower text = "desc"

/-- The direction that a text names, white space around it aside. -/
def Direction.ofText? (s : String) : Option Direction :=
  if h : Text.asciiLower (Text.trim s) = "asc" ∨ Text.asciiLower (Text.trim s) = "desc" then
    some ⟨Text.trim s, h⟩
  else none

def Direction.ascending : Direction := ⟨"ASC", by decide⟩
def Direction.descending : Direction := ⟨"DESC", by decide⟩

/-- A stretch inside a quoted literal: wording, or user text to be escaped. -/
inductive Stretch where
  | fixed (text : String)
  | given (text : String)

def Stretch.chars : Stretch → List Char
  | .fixed text => text.toList
  | .given text => escapeChars text.toList

inductive Piece where
  | fixed (text : String)
  | quoted (inside : List Stretch)
  | name (n : String)
  | backticked (n : String)
  | int (n : Int)
  | float (x : Float)
  | direction (d : Direction)
  | topNGroups

/-- The text of a piece; `groups` fills the hole. -/
def Piece.chars (groups : List Char) : Piece → List Char
  | .fixed text => text.toList
  | .quoted inside => '\'' :: inside.flatMap Stretch.chars ++ ['\'']
  | .name n => identifierChars n
  | .backticked n => backtickChars n
  | .int n => (toString n).toList
  | .float x => (Decimal.fixed x).toList
  | .direction d => d.text.toList
  | .topNGroups => groups

def Piece.isHole : Piece → Bool
  | .topNGroups => true
  | _ => false

end PanelQuery.Sql

namespace PanelQuery

/-- A statement or a part of one. -/
abbrev Sql := List Sql.Piece

namespace Sql

/-- Wording. -/
def raw (text : String) : Sql := [.fixed text]

/-- A whole user text as a literal. -/
def literal (s : String) : Sql := [.quoted [.given s]]

/-- `parts` with `sep` between neighbours. -/
def join (sep : String) : List Sql → Sql
  | [] => []
  | [part] => part
  | part :: parts => part ++ raw sep ++ join sep parts

def parens (inside : Sql) : Sql := raw "(" ++ inside ++ raw ")"

/-- The text shown for the hole while its groups are unknown. -/
def placeholder : String := "#LIMIT_PLACEHOLDER"

/-- The text with `groups` in the hole. -/
def bind (groups : String) (sql : Sql) : String :=
  String.ofList (sql.flatMap (Piece.chars groups.toList))

/-- The text with the hole shown as `placeholder`. -/
def text (sql : Sql) : String := sql.bind placeholder

/-- The statement waits for the groups of a first pass. -/
def needsGroups (sql : Sql) : Bool := sql.any Piece.isHole

/-- The text of a statement without a hole. -/
def final? (sql : Sql) : Option String := if sql.needsGroups then none else some (sql.bind "")

end Sql

end PanelQuery
