import PanelQuery.Json.Token
import PanelQuery.Json.Value

/-!
A JSON text as read, whole or broken off. `Document.read` never fails: where the text breaks, the
document holds `broken` and the containers around it are not closed, so that whoever takes values
out of it meets the break exactly where it stands, after the parts in front of it.
-/

namespace PanelQuery.Json

/-- The key of a member. -/
inductive Key where
  | name (s : String)
  /-- A text with a lone surrogate. -/
  | unreadable
  deriving DecidableEq

inductive Document where
  | null
  | bool (b : Bool)
  | int (n : Int)
  | float (x : Float)
  | text (s : String)
  | arr (items : List Document) (closed : Bool)
  | obj (members : List (Key × Document)) (closed : Bool)
  /-- A well-formed part without a value. -/
  | unreadable
  | broken
  deriving Inhabited

/-- A container whose end has not been read, with its finished parts, latest first. -/
inductive Open where
  | arr (done : List Document)
  | obj (done : List (Key × Document)) (key : Key)

/-- Containers nested deeper than this have no value. -/
def maxDepth : Nat := 127

namespace Document

/-- The document when the text breaks inside the open containers after `d`. -/
def abandon (d : Document) : List Open → Document
  | [] => d
  | .arr done :: outer => abandon (.arr (d :: done).reverse false) outer
  | .obj done key :: outer => abandon (.obj ((key, d) :: done).reverse false) outer

/-- A closed container inside `outer`. -/
def nested (outer : List Open) (d : Document) : Document :=
  if outer.length < maxDepth then d else .unreadable

/-- The token is a whole value. -/
def leaf? : Token → Option Document
  | .null => some .null
  | .bool b => some (.bool b)
  | .int n => some (.int n)
  | .float x => some (.float x)
  | .text (some s) => some (.text s)
  | .text none => some .unreadable
  | .tooLarge => some .unreadable
  | _ => none

end Document

/-- The key that a text spells. -/
def Key.ofText : Option String → Key
  | some s => .name s
  | none => .unreadable

namespace Document

mutual

/-- Reads a value inside the open containers `outer`. -/
def value (outer : List Open) : List Token → Document × List Token
  | .openArray :: .closeArray :: rest => after outer (nested outer (.arr [] true)) rest
  | .openArray :: rest => value (.arr [] :: outer) rest
  | .openObject :: .closeObject :: rest => after outer (nested outer (.obj [] true)) rest
  | .openObject :: .text key :: .colon :: rest => value (.obj [] (.ofText key) :: outer) rest
  | .openObject :: .text key :: rest =>
    (abandon (.obj [(.ofText key, .broken)] false) outer, rest)
  | .openObject :: rest => (abandon (.obj [] false) outer, rest)
  | t :: rest =>
    match leaf? t with
    | some d => after outer d rest
    | none => (abandon .broken outer, rest)
  | [] => (abandon .broken outer, [])

/-- Goes on after the finished value `d`. -/
def after (outer : List Open) (d : Document) : List Token → Document × List Token
  | [] =>
    match outer with
    | [] => (d, [])
    | .arr done :: outer => (abandon (.arr (d :: done).reverse false) outer, [])
    | .obj done key :: outer => (abandon (.obj ((key, d) :: done).reverse false) outer, [])
  | t :: rest =>
    match outer with
    | [] => (d, t :: rest)
    | .arr done :: outer =>
      match t with
      | .comma => value (.arr (d :: done) :: outer) rest
      | .closeArray => after outer (nested outer (.arr (d :: done).reverse true)) rest
      | _ => (abandon (.arr (d :: done).reverse false) outer, rest)
    | .obj done key :: outer =>
      match t, rest with
      | .comma, .text next :: .colon :: rest =>
        value (.obj ((key, d) :: done) (.ofText next) :: outer) rest
      | .comma, .text next :: rest =>
        (abandon (.obj ((.ofText next, .broken) :: (key, d) :: done).reverse false) outer, rest)
      | .closeObject, rest => after outer (nested outer (.obj ((key, d) :: done).reverse true)) rest
      | _, rest => (abandon (.obj ((key, d) :: done).reverse false) outer, rest)

end

/-- The first value of a text; what follows it is left alone. -/
def read (s : String) : Document := (value [] (tokens s.toList)).1

/-- The value of a text that holds nothing else; `broken` if something follows. -/
def readWhole (s : String) : Document :=
  match value [] (tokens s.toList) with
  | (d, []) => d
  | (_, _ :: _) => .broken

mutual

/-- The value, if every part of the document has one. -/
def toJson? : Document → Option Json
  | .null => some .null
  | .bool b => some (.bool b)
  | .int n => some (.int n)
  | .float x => some (.float x)
  | .text s => some (.str s)
  | .arr items closed => if closed then (itemsToJson? items).map .arr else none
  | .obj members closed => if closed then (membersToJson? members).map .obj else none
  | .unreadable => none
  | .broken => none

def itemsToJson? : List Document → Option (List Json)
  | [] => some []
  | d :: ds =>
    match d.toJson?, itemsToJson? ds with
    | some j, some js => some (j :: js)
    | _, _ => none

def membersToJson? : List (Key × Document) → Option (List (String × Json))
  | [] => some []
  | (key, d) :: ds =>
    match key, d.toJson?, membersToJson? ds with
    | .name s, some j, some js => some ((s, j) :: js)
    | _, _, _ => none

end

mutual

/-- A value as a document. -/
def ofJson : Json → Document
  | .null => .null
  | .bool b => .bool b
  | .int n => .int n
  | .float x => .float x
  | .str s => .text s
  | .arr items => .arr (ofItems items) true
  | .obj members => .obj (ofMembers members) true

def ofItems : List Json → List Document
  | [] => []
  | j :: js => ofJson j :: ofItems js

def ofMembers : List (String × Json) → List (Key × Document)
  | [] => []
  | (key, j) :: js => (.name key, ofJson j) :: ofMembers js

end

end Document

end PanelQuery.Json
