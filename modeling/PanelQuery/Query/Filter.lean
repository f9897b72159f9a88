import PanelQuery.Decimal.Fixed
import PanelQuery.Decimal.Shortest
import PanelQuery.Query.Attribute
import PanelQuery.Text.Blank

/-!
Filters: a comparison of a field with a value, and sets of them under one connective. Operators that
come in pairs carry a flag for the negated member, so that every rule about a pair is stated once.
-/

namespace PanelQuery

/-- The order and equality comparisons. -/
inductive Comparison where
  | eq | ne | lt | le | gt | ge
  deriving DecidableEq, Repr

def Comparison.word : Comparison → String
  | .eq => "="
  | .ne => "!="
  | .lt => "<"
  | .le => "<="
  | .gt => ">"
  | .ge => ">="

def Comparison.all : List Comparison := [.eq, .ne, .lt, .le, .gt, .ge]

inductive FilterOperator where
  | compare (c : Comparison)
  | like (negated : Bool)
  | contains (negated : Bool)
  | regex (negated : Bool)
  | member (negated : Bool)
  | presence (negated : Bool)
  | has (negated : Bool)
  deriving DecidableEq, Repr

namespace FilterOperator

/-- The canonical word; a negated operator has an `n` in front. -/
def word : FilterOperator → String
  | .compare c => c.word
  | .like negated => if negated then "nlike" else "like"
  | .contains negated => if negated then "ncontains" else "contains"
  | .regex negated => if negated then "nregex" else "regex"
  | .member negated => if negated then "nin" else "in"
  | .presence negated => if negated then "nexists" else "exists"
  | .has negated => if negated then "nhas" else "has"

def all : List FilterOperator :=
  Comparison.all.map .compare ++ [false, true].flatMap fun negated =>
    [.like negated, .contains negated, .regex negated, .member negated, .presence negated,
     .has negated]

def isExistence : FilterOperator → Bool
  | .presence _ => true
  | _ => false

/-- The text that names an operator, or the word that is none. White space around it and ASCII case
do not matter, and `==` is another spelling of `=`. -/
def ofText (s : String) : Except String FilterOperator :=
  let word := Text.asciiLower (Text.trim s)
  if word = "==" then .ok (.compare .eq)
  else match all.find? (·.word == word) with
    | some op => .ok op
    | none => .error word

/-- The message for a word that names no operator. -/
def unknownMessage (word : String) : String := "unsupported filter operator '" ++ word ++ "'"

end FilterOperator

/-! ## Values -/

/-- A value to compare with. Integers and doubles stay apart, so that a literal is written the way
it was given. -/
inductive FilterValue where
  | null
  | bool (b : Bool)
  | int (n : Int64)
  | float (x : Float)
  | text (s : String)
  | array (items : List FilterValue)
  deriving Inhabited

namespace FilterValue

/-- The name of the kind of value in messages. -/
def kind : FilterValue → String
  | .null => "null"
  | .bool _ => "bool"
  | .int _ => "int"
  | .float _ => "float"
  | .text _ => "string"
  | .array _ => "array"

def ofBool (b : Bool) : String := if b then "true" else "false"

mutual

/-- Plain text of a value without quotes, as it goes into a pattern. Null is empty and array items
are joined by commas. -/
def plain : FilterValue → String
  | .null => ""
  | .bool b => ofBool b
  | .int n => toString n.toInt
  | .float x => Decimal.text x
  | .text s => s
  | .array items => Text.join "," (plainItems items)

def plainItems : List FilterValue → List String
  | [] => []
  | item :: items => item.plain :: plainItems items

end

def isArray : FilterValue → Bool
  | .array _ => true
  | _ => false

end FilterValue

/-! ## Items and sets -/

structure FilterItem where
  key : AttributeKey
  op : FilterOperator
  value : FilterValue

/-- How the items of a set are combined. -/
inductive Connective where
  | and | or
  deriving DecidableEq, Repr

def Connective.word : Connective → String
  | .and => "AND"
  | .or => "OR"

structure FilterSet where
  op : Connective
  items : List FilterItem

end PanelQuery
