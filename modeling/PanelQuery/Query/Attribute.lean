/-!
Logical references to stored fields. A key names a field, says where it lives and what type its
values have; two keys that differ only in the JSON flag address the same stored field.
-/

namespace PanelQuery

/-- Types of single values. -/
inductive ScalarType where
  | string | int64 | float64 | bool
  deriving DecidableEq, Repr

/-- Declared type of a field: none, a scalar, or an array of scalars. -/
inductive DataType where
  | unspecified
  | scalar (t : ScalarType)
  | array (t : ScalarType)
  deriving DecidableEq, Repr

namespace DataType

def isArray : DataType → Bool
  | .array _ => true
  | _ => false

/-- The element type of an array; every other type is its own. -/
def element : DataType → DataType
  | .array t => .scalar t
  | t => t

def isNumeric : DataType → Bool
  | .scalar .int64 | .scalar .float64 => true
  | _ => false

def isBool : DataType → Bool
  | .scalar .bool => true
  | _ => false

/-- The word for the type in requests. -/
def word : DataType → String
  | .unspecified => ""
  | .scalar .string => "string"
  | .scalar .int64 => "int64"
  | .scalar .float64 => "float64"
  | .scalar .bool => "bool"
  | .array .string => "array(string)"
  | .array .int64 => "array(int64)"
  | .array .float64 => "array(float64)"
  | .array .bool => "array(bool)"

/-- The name of the type in messages about a single key. -/
def title : DataType → String
  | .unspecified => "Unspecified"
  | .scalar .string => "String"
  | .scalar .int64 => "Int64"
  | .scalar .float64 => "Float64"
  | .scalar .bool => "Bool"
  | .array .string => "ArrayString"
  | .array .int64 => "ArrayInt64"
  | .array .float64 => "ArrayFloat64"
  | .array .bool => "ArrayBool"

def all : List DataType :=
  [.unspecified, .scalar .string, .scalar .int64, .scalar .float64, .scalar .bool,
   .array .string, .array .int64, .array .float64, .array .bool]

end DataType

/-- Where a field is stored. -/
inductive KeyKind where
  | unspecified | tag | resource
  deriving DecidableEq, Repr

def KeyKind.word : KeyKind → String
  | .unspecified => ""
  | .tag => "tag"
  | .resource => "resource"

def KeyKind.all : List KeyKind := [.unspecified, .tag, .resource]

/-- A logical reference to a field. -/
structure AttributeKey where
  name : String := ""
  dataType : DataType := .unspecified
  kind : KeyKind := .unspecified
  isColumn : Bool := false
  isJson : Bool := false
  deriving DecidableEq, Repr

namespace AttributeKey

/-- The two keys address the same stored field; the JSON flag does not count. -/
def same (a b : AttributeKey) : Bool :=
  a.name == b.name && a.kind == b.kind && a.dataType == b.dataType && a.isColumn == b.isColumn

def isEmpty (key : AttributeKey) : Bool := key.name == ""

/-- For each key the position of the first key that addresses the same field. -/
def firstSame (keys : List AttributeKey) : List Nat :=
  keys.map fun key => keys.findIdx (·.same key)

end AttributeKey

end PanelQuery
