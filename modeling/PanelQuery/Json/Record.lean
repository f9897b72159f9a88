import PanelQuery.Json.Document

/-!
Taking typed values out of a document. Two things can go wrong: the text is `malformed`, or a
well-formed part has the wrong shape (`mismatch`). Parts are visited in document order, so the
first fault in the text decides.

A record is a list of `Field`s. It is read from an object, unknown members skipped and repeated
ones refused, or from an array with the fields in order.
-/

namespace PanelQuery.Json

inductive ReadError where
  | malformed
  | mismatch
  deriving DecidableEq

abbrev Reader (α : Type) := Document → Except ReadError α

namespace Document

mutual

/-- Steps over a part that nobody asks for: only a break in the text is a fault. -/
def skip : Document → Except ReadError Unit
  | .broken => .error .malformed
  | .arr items closed => do
    skipItems items
    if closed then .ok () else .error .malformed
  | .obj members closed => do
    skipMembers members
    if closed then .ok () else .error .malformed
  | _ => .ok ()

def skipItems : List Document → Except ReadError Unit
  | [] => .ok ()
  | d :: ds => do
    skip d
    skipItems ds

def skipMembers : List (Key × Document) → Except ReadError Unit
  | [] => .ok ()
  | (_, d) :: ds => do
    skip d
    skipMembers ds

end

mutual

/-- Takes a part as a plain value, in which every number and text must have one. -/
def plain : Document → Except ReadError Json
  | .null => .ok .null
  | .bool b => .ok (.bool b)
  | .int n => .ok (.int n)
  | .float x => .ok (.float x)
  | .text s => .ok (.str s)
  | .arr items closed => do
    let items ← plainItems items
    if closed then .ok (.arr items) else .error .malformed
  | .obj members closed => do
    let members ← plainMembers members
    if closed then .ok (.obj members) else .error .malformed
  | .unreadable => .error .malformed
  | .broken => .error .malformed

def plainItems : List Document → Except ReadError (List Json)
  | [] => .ok []
  | d :: ds => do
    let j ← plain d
    let js ← plainItems ds
    .ok (j :: js)

def plainMembers : List (Key × Document) → Except ReadError (List (String × Json))
  | [] => .ok []
  | (.name key, d) :: ds => do
    let j ← plain d
    let js ← plainMembers ds
    .ok ((key, j) :: js)
  | _ :: _ => .error .malformed

end

/-- The fault of a part that is not what was asked for. -/
def wrong : Document → ReadError
  | .broken => .malformed
  | .unreadable => .malformed
  | _ => .mismatch

/-! ## Single values -/

def asText : Reader String
  | .text s => .ok s
  | d => .error d.wrong

def asBool : Reader Bool
  | .bool b => .ok b
  | d => .error d.wrong

/-- An integer accepted by `check`; a number with point or exponent is none. -/
def asInteger (check : Int → Option α) : Reader α
  | .int n => match check n with
    | some a => .ok a
    | none => .error .mismatch
  | d => .error d.wrong

def asInt64 : Reader Int64 := asInteger Decimal.int64Of?

def asUInt64 : Reader UInt64 := asInteger Decimal.uint64Of?

/-- Any number, as a double. -/
def asFloat : Reader Float
  | .int n => .ok (Decimal.floatOfInt n)
  | .float x => .ok x
  | d => .error d.wrong

/-- Null stands for an absent value. -/
def asOption (read : Reader α) : Reader (Option α)
  | .null => .ok none
  | d => (read d).map some

/-- The items of an array, each read by `read`. -/
def asList (read : Reader α) : Reader (List α)
  | .arr items closed => do
    let values ← items.mapM read
    if closed then .ok values else .error .malformed
  | d => .error d.wrong

/-- The members of an object in order, each read by `read`. -/
def asMap (read : Reader α) : Reader (List (String × α))
  | .obj members closed => do
    let values ← members.mapM fun
      | (.name key, d) => (read d).map fun a => (key, a)
      | _ => .error .malformed
    if closed then .ok values else .error .malformed
  | d => .error d.wrong

/-- One of the listed words, also as an object with that one member and no content. A part that is
neither a text nor an object cannot start such a value, which is a fault of the text. -/
def asChoice (choices : List (String × α)) : Reader α
  | .text word => match choices.lookup word with
    | some a => .ok a
    | none => .error .mismatch
  | .obj ((.name word, content) :: more) closed => match choices.lookup word with
    | none => .error .mismatch
    | some a => match content, more, closed with
      | .null, [], true => .ok a
      | .null, _, _ => .error .malformed
      | d, _, _ => .error d.wrong
  | _ => .error .malformed

/-! ## Records -/

/-- A field of a record: how its value is stored, and whether it may be absent. -/
structure Field (σ : Type) where
  name : String
  required : Bool
  store : σ → Document → Except ReadError σ

/-- A field that must be present. -/
def Field.need (name : String) (read : Reader α) (set : σ → α → σ) : Field σ :=
  ⟨name, true, fun s d => (read d).map (set s)⟩

/-- A field that keeps its initial value when absent. -/
def Field.may (name : String) (read : Reader α) (set : σ → α → σ) : Field σ :=
  ⟨name, false, fun s d => (read d).map (set s)⟩

/-- Every required field is among `seen`. -/
def complete (fields : List (Field σ)) (seen : List String) : Bool :=
  fields.all fun f => !f.required || seen.contains f.name

/-- Stores the members of an object one after the other. -/
def storeMembers (fields : List (Field σ)) (s : σ) (seen : List String) :
    List (Key × Document) → Except ReadError (σ × List String)
  | [] => .ok (s, seen)
  | (.name key, d) :: rest =>
    match fields.find? (·.name == key) with
    | none => do
      skip d
      storeMembers fields s seen rest
    | some field =>
      if seen.contains key then .error .mismatch
      else do
        let s ← field.store s d
        storeMembers fields s (key :: seen) rest
  | _ :: _ => .error .malformed

/-- Stores the items of an array into the fields in order. -/
def storeItems (s : σ) : List (Field σ) → List Document → Bool → Except ReadError σ
  | [], [], closed => if closed then .ok s else .error .malformed
  | [], _ :: _, _ => .error .malformed
  | field :: fields, [], closed =>
    if !closed then .error .malformed
    else if field.required then .error .mismatch
    else storeItems s fields [] closed
  | field :: fields, d :: ds, closed => do
    let s ← field.store s d
    storeItems s fields ds closed

/-- A record whose absent fields are those of `start`. -/
def asRecord (start : σ) (fields : List (Field σ)) : Reader σ
  | .obj members closed => do
    let (s, seen) ← storeMembers fields start [] members
    if !closed then .error .malformed
    else if complete fields seen then .ok s
    else .error .mismatch
  | .arr items closed => storeItems start fields items closed
  | d => .error d.wrong

end Document

end PanelQuery.Json
