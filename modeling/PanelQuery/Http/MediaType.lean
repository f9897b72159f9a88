import PanelQuery.Text.Blank

/-!
Content types of requests. A media type is two tokens with a slash between them and an optional list
of parameters; a plus sign sets a suffix apart. Only what says JSON is accepted: the subtype `json`
of `application`, with or without a suffix, or any of its subtypes with the suffix `json`.
-/

namespace PanelQuery.Http

/-- The characters of a token. The asterisk is one, so that ranges are types too. -/
def isTokenChar (c : Char) : Bool :=
  c.isAlphanum || "!#$%&'*+-.^_\x60|~".toList.contains c

/-- Printable ASCII, the blank included. -/
def isPrintable (c : Char) : Bool := 32 ≤ c.toNat && c.toNat < 127

/-! ## Parameters -/

/-- Where a reader of parameters stands. -/
inductive ParameterPlace where
  | beforeName | inName | valueStart | inValue | quoteStart | inQuote | afterQuote
  deriving DecidableEq, Repr

namespace ParameterPlace

/-- The place after one more character. A quoted value has at least one character, whatever it
is. -/
def next? : ParameterPlace → Char → Option ParameterPlace
  | beforeName, c => if c = ' ' then some beforeName else if isTokenChar c then some inName else none
  | inName, c => if c = '=' then some valueStart else if isTokenChar c then some inName else none
  | valueStart, c => if c = '"' then some quoteStart else if isTokenChar c then some inValue else none
  | inValue, c => if c = ';' then some beforeName else if isTokenChar c then some inValue else none
  | quoteStart, c => if isPrintable c then some inQuote else none
  | inQuote, c => if c = '"' then some afterQuote else if isPrintable c then some inQuote else none
  | afterQuote, c =>
    if c = ';' then some beforeName else if c = ' ' then some afterQuote else none

/-- The list of parameters may end here. -/
def mayEnd : ParameterPlace → Bool
  | beforeName | valueStart | inValue | afterQuote => true
  | inName | quoteStart | inQuote => false

end ParameterPlace

/-- A well-formed list of parameters. -/
def parametersOk (cs : List Char) : Bool :=
  match cs.foldlM ParameterPlace.next? .beforeName with
  | some place => place.mayEnd
  | none => false

/-! ## Types -/

/-- The subtype and the suffix of the part after the slash. A plus sign in front starts no suffix. -/
def splitSuffix (part : List Char) : List Char × Option (List Char) :=
  match Text.splitLast '+' part with
  | some (c :: front, suffix) => (c :: front, some suffix)
  | _ => (part, none)

/-- A subtype that says JSON. -/
def isJsonSubtype (part : List Char) : Bool :=
  let (subtype, suffix) := splitSuffix part
  subtype = "json".toList || suffix = some "json".toList

/-- A content type that announces JSON. -/
def isJsonType (s : String) : Bool :=
  match Text.splitFirst '/' (Text.asciiLower s).toList with
  | none => false
  | some (main, rest) =>
    main = "application".toList && isJsonSubtype (rest.takeWhile isTokenChar)
      && match rest.dropWhile isTokenChar with
        | [] => true
        | ';' :: parameters => parametersOk parameters
        | _ => false

example : isJsonType "Application/JSON; charset=utf-8" = true := by decide +kernel
example : isJsonType "application/vnd.x+json" = true := by decide +kernel
example : isJsonType "application/*+json" = true := by decide +kernel
example : isJsonType "application/+json" = false := by decide +kernel

end PanelQuery.Http
