/-!
White space around text fields. Directions, operators and typed values are read after `trim`, which
drops exactly the code points of the Unicode property White_Space at both ends; ASCII case folding
is separate and touches `A` to `Z` only.
-/

namespace PanelQuery.Text

/-- The code points of the Unicode property White_Space. -/
def blanks : List Nat :=
  [0x09, 0x0A, 0x0B, 0x0C, 0x0D, 0x20, 0x85, 0xA0, 0x1680,
   0x2000, 0x2001, 0x2002, 0x2003, 0x2004, 0x2005, 0x2006, 0x2007, 0x2008, 0x2009, 0x200A,
   0x2028, 0x2029, 0x202F, 0x205F, 0x3000]

def isBlank (c : Char) : Bool := blanks.contains c.toNat

def trimChars (cs : List Char) : List Char :=
  ((cs.dropWhile isBlank).reverse.dropWhile isBlank).reverse

/-- `s` without white space at its two ends. -/
def trim (s : String) : String := String.ofList (trimChars s.toList)

/-- ASCII letters in lower case, every other character as it is. -/
def asciiLower (s : String) : String := String.ofList (s.toList.map Char.toLower)

example : trim "\u2003 DESC\t\n" = "DESC" := by decide
example : asciiLower "İN É" = "İn É" := by decide

/-! ## Word classes -/

/-- ASCII letters, digits and the underscore. -/
def isWordChar (c : Char) : Bool := c.isAlphanum || c == '_'

/-- `s` starts with `start`; the rest after it. -/
def dropStart? (start s : List Char) : Option (List Char) :=
  match start, s with
  | [], rest => some rest
  | _ :: _, [] => none
  | a :: as, b :: bs => if a = b then dropStart? as bs else none

/-- The parts of `cs` between occurrences of `sep`; there is always at least one. -/
def splitOnChar (sep : Char) : List Char → List (List Char)
  | [] => [[]]
  | c :: rest =>
    if c = sep then [] :: splitOnChar sep rest
    else match splitOnChar sep rest with
      | [] => [[c]]
      | part :: parts => (c :: part) :: parts

/-- The two parts of `cs` around the first `sep`. -/
def splitFirst (sep : Char) : List Char → Option (List Char × List Char)
  | [] => none
  | c :: rest =>
    if c = sep then some ([], rest)
    else (splitFirst sep rest).map fun (front, back) => (c :: front, back)

/-- The two parts of `cs` around the last `sep`. -/
def splitLast (sep : Char) (cs : List Char) : Option (List Char × List Char) :=
  (splitFirst sep cs.reverse).map fun (back, front) => (front.reverse, back.reverse)

/-- `parts` with `sep` between neighbours. -/
def join (sep : String) : List String → String
  | [] => ""
  | [part] => part
  | part :: parts => part ++ sep ++ join sep parts

example : splitOnChar '.' "a..b".toList = ["a".toList, [], "b".toList] := by decide

end PanelQuery.Text
