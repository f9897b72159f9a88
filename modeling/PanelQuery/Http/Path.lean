import PanelQuery.Text.Blank

/-!
The path of a request. Segments are compared as they stand; a segment that carries a value is
decoded: a per-cent sign with two hexadecimal digits is a byte, every other character is itself.
-/

namespace PanelQuery.Http

/-- The value of a hexadecimal digit. -/
def hexValue? (c : Char) : Option Nat :=
  if c.isDigit then some (c.toNat - 48)
  else if 'a' ≤ c ∧ c ≤ 'f' then some (c.toNat - 87)
  else if 'A' ≤ c ∧ c ≤ 'F' then some (c.toNat - 55)
  else none

/-- The bytes that a segment stands for. -/
def decodeBytes : List Char → List UInt8
  | '%' :: a :: b :: rest =>
    match hexValue? a, hexValue? b with
    | some high, some low => UInt8.ofNat (16 * high + low) :: decodeBytes rest
    | _, _ => 37 :: decodeBytes (a :: b :: rest)
  | c :: rest => (String.singleton c).toUTF8.toList ++ decodeBytes rest
  | [] => []

/-- The text that a segment stands for, if it is one. -/
def decodeSegment? (segment : List Char) : Option String :=
  String.fromUTF8? ⟨(decodeBytes segment).toArray⟩

/-- The path in front of a query and a fragment. -/
def pathOf (target : String) : List Char := target.toList.takeWhile fun c => c ≠ '?' && c ≠ '#'

end PanelQuery.Http
