import PanelQuery.Json.Document

/-!
A JSON text given as bytes. Texts that are wanted have to be UTF-8, but a reader that steps over a
text does not look inside it, so bytes that are no character only take the value away from the text
they stand in.
-/

namespace PanelQuery.Json

/-- The character that some bytes start with, and how many bytes it takes. -/
def takeChar? (bytes : List UInt8) : Option (Char × Nat) :=
  [1, 2, 3, 4].findSome? fun n =>
    match (String.fromUTF8? ⟨(bytes.take n).toArray⟩).map String.toList with
    | some [c] => some (c, n)
    | _ => none

/-- What is read for a byte that belongs to no character: nothing that stands outside a text, ends a
number or goes on after a backslash, and inside a text a lone surrogate. -/
def strayByte : List Char := "x\\udfff".toList

/-- The characters of some bytes, with `strayByte` for each that belongs to none. -/
def charsOfBytes : List UInt8 → List Char
  | [] => []
  | b :: rest =>
    match takeChar? (b :: rest) with
    | some (c, n) => c :: charsOfBytes (rest.drop (n - 1))
    | none => strayByte ++ charsOfBytes rest
termination_by bytes => bytes.length
decreasing_by all_goals simp only [List.length_cons, List.length_drop]; omega

/-- The text of some bytes: the text that they encode, if there is one. -/
def textOfBytes (bytes : List UInt8) : String :=
  match String.fromUTF8? ⟨bytes.toArray⟩ with
  | some s => s
  | none => String.ofList (charsOfBytes bytes)

/-- The value of bytes that hold nothing else. -/
def Document.readBytes (bytes : List UInt8) : Document := readWhole (textOfBytes bytes)

end PanelQuery.Json
