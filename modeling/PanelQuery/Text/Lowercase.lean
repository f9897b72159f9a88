import PanelQuery.Text.CaseTable

/-!
Lower-casing of whole texts by the Unicode rules. Every character is mapped by `lowercaseRuns`,
apart from the capital I with dot, whose lower-case form has two characters, and the capital sigma,
whose form depends on whether a word ends there.
-/

namespace PanelQuery.Text

def CaseRun.covers (run : CaseRun) (n : Nat) : Bool :=
  run.first ≤ n && n ≤ run.last && (n - run.first) % run.stride == 0

/-- The one-character lower-case form; a character without one stays. -/
def simpleLower (c : Char) : Char :=
  if c.toNat < 128 then c.toLower
  else match lowercaseRuns.find? (·.covers c.toNat) with
    | some run => Char.ofNat (c.toNat + run.offset).toNat
    | none => c

def inRanges (ranges : List (Nat × Nat)) (c : Char) : Bool :=
  ranges.any fun (first, last) => first ≤ c.toNat && c.toNat ≤ last

/-- The first character that is not transparent is a letter with case. -/
def meetsLetter (cs : List Char) : Bool :=
  match cs.dropWhile (inRanges caseIgnorableRanges) with
  | [] => false
  | c :: _ => inRanges casedRanges c

/-- A sigma ends a word when a letter stands before it and none after it. -/
def sigmaIsFinal (before after : List Char) : Bool := meetsLetter before && !meetsLetter after

/-- Lower-cases `cs`; `before` holds the characters in front of it, nearest first. -/
def lowerFrom (before : List Char) : List Char → List Char
  | [] => []
  | c :: rest =>
    let lowered :=
      if c = 'Σ' then [if sigmaIsFinal before rest then 'ς' else 'σ']
      else if c = 'İ' then ['i', '\u0307']
      else [simpleLower c]
    lowered ++ lowerFrom (c :: before) rest

/-- `s` in lower case. -/
def lowercase (s : String) : String := String.ofList (lowerFrom [] s.toList)

end PanelQuery.Text
