import PanelQuery.Text.Blank

/-!
Labels of alerts. Names are brought into the form that alert receivers accept; two label sets are
the same alert when they have the same labels, in whatever order.
-/

namespace PanelQuery.Rule

/-- Letters, digits and underscores, not starting with a digit: any other character becomes an
underscore, and a leading digit gets one in front. -/
def labelName (name : String) : String :=
  let cs := name.toList.map fun c => if Text.isWordChar c then c else '_'
  match cs with
  | first :: _ => String.ofList (if first.isAlpha || first == '_' then cs else '_' :: cs)
  | [] => ""

/-- Labels by name. -/
abbrev LabelSet := List (String × String)

/-- The two sets hold the same labels, each given once. -/
def sameLabels (a b : LabelSet) : Bool :=
  a.all (b.contains ·) && b.all (a.contains ·)

/-- For each set the position of the first set with the same labels. -/
def firstSameLabels (sets : List LabelSet) : List Nat :=
  sets.map fun set => sets.findIdx (sameLabels · set)

end PanelQuery.Rule
