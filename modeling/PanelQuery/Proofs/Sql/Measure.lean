import PanelQuery.Sql.Piece

/-! # Widths and divisors of a statement

A number of a statement is the width of an interval or a divisor by the wording right in front of
it. `scan` reads a statement from left to right and gives its numbers that have such a role. A part
that ends with other wording can be read by itself, whatever stands around it. -/

namespace PanelQuery.Sql

/-- What a number stands for. -/
inductive Role where
  | width | divisor
  deriving DecidableEq, Repr

/-- The role that wording gives to a number after it. -/
def Role.after? (text : List Char) : Option Role :=
  if ['I', 'N', 'T', 'E', 'R', 'V', 'A', 'L', ' '].isSuffixOf text then some .width
  else if ['/'].isSuffixOf text then some .divisor
  else none

def Piece.role? : Piece → Option Role
  | .fixed text => Role.after? text.toList
  | _ => none

def Piece.isNumber : Piece → Bool
  | .int _ | .float _ => true
  | _ => false

/-- A number with its role. -/
structure Measure where
  role : Role
  number : Piece

namespace Measure

/-- The measures of a part, after wording with the given role, and the role of its own end. -/
def scan : Option Role → Sql → List Measure × Option Role
  | role, [] => ([], role)
  | role, p :: rest =>
    (((role.filter fun _ => p.isNumber).toList.map fun r => ⟨r, p⟩) ++ (scan p.role? rest).1,
      (scan p.role? rest).2)

theorem scan_append (role : Option Role) (a b : Sql) :
    scan role (a ++ b) =
      ((scan role a).1 ++ (scan (scan role a).2 b).1, (scan (scan role a).2 b).2) := by
  induction a generalizing role with
  | nil => simp [scan]
  | cons p a ih => simp [scan, ih]

end Measure

/-- The widths and divisors of a statement, in order. -/
def measures (sql : Sql) : List Measure := (Measure.scan none sql).1

/-- Read by itself, the part has these measures, and nothing is left open at its end. -/
def Measured (sql : Sql) (ms : List Measure) : Prop := Measure.scan none sql = (ms, none)

/-- A part without measures. -/
abbrev Quiet (sql : Sql) : Prop := Measured sql []

namespace Measured

variable {a b : Sql} {ms ns : List Measure}

theorem measures_eq (h : Measured a ms) : a.measures = ms := congrArg Prod.fst h

theorem nil : Quiet [] := rfl

theorem append (ha : Measured a ms) (hb : Measured b ns) : Measured (a ++ b) (ms ++ ns) := by
  rw [Measured, Measure.scan_append, show Measure.scan none a = _ from ha,
    show Measure.scan none b = _ from hb]

/-- The part after another one without measures. -/
theorem after (hb : Measured b ms) (ha : Quiet a) : Measured (a ++ b) ms := ha.append hb

/-- The part in front of another one without measures. -/
theorem before (ha : Measured a ms) (hb : Quiet b) : Measured (a ++ b) ms := by
  simpa using ha.append hb

theorem ite {p : Prop} [Decidable p] (ha : p → Measured a ms) (hb : ¬p → Measured b ms) :
    Measured (if p then a else b) ms := by
  split
  · next hp => exact ha hp
  · next hp => exact hb hp

/-- A piece that gives no role, with nothing in front. -/
theorem piece {p : Piece} (h : p.role? = none) : Quiet [p] := by
  simp [Measured, Measure.scan, h]

theorem literal (s : String) : Quiet (Sql.literal s) := piece rfl

theorem quoted (inside : List Stretch) : Quiet [.quoted inside] := piece rfl

theorem int (n : Int) : Quiet [.int n] := piece rfl

theorem float (x : Float) : Quiet [.float x] := piece rfl

theorem name (n : String) : Quiet [.name n] := piece rfl

theorem direction (d : Direction) : Quiet [.direction d] := piece rfl

/-- The role of a text is decided on its characters. -/
theorem raw {w : String} {cs : List Char} (hw : w = String.ofList cs)
    (hr : Role.after? cs = none) : Quiet (Sql.raw w) := by
  refine piece ?_
  rwa [Piece.role?, hw, String.toList_ofList]

/-- A number right after a text that gives it a role. -/
theorem number {w : String} {role : Role} {p : Piece} (hr : Role.after? w.toList = some role)
    (hp : p.isNumber = true) : Measured (Sql.raw w ++ [p]) [⟨role, p⟩] := by
  have hnone : p.role? = none := by
    cases p <;> first | rfl | cases hp
  have hrole : (Piece.fixed w).role? = some role := hr
  simp [Measured, Measure.scan, Sql.raw, hrole, hnone, hp]

theorem flatMap {α : Type} {as : List α} {f : α → Sql} (h : ∀ a ∈ as, Quiet (f a)) :
    Quiet (as.flatMap f) := by
  induction as with
  | nil => exact nil
  | cons a as ih =>
    rw [List.forall_mem_cons] at h
    rw [List.flatMap_cons]
    exact h.1.append (ih h.2)

theorem join {sep : String} (hs : Quiet (Sql.raw sep)) {parts : List Sql}
    (h : ∀ part ∈ parts, Quiet part) : Quiet (Sql.join sep parts) := by
  induction parts with
  | nil => exact nil
  | cons part parts ih =>
    rw [List.forall_mem_cons] at h
    cases parts with
    | nil => exact h.1
    | cons next parts => exact (h.1.append hs).append (ih h.2)

end Measured

/-! ## Texts with a part that varies -/

namespace Role

/-- The end of a text decides, if its last character is neither a blank nor a slash. -/
theorem after?_of_last {cs : List Char} {c : Char} (h : cs.getLast? = some c) (hblank : c ≠ ' ')
    (hslash : c ≠ '/') : after? cs = none := by
  have hend : ∀ {w : List Char} {d : Char}, w.getLast? = some d → d ≠ c →
      ¬ w.isSuffixOf cs = true := by
    intro w d hw hd hs
    obtain ⟨before, rfl⟩ := List.isSuffixOf_iff_suffix.mp hs
    rw [List.getLast?_append, hw, Option.some_or] at h
    exact hd (Option.some.inj h)
  rw [after?, if_neg (hend rfl hblank.symm), if_neg (hend rfl hslash.symm)]

/-- A long end decides, whatever stands in front of it. -/
theorem after?_append {cs : List Char} (h : 9 ≤ cs.length) (front : List Char) :
    after? (front ++ cs) = after? cs := by
  have hend : ∀ {w : List Char}, w.length ≤ 9 → w.isSuffixOf (front ++ cs) = w.isSuffixOf cs := by
    intro w hw
    rw [Bool.eq_iff_iff, List.isSuffixOf_iff_suffix, List.isSuffixOf_iff_suffix]
    exact ⟨fun hs => List.suffix_of_suffix_length_le hs (List.suffix_append front cs) (Nat.le_trans hw h),
      fun hs => hs.trans (List.suffix_append front cs)⟩
  rw [after?, after?, hend (by decide), hend (by decide)]

end Role

namespace Measured

/-- Wording whose last character is neither a blank nor a slash. -/
theorem closing (front : String) {w : String} {cs : List Char} {c : Char}
    (hw : w = String.ofList cs) (h : cs.getLast? = some c) (hblank : c ≠ ' ') (hslash : c ≠ '/') :
    Quiet (Sql.raw (front ++ w)) := by
  refine piece (Role.after?_of_last ?_ hblank hslash)
  rw [String.toList_append, hw, String.toList_ofList, List.getLast?_append, h, Option.some_or]

/-- Wording with a long end. -/
theorem raw_append (front : String) {w : String} {cs : List Char} (hw : w = String.ofList cs)
    (hlong : 9 ≤ cs.length) (hr : Role.after? cs = none) : Quiet (Sql.raw (front ++ w)) := by
  refine piece ?_
  rw [Piece.role?, String.toList_append, hw, String.toList_ofList, Role.after?_append hlong, hr]

end Measured

end PanelQuery.Sql
