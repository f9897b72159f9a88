import PanelQuery.Proofs.Filter.Formula
import PanelQuery.Proofs.Filter.Labels

/-! # Guards of the columns of the logs table

A guard for a column of the table asks for a value other than zero. A condition on the column is
read for one row by its wording, and it is said what each kind of test asks of the value there. What
the wording does not decide by itself, such as a regular expression or an operand of another type
than the column, is left to the store. -/

namespace PanelQuery

open LabelSet (contentOf literalText? patternChars)
open Sql (Piece likes)

/-! ## Rows -/

inductive CellType where
  | number | text
  deriving DecidableEq

/-- A value of a column. -/
inductive Cell where
  | number (n : Int)
  | text (s : String)
  deriving DecidableEq

namespace Cell

def type : Cell → CellType
  | .number _ => .number
  | .text _ => .text

/-- The value that a column has where nothing was given. -/
def zero : CellType → Cell
  | .number => .number 0
  | .text => .text ""

@[simp] theorem type_zero (t : CellType) : (zero t).type = t := by cases t <;> rfl

end Cell

/-- Times, flags and severities are numbers, the other columns are texts. -/
def Schema.logColumnType (name : String) : CellType :=
  if name = "timestamp" ∨ name ∈ numericLogColumns then .number else .text

/-- A row of the logs table. -/
structure LogRow where
  cell : String → Cell
  typed : ∀ name ∈ Schema.logColumns, (cell name).type = Schema.logColumnType name

/-- The row with nothing in it. -/
def LogRow.empty : LogRow where
  cell name := .zero (Schema.logColumnType name)
  typed _ _ := Cell.type_zero _

/-! ## What a test asks of a value -/

/-- How two numbers compare. -/
def Comparison.relatesInt : Comparison → Int → Int → Bool
  | .eq, a, b => decide (a = b)
  | .ne, a, b => decide (a ≠ b)
  | .lt, a, b => decide (a < b)
  | .le, a, b => decide (a ≤ b)
  | .gt, a, b => decide (b < a)
  | .ge, a, b => decide (b ≤ a)

/-- How two values of one type compare. -/
def Comparison.verdict? (c : Comparison) : Cell → Cell → Option Bool
  | .number a, .number b => some (c.relatesInt a b)
  | .text a, .text b => some (c.relates a b)
  | _, _ => none

namespace Cell

/-- Whether a text matches, in lower case if `folded`. -/
def matches? (folded negated : Bool) (pattern : List Char) : Cell → Option Bool
  | .text s =>
    some (negated ^^ if folded then likes (pattern.map Char.toLower) (s.toList.map Char.toLower)
      else likes pattern s.toList)
  | .number _ => none

/-- Whether a value is one of those given, which are of its type. -/
def among? (negated : Bool) (cells : List Cell) (cell : Cell) : Option Bool :=
  if ∀ c ∈ cells, c.type = cell.type then some (negated ^^ decide (cell ∈ cells)) else none

end Cell

/-- The value of a column that a filter value is. -/
def FilterValue.cell? : FilterValue → Option Cell
  | .int n => some (.number n.toInt)
  | .text s => some (.text s)
  | _ => none

/-- What a test says of a value. -/
def Test.verdict? (folded : Bool) (cell : Cell) : Test → Option Bool
  | .compare c v => v.cell?.bind (c.verdict? cell)
  | .like negated v => cell.matches? folded negated (patternChars false v)
  | .contains negated v => cell.matches? folded negated (patternChars true v)
  | .member negated items => (items.mapM FilterValue.cell?).bind (cell.among? negated)
  | .regex .. | .has .. | .presence .. => none

/-! ## Truth of conditions -/

namespace LogRow

/-- The value of an operand that is one literal. -/
def operand? : Sql → Option Cell
  | [.quoted inside] => some (.text (contentOf inside))
  | [.int n] => some (.number n)
  | _ => none

def isComma : Piece → Bool
  | .fixed "," => true
  | _ => false

/-- The values of a list of literals. -/
def operands? : Sql → Option (List Cell)
  | .fixed "[" :: rest => (rest.dropLast.filter fun p => !isComma p).mapM fun p => operand? [p]
  | _ => none

/-- What the wording between a column and its operand says. -/
def judge? (word : String) (operand : Sql) (cell : Cell) : Option Bool :=
  match word with
  -- a guard has its zero in the wording
  | " != 0" => Comparison.ne.verdict? cell (.number 0)
  | " != ''" => Comparison.ne.verdict? cell (.text "")
  | " = " => (operand? operand).bind (Comparison.eq.verdict? cell)
  | " != " => (operand? operand).bind (Comparison.ne.verdict? cell)
  | " < " => (operand? operand).bind (Comparison.lt.verdict? cell)
  | " <= " => (operand? operand).bind (Comparison.le.verdict? cell)
  | " > " => (operand? operand).bind (Comparison.gt.verdict? cell)
  | " >= " => (operand? operand).bind (Comparison.ge.verdict? cell)
  | " LIKE " => (literalText? operand).bind fun p => cell.matches? false false p.toList
  | " NOT LIKE " => (literalText? operand).bind fun p => cell.matches? false true p.toList
  | " IN " => (operands? operand).bind (cell.among? false)
  | " NOT IN " => (operands? operand).bind (cell.among? true)
  | _ => none

/-- What the wording of a condition says of a row. -/
def verdict? (row : LogRow) : Sql → Option Bool
  | .name n :: .fixed word :: operand => judge? word operand (row.cell n)
  | [.fixed "lower(body) LIKE lower(", .quoted p, .fixed ")"] =>
    (row.cell "body").matches? true false (contentOf p).toList
  | [.fixed "lower(body) NOT LIKE lower(", .quoted p, .fixed ")"] =>
    (row.cell "body").matches? true true (contentOf p).toList
  | _ => none

/-- Truth of a condition for a row, where `other` tells what the wording leaves open. -/
def truth (other : LogRow → Sql → Bool) (row : LogRow) (sql : Sql) : Bool :=
  (row.verdict? sql).getD (other row sql)

variable {row : LogRow} {key : AttributeKey}

theorem sql_column (h : Schema.isTopLevelLog key = true) :
    (Schema.logs.column key).sql = [.name key.name] := by
  change (Schema.logColumn key).sql = _
  rw [Schema.logColumn, if_pos h]
  rfl

/-! ### Operands -/

theorem operand?_literal (v : FilterValue) : operand? v.literal = v.cell? := by
  cases v with
  | text s => exact congrArg (some ∘ Cell.text) (LabelSet.contentOf_given s)
  | array items =>
    rw [FilterValue.literal]
    cases FilterValue.itemLiterals items <;> rfl
  | _ => rfl

/-- The values that the pieces of a list are. -/
def pieces? (sql : Sql) : Option (List Cell) :=
  (sql.filter fun p => !isComma p).mapM fun p => operand? [p]

theorem pieces?_append (a b : Sql) : pieces? (a ++ b) =
    (do return (← pieces? a) ++ (← pieces? b)) := by
  rw [pieces?, List.filter_append, List.mapM_append]
  rfl

theorem pieces?_literal (v : FilterValue) : pieces? v.literal = v.cell?.map ([·]) := by
  cases v with
  | text s => exact congrArg (fun s => some [Cell.text s]) (LabelSet.contentOf_given s)
  | bool b => cases b <;> rfl
  | array items => rfl
  | _ => rfl

theorem pieces?_itemLiterals (items : List FilterValue) :
    pieces? (FilterValue.itemLiterals items) = items.mapM FilterValue.cell? := by
  induction items with
  | nil => rfl
  | cons item items ih =>
    cases items with
    | nil =>
      rw [FilterValue.itemLiterals, pieces?_literal, List.mapM_cons, List.mapM_nil]
      cases item.cell? <;> rfl
    | cons next items =>
      change pieces? (item.literal ++ Sql.raw "," ++ FilterValue.itemLiterals (next :: items)) = _
      rw [pieces?_append, pieces?_append, pieces?_literal, ih]
      generalize next :: items = rest
      rw [List.mapM_cons]
      cases item.cell? <;> rfl

theorem operands?_literal (items : List FilterValue) :
    operands? (FilterValue.array items).literal = items.mapM FilterValue.cell? := by
  rw [FilterValue.literal, List.append_assoc]
  change pieces? (FilterValue.itemLiterals items ++ [Piece.fixed "]"]).dropLast = _
  rw [List.dropLast_concat, pieces?_itemLiterals]

theorem exists_pattern (v : FilterValue) (anywhere : Bool) : ∃ inside,
    v.pattern anywhere = [.quoted inside] ∧
      (contentOf inside).toList = patternChars anywhere v := by
  have hp := LabelSet.literalText?_pattern v anywhere
  cases anywhere <;> exact ⟨_, rfl, by rw [Option.some.inj hp, String.toList_ofList]⟩

/-! ### Tests -/

theorem verdict?_compare (h : Schema.isTopLevelLog key = true) (c : Comparison) (v : FilterValue) :
    row.verdict? (Schema.logs.testSql key (.compare c v)) =
      v.cell?.bind (c.verdict? (row.cell key.name)) := by
  rw [Schema.testSql, sql_column h, ← operand?_literal]
  cases c <;> rfl

theorem verdict?_likeSql (h : Schema.isTopLevelLog key = true) (negated anywhere : Bool)
    (v : FilterValue) :
    row.verdict? (Schema.logs.likeSql key negated (v.pattern anywhere)) =
      (row.cell key.name).matches? (key.name == "body") negated (patternChars anywhere v) := by
  obtain ⟨inside, hp, hc⟩ := exists_pattern v anywhere
  rw [Schema.likeSql, show Schema.logs.isTopLevel key = true from h, Bool.and_true, hp, ← hc]
  by_cases hbody : key.name = "body"
  · rw [if_pos (beq_iff_eq.mpr hbody), hbody]
    cases negated <;> rfl
  · rw [if_neg (beq_iff_eq.not.mpr hbody), sql_column h, beq_eq_false_iff_ne.mpr hbody]
    cases negated <;> rfl

theorem verdict?_member (h : Schema.isTopLevelLog key = true) (negated : Bool)
    (items : List FilterValue) :
    row.verdict? (Schema.logs.testSql key (.member negated items)) =
      (items.mapM FilterValue.cell?).bind ((row.cell key.name).among? negated) := by
  rw [Schema.testSql, sql_column h, ← operands?_literal]
  cases negated <;> rfl

/-- The condition of a test says of a row what the test says of the value in the column. -/
theorem verdict?_testSql (h : Schema.isTopLevelLog key = true) (t : Test)
    (ht : ∀ negated, t ≠ .presence negated) :
    row.verdict? (Schema.logs.testSql key t) =
      t.verdict? (key.name == "body") (row.cell key.name) := by
  cases t with
  | compare c v => exact verdict?_compare h c v
  | like negated v => exact verdict?_likeSql h negated false v
  | contains negated v => exact verdict?_likeSql h negated true v
  | member negated items => exact verdict?_member h negated items
  | regex negated v =>
    rw [Schema.testSql, sql_column h]
    cases negated <;> rfl
  | has negated v =>
    rw [Schema.testSql, sql_column h]
    cases negated <;> rfl
  | presence negated => exact absurd rfl (ht negated)

/-! ### Guards -/

/-- The value of a column that the guard names; none is a truth value. -/
def guardCell? : Zero → Option Cell
  | .number => some (.number 0)
  | .text => some (.text "")
  | .bool => none

theorem verdict?_guard (h : Schema.isTopLevelLog key = true) :
    row.verdict? (Schema.logs.guard key false) =
      (guardCell? (Schema.logZero key)).bind (Comparison.ne.verdict? (row.cell key.name)) := by
  have hp : Schema.logs.presence key = .nonZero key.name (Schema.logZero key) := if_pos h
  rw [Schema.guard, hp]
  cases Schema.logZero key <;> rfl

/-- A key that names a column of the table without being flagged as one. -/
theorem mem_logColumns (h : Schema.isTopLevelLog key = true) (hcol : key.isColumn = false) :
    key.name ∈ Schema.logColumns := by
  rw [Schema.isTopLevelLog, Bool.or_eq_true, Bool.or_eq_true, beq_iff_eq, beq_iff_eq, hcol,
    Bool.false_or, Bool.and_eq_true, List.contains_iff_mem] at h
  rcases h with (h | h) | h
  · exact h ▸ by decide
  · exact h ▸ by decide
  · exact h.2

theorem logZero_eq (h : key.name ∈ Schema.logColumns) : Schema.logZero key =
    if key.name ∈ Schema.numericLogColumns then .number
    else if key.dataType.isBool then .bool else .text := by
  simp [Schema.logZero, h]

/-- The guard of a column names the zero of its type, but for the times, which it compares with a
text, and for the texts that the key takes for truth values. -/
def OwnZero (key : AttributeKey) : Prop :=
  key.name ≠ "timestamp" ∧
    (key.name ∈ Schema.numericLogColumns ∨ key.dataType.isBool = false)

theorem verdict?_guard_own (h : Schema.isTopLevelLog key = true) (hcol : key.isColumn = false)
    (hown : OwnZero key) : row.verdict? (Schema.logs.guard key false) =
      some (decide (row.cell key.name ≠ .zero (Schema.logColumnType key.name))) := by
  obtain ⟨htime, hkind⟩ := hown
  -- a cell of the other type cannot stand in the column
  have htyped := row.typed key.name (mem_logColumns h hcol)
  rw [verdict?_guard h, logZero_eq (mem_logColumns h hcol)]
  by_cases hn : key.name ∈ Schema.numericLogColumns
  · have ht : Schema.logColumnType key.name = .number := if_pos (.inr hn)
    rw [ht] at htyped ⊢
    rw [if_pos hn]
    cases hc : row.cell key.name with
    | number n => simp [guardCell?, Comparison.verdict?, Comparison.relatesInt, Cell.zero]
    | text s => rw [hc] at htyped; cases htyped
  · have ht : Schema.logColumnType key.name = .text := if_neg (not_or.mpr ⟨htime, hn⟩)
    rw [ht] at htyped ⊢
    rw [if_neg hn, hkind.resolve_left hn]
    cases hc : row.cell key.name with
    | number n => rw [hc] at htyped; cases htyped
    | text s => simp [guardCell?, Comparison.verdict?, Comparison.relates, Cell.zero, bne,
        beq_eq_decide]

theorem truth_guard_own (h : Schema.isTopLevelLog key = true) (hcol : key.isColumn = false)
    (hown : OwnZero key) (other : LogRow → Sql → Bool) :
    row.truth other (Schema.logs.guard key false) = true ↔
      row.cell key.name ≠ .zero (Schema.logColumnType key.name) := by
  rw [truth, verdict?_guard_own h hcol hown, Option.getD_some, decide_eq_true_iff]

/-- Otherwise the wording does not decide the guard for any row. -/
theorem verdict?_guard_foreign (h : Schema.isTopLevelLog key = true) (hcol : key.isColumn = false)
    (hown : ¬ OwnZero key) : row.verdict? (Schema.logs.guard key false) = none := by
  have htyped := row.typed key.name (mem_logColumns h hcol)
  rw [verdict?_guard h, logZero_eq (mem_logColumns h hcol)]
  by_cases htime : key.name = "timestamp"
  · have hn : key.name ∉ Schema.numericLogColumns := htime ▸ by decide
    rw [Schema.logColumnType, if_pos (.inl htime)] at htyped
    rw [if_neg hn]
    cases hc : row.cell key.name with
    | number n => cases key.dataType.isBool <;> rfl
    | text s => rw [hc] at htyped; cases htyped
  · obtain ⟨hn, hbool⟩ := not_or.mp fun hkind => hown ⟨htime, hkind⟩
    rw [if_neg hn, (Bool.not_eq_false _).mp hbool]
    rfl

end LogRow

/-! ## Units -/

namespace FilterUnit

variable {other : LogRow → Sql → Bool} {u : FilterUnit}

/-- The guard takes no row out that the condition admits. -/
def Agrees (other : LogRow → Sql → Bool) (u : FilterUnit) : Prop :=
  ∀ row : LogRow, u.Holds (row.truth other) ↔ row.truth other u.condition = true

theorem holds_of_none (h : u.guard = none) (truth : Sql → Bool) :
    u.Holds truth ↔ truth u.condition = true := by
  simp [Holds, atoms, h]

theorem holds_of_some {guard : Sql} (h : u.guard = some guard) (truth : Sql → Bool) :
    u.Holds truth ↔ truth u.condition = true ∧ truth guard = true := by
  simp [Holds, atoms, h]

/-- A guard that asks for another value than `zero` takes out the rows with that value. -/
theorem agrees_iff {name : String} {zero : Cell}
    (h : ∀ row : LogRow, u.Holds (row.truth other) ↔
      row.truth other u.condition = true ∧ row.cell name ≠ zero) :
    u.Agrees other ↔
      ∀ row : LogRow, row.cell name = zero → row.truth other u.condition = false := by
  constructor
  · intro hagrees row hzero
    by_contra htrue
    have hboth := (hagrees row).mpr ((Bool.not_eq_false _).mp htrue)
    exact ((h row).mp hboth).2 hzero
  · intro hnone row
    refine (h row).trans ⟨And.left, fun htrue => ⟨htrue, fun hzero => ?_⟩⟩
    rw [hnone row hzero] at htrue
    cases htrue

/-- The same if the wording of the condition says of the rows with `zero` that it holds, or that it
does not. -/
theorem agrees_iff_of_verdict {name : String} {zero : Cell} {b : Bool}
    (hzero : LogRow.empty.cell name = zero)
    (hb : ∀ row : LogRow, row.cell name = zero → row.verdict? u.condition = some b)
    (h : ∀ row : LogRow, u.Holds (row.truth other) ↔
      row.truth other u.condition = true ∧ row.cell name ≠ zero) :
    u.Agrees other ↔ b = false := by
  have htruth : ∀ row : LogRow, row.cell name = zero → row.truth other u.condition = b := by
    intro row hrow
    rw [LogRow.truth, hb row hrow, Option.getD_some]
  rw [agrees_iff h]
  constructor
  · intro hnone
    rw [← htruth .empty hzero, hnone .empty hzero]
  · rintro rfl row hrow
    exact htruth row hrow

end FilterUnit

namespace Schema

open LogRow (OwnZero)

theorem guard_eq_none {item : FilterItem} {u : FilterUnit} {s : Schema} (h : s.unit item = .ok u)
    (hflag : item.key.isColumn = true ∨ item.key.isJson = true) : u.guard = none := by
  have hneeds : ¬ s.needsGuard item = true := by
    rw [needsGuard_iff]
    rintro ⟨-, hcol, hjson, -⟩
    simp [hcol, hjson] at hflag
  rw [(unit_ok h).2, if_neg hneeds]

/-- The condition of an item on a column says of a row what the test says of the value there. -/
theorem exists_test {item : FilterItem} {u : FilterUnit} (htop : isTopLevelLog item.key = true)
    (hop : ∀ negated, item.op ≠ .presence negated) (hjson : item.key.isJson = false)
    (h : Schema.logs.unit item = .ok u) :
    ∃ test, item.test = .ok test ∧ ∀ row : LogRow, row.verdict? u.condition =
      test.verdict? (item.key.name == "body") (row.cell item.key.name) := by
  have hcondition := (unit_ok h).1
  rw [itemCondition, hjson, if_neg Bool.false_ne_true] at hcondition
  obtain ⟨test, htest, hsql⟩ := ok_of_bind hcondition
  refine ⟨test, htest, fun row => ?_⟩
  rw [← Except.ok.inj hsql]
  exact LogRow.verdict?_testSql htop test (item.test_ne_presence htest hop)

/-- **The guard of a column takes out its zero.** An item on a column of the logs table that asks
for no presence has no guard if its key is flagged as a column or reads the JSON body. If not, it
has one, and its condition says of a row what its test says of the value in the column. A guard of
the column's own type keeps all rows but those with a zero there: so it keeps what the condition
admits if and only if the condition admits no zero. Any other guard is left to the store. -/
theorem guard_drops_zero {item : FilterItem} {u : FilterUnit}
    (htop : isTopLevelLog item.key = true) (hop : ∀ negated, item.op ≠ .presence negated)
    (h : Schema.logs.unit item = .ok u) :
    (item.key.isColumn = true ∨ item.key.isJson = true →
      u.guard = none ∧ ∀ truth, u.Holds truth ↔ truth u.condition = true) ∧
    (item.key.isColumn = false → item.key.isJson = false →
      ∃ test, item.test = .ok test ∧ u.guard = some (Schema.logs.guard item.key false) ∧
        (∀ row : LogRow, row.verdict? u.condition =
          test.verdict? (item.key.name == "body") (row.cell item.key.name)) ∧
        (OwnZero item.key → ∀ other,
          let zero := Cell.zero (logColumnType item.key.name)
          (∀ row : LogRow, u.Holds (row.truth other) ↔
            row.truth other u.condition = true ∧ row.cell item.key.name ≠ zero) ∧
          (u.Agrees other ↔ ∀ row : LogRow, row.cell item.key.name = zero →
            row.truth other u.condition = false) ∧
          ∀ b, test.verdict? (item.key.name == "body") zero = some b →
            (u.Agrees other ↔ b = false)) ∧
        (¬ OwnZero item.key → ∀ row : LogRow,
          row.verdict? (Schema.logs.guard item.key false) = none)) := by
  refine ⟨fun hflag => ?_, fun hcol hjson => ?_⟩
  · have hnone := guard_eq_none h hflag
    exact ⟨hnone, FilterUnit.holds_of_none hnone⟩
  · obtain ⟨test, htest, hread⟩ := exists_test htop hop hjson h
    have hguard : u.guard = some (Schema.logs.guard item.key false) := by
      rw [(unit_ok h).2, if_pos (needsGuard_iff.mpr ⟨rfl, hcol, hjson, hop⟩)]
    refine ⟨test, htest, hguard, hread, fun hown other => ?_, fun hown row =>
      LogRow.verdict?_guard_foreign htop hcol hown⟩
    have hholds : ∀ row : LogRow, u.Holds (row.truth other) ↔ row.truth other u.condition = true ∧
        row.cell item.key.name ≠ .zero (logColumnType item.key.name) := fun row =>
      (FilterUnit.holds_of_some hguard _).trans
        (and_congr_right fun _ => LogRow.truth_guard_own htop hcol hown other)
    refine ⟨hholds, FilterUnit.agrees_iff hholds, fun b hb => ?_⟩
    have hzeros : ∀ row : LogRow, row.cell item.key.name = .zero (logColumnType item.key.name) →
        row.verdict? u.condition = some b := by
      intro row hzero
      rw [hread, hzero, hb]
    exact FilterUnit.agrees_iff_of_verdict rfl hzeros hholds

/-- Records without a severity. -/
def unspecifiedSeverity : FilterItem :=
  ⟨{ name := "severity_number", dataType := .scalar .int64 }, .compare .eq, .int 0⟩

/-- They are asked for and guarded against. -/
theorem guard_drops_zero_unspecifiedSeverity :
    isTopLevelLog unspecifiedSeverity.key = true ∧
    (∀ negated, unspecifiedSeverity.op ≠ .presence negated) ∧
    ∃ u, Schema.logs.unit unspecifiedSeverity = .ok u ∧
      u.condition.text = "severity_number = 0" ∧
      u.guard.map Sql.text = some "severity_number != 0" ∧ ∀ other, ¬ u.Agrees other := by
  have htop : isTopLevelLog unspecifiedSeverity.key = true := by decide
  have hop : ∀ negated, unspecifiedSeverity.op ≠ .presence negated := nofun
  have hunit : ∃ u, Schema.logs.unit unspecifiedSeverity = .ok u ∧
      u.condition.text = "severity_number = 0" ∧
      u.guard.map Sql.text = some "severity_number != 0" :=
    ⟨_, rfl, by decide +kernel, by decide +kernel⟩
  obtain ⟨u, h, htexts⟩ := hunit
  obtain ⟨-, hguard⟩ := guard_drops_zero htop hop h
  obtain ⟨test, htest, -, -, hown, -⟩ := hguard rfl rfl
  refine ⟨htop, hop, u, h, htexts.1, htexts.2, fun other hagrees => ?_⟩
  obtain ⟨-, -, hverdict⟩ := hown ⟨by decide, .inl (by decide)⟩ other
  cases htest
  exact nomatch (hverdict true rfl).mp hagrees

end Schema

end PanelQuery
