import PanelQuery.Query.Filter
import PanelQuery.Sql.Piece

/-!
Boolean structure of a WHERE clause. A clause is a list of conditions joined by AND; a condition is
an atom, whose text says nothing about AND and OR around it, or a group in parentheses, which may
be set off by blanks.
`Condition.holds` is the meaning of a condition for given truth values of its atoms.
-/

namespace PanelQuery.Sql

inductive Condition where
  | atom (sql : Sql)
  | group (op : Connective) (parts : List Condition)
  | padded (parts : List Condition)

namespace Condition

mutual

def sql : Condition → Sql
  | .atom s => s
  | .group op parts => raw "(" ++ partsSql op parts ++ raw ")"
  | .padded parts => raw "( " ++ partsSql .and parts ++ raw " )"

def partsSql (op : Connective) : List Condition → Sql
  | [] => []
  | [part] => part.sql
  | part :: parts => part.sql ++ raw (" " ++ op.word ++ " ") ++ partsSql op parts

end

mutual

/-- Truth of a condition when `truth` tells the truth of every atom. -/
def holds (truth : Sql → Bool) : Condition → Bool
  | .atom s => truth s
  | .group .and parts | .padded parts => allHold truth parts
  | .group .or parts => anyHolds truth parts

def allHold (truth : Sql → Bool) : List Condition → Bool
  | [] => true
  | part :: parts => part.holds truth && allHold truth parts

def anyHolds (truth : Sql → Bool) : List Condition → Bool
  | [] => false
  | part :: parts => part.holds truth || anyHolds truth parts

end

end Condition

/-- The conditions of a WHERE clause, joined by AND. -/
def conjunction (conditions : List Condition) : Sql := Condition.partsSql .and conditions

end PanelQuery.Sql
