import PanelQuery.Query.Filter

/-!
Log pipelines as they are drawn up: an ordered list of small operators on the records that a filter
selects. Pipelines and operators can be switched off without being taken out.
-/

namespace PanelQuery

/-- One operator of a pipeline. Which of the fields count depends on its kind. -/
structure PipelineOperator where
  kind : String := ""
  id : String := ""
  name : String := ""
  enabled : Bool := false
  field : String := ""
  value : String := ""
  source : String := ""
  target : String := ""

structure Pipeline where
  id : String := ""
  title : String := ""
  enabled : Bool := false
  filter : Option FilterSet := none
  operators : List PipelineOperator := []

namespace Pipeline

/-- The operators that are switched on. -/
def active (p : Pipeline) : List PipelineOperator := p.operators.filter (·.enabled)

/-- What the pipeline's marker holds. -/
def marker (p : Pipeline) : String := p.title ++ "-" ++ p.id

end Pipeline

end PanelQuery
