import PanelQuery.Pipeline.Basic
import PanelQuery.Query.Codec

/-! Pipelines in JSON. -/

namespace PanelQuery

open Json (Reader)
open Json.Document

def PipelineOperator.read : Reader PipelineOperator := asRecord {}
  [.need "type" asText fun o v => { o with kind := v },
   .may "id" asText fun o v => { o with id := v },
   .may "name" asText fun o v => { o with name := v },
   .may "enabled" asBool fun o v => { o with enabled := v },
   .may "field" asText fun o v => { o with field := v },
   .may "value" asText fun o v => { o with value := v },
   .may "from" asText fun o v => { o with source := v },
   .may "to" asText fun o v => { o with target := v }]

def Pipeline.read : Reader Pipeline := asRecord {}
  [.need "id" asText fun p v => { p with id := v },
   .need "alias" asText fun p v => { p with title := v },
   .may "enabled" asBool fun p v => { p with enabled := v },
   .may "filter" (asOption FilterSet.read) fun p v => { p with filter := v },
   .may "config" (asList PipelineOperator.read) fun p v => { p with operators := v }]

end PanelQuery
