import StagedSql.Flow.Export
import StagedSql.Graph
import StagedSql.Session.Materialize

/-!
# Editing the pipeline

Adding, changing and deleting stages, choosing the active table, and what can be seen of the
pipeline as a whole.
-/

namespace StagedSql.Action

/-- Adds a stage at the end. A stage whose id is taken gets a new one. -/
def addStage (stage : Stage) (active : Option String) : Action Materialization := do
  if ((← store).stageIndex? stage.id).isSome then
    execute { stage with id := ← mintStageId } active
  else execute stage active

def edited (stage : Stage) (data : Fields) (kind : Option StageKind) (description : Option String) :
    Stage :=
  { stage with
    data
    kind := kind.getD stage.kind
    description := description.getD stage.description }

def updateStage (id : String) (data : Fields) (kind : Option StageKind)
    (description active : Option String) : Action Materialization := do
  let stage ← ofPipeline ((← store).getStage id)
  execute (edited stage data kind description) active

/-- Changes a stage to a payload given as a value: an object, or what is empty for an empty one. -/
def updateStageAs (id : String) (data : Value) (kind : Option StageKind)
    (description active : Option String) : Action Materialization := do
  match data with
  | .object data => updateStage id data kind description active
  | .list [] | .text "" => updateStage id [] kind description active
  | _ =>
    let _ ← ofPipeline ((← store).getStage id)
    throw .wrongKind

def rerunStage (id : String) (active : Option String) : Action Materialization := do
  execute (← ofPipeline ((← store).getStage id)) active

def deleteStage (id : String) : Action Stage := changeIf fun s => s.removeStage id

def setActive (id : String) : Action Table := changeIf fun s => s.setActive id

def previewStage (stage : Stage) (active : Option String) : Action (String × Option String) := do
  ofPipeline (Materialization.preview (← store) stage active)

def graph : Action (Keyed Graph.Node × List Graph.Edge) := do
  let stages := (← store).stages
  let nodes ← ofExcept (Graph.build stages)
  return (nodes, Graph.edges stages nodes)

def exportFlow : Action (List Value) := return Flow.exportStages (← store).stages

end StagedSql.Action
