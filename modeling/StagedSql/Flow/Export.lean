import StagedSql.Stage.Basic

/-!
# The interchange form of a flow

A saved flow is the list of its stages as records, with ids that count from one.
-/

namespace StagedSql.Flow

def exportedStage (i : Nat) (s : Stage) : Value :=
  { s with id := "stage_" ++ toString (i + 1) }.toValue

def exportStages (stages : List Stage) : List Value :=
  stages.zipIdx.map fun s => exportedStage s.2 s.1

end StagedSql.Flow
