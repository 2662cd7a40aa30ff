import Dure.Orchestration.Graph.Compile

/-! Saved workflow versions. -/

namespace Dure.Orchestration

open Library Check

inductive WorkflowTrigger where
  | manual
  | schedule (expression timezone : String)
  deriving DecidableEq, Repr

def WorkflowTrigger.validate : WorkflowTrigger → Except GraphIssue Unit
  | .manual => pure ()
  | .schedule expression timezone =>
    rejectIf
      ([expression, timezone].any (fun value =>
        value == "" || value.utf8ByteSize > 128 || value.toList.any isControl))
      (issue "trigger_invalid")

structure WorkflowVersion where
  schemaVersion : Nat
  workflowId : String
  version : Nat
  sourceRevision : Nat
  name : String
  definition : WorkflowDefinition
  trigger : WorkflowTrigger
  digest : String
  createdAtMs : Int
  deriving DecidableEq

end Dure.Orchestration
