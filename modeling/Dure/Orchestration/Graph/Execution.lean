import Dure.Library.FallibleState
import Dure.Library.FirstMatch
import Dure.Library.Machine
import Dure.Orchestration.Graph.Records

/-! Sequential admission for a dependency graph. Action effects belong to runtime adapters.
A persisted started dispatch is never treated as safe to repeat.
-/

namespace Dure.Orchestration

open Library

def i64Max : Nat := 2 ^ 63 - 1

inductive RunTrigger where
  | manual
  | schedule (scheduledForMs : Int)
  deriving DecidableEq, Repr

inductive ActionState where
  | pending
  | started (owner : String) (inputs : ActionValues) (startedAtMs : Int)
    (effectRef : Option String)
  | completed (inputs outputs : ActionValues) (completedAtMs : Int)
    (effectRef : Option String)
  | failed (inputs : ActionValues) (outputs : Option ActionValues) (code : String)
    (uncertain : Bool) (completedAtMs : Int) (effectRef : Option String)
  deriving DecidableEq

namespace ActionState

def isPending : ActionState → Bool
  | .pending => true
  | _ => false

def isStarted : ActionState → Bool
  | .started .. => true
  | _ => false

def isCompleted : ActionState → Bool
  | .completed .. => true
  | _ => false

def isFailed : ActionState → Bool
  | .failed .. => true
  | _ => false

def isUncertain : ActionState → Bool
  | .failed _ _ _ uncertain _ _ => uncertain
  | _ => false

end ActionState

structure ActionTask where
  taskId : TaskId
  nodeId : String
  dispatchId : DispatchId
  action : ActionRef
  state : ActionState
  deriving DecidableEq

structure WorkflowRun where
  schemaVersion : Nat
  runId : RunId
  workflowId : String
  workflowVersion : Nat
  sourceDigest : String
  revision : Nat
  trigger : RunTrigger
  tasks : List ActionTask
  createdAtMs : Int
  updatedAtMs : Int
  deriving DecidableEq

inductive RunStatus where
  | pending
  | running
  | completed
  | failed
  | uncertain
  deriving DecidableEq, Repr

def WorkflowRun.status (run : WorkflowRun) : RunStatus :=
  if run.tasks.any (·.state.isUncertain) then
    .uncertain
  else if run.tasks.any (·.state.isFailed) then
    .failed
  else if run.tasks.all (·.state.isCompleted) then
    .completed
  else if run.tasks.all (·.state.isPending) then
    .pending
  else
    .running

/-- A parsed execution snapshot. Runtime transitions accept this handle rather than
repeatedly trusting a serialized graph or adapter output. -/
structure ExecutingWorkflow where
  graph : CompiledWorkflow
  run : WorkflowRun
  deriving DecidableEq

section

variable (sha256 : String → String)

def taskDigest (runId : RunId) (nodeId : String) : String :=
  sha256 (runId.value ++ ":" ++ nodeId)

def admitTask (graph : CompiledWorkflow) (runId : RunId) (nodeId : String)
    : Except GraphIssue ActionTask := do
  let digest := taskDigest sha256 runId nodeId
  let taskId ← (BoundedReference.new ("task." ++ digest)).mapError
    (fun _ => issue "run_request_invalid")
  let dispatchId ← (BoundedReference.new ("dispatch." ++ digest)).mapError
    (fun _ => issue "run_request_invalid")
  match graph.node nodeId with
  | none => throw (issue "node_missing")
  | some node =>
    pure {
      taskId := taskId
      nodeId := nodeId
      dispatchId := dispatchId
      action := node.action
      state := .pending
    }

namespace ExecutingWorkflow

/-- Named `admit` in the source. -/
def admitWorkflow (version : WorkflowVersion) (contracts : List ActionContract)
    (key : String) (trigger : RunTrigger) (now : Int)
    : Except (List GraphIssue) ExecutingWorkflow := do
  Check.rejectIf (¬validId key ∨ now < 0) [issue "run_request_invalid"]
  let graph ← CompiledWorkflow.parse sha256 version.definition contracts
  let digest := sha256 (version.workflowId ++ ":" ++ toString version.version ++ ":" ++ key)
  let runId ← (BoundedReference.new ("run." ++ digest)).mapError
    (fun _ => [issue "run_request_invalid"])
  let tasks ← (graph.order.mapM (admitTask sha256 graph runId)).mapError ([·])
  pure {
    graph := graph
    run := {
      schemaVersion := 1
      runId := runId
      workflowId := version.workflowId
      workflowVersion := version.version
      sourceDigest := version.digest
      revision := 1
      trigger := trigger
      tasks := tasks
      createdAtMs := now
      updatedAtMs := now
    }
  }

/-- The identity that a task of the run must have for its node. -/
def taskMatches (graph : CompiledWorkflow) (nodeId : String) (task : ActionTask) : Bool :=
  task.nodeId == nodeId && (graph.node nodeId).any (fun node => node.action == task.action)

def taskIdsMatch (runId : RunId) (nodeId : String) (task : ActionTask) : Bool :=
  task.taskId.value == "task." ++ taskDigest sha256 runId nodeId
    && task.dispatchId.value == "dispatch." ++ taskDigest sha256 runId nodeId

/-- The recorded inputs must be those that the outputs so far resolve to. -/
def checkInputs (graph : CompiledWorkflow) (nodeId : String)
    (outputs : OrderedMap String ActionValues) (inputs : ActionValues)
    : Except (List GraphIssue) Unit :=
  match graph.resolveInputs nodeId outputs with
  | .ok resolved => Check.rejectIf (resolved ≠ inputs) [issue "run_inputs_invalid"]
  | .error _ => throw [issue "run_inputs_invalid"]

/-- The loop over the nodes and tasks with its three accumulators. It returns how many
tasks are started. -/
def restoreTasks (graph : CompiledWorkflow) (runId : RunId)
    : List (String × ActionTask) → Nat → Bool → OrderedMap String ActionValues
      → Except (List GraphIssue) Nat
  | [], started, _, _ => pure started
  | (nodeId, task) :: rest, started, unfinished, outputs => do
      Check.rejectIf (¬taskMatches graph nodeId task) [issue "run_snapshot_invalid"]
      Check.rejectIf (unfinished ∧ ¬task.state.isPending) [issue "run_snapshot_invalid"]
      Check.rejectIf (¬taskIdsMatch sha256 runId nodeId task) [issue "run_snapshot_invalid"]
      match task.state with
      | .pending => restoreTasks graph runId rest started true outputs
      | .started _ inputs _ _ => do
          checkInputs graph nodeId outputs inputs
          restoreTasks graph runId rest (started + 1) true outputs
      | .completed inputs values _ _ => do
          checkInputs graph nodeId outputs inputs
          (graph.validateOutputs nodeId values).mapError ([·])
          restoreTasks graph runId rest started false (outputs.insert nodeId values)
      | .failed inputs values _ _ _ _ => do
          checkInputs graph nodeId outputs inputs
          Check.whenSome values
            (fun values => (graph.validateOutputs nodeId values).mapError ([·]))
          restoreTasks graph runId rest started true outputs

def restore (version : WorkflowVersion) (contracts : List ActionContract) (run : WorkflowRun)
    : Except (List GraphIssue) ExecutingWorkflow := do
  let graph ← CompiledWorkflow.parse sha256 version.definition contracts
  Check.rejectIf
    (run.schemaVersion ≠ 1
      ∨ run.workflowId ≠ version.workflowId
      ∨ run.workflowVersion ≠ version.version
      ∨ run.sourceDigest ≠ version.digest
      ∨ run.revision = 0
      ∨ run.revision ≥ i64Max
      ∨ run.createdAtMs < 0
      ∨ run.updatedAtMs < run.createdAtMs
      ∨ run.tasks.length ≠ graph.order.length)
    [issue "run_snapshot_invalid"]
  let started ← restoreTasks sha256 graph run.runId (graph.order.zip run.tasks) 0 false .empty
  Check.rejectIf (started > 1) [issue "run_snapshot_invalid"]
  pure ⟨graph, run⟩

end ExecutingWorkflow

end

/-- An update of an executing workflow; a failed one keeps what it wrote before. -/
abbrev Execution := Update GraphIssue ExecutingWorkflow

namespace ExecutingWorkflow

open Update

def checkTransition (now : Int) : Execution Unit := do
  let current ← get
  ensure (current.run.createdAtMs ≤ now ∧ current.run.revision < i64Max - 1)
    (issue "run_request_invalid")

def touch (now : Int) : Execution Unit :=
  modify (fun current => {
    current with
    run := {
      current.run with
      revision := current.run.revision + 1
      updatedAtMs := max current.run.updatedAtMs now
    }
  })

/-- Write the state of the first task that a search selects. -/
def setState (select : ActionTask → Bool) (state : ActionState) : Execution Unit :=
  modify (fun current => {
    current with
    run := {
      current.run with
      tasks := updateFirst select (fun task => { task with state := state }) current.run.tasks
    }
  })

def ofDispatch (dispatch : DispatchId) (task : ActionTask) : Bool :=
  task.dispatchId == dispatch

/-- The outputs of a completed task under its node. -/
def completedOutput (task : ActionTask) : Option (String × ActionValues) :=
  match task.state with
  | .completed _ outputs _ _ => some (task.nodeId, outputs)
  | _ => none

def completedOutputs (tasks : List ActionTask) : OrderedMap String ActionValues :=
  .ofList (tasks.filterMap completedOutput)

/-- The run goes on and none of its tasks is started. -/
def mayStart (run : WorkflowRun) : Bool :=
  (run.status == .pending || run.status == .running) && !run.tasks.any (·.state.isStarted)

def startNext (owner : String) (now : Int) : Execution (Option ActionTask) := do
  checkTransition now
  let current ← get
  ensure (owner ≠ "" ∧ owner.utf8ByteSize ≤ 256 ∧ current.run.createdAtMs ≤ now)
    (issue "run_request_invalid")
  if mayStart current.run then
    match current.run.tasks.find? (·.state.isPending) with
    | none => pure none
    | some task => do
        let inputs ← check
          (current.graph.resolveInputs task.nodeId (completedOutputs current.run.tasks)) id
        let state := ActionState.started owner inputs now none
        setState (·.state.isPending) state
        touch now
        pure (some { task with state := state })
  else
    pure none

def bindEffect (dispatch : DispatchId) (effect : String) (now : Int) : Execution Unit := do
  checkTransition now
  ensure (effect ≠ "" ∧ effect.utf8ByteSize ≤ 256 ∧ ¬effect.toList.any isControl)
    (issue "effect_reference_invalid")
  let current ← get
  let task ← orElseThrow (current.run.tasks.find? (ofDispatch dispatch))
    (issue "dispatch_missing")
  match task.state with
  | .started owner inputs startedAtMs effectRef => do
      ensure (effectRef = none ∨ effectRef = some effect) (issue "effect_reference_conflict")
      if effectRef = some effect then
        pure ()
      else do
        setState (ofDispatch dispatch) (.started owner inputs startedAtMs (some effect))
        touch now
  | _ => throw (issue "dispatch_not_started")

def complete (dispatch : DispatchId) (outputs : ActionValues) (now : Int)
    : Execution Unit := do
  checkTransition now
  let current ← get
  let task ← orElseThrow (current.run.tasks.find? (ofDispatch dispatch))
    (issue "dispatch_missing")
  check (current.graph.validateOutputs task.nodeId outputs) id
  match task.state with
  | .started _ inputs _ effectRef => do
      setState (ofDispatch dispatch) (.completed inputs outputs now effectRef)
      touch now
  | _ => throw (issue "dispatch_not_started")

def fail (dispatch : DispatchId) (code : String) (uncertain : Bool)
    (outputs : Option ActionValues) (now : Int)
    : Execution Unit := do
  checkTransition now
  ensure (validId code = true) (issue "action_error_invalid")
  let current ← get
  let task ← orElseThrow (current.run.tasks.find? (ofDispatch dispatch))
    (issue "dispatch_missing")
  check (Check.whenSome outputs (current.graph.validateOutputs task.nodeId)) id
  match task.state with
  | .started _ inputs _ effectRef => do
      setState (ofDispatch dispatch) (.failed inputs outputs code uncertain now effectRef)
      touch now
  | _ => throw (issue "dispatch_not_started")

/-- What a caller may do with a workflow; `reopen` takes its run out and restores it. -/
inductive Call where
  | startNext (owner : String) (now : Int)
  | bindEffect (dispatch : DispatchId) (effect : String) (now : Int)
  | complete (dispatch : DispatchId) (outputs : ActionValues) (now : Int)
  | fail (dispatch : DispatchId) (code : String) (uncertain : Bool)
    (outputs : Option ActionValues) (now : Int)
  | reopen

/-- A call answers with its errors or with the task it started. -/
abbrev Answer := Except (List GraphIssue) (Option ActionTask)

def outcome {α : Type} (answer : α → Option ActionTask)
    : EStateM.Result GraphIssue ExecutingWorkflow α → Answer × ExecutingWorkflow
  | .ok value next => (.ok (answer value), next)
  | .error error next => (.error [error], next)

def perform (sha256 : String → String) (version : WorkflowVersion)
    (contracts : List ActionContract) (current : ExecutingWorkflow)
    : Call → Answer × ExecutingWorkflow
  | .startNext owner now => outcome id (startNext owner now current)
  | .bindEffect dispatch effect now =>
    outcome (fun _ => none) (bindEffect dispatch effect now current)
  | .complete dispatch outputs now =>
    outcome (fun _ => none) (complete dispatch outputs now current)
  | .fail dispatch code uncertain outputs now =>
    outcome (fun _ => none) (fail dispatch code uncertain outputs now current)
  | .reopen =>
    match restore sha256 version contracts current.run with
    | .ok restored => (.ok none, restored)
    | .error issues => (.error issues, current)

/-- The executor of one workflow version as a machine over calls. -/
def executor (sha256 : String → String) (version : WorkflowVersion)
    (contracts : List ActionContract)
    : Machine ExecutingWorkflow Call Answer where
  step := perform sha256 version contracts

end ExecutingWorkflow

end Dure.Orchestration
