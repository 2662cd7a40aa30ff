import Dure.Orchestration.Graph.Calls

/-! The shape of a run: completed tasks, then at most one that is started or failed, then
pending ones, each with the inputs that the outputs before it resolve to. Every call keeps
it, and it is what `restore` asks for.
-/

namespace Dure.Orchestration.ExecutingWorkflow

open Library List

/-- The tasks in order, after nodes whose outputs are known. -/
inductive Progress (graph : CompiledWorkflow)
    : OrderedMap String ActionValues → List ActionTask → Prop where
  | waiting {outputs : OrderedMap String ActionValues} {tasks : List ActionTask}
    (pending : ∀ task ∈ tasks, task.state = .pending)
    : Progress graph outputs tasks
  | started {outputs : OrderedMap String ActionValues} {task : ActionTask}
    {rest : List ActionTask} {owner : String} {inputs : ActionValues} {startedAtMs : Int}
    {effectRef : Option String}
    (state : task.state = .started owner inputs startedAtMs effectRef)
    (resolved : graph.resolveInputs task.nodeId outputs = .ok inputs)
    (pending : ∀ task ∈ rest, task.state = .pending)
    : Progress graph outputs (task :: rest)
  | failed {outputs : OrderedMap String ActionValues} {task : ActionTask}
    {rest : List ActionTask} {inputs : ActionValues} {values : Option ActionValues}
    {code : String} {uncertain : Bool} {completedAtMs : Int} {effectRef : Option String}
    (state : task.state = .failed inputs values code uncertain completedAtMs effectRef)
    (resolved : graph.resolveInputs task.nodeId outputs = .ok inputs)
    (valid : ∀ present, values = some present
      → graph.validateOutputs task.nodeId present = .ok ())
    (pending : ∀ task ∈ rest, task.state = .pending)
    : Progress graph outputs (task :: rest)
  | completed {outputs : OrderedMap String ActionValues} {task : ActionTask}
    {rest : List ActionTask} {inputs values : ActionValues} {completedAtMs : Int}
    {effectRef : Option String}
    (state : task.state = .completed inputs values completedAtMs effectRef)
    (resolved : graph.resolveInputs task.nodeId outputs = .ok inputs)
    (valid : graph.validateOutputs task.nodeId values = .ok ())
    (later : Progress graph (outputs.insert task.nodeId values) rest)
    : Progress graph outputs (task :: rest)

/-- How many calls brought a task to its state. -/
def weight (task : ActionTask) : Nat :=
  match task.state with
  | .pending => 0
  | .started _ _ _ effectRef => 1 + effectRef.toList.length
  | .completed _ _ _ effectRef => 2 + effectRef.toList.length
  | .failed _ _ _ _ _ effectRef => 2 + effectRef.toList.length

/-- The task stands for the node in the run. -/
def Identifies (sha256 : String → String) (graph : CompiledWorkflow) (runId : RunId)
    (nodeId : String) (task : ActionTask)
    : Prop :=
  taskMatches graph nodeId task = true ∧ taskIdsMatch sha256 runId nodeId task = true

/-- What holds of every workflow that was admitted and then called any number of times. -/
structure WellFormed (sha256 : String → String) (version : WorkflowVersion)
    (contracts : List ActionContract) (current : ExecutingWorkflow)
    : Prop where
  parsed : CompiledWorkflow.parse sha256 version.definition contracts = .ok current.graph
  schema : current.run.schemaVersion = 1
  workflow : current.run.workflowId = version.workflowId
  workflowVersion : current.run.workflowVersion = version.version
  source : current.run.sourceDigest = version.digest
  created : 0 ≤ current.run.createdAtMs
  updated : current.run.createdAtMs ≤ current.run.updatedAtMs
  identified : List.Forall₂ (Identifies sha256 current.graph current.run.runId)
    current.graph.order current.run.tasks
  progress : Progress current.graph .empty current.run.tasks
  counted : current.run.revision = 1 + (current.run.tasks.map weight).sum

variable {inputs : ActionValues} {select : ActionTask → Bool} {state : ActionState}

section

variable {graph : CompiledWorkflow} {outputs : OrderedMap String ActionValues}
  {tasks : List ActionTask}

/-- States that may take the place of a started one with the given inputs. -/
def Replaces (graph : CompiledWorkflow) (nodeId : String) (inputs : ActionValues)
    : ActionState → Prop
  | .pending => False
  | .started _ recorded _ _ => recorded = inputs
  | .completed recorded values _ _ =>
    recorded = inputs ∧ graph.validateOutputs nodeId values = .ok ()
  | .failed recorded values _ _ _ _ =>
    recorded = inputs
      ∧ ∀ present, values = some present → graph.validateOutputs nodeId present = .ok ()

variable {task : ActionTask}

/-- A search that finds a started task finds the only one. Witness: the completed tasks
before it and the pending ones after it are not started. -/
theorem Progress.replace (progress : Progress graph outputs tasks)
    (found : tasks.find? select = some task)
    (started : task.state = .started owner inputs startedAtMs effectRef)
    (replaces : Replaces graph task.nodeId inputs state)
    : Progress graph outputs
        (updateFirst select (fun task => { task with state := state }) tasks) := by
  induction progress with
  | waiting pending =>
    rw [pending task (mem_of_find?_eq_some found)] at started
    cases started
  | @started outputs head rest _ recorded _ _ isStarted resolved pending =>
    by_cases selected : select head
    · obtain rfl : head = task := by simpa [selected] using found
      rw [isStarted] at started
      cases started
      simp only [updateFirst, selected, if_true]
      cases state with
      | pending => exact replaces.elim
      | started => exact .started rfl (replaces ▸ resolved) pending
      | completed =>
        obtain ⟨rfl, valid⟩ := replaces
        exact .completed rfl resolved valid (.waiting pending)
      | failed =>
        obtain ⟨rfl, valid⟩ := replaces
        exact .failed rfl resolved valid pending
    · have later : rest.find? select = some task := by simpa [selected] using found
      rw [pending task (mem_of_find?_eq_some later)] at started
      cases started
  | @failed outputs head rest _ _ _ _ _ _ isFailed _ _ pending =>
    by_cases selected : select head
    · obtain rfl : head = task := by simpa [selected] using found
      rw [isFailed] at started
      cases started
    · have later : rest.find? select = some task := by simpa [selected] using found
      rw [pending task (mem_of_find?_eq_some later)] at started
      cases started
  | @completed outputs head rest _ _ _ _ isCompleted resolved valid _ ih =>
    by_cases selected : select head
    · obtain rfl : head = task := by simpa [selected] using found
      rw [isCompleted] at started
      cases started
    · simp only [updateFirst, selected, Bool.false_eq_true, if_false]
      exact .completed isCompleted resolved valid (ih (by simpa [selected] using found))

theorem completedOutput_pending (pending : task.state = .pending)
    : completedOutput task = none := by
  simp [completedOutput, pending]

/-- Starting the first pending task of a run without started or failed ones. -/
theorem Progress.start (progress : Progress graph outputs tasks)
    (idle : ∀ task ∈ tasks, task.state.isStarted = false ∧ task.state.isFailed = false)
    (found : tasks.find? (·.state.isPending) = some task)
    (resolved : graph.resolveInputs task.nodeId
        (outputs.insertAll (tasks.filterMap completedOutput))
      = .ok inputs)
    (owner : String) (now : Int)
    : Progress graph outputs
        (updateFirst (·.state.isPending)
          (fun task => { task with state := .started owner inputs now none }) tasks) := by
  induction progress with
  | @waiting outputs tasks pending =>
    cases tasks with
    | nil => cases found
    | cons head rest =>
      have isPending := pending head mem_cons_self
      have others : ∀ task ∈ rest, task.state = .pending :=
        fun task member => pending task (mem_cons_of_mem _ member)
      obtain rfl : head = task := by
        simpa [isPending, ActionState.isPending] using found
      have none : (head :: rest).filterMap completedOutput = [] :=
        filterMap_eq_nil_iff.mpr
          (fun task member => completedOutput_pending (pending task member))
      rw [none] at resolved
      simp only [updateFirst, isPending, ActionState.isPending, if_true]
      exact .started rfl resolved others
  | @started outputs head rest _ _ _ _ isStarted =>
    have impossible := (idle head mem_cons_self).1
    simp [isStarted, ActionState.isStarted] at impossible
  | @failed outputs head rest _ _ _ _ _ _ isFailed =>
    have impossible := (idle head mem_cons_self).2
    simp [isFailed, ActionState.isFailed] at impossible
  | @completed outputs head rest _ values _ _ isCompleted headResolved valid _ ih =>
    have skipped : head.state.isPending = false := by
      simp [isCompleted, ActionState.isPending]
    have output : completedOutput head = some (head.nodeId, values) := by
      simp [completedOutput, isCompleted]
    simp only [updateFirst, skipped, Bool.false_eq_true, if_false]
    refine .completed isCompleted headResolved valid (ih ?_ ?_ ?_)
    · exact fun task member => idle task (mem_cons_of_mem _ member)
    · simpa [skipped] using found
    · rw [filterMap_cons_some output] at resolved
      exact resolved

end

theorem mayStart_idle {run : WorkflowRun} (may : mayStart run = true)
    : ∀ task ∈ run.tasks, task.state.isStarted = false ∧ task.state.isFailed = false := by
  simp only [mayStart, Bool.and_eq_true, Bool.not_eq_true', any_eq_false] at may
  obtain ⟨open', unstarted⟩ := may
  have unfailed : run.tasks.any (·.state.isFailed) = false := by
    by_contra some
    rw [Bool.not_eq_false] at some
    unfold WorkflowRun.status at open'
    by_cases uncertain : run.tasks.any (·.state.isUncertain) = true <;>
      simp [uncertain, some] at open'
  intro task member
  refine ⟨by simpa using unstarted task member, ?_⟩
  simpa using any_eq_false.mp unfailed task member

section

variable {sha256 : String → String} {version : WorkflowVersion}
  {contracts : List ActionContract} {current next : ExecutingWorkflow}
  {outputs : OrderedMap String ActionValues} {graph : CompiledWorkflow}
  {tasks : List ActionTask} {runId : RunId} {nodes : List String} {task : ActionTask}
  {nodeId : String}

theorem checkInputs_ok (resolved : graph.resolveInputs nodeId outputs = .ok inputs)
    : checkInputs graph nodeId outputs inputs = .ok () := by
  simp [checkInputs, resolved]

/-- The identity checks of one round of the loop pass. -/
theorem restoreTasks_cons (identified : Identifies sha256 graph runId nodeId task)
    (allowed : unfinished = true → task.state = .pending)
    : restoreTasks sha256 graph runId ((nodeId, task) :: rest) started unfinished outputs
      = (match task.state with
        | .pending => restoreTasks sha256 graph runId rest started true outputs
        | .started _ inputs _ _ => do
            checkInputs graph nodeId outputs inputs
            restoreTasks sha256 graph runId rest (started + 1) true outputs
        | .completed inputs values _ _ => do
            checkInputs graph nodeId outputs inputs
            (graph.validateOutputs nodeId values).mapError ([·])
            restoreTasks sha256 graph runId rest started false (outputs.insert nodeId values)
        | .failed inputs values _ _ _ _ => do
            checkInputs graph nodeId outputs inputs
            Check.whenSome values
              (fun values => (graph.validateOutputs nodeId values).mapError ([·]))
            restoreTasks sha256 graph runId rest started true outputs) := by
  have shape : ¬(unfinished = true ∧ ¬task.state.isPending = true) := by
    rintro ⟨isUnfinished, other⟩
    exact other (by simp [allowed isUnfinished, ActionState.isPending])
  rw [restoreTasks, Check.rejectIf, if_neg (by simp [identified.1]), Check.rejectIf,
    if_neg shape, Check.rejectIf, if_neg (by simp [identified.2])]
  rfl

theorem restoreTasks_pending
    (identified : List.Forall₂ (Identifies sha256 graph runId) nodes tasks)
    (pending : ∀ task ∈ tasks, task.state = .pending) (started : Nat) (unfinished : Bool)
    (outputs : OrderedMap String ActionValues)
    : restoreTasks sha256 graph runId (nodes.zip tasks) started unfinished outputs
      = .ok started := by
  induction identified generalizing unfinished with
  | nil => rfl
  | @cons nodeId task _ _ here _ ih =>
    have isPending := pending task mem_cons_self
    rw [zip_cons_cons, restoreTasks_cons here (fun _ => isPending), isPending]
    exact ih (fun task member => pending task (mem_cons_of_mem _ member)) true

/-- The loop accepts a run of the right shape and finds at most one started task. -/
theorem Progress.restores (progress : Progress graph outputs tasks)
    (identified : List.Forall₂ (Identifies sha256 graph runId) nodes tasks)
    : ∃ started ≤ 1,
        restoreTasks sha256 graph runId (nodes.zip tasks) 0 false outputs = .ok started := by
  induction progress generalizing nodes with
  | waiting pending =>
    exact ⟨0, Nat.zero_le 1, restoreTasks_pending identified pending 0 false _⟩
  | @started outputs task rest owner inputs startedAtMs effectRef state resolved pending =>
    obtain ⟨nodeId, others, here, later, rfl⟩ := forall₂_cons_right_iff.mp identified
    obtain rfl : task.nodeId = nodeId := by
      simpa using (Bool.and_eq_true_iff.mp here.1).1
    refine ⟨1, le_refl 1, ?_⟩
    rw [zip_cons_cons, restoreTasks_cons here (by simp), state]
    simp only [checkInputs_ok resolved, Check.seq_ok, true_and]
    exact restoreTasks_pending later pending 1 true outputs
  | @failed outputs task rest inputs values _ _ _ _ state resolved valid pending =>
    obtain ⟨nodeId, others, here, later, rfl⟩ := forall₂_cons_right_iff.mp identified
    obtain rfl : task.nodeId = nodeId := by
      simpa using (Bool.and_eq_true_iff.mp here.1).1
    refine ⟨0, Nat.zero_le 1, ?_⟩
    rw [zip_cons_cons, restoreTasks_cons here (by simp), state]
    simp only [checkInputs_ok resolved, Check.seq_ok, true_and, Check.whenSome_ok,
      Check.mapError_ok]
    exact ⟨valid, restoreTasks_pending later pending 0 true outputs⟩
  | @completed outputs task rest inputs values _ _ state resolved valid _ ih =>
    obtain ⟨nodeId, others, here, later, rfl⟩ := forall₂_cons_right_iff.mp identified
    obtain rfl : task.nodeId = nodeId := by
      simpa using (Bool.and_eq_true_iff.mp here.1).1
    obtain ⟨started, atMostOne, accepted⟩ := ih later
    refine ⟨started, atMostOne, ?_⟩
    rw [zip_cons_cons, restoreTasks_cons here (by simp), state]
    simp only [checkInputs_ok resolved, Check.seq_ok, true_and, Check.mapError_ok]
    exact ⟨valid, accepted⟩

theorem weight_le (task : ActionTask) : weight task ≤ 3 := by
  unfold weight
  split
  · omega
  all_goals
    rename_i effectRef _
    cases effectRef <;> simp

theorem weights_le (tasks : List ActionTask)
    : (tasks.map weight).sum ≤ 3 * tasks.length := by
  induction tasks with
  | nil => simp
  | cons task rest ih =>
    have here := weight_le task
    simp only [map_cons, sum_cons, length_cons]
    omega

theorem weights_pending (pending : ∀ task ∈ tasks, task.state = .pending)
    : (tasks.map weight).sum = 0 := by
  induction tasks with
  | nil => rfl
  | cons task rest ih =>
    have later := ih (fun task member => pending task (mem_cons_of_mem _ member))
    simp [weight, pending task mem_cons_self, later]

section

variable (formed : WellFormed sha256 version contracts current)
include formed

/-- Writing one state counts as one call and leaves everything else as it was. -/
theorem WellFormed.written (found : current.run.tasks.find? select = some task)
    (raises : weight { task with state := state } = weight task + 1)
    (progress : Progress current.graph .empty
      (updateFirst select (fun task => { task with state := state }) current.run.tasks))
    (now : Int)
    : WellFormed sha256 version contracts (current.written select state now) := {
  parsed := formed.parsed
  schema := formed.schema
  workflow := formed.workflow
  workflowVersion := formed.workflowVersion
  source := formed.source
  created := formed.created
  updated := formed.updated.trans (le_max_left _ _)
  identified := by
    refine forall₂_updateFirst_right (fun _ _ holds => ?_) formed.identified
    exact holds
  progress
  counted := by
    change current.run.revision + 1 = _
    rw [formed.counted]
    change _ = 1 + (map weight (updateFirst select _ current.run.tasks)).sum
    rw [sum_updateFirst found raises, Nat.add_assoc]
}

/-- Each way of changing a workflow keeps the invariant. -/
theorem Advances.wellFormed (advances : Advances current next)
    : WellFormed sha256 version contracts next := by
  cases advances with
  | @start task inputs owner now may found resolved =>
    refine formed.written found ?_
      (formed.progress.start (mayStart_idle may) found resolved owner now) now
    have pending : task.state = .pending := by
      have selected := find?_some found
      cases state : task.state <;> simp_all [ActionState.isPending]
    simp [weight, pending]
  | bind found started =>
    refine formed.written found ?_ ?_ _
    · simp [weight, started]
    · exact formed.progress.replace found started (by simp [Replaces])
  | complete found started valid =>
    refine formed.written found ?_ ?_ _
    · simp only [weight, started]
      omega
    · exact formed.progress.replace found started (by simp [Replaces, valid])
  | fail found started valid =>
    refine formed.written found ?_ ?_ _
    · simp only [weight, started]
      omega
    · exact formed.progress.replace found started (by simpa [Replaces] using valid)

/-- A run is written at most three times for each of its at most 64 tasks. -/
theorem WellFormed.revision_lt
    : current.run.revision < i64Max - 1 := by
  have each := weights_le current.run.tasks
  have small := (CompiledWorkflow.parse_sound formed.parsed).small
  have length := formed.identified.length_eq
  rw [formed.counted]
  simp only [maxNodes, i64Max] at *
  omega

/-- A well-formed workflow is what restoring its run gives. -/
theorem WellFormed.restores
    : restore sha256 version contracts current.run = .ok current := by
  obtain ⟨started, atMostOne, accepted⟩ := formed.progress.restores formed.identified
  have bounded := formed.revision_lt
  have counted := formed.counted
  have length := formed.identified.length_eq
  have created := formed.created
  have updated := formed.updated
  simp only [restore, Check.bind_ok]
  refine ⟨current.graph, formed.parsed, (), ?_, started, accepted, (), ?_, rfl⟩
  · rw [Check.rejectIf_ok]
    simp only [formed.schema, formed.workflow, formed.workflowVersion, formed.source,
      ne_eq, not_true_eq_false, false_or]
    omega
  · rw [Check.rejectIf_ok]
    omega

end

end

end Dure.Orchestration.ExecutingWorkflow
