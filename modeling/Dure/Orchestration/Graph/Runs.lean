import Dure.Orchestration.Graph.Progress

/-! Whole runs of the executor: every workflow that was admitted stays well formed, whatever
is called on it, so its run can be restored at any time.
-/

namespace Dure.Orchestration.ExecutingWorkflow

open Library Update

variable {issues : List GraphIssue} {α : Type} {now : Int}

section

variable {sha256 : String → String} {version : WorkflowVersion}
  {contracts : List ActionContract}

theorem admitTask_ok {graph : CompiledWorkflow}
    (built : admitTask sha256 graph runId nodeId = .ok task)
    : Identifies sha256 graph runId nodeId task ∧ task.state = .pending := by
  simp only [admitTask, Check.bind_ok, Check.mapError_ok, BoundedReference.new_ok] at built
  obtain ⟨taskId, ⟨isTask, _⟩, dispatchId, ⟨isDispatch, _⟩, rest⟩ := built
  split at rest
  · cases rest
  · rename_i node found
    cases rest
    exact ⟨⟨by simp [taskMatches, found], by simp [taskIdsMatch, isTask, isDispatch]⟩, rfl⟩

/-- A workflow is well formed when it is admitted. -/
theorem admitWorkflow_wellFormed
    (admitted : admitWorkflow sha256 version contracts key trigger now = .ok start)
    : WellFormed sha256 version contracts start := by
  simp only [admitWorkflow, Check.bind_ok, Check.rejectIf_ok, Check.mapError_ok, not_or,
    not_lt] at admitted
  obtain ⟨_, ⟨_, clock⟩, graph, parsed, runId, _, tasks, built, made⟩ := admitted
  cases made
  have paired := Check.mapM_ok built
  have pending : ∀ task ∈ tasks, task.state = .pending := by
    intro task member
    obtain ⟨nodeId, _, isBuilt⟩ := forall₂_mem_right paired member
    exact (admitTask_ok isBuilt).2
  exact {
    parsed
    schema := rfl
    workflow := rfl
    workflowVersion := rfl
    source := rfl
    created := clock
    updated := le_refl now
    identified := paired.imp (fun _ _ isBuilt => (admitTask_ok isBuilt).1)
    progress := .waiting pending
    counted := by simp [weights_pending pending]
  }

variable {current : ExecutingWorkflow}

/-- A call that writes only when it succeeds keeps the workflow or advances it. -/
theorem outcome_advances (keeps : KeepsOnError x)
    (passes : ∀ a next, x current = .ok a next → next = current ∨ Advances current next)
    (answer : α → Option ActionTask)
    : (outcome answer (x current)).2 = current
      ∨ Advances current (outcome answer (x current)).2 := by
  cases ran : x current with
  | ok a next => exact passes a next ran
  | error e next => exact Or.inl (keeps current e next ran)

theorem outcome_error (keeps : KeepsOnError x)
    (failed : (outcome answer (x current)).1 = .error issues)
    : (outcome answer (x current)).2 = current := by
  cases ran : x current with
  | ok a next =>
    rw [ran] at failed
    cases failed
  | error e next => exact keeps current e next ran

theorem startNext_advances (passed : startNext owner now current = .ok answer next)
    : next = current ∨ Advances current next := by
  rcases startNext_ok passed with ⟨_, same⟩ | ⟨task, inputs, may, found, resolved, _, rfl⟩
  · exact Or.inl same
  · exact Or.inr (.start may found resolved)

/-- Restoring is the identity here, so every call keeps the workflow or advances it. -/
theorem WellFormed.perform_cases (formed : WellFormed sha256 version contracts current)
    (call : Call)
    : (perform sha256 version contracts current call).2 = current
      ∨ Advances current (perform sha256 version contracts current call).2 := by
  cases call with
  | startNext owner now =>
    exact outcome_advances (startNext_keeps owner now) (fun _ _ => startNext_advances) _
  | bindEffect dispatch effect now =>
    exact outcome_advances (bindEffect_keeps dispatch effect now)
      (fun _ _ => bindEffect_ok) _
  | complete dispatch outputs now =>
    exact outcome_advances (complete_keeps dispatch outputs now)
      (fun _ _ passed => Or.inr (complete_ok passed)) _
  | fail dispatch code uncertain outputs now =>
    exact outcome_advances (fail_keeps dispatch code uncertain outputs now)
      (fun _ _ passed => Or.inr (fail_ok passed)) _
  | reopen => exact Or.inl (by simp [perform, formed.restores])

/-- A call that answers with an error leaves the workflow as it was, well formed or not. -/
theorem perform_error
    (failed : (perform sha256 version contracts current call).1 = .error issues)
    : (perform sha256 version contracts current call).2 = current := by
  cases call with
  | startNext owner now => exact outcome_error (startNext_keeps owner now) failed
  | bindEffect dispatch effect now =>
    exact outcome_error (bindEffect_keeps dispatch effect now) failed
  | complete dispatch outputs now =>
    exact outcome_error (complete_keeps dispatch outputs now) failed
  | fail dispatch code uncertain outputs now =>
    exact outcome_error (fail_keeps dispatch code uncertain outputs now) failed
  | reopen =>
    cases restored : restore sha256 version contracts current.run with
    | ok next => simp [perform, restored] at failed
    | error found => simp [perform, restored]

theorem WellFormed.performed (formed : WellFormed sha256 version contracts current)
    (call : Call)
    : WellFormed sha256 version contracts
        (perform sha256 version contracts current call).2 := by
  rcases formed.perform_cases call with same | advances
  · rwa [same]
  · exact advances.wellFormed formed

theorem executor_keeps (current : ExecutingWorkflow) (call : Call)
    (formed : WellFormed sha256 version contracts current)
    : WellFormed sha256 version contracts
        ((executor sha256 version contracts).step current call).2 :=
  formed.performed call

section

variable {start : ExecutingWorkflow} (formed : WellFormed sha256 version contracts start)
include formed

/-- A workflow stays well formed through every sequence of calls. -/
theorem WellFormed.after (calls : List Call)
    : WellFormed sha256 version contracts
        ((executor sha256 version contracts).after start calls) :=
  Machine.after_invariant _ executor_keeps calls formed

/-- A workflow is well formed whenever a call meets it. -/
theorem WellFormed.exchanged
    (member : exchange ∈ (executor sha256 version contracts).exchanges start calls)
    : WellFormed sha256 version contracts exchange.1 :=
  Machine.exchanges_invariant _ executor_keeps formed member

end

/-- Every run that the executor reaches can be restored, and restoring gives back exactly
the workflow it was taken from. -/
theorem reached_run_restores {key : String} {trigger : RunTrigger} {now : Int}
    {start : ExecutingWorkflow}
    (admitted : admitWorkflow sha256 version contracts key trigger now = .ok start)
    (calls : List Call)
    : let reached := (executor sha256 version contracts).after start calls
      restore sha256 version contracts reached.run = .ok reached :=
  ((admitWorkflow_wellFormed admitted).after calls).restores

end

/-- A command collects changes and an agent reviews its output. -/
def sampleContracts : List ActionContract :=
  [
    {
      action := ⟨"command", 1⟩
      inputs := .ofList [("script", ⟨.string, true, false⟩)]
      outputs := .ofList [("stdout", ⟨.string, true, true⟩)]
    },
    {
      action := ⟨"agent", 1⟩
      inputs := .ofList [("input", ⟨.string, true, true⟩)]
      outputs := .ofList [("resultMarkdown", ⟨.string, true, true⟩)]
    }
  ]

def sampleReview : WorkflowNode where
  nodeId := "review"
  name := "Review changes"
  action := ⟨"agent", 1⟩
  inputs := .ofList [("input", .output "collect" "stdout")]

def sampleCollect : WorkflowNode where
  nodeId := "collect"
  name := "Collect changes"
  action := ⟨"command", 1⟩
  inputs := .ofList [("script", .literal (.string "git diff HEAD~1"))]

def sampleDefinition : WorkflowDefinition where
  schemaVersion := 1
  nodes := [sampleReview, sampleCollect]
  edges := []

def sampleCompiled : WorkflowDefinition where
  schemaVersion := 1
  nodes := [sampleCollect, sampleReview]
  edges := [⟨"collect", "review"⟩]

/-- SHA-256 on the texts that the sample hashes. -/
def workflowDigests : List (String × String) :=
  [
    (sampleCompiled.json,
      "daca5a14c28876ec78bf22f0a1f83778a89d03982937824cf2ac66f92e5b6f01"),
    ("daily:1:manual-1",
      "ec7d83a50c2c194f1ff448e7d4733f8a33aff42021a2376d7c276ba2e5fda58f"),
    ("run.ec7d83a50c2c194f1ff448e7d4733f8a33aff42021a2376d7c276ba2e5fda58f:collect",
      "bbf68e00a6e9f36a96f2c26189ea79e52f50401a00dbb26ba77cec7f600b0c0d"),
    ("run.ec7d83a50c2c194f1ff448e7d4733f8a33aff42021a2376d7c276ba2e5fda58f:review",
      "86ae8b8f2512ce84494756ffed746faba6b6c7e937526e21ba029f5ac3eae30d")
  ]

def workflowSha256 (text : String) : String :=
  ((workflowDigests.find? (fun entry => entry.1 == text)).map Prod.snd).getD ""

def sampleVersion : WorkflowVersion where
  schemaVersion := 1
  workflowId := "daily"
  version := 1
  sourceRevision := 1
  name := "Daily review"
  definition := sampleDefinition
  trigger := .manual
  digest := "daca5a14c28876ec78bf22f0a1f83778a89d03982937824cf2ac66f92e5b6f01"
  createdAtMs := 100

def sampleAdmission : Except (List GraphIssue) ExecutingWorkflow :=
  admitWorkflow workflowSha256 sampleVersion sampleContracts "manual-1" .manual 200

/-- The dispatch of the command and that of the agent. -/
def sampleDispatches : DispatchId × DispatchId :=
  (⟨"dispatch.bbf68e00a6e9f36a96f2c26189ea79e52f50401a00dbb26ba77cec7f600b0c0d"⟩,
    ⟨"dispatch.86ae8b8f2512ce84494756ffed746faba6b6c7e937526e21ba029f5ac3eae30d"⟩)

/-- The command completes, the run is reopened, and the agent completes. -/
def sampleCalls : List Call :=
  [
    .startNext "service-generation-1" 201,
    .complete sampleDispatches.1 (.ofList [("stdout", .string "observed changes")]) 203,
    .reopen,
    .startNext "service-generation-2" 204,
    .bindEffect sampleDispatches.2 "retained-operation" 205,
    .complete sampleDispatches.2 (.ofList [("resultMarkdown", .string "Review report")]) 206
  ]

theorem reached_run_restores_sample
    : ∃ start, sampleAdmission = .ok start
        ∧ let reached :=
            (executor workflowSha256 sampleVersion sampleContracts).after start sampleCalls
          reached.run.status = .completed
          ∧ restore workflowSha256 sampleVersion sampleContracts reached.run = .ok reached := by
  have admits : sampleAdmission.toOption.isSome = true := by decide +kernel
  have completes : sampleAdmission.toOption.all (fun start =>
      ((executor workflowSha256 sampleVersion sampleContracts).after start
        sampleCalls).run.status == .completed) = true := by decide +kernel
  cases admitted : sampleAdmission with
  | error issues =>
    rw [admitted] at admits
    cases admits
  | ok start =>
    rw [admitted] at completes
    exact ⟨start, rfl, by simpa [Except.toOption] using completes,
      reached_run_restores admitted sampleCalls⟩

/-- Whatever is called, the run changes at most three times for each node. -/
theorem changes_bounded
    (admitted : admitWorkflow sha256 version contracts key trigger now = .ok start)
    (calls : List Call)
    : let machine := executor sha256 version contracts
      let reached := machine.after start calls
      reached.run.revision ≤ 1 + 3 * start.graph.order.length
      ∧ ∀ call, (machine.step reached call).2 = reached
        ∨ (machine.step reached call).2.run.revision = reached.run.revision + 1 := by
  intro machine reached
  have formed := admitWorkflow_wellFormed admitted
  have ended : WellFormed sha256 version contracts reached := formed.after calls
  have raises {next} (advances : Advances reached next)
      : next.run.revision = reached.run.revision + 1 := by
    cases advances <;> rfl
  refine ⟨?_, fun call => (ended.perform_cases call).imp_right raises⟩
  have written := weights_le reached.run.tasks
  have length := ended.identified.length_eq
  rw [Except.ok.inj (formed.parsed.symm.trans ended.parsed), ended.counted]
  omega

theorem changes_bounded_sample
    : ∃ start, sampleAdmission = .ok start
      ∧ ((executor workflowSha256 sampleVersion sampleContracts).after start
        sampleCalls).run.revision ≤ 1 + 3 * start.graph.order.length := by
  have admits : sampleAdmission.toOption.isSome := by decide +kernel
  cases admitted : sampleAdmission with
  | error _ => simp [admitted, Except.toOption] at admits
  | ok start => exact ⟨start, rfl, (changes_bounded admitted sampleCalls).1⟩

end Dure.Orchestration.ExecutingWorkflow
