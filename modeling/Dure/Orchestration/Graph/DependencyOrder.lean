import Dure.Orchestration.Graph.Runs

/-! Actions run at most once and in dependency order, and a run that goes on can always
start its next action.
-/

namespace Dure.Orchestration.ExecutingWorkflow

open Library Update List

def pendingAt (index : Nat) (current : ExecutingWorkflow) : Bool :=
  current.run.tasks[index]?.any (·.state.isPending)

/-- The task at a place was pending and is now started. -/
def starts (index : Nat) (before after : ExecutingWorkflow) : Bool :=
  pendingAt index before && after.run.tasks[index]?.any (·.state.isStarted)

variable {state : ActionState} {outputs : OrderedMap String ActionValues} {now : Int}
  {task : ActionTask} {tasks : List ActionTask} {graph : CompiledWorkflow}
  {source owner : String}

section

variable {sha256 : String → String} {version : WorkflowVersion}
  {contracts : List ActionContract} {current next : ExecutingWorkflow}

/-! ### One step -/

variable {select : ActionTask → Bool} {index : Nat}

/-- What stands at a place after a write. -/
theorem written_getElem? (here : current.run.tasks[index]? = some old)
    : (current.written select state now).run.tasks[index]? = some old
      ∨ (current.run.tasks.find? select = some old
        ∧ (current.written select state now).run.tasks[index]?
          = some { old with state := state }) :=
  getElem?_updateFirst here

theorem written_length
    : (current.written select state now).run.tasks.length = current.run.tasks.length :=
  length_updateFirst _

/-- A task that a write moved from pending to started is the one that was written. -/
theorem written_starts (moved : starts index current (current.written select state now) = true)
    : ∃ old, current.run.tasks[index]? = some old ∧ old.state.isPending = true
        ∧ current.run.tasks.find? select = some old ∧ state.isStarted = true := by
  simp only [starts, pendingAt, Bool.and_eq_true, Option.any_eq_true] at moved
  obtain ⟨⟨old, here, pending⟩, new, there, isStarted⟩ := moved
  rcases written_getElem? here with same | ⟨found, changed⟩
  · rw [same] at there
    cases there
    cases kind : old.state <;> simp_all [ActionState.isPending, ActionState.isStarted]
  · rw [changed] at there
    cases there
    exact ⟨old, here, pending, found, isStarted⟩

/-- A place that is not pending is not made pending by writing another state. -/
theorem written_settled (active : state.isPending = false)
    (settled : ¬pendingAt index current = true)
    : ¬pendingAt index (current.written select state now) = true := by
  unfold pendingAt at *
  cases here : current.run.tasks[index]? with
  | none =>
    have absent : (current.written select state now).run.tasks[index]? = none := by
      rw [getElem?_eq_none_iff, written_length]
      exact getElem?_eq_none_iff.mp here
    simp [absent]
  | some old =>
    rcases written_getElem? here with same | ⟨_, changed⟩
    · rw [same, ← here]
      exact settled
    · simp [changed, active]

/-- Writing over a started task keeps the failed ones. -/
theorem written_failed (isFound : current.run.tasks.find? select = some found)
    (started : found.state.isStarted = true)
    (failed : ∃ task ∈ current.run.tasks, task.state.isFailed = true)
    : ∃ task ∈ (current.written select state now).run.tasks,
        task.state.isFailed = true := by
  obtain ⟨task, member, isFailed⟩ := failed
  obtain ⟨index, here⟩ := getElem?_of_mem member
  rcases written_getElem? here with same | ⟨isTask, _⟩
  · exact ⟨task, mem_of_getElem? same, isFailed⟩
  · rw [isFound] at isTask
    cases isTask
    cases kind : found.state <;> simp_all [ActionState.isFailed, ActionState.isStarted]

/-- Only a start moves a task from pending to started, and it moves the first one. -/
theorem Advances.starts_inv (advances : Advances current next)
    (moved : starts index current next = true)
    : mayStart current.run = true
      ∧ ∃ task, current.run.tasks[index]? = some task
        ∧ current.run.tasks.find? (·.state.isPending) = some task := by
  cases advances with
  | start may _ _ =>
    obtain ⟨task, here, _, found, _⟩ := written_starts moved
    exact ⟨may, task, here, found⟩
  | bind found started =>
    obtain ⟨task, _, pending, isFound, _⟩ := written_starts moved
    rw [found] at isFound
    cases isFound
    simp [started, ActionState.isPending] at pending
  | complete | fail =>
    obtain ⟨_, _, _, _, impossible⟩ := written_starts moved
    cases impossible

theorem Advances.settled (advances : Advances current next)
    (settled : ¬pendingAt index current = true)
    : ¬pendingAt index next = true := by
  cases advances with
  | start | bind | complete | fail => exact written_settled rfl settled

/-- A failed task stays failed. -/
theorem Advances.keepsFailed (advances : Advances current next)
    (failed : ∃ task ∈ current.run.tasks, task.state.isFailed = true)
    : ∃ task ∈ next.run.tasks, task.state.isFailed = true := by
  cases advances with
  | start may _ _ =>
    obtain ⟨task, member, isFailed⟩ := failed
    have impossible := (mayStart_idle may task member).2
    rw [isFailed] at impossible
    cases impossible
  | bind found started | complete found started | fail found started =>
    exact written_failed found (by simp [started, ActionState.isStarted]) failed

/-- Before the first pending task of an idle run, every task is completed. -/
theorem Progress.firstPending (progress : Progress graph outputs tasks)
    (idle : ∀ task ∈ tasks, task.state.isStarted = false ∧ task.state.isFailed = false)
    (found : tasks.find? (·.state.isPending) = some task)
    : ∃ done rest, tasks = done ++ task :: rest
        ∧ ∀ other ∈ done, other.state.isCompleted = true := by
  obtain ⟨_, done, rest, rfl, skipped⟩ := find?_eq_some_iff_append.mp found
  refine ⟨done, rest, rfl, fun other member => ?_⟩
  have notPending := skipped other member
  obtain ⟨notStarted, notFailed⟩ := idle other (mem_append_left _ member)
  cases state : other.state <;>
    simp_all [ActionState.isPending, ActionState.isStarted, ActionState.isFailed,
      ActionState.isCompleted]

/-- The inputs of the first pending task of an idle run resolve. Witness: induction on the
shape; the outputs of the completed tasks are recorded for the nodes passed so far. -/
theorem Progress.resolvable (sound : graph.Sound) (progress : Progress graph outputs tasks)
    (split : graph.order = before ++ tasks.map ActionTask.nodeId)
    (recorded : ∀ source ∈ before, ∃ values, outputs.get? source = some values
      ∧ graph.validateOutputs source values = .ok ())
    (idle : ∀ task ∈ tasks, task.state.isStarted = false ∧ task.state.isFailed = false)
    (found : tasks.find? (·.state.isPending) = some task)
    : ∃ inputs, graph.resolveInputs task.nodeId
        (outputs.insertAll (tasks.filterMap completedOutput)) = .ok inputs := by
  induction progress generalizing before with
  | @waiting outputs tasks pending =>
    cases tasks with
    | nil => cases found
    | cons head rest =>
      have isPending := pending head mem_cons_self
      obtain rfl : head = task := by
        simpa [isPending, ActionState.isPending] using found
      have none : (head :: rest).filterMap completedOutput = [] :=
        filterMap_eq_nil_iff.mpr
          (fun task member => completedOutput_pending (pending task member))
      rw [none]
      exact CompiledWorkflow.resolveInputs_succeeds sound split recorded
  | @started outputs head rest _ _ _ _ isStarted =>
    have impossible := (idle head mem_cons_self).1
    simp [isStarted, ActionState.isStarted] at impossible
  | @failed outputs head rest _ _ _ _ _ _ isFailed =>
    have impossible := (idle head mem_cons_self).2
    simp [isFailed, ActionState.isFailed] at impossible
  | @completed outputs head rest _ values _ _ isCompleted _ valid _ ih =>
    have skipped : head.state.isPending = false := by
      simp [isCompleted, ActionState.isPending]
    have output : completedOutput head = some (head.nodeId, values) := by
      simp [completedOutput, isCompleted]
    rw [filterMap_cons_some output]
    refine @ih (before ++ [head.nodeId]) (by simp [split]) ?_ ?_ ?_
    · intro source member
      rw [OrderedMap.get?_insert]
      by_cases same : head.nodeId = source
      · exact ⟨values, by simp [same], same ▸ valid⟩
      · rcases mem_append.mp member with old | new
        · simpa [same] using recorded source old
        · exact absurd (mem_singleton.mp new).symm same
    · exact fun task member => idle task (mem_cons_of_mem _ member)
    · simpa [skipped] using found

section

variable (formed : WellFormed sha256 version contracts current)
include formed

/-- A property of the states that every change keeps is kept by every call. -/
theorem WellFormed.perform_keeps {property : ExecutingWorkflow → Prop}
    (keeps : ∀ next, Advances current next → property next) (holds : property current)
    (call : Call)
    : property (perform sha256 version contracts current call).2 := by
  rcases formed.perform_cases call with same | advances
  · rwa [same]
  · exact keeps _ advances

theorem WellFormed.starts_inv
    (moved : starts index current (perform sha256 version contracts current call).2 = true)
    : mayStart current.run = true
      ∧ ∃ task, current.run.tasks[index]? = some task
        ∧ current.run.tasks.find? (·.state.isPending) = some task := by
  rcases formed.perform_cases call with same | advances
  · rw [same] at moved
    simp only [starts, pendingAt, Bool.and_eq_true, Option.any_eq_true] at moved
    obtain ⟨⟨old, here, pending⟩, new, there, isStarted⟩ := moved
    rw [here] at there
    cases there
    cases state : old.state <;> simp_all [ActionState.isPending, ActionState.isStarted]
  · exact advances.starts_inv moved

/-- The tasks stand in the order of the graph. -/
theorem WellFormed.nodeIds
    : current.run.tasks.map ActionTask.nodeId = current.graph.order := by
  have identified := formed.identified
  generalize current.run.tasks = tasks at identified
  generalize current.graph.order = nodes at identified
  induction identified with
  | nil => rfl
  | cons here _ ih =>
    have same := (Bool.and_eq_true_iff.mp here.1).1
    rw [map_cons, ih, beq_iff_eq.mp same]

/-- Every predecessor of the first pending task of an idle run is completed. -/
theorem WellFormed.predecessors_completed (may : mayStart current.run = true)
    (found : current.run.tasks.find? (·.state.isPending) = some task)
    (isSource : source ∈ current.graph.predecessors task.nodeId)
    : (∃ other ∈ current.run.tasks, other.nodeId = source)
      ∧ ∀ other ∈ current.run.tasks, other.nodeId = source
        → other.state.isCompleted = true := by
  have sound := CompiledWorkflow.parse_sound formed.parsed
  obtain ⟨done, rest, split, completed⟩ :=
    formed.progress.firstPending (mayStart_idle may) found
  have order : current.graph.order
      = done.map ActionTask.nodeId ++ task.nodeId :: rest.map ActionTask.nodeId := by
    rw [← formed.nodeIds, split]
    simp
  obtain ⟨other, isDone, rfl⟩ :=
    mem_map.mp (sound.earlier _ _ _ order source isSource)
  have member : other ∈ current.run.tasks := by
    rw [split]
    exact mem_append_left _ isDone
  have unique : (current.run.tasks.map ActionTask.nodeId).Nodup := by
    rw [formed.nodeIds]
    exact sound.ordered
  refine ⟨⟨other, member, rfl⟩, fun twin isTwin same => ?_⟩
  rw [inj_on_of_nodup_map unique isTwin member same]
  exact completed other isDone

end

theorem startNext_succeeds (clock : current.run.createdAtMs ≤ now)
    (bounded : current.run.revision < i64Max - 1) (owned : owner ≠ "")
    (short : owner.utf8ByteSize ≤ 256) (may : mayStart current.run = true)
    (found : current.run.tasks.find? (·.state.isPending) = some task)
    (resolved : current.graph.resolveInputs task.nodeId (completedOutputs current.run.tasks)
      = .ok inputs)
    : startNext owner now current
      = .ok (some { task with state := .started owner inputs now none })
          (current.written (·.state.isPending) (.started owner inputs now none) now) := by
  simp only [startNext, checkTransition_bind_ok, get_bind_ok, ensure_bind_ok, may, if_true,
    found]
  refine ⟨⟨clock, bounded⟩, ⟨owned, short, clock⟩, ?_⟩
  simp only [resolved, check_bind_ok, setState, touch, modify_bind_ok, pure_ok]
  exact ⟨inputs, rfl, rfl, rfl⟩

theorem completedOutputs_some (recorded : (completedOutputs tasks).get? source = some values)
    : ∃ task ∈ tasks, task.nodeId = source
        ∧ ∃ inputs completedAtMs effectRef,
            task.state = .completed inputs values completedAtMs effectRef := by
  rcases OrderedMap.get?_insertAll_some recorded with listed | absent
  · obtain ⟨task, member, output⟩ := mem_filterMap.mp listed
    unfold completedOutput at output
    split at output
    · rename_i inputs outputs completedAtMs effectRef state
      cases output
      exact ⟨task, member, rfl, inputs, completedAtMs, effectRef, state⟩
    · cases output
  · simp at absent

/-- A run that goes on and has no started task has a pending one. -/
theorem mayStart_pending {run : WorkflowRun} (may : mayStart run = true)
    : ∃ task, run.tasks.find? (·.state.isPending) = some task := by
  rw [← Option.isSome_iff_exists, find?_isSome]
  by_contra none
  have idle := mayStart_idle may
  have all : run.tasks.all (·.state.isCompleted) = true := by
    refine all_eq_true.mpr (fun task member => ?_)
    have notPending : ¬task.state.isPending = true := fun pending =>
      none ⟨task, member, pending⟩
    obtain ⟨notStarted, notFailed⟩ := idle task member
    cases state : task.state <;>
      simp_all [ActionState.isPending, ActionState.isStarted, ActionState.isFailed,
        ActionState.isCompleted]
  have unfailed : run.tasks.any (·.state.isFailed) = false :=
    any_eq_false.mpr (fun task member => by simp [(idle task member).2])
  have certain : run.tasks.any (·.state.isUncertain) = false := by
    refine any_eq_false.mpr (fun task member => ?_)
    have notFailed := (idle task member).2
    cases state : task.state <;> simp_all [ActionState.isFailed, ActionState.isUncertain]
  simp [mayStart, WorkflowRun.status, all, unfailed, certain] at may

/-! ### Whole runs -/

section

variable {start : ExecutingWorkflow} (formed : WellFormed sha256 version contracts start)
include formed

/-- No place of the run moves from pending to started twice. -/
theorem WellFormed.starts_once (calls : List Call) (index : Nat)
    : (executor sha256 version contracts).occurrences (starts index) start calls ≤ 1 := by
  have needs : ∀ current call, WellFormed sha256 version contracts current
      → starts index current ((executor sha256 version contracts).step current call).2 = true
      → pendingAt index current = true :=
    fun _ _ _ moved => (Bool.and_eq_true_iff.mp moved).1
  refine (Machine.occurrences_le_one _ executor_keeps needs ?_ ?_ formed calls).1
  · intro current call _ moved pending
    have isStarted := (Bool.and_eq_true_iff.mp moved).2
    simp only [pendingAt, Option.any_eq_true] at isStarted pending
    obtain ⟨new, there, started⟩ := isStarted
    obtain ⟨other, same, waiting⟩ := pending
    rw [there] at same
    cases same
    cases kind : new.state <;> simp_all [ActionState.isPending, ActionState.isStarted]
  · intro current call holds settled
    exact holds.perform_keeps (fun _ advances => advances.settled settled) settled call

/-- Once a task has failed, no call starts a task. -/
theorem WellFormed.failed_ends (failed : ∃ task ∈ start.run.tasks, task.state.isFailed = true)
    (member : exchange ∈ (executor sha256 version contracts).exchanges start calls)
    (index : Nat)
    : starts index exchange.1
        ((executor sha256 version contracts).step exchange.1 exchange.2.1).2 = false := by
  have keeps : ∀ current call,
      (WellFormed sha256 version contracts current
        ∧ ∃ task ∈ current.run.tasks, task.state.isFailed = true)
      → WellFormed sha256 version contracts
          ((executor sha256 version contracts).step current call).2
        ∧ ∃ task ∈ ((executor sha256 version contracts).step current call).2.run.tasks,
            task.state.isFailed = true := by
    rintro current call ⟨holds, hasFailed⟩
    refine ⟨holds.performed call, ?_⟩
    exact holds.perform_keeps (fun _ advances => advances.keepsFailed hasFailed) hasFailed call
  obtain ⟨holds, task, isTask, isFailed⟩ :=
    Machine.exchanges_invariant _ keeps ⟨formed, failed⟩ member
  refine Bool.eq_false_iff.mpr (fun moved => ?_)
  have impossible := (mayStart_idle (holds.starts_inv moved).1 task isTask).2
  rw [isFailed] at impossible
  cases impossible

end

/-- The next task of a run that goes on is started, with exactly the inputs it binds. -/
theorem WellFormed.startNext_returns (formed : WellFormed sha256 version contracts current)
    (goesOn : current.run.status = .pending ∨ current.run.status = .running)
    (unstarted : ∀ task ∈ current.run.tasks, task.state.isStarted = false) (owned : owner ≠ "")
    (short : owner.utf8ByteSize ≤ 256) (clock : current.run.createdAtMs ≤ now)
    : ∃ task inputs node next,
        startNext owner now current = .ok (some task) next
        ∧ task.state = .started owner inputs now none
        ∧ current.graph.node task.nodeId = some node
        ∧ (∀ field, (inputs.get? field).isSome = true
          ↔ (node.inputs.get? field).isSome = true)
        ∧ (∀ field value, node.inputs.get? field = some (.literal value)
          → inputs.get? field = some value)
        ∧ ∀ field source output, node.inputs.get? field = some (.output source output)
          → ∃ recorded ∈ current.run.tasks, recorded.nodeId = source
            ∧ ∃ sourceInputs values completedAtMs effectRef,
                recorded.state = .completed sourceInputs values completedAtMs effectRef
                ∧ inputs.get? field = values.get? output := by
  have may : mayStart current.run = true := by
    have idle : current.run.tasks.any (·.state.isStarted) = false :=
      any_eq_false.mpr (fun task member => by simp [unstarted task member])
    rcases goesOn with waiting | running
    · simp [mayStart, waiting, idle]
    · simp [mayStart, running, idle]
  obtain ⟨task, found⟩ := mayStart_pending may
  have sound := CompiledWorkflow.parse_sound formed.parsed
  obtain ⟨inputs, resolved⟩ := formed.progress.resolvable sound
    (by simpa using formed.nodeIds.symm : current.graph.order = [] ++ _) (by simp)
    (mayStart_idle may) found
  obtain ⟨node, isNode, values⟩ := CompiledWorkflow.resolveInputs_get? resolved
  refine ⟨_, inputs, node, _,
    startNext_succeeds clock formed.revision_lt owned short may found resolved, rfl, isNode,
    fun field => (values field).2, fun field value bound => ?_,
    fun field source output bound => ?_⟩
  · simp [(values field).1, bound, CompiledWorkflow.bindingValue]
  · have present : (inputs.get? field).isSome = true := by
      rw [(values field).2, bound]
      rfl
    have value := (values field).1
    rw [bound, Option.bind_some, CompiledWorkflow.bindingValue] at value
    obtain ⟨given, isGiven⟩ := Option.isSome_iff_exists.mp present
    rw [isGiven] at value
    obtain ⟨recorded, isRecorded, isValue⟩ := Option.bind_eq_some_iff.mp value.symm
    obtain ⟨other, member, same, sourceInputs, completedAtMs, effectRef, state⟩ :=
      completedOutputs_some isRecorded
    exact ⟨other, member, same, sourceInputs, recorded, completedAtMs, effectRef, state,
      isGiven.trans isValue.symm⟩

/-- Actions run at most once and in dependency order, none runs after a failure, a run that
goes on always starts its next action with exactly the inputs it binds, and a call that
fails changes nothing. -/
theorem actions_run_once_in_order {key : String} {trigger : RunTrigger} {now : Int}
    {start : ExecutingWorkflow}
    (admitted : admitWorkflow sha256 version contracts key trigger now = .ok start)
    (calls : List Call)
    : let machine := executor sha256 version contracts
      let reached := machine.after start calls
      (∀ index, machine.occurrences (starts index) start calls ≤ 1)
      ∧ (∀ exchange ∈ machine.exchanges start calls, ∀ index,
          starts index exchange.1 (machine.step exchange.1 exchange.2.1).2 = true
          → (∀ task ∈ exchange.1.run.tasks, task.state.isStarted = false)
            ∧ ∃ task, exchange.1.run.tasks[index]? = some task
              ∧ ∀ source ∈ exchange.1.graph.predecessors task.nodeId,
                  (∃ other ∈ exchange.1.run.tasks, other.nodeId = source)
                  ∧ ∀ other ∈ exchange.1.run.tasks, other.nodeId = source
                    → other.state.isCompleted = true)
      ∧ ((∃ task ∈ reached.run.tasks, task.state.isFailed = true)
          → ∀ more, ∀ exchange ∈ machine.exchanges reached more, ∀ index,
              starts index exchange.1 (machine.step exchange.1 exchange.2.1).2 = false)
      ∧ (reached.run.status = .pending ∨ reached.run.status = .running
          → (∀ task ∈ reached.run.tasks, task.state.isStarted = false)
          → ∀ owner clock, owner ≠ "" → owner.utf8ByteSize ≤ 256
          → reached.run.createdAtMs ≤ clock
          → ∃ task inputs node next,
              startNext owner clock reached = .ok (some task) next
              ∧ task.state = .started owner inputs clock none
              ∧ reached.graph.node task.nodeId = some node
              ∧ (∀ field, (inputs.get? field).isSome = true
                ↔ (node.inputs.get? field).isSome = true)
              ∧ (∀ field value, node.inputs.get? field = some (.literal value)
                → inputs.get? field = some value)
              ∧ ∀ field source output, node.inputs.get? field = some (.output source output)
                → ∃ recorded ∈ reached.run.tasks, recorded.nodeId = source
                  ∧ ∃ sourceInputs values completedAtMs effectRef,
                      recorded.state = .completed sourceInputs values completedAtMs effectRef
                      ∧ inputs.get? field = values.get? output)
      ∧ ∀ call issues, (machine.step reached call).1 = .error issues
          → (machine.step reached call).2.run = reached.run := by
  intro machine reached
  have formed := admitWorkflow_wellFormed admitted
  have formedAfter : WellFormed sha256 version contracts reached := formed.after calls
  refine ⟨formed.starts_once calls, ?_, ?_, ?_, ?_⟩
  · intro exchange member index moved
    have holds := formed.exchanged member
    obtain ⟨may, task, here, found⟩ := holds.starts_inv moved
    exact ⟨fun task member => (mayStart_idle may task member).1, task, here,
      fun source isSource => holds.predecessors_completed may found isSource⟩
  · intro failed more exchange member index
    exact formedAfter.failed_ends failed member index
  · intro goesOn unstarted owner clock owned short valid
    exact formedAfter.startNext_returns goesOn unstarted owned short valid
  · intro call issues failed
    exact congrArg ExecutingWorkflow.run (perform_error failed)

end

/-- Witness: the agent is started once, and after the reopening of the run it is the task
that is returned. -/
theorem actions_run_once_in_order_sample
    : ∃ start, sampleAdmission = .ok start
        ∧ let machine := executor workflowSha256 sampleVersion sampleContracts
          let reopened := machine.after start (sampleCalls.take 3)
          machine.occurrences (starts 1) start sampleCalls = 1
          ∧ machine.occurrences (starts 1) start sampleCalls ≤ 1
          ∧ reopened.run.status = .running
          ∧ ∃ task next, startNext "service-generation-2" 204 reopened = .ok (some task) next := by
  have admits : sampleAdmission.toOption.isSome = true := by decide +kernel
  have evaluates : sampleAdmission.toOption.all (fun start =>
      let machine := executor workflowSha256 sampleVersion sampleContracts
      let reopened := machine.after start (sampleCalls.take 3)
      machine.occurrences (starts 1) start sampleCalls == 1
        && reopened.run.status == .running
        && !reopened.run.tasks.any (·.state.isStarted)
        && reopened.run.createdAtMs == 200) = true := by decide +kernel
  cases admitted : sampleAdmission with
  | error issues =>
    rw [admitted] at admits
    cases admits
  | ok start =>
    rw [admitted] at evaluates
    simp only [Except.toOption, Option.all_some, Bool.and_eq_true, beq_iff_eq,
      Bool.not_eq_true', any_eq_false] at evaluates
    obtain ⟨⟨⟨once, running⟩, unstarted⟩, created⟩ := evaluates
    obtain ⟨_, _, _, returns, _⟩ := actions_run_once_in_order admitted (sampleCalls.take 3)
    obtain ⟨task, _, _, next, returned, _⟩ := returns (Or.inr running)
      (fun task member => by simpa using unstarted task member) "service-generation-2" 204
      (by decide) (by decide) (by rw [created]; decide)
    exact ⟨start, rfl, once, (actions_run_once_in_order admitted sampleCalls).1 1, running,
      task, next, returned⟩

end Dure.Orchestration.ExecutingWorkflow
