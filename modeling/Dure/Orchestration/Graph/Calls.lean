import Dure.Orchestration.Graph.Execution
import Dure.Orchestration.Graph.Resolution

/-! What the calls on an executing workflow do: each one leaves it as it is or writes the
state of one task, and a call that fails writes nothing.
-/

namespace Dure.Orchestration.ExecutingWorkflow

open Library Update

/-- The workflow after a task's state was written and the run was touched. -/
def written (current : ExecutingWorkflow) (select : ActionTask → Bool) (state : ActionState)
    (now : Int)
    : ExecutingWorkflow := {
  current with
  run := {
    current.run with
    tasks := updateFirst select (fun task => { task with state := state }) current.run.tasks
    revision := current.run.revision + 1
    updatedAtMs := max current.run.updatedAtMs now
  }
}

/-- The four ways in which a call changes a workflow. -/
inductive Advances (current : ExecutingWorkflow) : ExecutingWorkflow → Prop where
  | start {task : ActionTask} {inputs : ActionValues} {owner : String} {now : Int}
    (may : mayStart current.run = true)
    (found : current.run.tasks.find? (·.state.isPending) = some task)
    (resolved : current.graph.resolveInputs task.nodeId (completedOutputs current.run.tasks)
      = .ok inputs)
    : Advances current
        (current.written (·.state.isPending) (.started owner inputs now none) now)
  | bind {dispatch : DispatchId} {task : ActionTask} {owner : String} {inputs : ActionValues}
    {startedAtMs : Int} {effect : String} {now : Int}
    (found : current.run.tasks.find? (ofDispatch dispatch) = some task)
    (started : task.state = .started owner inputs startedAtMs none)
    : Advances current
        (current.written (ofDispatch dispatch) (.started owner inputs startedAtMs (some effect))
          now)
  | complete {dispatch : DispatchId} {task : ActionTask} {owner : String}
    {inputs outputs : ActionValues} {startedAtMs : Int} {effectRef : Option String} {now : Int}
    (found : current.run.tasks.find? (ofDispatch dispatch) = some task)
    (started : task.state = .started owner inputs startedAtMs effectRef)
    (valid : current.graph.validateOutputs task.nodeId outputs = .ok ())
    : Advances current
        (current.written (ofDispatch dispatch) (.completed inputs outputs now effectRef) now)
  | fail {dispatch : DispatchId} {task : ActionTask} {owner : String} {inputs : ActionValues}
    {outputs : Option ActionValues} {code : String} {uncertain : Bool} {startedAtMs : Int}
    {effectRef : Option String} {now : Int}
    (found : current.run.tasks.find? (ofDispatch dispatch) = some task)
    (started : task.state = .started owner inputs startedAtMs effectRef)
    (valid : ∀ values, outputs = some values
      → current.graph.validateOutputs task.nodeId values = .ok ())
    : Advances current
        (current.written (ofDispatch dispatch)
          (.failed inputs outputs code uncertain now effectRef) now)

variable {dispatch : DispatchId} {select : ActionTask → Bool} {u : Unit} {state : ActionState}
  {α : Type}

section

variable {current next : ExecutingWorkflow} {now : Int}

theorem checkTransition_bind_ok
    : (checkTransition now >>= f) current = .ok a next
      ↔ (current.run.createdAtMs ≤ now ∧ current.run.revision < i64Max - 1)
        ∧ f () current = .ok a next := by
  rw [checkTransition, bind_assoc, get_bind_ok, ensure_bind_ok]

theorem setState_touch_ok
    : (do setState select state; touch now : Execution Unit) current = .ok u next
      ↔ current.written select state now = next := by
  rw [setState, modify_bind_ok, touch, modify_ok]
  rfl

theorem startNext_ok (passed : startNext owner now current = .ok answer next)
    : (answer = none ∧ next = current)
      ∨ ∃ task inputs, mayStart current.run = true
        ∧ current.run.tasks.find? (·.state.isPending) = some task
        ∧ current.graph.resolveInputs task.nodeId (completedOutputs current.run.tasks)
          = .ok inputs
        ∧ answer = some { task with state := .started owner inputs now none }
        ∧ next = current.written (·.state.isPending) (.started owner inputs now none) now := by
  simp only [startNext, checkTransition_bind_ok, get_bind_ok, ensure_bind_ok] at passed
  obtain ⟨_, _, rest⟩ := passed
  split_ifs at rest with may
  · cases found : current.run.tasks.find? (·.state.isPending) with
    | none =>
      simp only [found, pure_ok] at rest
      exact Or.inl ⟨rest.1.symm, rest.2.symm⟩
    | some task =>
      simp only [found, check_bind_ok, setState, touch, modify_bind_ok, pure_ok] at rest
      obtain ⟨inputs, resolved, rfl, rfl⟩ := rest
      exact Or.inr ⟨task, inputs, may, rfl, resolved, rfl, rfl⟩
  · obtain ⟨rfl, rfl⟩ := pure_ok.mp rest
    exact Or.inl ⟨rfl, rfl⟩

theorem bindEffect_ok (passed : bindEffect dispatch effect now current = .ok u next)
    : next = current ∨ Advances current next := by
  simp only [bindEffect, checkTransition_bind_ok, get_bind_ok, ensure_bind_ok,
    orElseThrow_bind_ok] at passed
  obtain ⟨_, _, task, found, rest⟩ := passed
  cases started : task.state with
  | started owner inputs startedAtMs effectRef =>
    simp only [started, ensure_bind_ok] at rest
    obtain ⟨agrees, rest⟩ := rest
    split_ifs at rest with same
    · exact Or.inl (pure_ok.mp rest).2.symm
    · rcases agrees with rfl | bound
      · rw [setState_touch_ok] at rest
        exact Or.inr (rest ▸ .bind found started)
      · exact absurd bound same
  | _ => simp only [started, throw_ok] at rest

theorem complete_ok (passed : complete dispatch outputs now current = .ok u next)
    : Advances current next := by
  simp only [complete, checkTransition_bind_ok, get_bind_ok, check_bind_ok,
    orElseThrow_bind_ok] at passed
  obtain ⟨_, task, found, _, valid, rest⟩ := passed
  cases started : task.state with
  | started owner inputs startedAtMs effectRef =>
    simp only [started, setState_touch_ok] at rest
    exact rest ▸ .complete found started valid
  | _ => simp only [started, throw_ok] at rest

theorem fail_ok (passed : fail dispatch code uncertain outputs now current = .ok u next)
    : Advances current next := by
  simp only [fail, checkTransition_bind_ok, ensure_bind_ok, get_bind_ok, check_bind_ok,
    orElseThrow_bind_ok, Check.whenSome_ok] at passed
  obtain ⟨_, _, task, found, _, valid, rest⟩ := passed
  cases started : task.state with
  | started owner inputs startedAtMs effectRef =>
    simp only [started, setState_touch_ok] at rest
    exact rest ▸ .fail found started valid
  | _ => simp only [started, throw_ok] at rest

theorem checkTransition_keeps (later : KeepsOnError (f ()))
    : KeepsOnError (checkTransition now >>= f) := by
  rw [checkTransition, bind_assoc]
  exact .get_bind (fun _ => .ensure_bind later)

theorem setState_touch_keeps
    : KeepsOnError (do setState select state; touch now : Execution Unit) :=
  .of_total (fun _ => ⟨_, _, rfl⟩)

theorem startNext_keeps (owner : String) (now : Int)
    : KeepsOnError (startNext owner now) := by
  refine checkTransition_keeps (.get_bind (fun current => .ensure_bind ?_))
  split_ifs
  · split
    · exact .pure _
    · exact .check_bind (fun _ => .of_total (fun _ => ⟨_, _, rfl⟩))
  · exact .pure _

theorem bindEffect_keeps (dispatch : DispatchId) (effect : String) (now : Int)
    : KeepsOnError (bindEffect dispatch effect now) := by
  refine checkTransition_keeps (.ensure_bind (.get_bind (fun current => ?_)))
  refine .orElseThrow_bind (fun task => ?_)
  split
  · refine .ensure_bind ?_
    split_ifs
    · exact .pure _
    · exact setState_touch_keeps
  · exact .throw _

theorem complete_keeps (dispatch : DispatchId) (outputs : ActionValues) (now : Int)
    : KeepsOnError (complete dispatch outputs now) := by
  refine checkTransition_keeps (.get_bind (fun current => ?_))
  refine .orElseThrow_bind (fun task => .check_bind (fun _ => ?_))
  split
  · exact setState_touch_keeps
  · exact .throw _

theorem fail_keeps (dispatch : DispatchId) (code : String) (uncertain : Bool)
    (outputs : Option ActionValues) (now : Int)
    : KeepsOnError (fail dispatch code uncertain outputs now) := by
  refine checkTransition_keeps (.ensure_bind (.get_bind (fun current => ?_)))
  refine .orElseThrow_bind (fun task => .check_bind (fun _ => ?_))
  split
  · exact setState_touch_keeps
  · exact .throw _

end

end Dure.Orchestration.ExecutingWorkflow
