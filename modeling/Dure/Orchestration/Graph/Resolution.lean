import Dure.Orchestration.Graph.Soundness

/-! Resolving inputs: what the resolved inputs are, and that a sound graph resolves the
inputs of a node once every node before it has valid outputs.
-/

namespace Dure.Orchestration.CompiledWorkflow

open Library Check OrderedMap

variable {graph : CompiledWorkflow} {nodeId field : String}
  {outputs : OrderedMap String ActionValues} {contract : ActionContract}
  {entries : List (String × InputBinding)} {inputs : ActionValues}

/-- The loop inserts the value of every binding. Witness: induction on the entries, whose
keys do not repeat, with the collected inputs generalised. -/
theorem resolveEntries_get? (sorted : entries.Pairwise (fun left right => left.1 < right.1))
    (passed : resolveEntries contract nodeId outputs entries inputs = .ok resolved)
    (field : String)
    : resolved.get? field
      = match OrderedMap.lookup field entries with
        | some binding => bindingValue outputs binding
        | none => inputs.get? field := by
  induction entries generalizing inputs with
  | nil =>
    cases passed
    rfl
  | cons entry rest ih =>
    obtain ⟨name, binding⟩ := entry
    obtain ⟨above, tail⟩ := List.pairwise_cons.mp sorted
    rw [resolveEntries] at passed
    split at passed
    · cases passed
    · rename_i value isValue
      split at passed
      · cases passed
      · split_ifs at passed
        rw [ih tail passed, lookup]
        by_cases here : name = field
        · subst here
          have absent : lookup name rest = none := by
            rw [Option.eq_none_iff_forall_ne_some]
            intro other found
            exact absurd (above _ (lookup_some_mem found)) (lt_irrefl name)
          simp [absent, isValue]
        · simp [here, get?_insert_ne _ _ here]

/-- The loop succeeds when every binding has a value that its field accepts. -/
theorem resolveEntries_succeeds (inputs : ActionValues)
    (resolvable : ∀ field binding, (field, binding) ∈ entries
      → ∃ value spec, bindingValue outputs binding = some value
      ∧ contract.inputs.get? field = some spec ∧ spec.valueType.accepts value = true)
    : ∃ resolved, resolveEntries contract nodeId outputs entries inputs = .ok resolved := by
  induction entries generalizing inputs with
  | nil => exact ⟨inputs, rfl⟩
  | cons entry rest ih =>
    obtain ⟨field, binding⟩ := entry
    obtain ⟨value, spec, isValue, specified, accepted⟩ :=
      resolvable field binding List.mem_cons_self
    obtain ⟨resolved, later⟩ := ih (inputs.insert field value)
      (fun other binding member => resolvable other binding (List.mem_cons_of_mem _ member))
    exact ⟨resolved, by simpa [resolveEntries, isValue, specified, accepted] using later⟩

/-- A loop that succeeded found a value for every binding. -/
theorem resolveEntries_values
    (passed : resolveEntries contract nodeId outputs entries inputs = .ok resolved)
    (member : (field, binding) ∈ entries)
    : ∃ value, bindingValue outputs binding = some value := by
  induction entries generalizing inputs with
  | nil => cases member
  | cons entry rest ih =>
    obtain ⟨name, first⟩ := entry
    rw [resolveEntries] at passed
    split at passed
    · cases passed
    · rename_i value isValue
      split at passed
      · cases passed
      · split_ifs at passed
        rcases List.mem_cons.mp member with same | later
        · cases same
          exact ⟨value, isValue⟩
        · exact ih passed later

/-- The inputs are exactly the literals and the recorded outputs that the node binds. -/
theorem resolveInputs_get? (resolved : graph.resolveInputs nodeId outputs = .ok inputs)
    : ∃ node, graph.node nodeId = some node
        ∧ ∀ field, inputs.get? field = (node.inputs.get? field).bind (bindingValue outputs)
          ∧ ((inputs.get? field).isSome = true ↔ (node.inputs.get? field).isSome = true) := by
  unfold resolveInputs at resolved
  split at resolved
  · cases resolved
  · rename_i node found
    refine ⟨node, found, fun field => ?_⟩
    split at resolved
    · cases resolved
    · have value := resolveEntries_get? node.inputs.sorted resolved field
      change _ = match node.inputs.get? field with
        | some binding => bindingValue outputs binding
        | none => none at value
      cases bound : node.inputs.get? field with
      | none => simp_all
      | some binding =>
        obtain ⟨present, isPresent⟩ :=
          resolveEntries_values resolved (get?_eq_some.mp bound)
        simp_all

/-- Valid outputs hold a value of the declared type for every required field. -/
theorem validateOutputs_required {node : WorkflowNode}
    (valid : graph.validateOutputs nodeId values = .ok ())
    (found : graph.node nodeId = some node)
    (contracted : graph.contracts.get? node.action = some contract)
    (specified : contract.outputs.get? field = some spec) (required : spec.required = true)
    : ∃ value, values.get? field = some value ∧ spec.valueType.accepts value = true := by
  simp only [validateOutputs, found, contracted, seq_ok, each_ok] at valid
  have checked := valid.2.1 _ (get?_eq_some.mp specified)
  unfold validateOutput at checked
  split at checked
  · simp [required] at checked
  · rename_i value present
    exact ⟨value, present, by simpa using checked⟩

/-- With valid outputs recorded for every node before it, the inputs of a node resolve. -/
theorem resolveInputs_succeeds (sound : graph.Sound)
    (split : graph.order = before ++ nodeId :: after)
    (recorded : ∀ source ∈ before,
      ∃ values, outputs.get? source = some values
        ∧ graph.validateOutputs source values = .ok ())
    : ∃ inputs, graph.resolveInputs nodeId outputs = .ok inputs := by
  obtain ⟨node, found⟩ := (sound.listed nodeId).mp (by simp [split])
  obtain ⟨contract, contracted, specified⟩ := sound.contract nodeId node found
  unfold resolveInputs
  simp only [found, contracted]
  refine resolveEntries_succeeds _ (fun field binding member => ?_)
  obtain ⟨spec, isSpec, bound⟩ := specified field binding member
  cases binding with
  | literal value => exact ⟨value, spec, rfl, isSpec, bound⟩
  | output source output =>
    obtain ⟨edge, sourceNode, sourceContract, outputSpec, isNode, agreed, declared,
      required, accepts⟩ := bound
    -- the edge puts the source before the node, so its outputs are recorded
    have earlier := sound.earlier before nodeId after split source edge
    obtain ⟨values, kept, valid⟩ := recorded source earlier
    obtain ⟨value, present, accepted⟩ :=
      validateOutputs_required valid isNode agreed declared required
    refine ⟨value, spec, ?_, isSpec, FieldType.accepts_of_acceptsType accepts accepted⟩
    simp [bindingValue, kept, present]

end Dure.Orchestration.CompiledWorkflow
