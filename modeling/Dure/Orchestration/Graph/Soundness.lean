import Dure.Orchestration.Graph.Compile

/-! What a compiled workflow guarantees: every index finds its key, every edge points
forward in the order, and an input can be resolved once the nodes before its own have valid
outputs.
-/

namespace Dure.Orchestration

open Library Check List

variable {node : WorkflowNode} {edge : WorkflowEdge} {nodeId : String}

section

variable {definition : WorkflowDefinition}

theorem nodeMap_of_mem (unique : (definition.nodes.map WorkflowNode.nodeId).Nodup)
    (member : node ∈ definition.nodes)
    : definition.nodeMap.get? node.nodeId = some node := by
  refine OrderedMap.get?_ofList_of_mem ?_ (mem_map_of_mem member)
  rw [map_map]
  exact unique

theorem mem_of_nodeMap (found : definition.nodeMap.get? nodeId = some node)
    : node ∈ definition.nodes ∧ node.nodeId = nodeId := by
  rcases OrderedMap.get?_insertAll_some found with listed | absent
  · obtain ⟨other, member, same⟩ := mem_map.mp listed
    cases same
    exact ⟨member, rfl⟩
  · simp at absent

/-- The order of the nodes does not change the map. -/
theorem nodeMap_of_perm {other : WorkflowDefinition}
    (unique : (definition.nodes.map WorkflowNode.nodeId).Nodup)
    (perm : other.nodes.Perm definition.nodes)
    : other.nodeMap = definition.nodeMap := by
  refine OrderedMap.ext_get? (fun nodeId => Option.ext (fun node => ?_))
  constructor
  · intro found
    obtain ⟨member, rfl⟩ := mem_of_nodeMap found
    exact nodeMap_of_mem unique (perm.mem_iff.mp member)
  · intro found
    obtain ⟨member, rfl⟩ := mem_of_nodeMap found
    exact nodeMap_of_mem ((perm.map _).nodup_iff.mpr unique) (perm.mem_iff.mpr member)

theorem mem_nodeMap_keys
    : nodeId ∈ definition.nodeMap.keys
      ↔ ∃ node ∈ definition.nodes, node.nodeId = nodeId := by
  rw [OrderedMap.mem_keys, WorkflowDefinition.nodeMap, OrderedMap.ofList_eq_insertAll,
    OrderedMap.isSome_get?_insertAll]
  simp

theorem mem_edgeSet_keys
    : edge ∈ definition.edgeSet.keys ↔ edge ∈ definition.edges := by
  rw [OrderedMap.mem_keys, WorkflowDefinition.edgeSet, OrderedMap.ofList_eq_insertAll,
    OrderedMap.isSome_get?_insertAll]
  simp

theorem mem_allEdges_keys
    : edge ∈ (definition.allEdges contracts).keys
      ↔ (∃ node ∈ definition.nodes, edge ∈ impliedEdges contracts definition.nodeMap node)
        ∨ edge ∈ definition.edges := by
  rw [OrderedMap.mem_keys, WorkflowDefinition.allEdges, OrderedMap.isSome_get?_insertAll,
    ← OrderedMap.mem_keys, mem_edgeSet_keys]
  simp

end

section

variable {contracts : OrderedMap ActionRef ActionContract}
  {nodes : OrderedMap String WorkflowNode}

/-- The node whose output a binding takes. -/
def InputBinding.source : InputBinding → Option String
  | .literal _ => none
  | .output nodeId _ => some nodeId

/-- The edges to a node from those whose outputs it takes. -/
def WorkflowNode.outputEdges (node : WorkflowNode) : List WorkflowEdge :=
  node.inputs.entries.filterMap (fun input => input.2.source.map (⟨·, node.nodeId⟩))

/-- The facts a binding was accepted on. -/
def BindingSound (contracts : OrderedMap ActionRef ActionContract)
    (nodes : OrderedMap String WorkflowNode) (spec : FieldContract)
    : InputBinding → Prop
  | .literal value => spec.valueType.accepts value = true
  | .output nodeId field =>
    ∃ output, outputContract contracts nodes nodeId field = some output
      ∧ output.required = true
      ∧ spec.valueType.acceptsType output.valueType = true

/-- A binding that passes its check. -/
def BindingTyped (contracts : OrderedMap ActionRef ActionContract)
    (nodes : OrderedMap String WorkflowNode) (spec : FieldContract) (binding : InputBinding)
    : Prop :=
  BindingSound contracts nodes spec binding
    ∧ (binding.source ≠ none → spec.acceptsOutput = true)

theorem checkBinding_ok
    : checkBinding contracts nodes spec binding = .ok source
      ↔ BindingTyped contracts nodes spec binding ∧ source = binding.source := by
  cases binding with
  | literal value =>
    simp only [checkBinding, BindingTyped, BindingSound, InputBinding.source]
    grind
  | output nodeId field =>
    simp only [checkBinding, BindingTyped, BindingSound, InputBinding.source]
    cases outputContract contracts nodes nodeId field with
    | none => grind
    | some output => grind

/-- A node that has a contract, with every required input bound and every bound input
specified and typed. -/
def NodeTyped (contracts : OrderedMap ActionRef ActionContract)
    (nodes : OrderedMap String WorkflowNode) (node : WorkflowNode)
    : Prop :=
  ∃ contract, contracts.get? node.action = some contract
    ∧ (∀ field spec, contract.inputs.get? field = some spec → spec.required = true
      → (node.inputs.get? field).isSome = true)
    ∧ ∀ field binding, node.inputs.get? field = some binding
      → ∃ spec, contract.inputs.get? field = some spec
        ∧ BindingTyped contracts nodes spec binding

theorem inputIssue_none
    : inputIssue contracts nodes node contract (field, binding) = none
      ↔ ∃ spec, contract.inputs.get? field = some spec
        ∧ BindingTyped contracts nodes spec binding := by
  rw [inputIssue]
  cases contract.inputs.get? field with
  | none => simp
  | some spec =>
    have checked {source : Option String} :=
      @checkBinding_ok contracts nodes spec binding source
    cases passed : checkBinding contracts nodes spec binding with
    | error code => simp_all
    | ok source => simp [passed, (checked.mp passed).1]

theorem nodeIssues_nil
    : nodeIssues contracts nodes node = [] ↔ NodeTyped contracts nodes node := by
  rw [nodeIssues, NodeTyped]
  cases contracts.get? node.action with
  | none => simp
  | some contract =>
    simp only [append_eq_nil_iff, filterMap_eq_nil_iff, Prod.forall, inputIssue_none,
      OrderedMap.get?_eq_some, Option.some.injEq, exists_eq_left']
    refine and_congr_left' (forall₃_congr (fun field spec _ => ?_))
    simp [Option.isSome_iff_ne_none]

/-- The edges of a typed node are those that its inputs name. -/
theorem impliedEdges_typed (typed : NodeTyped contracts nodes node)
    : impliedEdges contracts nodes node = node.outputEdges := by
  obtain ⟨contract, found, _, inputs⟩ := typed
  simp only [impliedEdges, found, WorkflowNode.outputEdges]
  refine filterMap_congr ?_
  rintro ⟨field, binding⟩ member
  obtain ⟨spec, specified, typed⟩ := inputs field binding (OrderedMap.get?_eq_some.mpr member)
  simp [impliedEdge, specified, checkBinding_ok.mpr ⟨typed, rfl⟩]

theorem mem_outputEdges
    : edge ∈ node.outputEdges
      ↔ edge.target = node.nodeId
        ∧ ∃ field output, node.inputs.get? field = some (.output edge.source output) := by
  simp only [WorkflowNode.outputEdges, mem_filterMap, Option.map_eq_some_iff,
    OrderedMap.get?_eq_some]
  constructor
  · rintro ⟨⟨field, _ | ⟨source, output⟩⟩, member, _, named, rfl⟩
    · cases named
    · cases named
      exact ⟨rfl, field, output, member⟩
  · rintro ⟨same, field, output, member⟩
    exact ⟨_, member, _, rfl, by rw [← same]⟩

end

/-- Every edge joins nodes, and every node is typed. -/
structure WorkflowDefinition.WellTyped (definition : WorkflowDefinition)
    (contracts : OrderedMap ActionRef ActionContract)
    : Prop where
  edges : ∀ edge ∈ definition.edges,
    edge.source ∈ definition.nodeMap.keys ∧ edge.target ∈ definition.nodeMap.keys
  nodes : ∀ node ∈ definition.nodes, NodeTyped contracts definition.nodeMap node

/-- The given edges with those that the inputs name. -/
def WorkflowDefinition.dependencies (definition : WorkflowDefinition) : Finset WorkflowEdge :=
  definition.edges.toFinset ∪ (definition.nodes.flatMap WorkflowNode.outputEdges).toFinset

section

variable {definition : WorkflowDefinition} {contracts : OrderedMap ActionRef ActionContract}

theorem issues_nil
    : definition.issues contracts = []
      ↔ definition.WellTyped contracts
        ∧ (definition.allEdges contracts).keys.length ≤ maxEdges := by
  simp only [WorkflowDefinition.issues, append_eq_nil_iff, filterMap_eq_nil_iff,
    flatMap_eq_nil_iff, nodeIssues_nil, mem_edgeSet_keys]
  have edges {edge : WorkflowEdge}
      : edgeIssue definition.nodeMap edge = none
        ↔ edge.source ∈ definition.nodeMap.keys ∧ edge.target ∈ definition.nodeMap.keys := by
    simp [edgeIssue, OrderedMap.mem_keys, Option.isSome_iff_ne_none]
  have small : (definition.allEdges contracts).entries.length
      = (definition.allEdges contracts).keys.length := by simp [OrderedMap.keys]
  simp only [edges, small]
  constructor
  · rintro ⟨⟨joined, typed⟩, few⟩
    split_ifs at few with many
    exact ⟨⟨joined, typed⟩, not_lt.mp many⟩
  · rintro ⟨⟨joined, typed⟩, few⟩
    exact ⟨⟨joined, typed⟩, if_neg (not_lt.mpr few)⟩

variable (typed : definition.WellTyped contracts)
include typed

theorem mem_allEdges_typed
    : edge ∈ (definition.allEdges contracts).keys ↔ edge ∈ definition.dependencies := by
  rw [mem_allEdges_keys, WorkflowDefinition.dependencies, Finset.mem_union, or_comm]
  simp only [mem_toFinset, mem_flatMap]
  refine or_congr_right (exists_congr (fun node => and_congr_right (fun member => ?_)))
  rw [impliedEdges_typed (typed.nodes node member)]

/-- Both ends of every edge of a compiled definition are nodes. -/
theorem allEdges_ends (member : edge ∈ (definition.allEdges contracts).keys)
    : edge.source ∈ definition.nodeMap.keys ∧ edge.target ∈ definition.nodeMap.keys := by
  rcases mem_allEdges_keys.mp member with ⟨node, isNode, implied⟩ | given
  · obtain ⟨contract, found, required, inputs⟩ := typed.nodes node isNode
    rw [impliedEdges_typed ⟨contract, found, required, inputs⟩, mem_outputEdges] at implied
    obtain ⟨same, field, output, bound⟩ := implied
    obtain ⟨spec, _, ⟨_, named, _⟩, _⟩ := inputs field _ bound
    simp only [outputContract, Option.bind_eq_some_iff] at named
    obtain ⟨_, ⟨_, present, _⟩, _⟩ := named
    exact ⟨OrderedMap.mem_keys.mpr (by rw [present]; rfl),
      mem_nodeMap_keys.mpr ⟨node, isNode, same.symm⟩⟩
  · exact typed.edges edge given

end

/-- The definition with the edges that its mappings imply, each edge once. -/
def WorkflowDefinition.expanded (definition : WorkflowDefinition)
    (contracts : OrderedMap ActionRef ActionContract)
    : WorkflowDefinition :=
  { definition with edges := (definition.allEdges contracts).keys }

/-- What compilation makes of a definition. -/
def WorkflowDefinition.compiled (definition : WorkflowDefinition)
    (contracts : OrderedMap ActionRef ActionContract)
    : WorkflowDefinition :=
  { definition.expanded contracts with
    nodes := definition.nodes.insertionSort (fun left right => left.nodeId ≤ right.nodeId) }

namespace CompiledWorkflow

/-- The guarantees of a compiled workflow. -/
structure Sound (graph : CompiledWorkflow) : Prop where
  unique : (graph.definition.nodes.map WorkflowNode.nodeId).Nodup
  ordered : graph.order.Nodup
  listed : ∀ nodeId, nodeId ∈ graph.order ↔ ∃ node, graph.node nodeId = some node
  small : graph.order.length ≤ maxNodes
  contract : ∀ nodeId node, graph.node nodeId = some node
    → ∃ contract, graph.contracts.get? node.action = some contract
      ∧ ∀ field binding, (field, binding) ∈ node.inputs.entries
        → ∃ spec, contract.inputs.get? field = some spec
          ∧ match binding with
            | .literal value => spec.valueType.accepts value = true
            | .output source output =>
              source ∈ graph.predecessors nodeId
              ∧ ∃ sourceNode sourceContract outputSpec,
                  graph.node source = some sourceNode
                  ∧ graph.contracts.get? sourceNode.action = some sourceContract
                  ∧ sourceContract.outputs.get? output = some outputSpec
                  ∧ outputSpec.required = true
                  ∧ spec.valueType.acceptsType outputSpec.valueType = true
  earlier : ∀ before nodeId after, graph.order = before ++ nodeId :: after
    → ∀ source ∈ graph.predecessors nodeId, source ∈ before

section

variable {sha256 : String → String} {definition : WorkflowDefinition}
  {contracts : List ActionContract} {graph : CompiledWorkflow}

/-- Everything that a successful compilation has checked and computed. -/
theorem parse_ok
    : parse sha256 definition contracts = .ok graph
      ↔ definition.validateDraft = .ok ()
        ∧ definition.nodes ≠ []
        ∧ definition.issues (contractMap contracts) = []
        ∧ topologicalOrder (isReady (definition.allEdges (contractMap contracts)).keys)
            definition.nodeMap.keys
          = some graph.order
        ∧ graph = {
            source := definition
            definition := definition.compiled (contractMap contracts)
            contracts := contractMap contracts
            order := graph.order
            digest := sha256 (definition.compiled (contractMap contracts)).json
          } := by
  simp only [parse, seq_ok, rejectIf_ok, mapError_ok, not_not]
  refine and_congr_right' (and_congr_right' (and_congr_right' ?_))
  cases topologicalOrder (isReady (definition.allEdges (contractMap contracts)).keys)
      definition.nodeMap.keys with
  | none => simp [throw_ok]
  | some order =>
    obtain ⟨source, compiled, contracts, graphOrder, digest⟩ := graph
    simp only [pure_ok, Option.some.injEq, mk.injEq]
    grind [WorkflowDefinition.compiled, WorkflowDefinition.expanded]

theorem node_mem (found : graph.node nodeId = some node)
    : node ∈ graph.definition.nodes ∧ node.nodeId = nodeId := by
  unfold CompiledWorkflow.node at found
  exact ⟨mem_of_find?_eq_some found, by simpa using find?_some found⟩

theorem node_of_mem (unique : (graph.definition.nodes.map WorkflowNode.nodeId).Nodup)
    (member : node ∈ graph.definition.nodes)
    : graph.node node.nodeId = some node := by
  obtain ⟨found, present⟩ : ∃ found, graph.node node.nodeId = some found := by
    refine Option.isSome_iff_exists.mp ?_
    simp only [CompiledWorkflow.node, find?_isSome]
    exact ⟨node, member, by simp⟩
  obtain ⟨listed, same⟩ := node_mem present
  rw [present, inj_on_of_nodup_map unique listed member same]

theorem mem_predecessors {source : String}
    : source ∈ graph.predecessors nodeId ↔ ⟨source, nodeId⟩ ∈ graph.definition.edges := by
  simp only [predecessors, mem_map, mem_filter, beq_iff_eq]
  constructor
  · rintro ⟨⟨_, _⟩, ⟨member, rfl⟩, rfl⟩
    exact member
  · intro member
    exact ⟨_, ⟨member, rfl⟩, rfl⟩

/-- A ready node has no edge from a node that remains. -/
theorem isReady_iff {edges : List WorkflowEdge} {remaining : List String}
    : isReady edges remaining nodeId = true
      ↔ ∀ other ∈ remaining, ¬⟨other, nodeId⟩ ∈ edges := by
  simp only [isReady, Bool.not_eq_true', any_eq_false, Bool.and_eq_true, beq_iff_eq,
    contains_iff_mem, not_and]
  constructor
  · intro ready other remains isEdge
    exact ready _ isEdge rfl remains
  · rintro free ⟨source, _⟩ isEdge rfl remains
    exact free source remains isEdge

/-- A search among the nodes by id finds what the compiler's map holds. -/
theorem node_eq_nodeMap (unique : (definition.nodes.map WorkflowNode.nodeId).Nodup)
    (perm : graph.definition.nodes.Perm definition.nodes) (nodeId : String)
    : graph.node nodeId = definition.nodeMap.get? nodeId := by
  have compiledUnique : (graph.definition.nodes.map WorkflowNode.nodeId).Nodup :=
    (perm.map _).nodup_iff.mpr unique
  apply Option.ext
  intro node
  constructor
  · intro found
    obtain ⟨member, rfl⟩ := node_mem found
    exact nodeMap_of_mem unique (perm.mem_iff.mp member)
  · intro found
    obtain ⟨member, rfl⟩ := mem_of_nodeMap found
    exact node_of_mem compiledUnique (perm.mem_iff.mpr member)

/-- Compilation establishes every guarantee. -/
theorem parse_sound (parsed : parse sha256 definition contracts = .ok graph) : graph.Sound := by
  obtain ⟨draft, _, clean, ordered, built⟩ := parse_ok.mp parsed
  have sameContracts : graph.contracts = contractMap contracts := by rw [built]
  have sameEdges : graph.definition.edges
      = (definition.allEdges (contractMap contracts)).keys := by rw [built]; rfl
  have perm : graph.definition.nodes.Perm definition.nodes := by
    rw [built]
    exact perm_insertionSort _ _
  obtain ⟨unique, small⟩ := WorkflowDefinition.validateDraft_ok draft
  have lookup := node_eq_nodeMap unique perm
  have orderPerm := topologicalOrder_perm ordered
  obtain ⟨typed, _⟩ := issues_nil.mp clean
  refine {
    unique := (perm.map _).nodup_iff.mpr unique
    ordered := orderPerm.nodup_iff.mpr (OrderedMap.keys_nodup _)
    listed := ?_
    small := ?_
    contract := ?_
    earlier := ?_
  }
  · intro nodeId
    rw [orderPerm.mem_iff, OrderedMap.mem_keys, lookup, Option.isSome_iff_exists]
  · have subset : definition.nodeMap.keys ⊆ definition.nodes.map WorkflowNode.nodeId := by
      intro nodeId member
      exact mem_map.mpr (mem_nodeMap_keys.mp member)
    have bound := (subperm_of_subset (OrderedMap.keys_nodup _) subset).length_le
    rw [orderPerm.length_eq]
    exact bound.trans (by simpa using small)
  · intro nodeId node found
    have member := (mem_of_nodeMap (lookup nodeId ▸ found)).1
    obtain ⟨contract, contracted, _, inputs⟩ := typed.nodes node member
    rw [sameContracts]
    refine ⟨contract, contracted, ?_⟩
    intro field binding input
    have bound := OrderedMap.get?_eq_some.mpr input
    obtain ⟨spec, specified, sound, _⟩ := inputs field binding bound
    refine ⟨spec, specified, ?_⟩
    cases binding with
    | literal value => exact sound
    | output source output =>
      obtain ⟨outputSpec, named, required, accepts⟩ := sound
      simp only [outputContract, Option.bind_eq_some_iff] at named
      obtain ⟨sourceContract, ⟨sourceNode, present, agreed⟩, specifiedOutput⟩ := named
      refine ⟨?_, sourceNode, sourceContract, outputSpec, ?_, agreed, specifiedOutput,
        required, accepts⟩
      · rw [mem_predecessors, sameEdges, mem_allEdges_keys, ← (node_mem found).2]
        refine Or.inl ⟨node, member, ?_⟩
        rw [impliedEdges_typed (typed.nodes node member), mem_outputEdges]
        exact ⟨rfl, field, output, bound⟩
      · rw [lookup, present]
  · intro before nodeId after split source member
    have edge := mem_predecessors.mp member
    rw [sameEdges] at edge
    exact topologicalOrder_respects ordered split (fun _ _ => isReady_iff.mp)
      (allEdges_ends typed edge).1 edge

end

end CompiledWorkflow

end Dure.Orchestration
