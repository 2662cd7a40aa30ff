import Dure.Library.TopologicalOrder
import Dure.Orchestration.Graph.Model

/-! Compiling a workflow definition: its inputs are checked against the action contracts,
the dependencies that its mappings imply become edges, and its nodes are put in an order
that respects every edge.
-/

namespace Dure.Orchestration

open Library Check

structure CompiledWorkflow where
  source : WorkflowDefinition
  definition : WorkflowDefinition
  contracts : OrderedMap ActionRef ActionContract
  order : List String
  digest : String
  deriving DecidableEq

abbrev ActionValues := OrderedMap String JsonValue

section

variable (contracts : OrderedMap ActionRef ActionContract)
  (nodes : OrderedMap String WorkflowNode)

/-- The contract of an output that a mapping names. -/
def outputContract (nodeId field : String) : Option FieldContract :=
  ((nodes.get? nodeId).bind (fun source => contracts.get? source.action)).bind
    (fun source => source.outputs.get? field)

/-- The code of what is wrong with an input, or the node whose output it needs. -/
def checkBinding (spec : FieldContract) : InputBinding → Except String (Option String)
  | .literal value =>
    if spec.valueType.accepts value then .ok none else .error "input_type_mismatch"
  | .output nodeId field =>
    if !spec.acceptsOutput then
      .error "input_requires_literal"
    else
      match outputContract contracts nodes nodeId field with
      | none => .error "output_reference_missing"
      | some output =>
        if !output.required then
          .error "output_may_be_missing"
        else if !spec.valueType.acceptsType output.valueType then
          .error "input_type_mismatch"
        else
          .ok (some nodeId)

/-- The issue of one input of a node that has a contract. -/
def inputIssue (node : WorkflowNode) (contract : ActionContract)
    (input : String × InputBinding)
    : Option GraphIssue :=
  match contract.inputs.get? input.1 with
  | none => some ⟨"input_unknown", some node.nodeId, some input.1⟩
  | some spec =>
    match checkBinding contracts nodes spec input.2 with
    | .error code => some ⟨code, some node.nodeId, some input.1⟩
    | .ok _ => none

/-- The edge that one input of a node with a contract adds. -/
def impliedEdge (node : WorkflowNode) (contract : ActionContract)
    (input : String × InputBinding)
    : Option WorkflowEdge :=
  match contract.inputs.get? input.1 with
  | none => none
  | some spec =>
    match checkBinding contracts nodes spec input.2 with
    | .error _ => none
    | .ok source => source.map (⟨·, node.nodeId⟩)

/-- The required inputs that are missing come before what is wrong with the others. -/
def nodeIssues (node : WorkflowNode) : List GraphIssue :=
  match contracts.get? node.action with
  | none => [⟨"action_unsupported", some node.nodeId, none⟩]
  | some contract =>
    contract.inputs.entries.filterMap (fun (field, spec) =>
        if spec.required && (node.inputs.get? field).isNone then
          some ⟨"input_missing", some node.nodeId, some field⟩
        else
          none)
      ++ node.inputs.entries.filterMap (inputIssue contracts nodes node contract)

def impliedEdges (node : WorkflowNode) : List WorkflowEdge :=
  match contracts.get? node.action with
  | none => []
  | some contract => node.inputs.entries.filterMap (impliedEdge contracts nodes node contract)

def edgeIssue (edge : WorkflowEdge) : Option GraphIssue :=
  if (nodes.get? edge.source).isNone || (nodes.get? edge.target).isNone then
    some ⟨"edge_node_missing", some edge.target, none⟩
  else
    none

end

def contractMap (contracts : List ActionContract) : OrderedMap ActionRef ActionContract :=
  .ofList (contracts.map (fun contract => (contract.action, contract)))

namespace WorkflowDefinition

def nodeMap (definition : WorkflowDefinition) : OrderedMap String WorkflowNode :=
  .ofList (definition.nodes.map (fun node => (node.nodeId, node)))

/-- A set of edges is a map to nothing. -/
def edgeSet (definition : WorkflowDefinition) : OrderedMap WorkflowEdge Unit :=
  .ofList (definition.edges.map (·, ()))

/-- The given edges with those that the mappings imply. -/
def allEdges (definition : WorkflowDefinition)
    (contracts : OrderedMap ActionRef ActionContract)
    : OrderedMap WorkflowEdge Unit :=
  definition.edgeSet.insertAll
    ((definition.nodes.flatMap (impliedEdges contracts definition.nodeMap)).map (·, ()))

/-- Everything that keeps the definition from being compiled, cycles apart. -/
def issues (definition : WorkflowDefinition)
    (contracts : OrderedMap ActionRef ActionContract)
    : List GraphIssue :=
  definition.edgeSet.keys.filterMap (edgeIssue definition.nodeMap)
    ++ definition.nodes.flatMap (nodeIssues contracts definition.nodeMap)
    ++ if (definition.allEdges contracts).entries.length > maxEdges then
        [issue "graph_too_large"]
      else
        []

end WorkflowDefinition

/-- A node is ready when none of its sources remains. -/
def isReady (edges : List WorkflowEdge) (remaining : List String) (nodeId : String) : Bool :=
  !edges.any (fun edge => edge.target == nodeId && remaining.contains edge.source)

namespace CompiledWorkflow

/-- Serialising a definition does not fail, so the error for that is left out. -/
def parse (sha256 : String → String) (definition : WorkflowDefinition)
    (contracts : List ActionContract)
    : Except (List GraphIssue) CompiledWorkflow := do
  definition.validateDraft.mapError ([·])
  rejectIf (definition.nodes = []) [issue "graph_empty"]
  let contracts := contractMap contracts
  let issues := definition.issues contracts
  rejectIf (issues ≠ []) issues
  let edges := (definition.allEdges contracts).keys
  match topologicalOrder (isReady edges) definition.nodeMap.keys with
  | none => throw [issue "graph_cycle"]
  | some order =>
    let compiled : WorkflowDefinition := {
      definition with
      nodes :=
        definition.nodes.insertionSort (fun left right => left.nodeId ≤ right.nodeId)
      edges := edges
    }
    pure {
      source := definition
      definition := compiled
      contracts := contracts
      order := order
      digest := sha256 compiled.json
    }

def compiledFrom (graph : CompiledWorkflow) (definition : WorkflowDefinition) : Bool :=
  graph.source == definition

def node (graph : CompiledWorkflow) (nodeId : String) : Option WorkflowNode :=
  graph.definition.nodes.find? (fun node => node.nodeId == nodeId)

def predecessors (graph : CompiledWorkflow) (nodeId : String) : List String :=
  (graph.definition.edges.filter (fun edge => edge.target == nodeId)).map WorkflowEdge.source

/-- Stands for the stop of an index expression at a missing key. No compiled graph gets
there: `parse_sound` finds every contract and every field that is indexed. -/
def indexMissing : GraphIssue := issue "index_missing"

/-- The value a binding stands for. -/
def bindingValue (outputs : OrderedMap String ActionValues) : InputBinding → Option JsonValue
  | .literal value => some value
  | .output source field => (outputs.get? source).bind (fun output => output.get? field)

/-- The loop of `resolveInputs` with the inputs collected so far. -/
def resolveEntries (contract : ActionContract) (nodeId : String)
    (outputs : OrderedMap String ActionValues)
    : List (String × InputBinding) → ActionValues → Except GraphIssue ActionValues
  | [], inputs => pure inputs
  | (field, binding) :: rest, inputs =>
    match bindingValue outputs binding with
    | none => throw ⟨"upstream_output_unavailable", some nodeId, some field⟩
    | some value =>
      match contract.inputs.get? field with
      | none => throw indexMissing
      | some spec =>
        if spec.valueType.accepts value then
          resolveEntries contract nodeId outputs rest (inputs.insert field value)
        else
          throw ⟨"input_type_mismatch", some nodeId, some field⟩

/-- Mapping preview and real admission share this pure resolver. Missing outputs are
errors; neither path runs predecessors or substitutes samples. -/
def resolveInputs (graph : CompiledWorkflow) (nodeId : String)
    (outputs : OrderedMap String ActionValues)
    : Except GraphIssue ActionValues :=
  match graph.node nodeId with
  | none => throw ⟨"node_missing", some nodeId, none⟩
  | some node =>
    match graph.contracts.get? node.action with
    | none => throw indexMissing
    | some contract => resolveEntries contract nodeId outputs node.inputs.entries .empty

def valuesText (values : ActionValues) : String :=
  JsonText.object (values.entries.map (fun (field, value) => (field, value.text)))

/-- The check of one field of the contract. -/
def validateOutput (nodeId : String) (outputs : ActionValues)
    (entry : String × FieldContract)
    : Except GraphIssue Unit :=
  match outputs.get? entry.1 with
  | none => rejectIf entry.2.required ⟨"output_missing", some nodeId, some entry.1⟩
  | some value =>
    rejectIf (¬entry.2.valueType.accepts value)
      ⟨"output_type_mismatch", some nodeId, some entry.1⟩

def validateOutputs (graph : CompiledWorkflow) (nodeId : String) (outputs : ActionValues)
    : Except GraphIssue Unit :=
  match graph.node nodeId with
  | none => throw ⟨"node_missing", some nodeId, none⟩
  | some node =>
    match graph.contracts.get? node.action with
    | none => throw indexMissing
    | some contract => do
        rejectIf ((valuesText outputs).utf8ByteSize > maxValueBytes)
          ⟨"output_too_large", some nodeId, none⟩
        each (validateOutput nodeId outputs) contract.outputs.entries
        whenSome (outputs.keys.find? (fun field => (contract.outputs.get? field).isNone))
          (fun field => throw ⟨"output_unknown", some nodeId, some field⟩)

end CompiledWorkflow

end Dure.Orchestration
