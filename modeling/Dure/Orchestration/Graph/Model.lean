import Mathlib
import Dure.Library.JsonValue
import Dure.Library.OrderedMap
import Dure.Orchestration.Domain.References

/-! Workflow definitions: nodes that run actions, their typed inputs, and the edges between
them. A draft is checked for its structure only.
-/

namespace Dure.Orchestration

open Library Check

def maxNodes : Nat := 64
def maxEdges : Nat := 256
def maxValueBytes : Nat := 64 * 1024
def maxDefinitionBytes : Nat := 128 * 1024

structure ActionRef where
  actionId : String
  version : Nat
  deriving DecidableEq, Repr

/-- References are ordered by their id, then by their version. -/
instance : LinearOrder ActionRef :=
  LinearOrder.lift' (fun action => toLex (action.actionId, action.version)) (by
    rintro ⟨_, _⟩ ⟨_, _⟩ same
    simpa using same)

structure WorkflowEdge where
  source : String
  target : String
  deriving DecidableEq, Repr

/-- Edges are ordered by their source, then by their target. -/
instance : LinearOrder WorkflowEdge :=
  LinearOrder.lift' (fun edge => toLex (edge.source, edge.target)) (by
    rintro ⟨_, _⟩ ⟨_, _⟩ same
    simpa using same)

inductive InputBinding where
  | literal (value : JsonValue)
  | output (nodeId field : String)
  deriving DecidableEq

structure WorkflowNode where
  nodeId : String
  name : String
  action : ActionRef
  inputs : OrderedMap String InputBinding
  deriving DecidableEq

structure WorkflowDefinition where
  schemaVersion : Nat
  nodes : List WorkflowNode
  edges : List WorkflowEdge
  deriving DecidableEq

inductive FieldType where
  | string
  | number
  | boolean
  | json
  deriving DecidableEq, Repr

def FieldType.accepts : FieldType → JsonValue → Bool
  | .string, .string _ => true
  | .number, .number _ => true
  | .boolean, .boolean _ => true
  | .json, _ => true
  | _, _ => false

/-- A field of this type takes every value of the `source` type. -/
def FieldType.acceptsType (type source : FieldType) : Bool :=
  type == .json || type == source

structure FieldContract where
  valueType : FieldType
  required : Bool
  acceptsOutput : Bool
  deriving DecidableEq, Repr

structure ActionContract where
  action : ActionRef
  inputs : OrderedMap String FieldContract
  outputs : OrderedMap String FieldContract
  deriving DecidableEq

structure GraphIssue where
  code : String
  nodeId : Option String
  field : Option String
  deriving DecidableEq, Repr

/-- An issue of the whole request. -/
def issue (code : String) : GraphIssue := ⟨code, none, none⟩

def ActionRef.json (action : ActionRef) : String :=
  JsonText.object [
    ("actionId", JsonText.string action.actionId),
    ("version", toString action.version)
  ]

def InputBinding.json : InputBinding → String
  | .literal value => JsonText.object [("kind", JsonText.string "literal"), ("value", value.text)]
  | .output nodeId field =>
    JsonText.object [
      ("kind", JsonText.string "output"),
      ("nodeId", JsonText.string nodeId),
      ("field", JsonText.string field)
    ]

def WorkflowNode.json (node : WorkflowNode) : String :=
  JsonText.object [
    ("nodeId", JsonText.string node.nodeId),
    ("name", JsonText.string node.name),
    ("action", node.action.json),
    ("inputs",
      JsonText.object (node.inputs.entries.map (fun (field, binding) => (field, binding.json))))
  ]

def WorkflowEdge.json (edge : WorkflowEdge) : String :=
  JsonText.object [
    ("source", JsonText.string edge.source),
    ("target", JsonText.string edge.target)
  ]

def WorkflowDefinition.json (definition : WorkflowDefinition) : String :=
  JsonText.object [
    ("schemaVersion", toString definition.schemaVersion),
    ("nodes", JsonText.array (definition.nodes.map WorkflowNode.json)),
    ("edges", JsonText.array (definition.edges.map WorkflowEdge.json))
  ]

def validId (value : String) : Bool :=
  value != "" && value.utf8ByteSize ≤ 128
    && value.toList.all (fun character =>
      isAsciiAlphanumeric character || ['.', '_', '-'].contains character)

/-- The characters with the Unicode property White_Space. -/
def isWhitespace (character : Char) : Bool :=
  let code := character.toNat
  (9 ≤ code && code ≤ 13) || code == 32 || code == 0x85 || code == 0xa0 || code == 0x1680
    || (0x2000 ≤ code && code ≤ 0x200a) || code == 0x2028 || code == 0x2029 || code == 0x202f
    || code == 0x205f || code == 0x3000

/-- Display names are not blank, at most 256 bytes long and free of control characters. -/
def validName (name : String) : Bool :=
  !name.toList.all isWhitespace && name.utf8ByteSize ≤ 256 && !name.toList.any isControl

def InputBinding.isValid : InputBinding → Bool
  | .literal value => value.text.utf8ByteSize ≤ maxValueBytes
  | .output nodeId field => validId nodeId && validId field

/-- The checks of one node after its id was found valid and new. -/
def WorkflowNode.validateDraft (node : WorkflowNode) : Except GraphIssue Unit := do
  rejectIf (¬validName node.name) ⟨"node_name_invalid", some node.nodeId, none⟩
  rejectIf
    (¬validId node.action.actionId ∨ node.action.version = 0 ∨ node.inputs.entries.length > 32)
    ⟨"action_invalid", some node.nodeId, none⟩
  each
    (fun (field, binding) =>
      rejectIf (¬(validId field && binding.isValid))
        ⟨"input_invalid", some node.nodeId, some field⟩)
    node.inputs.entries

/-- The loop over the nodes with the set of the ids seen so far. -/
def validateDraftNodes : List String → List WorkflowNode → Except GraphIssue Unit
  | _, [] => pure ()
  | identifiers, node :: rest => do
      rejectIf (¬validId node.nodeId ∨ node.nodeId ∈ identifiers)
        ⟨"node_id_invalid", some node.nodeId, none⟩
      node.validateDraft
      validateDraftNodes (node.nodeId :: identifiers) rest

/-- Drafts may contain unresolved mappings. Structural bounds still apply before
persistence; activation performs contract and dependency checks. -/
def WorkflowDefinition.validateDraft (definition : WorkflowDefinition)
    : Except GraphIssue Unit := do
  rejectIf (definition.schemaVersion ≠ 1) (issue "schema_unsupported")
  rejectIf (definition.nodes.length > maxNodes ∨ definition.edges.length > maxEdges)
    (issue "graph_too_large")
  rejectIf (definition.json.utf8ByteSize > maxDefinitionBytes) (issue "graph_too_large")
  validateDraftNodes [] definition.nodes
  rejectIf
    (definition.edges.any (fun edge => !validId edge.source || !validId edge.target))
    (issue "edge_invalid")

/-- A value of a type is a value of every type that accepts it. -/
theorem FieldType.accepts_of_acceptsType {type source : FieldType}
    (wider : type.acceptsType source = true) (accepted : source.accepts value = true)
    : type.accepts value = true := by
  simp only [FieldType.acceptsType, Bool.or_eq_true, beq_iff_eq] at wider
  rcases wider with rfl | rfl
  · cases value <;> rfl
  · exact accepted

/-- Each node passes by itself and no node id repeats, by induction with the seen ids
generalised. -/
theorem validateDraftNodes_ok
    : validateDraftNodes identifiers nodes = .ok u
      ↔ (∀ node ∈ nodes, validId node.nodeId = true ∧ node.validateDraft = .ok ())
        ∧ (nodes.map WorkflowNode.nodeId).Nodup
        ∧ ∀ node ∈ nodes, node.nodeId ∉ identifiers := by
  induction nodes generalizing identifiers with
  | nil => simp [validateDraftNodes, pure_ok]
  | cons node rest ih =>
    simp only [validateDraftNodes, seq_ok, rejectIf_ok, not_or, not_not, ih,
      List.map_cons, List.nodup_cons, List.mem_map, List.mem_cons]
    grind

theorem WorkflowDefinition.validateDraft_ok {definition : WorkflowDefinition}
    (passed : definition.validateDraft = .ok u)
    : (definition.nodes.map WorkflowNode.nodeId).Nodup
      ∧ definition.nodes.length ≤ maxNodes := by
  simp only [WorkflowDefinition.validateDraft, seq_ok, rejectIf_ok, not_or, not_lt] at passed
  obtain ⟨_, ⟨size, _⟩, _, nodes, _⟩ := passed
  exact ⟨(validateDraftNodes_ok.mp nodes).2.1, size⟩

end Dure.Orchestration
