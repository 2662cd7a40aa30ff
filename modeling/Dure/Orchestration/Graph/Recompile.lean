import Dure.Orchestration.Graph.Runs

/-! Compiling a compiled definition again. Snapshots keep the compiled definition, and every
run of the workflow starts by compiling it.
-/

namespace Dure.Orchestration

open Library Check List JsonText CompiledWorkflow WorkflowDefinition

section

variable (definition : WorkflowDefinition) (contracts : OrderedMap ActionRef ActionContract)

theorem compiled_perm : (definition.compiled contracts).nodes.Perm definition.nodes :=
  perm_insertionSort _ _

/-- The order of the nodes does not change how long the text is. -/
theorem compiled_size
    : (definition.compiled contracts).json.utf8ByteSize
      = (definition.expanded contracts).json.utf8ByteSize := by
  have perm := (compiled_perm definition contracts).map WorkflowNode.json
  have nodes : (array ((definition.compiled contracts).nodes.map
      WorkflowNode.json)).utf8ByteSize
      = (array (definition.nodes.map WorkflowNode.json)).utf8ByteSize := by
    rw [size_array, size_array, perm.length_eq, (perm.map _).sum_nat]
  simp only [json, object, map_cons, map_nil,
    separated, String.utf8ByteSize_append, nodes]
  rfl

end

section

variable {definition : WorkflowDefinition} {contracts : OrderedMap ActionRef ActionContract}
  (unique : (definition.nodes.map WorkflowNode.nodeId).Nodup)
include unique

theorem compiled_nodeMap
    : (definition.compiled contracts).nodeMap = definition.nodeMap :=
  nodeMap_of_perm unique (compiled_perm definition contracts)

theorem compiled_allEdges
    : (definition.compiled contracts).allEdges contracts = definition.allEdges contracts := by
  have perm := compiled_perm definition contracts
  have given : (definition.compiled contracts).edges = (definition.allEdges contracts).keys :=
    rfl
  refine OrderedMap.ext_keys (fun edge => ?_)
  simp only [mem_allEdges_keys, compiled_nodeMap unique, given, perm.mem_iff, or_self_left]

theorem compiled_compiled
    : (definition.compiled contracts).compiled contracts = definition.compiled contracts := by
  have total : Std.Total (fun left right : WorkflowNode => left.nodeId ≤ right.nodeId) :=
    ⟨fun left right => le_total left.nodeId right.nodeId⟩
  have trans : IsTrans WorkflowNode (fun left right => left.nodeId ≤ right.nodeId) :=
    ⟨fun _ _ _ => le_trans⟩
  have nodes : ((definition.compiled contracts).compiled contracts).nodes
      = (definition.compiled contracts).nodes :=
    (pairwise_insertionSort _ definition.nodes).insertionSort_eq
  have edges : ((definition.compiled contracts).compiled contracts).edges
      = (definition.compiled contracts).edges :=
    congrArg OrderedMap.keys (compiled_allEdges unique)
  exact WorkflowDefinition.mk.injEq .. ▸ ⟨rfl, nodes, edges⟩

variable (clean : definition.issues contracts = [])
include clean

theorem compiled_issues : (definition.compiled contracts).issues contracts = [] := by
  obtain ⟨typed, small⟩ := issues_nil.mp clean
  refine issues_nil.mpr ⟨⟨?_, ?_⟩, by rwa [compiled_allEdges unique]⟩
  · intro edge member
    rw [compiled_nodeMap unique]
    exact allEdges_ends typed member
  · intro node member
    rw [compiled_nodeMap unique]
    exact typed.nodes node ((compiled_perm definition contracts).mem_iff.mp member)

/-- Every check of a draft but that of its size passes again. -/
theorem compiled_validateDraft (draft : definition.validateDraft = .ok ())
    : (definition.compiled contracts).validateDraft = .ok ()
      ↔ (definition.expanded contracts).json.utf8ByteSize ≤ maxDefinitionBytes := by
  have perm := compiled_perm definition contracts
  obtain ⟨typed, small⟩ := issues_nil.mp clean
  rw [← compiled_size]
  simp only [validateDraft, seq_ok, rejectIf_ok, not_or, not_lt,
    validateDraftNodes_ok, Bool.not_eq_true, any_eq_false] at draft ⊢
  obtain ⟨schema, ⟨few, _⟩, _, ⟨valid, _, _⟩, _⟩ := draft
  have identified {nodeId : String} (present : nodeId ∈ definition.nodeMap.keys)
      : validId nodeId = true := by
    obtain ⟨node, member, rfl⟩ := mem_nodeMap_keys.mp present
    exact (valid node member).1
  refine ⟨fun passed => passed.2.2.1, fun size => ⟨schema, ⟨?_, small⟩, size, ⟨?_, ?_, ?_⟩, ?_⟩⟩
  · exact perm.length_eq.le.trans few
  · exact fun node member => valid node (perm.mem_iff.mp member)
  · exact (perm.map _).nodup_iff.mpr unique
  · simp
  · intro edge member
    obtain ⟨source, target⟩ := allEdges_ends typed member
    simp [identified source, identified target]

end

namespace CompiledWorkflow

/-- A compiled definition compiles again, to the same definition, order and digest, exactly
when the source still fits with the edges that its mappings imply. -/
theorem compiled_definition_fixed {sha256 : String → String} {definition : WorkflowDefinition}
    {contracts : List ActionContract} {graph : CompiledWorkflow}
    (parsed : parse sha256 definition contracts = .ok graph)
    : (∃ again, parse sha256 graph.definition contracts = .ok again
        ∧ again.definition = graph.definition
        ∧ again.order = graph.order
        ∧ again.digest = graph.digest)
      ↔ (definition.expanded (contractMap contracts)).json.utf8ByteSize
        ≤ maxDefinitionBytes := by
  obtain ⟨draft, nonempty, clean, ordered, built⟩ := parse_ok.mp parsed
  have unique := (validateDraft_ok draft).1
  have compiled : graph.definition = definition.compiled (contractMap contracts) := by
    rw [built]
  rw [← compiled_validateDraft unique clean draft, compiled]
  constructor
  · rintro ⟨again, parsedAgain, _⟩
    exact (parse_ok.mp parsedAgain).1
  · intro draftAgain
    refine ⟨{ graph with source := definition.compiled (contractMap contracts) },
      parse_ok.mpr ⟨draftAgain, ?_, compiled_issues unique clean, ?_, ?_⟩, compiled, rfl, rfl⟩
    · intro empty
      exact nonempty (perm_nil.mp (empty ▸ (compiled_perm definition _).symm))
    · rw [compiled_allEdges unique, compiled_nodeMap unique]
      exact ordered
    · rw [compiled_compiled unique]
      rw [built]

end CompiledWorkflow

namespace ExecutingWorkflow

theorem parsed_of_isSome (definition : WorkflowDefinition)
    (compiles : (CompiledWorkflow.parse workflowSha256 definition
      sampleContracts).toOption.isSome = true)
    : ∃ graph, CompiledWorkflow.parse workflowSha256 definition sampleContracts
      = .ok graph := by
  cases parsed : parse workflowSha256 definition sampleContracts with
  | error issues => simp [parsed, Except.toOption] at compiles
  | ok graph => exact ⟨graph, rfl⟩

/-- Witness: the sample workflow compiles again. -/
theorem sample_definition_fixed
    : ∃ graph, CompiledWorkflow.parse workflowSha256 sampleDefinition sampleContracts = .ok graph
        ∧ ∃ again,
          CompiledWorkflow.parse workflowSha256 graph.definition sampleContracts = .ok again
          ∧ again.definition = graph.definition
          ∧ again.order = graph.order
          ∧ again.digest = graph.digest := by
  obtain ⟨graph, parsed⟩ := parsed_of_isSome sampleDefinition (by decide +kernel)
  exact ⟨graph, parsed,
    (compiled_definition_fixed parsed).mpr (by decide +kernel)⟩

/-- A command with a script of so many letters. -/
def collectWith (nodeId : String) (length : Nat) : WorkflowNode :=
  { sampleCollect with
    nodeId
    inputs := .ofList
      [("script", .literal (.string (String.ofList (List.replicate length 'a'))))] }

theorem script_size (length : Nat)
    : (JsonText.string (String.ofList (List.replicate length 'a'))).utf8ByteSize
      = length + 2 := by
  have letter : escapedSize 'a' = 1 := rfl
  rw [size_string, String.toList_ofList]
  simp [stringSize, letter, Nat.add_comm]

theorem collectWith_size (nodeId : String) (length : Nat)
    : (collectWith nodeId length).json.utf8ByteSize
      = (collectWith nodeId 0).json.utf8ByteSize + length := by
  have entries (length : Nat) : (collectWith nodeId length).inputs.entries
      = [("script", .literal (.string (String.ofList (replicate length 'a'))))] := rfl
  simp only [WorkflowNode.json, object, entries, map_cons, map_nil,
    separated, String.utf8ByteSize_append, InputBinding.json, JsonValue.text,
    script_size]
  simp only [collectWith]
  omega

/-- Two commands and the review of the first: 128 KiB without the edge that the review
implies. -/
def wideDefinition : WorkflowDefinition :=
  { sampleDefinition with
    nodes := [sampleReview, collectWith "collect" 65534, collectWith "copied" 65060] }

theorem wide_size (edges : List WorkflowEdge)
    : ({ wideDefinition with edges } : WorkflowDefinition).json.utf8ByteSize
      = ({ sampleDefinition with
          nodes := [sampleReview, collectWith "collect" 0, collectWith "copied" 0]
          edges } : WorkflowDefinition).json.utf8ByteSize + 130594 := by
  have first := collectWith_size "collect" 65534
  have second := collectWith_size "copied" 65060
  simp only [wideDefinition, json, object, array,
    map_cons, map_nil, separated, String.utf8ByteSize_append]
  omega

/-- The wide definition compiles, and what it compiles to is too large to compile. -/
theorem wide_definition_lost
    : ∃ graph, CompiledWorkflow.parse workflowSha256 wideDefinition sampleContracts = .ok graph
        ∧ ∀ again, CompiledWorkflow.parse workflowSha256 graph.definition sampleContracts
          ≠ .ok again := by
  have collects {nodeId : String} {length : Nat} (fits : length ≤ 65534)
      : (collectWith nodeId length).validateDraft = .ok () := by
    have entries : (collectWith nodeId length).inputs.entries
        = [("script", .literal (.string (String.ofList (replicate length 'a'))))] := rfl
    simp only [WorkflowNode.validateDraft, seq_ok, rejectIf_ok, each_ok, entries,
      forall_mem_singleton]
    refine ⟨(by decide : ¬¬validName sampleCollect.name = true), ?_, ?_⟩
    · exact (by decide : ¬(¬validId "command" = true ∨ 1 = 0 ∨ 1 > 32))
    have valid : validId "script" = true := by decide
    simp only [valid, InputBinding.isValid, JsonValue.text, script_size, maxValueBytes]
    simpa using fits
  have draft : wideDefinition.validateDraft = .ok () := by
    simp only [validateDraft, seq_ok, rejectIf_ok, validateDraftNodes_ok]
    refine ⟨by decide, by decide, ?_, ⟨?_, by decide, by simp⟩, by decide⟩
    · rw [wide_size]
      decide +kernel
    · simp only [wideDefinition, forall_mem_cons]
      exact ⟨by decide +kernel, ⟨by decide, collects (by decide)⟩,
        ⟨by decide, collects (by decide)⟩, by simp⟩
  have unique := (validateDraft_ok draft).1
  have clean : wideDefinition.issues (contractMap sampleContracts) = [] := by decide +kernel
  refine ⟨⟨wideDefinition, _, _, ["collect", "copied", "review"], _⟩,
    parse_ok.mpr ⟨draft, by decide, clean, by decide +kernel, rfl⟩, ?_⟩
  intro again parsed
  have fits := (compiled_validateDraft unique clean draft).mp
    (parse_ok.mp parsed).1
  rw [expanded, wide_size] at fits
  revert fits
  decide +kernel

end ExecutingWorkflow

end Dure.Orchestration
