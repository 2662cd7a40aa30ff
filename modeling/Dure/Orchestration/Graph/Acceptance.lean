import Mathlib
import Dure.Orchestration.Graph.Recompile

/-! Which definitions compile, and what a compiled workflow keeps of the way its definition
was written down.
-/

namespace Dure.Orchestration

open Library Check List OrderedMap CompiledWorkflow

/-- The target needs the source to have finished. -/
def WorkflowDefinition.DependsOn (definition : WorkflowDefinition) (source target : String)
    : Prop :=
  ⟨source, target⟩ ∈ definition.dependencies

namespace CompiledWorkflow

section

variable {sha256 : String → String} {definition : WorkflowDefinition}
  {contracts : List ActionContract} {graph : CompiledWorkflow}

theorem isReady_typed (typed : definition.WellTyped (contractMap contracts))
    (others : List String) (nodeId : String)
    : isReady (definition.allEdges (contractMap contracts)).keys others nodeId = true
      ↔ ∀ other ∈ others, ¬definition.DependsOn other nodeId := by
  simp only [isReady_iff, mem_allEdges_typed typed, WorkflowDefinition.DependsOn]

theorem allEdges_length (typed : definition.WellTyped (contractMap contracts))
    : (definition.allEdges (contractMap contracts)).keys.length
      = definition.dependencies.card := by
  rw [← toFinset_card_of_nodup (keys_nodup _)]
  congr 1
  ext edge
  rw [mem_toFinset, mem_allEdges_typed typed]

theorem nodeMap_keys_perm (unique : (definition.nodes.map WorkflowNode.nodeId).Nodup)
    : definition.nodeMap.keys.Perm (definition.nodes.map WorkflowNode.nodeId) := by
  rw [perm_ext_iff_of_nodup (keys_nodup _) unique]
  intro nodeId
  rw [mem_nodeMap_keys, mem_map]

/-- A draft with nodes compiles exactly when it is well typed, has few enough dependencies
and none of its nodes depends on itself. Its order then takes, again and again, the least
remaining node that depends on no remaining one. -/
theorem parse_accepts_typed_acyclic (draft : definition.validateDraft = .ok ())
    (nonempty : definition.nodes ≠ [])
    : ((∃ graph, parse sha256 definition contracts = .ok graph)
        ↔ definition.WellTyped (contractMap contracts)
          ∧ definition.dependencies.card ≤ maxEdges
          ∧ ∀ nodeId, ¬Relation.TransGen definition.DependsOn nodeId nodeId)
      ∧ ∀ graph, parse sha256 definition contracts = .ok graph
        → graph.order.Perm (definition.nodes.map WorkflowNode.nodeId)
          ∧ ∀ before nodeId after, graph.order = before ++ nodeId :: after
            → IsLeast
              { other | other ∈ nodeId :: after
                ∧ ∀ source ∈ nodeId :: after, ¬definition.DependsOn source other }
              nodeId := by
  have unique := (WorkflowDefinition.validateDraft_ok draft).1
  constructor
  · have accepts (typed : definition.WellTyped (contractMap contracts))
        := topologicalOrder_iff_acyclic (isReady_typed typed)
          (fun depends => allEdges_ends typed ((mem_allEdges_typed typed).mpr depends))
    constructor
    · rintro ⟨graph, parsed⟩
      obtain ⟨_, _, clean, ordered, _⟩ := parse_ok.mp parsed
      obtain ⟨typed, few⟩ := issues_nil.mp clean
      exact ⟨typed, allEdges_length typed ▸ few, (accepts typed).mp ⟨_, ordered⟩⟩
    · rintro ⟨typed, few, acyclic⟩
      obtain ⟨order, ordered⟩ := (accepts typed).mpr acyclic
      have clean := issues_nil.mpr ⟨typed, (allEdges_length typed).trans_le few⟩
      exact ⟨⟨definition, _, _, order, _⟩,
        parse_ok.mpr ⟨draft, nonempty, clean, ordered, rfl⟩⟩
  · intro graph parsed
    obtain ⟨_, _, clean, ordered, _⟩ := parse_ok.mp parsed
    obtain ⟨typed, _⟩ := issues_nil.mp clean
    refine ⟨(topologicalOrder_perm ordered).trans (nodeMap_keys_perm unique), ?_⟩
    intro before nodeId after split
    refine ⟨⟨mem_cons_self, ?_⟩, ?_⟩
    · intro source remains depends
      have ends := allEdges_ends typed ((mem_allEdges_typed typed).mpr depends)
      have earlier := topologicalOrder_respects ordered split
        (fun _ _ => (isReady_typed typed _ _).mp) ends.1 depends
      have once : (before ++ nodeId :: after).Nodup :=
        split ▸ (topologicalOrder_perm ordered).nodup_iff.mpr (keys_nodup _)
      exact disjoint_of_nodup_append once earlier remains
    · rintro other ⟨later, free⟩
      refine topologicalOrder_least ordered split le_refl
        (pairwise_map.mpr (definition.nodeMap.sorted.imp le_of_lt)) later ?_
      intro others perm
      exact (isReady_typed typed _ _).mpr (fun source remains =>
        free source (perm.mem_iff.mp remains))

/-- Sorting by node id forgets the order of nodes with different ids. -/
theorem sorted_nodes_eq {left right : List WorkflowNode}
    (unique : (left.map WorkflowNode.nodeId).Nodup) (perm : right.Perm left)
    : left.insertionSort (fun left right => left.nodeId ≤ right.nodeId)
      = right.insertionSort (fun left right => left.nodeId ≤ right.nodeId) := by
  have total : Std.Total (fun left right : WorkflowNode => left.nodeId ≤ right.nodeId) :=
    ⟨fun left right => le_total left.nodeId right.nodeId⟩
  have trans : IsTrans WorkflowNode (fun left right => left.nodeId ≤ right.nodeId) :=
    ⟨fun _ _ _ => le_trans⟩
  refine List.Perm.eq_of_pairwise ?_ (pairwise_insertionSort _ left)
    (pairwise_insertionSort _ right)
    (((perm_insertionSort _ left).trans perm.symm).trans
      (perm_insertionSort _ right).symm)
  intro first second isFirst isSecond below above
  exact inj_on_of_nodup_map unique ((mem_insertionSort _).mp isFirst)
    (perm.mem_iff.mp ((mem_insertionSort _).mp isSecond)) (le_antisymm below above)

/-- What a definition compiles to depends on its nodes and on their dependencies, not on how
they are listed. -/
theorem presentation_forgotten {left right : WorkflowDefinition} {compiled other : CompiledWorkflow}
    (sameNodes : ∀ node, node ∈ left.nodes ↔ node ∈ right.nodes)
    (sameEdges : left.dependencies = right.dependencies)
    (parsed : parse sha256 left contracts = .ok compiled)
    (parsedOther : parse sha256 right contracts = .ok other)
    : compiled.definition = other.definition
      ∧ compiled.order = other.order
      ∧ compiled.digest = other.digest := by
  obtain ⟨draft, _, clean, ordered, built⟩ := parse_ok.mp parsed
  obtain ⟨draftOther, _, cleanOther, orderedOther, builtOther⟩ := parse_ok.mp parsedOther
  have unique := (WorkflowDefinition.validateDraft_ok draft).1
  have uniqueOther := (WorkflowDefinition.validateDraft_ok draftOther).1
  have perm : right.nodes.Perm left.nodes :=
    (perm_ext_iff_of_nodup uniqueOther.of_map unique.of_map).mpr
      (fun node => (sameNodes node).symm)
  have nodeMaps := nodeMap_of_perm unique perm
  have edges : left.allEdges (contractMap contracts) = right.allEdges (contractMap contracts) :=
    ext_keys (fun edge => by
      rw [mem_allEdges_typed (issues_nil.mp clean).1,
        mem_allEdges_typed (issues_nil.mp cleanOther).1, sameEdges])
  have sameDefinition : left.compiled (contractMap contracts)
      = right.compiled (contractMap contracts) := by
    have versions : left.schemaVersion = right.schemaVersion := by
      simp only [WorkflowDefinition.validateDraft, seq_ok, rejectIf_ok, not_not]
        at draft draftOther
      rw [draft.1, draftOther.1]
    simp only [WorkflowDefinition.compiled, WorkflowDefinition.expanded, edges, versions,
      sorted_nodes_eq unique perm]
  rw [edges, ← nodeMaps, orderedOther] at ordered
  rw [built, builtOther]
  exact ⟨sameDefinition, (Option.some.inj ordered).symm, by rw [sameDefinition]⟩

end

end CompiledWorkflow

namespace ExecutingWorkflow

/-- Witness: a command that waits for itself is a draft, and does not compile. -/
theorem self_loop_rejected
    : let loop := { sampleDefinition with edges := [⟨"collect", "collect"⟩] }
      loop.validateDraft = .ok ()
        ∧ ∀ graph, parse workflowSha256 loop sampleContracts ≠ .ok graph := by
  refine ⟨by decide +kernel, fun graph parsed => ?_⟩
  have accepted := (parse_accepts_typed_acyclic (by decide +kernel)
    (by decide)).1.mp ⟨graph, parsed⟩
  refine accepted.2.2 "collect" (.single ?_)
  rw [WorkflowDefinition.DependsOn]
  decide +kernel

/-- Witness: the sample compiles to the same whether its edge is left out or written twice. -/
theorem sample_presentation_forgotten
    : ∃ left right,
        CompiledWorkflow.parse workflowSha256 sampleDefinition sampleContracts = .ok left
        ∧ CompiledWorkflow.parse workflowSha256
            { sampleCompiled with edges := sampleCompiled.edges ++ sampleCompiled.edges }
            sampleContracts
          = .ok right
        ∧ left.definition = right.definition ∧ left.order = right.order
        ∧ left.digest = right.digest := by
  obtain ⟨left, parsedLeft⟩ := parsed_of_isSome sampleDefinition (by decide +kernel)
  obtain ⟨right, parsedRight⟩ := parsed_of_isSome
    { sampleCompiled with edges := sampleCompiled.edges ++ sampleCompiled.edges }
    (by decide +kernel)
  refine ⟨left, right, parsedLeft, parsedRight, ?_⟩
  refine presentation_forgotten ?_ (by decide +kernel) parsedLeft parsedRight
  simp [sampleDefinition, sampleCompiled, or_comm]

end ExecutingWorkflow

end Dure.Orchestration
