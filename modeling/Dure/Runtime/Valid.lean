import Dure.Runtime.Transition

/-! What the check of a transition record says, clause by clause. The revision is read as a
count: the shortest way to the state, the wake, the rejections of started targets, and two
steps for each repair.
-/

namespace Dure.Runtime.Transition

open Library Check
open Checkout (OperationId)

variable {digest : String → String} {record : Transition}

/-- The intent keeps the profile of its source, as a delayed target must. -/
structure Resumable (record : Transition) : Prop where
  idle : record.intent.sourceStopPolicy.requiresIdle = true
  conversation : record.intent.providerConversationRef.resumed ≠ none
  interaction : record.intent.source.interactionProfile = record.intent.targetInteractionProfile
  execution : executionPreserved record.intent = true
  launch : ¬record.intent.launchSelectionChanged
  first : record.predecessorOperationId = none

/-- No target effect has been attempted. -/
structure Waiting (record : Transition) : Prop where
  state : record.state ∈ [.admitted, .sourceRetained, .sourceStopped, .superseded]
  repair : record.lastRepairOperationId = none
  failure : record.targetFailure = none
  replacement : record.replacementAuthority = none

/-- The wake has its own id and lies within the record's times. -/
structure Woken (record : Transition) (operationId : OperationId) (requestedAtMs : Int)
    : Prop where
  stopped : record.state ≠ .admitted ∧ record.state ≠ .sourceRetained
  transition : operationId ≠ record.intent.operationId
  repair : record.lastRepairOperationId ≠ some operationId
  successor : record.supersededByOperationId ≠ some operationId
  afterCreation : record.createdAtMs ≤ requestedAtMs
  beforeUpdate : requestedAtMs ≤ record.updatedAtMs

def Activated (record : Transition) : DeferredTarget → Prop
  | .waiting => record.Waiting
  | .requested operationId requestedAtMs => record.Woken operationId requestedAtMs

theorem validateActivation_ok
    : record.validateActivation activation = .ok () ↔ record.Activated activation := by
  cases activation with
  | waiting =>
    simp only [validateActivation, rejectIf_ok, not_or, not_not, Activated]
    constructor
    · rintro ⟨state, repair, failure, replacement⟩
      exact ⟨state, repair, failure, replacement⟩
    · rintro ⟨state, repair, failure, replacement⟩
      exact ⟨state, repair, failure, replacement⟩
  | requested operationId requestedAtMs =>
    simp only [validateActivation, rejectIf_ok, not_or, not_lt, gt_iff_lt, Activated]
    constructor
    · rintro ⟨admitted, retained, transition, repair, successor, created, updated⟩
      exact ⟨⟨admitted, retained⟩, transition, Ne.symm repair, Ne.symm successor, created,
        updated⟩
    · rintro ⟨⟨admitted, retained⟩, transition, repair, successor, created, updated⟩
      exact ⟨admitted, retained, transition, Ne.symm repair, Ne.symm successor, created,
        updated⟩

theorem validateDeferred_ok
    : record.validateDeferred = .ok ()
      ↔ ∀ activation, record.deferredTarget = some activation
        → record.Resumable ∧ record.Activated activation := by
  simp only [validateDeferred, whenSome_ok, seq_ok, rejectIf_ok, not_or, not_not,
    validateActivation_ok]
  refine forall₂_congr fun activation _ => and_congr_left fun _ => ?_
  constructor
  · rintro ⟨idle, conversation, interaction, execution, launch, first⟩
    exact ⟨idle, conversation, interaction, execution, launch, first⟩
  · rintro ⟨idle, conversation, interaction, execution, launch, first⟩
    exact ⟨idle, conversation, interaction, execution, launch, first⟩

/-- The revision of a record with this many repairs behind it. -/
structure Counted (record : Transition) (repairs : Nat) : Prop where
  revision : record.journalRevision
    = record.minimumRevision + record.wakeRevision + record.postStartRejections + 2 * repairs
  repaired : record.lastRepairOperationId ≠ none ↔ 0 < repairs
  moved : 0 < record.postStartRejections → record.intent.workspaceMove ≠ none
  admitted : record.state = .admitted → record.journalRevision = 1
  retained : record.state = .sourceRetained → record.journalRevision = 2

theorem wakeRevision_nonneg (record : Transition) : 0 ≤ record.wakeRevision := by
  unfold wakeRevision
  split <;> omega

/-- The parity test says that the steps beyond the shortest way come in pairs. -/
theorem revisionParityIsValid_iff (atLeast : record.minimumRevision ≤ record.lifecycleRevision)
    (admitted : record.state = .admitted → record.journalRevision = 1)
    (retained : record.state = .sourceRetained → record.journalRevision = 2)
    : record.revisionParityIsValid = true
      ↔ (record.lifecycleRevision - record.minimumRevision) % 2 = 0 := by
  have wake := record.wakeRevision_nonneg
  have bound : record.lifecycleRevision ≤ record.journalRevision := by
    unfold lifecycleRevision
    omega
  unfold revisionParityIsValid minimumRevision at *
  cases state : record.state <;> simp only [state] at atLeast admitted retained ⊢
  case admitted =>
    have first := admitted trivial
    simp only [true_iff]
    omega
  case sourceRetained =>
    have second := retained trivial
    simp only [true_iff]
    omega
  all_goals
    split_ifs at atLeast ⊢ <;> simp only [decide_eq_true_eq] <;> omega

theorem validateHistory_ok
    : record.validateHistory = .ok () ↔ ∃ repairs, record.Counted repairs := by
  simp only [validateHistory, seq_ok, rejectIf_ok, not_or, not_and, not_not, not_lt]
  constructor
  · rintro ⟨moved, ⟨atLeast, admitted, retained⟩, parity, repaired⟩
    rw [revisionParityIsValid_iff atLeast admitted retained] at parity
    refine ⟨((record.lifecycleRevision - record.minimumRevision) / 2).toNat, ?_, ?_, moved,
      admitted, retained⟩
    · have definition : record.lifecycleRevision
          = record.journalRevision - record.wakeRevision - record.postStartRejections := rfl
      omega
    · rw [← repaired]
      omega
  · rintro ⟨repairs, revision, repaired, moved, admitted, retained⟩
    have definition : record.lifecycleRevision
        = record.journalRevision - record.wakeRevision - record.postStartRejections := rfl
    have atLeast : record.minimumRevision ≤ record.lifecycleRevision := by omega
    refine ⟨moved, ⟨atLeast, admitted, retained⟩, ?_, ?_⟩
    · rw [revisionParityIsValid_iff atLeast admitted retained]
      omega
    · rw [repaired]
      omega

/-- Target authority and failure as the state demands. -/
def Outcome (digest : String → String) (record : Transition) : Prop :=
  match record.state with
  | .admitted | .sourceRetained | .sourceStopped =>
    record.targetAuthority = none ∧ record.targetFailure = none
  | .targetStarted | .committed =>
    record.targetFailure = none
      ∧ ∃ authority, record.targetAuthority = some authority
        ∧ record.validateStarted digest authority = .ok ()
  | .repairRequired =>
    record.targetAuthority = none
      ∧ ∃ failure, record.targetFailure = some failure ∧ failure.validate = .ok ()
  | .superseded =>
    record.targetAuthority = none
      ∧ (∀ failure, record.targetFailure = some failure → failure.validate = .ok ())
      ∧ (record.targetFailure = none → record.targetIsDeferred = true)

theorem validateOutcome_ok
    : record.validateOutcome digest = .ok () ↔ record.Outcome digest := by
  unfold validateOutcome Outcome
  cases record.state <;> cases record.targetAuthority <;> cases record.targetFailure <;> simp

def Succession (record : Transition) : Prop :=
  match record.supersededByOperationId with
  | some operationId =>
    record.state = .superseded ∧ operationId ≠ record.intent.operationId
  | none => record.state ≠ .superseded

theorem validateSuccession_ok
    : record.validateSuccession = .ok () ↔ record.Succession := by
  unfold validateSuccession Succession
  cases record.state <;> cases record.supersededByOperationId <;> simp

/-- A replacement authority that belongs to the transition and whose effect is pending. -/
structure Replaceable (record : Transition) (authority : BindingAuthority) : Prop where
  identity : authority.validateForTransitionIdentity record.intent.source.agentId
    record.intent.source.providerId record.intent.providerConversationRef = .ok ()
  state : record.state ∈ [.sourceStopped, .repairRequired, .superseded]
  pending : record.state = .sourceStopped → record.lastRepairOperationId = none
    → record.predecessorOperationId ≠ none

theorem validateReplacement_ok
    : record.validateReplacement authority = .ok () ↔ record.Replaceable authority := by
  simp only [validateReplacement, seq_ok, rejectIf_ok, not_or, not_and, not_not]
  exact ⟨fun passed => ⟨passed.1, passed.2.1, passed.2.2⟩,
    fun replaceable => ⟨replaceable.identity, replaceable.state, replaceable.pending⟩⟩

/-- The structured workspaces of a workspace move. -/
structure Moved (record : Transition) (movement : WorkspaceMove) : Prop where
  target : record.intent.targetInteractionProfile = .structuredProtocol
    → record.state = .targetStarted ∨ record.state = .committed
    → record.targetWorkspace = some movement.targetWorkspace
  replacement : Structured record.replacementAuthority
    → record.replacementWorkspace = some movement.targetWorkspace

theorem validateMovement_ok
    : record.validateMovement movement = .ok () ↔ record.Moved movement := by
  simp only [validateMovement, seq_ok, rejectIf_ok, not_and, not_not]
  exact ⟨fun passed => ⟨passed.1, passed.2⟩, fun moved => ⟨moved.target, moved.replacement⟩⟩

/-- The clauses of the check, in its order. -/
structure Valid (digest : String → String) (record : Transition) : Prop where
  schema : record.schemaVersion = transitionSchemaVersion
  deferred : ∀ activation, record.deferredTarget = some activation
    → record.Resumable ∧ record.Activated activation
  intent : record.intent.validateForSourceBoundary
    (record.predecessorOperationId.isSome || record.deferredTarget.isSome) = .ok ()
  created : 0 ≤ record.createdAtMs
  requested : record.createdAtMs = record.intent.requestedAtMs
  ordered : record.createdAtMs ≤ record.updatedAtMs
  positive : 1 ≤ record.journalRevision
  history : ∃ repairs, record.Counted repairs
  start : record.state = .admitted → ¬record.isSuccessor
  targetPlacement : ∀ workspace, record.targetWorkspace = some workspace
    → workspace.validate = .ok () ∧ Structured record.targetAuthority
  replacementPlacement : ∀ workspace, record.replacementWorkspace = some workspace
    → workspace.validate = .ok () ∧ Structured record.replacementAuthority
  movement : ∀ movement, record.intent.workspaceMove = some movement → record.Moved movement
  replacement : ∀ authority, record.replacementAuthority = some authority
    → record.Replaceable authority
  ids : ¬record.IdsCollide
  launchKey : ∀ key, record.targetLaunchIdempotencyKey = some key
    → validateToken "targetLaunchIdempotencyKey" key = .ok ()
  outcome : record.Outcome digest
  launched : record.state ∉ [.targetStarted, .committed]
    → record.targetLaunchIdempotencyKey = none
  succession : record.Succession

/-- The check accepts exactly the valid records. -/
theorem validate_ok : record.validate digest = .ok () ↔ record.Valid digest := by
  simp only [validate, seq_ok, rejectIf_ok, whenSome_ok, validateTargetPlacement,
    validateReplacementPlacement, validateDeferred_ok, validateHistory_ok,
    validateMovement_ok, validateReplacement_ok, validateOutcome_ok, validateSuccession_ok,
    positive_ok, timestamp_ok, not_or, not_and, not_not, not_lt]
  constructor
  · rintro ⟨schema, deferred, intent, created, -, ⟨requested, ordered⟩, positive, history, start,
      targetPlacement, replacementPlacement, movement, replacement, ids, launchKey, outcome,
      launched, succession⟩
    exact ⟨schema, deferred, intent, created, requested, ordered, positive, history, start,
      targetPlacement, replacementPlacement, movement, replacement, ids, launchKey, outcome,
      launched, succession⟩
  · intro valid
    exact ⟨valid.schema, valid.deferred, valid.intent, valid.created,
      valid.created.trans valid.ordered, ⟨valid.requested, valid.ordered⟩, valid.positive,
      valid.history, valid.start, valid.targetPlacement, valid.replacementPlacement,
      valid.movement, valid.replacement, valid.ids, valid.launchKey, valid.outcome,
      valid.launched, valid.succession⟩

namespace Valid

section

variable (valid : record.Valid digest)
include valid

/-- A record that waits for its wake has no target attempt behind it. -/
theorem waiting (deferred : record.targetIsDeferred = true)
    : record.Resumable ∧ record.Waiting := by
  have present : record.deferredTarget = some .waiting := by
    simpa [targetIsDeferred] using deferred
  exact valid.deferred _ present

theorem superseded_none (state : record.state ≠ .superseded)
    : record.supersededByOperationId = none := by
  have succession := valid.succession
  unfold Succession at succession
  cases successor : record.supersededByOperationId with
  | none => rfl
  | some operationId =>
    rw [successor] at succession
    exact absurd succession.1 state

/-- Only a record that waits in a stopped or earlier state is delayed. -/
theorem not_deferred
    (state : record.state ∉ [.admitted, .sourceRetained, .sourceStopped, .superseded])
    : record.targetIsDeferred = false := by
  cases deferred : record.targetIsDeferred with
  | false => rfl
  | true => exact absurd (valid.waiting deferred).2.state state

theorem no_replacement_workspace (replacement : record.replacementAuthority = none)
    : record.replacementWorkspace = none := by
  cases placed : record.replacementWorkspace with
  | none => rfl
  | some workspace =>
    have structured := (valid.replacementPlacement workspace placed).2
    simp [Structured, replacement] at structured

end

end Valid

end Dure.Runtime.Transition
