import Dure.Runtime.Intent

/-! The journal record of one runtime replacement and the check that every stored copy of it
passes. The digest is the lower-case hexadecimal SHA-256 of a text.
-/

namespace Dure.Runtime

open Library Check
open Checkout (OperationId)

structure NativeLaunchIdentity where
  launchIdempotencyKey : String
  sessionId : String
  deriving DecidableEq, Repr

/-- The native launch that one target attempt prepares. -/
def nativeLaunchIdentity (digest : String → String) (operationId : OperationId)
    : NativeLaunchIdentity :=
  let text := digest ("dure-agent-runtime-native-target/v1\x00" ++ operationId.value)
  {
    launchIdempotencyKey := "runtime-native-launch-" ++ text
    sessionId := "runtime-native-" ++ String.ofList (text.toList.take 32)
  }

def validateNativeLaunchIdentity (digest : String → String) (operationId : OperationId)
    (sessionId launchIdempotencyKey : String)
    : Validation := do
  validateToken "targetLaunchIdempotencyKey" launchIdempotencyKey
  rejectIf
    (¬(sessionId = (nativeLaunchIdentity digest operationId).sessionId
      ↔ launchIdempotencyKey
        = (nativeLaunchIdentity digest operationId).launchIdempotencyKey))
    (invalid "targetLaunchIdempotencyKey"
      ("must remain the prepared key exactly for the prepared Session and change exactly "
        ++ "for an advanced successor Session"))

def validateRecordedNativeLaunchIdentity (digest : String → String)
    (operationId : OperationId) (sessionId : String) (launchIdempotencyKey : Option String)
    : Validation :=
  match launchIdempotencyKey with
  | some key => validateNativeLaunchIdentity digest operationId sessionId key
  | none =>
    rejectIf (sessionId ≠ (nativeLaunchIdentity digest operationId).sessionId)
      (invalid "targetLaunchIdempotencyKey"
        "is required for an advanced successor Session")

/-- Two attempts with one prepared launch are the same attempt. -/
theorem nativeLaunchIdentity_injective (injective : Function.Injective digest)
    (same : nativeLaunchIdentity digest left = nativeLaunchIdentity digest right)
    : left = right := by
  have keys := congrArg NativeLaunchIdentity.launchIdempotencyKey same
  have digests : digest _ = digest _ := String.append_right_inj _ |>.mp keys
  have texts := String.append_right_inj _ |>.mp (injective digests)
  cases left
  cases right
  simpa using texts

inductive TargetFailureKind where
  | targetInvalid
  | runtimeUnavailable
  | credentialUnavailable
  | credentialStale
  | launchFailed
  | identityMismatch
  | authorityPublishFailed
  deriving DecidableEq, Repr

structure TargetFailure where
  kind : TargetFailureKind
  providerCode : String
  deriving DecidableEq, Repr

def TargetFailure.validate (failure : TargetFailure) : Validation :=
  validateToken "providerCode" failure.providerCode

inductive TransitionState where
  | admitted
  | sourceRetained
  | sourceStopped
  | repairRequired
  | targetStarted
  | committed
  | superseded
  deriving DecidableEq, Repr

/-- A delayed target: not to be started before a wake, or woken by an operation. -/
inductive DeferredTarget where
  | waiting
  | requested (operationId : OperationId) (requestedAtMs : Int)
  deriving DecidableEq

structure Transition where
  schemaVersion : Nat
  intent : Intent
  state : TransitionState
  deferredTarget : Option DeferredTarget
  targetAuthority : Option BindingAuthority
  targetWorkspace : Option WorkspaceRecord
  targetLaunchIdempotencyKey : Option String
  replacementAuthority : Option BindingAuthority
  replacementWorkspace : Option WorkspaceRecord
  targetFailure : Option TargetFailure
  lastRepairOperationId : Option OperationId
  predecessorOperationId : Option OperationId
  supersededByOperationId : Option OperationId
  journalRevision : Int
  postStartRejections : Nat
  createdAtMs : Int
  updatedAtMs : Int
  deriving DecidableEq

namespace Transition

def targetIsDeferred (record : Transition) : Bool := record.deferredTarget = some .waiting

def isDormant (record : Transition) : Bool :=
  record.state = .sourceStopped ∧ record.targetIsDeferred

def permitsTargetEffects (record : Transition) : Bool :=
  record.state = .sourceStopped ∧ ¬record.targetIsDeferred

/-- The operation whose id the target attempt's launch is prepared from. -/
def targetAttemptOperationId (record : Transition) : OperationId :=
  record.lastRepairOperationId.getD record.intent.operationId

/-- Pinning the generation of the same native account keeps the execution profile. -/
def pinsGeneration : ExecutionProfile → ExecutionProfile → Bool
  | .credentialReference source none, .credentialReference target (some _) => source = target
  | _, _ => false

def executionPreserved (intent : Intent) : Bool :=
  intent.source.executionProfile = intent.targetExecutionProfile
    ∨ (intent.sourceAuthority.isNative
      ∧ pinsGeneration intent.source.executionProfile intent.targetExecutionProfile)

def validateActivation (record : Transition) : DeferredTarget → Validation
  | .waiting =>
    rejectIf
      (record.state ∉ [.admitted, .sourceRetained, .sourceStopped, .superseded]
        ∨ record.lastRepairOperationId ≠ none
        ∨ record.targetFailure ≠ none
        ∨ record.replacementAuthority ≠ none)
      (invalid "deferredTarget" "cannot perform target effects before an explicit wake")
  | .requested operationId requestedAtMs =>
    rejectIf
      (record.state = .admitted
        ∨ record.state = .sourceRetained
        ∨ operationId = record.intent.operationId
        ∨ some operationId = record.lastRepairOperationId
        ∨ some operationId = record.supersededByOperationId
        ∨ requestedAtMs < record.createdAtMs
        ∨ requestedAtMs > record.updatedAtMs)
      (invalid "deferredTarget" "wake identity or history is inconsistent")

def validateDeferred (record : Transition) : Validation :=
  whenSome record.deferredTarget (fun activation => do
    rejectIf
      (¬record.intent.sourceStopPolicy.requiresIdle
        ∨ record.intent.providerConversationRef.resumed = none
        ∨ record.intent.source.interactionProfile ≠ record.intent.targetInteractionProfile
        ∨ ¬executionPreserved record.intent
        ∨ record.intent.launchSelectionChanged
        ∨ record.predecessorOperationId ≠ none)
      (invalid "deferredTarget" "must preserve the exact resumable source profile")
    record.validateActivation activation)

def isSuccessor (record : Transition) : Bool := record.predecessorOperationId.isSome

def wakeRevision (record : Transition) : Int :=
  match record.deferredTarget with
  | some (.requested _ _) => 1
  | _ => 0

/-- A dormant record that a native resume replaced: it never had a target attempt. -/
def dormantSuccessor (record : Transition) : Bool :=
  record.state = .superseded ∧ record.targetIsDeferred

def minimumRevision (record : Transition) : Int :=
  match record.state with
  | .admitted => 1
  | .sourceRetained => 2
  | .sourceStopped => if record.isSuccessor then 1 else 2
  | .repairRequired | .targetStarted => if record.isSuccessor then 2 else 3
  | .committed => if record.isSuccessor then 3 else 4
  | .superseded =>
    if record.dormantSuccessor then 3 else if record.isSuccessor then 3 else 4

def lifecycleRevision (record : Transition) : Int :=
  record.journalRevision - record.wakeRevision - record.postStartRejections

def revisionParityIsValid (record : Transition) : Bool :=
  let successor : Int := if record.isSuccessor then 1 else 0
  match record.state with
  | .admitted | .sourceRetained => true
  | .superseded =>
    if record.dormantSuccessor then record.lifecycleRevision % 2 = 1
    else record.lifecycleRevision % 2 = successor
  | .sourceStopped | .committed => record.lifecycleRevision % 2 = successor
  | .repairRequired | .targetStarted => record.lifecycleRevision % 2 ≠ successor

def validateHistory (record : Transition) : Validation := do
  rejectIf (record.postStartRejections > 0 ∧ record.intent.workspaceMove = none)
    (invalid "postStartRejections" "requires a workspace handoff")
  rejectIf
    (record.lifecycleRevision < record.minimumRevision
      ∨ (record.state = .admitted ∧ record.journalRevision ≠ 1)
      ∨ (record.state = .sourceRetained ∧ record.journalRevision ≠ 2))
    (invalid "journalRevision" "does not match the transition history")
  rejectIf (¬record.revisionParityIsValid)
    (invalid "journalRevision" "does not match the transition history parity")
  rejectIf
    (¬(record.lifecycleRevision > record.minimumRevision
      ↔ record.lastRepairOperationId ≠ none))
    (invalid "lastRepairOperationId"
      "presence does not match the transition repair history")

def Structured (authority : Option BindingAuthority) : Prop :=
  authority.any BindingAuthority.isStructured = true

instance (authority : Option BindingAuthority) : Decidable (Structured authority) :=
  inferInstanceAs (Decidable (_ = true))

def validateTargetPlacement (record : Transition) (workspace : WorkspaceRecord)
    : Validation := do
  workspace.validate
  rejectIf (¬Structured record.targetAuthority)
    (invalid "targetWorkspace" "requires a structured target authority")

def validateReplacementPlacement (record : Transition) (workspace : WorkspaceRecord)
    : Validation := do
  workspace.validate
  rejectIf (¬Structured record.replacementAuthority)
    (invalid "replacementWorkspace" "requires an exact structured replacement authority")

def validateMovement (record : Transition) (movement : WorkspaceMove) : Validation := do
  rejectIf
    (record.intent.targetInteractionProfile = .structuredProtocol
      ∧ (record.state = .targetStarted ∨ record.state = .committed)
      ∧ record.targetWorkspace ≠ some movement.targetWorkspace)
    (invalid "targetWorkspace" "must prove the admitted structured workspace")
  rejectIf
    (Structured record.replacementAuthority
      ∧ record.replacementWorkspace ≠ some movement.targetWorkspace)
    (invalid "replacementWorkspace" "must retain the failed structured destination")

def validateReplacement (record : Transition) (authority : BindingAuthority)
    : Validation := do
  authority.validateForTransitionIdentity record.intent.source.agentId
    record.intent.source.providerId record.intent.providerConversationRef
  rejectIf
    (record.state ∉ [.sourceStopped, .repairRequired, .superseded]
      ∨ (record.state = .sourceStopped
        ∧ record.lastRepairOperationId = none
        ∧ record.predecessorOperationId = none))
    (invalid "replacementAuthority"
      "is only valid while an authorized target effect remains pending")

/-- The ids of a record that must differ do not. -/
def IdsCollide (record : Transition) : Prop :=
  record.predecessorOperationId = some record.intent.operationId
    ∨ record.lastRepairOperationId = some record.intent.operationId
    ∨ (record.lastRepairOperationId ≠ none
      ∧ record.lastRepairOperationId = record.predecessorOperationId)
    ∨ (record.lastRepairOperationId ≠ none
      ∧ record.lastRepairOperationId = record.supersededByOperationId)
    ∨ (record.predecessorOperationId ≠ none
      ∧ record.predecessorOperationId = record.supersededByOperationId)

instance (record : Transition) : Decidable record.IdsCollide :=
  inferInstanceAs (Decidable (_ ∨ _))

def validateNativeTarget (digest : String → String) (record : Transition)
    : BindingAuthority → Validation
  | .nativeCli native =>
    validateRecordedNativeLaunchIdentity digest record.targetAttemptOperationId
      native.binding.sessionId record.targetLaunchIdempotencyKey
  | .structuredProtocol _ => pure ()

def validateStarted (digest : String → String) (record : Transition)
    (authority : BindingAuthority)
    : Validation := do
  let selection ← record.intent.targetSelectionAt record.updatedAtMs
  authority.validateForTransitionTarget selection record.intent.providerConversationRef
  rejectIf (authority.isStructured ∧ record.targetLaunchIdempotencyKey ≠ none)
    (invalid "targetLaunchIdempotencyKey" "is only valid for a native target")
  record.validateNativeTarget digest authority

def outcomeMismatch : StoreError :=
  invalid "targetOutcome" "authority or failure presence does not match the transition state"

def validateOutcome (digest : String → String) (record : Transition) : Validation :=
  match record.state, record.targetAuthority, record.targetFailure with
  | .admitted, none, none | .sourceRetained, none, none | .sourceStopped, none, none =>
    pure ()
  | .targetStarted, some authority, none | .committed, some authority, none =>
    record.validateStarted digest authority
  | .repairRequired, none, some failure | .superseded, none, some failure =>
    failure.validate
  | .superseded, none, none => rejectIf (¬record.targetIsDeferred) outcomeMismatch
  | _, _, _ => throw outcomeMismatch

def validateSuccession (record : Transition) : Validation :=
  match record.state, record.supersededByOperationId with
  | .superseded, some operationId =>
    rejectIf (operationId = record.intent.operationId)
      (invalid "supersededByOperationId"
        "a superseded transition must identify a distinct successor")
  | .superseded, none =>
    throw (invalid "supersededByOperationId"
      "a superseded transition must identify a distinct successor")
  | _, none => pure ()
  | _, some _ =>
    throw (invalid "supersededByOperationId" "is only valid for a superseded transition")

def validate (digest : String → String) (record : Transition) : Validation := do
  rejectIf (record.schemaVersion ≠ transitionSchemaVersion)
    (invalid "schemaVersion" "unsupported runtime transition record schema")
  record.validateDeferred
  record.intent.validateForSourceBoundary
    (record.predecessorOperationId.isSome || record.deferredTarget.isSome)
  timestamp "createdAtMs" record.createdAtMs
  timestamp "updatedAtMs" record.updatedAtMs
  rejectIf
    (record.createdAtMs ≠ record.intent.requestedAtMs
      ∨ record.updatedAtMs < record.createdAtMs)
    (invalid "updatedAtMs" "transition timestamps are inconsistent")
  positive "journalRevision" record.journalRevision
  record.validateHistory
  rejectIf (record.state = .admitted ∧ record.isSuccessor)
    (invalid "predecessorOperationId" "a successor starts after the stopped-source boundary")
  whenSome record.targetWorkspace record.validateTargetPlacement
  whenSome record.replacementWorkspace record.validateReplacementPlacement
  whenSome record.intent.workspaceMove record.validateMovement
  whenSome record.replacementAuthority record.validateReplacement
  rejectIf record.IdsCollide
    (invalid "operationId"
      "transition, predecessor, and repair operations must be distinct")
  whenSome record.targetLaunchIdempotencyKey (validateToken "targetLaunchIdempotencyKey")
  record.validateOutcome digest
  rejectIf
    (record.state ∉ [.targetStarted, .committed] ∧ record.targetLaunchIdempotencyKey ≠ none)
    (invalid "targetLaunchIdempotencyKey" "is only valid after the target starts")
  record.validateSuccession

def admittedWithActivation (digest : String → String) (intent : Intent)
    (deferredTarget : Option DeferredTarget)
    : Result Transition := do
  let record : Transition :=
    {
      schemaVersion := transitionSchemaVersion
      intent
      state := .admitted
      deferredTarget
      targetAuthority := none
      targetWorkspace := none
      targetLaunchIdempotencyKey := none
      replacementAuthority := none
      replacementWorkspace := none
      targetFailure := none
      lastRepairOperationId := none
      predecessorOperationId := none
      supersededByOperationId := none
      journalRevision := 1
      postStartRejections := 0
      createdAtMs := intent.requestedAtMs
      updatedAtMs := intent.requestedAtMs
    }
  record.validate digest
  pure record

def admitted (digest : String → String) (intent : Intent) : Result Transition :=
  admittedWithActivation digest intent none

def admittedDeferred (digest : String → String) (intent : Intent) : Result Transition :=
  admittedWithActivation digest intent (some .waiting)

/-- The record of an attempt whose source another operation has already stopped. -/
def successorRecord (intent : Intent) (predecessorOperationId : OperationId)
    (replacementAuthority : Option BindingAuthority)
    (replacementWorkspace : Option WorkspaceRecord)
    : Transition :=
  {
    schemaVersion := transitionSchemaVersion
    intent
    state := .sourceStopped
    deferredTarget := none
    targetAuthority := none
    targetWorkspace := none
    targetLaunchIdempotencyKey := none
    replacementAuthority
    replacementWorkspace
    targetFailure := none
    lastRepairOperationId := none
    predecessorOperationId := some predecessorOperationId
    supersededByOperationId := none
    journalRevision := 1
    postStartRejections := 0
    createdAtMs := intent.requestedAtMs
    updatedAtMs := intent.requestedAtMs
  }

def successorAfterStoppedSource (digest : String → String) (intent : Intent)
    (predecessorOperationId : OperationId) (replacementAuthority : Option BindingAuthority)
    (replacementWorkspace : Option WorkspaceRecord)
    : Result Transition := do
  intent.validateAfterStoppedSource
  rejectIf (intent.operationId = predecessorOperationId)
    (invalid "predecessorOperationId" "must differ from the successor operation")
  let record :=
    successorRecord intent predecessorOperationId replacementAuthority replacementWorkspace
  record.validate digest
  pure record

def afterStoppedSource (digest : String → String) (intent : Intent)
    (predecessorOperationId : OperationId)
    : Result Transition :=
  successorAfterStoppedSource digest intent predecessorOperationId none none

end Transition

end Dure.Runtime
