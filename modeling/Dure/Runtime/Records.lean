import Dure.Checkout.Identity

/-! Durable records of the domain store that a runtime replacement refers to, with the checks
that every stored copy of them has passed.
-/

namespace Dure.Runtime

open Library Check
open Checkout (OperationId validOperationId)

def maxPathBytes : Nat := 16 * 1024
def maxLabelBytes : Nat := 512
def maxTokenBytes : Nat := 160

def i64Max : Int := 2 ^ 63 - 1

/-- The domain store's errors that the runtime authority answers with. -/
inductive StoreError where
  | invalidRecord (field reason : String)
  | invalidEventStream (reason : String)
  | notFound (entity id : String)
  | identityConflict (entity id reason : String)
  | idempotencyConflict (reason : String)
  | revisionConflict (agentId : String) (expected : Int) (actual : Option Int)
  deriving DecidableEq, Repr

abbrev Result := Except StoreError

abbrev Validation := Result Unit

def invalid (field reason : String) : StoreError := .invalidRecord field reason

def validatePath (field value : String) : Validation :=
  rejectIf (value = "" ∨ value.utf8ByteSize > maxPathBytes ∨ '\x00' ∈ value.toList)
    (invalid field "must be a non-empty bounded path without NUL bytes")

def validateLabel (field value : String) : Validation :=
  rejectIf
    (value = "" ∨ value.utf8ByteSize > maxLabelBytes
      ∨ value.toList.any Orchestration.isControl)
    (invalid field "must be non-empty, bounded, and free of control characters")

def isTokenCharacter (character : Char) : Bool :=
  Orchestration.isAsciiAlphanumeric character || ['.', '_', ':', '-', '/'].contains character

def validateToken (field value : String) : Validation :=
  rejectIf
    (value = "" ∨ value.utf8ByteSize > maxTokenBytes ∨ ¬value.toList.all isTokenCharacter)
    (invalid field "must be a bounded non-secret identifier token")

def positive (field : String) (value : Int) : Validation :=
  rejectIf (value < 1) (invalid field "must be positive")

def timestamp (field : String) (value : Int) : Validation :=
  rejectIf (value < 0) (invalid field "must not be negative")

def validateTimestamps (createdAtMs updatedAtMs : Int) : Validation := do
  timestamp "createdAtMs" createdAtMs
  timestamp "updatedAtMs" updatedAtMs
  rejectIf (updatedAtMs < createdAtMs) (invalid "updatedAtMs" "must not precede createdAtMs")

/-- Addition of one in the signed 64-bit integers, with the overflow reported. -/
def checkedAddOne (value : Int) (overflow : StoreError) : Result Int :=
  if value = i64Max then throw overflow else pure (value + 1)

/-- Addition of one in the signed 64-bit integers as an optimised build computes it. -/
def wrappingAddOne (value : Int) : Int :=
  if value = i64Max then -i64Max - 1 else value + 1

variable {value : Int} {field : String} {u : Unit}

theorem checkedAddOne_ok
    : checkedAddOne value overflow = .ok next ↔ value ≠ i64Max ∧ value + 1 = next := by
  unfold checkedAddOne
  split
  · rename_i full
    simp [full]
  · rename_i room
    simp [room]

theorem wrappingAddOne_below (below : value < i64Max)
    : wrappingAddOne value = value + 1 :=
  if_neg (ne_of_lt below)

@[simp]
theorem positive_ok
    : positive field value = .ok u ↔ 1 ≤ value := by
  simp [positive]

@[simp]
theorem timestamp_ok
    : timestamp field value = .ok u ↔ 0 ≤ value := by
  simp [timestamp]

inductive IdKind where
  | agent
  | provider
  | project
  | workspace
  | runtimeKind
  | interactionSession
  | timelineEpoch
  deriving DecidableEq, Repr

/-- A durable id: its text was checked where it was built or decoded. -/
@[ext] structure DomainId (kind : IdKind) where
  value : String
  valid : validOperationId value = true

instance : DecidableEq (DomainId kind) := fun _ _ => decidable_of_iff _ DomainId.ext_iff.symm

abbrev AgentId := DomainId .agent
abbrev ProviderId := DomainId .provider
abbrev ProjectId := DomainId .project
abbrev WorkspaceId := DomainId .workspace
abbrev RuntimeKindId := DomainId .runtimeKind
abbrev InteractionSessionId := DomainId .interactionSession
abbrev TimelineEpoch := DomainId .timelineEpoch

structure ProjectRecord where
  projectId : ProjectId
  rootPath : String
  displayName : String
  createdAtMs : Int
  updatedAtMs : Int
  deriving DecidableEq

def ProjectRecord.validate (project : ProjectRecord) : Validation := do
  validatePath "rootPath" project.rootPath
  validateLabel "displayName" project.displayName
  validateTimestamps project.createdAtMs project.updatedAtMs

structure WorkspaceRecord where
  workspaceId : WorkspaceId
  projectId : ProjectId
  rootPath : String
  baseCommitSha : Option String
  createdAtMs : Int
  updatedAtMs : Int
  deriving DecidableEq

def WorkspaceRecord.validate (workspace : WorkspaceRecord) : Validation := do
  validatePath "rootPath" workspace.rootPath
  whenSome workspace.baseCommitSha (validateToken "baseCommitSha")
  validateTimestamps workspace.createdAtMs workspace.updatedAtMs

structure AgentRecord where
  agentId : AgentId
  workspaceId : WorkspaceId
  providerId : ProviderId
  displayName : String
  createdAtMs : Int
  updatedAtMs : Int
  deriving DecidableEq

def AgentRecord.validate (agent : AgentRecord) : Validation := do
  validateLabel "displayName" agent.displayName
  validateTimestamps agent.createdAtMs agent.updatedAtMs

structure SessionBindingRecord where
  agentId : AgentId
  runtimeKindId : RuntimeKindId
  sessionId : String
  providerConversationId : Option String
  credentialReferenceId : Option String
  bindingGeneration : Int
  boundAtMs : Int
  deriving DecidableEq

def SessionBindingRecord.validate (binding : SessionBindingRecord) : Validation := do
  validateToken "sessionId" binding.sessionId
  whenSome binding.providerConversationId (validateToken "providerConversationId")
  whenSome binding.credentialReferenceId (validateToken "credentialReferenceId")
  positive "bindingGeneration" binding.bindingGeneration
  timestamp "boundAtMs" binding.boundAtMs

def checkpointSchemaVersion : Nat := 1

/-- The exact native runtime of an agent: its session binding and the process generation
behind it.
-/
structure CheckpointAuthority where
  schemaVersion : Nat
  binding : SessionBindingRecord
  runtimeWorkspaceId : String
  runnerPrincipal : String
  runnerInstance : String
  channelEpoch : String
  hostInstanceId : String
  terminalEpoch : String
  updatedAtMs : Int
  deriving DecidableEq

def CheckpointAuthority.validate (authority : CheckpointAuthority) : Validation := do
  rejectIf (authority.schemaVersion ≠ checkpointSchemaVersion)
    (invalid "schemaVersion" "unsupported checkpoint binding authority schema")
  authority.binding.validate
  validateToken "runtimeWorkspaceId" authority.runtimeWorkspaceId
  validateToken "runnerPrincipal" authority.runnerPrincipal
  validateToken "runnerInstance" authority.runnerInstance
  validateToken "channelEpoch" authority.channelEpoch
  validateToken "hostInstanceId" authority.hostInstanceId
  validateToken "terminalEpoch" authority.terminalEpoch
  timestamp "updatedAtMs" authority.updatedAtMs

inductive InteractionProfile where
  | nativeCli
  | structuredProtocol
  deriving DecidableEq, Repr

inductive ExecutionProfile where
  | providerDefault
  | credentialReference (referenceId : String) (credentialGeneration : Option String)
  deriving DecidableEq, Repr

def ExecutionProfile.validate : ExecutionProfile → Validation
  | .providerDefault => pure ()
  | .credentialReference referenceId credentialGeneration => do
      validateToken "executionProfile.referenceId" referenceId
      whenSome credentialGeneration (validateToken "executionProfile.credentialGeneration")

/-- A credential reference whose generation is not claimed. -/
def ExecutionProfile.unclaimed : ExecutionProfile → Bool
  | .credentialReference _ none => true
  | _ => false

structure RuntimeFence where
  runtimeGeneration : String
  providerEpoch : String
  deriving DecidableEq, Repr

def RuntimeFence.validate (fence : RuntimeFence) : Validation := do
  validateToken "runtimeGeneration" fence.runtimeGeneration
  validateToken "providerEpoch" fence.providerEpoch

def timelineSchemaVersion : Nat := 1

structure InteractionBinding where
  schemaVersion : Nat
  interactionSessionId : InteractionSessionId
  agentId : AgentId
  providerId : ProviderId
  executionProfile : ExecutionProfile
  providerConversationRef : Option String
  runtime : RuntimeFence
  timelineEpoch : TimelineEpoch
  bindingRevision : Int
  historyComplete : Bool
  createdAtMs : Int
  updatedAtMs : Int
  deriving DecidableEq

/-- The timeline's own check of a time. -/
def nonNegative (field : String) (value : Int) : Validation :=
  rejectIf (value < 0) (invalid field "must be non-negative")

def InteractionBinding.validate (binding : InteractionBinding) : Validation := do
  rejectIf (binding.schemaVersion ≠ timelineSchemaVersion)
    (invalid "schemaVersion" "unsupported Agent timeline schema")
  binding.executionProfile.validate
  whenSome binding.providerConversationRef (validateToken "providerConversationRef")
  binding.runtime.validate
  positive "bindingRevision" binding.bindingRevision
  nonNegative "createdAtMs" binding.createdAtMs
  nonNegative "updatedAtMs" binding.updatedAtMs
  rejectIf (binding.updatedAtMs < binding.createdAtMs)
    (invalid "updatedAtMs" "must not precede createdAtMs")

inductive CheckoutOwner where
  | managed (workspaceId sessionId idempotencyKey : String)
  | standalone (workspaceId sessionId recoveryId : String)
  | recovery (recoveryId : String)
  | agent (agentId : AgentId) (registrationId : OperationId)
  deriving DecidableEq

def CheckoutOwner.isAgent (agentId : AgentId) : CheckoutOwner → Bool
  | .agent owner _ => owner = agentId
  | _ => false

/-- A retained checkout. The registration of the Git checkout itself is not read here. -/
structure CheckoutBinding where
  claimId : OperationId
  runtimeNamespace : String
  owner : CheckoutOwner
  workingDirectory : String
  deriving DecidableEq

end Dure.Runtime
