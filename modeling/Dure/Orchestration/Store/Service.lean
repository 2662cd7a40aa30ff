import Dure.Library.JsonText
import Dure.Orchestration.Store.Transitions

/-! What the service checks before it asks the store to create a run. -/

namespace Dure.Orchestration

open Library Check

inductive ServiceError where
  | invalid (field code : String)
  | notFound (resource : String)
  | idempotencyConflict
  | generationConflict
  | revisionConflict
  | capabilityDenied
  | stateConflict (code : String)
  | storageUnavailable (code : String)
  | storageCorrupt (code : String)
  deriving DecidableEq, Repr

/-- A failed check of a request is the client's error. -/
def ServiceError.ofValidation {α : Type} (result : Except ValidationError α)
    : Except ServiceError α :=
  match result with
  | .ok value => .ok value
  | .error error => .error (.invalid error.field error.code)

def AuthorityScope.json (authority : AuthorityScope) : String :=
  JsonText.object
    (("workspaceId", JsonText.string authority.workspaceId.value)
      :: (authority.tenantRef.map (fun tenant =>
          ("tenantRef", JsonText.string tenant.value))).toList)

def RunTaskSpec.json (task : RunTaskSpec) : String :=
  JsonText.object [
    ("summary", JsonText.string task.summary),
    ("instructions", JsonText.string task.instructions)
  ]

def WorkerSessionGeneration.json (session : WorkerSessionGeneration) : String :=
  JsonText.object [
    ("sessionId", JsonText.string session.sessionId.value),
    ("workspaceId", JsonText.string session.workspaceId.value),
    ("providerId", JsonText.string session.providerId.value),
    ("runnerPrincipal", JsonText.string session.runnerPrincipal.value),
    ("runnerInstance", JsonText.string session.runnerInstance.value),
    ("channelEpoch", JsonText.string session.channelEpoch.value),
    ("hostInstanceId", JsonText.string session.hostInstanceId.value),
    ("terminalEpoch", JsonText.string session.terminalEpoch.value)
  ]

def IntegrationCapabilityReceipt.json (receipt : IntegrationCapabilityReceipt) : String :=
  JsonText.object [
    ("installRootRef", JsonText.string receipt.installRootRef.value),
    ("version", JsonText.string receipt.version.value),
    ("digest", JsonText.string receipt.digest.value),
    ("channel", JsonText.string receipt.channel.value),
    ("capabilities", JsonText.array (receipt.capabilities.map (JsonText.string ·.value)))
  ]

section Hash

variable (sha256 : String → String)

/-- The fingerprint leaves out the creation time, so that a retry is the same request. -/
def createRunFingerprint (request : CreateRunRequest) : String :=
  sha256 (JsonText.array [
    toString request.schemaVersion,
    request.authority.json,
    JsonText.string request.workflowKindRef.value,
    request.task.json,
    request.session.json,
    request.integrationReceipt.json,
    JsonText.string request.runtimeRef.value,
    JsonText.string request.targetReference.value,
    JsonText.string request.idempotencyKey
  ])

def targetFromFingerprint (request : CreateRunRequest) (fingerprint : String)
    : Except ValidationError InteractionTarget := do
  let runId ← BoundedReference.new ("run." ++ fingerprint)
  let taskId ← BoundedReference.new ("task." ++ fingerprint)
  let dispatchId ← BoundedReference.new ("dispatch." ++ fingerprint)
  pure { authority := request.authority, runId, taskId, dispatchId, generation := 1 }

def workerSessionIdentity (session : WorkerSessionGeneration)
    : Except ValidationError SessionIdentityRef := do
  session.validate
  BoundedReference.new ("session-" ++ sha256 session.json)

/-- The checks of `create_run` for a request whose fingerprint is `fingerprint`. -/
def checkCreateRun (request : CreateRunRequest) (context : DispatchContextReceipt)
    (fingerprint : String)
    : Except ServiceError Unit := do
  ServiceError.ofValidation request.validate
  ServiceError.ofValidation context.validate
  let target ← ServiceError.ofValidation (targetFromFingerprint request fingerprint)
  let sessionIdentity ←
    ServiceError.ofValidation (workerSessionIdentity sha256 request.session)
  rejectIf
    (context.target ≠ target ∨ context.dispatchRevision ≠ Revision.INITIAL
      ∨ context.dispatchState ≠ .active ∨ context.successorRequired
      ∨ context.integrationReceipt ≠ request.integrationReceipt
      ∨ context.endpointFence.sessionIdentity ≠ sessionIdentity)
    (.invalid "context" "run_mismatch")

/-- The fingerprint under which the service asks the store to create the run. -/
def prepareCreateRun (request : CreateRunRequest) (context : DispatchContextReceipt)
    : Except ServiceError String := do
  let fingerprint := createRunFingerprint sha256 request
  checkCreateRun sha256 request context fingerprint
  pure fingerprint

end Hash

theorem ServiceError.ofValidation_ok
    : ServiceError.ofValidation result = .ok value ↔ result = .ok value := by
  cases result <;> simp [ServiceError.ofValidation]

variable {request : CreateRunRequest} {fingerprint : String}

theorem targetFromFingerprint_authority
    (made : targetFromFingerprint request fingerprint = .ok target)
    : target.authority = request.authority := by
  simp only [targetFromFingerprint, bind_ok, pure_ok] at made
  obtain ⟨_, _, _, _, _, _, rfl⟩ := made
  rfl

/-- A context that passes belongs to the authority of its request. -/
theorem checkCreateRun_ok (passed : checkCreateRun sha256 request context fingerprint = .ok ())
    : request.validate = .ok () ∧ context.validate = .ok ()
      ∧ context.target.authority = request.authority := by
  simp only [checkCreateRun, bind_ok, ServiceError.ofValidation_ok, rejectIf_ok, not_or,
    not_not] at passed
  obtain ⟨⟨⟩, validRequest, ⟨⟩, validContext, target, made, _, _, same, _⟩ := passed
  exact ⟨validRequest, validContext, same ▸ targetFromFingerprint_authority made⟩

end Dure.Orchestration
