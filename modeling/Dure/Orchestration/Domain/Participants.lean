import Dure.Orchestration.Domain.References

/-! Worker endpoints, their fences and the audiences that may read an interaction. -/

namespace Dure.Orchestration

open Library.Check

structure IntegrationCapabilityReceipt where
  installRootRef : InstallRootRef
  version : IntegrationVersion
  digest : Sha256Digest
  channel : IntegrationChannel
  capabilities : List CapabilityRef
  deriving DecidableEq, Repr

def IntegrationCapabilityReceipt.validate (receipt : IntegrationCapabilityReceipt)
    : Validation := do
  receipt.installRootRef.validate
  receipt.version.validate
  receipt.digest.validate
  receipt.channel.validate
  validateUniqueBounded "integrationReceipt.capabilities" receipt.capabilities
    maxCapabilitiesPerParticipant BoundedReference.validate
  rejectIf (receipt.capabilities = [])
    (invalid "integrationReceipt.capabilities" "size_out_of_bounds")

structure WorkerEndpoint where
  endpointRef : WorkerEndpointRef
  participant : ParticipantRef
  sessionIdentity : SessionIdentityRef
  generation : Generation
  deliveryCapability : CapabilityRef
  acknowledgementCapability : CapabilityRef
  wakeCapability : Option CapabilityRef
  integrationReceipt : IntegrationCapabilityReceipt
  deriving DecidableEq, Repr

def WorkerEndpoint.validate (endpoint : WorkerEndpoint) : Validation := do
  endpoint.endpointRef.validate
  endpoint.participant.validate
  endpoint.sessionIdentity.validate
  endpoint.generation.validate
  endpoint.deliveryCapability.validate
  endpoint.acknowledgementCapability.validate
  whenSome endpoint.wakeCapability BoundedReference.validate
  endpoint.integrationReceipt.validate
  rejectIf
    (¬endpoint.integrationReceipt.capabilities.any (·.value == "event_cursor_v1")
      ∨ ¬endpoint.integrationReceipt.capabilities.any
          (·.value == "idempotent_delivery_receipt_v1"))
    (invalid "workerEndpoint.integrationReceipt" "capability_missing")

structure WorkerEndpointFence where
  endpointRef : WorkerEndpointRef
  sessionIdentity : SessionIdentityRef
  generation : Generation
  deliveryCapability : CapabilityRef
  acknowledgementCapability : CapabilityRef
  deriving DecidableEq, Repr

def WorkerEndpointFence.validate (fence : WorkerEndpointFence) : Validation := do
  fence.endpointRef.validate
  fence.sessionIdentity.validate
  fence.generation.validate
  fence.deliveryCapability.validate
  fence.acknowledgementCapability.validate

def WorkerEndpointFence.matchesEndpoint (fence : WorkerEndpointFence)
    (endpoint : WorkerEndpoint)
    : Bool :=
  fence.endpointRef == endpoint.endpointRef
    && fence.sessionIdentity == endpoint.sessionIdentity
    && fence.generation == endpoint.generation
    && fence.deliveryCapability == endpoint.deliveryCapability
    && fence.acknowledgementCapability == endpoint.acknowledgementCapability

structure AudienceGrant where
  membershipRef : MembershipRef
  participant : ParticipantRef
  roles : List RoleRef
  capabilities : List CapabilityRef
  deliveryCapability : CapabilityRef
  deriving DecidableEq, Repr

def AudienceGrant.grants (grant : AudienceGrant) (capability : CapabilityRef) : Bool :=
  grant.capabilities.contains capability

def AudienceGrant.validate (grant : AudienceGrant) (author : ParticipantRef)
    : Validation := do
  grant.membershipRef.validate
  grant.participant.validate
  validateUniqueBounded "audience.roles" grant.roles maxRolesPerParticipant
    BoundedReference.validate
  validateUniqueBounded "audience.capabilities" grant.capabilities
    maxCapabilitiesPerParticipant BoundedReference.validate
  grant.deliveryCapability.validate
  rejectIf (¬grant.grants grant.deliveryCapability)
    (invalid "audience.deliveryCapability" "capability_missing")
  rejectIf (grant.participant ≠ author ∧ grant.roles = [])
    (invalid "audience.roles" "membership_role_required")

structure Audience where
  grants : List AudienceGrant
  deriving DecidableEq, Repr

def Audience.validate (audience : Audience) (author : ParticipantRef) : Validation := do
  rejectIf (audience.grants = [] ∨ audience.grants.length > maxAudienceMembers)
    (invalid "audience" "size_out_of_bounds")
  distinct AudienceGrant.participant (·.validate author)
    (invalid "audience" "duplicate_participant") (fun _ => pure ()) [] audience.grants

def Audience.grantFor (audience : Audience) (participant : ParticipantRef)
    : Option AudienceGrant :=
  audience.grants.find? (·.participant == participant)

/-- A valid audience names valid, pairwise distinct participants with valid inboxes. -/
theorem Audience.validate_ok {audience : Audience}
    : audience.validate author = .ok ()
      ↔ (audience.grants ≠ [] ∧ audience.grants.length ≤ maxAudienceMembers)
        ∧ (∀ grant ∈ audience.grants, grant.validate author = .ok ())
        ∧ (audience.grants.map AudienceGrant.participant).Nodup := by
  simp [Audience.validate, distinct_ok, not_or]

theorem AudienceGrant.valid_parts {grant : AudienceGrant}
    (valid : grant.validate author = .ok ())
    : grant.participant.validate = .ok () ∧ grant.deliveryCapability.validate = .ok () := by
  simp only [AudienceGrant.validate, seq_ok] at valid
  exact ⟨valid.2.1, valid.2.2.2.2.1⟩

/-- The parts of a valid worker endpoint that its deliveries repeat. -/
theorem WorkerEndpoint.valid_parts {endpoint : WorkerEndpoint}
    (valid : endpoint.validate = .ok ())
    : endpoint.endpointRef.validate = .ok ()
      ∧ endpoint.participant.validate = .ok ()
      ∧ endpoint.sessionIdentity.validate = .ok ()
      ∧ endpoint.generation.validate = .ok ()
      ∧ endpoint.deliveryCapability.validate = .ok ()
      ∧ ∀ capability, endpoint.wakeCapability = some capability
          → capability.validate = .ok () := by
  simp only [WorkerEndpoint.validate, seq_ok, whenSome_ok] at valid
  exact ⟨valid.1, valid.2.1, valid.2.2.1, valid.2.2.2.1, valid.2.2.2.2.1,
    valid.2.2.2.2.2.2.1⟩

end Dure.Orchestration
