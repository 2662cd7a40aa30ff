import Dure.Library.LengthPrefixed
import Dure.Orchestration.Contract.Requests

/-! The textual keys of the store. Every key is a list of parts written with their lengths,
so it determines the operation, the scope and the client's key it was made from.
-/

namespace Dure.Orchestration

open Library

def stableKey (parts : List String) : String := LengthPrefixed.encode parts

def scopeKey (authority : AuthorityScope) : String :=
  stableKey [
    if authority.tenantRef.isSome then "tenant" else "no-tenant",
    (authority.tenantRef.map BoundedReference.value).getD "",
    authority.workspaceId.value
  ]

def dispatchKey (target : InteractionTarget) : String :=
  stableKey [
    scopeKey target.authority,
    target.runId.value,
    target.taskId.value,
    target.dispatchId.value,
    toString target.generation.toNat
  ]

def operationKey (operation idempotencyKey : String) : String :=
  stableKey [operation, idempotencyKey]

def authorityOperationKey (operation : String) (authority : AuthorityScope)
    (idempotencyKey : String)
    : String :=
  operationKey (stableKey [operation, scopeKey authority]) idempotencyKey

def scopedOperationKey (operation : String) (target : InteractionTarget)
    (idempotencyKey : String)
    : String :=
  operationKey (stableKey [operation, dispatchKey target]) idempotencyKey

/-- Who acknowledges: a fenced worker endpoint, or a plain client. -/
def endpointKey (fence : Option WorkerEndpointFence) : String :=
  match fence with
  | none => "client"
  | some fence =>
    stableKey [
      fence.endpointRef.value,
      fence.sessionIdentity.value,
      toString fence.generation.toNat
    ]

def acknowledgementKey (authority : AuthorityScope) (participant : ParticipantRef)
    (fence : Option WorkerEndpointFence) (idempotencyKey : String)
    : String :=
  operationKey
    (stableKey ["ack", scopeKey authority, participant.value, endpointKey fence])
    idempotencyKey

def validDigest (value : String) : Bool := isHexDigest value

def validStoreKey (value : String) : Bool :=
  value != "" && value.utf8ByteSize ≤ 2048 && !value.toList.any isControl

theorem stableKey_inj
    : stableKey left = stableKey right ↔ left = right :=
  LengthPrefixed.encode_inj

theorem reference_ext {field : String} {left right : BoundedReference field}
    (same : left.value = right.value)
    : left = right := by
  cases left
  cases right
  simp_all

/-- A tenant scope and a scope without tenant differ in their first part. -/
theorem scopeKey_injective : Function.Injective scopeKey := by
  rintro ⟨leftWorkspace, leftTenant⟩ ⟨rightWorkspace, rightTenant⟩ same
  simp only [scopeKey, stableKey_inj, List.cons.injEq, and_true] at same
  obtain ⟨kind, tenant, workspace⟩ := same
  have workspaces := reference_ext workspace
  subst workspaces
  cases leftTenant with
  | none =>
    cases rightTenant with
    | none => rfl
    | some right => simp at kind
  | some left =>
    cases rightTenant with
    | none => simp at kind
    | some right =>
      have tenants := reference_ext (by simpa using tenant)
      rw [tenants]

theorem dispatchKey_injective : Function.Injective dispatchKey := by
  rintro ⟨leftScope, leftRun, leftTask, leftDispatch, leftGeneration⟩
    ⟨rightScope, rightRun, rightTask, rightDispatch, rightGeneration⟩ same
  simp only [dispatchKey, stableKey_inj, List.cons.injEq, and_true] at same
  obtain ⟨scope, run, task, dispatch, generation⟩ := same
  have scopes := scopeKey_injective scope
  have runs := reference_ext run
  have tasks := reference_ext task
  have dispatches := reference_ext dispatch
  have generations : leftGeneration = rightGeneration :=
    UInt64.toNat_inj.mp (LengthPrefixed.natToString_injective generation)
  subst scopes runs tasks dispatches generations
  rfl

theorem scopedOperationKey_inj
    : scopedOperationKey operation target key = scopedOperationKey operation' target' key'
      ↔ operation = operation' ∧ target = target' ∧ key = key' := by
  simp only [scopedOperationKey, operationKey, stableKey_inj, List.cons.injEq, and_true,
    and_assoc, dispatchKey_injective.eq_iff]

/-- A scope key has three parts and a dispatch key five. -/
theorem scopeKey_ne_dispatchKey (authority : AuthorityScope) (target : InteractionTarget)
    : scopeKey authority ≠ dispatchKey target := by
  intro same
  simp [scopeKey, dispatchKey, stableKey_inj] at same

end Dure.Orchestration
