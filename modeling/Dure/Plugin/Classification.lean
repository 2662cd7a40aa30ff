import Dure.Plugin.Records

/-! What a native mutation did, told from the states before and after it, and how a
checkpoint is reconciled with what is observed after a crash.
-/

namespace Dure.Plugin

open Library Check

inductive CommandHostFailure where
  | spawn
  | outputCapture
  | processWait
  | cleanup
  deriving DecidableEq, Repr

inductive CommandOutcome where
  | succeeded
  | exitedNonzero (exitCode : Option Int)
  | timedOut
  | hostFailed (stage : CommandHostFailure)
  deriving DecidableEq, Repr

inductive EffectDisposition where
  | createdDureOwned
  | removedDureOwned
  | preservedDureOwned
  | preservedExternal
  | noChange
  deriving DecidableEq, Repr

def EffectDisposition.requiresCompensation : EffectDisposition → Bool
  | .createdDureOwned | .removedDureOwned => true
  | .preservedDureOwned | .preservedExternal | .noChange => false

inductive StepReconciliation where
  | notApplied
  | applied (disposition : EffectDisposition)
  | diverged
  deriving DecidableEq, Repr

structure StepCheckpoint where
  stepIndex : Nat
  attempt : Nat
  before : StateObservation
  outcome : Option CommandOutcome
  after : Option StateObservation
  deriving DecidableEq

inductive ExistingOwnership where
  | dureOwned
  | unproven
  deriving DecidableEq, Repr

inductive TransitionError where
  | readOnlyCommand
  | collateralStateChanged
  | unexpectedPostState
  | existingStateWouldBeOverwritten
  | ownershipRequired
  | destructiveDataRemoval
  | dependentStateConflict
  deriving DecidableEq, Repr

def TransitionError.message : TransitionError → String
  | .readOnlyCommand => "native plugin transition requires a mutation command"
  | .collateralStateChanged =>
    "native plugin mutation changed state outside its owned component"
  | .unexpectedPostState => "native plugin mutation did not produce its exact expected state"
  | .existingStateWouldBeOverwritten =>
    "native plugin mutation would overwrite unrecognized existing state"
  | .ownershipRequired => "native plugin removal requires durable Dure ownership evidence"
  | .destructiveDataRemoval =>
    "native plugin removal must preserve provider-owned plugin data"
  | .dependentStateConflict => "native plugin mutation conflicts with dependent target state"

inductive ReconciliationError where
  | invalidCheckpointObservation
  | invalidObservedState
  | missingSuccessfulObservation
  | unexpectedCheckpointOutcome
  deriving DecidableEq, Repr

def isExpectedMarketplace (scope : InstallScope) : MarketplaceState → Bool
  | .registered _ true actualScope => actualScope == scope
  | _ => false

def isExpectedInstallation (version : Version) (scope : InstallScope)
    : InstallationState → Bool
  | .installed actualVersion true actualScope =>
    actualVersion == version && actualScope == scope
  | _ => false

def requireUnchangedMarketplace (before after : TargetState) : Except TransitionError Unit :=
  rejectIf (before.marketplace ≠ after.marketplace) .collateralStateChanged

def requireUnchangedInstallation (before after : TargetState) : Except TransitionError Unit :=
  rejectIf (before.installation ≠ after.installation) .collateralStateChanged

def requireExpectedMarketplace (state : MarketplaceState) (scope : InstallScope)
    : Except TransitionError Unit :=
  rejectIf (isExpectedMarketplace scope state = false) .unexpectedPostState

def requireExpectedInstallation (state : InstallationState) (version : Version)
    (scope : InstallScope)
    : Except TransitionError Unit :=
  rejectIf (isExpectedInstallation version scope state = false) .unexpectedPostState

def classifyAdd {α : Type} [DecidableEq α] (before after absent : α)
    (existingOwnership : ExistingOwnership)
    : Except TransitionError EffectDisposition :=
  if before = absent then
    pure .createdDureOwned
  else if before = after then
    match existingOwnership with
    | .dureOwned => pure .preservedDureOwned
    | .unproven => pure .preservedExternal
  else
    throw .existingStateWouldBeOverwritten

def classifyRemove {α : Type} [DecidableEq α] (before absent : α) (isExpected : α → Bool)
    (existingOwnership : ExistingOwnership)
    : Except TransitionError EffectDisposition :=
  if before = absent then
    pure .noChange
  else do
    rejectIf (isExpected before = false) .existingStateWouldBeOverwritten
    rejectIf (existingOwnership ≠ .dureOwned) .ownershipRequired
    pure .removedDureOwned

def classifyMutation (command : Command) (expectedVersion : Version)
    (existingOwnership : ExistingOwnership) (before after : TargetState)
    : Except TransitionError EffectDisposition :=
  match command with
  | .addMarketplace _ scope _ => do
      requireUnchangedInstallation before after
      requireExpectedMarketplace after.marketplace scope
      let disposition ←
        classifyAdd before.marketplace after.marketplace .absent existingOwnership
      rejectIf (disposition = .createdDureOwned ∧ after.installation ≠ .absent)
        .dependentStateConflict
      pure disposition
  | .installPlugin _ scope _ => do
      requireUnchangedMarketplace before after
      (requireExpectedMarketplace after.marketplace scope).mapError
        (fun _ => .dependentStateConflict)
      requireExpectedInstallation after.installation expectedVersion scope
      classifyAdd before.installation after.installation .absent existingOwnership
  | .removeMarketplace _ scope _ => do
      requireUnchangedInstallation before after
      rejectIf (after.installation ≠ .absent) .dependentStateConflict
      rejectIf (after.marketplace ≠ .absent) .unexpectedPostState
      classifyRemove before.marketplace .absent (isExpectedMarketplace scope)
        existingOwnership
  | .removePlugin _ scope preserveData _ => do
      rejectIf (preserveData = false) .destructiveDataRemoval
      requireUnchangedMarketplace before after
      rejectIf (after.installation ≠ .absent) .unexpectedPostState
      classifyRemove before.installation .absent (isExpectedInstallation expectedVersion scope)
        existingOwnership
  | .listMarketplaces _ => throw .readOnlyCommand
  | .listPlugins _ _ _ => throw .readOnlyCommand

/-- What a disposition says about a mutation: whose the component was, and whether it was
changed.
-/
inductive Classified (command : Command) (existingOwnership : ExistingOwnership)
    (before after : TargetState) : EffectDisposition → Prop
  | created (adds : command.isRemoval = false) (changed : before ≠ after)
    : Classified command existingOwnership before after .createdDureOwned
  | preservedOwned (adds : command.isRemoval = false)
    (owned : existingOwnership = .dureOwned) (same : before = after)
    : Classified command existingOwnership before after .preservedDureOwned
  | preservedExternal (adds : command.isRemoval = false)
    (foreign : existingOwnership = .unproven) (same : before = after)
    : Classified command existingOwnership before after .preservedExternal
  | removed (removes : command.isRemoval = true)
    (owned : existingOwnership = .dureOwned) (changed : before ≠ after)
    : Classified command existingOwnership before after .removedDureOwned
  | unchanged (removes : command.isRemoval = true) (same : before = after)
    : Classified command existingOwnership before after .noChange

variable {existingOwnership : ExistingOwnership} {disposition : EffectDisposition}
  {command : Command} {α : Type}

section Component

variable [DecidableEq α] (component : TargetState → α) {absent : α} {before after : TargetState}
  (rest : component before = component after → before = after)
include rest

theorem Classified.added (adds : command.isRemoval = false) (present : component after ≠ absent)
    (classified : classifyAdd (component before) (component after) absent existingOwnership
      = .ok disposition)
    : Classified command existingOwnership before after disposition := by
  unfold classifyAdd at classified
  split at classified
  · rename_i missing
    cases classified
    exact .created adds fun same => present (same ▸ missing)
  · split at classified
    · rename_i same
      cases existingOwnership <;> cases classified
      · exact .preservedOwned adds rfl (rest same)
      · exact .preservedExternal adds rfl (rest same)
    · cases classified

theorem Classified.taken (removes : command.isRemoval = true) (gone : component after = absent)
    (classified : classifyRemove (component before) absent isExpected existingOwnership
      = .ok disposition)
    : Classified command existingOwnership before after disposition := by
  unfold classifyRemove at classified
  split at classified
  · rename_i missing
    cases classified
    exact .unchanged removes (rest (missing.trans gone.symm))
  · rename_i present
    simp only [seq_ok, rejectIf_ok, pure_ok, not_not] at classified
    obtain ⟨_, owned, rfl⟩ := classified
    exact .removed removes owned fun same => present (same ▸ gone)

end Component

/-- Witness: one case per mutation; the component that the command is not about is unchanged,
so the states are equal exactly when the component is.
-/
theorem classifyMutation_ok
    (classified
      : classifyMutation command version existingOwnership before after = .ok disposition)
    : Classified command existingOwnership before after disposition := by
  obtain ⟨beforeMarketplace, beforeInstallation⟩ := before
  obtain ⟨afterMarketplace, afterInstallation⟩ := after
  cases command with
  | listMarketplaces | listPlugins => cases classified
  | addMarketplace source scope output =>
    unfold classifyMutation requireUnchangedInstallation requireExpectedMarketplace
      at classified
    simp only [↓seq_ok, bind_ok, rejectIf_ok, pure_ok, ne_eq, not_not] at classified
    obtain ⟨rfl, expected, added, adds, _, rfl⟩ := classified
    refine .added TargetState.marketplace (congrArg (TargetState.mk · _)) rfl ?_ adds
    rintro rfl
    exact expected rfl
  | installPlugin selector scope output =>
    unfold classifyMutation requireUnchangedMarketplace requireExpectedMarketplace
      requireExpectedInstallation at classified
    simp only [↓seq_ok, rejectIf_ok, mapError_ok, ne_eq, not_not] at classified
    obtain ⟨rfl, _, expected, adds⟩ := classified
    refine .added TargetState.installation (congrArg (TargetState.mk _ ·)) rfl ?_ adds
    rintro rfl
    exact expected rfl
  | removeMarketplace marketplace scope output =>
    unfold classifyMutation requireUnchangedInstallation at classified
    simp only [↓seq_ok, rejectIf_ok, ne_eq, not_not] at classified
    obtain ⟨rfl, _, gone, removes⟩ := classified
    exact .taken TargetState.marketplace (congrArg (TargetState.mk · _)) rfl gone removes
  | removePlugin selector scope preserveData output =>
    unfold classifyMutation requireUnchangedMarketplace at classified
    simp only [↓seq_ok, rejectIf_ok, ne_eq, not_not] at classified
    obtain ⟨_, rfl, gone, removes⟩ := classified
    exact .taken TargetState.installation (congrArg (TargetState.mk _ ·)) rfl gone removes

theorem Classified.changed_iff
    (classified : Classified command existingOwnership before after disposition)
    : disposition.requiresCompensation = true ↔ before ≠ after := by
  cases classified with
  | created _ changed | removed _ _ changed =>
    simp [EffectDisposition.requiresCompensation, changed]
  | preservedOwned _ _ same | preservedExternal _ _ same | unchanged _ same =>
    simp [EffectDisposition.requiresCompensation, same]

def classifyReconciledMutation (command : Command) (expectedVersion : Version)
    (existingOwnership : ExistingOwnership) (before after : TargetState)
    : StepReconciliation :=
  match classifyMutation command expectedVersion existingOwnership before after with
  | .ok disposition => .applied disposition
  | .error _ => .diverged

def reconcileCheckpoint (sha256 : Sha256) (command : Command) (expectedVersion : Version)
    (existingOwnership : ExistingOwnership) (checkpoint : StepCheckpoint)
    (observed : StateObservation)
    : Except ReconciliationError StepReconciliation := do
  rejectIf
    (¬checkpoint.before.hasValidDigest sha256
      ∨ ∃ after ∈ checkpoint.after, ¬after.hasValidDigest sha256)
    .invalidCheckpointObservation
  rejectIf (¬observed.hasValidDigest sha256) .invalidObservedState
  rejectIf (checkpoint.outcome = none ∧ checkpoint.after ≠ none) .unexpectedCheckpointOutcome
  match checkpoint.outcome with
  | none =>
    if observed = checkpoint.before then
      pure .notApplied
    else
      pure (classifyReconciledMutation command expectedVersion existingOwnership
        checkpoint.before.state observed.state)
  | some .succeeded =>
    match checkpoint.after with
    | none => throw .missingSuccessfulObservation
    | some after =>
      if observed ≠ after then
        pure .diverged
      else
        pure (classifyReconciledMutation command expectedVersion existingOwnership
          checkpoint.before.state after.state)
  | some _ => throw .unexpectedCheckpointOutcome

/-- A checkpoint that the journal left before or after a command that was not seen to fail. -/
def StepCheckpoint.Inspectable (checkpoint : StepCheckpoint) : Prop :=
  checkpoint.outcome = none ∨ checkpoint.outcome = some .succeeded

instance (checkpoint : StepCheckpoint) : Decidable checkpoint.Inspectable :=
  inferInstanceAs (Decidable (_ ∨ _))

end Dure.Plugin
