import Dure.Library.OrderedMap
import Dure.Plugin.Classification

/-! Recorded effects, the inverse steps that compensate them, and the physical targets that
an operation is bound to.
-/

namespace Dure.Plugin

open Library Check
open Checkout (OperationId validOperationId)

structure EffectReceipt where
  stepIndex : Nat
  attempt : Nat
  step : Step
  before : StateObservation
  after : StateObservation
  disposition : EffectDisposition
  deriving DecidableEq

structure CompensationStep where
  sourceEffect : EffectReceipt
  step : Step
  expectedBefore : StateObservation
  expectedAfter : StateObservation
  deriving DecidableEq

structure CompensationLink where
  operationId : OperationId
  idempotencyKey : String
  marketplaceSource : MarketplaceSource
  steps : List CompensationStep
  deriving DecidableEq

inductive CompensationError where
  | recoveryNotCompensating
  | recoveryMismatch
  | noOwnedEffects
  | invalidOwnedEffect
  | invalidIdentity
  | invalidLink
  | invalidCompletion
  | journal (error : JournalError)
  deriving DecidableEq, Repr

def CompensationError.message : CompensationError → String
  | .recoveryNotCompensating =>
    "plugin apply receipt is not ready for owned-effect compensation"
  | .recoveryMismatch => "plugin apply compensation directive differs from its owned effects"
  | .noOwnedEffects => "plugin apply operation has no owned effects to compensate"
  | .invalidOwnedEffect =>
    "plugin apply owned effect cannot be mapped to an exact inverse command"
  | .invalidIdentity => "plugin apply compensation identity is invalid"
  | .invalidLink => "plugin apply compensation link does not match the trusted inverse plan"
  | .invalidCompletion =>
    "plugin apply compensation child does not prove exact successful completion"
  | .journal _ => "plugin apply compensation child event is invalid"

/-- The id and key of the operation that compensates another one. -/
def compensationIdentity (sha256 : Sha256) (parent : OperationId) : OperationId × String :=
  let digest := sha256 ("dure-plugin-compensation-operation/v2\x00" ++ parent.value)
  (⟨"plugin-compensation-" ++ digest.hex,
      digest.validOperationId_append (by decide) (by decide)⟩,
    "plugin-compensation:" ++ digest.hex)

/-- The effects that changed an owned component, the latest first. -/
def ownedEffects (effects : List EffectReceipt) : List EffectReceipt :=
  effects.reverse.filter (fun effect => effect.disposition.requiresCompensation)

def isExactInverse (marketplaceSource : MarketplaceSource) (compensation : CompensationStep)
    : Bool :=
  let source := compensation.sourceEffect
  compensation.step.integrationId == source.step.integrationId
    && compensation.step.adapter == source.step.adapter
    && compensation.step.executable == source.step.executable
    && compensation.step.cliVersion == source.step.cliVersion
    && compensation.step.selector == source.step.selector
    && compensation.step.registrationTarget == source.step.registrationTarget
    && match source.disposition, source.step.command, compensation.step.command with
      | .createdDureOwned, .addMarketplace _ sourceScope sourceOutput,
          .removeMarketplace marketplace scope output =>
          marketplace == source.step.selector.marketplace && scope == sourceScope
            && output == sourceOutput
      | .createdDureOwned, .installPlugin _ sourceScope sourceOutput,
          .removePlugin selector scope preserveData output =>
          selector == source.step.selector && scope == sourceScope && preserveData
            && output == sourceOutput
      | .removedDureOwned, .removeMarketplace _ sourceScope sourceOutput,
          .addMarketplace added scope output =>
          added == marketplaceSource && scope == sourceScope && output == sourceOutput
      | .removedDureOwned, .removePlugin _ sourceScope _ sourceOutput,
          .installPlugin selector scope output =>
          selector == source.step.selector && scope == sourceScope && output == sourceOutput
      | _, _, _ => false

/-- Each step starts from the state that the one before it ends in. -/
def chained : List CompensationStep → Bool
  | first :: second :: rest =>
    first.expectedAfter == second.expectedBefore && chained (second :: rest)
  | _ => true

/-- The disposition that an operation of this kind compensates. -/
def compensatable : OperationKind → EffectDisposition → Bool
  | .install, .createdDureOwned => true
  | .uninstall, .removedDureOwned => true
  | _, _ => false

def validateCompensationSteps (operationKind : OperationKind) (effects : List EffectReceipt)
    (marketplaceSource : MarketplaceSource) (steps : List CompensationStep)
    : Except CompensationError Unit := do
  let owned := ownedEffects effects
  rejectIf (owned = []) .noOwnedEffects
  rejectIf
    (owned ≠ steps.map CompensationStep.sourceEffect
      ∨ ¬owned.all (fun effect => compensatable operationKind effect.disposition)
      ∨ ¬steps.all (fun step =>
          step.expectedBefore == step.sourceEffect.after
            && step.expectedAfter == step.sourceEffect.before
            && isExactInverse marketplaceSource step)
      ∨ chained steps = false)
    .invalidOwnedEffect

def inverseCommand (effect : EffectReceipt) (marketplaceSource : MarketplaceSource)
    : Except CompensationError Command :=
  match effect.disposition, effect.step.command with
  | .createdDureOwned, .addMarketplace _ scope output =>
    pure (.removeMarketplace effect.step.selector.marketplace scope output)
  | .createdDureOwned, .installPlugin _ scope output =>
    pure (.removePlugin effect.step.selector scope true output)
  | .removedDureOwned, .removeMarketplace _ scope output =>
    pure (.addMarketplace marketplaceSource scope output)
  | .removedDureOwned, .removePlugin _ scope _ output =>
    pure (.installPlugin effect.step.selector scope output)
  | _, _ => throw .invalidOwnedEffect

def inverseStep (marketplaceSource : MarketplaceSource) (effect : EffectReceipt)
    : Except CompensationError CompensationStep := do
  let command ← inverseCommand effect marketplaceSource
  pure
    {
      sourceEffect := effect
      step := { effect.step with command := command }
      expectedBefore := effect.after
      expectedAfter := effect.before
    }

inductive PhysicalTargetRole where
  | profileRoot
  | workspaceRoot
  deriving DecidableEq, Repr

structure PhysicalTargetBinding where
  key : PhysicalTargetKey
  role : PhysicalTargetRole
  canonicalPathIdentity : TargetStateDigest
  filesystemObjectIdentity : TargetStateDigest
  authorityGenerationIdentity : TargetStateDigest
  authorityIdentity : TargetStateDigest
  bindingIdentity : TargetStateDigest
  deriving DecidableEq

inductive TargetBindingError where
  | duplicateTargetKey (key : PhysicalTargetKey)
  | conflictingTargetRole (key : PhysicalTargetKey)
  | missingTargetBinding (key : PhysicalTargetKey)
  | unexpectedTargetBinding (key : PhysicalTargetKey)
  | unsortedTargetBindings
  deriving DecidableEq

def TargetBindingError.message : TargetBindingError → String
  | .duplicateTargetKey key =>
    "native physical target key \"" ++ key.value ++ "\" is duplicated"
  | .conflictingTargetRole key =>
    "native physical target key \"" ++ key.value ++ "\" has conflicting roles"
  | .missingTargetBinding key =>
    "native physical target key \"" ++ key.value ++ "\" has no binding"
  | .unexpectedTargetBinding key =>
    "native physical target key \"" ++ key.value ++ "\" is not referenced by the operation"
  | .unsortedTargetBindings => "native physical target bindings must be sorted by key"

instance : LinearOrder PhysicalTargetKey :=
  LinearOrder.lift' StableId.value (by
    rintro ⟨left, _⟩ ⟨right, _⟩ same
    cases same
    rfl)

abbrev RequiredTargets := OrderedMap PhysicalTargetKey PhysicalTargetRole

def insertRole (key : PhysicalTargetKey) (role : PhysicalTargetRole)
    (targets : RequiredTargets)
    : Except TargetBindingError RequiredTargets := do
  rejectIf (∃ existing ∈ targets.get? key, existing ≠ role) (.conflictingTargetRole key)
  pure (targets.insert key role)

def requiredTargets : RequiredTargets → List Step → Except TargetBindingError RequiredTargets
  | targets, [] => pure targets
  | targets, step :: rest => do
      let extended ←
        match step.registrationTarget with
        | .managedProfile profileRootKey | .user profileRootKey =>
          insertRole profileRootKey .profileRoot targets
        | .workspace profileRootKey workspaceRootKey => do
            let profiled ← insertRole profileRootKey .profileRoot targets
            insertRole workspaceRootKey .workspaceRoot profiled
      requiredTargets extended rest

def validateBindingOrder (required : RequiredTargets)
    : Option PhysicalTargetKey → List PhysicalTargetBinding → Except TargetBindingError Unit
  | _, [] => pure ()
  | previous, binding :: rest => do
      rejectIf (previous = some binding.key) (.duplicateTargetKey binding.key)
      rejectIf (∃ key ∈ previous, binding.key < key) .unsortedTargetBindings
      match required.get? binding.key with
      | none => throw (.unexpectedTargetBinding binding.key)
      | some role => rejectIf (role ≠ binding.role) (.conflictingTargetRole binding.key)
      validateBindingOrder required (some binding.key) rest

def validateTargetBindings (steps : List Step) (bindings : List PhysicalTargetBinding)
    : Except TargetBindingError Unit := do
  let required ← requiredTargets .empty steps
  validateBindingOrder required none bindings
  -- distinct keys that are all required: too few of them leave one out
  match required.keys.find? (fun key => !(bindings.map (·.key)).contains key) with
  | none => pure ()
  | some key => throw (.missingTargetBinding key)

end Dure.Plugin
