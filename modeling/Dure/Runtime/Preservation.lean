import Dure.Runtime.Steps
import Dure.Runtime.Valid

/-! The records that the journal operations build from a valid record are valid, one lemma
for each operation.
-/

namespace Dure.Runtime

open Library Check Option
open Checkout (OperationId)

variable {successorId operationId : OperationId} {failure : TargetFailure}

namespace Transition

variable {digest : String → String} {current next : Transition}

/-- The operation that woke a delayed target. -/
def wakeOperationId (record : Transition) : Option OperationId :=
  match record.deferredTarget with
  | some (.requested operationId _) => some operationId
  | _ => none

/-- The ids that the operations of a record have used. -/
def operationIds (record : Transition) : List OperationId :=
  record.intent.operationId
    :: (record.lastRepairOperationId.toList ++ record.predecessorOperationId.toList
      ++ record.supersededByOperationId.toList ++ record.wakeOperationId.toList)

theorem not_mem_operationIds
    : operationId ∉ current.operationIds
      ↔ operationId ≠ current.intent.operationId
        ∧ current.lastRepairOperationId ≠ some operationId
        ∧ current.predecessorOperationId ≠ some operationId
        ∧ current.supersededByOperationId ≠ some operationId
        ∧ current.wakeOperationId ≠ some operationId := by
  simp only [operationIds, List.mem_cons, List.mem_append, mem_toList,
    not_or, and_assoc, ne_eq]

/-! ### Later revisions of one transition -/

/-- What no journal step changes, and how it moves the revision and the time. -/
structure Follows (current next : Transition) : Prop where
  schema : next.schemaVersion = current.schemaVersion
  intent : next.intent = current.intent
  predecessor : next.predecessorOperationId = current.predecessorOperationId
  delayed : next.deferredTarget.isSome = current.deferredTarget.isSome
  created : next.createdAtMs = current.createdAtMs
  revision : next.journalRevision = current.journalRevision + 1
  later : current.updatedAtMs ≤ next.updatedAtMs

theorem Follows.isSuccessor (follows : current.Follows next)
    : next.isSuccessor = current.isSuccessor := by
  simp only [Transition.isSuccessor, follows.predecessor]

/-- The stopped source of a successor needs one step less than that of an admitted record. -/
def firstStop (record : Transition) : Int := if record.isSuccessor then 1 else 2

theorem Follows.firstStop (follows : current.Follows next)
    : next.firstStop = current.firstStop := by
  simp only [Transition.firstStop, follows.isSuccessor]

theorem minimumRevision_sourceStopped (state : current.state = .sourceStopped)
    : current.minimumRevision = current.firstStop := by
  simp only [minimumRevision, Transition.firstStop, state]

theorem minimumRevision_repairRequired (state : current.state = .repairRequired)
    : current.minimumRevision = current.firstStop + 1 := by
  simp only [minimumRevision, Transition.firstStop, state]
  split <;> rfl

theorem minimumRevision_targetStarted (state : current.state = .targetStarted)
    : current.minimumRevision = current.firstStop + 1 := by
  simp only [minimumRevision, Transition.firstStop, state]
  split <;> rfl

theorem minimumRevision_committed (state : current.state = .committed)
    : current.minimumRevision = current.firstStop + 2 := by
  simp only [minimumRevision, Transition.firstStop, state]
  split <;> rfl

theorem minimumRevision_superseded (state : current.state = .superseded)
    (effective : current.targetIsDeferred = false)
    : current.minimumRevision = current.firstStop + 2 := by
  simp only [minimumRevision, Transition.firstStop, state, dormantSuccessor, effective,
    Bool.false_eq_true, and_false, decide_false, if_false]
  split <;> rfl

theorem Follows.minimumRevision_sourceStopped (follows : current.Follows next)
    (state : next.state = .sourceStopped)
    : next.minimumRevision = current.firstStop := by
  rw [Transition.minimumRevision_sourceStopped state, follows.firstStop]

theorem Follows.minimumRevision_superseded (follows : current.Follows next)
    (state : next.state = .superseded) (effective : next.targetIsDeferred = false)
    : next.minimumRevision = current.firstStop + 2 := by
  rw [Transition.minimumRevision_superseded state effective, follows.firstStop]

/-- A stamped record is checked as a later revision of the one it was built from. -/
theorem stamped_valid {record : Transition} (room : current.journalRevision < i64Max)
    (later : current.updatedAtMs ≤ atMs)
    (schema : record.schemaVersion = current.schemaVersion)
    (intent : record.intent = current.intent)
    (predecessor : record.predecessorOperationId = current.predecessorOperationId)
    (delayed : record.deferredTarget.isSome = current.deferredTarget.isSome)
    (created : record.createdAtMs = current.createdAtMs)
    (revision : record.journalRevision = current.journalRevision)
    (accepted : current.Follows (record.stamped atMs) → (record.stamped atMs).Valid digest)
    : (record.stamped atMs).Valid digest := by
  refine accepted ⟨schema, intent, predecessor, delayed, created, ?_, later⟩
  simp only [stamped, revision]
  exact wrappingAddOne_below room

theorem Resumable.follow (resumable : current.Resumable) (follows : current.Follows next)
    : next.Resumable where
  idle := follows.intent ▸ resumable.idle
  conversation := follows.intent ▸ resumable.conversation
  interaction := follows.intent ▸ resumable.interaction
  execution := follows.intent ▸ resumable.execution
  launch := follows.intent ▸ resumable.launch
  first := follows.predecessor.trans resumable.first

/-- The wake of a later revision is the one recorded before. -/
theorem Woken.follow (woken : current.Woken operationId requestedAtMs)
    (follows : current.Follows next)
    (stopped : next.state ≠ .admitted ∧ next.state ≠ .sourceRetained)
    (repair : next.lastRepairOperationId ≠ some operationId)
    (successor : next.supersededByOperationId ≠ some operationId)
    : next.Woken operationId requestedAtMs where
  stopped := stopped
  transition := follows.intent ▸ woken.transition
  repair := repair
  successor := successor
  afterCreation := follows.created ▸ woken.afterCreation
  beforeUpdate := woken.beforeUpdate.trans follows.later

/-- The clauses of the check that a later revision inherits, put together with the others. -/
theorem Valid.follow (valid : current.Valid digest) (follows : current.Follows next)
    (activated : ∀ activation, next.deferredTarget = some activation
      → next.Activated activation)
    (history : ∃ repairs, next.Counted repairs)
    (start : next.state ≠ .admitted)
    (targetPlacement : ∀ workspace, next.targetWorkspace = some workspace
      → workspace.validate = .ok () ∧ Structured next.targetAuthority)
    (replacementPlacement : ∀ workspace, next.replacementWorkspace = some workspace
      → workspace.validate = .ok () ∧ Structured next.replacementAuthority)
    (movement : ∀ movement, current.intent.workspaceMove = some movement
      → next.Moved movement)
    (replacement : ∀ authority, next.replacementAuthority = some authority
      → next.Replaceable authority)
    (ids : ¬next.IdsCollide)
    (launchKey : ∀ key, next.targetLaunchIdempotencyKey = some key
      → validateToken "targetLaunchIdempotencyKey" key = .ok ())
    (outcome : next.Outcome digest)
    (launched : next.state ∉ [.targetStarted, .committed]
      → next.targetLaunchIdempotencyKey = none)
    (succession : next.Succession)
    : next.Valid digest where
  schema := follows.schema.trans valid.schema
  deferred := by
    intro activation present
    refine ⟨?_, activated activation present⟩
    have delayed : current.deferredTarget.isSome = true := by
      rw [← follows.delayed, present]
      rfl
    obtain ⟨before, earlier⟩ := isSome_iff_exists.mp delayed
    exact (valid.deferred before earlier).1.follow follows
  intent := by
    rw [follows.intent, follows.predecessor, follows.delayed]
    exact valid.intent
  created := follows.created ▸ valid.created
  requested := by rw [follows.created, follows.intent, valid.requested]
  ordered := by
    rw [follows.created]
    exact valid.ordered.trans follows.later
  positive := by
    have before := valid.positive
    have revision := follows.revision
    omega
  history
  start := fun admitted => absurd admitted start
  targetPlacement
  replacementPlacement
  movement := follows.intent ▸ movement
  replacement
  ids
  launchKey
  outcome
  launched
  succession

/-- One journal step further on the shortest way, with the repairs as they were. -/
theorem Counted.follow (counted : current.Counted repairs) (follows : current.Follows next)
    (minimum : next.minimumRevision = current.minimumRevision + 1)
    (wake : next.wakeRevision = current.wakeRevision)
    (rejections : next.postStartRejections = current.postStartRejections)
    (repair : next.lastRepairOperationId = current.lastRepairOperationId)
    (admitted : next.state ≠ .admitted)
    (retained : next.state = .sourceRetained → next.journalRevision = 2)
    : next.Counted repairs where
  revision := by
    have before := counted.revision
    have step := follows.revision
    rw [minimum, wake, rejections]
    omega
  repaired := repair ▸ counted.repaired
  moved := by
    rw [rejections, follows.intent]
    exact counted.moved
  admitted := fun early => absurd early admitted
  retained

namespace Valid

theorem admitted_counts (valid : current.Valid digest) (state : current.state = .admitted)
    : current.journalRevision = 1
      ∧ current.wakeRevision = 0
      ∧ current.postStartRejections = 0
      ∧ current.lastRepairOperationId = none := by
  obtain ⟨repairs, counted⟩ := valid.history
  have revision := counted.revision
  have first := counted.admitted state
  have wake := current.wakeRevision_nonneg
  have shortest : current.minimumRevision = 1 := by simp only [minimumRevision, state]
  refine ⟨first, by omega, by omega, ?_⟩
  by_contra repair
  have positive := counted.repaired.mp repair
  omega

/-- A replacement is pending only while target effects are. -/
theorem no_replacement (valid : current.Valid digest)
    (state : current.state ∉ [.sourceStopped, .repairRequired, .superseded])
    : current.replacementAuthority = none := by
  cases pending : current.replacementAuthority with
  | none => rfl
  | some authority => exact absurd (valid.replacement authority pending).state state

theorem not_structured (absent : authority = none) : ¬Structured authority := by
  simp [Structured, absent]

variable {atMs : Int}

attribute [local simp] stamped successorRecord Succession

/-- The source of an admitted transition is kept or stopped. -/
theorem leaveAdmitted {state : TransitionState} (valid : current.Valid digest)
    (admitted : current.state = .admitted) (room : current.journalRevision < i64Max)
    (later : current.updatedAtMs ≤ atMs)
    (left : state = .sourceRetained ∨ state = .sourceStopped)
    : (stamped { current with state } atMs).Valid digest := by
  obtain ⟨first, _, none, unrepaired⟩ := valid.admitted_counts admitted
  obtain ⟨repairs, counted⟩ := valid.history
  refine stamped_valid room later rfl rfl rfl rfl rfl rfl fun follows => ?_
  have unreplaced : current.replacementAuthority = .none :=
    valid.no_replacement (by simp [admitted])
  have outcome := valid.outcome
  simp only [Outcome, admitted] at outcome
  have unstarted := valid.start admitted
  have minimum : (stamped { current with state } atMs).minimumRevision
      = current.minimumRevision + 1 := by
    rcases left with rfl | rfl <;>
      simp_all [minimumRevision, Transition.isSuccessor]
  refine valid.follow follows ?_ ⟨repairs, counted.follow follows minimum rfl rfl rfl ?_ ?_⟩ ?_
    valid.targetPlacement valid.replacementPlacement ?_ ?_ valid.ids valid.launchKey ?_ ?_ ?_
  · intro activation present
    have activated := (valid.deferred activation present).2
    cases activation with
    | waiting =>
      refine ⟨?_, activated.repair, activated.failure, activated.replacement⟩
      rcases left with rfl | rfl <;> simp
    | requested operationId requestedAtMs => exact absurd admitted activated.stopped.1
  · rcases left with rfl | rfl <;> simp
  · intro _
    rw [follows.revision, first]
    rfl
  · rcases left with rfl | rfl <;> simp
  · intro movement _
    refine ⟨?_, fun structured => absurd structured (not_structured unreplaced)⟩
    rcases left with rfl | rfl <;> simp
  · intro authority present
    simp [unreplaced] at present
  · rcases left with rfl | rfl <;> exact outcome
  · exact fun _ => valid.launched (by simp [admitted])
  · have fresh := valid.superseded_none (by simp [admitted])
    rcases left with rfl | rfl <;> simp [fresh]

/-! ### Target effects -/

section

variable (valid : current.Valid digest)
include valid

/-- The wake recorded before is still consistent when the new ids differ from it. -/
theorem activated_follow (follows : current.Follows next)
    (same : next.deferredTarget = current.deferredTarget)
    (effective : current.targetIsDeferred = false)
    (stopped : next.state ≠ .admitted ∧ next.state ≠ .sourceRetained)
    (repair : ∀ operationId, current.wakeOperationId = some operationId
      → current.lastRepairOperationId ≠ some operationId
      → next.lastRepairOperationId ≠ some operationId)
    (successor : ∀ operationId, current.wakeOperationId = some operationId
      → current.supersededByOperationId ≠ some operationId
      → next.supersededByOperationId ≠ some operationId)
    : ∀ activation, next.deferredTarget = some activation → next.Activated activation := by
  intro activation present
  rw [same] at present
  cases activation with
  | waiting => simp [targetIsDeferred, present] at effective
  | requested operationId requestedAtMs =>
    have woken : current.Woken operationId requestedAtMs := (valid.deferred _ present).2
    have wake : current.wakeOperationId = some operationId := by
      simp only [wakeOperationId, present]
    exact woken.follow follows stopped (repair operationId wake woken.repair)
      (successor operationId wake woken.successor)

/-- What a record with a started target says about it. -/
theorem started (state : current.state = .targetStarted)
    : current.targetFailure = none
      ∧ ∃ authority selection, current.targetAuthority = some authority
        ∧ current.intent.targetSelectionAt current.updatedAtMs = .ok selection
        ∧ authority.validateForTransitionTarget selection
            current.intent.providerConversationRef = .ok ()
        ∧ (authority.isStructured → current.targetLaunchIdempotencyKey = none)
        ∧ current.validateNativeTarget digest authority = .ok () := by
  have outcome := valid.outcome
  simp only [Outcome, state, validateStarted, ↓seq_ok, bind_ok, rejectIf_ok, not_and,
    not_not] at outcome
  obtain ⟨failure, authority, present, selection, selected, accepted, key, native⟩ := outcome
  exact ⟨failure, authority, selection, present, selected, accepted, key, native⟩

section

variable (room : current.journalRevision < i64Max)
include room

/-- A failed attempt leaves what it had to replace as it was. -/
theorem failPreserving (permits : current.permitsTargetEffects = true)
    (later : current.updatedAtMs ≤ atMs)
    (checked : failure.validate = .ok ())
    : (stamped
        { current with
          state := .repairRequired
          targetFailure := some failure }
        atMs).Valid digest := by
  simp only [permitsTargetEffects, decide_eq_true_eq, Bool.not_eq_true] at permits
  obtain ⟨stopped, effective⟩ := permits
  obtain ⟨repairs, counted⟩ := valid.history
  refine stamped_valid room later rfl rfl rfl rfl rfl rfl fun follows => ?_
  have outcome := valid.outcome
  simp only [Outcome, stopped] at outcome
  refine valid.follow follows ?_ ⟨repairs, counted.follow follows ?_ rfl rfl rfl ?_ ?_⟩ ?_
    valid.targetPlacement valid.replacementPlacement ?_ ?_ valid.ids valid.launchKey ?_ ?_ ?_
  · exact valid.activated_follow follows rfl effective (by simp)
      (fun _ _ => id) (fun _ _ => id)
  · rw [minimumRevision_repairRequired rfl, minimumRevision_sourceStopped stopped,
      follows.firstStop]
  · simp
  · simp
  · simp
  · intro movement present
    exact ⟨by simp, (valid.movement movement present).replacement⟩
  · intro authority pending
    exact ⟨(valid.replacement authority pending).identity, by simp,
      by simp⟩
  · exact ⟨outcome.1, failure, rfl, checked⟩
  · exact fun _ => valid.launched (by simp [stopped])
  · have fresh := valid.superseded_none (by simp [stopped])
    simp [fresh]

/-- A started target is committed. -/
theorem commit (state : current.state = .targetStarted)
    (later : current.updatedAtMs ≤ atMs)
    : (stamped { current with state := .committed } atMs).Valid digest := by
  obtain ⟨failure, authority, selection, present, selected, accepted, key, native⟩ :=
    valid.started state
  obtain ⟨repairs, counted⟩ := valid.history
  refine stamped_valid room later rfl rfl rfl rfl rfl rfl fun follows => ?_
  have unreplaced := valid.no_replacement (by simp [state])
  have again := Intent.targetSelectionAt_later selected later
  refine valid.follow follows ?_ ⟨repairs, counted.follow follows ?_ rfl rfl rfl ?_ ?_⟩ ?_
    valid.targetPlacement valid.replacementPlacement ?_ ?_ valid.ids valid.launchKey ?_ ?_ ?_
  · exact valid.activated_follow follows rfl (valid.not_deferred (by simp [state]))
      (by simp) (fun _ _ => id) (fun _ _ => id)
  · rw [minimumRevision_committed rfl, minimumRevision_targetStarted state,
      follows.firstStop]
    omega
  · simp
  · simp
  · simp
  · intro movement moved
    exact ⟨fun profile _ => (valid.movement movement moved).target profile (.inl state),
      (valid.movement movement moved).replacement⟩
  · intro pending some
    simp [unreplaced] at some
  · refine ⟨failure, authority, present, ?_⟩
    simp only [validateStarted, ↓seq_ok, bind_ok, rejectIf_ok, not_and, not_not]
    exact ⟨_, again,
      BindingAuthority.validateForTransitionTarget_later accepted
        (Intent.targetSelectionAt_fields again).1,
      key, native⟩
  · simp
  · have fresh := valid.superseded_none (by simp [state])
    simp [fresh]

/-- The target of a workspace move that started is rejected and kept for its replacement. -/
theorem reject (state : current.state = .targetStarted)
    (moving : current.intent.workspaceMove ≠ none)
    (later : current.updatedAtMs ≤ atMs) (checked : failure.validate = .ok ())
    : (stamped
        { current with
          state := .repairRequired
          targetFailure := some failure
          replacementAuthority := current.targetAuthority
          replacementWorkspace := current.targetWorkspace
          targetWorkspace := none
          targetAuthority := none
          targetLaunchIdempotencyKey := none
          postStartRejections := current.postStartRejections + 1 }
        atMs).Valid digest := by
  obtain ⟨_, authority, selection, present, selected, accepted, _, _⟩ := valid.started state
  obtain ⟨repairs, counted⟩ := valid.history
  obtain ⟨_, agent, provider, profile, _, _, _⟩ := Intent.targetSelectionAt_fields selected
  refine stamped_valid room later rfl rfl rfl rfl rfl rfl fun follows => ?_
  refine valid.follow follows ?_ ⟨repairs, ?_⟩ ?_
    (by simp) valid.targetPlacement ?_ ?_ valid.ids (by simp) ?_ ?_ ?_
  · exact valid.activated_follow follows rfl (valid.not_deferred (by simp [state]))
      (by simp) (fun _ _ => id) (fun _ _ => id)
  · refine ⟨?_, counted.repaired, fun _ => moving, by simp, by simp⟩
    -- the rejection is counted on its own, so the shortest way stays where it was
    have revision := counted.revision
    rw [minimumRevision_targetStarted state] at revision
    rw [minimumRevision_repairRequired rfl, follows.firstStop]
    simp only [stamped, wrappingAddOne_below room, wakeRevision] at revision ⊢
    push_cast
    omega
  · simp
  · intro movement moved
    refine ⟨by simp, fun structured => ?_⟩
    have kind : authority.isStructured := by
      simpa [Structured, present] using structured
    refine (valid.movement movement moved).target ?_ (.inl state)
    rw [← profile]
    exact (BindingAuthority.validateForTransitionTarget_profile accepted).mpr kind
  · intro pending some
    have same : authority = pending := by simpa [present] using some
    subst same
    refine ⟨?_, by simp, by simp⟩
    have identity := BindingAuthority.validateForTransitionTarget_identity accepted
    rwa [agent, provider] at identity
  · exact ⟨rfl, failure, rfl, checked⟩
  · simp
  · have fresh := valid.superseded_none (by simp [state])
    simp [fresh]

end

end

/-! ### Repair and succession -/

section

variable (valid : current.Valid digest)
include valid

/-- The successor of a failed record takes over its fence and starts at the stopped source. -/
theorem succeed (checked : successor.validateAfterStoppedSource = .ok ())
    (source : successor.source = current.intent.source)
    (conversation : successor.providerConversationRef = current.intent.providerConversationRef)
    (move : successor.workspaceMove = none
      ∨ successor.workspaceMove = current.intent.workspaceMove)
    (fresh : successor.operationId ≠ current.intent.operationId)
    : (successorRecord successor current.intent.operationId current.replacementAuthority
        current.replacementWorkspace).Valid digest := by
  have times : 0 ≤ successor.requestedAtMs := by
    simp only [Intent.validateAfterStoppedSource, Intent.validateForSourceBoundary, seq_ok,
      timestamp_ok] at checked
    exact checked.2.2.2.2.2.2.2.2.1
  refine
    {
      schema := rfl
      deferred := by simp
      intent := checked
      created := times
      requested := rfl
      ordered := le_refl _
      positive := le_refl _
      history := ⟨0, ?_⟩
      start := by simp
      targetPlacement := by simp
      replacementPlacement := valid.replacementPlacement
      movement := ?_
      replacement := ?_
      ids := ?_
      launchKey := by simp
      outcome := ⟨rfl, rfl⟩
      launched := fun _ => rfl
      succession := by simp
    }
  · refine ⟨?_, by simp, by simp,
      by simp, by simp⟩
    simp [minimumRevision, Transition.isSuccessor, wakeRevision]
  · intro movement moved
    refine ⟨by simp, fun structured => ?_⟩
    rcases move with absent | same
    · exact absurd (absent.symm.trans moved) (by simp)
    · exact (valid.movement movement (same.symm.trans moved)).replacement structured
  · intro authority pending
    refine ⟨?_, by simp, by simp⟩
    have identity := (valid.replacement authority pending).identity
    simpa only [successorRecord, source, conversation] using identity
  · simp only [IdsCollide, successorRecord, some.injEq]
    simp [Ne.symm fresh]

/-- A dormant record has stopped its source and done nothing else. -/
theorem dormant (dormant : current.isDormant = true)
    : current.state = .sourceStopped
      ∧ current.deferredTarget = some .waiting
      ∧ current.Resumable
      ∧ current.Waiting := by
  simp only [isDormant, decide_eq_true_eq] at dormant
  obtain ⟨state, deferred⟩ := dormant
  obtain ⟨resumable, waiting⟩ := valid.waiting deferred
  exact ⟨state, by simpa [targetIsDeferred] using deferred, resumable, waiting⟩

section

variable (later : current.updatedAtMs ≤ atMs)
include later

/-- A repair under a new id permits target effects again. -/
theorem repair {repairId : OperationId}
    (state : current.state = .repairRequired) (room : current.journalRevision < i64Max)
    (fresh : repairId ∉ current.operationIds)
    : (stamped
        { current with
          state := .sourceStopped
          targetFailure := none
          lastRepairOperationId := some repairId }
        atMs).Valid digest := by
  obtain ⟨transition, _, predecessor, successor, wake⟩ := not_mem_operationIds.mp fresh
  obtain ⟨repairs, counted⟩ := valid.history
  have outcome := valid.outcome
  simp only [Outcome, state] at outcome
  have unsuperseded := valid.superseded_none (by simp [state])
  refine stamped_valid room later rfl rfl rfl rfl rfl rfl fun follows => ?_
  refine valid.follow follows ?_ ⟨repairs + 1, ?_⟩ ?_ valid.targetPlacement
    valid.replacementPlacement ?_ ?_ ?_ valid.launchKey ⟨outcome.1, rfl⟩ ?_ ?_
  · refine valid.activated_follow follows rfl (valid.not_deferred (by simp [state]))
      (by simp) ?_ (fun _ _ => id)
    intro operationId woken _ same
    exact wake (woken.trans same.symm)
  · refine ⟨?_, by simp, counted.moved, by simp, by simp⟩
    -- failure and repair are two steps back to the stopped source
    have revision := counted.revision
    rw [minimumRevision_repairRequired state] at revision
    rw [follows.minimumRevision_sourceStopped rfl]
    simp only [stamped, wrappingAddOne_below room, wakeRevision] at revision ⊢
    push_cast
    omega
  · simp
  · intro movement moved
    exact ⟨by simp, (valid.movement movement moved).replacement⟩
  · intro authority pending
    exact ⟨(valid.replacement authority pending).identity, by simp,
      by simp⟩
  · have before := valid.ids
    simp only [IdsCollide, not_or] at before
    simp only [IdsCollide, stamped, unsuperseded, not_or]
    refine ⟨before.1, by simpa using transition, ?_, by simp, by simp⟩
    rintro ⟨_, same⟩
    exact predecessor same.symm
  · exact fun _ => valid.launched (by simp [state])
  · simp [unsuperseded]

/-- A failed record is superseded, with its replacement fence kept or dropped as a whole. -/
theorem retire {replacementAuthority : Option BindingAuthority}
    {replacementWorkspace : Option WorkspaceRecord} (state : current.state = .repairRequired)
    (room : current.journalRevision < i64Max)
    (fresh : successorId ∉ current.operationIds)
    (fence : (replacementAuthority = none ∧ replacementWorkspace = none)
      ∨ (replacementAuthority = current.replacementAuthority
      ∧ replacementWorkspace = current.replacementWorkspace))
    : (stamped
        { current with
          state := .superseded
          replacementAuthority
          replacementWorkspace
          supersededByOperationId := some successorId }
        atMs).Valid digest := by
  obtain ⟨transition, repair, predecessor, _, wake⟩ := not_mem_operationIds.mp fresh
  obtain ⟨repairs, counted⟩ := valid.history
  have outcome := valid.outcome
  simp only [Outcome, state] at outcome
  obtain ⟨unstarted, failure, failed, checked⟩ := outcome
  have effective := valid.not_deferred (by simp [state])
  refine stamped_valid room later rfl rfl rfl rfl rfl rfl fun follows => ?_
  refine valid.follow follows ?_ ⟨repairs, counted.follow follows ?_ rfl rfl rfl ?_ ?_⟩ ?_
    valid.targetPlacement ?_ ?_ ?_ ?_ valid.launchKey ?_ ?_ ?_
  · refine valid.activated_follow follows rfl effective (by simp)
      (fun _ _ => id) ?_
    intro operationId woken _ same
    exact wake (woken.trans same.symm)
  · rw [follows.minimumRevision_superseded rfl effective,
      minimumRevision_repairRequired state]
    omega
  · simp
  · simp
  · simp
  · intro workspace placed
    rcases fence with ⟨rfl, rfl⟩ | ⟨rfl, rfl⟩
    · simp at placed
    · exact valid.replacementPlacement workspace placed
  · intro movement moved
    refine ⟨by simp, fun structured => ?_⟩
    rcases fence with ⟨rfl, rfl⟩ | ⟨rfl, rfl⟩
    · exact absurd structured (not_structured rfl)
    · exact (valid.movement movement moved).replacement structured
  · intro authority pending
    rcases fence with ⟨rfl, rfl⟩ | ⟨rfl, rfl⟩
    · simp at pending
    · exact ⟨(valid.replacement authority pending).identity, by simp,
        by simp⟩
  · have before := valid.ids
    simp only [IdsCollide, not_or] at before
    simp only [IdsCollide, stamped, not_or]
    exact ⟨before.1, before.2.1, before.2.2.1, fun same => repair same.2,
      fun same => predecessor same.2⟩
  · refine ⟨unstarted, ?_, ?_⟩
    · intro other present
      have same : failure = other := some.inj (failed.symm.trans present)
      exact same ▸ checked
    · intro absent
      exact absurd (failed.symm.trans absent) (by simp)
  · exact fun _ => valid.launched (by simp [state])
  · exact ⟨rfl, transition⟩

/-- A wake under a new id permits the delayed target. -/
theorem wake {wakeId : OperationId}
    (asleep : current.isDormant = true)
    (fresh : wakeId ∉ current.operationIds)
    : ({ current with
          deferredTarget := some (.requested wakeId atMs)
          journalRevision := current.journalRevision + 1
          updatedAtMs := atMs } : Transition).Valid digest := by
  obtain ⟨state, deferred, resumable, waiting⟩ := valid.dormant asleep
  obtain ⟨transition, _, _, _, _⟩ := not_mem_operationIds.mp fresh
  obtain ⟨repairs, counted⟩ := valid.history
  have outcome := valid.outcome
  simp only [Outcome, state] at outcome
  have unsuperseded := valid.superseded_none (by simp [state])
  have follows : current.Follows
      { current with
        deferredTarget := some (.requested wakeId atMs)
        journalRevision := current.journalRevision + 1
        updatedAtMs := atMs } :=
    ⟨rfl, rfl, rfl, by simp [deferred], rfl, rfl, later⟩
  refine valid.follow follows ?_ ⟨repairs, ?_⟩ (by simp [state]) valid.targetPlacement
    valid.replacementPlacement ?_ ?_ valid.ids valid.launchKey ?_ ?_ ?_
  · intro activation present
    have same := some.inj present
    subst same
    refine ⟨by simp [state], transition, by simp [waiting.repair], by simp [unsuperseded], ?_,
      le_refl _⟩
    exact valid.ordered.trans later
  · refine ⟨?_, counted.repaired, counted.moved, by simp [state], by simp [state]⟩
    -- the wake is counted on its own
    have revision := counted.revision
    rw [minimumRevision_sourceStopped state] at revision
    rw [follows.minimumRevision_sourceStopped state]
    simp only [wakeRevision, deferred] at revision ⊢
    omega
  · intro movement moved
    exact ⟨by simp [state], (valid.movement movement moved).replacement⟩
  · intro authority pending
    exact absurd (waiting.replacement.symm.trans pending) (by simp)
  · simpa only [Outcome, state] using outcome
  · exact fun _ => valid.launched (by simp [state])
  · simp [unsuperseded, state]

/-- A dormant record is replaced by a native resume of its conversation. -/
theorem resume (asleep : current.isDormant = true)
    (fresh : successorId ∉ current.operationIds)
    : ({ current with
          state := .superseded
          replacementAuthority := none
          supersededByOperationId := some successorId
          journalRevision := current.journalRevision + 1
          updatedAtMs := atMs } : Transition).Valid digest := by
  obtain ⟨state, deferred, resumable, waiting⟩ := valid.dormant asleep
  obtain ⟨transition, _, _, _, _⟩ := not_mem_operationIds.mp fresh
  obtain ⟨repairs, counted⟩ := valid.history
  have outcome := valid.outcome
  simp only [Outcome, state] at outcome
  have unplaced := valid.no_replacement_workspace waiting.replacement
  have follows : current.Follows
      { current with
        state := .superseded
        replacementAuthority := none
        supersededByOperationId := some successorId
        journalRevision := current.journalRevision + 1
        updatedAtMs := atMs } :=
    ⟨rfl, rfl, rfl, rfl, rfl, rfl, later⟩
  refine valid.follow follows ?_ ⟨repairs, counted.follow follows ?_ rfl rfl rfl (by simp) ?_⟩
    (by simp) valid.targetPlacement ?_ ?_ (by simp) ?_ valid.launchKey ?_ ?_ ?_
  · intro activation present
    have same : DeferredTarget.waiting = activation :=
      some.inj (deferred.symm.trans present)
    subst same
    exact ⟨by simp, waiting.repair, waiting.failure, rfl⟩
  · have first : current.isSuccessor = false := by
      simp [Transition.isSuccessor, resumable.first]
    simp [minimumRevision, state, first, dormantSuccessor, targetIsDeferred, deferred]
  · simp
  · intro workspace placed
    exact absurd (unplaced.symm.trans placed) (by simp)
  · intro movement _
    exact ⟨by simp, fun structured => absurd structured (not_structured rfl)⟩
  · simp [IdsCollide, resumable.first, waiting.repair]
  · refine ⟨outcome.1, ?_, ?_⟩
    · intro failure failed
      exact absurd (outcome.2.symm.trans failed) (by simp)
    · intro _
      simp [targetIsDeferred, deferred]
  · exact fun _ => valid.launched (by simp [state])
  · exact ⟨rfl, transition⟩

end

end

end Valid

end Transition

end Dure.Runtime
