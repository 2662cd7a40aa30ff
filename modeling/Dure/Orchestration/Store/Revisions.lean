import Dure.Orchestration.Store.Steps

/-! The revision of a dispatch orders the updates of all clients. Opening a decision,
answering it, completing the dispatch and setting its deadline each name the revision they
expect and raise it; nothing else touches it.
-/

namespace Dure.Orchestration

open Library Update StoreState

/-- The revision of the dispatch that a search for `target` selects. -/
def StoreState.revisionAt (state : StoreState) (target : InteractionTarget)
    : Option Revision :=
  (state.dispatches.find? (·.target == target)).map DispatchRecord.revision

/-- The dispatch a request updates and the revision it expects there. A message names a
revision too, but does not update its dispatch. -/
def Operation.mutation? : Operation → Option (InteractionTarget × Revision)
  | .openInteraction request _ =>
    match request.interaction with
    | .message _ _ => none
    | .decision _ _ _ => some (request.target, request.expectedDispatchRevision)
  | .answer request _ => some (request.target, request.expectedDispatchRevision)
  | .complete request _ => some (request.target, request.expectedDispatchRevision)
  | .setDispatchDeadline request _ => some (request.target, request.expectedDispatchRevision)
  | _ => none

/-- The request updated the dispatch of `target` at `revision`: it expected that revision,
succeeded and was not a replay. -/
def Operation.revises (operation : Operation) (target : InteractionTarget)
    (revision : Revision) (reply : Except StoreError Reply)
    : Bool :=
  operation.mutation? == some (target, revision)
    && match reply with
      | .ok reply => !reply.idempotent
      | .error _ => false

section Writes

variable {before after : StoreState} {target : InteractionTarget}
  {update : DispatchRecord → DispatchRecord}

section

variable
  (updated : after.dispatches = updateFirst (·.target == target) update before.dispatches)
include updated

theorem StoreState.revisionAt_updateFirst
    (sameTarget : ∀ dispatch, (update dispatch).target = dispatch.target)
    (found : before.dispatches.find? (·.target == target) = some dispatch)
    : after.revisionAt target = some (update dispatch).revision := by
  unfold revisionAt
  rw [updated, find?_updateFirst (fun dispatch => by rw [sameTarget]), found]
  rfl

theorem StoreState.revisionAt_updateFirst_other
    (sameTarget : ∀ dispatch, (update dispatch).target = dispatch.target)
    (isOther : other ≠ target)
    : after.revisionAt other = before.revisionAt other := by
  unfold revisionAt
  rw [updated, find?_updateFirst_other (fun dispatch => by rw [sameTarget])]
  intro dispatch selected
  have isTarget : dispatch.target = target := by simpa using selected
  exact beq_false_of_ne (isTarget ▸ isOther.symm)

end

/-- The dispatch of `target` went from `revision` to the next one, and no other dispatch
changed its revision. -/
structure StoreState.Revised (target : InteractionTarget) (revision : Revision)
    (before after : StoreState)
    : Prop where
  expected : before.revisionAt target = some revision
  raised : after.revisionAt target = some (revision + 1)
  others : ∀ other, other ≠ target → after.revisionAt other = before.revisionAt other

theorem StoreState.Revised.of_updateFirst
    (updated : after.dispatches = updateFirst (·.target == target) update before.dispatches)
    (sameContract : ∀ dispatch : DispatchRecord, dispatch.SameContract (update dispatch))
    (found : before.dispatches.find? (·.target == target) = some dispatch)
    (expected : dispatch.revision = revision)
    (raises : (update dispatch).revision = dispatch.revision + 1)
    : StoreState.Revised target revision before after where
  expected := by
    unfold revisionAt
    rw [found, Option.map_some, expected]
  raised := by
    rw [revisionAt_updateFirst updated (fun other => (sameContract other).target)
      found, raises, expected]
  others := fun _ isOther =>
    revisionAt_updateFirst_other updated (fun other => (sameContract other).target)
      isOther

end Writes

section Requests

variable {sha256 : String → String} {before after state : StoreState} {operation : Operation}
  {target : InteractionTarget} {revision : Revision}

/-- A successful mutation is a replay that changes nothing, or it revises its dispatch. -/
theorem mutation_ok (applied : operation.transition sha256 before = .ok reply after)
    (mutation : operation.mutation? = some (target, revision))
    : (reply.idempotent = true ∧ after = before)
      ∨ (reply.idempotent = false ∧ StoreState.Revised target revision before after) := by
  cases operation with
  | openInteraction request fingerprint =>
    obtain ⟨receipt, opened, rfl⟩ := map_ok.mp applied
    rcases openInteraction_ok opened with ⟨_, _, rfl, rfl⟩ | ⟨_, _, effect⟩
    · exact Or.inl ⟨rfl, rfl⟩
    · refine Or.inr ⟨by rw [effect.receipt_eq]; rfl, ?_⟩
      unfold Operation.mutation? at mutation
      cases draft : request.interaction with
      | message common purpose => simp [draft] at mutation
      | decision common response replyCapability =>
        simp only [draft, Option.some.injEq, Prod.mk.injEq] at mutation
        obtain ⟨rfl, rfl⟩ := mutation
        refine .of_updateFirst effect.dispatches_eq request.update_sameContract
          effect.found effect.revision ?_
        simp [OpenInteractionRequest.update, draft]
  | answer request fingerprint =>
    cases mutation
    obtain ⟨receipt, answered, rfl⟩ := map_ok.mp applied
    rcases answer_ok answered with ⟨_, _, rfl, rfl⟩ | ⟨_, _, _, _, _, effect⟩
    · exact Or.inl ⟨rfl, rfl⟩
    · refine Or.inr ⟨by rw [effect.receipt_eq]; rfl, ?_⟩
      exact .of_updateFirst effect.dispatches_eq DispatchRecord.unblock_sameContract
        effect.found effect.revision rfl
  | complete request fingerprint =>
    cases mutation
    obtain ⟨receipt, completed, rfl⟩ := map_ok.mp applied
    rcases complete_ok completed with ⟨_, _, rfl, rfl⟩ | ⟨_, _, effect⟩
    · exact Or.inl ⟨rfl, rfl⟩
    · refine Or.inr ⟨by rw [effect.receipt_eq]; rfl, ?_⟩
      exact .of_updateFirst effect.dispatches_eq DispatchRecord.finish_sameContract
        effect.found effect.revision rfl
  | setDispatchDeadline request fingerprint =>
    cases mutation
    obtain ⟨receipt, deadlineSet, rfl⟩ := map_ok.mp applied
    rcases setDispatchDeadline_ok deadlineSet with ⟨_, _, rfl, rfl⟩ | ⟨_, _, _, effect⟩
    · exact Or.inl ⟨rfl, rfl⟩
    · refine Or.inr ⟨by rw [effect.receipt_eq]; rfl, ?_⟩
      exact .of_updateFirst effect.dispatches_eq request.update_sameContract effect.found
        effect.revision rfl
  | _ => cases mutation

/-- Every dispatch of `before` has the same revision in `after`. -/
def StoreState.SameRevisions (before after : StoreState) : Prop :=
  ∀ target revision, before.revisionAt target = some revision
    → after.revisionAt target = some revision

theorem StoreState.SameRevisions.trans {first second third : StoreState}
    (earlier : first.SameRevisions second) (later : second.SameRevisions third)
    : first.SameRevisions third :=
  fun target revision found => later target revision (earlier target revision found)

/-- A step of a request that is not a mutation changes no revision. -/
theorem Step.sameRevisions (step : Step sha256 operation before after)
    (noMutation : operation.mutation? = none)
    : before.SameRevisions after := by
  intro target revision found
  cases step with
  | created effect =>
    unfold revisionAt at found ⊢
    obtain ⟨dispatch, isFound, rfl⟩ := Option.map_eq_some_iff.mp found
    rw [effect.dispatches_eq, List.find?_append, isFound]
    rfl
  | @opened request fingerprint _ _ _ _ _ effect =>
    -- only a message is not a mutation, and it leaves its dispatch alone
    have stays (dispatch : DispatchRecord) : request.update dispatch = dispatch := by
      unfold Operation.mutation? at noMutation
      unfold OpenInteractionRequest.update
      cases draft : request.interaction <;> simp [draft] at noMutation ⊢
    have unchanged : after.dispatches = before.dispatches := by
      rw [effect.dispatches_eq, funext stays, ← Function.id_def, updateFirst_id]
    unfold revisionAt at found ⊢
    rwa [unchanged]
  | answered effect | completed effect | deadlineSet effect => cases noMutation
  | expired effect =>
    unfold revisionAt at found ⊢
    rw [effect.dispatches_eq, ← found]
    refine find?_map_modify ?_ ?_ _ _ <;> intro dispatch <;> rfl
  | woken effect | read effect | batchRead _ _ effect => rwa [effect.after_eq]

/-- A request that revises a dispatch found it at the expected revision and raised that
by one. -/
theorem perform_revises
    (revises : operation.revises target revision (state.perform sha256 operation).1)
    : StoreState.Revised target revision state (state.perform sha256 operation).2 := by
  simp only [Operation.revises, Bool.and_eq_true, beq_iff_eq] at revises
  obtain ⟨mutation, fresh⟩ := revises
  split at fresh
  · rename_i reply succeeded
    rcases mutation_ok (perform_ok.mp succeeded) mutation with ⟨replayed, _⟩ | ⟨_, revised⟩
    · simp [replayed] at fresh
    · exact revised
  · cases fresh

/-- A request that does not revise the dispatch of `target` leaves its revision. -/
theorem perform_sameRevision
    (idle : ∀ revision, ¬operation.revises target revision (state.perform sha256 operation).1)
    (found : state.revisionAt target = some revision)
    : (state.perform sha256 operation).2.revisionAt target = some revision := by
  cases mutation : operation.mutation? with
  | none =>
    exact perform_relation (fun _ _ _ found => found) .trans
      (fun _ _ step => step.sameRevisions mutation) state target revision found
  | some named =>
    obtain ⟨other, expected⟩ := named
    cases succeeded : (state.perform sha256 operation).1 with
    | error error => rwa [perform_error succeeded]
    | ok reply =>
      rcases mutation_ok (perform_ok.mp succeeded) mutation
        with ⟨_, unchanged⟩ | ⟨fresh, revised⟩
      · rwa [unchanged]
      · by_cases same : target = other
        · subst same
          refine absurd ?_ (idle expected)
          simp [Operation.revises, mutation, succeeded, fresh]
        · rwa [revised.others target same]

end Requests

/-- The requests of a run that update the dispatch of `target` at `revision`. -/
def revisers (sha256 : String → String) (start : StoreState) (operations : List Operation)
    (target : InteractionTarget) (revision : Revision)
    : List (StoreState × Operation × Except StoreError Reply) :=
  ((store sha256).exchanges start operations).filter (fun exchange =>
    exchange.2.1.revises target revision exchange.2.2)

section Revisers

variable {sha256 : String → String} {start : StoreState} {operation : Operation}
  {target : InteractionTarget} {revision : Revision}

theorem revisers_cons_revises (rest : List Operation)
    (revises : operation.revises target revision (start.perform sha256 operation).1)
    : revisers sha256 start (operation :: rest) target revision
      = (start, operation, (start.perform sha256 operation).1)
        :: revisers sha256 (start.perform sha256 operation).2 rest target revision :=
  List.filter_cons_of_pos revises

theorem revisers_cons_idle (rest : List Operation)
    (idle : ¬operation.revises target revision (start.perform sha256 operation).1)
    : revisers sha256 start (operation :: rest) target revision
      = revisers sha256 (start.perform sha256 operation).2 rest target revision :=
  List.filter_cons_of_neg idle

end Revisers

/-- Once a dispatch has passed a revision, no request updates it there. -/
theorem revisers_passed (at_ : start.revisionAt target = some current)
    (passed : revision < current)
    : revisers sha256 start operations target revision = [] := by
  induction operations generalizing start current with
  | nil => rfl
  | cons operation rest ih =>
    have idle : ¬operation.revises target revision (start.perform sha256 operation).1 := by
      intro revises
      have expected := (perform_revises revises).expected
      rw [at_] at expected
      cases expected
      exact absurd passed (Nat.lt_irrefl _)
    rw [revisers_cons_idle rest idle]
    by_cases revised
      : ∃ other, operation.revises target other (start.perform sha256 operation).1
    · obtain ⟨other, revises⟩ := revised
      have change := perform_revises revises
      obtain rfl : current = other := by simpa [at_] using change.expected
      exact ih change.raised (Nat.lt_succ_of_lt passed)
    · exact ih (perform_sameRevision (not_exists.mp revised) at_) passed

/-- No update is lost: in every run at most one request updates a dispatch at a given
revision. Such a request finds the dispatch there and raises its revision by one, and every
other request leaves the revision alone. -/
theorem no_lost_update (sha256 : String → String) (start : StoreState)
    (operations : List Operation) (target : InteractionTarget)
    : (∀ revision, (revisers sha256 start operations target revision).length ≤ 1)
      ∧ ∀ exchange ∈ (store sha256).exchanges start operations,
        (∀ revision, exchange.2.1.revises target revision exchange.2.2
          → exchange.1.revisionAt target = some revision
            ∧ (exchange.1.perform sha256 exchange.2.1).2.revisionAt target
              = some (revision + 1))
        ∧ ((∀ revision, ¬exchange.2.1.revises target revision exchange.2.2)
          → ∀ revision, exchange.1.revisionAt target = some revision
            → (exchange.1.perform sha256 exchange.2.1).2.revisionAt target
              = some revision) := by
  constructor
  · intro revision
    induction operations generalizing start with
    | nil => simp [revisers, Machine.exchanges]
    | cons operation rest ih =>
      by_cases revises : operation.revises target revision (start.perform sha256 operation).1
      · rw [revisers_cons_revises rest revises,
          revisers_passed (perform_revises revises).raised (Nat.lt_succ_self _)]
        exact Nat.le_refl 1
      · rw [revisers_cons_idle rest revises]
        exact ih _
  · intro exchange member
    have answered := (store sha256).exchanges_answer member
    constructor
    · intro revision revises
      rw [answered] at revises
      have revised := perform_revises revises
      exact ⟨revised.expected, revised.raised⟩
    · intro idle revision found
      rw [answered] at idle
      exact perform_sameRevision idle found

end Dure.Orchestration
