import Dure.Orchestration.Store.Coherence

/-! Blocking agreement. The dispatches and the decisions are separate collections, and every
operation keeps them in step: a dispatch is blocked exactly while one decision of its target
is unanswered, and it names that decision.
-/

namespace Dure.Orchestration

open Library List StoreState InteractionRecord

/-- An unanswered decision of `target`. -/
def InteractionRecord.isOpenFor (target : InteractionTarget) : InteractionRecord → Bool
  | .decision common _ _ .open => common.target == target
  | _ => false

def StoreState.openDecisions (state : StoreState) (target : InteractionTarget)
    : List InteractionRecord :=
  state.interactions.filter (·.isOpenFor target)

/-- The dispatch is blocked by the only decision, or there is none and it names none. -/
def DispatchRecord.Agrees (dispatch : DispatchRecord) (decisions : List InteractionRecord)
    : Prop :=
  match dispatch.state with
  | .blocked =>
    ∃ decision, decisions = [decision] ∧ dispatch.blockedBy = some decision.common.id
  | .active => decisions = [] ∧ dispatch.blockedBy = none
  | .completed => decisions = [] ∧ dispatch.blockedBy = none

def StoreState.BlockingAgrees (state : StoreState) : Prop :=
  ∀ dispatch ∈ state.dispatches, dispatch.Agrees (state.openDecisions dispatch.target)

section OpenDecisions

variable {sha256 : String → String} {before after : StoreState} {target : InteractionTarget}

theorem InteractionRecord.isOpenFor_target {interaction : InteractionRecord}
    (isOpen : interaction.isOpenFor target = true)
    : interaction.common.target = target := by
  unfold isOpenFor at isOpen
  split at isOpen
  · simpa [common] using isOpen
  · cases isOpen

/-- A target without a dispatch has no decisions. -/
theorem StoreState.Coherent.openDecisions_unplaced (coherent : before.Coherent sha256)
    (unplaced : target ∉ before.targets)
    : before.openDecisions target = [] := by
  refine filter_eq_nil_iff.mpr (fun interaction member isOpen => unplaced ?_)
  exact isOpenFor_target isOpen
    ▸ coherent.interactions_placed interaction member

theorem StoreState.openDecisions_append
    (appended : after.interactions = before.interactions ++ [record])
    (closed : record.isOpenFor target = false)
    : after.openDecisions target = before.openDecisions target := by
  unfold openDecisions
  rw [appended, filter_append]
  simp [closed]

variable {dispatch : DispatchRecord} {decisions : List InteractionRecord}

section

variable (agrees : dispatch.Agrees decisions)
include agrees

/-- The agreement of an active dispatch: no decision is open. -/
theorem DispatchRecord.Agrees.of_active (active : dispatch.state = .active)
    : decisions = [] ∧ dispatch.blockedBy = none := by
  unfold DispatchRecord.Agrees at agrees
  rwa [active] at agrees

/-- The agreement of a blocked dispatch: one decision is open. -/
theorem DispatchRecord.Agrees.of_blocked (blocked : dispatch.state = .blocked)
    : ∃ decision, decisions = [decision] ∧ dispatch.blockedBy = some decision.common.id := by
  unfold DispatchRecord.Agrees at agrees
  rwa [blocked] at agrees

theorem DispatchRecord.Agrees.congr {successor : DispatchRecord} (state : successor.state = dispatch.state)
    (blockedBy : successor.blockedBy = dispatch.blockedBy)
    : successor.Agrees decisions := by
  unfold DispatchRecord.Agrees at agrees ⊢
  rwa [state, blockedBy]

/-- Blocking is the same as having an open decision. -/
theorem DispatchRecord.Agrees.blocked_iff
    : dispatch.state = .blocked ↔ decisions ≠ [] := by
  unfold DispatchRecord.Agrees at agrees
  cases state : dispatch.state <;> rw [state] at agrees
  · simp [agrees.1]
  · obtain ⟨decision, only, _⟩ := agrees
    simp [only]
  · simp [agrees.1]

end

end OpenDecisions

section Steps

variable {sha256 : String → String} {before after : StoreState}
  {update : DispatchRecord → DispatchRecord} {target : InteractionTarget}
  {dispatch : DispatchRecord} {operation : Operation}

/-- A write to one dispatch keeps the agreement when it keeps it there and the decisions of
the other targets are untouched. -/
theorem StoreState.BlockingAgrees.updateFirst (agrees : before.BlockingAgrees)
    (unique : before.targets.Nodup)
    (found : before.dispatches.find? (·.target == target) = some dispatch)
    (updated : after.dispatches = updateFirst (·.target == target) update before.dispatches)
    (sameTarget : (update dispatch).target = dispatch.target)
    (here : (update dispatch).Agrees (after.openDecisions target))
    (others
      : ∀ other, other ≠ target → after.openDecisions other = before.openDecisions other)
    : after.BlockingAgrees := by
  intro other member
  rw [updated] at member
  rcases mem_updateFirst_key unique member with ⟨old, isOther⟩ | ⟨old, isOld, rfl⟩
  · rw [others _ isOther]
    exact agrees other old
  · obtain rfl : dispatch = old := by simpa [found] using isOld
    have isTarget : dispatch.target = target := by simpa using find?_some found
    rwa [sameTarget, isTarget]

/-- The agreement of the dispatch that a search by target finds. -/
theorem StoreState.BlockingAgrees.found (agrees : before.BlockingAgrees)
    (found : before.dispatches.find? (·.target == target) = some dispatch)
    : dispatch.Agrees (before.openDecisions target) := by
  have isTarget : dispatch.target = target := by simpa using find?_some found
  exact isTarget ▸ agrees dispatch (mem_of_find?_eq_some found)

theorem Created.blockingAgrees
    (effect : Created sha256 request context fingerprint entries receipt before after)
    (coherent : before.Coherent sha256) (agrees : before.BlockingAgrees)
    : after.BlockingAgrees := by
  have same (target : InteractionTarget)
      : after.openDecisions target = before.openDecisions target := by
    unfold openDecisions
    rw [effect.interactions_eq]
  intro dispatch member
  rw [effect.dispatches_eq] at member
  rw [same]
  rcases mem_append.mp member with old | new
  · exact agrees dispatch old
  · rw [mem_singleton.mp new]
    refine ⟨coherent.openDecisions_unplaced (fun placed => ?_), rfl⟩
    obtain ⟨other, isOther, sameTarget⟩ := mem_map.mp placed
    exact effect.absent other isOther sameTarget

/-- A message leaves the dispatch alone; a decision finds it active, so it becomes the only
open one. -/
theorem Expired.blockingAgrees {id}
    (effect : Expired sha256 nowMs index dispatch deadline id entries before after)
    (agrees : before.BlockingAgrees)
    : after.BlockingAgrees := by
  intro other member
  rw [openDecisions_append effect.interactions_eq rfl]
  rw [effect.dispatches_eq] at member
  rcases mem_modify member with old | ⟨old, isOld, rfl⟩
  · exact agrees other old
  · exact (agrees old (mem_of_getElem? isOld)).congr rfl rfl

section

variable (coherent : before.Coherent sha256)
include coherent

section

variable (agrees : before.BlockingAgrees)
include agrees

theorem Opened.blockingAgrees
    (effect : Opened sha256 request fingerprint dispatch entries receipt before after)
    : after.BlockingAgrees := by
  have agreed := agrees.found effect.found
  have allowed := effect.allowed
  unfold OpenInteractionRequest.Allowed at allowed
  cases draft : request.interaction with
  | message common purpose =>
    have closed (target : InteractionTarget) : request.record.isOpenFor target = false := by
      rw [OpenInteractionRequest.record, draft]
      rfl
    have stays : request.update dispatch = dispatch := by
      simp [OpenInteractionRequest.update, draft]
    refine agrees.updateFirst coherent.targets_unique effect.found effect.dispatches_eq
      (by rw [stays]) ?_ (fun other _ =>
        openDecisions_append effect.interactions_eq (closed other))
    rw [stays, openDecisions_append effect.interactions_eq (closed _)]
    exact agreed
  | decision common response replyCapability =>
    rw [draft] at allowed
    have isTarget : common.target = request.target := by
      rw [OpenInteractionRequest.target, draft]
      rfl
    have isOpen (target : InteractionTarget)
        : request.record.isOpenFor target = (request.target == target) := by
      rw [OpenInteractionRequest.record, draft, ← isTarget]
      rfl
    refine agrees.updateFirst coherent.targets_unique effect.found effect.dispatches_eq
      (request.update_sameContract dispatch).target ?_ ?_
    · have opened : after.openDecisions request.target = [request.record] := by
        have none := (agreed.of_active allowed).1
        unfold openDecisions at none ⊢
        rw [effect.interactions_eq, filter_append, none]
        simp [isOpen]
      rw [opened, OpenInteractionRequest.update, draft]
      refine ⟨request.record, rfl, ?_⟩
      rw [request.record_common, draft]
      rfl
    · intro other isOther
      refine openDecisions_append effect.interactions_eq ?_
      rw [isOpen]
      exact beq_false_of_ne isOther.symm

/-- The decision found is the only open one of its target, and its answer closes it. -/
theorem Answered.blockingAgrees {request fingerprint common response replyCapability dispatch
    entries receipt}
    (effect
      : Answered sha256 request fingerprint common response replyCapability dispatch entries
          receipt before after)
    : after.BlockingAgrees := by
  obtain ⟨decision, only, _⟩ := (agrees.found effect.found).of_blocked effect.blocked
  refine agrees.updateFirst coherent.targets_unique effect.found effect.dispatches_eq rfl ?_ ?_
  · refine ⟨?_, rfl⟩
    unfold openDecisions at only ⊢
    rw [effect.interactions_eq]
    exact filter_updateFirst_only only effect.decision_found
      (by simp [isOpenFor, effect.target_eq]) rfl
  · intro other isOther
    unfold openDecisions
    rw [effect.interactions_eq]
    refine filter_updateFirst_outside (fun old isOld => ⟨?_, rfl⟩)
    rw [effect.decision_found] at isOld
    cases isOld
    rw [isOpenFor, effect.target_eq]
    exact beq_false_of_ne isOther.symm

theorem Completed.blockingAgrees
    (effect : Completed sha256 request fingerprint dispatch entries receipt before after)
    : after.BlockingAgrees := by
  have same (target : InteractionTarget)
      : after.openDecisions target = before.openDecisions target :=
    openDecisions_append effect.interactions_eq rfl
  refine agrees.updateFirst coherent.targets_unique effect.found effect.dispatches_eq rfl ?_
    (fun other _ => same other)
  rw [same]
  exact (agrees.found effect.found).of_active effect.active

theorem DeadlineSet.blockingAgrees {id}
    (effect : DeadlineSet sha256 request fingerprint dispatch id entries receipt before after)
    : after.BlockingAgrees := by
  have same (target : InteractionTarget)
      : after.openDecisions target = before.openDecisions target :=
    openDecisions_append effect.interactions_eq rfl
  refine agrees.updateFirst coherent.targets_unique effect.found effect.dispatches_eq rfl ?_
    (fun other _ => same other)
  rw [same]
  exact (agrees.found effect.found).congr rfl rfl

theorem Step.blockingAgrees (step : Step sha256 operation before after)
    : after.BlockingAgrees := by
  cases step with
  | created effect | opened effect | answered effect | completed effect
  | deadlineSet effect => exact effect.blockingAgrees coherent agrees
  | expired effect => exact effect.blockingAgrees agrees
  | woken effect | read effect | batchRead _ _ effect => rw [effect.after_eq]; exact agrees

end

end

/-- Every completed dispatch of `after` was completed in `before`. -/
def StoreState.CompletedFrom (before after : StoreState) : Prop :=
  ∀ successor ∈ after.dispatches, successor.state = .completed
    → ∃ dispatch ∈ before.dispatches, dispatch.target = successor.target
      ∧ dispatch.state = .completed

theorem StoreState.CompletedFrom.refl (state : StoreState) : state.CompletedFrom state :=
  fun successor member completed => ⟨successor, member, rfl, completed⟩

theorem StoreState.CompletedFrom.trans {first second third : StoreState}
    (earlier : first.CompletedFrom second) (later : second.CompletedFrom third)
    : first.CompletedFrom third := by
  intro successor member completed
  obtain ⟨middle, isMiddle, sameMiddle, completedMiddle⟩ := later successor member completed
  obtain ⟨old, isOld, sameOld, completedOld⟩ := earlier middle isMiddle completedMiddle
  exact ⟨old, isOld, sameOld.trans sameMiddle, completedOld⟩

theorem StoreState.CompletedFrom.updateFirst
    (updated : after.dispatches = updateFirst (·.target == target) update before.dispatches)
    (keeps
      : ∀ dispatch, (update dispatch).target = dispatch.target
        ∧ ((update dispatch).state = .completed → dispatch.state = .completed))
    : before.CompletedFrom after := by
  intro successor member completed
  rw [updated] at member
  rcases mem_updateFirst member with old | ⟨old, isOld, rfl⟩
  · exact ⟨successor, old, rfl, completed⟩
  · obtain ⟨sameTarget, stays⟩ := keeps old
    exact ⟨old, mem_of_find?_eq_some isOld, sameTarget.symm, stays completed⟩

/-- Only a completion completes a dispatch. -/
theorem Step.completedFrom (step : Step sha256 operation before after)
    (other : ∀ request fingerprint, operation ≠ .complete request fingerprint)
    : before.CompletedFrom after := by
  cases step with
  | created effect =>
    intro successor member completed
    rw [effect.dispatches_eq] at member
    rcases mem_append.mp member with old | new
    · exact ⟨successor, old, rfl, completed⟩
    · rw [mem_singleton.mp new] at completed
      cases completed
  | opened effect =>
    refine .updateFirst effect.dispatches_eq (fun dispatch => ?_)
    unfold OpenInteractionRequest.update
    split <;> simp
  | answered effect =>
    exact .updateFirst effect.dispatches_eq (fun _ => ⟨rfl, fun completed => by cases completed⟩)
  | completed effect => exact absurd rfl (other _ _)
  | deadlineSet effect => exact .updateFirst effect.dispatches_eq (fun _ => ⟨rfl, id⟩)
  | expired effect =>
    intro successor member completed
    rw [effect.dispatches_eq] at member
    rcases mem_modify member with old | ⟨old, isOld, rfl⟩
    · exact ⟨successor, old, rfl, completed⟩
    · exact ⟨old, mem_of_getElem? isOld, rfl, completed⟩
  | woken effect | read effect | batchRead _ _ effect =>
    rw [effect.after_eq]
    exact .refl before

end Steps

section Runs

variable {sha256 : String → String} {state : StoreState}

/-- No two dispatches have one target. -/
theorem StoreState.Coherent.dispatch_unique (coherent : state.Coherent sha256)
    (isFirst : first ∈ state.dispatches) (isSecond : second ∈ state.dispatches)
    (same : first.target = second.target)
    : first = second :=
  inj_on_of_nodup_map coherent.targets_unique isFirst isSecond same

/-- A dispatch that one request completes was active before. -/
theorem perform_completes {operation : Operation} (coherent : state.Coherent sha256)
    (isDispatch : dispatch ∈ state.dispatches)
    (isSuccessor : successor ∈ (state.perform sha256 operation).2.dispatches)
    (same : successor.target = dispatch.target) (unfinished : dispatch.state ≠ .completed)
    (finished : successor.state = .completed)
    : dispatch.state = .active := by
  -- a dispatch that was completed before is this one
  have notBefore (old : DispatchRecord) (isOld : old ∈ state.dispatches)
      (sameOld : old.target = successor.target) (completed : old.state = .completed) : False := by
    rw [coherent.dispatch_unique isOld isDispatch (sameOld.trans same)] at completed
    exact unfinished completed
  by_cases completion : ∃ request fingerprint, operation = .complete request fingerprint
  · obtain ⟨request, fingerprint, rfl⟩ := completion
    rcases perform_cases sha256 state (.complete request fingerprint)
      with ⟨_, applied⟩ | unchanged
    · obtain ⟨_, applied, _⟩ := Update.map_ok.mp applied
      rcases complete_ok applied with ⟨_, _, _, unchanged⟩ | ⟨active, _, effect⟩
      · rw [unchanged] at isSuccessor
        exact absurd (notBefore successor isSuccessor rfl finished) id
      · rw [effect.dispatches_eq] at isSuccessor
        rcases mem_updateFirst_key coherent.targets_unique isSuccessor
          with ⟨old, _⟩ | ⟨old, isOld, rfl⟩
        · exact absurd (notBefore successor old rfl finished) id
        · obtain rfl : active = old := by simpa [effect.found] using isOld
          rw [← coherent.dispatch_unique (mem_of_find?_eq_some isOld) isDispatch same]
          exact effect.active
    · rw [unchanged] at isSuccessor
      exact absurd (notBefore successor isSuccessor rfl finished) id
  · have from_ : state.CompletedFrom (state.perform sha256 operation).2 := by
      refine perform_relation .refl .trans (fun before after step => ?_) state
      exact step.completedFrom (fun request fingerprint same =>
        completion ⟨request, fingerprint, same⟩)
    obtain ⟨old, isOld, sameOld, completed⟩ := from_ successor isSuccessor finished
    exact absurd (notBefore old isOld sameOld completed) id

/-- A seeded store whose dispatches are active agrees: it holds no decisions. -/
theorem StoreState.seeded_blockingAgrees {dispatches : List DispatchRecord}
    (seeded : StoreState.seeded dispatches = .ok state)
    (active : ∀ dispatch ∈ dispatches, dispatch.state = .active)
    : state.BlockingAgrees := by
  obtain ⟨⟨valid, _⟩, rfl⟩ := seeded_ok.mp seeded
  intro dispatch member
  have isActive := active dispatch member
  have blocking : dispatch.validateBlocking = .ok () := by
    have dispatchValid := valid dispatch member
    simp only [DispatchRecord.validate, Check.seq_ok] at dispatchValid
    exact dispatchValid.2.2.2.2.2.2.2.2
  unfold DispatchRecord.Agrees
  unfold DispatchRecord.validateBlocking at blocking
  rw [isActive] at blocking ⊢
  cases named : dispatch.blockedBy with
  | none => exact ⟨rfl, rfl⟩
  | some interactionId => simp [named, Check.throw_ok] at blocking

/-- After every run from active dispatches: a dispatch is blocked exactly while it has an
open decision, which is then the only one and is named by it; a completed dispatch stays
completed; and no request completes a dispatch that has an open decision. -/
theorem blocking_agreement {dispatches : List DispatchRecord} {seed : StoreState}
    (seeded : StoreState.seeded dispatches = .ok seed)
    (active : ∀ dispatch ∈ dispatches, dispatch.state = .active)
    (operations : List Operation)
    : let reached := (store sha256).after seed operations
      (∀ dispatch ∈ reached.dispatches,
        (dispatch.state = .blocked
          ↔ ∃ decision ∈ reached.interactions, decision.isOpenFor dispatch.target)
        ∧ (dispatch.state = .blocked
          → ∃ decision, reached.openDecisions dispatch.target = [decision]
            ∧ dispatch.blockedBy = some decision.common.id)
        ∧ (dispatch.state ≠ .blocked → reached.openDecisions dispatch.target = []))
      ∧ (∀ dispatch ∈ reached.dispatches, dispatch.state = .completed
        → ∀ later, ∃ successor,
          ((store sha256).after reached later).dispatches.find? (·.target == dispatch.target)
            = some successor
          ∧ successor.state = .completed)
      ∧ (∀ operation, ∀ dispatch ∈ reached.dispatches,
        ∀ successor ∈ (reached.perform sha256 operation).2.dispatches,
          successor.target = dispatch.target → dispatch.state ≠ .completed
          → successor.state = .completed → reached.openDecisions dispatch.target = []) := by
  intro reached
  have coherent : reached.Coherent sha256 :=
    store_coherent operations (seeded_coherent seeded)
  have agrees : reached.BlockingAgrees :=
    store_invariant (fun _ _ _ step => step.blockingAgrees) operations
      (seeded_coherent seeded) (seeded_blockingAgrees seeded active)
  refine ⟨?_, ?_, ?_⟩
  · intro dispatch member
    have agreed := agrees dispatch member
    refine ⟨?_, agreed.of_blocked, fun unblocked => ?_⟩
    · rw [agreed.blocked_iff, openDecisions, ne_eq, filter_eq_nil_iff]
      push Not
      rfl
    · by_contra isOpen
      exact unblocked (agreed.blocked_iff.mpr isOpen)
  · intro dispatch member completed later
    obtain ⟨successor, found, continues⟩ :=
      (store_extends sha256 reached later).dispatches.find?
        (fun continues => by rw [continues.target])
        (find?_of_nodup coherent.targets_unique member)
    exact ⟨successor, found, continues.completed completed⟩
  · intro operation dispatch member successor isSuccessor same unfinished finished
    have wasActive := perform_completes coherent member isSuccessor same unfinished finished
    exact ((agrees dispatch member).of_active wasActive).1

/-- Witness: the worker's question blocks its dispatch. -/
theorem blocking_agreement_sample
    : let reached := (store sampleSha256).after sampleSeed
        [.openInteraction sampleDecision sampleDigest]
      ∀ dispatch ∈ reached.dispatches, dispatch.state = .blocked
        ∧ ∃ decision, reached.openDecisions dispatch.target = [decision]
          ∧ dispatch.blockedBy = some decision.common.id := by
  intro reached dispatch member
  have agreement := @blocking_agreement sampleSha256 _ _ sampleSeed_seeded (by decide)
    [.openInteraction sampleDecision sampleDigest]
  have blocked : dispatch.state = .blocked := by
    revert dispatch
    decide +kernel
  exact ⟨blocked, (agreement.1 dispatch member).2.1 blocked⟩

end Runs

end Dure.Orchestration
