import Dure.Orchestration.Store.Runs
import Dure.Orchestration.Store.Resolutions
import Dure.Orchestration.Store.DeadlineCommits
import Dure.Orchestration.Store.DeliveryEffects

/-! Every successful operation is a sequence of elementary steps: none for a replay or a
query, one for a commit, a wake or a read, and several for a batch or an expiry.
-/

namespace Dure.Orchestration

open Library Update Relation

/-- An elementary step of an operation. -/
inductive Step (sha256 : String → String) : Operation → StoreState → StoreState → Prop where
  | created {request context fingerprint entries receipt before after}
    (effect : Created sha256 request context fingerprint entries receipt before after)
    : Step sha256 (.createRun request context fingerprint) before after
  | opened {request fingerprint dispatch entries receipt before after}
    (effect : Opened sha256 request fingerprint dispatch entries receipt before after)
    : Step sha256 (.openInteraction request fingerprint) before after
  | answered {request fingerprint common response replyCapability dispatch entries receipt
      before after}
    (effect
      : Answered sha256 request fingerprint common response replyCapability dispatch entries
          receipt before after)
    : Step sha256 (.answer request fingerprint) before after
  | completed {request fingerprint dispatch entries receipt before after}
    (effect : Completed sha256 request fingerprint dispatch entries receipt before after)
    : Step sha256 (.complete request fingerprint) before after
  | deadlineSet {request fingerprint dispatch id entries receipt before after}
    (effect : DeadlineSet sha256 request fingerprint dispatch id entries receipt before after)
    : Step sha256 (.setDispatchDeadline request fingerprint) before after
  | expired {nowMs index dispatch deadline id entries before after}
    (effect : Expired sha256 nowMs index dispatch deadline id entries before after)
    : Step sha256 (.expireDispatchDeadlines nowMs) before after
  | woken {request delivery replacement before after}
    (effect : Woken request delivery replacement before after)
    : Step sha256 (.transitionDeliveryWake request) before after
  | read {request fingerprint clock selected observedAtMs receipt before after}
    (effect
      : EventsRead request fingerprint clock selected observedAtMs receipt before after)
    : Step sha256 (.readEvents request fingerprint clock) before after
  | batchRead {authority requests item selected observedAtMs receipt before after}
    (member : item ∈ requests) (scope : item.1.request.authority = authority)
    (effect
      : EventsRead item.1.request item.1.acknowledgementFingerprint item.2 selected
          observedAtMs receipt before after)
    : Step sha256 (.readEventsBatch authority requests) before after

variable {sha256 : String → String} {operation : Operation} {before after : StoreState}

/-- A batch is a sequence of reads. Witness: induction on the batch, with the items still to
be read contained in the request's. -/
theorem BatchRead.steps (batch : BatchRead authority items results before after)
    (inside : items ⊆ requests)
    : ReflTransGen (Step sha256 (.readEventsBatch authority requests)) before after := by
  induction batch with
  | nil => exact .refl
  | read scope first _ ih =>
    exact .head (.batchRead (inside List.mem_cons_self) scope first)
      (ih (List.subset_of_cons_subset inside))
  | failed _ _ ih => exact ih (List.subset_of_cons_subset inside)

theorem expireDispatchDeadlines_steps
    (applied : expireDispatchDeadlines sha256 nowMs before = .ok count after)
    : ReflTransGen (Step sha256 (.expireDispatchDeadlines nowMs)) before after := by
  refine expireDispatchDeadlines_induction
    (fun _ state => ReflTransGen (Step sha256 (.expireDispatchDeadlines nowMs)) before state)
    (fun _ _ _ steps => steps) ?_ applied .refl
  intro _ _ _ _ _ _ _ expired steps
  exact steps.tail (.expired expired)

theorem transition_steps (applied : operation.transition sha256 before = .ok reply after)
    : ReflTransGen (Step sha256 operation) before after := by
  cases operation with
  | createRun request context fingerprint =>
    obtain ⟨receipt, applied, _⟩ := map_ok.mp applied
    rcases createRun_ok applied with ⟨_, _, _, rfl⟩ | ⟨_, effect⟩
    · exact .refl
    · exact .single (.created effect)
  | openInteraction request fingerprint =>
    obtain ⟨receipt, applied, _⟩ := map_ok.mp applied
    rcases openInteraction_ok applied with ⟨_, _, _, rfl⟩ | ⟨_, _, effect⟩
    · exact .refl
    · exact .single (.opened effect)
  | answer request fingerprint =>
    obtain ⟨receipt, applied, _⟩ := map_ok.mp applied
    rcases answer_ok applied with ⟨_, _, _, rfl⟩ | ⟨_, _, _, _, _, effect⟩
    · exact .refl
    · exact .single (.answered effect)
  | complete request fingerprint =>
    obtain ⟨receipt, applied, _⟩ := map_ok.mp applied
    rcases complete_ok applied with ⟨_, _, _, rfl⟩ | ⟨_, _, effect⟩
    · exact .refl
    · exact .single (.completed effect)
  | transitionDeliveryWake request =>
    obtain ⟨receipt, applied, _⟩ := map_ok.mp applied
    rcases transitionDeliveryWake_ok applied with ⟨_, rfl⟩ | ⟨_, _, effect, _⟩
    · exact .refl
    · exact .single (.woken effect)
  | readEvents request fingerprint clock =>
    obtain ⟨_, read, _⟩ := map_ok.mp applied
    obtain ⟨⟨_, _, effect⟩, _⟩ := readEvents_ok read
    exact .single (.read effect)
  | readEventsBatch authority requests =>
    obtain ⟨_, read, _⟩ := map_ok.mp applied
    exact (readEventsItems_ok read).steps (List.Subset.refl _)
  | setDispatchDeadline request fingerprint =>
    obtain ⟨receipt, applied, _⟩ := map_ok.mp applied
    rcases setDispatchDeadline_ok applied with ⟨_, _, _, rfl⟩ | ⟨_, _, _, effect⟩
    · exact .refl
    · exact .single (.deadlineSet effect)
  | expireDispatchDeadlines nowMs =>
    obtain ⟨_, applied, _⟩ := map_ok.mp applied
    exact expireDispatchDeadlines_steps applied
  | interaction request | interactionProgress request =>
    obtain ⟨_, got, _⟩ := map_ok.mp applied
    exact (get_ok.mp got).2 ▸ .refl
  | inspectEvents inspection | dispatchDeadline request =>
    simp only [Operation.transition, get_bind_ok, map_ok, check_ok] at applied
    obtain ⟨_, ⟨_, rfl⟩, _⟩ := applied
    exact .refl

/-- What every elementary step of a request keeps, the request keeps. -/
theorem perform_invariant {invariant : StoreState → Prop}
    (keeps
      : ∀ before after,
      Step sha256 operation before after → invariant before → invariant after)
    (state : StoreState) (holds : invariant state)
    : invariant (state.perform sha256 operation).2 := by
  refine perform_keeps (fun reply candidate applied => ?_) holds
  have steps := transition_steps applied
  clear applied
  induction steps with
  | refl => exact holds
  | tail _ step ih => exact keeps _ _ step ih

/-- A preorder that every elementary step of a request respects is respected by the
request. -/
theorem perform_relation {relation : StoreState → StoreState → Prop}
    (refl : ∀ state, relation state state)
    (trans
      : ∀ {first second third}, relation first second → relation second third
      → relation first third)
    (advances : ∀ before after, Step sha256 operation before after → relation before after)
    (state : StoreState)
    : relation state (state.perform sha256 operation).2 :=
  perform_invariant
    (fun before after step related => trans related (advances before after step)) state
    (refl state)

end Dure.Orchestration
