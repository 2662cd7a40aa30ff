import Dure.Orchestration.Store.Coherence

/-! The wake of a delivery over a whole run. The transitions applied to one delivery form a
trace that starts with a request, alternates claims with their outcomes and ends for good with
a triggered wake, so a worker is prompted at most once per claim.
-/

namespace Dure.Orchestration

open Library List

/-- The applied transitions, by the wake state they meet and the one they lead to. -/
inductive WakeStep
    : DeliveryWakeTransition → Option DeliveryWakeState → DeliveryWakeState → Prop where
  | requested : WakeStep .request none .pending
  | refused : WakeStep .request none .queuedUntilNextTurn
  | claimed {phase} (ready : phase = .pending ∨ phase = .queuedUntilNextTurn)
    : WakeStep .claim (some phase) .uncertain
  | triggered {effectRef} : WakeStep (.triggered effectRef) (some .uncertain) .triggered
  | deferred {reasonCode}
    : WakeStep (.queuedUntilNextTurn reasonCode) (some .uncertain) .queuedUntilNextTurn

/-- The transitions applied to one delivery so far, and the wake state they led to. -/
inductive WakeTrace : List DeliveryWakeTransition → Option DeliveryWakeState → Prop where
  | start : WakeTrace [] none
  | step {applied phase transition next} (earlier : WakeTrace applied phase)
    (move : WakeStep transition phase next)
    : WakeTrace (applied ++ [transition]) (some next)

/-- The transition reports how a claimed wake ended. -/
def DeliveryWakeTransition.isOutcome : DeliveryWakeTransition → Bool
  | .request => false
  | .claim => false
  | .triggered _ => true
  | .queuedUntilNextTurn _ => true

namespace WakeTrace

variable {applied before after : List DeliveryWakeTransition}
  {phase : Option DeliveryWakeState}

section

variable (trace : WakeTrace applied phase)
include trace

/-- A claim is the last transition while its outcome is unknown. -/
theorem ends_claimed (uncertain : phase = some .uncertain)
    : ∃ earlier, applied = earlier ++ [.claim] := by
  cases trace with
  | start => cases uncertain
  | step _ move =>
    cases uncertain
    cases move
    exact ⟨_, rfl⟩

/-- Only a triggered wake has a triggered transition in its trace. -/
theorem untriggered (notTriggered : phase ≠ some .triggered)
    : ∀ effectRef, .triggered effectRef ∉ applied := by
  induction trace with
  | start => simp
  | step _ move ih =>
    cases move with
    | requested | refused | deferred => simpa using ih (by simp)
    | claimed ready => rcases ready with rfl | rfl <;> simpa using ih (by simp)
    | triggered => exact absurd rfl notTriggered

/-- While a wake may be claimed, every earlier claim was deferred. -/
theorem claims_deferred (ready : phase = some .pending ∨ phase = some .queuedUntilNextTurn)
    (split : applied = before ++ .claim :: after)
    : ∃ reasonCode, .queuedUntilNextTurn reasonCode ∈ after := by
  cases trace with
  | start => simp at split
  | step earlierTrace move =>
    rcases append_singleton_split split with ⟨_, rfl, _⟩ | ⟨rest, rfl, earlier⟩
    · -- the last transition is the claim itself
      cases move
      simp at ready
    · cases move with
      | requested | refused =>
        cases earlierTrace
        simp at earlier
      | claimed | triggered => simp at ready
      | @deferred reasonCode => exact ⟨reasonCode, by simp⟩

/-- Between two claims the first one was deferred. -/
theorem deferred_between (split : applied = (before ++ .claim :: between) ++ .claim :: after)
    : ∃ reasonCode, .queuedUntilNextTurn reasonCode ∈ between := by
  induction trace generalizing after with
  | start => simp at split
  | step earlierTrace move ih =>
    rcases append_singleton_split split with ⟨_, rfl, earlier⟩ | ⟨rest, _, earlier⟩
    · cases move with
      | claimed ready => exact earlierTrace.claims_deferred (by simpa using ready) earlier
    · exact ih earlier

/-- A triggered wake is never claimed again. -/
theorem triggered_final (split : applied = before ++ .triggered effectRef :: after)
    : .claim ∉ after := by
  induction trace generalizing after with
  | start => simp at split
  | step earlierTrace move ih =>
    rcases append_singleton_split split with ⟨rfl, _⟩ | ⟨rest, rfl, earlier⟩
    · simp
    · intro claimed
      rcases mem_append.mp claimed with before | last
      · exact ih earlier before
      · obtain rfl := mem_singleton.mp last
        cases move with
        | claimed ready =>
          refine earlierTrace.untriggered ?_ effectRef (by simp [earlier])
          rcases ready with rfl | rfl <;> simp

/-- An outcome follows the claim it reports on. -/
theorem outcome_after_claim (split : applied = before ++ outcome :: after)
    (isOutcome : outcome.isOutcome)
    : ∃ earlier, before = earlier ++ [.claim] := by
  induction trace generalizing after with
  | start => simp at split
  | step earlierTrace move ih =>
    rcases append_singleton_split split with ⟨_, rfl, earlier⟩ | ⟨rest, _, earlier⟩
    · cases move with
      | requested | refused | claimed => cases isOutcome
      | triggered | deferred => exact earlier ▸ earlierTrace.ends_claimed rfl
    · exact ih earlier

end

end WakeTrace

def StoreState.deliveryOf (state : StoreState) (receiptId : DeliveryReceiptId)
    : Option DeliveryEntry :=
  state.deliveries.find? (·.receipt.receiptId == receiptId)

/-- The wake of the delivery with the given receipt id. -/
def StoreState.wakeOf (state : StoreState) (receiptId : DeliveryReceiptId)
    : Option DeliveryWakeReceipt :=
  (state.deliveryOf receiptId).bind (·.receipt.wake)

/-- The transition a request applied to the delivery, if it did. -/
def appliedWake? (receiptId : DeliveryReceiptId) (operation : Operation)
    (reply : Except StoreError Reply)
    : Option DeliveryWakeTransition :=
  match operation, reply with
  | .transitionDeliveryWake request, .ok (.transitionDeliveryWake receipt) =>
    if request.receiptId = receiptId ∧ receipt.applied then
      some request.transition
    else
      none
  | _, _ => none

/-- The transition was applied to the delivery: its wake moved on, not back in time, and a
deferred wake was claimed only while the delivery was unread. -/
structure StoreState.Rewoken (receiptId : DeliveryReceiptId)
    (transition : DeliveryWakeTransition) (before after : StoreState)
    : Prop where
  moved
    : ∃ wake, after.wakeOf receiptId = some wake
      ∧ WakeStep transition
          ((before.wakeOf receiptId).map DeliveryWakeReceipt.state) wake.state
      ∧ ∀ earlier, before.wakeOf receiptId = some earlier
        → earlier.updatedAtMs ≤ wake.updatedAtMs
  unread
    : transition = .claim
      → (before.wakeOf receiptId).map DeliveryWakeReceipt.state = some .queuedUntilNextTurn
      → ∃ delivery, before.deliveryOf receiptId = some delivery
        ∧ delivery.receipt.state = .queued

variable {operation : Operation} {state start : StoreState} {wake : DeliveryWakeReceipt}

section Requests

variable {sha256 : String → String} {before after : StoreState}
  {receiptId : DeliveryReceiptId}

theorem wakeIs_iff {wake : Option DeliveryWakeReceipt} {state : DeliveryWakeState}
    : wakeIs wake state = true ↔ wake.map DeliveryWakeReceipt.state = some state := by
  cases wake <;> simp [wakeIs]

/-- Every move of the transition table is a step of the trace. -/
theorem WakeMove.step {request : TransitionDeliveryWakeRequest} {unread : Bool}
    (move : WakeMove request unread current replacement)
    : WakeStep request.transition (current.map DeliveryWakeReceipt.state) replacement.state
      ∧ replacement.updatedAtMs = request.transitionedAtMs
      ∧ (request.transition = .claim
        → current.map DeliveryWakeReceipt.state = some .queuedUntilNextTurn
        → unread = true) := by
  cases move with
  | refused asked first _ => exact ⟨by rw [asked, first]; exact .refused, rfl, by simp [first]⟩
  | requested asked first _ =>
    exact ⟨by rw [asked, first]; exact .requested, rfl, by simp [first]⟩
  | claimed asked ready =>
    simp only [wakeIs_iff] at ready
    rw [asked]
    rcases ready with pending | ⟨unread, queued⟩
    · exact ⟨by rw [pending]; exact .claimed (Or.inl rfl), rfl, by simp [pending]⟩
    · exact ⟨by rw [queued]; exact .claimed (Or.inr rfl), rfl, fun _ _ => unread⟩
  | triggered asked claimed =>
    rw [asked, wakeIs_iff.mp claimed]
    exact ⟨.triggered, rfl, by simp⟩
  | deferred asked claimed =>
    rw [asked, wakeIs_iff.mp claimed]
    exact ⟨.deferred, rfl, by simp⟩

theorem Woken.rewoken (effect : Woken request delivery replacement before after)
    : StoreState.Rewoken request.receiptId request.transition before after := by
  have found : before.deliveryOf request.receiptId = some delivery := effect.found
  have wake : before.wakeOf request.receiptId = delivery.receipt.wake := by
    rw [StoreState.wakeOf, found, Option.bind_some]
  have rewritten : after.wakeOf request.receiptId = some replacement := by
    rw [StoreState.wakeOf, StoreState.deliveryOf, effect.after_eq]
    simp only
    rw [find?_updateFirst, effect.found]
    · rfl
    · exact fun _ => rfl
  obtain ⟨step, time, unread⟩ := effect.moves.step
  refine ⟨⟨replacement, rewritten, wake ▸ step, ?_⟩, ?_⟩
  · intro earlier isEarlier
    rw [time]
    exact effect.timely earlier (wake ▸ isEarlier)
  · intro claims deferred
    exact ⟨delivery, found, by simpa using unread claims (wake ▸ deferred)⟩

/-- New deliveries have no wake. -/
theorem Posting.Posted.wakeOf {posting : Posting}
    (posted : posting.Posted sha256 entries before after)
    : after.wakeOf receiptId = before.wakeOf receiptId := by
  unfold StoreState.wakeOf StoreState.deliveryOf
  rw [posted.deliveries_eq, find?_append]
  cases before.deliveries.find? (·.receipt.receiptId == receiptId) with
  | some delivery => rfl
  | none =>
    rw [Option.none_or]
    cases found : entries.find? (·.receipt.receiptId == receiptId) with
    | none => rfl
    | some entry =>
      obtain ⟨_, _, _, _, rfl⟩ := posted.queued entry (mem_of_find?_eq_some found)
      rfl

theorem EventsRead.wakeOf (effect
      : EventsRead request fingerprint clock selected observedAtMs receipt before after)
    : after.wakeOf receiptId = before.wakeOf receiptId := by
  have same (delivery : DeliveryEntry) :=
    before.readDelivery_continues request selected observedAtMs delivery
  unfold StoreState.wakeOf StoreState.deliveryOf
  rw [effect.after_eq, find?_map]
  simp only [Function.comp_def, (same _).receiptId, Option.bind_map,
    StoreState.readDelivery_wake]

theorem Step.wakeOf (step : Step sha256 operation before after)
    (elsewhere
      : ∀ request, operation = .transitionDeliveryWake request
        → request.receiptId ≠ receiptId)
    : after.wakeOf receiptId = before.wakeOf receiptId := by
  cases step with
  | created effect | opened effect | answered effect | completed effect
  | deadlineSet effect | expired effect => exact effect.posted.wakeOf
  | woken effect =>
    unfold StoreState.wakeOf StoreState.deliveryOf
    rw [effect.after_eq]
    simp only
    rw [find?_updateFirst_other]
    · exact fun _ => rfl
    · intro delivery selected
      rw [beq_iff_eq.mp selected]
      exact beq_false_of_ne (elsewhere _ rfl)
  | read effect | batchRead _ _ effect => exact effect.wakeOf

/-- A request that applies no transition to the delivery leaves its wake. -/
theorem perform_wakeOf
    (idle : appliedWake? receiptId operation (state.perform sha256 operation).1 = none)
    : (state.perform sha256 operation).2.wakeOf receiptId = state.wakeOf receiptId := by
  by_cases here
    : ∃ request, operation = .transitionDeliveryWake request
      ∧ request.receiptId = receiptId
  · obtain ⟨request, rfl, rfl⟩ := here
    cases outcome : (state.perform sha256 (.transitionDeliveryWake request)).1 with
    | error error => rw [perform_error outcome]
    | ok reply =>
      obtain ⟨receipt, applied, rfl⟩ := Update.map_ok.mp (perform_ok.mp outcome)
      rcases transitionDeliveryWake_ok applied with ⟨_, same⟩ | ⟨_, _, _, rfl⟩
      · rw [same]
      · simp [outcome, appliedWake?] at idle
  · let sameWake (before after : StoreState) : Prop :=
      after.wakeOf receiptId = before.wakeOf receiptId
    have elsewhere (request : TransitionDeliveryWakeRequest)
        (isWake : operation = .transitionDeliveryWake request)
        : request.receiptId ≠ receiptId :=
      fun same => here ⟨request, isWake, same⟩
    exact @perform_relation sha256 operation sameWake (fun _ => rfl)
      (fun earlier later => later.trans earlier) (fun _ _ step => step.wakeOf elsewhere) state

theorem perform_rewoken
    (applied
      : appliedWake? receiptId operation (state.perform sha256 operation).1
        = some transition)
    : StoreState.Rewoken receiptId transition state (state.perform sha256 operation).2 := by
  unfold appliedWake? at applied
  split at applied
  · rename_i request receipt outcome
    split at applied
    · rename_i isApplied
      obtain ⟨rfl, wasApplied⟩ := isApplied
      cases applied
      obtain ⟨receipt', performed, same⟩ := Update.map_ok.mp (perform_ok.mp outcome)
      obtain rfl : receipt' = receipt := by simpa using same
      rcases transitionDeliveryWake_ok performed with ⟨unapplied, _⟩ | ⟨_, _, effect, _⟩
      · simp [unapplied] at wasApplied
      · exact effect.rewoken
    · cases applied
  · cases applied

/-- A wake is never removed, and its time does not go back. -/
theorem perform_wake_time (operation : Operation)
    (current : state.wakeOf receiptId = some wake)
    : ∃ later, (state.perform sha256 operation).2.wakeOf receiptId = some later
      ∧ wake.updatedAtMs ≤ later.updatedAtMs := by
  cases applied : appliedWake? receiptId operation (state.perform sha256 operation).1 with
  | none => exact ⟨wake, (perform_wakeOf applied).trans current, le_rfl⟩
  | some transition =>
    obtain ⟨later, isLater, _, timely⟩ := (perform_rewoken applied).moved
    exact ⟨later, isLater, timely wake current⟩

end Requests

/-- The transitions a run applied to the delivery, in order. -/
def appliedWakes (sha256 : String → String) (start : StoreState)
    (operations : List Operation) (receiptId : DeliveryReceiptId)
    : List DeliveryWakeTransition :=
  ((store sha256).exchanges start operations).filterMap (fun exchange =>
    appliedWake? receiptId exchange.2.1 exchange.2.2)

section Runs

variable {sha256 : String → String} {receiptId : DeliveryReceiptId}

theorem appliedWakes_cons (start : StoreState) (operation : Operation)
    (rest : List Operation)
    : appliedWakes sha256 start (operation :: rest) receiptId
      = (appliedWake? receiptId operation (start.perform sha256 operation).1).toList
        ++ appliedWakes sha256 (start.perform sha256 operation).2 rest receiptId := by
  unfold appliedWakes
  rw [Machine.exchanges, filterMap_cons]
  simp only [store]
  cases appliedWake? receiptId operation (start.perform sha256 operation).1 <;> rfl

/-- Along a run the trace of a delivery leads to its wake. -/
theorem WakeTrace.run
    (trace : WakeTrace applied ((start.wakeOf receiptId).map DeliveryWakeReceipt.state))
    (operations : List Operation)
    : WakeTrace (applied ++ appliedWakes sha256 start operations receiptId)
        ((((store sha256).after start operations).wakeOf receiptId).map
          DeliveryWakeReceipt.state) := by
  induction operations generalizing start applied with
  | nil => simpa [appliedWakes, Machine.exchanges] using trace
  | cons operation rest ih =>
    rw [appliedWakes_cons, ← append_assoc]
    refine ih ?_
    cases outcome : appliedWake? receiptId operation (start.perform sha256 operation).1 with
    | none =>
      rw [Option.toList_none, append_nil, perform_wakeOf outcome]
      exact trace
    | some transition =>
      obtain ⟨wake, isWake, step, _⟩ := (perform_rewoken outcome).moved
      rw [isWake]
      exact trace.step step

theorem store_wake_time (operations : List Operation)
    (current : start.wakeOf receiptId = some wake)
    : ∃ later, ((store sha256).after start operations).wakeOf receiptId = some later
      ∧ wake.updatedAtMs ≤ later.updatedAtMs := by
  induction operations generalizing start wake with
  | nil => exact ⟨wake, current, le_rfl⟩
  | cons operation rest ih =>
    obtain ⟨next, isNext, first⟩ := perform_wake_time operation current
    obtain ⟨last, isLast, second⟩ := ih isNext
    exact ⟨last, isLast, first.trans second⟩

/-- A worker is woken at most once per claim. In every run from a seeded store, for every
delivery: a second claim is applied only after the first was deferred, none after a triggered
wake; an outcome is applied only directly after a claim; a deferred wake is claimed only
while the delivery is unread; and the time of the wake never goes back. -/
theorem wake_once_per_claim {dispatches : List DispatchRecord} {seed : StoreState}
    (seeded : StoreState.seeded dispatches = .ok seed) (operations : List Operation)
    (receiptId : DeliveryReceiptId)
    : (∀ before between after,
        appliedWakes sha256 seed operations receiptId
          = (before ++ .claim :: between) ++ .claim :: after
        → ∃ reasonCode, .queuedUntilNextTurn reasonCode ∈ between)
      ∧ (∀ before effectRef after,
        appliedWakes sha256 seed operations receiptId = before ++ .triggered effectRef :: after
        → .claim ∉ after)
      ∧ (∀ before outcome after,
        appliedWakes sha256 seed operations receiptId = before ++ outcome :: after
        → outcome.isOutcome → ∃ earlier, before = earlier ++ [.claim])
      ∧ (∀ exchange ∈ (store sha256).exchanges seed operations,
        appliedWake? receiptId exchange.2.1 exchange.2.2 = some .claim
        → (exchange.1.wakeOf receiptId).map DeliveryWakeReceipt.state
          = some .queuedUntilNextTurn
        → ∃ delivery, exchange.1.deliveryOf receiptId = some delivery
          ∧ delivery.receipt.state = .queued)
      ∧ (∀ earlier later, operations = earlier ++ later
        → ∀ wake, ((store sha256).after seed earlier).wakeOf receiptId = some wake
        → ∃ current, ((store sha256).after seed operations).wakeOf receiptId = some current
          ∧ wake.updatedAtMs ≤ current.updatedAtMs) := by
  have unwoken : seed.wakeOf receiptId = none := by
    obtain ⟨_, rfl⟩ := StoreState.seeded_ok.mp seeded
    rfl
  have initially : WakeTrace [] ((seed.wakeOf receiptId).map DeliveryWakeReceipt.state) := by
    rw [unwoken]
    exact .start
  have trace : WakeTrace (appliedWakes sha256 seed operations receiptId) _ :=
    initially.run operations
  refine ⟨fun _ _ _ => trace.deferred_between, fun _ _ _ => trace.triggered_final,
    fun _ _ _ => trace.outcome_after_claim, ?_, ?_⟩
  · intro exchange member claims deferred
    rw [(store sha256).exchanges_answer member] at claims
    exact (perform_rewoken claims).unread rfl deferred
  · rintro earlier later rfl wake current
    rw [(store sha256).after_append]
    exact store_wake_time later current

/-- Witness: a wake is requested for the delivery of the worker's update. -/
theorem wake_once_per_claim_sample
    : appliedWakes sampleSha256 sampleSeed
          [.openInteraction sampleOpen sampleDigest, .transitionDeliveryWake sampleWake]
          sampleWake.receiptId
        = [.request]
      ∧ ∀ before outcome after,
        appliedWakes sampleSha256 sampleSeed
            [.openInteraction sampleOpen sampleDigest, .transitionDeliveryWake sampleWake]
            sampleWake.receiptId
          = before ++ outcome :: after
        → outcome.isOutcome → ∃ earlier, before = earlier ++ [.claim] :=
  ⟨by decide +kernel, (wake_once_per_claim sampleSeed_seeded _ _).2.2.1⟩

end Runs

end Dure.Orchestration
