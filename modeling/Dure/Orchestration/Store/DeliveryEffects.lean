import Dure.Orchestration.Store.EventReads

/-! What waking, reading and acknowledging do to the queued deliveries. -/

namespace Dure.Orchestration

open Library Update List

/-- The moves of one delivery's wake, from the current receipt to its replacement. -/
inductive WakeMove (request : TransitionDeliveryWakeRequest) (unread : Bool)
    (current : Option DeliveryWakeReceipt)
    : DeliveryWakeReceipt → Prop where
  | refused (asked : request.transition = .request) (first : current = none)
    (incapable : request.wakeCapability = none)
    : WakeMove request unread current
        {
          state := .queuedUntilNextTurn
          effectRef := none
          reasonCode := some ⟨"wake_capability_unavailable"⟩
          updatedAtMs := request.transitionedAtMs
        }
  | requested (asked : request.transition = .request) (first : current = none)
    (capable : request.wakeCapability ≠ none)
    : WakeMove request unread current
        {
          state := .pending
          effectRef := none
          reasonCode := none
          updatedAtMs := request.transitionedAtMs
        }
  | claimed (asked : request.transition = .claim)
    (ready
      : wakeIs current .pending = true
        ∨ (unread = true ∧ wakeIs current .queuedUntilNextTurn = true))
    : WakeMove request unread current
        {
          state := .uncertain
          effectRef := none
          reasonCode := none
          updatedAtMs := request.transitionedAtMs
        }
  | triggered {effectRef} (asked : request.transition = .triggered effectRef)
    (claimed : wakeIs current .uncertain = true)
    : WakeMove request unread current
        {
          state := .triggered
          effectRef := some effectRef
          reasonCode := none
          updatedAtMs := request.transitionedAtMs
        }
  | deferred {reasonCode} (asked : request.transition = .queuedUntilNextTurn reasonCode)
    (claimed : wakeIs current .uncertain = true)
    : WakeMove request unread current
        {
          state := .queuedUntilNextTurn
          effectRef := none
          reasonCode := some reasonCode
          updatedAtMs := request.transitionedAtMs
        }

theorem wakeReplacement_ok
    (replaces : wakeReplacement request unread current = .ok (some replacement))
    : WakeMove request unread current replacement := by
  unfold wakeReplacement at replaces
  cases asked : request.transition with
  | request =>
    simp only [asked] at replaces
    split at replaces
    · rename_i first
      cases capability : request.wakeCapability with
      | none =>
        simp only [capability, Except.ok.injEq, Option.some.injEq] at replaces
        subst replaces
        exact .refused asked (by simpa using first) capability
      | some granted =>
        simp only [capability, Except.ok.injEq, Option.some.injEq] at replaces
        subst replaces
        exact .requested asked (by simpa using first) (by simp [capability])
    · simp at replaces
  | claim =>
    simp only [asked] at replaces
    split at replaces
    · rename_i ready
      simp only [Except.ok.injEq, Option.some.injEq] at replaces
      subst replaces
      exact .claimed asked (by simpa using ready)
    · simp at replaces
  | triggered effectRef =>
    simp only [asked] at replaces
    split_ifs at replaces with claimed
    · simp only [Except.ok.injEq, Option.some.injEq] at replaces
      subst replaces
      exact .triggered asked claimed
    · simp at replaces
  | queuedUntilNextTurn reasonCode =>
    simp only [asked] at replaces
    split_ifs at replaces with claimed
    · simp only [Except.ok.injEq, Option.some.injEq] at replaces
      subst replaces
      exact .deferred asked claimed
    · simp at replaces

/-- The delivery's wake was replaced on behalf of its worker. -/
structure Woken (request : TransitionDeliveryWakeRequest) (delivery : DeliveryEntry)
    (replacement : DeliveryWakeReceipt) (before after : StoreState)
    : Prop where
  found
    : before.deliveries.find? (·.receipt.receiptId == request.receiptId) = some delivery
  authorized
    : before.authorizeDeliveryEndpoint request.authority delivery request.endpointFence
        request.wakeCapability = .ok ()
  moves
    : WakeMove request (delivery.receipt.state == .queued) delivery.receipt.wake replacement
  timely
    : ∀ wake, delivery.receipt.wake = some wake → wake.updatedAtMs ≤ request.transitionedAtMs
  after_eq
    : after = { before with
        deliveries :=
          updateFirst (·.receipt.receiptId == request.receiptId) (·.withWake replacement)
            before.deliveries }

variable {request : ReadEventsRequest} {fingerprint : Option String}
  {authority : AuthorityScope} {observedAtMs : Int} {before after : StoreState}

theorem StoreState.authorizeDeliveryEndpoint_ok {state : StoreState}
    (authorized
      : state.authorizeDeliveryEndpoint authority delivery endpointFence wakeCapability
        = .ok ())
    : ∃ event, state.eventAt delivery.receipt.eventCursor = some event
      ∧ event.target.authority = authority
      ∧ delivery.wakeCapability = wakeCapability
      ∧ ∃ dispatch ∈ state.dispatches, dispatch.target = event.target
        ∧ endpointFence.matchesEndpoint dispatch.workerEndpoint := by
  unfold StoreState.authorizeDeliveryEndpoint at authorized
  split at authorized
  · cases authorized
  · rename_i event found
    split at authorized
    · cases authorized
    · rename_i passes
      simp only [not_or, ne_eq, not_not, all_eq_true, Bool.or_eq_true, bne_iff_ne,
        Bool.not_eq_true'] at passes
      obtain ⟨authority, capability, fenced⟩ := passes
      push Not at fenced
      exact ⟨event, found, authority, capability, by simpa using fenced⟩

theorem transitionDeliveryWake_ok {request : TransitionDeliveryWakeRequest}
    (applied : transitionDeliveryWake request before = .ok receipt after)
    : (receipt.applied = false ∧ after = before)
      ∨ ∃ delivery replacement,
          Woken request delivery replacement before after
          ∧ receipt
            = { delivery := (delivery.withWake replacement).receipt, applied := true } := by
  simp only [transitionDeliveryWake, get_bind_ok, orElseThrow_bind_ok,
    check_bind_ok] at applied
  obtain ⟨delivery, found, _, authorized, replacement, replaces, applied⟩ := applied
  cases replacement with
  | none =>
    obtain ⟨rfl, rfl⟩ := pure_ok.mp applied
    exact Or.inl ⟨rfl, rfl⟩
  | some replacement =>
    simp only [ensure_bind_ok, modify_bind_ok, pure_ok] at applied
    obtain ⟨timely, rfl, rfl⟩ := applied
    refine Or.inr ⟨delivery, replacement,
      ⟨found, authorized, wakeReplacement_ok replaces, ?_, rfl⟩, rfl⟩
    intro wake present
    simpa [present] using timely

/-- What the acknowledgement loop of a read makes of a delivery. -/
def StoreState.acknowledgeDelivery (state : StoreState) (request : ReadEventsRequest)
    (observedAtMs : Int) (delivery : DeliveryEntry)
    : DeliveryEntry :=
  match request.acknowledgement with
  | none => delivery
  | some acknowledgement =>
    if state.acknowledges request acknowledgement.through delivery then
      delivery.acknowledge observedAtMs
    else
      delivery

def observeDelivery (request : ReadEventsRequest) (selected : List EventCursor)
    (observedAtMs : Int) (delivery : DeliveryEntry)
    : DeliveryEntry :=
  if observes request selected delivery then delivery.observe observedAtMs else delivery

/-- What a read makes of a delivery: both loops, one after the other. -/
def StoreState.readDelivery (state : StoreState) (request : ReadEventsRequest)
    (selected : List EventCursor) (observedAtMs : Int) (delivery : DeliveryEntry)
    : DeliveryEntry :=
  observeDelivery request selected observedAtMs
    (state.acknowledgeDelivery request observedAtMs delivery)

abbrev ReadEventsRequest.acknowledgementKey (request : ReadEventsRequest)
    (acknowledgement : EventAcknowledgement)
    : String :=
  Orchestration.acknowledgementKey request.authority request.participant
    request.endpointFence acknowledgement.idempotencyKey

/-- The acknowledgement receipts after a read: the first use of a key is remembered. -/
def StoreState.readAcknowledgements (state : StoreState) (request : ReadEventsRequest)
    (fingerprint : Option String)
    : OrderedMap String String :=
  match request.acknowledgement, fingerprint with
  | some acknowledgement, some fingerprint =>
    if (state.acknowledgementIdempotency.get?
        (request.acknowledgementKey acknowledgement)).isSome then
      state.acknowledgementIdempotency
    else
      state.acknowledgementIdempotency.insert (request.acknowledgementKey acknowledgement)
        fingerprint
  | _, _ => state.acknowledgementIdempotency

/-- A read acknowledged what it was asked to and observed its page. -/
structure EventsRead (request : ReadEventsRequest) (fingerprint : Option String)
    (clock : Option Nat) (selected : List EventCursor) (observedAtMs : Int)
    (receipt : ReadEventsReceipt) (before after : StoreState)
    : Prop where
  clock_ok : observationClock clock = .ok observedAtMs
  selected_ok : before.checkedEventCursors request = .ok selected
  after_eq
    : after = { before with
        deliveries :=
          before.deliveries.map (before.readDelivery request selected observedAtMs)
        acknowledgementIdempotency := before.readAcknowledgements request fingerprint }
  receipt_eq
    : receipt
      = { after.eventReceipt request selected with acknowledgement := receipt.acknowledgement }
  fingerprinted
    : ∀ acknowledgement, request.acknowledgement = some acknowledgement
      → ∃ text, fingerprint = some text
        ∧ (before.acknowledgementIdempotency.get?
          (request.acknowledgementKey acknowledgement)).all (· == text)

/-- Updating the items a predicate selects changes nothing exactly when it selects none. -/
theorem map_ite_eq_self {α : Type} {select : α → Bool} {update : α → α} (items : List α)
    (moves : ∀ item, select item → update item ≠ item)
    : items.map (fun item => if select item then update item else item) = items
      ↔ items.any select = false := by
  induction items with
  | nil => simp
  | cons head rest ih =>
    simp only [map_cons, cons.injEq, ih, any_cons, Bool.or_eq_false_iff]
    refine and_congr_left (fun _ => ?_)
    split_ifs with selected
    · simp [selected, moves head selected]
    · simp [selected]

variable {selected : List EventCursor} {delivery : DeliveryEntry}

theorem StoreState.acknowledge_ne (state : StoreState) (request : ReadEventsRequest)
    (through : EventCursor) (observedAtMs : Int) (delivery : DeliveryEntry)
    (acknowledges : state.acknowledges request through delivery)
    : delivery.acknowledge observedAtMs ≠ delivery := by
  intro same
  simp only [StoreState.acknowledges, Bool.and_eq_true, bne_iff_ne] at acknowledges
  exact acknowledges.2 (congrArg (·.receipt.state) same).symm

theorem observe_ne (request : ReadEventsRequest) (selected : List EventCursor)
    (observedAtMs : Int) (delivery : DeliveryEntry)
    (isObserved : observes request selected delivery)
    : delivery.observe observedAtMs ≠ delivery := by
  intro same
  simp only [observes, Bool.and_eq_true, beq_iff_eq] at isObserved
  have state := congrArg (·.receipt.state) same
  rw [isObserved.2] at state
  cases state

/-- An acknowledged delivery is not observed again. -/
theorem observeDelivery_acknowledged
    (acknowledged : delivery.receipt.state = .acknowledged)
    : observeDelivery request selected observedAtMs delivery = delivery := by
  unfold observeDelivery
  rw [if_neg (by simp [observes, acknowledged])]

/-- The observation does not take the acknowledgement back. -/
theorem StoreState.acknowledgeDelivery_eq_self
    (unread : before.readDelivery request selected observedAtMs delivery = delivery)
    : before.acknowledgeDelivery request observedAtMs delivery = delivery := by
  unfold StoreState.readDelivery at unread
  unfold StoreState.acknowledgeDelivery at unread ⊢
  split at unread
  · rfl
  · split_ifs at unread ⊢ with acknowledges
    · rwa [observeDelivery_acknowledged rfl] at unread
    · rfl

/-- The acknowledgement loop writes what `acknowledgeDelivery` says, and reports a change
exactly when it wrote something. -/
theorem acknowledgeThrough_ok {acknowledgement : EventAcknowledgement}
    (requested : request.acknowledgement = some acknowledgement)
    (applied
      : acknowledgeThrough request acknowledgement fingerprint observedAtMs before
        = .ok result after)
    : after = { before with
        deliveries := before.deliveries.map (before.acknowledgeDelivery request observedAtMs)
        acknowledgementIdempotency := before.readAcknowledgements request fingerprint }
      ∧ (result.2 = false ↔ after = before)
      ∧ ∃ text, fingerprint = some text
        ∧ (before.acknowledgementIdempotency.get?
          (request.acknowledgementKey acknowledgement)).all (· == text) := by
  simp only [acknowledgeThrough, orElseThrow_bind_ok, get_bind_ok, ensure_bind_ok,
    modify_bind_ok] at applied
  obtain ⟨text, rfl, agrees, found, isFound, applied⟩ := applied
  refine ⟨?_, ?_, text, rfl, agrees⟩
  · unfold StoreState.acknowledgeDelivery StoreState.readAcknowledgements
    simp only [requested]
    split at applied
    · rename_i existing
      obtain ⟨_, rfl⟩ := pure_ok.mp applied
      rw [if_pos existing]
    · rename_i existing
      simp only [modify_bind_ok, pure_ok] at applied
      obtain ⟨_, rfl⟩ := applied
      rw [if_neg existing]
  · split at applied
    · obtain ⟨rfl, rfl⟩ := pure_ok.mp applied
      have unmoved := map_ite_eq_self before.deliveries 
        (before.acknowledge_ne request acknowledgement.through observedAtMs)
      refine ⟨fun unchanged => ?_, fun same => unmoved.mp (congrArg StoreState.deliveries same)⟩
      rw [unmoved.mpr unchanged]
    · rename_i absent
      simp only [modify_bind_ok, pure_ok] at applied
      obtain ⟨rfl, rfl⟩ := applied
      refine ⟨fun unchanged => by simp at unchanged, fun same => absurd ?_ absent⟩
      rw [← congrArg StoreState.acknowledgementIdempotency same]
      simp

theorem acknowledgeRequested_ok
    (applied : acknowledgeRequested request fingerprint observedAtMs before = .ok result after)
    : after = { before with
        deliveries := before.deliveries.map (before.acknowledgeDelivery request observedAtMs)
        acknowledgementIdempotency := before.readAcknowledgements request fingerprint }
      ∧ (result.2 = false ↔ after = before)
      ∧ ∀ acknowledgement, request.acknowledgement = some acknowledgement
        → ∃ text, fingerprint = some text
          ∧ (before.acknowledgementIdempotency.get?
            (request.acknowledgementKey acknowledgement)).all (· == text) := by
  unfold acknowledgeRequested at applied
  cases requested : request.acknowledgement with
  | none =>
    simp only [requested, pure_ok] at applied
    obtain ⟨rfl, rfl⟩ := applied
    have kept : before.acknowledgeDelivery request observedAtMs = id := by
      funext delivery
      simp [StoreState.acknowledgeDelivery, requested]
    simp [kept, StoreState.readAcknowledgements, requested]
  | some acknowledgement =>
    simp only [requested, bind_ok, pure_ok] at applied
    obtain ⟨inner, _, acknowledged, rfl, rfl⟩ := applied
    obtain ⟨written, unchanged, agrees⟩ := acknowledgeThrough_ok requested acknowledged
    refine ⟨written, unchanged, ?_⟩
    rintro _ ⟨⟩
    exact agrees

theorem readEvents_ok {clock : Option Nat}
    (applied : readEvents request fingerprint clock before = .ok result after)
    : (∃ selected observedAtMs,
        EventsRead request fingerprint clock selected observedAtMs result.1 before after)
      ∧ (result.2 = false ↔ after = before) := by
  simp only [readEvents, check_bind_ok, get_bind_ok] at applied
  obtain ⟨observedAtMs, clockOk, selected, selectedOk, applied⟩ := applied
  obtain ⟨⟨acknowledgement, acknowledged⟩, middle, acknowledges, applied⟩ := bind_ok.mp applied
  obtain ⟨written, unacknowledged, agrees⟩ := acknowledgeRequested_ok acknowledges
  simp only [get_bind_ok, modify_bind_ok, pure_ok] at applied
  obtain ⟨rfl, rfl⟩ := applied
  refine ⟨⟨selected, observedAtMs, clockOk, selectedOk, ?_, rfl, agrees⟩, ?_⟩
  · subst written
    simp only [map_map]
    rfl
  · have unmoved := map_ite_eq_self middle.deliveries 
      (observe_ne request selected observedAtMs)
    rw [Bool.or_eq_false_iff, unacknowledged]
    constructor
    · rintro ⟨rfl, unobserved⟩
      rw [unmoved.mpr unobserved]
    · intro same
      have each : ∀ delivery ∈ before.deliveries,
          before.readDelivery request selected observedAtMs delivery = delivery := by
        rw [written] at same
        simp only [map_map] at same
        exact map_inj_left.mp
          ((congrArg StoreState.deliveries same).trans (map_id _).symm)
      have kept : middle.deliveries = before.deliveries := by
        rw [written]
        exact (map_congr_left (fun delivery member =>
          StoreState.acknowledgeDelivery_eq_self (each delivery member))).trans (map_id _)
      have still := unmoved.mp ((congrArg StoreState.deliveries same).trans kept.symm)
      rw [unmoved.mpr still] at same
      exact ⟨same, still⟩

/-- A batch as the sequence of its items: each one read, or failed and left no trace. -/
inductive BatchRead (authority : AuthorityScope)
    : List (ReadEventsStoreRequest × Option Nat)
      → List (Except StoreError ReadEventsReceipt) → StoreState → StoreState → Prop where
  | nil {state} : BatchRead authority [] [] state state
  | read {item clock rest results selected observedAtMs receipt before middle after}
    (scope : item.request.authority = authority)
    (first
      : EventsRead item.request item.acknowledgementFingerprint clock selected observedAtMs
          receipt before middle)
    (later : BatchRead authority rest results middle after)
    : BatchRead authority ((item, clock) :: rest) (.ok receipt :: results) before after
  | failed {item clock rest results error candidate before after}
    (first
      : readEvents item.request item.acknowledgementFingerprint clock before
        = .error error candidate)
    (later : BatchRead authority rest results before after)
    : BatchRead authority ((item, clock) :: rest) (.error error :: results) before after

/-- Dropping the candidate of an item that changed nothing loses nothing. -/
theorem readEventsItems_ok
    (applied : readEventsItems authority requests before = .ok result after)
    : BatchRead authority requests result.1 before after := by
  induction requests generalizing result before with
  | nil =>
    obtain ⟨rfl, rfl⟩ := pure_ok.mp applied
    exact .nil
  | cons head rest ih =>
    obtain ⟨item, clock⟩ := head
    simp only [readEventsItems, ensure_bind_ok, get_bind_ok] at applied
    obtain ⟨scope, applied⟩ := applied
    cases read : readEvents item.request item.acknowledgementFingerprint clock before with
    | ok value candidate =>
      obtain ⟨receipt, changed⟩ := value
      obtain ⟨⟨_, _, isRead⟩, unchanged⟩ := readEvents_ok read
      simp only [read, modify_bind_ok] at applied
      have kept : (if changed then candidate else before) = candidate := by
        cases changed with
        | true => rfl
        | false => exact (unchanged.mp rfl).symm
      rw [kept] at applied
      simp only [bind_ok, pure_ok] at applied
      obtain ⟨_, _, later, rfl, rfl⟩ := applied
      exact .read scope isRead (ih later)
    | error error candidate =>
      simp only [read, ensure_bind_ok] at applied
      simp only [bind_ok, pure_ok] at applied
      obtain ⟨_, _, _, later, rfl, rfl⟩ := applied
      exact .failed read (ih later)

/-- The requests one after the other; one that fails leaves no trace. -/
def readOneByOne
    : List (ReadEventsStoreRequest × Option Nat) → StoreState
      → List (Except StoreError ReadEventsReceipt) × StoreState
  | [], state => ([], state)
  | (item, clock) :: rest, state =>
    match readEvents item.request item.acknowledgementFingerprint clock state with
    | .ok (receipt, _) next =>
      ((readOneByOne rest next).1.cons (.ok receipt), (readOneByOne rest next).2)
    | .error error _ =>
      ((readOneByOne rest state).1.cons (.error error), (readOneByOne rest state).2)

/-- The first error among the results that stops a batch. -/
def firstFatal : List (Except StoreError ReadEventsReceipt) → Option StoreError
  | [] => none
  | .ok _ :: rest => firstFatal rest
  | .error error :: rest => if error.isFatal then some error else firstFatal rest

/-- What a batch should do: what the requests do one by one, or stop at a fatal item. -/
def BatchFolds (requests : List (ReadEventsStoreRequest × Option Nat)) (state : StoreState)
    (outcome : EStateM.Result StoreError StoreState
      (List (Except StoreError ReadEventsReceipt) × Bool))
    : Prop :=
  match firstFatal (readOneByOne requests state).1 with
  | none =>
    ∃ changed, outcome
      = .ok ((readOneByOne requests state).1, changed) (readOneByOne requests state).2
  | some error => ∃ after, outcome = .error error after

/-- The candidate of an item that changed nothing equals the state it is dropped for. -/
theorem readEventsItems_folds
    (scopes : ∀ item ∈ requests, item.1.request.authority = authority) (state : StoreState)
    : BatchFolds requests state (readEventsItems authority requests state) := by
  induction requests generalizing state with
  | nil => exact ⟨false, rfl⟩
  | cons head rest ih =>
    obtain ⟨item, clock⟩ := head
    obtain ⟨scope, scopes⟩ := forall_mem_cons.mp scopes
    rw [readEventsItems, ensure_bind_holds scope, get_bind]
    unfold BatchFolds readOneByOne
    cases read : readEvents item.request item.acknowledgementFingerprint clock state with
    | ok value candidate =>
      obtain ⟨receipt, changed⟩ := value
      have kept : (if changed then candidate else state) = candidate := by
        cases changed with
        | true => rfl
        | false => exact ((readEvents_ok read).2.mp rfl).symm
      have later := ih scopes candidate
      have replaced
          : (modify (fun state => if changed then candidate else state) : StoreM Unit) state
            = .ok () candidate := modify_ok.mpr kept
      simp only [firstFatal]
      unfold BatchFolds at later
      split at later
      · obtain ⟨_, folded⟩ := later
        exact ⟨_, (bind_of_ok replaced).trans (bind_of_ok folded)⟩
      · obtain ⟨_, stopped⟩ := later
        exact ⟨_, (bind_of_ok replaced).trans (bind_of_error stopped)⟩
    | error error candidate =>
      have later := ih scopes state
      by_cases fatal : error.isFatal = true
      · simp only [firstFatal, if_pos fatal]
        exact ⟨state, ensure_bind_fails (not_not.mpr fatal) error _ state⟩
      simp only [firstFatal, if_neg fatal, ensure_bind_holds fatal]
      unfold BatchFolds at later
      split at later
      · obtain ⟨_, folded⟩ := later
        exact ⟨_, bind_of_ok folded⟩
      · obtain ⟨_, stopped⟩ := later
        exact ⟨_, bind_of_error stopped⟩

/-- A read reports a change exactly when it made one, so dropping an unchanged candidate
loses nothing, and a batch does what its requests do one by one. -/
theorem event_reads_exact
    : (∀ request fingerprint clock before receipt changed after,
        readEvents request fingerprint clock before = .ok (receipt, changed) after
        → (changed = false ↔ after = before))
      ∧ ∀ authority (requests : List (ReadEventsStoreRequest × Option Nat)) state,
          (∀ item ∈ requests, item.1.request.authority = authority)
          → BatchFolds requests state (readEventsBatch authority requests state) :=
  ⟨fun _ _ _ _ _ _ _ read => (readEvents_ok read).2,
    fun _ _ state scopes => readEventsItems_folds scopes state⟩

end Dure.Orchestration
