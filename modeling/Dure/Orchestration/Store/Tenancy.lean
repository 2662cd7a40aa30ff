import Dure.Orchestration.Store.IsolatedCommits
import Dure.Orchestration.Store.Inbox

/-! Authorities do not see each other. Every request of one authority succeeds on the whole
store exactly when it does on that authority's part, with the same reply and the same writes,
so the adapter may load only that part.
-/

namespace Dure.Orchestration

open Library Update List StoreState

variable {sha256 : String → String} {authority : AuthorityScope}

/-- A dispatch the read names is one of its authority. -/
def ReadEventsRequest.Within (request : ReadEventsRequest) : Prop :=
  ∀ target, request.target = some target → target.authority = request.authority

section Selection

variable {state : StoreState} {request : ReadEventsRequest}

theorem restrict_checkFence (within : request.Within) (scope : request.authority = authority)
    : (state.restrict authority).checkFence request = state.checkFence request := by
  unfold checkFence
  cases request.endpointFence with
  | none => rfl
  | some fence =>
    cases named : request.target with
    | none => rfl
    | some target => simp only [restrict_dispatchAt ((within target named).trans scope)]

theorem restrict_selectedCursors (indexed : state.Indexed sha256)
    (scope : request.authority = authority)
    : (state.restrict authority).selectedCursors request = state.selectedCursors request := by
  unfold selectedCursors
  simp only [indexed.restrict_eventInScope scope]
  rw [restrict, filter_filter_inside]
  intro delivery _ selected
  exact scope ▸ owner?_of_eventInScope (Bool.and_eq_true_iff.mp selected).2

theorem restrict_checkedEventCursors (indexed : state.Indexed sha256)
    (within : request.Within) (scope : request.authority = authority)
    : (state.restrict authority).checkedEventCursors request
      = state.checkedEventCursors request := by
  unfold checkedEventCursors
  rw [restrict_checkFence within scope, restrict_selectedCursors indexed scope]
  simp only [inRequest, indexed.restrict_eventInScope scope]
  rw [restrict, any_filter_inside]
  · rfl
  · intro delivery _ mismatched
    simp only [Bool.and_eq_true] at mismatched
    exact scope ▸ owner?_of_eventInScope mismatched.1.2

/-- Every selected cursor is the cursor of an event of the request's authority. -/
theorem StoreState.selectedCursors_owned (member : cursor ∈ state.selectedCursors request)
    : ∃ event ∈ state.events, event.cursor = cursor
        ∧ event.target.authority = request.authority := by
  obtain ⟨delivery, kept, rfl⟩ := mem_map.mp (mem_of_mem_page member)
  have inScope := (Bool.and_eq_true_iff.mp (mem_filter.mp kept).2).2
  obtain ⟨event, found, here⟩ := (Option.any_eq_true _ _).mp inScope
  obtain ⟨isEvent, cursor⟩ := eventAt_some found
  exact ⟨event, isEvent, cursor, beq_iff_eq.mp (Bool.and_eq_true_iff.mp here).1⟩

end Selection

/-! ### Reads -/

variable {fingerprint : Option String} {delivery : DeliveryEntry} {observedAtMs : Int}

section Reads

variable {start whole part : StoreState} {known : List Event} {request : ReadEventsRequest}

section

variable (alike : Scoped sha256 authority start known whole part)
include alike

/-- The known events cover the cursors, so the receipt is the same in the part. -/
theorem Scoped.eventReceipt_eq
    (covered : ∀ cursor ∈ selected, ∃ event ∈ known, event.cursor = cursor)
    : part.eventReceipt request selected = whole.eventReceipt request selected := by
  have indexed := alike.indexed
  cases alike.part_eq
  simp only [eventReceipt, ReadEventsReceipt.mk.injEq, and_true]
  constructor
  all_goals
    refine filterMap_congr (fun cursor member => ?_)
    obtain ⟨event, isKnown, rfl⟩ := covered cursor member
    obtain ⟨isEvent, inside⟩ := alike.known_mem event isKnown
  · rw [indexed.restrict_eventAt, indexed.eventAt_mem isEvent]
    simp [inside]
  · rw [restrict, find?_filter_inside]
    intro delivery _ here
    have cursor := beq_iff_eq.mp (Bool.and_eq_true_iff.mp here).1
    rw [owner?, cursor, indexed.eventAt_mem isEvent, Option.map_some, inside,
      beq_self_eq_true]

/-- Rewriting deliveries of the authority in place. -/
theorem Scoped.mapDeliveries (rewrite : DeliveryEntry → DeliveryEntry)
    (keeps : ∀ delivery : DeliveryEntry, delivery.SameAddress (rewrite delivery))
    (only
      : ∀ delivery ∈ whole.deliveries, whole.owner? delivery ≠ some authority
        → rewrite delivery = delivery)
    : Scoped sha256 authority start known
        { whole with deliveries := whole.deliveries.map rewrite }
        { part with deliveries := part.deliveries.map rewrite } := by
  have rewritten (other : AuthorityScope)
      : (whole.deliveries.map rewrite).filter (whole.owner? · == some other)
        = (whole.restrict other).deliveries.map rewrite := by
    rw [filter_map]
    refine congrArg _ (filter_congr (fun delivery _ => ?_))
    simp only [Function.comp_apply, owner?, (keeps delivery).eventCursor]
  refine alike.writeDeliveries ?_ ?_ ?_
  · rw [rewritten, alike.part_eq]
  · intro other different
    rw [rewritten]
    refine (map_congr_left (fun delivery member => ?_)).trans (map_id _)
    obtain ⟨isDelivery, owned⟩ := mem_filter.mp member
    refine only delivery isDelivery (fun mine => different ?_)
    rw [mine] at owned
    exact (Option.some.inj (beq_iff_eq.mp owned)).symm
  · intro delivery member
    obtain ⟨old, isDelivery, rfl⟩ := mem_map.mp member
    rw [(keeps old).eventCursor, (keeps old).participant, (keeps old).receiptId]
    exact alike.indexed.deliveries_placed old isDelivery

theorem Scoped.rememberAcknowledgement {participant : ParticipantRef}
    {fence : Option WorkerEndpointFence} {key fingerprint : String}
    : Scoped sha256 authority start known
        { whole with
          acknowledgementIdempotency :=
            whole.acknowledgementIdempotency.insert
              (acknowledgementKey authority participant fence key) fingerprint }
        { part with
          acknowledgementIdempotency :=
            part.acknowledgementIdempotency.insert
              (acknowledgementKey authority participant fence key) fingerprint } := by
  have indexed := alike.indexed
  cases alike.part_eq
  refine alike.write ?_ ?_ ⟨indexed.1, indexed.2, indexed.3⟩ (List.Subset.refl _)
  · simp only [restrict]
    rw [OrderedMap.filter_insert_keep]
    · rfl
    · rw [ownsAcknowledgement_key, beq_self_eq_true]
  · intro other different
    simp only [restrict]
    rw [OrderedMap.filter_insert_drop]
    · rfl
    · intro _
      rw [ownsAcknowledgement_key]
      exact beq_eq_false_iff_ne.mpr different.symm

theorem acknowledgeThrough_agree (scope : request.authority = authority)
    : Agree (fun _ => Scoped sha256 authority start known)
        (acknowledgeThrough request acknowledgement fingerprint observedAtMs whole)
        (acknowledgeThrough request acknowledgement fingerprint observedAtMs part) := by
  have indexed := alike.indexed
  have inScope (receipt : DeliveryReceipt)
      : part.eventInScope receipt request = whole.eventInScope receipt request := by
    rw [alike.part_eq, indexed.restrict_eventInScope scope]
  have covers : part.acknowledges request acknowledgement.through
      = whole.acknowledges request acknowledgement.through := by
    funext delivery
    simp only [acknowledges, inScope]
  have owned {delivery : DeliveryEntry}
      (covered : whole.acknowledges request acknowledgement.through delivery = true)
      : (whole.owner? delivery == some authority) = true := by
    simp only [acknowledges, Bool.and_eq_true] at covered
    exact scope ▸ owner?_of_eventInScope covered.1.2
  have stored (key : String)
      : part.acknowledgementIdempotency.get?
          (acknowledgementKey request.authority request.participant request.endpointFence key)
        = whole.acknowledgementIdempotency.get?
          (acknowledgementKey request.authority request.participant request.endpointFence
            key) := by
    rw [alike.part_eq]
    exact restrict_acknowledgement (by rw [ownsAcknowledgement_key, scope, beq_self_eq_true])
  have changes : part.deliveries.any (whole.acknowledges request acknowledgement.through)
      = whole.deliveries.any (whole.acknowledges request acknowledgement.through) := by
    rw [alike.part_eq]
    exact any_filter_inside (fun _ _ covered => owned covered)
  refine .orElseThrow_bind rfl (fun text _ => .get_bind ?_)
  simp only [stored, covers, inScope, changes]
  refine .ensure_bind (by rw [stored]) (fun _ => .orElseThrow_bind ?_ (fun found _ => ?_))
  · rw [alike.part_eq, restrict, find?_filter_inside]
    intro delivery _ selected
    exact scope ▸ owner?_of_eventInScope (Bool.and_eq_true_iff.mp selected).2
  · have rewritten := alike.mapDeliveries
      (fun delivery =>
        if whole.acknowledges request acknowledgement.through delivery then
          delivery.acknowledge observedAtMs
        else
          delivery)
      (fun delivery => by split <;> exact ⟨rfl, rfl, rfl, rfl, rfl, rfl⟩)
      (fun delivery _ apart => if_neg (fun covered => apart (beq_iff_eq.mp (owned covered))))
    refine .modify_bind ?_
    split
    · exact .pure rewritten
    · refine .modify_bind (.pure ?_)
      rw [scope]
      exact rewritten.rememberAcknowledgement

theorem acknowledgeRequested_agree (scope : request.authority = authority)
    : Agree (fun _ => Scoped sha256 authority start known)
        (acknowledgeRequested request fingerprint observedAtMs whole)
        (acknowledgeRequested request fingerprint observedAtMs part) := by
  unfold acknowledgeRequested
  cases request.acknowledgement with
  | none => exact .pure alike
  | some acknowledgement =>
    refine .bind (acknowledgeThrough_agree alike scope) ?_
    rintro ⟨receipt, changed⟩ whole part alike
    exact .pure alike

end

section

variable (alike : Scoped sha256 authority start [] whole part)
include alike

/-- While a read writes to its deliveries, the events of its page stay known. -/
theorem Scoped.page (scope : request.authority = authority)
    : ∃ known, Scoped sha256 authority start known whole part
        ∧ ∀ cursor ∈ whole.selectedCursors request, ∃ event ∈ known, event.cursor = cursor := by
  refine ⟨whole.events.filter (·.target.authority == authority),
    { alike with known_mem := ?_ }, ?_⟩
  · intro event member
    obtain ⟨isEvent, mine⟩ := mem_filter.mp member
    exact ⟨isEvent, beq_iff_eq.mp mine⟩
  · intro cursor member
    obtain ⟨event, isEvent, here, mine⟩ := selectedCursors_owned member
    exact ⟨event, mem_filter.mpr ⟨isEvent, beq_iff_eq.mpr (mine.trans scope)⟩, here⟩

theorem readEvents_agree (within : request.Within) (scope : request.authority = authority)
    : Agree (fun _ => Scoped sha256 authority start [])
        (readEvents request fingerprint clock whole)
        (readEvents request fingerprint clock part) := by
  refine .check_bind rfl (fun observedAtMs _ => .get_bind (.check_bind ?_ ?_))
  · rw [alike.part_eq, restrict_checkedEventCursors alike.indexed within scope]
  intro selected checked
  obtain ⟨known, alike, covered⟩ := alike.page scope
  rw [← checkedEventCursors_ok checked] at covered
  refine .bind (acknowledgeRequested_agree alike scope) ?_
  rintro ⟨acknowledgement, acknowledged⟩ whole part alike
  have owned {delivery : DeliveryEntry} (observed : observes request selected delivery = true)
      : (whole.owner? delivery == some authority) = true := by
    simp only [observes, Bool.and_eq_true, contains_iff_mem] at observed
    obtain ⟨event, isKnown, cursor⟩ := covered _ observed.1.1
    obtain ⟨isEvent, inside⟩ := alike.known_mem event isKnown
    rw [owner?, ← cursor, alike.indexed.eventAt_mem isEvent, Option.map_some,
      inside, beq_self_eq_true]
  have observed : part.deliveries.any (observes request selected)
      = whole.deliveries.any (observes request selected) := by
    rw [alike.part_eq]
    exact any_filter_inside (fun _ _ observed => owned observed)
  have rewritten := alike.mapDeliveries
    (fun delivery =>
      if observes request selected delivery then delivery.observe observedAtMs else delivery)
    (fun delivery => by split <;> exact ⟨rfl, rfl, rfl, rfl, rfl, rfl⟩)
    (fun delivery _ apart => if_neg (fun observed => apart (beq_iff_eq.mp (owned observed))))
  refine .get_bind (.modify_bind (.get_bind ?_))
  rw [rewritten.eventReceipt_eq covered, observed]
  exact .pure { rewritten with known_mem := by simp }

/-- Batches agree item by item; an item fails alike on both sides and leaves no trace. -/
theorem readEventsItems_agree (within : ∀ item ∈ requests, item.1.request.Within)
    : Agree (fun _ => Scoped sha256 authority start [])
        (readEventsItems authority requests whole)
        (readEventsItems authority requests part) := by
  induction requests generalizing whole part with
  | nil => exact .pure alike
  | cons item rest ih =>
    obtain ⟨item, clock⟩ := item
    have withinRest := fun other member => within other (mem_cons_of_mem _ member)
    refine .ensure_bind Iff.rfl (fun scope => .get_bind ?_)
    have read
        : Agree (fun _ => Scoped sha256 authority start [])
            (readEvents item.request item.acknowledgementFingerprint clock whole)
            (readEvents item.request item.acknowledgementFingerprint clock part) :=
      readEvents_agree alike (within _ mem_cons_self) scope
    generalize readEvents item.request item.acknowledgementFingerprint clock whole = left
      at read
    generalize readEvents item.request item.acknowledgementFingerprint clock part = right
      at read
    cases read with
    | @ok result whole' part' alike' =>
      obtain ⟨receipt, itemChanged⟩ := result
      refine .modify_bind (.bind (ih ?_ withinRest) ?_)
      · cases itemChanged with
        | false => exact alike
        | true => exact alike'
      · rintro ⟨results, changed⟩ whole part alike
        exact .pure alike
    | error =>
      refine .ensure_bind Iff.rfl (fun _ => .bind (ih alike withinRest) ?_)
      rintro ⟨results, changed⟩ whole part alike
      exact .pure alike

end

end Reads

section Queries

variable {state : StoreState} {request : GetInteractionRequest}

/-- Every reader of an interaction is checked against the dispatch it belongs to. -/
theorem restrict_interaction (scope : request.authority = authority)
    : (state.restrict authority).interaction request = state.interaction request := by
  have readable (query : DispatchRecord → Bool) {common : InteractionCommon}
      (inside : common.target.authority = authority)
      (named : ∀ dispatch, query dispatch = true → dispatch.target = common.target)
      : (state.restrict authority).dispatches.any query = state.dispatches.any query :=
    any_filter_inside (fun dispatch _ selected => by
      rw [named dispatch selected, inside, beq_self_eq_true])
  have client {common : InteractionCommon} (inside : common.target.authority = authority)
      : (state.restrict authority).readableByClient request common
        = state.readableByClient request common := by
    unfold readableByClient
    rw [readable _ inside]
    intro dispatch selected
    exact beq_iff_eq.mp (Bool.and_eq_true_iff.mp selected).1
  have worker (fence : WorkerEndpointFence) {common : InteractionCommon}
      (inside : common.target.authority = authority)
      : (state.restrict authority).readableByWorker request fence common
        = state.readableByWorker request fence common := by
    unfold readableByWorker
    rw [readable _ inside]
    intro dispatch selected
    simp only [Bool.and_eq_true, beq_iff_eq] at selected
    exact selected.1.1.1.1
  refine (find?_congr (fun interaction member => ?_)).trans (find?_filter_inside ?_)
  · have inside := beq_iff_eq.mp (mem_filter.mp member).2
    cases request.endpointFence with
    | none => simp only [client inside]
    | some fence => simp only [worker fence inside]
  · intro interaction _ selected
    simp only [Bool.and_eq_true] at selected
    exact scope ▸ selected.1.2

theorem restrict_dispatchDeadline {request : GetDispatchDeadlineRequest}
    (inside : request.target.authority = authority)
    : (state.restrict authority).dispatchDeadline request = state.dispatchDeadline request := by
  unfold dispatchDeadline
  rw [restrict_dispatchAt inside]

theorem StoreState.interaction_authority {interaction : InteractionRecord}
    (found : state.interaction request = some interaction)
    : interaction.common.target.authority = request.authority := by
  have selected := find?_some found
  simp only [Bool.and_eq_true, beq_iff_eq] at selected
  exact selected.1.2

theorem StoreState.Indexed.restrict_interactionProgress (indexed : state.Indexed sha256)
    (scope : request.authority = authority)
    : (state.restrict authority).interactionProgress request
      = state.interactionProgress request := by
  unfold interactionProgress
  rw [restrict_interaction scope]
  cases found : state.interaction request with
  | none => rfl
  | some interaction =>
    have inside := (interaction_authority found).trans scope
    have mine {event : Event} {also : Bool}
        (selected : (event.target == interaction.common.target && also) = true)
        : event.target.authority = authority := by
      rw [beq_iff_eq.mp (Bool.and_eq_true_iff.mp selected).1, inside]
    have progress (completed : Option Event) {event : Event} (isEvent : event ∈ state.events)
        (mine : event.target.authority = authority)
        : (state.restrict authority).eventProgress completed event
          = state.eventProgress completed event := by
      unfold eventProgress
      rw [restrict, filter_filter_inside]
      intro delivery _ here
      rw [owner?, beq_iff_eq.mp here, indexed.eventAt_mem isEvent,
        Option.map_some, mine, beq_self_eq_true]
    have events : (state.restrict authority).events
        = state.events.filter (·.target.authority == authority) := rfl
    simp only [Option.bind_eq_bind, Option.bind_some, restrict_find?_dispatch inside]
    rw [events, find?_filter_inside (fun _ _ selected => beq_iff_eq.mpr (mine selected)),
      filter_filter_inside (fun _ _ selected => beq_iff_eq.mpr (mine selected)),
      flatMap_congr (fun event member =>
        progress _ (mem_filter.mp member).1 (mine (mem_filter.mp member).2))]

theorem StoreState.Indexed.restrict_inspectEvents (indexed : state.Indexed sha256)
    (within : inspection.request.Within) (scope : inspection.request.authority = authority)
    : (state.restrict authority).inspectEvents inspection = state.inspectEvents inspection := by
  unfold inspectEvents
  rw [restrict_checkedEventCursors indexed within scope]
  cases checked : state.checkedEventCursors inspection.request with
  | error error => rfl
  | ok selected =>
    obtain ⟨known, alike, covered⟩ :=
      (Scoped.refl indexed : Scoped sha256 authority state [] state _).page scope
    rw [← checkedEventCursors_ok checked] at covered
    exact congrArg Except.ok (alike.eventReceipt_eq covered)

end Queries

section Wakes

variable {state : StoreState} {request : TransitionDeliveryWakeRequest}

/-- A delivery of another authority is refused. -/
theorem transitionDeliveryWake_foreign
    (found
      : state.deliveries.find? (·.receipt.receiptId == request.receiptId) = some delivery)
    (foreign : state.owner? delivery ≠ some request.authority)
    : ∃ error, transitionDeliveryWake request state = .error error state := by
  have refused : ∃ error, state.authorizeDeliveryEndpoint request.authority delivery
      request.endpointFence request.wakeCapability = .error error := by
    unfold authorizeDeliveryEndpoint
    unfold owner? at foreign
    cases at_ : state.eventAt delivery.receipt.eventCursor with
    | none => exact ⟨_, rfl⟩
    | some event =>
      rw [at_] at foreign
      exact ⟨_, if_pos (Or.inl (fun same => foreign (congrArg some same)))⟩
  obtain ⟨error, refused⟩ := refused
  refine ⟨error, ?_⟩
  rw [transitionDeliveryWake, get_bind, found]
  change (check (state.authorizeDeliveryEndpoint request.authority delivery
    request.endpointFence request.wakeCapability) id >>= _) state = _
  rw [refused]
  rfl

theorem transitionDeliveryWake_unknown
    (absent : state.deliveries.find? (·.receipt.receiptId == request.receiptId) = none)
    : transitionDeliveryWake request state = .error (.notFound "delivery") state := by
  rw [transitionDeliveryWake, get_bind, absent]
  rfl

theorem StoreState.Indexed.restrict_authorizeDeliveryEndpoint (indexed : state.Indexed sha256)
    (owned : state.owner? delivery = some authority) (fence : WorkerEndpointFence)
    (wakeCapability : Option CapabilityRef)
    : (state.restrict authority).authorizeDeliveryEndpoint authority delivery fence
        wakeCapability
      = state.authorizeDeliveryEndpoint authority delivery fence wakeCapability := by
  obtain ⟨event, found, inside⟩ := Option.map_eq_some_iff.mp owned
  have fenced
      : (state.restrict authority).dispatches.all (fun dispatch =>
          dispatch.target != event.target || !fence.matchesEndpoint dispatch.workerEndpoint)
        = state.dispatches.all (fun dispatch =>
          dispatch.target != event.target
            || !fence.matchesEndpoint dispatch.workerEndpoint) := by
    rw [restrict, all_filter]
    congr 1
    funext dispatch
    by_cases same : dispatch.target = event.target <;> simp [same, inside]
  unfold authorizeDeliveryEndpoint
  rw [indexed.restrict_eventAt, found]
  simp only [Option.filter_some, inside, beq_self_eq_true, if_true, fenced]

theorem StoreState.Coherent.only_named (coherent : state.Coherent sha256)
    (found : state.deliveries.find? (·.receipt.receiptId == request.receiptId) = some delivery)
    (member : other ∈ state.deliveries)
    (named : (other.receipt.receiptId == request.receiptId) = true)
    : other = delivery := by
  have same := find?_of_nodup coherent.receipts_unique member
  rw [beq_iff_eq.mp named, found] at same
  exact (Option.some.inj same).symm

/-- The wake of a delivery of the authority. -/
theorem transitionDeliveryWake_agree (coherent : state.Coherent sha256)
    (scope : request.authority = authority)
    (found
      : state.deliveries.find? (·.receipt.receiptId == request.receiptId) = some delivery)
    (owned : state.owner? delivery = some authority)
    : Agree (fun _ => Scoped sha256 authority state [])
        (transitionDeliveryWake request state)
        (transitionDeliveryWake request (state.restrict authority)) := by
  have indexed := coherent.indexed
  have alike : Scoped sha256 authority state [] state (state.restrict authority) :=
    .refl indexed
  have kept (other : DeliveryEntry) (member : other ∈ state.deliveries)
      (named : (other.receipt.receiptId == request.receiptId) = true)
      : (state.owner? other == some authority) = true := by
    rw [coherent.only_named found member named, owned, beq_self_eq_true]
  refine .get_bind (.orElseThrow_bind (find?_filter_inside kept).symm (fun current isFound => ?_))
  cases found.symm.trans isFound
  refine .check_bind ?_ (fun _ _ => .check_bind rfl (fun replacement _ => ?_))
  · rw [scope, indexed.restrict_authorizeDeliveryEndpoint owned]
  cases replacement with
  | none => exact .pure alike
  | some wake =>
    refine .ensure_bind Iff.rfl (fun _ => .modify_bind (.pure ?_))
    have owner (other : DeliveryEntry)
        : state.owner? (other.withWake wake) = state.owner? other :=
      rfl
    refine alike.writeDeliveries ?_ ?_ ?_
    · rw [filter_updateFirst _ kept]
      · rfl
      · intro other isFirst
        cases found.symm.trans isFirst
        rw [owner, owned, beq_self_eq_true]
    · intro other different
      refine filter_updateFirst_outside (fun first isFirst => ?_)
      cases found.symm.trans isFirst
      simp [owner, owned, different.symm]
    · intro other member
      rcases mem_updateFirst member with old | ⟨old, isFirst, rfl⟩
      · exact indexed.deliveries_placed other old
      · exact indexed.deliveries_placed old (mem_of_find?_eq_some isFirst)

end Wakes

/-! ### Requests of one authority -/

/-- The request is for `authority`: it names it, and every dispatch it names is one of its
own. Creating a run compares sessions, and expiring deadlines visits dispatches, across all
authorities. -/
def Operation.IsFor (authority : AuthorityScope) : Operation → Prop
  | .openInteraction request _ => request.target.authority = authority
  | .answer request _ => request.target.authority = authority
  | .complete request _ => request.target.authority = authority
  | .setDispatchDeadline request _ => request.target.authority = authority
  | .dispatchDeadline request => request.target.authority = authority
  | .transitionDeliveryWake request => request.authority = authority
  | .readEvents request _ _ => request.authority = authority ∧ request.Within
  | .readEventsBatch scope requests =>
    scope = authority ∧ ∀ item ∈ requests, item.1.request.Within
  | .inspectEvents inspection => inspection.request.authority = authority
  | .interaction request => request.authority = authority
  | .interactionProgress request => request.authority = authority
  | .createRun _ _ _ => False
  | .expireDispatchDeadlines _ => False

/-- The service validates reads before it hands them to the store. -/
theorem ReadEventsRequest.within_of_valid {request : ReadEventsRequest}
    (valid : request.validate = .ok ())
    : request.Within := by
  intro target named
  simp only [ReadEventsRequest.validate, Check.seq_ok, Check.whenSome_ok,
    Check.rejectIf_ok] at valid
  obtain ⟨_, _, _, _, _, targets, _⟩ := valid
  exact not_not.mp (targets target named).2

/-- The part of `authority` simulates the store for the request: it succeeds alike, with the
same reply, writes the same records, and leaves those of other authorities unchanged. -/
structure StoreState.PartSimulates (sha256 : String → String) (state : StoreState)
    (authority : AuthorityScope) (operation : Operation)
    : Prop where
  replies
    : ∀ reply, (state.perform sha256 operation).1 = .ok reply
        ↔ ((state.restrict authority).perform sha256 operation).1 = .ok reply
  written
    : (state.perform sha256 operation).2.restrict authority
      = ((state.restrict authority).perform sha256 operation).2
  elsewhere
    : ∀ other, other ≠ authority
      → (state.perform sha256 operation).2.restrict other
        = { state.restrict other with
            nextCursor := (state.perform sha256 operation).2.nextCursor }

section Requests

variable {state : StoreState} {operation : Operation}

theorem StoreState.PartSimulates.of_agree
    (agree
      : Agree (fun _ => Scoped sha256 authority state []) (operation.transition sha256 state)
          (operation.transition sha256 (state.restrict authority)))
    : state.PartSimulates sha256 authority operation := by
  constructor
  all_goals unfold perform
  all_goals
    generalize operation.transition sha256 state = left at agree
    generalize operation.transition sha256 (state.restrict authority) = right at agree
  · cases agree <;> simp
  · cases agree with
    | ok alike => exact alike.part_eq.symm
    | error => rfl
  · cases agree with
    | ok alike => exact alike.elsewhere
    | error => exact fun _ _ => rfl

theorem StoreState.PartSimulates.of_errors
    (whole : operation.transition sha256 state = .error left leftState)
    (part : operation.transition sha256 (state.restrict authority) = .error right rightState)
    : state.PartSimulates sha256 authority operation := by
  have failed : state.perform sha256 operation = (.error left, state) := by
    rw [perform, whole]
  have failedPart
      : (state.restrict authority).perform sha256 operation
        = (.error right, state.restrict authority) := by
    rw [perform, part]
  constructor
  · simp [failed, failedPart]
  · rw [failed, failedPart]
  · intro other _
    rw [failed]
    rfl

/-- A wake of a delivery of another authority fails on both sides, here because it is denied
and there because it is not found. -/
theorem transitionDeliveryWake_simulated (coherent : state.Coherent sha256)
    (scope : request.authority = authority)
    : state.PartSimulates sha256 authority (.transitionDeliveryWake request) := by
  cases found : state.deliveries.find? (·.receipt.receiptId == request.receiptId) with
  | none =>
    have absent : (state.restrict authority).deliveries.find?
        (·.receipt.receiptId == request.receiptId) = none :=
      find?_eq_none.mpr (fun delivery member =>
        find?_eq_none.mp found delivery (mem_of_mem_filter member))
    exact .of_errors (map_error (transitionDeliveryWake_unknown found) _)
      (map_error (transitionDeliveryWake_unknown absent) _)
  | some delivery =>
    by_cases owned : state.owner? delivery = some authority
    · exact .of_agree (transitionDeliveryWake_agree coherent scope found owned).map_same
    · obtain ⟨error, denied⟩ := transitionDeliveryWake_foreign found (scope ▸ owned)
      have absent : (state.restrict authority).deliveries.find?
          (·.receipt.receiptId == request.receiptId) = none := by
        refine find?_eq_none.mpr (fun other member named => owned ?_)
        obtain ⟨isDelivery, mine⟩ := mem_filter.mp member
        exact coherent.only_named found isDelivery named ▸ beq_iff_eq.mp mine
      exact .of_errors (map_error denied _)
        (map_error (transitionDeliveryWake_unknown absent) _)

/-- Every request of one authority runs on that authority's part of a reachable store as it
does on the whole of it. -/
theorem authority_part_simulates_store (injective : Function.Injective sha256)
    (reachable : Reachable sha256 state) (isFor : operation.IsFor authority)
    : state.PartSimulates sha256 authority operation := by
  have coherent := reachable.coherent
  have indexed := coherent.indexed
  have placed := reachable.receiptsPlaced
  have alike : Scoped sha256 authority state [] state (state.restrict authority) :=
    .refl indexed
  cases operation with
  | openInteraction request fingerprint =>
    exact .of_agree (openInteraction_agree injective indexed placed isFor).map_same
  | answer request fingerprint =>
    exact .of_agree (answer_agree injective indexed placed isFor).map_same
  | complete request fingerprint =>
    exact .of_agree (complete_agree injective indexed placed isFor).map_same
  | setDispatchDeadline request fingerprint =>
    exact .of_agree (setDispatchDeadline_agree injective indexed isFor).map_same
  | transitionDeliveryWake request => exact transitionDeliveryWake_simulated coherent isFor
  | readEvents request fingerprint clock =>
    exact .of_agree (readEvents_agree alike isFor.2 isFor.1).map_same
  | readEventsBatch scope requests =>
    obtain ⟨rfl, within⟩ := isFor
    exact .of_agree (readEventsItems_agree alike within).map_same
  | interaction request =>
    refine .of_agree ?_
    change Agree _ (.ok (Reply.interaction (state.interaction request)) state)
      (.ok (Reply.interaction ((state.restrict authority).interaction request)) _)
    rw [restrict_interaction isFor]
    exact .ok alike
  | interactionProgress request =>
    refine .of_agree ?_
    change Agree _
      (.ok (Reply.interactionProgress (state.interactionProgress request)) state)
      (.ok (Reply.interactionProgress
        ((state.restrict authority).interactionProgress request)) _)
    rw [indexed.restrict_interactionProgress isFor]
    exact .ok alike
  | inspectEvents inspection =>
    have within := ReadEventsRequest.within_of_valid inspection.valid
    refine .of_agree (.get_bind ?_)
    rw [indexed.restrict_inspectEvents within isFor]
    cases state.inspectEvents inspection with
    | ok receipt => exact .ok alike
    | error error => exact .error
  | dispatchDeadline request =>
    refine .of_agree (.get_bind ?_)
    rw [restrict_dispatchDeadline isFor]
    cases state.dispatchDeadline request with
    | ok receipt => exact .ok alike
    | error error => exact .error
  | createRun request context fingerprint | expireDispatchDeadlines nowMs => exact isFor.elim

end Requests

/-- The sample dispatch next to one of another workspace. -/
def sampleTenants : StoreState :=
  { sampleSeed with
    dispatches :=
      [
        sampleDispatch,
        { sampleDispatch with
          target :=
            { sampleTarget with
              authority := { workspaceId := ⟨"workspace-2"⟩, tenantRef := none } }
          workerEndpoint := { sampleEndpoint with sessionIdentity := ⟨"session-2"⟩ } }
      ] }

/-- Witness: the worker of the first workspace sends its update. -/
theorem authority_part_simulates_store_sample
    : Reachable sampleSha256 sampleTenants
      ∧ (Operation.openInteraction sampleOpen sampleDigest).IsFor sampleTarget.authority
      ∧ sampleTenants.restrict sampleTarget.authority = sampleSeed
      ∧ sampleTenants.PartSimulates sampleSha256 sampleTarget.authority
          (.openInteraction sampleOpen sampleDigest) := by
  have reachable : Reachable sampleSha256 sampleTenants :=
    ⟨sampleTenants.dispatches, sampleTenants, [], by decide +kernel, rfl⟩
  exact ⟨reachable, rfl, by decide +kernel,
    authority_part_simulates_store sampleSha256_injective reachable rfl⟩

end Dure.Orchestration
