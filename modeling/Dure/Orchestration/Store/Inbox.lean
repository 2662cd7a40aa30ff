import Dure.Orchestration.Store.Coherence

/-! Paging an inbox. A reader that starts at the beginning and hands each page's next cursor
to the following read gets every matching event once and in order, whatever other clients do
between its pages.
-/

namespace Dure.Orchestration

open Library List StoreState

/-- What a paging reader keeps fixed. -/
structure Inbox where
  authority : AuthorityScope
  target : Option InteractionTarget
  participant : ParticipantRef
  deliveryCapability : CapabilityRef
  endpointFence : Option WorkerEndpointFence

namespace Inbox

def request (inbox : Inbox) (after : EventCursor) (limit : Nat)
    (acknowledgement : Option EventAcknowledgement)
    : ReadEventsRequest :=
  {
    schemaVersion := interactionSchemaVersion
    authority := inbox.authority
    target := inbox.target
    participant := inbox.participant
    deliveryCapability := inbox.deliveryCapability
    endpointFence := inbox.endpointFence
    after
    acknowledgement
    limit
  }

/-- The delivery matches the inbox: its participant, its capability and its scope. -/
def receives (inbox : Inbox) (state : StoreState) (delivery : DeliveryEntry) : Bool :=
  state.inRequest (inbox.request EventCursor.BEGINNING 0 none) delivery

/-- The event of some matching delivery. -/
def Delivered (inbox : Inbox) (state : StoreState) (event : Event) : Prop :=
  ∃ delivery ∈ state.deliveries, inbox.receives state delivery
    ∧ state.eventAt delivery.receipt.eventCursor = some event

end Inbox

/-- A run around one reader: its own reads, and the requests of everyone else. -/
inductive ReaderStep where
  | page (limit : Nat) (acknowledgement : Option EventAcknowledgement)
    (acknowledgementFingerprint : Option String) (clock : Option Nat)
  | other (operation : Operation)

/-- The store, the reader's cursor and the events it was given so far. -/
structure Reader where
  state : StoreState
  after : EventCursor
  events : List Event

/-- A read that fails leaves the reader where it was. -/
def Reader.advance (sha256 : String → String) (inbox : Inbox) (reader : Reader)
    : ReaderStep → Reader
  | .page limit acknowledgement fingerprint clock =>
    let (reply, state) := reader.state.perform sha256
      (.readEvents (inbox.request reader.after limit acknowledgement) fingerprint clock)
    match reply with
    | .ok (.readEvents receipt _) =>
      { state, after := receipt.nextCursor, events := reader.events ++ receipt.events }
    | _ => { reader with state }
  | .other operation => { reader with state := (reader.state.perform sha256 operation).2 }

def Reader.run (sha256 : String → String) (inbox : Inbox) (reader : Reader)
    (steps : List ReaderStep)
    : Reader :=
  steps.foldl (Reader.advance sha256 inbox) reader

/-- A reader that has read nothing yet. -/
def Reader.start (state : StoreState) : Reader :=
  { state, after := EventCursor.BEGINNING, events := [] }

/-- A delivery of `after` stands for one of `before` or belongs to a later cursor. -/
def StoreState.NewsAbove (before after : StoreState) : Prop :=
  before.nextCursor ≤ after.nextCursor
  ∧ ∀ delivery ∈ after.deliveries,
      (∃ old ∈ before.deliveries, old.SameAddress delivery)
      ∨ before.nextCursor ≤ delivery.receipt.eventCursor

section News

variable {sha256 : String → String} {before after : StoreState}

theorem DeliveryEntry.SameAddress.trans {first second third : DeliveryEntry}
    (earlier : first.SameAddress second) (later : second.SameAddress third)
    : first.SameAddress third where
  receiptId := later.receiptId.trans earlier.receiptId
  eventCursor := later.eventCursor.trans earlier.eventCursor
  participant := later.participant.trans earlier.participant
  endpoint := later.endpoint.trans earlier.endpoint
  deliveryCapability := later.deliveryCapability.trans earlier.deliveryCapability
  wakeCapability := later.wakeCapability.trans earlier.wakeCapability

theorem StoreState.NewsAbove.refl (state : StoreState) : state.NewsAbove state :=
  ⟨Nat.le_refl _, fun delivery member => Or.inl ⟨delivery, member, rfl, rfl, rfl, rfl, rfl, rfl⟩⟩

theorem StoreState.NewsAbove.trans {first second third : StoreState}
    (earlier : first.NewsAbove second) (later : second.NewsAbove third)
    : first.NewsAbove third := by
  refine ⟨earlier.1.trans later.1, ?_⟩
  intro delivery member
  rcases later.2 delivery member with ⟨middle, isMiddle, same⟩ | above
  · rcases earlier.2 middle isMiddle with ⟨old, isOld, sameOld⟩ | above
    · exact Or.inl ⟨old, isOld, sameOld.trans same⟩
    · exact Or.inr (same.eventCursor ▸ above)
  · exact Or.inr (earlier.1.trans above)

/-- A posting queues deliveries for its own first event only. -/
theorem Posting.Posted.newsAbove {posting : Posting}
    (posted : posting.Posted sha256 entries before after)
    : before.NewsAbove after := by
  refine ⟨posted.nextCursor_eq ▸ Nat.le_add_right _ _, ?_⟩
  intro delivery member
  rw [posted.deliveries_eq] at member
  rcases mem_append.mp member with old | new
  · exact (StoreState.NewsAbove.refl before).2 delivery old
  · obtain ⟨_, _, id, _, rfl⟩ := posted.queued delivery new
    exact Or.inr (Nat.le_refl _)

theorem EventsRead.newsAbove (effect
      : EventsRead request fingerprint clock selected observedAtMs receipt before after)
    : before.NewsAbove after := by
  rw [effect.after_eq]
  refine ⟨Nat.le_refl _, fun delivery member => Or.inl ?_⟩
  obtain ⟨old, isOld, rfl⟩ := mem_map.mp member
  exact ⟨old, isOld,
    (before.readDelivery_continues request selected observedAtMs old).toSameAddress⟩

theorem Step.newsAbove {operation : Operation} (step : Step sha256 operation before after)
    : before.NewsAbove after := by
  cases step with
  | created effect | opened effect | answered effect | completed effect
  | deadlineSet effect | expired effect => exact effect.posted.newsAbove
  | woken effect =>
    rw [effect.after_eq]
    refine ⟨Nat.le_refl _, fun delivery member => Or.inl ?_⟩
    rcases mem_updateFirst member with old | ⟨old, isOld, rfl⟩
    · exact ⟨delivery, old, rfl, rfl, rfl, rfl, rfl, rfl⟩
    · exact ⟨old, mem_of_find?_eq_some isOld, rfl, rfl, rfl, rfl, rfl, rfl⟩
  | read effect | batchRead _ _ effect => exact effect.newsAbove

end News

section Matching

variable {sha256 : String → String} {before after : StoreState} {inbox : Inbox}

theorem Inbox.receives_congr (same : old.SameAddress delivery)
    (events : after.eventAt old.receipt.eventCursor = before.eventAt old.receipt.eventCursor)
    : inbox.receives after delivery = inbox.receives before old := by
  unfold Inbox.receives inRequest eventInScope
  rw [same.participant, same.deliveryCapability, same.eventCursor, events]

/-- A delivery's event is there. -/
theorem StoreState.Coherent.eventAt_delivery (coherent : before.Coherent sha256)
    (member : delivery ∈ before.deliveries)
    : ∃ event, before.eventAt delivery.receipt.eventCursor = some event
      ∧ event.cursor = delivery.receipt.eventCursor
      ∧ event.cursor < before.nextCursor := by
  obtain ⟨event, isEvent, belongs⟩ := coherent.deliveries_placed delivery member
  refine ⟨event, ?_, belongs.cursor_eq, coherent.cursors_below event isEvent⟩
  rw [← belongs.cursor_eq]
  exact coherent.eventAt_mem isEvent

/-- Nothing is delivered late: below the old next cursor the delivered events are the old
ones. -/
theorem Inbox.delivered_iff (coherent : before.Coherent sha256)
    (extends_ : before.Extends after) (news : before.NewsAbove after)
    (below : event.cursor < before.nextCursor)
    : inbox.Delivered after event ↔ inbox.Delivered before event := by
  constructor
  · rintro ⟨delivery, member, matching, found⟩
    have cursor := (eventAt_some found).2
    rcases news.2 delivery member with ⟨old, isOld, same⟩ | above
    · obtain ⟨known, isKnown, _⟩ := coherent.eventAt_delivery isOld
      have stays := extends_.eventAt isKnown
      rw [same.eventCursor, stays] at found
      cases found
      rw [Inbox.receives_congr same (stays.trans isKnown.symm)] at matching
      exact ⟨old, isOld, matching, isKnown⟩
    · rw [← cursor] at above
      exact absurd below (Nat.not_lt.mpr above)
  · rintro ⟨old, isOld, matching, found⟩
    obtain ⟨delivery, member, continues⟩ := extends_.deliveries.mem isOld
    have stays := extends_.eventAt found
    have same := continues.toSameAddress
    rw [← Inbox.receives_congr same (stays.trans found.symm)] at matching
    exact ⟨delivery, member, matching, by rw [same.eventCursor, stays]⟩

end Matching

section Page

variable {sha256 : String → String} {before : StoreState} {inbox : Inbox} {after : EventCursor}
  {limit : Nat} {acknowledgement : Option EventAcknowledgement} {request : ReadEventsRequest}

theorem StoreState.checkedEventCursors_ok {state : StoreState}
    (checked : state.checkedEventCursors request = .ok selected)
    : selected = state.selectedCursors request := by
  unfold checkedEventCursors at checked
  obtain ⟨_, _, checked⟩ := Check.bind_ok.mp checked
  split at checked
  · cases checked
  · exact (Check.pure_ok.mp checked).symm

/-- A page holds the cursors of the matching deliveries after the reader's cursor, up to
its own last one. -/
theorem Inbox.mem_selectedCursors {cursor : EventCursor}
    : cursor ∈ before.selectedCursors (inbox.request after limit acknowledgement)
      ↔ ((∃ delivery ∈ before.deliveries, inbox.receives before delivery
            ∧ delivery.receipt.eventCursor = cursor)
          ∧ after < cursor)
        ∧ cursor ≤ (before.selectedCursors
            (inbox.request after limit acknowledgement)).getLast?.getD after := by
  have candidates (cursor : EventCursor)
      : cursor ∈ (before.deliveries.filter (fun delivery =>
          delivery.receipt.participant == inbox.participant
            && delivery.deliveryCapability == inbox.deliveryCapability
            && decide (delivery.receipt.eventCursor > after)
            && before.eventInScope delivery.receipt
              (inbox.request after limit acknowledgement))).map (·.receipt.eventCursor)
        ↔ (∃ delivery ∈ before.deliveries, inbox.receives before delivery
            ∧ delivery.receipt.eventCursor = cursor)
          ∧ after < cursor := by
    simp only [mem_map, mem_filter, Bool.and_eq_true, decide_eq_true_eq]
    constructor
    · rintro ⟨delivery, ⟨member, ⟨reader, later⟩, inScope⟩, rfl⟩
      have matching : inbox.receives before delivery := by
        simp only [Inbox.receives, inRequest, Bool.and_eq_true]
        exact ⟨reader, inScope⟩
      exact ⟨⟨delivery, member, matching, rfl⟩, later⟩
    · rintro ⟨⟨delivery, member, matching, rfl⟩, later⟩
      simp only [Inbox.receives, inRequest, Bool.and_eq_true] at matching
      exact ⟨delivery, ⟨member, ⟨matching.1, later⟩, matching.2⟩, rfl⟩
  rw [← candidates]
  exact mem_page (fun cursor member => ((candidates cursor).mp member).2)

variable {fingerprint : Option String} {clock : Option Nat} {selected : List EventCursor}
  {observedAtMs : Int} {receipt : ReadEventsReceipt} {state : StoreState}

/-- The events of a list of known cursors are in the order of the cursors. -/
theorem StoreState.cursors_filterMap {state : StoreState} {cursors : List EventCursor}
    (known : ∀ cursor ∈ cursors, ∃ event, state.eventAt cursor = some event)
    : (cursors.filterMap state.eventAt).map Event.cursor = cursors := by
  induction cursors with
  | nil => rfl
  | cons cursor rest ih =>
    obtain ⟨event, found⟩ := known cursor mem_cons_self
    rw [filterMap_cons_some found, map_cons, (eventAt_some found).2,
      ih (fun other member => known other (mem_cons_of_mem _ member))]

/-- Every cursor of a page is the cursor of an event. -/
theorem StoreState.Coherent.selected_known (coherent : before.Coherent sha256)
    : ∀ cursor ∈ before.selectedCursors request,
        ∃ event, before.eventAt cursor = some event := by
  intro cursor member
  obtain ⟨delivery, kept, rfl⟩ := mem_map.mp (mem_of_mem_page member)
  obtain ⟨event, found, _⟩ := coherent.eventAt_delivery (mem_of_mem_filter kept)
  exact ⟨event, found⟩

/-- A read returns the events of its page. -/
theorem EventsRead.cursors (coherent : before.Coherent sha256)
    (effect
      : EventsRead request fingerprint clock selected observedAtMs receipt before state)
    : receipt.events.map Event.cursor = selected := by
  have events : receipt.events = selected.filterMap before.eventAt := by
    rw [effect.receipt_eq, effect.after_eq]
    rfl
  rw [events]
  refine cursors_filterMap ?_
  rw [checkedEventCursors_ok effect.selected_ok]
  exact coherent.selected_known

/-- The facts about a page that its reader relies on. -/
structure Inbox.Page (inbox : Inbox) (after : EventCursor) (receipt : ReadEventsReceipt)
    (state : StoreState)
    : Prop where
  increasing : (receipt.events.map Event.cursor).Pairwise (· < ·)
  advances : after ≤ receipt.nextCursor
  exactly
    : ∀ event, event ∈ receipt.events
        ↔ inbox.Delivered state event ∧ after < event.cursor
          ∧ event.cursor ≤ receipt.nextCursor
  within : after < state.nextCursor → receipt.nextCursor < state.nextCursor

theorem EventsRead.page (coherent : before.Coherent sha256)
    (effect
      : EventsRead (inbox.request after limit acknowledgement) fingerprint clock selected
          observedAtMs receipt before state)
    : inbox.Page after receipt before := by
  have isSelected := checkedEventCursors_ok effect.selected_ok
  have members (cursor : EventCursor) := isSelected ▸
    @Inbox.mem_selectedCursors before inbox after limit acknowledgement cursor
  have events : receipt.events = selected.filterMap before.eventAt := by
    rw [effect.receipt_eq, effect.after_eq]
    rfl
  have next : receipt.nextCursor = selected.getLast?.getD after := by
    rw [effect.receipt_eq]
    rfl
  have reached : receipt.nextCursor = after ∨ receipt.nextCursor ∈ selected := by
    rw [next]
    cases last : selected.getLast? with
    | none => exact Or.inl rfl
    | some cursor => exact Or.inr (mem_of_getLast? last)
  refine ⟨?_, ?_, ?_, ?_⟩
  · rw [effect.cursors coherent, isSelected]
    exact page_strict _ _
  · rcases reached with stays | moves
    · exact stays.ge
    · exact ((members _).mp moves).1.2.le
  · intro event
    rw [events, mem_filterMap, next]
    constructor
    · rintro ⟨cursor, member, found⟩
      obtain ⟨⟨⟨delivery, isDelivery, matching, rfl⟩, later⟩, bounded⟩ :=
        (members cursor).mp member
      rw [(eventAt_some found).2]
      exact ⟨⟨delivery, isDelivery, matching, found⟩, later, bounded⟩
    · rintro ⟨⟨delivery, isDelivery, matching, found⟩, later, bounded⟩
      have cursor := (eventAt_some found).2
      refine ⟨event.cursor, (members _).mpr ⟨⟨⟨delivery, isDelivery, matching, cursor.symm⟩,
        later⟩, bounded⟩, ?_⟩
      rw [cursor, found]
  · intro start
    rcases reached with stays | moves
    · rwa [stays]
    · obtain ⟨⟨⟨delivery, isDelivery, _, isCursor⟩, _⟩, _⟩ := (members _).mp moves
      obtain ⟨event, _, cursor, below⟩ := coherent.eventAt_delivery isDelivery
      rwa [← isCursor, ← cursor]

end Page

/-- The reader has the matching events up to its cursor, in order. -/
structure Reader.Sound (sha256 : String → String) (inbox : Inbox) (reader : Reader)
    : Prop where
  coherent : reader.state.Coherent sha256
  reached : reader.after < reader.state.nextCursor
  increasing : (reader.events.map Event.cursor).Pairwise (· < ·)
  exactly
    : ∀ event, event ∈ reader.events
        ↔ inbox.Delivered reader.state event ∧ event.cursor ≤ reader.after

section Run

variable {sha256 : String → String} {inbox : Inbox} {reader : Reader}

section

variable (sound : reader.Sound sha256 inbox)
include sound

/-- What others do to the store does not change what the reader has. -/
theorem Reader.Sound.perform (operation : Operation)
    : Reader.Sound sha256 inbox
        { reader with state := (reader.state.perform sha256 operation).2 } where
  coherent := perform_coherent sha256 reader.state operation sound.coherent
  reached := sound.reached.trans_le (perform_extends sha256 reader.state operation).nextCursor
  increasing := sound.increasing
  exactly := by
    intro event
    rw [sound.exactly event]
    refine and_congr_left (fun within => ?_)
    exact (Inbox.delivered_iff sound.coherent (perform_extends sha256 reader.state operation)
      (perform_relation .refl .trans (fun _ _ step => step.newsAbove) reader.state)
      (within.trans_lt sound.reached)).symm

/-- A page continues where the reader stopped. -/
theorem Reader.Sound.page
    (succeeded
      : (reader.state.perform sha256
          (.readEvents (inbox.request reader.after limit acknowledgement) fingerprint
            clock)).1
        = .ok (.readEvents receipt changed))
    : Reader.Sound sha256 inbox
        {
          state := (reader.state.perform sha256
            (.readEvents (inbox.request reader.after limit acknowledgement) fingerprint
              clock)).2
          after := receipt.nextCursor
          events := reader.events ++ receipt.events
        } := by
  have moved := sound.perform
    (.readEvents (inbox.request reader.after limit acknowledgement) fingerprint clock)
  obtain ⟨⟨read, didChange⟩, applied, same⟩ := Update.map_ok.mp (perform_ok.mp succeeded)
  obtain ⟨rfl, rfl⟩ : read = receipt ∧ didChange = changed := by simpa using same
  obtain ⟨⟨_, _, effect⟩, _⟩ := readEvents_ok applied
  have page := effect.page sound.coherent
  have within := page.within sound.reached
  have extends_ := perform_extends sha256 reader.state
    (.readEvents (inbox.request reader.after limit acknowledgement) fingerprint clock)
  refine ⟨moved.coherent, within.trans_le extends_.nextCursor, ?_, ?_⟩
  · rw [map_append]
    refine pairwise_append.mpr ⟨sound.increasing, page.increasing, ?_⟩
    intro old isOld new isNew
    obtain ⟨oldEvent, oldMember, rfl⟩ := mem_map.mp isOld
    obtain ⟨newEvent, newMember, rfl⟩ := mem_map.mp isNew
    exact ((sound.exactly oldEvent).mp oldMember).2.trans_lt
      ((page.exactly newEvent).mp newMember).2.1
  · intro event
    have stays (below : event.cursor ≤ read.nextCursor)
        : inbox.Delivered _ event ↔ inbox.Delivered reader.state event :=
      Inbox.delivered_iff sound.coherent extends_ effect.newsAbove (below.trans_lt within)
    rw [mem_append, sound.exactly event, page.exactly event]
    constructor
    · rintro (⟨delivered, early⟩ | ⟨delivered, _, bounded⟩)
      · exact ⟨(stays (early.trans page.advances)).mpr delivered, early.trans page.advances⟩
      · exact ⟨(stays bounded).mpr delivered, bounded⟩
    · rintro ⟨delivered, bounded⟩
      rcases Nat.lt_or_ge reader.after event.cursor with later | early
      · exact Or.inr ⟨(stays bounded).mp delivered, later, bounded⟩
      · exact Or.inl ⟨(stays bounded).mp delivered, early⟩

theorem Reader.Sound.advance (step : ReaderStep)
    : Reader.Sound sha256 inbox (reader.advance sha256 inbox step) := by
  cases step with
  | other operation => exact sound.perform operation
  | page limit acknowledgement fingerprint clock =>
    unfold Reader.advance
    simp only
    split
    · rename_i receipt changed succeeded
      exact sound.page succeeded
    · exact sound.perform _

theorem Reader.Sound.run (steps : List ReaderStep)
    : Reader.Sound sha256 inbox (reader.run sha256 inbox steps) := by
  induction steps generalizing reader with
  | nil => exact sound
  | cons step rest ih => exact ih (sound.advance step)

end

/-- At the beginning there is nothing to have read: cursors are positive. -/
theorem Reader.Sound.start {state : StoreState} (coherent : state.Coherent sha256)
    : Reader.Sound sha256 inbox (Reader.start state) := by
  refine ⟨coherent, coherent.next_positive, .nil, ?_⟩
  intro event
  simp only [Reader.start, not_mem_nil, false_iff, not_and]
  rintro ⟨delivery, _, _, found⟩
  exact Nat.not_le.mpr
    (coherent.cursors_positive event (eventAt_some found).1)

/-- Paging neither skips nor repeats: after any run of pages and other requests, the events
handed out are strictly increasing in cursor and are exactly the events of the matching
deliveries up to the reader's cursor. -/
theorem paging_exact {start : StoreState} (reachable : Reachable sha256 start)
    (inbox : Inbox) (steps : List ReaderStep)
    : let reader := (Reader.start start).run sha256 inbox steps
      (reader.events.map Event.cursor).Pairwise (· < ·)
      ∧ ∀ event, event ∈ reader.events
        ↔ (∃ delivery ∈ reader.state.deliveries, inbox.receives reader.state delivery
            ∧ reader.state.eventAt delivery.receipt.eventCursor = some event)
          ∧ event.cursor ≤ reader.after := by
  have sound : Reader.Sound sha256 inbox ((Reader.start start).run sha256 inbox steps) :=
    (Reader.Sound.start reachable.coherent).run steps
  exact ⟨sound.increasing, sound.exactly⟩

/-- Witness: the coordinator reads a page before and after the worker's update. -/
theorem paging_exact_sample
    : let inbox : Inbox :=
        {
          authority := sampleTarget.authority
          target := some sampleTarget
          participant := sampleGrant.participant
          deliveryCapability := sampleGrant.deliveryCapability
          endpointFence := none
        }
      let reader := (Reader.start sampleSeed).run sampleSha256 inbox
        [.page 10 none none (some 1000), .other (.openInteraction sampleOpen sampleDigest),
          .page 10 none none (some 1001)]
      reader.events.length = 1
      ∧ ∀ event, event ∈ reader.events
        ↔ (∃ delivery ∈ reader.state.deliveries, inbox.receives reader.state delivery
            ∧ reader.state.eventAt delivery.receipt.eventCursor = some event)
          ∧ event.cursor ≤ reader.after :=
  ⟨by decide +kernel, (paging_exact sampleSeed_reachable _ _).2⟩

end Run

end Dure.Orchestration
