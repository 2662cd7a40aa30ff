import Dure.HostRuntime.QueueSessions
import Mathlib

/-! Over every run of a subscriber queue its content is the coalesced form of what was
pushed and not yet consumed: replacing never reorders or loses another record and never
crosses a barrier.
-/

namespace Dure.HostRuntime

open Library List

variable {τ : Type}

/-- What was pushed splits into a consumed front and a rest that the queue holds without
its superseded values. The consumer has got every other value of the front, in order. -/
structure Session.Coalesced (replace blocks : τ → Bool) (session : Session τ)
    (consumed rest : List τ) : Prop where
  pushed : session.pushed = consumed ++ rest
  held : session.queue.values = coalesce replace blocks rest
  popped
    : session.popped.filter (fun value => !replace value)
      = consumed.filter (fun value => !replace value)

variable {replace blocks : τ → Bool}

/-- Values that replace nothing are added behind the coalesced log, one after another. -/
theorem coalesce_append_plain (log added : List τ)
    (plain : ∀ value ∈ added, replace value = false)
    : coalesce replace blocks (log ++ added) = coalesce replace blocks log ++ added := by
  induction added generalizing log with
  | nil => simp
  | cons value rest ih =>
    have next := ih (log ++ [value]) (fun other member => plain other (by simp [member]))
    rw [append_assoc, singleton_append] at next
    rw [next, coalesce_append_kept log (plain value (by simp))]
    simp

/-- A disciplined plain call offers only values that replace nothing. -/
theorem Request.Disciplined.offers_plain {request : Request τ}
    (disciplined : request.Disciplined replace blocks)
    (plain : ∀ value bytes replaces barriers,
      request ≠ .tryReplaceMatchingOrPush value bytes replaces barriers)
    : ∀ value ∈ request.offers, replace value = false := by
  cases request with
  | tryPush value _ => exact fun other member => mem_singleton.mp member ▸ disciplined
  | tryPushBatch values =>
    intro value member
    obtain ⟨pair, present, rfl⟩ := mem_map.mp member
    exact disciplined pair present
  | tryReplaceMatchingOrPush value bytes replaces barriers =>
    exact absurd rfl (plain value bytes replaces barriers)
  | pop | close => nofun

variable {budget : HostResourceBudget} {queue : BoundedQueue τ} {session : Session τ}

/-- One disciplined call keeps the queue coalesced. -/
theorem Session.Coalesced.step {consumed rest : List τ}
    (coalesced : session.Coalesced replace blocks consumed rest)
    (disciplined : call.request.Disciplined replace blocks)
    : ∃ consumed' rest', ((sessions τ).step session call).2.Coalesced replace blocks consumed'
        rest' := by
  obtain ⟨request, now, budget⟩ := call
  have served := session.queue.served_serve budget now request
  simp only [sessions]
  generalize session.queue.serve budget now request = result at served
  obtain ⟨answer, after, final⟩ := result
  simp only at served ⊢
  generalize shape : after.values = values at served
  cases served with
  | unchanged addsNothing handsNothing _ =>
    refine ⟨consumed, rest, ?_, ?_, ?_⟩
    · simpa [addsNothing] using coalesced.pushed
    · exact shape.trans coalesced.held
    · simpa [handsNothing] using coalesced.popped
  | appended plain =>
    refine ⟨consumed, rest ++ request.offers, ?_, ?_, ?_⟩
    · simp [added, coalesced.pushed]
    · rw [coalesce_append_plain rest _ (disciplined.offers_plain plain), ← coalesced.held]
      exact shape
    · simpa [handedOut] using coalesced.popped
  | @replaced value _ replaces barriers =>
    obtain ⟨rfl, rfl, matching⟩ := disciplined
    refine ⟨consumed, rest ++ [value], ?_, ?_, ?_⟩
    · simp [added, Request.offers, coalesced.pushed]
    · rw [coalesce_append_replacing rest matching, ← coalesced.held]
      exact shape
    · simpa [handedOut] using coalesced.popped
  | @popped value _ front =>
    rw [coalesced.held] at front
    obtain ⟨skipped, later, rfl, replaceable, _, remaining⟩ := coalesce_uncons front
    refine ⟨consumed ++ skipped ++ [value], later, ?_, ?_, ?_⟩
    · simp [added, coalesced.pushed]
    · exact shape.trans remaining.symm
    · have dropped : skipped.filter (fun value => !replace value) = [] :=
        filter_eq_nil_iff.mpr (fun other member => by simp [replaceable other member])
      simp [handedOut, coalesced.popped, dropped]

/-- The queue is coalesced after every disciplined run. -/
theorem sessions_coalesced (empty : queue.entries = []) (calls : List (Call τ))
    (disciplined : ∀ call ∈ calls, call.request.Disciplined replace blocks)
    : ∃ consumed rest,
        ((sessions τ).after { queue } calls).Coalesced replace blocks consumed rest := by
  induction calls using reverseRecOn with
  | nil => exact ⟨[], [], rfl, by simp [BoundedQueue.values, empty, coalesce], rfl⟩
  | append_singleton earlier call ih =>
    obtain ⟨consumed, rest, coalesced⟩ :=
      ih (fun other member => disciplined other (by simp [member]))
    rw [Machine.after_append]
    exact coalesced.step (disciplined call (by simp))

/-- The popped value is the latest matching one pushed in its segment: the consumer has got
exactly the other records pushed before it, and behind it no matching value was pushed up to
and with the next barrier. -/
def Session.LatestOfSegment (replace blocks : τ → Bool) (session : Session τ) (value : τ)
    : Prop :=
  ∃ earlier later, session.pushed = earlier ++ value :: later
    ∧ session.popped.filter (fun value => !replace value)
      = earlier.filter (fun value => !replace value)
    ∧ (blocks value = false → ∀ other ∈ throughBarrier blocks later, replace other = false)

theorem Session.Coalesced.latestOfSegment
    (coalesced : session.Coalesced replace blocks consumed rest)
    (popped : (session.queue.pop budget).1 = .value value) (matching : replace value = true)
    : session.LatestOfSegment replace blocks value := by
  have served := session.queue.pop_served budget
  rw [popped] at served
  generalize (session.queue.pop budget).2.1.values = values at served
  cases served with
  | unchanged _ handsNothing _ => cases handsNothing
  | popped front =>
    rw [coalesced.held] at front
    obtain ⟨skipped, later, rfl, replaceable, stays, _⟩ := coalesce_uncons front
    refine ⟨consumed ++ skipped, later, ?_, ?_, ?_⟩
    · simp [coalesced.pushed]
    · have dropped : skipped.filter (fun value => !replace value) = [] :=
        filter_eq_nil_iff.mpr (fun other member => by simp [replaceable other member])
      simp [coalesced.popped, dropped]
    · intro passing other member
      simp only [superseded, matching, passing, Bool.not_false, Bool.and_self,
        Bool.true_and] at stays
      simpa using any_eq_false.mp stays other member

/-- A pop that hands out nothing found the queue empty. -/
theorem values_of_waiting (waiting : ∀ value, (queue.pop budget).1 ≠ .value value)
    : queue.values = [] := by
  have served := queue.pop_served budget
  generalize (queue.pop budget).1 = answer at served waiting
  generalize (queue.pop budget).2.1.values = values at served
  cases served with
  | unchanged _ _ waits => exact waits rfl
  | popped _ => exact absurd rfl (waiting _)

/-- Replacement keeps order and never crosses a barrier. A successful replacing push leaves
the old entries in their order without the matching ones behind the last barrier, followed
by the new one. Over every run in which the matching values, and only they, are pushed this
way: what the consumer got and what is queued are together the non-matching records in push
order, all of them once a pop finds nothing; at most one matching value lies behind the last
barrier; and a popped matching value is the latest of its segment. -/
theorem viewport_replacement_keeps_order
    : (∀ (queue after : BoundedQueue τ) (budget final : HostResourceBudget) (value : τ)
          (accountedBytes now : Nat) (replace blocks : τ → Bool),
        queue.tryReplaceMatchingOrPush budget value accountedBytes replace blocks now
          = (.ok (), after, final)
        → ∃ hostReservation, after.entries
            = dropReplaced (fun entry => replace entry.value) (fun entry => blocks entry.value)
                queue.entries
              ++ [⟨value, accountedBytes, now, hostReservation⟩])
      ∧ ∀ (replace blocks : τ → Bool) (queue : BoundedQueue τ) (calls : List (Call τ)),
        queue.entries = []
        → (∀ call ∈ calls, call.request.Disciplined replace blocks)
        → let session := (sessions τ).after { queue } calls
          (session.popped ++ session.queue.values).filter (fun value => !replace value)
              = session.pushed.filter (fun value => !replace value)
          ∧ (∀ before after, session.queue.values = before ++ after
              → (∀ value ∈ after, blocks value = false) → after.countP replace ≤ 1)
          ∧ ∀ budget : HostResourceBudget,
            (∀ value, (session.queue.pop budget).1 = .value value → replace value = true
              → session.LatestOfSegment replace blocks value)
            ∧ ((∀ value, (session.queue.pop budget).1 ≠ .value value)
              → session.popped.filter (fun value => !replace value)
                = session.pushed.filter (fun value => !replace value)) := by
  refine ⟨?_, ?_⟩
  · intro queue after budget final value accountedBytes now replace blocks succeeded
    have replaced := queue.tryReplaceMatchingOrPush_replaced budget value accountedBytes replace
      blocks now
    rw [succeeded] at replaced
    exact replaced.entries
  · intro replace blocks queue calls empty disciplined session
    obtain ⟨consumed, rest, coalesced⟩ := sessions_coalesced empty calls disciplined
    have ordered : (session.popped ++ session.queue.values).filter (fun value => !replace value)
        = session.pushed.filter (fun value => !replace value) := by
      rw [coalesced.pushed, filter_append, filter_append, coalesced.popped,
        coalesced.held, filter_coalesce]
    refine ⟨ordered, ?_, ?_⟩
    · intro before after split clear
      rw [coalesced.held] at split
      exact countP_coalesce_le_one split
        (any_eq_false.mpr (fun value member => by simp [clear value member]))
    · intro budget
      refine ⟨fun value popped matching => coalesced.latestOfSegment popped matching, ?_⟩
      intro waiting
      rw [values_of_waiting waiting, append_nil] at ordered
      exact ordered

/-- A viewport, a receipt behind it, a newer viewport, the exit barrier and one more. -/
def sampleCalls : List (Call (String × Nat)) :=
  let viewport (generation : Nat) : Request (String × Nat) :=
    .tryReplaceMatchingOrPush ("viewport", generation) 4 (fun entry => entry.1 == "viewport")
      (fun entry => entry.1 == "exit")
  [viewport 1, .tryPush ("receipt", 0) 2, viewport 2, .tryPush ("exit", 0) 2, viewport 3, .pop].map
    (fun request => ⟨request, 0, { limits := ⟨1, 2, 1, 1⟩ }⟩)

/-- The newer viewport takes the place of the older one behind the receipt and stays in
front of the barrier. -/
theorem newer_viewport_popped_before_exit
    : let viewport : String × Nat → Bool := fun entry => entry.1 == "viewport"
      let exit : String × Nat → Bool := fun entry => entry.1 == "exit"
      let session := (sessions (String × Nat)).after
        { queue := BoundedQueue.new (String × Nat) 4 20 5 false } sampleCalls
      session.popped = [("receipt", 0)]
      ∧ session.queue.values = [("viewport", 2), ("exit", 0), ("viewport", 3)]
      ∧ session.LatestOfSegment viewport exit ("viewport", 2) := by
  intro viewport exit session
  have disciplined : ∀ call ∈ sampleCalls, call.request.Disciplined viewport exit := by
    simp [sampleCalls, Request.Disciplined, viewport, exit]
  obtain ⟨-, -, pops⟩ := viewport_replacement_keeps_order.2 viewport exit
    (BoundedQueue.new (String × Nat) 4 20 5 false) sampleCalls rfl disciplined
  exact ⟨by decide +kernel, by decide +kernel,
    (pops { limits := ⟨1, 2, 1, 1⟩ }).1 ("viewport", 2) (by decide +kernel) (by decide)⟩

end Dure.HostRuntime
