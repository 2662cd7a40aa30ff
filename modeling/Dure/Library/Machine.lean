import Mathlib

/-! Machines that answer one request at a time, and what holds along all their runs. -/

namespace Dure.Library

open List

/-- A machine answers every input and moves to its next state. -/
structure Machine (σ ι ο : Type) where
  step : σ → ι → ο × σ

namespace Machine

variable {σ ι ο : Type} (machine : Machine σ ι ο)

/-- The state after answering the inputs in order. -/
def after : σ → List ι → σ
  | state, [] => state
  | state, input :: rest => after (machine.step state input).2 rest

/-- The exchanges of a run: each input with the state it met and the answer it got. -/
def exchanges : σ → List ι → List (σ × ι × ο)
  | _, [] => []
  | state, input :: rest =>
    (state, input, (machine.step state input).1)
      :: exchanges (machine.step state input).2 rest

/-- Every input is allowed in the state it meets. -/
def Follows (allowed : σ → ι → Prop) : σ → List ι → Prop
  | _, [] => True
  | state, input :: rest =>
    allowed state input ∧ Follows allowed (machine.step state input).2 rest

@[simp]
theorem after_nil (state : σ) : machine.after state [] = state := rfl

@[simp]
theorem after_cons (state : σ) (input : ι) (rest : List ι)
    : machine.after state (input :: rest)
      = machine.after (machine.step state input).2 rest := rfl

theorem after_append (state : σ) (first second : List ι)
    : machine.after state (first ++ second)
      = machine.after (machine.after state first) second := by
  induction first generalizing state with
  | nil => rfl
  | cons input rest ih => exact ih _

theorem exchanges_append (state : σ) (first second : List ι)
    : machine.exchanges state (first ++ second)
      = machine.exchanges state first
        ++ machine.exchanges (machine.after state first) second := by
  induction first generalizing state with
  | nil => rfl
  | cons input rest ih => simp [exchanges, ih]

variable {inputs : List ι} {allowed : σ → ι → Prop} {exchange : σ × ι × ο}

/-- An exchange holds the machine's own answer. -/
theorem exchanges_answer {state : σ} (member : exchange ∈ machine.exchanges state inputs)
    : exchange.2.2 = (machine.step exchange.1 exchange.2.1).1 := by
  induction inputs generalizing state with
  | nil => cases member
  | cons input rest ih =>
    rcases mem_cons.mp member with rfl | later
    · rfl
    · exact ih later

/-- What stands before and after an exchange of a run is a run of its own. -/
theorem exchanges_split {state : σ} {earlier later : List (σ × ι × ο)}
    (split : machine.exchanges state inputs = earlier ++ exchange :: later)
    : ∃ before rest, inputs = before ++ exchange.2.1 :: rest
      ∧ exchange.1 = machine.after state before
      ∧ later = machine.exchanges (machine.step exchange.1 exchange.2.1).2 rest := by
  induction earlier generalizing state inputs with
  | nil =>
    cases inputs with
    | nil => cases split
    | cons input rest =>
      obtain ⟨rfl, rfl⟩ := cons.inj split
      exact ⟨[], rest, rfl, rfl, rfl⟩
  | cons first others ih =>
    cases inputs with
    | nil => cases split
    | cons input rest =>
      obtain ⟨before, remaining, rfl, met, follows⟩ := ih (cons.inj split).2
      exact ⟨input :: before, remaining, rfl, met, follows⟩

/-- A run is allowed exactly when both of its halves are. -/
theorem follows_append (state : σ) (first second : List ι)
    : machine.Follows allowed state (first ++ second)
      ↔ machine.Follows allowed state first
        ∧ machine.Follows allowed (machine.after state first) second := by
  induction first generalizing state with
  | nil => simp [Follows]
  | cons input rest ih => simp [Follows, ih, and_assoc]

/-- A property of every input may be added to what is allowed. -/
theorem Follows.and {machine : Machine σ ι ο} {property : ι → Prop} {state : σ}
    (follows : machine.Follows allowed state inputs) (every : ∀ input ∈ inputs, property input)
    : machine.Follows (fun state input => allowed state input ∧ property input) state
        inputs := by
  induction inputs generalizing state with
  | nil => trivial
  | cons input rest ih =>
    exact ⟨⟨follows.1, every input mem_cons_self⟩,
      ih follows.2 (fun other member => every other (mem_cons_of_mem _ member))⟩

/-- An invariant kept by every allowed step holds at the end of an allowed run. -/
theorem Follows.invariant {machine : Machine σ ι ο} {invariant : σ → Prop}
    (keeps
      : ∀ state input,
          allowed state input → invariant state → invariant (machine.step state input).2)
    {state : σ} (follows : machine.Follows allowed state inputs) (start : invariant state)
    : invariant (machine.after state inputs) := by
  induction inputs generalizing state with
  | nil => exact start
  | cons input rest ih => exact ih follows.2 (keeps state input follows.1 start)

section

variable {invariant : σ → Prop} {state : σ}
  (keeps : ∀ state input, invariant state → invariant (machine.step state input).2)
include keeps

/-- An invariant kept by every step holds at the end of every run. -/
theorem after_invariant (inputs : List ι) (start : invariant state)
    : invariant (machine.after state inputs) := by
  induction inputs generalizing state with
  | nil => exact start
  | cons input rest ih => exact ih (keeps state input start)

/-- An invariant kept by every step holds in every state that an input meets. -/
theorem exchanges_invariant (start : invariant state)
    (member : exchange ∈ machine.exchanges state inputs)
    : invariant exchange.1 := by
  induction inputs generalizing state with
  | nil => cases member
  | cons input rest ih =>
    rcases mem_cons.mp member with rfl | later
    · exact start
    · exact ih (keeps state input start) later

end

/-- The exchanges of a run in which the state before and after are as selected. -/
def occurrences (event : σ → σ → Bool) (state : σ) (inputs : List ι) : Nat :=
  (machine.exchanges state inputs).countP
    (fun exchange => event exchange.1 (machine.step exchange.1 exchange.2.1).2)

/-- An event that needs a state which it ends, and which never comes back, happens at most
once. Witness: induction on the inputs; after the event no later one is possible. -/
theorem occurrences_le_one {event : σ → σ → Bool} {invariant armed : σ → Prop}
    (keeps : ∀ state input, invariant state → invariant (machine.step state input).2)
    (needs : ∀ state input, invariant state
      → event state (machine.step state input).2 = true → armed state)
    (ends : ∀ state input, invariant state
      → event state (machine.step state input).2 = true → ¬armed (machine.step state input).2)
    (stays : ∀ state input, invariant state → ¬armed state
      → ¬armed (machine.step state input).2)
    {state : σ} (start : invariant state) (inputs : List ι)
    : machine.occurrences event state inputs ≤ 1
      ∧ (¬armed state → machine.occurrences event state inputs = 0) := by
  induction inputs generalizing state with
  | nil => exact ⟨Nat.zero_le 1, fun _ => rfl⟩
  | cons input rest ih =>
    obtain ⟨atMost, never⟩ := ih (keeps state input start)
    simp only [occurrences] at atMost never ⊢
    simp only [exchanges, countP_cons]
    by_cases happens : event state (machine.step state input).2 = true
    · have none := never (ends state input start happens)
      refine ⟨by simp [happens, none], fun unarmed => ?_⟩
      exact absurd (needs state input start happens) unarmed
    · refine ⟨by simpa [happens] using atMost, fun unarmed => ?_⟩
      simpa [happens] using never (stays state input start unarmed)

/-- A preorder respected by every step relates the ends of every run. -/
theorem after_relation {relation : σ → σ → Prop} (refl : ∀ state, relation state state)
    (trans : ∀ {first second third}, relation first second → relation second third
      → relation first third)
    (advances : ∀ state input, relation state (machine.step state input).2)
    {state : σ} (inputs : List ι)
    : relation state (machine.after state inputs) := by
  induction inputs generalizing state with
  | nil => exact refl state
  | cons input rest ih => exact trans (advances state input) ih

end Machine

end Dure.Library
