import Mathlib

/-! A resource that is used under tickets, one at a time. A ticket is issued, may be spent
once, and is closed; where no ticket is issued twice, a closed one never comes back.
-/

namespace Dure.Library.Tickets

open List

variable {τ : Type}

/-- Which ticket the resource is under. -/
inductive Stage (τ : Type) where
  | free
  | held (ticket : τ)
  | spent (ticket : τ)
  deriving DecidableEq

def Stage.ticket : Stage τ → Option τ
  | .free => none
  | .held ticket => some ticket
  | .spent ticket => some ticket

/-- What one step does with the tickets. A wasted ticket is issued and closed at once. -/
inductive Use (τ : Type) where
  | other
  | issue (ticket : τ)
  | spend (ticket : τ)
  | close (ticket : τ)
  | waste (ticket : τ)
  deriving DecidableEq

namespace Use

def issued : Use τ → Option τ
  | .issue ticket => some ticket
  | .waste ticket => some ticket
  | _ => none

/-- The step ends the ticket. -/
def Ends (ticket : τ) (use : Use τ) : Prop := use = .close ticket ∨ use = .waste ticket

/-- The step relies on the ticket. -/
def Relies (ticket : τ) (use : Use τ) : Prop := use = .spend ticket ∨ use = .close ticket

end Use

/-- The tickets that the steps issue, in order. -/
def issues (trace : List (Use τ)) : List τ := trace.filterMap Use.issued

section

variable (ticket : τ) (rest : List (Use τ))

@[simp]
theorem issues_other : issues (.other :: rest) = issues rest := rfl

@[simp]
theorem issues_issue : issues (.issue ticket :: rest) = ticket :: issues rest := rfl

@[simp]
theorem issues_waste : issues (.waste ticket :: rest) = ticket :: issues rest := rfl

@[simp]
theorem issues_spend : issues (.spend ticket :: rest) = issues rest := rfl

@[simp]
theorem issues_close : issues (.close ticket :: rest) = issues rest := rfl

end

/-- Other uses need the resource free of tickets. -/
inductive Stage.Step : Stage τ → Use τ → Stage τ → Prop where
  | other : Stage.Step .free .other .free
  | issue (ticket : τ) : Stage.Step .free (.issue ticket) (.held ticket)
  | waste (ticket : τ) : Stage.Step .free (.waste ticket) .free
  | spend (ticket : τ) : Stage.Step (.held ticket) (.spend ticket) (.spent ticket)
  | withdraw (ticket : τ) : Stage.Step (.held ticket) (.close ticket) .free
  | finish (ticket : τ) : Stage.Step (.spent ticket) (.close ticket) .free

inductive Runs : Stage τ → List (Use τ) → Stage τ → Prop where
  | nil {stage : Stage τ} : Runs stage [] stage
  | cons {first next last : Stage τ} {use : Use τ} {rest : List (Use τ)}
      (step : first.Step use next) (run : Runs next rest last)
      : Runs first (use :: rest) last

variable {first last next : Stage τ} {trace : List (Use τ)} {use : Use τ}

theorem Runs.append {middle : Stage τ} {rest : List (Use τ)} (run : Runs first trace middle)
    (later : Runs middle rest last)
    : Runs first (trace ++ rest) last := by
  induction run with
  | nil => exact later
  | cons step _ ih => exact .cons step (ih later)

theorem Runs.split {rest : List (Use τ)} (run : Runs first (trace ++ rest) last)
    : ∃ middle, Runs first trace middle ∧ Runs middle rest last := by
  induction trace generalizing first with
  | nil => exact ⟨first, .nil, run⟩
  | cons use trace ih =>
    cases run with
    | cons step run =>
      obtain ⟨middle, earlier, later⟩ := ih run
      exact ⟨middle, .cons step earlier, later⟩

/-- Between the issue of a ticket and its end the resource sees nothing but its spending. -/
theorem Runs.exclusive {ticket : τ} (run : Runs (.held ticket) trace last)
    (live : ∀ use ∈ trace, use ≠ .close ticket)
    : (trace = [] ∧ last = .held ticket) ∨ (trace = [.spend ticket] ∧ last = .spent ticket) := by
  cases run with
  | nil => exact .inl ⟨rfl, rfl⟩
  | cons step run =>
    cases step with
    | withdraw _ => exact absurd rfl (live _ mem_cons_self)
    | spend _ =>
      cases run with
      | nil => exact .inr ⟨rfl, rfl⟩
      | cons step _ =>
        cases step with
        | finish _ => exact absurd rfl (live _ (mem_cons_of_mem _ mem_cons_self))

attribute [local simp] Stage.ticket Use.Relies

/-- A ticket that is not the current one and is not issued any more is never relied on. -/
theorem Runs.unused {ticket : τ} (run : Runs first trace last)
    (absent : first.ticket ≠ some ticket) (unissued : ticket ∉ issues trace)
    : ∀ use ∈ trace, ¬use.Relies ticket := by
  induction run with
  | nil => simp
  | cons step _ ih =>
    cases step with
    | other => simpa using ih absent unissued
    | issue issued =>
      simp only [issues_issue, mem_cons, not_or] at unissued
      have later := ih (by simpa using Ne.symm unissued.1) unissued.2
      simpa using later
    | waste wasted =>
      simp only [issues_waste, mem_cons, not_or] at unissued
      simpa using ih absent unissued.2
    | spend spent =>
      have other : spent ≠ ticket := by simpa using absent
      simpa [other] using ih absent unissued
    | withdraw closed | finish closed =>
      have other : closed ≠ ticket := by simpa using absent
      simpa [other] using ih (by simp) unissued

/-- No ticket of the run is issued twice, the current one included. -/
def Distinct (first : Stage τ) (trace : List (Use τ)) : Prop :=
  (first.ticket.toList ++ issues trace).Nodup

/-- A free resource has distinct tickets when no two steps issue the same one. -/
theorem distinct_of_pairwise
    (once : trace.Pairwise (fun earlier later => ∀ ticket,
      earlier.issued = some ticket → later.issued ≠ some ticket))
    : Distinct .free trace := by
  unfold Distinct issues
  simp only [Stage.ticket, Option.toList_none, nil_append]
  refine pairwise_filterMap.mpr (once.imp ?_)
  rintro earlier later differ ticket issued other again rfl
  exact differ ticket issued again

theorem Distinct.step {rest : List (Use τ)} (distinct : Distinct first (use :: rest))
    (step : first.Step use next)
    : Distinct next rest := by
  unfold Distinct at distinct ⊢
  cases step with
  | other | issue ticket | spend ticket => simpa using distinct
  | waste ticket | withdraw ticket | finish ticket => exact (nodup_cons.mp distinct).2

/-- A ticket that the step ends or relies on is not issued later. -/
theorem Distinct.unissued {rest : List (Use τ)} {ticket : τ}
    (distinct : Distinct first (use :: rest)) (step : first.Step use next)
    (known : use.Ends ticket ∨ use.Relies ticket)
    : ticket ∉ issues rest := by
  unfold Distinct at distinct
  cases step <;> simp_all [Use.Ends]

/-- A ticket that has ended is never relied on again, and none is spent twice. Witness:
induction on the run; after a ticket ends the resource is free of it, and a spent one has
only its end before it. -/
theorem Runs.once (run : Runs first trace last) (distinct : Distinct first trace)
    : trace.Pairwise (fun earlier later => ∀ ticket,
        (earlier.Ends ticket → ¬later.Relies ticket)
        ∧ (earlier = .spend ticket → later ≠ .spend ticket)) := by
  induction run with
  | nil => exact .nil
  | cons step run ih =>
    refine .cons ?_ (ih (distinct.step step))
    intro later member ticket
    constructor
    · intro ends
      have unissued := distinct.unissued step (.inl ends)
      refine run.unused ?_ unissued later member
      cases step <;> simp_all [Use.Ends]
    · rintro rfl
      have unissued := distinct.unissued step (.inr (.inl rfl))
      -- a spent ticket can only be closed, and then the resource is free of it
      cases step with
      | spend _ =>
        cases run with
        | nil => cases member
        | cons step run =>
          cases step with
          | finish _ =>
            rcases mem_cons.mp member with rfl | member
            · simp
            · intro spends
              exact run.unused (by simp) unissued later member
                (.inl spends)

end Dure.Library.Tickets
