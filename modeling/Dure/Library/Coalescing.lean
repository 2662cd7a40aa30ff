import Mathlib

/-! Logs in which a replaceable record takes the place of earlier ones, back to the last
barrier, and the removal of list entries by position.
-/

namespace Dure.Library

open List

section

variable {α : Type} (selects : α → Bool)

/-- The positions of the selected entries, where the first entry stands at `start`. -/
def positions (start : Nat) (entries : List α) : List Nat :=
  (entries.zipIdx start).filterMap
    (fun indexed => if selects indexed.1 then some indexed.2 else none)

theorem positions_cons (start : Nat) (entry : α) (rest : List α)
    : positions selects start (entry :: rest)
      = if selects entry
        then start :: positions selects (start + 1) rest
        else positions selects (start + 1) rest := by
  cases selected : selects entry <;> simp [positions, zipIdx_cons, selected]

theorem positions_eq_nil {start : Nat} {entries : List α}
    (unselected : positions selects start entries = [])
    : ∀ entry ∈ entries, selects entry = false := by
  induction entries generalizing start with
  | nil => simp
  | cons entry rest ih =>
    rw [positions_cons] at unselected
    cases selected : selects entry with
    | true => simp [selected] at unselected
    | false =>
      simp only [selected, Bool.false_eq_true, if_false] at unselected
      exact forall_mem_cons.mpr ⟨selected, ih unselected⟩

/-- The last of the positions is that of the last selected entry. -/
theorem positions_last {start last : Nat} {entries : List α}
    (found : (positions selects start entries).getLast? = some last)
    : ∃ earlier entry later, entries = earlier ++ entry :: later
      ∧ selects entry = true ∧ (∀ other ∈ later, selects other = false)
      ∧ last = start + earlier.length
      ∧ positions selects start entries
        = positions selects start earlier ++ [start + earlier.length] := by
  induction entries generalizing start with
  | nil => simp [positions] at found
  | cons entry rest ih =>
    cases behind : (positions selects (start + 1) rest).getLast? with
    | some other =>
      have same : other = last := by
        rw [positions_cons] at found
        cases selected : selects entry <;>
          simpa [selected, getLast?_cons, behind] using found
      subst same
      obtain ⟨earlier, chosen, later, rfl, selected, none, rfl, shape⟩ := ih behind
      refine ⟨entry :: earlier, chosen, later, rfl, selected, none, ?_, ?_⟩
      · simp only [length_cons]
        omega
      · have moved : start + 1 + earlier.length = start + (entry :: earlier).length := by
          simp only [length_cons]
          omega
        cases first : selects entry <;> simp [positions_cons, first, shape, moved]
    | none =>
      have empty := getLast?_eq_none_iff.mp behind
      cases selected : selects entry with
      | false => simp [positions_cons, selected, empty] at found
      | true =>
        simp only [positions_cons, selected, if_true, empty, getLast?_singleton,
          Option.some.injEq] at found
        refine ⟨[], entry, rest, rfl, selected, positions_eq_nil selects empty, ?_, ?_⟩
        · simpa using found.symm
        · rw [positions_cons, if_pos selected, empty]
          rfl

/-- The positions found behind the first `count` entries. -/
theorem filterMap_drop_zipIdx (count : Nat) (entries : List α)
    : (entries.zipIdx.drop count).filterMap
        (fun indexed => if selects indexed.1 then some indexed.2 else none)
      = positions selects count (entries.drop count) := by
  have shifted : entries.zipIdx.drop count = (entries.drop count).zipIdx count := by
    apply ext_getElem?
    intro index
    simp [getElem?_zipIdx, Nat.add_comm]
  rw [positions, shifted]

end

section

variable {τ : Type} (replaces blocks : τ → Bool)

/-- The records up to the first barrier, which is one of them. -/
def throughBarrier : List τ → List τ
  | [] => []
  | record :: rest => if blocks record then [record] else record :: throughBarrier rest

/-- A replaceable record is superseded by a later one with no barrier between them. -/
def superseded (record : τ) (later : List τ) : Bool :=
  replaces record && !blocks record && (throughBarrier blocks later).any replaces

/-- The log without its superseded records. -/
def coalesce : List τ → List τ
  | [] => []
  | record :: rest =>
    if superseded replaces blocks record rest then coalesce rest
    else record :: coalesce rest

/-- The list without the replaceable records behind its last barrier. -/
def dropReplaced : List τ → List τ
  | [] => []
  | record :: rest =>
    if replaces record && !(record :: rest).any blocks then dropReplaced rest
    else record :: dropReplaced rest

variable {replaces blocks}

theorem coalesce_sublist (log : List τ)
    : (coalesce replaces blocks log).Sublist log := by
  induction log with
  | nil => exact List.Sublist.refl []
  | cons record rest ih =>
    unfold coalesce
    split
    · exact ih.cons record
    · exact ih.cons_cons record

/-- Only replaceable records are ever superseded. -/
theorem filter_coalesce (log : List τ)
    : (coalesce replaces blocks log).filter (fun record => !replaces record)
      = log.filter (fun record => !replaces record) := by
  induction log with
  | nil => rfl
  | cons record rest ih =>
    cases gone : superseded replaces blocks record rest with
    | true =>
      have replaceable : replaces record = true := by
        simp only [superseded, Bool.and_eq_true] at gone
        exact gone.1.1
      simp [coalesce, gone, ih, replaceable]
    | false => simp [coalesce, gone, ih, filter_cons]

/-- A barrier is never superseded. -/
theorem any_blocks_coalesce (log : List τ)
    : (coalesce replaces blocks log).any blocks = log.any blocks := by
  induction log with
  | nil => rfl
  | cons record rest ih =>
    cases gone : superseded replaces blocks record rest with
    | true =>
      have passing : blocks record = false := by
        simp only [superseded, Bool.and_eq_true, Bool.not_eq_true'] at gone
        exact gone.1.2
      simp [coalesce, gone, ih, passing]
    | false => simp [coalesce, gone, ih]

theorem any_throughBarrier_append (log : List τ) (record : τ)
    : (throughBarrier blocks (log ++ [record])).any replaces
      = ((throughBarrier blocks log).any replaces || (!log.any blocks && replaces record)) := by
  induction log with
  | nil => cases blocked : blocks record <;> simp [throughBarrier, blocked]
  | cons first rest ih =>
    cases blocked : blocks first with
    | true => simp [throughBarrier, blocked]
    | false => simp [throughBarrier, blocked, ih, Bool.or_assoc]

variable {record : τ} {log : List τ}

theorem throughBarrier_of_clear (clear : log.any blocks = false)
    : throughBarrier blocks log = log := by
  induction log with
  | nil => rfl
  | cons record rest ih =>
    simp only [any_cons, Bool.or_eq_false_iff] at clear
    simp [throughBarrier, clear.1, ih clear.2]

/-- A record that replaces nothing is added behind the coalesced log. -/
theorem coalesce_append_kept (log : List τ) (kept : replaces record = false)
    : coalesce replaces blocks (log ++ [record])
      = coalesce replaces blocks log ++ [record] := by
  induction log with
  | nil => simp [coalesce, superseded, kept]
  | cons first rest ih =>
    have same : superseded replaces blocks first (rest ++ [record])
        = superseded replaces blocks first rest := by
      simp [superseded, any_throughBarrier_append, kept]
    cases gone : superseded replaces blocks first rest <;>
      simp [coalesce, same, gone, ih]

/-- With no barrier left, every replaceable record is dropped. -/
theorem dropReplaced_of_clear (clear : log.any blocks = false)
    : dropReplaced replaces blocks log = log.filter (fun record => !replaces record) := by
  induction log with
  | nil => rfl
  | cons record rest ih =>
    have behind : rest.any blocks = false := by
      simp only [any_cons, Bool.or_eq_false_iff] at clear
      exact clear.2
    cases replaceable : replaces record <;>
      simp [dropReplaced, clear, replaceable, ih behind]

section

variable {before after : List τ} (ends : ∀ last ∈ before.getLast?, blocks last = true)
include ends

/-- What stands in front of a barrier, and the barrier, is kept. -/
theorem dropReplaced_append
    : dropReplaced replaces blocks (before ++ after)
      = before ++ dropReplaced replaces blocks after := by
  induction before with
  | nil => rfl
  | cons record rest ih =>
    have barrier : (record :: (rest ++ after)).any blocks = true := by
      obtain ⟨last, found⟩ : ∃ last, (record :: rest).getLast? = some last :=
        ⟨_, getLast?_eq_some_getLast (cons_ne_nil record rest)⟩
      have member : last ∈ record :: (rest ++ after) := by
        have inFront := mem_of_getLast? found
        simp only [mem_cons, mem_append] at inFront ⊢
        exact inFront.imp_right Or.inl
      exact any_eq_true.mpr ⟨last, member, ends last found⟩
    have kept := ih (fun last found => ends last (by
      cases rest with
      | nil => simp at found
      | cons second others => simpa [getLast?_cons_cons] using found))
    simp [dropReplaced, barrier, kept]

/-- The replaceable records are dropped exactly from what stands behind the last barrier. -/
theorem dropReplaced_split (clear : ∀ record ∈ after, blocks record = false)
    : dropReplaced replaces blocks (before ++ after)
      = before ++ after.filter (fun record => !replaces record) := by
  have passing : after.any blocks = false :=
    any_eq_false.mpr (fun record member => by simp [clear record member])
  rw [dropReplaced_append ends, dropReplaced_of_clear passing]

end

theorem map_dropReplaced {σ : Type} (value : σ → τ) (log : List σ)
    : (dropReplaced (fun record => replaces (value record)) (fun record => blocks (value record))
        log).map value
      = dropReplaced replaces blocks (log.map value) := by
  induction log with
  | nil => rfl
  | cons record rest ih =>
    have barriers : (value record :: rest.map value).any blocks
        = (record :: rest).any (fun record => blocks (value record)) := by
      simp [Function.comp_def]
    simp only [dropReplaced, map_cons, barriers, ← ih]
    split <;> simp

/-- A replaceable record is added behind the log that it has replaced its predecessors in.
Witness: induction on the log. With a barrier ahead nothing changes for the first record;
without one it is superseded exactly when it is replaceable and no barrier itself.
-/
theorem coalesce_append_replacing (log : List τ) (replacing : replaces record = true)
    : coalesce replaces blocks (log ++ [record])
      = dropReplaced replaces blocks (coalesce replaces blocks log) ++ [record] := by
  induction log with
  | nil => simp [coalesce, superseded, throughBarrier, dropReplaced]
  | cons first rest ih =>
    have ahead := @any_blocks_coalesce τ replaces blocks rest
    have next : superseded replaces blocks first (rest ++ [record])
        = (superseded replaces blocks first rest
          || (replaces first && !blocks first && !rest.any blocks)) := by
      simp [superseded, any_throughBarrier_append, replacing, Bool.and_or_distrib_left]
    simp only [cons_append, coalesce, next, ih]
    cases gone : superseded replaces blocks first rest with
    | true => simp
    | false =>
      cases replaceable : replaces first <;> cases blocked : blocks first <;>
        cases barrier : rest.any blocks <;>
        simp [dropReplaced, ahead, replaceable, blocked, barrier]

/-- The first record of a coalesced log is the first that is not superseded.
Witness: induction on the log, skipping its superseded records.
-/
theorem coalesce_uncons {kept : List τ} (first : coalesce replaces blocks log = record :: kept)
    : ∃ skipped later, log = skipped ++ record :: later
      ∧ (∀ other ∈ skipped, replaces other = true)
      ∧ superseded replaces blocks record later = false
      ∧ coalesce replaces blocks later = kept := by
  induction log with
  | nil => cases first
  | cons head rest ih =>
    cases gone : superseded replaces blocks head rest with
    | true =>
      have replaceable : replaces head = true := by
        simp only [superseded, Bool.and_eq_true] at gone
        exact gone.1.1
      simp only [coalesce, gone, if_true] at first
      obtain ⟨skipped, later, rfl, every, stays, remaining⟩ := ih first
      refine ⟨head :: skipped, later, rfl, ?_, stays, remaining⟩
      intro other member
      rcases mem_cons.mp member with rfl | member
      · exact replaceable
      · exact every other member
    | false =>
      simp only [coalesce, gone, Bool.false_eq_true, if_false] at first
      obtain ⟨rfl, rfl⟩ := cons.inj first
      exact ⟨[], rest, rfl, by simp, gone, rfl⟩

/-- Behind the last barrier of a coalesced log there is at most one replaceable record.
Witness: induction on the log; a kept replaceable record in front of no barrier has none
behind it.
-/
theorem countP_coalesce_le_one {before after : List τ}
    (split : coalesce replaces blocks log = before ++ after) (clear : after.any blocks = false)
    : after.countP replaces ≤ 1 := by
  induction log generalizing before after with
  | nil =>
    obtain ⟨-, rfl⟩ := append_eq_nil_iff.mp split.symm
    exact Nat.zero_le 1
  | cons record rest ih =>
    cases gone : superseded replaces blocks record rest with
    | true =>
      simp only [coalesce, gone, if_true] at split
      exact ih split clear
    | false =>
      simp only [coalesce, gone, Bool.false_eq_true, if_false] at split
      cases before with
      | cons head others => exact ih (cons.inj split).2 clear
      | nil =>
        have whole : record :: coalesce replaces blocks rest = after := split
        subst whole
        simp only [any_cons, Bool.or_eq_false_iff] at clear
        have few : (coalesce replaces blocks rest).countP replaces ≤ 1 :=
          ih (nil_append _).symm clear.2
        cases replaceable : replaces record with
        | false => simpa [replaceable] using few
        | true =>
          have ahead : rest.any blocks = false := any_blocks_coalesce rest ▸ clear.2
          have latest : rest.any replaces = false := by
            simpa [superseded, replaceable, clear.1, throughBarrier_of_clear ahead] using gone
          have none : rest.countP replaces = 0 :=
            countP_eq_zero.mpr (any_eq_false.mp latest)
          have fewer : (coalesce replaces blocks rest).countP replaces ≤ rest.countP replaces :=
            (coalesce_sublist rest).countP_le
          rw [countP_cons_of_pos replaceable]
          omega

end

end Dure.Library
