import Mathlib

/-! A list of texts written as one text, each part ended by a NUL. Parts that hold no NUL are
determined by the text.
-/

namespace Dure.Library

open List

def terminated : List String → String
  | [] => ""
  | part :: rest => part ++ "\x00" ++ terminated rest

/-- A part may be written: it does not hold the terminator. -/
def Unterminated (part : String) : Prop := '\x00' ∉ part.toList

instance (part : String) : Decidable (Unterminated part) :=
  inferInstanceAs (Decidable ('\x00' ∉ part.toList))

theorem Unterminated.append {left right : String} (first : Unterminated left)
    (second : Unterminated right)
    : Unterminated (left ++ right) := by
  intro member
  rw [String.toList_append] at member
  exact (mem_append.mp member).elim first second

theorem terminated_toList (part : String) (rest : List String)
    : (terminated (part :: rest)).toList
      = part.toList ++ '\x00' :: (terminated rest).toList := by
  simp [terminated, append_assoc]

/-- The first terminator ends the first part. -/
theorem split_first_terminator {left right leftRest rightRest : List Char}
    (leftClean : '\x00' ∉ left) (rightClean : '\x00' ∉ right)
    (same : left ++ '\x00' :: leftRest = right ++ '\x00' :: rightRest)
    : left = right ∧ leftRest = rightRest := by
  induction left generalizing right with
  | nil =>
    cases right with
    | nil => exact ⟨rfl, (cons.inj same).2⟩
    | cons character others =>
      obtain ⟨rfl, _⟩ := cons.inj same
      simp at rightClean
  | cons character others ih =>
    cases right with
    | nil =>
      obtain ⟨rfl, _⟩ := cons.inj same
      simp at leftClean
    | cons other rest =>
      obtain ⟨rfl, tails⟩ := cons.inj same
      obtain ⟨rfl, rfl⟩ := ih (fun member => leftClean (mem_cons_of_mem _ member))
        (fun member => rightClean (mem_cons_of_mem _ member)) tails
      exact ⟨rfl, rfl⟩

/-- No two lists of such parts are written alike. Witness: induction on the first list; the
first terminator ends the first part of both. -/
theorem terminated_injective {left right : List String}
    (leftParts : ∀ part ∈ left, Unterminated part)
    (rightParts : ∀ part ∈ right, Unterminated part)
    (same : terminated left = terminated right)
    : left = right := by
  induction left generalizing right with
  | nil =>
    cases right with
    | nil => rfl
    | cons part rest =>
      have empty := congrArg String.toList same
      rw [terminated_toList] at empty
      simp [terminated] at empty
  | cons part rest ih =>
    cases right with
    | nil =>
      have empty := congrArg String.toList same
      rw [terminated_toList] at empty
      simp [terminated] at empty
    | cons other others =>
      have characters := congrArg String.toList same
      rw [terminated_toList, terminated_toList] at characters
      obtain ⟨first, later⟩ := split_first_terminator
        (leftParts part mem_cons_self) (rightParts other mem_cons_self) characters
      rw [String.toList_injective first, ih
        (fun later member => leftParts later (mem_cons_of_mem _ member))
        (fun later member => rightParts later (mem_cons_of_mem _ member))
        (String.toList_injective later)]

end Dure.Library
