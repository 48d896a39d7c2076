import Mathlib.Combinatorics.Enumerative.DyckWord

/-!
# Nested steps

A prefix of a Dyck word opens and closes brackets.  A closing bracket matches the opening bracket
from which on the steps in between are balanced, and a reader that keeps the positions of the open
brackets on a stack finds the match on top.
-/

namespace TaRef
namespace Nesting

open DyckStep

/-- A sequence of steps that is a Dyck word. -/
def Balanced (steps : List DyckStep) : Prop := ∃ word : DyckWord, word.toList = steps

/-- The steps from one position on and before another. -/
def segment (steps : List DyckStep) (first last : Nat) : List DyckStep :=
  (steps.drop first).take (last - first)

/-- The step at `closer` closes the bracket that the step at `opener` opens. -/
def Matched (steps : List DyckStep) (opener closer : Nat) : Prop :=
  opener < closer ∧ steps[opener]? = some U ∧ steps[closer]? = some D ∧
    Balanced (segment steps (opener + 1) closer)

/-- Number of brackets that are open after `count` steps. -/
def height (steps : List DyckStep) (count : Nat) : Nat :=
  (steps.take count).count U - (steps.take count).count D

/-- Positions of the brackets that are open after `count` steps, the latest first. -/
def pending (steps : List DyckStep) : Nat → List Nat
  | 0 => []
  | count + 1 =>
      match steps[count]? with
      | some U => count :: pending steps count
      | some D => (pending steps count).tail
      | none => pending steps count

/-! ## Balanced steps -/

theorem balanced_nil : Balanced [] := ⟨0, rfl⟩

theorem Balanced.append {left right : List DyckStep} (balanced : Balanced left)
    (balanced' : Balanced right) : Balanced (left ++ right) := by
  obtain ⟨word, rfl⟩ := balanced
  obtain ⟨word', rfl⟩ := balanced'
  exact ⟨word + word', rfl⟩

theorem Balanced.nest {steps : List DyckStep} (balanced : Balanced steps) :
    Balanced (U :: steps ++ [D]) := by
  obtain ⟨word, rfl⟩ := balanced
  exact ⟨word.nest, rfl⟩

theorem Balanced.count_eq {steps : List DyckStep} (balanced : Balanced steps) :
    steps.count U = steps.count D := by
  obtain ⟨word, rfl⟩ := balanced
  exact word.count_U_eq_count_D

theorem Balanced.count_le {left right : List DyckStep} (balanced : Balanced (left ++ right)) :
    left.count D ≤ left.count U := by
  obtain ⟨word, word_eq⟩ := balanced
  have prefix_le := word.count_D_le_count_U left.length
  rwa [word_eq, List.take_left] at prefix_le

/-! ## Segments -/

section Segments

variable {steps : List DyckStep} {first middle last : Nat} {step : DyckStep}

theorem segment_self : segment steps first first = [] := by
  rw [segment, Nat.sub_self, List.take_zero]

theorem segment_zero : segment steps 0 last = steps.take last := rfl

theorem segment_append (steps : List DyckStep) (first_le : first ≤ middle)
    (middle_le : middle ≤ last) :
    segment steps first middle ++ segment steps middle last = segment steps first last := by
  obtain ⟨front, rfl⟩ := Nat.exists_eq_add_of_le first_le
  obtain ⟨back, rfl⟩ := Nat.exists_eq_add_of_le middle_le
  rw [segment, segment, segment, ← List.drop_drop, Nat.add_sub_cancel_left,
    Nat.add_sub_cancel_left, Nat.add_assoc, Nat.add_sub_cancel_left, List.take_add]

theorem segment_single (entry : steps[first]? = some step) :
    segment steps first (first + 1) = [step] := by
  obtain ⟨inside, rfl⟩ := List.getElem?_eq_some_iff.mp entry
  rw [segment, Nat.add_sub_cancel_left, List.drop_eq_getElem_cons inside, List.take_succ_cons,
    List.take_zero]

theorem segment_succ (first_le : first ≤ last) (entry : steps[last]? = some step) :
    segment steps first (last + 1) = segment steps first last ++ [step] := by
  rw [← segment_append steps first_le (Nat.le_succ last), segment_single entry]

theorem segment_cons (first_lt : first < last) (entry : steps[first]? = some step) :
    segment steps first last = step :: segment steps (first + 1) last := by
  rw [← segment_append _ (Nat.le_succ first) first_lt, segment_single entry, List.singleton_append]

end Segments

/-- A closing bracket matches one opening bracket. -/
theorem matched_unique {steps : List DyckStep} {opener other closer : Nat}
    (matched : Matched steps opener closer) (matched' : Matched steps other closer) :
    opener = other := by
  -- the later opener would be unmatched among the steps behind the earlier one
  have not_before : ∀ {earlier later : Nat}, Matched steps earlier closer →
      Matched steps later closer → ¬ earlier < later := by
    intro earlier later ⟨_, _, _, balanced⟩ ⟨later_lt, opens, _, balanced'⟩ before
    have split := segment_append steps (Nat.succ_le_of_lt before) (Nat.le_of_lt later_lt)
    rw [segment_cons later_lt opens] at split
    have counts := balanced.count_eq
    have counts' := balanced'.count_eq
    have front := (split ▸ balanced).count_le
    rw [← split, List.count_append, List.count_append, List.count_cons_self,
      List.count_cons_of_ne (by decide)] at counts
    omega
  exact Nat.le_antisymm (Nat.not_lt.mp (not_before matched' matched))
    (Nat.not_lt.mp (not_before matched matched'))

/-! ## The open brackets -/

/-- These positions hold open brackets, the latest first, with balanced steps between and after
them. -/
def Pends (steps : List DyckStep) : List Nat → Nat → Prop
  | [], count => Balanced (steps.take count)
  | opener :: openers, count =>
      opener < count ∧ steps[opener]? = some U ∧ Balanced (segment steps (opener + 1) count) ∧
        Pends steps openers opener

section Pending

variable {steps : List DyckStep} {openers : List Nat} {opener count : Nat}

theorem pending_of_up (entry : steps[count]? = some U) :
    pending steps (count + 1) = count :: pending steps count := by
  rw [pending, entry]

theorem pending_of_down (entry : steps[count]? = some D) :
    pending steps (count + 1) = (pending steps count).tail := by
  rw [pending, entry]

/-- Balanced steps change no open bracket. -/
theorem Pends.extend {last : Nat} (pends : Pends steps openers count) (count_le : count ≤ last)
    (balanced : Balanced (segment steps count last)) : Pends steps openers last := by
  cases openers with
  | nil =>
      rw [Pends, ← segment_zero, ← segment_append _ (Nat.zero_le count) count_le]
      exact Balanced.append pends balanced
  | cons opener openers =>
      obtain ⟨opener_lt, opens, between, before⟩ := pends
      refine ⟨Nat.lt_of_lt_of_le opener_lt count_le, opens, ?_, before⟩
      rw [← segment_append _ opener_lt count_le]
      exact between.append balanced

theorem Pends.up (pends : Pends steps openers count) (entry : steps[count]? = some U) :
    Pends steps (count :: openers) (count + 1) :=
  ⟨Nat.lt_succ_self count, entry, by rw [segment_self]; exact balanced_nil, pends⟩

theorem Pends.down (pends : Pends steps (opener :: openers) count)
    (entry : steps[count]? = some D) : Pends steps openers (count + 1) := by
  obtain ⟨opener_lt, opens, between, before⟩ := pends
  have opener_lt' : opener < count + 1 := Nat.lt_succ_of_lt opener_lt
  refine before.extend (Nat.le_of_lt opener_lt') ?_
  rw [segment_cons opener_lt' opens, segment_succ opener_lt entry]
  exact between.nest

/-- As many brackets are open as were opened and not closed. -/
theorem Pends.length_add (pends : Pends steps openers count) :
    openers.length + (steps.take count).count D = (steps.take count).count U := by
  induction openers generalizing count with
  | nil =>
      rw [List.length_nil, Nat.zero_add]
      exact (Balanced.count_eq pends).symm
  | cons opener openers ih =>
      obtain ⟨opener_lt, opens, between, before⟩ := pends
      have balance := between.count_eq
      have earlier := ih before
      rw [← segment_zero, ← segment_append _ (Nat.zero_le opener) (Nat.le_of_lt opener_lt),
        segment_cons opener_lt opens, List.count_append, List.count_append, List.count_cons_self,
        List.count_cons_of_ne (by decide), segment_zero, List.length_cons]
      omega

/-- A prefix of a Dyck word does not close more brackets than it opened. -/
theorem not_down_of_pends_nil {word : DyckWord} (nested : steps <+: word.toList)
    (pends : Pends steps [] count) : steps[count]? ≠ some D := by
  intro entry
  have count_lt := (List.getElem?_eq_some_iff.mp entry).1
  have balance := Pends.length_add pends
  have prefix_le := word.count_D_le_count_U (count + 1)
  obtain ⟨rest, word_eq⟩ := nested
  rw [List.length_nil, Nat.zero_add] at balance
  rw [← word_eq, List.take_append_of_le_length count_lt, ← segment_zero,
    segment_succ (Nat.zero_le count) entry, segment_zero, List.count_append, List.count_append,
    balance] at prefix_le
  simp at prefix_le

/-- Where a prefix of a Dyck word closes a bracket, one is open. -/
theorem Pends.exists_cons {word : DyckWord} (nested : steps <+: word.toList)
    (pends : Pends steps openers count) (entry : steps[count]? = some D) :
    ∃ opener rest, openers = opener :: rest := by
  cases openers with
  | nil => exact absurd entry (not_down_of_pends_nil nested pends)
  | cons opener rest => exact ⟨opener, rest, rfl⟩

/-- On a prefix of a Dyck word the stack holds the open brackets. -/
theorem pends_pending {word : DyckWord} (nested : steps <+: word.toList)
    (count_le : count ≤ steps.length) : Pends steps (pending steps count) count := by
  induction count with
  | zero => exact balanced_nil
  | succ count ih =>
      have pends := ih (Nat.le_of_succ_le count_le)
      rcases entry : steps[count]? with - | - | -
      · exact absurd (List.getElem?_eq_none_iff.mp entry) (by omega)
      · rw [pending_of_up entry]
        exact pends.up entry
      · obtain ⟨opener, openers, opened⟩ := pends.exists_cons nested entry
        rw [opened] at pends
        rw [pending_of_down entry, opened]
        exact pends.down entry

theorem length_pending {word : DyckWord} (nested : steps <+: word.toList)
    (count_le : count ≤ steps.length) : (pending steps count).length = height steps count := by
  have balance := (pends_pending nested count_le).length_add
  rw [height]
  omega

/-- A closing bracket finds its match on top of the stack. -/
theorem matched_of_down {word : DyckWord} (nested : steps <+: word.toList)
    (entry : steps[count]? = some D) :
    ∃ opener openers, pending steps count = opener :: openers ∧ Matched steps opener count := by
  have count_lt := (List.getElem?_eq_some_iff.mp entry).1
  have pends := pends_pending nested (Nat.le_of_lt count_lt)
  obtain ⟨opener, openers, opened⟩ := pends.exists_cons nested entry
  rw [opened] at pends
  obtain ⟨opener_lt, opens, between, -⟩ := pends
  exact ⟨opener, openers, opened, opener_lt, opens, entry, between⟩

end Pending

end Nesting
end TaRef
