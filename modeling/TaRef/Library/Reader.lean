import Mathlib.Algebra.BigOperators.Group.List.Basic
import Mathlib.Algebra.Ring.Nat
import TaRef.Library.Machine

/-!
# Sequential readers

A sequential reader of a list is asked for some entries at a time and hands out what is left, at
most.  Its answers concatenate to a prefix of the list, and an answer is short only when it ends the
list.
-/

namespace TaRef
namespace Reader

variable {α : Type*} (data : List α)

/-- The next `count` entries, and the position after them. -/
def step (position count : Nat) : List α × Nat :=
  ((data.drop position).take count, position + ((data.drop position).take count).length)

/-- The position after an answer skips the entries asked for. -/
theorem drop_step (position count : Nat) :
    data.drop (step data position count).2 = (data.drop position).drop count := by
  have answer_length : ((data.drop position).take count).length =
      min count (data.length - position) := by
    rw [List.length_take, List.length_drop]
  simp only [step, answer_length, List.drop_drop]
  rcases Nat.le_total count (data.length - position) with enough | short
  · rw [Nat.min_eq_left enough]
  · rw [List.drop_eq_nil_of_le (by omega), List.drop_eq_nil_of_le (by omega)]

theorem step_append_drop (position count : Nat) :
    (step data position count).1 ++ data.drop (step data position count).2 =
      data.drop position := by
  rw [drop_step]
  exact List.take_append_drop count _

/-- The answers concatenate to a prefix of what was left. -/
theorem flatten_outputs (position : Nat) (counts : List Nat) :
    (Machine.outputs (step data) position counts).flatten =
      (data.drop position).take counts.sum := by
  induction counts generalizing position with
  | nil => simp
  | cons count counts ih =>
      rw [Machine.outputs_cons, List.flatten_cons, ih, drop_step, List.sum_cons, List.take_add]
      rfl

/-- An answer that is shorter than its request ends the list. -/
theorem flatten_take_outputs {position index count : Nat} {counts : List Nat} {slice : List α}
    (request : counts[index]? = some count)
    (answer : (Machine.outputs (step data) position counts)[index]? = some slice)
    (short : slice.length < count) :
    ((Machine.outputs (step data) position counts).take (index + 1)).flatten =
      data.drop position := by
  induction counts generalizing position index with
  | nil => simp at request
  | cons first counts ih =>
      cases index with
      | zero =>
          simp only [List.getElem?_cons_zero, Option.some.injEq, Machine.outputs_cons]
            at request answer
          subst request answer
          simp only [step, List.length_take, List.length_drop] at short
          simp only [Machine.outputs_cons, Nat.zero_add, List.take_succ_cons, List.take_zero,
            List.flatten_cons, List.flatten_nil, List.append_nil, step]
          apply List.take_of_length_le
          rw [List.length_drop]
          omega
      | succ index =>
          rw [List.getElem?_cons_succ] at request
          rw [Machine.outputs_cons, List.getElem?_cons_succ] at answer
          rw [Machine.outputs_cons, List.take_succ_cons, List.flatten_cons, ih request answer,
            step_append_drop]

end Reader
end TaRef
