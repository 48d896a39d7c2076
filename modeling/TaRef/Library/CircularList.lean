import Mathlib.Logic.Function.Basic

/-!
# Circular lists of linked cells

The cells of a circular list are linked by a function `next` on pointers, from a head that carries
no value through the cells and back to the head.  A cell that is inserted behind the head comes
first, and a search from the head ends and finds the first cell of its kind.
-/

namespace TaRef
namespace CircularList

variable {π : Type*}

/-- The links lead from one pointer through these cells to another pointer. -/
def Path (next : π → π) : π → List π → π → Prop
  | first, [], last => first = last
  | first, cell :: cells, last => first = cell ∧ Path next (next cell) cells last

/-- The links lead from the head through these cells and back to it. -/
structure Links (next : π → π) (head : π) (cells : List π) : Prop where
  path : Path next (next head) cells head
  head_notMem : head ∉ cells

theorem Path.congr {next next' : π → π} {first last : π} {cells : List π}
    (path : Path next first cells last) (same : ∀ cell ∈ cells, next' cell = next cell) :
    Path next' first cells last := by
  induction cells generalizing first with
  | nil => exact path
  | cons cell cells ih =>
      obtain ⟨rfl, rest⟩ := path
      refine ⟨rfl, ?_⟩
      rw [same first List.mem_cons_self]
      exact ih rest fun cell member => same cell (List.mem_cons_of_mem _ member)

/-- A circular list depends on the links of its own cells. -/
theorem Links.congr {next next' : π → π} {head : π} {cells : List π}
    (links : Links next head cells) (same_head : next' head = next head)
    (same : ∀ cell ∈ cells, next' cell = next cell) : Links next' head cells :=
  ⟨same_head ▸ links.path.congr same, links.head_notMem⟩

/-- A head that is linked to itself has no cells. -/
theorem links_nil {next : π → π} {head : π} (alone : next head = head) : Links next head [] :=
  ⟨alone, List.not_mem_nil⟩

section Decidable

variable [DecidableEq π] {next : π → π} {head : π} {cells : List π}

/-- The links after a cell was put behind a head. -/
def insert (next : π → π) (head cell : π) : π → π :=
  Function.update (Function.update next cell (next head)) head cell

theorem insert_head (next : π → π) (head cell : π) : insert next head cell head = cell :=
  Function.update_self _ _ _

theorem insert_cell (next : π → π) {head cell : π} (ne : cell ≠ head) :
    insert next head cell cell = next head := by
  rw [insert, Function.update_of_ne ne, Function.update_self]

theorem insert_of_ne (next : π → π) {head cell other : π} (ne_head : other ≠ head)
    (ne_cell : other ≠ cell) : insert next head cell other = next other := by
  rw [insert, Function.update_of_ne ne_head, Function.update_of_ne ne_cell]

/-- A new cell comes first. -/
theorem Links.insert (links : Links next head cells) {cell : π} (ne : cell ≠ head)
    (fresh : cell ∉ cells) : Links (insert next head cell) head (cell :: cells) := by
  constructor
  · rw [insert_head]
    refine ⟨rfl, ?_⟩
    rw [insert_cell next ne]
    refine links.path.congr fun other member => insert_of_ne next ?_ ?_
    · rintro rfl
      exact links.head_notMem member
    · rintro rfl
      exact fresh member
  · rw [List.mem_cons, not_or]
    exact ⟨ne.symm, links.head_notMem⟩

/-- The other lists stay as they are. -/
theorem Links.insert_other (links : Links next head cells) {other cell : π} (ne : other ≠ head)
    (other_notMem : other ∉ cells) (fresh : cell ≠ head) (fresh' : cell ∉ cells) :
    Links (CircularList.insert next other cell) head cells := by
  refine links.congr (insert_of_ne next ne.symm fresh.symm) fun link member =>
    insert_of_ne next ?_ ?_
  · rintro rfl
    exact other_notMem member
  · rintro rfl
    exact fresh' member

/-- The first cell that is wanted, from one on: `none` after `fuel` cells, `some none` at the
head. -/
def search (next : π → π) (wanted : π → Bool) (head : π) : Nat → π → Option (Option π)
  | 0, _ => none
  | fuel + 1, cell =>
      if cell = head then some none
      else if wanted cell then some (some cell)
      else search next wanted head fuel (next cell)

theorem search_path {wanted : π → Bool} {first : π} (path : Path next first cells head)
    (head_notMem : head ∉ cells) {fuel : Nat} (enough : cells.length < fuel) :
    search next wanted head fuel first = some (cells.find? wanted) := by
  induction cells generalizing first fuel with
  | nil =>
      obtain ⟨fuel, rfl⟩ := Nat.exists_eq_add_of_lt enough
      rw [search, if_pos (show first = head from path)]
      rfl
  | cons cell cells ih =>
      obtain ⟨fuel, rfl⟩ := Nat.exists_eq_add_of_lt enough
      obtain ⟨rfl, rest⟩ := path
      rw [List.mem_cons, not_or] at head_notMem
      rw [search, if_neg (Ne.symm head_notMem.1), List.find?_cons]
      by_cases is_wanted : wanted first = true
      · rw [if_pos is_wanted, is_wanted]
      · rw [if_neg is_wanted, Bool.eq_false_iff.mpr is_wanted]
        exact ih rest head_notMem.2 (by rw [List.length_cons]; omega)

/-- A search from the head finds the first cell that is wanted. -/
theorem Links.search (links : Links next head cells) (wanted : π → Bool) {fuel : Nat}
    (enough : cells.length < fuel) :
    search next wanted head fuel (next head) = some (cells.find? wanted) :=
  search_path links.path links.head_notMem enough

end Decidable

end CircularList
end TaRef
