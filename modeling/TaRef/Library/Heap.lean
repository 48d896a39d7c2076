import Mathlib.Logic.Function.Basic

/-!
# Allocated values

A heap gives each name a slot that is vacant until a value is placed in it and that stays freed once
its value was released.  Names are not used again: an address that an allocator hands out a second
time counts as another name.
-/

namespace TaRef

/-- What a name stands for. -/
inductive Slot (α : Type*)
  | vacant
  | live (value : α)
  | freed

/-- The slots of all names. -/
structure Heap (α : Type*) where
  slot : Nat → Slot α

namespace Heap

variable {α : Type*}

/-- No name is in use. -/
def empty : Heap α := ⟨fun _ => .vacant⟩

/-- The value of a name in use. -/
def get? (heap : Heap α) (name : Nat) : Option α :=
  match heap.slot name with
  | .live value => some value
  | _ => none

/-- Whether a name was never used. -/
def isVacant (heap : Heap α) (name : Nat) : Bool :=
  match heap.slot name with
  | .vacant => true
  | _ => false

/-- Store a value under a name. -/
def put (heap : Heap α) (name : Nat) (value : α) : Heap α :=
  ⟨Function.update heap.slot name (.live value)⟩

/-- Release a name. -/
def free (heap : Heap α) (name : Nat) : Heap α := ⟨Function.update heap.slot name .freed⟩

@[simp]
theorem get?_put_self (heap : Heap α) (name : Nat) (value : α) :
    (heap.put name value).get? name = some value := by
  simp [get?, put]

theorem get?_put_of_ne (heap : Heap α) {name other : Nat} (value : α) (ne : other ≠ name) :
    (heap.put name value).get? other = heap.get? other := by
  simp [get?, put, Function.update_of_ne ne]

@[simp]
theorem get?_free_self (heap : Heap α) (name : Nat) : (heap.free name).get? name = none := by
  simp [get?, free]

theorem get?_free_of_ne (heap : Heap α) {name other : Nat} (ne : other ≠ name) :
    (heap.free name).get? other = heap.get? other := by
  simp [get?, free, Function.update_of_ne ne]

@[simp]
theorem isVacant_put_self (heap : Heap α) (name : Nat) (value : α) :
    (heap.put name value).isVacant name = false := by
  simp [isVacant, put]

theorem isVacant_put_of_ne (heap : Heap α) {name other : Nat} (value : α) (ne : other ≠ name) :
    (heap.put name value).isVacant other = heap.isVacant other := by
  simp [isVacant, put, Function.update_of_ne ne]

@[simp]
theorem isVacant_free_self (heap : Heap α) (name : Nat) :
    (heap.free name).isVacant name = false := by
  simp [isVacant, free]

theorem isVacant_free_of_ne (heap : Heap α) {name other : Nat} (ne : other ≠ name) :
    (heap.free name).isVacant other = heap.isVacant other := by
  simp [isVacant, free, Function.update_of_ne ne]

/-- What is in a heap after a value was stored. -/
theorem get?_put_cases {heap : Heap α} {name other : Nat} {value found : α}
    (lookup : (heap.put name value).get? other = some found) :
    other = name ∧ found = value ∨ other ≠ name ∧ heap.get? other = some found := by
  by_cases same : other = name
  · subst same
    rw [get?_put_self] at lookup
    exact .inl ⟨rfl, (Option.some.inj lookup).symm⟩
  · rw [get?_put_of_ne heap value same] at lookup
    exact .inr ⟨same, lookup⟩

/-- What is in a heap after a name was released. -/
theorem get?_free_cases {heap : Heap α} {name other : Nat} {found : α}
    (lookup : (heap.free name).get? other = some found) :
    other ≠ name ∧ heap.get? other = some found := by
  by_cases same : other = name
  · subst same
    rw [get?_free_self] at lookup
    cases lookup
  · rw [get?_free_of_ne heap same] at lookup
    exact ⟨same, lookup⟩

/-- Storing the value that is there changes nothing. -/
theorem put_get? {heap : Heap α} {name : Nat} {value : α} (lookup : heap.get? name = some value) :
    heap.put name value = heap := by
  have slot_eq : heap.slot name = .live value := by
    unfold get? at lookup
    split at lookup
    · next found slot_eq => rw [slot_eq, Option.some.inj lookup]
    · cases lookup
  rw [put, ← slot_eq, Function.update_eq_self]

/-- A name in use is not vacant. -/
theorem isVacant_of_get? {heap : Heap α} {name : Nat} {value : α}
    (lookup : heap.get? name = some value) : heap.isVacant name = false := by
  unfold get? at lookup
  unfold isVacant
  cases slot_eq : heap.slot name with
  | vacant => simp [slot_eq] at lookup
  | live value => rfl
  | freed => rfl

end Heap
end TaRef
