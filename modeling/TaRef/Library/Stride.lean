import Mathlib.Data.List.Nodup
import Mathlib.Data.List.Perm.Subperm
import Mathlib.Data.Nat.GCD.Basic
import Mathlib.Data.Nat.ModEq

/-!
# Walks with a fixed stride

A walk around a circle of cells moves a fixed number of cells at a time.  It only comes to cells
whose index has the common divisors of the stride and the size, and it comes to every cell exactly
once when there are none.  Values stored along a walk that comes to every cell once are those that
the cells hold in the end.
-/

namespace TaRef
namespace Stride

/-- The cells of a walk that goes on for some steps. -/
def walk (step size : ℕ) (index : ℕ) : ℕ → List ℕ
  | 0 => []
  | count + 1 => index :: walk step size ((index + step) % size) count

section Walk

variable {step size index count : ℕ}

theorem walk_eq (index_lt : index < size) :
    walk step size index count =
      (List.range count).map fun moves => (index + moves * step) % size := by
  induction count generalizing index with
  | zero => rfl
  | succ count ih =>
      have next_lt : (index + step) % size < size := Nat.mod_lt _ (Nat.zero_lt_of_lt index_lt)
      rw [walk, ih next_lt, List.range_succ_eq_map, List.map_cons, List.map_map, Nat.zero_mul,
        Nat.add_zero, Nat.mod_eq_of_lt index_lt]
      congr 1
      apply List.map_congr_left
      intro moves _
      rw [Nat.mod_add_mod, Function.comp_apply, Nat.succ_mul, Nat.add_assoc, Nat.add_comm step]

theorem lt_of_mem_walk (index_lt : index < size) {cell : ℕ}
    (member : cell ∈ walk step size index count) : cell < size := by
  rw [walk_eq index_lt, List.mem_map] at member
  obtain ⟨moves, -, rfl⟩ := member
  exact Nat.mod_lt _ (Nat.zero_lt_of_lt index_lt)

/-- A walk from the first cell keeps to the multiples of a common divisor. -/
theorem dvd_of_mem_walk {divisor : ℕ} (step_dvd : divisor ∣ step) (size_dvd : divisor ∣ size)
    (size_pos : 0 < size) {cell : ℕ} (member : cell ∈ walk step size 0 count) :
    divisor ∣ cell := by
  rw [walk_eq size_pos, List.mem_map] at member
  obtain ⟨moves, -, rfl⟩ := member
  rw [Nat.zero_add, Nat.dvd_mod_iff size_dvd]
  exact step_dvd.mul_left moves

/-- A walk whose stride has no common divisor with the size comes to every cell once. -/
theorem walk_perm_range (coprime : Nat.Coprime step size) :
    (walk step size 0 size).Perm (List.range size) := by
  rcases Nat.eq_zero_or_pos size with rfl | size_pos
  · exact List.Perm.refl _
  have different : (walk step size 0 size).Nodup := by
    rw [walk_eq size_pos]
    refine List.Nodup.map_on (fun moves member moves' member' same => ?_) List.nodup_range
    rw [Nat.zero_add, Nat.zero_add] at same
    have equivalent : moves ≡ moves' [MOD size] :=
      Nat.ModEq.cancel_right_of_coprime (Nat.coprime_comm.mp coprime) same
    exact equivalent.eq_of_lt_of_lt (List.mem_range.mp member) (List.mem_range.mp member')
  have inside : walk step size 0 size ⊆ List.range size := fun cell member =>
    List.mem_range.mpr (lt_of_mem_walk size_pos member)
  apply (different.subperm inside).perm_of_length_le
  rw [walk_eq size_pos, List.length_map]

end Walk

/-! ## Stores -/

section Stores

variable {α : Type*}

/-- Store values one after the other, each in its own cell. -/
def storeAll (cells : List α) : List (ℕ × α) → List α
  | [] => cells
  | (index, value) :: stores => storeAll (cells.set index value) stores

variable {cells : List α} {stores : List (ℕ × α)} {index : ℕ} {value : α}

@[simp]
theorem length_storeAll : (storeAll cells stores).length = cells.length := by
  induction stores generalizing cells with
  | nil => rfl
  | cons store stores ih => rw [storeAll, ih, List.length_set]

theorem storeAll_of_notMem (untouched : index ∉ stores.map Prod.fst) :
    (storeAll cells stores)[index]? = cells[index]? := by
  induction stores generalizing cells with
  | nil => rfl
  | cons store stores ih =>
      rw [List.map_cons, List.mem_cons, not_or] at untouched
      rw [storeAll, ih untouched.2, List.getElem?_set_ne (Ne.symm untouched.1)]

/-- A cell keeps the only value that is stored in it. -/
theorem storeAll_of_mem (once : (stores.map Prod.fst).Nodup) (member : (index, value) ∈ stores)
    (index_lt : index < cells.length) : (storeAll cells stores)[index]? = some value := by
  induction stores generalizing cells with
  | nil => cases member
  | cons store stores ih =>
      rw [List.map_cons, List.nodup_cons] at once
      rcases List.mem_cons.mp member with rfl | later
      · rw [storeAll, storeAll_of_notMem once.1, List.getElem?_set_self index_lt]
      · exact ih once.2 later (by rwa [List.length_set])

/-- Where every cell gets one value, it holds this value. -/
theorem storeAll_holds (whole : (stores.map Prod.fst).Perm (List.range cells.length)) :
    ∀ store ∈ stores, (storeAll cells stores)[store.1]? = some store.2 := by
  intro store member
  have once : (stores.map Prod.fst).Nodup := whole.nodup_iff.mpr List.nodup_range
  have inside := whole.mem_iff.mp (List.mem_map_of_mem member)
  exact storeAll_of_mem once member (List.mem_range.mp inside)

/-- So the cells are a permutation of the values. -/
theorem storeAll_perm (whole : (stores.map Prod.fst).Perm (List.range cells.length)) :
    (storeAll cells stores).Perm (stores.map Prod.snd) := by
  have values : (stores.map Prod.snd).map some =
      (stores.map Prod.fst).map fun index => (storeAll cells stores)[index]? := by
    rw [List.map_map, List.map_map]
    exact List.map_congr_left fun store member => (storeAll_holds whole store member).symm
  have indices : (storeAll cells stores).map some =
      (List.range cells.length).map fun index => (storeAll cells stores)[index]? := by
    apply List.ext_getElem
    · simp
    · intro index index_lt _
      simp
  have mapped : ((storeAll cells stores).map some).Perm ((stores.map Prod.snd).map some) := by
    rw [values, indices]
    exact (whole.map _).symm
  exact (List.map_perm_map_iff (Option.some_injective α)).mp mapped

/-- And nothing is left of what was in the cells. -/
theorem storeAll_congr {cells' : List α} (same : cells.length = cells'.length)
    (whole : (stores.map Prod.fst).Perm (List.range cells.length)) :
    storeAll cells stores = storeAll cells' stores := by
  have once : (stores.map Prod.fst).Nodup := whole.nodup_iff.mpr List.nodup_range
  apply List.ext_getElem?
  intro index
  by_cases index_lt : index < cells.length
  · obtain ⟨⟨_, value⟩, member, rfl⟩ :=
      List.mem_map.mp (whole.mem_iff.mpr (List.mem_range.mpr index_lt))
    rw [storeAll_of_mem once member index_lt, storeAll_of_mem once member (same ▸ index_lt)]
  · rw [List.getElem?_eq_none (by simpa using index_lt),
      List.getElem?_eq_none (by simpa [← same] using index_lt)]

end Stores

end Stride
end TaRef
