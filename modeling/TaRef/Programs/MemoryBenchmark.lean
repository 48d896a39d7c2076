import Mathlib
import TaRef.Library.Block
import TaRef.Library.Stride

/-!
# The memory benchmarks

Both benchmarks store the numbers of their iterations in a buffer and add up what they read back.
One goes through the buffer in order.  The other moves `INC` bytes at a time around it.
-/

namespace TaRef
namespace Benchmark

/-- `INC` -/
def inc : Nat := 390625

/-- `(char)(i&255)` -/
def charOf (i : Nat) : UInt8 := UInt8.ofNat (i &&& 255)

/-- `(idx+INC)%size`; a sum that is no `int` is undefined. -/
def nextIdx (size idx : Nat) : Option Nat :=
  if idx + inc < 2 ^ 31 then some ((idx + inc) % size) else none

/-- The writing loop of `random_memory_benchmark` from iteration `i` on. -/
def randomWriteLoop (size i idx : Nat) (buf : Bytes) : Nat → Option Bytes
  | 0 => some buf
  | left + 1 => do
      let next ← nextIdx size idx
      randomWriteLoop size (i + 1) next (buf.set idx (charOf i)) left

/-- Its reading loop, with the `sum` so far. -/
def randomReadLoop (size idx : Nat) (sum : UInt8) (buf : Bytes) : Nat → Option UInt8
  | 0 => some sum
  | left + 1 => do
      let next ← nextIdx size idx
      randomReadLoop size next (sum + buf.getD idx 0) buf left

/-- `random_memory_benchmark`: the buffer after it, and `sum`. -/
def randomMemoryBenchmark (buf : Bytes) (size : Nat) : Option (Bytes × UInt8) := do
  let buf ← randomWriteLoop size 0 0 buf size
  let sum ← randomReadLoop size 0 0 buf size
  return (buf, sum)

/-- The writing loop of `sequential_memory_benchmark` from iteration `i` on. -/
def sequentialWriteLoop (i : Nat) (buf : Bytes) : Nat → Bytes
  | 0 => buf
  | left + 1 => sequentialWriteLoop (i + 1) (buf.set i (charOf i)) left

/-- Its reading loop, with the `sum` so far. -/
def sequentialReadLoop (i : Nat) (sum : UInt8) (buf : Bytes) : Nat → UInt8
  | 0 => sum
  | left + 1 => sequentialReadLoop (i + 1) (sum + buf.getD i 0) buf left

/-- `sequential_memory_benchmark`: the buffer after it, and `sum`. -/
def sequentialMemoryBenchmark (buf : Bytes) (size : Nat) : Bytes × UInt8 :=
  let buf := sequentialWriteLoop 0 buf size
  (buf, sequentialReadLoop 0 0 buf size)

/-! ## The loops as walks -/

/-- What a benchmark stores that comes to these cells. -/
def stores (cells : List Nat) (i : Nat) : List (Nat × UInt8) :=
  cells.zip ((List.range' i cells.length).map charOf)

/-- What the cells add up to. -/
def total (buf : Bytes) (cells : List Nat) : UInt8 := (cells.map fun index => buf.getD index 0).sum

theorem stores_cons (cell : Nat) (cells : List Nat) (i : Nat) :
    stores (cell :: cells) i = (cell, charOf i) :: stores cells (i + 1) := rfl

theorem fst_stores (cells : List Nat) (i : Nat) : (stores cells i).map Prod.fst = cells := by
  apply List.map_fst_zip
  rw [List.length_map, List.length_range']

theorem snd_stores (cells : List Nat) (i : Nat) :
    (stores cells i).map Prod.snd = (List.range' i cells.length).map charOf := by
  apply List.map_snd_zip
  rw [List.length_map, List.length_range']

theorem length_walk (size idx left : Nat) : (Stride.walk inc size idx left).length = left := by
  induction left generalizing idx with
  | zero => rfl
  | succ left ih => rw [Stride.walk, List.length_cons, ih]

section Loops

variable {size : Nat} (ints : size + inc ≤ 2 ^ 31)

include ints

theorem nextIdx_of_lt {idx : Nat} (idx_lt : idx < size) :
    nextIdx size idx = some ((idx + inc) % size) := by
  rw [nextIdx, if_pos]
  omega

theorem randomWriteLoop_eq {idx : Nat} (idx_lt : idx < size) (i : Nat) (buf : Bytes) (left : Nat) :
    randomWriteLoop size i idx buf left =
      some (Stride.storeAll buf (stores (Stride.walk inc size idx left) i)) := by
  induction left generalizing idx i buf with
  | zero => rfl
  | succ left ih =>
      have next_lt : (idx + inc) % size < size := Nat.mod_lt _ (Nat.zero_lt_of_lt idx_lt)
      rw [randomWriteLoop, nextIdx_of_lt ints idx_lt, Option.bind_eq_bind, Option.bind_some,
        ih next_lt, Stride.walk, stores_cons, Stride.storeAll]

theorem randomReadLoop_eq {idx : Nat} (idx_lt : idx < size) (sum : UInt8) (buf : Bytes)
    (left : Nat) :
    randomReadLoop size idx sum buf left = some (sum + total buf (Stride.walk inc size idx left)) := by
  induction left generalizing idx sum with
  | zero => exact congrArg some (UInt8.add_zero sum).symm
  | succ left ih =>
      have next_lt : (idx + inc) % size < size := Nat.mod_lt _ (Nat.zero_lt_of_lt idx_lt)
      rw [randomReadLoop, nextIdx_of_lt ints idx_lt, Option.bind_eq_bind, Option.bind_some,
        ih next_lt, Stride.walk, total, total, List.map_cons, List.sum_cons, UInt8.add_assoc]

theorem randomMemoryBenchmark_eq (size_pos : 0 < size) (buf : Bytes) :
    randomMemoryBenchmark buf size =
      some (Stride.storeAll buf (stores (Stride.walk inc size 0 size) 0),
        total (Stride.storeAll buf (stores (Stride.walk inc size 0 size) 0))
          (Stride.walk inc size 0 size)) := by
  rw [randomMemoryBenchmark, randomWriteLoop_eq ints size_pos, Option.bind_eq_bind,
    Option.bind_some, randomReadLoop_eq ints size_pos, Option.bind_eq_bind, Option.bind_some,
    UInt8.zero_add]
  rfl

end Loops

theorem sequentialWriteLoop_eq (i : Nat) (buf : Bytes) (left : Nat) :
    sequentialWriteLoop i buf left =
      Stride.storeAll buf (stores (List.range' i left) i) := by
  induction left generalizing i buf with
  | zero => rfl
  | succ left ih =>
      rw [sequentialWriteLoop, ih, List.range'_succ, stores_cons, Stride.storeAll]

theorem sequentialReadLoop_eq (i : Nat) (sum : UInt8) (buf : Bytes) (left : Nat) :
    sequentialReadLoop i sum buf left = sum + total buf (List.range' i left) := by
  induction left generalizing i sum with
  | zero => exact (UInt8.add_zero sum).symm
  | succ left ih =>
      rw [sequentialReadLoop, ih, List.range'_succ, total, total, List.map_cons, List.sum_cons,
        UInt8.add_assoc]

theorem sequentialMemoryBenchmark_eq (buf : Bytes) (size : Nat) :
    sequentialMemoryBenchmark buf size =
      (Stride.storeAll buf (stores (List.range' 0 size) 0),
        total (Stride.storeAll buf (stores (List.range' 0 size) 0)) (List.range' 0 size)) := by
  rw [sequentialMemoryBenchmark, sequentialWriteLoop_eq, sequentialReadLoop_eq, UInt8.zero_add]

/-! ## Both benchmarks -/

/-- Reading along the way of the stores adds up the stored values. -/
theorem total_storeAll {buf : Bytes} {cells : List Nat}
    (whole : cells.Perm (List.range buf.length)) :
    total (Stride.storeAll buf (stores cells 0)) cells =
      ((List.range' 0 buf.length).map charOf).sum := by
  have length_eq : cells.length = buf.length := by
    rw [whole.length_eq, List.length_range]
  have holds := Stride.storeAll_holds (by rwa [fst_stores] : ((stores cells 0).map Prod.fst).Perm _)
  have values : (cells.map fun index => (Stride.storeAll buf (stores cells 0)).getD index 0) =
      (stores cells 0).map Prod.snd := by
    conv_lhs => rw [← fst_stores cells 0, List.map_map]
    apply List.map_congr_left
    intro store member
    rw [Function.comp_apply, List.getD_eq_getElem?_getD, fst_stores, holds store member,
      Option.getD_some]
  rw [total, values, snd_stores, length_eq]

theorem coprime_inc_iff {size : Nat} : Nat.Coprime inc size ↔ ¬ 5 ∣ size := by
  rw [show inc = 5 ^ 8 from rfl, Nat.coprime_pow_left_iff (by decide),
    Nat.Prime.coprime_iff_not_dvd (by decide)]

/-- The second benchmark overwrites the whole buffer exactly when 5 does not divide its size.  Then
it leaves a permutation of what the first leaves, and the same sum. -/
theorem random_memory_benchmark_overwrites_iff {size : Nat} (size_pos : 0 < size)
    (ints : size + inc ≤ 2 ^ 31) :
    ((∃ result, ∀ buf : Bytes, buf.length = size → randomMemoryBenchmark buf size = some result) ↔
        ¬ 5 ∣ size) ∧
      (¬ 5 ∣ size → ∀ buf : Bytes, buf.length = size → ∃ after,
        randomMemoryBenchmark buf size = some (after, (sequentialMemoryBenchmark buf size).2) ∧
          after.Perm (sequentialMemoryBenchmark buf size).1) := by
  have whole (odd : ¬ 5 ∣ size) : ((stores (Stride.walk inc size 0 size) 0).map Prod.fst).Perm
      (List.range size) := by
    rw [fst_stores]
    exact Stride.walk_perm_range (coprime_inc_iff.mpr odd)
  refine ⟨⟨?_, fun odd => ?_⟩, fun odd buf buf_length => ?_⟩
  · -- a multiple of 5 leaves the second byte as it was
    rintro ⟨⟨after, sum⟩, results⟩ divides
    have size_ge := Nat.le_of_dvd size_pos divides
    have untouched : 1 ∉ (stores (Stride.walk inc size 0 size) 0).map Prod.fst := by
      rw [fst_stores]
      intro member
      exact absurd (Stride.dvd_of_mem_walk (by decide : 5 ∣ inc) divides size_pos member) (by decide)
    have kept (byte : UInt8) : after[1]? = some byte := by
      have result := results (List.replicate size byte) List.length_replicate
      rw [randomMemoryBenchmark_eq ints size_pos, Option.some.injEq, Prod.mk.injEq] at result
      rw [← result.1, Stride.storeAll_of_notMem untouched, List.getElem?_replicate,
        if_pos (by omega)]
    have same := (kept 0).symm.trans (kept 1)
    cases same
  · obtain ⟨result, result_eq⟩ : ∃ result,
        randomMemoryBenchmark (List.replicate size 0) size = some result :=
      ⟨_, randomMemoryBenchmark_eq ints size_pos _⟩
    refine ⟨result, fun buf buf_length => ?_⟩
    have same := @Stride.storeAll_congr _ buf (stores (Stride.walk inc size 0 size) 0)
      (List.replicate size 0) (by rw [buf_length, List.length_replicate])
      (by rw [buf_length]; exact whole odd)
    rw [← result_eq, randomMemoryBenchmark_eq ints size_pos, randomMemoryBenchmark_eq ints size_pos,
      same]
  · obtain rfl : size = buf.length := buf_length.symm
    have strided := whole odd
    have strided' : (Stride.walk inc buf.length 0 buf.length).Perm (List.range buf.length) := by
      rwa [fst_stores] at strided
    have ordered : (List.range' 0 buf.length).Perm (List.range buf.length) := by
      rw [List.range_eq_range']
    have ordered' : ((stores (List.range' 0 buf.length) 0).map Prod.fst).Perm
        (List.range buf.length) := by
      rwa [fst_stores]
    have stored := Stride.storeAll_perm strided
    have stored' := Stride.storeAll_perm ordered'
    rw [snd_stores, length_walk] at stored
    rw [snd_stores, List.length_range'] at stored'
    refine ⟨_, ?_, stored.trans ?_⟩
    · rw [randomMemoryBenchmark_eq ints size_pos, sequentialMemoryBenchmark_eq,
        total_storeAll strided', total_storeAll ordered]
    · rw [sequentialMemoryBenchmark_eq]
      exact stored'.symm

/-- The buffer of the benchmarks. -/
theorem random_memory_benchmark_overwrites_iff_published :
    (∃ result, ∀ buf : Bytes, buf.length = 1048576 →
        randomMemoryBenchmark buf 1048576 = some result) ∧
      ∀ buf : Bytes, buf.length = 1048576 → ∃ after,
        randomMemoryBenchmark buf 1048576 =
            some (after, (sequentialMemoryBenchmark buf 1048576).2) ∧
          after.Perm (sequentialMemoryBenchmark buf 1048576).1 := by
  have odd : ¬ 5 ∣ 1048576 := by decide
  obtain ⟨overwrites, agrees⟩ :=
    @random_memory_benchmark_overwrites_iff 1048576 (by decide) (by decide)
  exact ⟨overwrites.mpr odd, agrees odd⟩

end Benchmark
end TaRef
