import TaRef.Library.Block

/-!
# Flat memory and byte ranges

Memory is a function from addresses to bytes.  A region read back after it was written holds what
was written, and a region disjoint from the one written keeps its bytes.  `overwrite` is the same
operation on a finite string, which grows when the range written passes its end.
-/

namespace TaRef

/-- Byte-addressed memory. -/
abbrev Memory := Nat → UInt8

namespace Memory

/-- The bytes at `address`, `address + 1`, ... -/
def read (memory : Memory) (address count : Nat) : Bytes :=
  (List.range count).map fun index => memory (address + index)

/-- Store a string of bytes at an address. -/
def write (memory : Memory) (address : Nat) (bytes : Bytes) : Memory := fun location =>
  if address ≤ location then bytes.getD (location - address) (memory location)
  else memory location

@[simp]
theorem length_read (memory : Memory) (address count : Nat) :
    (memory.read address count).length = count := by
  simp [read]

/-- A region that is read in two parts. -/
theorem read_add (memory : Memory) (address left right : Nat) :
    memory.read address (left + right) =
      memory.read address left ++ memory.read (address + left) right := by
  simp [read, List.range_add, Nat.add_assoc]

theorem write_of_lt {memory : Memory} {address location : Nat} (bytes : Bytes)
    (below : location < address) : memory.write address bytes location = memory location := by
  simp [write, Nat.not_le.mpr below]

theorem write_of_le {memory : Memory} {address location : Nat} {bytes : Bytes}
    (above : address + bytes.length ≤ location) :
    memory.write address bytes location = memory location := by
  have past : bytes.length ≤ location - address := by omega
  simp [write, List.getD_eq_getElem?_getD, List.getElem?_eq_none past]

theorem write_add {memory : Memory} {address index : Nat} {bytes : Bytes}
    (inside : index < bytes.length) :
    memory.write address bytes (address + index) = bytes[index] := by
  simp [write, List.getD_eq_getElem?_getD, inside]

/-- A region holds what was last written to it. -/
theorem read_write (memory : Memory) (address : Nat) (bytes : Bytes) :
    (memory.write address bytes).read address bytes.length = bytes := by
  apply List.ext_getElem
  · simp
  · intro index _ inside
    simp [read, write_add inside]

/-- A block that was written is read back. -/
theorem read_write_block (memory : Memory) (address : Nat) (block : Block) :
    (memory.write address block.1).read address 16 = block.1 := by
  have stored := memory.read_write address block.1
  rwa [block.2] at stored

/-- A write changes nothing exactly when the region holds the bytes already. -/
theorem write_eq_self_iff (memory : Memory) (address : Nat) (bytes : Bytes) :
    memory.write address bytes = memory ↔ memory.read address bytes.length = bytes := by
  constructor
  · intro unchanged
    have held := memory.read_write address bytes
    rwa [unchanged] at held
  · intro held
    funext location
    rcases Nat.lt_or_ge location address with below | above
    · exact write_of_lt bytes below
    rcases Nat.lt_or_ge location (address + bytes.length) with inside | past
    · obtain ⟨index, rfl⟩ := Nat.exists_eq_add_of_le above
      have index_lt : index < bytes.length := by omega
      rw [write_add index_lt, List.getElem_of_eq held.symm index_lt]
      simp [read]
    · exact write_of_le past

/-- Writing leaves the regions disjoint from the range written as they were. -/
theorem read_write_of_disjoint {memory : Memory} {address other count : Nat} {bytes : Bytes}
    (disjoint : other + count ≤ address ∨ address + bytes.length ≤ other) :
    (memory.write address bytes).read other count = memory.read other count := by
  apply List.map_congr_left
  intro index member
  have index_lt := List.mem_range.mp member
  rcases disjoint with below | above
  · exact write_of_lt bytes (by omega)
  · exact write_of_le (by omega)

/-- Two consecutive writes are one write of the concatenation. -/
theorem write_append (memory : Memory) (address : Nat) (left right : Bytes) :
    (memory.write address left).write (address + left.length) right =
      memory.write address (left ++ right) := by
  funext location
  rcases Nat.lt_or_ge location (address + left.length) with early | late
  · rw [write_of_lt right early]
    rcases Nat.lt_or_ge location address with below | above
    · rw [write_of_lt left below, write_of_lt _ below]
    · obtain ⟨index, rfl⟩ := Nat.exists_eq_add_of_le above
      have inside : index < left.length := by omega
      have inside' : index < (left ++ right).length := by
        rw [List.length_append]
        omega
      rw [write_add inside, write_add inside', List.getElem_append_left inside]
  · rcases Nat.lt_or_ge location (address + left.length + right.length) with between | past
    · obtain ⟨index, rfl⟩ := Nat.exists_eq_add_of_le late
      have inside : index < right.length := by omega
      have inside' : left.length + index < (left ++ right).length := by
        rw [List.length_append]
        omega
      rw [write_add inside, Nat.add_assoc, write_add inside']
      simp
    · rw [write_of_le past, write_of_le (by omega), write_of_le (by rw [List.length_append]; omega)]

@[simp]
theorem write_nil (memory : Memory) (address : Nat) : memory.write address [] = memory := by
  funext location
  simp [write]

end Memory

/-- Replace the bytes of a string from `offset` on, extending it with zeros up to `offset` when it
is shorter. -/
def overwrite (content : Bytes) (offset : Nat) (bytes : Bytes) : Bytes :=
  content.take offset ++ List.replicate (offset - content.length) 0 ++ bytes ++
    content.drop (offset + bytes.length)

@[simp]
theorem overwrite_nil {content : Bytes} {offset : Nat} (inside : offset ≤ content.length) :
    overwrite content offset [] = content := by
  simp [overwrite, Nat.sub_eq_zero_of_le inside]

/-- Writing at the end of a string appends to it. -/
theorem overwrite_length (content bytes : Bytes) :
    overwrite content content.length bytes = content ++ bytes := by
  simp [overwrite]

@[simp]
theorem length_overwrite (content : Bytes) (offset : Nat) (bytes : Bytes) :
    (overwrite content offset bytes).length = max content.length (offset + bytes.length) := by
  simp [overwrite]
  omega

/-- Two consecutive writes are one write of the concatenation. -/
theorem overwrite_overwrite (content : Bytes) (offset : Nat) (left right : Bytes) :
    overwrite (overwrite content offset left) (offset + left.length) right =
      overwrite content offset (left ++ right) := by
  have start_length :
      (content.take offset ++ List.replicate (offset - content.length) 0).length = offset := by
    rw [List.length_append, List.length_take, List.length_replicate]
    omega
  have reached : offset + left.length - (overwrite content offset left).length = 0 := by
    rw [length_overwrite]
    omega
  rw [overwrite, reached, List.replicate_zero, List.append_nil]
  simp only [overwrite]
  generalize content.take offset ++ List.replicate (offset - content.length) 0 = start
    at start_length
  have written_length : (start ++ left).length = offset + left.length := by
    rw [List.length_append, start_length]
  rw [List.take_left' written_length, List.drop_append, written_length,
    List.drop_eq_nil_of_le (Nat.le_trans (Nat.le_of_eq written_length) (Nat.le_add_right _ _)),
    Nat.add_sub_cancel_left, List.nil_append, List.drop_drop, List.length_append, Nat.add_assoc]
  simp only [List.append_assoc]

end TaRef
