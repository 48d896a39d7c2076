import Mathlib.Data.List.Basic
import Mathlib.Tactic

/-!
# Byte strings and sixteen-byte blocks

A block carries the proof that it has sixteen bytes.  A byte string whose length is a multiple of
sixteen is the concatenation of its blocks; both directions of that correspondence, and how they
commute with concatenation, are proved here.
-/

namespace TaRef

/-- A string of bytes. -/
abbrev Bytes := List UInt8

/-- Sixteen bytes. -/
abbrev Block := { bytes : Bytes // bytes.length = 16 }

/-- Lengths that are whole numbers of blocks. -/
def Aligned (bytes : Bytes) : Prop := 16 ∣ bytes.length

instance (bytes : Bytes) : Decidable (Aligned bytes) := inferInstanceAs (Decidable (16 ∣ _))

namespace Block

/-- The first sixteen bytes of a string, padded with zeros when there are fewer. -/
def ofBytes (bytes : Bytes) : Block :=
  ⟨(bytes ++ List.replicate 16 0).take 16, by simp⟩

/-- The block of zeros. -/
def zero : Block := ⟨List.replicate 16 0, by simp⟩

/-- Bytewise exclusive or. -/
def xor (left right : Block) : Block :=
  ⟨List.zipWith (· ^^^ ·) left.1 right.1, by simp [left.2, right.2]⟩

@[simp]
theorem ofBytes_bytes (block : Block) : ofBytes block.1 = block := by
  apply Subtype.ext
  simp [ofBytes, block.2]

theorem ofBytes_append (block : Block) (rest : Bytes) : ofBytes (block.1 ++ rest) = block := by
  apply Subtype.ext
  simp [ofBytes, block.2]

theorem ofBytes_val {bytes : Bytes} (enough : 16 ≤ bytes.length) :
    (ofBytes bytes).1 = bytes.take 16 := by
  simp [ofBytes, List.take_append, Nat.sub_eq_zero_of_le enough]

theorem zipWith_xor_cancel (left right : Bytes) (lengths : left.length ≤ right.length) :
    List.zipWith (· ^^^ ·) (List.zipWith (· ^^^ ·) left right) right = left := by
  induction left generalizing right with
  | nil => simp
  | cons byte left ih =>
      cases right with
      | nil => simp at lengths
      | cons other right =>
          simp only [List.length_cons, Nat.add_le_add_iff_right] at lengths
          rw [List.zipWith_cons_cons, List.zipWith_cons_cons, ih right lengths, UInt8.xor_assoc,
            UInt8.xor_self, UInt8.xor_zero]

@[simp]
theorem xor_cancel (left right : Block) : xor (xor left right) right = left := by
  apply Subtype.ext
  exact zipWith_xor_cancel left.1 right.1 (by rw [left.2, right.2])

theorem xor_comm (left right : Block) : xor left right = xor right left := by
  apply Subtype.ext
  exact List.zipWith_comm_of_comm UInt8.xor_comm

theorem xor_injective (block : Block) : Function.Injective (xor block) := by
  intro left right same
  rw [xor_comm block, xor_comm block] at same
  rw [← xor_cancel left block, same, xor_cancel]

end Block

/-- The blocks of a byte string, one after the other. -/
def joinBlocks (blocks : List Block) : Bytes := blocks.flatMap Subtype.val

/-- The first `count` blocks of a byte string. -/
def splitBlocks : Nat → Bytes → List Block
  | 0, _ => []
  | count + 1, bytes => Block.ofBytes bytes :: splitBlocks count (bytes.drop 16)

/-- The whole blocks of a byte string. -/
def toBlocks (bytes : Bytes) : List Block := splitBlocks (bytes.length / 16) bytes

/-- The blocks of a byte string padded with zeros. -/
def padded (bytes : Bytes) : List Block := splitBlocks ((bytes.length + 15) / 16) bytes

@[simp]
theorem joinBlocks_nil : joinBlocks [] = [] := rfl

@[simp]
theorem joinBlocks_cons (block : Block) (blocks : List Block) :
    joinBlocks (block :: blocks) = block.1 ++ joinBlocks blocks := rfl

@[simp]
theorem joinBlocks_append (left right : List Block) :
    joinBlocks (left ++ right) = joinBlocks left ++ joinBlocks right := by
  simp [joinBlocks]

@[simp]
theorem length_joinBlocks (blocks : List Block) :
    (joinBlocks blocks).length = 16 * blocks.length := by
  induction blocks with
  | nil => rfl
  | cons block blocks ih =>
      rw [joinBlocks_cons, List.length_append, ih, block.2, List.length_cons]
      omega

theorem joinBlocks_take (blocks : List Block) (count : Nat) :
    (joinBlocks blocks).take (16 * count) = joinBlocks (blocks.take count) := by
  induction count generalizing blocks with
  | zero => simp
  | succ count ih =>
      cases blocks with
      | nil => simp
      | cons block blocks =>
          rw [Nat.mul_succ, Nat.add_comm, List.take_succ_cons, joinBlocks_cons, joinBlocks_cons,
            List.take_append, block.2, List.take_of_length_le (by rw [block.2]; omega),
            Nat.add_sub_cancel_left, ih]

theorem joinBlocks_drop (blocks : List Block) (count : Nat) :
    (joinBlocks blocks).drop (16 * count) = joinBlocks (blocks.drop count) := by
  induction count generalizing blocks with
  | zero => simp
  | succ count ih =>
      cases blocks with
      | nil => simp
      | cons block blocks =>
          rw [Nat.mul_succ, Nat.add_comm, List.drop_succ_cons, joinBlocks_cons, ← List.drop_drop,
            List.drop_left' block.2, ih]

theorem aligned_joinBlocks (blocks : List Block) : Aligned (joinBlocks blocks) :=
  ⟨blocks.length, length_joinBlocks blocks⟩

@[simp]
theorem length_splitBlocks (count : Nat) (bytes : Bytes) :
    (splitBlocks count bytes).length = count := by
  induction count generalizing bytes with
  | zero => rfl
  | succ count ih => simp [splitBlocks, ih]

@[simp]
theorem length_toBlocks (bytes : Bytes) : (toBlocks bytes).length = bytes.length / 16 :=
  length_splitBlocks _ _

theorem splitBlocks_joinBlocks (blocks : List Block) (rest : Bytes) :
    splitBlocks blocks.length (joinBlocks blocks ++ rest) = blocks := by
  induction blocks with
  | nil => rfl
  | cons block blocks ih =>
      simp only [List.length_cons, joinBlocks_cons, List.append_assoc, splitBlocks,
        Block.ofBytes_append]
      rw [List.drop_left' block.2, ih]

@[simp]
theorem toBlocks_joinBlocks (blocks : List Block) : toBlocks (joinBlocks blocks) = blocks := by
  have count : (joinBlocks blocks).length / 16 = blocks.length := by
    rw [length_joinBlocks, Nat.mul_div_cancel_left _ (by decide)]
  rw [toBlocks, count]
  simpa using splitBlocks_joinBlocks blocks []

theorem joinBlocks_splitBlocks (count : Nat) (bytes : Bytes)
    (enough : 16 * count ≤ bytes.length) :
    joinBlocks (splitBlocks count bytes) = bytes.take (16 * count) := by
  induction count generalizing bytes with
  | zero => simp [splitBlocks]
  | succ count ih =>
      rw [splitBlocks, joinBlocks_cons, Block.ofBytes_val (by omega),
        ih (bytes.drop 16) (by simp; omega)]
      rw [Nat.mul_succ, Nat.add_comm (16 * count) 16, List.take_add]

/-- A string of whole blocks is the concatenation of its blocks. -/
theorem joinBlocks_toBlocks {bytes : Bytes} (aligned : Aligned bytes) :
    joinBlocks (toBlocks bytes) = bytes := by
  obtain ⟨count, length_eq⟩ := aligned
  rw [toBlocks, joinBlocks_splitBlocks _ _ (by omega)]
  exact List.take_of_length_le (by omega)

/-- Cutting into blocks is a list morphism on strings of whole blocks. -/
theorem toBlocks_append {left right : Bytes} (left_aligned : Aligned left)
    (right_aligned : Aligned right) :
    toBlocks (left ++ right) = toBlocks left ++ toBlocks right := by
  rw [← joinBlocks_toBlocks left_aligned, ← joinBlocks_toBlocks right_aligned,
    ← joinBlocks_append]
  simp only [toBlocks_joinBlocks]

theorem Aligned.append {left right : Bytes} (left_aligned : Aligned left)
    (right_aligned : Aligned right) : Aligned (left ++ right) := by
  unfold Aligned
  rw [List.length_append]
  exact Nat.dvd_add left_aligned right_aligned

theorem aligned_flatten {strings : List Bytes} (aligned : ∀ bytes ∈ strings, Aligned bytes) :
    Aligned strings.flatten := by
  induction strings with
  | nil => exact Nat.dvd_zero 16
  | cons bytes strings ih =>
      rw [List.flatten_cons]
      exact (aligned bytes List.mem_cons_self).append
        (ih fun other member => aligned other (List.mem_cons_of_mem _ member))

@[simp]
theorem toBlocks_nil : toBlocks [] = [] := rfl

/-- Blocks cut off past the end of a string are completed with zeros. -/
theorem joinBlocks_splitBlocks_of_le {count : Nat} {bytes : Bytes}
    (short : bytes.length ≤ 16 * count) :
    joinBlocks (splitBlocks count bytes) =
      bytes ++ List.replicate (16 * count - bytes.length) 0 := by
  induction count generalizing bytes with
  | zero => simp [List.length_eq_zero_iff.mp (Nat.le_zero.mp short), splitBlocks]
  | succ count ih =>
      rw [splitBlocks, joinBlocks_cons, ih (by rw [List.length_drop]; omega), List.length_drop]
      rcases Nat.lt_or_ge bytes.length 16 with inside | past
      · have rest_nil : bytes.drop 16 = [] := List.drop_eq_nil_of_le (by omega)
        simp only [Block.ofBytes, rest_nil, List.nil_append, List.take_append, List.take_replicate,
          List.take_of_length_le (Nat.le_of_lt inside), List.append_assoc,
          List.replicate_append_replicate]
        congr 2
        omega
      · rw [Block.ofBytes_val past, ← List.append_assoc, List.take_append_drop]
        congr 2
        omega

/-- A padded string is the string and less than one block of zeros. -/
theorem joinBlocks_padded (bytes : Bytes) :
    joinBlocks (padded bytes) =
      bytes ++ List.replicate (16 * ((bytes.length + 15) / 16) - bytes.length) 0 :=
  joinBlocks_splitBlocks_of_le (by omega)

@[simp]
theorem length_padded (bytes : Bytes) : (padded bytes).length = (bytes.length + 15) / 16 :=
  length_splitBlocks _ _

theorem joinBlocks_injective {left right : List Block}
    (same : joinBlocks left = joinBlocks right) : left = right := by
  rw [← toBlocks_joinBlocks left, same, toBlocks_joinBlocks]

theorem toBlocks_eq_nil {bytes : Bytes} (short : bytes.length < 16) : toBlocks bytes = [] := by
  rw [← List.length_eq_zero_iff, length_toBlocks]
  exact Nat.div_eq_of_lt short

end TaRef
