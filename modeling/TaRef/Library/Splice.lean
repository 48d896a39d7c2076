import TaRef.Library.Memory

/-!
# Writing into the middle of a list

`splice` replaces the entries of a list from some position on, with a filler up to that position.
Overwriting bytes is splicing with zeros; on whole blocks it is splicing the padded blocks with the
block of zeros.
-/

namespace TaRef

variable {α β : Type*}

/-- Replace the entries of a list from `offset` on, extending it with a filler up to `offset` when
it is shorter. -/
def splice (filler : α) (content : List α) (offset : Nat) (inserted : List α) : List α :=
  content.take offset ++ List.replicate (offset - content.length) filler ++ inserted ++
    content.drop (offset + inserted.length)

theorem map_splice (image : α → β) (filler : α) (content : List α) (offset : Nat)
    (inserted : List α) :
    (splice filler content offset inserted).map image =
      splice (image filler) (content.map image) offset (inserted.map image) := by
  simp [splice, List.map_take, List.map_drop]

theorem joinBlocks_replicate_zero (count : Nat) :
    joinBlocks (List.replicate count Block.zero) = List.replicate (16 * count) 0 := by
  induction count with
  | zero => rfl
  | succ count ih =>
      rw [List.replicate_succ, joinBlocks_cons, ih, Block.zero, List.replicate_append_replicate,
        Nat.mul_succ, Nat.add_comm]

/-- Overwriting a string with whole blocks splices its padded blocks. -/
theorem padded_overwrite (content : Bytes) (offset : Nat) {blocks : List Block}
    (blocks_ne : blocks ≠ []) :
    padded (overwrite content (16 * offset) (joinBlocks blocks)) =
      splice Block.zero (padded content) offset blocks := by
  have blocks_pos : 0 < blocks.length := List.length_pos_iff.mpr blocks_ne
  apply joinBlocks_injective
  rw [joinBlocks_padded, splice]
  simp only [joinBlocks_append, ← joinBlocks_take, ← joinBlocks_drop, joinBlocks_padded,
    joinBlocks_replicate_zero, length_padded, length_overwrite, length_joinBlocks]
  set pad := 16 * ((content.length + 15) / 16) - content.length with pad_eq
  have start_eq : (content ++ List.replicate pad 0).take (16 * offset) ++
      List.replicate (16 * (offset - (content.length + 15) / 16)) 0 =
        content.take (16 * offset) ++ List.replicate (16 * offset - content.length) 0 := by
    rw [List.take_append, List.take_replicate, List.append_assoc,
      List.replicate_append_replicate]
    congr 2
    omega
  have rest_eq : (content ++ List.replicate pad 0).drop (16 * (offset + blocks.length)) =
      content.drop (16 * (offset + blocks.length)) ++
        List.replicate (pad - (16 * (offset + blocks.length) - content.length)) 0 := by
    rw [List.drop_append, List.drop_replicate]
  rw [start_eq, rest_eq, overwrite, length_joinBlocks]
  simp only [List.append_assoc, Nat.mul_add]
  congr 5
  omega

/-- Reading whole blocks of a string reads its padded blocks. -/
theorem padded_read (content : Bytes) (offset count : Nat)
    (whole : 16 ∣ min (16 * count) (content.length - 16 * offset)) :
    ((content.drop (16 * offset)).take (16 * count)) =
      joinBlocks (((padded content).drop offset).take count) := by
  rw [← joinBlocks_take, ← joinBlocks_drop, joinBlocks_padded, List.drop_append,
    List.drop_replicate, List.take_append, List.take_replicate, List.length_drop]
  have no_zeros : min (16 * count - (content.length - 16 * offset))
      (16 * ((content.length + 15) / 16) - content.length - (16 * offset - content.length)) =
        0 := by
    omega
  rw [no_zeros, List.replicate_zero, List.append_nil]

end TaRef
