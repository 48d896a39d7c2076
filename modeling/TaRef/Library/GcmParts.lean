import TaRef.Library.Gcm

/-!
# Messages in parts

What becomes of a message in parts when every part starts at the next whole block and is padded on
its own.  The ciphertext and the tag are those of the whole message when every part that is not
empty starts on a block boundary.  Under a cipher whose hash key is the one of the field the tag is
a sum, and tells a message in other parts from the whole.
-/

namespace TaRef

/-! ## Padding -/

theorem splitBlocks_add (count other : Nat) (bytes : Bytes) :
    splitBlocks (count + other) bytes =
      splitBlocks count bytes ++ splitBlocks other (bytes.drop (16 * count)) := by
  induction count generalizing bytes with
  | zero => simp [splitBlocks]
  | succ count ih =>
      rw [Nat.add_right_comm, splitBlocks, splitBlocks, List.cons_append, ih, List.drop_drop,
        Nat.mul_succ, Nat.add_comm 16]

theorem splitBlocks_append {count : Nat} {left : Bytes} (enough : 16 * count ≤ left.length)
    (right : Bytes) : splitBlocks count (left ++ right) = splitBlocks count left := by
  induction count generalizing left with
  | zero => rfl
  | succ count ih =>
      have first : Block.ofBytes (left ++ right) = Block.ofBytes left := by
        apply Subtype.ext
        rw [Block.ofBytes_val (by rw [List.length_append]; omega), Block.ofBytes_val (by omega),
          List.take_append_of_le_length (by omega)]
      rw [splitBlocks, splitBlocks, first, List.drop_append_of_le_length (by omega),
        ih (by rw [List.length_drop]; omega)]

/-- Whole blocks are padded apart from what follows. -/
theorem padded_append {left : Bytes} (aligned : Aligned left) (right : Bytes) :
    padded (left ++ right) = padded left ++ padded right := by
  obtain ⟨count, length_eq⟩ := aligned
  have total : ((left ++ right).length + 15) / 16 = count + (right.length + 15) / 16 := by
    rw [List.length_append]
    omega
  have first : (left.length + 15) / 16 = count := by omega
  rw [padded, padded, padded, total, first, splitBlocks_add,
    splitBlocks_append (Nat.le_of_eq length_eq.symm), List.drop_left' length_eq]

@[simp]
theorem padded_nil : padded [] = [] := rfl

theorem splitBlocks_zeros (blocks count : Nat) :
    splitBlocks blocks (List.replicate count 0) = List.replicate blocks Block.zero := by
  induction blocks generalizing count with
  | zero => rfl
  | succ blocks ih =>
      have first : Block.ofBytes (List.replicate count 0) = Block.zero := by
        apply Subtype.ext
        change (List.replicate count (0 : UInt8) ++ List.replicate 16 0).take 16 =
          List.replicate 16 0
        rw [List.replicate_append_replicate, List.take_replicate,
          Nat.min_eq_left (Nat.le_add_left 16 count)]
      rw [splitBlocks, first, List.drop_replicate, ih, List.replicate_succ]

/-- Zeros are padded to blocks of zeros. -/
theorem padded_zeros (count : Nat) :
    padded (List.replicate count 0) = List.replicate ((count + 15) / 16) Block.zero := by
  rw [padded, List.length_replicate, splitBlocks_zeros]

namespace Gcm

/-! ## Words -/

/-- The bytes of a word make up the word. -/
theorem foldl_bytes (word : BitVec 128) (count : Nat) (inside : count ≤ 16) :
    ((List.range count).map fun index => (⟨(word >>> (8 * (15 - index))).setWidth 8⟩ : UInt8)).foldl
      (fun (sum : BitVec 128) byte => sum <<< 8 ||| byte.toBitVec.setWidth 128) 0 =
    word >>> (8 * (16 - count)) := by
  induction count with
  | zero =>
      apply BitVec.eq_of_getLsbD_eq
      intro index _
      simp
  | succ count ih =>
      rw [List.range_succ, List.map_append, List.foldl_append, ih (by omega), List.map_singleton,
        List.foldl_cons, List.foldl_nil]
      apply BitVec.eq_of_getLsbD_eq
      intro index index_lt
      simp only [BitVec.getLsbD_or, BitVec.getLsbD_shiftLeft, BitVec.getLsbD_ushiftRight,
        BitVec.getLsbD_setWidth]
      by_cases low : index < 8
      · have shift : 8 * (15 - count) = 8 * (16 - (count + 1)) := by omega
        simp [low, index_lt, shift]
      · have shift : 8 * (16 - count) + (index - 8) = 8 * (16 - (count + 1)) + index := by omega
        simp [low, index_lt, shift]

@[simp]
theorem toWord_ofWord (word : BitVec 128) : toWord (ofWord word) = word := by
  rw [toWord, ofWord]
  exact (foldl_bytes word 16 (Nat.le_refl 16)).trans (by simp)

theorem ofWord_injective : Function.Injective ofWord :=
  Function.LeftInverse.injective toWord_ofWord

/-! ## Multiplication by one -/

theorem timesX_twoPow (exponent : Nat) (small : exponent + 1 < 128) :
    timesX (BitVec.twoPow 128 (exponent + 1)) = BitVec.twoPow 128 exponent := by
  have even : (BitVec.twoPow 128 (exponent + 1)).getLsbD 0 = false := by
    simp
  rw [timesX, even, if_neg Bool.false_ne_true]
  ext index inside
  simp only [BitVec.getElem_ushiftRight, BitVec.getLsbD_twoPow, BitVec.getElem_twoPow]
  grind

/-- The first bits of a word. -/
def leading (word : BitVec 128) (count : Nat) : BitVec 128 :=
  word >>> (128 - count) <<< (128 - count)

theorem getLsbD_leading (word : BitVec 128) {count : Nat} (index : Nat) (inside : index < 128) :
    (leading word count).getLsbD index = (decide (128 ≤ index + count) && word.getLsbD index) := by
  simp only [leading, BitVec.getLsbD_shiftLeft, BitVec.getLsbD_ushiftRight]
  by_cases reached : 128 ≤ index + count
  · have position : 128 - count + (index - (128 - count)) = index := by omega
    have not_before : ¬ index < 128 - count := by omega
    simp [reached, position, not_before, inside]
  · have before : index < 128 - count := by omega
    simp [reached, before]

theorem leading_succ (word : BitVec 128) {count : Nat} (early : count < 128) :
    (if word.getMsbD count then leading word count ^^^ BitVec.twoPow 128 (127 - count)
      else leading word count) = leading word (count + 1) := by
  apply BitVec.eq_of_getLsbD_eq
  intro index inside
  have bit : word.getMsbD count = word.getLsbD (127 - count) := by
    simp [BitVec.getMsbD, early]
  rw [getLsbD_leading word index inside, bit]
  by_cases next : index = 127 - count
  · subst next
    have reached : 128 ≤ 127 - count + (count + 1) := by omega
    have before : ¬ 128 ≤ 127 - count + count := by omega
    cases value : word.getLsbD (127 - count) with
    | false => simp [getLsbD_leading word _ inside, value]
    | true =>
        have unset : (leading word count).getLsbD (127 - count) = false := by
          rw [getLsbD_leading word _ inside]
          simp [before]
        simp only [if_true, BitVec.getLsbD_xor, unset, BitVec.getLsbD_twoPow]
        simpa [reached] using inside
  · have other : (BitVec.twoPow 128 (127 - count)).getLsbD index = false := by
      simp [BitVec.getLsbD_twoPow]
      omega
    have same : (128 ≤ index + (count + 1)) ↔ 128 ≤ index + count := by omega
    split
    · rw [BitVec.getLsbD_xor, other, Bool.xor_false, getLsbD_leading word index inside]
      simp [same]
    · rw [getLsbD_leading word index inside]
      simp [same]

/-- The steps of a multiplication by one collect the bits of the other factor. -/
theorem foldl_one (word : BitVec 128) (count : Nat) (early : count < 128) :
    (List.range count).foldl
      (fun (state : BitVec 128 × BitVec 128) index =>
        (if word.getMsbD index then state.1 ^^^ state.2 else state.1, timesX state.2))
      (0, BitVec.twoPow 128 127) = (leading word count, BitVec.twoPow 128 (127 - count)) := by
  induction count with
  | zero => simp [leading]
  | succ count ih =>
      have exponent : 127 - count = 127 - (count + 1) + 1 := by omega
      rw [List.range_succ, List.foldl_append, ih (by omega), List.foldl_cons, List.foldl_nil]
      dsimp only
      rw [leading_succ word (by omega), exponent, timesX_twoPow _ (by omega)]

/-- Multiplication by the one of the field, whose first bit is set. -/
theorem multiply_one (word : BitVec 128) : multiply word (BitVec.twoPow 128 127) = word := by
  have split : List.range 128 = List.range 127 ++ [127] := rfl
  rw [multiply, split, List.foldl_append, foldl_one word 127 (by decide), List.foldl_cons,
    List.foldl_nil]
  dsimp only
  rw [leading_succ word (by decide)]
  simp [leading]

/-! ## Parts -/

section Parts

variable {κ : Type*} (cipher : BlockCipher κ Block) (key : κ) (nonce : Block)

/-- The length of parts of given lengths when each is rounded up to whole blocks. -/
def wholeBlocks (lengths : List Nat) : Nat :=
  16 * (lengths.map fun length => (length + 15) / 16).sum

/-- Encrypt a message in parts; the keystream position of a part depends on the lengths of the parts
before it. -/
def cryptParts (position : List Nat → Nat) (done : List Nat) : List Bytes → List Bytes
  | [] => []
  | part :: parts =>
      crypt cipher key nonce (position done) part ::
        cryptParts position (done ++ [part.length]) parts

/-- Authentication tag of a ciphertext in parts, each of which is padded. -/
def tagOfParts (aad : Bytes) (parts : List Bytes) : Block :=
  ofWord (ghash (hashKey cipher key)
      (padded aad ++ parts.flatMap padded ++ [lengths aad.length parts.flatten.length]) ^^^
    toWord (cipher.encrypt key (ofWord (preCounter cipher key nonce))))

/-- From a position on, every part that is not empty starts on a block boundary. -/
def OnBoundaries : Nat → List Nat → Prop
  | _, [] => True
  | position, length :: lengths =>
      (length = 0 ∨ 16 ∣ position) ∧ OnBoundaries (position + length) lengths

@[simp]
theorem map_length_cryptParts (position : List Nat → Nat) (done : List Nat) (parts : List Bytes) :
    (cryptParts cipher key nonce position done parts).map List.length = parts.map List.length := by
  induction parts generalizing done with
  | nil => rfl
  | cons part parts ih => simp [cryptParts, ih]

theorem cryptParts_append (position : List Nat → Nat) (done : List Nat) (left right : List Bytes) :
    cryptParts cipher key nonce position done (left ++ right) =
      cryptParts cipher key nonce position done left ++
        cryptParts cipher key nonce position (done ++ left.map List.length) right := by
  induction left generalizing done with
  | nil => simp [cryptParts]
  | cons part left ih => simp [cryptParts, ih]

theorem tagOfParts_singleton (aad ciphertext : Bytes) :
    tagOfParts cipher key nonce aad [ciphertext] = tag cipher key nonce aad ciphertext := by
  simp [tagOfParts, tag]

/-- On block boundaries the parts are encrypted as the whole message is. -/
theorem flatten_cryptParts {done : List Nat} {parts : List Bytes}
    (boundaries : OnBoundaries done.sum (parts.map List.length))
    (settled : 16 ∣ done.sum → wholeBlocks done = done.sum) :
    (cryptParts cipher key nonce wholeBlocks done parts).flatten =
      crypt cipher key nonce done.sum parts.flatten := by
  induction parts generalizing done with
  | nil => rfl
  | cons part parts ih =>
      obtain ⟨first, later⟩ := boundaries
      have grown : (done ++ [part.length]).sum = done.sum + part.length := by simp
      have rounded : wholeBlocks (done ++ [part.length]) =
          wholeBlocks done + 16 * ((part.length + 15) / 16) := by
        simp [wholeBlocks, Nat.mul_add]
      rw [← grown] at later
      have rest := ih later (by
        intro boundary
        rw [grown] at boundary ⊢
        rw [rounded]
        rcases first with empty | aligned
        · rw [empty] at boundary ⊢
          have held := settled boundary
          omega
        · have held := settled aligned
          omega)
      rw [cryptParts, List.flatten_cons, List.flatten_cons, rest, grown, crypt_append]
      rcases first with empty | aligned
      · rw [List.length_eq_zero_iff.mp empty, crypt_nil, crypt_nil]
      · rw [settled aligned]

/-- On block boundaries padding the parts is padding the whole. -/
theorem flatMap_padded {left : Bytes} {parts : List Bytes}
    (boundaries : OnBoundaries left.length (parts.map List.length)) :
    padded left ++ parts.flatMap padded = padded (left ++ parts.flatten) := by
  induction parts generalizing left with
  | nil => simp
  | cons part parts ih =>
      obtain ⟨first, later⟩ := boundaries
      have rest := @ih (left ++ part) (by rw [List.length_append]; exact later)
      rw [List.flatMap_cons, List.flatten_cons, ← List.append_assoc, ← List.append_assoc, ← rest]
      rcases first with empty | aligned
      · rw [List.length_eq_zero_iff.mp empty, padded_nil, List.append_nil, List.append_nil]
      · rw [padded_append aligned part]

/-- On block boundaries the tag of the parts is that of the whole. -/
theorem tagOfParts_eq (aad : Bytes) {parts : List Bytes}
    (boundaries : OnBoundaries 0 (parts.map List.length)) :
    tagOfParts cipher key nonce aad parts = tag cipher key nonce aad parts.flatten := by
  have padding := @flatMap_padded [] parts boundaries
  rw [padded_nil, List.nil_append, List.nil_append] at padding
  rw [tagOfParts, tag, padding]

end Parts

/-! ## Tags under a hash key of one -/

/-- The sum of some blocks. -/
def blockSum (blocks : List Block) : BitVec 128 :=
  blocks.foldl (fun sum block => sum ^^^ toWord block) 0

theorem foldl_blockSum (start : BitVec 128) (blocks : List Block) :
    blocks.foldl (fun sum block => sum ^^^ toWord block) start = start ^^^ blockSum blocks := by
  induction blocks generalizing start with
  | nil => simp [blockSum]
  | cons block blocks ih =>
      have first : (0 : BitVec 128) ^^^ toWord block = toWord block := BitVec.zero_xor
      rw [blockSum, List.foldl_cons, List.foldl_cons, ih, ih, first, BitVec.xor_assoc]

@[simp]
theorem blockSum_append (left right : List Block) :
    blockSum (left ++ right) = blockSum left ^^^ blockSum right := by
  rw [blockSum, List.foldl_append, foldl_blockSum]
  rfl

theorem blockSum_zeros (count : Nat) : blockSum (List.replicate count Block.zero) = 0 := by
  induction count with
  | zero => rfl
  | succ count ih =>
      have first : toWord Block.zero = 0 := by decide
      rw [blockSum, List.replicate_succ, List.foldl_cons, foldl_blockSum, ih, first]
      rfl

theorem ghash_one (blocks : List Block) :
    ghash (BitVec.twoPow 128 127) blocks = blockSum blocks := by
  simp only [ghash, blockSum, multiply_one]

/-- A block that is zero but for a one at some place. -/
def unitBlock (place : Nat) : Block := Block.ofBytes (List.replicate place 0 ++ [1])

theorem take_unit {place count : Nat} (inside : place < 16) (enough : 15 ≤ place + count) :
    (List.replicate place (0 : UInt8) ++ 1 :: List.replicate count 0).take 16 =
      List.replicate place 0 ++ 1 :: List.replicate (15 - place) 0 := by
  obtain ⟨others, others_eq⟩ : ∃ others, 16 - place = others + 1 := ⟨15 - place, by omega⟩
  have same : 15 - place = others := by omega
  rw [List.take_append, List.length_replicate, List.take_replicate,
    Nat.min_eq_right (Nat.le_of_lt inside), others_eq, same, List.take_succ_cons,
    List.take_replicate, Nat.min_eq_left (by omega)]

theorem drop_unit {place : Nat} (inside : place < 16) (count : Nat) :
    (List.replicate place (0 : UInt8) ++ 1 :: List.replicate count 0).drop 16 =
      List.replicate (count - (15 - place)) 0 := by
  obtain ⟨others, others_eq⟩ : ∃ others, 16 - place = others + 1 := ⟨15 - place, by omega⟩
  have same : 15 - place = others := by omega
  rw [List.drop_append, List.length_replicate, List.drop_replicate,
    Nat.sub_eq_zero_of_le (Nat.le_of_lt inside), others_eq, same, List.drop_succ_cons,
    List.drop_replicate]
  rfl

/-- Zeros around a one are padded to one block with the one and blocks of zeros. -/
theorem blockSum_padded_unit (before after : Nat) :
    blockSum (padded (List.replicate before 0 ++ 1 :: List.replicate after 0)) =
      toWord (unitBlock (before % 16)) := by
  have whole : List.replicate before (0 : UInt8) =
      List.replicate (16 * (before / 16)) 0 ++ List.replicate (before % 16) 0 := by
    rw [List.replicate_append_replicate, Nat.div_add_mod]
  have inside : before % 16 < 16 := Nat.mod_lt before (by decide)
  have aligned : Aligned (List.replicate (16 * (before / 16)) 0) := by
    rw [Aligned, List.length_replicate]
    exact Nat.dvd_mul_right 16 _
  generalize before % 16 = place at whole inside
  rw [whole, List.append_assoc, padded_append aligned, blockSum_append, padded_zeros,
    blockSum_zeros]
  obtain ⟨blocks, count_eq⟩ : ∃ blocks,
      ((List.replicate place (0 : UInt8) ++ 1 :: List.replicate after 0).length + 15) / 16 =
        blocks + 1 := by
    refine ⟨(place + after) / 16, ?_⟩
    simp only [List.length_append, List.length_replicate, List.length_cons]
    omega
  have first : Block.ofBytes (List.replicate place 0 ++ 1 :: List.replicate after 0) =
      unitBlock place := by
    apply Subtype.ext
    change (List.replicate place (0 : UInt8) ++ 1 :: List.replicate after 0 ++
        List.replicate 16 0).take 16 =
      (List.replicate place (0 : UInt8) ++ [1] ++ List.replicate 16 0).take 16
    rw [List.append_assoc, List.cons_append, List.replicate_append_replicate, List.append_assoc,
      List.singleton_append, take_unit inside (by omega), take_unit inside (by omega)]
  rw [padded, count_eq, splitBlocks, drop_unit inside, splitBlocks_zeros, first, blockSum,
    List.foldl_cons, foldl_blockSum, blockSum_zeros]
  simp

/-- The sum tells apart the places in a block. -/
theorem toWord_unitBlock_ne {place : Nat} (inside : place < 16) (later : place ≠ 0) :
    toWord (unitBlock place) ≠ toWord (unitBlock 0) := by
  revert place
  decide

/-- Parts of zeros sum up to zero. -/
theorem blockSum_flatMap_zeros {parts : List Bytes} {count : Nat}
    (zeros : parts.flatten = List.replicate count 0) : blockSum (parts.flatMap padded) = 0 := by
  induction parts generalizing count with
  | nil => rfl
  | cons part parts ih =>
      rw [List.flatten_cons, List.append_eq_replicate_iff] at zeros
      obtain ⟨_, part_eq, rest_eq⟩ := zeros
      rw [List.flatMap_cons, blockSum_append, ih rest_eq, part_eq, padded_zeros, blockSum_zeros]
      rfl

/-- Parts of zeros but for a one that starts a part sum up to that one at the start of a block. -/
theorem blockSum_flatMap_unit {parts : List Bytes} {left right : List Nat} {length after : Nat}
    (lengths : parts.map List.length = left ++ length :: right) (some_bytes : length ≠ 0)
    (unit : parts.flatten = List.replicate left.sum 0 ++ 1 :: List.replicate after 0) :
    blockSum (parts.flatMap padded) = toWord (unitBlock 0) := by
  obtain ⟨before, others, rfl, before_eq, others_eq⟩ := List.map_eq_append_iff.mp lengths
  obtain ⟨part, rest, rfl, part_eq, rest_eq⟩ := List.map_eq_cons_iff.mp others_eq
  rw [List.flatten_append, List.flatten_cons] at unit
  have count : before.flatten.length = (List.replicate left.sum (0 : UInt8)).length := by
    rw [List.length_flatten, before_eq, List.length_replicate]
  obtain ⟨zeros, later⟩ := List.append_inj unit count
  cases part with
  | nil => exact absurd part_eq.symm some_bytes
  | cons byte bytes =>
      rw [List.cons_append, List.cons.injEq, List.append_eq_replicate_iff] at later
      obtain ⟨rfl, _, bytes_eq, rest_zeros⟩ := later
      have unit := blockSum_padded_unit 0 bytes.length
      rw [List.replicate_zero, List.nil_append, ← bytes_eq] at unit
      rw [List.flatMap_append, List.flatMap_cons, blockSum_append, blockSum_append,
        blockSum_flatMap_zeros zeros, blockSum_flatMap_zeros rest_zeros, unit]
      simp

/-- A part that is not empty starts within a block. -/
theorem exists_of_not_onBoundaries {position : Nat} {lengths : List Nat}
    (misplaced : ¬ OnBoundaries position lengths) :
    ∃ left length right, lengths = left ++ length :: right ∧ length ≠ 0 ∧
      ¬ 16 ∣ position + left.sum := by
  induction lengths generalizing position with
  | nil => exact absurd trivial misplaced
  | cons length lengths ih =>
      by_cases first : length = 0 ∨ 16 ∣ position
      · obtain ⟨left, other, right, rfl, some_bytes, inside⟩ :=
          ih fun later => misplaced ⟨first, later⟩
        refine ⟨length :: left, other, right, rfl, some_bytes, ?_⟩
        rwa [List.sum_cons, ← Nat.add_assoc]
      · rw [not_or] at first
        exact ⟨[], length, lengths, rfl, first.1, first.2⟩

section One

variable {κ : Type*} {cipher : BlockCipher κ Block} {key : κ}
  (one : hashKey cipher key = BitVec.twoPow 128 127) (nonce : Block)

include one

/-- The tag is a sum. -/
theorem tagOfParts_eq_iff (aad aad' : Bytes) (parts parts' : List Bytes) :
    tagOfParts cipher key nonce aad parts = tagOfParts cipher key nonce aad' parts' ↔
      blockSum (padded aad) ^^^ (blockSum (parts.flatMap padded) ^^^
          toWord (lengths aad.length parts.flatten.length)) =
        blockSum (padded aad') ^^^ (blockSum (parts'.flatMap padded) ^^^
          toWord (lengths aad'.length parts'.flatten.length)) := by
  have last : ∀ block : Block, blockSum [block] = toWord block := fun block => BitVec.zero_xor
  rw [tagOfParts, tagOfParts, ofWord_injective.eq_iff, BitVec.xor_left_inj, one, ghash_one,
    ghash_one]
  simp only [blockSum_append, last, BitVec.xor_assoc]

/-- When some part starts within a block there is a ciphertext whose tag in these parts is not its
tag. -/
theorem exists_tagOfParts_ne {lengths : List Nat} (misplaced : ¬ OnBoundaries 0 lengths)
    (aad : Bytes) :
    ∃ ciphertext : Bytes, ciphertext.length = lengths.sum ∧
      ∀ parts : List Bytes, parts.map List.length = lengths → parts.flatten = ciphertext →
        tagOfParts cipher key nonce aad parts ≠ tag cipher key nonce aad ciphertext := by
  obtain ⟨left, length, right, rfl, some_bytes, inside⟩ := exists_of_not_onBoundaries misplaced
  rw [Nat.zero_add] at inside
  refine ⟨List.replicate left.sum 0 ++ 1 :: List.replicate (length - 1 + right.sum) 0, ?_, ?_⟩
  · simp only [List.length_append, List.length_replicate, List.length_cons, List.sum_append,
      List.sum_cons]
    omega
  · intro parts lengths_eq flatten_eq same
    rw [← tagOfParts_singleton, tagOfParts_eq_iff one, flatten_eq, List.flatten_singleton,
      BitVec.xor_right_inj, BitVec.xor_left_inj, List.flatMap_singleton,
      blockSum_flatMap_unit lengths_eq some_bytes flatten_eq, blockSum_padded_unit] at same
    refine toWord_unitBlock_ne (Nat.mod_lt _ (by decide)) ?_ same.symm
    omega

/-- The tag of zeros tells how many there are. -/
theorem tag_zeros_inj {aad aad' count count' : Nat} (aad_lt : aad < 2 ^ 61)
    (aad_lt' : aad' < 2 ^ 61) (count_lt : count < 2 ^ 61) (count_lt' : count' < 2 ^ 61)
    (same : tag cipher key nonce (List.replicate aad 0) (List.replicate count 0) =
      tag cipher key nonce (List.replicate aad' 0) (List.replicate count' 0)) :
    aad = aad' ∧ count = count' := by
  rw [← tagOfParts_singleton, ← tagOfParts_singleton, tagOfParts_eq_iff one] at same
  simp only [List.flatMap_singleton, padded_zeros, blockSum_zeros, List.flatten_singleton,
    List.length_replicate, lengths, toWord_ofWord] at same
  have words : BitVec.ofNat 64 (8 * aad) ++ BitVec.ofNat 64 (8 * count) =
      BitVec.ofNat 64 (8 * aad') ++ BitVec.ofNat 64 (8 * count') := by
    simpa using same
  have high := congrArg (BitVec.extractLsb' 64 64) words
  have low := congrArg (BitVec.extractLsb' 0 64) words
  rw [BitVec.extractLsb'_append_eq_left, BitVec.extractLsb'_append_eq_left] at high
  rw [BitVec.extractLsb'_append_eq_right, BitVec.extractLsb'_append_eq_right] at low
  have high_eq := congrArg BitVec.toNat high
  have low_eq := congrArg BitVec.toNat low
  simp only [BitVec.toNat_ofNat] at high_eq low_eq
  omega

end One

end Gcm
end TaRef
