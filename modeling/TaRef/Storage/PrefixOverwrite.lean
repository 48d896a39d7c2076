import TaRef.Storage.RoundTrip

/-!
# Overwriting the start of an object

A handle opened for writing without the overwrite flag starts a new chain at the start of the stored
one.  The first block that it leaves was chained to a block that it replaces, so a later reader sees
the rest of the old plaintext only when the last block written has the ciphertext of the block it
replaced.
-/

namespace TaRef

theorem overwrite_start (content bytes : Bytes) :
    overwrite content 0 bytes = bytes ++ content.drop bytes.length := by
  simp [overwrite]

/-- The new data reaches to the end of the object, or its last ciphertext block is that of the part
of the old plaintext that it replaces. -/
def KeepsBoundary (aes : BlockCipher Bytes Block) (key : Bytes) (iv : Block) (data plain : Bytes) :
    Prop :=
  data.length = plain.length ∨
    Cbc.chainAfter aes key .encrypt iv (toBlocks data) =
      Cbc.chainAfter aes key .encrypt iv (toBlocks (plain.take data.length))

section Prefix

variable (aes : BlockCipher Bytes Block) (key : Bytes) (iv : Block)

/-- The plaintext of an object whose start was replaced by the encryption of other data. -/
def splicedBlocks (data plain : Bytes) : List Block :=
  Cbc.crypt aes key .decrypt iv (Cbc.crypt aes key .encrypt iv (toBlocks data) ++
    (Cbc.crypt aes key .encrypt iv (toBlocks plain)).drop (toBlocks data).length)

variable {data plain : Bytes}

theorem overwrite_eq_spliced :
    overwrite (joinBlocks (Cbc.crypt aes key .encrypt iv (toBlocks plain))) 0
        (joinBlocks (Cbc.crypt aes key .encrypt iv (toBlocks data))) =
      joinBlocks (Cbc.crypt aes key .encrypt iv (splicedBlocks aes key iv data plain)) := by
  rw [overwrite_start, splicedBlocks, Cbc.encrypt_decrypt, joinBlocks_append, length_joinBlocks,
    Cbc.length_crypt, joinBlocks_drop]

variable (data_aligned : Aligned data) (plain_aligned : Aligned plain)
  (fits : data.length ≤ plain.length)

include data_aligned plain_aligned fits

theorem length_splicedBlocks :
    (joinBlocks (splicedBlocks aes key iv data plain)).length = plain.length := by
  obtain ⟨data_count, data_eq⟩ := data_aligned
  obtain ⟨plain_count, plain_eq⟩ := plain_aligned
  simp [splicedBlocks]
  omega

/-- When the reader sees the new data and then the rest of the old plaintext. -/
theorem joinBlocks_spliced_iff :
    joinBlocks (splicedBlocks aes key iv data plain) = data ++ plain.drop data.length ↔
      KeepsBoundary aes key iv data plain := by
  obtain ⟨data_count, data_eq⟩ := data_aligned
  have plain_eq := joinBlocks_toBlocks plain_aligned
  have data_blocks : joinBlocks (toBlocks data) = data := joinBlocks_toBlocks ⟨data_count, data_eq⟩
  have count_eq : (toBlocks data).length = data_count := by
    rw [length_toBlocks, data_eq, Nat.mul_div_cancel_left _ (by decide)]
  have short : (toBlocks data).length ≤ (toBlocks plain).length := by
    rw [length_toBlocks, length_toBlocks]
    exact Nat.div_le_div_right fits
  have rest_eq :
      plain.drop data.length = joinBlocks ((toBlocks plain).drop (toBlocks data).length) := by
    rw [← joinBlocks_drop, plain_eq, count_eq, data_eq]
  have taken_eq : toBlocks (plain.take data.length) =
      (toBlocks plain).take (toBlocks data).length := by
    conv_lhs => rw [← plain_eq, data_eq, joinBlocks_take, toBlocks_joinBlocks]
    rw [count_eq]
  have lengths : (toBlocks data).length = (toBlocks plain).length ↔ data.length = plain.length := by
    obtain ⟨plain_count, length_eq⟩ := plain_aligned
    rw [length_toBlocks, length_toBlocks]
    omega
  rw [KeepsBoundary, taken_eq, rest_eq, ← lengths,
    ← Cbc.decrypt_splice_iff aes key Block.xor_injective iv short]
  constructor
  · intro same
    nth_rewrite 2 [← data_blocks] at same
    rw [← joinBlocks_append] at same
    exact joinBlocks_injective same
  · intro same
    rw [splicedBlocks, same, joinBlocks_append, data_blocks]

end Prefix

variable {lib : Mbedtls}

/-- On both platforms, against a host that completes every transfer: what is read back after the
start of an object was overwritten. -/
theorem prefix_overwrite_iff {aes : BlockCipher Bytes Block} (laws : lib.CbcLaws aes)
    (platform : Platform) {id plain : Bytes} {flags : UInt32}
    {before opened closed reopened : Enclave lib} {writer reader : Nat} {writes : List Bytes}
    {reads : List (Bytes × Nat)} (steady : before.Steady platform) (plain_aligned : Aligned plain)
    (stored : before.host.content (cString id) =
      joinBlocks (Cbc.crypt aes (platform.keys.key id) .encrypt (platform.keys.iv id)
        (toBlocks plain)))
    (write_access : hasFlag flags teeDataFlagAccessWrite = true)
    (keeps : hasFlag flags teeDataFlagOverwrite = false)
    (opens : platform.step (some before) (.open (some id) flags) =
      (.opened .success (some writer), some opened))
    (write_sizes : ∀ buffer ∈ writes, Aligned buffer ∧ buffer.length < 2 ^ 31)
    (fits : writes.flatten.length ≤ plain.length)
    (written : Machine.final platform.step (some opened)
      (writes.map (.write (some writer)) ++ [.close (some writer)]) = some closed)
    (reopens : platform.step (some closed) (.open (some id) teeDataFlagAccessRead) =
      (.opened .success (some reader), some reopened))
    (read_sizes : ∀ request ∈ reads, 16 ∣ request.2 ∧ request.2 < 2 ^ 31)
    (all : (reads.map Prod.snd).sum = plain.length) :
    (Machine.outputs platform.step (some reopened)
        (reads.map fun request => .read (some reader) request.1 request.2)).flatMap
      StorageOutput.data = writes.flatten ++ plain.drop writes.flatten.length ↔
      KeepsBoundary aes (platform.keys.key id) (platform.keys.iv id) writes.flatten plain := by
  have data_aligned : Aligned writes.flatten :=
    aligned_flatten fun buffer member => (write_sizes buffer member).1
  obtain ⟨writing, opened_transfers, opened_mallocs⟩ := Session.of_opens (.inr rfl) opens
  have direction_eq : accessDirection flags = .encrypt := by simp [accessDirection, write_access]
  rw [direction_eq, write_access, keeps, if_neg Bool.false_ne_true, stored] at writing
  obtain ⟨after, position, run, after_steady, after_session⟩ :=
    writing.writes laws platform (steady.later opened_transfers opened_mallocs) rfl (Nat.zero_le _)
      write_sizes
  rw [Machine.final_append, run] at written
  obtain ⟨last, close_eq, files_eq, last_transfers, last_mallocs⟩ := after_session.close platform
  rw [Machine.final_cons, close_eq, Machine.final_nil] at written
  obtain rfl := Option.some.inj written
  have spliced_eq : last.host.content (cString id) =
      joinBlocks (Cbc.crypt aes (platform.keys.key id) .encrypt (platform.keys.iv id)
        (splicedBlocks aes (platform.keys.key id) (platform.keys.iv id) writes.flatten plain)) := by
    have content := after_session.content
    rw [Host.content, ← files_eq] at content
    exact content.trans (overwrite_eq_spliced aes _ _)
  obtain ⟨reading, reopened_transfers, reopened_mallocs⟩ :=
    Reading.of_opens (.inr rfl) (by decide) (by decide) spliced_eq reopens
  have reopened_steady :=
    (after_steady.later last_transfers last_mallocs).later reopened_transfers reopened_mallocs
  rw [reading.reads_data laws platform reopened_steady read_sizes, all,
    ← length_splicedBlocks aes (platform.keys.key id) (platform.keys.iv id) data_aligned
      plain_aligned fits, List.take_length]
  exact joinBlocks_spliced_iff aes _ _ data_aligned plain_aligned fits

/-! ## An object of two blocks -/

/-- The two blocks. -/
def publishedTwo : Bytes := vectorPlain.1 ++ Block.zero.1

/-- A start with the two blocks stored. -/
def publishedTwoStart : Enclave (.reference vectorCipher) :=
  .start _ (.storing (joinBlocks (Cbc.crypt vectorCipher vectorKey .encrypt Block.zero
    (toBlocks publishedTwo))) (Stream'.const (.move 256)))

/-- The state after the object was opened for writing. -/
def publishedTwoWriter : Enclave (.reference vectorCipher) :=
  (teeOpenPersistentObject Platform.publishedKeystone.keys publishedTwoStart (some [97])
    teeDataFlagAccessWrite).2

/-- The state after one block was written and the handle closed. -/
def publishedTwoClosed : Enclave (.reference vectorCipher) :=
  (Machine.final Platform.publishedKeystone.step (some publishedTwoWriter)
    [.write (some 0) vectorCipherBlock.1, .close (some 0)]).get (by decide +kernel)

/-- The state after the object was opened for reading. -/
def publishedTwoReader : Enclave (.reference vectorCipher) :=
  (teeOpenPersistentObject Platform.publishedKeystone.keys publishedTwoClosed (some [97])
    teeDataFlagAccessRead).2

theorem publishedTwo_opens :
    Platform.publishedKeystone.step (some publishedTwoStart)
        (.open (some [97]) teeDataFlagAccessWrite) =
      (.opened .success (some 0), some publishedTwoWriter) := rfl

theorem publishedTwo_reopens :
    Platform.publishedKeystone.step (some publishedTwoClosed)
        (.open (some [97]) teeDataFlagAccessRead) =
      (.opened .success (some 1), some publishedTwoReader) := by
  have reopened : (teeOpenPersistentObject Platform.publishedKeystone.keys publishedTwoClosed
      (some [97]) teeDataFlagAccessRead).1 = (.success, some 1) := by decide +kernel
  rw [Platform.step_open, reopened]
  rfl

theorem publishedTwo_steady : publishedTwoStart.Steady Platform.publishedKeystone :=
  Enclave.Patient.steady _
    ⟨fun _ => Nat.zero_lt_succ 255, fun _ => Option.some_ne_none _⟩

theorem prefix_overwrite_iff_published :
    (Machine.outputs Platform.publishedKeystone.step (some publishedTwoReader)
        ([(List.replicate 32 0, 32)].map fun request => .read (some 1) request.1 request.2)).flatMap
      StorageOutput.data =
        [vectorCipherBlock.1].flatten ++ publishedTwo.drop [vectorCipherBlock.1].flatten.length ↔
      KeepsBoundary vectorCipher (Platform.publishedKeystone.keys.key [97])
        (Platform.publishedKeystone.keys.iv [97]) [vectorCipherBlock.1].flatten publishedTwo := by
  refine prefix_overwrite_iff (Mbedtls.reference_cbcLaws vectorCipher) _ publishedTwo_steady
    ⟨2, by decide⟩ (by decide +kernel) (by decide) (by decide) publishedTwo_opens ?_ (by decide)
    (Option.some_get _).symm publishedTwo_reopens (by decide) (by decide)
  simp [Aligned, vectorCipherBlock.2]

/-- Every call succeeds, but the second block that is read back is not the one stored. -/
theorem prefix_overwrite_garbles :
    Platform.publishedKeystone.step (some publishedTwoStart)
        (.open (some [97]) teeDataFlagAccessWrite) =
      (.opened .success (some 0), some publishedTwoWriter) ∧
    Machine.final Platform.publishedKeystone.step (some publishedTwoWriter)
        [.write (some 0) vectorCipherBlock.1, .close (some 0)] = some publishedTwoClosed ∧
    Platform.publishedKeystone.step (some publishedTwoClosed)
        (.open (some [97]) teeDataFlagAccessRead) =
      (.opened .success (some 1), some publishedTwoReader) ∧
    (Machine.outputs Platform.publishedKeystone.step (some publishedTwoReader)
        [.read (some 1) (List.replicate 32 0) 32]).flatMap StorageOutput.data ≠
      vectorCipherBlock.1 ++ publishedTwo.drop 16 :=
  ⟨publishedTwo_opens, (Option.some_get _).symm, publishedTwo_reopens, by decide +kernel⟩

end TaRef
