import TaRef.Storage.Specification
import TaRef.Storage.Start

/-!
# Completeness of a successful write

A write is an error only when the host refuses its first transfer.  A write that stalls later is
reported as a success, on both platforms.
-/

namespace TaRef

/-- The file behind a descriptor received some bytes at the descriptor's position. -/
def Host.Received (before after : Host) (fd : Int) (bytes : Bytes) : Prop :=
  ∃ file, before.openFile? fd = some file ∧
    after.openFile? fd = some { file with offset := file.offset + bytes.length } ∧
    after.content file.path = overwrite (before.content file.path) file.offset bytes

/-- Delivering some bytes to an open file is receiving those bytes and no longer string. -/
theorem Host.received_deliver_take {host : Host} {fd : Int} {file : OpenFile} {bytes : Bytes}
    {total : Nat} (taken : Nat) (opened : host.openFile? fd = some file) (bytes_ne : bytes ≠ [])
    (total_le : total ≤ bytes.length) :
    host.Received ((host.skip taken).deliver fd (bytes.take total)) fd bytes ↔
      total = bytes.length := by
  have opened_now : (host.skip taken).openFile? fd = some file := by rwa [openFile?_skip]
  constructor
  · rintro ⟨other, other_opened, position, _⟩
    obtain rfl : other = file := by simpa [opened] using other_opened.symm
    rw [openFile?_deliver_self opened_now] at position
    simp at position
    omega
  · rintro rfl
    rw [List.take_length]
    exact ⟨file, opened, openFile?_deliver_self opened_now bytes,
      content_deliver_self opened_now bytes_ne⟩

variable {lib : Mbedtls}

/-- A write of `buffer` to the handle succeeds only if the file receives its whole ciphertext under
the key of `id`. -/
def Platform.WritesAll (platform : Platform) (aes : BlockCipher Bytes Block) (id : Bytes)
    (tee : Enclave lib) (index : Nat) (buffer : Bytes) : Prop :=
  ∀ handle, tee.objects[index]? = some handle →
    (platform.writeObjectData tee (some index) buffer).1 = .returned .success →
    tee.host.Received (platform.writeObjectData tee (some index) buffer).2.host handle.desc
      (joinBlocks (Cbc.crypt aes (platform.keys.key id) .encrypt handle.persistIv
        (toBlocks buffer)))

/-- If the descriptor is open for writing, the host refuses the first transfer or completes the
write. -/
def Platform.NeverStalls (platform : Platform) (tee : Enclave lib) (index size : Nat) : Prop :=
  ∀ handle, tee.objects[index]? = some handle → tee.host.Writable handle.desc →
    (∃ code, tee.host.transfers.head = .refuse code) ∨
      platform.Completes tee.host.transfers size

section Complete

variable {aes : BlockCipher Bytes Block} (laws : lib.CbcLaws aes) (platform : Platform)
  {tee : Enclave lib} {handle : StoredObject lib} {index : Nat} {key buffer : Bytes}

include laws

/-- The result of a write to an open file, and when the file received everything. -/
theorem writeObjectData_received_iff {context : lib.AesContext} {residue : Memory}
    (found : tee.persistent? (some index) = some handle)
    (keyed : handle.persistCtx = lib.aesSetkey .encrypt (lib.aesInit context) key)
    (allocated : tee.mallocs.head = some residue) (aligned : Aligned buffer)
    (buffer_pos : 0 < buffer.length) (buffer_lt : buffer.length < 2 ^ 31)
    (writable : tee.host.Writable handle.desc) :
    (platform.writeObjectData tee (some index) buffer).1 =
        .returned (writeResult tee.host.transfers.head) ∧
      (tee.host.Received (platform.writeObjectData tee (some index) buffer).2.host handle.desc
          (joinBlocks (Cbc.crypt aes key .encrypt handle.persistIv (toBlocks buffer))) ↔
        platform.Completes tee.host.transfers buffer.length) := by
  obtain ⟨file, opened, granted⟩ := writable
  obtain ⟨taken, run⟩ :=
    writeObjectData_spec laws platform found keyed allocated aligned buffer_pos buffer_lt opened
      granted
  set cipher := joinBlocks (Cbc.crypt aes key .encrypt handle.persistIv (toBlocks buffer))
    with cipher_eq
  have cipher_length : cipher.length = buffer.length := Cbc.length_joinBlocks_crypt _ _ _ _ aligned
  have cipher_ne : cipher ≠ [] := List.ne_nil_of_length_pos (by omega)
  have received := Host.received_deliver_take taken opened cipher_ne
    ((platform.moved_le tee.host.transfers buffer.length).trans_eq cipher_length.symm)
  rw [cipher_length] at received
  rw [run]
  exact ⟨rfl, received⟩

/-- On a handle opened for writing, a successful write is complete exactly when the host does not
stall after it accepted the first transfer. -/
theorem writesAll_iff_neverStalls {id : Bytes} {flags : UInt32}
    (held : platform.Holds id flags index tee)
    (write_access : hasFlag flags teeDataFlagAccessWrite = true)
    (allocated : tee.mallocs.head ≠ none) (aligned : Aligned buffer)
    (buffer_pos : 0 < buffer.length) (buffer_lt : buffer.length < 2 ^ 31) :
    platform.WritesAll aes id tee index buffer ↔
      platform.NeverStalls tee index buffer.length := by
  obtain ⟨handle, entry, found, keyed⟩ := held.handle
  obtain ⟨residue, residue_eq⟩ := Option.ne_none_iff_exists'.mp allocated
  have direction_eq : accessDirection flags = .encrypt := by simp [accessDirection, write_access]
  rw [direction_eq] at keyed
  simp only [Platform.WritesAll, Platform.NeverStalls, entry, Option.some.injEq, forall_eq']
  by_cases writable : tee.host.Writable handle.desc
  · obtain ⟨result_eq, received⟩ :=
      writeObjectData_received_iff laws platform found keyed residue_eq aligned buffer_pos
        buffer_lt writable
    rw [result_eq, received]
    cases head : tee.host.transfers.head with
    | refuse code => simp [writeResult]
    | move amount => simp [writeResult, writable]
  · rw [writeObjectData_not_writable platform found residue_eq aligned buffer_pos writable]
    simp [writable]

end Complete

theorem writesAll_iff_neverStalls_published :
    Platform.publishedKeystone.WritesAll vectorCipher [97]
        (publishedWriter .publishedKeystone (Stream'.const (.move 256))) 0 vectorPlain.1 ↔
      Platform.publishedKeystone.NeverStalls
        (publishedWriter .publishedKeystone (Stream'.const (.move 256))) 0
        vectorPlain.1.length := by
  refine writesAll_iff_neverStalls (Mbedtls.reference_cbcLaws vectorCipher) .publishedKeystone
    (publishedWriter_holds _ _) (by decide) ?_ ⟨1, vectorPlain.2⟩ ?_ ?_
  · rw [(publishedWriter_spec _ _).2.2.2]
    exact Option.some_ne_none _
  · rw [vectorPlain.2]
    decide
  · rw [vectorPlain.2]
    decide

/-- A host that stores eight bytes and then fails. -/
def interruptedTransfers : Stream' Transfer :=
  Stream'.cons (.move 8) (Stream'.const (.refuse 0))

private theorem interrupted_write_not_complete (platform : Platform)
    (stalls : ¬ platform.Completes interruptedTransfers 16) :
    ¬ platform.WritesAll vectorCipher [97] (publishedWriter platform interruptedTransfers) 0
      vectorPlain.1 := by
  obtain ⟨objects_eq, opened, transfers_eq, mallocs_eq⟩ :=
    publishedWriter_spec platform interruptedTransfers
  obtain ⟨handle, entry, found, keyed⟩ :=
    (publishedWriter_holds platform interruptedTransfers).handle
  have desc_eq : handle.desc = 0 := by
    rw [objects_eq] at entry
    obtain rfl := Option.some.inj entry
    rfl
  have writable : (publishedWriter platform interruptedTransfers).host.Writable handle.desc := by
    rw [desc_eq]
    exact ⟨_, opened, by decide⟩
  obtain ⟨result_eq, received⟩ :=
    writeObjectData_received_iff (Mbedtls.reference_cbcLaws vectorCipher) platform
      found keyed (show _ = some fun _ => 0 by rw [mallocs_eq]; rfl) ⟨1, vectorPlain.2⟩
      (by rw [vectorPlain.2]; decide) (by rw [vectorPlain.2]; decide) writable
  rw [transfers_eq] at result_eq received
  intro complete
  rw [vectorPlain.2] at received
  exact stalls (received.mp (complete handle entry result_eq))

theorem interrupted_writes_not_complete :
    ¬ Platform.publishedKeystone.WritesAll vectorCipher [97]
        (publishedWriter .publishedKeystone interruptedTransfers) 0 vectorPlain.1 ∧
      ¬ Platform.publishedSgx.WritesAll vectorCipher [97]
        (publishedWriter .publishedSgx interruptedTransfers) 0 vectorPlain.1 := by
  have head : interruptedTransfers.head = .move 8 := rfl
  have next : interruptedTransfers.tail.head = .refuse 0 := rfl
  constructor
  · apply interrupted_write_not_complete
    rw [Platform.publishedKeystone, Platform.Completes, Platform.moved,
      bytesMoved_of_move head (by decide), bytesMoved_of_refuse next]
    decide
  · apply interrupted_write_not_complete
    rw [Platform.publishedSgx, Platform.Completes, Platform.moved, head]
    decide

end TaRef
