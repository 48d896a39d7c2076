import TaRef.Storage.Specification

/-!
# Sessions on one handle

A session ties a handle to its file: the key schedule, the chaining value, the position, and the
bytes stored.  A completed write appends the ciphertext of its buffer, and a completed read returns
the decryption of the next bytes; both move the chaining value along the ciphertext.
-/

namespace TaRef

variable {lib : Mbedtls}

/-- A handle with its key schedule, chaining value and file description, and the file's bytes. -/
structure Session (key : Bytes) (direction : Direction) (tee : Enclave lib) (index : Nat)
    (file : OpenFile) (chain : Block) (stored : Bytes) : Prop where
  handle : ∃ handle, tee.persistent? (some index) = some handle ∧
    (∃ context, handle.persistCtx = lib.aesSetkey direction (lib.aesInit context) key) ∧
    handle.persistIv = chain ∧ tee.host.openFile? handle.desc = some file
  content : tee.host.content file.path = stored

/-- Descriptors of persistent objects are open in one direction. -/
theorem OpenFile.start_openFlags {flags : UInt32} {ocreat : Bool}
    (mode : openFlags flags ocreat &&& 3 ≠ 3) (path : Bytes) :
    OpenFile.start path (openFlags flags ocreat) =
        { path, offset := 0
          readable := !hasFlag flags teeDataFlagAccessWrite
          writable := hasFlag flags teeDataFlagAccessWrite } ∧
      hasFlag (openFlags flags ocreat) oTrunc = hasFlag flags teeDataFlagOverwrite := by
  cases write : hasFlag flags teeDataFlagAccessWrite with
  | true =>
      obtain ⟨mode_eq, trunc, _⟩ := openFlags_write write ocreat
      exact ⟨by simp [OpenFile.start, mode_eq], trunc⟩
  | false =>
      cases read : hasFlag flags teeDataFlagAccessRead with
      | true =>
          obtain ⟨mode_eq, trunc, _⟩ := openFlags_read write read ocreat
          exact ⟨by simp [OpenFile.start, mode_eq], trunc⟩
      | false => exact absurd (openFlags_none write read ocreat) mode

/-- Allocations succeed and the host moves something in every transfer. -/
structure Enclave.Patient (tee : Enclave lib) : Prop where
  prompt : tee.host.transfers.All Transfer.Prompt
  memory : tee.mallocs.All (· ≠ none)

theorem Enclave.Patient.head {tee : Enclave lib} (patient : tee.Patient) :
    ∃ amount, tee.host.transfers.head = .move amount := by
  have prompt := patient.prompt 0
  cases head : tee.host.transfers.head with
  | refuse code => simp [Transfer.Prompt, show tee.host.transfers.get 0 = _ from head] at prompt
  | move amount => exact ⟨amount, rfl⟩

theorem Enclave.Patient.later {tee after : Enclave lib} (patient : tee.Patient)
    {transfers mallocs : Nat} (host_eq : after.host.transfers = tee.host.transfers.drop transfers)
    (mallocs_eq : after.mallocs = tee.mallocs.drop mallocs) : after.Patient where
  prompt index := by
    rw [host_eq, Stream'.get_drop]
    exact patient.prompt _
  memory index := by
    rw [mallocs_eq, Stream'.get_drop]
    exact patient.memory _

/-- Allocations succeed, and the host moves every buffer whose length is an `int`. -/
structure Enclave.Steady (platform : Platform) (tee : Enclave lib) : Prop where
  complete : ∀ taken size, size < 2 ^ 31 →
    platform.Completes (tee.host.transfers.drop taken) size
  memory : tee.mallocs.All (· ≠ none)

theorem Enclave.Steady.head {platform : Platform} {tee : Enclave lib}
    (steady : tee.Steady platform) : ∃ amount, tee.host.transfers.head = .move amount := by
  have moves : platform.moved tee.host.transfers 1 = 1 := steady.complete 0 1 (by decide)
  cases head : tee.host.transfers.head with
  | refuse code =>
      rw [platform.moved_of_refuse head] at moves
      exact absurd moves (by decide)
  | move amount => exact ⟨amount, rfl⟩

theorem Enclave.Steady.later {platform : Platform} {tee after : Enclave lib}
    (steady : tee.Steady platform) {transfers mallocs : Nat}
    (host_eq : after.host.transfers = tee.host.transfers.drop transfers)
    (mallocs_eq : after.mallocs = tee.mallocs.drop mallocs) : after.Steady platform where
  complete taken size size_lt := by
    rw [host_eq, Stream'.drop_drop]
    exact steady.complete _ size size_lt
  memory index := by
    rw [mallocs_eq, Stream'.get_drop]
    exact steady.memory _

/-- On Keystone a patient host is steady. -/
theorem Enclave.Patient.steady (attestEnclave : Bytes → Bytes) {tee : Enclave lib}
    (patient : tee.Patient) : tee.Steady (.keystone attestEnclave) where
  complete taken size _ := by
    refine bytesMoved_of_prompt (Nat.zero_lt_succ 255) (fun index => ?_) size
    rw [Stream'.get_drop]
    exact patient.prompt _
  memory := patient.memory

theorem Enclave.persistent?_setIv {tee : Enclave lib} {index : Nat} {handle : StoredObject lib}
    (found : tee.persistent? (some index) = some handle) (iv : Block) :
    (tee.setObject (some index) { handle with persistIv := iv }).persistent? (some index) =
      some { handle with persistIv := iv } := by
  obtain ⟨position, position_eq, entry, persistent⟩ := persistent?_eq_some.mp found
  obtain rfl := Option.some.inj position_eq
  have inside := (List.getElem?_eq_some_iff.mp entry).1
  exact persistent?_eq_some.mpr ⟨index, rfl, by simp [setObject, inside], persistent⟩

namespace Session

variable {aes : BlockCipher Bytes Block} (laws : lib.CbcLaws aes) (platform : Platform)
  {tee : Enclave lib} {index : Nat} {file : OpenFile} {key stored buffer : Bytes} {chain : Block}
  {direction : Direction}

/-- Opening an object starts a session at the beginning of its file. -/
theorem of_opens {platform : Platform} {before opened : Enclave lib} {call : StorageCall}
    {id : Bytes} {flags : UInt32} {index : Nat} (opens : call.Opens id flags)
    (success : platform.step (some before) call = (.opened .success (some index), some opened)) :
    Session (platform.keys.key id) (accessDirection flags) opened index
        { path := cString id, offset := 0
          readable := !hasFlag flags teeDataFlagAccessWrite
          writable := hasFlag flags teeDataFlagAccessWrite }
        (platform.keys.iv id)
        (if hasFlag flags teeDataFlagOverwrite then [] else before.host.content (cString id)) ∧
      opened.host.transfers = before.host.transfers.drop 0 ∧
      opened.mallocs = before.mallocs.drop 2 := by
  obtain ⟨ocreat, _, granted, run⟩ := platform.opens_success opens success
  obtain ⟨index_eq, opened_eq⟩ := run
  obtain ⟨file_eq, trunc_eq⟩ :=
    OpenFile.start_openFlags (Host.openPath_granted granted).1 (cString id)
  subst index_eq opened_eq
  have direction_eq := accessDirection_newHandle lib flags
    (before.host.openPath (cString id) (openFlags flags ocreat)).1
  have persistent := newHandle_persistent lib flags
    (before.host.openPath (cString id) (openFlags flags ocreat)).1
  refine ⟨⟨⟨_, Enclave.persistent?_eq_some.mpr ⟨_, rfl, List.getElem?_concat_length, persistent⟩,
    ⟨lib.aesZero, ?_⟩, rfl, ?_⟩, ?_⟩, Host.transfers_openPath _ _ _, rfl⟩
  · rw [← direction_eq]
    rfl
  · rw [← file_eq]
    exact Host.openFile?_openPath_self granted
  · rw [← trunc_eq]
    exact Host.content_openPath_self granted

/-- Closing a handle in session succeeds and leaves the files. -/
theorem close (session : Session key direction tee index file chain stored) :
    ∃ after,
      platform.step (some tee) (.close (some index)) = (.closed (.returned ()), some after) ∧
      after.host.files = tee.host.files ∧ after.host.transfers = tee.host.transfers.drop 0 ∧
      after.mallocs = tee.mallocs.drop 0 := by
  obtain ⟨⟨handle, found, _, _, opened⟩, _⟩ := session
  refine ⟨{ tee.setObject (some index) { handle with
      persistCtx := lib.aesFree handle.persistCtx } with
    host := { tee.host with descriptors := tee.host.descriptors.set handle.desc.toNat none } },
    ?_, rfl, rfl, rfl⟩
  simp only [Platform.step, teeCloseObject, found, Enclave.setObject, Host.close_of_some opened,
    Platform.survive]
  rfl

include laws

/-- A completed write stores its ciphertext at the position of the handle. -/
theorem writeAt (session : Session key .encrypt tee index file chain stored)
    (writable : file.writable = true) (aligned : Aligned buffer) (buffer_pos : 0 < buffer.length)
    (buffer_lt : buffer.length < 2 ^ 31) (allocated : tee.mallocs.head ≠ none) {amount : Nat}
    (accepted : tee.host.transfers.head = .move amount)
    (complete : platform.Completes tee.host.transfers buffer.length) :
    ∃ after taken,
      platform.step (some tee) (.write (some index) buffer) =
        (.written (.returned .success), some after) ∧
      Session key .encrypt after index { file with offset := file.offset + buffer.length }
        (Cbc.chainAfter aes key .encrypt chain (toBlocks buffer))
        (overwrite stored file.offset
          (joinBlocks (Cbc.crypt aes key .encrypt chain (toBlocks buffer)))) ∧
      after.host.transfers = tee.host.transfers.drop taken ∧
      after.mallocs = tee.mallocs.drop 1 := by
  obtain ⟨⟨handle, found, ⟨context, keyed⟩, rfl, opened⟩, content⟩ := session
  obtain ⟨residue, residue_eq⟩ := Option.ne_none_iff_exists'.mp allocated
  obtain ⟨taken, run⟩ :=
    writeObjectData_spec laws platform found keyed residue_eq aligned buffer_pos buffer_lt opened
      writable
  rw [complete] at run
  set cipher := joinBlocks (Cbc.crypt aes key .encrypt handle.persistIv (toBlocks buffer))
    with cipher_eq
  have cipher_length : cipher.length = buffer.length := Cbc.length_joinBlocks_crypt _ _ _ _ aligned
  have cipher_ne : cipher ≠ [] := List.ne_nil_of_length_pos (by omega)
  have opened_now : (tee.host.skip taken).openFile? handle.desc = some file := by
    rwa [Host.openFile?_skip]
  rw [← cipher_length, List.take_length] at run
  refine ⟨tee.chained (some index) handle
      (Cbc.chainAfter aes key .encrypt handle.persistIv (toBlocks buffer))
      ((tee.host.skip taken).deliver handle.desc cipher),
    taken, by simp only [Platform.step, run, accepted]; rfl,
    ⟨⟨_, Enclave.persistent?_setIv found _, ⟨context, keyed⟩, rfl, ?_⟩, ?_⟩, ?_, rfl⟩
  · rw [← cipher_length]
    exact Host.openFile?_deliver_self opened_now cipher
  · have received := Host.content_deliver_self opened_now cipher_ne
    rw [Host.content_skip, content] at received
    exact received
  · exact Host.transfers_deliver _ _ _

/-- A write of nothing stores nothing. -/
theorem writeNothing (session : Session key .encrypt tee index file chain stored)
    (writable : file.writable = true) (allocated : tee.mallocs.head ≠ none) {amount : Nat}
    (accepted : tee.host.transfers.head = .move amount) :
    ∃ after taken,
      platform.step (some tee) (.write (some index) []) =
        (.written (.returned .success), some after) ∧
      Session key .encrypt after index file chain stored ∧
      after.host.transfers = tee.host.transfers.drop taken ∧
      after.mallocs = tee.mallocs.drop 1 := by
  obtain ⟨⟨handle, found, ⟨context, keyed⟩, rfl, opened⟩, content⟩ := session
  obtain ⟨residue, residue_eq⟩ := Option.ne_none_iff_exists'.mp allocated
  obtain ⟨taken, run⟩ := writeObjectData_nil laws platform found residue_eq opened writable accepted
  refine ⟨tee.chained (some index) handle handle.persistIv (tee.host.skip taken), taken, ?_,
    ⟨⟨_, Enclave.persistent?_setIv found _, ⟨context, keyed⟩, rfl, ?_⟩, ?_⟩, rfl, rfl⟩
  · simp only [Platform.step, run]
    rfl
  · rwa [Enclave.chained, Host.openFile?_skip]
  · rwa [Enclave.chained, Host.content_skip]

/-- A completed write at the end of the file appends its ciphertext. -/
theorem write (session : Session key .encrypt tee index file chain stored)
    (writable : file.writable = true) (at_end : file.offset = stored.length)
    (aligned : Aligned buffer) (buffer_pos : 0 < buffer.length)
    (buffer_lt : buffer.length < 2 ^ 31) (allocated : tee.mallocs.head ≠ none) {amount : Nat}
    (accepted : tee.host.transfers.head = .move amount)
    (complete : platform.Completes tee.host.transfers buffer.length) :
    ∃ after taken,
      platform.step (some tee) (.write (some index) buffer) =
        (.written (.returned .success), some after) ∧
      Session key .encrypt after index { file with offset := file.offset + buffer.length }
        (Cbc.chainAfter aes key .encrypt chain (toBlocks buffer))
        (stored ++ joinBlocks (Cbc.crypt aes key .encrypt chain (toBlocks buffer))) ∧
      after.host.transfers = tee.host.transfers.drop taken ∧
      after.mallocs = tee.mallocs.drop 1 := by
  have written := session.writeAt laws platform writable aligned buffer_pos buffer_lt allocated
    accepted complete
  rwa [at_end, overwrite_length, ← at_end] at written

/-- A read for which the host moves whole blocks returns the decryption of those bytes. -/
theorem read (buffer : Bytes) (session : Session key .decrypt tee index file chain stored)
    (readable : file.readable = true) {size : Nat} (whole : 16 ∣ size) (size_lt : size < 2 ^ 31)
    (allocated : tee.mallocs.head ≠ none) {amount : Nat}
    (accepted : tee.host.transfers.head = .move amount) {bytes : Bytes}
    (bytes_eq : (stored.drop file.offset).take (platform.moved tee.host.transfers
      (min size (stored.drop file.offset).length)) = bytes) (aligned : Aligned bytes) :
    ∃ after call taken mallocs,
      platform.step (some tee) (.read (some index) buffer size) = (.read call, some after) ∧
      call.exit = .returned .success ∧ call.count = some bytes.length ∧
      call.buffer.take bytes.length =
        joinBlocks (Cbc.crypt aes key .decrypt chain (toBlocks bytes)) ∧
      Session key .decrypt after index { file with offset := file.offset + bytes.length }
        (Cbc.chainAfter aes key .decrypt chain (toBlocks bytes)) stored ∧
      after.host.transfers = tee.host.transfers.drop taken ∧
      after.mallocs = tee.mallocs.drop mallocs := by
  obtain ⟨⟨handle, found, ⟨context, keyed⟩, rfl, opened⟩, content⟩ := session
  obtain ⟨residue, residue_eq⟩ := Option.ne_none_iff_exists'.mp allocated
  have left_eq : tee.host.remaining file = stored.drop file.offset := by
    rw [Host.remaining, content]
  rw [← left_eq] at bytes_eq
  obtain ⟨taken, call, run, exit_eq, count_eq, plain_eq⟩ :=
    readObjectData_spec laws platform buffer found keyed residue_eq whole size_lt opened readable
      accepted bytes_eq aligned
  have opened_now : (tee.host.skip taken).openFile? handle.desc = some file := by
    rwa [Host.openFile?_skip]
  refine ⟨tee.afterRead (some index) handle
      (Cbc.chainAfter aes key .decrypt handle.persistIv (toBlocks bytes))
      ((tee.host.skip taken).advance handle.desc bytes.length) bytes,
    call, taken, if bytes = [] then 0 else 1,
    by simp only [Platform.step, run, exit_eq]; rfl, exit_eq, count_eq, plain_eq,
    ⟨⟨_, Enclave.persistent?_setIv found _, ⟨context, keyed⟩, rfl, ?_⟩, ?_⟩, ?_, ?_⟩
  · exact Host.openFile?_advance_self opened_now _
  · simpa [Enclave.afterRead, Host.content, Host.skip] using content
  · exact Host.transfers_advance _ _ _
  · simp only [Enclave.afterRead]
    split <;> rfl

end Session
end TaRef
