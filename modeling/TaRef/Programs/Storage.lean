import TaRef.Programs.Process
import TaRef.Storage.Isolation
import TaRef.Storage.ReadOnlyOpen
import TaRef.Storage.RoundTrip

/-!
# Programs that store and load

The storage calls of a program, and what they do on a host and a device that grant whatever the
program asks for.  A program holds a writing handle with the plaintext that it has stored, or a
reading handle with a position in the plaintext that is stored.
-/

namespace TaRef

variable {lib : Mbedtls} {τ : Type}

/-! ## Calls -/

namespace Program

variable (platform : Platform)

/-- `TEE_CreatePersistentObject` with `TEE_DATA_FLAG_ACCESS_WRITE | TEE_DATA_FLAG_OVERWRITE`. -/
def createPersistentObject (objectID : Bytes) :
    Program (Enclave lib × τ) (TeeResult × Option Nat) :=
  call fun (tee, rest) =>
    let (opening, tee) := teeCreatePersistentObject platform.keys tee (some objectID)
      (teeDataFlagAccessWrite ||| teeDataFlagOverwrite)
    (.returned opening, tee, rest)

/-- `TEE_OpenPersistentObject` with `TEE_DATA_FLAG_ACCESS_READ`. -/
def openPersistentObject (objectID : Bytes) :
    Program (Enclave lib × τ) (TeeResult × Option Nat) :=
  call fun (tee, rest) =>
    let (opening, tee) := teeOpenPersistentObject platform.keys tee (some objectID)
      teeDataFlagAccessRead
    (.returned opening, tee, rest)

/-- `TEE_WriteObjectData`. -/
def writeObjectData (object : Nat) (buffer : Bytes) : Program (Enclave lib × τ) TeeResult :=
  call fun (tee, rest) =>
    let (exit, tee) := platform.writeObjectData tee (some object) buffer
    (exit, tee, rest)

/-- `TEE_ReadObjectData`: its result, the buffer after it and what it stored in `*count`. -/
def readObjectData (object : Nat) (buffer : Bytes) (size : Nat) :
    Program (Enclave lib × τ) (TeeResult × Bytes × Option Nat) :=
  call fun (tee, rest) =>
    let (read, tee) := platform.readObjectData tee (some object) buffer size
    (read.exit.map fun result => (result, read.buffer, read.count), tee, rest)

/-- `TEE_CloseObject`. -/
def closeObject (object : Nat) : Program (Enclave lib × τ) Unit :=
  call fun (tee, rest) =>
    let (exit, tee) := teeCloseObject tee (some object)
    (exit, tee, rest)

end Program

/-! ## What the host grants -/

/-- The host and the device grant whatever is asked for. -/
structure Enclave.Obliging (platform : Platform) (tee : Enclave lib) : Prop where
  steady : tee.Steady platform
  opens : tee.host.opens.All (· = true)
  derives : tee.derives.All (· = true)

namespace Enclave.Obliging

variable {platform : Platform} {tee after : Enclave lib}

theorem later (obliging : tee.Obliging platform) {transfers mallocs opens derives : Nat}
    (transfers_eq : after.host.transfers = tee.host.transfers.drop transfers)
    (mallocs_eq : after.mallocs = tee.mallocs.drop mallocs)
    (opens_eq : after.host.opens = tee.host.opens.drop opens)
    (derives_eq : after.derives = tee.derives.drop derives) : after.Obliging platform where
  steady := obliging.steady.later transfers_eq mallocs_eq
  opens index := by
    rw [opens_eq, Stream'.get_drop]
    exact obliging.opens _
  derives index := by
    rw [derives_eq, Stream'.get_drop]
    exact obliging.derives _

/-- Opening succeeds where the file is there or is created. -/
theorem opening (obliging : tee.Obliging platform) {id : Bytes} {flags : UInt32} {ocreat : Bool}
    (short : id.length ≤ teeObjectIdMaxLen)
    (one_way : (hasFlag flags teeDataFlagAccessRead && hasFlag flags teeDataFlagAccessWrite) =
      false)
    (mode : openFlags flags ocreat &&& 3 ≠ 3)
    (present : hasFlag (openFlags flags ocreat) oCreat = true ∨
      (tee.host.files (cString id)).isSome = true) :
    ∃ opened, TaRef.openPersistentObject platform.keys tee (some id) flags ocreat =
        ((.success, some tee.objects.length), opened) ∧
      opened.Obliging platform ∧
      opened.host.files = Function.update tee.host.files (cString id)
        (some (if hasFlag (openFlags flags ocreat) oTrunc then [] else
          tee.host.content (cString id))) := by
  have granted : 0 ≤ (tee.host.openPath (cString id) (openFlags flags ocreat)).1 :=
    (Host.openPath_granted_iff _ _ _).mpr ⟨mode, obliging.opens 0, present⟩
  refine ⟨_, openPersistentObject_granted platform.keys (obliging.steady.memory 0)
    (obliging.steady.memory 1) (obliging.derives 0) short one_way granted, ?_, ?_⟩
  · refine @later lib platform tee _ obliging 0 2 1 1 (Host.transfers_openPath _ _ _) rfl ?_ rfl
    rw [(Host.openPath_granted granted).2.2.2]
    rfl
  · rw [(Host.openPath_granted granted).2.2.2]

end Enclave.Obliging

/-! ## What calls leave of the host's grants -/

section Grants

variable {host : Host} {fd : Int}

theorem Host.opens_write (chunk : Bytes) : (host.write fd chunk).2.opens = host.opens := by
  unfold Host.write
  split
  · rfl
  · split_ifs
    · split
      · rfl
      · exact Host.opens_deliver _ _ _
    · rfl

theorem Host.opens_read (count : Nat) : (host.read fd count).2.opens = host.opens := by
  unfold Host.read
  split
  · rfl
  · split_ifs
    · split
      · rfl
      · exact Host.opens_advance _ _ _
    · rfl

theorem Platform.opens_ocallWrite (platform : Platform) {data : Bytes} {size : Nat}
    {result : Int × Host} (ended : platform.ocallWrite host fd data size = some result) :
    result.2.opens = host.opens := by
  cases platform with
  | keystone attestEnclave =>
      exact transferLoop_keeps (fun state => state.opens = host.opens)
        (fun _ _ _ same => (Host.opens_write _).trans same) rfl ended
  | sgx reportKey sealKey sha3 =>
      obtain rfl := Option.some.inj ended
      exact Host.opens_write data

/-- A write takes nothing of what the host opens and the device derives. -/
theorem Platform.grants_writeObjectData (platform : Platform) (tee : Enclave lib)
    (object : Option Nat) (buffer : Bytes) :
    (platform.writeObjectData tee object buffer).2.host.opens = tee.host.opens ∧
      (platform.writeObjectData tee object buffer).2.derives = tee.derives := by
  rw [Platform.writeObjectData_eq]
  cases tee.persistent? object with
  | none => exact ⟨rfl, rfl⟩
  | some handle =>
      dsimp only
      split
      · exact ⟨rfl, rfl⟩
      · cases tee.mallocs.head with
        | none => exact ⟨rfl, rfl⟩
        | some residue =>
            dsimp only [Platform.send, Enclave.setObject]
            split
            · exact ⟨rfl, rfl⟩
            · rename_i ended
              exact ⟨platform.opens_ocallWrite ended, rfl⟩

theorem derives_decryptInto (tee : Enclave lib) (object : Option Nat) (handle : StoredObject lib)
    (buffer : Bytes) (size : Nat) :
    (decryptInto tee object handle buffer size).2.derives = tee.derives := by
  unfold decryptInto Enclave.malloc
  cases tee.mallocs.head <;> rfl

/-- A read takes nothing of what the host opens and the device derives. -/
theorem Platform.grants_readObjectData (platform : Platform) (tee : Enclave lib)
    (object : Option Nat) (buffer : Bytes) (size : Nat) :
    (platform.readObjectData tee object buffer size).2.host.opens = tee.host.opens ∧
      (platform.readObjectData tee object buffer size).2.derives = tee.derives := by
  constructor
  · exact @readObjectData_keeps lib platform (fun after => after.opens = tee.host.opens)
      (fun _ _ count same => (Host.opens_read count).trans same) tee rfl object buffer size
  · rw [Platform.readObjectData_eq]
    cases tee.persistent? object with
    | none => rfl
    | some handle =>
        dsimp only
        split
        · rfl
        · unfold Platform.receive
          split
          · rfl
          · split_ifs
            · rfl
            · rfl
            · rfl
            · exact derives_decryptInto _ _ _ _ _

/-- Closing takes nothing of what the host opens and the device derives. -/
theorem grants_teeCloseObject (tee : Enclave lib) (object : Option Nat) :
    (teeCloseObject tee object).2.host.opens = tee.host.opens ∧
      (teeCloseObject tee object).2.derives = tee.derives := by
  unfold teeCloseObject
  cases tee.persistent? object with
  | none => exact ⟨rfl, rfl⟩
  | some handle =>
      have opens_eq : (tee.host.close handle.desc).2.opens = tee.host.opens := by
        unfold Host.close
        split <;> rfl
      dsimp only [Enclave.setObject]
      split
      · exact ⟨opens_eq, rfl⟩
      · exact ⟨opens_eq, rfl⟩

end Grants

/-! ## Handles -/

section Handles

variable {aes : BlockCipher Bytes Block} {platform : Platform} {tee : Enclave lib} {index : Nat}
  {id plain : Bytes}

/-- What a file holds when some bytes were stored for an identifier. -/
def Platform.ciphertext (platform : Platform) (aes : BlockCipher Bytes Block) (id plain : Bytes) :
    Bytes :=
  joinBlocks (Cbc.crypt aes (platform.keys.key id) .encrypt (platform.keys.iv id) (toBlocks plain))

/-- What a read of some bytes of a file delivers: a part of a block is delivered as it is. -/
def Platform.delivered (platform : Platform) (aes : BlockCipher Bytes Block) (id stored : Bytes) :
    Bytes :=
  if 16 ∣ stored.length then
    joinBlocks (Cbc.crypt aes (platform.keys.key id) .decrypt (platform.keys.iv id)
      (toBlocks stored))
  else stored

theorem Platform.length_delivered (platform : Platform) (aes : BlockCipher Bytes Block)
    (id stored : Bytes) : (platform.delivered aes id stored).length = stored.length := by
  rw [delivered]
  split_ifs with aligned
  · exact Cbc.length_joinBlocks_crypt _ _ _ _ aligned
  · rfl

/-- What was stored is delivered. -/
theorem Platform.delivered_ciphertext (platform : Platform) (aes : BlockCipher Bytes Block)
    (id : Bytes) {plain : Bytes} (aligned : Aligned plain) :
    platform.delivered aes id (platform.ciphertext aes id plain) = plain := by
  have whole : 16 ∣ (platform.ciphertext aes id plain).length := aligned_joinBlocks _
  rw [delivered, if_pos whole, ciphertext, toBlocks_joinBlocks, Cbc.decrypt_encrypt,
    joinBlocks_toBlocks aligned]

/-- The file of an identifier holds some bytes. -/
structure Enclave.Stores (tee : Enclave lib) (platform : Platform) (aes : BlockCipher Bytes Block)
    (id plain : Bytes) : Prop where
  present : (tee.host.files (cString id)).isSome = true
  content : tee.host.content (cString id) = platform.ciphertext aes id plain
  aligned : Aligned plain

/-- What is stored stays while the files do. -/
theorem Enclave.Stores.keep (stores : tee.Stores platform aes id plain) {after : Enclave lib}
    (files_eq : after.host.files = tee.host.files) : after.Stores platform aes id plain where
  present := files_eq ▸ stores.present
  content := by
    rw [Host.content, files_eq]
    exact stores.content
  aligned := stores.aligned

/-- A handle at the end of the bytes that a program has stored. -/
structure Enclave.Writing (tee : Enclave lib) (platform : Platform) (aes : BlockCipher Bytes Block)
    (index : Nat) (id plain : Bytes) : Prop where
  session : Session (platform.keys.key id) .encrypt tee index
    { path := cString id, offset := plain.length, readable := false, writable := true }
    (Cbc.chainAfter aes (platform.keys.key id) .encrypt (platform.keys.iv id) (toBlocks plain))
    (platform.ciphertext aes id plain)
  present : (tee.host.files (cString id)).isSome = true
  aligned : Aligned plain

/-- What was written through a handle is stored. -/
theorem Enclave.Writing.stores (writing : tee.Writing platform aes index id plain)
    {after : Enclave lib} (files_eq : after.host.files = tee.host.files) :
    after.Stores platform aes id plain where
  present := files_eq ▸ writing.present
  content := by
    rw [Host.content, files_eq]
    exact writing.session.content
  aligned := writing.aligned

/-- A handle that was opened on what is stored reads it from the start. -/
theorem Enclave.Stores.reading (stores : tee.Stores platform aes id plain) {opened : Enclave lib}
    (session : Session (platform.keys.key id) .decrypt opened index
      { path := cString id, offset := 0, readable := true, writable := false }
      (platform.keys.iv id) (tee.host.content (cString id))) :
    Reading opened index (cString id) aes (platform.keys.key id) (platform.keys.iv id)
      (toBlocks plain) 0 := by
  rw [stores.content] at session
  exact session

/-- The flags of an object that is created. -/
theorem create_flags :
    (hasFlag (teeDataFlagAccessWrite ||| teeDataFlagOverwrite) teeDataFlagAccessRead &&
        hasFlag (teeDataFlagAccessWrite ||| teeDataFlagOverwrite) teeDataFlagAccessWrite) = false ∧
      openFlags (teeDataFlagAccessWrite ||| teeDataFlagOverwrite) true &&& 3 ≠ 3 ∧
      hasFlag (openFlags (teeDataFlagAccessWrite ||| teeDataFlagOverwrite) true) oCreat = true := by
  decide

namespace Program

/-- A program that creates an object can write it. -/
theorem returns_create (aes : BlockCipher Bytes Block) (obliging : tee.Obliging platform)
    (short : id.length ≤ teeObjectIdMaxLen) (rest : τ) (printed : Bytes) :
    ∃ index opened,
      (createPersistentObject platform id).Returns ⟨(tee, rest), printed⟩ (.success, some index)
          ⟨(opened, rest), printed⟩ ∧
        opened.Obliging platform ∧ opened.Writing platform aes index id [] := by
  obtain ⟨one_way, mode, creates⟩ := create_flags
  obtain ⟨opened, opening, obliging', files_eq⟩ :=
    obliging.opening short one_way mode (.inl creates)
  refine ⟨tee.objects.length, opened, ?_, obliging', ?_⟩
  · apply returns_call
    simp only [teeCreatePersistentObject, opening]
  · have step_eq : platform.step (some tee) (.create (some id)
        (teeDataFlagAccessWrite ||| teeDataFlagOverwrite)) =
        (.opened .success (some tee.objects.length), some opened) := by
      rw [Platform.step_create, teeCreatePersistentObject, opening]
    obtain ⟨session, -, -⟩ := Session.of_opens (.inl rfl) step_eq
    have present : (opened.host.files (cString id)).isSome = true := by
      rw [files_eq, Function.update_self]
      rfl
    exact ⟨session, present, Nat.dvd_zero 16⟩

/-- A program that opens an object reads it from the start. -/
theorem returns_open (obliging : tee.Obliging platform) (short : id.length ≤ teeObjectIdMaxLen)
    (present : (tee.host.files (cString id)).isSome = true) (rest : τ) (printed : Bytes) :
    ∃ index opened,
      (openPersistentObject platform id).Returns ⟨(tee, rest), printed⟩ (.success, some index)
          ⟨(opened, rest), printed⟩ ∧
        opened.Obliging platform ∧ opened.host.files = tee.host.files ∧
        Session (platform.keys.key id) .decrypt opened index
          { path := cString id, offset := 0, readable := true, writable := false }
          (platform.keys.iv id) (tee.host.content (cString id)) := by
  obtain ⟨opened, opening, obliging', files_eq⟩ :=
    @Enclave.Obliging.opening lib platform tee obliging id teeDataFlagAccessRead false short
      (by decide) (by decide) (.inr present)
  have kept : some (tee.host.content (cString id)) = tee.host.files (cString id) := by
    obtain ⟨bytes, bytes_eq⟩ := Option.isSome_iff_exists.mp present
    rw [Host.content, bytes_eq, Option.getD_some]
  rw [if_neg (by decide), kept, Function.update_eq_self] at files_eq
  refine ⟨tee.objects.length, opened, ?_, obliging', files_eq, ?_⟩
  · apply returns_call
    simp only [teeOpenPersistentObject, opening]
  · have step_eq : platform.step (some tee) (.open (some id) teeDataFlagAccessRead) =
        (.opened .success (some tee.objects.length), some opened) := by
      rw [Platform.step_open, teeOpenPersistentObject, opening]
    exact (Session.of_opens (.inr rfl) step_eq).1

/-- A program that opens an object that is not there gets no handle. -/
theorem returns_open_missing (missing : tee.host.files (cString id) = none) (rest : τ)
    (printed : Bytes) :
    ∃ result after,
      (openPersistentObject platform id).Returns ⟨(tee, rest), printed⟩ (result, none)
        ⟨(after, rest), printed⟩ := by
  rcases openPersistentObject_cases platform.keys tee (some id) teeDataFlagAccessRead false with
    ⟨result, _, refused, _⟩ | ⟨id', id_eq, _, _, granted, _⟩
  · rcases opening : TaRef.openPersistentObject platform.keys tee (some id) teeDataFlagAccessRead
      false with ⟨outcome, after⟩
    rw [opening] at refused
    obtain rfl := refused
    refine ⟨result, after, returns_call ?_⟩
    simp only [teeOpenPersistentObject, opening]
  · obtain rfl := Option.some.inj id_eq
    obtain ⟨_, _, creates | present⟩ := (Host.openPath_granted_iff _ _ _).mp granted
    · exact absurd creates (by decide)
    · rw [missing] at present
      exact absurd present (by decide)

variable {key stored : Bytes} {direction : Direction} {file : OpenFile} {chain : Block}

/-- A program that closes a handle leaves the files. -/
theorem returns_close (obliging : tee.Obliging platform)
    (session : Session key direction tee index file chain stored) (rest : τ) (printed : Bytes) :
    ∃ after,
      (closeObject index).Returns ⟨(tee, rest), printed⟩ () ⟨(after, rest), printed⟩ ∧
        after.Obliging platform ∧ after.host.files = tee.host.files := by
  obtain ⟨after, step_eq, files_eq, transfers_eq, mallocs_eq⟩ := session.close platform
  rcases closed : teeCloseObject tee (some index) with ⟨exit, tee'⟩
  simp only [Platform.step, closed, Prod.mk.injEq, StorageOutput.closed.injEq] at step_eq
  obtain ⟨rfl, survived⟩ := step_eq
  obtain rfl := Platform.survive_eq_some survived
  have grants := grants_teeCloseObject tee (some index)
  rw [closed] at grants
  refine ⟨tee', ?_, ?_, files_eq⟩
  · apply returns_call
    simp only [closed]
  · exact @Enclave.Obliging.later lib platform tee tee' obliging 0 0 0 0 transfers_eq mallocs_eq
      grants.1 grants.2

/-- On a platform that counts blocks, a program that reads a part of a block gets the bytes of the
file as they are. -/
theorem returns_readPart (counts : platform.CountsBlocks) (obliging : tee.Obliging platform)
    (session : Session key direction tee index file chain stored)
    (readable : file.readable = true) {size : Nat} (whole : 16 ∣ size) (size_lt : size < 2 ^ 31)
    (part : ¬ Aligned ((stored.drop file.offset).take size)) (buffer : Bytes) (rest : τ)
    (printed : Bytes) :
    ∃ after buffer',
      (readObjectData platform index buffer size).Returns ⟨(tee, rest), printed⟩
          (.errorGeneric, buffer', some ((stored.drop file.offset).take size).length)
          ⟨(after, rest), printed⟩ ∧
        after.Obliging platform ∧ after.host.files = tee.host.files ∧
        buffer'.take ((stored.drop file.offset).take size).length =
          (stored.drop file.offset).take size ∧
        Session key direction after index
          { file with offset := file.offset + ((stored.drop file.offset).take size).length }
          chain stored := by
  obtain ⟨amount, accepted⟩ := obliging.steady.head
  obtain ⟨⟨handle, found, keyed, chain_eq, opened⟩, content⟩ := session
  have left_eq : tee.host.remaining file = stored.drop file.offset := by
    rw [Host.remaining, content]
  have complete : platform.moved tee.host.transfers
      (min size (stored.drop file.offset).length) = min size (stored.drop file.offset).length :=
    obliging.steady.complete 0 _ (by omega)
  have bytes_eq : (tee.host.remaining file).take (platform.moved tee.host.transfers
      (min size (tee.host.remaining file).length)) = (stored.drop file.offset).take size := by
    rw [left_eq, complete, List.take_eq_take_iff]
    omega
  have small : ((stored.drop file.offset).take size).length < 2 ^ 31 := by
    rw [List.length_take]
    omega
  obtain ⟨taken, more, run⟩ := ocallRead_delivers platform buffer (by omega) opened readable
    (platform.not_refuses accepted size) bytes_eq small
  generalize bytes_def : (stored.drop file.offset).take size = bytes at *
  have size_mod : ¬ size % 16 ≠ 0 := not_not.mpr (Nat.mod_eq_zero_of_dvd whole)
  have counted : ¬ (bytes.length : Int) < 0 := by omega
  have rejects : platform.CountsBlocks ∧ bytes.length % 16 ≠ 0 :=
    ⟨counts, fun zero => part (Nat.dvd_of_mod_eq_zero zero)⟩
  let after := { tee with host := (tee.host.skip taken).advance handle.desc bytes.length }
  have reads : platform.readObjectData tee (some index) buffer size =
      ({ exit := .returned .errorGeneric, buffer := bytes ++ more, count := some bytes.length },
        after) := by
    simp only [Platform.readObjectData_eq, found, if_neg size_mod, Platform.receive, run,
      if_neg counted, Int.toNat_natCast, if_pos rejects, after]
  refine ⟨after, bytes ++ more, ?_, ?_, ?_, List.take_left, ?_⟩
  · apply returns_call
    simp only [reads]
    rfl
  · refine @Enclave.Obliging.later lib platform tee _ obliging taken 0 0 0
      (Host.transfers_advance _ _ _) rfl ?_ rfl
    exact Host.opens_advance _ _ _
  · exact Host.files_advance _ _ _
  · have opened_now : (tee.host.skip taken).openFile? handle.desc = some file := by
      rwa [Host.openFile?_skip]
    refine ⟨⟨handle, found, keyed, chain_eq, Host.openFile?_advance_self opened_now _⟩, ?_⟩
    rw [Host.content, Host.files_advance]
    exact content

variable (laws : lib.CbcLaws aes)

include laws

/-- A program that writes stores behind what it has stored. -/
theorem returns_write (obliging : tee.Obliging platform)
    (writing : tee.Writing platform aes index id plain) {buffer : Bytes} (aligned : Aligned buffer)
    (buffer_pos : 0 < buffer.length) (buffer_lt : buffer.length < 2 ^ 31) (rest : τ)
    (printed : Bytes) :
    ∃ after,
      (writeObjectData platform index buffer).Returns ⟨(tee, rest), printed⟩ .success
          ⟨(after, rest), printed⟩ ∧
        after.Obliging platform ∧ after.Writing platform aes index id (plain ++ buffer) := by
  obtain ⟨amount, accepted⟩ := obliging.steady.head
  have length_eq : plain.length = (platform.ciphertext aes id plain).length :=
    (Cbc.length_joinBlocks_crypt _ _ _ _ writing.aligned).symm
  obtain ⟨after, taken, step_eq, session, transfers_eq, mallocs_eq⟩ :=
    writing.session.write laws platform rfl length_eq aligned buffer_pos buffer_lt
      (obliging.steady.memory 0) accepted (obliging.steady.complete 0 _ buffer_lt)
  have grants := platform.grants_writeObjectData tee (some index) buffer
  rcases written : platform.writeObjectData tee (some index) buffer with ⟨exit, tee'⟩
  simp only [Platform.step, written, Prod.mk.injEq, StorageOutput.written.injEq] at step_eq
  obtain ⟨rfl, survived⟩ := step_eq
  obtain rfl := Platform.survive_eq_some survived
  rw [written] at grants
  have stored_eq : platform.ciphertext aes id plain ++ joinBlocks (Cbc.crypt aes
      (platform.keys.key id) .encrypt (Cbc.chainAfter aes (platform.keys.key id) .encrypt
        (platform.keys.iv id) (toBlocks plain)) (toBlocks buffer)) =
      platform.ciphertext aes id (plain ++ buffer) := by
    rw [Platform.ciphertext, Platform.ciphertext, toBlocks_append writing.aligned aligned,
      Cbc.crypt_append, joinBlocks_append]
  rw [stored_eq, ← Cbc.chainAfter_append, ← toBlocks_append writing.aligned aligned,
    ← List.length_append] at session
  refine ⟨tee', ?_, ?_, session, ?_, writing.aligned.append aligned⟩
  · apply returns_call
    simp only [written]
  · exact @Enclave.Obliging.later lib platform tee tee' obliging taken 1 0 0 transfers_eq
      mallocs_eq grants.1 grants.2
  · -- the file exists because something is in it
    have content := session.content
    by_contra missing
    rw [Host.content, Option.not_isSome_iff_eq_none.mp missing, Option.getD_none] at content
    have length := congrArg List.length content
    rw [Platform.ciphertext, Cbc.length_joinBlocks_crypt _ _ _ _ (writing.aligned.append aligned),
      List.length_append, List.length_nil] at length
    omega

/-- A program that reads gets the decryption of the next bytes of the file. -/
theorem returns_read (obliging : tee.Obliging platform)
    (session : Session key .decrypt tee index file chain stored) (readable : file.readable = true)
    {size : Nat} (whole : 16 ∣ size) (size_lt : size < 2 ^ 31)
    (aligned : Aligned ((stored.drop file.offset).take size)) (buffer : Bytes) (rest : τ)
    (printed : Bytes) :
    ∃ after buffer',
      (readObjectData platform index buffer size).Returns ⟨(tee, rest), printed⟩
          (.success, buffer', some ((stored.drop file.offset).take size).length)
          ⟨(after, rest), printed⟩ ∧
        after.Obliging platform ∧ after.host.files = tee.host.files ∧
        buffer'.take ((stored.drop file.offset).take size).length =
          joinBlocks (Cbc.crypt aes key .decrypt chain
            (toBlocks ((stored.drop file.offset).take size))) ∧
        Session key .decrypt after index
          { file with offset := file.offset + ((stored.drop file.offset).take size).length }
          (Cbc.chainAfter aes key .decrypt chain
            (toBlocks ((stored.drop file.offset).take size))) stored := by
  obtain ⟨amount, accepted⟩ := obliging.steady.head
  have complete : platform.moved tee.host.transfers
      (min size (stored.drop file.offset).length) = min size (stored.drop file.offset).length :=
    obliging.steady.complete 0 _ (by omega)
  have bytes_eq : (stored.drop file.offset).take (platform.moved tee.host.transfers
      (min size (stored.drop file.offset).length)) = (stored.drop file.offset).take size := by
    rw [complete, List.take_eq_take_iff]
    omega
  obtain ⟨after, read, taken, mallocs, step_eq, exit_eq, count_eq, plain_eq, next, transfers_eq,
    mallocs_eq⟩ := session.read laws platform buffer readable whole size_lt
      (obliging.steady.memory 0) accepted bytes_eq aligned
  have grants := platform.grants_readObjectData tee (some index) buffer size
  have files_eq := @readObjectData_keeps lib platform (fun host => host.files = tee.host.files)
    (fun host fd count same => (Host.files_read host fd count).trans same) tee rfl (some index)
    buffer size
  rcases given : platform.readObjectData tee (some index) buffer size with ⟨read', tee'⟩
  simp only [Platform.step, given, Prod.mk.injEq, StorageOutput.read.injEq] at step_eq
  obtain ⟨rfl, survived⟩ := step_eq
  obtain rfl := Platform.survive_eq_some survived
  rw [given] at grants files_eq
  refine ⟨tee', read'.buffer, ?_, ?_, files_eq, plain_eq, next⟩
  · apply returns_call
    simp only [given, exit_eq, count_eq]
    rfl
  · exact @Enclave.Obliging.later lib platform tee tee' obliging taken mallocs 0 0 transfers_eq
      mallocs_eq grants.1 grants.2

/-- On a platform that counts blocks, a program that reads a file from its start gets what is
delivered of it. -/
theorem returns_readWhole (counts : platform.CountsBlocks) (obliging : tee.Obliging platform)
    (session : Session (platform.keys.key id) .decrypt tee index
      { path := cString id, offset := 0, readable := true, writable := false }
      (platform.keys.iv id) stored) {size : Nat} (whole : 16 ∣ size) (size_lt : size < 2 ^ 31)
    (buffer : Bytes) (rest : τ) (printed : Bytes) :
    ∃ after result buffer' file chain,
      (readObjectData platform index buffer size).Returns ⟨(tee, rest), printed⟩
          (result, buffer', some (stored.take size).length) ⟨(after, rest), printed⟩ ∧
        after.Obliging platform ∧ after.host.files = tee.host.files ∧
        buffer'.take (stored.take size).length =
          platform.delivered aes id (stored.take size) ∧
        Session (platform.keys.key id) .decrypt after index file chain stored := by
  by_cases aligned : Aligned (stored.take size)
  · obtain ⟨after, buffer', reads, obliging, files_eq, plain_eq, session⟩ :=
      returns_read laws obliging session rfl whole size_lt aligned buffer rest printed
    refine ⟨after, .success, buffer', _, _, reads, obliging, files_eq, ?_, session⟩
    exact plain_eq.trans (if_pos aligned).symm
  · obtain ⟨after, buffer', reads, obliging, files_eq, raw_eq, session⟩ :=
      returns_readPart counts obliging session rfl whole size_lt aligned buffer rest printed
    refine ⟨after, .errorGeneric, buffer', _, _, reads, obliging, files_eq, ?_, session⟩
    exact raw_eq.trans (if_neg aligned).symm

/-- A program that reads bytes that were stored gets them back. -/
theorem returns_readStored {path : Bytes} {blocks : List Block} {nonce : Block}
    {position size : Nat} (obliging : tee.Obliging platform)
    (reading : Reading tee index path aes key nonce blocks position) (whole : 16 ∣ size)
    (size_lt : size < 2 ^ 31) (buffer : Bytes) (rest : τ) (printed : Bytes) :
    ∃ after buffer',
      (readObjectData platform index buffer size).Returns ⟨(tee, rest), printed⟩
          (.success, buffer', some (16 * ((blocks.drop position).take (size / 16)).length))
          ⟨(after, rest), printed⟩ ∧
        after.Obliging platform ∧ after.host.files = tee.host.files ∧
        buffer'.take (16 * ((blocks.drop position).take (size / 16)).length) =
          joinBlocks ((blocks.drop position).take (size / 16)) ∧
        Reading after index path aes key nonce blocks
          (position + ((blocks.drop position).take (size / 16)).length) := by
  obtain ⟨after, output, step_eq, ⟨read, rfl, exit_eq, count_eq, plain_eq⟩, steady, next⟩ :=
    reading.read laws platform buffer obliging.steady whole size_lt
  have grants := platform.grants_readObjectData tee (some index) buffer size
  have files_eq := @readObjectData_keeps lib platform (fun host => host.files = tee.host.files)
    (fun host fd count same => (Host.files_read host fd count).trans same) tee rfl (some index)
    buffer size
  rcases given : platform.readObjectData tee (some index) buffer size with ⟨read', tee'⟩
  simp only [Platform.step, given, Prod.mk.injEq, StorageOutput.read.injEq] at step_eq
  obtain ⟨rfl, survived⟩ := step_eq
  obtain rfl := Platform.survive_eq_some survived
  rw [given] at grants files_eq
  refine ⟨tee', read'.buffer, ?_, ⟨steady, ?_, ?_⟩, files_eq, plain_eq, next⟩
  · apply returns_call
    simp only [given, exit_eq, count_eq]
    rfl
  · rw [grants.1]
    exact obliging.opens
  · rw [grants.2]
    exact obliging.derives

end Program

end Handles
end TaRef
