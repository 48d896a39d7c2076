import TaRef.Operation.DigestSession
import TaRef.Programs.SecureStorage

/-!
# The message digest sample

One command of the application takes a digest of some data and keeps it in trusted storage.  The
other compares it with what it finds there.  Both ignore the results of the calls that they make.
-/

namespace TaRef

variable {lib : Mbedtls} {backend : Backend}

/-- The storage of the application and what its next allocations of an operation return. -/
abbrev DigestState (lib : Mbedtls) (backend : Backend) :=
  Enclave lib × Stream' (Option backend.Operation)

/-- What the functions of the sample depend on: the platform, the console, the bytes found in a
stack frame, and the data whose digest they take. -/
structure DigestSample where
  platform : Platform
  stdio : Stdio
  frame : Memory
  data : Bytes
  data_length : data.length = 16

namespace DigestSample

open Program

variable (sample : DigestSample)

/-- `TEE_AllocateOperation`. -/
def allocateOperation (algorithm mode maxKeySize : UInt32) :
    Program (DigestState lib backend)
      (TeeResult × Option backend.Operation) :=
  call fun (tee, operations) =>
    (.returned (teeAllocateOperation _ operations.head algorithm mode maxKeySize),
      tee, operations.tail)

/-- The format `%02x `. -/
def spacedFormat : Bytes := asciiText "%02x "

/-- The local variables: `data` at the start of the frame, `hash` at address 16. -/
def memory : Memory := sample.frame.write 0 sample.data

/-- The lines of both functions that take the digest and print it. -/
def digest : Program (DigestState lib backend) Bytes := do
  let (_, handle) ← allocateOperation teeAlgSha256 teeModeDigest 32
  let handle ← valueOf handle
  let (exit, handle) := teeDigestUpdate handle sample.memory (some 0) 8
  call fun state => (exit, state)
  let (output, _) := teeDigestDoFinal handle sample.memory (some 8) 8 (some 16) 32
  let hash := output.memory.read 16 (output.destLen.getD 32)
  teePrintf sample.stdio (asciiText "hash: ") []
  dump sample.stdio spacedFormat hash
  teePrintf sample.stdio (asciiText "\n") []
  return hash

/-- `secure_storage_write` -/
def secureStorageWrite (data fname : Bytes) : Program (DigestState lib backend) Unit := do
  let (_, object) ← createPersistentObject sample.platform fname
  let object ← valueOf object
  let _ ← writeObjectData sample.platform object data
  closeObject object

/-- `secure_storage_read`: the buffer and `*size` after it. -/
def secureStorageRead (data : Bytes) (size : Nat) (fname : Bytes) :
    Program (DigestState lib backend) (Bytes × Nat) := do
  let (_, object) ← Program.openPersistentObject sample.platform fname
  let object ← valueOf object
  let (_, data, bytesFromStorage) ← readObjectData sample.platform object data size
  closeObject object
  let size ← valueOf bytesFromStorage
  return (data, size)

/-- `message_digest_gen` -/
def messageDigestGen : Program (DigestState lib backend) Unit := do
  let hash ← sample.digest
  sample.secureStorageWrite hash (asciiText "hash_value")

/-- `message_digest_check`; `saved_hash` lies at address 48. -/
def messageDigestCheck : Program (DigestState lib backend) Int := do
  let hash ← sample.digest
  let (savedHash, hashlen) ← sample.secureStorageRead (sample.frame.read 48 32) 32
    (asciiText "hash_value")
  let ret := memcmp savedHash hash hashlen
  if ret = 0 then
    teePrintf sample.stdio (asciiText "hash: matched!\n") []
    return ret
  else return ret

def taRefHashGen : UInt32 := 0x11111111
def taRefHashCheck : UInt32 := 0x22222222

/-- `TA_InvokeCommandEntryPoint` -/
def taInvokeCommandEntryPoint (cmdId : UInt32) :
    Program (DigestState lib backend) UInt32 :=
  if cmdId = taRefHashGen then do
    sample.messageDigestGen
    return TeeResult.success.code
  else if cmdId = taRefHashCheck then do
    let ret ← sample.messageDigestCheck
    return if ret ≠ 0 then TeeResult.errorSignatureInvalid.code else TeeResult.success.code
  else return TeeResult.errorBadParameters.code

/-- What both functions print of a digest. -/
def shown (digest : Bytes) : Bytes :=
  asciiText "hash: " ++ (digest.flatMap fun byte => Printf.hexText byte ++ [Printf.ascii ' ']) ++
    asciiText "\n"

/-! ## The digest -/

section Digest

variable {σ : Type}

/-- The pieces of `%02x `. -/
theorem formatText_spaced :
    Printf.formatText [Printf.hexPiece, .plain (Printf.ascii ' ') (by decide) (by decide)] =
      spacedFormat := by
  decide +kernel

/-- `%02x ` prints two digits and a space. -/
theorem returns_spaced (stdio : Stdio) (byte : UInt8) (process : Process σ) :
    (teePrintf stdio spacedFormat [.int byte.toUInt32]).Returns process ()
      { process with printed := process.printed ++ (Printf.hexText byte ++ [Printf.ascii ' ']) } := by
  have length_eq : (Printf.hexText byte).length = 2 := Alphabet.length_numeral
  have moderate : Printf.Moderate Printf.Doubles.exact [Printf.Argument.int byte.toUInt32] :=
    fun value member => by simp at member
  have emits : Printf.emitted Printf.Doubles.exact stdio.charType spacedFormat
      [.int byte.toUInt32] = .ok [.text (Printf.hexText byte), .text [Printf.ascii ' ']] := by
    rw [← formatText_spaced, Printf.emitted_formatText, Printf.meaning_hexPiece_cons]
    rfl
  have sends := Printf.fctprintf_of_emitted emits (by simp)
  have plain : (0 : UInt8) ∉ Printf.hexText byte ++ [Printf.ascii ' '] := by
    rw [List.mem_append, not_or]
    exact ⟨fun member => Printf.ne_of_mem_numeral (by decide) member (by rfl) rfl, by decide⟩
  simp only [List.flatMap_cons, List.flatMap_nil, List.append_nil, Printf.Emission.characters]
    at sends
  exact returns_teePrintf moderate sends (by simp [length_eq]) plain process

end Digest

variable (sample : DigestSample) {hash : Bytes → Bytes} {absorbs : backend.sha3.Context → Bytes → Prop}
  (hashes : backend.sha3.Laws hash absorbs) {tee : Enclave lib}
  {operations : Stream' (Option backend.Operation)}
  (allocates : operations.All (· ≠ none))

/-- The calls for the data of the sample. -/
def session : DigestSession where
  steps := [.update sample.memory (some 0) 8]
  memory := sample.memory
  chunk := some 8
  chunkLen := 8
  hash := 16
  hashLen := 32
  null := nofun
  room := Nat.le_refl 32

theorem message_session : sample.session.message = sample.data := by
  have parts : sample.session.message = sample.memory.read 0 8 ++ sample.memory.read 8 8 := by
    simp [DigestSession.message, DigestSession.absorbed, session, DigestStep.part]
  have whole := Memory.read_write sample.frame 0 sample.data
  rw [sample.data_length] at whole
  rw [parts]
  exact (Memory.read_add sample.memory 0 8 8).symm.trans whole

include hashes allocates

/-- Both functions print the digest of the data. -/
theorem returns_digest (printed : Bytes) :
    (sample.digest : Program (DigestState lib backend) Bytes).Returns
      ⟨(tee, operations), printed⟩ (hash sample.data)
      ⟨(tee, operations.tail), printed ++ shown (hash sample.data)⟩ := by
  obtain ⟨residue, residue_eq⟩ := Option.ne_none_iff_exists'.mp (allocates 0)
  have head_eq : operations.head = some residue := residue_eq
  obtain ⟨handle, allocated⟩ : ∃ handle, teeAllocateOperation backend operations.head teeAlgSha256
      teeModeDigest 32 = (.success, some handle) := by
    rw [head_eq]
    exact ⟨_, rfl⟩
  have absorbing := Operation.absorbing_allocated hashes allocated
  obtain ⟨-, -, -, -, -, -, -, -, succeeds, destLen_eq, memory_eq⟩ :=
    absorbing.perform hashes.toAccumulates sample.session ⟨trivial, trivial⟩
  obtain ⟨updated, update_eq⟩ : ∃ updated,
      teeDigestUpdate handle sample.memory (some 0) 8 = (.returned (), updated) :=
    ⟨_, if_neg absorbing.admitted⟩
  obtain ⟨output, last, final_eq⟩ : ∃ output last,
      teeDigestDoFinal updated sample.memory (some 8) 8 (some 16) 32 = (output, last) :=
    ⟨_, _, rfl⟩
  have result_eq : sample.session.result handle = output := by
    simp only [DigestSession.result, DigestSession.perform, DigestSession.calls, session,
      List.map_cons, List.map_nil, Machine.final_cons, Machine.final_nil, DigestStep.invocation,
      Operation.step_some, Invocation.perform, update_eq]
    exact congrArg Prod.fst final_eq
  rw [result_eq, message_session, List.nil_append] at memory_eq
  rw [result_eq] at destLen_eq
  unfold digest
  refine returns_bind (@returns_call _ _ _ (tee, operations) (tee, operations.tail) printed
    (.success, some handle) ?_) ?_
  · simp only [allocated]
  refine returns_bind (returns_valueOf _ _) ?_
  simp only [update_eq, final_eq]
  refine returns_bind (returns_call rfl) ?_
  have hash_eq : output.memory.read 16 (output.destLen.getD 32) = hash sample.data := by
    rw [destLen_eq]
    exact memory_eq
  rw [hash_eq]
  refine returns_bind (returns_message (by decide +kernel) (by decide) _) ?_
  refine returns_bind (returns_dump (returns_spaced sample.stdio) (hash sample.data) _) ?_
  refine returns_bind (returns_message (by decide +kernel) (by decide) _) ?_
  simp only [shown, List.append_assoc]
  exact returns_pure _ _

omit hashes allocates

section Storage

variable {aes : BlockCipher Bytes Block} (laws : lib.CbcLaws aes) {plain fname : Bytes}

include laws

/-- `secure_storage_write` stores whole blocks. -/
theorem returns_secureStorageWrite (obliging : tee.Obliging sample.platform)
    (short : fname.length ≤ teeObjectIdMaxLen) (aligned : Aligned plain)
    (plain_pos : 0 < plain.length) (plain_lt : plain.length < 2 ^ 31) (printed : Bytes) :
    ∃ after,
      (sample.secureStorageWrite plain fname).Returns ⟨(tee, operations), printed⟩ ()
          ⟨(after, operations), printed⟩ ∧
        after.Obliging sample.platform ∧ after.Stores sample.platform aes fname plain := by
  obtain ⟨index, created, creates, obliging, writing⟩ :=
    returns_create aes obliging short operations printed
  obtain ⟨written, writes, obliging, writing⟩ :=
    returns_write laws obliging writing aligned plain_pos plain_lt operations printed
  obtain ⟨closed, closes, obliging, files_eq⟩ :=
    returns_close obliging writing.session operations printed
  exact ⟨closed, returns_bind creates (returns_bind (returns_valueOf _ _)
    (returns_bind writes closes)), obliging, writing.stores files_eq⟩

/-- `secure_storage_read` delivers the start of a file, whatever is in it. -/
theorem returns_secureStorageRead (counts : sample.platform.CountsBlocks)
    (obliging : tee.Obliging sample.platform) (short : fname.length ≤ teeObjectIdMaxLen)
    (present : (tee.host.files (cString fname)).isSome = true) {size : Nat} (whole : 16 ∣ size)
    (size_lt : size < 2 ^ 31) (data printed : Bytes) :
    ∃ after data',
      (sample.secureStorageRead data size fname).Returns ⟨(tee, operations), printed⟩
          (data', ((tee.host.content (cString fname)).take size).length)
          ⟨(after, operations), printed⟩ ∧
        after.Obliging sample.platform ∧ after.host.files = tee.host.files ∧
        data'.take ((tee.host.content (cString fname)).take size).length =
          sample.platform.delivered aes fname ((tee.host.content (cString fname)).take size) := by
  obtain ⟨index, opened, opens, obliging, opened_eq, session⟩ :=
    returns_open obliging short present operations printed
  obtain ⟨read, result, data', file, chain, reads, obliging, read_eq, delivered, session⟩ :=
    returns_readWhole laws counts obliging session whole size_lt data operations printed
  obtain ⟨closed, closes, obliging, closed_eq⟩ :=
    returns_close obliging session operations printed
  refine ⟨closed, data', ?_, obliging, closed_eq.trans (read_eq.trans opened_eq), delivered⟩
  exact returns_bind opens (returns_bind (returns_valueOf _ _) (returns_bind reads
    (returns_bind closes (returns_bind (returns_valueOf _ _) (returns_pure _ _)))))

end Storage

/-! ## The commands -/

section Commands

/-- The name of the file of both commands. -/
abbrev hashValue : Bytes := asciiText "hash_value"

/-- What the application finds of a file whose bytes are these. -/
def saved (aes : BlockCipher Bytes Block) (stored : Bytes) : Bytes :=
  sample.platform.delivered aes hashValue (stored.take 32)

variable {aes : BlockCipher Bytes Block} (laws : lib.CbcLaws aes)

/-- A digest that was stored is found. -/
theorem saved_of_stores {digest : Bytes} (length_eq : digest.length = 32)
    (stores : tee.Stores sample.platform aes hashValue digest) :
    sample.saved aes (tee.host.content (cString hashValue)) = digest := by
  have whole : (tee.host.content (cString hashValue)).take 32 =
      sample.platform.ciphertext aes hashValue digest := by
    rw [stores.content, List.take_of_length_le]
    exact (Cbc.length_joinBlocks_crypt _ _ _ _ stores.aligned).trans length_eq |>.le
  rw [saved, whole]
  exact sample.platform.delivered_ciphertext aes hashValue stores.aligned

include hashes allocates laws

/-- `message_digest_gen` keeps the digest. -/
theorem returns_messageDigestGen (obliging : tee.Obliging sample.platform) (printed : Bytes) :
    ∃ after,
      sample.messageDigestGen.Returns ⟨(tee, operations), printed⟩ ()
          ⟨(after, operations.tail), printed ++ shown (hash sample.data)⟩ ∧
        after.Obliging sample.platform ∧
        after.Stores sample.platform aes hashValue (hash sample.data) := by
  have length_eq := hashes.length sample.data
  obtain ⟨after, writes, obliging, stores⟩ := sample.returns_secureStorageWrite laws obliging
    (by decide : hashValue.length ≤ teeObjectIdMaxLen) ⟨2, length_eq⟩ (by omega) (by omega) _
  exact ⟨after, returns_bind (sample.returns_digest hashes allocates printed) writes, obliging,
    stores⟩

/-- `message_digest_check` compares as much as the file has. -/
theorem returns_messageDigestCheck (counts : sample.platform.CountsBlocks)
    (obliging : tee.Obliging sample.platform)
    (present : (tee.host.files (cString hashValue)).isSome = true) (printed : Bytes) :
    ∃ after ret,
      sample.messageDigestCheck.Returns ⟨(tee, operations), printed⟩ ret
          ⟨(after, operations.tail), printed ++ shown (hash sample.data) ++
            if ret = 0 then asciiText "hash: matched!\n" else []⟩ ∧
        (ret = 0 ↔ sample.saved aes (tee.host.content (cString hashValue)) <+: hash sample.data) ∧
        after.Obliging sample.platform ∧ after.host.files = tee.host.files := by
  obtain ⟨after, savedHash, reads, obliging, files_eq, found_eq⟩ :=
    sample.returns_secureStorageRead laws counts obliging
      (by decide : hashValue.length ≤ teeObjectIdMaxLen) present (by decide : 16 ∣ 32) (by decide)
      (sample.frame.read 48 32) _
  have length_eq := hashes.length sample.data
  have saved_length := sample.platform.length_delivered aes hashValue
    ((tee.host.content (cString hashValue)).take 32)
  have savedHash_long : ((tee.host.content (cString hashValue)).take 32).length ≤
      savedHash.length := by
    have lengths := congrArg List.length found_eq
    rw [saved_length, List.length_take] at lengths
    omega
  have hash_long : ((tee.host.content (cString hashValue)).take 32).length ≤
      (hash sample.data).length := by
    rw [length_eq, List.length_take]
    omega
  have compares := memcmp_eq_zero_iff savedHash_long hash_long
  rw [found_eq, ← saved_length, ← List.prefix_iff_eq_take, saved_length] at compares
  refine ⟨after, _, returns_bind (sample.returns_digest hashes allocates printed)
    (returns_bind reads ?_), compares, obliging, files_eq⟩
  dsimp only
  split_ifs with matched
  · exact returns_bind (returns_message (by decide +kernel) (by decide) _) (returns_pure _ _)
  · rw [List.append_nil]
    exact returns_pure _ _

/-- The first command succeeds. -/
theorem returns_gen (obliging : tee.Obliging sample.platform) (printed : Bytes) :
    ∃ after,
      (sample.taInvokeCommandEntryPoint taRefHashGen).Returns ⟨(tee, operations), printed⟩
          TeeResult.success.code
          ⟨(after, operations.tail), printed ++ shown (hash sample.data)⟩ ∧
        after.Obliging sample.platform ∧
        after.Stores sample.platform aes hashValue (hash sample.data) := by
  obtain ⟨after, generates, obliging, stores⟩ :=
    sample.returns_messageDigestGen hashes allocates laws obliging printed
  exact ⟨after, returns_bind generates (returns_pure _ _), obliging, stores⟩

/-- The second command succeeds when what it finds is the beginning of the digest. -/
theorem returns_check (counts : sample.platform.CountsBlocks)
    (obliging : tee.Obliging sample.platform)
    (present : (tee.host.files (cString hashValue)).isSome = true) (printed : Bytes) :
    ∃ after result text,
      (sample.taInvokeCommandEntryPoint taRefHashCheck).Returns ⟨(tee, operations), printed⟩ result
          ⟨(after, operations.tail), printed ++ shown (hash sample.data) ++ text⟩ ∧
        (if sample.saved aes (tee.host.content (cString hashValue)) <+: hash sample.data then
            result = TeeResult.success.code ∧ text = asciiText "hash: matched!\n"
          else result = TeeResult.errorSignatureInvalid.code ∧ text = []) ∧
        after.Obliging sample.platform ∧ after.host.files = tee.host.files := by
  obtain ⟨after, ret, checks, accepts, obliging, files_eq⟩ :=
    sample.returns_messageDigestCheck hashes allocates laws counts obliging present printed
  refine ⟨after, _, _, returns_bind checks (returns_pure _ _), ?_, obliging, files_eq⟩
  by_cases matched : ret = 0
  · rw [if_pos (accepts.mp matched), if_pos matched, if_neg (not_not_intro matched)]
    exact ⟨rfl, rfl⟩
  · rw [if_neg (mt accepts.mpr matched), if_neg matched, if_pos matched]
    exact ⟨rfl, rfl⟩

end Commands

end DigestSample
end TaRef
