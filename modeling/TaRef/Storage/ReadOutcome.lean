import TaRef.Storage.Session
import TaRef.Storage.Start

/-!
# What a successful read says

A read succeeds exactly when the host hands out some bytes that the platform accepts and there is
memory to decrypt them.  Keystone accepts whole blocks; SGX accepts any number of bytes, ignores
that the cipher rejects it, and copies the fresh allocation to the caller.  Neither platform tells a
transfer that stopped early from the end of the file.
-/

namespace TaRef

variable {lib : Mbedtls}

/-- Bytes that a host handed out on a descriptor between two states, read off the positions. -/
def Host.handedOut (before after : Host) (fd : Int) : Bytes :=
  match before.openFile? fd, after.openFile? fd with
  | some start, some stop => (before.remaining start).take (stop.offset - start.offset)
  | _, _ => []

theorem Host.handedOut_self (host : Host) (fd : Int) : host.handedOut host fd = [] := by
  unfold handedOut
  cases host.openFile? fd with
  | none => rfl
  | some file => simp

theorem Host.handedOut_advance {host : Host} {fd : Int} {file : OpenFile}
    (opened : host.openFile? fd = some file) (taken count : Nat) :
    host.handedOut ((host.skip taken).advance fd count) fd =
      (host.remaining file).take count := by
  have opened_after := openFile?_advance_self ((openFile?_skip host taken fd).trans opened) count
  simp [handedOut, opened, opened_after]

theorem wrapInt_neg {value : Nat} (large : 2 ^ 31 ≤ value) (value_lt : value < 2 ^ 32) :
    wrapInt value < 0 := by
  unfold wrapInt
  rw [Int.bmod_def]
  omega

/-- The host hands out `bytes` for a read, and the platform accepts them. -/
structure Platform.Delivers (platform : Platform) (tee : Enclave lib) (handle : StoredObject lib)
    (size : Nat) (file : OpenFile) (bytes : Bytes) : Prop where
  whole : 16 ∣ size
  opened : tee.host.openFile? handle.desc = some file
  readable : file.readable = true
  accepted : ¬ platform.Refuses tee.host.transfers size
  bytes_eq : (tee.host.remaining file).take (platform.moved tee.host.transfers
    (min size (tee.host.remaining file).length)) = bytes
  small : bytes.length < 2 ^ 31
  aligned : platform.CountsBlocks → Aligned bytes

section Read

variable {platform : Platform} {tee : Enclave lib} {object : Option Nat}
  {handle : StoredObject lib} {buffer bytes : Bytes} {size : Nat} {file : OpenFile}

theorem Platform.Delivers.length_eq (delivers : platform.Delivers tee handle size file bytes) :
    bytes.length = platform.moved tee.host.transfers
      (min size (tee.host.remaining file).length) := by
  have moved_le := platform.moved_le tee.host.transfers
    (min size (tee.host.remaining file).length)
  rw [← delivers.bytes_eq, List.length_take]
  omega

theorem Platform.Delivers.take_eq (delivers : platform.Delivers tee handle size file bytes) :
    (tee.host.remaining file).take bytes.length = bytes := by
  rw [delivers.length_eq, delivers.bytes_eq]

/-- Result, count and host of a read whose bytes are accepted. -/
theorem Platform.Delivers.outcome (delivers : platform.Delivers tee handle size file bytes)
    (found : tee.persistent? object = some handle) (size_lt : size < 2 ^ 32) (buffer : Bytes) :
    (platform.readObjectData tee object buffer size).1.count = some bytes.length ∧
      ((platform.readObjectData tee object buffer size).1.exit = .returned .success ↔
        bytes = [] ∨ tee.mallocs.head ≠ none) ∧
      ∃ taken, (platform.readObjectData tee object buffer size).2.host =
        (tee.host.skip taken).advance handle.desc bytes.length := by
  obtain ⟨taken, rest, run⟩ := readObjectData_delivers platform buffer found delivers.whole size_lt
    delivers.opened delivers.readable delivers.accepted delivers.bytes_eq delivers.small
    delivers.aligned
  rw [run]
  dsimp only
  by_cases empty : bytes.length = 0
  · obtain rfl := List.length_eq_zero_iff.mp empty
    refine ⟨rfl, ?_, taken, rfl⟩
    simp
  · have bytes_ne : bytes ≠ [] := fun nil => empty (by rw [nil, List.length_nil])
    rw [if_neg empty]
    unfold decryptInto Enclave.malloc
    cases tee.mallocs.head with
    | none => exact ⟨rfl, by simp [bytes_ne], taken, rfl⟩
    | some residue => exact ⟨rfl, by simp, taken, rfl⟩

/-- A successful read of accepted whole blocks returns their decryption. -/
theorem Platform.Delivers.decrypts {aes : BlockCipher Bytes Block} (laws : lib.CbcLaws aes)
    (delivers : platform.Delivers tee handle size file bytes)
    (found : tee.persistent? object = some handle) (size_lt : size < 2 ^ 32) (buffer : Bytes)
    {key : Bytes} {context : lib.AesContext}
    (keyed : handle.persistCtx = lib.aesSetkey .decrypt (lib.aesInit context) key)
    (aligned : Aligned bytes) (allocated : bytes = [] ∨ tee.mallocs.head ≠ none) :
    (platform.readObjectData tee object buffer size).1.buffer.take bytes.length =
      joinBlocks (Cbc.crypt aes key .decrypt handle.persistIv (toBlocks bytes)) := by
  obtain ⟨taken, rest, run⟩ := readObjectData_delivers platform buffer found delivers.whole size_lt
    delivers.opened delivers.readable delivers.accepted delivers.bytes_eq delivers.small
    delivers.aligned
  rcases allocated with rfl | available
  · rw [List.length_nil, List.take_zero, toBlocks_nil, Cbc.crypt_nil]
    rfl
  · obtain ⟨residue, head⟩ := Option.ne_none_iff_exists'.mp available
    obtain ⟨call, finish, _, _, plain_eq⟩ := finishRead_spec laws found keyed head aligned rest
      ((tee.host.skip taken).advance handle.desc bytes.length)
    rw [run]
    dsimp only
    rw [finish]
    exact plain_eq

/-- A read from a descriptor that is not open for reading fails, unless Keystone has nothing to ask
for. -/
theorem readObjectData_unreadable (platform : Platform)
    (found : tee.persistent? object = some handle) (closed : ¬ tee.host.Readable handle.desc)
    (success : (platform.readObjectData tee object buffer size).1.exit = .returned .success) :
    size = 0 ∧ (platform.readObjectData tee object buffer size).1.count = some 0 ∧
      (platform.readObjectData tee object buffer size).2.host = tee.host := by
  by_cases whole : size % 16 ≠ 0
  · simp [Platform.readObjectData_eq, found, whole] at success
  · rcases Nat.eq_zero_or_pos size with rfl | size_pos
    · cases platform with
      | keystone attestEnclave =>
          simp [Platform.readObjectData_eq, found, Platform.receive, Platform.ocallRead,
            Keyedge.ocallReadFileFull_zero]
      | sgx reportKey sealKey sha3 =>
          simp only [Platform.readObjectData_eq, found, if_neg whole, Platform.receive,
            Platform.ocallRead, Sgx.ocallReadFile, Host.read_of_not_readable closed] at success
          rw [if_pos (show wrapInt (-1) < 0 by decide)] at success
          exact absurd success (by simp)
    · obtain ⟨call, run, exit_eq, _⟩ := readObjectData_not_readable platform buffer found
        (Nat.dvd_of_mod_eq_zero (not_not.mp whole)) size_pos closed
      rw [run, exit_eq] at success
      exact absurd success (by simp)

/-- A read from a readable descriptor succeeds only with bytes that the platform accepts. -/
theorem delivers_of_success (platform : Platform) (found : tee.persistent? object = some handle)
    (size_lt : size < 2 ^ 32) (opened : tee.host.openFile? handle.desc = some file)
    (readable : file.readable = true)
    (success : (platform.readObjectData tee object buffer size).1.exit = .returned .success) :
    ∃ bytes, platform.Delivers tee handle size file bytes := by
  have whole : size % 16 = 0 := by
    by_contra unaligned
    simp [Platform.readObjectData_eq, found, unaligned] at success
  have size_mod : ¬ size % 16 ≠ 0 := not_not.mpr whole
  set total := platform.moved tee.host.transfers (min size (tee.host.remaining file).length)
    with total_eq
  have total_le : total ≤ min size (tee.host.remaining file).length := platform.moved_le _ _
  have length_eq : ((tee.host.remaining file).take total).length = total := by
    rw [List.length_take]
    omega
  suffices accepted : ¬ platform.Refuses tee.host.transfers size ∧ total < 2 ^ 31 ∧
      (platform.CountsBlocks → total % 16 = 0) by
    obtain ⟨answered, small, aligned⟩ := accepted
    refine ⟨_, Nat.dvd_of_mod_eq_zero whole, opened, readable, answered, rfl, ?_, fun counts => ?_⟩
    · rw [← total_eq, length_eq]
      exact small
    · rw [← total_eq, Aligned, length_eq]
      exact Nat.dvd_of_mod_eq_zero (aligned counts)
  cases platform with
  | keystone attestEnclave =>
      rcases Nat.eq_zero_or_pos size with rfl | size_pos
      · have none_moved : total = 0 := by omega
        exact ⟨fun refuses => Nat.lt_irrefl 0 refuses.1, by omega, fun _ => by omega⟩
      · obtain ⟨taken, read, run, _⟩ := Keyedge.ocallReadFileFull_outcome buffer opened readable
          size_pos size_lt le_rfl total_eq.symm
        simp only [Platform.readObjectData, Keystone.teeReadObjectData, found, if_neg size_mod, run]
          at success
        cases head : tee.host.transfers.head with
        | refuse code =>
            rw [head, loopResult, wrapInt_negSucc, if_pos (Int.negSucc_lt_zero _)] at success
            exact absurd success (by simp)
        | move amount =>
            rw [head, loopResult] at success
            have small : total < 2 ^ 31 := by
              by_contra large
              rw [if_pos (wrapInt_neg (by omega) (by omega))] at success
              exact absurd success (by simp)
            refine ⟨fun refuses => ?_, small, fun _ => ?_⟩
            · obtain ⟨_, code, refused⟩ := refuses
              rw [head] at refused
              exact absurd refused (by simp)
            · by_contra unaligned
              rw [wrapInt_of_lt small, if_neg (by omega), Int.toNat_natCast, if_pos unaligned]
                at success
              exact absurd success (by simp)
  | sgx reportKey sealKey sha3 =>
      simp only [Platform.readObjectData, Sgx.teeReadObjectData, found, if_neg size_mod,
        Sgx.ocallReadFile, Host.read, opened, readable, if_true] at success
      cases head : tee.host.transfers.head with
      | refuse code =>
          rw [head] at success
          simp [wrapInt_negSucc, Int.negSucc_lt_zero] at success
      | move amount =>
          refine ⟨fun refuses => ?_, ?_, fun counts => counts.elim⟩
          · obtain ⟨code, refused⟩ := refuses
            rw [head] at refused
            exact absurd refused (by simp)
          · by_contra large
            have moved_eq : ((tee.host.remaining file).take (min size amount)).length = total := by
              rw [total_eq, List.length_take]
              simp only [Platform.moved, head]
              omega
            simp only [head, moved_eq] at success
            rw [if_pos (wrapInt_neg (by omega) (by omega))] at success
            exact absurd success (by simp)

end Read

/-! ## Decrypted data -/

/-- `plain` is the decryption of whole blocks. -/
def CbcDecryption (aes : BlockCipher Bytes Block) (key : Bytes) (iv : Block)
    (cipher plain : Bytes) : Prop :=
  Aligned cipher ∧ plain = joinBlocks (Cbc.crypt aes key .decrypt iv (toBlocks cipher))

theorem cbcDecryption_nil (aes : BlockCipher Bytes Block) (key : Bytes) (iv : Block) :
    CbcDecryption aes key iv [] [] :=
  ⟨Nat.dvd_zero _, rfl⟩

/-- If a read succeeds, the bytes it counts are the decryption of those that the host handed out. -/
def Platform.ReadsDecrypted (platform : Platform) (aes : BlockCipher Bytes Block)
    (tee : Enclave lib) (index : Nat) (handle : StoredObject lib) (key buffer : Bytes)
    (size : Nat) : Prop :=
  let outcome := platform.readObjectData tee (some index) buffer size
  let delivered := tee.host.handedOut outcome.2.host handle.desc
  ∀ count, outcome.1.exit = .returned .success → outcome.1.count = some count →
    count ≤ size ∧ delivered.length = count ∧
      CbcDecryption aes key handle.persistIv delivered (outcome.1.buffer.take count)

/-- A success that counts a part of a block is no decryption. -/
theorem not_readsDecrypted {aes : BlockCipher Bytes Block} {platform : Platform}
    {tee : Enclave lib} {index : Nat} {handle : StoredObject lib} {key buffer : Bytes}
    {size count : Nat}
    (success : (platform.readObjectData tee (some index) buffer size).1.exit = .returned .success)
    (counts : (platform.readObjectData tee (some index) buffer size).1.count = some count)
    (unaligned : ¬ 16 ∣ count) :
    ¬ platform.ReadsDecrypted aes tee index handle key buffer size := by
  intro reads
  obtain ⟨_, counted, aligned, _⟩ := reads count success counts
  rw [Aligned, counted] at aligned
  exact unaligned aligned

section Decrypted

variable {aes : BlockCipher Bytes Block} {platform : Platform} {tee : Enclave lib} {index : Nat}
  {handle : StoredObject lib} {id buffer : Bytes} {flags : UInt32} {size : Nat}

/-- A successful read from a handle opened for reading returns decrypted data exactly when the bytes
that the host hands out and the platform accepts are whole blocks, or there is no memory to decrypt
them.  On Keystone that is always so. -/
theorem read_decrypts_iff (laws : lib.CbcLaws aes) (held : platform.Holds id flags index tee)
    (found : tee.persistent? (some index) = some handle)
    (access : ∀ file, tee.host.openFile? handle.desc = some file → file.readable = true →
      hasFlag flags teeDataFlagAccessWrite = false)
    (buffer : Bytes) (size_lt : size < 2 ^ 32) :
    platform.ReadsDecrypted aes tee index handle (platform.keys.key id) buffer size ↔
      ∀ file bytes, platform.Delivers tee handle size file bytes → tee.mallocs.head ≠ none →
        Aligned bytes := by
  constructor
  · intro reads file bytes delivers available
    obtain ⟨count_eq, success, taken, host_eq⟩ := delivers.outcome found size_lt buffer
    obtain ⟨_, _, aligned, _⟩ := reads _ (success.mpr (.inr available)) count_eq
    rwa [host_eq, Host.handedOut_advance delivers.opened, delivers.take_eq] at aligned
  · intro whole count success count_eq
    by_cases readable : ∃ file, tee.host.openFile? handle.desc = some file ∧ file.readable = true
    · obtain ⟨file, opened, readable⟩ := readable
      obtain ⟨bytes, delivers⟩ := delivers_of_success platform found size_lt opened readable success
      obtain ⟨counted, success_iff, taken, host_eq⟩ := delivers.outcome found size_lt buffer
      have allocated := success_iff.mp success
      obtain rfl : bytes.length = count := Option.some.inj (counted.symm.trans count_eq)
      have aligned : Aligned bytes := by
        rcases allocated with rfl | available
        · exact Nat.dvd_zero _
        · exact whole file bytes delivers available
      obtain ⟨other, _, other_found, keyed⟩ := held.handle
      obtain rfl : handle = other := Option.some.inj (found.symm.trans other_found)
      rw [accessDirection, access file opened readable] at keyed
      have moved_le := platform.moved_le tee.host.transfers
        (min size (tee.host.remaining file).length)
      rw [host_eq, Host.handedOut_advance opened, delivers.take_eq]
      refine ⟨?_, rfl, aligned, ?_⟩
      · rw [delivers.length_eq]
        omega
      · exact delivers.decrypts laws found size_lt buffer keyed aligned allocated
    · obtain ⟨_, counted, host_eq⟩ := readObjectData_unreadable platform found readable success
      obtain rfl : 0 = count := Option.some.inj (counted.symm.trans count_eq)
      rw [host_eq, Host.handedOut_self, List.take_zero]
      exact ⟨Nat.zero_le _, rfl, cbcDecryption_nil _ _ _⟩

end Decrypted

/-- A read of a block on Keystone. -/
theorem read_decrypts_block :
    Platform.publishedKeystone.ReadsDecrypted vectorCipher
      (publishedOpened .publishedKeystone vectorCipherBlock.1 (Stream'.const (.move 7))) 0
      (programKey vectorKey Block.zero (newHandle _ teeDataFlagAccessRead 0))
      vectorKey (List.replicate 16 0) 16 :=
  (read_decrypts_iff (Mbedtls.reference_cbcLaws vectorCipher) (publishedOpened_holds _ _ _) rfl
    (fun _ _ _ => by decide) _ (by decide)).mpr fun _ _ delivers _ => delivers.aligned trivial

/-- The outcome of a read of one block from a file of three bytes on SGX, in a memory whose fresh
allocations hold other bytes. -/
def residueRead : ReadCall × Enclave (.reference vectorCipher) :=
  Platform.publishedSgx.readObjectData
    { publishedOpened .publishedSgx [1, 2, 3] (Stream'.const (.move 16)) with
      mallocs := Stream'.const (some fun _ => 170) } (some 0) (List.replicate 16 0) 16

/-- That read returns three bytes of the fresh allocation. -/
theorem read_returns_residue :
    residueRead.1.exit = .returned .success ∧ residueRead.1.count = some 3 ∧
      residueRead.1.buffer.take 3 = [170, 170, 170] ∧
      ¬ Platform.publishedSgx.ReadsDecrypted vectorCipher
        { publishedOpened .publishedSgx [1, 2, 3] (Stream'.const (.move 16)) with
          mallocs := Stream'.const (some fun _ => 170) } 0
        (programKey vectorKey Block.zero (newHandle _ teeDataFlagAccessRead 0))
        vectorKey (List.replicate 16 0) 16 := by
  have success : residueRead.1.exit = .returned .success := by decide +kernel
  have counts : residueRead.1.count = some 3 := by decide +kernel
  refine ⟨success, counts, by decide +kernel, ?_⟩
  unfold residueRead at success counts
  exact not_readsDecrypted success counts (by decide)

/-! ## Short reads -/

end TaRef
