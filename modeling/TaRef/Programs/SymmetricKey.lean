import TaRef.Programs.Cryptography

/-!
# The tests of symmetric keys

`gp_symmetric_key_enc_verify_test` and `gp_symmetric_key_gcm_verify_test` encrypt some data with a
new key, decrypt what they got, and compare.
-/

namespace TaRef
namespace Program

variable {backend : Backend}

/-- Addresses of the local variables of both tests: `data`, `iv`, `out`, `tag` and `decode`. -/
def dataAt : Nat := 0
def ivAt : Nat := 256
def outAt : Nat := 272
def tagAt : Nat := 528
def decodeAt : Nat := 544

/-- From `data` to `out`. -/
def sealing : Buffers where
  srcData := some dataAt
  srcLen := 256
  destData := some outAt
  srcLen_lt := by decide
  separate := by
    rintro _ _ ⟨⟩ ⟨⟩
    exact .inr (.inl (by decide))

/-- `out` in place. -/
def inPlace : Buffers where
  srcData := some outAt
  srcLen := 256
  destData := some outAt
  srcLen_lt := by decide
  separate := by
    rintro _ _ ⟨⟩ ⟨⟩
    exact .inl rfl

/-- From `out` to `decode`. -/
def opening : Buffers where
  srcData := some outAt
  srcLen := 256
  destData := some decodeAt
  srcLen_lt := by decide
  separate := by
    rintro _ _ ⟨⟩ ⟨⟩
    exact .inr (.inl (by decide))

/-- The variables of both tests before they encrypt. -/
def prepared (frame : Memory) (data iv : Bytes) : Memory := (frame.write dataAt data).write ivAt iv

/-- `gp_symmetric_key_enc_verify_test`; `frame` is the memory that it finds, and `data` is
`test.dat`. -/
def gpSymmetricKeyEncVerifyTest (stdio : Stdio) (verbose : Bool) (frame : Memory) (data : Bytes) :
    Program (Supplies backend) Unit := do
  let assert := gpAssert stdio verbose "gp_symmetric_key_enc_verify_test"
  let (rv, key) ← allocateTransientObject teeTypeAes (32 * 8)
  assert 65 rv "TEE_AllocateTransientObject fails" do
    let key ← valueOf key
    let (rv, key) ← generateKey key
    assert 68 rv "TEE_GenerateKey fails" do
      let (rv, handle) ← allocateOperation teeAlgAesCbcNopad teeModeEncrypt 256
      assert 72 rv "TEE_AllocateOperation fails" do
        let handle ← valueOf handle
        let (rv, handle) := teeSetOperationKey handle (some key)
        assert 75 rv "TEE_SetOperationKey fails" do
          let iv ← generateRandom 16
          let memory := prepared frame data iv
          let (exit, handle) := teeCipherInit handle memory (some ivAt) 16
          finish exit
          let (output, _) := teeCipherUpdate handle memory sealing
          let rv ← finish output.exit
          assert 84 rv "TEE_CipherUpdate fails" do
            let memory := output.memory
            dumpLine stdio "@cipher: " (memory.read outAt 256)
            let (rv, handle) ← allocateOperation teeAlgAesCbcNopad teeModeDecrypt 256
            assert 97 rv "TEE_AllocateOperation fails" do
              let handle ← valueOf handle
              let (rv, handle) := teeSetOperationKey handle (some key)
              assert 100 rv "TEE_SetOperationKey fails" do
                let (exit, handle) := teeCipherInit handle memory (some ivAt) 16
                finish exit
                let (output, _) := teeCipherUpdate handle memory inPlace
                let rv ← finish output.exit
                assert 107 rv "TEE_CipherUpdate fails" do
                  let memory := output.memory
                  finish (teeFreeTransientObject key)
                  dumpLine stdio "decrypted to: " (memory.read outAt 256)
                  verify stdio (memory.read outAt 256) (memory.read dataAt 256) 256

/-- `gp_symmetric_key_gcm_verify_test` -/
def gpSymmetricKeyGcmVerifyTest (stdio : Stdio) (verbose : Bool) (frame : Memory) (data : Bytes) :
    Program (Supplies backend) Unit := do
  let assert := gpAssert stdio verbose "gp_symmetric_key_gcm_verify_test"
  let (rv, key) ← allocateTransientObject teeTypeAes 256
  assert 68 rv "TEE_AllocateTransientObject fails" do
    let key ← valueOf key
    let (rv, key) ← generateKey key
    assert 71 rv "TEE_GenerateKey fails" do
      let (rv, handle) ← allocateOperation teeAlgAesGcm teeModeEncrypt 256
      assert 75 rv "TEE_AllocateOperation fails" do
        let handle ← valueOf handle
        let (rv, handle) := teeSetOperationKey handle (some key)
        assert 78 rv "TEE_SetOperationKey fails" do
          let iv ← generateRandom 16
          let memory := prepared frame data iv
          let (exit, handle) := teeAEInit handle memory (some ivAt) 16 (16 * 8) 16 16
          let rv ← finish exit
          assert 83 rv "TEE_AEInit fails" do
            let memory := memory.write tagAt (List.replicate 16 0)
            let (output, _) := teeAEEncryptFinal handle memory sealing (some 256) (some tagAt)
              (some 16)
            let _ ← finish output.exit
            let memory := output.memory
            dumpLine stdio "@cipher: " (memory.read outAt 256)
            dumpLine stdio "@tag: " (memory.read tagAt 16)
            let (rv, handle) ← allocateOperation teeAlgAesGcm teeModeDecrypt 256
            assert 110 rv "TEE_AllocateOperation fails" do
              let handle ← valueOf handle
              let (rv, handle) := teeSetOperationKey handle (some key)
              assert 113 rv "TEE_SetOperationKey fails" do
                let (exit, handle) := teeAEInit handle memory (some ivAt) 16 (16 * 8) 16 16
                let rv ← finish exit
                assert 116 rv "TEE_AEInit fails" do
                  let (output, _) := teeAEDecryptFinal handle memory opening (some 256)
                    (some tagAt) 16
                  let rv ← finish output.exit
                  assert 124 rv "TEE_AEDecryptFinal fails" do
                    let memory := output.memory
                    finish (teeFreeTransientObject key)
                    dumpLine stdio "decrypted to: " (memory.read decodeAt 256)
                    verify stdio (memory.read decodeAt 256) (memory.read dataAt 256) 256

end Program

/-- What a test leaves that draws an object with its key, an operation with a nonce, and another
operation. -/
def Supplies.afterKeyTest {backend : Backend} (supplies : Supplies backend) : Supplies backend :=
  supplies.afterObject.afterRandom.afterOperation.afterRandom.afterOperation

theorem Supplies.Ample.afterKeyTest {backend : Backend} {supplies : Supplies backend}
    (ample : supplies.Ample) : supplies.afterKeyTest.Ample :=
  ample.afterObject.afterRandom.afterOperation.afterRandom.afterOperation

/-! ## What a call leaves of the memory -/

theorem Buffers.read_store {buffers : Buffers} {memory : Memory} {bytes : Bytes}
    (fits : bytes.length = buffers.srcLen) {address count : Nat}
    (apart : address + count ≤ buffers.destData.getD 0 ∨
      buffers.destData.getD 0 + buffers.srcLen ≤ address) :
    (buffers.store memory bytes).read address count = memory.read address count := by
  apply Memory.read_write_of_disjoint
  rwa [fits]

/-- CBC in a build writes the destination only. -/
theorem CryptLib.CbcLaws.contained {build : CryptLib} {aes : BlockCipher Bytes Block}
    (laws : build.CbcLaws aes) :
    ∃ chains, build.backend.CbcLaws aes chains ∧
      ∀ {operation direction key chain}, chains operation direction key chain →
        ∀ memory buffers, Aligned (buffers.input memory) → ∀ {address count : Nat},
          (address + count ≤ buffers.destData.getD 0 ∨
            buffers.destData.getD 0 + buffers.srcLen ≤ address) →
          (build.backend.cbc direction operation (build.backend.stageInput memory buffers)
            buffers).2.read address count = memory.read address count := by
  cases build with
  | mbedcrypt lib sha3 ed25519 =>
      refine ⟨_, Backend.mbedcrypt_cbcLaws laws sha3 ed25519, ?_⟩
      rintro operation direction key _ ⟨⟨context, scheduled⟩, rfl⟩ memory buffers aligned address
        count apart
      have call := laws.crypt context key direction operation.aeiv _ aligned
      rw [← scheduled] at call
      simp only [backend, Backend.mbedcrypt, call]
      exact Buffers.read_store ((Cbc.length_joinBlocks_crypt aes key direction _ aligned).trans
        (buffers.length_input memory)) apart
  | wolfcrypt lib =>
      obtain ⟨holds, laws⟩ := laws
      refine ⟨_, Backend.wolfcrypt_cbcLaws laws, ?_⟩
      intro operation direction key chain held memory buffers aligned address count apart
      have output_eq := (laws.crypt held _ aligned).1
      simp only [backend, Backend.wolfcrypt, output_eq]
      exact Buffers.read_store ((Cbc.length_joinBlocks_crypt aes key direction _ aligned).trans
        (buffers.length_input memory)) apart
  | tiny lib sha3 ed25519 unset =>
      obtain ⟨holds, laws⟩ := laws
      refine ⟨_, Backend.tiny_cbcLaws laws sha3 ed25519 unset, ?_⟩
      intro operation direction key chain held memory buffers aligned address count apart
      have staged := Backend.output_copyInput memory buffers
      have output_eq := (laws.crypt held direction _ (staged ▸ aligned)).1
      rw [staged] at output_eq
      simp only [backend, Backend.tiny, staged, output_eq]
      rw [Buffers.read_store ((Cbc.length_joinBlocks_crypt aes key direction _ aligned).trans
        (buffers.length_input memory)) apart, Backend.copyInput]
      split
      · exact Buffers.read_store (buffers.length_input memory) apart
      · rfl

/-- A final call that accepts its tag writes the destination only. -/
def Backend.OpensInside (backend : Backend)
    (feeds : backend.Operation → Direction → Bytes → Block → Bytes → List Bytes → Prop) : Prop :=
  ∀ operation key nonce aad parts, feeds operation .decrypt key nonce aad parts →
    ∀ memory buffers tag after memory', parts.flatten.length + buffers.srcLen ≤ Mbedtls.gcmLimit →
      backend.gcmDecryptFinal operation memory buffers tag = (.returned true, after, memory') →
        ∀ address count, (address + count ≤ buffers.destData.getD 0 ∨
          buffers.destData.getD 0 + buffers.srcLen ≤ address) →
            memory'.read address count = memory.read address count

theorem CryptLib.PartsLaws.contained {build : CryptLib} {aes : BlockCipher Bytes Block}
    (laws : build.PartsLaws aes) (supported : build.backend.supportsGcm = true) :
    ∃ keyed feeds, build.backend.PartsLaws aes build.kind.scheme keyed feeds ∧
      build.backend.OpensInside feeds := by
  cases build with
  | mbedcrypt lib sha3 ed25519 =>
      obtain ⟨keyed, streams, laws⟩ := laws
      refine ⟨_, _, Backend.mbedcrypt_partsLaws laws sha3 ed25519, ?_⟩
      rintro operation key nonce aad parts ⟨_, held, _⟩ memory buffers tag after memory' fits final
        address count apart
      obtain ⟨rv, output_eq, next⟩ := laws.update held (buffers.input memory)
        (by rw [buffers.length_input]; exact fits)
      have done := Backend.mbedcrypt_gcmDecryptFinal lib sha3 ed25519 operation memory buffers tag rv
        (laws.finish next).1
      rw [← (Prod.mk.inj (Prod.mk.inj (done.symm.trans final)).2).2, output_eq]
      exact Buffers.read_store ((Gcm.length_crypt ..).trans (buffers.length_input memory)) apart
  | wolfcrypt lib =>
      obtain ⟨keyed, laws⟩ := laws
      refine ⟨_, _, Backend.wolfcrypt_partsLaws laws, ?_⟩
      rintro operation key nonce _ parts ⟨held, rfl, rfl⟩ memory buffers tag after memory' _ final
        address count apart
      have output_eq := (laws.decrypt held (buffers.input memory) operation.aeiv
        (memory.read tag 16) (operation.aegcmAad.take operation.aegcmAadsz)).2
      have verdict := Exit.returned.inj (Prod.mk.inj final).1
      rw [← (Prod.mk.inj (Prod.mk.inj final).2).2, output_eq (beq_iff_eq.mp verdict)]
      exact Buffers.read_store ((Gcm.length_crypt ..).trans (buffers.length_input memory)) apart
  | tiny => cases supported

/-- One message of CBC with a generated key. -/
theorem CryptLib.CbcLaws.crypts {build : CryptLib} {aes : BlockCipher Bytes Block}
    (laws : build.CbcLaws aes) (supplies : Supplies build.backend) {mode : UInt32}
    {direction : Direction} (mode_eq : Operation.directionOf mode = some direction)
    (memory : Memory) (nonce : Nat) {buffers : Buffers}
    (aligned : Aligned (buffers.input memory)) :
    ∃ keyed started output after,
      teeSetOperationKey (Operation.fresh build.backend teeAlgAesCbcNopad mode)
        (some (supplies.generated teeTypeAes)) = (.success, keyed) ∧
      teeCipherInit keyed memory (some nonce) 16 = (.returned (), started) ∧
      teeCipherUpdate started memory buffers = (output, after) ∧
      output.exit = .returned .success ∧
      buffers.output output.memory =
        joinBlocks (Cbc.crypt aes (supplies.generated teeTypeAes).publicKey direction
          (Block.ofBytes (memory.read nonce 16)) (toBlocks (buffers.input memory))) ∧
      ∀ {address count : Nat}, (address + count ≤ buffers.destData.getD 0 ∨
          buffers.destData.getD 0 + buffers.srcLen ≤ address) →
        output.memory.read address count = memory.read address count := by
  obtain ⟨chains, laws, contained⟩ := laws.contained
  rw [setOperationKey_aes]
  set keyed : build.backend.Operation :=
    { Operation.fresh build.backend teeAlgAesCbcNopad mode with
      aekey := (supplies.generated teeTypeAes).publicKey
      flags := 0 ||| teeHandleFlagKeySet } with keyed_eq
  obtain ⟨returned, chained⟩ := laws.init keyed (Block.ofBytes (memory.read nonce 16)) direction
    mode_eq
  have purpose := Operation.purpose_of_control
    (build.framed.cipherInit keyed (Block.ofBytes (memory.read nonce 16)))
  obtain ⟨started, started_eq⟩ : ∃ started, build.backend.cipherInit keyed
      (Block.ofBytes (memory.read nonce 16)) = (.returned (), started) :=
    ⟨_, Prod.ext returned rfl⟩
  rw [started_eq] at chained purpose
  have run := Operation.teeCipherUpdate_of_direction
    (show started.alg = teeAlgAesCbcNopad from congrArg (·.1) purpose)
    ((congrArg Operation.directionOf (congrArg (·.2) purpose)).trans mode_eq) memory buffers
  refine ⟨keyed, started, _, _, rfl, ?_, run, rfl, (laws.cbc chained memory buffers aligned).1,
    contained chained memory buffers aligned⟩
  have keySet : hasFlag keyed.flags teeHandleFlagKeySet = true :=
    show hasFlag (0 ||| teeHandleFlagKeySet) teeHandleFlagKeySet = true by decide
  have alg_eq : keyed.alg = teeAlgAesCbcNopad := rfl
  rw [teeCipherInit, if_neg (not_not.mpr alg_eq), if_neg (by decide), keySet, if_neg (by decide)]
  exact started_eq

/-- A message in one part begins at the start and is covered as a whole. -/
theorem CryptLib.Kind.scheme_whole (kind : CryptLib.Kind) (part : Bytes) :
    kind.scheme.position (([] : List Bytes).map List.length) = 0 ∧
      kind.scheme.covered ([] ++ [part]) = [part] := by
  cases kind <;> exact ⟨rfl, rfl⟩

section Gcm

variable {build : CryptLib} {aes : BlockCipher Bytes Block}
  {keyed : build.backend.Operation → Direction → Bytes → Block → Prop}
  {feeds : build.backend.Operation → Direction → Bytes → Block → Bytes → List Bytes → Prop}
  (laws : build.backend.PartsLaws aes build.kind.scheme keyed feeds) (makes : build.MakesKeys)
  (supplies : Supplies build.backend)

include laws makes

/-- `TEE_AEInit` with a generated key. -/
theorem feeding_generated {mode : UInt32} {direction : Direction}
    (mode_eq : Operation.directionOf mode = some direction) (memory : Memory) (nonce : Nat) :
    ∃ operation started,
      teeSetOperationKey (Operation.fresh build.backend teeAlgAesGcm mode)
        (some (supplies.generated teeTypeAes)) = (.success, operation) ∧
      teeAEInit operation memory (some nonce) 16 (16 * 8) 16 16 =
        (.returned .success, started) ∧
      Feeding keyed feeds started direction (supplies.generated teeTypeAes).publicKey
        (Block.ofBytes (memory.read nonce 16)) [] [] := by
  rw [CryptLib.setOperationKey_aes]
  set operation : build.backend.Operation :=
    { Operation.fresh build.backend teeAlgAesGcm mode with
      aekey := (supplies.generated teeTypeAes).publicKey
      flags := 0 ||| teeHandleFlagKeySet } with operation_eq
  obtain ⟨rv, held⟩ := laws.setkey operation direction (Block.ofBytes (memory.read nonce 16))
    mode_eq (CryptLib.length_generated makes supplies teeTypeAes)
  have keySet : hasFlag operation.flags teeHandleFlagKeySet = true :=
    show hasFlag (0 ||| teeHandleFlagKeySet) teeHandleFlagKeySet = true by decide
  have admitted : Operation.AdmitsInit operation (some nonce) 16 128 16 :=
    ⟨rfl, rfl, Nat.le_refl 16, rfl, rfl, keySet⟩
  refine ⟨operation, _, rfl, Operation.teeAEInit_of_admitted admitted rfl rv memory 16, ?_⟩
  exact
    { alg := congrArg Control.alg (build.framed.gcmSetkey operation)
      state := .inl ⟨rfl, held, rfl, rfl⟩ }

omit makes

variable {operation : build.backend.Operation} {key : Bytes} {nonce : Block}

/-- A whole message under a fresh start, sealed. -/
theorem seal_whole (feeding : Feeding keyed feeds operation .encrypt key nonce [] [])
    {buffers : Buffers}
    (pointers : buffers.srcData.isSome = true ∧ buffers.destData.isSome = true)
    (fits : buffers.srcLen ≤ Mbedtls.gcmLimit) (memory : Memory) (capacity tag : Nat) :
    let cipher := Gcm.crypt aes key nonce 0 (buffers.input memory)
    ∃ output after,
      teeAEEncryptFinal operation memory buffers (some capacity) (some tag) (some 16) =
        (output, after) ∧
      output.exit = .returned .success ∧
      output.memory =
        (buffers.store memory cipher).write tag (Gcm.tag aes key nonce [] cipher).1 := by
  obtain ⟨_, started, held⟩ := feeding.readied laws
  obtain ⟨rv, memory_eq⟩ := laws.encryptFinal held memory buffers tag
    (by rw [List.flatten_nil, List.length_nil, Nat.zero_add]; exact fits)
  have run := Operation.teeAEEncryptFinal_of_admitted memory tag
    (feeding.admitsData laws pointers capacity) started rv
  refine ⟨_, _, run, rfl, ?_⟩
  rw [(build.kind.scheme_whole []).1] at memory_eq
  rw [(build.kind.scheme_whole _).2, Gcm.tagOfParts_singleton] at memory_eq
  exact memory_eq

/-- A whole message under a fresh start, opened with its tag. -/
theorem open_whole (inside : build.backend.OpensInside feeds)
    (feeding : Feeding keyed feeds operation .decrypt key nonce [] [])
    {buffers : Buffers}
    (pointers : buffers.srcData.isSome = true ∧ buffers.destData.isSome = true)
    (fits : buffers.srcLen ≤ Mbedtls.gcmLimit) (memory : Memory) (capacity : Nat) {tag : Nat}
    (apart : tag + 16 ≤ buffers.destData.getD 0 ∨
      buffers.destData.getD 0 + buffers.srcLen ≤ tag)
    (genuine : memory.read tag 16 = (Gcm.tag aes key nonce [] (buffers.input memory)).1) :
    ∃ output after,
      teeAEDecryptFinal operation memory buffers (some capacity) (some tag) 16 =
        (output, after) ∧
      output.exit = .returned .success ∧
      buffers.output output.memory = Gcm.crypt aes key nonce 0 (buffers.input memory) ∧
      ∀ address count, (address + count ≤ buffers.destData.getD 0 ∨
          buffers.destData.getD 0 + buffers.srcLen ≤ address) →
        output.memory.read address count = memory.read address count := by
  have total : ([] : List Bytes).flatten.length + buffers.srcLen ≤ Mbedtls.gcmLimit := by
    rw [List.flatten_nil, List.length_nil, Nat.zero_add]
    exact fits
  obtain ⟨_, started, held⟩ := feeding.readied laws
  obtain ⟨verified, after, memory', final, verdict, output_eq⟩ :=
    laws.decryptFinal held memory buffers tag total apart
  rw [(build.kind.scheme_whole _).2, Gcm.tagOfParts_singleton] at verdict
  rw [(build.kind.scheme_whole []).1] at output_eq
  have accepted : verified = true := verdict.mpr genuine
  subst accepted
  have run := Operation.teeAEDecryptFinal_of_admitted
    (feeding.admitsData laws pointers capacity) started final
  rw [if_pos rfl] at run
  exact ⟨_, _, run, rfl, output_eq rfl, inside _ _ _ _ _ held memory buffers tag after memory' total
    final⟩

end Gcm

/-! ## The tests -/

namespace Program

variable {build : CryptLib} {aes : BlockCipher Bytes Block}

/-- The nonce that a test draws after its key. -/
def nonce (supplies : Supplies build.backend) : Block :=
  Block.ofBytes (supplies.afterRandom.random 16)

section Memory

variable {frame : Memory} {data : Bytes}

theorem read_data_prepared (data_length : data.length = 256) (iv : Bytes) :
    (prepared frame data iv).read dataAt 256 = data := by
  have stored := Memory.read_write frame dataAt data
  rw [data_length] at stored
  rw [prepared, Memory.read_write_of_disjoint (.inl (by decide)), stored]

theorem read_iv_prepared {iv : Bytes} (iv_length : iv.length = 16) :
    (prepared frame data iv).read ivAt 16 = iv := by
  have stored := Memory.read_write (frame.write dataAt data) ivAt iv
  rwa [iv_length] at stored

end Memory

/-- AES-256 under the public key of the published seed: the blocks that the tests encipher on
`test.dat` with a nonce of zeros, those of CBC first and then those of GCM. -/
def testPairs : List (Block × Block) :=
  [(blockOf 0x000102030405060708090a0b0c0d0e0f, blockOf 0x5e70cf4499b3b4d7c09cd04822f39389),
    (blockOf 0x4e61dd578da6a2c0d885ca533eee8d96, blockOf 0xed6f231441932aabf2b88aeec8bf02dc),
    (blockOf 0xcd4e013765b60c8cda91a0c5e4922cf3, blockOf 0x5c8c752658d4205aa5774d11c0740a2f),
    (blockOf 0x6cbd47156ce1166d9d4e772afc493410, blockOf 0xbed32fd483cc88d31b81a1acf6db746c),
    (blockOf 0xfe926d97c789ce9453c8ebe7ba963a23, blockOf 0x5e7fb5fb35a34847f1f53be55e637190),
    (blockOf 0x0e2ee7a861f61e10a9ac61be023e2fcf, blockOf 0xa9bf0fe01d6adb18561c64c57067b673),
    (blockOf 0xc9de6d83790fbd7f3e750eae1c0ad81c, blockOf 0xbc0d8607065744879ded124d6d709f90),
    (blockOf 0xcc7cf474722232f0e5946836110de1ef, blockOf 0x74d885f8e8e0b87a6b74146a7dae7a74),
    (blockOf 0xf459077b6c653efde3fd9ee1f123f4fb, blockOf 0x538fe30def9a1327e523c3df3f820f05),
    (blockOf 0xc31e719e7b0f85b07dba5944a31f919a, blockOf 0x7d7288936bd74c9e140c99ddebfcfd65),
    (blockOf 0xddd32a30cf72ea39bca53376475153ca, blockOf 0x2c9d8b159fcd9659990e0f447d014fc9),
    (blockOf 0x9c2c39a62b7820ee21b7b5ffc1bcf176, blockOf 0xc2f959eada91cc767036be3458a4aa35),
    (blockOf 0x02389b291e540ab1b8ff74ff946964fa, blockOf 0x957494518819dc872566284c9d31e79f),
    (blockOf 0x45a546825ccc0a50fdbff29741ec3940, blockOf 0x2d87284c0af75a1c83e0f949f4903f13),
    (blockOf 0xcd66caafee12bcfb6b0913a2187dd1fc, blockOf 0x57913693ac787c8f52b26c48b9bfa3cd),
    (blockOf 0xa760c460588d8a78aa4b96b345425d32, blockOf 0xeed8ddc056afc6501f2d80db48d4bf9a),
    (blockOf 0x00000000000000000000000000000000, blockOf 0x80fe8d0717bc894ff827811085c4bf04),
    (blockOf 0xbf95df57a296a965cdeedec75c463988, blockOf 0xd01c942156c7820f565cd064ff15a9f0),
    (blockOf 0xbf95df57a296a965cdeedec75c463989, blockOf 0x57899aa244e7e76f81062513a8dec3a7),
    (blockOf 0xbf95df57a296a965cdeedec75c46398a, blockOf 0x4957293ba482c44d4027a800d8281209),
    (blockOf 0xbf95df57a296a965cdeedec75c46398b, blockOf 0x2588bc0837d4e6be8da460e6bf4870fe),
    (blockOf 0xbf95df57a296a965cdeedec75c46398c, blockOf 0x3c41d1efccdef20d07eb3a639a013c49),
    (blockOf 0xbf95df57a296a965cdeedec75c46398d, blockOf 0x149ab10edf0cebb27ae4399d19230042),
    (blockOf 0xbf95df57a296a965cdeedec75c46398e, blockOf 0xd3dc2617bcc63f525ac5000c2502fb85),
    (blockOf 0xbf95df57a296a965cdeedec75c46398f, blockOf 0x900a700768041fe8520b7b41f161b506),
    (blockOf 0xbf95df57a296a965cdeedec75c463990, blockOf 0xb25349ed554536d344b5c9a5fc1b041f),
    (blockOf 0xbf95df57a296a965cdeedec75c463991, blockOf 0x6252600e59012d514e25c7c48fa2e749),
    (blockOf 0xbf95df57a296a965cdeedec75c463992, blockOf 0xc0de77151e1319906f586264c56cee83),
    (blockOf 0xbf95df57a296a965cdeedec75c463993, blockOf 0xdd82a4e8fc58e15fb3d17921d16cd0bd),
    (blockOf 0xbf95df57a296a965cdeedec75c463994, blockOf 0x0a8403bbb075f755bfa9475a8adef399),
    (blockOf 0xbf95df57a296a965cdeedec75c463995, blockOf 0x01dc39727f3eb24e5e2df411d0bb57cc),
    (blockOf 0xbf95df57a296a965cdeedec75c463996, blockOf 0xf7281c7292b7a00243ffb7629f4fb10b),
    (blockOf 0xbf95df57a296a965cdeedec75c463997, blockOf 0xc9ea66f49394f9a3f8be2ba1c3d9b7d9),
    (blockOf 0xbf95df57a296a965cdeedec75c463998, blockOf 0x9b4fea9c6fbe69fe8a299ba7d49bfa99)]

/-- A cipher with these values, and the identity elsewhere. -/
def testCipher : BlockCipher Bytes Block :=
  .ofPerm fun key =>
    if key = vectorPublic then
      (testPairs.map fun pair => Equiv.swap pair.1 pair.2).foldr
        (fun first rest => first * rest) 1
    else 1

/-- What the test of CBC prints. -/
def encVerifyText (aes : BlockCipher Bytes Block) (key : Bytes) (nonce : Block) (data : Bytes) :
    Bytes :=
  hexLine "@cipher: " (joinBlocks (Cbc.crypt aes key .encrypt nonce (toBlocks data))) ++
    hexLine "decrypted to: " data ++ asciiText "verify ok\n"

/-- What the test of GCM prints. -/
def gcmVerifyText (aes : BlockCipher Bytes Block) (key : Bytes) (nonce : Block) (data : Bytes) :
    Bytes :=
  let cipher := Gcm.crypt aes key nonce 0 data
  hexLine "@cipher: " cipher ++ hexLine "@tag: " (Gcm.tag aes key nonce [] cipher).1 ++
    hexLine "decrypted to: " data ++ asciiText "verify ok\n"

/-- What the test of GCM prints in a build without it. -/
def gcmRefusedText : Bytes :=
  asciiText "gp_symmetric_key_gcm_verify_test:75 TEE_AllocateOperation fails (ffff000a)\n"

theorem returns_gpSymmetricKeyEncVerifyTest (laws : build.CbcLaws aes)
    {supplies : Supplies build.backend} (ample : supplies.Ample) {data : Bytes}
    (data_length : data.length = 256) (stdio : Stdio) (verbose : Bool) (frame : Memory)
    (printed : Bytes) :
    (gpSymmetricKeyEncVerifyTest stdio verbose frame data).Returns ⟨supplies, printed⟩ ()
      ⟨supplies.afterKeyTest, printed ++
        encVerifyText aes (supplies.generated teeTypeAes).publicKey (nonce supplies) data⟩ := by
  set key := (supplies.generated teeTypeAes).publicKey with key_eq
  set cipher := joinBlocks (Cbc.crypt aes key .encrypt (nonce supplies) (toBlocks data))
    with cipher_def
  have aligned : Aligned data := ⟨16, data_length⟩
  have iv_length : (supplies.afterRandom.random 16).length = 16 := Memory.length_read _ _ _
  set memory := prepared frame data (supplies.afterRandom.random 16) with memory_eq
  have input_eq : sealing.input memory = data := read_data_prepared data_length _
  obtain ⟨sealer, started, sealed, last, set_eq, init_eq, update_eq, succeeds, cipher_eq, kept⟩ :=
    @CryptLib.CbcLaws.crypts build aes laws supplies teeModeEncrypt .encrypt rfl memory ivAt
      sealing (input_eq.symm ▸ aligned)
  rw [input_eq, memory_eq, read_iv_prepared iv_length] at cipher_eq
  have out_eq : sealed.memory.read outAt 256 = cipher := cipher_eq
  have iv_kept : sealed.memory.read ivAt 16 = supplies.afterRandom.random 16 :=
    (kept (.inl (by decide))).trans (read_iv_prepared iv_length)
  have data_kept : sealed.memory.read dataAt 256 = data :=
    (kept (.inl (by decide))).trans (read_data_prepared data_length _)
  obtain ⟨opener, started', opened, last', set_eq', init_eq', update_eq', succeeds', plain_eq, kept'⟩ :=
    @CryptLib.CbcLaws.crypts build aes laws supplies teeModeDecrypt .decrypt rfl sealed.memory ivAt
      inPlace ⟨16, Memory.length_read _ _ _⟩
  have decrypted : opened.memory.read outAt 256 = data := by
    have input_eq' : inPlace.input sealed.memory = cipher := out_eq
    rw [input_eq', iv_kept, toBlocks_joinBlocks] at plain_eq
    exact plain_eq.trans (by
      rw [show Block.ofBytes (supplies.afterRandom.random 16) = nonce supplies from rfl,
        Cbc.decrypt_encrypt, joinBlocks_toBlocks aligned])
  have data_kept' : opened.memory.read dataAt 256 = data :=
    (kept' (.inl (by decide))).trans data_kept
  have drawn := ample.afterObject.afterRandom
  rw [encVerifyText, ← cipher_def, ← List.append_assoc, ← List.append_assoc]
  unfold gpSymmetricKeyEncVerifyTest
  refine returns_bind (returns_allocateTransientObject ample printed (.inr (.inr rfl)) (by decide))
    (returns_gpAssert (returns_bind (returns_valueOf _ _) ?_))
  refine returns_bind (returns_generateKey ample.afterObject printed teeTypeAes)
    (returns_gpAssert ?_)
  refine returns_bind (returns_allocateFresh drawn printed fun _ => rfl)
    (returns_gpAssert (returns_bind (returns_valueOf _ _) ?_))
  rw [show supplies.afterObject.generated teeTypeAes = supplies.generated teeTypeAes from rfl]
  simp only [set_eq]
  refine returns_gpAssert (returns_bind (returns_generateRandom drawn.afterOperation printed 16) ?_)
  rw [show supplies.afterObject.afterRandom.afterOperation.random 16 =
    supplies.afterRandom.random 16 from rfl, ← memory_eq]
  simp only [init_eq, update_eq, succeeds]
  refine returns_bind (returns_finish () _) (returns_bind (returns_finish TeeResult.success _)
    (returns_gpAssert (returns_bind (returns_dumpLine stdio (by decide +kernel) (by decide) _ _)
      ?_)))
  refine returns_bind (returns_allocateFresh drawn.afterOperation.afterRandom _ fun _ => rfl)
    (returns_gpAssert (returns_bind (returns_valueOf _ _) ?_))
  simp only [set_eq', init_eq', update_eq', succeeds', build.free_generated, out_eq, decrypted,
    data_kept']
  refine returns_gpAssert (returns_bind (returns_finish () _)
    (returns_bind (returns_finish TeeResult.success _) (returns_gpAssert ?_)))
  refine returns_bind (returns_finish () _) (returns_bind
    (returns_dumpLine stdio (by decide +kernel) (by decide) data _) ?_)
  exact returns_verify stdio data_length.ge data_length.ge rfl _

/-- In every build the test encrypts the data under its new key and nonce, and gets it back. -/
theorem gp_symmetric_key_enc_verify_test_verifies (laws : build.CbcLaws aes)
    {supplies : Supplies build.backend} (ample : supplies.Ample) {data : Bytes}
    (data_length : data.length = 256) (stdio : Stdio) (verbose : Bool) (frame : Memory)
    (printed : Bytes) :
    let key := (supplies.generated teeTypeAes).publicKey
    let cipher := joinBlocks (Cbc.crypt aes key .encrypt (nonce supplies) (toBlocks data))
    ∃ after, after.Ample ∧
      (gpSymmetricKeyEncVerifyTest stdio verbose frame data).Returns ⟨supplies, printed⟩ ()
        ⟨after, printed ++ hexLine "@cipher: " cipher ++ hexLine "decrypted to: " data ++
          asciiText "verify ok\n"⟩ := by
  have returns := returns_gpSymmetricKeyEncVerifyTest laws ample data_length stdio verbose frame
    printed
  rw [encVerifyText, ← List.append_assoc, ← List.append_assoc] at returns
  exact ⟨supplies.afterKeyTest, ample.afterKeyTest, returns⟩

/-- The build with tiny-AES. -/
theorem gp_symmetric_key_enc_verify_test_verifies_published :
    let supplies := Supplies.published (CryptLib.Kind.tiny.build testCipher).backend
    let key := (supplies.generated teeTypeAes).publicKey
    let cipher := joinBlocks (Cbc.crypt testCipher key .encrypt
      (@nonce (CryptLib.Kind.tiny.build testCipher) supplies) (toBlocks testDat))
    ∃ after, after.Ample ∧
      (gpSymmetricKeyEncVerifyTest .usual true (fun _ => 7) testDat).Returns ⟨supplies, []⟩ ()
        ⟨after, [] ++ hexLine "@cipher: " cipher ++ hexLine "decrypted to: " testDat ++
          asciiText "verify ok\n"⟩ := by
  have laws : (CryptLib.Kind.tiny.build testCipher).CbcLaws testCipher :=
    ⟨_, TinyAes.reference_cbcLaws testCipher⟩
  exact gp_symmetric_key_enc_verify_test_verifies laws (Supplies.published_ample _) length_testDat
    .usual true (fun _ => 7) []

theorem returns_gpSymmetricKeyGcmVerifyTest (laws : build.PartsLaws aes)
    (supported : build.backend.supportsGcm = true) (makes : build.MakesKeys)
    {supplies : Supplies build.backend} (ample : supplies.Ample) {data : Bytes}
    (data_length : data.length = 256) (stdio : Stdio) (verbose : Bool) (frame : Memory)
    (printed : Bytes) :
    (gpSymmetricKeyGcmVerifyTest stdio verbose frame data).Returns ⟨supplies, printed⟩ ()
      ⟨supplies.afterKeyTest, printed ++
        gcmVerifyText aes (supplies.generated teeTypeAes).publicKey (nonce supplies) data⟩ := by
  set key := (supplies.generated teeTypeAes).publicKey with key_eq
  set cipher := Gcm.crypt aes key (nonce supplies) 0 data with cipher_def
  set tag := Gcm.tag aes key (nonce supplies) [] cipher with tag_def
  obtain ⟨keyed, feeds, laws, inside⟩ := laws.contained supported
  have admitted : ¬ (teeAlgAesGcm = teeAlgAesGcm ∧ build.backend.supportsGcm = false) := by
    rw [supported]
    decide
  have iv_length : (supplies.afterRandom.random 16).length = 16 := Memory.length_read _ _ _
  have cipher_length : cipher.length = 256 := (Gcm.length_crypt ..).trans data_length
  set memory := prepared frame data (supplies.afterRandom.random 16) with memory_eq
  have data_eq : memory.read dataAt 256 = data := read_data_prepared data_length _
  have iv_eq : memory.read ivAt 16 = supplies.afterRandom.random 16 := read_iv_prepared iv_length
  -- `memset` of `tag` leaves the other variables
  set zeroed := memory.write tagAt (List.replicate 16 0) with zeroed_eq
  have apart : ∀ address count, address + count ≤ tagAt →
      zeroed.read address count = memory.read address count :=
    fun address count below => Memory.read_write_of_disjoint (.inl below)
  obtain ⟨sealer, started, set_eq, init_eq, feeding⟩ :=
    @feeding_generated build aes keyed feeds laws makes supplies teeModeEncrypt .encrypt rfl memory
      ivAt
  rw [iv_eq] at feeding
  obtain ⟨sealed, last, seal_eq, succeeds, sealed_eq⟩ :=
    @seal_whole build aes keyed feeds laws started key (nonce supplies) feeding sealing
      ⟨rfl, rfl⟩ (by decide) zeroed 256 tagAt
  have input_eq : sealing.input zeroed = data := (apart dataAt 256 (by decide)).trans data_eq
  rw [input_eq] at sealed_eq
  have tag_read : sealed.memory.read tagAt 16 = tag.1 := by
    rw [sealed_eq]
    exact Memory.read_write_block _ _ _
  have tag_apart : ∀ address count, address + count ≤ tagAt →
      sealed.memory.read address count =
        (sealing.store zeroed cipher).read address count := by
    intro address count below
    rw [sealed_eq]
    exact Memory.read_write_of_disjoint (.inl below)
  have out_eq : sealed.memory.read outAt 256 = cipher :=
    (tag_apart outAt 256 (by decide)).trans (sealing.output_store zeroed cipher_length)
  have kept : ∀ address count, address + count ≤ outAt →
      sealed.memory.read address count = memory.read address count := by
    intro address count below
    have below_tag : address + count ≤ tagAt := Nat.le_trans below (by decide)
    rw [tag_apart address count below_tag, Buffers.read_store cipher_length (.inl below),
      apart address count below_tag]
  obtain ⟨opener, started', set_eq', init_eq', feeding'⟩ :=
    @feeding_generated build aes keyed feeds laws makes supplies teeModeDecrypt .decrypt rfl
      sealed.memory ivAt
  rw [kept ivAt 16 (by decide), iv_eq] at feeding'
  have input_eq' : opening.input sealed.memory = cipher := out_eq
  obtain ⟨opened, last', open_eq, succeeds', plain_eq, kept'⟩ :=
    @open_whole build aes keyed feeds laws started' key (nonce supplies) inside feeding' opening
      ⟨rfl, rfl⟩ (by decide) sealed.memory 256 tagAt (.inl (by decide))
      (by rw [tag_read, input_eq'])
  have decoded : opened.memory.read decodeAt 256 = data := by
    rw [input_eq', Gcm.crypt_crypt] at plain_eq
    exact plain_eq
  have data_kept : opened.memory.read dataAt 256 = data :=
    (kept' dataAt 256 (.inl (by decide))).trans ((kept dataAt 256 (by decide)).trans data_eq)
  have drawn := ample.afterObject.afterRandom
  rw [gcmVerifyText, ← cipher_def, ← tag_def, ← List.append_assoc, ← List.append_assoc,
    ← List.append_assoc]
  unfold gpSymmetricKeyGcmVerifyTest
  refine returns_bind (returns_allocateTransientObject ample printed (.inr (.inr rfl)) (by decide))
    (returns_gpAssert (returns_bind (returns_valueOf _ _) ?_))
  refine returns_bind (returns_generateKey ample.afterObject printed teeTypeAes)
    (returns_gpAssert ?_)
  refine returns_bind (returns_allocateFresh drawn printed fun _ => if_neg admitted)
    (returns_gpAssert (returns_bind (returns_valueOf _ _) ?_))
  rw [show supplies.afterObject.generated teeTypeAes = supplies.generated teeTypeAes from rfl]
  simp only [set_eq]
  refine returns_gpAssert (returns_bind (returns_generateRandom drawn.afterOperation printed 16) ?_)
  rw [show supplies.afterObject.afterRandom.afterOperation.random 16 =
    supplies.afterRandom.random 16 from rfl, ← memory_eq]
  simp only [init_eq, ← zeroed_eq, seal_eq, succeeds, out_eq, tag_read]
  refine returns_bind (returns_finish TeeResult.success _) (returns_gpAssert
    (returns_bind (returns_finish TeeResult.success _) ?_))
  refine returns_bind (returns_dumpLine stdio (by decide +kernel) (by decide) _ _)
    (returns_bind (returns_dumpLine stdio (by decide +kernel) (by decide) _ _) ?_)
  refine returns_bind (returns_allocateFresh drawn.afterOperation.afterRandom _
    fun _ => if_neg admitted) (returns_gpAssert (returns_bind (returns_valueOf _ _) ?_))
  simp only [set_eq', init_eq', open_eq, succeeds', build.free_generated, decoded, data_kept]
  refine returns_gpAssert (returns_bind (returns_finish TeeResult.success _) (returns_gpAssert
    (returns_bind (returns_finish TeeResult.success _) (returns_gpAssert ?_))))
  refine returns_bind (returns_finish () _) (returns_bind
    (returns_dumpLine stdio (by decide +kernel) (by decide) data _) ?_)
  exact returns_verify stdio data_length.ge data_length.ge rfl _

section Unsupported

variable (unsupported : build.backend.supportsGcm = false) {supplies : Supplies build.backend}
  (ample : supplies.Ample) (data : Bytes) (stdio : Stdio) (frame : Memory) (printed : Bytes)

include unsupported

theorem returns_allocateOperation_unsupported :
    (allocateOperation teeAlgAesGcm teeModeEncrypt 256).Returns ⟨supplies, printed⟩
      (.errorNotSupported, none) ⟨supplies.afterOperation, printed⟩ := by
  apply returns_call
  unfold teeAllocateOperation
  dsimp only
  rw [if_neg (by decide), if_pos (.inl rfl), if_neg (by decide), if_pos ⟨rfl, unsupported⟩]

include ample

/-- Where a build has no AES-GCM the test reports the operation that it does not get. -/
theorem returns_gpSymmetricKeyGcmVerifyTest_unsupported :
    (gpSymmetricKeyGcmVerifyTest stdio true frame data).Returns ⟨supplies, printed⟩ ()
      ⟨supplies.afterObject.afterRandom.afterOperation, printed ++ gcmRefusedText⟩ := by
  have sends : Printf.fctprintf Printf.Doubles.exact stdio.charType Printf.collect []
      (asciiText "%s:%d %s (%x)\n")
      [.string (asciiText "gp_symmetric_key_gcm_verify_test"), .int 75,
        .string (asciiText "TEE_AllocateOperation fails"),
        .int TeeResult.errorNotSupported.code] = .ok (75, gcmRefusedText ++ [0]) := by
    cases stdio.charType <;> decide +kernel
  have moderate : Printf.Moderate Printf.Doubles.exact
      [.string (asciiText "gp_symmetric_key_gcm_verify_test"), .int 75,
        .string (asciiText "TEE_AllocateOperation fails"),
        Printf.Argument.int TeeResult.errorNotSupported.code] := fun value member => by
    simp at member
  unfold gpSymmetricKeyGcmVerifyTest
  refine returns_bind (returns_allocateTransientObject ample printed (.inr (.inr rfl)) (by decide))
    (returns_gpAssert (returns_bind (returns_valueOf _ _) ?_))
  refine returns_bind (returns_generateKey ample.afterObject printed teeTypeAes)
    (returns_gpAssert (returns_bind (returns_allocateOperation_unsupported unsupported printed) ?_))
  exact returns_teePrintf moderate sends (by decide) (by decide +kernel) _

/-- Where it reports nothing it goes on with a handle that nothing has set. -/
theorem stops_gpSymmetricKeyGcmVerifyTest_unsupported :
    (gpSymmetricKeyGcmVerifyTest stdio false frame data).run ⟨supplies, printed⟩ =
      .error .undefined := by
  unfold gpSymmetricKeyGcmVerifyTest
  refine stops_later (returns_allocateTransientObject ample printed (.inr (.inr rfl)) (by decide)) ?_
  refine stops_later (returns_valueOf _ _) ?_
  refine stops_later (returns_generateKey ample.afterObject printed teeTypeAes) ?_
  refine stops_later (returns_allocateOperation_unsupported unsupported printed) ?_
  exact stops_bind _ rfl

end Unsupported

/-- In every build with AES-GCM the test seals the data under its new key and nonce, and opens what
it got. -/
theorem gp_symmetric_key_gcm_verify_test_verifies (laws : build.PartsLaws aes)
    (supported : build.backend.supportsGcm = true) (makes : build.MakesKeys)
    {supplies : Supplies build.backend} (ample : supplies.Ample) {data : Bytes}
    (data_length : data.length = 256) (stdio : Stdio) (verbose : Bool) (frame : Memory)
    (printed : Bytes) :
    let key := (supplies.generated teeTypeAes).publicKey
    let cipher := Gcm.crypt aes key (nonce supplies) 0 data
    let tag := Gcm.tag aes key (nonce supplies) [] cipher
    ∃ after, after.Ample ∧
      (gpSymmetricKeyGcmVerifyTest stdio verbose frame data).Returns ⟨supplies, printed⟩ ()
        ⟨after, printed ++ hexLine "@cipher: " cipher ++ hexLine "@tag: " tag.1 ++
          hexLine "decrypted to: " data ++ asciiText "verify ok\n"⟩ := by
  intro key cipher tag
  have returns := returns_gpSymmetricKeyGcmVerifyTest laws supported makes ample data_length stdio
    verbose frame printed
  rw [gcmVerifyText, ← List.append_assoc, ← List.append_assoc, ← List.append_assoc] at returns
  exact ⟨supplies.afterKeyTest, ample.afterKeyTest, returns⟩

/-- The build with wolfCrypt. -/
theorem gp_symmetric_key_gcm_verify_test_verifies_published :
    let supplies := Supplies.published (CryptLib.Kind.wolfcrypt.build testCipher).backend
    let key := (supplies.generated teeTypeAes).publicKey
    let nonce := @nonce (CryptLib.Kind.wolfcrypt.build testCipher) supplies
    let cipher := Gcm.crypt testCipher key nonce 0 testDat
    let tag := Gcm.tag testCipher key nonce [] cipher
    ∃ after, after.Ample ∧
      (gpSymmetricKeyGcmVerifyTest .usual true (fun _ => 7) testDat).Returns ⟨supplies, []⟩ ()
        ⟨after, [] ++ hexLine "@cipher: " cipher ++ hexLine "@tag: " tag.1 ++
          hexLine "decrypted to: " testDat ++ asciiText "verify ok\n"⟩ :=
  gp_symmetric_key_gcm_verify_test_verifies (CryptLib.Kind.wolfcrypt.build_partsLaws testCipher)
    (CryptLib.Kind.build_supports testCipher (by decide))
    (CryptLib.Kind.wolfcrypt.build_makesKeys testCipher) (Supplies.published_ample _)
    length_testDat .usual true (fun _ => 7) []

end Program
end TaRef
