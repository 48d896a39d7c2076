import TaRef.Operation.DigestSession
import TaRef.Programs.Cryptography

/-!
# The tests of digests and of key pairs

`gp_message_digest_test` prints the digest of some data.  `gp_asymmetric_key_sign_test` does so too,
signs the digest with a new key pair, and verifies the signature.
-/

namespace TaRef
namespace Program

variable {backend : Backend}

/-- Addresses of the local variables `hash` and `sig` of both tests; `data` is where the tests of
symmetric keys have it. -/
def hashAt : Nat := 256
def sigAt : Nat := 288

/-- The lines of both tests that take the digest of `data` and print it; `allocated` and `finished`
are the lines of their assertions. -/
def digesting (stdio : Stdio)
    (assert : UInt32 → TeeResult → String → Program (Supplies backend) Unit →
      Program (Supplies backend) Unit)
    (allocated finished : UInt32) (label : String) (memory : Memory)
    (rest : Memory → Nat → Program (Supplies backend) Unit) : Program (Supplies backend) Unit := do
  let (rv, handle) ← allocateOperation teeAlgSha256 teeModeDigest 32
  assert allocated rv "TEE_AllocateOperation fails" do
    let handle ← valueOf handle
    let (exit, handle) := teeDigestUpdate handle memory (some 0) 256
    finish exit
    let (output, _) := teeDigestDoFinal handle memory none 0 (some hashAt) 32
    let rv ← finish output.exit
    assert finished rv "TEE_DigestDoFinal fails" do
      dumpLine stdio label (output.memory.read hashAt 32)
      rest output.memory (output.destLen.getD 32)

/-- `gp_message_digest_test`; `frame` is the memory that it finds, and `data` is `test.dat`. -/
def gpMessageDigestTest (stdio : Stdio) (verbose : Bool) (frame : Memory) (data : Bytes) :
    Program (Supplies backend) Unit :=
  digesting stdio (gpAssert stdio verbose "gp_message_digest_test") 62 67 "hash: "
    (frame.write 0 data) fun _ _ => pure ()

/-- `gp_asymmetric_key_sign_test` -/
def gpAsymmetricKeySignTest (stdio : Stdio) (verbose : Bool) (frame : Memory) (data : Bytes) :
    Program (Supplies backend) Unit :=
  let assert := gpAssert stdio verbose "gp_asymmetric_key_sign_test"
  digesting stdio assert 80 85 "@digest: " (frame.write 0 data) fun memory hashlen => do
    let (rv, handle) ← allocateOperation teeAlgEcdsaP256 teeModeSign 256
    assert 101 rv "TEE_AllocateOperation fails" do
      let (rv, keypair) ← allocateTransientObject teeTypeEcdsaKeypair 256
      assert 105 rv "TEE_AllocateTransientObject fails" do
        let keypair ← valueOf keypair
        let (rv, keypair) ← generateKey keypair
        assert 113 rv "TEE_GenerateKey fails" do
          let handle ← valueOf handle
          let (rv, handle) := teeSetOperationKey handle (some keypair)
          assert 116 rv "TEE_SetOperationKey fails" do
            let output := teeAsymmetricSignDigest handle memory hashAt hashlen sigAt
            let rv ← finish output.exit
            assert 119 rv "TEE_AsymmetricSignDigest fails" do
              let memory := output.memory
              let siglen := output.destLen.getD 64
              dumpLine stdio "@signature: " (memory.read sigAt siglen)
              let (rv, handle) ← allocateOperation teeAlgEcdsaP256 teeModeVerify 256
              assert 132 rv "TEE_AllocateOperation fails" do
                let handle ← valueOf handle
                let (rv, handle) := teeSetOperationKey handle (some keypair)
                assert 135 rv "TEE_SetOperationKey fails" do
                  let verifyOk := teeAsymmetricVerifyDigest handle memory hashAt hashlen sigAt siglen
                  teePrintf stdio (asciiText "@@TEE_FreeOperation: \n") []
                  finish (teeFreeTransientObject keypair)
                  if verifyOk = .success then teePrintf stdio (asciiText "verify ok\n") []
                  else teePrintf stdio (asciiText "verify fails\n") []

/-! ## Digests -/

section Digest

variable {supplies : Supplies backend} (ample : supplies.Ample)
  {hash : Bytes → Bytes} {absorbs : backend.sha3.Context → Bytes → Prop}
  (hashes : backend.sha3.Laws hash absorbs)

include ample hashes

/-- Both tests go on with the digest of their data. -/
theorem returns_digesting (stdio : Stdio) (verbose : Bool) (function : String)
    (allocated finished : UInt32) {label : String}
    (plain : ∀ character ∈ asciiText label, character ≠ Printf.ascii '%' ∧ character ≠ 0)
    (short : (asciiText label).length < 256) (frame : Memory) {data : Bytes}
    (data_length : data.length = 256) (printed : Bytes)
    {rest : Memory → Nat → Program (Supplies backend) Unit} {after : Process (Supplies backend)}
    (continues : ∀ memory : Memory, memory.read hashAt 32 = hash data →
      (rest memory 32).Returns
        ⟨supplies.afterOperation, printed ++ hexLine label (hash data)⟩ () after) :
    (digesting stdio (gpAssert stdio verbose function) allocated finished label
      (frame.write 0 data) rest).Returns ⟨supplies, printed⟩ () after := by
  let session : DigestSession :=
    { steps := [.update (frame.write 0 data) (some 0) 256]
      memory := frame.write 0 data
      chunk := none
      chunkLen := 0
      hash := hashAt
      hashLen := 32
      null := fun _ => rfl
      room := Nat.le_refl 32 }
  have message_eq : session.message = data := by
    have data_read := Memory.read_write frame 0 data
    rw [data_length] at data_read
    have nothing : (frame.write 0 data).read 0 0 = [] := rfl
    rw [DigestSession.message, DigestSession.absorbed, List.map_singleton, List.flatten_singleton,
      DigestStep.part, Option.getD_some, Option.getD_none, nothing, List.append_nil]
    exact data_read
  obtain ⟨handle, allocates⟩ : ∃ handle : Option backend.Operation → backend.Operation,
      ∀ residue, teeAllocateOperation backend (some residue) teeAlgSha256 teeModeDigest 32 =
        (.success, some (handle (some residue))) :=
    ⟨fun residue => (teeAllocateOperation backend residue teeAlgSha256 teeModeDigest 32).2.getD
      (Operation.fresh backend 0 0), fun _ => rfl⟩
  obtain ⟨residue, residue_eq⟩ := Option.ne_none_iff_exists'.mp (ample.operations 0)
  have head_eq : supplies.operations.head = some residue := residue_eq
  have absorbing := Operation.absorbing_allocated hashes (allocates residue)
  obtain ⟨-, -, -, -, -, -, -, -, delivers⟩ :=
    absorbing.perform hashes.toAccumulates session ⟨trivial, trivial⟩
  obtain ⟨updated, update_eq⟩ : ∃ updated,
      teeDigestUpdate (handle (some residue)) (frame.write 0 data) (some 0) 256 =
        (.returned (), updated) :=
    ⟨_, if_neg absorbing.admitted⟩
  obtain ⟨output, last, final_eq⟩ : ∃ output last,
      teeDigestDoFinal updated (frame.write 0 data) none 0 (some hashAt) 32 = (output, last) :=
    ⟨_, _, rfl⟩
  have result_eq : session.result (handle (some residue)) = output := by
    simp only [DigestSession.result, DigestSession.perform, DigestSession.calls, session,
      List.map_cons, List.map_nil, Machine.final_cons, Machine.final_nil, DigestStep.invocation,
      Operation.step_some, Invocation.perform, update_eq]
    exact congrArg Prod.fst final_eq
  rw [result_eq, message_eq, List.nil_append] at delivers
  obtain ⟨succeeds, destLen_eq, memory_eq⟩ := delivers
  have hash_eq : output.memory.read hashAt 32 = hash data := memory_eq
  unfold digesting
  refine returns_bind (returns_allocateOperation ample printed allocates)
    (returns_gpAssert (returns_bind (returns_valueOf _ _) ?_))
  rw [head_eq]
  simp only [update_eq, final_eq]
  rw [show output.exit = .returned .success from succeeds]
  refine returns_bind (returns_finish () _) (returns_bind (returns_finish TeeResult.success _)
    (returns_gpAssert ?_))
  rw [hash_eq, destLen_eq]
  exact returns_bind (returns_dumpLine stdio plain short _ _) (continues output.memory hash_eq)

/-- The test prints the digest of its data. -/
theorem returns_gpMessageDigestTest (stdio : Stdio) (verbose : Bool) (frame : Memory)
    {data : Bytes} (data_length : data.length = 256) (printed : Bytes) :
    (gpMessageDigestTest stdio verbose frame data).Returns ⟨supplies, printed⟩ ()
      ⟨supplies.afterOperation, printed ++ hexLine "hash: " (hash data)⟩ :=
  returns_digesting ample hashes stdio verbose _ 62 67 (by decide +kernel) (by decide) frame
    data_length printed fun _ _ => returns_pure _ _

end Digest

/-! ## Signatures -/

section Signature

variable {build : CryptLib} (supplies : Supplies build.backend) (memory : Memory)
  (digest digestLen signature : Nat)

/-- `TEE_AsymmetricSignDigest` with a generated pair. -/
theorem signs_generated :
    ∃ keyed,
      teeSetOperationKey (Operation.fresh build.backend teeAlgEcdsaP256 teeModeSign)
        (some (supplies.generated teeTypeEcdsaKeypair)) = (.success, keyed) ∧
      teeAsymmetricSignDigest keyed memory digest digestLen signature =
        { exit := .returned .success
          destLen := some sigLength
          memory := memory.write signature
            (build.signature supplies.seed (memory.read digest digestLen)) } := by
  have signs := CryptLib.sign_generated supplies
    (Operation.fresh build.backend teeAlgEcdsaP256 teeModeSign) (memory.read digest digestLen)
  rw [CryptLib.setOperationKey_pair] at signs ⊢
  refine ⟨_, rfl, ?_⟩
  rw [teeAsymmetricSignDigest, if_neg, if_neg, signs]
  · dsimp only
    rw [hasFlag_or_self]
    decide
  · cases build <;> exact not_or.mpr ⟨not_not.mpr rfl, not_not.mpr rfl⟩

/-- `TEE_AsymmetricVerifyDigest` of such a signature. -/
theorem verifies_generated (laws : build.PairLaws)
    (signed : memory.read signature sigLength =
      build.signature supplies.seed (memory.read digest digestLen)) :
    ∃ keyed,
      teeSetOperationKey (Operation.fresh build.backend teeAlgEcdsaP256 teeModeVerify)
        (some (supplies.generated teeTypeEcdsaKeypair)) = (.success, keyed) ∧
      teeAsymmetricVerifyDigest keyed memory digest digestLen signature sigLength = .success := by
  have verifies := laws.verify_generated supplies
    (Operation.fresh build.backend teeAlgEcdsaP256 teeModeVerify) (memory.read digest digestLen)
  rw [← signed, CryptLib.setOperationKey_pair] at verifies
  rw [CryptLib.setOperationKey_pair]
  refine ⟨_, rfl, World.teeAsymmetricVerifyDigest_of_accepted ?_ rfl ?_ verifies⟩
  · cases build <;> rfl
  · exact hasFlag_or_self _

end Signature

/-- What the test of key pairs leaves. -/
def afterSignTest {build : CryptLib} (supplies : Supplies build.backend) :
    Supplies build.backend :=
  supplies.afterOperation.afterOperation.afterObject.afterRandom.afterOperation

/-- What it prints. -/
def signText (digest signature : Bytes) : Bytes :=
  hexLine "@digest: " digest ++ hexLine "@signature: " signature ++
    asciiText "@@TEE_FreeOperation: \n" ++ asciiText "verify ok\n"

section Test

variable {build : CryptLib} {hash : Bytes → Bytes}
  {absorbs : build.backend.sha3.Context → Bytes → Prop}
  (hashes : build.backend.sha3.Laws hash absorbs) (laws : build.PairLaws)
  {supplies : Supplies build.backend} (ample : supplies.Ample) {data : Bytes}
  (data_length : data.length = 256) (stdio : Stdio) (verbose : Bool) (frame : Memory)
  (printed : Bytes)

include hashes laws ample data_length

theorem returns_gpAsymmetricKeySignTest :
    (gpAsymmetricKeySignTest stdio verbose frame data).Returns ⟨supplies, printed⟩ ()
      ⟨afterSignTest supplies, printed ++
        signText (hash data) (build.signature supplies.seed (hash data))⟩ := by
  have digested := ample.afterOperation
  have drawn := digested.afterOperation.afterObject.afterRandom
  rw [signText, ← List.append_assoc, ← List.append_assoc, ← List.append_assoc]
  unfold gpAsymmetricKeySignTest
  refine returns_digesting ample hashes stdio verbose _ 80 85 (by decide +kernel) (by decide) frame
    data_length printed fun memory hash_eq => ?_
  obtain ⟨signer, set_eq, sign_eq⟩ := @signs_generated build supplies memory hashAt 32 sigAt
  rw [hash_eq] at sign_eq
  set signature := build.signature supplies.seed (hash data) with signature_eq
  have sig_read : (memory.write sigAt signature).read sigAt sigLength = signature := by
    rw [← laws.length_signature supplies.seed (hash data)]
    exact Memory.read_write memory sigAt signature
  have hash_kept : (memory.write sigAt signature).read hashAt 32 = hash data :=
    (Memory.read_write_of_disjoint (.inl (by decide))).trans hash_eq
  obtain ⟨verifier, set_eq', verify_eq⟩ := verifies_generated supplies
    (memory.write sigAt signature) hashAt 32 sigAt laws (by rw [sig_read, hash_kept])
  refine returns_bind (returns_allocateFresh digested _ fun _ => rfl) (returns_gpAssert ?_)
  refine returns_bind (returns_allocateTransientObject digested.afterOperation _ (.inr (.inl rfl))
    (by decide)) (returns_gpAssert (returns_bind (returns_valueOf _ _) ?_))
  refine returns_bind (returns_generateKey digested.afterOperation.afterObject _
    teeTypeEcdsaKeypair) (returns_gpAssert (returns_bind (returns_valueOf _ _) ?_))
  rw [show supplies.afterOperation.afterOperation.afterObject.generated teeTypeEcdsaKeypair =
    supplies.generated teeTypeEcdsaKeypair from rfl]
  simp only [set_eq, sign_eq, Option.getD_some, sig_read]
  refine returns_gpAssert (returns_bind (returns_finish TeeResult.success _) (returns_gpAssert
    (returns_bind (returns_dumpLine stdio (by decide +kernel) (by decide) _ _) ?_)))
  refine returns_bind (returns_allocateFresh drawn _ fun _ => rfl)
    (returns_gpAssert (returns_bind (returns_valueOf _ _) ?_))
  simp only [set_eq', verify_eq, build.free_generated]
  refine returns_gpAssert (returns_bind (returns_message (by decide +kernel) (by decide) _)
    (returns_bind (returns_finish () _) ?_))
  rw [if_pos trivial]
  exact returns_message (by decide +kernel) (by decide) _

/-- In every build the test prints the digest of its data and a signature of it with its new pair,
and then accepts the signature. -/
theorem gp_asymmetric_key_sign_test_verifies :
    ∃ after, after.Ample ∧
      (gpAsymmetricKeySignTest stdio verbose frame data).Returns ⟨supplies, printed⟩ ()
        ⟨after, printed ++ hexLine "@digest: " (hash data) ++
          hexLine "@signature: " (build.signature supplies.seed (hash data)) ++
          asciiText "@@TEE_FreeOperation: \n" ++ asciiText "verify ok\n"⟩ := by
  have returns := returns_gpAsymmetricKeySignTest hashes laws ample data_length stdio verbose frame
    printed
  rw [signText, ← List.append_assoc, ← List.append_assoc, ← List.append_assoc] at returns
  exact ⟨_, ample.afterOperation.afterOperation.afterObject.afterRandom.afterOperation, returns⟩

end Test

/-- SHA3-256 on `test.dat`. -/
def testHash (message : Bytes) : Bytes :=
  if message = testDat then
    bytesOf 32 0x9b04c091da96b997afb8f2585d608aebe9c4a904f7d52c8f28c7e4d2dd9fba5f
  else List.replicate 32 0

theorem length_testHash (message : Bytes) : (testHash message).length = 32 := by
  unfold testHash
  split <;> rfl

/-- The published key pair, with its signature of that digest. -/
def testSigner : Ed25519 where
  createKeypair := Ed25519.reference.createKeypair
  sign message publicKey _ :=
    if message = testHash testDat ∧ publicKey = vectorPublic then
      bytesOf 32 0x8feddbf78bf901903cf886c86e565c25dbb5c8443334196bfe6c01f2e604008e ++
        bytesOf 32 0x6c7629e32144ff59d92f84be89809d018f31034adf5fab75f36a9f84b4c8fc0a
    else publicKey ++ publicKey
  verify signature message publicKey :=
    signature ==
      if message = testHash testDat ∧ publicKey = vectorPublic then
        bytesOf 32 0x8feddbf78bf901903cf886c86e565c25dbb5c8443334196bfe6c01f2e604008e ++
          bytesOf 32 0x6c7629e32144ff59d92f84be89809d018f31034adf5fab75f36a9f84b4c8fc0a
      else publicKey ++ publicKey

theorem testSigner_laws : testSigner.Laws where
  length_sign seed message := by
    have public_length : (testSigner.createKeypair seed.1).1.length = 32 := by
      simp only [testSigner, Ed25519.reference]
      split
      · rfl
      · exact seed.2
    rw [show testSigner.sign message (testSigner.createKeypair seed.1).1
      (testSigner.createKeypair seed.1).2 = if _ then _ else _ from rfl]
    split
    · rfl
    · rw [List.length_append, public_length]
      rfl
  verify_sign seed message := by simp [testSigner]

/-- The build with mbedtls. -/
theorem gp_asymmetric_key_sign_test_verifies_published :
    let build := CryptLib.mbedcrypt (.reference vectorCipher) (.reference testHash) testSigner
    let supplies := Supplies.published build.backend
    ∃ after, after.Ample ∧
      (gpAsymmetricKeySignTest .usual true (fun _ => 7) testDat).Returns ⟨supplies, []⟩ ()
        ⟨after, [] ++ hexLine "@digest: " (testHash testDat) ++
          hexLine "@signature: " (build.signature supplies.seed (testHash testDat)) ++
          asciiText "@@TEE_FreeOperation: \n" ++ asciiText "verify ok\n"⟩ := by
  intro build supplies
  have hashes : build.backend.sha3.Laws testHash fun context message => context = message :=
    Sha3.reference_laws length_testHash
  exact gp_asymmetric_key_sign_test_verifies hashes testSigner_laws (Supplies.published_ample _)
    length_testDat .usual true (fun _ => 7) []

end Program
end TaRef
