import TaRef.Operation.CbcSession

/-!
# Failures of the libraries

`TEE_CipherUpdate`, `TEE_CipherDoFinal`, `TEE_AsymmetricSignDigest` and `TEE_GenerateKey` drop what
the functions of the library return.  The model of the calls therefore has no place for it, and the
return values are stated beside it, zero for success.  Of the random sources only that of Keystone
without wolfSSL is looked at.
-/

namespace TaRef

/-- What the functions of the library return in the four functions. -/
structure Backend.Status (backend : Backend) where
  /-- For the call that processes some input in `TEE_CipherUpdate`. -/
  cbc : Direction → backend.Operation → Bytes → Int
  /-- For the call that signs a digest. -/
  sign : backend.Operation → Bytes → Int
  /-- For the calls that make a key from random bytes.  With wolfSSL these are `wc_ed25519_init`,
  `wc_ed25519_make_key`, which asks the generator for the bytes, and `wc_ed25519_make_public`. -/
  generate : Bytes → backend.Object → List Int

variable {backend : Backend}

/-- A call of one of the four functions on a handle. -/
inductive DroppingCall (backend : Backend)
  | cipherUpdate (operation : backend.Operation) (buffers : Buffers)
  | cipherDoFinal (operation : backend.Operation) (buffers : Buffers)
  | signDigest (operation : backend.Operation) (digest digestLen signature : Nat)
  | generateKey (object : backend.Object) (draw : Draw)

namespace DroppingCall

/-- What the functions of the library return that a cipher call makes. -/
def cipherReturns (status : backend.Status) (operation : backend.Operation) (memory : Memory)
    (buffers : Buffers) : List Int :=
  if operation.alg ≠ teeAlgAesCbcNopad then []
  else
    match Operation.directionOf operation.mode with
    | some direction => [status.cbc direction operation (buffers.input memory)]
    | none => []

/-- What the functions of the library and the random source return that a call makes, and that it
does not look at. -/
def returns (status : backend.Status) (memory : Memory) : DroppingCall backend → List Int
  | cipherUpdate operation buffers | cipherDoFinal operation buffers =>
      cipherReturns status operation memory buffers
  | signDigest operation digest digestLen _ =>
      if operation.mode ≠ teeModeSign ∨ operation.alg ≠ teeAlgEcdsaP256 then []
      else if hasFlag operation.flags teeHandleFlagKeySet = false then []
      else [status.sign operation (memory.read digest digestLen)]
  | generateKey object draw =>
      if hasFlag object.flags teeHandleFlagKeySet then []
      else
        match draw with
        | .panicked => []
        | .delivered rv seed => rv :: status.generate seed object

/-- All of these succeed. -/
def Succeeds (call : DroppingCall backend) (status : backend.Status) (memory : Memory) : Prop :=
  ∀ rv ∈ call.returns status memory, rv = 0

/-- The random source fails in a panic. -/
def lacksRandom : DroppingCall backend → Prop
  | generateKey object draw => hasFlag object.flags teeHandleFlagKeySet = false ∧ draw = .panicked
  | _ => False

/-- A failure of the call: it returns no success, and leaves the caller's output length, the
chaining value and `TEE_HANDLE_FLAG_KEY_SET`. -/
def FailsCleanly (memory : Memory) : DroppingCall backend → Prop
  | cipherUpdate operation buffers =>
      let result := teeCipherUpdate operation memory buffers
      result.1.exit ≠ .returned .success ∧ result.1.destLen = none ∧
        result.2.aeiv = operation.aeiv ∧ result.2.aectx = operation.aectx
  | cipherDoFinal operation buffers =>
      let result := teeCipherDoFinal operation memory buffers
      result.1.exit ≠ .returned .success ∧ result.1.destLen = none ∧
        result.2.aeiv = operation.aeiv ∧ result.2.aectx = operation.aectx
  | signDigest operation digest digestLen signature =>
      let output := teeAsymmetricSignDigest operation memory digest digestLen signature
      output.exit ≠ .returned .success ∧ output.destLen = none
  | generateKey object draw =>
      let result := teeGenerateKey object draw
      result.1 ≠ .returned .success ∧
        hasFlag result.2.flags teeHandleFlagKeySet = hasFlag object.flags teeHandleFlagKeySet

/-- A failure of the random source or of the library is a failure of the call. -/
def ReportsFailures (call : DroppingCall backend) (status : backend.Status) (memory : Memory) :
    Prop :=
  call.lacksRandom ∨ (∃ rv ∈ call.returns status memory, rv ≠ 0) → call.FailsCleanly memory

/-- A cipher call that makes a call of the library succeeds. -/
theorem teeCipherUpdate_succeeds {status : backend.Status} {operation : backend.Operation}
    {memory : Memory} {buffers : Buffers} {rv : Int}
    (made : rv ∈ cipherReturns status operation memory buffers) :
    (teeCipherUpdate operation memory buffers).1.exit = .returned .success := by
  unfold cipherReturns Operation.directionOf at made
  unfold teeCipherUpdate
  split at made
  · cases made
  rename_i alg
  rw [if_neg alg]
  by_cases encrypt : operation.mode = teeModeEncrypt
  · simp only [if_pos encrypt]
  by_cases decrypt : operation.mode = teeModeDecrypt
  · simp only [if_neg encrypt, if_pos decrypt]
  · simp [if_neg encrypt, if_neg decrypt] at made

/-- A call that makes a call of the library succeeds, whatever that returns. -/
theorem not_failsCleanly_of_returns {call : DroppingCall backend} {status : backend.Status}
    {memory : Memory} {rv : Int} (made : rv ∈ call.returns status memory) :
    ¬ call.FailsCleanly memory := by
  intro fails
  cases call with
  | cipherUpdate operation buffers | cipherDoFinal operation buffers =>
      exact fails.1 (teeCipherUpdate_succeeds made)
  | signDigest operation digest digestLen signature =>
      have succeeds :
          (teeAsymmetricSignDigest operation memory digest digestLen signature).exit =
            .returned .success := by
        simp only [returns] at made
        unfold teeAsymmetricSignDigest
        split at made
        · cases made
        · rw [if_neg ‹_›]
          split at made
          · cases made
          · rw [if_neg ‹_›]
      exact fails.1 succeeds
  | generateKey object draw =>
      have succeeds : (teeGenerateKey object draw).1 = .returned .success := by
        simp only [returns] at made
        unfold teeGenerateKey
        split at made
        · cases made
        · rw [if_neg ‹_›]
          cases draw with
          | panicked => cases made
          | delivered rv seed =>
              dsimp only
              split <;> rfl
      exact fails.1 succeeds

/-- When the random source panics, so does the call, and it leaves the object. -/
theorem failsCleanly_of_lacksRandom {call : DroppingCall backend} (memory : Memory)
    (lacks : call.lacksRandom) : call.FailsCleanly memory := by
  cases call with
  | generateKey object draw =>
      obtain ⟨unset, rfl⟩ := lacks
      have panics : teeGenerateKey object .panicked = (.panicked, object) := by
        simp [teeGenerateKey, unset]
      simp [FailsCleanly, panics]
  | cipherUpdate | cipherDoFinal | signDigest => cases lacks

end DroppingCall

/-- A call reports all failures exactly when those that it does not look at do not occur: every call
of the library that it makes succeeds, and so does a random source whose status is dropped. -/
theorem library_failures_reported_iff (call : DroppingCall backend) (status : backend.Status)
    (memory : Memory) :
    call.ReportsFailures status memory ↔ call.Succeeds status memory := by
  constructor
  · intro reports rv made
    by_contra failed
    exact DroppingCall.not_failsCleanly_of_returns made (reports (.inr ⟨rv, made, failed⟩))
  · rintro succeed (lacks | ⟨rv, made, failed⟩)
    · exact DroppingCall.failsCleanly_of_lacksRandom memory lacks
    · exact absurd (succeed rv made) failed

/-- With mbedtls, the functions of ed25519 return nothing. -/
def Backend.mbedcryptStatus (lib : Mbedtls) (sha3 : Sha3) (ed25519 : Ed25519) :
    (Backend.mbedcrypt lib sha3 ed25519).Status where
  cbc direction operation input :=
    (lib.aesCryptCbc operation.aectx direction operation.aeiv input).rv
  sign _ _ := 0
  generate _ _ := []

/-- In the mbedtls build the library succeeds for a cipher handle with a key schedule exactly on
whole blocks. -/
theorem DroppingCall.mbedcrypt_succeeds_iff {lib : Mbedtls} {aes : BlockCipher Bytes Block}
    (laws : lib.CbcLaws aes) (sha3 : Sha3) (ed25519 : Ed25519)
    {operation : (Backend.mbedcrypt lib sha3 ed25519).Operation} {direction : Direction}
    {context : lib.AesContext} {key : Bytes} (alg : operation.alg = teeAlgAesCbcNopad)
    (mode : Operation.directionOf operation.mode = some direction)
    (schedule : operation.aectx = lib.aesSetkey direction (lib.aesInit context) key)
    (memory : Memory) (buffers : Buffers) :
    (DroppingCall.cipherUpdate operation buffers).Succeeds
        (Backend.mbedcryptStatus lib sha3 ed25519) memory ↔ 16 ∣ buffers.srcLen := by
  simp only [Succeeds, returns, cipherReturns, alg, mode, ne_eq, not_true_eq_false, if_false,
    List.mem_singleton, forall_eq, Backend.mbedcryptStatus, schedule]
  have aligned_iff : Aligned (buffers.input memory) ↔ 16 ∣ buffers.srcLen := by
    rw [Aligned, buffers.length_input]
  rw [← aligned_iff]
  constructor
  · intro succeeds
    by_contra unaligned
    exact (laws.unaligned _ direction operation.aeiv _ unaligned).1 succeeds
  · intro aligned
    rw [laws.crypt context key direction operation.aeiv _ aligned]

section GenerateKey

variable (lib : Mbedtls) (sha3 : Sha3) (ed25519 : Ed25519)
  {object : (Backend.mbedcrypt lib sha3 ed25519).Object} (stack memory : Memory) (seed : Nat)

/-- In the mbedtls build on Keystone no failure of the random source is overlooked. -/
theorem DroppingCall.keystone_generateKey_succeeds (host : RandomHost) :
    (DroppingCall.generateKey object (Keystone.drawSeed host stack seed)).Succeeds
      (Backend.mbedcryptStatus lib sha3 ed25519) memory := by
  intro rv made
  simp only [returns, Keystone.drawSeed, Backend.mbedcryptStatus] at made
  split at made
  · cases made
  split at made
  · cases made
  rename_i drawn
  split at drawn
  · cases drawn
    exact List.mem_singleton.mp made
  · cases drawn

/-- In the mbedtls build on SGX every failure of the random source is overlooked. -/
theorem DroppingCall.sgx_generateKey_succeeds_iff
    (unset : hasFlag object.flags teeHandleFlagKeySet = false) (call : ReadRand) :
    (DroppingCall.generateKey object (Sgx.drawSeed call stack seed)).Succeeds
      (Backend.mbedcryptStatus lib sha3 ed25519) memory ↔ call.status = 0 := by
  simp only [Succeeds, returns, Sgx.drawSeed, Backend.mbedcryptStatus, unset, Bool.false_eq_true,
    if_false, List.mem_singleton, forall_eq]
  rw [Int.natCast_eq_zero, ← UInt32.toNat_inj]
  rfl

/-- In the wolfSSL build a generator that could not be initialised is overlooked, and so is the
failure of each step of the generation. -/
theorem DroppingCall.wolfcrypt_generateKey_succeeds_iff {wolf : Wolfcrypt}
    {object : (Backend.wolfcrypt wolf).Object} (status : (Backend.wolfcrypt wolf).Status)
    (unset : hasFlag object.flags teeHandleFlagKeySet = false) {rng : WcRng} {rv : Int}
    (first : rng.ready = false) (initialised : rng.initRng = some rv) :
    (DroppingCall.generateKey object rng.draw).Succeeds status memory ↔
      rv = 0 ∧ ∀ made ∈ status.generate rng.random object, made = 0 := by
  simp only [Succeeds, returns, WcRng.draw, unset, first, initialised, Bool.false_eq_true, if_false,
    List.forall_mem_cons]

end GenerateKey

/-- Fifteen bytes of the example block, with room for their image behind it. -/
def vectorShort : Buffers where
  srcData := some 16
  srcLen := 15
  destData := some 32
  srcLen_lt := by decide
  separate := by
    rintro _ _ ⟨⟩ ⟨⟩
    decide

/-- Fifteen bytes: the library fails and writes nothing, and the call reports fifteen bytes of
ciphertext.  On SGX `sgx_read_rand` fails, and a key is reported that was made from what the stack
held. -/
theorem library_failures_dropped :
    (let operation : CryptLib.reference.backend.Operation :=
      (teeCipherInit (teeSetOperationKey
        (Operation.fresh CryptLib.reference.backend teeAlgAesCbcNopad teeModeEncrypt)
        (some (Operation.vectorKeyObject CryptLib.reference.backend))).2
        Operation.vectorMemory (some 0) 16).2
    let output := (teeCipherUpdate operation Operation.vectorMemory vectorShort).1
    (DroppingCall.cipherUpdate operation vectorShort).returns
        (Backend.mbedcryptStatus (.reference vectorCipher) (.reference vectorHash) .reference)
        Operation.vectorMemory = [-0x0022] ∧
      output.exit = .returned .success ∧ output.destLen = some 15 ∧
      vectorShort.output output.memory = List.replicate 15 0) ∧
    (let object : CryptLib.reference.backend.Object :=
      { ObjectHandle.zeroed (none : Option Bytes) () with type := teeTypeAes }
    let call : ReadRand := { status := 1, random := fun _ => 7 }
    let result := teeGenerateKey object (Sgx.drawSeed call (fun _ => 9) 0)
    result.1 = .returned .success ∧ hasFlag result.2.flags teeHandleFlagKeySet = true ∧
      result.2.publicKey = (Ed25519.reference.createKeypair (List.replicate 32 9)).1) := by
  decide +kernel

end TaRef
