import TaRef.Operation.Specification

/-!
# Mode separation

A call that processes data succeeds only on a handle that was allocated for it, with two exceptions:
the final calls of the authenticated encryption look at the algorithm but not at the mode.  Every
other entry point keeps to the algorithm and the mode of the allocation, in each of the builds.
-/

namespace TaRef

namespace Operation

/-- Direction of a mode; only `TEE_MODE_ENCRYPT` and `TEE_MODE_DECRYPT` have one. -/
def directionOf (mode : UInt32) : Option Direction :=
  if mode = teeModeEncrypt then some .encrypt
  else if mode = teeModeDecrypt then some .decrypt
  else none

theorem directionOf_cases {mode : UInt32} {direction : Direction}
    (direction_eq : directionOf mode = some direction) :
    mode = teeModeEncrypt ∧ direction = .encrypt ∨
      mode ≠ teeModeEncrypt ∧ mode = teeModeDecrypt ∧ direction = .decrypt := by
  unfold directionOf at direction_eq
  split_ifs at direction_eq with encrypt decrypt
  · exact .inl ⟨encrypt, (Option.some.inj direction_eq).symm⟩
  · exact .inr ⟨encrypt, decrypt, (Option.some.inj direction_eq).symm⟩

end Operation

/-- The context of a handle has the schedule of a key for one direction, as `TEE_CipherInit` leaves
it; tiny-AES has one schedule for both directions. -/
def CryptLib.Scheduled :
    (build : CryptLib) → build.backend.Operation → Direction → Bytes → Prop
  | .mbedcrypt lib _ _, operation, direction, key =>
      ∃ context, operation.aectx = lib.aesSetkey direction (lib.aesInit context) key
  | .wolfcrypt lib, operation, direction, key =>
      ∃ context iv, operation.aectx = lib.aesSetKey (lib.aesInit context) key iv direction
  | .tiny lib _ _ _, operation, _, key =>
      ∃ context iv, operation.aectx = lib.initCtxIv context key iv

/-- `TEE_CipherInit` returns only in a mode with a direction, tiny-AES aside, and then prepares
that direction. -/
theorem CryptLib.scheduled_cipherInit (build : CryptLib) (operation : build.backend.Operation)
    (nonce : Block) {direction : Direction}
    (mode : Operation.directionOf operation.mode = some direction) :
    build.Scheduled (build.backend.cipherInit operation nonce).2 direction operation.aekey := by
  rcases Operation.directionOf_cases mode with ⟨encrypt, rfl⟩ | ⟨encrypt, decrypt, rfl⟩
  · cases build with
    | mbedcrypt lib sha3 ed25519 =>
        refine ⟨operation.aectx, ?_⟩
        simp only [backend, Backend.mbedcrypt, if_pos encrypt, Mbedtls.aesSetkey]
    | wolfcrypt lib =>
        refine ⟨operation.aectx, nonce, ?_⟩
        simp only [backend, Backend.wolfcrypt, if_pos encrypt]
    | tiny lib sha3 ed25519 unset => exact ⟨operation.aectx, nonce, rfl⟩
  · cases build with
    | mbedcrypt lib sha3 ed25519 =>
        refine ⟨operation.aectx, ?_⟩
        simp only [backend, Backend.mbedcrypt, if_neg encrypt, if_pos decrypt, Mbedtls.aesSetkey]
    | wolfcrypt lib =>
        refine ⟨operation.aectx, nonce, ?_⟩
        simp only [backend, Backend.wolfcrypt, if_neg encrypt, if_pos decrypt]
    | tiny lib sha3 ed25519 unset => exact ⟨operation.aectx, nonce, rfl⟩

namespace Operation

/-- A successful call belongs to the algorithm and the mode. -/
def Belongs (build : CryptLib) (algorithm mode : UInt32)
    (handle : Option build.backend.Operation) (invocation : Invocation build.backend)
    (output : OperationOutput) : Prop :=
  output.Succeeds →
    match invocation.call with
    | .setOperationKey _ => True
    | .digestUpdate .. | .digestDoFinal .. => mode = teeModeDigest
    | .aeInit .. | .aeUpdate .. => algorithm = teeAlgAesGcm
    -- the handle of a digest keeps what `malloc` left in the field for the state
    | .aeUpdateAAD .. => algorithm = teeAlgAesGcm ∨ mode = teeModeDigest
    | .aeEncryptFinal .. => algorithm = teeAlgAesGcm ∧ mode = teeModeEncrypt
    | .aeDecryptFinal .. => algorithm = teeAlgAesGcm ∧ mode = teeModeDecrypt
    | .cipherInit .. =>
        algorithm = teeAlgAesCbcNopad ∧ ∃ direction, directionOf mode = some direction ∧
          ∀ operation, handle = some operation →
            build.Scheduled (invocation.perform operation).2 direction operation.aekey
    | .cipherUpdate buffers | .cipherDoFinal buffers =>
        algorithm = teeAlgAesCbcNopad ∧ ∃ direction, directionOf mode = some direction ∧
          ∀ operation, handle = some operation →
            ((invocation.perform operation).2, output.memory) =
              build.backend.cbc direction operation
                (build.backend.stageInput invocation.memory buffers) buffers
    | .signDigest .. => mode = teeModeSign
    | .verifyDigest .. => mode = teeModeVerify

/-- A final call that passes its checks is made in its own mode. -/
def FinalInMode {backend : Backend} (handle : Option backend.Operation)
    (invocation : Invocation backend) : Prop :=
  ∀ operation ∈ handle, AdmitsFinal operation invocation.call →
    match invocation.call with
    | .aeEncryptFinal .. => operation.mode = teeModeEncrypt
    | .aeDecryptFinal .. => operation.mode = teeModeDecrypt
    | _ => True

instance {backend : Backend} (handle : Option backend.Operation) (invocation : Invocation backend) :
    Decidable (FinalInMode handle invocation) := by
  obtain ⟨memory, call⟩ := invocation
  casesm OperationCall _ <;> unfold FinalInMode <;> infer_instance

/-- The handle serves the algorithm and the mode, and its state has left zero only where that can
happen. -/
structure Serves {backend : Backend} (algorithm mode : UInt32) (operation : backend.Operation) :
    Prop where
  purpose : purpose operation = (algorithm, mode)
  state : gcmStInit ≤ operation.aegcmState → algorithm = teeAlgAesGcm ∨ mode = teeModeDigest
  cipher : algorithm = teeAlgAesCbcNopad → mode = teeModeEncrypt ∨ mode = teeModeDecrypt

theorem Serves.alg_eq {backend : Backend} {algorithm mode : UInt32} {operation : backend.Operation}
    (serves : Serves algorithm mode operation) : operation.alg = algorithm :=
  congrArg (·.1) serves.purpose

theorem Serves.mode_eq {backend : Backend} {algorithm mode : UInt32} {operation : backend.Operation}
    (serves : Serves algorithm mode operation) : operation.mode = mode :=
  congrArg (·.2) serves.purpose

theorem serves_allocated {backend : Backend} {allocation : Option backend.Operation}
    {algorithm mode maxKeySize : UInt32} {handle : backend.Operation}
    (allocated : teeAllocateOperation backend allocation algorithm mode maxKeySize =
      (.success, some handle)) : Serves algorithm mode handle where
  purpose := purpose_allocated allocated
  state := by
    rcases allocated_cases allocated with ⟨digest, _⟩ | ⟨rfl, _⟩
    · exact fun _ => .inr digest
    · intro started
      exact absurd started (by decide : ¬ gcmStInit ≤ 0)
  cipher := by
    rintro rfl
    rcases allocated_cases allocated with ⟨_, cbc, _⟩ | ⟨_, ⟨modes, _⟩ | ⟨_, cbc⟩⟩
    · exact absurd cbc (by decide)
    · exact modes
    · exact absurd cbc (by decide)

/-- A mode of a cipher handle has a direction. -/
theorem Serves.direction {backend : Backend} {mode : UInt32} {operation : backend.Operation}
    (serves : Serves teeAlgAesCbcNopad mode operation) :
    ∃ direction, directionOf mode = some direction := by
  rcases serves.cipher rfl with rfl | rfl
  · exact ⟨.encrypt, rfl⟩
  · exact ⟨.decrypt, rfl⟩

theorem Serves.step {backend : Backend} (framed : backend.Framed) {algorithm mode : UInt32}
    {operation after : backend.Operation} {invocation : Invocation backend}
    (serves : Serves algorithm mode operation)
    (survived : (Operation.step (some operation) invocation).2 = some after) :
    Serves algorithm mode after where
  purpose := (purpose_of_step framed survived).trans serves.purpose
  state := by
    intro started
    rcases state_of_step framed survived with same | ⟨_, alg | earlier⟩
    · exact serves.state (same ▸ started)
    · exact .inl (serves.alg_eq ▸ alg)
    · exact serves.state earlier
  cipher := serves.cipher

/-- `TEE_CipherUpdate` on a cipher handle processes the data in the direction of the mode. -/
theorem teeCipherUpdate_of_direction {backend : Backend} {operation : backend.Operation}
    (alg : operation.alg = teeAlgAesCbcNopad) {direction : Direction}
    (mode : directionOf operation.mode = some direction) (memory : Memory) (buffers : Buffers) :
    teeCipherUpdate operation memory buffers =
      ({ exit := .returned .success
         destLen := some buffers.srcLen
         memory := (backend.cbc direction operation (backend.stageInput memory buffers)
          buffers).2 },
        (backend.cbc direction operation (backend.stageInput memory buffers) buffers).1) := by
  rw [teeCipherUpdate, if_neg (not_not.mpr alg)]
  dsimp only
  rcases directionOf_cases mode with ⟨encrypt, rfl⟩ | ⟨encrypt, decrypt, rfl⟩
  · rw [if_pos encrypt]
  · rw [if_neg encrypt, if_pos decrypt]

theorem alg_of_teeCipherUpdate {backend : Backend} {operation : backend.Operation}
    {memory : Memory} {buffers : Buffers}
    (succeeds : (teeCipherUpdate operation memory buffers).1.Succeeds) :
    operation.alg = teeAlgAesCbcNopad := by
  by_contra alg
  rw [teeCipherUpdate, if_pos alg] at succeeds
  cases succeeds

theorem alg_of_teeCipherInit {backend : Backend} {operation : backend.Operation} {memory : Memory}
    {nonce : Option Nat} {nonceLen : Nat}
    (returns : (teeCipherInit operation memory nonce nonceLen).1 = .returned ()) :
    operation.alg = teeAlgAesCbcNopad ∧
      teeCipherInit operation memory nonce nonceLen =
        backend.cipherInit operation (Block.ofBytes (memory.read (nonce.getD 0) nonceLen)) := by
  unfold teeCipherInit at returns ⊢
  by_cases alg : operation.alg = teeAlgAesCbcNopad
  swap
  · rw [if_pos alg] at returns
    cases returns
  rw [if_neg (not_not.mpr alg)] at returns ⊢
  by_cases length : nonceLen = 16
  swap
  · rw [if_pos length] at returns
    cases returns
  rw [if_neg (not_not.mpr length)] at returns ⊢
  by_cases keyed : hasFlag operation.flags teeHandleFlagKeySet = false
  · rw [if_pos keyed] at returns
    cases returns
  · exact ⟨alg, if_neg keyed⟩

theorem returned_of_ofVoid {exit : Exit Unit} {memory : Memory}
    (succeeds : (OperationOutput.ofVoid exit memory).Succeeds) : exit = .returned () := by
  cases exit with
  | returned value => rfl
  | panicked => cases succeeds
  | running => cases succeeds

/-- A successful call on a handle belongs to what the handle serves. -/
theorem belongs_of_serves (build : CryptLib) {algorithm mode : UInt32}
    {operation : build.backend.Operation} {invocation : Invocation build.backend}
    (serves : Serves algorithm mode operation)
    (guarded : FinalInMode (some operation) invocation) :
    Belongs build algorithm mode (some operation) invocation
      (Operation.step (some operation) invocation).1 := by
  intro succeeds
  rw [step_some] at succeeds ⊢
  have alg_eq := serves.alg_eq
  have mode_eq := serves.mode_eq
  obtain ⟨memory, call⟩ := invocation
  have own := guarded operation rfl
  have processed : ∀ buffers, (teeCipherUpdate operation memory buffers).1.Succeeds →
      algorithm = teeAlgAesCbcNopad ∧ ∃ direction, directionOf mode = some direction ∧
        ∀ operation', some operation = some operation' →
          ((teeCipherUpdate operation' memory buffers).2,
            (teeCipherUpdate operation memory buffers).1.memory) =
          build.backend.cbc direction operation' (build.backend.stageInput memory buffers)
            buffers := by
    intro buffers succeeds
    have alg := alg_of_teeCipherUpdate succeeds
    obtain rfl := alg_eq.symm.trans alg
    obtain ⟨direction, direction_eq⟩ := serves.direction
    refine ⟨rfl, direction, direction_eq, ?_⟩
    rintro _ ⟨⟩
    rw [← mode_eq] at direction_eq
    rw [teeCipherUpdate_of_direction alg direction_eq]
  cases call with
  | setOperationKey key => trivial
  | digestUpdate chunk chunkSize =>
      by_contra other
      simp only [Invocation.perform, teeDigestUpdate, if_pos (Or.inl (mode_eq ▸ other))] at succeeds
      cases succeeds
  | digestDoFinal chunk chunkLen hash hashLen =>
      by_contra other
      simp only [Invocation.perform, teeDigestDoFinal, if_pos (Or.inl (mode_eq ▸ other))]
        at succeeds
      cases succeeds
  | aeInit nonce nonceLen tagLen aadLen payloadLen =>
      rcases teeAEInit_cases operation memory nonce nonceLen tagLen aadLen payloadLen with
        ⟨_, result, failed, refused⟩ | ⟨admitted, _⟩
      · simp only [Invocation.perform, refused] at succeeds
        exact absurd (Exit.returned.inj succeeds) failed
      · exact alg_eq.symm.trans admitted.1
  | aeUpdateAAD aadData aadDataLen =>
      have returned := returned_of_ofVoid succeeds
      rcases teeAEUpdateAAD_cases operation memory aadData aadDataLen with
        ⟨panicked, _⟩ | ⟨admitted, _⟩
      · cases panicked.symm.trans returned
      · exact serves.state admitted.2.2
  | aeUpdate buffers destLen =>
      have admitted : AdmitsData operation buffers destLen :=
        admitsData_of_aeUpdate (ne_badParameters_of_succeeds succeeds)
      exact alg_eq.symm.trans admitted.1
  | aeEncryptFinal buffers destLen tag tagLen =>
      have admitted : AdmitsFinal operation (.aeEncryptFinal buffers destLen tag tagLen) :=
        admitsFinal_of_aeEncryptFinal (ne_badParameters_of_succeeds succeeds)
      exact ⟨alg_eq.symm.trans admitted.1.1, mode_eq.symm.trans (own admitted)⟩
  | aeDecryptFinal buffers destLen tag tagLen =>
      have admitted : AdmitsFinal operation (.aeDecryptFinal buffers destLen tag tagLen) :=
        admitsFinal_of_aeDecryptFinal (ne_badParameters_of_succeeds succeeds)
      exact ⟨alg_eq.symm.trans admitted.1.1, mode_eq.symm.trans (own admitted)⟩
  | cipherInit nonce nonceLen =>
      obtain ⟨alg, started⟩ := alg_of_teeCipherInit (returned_of_ofVoid succeeds)
      obtain rfl := alg_eq.symm.trans alg
      obtain ⟨direction, direction_eq⟩ := serves.direction
      refine ⟨rfl, direction, direction_eq, ?_⟩
      rintro _ ⟨⟩
      rw [← mode_eq] at direction_eq
      simp only [Invocation.perform, started]
      exact build.scheduled_cipherInit operation _ direction_eq
  | cipherUpdate buffers => exact processed buffers succeeds
  | cipherDoFinal buffers => exact processed buffers succeeds
  | signDigest digest digestLen signature =>
      by_contra other
      simp only [Invocation.perform, teeAsymmetricSignDigest, if_pos (Or.inl (mode_eq ▸ other))]
        at succeeds
      cases succeeds
  | verifyDigest digest digestLen signature signatureLen =>
      by_contra other
      simp only [Invocation.perform, teeAsymmetricVerifyDigest, if_pos (Or.inl (mode_eq ▸ other))]
        at succeeds
      cases succeeds

end Operation

/-- In every run in which a final call that passes its checks is made in its own mode, the calls
that succeed are those of the algorithm and the mode of the allocation. -/
theorem modes_separated (build : CryptLib) {allocation : Option build.backend.Operation}
    {algorithm mode maxKeySize : UInt32} {handle : build.backend.Operation}
    (allocated : teeAllocateOperation build.backend allocation algorithm mode maxKeySize =
      (.success, some handle))
    {invocations : List (Invocation build.backend)}
    (guarded : Machine.Within Operation.step Operation.FinalInMode (some handle) invocations) :
    Machine.Along Operation.step (Operation.Belongs build algorithm mode) (some handle)
      invocations := by
  have preserved : ∀ (state : Option build.backend.Operation) invocation,
      (∀ operation ∈ state, Operation.Serves algorithm mode operation) →
      Operation.FinalInMode state invocation →
        Operation.Belongs build algorithm mode state invocation
            (Operation.step state invocation).1 ∧
          ∀ operation ∈ (Operation.step state invocation).2,
            Operation.Serves algorithm mode operation := by
    intro state invocation serves guarded
    cases state with
    | none =>
        refine ⟨fun succeeds => ?_, fun operation member => ?_⟩
        · cases succeeds
        · cases member
    | some operation =>
        exact ⟨Operation.belongs_of_serves build (serves operation rfl) guarded,
          fun _ survived => (serves operation rfl).step build.framed survived⟩
  refine Machine.along_of_within preserved ?_ guarded
  rintro _ ⟨⟩
  exact Operation.serves_allocated allocated

theorem modes_separated_published :
    Machine.Along Operation.step
      (Operation.Belongs .reference teeAlgAesGcm teeModeEncrypt)
      (some (Operation.fresh CryptLib.reference.backend teeAlgAesGcm teeModeEncrypt))
      (Operation.sealCalls CryptLib.reference.backend) :=
  modes_separated .reference
    (show teeAllocateOperation CryptLib.reference.backend
      (some (Operation.fresh CryptLib.reference.backend 0 0)) teeAlgAesGcm teeModeEncrypt 256 =
        (.success, some _) from rfl)
    (by decide +kernel)

/-- A handle for decryption delivers the tag of a message of the caller. -/
theorem decrypt_handle_seals :
    teeAllocateOperation CryptLib.reference.backend
        (some (Operation.fresh CryptLib.reference.backend 0 0)) teeAlgAesGcm teeModeDecrypt 256 =
      (.success, some (Operation.fresh CryptLib.reference.backend teeAlgAesGcm teeModeDecrypt)) ∧
    ¬ Machine.Along Operation.step
      (Operation.Belongs .reference teeAlgAesGcm teeModeDecrypt)
      (some (Operation.fresh CryptLib.reference.backend teeAlgAesGcm teeModeDecrypt))
      (Operation.sealCalls CryptLib.reference.backend) := by
  refine ⟨rfl, fun along => ?_⟩
  have belongs := along.2.2.1 (by decide +kernel)
  exact absurd belongs.2 (by decide)

end TaRef
