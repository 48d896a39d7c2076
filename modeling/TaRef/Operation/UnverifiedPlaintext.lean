import TaRef.Operation.GcmSession

/-!
# What a failed verification leaves behind

`TEE_AEDecryptFinal` decrypts before it compares the tags.  When they differ it returns
`TEE_ERROR_MAC_INVALID`, and the decryption of the chunk is already in the buffer of the caller.
-/

namespace TaRef

/-- What the library does on the last chunk of a decryption, from the context before it: the
decryption of the chunk, and the tag of the session that ends with it.  Either function may fail. -/
structure Mbedtls.Decrypts (lib : Mbedtls) (decryption : lib.GcmContext → Bytes → Bytes)
    (sessionTag : lib.GcmContext → Bytes → Bytes) : Prop where
  update : ∀ context input, (lib.gcmUpdate context input).rv = 0 →
    (lib.gcmUpdate context input).output = decryption context input
  length : ∀ context input, (decryption context input).length = input.length
  finish : ∀ context input, (lib.gcmUpdate context input).rv = 0 →
    (lib.gcmFinish (lib.gcmUpdate context input).context).rv = 0 →
      (lib.gcmFinish (lib.gcmUpdate context input).context).tag.1 = sessionTag context input

namespace Operation

variable {lib : Mbedtls} {sha3 : Sha3} {ed25519 : Ed25519}

/-- If the call reports an invalid tag, it has written nothing. -/
def Withholds (operation : (Backend.mbedcrypt lib sha3 ed25519).Operation) (memory : Memory)
    (buffers : Buffers) (destLen tag : Option Nat) (tagLen : Nat) : Prop :=
  (teeAEDecryptFinal operation memory buffers destLen tag tagLen).1.exit =
      .returned .errorMacInvalid →
    (teeAEDecryptFinal operation memory buffers destLen tag tagLen).1.memory = memory ∧
      (teeAEDecryptFinal operation memory buffers destLen tag tagLen).1.destLen = none

/-- The call passes its checks and the library succeeds on the chunk. -/
structure ReachesComparison (operation : (Backend.mbedcrypt lib sha3 ed25519).Operation)
    (memory : Memory) (buffers : Buffers) (destLen tag : Option Nat) (tagLen : Nat) : Prop where
  admits : AdmitsData operation buffers destLen
  tag_isSome : tag.isSome = true
  tagLen_eq : tagLen = 16
  started : operation.aegcmState = gcmStInit →
    ((Backend.mbedcrypt lib sha3 ed25519).gcmStarts operation []).1 = 0
  update : (lib.gcmUpdate (readied operation).aegcmctx (buffers.input memory)).rv = 0
  finish : (lib.gcmFinish
    (lib.gcmUpdate (readied operation).aegcmctx (buffers.input memory)).context).rv = 0

/-- The supplied tag is not the tag of the session.  It is read after the decryption has been
stored, which matters for a tag inside the destination. -/
def WrongTag (decryption sessionTag : lib.GcmContext → Bytes → Bytes)
    (operation : (Backend.mbedcrypt lib sha3 ed25519).Operation) (memory : Memory)
    (buffers : Buffers) (tag : Option Nat) : Prop :=
  (buffers.store memory
      (decryption (readied operation).aegcmctx (buffers.input memory))).read (tag.getD 0) 16 ≠
    sessionTag (readied operation).aegcmctx (buffers.input memory)

variable {decryption sessionTag : lib.GcmContext → Bytes → Bytes}

/-- The block of the decryption compares the tags only when both functions of the library
succeed. -/
theorem succeeds_of_gcmDecryptFinal
    {operation after : (Backend.mbedcrypt lib sha3 ed25519).Operation}
    {memory memory' : Memory} {buffers : Buffers} {tag : Nat} {verified : Bool}
    (final : (Backend.mbedcrypt lib sha3 ed25519).gcmDecryptFinal operation memory buffers tag =
      (.returned verified, after, memory')) :
    (lib.gcmUpdate operation.aegcmctx (buffers.input memory)).rv = 0 ∧
      (lib.gcmFinish
        (lib.gcmUpdate operation.aegcmctx (buffers.input memory)).context).rv = 0 := by
  simp only [Backend.mbedcrypt] at final
  by_cases update : (lib.gcmUpdate operation.aegcmctx (buffers.input memory)).rv = 0
  · rw [if_neg (not_not.mpr update)] at final
    refine ⟨update, ?_⟩
    by_contra finish
    rw [if_pos finish] at final
    cases final
  · rw [if_pos update] at final
    cases final

/-- A call that gets as far as the comparison stores the decryption and returns what the comparison
says. -/
theorem ReachesComparison.result (decrypts : lib.Decrypts decryption sessionTag)
    {operation : (Backend.mbedcrypt lib sha3 ed25519).Operation} {memory : Memory}
    {buffers : Buffers} {destLen tag : Option Nat} {tagLen : Nat}
    (reaches : ReachesComparison operation memory buffers destLen tag tagLen) :
    ((teeAEDecryptFinal operation memory buffers destLen tag tagLen).1.exit =
        .returned .errorMacInvalid ↔
      WrongTag decryption sessionTag operation memory buffers tag) ∧
    (WrongTag decryption sessionTag operation memory buffers tag →
      (teeAEDecryptFinal operation memory buffers destLen tag tagLen).1 =
        .bare (.returned .errorMacInvalid)
          (buffers.store memory
            (decryption (readied operation).aegcmctx (buffers.input memory)))) := by
  obtain ⟨admits, tag_isSome, rfl, started, update, finish⟩ := reaches
  obtain ⟨tag, rfl⟩ := Option.isSome_iff_exists.mp tag_isSome
  have final := Backend.mbedcrypt_gcmDecryptFinal lib sha3 ed25519 (readied operation) memory
    buffers
    tag update finish
  rw [decrypts.update _ _ update, decrypts.finish _ _ update finish] at final
  rw [teeAEDecryptFinal_of_admitted admits started final, WrongTag, Option.getD_some]
  by_cases same : (buffers.store memory
      (decryption (readied operation).aegcmctx (buffers.input memory))).read tag 16 =
    sessionTag (readied operation).aegcmctx (buffers.input memory)
  · simp [same]
  · simp [same, OperationOutput.bare]

/-- The tag is rejected exactly when it is compared and wrong. -/
theorem rejects_iff (decrypts : lib.Decrypts decryption sessionTag)
    (operation : (Backend.mbedcrypt lib sha3 ed25519).Operation) (memory : Memory)
    (buffers : Buffers) (destLen tag : Option Nat) (tagLen : Nat) :
    (teeAEDecryptFinal operation memory buffers destLen tag tagLen).1.exit =
        .returned .errorMacInvalid ↔
      ReachesComparison operation memory buffers destLen tag tagLen ∧
        WrongTag decryption sessionTag operation memory buffers tag := by
  constructor
  · intro rejected
    have reaches : ReachesComparison operation memory buffers destLen tag tagLen := by
      rcases teeAEDecryptFinal_cases operation memory buffers destLen tag tagLen with
        ⟨_, refused⟩ |
          ⟨admits, tag_isSome, tagLen_eq, panicked | ⟨started, _, _, _, final, _⟩⟩
      · rw [refused] at rejected
        cases rejected
      · rw [panicked] at rejected
        cases rejected
      · obtain ⟨update, finish⟩ := succeeds_of_gcmDecryptFinal final
        exact ⟨admits, tag_isSome, tagLen_eq, started, update, finish⟩
    exact ⟨reaches, (reaches.result decrypts).1.mp rejected⟩
  · rintro ⟨reaches, wrong⟩
    exact (reaches.result decrypts).1.mpr wrong

end Operation

/-- A call that reports an invalid tag has written nothing exactly when, for a tag that is compared
and wrong, the destination already held the decryption of the chunk. -/
theorem unverified_plaintext_iff {lib : Mbedtls} {sha3 : Sha3} {ed25519 : Ed25519}
    {decryption sessionTag : lib.GcmContext → Bytes → Bytes}
    (decrypts : lib.Decrypts decryption sessionTag)
    (operation : (Backend.mbedcrypt lib sha3 ed25519).Operation) (memory : Memory)
    (buffers : Buffers) (destLen tag : Option Nat) (tagLen : Nat) :
    Operation.Withholds operation memory buffers destLen tag tagLen ↔
      (Operation.ReachesComparison operation memory buffers destLen tag tagLen →
        Operation.WrongTag decryption sessionTag operation memory buffers tag →
          buffers.output memory =
            decryption (Operation.readied operation).aegcmctx (buffers.input memory)) := by
  have length : (decryption (Operation.readied operation).aegcmctx (buffers.input memory)).length =
      buffers.srcLen := (decrypts.length _ _).trans (buffers.length_input memory)
  have kept := memory.write_eq_self_iff (buffers.destData.getD 0)
    (decryption (Operation.readied operation).aegcmctx (buffers.input memory))
  rw [length] at kept
  rw [Operation.Withholds, Operation.rejects_iff decrypts, and_imp]
  refine forall_congr' fun reaches => forall_congr' fun wrong => ?_
  rw [(reaches.result decrypts).2 wrong]
  exact (and_iff_left rfl).trans kept

/-- The instances decrypt in counter mode from the position in the session. -/
theorem Mbedtls.reference_decrypts (aes : BlockCipher Bytes Block) :
    (reference aes).Decrypts
      (fun context input =>
        Gcm.crypt aes context.key context.nonce context.ciphertext.length input)
      (fun context input =>
        (Gcm.tag aes context.key context.nonce context.aad (context.ciphertext ++
          Gcm.ciphertext aes context.key context.nonce context.ciphertext.length input
            context.direction)).1) where
  update context input succeeds := by
    simp only [reference, ReferenceGcm.update] at succeeds ⊢
    split at succeeds
    · rw [if_pos ‹_›]
    · cases succeeds
  length context input := Gcm.length_crypt ..
  finish context input succeeds _ := by
    simp only [reference, ReferenceGcm.update] at succeeds ⊢
    split at succeeds
    · rw [if_pos ‹_›]
    · cases succeeds

/-- Memory with the ciphertext of the published block, and zeros where the tag should be. -/
def vectorTampered : Memory :=
  Memory.write (fun _ => 0) 16 (Gcm.crypt vectorCipher vectorKey Block.zero 0 vectorPlain.1)

/-- The decryption handle of the example after `TEE_AEInit` with a nonce of zeros. -/
def vectorOpened : CryptLib.reference.backend.Operation :=
  (teeAEInit (vectorGcm teeModeDecrypt rfl rfl).operation (fun _ => 0) (some 0) 16 128 0 16).2

theorem unverified_plaintext_iff_published :
    @Operation.Withholds (.reference vectorCipher) (.reference vectorHash) .reference vectorOpened
      vectorSealed Operation.vectorBuffers (some 16) (some 48) 16 := by
  have genuine : (Operation.vectorBuffers.store vectorSealed (Gcm.crypt vectorCipher vectorKey
      Block.zero 0 (Operation.vectorBuffers.input vectorSealed))).read 48 16 =
      (Gcm.tag vectorCipher vectorKey Block.zero []
        (Operation.vectorBuffers.input vectorSealed)).1 := by
    decide +kernel
  exact (unverified_plaintext_iff (Mbedtls.reference_decrypts vectorCipher) vectorOpened
    vectorSealed Operation.vectorBuffers (some 16) (some 48) 16).mpr
      fun _ wrong => absurd genuine wrong

theorem unverified_plaintext_released :
    let final := teeAEDecryptFinal vectorOpened vectorTampered Operation.vectorBuffers (some 16)
      (some 48) 16
    final.1.exit = .returned .errorMacInvalid ∧
      Operation.vectorBuffers.output vectorTampered = List.replicate 16 0 ∧
      Operation.vectorBuffers.output final.1.memory = vectorPlain.1 := by
  decide +kernel

end TaRef
