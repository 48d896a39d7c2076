import TaRef.Crypto.Traced
import TaRef.Operation.KeyHistory

/-!
# Provenance of the keys that are used

The key that a call processes data with is the one last expanded in the context, which the recording
libraries keep.  It is the generated key of the object that `TEE_SetOperationKey` copied last when
that object had a key, of a type that the algorithm reads, and the session was started after the
copy.
-/

namespace TaRef

/-- The key last set in a GCM context. -/
def GcmEvent.lastKey : List GcmEvent → Option Bytes
  | [] => none
  | .setkey key :: _ => some key
  | _ :: earlier => lastKey earlier

/-- An object of this type has the key that the algorithm reads. -/
def FitsAlgorithm (objectType algorithm : UInt32) : Prop :=
  objectType = teeTypeAes ∧ (algorithm = teeAlgAesCbcNopad ∨ algorithm = teeAlgAesGcm) ∨
    (objectType = teeTypeEcdhKeypair ∨ objectType = teeTypeEcdsaKeypair) ∧
      algorithm = teeAlgEcdsaP256

instance (objectType algorithm : UInt32) : Decidable (FitsAlgorithm objectType algorithm) :=
  inferInstanceAs (Decidable (_ ∧ _ ∨ _ ∧ _))

/-- A call that processes data and passes the checks of its function. -/
def Operation.AdmitsProcessing {backend : Backend} (operation : backend.Operation) :
    OperationCall backend → Prop
  | .cipherUpdate _ | .cipherDoFinal _ =>
      operation.alg = teeAlgAesCbcNopad ∧
        (operation.mode = teeModeEncrypt ∨ operation.mode = teeModeDecrypt)
  | .aeUpdate buffers destLen => AdmitsData operation buffers destLen
  | .signDigest .. =>
      operation.mode = teeModeSign ∧ operation.alg = teeAlgEcdsaP256 ∧
        hasFlag operation.flags teeHandleFlagKeySet = true
  | .verifyDigest _ _ _ signatureLen =>
      operation.mode = teeModeVerify ∧ operation.alg = teeAlgEcdsaP256 ∧
        signatureLen = sigLength ∧ hasFlag operation.flags teeHandleFlagKeySet = true
  | call => AdmitsFinal operation call

instance {backend : Backend} (operation : backend.Operation) (call : OperationCall backend) :
    Decidable (Operation.AdmitsProcessing operation call) := by
  casesm OperationCall _ <;> unfold Operation.AdmitsProcessing <;> infer_instance

/-- A call that processes data. -/
def OperationCall.Processes {backend : Backend} : OperationCall backend → Prop
  | .cipherUpdate .. | .cipherDoFinal .. | .aeUpdate .. | .aeEncryptFinal .. | .aeDecryptFinal ..
  | .signDigest .. | .verifyDigest .. => True
  | _ => False

namespace World

/-- A call that processes data finds the key of an object that had one when it was copied, of the
type that the algorithm reads, and for AES a session that was started since. -/
def Programmed {backend : Backend} (state : Option (World backend) × KeyHistory)
    (request : Request backend) : Prop :=
  ∀ world ∈ state.1,
    match request.call with
    | .invoke (some name) call _ =>
        ∀ operation ∈ world.operations.get? name, Operation.AdmitsProcessing operation call →
          ∃ copy ∈ (state.2.operations name).latest, copy.record.generated.isSome = true ∧
            FitsAlgorithm copy.record.type operation.alg ∧
              (operation.alg = teeAlgEcdsaP256 ∨ (state.2.operations name).initialized = true)
    | _ => True

instance {backend : Backend} (state : Option (World backend) × KeyHistory)
    (request : Request backend) : Decidable (Programmed state request) := by
  obtain ⟨_ | world, history⟩ := state
  · exact isTrue (by rintro _ ⟨⟩)
  unfold Programmed
  split <;> infer_instance

section Mbedcrypt

variable {lib : Mbedtls} {sha3 : Sha3} {ed25519 : Ed25519}

/-- A call works with a key pair, or with the AES key that is its first half. -/
def WorksWith (pair : Bytes × Bytes)
    (operation : (Backend.mbedcrypt lib.traced sha3 ed25519).Operation) :
    OperationCall (.mbedcrypt lib.traced sha3 ed25519) → Prop
  | .cipherUpdate _ | .cipherDoFinal _ => operation.aectx.2 = some pair.1
  | .signDigest .. => operation.pubkey = pair.1 ∧ operation.prikey = pair.2
  | .verifyDigest .. => operation.pubkey = pair.1
  | _ => GcmEvent.lastKey operation.aegcmctx.2 = some pair.1

/-- A successful call that processes data works with the pair that was generated in the object that
was copied last, and the object's type fits the algorithm. -/
def WorksWithGenerated
    (state : Option (World (.mbedcrypt lib.traced sha3 ed25519)) × KeyHistory)
    (request : Request (.mbedcrypt lib.traced sha3 ed25519)) (reply : Option OperationOutput) :
    Prop :=
  ∀ world ∈ state.1,
    match request.call with
    | .invoke (some name) call _ =>
        ∀ operation ∈ world.operations.get? name, call.Processes →
          reply.map OperationOutput.exit = some (.returned .success) →
            ∃ copy pair, (state.2.operations name).latest = some copy ∧
              copy.record.generated = some pair ∧
                FitsAlgorithm copy.record.type operation.alg ∧ WorksWith pair operation call
    | _ => True

/-- Since the session was started, the context of an operation has the key of the operation. -/
structure Expanded (use : KeyUse)
    (operation : (Backend.mbedcrypt lib.traced sha3 ed25519).Operation) : Prop where
  cbc : use.initialized = true → operation.alg = teeAlgAesCbcNopad →
    operation.aectx.2 = some operation.aekey
  gcm : use.initialized = true → operation.alg = teeAlgAesGcm →
    GcmEvent.lastKey operation.aegcmctx.2 = some operation.aekey

theorem Operation.keeps_contexts :
    Operation.Keeps (.mbedcrypt lib.traced sha3 ed25519) fun operation =>
      (operation.aectx.2, GcmEvent.lastKey operation.aegcmctx.2) where
  ctx _ _ := rfl
  session _ _ _ := rfl
  gcmStarts _ _ := rfl
  gcmUpdate _ _ _ := rfl
  gcmEncryptFinal _ _ _ _ := by
    simp only [Backend.mbedcrypt, Mbedtls.traced]
    split <;> rfl
  gcmDecryptFinal _ _ _ _ := by
    simp only [Backend.mbedcrypt, Mbedtls.traced]
    split
    · rfl
    · split <;> rfl
  cbc _ _ _ _ := rfl

/-- A call that sets no key and starts no session leaves the keys of the contexts. -/
theorem expanded_of_kept {use : KeyUse} {memory : Memory}
    {operation after : (Backend.mbedcrypt lib.traced sha3 ed25519).Operation}
    {call : OperationCall (.mbedcrypt lib.traced sha3 ed25519)} {output : OperationOutput}
    (keyless : call.Keyless)
    (no_init : ∀ nonce nonceLen tagLen aadLen payloadLen,
      call ≠ .aeInit nonce nonceLen tagLen aadLen payloadLen)
    (no_cipher_init : ∀ nonce nonceLen, call ≠ .cipherInit nonce nonceLen)
    (stepped : Operation.step (some operation) { memory, call } = (output, some after))
    (expanded : Expanded use operation) : Expanded use after := by
  have contexts := Operation.keeps_contexts.survivor
    (fun key same => by subst same; exact keyless.elim)
    (fun _ _ _ _ _ same => absurd same (no_init _ _ _ _ _))
    (fun _ _ same => absurd same (no_cipher_init _ _)) (congrArg Prod.snd stepped)
  have credentials := Operation.credentials_of_step keyless stepped
  have alg_eq : after.alg = operation.alg := congrArg Credentials.alg credentials
  have key_eq : after.aekey = operation.aekey := congrArg Credentials.aekey credentials
  obtain ⟨aectx_eq, lastKey_eq⟩ := Prod.mk.inj contexts
  refine ⟨fun initialized alg => ?_, fun initialized alg => ?_⟩
  · rw [aectx_eq, key_eq]
    exact expanded.cbc initialized (alg_eq ▸ alg)
  · rw [lastKey_eq, key_eq]
    exact expanded.gcm initialized (alg_eq ▸ alg)

/-- `TEE_CipherInit` expands the key of the operation. -/
theorem expanded_cipherInit {memory : Memory} {nonce : Option Nat} {nonceLen : Nat}
    {operation after : (Backend.mbedcrypt lib.traced sha3 ed25519).Operation}
    {output : OperationOutput}
    (stepped : Operation.step (some operation) { memory, call := .cipherInit nonce nonceLen } =
      (output, some after)) :
    after.alg = teeAlgAesCbcNopad ∧ after.aectx.2 = some after.aekey := by
  have keyless : (OperationCall.cipherInit nonce nonceLen :
      OperationCall (.mbedcrypt lib.traced sha3 ed25519)).Keyless := trivial
  have alg_eq := congrArg Credentials.alg (Operation.credentials_of_step keyless stepped)
  have survived := congrArg Prod.snd stepped
  rw [Operation.step_some] at survived
  obtain rfl := Operation.eq_of_survive survived
  simp only [Invocation.perform] at alg_eq survived ⊢
  rcases Operation.teeCipherInit_cases operation memory nonce nonceLen with panicked | ⟨alg, init⟩
  · rw [panicked] at survived
    cases survived
  · refine ⟨alg_eq.trans alg, ?_⟩
    rw [init] at survived ⊢
    simp only [Backend.mbedcrypt, Mbedtls.traced] at survived ⊢
    split at survived
    · next encrypt => rw [if_pos encrypt]
    · next not_encrypt =>
        rw [if_neg not_encrypt]
        split at survived
        · next decrypt => rw [if_pos decrypt]
        · cases survived

/-- `TEE_AEInit` sets the key of the operation, or leaves everything. -/
theorem expanded_aeInit {memory : Memory} {nonce : Option Nat}
    {nonceLen tagLen aadLen payloadLen : Nat}
    {operation after : (Backend.mbedcrypt lib.traced sha3 ed25519).Operation}
    {output : OperationOutput}
    (stepped : Operation.step (some operation)
      { memory, call := .aeInit nonce nonceLen tagLen aadLen payloadLen } = (output, some after)) :
    output.exit ≠ .returned .success ∧ after = operation ∨
      after.alg = teeAlgAesGcm ∧ GcmEvent.lastKey after.aegcmctx.2 = some after.aekey := by
  have output_eq := congrArg Prod.fst stepped
  have survived := congrArg Prod.snd stepped
  rw [Operation.step_some] at output_eq survived
  obtain rfl := Operation.eq_of_survive survived
  simp only [Invocation.perform] at output_eq survived ⊢
  rcases Operation.teeAEInit_cases operation memory nonce nonceLen tagLen aadLen payloadLen with
    ⟨_, result, failed, refused⟩ | ⟨admitted, _, ⟨_, panicked⟩ | ⟨_, accepted⟩⟩
  · refine .inl ⟨?_, by rw [refused]⟩
    rw [← output_eq, refused]
    exact fun success => failed (Exit.returned.inj success)
  · rw [panicked] at survived
    cases survived
  · rw [accepted]
    exact .inr ⟨admitted.1, rfl⟩

/-- Every operation has the key of its last session in its context. -/
def AllExpanded (history : KeyHistory) (world : World (.mbedcrypt lib.traced sha3 ed25519)) :
    Prop :=
  ∀ name operation, world.operations.get? name = some operation →
    Expanded (history.operations name) operation

theorem allExpanded_of_changes {history : KeyHistory}
    {world after : World (.mbedcrypt lib.traced sha3 ed25519)} {memory : Memory}
    {call : HandleCall (.mbedcrypt lib.traced sha3 ed25519)} {output : OperationOutput}
    (tells : history.Tells world) (expanded : AllExpanded history world)
    (changes : world.Changes memory call output after) :
    AllExpanded (history.observe ed25519.createKeypair { memory, call } (some output)) after := by
  cases changes with
  | refused failed =>
      rw [KeyHistory.observe_of_failed failed]
      exact expanded
  | freedNullObject | freedNullOperation | freedObject name =>
      rw [KeyHistory.observe_of_idle _ fun _ => rfl]
      exact expanded
  | freedOperation name success =>
      rw [KeyHistory.observe_of_idle _ fun _ => rfl]
      intro other operation lookup
      obtain ⟨_, lookup⟩ := Heap.get?_free_cases lookup
      exact expanded other operation lookup
  | allocatedObject name vacant known success | generated name seed lookup unset success =>
      rw [KeyHistory.observe_of_success success]
      exact expanded
  | allocatedOperation name vacant allocated success =>
      rw [KeyHistory.observe_of_success success]
      intro other operation lookup
      dsimp only [KeyHistory.succeeded]
      rcases Heap.get?_put_cases lookup with ⟨rfl, rfl⟩ | ⟨is_old, lookup⟩
      · rw [Function.update_self]
        exact ⟨fun initialized => (by cases initialized), fun initialized => (by cases initialized)⟩
      · rw [Function.update_of_ne is_old]
        exact expanded other operation lookup
  | programmed name key lookup source copied success =>
      obtain ⟨record, found, _⟩ := tells.object key _ source
      rw [KeyHistory.observe_of_success success, KeyHistory.succeeded, found]
      intro other operation lookup'
      dsimp only
      rcases Heap.get?_put_cases lookup' with ⟨rfl, rfl⟩ | ⟨is_old, lookup'⟩
      · rw [Function.update_self]
        exact ⟨fun initialized => (by cases initialized), fun initialized => (by cases initialized)⟩
      · rw [Function.update_of_ne is_old]
        exact expanded other operation lookup'
  | @invoked name call keyless operation next _ lookup stepped =>
      intro other held lookup'
      rcases Heap.get?_put_cases lookup' with ⟨rfl, rfl⟩ | ⟨is_old, lookup'⟩
      swap
      · rw [KeyHistory.operations_observe_of_ne _ _ is_old]
        exact expanded other held lookup'
      by_cases init : ∃ nonce nonceLen tagLen aadLen payloadLen,
          call = .aeInit nonce nonceLen tagLen aadLen payloadLen
      · obtain ⟨nonce, nonceLen, tagLen, aadLen, payloadLen, rfl⟩ := init
        rcases expanded_aeInit stepped with ⟨failed, rfl⟩ | ⟨alg, key⟩
        · rw [KeyHistory.observe_of_failed failed]
          exact expanded other held lookup
        · exact ⟨fun _ cbc => absurd (alg.symm.trans cbc) (by decide), fun _ _ => key⟩
      by_cases cipher_init : ∃ nonce nonceLen, call = .cipherInit nonce nonceLen
      · obtain ⟨nonce, nonceLen, rfl⟩ := cipher_init
        obtain ⟨alg, key⟩ := expanded_cipherInit stepped
        exact ⟨fun _ _ => key, fun _ gcm => absurd (alg.symm.trans gcm) (by decide)⟩
      · simp only [not_exists] at init cipher_init
        rw [KeyHistory.operations_observe_of_kept _ _ _ _ keyless init cipher_init]
        exact expanded_of_kept keyless init cipher_init stepped (expanded other operation lookup)

/-- A call that succeeds in processing data passed the checks. -/
theorem admitsProcessing_of_success {backend : Backend} {operation : backend.Operation}
    {memory : Memory} {call : OperationCall backend} (processes : call.Processes)
    (success : (Operation.step (some operation) { memory, call }).1.exit = .returned .success) :
    Operation.AdmitsProcessing operation call := by
  rw [Operation.step_some] at success
  cases call with
  | cipherUpdate buffers | cipherDoFinal buffers =>
      simp only [Invocation.perform, teeCipherDoFinal, teeCipherUpdate] at success
      split at success
      · cases success
      · next alg =>
          split at success
          · next encrypt => exact ⟨not_not.mp alg, .inl encrypt⟩
          · split at success
            · next decrypt => exact ⟨not_not.mp alg, .inr decrypt⟩
            · cases success
  | aeUpdate buffers destLen =>
      exact Operation.admitsData_of_aeUpdate (Operation.ne_badParameters_of_succeeds success)
  | aeEncryptFinal buffers destLen tag tagLen =>
      exact Operation.admitsFinal_of_aeEncryptFinal
        (Operation.ne_badParameters_of_succeeds success)
  | aeDecryptFinal buffers destLen tag tagLen =>
      exact Operation.admitsFinal_of_aeDecryptFinal
        (Operation.ne_badParameters_of_succeeds success)
  | signDigest digest digestLen signature =>
      simp only [Invocation.perform, teeAsymmetricSignDigest] at success
      split at success
      · cases success
      · next purpose =>
          split at success
          · cases success
          · next keySet =>
              rw [not_or, not_not, not_not] at purpose
              exact ⟨purpose.1, purpose.2, Bool.eq_true_of_not_eq_false keySet⟩
  | verifyDigest digest digestLen signature signatureLen =>
      simp only [Invocation.perform, teeAsymmetricVerifyDigest] at success
      split at success
      · cases success
      · next purpose =>
          split at success
          · cases success
          · next keySet =>
              rw [not_or, not_or, not_not, not_not, not_not] at purpose
              exact ⟨purpose.1, purpose.2.1, purpose.2.2, Bool.eq_true_of_not_eq_false keySet⟩
  | _ => exact processes.elim

/-- The key of an operation that is programmed is the generated one. -/
theorem worksWith_of_programmed {history : KeyHistory} {use : KeyUse} {copy : KeyCopy}
    {pair : Bytes × Bytes} {operation : (Backend.mbedcrypt lib.traced sha3 ed25519).Operation}
    {call : OperationCall (.mbedcrypt lib.traced sha3 ed25519)}
    (describes : use.Describes history (Operation.credentials operation))
    (expanded : Expanded use operation) (processes : call.Processes)
    (admitted : Operation.AdmitsProcessing operation call) (latest : use.latest = some copy)
    (made : copy.record.generated = some pair)
    (fits : FitsAlgorithm copy.record.type operation.alg)
    (initialized : operation.alg = teeAlgEcdsaP256 ∨ use.initialized = true) :
    WorksWith pair operation call := by
  have aes_key : operation.alg = teeAlgAesCbcNopad ∨ operation.alg = teeAlgAesGcm →
      use.initialized = true ∧ operation.aekey = pair.1 := by
    intro alg
    rcases fits with ⟨aes, _⟩ | ⟨_, ecdsa⟩
    · refine ⟨?_, describes.aesKey copy pair latest aes made⟩
      rcases initialized with ecdsa | initialized
      · rw [ecdsa] at alg
        exact absurd alg (by decide)
      · exact initialized
    · rw [ecdsa] at alg
      exact absurd alg (by decide)
  have keypair : operation.alg = teeAlgEcdsaP256 →
      operation.pubkey = pair.1 ∧ operation.prikey = pair.2 := by
    intro alg
    rcases fits with ⟨_, other⟩ | ⟨pair_type, _⟩
    · rw [alg] at other
      exact absurd other (by decide)
    · have not_aes : copy.record.type ≠ teeTypeAes := by
        rcases pair_type with same | same <;> rw [same] <;> decide
      exact describes.keypair copy pair (describes.latestKeypair_eq copy latest not_aes) made
  have gcm_key : operation.alg = teeAlgAesGcm →
      GcmEvent.lastKey operation.aegcmctx.2 = some pair.1 := by
    intro alg
    obtain ⟨started, key_eq⟩ := aes_key (.inr alg)
    rw [expanded.gcm started alg, key_eq]
  cases call with
  | cipherUpdate buffers | cipherDoFinal buffers =>
      obtain ⟨started, key_eq⟩ := aes_key (.inl admitted.1)
      exact (expanded.cbc started admitted.1).trans (congrArg some key_eq)
  | aeUpdate buffers destLen => exact gcm_key admitted.1
  | aeEncryptFinal buffers destLen tag tagLen => exact gcm_key admitted.1.1
  | aeDecryptFinal buffers destLen tag tagLen => exact gcm_key admitted.1.1
  | signDigest digest digestLen signature => exact keypair admitted.2.1
  | verifyDigest digest digestLen signature signatureLen => exact (keypair admitted.2.1).1
  | _ => exact processes.elim

/-- The invariant of runs. -/
def Provenance (state : Option (World (.mbedcrypt lib.traced sha3 ed25519)) × KeyHistory) : Prop :=
  ∀ world ∈ state.1, state.2.Tells world ∧ AllExpanded state.2 world

theorem provenance_of_step
    {state : Option (World (.mbedcrypt lib.traced sha3 ed25519)) × KeyHistory}
    (request : Request (.mbedcrypt lib.traced sha3 ed25519)) (provenance : Provenance state) :
    Provenance
      (Machine.observed step (KeyHistory.observe ed25519.createKeypair) state request).2 := by
  obtain ⟨_ | world, history⟩ := state
  · intro world live
    cases live
  intro after survived
  obtain ⟨tells, expanded⟩ := provenance world rfl
  obtain ⟨output, reply_eq, changes⟩ := changes_of_step survived
  dsimp only [Machine.observed]
  rw [reply_eq]
  exact ⟨tells.changes changes, allExpanded_of_changes tells expanded changes⟩

/-- A programmed call that succeeds works with a generated key. -/
theorem worksWithGenerated_of_programmed
    {state : Option (World (.mbedcrypt lib.traced sha3 ed25519)) × KeyHistory}
    {request : Request (.mbedcrypt lib.traced sha3 ed25519)} (provenance : Provenance state)
    (programmed : Programmed state request) :
    WorksWithGenerated state request (step state.1 request).1 := by
  intro world live
  obtain ⟨tells, expanded⟩ := provenance world live
  have programmed := programmed world live
  obtain ⟨state, history⟩ := state
  obtain rfl : state = some world := live
  obtain ⟨memory, call⟩ := request
  cases call with
  | invoke target call keyless =>
      cases target with
      | none => trivial
      | some name =>
          intro operation lookup processes success
          rw [reply_invoke lookup] at success
          have admitted := admitsProcessing_of_success processes (Option.some.inj success)
          obtain ⟨copy, latest, keyed, fits, initialized⟩ := programmed operation lookup admitted
          obtain ⟨pair, made⟩ := Option.isSome_iff_exists.mp keyed
          exact ⟨copy, pair, latest, made, fits, worksWith_of_programmed
            (tells.operation name operation lookup) (expanded name operation lookup) processes
            admitted latest made fits initialized⟩
  | _ => trivial

end Mbedcrypt
end World

/-- In every run in which the calls that process data find a programmed operation, each that
succeeds works with the generated key of the object that was copied last. -/
theorem key_provenance (lib : Mbedtls) (sha3 : Sha3) (ed25519 : Ed25519)
    {requests : List (Request (.mbedcrypt lib.traced sha3 ed25519))}
    (programmed : Machine.Within (Machine.observed World.step (KeyHistory.observe
      ed25519.createKeypair)) World.Programmed (some .empty, .empty) requests) :
    Machine.Along (Machine.observed World.step (KeyHistory.observe ed25519.createKeypair))
      World.WorksWithGenerated (some .empty, .empty) requests := by
  have initial : World.Provenance
      (some (World.empty : World (.mbedcrypt lib.traced sha3 ed25519)), KeyHistory.empty) := by
    rintro _ ⟨⟩
    refine ⟨.empty, fun name operation lookup => ?_⟩
    cases lookup
  refine Machine.along_of_within (fun state request provenance guard => ?_) initial programmed
  exact ⟨World.worksWithGenerated_of_programmed provenance guard,
    World.provenance_of_step request provenance⟩

namespace World

/-- The build of the examples. -/
abbrev tracedBackend : Backend :=
  .mbedcrypt (Mbedtls.reference vectorCipher).traced (.reference vectorHash) .reference

/-- Allocate an AES object and a CBC operation, both with handle 0. -/
def allocateCipher : List (Request tracedBackend) :=
  [{ memory := Operation.vectorMemory, call := .allocateTransientObject (some 0) teeTypeAes 256 },
    { memory := Operation.vectorMemory
      call := .allocateOperation (some (0, Operation.fresh _ 0 0)) teeAlgAesCbcNopad
        teeModeEncrypt 256 }]

def generateAesKey : Request tracedBackend where
  memory := Operation.vectorMemory
  call := .generateKey (some 0) (some ⟨vectorSeed, length_vectorSeed⟩)

/-- Copy the key, start a session and encrypt a block. -/
def programAndEncrypt : List (Request tracedBackend) :=
  [{ memory := Operation.vectorMemory, call := .setOperationKey (some 0) (some 0) },
    { memory := Operation.vectorMemory
      call := .invoke (some 0) (.cipherInit (some 0) 16) trivial },
    { memory := Operation.vectorMemory
      call := .invoke (some 0) (.cipherUpdate Operation.vectorBuffers) trivial }]

end World

theorem key_provenance_published :
    Machine.Along (Machine.observed World.step (KeyHistory.observe
        Ed25519.reference.createKeypair))
      World.WorksWithGenerated (some .empty, .empty)
      (World.allocateCipher ++ World.generateAesKey :: World.programAndEncrypt) :=
  key_provenance (.reference vectorCipher) (.reference vectorHash) .reference (by decide +kernel)

/-- Without `TEE_GenerateKey` the same calls encrypt with a key of zeros. -/
theorem zero_key_encrypts :
    ¬ Machine.Along (Machine.observed World.step (KeyHistory.observe
        Ed25519.reference.createKeypair))
      World.WorksWithGenerated (some .empty, .empty)
      (World.allocateCipher ++ World.programAndEncrypt) := by
  rintro ⟨_, _, _, _, generated, _⟩
  obtain ⟨_, _, ⟨⟩, made, _⟩ := generated _ rfl _ rfl trivial rfl
  cases made

end TaRef
