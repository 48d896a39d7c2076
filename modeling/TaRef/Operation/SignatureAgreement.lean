import TaRef.Operation.KeyHistory

/-!
# Signatures across handles

Two operations that were keyed from one generated key pair agree on signatures, whatever happens to
the pair's object and to other handles in between.  `TEE_SetOperationKey` also copies from an object
in which no key was generated yet; a signature with such a copy is one of zero keys.
-/

namespace TaRef

/-- The call may replace the keys of this operation. -/
def HandleCall.Replaces {backend : Backend} (name : Nat) : HandleCall backend → Prop
  | .setOperationKey (some operation) _ | .freeOperation (some operation) => operation = name
  | _ => False

/-- What the ed25519 library promises of the pairs that it creates. -/
structure Ed25519.Laws (lib : Ed25519) : Prop where
  length_sign : ∀ (seed : KeySeed) (message : Bytes),
    (lib.sign message (lib.createKeypair seed.1).1 (lib.createKeypair seed.1).2).length = sigLength
  verify_sign : ∀ (seed : KeySeed) (message : Bytes),
    lib.verify (lib.sign message (lib.createKeypair seed.1).1 (lib.createKeypair seed.1).2) message
      (lib.createKeypair seed.1).1 = true

namespace World

variable {backend : Backend}

/-- A signature is made or verified with a key pair that was copied after it was generated. -/
def SignsGenerated (state : Option (World backend) × KeyHistory) (request : Request backend) :
    Prop :=
  match request.call with
  | .invoke (some name) (.signDigest ..) _ | .invoke (some name) (.verifyDigest ..) _ =>
      ∀ copy ∈ (state.2.operations name).latestKeypair, copy.record.generated.isSome = true
  | _ => True

instance (state : Option (World backend) × KeyHistory) (request : Request backend) :
    Decidable (SignsGenerated state request) := by
  obtain ⟨memory, _ | _ | _ | _ | _ | _ | ⟨_ | name, call⟩⟩ := request
  case invoke.some => casesm OperationCall _ <;> unfold SignsGenerated <;> infer_instance
  all_goals exact isTrue trivial

/-- A signature that some operation made with the key pair of an object is accepted by an operation
that verifies with the key pair of the same object. -/
def Accepts (state : Option (World backend) × KeyHistory) (request : Request backend)
    (reply : Option OperationOutput) : Prop :=
  ∀ world ∈ state.1,
    match request.call with
    | .invoke (some name) (.verifyDigest digest digestLen signature signatureLen) _ =>
        ∀ operation ∈ world.operations.get? name,
          Operation.purpose operation = (teeAlgEcdsaP256, teeModeVerify) →
          ∀ copy ∈ (state.2.operations name).latestKeypair, ∀ signed ∈ state.2.signed,
            signed.copy.object = copy.object →
            signed.digest = request.memory.read digest digestLen →
            signed.signature = request.memory.read signature sigLength →
            signatureLen = sigLength →
              reply.map OperationOutput.exit = some (.returned .success)
    | _ => True

/-- An operation keeps its keys through every call but its own successful `TEE_SetOperationKey` and
`TEE_FreeOperation`. -/
def KeepsKeys (state : Option (World backend) × KeyHistory) (request : Request backend)
    (reply : Option OperationOutput) : Prop :=
  ∀ world ∈ state.1, ∀ after ∈ (step (some world) request).2, ∀ name,
    ∀ operation ∈ world.operations.get? name,
      ¬ (request.call.Replaces name ∧
        reply.map OperationOutput.exit = some (.returned .success)) →
      ∃ kept ∈ after.operations.get? name,
        Operation.credentials kept = Operation.credentials operation

section Mbedcrypt

variable {lib : Mbedtls} {sha3 : Sha3} {ed25519 : Ed25519}

theorem keepsKeys_of_step (state : Option (World (.mbedcrypt lib sha3 ed25519)) × KeyHistory)
    (request : Request (.mbedcrypt lib sha3 ed25519)) :
    KeepsKeys state request (step state.1 request).1 := by
  rintro world live after survived name operation lookup kept
  obtain ⟨memory, call⟩ := request
  rw [live] at kept
  obtain ⟨output, reply_eq, changes⟩ := changes_of_step survived
  have untouched : ¬ (call.Replaces name ∧ output.exit = .returned .success) := by
    rintro ⟨replaces, success⟩
    exact kept ⟨replaces,
      (congrArg (Option.map OperationOutput.exit) reply_eq).trans (congrArg some success)⟩
  dsimp only at changes
  cases changes with
  | refused failed => exact ⟨operation, lookup, rfl⟩
  | freedNullObject | freedNullOperation | freedObject | allocatedObject | generated =>
      exact ⟨operation, lookup, rfl⟩
  | freedOperation other success =>
      have other_ne : name ≠ other := fun same => untouched ⟨same.symm, success⟩
      exact ⟨operation, (Heap.get?_free_of_ne _ other_ne).trans lookup, rfl⟩
  | allocatedOperation other vacant =>
      have other_ne : name ≠ other := by
        rintro rfl
        rw [Heap.isVacant_of_get? lookup] at vacant
        cases vacant
      exact ⟨operation, (Heap.get?_put_of_ne _ _ other_ne).trans lookup, rfl⟩
  | programmed other key source_lookup source copied success =>
      have other_ne : name ≠ other := fun same => untouched ⟨same.symm, success⟩
      exact ⟨operation, (Heap.get?_put_of_ne _ _ other_ne).trans lookup, rfl⟩
  | @invoked other call keyless held next _ other_lookup stepped =>
      by_cases same : name = other
      · subst same
        cases lookup.symm.trans other_lookup
        exact ⟨next, Heap.get?_put_self .., Operation.credentials_of_step keyless stepped⟩
      · exact ⟨operation, (Heap.get?_put_of_ne _ _ same).trans lookup, rfl⟩

/-- A signature was made with a pair that is still known as that of its object. -/
def Genuine (ed25519 : Ed25519) (history : KeyHistory) (signed : Signed) : Prop :=
  history.Backs signed.copy ∧ ∃ pair, signed.copy.record.generated = some pair ∧
    signed.signature = ed25519.sign signed.digest pair.1 pair.2

theorem Genuine.grows {history later : KeyHistory} {signed : Signed}
    (genuine : Genuine ed25519 history signed) (grows : history.Grows later) :
    Genuine ed25519 later signed :=
  ⟨genuine.1.grows grows, genuine.2⟩

/-- What a successful `TEE_AsymmetricSignDigest` stores. -/
theorem read_signDigest (laws : ed25519.Laws) {seed : KeySeed} {memory : Memory}
    {operation : (Backend.mbedcrypt lib sha3 ed25519).Operation} {digest digestLen signature : Nat}
    (public_eq : operation.pubkey = (ed25519.createKeypair seed.1).1)
    (private_eq : operation.prikey = (ed25519.createKeypair seed.1).2)
    (success : (teeAsymmetricSignDigest operation memory digest digestLen signature).exit =
      .returned .success) :
    (teeAsymmetricSignDigest operation memory digest digestLen signature).memory.read signature
        sigLength =
      ed25519.sign (memory.read digest digestLen) (ed25519.createKeypair seed.1).1
        (ed25519.createKeypair seed.1).2 := by
  unfold teeAsymmetricSignDigest at success ⊢
  split at success
  · cases success
  · next purpose_checked =>
      rw [if_neg purpose_checked]
      split at success
      · cases success
      · next key_checked =>
          rw [if_neg key_checked]
          have sign_eq : (Backend.mbedcrypt lib sha3 ed25519).sign operation
              (memory.read digest digestLen) =
                ed25519.sign (memory.read digest digestLen) (ed25519.createKeypair seed.1).1
                  (ed25519.createKeypair seed.1).2 := by
            rw [← public_eq, ← private_eq]
            rfl
          dsimp only
          rw [sign_eq, ← laws.length_sign seed (memory.read digest digestLen), Memory.read_write]

theorem teeAsymmetricVerifyDigest_of_accepted {backend : Backend} {operation : backend.Operation}
    {memory : Memory} {digest digestLen signature signatureLen : Nat}
    (purpose : Operation.purpose operation = (teeAlgEcdsaP256, teeModeVerify))
    (length_eq : signatureLen = sigLength)
    (keySet : hasFlag operation.flags teeHandleFlagKeySet = true)
    (accepted : backend.verify operation (memory.read signature sigLength)
      (memory.read digest digestLen) = true) :
    teeAsymmetricVerifyDigest operation memory digest digestLen signature signatureLen =
      .success := by
  have alg_eq : operation.alg = teeAlgEcdsaP256 := congrArg Prod.fst purpose
  have mode_eq : operation.mode = teeModeVerify := congrArg Prod.snd purpose
  simp [teeAsymmetricVerifyDigest, alg_eq, mode_eq, length_eq, keySet, accepted]

/-- The signatures that a call leaves in the history. -/
theorem signed_observe (createKeypair : Bytes → Bytes × Bytes) (history : KeyHistory)
    {backend : Backend} (memory : Memory) (call : HandleCall backend) (output : OperationOutput)
    {signed : Signed}
    (listed : signed ∈ (history.observe createKeypair { memory, call } (some output)).signed) :
    signed ∈ history.signed ∨ output.exit = .returned .success ∧
      ∃ name digest digestLen signature keyless copy,
        call = .invoke (some name) (.signDigest digest digestLen signature) keyless ∧
        (history.operations name).latestKeypair = some copy ∧
        signed = { copy
                   digest := memory.read digest digestLen
                   signature := output.memory.read signature sigLength } := by
  by_cases success : output.exit = .returned .success
  swap
  · rw [KeyHistory.observe_of_failed success] at listed
    exact .inl listed
  rw [KeyHistory.observe_of_success success] at listed
  dsimp only at listed
  unfold KeyHistory.succeeded at listed
  split at listed
  · exact .inl listed
  · exact .inl listed
  · exact .inl listed
  · split at listed <;> exact .inl listed
  · next name call keyless =>
      unfold KeyHistory.invoked at listed
      split at listed
      · exact .inl listed
      · exact .inl listed
      · next digest digestLen signature =>
          split at listed
          · next copy latest =>
              rcases List.mem_cons.mp listed with rfl | earlier
              · exact .inr ⟨success, name, digest, digestLen, signature, keyless, copy, rfl, latest,
                  rfl⟩
              · exact .inl earlier
          · exact .inl listed
      · exact .inl listed
  · exact .inl listed

/-- The invariant of runs. -/
def Agreeing (state : Option (World (.mbedcrypt lib sha3 ed25519)) × KeyHistory) : Prop :=
  ∀ world ∈ state.1, state.2.Tells world ∧
    ∀ signed ∈ state.2.signed, Genuine ed25519 state.2 signed

theorem agreeing_of_step (laws : ed25519.Laws)
    {state : Option (World (.mbedcrypt lib sha3 ed25519)) × KeyHistory}
    {request : Request (.mbedcrypt lib sha3 ed25519)} (agreeing : Agreeing state)
    (generated : SignsGenerated state request) :
    Agreeing
      (Machine.observed step (KeyHistory.observe ed25519.createKeypair) state request).2 := by
  obtain ⟨_ | world, history⟩ := state
  · intro world live
    cases live
  intro after survived
  obtain ⟨tells, genuine⟩ := agreeing world rfl
  obtain ⟨memory, call⟩ := request
  obtain ⟨output, reply_eq, changes⟩ := changes_of_step survived
  have grows := KeyHistory.grows_of_changes tells changes
  dsimp only [Machine.observed]
  rw [reply_eq]
  refine ⟨tells.changes changes, fun signed listed => ?_⟩
  rcases signed_observe _ history memory call output listed with earlier |
    ⟨success, name, digest, digestLen, signature, keyless, copy, rfl, latest, rfl⟩
  · exact (genuine signed earlier).grows grows
  · -- the new signature is one with the pair that the copy was made of
    obtain ⟨pair, made⟩ := Option.isSome_iff_exists.mp (generated copy latest)
    cases changes with
    | refused failed => exact absurd success failed
    | invoked _ _ _ lookup stepped =>
        have describes := tells.operation name _ lookup
        have backs := describes.latestKeypair_backed copy latest
        obtain ⟨public_eq, private_eq⟩ := describes.keypair copy pair latest made
        obtain ⟨seed, rfl⟩ := tells.created_of_backs backs made
        have output_eq : teeAsymmetricSignDigest _ memory digest digestLen signature = output :=
          congrArg Prod.fst stepped
        refine ⟨backs.grows grows, _, made, ?_⟩
        rw [← output_eq] at success ⊢
        exact read_signDigest laws public_eq private_eq success

/-- Every VERIFY operation accepts the signatures made with the same object's key pair. -/
theorem accepts_of_agreeing (laws : ed25519.Laws)
    {state : Option (World (.mbedcrypt lib sha3 ed25519)) × KeyHistory}
    {request : Request (.mbedcrypt lib sha3 ed25519)} (agreeing : Agreeing state)
    (generated : SignsGenerated state request) :
    Accepts state request (step state.1 request).1 := by
  rintro world live
  obtain ⟨tells, genuine⟩ := agreeing world live
  obtain ⟨state, history⟩ := state
  obtain rfl : state = some world := live
  obtain ⟨memory, call⟩ := request
  dsimp only at generated ⊢
  split
  · next name digest digestLen signature signatureLen keyless =>
      rintro operation lookup purpose copy latest signed listed same digest_eq signature_eq
        length_eq
      obtain ⟨pair, made⟩ := Option.isSome_iff_exists.mp (generated copy latest)
      have describes := tells.operation name operation lookup
      obtain ⟨public_eq, _⟩ := describes.keypair copy pair latest made
      -- both copies are of the pair that the object still has
      obtain ⟨record, found, known⟩ := describes.latestKeypair_backed copy latest pair made
      obtain ⟨signed_backs, signed_pair, signed_made, signature_made⟩ := genuine signed listed
      obtain ⟨record', found', known'⟩ := signed_backs signed_pair signed_made
      rw [same, found] at found'
      cases found'
      cases known.symm.trans known'
      obtain ⟨seed, rfl⟩ := tells.created copy.object record pair found known
      have alg_eq : (Operation.credentials operation).alg = teeAlgEcdsaP256 :=
        congrArg Prod.fst purpose
      have keySet : hasFlag operation.flags teeHandleFlagKeySet = true := by
        have known_alg : (Operation.credentials operation).alg ≠ teeAlgSha256 := by
          rw [alg_eq]
          decide
        exact (describes.keySet known_alg).trans
          (describes.latest_isSome (by rw [latest, Option.isSome_some]))
      have accepted : (Backend.mbedcrypt lib sha3 ed25519).verify operation
          (memory.read signature sigLength) (memory.read digest digestLen) = true := by
        have verify_eq := laws.verify_sign seed (memory.read digest digestLen)
        rw [← digest_eq, ← signature_made, signature_eq, digest_eq, ← public_eq] at verify_eq
        exact verify_eq
      rw [reply_invoke lookup]
      exact congrArg (fun result => some (Exit.returned result))
        (teeAsymmetricVerifyDigest_of_accepted purpose length_eq keySet accepted)
  · trivial

end Mbedcrypt
end World

/-- In every run in which the operations that sign and verify have key pairs copied after they were
generated, every VERIFY operation accepts what SIGN operations signed with the same object's pair,
and operations keep their keys. -/
theorem signatures_agree (lib : Mbedtls) (sha3 : Sha3) {ed25519 : Ed25519} (laws : ed25519.Laws)
    {requests : List (Request (.mbedcrypt lib sha3 ed25519))}
    (generated : Machine.Within (Machine.observed World.step (KeyHistory.observe
      ed25519.createKeypair)) World.SignsGenerated (some .empty, .empty) requests) :
    Machine.Along (Machine.observed World.step (KeyHistory.observe ed25519.createKeypair))
      (fun state request reply =>
        World.Accepts state request reply ∧ World.KeepsKeys state request reply)
      (some .empty, .empty) requests := by
  have initial : World.Agreeing (some (World.empty : World (.mbedcrypt lib sha3 ed25519)),
      KeyHistory.empty) := by
    rintro _ ⟨⟩
    refine ⟨.empty, fun signed listed => ?_⟩
    cases listed
  refine Machine.along_of_within (fun state request agreeing guard => ?_) initial generated
  exact ⟨⟨World.accepts_of_agreeing laws agreeing guard, World.keepsKeys_of_step state request⟩,
    World.agreeing_of_step laws agreeing guard⟩

theorem Ed25519.reference_laws : Ed25519.reference.Laws where
  length_sign seed message := by
    simp only [reference]
    by_cases vector : seed.1 = vectorSeed
    · rw [if_pos vector]
      split
      · rfl
      · decide
    · rw [if_neg vector]
      split
      · rfl
      · simp [seed.2, sigLength]
  verify_sign seed message := by simp [reference]

namespace World

/-- The build of the examples. -/
abbrev referenceBackend : Backend :=
  .mbedcrypt (.reference vectorCipher) (.reference vectorHash) .reference

/-- A call of the examples, which sign and verify the empty digest. -/
def vectorRequest (call : HandleCall referenceBackend) : Request referenceBackend :=
  { memory := Operation.vectorMemory, call }

/-- Allocate a key pair object and a SIGN operation with handle 0, and a VERIFY operation with
handle 1. -/
def allocateKeypair : List (Request referenceBackend) :=
  [vectorRequest (.allocateTransientObject (some 0) teeTypeEcdsaKeypair 256),
    vectorRequest (.allocateOperation (some (0, Operation.fresh _ 0 0)) teeAlgEcdsaP256
      teeModeSign 256),
    vectorRequest (.allocateOperation (some (1, Operation.fresh _ 0 0)) teeAlgEcdsaP256
      teeModeVerify 256)]

def generateKeypair : Request referenceBackend :=
  vectorRequest (.generateKey (some 0) (some ⟨vectorSeed, length_vectorSeed⟩))

def programKeypair (operation : Nat) : Request referenceBackend :=
  vectorRequest (.setOperationKey (some operation) (some 0))

/-- Sign, and verify the signature that `memory` holds. -/
def signAndVerify (memory : Memory) : List (Request referenceBackend) :=
  [vectorRequest (.invoke (some 0) (.signDigest 0 0 64) trivial),
    { memory, call := .invoke (some 1) (.verifyDigest 0 0 64 64) trivial }]

end World

theorem signatures_agree_published :
    Machine.Along (Machine.observed World.step (KeyHistory.observe
        Ed25519.reference.createKeypair))
      (fun state request reply =>
        World.Accepts state request reply ∧ World.KeepsKeys state request reply)
      (some .empty, .empty)
      (World.allocateKeypair ++ World.generateKeypair :: World.programKeypair 0 ::
        World.programKeypair 1 ::
          World.signAndVerify (Operation.vectorMemory.write 64 vectorSignature)) :=
  signatures_agree (.reference vectorCipher) (.reference vectorHash) Ed25519.reference_laws
    (by decide +kernel)

/-- An operation that was keyed before `TEE_GenerateKey` signs with zero keys. -/
theorem signature_refused :
    ¬ Machine.Along (Machine.observed World.step (KeyHistory.observe
        Ed25519.reference.createKeypair))
      (fun state request reply =>
        World.Accepts state request reply ∧ World.KeepsKeys state request reply)
      (some .empty, .empty)
      (World.allocateKeypair ++ World.programKeypair 0 :: World.generateKeypair ::
        World.programKeypair 1 :: World.signAndVerify Operation.vectorMemory) := by
  rintro ⟨_, _, _, _, _, _, _, ⟨accepts, _⟩, _⟩
  have accepted := accepts _ rfl _ rfl rfl _ rfl _ (List.mem_singleton_self _) rfl rfl rfl rfl
  exact absurd accepted (by decide +kernel)

end TaRef
