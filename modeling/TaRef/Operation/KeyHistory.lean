import TaRef.Operation.Specification
import TaRef.Operation.World

/-!
# Where the keys of an operation come from

An observer of runs on handles notes which key pair `TEE_GenerateKey` made in an object and which
object `TEE_SetOperationKey` copied from.  It sees the calls and what they hand back, and nothing of
the handles; that the handles hold these keys is an invariant of runs with mbedtls.
-/

namespace TaRef

/-- The type of an object and the key pair that was generated in it. -/
structure KeyRecord where
  type : UInt32
  generated : Option (Bytes × Bytes)

/-- An object and its record at the time it was copied. -/
structure KeyCopy where
  object : Nat
  record : KeyRecord

/-- The last key that was copied into an operation, the last key pair among these, and whether
`TEE_CipherInit` or `TEE_AEInit` succeeded since the last key. -/
structure KeyUse where
  latest : Option KeyCopy
  latestKeypair : Option KeyCopy
  initialized : Bool

/-- A signature with the key it was made with. -/
structure Signed where
  copy : KeyCopy
  digest : Bytes
  signature : Bytes

/-- What an observer knows of the keys. -/
structure KeyHistory where
  objects : Nat → Option KeyRecord
  operations : Nat → KeyUse
  signed : List Signed

/-- An operation without a key. -/
def KeyUse.unkeyed : KeyUse := ⟨none, none, false⟩

/-- An operation after `TEE_SetOperationKey`. -/
def KeyUse.programmed (use : KeyUse) (copy : KeyCopy) : KeyUse where
  latest := some copy
  latestKeypair := if copy.record.type = teeTypeAes then use.latestKeypair else some copy
  initialized := false

namespace KeyHistory

variable {backend : Backend}

/-- Before any call. -/
def empty : KeyHistory := ⟨fun _ => none, fun _ => .unkeyed, []⟩

/-- The history after a successful call on an operation, with the memory before and after it. -/
def invoked (history : KeyHistory) (name : Nat) (before : Memory) (after : Memory) :
    OperationCall backend → KeyHistory
  | .aeInit .. | .cipherInit .. =>
      { history with
        operations := Function.update history.operations name
          { history.operations name with initialized := true } }
  | .signDigest digest digestLen signature =>
      match (history.operations name).latestKeypair with
      | some copy =>
          { history with
            signed := { copy
                        digest := before.read digest digestLen
                        signature := after.read signature sigLength } :: history.signed }
      | none => history
  | _ => history

/-- The history after a successful call. -/
def succeeded (createKeypair : Bytes → Bytes × Bytes) (history : KeyHistory) (before : Memory)
    (after : Memory) : HandleCall backend → KeyHistory
  | .allocateTransientObject (some name) objectType _ =>
      { history with objects := Function.update history.objects name (some ⟨objectType, none⟩) }
  | .generateKey (some name) (some seed) =>
      { history with
        objects := Function.update history.objects name
          ((history.objects name).map fun record =>
            { record with generated := some (createKeypair seed.1) }) }
  | .allocateOperation (some (name, _)) _ _ _ =>
      { history with operations := Function.update history.operations name .unkeyed }
  | .setOperationKey (some name) (some key) =>
      match history.objects key with
      | some record =>
          { history with
            operations := Function.update history.operations name
              ((history.operations name).programmed ⟨key, record⟩) }
      | none => history
  | .invoke (some name) call _ => history.invoked name before after call
  | _ => history

/-- The history after any call. -/
def observe (createKeypair : Bytes → Bytes × Bytes) (history : KeyHistory)
    (request : Request backend) (reply : Option OperationOutput) : KeyHistory :=
  match reply with
  | some { exit := .returned .success, destLen := _, memory } =>
      history.succeeded createKeypair request.memory memory request.call
  | _ => history

theorem observe_of_success {createKeypair : Bytes → Bytes × Bytes} {history : KeyHistory}
    {request : Request backend} {output : OperationOutput}
    (success : output.exit = .returned .success) :
    history.observe createKeypair request (some output) =
      history.succeeded createKeypair request.memory output.memory request.call := by
  obtain ⟨_, _, _⟩ := output
  cases success
  rfl

theorem observe_of_failed {createKeypair : Bytes → Bytes × Bytes} {history : KeyHistory}
    {request : Request backend} {output : OperationOutput}
    (failed : output.exit ≠ .returned .success) :
    history.observe createKeypair request (some output) = history := by
  unfold observe
  split
  · next same =>
      obtain rfl := Option.some.inj same
      exact absurd rfl failed
  · rfl

theorem observe_of_idle {createKeypair : Bytes → Bytes × Bytes} {history : KeyHistory}
    {request : Request backend} (reply : Option OperationOutput)
    (idle : ∀ memory,
      history.succeeded createKeypair request.memory memory request.call = history) :
    history.observe createKeypair request reply = history := by
  unfold observe
  split
  · exact idle _
  · rfl

/-- The keys that an invoked call leaves in the history. -/
theorem operations_observe_invoked (createKeypair : Bytes → Bytes × Bytes)
    (history : KeyHistory) (name other : Nat) (memory : Memory)
    (call : OperationCall backend) (keyless : call.Keyless) (reply : Option OperationOutput) :
    let later := history.observe createKeypair
      { memory, call := .invoke (some name) call keyless } reply
    (later.operations other).latest = (history.operations other).latest ∧
      (later.operations other).latestKeypair = (history.operations other).latestKeypair ∧
      later.objects = history.objects := by
  dsimp only
  unfold observe
  split
  · have initialized : ∀ use : Nat → KeyUse,
        ((Function.update use name { use name with initialized := true }) other).latest =
            (use other).latest ∧
          ((Function.update use name { use name with initialized := true }) other).latestKeypair =
            (use other).latestKeypair := by
      intro use
      by_cases same : other = name
      · rw [same, Function.update_self]
        exact ⟨rfl, rfl⟩
      · rw [Function.update_of_ne same]
        exact ⟨rfl, rfl⟩
    simp only [succeeded, invoked]
    split
    · exact ⟨(initialized _).1, (initialized _).2, rfl⟩
    · exact ⟨(initialized _).1, (initialized _).2, rfl⟩
    · split <;> exact ⟨rfl, rfl, rfl⟩
    · exact ⟨rfl, rfl, rfl⟩
  · exact ⟨rfl, rfl, rfl⟩

/-- An invoked call changes what is known of its operation only. -/
theorem operations_observe_of_ne (createKeypair : Bytes → Bytes × Bytes) (history : KeyHistory)
    {name other : Nat} (other_ne : other ≠ name) (memory : Memory) (call : OperationCall backend)
    (keyless : call.Keyless) (reply : Option OperationOutput) :
    (history.observe createKeypair { memory, call := .invoke (some name) call keyless }
      reply).operations other = history.operations other := by
  unfold observe
  split
  · simp only [succeeded, invoked]
    split
    · exact Function.update_of_ne other_ne ..
    · exact Function.update_of_ne other_ne ..
    · split <;> rfl
    · rfl
  · rfl

/-- Only the calls that start a session change what is known of an operation. -/
theorem operations_observe_of_kept (createKeypair : Bytes → Bytes × Bytes) (history : KeyHistory)
    (name : Nat) (memory : Memory) {call : OperationCall backend} (keyless : call.Keyless)
    (no_init : ∀ nonce nonceLen tagLen aadLen payloadLen,
      call ≠ .aeInit nonce nonceLen tagLen aadLen payloadLen)
    (no_cipher_init : ∀ nonce nonceLen, call ≠ .cipherInit nonce nonceLen)
    (reply : Option OperationOutput) :
    (history.observe createKeypair { memory, call := .invoke (some name) call keyless }
      reply).operations = history.operations := by
  unfold observe
  split
  · simp only [succeeded, invoked]
    split
    · exact absurd rfl (no_init _ _ _ _ _)
    · exact absurd rfl (no_cipher_init _ _)
    · split <;> rfl
    · rfl
  · rfl

/-! ## The invariant -/

/-- The key of a copy is still known as that of its object. -/
def Backs (history : KeyHistory) (copy : KeyCopy) : Prop :=
  ∀ pair, copy.record.generated = some pair →
    ∃ record, history.objects copy.object = some record ∧ record.generated = some pair

/-- A later history still knows every key that was generated. -/
def Grows (history later : KeyHistory) : Prop :=
  ∀ name record pair, history.objects name = some record → record.generated = some pair →
    ∃ record', later.objects name = some record' ∧ record'.generated = some pair

theorem Backs.grows {history later : KeyHistory} {copy : KeyCopy} (backs : history.Backs copy)
    (grows : history.Grows later) : later.Backs copy := by
  intro pair generated
  obtain ⟨record, found, same⟩ := backs pair generated
  exact grows copy.object record pair found same

end KeyHistory

/-- An object holds the key pair of its record. -/
structure KeyRecord.Describes {backend : Backend} (record : KeyRecord) (object : backend.Object) :
    Prop where
  type_eq : object.type = record.type
  known : record.type = teeTypeEcdhKeypair ∨ record.type = teeTypeEcdsaKeypair ∨
    record.type = teeTypeAes
  keySet : hasFlag object.flags teeHandleFlagKeySet = record.generated.isSome
  material : ∀ pair, record.generated = some pair →
    object.publicKey = pair.1 ∧ (record.type ≠ teeTypeAes → object.privateKey = pair.2)

/-- The parts of an operation that hold its keys, with the algorithm that reads them. -/
structure Credentials where
  alg : UInt32
  flags : UInt32
  aekey : Bytes
  pubkey : Bytes
  prikey : Bytes

/-- Those parts of an operation. -/
def Operation.credentials {backend : Backend} (operation : backend.Operation) : Credentials where
  alg := operation.alg
  flags := operation.flags
  aekey := operation.aekey
  pubkey := operation.pubkey
  prikey := operation.prikey

/-- An operation holds the keys that were copied into it. -/
structure KeyUse.Describes (history : KeyHistory) (use : KeyUse) (held : Credentials) : Prop where
  keySet : held.alg ≠ teeAlgSha256 → hasFlag held.flags teeHandleFlagKeySet = use.latest.isSome
  latest_isSome : use.latestKeypair.isSome = true → use.latest.isSome = true
  latest_backed : ∀ copy, use.latest = some copy → history.Backs copy
  latestKeypair_backed : ∀ copy, use.latestKeypair = some copy → history.Backs copy
  aesKey : ∀ copy pair, use.latest = some copy → copy.record.type = teeTypeAes →
    copy.record.generated = some pair → held.aekey = pair.1
  keypair : ∀ copy pair, use.latestKeypair = some copy → copy.record.generated = some pair →
    held.pubkey = pair.1 ∧ held.prikey = pair.2
  latestKeypair_eq : ∀ copy, use.latest = some copy → copy.record.type ≠ teeTypeAes →
    use.latestKeypair = some copy

/-- Only the copies matter for what an operation holds. -/
theorem KeyUse.Describes.congr {history : KeyHistory} {use other : KeyUse} {held : Credentials}
    (describes : use.Describes history held) (latest : other.latest = use.latest)
    (latestKeypair : other.latestKeypair = use.latestKeypair) : other.Describes history held := by
  obtain ⟨_, _, _⟩ := other
  cases latest
  cases latestKeypair
  exact ⟨describes.1, describes.2, describes.3, describes.4, describes.5, describes.6,
    describes.7⟩

theorem KeyUse.Describes.grows {history later : KeyHistory} {use : KeyUse} {held : Credentials}
    (describes : use.Describes history held) (grows : history.Grows later) :
    use.Describes later held where
  keySet := describes.keySet
  latest_isSome := describes.latest_isSome
  latest_backed copy latest := (describes.latest_backed copy latest).grows grows
  latestKeypair_backed copy latest := (describes.latestKeypair_backed copy latest).grows grows
  aesKey := describes.aesKey
  keypair := describes.keypair
  latestKeypair_eq := describes.latestKeypair_eq

section Mbedcrypt

variable {lib : Mbedtls} {sha3 : Sha3} {ed25519 : Ed25519}

theorem Operation.keeps_credentials :
    Operation.Keeps (.mbedcrypt lib sha3 ed25519) Operation.credentials where
  ctx _ _ := rfl
  session _ _ _ := rfl
  gcmStarts _ _ := rfl
  gcmUpdate _ _ _ := rfl
  gcmEncryptFinal _ _ _ _ := by
    simp only [Backend.mbedcrypt]
    split <;> rfl
  gcmDecryptFinal _ _ _ _ := by
    simp only [Backend.mbedcrypt]
    split
    · rfl
    · split <;> rfl
  cbc _ _ _ _ := rfl

/-- A call other than `TEE_SetOperationKey` leaves the keys of the operation. -/
theorem Operation.credentials_of_step {memory : Memory}
    {operation after : (Backend.mbedcrypt lib sha3 ed25519).Operation}
    {call : OperationCall (.mbedcrypt lib sha3 ed25519)} {output : OperationOutput}
    (keyless : call.Keyless)
    (stepped : Operation.step (some operation) { memory, call } = (output, some after)) :
    Operation.credentials after = Operation.credentials operation := by
  refine Operation.keeps_credentials.survivor ?_ (fun _ _ _ _ _ _ => rfl) ?_
    (congrArg Prod.snd stepped)
  · rintro key rfl
    exact keyless.elim
  · intro _ _ _ iv
    simp only [Backend.mbedcrypt]
    split
    · rfl
    · split <;> rfl

/-- The handles of a world hold the keys that a history knows of. -/
structure KeyHistory.Tells (history : KeyHistory) (world : World (.mbedcrypt lib sha3 ed25519)) :
    Prop where
  vacant : ∀ name, world.objects.isVacant name = true → history.objects name = none
  created : ∀ name record pair, history.objects name = some record →
    record.generated = some pair → ∃ seed : KeySeed, pair = ed25519.createKeypair seed.1
  object : ∀ name object, world.objects.get? name = some object →
    ∃ record, history.objects name = some record ∧ record.Describes object
  operation : ∀ name operation, world.operations.get? name = some operation →
    (history.operations name).Describes history (Operation.credentials operation)

theorem hasFlag_or_self (flags : UInt32) :
    hasFlag (flags ||| teeHandleFlagKeySet) teeHandleFlagKeySet = true := by
  rw [hasFlag_or, show hasFlag teeHandleFlagKeySet teeHandleFlagKeySet = true from by decide,
    Bool.or_true]

namespace KeyRecord.Describes

variable {record : KeyRecord} {object : (Backend.mbedcrypt lib sha3 ed25519).Object}

/-- A new object has no key. -/
theorem zeroed {objectType : UInt32} (known : objectType = teeTypeEcdhKeypair ∨
      objectType = teeTypeEcdsaKeypair ∨ objectType = teeTypeAes) :
    KeyRecord.Describes ⟨objectType, none⟩
      ({ ObjectHandle.zeroed lib.aesZero () with type := objectType } :
        (Backend.mbedcrypt lib sha3 ed25519).Object) where
  type_eq := rfl
  known := known
  keySet := (by decide : hasFlag 0 teeHandleFlagKeySet = false)
  material _ generated := by cases generated

/-- An object with a new key. -/
theorem generated (describes : record.Describes object) (seed : Bytes) :
    KeyRecord.Describes
      { record with generated := some (ed25519.createKeypair seed) }
      (World.generatedObject seed object) where
  type_eq := describes.type_eq
  known := describes.known
  keySet := hasFlag_or_self _
  material := by
    rintro _ ⟨⟩
    refine ⟨rfl, fun keypair => ?_⟩
    have type_eq : object.type ≠ teeTypeAes := describes.type_eq ▸ keypair
    exact if_neg type_eq

end KeyRecord.Describes

/-- `TEE_SetOperationKey` copies the key of the object's record. -/
theorem KeyUse.Describes.programmed {history : KeyHistory} {use : KeyUse} {record : KeyRecord}
    {operation after : (Backend.mbedcrypt lib sha3 ed25519).Operation}
    {object : (Backend.mbedcrypt lib sha3 ed25519).Object} {key : Nat}
    (describes : use.Describes history (Operation.credentials operation))
    (source : record.Describes object) (backed : history.Backs ⟨key, record⟩)
    (copied : teeSetOperationKey operation (some object) = (.success, after)) :
    (use.programmed ⟨key, record⟩).Describes history (Operation.credentials after) := by
  rcases World.teeSetOperationKey_cases operation object with
    refused | ⟨aes, set⟩ | ⟨pair_type, set⟩
  · rw [refused] at copied
    cases copied
  · rw [set] at copied
    cases copied
    rw [source.type_eq] at aes
    exact
      { keySet := fun _ => hasFlag_or_self _
        latest_isSome := fun _ => rfl
        latest_backed := by
          rintro _ ⟨⟩
          exact backed
        latestKeypair_backed := by
          rw [KeyUse.programmed, if_pos aes]
          exact describes.latestKeypair_backed
        aesKey := by
          rintro _ pair ⟨⟩ _ generated
          exact (source.material pair generated).1
        keypair := by
          rw [KeyUse.programmed, if_pos aes]
          exact describes.keypair
        latestKeypair_eq := by
          rintro _ ⟨⟩ keypair
          exact absurd aes keypair }
  · rw [set] at copied
    cases copied
    rw [source.type_eq] at pair_type
    exact
      { keySet := fun _ => hasFlag_or_self _
        latest_isSome := fun _ => rfl
        latest_backed := by
          rintro _ ⟨⟩
          exact backed
        latestKeypair_backed := by
          rw [KeyUse.programmed, if_neg pair_type]
          rintro _ ⟨⟩
          exact backed
        aesKey := by
          rintro _ _ ⟨⟩ aes
          exact absurd aes pair_type
        keypair := by
          rw [KeyUse.programmed, if_neg pair_type]
          rintro _ pair ⟨⟩ generated
          obtain ⟨public_eq, private_eq⟩ := source.material pair generated
          exact ⟨public_eq, private_eq pair_type⟩
        latestKeypair_eq := by
          rintro _ ⟨⟩ keypair
          exact if_neg keypair }

/-- A new operation has no key. -/
theorem KeyUse.Describes.allocated (history : KeyHistory)
    {residue operation : (Backend.mbedcrypt lib sha3 ed25519).Operation}
    {algorithm mode maxKeySize : UInt32}
    (allocated : teeAllocateOperation _ (some residue) algorithm mode maxKeySize =
      (.success, some operation)) :
    KeyUse.unkeyed.Describes history (Operation.credentials operation) where
  keySet alg := by
    rcases Operation.allocated_cases allocated with ⟨_, digest, _, _, rfl⟩ | ⟨rfl, _⟩
    · exact absurd digest alg
    · exact (by decide : hasFlag 0 teeHandleFlagKeySet = false)
  latest_isSome latest := by cases latest
  latest_backed _ latest := by cases latest
  latestKeypair_backed _ latest := by cases latest
  aesKey _ _ latest := by cases latest
  keypair _ _ latest := by cases latest
  latestKeypair_eq _ latest := by cases latest

namespace KeyHistory

/-- A change to an object for which no key was generated. -/
theorem Grows.update {history : KeyHistory} {name : Nat}
    (unset : ∀ record, history.objects name = some record → record.generated = none)
    (entry : Option KeyRecord) :
    history.Grows { history with objects := Function.update history.objects name entry } := by
  intro other other_record pair other_found generated
  have other_ne : other ≠ name := by
    rintro rfl
    rw [unset other_record other_found] at generated
    cases generated
  exact ⟨other_record, (Function.update_of_ne other_ne ..).trans other_found, generated⟩

theorem Grows.refl (history : KeyHistory) : history.Grows history :=
  fun _ record _ found generated => ⟨record, found, generated⟩

/-- No call takes a generated key away. -/
theorem grows_of_changes {history : KeyHistory}
    {world after : World (.mbedcrypt lib sha3 ed25519)} {memory : Memory}
    {call : HandleCall (.mbedcrypt lib sha3 ed25519)} {output : OperationOutput}
    (tells : history.Tells world) (changes : world.Changes memory call output after) :
    history.Grows (history.observe ed25519.createKeypair { memory, call } (some output)) := by
  cases changes with
  | refused failed =>
      rw [observe_of_failed failed]
      exact .refl history
  | freedNullObject | freedNullOperation | freedObject name | freedOperation name success =>
      rw [observe_of_idle _ fun _ => rfl]
      exact .refl history
  | allocatedObject name vacant known success =>
      rw [observe_of_success success]
      refine .update (fun record found => ?_) _
      cases (tells.vacant _ vacant).symm.trans found
  | generated name seed lookup unset success =>
      obtain ⟨record, found, describes⟩ := tells.object _ _ lookup
      rw [observe_of_success success]
      refine .update (fun other other_found => ?_) _
      obtain rfl : record = other := Option.some.inj (found.symm.trans other_found)
      rw [← Option.not_isSome_iff_eq_none, ← describes.keySet, unset]
      decide
  | allocatedOperation name vacant allocated success =>
      rw [observe_of_success success]
      exact .refl history
  | programmed name key lookup source copied success =>
      obtain ⟨record, found, _⟩ := tells.object _ _ source
      rw [observe_of_success success, succeeded, found]
      exact .refl history
  | invoked name call keyless lookup stepped =>
      intro other record pair found generated
      have objects_eq := (operations_observe_invoked ed25519.createKeypair history name 0 memory
        call keyless (some output)).2.2
      exact ⟨record, (congrFun objects_eq other).trans found, generated⟩

/-- One call keeps the handles and the history together. -/
theorem Tells.changes {history : KeyHistory}
    {world after : World (.mbedcrypt lib sha3 ed25519)} {memory : Memory}
    {call : HandleCall (.mbedcrypt lib sha3 ed25519)} {output : OperationOutput}
    (tells : history.Tells world) (changes : world.Changes memory call output after) :
    (history.observe ed25519.createKeypair { memory, call } (some output)).Tells after := by
  have grows := grows_of_changes tells changes
  cases changes with
  | refused failed =>
      rw [observe_of_failed failed]
      exact tells
  | freedNullObject | freedNullOperation =>
      rw [observe_of_idle _ fun _ => rfl]
      exact tells
  | freedObject name =>
      rw [observe_of_idle _ fun _ => rfl]
      refine ⟨fun other vacant => ?_, tells.created, fun other object lookup => ?_, tells.operation⟩
      · by_cases is_freed : other = name
        · rw [is_freed, Heap.isVacant_free_self] at vacant
          cases vacant
        · rw [Heap.isVacant_free_of_ne _ is_freed] at vacant
          exact tells.vacant other vacant
      · obtain ⟨_, lookup⟩ := Heap.get?_free_cases lookup
        exact tells.object other object lookup
  | freedOperation name success =>
      rw [observe_of_idle _ fun _ => rfl]
      refine ⟨tells.vacant, tells.created, tells.object, fun other operation lookup => ?_⟩
      obtain ⟨_, lookup⟩ := Heap.get?_free_cases lookup
      exact tells.operation other operation lookup
  | @allocatedObject name objectType _ _ vacant known success =>
      rw [observe_of_success success] at grows ⊢
      refine ⟨fun other vacant' => ?_, fun other record pair found generated => ?_,
        fun other object lookup => ?_, fun other operation lookup =>
          (tells.operation other operation lookup).grows grows⟩
      · by_cases is_new : other = name
        · rw [is_new, Heap.isVacant_put_self] at vacant'
          cases vacant'
        · rw [Heap.isVacant_put_of_ne _ _ is_new] at vacant'
          exact (Function.update_of_ne is_new ..).trans (tells.vacant other vacant')
      · by_cases is_new : other = name
        · subst is_new
          dsimp only [succeeded] at found
          rw [Function.update_self] at found
          cases found
          cases generated
        · dsimp only [succeeded] at found
          rw [Function.update_of_ne is_new] at found
          exact tells.created other record pair found generated
      · rcases Heap.get?_put_cases lookup with ⟨rfl, rfl⟩ | ⟨is_old, lookup⟩
        · exact ⟨⟨objectType, none⟩, Function.update_self .., .zeroed known⟩
        · obtain ⟨record, found, describes⟩ := tells.object other object lookup
          exact ⟨record, (Function.update_of_ne is_old ..).trans found, describes⟩
  | @generated name seed source _ lookup unset success =>
      obtain ⟨record, found, describes⟩ := tells.object name source lookup
      rw [observe_of_success success] at grows ⊢
      refine ⟨fun other vacant => ?_, fun other record pair found generated => ?_,
        fun other object lookup' => ?_, fun other operation lookup =>
          (tells.operation other operation lookup).grows grows⟩
      · by_cases is_new : other = name
        · rw [is_new, Heap.isVacant_put_self] at vacant
          cases vacant
        · rw [Heap.isVacant_put_of_ne _ _ is_new] at vacant
          exact (Function.update_of_ne is_new ..).trans (tells.vacant other vacant)
      · by_cases is_new : other = name
        · subst is_new
          dsimp only [succeeded] at found
          rw [Function.update_self, Option.map_eq_some_iff] at found
          obtain ⟨_, _, rfl⟩ := found
          cases generated
          exact ⟨seed, rfl⟩
        · dsimp only [succeeded] at found
          rw [Function.update_of_ne is_new] at found
          exact tells.created other record pair found generated
      · rcases Heap.get?_put_cases lookup' with ⟨rfl, rfl⟩ | ⟨is_old, lookup'⟩
        · refine ⟨_, ?_, describes.generated seed.1⟩
          dsimp only [succeeded]
          rw [Function.update_self, found]
          rfl
        · obtain ⟨record, found, describes⟩ := tells.object other object lookup'
          exact ⟨record, (Function.update_of_ne is_old ..).trans found, describes⟩
  | allocatedOperation name vacant allocated success =>
      rw [observe_of_success success] at grows ⊢
      refine ⟨tells.vacant, tells.created, tells.object, fun other operation lookup => ?_⟩
      rcases Heap.get?_put_cases lookup with ⟨rfl, rfl⟩ | ⟨is_old, lookup⟩
      · dsimp only [succeeded]
        rw [Function.update_self]
        exact .allocated _ allocated
      · dsimp only [succeeded]
        rw [Function.update_of_ne is_old]
        exact (tells.operation other operation lookup).grows grows
  | programmed name key lookup source copied success =>
      obtain ⟨record, found, describes⟩ := tells.object key _ source
      rw [observe_of_success success, succeeded, found] at grows ⊢
      refine ⟨tells.vacant, tells.created, tells.object, fun other operation lookup' => ?_⟩
      rcases Heap.get?_put_cases lookup' with ⟨rfl, rfl⟩ | ⟨is_old, lookup'⟩
      · dsimp only
        rw [Function.update_self]
        exact ((tells.operation other _ lookup).programmed describes
          (fun pair generated => ⟨record, found, generated⟩) copied).grows grows
      · dsimp only
        rw [Function.update_of_ne is_old]
        exact (tells.operation other operation lookup').grows grows
  | invoked name call keyless lookup stepped =>
      have kept := fun other => operations_observe_invoked ed25519.createKeypair history name other
        memory call keyless (some output)
      have objects_eq := (kept 0).2.2
      refine ⟨?_, ?_, ?_, fun other operation lookup' => ?_⟩
      · rw [objects_eq]
        exact tells.vacant
      · rw [objects_eq]
        exact tells.created
      · rw [objects_eq]
        exact tells.object
      · obtain ⟨latest, latestKeypair, _⟩ := kept other
        rcases Heap.get?_put_cases lookup' with ⟨rfl, rfl⟩ | ⟨is_old, lookup'⟩
        · rw [Operation.credentials_of_step keyless stepped]
          exact ((tells.operation other _ lookup).congr latest latestKeypair).grows grows
        · exact ((tells.operation other _ lookup').congr latest latestKeypair).grows grows

/-- The pair of a copy was created by the library. -/
theorem Tells.created_of_backs {history : KeyHistory}
    {world : World (.mbedcrypt lib sha3 ed25519)} {copy : KeyCopy} {pair : Bytes × Bytes}
    (tells : history.Tells world) (backs : history.Backs copy)
    (made : copy.record.generated = some pair) :
    ∃ seed : KeySeed, pair = ed25519.createKeypair seed.1 := by
  obtain ⟨record, found, known⟩ := backs pair made
  exact tells.created copy.object record pair found known

/-- Before any call the history of the empty world is empty. -/
theorem Tells.empty : KeyHistory.empty.Tells 
    (World.empty : World (.mbedcrypt lib sha3 ed25519)) where
  vacant _ _ := rfl
  created _ _ _ found := by cases found
  object _ _ lookup := by cases lookup
  operation _ _ lookup := by cases lookup

end KeyHistory

end Mbedcrypt
end TaRef
