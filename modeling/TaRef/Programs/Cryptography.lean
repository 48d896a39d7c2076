import TaRef.Operation.AeSession
import TaRef.Operation.SignatureAgreement
import TaRef.Programs.SecureStorage

/-!
# Programs with keys

The calls that the cryptographic tests share: allocations, random bytes, and a key that an object
generates and an operation takes over.  They draw on what `malloc` and the random generator give.
-/

namespace TaRef

/-- What the next calls of an application get: whether `malloc` finds memory for an object, what it
returns for an operation, and the random bytes, with `none` where the generator panics. -/
structure Supplies (backend : Backend) where
  objects : Stream' Bool
  operations : Stream' (Option backend.Operation)
  randoms : Stream' (Option Memory)

namespace Supplies

variable {backend : Backend}

/-- No allocation fails, and the generator never panics. -/
structure Ample (supplies : Supplies backend) : Prop where
  objects : supplies.objects.All (· = true)
  operations : supplies.operations.All (· ≠ none)
  randoms : supplies.randoms.All (· ≠ none)

/-- The next random bytes. -/
def random (supplies : Supplies backend) (len : Nat) : Bytes :=
  (supplies.randoms.head.getD fun _ => 0).read 0 len

def afterObject (supplies : Supplies backend) : Supplies backend :=
  { supplies with objects := supplies.objects.tail }

def afterOperation (supplies : Supplies backend) : Supplies backend :=
  { supplies with operations := supplies.operations.tail }

def afterRandom (supplies : Supplies backend) : Supplies backend :=
  { supplies with randoms := supplies.randoms.tail }

variable {supplies : Supplies backend}

theorem Ample.afterObject (ample : supplies.Ample) : supplies.afterObject.Ample where
  objects index := ample.objects (index + 1)
  operations := ample.operations
  randoms := ample.randoms

theorem Ample.afterOperation (ample : supplies.Ample) : supplies.afterOperation.Ample where
  objects := ample.objects
  operations index := ample.operations (index + 1)
  randoms := ample.randoms

theorem Ample.afterRandom (ample : supplies.Ample) : supplies.afterRandom.Ample where
  objects := ample.objects
  operations := ample.operations
  randoms index := ample.randoms (index + 1)

/-- The seed of a key that is generated next. -/
def seed (supplies : Supplies backend) : KeySeed :=
  ⟨supplies.random 32, Memory.length_read _ _ _⟩

/-- The object of a type with the key that is generated next. -/
def generated (supplies : Supplies backend) (objectType : UInt32) : backend.Object :=
  World.generatedObject supplies.seed.1
    { ObjectHandle.zeroed backend.zeroAes backend.zeroKey with type := objectType }

end Supplies

namespace Program

variable {backend : Backend} {σ : Type}

/-- `TEE_AllocateTransientObject` -/
def allocateTransientObject (objectType maxKeySize : UInt32) :
    Program (Supplies backend) (TeeResult × Option backend.Object) :=
  call fun supplies =>
    (.returned (teeAllocateTransientObject backend supplies.objects.head objectType maxKeySize),
      supplies.afterObject)

/-- `TEE_AllocateOperation` -/
def allocateOperation (algorithm mode maxKeySize : UInt32) :
    Program (Supplies backend) (TeeResult × Option backend.Operation) :=
  call fun supplies =>
    (.returned (teeAllocateOperation backend supplies.operations.head algorithm mode maxKeySize),
      supplies.afterOperation)

/-- `TEE_GenerateRandom` -/
def generateRandom (randomBufferLen : Nat) : Program (Supplies backend) Bytes :=
  call fun supplies =>
    match supplies.randoms.head with
    | none => (.panicked, supplies.afterRandom)
    | some random => (.returned (random.read 0 randomBufferLen), supplies.afterRandom)

/-- `TEE_GenerateKey`, which draws random bytes only for an object without a key. -/
def generateKey (object : backend.Object) :
    Program (Supplies backend) (TeeResult × backend.Object) :=
  call fun supplies =>
    let (exit, made) := teeGenerateKey object (.ofOption (supplies.randoms.head.map fun random =>
      random.read 0 32))
    (exit.map fun rv => (rv, made),
      if hasFlag object.flags teeHandleFlagKeySet then supplies else supplies.afterRandom)

/-- A call that works on a handle only. -/
def finish {α : Type} (exit : Exit α) : Program σ α := call fun state => (exit, state)

/-- The lines that print a buffer. -/
def dumpLine (stdio : Stdio) (label : String) (bytes : Bytes) : Program σ Unit := do
  teePrintf stdio (asciiText label) []
  dump stdio Printf.hexFormat bytes
  teePrintf stdio (asciiText "\n") []

/-- What those lines print. -/
def hexLine (label : String) (bytes : Bytes) : Bytes :=
  asciiText label ++ bytes.flatMap Printf.hexText ++ asciiText "\n"

theorem returns_finish {α : Type} (value : α) (process : Process σ) :
    (finish (.returned value)).Returns process value process := rfl

theorem returns_dumpLine (stdio : Stdio) {label : String}
    (plain : ∀ character ∈ asciiText label, character ≠ Printf.ascii '%' ∧ character ≠ 0)
    (short : (asciiText label).length < 256) (bytes : Bytes) (process : Process σ) :
    (dumpLine stdio label bytes).Returns process ()
      { process with printed := process.printed ++ hexLine label bytes } := by
  unfold dumpLine
  refine returns_bind (returns_message plain short process) ?_
  refine returns_bind (returns_dump (returns_hex stdio) bytes _) ?_
  have ends := @returns_message σ stdio (asciiText "\n") (by decide +kernel) (by decide)
    { process with
      printed := process.printed ++ asciiText label ++ bytes.flatMap Printf.hexText }
  simpa only [hexLine, List.append_assoc] using ends

/-- `TEE_GenerateKey` on an object without a key. -/
theorem teeGenerateKey_of_unset {object : backend.Object}
    (unset : hasFlag object.flags teeHandleFlagKeySet = false) (seed : Bytes) :
    teeGenerateKey object (.ofOption (some seed)) =
      (.returned .success, World.generatedObject seed object) := by
  rw [Draw.ofOption, teeGenerateKey, unset, if_neg (by decide), World.generatedObject]
  dsimp only
  split <;> rfl

section Supplied

variable {supplies : Supplies backend} (ample : supplies.Ample) (printed : Bytes)

include ample

theorem returns_allocateTransientObject {objectType maxKeySize : UInt32}
    (known : objectType = teeTypeEcdhKeypair ∨ objectType = teeTypeEcdsaKeypair ∨
      objectType = teeTypeAes) (size_le : maxKeySize.toNat ≤ teeObjectSkeySize * 8) :
    (allocateTransientObject objectType maxKeySize).Returns ⟨supplies, printed⟩
      (.success, some
        { ObjectHandle.zeroed backend.zeroAes backend.zeroKey with type := objectType })
      ⟨supplies.afterObject, printed⟩ := by
  have allocated : supplies.objects.head = true := ample.objects 0
  apply returns_call
  rw [allocated, teeAllocateTransientObject, if_neg, if_neg (by decide)]
  rintro (unknown | large)
  · exact unknown known
  · exact absurd size_le (Nat.not_le.mpr large)

theorem returns_allocateOperation {algorithm mode maxKeySize : UInt32}
    {handle : Option backend.Operation → backend.Operation}
    (admitted : ∀ residue, teeAllocateOperation backend (some residue) algorithm mode maxKeySize =
      (.success, some (handle (some residue)))) :
    (allocateOperation algorithm mode maxKeySize).Returns ⟨supplies, printed⟩
      (.success, some (handle supplies.operations.head)) ⟨supplies.afterOperation, printed⟩ := by
  obtain ⟨residue, residue_eq⟩ := Option.ne_none_iff_exists'.mp (ample.operations 0)
  have head_eq : supplies.operations.head = some residue := residue_eq
  apply returns_call
  rw [head_eq, admitted residue]

/-- An allocation that does not depend on what was in the memory. -/
theorem returns_allocateFresh {algorithm mode maxKeySize : UInt32}
    (admitted : ∀ residue, teeAllocateOperation backend (some residue) algorithm mode maxKeySize =
      (.success, some (Operation.fresh backend algorithm mode))) :
    (allocateOperation algorithm mode maxKeySize).Returns ⟨supplies, printed⟩
      (.success, some (Operation.fresh backend algorithm mode))
      ⟨supplies.afterOperation, printed⟩ :=
  @returns_allocateOperation backend supplies ample printed algorithm mode maxKeySize
    (fun _ => Operation.fresh backend algorithm mode) admitted

theorem returns_generateRandom (len : Nat) :
    (generateRandom len).Returns ⟨supplies, printed⟩ (supplies.random len)
      ⟨supplies.afterRandom, printed⟩ := by
  obtain ⟨random, random_eq⟩ := Option.ne_none_iff_exists'.mp (ample.randoms 0)
  have head_eq : supplies.randoms.head = some random := random_eq
  apply returns_call
  simp only [head_eq, Supplies.random, Option.getD_some]

theorem returns_generateKey (objectType : UInt32) :
    (generateKey { ObjectHandle.zeroed backend.zeroAes backend.zeroKey with
        type := objectType }).Returns ⟨supplies, printed⟩
      (.success, supplies.generated objectType) ⟨supplies.afterRandom, printed⟩ := by
  obtain ⟨random, random_eq⟩ := Option.ne_none_iff_exists'.mp (ample.randoms 0)
  have head_eq : supplies.randoms.head = some random := random_eq
  have seed_eq : supplies.seed.1 = random.read 0 32 := by
    simp only [Supplies.seed, Supplies.random, head_eq, Option.getD_some]
  have unset : hasFlag { ObjectHandle.zeroed backend.zeroAes backend.zeroKey with
      type := objectType }.flags teeHandleFlagKeySet = false :=
    show hasFlag 0 teeHandleFlagKeySet = false by decide
  apply returns_call
  rw [head_eq, Option.map_some, teeGenerateKey_of_unset unset, unset, Supplies.generated, seed_eq]
  rfl

end Supplied

end Program

/-! ## Keys -/

/-- What wolfCrypt promises of the pairs that it makes. -/
structure Wolfcrypt.PairLaws (lib : Wolfcrypt) : Prop where
  length_sign : ∀ (key : lib.Key) (seed : KeySeed) (message : Bytes),
    (lib.ed25519SignMsg message (lib.ed25519MakeKey (lib.ed25519Init key) seed.1)).length =
      sigLength
  verify_sign : ∀ (key : lib.Key) (seed : KeySeed) (message : Bytes),
    lib.ed25519VerifyMsg
      (lib.ed25519SignMsg message (lib.ed25519MakeKey (lib.ed25519Init key) seed.1)) message
      (lib.ed25519MakeKey (lib.ed25519Init key) seed.1) = (0, 1)

namespace CryptLib

/-- The library of a build verifies what it signs with the pairs that it makes. -/
def PairLaws : CryptLib → Prop
  | .mbedcrypt _ _ ed25519 | .tiny _ _ ed25519 _ => ed25519.Laws
  | .wolfcrypt lib => lib.PairLaws

/-- The public keys of a build, which are the keys for AES too, have 32 bytes. -/
def MakesKeys (build : CryptLib) : Prop :=
  ∀ (seed : KeySeed) object, (build.backend.generate seed.1 object).publicKey.length = 32

variable (build : CryptLib)

theorem type_generated (supplies : Supplies build.backend) (objectType : UInt32) :
    (supplies.generated objectType).type = objectType := by
  cases build <;> rfl

theorem flags_generated (supplies : Supplies build.backend) (objectType : UInt32) :
    (supplies.generated objectType).flags = 0 ||| teeHandleFlagKeySet := by
  cases build <;> rfl

/-- A generated key is no persistent object. -/
theorem free_generated (supplies : Supplies build.backend) (objectType : UInt32) :
    teeFreeTransientObject (supplies.generated objectType) = .returned () := by
  rw [teeFreeTransientObject, build.flags_generated, if_neg (by decide)]

variable {build}

theorem length_generated (makes : build.MakesKeys) (supplies : Supplies build.backend)
    (objectType : UInt32) : (supplies.generated objectType).publicKey.length = 32 :=
  makes supplies.seed _

/-- An operation with a generated key for AES. -/
theorem setOperationKey_aes (supplies : Supplies build.backend)
    (operation : build.backend.Operation) :
    teeSetOperationKey operation (some (supplies.generated teeTypeAes)) =
      (.success, { operation with
        aekey := (supplies.generated teeTypeAes).publicKey
        flags := operation.flags ||| teeHandleFlagKeySet }) := by
  have type_eq := build.type_generated supplies teeTypeAes
  rw [teeSetOperationKey, if_neg fun unknown => unknown.1 type_eq, if_pos type_eq]

/-- An operation with a generated key pair. -/
theorem setOperationKey_pair (supplies : Supplies build.backend)
    (operation : build.backend.Operation) :
    teeSetOperationKey operation (some (supplies.generated teeTypeEcdsaKeypair)) =
      (.success, { build.backend.copyKeypair operation
          (supplies.generated teeTypeEcdsaKeypair) with
        flags := (build.backend.copyKeypair operation
          (supplies.generated teeTypeEcdsaKeypair)).flags ||| teeHandleFlagKeySet }) := by
  have type_eq := build.type_generated supplies teeTypeEcdsaKeypair
  rw [teeSetOperationKey, if_neg fun unknown => unknown.2.2 type_eq,
    if_neg (by rw [type_eq]; decide)]

/-- The signature of a digest with the pair that a seed gives. -/
def signature : CryptLib → KeySeed → Bytes → Bytes
  | .mbedcrypt _ _ ed25519, seed, digest | .tiny _ _ ed25519 _, seed, digest =>
      ed25519.sign digest (ed25519.createKeypair seed.1).1 (ed25519.createKeypair seed.1).2
  | .wolfcrypt lib, seed, digest =>
      lib.ed25519SignMsg digest (lib.ed25519MakeKey (lib.ed25519Init lib.keyZero) seed.1)

/-- An operation with a generated pair signs with it. -/
theorem sign_generated (supplies : Supplies build.backend) (operation : build.backend.Operation)
    (digest : Bytes) :
    build.backend.sign
        (teeSetOperationKey operation (some (supplies.generated teeTypeEcdsaKeypair))).2 digest =
      build.signature supplies.seed digest := by
  rw [setOperationKey_pair]
  cases build <;> rfl

theorem PairLaws.length_signature (laws : build.PairLaws) (seed : KeySeed) (digest : Bytes) :
    (build.signature seed digest).length = sigLength := by
  cases build with
  | mbedcrypt lib sha3 ed25519 | tiny lib sha3 ed25519 unset => exact laws.length_sign seed digest
  | wolfcrypt lib => exact laws.length_sign lib.keyZero seed digest

/-- An operation with a generated pair accepts the signatures with it. -/
theorem PairLaws.verify_generated (laws : build.PairLaws) (supplies : Supplies build.backend)
    (operation : build.backend.Operation) (digest : Bytes) :
    build.backend.verify
      (teeSetOperationKey operation (some (supplies.generated teeTypeEcdsaKeypair))).2
      (build.signature supplies.seed digest) digest = true := by
  rw [setOperationKey_pair]
  cases build with
  | mbedcrypt lib sha3 ed25519 | tiny lib sha3 ed25519 unset =>
      exact laws.verify_sign supplies.seed digest
  | wolfcrypt lib =>
      have verified := laws.verify_sign lib.keyZero supplies.seed digest
      exact congrArg (fun call : Int × Int => call.1 == 0 && call.2 == 1) verified

end CryptLib

/-! ## A run -/

/-- `test.dat` -/
def testDat : Bytes := (List.range 256).map UInt8.ofNat

theorem length_testDat : testDat.length = 256 := by rw [testDat, List.length_map, List.length_range]

/-- Enough memory, the published seed, and then zeros. -/
def Supplies.published (backend : Backend) : Supplies backend where
  objects := Stream'.const true
  operations := Stream'.const (some (Operation.fresh backend 0 0))
  randoms := Stream'.cons (some (Memory.write (fun _ => 0) 0 vectorSeed))
    (Stream'.const (some fun _ => 0))

theorem Supplies.published_ample (backend : Backend) : (Supplies.published backend).Ample where
  objects _ := rfl
  operations _ := Option.some_ne_none _
  randoms index := by cases index <;> exact Option.some_ne_none _

/-- The public keys of the published signature scheme. -/
theorem CryptLib.Kind.build_makesKeys (aes : BlockCipher Bytes Block) (kind : CryptLib.Kind) :
    (kind.build aes).MakesKeys := by
  have length_public : ∀ seed : KeySeed,
      (Ed25519.reference.createKeypair seed.1).1.length = 32 := by
    rintro ⟨seed, seed_length⟩
    simp only [Ed25519.reference]
    split
    · rfl
    · exact seed_length
  intro seed object
  cases kind <;> exact length_public seed

end TaRef
