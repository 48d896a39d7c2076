import TaRef.Crypto.Bundled
import TaRef.Operation.Handle

/-!
# The three builds

The functions of `api/tee-internal-api-cryptlib.c` differ between the builds in blocks under
`#if CRYPTLIB`.  A backend consists of these blocks; the text around them is the same in every
build.
-/

namespace TaRef

/-- Return value of a block that processes data, with the handle and the memory after it. -/
structure Effect (Operation : Type) where
  rv : Int
  operation : Operation
  memory : Memory

/-- The blocks under `#if CRYPTLIB`, each with the function it stands in. -/
structure Backend where
  Digest : Type
  Aes : Type
  Gcm : Type
  EcKey : Type
  zeroDigest : Digest
  zeroAes : Aes
  zeroGcm : Gcm
  zeroKey : EcKey
  /-- Whether `TEE_AllocateOperation` admits `TEE_ALG_AES_GCM`. -/
  supportsGcm : Bool
  digestInit : Digest → Digest
  digestUpdate : Digest → Bytes → Digest
  digestFinal : Digest → Bytes × Digest
  /-- Copy an EC key pair in `TEE_SetOperationKey`. -/
  copyKeypair : OperationHandle Digest Aes Gcm EcKey → ObjectHandle Aes EcKey →
    OperationHandle Digest Aes Gcm EcKey
  /-- Set the GCM key in `TEE_AEInit`. -/
  gcmSetkey : OperationHandle Digest Aes Gcm EcKey → Int × OperationHandle Digest Aes Gcm EcKey
  /-- Take the additional data in `TEE_AEUpdateAAD`. -/
  gcmStarts : OperationHandle Digest Aes Gcm EcKey → Bytes →
    Int × OperationHandle Digest Aes Gcm EcKey
  /-- Process data in `TEE_AEUpdate`. -/
  gcmUpdate : OperationHandle Digest Aes Gcm EcKey → Memory → Buffers →
    Effect (OperationHandle Digest Aes Gcm EcKey)
  /-- Process data and store the tag in `TEE_AEEncryptFinal`. -/
  gcmEncryptFinal : OperationHandle Digest Aes Gcm EcKey → Memory → Buffers → Nat →
    Effect (OperationHandle Digest Aes Gcm EcKey)
  /-- Process data and compare the tag in `TEE_AEDecryptFinal`. -/
  gcmDecryptFinal : OperationHandle Digest Aes Gcm EcKey → Memory → Buffers → Nat →
    Exit Bool × OperationHandle Digest Aes Gcm EcKey × Memory
  /-- Set key and iv in `TEE_CipherInit`. -/
  cipherInit : OperationHandle Digest Aes Gcm EcKey → Block →
    Exit Unit × OperationHandle Digest Aes Gcm EcKey
  /-- What `TEE_CipherUpdate` does before it looks at the mode. -/
  stageInput : Memory → Buffers → Memory
  /-- Process data in one direction in `TEE_CipherUpdate`. -/
  cbc : Direction → OperationHandle Digest Aes Gcm EcKey → Memory → Buffers →
    OperationHandle Digest Aes Gcm EcKey × Memory
  /-- The signature of a digest in `TEE_AsymmetricSignDigest`. -/
  sign : OperationHandle Digest Aes Gcm EcKey → Bytes → Bytes
  /-- Whether a signature of a digest passes in `TEE_AsymmetricVerifyDigest`. -/
  verify : OperationHandle Digest Aes Gcm EcKey → Bytes → Bytes → Bool
  /-- Make a key from 32 random bytes in `TEE_GenerateKey`. -/
  generate : Bytes → ObjectHandle Aes EcKey → ObjectHandle Aes EcKey

namespace Backend

/-- An operation handle of a build. -/
abbrev Operation (backend : Backend) :=
  OperationHandle backend.Digest backend.Aes backend.Gcm backend.EcKey

/-- An object handle of a build. -/
abbrev Object (backend : Backend) := ObjectHandle backend.Aes backend.EcKey

/-- `memcpy(dest, src, len)` unless both are the same. -/
def copyInput (memory : Memory) (buffers : Buffers) : Memory :=
  if buffers.destData ≠ buffers.srcData then buffers.store memory (buffers.input memory)
  else memory

/-- `CRYPTLIB==MBEDCRYPT` -/
def mbedcrypt (lib : Mbedtls) (sha3 : Sha3) (ed25519 : Ed25519) : Backend where
  Digest := sha3.Context
  Aes := lib.AesContext
  Gcm := lib.GcmContext
  EcKey := Unit
  zeroDigest := sha3.zero
  zeroAes := lib.aesZero
  zeroGcm := lib.gcmZero
  zeroKey := ()
  supportsGcm := true
  digestInit := sha3.init
  digestUpdate := sha3.update
  digestFinal := sha3.final
  copyKeypair operation key :=
    { operation with pubkey := key.publicKey, prikey := key.privateKey }
  gcmSetkey operation :=
    let (rv, aegcmctx) := lib.gcmSetkey (lib.gcmInit operation.aegcmctx) operation.aekey
    (rv, { operation with aegcmctx })
  gcmStarts operation aad :=
    let mode := if operation.mode = teeModeEncrypt then Direction.encrypt else .decrypt
    let (rv, aegcmctx) := lib.gcmStarts operation.aegcmctx mode operation.aeiv aad
    (rv, { operation with aegcmctx })
  gcmUpdate operation memory buffers :=
    let call := lib.gcmUpdate operation.aegcmctx (buffers.input memory)
    { rv := call.rv
      operation := { operation with aegcmctx := call.context }
      memory := buffers.store memory call.output }
  gcmEncryptFinal operation memory buffers tag :=
    let call := lib.gcmUpdate operation.aegcmctx (buffers.input memory)
    let memory := buffers.store memory call.output
    if call.rv ≠ 0 then
      { rv := call.rv, operation := { operation with aegcmctx := call.context }, memory }
    else
      let finish := lib.gcmFinish call.context
      { rv := finish.rv
        operation := { operation with aegcmctx := finish.context }
        memory := memory.write tag finish.tag.1 }
  gcmDecryptFinal operation memory buffers tag :=
    let call := lib.gcmUpdate operation.aegcmctx (buffers.input memory)
    let memory := buffers.store memory call.output
    if call.rv ≠ 0 then (.panicked, { operation with aegcmctx := call.context }, memory)
    else
      let finish := lib.gcmFinish call.context
      let operation := { operation with aegcmctx := finish.context }
      if finish.rv ≠ 0 then (.panicked, operation, memory)
      else (.returned (memory.read tag 16 == finish.tag.1), operation, memory)
  cipherInit operation nonce :=
    let operation := { operation with aectx := lib.aesInit operation.aectx, aeiv := nonce }
    if operation.mode = teeModeEncrypt then
      (.returned (),
        { operation with aectx := lib.aesSetkeyEnc operation.aectx operation.aekey })
    else if operation.mode = teeModeDecrypt then
      (.returned (),
        { operation with aectx := lib.aesSetkeyDec operation.aectx operation.aekey })
    else (.panicked, operation)
  stageInput memory _ := memory
  cbc direction operation memory buffers :=
    let call := lib.aesCryptCbc operation.aectx direction operation.aeiv (buffers.input memory)
    ({ operation with aeiv := call.iv }, buffers.store memory call.output)
  sign operation digest := ed25519.sign digest operation.pubkey operation.prikey
  verify operation signature digest := ed25519.verify signature digest operation.pubkey
  generate seed object :=
    { object with
      publicKey := (ed25519.createKeypair seed).1
      privateKey := (ed25519.createKeypair seed).2 }

/-- `CRYPTLIB==WOLFCRYPT` -/
def wolfcrypt (lib : Wolfcrypt) : Backend where
  Digest := lib.Sha3
  Aes := lib.Aes
  Gcm := lib.Aes
  EcKey := lib.Key
  zeroDigest := lib.sha3Zero
  zeroAes := lib.aesZero
  zeroGcm := lib.aesZero
  zeroKey := lib.keyZero
  supportsGcm := true
  digestInit := lib.initSha3
  digestUpdate := lib.sha3Update
  digestFinal := lib.sha3Final
  copyKeypair operation key := { operation with key := key.key }
  gcmSetkey operation :=
    let (rv, aegcmctx) := lib.aesGcmSetKey (lib.aesInit operation.aegcmctx) operation.aekey
    (rv, { operation with aegcmctx })
  gcmStarts operation aad :=
    (0, { operation with
      aegcmAad := if aad.length > 0 then overwrite operation.aegcmAad 0 aad else operation.aegcmAad
      aegcmAadsz := aad.length })
  gcmUpdate operation memory buffers :=
    let call := lib.aesGcmEncrypt operation.aegcmctx (buffers.input memory) operation.aeiv
      (operation.aegcmAad.take operation.aegcmAadsz)
    { rv := call.rv
      operation := { operation with aegcmctx := call.context }
      memory := buffers.store memory call.output }
  gcmEncryptFinal operation memory buffers tag :=
    let call := lib.aesGcmEncrypt operation.aegcmctx (buffers.input memory) operation.aeiv
      (operation.aegcmAad.take operation.aegcmAadsz)
    { rv := call.rv
      operation := { operation with aegcmctx := call.context }
      memory := (buffers.store memory call.output).write tag call.tag.1 }
  gcmDecryptFinal operation memory buffers tag :=
    let call := lib.aesGcmDecrypt operation.aegcmctx (buffers.input memory) operation.aeiv
      (memory.read tag 16) (operation.aegcmAad.take operation.aegcmAadsz)
    (.returned (call.rv == 0), { operation with aegcmctx := call.context },
      buffers.store memory call.output)
  cipherInit operation nonce :=
    let operation := { operation with aectx := lib.aesInit operation.aectx }
    if operation.mode = teeModeEncrypt then
      (.returned (),
        { operation with aectx := lib.aesSetKey operation.aectx operation.aekey nonce .encrypt })
    else if operation.mode = teeModeDecrypt then
      (.returned (),
        { operation with aectx := lib.aesSetKey operation.aectx operation.aekey nonce .decrypt })
    else (.panicked, operation)
  stageInput memory _ := memory
  cbc direction operation memory buffers :=
    let (aectx, output) := lib.aesCbc direction operation.aectx (buffers.input memory)
    ({ operation with aectx }, buffers.store memory output)
  sign operation digest := lib.ed25519SignMsg digest operation.key
  verify operation signature digest :=
    let (ret, res) := lib.ed25519VerifyMsg signature digest operation.key
    ret == 0 && res == 1
  generate seed object :=
    let key := lib.ed25519MakeKey (lib.ed25519Init object.key) seed
    { object with key, publicKey := lib.ed25519MakePublic key }

/-- The remaining value of `CRYPTLIB`, with tiny-AES.  The blocks of the AE functions are empty
there, and `unset` is what their variable `rv` happens to hold. -/
def tiny (lib : TinyAes) (sha3 : Sha3) (ed25519 : Ed25519) (unset : Int) : Backend where
  Digest := sha3.Context
  Aes := lib.Context
  Gcm := Unit
  EcKey := Unit
  zeroDigest := sha3.zero
  zeroAes := lib.zero
  zeroGcm := ()
  zeroKey := ()
  supportsGcm := false
  digestInit := sha3.init
  digestUpdate := sha3.update
  digestFinal := sha3.final
  copyKeypair operation key :=
    { operation with pubkey := key.publicKey, prikey := key.privateKey }
  gcmSetkey operation := (unset, operation)
  gcmStarts operation _ := (0, operation)
  gcmUpdate operation memory _ := { rv := unset, operation, memory }
  gcmEncryptFinal operation memory _ _ := { rv := unset, operation, memory }
  gcmDecryptFinal operation memory _ _ := (.returned true, operation, memory)
  cipherInit operation nonce :=
    (.returned (),
      { operation with aectx := lib.initCtxIv operation.aectx operation.aekey nonce })
  stageInput := copyInput
  cbc direction operation memory buffers :=
    let (aectx, output) := lib.cbcBuffer direction operation.aectx (buffers.output memory)
    ({ operation with aectx }, buffers.store memory output)
  sign operation digest := ed25519.sign digest operation.pubkey operation.prikey
  verify operation signature digest := ed25519.verify signature digest operation.pubkey
  generate seed object :=
    { object with
      publicKey := (ed25519.createKeypair seed).1
      privateKey := (ed25519.createKeypair seed).2 }

end Backend

/-- The fields of a handle that no block under `#if CRYPTLIB` writes. -/
structure Control where
  mode : UInt32
  flags : UInt32
  alg : UInt32
  aegcmState : Int
  aekey : Bytes

/-- Those fields of a handle. -/
def OperationHandle.control {Digest Aes Gcm EcKey : Type}
    (operation : OperationHandle Digest Aes Gcm EcKey) : Control where
  mode := operation.mode
  flags := operation.flags
  alg := operation.alg
  aegcmState := operation.aegcmState
  aekey := operation.aekey

/-- The blocks leave the control fields of a handle. -/
structure Backend.Framed (backend : Backend) : Prop where
  copyKeypair : ∀ operation key, (backend.copyKeypair operation key).control = operation.control
  gcmSetkey : ∀ operation, (backend.gcmSetkey operation).2.control = operation.control
  gcmStarts : ∀ operation aad, (backend.gcmStarts operation aad).2.control = operation.control
  gcmUpdate : ∀ operation memory buffers,
    (backend.gcmUpdate operation memory buffers).operation.control = operation.control
  gcmEncryptFinal : ∀ operation memory buffers tag,
    (backend.gcmEncryptFinal operation memory buffers tag).operation.control = operation.control
  gcmDecryptFinal : ∀ operation memory buffers tag,
    (backend.gcmDecryptFinal operation memory buffers tag).2.1.control = operation.control
  cipherInit : ∀ operation nonce,
    (backend.cipherInit operation nonce).2.control = operation.control
  cbc : ∀ direction operation memory buffers,
    (backend.cbc direction operation memory buffers).1.control = operation.control

/-- A value of `CRYPTLIB` with its libraries. -/
inductive CryptLib
  | mbedcrypt (lib : Mbedtls) (sha3 : Sha3) (ed25519 : Ed25519)
  | wolfcrypt (lib : Wolfcrypt)
  | tiny (lib : TinyAes) (sha3 : Sha3) (ed25519 : Ed25519) (unset : Int)

/-- The backend of a build. -/
def CryptLib.backend : CryptLib → Backend
  | mbedcrypt lib sha3 ed25519 => .mbedcrypt lib sha3 ed25519
  | wolfcrypt lib => .wolfcrypt lib
  | tiny lib sha3 ed25519 unset => .tiny lib sha3 ed25519 unset

/-- The values of `CRYPTLIB`. -/
inductive CryptLib.Kind
  | mbedcrypt
  | wolfcrypt
  | tiny
  deriving DecidableEq

/-- The value of `CRYPTLIB` of a build. -/
def CryptLib.kind : CryptLib → Kind
  | mbedcrypt _ _ _ => .mbedcrypt
  | wolfcrypt _ => .wolfcrypt
  | tiny _ _ _ _ => .tiny

/-! ## The blocks of the mbedtls build -/

section Mbedcrypt

variable (lib : Mbedtls) (sha3 : Sha3) (ed25519 : Ed25519)
  (operation : (Backend.mbedcrypt lib sha3 ed25519).Operation) (memory : Memory) (buffers : Buffers)
  (tag : Nat)

theorem Backend.mbedcrypt_gcmSetkey :
    (mbedcrypt lib sha3 ed25519).gcmSetkey operation =
      ((lib.gcmSetkey (lib.gcmInit operation.aegcmctx) operation.aekey).1,
        { operation with
          aegcmctx := (lib.gcmSetkey (lib.gcmInit operation.aegcmctx) operation.aekey).2 }) := rfl

theorem Backend.mbedcrypt_gcmStarts (aad : Bytes) :
    (mbedcrypt lib sha3 ed25519).gcmStarts operation aad =
      ((lib.gcmStarts operation.aegcmctx
          (if operation.mode = teeModeEncrypt then .encrypt else .decrypt) operation.aeiv aad).1,
        { operation with
          aegcmctx := (lib.gcmStarts operation.aegcmctx
            (if operation.mode = teeModeEncrypt then .encrypt else .decrypt)
            operation.aeiv aad).2 }) := rfl

theorem Backend.mbedcrypt_gcmUpdate :
    (mbedcrypt lib sha3 ed25519).gcmUpdate operation memory buffers =
      { rv := (lib.gcmUpdate operation.aegcmctx (buffers.input memory)).rv
        operation := { operation with
          aegcmctx := (lib.gcmUpdate operation.aegcmctx (buffers.input memory)).context }
        memory := buffers.store memory
          (lib.gcmUpdate operation.aegcmctx (buffers.input memory)).output } := rfl

/-- The final calls are an update and, if it succeeds, the end of the library's session. -/
theorem Backend.mbedcrypt_gcmEncryptFinal
    (rv : (lib.gcmUpdate operation.aegcmctx (buffers.input memory)).rv = 0) :
    (mbedcrypt lib sha3 ed25519).gcmEncryptFinal operation memory buffers tag =
      { rv := (lib.gcmFinish (lib.gcmUpdate operation.aegcmctx (buffers.input memory)).context).rv
        operation := { operation with
          aegcmctx := (lib.gcmFinish
            (lib.gcmUpdate operation.aegcmctx (buffers.input memory)).context).context }
        memory := (buffers.store memory
          (lib.gcmUpdate operation.aegcmctx (buffers.input memory)).output).write tag
            (lib.gcmFinish
              (lib.gcmUpdate operation.aegcmctx (buffers.input memory)).context).tag.1 } :=
  if_neg (not_not.mpr rv)

theorem Backend.mbedcrypt_gcmDecryptFinal
    (rv : (lib.gcmUpdate operation.aegcmctx (buffers.input memory)).rv = 0)
    (finish : (lib.gcmFinish
      (lib.gcmUpdate operation.aegcmctx (buffers.input memory)).context).rv = 0) :
    (mbedcrypt lib sha3 ed25519).gcmDecryptFinal operation memory buffers tag =
      (.returned ((buffers.store memory
          (lib.gcmUpdate operation.aegcmctx (buffers.input memory)).output).read tag 16 ==
            (lib.gcmFinish
              (lib.gcmUpdate operation.aegcmctx (buffers.input memory)).context).tag.1),
        { operation with
          aegcmctx := (lib.gcmFinish
            (lib.gcmUpdate operation.aegcmctx (buffers.input memory)).context).context },
        buffers.store memory (lib.gcmUpdate operation.aegcmctx (buffers.input memory)).output) :=
  (if_neg (not_not.mpr rv)).trans (if_neg (not_not.mpr finish))

end Mbedcrypt

theorem Backend.mbedcrypt_framed (lib : Mbedtls) (sha3 : Sha3) (ed25519 : Ed25519) :
    (Backend.mbedcrypt lib sha3 ed25519).Framed where
  copyKeypair _ _ := rfl
  gcmSetkey _ := rfl
  gcmStarts _ _ := rfl
  gcmUpdate _ _ _ := rfl
  gcmEncryptFinal operation memory buffers tag := by
    simp only [mbedcrypt]
    split <;> rfl
  gcmDecryptFinal operation memory buffers tag := by
    simp only [mbedcrypt]
    split
    · rfl
    · split <;> rfl
  cipherInit operation nonce := by
    simp only [mbedcrypt]
    split
    · rfl
    · split <;> rfl
  cbc _ _ _ _ := rfl

theorem Backend.wolfcrypt_framed (lib : Wolfcrypt) : (Backend.wolfcrypt lib).Framed where
  copyKeypair _ _ := rfl
  gcmSetkey _ := rfl
  gcmStarts _ _ := rfl
  gcmUpdate _ _ _ := rfl
  gcmEncryptFinal _ _ _ _ := rfl
  gcmDecryptFinal _ _ _ _ := rfl
  cipherInit operation nonce := by
    simp only [wolfcrypt]
    split
    · rfl
    · split <;> rfl
  cbc _ _ _ _ := rfl

theorem Backend.tiny_framed (lib : TinyAes) (sha3 : Sha3) (ed25519 : Ed25519) (unset : Int) :
    (Backend.tiny lib sha3 ed25519 unset).Framed where
  copyKeypair _ _ := rfl
  gcmSetkey _ := rfl
  gcmStarts _ _ := rfl
  gcmUpdate _ _ _ := rfl
  gcmEncryptFinal _ _ _ _ := rfl
  gcmDecryptFinal _ _ _ _ := rfl
  cipherInit _ _ := rfl
  cbc _ _ _ _ := rfl

theorem CryptLib.framed (build : CryptLib) : build.backend.Framed := by
  cases build with
  | mbedcrypt lib sha3 ed25519 => exact Backend.mbedcrypt_framed lib sha3 ed25519
  | wolfcrypt lib => exact Backend.wolfcrypt_framed lib
  | tiny lib sha3 ed25519 unset => exact Backend.tiny_framed lib sha3 ed25519 unset

end TaRef
