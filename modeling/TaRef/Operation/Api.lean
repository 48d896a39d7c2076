import TaRef.Operation.Backend
import TaRef.Random

/-!
# The cryptographic operations

The functions of `api/tee-internal-api-cryptlib.c` on a handle that is not `TEE_HANDLE_NULL`, in any
build.  A void function that returns counts as a success.
-/

namespace TaRef

/-- How a call ends, what it stored in `*destLen` (or `*hashLen`, `*signatureLen`), and the memory
after it. -/
structure OperationOutput where
  exit : Exit TeeResult
  destLen : Option Nat
  memory : Memory

/-- An output that stored nothing. -/
def OperationOutput.bare (exit : Exit TeeResult) (memory : Memory) : OperationOutput where
  exit
  destLen := none
  memory

section Allocate

variable (backend : Backend)

/-- `TEE_AllocateOperation`; `allocation` is what `malloc` returns, with the residue it holds. -/
def teeAllocateOperation (allocation : Option backend.Operation) (algorithm mode : UInt32)
    (_maxKeySize : UInt32) : TeeResult × Option backend.Operation :=
  let zeroed := OperationHandle.zeroed backend.zeroDigest backend.zeroAes backend.zeroGcm
    backend.zeroKey
  if mode = teeModeDigest then
    if algorithm ≠ teeAlgSha256 then (.errorNotSupported, none)
    else
      match allocation with
      | none => (.errorOutOfMemory, none)
      | some handle =>
          (.success, some { handle with
            mode, alg := algorithm, ctx := backend.digestInit handle.ctx })
  else if mode = teeModeEncrypt ∨ mode = teeModeDecrypt then
    if algorithm ≠ teeAlgAesCbcNopad ∧ algorithm ≠ teeAlgAesGcm then (.errorNotSupported, none)
    else if algorithm = teeAlgAesGcm ∧ backend.supportsGcm = false then (.errorNotSupported, none)
    else
      match allocation with
      | none => (.errorOutOfMemory, none)
      | some _ => (.success, some { zeroed with mode, alg := algorithm })
  else if mode = teeModeSign ∨ mode = teeModeVerify then
    if algorithm ≠ teeAlgEcdsaP256 then (.errorNotSupported, none)
    else
      match allocation with
      | none => (.errorOutOfMemory, none)
      | some _ => (.success, some { zeroed with mode, alg := algorithm })
  else (.errorNotSupported, none)

/-- `TEE_AllocateTransientObject` with somewhere to store the handle. -/
def teeAllocateTransientObject (allocated : Bool) (objectType maxKeySize : UInt32) :
    TeeResult × Option backend.Object :=
  if ¬ (objectType = teeTypeEcdhKeypair ∨ objectType = teeTypeEcdsaKeypair ∨
      objectType = teeTypeAes) ∨ maxKeySize.toNat > teeObjectSkeySize * 8 then
    (.errorBadParameters, none)
  else if allocated = false then (.errorOutOfMemory, none)
  else
    (.success,
      some { ObjectHandle.zeroed backend.zeroAes backend.zeroKey with type := objectType })

end Allocate

/-- How `TEE_GenerateKey` draws its random bytes. -/
inductive Draw
  /-- The source ends in `TEE_Panic`. -/
  | panicked
  /-- The source goes on with these bytes, and its status is dropped. -/
  | delivered (status : Int) (random : Bytes)

/-- A draw that fails in a panic only. -/
def Draw.ofOption : Option Bytes → Draw
  | none => .panicked
  | some random => .delivered 0 random

/-- On Keystone the 32 bytes of `seed` come from `TEE_GenerateRandom`, which panics when the source
falls short. -/
def Keystone.drawSeed (host : RandomHost) (stack : Memory) (seed : Nat) : Draw :=
  match teeGenerateRandom host stack seed 32 with
  | (.returned (), call) => .delivered 0 (call.memory.read seed 32)
  | _ => .panicked

/-- On SGX `TEE_GenerateRandom` drops what `sgx_read_rand` returns; after a failure `seed` holds
what was on the stack. -/
def Sgx.drawSeed (call : ReadRand) (stack : Memory) (seed : Nat) : Draw :=
  .delivered call.status.toNat ((teeGenerateRandom call stack seed 32).2.read seed 32)

/-- The generator of wolfSSL: whether `wc_rng_init` is set, otherwise what `wc_InitRng` returns,
`none` when `wc_ocall_genseed` panics in it; and the bytes that it delivers from then on. -/
structure WcRng where
  ready : Bool
  initRng : Option Int
  random : Bytes

/-- With wolfSSL the bytes come from `get_wc_rng`, which drops what `wc_InitRng` returns. -/
def WcRng.draw (rng : WcRng) : Draw :=
  if rng.ready then .delivered 0 rng.random
  else
    match rng.initRng with
    | none => .panicked
    | some status => .delivered status rng.random

variable {backend : Backend}

/-- `TEE_GenerateKey`. -/
def teeGenerateKey (object : backend.Object) (draw : Draw) : Exit TeeResult × backend.Object :=
  if hasFlag object.flags teeHandleFlagKeySet then (.returned .errorBadParameters, object)
  else
    match draw with
    | .panicked => (.panicked, object)
    | .delivered _ seed =>
        let object := backend.generate seed object
        let object := { object with flags := object.flags ||| teeHandleFlagKeySet }
        if object.type = teeTypeAes then
          (.returned .success,
            { object with privateKey := List.replicate teeObjectSkeySize 0 })
        else (.returned .success, object)

section Digest

variable (operation : backend.Operation) (memory : Memory)

/-- `TEE_DigestUpdate`. -/
def teeDigestUpdate (chunk : Option Nat) (chunkSize : Nat) : Exit Unit × backend.Operation :=
  if operation.mode ≠ teeModeDigest ∨ operation.alg ≠ teeAlgSha256 then (.panicked, operation)
  else
    (.returned (), { operation with
      ctx := backend.digestUpdate operation.ctx (memory.read (chunk.getD 0) chunkSize) })

/-- `TEE_DigestDoFinal`. -/
def teeDigestDoFinal (chunk : Option Nat) (chunkLen : Nat) (hash : Option Nat) (hashLen : Nat) :
    OperationOutput × backend.Operation :=
  if operation.mode ≠ teeModeDigest ∨ operation.alg ≠ teeAlgSha256 then
    (.bare (.returned .errorBadParameters) memory, operation)
  else
    match hash with
    | none => (.bare (.returned .errorBadParameters) memory, operation)
    | some hash =>
        if chunkLen > 0 ∧ chunk = none then
          (.bare (.returned .errorBadParameters) memory, operation)
        else if hashLen < shaLength then (.bare (.returned .errorShortBuffer) memory, operation)
        else
          let ctx := if chunkLen > 0 then
              backend.digestUpdate operation.ctx (memory.read (chunk.getD 0) chunkLen)
            else operation.ctx
          let (digest, ctx) := backend.digestFinal ctx
          ({ exit := .returned .success
             destLen := some shaLength
             memory := memory.write hash digest }, { operation with ctx })

end Digest

/-- `TEE_SetOperationKey`; `key` is `none` for a `NULL` object. -/
def teeSetOperationKey (operation : backend.Operation) (key : Option backend.Object) :
    TeeResult × backend.Operation :=
  match key with
  | none => (.errorBadParameters, operation)
  | some key =>
      if key.type ≠ teeTypeAes ∧ key.type ≠ teeTypeEcdhKeypair ∧ key.type ≠ teeTypeEcdsaKeypair then
        (.errorBadParameters, operation)
      else
        let operation := if key.type = teeTypeAes then { operation with aekey := key.publicKey }
          else backend.copyKeypair operation key
        (.success, { operation with flags := operation.flags ||| teeHandleFlagKeySet })

section AuthenticatedEncryption

variable (operation : backend.Operation) (memory : Memory)

/-- `TEE_AEInit`. -/
def teeAEInit (nonce : Option Nat) (nonceLen tagLen aadLen _payloadLen : Nat) :
    Exit TeeResult × backend.Operation :=
  if operation.alg ≠ teeAlgAesGcm then (.returned .errorBadParameters, operation)
  else if nonceLen ≠ 16 then (.returned .errorNotSupported, operation)
  else if aadLen > 16 then (.returned .errorNotSupported, operation)
  else if tagLen ≠ 128 then (.returned .errorNotSupported, operation)
  else
    match nonce with
    | none => (.returned .errorBadParameters, operation)
    | some nonce =>
        if hasFlag operation.flags teeHandleFlagKeySet = false ∨ operation.aegcmState ≠ 0 then
          (.returned .errorBadParameters, operation)
        else
          let (rv, operation) := backend.gcmSetkey operation
          if rv ≠ 0 then (.panicked, operation)
          else
            (.returned .success, { operation with
              aeiv := Block.ofBytes (memory.read nonce teeObjectNonceSize)
              aegcmState := gcmStInit })

/-- `TEE_AEUpdateAAD`. -/
def teeAEUpdateAAD (aadData : Option Nat) (aadDataLen : Nat) : Exit Unit × backend.Operation :=
  if (aadData = none ∧ aadDataLen ≠ 0) ∨ aadDataLen > 16 then (.panicked, operation)
  else if operation.aegcmState < gcmStInit then (.panicked, operation)
  else
    let (rv, operation) := backend.gcmStarts operation (memory.read (aadData.getD 0) aadDataLen)
    if rv ≠ 0 then (.panicked, operation)
    else (.returned (), { operation with aegcmState := gcmStAad })

/-- The lines that the three functions below share: `TEE_AEUpdateAAD` without data when the state
is `GCM_ST_INIT`, and the check of the state after it. -/
def whenStarted (work : backend.Operation → OperationOutput × backend.Operation) :
    OperationOutput × backend.Operation :=
  let (exit, operation) :=
    if operation.aegcmState = gcmStInit then teeAEUpdateAAD operation memory none 0
    else (.returned (), operation)
  match exit with
  | .returned () =>
      if operation.aegcmState < gcmStAad then
        (.bare (.returned .errorBadParameters) memory, operation)
      else work operation
  | _ => (.bare .panicked memory, operation)

/-- `TEE_AEUpdate`; `destLen` is `none` for a `NULL` pointer. -/
def teeAEUpdate (buffers : Buffers) (destLen : Option Nat) :
    OperationOutput × backend.Operation :=
  if operation.alg ≠ teeAlgAesGcm then (.bare (.returned .errorBadParameters) memory, operation)
  else if buffers.destData = none ∨ buffers.srcData = none ∨ destLen = none then
    (.bare (.returned .errorBadParameters) memory, operation)
  else
    whenStarted operation memory fun operation =>
      let effect := backend.gcmUpdate operation memory buffers
      if effect.rv ≠ 0 then (.bare .panicked effect.memory, effect.operation)
      else
        ({ exit := .returned .success
           destLen := some buffers.srcLen
           memory := effect.memory }, { effect.operation with aegcmState := gcmStActive })

/-- `TEE_AEEncryptFinal`; `tagLen` is the value behind the pointer, which the function leaves as it
is. -/
def teeAEEncryptFinal (buffers : Buffers) (destLen tag tagLen : Option Nat) :
    OperationOutput × backend.Operation :=
  if operation.alg ≠ teeAlgAesGcm then (.bare (.returned .errorBadParameters) memory, operation)
  else if buffers.destData = none ∨ buffers.srcData = none ∨ destLen = none then
    (.bare (.returned .errorBadParameters) memory, operation)
  else if tagLen ≠ some 16 then (.bare (.returned .errorBadParameters) memory, operation)
  else if tag = none then (.bare (.returned .errorBadParameters) memory, operation)
  else
    whenStarted operation memory fun operation =>
      let effect := backend.gcmEncryptFinal operation memory buffers (tag.getD 0)
      if effect.rv ≠ 0 then (.bare .panicked effect.memory, effect.operation)
      else
        ({ exit := .returned .success
           destLen := some buffers.srcLen
           memory := effect.memory }, { effect.operation with aegcmState := gcmStFinal })

/-- `TEE_AEDecryptFinal`. -/
def teeAEDecryptFinal (buffers : Buffers) (destLen tag : Option Nat) (tagLen : Nat) :
    OperationOutput × backend.Operation :=
  if operation.alg ≠ teeAlgAesGcm then (.bare (.returned .errorBadParameters) memory, operation)
  else if buffers.destData = none ∨ buffers.srcData = none ∨ destLen = none then
    (.bare (.returned .errorBadParameters) memory, operation)
  else if tag = none ∨ tagLen ≠ 16 then (.bare (.returned .errorBadParameters) memory, operation)
  else
    whenStarted operation memory fun operation =>
      match backend.gcmDecryptFinal operation memory buffers (tag.getD 0) with
      | (.returned true, operation, memory) =>
          ({ exit := .returned .success, destLen := some buffers.srcLen, memory },
            { operation with aegcmState := gcmStFinal })
      | (.returned false, operation, memory) =>
          (.bare (.returned .errorMacInvalid) memory, operation)
      | (_, operation, memory) => (.bare .panicked memory, operation)

end AuthenticatedEncryption

section Cipher

variable (operation : backend.Operation) (memory : Memory)

/-- `TEE_CipherInit`. -/
def teeCipherInit (nonce : Option Nat) (nonceLen : Nat) : Exit Unit × backend.Operation :=
  if operation.alg ≠ teeAlgAesCbcNopad then (.panicked, operation)
  else if nonceLen ≠ 16 then (.panicked, operation)
  else if hasFlag operation.flags teeHandleFlagKeySet = false then (.panicked, operation)
  else backend.cipherInit operation (Block.ofBytes (memory.read (nonce.getD 0) nonceLen))

/-- `TEE_CipherUpdate`. -/
def teeCipherUpdate (buffers : Buffers) : OperationOutput × backend.Operation :=
  if operation.alg ≠ teeAlgAesCbcNopad then
    (.bare (.returned .errorBadParameters) memory, operation)
  else
    let memory := backend.stageInput memory buffers
    if operation.mode = teeModeEncrypt then
      let (operation, memory) := backend.cbc .encrypt operation memory buffers
      ({ exit := .returned .success, destLen := some buffers.srcLen, memory }, operation)
    else if operation.mode = teeModeDecrypt then
      let (operation, memory) := backend.cbc .decrypt operation memory buffers
      ({ exit := .returned .success, destLen := some buffers.srcLen, memory }, operation)
    else (.bare (.returned .errorBadParameters) memory, operation)

/-- `TEE_CipherDoFinal`: CBC needs no finalization. -/
def teeCipherDoFinal (buffers : Buffers) : OperationOutput × backend.Operation :=
  teeCipherUpdate operation memory buffers

end Cipher

section Asymmetric

variable (operation : backend.Operation) (memory : Memory)

/-- `TEE_AsymmetricSignDigest`; it takes no parameters. -/
def teeAsymmetricSignDigest (digest : Nat) (digestLen : Nat) (signature : Nat) :
    OperationOutput :=
  if operation.mode ≠ teeModeSign ∨ operation.alg ≠ teeAlgEcdsaP256 then
    .bare (.returned .errorBadParameters) memory
  else if hasFlag operation.flags teeHandleFlagKeySet = false then
    .bare (.returned .errorBadParameters) memory
  else
    { exit := .returned .success
      destLen := some sigLength
      memory := memory.write signature (backend.sign operation (memory.read digest digestLen)) }

/-- `TEE_AsymmetricVerifyDigest`; it takes no parameters. -/
def teeAsymmetricVerifyDigest (digest : Nat) (digestLen : Nat) (signature : Nat)
    (signatureLen : Nat) : TeeResult :=
  if operation.mode ≠ teeModeVerify ∨ operation.alg ≠ teeAlgEcdsaP256 ∨
      signatureLen ≠ sigLength then .errorBadParameters
  else if hasFlag operation.flags teeHandleFlagKeySet = false then .errorBadParameters
  else if backend.verify operation (memory.read signature sigLength) (memory.read digest digestLen)
    then .success
  else .errorSignatureInvalid

end Asymmetric
end TaRef
