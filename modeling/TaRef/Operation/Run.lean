import TaRef.Library.Machine
import TaRef.Crypto.Instances
import TaRef.Operation.Api

/-!
# Runs of calls on one operation

The calls a trusted application can make on an operation, each with the memory it finds, and the
machine that performs them on one handle.  The machine stops when a call panics.  What a call keeps
of the handle is stated once for each field.
-/

namespace TaRef

/-- A call on an operation with its arguments. -/
inductive OperationCall (backend : Backend)
  | setOperationKey (key : Option backend.Object)
  | digestUpdate (chunk : Option Nat) (chunkSize : Nat)
  | digestDoFinal (chunk : Option Nat) (chunkLen : Nat) (hash : Option Nat) (hashLen : Nat)
  | aeInit (nonce : Option Nat) (nonceLen tagLen aadLen payloadLen : Nat)
  | aeUpdateAAD (aadData : Option Nat) (aadDataLen : Nat)
  | aeUpdate (buffers : Buffers) (destLen : Option Nat)
  | aeEncryptFinal (buffers : Buffers) (destLen tag tagLen : Option Nat)
  | aeDecryptFinal (buffers : Buffers) (destLen tag : Option Nat) (tagLen : Nat)
  | cipherInit (nonce : Option Nat) (nonceLen : Nat)
  | cipherUpdate (buffers : Buffers)
  | cipherDoFinal (buffers : Buffers)
  | signDigest (digest digestLen signature : Nat)
  | verifyDigest (digest digestLen signature signatureLen : Nat)

/-- A call and the memory it finds. -/
structure Invocation (backend : Backend) where
  memory : Memory
  call : OperationCall backend

/-- What a void function hands back. -/
def OperationOutput.ofVoid (exit : Exit Unit) (memory : Memory) : OperationOutput :=
  .bare (exit.map fun _ => .success) memory

variable {backend : Backend}

/-- Perform one call on a handle. -/
def Invocation.perform (invocation : Invocation backend) (operation : backend.Operation) :
    OperationOutput × backend.Operation :=
  let memory := invocation.memory
  match invocation.call with
  | .setOperationKey key =>
      let (result, operation) := teeSetOperationKey operation key
      (.bare (.returned result) memory, operation)
  | .digestUpdate chunk chunkSize =>
      let (exit, operation) := teeDigestUpdate operation memory chunk chunkSize
      (.ofVoid exit memory, operation)
  | .digestDoFinal chunk chunkLen hash hashLen =>
      teeDigestDoFinal operation memory chunk chunkLen hash hashLen
  | .aeInit nonce nonceLen tagLen aadLen payloadLen =>
      let (exit, operation) :=
        teeAEInit operation memory nonce nonceLen tagLen aadLen payloadLen
      (.bare exit memory, operation)
  | .aeUpdateAAD aadData aadDataLen =>
      let (exit, operation) := teeAEUpdateAAD operation memory aadData aadDataLen
      (.ofVoid exit memory, operation)
  | .aeUpdate buffers destLen => teeAEUpdate operation memory buffers destLen
  | .aeEncryptFinal buffers destLen tag tagLen =>
      teeAEEncryptFinal operation memory buffers destLen tag tagLen
  | .aeDecryptFinal buffers destLen tag tagLen =>
      teeAEDecryptFinal operation memory buffers destLen tag tagLen
  | .cipherInit nonce nonceLen =>
      let (exit, operation) := teeCipherInit operation memory nonce nonceLen
      (.ofVoid exit memory, operation)
  | .cipherUpdate buffers => teeCipherUpdate operation memory buffers
  | .cipherDoFinal buffers => teeCipherDoFinal operation memory buffers
  | .signDigest digest digestLen signature =>
      (teeAsymmetricSignDigest operation memory digest digestLen signature, operation)
  | .verifyDigest digest digestLen signature signatureLen =>
      (.bare (.returned (teeAsymmetricVerifyDigest operation memory digest digestLen signature
        signatureLen)) memory, operation)

/-- The call returned success. -/
def OperationOutput.Succeeds (output : OperationOutput) : Prop :=
  output.exit = .returned .success

instance (output : OperationOutput) : Decidable output.Succeeds :=
  inferInstanceAs (Decidable (_ = _))

namespace Operation

/-- The handle after a call, if the call returned. -/
def survive (output : OperationOutput) (operation : backend.Operation) :
    Option backend.Operation :=
  match output.exit with
  | .returned _ => some operation
  | _ => none

/-- Perform one call, unless an earlier one panicked. -/
def step : Option backend.Operation → Invocation backend →
    OperationOutput × Option backend.Operation
  | none, invocation => (.bare .panicked invocation.memory, none)
  | some operation, invocation =>
      ((invocation.perform operation).1,
        survive (invocation.perform operation).1 (invocation.perform operation).2)

theorem step_some (operation : backend.Operation) (invocation : Invocation backend) :
    step (some operation) invocation =
      ((invocation.perform operation).1,
        survive (invocation.perform operation).1 (invocation.perform operation).2) := rfl

/-- The handle that survives a call is the one the call left. -/
theorem eq_of_survive {output : OperationOutput} {operation after : backend.Operation}
    (survived : survive output operation = some after) : operation = after := by
  unfold survive at survived
  split at survived
  · exact Option.some.inj survived
  · cases survived

theorem survive_of_returned {output : OperationOutput} {operation : backend.Operation}
    {result : TeeResult} (returned : output.exit = .returned result) :
    survive output operation = some operation := by
  rw [survive, returned]

theorem step_of_perform {invocation : Invocation backend} {operation after : backend.Operation}
    {output : OperationOutput} {result : TeeResult}
    (performed : invocation.perform operation = (output, after))
    (returned : output.exit = .returned result) :
    step (some operation) invocation = (output, some after) := by
  rw [step_some, performed, survive_of_returned returned]

/-! ## A run of the instances -/

/-- A handle as `TEE_AllocateOperation` zeroes it. -/
def fresh (backend : Backend) (algorithm mode : UInt32) : backend.Operation :=
  { OperationHandle.zeroed backend.zeroDigest backend.zeroAes backend.zeroGcm backend.zeroKey with
    mode, alg := algorithm }

/-- An AES key object that holds the key of the published example. -/
def vectorKeyObject (backend : Backend) : backend.Object :=
  { ObjectHandle.zeroed backend.zeroAes backend.zeroKey with
    type := teeTypeAes, flags := teeHandleFlagKeySet, publicKey := vectorKey }

/-- Memory with sixteen zeros and then the block of the published example. -/
def vectorMemory : Memory := Memory.write (fun _ => 0) 16 vectorPlain.1

/-- The example block, with room for its image behind it. -/
def vectorBuffers : Buffers where
  srcData := some 16
  srcLen := 16
  destData := some 32
  srcLen_lt := by decide
  separate := by
    rintro _ _ ⟨⟩ ⟨⟩
    decide

/-- Set the key, start with a nonce of zeros and no additional data, and encrypt the block. -/
def sealCalls (backend : Backend) : List (Invocation backend) :=
  [{ memory := vectorMemory, call := .setOperationKey (some (vectorKeyObject backend)) },
    { memory := vectorMemory, call := .aeInit (some 0) 16 128 0 16 },
    { memory := vectorMemory, call := .aeEncryptFinal vectorBuffers (some 16) (some 48) (some 16) }]

end Operation

/-- The mbedtls build over the instances of its libraries. -/
def CryptLib.reference : CryptLib :=
  .mbedcrypt (.reference vectorCipher) (.reference vectorHash) .reference

end TaRef
