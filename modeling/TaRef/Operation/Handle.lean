import TaRef.Handle
import TaRef.Library.Memory

/-!
# Operation handles

The constants that the cryptographic operations read, and the operation handle of
`tee_api_tee_types.h` with the fields of all three builds.
-/

namespace TaRef

def teeModeEncrypt : UInt32 := 0
def teeModeDecrypt : UInt32 := 1
def teeModeSign : UInt32 := 2
def teeModeVerify : UInt32 := 3
def teeModeDigest : UInt32 := 5

def teeAlgAesCbcNopad : UInt32 := 0x10000110
def teeAlgAesGcm : UInt32 := 0x40000810
def teeAlgSha256 : UInt32 := 0x50000004
def teeAlgEcdsaP256 : UInt32 := 0x70003041

/-- `GCM_ST_INIT`: key and iv are set. -/
def gcmStInit : Int := 1

/-- `GCM_ST_AAD`: the additional data is set. -/
def gcmStAad : Int := 2

/-- `GCM_ST_ACTIVE` -/
def gcmStActive : Int := 3

/-- `GCM_ST_FINAL` -/
def gcmStFinal : Int := 4

def shaLength : Nat := 32
def sigLength : Nat := 64

/-- `struct __TEE_OperationHandle`; `aegcmAadsz`, `aegcmAad` and `key` are fields of the wolfSSL
build. -/
structure OperationHandle (Digest Aes Gcm EcKey : Type) where
  mode : UInt32
  flags : UInt32
  alg : UInt32
  ctx : Digest
  aectx : Aes
  aegcmctx : Gcm
  aegcmAadsz : Nat
  aegcmAad : Bytes
  key : EcKey
  aegcmState : Int
  aeiv : Block
  aekey : Bytes
  pubkey : Bytes
  prikey : Bytes

/-- A handle after `memset(handle, 0, sizeof(*handle))`. -/
def OperationHandle.zeroed {Digest Aes Gcm EcKey : Type} (zeroDigest : Digest) (zeroAes : Aes)
    (zeroGcm : Gcm) (zeroKey : EcKey) : OperationHandle Digest Aes Gcm EcKey where
  mode := 0
  flags := 0
  alg := 0
  ctx := zeroDigest
  aectx := zeroAes
  aegcmctx := zeroGcm
  aegcmAadsz := 0
  aegcmAad := List.replicate teeObjectAadSize 0
  key := zeroKey
  aegcmState := 0
  aeiv := Block.zero
  aekey := List.replicate 32 0
  pubkey := List.replicate teeObjectKeySize 0
  prikey := List.replicate teeObjectSkeySize 0

/-- `srcData`, `srcLen` and `destData` of a processing call; `none` is `NULL`.  The buffers are
disjoint or equal in their starting positions. -/
structure Buffers where
  srcData : Option Nat
  srcLen : Nat
  destData : Option Nat
  srcLen_lt : srcLen < 2 ^ 32
  separate : ∀ src dest, srcData = some src → destData = some dest →
    src = dest ∨ src + srcLen ≤ dest ∨ dest + srcLen ≤ src

namespace Buffers

/-- The bytes of the source buffer. -/
def input (buffers : Buffers) (memory : Memory) : Bytes :=
  memory.read (buffers.srcData.getD 0) buffers.srcLen

/-- Store bytes in the destination buffer. -/
def store (buffers : Buffers) (memory : Memory) (bytes : Bytes) : Memory :=
  memory.write (buffers.destData.getD 0) bytes

/-- The bytes of the destination buffer. -/
def output (buffers : Buffers) (memory : Memory) : Bytes :=
  memory.read (buffers.destData.getD 0) buffers.srcLen

@[simp]
theorem length_input (buffers : Buffers) (memory : Memory) :
    (buffers.input memory).length = buffers.srcLen := Memory.length_read _ _ _

/-- The destination holds what was stored in it. -/
theorem output_store (buffers : Buffers) (memory : Memory) {bytes : Bytes}
    (fits : bytes.length = buffers.srcLen) :
    buffers.output (buffers.store memory bytes) = bytes := by
  rw [output, store, ← fits, Memory.read_write]

end Buffers
end TaRef
