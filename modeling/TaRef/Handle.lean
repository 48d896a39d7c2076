import TaRef.Library.Block

/-!
# Result codes, flags and object handles

The part of `tee_api_defines.h` and `tee_api_types.h` that the functions of the internal API read,
and the object handle of `tee_api_tee_types.h`.  One handle type serves transient key objects and
persistent objects, as in the source.
-/

namespace TaRef

/-- The values of `TEE_Result` that the modelled functions return. -/
inductive TeeResult
  | success
  | errorGeneric
  | errorAccessDenied
  | errorBadParameters
  | errorItemNotFound
  | errorNotSupported
  | errorOutOfMemory
  | errorSecurity
  | errorShortBuffer
  | errorMacInvalid
  | errorSignatureInvalid
  deriving DecidableEq, Repr

/-- How a call ends: it returns, it raises `TEE_Panic`, or the host still holds it. -/
inductive Exit (α : Type*)
  | returned (value : α)
  | panicked
  | running
  deriving DecidableEq, Repr

/-- Translate the value that a call returns. -/
def Exit.map {α β : Type*} (image : α → β) : Exit α → Exit β
  | returned value => .returned (image value)
  | panicked => .panicked
  | running => .running

def teeDataFlagAccessRead : UInt32 := 0x00000001
def teeDataFlagAccessWrite : UInt32 := 0x00000002
def teeDataFlagOverwrite : UInt32 := 0x00000400
def teeObjectIdMaxLen : Nat := 64

def teeHandleFlagPersistent : UInt32 := 0x00010000
def teeHandleFlagKeySet : UInt32 := 0x00040000

def teeTypeAes : UInt32 := 0xA0000010
def teeTypeEcdsaKeypair : UInt32 := 0xA1000041
def teeTypeEcdhKeypair : UInt32 := 0xA1000042

def teeObjectNonceSize : Nat := 16
def teeObjectKeySize : Nat := 32
def teeObjectSkeySize : Nat := 64
def teeObjectAadSize : Nat := 16

/-- A bit test `flags & mask` used as a condition. -/
def hasFlag (flags mask : UInt32) : Bool := flags &&& mask != 0

theorem hasFlag_or (left right mask : UInt32) :
    hasFlag (left ||| right) mask = (hasFlag left mask || hasFlag right mask) := by
  have distribute : (left ||| right) &&& mask = (left &&& mask) ||| (right &&& mask) := by
    apply UInt32.toBitVec_inj.mp
    simp only [UInt32.toBitVec_and, UInt32.toBitVec_or]
    ext index
    simp [Bool.and_or_distrib_right]
  rw [hasFlag, distribute, Bool.eq_iff_iff]
  simp [hasFlag, UInt32.or_eq_zero_iff]
  tauto

/-- `struct __TEE_ObjectHandle`; `key` is the field of the wolfSSL build. -/
structure ObjectHandle (AesContext EcKey : Type) where
  type : UInt32
  flags : UInt32
  desc : Int
  persistCtx : AesContext
  persistIv : Block
  key : EcKey
  publicKey : Bytes
  privateKey : Bytes

/-- A handle after `memset(handle, 0, sizeof(*handle))`. -/
def ObjectHandle.zeroed {AesContext EcKey : Type} (zeroContext : AesContext) (zeroKey : EcKey) :
    ObjectHandle AesContext EcKey where
  type := 0
  flags := 0
  desc := 0
  persistCtx := zeroContext
  persistIv := Block.zero
  key := zeroKey
  publicKey := List.replicate teeObjectKeySize 0
  privateKey := List.replicate teeObjectSkeySize 0

end TaRef
