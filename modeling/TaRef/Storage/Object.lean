import Mathlib.Data.List.TakeWhile
import TaRef.Crypto.Mbedtls
import TaRef.Storage.Edge

/-!
# Opening and closing persistent objects

The state of the trusted application, `set_object_key` of both platforms, and the functions that
open and close a persistent object.  Those functions have the same text in the Keystone and the SGX
source up to `set_object_key`, which is their parameter here.  All of this is the mbedtls build.
-/

namespace TaRef

/-- A handle on a persistent object in the mbedtls build. -/
abbrev StoredObject (lib : Mbedtls) := ObjectHandle lib.AesContext Unit

/-- The trusted application and its host.  A handle is a position in `objects`; `mallocs` holds the
residue found in the next allocations, or `none` where `malloc` fails, and `derives` tells whether
the next key derivations succeed. -/
structure Enclave (lib : Mbedtls) where
  host : Host
  objects : List (StoredObject lib)
  mallocs : Stream' (Option Memory)
  derives : Stream' Bool

variable {lib : Mbedtls}

namespace Enclave

/-- `malloc`: the bytes found in the allocation, and the state after it. -/
def malloc (tee : Enclave lib) : Option Memory × Enclave lib :=
  (tee.mallocs.head, { tee with mallocs := tee.mallocs.tail })

/-- The object behind a handle that is neither `NULL` nor lacks `TEE_HANDLE_FLAG_PERSISTENT`. -/
def persistent? (tee : Enclave lib) (object : Option Nat) : Option (StoredObject lib) :=
  (object.bind fun index => tee.objects[index]?).filter fun handle =>
    hasFlag handle.flags teeHandleFlagPersistent

/-- Replace the object behind a handle. -/
def setObject (tee : Enclave lib) (object : Option Nat) (handle : StoredObject lib) :
    Enclave lib :=
  { tee with objects := tee.objects.set (object.getD tee.objects.length) handle }

end Enclave

/-- `flags2flags`; the result is an `int`, with `-1` as the word of ones. -/
def flags2flags (flags : UInt32) : UInt32 :=
  if hasFlag flags teeDataFlagAccessWrite then
    if hasFlag flags teeDataFlagOverwrite then oWronly ||| oTrunc else oWronly
  else if hasFlag flags teeDataFlagAccessRead then
    if hasFlag flags teeDataFlagOverwrite then oRdonly ||| oTrunc else oRdonly
  else 0xFFFFFFFF

/-- The part of a buffer that its reader takes for a C string. -/
def cString (bytes : Bytes) : Bytes := bytes.takeWhile (· != 0)

theorem cString_of_notMem {bytes : Bytes} (plain : (0 : UInt8) ∉ bytes) : cString bytes = bytes :=
  List.takeWhile_eq_self_iff.mpr fun _ member => bne_iff_ne.mpr fun zero => plain (zero ▸ member)

theorem notMem_cString (bytes : Bytes) : (0 : UInt8) ∉ cString bytes := fun member =>
  absurd rfl (bne_iff_ne.mp (List.mem_takeWhile_imp (p := (· != 0)) member))

theorem cString_append_zero {bytes : Bytes} (plain : (0 : UInt8) ∉ bytes) (rest : Bytes) :
    cString (bytes ++ 0 :: rest) = bytes := by
  have nonzero : ∀ byte ∈ bytes, (byte != 0) = true := fun byte member =>
    bne_iff_ne.mpr fun zero => plain (zero ▸ member)
  rw [cString, List.takeWhile_append_of_pos nonzero, List.takeWhile_cons_of_neg (by simp),
    List.append_nil]

/-- Direction of the key schedule of a handle with some flags. -/
def accessDirection (flags : UInt32) : Direction :=
  if hasFlag flags teeDataFlagAccessWrite then .encrypt else .decrypt

/-- The last part of `set_object_key`: expand the key for the access direction, copy the iv. -/
def programKey (key : Bytes) (iv : Block) (handle : StoredObject lib) : StoredObject lib :=
  { handle with
    persistCtx := lib.aesSetkey (accessDirection handle.flags) (lib.aesInit handle.persistCtx) key
    persistIv := iv }

/-- How a platform derives the key and the iv of an object from its identifier. -/
structure KeyDerivation where
  key : Bytes → Bytes
  iv : Bytes → Block

/-- Key and iv of `set_object_key` on Keystone: the start of the signature that `attest_enclave`
makes over the identifier. -/
def KeyDerivation.keystone (attestEnclave : Bytes → Bytes) : KeyDerivation where
  key id := (attestEnclave id).take teeObjectKeySize
  iv id := Block.ofBytes ((attestEnclave id).drop teeObjectKeySize)

/-- Key and iv of `set_object_key` on SGX: the report key, the seal key of the identifier cut to
`SGX_KEYID_SIZE`, and a digest of both with the whole identifier. -/
def KeyDerivation.sgx (reportKey : Block) (sealKey : Bytes → Block) (sha3 : Nat → Bytes → Bytes) :
    KeyDerivation where
  key id := reportKey.1 ++ (sealKey (id.take 32 ++ List.replicate (32 - id.length) 0)).1
  iv id :=
    let key := reportKey.1 ++ (sealKey (id.take 32 ++ List.replicate (32 - id.length) 0)).1
    Block.ofBytes (sha3 teeObjectNonceSize (key ++ id))

/-- `set_object_key`. -/
def setObjectKey (keys : KeyDerivation) (tee : Enclave lib) (id : Bytes)
    (object : StoredObject lib) : Option (StoredObject lib) × Enclave lib :=
  let tee' := { tee with derives := tee.derives.tail }
  if tee.derives.head then (some (programKey (keys.key id) (keys.iv id) object), tee')
  else (none, tee')

/-- The flags `OpenPersistentObject` passes to `open`. -/
def openFlags (flags : UInt32) (ocreat : Bool) : UInt32 :=
  if ocreat then flags2flags flags ||| oCreat else flags2flags flags

/-- The access flag that a new handle keeps. -/
def accessFlag (flags : UInt32) : UInt32 :=
  if hasFlag flags teeDataFlagAccessWrite then teeDataFlagAccessWrite
  else if hasFlag flags teeDataFlagAccessRead then teeDataFlagAccessRead
  else 0

/-- The handle `OpenPersistentObject` fills in after `open` returned. -/
def newHandle (lib : Mbedtls) (flags : UInt32) (desc : Int) : StoredObject lib :=
  { ObjectHandle.zeroed lib.aesZero () with
    desc, flags := teeHandleFlagPersistent ||| accessFlag flags }

/-- `OpenPersistentObject`, given the host's `open`. -/
def openPersistentObjectOn (openPath : Host → Bytes → UInt32 → Int × Host) (keys : KeyDerivation)
    (tee : Enclave lib) (objectID : Option Bytes) (flags : UInt32) (ocreat : Bool) :
    (TeeResult × Option Nat) × Enclave lib :=
  match objectID with
  | none => ((.errorItemNotFound, none), tee)
  | some id =>
      if id.length > teeObjectIdMaxLen then ((.errorBadParameters, none), tee)
      else if hasFlag flags teeDataFlagAccessRead && hasFlag flags teeDataFlagAccessWrite then
        ((.errorNotSupported, none), tee)
      else
        match tee.malloc with
        | (none, tee) => ((.errorOutOfMemory, none), tee)
        | (some _, tee) =>
            match tee.malloc with
            | (none, tee) => ((.errorOutOfMemory, none), tee)
            | (some _, tee) =>
                let (desc, host) := openPath tee.host (cString id) (openFlags flags ocreat)
                let tee := { tee with host }
                if desc < 0 then ((.errorAccessDenied, none), tee)
                else
                  match setObjectKey keys tee id (newHandle lib flags desc) with
                  | (none, tee) => ((.errorSecurity, none), tee)
                  | (some handle, tee) =>
                      ((.success, some tee.objects.length),
                        { tee with objects := tee.objects ++ [handle] })

/-- `OpenPersistentObject` on the host that `Host.openPath` describes. -/
def openPersistentObject (keys : KeyDerivation) (tee : Enclave lib) (objectID : Option Bytes)
    (flags : UInt32) (ocreat : Bool) : (TeeResult × Option Nat) × Enclave lib :=
  openPersistentObjectOn Host.openPath keys tee objectID flags ocreat

/-- `TEE_CreatePersistentObject`; attributes and initial data are not supported. -/
def teeCreatePersistentObject (keys : KeyDerivation) (tee : Enclave lib)
    (objectID : Option Bytes) (flags : UInt32) : (TeeResult × Option Nat) × Enclave lib :=
  openPersistentObject keys tee objectID flags true

/-- `TEE_OpenPersistentObject`. -/
def teeOpenPersistentObject (keys : KeyDerivation) (tee : Enclave lib)
    (objectID : Option Bytes) (flags : UInt32) : (TeeResult × Option Nat) × Enclave lib :=
  openPersistentObject keys tee objectID flags false

/-- `TEE_CloseObject`. -/
def teeCloseObject (tee : Enclave lib) (object : Option Nat) : Exit Unit × Enclave lib :=
  match tee.persistent? object with
  | none => (.panicked, tee)
  | some handle =>
      let tee := tee.setObject object
        { handle with persistCtx := lib.aesFree handle.persistCtx }
      let (retval, host) := tee.host.close handle.desc
      if retval ≠ 0 then (.panicked, { tee with host }) else (.returned (), { tee with host })

/-! ## The flags given to the host -/

theorem openFlags_write {flags : UInt32} (write : hasFlag flags teeDataFlagAccessWrite = true)
    (ocreat : Bool) :
    openFlags flags ocreat &&& 3 = 1 ∧
      hasFlag (openFlags flags ocreat) oTrunc = hasFlag flags teeDataFlagOverwrite ∧
      hasFlag (openFlags flags ocreat) oCreat = ocreat := by
  simp only [openFlags, flags2flags, write, if_true]
  cases hasFlag flags teeDataFlagOverwrite <;> cases ocreat <;> decide

theorem openFlags_read {flags : UInt32} (not_write : hasFlag flags teeDataFlagAccessWrite = false)
    (read : hasFlag flags teeDataFlagAccessRead = true) (ocreat : Bool) :
    openFlags flags ocreat &&& 3 = 0 ∧
      hasFlag (openFlags flags ocreat) oTrunc = hasFlag flags teeDataFlagOverwrite ∧
      hasFlag (openFlags flags ocreat) oCreat = ocreat := by
  simp only [openFlags, flags2flags, not_write, read, if_true, Bool.false_eq_true, if_false]
  cases hasFlag flags teeDataFlagOverwrite <;> cases ocreat <;> decide

/-- Without an access flag the flag word is one that the host rejects. -/
theorem openFlags_none {flags : UInt32} (not_write : hasFlag flags teeDataFlagAccessWrite = false)
    (not_read : hasFlag flags teeDataFlagAccessRead = false) (ocreat : Bool) :
    openFlags flags ocreat &&& 3 = 3 := by
  simp only [openFlags, flags2flags, not_write, not_read, Bool.false_eq_true, if_false]
  cases ocreat <;> decide

/-! ## What opening can do -/

theorem newHandle_persistent (lib : Mbedtls) (flags : UInt32) (desc : Int) :
    hasFlag (newHandle lib flags desc).flags teeHandleFlagPersistent = true := by
  simp only [newHandle, hasFlag_or, Bool.or_eq_true]
  exact .inl (by decide)

/-- The key schedule of a handle has the direction of its access flag. -/
theorem accessDirection_newHandle (lib : Mbedtls) (flags : UInt32) (desc : Int) :
    accessDirection (newHandle lib flags desc).flags = accessDirection flags := by
  have kept : hasFlag (newHandle lib flags desc).flags teeDataFlagAccessWrite =
      hasFlag flags teeDataFlagAccessWrite := by
    simp only [newHandle, accessFlag, hasFlag_or]
    split
    · rename_i write
      rw [write]
      decide
    · rename_i not_write
      rw [Bool.eq_false_iff.mpr not_write]
      split <;> decide
  rw [accessDirection, accessDirection, kept]

/-- Opening either fails without a handle, having called `open` at most, or adds one handle, keyed
for the identifier, to a descriptor that `open` returned. -/
theorem openPersistentObject_cases (keys : KeyDerivation) (tee : Enclave lib)
    (objectID : Option Bytes) (flags : UInt32) (ocreat : Bool) :
    (∃ result, result ≠ .success ∧
      (openPersistentObject keys tee objectID flags ocreat).1 = (result, none) ∧
      (openPersistentObject keys tee objectID flags ocreat).2.objects = tee.objects ∧
      ((openPersistentObject keys tee objectID flags ocreat).2.host = tee.host ∨
        ∃ id, objectID = some id ∧
          (openPersistentObject keys tee objectID flags ocreat).2.host =
            (tee.host.openPath (cString id) (openFlags flags ocreat)).2)) ∨
    ∃ id, objectID = some id ∧ id.length ≤ teeObjectIdMaxLen ∧
      (hasFlag flags teeDataFlagAccessRead && hasFlag flags teeDataFlagAccessWrite) = false ∧
      0 ≤ (tee.host.openPath (cString id) (openFlags flags ocreat)).1 ∧
      openPersistentObject keys tee objectID flags ocreat =
        ((.success, some tee.objects.length),
          { host := (tee.host.openPath (cString id) (openFlags flags ocreat)).2
            objects := tee.objects ++ [programKey (keys.key id) (keys.iv id)
              (newHandle lib flags
                (tee.host.openPath (cString id) (openFlags flags ocreat)).1)]
            mallocs := tee.mallocs.tail.tail
            derives := tee.derives.tail }) := by
  unfold openPersistentObject openPersistentObjectOn Enclave.malloc setObjectKey
  cases objectID with
  | none => exact .inl ⟨.errorItemNotFound, by decide, rfl, rfl, .inl rfl⟩
  | some id =>
      dsimp only
      split
      · exact .inl ⟨.errorBadParameters, by decide, rfl, rfl, .inl rfl⟩
      rename_i short
      split
      · exact .inl ⟨.errorNotSupported, by decide, rfl, rfl, .inl rfl⟩
      rename_i one_way
      cases tee.mallocs.head with
      | none => exact .inl ⟨.errorOutOfMemory, by decide, rfl, rfl, .inl rfl⟩
      | some _ =>
          dsimp only
          cases tee.mallocs.tail.head with
          | none => exact .inl ⟨.errorOutOfMemory, by decide, rfl, rfl, .inl rfl⟩
          | some _ =>
              dsimp only
              split
              · exact .inl ⟨.errorAccessDenied, by decide, rfl, rfl, .inr ⟨id, rfl, rfl⟩⟩
              rename_i granted
              cases tee.derives.head with
              | false => exact .inl ⟨.errorSecurity, by decide, rfl, rfl, .inr ⟨id, rfl, rfl⟩⟩
              | true =>
                  exact .inr ⟨id, rfl, Nat.not_lt.mp short, by simpa using one_way,
                    Int.not_lt.mp granted, rfl⟩

/-- Opening succeeds when the identifier is short, one access flag at most is given, the allocations
and the key derivation succeed, and the host grants the file. -/
theorem openPersistentObject_granted (keys : KeyDerivation) {tee : Enclave lib} {id : Bytes}
    {flags : UInt32} {ocreat : Bool}
    (first : tee.mallocs.head ≠ none) (second : tee.mallocs.tail.head ≠ none)
    (derived : tee.derives.head = true) (short : id.length ≤ teeObjectIdMaxLen)
    (one_way : (hasFlag flags teeDataFlagAccessRead && hasFlag flags teeDataFlagAccessWrite) =
      false)
    (granted : 0 ≤ (tee.host.openPath (cString id) (openFlags flags ocreat)).1) :
    openPersistentObject keys tee (some id) flags ocreat =
      ((.success, some tee.objects.length),
        { host := (tee.host.openPath (cString id) (openFlags flags ocreat)).2
          objects := tee.objects ++ [programKey (keys.key id) (keys.iv id)
            (newHandle lib flags
              (tee.host.openPath (cString id) (openFlags flags ocreat)).1)]
          mallocs := tee.mallocs.tail.tail
          derives := tee.derives.tail }) := by
  obtain ⟨_, first_eq⟩ := Option.ne_none_iff_exists'.mp first
  obtain ⟨_, second_eq⟩ := Option.ne_none_iff_exists'.mp second
  simp only [openPersistentObject, openPersistentObjectOn, Enclave.malloc, setObjectKey,
    if_neg (Nat.not_lt.mpr short), one_way, first_eq, second_eq, if_neg (Int.not_lt.mpr granted),
    derived, Bool.false_eq_true, if_false, if_true]

end TaRef
