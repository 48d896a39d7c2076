import TaRef.Storage.Object

/-!
# Reading and writing object data on Keystone

`TEE_WriteObjectData` and `TEE_ReadObjectData` of `api/keystone/tee-internal-api.c`, mbedtls build.
-/

namespace TaRef

/-- How `TEE_ReadObjectData` ends, the caller's buffer, and what it stored in `*count`. -/
structure ReadCall where
  exit : Exit TeeResult
  buffer : Bytes
  count : Option Nat
  deriving DecidableEq

variable {lib : Mbedtls}

/-- The end of `TEE_ReadObjectData`, the same on both platforms: decrypt the bytes read into a
fresh allocation and copy them back. -/
def decryptInto (tee : Enclave lib) (object : Option Nat) (handle : StoredObject lib)
    (buffer : Bytes) (size : Nat) : ReadCall × Enclave lib :=
  match tee.malloc with
  | (none, tee) =>
      ({ exit := .returned .errorOutOfMemory, buffer, count := some size }, tee)
  | (some residue, tee) =>
      let call := lib.aesCryptCbc handle.persistCtx .decrypt handle.persistIv (buffer.take size)
      let data := overwrite (Memory.read residue 0 size) 0 call.output
      ({ exit := .returned .success, buffer := overwrite buffer 0 data, count := some size },
        tee.setObject object { handle with persistIv := call.iv })

namespace Keystone

/-- `TEE_WriteObjectData`. -/
def teeWriteObjectData (tee : Enclave lib) (object : Option Nat) (buffer : Bytes) :
    Exit TeeResult × Enclave lib :=
  let size := buffer.length
  match tee.persistent? object with
  | none => (.returned .errorBadParameters, tee)
  | some handle =>
      if size % 16 ≠ 0 then (.returned .errorBadParameters, tee)
      else
        match tee.malloc with
        | (none, tee) => (.returned .errorOutOfMemory, tee)
        | (some residue, tee) =>
            let call := lib.aesCryptCbc handle.persistCtx .encrypt handle.persistIv buffer
            let data := overwrite (Memory.read residue 0 size) 0 call.output
            let tee := tee.setObject object { handle with persistIv := call.iv }
            match Keyedge.ocallWriteFileFull tee.host handle.desc data size with
            | none => (.running, tee)
            | some (n, host) =>
                if n < 0 then (.returned .errorGeneric, { tee with host })
                else (.returned .success, { tee with host })

/-- `TEE_ReadObjectData`. -/
def teeReadObjectData (tee : Enclave lib) (object : Option Nat) (buffer : Bytes) (size : Nat) :
    ReadCall × Enclave lib :=
  match tee.persistent? object with
  | none => ({ exit := .returned .errorBadParameters, buffer, count := none }, tee)
  | some handle =>
      if size % 16 ≠ 0 then
        ({ exit := .returned .errorBadParameters, buffer, count := none }, tee)
      else
        match Keyedge.ocallReadFileFull tee.host handle.desc buffer size with
        | none => ({ exit := .running, buffer, count := none }, tee)
        | some (retval, host, buffer) =>
            let tee := { tee with host }
            if retval < 0 then
              ({ exit := .returned .errorGeneric, buffer, count := none }, tee)
            else
              let size := retval.toNat
              if size % 16 ≠ 0 then
                ({ exit := .returned .errorGeneric, buffer, count := some size }, tee)
              else if size = 0 then
                ({ exit := .returned .success, buffer, count := some size }, tee)
              else decryptInto tee object handle buffer size

end Keystone
end TaRef
