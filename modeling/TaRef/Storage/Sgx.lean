import TaRef.Storage.Keystone

/-!
# Reading and writing object data on SGX

`TEE_WriteObjectData` and `TEE_ReadObjectData` of `api/sgx/tee-internal-api.c`, mbedtls build, with
the two ocalls of `App_ocalls_sgx.cpp`.
-/

namespace TaRef
namespace Sgx

/-- `ocall_write_file`. -/
def ocallWriteFile (host : Host) (desc : Int) (buf : Bytes) : Int × Host :=
  let (n, host) := host.write desc buf
  (wrapInt n, host)

/-- `ocall_read_file`.  The `[out, size=len]` buffer of the ocall starts with zeros on the host side
and is copied back whole. -/
def ocallReadFile (host : Host) (desc : Int) (buf : Bytes) (len : Nat) : Int × Host × Bytes :=
  let ((n, bytes), host) := host.read desc len
  (wrapInt n, host, overwrite buf 0 (bytes ++ List.replicate (len - bytes.length) 0))

variable {lib : Mbedtls}

/-- `TEE_WriteObjectData`. -/
def teeWriteObjectData (tee : Enclave lib) (object : Option Nat) (buffer : Bytes) :
    Exit TeeResult × Enclave lib :=
  let size := buffer.length
  match tee.persistent? object with
  | none => (.returned .errorBadParameters, tee)
  | some handle =>
      if size % 16 ≠ 0 then (.returned .errorBadParameters, tee)
      else
        match tee.malloc with
        | (none, tee) => (.returned .errorOutOfMemory, tee)
        | (some residue, tee) =>
            let call := lib.aesCryptCbc handle.persistCtx .encrypt handle.persistIv buffer
            let data := overwrite (Memory.read residue 0 size) 0 call.output
            let tee := tee.setObject object { handle with persistIv := call.iv }
            let (retval, host) := ocallWriteFile tee.host handle.desc data
            let tee := { tee with host }
            if retval % 2 ^ 32 = size then (.returned .success, tee)
            else if retval < 0 then (.returned .errorGeneric, tee)
            else (.returned .success, tee)

/-- `TEE_ReadObjectData`. -/
def teeReadObjectData (tee : Enclave lib) (object : Option Nat) (buffer : Bytes) (size : Nat) :
    ReadCall × Enclave lib :=
  match tee.persistent? object with
  | none => ({ exit := .returned .errorBadParameters, buffer, count := none }, tee)
  | some handle =>
      if size % 16 ≠ 0 then
        ({ exit := .returned .errorBadParameters, buffer, count := none }, tee)
      else
        let (retval, host, buffer) := ocallReadFile tee.host handle.desc buffer size
        let tee := { tee with host }
        if retval < 0 then
          ({ exit := .returned .errorGeneric, buffer, count := none }, tee)
        else
          let size := retval.toNat
          if size = 0 then ({ exit := .returned .success, buffer, count := some size }, tee)
          else decryptInto tee object handle buffer size

end Sgx
end TaRef
