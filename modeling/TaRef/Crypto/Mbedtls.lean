import TaRef.Library.Block
import TaRef.Library.Cbc
import TaRef.Library.Gcm

/-!
# The mbedtls interface

The submodule with the library is not part of the repository, so its contexts and functions are
parameters.  The two law structures state what its documentation promises of the functions that the
API calls: standard CBC on whole blocks, and streaming AES-GCM for updates of whole blocks.
-/

namespace TaRef

instance : Mask Block := ⟨Block.xor, Block.xor_cancel⟩

/-- CBC on whole blocks keeps the length. -/
theorem Cbc.length_joinBlocks_crypt {κ : Type*} (cipher : BlockCipher κ Block) (key : κ)
    (direction : Direction) (chain : Block) {bytes : Bytes} (aligned : Aligned bytes) :
    (joinBlocks (crypt cipher key direction chain (toBlocks bytes))).length = bytes.length := by
  rw [length_joinBlocks, length_crypt, length_toBlocks]
  exact Nat.mul_div_cancel' aligned

/-- Return value of `mbedtls_aes_crypt_cbc`, with what it leaves in `iv` and stores in `output`. -/
structure CbcCall where
  rv : Int
  iv : Block
  output : Bytes

/-- Return value of `mbedtls_gcm_update`, with its context and what it stores in `output`. -/
structure GcmUpdate (Context : Type) where
  rv : Int
  context : Context
  output : Bytes

/-- Return value of `mbedtls_gcm_finish`, with its context and what it stores in `tag`. -/
structure GcmFinish (Context : Type) where
  rv : Int
  context : Context
  tag : Block

/-- The contexts and functions of mbedtls that the API uses. -/
structure Mbedtls where
  AesContext : Type
  /-- An `mbedtls_aes_context` of zero bytes. -/
  aesZero : AesContext
  aesInit : AesContext → AesContext
  aesFree : AesContext → AesContext
  aesSetkeyEnc : AesContext → Bytes → AesContext
  aesSetkeyDec : AesContext → Bytes → AesContext
  aesCryptCbc : AesContext → Direction → Block → Bytes → CbcCall
  GcmContext : Type
  /-- An `mbedtls_gcm_context` of zero bytes. -/
  gcmZero : GcmContext
  gcmInit : GcmContext → GcmContext
  gcmSetkey : GcmContext → Bytes → Int × GcmContext
  gcmStarts : GcmContext → Direction → Block → Bytes → Int × GcmContext
  gcmUpdate : GcmContext → Bytes → GcmUpdate GcmContext
  gcmFinish : GcmContext → GcmFinish GcmContext

namespace Mbedtls

/-- Expand a key for one direction. -/
def aesSetkey (lib : Mbedtls) : Direction → lib.AesContext → Bytes → lib.AesContext
  | .encrypt => lib.aesSetkeyEnc
  | .decrypt => lib.aesSetkeyDec

/-- `mbedtls_aes_crypt_cbc` is CBC over a block cipher: on whole blocks it processes them and leaves
the last ciphertext block in `iv`, on the empty input it does nothing whatever the key schedule, and
on any other length it fails without writing. -/
structure CbcLaws (lib : Mbedtls) (aes : BlockCipher Bytes Block) : Prop where
  crypt : ∀ context key direction iv input, Aligned input →
    lib.aesCryptCbc (lib.aesSetkey direction (lib.aesInit context) key) direction iv input =
      { rv := 0
        iv := Cbc.chainAfter aes key direction iv (toBlocks input)
        output := joinBlocks (Cbc.crypt aes key direction iv (toBlocks input)) }
  empty : ∀ context direction iv,
    lib.aesCryptCbc context direction iv [] = { rv := 0, iv, output := [] }
  unaligned : ∀ context direction iv input, ¬ Aligned input →
    (lib.aesCryptCbc context direction iv input).rv ≠ 0 ∧
      (lib.aesCryptCbc context direction iv input).iv = iv ∧
      (lib.aesCryptCbc context direction iv input).output = []

/-- Longest message of a GCM session in bytes. -/
def gcmLimit : Nat := 0xFFFFFFFE0

/-- The GCM functions are streaming AES-GCM for updates whose length is a multiple of sixteen except
the last.  `streams context direction key nonce aad done` says that a session was started with those
parameters and that its ciphertext so far is `done`. -/
structure GcmLaws (lib : Mbedtls) (aes : BlockCipher Bytes Block)
    (keyed : lib.GcmContext → Bytes → Prop)
    (streams : lib.GcmContext → Direction → Bytes → Block → Bytes → Bytes → Prop) : Prop where
  setkey : ∀ context key, key.length = 32 →
    (lib.gcmSetkey (lib.gcmInit context) key).1 = 0 ∧
      keyed (lib.gcmSetkey (lib.gcmInit context) key).2 key
  starts : ∀ {context key}, keyed context key → ∀ direction nonce aad,
    (lib.gcmStarts context direction nonce aad).1 = 0 ∧
      streams (lib.gcmStarts context direction nonce aad).2 direction key nonce aad []
  update : ∀ {context direction key nonce aad done},
    streams context direction key nonce aad done → 16 ∣ done.length →
    ∀ input, done.length + input.length ≤ gcmLimit →
      (lib.gcmUpdate context input).rv = 0 ∧
        (lib.gcmUpdate context input).output = Gcm.crypt aes key nonce done.length input ∧
        streams (lib.gcmUpdate context input).context direction key nonce aad
          (done ++ Gcm.ciphertext aes key nonce done.length input direction)
  finish : ∀ {context direction key nonce aad done},
    streams context direction key nonce aad done →
      (lib.gcmFinish context).rv = 0 ∧
        (lib.gcmFinish context).tag = Gcm.tag aes key nonce aad done

end Mbedtls
end TaRef
