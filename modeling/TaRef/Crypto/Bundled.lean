import TaRef.Crypto.Mbedtls

/-!
# The other libraries

The interfaces of tiny_sha3, ed25519, tiny-AES and wolfCrypt, which are submodules that the
repository does not contain, and what their documentation promises of CBC on whole blocks.
-/

namespace TaRef

/-- tiny_sha3. -/
structure Sha3 where
  Context : Type
  zero : Context
  init : Context → Context
  update : Context → Bytes → Context
  final : Context → Bytes × Context

/-- ed25519. -/
structure Ed25519 where
  /-- Public and private key from a seed. -/
  createKeypair : Bytes → Bytes × Bytes
  /-- Signature of a message under a public and a private key. -/
  sign : Bytes → Bytes → Bytes → Bytes
  /-- Whether a signature of a message is valid under a public key. -/
  verify : Bytes → Bytes → Bytes → Bool

/-- tiny-AES. -/
structure TinyAes where
  Context : Type
  zero : Context
  initCtxIv : Context → Bytes → Block → Context
  cbcEncryptBuffer : Context → Bytes → Context × Bytes
  cbcDecryptBuffer : Context → Bytes → Context × Bytes

namespace TinyAes

/-- Process a buffer in one direction. -/
def cbcBuffer (lib : TinyAes) : Direction → lib.Context → Bytes → lib.Context × Bytes
  | .encrypt => lib.cbcEncryptBuffer
  | .decrypt => lib.cbcDecryptBuffer

/-- CBC over a block cipher: `holds context key chain` says that the context has the key schedule
of `key` and the chaining value `chain`. -/
structure CbcLaws (lib : TinyAes) (aes : BlockCipher Bytes Block)
    (holds : lib.Context → Bytes → Block → Prop) : Prop where
  init : ∀ context key iv, holds (lib.initCtxIv context key iv) key iv
  crypt : ∀ {context key chain}, holds context key chain → ∀ direction input, Aligned input →
    (lib.cbcBuffer direction context input).2 =
        joinBlocks (Cbc.crypt aes key direction chain (toBlocks input)) ∧
      holds (lib.cbcBuffer direction context input).1 key
        (Cbc.chainAfter aes key direction chain (toBlocks input))

end TinyAes

/-- Return value of a GCM call of wolfCrypt, with its context, output and tag. -/
structure WolfGcm (Context : Type) where
  rv : Int
  context : Context
  output : Bytes
  tag : Block

/-- wolfCrypt. -/
structure Wolfcrypt where
  Aes : Type
  aesZero : Aes
  aesInit : Aes → Aes
  aesSetKey : Aes → Bytes → Block → Direction → Aes
  aesCbcEncrypt : Aes → Bytes → Aes × Bytes
  aesCbcDecrypt : Aes → Bytes → Aes × Bytes
  aesGcmSetKey : Aes → Bytes → Int × Aes
  /-- Context, input, iv and additional data. -/
  aesGcmEncrypt : Aes → Bytes → Block → Bytes → WolfGcm Aes
  /-- Context, input, iv, tag and additional data. -/
  aesGcmDecrypt : Aes → Bytes → Block → Bytes → Bytes → WolfGcm Aes
  Sha3 : Type
  sha3Zero : Sha3
  initSha3 : Sha3 → Sha3
  sha3Update : Sha3 → Bytes → Sha3
  sha3Final : Sha3 → Bytes × Sha3
  Key : Type
  keyZero : Key
  ed25519Init : Key → Key
  ed25519MakeKey : Key → Bytes → Key
  ed25519MakePublic : Key → Bytes
  ed25519SignMsg : Bytes → Key → Bytes
  /-- Return value and `*res` for a signature of a message. -/
  ed25519VerifyMsg : Bytes → Bytes → Key → Int × Int

namespace Wolfcrypt

/-- Process a buffer in one direction. -/
def aesCbc (lib : Wolfcrypt) : Direction → lib.Aes → Bytes → lib.Aes × Bytes
  | .encrypt => lib.aesCbcEncrypt
  | .decrypt => lib.aesCbcDecrypt

/-- CBC over a block cipher: `holds context direction key chain` says that the context has the key
schedule of `key` for one direction and the chaining value `chain`. -/
structure CbcLaws (lib : Wolfcrypt) (aes : BlockCipher Bytes Block)
    (holds : lib.Aes → Direction → Bytes → Block → Prop) : Prop where
  setKey : ∀ context key iv direction,
    holds (lib.aesSetKey (lib.aesInit context) key iv direction) direction key iv
  crypt : ∀ {context direction key chain}, holds context direction key chain →
    ∀ input, Aligned input →
      (lib.aesCbc direction context input).2 =
          joinBlocks (Cbc.crypt aes key direction chain (toBlocks input)) ∧
        holds (lib.aesCbc direction context input).1 direction key
          (Cbc.chainAfter aes key direction chain (toBlocks input))

end Wolfcrypt
end TaRef
