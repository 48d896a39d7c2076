import TaRef.Crypto.Bundled
import TaRef.Crypto.Reference

/-!
# Software instances of the other libraries

As for mbedtls, there is an instance of each interface that satisfies its laws.  The hash and the
signature scheme take the values of published examples on the examples' inputs.
-/

namespace TaRef

/-- The bytes of a number, most significant first. -/
def bytesOf (count word : Nat) : Bytes :=
  (List.range count).map fun index => UInt8.ofNat (word / 256 ^ (count - 1 - index))

/-- A hash function as a library that collects the message. -/
def Sha3.reference (hash : Bytes → Bytes) : Sha3 where
  Context := Bytes
  zero := []
  init _ := []
  update message input := message ++ input
  final message := (hash message, message)

/-- The bytes that the digest sample hashes. -/
def vectorMessage : Bytes := (List.range 16).map UInt8.ofNat

/-- SHA3-256 on the empty message and on the message of the sample. -/
def vectorHash (message : Bytes) : Bytes :=
  if message = [] then
    bytesOf 32 0xa7ffc6f8bf1ed76651c14756a061d662f580ff4de43b49fa82d80a4b80f8434a
  else if message = vectorMessage then
    bytesOf 32 0x39462d2a2320f8da572a97b0b39473d4312e0228b23e2c2fe0ae9b6c67f2343c
  else List.replicate 32 0

def vectorSeed : Bytes :=
  bytesOf 32 0x9d61b19deffd5a60ba844af492ec2cc44449c5697b326919703bac031cae7f60

theorem length_vectorSeed : vectorSeed.length = 32 := rfl

def vectorPublic : Bytes :=
  bytesOf 32 0xd75a980182b10ab7d54bfed3c964073a0ee172f3daa62325af021a68f707511a

/-- The expanded private key, as the library stores it. -/
def vectorPrivate : Bytes :=
  bytesOf 32 0x307c83864f2833cb427a2ef1c00a013cfdff2768d980c0a3a520f006904de94f ++
    bytesOf 32 0x9b4f0afe280b746a778684e75442502057b7473a03f08f96f5a38e9287e01f8f

/-- The signature of the empty message. -/
def vectorSignature : Bytes :=
  bytesOf 32 0xe5564300c360ac729086e2cc806e828a84877f1eb8e5d974d873e06522490155 ++
    bytesOf 32 0x5fb8821590a33bacc61e39701cf9b46bd25bf5f0595bbe24655141438e7a100b

/-- A signature scheme with the published example. -/
def Ed25519.reference : Ed25519 where
  createKeypair seed :=
    if seed = vectorSeed then (vectorPublic, vectorPrivate) else (seed, seed ++ seed)
  sign message publicKey _ :=
    if message = [] ∧ publicKey = vectorPublic then vectorSignature else publicKey ++ publicKey
  verify signature message publicKey :=
    signature ==
      if message = [] ∧ publicKey = vectorPublic then vectorSignature else publicKey ++ publicKey

/-- A key schedule with a direction and a chaining value. -/
structure ReferenceCbc where
  key : Bytes
  direction : Direction
  chain : Block

namespace ReferenceCbc

/-- A zeroed context. -/
def zero : ReferenceCbc := ⟨[], .encrypt, Block.zero⟩

/-- Process whole blocks in one direction. -/
def crypt (aes : BlockCipher Bytes Block) (direction : Direction) (context : ReferenceCbc)
    (input : Bytes) : ReferenceCbc × Bytes :=
  ({ context with
      chain := Cbc.chainAfter aes context.key direction context.chain (toBlocks input) },
    joinBlocks (Cbc.crypt aes context.key direction context.chain (toBlocks input)))

/-- The context has the key schedule and the chaining value. -/
def Holds (context : ReferenceCbc) (key : Bytes) (chain : Block) : Prop :=
  context.key = key ∧ context.chain = chain

end ReferenceCbc

namespace TinyAes

/-- The instance over a block cipher. -/
def reference (aes : BlockCipher Bytes Block) : TinyAes where
  Context := ReferenceCbc
  zero := .zero
  initCtxIv _ key chain := ⟨key, .encrypt, chain⟩
  cbcEncryptBuffer := ReferenceCbc.crypt aes .encrypt
  cbcDecryptBuffer := ReferenceCbc.crypt aes .decrypt

theorem reference_cbcLaws (aes : BlockCipher Bytes Block) :
    (reference aes).CbcLaws aes ReferenceCbc.Holds where
  init _ _ _ := ⟨rfl, rfl⟩
  crypt := by
    rintro context _ _ ⟨rfl, rfl⟩ direction input _
    cases direction <;> exact ⟨rfl, rfl, rfl⟩

end TinyAes

namespace Wolfcrypt

/-- The instance over a block cipher, with the given hash.  Its signatures are those of
`Ed25519.reference`. -/
def reference (aes : BlockCipher Bytes Block) (hash : Bytes → Bytes) : Wolfcrypt where
  Aes := ReferenceCbc
  aesZero := .zero
  aesInit _ := .zero
  aesSetKey _ key chain direction := ⟨key, direction, chain⟩
  aesCbcEncrypt := ReferenceCbc.crypt aes .encrypt
  aesCbcDecrypt := ReferenceCbc.crypt aes .decrypt
  aesGcmSetKey context key := (0, { context with key })
  aesGcmEncrypt context input nonce aad :=
    let output := Gcm.crypt aes context.key nonce 0 input
    { rv := 0, context, output, tag := Gcm.tag aes context.key nonce aad output }
  aesGcmDecrypt context input nonce tag aad :=
    let computed := Gcm.tag aes context.key nonce aad input
    { rv := if computed.1 = tag then 0 else -180
      context
      output := Gcm.crypt aes context.key nonce 0 input
      tag := computed }
  Sha3 := Bytes
  sha3Zero := []
  initSha3 _ := []
  sha3Update message input := message ++ input
  sha3Final message := (hash message, [])
  Key := Bytes × Bytes
  keyZero := ([], [])
  ed25519Init _ := ([], [])
  ed25519MakeKey _ seed := Ed25519.reference.createKeypair seed
  ed25519MakePublic key := key.1
  ed25519SignMsg message key := Ed25519.reference.sign message key.1 key.2
  ed25519VerifyMsg signature message key :=
    if Ed25519.reference.verify signature message key.1 then (0, 1) else (-229, 0)

theorem reference_cbcLaws (aes : BlockCipher Bytes Block) (hash : Bytes → Bytes) :
    (reference aes hash).CbcLaws aes fun context direction key chain =>
      context.Holds key chain ∧ context.direction = direction where
  setKey _ _ _ _ := ⟨⟨rfl, rfl⟩, rfl⟩
  crypt := by
    rintro context direction _ _ ⟨⟨rfl, rfl⟩, same⟩ input _
    cases direction <;> exact ⟨rfl, ⟨rfl, rfl⟩, same⟩

end Wolfcrypt
end TaRef
