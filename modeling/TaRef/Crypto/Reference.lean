import TaRef.Crypto.Mbedtls
import Mathlib.Logic.Equiv.Basic

/-!
# A software instance of the library

For every block cipher there is an instance of the mbedtls interface that satisfies its laws, so the
laws are consistent.  `vectorCipher` is a permutation that agrees with AES-256 on the blocks of a
published example; with it the instance computes what the library does on those blocks.
-/

namespace TaRef

/-- A block cipher from a family of permutations. -/
def BlockCipher.ofPerm {κ β : Type*} (permutation : κ → Equiv.Perm β) : BlockCipher κ β where
  encrypt key := permutation key
  decrypt key := (permutation key).symm
  decrypt_encrypt key block := (permutation key).symm_apply_apply block
  encrypt_decrypt key block := (permutation key).apply_symm_apply block

/-- A GCM session: key, direction, nonce, additional data and ciphertext so far. -/
structure ReferenceGcm where
  key : Bytes
  direction : Direction
  nonce : Block
  aad : Bytes
  ciphertext : Bytes

namespace ReferenceGcm

/-- Process the next bytes of a session, within the length limit. -/
def update (aes : BlockCipher Bytes Block) (context : ReferenceGcm) (input : Bytes) :
    GcmUpdate ReferenceGcm :=
  if context.ciphertext.length + input.length ≤ Mbedtls.gcmLimit then
    let position := context.ciphertext.length
    let ciphertext := context.ciphertext ++
      Gcm.ciphertext aes context.key context.nonce position input context.direction
    { rv := 0
      context := { context with ciphertext }
      output := Gcm.crypt aes context.key context.nonce position input }
  else { rv := -0x0014, context, output := [] }

/-- Context of a session with the given parameters and progress. -/
def Streams (context : ReferenceGcm) (direction : Direction) (key : Bytes) (nonce : Block)
    (aad ciphertext : Bytes) : Prop :=
  context = { key, direction, nonce, aad, ciphertext }

end ReferenceGcm

namespace Mbedtls

/-- The instance over a block cipher.  An AES context is the key that was expanded into it.  A
context without a key has no round keys to follow: the library may not be given data for it, and the
instance refuses such data. -/
def reference (aes : BlockCipher Bytes Block) : Mbedtls where
  AesContext := Option Bytes
  aesZero := none
  aesInit _ := none
  aesFree _ := none
  aesSetkeyEnc _ key := some key
  aesSetkeyDec _ key := some key
  aesCryptCbc context direction iv input :=
    match context with
    | some key =>
        if Aligned input then
          { rv := 0
            iv := Cbc.chainAfter aes key direction iv (toBlocks input)
            output := joinBlocks (Cbc.crypt aes key direction iv (toBlocks input)) }
        else { rv := -0x0022, iv, output := [] }
    | none => { rv := if input = [] then 0 else -0x0022, iv, output := [] }
  GcmContext := ReferenceGcm
  gcmZero := ⟨[], .encrypt, Block.zero, [], []⟩
  gcmInit _ := ⟨[], .encrypt, Block.zero, [], []⟩
  gcmSetkey context key := (0, { context with key })
  gcmStarts context direction nonce aad :=
    (0, { context with direction, nonce, aad, ciphertext := [] })
  gcmUpdate := ReferenceGcm.update aes
  gcmFinish context :=
    { rv := 0, context
      tag := Gcm.tag aes context.key context.nonce context.aad context.ciphertext }

theorem reference_cbcLaws (aes : BlockCipher Bytes Block) : (reference aes).CbcLaws aes where
  crypt context key direction iv input aligned := by
    cases direction <;> simp [reference, aesSetkey, aligned]
  empty context direction iv := by
    cases context with
    | none => rfl
    | some key => simp [reference, Aligned]
  unaligned context direction iv input unaligned := by
    have input_ne : input ≠ [] := by
      rintro rfl
      exact unaligned (Dvd.intro_left 0 rfl)
    cases context with
    | none => simp [reference, input_ne]
    | some key => simp [reference, unaligned]

theorem reference_gcmLaws (aes : BlockCipher Bytes Block) :
    (reference aes).GcmLaws aes (fun context key => context.key = key)
      ReferenceGcm.Streams where
  setkey context key _ := ⟨rfl, rfl⟩
  starts := by
    rintro context _ rfl direction nonce aad
    exact ⟨rfl, rfl⟩
  update := by
    rintro _ direction key nonce aad done rfl _ input fits
    simp [reference, ReferenceGcm.update, fits, ReferenceGcm.Streams]
  finish := by
    rintro _ direction key nonce aad done rfl
    exact ⟨rfl, rfl⟩

end Mbedtls

/-! ## Published blocks of AES-256 -/

/-- The block with the digits of a number in base 256. -/
def blockOf (word : Nat) : Block := Gcm.ofWord (BitVec.ofNat 128 word)

/-- The key of the published example. -/
def vectorKey : Bytes := (List.range 32).map UInt8.ofNat

def vectorPlain : Block := blockOf 0x00112233445566778899aabbccddeeff
def vectorCipherBlock : Block := blockOf 0x8ea2b7ca516745bfeafc49904b496089

/-- AES-256 under the example key: the example block, the example block masked with its ciphertext,
and the three blocks that GCM enciphers for a message of one block under a nonce of zeros. -/
def vectorPairs : List (Block × Block) :=
  [(vectorPlain, vectorCipherBlock),
    (blockOf 0x8eb395f9153223c86265e32b87948e76, blockOf 0xb6ac2f11b522ecb5d26ffc21280d647b),
    (Block.zero, blockOf 0xf29000b62a499fd0a9f39a6add2e7780),
    (blockOf 0xfd20c1d9aba4f3762556f1d1488d4ff2, blockOf 0x56d4352cf736c5da72108d33917df4a5),
    (blockOf 0xfd20c1d9aba4f3762556f1d1488d4ff3, blockOf 0xc8be583ab5c50ed41a757af073cc3807)]

/-- A cipher with the published values under the example key, and the identity elsewhere. -/
def vectorCipher : BlockCipher Bytes Block :=
  .ofPerm fun key =>
    if key = vectorKey then
      (vectorPairs.map fun pair => Equiv.swap pair.1 pair.2).foldr
        (fun first rest => first * rest) 1
    else 1

theorem vectorCipher_encrypt :
    ∀ pair ∈ vectorPairs, vectorCipher.encrypt vectorKey pair.1 = pair.2 := by
  decide +kernel

end TaRef
