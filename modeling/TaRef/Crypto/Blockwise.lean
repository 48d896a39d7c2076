import TaRef.Library.GcmParts
import TaRef.Crypto.Instances

/-!
# Messages in several calls

What the two libraries with GCM do with a message that is given in several calls, of any lengths.
mbedtls 2.x treats an update whose length is not a multiple of sixteen as the last one, and pads it;
wolfCrypt has no updates, and every call is a message of its own.
-/

namespace TaRef

/-- `streams context direction key nonce aad parts` says that a session was started with those
parameters and that its ciphertext so far is in those parts. -/
structure Mbedtls.PartsLaws (lib : Mbedtls) (aes : BlockCipher Bytes Block)
    (keyed : lib.GcmContext → Bytes → Prop)
    (streams : lib.GcmContext → Direction → Bytes → Block → Bytes → List Bytes → Prop) : Prop where
  setkey : ∀ context key, key.length = 32 →
    (lib.gcmSetkey (lib.gcmInit context) key).1 = 0 ∧
      keyed (lib.gcmSetkey (lib.gcmInit context) key).2 key
  starts : ∀ {context key}, keyed context key → ∀ direction nonce aad,
    (lib.gcmStarts context direction nonce aad).1 = 0 ∧
      streams (lib.gcmStarts context direction nonce aad).2 direction key nonce aad []
  restarts : ∀ {context direction key nonce aad parts},
    streams context direction key nonce aad parts → keyed context key
  update : ∀ {context direction key nonce aad parts},
    streams context direction key nonce aad parts →
    ∀ input, parts.flatten.length + input.length ≤ gcmLimit →
      (lib.gcmUpdate context input).rv = 0 ∧
        (lib.gcmUpdate context input).output =
          Gcm.crypt aes key nonce (Gcm.wholeBlocks (parts.map List.length)) input ∧
        streams (lib.gcmUpdate context input).context direction key nonce aad
          (parts ++ [Gcm.ciphertext aes key nonce (Gcm.wholeBlocks (parts.map List.length)) input
            direction])
  finish : ∀ {context direction key nonce aad parts},
    streams context direction key nonce aad parts →
      (lib.gcmFinish context).rv = 0 ∧
        (lib.gcmFinish context).tag = Gcm.tagOfParts aes key nonce aad parts

/-- The GCM functions are one-shot AES-GCM over their arguments. -/
structure Wolfcrypt.GcmLaws (lib : Wolfcrypt) (aes : BlockCipher Bytes Block)
    (keyed : lib.Aes → Bytes → Prop) : Prop where
  setKey : ∀ context key, key.length = 32 →
    (lib.aesGcmSetKey (lib.aesInit context) key).1 = 0 ∧
      keyed (lib.aesGcmSetKey (lib.aesInit context) key).2 key
  encrypt : ∀ {context key}, keyed context key → ∀ input nonce aad,
    (lib.aesGcmEncrypt context input nonce aad).rv = 0 ∧
      (lib.aesGcmEncrypt context input nonce aad).output = Gcm.crypt aes key nonce 0 input ∧
      (lib.aesGcmEncrypt context input nonce aad).tag =
        Gcm.tag aes key nonce aad (Gcm.crypt aes key nonce 0 input) ∧
      keyed (lib.aesGcmEncrypt context input nonce aad).context key
  decrypt : ∀ {context key}, keyed context key → ∀ input nonce supplied aad,
    ((lib.aesGcmDecrypt context input nonce supplied aad).rv = 0 ↔
        supplied = (Gcm.tag aes key nonce aad input).1) ∧
      ((lib.aesGcmDecrypt context input nonce supplied aad).rv = 0 →
        (lib.aesGcmDecrypt context input nonce supplied aad).output =
          Gcm.crypt aes key nonce 0 input)

/-! ## Instances -/

/-- A GCM session: key, direction, nonce, additional data and parts of the ciphertext so far. -/
structure ReferenceParts where
  key : Bytes
  direction : Direction
  nonce : Block
  aad : Bytes
  parts : List Bytes

namespace ReferenceParts

/-- A zeroed context. -/
def zero : ReferenceParts := ⟨[], .encrypt, Block.zero, [], []⟩

/-- Process the next part of a message, within the length limit. -/
def update (aes : BlockCipher Bytes Block) (context : ReferenceParts) (input : Bytes) :
    GcmUpdate ReferenceParts :=
  if context.parts.flatten.length + input.length ≤ Mbedtls.gcmLimit then
    let position := Gcm.wholeBlocks (context.parts.map List.length)
    { rv := 0
      context := { context with
        parts := context.parts ++
          [Gcm.ciphertext aes context.key context.nonce position input context.direction] }
      output := Gcm.crypt aes context.key context.nonce position input }
  else { rv := -0x0014, context, output := [] }

end ReferenceParts

/-- The instance over a block cipher that pads every update. -/
def Mbedtls.blockwise (aes : BlockCipher Bytes Block) : Mbedtls :=
  { Mbedtls.reference aes with
    GcmContext := ReferenceParts
    gcmZero := .zero
    gcmInit := fun _ => .zero
    gcmSetkey := fun context key => (0, { context with key })
    gcmStarts := fun context direction nonce aad =>
      (0, { context with direction, nonce, aad, parts := [] })
    gcmUpdate := ReferenceParts.update aes
    gcmFinish := fun context =>
      { rv := 0, context
        tag := Gcm.tagOfParts aes context.key context.nonce context.aad context.parts } }

theorem Mbedtls.blockwise_partsLaws (aes : BlockCipher Bytes Block) :
    (Mbedtls.blockwise aes).PartsLaws aes (fun context key => context.key = key)
      fun context direction key nonce aad parts =>
        context = { key, direction, nonce, aad, parts } where
  setkey _ _ _ := ⟨rfl, rfl⟩
  starts := by
    rintro context _ rfl direction nonce aad
    exact ⟨rfl, rfl⟩
  restarts := by
    rintro _ direction key nonce aad parts rfl
    rfl
  update := by
    rintro _ direction key nonce aad parts rfl input fits
    have run : (blockwise aes).gcmUpdate { key, direction, nonce, aad, parts } input = _ :=
      if_pos fits
    rw [run]
    exact ⟨rfl, rfl, rfl⟩
  finish := by
    rintro _ direction key nonce aad parts rfl
    exact ⟨rfl, rfl⟩

theorem Wolfcrypt.reference_gcmLaws (aes : BlockCipher Bytes Block) (hash : Bytes → Bytes) :
    (Wolfcrypt.reference aes hash).GcmLaws aes fun context key => context.key = key where
  setKey _ _ _ := ⟨rfl, rfl⟩
  encrypt := by
    rintro context _ rfl input nonce aad
    exact ⟨rfl, rfl, rfl, rfl⟩
  decrypt := by
    rintro context _ rfl input nonce supplied aad
    refine ⟨?_, fun _ => rfl⟩
    by_cases same : (Gcm.tag aes context.key nonce aad input).1 = supplied
    · simp [reference, same]
    · simp [reference, same, Ne.symm same]

/-- A cipher whose hash key is the one of the field. -/
def oneCipher : BlockCipher Bytes Block :=
  .ofPerm fun _ => Equiv.swap Block.zero (Gcm.ofWord (BitVec.twoPow 128 127))

theorem hashKey_oneCipher (key : Bytes) : Gcm.hashKey oneCipher key = BitVec.twoPow 128 127 :=
  (congrArg Gcm.toWord (Equiv.swap_apply_left _ _)).trans (Gcm.toWord_ofWord _)

end TaRef
