import TaRef.Library.Block
import TaRef.Library.Cbc

/-!
# Galois counter mode

Counter-mode encryption and the authentication tag over any cipher on sixteen-byte blocks, for
nonces of sixteen bytes.  The keystream is a function of the position in the message, so splitting a
message changes nothing, and encryption is its own inverse.
-/

namespace TaRef
namespace Gcm

/-- A block as a word, first byte most significant. -/
def toWord (block : Block) : BitVec 128 :=
  block.1.foldl (fun word byte => word <<< 8 ||| byte.toBitVec.setWidth 128) 0

/-- The bytes of a word, most significant first. -/
def ofWord (word : BitVec 128) : Block :=
  ⟨(List.range 16).map fun index => ⟨(word >>> (8 * (15 - index))).setWidth 8⟩, by simp⟩

/-- Multiply by the indeterminate and reduce. -/
def timesX (word : BitVec 128) : BitVec 128 :=
  if word.getLsbD 0 then word >>> 1 ^^^ (0xE1 : BitVec 128) <<< 120 else word >>> 1

/-- Product of two field elements whose first bit is the constant coefficient. -/
def multiply (left right : BitVec 128) : BitVec 128 :=
  ((List.range 128).foldl
    (fun (state : BitVec 128 × BitVec 128) index =>
      (if left.getMsbD index then state.1 ^^^ state.2 else state.1, timesX state.2))
    (0, right)).1

/-- Horner evaluation of some blocks at the hash key. -/
def ghash (hashKey : BitVec 128) (blocks : List Block) : BitVec 128 :=
  blocks.foldl (fun sum block => multiply (sum ^^^ toWord block) hashKey) 0

/-- The block of the two bit lengths. -/
def lengths (left right : Nat) : Block :=
  ofWord (BitVec.ofNat 64 (8 * left) ++ BitVec.ofNat 64 (8 * right))

variable {κ : Type*} (cipher : BlockCipher κ Block) (key : κ) (nonce : Block)

/-- The key of the hash. -/
def hashKey : BitVec 128 := toWord (cipher.encrypt key Block.zero)

/-- The counter block before the first one that masks the message. -/
def preCounter : BitVec 128 := ghash (hashKey cipher key) [nonce, lengths 0 16]

/-- The counter block that masks message block `index`; the last four bytes count. -/
def counterBlock (index : Nat) : BitVec 128 :=
  let start := preCounter cipher key nonce
  (start.extractLsb' 32 96) ++ (start.extractLsb' 0 32 + BitVec.ofNat 32 (index + 1))

/-- Keystream byte of a message position. -/
def keystream (position : Nat) : UInt8 :=
  (cipher.encrypt key (ofWord (counterBlock cipher key nonce (position / 16)))).1.getD
    (position % 16) 0

/-- Encrypt or decrypt the bytes of a message from a position on. -/
def crypt (position : Nat) (bytes : Bytes) : Bytes :=
  bytes.mapIdx fun index byte => byte ^^^ keystream cipher key nonce (position + index)

/-- The ciphertext side of the bytes given to one direction. -/
def ciphertext (position : Nat) (input : Bytes) : Direction → Bytes
  | .encrypt => crypt cipher key nonce position input
  | .decrypt => input

/-- Authentication tag of a ciphertext with additional data. -/
def tag (aad ciphertext : Bytes) : Block :=
  ofWord (ghash (hashKey cipher key)
      (padded aad ++ padded ciphertext ++ [lengths aad.length ciphertext.length]) ^^^
    toWord (cipher.encrypt key (ofWord (preCounter cipher key nonce))))

@[simp]
theorem crypt_nil (position : Nat) : crypt cipher key nonce position [] = [] := rfl

@[simp]
theorem length_crypt (position : Nat) (bytes : Bytes) :
    (crypt cipher key nonce position bytes).length = bytes.length := by
  simp [crypt]

/-- Cutting a message in two cuts its ciphertext in two. -/
theorem crypt_append (position : Nat) (left right : Bytes) :
    crypt cipher key nonce position (left ++ right) =
      crypt cipher key nonce position left ++
        crypt cipher key nonce (position + left.length) right := by
  have shifted : ∀ index, position + (index + left.length) = position + left.length + index :=
    fun index => by omega
  simp only [crypt, List.mapIdx_append, shifted]

/-- Masking twice with the same keystream restores the message. -/
@[simp]
theorem crypt_crypt (position : Nat) (bytes : Bytes) :
    crypt cipher key nonce position (crypt cipher key nonce position bytes) = bytes := by
  apply List.ext_getElem
  · simp
  · intro index _ _
    simp only [crypt, List.getElem_mapIdx]
    rw [UInt8.xor_assoc, UInt8.xor_self, UInt8.xor_zero]

/-- Two positions of one message share a counter block only when a multiple of `2 ^ 32` blocks lies
between them. -/
theorem counterBlock_inj {left right : Nat} :
    counterBlock cipher key nonce left = counterBlock cipher key nonce right ↔
      left % 2 ^ 32 = right % 2 ^ 32 := by
  simp only [counterBlock]
  constructor
  · intro equality
    have low := congrArg (BitVec.extractLsb' 0 32) equality
    simp only [BitVec.extractLsb'_append_eq_right] at low
    have counts := (BitVec.add_right_inj _).mp low
    have values := congrArg BitVec.toNat counts
    simp only [BitVec.toNat_ofNat] at values
    omega
  · intro equality
    have counts : BitVec.ofNat 32 (left + 1) = BitVec.ofNat 32 (right + 1) := by
      apply BitVec.eq_of_toNat_eq
      simp only [BitVec.toNat_ofNat]
      omega
    rw [counts]

end Gcm
end TaRef
