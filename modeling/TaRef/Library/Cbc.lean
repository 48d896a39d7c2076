import TaRef.Library.Machine

/-!
# Cipher block chaining

Chaining over any type of blocks with a cancellable mask and any keyed permutation of it.  Either
direction is one machine whose state is the chaining value, so the laws of chunked processing are
the laws of concatenated runs.
-/

namespace TaRef

/-- A keyed permutation of blocks. -/
structure BlockCipher (κ β : Type*) where
  /-- Forward permutation. -/
  encrypt : κ → β → β
  /-- Inverse permutation. -/
  decrypt : κ → β → β
  decrypt_encrypt : ∀ key block, decrypt key (encrypt key block) = block
  encrypt_decrypt : ∀ key block, encrypt key (decrypt key block) = block

/-- A mask that undoes itself. -/
class Mask (β : Type*) where
  mask : β → β → β
  mask_mask : ∀ block pad, mask (mask block pad) pad = block

/-- Direction of a cipher. -/
inductive Direction
  | encrypt
  | decrypt
  deriving DecidableEq, Repr

namespace Cbc

open Mask

variable {κ β : Type*} [Mask β]

/-- Process one block and replace the chaining value by the ciphertext block. -/
def step (cipher : BlockCipher κ β) (key : κ) : Direction → β → β → β × β
  | .encrypt, chain, block =>
      (cipher.encrypt key (mask block chain), cipher.encrypt key (mask block chain))
  | .decrypt, chain, block => (mask (cipher.decrypt key block) chain, block)

/-- Blocks produced from a chaining value. -/
def crypt (cipher : BlockCipher κ β) (key : κ) (direction : Direction) : β → List β → List β :=
  Machine.outputs (step cipher key direction)

/-- Chaining value left after some blocks. -/
def chainAfter (cipher : BlockCipher κ β) (key : κ) (direction : Direction) : β → List β → β :=
  Machine.final (step cipher key direction)

variable (cipher : BlockCipher κ β) (key : κ) (direction : Direction)

@[simp]
theorem crypt_nil (chain : β) : crypt cipher key direction chain [] = [] := rfl

@[simp]
theorem chainAfter_nil (chain : β) : chainAfter cipher key direction chain [] = chain := rfl

@[simp]
theorem length_crypt (chain : β) (blocks : List β) :
    (crypt cipher key direction chain blocks).length = blocks.length :=
  Machine.length_outputs _ _ _

theorem crypt_append (chain : β) (left right : List β) :
    crypt cipher key direction chain (left ++ right) =
      crypt cipher key direction chain left ++
        crypt cipher key direction (chainAfter cipher key direction chain left) right :=
  Machine.outputs_append _ _ _ _

theorem chainAfter_append (chain : β) (left right : List β) :
    chainAfter cipher key direction chain (left ++ right) =
      chainAfter cipher key direction (chainAfter cipher key direction chain left) right :=
  Machine.final_append _ _ _ _

theorem crypt_take (chain : β) (blocks : List β) (count : Nat) :
    (crypt cipher key direction chain blocks).take count =
      crypt cipher key direction chain (blocks.take count) :=
  Machine.outputs_take _ _ _ _

theorem crypt_drop (chain : β) (blocks : List β) (count : Nat) :
    (crypt cipher key direction chain blocks).drop count =
      crypt cipher key direction (chainAfter cipher key direction chain (blocks.take count))
        (blocks.drop count) :=
  Machine.outputs_drop _ _ _ _

/-- Decryption undoes encryption from the same chaining value. -/
@[simp]
theorem decrypt_encrypt (chain : β) (blocks : List β) :
    crypt cipher key .decrypt chain (crypt cipher key .encrypt chain blocks) = blocks := by
  induction blocks generalizing chain with
  | nil => rfl
  | cons block blocks ih =>
      have tail := ih (cipher.encrypt key (mask block chain))
      simp only [crypt] at tail
      simp only [crypt, Machine.outputs_cons, step, cipher.decrypt_encrypt, mask_mask, tail]

/-- Encryption undoes decryption from the same chaining value. -/
@[simp]
theorem encrypt_decrypt (chain : β) (blocks : List β) :
    crypt cipher key .encrypt chain (crypt cipher key .decrypt chain blocks) = blocks := by
  induction blocks generalizing chain with
  | nil => rfl
  | cons block blocks ih =>
      have tail := ih block
      simp only [crypt] at tail
      simp only [crypt, Machine.outputs_cons, step, mask_mask, cipher.encrypt_decrypt, tail]

/-- Reading back a ciphertext leaves the chaining value with which it was written. -/
@[simp]
theorem chainAfter_decrypt_encrypt (chain : β) (blocks : List β) :
    chainAfter cipher key .decrypt chain (crypt cipher key .encrypt chain blocks) =
      chainAfter cipher key .encrypt chain blocks := by
  induction blocks generalizing chain with
  | nil => rfl
  | cons block blocks ih => exact ih (cipher.encrypt key (mask block chain))

/-! ## Spliced ciphertexts -/

/-- Decrypting a ciphertext that something follows. -/
theorem decrypt_encrypt_append (chain : β) (blocks rest : List β) :
    crypt cipher key .decrypt chain (crypt cipher key .encrypt chain blocks ++ rest) =
      blocks ++ crypt cipher key .decrypt (chainAfter cipher key .encrypt chain blocks) rest := by
  rw [crypt_append, decrypt_encrypt, chainAfter_decrypt_encrypt]

/-- The chaining value matters for the first block alone, but there it always does. -/
theorem decrypt_inj_chain (cancel : ∀ block : β, Function.Injective (mask block))
    (chain chain' : β) (blocks : List β) :
    crypt cipher key .decrypt chain blocks = crypt cipher key .decrypt chain' blocks ↔
      blocks = [] ∨ chain = chain' := by
  cases blocks with
  | nil => simp
  | cons block blocks =>
      constructor
      · intro same
        have heads :
            mask (cipher.decrypt key block) chain = mask (cipher.decrypt key block) chain' :=
          (List.cons.inj same).1
        exact .inr (cancel _ heads)
      · rintro (nothing | rfl)
        · exact nomatch nothing
        · rfl

/-- Replacing the first blocks of a ciphertext by the encryption of others replaces the first blocks
of the plaintext exactly when the chaining value behind them stays. -/
theorem decrypt_splice_iff (cancel : ∀ block : β, Function.Injective (mask block)) (chain : β)
    {data plain : List β} (fits : data.length ≤ plain.length) :
    crypt cipher key .decrypt chain (crypt cipher key .encrypt chain data ++
        (crypt cipher key .encrypt chain plain).drop data.length) =
          data ++ plain.drop data.length ↔
      data.length = plain.length ∨
        chainAfter cipher key .encrypt chain data =
          chainAfter cipher key .encrypt chain (plain.take data.length) := by
  have rest := decrypt_encrypt cipher key
    (chainAfter cipher key .encrypt chain (plain.take data.length)) (plain.drop data.length)
  rw [decrypt_encrypt_append, crypt_drop, List.append_cancel_left_eq]
  nth_rewrite 2 [← rest]
  rw [decrypt_inj_chain cipher key cancel, ← List.length_eq_zero_iff, length_crypt,
    List.length_drop, Nat.sub_eq_zero_iff_le]
  exact or_congr_left ⟨fun short => Nat.le_antisymm fits short, fun same => Nat.le_of_eq same.symm⟩

end Cbc
end TaRef
