import TaRef.Operation.Specification

/-!
# Output capacities

Six functions take the size of the output buffer in the parameter in which they return how much they
stored.  None of them reads it: whatever the capacity, the call does what it does with enough room,
and no call reports a short buffer.
-/

namespace TaRef

variable {backend : Backend}

/-- A call of one of the six functions, without the value of `*destLen` (or `*signatureLen`). -/
inductive BoundedCall
  | cipherUpdate (buffers : Buffers)
  | cipherDoFinal (buffers : Buffers)
  | aeUpdate (buffers : Buffers)
  | aeEncryptFinal (buffers : Buffers) (tag tagLen : Option Nat)
  | aeDecryptFinal (buffers : Buffers) (tag : Option Nat) (tagLen : Nat)
  | signDigest (digest digestLen signature : Nat)

namespace BoundedCall

/-- The call with a capacity.  `TEE_CipherUpdate`, `TEE_CipherDoFinal` and
`TEE_AsymmetricSignDigest` do not look at the parameter before they write it. -/
def within (capacity : Nat) : BoundedCall → OperationCall backend
  | cipherUpdate buffers => .cipherUpdate buffers
  | cipherDoFinal buffers => .cipherDoFinal buffers
  | aeUpdate buffers => .aeUpdate buffers (some capacity)
  | aeEncryptFinal buffers tag tagLen => .aeEncryptFinal buffers (some capacity) tag tagLen
  | aeDecryptFinal buffers tag tagLen => .aeDecryptFinal buffers (some capacity) tag tagLen
  | signDigest digest digestLen signature => .signDigest digest digestLen signature

/-- The longest output of the call. -/
def length : BoundedCall → Nat
  | cipherUpdate buffers | cipherDoFinal buffers | aeUpdate buffers => buffers.srcLen
  | aeEncryptFinal buffers _ _ | aeDecryptFinal buffers _ _ => buffers.srcLen
  | signDigest _ _ _ => sigLength

/-- What the call does with a capacity. -/
def perform (call : BoundedCall) (capacity : Nat) (operation : backend.Operation)
    (memory : Memory) : OperationOutput × backend.Operation :=
  Invocation.perform { memory, call := call.within capacity } operation

/-- How many bytes the call produces when there is room for its longest output. -/
def produces (call : BoundedCall) (operation : backend.Operation) (memory : Memory) : Nat :=
  (call.perform call.length operation memory).1.destLen.getD 0

/-- If the call would produce more than the capacity, it reports a short buffer, writes nothing and
leaves the handle. -/
def RespectsCapacity (call : BoundedCall) (capacity : Nat) (operation : backend.Operation)
    (memory : Memory) : Prop :=
  capacity < call.produces operation memory →
    (call.perform capacity operation memory).1.exit = .returned .errorShortBuffer ∧
      (call.perform capacity operation memory).1.memory = memory ∧
      (call.perform capacity operation memory).2 = operation

/-- The capacity makes no difference. -/
theorem perform_eq (call : BoundedCall) (capacity other : Nat) (operation : backend.Operation)
    (memory : Memory) :
    call.perform capacity operation memory = call.perform other operation memory := by
  cases call with
  | aeUpdate buffers => simp [perform, within, Invocation.perform, teeAEUpdate]
  | aeEncryptFinal buffers tag tagLen =>
      simp [perform, within, Invocation.perform, teeAEEncryptFinal]
  | aeDecryptFinal buffers tag tagLen =>
      simp [perform, within, Invocation.perform, teeAEDecryptFinal]
  | cipherUpdate | cipherDoFinal | signDigest => rfl

/-- No call reports a short buffer. -/
theorem perform_ne_errorShortBuffer (call : BoundedCall) (capacity : Nat)
    (operation : backend.Operation) (memory : Memory) :
    (call.perform capacity operation memory).1.exit ≠ .returned .errorShortBuffer := by
  intro short
  cases call with
  | cipherUpdate buffers | cipherDoFinal buffers =>
      simp only [perform, within, Invocation.perform, teeCipherDoFinal, teeCipherUpdate] at short
      split at short
      · cases short
      · split at short
        · cases short
        · split at short <;> cases short
  | aeUpdate buffers =>
      simp only [perform, within, Invocation.perform] at short
      rcases Operation.teeAEUpdate_cases operation memory buffers (some capacity) with
        ⟨_, refused⟩ | ⟨_, panicked | ⟨_, _, accepted⟩⟩
      · rw [refused] at short
        cases short
      · rw [panicked] at short
        cases short
      · rw [accepted] at short
        cases short
  | aeEncryptFinal buffers tag tagLen =>
      simp only [perform, within, Invocation.perform] at short
      rcases Operation.teeAEEncryptFinal_cases operation memory buffers (some capacity) tag
          tagLen with
        ⟨_, refused⟩ | ⟨_, _, _, panicked | ⟨_, _, accepted⟩⟩
      · rw [refused] at short
        cases short
      · rw [panicked] at short
        cases short
      · rw [accepted] at short
        cases short
  | aeDecryptFinal buffers tag tagLen =>
      simp only [perform, within, Invocation.perform] at short
      rcases Operation.teeAEDecryptFinal_cases operation memory buffers (some capacity) tag
          tagLen with
        ⟨_, refused⟩ | ⟨_, _, _, panicked | ⟨_, verified, _, _, _, accepted⟩⟩
      · rw [refused] at short
        cases short
      · rw [panicked] at short
        cases short
      · rw [accepted] at short
        cases verified <;> cases short
  | signDigest digest digestLen signature =>
      simp only [perform, within, Invocation.perform, teeAsymmetricSignDigest] at short
      split at short
      · cases short
      · split at short <;> cases short

end BoundedCall

/-- A call respects the capacity exactly when its whole output fits. -/
theorem output_capacity_iff (call : BoundedCall) (capacity : Nat) (operation : backend.Operation)
    (memory : Memory) :
    call.RespectsCapacity capacity operation memory ↔
      call.produces operation memory ≤ capacity := by
  constructor
  · intro respects
    by_contra exceeds
    exact call.perform_ne_errorShortBuffer capacity operation memory
      (respects (Nat.lt_of_not_le exceeds)).1
  · intro fits exceeds
    exact absurd fits (Nat.not_le.mpr exceeds)

/-- Two bytes of room for a CBC block: the call succeeds and writes all sixteen. -/
theorem output_capacity_exceeded :
    let operation : CryptLib.reference.backend.Operation :=
      (teeCipherInit (teeSetOperationKey
        (Operation.fresh CryptLib.reference.backend teeAlgAesCbcNopad teeModeEncrypt)
        (some (Operation.vectorKeyObject CryptLib.reference.backend))).2
        Operation.vectorMemory (some 0) 16).2
    let call := BoundedCall.cipherUpdate Operation.vectorBuffers
    let output := (call.perform 2 operation Operation.vectorMemory).1
    call.produces operation Operation.vectorMemory = 16 ∧ output.exit = .returned .success ∧
      output.memory.read 32 16 = vectorCipherBlock.1 := by
  decide +kernel

end TaRef
