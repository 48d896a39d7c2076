import TaRef.Operation.DigestSession

/-!
# Reusing a digest operation

`TEE_DigestDoFinal` leaves the reset of the operation to the library.  wolfCrypt starts a new hash;
tiny_sha3 leaves the padded and permuted context, and the next message is absorbed on top of it.
-/

namespace TaRef

/-- A step with a chunk of the message. -/
def DigestStep.IsUpdate : DigestStep → Prop
  | update _ _ _ => True
  | attempt _ _ _ _ _ => False

/-- A message, in chunks for `TEE_DigestUpdate` and a last one for `TEE_DigestDoFinal`. -/
structure DigestMessage extends DigestSession where
  updates : ∀ step ∈ steps, step.IsUpdate

/-- A new digest operation. -/
structure NewDigest (backend : Backend) where
  allocation : Option backend.Operation
  maxKeySize : UInt32
  handle : backend.Operation
  allocated : teeAllocateOperation backend allocation teeAlgSha256 teeModeDigest maxKeySize =
    (.success, some handle)

namespace CryptLib

/-- The hash library of a build computes a hash, and leaves its context as that library does. -/
def HashLaws (hash : Bytes → Bytes) : CryptLib → Prop
  | wolfcrypt lib => ∃ absorbs, lib.sha3.Laws hash absorbs ∧ lib.sha3.Reinitialises absorbs
  | mbedcrypt _ sha3 _ | tiny _ sha3 _ _ =>
      ∃ absorbs, sha3.Laws hash absorbs ∧ sha3.PadsInPlace

end CryptLib

variable {backend : Backend}

/-- The digest of a message on a new operation. -/
def DigestMessage.digest (message : DigestMessage) (new : NewDigest backend) : Bytes :=
  (message.result new.handle).memory.read message.hash shaLength

/-- One after the other on a handle, every message gets the digest it gets on a new one. -/
def HashedAlike (operation : backend.Operation) (new : NewDigest backend)
    (messages : List DigestMessage) : Prop :=
  Machine.Along (fun operation message => DigestSession.perform operation message.toDigestSession)
    (fun _ message output => message.Delivers output (message.digest new)) (some operation) messages

/-- New digest operations of a build can be reused for some messages. -/
def CryptLib.Reuses (build : CryptLib) (messages : List DigestMessage) : Prop :=
  ∀ used new : NewDigest build.backend, HashedAlike used.handle new messages

/-- No final call comes before the last one. -/
theorem DigestMessage.failing (message : DigestMessage) (operation : Option backend.Operation) :
    Machine.Along Operation.step (fun _ => Operation.FailsFinal) operation message.calls := by
  have updates := message.updates
  unfold DigestSession.calls
  generalize message.steps = steps at updates
  induction steps generalizing operation with
  | nil => trivial
  | cons step steps ih =>
      refine ⟨?_, ih _ fun other member => updates other (List.mem_cons_of_mem _ member)⟩
      cases step with
      | update => trivial
      | attempt => exact absurd (updates _ List.mem_cons_self) id

section Reuse

variable {hash : Bytes → Bytes} {absorbs : backend.sha3.Context → Bytes → Prop}
  {operation : backend.Operation}

/-- On a new operation a message gets its hash. -/
theorem DigestMessage.digest_eq (laws : backend.sha3.Laws hash absorbs) (message : DigestMessage)
    (new : NewDigest backend) : message.digest new = hash message.message := by
  obtain ⟨_, _, _, _, _, _, _, _, delivers⟩ :=
    (Operation.absorbing_allocated laws new.allocated).perform laws.toAccumulates
      message.toDigestSession (message.failing _)
  exact delivers.2.2

/-- A handle that has absorbed nothing hashes a message as a new one does. -/
theorem Operation.Absorbing.delivers (laws : backend.sha3.Laws hash absorbs)
    (absorbing : Operation.Absorbing absorbs operation []) (new : NewDigest backend)
    (message : DigestMessage) :
    message.Delivers (message.result operation) (message.digest new) := by
  obtain ⟨_, _, _, _, _, _, _, _, delivers⟩ :=
    absorbing.perform laws.toAccumulates message.toDigestSession (message.failing _)
  rw [message.digest_eq laws new]
  exact delivers

/-- When the library starts a new hash after each one, any number of messages can follow. -/
theorem Operation.Absorbing.hashedAlike (laws : backend.sha3.Laws hash absorbs)
    (reinitialises : backend.sha3.Reinitialises absorbs)
    (absorbing : Operation.Absorbing absorbs operation []) (new : NewDigest backend)
    (messages : List DigestMessage) : HashedAlike operation new messages := by
  induction messages generalizing operation with
  | nil => trivial
  | cons message messages ih =>
      obtain ⟨_, context, after, after_eq, mode, alg, ctx, held, _⟩ :=
        absorbing.perform laws.toAccumulates message.toDigestSession (message.failing _)
      refine ⟨absorbing.delivers laws new message, ?_⟩
      rw [after_eq]
      refine ih ⟨mode, alg, ?_⟩
      rw [ctx]
      exact reinitialises held

/-- When the context left behind hashes to something else, the second message gets another
digest. -/
theorem not_hashedAlike_of_leavesStale {other : Bytes → Bytes}
    (leaves : backend.sha3.LeavesStale hash other)
    (differs : ∀ message, other message ≠ hash message)
    (used new : NewDigest backend) (first second : DigestMessage) (messages : List DigestMessage) :
    ¬ HashedAlike used.handle new (first :: second :: messages) := by
  rintro ⟨_, delivers, _⟩
  obtain ⟨absorbs, stale, laws, accumulates, leaves⟩ := leaves
  obtain ⟨_, context, after, after_eq, mode, alg, ctx, held, _⟩ :=
    (Operation.absorbing_allocated laws used.allocated).perform laws.toAccumulates
      first.toDigestSession (first.failing _)
  rw [after_eq] at delivers
  have dirty : Operation.Absorbing stale after [] := by
    refine ⟨mode, alg, ?_⟩
    rw [ctx]
    exact leaves _ _ held
  obtain ⟨_, _, _, _, _, _, _, _, delivers'⟩ :=
    dirty.perform accumulates second.toDigestSession (second.failing _)
  have same : other second.message = hash second.message := by
    rw [← second.digest_eq laws new]
    exact delivers'.2.2.symm.trans delivers.2.2
  exact differs _ same

end Reuse

/-- The hash library of a build computes the hash. -/
theorem CryptLib.HashLaws.laws {build : CryptLib} {hash : Bytes → Bytes}
    (laws : build.HashLaws hash) : ∃ absorbs, build.backend.sha3.Laws hash absorbs := by
  cases build <;>
  · obtain ⟨absorbs, laws, _⟩ := laws
    exact ⟨absorbs, laws⟩

/-- A new operation from zeroed memory. -/
def NewDigest.ofZeroed (backend : Backend) : NewDigest backend where
  allocation := some (Operation.fresh backend 0 0)
  maxKeySize := 0
  handle := { Operation.fresh backend teeAlgSha256 teeModeDigest with
    ctx := backend.digestInit backend.zeroDigest }
  allocated := rfl

/-- The builds with tiny_sha3, over an instance that is left padded. -/
def CryptLib.marking : Kind → CryptLib
  | .tiny => .tiny (.reference vectorCipher) .marking .reference 0
  | _ => .mbedcrypt (.reference vectorCipher) .marking .reference

/-- With the instance that is left padded, a second message does not get its hash. -/
theorem CryptLib.not_reuses_marking (kind : Kind) (first second : DigestMessage)
    (messages : List DigestMessage) :
    ¬ (CryptLib.marking kind).Reuses (first :: second :: messages) := by
  have differs : ∀ message, Sha3.staleHash ≠ vectorHash message := by
    intro message same
    unfold vectorHash at same
    split_ifs at same <;> exact absurd same (by decide)
  have leaves : (CryptLib.marking kind).backend.sha3.LeavesStale vectorHash
      fun _ => Sha3.staleHash := by
    cases kind <;> exact Sha3.marking_leavesStale
  exact fun reuses => not_hashedAlike_of_leavesStale leaves differs (.ofZeroed _) (.ofZeroed _)
    first second messages (reuses (.ofZeroed _) (.ofZeroed _))

/-- Digest operations can be reused for some messages, whatever the libraries, exactly in the build
with wolfCrypt, or for no more than one message. -/
theorem digest_reuse_iff (kind : CryptLib.Kind) (messages : List DigestMessage) :
    (∀ (build : CryptLib) (hash : Bytes → Bytes), build.kind = kind → build.HashLaws hash →
      build.Reuses messages) ↔ kind = .wolfcrypt ∨ messages.length ≤ 1 := by
  constructor
  · intro reuses
    by_contra neither
    obtain ⟨not_wolf, several⟩ := not_or.mp neither
    match messages with
    | [] => exact several (Nat.zero_le 1)
    | [_] => exact several (Nat.le_refl 1)
    | first :: second :: messages =>
        refine CryptLib.not_reuses_marking kind first second messages
          (reuses (.marking kind) vectorHash ?_ ?_)
        · cases kind with
          | wolfcrypt => exact absurd rfl not_wolf
          | mbedcrypt | tiny => rfl
        · cases kind <;> exact ⟨_, Sha3.marking_laws, Sha3.marking_padsInPlace⟩
  · rintro condition build hash rfl laws used new
    obtain ⟨absorbs, hashes⟩ := laws.laws
    match messages, condition with
    | [], _ => trivial
    | [message], _ =>
        exact ⟨(Operation.absorbing_allocated hashes used.allocated).delivers hashes new message,
          trivial⟩
    | first :: second :: messages, .inl wolf =>
        cases build with
        | wolfcrypt lib =>
            obtain ⟨absorbs, laws, reinitialises⟩ := laws
            have hashes : (Backend.wolfcrypt lib).sha3.Laws hash absorbs := laws
            exact (Operation.absorbing_allocated hashes used.allocated).hashedAlike hashes
              reinitialises new _
        | mbedcrypt | tiny => cases wolf
    | _ :: _ :: _, .inr few => simp at few

/-- The empty message. -/
def vectorEmptyMessage : DigestMessage where
  steps := []
  memory := fun _ => 0
  chunk := none
  chunkLen := 0
  hash := 64
  hashLen := 32
  null := fun _ => rfl
  room := vectorDigestSession.room
  updates := by
    intro step member
    cases member

/-- The empty message twice: the second digest is `Sha3.staleHash`, which is what the library makes
of the context that the first final call has left. -/
theorem digest_reuse_fails :
    let build := CryptLib.marking .mbedcrypt
    build.HashLaws vectorHash ∧ ¬ build.Reuses [vectorEmptyMessage, vectorEmptyMessage] := by
  refine ⟨⟨_, Sha3.marking_laws, Sha3.marking_padsInPlace⟩, fun reuses => ?_⟩
  have second := (reuses (.ofZeroed _) (.ofZeroed _)).2.1.2.2
  exact absurd second (by decide +kernel)

end TaRef
