import TaRef.Operation.ModeSeparation

/-!
# CBC sessions

A session on a cipher operation is one `TEE_CipherInit`, some `TEE_CipherUpdate` and a last
`TEE_CipherDoFinal`.  The builds keep the chaining value in different places; what they share is a
relation between the handle and the chaining value that `TEE_CipherInit` establishes and every call
moves along the message.
-/

namespace TaRef

/-- What one processing call is given: its buffers, in the memory it finds. -/
structure Chunk where
  memory : Memory
  buffers : Buffers

namespace Chunk

/-- The bytes given to the call. -/
def input (chunk : Chunk) : Bytes := chunk.buffers.input chunk.memory

/-- The bytes that the call leaves in the destination buffer. -/
def produced (chunk : Chunk) (output : OperationOutput) : Bytes :=
  chunk.buffers.output output.memory

@[simp]
theorem length_input (chunk : Chunk) : chunk.input.length = chunk.buffers.srcLen :=
  chunk.buffers.length_input chunk.memory

end Chunk

/-- The message that is given in chunks. -/
def messageOf (chunks : List Chunk) : Bytes := (chunks.map Chunk.input).flatten

/-- The concatenated outputs of the calls on some chunks. -/
def producedBy (chunks : List Chunk) (outputs : List OperationOutput) : Bytes :=
  (List.zipWith Chunk.produced chunks outputs).flatten

@[simp]
theorem messageOf_cons (chunk : Chunk) (chunks : List Chunk) :
    messageOf (chunk :: chunks) = chunk.input ++ messageOf chunks := rfl

@[simp]
theorem producedBy_cons (chunk : Chunk) (chunks : List Chunk) (output : OperationOutput)
    (outputs : List OperationOutput) :
    producedBy (chunk :: chunks) (output :: outputs) =
      chunk.produced output ++ producedBy chunks outputs := rfl

@[simp]
theorem messageOf_append (left right : List Chunk) :
    messageOf (left ++ right) = messageOf left ++ messageOf right := by
  simp [messageOf]

/-- The length of a message with its last chunk. -/
theorem length_messageOf_append (chunks : List Chunk) (last : Chunk) :
    (messageOf (chunks ++ [last])).length = (messageOf chunks).length + last.buffers.srcLen := by
  rw [messageOf_append, List.length_append, messageOf_cons, List.length_append,
    Chunk.length_input]
  rfl

theorem producedBy_append {left right : List Chunk} {outputs outputs' : List OperationOutput}
    (lengths : outputs.length = left.length) :
    producedBy (left ++ right) (outputs ++ outputs') =
      producedBy left outputs ++ producedBy right outputs' := by
  rw [producedBy, List.zipWith_append lengths.symm, List.flatten_append]
  rfl

/-- The blocks of a build do CBC over a block cipher: `chains operation direction key chain` says
that the handle has the schedule of the key for the direction and the chaining value. -/
structure Backend.CbcLaws (backend : Backend) (aes : BlockCipher Bytes Block)
    (chains : backend.Operation → Direction → Bytes → Block → Prop) : Prop where
  init : ∀ operation nonce direction, Operation.directionOf operation.mode = some direction →
    (backend.cipherInit operation nonce).1 = .returned () ∧
      chains (backend.cipherInit operation nonce).2 direction operation.aekey nonce
  cbc : ∀ {operation direction key chain}, chains operation direction key chain →
    ∀ memory buffers, Aligned (buffers.input memory) →
      buffers.output
          (backend.cbc direction operation (backend.stageInput memory buffers) buffers).2 =
        joinBlocks (Cbc.crypt aes key direction chain (toBlocks (buffers.input memory))) ∧
      chains (backend.cbc direction operation (backend.stageInput memory buffers) buffers).1
        direction key
        (Cbc.chainAfter aes key direction chain (toBlocks (buffers.input memory)))

/-- The library of a build does CBC over a block cipher. -/
def CryptLib.CbcLaws (aes : BlockCipher Bytes Block) : CryptLib → Prop
  | .mbedcrypt lib _ _ => lib.CbcLaws aes
  | .wolfcrypt lib => ∃ holds, lib.CbcLaws aes holds
  | .tiny lib _ _ _ => ∃ holds, lib.CbcLaws aes holds

/-! ## The builds -/

theorem Buffers.output_store_crypt (buffers : Buffers) (memory memory' : Memory)
    (aes : BlockCipher Bytes Block) (key : Bytes) (direction : Direction) (chain : Block)
    (aligned : Aligned (buffers.input memory)) :
    buffers.output (buffers.store memory'
        (joinBlocks (Cbc.crypt aes key direction chain (toBlocks (buffers.input memory))))) =
      joinBlocks (Cbc.crypt aes key direction chain (toBlocks (buffers.input memory))) := by
  apply Buffers.output_store
  rw [Cbc.length_joinBlocks_crypt aes key direction chain aligned, Buffers.length_input]

/-- The copy that tiny-AES needs puts the input into the destination. -/
theorem Backend.output_copyInput (memory : Memory) (buffers : Buffers) :
    buffers.output (copyInput memory buffers) = buffers.input memory := by
  unfold copyInput
  split
  · exact buffers.output_store memory (buffers.length_input memory)
  · next same =>
      rw [Buffers.output, Buffers.input, not_not.mp same]

theorem Backend.mbedcrypt_cbcLaws {lib : Mbedtls} {aes : BlockCipher Bytes Block}
    (laws : lib.CbcLaws aes) (sha3 : Sha3) (ed25519 : Ed25519) :
    (Backend.mbedcrypt lib sha3 ed25519).CbcLaws aes fun operation direction key chain =>
      (∃ context, operation.aectx = lib.aesSetkey direction (lib.aesInit context) key) ∧
        operation.aeiv = chain where
  init operation nonce direction mode := by
    have scheduled :=
      CryptLib.scheduled_cipherInit (.mbedcrypt lib sha3 ed25519) operation nonce mode
    rcases Operation.directionOf_cases mode with ⟨encrypt, rfl⟩ | ⟨encrypt, decrypt, rfl⟩
    · refine ⟨?_, scheduled, ?_⟩ <;> simp only [mbedcrypt, if_pos encrypt]
    · refine ⟨?_, scheduled, ?_⟩ <;> simp only [mbedcrypt, if_neg encrypt, if_pos decrypt]
  cbc := by
    rintro operation direction key _ ⟨⟨context, scheduled⟩, rfl⟩ memory buffers aligned
    have call := laws.crypt context key direction operation.aeiv _ aligned
    rw [← scheduled] at call
    refine ⟨?_, ⟨context, scheduled⟩, ?_⟩
    · simp only [mbedcrypt, call]
      exact buffers.output_store_crypt memory memory aes key direction _ aligned
    · simp only [mbedcrypt, call]

theorem Backend.wolfcrypt_cbcLaws {lib : Wolfcrypt} {aes : BlockCipher Bytes Block}
    {holds : lib.Aes → Direction → Bytes → Block → Prop} (laws : lib.CbcLaws aes holds) :
    (Backend.wolfcrypt lib).CbcLaws aes fun operation => holds operation.aectx where
  init operation nonce direction mode := by
    rcases Operation.directionOf_cases mode with ⟨encrypt, rfl⟩ | ⟨encrypt, decrypt, rfl⟩
    · simp only [wolfcrypt, if_pos encrypt]
      exact ⟨trivial, laws.setKey _ _ _ _⟩
    · simp only [wolfcrypt, if_neg encrypt, if_pos decrypt]
      exact ⟨trivial, laws.setKey _ _ _ _⟩
  cbc := by
    intro operation direction key chain held memory buffers aligned
    obtain ⟨output_eq, next⟩ := laws.crypt held _ aligned
    refine ⟨?_, next⟩
    simp only [wolfcrypt, output_eq]
    exact buffers.output_store_crypt memory memory aes key direction _ aligned

theorem Backend.tiny_cbcLaws {lib : TinyAes} {aes : BlockCipher Bytes Block}
    {holds : lib.Context → Bytes → Block → Prop} (laws : lib.CbcLaws aes holds) (sha3 : Sha3)
    (ed25519 : Ed25519) (unset : Int) :
    (Backend.tiny lib sha3 ed25519 unset).CbcLaws aes fun operation _ => holds operation.aectx where
  init operation nonce direction _ := ⟨rfl, laws.init _ _ _⟩
  cbc := by
    intro operation direction key chain held memory buffers aligned
    have staged := output_copyInput memory buffers
    obtain ⟨output_eq, next⟩ := laws.crypt held direction _ (staged ▸ aligned)
    rw [staged] at output_eq next
    simp only [tiny, staged, output_eq]
    exact ⟨buffers.output_store_crypt memory _ aes key direction _ aligned, next⟩

theorem CryptLib.CbcLaws.chains {build : CryptLib} {aes : BlockCipher Bytes Block}
    (laws : build.CbcLaws aes) : ∃ chains, build.backend.CbcLaws aes chains := by
  cases build with
  | mbedcrypt lib sha3 ed25519 => exact ⟨_, Backend.mbedcrypt_cbcLaws laws sha3 ed25519⟩
  | wolfcrypt lib => exact ⟨_, Backend.wolfcrypt_cbcLaws laws.choose_spec⟩
  | tiny lib sha3 ed25519 unset =>
      exact ⟨_, Backend.tiny_cbcLaws laws.choose_spec sha3 ed25519 unset⟩

/-! ## Sessions -/

/-- The arguments of the calls of a session; the length of every chunk is a multiple of sixteen. -/
structure CbcSession where
  memory : Memory
  nonce : Nat
  chunks : List Chunk
  last : Chunk
  aligned : ∀ chunk ∈ chunks ++ [last], 16 ∣ chunk.buffers.srcLen

namespace CbcSession

variable {backend : Backend}

/-- All chunks. -/
def pieces (session : CbcSession) : List Chunk := session.chunks ++ [session.last]

/-- The nonce. -/
def iv (session : CbcSession) : Block := Block.ofBytes (session.memory.read session.nonce 16)

/-- The whole message. -/
def message (session : CbcSession) : Bytes := messageOf session.pieces

/-- The calls of the session. -/
def calls (session : CbcSession) : List (Invocation backend) :=
  { memory := session.memory, call := .cipherInit (some session.nonce) 16 } ::
    (session.chunks.map fun chunk =>
        { memory := chunk.memory, call := .cipherUpdate chunk.buffers }) ++
      [{ memory := session.last.memory, call := .cipherDoFinal session.last.buffers }]

/-- What the calls return on a handle. -/
def outputs (session : CbcSession) (operation : backend.Operation) : List OperationOutput :=
  Machine.outputs Operation.step (some operation) session.calls

/-- The concatenated outputs of the calls that process data. -/
def produced (session : CbcSession) (operation : backend.Operation) : Bytes :=
  producedBy session.pieces (session.outputs operation).tail

/-- Every call succeeds, and each stores the length of its chunk in `*destLen`. -/
def Succeeds (session : CbcSession) (operation : backend.Operation) : Prop :=
  (∀ output ∈ session.outputs operation, output.Succeeds) ∧
    (session.outputs operation).tail.map OperationOutput.destLen =
      session.pieces.map fun chunk => some chunk.buffers.srcLen

/-- The session computes CBC of the message in the direction of the mode. -/
def Computes (session : CbcSession) (aes : BlockCipher Bytes Block)
    (operation : backend.Operation) : Prop :=
  ∃ direction, Operation.directionOf operation.mode = some direction ∧
    session.produced operation =
      joinBlocks (Cbc.crypt aes operation.aekey direction session.iv (toBlocks session.message))

end CbcSession

/-- A cipher operation in any state that calls lead to, once a key is set. -/
structure KeyedCipher (build : CryptLib) where
  operation : build.backend.Operation
  mode : UInt32
  reachable : Operation.Reachable teeAlgAesCbcNopad mode operation
  keyed : hasFlag operation.flags teeHandleFlagKeySet = true

namespace KeyedCipher

variable {build : CryptLib}

theorem purpose_eq (cipher : KeyedCipher build) :
    Operation.purpose cipher.operation = (teeAlgAesCbcNopad, cipher.mode) :=
  cipher.reachable.purpose_eq build.framed

theorem alg_eq (cipher : KeyedCipher build) : cipher.operation.alg = teeAlgAesCbcNopad :=
  congrArg (·.1) cipher.purpose_eq

theorem mode_eq (cipher : KeyedCipher build) : cipher.operation.mode = cipher.mode :=
  congrArg (·.2) cipher.purpose_eq

theorem direction (cipher : KeyedCipher build) :
    ∃ direction, Operation.directionOf cipher.operation.mode = some direction := by
  obtain ⟨_, _, _, _, allocated, _⟩ := cipher.reachable
  rw [cipher.mode_eq]
  exact (Operation.serves_allocated allocated).direction

end KeyedCipher

namespace Operation

variable {build : CryptLib}

/-- The invocation processes the chunk with `TEE_CipherUpdate`, also when it is called
`TEE_CipherDoFinal`. -/
def Processes (chunk : Chunk) (invocation : Invocation build.backend) : Prop :=
  ∀ operation, invocation.perform operation =
    teeCipherUpdate operation chunk.memory chunk.buffers

/-- Calls on chunks of whole blocks carry CBC along the message. -/
theorem outputs_of_processes {aes : BlockCipher Bytes Block}
    {chains : build.backend.Operation → Direction → Bytes → Block → Prop}
    (laws : build.backend.CbcLaws aes chains) {pieces : List Chunk}
    {calls : List (Invocation build.backend)} (processes : List.Forall₂ Processes pieces calls)
    (aligned : ∀ chunk ∈ pieces, 16 ∣ chunk.buffers.srcLen) {operation : build.backend.Operation}
    {direction : Direction} {key : Bytes} {chain : Block}
    (chained : chains operation direction key chain) (alg : operation.alg = teeAlgAesCbcNopad)
    (mode : directionOf operation.mode = some direction) :
    (∀ output ∈ Machine.outputs step (some operation) calls, output.Succeeds) ∧
      (Machine.outputs step (some operation) calls).map OperationOutput.destLen =
        pieces.map (fun chunk => some chunk.buffers.srcLen) ∧
      producedBy pieces (Machine.outputs step (some operation) calls) =
        joinBlocks (Cbc.crypt aes key direction chain (toBlocks (messageOf pieces))) := by
  induction processes generalizing operation chain with
  | nil =>
      refine ⟨?_, rfl, rfl⟩
      intro output member
      cases member
  | @cons chunk call pieces calls performs _ ih =>
      have chunk_aligned : Aligned chunk.input := by
        unfold Aligned
        rw [Chunk.length_input]
        exact aligned chunk List.mem_cons_self
      have rest_aligned : Aligned (messageOf pieces) := by
        refine aligned_flatten fun bytes member => ?_
        obtain ⟨other, other_mem, rfl⟩ := List.mem_map.mp member
        unfold Aligned
        rw [Chunk.length_input]
        exact aligned other (List.mem_cons_of_mem _ other_mem)
      obtain ⟨output_eq, next⟩ := laws.cbc chained chunk.memory chunk.buffers chunk_aligned
      have run := teeCipherUpdate_of_direction alg mode chunk.memory chunk.buffers
      have kept := purpose_of_control
        (build.framed.cbc direction operation
          (build.backend.stageInput chunk.memory chunk.buffers) chunk.buffers)
      have survived : step (some operation) call =
          ((teeCipherUpdate operation chunk.memory chunk.buffers).1,
            some (teeCipherUpdate operation chunk.memory chunk.buffers).2) := by
        rw [step_some, performs operation, run]
        rfl
      obtain ⟨succeed, lengths, outputs⟩ :=
        ih (fun other member => aligned other (List.mem_cons_of_mem _ member)) next
          ((congrArg (·.1) kept).trans alg)
          ((congrArg directionOf (congrArg (·.2) kept)).trans mode)
      rw [Machine.outputs_cons, survived, run]
      refine ⟨?_, ?_, ?_⟩
      · intro output member
        rcases List.mem_cons.mp member with rfl | later
        · rfl
        · exact succeed output later
      · rw [List.map_cons, List.map_cons, lengths]
      · rw [producedBy_cons, messageOf_cons, toBlocks_append chunk_aligned rest_aligned,
          Cbc.crypt_append, joinBlocks_append, outputs]
        exact congrArg (· ++ _) output_eq

end Operation

namespace CbcSession

variable {build : CryptLib}

theorem forall₂_processes (session : CbcSession) :
    List.Forall₂ Operation.Processes session.pieces
      (session.calls : List (Invocation build.backend)).tail := by
  refine List.rel_append ?_ (.cons (fun _ => rfl) .nil)
  rw [List.forall₂_map_right_iff]
  exact List.forall₂_same.mpr fun _ _ _ => rfl

/-- A session does CBC from its nonce, whatever happened on the handle before. -/
theorem computes {aes : BlockCipher Bytes Block} (laws : build.CbcLaws aes)
    (cipher : KeyedCipher build) (session : CbcSession) :
    session.Succeeds cipher.operation ∧ session.Computes aes cipher.operation := by
  obtain ⟨chains, laws⟩ := laws.chains
  obtain ⟨direction, mode⟩ := cipher.direction
  obtain ⟨returned, chained⟩ := laws.init cipher.operation session.iv direction mode
  have kept := Operation.purpose_of_control
    (build.framed.cipherInit cipher.operation session.iv)
  have started : Operation.step (some cipher.operation)
      { memory := session.memory, call := .cipherInit (some session.nonce) 16 } =
        (.bare (.returned .success) session.memory,
          some (build.backend.cipherInit cipher.operation session.iv).2) := by
    have accepted : teeCipherInit cipher.operation session.memory (some session.nonce) 16 =
        build.backend.cipherInit cipher.operation session.iv := by
      rw [teeCipherInit, if_neg (not_not.mpr cipher.alg_eq), if_neg (by decide), cipher.keyed,
        if_neg (by decide)]
      rfl
    simp only [Operation.step_some, Invocation.perform, accepted, OperationOutput.ofVoid, returned]
    rfl
  obtain ⟨succeed, lengths, outputs⟩ :=
    Operation.outputs_of_processes laws session.forall₂_processes session.aligned chained
      ((congrArg (·.1) kept).trans cipher.alg_eq)
      ((congrArg Operation.directionOf (congrArg (·.2) kept)).trans mode)
  have split : session.outputs cipher.operation =
      .bare (.returned .success) session.memory ::
        Machine.outputs Operation.step
          (some (build.backend.cipherInit cipher.operation session.iv).2)
          (session.calls : List (Invocation build.backend)).tail := by
    rw [CbcSession.outputs, calls, List.cons_append, Machine.outputs_cons, started, List.tail_cons]
  refine ⟨⟨?_, ?_⟩, direction, mode, ?_⟩
  · intro output member
    rw [split] at member
    rcases List.mem_cons.mp member with rfl | later
    · rfl
    · exact succeed output later
  · rw [split, List.tail_cons]
    exact lengths
  · rw [produced, split, List.tail_cons]
    exact outputs

/-- Two sessions with one key and one nonce: in one direction they give equal messages equal images,
and decryption gives back what encryption was given. -/
def AgreesWith {other : CryptLib} (session : CbcSession) (cipher : KeyedCipher build)
    (session' : CbcSession) (cipher' : KeyedCipher other) : Prop :=
  cipher'.operation.aekey = cipher.operation.aekey → session'.iv = session.iv →
    (cipher'.mode = cipher.mode → session'.message = session.message →
      session'.produced cipher'.operation = session.produced cipher.operation) ∧
    (cipher.mode = teeModeEncrypt → cipher'.mode = teeModeDecrypt →
      session'.message = session.produced cipher.operation →
        session'.produced cipher'.operation = session.message)

theorem aligned_message (session : CbcSession) : Aligned session.message := by
  refine aligned_flatten fun bytes member => ?_
  obtain ⟨chunk, chunk_mem, rfl⟩ := List.mem_map.mp member
  unfold Aligned
  rw [Chunk.length_input]
  exact session.aligned chunk chunk_mem

theorem agreesWith {other : CryptLib} {aes : BlockCipher Bytes Block}
    {session session' : CbcSession} {cipher : KeyedCipher build} {cipher' : KeyedCipher other}
    (computed : session.Computes aes cipher.operation)
    (computed' : session'.Computes aes cipher'.operation) :
    session.AgreesWith cipher session' cipher' := by
  intro same_key same_nonce
  obtain ⟨direction, mode, produced_eq⟩ := computed
  obtain ⟨direction', mode', produced_eq'⟩ := computed'
  rw [cipher.mode_eq] at mode
  rw [cipher'.mode_eq] at mode'
  rw [same_key, same_nonce] at produced_eq'
  constructor
  · intro same_mode same_message
    rw [same_mode, mode] at mode'
    obtain rfl := Option.some.inj mode'
    rw [produced_eq', produced_eq, same_message]
  · intro encrypts decrypts ciphertext
    rw [encrypts] at mode
    rw [decrypts] at mode'
    obtain rfl : Direction.encrypt = direction := Option.some.inj mode
    obtain rfl : Direction.decrypt = direction' := Option.some.inj mode'
    rw [produced_eq', ciphertext, produced_eq, toBlocks_joinBlocks, Cbc.decrypt_encrypt,
      joinBlocks_toBlocks session.aligned_message]

end CbcSession

/-- In each build and from any state of a keyed cipher operation, a session computes CBC of its
message under the key and the nonce; so sessions of any two builds agree, and decryption with any
chunks undoes encryption with any others. -/
theorem cbc_sessions {aes : BlockCipher Bytes Block} {build other : CryptLib}
    (laws : build.CbcLaws aes) (laws' : other.CbcLaws aes) (cipher : KeyedCipher build)
    (cipher' : KeyedCipher other) (session session' : CbcSession) :
    session.Succeeds cipher.operation ∧ session.Computes aes cipher.operation ∧
      session.AgreesWith cipher session' cipher' := by
  obtain ⟨succeeds, computed⟩ := session.computes laws cipher
  obtain ⟨_, computed'⟩ := session'.computes laws' cipher'
  exact ⟨succeeds, computed, CbcSession.agreesWith computed computed'⟩

/-- A handle of the mbedtls instance with the key of the published example, in the middle of a
message. -/
def vectorSealer : KeyedCipher .reference where
  operation :=
    let keyed := (teeSetOperationKey
      (Operation.fresh CryptLib.reference.backend teeAlgAesCbcNopad teeModeEncrypt)
      (some (Operation.vectorKeyObject CryptLib.reference.backend))).2
    let started := (teeCipherInit keyed Operation.vectorMemory (some 0) 16).2
    (teeCipherUpdate started Operation.vectorMemory Operation.vectorBuffers).2
  mode := teeModeEncrypt
  reachable :=
    ⟨some (Operation.fresh CryptLib.reference.backend 0 0), 256, _,
      [{ memory := Operation.vectorMemory
         call := .setOperationKey (some (Operation.vectorKeyObject CryptLib.reference.backend)) },
        { memory := Operation.vectorMemory, call := .cipherInit (some 0) 16 },
        { memory := Operation.vectorMemory, call := .cipherUpdate Operation.vectorBuffers }],
      rfl, rfl⟩
  keyed := by decide

/-- The wolfCrypt build over the instance of its library. -/
def CryptLib.referenceWolf : CryptLib := .wolfcrypt (.reference vectorCipher vectorHash)

/-- A handle of the wolfCrypt instance with the same key. -/
def vectorOpener : KeyedCipher .referenceWolf where
  operation :=
    (teeSetOperationKey
      (Operation.fresh CryptLib.referenceWolf.backend teeAlgAesCbcNopad teeModeDecrypt)
      (some (Operation.vectorKeyObject CryptLib.referenceWolf.backend))).2
  mode := teeModeDecrypt
  reachable :=
    ⟨some (Operation.fresh CryptLib.referenceWolf.backend 0 0), 256, _,
      [{ memory := Operation.vectorMemory
         call := .setOperationKey
          (some (Operation.vectorKeyObject CryptLib.referenceWolf.backend)) }],
      rfl, rfl⟩
  keyed := by decide

/-- A call on at most 64 bytes, in memory that holds a tag at its start. -/
def vectorPiece (tag : Block) (bytes : Bytes) (short : bytes.length ≤ 64) : Chunk where
  memory := (Memory.write (fun _ => 0) 64 bytes).write 0 tag.1
  buffers :=
    { srcData := some 64
      srcLen := bytes.length
      destData := some 128
      srcLen_lt := by omega
      separate := by
        rintro _ _ ⟨⟩ ⟨⟩
        omega }

/-- A call on nothing. -/
def vectorNothing : Chunk := vectorPiece .zero [] (by decide)

/-- A session with a nonce of zeros. -/
def vectorSession (chunks : List Chunk) (last : Chunk)
    (aligned : ∀ chunk ∈ chunks ++ [last], 16 ∣ chunk.buffers.srcLen) : CbcSession where
  memory := fun _ => 0
  nonce := 0
  chunks
  last
  aligned

/-- The example block twice, with an empty chunk in between. -/
def vectorSealing : CbcSession :=
  vectorSession
    [vectorPiece .zero vectorPlain.1 (by decide), vectorNothing]
    (vectorPiece .zero vectorPlain.1 (by decide)) (by decide)

/-- The two blocks of its ciphertext in one chunk, after an empty chunk and before another. -/
def vectorOpening : CbcSession :=
  let ciphertext := joinBlocks
    (Cbc.crypt vectorCipher vectorKey .encrypt .zero [vectorPlain, vectorPlain])
  vectorSession [vectorNothing, vectorPiece .zero ciphertext (by decide +kernel)] vectorNothing
    (by decide +kernel)

example : vectorOpening.message = vectorSealing.produced vectorSealer.operation := by
  decide +kernel

theorem cbc_sessions_published :
    vectorSealing.Succeeds vectorSealer.operation ∧
      vectorSealing.Computes vectorCipher vectorSealer.operation ∧
      vectorSealing.AgreesWith vectorSealer vectorOpening vectorOpener := by
  have laws : CryptLib.reference.CbcLaws vectorCipher := Mbedtls.reference_cbcLaws vectorCipher
  have laws' : CryptLib.referenceWolf.CbcLaws vectorCipher :=
    ⟨_, Wolfcrypt.reference_cbcLaws vectorCipher vectorHash⟩
  exact cbc_sessions laws laws' vectorSealer vectorOpener vectorSealing vectorOpening

end TaRef
