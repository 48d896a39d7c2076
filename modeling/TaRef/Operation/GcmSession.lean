import TaRef.Operation.CbcSession

/-!
# GCM sessions

A session with mbedtls is `TEE_AEInit`, at most one `TEE_AEUpdateAAD`, some `TEE_AEUpdate` and a
final call.  Whether the library's session is started by the call for the additional data, by the
first update or by the final call, it is started once with the same parameters, and from then on the
handle streams.
-/

namespace TaRef

/-- The arguments of a call of `TEE_AEUpdateAAD`. -/
structure AdditionalData where
  memory : Memory
  data : Option Nat
  length : Nat
  fits : length ≤ 16
  null : data = none → length = 0

/-- The additional data itself. -/
def AdditionalData.bytes (aad : AdditionalData) : Bytes :=
  aad.memory.read (aad.data.getD 0) aad.length

/-- The arguments of the calls of a session.  Every chunk but the last has whole blocks, and the tag
lies outside the last destination. -/
structure GcmSession where
  memory : Memory
  nonce : Nat
  aad : Option AdditionalData
  chunks : List Chunk
  last : Chunk
  tag : Nat
  whole : ∀ chunk ∈ chunks, 16 ∣ chunk.buffers.srcLen
  pointers : ∀ chunk ∈ chunks ++ [last],
    chunk.buffers.srcData.isSome = true ∧ chunk.buffers.destData.isSome = true
  apart : tag + 16 ≤ last.buffers.destData.getD 0 ∨
    last.buffers.destData.getD 0 + last.buffers.srcLen ≤ tag
  limit : (messageOf (chunks ++ [last])).length ≤ Mbedtls.gcmLimit

namespace GcmSession

variable {backend : Backend}

/-- All chunks. -/
def pieces (session : GcmSession) : List Chunk := session.chunks ++ [session.last]

/-- The nonce. -/
def iv (session : GcmSession) : Block :=
  Block.ofBytes (session.memory.read session.nonce teeObjectNonceSize)

/-- The whole message. -/
def message (session : GcmSession) : Bytes := messageOf session.pieces

/-- The additional data, empty when the call is omitted. -/
def aadBytes (session : GcmSession) : Bytes := (session.aad.map AdditionalData.bytes).getD []

/-- The tag that the caller of `TEE_AEDecryptFinal` supplies. -/
def suppliedTag (session : GcmSession) : Bytes := session.last.memory.read session.tag 16

/-- The calls before the message. -/
def opening (session : GcmSession) : List (Invocation backend) :=
  { memory := session.memory
    call := .aeInit (some session.nonce) 16 128 session.aadBytes.length session.message.length } ::
      (session.aad.map fun aad =>
        { memory := aad.memory, call := .aeUpdateAAD aad.data aad.length }).toList

/-- The calls of `TEE_AEUpdate`. -/
def updates (session : GcmSession) : List (Invocation backend) :=
  session.chunks.map fun chunk =>
    { memory := chunk.memory, call := .aeUpdate chunk.buffers (some chunk.buffers.srcLen) }

/-- The final call of a direction. -/
def closing (session : GcmSession) : Direction → Invocation backend
  | .encrypt =>
      { memory := session.last.memory
        call := .aeEncryptFinal session.last.buffers (some session.last.buffers.srcLen)
          (some session.tag) (some 16) }
  | .decrypt =>
      { memory := session.last.memory
        call := .aeDecryptFinal session.last.buffers (some session.last.buffers.srcLen)
          (some session.tag) 16 }

/-- The calls of the session in a direction. -/
def calls (session : GcmSession) (direction : Direction) : List (Invocation backend) :=
  session.opening ++ (session.updates ++ [session.closing direction])

/-- What the calls return on a handle. -/
def outputs (session : GcmSession) (direction : Direction) (operation : backend.Operation) :
    List OperationOutput :=
  Machine.outputs Operation.step (some operation) (session.calls direction)

/-- Every call succeeds. -/
def Succeeds (session : GcmSession) (direction : Direction) (operation : backend.Operation) :
    Prop :=
  ∀ output ∈ session.outputs direction operation, output.Succeeds

/-- The concatenated outputs of the calls that process the message. -/
def produced (session : GcmSession) (direction : Direction) (operation : backend.Operation) :
    Bytes :=
  producedBy session.pieces
    ((session.outputs direction operation).drop (1 + session.aad.toList.length))

/-- The tag that the last call leaves in memory. -/
def sealedTag (session : GcmSession) (operation : backend.Operation) : Bytes :=
  (((session.outputs .encrypt operation).getLast?).map fun output =>
    output.memory.read session.tag 16).getD []

end GcmSession

/-- A new AES-GCM operation in the mode of a direction on which a key object has been set. -/
structure FreshGcm (backend : Backend) (direction : Direction) (key : Bytes) where
  allocation : Option backend.Operation
  mode : UInt32
  maxKeySize : UInt32
  handle : backend.Operation
  object : backend.Object
  allocated : teeAllocateOperation backend allocation teeAlgAesGcm mode maxKeySize =
    (.success, some handle)
  direction_eq : Operation.directionOf mode = some direction
  type_eq : object.type = teeTypeAes
  publicKey_eq : object.publicKey = key

/-- The handle. -/
def FreshGcm.operation {backend : Backend} {direction : Direction} {key : Bytes}
    (fresh : FreshGcm backend direction key) : backend.Operation :=
  (teeSetOperationKey fresh.handle (some fresh.object)).2

theorem Gcm.ciphertext_append (aes : BlockCipher Bytes Block) (key : Bytes) (nonce : Block)
    (position : Nat) (left right : Bytes) (direction : Direction) :
    Gcm.ciphertext aes key nonce position (left ++ right) direction =
      Gcm.ciphertext aes key nonce position left direction ++
        Gcm.ciphertext aes key nonce (position + left.length) right direction := by
  cases direction with
  | encrypt => exact Gcm.crypt_append aes key nonce position left right
  | decrypt => rfl

@[simp]
theorem Gcm.length_ciphertext (aes : BlockCipher Bytes Block) (key : Bytes) (nonce : Block)
    (position : Nat) (input : Bytes) (direction : Direction) :
    (Gcm.ciphertext aes key nonce position input direction).length = input.length := by
  cases direction with
  | encrypt => exact Gcm.length_crypt aes key nonce position input
  | decrypt => rfl

/-! ## Streaming -/

section Streaming

variable {lib : Mbedtls} {aes : BlockCipher Bytes Block} {keyed : lib.GcmContext → Bytes → Prop}
  {streams : lib.GcmContext → Direction → Bytes → Block → Bytes → Bytes → Prop}
  (sha3 : Sha3) (ed25519 : Ed25519)

/-- The library's session of a handle: either it can still be started, or it has been started and
its ciphertext so far is `done`. -/
structure Streaming (keyed : lib.GcmContext → Bytes → Prop)
    (streams : lib.GcmContext → Direction → Bytes → Block → Bytes → Bytes → Prop)
    (operation : (Backend.mbedcrypt lib sha3 ed25519).Operation) (direction : Direction)
    (key : Bytes) (nonce : Block) (aad done : Bytes) : Prop where
  alg : operation.alg = teeAlgAesGcm
  mode : Operation.directionOf operation.mode = some direction
  state :
    operation.aegcmState = gcmStInit ∧ keyed operation.aegcmctx key ∧ operation.aeiv = nonce ∧
        aad = [] ∧ done = [] ∨
      gcmStAad ≤ operation.aegcmState ∧ streams operation.aegcmctx direction key nonce aad done

variable {sha3 ed25519}
variable {operation : (Backend.mbedcrypt lib sha3 ed25519).Operation} {direction : Direction}
  {key : Bytes} {nonce : Block} {aad done : Bytes}

/-- The direction that `TEE_AEUpdateAAD` passes on. -/
theorem direction_of_mode {mode : UInt32} (mode_eq : Operation.directionOf mode = some direction) :
    (if mode = teeModeEncrypt then Direction.encrypt else .decrypt) = direction := by
  rcases Operation.directionOf_cases mode_eq with ⟨encrypt, rfl⟩ | ⟨encrypt, -, rfl⟩
  · rw [if_pos encrypt]
  · rw [if_neg encrypt]

namespace Streaming

/-- A processing call finds the library's session started. -/
theorem readied (laws : lib.GcmLaws aes keyed streams)
    (streaming : Streaming sha3 ed25519 keyed streams operation direction key nonce aad done) :
    gcmStInit ≤ operation.aegcmState ∧
      (operation.aegcmState = gcmStInit →
        ((Backend.mbedcrypt lib sha3 ed25519).gcmStarts operation []).1 = 0) ∧
      streams (Operation.readied operation).aegcmctx direction key nonce aad done := by
  rcases streaming.state with ⟨state, held, rfl, rfl, rfl⟩ | ⟨state, held⟩
  · obtain ⟨rv, started⟩ := laws.starts held direction operation.aeiv []
    refine ⟨state.ge, fun _ => ?_, ?_⟩
    · simp only [Backend.mbedcrypt_gcmStarts, direction_of_mode streaming.mode, rv]
    · rw [Operation.readied, if_pos state]
      simp only [Backend.mbedcrypt_gcmStarts, direction_of_mode streaming.mode]
      exact started
  · have later := Operation.ne_init_of_aad_le state
    refine ⟨Int.le_trans (by decide) state, fun first => absurd first later, ?_⟩
    rw [Operation.readied, if_neg later]
    exact held

/-- A chunk with valid pointers passes the checks. -/
theorem admitsData (laws : lib.GcmLaws aes keyed streams)
    (streaming : Streaming sha3 ed25519 keyed streams operation direction key nonce aad done)
    {buffers : Buffers} (src : buffers.srcData.isSome = true)
    (dest : buffers.destData.isSome = true)
    (capacity : Nat) : Operation.AdmitsData operation buffers (some capacity) :=
  ⟨streaming.alg, dest, src, rfl, (streaming.readied laws).1⟩

/-- `TEE_AEUpdate` produces the next part of the stream. -/
theorem update (laws : lib.GcmLaws aes keyed streams)
    (streaming : Streaming sha3 ed25519 keyed streams operation direction key nonce aad done)
    (boundary : 16 ∣ done.length) (chunk : Chunk)
    (fits : done.length + chunk.buffers.srcLen ≤ Mbedtls.gcmLimit)
    (src : chunk.buffers.srcData.isSome = true) (dest : chunk.buffers.destData.isSome = true)
    (capacity : Nat) :
    ∃ output after, Operation.step (some operation)
        { memory := chunk.memory, call := .aeUpdate chunk.buffers (some capacity) } =
          (output, some after) ∧ output.Succeeds ∧
      chunk.produced output = Gcm.crypt aes key nonce done.length chunk.input ∧
      Streaming sha3 ed25519 keyed streams after direction key nonce aad
        (done ++ Gcm.ciphertext aes key nonce done.length chunk.input direction) := by
  obtain ⟨state, started, held⟩ := streaming.readied laws
  have input_eq : (chunk.buffers.input chunk.memory).length = chunk.buffers.srcLen :=
    chunk.buffers.length_input chunk.memory
  obtain ⟨rv, output_eq, next⟩ := laws.update held boundary (chunk.buffers.input chunk.memory)
    (by rw [input_eq]; exact fits)
  have run := Operation.teeAEUpdate_of_admitted chunk.memory
    (streaming.admitsData laws src dest capacity) started rv
  have kept := Operation.purpose_readied (Backend.mbedcrypt_framed lib sha3 ed25519) operation
  rw [Backend.mbedcrypt_gcmUpdate, output_eq] at run
  refine ⟨_, _, Operation.step_of_perform run rfl, rfl, ?_, ?_⟩
  · exact chunk.buffers.output_store chunk.memory ((Gcm.length_crypt ..).trans input_eq)
  · exact
      { alg := (congrArg (·.1) kept).trans streaming.alg
        mode := (congrArg Operation.directionOf (congrArg (·.2) kept)).trans streaming.mode
        state := .inr ⟨(by decide : gcmStAad ≤ gcmStActive), next⟩ }

end Streaming

/-- Updates of whole blocks carry the stream along. -/
theorem Streaming.updates (laws : lib.GcmLaws aes keyed streams) {chunks : List Chunk}
    (whole : ∀ chunk ∈ chunks, 16 ∣ chunk.buffers.srcLen)
    (pointers : ∀ chunk ∈ chunks,
      chunk.buffers.srcData.isSome = true ∧ chunk.buffers.destData.isSome = true)
    (streaming : Streaming sha3 ed25519 keyed streams operation direction key nonce aad done)
    (boundary : 16 ∣ done.length)
    (limit : done.length + (messageOf chunks).length ≤ Mbedtls.gcmLimit) :
    ∃ outputs after,
      Machine.outputs Operation.step (some operation)
          (chunks.map fun chunk =>
            { memory := chunk.memory
              call := .aeUpdate chunk.buffers (some chunk.buffers.srcLen) }) = outputs ∧
      Machine.final Operation.step (some operation)
          (chunks.map fun chunk =>
            { memory := chunk.memory
              call := .aeUpdate chunk.buffers (some chunk.buffers.srcLen) }) = some after ∧
      outputs.length = chunks.length ∧ (∀ output ∈ outputs, output.Succeeds) ∧
      producedBy chunks outputs = Gcm.crypt aes key nonce done.length (messageOf chunks) ∧
      Streaming sha3 ed25519 keyed streams after direction key nonce aad
        (done ++ Gcm.ciphertext aes key nonce done.length (messageOf chunks) direction) ∧
      16 ∣ (messageOf chunks).length := by
  induction chunks generalizing operation done with
  | nil =>
      refine ⟨[], operation, rfl, rfl, rfl, ?_, rfl, ?_, Nat.dvd_zero 16⟩
      · intro output member
        cases member
      · have nothing : Gcm.ciphertext aes key nonce done.length (messageOf []) direction = [] := by
          cases direction <;> rfl
        rw [nothing, List.append_nil]
        exact streaming
  | cons chunk chunks ih =>
      rw [messageOf_cons, List.length_append, Chunk.length_input] at limit
      obtain ⟨src, dest⟩ := pointers chunk List.mem_cons_self
      obtain ⟨output, between, stepped, succeeds, produced_eq, next⟩ :=
        streaming.update laws boundary chunk (by omega) src dest chunk.buffers.srcLen
      have grown : (done ++ Gcm.ciphertext aes key nonce done.length chunk.input direction).length =
          done.length + chunk.buffers.srcLen := by
        rw [List.length_append, Gcm.length_ciphertext, Chunk.length_input]
      obtain ⟨outputs, after, outputs_eq, final_eq, count, succeed, produced_eq', streaming',
          boundary'⟩ :=
        ih (fun other member => whole other (List.mem_cons_of_mem _ member))
          (fun other member => pointers other (List.mem_cons_of_mem _ member)) next
          (by rw [grown]; exact Nat.dvd_add boundary (whole chunk List.mem_cons_self))
          (by rw [grown]; omega)
      refine ⟨output :: outputs, after, ?_, ?_, ?_, ?_, ?_, ?_, ?_⟩
      · rw [List.map_cons, Machine.outputs_cons, stepped, outputs_eq]
      · rw [List.map_cons, Machine.final_cons, stepped, final_eq]
      · rw [List.length_cons, List.length_cons, count]
      · intro other member
        rcases List.mem_cons.mp member with rfl | later
        · exact succeeds
        · exact succeed other later
      · rw [producedBy_cons, messageOf_cons, produced_eq, produced_eq', grown, Gcm.crypt_append,
          Chunk.length_input]
      · rw [messageOf_cons, Gcm.ciphertext_append, ← List.append_assoc, Chunk.length_input]
        rw [grown] at streaming'
        exact streaming'
      · rw [messageOf_cons, List.length_append, Chunk.length_input]
        exact Nat.dvd_add (whole chunk List.mem_cons_self) boundary'

/-- `TEE_AEEncryptFinal` produces the end of the stream and its tag. -/
theorem Streaming.encryptFinal (laws : lib.GcmLaws aes keyed streams)
    (streaming : Streaming sha3 ed25519 keyed streams operation .encrypt key nonce aad done)
    (boundary : 16 ∣ done.length) (session : GcmSession)
    (limit : done.length + session.last.buffers.srcLen ≤ Mbedtls.gcmLimit) :
    ∃ output, (Operation.step (some operation) (session.closing .encrypt)).1 = output ∧
      output.Succeeds ∧
      session.last.produced output = Gcm.crypt aes key nonce done.length session.last.input ∧
      output.memory.read session.tag 16 =
        (Gcm.tag aes key nonce aad
          (done ++ Gcm.crypt aes key nonce done.length session.last.input)).1 := by
  obtain ⟨state, started, held⟩ := streaming.readied laws
  obtain ⟨src, dest⟩ := session.pointers session.last (by simp)
  have input_eq := session.last.buffers.length_input session.last.memory
  obtain ⟨rv, output_eq, next⟩ := laws.update held boundary
    (session.last.buffers.input session.last.memory) (by rw [input_eq]; exact limit)
  obtain ⟨finish_rv, tag_eq⟩ := laws.finish next
  have effect := Backend.mbedcrypt_gcmEncryptFinal lib sha3 ed25519 (Operation.readied operation)
    session.last.memory session.last.buffers session.tag rv
  rw [finish_rv, output_eq, tag_eq] at effect
  have run := Operation.teeAEEncryptFinal_of_admitted session.last.memory session.tag
    (streaming.admitsData laws src dest session.last.buffers.srcLen) started (by rw [effect])
  rw [effect] at run
  have performed : (session.closing .encrypt).perform operation = _ := run
  refine ⟨_, congrArg Prod.fst (Operation.step_of_perform performed rfl), rfl, ?_, ?_⟩
  · have length_eq : (Gcm.crypt aes key nonce done.length
        (session.last.buffers.input session.last.memory)).length = session.last.buffers.srcLen :=
      (Gcm.length_crypt ..).trans input_eq
    simp only [Chunk.produced, Buffers.output]
    rw [Memory.read_write_of_disjoint]
    · exact session.last.buffers.output_store session.last.memory length_eq
    · rw [(Gcm.tag ..).2]
      exact session.apart.symm
  · have length_eq := (Gcm.tag aes key nonce aad (done ++ Gcm.ciphertext aes key nonce done.length
      (session.last.buffers.input session.last.memory) .encrypt)).2
    have stored := Memory.read_write
      (session.last.buffers.store session.last.memory (Gcm.crypt aes key nonce done.length
        (session.last.buffers.input session.last.memory))) session.tag
      (Gcm.tag aes key nonce aad (done ++ Gcm.ciphertext aes key nonce done.length
        (session.last.buffers.input session.last.memory) .encrypt)).1
    rw [length_eq] at stored
    exact stored

/-- `TEE_AEDecryptFinal` produces the end of the stream when the tag is right. -/
theorem Streaming.decryptFinal (laws : lib.GcmLaws aes keyed streams)
    (streaming : Streaming sha3 ed25519 keyed streams operation .decrypt key nonce aad done)
    (boundary : 16 ∣ done.length) (session : GcmSession)
    (limit : done.length + session.last.buffers.srcLen ≤ Mbedtls.gcmLimit)
    (supplied : session.suppliedTag =
      (Gcm.tag aes key nonce aad (done ++ session.last.input)).1) :
    ∃ output, (Operation.step (some operation) (session.closing .decrypt)).1 = output ∧
      output.Succeeds ∧
      session.last.produced output = Gcm.crypt aes key nonce done.length session.last.input := by
  obtain ⟨state, started, held⟩ := streaming.readied laws
  obtain ⟨src, dest⟩ := session.pointers session.last (by simp)
  have input_eq := session.last.buffers.length_input session.last.memory
  obtain ⟨rv, output_eq, next⟩ := laws.update held boundary
    (session.last.buffers.input session.last.memory) (by rw [input_eq]; exact limit)
  obtain ⟨finish_rv, tag_eq⟩ := laws.finish next
  have length_eq : (Gcm.crypt aes key nonce done.length
      (session.last.buffers.input session.last.memory)).length = session.last.buffers.srcLen :=
    (Gcm.length_crypt ..).trans input_eq
  have untouched : (session.last.buffers.store session.last.memory (Gcm.crypt aes key nonce
      done.length (session.last.buffers.input session.last.memory))).read session.tag 16 =
        session.suppliedTag := by
    apply Memory.read_write_of_disjoint
    rw [length_eq]
    exact session.apart
  have same : session.suppliedTag = (Gcm.tag aes key nonce aad (done ++ Gcm.ciphertext aes key
      nonce done.length (session.last.buffers.input session.last.memory) .decrypt)).1 := supplied
  have effect := Backend.mbedcrypt_gcmDecryptFinal lib sha3 ed25519 (Operation.readied operation)
    session.last.memory session.last.buffers session.tag rv finish_rv
  rw [output_eq, tag_eq, untouched, same, beq_self_eq_true] at effect
  have run := Operation.teeAEDecryptFinal_of_admitted
    (streaming.admitsData laws src dest session.last.buffers.srcLen) started effect
  have performed : (session.closing .decrypt).perform operation = _ := run
  refine ⟨_, congrArg Prod.fst (Operation.step_of_perform performed rfl), rfl, ?_⟩
  exact session.last.buffers.output_store session.last.memory length_eq

end Streaming

/-! ## Whole sessions -/

section Sessions

variable {lib : Mbedtls} {aes : BlockCipher Bytes Block} {keyed : lib.GcmContext → Bytes → Prop}
  {streams : lib.GcmContext → Direction → Bytes → Block → Bytes → Bytes → Prop} {sha3 : Sha3}
  {ed25519 : Ed25519} {direction : Direction} {key : Bytes}

/-- What the allocation and the key leave in the handle. -/
theorem FreshGcm.operation_eq {backend : Backend} (fresh : FreshGcm backend direction key) :
    fresh.operation =
      { Operation.fresh backend teeAlgAesGcm fresh.mode with
        aekey := key, flags := 0 ||| teeHandleFlagKeySet } := by
  have handle_eq : fresh.handle = Operation.fresh backend teeAlgAesGcm fresh.mode := by
    rcases Operation.allocated_cases fresh.allocated with ⟨_, other, _⟩ | ⟨handle_eq, _⟩
    · exact absurd other (by decide)
    · exact handle_eq
  have admitted : ¬ (fresh.object.type ≠ teeTypeAes ∧ fresh.object.type ≠ teeTypeEcdhKeypair ∧
      fresh.object.type ≠ teeTypeEcdsaKeypair) := fun other => other.1 fresh.type_eq
  simp only [operation, teeSetOperationKey, if_neg admitted, if_pos fresh.type_eq,
    fresh.publicKey_eq, handle_eq]
  rfl

theorem FreshGcm.aekey_eq {backend : Backend} (fresh : FreshGcm backend direction key) :
    fresh.operation.aekey = key := by
  rw [fresh.operation_eq]

theorem FreshGcm.alg_eq {backend : Backend} (fresh : FreshGcm backend direction key) :
    fresh.operation.alg = teeAlgAesGcm := by
  rw [fresh.operation_eq]
  rfl

theorem FreshGcm.admitsInit {backend : Backend} (fresh : FreshGcm backend direction key)
    (nonce : Nat) {aadLen : Nat} (short : aadLen ≤ 16) :
    Operation.AdmitsInit fresh.operation (some nonce) 16 128 aadLen := by
  rw [fresh.operation_eq]
  have keyed : hasFlag (0 ||| teeHandleFlagKeySet) teeHandleFlagKeySet = true := by decide
  exact ⟨rfl, rfl, short, rfl, rfl, keyed⟩

theorem GcmSession.length_aadBytes_le (session : GcmSession) : session.aadBytes.length ≤ 16 := by
  unfold aadBytes
  cases session.aad with
  | none => exact Nat.zero_le 16
  | some aad => exact (Memory.length_read ..).trans_le aad.fits

/-- `TEE_AEInit` keys the library's context and keeps the nonce. -/
theorem FreshGcm.started (laws : lib.GcmLaws aes keyed streams) (key_length : key.length = 32)
    (fresh : FreshGcm (Backend.mbedcrypt lib sha3 ed25519) direction key) (session : GcmSession) :
    ∃ started, Operation.step (some fresh.operation)
        { memory := session.memory
          call := .aeInit (some session.nonce) 16 128 session.aadBytes.length
            session.message.length } =
          (.bare (.returned .success) session.memory, some started) ∧
      started.aegcmState = gcmStInit ∧
      Streaming sha3 ed25519 keyed streams started direction key session.iv [] [] := by
  have mode_eq : fresh.operation.mode = fresh.mode := by
    rw [fresh.operation_eq]
    rfl
  have state_eq : fresh.operation.aegcmState = 0 := by
    rw [fresh.operation_eq]
    rfl
  obtain ⟨rv, held⟩ := laws.setkey fresh.operation.aegcmctx key key_length
  have init := Operation.teeAEInit_of_admitted
    (fresh.admitsInit session.nonce session.length_aadBytes_le) state_eq
    (by rw [Backend.mbedcrypt_gcmSetkey, fresh.aekey_eq]; exact rv) session.memory
    session.message.length
  rw [Backend.mbedcrypt_gcmSetkey, fresh.aekey_eq] at init
  refine ⟨_, Operation.step_of_perform
    (congrArg (fun result => (OperationOutput.bare result.1 session.memory, result.2)) init) rfl,
    rfl, ?_⟩
  exact
    { alg := fresh.alg_eq
      mode := (congrArg Operation.directionOf mode_eq).trans fresh.direction_eq
      state := .inl ⟨rfl, held, rfl, rfl, rfl⟩ }

/-- `TEE_AEUpdateAAD` starts the stream. -/
theorem Streaming.extend (laws : lib.GcmLaws aes keyed streams)
    {operation : (Backend.mbedcrypt lib sha3 ed25519).Operation} {nonce : Block}
    (streaming : Streaming sha3 ed25519 keyed streams operation direction key nonce [] [])
    (state : operation.aegcmState = gcmStInit) (aad : AdditionalData) :
    ∃ after, Operation.step (some operation)
        { memory := aad.memory, call := .aeUpdateAAD aad.data aad.length } =
          (.bare (.returned .success) aad.memory, some after) ∧
      Streaming sha3 ed25519 keyed streams after direction key nonce aad.bytes [] := by
  have held : keyed operation.aegcmctx key ∧ operation.aeiv = nonce := by
    rcases streaming.state with ⟨_, held, iv_eq, _, _⟩ | ⟨later, _⟩
    · exact ⟨held, iv_eq⟩
    · exact absurd state (Operation.ne_init_of_aad_le later)
  obtain ⟨rv, streams_eq⟩ := laws.starts held.1 direction operation.aeiv aad.bytes
  have run := Operation.teeAEUpdateAAD_of_admitted aad.memory
    (⟨aad.null, aad.fits, state.ge⟩ : Operation.AdmitsAAD operation aad.data aad.length)
    (by
      rw [Backend.mbedcrypt_gcmStarts, direction_of_mode streaming.mode]
      exact rv)
  rw [Backend.mbedcrypt_gcmStarts, direction_of_mode streaming.mode] at run
  rw [held.2] at streams_eq
  refine ⟨_, Operation.step_of_perform
    (congrArg (fun result => (OperationOutput.ofVoid result.1 aad.memory, result.2)) run) rfl, ?_⟩
  exact
    { alg := streaming.alg
      mode := streaming.mode
      state := .inr ⟨Int.le_refl gcmStAad, held.2 ▸ streams_eq⟩ }

/-- After the calls before the message the handle streams. -/
theorem FreshGcm.opened (laws : lib.GcmLaws aes keyed streams) (key_length : key.length = 32)
    (fresh : FreshGcm (Backend.mbedcrypt lib sha3 ed25519) direction key) (session : GcmSession) :
    ∃ outputs after,
      Machine.outputs Operation.step (some fresh.operation) session.opening = outputs ∧
      Machine.final Operation.step (some fresh.operation) session.opening = some after ∧
      outputs.length = 1 + session.aad.toList.length ∧ (∀ output ∈ outputs, output.Succeeds) ∧
      Streaming sha3 ed25519 keyed streams after direction key session.iv session.aadBytes [] := by
  obtain ⟨started, stepped, state, streaming⟩ := fresh.started laws key_length session
  cases aad_eq : session.aad with
  | none =>
      have nothing : session.aadBytes = [] := by
        rw [GcmSession.aadBytes, aad_eq]
        rfl
      refine ⟨[.bare (.returned .success) session.memory], started, ?_, ?_, rfl, ?_, ?_⟩
      · rw [GcmSession.opening, aad_eq, Machine.outputs_cons, stepped]
        rfl
      · rw [GcmSession.opening, aad_eq, Machine.final_cons, stepped]
        rfl
      · intro output member
        rw [List.mem_singleton.mp member]
        rfl
      · rw [nothing]
        exact streaming
  | some aad =>
      have aad_bytes : session.aadBytes = aad.bytes := by
        rw [GcmSession.aadBytes, aad_eq]
        rfl
      obtain ⟨extended, second, streaming'⟩ := streaming.extend laws state aad
      refine ⟨[.bare (.returned .success) session.memory, .bare (.returned .success) aad.memory],
        extended, ?_, ?_, rfl, ?_, ?_⟩
      · rw [GcmSession.opening, aad_eq, Machine.outputs_cons, stepped]
        exact congrArg (fun result => _ :: [result]) (congrArg Prod.fst second)
      · rw [GcmSession.opening, aad_eq, Machine.final_cons, stepped]
        exact congrArg Prod.snd second
      · intro output member
        rcases List.mem_cons.mp member with rfl | later
        · rfl
        · rw [List.mem_singleton.mp later]
          rfl
      · rw [aad_bytes]
        exact streaming'

/-- Before the final call: what the session has returned, and where the stream stands. -/
theorem FreshGcm.fed (laws : lib.GcmLaws aes keyed streams) (key_length : key.length = 32)
    (fresh : FreshGcm (Backend.mbedcrypt lib sha3 ed25519) direction key) (session : GcmSession) :
    ∃ first middle before,
      session.outputs direction fresh.operation =
          first ++ (middle ++ [(Operation.step (some before) (session.closing direction)).1]) ∧
      first.length = 1 + session.aad.toList.length ∧ middle.length = session.chunks.length ∧
      (∀ output ∈ first ++ middle, output.Succeeds) ∧
      producedBy session.chunks middle =
        Gcm.crypt aes key session.iv 0 (messageOf session.chunks) ∧
      Streaming sha3 ed25519 keyed streams before direction key session.iv session.aadBytes
        (Gcm.ciphertext aes key session.iv 0 (messageOf session.chunks) direction) ∧
      16 ∣ (messageOf session.chunks).length ∧
      (messageOf session.chunks).length + session.last.buffers.srcLen ≤ Mbedtls.gcmLimit := by
  obtain ⟨first, opened, first_eq, opened_eq, first_length, first_succeed, streaming⟩ :=
    fresh.opened laws key_length session
  have total := session.limit
  rw [length_messageOf_append] at total
  obtain ⟨middle, before, middle_eq, before_eq, middle_length, middle_succeed, middle_produced,
      streaming', boundary⟩ :=
    streaming.updates laws session.whole
      (fun chunk member => session.pointers chunk (List.mem_append_left _ member))
      (Nat.dvd_zero 16) (by simp only [List.length_nil]; omega)
  refine ⟨first, middle, before, ?_, first_length, middle_length, ?_, middle_produced, streaming',
    boundary, total⟩
  · rw [GcmSession.outputs, GcmSession.calls, Machine.outputs_append, Machine.outputs_append,
      first_eq, opened_eq, GcmSession.updates, middle_eq, before_eq]
    rfl
  · intro output member
    rcases List.mem_append.mp member with early | late
    · exact first_succeed output early
    · exact middle_succeed output late

/-- The message is the chunks and the last chunk. -/
theorem GcmSession.message_eq (session : GcmSession) :
    session.message = messageOf session.chunks ++ session.last.input := by
  rw [message, pieces, messageOf_append, messageOf_cons]
  exact congrArg _ (List.append_nil _)

/-- What is produced in a session whose last call produces the end of the stream. -/
theorem GcmSession.produced_eq (session : GcmSession)
    {operation : (Backend.mbedcrypt lib sha3 ed25519).Operation}
    {first middle : List OperationOutput} {output : OperationOutput}
    (outputs_eq : session.outputs direction operation = first ++ (middle ++ [output]))
    (first_length : first.length = 1 + session.aad.toList.length)
    (middle_length : middle.length = session.chunks.length)
    (middle_produced : producedBy session.chunks middle =
      Gcm.crypt aes key session.iv 0 (messageOf session.chunks))
    (last_produced : session.last.produced output =
      Gcm.crypt aes key session.iv (messageOf session.chunks).length session.last.input) :
    session.produced direction operation = Gcm.crypt aes key session.iv 0 session.message := by
  rw [produced, outputs_eq, ← first_length, List.drop_left, pieces,
    producedBy_append middle_length, middle_produced, producedBy_cons, last_produced, message_eq,
    Gcm.crypt_append, Nat.zero_add]
  exact congrArg _ (List.append_nil _)

theorem succeed_of_parts {first middle : List OperationOutput} {output : OperationOutput}
    (early : ∀ other ∈ first ++ middle, other.Succeeds) (succeeds : output.Succeeds) :
    ∀ other ∈ first ++ (middle ++ [output]), other.Succeeds := by
  intro other member
  rw [← List.append_assoc] at member
  rcases List.mem_append.mp member with before | last
  · exact early other before
  · rw [List.mem_singleton.mp last]
    exact succeeds

/-- A session on a new encryption handle produces the ciphertext and the tag of its message. -/
theorem FreshGcm.seals (laws : lib.GcmLaws aes keyed streams) (key_length : key.length = 32)
    (fresh : FreshGcm (Backend.mbedcrypt lib sha3 ed25519) .encrypt key) (session : GcmSession) :
    session.Succeeds .encrypt fresh.operation ∧
      session.produced .encrypt fresh.operation =
        Gcm.crypt aes key session.iv 0 session.message ∧
      session.sealedTag fresh.operation =
        (Gcm.tag aes key session.iv session.aadBytes
          (Gcm.crypt aes key session.iv 0 session.message)).1 := by
  obtain ⟨first, middle, before, outputs_eq, first_length, middle_length, succeed, middle_produced,
    streaming, boundary, total⟩ := fresh.fed laws key_length session
  obtain ⟨output, output_eq, succeeds, last_produced, tag_eq⟩ :=
    streaming.encryptFinal laws (by rw [Gcm.length_ciphertext]; exact boundary) session
      (by rw [Gcm.length_ciphertext]; exact total)
  rw [output_eq] at outputs_eq
  rw [Gcm.length_ciphertext] at last_produced tag_eq
  refine ⟨?_, session.produced_eq outputs_eq first_length middle_length middle_produced
    last_produced, ?_⟩
  · rw [GcmSession.Succeeds, outputs_eq]
    exact succeed_of_parts succeed succeeds
  · rw [GcmSession.sealedTag, outputs_eq, ← List.append_assoc, List.getLast?_concat,
      session.message_eq, Gcm.crypt_append, Nat.zero_add]
    exact tag_eq

/-- A session on a new decryption handle that is given the right tag produces the message. -/
theorem FreshGcm.opens (laws : lib.GcmLaws aes keyed streams) (key_length : key.length = 32)
    (fresh : FreshGcm (Backend.mbedcrypt lib sha3 ed25519) .decrypt key) (session : GcmSession)
    (supplied : session.suppliedTag =
      (Gcm.tag aes key session.iv session.aadBytes session.message).1) :
    session.Succeeds .decrypt fresh.operation ∧
      session.produced .decrypt fresh.operation =
        Gcm.crypt aes key session.iv 0 session.message := by
  obtain ⟨first, middle, before, outputs_eq, first_length, middle_length, succeed, middle_produced,
    streaming, boundary, total⟩ := fresh.fed laws key_length session
  rw [session.message_eq] at supplied
  obtain ⟨output, output_eq, succeeds, last_produced⟩ :=
    streaming.decryptFinal laws (by rw [Gcm.length_ciphertext]; exact boundary) session
      (by rw [Gcm.length_ciphertext]; exact total) supplied
  rw [output_eq] at outputs_eq
  rw [Gcm.length_ciphertext] at last_produced
  refine ⟨?_, session.produced_eq outputs_eq first_length middle_length middle_produced
    last_produced⟩
  rw [GcmSession.Succeeds, outputs_eq]
  exact succeed_of_parts succeed succeeds

end Sessions

namespace GcmSession

variable {backend : Backend} {key : Bytes}

/-- Another way to cut the same message, with the additional data given or omitted, makes the same
ciphertext and tag. -/
def SealsAlike (session : GcmSession) (sealer : FreshGcm backend .encrypt key)
    (other : GcmSession) (sealer' : FreshGcm backend .encrypt key) : Prop :=
  other.iv = session.iv → other.aadBytes = session.aadBytes → other.message = session.message →
    other.produced .encrypt sealer'.operation = session.produced .encrypt sealer.operation ∧
      other.sealedTag sealer'.operation = session.sealedTag sealer.operation

/-- A decryption session that is given what the session produced, however it is cut, succeeds and
produces the message. -/
def OpenedBy (session : GcmSession) (sealer : FreshGcm backend .encrypt key)
    (other : GcmSession) (opener : FreshGcm backend .decrypt key) : Prop :=
  other.iv = session.iv → other.aadBytes = session.aadBytes →
    other.message = session.produced .encrypt sealer.operation →
    other.suppliedTag = session.sealedTag sealer.operation →
      other.Succeeds .decrypt opener.operation ∧
        other.produced .decrypt opener.operation = session.message

end GcmSession

/-- Sealing succeeds and depends on the message alone, not on how it is cut or on whether empty
additional data is passed; and opening what was sealed gives the message back. -/
theorem gcm_sessions {lib : Mbedtls} {aes : BlockCipher Bytes Block}
    {keyed : lib.GcmContext → Bytes → Prop}
    {streams : lib.GcmContext → Direction → Bytes → Block → Bytes → Bytes → Prop}
    (laws : lib.GcmLaws aes keyed streams) {sha3 : Sha3} {ed25519 : Ed25519} {key : Bytes}
    (key_length : key.length = 32)
    (sealer sealer' : FreshGcm (Backend.mbedcrypt lib sha3 ed25519) .encrypt key)
    (opener : FreshGcm (Backend.mbedcrypt lib sha3 ed25519) .decrypt key)
    (session again reader : GcmSession) :
    session.Succeeds .encrypt sealer.operation ∧
      session.SealsAlike sealer again sealer' ∧ session.OpenedBy sealer reader opener := by
  obtain ⟨succeed, produced_eq, tag_eq⟩ := sealer.seals laws key_length session
  refine ⟨succeed, ?_, ?_⟩
  · intro same_iv same_aad same_message
    obtain ⟨_, produced_eq', tag_eq'⟩ := sealer'.seals laws key_length again
    rw [produced_eq', tag_eq', produced_eq, tag_eq, same_iv, same_aad, same_message]
    exact ⟨rfl, rfl⟩
  · intro same_iv same_aad ciphertext tag
    rw [produced_eq] at ciphertext
    obtain ⟨succeed', opened⟩ := opener.opens laws key_length reader
      (by rw [tag, tag_eq, same_iv, same_aad, ciphertext])
    rw [opened, same_iv, ciphertext, Gcm.crypt_crypt]
    exact ⟨succeed', rfl⟩

/-- A new handle of the instances with the key of the published example. -/
def vectorGcm {direction : Direction} (mode : UInt32)
    (direction_eq : Operation.directionOf mode = some direction)
    (allocated : teeAllocateOperation CryptLib.reference.backend
        (some (Operation.fresh CryptLib.reference.backend 0 0)) teeAlgAesGcm mode 256 =
      (.success, some (Operation.fresh CryptLib.reference.backend teeAlgAesGcm mode))) :
    FreshGcm CryptLib.reference.backend direction vectorKey where
  allocation := some (Operation.fresh CryptLib.reference.backend 0 0)
  mode := mode
  maxKeySize := 256
  handle := Operation.fresh CryptLib.reference.backend teeAlgAesGcm mode
  object := Operation.vectorKeyObject CryptLib.reference.backend
  allocated := allocated
  direction_eq := direction_eq
  type_eq := rfl
  publicKey_eq := rfl

/-- Memory with the ciphertext and the tag of the published block. -/
def vectorSealed : Memory :=
  let ciphertext := Gcm.crypt vectorCipher vectorKey Block.zero 0 vectorPlain.1
  (Memory.write (fun _ => 0) 16 ciphertext).write 48
    (Gcm.tag vectorCipher vectorKey Block.zero [] ciphertext).1

/-- A session with a nonce of zeros and the tag at the start of the last memory. -/
def vectorGcmSession (aad : Option AdditionalData) (chunks : List Chunk) (tag : Block)
    (rest : Bytes) (short : rest.length ≤ 64)
    (whole : ∀ chunk ∈ chunks, 16 ∣ chunk.buffers.srcLen)
    (pointers : ∀ chunk ∈ chunks,
      chunk.buffers.srcData.isSome = true ∧ chunk.buffers.destData.isSome = true)
    (limit : (messageOf chunks).length + 64 ≤ Mbedtls.gcmLimit) : GcmSession where
  memory := fun _ => 0
  nonce := 0
  aad
  chunks
  last := vectorPiece tag rest short
  tag := 0
  whole
  pointers := by
    intro chunk member
    rcases List.mem_append.mp member with front | last
    · exact pointers chunk front
    · rw [List.mem_singleton.mp last]
      exact ⟨rfl, rfl⟩
  apart := .inl (by decide : 0 + 16 ≤ 128)
  limit := by
    rw [length_messageOf_append]
    exact (Nat.add_le_add_left short _).trans limit

/-- A message of two blocks and five bytes. -/
def vectorText : Bytes := vectorPlain.1 ++ vectorPlain.1 ++ vectorPlain.1.take 5

/-- Its ciphertext. -/
def vectorTextSealed : Bytes := Gcm.crypt vectorCipher vectorKey .zero 0 vectorText

/-- Five bytes of additional data. -/
def vectorAad (address : Nat) : AdditionalData where
  memory := Memory.write (fun _ => 0) address (vectorPlain.1.take 5)
  data := some address
  length := 5
  fits := by decide
  null := nofun

/-- The message in blocks, with an empty chunk in between. -/
def vectorTextCut : GcmSession :=
  vectorGcmSession (some (vectorAad 0))
    [vectorPiece .zero (vectorText.take 16) (by decide), vectorNothing,
      vectorPiece .zero ((vectorText.drop 16).take 16) (by decide)]
    .zero (vectorText.drop 32) (by decide) (by decide) (by decide) (by decide +kernel)

/-- The message in two chunks, with the additional data elsewhere. -/
def vectorTextCut' : GcmSession :=
  vectorGcmSession (some (vectorAad 32))
    [vectorPiece .zero (vectorText.take 32) (by decide)]
    .zero (vectorText.drop 32) (by decide) (by decide) (by decide) (by decide +kernel)

/-- The ciphertext, cut behind its first block and with an empty chunk. -/
def vectorTextOpening : GcmSession :=
  vectorGcmSession (some (vectorAad 16))
    [vectorNothing, vectorPiece .zero (vectorTextSealed.take 16) (by decide +kernel)]
    (Gcm.tag vectorCipher vectorKey .zero (vectorPlain.1.take 5) vectorTextSealed)
    (vectorTextSealed.drop 16) (by decide +kernel) (by decide +kernel) (by decide)
    (by decide +kernel)

example :
    vectorTextOpening.message =
        vectorTextCut.produced .encrypt (vectorGcm teeModeEncrypt rfl rfl).operation ∧
      vectorTextOpening.suppliedTag =
        vectorTextCut.sealedTag (vectorGcm teeModeEncrypt rfl rfl).operation := by
  decide +kernel

theorem gcm_sessions_published :
    vectorTextCut.Succeeds .encrypt (vectorGcm teeModeEncrypt rfl rfl).operation ∧
      vectorTextCut.SealsAlike (vectorGcm teeModeEncrypt rfl rfl) vectorTextCut'
        (vectorGcm teeModeEncrypt rfl rfl) ∧
      vectorTextCut.OpenedBy (vectorGcm teeModeEncrypt rfl rfl) vectorTextOpening
        (vectorGcm teeModeDecrypt rfl rfl) :=
  gcm_sessions (Mbedtls.reference_gcmLaws vectorCipher) rfl _ _ _ _ _ _

end TaRef
