import TaRef.Operation.GcmSession
import TaRef.Crypto.Blockwise
import Mathlib.Data.List.SplitLengths

/-!
# Authenticated encryption in chunks

A session in either build with AES-GCM: `TEE_AEInit`, any number of `TEE_AEUpdateAAD` and
`TEE_AEUpdate` with chunks of any lengths, and a final call.  The builds share what the calls do to
the handle; they differ in where the keystream of a chunk begins and in which chunks the tag covers.
-/

namespace TaRef

/-- Where the keystream of a part begins, from the lengths of the parts before it, and which parts
the tag covers. -/
structure PartScheme where
  position : List Nat → Nat
  covered : List Bytes → List Bytes

/-- The scheme of a build. -/
def CryptLib.Kind.scheme : CryptLib.Kind → PartScheme
  | .wolfcrypt => { position := fun _ => 0, covered := fun parts => parts.getLast?.toList }
  | .mbedcrypt | .tiny => { position := Gcm.wholeBlocks, covered := id }

/-- The GCM library of a build processes messages in parts. -/
def CryptLib.PartsLaws (aes : BlockCipher Bytes Block) : CryptLib → Prop
  | .mbedcrypt lib _ _ => ∃ keyed streams, lib.PartsLaws aes keyed streams
  | .wolfcrypt lib => ∃ keyed, lib.GcmLaws aes keyed
  | .tiny _ _ _ _ => True

/-- The ciphertext side of the parts given to one direction. -/
def Gcm.ciphertextParts (aes : BlockCipher Bytes Block) (key : Bytes) (nonce : Block)
    (position : List Nat → Nat) (done : List Nat) (inputs : List Bytes) : Direction → List Bytes
  | .encrypt => Gcm.cryptParts aes key nonce position done inputs
  | .decrypt => inputs

/-- The blocks of a build process messages in parts.  `keyed operation direction key nonce` says
that a message can be started, and `feeds operation direction key nonce aad parts` that it was
started with the additional data and that its ciphertext so far is in the parts. -/
structure Backend.PartsLaws (backend : Backend) (aes : BlockCipher Bytes Block)
    (scheme : PartScheme)
    (keyed : backend.Operation → Direction → Bytes → Block → Prop)
    (feeds : backend.Operation → Direction → Bytes → Block → Bytes → List Bytes → Prop) :
    Prop where
  setkey : ∀ operation direction nonce, Operation.directionOf operation.mode = some direction →
    operation.aekey.length = 32 →
      (backend.gcmSetkey operation).1 = 0 ∧
        keyed { (backend.gcmSetkey operation).2 with aeiv := nonce, aegcmState := gcmStInit }
          direction operation.aekey nonce
  starts : ∀ {operation direction key nonce}, keyed operation direction key nonce → ∀ aad,
    (backend.gcmStarts operation aad).1 = 0 ∧
      feeds { (backend.gcmStarts operation aad).2 with aegcmState := gcmStAad } direction key nonce
        aad []
  restarts : ∀ {operation direction key nonce aad parts},
    feeds operation direction key nonce aad parts → keyed operation direction key nonce
  update : ∀ {operation direction key nonce aad parts},
    feeds operation direction key nonce aad parts → ∀ memory buffers,
      parts.flatten.length + buffers.srcLen ≤ Mbedtls.gcmLimit →
        (backend.gcmUpdate operation memory buffers).rv = 0 ∧
          buffers.output (backend.gcmUpdate operation memory buffers).memory =
            Gcm.crypt aes key nonce (scheme.position (parts.map List.length))
              (buffers.input memory) ∧
          feeds { (backend.gcmUpdate operation memory buffers).operation with
              aegcmState := gcmStActive } direction key nonce aad
            (parts ++ [Gcm.ciphertext aes key nonce (scheme.position (parts.map List.length))
              (buffers.input memory) direction])
  encryptFinal : ∀ {operation key nonce aad parts},
    feeds operation .encrypt key nonce aad parts → ∀ memory buffers tag,
      parts.flatten.length + buffers.srcLen ≤ Mbedtls.gcmLimit →
        (backend.gcmEncryptFinal operation memory buffers tag).rv = 0 ∧
          (backend.gcmEncryptFinal operation memory buffers tag).memory =
            (buffers.store memory (Gcm.crypt aes key nonce
              (scheme.position (parts.map List.length)) (buffers.input memory))).write tag
              (Gcm.tagOfParts aes key nonce aad (scheme.covered (parts ++ [Gcm.crypt aes key nonce
                (scheme.position (parts.map List.length)) (buffers.input memory)]))).1
  decryptFinal : ∀ {operation key nonce aad parts},
    feeds operation .decrypt key nonce aad parts → ∀ memory buffers tag,
      parts.flatten.length + buffers.srcLen ≤ Mbedtls.gcmLimit →
      (tag + 16 ≤ buffers.destData.getD 0 ∨ buffers.destData.getD 0 + buffers.srcLen ≤ tag) →
        ∃ verified after memory',
          backend.gcmDecryptFinal operation memory buffers tag =
            (.returned verified, after, memory') ∧
          (verified = true ↔ memory.read tag 16 = (Gcm.tagOfParts aes key nonce aad
            (scheme.covered (parts ++ [buffers.input memory]))).1) ∧
          (verified = true → buffers.output memory' = Gcm.crypt aes key nonce
            (scheme.position (parts.map List.length)) (buffers.input memory))

/-! ## The builds -/

theorem Gcm.output_store_crypt (aes : BlockCipher Bytes Block) (key : Bytes) (nonce : Block)
    (position : Nat) (memory : Memory) (buffers : Buffers) :
    buffers.output (buffers.store memory
        (Gcm.crypt aes key nonce position (buffers.input memory))) =
      Gcm.crypt aes key nonce position (buffers.input memory) :=
  buffers.output_store memory ((Gcm.length_crypt ..).trans (buffers.length_input memory))

theorem Backend.mbedcrypt_partsLaws {lib : Mbedtls} {aes : BlockCipher Bytes Block}
    {keyed : lib.GcmContext → Bytes → Prop}
    {streams : lib.GcmContext → Direction → Bytes → Block → Bytes → List Bytes → Prop}
    (laws : lib.PartsLaws aes keyed streams) (sha3 : Sha3) (ed25519 : Ed25519) :
    (Backend.mbedcrypt lib sha3 ed25519).PartsLaws aes CryptLib.Kind.mbedcrypt.scheme
      (fun operation direction key nonce =>
        Operation.directionOf operation.mode = some direction ∧ keyed operation.aegcmctx key ∧
          operation.aeiv = nonce)
      (fun operation direction key nonce aad parts =>
        Operation.directionOf operation.mode = some direction ∧
          streams operation.aegcmctx direction key nonce aad parts ∧ operation.aeiv = nonce) where
  setkey operation direction nonce mode length := by
    obtain ⟨rv, held⟩ := laws.setkey operation.aegcmctx operation.aekey length
    rw [mbedcrypt_gcmSetkey]
    exact ⟨rv, mode, held, rfl⟩
  starts := by
    rintro operation direction key nonce ⟨mode, held, rfl⟩ aad
    obtain ⟨rv, started⟩ := laws.starts held direction operation.aeiv aad
    rw [mbedcrypt_gcmStarts, direction_of_mode mode]
    exact ⟨rv, mode, started, rfl⟩
  restarts := fun ⟨mode, held, nonce_eq⟩ => ⟨mode, laws.restarts held, nonce_eq⟩
  update := by
    rintro operation direction key nonce aad parts ⟨mode, held, nonce_eq⟩ memory buffers fits
    obtain ⟨rv, output_eq, next⟩ := laws.update held (buffers.input memory)
      (by rw [buffers.length_input]; exact fits)
    rw [mbedcrypt_gcmUpdate, output_eq]
    exact ⟨rv, Gcm.output_store_crypt .., mode, next, nonce_eq⟩
  encryptFinal := by
    rintro operation key nonce aad parts ⟨_, held, _⟩ memory buffers tag fits
    obtain ⟨rv, output_eq, next⟩ := laws.update held (buffers.input memory)
      (by rw [buffers.length_input]; exact fits)
    obtain ⟨finish_rv, tag_eq⟩ := laws.finish next
    rw [mbedcrypt_gcmEncryptFinal _ _ _ _ _ _ _ rv, output_eq, tag_eq]
    exact ⟨finish_rv, rfl⟩
  decryptFinal := by
    rintro operation key nonce aad parts ⟨_, held, _⟩ memory buffers tag fits apart
    obtain ⟨rv, output_eq, next⟩ := laws.update held (buffers.input memory)
      (by rw [buffers.length_input]; exact fits)
    obtain ⟨finish_rv, tag_eq⟩ := laws.finish next
    have untouched : (buffers.store memory (Gcm.crypt aes key nonce
        (Gcm.wholeBlocks (parts.map List.length)) (buffers.input memory))).read tag 16 =
          memory.read tag 16 := by
      apply Memory.read_write_of_disjoint
      rw [Gcm.length_crypt, buffers.length_input]
      exact apart
    rw [mbedcrypt_gcmDecryptFinal _ _ _ _ _ _ _ rv finish_rv, output_eq, tag_eq, untouched]
    exact ⟨_, _, _, rfl, beq_iff_eq, fun _ => Gcm.output_store_crypt ..⟩

theorem Backend.wolfcrypt_partsLaws {lib : Wolfcrypt} {aes : BlockCipher Bytes Block}
    {keyed : lib.Aes → Bytes → Prop} (laws : lib.GcmLaws aes keyed) :
    (Backend.wolfcrypt lib).PartsLaws aes CryptLib.Kind.wolfcrypt.scheme
      (fun operation _ key nonce => keyed operation.aegcmctx key ∧ operation.aeiv = nonce)
      (fun operation _ key nonce aad _ =>
        keyed operation.aegcmctx key ∧ operation.aeiv = nonce ∧
          operation.aegcmAad.take operation.aegcmAadsz = aad) where
  setkey operation direction nonce _ length := by
    obtain ⟨rv, held⟩ := laws.setKey operation.aegcmctx operation.aekey length
    exact ⟨rv, held, rfl⟩
  starts := by
    rintro operation direction key nonce ⟨held, nonce_eq⟩ aad
    refine ⟨rfl, held, nonce_eq, ?_⟩
    cases aad with
    | nil => exact List.take_zero
    | cons byte aad =>
        have stored : overwrite operation.aegcmAad 0 (byte :: aad) =
            byte :: aad ++ operation.aegcmAad.drop (byte :: aad).length := by
          simp [overwrite]
        exact (congrArg (List.take _) stored).trans (List.take_left' rfl)
  restarts := fun ⟨held, nonce_eq, _⟩ => ⟨held, nonce_eq⟩
  update := by
    rintro operation direction key nonce _ parts ⟨held, rfl, rfl⟩ memory buffers _
    obtain ⟨rv, output_eq, _, next⟩ := laws.encrypt held (buffers.input memory) operation.aeiv
      (operation.aegcmAad.take operation.aegcmAadsz)
    simp only [wolfcrypt, output_eq]
    exact ⟨rv, Gcm.output_store_crypt .., next, trivial, trivial⟩
  encryptFinal := by
    rintro operation key nonce _ parts ⟨held, rfl, rfl⟩ memory buffers tag _
    obtain ⟨rv, output_eq, tag_eq, _⟩ := laws.encrypt held (buffers.input memory) operation.aeiv
      (operation.aegcmAad.take operation.aegcmAadsz)
    simp only [wolfcrypt, output_eq, tag_eq, CryptLib.Kind.scheme, List.getLast?_concat,
      Option.toList_some, Gcm.tagOfParts_singleton]
    exact ⟨rv, trivial⟩
  decryptFinal := by
    rintro operation key nonce _ parts ⟨held, rfl, rfl⟩ memory buffers tag _ _
    obtain ⟨verdict, output_eq⟩ := laws.decrypt held (buffers.input memory) operation.aeiv
      (memory.read tag 16) (operation.aegcmAad.take operation.aegcmAadsz)
    refine ⟨_, _, _, rfl, ?_, fun verified => ?_⟩
    · simp only [CryptLib.Kind.scheme, List.getLast?_concat, Option.toList_some,
        Gcm.tagOfParts_singleton]
      exact beq_iff_eq.trans verdict
    · rw [output_eq (beq_iff_eq.mp verified)]
      exact Gcm.output_store_crypt ..

/-- A build that admits AES-GCM processes messages in parts. -/
theorem CryptLib.PartsLaws.backend {build : CryptLib} {aes : BlockCipher Bytes Block}
    (laws : build.PartsLaws aes) (supported : build.backend.supportsGcm = true) :
    ∃ keyed feeds, build.backend.PartsLaws aes build.kind.scheme keyed feeds := by
  cases build with
  | mbedcrypt lib sha3 ed25519 =>
      obtain ⟨keyed, streams, laws⟩ := laws
      exact ⟨_, _, Backend.mbedcrypt_partsLaws laws sha3 ed25519⟩
  | wolfcrypt lib =>
      obtain ⟨keyed, laws⟩ := laws
      exact ⟨_, _, Backend.wolfcrypt_partsLaws laws⟩
  | tiny => cases supported

/-! ## Sessions -/

/-- The arguments of the calls of a session.  The chunks have any lengths, and the tag lies outside
the last destination. -/
structure AeSession where
  memory : Memory
  nonce : Nat
  aads : List AdditionalData
  chunks : List Chunk
  last : Chunk
  tag : Nat
  short : (aads.map AdditionalData.length).sum ≤ 16
  pointers : ∀ chunk ∈ chunks ++ [last],
    chunk.buffers.srcData.isSome = true ∧ chunk.buffers.destData.isSome = true
  apart : tag + 16 ≤ last.buffers.destData.getD 0 ∨
    last.buffers.destData.getD 0 + last.buffers.srcLen ≤ tag
  limit : (messageOf (chunks ++ [last])).length ≤ Mbedtls.gcmLimit

namespace AeSession

variable {backend : Backend}

/-- All chunks. -/
def pieces (session : AeSession) : List Chunk := session.chunks ++ [session.last]

/-- What the calls are given of the message. -/
def inputs (session : AeSession) : List Bytes := session.pieces.map Chunk.input

/-- The nonce. -/
def iv (session : AeSession) : Block :=
  Block.ofBytes (session.memory.read session.nonce teeObjectNonceSize)

/-- The whole message. -/
def message (session : AeSession) : Bytes := messageOf session.pieces

/-- The concatenated additional data. -/
def header (session : AeSession) : Bytes := (session.aads.map AdditionalData.bytes).flatten

/-- The additional data of the last call of `TEE_AEUpdateAAD`, empty when there is none. -/
def lastAad (session : AeSession) : Bytes :=
  (session.aads.getLast?.map AdditionalData.bytes).getD []

/-- The tag that the caller of `TEE_AEDecryptFinal` supplies. -/
def suppliedTag (session : AeSession) : Bytes := session.last.memory.read session.tag 16

/-- The call of `TEE_AEInit`. -/
def init (session : AeSession) : Invocation backend where
  memory := session.memory
  call := .aeInit (some session.nonce) 16 128 (session.aads.map AdditionalData.length).sum
    session.message.length

/-- The final call of a direction. -/
def closing (session : AeSession) : Direction → Invocation backend
  | .encrypt =>
      { memory := session.last.memory
        call := .aeEncryptFinal session.last.buffers (some session.last.buffers.srcLen)
          (some session.tag) (some 16) }
  | .decrypt =>
      { memory := session.last.memory
        call := .aeDecryptFinal session.last.buffers (some session.last.buffers.srcLen)
          (some session.tag) 16 }

end AeSession

/-- A call of `TEE_AEUpdateAAD`. -/
def AdditionalData.invocation {backend : Backend} (aad : AdditionalData) : Invocation backend where
  memory := aad.memory
  call := .aeUpdateAAD aad.data aad.length

/-- A call of `TEE_AEUpdate`. -/
def Chunk.invocation {backend : Backend} (chunk : Chunk) : Invocation backend where
  memory := chunk.memory
  call := .aeUpdate chunk.buffers (some chunk.buffers.srcLen)

namespace AeSession

variable {backend : Backend}

/-- The calls of the session before the final one. -/
def feeding (session : AeSession) : List (Invocation backend) :=
  session.init ::
    (session.aads.map AdditionalData.invocation ++ session.chunks.map Chunk.invocation)

/-- What the calls return on a handle. -/
def outputs (session : AeSession) (direction : Direction) (operation : backend.Operation) :
    List OperationOutput :=
  Machine.outputs Operation.step (some operation) (session.feeding ++ [session.closing direction])

/-- Every call succeeds. -/
def Succeeds (session : AeSession) (direction : Direction) (operation : backend.Operation) : Prop :=
  ∀ output ∈ session.outputs direction operation, output.Succeeds

/-- The concatenated outputs of the calls that process the message. -/
def produced (session : AeSession) (direction : Direction) (operation : backend.Operation) :
    Bytes :=
  producedBy session.pieces
    ((session.outputs direction operation).drop (1 + session.aads.length))

/-- What the final call returns. -/
def verdict (session : AeSession) (direction : Direction) (operation : backend.Operation) :
    Option (Exit TeeResult) :=
  (session.outputs direction operation).getLast?.map OperationOutput.exit

/-- The tag that the last call leaves in memory. -/
def sealedTag (session : AeSession) (operation : backend.Operation) : Bytes :=
  (((session.outputs .encrypt operation).getLast?).map fun output =>
    output.memory.read session.tag 16).getD []

end AeSession

/-! ## Feeding -/

section Feeding

variable {backend : Backend} {aes : BlockCipher Bytes Block} {scheme : PartScheme}
  {keyed : backend.Operation → Direction → Bytes → Block → Prop}
  {feeds : backend.Operation → Direction → Bytes → Block → Bytes → List Bytes → Prop}

/-- The library's message of a handle: either it can still be started, or it has been started and
its ciphertext so far is in the parts. -/
structure Feeding (keyed : backend.Operation → Direction → Bytes → Block → Prop)
    (feeds : backend.Operation → Direction → Bytes → Block → Bytes → List Bytes → Prop)
    (operation : backend.Operation) (direction : Direction) (key : Bytes) (nonce : Block)
    (aad : Bytes) (parts : List Bytes) : Prop where
  alg : operation.alg = teeAlgAesGcm
  state :
    operation.aegcmState = gcmStInit ∧ keyed operation direction key nonce ∧ aad = [] ∧
        parts = [] ∨
      gcmStAad ≤ operation.aegcmState ∧ feeds operation direction key nonce aad parts

variable {operation : backend.Operation} {direction : Direction} {key : Bytes} {nonce : Block}
  {aad : Bytes} {parts : List Bytes}

namespace Feeding

/-- A processing call finds the message started. -/
theorem readied (laws : backend.PartsLaws aes scheme keyed feeds)
    (feeding : Feeding keyed feeds operation direction key nonce aad parts) :
    gcmStInit ≤ operation.aegcmState ∧
      (operation.aegcmState = gcmStInit → (backend.gcmStarts operation []).1 = 0) ∧
      feeds (Operation.readied operation) direction key nonce aad parts := by
  rcases feeding.state with ⟨state, held, rfl, rfl⟩ | ⟨state, held⟩
  · obtain ⟨rv, started⟩ := laws.starts held []
    refine ⟨state.ge, fun _ => rv, ?_⟩
    rw [Operation.readied, if_pos state]
    exact started
  · have later := Operation.ne_init_of_aad_le state
    refine ⟨Int.le_trans (by decide) state, fun first => absurd first later, ?_⟩
    rw [Operation.readied, if_neg later]
    exact held

/-- A chunk with valid pointers passes the checks. -/
theorem admitsData (laws : backend.PartsLaws aes scheme keyed feeds)
    (feeding : Feeding keyed feeds operation direction key nonce aad parts) {buffers : Buffers}
    (pointers : buffers.srcData.isSome = true ∧ buffers.destData.isSome = true) (capacity : Nat) :
    Operation.AdmitsData operation buffers (some capacity) :=
  ⟨feeding.alg, pointers.2, pointers.1, rfl, (feeding.readied laws).1⟩

/-- `TEE_AEUpdateAAD` starts the message with this additional data, whatever was given before. -/
theorem restart (laws : backend.PartsLaws aes scheme keyed feeds) (framed : backend.Framed)
    (feeding : Feeding keyed feeds operation direction key nonce aad parts)
    (next : AdditionalData) :
    ∃ after, Operation.step (some operation) next.invocation =
        (.bare (.returned .success) next.memory, some after) ∧
      Feeding keyed feeds after direction key nonce next.bytes [] := by
  have held : keyed operation direction key nonce := by
    rcases feeding.state with ⟨_, held, _, _⟩ | ⟨_, held⟩
    · exact held
    · exact laws.restarts held
  obtain ⟨rv, started⟩ := laws.starts held next.bytes
  have run := Operation.teeAEUpdateAAD_of_admitted next.memory
    (⟨next.null, next.fits, (feeding.readied laws).1⟩ :
      Operation.AdmitsAAD operation next.data next.length) rv
  refine ⟨_, Operation.step_of_perform
    (congrArg (fun result => (OperationOutput.ofVoid result.1 next.memory, result.2)) run) rfl, ?_⟩
  exact
    { alg := (congrArg Control.alg (framed.gcmStarts operation next.bytes)).trans feeding.alg
      state := .inr ⟨Int.le_refl gcmStAad, started⟩ }

/-- Of several calls of `TEE_AEUpdateAAD` the last one counts. -/
theorem restarts (laws : backend.PartsLaws aes scheme keyed feeds) (framed : backend.Framed)
    (aads : List AdditionalData)
    (feeding : Feeding keyed feeds operation direction key nonce aad []) :
    ∃ after,
      Machine.final Operation.step (some operation) (aads.map AdditionalData.invocation) =
          some after ∧
      (∀ output ∈ Machine.outputs Operation.step (some operation)
        (aads.map AdditionalData.invocation), output.Succeeds) ∧
      Feeding keyed feeds after direction key nonce
        ((aads.getLast?.map AdditionalData.bytes).getD aad) [] := by
  induction aads generalizing operation aad with
  | nil =>
      refine ⟨operation, rfl, ?_, feeding⟩
      intro output member
      cases member
  | cons next aads ih =>
      obtain ⟨between, stepped, feeding'⟩ := feeding.restart laws framed next
      obtain ⟨after, after_eq, succeed, last⟩ := ih feeding'
      refine ⟨after, ?_, ?_, ?_⟩
      · rw [List.map_cons, Machine.final_cons, stepped, after_eq]
      · intro output member
        rw [List.map_cons, Machine.outputs_cons, stepped] at member
        rcases List.mem_cons.mp member with rfl | later
        · rfl
        · exact succeed output later
      · rw [List.getLast?_cons]
        cases last_eq : aads.getLast? with
        | none => simpa [last_eq] using last
        | some other => simpa [last_eq] using last

/-- `TEE_AEUpdate` processes the next part. -/
theorem update (laws : backend.PartsLaws aes scheme keyed feeds) (framed : backend.Framed)
    (feeding : Feeding keyed feeds operation direction key nonce aad parts) (chunk : Chunk)
    (pointers : chunk.buffers.srcData.isSome = true ∧ chunk.buffers.destData.isSome = true)
    (fits : parts.flatten.length + chunk.buffers.srcLen ≤ Mbedtls.gcmLimit) :
    ∃ output after, Operation.step (some operation) chunk.invocation = (output, some after) ∧
      output.Succeeds ∧
      chunk.produced output =
        Gcm.crypt aes key nonce (scheme.position (parts.map List.length)) chunk.input ∧
      Feeding keyed feeds after direction key nonce aad
        (parts ++ [Gcm.ciphertext aes key nonce (scheme.position (parts.map List.length))
          chunk.input direction]) := by
  obtain ⟨_, started, held⟩ := feeding.readied laws
  obtain ⟨rv, output_eq, next⟩ := laws.update held chunk.memory chunk.buffers fits
  have run := Operation.teeAEUpdate_of_admitted chunk.memory
    (feeding.admitsData laws pointers chunk.buffers.srcLen) started rv
  have kept := congrArg Control.alg
    (framed.gcmUpdate (Operation.readied operation) chunk.memory chunk.buffers)
  have kept' := congrArg (·.1) (Operation.purpose_readied framed operation)
  refine ⟨_, _, Operation.step_of_perform run rfl, rfl, output_eq, ?_⟩
  exact
    { alg := (kept.trans kept').trans feeding.alg
      state := .inr ⟨(by decide : gcmStAad ≤ gcmStActive), next⟩ }

end Feeding

@[simp]
theorem Gcm.ciphertextParts_nil (position : List Nat → Nat) (done : List Nat)
    (direction : Direction) :
    Gcm.ciphertextParts aes key nonce position done [] direction = [] := by
  cases direction <;> rfl

theorem Gcm.ciphertextParts_cons (position : List Nat → Nat) (done : List Nat) (input : Bytes)
    (inputs : List Bytes) (direction : Direction) :
    Gcm.ciphertextParts aes key nonce position done (input :: inputs) direction =
      Gcm.ciphertext aes key nonce (position done) input direction ::
        Gcm.ciphertextParts aes key nonce position (done ++ [input.length]) inputs direction := by
  cases direction <;> rfl

@[simp]
theorem Gcm.map_length_ciphertextParts (position : List Nat → Nat) (done : List Nat)
    (inputs : List Bytes) (direction : Direction) :
    (Gcm.ciphertextParts aes key nonce position done inputs direction).map List.length =
      inputs.map List.length := by
  cases direction with
  | encrypt => exact Gcm.map_length_cryptParts aes key nonce position done inputs
  | decrypt => rfl

/-- Updates process the chunks one after the other. -/
theorem Feeding.updates (laws : backend.PartsLaws aes scheme keyed feeds) (framed : backend.Framed)
    {chunks : List Chunk}
    (pointers : ∀ chunk ∈ chunks,
      chunk.buffers.srcData.isSome = true ∧ chunk.buffers.destData.isSome = true)
    (feeding : Feeding keyed feeds operation direction key nonce aad parts)
    (fits : parts.flatten.length + (messageOf chunks).length ≤ Mbedtls.gcmLimit) :
    ∃ after,
      Machine.final Operation.step (some operation) (chunks.map Chunk.invocation) = some after ∧
      (∀ output ∈ Machine.outputs Operation.step (some operation) (chunks.map Chunk.invocation),
        output.Succeeds) ∧
      producedBy chunks
          (Machine.outputs Operation.step (some operation) (chunks.map Chunk.invocation)) =
        (Gcm.cryptParts aes key nonce scheme.position (parts.map List.length)
          (chunks.map Chunk.input)).flatten ∧
      Feeding keyed feeds after direction key nonce aad
        (parts ++ Gcm.ciphertextParts aes key nonce scheme.position (parts.map List.length)
          (chunks.map Chunk.input) direction) := by
  induction chunks generalizing operation parts with
  | nil =>
      refine ⟨operation, rfl, ?_, rfl, ?_⟩
      · intro output member
        cases member
      · rwa [List.map_nil, Gcm.ciphertextParts_nil, List.append_nil]
  | cons chunk chunks ih =>
      rw [messageOf_cons, List.length_append, Chunk.length_input] at fits
      obtain ⟨output, between, stepped, succeeds, produced_eq, feeding'⟩ :=
        feeding.update laws framed chunk (pointers chunk List.mem_cons_self) (by omega)
      have grown : (parts ++ [Gcm.ciphertext aes key nonce
          (scheme.position (parts.map List.length)) chunk.input direction]).map List.length =
            parts.map List.length ++ [chunk.input.length] := by simp
      obtain ⟨after, after_eq, succeed, produced_eq', feeding''⟩ :=
        ih (fun other member => pointers other (List.mem_cons_of_mem _ member)) feeding'
          (by
            rw [List.flatten_append, List.length_append, List.flatten_singleton,
              Gcm.length_ciphertext, Chunk.length_input]
            omega)
      rw [grown] at produced_eq' feeding''
      refine ⟨after, ?_, ?_, ?_, ?_⟩
      · rw [List.map_cons, Machine.final_cons, stepped, after_eq]
      · intro other member
        rw [List.map_cons, Machine.outputs_cons, stepped] at member
        rcases List.mem_cons.mp member with rfl | later
        · exact succeeds
        · exact succeed other later
      · rw [List.map_cons, Machine.outputs_cons, stepped, producedBy_cons, produced_eq,
          produced_eq']
        rfl
      · rw [List.map_cons, Gcm.ciphertextParts_cons]
        rwa [List.append_assoc, List.singleton_append] at feeding''

/-- `TEE_AEEncryptFinal` processes the last part and leaves the tag of the parts it covers. -/
theorem Feeding.encryptFinal (laws : backend.PartsLaws aes scheme keyed feeds)
    (session : AeSession)
    (feeding : Feeding keyed feeds operation .encrypt key nonce aad parts)
    (fits : parts.flatten.length + session.last.buffers.srcLen ≤ Mbedtls.gcmLimit) :
    ∃ output, (Operation.step (some operation) (session.closing .encrypt)).1 = output ∧
      output.Succeeds ∧
      session.last.produced output = Gcm.crypt aes key nonce
        (scheme.position (parts.map List.length)) session.last.input ∧
      output.memory.read session.tag 16 = (Gcm.tagOfParts aes key nonce aad
        (scheme.covered (parts ++ [Gcm.crypt aes key nonce
          (scheme.position (parts.map List.length)) session.last.input]))).1 := by
  obtain ⟨_, started, held⟩ := feeding.readied laws
  obtain ⟨rv, memory_eq⟩ := laws.encryptFinal held session.last.memory session.last.buffers
    session.tag fits
  have run := Operation.teeAEEncryptFinal_of_admitted session.last.memory session.tag
    (feeding.admitsData laws (session.pointers session.last (by simp)) session.last.buffers.srcLen)
    started rv
  rw [memory_eq] at run
  have performed : (session.closing .encrypt).perform operation = _ := run
  refine ⟨_, congrArg Prod.fst (Operation.step_of_perform performed rfl), rfl, ?_, ?_⟩
  · simp only [Chunk.produced, Buffers.output]
    rw [Memory.read_write_of_disjoint]
    · exact Gcm.output_store_crypt ..
    · rw [(Gcm.tagOfParts ..).2]
      exact session.apart.symm
  · exact Memory.read_write_block ..

/-- `TEE_AEDecryptFinal` compares the tag of the parts it covers. -/
theorem Feeding.decryptFinal (laws : backend.PartsLaws aes scheme keyed feeds)
    (session : AeSession)
    (feeding : Feeding keyed feeds operation .decrypt key nonce aad parts)
    (fits : parts.flatten.length + session.last.buffers.srcLen ≤ Mbedtls.gcmLimit) :
    ∃ output, (Operation.step (some operation) (session.closing .decrypt)).1 = output ∧
      output.exit = .returned (if session.suppliedTag = (Gcm.tagOfParts aes key nonce aad
        (scheme.covered (parts ++ [session.last.input]))).1 then .success else .errorMacInvalid) ∧
      (output.Succeeds → session.last.produced output = Gcm.crypt aes key nonce
        (scheme.position (parts.map List.length)) session.last.input) := by
  obtain ⟨_, started, held⟩ := feeding.readied laws
  obtain ⟨verified, after, memory', final, verdict, output_eq⟩ :=
    laws.decryptFinal held session.last.memory session.last.buffers session.tag fits session.apart
  have run := Operation.teeAEDecryptFinal_of_admitted
    (feeding.admitsData laws (session.pointers session.last (by simp)) session.last.buffers.srcLen)
    started final
  have performed : (session.closing .decrypt).perform operation = _ := run
  refine ⟨_, rfl, ?_, ?_⟩
  · rw [Operation.step_some, performed]
    cases verified with
    | true => exact congrArg Exit.returned (if_pos (verdict.mp rfl)).symm
    | false =>
        have differs := fun same => Bool.false_ne_true (verdict.mpr same)
        exact congrArg Exit.returned (if_neg differs).symm
  · rw [Operation.step_some, performed]
    cases verified with
    | true => exact fun _ => output_eq rfl
    | false =>
        intro succeeds
        cases succeeds

end Feeding

/-! ## Whole sessions -/

section Whole

variable {backend : Backend} {aes : BlockCipher Bytes Block} {scheme : PartScheme}
  {keyed : backend.Operation → Direction → Bytes → Block → Prop}
  {feeds : backend.Operation → Direction → Bytes → Block → Bytes → List Bytes → Prop}
  {direction : Direction} {key : Bytes}

theorem length_flatten_eq {parts parts' : List Bytes}
    (lengths : parts.map List.length = parts'.map List.length) :
    parts.flatten.length = parts'.flatten.length := by
  rw [List.length_flatten, List.length_flatten, lengths]

theorem AeSession.message_eq (session : AeSession) :
    session.message = messageOf session.chunks ++ session.last.input := by
  rw [message, pieces, messageOf_append, messageOf_cons]
  exact congrArg _ (List.append_nil _)

theorem AeSession.inputs_eq (session : AeSession) :
    session.inputs = session.chunks.map Chunk.input ++ [session.last.input] := by
  rw [inputs, pieces, List.map_append, List.map_singleton]

/-- The ciphertext of the chunks and the last one. -/
theorem AeSession.cryptParts_inputs (session : AeSession) (nonce : Block)
    (position : List Nat → Nat) :
    Gcm.cryptParts aes key nonce position [] session.inputs =
      Gcm.cryptParts aes key nonce position [] (session.chunks.map Chunk.input) ++
        [Gcm.crypt aes key nonce
          (position ((session.chunks.map Chunk.input).map List.length)) session.last.input] := by
  rw [session.inputs_eq, Gcm.cryptParts_append, List.nil_append]
  rfl

/-- When every call succeeds, so does the final one. -/
theorem AeSession.verdict_of_succeeds {session : AeSession} {operation : backend.Operation}
    (succeeds : session.Succeeds direction operation) :
    session.verdict direction operation = some (.returned .success) := by
  cases last : (session.outputs direction operation).getLast? with
  | none =>
      have count := Machine.length_outputs Operation.step (some operation)
        (session.feeding ++ [session.closing direction])
      rw [← outputs, List.getLast?_eq_none_iff.mp last, List.length_append] at count
      cases count
  | some output =>
      rw [verdict, last]
      exact congrArg some (succeeds output (List.mem_of_getLast? last))

/-- `TEE_AEInit` keys the library and keeps the nonce. -/
theorem FreshGcm.initialised (laws : backend.PartsLaws aes scheme keyed feeds)
    (framed : backend.Framed) (key_length : key.length = 32)
    (fresh : FreshGcm backend direction key)
    (session : AeSession) :
    ∃ started, Operation.step (some fresh.operation) session.init =
        (.bare (.returned .success) session.memory, some started) ∧
      Feeding keyed feeds started direction key session.iv [] [] := by
  obtain ⟨rv, held⟩ := laws.setkey fresh.operation direction session.iv
    (by rw [fresh.operation_eq]; exact fresh.direction_eq)
    (fresh.aekey_eq.symm ▸ key_length)
  have init := Operation.teeAEInit_of_admitted (fresh.admitsInit session.nonce session.short)
    (by rw [fresh.operation_eq]; rfl) rv session.memory session.message.length
  rw [fresh.aekey_eq] at held
  refine ⟨_, Operation.step_of_perform (congrArg
    (fun result => (OperationOutput.bare result.1 session.memory, result.2)) init) rfl, ?_⟩
  exact
    { alg := (congrArg Control.alg (framed.gcmSetkey fresh.operation)).trans fresh.alg_eq
      state := .inl ⟨rfl, held, rfl, rfl⟩ }

/-- Before the final call: what the session has returned, and which parts the handle was fed. -/
theorem FreshGcm.fedParts (laws : backend.PartsLaws aes scheme keyed feeds)
    (framed : backend.Framed) (key_length : key.length = 32)
    (fresh : FreshGcm backend direction key) (session : AeSession) :
    ∃ first middle before,
      session.outputs direction fresh.operation =
          first ++ (middle ++ [(Operation.step (some before) (session.closing direction)).1]) ∧
      first.length = 1 + session.aads.length ∧ middle.length = session.chunks.length ∧
      (∀ output ∈ first ++ middle, output.Succeeds) ∧
      producedBy session.chunks middle = (Gcm.cryptParts aes key session.iv scheme.position []
        (session.chunks.map Chunk.input)).flatten ∧
      Feeding keyed feeds before direction key session.iv session.lastAad
        (Gcm.ciphertextParts aes key session.iv scheme.position []
          (session.chunks.map Chunk.input) direction) ∧
      (messageOf session.chunks).length + session.last.buffers.srcLen ≤ Mbedtls.gcmLimit := by
  have total := session.limit
  rw [length_messageOf_append] at total
  obtain ⟨started, init_eq, feeding⟩ := fresh.initialised laws framed key_length session
  obtain ⟨opened, opened_eq, opening, feeding'⟩ := feeding.restarts laws framed session.aads
  obtain ⟨before, before_eq, updating, produced_eq, feeding''⟩ :=
    feeding'.updates laws framed
      (fun chunk member => session.pointers chunk (List.mem_append_left _ member))
      (by simp only [List.flatten_nil, List.length_nil]; omega)
  refine ⟨.bare (.returned .success) session.memory ::
      Machine.outputs Operation.step (some started) (session.aads.map AdditionalData.invocation),
    Machine.outputs Operation.step (some opened) (session.chunks.map Chunk.invocation),
    before, ?_, ?_, ?_, ?_, produced_eq, feeding'', total⟩
  · rw [AeSession.outputs, AeSession.feeding, List.cons_append, Machine.outputs_cons, init_eq,
      List.append_assoc, Machine.outputs_append, Machine.outputs_append, opened_eq, before_eq]
    rfl
  · rw [List.length_cons, Machine.length_outputs, List.length_map, Nat.add_comm]
  · rw [Machine.length_outputs, List.length_map]
  · intro output member
    rcases List.mem_append.mp member with early | late
    · rcases List.mem_cons.mp early with rfl | later
      · rfl
      · exact opening output later
    · exact updating output late

/-- What is produced in a session whose last call processes the last part. -/
theorem AeSession.produced_eq (session : AeSession) {operation : backend.Operation} {nonce : Block}
    {first middle : List OperationOutput} {output : OperationOutput}
    (outputs_eq : session.outputs direction operation = first ++ (middle ++ [output]))
    (first_length : first.length = 1 + session.aads.length)
    (middle_length : middle.length = session.chunks.length)
    (middle_produced : producedBy session.chunks middle =
      (Gcm.cryptParts aes key nonce scheme.position [] (session.chunks.map Chunk.input)).flatten)
    (last_produced : session.last.produced output = Gcm.crypt aes key nonce
      (scheme.position ((session.chunks.map Chunk.input).map List.length)) session.last.input) :
    session.produced direction operation =
      (Gcm.cryptParts aes key nonce scheme.position [] session.inputs).flatten := by
  rw [produced, outputs_eq, ← first_length, List.drop_left, pieces,
    producedBy_append middle_length, middle_produced, producedBy_cons, last_produced,
    session.cryptParts_inputs, List.flatten_append, List.flatten_singleton]
  exact congrArg _ (List.append_nil _)

/-- A session on a new encryption handle produces the parts of the ciphertext, and the tag of those
that the build covers with the last additional data. -/
theorem FreshGcm.sealsParts (laws : backend.PartsLaws aes scheme keyed feeds)
    (framed : backend.Framed) (key_length : key.length = 32)
    (fresh : FreshGcm backend .encrypt key) (session : AeSession) :
    session.Succeeds .encrypt fresh.operation ∧
      session.produced .encrypt fresh.operation =
        (Gcm.cryptParts aes key session.iv scheme.position [] session.inputs).flatten ∧
      session.sealedTag fresh.operation = (Gcm.tagOfParts aes key session.iv session.lastAad
        (scheme.covered
          (Gcm.cryptParts aes key session.iv scheme.position [] session.inputs))).1 := by
  obtain ⟨first, middle, before, outputs_eq, first_length, middle_length, succeed,
    middle_produced, feeding, total⟩ := fresh.fedParts laws framed key_length session
  have lengths : (Gcm.ciphertextParts aes key session.iv scheme.position []
      (session.chunks.map Chunk.input) .encrypt).map List.length =
        (session.chunks.map Chunk.input).map List.length :=
    Gcm.map_length_ciphertextParts ..
  obtain ⟨output, output_eq, succeeds, last_produced, tag_eq⟩ :=
    feeding.encryptFinal laws session (by rw [length_flatten_eq lengths]; exact total)
  rw [output_eq] at outputs_eq
  rw [lengths] at last_produced tag_eq
  refine ⟨?_, session.produced_eq outputs_eq first_length middle_length middle_produced
    last_produced, ?_⟩
  · rw [AeSession.Succeeds, outputs_eq]
    exact succeed_of_parts succeed succeeds
  · rw [AeSession.sealedTag, outputs_eq, ← List.append_assoc, List.getLast?_concat,
      session.cryptParts_inputs]
    exact tag_eq

/-- A session on a new decryption handle compares the tag of the parts that the build covers with
the last additional data. -/
theorem FreshGcm.opensParts (laws : backend.PartsLaws aes scheme keyed feeds)
    (framed : backend.Framed) (key_length : key.length = 32)
    (fresh : FreshGcm backend .decrypt key) (session : AeSession) :
    session.verdict .decrypt fresh.operation = some (.returned
        (if session.suppliedTag = (Gcm.tagOfParts aes key session.iv session.lastAad
          (scheme.covered session.inputs)).1 then .success else .errorMacInvalid)) ∧
      (session.Succeeds .decrypt fresh.operation →
        session.produced .decrypt fresh.operation =
          (Gcm.cryptParts aes key session.iv scheme.position [] session.inputs).flatten) := by
  obtain ⟨first, middle, before, outputs_eq, first_length, middle_length, succeed,
    middle_produced, feeding, total⟩ := fresh.fedParts laws framed key_length session
  have lengths : (Gcm.ciphertextParts aes key session.iv scheme.position []
      (session.chunks.map Chunk.input) .decrypt).map List.length =
        (session.chunks.map Chunk.input).map List.length :=
    Gcm.map_length_ciphertextParts ..
  obtain ⟨output, output_eq, exit_eq, last_produced⟩ :=
    feeding.decryptFinal laws session (by rw [length_flatten_eq lengths]; exact total)
  rw [output_eq] at outputs_eq
  rw [lengths] at last_produced
  refine ⟨?_, fun succeeds => ?_⟩
  · rw [AeSession.verdict, outputs_eq, ← List.append_assoc, List.getLast?_concat, Option.map_some,
      exit_eq, session.inputs_eq]
    rfl
  · have last : output.Succeeds := by
      rw [AeSession.Succeeds, outputs_eq] at succeeds
      exact succeeds output (by simp)
    exact session.produced_eq outputs_eq first_length middle_length middle_produced
      (last_produced last)

/-- A session without updates produces the ciphertext of its message, and its tag. -/
theorem FreshGcm.sealsWhole {kind : CryptLib.Kind}
    (laws : backend.PartsLaws aes kind.scheme keyed feeds) (framed : backend.Framed)
    (key_length : key.length = 32) (fresh : FreshGcm backend .encrypt key) {session : AeSession}
    (single : session.chunks = []) :
    session.produced .encrypt fresh.operation =
        Gcm.crypt aes key session.iv 0 session.message ∧
      session.sealedTag fresh.operation = (Gcm.tag aes key session.iv session.lastAad
        (Gcm.crypt aes key session.iv 0 session.message)).1 := by
  obtain ⟨_, produced_eq, tag_eq⟩ := fresh.sealsParts laws framed key_length session
  have message_eq : session.message = session.last.input := by
    rw [session.message_eq, single]
    rfl
  have parts_eq : Gcm.cryptParts aes key session.iv kind.scheme.position [] session.inputs =
      [Gcm.crypt aes key session.iv 0 session.message] := by
    rw [session.cryptParts_inputs, single, message_eq]
    cases kind <;> rfl
  have covered_eq : ∀ part : Bytes, kind.scheme.covered [part] = [part] := by
    intro part
    cases kind <;> rfl
  rw [parts_eq] at produced_eq tag_eq
  rw [covered_eq, Gcm.tagOfParts_singleton] at tag_eq
  exact ⟨produced_eq.trans (List.flatten_singleton ..), tag_eq⟩

/-- A handle of a build with AES-GCM. -/
theorem FreshGcm.supported (fresh : FreshGcm backend direction key) :
    backend.supportsGcm = true := by
  rcases Operation.allocated_cases fresh.allocated with
    ⟨_, other, _⟩ | ⟨_, ⟨_, other | ⟨_, supported⟩⟩ | ⟨_, other⟩⟩
  · exact absurd other (by decide)
  · exact absurd other (by decide)
  · exact supported
  · exact absurd other (by decide)

end Whole

/-! ## Sessions on given bytes -/

/-- The instances of a build over a block cipher. -/
def CryptLib.Kind.build (aes : BlockCipher Bytes Block) : CryptLib.Kind → CryptLib
  | .mbedcrypt => .mbedcrypt (.blockwise aes) (.reference vectorHash) .reference
  | .wolfcrypt => .wolfcrypt (.reference aes vectorHash)
  | .tiny => .tiny (.reference aes) (.reference vectorHash) .reference 0

@[simp]
theorem CryptLib.Kind.kind_build (aes : BlockCipher Bytes Block) (kind : CryptLib.Kind) :
    (kind.build aes).kind = kind := by
  cases kind <;> rfl

theorem CryptLib.Kind.build_partsLaws (aes : BlockCipher Bytes Block) (kind : CryptLib.Kind) :
    (kind.build aes).PartsLaws aes := by
  cases kind with
  | mbedcrypt => exact ⟨_, _, Mbedtls.blockwise_partsLaws aes⟩
  | wolfcrypt => exact ⟨_, Wolfcrypt.reference_gcmLaws aes vectorHash⟩
  | tiny => trivial

theorem CryptLib.Kind.build_supports (aes : BlockCipher Bytes Block) {kind : CryptLib.Kind}
    (gcm : kind ≠ .tiny) : (kind.build aes).backend.supportsGcm = true := by
  cases kind with
  | mbedcrypt | wolfcrypt => rfl
  | tiny => exact absurd rfl gcm

/-- A new handle for encryption from zeroed memory. -/
def FreshGcm.ofZeroed (backend : Backend) (supported : backend.supportsGcm = true) (key : Bytes) :
    FreshGcm backend .encrypt key where
  allocation := some (Operation.fresh backend 0 0)
  mode := teeModeEncrypt
  maxKeySize := 256
  handle := Operation.fresh backend teeAlgAesGcm teeModeEncrypt
  object :=
    { ObjectHandle.zeroed backend.zeroAes backend.zeroKey with
      type := teeTypeAes, publicKey := key }
  allocated := by
    have admitted : ¬ (teeAlgAesGcm = teeAlgAesGcm ∧ backend.supportsGcm = false) := by
      rw [supported]
      decide
    exact if_neg admitted
  direction_eq := rfl
  type_eq := rfl
  publicKey_eq := rfl

/-- A chunk that holds some bytes and is processed in place. -/
def Chunk.inPlace (bytes : Bytes) (short : bytes.length < 2 ^ 32) : Chunk where
  memory := Memory.write (fun _ => 0) 0 bytes
  buffers :=
    { srcData := some 0
      srcLen := bytes.length
      destData := some 0
      srcLen_lt := short
      separate := by
        rintro _ _ ⟨⟩ ⟨⟩
        exact .inl rfl }

theorem Chunk.input_inPlace (bytes : Bytes) (short : bytes.length < 2 ^ 32) :
    (Chunk.inPlace bytes short).input = bytes := Memory.read_write (fun _ => 0) 0 bytes

/-- Some zeros as additional data. -/
def AdditionalData.zeros (count : Nat) (fits : count ≤ 16) : AdditionalData where
  memory := fun _ => 0
  data := some 0
  length := count
  fits := fits
  null := nofun

theorem AdditionalData.bytes_zeros (count : Nat) (fits : count ≤ 16) :
    (AdditionalData.zeros count fits).bytes = List.replicate count 0 := by
  simp [bytes, zeros, Memory.read, List.map_const']

theorem map_input_pmap_inPlace (parts : List Bytes)
    (short : ∀ part ∈ parts, part.length < 2 ^ 32) :
    (parts.pmap Chunk.inPlace short).map Chunk.input = parts := by
  induction parts with
  | nil => rfl
  | cons part parts ih => rw [List.pmap_cons, List.map_cons, Chunk.input_inPlace, ih]

/-- A session on some parts under a nonce of zeros, with the tag behind the last part. -/
def AeSession.inPlace (aads : List AdditionalData)
    (short : (aads.map AdditionalData.length).sum ≤ 16) (parts : List Bytes) (last : Bytes)
    (fits : parts.flatten.length + last.length < 2 ^ 32) : AeSession where
  memory := fun _ => 0
  nonce := 0
  aads := aads
  chunks := parts.pmap Chunk.inPlace fun part member => by
    have within := (List.sublist_flatten_of_mem member).length_le
    omega
  last := .inPlace last (by omega)
  tag := last.length
  short := short
  pointers := by
    intro chunk member
    rcases List.mem_append.mp member with early | final
    · obtain ⟨part, inside, rfl⟩ := List.mem_pmap.mp early
      exact ⟨rfl, rfl⟩
    · obtain rfl := List.mem_singleton.mp final
      exact ⟨rfl, rfl⟩
  apart := .inr (Nat.le_of_eq (Nat.zero_add _))
  limit := by
    rw [messageOf_append, messageOf_cons, List.length_append, List.length_append,
      Chunk.input_inPlace, messageOf, map_input_pmap_inPlace]
    exact Nat.le_trans (Nat.le_of_lt fits) (by decide)

section InPlace

variable {aads : List AdditionalData} {short : (aads.map AdditionalData.length).sum ≤ 16}
  {parts : List Bytes} {last : Bytes} {fits : parts.flatten.length + last.length < 2 ^ 32}

theorem AeSession.inputs_inPlace :
    (AeSession.inPlace aads short parts last fits).inputs = parts ++ [last] := by
  rw [inputs_eq]
  exact congrArg₂ (fun left right => left ++ [right]) (map_input_pmap_inPlace parts _)
    (Chunk.input_inPlace last _)

theorem AeSession.message_inPlace :
    (AeSession.inPlace aads short parts last fits).message = parts.flatten ++ last := by
  have message_eq := congrArg List.flatten
    (AeSession.inputs_inPlace : (AeSession.inPlace aads short parts last fits).inputs = _)
  rw [List.flatten_append, List.flatten_singleton] at message_eq
  exact message_eq

theorem AeSession.iv_inPlace : (AeSession.inPlace aads short parts last fits).iv = Block.zero := rfl

end InPlace

end TaRef
