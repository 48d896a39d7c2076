import TaRef.Crypto.Traced
import TaRef.Operation.Specification

/-!
# Keystream of an authenticated encryption

The API runs on recording libraries, and every call leaves a short piece in the record of the
context.  With mbedtls the counter starts again whenever `TEE_AEUpdateAAD` runs, with wolfCrypt on
every call that processes data; a run uses a counter block twice only when payload comes on both
sides of such a start.
-/

namespace TaRef

/-- The blocks of a build record what they do with the GCM context: `starts` are the events of
taking the additional data, and `feeds` those of processing data, for the nonce in the handle. -/
structure Backend.Traces (backend : Backend) (trace : backend.Gcm → List GcmEvent)
    (starts : Block → List GcmEvent) (feeds : Block → Nat → List GcmEvent) : Prop where
  copyKeypair : ∀ operation key,
    (backend.copyKeypair operation key).aegcmctx = operation.aegcmctx
  cipherInit : ∀ operation nonce,
    (backend.cipherInit operation nonce).2.aegcmctx = operation.aegcmctx
  cbc : ∀ direction operation memory buffers,
    (backend.cbc direction operation memory buffers).1.aegcmctx = operation.aegcmctx
  gcmSetkey : ∀ operation, trace (backend.gcmSetkey operation).2.aegcmctx =
    .setkey operation.aekey :: trace operation.aegcmctx
  gcmStarts : ∀ operation aad,
    trace (backend.gcmStarts operation aad).2.aegcmctx =
        starts operation.aeiv ++ trace operation.aegcmctx ∧
      (backend.gcmStarts operation aad).2.aeiv = operation.aeiv
  gcmUpdate : ∀ operation memory buffers,
    trace (backend.gcmUpdate operation memory buffers).operation.aegcmctx =
      feeds operation.aeiv buffers.srcLen ++ trace operation.aegcmctx
  gcmEncryptFinal : ∀ operation memory buffers tag,
    trace (backend.gcmEncryptFinal operation memory buffers tag).operation.aegcmctx =
      feeds operation.aeiv buffers.srcLen ++ trace operation.aegcmctx
  gcmDecryptFinal : ∀ operation memory buffers tag,
    trace (backend.gcmDecryptFinal operation memory buffers tag).2.1.aegcmctx =
      feeds operation.aeiv buffers.srcLen ++ trace operation.aegcmctx

theorem Backend.mbedcrypt_traces (lib : Mbedtls) (sha3 : Sha3) (ed25519 : Ed25519) :
    (Backend.mbedcrypt lib.traced sha3 ed25519).Traces Prod.snd (fun nonce => [.starts nonce])
      fun _ length => [.update length] where
  copyKeypair _ _ := rfl
  cipherInit operation nonce := by
    simp only [mbedcrypt]
    split
    · rfl
    · split <;> rfl
  cbc _ _ _ _ := rfl
  gcmSetkey _ := rfl
  gcmStarts _ _ := ⟨rfl, rfl⟩
  gcmUpdate operation memory buffers := by
    simp only [mbedcrypt, Mbedtls.traced, Buffers.length_input]
    rfl
  gcmEncryptFinal operation memory buffers tag := by
    simp only [mbedcrypt, Mbedtls.traced, Buffers.length_input]
    split <;> rfl
  gcmDecryptFinal operation memory buffers tag := by
    simp only [mbedcrypt, Mbedtls.traced, Buffers.length_input]
    split
    · rfl
    · split <;> rfl

theorem Backend.wolfcrypt_traces (lib : Wolfcrypt) :
    (Backend.wolfcrypt lib.traced).Traces Prod.snd (fun _ => [])
      fun nonce length => [.update length, .starts nonce] where
  copyKeypair _ _ := rfl
  cipherInit operation nonce := by
    simp only [wolfcrypt]
    split
    · rfl
    · split <;> rfl
  cbc _ _ _ _ := rfl
  gcmSetkey _ := rfl
  gcmStarts _ _ := ⟨rfl, rfl⟩
  gcmUpdate operation memory buffers := by
    simp only [wolfcrypt, Wolfcrypt.traced, Buffers.length_input]
    rfl
  gcmEncryptFinal operation memory buffers tag := by
    simp only [wolfcrypt, Wolfcrypt.traced, Buffers.length_input]
    rfl
  gcmDecryptFinal operation memory buffers tag := by
    simp only [wolfcrypt, Wolfcrypt.traced, Buffers.length_input]
    rfl

/-! ## What a call records -/

namespace Operation

variable {backend : Backend}

/-- A call that processes payload and passes its checks. -/
def Feeds (operation : backend.Operation) : OperationCall backend → Prop
  | .aeUpdate buffers destLen => AdmitsData operation buffers destLen
  | call => AdmitsFinal operation call

/-- A call of `TEE_AEUpdateAAD` that passes its checks. -/
def Restarts (operation : backend.Operation) : OperationCall backend → Prop
  | .aeUpdateAAD aadData aadDataLen => AdmitsAAD operation aadData aadDataLen
  | _ => False

instance (operation : backend.Operation) (call : OperationCall backend) :
    Decidable (Feeds operation call) := by
  casesm OperationCall _ <;> unfold Feeds <;> infer_instance

instance (operation : backend.Operation) (call : OperationCall backend) :
    Decidable (Restarts operation call) := by
  casesm OperationCall _ <;> unfold Restarts <;> infer_instance

/-- Length of the payload of a call. -/
def payloadLength : OperationCall backend → Nat
  | .aeUpdate buffers _ | .aeEncryptFinal buffers .. | .aeDecryptFinal buffers .. => buffers.srcLen
  | _ => 0

/-- What a call can leave in the record and in the state. -/
inductive Records (trace : backend.Gcm → List GcmEvent) (starts : Block → List GcmEvent)
    (feeds : Block → Nat → List GcmEvent) (operation : backend.Operation)
    (call : OperationCall backend) (after : backend.Operation)
    (survivor : Option backend.Operation) : Prop
  /-- Nothing. -/
  | nothing (trace_eq : trace after.aegcmctx = trace operation.aegcmctx)
      (state_eq : ∀ next ∈ survivor, next.aegcmState = operation.aegcmState)
      (unfed : ¬ Feeds operation call)
  /-- `TEE_AEInit` sets the key. -/
  | keyed (key : Bytes) (trace_eq : trace after.aegcmctx = .setkey key :: trace operation.aegcmctx)
      (state : operation.aegcmState = 0) (unfed : ¬ Feeds operation call)
  /-- `TEE_AEUpdateAAD` takes the additional data. -/
  | restarted (restarts : Restarts operation call)
      (trace_eq : trace after.aegcmctx = starts operation.aeiv ++ trace operation.aegcmctx)
      (state : ∀ next ∈ survivor, gcmStAad ≤ next.aegcmState) (unfed : ¬ Feeds operation call)
  /-- The implicit start of a call that processes payload fails. -/
  | failed (fed : Feeds operation call) (state : operation.aegcmState = gcmStInit)
      (trace_eq : trace after.aegcmctx = starts operation.aeiv ++ trace operation.aegcmctx)
      (dead : survivor = none)
  /-- Payload is processed, after the implicit start where that is due. -/
  | fed (fed : Feeds operation call)
      (trace_eq : trace after.aegcmctx = feeds operation.aeiv (payloadLength call) ++
        ((if operation.aegcmState = gcmStInit then starts operation.aeiv else []) ++
          trace operation.aegcmctx))
      (state : ∀ next ∈ survivor, gcmStAad ≤ next.aegcmState)

section Records

variable {trace : backend.Gcm → List GcmEvent} {starts : Block → List GcmEvent}
  {feeds : Block → Nat → List GcmEvent}

theorem trace_readied (traces : backend.Traces trace starts feeds) (operation : backend.Operation) :
    trace (readied operation).aegcmctx =
        (if operation.aegcmState = gcmStInit then starts operation.aeiv else []) ++
          trace operation.aegcmctx ∧
      (readied operation).aeiv = operation.aeiv ∧
      (gcmStInit ≤ operation.aegcmState → gcmStAad ≤ (readied operation).aegcmState) := by
  obtain ⟨trace_eq, iv_eq⟩ := traces.gcmStarts operation []
  unfold readied
  by_cases first : operation.aegcmState = gcmStInit
  · rw [if_pos first, if_pos first]
    exact ⟨trace_eq, iv_eq, fun _ => Int.le_refl gcmStAad⟩
  · rw [if_neg first, if_neg first]
    refine ⟨rfl, rfl, fun started => ?_⟩
    simp only [gcmStAad, gcmStInit] at first started ⊢
    omega

/-- The implicit start either fails or readies the handle. -/
theorem records_whenStarted (traces : backend.Traces trace starts feeds)
    {operation : backend.Operation} {memory : Memory} {call : OperationCall backend}
    {work : backend.Operation → OperationOutput × backend.Operation}
    (fed : Feeds operation call) (state : gcmStInit ≤ operation.aegcmState)
    (works : trace (work (readied operation)).2.aegcmctx =
      feeds operation.aeiv (payloadLength call) ++ trace (readied operation).aegcmctx)
    (later : ∀ next ∈ survive (work (readied operation)).1 (work (readied operation)).2,
      gcmStAad ≤ next.aegcmState) :
    Records trace starts feeds operation call (whenStarted operation memory work).2
      (survive (whenStarted operation memory work).1 (whenStarted operation memory work).2) := by
  by_cases started : operation.aegcmState = gcmStInit → (backend.gcmStarts operation []).1 = 0
  · rw [whenStarted_of_started state started]
    rw [(trace_readied traces operation).1] at works
    exact .fed fed works later
  · rw [Classical.not_imp] at started
    have refused : teeAEUpdateAAD operation memory none 0 =
        (.panicked, (backend.gcmStarts operation []).2) := by
      have late : ¬ operation.aegcmState < gcmStInit := Int.not_lt.mpr state
      have data_eq : memory.read ((none : Option Nat).getD 0) 0 = [] := rfl
      rw [teeAEUpdateAAD, if_neg (by simp), if_neg late, data_eq]
      exact if_pos started.2
    have stopped : whenStarted operation memory work =
        (.bare .panicked memory, (backend.gcmStarts operation []).2) := by
      simp only [whenStarted, if_pos started.1, refused]
    rw [stopped]
    exact .failed fed started.1 (traces.gcmStarts operation []).1 rfl

/-- A call that leaves the context and the state records nothing. -/
theorem records_nothing {operation after : backend.Operation} {call : OperationCall backend}
    (output : OperationOutput) (context_eq : after.aegcmctx = operation.aegcmctx)
    (state_eq : after.aegcmState = operation.aegcmState) (unfed : ¬ Feeds operation call) :
    Records trace starts feeds operation call after (survive output after) := by
  refine .nothing (by rw [context_eq]) (fun next survived => ?_) unfed
  rw [← eq_of_survive survived, state_eq]

theorem aegcmctx_teeSetOperationKey (traces : backend.Traces trace starts feeds)
    (operation : backend.Operation) (key : Option backend.Object) :
    (teeSetOperationKey operation key).2.aegcmctx = operation.aegcmctx := by
  cases key with
  | none => rfl
  | some key =>
      simp only [teeSetOperationKey]
      split
      · rfl
      · dsimp only
        split
        · rfl
        · exact traces.copyKeypair operation key

theorem aegcmctx_teeCipherInit (traces : backend.Traces trace starts feeds)
    (operation : backend.Operation) (memory : Memory) (nonce : Option Nat) (nonceLen : Nat) :
    (teeCipherInit operation memory nonce nonceLen).2.aegcmctx = operation.aegcmctx := by
  unfold teeCipherInit
  split
  · rfl
  · split
    · rfl
    · split
      · rfl
      · exact traces.cipherInit operation _

theorem aegcmctx_teeCipherUpdate (traces : backend.Traces trace starts feeds)
    (operation : backend.Operation) (memory : Memory) (buffers : Buffers) :
    (teeCipherUpdate operation memory buffers).2.aegcmctx = operation.aegcmctx := by
  unfold teeCipherUpdate
  split
  · rfl
  · dsimp only
    split
    · exact traces.cbc .encrypt operation _ buffers
    · split
      · exact traces.cbc .decrypt operation _ buffers
      · rfl

theorem records_aeInit (traces : backend.Traces trace starts feeds) (operation : backend.Operation)
    (memory : Memory) (nonce : Option Nat) (nonceLen tagLen aadLen payloadLen : Nat) :
    Records trace starts feeds operation (.aeInit nonce nonceLen tagLen aadLen payloadLen)
      (teeAEInit operation memory nonce nonceLen tagLen aadLen payloadLen).2
      (survive (.bare (teeAEInit operation memory nonce nonceLen tagLen aadLen payloadLen).1 memory)
        (teeAEInit operation memory nonce nonceLen tagLen aadLen payloadLen).2) := by
  by_cases admitted : AdmitsInit operation nonce nonceLen tagLen aadLen ∧ operation.aegcmState = 0
  · refine .keyed operation.aekey ?_ admitted.2 id
    obtain ⟨⟨alg, nonce_len, aad_len, tag_len, nonce_some, keyed⟩, state⟩ := admitted
    obtain ⟨address, rfl⟩ := Option.isSome_iff_exists.mp nonce_some
    have ready : ¬ (hasFlag operation.flags teeHandleFlagKeySet = false ∨
        operation.aegcmState ≠ 0) := by
      rw [keyed, state]
      simp
    rw [teeAEInit, if_neg (not_not.mpr alg), if_neg (not_not.mpr nonce_len),
      if_neg (Nat.not_lt.mpr aad_len), if_neg (not_not.mpr tag_len)]
    dsimp only
    rw [if_neg ready]
    split <;> exact traces.gcmSetkey operation
  · rcases teeAEInit_cases operation memory nonce nonceLen tagLen aadLen payloadLen with
      ⟨_, _, _, refused⟩ | ⟨admits, state, _⟩
    · rw [refused]
      exact records_nothing _ rfl rfl id
    · exact absurd ⟨admits, state⟩ admitted

theorem records_aeUpdateAAD (traces : backend.Traces trace starts feeds)
    (operation : backend.Operation) (memory : Memory) (aadData : Option Nat) (aadDataLen : Nat) :
    Records trace starts feeds operation (.aeUpdateAAD aadData aadDataLen)
      (teeAEUpdateAAD operation memory aadData aadDataLen).2
      (survive (.ofVoid (teeAEUpdateAAD operation memory aadData aadDataLen).1 memory)
        (teeAEUpdateAAD operation memory aadData aadDataLen).2) := by
  unfold teeAEUpdateAAD
  by_cases arguments : (aadData = none ∧ aadDataLen ≠ 0) ∨ aadDataLen > 16
  · rw [if_pos arguments]
    exact records_nothing _ rfl rfl id
  rw [if_neg arguments]
  by_cases state : operation.aegcmState < gcmStInit
  · rw [if_pos state]
    exact records_nothing _ rfl rfl id
  rw [if_neg state]
  rw [not_or, not_and, not_not] at arguments
  have admitted : AdmitsAAD operation aadData aadDataLen :=
    ⟨arguments.1, Nat.le_of_not_lt arguments.2, Int.le_of_not_gt state⟩
  have trace_eq := (traces.gcmStarts operation (memory.read (aadData.getD 0) aadDataLen)).1
  dsimp only
  split
  · exact .restarted admitted trace_eq (fun _ survived => by cases survived) id
  · refine .restarted admitted trace_eq (fun next survived => ?_) id
    rw [← eq_of_survive survived]

theorem records_aeUpdate (traces : backend.Traces trace starts feeds)
    (operation : backend.Operation) (memory : Memory) (buffers : Buffers) (destLen : Option Nat) :
    Records trace starts feeds operation (.aeUpdate buffers destLen)
      (teeAEUpdate operation memory buffers destLen).2
      (survive (teeAEUpdate operation memory buffers destLen).1
        (teeAEUpdate operation memory buffers destLen).2) := by
  by_cases admitted : AdmitsData operation buffers destLen
  · rw [teeAEUpdate, if_neg (not_not.mpr admitted.1), if_neg (pointers_of_admitsData admitted)]
    have iv_eq := (trace_readied traces operation).2.1
    have trace_eq := traces.gcmUpdate (readied operation) memory buffers
    rw [iv_eq] at trace_eq
    refine records_whenStarted traces admitted admitted.2.2.2.2 ?_ ?_
    · dsimp only
      split <;> exact trace_eq
    · dsimp only
      split
      · intro next survived
        cases survived
      · intro next survived
        rw [← eq_of_survive survived]
        exact (by decide : gcmStAad ≤ gcmStActive)
  · rcases teeAEUpdate_cases operation memory buffers destLen with ⟨_, refused⟩ | ⟨admits, _⟩
    · rw [refused]
      exact records_nothing _ rfl rfl admitted
    · exact absurd admits admitted

theorem records_aeEncryptFinal (traces : backend.Traces trace starts feeds)
    (operation : backend.Operation) (memory : Memory) (buffers : Buffers)
    (destLen tag tagLen : Option Nat) :
    Records trace starts feeds operation (.aeEncryptFinal buffers destLen tag tagLen)
      (teeAEEncryptFinal operation memory buffers destLen tag tagLen).2
      (survive (teeAEEncryptFinal operation memory buffers destLen tag tagLen).1
        (teeAEEncryptFinal operation memory buffers destLen tag tagLen).2) := by
  by_cases admitted :
      AdmitsData operation buffers destLen ∧ tag.isSome = true ∧ tagLen = some 16
  · obtain ⟨data, tag_some, tag_len⟩ := admitted
    obtain ⟨address, rfl⟩ := Option.isSome_iff_exists.mp tag_some
    rw [teeAEEncryptFinal, if_neg (not_not.mpr data.1), if_neg (pointers_of_admitsData data),
      if_neg (not_not.mpr tag_len), if_neg (Option.some_ne_none address)]
    have iv_eq := (trace_readied traces operation).2.1
    have trace_eq := traces.gcmEncryptFinal (readied operation) memory buffers address
    rw [iv_eq] at trace_eq
    refine records_whenStarted traces ⟨data, tag_some, tag_len⟩ data.2.2.2.2 ?_ ?_
    · dsimp only [Option.getD_some]
      split <;> exact trace_eq
    · dsimp only [Option.getD_some]
      split
      · intro next survived
        cases survived
      · intro next survived
        rw [← eq_of_survive survived]
        exact (by decide : gcmStAad ≤ gcmStFinal)
  · rcases teeAEEncryptFinal_cases operation memory buffers destLen tag tagLen with
      ⟨_, refused⟩ | ⟨data, tag_some, tag_len, _⟩
    · rw [refused]
      exact records_nothing _ rfl rfl admitted
    · exact absurd ⟨data, tag_some, tag_len⟩ admitted

theorem records_aeDecryptFinal (framed : backend.Framed)
    (traces : backend.Traces trace starts feeds) (operation : backend.Operation) (memory : Memory)
    (buffers : Buffers) (destLen tag : Option Nat) (tagLen : Nat) :
    Records trace starts feeds operation (.aeDecryptFinal buffers destLen tag tagLen)
      (teeAEDecryptFinal operation memory buffers destLen tag tagLen).2
      (survive (teeAEDecryptFinal operation memory buffers destLen tag tagLen).1
        (teeAEDecryptFinal operation memory buffers destLen tag tagLen).2) := by
  by_cases admitted : AdmitsData operation buffers destLen ∧ tag.isSome = true ∧ tagLen = 16
  · obtain ⟨data, tag_some, tag_len⟩ := admitted
    obtain ⟨address, rfl⟩ := Option.isSome_iff_exists.mp tag_some
    have tag_check : ¬ (some address = none ∨ tagLen ≠ 16) := by simp [tag_len]
    rw [teeAEDecryptFinal, if_neg (not_not.mpr data.1), if_neg (pointers_of_admitsData data),
      if_neg tag_check]
    obtain ⟨_, iv_eq, state⟩ := trace_readied traces operation
    have trace_eq := traces.gcmDecryptFinal (readied operation) memory buffers address
    have state_eq := congrArg Control.aegcmState
      (framed.gcmDecryptFinal (readied operation) memory buffers address)
    rw [iv_eq] at trace_eq
    rcases final : backend.gcmDecryptFinal (readied operation) memory buffers address with
      ⟨exit, after, memory'⟩
    rw [final] at trace_eq state_eq
    refine records_whenStarted traces ⟨data, tag_some, tag_len⟩ data.2.2.2.2 ?_ ?_
    · dsimp only [Option.getD_some]
      rw [final]
      cases exit with
      | returned verified => cases verified <;> exact trace_eq
      | panicked => exact trace_eq
      | running => exact trace_eq
    · dsimp only [Option.getD_some]
      rw [final]
      intro next survived
      cases exit with
      | returned verified =>
          rw [← eq_of_survive survived]
          cases verified with
          | true => exact (by decide : gcmStAad ≤ gcmStFinal)
          | false => exact (state data.2.2.2.2).trans_eq state_eq.symm
      | panicked => cases survived
      | running => cases survived
  · rcases teeAEDecryptFinal_cases operation memory buffers destLen tag tagLen with
      ⟨_, refused⟩ | ⟨data, tag_some, tag_len, _⟩
    · rw [refused]
      exact records_nothing _ rfl rfl admitted
    · exact absurd ⟨data, tag_some, tag_len⟩ admitted

/-- What any call leaves in the record. -/
theorem records_of_perform (framed : backend.Framed) (traces : backend.Traces trace starts feeds)
    (operation : backend.Operation) (invocation : Invocation backend) :
    Records trace starts feeds operation invocation.call (invocation.perform operation).2
      (step (some operation) invocation).2 := by
  rw [step_some]
  obtain ⟨memory, call⟩ := invocation
  cases call with
  | setOperationKey key =>
      have unfed : ¬ Feeds operation (.setOperationKey key) := id
      exact records_nothing (.bare (.returned (teeSetOperationKey operation key).1) memory)
        (aegcmctx_teeSetOperationKey traces operation key)
        (congrArg (·.2.2) (standing_teeSetOperationKey framed operation key)) unfed
  | digestUpdate chunk chunkSize =>
      refine records_nothing _ ?_
        (congrArg (·.2.2) (standing_teeDigestUpdate operation memory chunk chunkSize)) id
      simp only [Invocation.perform, teeDigestUpdate]
      split <;> rfl
  | digestDoFinal chunk chunkLen hash hashLen =>
      refine records_nothing _ ?_
        (congrArg (·.2.2)
          (standing_teeDigestDoFinal operation memory chunk chunkLen hash hashLen)) id
      simp only [Invocation.perform, teeDigestDoFinal]
      split
      · rfl
      · split
        · rfl
        · split
          · rfl
          · split <;> rfl
  | aeInit nonce nonceLen tagLen aadLen payloadLen =>
      exact records_aeInit traces operation memory nonce nonceLen tagLen aadLen payloadLen
  | aeUpdateAAD aadData aadDataLen =>
      exact records_aeUpdateAAD traces operation memory aadData aadDataLen
  | aeUpdate buffers destLen => exact records_aeUpdate traces operation memory buffers destLen
  | aeEncryptFinal buffers destLen tag tagLen =>
      exact records_aeEncryptFinal traces operation memory buffers destLen tag tagLen
  | aeDecryptFinal buffers destLen tag tagLen =>
      exact records_aeDecryptFinal framed traces operation memory buffers destLen tag tagLen
  | cipherInit nonce nonceLen =>
      exact records_nothing _ (aegcmctx_teeCipherInit traces operation memory nonce nonceLen)
        (congrArg (·.2.2) (standing_teeCipherInit framed operation memory nonce nonceLen)) id
  | cipherUpdate buffers =>
      exact records_nothing _ (aegcmctx_teeCipherUpdate traces operation memory buffers)
        (congrArg (·.2.2) (standing_teeCipherUpdate framed operation memory buffers)) id
  | cipherDoFinal buffers =>
      exact records_nothing _ (aegcmctx_teeCipherUpdate traces operation memory buffers)
        (congrArg (·.2.2) (standing_teeCipherUpdate framed operation memory buffers)) id
  | signDigest digest digestLen signature =>
      have unfed : ¬ Feeds operation (.signDigest digest digestLen signature) := id
      exact records_nothing _ rfl rfl unfed
  | verifyDigest digest digestLen signature signatureLen =>
      have unfed : ¬ Feeds operation (.verifyDigest digest digestLen signature signatureLen) := id
      exact records_nothing (.bare (.returned (teeAsymmetricVerifyDigest operation memory digest
        digestLen signature signatureLen)) memory) rfl rfl unfed

end Records

/-! ## Runs -/

/-- What can lead to a second use of a counter block. -/
inductive StreamEvent
  | payload
  | restart
  deriving DecidableEq

/-- A call on a live handle that processes some payload, or that takes additional data. -/
def Streams : StreamEvent → Option backend.Operation → Invocation backend → Prop
  | .payload, some operation, invocation =>
      Feeds operation invocation.call ∧ 0 < payloadLength invocation.call
  | .restart, some operation, invocation => Restarts operation invocation.call
  | _, none, _ => False

instance (event : StreamEvent) (handle : Option backend.Operation)
    (invocation : Invocation backend) : Decidable (Streams event handle invocation) := by
  rcases event with _ | _ <;> rcases handle with _ | operation <;> unfold Streams <;> infer_instance

end Operation

/-- The build on recording libraries. -/
def CryptLib.traced : CryptLib → CryptLib
  | mbedcrypt lib sha3 ed25519 => .mbedcrypt lib.traced sha3 ed25519
  | wolfcrypt lib => .wolfcrypt lib.traced
  | tiny lib sha3 ed25519 unset => .tiny lib sha3 ed25519 unset

/-- The record of a handle; there is no GCM with tiny-AES. -/
def CryptLib.trace : (build : CryptLib) → build.traced.backend.Operation → List GcmEvent
  | .mbedcrypt .., operation => operation.aegcmctx.2
  | .wolfcrypt .., operation => operation.aegcmctx.2
  | .tiny .., _ => []

namespace Operation

/-- No counter block has been used twice since the key was set, also not by this call. -/
def UsesOnce (aes : BlockCipher Bytes Block) (build : CryptLib)
    (handle : Option build.traced.backend.Operation)
    (invocation : Invocation build.traced.backend) (_ : OperationOutput) : Prop :=
  ∀ operation ∈ handle,
    (Keystream.ofTrace aes (build.trace (invocation.perform operation).2)).used.Nodup

/-- The order of calls that makes a build use a counter block twice. -/
def reuse : CryptLib → List StreamEvent
  | .mbedcrypt .. => [.payload, .restart, .payload]
  | .wolfcrypt .. | .tiny .. => [.payload, .payload]

/-- With mbedtls, the payload of a call fits into the `2 ^ 32` counter blocks of a nonce. -/
def FitsCounter (aes : BlockCipher Bytes Block) (build : CryptLib)
    (handle : Option build.traced.backend.Operation)
    (invocation : Invocation build.traced.backend) : Prop :=
  match build with
  | .mbedcrypt .. =>
      ∀ operation ∈ handle, Feeds operation invocation.call →
        (Keystream.ofTrace aes operation.aegcmctx.2).position +
          counterBlocks (payloadLength invocation.call) ≤ 2 ^ 32
  | .wolfcrypt .. | .tiny .. => True

instance (aes : BlockCipher Bytes Block) (build : CryptLib)
    (handle : Option build.traced.backend.Operation)
    (invocation : Invocation build.traced.backend) :
    Decidable (FitsCounter aes build handle invocation) := by
  unfold FitsCounter
  rcases build with _ | _ | _ <;> rcases handle with _ | operation <;> infer_instance

theorem payloadLength_lt {backend : Backend} (call : OperationCall backend) :
    payloadLength call < 2 ^ 32 := by
  cases call with
  | aeUpdate buffers destLen => exact buffers.srcLen_lt
  | aeEncryptFinal buffers destLen tag tagLen => exact buffers.srcLen_lt
  | aeDecryptFinal buffers destLen tag tagLen => exact buffers.srcLen_lt
  | _ => exact (by decide : 0 < 2 ^ 32)

/-- The empty stream, wherever its nonce comes from. -/
def Unused (stream : Keystream) : Prop := stream.used = [] ∧ stream.position = 0

theorem Unused.single {aes : BlockCipher Bytes Block} {stream : Keystream}
    (unused : Unused stream) :
    stream.Single aes := by
  rw [Keystream.Single, unused.1, unused.2]
  rfl

section Mbedcrypt

variable (aes : BlockCipher Bytes Block) {lib : Mbedtls} {sha3 : Sha3} {ed25519 : Ed25519}

/-- The keystream of a handle. -/
def stream (operation : (Backend.mbedcrypt lib.traced sha3 ed25519).Operation) : Keystream :=
  Keystream.ofTrace aes operation.aegcmctx.2

/-- What holds of a handle while these events are still to come. -/
def Expects : List StreamEvent → (Backend.mbedcrypt lib.traced sha3 ed25519).Operation → Prop
  | [.payload, .restart, .payload], operation => Unused (stream aes operation)
  | [.restart, .payload], operation =>
      (stream aes operation).Single aes ∧ (stream aes operation).position ≤ 2 ^ 32 ∧
        gcmStAad ≤ operation.aegcmState
  | [.payload], operation =>
      (stream aes operation).used.Nodup ∧ gcmStAad ≤ operation.aegcmState
  | _, _ => False

variable {aes}
variable {operation after : (Backend.mbedcrypt lib.traced sha3 ed25519).Operation}
  {call : OperationCall (Backend.mbedcrypt lib.traced sha3 ed25519)}
  {survivor : Option (Backend.mbedcrypt lib.traced sha3 ed25519).Operation}

/-- Before any payload the stream is unused, and the first payload begins a single stream. -/
theorem unused_records
    (records : Records Prod.snd (fun nonce => [.starts nonce]) (fun _ length => [.update length])
      operation call after survivor)
    (unused : Unused (stream aes operation))
    (fits : Feeds operation call →
      (stream aes operation).position + counterBlocks (payloadLength call) ≤ 2 ^ 32) :
    (stream aes after).used.Nodup ∧
      (¬ (Feeds operation call ∧ 0 < payloadLength call) →
        survivor = none ∨ Unused (stream aes after)) ∧
      (Feeds operation call →
        (stream aes after).Single aes ∧ (stream aes after).position ≤ 2 ^ 32 ∧
          ∀ next ∈ survivor, gcmStAad ≤ next.aegcmState) := by
  have kept : Unused (stream aes after) → (stream aes after).used.Nodup := fun unused => by
    rw [unused.1]
    exact List.nodup_nil
  cases records with
  | nothing trace_eq state_eq unfed =>
      have same : Unused (stream aes after) := by
        rw [stream, trace_eq]
        exact unused
      exact ⟨kept same, fun _ => .inr same, fun fed => absurd fed unfed⟩
  | keyed key trace_eq state unfed =>
      have same : Unused (stream aes after) := by
        rw [stream, trace_eq]
        exact ⟨rfl, rfl⟩
      exact ⟨kept same, fun _ => .inr same, fun fed => absurd fed unfed⟩
  | restarted restarts trace_eq state unfed =>
      have same : Unused (stream aes after) := by
        rw [stream, trace_eq]
        exact ⟨unused.1, rfl⟩
      exact ⟨kept same, fun _ => .inr same, fun fed => absurd fed unfed⟩
  | failed fed state trace_eq dead =>
      have same : Unused (stream aes after) := by
        rw [stream, trace_eq]
        exact ⟨unused.1, rfl⟩
      refine ⟨kept same, fun _ => .inr same, fun _ => ⟨same.single, ?_, ?_⟩⟩
      · rw [same.2]
        decide
      · rw [dead]
        intro next member
        cases member
  | fed fed trace_eq state =>
      -- the implicit start leaves the stream unused, and the payload goes on from its beginning
      have started : Unused (Keystream.ofTrace aes
          ((if operation.aegcmState = gcmStInit then [.starts operation.aeiv] else []) ++
            operation.aegcmctx.2)) := by
        split
        · exact ⟨unused.1, rfl⟩
        · exact unused
      have single : (stream aes after).Single aes := by
        rw [stream, trace_eq]
        exact Keystream.Single.update started.single _
      have position_eq : (stream aes after).position = counterBlocks (payloadLength call) := by
        rw [stream, trace_eq]
        exact (congrArg (· + _) started.2).trans (Nat.zero_add _)
      have position_le : (stream aes after).position ≤ 2 ^ 32 := by
        have fit := fits fed
        rw [unused.2, Nat.zero_add] at fit
        rw [position_eq]
        exact fit
      refine ⟨single.nodup position_le, fun no_payload => .inr ?_,
        fun _ => ⟨single, position_le, state⟩⟩
      have empty : payloadLength call = 0 :=
        Nat.eq_zero_of_not_pos fun long => no_payload ⟨fed, long⟩
      have position_zero : (stream aes after).position = 0 := by
        rw [position_eq, empty]
        rfl
      refine ⟨?_, position_zero⟩
      rw [single, position_zero]
      rfl

/-- A stream in progress goes on, or is started again. -/
theorem single_records
    (records : Records Prod.snd (fun nonce => [.starts nonce]) (fun _ length => [.update length])
      operation call after survivor)
    (single : (stream aes operation).Single aes)
    (position_le : (stream aes operation).position ≤ 2 ^ 32)
    (state : gcmStAad ≤ operation.aegcmState)
    (fits : Feeds operation call →
      (stream aes operation).position + counterBlocks (payloadLength call) ≤ 2 ^ 32) :
    (stream aes after).used.Nodup ∧ (∀ next ∈ survivor, gcmStAad ≤ next.aegcmState) ∧
      (¬ Restarts operation call →
        (stream aes after).Single aes ∧ (stream aes after).position ≤ 2 ^ 32) := by
  have started := ne_init_of_aad_le state
  cases records with
  | nothing trace_eq state_eq unfed =>
      have same : stream aes after = stream aes operation := by
        rw [stream, trace_eq]
        rfl
      rw [same]
      exact ⟨single.nodup position_le, fun next member => (state_eq next member) ▸ state,
        fun _ => ⟨single, position_le⟩⟩
  | keyed key trace_eq zero unfed =>
      rw [zero] at state
      exact absurd state (by decide)
  | restarted restarts trace_eq later unfed =>
      refine ⟨?_, later, fun kept => absurd restarts kept⟩
      rw [stream, trace_eq]
      exact single.nodup position_le
  | failed fed first trace_eq dead => exact absurd first started
  | fed fed trace_eq later =>
      rw [if_neg started] at trace_eq
      have single' : (stream aes after).Single aes := by
        rw [stream, trace_eq]
        exact single.update _
      have position_le' : (stream aes after).position ≤ 2 ^ 32 := by
        rw [stream, trace_eq]
        exact fits fed
      exact ⟨single'.nodup position_le', later, fun _ => ⟨single', position_le'⟩⟩

/-- After a restart, a call without payload uses nothing. -/
theorem restarted_records
    (records : Records Prod.snd (fun nonce => [.starts nonce]) (fun _ length => [.update length])
      operation call after survivor)
    (nodup : (stream aes operation).used.Nodup) (state : gcmStAad ≤ operation.aegcmState)
    (no_payload : ¬ (Feeds operation call ∧ 0 < payloadLength call)) :
    (stream aes after).used.Nodup ∧ ∀ next ∈ survivor, gcmStAad ≤ next.aegcmState := by
  have started := ne_init_of_aad_le state
  cases records with
  | nothing trace_eq state_eq unfed =>
      refine ⟨?_, fun next member => (state_eq next member) ▸ state⟩
      rw [stream, trace_eq]
      exact nodup
  | keyed key trace_eq zero unfed =>
      rw [zero] at state
      exact absurd state (by decide)
  | restarted restarts trace_eq later unfed =>
      refine ⟨?_, later⟩
      rw [stream, trace_eq]
      exact nodup
  | failed fed first trace_eq dead => exact absurd first started
  | fed fed trace_eq later =>
      rw [if_neg started] at trace_eq
      have empty : payloadLength call = 0 :=
        Nat.eq_zero_of_not_pos fun long => no_payload ⟨fed, long⟩
      refine ⟨?_, later⟩
      have same : (stream aes after).used = (stream aes operation).used := by
        rw [stream, trace_eq, empty]
        exact List.append_nil _
      rw [same]
      exact nodup

end Mbedcrypt

section Wolfcrypt

variable {aes : BlockCipher Bytes Block} {lib : Wolfcrypt}
  {operation after : (Backend.wolfcrypt lib.traced).Operation}
  {call : OperationCall (Backend.wolfcrypt lib.traced)}
  {survivor : Option (Backend.wolfcrypt lib.traced).Operation}

/-- With wolfCrypt a call uses nothing, or the first counter blocks of the nonce. -/
theorem oneshot_records
    (records : Records Prod.snd (fun _ => [])
      (fun nonce length => [.update length, .starts nonce]) operation call after survivor)
    (nodup : (Keystream.ofTrace aes operation.aegcmctx.2).used.Nodup)
    (first : Feeds operation call ∧ 0 < payloadLength call →
      (Keystream.ofTrace aes operation.aegcmctx.2).used = []) :
    (Keystream.ofTrace aes after.aegcmctx.2).used.Nodup ∧
      (¬ (Feeds operation call ∧ 0 < payloadLength call) →
        (Keystream.ofTrace aes operation.aegcmctx.2).used = [] →
          (Keystream.ofTrace aes after.aegcmctx.2).used = []) := by
  cases records with
  | nothing trace_eq state_eq unfed =>
      rw [trace_eq]
      exact ⟨nodup, fun _ unused => unused⟩
  | keyed key trace_eq state unfed =>
      rw [trace_eq]
      exact ⟨List.nodup_nil, fun _ _ => rfl⟩
  | restarted restarts trace_eq state unfed =>
      rw [trace_eq]
      exact ⟨nodup, fun _ unused => unused⟩
  | failed fed state trace_eq dead =>
      rw [trace_eq]
      exact ⟨nodup, fun _ unused => unused⟩
  | fed fed trace_eq state =>
      have trace_eq' : after.aegcmctx.2 = .update (payloadLength call) ::
          .starts operation.aeiv :: operation.aegcmctx.2 := by
        rw [trace_eq]
        split <;> rfl
      rw [trace_eq']
      rcases Nat.eq_zero_or_pos (payloadLength call) with empty | long
      · have same : (Keystream.ofTrace aes (.update (payloadLength call) ::
            .starts operation.aeiv :: operation.aegcmctx.2)).used =
              (Keystream.ofTrace aes operation.aegcmctx.2).used := by
          rw [empty]
          exact List.append_nil _
        rw [same]
        exact ⟨nodup, fun _ unused => unused⟩
      · refine ⟨?_, fun no_payload => absurd ⟨fed, long⟩ no_payload⟩
        have started : Unused (Keystream.ofTrace aes
            (.starts operation.aeiv :: operation.aegcmctx.2)) := ⟨first ⟨fed, long⟩, rfl⟩
        refine (Keystream.Single.update started.single _).nodup ?_
        have position_eq : (Keystream.ofTrace aes (.update (payloadLength call) ::
            .starts operation.aeiv :: operation.aegcmctx.2)).position =
              0 + counterBlocks (payloadLength call) := rfl
        have short := payloadLength_lt call
        rw [position_eq, counterBlocks]
        omega

end Wolfcrypt

section Runs

variable {aes : BlockCipher Bytes Block}

theorem eq_of_mem_step {backend : Backend} {operation next : backend.Operation}
    {invocation : Invocation backend} (survived : next ∈ (step (some operation) invocation).2) :
    (invocation.perform operation).2 = next := eq_of_survive survived

/-- A call on a live handle, by what it records. -/
theorem usesOnce_step (build : CryptLib) {operation : build.traced.backend.Operation}
    {invocation : Invocation build.traced.backend} (keeps : build.traced.backend.Operation → Prop)
    (nodup : (Keystream.ofTrace aes (build.trace (invocation.perform operation).2)).used.Nodup)
    (kept : (invocation.perform operation).2 ∈ (step (some operation) invocation).2 →
      keeps (invocation.perform operation).2) :
    UsesOnce aes build (some operation) invocation (step (some operation) invocation).1 ∧
      ∀ next ∈ (step (some operation) invocation).2, keeps next := by
  refine ⟨?_, fun next survived => ?_⟩
  · rintro _ ⟨⟩
    exact nodup
  · obtain rfl := eq_of_mem_step survived
    exact kept survived

section Mbedcrypt

variable {lib : Mbedtls} {sha3 : Sha3} {ed25519 : Ed25519}

theorem expects_cases {kinds : List StreamEvent}
    {operation : (Backend.mbedcrypt lib.traced sha3 ed25519).Operation}
    (expects : Expects aes kinds operation) :
    (kinds = [.payload, .restart, .payload] ∧ Unused (stream aes operation)) ∨
      (kinds = [.restart, .payload] ∧ (stream aes operation).Single aes ∧
        (stream aes operation).position ≤ 2 ^ 32 ∧ gcmStAad ≤ operation.aegcmState) ∨
      (kinds = [.payload] ∧ (stream aes operation).used.Nodup ∧
        gcmStAad ≤ operation.aegcmState) := by
  unfold Expects at expects
  split at expects
  · exact .inl ⟨rfl, expects⟩
  · exact .inr (.inl ⟨rfl, expects⟩)
  · exact .inr (.inr ⟨rfl, expects⟩)
  · exact expects.elim

/-- The invariant of runs with mbedtls. -/
def Expecting (aes : BlockCipher Bytes Block) (kinds : List StreamEvent)
    (handle : Option (Backend.mbedcrypt lib.traced sha3 ed25519).Operation) : Prop :=
  ∀ operation ∈ handle, Expects aes kinds operation

/-- The next event of the order comes, and the rest of the order is left. -/
theorem expecting_advance {kind next : StreamEvent} {kinds : List StreamEvent}
    {state : Option (Backend.mbedcrypt lib.traced sha3 ed25519).Operation}
    (invocation : Invocation (Backend.mbedcrypt lib.traced sha3 ed25519))
    (expecting : Expecting aes (kind :: next :: kinds) state)
    (fits : FitsCounter aes (.mbedcrypt lib sha3 ed25519) state invocation)
    (event : Streams kind state invocation) :
    UsesOnce aes (.mbedcrypt lib sha3 ed25519) state invocation (step state invocation).1 ∧
      Expecting aes (next :: kinds) (step state invocation).2 := by
  cases state with
  | none => cases kind <;> exact event.elim
  | some operation =>
      have records := records_of_perform (Backend.mbedcrypt_framed lib.traced sha3 ed25519)
        (Backend.mbedcrypt_traces lib sha3 ed25519) operation invocation
      rcases expects_cases (expecting operation rfl) with
        ⟨kinds_eq, unused⟩ | ⟨kinds_eq, single, position_le, state⟩ | ⟨kinds_eq, _⟩
      · cases kinds_eq
        obtain ⟨nodup, _, begun⟩ := unused_records records unused (fits operation rfl)
        obtain ⟨single, position_le, state⟩ := begun event.1
        exact usesOnce_step (.mbedcrypt lib sha3 ed25519) _ nodup fun survived =>
          ⟨single, position_le, state _ survived⟩
      · cases kinds_eq
        obtain ⟨nodup, state', _⟩ :=
          single_records records single position_le state (fits operation rfl)
        exact usesOnce_step (.mbedcrypt lib sha3 ed25519) _ nodup fun survived =>
          ⟨nodup, state' _ survived⟩
      · cases kinds_eq

/-- The next event of the order does not come, and the order is left as it is. -/
theorem expecting_stay {kind : StreamEvent} {kinds : List StreamEvent}
    {state : Option (Backend.mbedcrypt lib.traced sha3 ed25519).Operation}
    (invocation : Invocation (Backend.mbedcrypt lib.traced sha3 ed25519))
    (expecting : Expecting aes (kind :: kinds) state)
    (fits : FitsCounter aes (.mbedcrypt lib sha3 ed25519) state invocation)
    (no_event : ¬ Streams kind state invocation) :
    UsesOnce aes (.mbedcrypt lib sha3 ed25519) state invocation (step state invocation).1 ∧
      Expecting aes (kind :: kinds) (step state invocation).2 := by
  cases state with
  | none =>
      refine ⟨fun operation live => ?_, fun operation live => ?_⟩ <;> cases live
  | some operation =>
      have records := records_of_perform (Backend.mbedcrypt_framed lib.traced sha3 ed25519)
        (Backend.mbedcrypt_traces lib sha3 ed25519) operation invocation
      rcases expects_cases (expecting operation rfl) with
        ⟨kinds_eq, unused⟩ | ⟨kinds_eq, single, position_le, state⟩ | ⟨kinds_eq, nodup, state⟩
      · cases kinds_eq
        obtain ⟨nodup, still, _⟩ := unused_records records unused (fits operation rfl)
        refine usesOnce_step (.mbedcrypt lib sha3 ed25519) _ nodup fun survived => ?_
        rcases still no_event with dead | unused
        · exact nomatch dead.symm.trans survived
        · exact unused
      · cases kinds_eq
        obtain ⟨nodup, state', going⟩ :=
          single_records records single position_le state (fits operation rfl)
        obtain ⟨single, position_le⟩ := going no_event
        exact usesOnce_step (.mbedcrypt lib sha3 ed25519) _ nodup fun survived =>
          ⟨single, position_le, state' _ survived⟩
      · cases kinds_eq
        obtain ⟨nodup, state'⟩ := restarted_records records nodup state no_event
        exact usesOnce_step (.mbedcrypt lib sha3 ed25519) _ nodup fun survived =>
          ⟨nodup, state' _ survived⟩

theorem mbedcrypt_usesOnce {handle : (Backend.mbedcrypt lib.traced sha3 ed25519).Operation}
    (unused : Unused (stream aes handle))
    {invocations : List (Invocation (Backend.mbedcrypt lib.traced sha3 ed25519))}
    (fits : Machine.Within step (FitsCounter aes (.mbedcrypt lib sha3 ed25519)) (some handle)
      invocations)
    (never : ¬ Machine.Occur step Streams [.payload, .restart, .payload] (some handle)
      invocations) :
    Machine.Along step (UsesOnce aes (.mbedcrypt lib sha3 ed25519)) (some handle) invocations := by
  have initial : Expecting aes [.payload, .restart, .payload] (some handle) := by
    rintro _ ⟨⟩
    exact unused
  exact Machine.along_of_not_occur (fun _ _ _ _ invocation => expecting_advance invocation)
    (fun _ _ _ invocation => expecting_stay invocation) initial fits never

end Mbedcrypt

section Wolfcrypt

variable {lib : Wolfcrypt}

/-- The invariant of runs with wolfCrypt: nothing is used while two payloads may come. -/
def ExpectingOne (aes : BlockCipher Bytes Block) (kinds : List StreamEvent)
    (handle : Option (Backend.wolfcrypt lib.traced).Operation) : Prop :=
  ∀ operation ∈ handle,
    kinds = [.payload, .payload] ∧ (Keystream.ofTrace aes operation.aegcmctx.2).used = [] ∨
      kinds = [.payload] ∧ (Keystream.ofTrace aes operation.aegcmctx.2).used.Nodup

theorem expectingOne_advance {kind next : StreamEvent} {kinds : List StreamEvent}
    {state : Option (Backend.wolfcrypt lib.traced).Operation}
    (invocation : Invocation (Backend.wolfcrypt lib.traced))
    (expecting : ExpectingOne aes (kind :: next :: kinds) state)
    (event : Streams kind state invocation) :
    UsesOnce aes (.wolfcrypt lib) state invocation (step state invocation).1 ∧
      ExpectingOne aes (next :: kinds) (step state invocation).2 := by
  cases state with
  | none => cases kind <;> exact event.elim
  | some operation =>
      have records := records_of_perform (Backend.wolfcrypt_framed lib.traced)
        (Backend.wolfcrypt_traces lib) operation invocation
      rcases expecting operation rfl with ⟨kinds_eq, unused⟩ | ⟨kinds_eq, _⟩
      · cases kinds_eq
        obtain ⟨nodup, _⟩ :=
          oneshot_records records (by rw [unused]; exact List.nodup_nil) fun _ => unused
        exact usesOnce_step (.wolfcrypt lib) _ nodup fun _ => .inr ⟨rfl, nodup⟩
      · cases kinds_eq

theorem expectingOne_stay {kind : StreamEvent} {kinds : List StreamEvent}
    {state : Option (Backend.wolfcrypt lib.traced).Operation}
    (invocation : Invocation (Backend.wolfcrypt lib.traced))
    (expecting : ExpectingOne aes (kind :: kinds) state)
    (no_event : ¬ Streams kind state invocation) :
    UsesOnce aes (.wolfcrypt lib) state invocation (step state invocation).1 ∧
      ExpectingOne aes (kind :: kinds) (step state invocation).2 := by
  cases state with
  | none =>
      refine ⟨fun operation live => ?_, fun operation live => ?_⟩ <;> cases live
  | some operation =>
      have records := records_of_perform (Backend.wolfcrypt_framed lib.traced)
        (Backend.wolfcrypt_traces lib) operation invocation
      rcases expecting operation rfl with ⟨kinds_eq, unused⟩ | ⟨kinds_eq, nodup⟩
      · cases kinds_eq
        obtain ⟨nodup, still⟩ :=
          oneshot_records records (by rw [unused]; exact List.nodup_nil) fun _ => unused
        exact usesOnce_step (.wolfcrypt lib) _ nodup fun _ => .inl ⟨rfl, still no_event unused⟩
      · cases kinds_eq
        obtain ⟨nodup, _⟩ := oneshot_records records nodup fun payload => absurd payload no_event
        exact usesOnce_step (.wolfcrypt lib) _ nodup fun _ => .inr ⟨rfl, nodup⟩

theorem wolfcrypt_usesOnce {handle : (Backend.wolfcrypt lib.traced).Operation}
    (unused : (Keystream.ofTrace aes handle.aegcmctx.2).used = [])
    {invocations : List (Invocation (Backend.wolfcrypt lib.traced))}
    (never : ¬ Machine.Occur step Streams [.payload, .payload] (some handle) invocations) :
    Machine.Along step (UsesOnce aes (.wolfcrypt lib)) (some handle) invocations := by
  have initial : ExpectingOne aes [.payload, .payload] (some handle) := by
    rintro _ ⟨⟩
    exact .inl ⟨rfl, unused⟩
  refine Machine.along_of_not_occur (fun _ _ _ _ invocation expecting _ => ?_)
    (fun _ _ _ invocation expecting _ => ?_) initial
    (Machine.within_true step (some handle) invocations) never
  · exact expectingOne_advance invocation expecting
  · exact expectingOne_stay invocation expecting

end Wolfcrypt
end Runs
end Operation

/-- In every run on an AES-GCM operation in which payload does not come on both sides of a restart
of the counter, no counter block of a (key, nonce) pair is used twice. -/
theorem keystream_used_once (aes : BlockCipher Bytes Block) (build : CryptLib)
    {allocation : Option build.traced.backend.Operation} {mode maxKeySize : UInt32}
    {handle : build.traced.backend.Operation}
    (allocated : teeAllocateOperation build.traced.backend allocation teeAlgAesGcm mode maxKeySize =
      (.success, some handle))
    {invocations : List (Invocation build.traced.backend)}
    (fits : Machine.Within Operation.step (Operation.FitsCounter aes build) (some handle)
      invocations)
    (never : ¬ Machine.Occur Operation.step Operation.Streams (Operation.reuse build) (some handle)
      invocations) :
    Machine.Along Operation.step (Operation.UsesOnce aes build) (some handle) invocations := by
  have handle_eq : handle = Operation.fresh build.traced.backend teeAlgAesGcm mode := by
    rcases Operation.allocated_cases allocated with ⟨_, other, _⟩ | ⟨handle_eq, _⟩
    · exact absurd other (by decide)
    · exact handle_eq
  subst handle_eq
  cases build with
  | mbedcrypt lib sha3 ed25519 => exact Operation.mbedcrypt_usesOnce ⟨rfl, rfl⟩ fits never
  | wolfcrypt lib => exact Operation.wolfcrypt_usesOnce rfl never
  | tiny lib sha3 ed25519 unset =>
      have nothing : ∀ state (invocation : Invocation (Backend.tiny lib sha3 ed25519 unset)),
          True → True → Operation.UsesOnce aes (.tiny lib sha3 ed25519 unset) state invocation
            (Operation.step state invocation).1 ∧ True :=
        fun _ _ _ _ => ⟨fun _ _ => List.nodup_nil, trivial⟩
      exact Machine.along_of_within nothing trivial (Machine.within_true _ _ _)

/-- The calls of a session with two pieces of payload, with or without additional data in between.
-/
def Operation.splitCalls (backend : Backend) (restart : List (Invocation backend)) :
    List (Invocation backend) :=
  [{ memory := vectorMemory, call := .setOperationKey (some (vectorKeyObject backend)) },
    { memory := vectorMemory, call := .aeInit (some 0) 16 128 0 32 },
    { memory := vectorMemory, call := .aeUpdate vectorBuffers (some 16) }] ++ restart ++
  [{ memory := vectorMemory, call := .aeUpdate vectorBuffers (some 16) }]

theorem keystream_used_once_published :
    Machine.Along Operation.step (Operation.UsesOnce vectorCipher .reference)
      (some (Operation.fresh CryptLib.reference.traced.backend teeAlgAesGcm teeModeEncrypt))
      (Operation.splitCalls CryptLib.reference.traced.backend []) := by
  have allocated : teeAllocateOperation CryptLib.reference.traced.backend
      (some (Operation.fresh CryptLib.reference.traced.backend 0 0)) teeAlgAesGcm teeModeEncrypt
      256 = (.success,
        some (Operation.fresh CryptLib.reference.traced.backend teeAlgAesGcm teeModeEncrypt)) := rfl
  have never : ¬ Machine.Occur Operation.step Operation.Streams
      (Operation.reuse CryptLib.reference)
      (some (Operation.fresh CryptLib.reference.traced.backend teeAlgAesGcm teeModeEncrypt))
      (Operation.splitCalls CryptLib.reference.traced.backend []) := by
    decide +kernel
  exact keystream_used_once vectorCipher .reference allocated (by decide +kernel) never

/-- The list of used counter blocks has an entry twice. -/
theorem Operation.not_usesOnce_of_pair {aes : BlockCipher Bytes Block} {build : CryptLib}
    {operation : build.traced.backend.Operation} {invocation : Invocation build.traced.backend}
    {output : OperationOutput} {triple : Bytes × Block × BitVec 128}
    (used : (Keystream.ofTrace aes (build.trace (invocation.perform operation).2)).used =
      [triple, triple]) :
    ¬ Operation.UsesOnce aes build (some operation) invocation output := by
  intro once
  have nodup := once operation rfl
  rw [used] at nodup
  simp at nodup

/-- Additional data after payload starts the counter again, also when it is empty. -/
theorem keystream_reused :
    ¬ Machine.Along Operation.step (Operation.UsesOnce vectorCipher .reference)
      (some (Operation.fresh CryptLib.reference.traced.backend teeAlgAesGcm teeModeEncrypt))
      (Operation.splitCalls CryptLib.reference.traced.backend
        [{ memory := Operation.vectorMemory, call := .aeUpdateAAD none 0 }]) := by
  rintro ⟨_, _, _, _, once, _⟩
  exact Operation.not_usesOnce_of_pair rfl once

end TaRef
