import TaRef.Operation.ModeSeparation

/-!
# States of an authenticated encryption

By the documentation `TEE_AEInit` opens a session and a final call takes the operation back to its
initial state.  The state in the handle never goes back, so the documented discipline holds in a run
when nothing is asked of the operation after its first final call.
-/

namespace TaRef

variable {backend : Backend}

/-- The call succeeds at opening a session. -/
def OperationCall.OpensSession (call : OperationCall backend) (output : OperationOutput) : Prop :=
  match call with
  | .aeInit .. => output.Succeeds
  | _ => False

/-- The call ends a session: `TEE_AEEncryptFinal` returns success, or `TEE_AEDecryptFinal` returns
success or that the tag is wrong. -/
def OperationCall.EndsSession (call : OperationCall backend) (output : OperationOutput) : Prop :=
  match call with
  | .aeEncryptFinal .. => output.Succeeds
  | .aeDecryptFinal .. => output.Succeeds ∨ output.exit = .returned .errorMacInvalid
  | _ => False

/-- The call processes data of a session. -/
def OperationCall.FeedsSession : OperationCall backend → Prop
  | .aeUpdate .. | .aeEncryptFinal .. | .aeDecryptFinal .. => True
  | _ => False

instance (call : OperationCall backend) (output : OperationOutput) :
    Decidable (call.OpensSession output) := by
  casesm OperationCall _ <;> unfold OperationCall.OpensSession <;> infer_instance

instance (call : OperationCall backend) (output : OperationOutput) :
    Decidable (call.EndsSession output) := by
  casesm OperationCall _ <;> unfold OperationCall.EndsSession <;> infer_instance

namespace Operation

/-- `TEE_AEInit` has succeeded, and no final call has happened since. -/
def inSession : Bool → Invocation backend → OperationOutput → Bool :=
  Machine.since (fun invocation output => invocation.call.OpensSession output)
    fun invocation output => invocation.call.EndsSession output

/-- A new handle with the same algorithm, mode and keys. -/
def renewed (operation : backend.Operation) : backend.Operation :=
  { fresh backend operation.alg operation.mode with
    flags := operation.flags
    key := operation.key
    aekey := operation.aekey
    pubkey := operation.pubkey
    prikey := operation.prikey }

/-- Data is processed in a session only.  Outside a session a valid `TEE_AEInit` succeeds, and what
follows is what would follow on a new handle with the same keys. -/
def FollowsStates (state : Option backend.Operation × Bool) (invocation : Invocation backend)
    (output : OperationOutput) : Prop :=
  (invocation.call.FeedsSession → output.Succeeds → state.2 = true) ∧
    ∀ operation ∈ state.1, state.2 = false →
      match invocation.call with
      | .aeInit nonce nonceLen tagLen aadLen _ =>
          AdmitsInit operation nonce nonceLen tagLen aadLen →
            output.Succeeds ∧ ∀ later,
              Machine.outputs step (some operation) (invocation :: later) =
                Machine.outputs step (some (renewed operation)) (invocation :: later)
      | _ => True

/-- A final call that passes its checks. -/
def MakesFinalCall (handle : Option backend.Operation) (invocation : Invocation backend) : Prop :=
  match handle with
  | some operation => AdmitsFinal operation invocation.call
  | none => False

/-- A call that passes its checks, or a valid `TEE_AEInit`. -/
def UsesSession (handle : Option backend.Operation) (invocation : Invocation backend) : Prop :=
  match handle with
  | some operation =>
      match invocation.call with
      | .aeInit nonce nonceLen tagLen aadLen _ => AdmitsInit operation nonce nonceLen tagLen aadLen
      | .aeUpdate buffers destLen => AdmitsData operation buffers destLen
      | call => AdmitsFinal operation call
  | none => False

instance (handle : Option backend.Operation) (invocation : Invocation backend) :
    Decidable (MakesFinalCall handle invocation) := by
  rcases handle with _ | operation <;> unfold MakesFinalCall <;> infer_instance

instance (handle : Option backend.Operation) (invocation : Invocation backend) :
    Decidable (UsesSession handle invocation) := by
  obtain ⟨memory, call⟩ := invocation
  rcases handle with _ | operation <;> casesm OperationCall _ <;> unfold UsesSession <;>
    infer_instance

/-! ## After a final call -/

/-- A call that processes data succeeds only if it passes its checks. -/
theorem usesSession_of_feeds {operation : backend.Operation} {invocation : Invocation backend}
    (feeds : invocation.call.FeedsSession)
    (succeeds : (step (some operation) invocation).1.Succeeds) :
    UsesSession (some operation) invocation := by
  rw [step_some] at succeeds
  obtain ⟨memory, call⟩ := invocation
  cases call with
  | aeUpdate buffers destLen =>
      exact admitsData_of_aeUpdate (ne_badParameters_of_succeeds succeeds)
  | aeEncryptFinal buffers destLen tag tagLen =>
      exact admitsFinal_of_aeEncryptFinal (ne_badParameters_of_succeeds succeeds)
  | aeDecryptFinal buffers destLen tag tagLen =>
      exact admitsFinal_of_aeDecryptFinal (ne_badParameters_of_succeeds succeeds)
  | _ => exact feeds.elim

/-- A final call that ends a session passes its checks. -/
theorem makesFinalCall_of_ends {operation : backend.Operation} {invocation : Invocation backend}
    (ends : invocation.call.EndsSession (step (some operation) invocation).1) :
    MakesFinalCall (some operation) invocation := by
  rw [step_some] at ends
  obtain ⟨memory, call⟩ := invocation
  cases call with
  | aeEncryptFinal buffers destLen tag tagLen =>
      exact admitsFinal_of_aeEncryptFinal (ne_badParameters_of_succeeds ends)
  | aeDecryptFinal buffers destLen tag tagLen =>
      have ran : (teeAEDecryptFinal operation memory buffers destLen tag tagLen).1.exit ≠
          .returned .errorBadParameters := by
        intro refused
        rcases ends with ends | ends <;> cases ends.symm.trans refused
      exact admitsFinal_of_aeDecryptFinal ran
  | _ => exact ends.elim

/-- Once nothing more is asked of an operation, the discipline is kept whatever else is called. -/
theorem followsStates_after {handle : Option backend.Operation} (active : Bool)
    {invocations : List (Invocation backend)}
    (unused : Machine.Within step (fun handle invocation => ¬ UsesSession handle invocation) handle
      invocations) :
    Machine.Along (Machine.observed step inSession) FollowsStates (handle, active) invocations := by
  induction invocations generalizing handle active with
  | nil => trivial
  | cons invocation invocations ih =>
      obtain ⟨unused, later⟩ := unused
      refine ⟨⟨fun feeds succeeds => ?_, fun operation live _ => ?_⟩, ih _ later⟩
      · cases handle with
        | none => cases succeeds
        | some operation => exact absurd (usesSession_of_feeds feeds succeeds) unused
      · cases live
        obtain ⟨memory, call⟩ := invocation
        cases call with
        | aeInit nonce nonceLen tagLen aadLen payloadLen =>
            exact fun admitted => absurd admitted unused
        | _ => trivial

/-- After a panic nothing is asked any more. -/
theorem unused_dead (invocations : List (Invocation backend)) :
    Machine.Within step (fun handle invocation => ¬ UsesSession handle invocation)
      (none : Option backend.Operation) invocations := by
  induction invocations with
  | nil => trivial
  | cons invocation invocations ih => exact ⟨id, ih⟩

/-! ## In a session -/

/-- In a session the state is not zero, and it stays so until the final call. -/
theorem followsStates_active (framed : backend.Framed) {operation : backend.Operation}
    {invocations : List (Invocation backend)} (state : gcmStInit ≤ operation.aegcmState)
    (once : Machine.NoneAfter step MakesFinalCall UsesSession (some operation) invocations) :
    Machine.Along (Machine.observed step inSession) FollowsStates (some operation, true)
      invocations := by
  induction invocations generalizing operation with
  | nil => trivial
  | cons invocation invocations ih =>
      obtain ⟨unused, later⟩ := once
      refine ⟨⟨fun _ _ => rfl, fun _ _ active => ?_⟩, ?_⟩
      · cases active
      rw [Machine.observed_mk]
      by_cases final : MakesFinalCall (some operation) invocation
      · exact followsStates_after _ (unused final)
      rcases next : (step (some operation) invocation).2 with _ | after
      · exact followsStates_after _ (unused_dead invocations)
      have open_still : inSession true invocation (step (some operation) invocation).1 = true := by
        by_cases opens : invocation.call.OpensSession (step (some operation) invocation).1
        · exact Machine.since_of_opens true opens
        · exact Machine.since_of_neither true opens fun ends => final (makesFinalCall_of_ends ends)
      rw [open_still]
      rw [next] at later
      refine ih ?_ later
      rcases state_of_step framed next with same | ⟨moved, _⟩
      · rw [same]
        exact state
      · exact moved

end Operation

/-! ## Before the first session -/

section Before

variable {lib : Mbedtls} {sha3 : Sha3} {ed25519 : Ed25519}

namespace Operation

/-- A call on a new handle opens a session, or leaves a handle that differs from a new one in its
keys only. -/
theorem renewed_of_step {operation after : (Backend.mbedcrypt lib sha3 ed25519).Operation}
    (alg : operation.alg = teeAlgAesGcm) (new : operation = renewed operation)
    {invocation : Invocation (Backend.mbedcrypt lib sha3 ed25519)}
    (survived : (step (some operation) invocation).2 = some after) :
    (after = renewed after ∧
        ¬ invocation.call.OpensSession (step (some operation) invocation).1) ∨
      (gcmStInit ≤ after.aegcmState ∧
        invocation.call.OpensSession (step (some operation) invocation).1) := by
  have state : operation.aegcmState = 0 := congrArg OperationHandle.aegcmState new
  have idle : ¬ gcmStInit ≤ operation.aegcmState := by
    rw [state]
    decide
  have notDigest : operation.mode ≠ teeModeDigest ∨ operation.alg ≠ teeAlgSha256 := by
    rw [alg]
    exact .inr (by decide)
  have notCbc : operation.alg ≠ teeAlgAesCbcNopad := by
    rw [alg]
    decide
  rw [step_some] at survived ⊢
  obtain rfl := eq_of_survive survived
  obtain ⟨memory, call⟩ := invocation
  cases call with
  | setOperationKey key =>
      refine .inl ⟨?_, id⟩
      cases key with
      | none => exact new
      | some key =>
          simp only [Invocation.perform, teeSetOperationKey]
          split
          · exact new
          · rw [new]
            split <;> rfl
  | digestUpdate chunk chunkSize =>
      simp only [Invocation.perform, teeDigestUpdate, if_pos notDigest] at survived
      cases survived
  | digestDoFinal chunk chunkLen hash hashLen =>
      simp only [Invocation.perform, teeDigestDoFinal, if_pos notDigest]
      exact .inl ⟨new, id⟩
  | aeInit nonce nonceLen tagLen aadLen payloadLen =>
      simp only [Invocation.perform] at survived ⊢
      rcases teeAEInit_cases operation memory nonce nonceLen tagLen aadLen payloadLen with
        ⟨_, result, failed, refused⟩ | ⟨_, _, ⟨_, panicked⟩ | ⟨_, accepted⟩⟩
      · rw [refused]
        exact .inl ⟨new, fun opens => failed (Exit.returned.inj opens)⟩
      · rw [panicked] at survived
        cases survived
      · rw [accepted]
        exact .inr ⟨Int.le_refl gcmStInit, rfl⟩
  | aeUpdateAAD aadData aadDataLen =>
      rcases teeAEUpdateAAD_cases operation memory aadData aadDataLen with
        ⟨panicked, _⟩ | ⟨admitted, _⟩
      · simp only [Invocation.perform, OperationOutput.ofVoid, panicked] at survived
        cases survived
      · exact absurd admitted.2.2 idle
  | aeUpdate buffers destLen =>
      rcases teeAEUpdate_cases operation memory buffers destLen with ⟨_, refused⟩ | ⟨admitted, _⟩
      · simp only [Invocation.perform, refused]
        exact .inl ⟨new, id⟩
      · exact absurd admitted.2.2.2.2 idle
  | aeEncryptFinal buffers destLen tag tagLen =>
      rcases teeAEEncryptFinal_cases operation memory buffers destLen tag tagLen with
        ⟨_, refused⟩ | ⟨admitted, _⟩
      · simp only [Invocation.perform, refused]
        exact .inl ⟨new, id⟩
      · exact absurd admitted.2.2.2.2 idle
  | aeDecryptFinal buffers destLen tag tagLen =>
      rcases teeAEDecryptFinal_cases operation memory buffers destLen tag tagLen with
        ⟨_, refused⟩ | ⟨admitted, _⟩
      · simp only [Invocation.perform, refused]
        exact .inl ⟨new, id⟩
      · exact absurd admitted.2.2.2.2 idle
  | cipherInit nonce nonceLen =>
      simp only [Invocation.perform, teeCipherInit, if_pos notCbc] at survived
      cases survived
  | cipherUpdate buffers =>
      simp only [Invocation.perform, teeCipherUpdate, if_pos notCbc]
      exact .inl ⟨new, id⟩
  | cipherDoFinal buffers =>
      simp only [Invocation.perform, teeCipherDoFinal, teeCipherUpdate, if_pos notCbc]
      exact .inl ⟨new, id⟩
  | signDigest digest digestLen signature => exact .inl ⟨new, id⟩
  | verifyDigest digest digestLen signature signatureLen => exact .inl ⟨new, id⟩

/-- From a new handle on, the discipline is kept in every run that asks for nothing after its first
final call. -/
theorem followsStates_new (accepts : ∀ context key, (lib.gcmSetkey context key).1 = 0)
    {operation : (Backend.mbedcrypt lib sha3 ed25519).Operation}
    (alg : operation.alg = teeAlgAesGcm) (new : operation = renewed operation)
    {invocations : List (Invocation (Backend.mbedcrypt lib sha3 ed25519))}
    (once : Machine.NoneAfter step MakesFinalCall UsesSession (some operation) invocations) :
    Machine.Along (Machine.observed step inSession) FollowsStates (some operation, false)
      invocations := by
  have framed := Backend.mbedcrypt_framed lib sha3 ed25519
  induction invocations generalizing operation with
  | nil => trivial
  | cons invocation invocations ih =>
      have state : operation.aegcmState = 0 := congrArg OperationHandle.aegcmState new
      refine ⟨⟨fun feeds succeeds => ?_, ?_⟩, ?_⟩
      · have used := usesSession_of_feeds feeds succeeds
        have idle : ¬ gcmStInit ≤ operation.aegcmState := by
          rw [state]
          decide
        obtain ⟨memory, call⟩ := invocation
        cases call with
        | aeUpdate buffers destLen => exact absurd used.2.2.2.2 idle
        | aeEncryptFinal buffers destLen tag tagLen => exact absurd used.1.2.2.2.2 idle
        | aeDecryptFinal buffers destLen tag tagLen => exact absurd used.1.2.2.2.2 idle
        | _ => exact feeds.elim
      · rintro _ ⟨⟩ _
        obtain ⟨memory, call⟩ := invocation
        cases call with
        | aeInit nonce nonceLen tagLen aadLen payloadLen =>
            intro admitted
            have init := teeAEInit_of_admitted admitted state (accepts _ _) memory payloadLen
            refine ⟨?_, fun later => by rw [← new]⟩
            rw [Machine.observed_mk, step_some]
            simp only [Invocation.perform, init]
            rfl
        | _ => trivial
      · rw [Machine.observed_mk]
        rcases next : (step (some operation) invocation).2 with _ | after
        · exact followsStates_after _ (unused_dead invocations)
        have later := once.2
        rw [next] at later
        rcases renewed_of_step alg new next with ⟨new', unopened⟩ | ⟨state', opens⟩
        · have unended : ¬ invocation.call.EndsSession (step (some operation) invocation).1 := by
            intro ends
            have final := makesFinalCall_of_ends ends
            have idle : ¬ gcmStInit ≤ operation.aegcmState := by
              rw [state]
              decide
            obtain ⟨memory, call⟩ := invocation
            cases call with
            | aeEncryptFinal buffers destLen tag tagLen => exact idle final.1.2.2.2.2
            | aeDecryptFinal buffers destLen tag tagLen => exact idle final.1.2.2.2.2
            | _ => exact ends.elim
          have closed : inSession false invocation (step (some operation) invocation).1 = false :=
            Machine.since_of_neither false unopened unended
          rw [closed]
          have alg' : after.alg = teeAlgAesGcm :=
            (congrArg (·.1) (purpose_of_step framed next)).trans alg
          exact ih alg' new' later
        · have opened : inSession false invocation (step (some operation) invocation).1 = true :=
            Machine.since_of_opens false opens
          rw [opened]
          exact followsStates_active framed state' later

end Operation
end Before

/-- In every run on an AES-GCM operation in which neither data nor a valid `TEE_AEInit` comes after
a final call, data is processed in a session only, and a valid `TEE_AEInit` outside a session
succeeds and is followed by what would follow on a new handle. -/
theorem ae_states_followed {lib : Mbedtls}
    (accepts : ∀ context key, (lib.gcmSetkey context key).1 = 0) {sha3 : Sha3} {ed25519 : Ed25519}
    {allocation : Option (Backend.mbedcrypt lib sha3 ed25519).Operation} {mode maxKeySize : UInt32}
    {handle : (Backend.mbedcrypt lib sha3 ed25519).Operation}
    (allocated : teeAllocateOperation (Backend.mbedcrypt lib sha3 ed25519) allocation teeAlgAesGcm
      mode maxKeySize = (.success, some handle))
    {invocations : List (Invocation (Backend.mbedcrypt lib sha3 ed25519))}
    (once : Machine.NoneAfter Operation.step Operation.MakesFinalCall Operation.UsesSession
      (some handle) invocations) :
    Machine.Along (Machine.observed Operation.step Operation.inSession) Operation.FollowsStates
      (some handle, false) invocations := by
  have new : handle = Operation.renewed handle := by
    rcases Operation.allocated_cases allocated with ⟨_, other, _⟩ | ⟨rfl, _⟩
    · exact absurd other (by decide)
    · rfl
  have alg := congrArg (·.1) (Operation.purpose_allocated allocated)
  exact Operation.followsStates_new accepts alg new once

theorem ae_states_followed_published :
    Machine.Along (Machine.observed Operation.step Operation.inSession) Operation.FollowsStates
      (some (Operation.fresh CryptLib.reference.backend teeAlgAesGcm teeModeEncrypt), false)
      (Operation.sealCalls CryptLib.reference.backend) := by
  have allocated : teeAllocateOperation CryptLib.reference.backend
      (some (Operation.fresh CryptLib.reference.backend 0 0)) teeAlgAesGcm teeModeEncrypt 256 =
        (.success, some (Operation.fresh CryptLib.reference.backend teeAlgAesGcm teeModeEncrypt)) :=
    rfl
  have once : Machine.NoneAfter Operation.step Operation.MakesFinalCall Operation.UsesSession
      (some (Operation.fresh CryptLib.reference.backend teeAlgAesGcm teeModeEncrypt))
      (Operation.sealCalls CryptLib.reference.backend) := by
    decide +kernel
  exact ae_states_followed (fun _ _ => rfl) allocated once

/-- After the tag has been delivered, more data is processed; and a new session cannot be opened. -/
theorem sealed_handle_processes :
    ¬ Machine.Along (Machine.observed Operation.step Operation.inSession) Operation.FollowsStates
        (some (Operation.fresh CryptLib.reference.backend teeAlgAesGcm teeModeEncrypt), false)
        (Operation.sealCalls CryptLib.reference.backend ++
          [{ memory := Operation.vectorMemory
             call := .aeUpdate Operation.vectorBuffers (some 16) }]) ∧
      ¬ Machine.Along (Machine.observed Operation.step Operation.inSession)
        Operation.FollowsStates
        (some (Operation.fresh CryptLib.reference.backend teeAlgAesGcm teeModeEncrypt), false)
        (Operation.sealCalls CryptLib.reference.backend ++
          [{ memory := Operation.vectorMemory, call := .aeInit (some 0) 16 128 0 16 }]) := by
  constructor
  · intro along
    have processed := along.2.2.2.1.1 trivial (by decide +kernel)
    exact absurd processed (by decide +kernel)
  · intro along
    have opened := along.2.2.2.1.2 _ rfl (by decide +kernel) (by decide +kernel)
    exact absurd opened.1 (by decide +kernel)

end TaRef
