import TaRef.Operation.ModeSeparation

/-!
# Activity of a cipher operation

The documentation gives a cipher operation an initial and an active state, but the handle does not
record it.  The two observers below follow the calls from outside: one by what the calls return, the
other by which functions are called.  Processing data succeeds on every live cipher handle, so the
documented discipline holds exactly for the runs whose caller keeps to it.
-/

namespace TaRef

variable {backend : Backend}

/-- A call of `TEE_CipherInit`. -/
def OperationCall.StartsCipher : OperationCall backend → Prop
  | .cipherInit .. => True
  | _ => False

/-- A call of `TEE_CipherDoFinal`. -/
def OperationCall.EndsCipher : OperationCall backend → Prop
  | .cipherDoFinal _ => True
  | _ => False

/-- A call of `TEE_CipherUpdate` or `TEE_CipherDoFinal`. -/
def OperationCall.FeedsCipher : OperationCall backend → Prop
  | .cipherUpdate _ | .cipherDoFinal _ => True
  | _ => False

instance (call : OperationCall backend) : Decidable call.StartsCipher := by
  casesm OperationCall _ <;> unfold OperationCall.StartsCipher <;> infer_instance

instance (call : OperationCall backend) : Decidable call.EndsCipher := by
  casesm OperationCall _ <;> unfold OperationCall.EndsCipher <;> infer_instance

instance (call : OperationCall backend) : Decidable call.FeedsCipher := by
  casesm OperationCall _ <;> unfold OperationCall.FeedsCipher <;> infer_instance

namespace Operation

/-- `TEE_CipherInit` has completed, and no `TEE_CipherDoFinal` has succeeded since. -/
def activity : Bool → Invocation backend → OperationOutput → Bool :=
  Machine.since (fun invocation output => invocation.call.StartsCipher ∧ output.Succeeds)
    fun invocation output => invocation.call.EndsCipher ∧ output.Succeeds

/-- `TEE_CipherInit` has been called, and `TEE_CipherDoFinal` has not been called since. -/
def announced : Bool → Invocation backend → OperationOutput → Bool :=
  Machine.since (fun invocation _ => invocation.call.StartsCipher)
    fun invocation _ => invocation.call.EndsCipher

/-- Data is processed in the active state only. -/
def FeedsActive (state : Option backend.Operation × Bool) (invocation : Invocation backend)
    (output : OperationOutput) : Prop :=
  invocation.call.FeedsCipher → output.Succeeds → state.2 = true

/-- Data is given to a live handle only between `TEE_CipherInit` and `TEE_CipherDoFinal`. -/
def FedInOrder (state : Option backend.Operation × Bool) (invocation : Invocation backend) : Prop :=
  state.1.isSome = true → invocation.call.FeedsCipher → state.2 = true

instance (state : Option backend.Operation × Bool) (invocation : Invocation backend) :
    Decidable (FedInOrder state invocation) := inferInstanceAs (Decidable (_ → _ → _))

/-- After a panic nothing is processed and nothing is given to a live handle. -/
theorem feedsActive_dead (active called : Bool) (invocations : List (Invocation backend)) :
    Machine.Along (Machine.observed step activity) FeedsActive (none, active) invocations ∧
      Machine.Within (Machine.observed step announced) FedInOrder (none, called) invocations := by
  induction invocations generalizing active called with
  | nil => exact ⟨trivial, trivial⟩
  | cons invocation invocations ih =>
      obtain ⟨along, within⟩ :=
        ih (activity active invocation (.bare .panicked invocation.memory))
          (announced called invocation (.bare .panicked invocation.memory))
      refine ⟨⟨fun _ succeeds => ?_, along⟩, ⟨fun live => ?_, within⟩⟩
      · cases succeeds
      · cases live

/-- What a call on a live cipher handle does for the two observers. -/
theorem activity_eq_announced {operation after : backend.Operation}
    (serves : ∃ mode, Serves teeAlgAesCbcNopad mode operation) {invocation : Invocation backend}
    (survived : (step (some operation) invocation).2 = some after) (active : Bool) :
    activity active invocation (step (some operation) invocation).1 =
        announced active invocation (step (some operation) invocation).1 ∧
      (invocation.call.FeedsCipher → (step (some operation) invocation).1.Succeeds) := by
  obtain ⟨mode, serves⟩ := serves
  obtain ⟨direction, direction_eq⟩ := serves.direction
  rw [← serves.mode_eq] at direction_eq
  obtain ⟨memory, call⟩ := invocation
  have fed : ∀ buffers, (teeCipherUpdate operation memory buffers).1.Succeeds := fun buffers => by
    rw [teeCipherUpdate_of_direction serves.alg_eq direction_eq]
    rfl
  cases call with
  | cipherInit nonce nonceLen =>
      have succeeds : (step (some operation) ⟨memory, .cipherInit nonce nonceLen⟩).1.Succeeds := by
        rw [step_some] at survived ⊢
        simp only [Invocation.perform] at survived ⊢
        cases returned : (teeCipherInit operation memory nonce nonceLen).1 with
        | returned value => rfl
        | panicked =>
            rw [returned] at survived
            cases survived
        | running =>
            rw [returned] at survived
            cases survived
      refine ⟨?_, fun feeds => feeds.elim⟩
      rw [activity, announced, Machine.since_of_opens active ⟨trivial, succeeds⟩,
        Machine.since_of_opens active trivial]
  | cipherUpdate buffers => exact ⟨rfl, fun _ => fed buffers⟩
  | cipherDoFinal buffers =>
      have succeeds : (step (some operation) ⟨memory, .cipherDoFinal buffers⟩).1.Succeeds :=
        fed buffers
      refine ⟨?_, fun _ => succeeds⟩
      rw [activity, announced,
        Machine.since_of_closes active (fun opened => opened.1) ⟨trivial, succeeds⟩,
        Machine.since_of_closes active id trivial]
  | setOperationKey key => exact ⟨rfl, fun feeds => feeds.elim⟩
  | digestUpdate chunk chunkSize => exact ⟨rfl, fun feeds => feeds.elim⟩
  | digestDoFinal chunk chunkLen hash hashLen => exact ⟨rfl, fun feeds => feeds.elim⟩
  | aeInit nonce nonceLen tagLen aadLen payloadLen => exact ⟨rfl, fun feeds => feeds.elim⟩
  | aeUpdateAAD aadData aadDataLen => exact ⟨rfl, fun feeds => feeds.elim⟩
  | aeUpdate buffers destLen => exact ⟨rfl, fun feeds => feeds.elim⟩
  | aeEncryptFinal buffers destLen tag tagLen => exact ⟨rfl, fun feeds => feeds.elim⟩
  | aeDecryptFinal buffers destLen tag tagLen => exact ⟨rfl, fun feeds => feeds.elim⟩
  | signDigest digest digestLen signature => exact ⟨rfl, fun feeds => feeds.elim⟩
  | verifyDigest digest digestLen signature signatureLen => exact ⟨rfl, fun feeds => feeds.elim⟩

/-- A call that processes data on a cipher handle returns, so the handle survives it. -/
theorem survives_of_feeds {mode : UInt32} {operation : backend.Operation}
    (serves : Serves teeAlgAesCbcNopad mode operation) {invocation : Invocation backend}
    (feeds : invocation.call.FeedsCipher) :
    ∃ after, (step (some operation) invocation).2 = some after := by
  obtain ⟨direction, direction_eq⟩ := serves.direction
  rw [← serves.mode_eq] at direction_eq
  obtain ⟨memory, call⟩ := invocation
  have run := teeCipherUpdate_of_direction serves.alg_eq direction_eq memory
  cases call with
  | cipherUpdate buffers =>
      have returned : (teeCipherUpdate operation memory buffers).1.exit = .returned .success :=
        congrArg (·.1.exit) (run buffers)
      exact ⟨_, survive_of_returned returned⟩
  | cipherDoFinal buffers =>
      have returned : (teeCipherDoFinal operation memory buffers).1.exit = .returned .success :=
        congrArg (·.1.exit) (run buffers)
      exact ⟨_, survive_of_returned returned⟩
  | _ => exact feeds.elim

end Operation

/-- In each build, data is processed in the active state only, exactly when it is given to the
handle only between `TEE_CipherInit` and `TEE_CipherDoFinal`. -/
theorem feedsActive_iff_fedInOrder (build : CryptLib) {allocation : Option build.backend.Operation}
    {mode maxKeySize : UInt32} {handle : build.backend.Operation}
    (allocated : teeAllocateOperation build.backend allocation teeAlgAesCbcNopad mode maxKeySize =
      (.success, some handle)) (invocations : List (Invocation build.backend)) :
    Machine.Along (Machine.observed Operation.step Operation.activity) Operation.FeedsActive
        (some handle, false) invocations ↔
      Machine.Within (Machine.observed Operation.step Operation.announced) Operation.FedInOrder
        (some handle, false) invocations := by
  have serves := Operation.serves_allocated allocated
  clear allocated
  generalize false = active
  -- as long as the handle lives the two observers see the same
  induction invocations generalizing handle active with
  | nil => exact Iff.rfl
  | cons invocation invocations ih =>
      rcases next : (Operation.step (some handle) invocation).2 with _ | after
      · have harmless : ¬ invocation.call.FeedsCipher := by
          intro feeds
          obtain ⟨after, survived⟩ := Operation.survives_of_feeds serves feeds
          cases next.symm.trans survived
        simp only [Machine.Along, Machine.Within, Machine.observed_mk, next]
        obtain ⟨along, within⟩ := Operation.feedsActive_dead
          (Operation.activity active invocation (Operation.step (some handle) invocation).1)
          (Operation.announced active invocation (Operation.step (some handle) invocation).1)
          invocations
        exact ⟨fun _ => ⟨fun _ feeds => (harmless feeds).elim, within⟩,
          fun _ => ⟨fun feeds => (harmless feeds).elim, along⟩⟩
      · obtain ⟨same, succeeds⟩ := Operation.activity_eq_announced ⟨mode, serves⟩ next active
        simp only [Machine.Along, Machine.Within, Machine.observed_mk, next, same]
        refine and_congr ?_ (ih (serves.step build.framed next) _)
        exact ⟨fun law _ feeds => law feeds (succeeds feeds),
          fun law feeds _ => law rfl feeds⟩

theorem feedsActive_iff_fedInOrder_published :
    Machine.Along (Machine.observed Operation.step Operation.activity) Operation.FeedsActive
        (some (Operation.fresh CryptLib.reference.backend teeAlgAesCbcNopad teeModeEncrypt), false)
        [{ memory := Operation.vectorMemory
           call := .setOperationKey (some (Operation.vectorKeyObject CryptLib.reference.backend)) },
          { memory := Operation.vectorMemory, call := .cipherInit (some 0) 16 },
          { memory := Operation.vectorMemory, call := .cipherUpdate Operation.vectorBuffers }] ↔
      Machine.Within (Machine.observed Operation.step Operation.announced) Operation.FedInOrder
        (some (Operation.fresh CryptLib.reference.backend teeAlgAesCbcNopad teeModeEncrypt), false)
        [{ memory := Operation.vectorMemory
           call := .setOperationKey (some (Operation.vectorKeyObject CryptLib.reference.backend)) },
          { memory := Operation.vectorMemory, call := .cipherInit (some 0) 16 },
          { memory := Operation.vectorMemory, call := .cipherUpdate Operation.vectorBuffers }] :=
  feedsActive_iff_fedInOrder .reference
    (show teeAllocateOperation CryptLib.reference.backend
      (some (Operation.fresh CryptLib.reference.backend 0 0)) teeAlgAesCbcNopad teeModeEncrypt 256 =
        (.success, some _) from rfl) _

/-- Encrypt a block as a whole message and go on with another block. -/
def secondMessage (backend : Backend) : List (Invocation backend) :=
  [{ memory := Operation.vectorMemory
     call := .setOperationKey (some (Operation.vectorKeyObject backend)) },
    { memory := Operation.vectorMemory, call := .cipherInit (some 0) 16 },
    { memory := Operation.vectorMemory, call := .cipherDoFinal Operation.vectorBuffers },
    { memory := Operation.vectorMemory, call := .cipherUpdate Operation.vectorBuffers }]

/-- tiny-AES over the instances of its libraries. -/
def CryptLib.tinyReference : CryptLib :=
  .tiny (.reference vectorCipher) (.reference vectorHash) .reference 0

/-- A second message is processed after `TEE_CipherDoFinal`, without a new nonce.  With tiny-AES
data is even processed on a handle just allocated, under a key schedule of zeros. -/
theorem second_message_processes :
    (teeAllocateOperation CryptLib.reference.backend
          (some (Operation.fresh CryptLib.reference.backend 0 0)) teeAlgAesCbcNopad teeModeEncrypt
          256 =
        (.success,
          some (Operation.fresh CryptLib.reference.backend teeAlgAesCbcNopad teeModeEncrypt)) ∧
      ¬ Machine.Along (Machine.observed Operation.step Operation.activity) Operation.FeedsActive
        (some (Operation.fresh CryptLib.reference.backend teeAlgAesCbcNopad teeModeEncrypt), false)
        (secondMessage CryptLib.reference.backend)) ∧
      teeAllocateOperation CryptLib.tinyReference.backend
          (some (Operation.fresh CryptLib.tinyReference.backend 0 0)) teeAlgAesCbcNopad
          teeModeEncrypt 256 =
        (.success,
          some (Operation.fresh CryptLib.tinyReference.backend teeAlgAesCbcNopad
            teeModeEncrypt)) ∧
      ¬ Machine.Along (Machine.observed Operation.step Operation.activity) Operation.FeedsActive
        (some (Operation.fresh CryptLib.tinyReference.backend teeAlgAesCbcNopad teeModeEncrypt),
          false)
        [{ memory := Operation.vectorMemory, call := .cipherUpdate Operation.vectorBuffers }] := by
  refine ⟨⟨rfl, fun along => ?_⟩, rfl, fun along => ?_⟩
  · exact absurd (along.2.2.2.1 trivial rfl) (by decide +kernel)
  · exact absurd (along.1 trivial rfl) (by decide)

end TaRef
