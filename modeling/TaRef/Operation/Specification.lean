import TaRef.Operation.Run

/-!
# What one call does

One lemma for each function of the authenticated encryption says everything a call can do: it is
refused and leaves the handle, it panics, or it is admitted and does its work.  From these follows
what calls keep of a handle.
-/

namespace TaRef

variable {backend : Backend}

namespace Operation

/-- The handle after the implicit call of `TEE_AEUpdateAAD`. -/
def readied (operation : backend.Operation) : backend.Operation :=
  if operation.aegcmState = gcmStInit then
    { (backend.gcmStarts operation []).2 with aegcmState := gcmStAad }
  else operation

theorem ne_init_of_aad_le {state : Int} (later : gcmStAad ≤ state) : state ≠ gcmStInit := by
  rintro rfl
  exact absurd later (by decide)

/-- What `TEE_CipherInit` can do. -/
theorem teeCipherInit_cases (operation : backend.Operation) (memory : Memory) (nonce : Option Nat)
    (nonceLen : Nat) :
    (teeCipherInit operation memory nonce nonceLen).1 = .panicked ∨
      operation.alg = teeAlgAesCbcNopad ∧
        teeCipherInit operation memory nonce nonceLen =
          backend.cipherInit operation (Block.ofBytes (memory.read (nonce.getD 0) nonceLen)) := by
  unfold teeCipherInit
  by_cases alg : operation.alg ≠ teeAlgAesCbcNopad
  · rw [if_pos alg]
    exact .inl rfl
  rw [if_neg alg]
  by_cases length : nonceLen ≠ 16
  · rw [if_pos length]
    exact .inl rfl
  rw [if_neg length]
  by_cases unset : hasFlag operation.flags teeHandleFlagKeySet = false
  · rw [if_pos unset]
    exact .inl rfl
  · rw [if_neg unset]
    exact .inr ⟨not_not.mp alg, rfl⟩

/-- A processing call with these arguments passes the checks of the AE functions. -/
def AdmitsData (operation : backend.Operation) (buffers : Buffers) (destLen : Option Nat) : Prop :=
  operation.alg = teeAlgAesGcm ∧ buffers.destData.isSome = true ∧
    buffers.srcData.isSome = true ∧ destLen.isSome = true ∧ gcmStInit ≤ operation.aegcmState

/-- A call of `TEE_AEInit` with these arguments is valid for the handle. -/
def AdmitsInit (operation : backend.Operation) (nonce : Option Nat)
    (nonceLen tagLen aadLen : Nat) : Prop :=
  operation.alg = teeAlgAesGcm ∧ nonceLen = 16 ∧ aadLen ≤ 16 ∧ tagLen = 128 ∧
    nonce.isSome = true ∧ hasFlag operation.flags teeHandleFlagKeySet = true

/-- A call of `TEE_AEUpdateAAD` with these arguments passes its checks. -/
def AdmitsAAD (operation : backend.Operation) (aadData : Option Nat) (aadDataLen : Nat) : Prop :=
  (aadData = none → aadDataLen = 0) ∧ aadDataLen ≤ 16 ∧ gcmStInit ≤ operation.aegcmState

instance (operation : backend.Operation) (buffers : Buffers) (destLen : Option Nat) :
    Decidable (AdmitsData operation buffers destLen) :=
  inferInstanceAs (Decidable (_ ∧ _ ∧ _ ∧ _ ∧ _))

instance (operation : backend.Operation) (nonce : Option Nat) (nonceLen tagLen aadLen : Nat) :
    Decidable (AdmitsInit operation nonce nonceLen tagLen aadLen) :=
  inferInstanceAs (Decidable (_ ∧ _ ∧ _ ∧ _ ∧ _ ∧ _))

instance (operation : backend.Operation) (aadData : Option Nat) (aadDataLen : Nat) :
    Decidable (AdmitsAAD operation aadData aadDataLen) :=
  inferInstanceAs (Decidable ((_ → _) ∧ _ ∧ _))

/-- A final call of the authenticated encryption that passes its checks. -/
def AdmitsFinal (operation : backend.Operation) : OperationCall backend → Prop
  | .aeEncryptFinal buffers destLen tag tagLen =>
      AdmitsData operation buffers destLen ∧ tag.isSome = true ∧ tagLen = some 16
  | .aeDecryptFinal buffers destLen tag tagLen =>
      AdmitsData operation buffers destLen ∧ tag.isSome = true ∧ tagLen = 16
  | _ => False

instance (operation : backend.Operation) (call : OperationCall backend) :
    Decidable (AdmitsFinal operation call) := by
  casesm OperationCall _ <;> unfold AdmitsFinal <;> infer_instance

/-- What `TEE_AEInit` can do. -/
theorem teeAEInit_cases (operation : backend.Operation) (memory : Memory) (nonce : Option Nat)
    (nonceLen tagLen aadLen payloadLen : Nat) :
    (¬ (AdmitsInit operation nonce nonceLen tagLen aadLen ∧ operation.aegcmState = 0) ∧
      ∃ result, result ≠ .success ∧
        teeAEInit operation memory nonce nonceLen tagLen aadLen payloadLen =
          (.returned result, operation)) ∨
    (AdmitsInit operation nonce nonceLen tagLen aadLen ∧ operation.aegcmState = 0 ∧
      (((backend.gcmSetkey operation).1 ≠ 0 ∧
        (teeAEInit operation memory nonce nonceLen tagLen aadLen payloadLen).1 = .panicked) ∨
      ((backend.gcmSetkey operation).1 = 0 ∧
        teeAEInit operation memory nonce nonceLen tagLen aadLen payloadLen =
          (.returned .success, { (backend.gcmSetkey operation).2 with
            aeiv := Block.ofBytes (memory.read (nonce.getD 0) teeObjectNonceSize)
            aegcmState := gcmStInit })))) := by
  unfold teeAEInit AdmitsInit
  by_cases alg : operation.alg = teeAlgAesGcm
  swap
  · exact .inl ⟨fun admitted => alg admitted.1.1, .errorBadParameters, by decide, by simp [alg]⟩
  by_cases nonce_len : nonceLen = 16
  swap
  · exact .inl ⟨fun admitted => nonce_len admitted.1.2.1, .errorNotSupported, by decide,
      by simp [alg, nonce_len]⟩
  by_cases aad_len : aadLen ≤ 16
  swap
  · exact .inl ⟨fun admitted => aad_len admitted.1.2.2.1, .errorNotSupported, by decide,
      by simp [alg, nonce_len, Nat.lt_of_not_le aad_len]⟩
  by_cases tag_len : tagLen = 128
  swap
  · exact .inl ⟨fun admitted => tag_len admitted.1.2.2.2.1, .errorNotSupported, by decide,
      by simp [alg, nonce_len, Nat.not_lt.mpr aad_len, tag_len]⟩
  cases nonce with
  | none =>
      exact .inl ⟨fun admitted => by simp at admitted, .errorBadParameters, by decide,
        by simp [alg, nonce_len, Nat.not_lt.mpr aad_len, tag_len]⟩
  | some nonce =>
      by_cases ready : hasFlag operation.flags teeHandleFlagKeySet = true ∧
          operation.aegcmState = 0
      · refine .inr ⟨⟨alg, nonce_len, aad_len, tag_len, rfl, ready.1⟩, ready.2, ?_⟩
        by_cases rv : (backend.gcmSetkey operation).1 = 0
        · exact .inr ⟨rv, by simp [alg, nonce_len, Nat.not_lt.mpr aad_len, tag_len, ready, rv]⟩
        · exact .inl ⟨rv, by simp [alg, nonce_len, Nat.not_lt.mpr aad_len, tag_len, ready, rv]⟩
      · refine .inl ⟨fun admitted => ready ⟨admitted.1.2.2.2.2.2, admitted.2⟩,
          .errorBadParameters, by decide, ?_⟩
        have refused : hasFlag operation.flags teeHandleFlagKeySet = false ∨
            operation.aegcmState ≠ 0 := by
          rw [not_and_or, Bool.not_eq_true] at ready
          exact ready
        simp only [alg, nonce_len, Nat.not_lt.mpr aad_len, tag_len, refused, ne_eq,
          not_true_eq_false, if_false, if_true]

/-- What `TEE_AEUpdateAAD` can do. -/
theorem teeAEUpdateAAD_cases (operation : backend.Operation) (memory : Memory)
    (aadData : Option Nat) (aadDataLen : Nat) :
    ((teeAEUpdateAAD operation memory aadData aadDataLen).1 = .panicked ∧
      ¬ (AdmitsAAD operation aadData aadDataLen ∧
        (backend.gcmStarts operation (memory.read (aadData.getD 0) aadDataLen)).1 = 0)) ∨
    (AdmitsAAD operation aadData aadDataLen ∧
      (backend.gcmStarts operation (memory.read (aadData.getD 0) aadDataLen)).1 = 0 ∧
      teeAEUpdateAAD operation memory aadData aadDataLen =
        (.returned (), { (backend.gcmStarts operation
          (memory.read (aadData.getD 0) aadDataLen)).2 with aegcmState := gcmStAad })) := by
  unfold teeAEUpdateAAD AdmitsAAD
  by_cases arguments : (aadData = none ∧ aadDataLen ≠ 0) ∨ aadDataLen > 16
  · refine .inl ⟨by rw [if_pos arguments], fun admitted => ?_⟩
    rcases arguments with ⟨null, long⟩ | long
    · exact long (admitted.1.1 null)
    · exact Nat.not_lt.mpr admitted.1.2.1 long
  rw [if_neg arguments]
  by_cases state : operation.aegcmState < gcmStInit
  · exact .inl ⟨by rw [if_pos state], fun admitted => Int.not_le.mpr state admitted.1.2.2⟩
  rw [if_neg state]
  by_cases rv : (backend.gcmStarts operation (memory.read (aadData.getD 0) aadDataLen)).1 = 0
  · rw [not_or, not_and, not_not] at arguments
    exact .inr ⟨⟨arguments.1, Nat.le_of_not_lt arguments.2, Int.le_of_not_gt state⟩, rv,
      by simp [rv]⟩
  · exact .inl ⟨by simp [rv], fun admitted => rv admitted.2⟩

/-- What the start of a processing call can do. -/
theorem whenStarted_cases (operation : backend.Operation) (memory : Memory)
    (work : backend.Operation → OperationOutput × backend.Operation) :
    (¬ gcmStInit ≤ operation.aegcmState ∧
      whenStarted operation memory work =
        (.bare (.returned .errorBadParameters) memory, operation)) ∨
    (gcmStInit ≤ operation.aegcmState ∧
      ((whenStarted operation memory work).1.exit = .panicked ∨
        ((operation.aegcmState = gcmStInit → (backend.gcmStarts operation []).1 = 0) ∧
          whenStarted operation memory work = work (readied operation)))) := by
  unfold whenStarted readied
  by_cases state : operation.aegcmState = gcmStInit
  · refine .inr ⟨state.ge, ?_⟩
    simp only [if_pos state]
    have data_eq : memory.read ((none : Option Nat).getD 0) 0 = [] := rfl
    rcases teeAEUpdateAAD_cases operation memory none 0 with ⟨panicked, _⟩ | ⟨_, rv, returned⟩
    · rw [panicked]
      exact .inl rfl
    · rw [data_eq] at rv returned
      rw [returned]
      exact .inr ⟨fun _ => rv, if_neg (Int.lt_irrefl gcmStAad)⟩
  · simp only [if_neg state]
    by_cases early : operation.aegcmState < gcmStAad
    · rw [if_pos early]
      refine .inl ⟨fun started => ?_, rfl⟩
      simp only [gcmStAad, gcmStInit] at early state started
      omega
    · rw [if_neg early]
      refine .inr ⟨?_, .inr ⟨fun equality => absurd equality state, rfl⟩⟩
      simp only [gcmStAad, gcmStInit] at early ⊢
      omega

/-- The pointers of a processing call are checked before the state. -/
theorem admitsData_of_checks {operation : backend.Operation} {buffers : Buffers}
    {destLen : Option Nat} (alg : operation.alg = teeAlgAesGcm)
    (pointers : ¬ (buffers.destData = none ∨ buffers.srcData = none ∨ destLen = none)) :
    AdmitsData operation buffers destLen ↔ gcmStInit ≤ operation.aegcmState := by
  rw [not_or, not_or] at pointers
  simp only [AdmitsData, alg, Option.isSome_iff_ne_none, pointers, ne_eq, not_false_eq_true,
    true_and]

theorem not_admitsData_of_pointers {operation : backend.Operation} {buffers : Buffers}
    {destLen : Option Nat}
    (pointers : buffers.destData = none ∨ buffers.srcData = none ∨ destLen = none) :
    ¬ AdmitsData operation buffers destLen := by
  rintro ⟨_, dest, src, len, _⟩
  rcases pointers with null | null | null <;> simp [null] at dest src len

/-- What `TEE_AEUpdate` can do. -/
theorem teeAEUpdate_cases (operation : backend.Operation) (memory : Memory) (buffers : Buffers)
    (destLen : Option Nat) :
    (¬ AdmitsData operation buffers destLen ∧
      teeAEUpdate operation memory buffers destLen =
        (.bare (.returned .errorBadParameters) memory, operation)) ∨
    (AdmitsData operation buffers destLen ∧
      ((teeAEUpdate operation memory buffers destLen).1.exit = .panicked ∨
      ((operation.aegcmState = gcmStInit → (backend.gcmStarts operation []).1 = 0) ∧
        (backend.gcmUpdate (readied operation) memory buffers).rv = 0 ∧
        teeAEUpdate operation memory buffers destLen =
          ({ exit := .returned .success
             destLen := some buffers.srcLen
             memory := (backend.gcmUpdate (readied operation) memory buffers).memory },
            { (backend.gcmUpdate (readied operation) memory buffers).operation with
              aegcmState := gcmStActive })))) := by
  unfold teeAEUpdate
  by_cases alg : operation.alg = teeAlgAesGcm
  swap
  · exact .inl ⟨fun admitted => alg admitted.1, if_pos alg⟩
  rw [if_neg (not_not.mpr alg)]
  by_cases pointers : buffers.destData = none ∨ buffers.srcData = none ∨ destLen = none
  · exact .inl ⟨not_admitsData_of_pointers pointers, if_pos pointers⟩
  rw [if_neg pointers, admitsData_of_checks alg pointers]
  generalize work_eq : (fun ready : backend.Operation => _) = work
  rcases whenStarted_cases operation memory work with
    refused | ⟨state, panicked | ⟨started, run⟩⟩
  · exact .inl refused
  · exact .inr ⟨state, .inl panicked⟩
  · refine .inr ⟨state, ?_⟩
    rw [run, ← work_eq]
    by_cases rv : (backend.gcmUpdate (readied operation) memory buffers).rv = 0
    · exact .inr ⟨started, rv, if_neg (not_not.mpr rv)⟩
    · left
      dsimp only
      rw [if_pos rv]
      rfl

/-- What `TEE_AEEncryptFinal` can do. -/
theorem teeAEEncryptFinal_cases (operation : backend.Operation) (memory : Memory)
    (buffers : Buffers) (destLen tag tagLen : Option Nat) :
    (¬ (AdmitsData operation buffers destLen ∧ tag.isSome = true ∧ tagLen = some 16) ∧
      teeAEEncryptFinal operation memory buffers destLen tag tagLen =
        (.bare (.returned .errorBadParameters) memory, operation)) ∨
    (AdmitsData operation buffers destLen ∧ tag.isSome = true ∧ tagLen = some 16 ∧
      ((teeAEEncryptFinal operation memory buffers destLen tag tagLen).1.exit = .panicked ∨
      ((operation.aegcmState = gcmStInit → (backend.gcmStarts operation []).1 = 0) ∧
        (backend.gcmEncryptFinal (readied operation) memory buffers (tag.getD 0)).rv = 0 ∧
        teeAEEncryptFinal operation memory buffers destLen tag tagLen =
          ({ exit := .returned .success
             destLen := some buffers.srcLen
             memory := (backend.gcmEncryptFinal (readied operation) memory buffers
              (tag.getD 0)).memory },
            { (backend.gcmEncryptFinal (readied operation) memory buffers
                (tag.getD 0)).operation with
              aegcmState := gcmStFinal })))) := by
  unfold teeAEEncryptFinal
  by_cases alg : operation.alg = teeAlgAesGcm
  swap
  · exact .inl ⟨fun admitted => alg admitted.1.1, if_pos alg⟩
  rw [if_neg (not_not.mpr alg)]
  by_cases pointers : buffers.destData = none ∨ buffers.srcData = none ∨ destLen = none
  · exact .inl ⟨fun admitted => not_admitsData_of_pointers pointers admitted.1, if_pos pointers⟩
  rw [if_neg pointers, admitsData_of_checks alg pointers]
  by_cases tag_len : tagLen = some 16
  swap
  · exact .inl ⟨fun admitted => tag_len admitted.2.2, if_pos tag_len⟩
  rw [if_neg (not_not.mpr tag_len)]
  by_cases tag_null : tag = none
  · exact .inl ⟨fun admitted => by simp [tag_null] at admitted, if_pos tag_null⟩
  have tag_some : tag.isSome = true := Option.isSome_iff_ne_none.mpr tag_null
  rw [if_neg tag_null]
  generalize work_eq : (fun ready : backend.Operation => _) = work
  rcases whenStarted_cases operation memory work with
    ⟨state, refused⟩ | ⟨state, panicked | ⟨started, run⟩⟩
  · exact .inl ⟨fun admitted => state admitted.1, refused⟩
  · exact .inr ⟨state, tag_some, tag_len, .inl panicked⟩
  · refine .inr ⟨state, tag_some, tag_len, ?_⟩
    rw [run, ← work_eq]
    by_cases rv : (backend.gcmEncryptFinal (readied operation) memory buffers (tag.getD 0)).rv = 0
    · exact .inr ⟨started, rv, if_neg (not_not.mpr rv)⟩
    · left
      dsimp only
      rw [if_pos rv]
      rfl

/-- What `TEE_AEDecryptFinal` can do. -/
theorem teeAEDecryptFinal_cases (operation : backend.Operation) (memory : Memory)
    (buffers : Buffers) (destLen tag : Option Nat) (tagLen : Nat) :
    (¬ (AdmitsData operation buffers destLen ∧ tag.isSome = true ∧ tagLen = 16) ∧
      teeAEDecryptFinal operation memory buffers destLen tag tagLen =
        (.bare (.returned .errorBadParameters) memory, operation)) ∨
    (AdmitsData operation buffers destLen ∧ tag.isSome = true ∧ tagLen = 16 ∧
      ((teeAEDecryptFinal operation memory buffers destLen tag tagLen).1.exit = .panicked ∨
      ((operation.aegcmState = gcmStInit → (backend.gcmStarts operation []).1 = 0) ∧
        ∃ verified after memory',
          backend.gcmDecryptFinal (readied operation) memory buffers (tag.getD 0) =
            (.returned verified, after, memory') ∧
          teeAEDecryptFinal operation memory buffers destLen tag tagLen =
            if verified then
              ({ exit := .returned .success, destLen := some buffers.srcLen, memory := memory' },
                { after with aegcmState := gcmStFinal })
            else (.bare (.returned .errorMacInvalid) memory', after)))) := by
  unfold teeAEDecryptFinal
  by_cases alg : operation.alg = teeAlgAesGcm
  swap
  · exact .inl ⟨fun admitted => alg admitted.1.1, if_pos alg⟩
  rw [if_neg (not_not.mpr alg)]
  by_cases pointers : buffers.destData = none ∨ buffers.srcData = none ∨ destLen = none
  · exact .inl ⟨fun admitted => not_admitsData_of_pointers pointers admitted.1, if_pos pointers⟩
  rw [if_neg pointers, admitsData_of_checks alg pointers]
  by_cases tag_check : tag = none ∨ tagLen ≠ 16
  · refine .inl ⟨fun admitted => ?_, if_pos tag_check⟩
    rcases tag_check with null | short
    · simp [null] at admitted
    · exact short admitted.2.2
  rw [if_neg tag_check]
  rw [not_or, not_not] at tag_check
  have tag_some : tag.isSome = true := Option.isSome_iff_ne_none.mpr tag_check.1
  generalize work_eq : (fun ready : backend.Operation => _) = work
  rcases whenStarted_cases operation memory work with
    ⟨state, refused⟩ | ⟨state, panicked | ⟨started, run⟩⟩
  · exact .inl ⟨fun admitted => state admitted.1, refused⟩
  · exact .inr ⟨state, tag_some, tag_check.2, .inl panicked⟩
  · refine .inr ⟨state, tag_some, tag_check.2, ?_⟩
    rw [run, ← work_eq]
    rcases final : backend.gcmDecryptFinal (readied operation) memory buffers (tag.getD 0) with
      ⟨exit, after, memory'⟩
    dsimp only
    rw [final]
    cases exit with
    | returned verified =>
        refine .inr ⟨started, verified, after, memory', rfl, ?_⟩
        cases verified <;> rfl
    | panicked => exact .inl rfl
    | running => exact .inl rfl

/-- A call that succeeds was not refused. -/
theorem ne_badParameters_of_succeeds {output : OperationOutput} (succeeds : output.Succeeds) :
    output.exit ≠ .returned .errorBadParameters := by
  intro refused
  cases succeeds.symm.trans refused

section Refused

variable {operation : backend.Operation} {memory : Memory} {buffers : Buffers}

/-- A call that is not refused passed the checks on its data. -/
theorem admitsData_of_aeUpdate {destLen : Option Nat}
    (ran : (teeAEUpdate operation memory buffers destLen).1.exit ≠
      .returned .errorBadParameters) : AdmitsData operation buffers destLen := by
  rcases teeAEUpdate_cases operation memory buffers destLen with ⟨_, refused⟩ | ⟨admitted, _⟩
  · rw [refused] at ran
    exact absurd rfl ran
  · exact admitted

theorem admitsFinal_of_aeEncryptFinal {destLen tag tagLen : Option Nat}
    (ran : (teeAEEncryptFinal operation memory buffers destLen tag tagLen).1.exit ≠
      .returned .errorBadParameters) :
    AdmitsFinal operation (.aeEncryptFinal buffers destLen tag tagLen) := by
  rcases teeAEEncryptFinal_cases operation memory buffers destLen tag tagLen with
    ⟨_, refused⟩ | ⟨admitted, tag_some, tag_len, _⟩
  · rw [refused] at ran
    exact absurd rfl ran
  · exact ⟨admitted, tag_some, tag_len⟩

theorem admitsFinal_of_aeDecryptFinal {destLen tag : Option Nat} {tagLen : Nat}
    (ran : (teeAEDecryptFinal operation memory buffers destLen tag tagLen).1.exit ≠
      .returned .errorBadParameters) :
    AdmitsFinal operation (.aeDecryptFinal buffers destLen tag tagLen) := by
  rcases teeAEDecryptFinal_cases operation memory buffers destLen tag tagLen with
    ⟨_, refused⟩ | ⟨admitted, tag_some, tag_len, _⟩
  · rw [refused] at ran
    exact absurd rfl ran
  · exact ⟨admitted, tag_some, tag_len⟩

end Refused

/-- A processing call works on the readied handle when the implicit start succeeds. -/
theorem whenStarted_of_started {operation : backend.Operation}
    (state : gcmStInit ≤ operation.aegcmState)
    (started : operation.aegcmState = gcmStInit → (backend.gcmStarts operation []).1 = 0)
    (memory : Memory) (work : backend.Operation → OperationOutput × backend.Operation) :
    whenStarted operation memory work = work (readied operation) := by
  unfold whenStarted readied
  by_cases first : operation.aegcmState = gcmStInit
  · have data_eq : memory.read ((none : Option Nat).getD 0) 0 = [] := rfl
    rcases teeAEUpdateAAD_cases operation memory none 0 with ⟨_, refused⟩ | ⟨_, _, returned⟩
    · rw [data_eq] at refused
      exact absurd ⟨⟨fun _ => rfl, by decide, state⟩, started first⟩ refused
    · rw [data_eq] at returned
      simp only [if_pos first, returned]
      exact if_neg (Int.lt_irrefl gcmStAad)
  · have late : ¬ operation.aegcmState < gcmStAad := by
      simp only [gcmStAad, gcmStInit] at first state ⊢
      omega
    simp only [if_neg first, if_neg late]

/-- `TEE_AEInit` succeeds on valid arguments when the library takes the key. -/
theorem teeAEInit_of_admitted {operation : backend.Operation} {nonce : Option Nat}
    {nonceLen tagLen aadLen : Nat} (admitted : AdmitsInit operation nonce nonceLen tagLen aadLen)
    (state : operation.aegcmState = 0) (rv : (backend.gcmSetkey operation).1 = 0)
    (memory : Memory) (payloadLen : Nat) :
    teeAEInit operation memory nonce nonceLen tagLen aadLen payloadLen =
      (.returned .success, { (backend.gcmSetkey operation).2 with
        aeiv := Block.ofBytes (memory.read (nonce.getD 0) teeObjectNonceSize)
        aegcmState := gcmStInit }) := by
  rcases teeAEInit_cases operation memory nonce nonceLen tagLen aadLen payloadLen with
    ⟨refused, _⟩ | ⟨_, _, ⟨failed, _⟩ | ⟨_, accepted⟩⟩
  · exact absurd ⟨admitted, state⟩ refused
  · exact absurd rv failed
  · exact accepted

/-- `TEE_AEUpdateAAD` returns on valid arguments when the library starts. -/
theorem teeAEUpdateAAD_of_admitted {operation : backend.Operation} (memory : Memory)
    {aadData : Option Nat} {aadDataLen : Nat} (admitted : AdmitsAAD operation aadData aadDataLen)
    (rv : (backend.gcmStarts operation (memory.read (aadData.getD 0) aadDataLen)).1 = 0) :
    teeAEUpdateAAD operation memory aadData aadDataLen =
      (.returned (), { (backend.gcmStarts operation
        (memory.read (aadData.getD 0) aadDataLen)).2 with aegcmState := gcmStAad }) := by
  rcases teeAEUpdateAAD_cases operation memory aadData aadDataLen with
    ⟨_, refused⟩ | ⟨_, _, accepted⟩
  · exact absurd ⟨admitted, rv⟩ refused
  · exact accepted

theorem pointers_of_admitsData {operation : backend.Operation} {buffers : Buffers}
    {destLen : Option Nat} (admitted : AdmitsData operation buffers destLen) :
    ¬ (buffers.destData = none ∨ buffers.srcData = none ∨ destLen = none) :=
  fun pointers => not_admitsData_of_pointers pointers admitted

/-- `TEE_AEUpdate` succeeds when the library does. -/
theorem teeAEUpdate_of_admitted {operation : backend.Operation} (memory : Memory)
    {buffers : Buffers} {destLen : Option Nat} (admitted : AdmitsData operation buffers destLen)
    (started : operation.aegcmState = gcmStInit → (backend.gcmStarts operation []).1 = 0)
    (rv : (backend.gcmUpdate (readied operation) memory buffers).rv = 0) :
    teeAEUpdate operation memory buffers destLen =
      ({ exit := .returned .success
         destLen := some buffers.srcLen
         memory := (backend.gcmUpdate (readied operation) memory buffers).memory },
        { (backend.gcmUpdate (readied operation) memory buffers).operation with
          aegcmState := gcmStActive }) := by
  rw [teeAEUpdate, if_neg (not_not.mpr admitted.1), if_neg (pointers_of_admitsData admitted),
    whenStarted_of_started admitted.2.2.2.2 started]
  exact if_neg (not_not.mpr rv)

/-- `TEE_AEEncryptFinal` succeeds when the library does. -/
theorem teeAEEncryptFinal_of_admitted {operation : backend.Operation} (memory : Memory)
    {buffers : Buffers} {destLen : Option Nat} (tag : Nat)
    (admitted : AdmitsData operation buffers destLen)
    (started : operation.aegcmState = gcmStInit → (backend.gcmStarts operation []).1 = 0)
    (rv : (backend.gcmEncryptFinal (readied operation) memory buffers tag).rv = 0) :
    teeAEEncryptFinal operation memory buffers destLen (some tag) (some 16) =
      ({ exit := .returned .success
         destLen := some buffers.srcLen
         memory := (backend.gcmEncryptFinal (readied operation) memory buffers tag).memory },
        { (backend.gcmEncryptFinal (readied operation) memory buffers tag).operation with
          aegcmState := gcmStFinal }) := by
  rw [teeAEEncryptFinal, if_neg (not_not.mpr admitted.1),
    if_neg (pointers_of_admitsData admitted), if_neg (not_not.mpr rfl),
    if_neg (Option.some_ne_none tag), whenStarted_of_started admitted.2.2.2.2 started]
  exact if_neg (not_not.mpr rv)

/-- `TEE_AEDecryptFinal` returns what the comparison of the tags says. -/
theorem teeAEDecryptFinal_of_admitted {operation after : backend.Operation}
    {memory memory' : Memory} {buffers : Buffers} {destLen : Option Nat} {tag : Nat}
    {verified : Bool} (admitted : AdmitsData operation buffers destLen)
    (started : operation.aegcmState = gcmStInit → (backend.gcmStarts operation []).1 = 0)
    (final : backend.gcmDecryptFinal (readied operation) memory buffers tag =
      (.returned verified, after, memory')) :
    teeAEDecryptFinal operation memory buffers destLen (some tag) 16 =
      if verified then
        ({ exit := .returned .success, destLen := some buffers.srcLen, memory := memory' },
          { after with aegcmState := gcmStFinal })
      else (.bare (.returned .errorMacInvalid) memory', after) := by
  have tag_check : ¬ (some tag = none ∨ (16 : Nat) ≠ 16) := by simp
  rw [teeAEDecryptFinal, if_neg (not_not.mpr admitted.1),
    if_neg (pointers_of_admitsData admitted), if_neg tag_check,
    whenStarted_of_started admitted.2.2.2.2 started]
  simp only [Option.getD_some, final]
  cases verified <;> rfl

/-! ## Frame rule -/

/-- A part of a handle that the blocks for data leave, and that does not depend on the fields that
the text around them writes. -/
structure Keeps (backend : Backend) {β : Type*} (part : backend.Operation → β) : Prop where
  ctx : ∀ operation ctx, part { operation with ctx } = part operation
  session : ∀ operation aeiv aegcmState,
    part { operation with aeiv, aegcmState } = part operation
  gcmStarts : ∀ operation aad, part (backend.gcmStarts operation aad).2 = part operation
  gcmUpdate : ∀ operation memory buffers,
    part (backend.gcmUpdate operation memory buffers).operation = part operation
  gcmEncryptFinal : ∀ operation memory buffers tag,
    part (backend.gcmEncryptFinal operation memory buffers tag).operation = part operation
  gcmDecryptFinal : ∀ operation memory buffers tag,
    part (backend.gcmDecryptFinal operation memory buffers tag).2.1 = part operation
  cbc : ∀ direction operation memory buffers,
    part (backend.cbc direction operation memory buffers).1 = part operation

theorem Keeps.aegcmState {β : Type*} {part : backend.Operation → β} (keeps : Keeps backend part)
    (operation : backend.Operation) (aegcmState : Int) :
    part { operation with aegcmState } = part operation :=
  keeps.session operation operation.aeiv aegcmState

theorem Keeps.readied {β : Type*} {part : backend.Operation → β} (keeps : Keeps backend part)
    (operation : backend.Operation) : part (readied operation) = part operation := by
  unfold Operation.readied
  split
  · rw [keeps.aegcmState, keeps.gcmStarts]
  · rfl

/-- A call that returns keeps such a part; the calls that set a key or start a session only if their
block does. -/
theorem Keeps.survivor {β : Type*} {part : backend.Operation → β} (keeps : Keeps backend part)
    {operation after : backend.Operation} {invocation : Invocation backend}
    (programmed : ∀ key, invocation.call = .setOperationKey key →
      part (teeSetOperationKey operation key).2 = part operation)
    (scheduled : ∀ nonce nonceLen tagLen aadLen payloadLen,
      invocation.call = .aeInit nonce nonceLen tagLen aadLen payloadLen →
        part (backend.gcmSetkey operation).2 = part operation)
    (expanded : ∀ nonce nonceLen, invocation.call = .cipherInit nonce nonceLen →
      ∀ iv, part (backend.cipherInit operation iv).2 = part operation)
    (survived : (step (some operation) invocation).2 = some after) :
    part after = part operation := by
  rw [step_some] at survived
  rw [← eq_of_survive survived]
  obtain ⟨memory, call⟩ := invocation
  cases call with
  | setOperationKey key => exact programmed key rfl
  | digestUpdate chunk chunkSize =>
      simp only [Invocation.perform, teeDigestUpdate]
      split
      · rfl
      · exact keeps.ctx operation _
  | digestDoFinal chunk chunkLen hash hashLen =>
      simp only [Invocation.perform, teeDigestDoFinal]
      split
      · rfl
      · split
        · rfl
        · split
          · rfl
          · split
            · rfl
            · exact keeps.ctx operation _
  | aeInit nonce nonceLen tagLen aadLen payloadLen =>
      simp only [Invocation.perform] at survived ⊢
      rcases teeAEInit_cases operation memory nonce nonceLen tagLen aadLen payloadLen with
        ⟨_, _, _, refused⟩ | ⟨_, _, ⟨_, panicked⟩ | ⟨_, accepted⟩⟩
      · rw [refused]
      · rw [panicked] at survived
        cases survived
      · rw [accepted]
        exact (keeps.session (backend.gcmSetkey operation).2 _ gcmStInit).trans
          (scheduled nonce nonceLen tagLen aadLen payloadLen rfl)
  | aeUpdateAAD aadData aadDataLen =>
      simp only [Invocation.perform] at survived ⊢
      rcases teeAEUpdateAAD_cases operation memory aadData aadDataLen with
        ⟨panicked, _⟩ | ⟨_, _, accepted⟩
      · rw [panicked] at survived
        cases survived
      · rw [accepted]
        exact (keeps.aegcmState _ gcmStAad).trans (keeps.gcmStarts operation _)
  | aeUpdate buffers destLen =>
      simp only [Invocation.perform] at survived ⊢
      rcases teeAEUpdate_cases operation memory buffers destLen with
        ⟨_, refused⟩ | ⟨_, panicked | ⟨_, _, accepted⟩⟩
      · rw [refused]
      · rw [survive, panicked] at survived
        cases survived
      · rw [accepted]
        exact ((keeps.aegcmState _ gcmStActive).trans (keeps.gcmUpdate _ memory buffers)).trans
          (keeps.readied operation)
  | aeEncryptFinal buffers destLen tag tagLen =>
      simp only [Invocation.perform] at survived ⊢
      rcases teeAEEncryptFinal_cases operation memory buffers destLen tag tagLen with
        ⟨_, refused⟩ | ⟨_, _, _, panicked | ⟨_, _, accepted⟩⟩
      · rw [refused]
      · rw [survive, panicked] at survived
        cases survived
      · rw [accepted]
        exact ((keeps.aegcmState _ gcmStFinal).trans
          (keeps.gcmEncryptFinal _ memory buffers _)).trans (keeps.readied operation)
  | aeDecryptFinal buffers destLen tag tagLen =>
      simp only [Invocation.perform] at survived ⊢
      rcases teeAEDecryptFinal_cases operation memory buffers destLen tag tagLen with
        ⟨_, refused⟩ | ⟨_, _, _, panicked | ⟨_, verified, after', memory', final, accepted⟩⟩
      · rw [refused]
      · rw [survive, panicked] at survived
        cases survived
      · have kept := keeps.gcmDecryptFinal (Operation.readied operation) memory buffers (tag.getD 0)
        rw [final, keeps.readied] at kept
        rw [accepted]
        cases verified with
        | true => exact (keeps.aegcmState after' gcmStFinal).trans kept
        | false => exact kept
  | cipherInit nonce nonceLen =>
      simp only [Invocation.perform, teeCipherInit]
      split
      · rfl
      · split
        · rfl
        · split
          · rfl
          · exact expanded nonce nonceLen rfl _
  | cipherUpdate buffers | cipherDoFinal buffers =>
      simp only [Invocation.perform, teeCipherDoFinal, teeCipherUpdate]
      split
      · rfl
      · split
        · exact keeps.cbc .encrypt operation _ buffers
        · split
          · exact keeps.cbc .decrypt operation _ buffers
          · rfl
  | signDigest digest digestLen signature => rfl
  | verifyDigest digest digestLen signature signatureLen => rfl

/-! ## What calls keep of a handle -/

/-- The algorithm and the mode of a handle. -/
def purpose (operation : backend.Operation) : UInt32 × UInt32 := (operation.alg, operation.mode)

theorem purpose_of_control {operation after : backend.Operation}
    (same : after.control = operation.control) : purpose after = purpose operation := by
  have alg : after.alg = operation.alg := congrArg Control.alg same
  have mode : after.mode = operation.mode := congrArg Control.mode same
  rw [purpose, purpose, alg, mode]

/-- The blocks leave the algorithm and the mode. -/
theorem keeps_purpose (framed : backend.Framed) : Keeps backend purpose where
  ctx _ _ := rfl
  session _ _ _ := rfl
  gcmStarts operation aad := purpose_of_control (framed.gcmStarts operation aad)
  gcmUpdate operation memory buffers :=
    purpose_of_control (framed.gcmUpdate operation memory buffers)
  gcmEncryptFinal operation memory buffers tag :=
    purpose_of_control (framed.gcmEncryptFinal operation memory buffers tag)
  gcmDecryptFinal operation memory buffers tag :=
    purpose_of_control (framed.gcmDecryptFinal operation memory buffers tag)
  cbc direction operation memory buffers :=
    purpose_of_control (framed.cbc direction operation memory buffers)

theorem purpose_readied (framed : backend.Framed) (operation : backend.Operation) :
    purpose (readied operation) = purpose operation :=
  (keeps_purpose framed).readied operation

/-- The algorithm, the mode and the state of a handle. -/
def standing (operation : backend.Operation) : UInt32 × UInt32 × Int :=
  (operation.alg, operation.mode, operation.aegcmState)

theorem standing_of_control {operation after : backend.Operation}
    (same : after.control = operation.control) : standing after = standing operation := by
  have alg : after.alg = operation.alg := congrArg Control.alg same
  have mode : after.mode = operation.mode := congrArg Control.mode same
  have state : after.aegcmState = operation.aegcmState := congrArg Control.aegcmState same
  rw [standing, standing, alg, mode, state]

theorem purpose_of_standing {operation after : backend.Operation}
    (same : standing after = standing operation) : purpose after = purpose operation := by
  have alg : after.alg = operation.alg := congrArg (·.1) same
  have mode : after.mode = operation.mode := congrArg (·.2.1) same
  rw [purpose, purpose, alg, mode]

theorem standing_teeSetOperationKey (framed : backend.Framed) (operation : backend.Operation)
    (key : Option backend.Object) :
    standing (teeSetOperationKey operation key).2 = standing operation := by
  cases key with
  | none => rfl
  | some key =>
      simp only [teeSetOperationKey]
      split
      · rfl
      · dsimp only
        split
        · rfl
        · exact (standing_of_control (framed.copyKeypair operation key) :)

theorem standing_teeDigestUpdate (operation : backend.Operation) (memory : Memory)
    (chunk : Option Nat) (chunkSize : Nat) :
    standing (teeDigestUpdate operation memory chunk chunkSize).2 = standing operation := by
  unfold teeDigestUpdate
  split <;> rfl

theorem standing_teeDigestDoFinal (operation : backend.Operation) (memory : Memory)
    (chunk : Option Nat) (chunkLen : Nat) (hash : Option Nat) (hashLen : Nat) :
    standing (teeDigestDoFinal operation memory chunk chunkLen hash hashLen).2 =
      standing operation := by
  unfold teeDigestDoFinal
  split
  · rfl
  · split
    · rfl
    · split
      · rfl
      · split <;> rfl

theorem standing_teeCipherInit (framed : backend.Framed) (operation : backend.Operation)
    (memory : Memory) (nonce : Option Nat) (nonceLen : Nat) :
    standing (teeCipherInit operation memory nonce nonceLen).2 = standing operation := by
  unfold teeCipherInit
  split
  · rfl
  · split
    · rfl
    · split
      · rfl
      · exact standing_of_control (framed.cipherInit operation _)

theorem standing_teeCipherUpdate (framed : backend.Framed) (operation : backend.Operation)
    (memory : Memory) (buffers : Buffers) :
    standing (teeCipherUpdate operation memory buffers).2 = standing operation := by
  unfold teeCipherUpdate
  split
  · rfl
  · dsimp only
    split
    · exact standing_of_control (framed.cbc .encrypt operation _ buffers)
    · split
      · exact standing_of_control (framed.cbc .decrypt operation _ buffers)
      · rfl

/-- A call that returns leaves the algorithm and the mode. -/
theorem purpose_of_step (framed : backend.Framed) {operation after : backend.Operation}
    {invocation : Invocation backend}
    (survived : (step (some operation) invocation).2 = some after) :
    purpose after = purpose operation := by
  refine (keeps_purpose framed).survivor ?_ ?_ ?_ survived
  · intro key _
    exact purpose_of_standing (standing_teeSetOperationKey framed operation key)
  · intro _ _ _ _ _ _
    exact purpose_of_control (framed.gcmSetkey operation)
  · intro _ _ _ iv
    exact purpose_of_control (framed.cipherInit operation iv)

theorem state_readied (operation : backend.Operation) :
    (readied operation).aegcmState = operation.aegcmState ∨
      (readied operation).aegcmState = gcmStAad := by
  unfold readied
  split
  · exact .inr rfl
  · exact .inl rfl

/-- Only calls of the authenticated encryption move the state of a handle, and none of them takes it
back to zero. -/
theorem state_of_step (framed : backend.Framed) {operation after : backend.Operation}
    {invocation : Invocation backend}
    (survived : (step (some operation) invocation).2 = some after) :
    after.aegcmState = operation.aegcmState ∨
      gcmStInit ≤ after.aegcmState ∧
        (operation.alg = teeAlgAesGcm ∨ gcmStInit ≤ operation.aegcmState) := by
  rw [step_some] at survived
  obtain rfl := eq_of_survive survived
  obtain ⟨memory, call⟩ := invocation
  have kept : ∀ after : backend.Operation, standing after = standing operation →
      after.aegcmState = operation.aegcmState ∨
        gcmStInit ≤ after.aegcmState ∧
          (operation.alg = teeAlgAesGcm ∨ gcmStInit ≤ operation.aegcmState) :=
    fun after same => .inl (congrArg (·.2.2) same)
  cases call with
  | setOperationKey key => exact kept _ (standing_teeSetOperationKey framed operation key)
  | digestUpdate chunk chunkSize =>
      exact kept _ (standing_teeDigestUpdate operation memory chunk chunkSize)
  | digestDoFinal chunk chunkLen hash hashLen =>
      exact kept _ (standing_teeDigestDoFinal operation memory chunk chunkLen hash hashLen)
  | aeInit nonce nonceLen tagLen aadLen payloadLen =>
      simp only [Invocation.perform] at survived ⊢
      rcases teeAEInit_cases operation memory nonce nonceLen tagLen aadLen payloadLen with
        ⟨_, _, _, refused⟩ | ⟨admitted, _, ⟨_, panicked⟩ | ⟨_, accepted⟩⟩
      · exact .inl (by rw [refused])
      · rw [panicked] at survived
        cases survived
      · rw [accepted]
        exact .inr ⟨Int.le_refl gcmStInit, .inl admitted.1⟩
  | aeUpdateAAD aadData aadDataLen =>
      simp only [Invocation.perform] at survived ⊢
      rcases teeAEUpdateAAD_cases operation memory aadData aadDataLen with
        ⟨panicked, _⟩ | ⟨admitted, _, accepted⟩
      · rw [panicked] at survived
        cases survived
      · rw [accepted]
        exact .inr ⟨(by decide : gcmStInit ≤ gcmStAad), .inr admitted.2.2⟩
  | aeUpdate buffers destLen =>
      simp only [Invocation.perform] at survived ⊢
      rcases teeAEUpdate_cases operation memory buffers destLen with
        ⟨_, refused⟩ | ⟨admitted, panicked | ⟨_, _, accepted⟩⟩
      · exact .inl (by rw [refused])
      · rw [survive, panicked] at survived
        cases survived
      · rw [accepted]
        exact .inr ⟨(by decide : gcmStInit ≤ gcmStActive), .inl admitted.1⟩
  | aeEncryptFinal buffers destLen tag tagLen =>
      simp only [Invocation.perform] at survived ⊢
      rcases teeAEEncryptFinal_cases operation memory buffers destLen tag tagLen with
        ⟨_, refused⟩ | ⟨admitted, _, _, panicked | ⟨_, _, accepted⟩⟩
      · exact .inl (by rw [refused])
      · rw [survive, panicked] at survived
        cases survived
      · rw [accepted]
        exact .inr ⟨(by decide : gcmStInit ≤ gcmStFinal), .inl admitted.1⟩
  | aeDecryptFinal buffers destLen tag tagLen =>
      simp only [Invocation.perform] at survived ⊢
      rcases teeAEDecryptFinal_cases operation memory buffers destLen tag tagLen with
        ⟨_, refused⟩ | ⟨admitted, _, _, panicked | ⟨_, verified, after', memory', final, accepted⟩⟩
      · exact .inl (by rw [refused])
      · rw [survive, panicked] at survived
        cases survived
      · have kept_state := congrArg Control.aegcmState
          (framed.gcmDecryptFinal (readied operation) memory buffers (tag.getD 0))
        rw [final] at kept_state
        rw [accepted]
        cases verified with
        | true => exact .inr ⟨(by decide : gcmStInit ≤ gcmStFinal), .inl admitted.1⟩
        | false =>
            rcases state_readied operation with same | started
            · exact .inl (kept_state.trans same)
            · exact .inr ⟨(kept_state.trans started).ge.trans' (by decide), .inl admitted.1⟩
  | cipherInit nonce nonceLen =>
      exact kept _ (standing_teeCipherInit framed operation memory nonce nonceLen)
  | cipherUpdate buffers => exact kept _ (standing_teeCipherUpdate framed operation memory buffers)
  | cipherDoFinal buffers => exact kept _ (standing_teeCipherUpdate framed operation memory buffers)
  | signDigest digest digestLen signature => exact .inl rfl
  | verifyDigest digest digestLen signature signatureLen => exact .inl rfl

/-- What `TEE_AllocateOperation` hands out. -/
theorem allocated_cases {allocation : Option backend.Operation} {algorithm mode maxKeySize : UInt32}
    {handle : backend.Operation}
    (allocated : teeAllocateOperation backend allocation algorithm mode maxKeySize =
      (.success, some handle)) :
    (mode = teeModeDigest ∧ algorithm = teeAlgSha256 ∧ ∃ residue, allocation = some residue ∧
      handle = { residue with mode, alg := algorithm, ctx := backend.digestInit residue.ctx }) ∨
    (handle = { OperationHandle.zeroed backend.zeroDigest backend.zeroAes backend.zeroGcm
        backend.zeroKey with mode, alg := algorithm } ∧
      (((mode = teeModeEncrypt ∨ mode = teeModeDecrypt) ∧
        (algorithm = teeAlgAesCbcNopad ∨
          algorithm = teeAlgAesGcm ∧ backend.supportsGcm = true)) ∨
      ((mode = teeModeSign ∨ mode = teeModeVerify) ∧ algorithm = teeAlgEcdsaP256))) := by
  unfold teeAllocateOperation at allocated
  by_cases digest : mode = teeModeDigest
  · rw [if_pos digest] at allocated
    by_cases alg : algorithm = teeAlgSha256
    · rw [if_neg (not_not.mpr alg)] at allocated
      cases allocation with
      | none => cases allocated
      | some residue =>
          cases allocated
          exact .inl ⟨digest, alg, residue, rfl, rfl⟩
    · rw [if_pos alg] at allocated
      cases allocated
  rw [if_neg digest] at allocated
  by_cases cipher : mode = teeModeEncrypt ∨ mode = teeModeDecrypt
  · rw [if_pos cipher] at allocated
    by_cases alg : algorithm ≠ teeAlgAesCbcNopad ∧ algorithm ≠ teeAlgAesGcm
    · rw [if_pos alg] at allocated
      cases allocated
    rw [if_neg alg] at allocated
    by_cases unsupported : algorithm = teeAlgAesGcm ∧ backend.supportsGcm = false
    · rw [if_pos unsupported] at allocated
      cases allocated
    rw [if_neg unsupported] at allocated
    cases allocation with
    | none => cases allocated
    | some residue =>
        cases allocated
        refine .inr ⟨rfl, .inl ⟨cipher, ?_⟩⟩
        rw [not_and_or, not_not, not_not] at alg
        rw [not_and, Bool.not_eq_false] at unsupported
        exact alg.imp id fun gcm => ⟨gcm, unsupported gcm⟩
  rw [if_neg cipher] at allocated
  by_cases asymmetric : mode = teeModeSign ∨ mode = teeModeVerify
  · rw [if_pos asymmetric] at allocated
    by_cases alg : algorithm = teeAlgEcdsaP256
    · rw [if_neg (not_not.mpr alg)] at allocated
      cases allocation with
      | none => cases allocated
      | some residue =>
          cases allocated
          exact .inr ⟨rfl, .inr ⟨asymmetric, alg⟩⟩
    · rw [if_pos alg] at allocated
      cases allocated
  · rw [if_neg asymmetric] at allocated
    cases allocated

theorem purpose_allocated {allocation : Option backend.Operation}
    {algorithm mode maxKeySize : UInt32} {handle : backend.Operation}
    (allocated : teeAllocateOperation backend allocation algorithm mode maxKeySize =
      (.success, some handle)) : purpose handle = (algorithm, mode) := by
  rcases allocated_cases allocated with ⟨_, _, _, _, rfl⟩ | ⟨rfl, _⟩ <;> rfl

/-- A handle that some calls lead to from `TEE_AllocateOperation` with an algorithm and a mode. -/
def Reachable (algorithm mode : UInt32) (operation : backend.Operation) : Prop :=
  ∃ allocation maxKeySize handle invocations,
    teeAllocateOperation backend allocation algorithm mode maxKeySize = (.success, some handle) ∧
      Machine.final step (some handle) invocations = some operation

/-- A handle is never lost before the last call of a run that leaves one. -/
theorem final_none (invocations : List (Invocation backend)) :
    Machine.final step (none : Option backend.Operation) invocations = none := by
  induction invocations with
  | nil => rfl
  | cons invocation invocations ih => exact ih

theorem purpose_of_final (framed : backend.Framed) {operation after : backend.Operation}
    {invocations : List (Invocation backend)}
    (survived : Machine.final step (some operation) invocations = some after) :
    purpose after = purpose operation := by
  induction invocations generalizing operation with
  | nil =>
      cases survived
      rfl
  | cons invocation invocations ih =>
      rcases next : (step (some operation) invocation).2 with _ | between
      · rw [Machine.final_cons, next, final_none] at survived
        cases survived
      · rw [Machine.final_cons, next] at survived
        rw [ih survived, purpose_of_step framed next]

theorem Reachable.purpose_eq (framed : backend.Framed) {algorithm mode : UInt32}
    {operation : backend.Operation} (reachable : Reachable algorithm mode operation) :
    purpose operation = (algorithm, mode) := by
  obtain ⟨allocation, maxKeySize, handle, invocations, allocated, survived⟩ := reachable
  rw [purpose_of_final framed survived, purpose_allocated allocated]

end Operation
end TaRef
