import TaRef.Crypto.Hash
import TaRef.Operation.Specification

/-!
# Digests of chunked messages

A message is given to `TEE_DigestUpdate` in chunks, and the last chunk to `TEE_DigestDoFinal`.  That
function makes all its checks before it absorbs anything, so calls of it that fail, wherever they
stand, do not show in the digest.
-/

namespace TaRef

/-- The hash functions of a build. -/
def Backend.sha3 (backend : Backend) : Sha3 where
  Context := backend.Digest
  zero := backend.zeroDigest
  init := backend.digestInit
  update := backend.digestUpdate
  final := backend.digestFinal

/-- The arguments of a call before the last one: a chunk of the message, or a call of
`TEE_DigestDoFinal` with any arguments. -/
inductive DigestStep
  | update (memory : Memory) (chunk : Option Nat) (chunkSize : Nat)
  | attempt (memory : Memory) (chunk : Option Nat) (chunkLen : Nat) (hash : Option Nat)
      (hashLen : Nat)

/-- The arguments of the calls for one message; the last chunk may be `NULL` when it is empty. -/
structure DigestSession where
  steps : List DigestStep
  memory : Memory
  chunk : Option Nat
  chunkLen : Nat
  hash : Nat
  hashLen : Nat
  null : chunk = none → chunkLen = 0
  room : shaLength ≤ hashLen

/-- The call of a step. -/
def DigestStep.invocation {backend : Backend} : DigestStep → Invocation backend
  | update memory chunk chunkSize => { memory, call := .digestUpdate chunk chunkSize }
  | attempt memory chunk chunkLen hash hashLen =>
      { memory, call := .digestDoFinal chunk chunkLen hash hashLen }

/-- The part of the message that a step brings. -/
def DigestStep.part : DigestStep → Bytes
  | update memory chunk chunkSize => memory.read (chunk.getD 0) chunkSize
  | attempt _ _ _ _ _ => []

namespace DigestSession

variable {backend : Backend}

/-- The parts of the message before the last chunk. -/
def absorbed (steps : List DigestStep) : Bytes := (steps.map DigestStep.part).flatten

/-- The whole message. -/
def message (session : DigestSession) : Bytes :=
  absorbed session.steps ++ session.memory.read (session.chunk.getD 0) session.chunkLen

/-- The calls before the last one. -/
def calls (session : DigestSession) : List (Invocation backend) :=
  session.steps.map DigestStep.invocation

/-- The last call. -/
def closing (session : DigestSession) : Invocation backend where
  memory := session.memory
  call := .digestDoFinal session.chunk session.chunkLen (some session.hash) session.hashLen

/-- Make the calls for the message on a handle. -/
def perform (operation : Option backend.Operation) (session : DigestSession) :
    OperationOutput × Option backend.Operation :=
  Operation.step (Machine.final Operation.step operation session.calls) session.closing

/-- What the last call hands back. -/
def result (session : DigestSession) (operation : backend.Operation) : OperationOutput :=
  (perform (some operation) session).1

/-- The last call succeeded and delivered a digest of 32 bytes. -/
def Delivers (session : DigestSession) (output : OperationOutput) (digest : Bytes) : Prop :=
  output.Succeeds ∧ output.destLen = some shaLength ∧
    output.memory.read session.hash shaLength = digest

end DigestSession

namespace Operation

variable {backend : Backend}

/-- A call of `TEE_DigestDoFinal` that returns a short buffer or bad parameters. -/
def FailsFinal (invocation : Invocation backend) (output : OperationOutput) : Prop :=
  match invocation.call with
  | .digestDoFinal _ _ _ _ =>
      output.exit = .returned .errorShortBuffer ∨ output.exit = .returned .errorBadParameters
  | _ => True

/-- A call of `TEE_DigestDoFinal` that leaves the handle, the memory and `*hashLen`. -/
def LeavesAll (operation : Option backend.Operation) (invocation : Invocation backend)
    (output : OperationOutput) : Prop :=
  match invocation.call with
  | .digestDoFinal _ _ _ _ =>
      (step operation invocation).2 = operation ∧ output.memory = invocation.memory ∧
        output.destLen = none
  | _ => True

/-- What `TEE_DigestDoFinal` can do: it fails and leaves everything, or it absorbs the chunk and
takes the hash. -/
theorem teeDigestDoFinal_cases (operation : backend.Operation) (memory : Memory)
    (chunk : Option Nat) (chunkLen : Nat) (hash : Option Nat) (hashLen : Nat) :
    (∃ result, result ≠ .success ∧
      teeDigestDoFinal operation memory chunk chunkLen hash hashLen =
        (.bare (.returned result) memory, operation)) ∨
    (teeDigestDoFinal operation memory chunk chunkLen hash hashLen).1.exit =
      .returned .success := by
  unfold teeDigestDoFinal
  split
  · exact .inl ⟨.errorBadParameters, by decide, rfl⟩
  cases hash with
  | none => exact .inl ⟨.errorBadParameters, by decide, rfl⟩
  | some hash =>
      dsimp only
      split
      · exact .inl ⟨.errorBadParameters, by decide, rfl⟩
      · split
        · exact .inl ⟨.errorShortBuffer, by decide, rfl⟩
        · exact .inr rfl

/-- The handle is a digest operation that has absorbed a message. -/
structure Absorbing (absorbs : backend.sha3.Context → Bytes → Prop) (operation : backend.Operation)
    (message : Bytes) : Prop where
  mode : operation.mode = teeModeDigest
  alg : operation.alg = teeAlgSha256
  ctx : absorbs operation.ctx message

namespace Absorbing

variable {hash : Bytes → Bytes} {absorbs : backend.sha3.Context → Bytes → Prop}
  {operation : backend.Operation} {message : Bytes}

theorem admitted (absorbing : Absorbing absorbs operation message) :
    ¬ (operation.mode ≠ teeModeDigest ∨ operation.alg ≠ teeAlgSha256) := by
  rw [not_or, not_not, not_not]
  exact ⟨absorbing.mode, absorbing.alg⟩

/-- A step brings its part of the message; a final call that fails brings nothing. -/
theorem step (laws : backend.sha3.Accumulates hash absorbs)
    (absorbing : Absorbing absorbs operation message) (call : DigestStep)
    (fails : FailsFinal (call.invocation : Invocation backend)
      (Operation.step (some operation) call.invocation).1) :
    LeavesAll (some operation) (call.invocation : Invocation backend)
        (Operation.step (some operation) call.invocation).1 ∧
      ∃ after, (Operation.step (some operation) call.invocation).2 = some after ∧
        Absorbing absorbs after (message ++ call.part) := by
  cases call with
  | update memory chunk chunkSize =>
      let ctx := backend.digestUpdate operation.ctx (memory.read (chunk.getD 0) chunkSize)
      refine ⟨trivial, { operation with ctx }, ?_, ?_⟩
      · simp only [DigestStep.invocation, step_some, Invocation.perform, teeDigestUpdate,
          if_neg absorbing.admitted]
        rfl
      · exact ⟨absorbing.mode, absorbing.alg, laws.update absorbing.ctx _⟩
  | attempt memory chunk chunkLen hash hashLen =>
      simp only [DigestStep.invocation, step_some, Invocation.perform, FailsFinal, LeavesAll]
        at fails ⊢
      rcases teeDigestDoFinal_cases operation memory chunk chunkLen hash hashLen with
        ⟨result, _, refused⟩ | succeeded
      · rw [refused]
        refine ⟨⟨rfl, rfl, rfl⟩, operation, rfl, ?_⟩
        rw [DigestStep.part, List.append_nil]
        exact absorbing
      · rw [succeeded] at fails
        rcases fails with short | bad
        · cases short
        · cases bad

/-- What the steps of a session bring. -/
theorem run (laws : backend.sha3.Accumulates hash absorbs)
    (absorbing : Absorbing absorbs operation message)
    (steps : List DigestStep)
    (failing : Machine.Along Operation.step (fun _ => FailsFinal) (some operation)
      (steps.map DigestStep.invocation)) :
    Machine.Along Operation.step LeavesAll (some operation) (steps.map DigestStep.invocation) ∧
      ∃ after, Machine.final Operation.step (some operation) (steps.map DigestStep.invocation) =
          some after ∧
        Absorbing absorbs after (message ++ DigestSession.absorbed steps) := by
  induction steps generalizing operation message with
  | nil =>
      refine ⟨trivial, operation, rfl, ?_⟩
      rw [DigestSession.absorbed, List.map_nil, List.flatten_nil, List.append_nil]
      exact absorbing
  | cons call steps ih =>
      obtain ⟨fails, later⟩ := failing
      obtain ⟨leaves, between, stepped, next⟩ := absorbing.step laws call fails
      rw [stepped] at later
      obtain ⟨leaves', after, final_eq, absorbing'⟩ := ih next later
      refine ⟨⟨leaves, by rwa [stepped]⟩, after, ?_, ?_⟩
      · rw [List.map_cons, Machine.final_cons, stepped, final_eq]
      · rw [List.append_assoc] at absorbing'
        exact absorbing'

/-- The last call of a session absorbs its chunk and delivers the hash of everything absorbed. -/
theorem closing (laws : backend.sha3.Accumulates hash absorbs)
    (absorbing : Absorbing absorbs operation message) (session : DigestSession) :
    ∃ output context,
      Operation.step (some operation) session.closing =
          (output, some { operation with ctx := (backend.digestFinal context).2 }) ∧
        absorbs context (message ++
          session.memory.read (session.chunk.getD 0) session.chunkLen) ∧
        session.Delivers output
          (hash (message ++ session.memory.read (session.chunk.getD 0) session.chunkLen)) := by
  have pointers : ¬ (session.chunkLen > 0 ∧ session.chunk = none) := fun invalid =>
    absurd (session.null invalid.2) (Nat.pos_iff_ne_zero.mp invalid.1)
  have enough : ¬ session.hashLen < shaLength := Nat.not_lt.mpr session.room
  let context := if session.chunkLen > 0 then
      backend.digestUpdate operation.ctx
        (session.memory.read (session.chunk.getD 0) session.chunkLen)
    else operation.ctx
  have held : absorbs context (message ++
      session.memory.read (session.chunk.getD 0) session.chunkLen) := by
    by_cases some_bytes : session.chunkLen > 0
    · have context_eq : context = backend.digestUpdate operation.ctx
        (session.memory.read (session.chunk.getD 0) session.chunkLen) := if_pos some_bytes
      rw [context_eq]
      exact laws.update absorbing.ctx _
    · have context_eq : context = operation.ctx := if_neg some_bytes
      have nothing : session.memory.read (session.chunk.getD 0) session.chunkLen = [] := by
        rw [Nat.eq_zero_of_not_pos some_bytes]
        rfl
      rw [context_eq, nothing, List.append_nil]
      exact absorbing.ctx
  have length : (backend.digestFinal context).1.length = shaLength := by
    rw [show (backend.digestFinal context).1 = _ from laws.final held]
    exact laws.length _
  let output : OperationOutput :=
    { exit := .returned .success
      destLen := some shaLength
      memory := session.memory.write session.hash (backend.digestFinal context).1 }
  refine ⟨output, context, ?_, held, rfl, rfl, ?_⟩
  · simp only [DigestSession.closing, step_some, Invocation.perform, teeDigestDoFinal,
      if_neg absorbing.admitted, if_neg pointers, if_neg enough]
    rfl
  · rw [← length, Memory.read_write]
    exact laws.final held

/-- A whole session delivers the hash of what was absorbed before it and of its message. -/
theorem perform (laws : backend.sha3.Accumulates hash absorbs)
    (absorbing : Absorbing absorbs operation message) (session : DigestSession)
    (failing : Machine.Along Operation.step (fun _ => FailsFinal) (some operation) session.calls) :
    Machine.Along Operation.step LeavesAll (some operation) session.calls ∧
      ∃ context after, (session.perform (some operation)).2 = some after ∧
        after.mode = teeModeDigest ∧ after.alg = teeAlgSha256 ∧
        after.ctx = (backend.digestFinal context).2 ∧
        absorbs context (message ++ session.message) ∧
        session.Delivers (session.result operation) (hash (message ++ session.message)) := by
  obtain ⟨leaves, before, final_eq, absorbing'⟩ := absorbing.run laws session.steps failing
  obtain ⟨output, context, stepped, held, delivers⟩ := absorbing'.closing laws session
  have performed : session.perform (some operation) =
      (output, some { before with ctx := (backend.digestFinal context).2 }) := by
    rw [DigestSession.perform, DigestSession.calls, final_eq, stepped]
  rw [List.append_assoc] at held delivers
  refine ⟨leaves, context, _, congrArg Prod.snd performed, absorbing'.mode, absorbing'.alg, rfl,
    held, ?_⟩
  rw [DigestSession.result, performed]
  exact delivers

end Absorbing

/-- A new digest operation has absorbed nothing. -/
theorem absorbing_allocated {hash : Bytes → Bytes}
    {absorbs : backend.sha3.Context → Bytes → Prop} (laws : backend.sha3.Laws hash absorbs)
    {allocation : Option backend.Operation} {maxKeySize : UInt32} {handle : backend.Operation}
    (allocated : teeAllocateOperation backend allocation teeAlgSha256 teeModeDigest maxKeySize =
      (.success, some handle)) : Absorbing absorbs handle [] := by
  rcases allocated_cases allocated with ⟨_, _, residue, _, rfl⟩ | ⟨_, invalid⟩
  · exact ⟨rfl, rfl, laws.init residue.ctx⟩
  · rcases invalid with ⟨mode, _⟩ | ⟨mode, _⟩ <;>
      exact absurd mode (by decide)

end Operation

/-- On a new digest operation, however the message is cut and whatever final calls fail before the
last one, that one delivers the hash of the message, and the others leave everything. -/
theorem digest_of_chunks {backend : Backend} {hash : Bytes → Bytes}
    {absorbs : backend.sha3.Context → Bytes → Prop} (laws : backend.sha3.Laws hash absorbs)
    {allocation : Option backend.Operation} {maxKeySize : UInt32} {handle : backend.Operation}
    (allocated : teeAllocateOperation backend allocation teeAlgSha256 teeModeDigest maxKeySize =
      (.success, some handle))
    (session : DigestSession)
    (failing : Machine.Along Operation.step (fun _ => Operation.FailsFinal) (some handle)
      session.calls) :
    Machine.Along Operation.step Operation.LeavesAll (some handle) session.calls ∧
      session.Delivers (session.result handle) (hash session.message) := by
  obtain ⟨leaves, _, _, _, _, _, _, _, delivers⟩ :=
    (Operation.absorbing_allocated laws allocated).perform laws.toAccumulates session failing
  exact ⟨leaves, delivers⟩

/-- Memory with the message of the digest sample. -/
def vectorMessageMemory : Memory := Memory.write (fun _ => 0) 0 vectorMessage

/-- The message of the digest sample in three chunks, the second one empty, after a final call with
some bytes but too little room and one without a buffer. -/
def vectorDigestSession : DigestSession where
  steps :=
    [.attempt (fun _ => 7) (some 0) 3 (some 64) 16, .update vectorMessageMemory (some 0) 5,
      .update (fun _ => 7) none 0, .attempt (fun _ => 7) none 0 none 32]
  memory := vectorMessageMemory
  chunk := some 5
  chunkLen := 11
  hash := 64
  hashLen := 32
  null := fun absent => nomatch absent
  room := by decide

theorem digest_of_chunks_published :
    let handle := Operation.fresh CryptLib.reference.backend teeAlgSha256 teeModeDigest
    Machine.Along Operation.step Operation.LeavesAll (some handle) vectorDigestSession.calls ∧
      vectorDigestSession.Delivers (vectorDigestSession.result handle)
        (vectorHash vectorMessage) := by
  have laws : CryptLib.reference.backend.sha3.Laws vectorHash (fun context message =>
      context = message) := Sha3.reference_laws length_vectorHash
  have allocated : teeAllocateOperation CryptLib.reference.backend
      (some (Operation.fresh CryptLib.reference.backend 0 0)) teeAlgSha256 teeModeDigest 0 =
    (.success, some (Operation.fresh CryptLib.reference.backend teeAlgSha256 teeModeDigest)) := rfl
  have message_eq : vectorDigestSession.message = vectorMessage := by decide
  rw [← message_eq]
  exact digest_of_chunks laws allocated vectorDigestSession
    ⟨.inl rfl, trivial, trivial, .inr rfl, trivial⟩

end TaRef
