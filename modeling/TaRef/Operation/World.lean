import TaRef.Library.Heap
import TaRef.Operation.Run

/-!
# Runs on any number of handles

The transient objects and the operations of a trusted application, with the calls that allocate,
key, use and free them.  A call on a handle that is not in use is undefined in C, and ends the run
without an output, as a panic ends it with one.
-/

namespace TaRef

/-- The 32 random bytes of `TEE_GenerateKey`. -/
abbrev KeySeed := { seed : Bytes // seed.length = 32 }

/-- A call on an operation other than `TEE_SetOperationKey`. -/
def OperationCall.Keyless {backend : Backend} : OperationCall backend → Prop
  | .setOperationKey _ => False
  | _ => True

/-- A call with its handles; `none` is `TEE_HANDLE_NULL`.  The first argument of an allocation is
what `malloc` returns. -/
inductive HandleCall (backend : Backend)
  | allocateTransientObject (address : Option Nat) (objectType maxKeySize : UInt32)
  | freeTransientObject (object : Option Nat)
  | generateKey (object : Option Nat) (random : Option KeySeed)
  | allocateOperation (address : Option (Nat × backend.Operation))
      (algorithm mode maxKeySize : UInt32)
  | freeOperation (operation : Option Nat)
  | setOperationKey (operation key : Option Nat)
  | invoke (operation : Option Nat) (call : OperationCall backend) (keyless : call.Keyless)

/-- A call on handles and the memory it finds. -/
structure Request (backend : Backend) where
  memory : Memory
  call : HandleCall backend

/-- The objects and operations in use. -/
structure World (backend : Backend) where
  objects : Heap backend.Object
  operations : Heap backend.Operation

variable {backend : Backend}

/-- `TEE_FreeTransientObject` on an object. -/
def teeFreeTransientObject (object : backend.Object) : Exit Unit :=
  if hasFlag object.flags teeHandleFlagPersistent then .panicked else .returned ()

/-- What a call does with `TEE_HANDLE_NULL` for its operation; `TEE_AEUpdateAAD` follows the pointer
when its other arguments are valid. -/
def OperationCall.onNull : OperationCall backend → Option (Exit TeeResult)
  | .digestUpdate .. | .cipherInit .. => some .panicked
  | .aeUpdateAAD aadData aadDataLen =>
      if (aadData = none ∧ aadDataLen ≠ 0) ∨ aadDataLen > 16 then some .panicked else none
  | _ => some (.returned .errorBadParameters)

namespace World

/-- No handle is in use. -/
def empty : World backend := ⟨.empty, .empty⟩

/-- The objects and operations after a call, and what it hands back; `none` where C promises
nothing. -/
def perform (world : World backend) (memory : Memory) :
    HandleCall backend → Option (OperationOutput × World backend)
  | .allocateTransientObject address objectType maxKeySize =>
      match teeAllocateTransientObject backend address.isSome objectType maxKeySize, address with
      | (result, some object), some address =>
          if world.objects.isVacant address then
            some (.bare (.returned result) memory,
              { world with objects := world.objects.put address object })
          else none
      | (result, _), _ => some (.bare (.returned result) memory, world)
  | .freeTransientObject none => some (.ofVoid (.returned ()) memory, world)
  | .freeTransientObject (some handle) =>
      (world.objects.get? handle).map fun object =>
        (.ofVoid (teeFreeTransientObject object) memory,
          { world with objects := world.objects.free handle })
  | .generateKey none _ => some (.bare (.returned .errorBadParameters) memory, world)
  | .generateKey (some handle) random =>
      (world.objects.get? handle).map fun object =>
        let generate := teeGenerateKey object (.ofOption (random.map Subtype.val))
        (.bare generate.1 memory,
          { world with objects := world.objects.put handle generate.2 })
  | .allocateOperation address algorithm mode maxKeySize =>
      match teeAllocateOperation backend (address.map Prod.snd) algorithm mode maxKeySize,
        address with
      | (result, some operation), some (address, _) =>
          if world.operations.isVacant address then
            some (.bare (.returned result) memory,
              { world with operations := world.operations.put address operation })
          else none
      | (result, _), _ => some (.bare (.returned result) memory, world)
  | .freeOperation none => some (.ofVoid (.returned ()) memory, world)
  | .freeOperation (some handle) =>
      (world.operations.get? handle).map fun _ =>
        (.ofVoid (.returned ()) memory,
          { world with operations := world.operations.free handle })
  | .setOperationKey none _ => some (.bare (.returned .errorBadParameters) memory, world)
  | .setOperationKey (some handle) none =>
      (world.operations.get? handle).map fun operation =>
        (.bare (.returned (teeSetOperationKey operation none).1) memory, world)
  | .setOperationKey (some handle) (some key) =>
      (world.operations.get? handle).bind fun operation =>
        (world.objects.get? key).map fun object =>
          (.bare (.returned (teeSetOperationKey operation (some object)).1) memory,
            { world with
              operations := world.operations.put handle
                (teeSetOperationKey operation (some object)).2 })
  | .invoke none call _ => call.onNull.map fun exit => (.bare exit memory, world)
  | .invoke (some handle) call _ =>
      (world.operations.get? handle).map fun operation =>
        let invocation : Invocation backend := { memory, call }
        ((invocation.perform operation).1,
          { world with
            operations := world.operations.put handle (invocation.perform operation).2 })

/-- One call of a run; the run ends with a panic, or where C promises nothing. -/
def step : Option (World backend) → Request backend →
    Option OperationOutput × Option (World backend)
  | none, _ => (none, none)
  | some world, request =>
      match world.perform request.memory request.call with
      | none => (none, none)
      | some (output, after) =>
          (some output,
            match output.exit with
            | .returned _ => some after
            | _ => none)

/-- An object after a successful `TEE_GenerateKey`. -/
def generatedObject (seed : Bytes) (object : backend.Object) : backend.Object :=
  let made := backend.generate seed object
  { made with
    flags := made.flags ||| teeHandleFlagKeySet
    privateKey := if made.type = teeTypeAes then List.replicate teeObjectSkeySize 0
      else made.privateKey }

/-- What a call that returns can do. -/
inductive Changes (world : World backend) (memory : Memory) :
    HandleCall backend → OperationOutput → World backend → Prop
  | refused {call : HandleCall backend} {output : OperationOutput}
      (failed : output.exit ≠ .returned .success) : Changes world memory call output world
  | freedNullObject {output : OperationOutput} :
      Changes world memory (.freeTransientObject none) output world
  | freedNullOperation {output : OperationOutput} :
      Changes world memory (.freeOperation none) output world
  | allocatedObject (name : Nat) {objectType maxKeySize : UInt32} {output : OperationOutput}
      (vacant : world.objects.isVacant name = true)
      (known : objectType = teeTypeEcdhKeypair ∨ objectType = teeTypeEcdsaKeypair ∨
        objectType = teeTypeAes)
      (success : output.exit = .returned .success) :
      Changes world memory (.allocateTransientObject (some name) objectType maxKeySize) output
        { world with
          objects := world.objects.put name
            { ObjectHandle.zeroed backend.zeroAes backend.zeroKey with type := objectType } }
  | freedObject (name : Nat) {output : OperationOutput} :
      Changes world memory (.freeTransientObject (some name)) output
        { world with objects := world.objects.free name }
  | generated (name : Nat) (seed : KeySeed) {object : backend.Object} {output : OperationOutput}
      (lookup : world.objects.get? name = some object)
      (unset : hasFlag object.flags teeHandleFlagKeySet = false)
      (success : output.exit = .returned .success) :
      Changes world memory (.generateKey (some name) (some seed)) output
        { world with objects := world.objects.put name (generatedObject seed.1 object) }
  | allocatedOperation (name : Nat) {residue operation : backend.Operation}
      {algorithm mode maxKeySize : UInt32} {output : OperationOutput}
      (vacant : world.operations.isVacant name = true)
      (allocated : teeAllocateOperation backend (some residue) algorithm mode maxKeySize =
        (.success, some operation))
      (success : output.exit = .returned .success) :
      Changes world memory (.allocateOperation (some (name, residue)) algorithm mode maxKeySize)
        output { world with operations := world.operations.put name operation }
  | freedOperation (name : Nat) {output : OperationOutput}
      (success : output.exit = .returned .success) :
      Changes world memory (.freeOperation (some name)) output
        { world with operations := world.operations.free name }
  | programmed (name key : Nat) {operation after : backend.Operation} {object : backend.Object}
      {output : OperationOutput} (lookup : world.operations.get? name = some operation)
      (source : world.objects.get? key = some object)
      (copied : teeSetOperationKey operation (some object) = (.success, after))
      (success : output.exit = .returned .success) :
      Changes world memory (.setOperationKey (some name) (some key)) output
        { world with operations := world.operations.put name after }
  | invoked (name : Nat) (call : OperationCall backend) (keyless : call.Keyless)
      {operation after : backend.Operation} {output : OperationOutput}
      (lookup : world.operations.get? name = some operation)
      (stepped : Operation.step (some operation) { memory, call } = (output, some after)) :
      Changes world memory (.invoke (some name) call keyless) output
        { world with operations := world.operations.put name after }

/-- What a call on an operation hands back is what the function does on its handle. -/
theorem reply_invoke {world : World backend} {name : Nat} {operation : backend.Operation}
    (lookup : world.operations.get? name = some operation) (memory : Memory)
    (call : OperationCall backend) (keyless : call.Keyless) :
    (step (some world) { memory, call := .invoke (some name) call keyless }).1 =
      some (Operation.step (some operation) { memory, call }).1 := by
  rw [step, perform, lookup]
  rfl

/-- A call that returns was performed. -/
theorem perform_of_step {world after : World backend} {request : Request backend}
    (survived : (step (some world) request).2 = some after) :
    ∃ output result, (step (some world) request).1 = some output ∧
      output.exit = .returned result ∧
        world.perform request.memory request.call = some (output, after) := by
  unfold step at survived ⊢
  dsimp only at survived ⊢
  split at survived
  · cases survived
  · next output after' performed =>
      rw [performed]
      dsimp only at survived
      split at survived
      · next result returned =>
          obtain rfl := Option.some.inj survived
          exact ⟨output, result, rfl, returned, rfl⟩
      · cases survived

/-- What `TEE_AllocateTransientObject` does. -/
theorem teeAllocateTransientObject_cases (backend : Backend) (allocated : Bool)
    (objectType maxKeySize : UInt32) :
    (∃ result, result ≠ .success ∧
      teeAllocateTransientObject backend allocated objectType maxKeySize = (result, none)) ∨
    ((objectType = teeTypeEcdhKeypair ∨ objectType = teeTypeEcdsaKeypair ∨
        objectType = teeTypeAes) ∧ allocated = true ∧
      teeAllocateTransientObject backend allocated objectType maxKeySize = (.success, some
        { ObjectHandle.zeroed backend.zeroAes backend.zeroKey with type := objectType })) := by
  unfold teeAllocateTransientObject
  split
  · exact .inl ⟨.errorBadParameters, by decide, rfl⟩
  · next checks =>
      rw [not_or, not_not] at checks
      cases allocated with
      | false => exact .inl ⟨.errorOutOfMemory, by decide, rfl⟩
      | true => exact .inr ⟨checks.1, rfl, rfl⟩

/-- What `TEE_AllocateOperation` does. -/
theorem teeAllocateOperation_cases (allocation : Option backend.Operation)
    (algorithm mode maxKeySize : UInt32) :
    (∃ result, result ≠ .success ∧
      teeAllocateOperation backend allocation algorithm mode maxKeySize = (result, none)) ∨
    ∃ residue operation, allocation = some residue ∧
      teeAllocateOperation backend (some residue) algorithm mode maxKeySize =
        (.success, some operation) := by
  unfold teeAllocateOperation
  dsimp only
  repeat' split
  all_goals first
    | exact .inl ⟨_, by decide, rfl⟩
    | exact .inr ⟨_, _, rfl, rfl⟩

theorem onNull_ne_success (call : OperationCall backend) :
    call.onNull ≠ some (.returned .success) := by
  cases call with
  | aeUpdateAAD aadData aadDataLen =>
      unfold OperationCall.onNull
      split <;> simp
  | _ => simp [OperationCall.onNull]

/-- What `TEE_GenerateKey` does. -/
theorem teeGenerateKey_cases (object : backend.Object) (random : Option Bytes) :
    teeGenerateKey object (.ofOption random) = (.returned .errorBadParameters, object) ∨
      teeGenerateKey object (.ofOption random) = (.panicked, object) ∨
      hasFlag object.flags teeHandleFlagKeySet = false ∧ ∃ seed, random = some seed ∧
        teeGenerateKey object (.ofOption random) =
          (.returned .success, generatedObject seed object) := by
  unfold teeGenerateKey
  cases set : hasFlag object.flags teeHandleFlagKeySet with
  | true => exact .inl rfl
  | false =>
      cases random with
      | none => exact .inr (.inl rfl)
      | some seed =>
          refine .inr (.inr ⟨rfl, seed, rfl, ?_⟩)
          rw [if_neg (by decide), generatedObject]
          dsimp only [Draw.ofOption]
          split <;> rfl

/-- What `TEE_SetOperationKey` does with an object. -/
theorem teeSetOperationKey_cases (operation : backend.Operation) (object : backend.Object) :
    teeSetOperationKey operation (some object) = (.errorBadParameters, operation) ∨
      (object.type = teeTypeAes ∧ teeSetOperationKey operation (some object) =
        (.success, { operation with
          aekey := object.publicKey, flags := operation.flags ||| teeHandleFlagKeySet })) ∨
      (object.type ≠ teeTypeAes ∧ teeSetOperationKey operation (some object) =
        (.success, { backend.copyKeypair operation object with
          flags := (backend.copyKeypair operation object).flags ||| teeHandleFlagKeySet })) := by
  unfold teeSetOperationKey
  dsimp only
  by_cases unknown : object.type ≠ teeTypeAes ∧ object.type ≠ teeTypeEcdhKeypair ∧
      object.type ≠ teeTypeEcdsaKeypair
  · exact .inl (if_pos unknown)
  rw [if_neg unknown]
  by_cases aes : object.type = teeTypeAes
  · rw [if_pos aes]
    exact .inr (.inl ⟨aes, rfl⟩)
  · rw [if_neg aes]
    exact .inr (.inr ⟨aes, rfl⟩)

/-- One step of a run changes the objects and operations in one of these ways. -/
theorem changes_of_step {world after : World backend} {request : Request backend}
    (survived : (step (some world) request).2 = some after) :
    ∃ output, (step (some world) request).1 = some output ∧
      Changes world request.memory request.call output after := by
  obtain ⟨output, result, reply_eq, returned, performed⟩ := perform_of_step survived
  refine ⟨output, reply_eq, ?_⟩
  obtain ⟨memory, call⟩ := request
  dsimp only at performed ⊢
  cases call with
  | allocateTransientObject address objectType maxKeySize =>
      rcases teeAllocateTransientObject_cases backend address.isSome objectType
        maxKeySize with ⟨failure, failed, allocated⟩ | ⟨known, given, allocated⟩
      · simp only [perform, allocated] at performed
        cases performed
        exact .refused fun success => failed (Exit.returned.inj success)
      · obtain ⟨name, rfl⟩ := Option.isSome_iff_exists.mp given
        simp only [perform, allocated] at performed
        split at performed
        · next vacant =>
            cases performed
            exact .allocatedObject name vacant known rfl
        · cases performed
  | freeTransientObject object =>
      cases object with
      | none =>
          cases performed
          exact .freedNullObject
      | some name =>
          rw [perform, Option.map_eq_some_iff] at performed
          obtain ⟨object, _, freed⟩ := performed
          cases freed
          exact .freedObject name
  | generateKey object random =>
      cases object with
      | none =>
          cases performed
          exact .refused (by simp [OperationOutput.bare])
      | some name =>
          rw [perform, Option.map_eq_some_iff] at performed
          obtain ⟨object, lookup, made⟩ := performed
          rcases teeGenerateKey_cases object (random.map Subtype.val) with
            refused | panicked | ⟨unset, bytes, given, success⟩
          · rw [refused] at made
            dsimp only at made
            rw [Heap.put_get? lookup] at made
            cases made
            exact .refused (by simp [OperationOutput.bare])
          · rw [panicked] at made
            cases made
            cases returned
          · rw [Option.map_eq_some_iff] at given
            obtain ⟨seed, rfl, rfl⟩ := given
            rw [success] at made
            cases made
            exact .generated name seed lookup unset rfl
  | allocateOperation address algorithm mode maxKeySize =>
      rcases teeAllocateOperation_cases (address.map Prod.snd) algorithm mode maxKeySize with
        ⟨failure, failed, refused⟩ | ⟨residue, operation, given, allocated⟩
      · simp only [perform, refused] at performed
        cases performed
        exact .refused fun success => failed (Exit.returned.inj success)
      · rw [Option.map_eq_some_iff] at given
        obtain ⟨⟨name, _⟩, rfl, rfl⟩ := given
        simp only [perform, Option.map_some, allocated] at performed
        split at performed
        · next vacant =>
            cases performed
            exact .allocatedOperation name vacant allocated rfl
        · cases performed
  | freeOperation operation =>
      cases operation with
      | none =>
          cases performed
          exact .freedNullOperation
      | some name =>
          rw [perform, Option.map_eq_some_iff] at performed
          obtain ⟨operation, _, freed⟩ := performed
          cases freed
          exact .freedOperation name rfl
  | setOperationKey operation key =>
      cases operation with
      | none =>
          cases performed
          exact .refused (by simp [OperationOutput.bare])
      | some name =>
          cases key with
          | none =>
              rw [perform, Option.map_eq_some_iff] at performed
              obtain ⟨operation, _, refused⟩ := performed
              cases refused
              exact .refused (by simp [OperationOutput.bare, teeSetOperationKey])
          | some key =>
              rw [perform, Option.bind_eq_some_iff] at performed
              obtain ⟨operation, lookup, performed⟩ := performed
              rw [Option.map_eq_some_iff] at performed
              obtain ⟨object, source, copied⟩ := performed
              rcases teeSetOperationKey_cases operation object with refused | ⟨_, set⟩ | ⟨_, set⟩
              · rw [refused, Heap.put_get? lookup] at copied
                cases copied
                exact .refused (by simp [OperationOutput.bare])
              · rw [set] at copied
                cases copied
                exact .programmed name key lookup source set rfl
              · rw [set] at copied
                cases copied
                exact .programmed name key lookup source set rfl
  | invoke operation call keyless =>
      cases operation with
      | none =>
          rw [perform, Option.map_eq_some_iff] at performed
          obtain ⟨exit, null, refused⟩ := performed
          cases refused
          refine .refused ?_
          intro success
          have exit_eq : exit = .returned .success := success
          rw [exit_eq] at null
          exact onNull_ne_success call null
      | some name =>
          rw [perform, Option.map_eq_some_iff] at performed
          obtain ⟨operation, lookup, invoked⟩ := performed
          cases invoked
          refine .invoked name call keyless lookup ?_
          rw [Operation.step_some, Operation.survive_of_returned returned]

end World
end TaRef
