import TaRef.Library.Machine
import TaRef.Storage.Sgx

/-!
# Runs of storage calls

The two platforms, the calls a trusted application can make on trusted storage, and the machine that
performs them.  The machine stops when a call panics or does not return.  Every call but the closing
of a handle keeps the descriptor, the flags and the key schedule behind it.
-/

namespace TaRef

/-- A platform with the source of its object keys. -/
inductive Platform
  | keystone (attestEnclave : Bytes → Bytes)
  | sgx (reportKey : Block) (sealKey : Bytes → Block) (sha3 : Nat → Bytes → Bytes)

/-- A storage call with its arguments. -/
inductive StorageCall
  | create (objectID : Option Bytes) (flags : UInt32)
  | open (objectID : Option Bytes) (flags : UInt32)
  | write (object : Option Nat) (buffer : Bytes)
  | read (object : Option Nat) (buffer : Bytes) (size : Nat)
  | close (object : Option Nat)

/-- What a storage call hands back. -/
inductive StorageOutput
  | opened (result : TeeResult) (object : Option Nat)
  | written (exit : Exit TeeResult)
  | read (call : ReadCall)
  | closed (exit : Exit Unit)
  | stopped

variable {lib : Mbedtls}

namespace Platform

/-- Key derivation of `set_object_key`. -/
def keys : Platform → KeyDerivation
  | keystone attestEnclave => .keystone attestEnclave
  | sgx reportKey sealKey sha3 => .sgx reportKey sealKey sha3

/-- `TEE_WriteObjectData`. -/
def writeObjectData : Platform → Enclave lib → Option Nat → Bytes → Exit TeeResult × Enclave lib
  | keystone _ => Keystone.teeWriteObjectData
  | sgx _ _ _ => Sgx.teeWriteObjectData

/-- `TEE_ReadObjectData`. -/
def readObjectData : Platform → Enclave lib → Option Nat → Bytes → Nat → ReadCall × Enclave lib
  | keystone _ => Keystone.teeReadObjectData
  | sgx _ _ _ => Sgx.teeReadObjectData

/-- The state after a call, if the call returned. -/
def survive {α : Type} (exit : Exit α) (tee : Enclave lib) : Option (Enclave lib) :=
  match exit with
  | .returned _ => some tee
  | _ => none

/-- Perform one call. -/
def step (platform : Platform) :
    Option (Enclave lib) → StorageCall → StorageOutput × Option (Enclave lib)
  | none, _ => (.stopped, none)
  | some tee, .create objectID flags =>
      let ((result, object), tee) := teeCreatePersistentObject platform.keys tee objectID flags
      (.opened result object, some tee)
  | some tee, .open objectID flags =>
      let ((result, object), tee) := teeOpenPersistentObject platform.keys tee objectID flags
      (.opened result object, some tee)
  | some tee, .write object buffer =>
      let (exit, tee) := platform.writeObjectData tee object buffer
      (.written exit, survive exit tee)
  | some tee, .read object buffer size =>
      let (call, tee) := platform.readObjectData tee object buffer size
      (.read call, survive call.exit tee)
  | some tee, .close object =>
      let (exit, tee) := teeCloseObject tee object
      (.closed exit, survive exit tee)

theorem step_create (platform : Platform) (tee : Enclave lib) (objectID : Option Bytes)
    (flags : UInt32) :
    platform.step (some tee) (.create objectID flags) =
      (.opened (teeCreatePersistentObject platform.keys tee objectID flags).1.1
          (teeCreatePersistentObject platform.keys tee objectID flags).1.2,
        some (teeCreatePersistentObject platform.keys tee objectID flags).2) := rfl

theorem step_open (platform : Platform) (tee : Enclave lib) (objectID : Option Bytes)
    (flags : UInt32) :
    platform.step (some tee) (.open objectID flags) =
      (.opened (teeOpenPersistentObject platform.keys tee objectID flags).1.1
          (teeOpenPersistentObject platform.keys tee objectID flags).1.2,
        some (teeOpenPersistentObject platform.keys tee objectID flags).2) := rfl

/-! ## What the platforms share -/

/-- The platform turns away a read of bytes that are not whole blocks. -/
def CountsBlocks : Platform → Prop
  | keystone _ => True
  | sgx _ _ _ => False

instance (platform : Platform) : Decidable platform.CountsBlocks :=
  match platform with
  | keystone _ => inferInstanceAs (Decidable True)
  | sgx _ _ _ => inferInstanceAs (Decidable False)

/-- The ocalls of a write, or `none` where they do not end. -/
def ocallWrite : Platform → Host → Int → Bytes → Nat → Option (Int × Host)
  | keystone _, host, desc, data, size => Keyedge.ocallWriteFileFull host desc data size
  | sgx _ _ _, host, desc, data, _ => some (Sgx.ocallWriteFile host desc data)

/-- Result code for what the ocalls of a write returned. -/
def writeCode : Platform → Nat → Int → TeeResult
  | keystone _, _, n => if n < 0 then .errorGeneric else .success
  | sgx _ _ _, size, n =>
      if n % 2 ^ 32 = size then .success else if n < 0 then .errorGeneric else .success

theorem writeCode_zero (platform : Platform) (size : Nat) :
    platform.writeCode size 0 = .success := by
  cases platform <;> simp [writeCode]

/-- The ocalls of a read, or `none` where they do not end. -/
def ocallRead : Platform → Host → Int → Bytes → Nat → Option (Int × Host × Bytes)
  | keystone _, host, desc, buffer, size => Keyedge.ocallReadFileFull host desc buffer size
  | sgx _ _ _, host, desc, buffer, size => some (Sgx.ocallReadFile host desc buffer size)

/-- A write after its checks and its allocation. -/
def send (platform : Platform) (tee : Enclave lib) (object : Option Nat) (handle : StoredObject lib)
    (buffer : Bytes) (residue : Memory) : Exit TeeResult × Enclave lib :=
  let call := lib.aesCryptCbc handle.persistCtx .encrypt handle.persistIv buffer
  let tee := tee.setObject object { handle with persistIv := call.iv }
  match platform.ocallWrite tee.host handle.desc
      (overwrite (Memory.read residue 0 buffer.length) 0 call.output) buffer.length with
  | none => (.running, tee)
  | some (n, host) => (.returned (platform.writeCode buffer.length n), { tee with host })

/-- A read after its checks. -/
def receive (platform : Platform) (tee : Enclave lib) (object : Option Nat)
    (handle : StoredObject lib) (buffer : Bytes) (size : Nat) : ReadCall × Enclave lib :=
  match platform.ocallRead tee.host handle.desc buffer size with
  | none => ({ exit := .running, buffer, count := none }, tee)
  | some (retval, host, buffer) =>
      if retval < 0 then
        ({ exit := .returned .errorGeneric, buffer, count := none }, { tee with host })
      else if platform.CountsBlocks ∧ retval.toNat % 16 ≠ 0 then
        ({ exit := .returned .errorGeneric, buffer, count := some retval.toNat },
          { tee with host })
      else if retval.toNat = 0 then
        ({ exit := .returned .success, buffer, count := some retval.toNat }, { tee with host })
      else decryptInto { tee with host } object handle buffer retval.toNat

/-- `TEE_WriteObjectData` of either platform. -/
theorem writeObjectData_eq (platform : Platform) (tee : Enclave lib) (object : Option Nat)
    (buffer : Bytes) :
    platform.writeObjectData tee object buffer =
      match tee.persistent? object with
      | none => (.returned .errorBadParameters, tee)
      | some handle =>
          if buffer.length % 16 ≠ 0 then (.returned .errorBadParameters, tee)
          else
            match tee.mallocs.head with
            | none => (.returned .errorOutOfMemory, { tee with mallocs := tee.mallocs.tail })
            | some residue =>
                platform.send { tee with mallocs := tee.mallocs.tail } object handle buffer
                  residue := by
  cases platform with
  | keystone attestEnclave =>
      simp only [writeObjectData, Keystone.teeWriteObjectData, Enclave.malloc]
      cases tee.persistent? object with
      | none => rfl
      | some handle =>
          dsimp only
          split
          · rfl
          · cases tee.mallocs.head with
            | none => rfl
            | some residue =>
                simp only [send, ocallWrite, writeCode, Enclave.setObject]
                cases Keyedge.ocallWriteFileFull tee.host handle.desc _ buffer.length with
                | none => rfl
                | some ended =>
                    dsimp only
                    split_ifs <;> rfl
  | sgx reportKey sealKey sha3 =>
      simp only [writeObjectData, Sgx.teeWriteObjectData, Enclave.malloc]
      cases tee.persistent? object with
      | none => rfl
      | some handle =>
          dsimp only
          split
          · rfl
          · cases tee.mallocs.head with
            | none => rfl
            | some residue =>
                rcases written : Sgx.ocallWriteFile tee.host handle.desc
                  (overwrite (Memory.read residue 0 buffer.length) 0
                    (lib.aesCryptCbc handle.persistCtx .encrypt handle.persistIv buffer).output)
                  with ⟨n, host⟩
                simp only [send, ocallWrite, writeCode, Enclave.setObject, written]
                split_ifs <;> rfl

/-- `TEE_ReadObjectData` of either platform. -/
theorem readObjectData_eq (platform : Platform) (tee : Enclave lib) (object : Option Nat)
    (buffer : Bytes) (size : Nat) :
    platform.readObjectData tee object buffer size =
      match tee.persistent? object with
      | none => ({ exit := .returned .errorBadParameters, buffer, count := none }, tee)
      | some handle =>
          if size % 16 ≠ 0 then
            ({ exit := .returned .errorBadParameters, buffer, count := none }, tee)
          else platform.receive tee object handle buffer size := by
  cases platform with
  | keystone attestEnclave =>
      simp only [readObjectData, Keystone.teeReadObjectData]
      cases tee.persistent? object with
      | none => rfl
      | some handle =>
          dsimp only
          split
          · rfl
          · cases reply : Keyedge.ocallReadFileFull tee.host handle.desc buffer size with
            | none => simp only [receive, ocallRead, reply]
            | some ended => simp only [receive, ocallRead, CountsBlocks, true_and, reply]
  | sgx reportKey sealKey sha3 =>
      simp only [readObjectData, Sgx.teeReadObjectData]
      cases tee.persistent? object with
      | none => rfl
      | some handle =>
          dsimp only
          split
          · rfl
          · rcases reply : Sgx.ocallReadFile tee.host handle.desc buffer size with
              ⟨retval, host, region⟩
            have accepted : ¬ ((sgx reportKey sealKey sha3).CountsBlocks ∧
                retval.toNat % 16 ≠ 0) := fun counts => counts.1
            simp only [receive, ocallRead, reply, if_neg accepted]

end Platform

/-! ## What calls keep of a handle -/

/-- Two states of one object that differ in the chaining value at most. -/
def SameHandle (before after : StoredObject lib) : Prop :=
  after = { before with persistIv := after.persistIv }

theorem SameHandle.refl (handle : StoredObject lib) : SameHandle handle handle := rfl

theorem SameHandle.trans {first second third : StoredObject lib}
    (left : SameHandle first second) (right : SameHandle second third) :
    SameHandle first third := by
  unfold SameHandle at *
  rw [right, left]

/-- The handle `index` is still there, with the same descriptor, flags and key schedule. -/
def KeepsHandle (index : Nat) (before after : Enclave lib) : Prop :=
  ∀ handle, before.objects[index]? = some handle →
    ∃ kept, after.objects[index]? = some kept ∧ SameHandle handle kept

theorem KeepsHandle.of_eq {index : Nat} {before after : Enclave lib}
    (same : after.objects = before.objects) : KeepsHandle index before after :=
  fun handle found => ⟨handle, by rw [same, found], .refl handle⟩

namespace Enclave

theorem persistent?_eq_some {tee : Enclave lib} {object : Option Nat}
    {handle : StoredObject lib} :
    tee.persistent? object = some handle ↔
      ∃ index, object = some index ∧ tee.objects[index]? = some handle ∧
        hasFlag handle.flags teeHandleFlagPersistent = true := by
  cases object <;> simp [persistent?, Option.filter_eq_some_iff]

/-- Storing a chaining value into one handle keeps all handles. -/
theorem keepsHandle_setIv {tee : Enclave lib} {object : Option Nat} {handle : StoredObject lib}
    (found : tee.persistent? object = some handle) (iv : Block) (index : Nat) :
    KeepsHandle index tee (tee.setObject object { handle with persistIv := iv }) := by
  obtain ⟨position, rfl, entry, _⟩ := persistent?_eq_some.mp found
  have inside := (List.getElem?_eq_some_iff.mp entry).1
  intro other other_entry
  by_cases equality : position = index
  · subst equality
    obtain rfl : handle = other := by simpa [entry] using other_entry
    exact ⟨{ handle with persistIv := iv }, by simp [setObject, inside], rfl⟩
  · refine ⟨other, ?_, .refl other⟩
    simpa [setObject, List.getElem?_set_ne equality] using other_entry

end Enclave

theorem KeepsHandle.of_objects {index : Nat} {before middle after : Enclave lib}
    (kept : KeepsHandle index before middle) (same : after.objects = middle.objects) :
    KeepsHandle index before after := by
  intro handle found
  rw [same]
  exact kept handle found

theorem decryptInto_keepsHandle (tee : Enclave lib) {object : Option Nat}
    {handle : StoredObject lib} (found : tee.persistent? object = some handle)
    (buffer : Bytes) (size index : Nat) :
    KeepsHandle index tee (decryptInto tee object handle buffer size).2 := by
  unfold decryptInto Enclave.malloc
  cases tee.mallocs.head with
  | none => exact .of_eq rfl
  | some residue => exact Enclave.keepsHandle_setIv found _ index

theorem Platform.writeObjectData_keepsHandle (platform : Platform) (tee : Enclave lib)
    (object : Option Nat) (buffer : Bytes) (index : Nat) :
    KeepsHandle index tee (platform.writeObjectData tee object buffer).2 := by
  rw [writeObjectData_eq]
  cases found : tee.persistent? object with
  | none => exact .of_eq rfl
  | some handle =>
      have kept := Enclave.keepsHandle_setIv found
        (lib.aesCryptCbc handle.persistCtx .encrypt handle.persistIv buffer).iv index
      dsimp only
      split
      · exact .of_eq rfl
      · cases tee.mallocs.head with
        | none => exact .of_eq rfl
        | some residue =>
            dsimp only [send]
            split <;> exact kept.of_objects rfl

theorem Platform.readObjectData_keepsHandle (platform : Platform) (tee : Enclave lib)
    (object : Option Nat) (buffer : Bytes) (size index : Nat) :
    KeepsHandle index tee (platform.readObjectData tee object buffer size).2 := by
  rw [readObjectData_eq]
  cases found : tee.persistent? object with
  | none => exact .of_eq rfl
  | some handle =>
      dsimp only
      split
      · exact .of_eq rfl
      · unfold receive
        split
        · exact .of_eq rfl
        · rename_i retval host read _
          split
          · exact .of_eq rfl
          · split
            · exact .of_eq rfl
            · split
              · exact .of_eq rfl
              · exact decryptInto_keepsHandle { tee with host } found _ _ index

/-- Opening an object adds at most a handle at the end. -/
theorem openPersistentObject_objects (keys : KeyDerivation) (tee : Enclave lib)
    (objectID : Option Bytes) (flags : UInt32) (ocreat : Bool) :
    ∃ added, (openPersistentObject keys tee objectID flags ocreat).2.objects =
      tee.objects ++ added := by
  rcases openPersistentObject_cases keys tee objectID flags ocreat with
    ⟨_, _, _, objects_eq, _⟩ | ⟨id, _, _, _, _, opened⟩
  · exact ⟨[], by simp [objects_eq]⟩
  · exact ⟨_, by rw [opened]⟩

theorem openPersistentObject_keepsHandle (keys : KeyDerivation) (tee : Enclave lib)
    (objectID : Option Bytes) (flags : UInt32) (ocreat : Bool) (index : Nat) :
    KeepsHandle index tee (openPersistentObject keys tee objectID flags ocreat).2 := by
  obtain ⟨added, objects_eq⟩ := openPersistentObject_objects keys tee objectID flags ocreat
  intro handle found
  have inside := (List.getElem?_eq_some_iff.mp found).1
  exact ⟨handle, by rw [objects_eq, List.getElem?_append_left inside, found], .refl handle⟩

/-- Closing another handle keeps this one. -/
theorem teeCloseObject_keepsHandle (tee : Enclave lib) {object : Option Nat} {index : Nat}
    (different : object ≠ some index) : KeepsHandle index tee (teeCloseObject tee object).2 := by
  unfold teeCloseObject
  split
  · exact .of_eq rfl
  · rename_i handle found
    obtain ⟨position, rfl, entry, _⟩ := Enclave.persistent?_eq_some.mp found
    have kept : KeepsHandle index tee (tee.setObject (some position)
        { handle with persistCtx := lib.aesFree handle.persistCtx }) := by
      intro other other_entry
      have distinct : position ≠ index := fun equality => different (by rw [equality])
      refine ⟨other, ?_, .refl other⟩
      simpa [Enclave.setObject, List.getElem?_set_ne distinct] using other_entry
    dsimp only
    split <;> exact kept.of_objects rfl

/-- One call other than its closing keeps a handle. -/
theorem Platform.step_keepsHandle (platform : Platform) {tee after : Enclave lib}
    {call : StorageCall} {index : Nat} (not_closed : call ≠ .close (some index))
    (survived : (platform.step (some tee) call).2 = some after) :
    KeepsHandle index tee after := by
  have survive_eq : ∀ {α : Type} {exit : Exit α} {state : Enclave lib},
      survive exit state = some after → state = after := by
    intro α exit state equality
    cases exit <;> simp_all [survive]
  cases call with
  | create objectID flags =>
      obtain rfl := Option.some.inj survived
      exact openPersistentObject_keepsHandle _ _ _ _ _ _
  | «open» objectID flags =>
      obtain rfl := Option.some.inj survived
      exact openPersistentObject_keepsHandle _ _ _ _ _ _
  | write object buffer =>
      obtain rfl := survive_eq survived
      exact platform.writeObjectData_keepsHandle tee object buffer index
  | read object buffer size =>
      obtain rfl := survive_eq survived
      exact platform.readObjectData_keepsHandle tee object buffer size index
  | close object =>
      obtain rfl := survive_eq survived
      exact teeCloseObject_keepsHandle tee fun equality => not_closed (by rw [equality])

theorem Platform.final_stopped (platform : Platform) (calls : List StorageCall) :
    Machine.final platform.step (none : Option (Enclave lib)) calls = none := by
  induction calls with
  | nil => rfl
  | cons call calls ih => exact ih

/-- A run that does not close a handle keeps it. -/
theorem Platform.run_keepsHandle (platform : Platform) {tee after : Enclave lib}
    {calls : List StorageCall} {index : Nat} (not_closed : .close (some index) ∉ calls)
    (survived : Machine.final platform.step (some tee) calls = some after) :
    KeepsHandle index tee after := by
  induction calls generalizing tee with
  | nil =>
      obtain rfl := Option.some.inj survived
      exact .of_eq rfl
  | cons call calls ih =>
      rw [List.mem_cons, not_or] at not_closed
      rw [Machine.final_cons] at survived
      cases next : (platform.step (some tee) call).2 with
      | none => simp [next, final_stopped] at survived
      | some middle =>
          rw [next] at survived
          have first := platform.step_keepsHandle (Ne.symm not_closed.1) next
          have rest := ih not_closed.2 survived
          intro handle found
          obtain ⟨kept, kept_found, kept_same⟩ := first handle found
          obtain ⟨last, last_found, last_same⟩ := rest kept kept_found
          exact ⟨last, last_found, kept_same.trans last_same⟩

/-! ## Handles in use -/

/-- The calls that open an object. -/
def StorageCall.Opens (call : StorageCall) (id : Bytes) (flags : UInt32) : Prop :=
  call = .create (some id) flags ∨ call = .open (some id) flags

/-- Some run opened `index` for `id` with `flags`, did not close it since, and ends in `tee`. -/
def Platform.Holds (platform : Platform) (id : Bytes) (flags : UInt32) (index : Nat)
    (tee : Enclave lib) : Prop :=
  ∃ (before opened : Enclave lib) (call : StorageCall) (calls : List StorageCall),
    call.Opens id flags ∧
      platform.step (some before) call = (.opened .success (some index), some opened) ∧
      .close (some index) ∉ calls ∧
      Machine.final platform.step (some opened) calls = some tee

/-- What a successful opening did. -/
theorem Platform.opens_success (platform : Platform) {before opened : Enclave lib}
    {call : StorageCall} {id : Bytes} {flags : UInt32} {index : Nat} (opens : call.Opens id flags)
    (success : platform.step (some before) call = (.opened .success (some index), some opened)) :
    ∃ ocreat, (hasFlag flags teeDataFlagAccessRead && hasFlag flags teeDataFlagAccessWrite) =
        false ∧
      0 ≤ (before.host.openPath (cString id) (openFlags flags ocreat)).1 ∧
      before.objects.length = index ∧
      { host := (before.host.openPath (cString id) (openFlags flags ocreat)).2
        objects := before.objects ++ [programKey (platform.keys.key id) (platform.keys.iv id)
          (newHandle lib flags
            (before.host.openPath (cString id) (openFlags flags ocreat)).1)]
        mallocs := before.mallocs.tail.tail
        derives := before.derives.tail } = opened := by
  obtain ⟨ocreat, step_eq⟩ : ∃ ocreat, platform.step (some before) call =
      (.opened (openPersistentObject platform.keys before (some id) flags ocreat).1.1
          (openPersistentObject platform.keys before (some id) flags ocreat).1.2,
        some (openPersistentObject platform.keys before (some id) flags ocreat).2) := by
    rcases opens with rfl | rfl
    · exact ⟨true, rfl⟩
    · exact ⟨false, rfl⟩
  rw [step_eq] at success
  rcases openPersistentObject_cases platform.keys before (some id) flags ocreat with
    ⟨result, failed, result_eq, _⟩ | ⟨other, other_eq, _, one_way, granted, run⟩
  · simp [result_eq, failed] at success
  · obtain rfl := Option.some.inj other_eq
    rw [run] at success
    simp only [Prod.mk.injEq, StorageOutput.opened.injEq, Option.some.injEq, true_and] at success
    exact ⟨ocreat, one_way, granted, success.1, success.2⟩

/-- An opened handle is keyed for the identifier and the access direction. -/
theorem Platform.handle_of_opens {platform : Platform} {before opened : Enclave lib}
    {call : StorageCall} {id : Bytes} {flags : UInt32} {index : Nat} (opens : call.Opens id flags)
    (success : platform.step (some before) call = (.opened .success (some index), some opened)) :
    ∃ desc, opened.objects[index]? =
      some (programKey (platform.keys.key id) (platform.keys.iv id)
        (newHandle lib flags desc)) := by
  obtain ⟨_, _, _, rfl, rfl⟩ := platform.opens_success opens success
  exact ⟨_, List.getElem?_concat_length⟩

/-- A handle in use is persistent and keeps the key schedule it was opened with. -/
theorem Platform.Holds.handle {platform : Platform} {id : Bytes} {flags : UInt32} {index : Nat}
    {tee : Enclave lib} (held : platform.Holds id flags index tee) :
    ∃ handle, tee.objects[index]? = some handle ∧
      tee.persistent? (some index) = some handle ∧
      handle.persistCtx = lib.aesSetkey (accessDirection flags) (lib.aesInit lib.aesZero)
        (platform.keys.key id) := by
  obtain ⟨before, opened, call, calls, opens, success, not_closed, final⟩ := held
  obtain ⟨desc, entry⟩ := handle_of_opens opens success
  obtain ⟨handle, kept, same⟩ := platform.run_keepsHandle not_closed final _ entry
  have flags_eq : handle.flags = (newHandle lib flags desc).flags := by
    rw [same]
    rfl
  refine ⟨handle, kept, ?_, ?_⟩
  · exact Enclave.persistent?_eq_some.mpr
      ⟨index, rfl, kept, by rw [flags_eq, newHandle_persistent]⟩
  · rw [same, ← accessDirection_newHandle lib flags desc]
    rfl

end TaRef
