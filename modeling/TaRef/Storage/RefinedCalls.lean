import TaRef.Storage.RefinedTransfers

/-!
# Refinement of the storage calls

Opening and closing refine the object store whatever the host decides, and with reads and writes so
does every step of a run.
-/

namespace TaRef

variable {lib : Mbedtls} {platform : Platform} {aes : BlockCipher Bytes Block}
  {preset : Bytes → Nat → Block} {store : ObjectStore} {tee : Enclave lib}

namespace Refines

/-- `TEE_CloseObject`. -/
theorem close (refines : Refines platform aes preset store tee) {object : Option Nat}
    (regular : ObjectStore.Regular (some store) (.close object)) :
    Corresponds platform aes preset (store.closeObject object)
      (platform.step (some tee) (.close object)) := by
  rcases regular with rfl | ⟨access, used, _⟩
  · exact ⟨.of_answer rfl rfl rfl, trivial⟩
  obtain ⟨index, handle, rfl, entry, object_entry, found, represents⟩ := refines.found used
  have concrete : platform.step (some tee) (.close (some index)) =
      (.closed (.returned ()), some
        { tee with
          host := { tee.host with
            descriptors := tee.host.descriptors.set handle.desc.toNat none }
          objects := tee.objects.set index
            { handle with persistCtx := lib.aesFree handle.persistCtx } }) := by
    simp only [Platform.step, teeCloseObject, found, Enclave.setObject,
      Host.close_of_some represents.opened, Platform.survive]
    rfl
  rw [concrete, ObjectStore.closeObject, used]
  refine ⟨.of_answer rfl rfl rfl, ?_⟩
  have before : ∀ (position : Nat) (other : Access),
      (store.accesses.set index none)[position]? = some (some other) →
      position ≠ index ∧ store.accesses[position]? = some (some other) := by
    intro position other entry'
    rw [List.getElem?_set] at entry'
    split at entry'
    · split at entry' <;> simp at entry'
    · rename_i different
      exact ⟨Ne.symm different, entry'⟩
  refine { refines with length := ?_, handles := ?_, distinct := ?_ }
  · simp [ObjectStore.setAccess, refines.length]
  · intro position other entry'
    obtain ⟨different, used'⟩ := before position other entry'
    obtain ⟨kept, kept_entry, kept_represents⟩ := refines.handles position other used'
    refine ⟨kept, (List.getElem?_set_ne (Ne.symm different)).trans kept_entry,
      { kept_represents with opened := ?_ }⟩
    refine (Host.openFile?_set_ne represents.opened none fun clash => different ?_).trans
      kept_represents.opened
    exact refines.distinct _ _ _ _ _ _ used' entry kept_entry object_entry clash
  · intro first second access₁ access₂ handle₁ handle₂ entry₁ entry₂ object₁ object₂ clash
    obtain ⟨different₁, used₁⟩ := before first access₁ entry₁
    obtain ⟨different₂, used₂⟩ := before second access₂ entry₂
    exact refines.distinct _ _ _ _ _ _ used₁ used₂
      ((List.getElem?_set_ne (Ne.symm different₁)).symm.trans object₁)
      ((List.getElem?_set_ne (Ne.symm different₂)).symm.trans object₂) clash

/-- A new handle is represented by an access at the start of its object. -/
theorem represents_newHandle {id : Bytes} {flags : UInt32} {desc : Int} {host : Host}
    (opened : host.openFile? desc = some
      { path := cString id
        offset := 0
        readable := !hasFlag flags teeDataFlagAccessWrite
        writable := hasFlag flags teeDataFlagAccessWrite }) :
    Represents platform aes preset host
      { id, position := 0
        mode := if hasFlag flags teeDataFlagAccessWrite then .writing (.iv id)
          else .reading (some (.iv id)) }
      (programKey (platform.keys.key id) (platform.keys.iv id) (newHandle lib flags desc)) := by
  refine ⟨newHandle_persistent lib flags desc, ⟨lib.aesZero, ?_⟩, ?_, ?_⟩
  · have direction_eq : accessDirection (newHandle lib flags desc).flags =
        (if hasFlag flags teeDataFlagAccessWrite then Mode.writing (.iv id)
          else .reading (some (.iv id))).direction := by
      rw [accessDirection_newHandle, accessDirection]
      split <;> rfl
    rw [← direction_eq]
    rfl
  · refine opened.trans ?_
    cases hasFlag flags teeDataFlagAccessWrite <;> rfl
  · intro cell last
    have first : cell = .iv id := by
      dsimp only at last
      split at last <;> exact (Option.some.inj last).symm
    rw [first]
    rfl

/-- A new handle on a descriptor that the host granted. -/
theorem granted (refines : Refines platform aes preset store tee) {id : Bytes} {flags : UInt32}
    {ocreat : Bool}
    (granted : 0 ≤ (tee.host.openPath (cString id) (openFlags flags ocreat)).1) :
    Refines platform aes preset
      { files := Function.update store.files (cString id)
          (some (if hasFlag flags teeDataFlagOverwrite then { cells := [], size := 0 }
            else store.content (cString id)))
        accesses := store.accesses ++ [some
          { id, position := 0
            mode := if hasFlag flags teeDataFlagAccessWrite then .writing (.iv id)
              else .reading (some (.iv id)) }]
        opens := store.opens.tail
        mallocs := store.mallocs.tail.tail }
      { host := (tee.host.openPath (cString id) (openFlags flags ocreat)).2
        objects := tee.objects ++ [programKey (platform.keys.key id) (platform.keys.iv id)
          (newHandle lib flags
            (tee.host.openPath (cString id) (openFlags flags ocreat)).1)]
        mallocs := tee.mallocs.tail.tail
        derives := tee.derives.tail } := by
  obtain ⟨mode_ne, _, _, granted_eq⟩ := Host.openPath_granted granted
  obtain ⟨file_eq, trunc_eq⟩ := OpenFile.start_openFlags mode_ne (cString id)
  have fresh := Host.openFile?_openPath_fresh granted
  have opened := Host.openFile?_openPath_self granted
  set desc := (tee.host.openPath (cString id) (openFlags flags ocreat)).1 with desc_def
  set host := (tee.host.openPath (cString id) (openFlags flags ocreat)).2 with host_def
  set handle := programKey (platform.keys.key id) (platform.keys.iv id)
    (newHandle lib flags desc) with handle_def
  set access : Access :=
    { id, position := 0
      mode := if hasFlag flags teeDataFlagAccessWrite then .writing (.iv id)
        else .reading (some (.iv id)) } with access_def
  have represents : Represents platform aes preset host access handle :=
    represents_newHandle (opened.trans (congrArg some file_eq))
  have old : ∀ (position : Nat) (other : Access),
      (store.accesses ++ [some access])[position]? = some (some other) →
      (position = store.accesses.length ∧ other = access) ∨
        store.accesses[position]? = some (some other) := by
    intro position other entry
    rcases Nat.lt_trichotomy position store.accesses.length with inside | rfl | past
    · rw [List.getElem?_append_left inside] at entry
      exact .inr entry
    · rw [List.getElem?_concat_length] at entry
      exact .inl ⟨rfl, (Option.some.inj (Option.some.inj entry)).symm⟩
    · rw [List.getElem?_eq_none (by simp; omega)] at entry
      exact absurd entry (Option.some_ne_none _).symm
  have kept : ∀ (position : Nat) (other : Access),
      store.accesses[position]? = some (some other) →
      ∃ handle', (tee.objects ++ [handle])[position]? = some handle' ∧
        tee.objects[position]? = some handle' ∧
        Represents platform aes preset tee.host other handle' ∧ handle'.desc ≠ desc := by
    intro position other used
    obtain ⟨handle', entry, represents'⟩ := refines.handles position other used
    refine ⟨handle', ?_, entry, represents', fun clash => ?_⟩
    · rw [List.getElem?_append_left (List.getElem?_eq_some_iff.mp entry).1, entry]
    · rw [← clash, represents'.opened] at fresh
      exact Option.some_ne_none _ fresh
  have new_entry : (tee.objects ++ [handle])[store.accesses.length]? = some handle := by
    rw [← refines.length, List.getElem?_concat_length]
  refine ⟨?_, ?_, ?_, ?_, ?_, fun count => refines.mallocs (count + 2),
    fun count => refines.derives (count + 1), ?_⟩
  · intro path
    have files_eq : host.files = Function.update tee.host.files (cString id)
        (some (if hasFlag (openFlags flags ocreat) oTrunc then []
          else tee.host.content (cString id))) := by
      rw [host_def, granted_eq]
    rw [files_eq, trunc_eq]
    by_cases same : path = cString id
    · subst same
      simp only [Function.update_self]
      split
      · exact .some (SealedFile.Holds.empty _)
      · exact .some (refines.content (cString id))
    · simp only [Function.update_of_ne same]
      exact refines.files path
  · simp [refines.length]
  · intro position other entry
    rcases old position other entry with ⟨rfl, rfl⟩ | used
    · exact ⟨handle, new_entry, represents⟩
    · obtain ⟨handle', entry', _, represents', different⟩ := kept position other used
      exact ⟨handle', entry', { represents' with
        opened := (Host.openFile?_openPath_ne different).trans represents'.opened }⟩
  · intro first second access₁ access₂ handle₁ handle₂ used₁ used₂ entry₁ entry₂ clash
    rcases old first access₁ used₁ with ⟨rfl, rfl⟩ | old₁
    · obtain rfl : handle = handle₁ := Option.some.inj (new_entry.symm.trans entry₁)
      rcases old second access₂ used₂ with ⟨rfl, rfl⟩ | old₂
      · rfl
      · obtain ⟨_, entry', _, _, different⟩ := kept second access₂ old₂
        obtain rfl := Option.some.inj (entry'.symm.trans entry₂)
        exact absurd clash.symm different
    · obtain ⟨_, entry₁', object₁, _, different₁⟩ := kept first access₁ old₁
      obtain rfl := Option.some.inj (entry₁'.symm.trans entry₁)
      rcases old second access₂ used₂ with ⟨rfl, rfl⟩ | old₂
      · obtain rfl : handle = handle₂ := Option.some.inj (new_entry.symm.trans entry₂)
        exact absurd clash different₁
      · obtain ⟨_, entry₂', object₂, _, _⟩ := kept second access₂ old₂
        obtain rfl := Option.some.inj (entry₂'.symm.trans entry₂)
        exact refines.distinct _ _ _ _ _ _ old₁ old₂ object₁ object₂ clash
  · rw [host_def, granted_eq]
    exact congrArg Stream'.tail refines.opens
  · rw [host_def, Host.transfers_openPath]
    exact refines.prompt

/-- The host refuses to open a file. -/
theorem denied (refines : Refines platform aes preset store tee) :
    Refines platform aes preset
      { store with opens := store.opens.tail, mallocs := store.mallocs.tail.tail }
      { tee with
        host := { tee.host with opens := tee.host.opens.tail }
        mallocs := tee.mallocs.tail.tail } := by
  refine { refines with
    opens := congrArg Stream'.tail refines.opens
    mallocs := fun count => refines.mallocs (count + 2)
    handles := fun index access used => ?_ }
  obtain ⟨handle, entry, represents⟩ := refines.handles index access used
  refine ⟨handle, entry, { represents with opened := ?_ }⟩
  rw [← represents.opened]
  cases handle.desc <;> rfl

/-- When the host grants an object. -/
theorem granted_iff (refines : Refines platform aes preset store tee) {id : Bytes} {flags : UInt32}
    {ocreat : Bool} :
    0 ≤ (tee.host.openPath (cString id) (openFlags flags ocreat)).1 ↔
      ((hasFlag flags teeDataFlagAccessRead || hasFlag flags teeDataFlagAccessWrite) &&
        store.opens.head && (ocreat || (store.files (cString id)).isSome)) = true := by
  have present : (tee.host.files (cString id)).isSome = (store.files (cString id)).isSome := by
    have related := refines.files (cString id)
    generalize store.files (cString id) = stored at related
    generalize tee.host.files (cString id) = bytes at related
    cases related <;> rfl
  rw [Host.openPath_granted_iff, present, ← refines.opens]
  cases write : hasFlag flags teeDataFlagAccessWrite with
  | true =>
      obtain ⟨mode, _, creat⟩ := openFlags_write write ocreat
      simp [mode, creat]
  | false =>
      cases read : hasFlag flags teeDataFlagAccessRead with
      | true =>
          obtain ⟨mode, _, creat⟩ := openFlags_read write read ocreat
          simp [mode, creat]
      | false => simp [openFlags_none write read ocreat]

/-- `TEE_CreatePersistentObject` and `TEE_OpenPersistentObject`. -/
theorem opening (refines : Refines platform aes preset store tee) (objectID : Option Bytes)
    (flags : UInt32) (ocreat : Bool) :
    Corresponds platform aes preset ((store.openObject objectID flags ocreat).map id some)
      (.opened (openPersistentObject platform.keys tee objectID flags ocreat).1.1
          (openPersistentObject platform.keys tee objectID flags ocreat).1.2,
        some (openPersistentObject platform.keys tee objectID flags ocreat).2) := by
  have rejected : ∀ (result : TeeResult) {store' : ObjectStore} {tee' : Enclave lib},
      Refines platform aes preset store' tee' →
      Corresponds platform aes preset (Prod.map id some (Reply.result result, store'))
        (.opened result none, some tee') :=
    fun result _ _ next => ⟨.of_answer rfl rfl rfl, next⟩
  cases objectID with
  | none => exact rejected .errorItemNotFound refines
  | some id =>
      simp only [ObjectStore.openObject, openPersistentObject, openPersistentObjectOn]
      by_cases long : id.length > teeObjectIdMaxLen
      · simp only [if_pos long]
        exact rejected .errorBadParameters refines
      simp only [if_neg long]
      cases one_way : (hasFlag flags teeDataFlagAccessRead && hasFlag flags teeDataFlagAccessWrite)
      case true => exact rejected .errorNotSupported refines
      simp only [Bool.false_eq_true, if_false, Enclave.malloc, ObjectStore.malloc]
      have first := refines.malloc_head
      have second := refines.allocated.malloc_head
      cases found : tee.mallocs.head with
      | none =>
          rw [found] at first
          rw [← first]
          exact rejected .errorOutOfMemory refines.allocated
      | some _ =>
          rw [found] at first
          rw [← first]
          dsimp only [Option.isSome_some] at second ⊢
          cases found' : tee.mallocs.tail.head with
          | none =>
              rw [found'] at second
              rw [← second]
              exact rejected .errorOutOfMemory refines.allocated.allocated
          | some _ =>
              rw [found'] at second
              rw [← second]
              dsimp only [Option.isSome_some]
              by_cases granted :
                  0 ≤ (tee.host.openPath (cString id) (openFlags flags ocreat)).1
              · have derived : tee.derives.head = true := refines.derives 0
                rw [if_pos (refines.granted_iff.mp granted), if_neg (Int.not_lt.mpr granted)]
                simp only [setObjectKey, derived, if_true]
                refine ⟨.of_answer ?_ rfl rfl, refines.granted granted⟩
                simp [StorageOutput.answer, Reply.result, refines.length]
              · rw [if_neg (mt refines.granted_iff.mpr granted),
                  if_pos (Int.not_le.mp granted), Host.openPath_refused granted]
                exact rejected .errorAccessDenied refines.denied

end Refines

/-- One call in related states. -/
theorem Refines.step (laws : lib.CbcLaws aes) (refines : Refines platform aes preset store tee)
    {call : StorageCall} (regular : ObjectStore.Regular (some store) call)
    (undivided : platform.Undivided (some tee) call) :
    Corresponds platform aes preset (ObjectStore.step (some store) call)
      (platform.step (some tee) call) := by
  cases call with
  | create objectID flags => exact refines.opening objectID flags true
  | «open» objectID flags => exact refines.opening objectID flags false
  | write object buffer => exact refines.write laws regular undivided
  | read object buffer size => exact refines.read laws regular undivided
  | close object => exact refines.close regular

end TaRef
