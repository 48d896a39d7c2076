import TaRef.Storage.Refinement

/-!
# Refinement of reads and writes

In related states a platform gives the answer of the object store, with the plaintext of the blocks
that were written, and the states after the call are related.  Keystone needs no more than a prompt
host; SGX needs one that moves all it is asked for in a single transfer.
-/

namespace TaRef

variable {lib : Mbedtls}

/-- The host completes the transfer of a write or a read that it admits. -/
def Platform.Undivided (platform : Platform) : Option (Enclave lib) → StorageCall → Prop
  | some tee, .write object buffer =>
      ∀ file, tee.openFile? object = some file → file.writable = true → tee.Attempts buffer →
        platform.Completes tee.host.transfers buffer.length
  | some tee, .read object _ size =>
      ∀ file, tee.openFile? object = some file → file.readable = true → 16 ∣ size →
        platform.Completes tee.host.transfers (min size (tee.host.remaining file).length)
  | _, _ => True

instance (platform : Platform) (transfers : Stream' Transfer) (size : Nat) :
    Decidable (platform.Completes transfers size) := inferInstanceAs (Decidable (_ = _))

instance (platform : Platform) (state : Option (Enclave lib)) (call : StorageCall) :
    Decidable (platform.Undivided state call) :=
  match state, call with
  | none, _ => inferInstanceAs (Decidable True)
  | some tee, .write object buffer =>
      inferInstanceAs (Decidable (∀ file ∈ tee.openFile? object, file.writable = true →
        tee.Attempts buffer → platform.Completes tee.host.transfers buffer.length))
  | some tee, .read object _ size =>
      inferInstanceAs (Decidable (∀ file ∈ tee.openFile? object, file.readable = true →
        16 ∣ size →
          platform.Completes tee.host.transfers (min size (tee.host.remaining file).length)))
  | some _, .create _ _ => inferInstanceAs (Decidable True)
  | some _, .open _ _ => inferInstanceAs (Decidable True)
  | some _, .close _ => inferInstanceAs (Decidable True)

variable {platform : Platform} {aes : BlockCipher Bytes Block} {preset : Bytes → Nat → Block}
  {store : ObjectStore} {tee : Enclave lib}

namespace Refines

/-- A handle in use refers to a persistent object that represents its access. -/
theorem found (refines : Refines platform aes preset store tee) {object : Option Nat}
    {access : Access} (used : store.access? object = some access) :
    ∃ index handle, object = some index ∧ store.accesses[index]? = some (some access) ∧
      tee.objects[index]? = some handle ∧ tee.persistent? object = some handle ∧
      Represents platform aes preset tee.host access handle := by
  cases object with
  | none => simp [ObjectStore.access?] at used
  | some index =>
      have entry : store.accesses[index]? = some (some access) := by
        simpa [ObjectStore.access?, Option.join_eq_some_iff] using used
      obtain ⟨handle, object_entry, represents⟩ := refines.handles index access entry
      refine ⟨index, handle, rfl, entry, object_entry, ?_, represents⟩
      exact Enclave.persistent?_eq_some.mpr ⟨index, rfl, object_entry, represents.persistent⟩

/-- The content of a path is that of the object store. -/
theorem content (refines : Refines platform aes preset store tee) (path : Bytes) :
    SealedFile.Holds (Cell.value platform.keys aes preset) (store.content path)
      (tee.host.content path) := by
  have related := refines.files path
  simp only [ObjectStore.content, Host.content]
  generalize store.files path = stored at related
  generalize tee.host.files path = bytes at related
  cases related with
  | none => exact SealedFile.Holds.empty _
  | some holds => exact holds

theorem malloc_head (refines : Refines platform aes preset store tee) :
    tee.mallocs.head.isSome = store.mallocs.head := refines.mallocs 0

/-- One allocation on both sides. -/
theorem allocated (refines : Refines platform aes preset store tee) :
    Refines platform aes preset { store with mallocs := store.mallocs.tail }
      { tee with mallocs := tee.mallocs.tail } :=
  { refines with mallocs := fun count => refines.mallocs (count + 1) }

/-- Change one handle in use, its file, and what the host decides next. -/
theorem update (refines : Refines platform aes preset store tee) {index : Nat}
    {access : Access} {handle : StoredObject lib}
    (used : store.accesses[index]? = some (some access))
    (entry : tee.objects[index]? = some handle) {access' : Access} {handle' : StoredObject lib}
    {store' : ObjectStore} {tee' : Enclave lib}
    (accesses_eq : store'.accesses = store.accesses.set index (some access'))
    (objects_eq : tee'.objects = tee.objects.set index handle')
    (desc_eq : handle'.desc = handle.desc)
    (represents : Represents platform aes preset tee'.host access' handle')
    (others : ∀ fd, fd ≠ handle.desc → tee'.host.openFile? fd = tee.host.openFile? fd)
    (files : ∀ path, Option.Rel (SealedFile.Holds (Cell.value platform.keys aes preset))
      (store'.files path) (tee'.host.files path))
    (opens : tee'.host.opens = store'.opens)
    (mallocs : ∀ count, (tee'.mallocs.get count).isSome = store'.mallocs.get count)
    (derives : tee'.derives = tee.derives)
    (prompt : tee'.host.transfers.All Transfer.Prompt) :
    Refines platform aes preset store' tee' := by
  have inside := (List.getElem?_eq_some_iff.mp entry).1
  have inside' := (List.getElem?_eq_some_iff.mp used).1
  have before : ∀ (position : Nat) (other : Access), position ≠ index →
      store'.accesses[position]? = some (some other) →
      store.accesses[position]? = some (some other) := by
    intro position other different found
    rwa [accesses_eq, List.getElem?_set_ne (Ne.symm different)] at found
  have object_before : ∀ (position : Nat), position ≠ index →
      tee'.objects[position]? = tee.objects[position]? := by
    intro position different
    rw [objects_eq, List.getElem?_set_ne (Ne.symm different)]
  have desc_before : ∀ (position : Nat) (other : StoredObject lib),
      tee'.objects[position]? = some other →
      ∃ old, tee.objects[position]? = some old ∧ old.desc = other.desc := by
    intro position other found
    by_cases same : position = index
    · subst same
      rw [objects_eq, List.getElem?_set_self inside] at found
      obtain rfl := Option.some.inj found
      exact ⟨handle, entry, desc_eq.symm⟩
    · exact ⟨other, by rw [← object_before position same, found], rfl⟩
  have access_before : ∀ (position : Nat) (other : Access),
      store'.accesses[position]? = some (some other) →
      ∃ old, store.accesses[position]? = some (some old) := by
    intro position other found
    by_cases same : position = index
    · exact ⟨access, same ▸ used⟩
    · exact ⟨other, before position other same found⟩
  refine ⟨files, ?_, ?_, ?_, opens, mallocs, ?_, prompt⟩
  · rw [objects_eq, accesses_eq, List.length_set, List.length_set, refines.length]
  · intro position other found
    by_cases same : position = index
    · subst same
      rw [accesses_eq, List.getElem?_set_self inside'] at found
      obtain rfl := Option.some.inj (Option.some.inj found)
      exact ⟨handle', by rw [objects_eq, List.getElem?_set_self inside], represents⟩
    · have used_before := before position other same found
      obtain ⟨kept, kept_entry, kept_represents⟩ := refines.handles position other used_before
      refine ⟨kept, by rw [object_before position same, kept_entry],
        { kept_represents with opened := ?_ }⟩
      rw [others kept.desc fun clash => same
        (refines.distinct _ _ _ _ _ _ used_before used kept_entry entry clash)]
      exact kept_represents.opened
  · intro position other access₁ access₂ handle₁ handle₂ used₁ used₂ entry₁ entry₂ clash
    obtain ⟨old₁, old_entry₁, desc₁⟩ := desc_before position handle₁ entry₁
    obtain ⟨old₂, old_entry₂, desc₂⟩ := desc_before other handle₂ entry₂
    obtain ⟨_, old_used₁⟩ := access_before position access₁ used₁
    obtain ⟨_, old_used₂⟩ := access_before other access₂ used₂
    exact refines.distinct _ _ _ _ _ _ old_used₁ old_used₂ old_entry₁ old_entry₂
      (by rw [desc₁, desc₂, clash])
  · rw [derives]
    exact refines.derives

/-- The host moves something in its next transfer. -/
theorem accepted (refines : Refines platform aes preset store tee) :
    ∃ amount, tee.host.transfers.head = .move amount := by
  have prompt := refines.prompt 0
  cases head : tee.host.transfers.head with
  | refuse code => simp [Transfer.Prompt, show tee.host.transfers.get 0 = _ from head] at prompt
  | move amount => exact ⟨amount, rfl⟩

theorem prompt_drop (refines : Refines platform aes preset store tee) (taken : Nat) :
    (tee.host.transfers.drop taken).All Transfer.Prompt := by
  intro count
  rw [Stream'.get_drop]
  exact refines.prompt _

/-- Decisions of the host that change nothing else. -/
theorem skip (refines : Refines platform aes preset store tee) (taken : Nat) :
    Refines platform aes preset store { tee with host := tee.host.skip taken } := by
  refine
    { refines with
      prompt := refines.prompt_drop taken
      handles := fun index access used => ?_ }
  obtain ⟨handle, entry, represents⟩ := refines.handles index access used
  exact ⟨handle, entry,
    { represents with opened := (Host.openFile?_skip _ _ _).trans represents.opened }⟩

/-- A call that stores some cells at a handle and moves its chaining value and its position. -/
theorem delivered (refines : Refines platform aes preset store tee) {index : Nat}
    {access : Access} {handle : StoredObject lib}
    (entry : store.accesses[index]? = some (some access))
    (object_entry : tee.objects[index]? = some handle)
    (represents : Represents platform aes preset tee.host access handle) (mode : Mode)
    (same : mode.writes = access.mode.writes) {iv : Block}
    (chained : ChainValue platform.keys aes preset mode.chain? iv) {cells : List Cell}
    (cells_ne : cells ≠ []) (taken : Nat) :
    Refines platform aes preset
      { store with
        files := Function.update store.files (cString access.id) (some
          { cells := splice .hole (store.content (cString access.id)).cells access.position cells
            size := max (store.content (cString access.id)).size
              (16 * (access.position + cells.length)) })
        accesses := store.accesses.set index
          (some { access with position := access.position + cells.length, mode })
        mallocs := store.mallocs.tail }
      (tee.chained (some index) handle iv
        ((tee.host.skip taken).deliver handle.desc
          (joinBlocks (cells.map (Cell.value platform.keys aes preset))))) := by
  set bytes := joinBlocks (cells.map (Cell.value platform.keys aes preset)) with bytes_def
  have bytes_length : bytes.length = 16 * cells.length := by
    rw [bytes_def, length_joinBlocks, List.length_map]
  have cells_pos := List.length_pos_iff.mpr cells_ne
  have bytes_ne : bytes ≠ [] := List.ne_nil_of_length_pos (by omega)
  have opened_now : (tee.host.skip taken).openFile? handle.desc = some access.file := by
    rw [Host.openFile?_skip, represents.opened]
  refine refines.update entry object_entry rfl rfl rfl ⟨represents.persistent, ?_, ?_, chained⟩ ?_
    ?_ ?_ (fun count => refines.mallocs (count + 1)) rfl ?_
  · rw [Mode.direction_eq same]
    exact represents.keyed
  · have position_eq : access.file.offset + bytes.length =
        16 * (access.position + cells.length) := by
      rw [bytes_length, Access.file, Nat.mul_add]
    have opened_after := Host.openFile?_deliver_self opened_now bytes
    rw [position_eq] at opened_after
    simp only [Access.file, ← same] at opened_after
    exact opened_after
  · intro fd different
    exact (Host.openFile?_deliver_ne bytes different).trans (Host.openFile?_skip _ _ _)
  · intro path
    by_cases here : path = cString access.id
    · subst here
      have received : ((tee.host.skip taken).deliver handle.desc bytes).files
          (cString access.id) =
            some (overwrite (tee.host.content (cString access.id)) (16 * access.position) bytes) :=
        Host.files_deliver_self opened_now bytes_ne
      simp only [Enclave.chained, Function.update_self]
      rw [received]
      exact .some ((refines.content (cString access.id)).write (by rfl) access.position cells_ne)
    · simp only [Enclave.chained, Function.update_of_ne here]
      rw [Host.files_deliver_ne opened_now bytes here]
      exact refines.files path
  · rw [Enclave.chained, Host.opens_deliver]
    exact refines.opens
  · rw [Enclave.chained, Host.transfers_deliver]
    exact refines.prompt_drop taken

/-- A write of some blocks to a writer. -/
theorem write_stored (laws : lib.CbcLaws aes) (refines : Refines platform aes preset store tee)
    {object : Option Nat} {access : Access} (used : store.access? object = some access)
    {chain : Cell} (mode : access.mode = .writing chain) {buffer : Bytes}
    (aligned : Aligned buffer) (buffer_ne : buffer ≠ []) (buffer_lt : buffer.length < 2 ^ 31)
    (mallocs : store.mallocs.head = true)
    (undivided : platform.Undivided (some tee) (.write object buffer)) :
    Corresponds platform aes preset ((store.writeObject object buffer).map id some)
      (platform.step (some tee) (.write object buffer)) := by
  obtain ⟨index, handle, rfl, entry, object_entry, found, represents⟩ := refines.found used
  obtain ⟨residue, residue_eq⟩ := Option.isSome_iff_exists.mp (refines.malloc_head.trans mallocs)
  obtain ⟨amount, accepted⟩ := refines.accepted
  obtain ⟨context, keyed⟩ := represents.keyed
  have writes : access.mode.writes = true := by rw [mode, Mode.writes]
  have direction : access.mode.direction = .encrypt := by rw [mode, Mode.direction]
  have writable : access.file.writable = true := writes
  have buffer_pos := List.length_pos_iff.mpr buffer_ne
  have complete := undivided access.file
    (by simp [Enclave.openFile?, found, represents.opened]) writable
    ⟨aligned, buffer_pos, by rw [residue_eq]; rfl⟩
  rw [direction] at keyed
  obtain ⟨taken, run⟩ := writeObjectData_spec laws platform found keyed residue_eq aligned
    buffer_pos buffer_lt represents.opened writable
  have chain_eq : Cell.value platform.keys aes preset chain = handle.persistIv :=
    represents.chained chain (by rw [mode, Mode.chain?])
  obtain ⟨cells_eq, last_eq⟩ :=
    Cell.value_sealBlocks platform.keys aes preset access.id chain (toBlocks buffer)
  rw [chain_eq] at cells_eq last_eq
  set cells := Cell.sealBlocks access.id chain (toBlocks buffer) with cells_def
  have blocks_ne : toBlocks buffer ≠ [] := by
    intro nil
    rw [← joinBlocks_toBlocks aligned, nil] at buffer_ne
    exact buffer_ne rfl
  have cells_length : cells.length = (toBlocks buffer).length := Cell.length_sealBlocks _ _ _
  have cells_ne : cells ≠ [] := by
    rw [← List.length_pos_iff, cells_length]
    exact List.length_pos_iff.mpr blocks_ne
  have bytes_length : (joinBlocks (cells.map (Cell.value platform.keys aes preset))).length =
      buffer.length := by
    rw [length_joinBlocks, List.length_map, cells_length, length_toBlocks]
    exact Nat.mul_div_cancel' aligned
  rw [complete, ← cells_eq, ← last_eq, ← bytes_length, List.take_length, accepted] at run
  have abstract : store.writeObject (some index) buffer =
      (.result .success,
        { store with
          files := Function.update store.files (cString access.id) (some
            { cells := splice .hole (store.content (cString access.id)).cells access.position cells
              size := max (store.content (cString access.id)).size
                (16 * (access.position + cells.length)) })
          accesses := store.accesses.set index (some { access with
            position := access.position + cells.length
            mode := .writing (Machine.final (Cell.sealStep access.id) chain (toBlocks buffer)) })
          mallocs := store.mallocs.tail }) := by
    have whole : ¬ ¬ 16 ∣ buffer.length := not_not.mpr aligned
    simp only [ObjectStore.writeObject, used, if_neg whole, ObjectStore.malloc, mallocs, mode,
      if_neg blocks_ne, ObjectStore.setAccess, cells_length]
    rfl
  have concrete : platform.step (some tee) (.write (some index) buffer) =
      (.written (.returned .success), some (tee.chained (some index) handle
        (Cell.value platform.keys aes preset
          (Machine.final (Cell.sealStep access.id) chain (toBlocks buffer)))
        ((tee.host.skip taken).deliver handle.desc
          (joinBlocks (cells.map (Cell.value platform.keys aes preset)))))) := by
    rw [Platform.step, run]
    rfl
  rw [abstract, concrete]
  exact ⟨.of_answer rfl rfl rfl,
    refines.delivered entry object_entry represents
      (.writing (Machine.final (Cell.sealStep access.id) chain (toBlocks buffer))) writes.symm
      (fun cell last => congrArg _ (Option.some.inj last).symm) cells_ne taken⟩

/-- A call that moves the chaining value and the position of a handle, and stores nothing. -/
theorem advanced (refines : Refines platform aes preset store tee) {index : Nat}
    {access : Access} {handle : StoredObject lib}
    (entry : store.accesses[index]? = some (some access))
    (object_entry : tee.objects[index]? = some handle)
    (represents : Represents platform aes preset tee.host access handle) (mode : Mode)
    (same : mode.writes = access.mode.writes) {iv : Block}
    (chained : ChainValue platform.keys aes preset mode.chain? iv)
    (taken blocks : Nat) :
    Refines platform aes preset
      { store with
        accesses := store.accesses.set index
          (some { access with position := access.position + blocks, mode })
        mallocs := store.mallocs.tail }
      (tee.chained (some index) handle iv
        ((tee.host.skip taken).advance handle.desc (16 * blocks))) := by
  have opened_now : (tee.host.skip taken).openFile? handle.desc = some access.file := by
    rw [Host.openFile?_skip, represents.opened]
  refine refines.update entry object_entry rfl rfl rfl ⟨represents.persistent, ?_, ?_, chained⟩ ?_
    ?_ ?_ (fun count => refines.mallocs (count + 1)) rfl ?_
  · rw [Mode.direction_eq same]
    exact represents.keyed
  · have opened_after := Host.openFile?_advance_self opened_now (16 * blocks)
    simp only [Access.file, ← Nat.mul_add, ← same] at opened_after
    exact opened_after
  · exact fun fd different =>
      (Host.openFile?_advance_ne _ different).trans (Host.openFile?_skip _ _ _)
  · rw [Enclave.chained, Host.files_advance]
    exact refines.files
  · rw [Enclave.chained, Host.opens_advance]
    exact refines.opens
  · rw [Enclave.chained, Host.transfers_advance]
    exact refines.prompt_drop taken

/-- A call that moves the chaining value of a handle, and no data. -/
theorem rechained (refines : Refines platform aes preset store tee) {index : Nat}
    {access : Access} {handle : StoredObject lib}
    (entry : store.accesses[index]? = some (some access))
    (object_entry : tee.objects[index]? = some handle)
    (represents : Represents platform aes preset tee.host access handle) (mode : Mode)
    (same : mode.writes = access.mode.writes) {iv : Block}
    (chained : ChainValue platform.keys aes preset mode.chain? iv)
    (taken : Nat) :
    Refines platform aes preset
      { store with
        accesses := store.accesses.set index (some { access with mode })
        mallocs := store.mallocs.tail }
      (tee.chained (some index) handle iv (tee.host.skip taken)) := by
  have next := refines.advanced entry object_entry represents mode same chained taken 0
  rwa [Nat.mul_zero, Host.advance_zero] at next

/-- A write of nothing to a writer. -/
theorem write_nothing (laws : lib.CbcLaws aes) (refines : Refines platform aes preset store tee)
    {object : Option Nat} {access : Access} (used : store.access? object = some access)
    {chain : Cell} (mode : access.mode = .writing chain) (mallocs : store.mallocs.head = true) :
    Corresponds platform aes preset ((store.writeObject object []).map id some)
      (platform.step (some tee) (.write object [])) := by
  obtain ⟨index, handle, rfl, entry, object_entry, found, represents⟩ := refines.found used
  obtain ⟨residue, residue_eq⟩ := Option.isSome_iff_exists.mp (refines.malloc_head.trans mallocs)
  obtain ⟨amount, accepted⟩ := refines.accepted
  have writes : access.mode.writes = true := by rw [mode, Mode.writes]
  obtain ⟨taken, run⟩ := writeObjectData_nil laws platform found residue_eq represents.opened
    writes accepted
  have abstract : store.writeObject (some index) [] =
      (.result .success,
        { store with
          accesses := store.accesses.set index (some { access with mode := .writing chain })
          mallocs := store.mallocs.tail }) := by
    simp [ObjectStore.writeObject, used, ObjectStore.malloc, mallocs, mode,
      ObjectStore.setAccess]
  have concrete : platform.step (some tee) (.write (some index) []) =
      (.written (.returned .success), some (tee.chained (some index) handle handle.persistIv
        (tee.host.skip taken))) := by
    rw [Platform.step, run]
    rfl
  have chained := represents.chained
  rw [mode] at chained
  rw [abstract, concrete]
  exact ⟨.of_answer rfl rfl rfl,
    refines.rechained entry object_entry represents (.writing chain) writes.symm chained taken⟩

/-- A write of some blocks to a reader. -/
theorem write_refused (refines : Refines platform aes preset store tee) {object : Option Nat}
    {access : Access} (used : store.access? object = some access) {chain : Option Cell}
    (mode : access.mode = .reading chain) {buffer : Bytes} (aligned : Aligned buffer)
    (buffer_ne : buffer ≠ []) (mallocs : store.mallocs.head = true) :
    Corresponds platform aes preset ((store.writeObject object buffer).map id some)
      (platform.step (some tee) (.write object buffer)) := by
  obtain ⟨index, handle, rfl, entry, object_entry, found, represents⟩ := refines.found used
  obtain ⟨residue, residue_eq⟩ := Option.isSome_iff_exists.mp (refines.malloc_head.trans mallocs)
  have reads : access.mode.writes = false := by rw [mode, Mode.writes]
  have closed : ¬ tee.host.Writable handle.desc := by
    rintro ⟨file, opened, writable⟩
    obtain rfl : access.file = file := Option.some.inj (represents.opened.symm.trans opened)
    exact absurd writable (by simp [Access.file, reads])
  have run := writeObjectData_not_writable platform found residue_eq aligned
    (List.length_pos_iff.mpr buffer_ne) closed
  set iv := (lib.aesCryptCbc handle.persistCtx .encrypt handle.persistIv buffer).iv
  have abstract : store.writeObject (some index) buffer =
      (.result .errorGeneric,
        { store with
          accesses := store.accesses.set index (some { access with mode := .reading none })
          mallocs := store.mallocs.tail }) := by
    have whole : ¬ ¬ 16 ∣ buffer.length := not_not.mpr aligned
    simp only [ObjectStore.writeObject, used, if_neg whole, ObjectStore.malloc, mallocs, mode,
      ObjectStore.setAccess]
    rfl
  have concrete : platform.step (some tee) (.write (some index) buffer) =
      (.written (.returned .errorGeneric), some (tee.chained (some index) handle iv
        (tee.host.skip 0))) := by
    rw [Platform.step, run]
    rfl
  rw [abstract, concrete]
  have unchained : ChainValue platform.keys aes preset none iv :=
    fun cell known => absurd known (Option.some_ne_none cell).symm
  exact ⟨.of_answer rfl rfl rfl, refines.rechained entry object_entry represents
    (.reading none) reads.symm unchained 0⟩

/-- A write that ends before it reaches the handle. -/
theorem write_rejected {store' : ObjectStore} {tee' : Enclave lib}
    (next : Refines platform aes preset store' tee') {object : Option Nat} {buffer : Bytes}
    (result : TeeResult) (abstract : store.writeObject object buffer = (.result result, store'))
    (concrete : platform.writeObjectData tee object buffer = (.returned result, tee')) :
    Corresponds platform aes preset ((store.writeObject object buffer).map id some)
      (platform.step (some tee) (.write object buffer)) := by
  rw [abstract, Platform.step, concrete]
  exact ⟨.of_answer rfl rfl rfl, next⟩

/-- `TEE_WriteObjectData`. -/
theorem write (laws : lib.CbcLaws aes) (refines : Refines platform aes preset store tee)
    {object : Option Nat} {buffer : Bytes}
    (regular : ObjectStore.Regular (some store) (.write object buffer))
    (undivided : platform.Undivided (some tee) (.write object buffer)) :
    Corresponds platform aes preset ((store.writeObject object buffer).map id some)
      (platform.step (some tee) (.write object buffer)) := by
  rcases regular with rfl | ⟨access, used, buffer_lt, direction⟩
  · refine refines.write_rejected .errorBadParameters rfl ?_
    cases platform <;> rfl
  obtain ⟨index, handle, rfl, entry, object_entry, found, represents⟩ := refines.found used
  by_cases aligned : 16 ∣ buffer.length
  · cases mallocs : store.mallocs.head with
    | false =>
        have exhausted : tee.mallocs.head = none := by
          simpa [mallocs] using refines.malloc_head
        have whole : ¬ buffer.length % 16 ≠ 0 := not_not.mpr (Nat.mod_eq_zero_of_dvd aligned)
        refine refines.allocated.write_rejected .errorOutOfMemory ?_ ?_
        · simp [ObjectStore.writeObject, used, aligned, ObjectStore.malloc, mallocs]
        · simp [Platform.writeObjectData_eq, found, whole, exhausted]
    | true =>
        cases mode : access.mode with
        | writing chain =>
            by_cases buffer_ne : buffer = []
            · subst buffer_ne
              exact refines.write_nothing laws used mode mallocs
            · exact refines.write_stored laws used mode aligned buffer_ne buffer_lt mallocs
                undivided
        | reading chain =>
            have buffer_ne : buffer ≠ [] := by
              intro nil
              have writes := direction nil
              simp [mode, Mode.writes] at writes
            exact refines.write_refused used mode aligned buffer_ne mallocs
  · have whole : buffer.length % 16 ≠ 0 := fun zero => aligned (Nat.dvd_of_mod_eq_zero zero)
    refine refines.write_rejected .errorBadParameters ?_ ?_
    · simp [ObjectStore.writeObject, used, aligned]
    · simp [Platform.writeObjectData_eq, found, whole]

/-- The bytes that a reader gets are the values of the next cells. -/
theorem read_bytes (refines : Refines platform aes preset store tee) {object : Option Nat}
    {access : Access} {handle : StoredObject lib} {buffer : Bytes} {count : Nat}
    (found : tee.persistent? object = some handle)
    (represents : Represents platform aes preset tee.host access handle)
    (reads : access.mode.writes = false) (whole : 16 ∣ min (16 * count) (store.left access))
    (undivided : platform.Undivided (some tee) (.read object buffer (16 * count))) :
    (tee.host.remaining access.file).take (platform.moved tee.host.transfers
        (min (16 * count) (tee.host.remaining access.file).length)) =
      joinBlocks ((store.passed access (16 * count)).map
        (Cell.value platform.keys aes preset)) := by
  have size_div : 16 * count / 16 = count := Nat.mul_div_cancel_left count (by decide)
  have complete := undivided access.file
    (by simp [Enclave.openFile?, found, represents.opened]) (by simp [Access.file, reads])
    ⟨count, rfl⟩
  have all_left : (tee.host.remaining access.file).take
      (min (16 * count) (tee.host.remaining access.file).length) =
        (tee.host.remaining access.file).take (16 * count) := by
    rw [List.take_eq_take_iff]
    omega
  rw [complete, all_left, ObjectStore.passed, size_div,
    ← (refines.content (cString access.id)).read whole]
  rfl

/-- A read from a reader. -/
theorem read_left (laws : lib.CbcLaws aes) (refines : Refines platform aes preset store tee)
    {object : Option Nat} {access : Access} (used : store.access? object = some access)
    {chain : Option Cell} (mode : access.mode = .reading chain) (buffer : Bytes) {count : Nat}
    (size_lt : 16 * count < 2 ^ 31) (whole : 16 ∣ min (16 * count) (store.left access))
    (consecutive : store.mallocs.head = true → store.Consecutive access (16 * count))
    (undivided : platform.Undivided (some tee) (.read object buffer (16 * count))) :
    Corresponds platform aes preset ((store.readObject object (16 * count)).map id some)
      (platform.step (some tee) (.read object buffer (16 * count))) := by
  obtain ⟨index, handle, rfl, entry, object_entry, found, represents⟩ := refines.found used
  obtain ⟨amount, accepted⟩ := refines.accepted
  obtain ⟨context, keyed⟩ := represents.keyed
  have reads : access.mode.writes = false := by rw [mode, Mode.writes]
  have bytes_eq := refines.read_bytes found represents reads whole undivided
  have abstract := store.readObject_reading used mode (Nat.dvd_mul_right 16 count)
  simp only [ObjectStore.Consecutive, mode] at consecutive
  set cells := store.passed access (16 * count) with cells_def
  set values := cells.map (Cell.value platform.keys aes preset) with values_def
  have bytes_length : (joinBlocks values).length = 16 * cells.length := by
    rw [length_joinBlocks, values_def, List.length_map]
  obtain ⟨taken, rest, run⟩ := readObjectData_transfer platform buffer found ⟨count, rfl⟩ size_lt
    represents.opened (by simp [Access.file, reads]) accepted bytes_eq (aligned_joinBlocks values)
  have chained := represents.chained
  rw [mode] at keyed chained
  have last_chained :=
    Cell.chainValue_readBlocks platform.keys aes preset access.id chained cells
  by_cases empty : cells = []
  · have nothing : (joinBlocks values).length = 0 := by rw [bytes_length, empty]; rfl
    rw [if_pos empty] at abstract
    simp only [nothing, if_true, Host.advance_zero] at run
    rw [abstract, Platform.step, run]
    exact ⟨.of_answer rfl rfl rfl, refines.skip taken⟩
  have some_bytes : ¬ (joinBlocks values).length = 0 := by
    have cells_pos := List.length_pos_iff.mpr empty
    omega
  rw [if_neg empty] at abstract
  simp only [if_neg some_bytes] at run
  rw [bytes_length] at run
  set host := (tee.host.skip taken).advance handle.desc (16 * cells.length) with host_def
  cases mallocs : store.mallocs.head with
  | false =>
      have exhausted : tee.mallocs.head = none := by
        simpa [mallocs] using refines.malloc_head
      have concrete : platform.step (some tee) (.read (some index) buffer (16 * count)) =
          (.read { exit := .returned .errorOutOfMemory, buffer := joinBlocks values ++ rest
                   count := some (16 * cells.length) },
            some (tee.chained (some index) handle handle.persistIv host)) := by
        rw [Platform.step, run]
        simp only [decryptInto, Enclave.malloc, exhausted, Platform.survive, Enclave.chained]
        rw [Enclave.setObject_self found]
      rw [abstract, mallocs, concrete]
      exact ⟨.of_answer rfl rfl rfl, refines.advanced entry object_entry represents
        (.reading chain) reads.symm chained taken cells.length⟩
  | true =>
      obtain ⟨residue, residue_eq⟩ :=
        Option.isSome_iff_exists.mp (refines.malloc_head.trans mallocs)
      have decrypted := decryptInto_spec laws { tee with host } (some index) keyed residue_eq
        (aligned_joinBlocks values) rest
      rw [bytes_length, toBlocks_joinBlocks] at decrypted
      have concrete : platform.step (some tee) (.read (some index) buffer (16 * count)) =
          (.read { exit := .returned .success
                   buffer := joinBlocks (Cbc.crypt aes (platform.keys.key access.id) .decrypt
                    handle.persistIv values) ++ rest
                   count := some (16 * cells.length) },
            some (tee.chained (some index) handle (Cbc.chainAfter aes
              (platform.keys.key access.id) .decrypt handle.persistIv values) host)) := by
        rw [Platform.step, run, decrypted]
        rfl
      rw [abstract, mallocs, concrete]
      have shown := Cell.shows_readBlocks platform.keys aes preset access.id chained
        (consecutive mallocs)
      refine ⟨⟨rfl, _, ?_, shown⟩, refines.advanced entry object_entry represents
        (.reading (Machine.final Cell.readStep chain cells)) reads.symm last_chained taken
        cells.length⟩
      have plain_length : (joinBlocks (Cbc.crypt aes (platform.keys.key access.id) .decrypt
          handle.persistIv values)).length = 16 * cells.length := by
        rw [length_joinBlocks, Cbc.length_crypt, values_def, List.length_map]
      simp only [StorageOutput.plaintext, Option.getD_some, ← plain_length, List.take_left']
      rfl

/-- A read that ends before it reaches the handle. -/
theorem read_rejected {store' : ObjectStore} {tee' : Enclave lib}
    (next : Refines platform aes preset store' tee') {object : Option Nat} {buffer : Bytes}
    {size : Nat} (result : TeeResult) {call : ReadCall}
    (abstract : store.readObject object size = (.result result, store'))
    (concrete : platform.readObjectData tee object buffer size = (call, tee'))
    (exit_eq : call.exit = .returned result) (count_eq : call.count = none) :
    Corresponds platform aes preset ((store.readObject object size).map id some)
      (platform.step (some tee) (.read object buffer size)) := by
  rw [abstract, Platform.step, concrete]
  simp only [exit_eq, Platform.survive]
  refine ⟨.of_answer ?_ (StorageOutput.plaintext_of_count count_eq) rfl, next⟩
  simp only [StorageOutput.answer, exit_eq, count_eq]
  rfl

/-- `TEE_ReadObjectData`. -/
theorem read (laws : lib.CbcLaws aes) (refines : Refines platform aes preset store tee)
    {object : Option Nat} {buffer : Bytes} {size : Nat}
    (regular : ObjectStore.Regular (some store) (.read object buffer size))
    (undivided : platform.Undivided (some tee) (.read object buffer size)) :
    Corresponds platform aes preset ((store.readObject object size).map id some)
      (platform.step (some tee) (.read object buffer size)) := by
  rcases regular with rfl | ⟨access, used, size_lt, direction, whole_left, consecutive⟩
  · refine refines.read_rejected .errorBadParameters rfl
      (show _ = ({ exit := .returned .errorBadParameters, buffer, count := none }, tee) from ?_)
      rfl rfl
    cases platform <;> rfl
  obtain ⟨index, handle, rfl, entry, object_entry, found, represents⟩ := refines.found used
  by_cases whole : 16 ∣ size
  · cases mode : access.mode with
    | writing chain =>
        have writes : access.mode.writes = true := by rw [mode, Mode.writes]
        have size_pos : 0 < size := by
          rw [Nat.pos_iff_ne_zero]
          exact fun zero => by simp [direction zero] at writes
        obtain ⟨call, run, exit_eq, count_eq⟩ := readObjectData_not_readable platform buffer found
          whole size_pos
          (Host.not_readable_of_opened represents.opened (by simp [Access.file, writes]))
        refine refines.read_rejected .errorGeneric ?_ run exit_eq count_eq
        simp [ObjectStore.readObject, used, whole, mode]
    | reading chain =>
        have reads : access.mode.writes = false := by rw [mode, Mode.writes]
        obtain ⟨count, rfl⟩ := whole
        exact refines.read_left laws used mode buffer size_lt (whole_left ⟨count, rfl⟩ reads)
          (consecutive ⟨count, rfl⟩) undivided
  · have size_mod : size % 16 ≠ 0 := fun zero => whole (Nat.dvd_of_mod_eq_zero zero)
    refine refines.read_rejected .errorBadParameters ?_
      (show _ = ({ exit := .returned .errorBadParameters, buffer, count := none }, tee) from ?_)
      rfl rfl
    · simp [ObjectStore.readObject, used, whole]
    · simp [Platform.readObjectData_eq, found, size_mod]

end Refines
end TaRef
