import TaRef.Storage.Isolation

/-!
# Opening for reading

Reading through a handle and closing it never change a file of the host.  Opening one without write
access does: `flags2flags` passes `O_TRUNC` on with `O_RDONLY`, and for a flag word without any
access flag it passes on the word of ones.
-/

namespace TaRef

variable {lib : Mbedtls}

/-- The `open` of a host, which may grant any flag word.  `O_TRUNC` empties the file and `O_CREAT`
creates it. -/
structure Opener where
  openPath : Host → Bytes → UInt32 → Int × Host
  refused : ∀ host path flags, (openPath host path flags).1 < 0 →
    (openPath host path flags).2.files = host.files
  granted : ∀ host path flags, ¬ (openPath host path flags).1 < 0 →
    (hasFlag flags oCreat = true ∨ (host.files path).isSome = true) ∧
      (openPath host path flags).2.files = Function.update host.files path
        (some (if hasFlag flags oTrunc then [] else host.content path))

/-- The host that rejects an access mode of three. -/
def Opener.linux : Opener where
  openPath := Host.openPath
  refused host path flags refused := by
    rw [Host.openPath_refused (Int.not_le.mpr refused)]
  granted host path flags granted := by
    obtain ⟨_, _, allowed, run⟩ := Host.openPath_granted (Int.not_lt.mp granted)
    exact ⟨allowed, by rw [run]⟩

/-- Opening an object leaves all files as they are, and so does any sequence of reads through the
handle, before and after the handle is closed. -/
def Platform.LeavesObjects (platform : Platform) (opener : Opener) (tee : Enclave lib)
    (objectID : Option Bytes) (flags : UInt32) : Prop :=
  let opening := openPersistentObjectOn opener.openPath platform.keys tee objectID flags false
  opening.2.host.files = tee.host.files ∧
    ∀ object, opening.1.2 = some object → ∀ reads : List (Bytes × Nat),
      let after := Machine.final platform.perform opening.2
        (reads.map fun request => .read (some object) request.1 request.2)
      after.host.files = tee.host.files ∧
        (platform.perform after (.close (some object))).2.host.files = tee.host.files

/-- The arguments are accepted and both allocations succeed, so the host is asked for the file. -/
structure AsksHost (tee : Enclave lib) (objectID : Option Bytes) (flags : UInt32) (id : Bytes) :
    Prop where
  given : objectID = some id
  short : id.length ≤ teeObjectIdMaxLen
  one_way : (hasFlag flags teeDataFlagAccessRead && hasFlag flags teeDataFlagAccessWrite) = false
  first : tee.mallocs.head ≠ none
  second : tee.mallocs.tail.head ≠ none

/-- The host grants a flag word that truncates or creates the file: with read access it is that of
an opening for overwriting. -/
structure Alters (opener : Opener) (tee : Enclave lib) (objectID : Option Bytes) (flags : UInt32)
    (id : Bytes) : Prop where
  asks : AsksHost tee objectID flags id
  granted : ¬ (opener.openPath tee.host (cString id) (openFlags flags false)).1 < 0
  overwrites : hasFlag flags teeDataFlagAccessRead = true →
    hasFlag flags teeDataFlagOverwrite = true
  differs : tee.host.files (cString id) ≠ some []

/-! ## The files after an opening -/

section Files

variable (openPath : Host → Bytes → UInt32 → Int × Host) (keys : KeyDerivation) {tee : Enclave lib}
  {objectID : Option Bytes} {flags : UInt32} (ocreat : Bool)

theorem files_of_asked {id : Bytes} (asks : AsksHost tee objectID flags id) :
    (openPersistentObjectOn openPath keys tee objectID flags ocreat).2.host.files =
      (openPath tee.host (cString id) (openFlags flags ocreat)).2.files := by
  obtain ⟨_, first_eq⟩ := Option.ne_none_iff_exists'.mp asks.first
  obtain ⟨_, second_eq⟩ := Option.ne_none_iff_exists'.mp asks.second
  simp only [openPersistentObjectOn, Enclave.malloc, setObjectKey, asks.given,
    if_neg (Nat.not_lt.mpr asks.short), asks.one_way, first_eq, second_eq, Bool.false_eq_true,
    if_false]
  split
  · rfl
  · cases tee.derives.head <;> rfl

theorem files_of_not_asked (silent : ∀ id, ¬ AsksHost tee objectID flags id) :
    (openPersistentObjectOn openPath keys tee objectID flags ocreat).2.host.files =
      tee.host.files := by
  cases objectID with
  | none => rfl
  | some id =>
      unfold openPersistentObjectOn Enclave.malloc
      dsimp only
      split
      · rfl
      rename_i short
      split
      · rfl
      rename_i one_way
      cases first : tee.mallocs.head with
      | none => rfl
      | some _ =>
          dsimp only
          cases second : tee.mallocs.tail.head with
          | none => rfl
          | some _ =>
              exact absurd ⟨rfl, Nat.not_lt.mp short, Bool.eq_false_iff.mpr one_way,
                by simp [first], by simp [second]⟩ (silent id)

end Files

/-- What a granted flag word without write access does to the file. -/
theorem Opener.alters_iff (opener : Opener) {host : Host} {path : Bytes} {flags : UInt32}
    (not_write : hasFlag flags teeDataFlagAccessWrite = false)
    (granted : ¬ (opener.openPath host path (openFlags flags false)).1 < 0) :
    (opener.openPath host path (openFlags flags false)).2.files ≠ host.files ↔
      (hasFlag flags teeDataFlagAccessRead = true → hasFlag flags teeDataFlagOverwrite = true) ∧
        host.files path ≠ some [] := by
  obtain ⟨allowed, files_eq⟩ := opener.granted host path (openFlags flags false) granted
  rw [files_eq, Ne, Function.update_eq_self_iff]
  cases read : hasFlag flags teeDataFlagAccessRead with
  | true =>
      obtain ⟨_, trunc, creat⟩ := openFlags_read not_write read false
      rw [creat] at allowed
      obtain ⟨stored, present⟩ :=
        Option.isSome_iff_exists.mp (allowed.resolve_left Bool.false_ne_true)
      rw [trunc, Host.content, present]
      cases hasFlag flags teeDataFlagOverwrite with
      | false => simp
      | true => simp
  | false =>
      have word : openFlags flags false = 0xFFFFFFFF := by
        simp [openFlags, flags2flags, not_write, read]
      have trunc : hasFlag 0xFFFFFFFF oTrunc = true := by decide
      rw [word, trunc]
      simpa using ne_comm

/-- Opening without write access changes the files exactly when it alters the named one. -/
theorem files_openPersistentObjectOn_iff (opener : Opener) (keys : KeyDerivation)
    (tee : Enclave lib) (objectID : Option Bytes) {flags : UInt32}
    (not_write : hasFlag flags teeDataFlagAccessWrite = false) :
    (openPersistentObjectOn opener.openPath keys tee objectID flags false).2.host.files =
        tee.host.files ↔
      ∀ id, ¬ Alters opener tee objectID flags id := by
  constructor
  · intro same id alters
    rw [files_of_asked opener.openPath keys false alters.asks] at same
    exact (opener.alters_iff not_write alters.granted).mpr ⟨alters.overwrites, alters.differs⟩ same
  · intro kept
    by_cases asked : ∃ id, AsksHost tee objectID flags id
    · obtain ⟨id, asks⟩ := asked
      rw [files_of_asked opener.openPath keys false asks]
      by_cases refused : (opener.openPath tee.host (cString id) (openFlags flags false)).1 < 0
      · exact opener.refused _ _ _ refused
      · by_contra changed
        obtain ⟨overwrites, differs⟩ := (opener.alters_iff not_write refused).mp changed
        exact kept id ⟨asks, refused, overwrites, differs⟩
    · exact files_of_not_asked opener.openPath keys false fun id asks => asked ⟨id, asks⟩

/-! ## Reading and closing -/

theorem Host.files_read (host : Host) (fd : Int) (count : Nat) :
    (host.read fd count).2.files = host.files := by
  unfold read
  split
  · rfl
  · split
    · split
      · rfl
      · exact files_advance host.nextTransfer fd _
    · rfl

theorem Host.files_close (host : Host) (fd : Int) : (host.close fd).2.files = host.files := by
  unfold close
  split <;> rfl

theorem files_teeCloseObject (tee : Enclave lib) (object : Option Nat) :
    (teeCloseObject tee object).2.host.files = tee.host.files := by
  unfold teeCloseObject
  cases tee.persistent? object with
  | none => rfl
  | some handle =>
      have kept := tee.host.files_close handle.desc
      rcases closed : tee.host.close handle.desc with ⟨retval, host⟩
      rw [closed] at kept
      simp only [Enclave.setObject, closed]
      split <;> exact kept

/-- Reads leave the files, whatever the handle is. -/
theorem Platform.files_reads (platform : Platform) (tee : Enclave lib) (object : Option Nat)
    (reads : List (Bytes × Nat)) :
    (Machine.final platform.perform tee
      (reads.map fun request => .read object request.1 request.2)).host.files = tee.host.files := by
  induction reads generalizing tee with
  | nil => rfl
  | cons request reads ih =>
      rw [List.map_cons, Machine.final_cons, ih]
      exact @readObjectData_keeps lib platform (fun host => host.files = tee.host.files)
        (fun host fd count same => (host.files_read fd count).trans same) tee rfl object request.1
        request.2

/-- An opening without write access, and what is done through its handle, leaves all objects unless
the opening itself alters the named one. -/
theorem read_only_open_iff (platform : Platform) (opener : Opener) (tee : Enclave lib)
    (objectID : Option Bytes) {flags : UInt32}
    (not_write : hasFlag flags teeDataFlagAccessWrite = false) :
    platform.LeavesObjects opener tee objectID flags ↔
      ∀ id, ¬ Alters opener tee objectID flags id := by
  rw [← files_openPersistentObjectOn_iff opener platform.keys tee objectID not_write]
  constructor
  · exact fun leaves => leaves.1
  · intro kept
    refine ⟨kept, fun object _ reads => ?_⟩
    have left := (platform.files_reads _ (some object) reads).trans kept
    exact ⟨left, (files_teeCloseObject _ (some object)).trans left⟩

theorem read_only_open_iff_published :
    Platform.publishedKeystone.LeavesObjects .linux
        (Enclave.start (.reference vectorCipher) (.storing [1, 2, 3] (Stream'.const (.move 16))))
        (some [97]) teeDataFlagAccessRead ↔
      ∀ id, ¬ Alters .linux
        (Enclave.start (.reference vectorCipher) (.storing [1, 2, 3] (Stream'.const (.move 16))))
        (some [97]) teeDataFlagAccessRead id :=
  read_only_open_iff _ _ _ _ (by decide)

/-- Opening a stored object for reading with the overwrite flag empties it. -/
theorem read_only_open_truncates :
    let tee : Enclave (.reference vectorCipher) :=
      .start _ (.storing [1, 2, 3] (Stream'.const (.move 16)))
    let opening := teeOpenPersistentObject Platform.publishedKeystone.keys tee (some [97])
      (teeDataFlagAccessRead ||| teeDataFlagOverwrite)
    opening.1 = (.success, some 0) ∧ tee.host.content [97] = [1, 2, 3] ∧
      opening.2.host.content [97] = [] ∧
      ¬ Platform.publishedKeystone.LeavesObjects .linux tee (some [97])
        (teeDataFlagAccessRead ||| teeDataFlagOverwrite) := by
  intro tee opening
  have emptied : opening.2.host.content [97] = [] := rfl
  refine ⟨rfl, rfl, emptied, fun leaves => ?_⟩
  have same : opening.2.host.content [97] = tee.host.content [97] :=
    congrArg (fun stored : Option Bytes => stored.getD []) (congrFun leaves.1 [97])
  rw [emptied] at same
  exact absurd same (by decide)

end TaRef
