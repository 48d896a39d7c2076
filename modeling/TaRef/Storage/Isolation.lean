import TaRef.Storage.StaleHandle

/-!
# Objects of different identifiers

The host knows an object by the path that `open` was given, which ends at the first zero byte of the
identifier.  A call on one object neither changes the file of another path nor depends on it: it
does the same when that file is replaced.  This holds along every run that uses no closed handle, so
two identifiers are kept apart exactly when their C strings differ.
-/

namespace TaRef

/-- The host with one file replaced. -/
def Host.withFile (host : Host) (path : Bytes) (stored : Option Bytes) : Host :=
  { host with files := Function.update host.files path stored }

/-- Path of the file behind a descriptor. -/
def Host.pathOf (host : Host) (fd : Int) : Option Bytes := (host.openFile? fd).map OpenFile.path

namespace Host

variable {host : Host} {fd : Int} {path : Bytes} {stored : Option Bytes}

@[simp]
theorem openFile?_withFile (host : Host) (path : Bytes) (stored : Option Bytes) (fd : Int) :
    (host.withFile path stored).openFile? fd = host.openFile? fd :=
  openFile?_update_files host _ fd

theorem withFile_self (host : Host) (path : Bytes) :
    host.withFile path (host.files path) = host := by
  simp [withFile]

theorem content_withFile_ne {other : Bytes} (different : other ≠ path) :
    (host.withFile path stored).content other = host.content other := by
  simp [content, withFile, Function.update_of_ne different]

theorem path_ne_of_pathOf {file : OpenFile} (apart : host.pathOf fd ≠ some path)
    (opened : host.openFile? fd = some file) : file.path ≠ path := by
  rintro rfl
  exact apart (by simp [pathOf, opened])

theorem deliver_withFile (apart : host.pathOf fd ≠ some path) (bytes : Bytes) :
    (host.withFile path stored).deliver fd bytes =
      (host.deliver fd bytes).withFile path stored := by
  cases opened : host.openFile? fd with
  | none => simp [deliver, opened]
  | some file =>
      have different := path_ne_of_pathOf apart opened
      by_cases bytes_nil : bytes = []
      · simp [bytes_nil]
      · have opened_with := (openFile?_withFile host path stored fd).trans opened
        rw [deliver_of_ne opened bytes_nil, deliver_of_ne opened_with bytes_nil,
          content_withFile_ne different]
        simp only [setOpenFile, withFile, Function.update_comm different.symm]

theorem advance_withFile (host : Host) (fd : Int) (path : Bytes) (stored : Option Bytes)
    (count : Nat) :
    (host.withFile path stored).advance fd count =
      (host.advance fd count).withFile path stored := by
  cases opened : host.openFile? fd with
  | none => simp [advance, opened]
  | some file =>
      rw [advance_of_some opened, advance_of_some ((openFile?_withFile _ _ _ _).trans opened)]
      rfl

theorem write_withFile (host : Host) (apart : host.pathOf fd ≠ some path) (stored : Option Bytes)
    (chunk : Bytes) :
    (host.withFile path stored).write fd chunk =
      ((host.write fd chunk).1, (host.write fd chunk).2.withFile path stored) := by
  unfold write
  rw [openFile?_withFile]
  cases opened : host.openFile? fd with
  | none => rfl
  | some file =>
      dsimp only
      split
      · rw [show (host.withFile path stored).transfers = host.transfers from rfl]
        cases host.transfers.head with
        | refuse code => rfl
        | move amount =>
            have apart_next : host.nextTransfer.pathOf fd ≠ some path := by
              simpa [pathOf] using apart
            exact congrArg (Prod.mk _) (deliver_withFile apart_next (chunk.take amount))
      · rfl

theorem read_withFile (host : Host) (apart : host.pathOf fd ≠ some path) (stored : Option Bytes)
    (count : Nat) :
    (host.withFile path stored).read fd count =
      ((host.read fd count).1, (host.read fd count).2.withFile path stored) := by
  unfold read
  rw [openFile?_withFile]
  cases opened : host.openFile? fd with
  | none => rfl
  | some file =>
      have different := path_ne_of_pathOf apart opened
      have same : (host.withFile path stored).remaining file = host.remaining file := by
        rw [remaining, content_withFile_ne different, remaining]
      dsimp only
      split
      · rw [same, show (host.withFile path stored).transfers = host.transfers from rfl]
        cases host.transfers.head with
        | refuse code => rfl
        | move amount => exact congrArg (Prod.mk _) (advance_withFile host.nextTransfer _ _ _ _)
      · rfl

theorem close_withFile (host : Host) (path : Bytes) (stored : Option Bytes) (fd : Int) :
    (host.withFile path stored).close fd =
      ((host.close fd).1, (host.close fd).2.withFile path stored) := by
  unfold close
  rw [openFile?_withFile]
  cases host.openFile? fd <;> rfl

theorem openPath_withFile {other : Bytes} (different : other ≠ path) (flags : UInt32) :
    (host.withFile path stored).openPath other flags =
      ((host.openPath other flags).1, (host.openPath other flags).2.withFile path stored) := by
  have same : (host.withFile path stored).files other = host.files other :=
    Function.update_of_ne different _ _
  have kept : (host.withFile path stored).content other = host.content other :=
    content_withFile_ne different
  have opens_eq : (host.withFile path stored).opens = host.opens := rfl
  rw [openPath, openPath, kept, same, opens_eq]
  by_cases denied : (flags &&& 3 == 3 || !host.opens.head) = true
  · rw [if_pos denied, if_pos denied]
    rfl
  · rw [if_neg denied, if_neg denied]
    by_cases missing : (!hasFlag flags oCreat && (host.files other).isNone) = true
    · rw [if_pos missing, if_pos missing]
      rfl
    · rw [if_neg missing, if_neg missing]
      simp only [withFile, Function.update_comm different.symm]

/-! ## Paths behind descriptors -/

theorem pathOf_deliver (bytes : Bytes) (other : Int) :
    (host.deliver fd bytes).pathOf other = host.pathOf other := by
  by_cases same : other = fd
  · subst same
    cases opened : host.openFile? other with
    | none => simp [deliver, opened]
    | some file => simp [pathOf, openFile?_deliver_self opened, opened]
  · simp [pathOf, openFile?_deliver_ne bytes same]

theorem pathOf_advance (count : Nat) (other : Int) :
    (host.advance fd count).pathOf other = host.pathOf other := by
  by_cases same : other = fd
  · subst same
    cases opened : host.openFile? other with
    | none => simp [advance, opened]
    | some file => simp [pathOf, openFile?_advance_self opened, opened]
  · simp [pathOf, openFile?_advance_ne count same]

@[simp]
theorem pathOf_nextTransfer (other : Int) : host.nextTransfer.pathOf other = host.pathOf other := by
  simp [pathOf]

/-- A transfer keeps the path behind every descriptor. -/
theorem pathOf_write (chunk : Bytes) (other : Int) :
    (host.write fd chunk).2.pathOf other = host.pathOf other := by
  unfold write
  split
  · rfl
  · split
    · split
      · exact pathOf_nextTransfer other
      · exact (pathOf_deliver _ other).trans (pathOf_nextTransfer other)
    · rfl

theorem pathOf_read (count : Nat) (other : Int) :
    (host.read fd count).2.pathOf other = host.pathOf other := by
  unfold read
  split
  · rfl
  · split
    · split
      · exact pathOf_nextTransfer other
      · exact (pathOf_advance _ other).trans (pathOf_nextTransfer other)
    · rfl

theorem pathOf_eq_some {path : Bytes} :
    host.pathOf fd = some path ↔ ∃ file, host.openFile? fd = some file ∧ file.path = path := by
  simp [pathOf]

/-- Opening a file keeps the paths behind the descriptors in use. -/
theorem pathOf_openPath {path opening : Bytes} (opened : host.pathOf fd = some path)
    (flags : UInt32) : (host.openPath opening flags).2.pathOf fd = some path := by
  have different : fd ≠ (host.openPath opening flags).1 := by
    rintro rfl
    by_cases granted : 0 ≤ (host.openPath opening flags).1
    · rw [pathOf, openFile?_openPath_fresh granted] at opened
      exact nomatch opened
    · rw [openPath_refused granted] at opened
      exact nomatch opened
  rw [pathOf, openFile?_openPath_ne different]
  exact opened

theorem pathOf_openPath_self {opening : Bytes} {flags : UInt32}
    (granted : 0 ≤ (host.openPath opening flags).1) :
    (host.openPath opening flags).2.pathOf (host.openPath opening flags).1 = some opening := by
  rw [pathOf, openFile?_openPath_self granted]
  rfl

end Host

/-! ## The loops -/

/-- A loop over states that are mapped to each other step by step. -/
theorem transferLoop_map {σ : Type*} {transfer : σ → Int → Nat → Int × σ} (mapped : σ → σ)
    (good : σ → Prop)
    (step : ∀ state offset left, good state →
      transfer (mapped state) offset left =
          ((transfer state offset left).1, mapped (transfer state offset left).2) ∧
        good (transfer state offset left).2)
    (count fuel : Nat) (offset : Int) {state : σ} (initial : good state) :
    transferLoop transfer count fuel offset (mapped state) =
        (transferLoop transfer count fuel offset state).map (fun result =>
          (result.1, mapped result.2)) ∧
      ∀ result, transferLoop transfer count fuel offset state = some result → good result.2 := by
  induction fuel generalizing offset state with
  | zero => exact ⟨rfl, fun result ended => nomatch ended⟩
  | succ fuel ih =>
      obtain ⟨mapped_eq, good_next⟩ := step state offset (sizeSub count offset) initial
      rcases transferred : transfer state offset (sizeSub count offset) with ⟨n, next⟩
      rw [transferred] at mapped_eq good_next
      rw [transferLoop_fuel_succ, transferLoop_fuel_succ]
      simp only [mapped_eq, transferred]
      by_cases count_pos : count > 0
      · rw [if_pos count_pos, if_pos count_pos]
        by_cases more : n > 0
        · rw [if_pos more, if_pos more]
          exact ih (wrapInt (offset + n)) good_next
        · rw [if_neg more, if_neg more]
          split_ifs
          · exact ⟨rfl, fun result ended => (Option.some.inj ended) ▸ good_next⟩
          · exact ⟨rfl, fun result ended => (Option.some.inj ended) ▸ good_next⟩
          · exact ⟨rfl, fun result ended => (Option.some.inj ended) ▸ good_next⟩
      · rw [if_neg count_pos, if_neg count_pos]
        exact ⟨rfl, fun result ended => (Option.some.inj ended) ▸ initial⟩

/-- What every transfer of a loop keeps, the loop keeps. -/
theorem transferLoop_keeps {σ : Type*} {transfer : σ → Int → Nat → Int × σ} (good : σ → Prop)
    (step : ∀ state offset left, good state → good (transfer state offset left).2)
    {count fuel : Nat} {offset : Int} {state : σ} (initial : good state) {result : Int × σ}
    (ended : transferLoop transfer count fuel offset state = some result) : good result.2 :=
  (transferLoop_map id good (fun state offset left holds =>
    ⟨rfl, step state offset left holds⟩) count fuel offset initial).2 result ended

section Ocalls

variable {host : Host} {fd : Int} {path : Bytes} {stored : Option Bytes}

namespace Keyedge

/-- `ocall_read_file` hands on the reply of one `read` and copies what it counts. -/
theorem ocallReadFile_eq (fd : Int) (buf : Bytes) (count : Nat) :
    ∃ (request : Nat) (copy : Int × Bytes → Bytes), ∀ host : Host,
      ocallReadFile host fd buf count =
        ((host.read fd request).1.1, (host.read fd request).2, copy (host.read fd request).1) := by
  refine ⟨if count % 2 ^ 32 > 256 then 256 else count % 2 ^ 32, fun reply =>
    if reply.1 > 0 then
      overwrite buf 0 ((reply.2 ++ List.replicate (256 - reply.2.length) 0).take reply.1.toNat)
    else buf, fun host => ?_⟩
  unfold ocallReadFile ocallReadFile256
  dsimp only
  rcases host.read fd (if count % 2 ^ 32 > 256 then 256 else count % 2 ^ 32) with
    ⟨⟨n, bytes⟩, next⟩
  dsimp only
  split <;> rfl

theorem ocallReadFile_withFile (apart : host.pathOf fd ≠ some path) (buf : Bytes) (count : Nat) :
    ocallReadFile (host.withFile path stored) fd buf count =
      ((ocallReadFile host fd buf count).1,
        (ocallReadFile host fd buf count).2.1.withFile path stored,
        (ocallReadFile host fd buf count).2.2) := by
  obtain ⟨request, copy, reads⟩ := ocallReadFile_eq fd buf count
  rw [reads, reads, host.read_withFile apart]

/-- What a `read` of the host keeps, `ocall_read_file` keeps. -/
theorem ocallReadFile_keeps {good : Host → Prop}
    (read : ∀ host count, good host → good (host.read fd count).2) (holds : good host) (buf : Bytes)
    (count : Nat) : good (ocallReadFile host fd buf count).2.1 := by
  obtain ⟨request, copy, reads⟩ := ocallReadFile_eq fd buf count
  rw [reads]
  exact read host request holds

theorem pathOf_ocallReadFile (host : Host) (fd : Int) (buf : Bytes) (count : Nat) (other : Int) :
    (ocallReadFile host fd buf count).2.1.pathOf other = host.pathOf other :=
  @ocallReadFile_keeps host fd (fun after => after.pathOf other = host.pathOf other)
    (fun _ count same => (Host.pathOf_read count other).trans same) rfl buf count

theorem ocallWriteFileFull_withFile (apart : host.pathOf fd ≠ some path) (buf : Bytes)
    (count : Nat) :
    ocallWriteFileFull (host.withFile path stored) fd buf count =
      (ocallWriteFileFull host fd buf count).map fun result =>
        (result.1, result.2.withFile path stored) := by
  refine (transferLoop_map (fun host : Host => host.withFile path stored)
    (fun host => host.pathOf fd ≠ some path) ?_ count (count + 1) 0 apart).1
  intro state offset left away
  refine ⟨state.write_withFile away stored _, ?_⟩
  rw [ocallWriteFile, ocallWriteFile256, Host.pathOf_write]
  exact away

theorem pathOf_ocallWriteFileFull {buf : Bytes} {count : Nat} {result : Int × Host}
    (ended : ocallWriteFileFull host fd buf count = some result) (other : Int) :
    result.2.pathOf other = host.pathOf other :=
  transferLoop_keeps (fun state => state.pathOf other = host.pathOf other)
    (fun _ _ _ same => (Host.pathOf_write _ other).trans same) rfl ended

theorem ocallReadFileFull_withFile (apart : host.pathOf fd ≠ some path) (buf : Bytes)
    (count : Nat) :
    ocallReadFileFull (host.withFile path stored) fd buf count =
      (ocallReadFileFull host fd buf count).map fun result =>
        (result.1, result.2.1.withFile path stored, result.2.2) := by
  refine (transferLoop_map (fun state : Host × Bytes => (state.1.withFile path stored, state.2))
    (fun state => state.1.pathOf fd ≠ some path) ?_ count (count + 1) 0
    (show (host, buf).1.pathOf fd ≠ some path from apart)).1
  intro state offset left away
  refine ⟨?_, fun same => away ((pathOf_ocallReadFile _ _ _ _ fd).symm.trans same)⟩
  simp only [ocallReadFile_withFile away]

end Keyedge

namespace Platform

variable (platform : Platform)

theorem ocallWrite_withFile (apart : host.pathOf fd ≠ some path) (data : Bytes) (size : Nat) :
    platform.ocallWrite (host.withFile path stored) fd data size =
      (platform.ocallWrite host fd data size).map fun result =>
        (result.1, result.2.withFile path stored) := by
  cases platform with
  | keystone attestEnclave => exact Keyedge.ocallWriteFileFull_withFile apart data size
  | sgx reportKey sealKey sha3 =>
      simp only [ocallWrite, Sgx.ocallWriteFile, host.write_withFile apart]
      rfl

theorem pathOf_ocallWrite {data : Bytes} {size : Nat} {result : Int × Host}
    (ended : platform.ocallWrite host fd data size = some result) (other : Int) :
    result.2.pathOf other = host.pathOf other := by
  cases platform with
  | keystone attestEnclave => exact Keyedge.pathOf_ocallWriteFileFull ended other
  | sgx reportKey sealKey sha3 =>
      obtain rfl := Option.some.inj ended
      exact Host.pathOf_write data other

theorem ocallRead_withFile (apart : host.pathOf fd ≠ some path) (buffer : Bytes) (size : Nat) :
    platform.ocallRead (host.withFile path stored) fd buffer size =
      (platform.ocallRead host fd buffer size).map fun result =>
        (result.1, result.2.1.withFile path stored, result.2.2) := by
  cases platform with
  | keystone attestEnclave => exact Keyedge.ocallReadFileFull_withFile apart buffer size
  | sgx reportKey sealKey sha3 =>
      simp only [ocallRead, Sgx.ocallReadFile, host.read_withFile apart]
      rfl

/-- What a `read` of the host keeps, the ocalls of a read keep. -/
theorem ocallRead_keeps {good : Host → Prop}
    (read : ∀ host count, good host → good (host.read fd count).2) (holds : good host)
    {buffer : Bytes} {size : Nat} {result : Int × Host × Bytes}
    (ended : platform.ocallRead host fd buffer size = some result) : good result.2.1 := by
  cases platform with
  | keystone attestEnclave =>
      have kept : Keyedge.ocallReadFileFull host fd buffer size = some result := ended
      rw [Keyedge.ocallReadFileFull_eq] at kept
      refine transferLoop_keeps (fun state : Host × Bytes => good state.1) ?_
        (show good (host, buffer).1 from holds) kept
      exact fun state offset left same => Keyedge.ocallReadFile_keeps read same _ left
  | sgx reportKey sealKey sha3 =>
      obtain rfl := Option.some.inj ended
      exact read host size holds

end Platform

end Ocalls

/-! ## Calls on one object -/

variable {lib : Mbedtls}

/-- The state with one file of the host replaced. -/
def Enclave.withFile (tee : Enclave lib) (path : Bytes) (stored : Option Bytes) : Enclave lib :=
  { tee with host := tee.host.withFile path stored }

theorem decryptInto_withFile (tee : Enclave lib) (object : Option Nat) (handle : StoredObject lib)
    (buffer : Bytes) (size : Nat) (path : Bytes) (stored : Option Bytes) :
    decryptInto (tee.withFile path stored) object handle buffer size =
      ((decryptInto tee object handle buffer size).1,
        (decryptInto tee object handle buffer size).2.withFile path stored) := by
  unfold decryptInto Enclave.malloc
  rw [show (tee.withFile path stored).mallocs = tee.mallocs from rfl]
  cases tee.mallocs.head <;> rfl

theorem host_decryptInto (tee : Enclave lib) (object : Option Nat) (handle : StoredObject lib)
    (buffer : Bytes) (size : Nat) :
    (decryptInto tee object handle buffer size).2.host = tee.host := by
  unfold decryptInto Enclave.malloc
  cases tee.mallocs.head <;> rfl

section Calls

variable (platform : Platform) {tee : Enclave lib} {object : Option Nat} {path : Bytes}

@[simp]
theorem host_withFile (tee : Enclave lib) (path : Bytes) (stored : Option Bytes) :
    (tee.withFile path stored).host = tee.host.withFile path stored := rfl

@[simp]
theorem mallocs_withFile (tee : Enclave lib) (path : Bytes) (stored : Option Bytes) :
    (tee.withFile path stored).mallocs = tee.mallocs := rfl

@[simp]
theorem persistent?_withFile (tee : Enclave lib) (path : Bytes) (stored : Option Bytes)
    (object : Option Nat) :
    (tee.withFile path stored).persistent? object = tee.persistent? object := rfl

/-- A handle does not refer to the file of a path. -/
def Enclave.Apart (tee : Enclave lib) (object : Option Nat) (path : Bytes) : Prop :=
  ∀ handle, tee.persistent? object = some handle → tee.host.pathOf handle.desc ≠ some path

theorem writeObjectData_withFile (apart : tee.Apart object path) (buffer : Bytes)
    (stored : Option Bytes) :
    platform.writeObjectData (tee.withFile path stored) object buffer =
      ((platform.writeObjectData tee object buffer).1,
        (platform.writeObjectData tee object buffer).2.withFile path stored) := by
  rw [Platform.writeObjectData_eq, Platform.writeObjectData_eq, persistent?_withFile,
    mallocs_withFile]
  cases found : tee.persistent? object with
  | none => rfl
  | some handle =>
      dsimp only
      split
      · rfl
      · cases tee.mallocs.head with
        | none => rfl
        | some residue =>
            simp only [Platform.send, Enclave.setObject, host_withFile,
              platform.ocallWrite_withFile (apart handle found)]
            cases platform.ocallWrite tee.host handle.desc _ buffer.length with
            | none => rfl
            | some result => rfl

theorem readObjectData_withFile (apart : tee.Apart object path) (buffer : Bytes) (size : Nat)
    (stored : Option Bytes) :
    platform.readObjectData (tee.withFile path stored) object buffer size =
      ((platform.readObjectData tee object buffer size).1,
        (platform.readObjectData tee object buffer size).2.withFile path stored) := by
  rw [Platform.readObjectData_eq, Platform.readObjectData_eq, persistent?_withFile]
  cases found : tee.persistent? object with
  | none => rfl
  | some handle =>
      dsimp only
      split
      · rfl
      · simp only [Platform.receive, host_withFile,
          platform.ocallRead_withFile (apart handle found)]
        cases platform.ocallRead tee.host handle.desc buffer size with
        | none => rfl
        | some result =>
            obtain ⟨retval, host, read⟩ := result
            dsimp only [Option.map_some]
            split
            · rfl
            · split
              · rfl
              · split
                · rfl
                · exact decryptInto_withFile { tee with host } object handle read _ path stored

theorem teeCloseObject_withFile (tee : Enclave lib) (object : Option Nat) (path : Bytes)
    (stored : Option Bytes) :
    teeCloseObject (tee.withFile path stored) object =
      ((teeCloseObject tee object).1, (teeCloseObject tee object).2.withFile path stored) := by
  unfold teeCloseObject
  rw [persistent?_withFile]
  cases tee.persistent? object with
  | none => rfl
  | some handle =>
      rcases reply : tee.host.close handle.desc with ⟨retval, host⟩
      have replaced := tee.host.close_withFile path stored handle.desc
      rw [reply] at replaced
      simp only [Enclave.setObject, host_withFile, reply, replaced]
      split <;> rfl

theorem openPersistentObject_withFile (keys : KeyDerivation) (tee : Enclave lib)
    {objectID : Option Bytes} (different : ∀ id, objectID = some id → cString id ≠ path)
    (flags : UInt32) (ocreat : Bool) (stored : Option Bytes) :
    openPersistentObject keys (tee.withFile path stored) objectID flags ocreat =
      ((openPersistentObject keys tee objectID flags ocreat).1,
        (openPersistentObject keys tee objectID flags ocreat).2.withFile path stored) := by
  cases objectID with
  | none => rfl
  | some id =>
      have opens : ∀ flags, (tee.host.withFile path stored).openPath (cString id) flags =
          ((tee.host.openPath (cString id) flags).1,
            (tee.host.openPath (cString id) flags).2.withFile path stored) :=
        fun flags => Host.openPath_withFile (different id rfl) flags
      unfold openPersistentObject openPersistentObjectOn Enclave.malloc setObjectKey
      rw [mallocs_withFile]
      dsimp only
      split
      · rfl
      split
      · rfl
      cases tee.mallocs.head with
      | none => rfl
      | some _ =>
          dsimp only
          cases tee.mallocs.tail.head with
          | none => rfl
          | some _ =>
              simp only [host_withFile, opens]
              split
              · rfl
              · rw [show (tee.withFile path stored).derives = tee.derives from rfl]
                cases tee.derives.head <;> rfl

/-- A write keeps the path behind every descriptor. -/
theorem pathOf_writeObjectData (tee : Enclave lib) (object : Option Nat) (buffer : Bytes)
    (other : Int) :
    (platform.writeObjectData tee object buffer).2.host.pathOf other = tee.host.pathOf other := by
  rw [Platform.writeObjectData_eq]
  cases tee.persistent? object with
  | none => rfl
  | some handle =>
      dsimp only
      split
      · rfl
      · cases tee.mallocs.head with
        | none => rfl
        | some residue =>
            dsimp only [Platform.send, Enclave.setObject]
            split
            · rfl
            · rename_i ended
              exact platform.pathOf_ocallWrite ended other

/-- What a `read` of the host keeps, a read of an object keeps. -/
theorem readObjectData_keeps {good : Host → Prop}
    (read : ∀ host fd count, good host → good (host.read fd count).2) (tee : Enclave lib)
    (holds : good tee.host) (object : Option Nat) (buffer : Bytes) (size : Nat) :
    good (platform.readObjectData tee object buffer size).2.host := by
  rw [Platform.readObjectData_eq]
  cases tee.persistent? object with
  | none => exact holds
  | some handle =>
      dsimp only
      split
      · exact holds
      · unfold Platform.receive
        split
        · exact holds
        · rename_i ended
          have kept := platform.ocallRead_keeps (fun host => read host handle.desc) holds ended
          split
          · exact kept
          · split
            · exact kept
            · split
              · exact kept
              · rw [host_decryptInto]
                exact kept

/-- A read keeps the path behind every descriptor. -/
theorem pathOf_readObjectData (tee : Enclave lib) (object : Option Nat) (buffer : Bytes)
    (size : Nat) (other : Int) :
    (platform.readObjectData tee object buffer size).2.host.pathOf other =
      tee.host.pathOf other :=
  @readObjectData_keeps lib platform (fun after => after.pathOf other = tee.host.pathOf other)
    (fun _ _ count same => (Host.pathOf_read count other).trans same) tee rfl object buffer size

end Calls

/-! ## Steps -/

/-- What a call hands back and leaves behind, also where it panics. -/
def Platform.perform (platform : Platform) (tee : Enclave lib) :
    StorageCall → StorageOutput × Enclave lib
  | .create objectID flags =>
      let ((result, object), tee) := teeCreatePersistentObject platform.keys tee objectID flags
      (.opened result object, tee)
  | .open objectID flags =>
      let ((result, object), tee) := teeOpenPersistentObject platform.keys tee objectID flags
      (.opened result object, tee)
  | .write object buffer =>
      let (exit, tee) := platform.writeObjectData tee object buffer
      (.written exit, tee)
  | .read object buffer size =>
      let (call, tee) := platform.readObjectData tee object buffer size
      (.read call, tee)
  | .close object =>
      let (exit, tee) := teeCloseObject tee object
      (.closed exit, tee)

theorem Platform.survive_eq_some {α : Type} {exit : Exit α} {tee after : Enclave lib}
    (survived : survive exit tee = some after) : tee = after := by
  cases exit with
  | returned _ => exact Option.some.inj survived
  | panicked => exact nomatch survived
  | running => exact nomatch survived

/-- The machine takes the call as performed, unless it stops. -/
theorem Platform.step_eq_perform (platform : Platform) (tee : Enclave lib) (call : StorageCall) :
    (platform.step (some tee) call).1 = (platform.perform tee call).1 ∧
      ∀ after, (platform.step (some tee) call).2 = some after →
        (platform.perform tee call).2 = after := by
  cases call with
  | create objectID flags => exact ⟨rfl, fun _ survived => Option.some.inj survived⟩
  | «open» objectID flags => exact ⟨rfl, fun _ survived => Option.some.inj survived⟩
  | write object buffer => exact ⟨rfl, fun _ survived => survive_eq_some survived⟩
  | read object buffer size => exact ⟨rfl, fun _ survived => survive_eq_some survived⟩
  | close object => exact ⟨rfl, fun _ survived => survive_eq_some survived⟩

/-- A call leaves the file of a path as it is, and does the same whatever that file is. -/
structure Platform.Isolated (platform : Platform) (path : Bytes) (tee : Enclave lib)
    (call : StorageCall) : Prop where
  kept : (platform.perform tee call).2.host.files path = tee.host.files path
  unseen : ∀ stored, platform.perform (tee.withFile path stored) call =
    ((platform.perform tee call).1, (platform.perform tee call).2.withFile path stored)

/-- What does not depend on a file does not change it. -/
theorem Platform.Isolated.of_unseen {platform : Platform} {path : Bytes} {tee : Enclave lib}
    {call : StorageCall}
    (unseen : ∀ stored, platform.perform (tee.withFile path stored) call =
      ((platform.perform tee call).1, (platform.perform tee call).2.withFile path stored)) :
    platform.Isolated path tee call where
  unseen
  kept := by
    have same := congrArg (fun result => result.2.host.files path)
      (unseen (tee.host.files path))
    rw [Enclave.withFile, Host.withFile_self] at same
    exact same.trans (Function.update_self _ _ _)

section Isolated

variable (platform : Platform) {tee : Enclave lib} {path : Bytes}

theorem Platform.isolated_opening {objectID : Option Bytes}
    (different : ∀ id, objectID = some id → cString id ≠ path) (flags : UInt32) :
    platform.Isolated path tee (.create objectID flags) ∧
      platform.Isolated path tee (.open objectID flags) := by
  constructor
  · refine .of_unseen fun stored => ?_
    simp only [perform, teeCreatePersistentObject, openPersistentObject_withFile _ _ different]
  · refine .of_unseen fun stored => ?_
    simp only [perform, teeOpenPersistentObject, openPersistentObject_withFile _ _ different]

theorem Platform.isolated_write {object : Option Nat} (apart : tee.Apart object path)
    (buffer : Bytes) : platform.Isolated path tee (.write object buffer) := by
  refine .of_unseen fun stored => ?_
  simp only [perform, writeObjectData_withFile platform apart]

theorem Platform.isolated_read {object : Option Nat} (apart : tee.Apart object path)
    (buffer : Bytes) (size : Nat) : platform.Isolated path tee (.read object buffer size) := by
  refine .of_unseen fun stored => ?_
  simp only [perform, readObjectData_withFile platform apart]

theorem Platform.isolated_close (object : Option Nat) :
    platform.Isolated path tee (.close object) := by
  refine .of_unseen fun stored => ?_
  simp only [perform, teeCloseObject_withFile]

end Isolated

/-! ## Runs -/

/-- What became of each handle of a run: the identifier it is open for, or that it was closed. -/
abbrev Ledger := Nat → Option (Option Bytes)

namespace Ledger

/-- Note an opening or a closing. -/
def observe (ledger : Ledger) : StorageCall → StorageOutput → Ledger
  | .create (some id) _, .opened _ (some index) => Function.update ledger index (some (some id))
  | .open (some id) _, .opened _ (some index) => Function.update ledger index (some (some id))
  | .close (some index), .closed (.returned ()) => Function.update ledger index (some none)
  | _, _ => ledger

/-- The identifier for which a handle is open. -/
def holder (ledger : Ledger) (object : Option Nat) : Option Bytes := (object.bind ledger).join

/-- The identifier that a call is about. -/
def named (ledger : Ledger) : StorageCall → Option Bytes
  | .create objectID _ => objectID
  | .open objectID _ => objectID
  | .write object _ => ledger.holder object
  | .read object _ _ => ledger.holder object
  | .close object => ledger.holder object

/-- The call goes through `NULL` or a handle that is open. -/
def InUse (ledger : Ledger) : StorageCall → Prop
  | .write object _ => object = none ∨ (ledger.holder object).isSome = true
  | .read object _ _ => object = none ∨ (ledger.holder object).isSome = true
  | .close object => object = none ∨ (ledger.holder object).isSome = true
  | _ => True

/-- Creating and opening are noted in the same way. -/
theorem observe_create (ledger : Ledger) (objectID : Option Bytes) (flags : UInt32)
    (result : TeeResult) (object : Option Nat) :
    ledger.observe (.create objectID flags) (.opened result object) =
      ledger.observe (.open objectID flags) (.opened result object) := by
  cases objectID <;> cases object <;> rfl

theorem holder_eq_some {ledger : Ledger} {object : Option Nat} {id : Bytes} :
    ledger.holder object = some id ↔
      ∃ index, object = some index ∧ ledger index = some (some id) := by
  cases object <;> simp [holder, Option.join_eq_some_iff]

end Ledger

/-- Every open handle is on a descriptor of its own, which the host has open for its identifier. -/
structure Accounts (ledger : Ledger) (tee : Enclave lib) : Prop where
  opened : ∀ {index : Nat} {id : Bytes}, ledger index = some (some id) →
    ∃ handle, tee.objects[index]? = some handle ∧
      tee.host.pathOf handle.desc = some (cString id)
  distinct : ∀ {index other : Nat} {id id' : Bytes} {handle handle' : StoredObject lib},
    ledger index = some (some id) → ledger other = some (some id') →
      tee.objects[index]? = some handle → tee.objects[other]? = some handle' →
        handle.desc = handle'.desc → index = other

namespace Accounts

variable {ledger : Ledger} {tee after : Enclave lib}

theorem start {tee : Enclave lib} : Accounts (fun _ => none) tee where
  opened noted := nomatch noted
  distinct noted := nomatch noted

/-- The handle of a call is noted with the identifier whose path is behind it. -/
theorem inUse (accounts : Accounts ledger tee) {object : Option Nat} {handle : StoredObject lib}
    (used : object = none ∨ (ledger.holder object).isSome = true)
    (found : tee.persistent? object = some handle) :
    ∃ position id, object = some position ∧ ledger position = some (some id) ∧
      ledger.holder object = some id ∧ tee.objects[position]? = some handle ∧
      tee.host.pathOf handle.desc = some (cString id) := by
  obtain ⟨position, rfl, entry, _⟩ := Enclave.persistent?_eq_some.mp found
  obtain ⟨id, holder⟩ := Option.isSome_iff_exists.mp (used.resolve_left (Option.some_ne_none _))
  obtain ⟨_, same, noted⟩ := Ledger.holder_eq_some.mp holder
  obtain rfl := Option.some.inj same
  obtain ⟨other, other_entry, path_eq⟩ := accounts.opened noted
  obtain rfl : handle = other := Option.some.inj (entry.symm.trans other_entry)
  exact ⟨position, id, rfl, noted, holder, entry, path_eq⟩

/-- The handle of a call is apart from every path but that of its identifier. -/
theorem apart (accounts : Accounts ledger tee) {object : Option Nat} {path : Bytes}
    (used : object = none ∨ (ledger.holder object).isSome = true)
    (different : ∀ id, ledger.holder object = some id → cString id ≠ path) :
    tee.Apart object path := by
  intro handle found
  obtain ⟨_, id, -, -, holder, -, path_eq⟩ := accounts.inUse used found
  rw [path_eq]
  exact fun equality => different id holder (Option.some.inj equality)

/-- A call that keeps the descriptors of the handles and the paths behind them. -/
theorem keep (accounts : Accounts ledger tee) (access : ∀ index, KeepsAccess index tee after)
    (paths : ∀ fd path, tee.host.pathOf fd = some path → after.host.pathOf fd = some path) :
    Accounts ledger after where
  opened := by
    intro index id noted
    obtain ⟨handle, entry, path_eq⟩ := accounts.opened noted
    obtain ⟨kept, kept_entry, desc_eq, _⟩ := access index handle entry
    exact ⟨kept, kept_entry, paths _ _ (by rw [desc_eq, path_eq])⟩
  distinct := by
    intro index other id id' handle handle' noted noted' entry entry' same
    obtain ⟨before, before_entry, _⟩ := accounts.opened noted
    obtain ⟨before', before_entry', _⟩ := accounts.opened noted'
    obtain ⟨kept, kept_entry, desc_eq, _⟩ := access index before before_entry
    obtain ⟨kept', kept_entry', desc_eq', _⟩ := access other before' before_entry'
    obtain rfl : kept = handle := Option.some.inj (kept_entry.symm.trans entry)
    obtain rfl : kept' = handle' := Option.some.inj (kept_entry'.symm.trans entry')
    exact accounts.distinct noted noted' before_entry before_entry'
      (desc_eq.symm.trans (same.trans desc_eq'))

/-- An opening that adds no handle keeps the accounts. -/
theorem refused (accounts : Accounts ledger tee) (objects_eq : after.objects = tee.objects)
    (host_eq : after.host = tee.host ∨
      ∃ path flags, after.host = (tee.host.openPath path flags).2) :
    Accounts ledger after := by
  refine accounts.keep (fun index => (KeepsHandle.of_eq objects_eq).access) ?_
  intro fd path opened
  rcases host_eq with same | ⟨opening, flags, same⟩
  · rw [same, opened]
  · rw [same]
    exact Host.pathOf_openPath opened flags

/-- An opening that adds a handle on a new descriptor. -/
theorem granted (accounts : Accounts ledger tee) {id : Bytes} {flags : UInt32}
    {handle : StoredObject lib}
    (granted : 0 ≤ (tee.host.openPath (cString id) flags).1)
    (host_eq : after.host = (tee.host.openPath (cString id) flags).2)
    (objects_eq : after.objects = tee.objects ++ [handle])
    (desc_eq : handle.desc = (tee.host.openPath (cString id) flags).1) :
    Accounts (Function.update ledger tee.objects.length (some (some id))) after := by
  -- a handle of before is at its place, on a descriptor that the new one does not share
  have earlier : ∀ {index : Nat} {other : Bytes}, index ≠ tee.objects.length →
      Function.update ledger tee.objects.length (some (some id)) index = some (some other) →
        ledger index = some (some other) ∧ ∃ kept, tee.objects[index]? = some kept ∧
          after.objects[index]? = some kept ∧ tee.host.pathOf kept.desc = some (cString other) ∧
          kept.desc ≠ handle.desc := by
    intro index other different noted
    rw [Function.update_of_ne different] at noted
    obtain ⟨kept, entry, path_eq⟩ := accounts.opened noted
    have inside := (List.getElem?_eq_some_iff.mp entry).1
    refine ⟨noted, kept, entry, ?_, path_eq, ?_⟩
    · rw [objects_eq, List.getElem?_append_left inside, entry]
    · intro same
      rw [same, desc_eq, Host.pathOf, Host.openFile?_openPath_fresh granted] at path_eq
      exact nomatch path_eq
  have newest : after.objects[tee.objects.length]? = some handle := by
    rw [objects_eq, List.getElem?_concat_length]
  constructor
  · intro index other noted
    by_cases is_new : index = tee.objects.length
    · subst is_new
      rw [Function.update_self] at noted
      obtain rfl : id = other := Option.some.inj (Option.some.inj noted)
      refine ⟨handle, newest, ?_⟩
      rw [host_eq, desc_eq]
      exact Host.pathOf_openPath_self granted
    · obtain ⟨-, kept, -, entry, path_eq, -⟩ := earlier is_new noted
      refine ⟨kept, entry, ?_⟩
      rw [host_eq]
      exact Host.pathOf_openPath path_eq flags
  · intro index other id₁ id₂ handle₁ handle₂ noted₁ noted₂ entry₁ entry₂ same
    by_cases first_new : index = tee.objects.length
    · by_cases second_new : other = tee.objects.length
      · rw [first_new, second_new]
      · obtain ⟨-, kept, -, entry, -, fresh⟩ := earlier second_new noted₂
        obtain rfl : kept = handle₂ := Option.some.inj (entry.symm.trans entry₂)
        subst first_new
        obtain rfl : handle = handle₁ := Option.some.inj (newest.symm.trans entry₁)
        exact absurd same.symm fresh
    · obtain ⟨before₁, kept₁, old₁, here₁, -, fresh₁⟩ := earlier first_new noted₁
      obtain rfl : kept₁ = handle₁ := Option.some.inj (here₁.symm.trans entry₁)
      by_cases second_new : other = tee.objects.length
      · subst second_new
        obtain rfl : handle = handle₂ := Option.some.inj (newest.symm.trans entry₂)
        exact absurd same fresh₁
      · obtain ⟨before₂, kept₂, old₂, here₂, -, -⟩ := earlier second_new noted₂
        obtain rfl : kept₂ = handle₂ := Option.some.inj (here₂.symm.trans entry₂)
        exact accounts.distinct before₁ before₂ old₁ old₂ same

/-- Closing a handle frees its descriptor, which no other open handle has. -/
theorem closed (accounts : Accounts ledger tee) {position : Nat} {id : Bytes}
    {handle : StoredObject lib} {file : OpenFile}
    (noted : ledger position = some (some id)) (entry : tee.objects[position]? = some handle)
    (opened : tee.host.openFile? handle.desc = some file)
    (host_eq : after.host =
      { tee.host with descriptors := tee.host.descriptors.set handle.desc.toNat none })
    (objects_eq : ∀ index, index ≠ position → after.objects[index]? = tee.objects[index]?) :
    Accounts (Function.update ledger position (some none)) after := by
  have other_noted : ∀ {index : Nat} {other : Bytes},
      Function.update ledger position (some none) index = some (some other) →
        index ≠ position ∧ ledger index = some (some other) := by
    intro index other noted_after
    by_cases same : index = position
    · rw [same, Function.update_self] at noted_after
      exact nomatch noted_after
    · rw [Function.update_of_ne same] at noted_after
      exact ⟨same, noted_after⟩
  constructor
  · intro index other noted_after
    obtain ⟨different, noted_before⟩ := other_noted noted_after
    obtain ⟨kept, kept_entry, path_eq⟩ := accounts.opened noted_before
    refine ⟨kept, (objects_eq index different).trans kept_entry, ?_⟩
    have desc_ne : kept.desc ≠ handle.desc := fun same =>
      different (accounts.distinct noted_before noted kept_entry entry same)
    rw [host_eq, Host.pathOf, Host.openFile?_set_ne opened none desc_ne]
    exact path_eq
  · intro index other id₁ id₂ handle₁ handle₂ noted₁ noted₂ entry₁ entry₂ same
    obtain ⟨different₁, before₁⟩ := other_noted noted₁
    obtain ⟨different₂, before₂⟩ := other_noted noted₂
    rw [objects_eq index different₁] at entry₁
    rw [objects_eq other different₂] at entry₂
    exact accounts.distinct before₁ before₂ entry₁ entry₂ same

end Accounts

section Step

variable (platform : Platform) {ledger : Ledger} {tee after : Enclave lib} {call : StorageCall}

theorem Accounts.opening (accounts : Accounts ledger tee) (objectID : Option Bytes) (flags : UInt32)
    (ocreat : Bool) :
    Accounts (ledger.observe (.open objectID flags)
        (.opened (openPersistentObject platform.keys tee objectID flags ocreat).1.1
          (openPersistentObject platform.keys tee objectID flags ocreat).1.2))
      (openPersistentObject platform.keys tee objectID flags ocreat).2 := by
  rcases openPersistentObject_cases platform.keys tee objectID flags ocreat with
    ⟨result, failed, result_eq, objects_eq, host_eq⟩ | ⟨id, rfl, -, -, granted, run⟩
  · have ledger_eq : ledger.observe (.open objectID flags) (.opened result none) = ledger := by
      cases objectID <;> rfl
    rw [result_eq, ledger_eq]
    refine accounts.refused objects_eq (host_eq.imp_right ?_)
    rintro ⟨id, -, same⟩
    exact ⟨_, _, same⟩
  · rw [run]
    exact accounts.granted granted rfl rfl rfl

theorem Accounts.closing (accounts : Accounts ledger tee) {object : Option Nat}
    (used : ledger.InUse (.close object))
    (survived : Platform.survive (teeCloseObject tee object).1 (teeCloseObject tee object).2 =
      some after) :
    Accounts (ledger.observe (.close object) (.closed (teeCloseObject tee object).1)) after := by
  cases found : tee.persistent? object with
  | none =>
      rw [teeCloseObject, found] at survived
      cases survived
  | some handle =>
      obtain ⟨position, id, rfl, noted, -, entry, path_eq⟩ := accounts.inUse used found
      obtain ⟨file, opened, -⟩ := Host.pathOf_eq_some.mp path_eq
      have run : teeCloseObject tee (some position) =
          (.returned (),
            { tee.setObject (some position)
                { handle with persistCtx := lib.aesFree handle.persistCtx } with
              host := { tee.host with
                descriptors := tee.host.descriptors.set handle.desc.toNat none } }) := by
        simp only [teeCloseObject, found, Enclave.setObject, Host.close_of_some opened]
        rfl
      rw [run] at survived ⊢
      obtain rfl := Option.some.inj survived
      refine accounts.closed noted entry opened rfl fun index different => ?_
      exact List.getElem?_set_ne (Ne.symm different)

/-- One call through open handles keeps the accounts. -/
theorem Platform.step_accounts (accounts : Accounts ledger tee) (used : ledger.InUse call)
    (survived : (platform.step (some tee) call).2 = some after) :
    Accounts (ledger.observe call (platform.step (some tee) call).1) after := by
  cases call with
  | create objectID flags =>
      obtain rfl := Option.some.inj survived
      rw [step_create, Ledger.observe_create]
      exact accounts.opening platform objectID flags true
  | «open» objectID flags =>
      obtain rfl := Option.some.inj survived
      exact accounts.opening platform objectID flags false
  | write object buffer =>
      refine accounts.keep (fun index => platform.step_keepsAccess index survived) ?_
      intro fd path opened
      have after_eq := (platform.step_eq_perform tee (.write object buffer)).2 after survived
      exact after_eq ▸ (pathOf_writeObjectData platform tee object buffer fd).trans opened
  | read object buffer size =>
      refine accounts.keep (fun index => platform.step_keepsAccess index survived) ?_
      intro fd path opened
      have after_eq := (platform.step_eq_perform tee (.read object buffer size)).2 after survived
      exact after_eq ▸ (pathOf_readObjectData platform tee object buffer size fd).trans opened
  | close object => exact accounts.closing used survived

/-- A call about another C string is isolated from the file of a path. -/
theorem Platform.step_isolated (accounts : Accounts ledger tee) (used : ledger.InUse call)
    {path : Bytes} (different : ∀ id, ledger.named call = some id → cString id ≠ path) :
    platform.Isolated path tee call := by
  cases call with
  | create objectID flags => exact (platform.isolated_opening different flags).1
  | «open» objectID flags => exact (platform.isolated_opening different flags).2
  | write object buffer => exact platform.isolated_write (accounts.apart used different) buffer
  | read object buffer size =>
      exact platform.isolated_read (accounts.apart used different) buffer size
  | close object => exact platform.isolated_close object

end Step

/-- Along a run, the calls on the object of one identifier are isolated from the file of another. -/
def Platform.KeepsApart (platform : Platform) (id other : Bytes) (tee : Enclave lib)
    (calls : List StorageCall) : Prop :=
  Machine.Along (Machine.observed platform.step Ledger.observe)
    (fun state call _ => ∀ tee, state.1 = some tee → state.2.named call = some id →
      platform.Isolated (cString other) tee call)
    (some tee, fun _ => none) calls

/-- Along a run, every call goes through `NULL` or a handle that the run opened and did not close.
-/
def Platform.UsesOpen (platform : Platform) (tee : Enclave lib) (calls : List StorageCall) : Prop :=
  Machine.Within (Machine.observed platform.step Ledger.observe)
    (fun state call => state.2.InUse call) (some tee, fun _ => none) calls

theorem Platform.keepsApart_of_ne (platform : Platform) {id other : Bytes}
    (different : cString id ≠ cString other) {tee : Enclave lib} {calls : List StorageCall}
    (used : platform.UsesOpen tee calls) : platform.KeepsApart id other tee calls := by
  refine Machine.along_of_within (fun state call (invariant : ∀ tee, state.1 = some tee →
    Accounts state.2 tee) used => ?_) (fun _ _ => .start) used
  obtain ⟨state, ledger⟩ := state
  cases state with
  | none => exact ⟨fun _ running => (nomatch running), fun _ running => (nomatch running)⟩
  | some tee =>
      have accounts := invariant tee rfl
      refine ⟨?_, fun after survived => platform.step_accounts accounts used survived⟩
      intro same running named
      obtain rfl := Option.some.inj running
      refine platform.step_isolated accounts used fun id' named' => ?_
      obtain rfl := Option.some.inj (named.symm.trans named')
      exact different

/-- Creating an object for overwriting empties the file of its C string. -/
theorem Platform.create_empties (platform : Platform) {id : Bytes}
    (short : id.length ≤ teeObjectIdMaxLen) (host : Host) (grants : host.opens.head = true) :
    ((teeCreatePersistentObject platform.keys (.start lib host) (some id)
      (teeDataFlagAccessWrite ||| teeDataFlagOverwrite)).2.host.files (cString id)) = some [] := by
  have granted : 0 ≤ (host.openPath (cString id)
      (openFlags (teeDataFlagAccessWrite ||| teeDataFlagOverwrite) true)).1 :=
    (Host.openPath_granted_iff _ _ _).mpr ⟨by decide, grants, .inl (by decide)⟩
  rw [teeCreatePersistentObject, openPersistentObject_granted platform.keys
    (show (Enclave.start lib host).mallocs.head ≠ none from Option.some_ne_none _)
    (Option.some_ne_none _) rfl short (by decide) granted]
  dsimp only [Enclave.start]
  rw [(Host.openPath_granted granted).2.2.2]
  simp only [Function.update_self]
  rfl

/-- Two identifiers are kept apart in every run that uses no closed handle exactly when their C
strings differ. -/
theorem identifiers_isolated_iff (platform : Platform) {id : Bytes} (other : Bytes)
    (short : id.length ≤ teeObjectIdMaxLen) :
    (∀ (tee : Enclave lib) (calls : List StorageCall), platform.UsesOpen tee calls →
        platform.KeepsApart id other tee calls) ↔
      cString id ≠ cString other := by
  constructor
  · intro isolated same
    let host := (Host.empty (Stream'.const (.move 16))).withFile (cString other) (some [1])
    have stored : host.files (cString other) = some [1] := Function.update_self _ _ _
    have apart := (isolated (.start lib host) [.create (some id)
      (teeDataFlagAccessWrite ||| teeDataFlagOverwrite)] ⟨trivial, trivial⟩).1 _ rfl rfl
    have kept := apart.kept
    have emptied := @Platform.create_empties lib platform id short host rfl
    rw [same] at emptied
    exact absurd (emptied.symm.trans (kept.trans stored)) (by decide)
  · exact fun different tee calls used => platform.keepsApart_of_ne different used

/-- The objects of the identifiers `a` and `b` in a run that writes one of them. -/
theorem identifiers_isolated_letters :
    Platform.publishedKeystone.KeepsApart [97] [98]
      (.start (.reference vectorCipher) (.storing [1, 2, 3] (Stream'.const (.move 16))))
      [.create (some [97]) (teeDataFlagAccessWrite ||| teeDataFlagOverwrite),
        .write (some 0) (List.replicate 16 7), .close (some 0)] :=
  (identifiers_isolated_iff .publishedKeystone [98] (by decide)).mpr (by decide) _ _
    ⟨trivial, .inr rfl, .inr rfl, trivial⟩

/-- Creating the object of an identifier that goes on after a zero byte empties the file of the
identifier that ends there. -/
theorem identifiers_share_file :
    let tee := Enclave.start (.reference vectorCipher)
      (.storing [1, 2, 3] (Stream'.const (.move 16)))
    let creation := teeCreatePersistentObject Platform.publishedKeystone.keys tee
      (some [97, 0, 98]) (teeDataFlagAccessWrite ||| teeDataFlagOverwrite)
    creation.1.1 = .success ∧ tee.host.files [97] = some [1, 2, 3] ∧
      creation.2.host.files [97] = some [] ∧
      ¬ Platform.publishedKeystone.KeepsApart [97, 0, 98] [97] tee
        [.create (some [97, 0, 98]) (teeDataFlagAccessWrite ||| teeDataFlagOverwrite)] := by
  intro tee creation
  refine ⟨rfl, rfl, rfl, ?_⟩
  rintro ⟨apart, -⟩
  have kept := (apart tee rfl rfl).kept
  exact absurd kept (by decide)

end TaRef
