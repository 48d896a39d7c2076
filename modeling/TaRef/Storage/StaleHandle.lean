import TaRef.Storage.Start

/-!
# Handles after they were closed

`TEE_CloseObject` neither clears the flags of a handle nor its descriptor, and the other calls test
nothing else, so a closed handle is used like an open one: only the checks that any call makes
before its ocall keep it from the host.  Whether a call asks the host is told by what it does on
other hosts.
-/

namespace TaRef

variable {lib : Mbedtls}

/-- The call goes through a handle. -/
def StorageCall.Through (index : Nat) : StorageCall → Prop
  | .write object _ => object = some index
  | .read object _ _ => object = some index
  | .close object => object = some index
  | _ => False

/-- A call panicked or returned an error. -/
def Exit.Fails {α : Type} (success : α) : Exit α → Prop
  | .panicked => True
  | .returned result => result ≠ success
  | .running => False

/-- The call behind an output failed or panicked. -/
def StorageOutput.Fails : StorageOutput → Prop
  | .written exit => exit.Fails .success
  | .read call => call.exit.Fails .success
  | .closed exit => exit.Fails ()
  | _ => False

namespace Platform

/-- A call fails, and on every host it does the same and leaves that host alone. -/
structure Inert (platform : Platform) (tee : Enclave lib) (call : StorageCall) : Prop where
  unasked : ∃ output after, ∀ host,
    platform.step (some { tee with host }) call =
      (output, Option.map (fun after : Enclave lib => { after with host }) after)
  fails : (platform.step (some tee) call).1.Fails

end Platform

/-- The call is turned away before its ocall: its size is not a number of blocks, or it is a write
whose allocation fails. -/
def StorageCall.Refused (tee : Enclave lib) : StorageCall → Prop
  | .write _ buffer => buffer.length % 16 ≠ 0 ∨ tee.mallocs.head = none
  | .read _ _ size => size % 16 ≠ 0
  | _ => False

/-! ## A host that answers every ocall on one descriptor -/

/-- A host with one open descriptor, on which it moves nothing. -/
def Host.idle (fd : Nat) : Host where
  files _ := none
  descriptors := List.replicate fd none ++
    [some { path := [], offset := 0, readable := true, writable := true }]
  opens := Stream'.const true
  transfers := Stream'.const (.move 0)

theorem Host.openFile?_idle (fd : Nat) :
    (Host.idle fd).openFile? fd =
      some { path := [], offset := 0, readable := true, writable := true } := by
  simp [openFile?, idle]

theorem Host.write_idle (fd : Nat) (chunk : Bytes) :
    ∃ after, (Host.idle fd).write fd chunk = (0, after) := by
  simp only [Host.write, openFile?_idle, if_true]
  exact ⟨_, rfl⟩

theorem Host.read_idle (fd count : Nat) :
    ∃ after, (Host.idle fd).read fd count = ((0, []), after) := by
  simp only [Host.read, openFile?_idle, if_true]
  refine ⟨(Host.idle fd).nextTransfer.advance fd 0, ?_⟩
  simp [Host.idle, remaining, content, Stream'.head]

theorem Host.close_idle (fd : Nat) : ∃ after, (Host.idle fd).close fd = (0, after) := by
  rw [Host.close, openFile?_idle]
  exact ⟨_, rfl⟩

theorem Keyedge.ocallWriteFileFull_idle (fd : Nat) (data : Bytes) (count : Nat) :
    ∃ after, ocallWriteFileFull (Host.idle fd) fd data count = some (0, after) := by
  rcases Nat.eq_zero_or_pos count with rfl | count_pos
  · exact ⟨_, rfl⟩
  · obtain ⟨after, written⟩ := Host.write_idle fd
      (((data.drop 0).take (if sizeSub count 0 > 256 then 256 else sizeSub count 0)))
    refine ⟨after, ?_⟩
    rw [ocallWriteFileFull, transferLoop_fuel_succ, if_pos count_pos]
    simp only [ocallWriteFile, ocallWriteFile256, Int.toNat_zero, written]
    rfl

theorem Keyedge.ocallReadFileFull_idle (fd : Nat) (buf : Bytes) (count : Nat) :
    ∃ after, ocallReadFileFull (Host.idle fd) fd buf count = some (0, after) := by
  rcases Nat.eq_zero_or_pos count with rfl | count_pos
  · exact ⟨_, rfl⟩
  · obtain ⟨after, read⟩ := Host.read_idle fd
      (if sizeSub count 0 % 2 ^ 32 > 256 then 256 else sizeSub count 0 % 2 ^ 32)
    refine ⟨(after, (buf.take 0 ++ buf.drop 0)), ?_⟩
    rw [ocallReadFileFull, transferLoop_fuel_succ, if_pos count_pos]
    simp only [ocallReadFile, ocallReadFile256, Int.toNat_zero, read]
    rfl

theorem Platform.ocallWrite_idle (platform : Platform) (fd : Nat) (data : Bytes) (size : Nat) :
    ∃ after, platform.ocallWrite (Host.idle fd) fd data size = some (0, after) := by
  cases platform with
  | keystone attestEnclave => exact Keyedge.ocallWriteFileFull_idle fd data size
  | sgx reportKey sealKey sha3 =>
      obtain ⟨after, written⟩ := Host.write_idle fd data
      exact ⟨after, by simp [ocallWrite, Sgx.ocallWriteFile, written]⟩

theorem Platform.ocallRead_idle (platform : Platform) (fd : Nat) (buffer : Bytes) (size : Nat) :
    ∃ after, platform.ocallRead (Host.idle fd) fd buffer size = some (0, after) := by
  cases platform with
  | keystone attestEnclave => exact Keyedge.ocallReadFileFull_idle fd buffer size
  | sgx reportKey sealKey sha3 =>
      obtain ⟨after, read⟩ := Host.read_idle fd size
      refine ⟨(after, overwrite buffer 0 (List.replicate size 0)), ?_⟩
      simp [ocallRead, Sgx.ocallReadFile, read, wrapInt_zero]

/-! ## One call through a handle with a descriptor -/

section Call

variable (platform : Platform) {tee : Enclave lib} {index fd : Nat} {handle : StoredObject lib}

/-- A refused call fails without asking the host. -/
theorem Platform.inert_of_refused {call : StorageCall}
    (found : tee.persistent? (some index) = some handle) (through : call.Through index)
    (refused : call.Refused tee) : platform.Inert tee call := by
  have found_on : ∀ host, { tee with host }.persistent? (some index) = some handle :=
    fun _ => found
  cases call with
  | write object buffer =>
      obtain rfl := through
      by_cases unaligned : buffer.length % 16 ≠ 0
      · refine ⟨⟨.written (.returned .errorBadParameters), some tee, fun host => ?_⟩, ?_⟩
        · simp [step, writeObjectData_eq, found_on, unaligned, survive]
        · simp [step, writeObjectData_eq, found, unaligned, StorageOutput.Fails, Exit.Fails]
      · have exhausted : tee.mallocs.head = none := refused.resolve_left unaligned
        refine ⟨⟨.written (.returned .errorOutOfMemory),
          some { tee with mallocs := tee.mallocs.tail }, fun host => ?_⟩, ?_⟩
        · simp [step, writeObjectData_eq, found_on, unaligned, exhausted, survive]
        · simp [step, writeObjectData_eq, found, unaligned, exhausted, StorageOutput.Fails,
            Exit.Fails]
  | read object buffer size =>
      obtain rfl := through
      have unaligned : size % 16 ≠ 0 := refused
      refine ⟨⟨.read { exit := .returned .errorBadParameters, buffer, count := none }, some tee,
        fun host => ?_⟩, ?_⟩
      · simp [step, readObjectData_eq, found_on, unaligned, survive]
      · simp [step, readObjectData_eq, found, unaligned, StorageOutput.Fails, Exit.Fails]
  | close object => exact absurd refused not_false
  | create objectID flags => exact absurd refused not_false
  | «open» objectID flags => exact absurd refused not_false

/-- Any other call through the handle succeeds on the host that has its descriptor open. -/
theorem Platform.succeeds_on_idle {call : StorageCall}
    (found : tee.persistent? (some index) = some handle) (desc_eq : handle.desc = fd)
    (through : call.Through index) (accepted : ¬ call.Refused tee) :
    ¬ (platform.step (some { tee with host := Host.idle fd }) call).1.Fails := by
  have found_idle : { tee with host := Host.idle fd }.persistent? (some index) = some handle :=
    found
  cases call with
  | write object buffer =>
      obtain rfl := through
      obtain ⟨aligned, allocated⟩ := not_or.mp accepted
      obtain ⟨residue, head⟩ := Option.ne_none_iff_exists'.mp allocated
      obtain ⟨after, written⟩ := platform.ocallWrite_idle fd
        (overwrite (Memory.read residue 0 buffer.length) 0
          (lib.aesCryptCbc handle.persistCtx .encrypt handle.persistIv buffer).output) buffer.length
      simp only [step, writeObjectData_eq, found_idle, if_neg aligned, head, send,
        Enclave.setObject, desc_eq, written, writeCode_zero]
      simp [StorageOutput.Fails, Exit.Fails]
  | read object buffer size =>
      obtain rfl := through
      have aligned : ¬ size % 16 ≠ 0 := accepted
      obtain ⟨after, read⟩ := platform.ocallRead_idle fd buffer size
      simp only [step, readObjectData_eq, found_idle, if_neg aligned, receive, desc_eq, read]
      simp [StorageOutput.Fails, Exit.Fails]
  | close object =>
      obtain rfl := through
      obtain ⟨after, closed⟩ := Host.close_idle fd
      simp only [step, teeCloseObject, found_idle, Enclave.setObject, desc_eq, closed]
      simp [StorageOutput.Fails, Exit.Fails]
  | create objectID flags => exact absurd through not_false
  | «open» objectID flags => exact absurd through not_false

/-- A call through a handle with a descriptor is inert exactly when it is refused. -/
theorem Platform.inert_iff {call : StorageCall}
    (found : tee.persistent? (some index) = some handle) (desc_eq : handle.desc = fd)
    (through : call.Through index) : platform.Inert tee call ↔ call.Refused tee := by
  constructor
  · rintro ⟨⟨output, after, unasked⟩, fails⟩
    by_contra accepted
    refine platform.succeeds_on_idle found desc_eq through accepted ?_
    rw [unasked (Host.idle fd)]
    rwa [show (platform.step (some tee) call).1 = output from congrArg Prod.fst
      (unasked tee.host)] at fails
  · exact platform.inert_of_refused found through

end Call

/-! ## What stays of a handle -/

/-- The handle `index` is still there, with the same descriptor and flags. -/
def KeepsAccess (index : Nat) (before after : Enclave lib) : Prop :=
  ∀ handle, before.objects[index]? = some handle →
    ∃ kept, after.objects[index]? = some kept ∧ kept.desc = handle.desc ∧
      kept.flags = handle.flags

theorem KeepsHandle.access {index : Nat} {before after : Enclave lib}
    (keeps : KeepsHandle index before after) : KeepsAccess index before after := by
  intro handle found
  obtain ⟨kept, kept_found, same⟩ := keeps handle found
  refine ⟨kept, kept_found, ?_, ?_⟩
  · rw [same]
  · rw [same]

/-- `TEE_CloseObject` changes only the key schedule of its handle. -/
theorem teeCloseObject_keepsAccess (tee : Enclave lib) (index : Nat) :
    KeepsAccess index tee (teeCloseObject tee (some index)).2 := by
  intro handle found
  unfold teeCloseObject
  split
  · exact ⟨handle, found, rfl, rfl⟩
  · rename_i closing closing_found
    obtain ⟨position, position_eq, entry, _⟩ := Enclave.persistent?_eq_some.mp closing_found
    obtain rfl := Option.some.inj position_eq
    obtain rfl : closing = handle := Option.some.inj (entry.symm.trans found)
    have inside := (List.getElem?_eq_some_iff.mp found).1
    refine ⟨{ closing with persistCtx := lib.aesFree closing.persistCtx }, ?_, rfl, rfl⟩
    dsimp only
    split <;> simp [Enclave.setObject, inside]

/-- No call changes the descriptor or the flags of a handle. -/
theorem Platform.step_keepsAccess (platform : Platform) {tee after : Enclave lib}
    {call : StorageCall} (index : Nat)
    (survived : (platform.step (some tee) call).2 = some after) :
    KeepsAccess index tee after := by
  by_cases closes : call = .close (some index)
  · subst closes
    have kept := teeCloseObject_keepsAccess tee index
    obtain rfl : (teeCloseObject tee (some index)).2 = after := by
      simp only [step] at survived
      cases exit : (teeCloseObject tee (some index)).1 with
      | returned _ => simpa [exit, survive] using survived
      | panicked => simp [exit, survive] at survived
      | running => simp [exit, survive] at survived
    exact kept
  · exact (platform.step_keepsHandle closes survived).access

/-- While the application runs, the handle `index` is persistent and has the descriptor `fd`. -/
def HasDescriptor (index fd : Nat) (state : Option (Enclave lib)) : Prop :=
  ∀ tee, state = some tee →
    ∃ handle, tee.persistent? (some index) = some handle ∧ handle.desc = fd

theorem Platform.step_hasDescriptor (platform : Platform) {index fd : Nat}
    (state : Option (Enclave lib)) (call : StorageCall) (has : HasDescriptor index fd state) :
    HasDescriptor index fd (platform.step state call).2 := by
  intro after survived
  cases state with
  | none => exact absurd survived (by simp [step])
  | some tee =>
      obtain ⟨handle, found, desc_eq⟩ := has tee rfl
      obtain ⟨position, position_eq, entry, persistent⟩ := Enclave.persistent?_eq_some.mp found
      obtain rfl := Option.some.inj position_eq
      obtain ⟨kept, kept_entry, kept_desc, kept_flags⟩ :=
        platform.step_keepsAccess index survived handle entry
      exact ⟨kept, Enclave.persistent?_eq_some.mpr
        ⟨index, rfl, kept_entry, by rw [kept_flags, persistent]⟩, by rw [kept_desc, desc_eq]⟩

/-- A handle that was just closed still has the descriptor. -/
theorem Platform.hasDescriptor_of_closed (platform : Platform) {tee closed : Enclave lib}
    {index : Nat}
    (closing : platform.step (some tee) (.close (some index)) =
      (.closed (.returned ()), some closed)) :
    ∃ fd, HasDescriptor index fd (some closed) := by
  have survived := congrArg Prod.snd closing
  have returned : (teeCloseObject tee (some index)).1 = .returned () := by
    have output_eq := congrArg Prod.fst closing
    simpa [step] using output_eq
  obtain ⟨handle, fd, found, desc_eq⟩ : ∃ (handle : StoredObject lib) (fd : Nat),
      tee.persistent? (some index) = some handle ∧ handle.desc = fd := by
    unfold teeCloseObject at returned
    split at returned
    · exact absurd returned (by simp)
    · rename_i handle found
      cases opened : tee.host.openFile? handle.desc with
      | none => simp [Host.close, opened, Enclave.setObject] at returned
      | some file =>
          obtain ⟨fd, desc_eq, _⟩ := Host.openFile?_eq_some opened
          exact ⟨handle, fd, found, desc_eq⟩
  refine ⟨fd, ?_⟩
  have has : HasDescriptor index fd (some tee) := by
    intro other same
    obtain rfl := Option.some.inj same
    exact ⟨handle, found, desc_eq⟩
  have later := platform.step_hasDescriptor (some tee) (.close (some index)) has
  rwa [survived] at later

/-- In every run after `TEE_CloseObject` returned, the calls through the closed handle are inert
exactly when each of them is refused for its size or for want of memory. -/
theorem closed_handle_inert_iff (platform : Platform) {tee closed : Enclave lib} {index : Nat}
    (closing : platform.step (some tee) (.close (some index)) =
      (.closed (.returned ()), some closed)) (calls : List StorageCall) :
    Machine.Within platform.step
        (fun state call => ∀ tee, state = some tee → call.Through index →
          platform.Inert tee call) (some closed) calls ↔
      Machine.Within platform.step
        (fun state call => ∀ tee, state = some tee → call.Through index → call.Refused tee)
        (some closed) calls := by
  obtain ⟨fd, has⟩ := platform.hasDescriptor_of_closed closing
  apply Machine.within_iff_of_invariant platform.step_hasDescriptor _ has
  intro state call invariant
  apply forall_congr'
  rintro tee
  apply imp_congr_right
  intro state_eq
  apply imp_congr_right
  intro through
  obtain ⟨handle, found, desc_eq⟩ := invariant tee state_eq
  exact platform.inert_iff found desc_eq through

/-- A handle of the published writer, closed. -/
def publishedStale (platform : Platform) : Enclave (.reference vectorCipher) :=
  (teeCloseObject (publishedWriter platform (Stream'.const (.move 16))) (some 0)).2

theorem publishedStale_closed :
    Platform.publishedKeystone.step
        (some (publishedWriter .publishedKeystone (Stream'.const (.move 16))))
        (.close (some 0)) =
      (.closed (.returned ()), some (publishedStale .publishedKeystone)) := rfl

/-- A read of fifteen bytes through the closed handle is inert. -/
theorem closed_handle_inert_unaligned :
    Machine.Within Platform.publishedKeystone.step
      (fun state call => ∀ tee, state = some tee → call.Through 0 →
        Platform.publishedKeystone.Inert tee call)
      (some (publishedStale .publishedKeystone)) [.read (some 0) [] 15] :=
  (closed_handle_inert_iff _ publishedStale_closed _).mpr
    ⟨fun _ _ _ => show 15 % 16 ≠ 0 by decide, trivial⟩

/-- Closing the handle a second time closes the descriptor of an object opened in between. -/
theorem stale_close_hits_other :
    let opened := Machine.final Platform.publishedKeystone.step
      (some (publishedStale .publishedKeystone))
      [.create (some [98]) (teeDataFlagAccessWrite ||| teeDataFlagOverwrite)]
    let closed := Machine.final Platform.publishedKeystone.step opened [.close (some 0)]
    (opened.bind fun tee => tee.host.openFile? 0).map OpenFile.path = some [98] ∧
      (closed.map fun tee => tee.host.openFile? 0) = some none ∧
      ¬ Machine.Within Platform.publishedKeystone.step
        (fun state call => ∀ tee, state = some tee → call.Through 0 →
          Platform.publishedKeystone.Inert tee call)
        (some (publishedStale .publishedKeystone))
        [.create (some [98]) (teeDataFlagAccessWrite ||| teeDataFlagOverwrite),
          .close (some 0)] := by
  refine ⟨rfl, rfl, ?_⟩
  rintro ⟨-, inert, -⟩
  exact absurd rfl (inert _ rfl rfl).fails

end TaRef
