import TaRef.Storage.RoundTrip

/-!
# Failed calls on Keystone

A call that fails without moving a byte leaves its session as it was, with one exception: a write
that the host refuses has already moved the chaining value.  Runs in which no data is transferred
after such a write behave as if the failing calls had not been made.
-/

namespace TaRef

variable {lib : Mbedtls}

/-- The host accepts the first transfer of a write to the handle. -/
def Enclave.writeAccepted (tee : Enclave lib) (object : Option Nat) : Bool :=
  match tee.openFile? object, tee.host.transfers.head with
  | some file, .move _ => file.writable
  | _, _ => false

/-- The bytes that the host moves for a read of the handle. -/
def Enclave.incoming (tee : Enclave lib) (object : Option Nat) (size : Nat) : Bytes :=
  match tee.openFile? object with
  | none => []
  | some file =>
      if file.readable then
        (tee.host.remaining file).take
          (bytesMoved 256 tee.host.transfers (min size (tee.host.remaining file).length))
      else []

/-- A write that the host refuses at the first transfer. -/
def RefusedWrite : Option (Enclave lib) → StorageCall → Prop
  | some tee, .write object buffer => tee.Attempts buffer ∧ tee.writeAccepted object = false
  | _, _ => False

/-- A call for which the host moves some bytes. -/
def MovesData : Option (Enclave lib) → StorageCall → Prop
  | some tee, .write object buffer => tee.Attempts buffer ∧ tee.writeAccepted object = true
  | some tee, .read object _ size => 16 ∣ size ∧ tee.incoming object size ≠ []
  | _, _ => False

/-- An accepted write is completed, and a read for which the host moves bytes succeeds. -/
def WholeOrNothing : Option (Enclave lib) → StorageCall → Prop
  | some tee, .write object buffer =>
      buffer.length < 2 ^ 31 ∧
        (tee.Attempts buffer → tee.writeAccepted object = true →
          bytesMoved 256 tee.host.transfers buffer.length = buffer.length)
  | some tee, .read object _ size =>
      size < 2 ^ 31 ∧
        (16 ∣ size → Aligned (tee.incoming object size) ∧
          (tee.incoming object size ≠ [] → tee.mallocs.head.isSome = true))
  | _, _ => True

section Decidable

variable (state : Option (Enclave lib)) (call : StorageCall)

instance : Decidable (RefusedWrite state call) :=
  match state, call with
  | none, _ => inferInstanceAs (Decidable False)
  | some tee, .write _ buffer => inferInstanceAs (Decidable (tee.Attempts buffer ∧ _))
  | some _, .create _ _ => inferInstanceAs (Decidable False)
  | some _, .open _ _ => inferInstanceAs (Decidable False)
  | some _, .read _ _ _ => inferInstanceAs (Decidable False)
  | some _, .close _ => inferInstanceAs (Decidable False)

instance : Decidable (MovesData state call) :=
  match state, call with
  | none, _ => inferInstanceAs (Decidable False)
  | some tee, .write _ buffer => inferInstanceAs (Decidable (tee.Attempts buffer ∧ _))
  | some tee, .read object _ size =>
      inferInstanceAs (Decidable (16 ∣ size ∧ tee.incoming object size ≠ []))
  | some _, .create _ _ => inferInstanceAs (Decidable False)
  | some _, .open _ _ => inferInstanceAs (Decidable False)
  | some _, .close _ => inferInstanceAs (Decidable False)

instance : Decidable (WholeOrNothing state call) :=
  match state, call with
  | none, _ => inferInstanceAs (Decidable True)
  | some tee, .write _ buffer =>
      inferInstanceAs (Decidable (_ ∧ (tee.Attempts buffer → _)))
  | some tee, .read object _ size =>
      inferInstanceAs (Decidable (_ ∧ (16 ∣ size → Aligned (tee.incoming object size) ∧ _)))
  | some _, .create _ _ => inferInstanceAs (Decidable True)
  | some _, .open _ _ => inferInstanceAs (Decidable True)
  | some _, .close _ => inferInstanceAs (Decidable True)

end Decidable

/-- A read or a write on one handle. -/
def StorageCall.On (call : StorageCall) (index : Nat) : Prop :=
  (∃ buffer, call = .write (some index) buffer) ∨
    ∃ buffer size, call = .read (some index) buffer size

/-- The bytes that a successful read returned. -/
def StorageOutput.okData : StorageOutput → Bytes
  | .read call =>
      if call.exit = .returned .success then call.buffer.take (call.count.getD 0) else []
  | _ => []

theorem StorageOutput.Returns.okData_eq {output : StorageOutput} {blocks : List Block}
    (returns : output.Returns blocks) : output.okData = joinBlocks blocks := by
  obtain ⟨call, rfl, exit_eq, count_eq, plain_eq⟩ := returns
  simpa [okData, exit_eq, count_eq] using plain_eq

/-- The buffer of a call if it is a write that succeeded. -/
def writtenBy (call : StorageCall) (output : StorageOutput) : Bytes :=
  match call, output with
  | .write _ buffer, .written (.returned .success) => buffer
  | _, _ => []

/-- The buffers of the successful writes of a run, in order. -/
def written (calls : List StorageCall) (outputs : List StorageOutput) : Bytes :=
  (List.zipWith writtenBy calls outputs).flatten

@[simp]
theorem written_cons (call : StorageCall) (calls : List StorageCall) (output : StorageOutput)
    (outputs : List StorageOutput) :
    written (call :: calls) (output :: outputs) =
      writtenBy call output ++ written calls outputs := rfl

namespace Session

variable {tee : Enclave lib} {index : Nat} {file : OpenFile} {key stored : Bytes} {chain : Block}
  {direction : Direction}

/-- Moving the chaining value changes nothing else in a session. -/
theorem chained (session : Session key direction tee index file chain stored)
    {handle : StoredObject lib} (found : tee.persistent? (some index) = some handle) (iv : Block)
    (taken : Nat) :
    Session key direction (tee.chained (some index) handle iv (tee.host.skip taken)) index file iv
      stored := by
  obtain ⟨⟨other, other_found, keyed, _, opened⟩, content⟩ := session
  obtain rfl : other = handle := by simpa [found] using other_found.symm
  refine ⟨⟨_, Enclave.persistent?_setIv found iv, keyed, rfl, ?_⟩, content⟩
  exact (Host.openFile?_skip _ _ _).trans opened

theorem skip (session : Session key direction tee index file chain stored) (taken : Nat)
    (mallocs : Stream' (Option Memory)) :
    Session key direction { tee with host := tee.host.skip taken, mallocs } index file chain
      stored := by
  obtain ⟨⟨handle, found, keyed, chain_eq, opened⟩, content⟩ := session
  exact ⟨⟨handle, found, keyed, chain_eq, (Host.openFile?_skip _ _ _).trans opened⟩, content⟩

theorem incoming_eq (session : Session key direction tee index file chain stored) (size : Nat) :
    tee.incoming (some index) size =
      if file.readable then
        (stored.drop file.offset).take
          (bytesMoved 256 tee.host.transfers (min size (stored.drop file.offset).length))
      else [] := by
  obtain ⟨⟨handle, found, _, _, opened⟩, content⟩ := session
  simp only [Enclave.incoming, Enclave.openFile?, found, Option.bind_some, opened,
    Host.remaining, content]

theorem writeAccepted_iff (session : Session key direction tee index file chain stored) :
    tee.writeAccepted (some index) = true ↔
      file.writable = true ∧ ∃ amount, tee.host.transfers.head = .move amount := by
  obtain ⟨⟨handle, found, _, _, opened⟩, _⟩ := session
  simp only [Enclave.writeAccepted, Enclave.openFile?, found, Option.bind_some, opened]
  cases tee.host.transfers.head <;> simp

section Keystone

variable {aes : BlockCipher Bytes Block} (laws : lib.CbcLaws aes) (attestEnclave : Bytes → Bytes)

include laws

/-- A write that does not reach the host leaves the session. -/
theorem idle_write (session : Session key direction tee index file chain stored) {buffer : Bytes}
    (idle : ¬ tee.Attempts buffer) :
    ∃ result after,
      (Platform.keystone attestEnclave).step (some tee) (.write (some index) buffer) =
        (.written (.returned result), some after) ∧
      writtenBy (.write (some index) buffer) (.written (.returned result)) = [] ∧
      Session key direction after index file chain stored := by
  obtain ⟨handle, found, _, chain_eq, _⟩ := session.handle
  by_cases whole : buffer.length % 16 ≠ 0
  · refine ⟨.errorBadParameters, tee, ?_, rfl, session⟩
    simp only [Platform.step, Platform.writeObjectData, Keystone.teeWriteObjectData, found,
      if_pos whole, Platform.survive]
  cases allocated : tee.mallocs.head with
  | none =>
      refine ⟨.errorOutOfMemory, { tee with mallocs := tee.mallocs.tail }, ?_, rfl,
        session.skip 0 tee.mallocs.tail⟩
      simp only [Platform.step, Platform.writeObjectData, Keystone.teeWriteObjectData, found,
        if_neg whole, Enclave.malloc, allocated, Platform.survive]
  | some residue =>
      obtain rfl : buffer = [] := by
        by_contra buffer_ne
        refine idle ⟨?_, List.length_pos_iff.mpr buffer_ne, by rw [allocated]; rfl⟩
        exact Nat.dvd_of_mod_eq_zero (not_not.mp whole)
      refine ⟨.success, tee.chained (some index) handle chain (tee.host.skip 0), ?_, rfl,
        session.chained found chain 0⟩
      simp [Platform.step, Platform.writeObjectData, Keystone.teeWriteObjectData, found,
        Enclave.malloc, allocated, laws.empty, Keyedge.ocallWriteFileFull_zero, chain_eq,
        Platform.survive, Enclave.chained, Enclave.setObject]

/-- A refused write moves the chaining value and nothing else. -/
theorem refused_write (session : Session key direction tee index file chain stored)
    (writes : file.writable = true → direction = .encrypt) {buffer : Bytes}
    (attempts : tee.Attempts buffer) (small : buffer.length < 2 ^ 31)
    (refused : tee.writeAccepted (some index) = false) :
    ∃ after chain',
      (Platform.keystone attestEnclave).step (some tee) (.write (some index) buffer) =
        (.written (.returned .errorGeneric), some after) ∧
      Session key direction after index file chain' stored := by
  obtain ⟨aligned, buffer_pos, allocated⟩ := attempts
  obtain ⟨residue, residue_eq⟩ := Option.isSome_iff_exists.mp allocated
  obtain ⟨handle, found, ⟨context, keyed⟩, _, opened⟩ := session.handle
  have not_accepted := mt session.writeAccepted_iff.mpr (Bool.eq_false_iff.mp refused)
  by_cases writable : file.writable = true
  · obtain rfl := writes writable
    cases head : tee.host.transfers.head with
    | move amount => exact absurd ⟨writable, amount, head⟩ not_accepted
    | refuse code =>
        obtain ⟨taken, run⟩ :=
          writeObjectData_spec laws (.keystone attestEnclave) found keyed residue_eq aligned
            buffer_pos small opened writable
        rw [Platform.moved_of_refuse _ head, List.take_zero, Host.deliver_nil, head] at run
        refine ⟨_, Cbc.chainAfter aes key .encrypt handle.persistIv (toBlocks buffer), ?_,
          session.chained found _ taken⟩
        rw [Platform.step, run]
        rfl
  · have closed : ¬ tee.host.Writable handle.desc := by
      rintro ⟨other, other_opened, other_writable⟩
      obtain rfl : other = file := by simpa [opened] using other_opened.symm
      exact writable other_writable
    have run := writeObjectData_not_writable (.keystone attestEnclave) found residue_eq aligned
      buffer_pos closed
    refine ⟨_, (lib.aesCryptCbc handle.persistCtx .encrypt handle.persistIv buffer).iv, ?_,
      session.chained found _ 0⟩
    rw [Platform.step, run]
    rfl

omit laws in
/-- A read for which no byte comes in returns nothing and leaves the session. -/
theorem idle_read (session : Session key direction tee index file chain stored) (buffer : Bytes)
    {size : Nat} (size_lt : size < 2 ^ 31)
    (idle : 16 ∣ size → tee.incoming (some index) size = []) :
    ∃ output after,
      (Platform.keystone attestEnclave).step (some tee) (.read (some index) buffer size) =
        (output, some after) ∧
      output.okData = [] ∧ Session key direction after index file chain stored := by
  obtain ⟨handle, found, _, _, opened⟩ := session.handle
  by_cases whole : size % 16 ≠ 0
  · refine ⟨.read { exit := .returned .errorBadParameters, buffer, count := none }, tee, ?_, rfl,
      session⟩
    simp only [Platform.step, Platform.readObjectData, Keystone.teeReadObjectData, found,
      if_pos whole, Platform.survive]
  rcases Nat.eq_zero_or_pos size with rfl | size_pos
  · refine ⟨.read { exit := .returned .success, buffer, count := some 0 }, tee, ?_, rfl, session⟩
    simp [Platform.step, Platform.readObjectData, Keystone.teeReadObjectData, found,
      Keyedge.ocallReadFileFull_zero, Platform.survive]
  have empty := idle (Nat.dvd_of_mod_eq_zero (not_not.mp whole))
  rw [session.incoming_eq] at empty
  cases readable : file.readable with
  | false =>
      refine ⟨.read { exit := .returned .errorGeneric, buffer, count := none }, tee, ?_, rfl,
        session⟩
      have run := Keyedge.ocallReadFileFull_of_not_readable
        (Host.not_readable_of_opened opened readable) buffer size_pos
      simp [Platform.step, Platform.readObjectData, Keystone.teeReadObjectData, found, whole, run,
        Platform.survive]
  | true =>
      rw [readable, if_pos rfl] at empty
      have left_eq : tee.host.remaining file = stored.drop file.offset := by
        rw [Host.remaining, session.content]
      have none_moved : bytesMoved 256 tee.host.transfers
          (min size (tee.host.remaining file).length) = 0 := by
        have moved_le := bytesMoved_le 256 tee.host.transfers
          (min size (stored.drop file.offset).length)
        have taken_length := congrArg List.length empty
        rw [List.length_take, List.length_nil] at taken_length
        rw [left_eq]
        omega
      obtain ⟨taken, run⟩ :=
        Keyedge.ocallReadFileFull_spec buffer opened readable size_pos size_lt none_moved
      rw [Host.advance_zero, List.take_zero, List.drop_zero, List.nil_append] at run
      cases head : tee.host.transfers.head with
      | refuse code =>
          refine ⟨.read { exit := .returned .errorGeneric, buffer, count := none },
            { tee with host := tee.host.skip taken }, ?_, rfl, session.skip taken tee.mallocs⟩
          rw [head] at run
          simp [Platform.step, Platform.readObjectData, Keystone.teeReadObjectData, found, whole,
            run, loopResult, Int.negSucc_lt_zero, Platform.survive]
      | move amount =>
          refine ⟨.read { exit := .returned .success, buffer, count := some 0 },
            { tee with host := tee.host.skip taken }, ?_, rfl, session.skip taken tee.mallocs⟩
          rw [head] at run
          simp [Platform.step, Platform.readObjectData, Keystone.teeReadObjectData, found, whole,
            run, loopResult, Platform.survive]

/-- A call that moves no data leaves the session, except that a refused write moves the chaining
value. -/
theorem quiet_call (session : Session key direction tee index file chain stored)
    (writes : file.writable = true → direction = .encrypt) {call : StorageCall}
    (on_handle : call.On index) (whole : WholeOrNothing (some tee) call)
    (quiet : ¬ MovesData (some tee) call) :
    ∃ output after chain',
      (Platform.keystone attestEnclave).step (some tee) call = (output, some after) ∧
      writtenBy call output = [] ∧ output.okData = [] ∧
      Session key direction after index file chain' stored ∧
      (¬ RefusedWrite (some tee) call → chain' = chain) := by
  rcases on_handle with ⟨buffer, rfl⟩ | ⟨buffer, size, rfl⟩
  · by_cases attempts : tee.Attempts buffer
    · have refused : tee.writeAccepted (some index) = false :=
        Bool.eq_false_iff.mpr fun accepted => quiet ⟨attempts, accepted⟩
      obtain ⟨after, chain', step_eq, next⟩ :=
        session.refused_write laws attestEnclave writes attempts whole.1 refused
      exact ⟨_, after, chain', step_eq, rfl, rfl, next,
        fun not_refused => absurd ⟨attempts, refused⟩ not_refused⟩
    · obtain ⟨result, after, step_eq, nothing, next⟩ :=
        session.idle_write laws attestEnclave attempts
      exact ⟨_, after, chain, step_eq, nothing, rfl, next, fun _ => rfl⟩
  · have idle : 16 ∣ size → tee.incoming (some index) size = [] := by
      intro aligned
      by_contra some_bytes
      exact quiet ⟨aligned, some_bytes⟩
    obtain ⟨output, after, step_eq, nothing, next⟩ :=
      session.idle_read attestEnclave buffer whole.1 idle
    exact ⟨output, after, chain, step_eq, rfl, nothing, next, fun _ => rfl⟩

/-- A run that moves no data. -/
theorem quiet_run (session : Session key direction tee index file chain stored)
    (writes : file.writable = true → direction = .encrypt) {calls : List StorageCall}
    (on_handle : ∀ call ∈ calls, call.On index)
    (whole : Machine.Within (Platform.keystone attestEnclave).step WholeOrNothing (some tee) calls)
    (quiet : Machine.Within (Platform.keystone attestEnclave).step
      (fun state call => ¬ MovesData state call) (some tee) calls) :
    ∃ after chain',
      Machine.final (Platform.keystone attestEnclave).step (some tee) calls = some after ∧
      written calls (Machine.outputs (Platform.keystone attestEnclave).step (some tee) calls) =
        [] ∧
      (Machine.outputs (Platform.keystone attestEnclave).step (some tee) calls).flatMap
        StorageOutput.okData = [] ∧
      Session key direction after index file chain' stored := by
  induction calls generalizing tee chain with
  | nil => exact ⟨tee, chain, rfl, rfl, rfl, session⟩
  | cons call calls ih =>
      obtain ⟨output, middle, chain', step_eq, nothing, no_data, next, _⟩ :=
        session.quiet_call laws attestEnclave writes (on_handle call List.mem_cons_self) whole.1
          quiet.1
      have rest_whole := whole.2
      have rest_quiet := quiet.2
      rw [step_eq] at rest_whole rest_quiet
      obtain ⟨after, last, run, rest_nothing, rest_data, final⟩ :=
        ih next (fun other member => on_handle other (List.mem_cons_of_mem _ member)) rest_whole
          rest_quiet
      refine ⟨after, last, ?_, ?_, ?_, final⟩
      · rw [Machine.final_cons, step_eq, run]
      · rw [Machine.outputs_cons, step_eq, written_cons, nothing, rest_nothing, List.append_nil]
      · rw [Machine.outputs_cons, step_eq, List.flatMap_cons, no_data, rest_data, List.append_nil]

/-- A call that moves data on a writing handle is a successful write. -/
theorem moving_write {path : Bytes} {call : StorageCall}
    (session : Session key .encrypt tee index
      { path, offset := stored.length, readable := false, writable := true } chain stored)
    (on_handle : call.On index) (whole : WholeOrNothing (some tee) call)
    (moves : MovesData (some tee) call) :
    ∃ buffer after, call = .write (some index) buffer ∧ Aligned buffer ∧
      (Platform.keystone attestEnclave).step (some tee) call =
        (.written (.returned .success), some after) ∧
      Session key .encrypt after index
        { path
          offset := (stored ++ joinBlocks (Cbc.crypt aes key .encrypt chain
            (toBlocks buffer))).length
          readable := false, writable := true }
        (Cbc.chainAfter aes key .encrypt chain (toBlocks buffer))
        (stored ++ joinBlocks (Cbc.crypt aes key .encrypt chain (toBlocks buffer))) := by
  rcases on_handle with ⟨buffer, rfl⟩ | ⟨buffer, size, rfl⟩
  · obtain ⟨attempts, accepted⟩ := moves
    have complete := whole.2 attempts accepted
    obtain ⟨aligned, buffer_pos, allocated⟩ := attempts
    obtain ⟨_, amount, head⟩ := session.writeAccepted_iff.mp accepted
    obtain ⟨after, taken, step_eq, next, _⟩ :=
      session.write laws (.keystone attestEnclave) rfl rfl aligned buffer_pos whole.1
        (Option.ne_none_iff_isSome.mpr allocated) head complete
    refine ⟨buffer, after, rfl, aligned, step_eq, ?_⟩
    rw [List.length_append, Cbc.length_joinBlocks_crypt _ _ _ _ aligned]
    exact next
  · refine absurd (session.incoming_eq size) ?_
    rw [if_neg Bool.false_ne_true]
    exact moves.2

/-- A run on a writing handle stores the ciphertext of the buffers of its successful writes. -/
theorem writer_run {path : Bytes} {calls : List StorageCall}
    (session : Session key .encrypt tee index
      { path, offset := stored.length, readable := false, writable := true } chain stored)
    (on_handle : ∀ call ∈ calls, call.On index)
    (whole : Machine.Within (Platform.keystone attestEnclave).step WholeOrNothing (some tee) calls)
    (undisturbed : Machine.NoneAfter (Platform.keystone attestEnclave).step RefusedWrite MovesData
      (some tee) calls) :
    ∃ after chain' position buffers,
      Machine.final (Platform.keystone attestEnclave).step (some tee) calls = some after ∧
      written calls (Machine.outputs (Platform.keystone attestEnclave).step (some tee) calls) =
        buffers ∧
      Aligned buffers ∧
      Session key .encrypt after index
        { path, offset := position, readable := false, writable := true } chain'
        (stored ++ joinBlocks (Cbc.crypt aes key .encrypt chain (toBlocks buffers))) := by
  induction calls generalizing tee chain stored with
  | nil =>
      refine ⟨tee, chain, stored.length, [], rfl, rfl, Nat.dvd_zero 16, ?_⟩
      simpa using session
  | cons call calls ih =>
      have rest_on : ∀ other ∈ calls, other.On index :=
        fun other member => on_handle other (List.mem_cons_of_mem _ member)
      have first_on := on_handle call List.mem_cons_self
      obtain ⟨first_whole, rest_whole⟩ := whole
      obtain ⟨after_refusal, rest_undisturbed⟩ := undisturbed
      by_cases moves : MovesData (some tee) call
      · obtain ⟨buffer, middle, rfl, aligned, step_eq, next⟩ :=
          session.moving_write laws attestEnclave first_on first_whole moves
        rw [step_eq] at rest_whole rest_undisturbed
        obtain ⟨after, last, position, buffers, run, buffers_eq, buffers_aligned, final⟩ :=
          ih next rest_on rest_whole rest_undisturbed
        refine ⟨after, last, position, buffer ++ buffers, ?_, ?_,
          aligned.append buffers_aligned, ?_⟩
        · rw [Machine.final_cons, step_eq, run]
        · rw [Machine.outputs_cons, step_eq, written_cons, buffers_eq]
          rfl
        · rw [toBlocks_append aligned buffers_aligned, Cbc.crypt_append, joinBlocks_append,
            ← List.append_assoc]
          exact final
      · obtain ⟨output, middle, chain', step_eq, nothing, _, next, same⟩ :=
          session.quiet_call laws attestEnclave (fun _ => rfl) first_on first_whole moves
        rw [step_eq] at rest_whole rest_undisturbed after_refusal
        by_cases refused : RefusedWrite (some tee) call
        · obtain ⟨after, last, run, rest_nothing, _, final⟩ :=
            next.quiet_run laws attestEnclave (fun _ => rfl) rest_on rest_whole
              (after_refusal refused)
          refine ⟨after, last, stored.length, [], ?_, ?_, Nat.dvd_zero 16, ?_⟩
          · rw [Machine.final_cons, step_eq, run]
          · rw [Machine.outputs_cons, step_eq, written_cons, nothing, rest_nothing,
              List.append_nil]
          · simpa using final
        · obtain rfl := same refused
          obtain ⟨after, last, position, buffers, run, buffers_eq, buffers_aligned, final⟩ :=
            ih next rest_on rest_whole rest_undisturbed
          refine ⟨after, last, position, buffers, ?_, ?_, buffers_aligned, final⟩
          · rw [Machine.final_cons, step_eq, run]
          · rw [Machine.outputs_cons, step_eq, written_cons, nothing, buffers_eq, List.nil_append]

/-- A call that moves data on a reading handle is a successful read of the next blocks. -/
theorem moving_read {path : Bytes} {call : StorageCall} {iv : Block} {blocks : List Block}
    {position : Nat} (reading : Reading tee index path aes key iv blocks position)
    (on_handle : call.On index) (whole : WholeOrNothing (some tee) call)
    (moves : MovesData (some tee) call) :
    ∃ output after count,
      (Platform.keystone attestEnclave).step (some tee) call = (output, some after) ∧
      output.Returns (Reader.step blocks position count).1 ∧
      Reading after index path aes key iv blocks (Reader.step blocks position count).2 := by
  rcases on_handle with ⟨buffer, rfl⟩ | ⟨buffer, size, rfl⟩
  · exact absurd (Session.writeAccepted_iff reading |>.mp moves.2).1 Bool.false_ne_true
  · obtain ⟨size_whole, some_bytes⟩ := moves
    obtain ⟨size_lt, success⟩ := whole
    obtain ⟨aligned, allocated⟩ := success size_whole
    have incoming_eq : tee.incoming (some index) size =
        ((joinBlocks (Cbc.crypt aes key .encrypt iv blocks)).drop (16 * position)).take
          (bytesMoved 256 tee.host.transfers (min size
            ((joinBlocks (Cbc.crypt aes key .encrypt iv blocks)).drop
              (16 * position)).length)) :=
      (Session.incoming_eq reading size).trans (if_pos rfl)
    obtain ⟨count, length_eq⟩ := aligned
    have moved_eq : ((joinBlocks (Cbc.crypt aes key .encrypt iv blocks)).drop
        (16 * position)).take (bytesMoved 256 tee.host.transfers (min size
          ((joinBlocks (Cbc.crypt aes key .encrypt iv blocks)).drop (16 * position)).length)) =
        ((joinBlocks (Cbc.crypt aes key .encrypt iv blocks)).drop (16 * position)).take
          (16 * count) := by
      rw [incoming_eq, List.length_take] at length_eq
      rw [List.take_eq_take_iff]
      omega
    cases head : tee.host.transfers.head with
    | refuse code =>
        rw [bytesMoved_of_refuse head, List.take_zero] at incoming_eq
        exact absurd incoming_eq some_bytes
    | move amount =>
        obtain ⟨after, output, _, _, step_eq, returns, next, _⟩ :=
          Reading.transfer laws (.keystone attestEnclave) buffer reading size_whole size_lt
            (Option.ne_none_iff_isSome.mpr (allocated some_bytes)) head moved_eq
        exact ⟨output, after, count, step_eq, returns, next⟩

/-- The successful reads of a run on a reading handle return the stored plaintext in order. -/
theorem reader_run {path : Bytes} {calls : List StorageCall} {iv : Block} {blocks : List Block}
    {position : Nat} (reading : Reading tee index path aes key iv blocks position)
    (on_handle : ∀ call ∈ calls, call.On index)
    (whole : Machine.Within (Platform.keystone attestEnclave).step WholeOrNothing (some tee) calls)
    (undisturbed : Machine.NoneAfter (Platform.keystone attestEnclave).step RefusedWrite MovesData
      (some tee) calls) :
    (Machine.outputs (Platform.keystone attestEnclave).step (some tee) calls).flatMap
      StorageOutput.okData <+: joinBlocks (blocks.drop position) := by
  induction calls generalizing tee position with
  | nil => exact List.nil_prefix
  | cons call calls ih =>
      have rest_on : ∀ other ∈ calls, other.On index :=
        fun other member => on_handle other (List.mem_cons_of_mem _ member)
      have first_on := on_handle call List.mem_cons_self
      obtain ⟨first_whole, rest_whole⟩ := whole
      obtain ⟨after_refusal, rest_undisturbed⟩ := undisturbed
      by_cases moves : MovesData (some tee) call
      · obtain ⟨output, middle, count, step_eq, returns, next⟩ :=
          moving_read laws attestEnclave reading first_on first_whole moves
        rw [step_eq] at rest_whole rest_undisturbed
        have rest := ih next rest_on rest_whole rest_undisturbed
        rw [Machine.outputs_cons, step_eq, List.flatMap_cons, returns.okData_eq,
          ← Reader.step_append_drop blocks position count, joinBlocks_append]
        exact (List.prefix_append_right_inj _).mpr rest
      · obtain ⟨output, middle, chain', step_eq, _, no_data, next, same⟩ :=
          quiet_call laws attestEnclave reading (fun writable => absurd writable Bool.false_ne_true)
            first_on first_whole moves
        rw [step_eq] at rest_whole rest_undisturbed after_refusal
        rw [Machine.outputs_cons, step_eq, List.flatMap_cons, no_data, List.nil_append]
        by_cases refused : RefusedWrite (some tee) call
        · obtain ⟨_, _, _, _, rest_data, _⟩ :=
            next.quiet_run laws attestEnclave (fun writable => absurd writable Bool.false_ne_true)
              rest_on rest_whole (after_refusal refused)
          rw [rest_data]
          exact List.nil_prefix
        · obtain rfl := same refused
          exact ih next rest_on rest_whole rest_undisturbed

end Keystone
end Session

/-- The calls that fail without moving a byte leave no trace, when the object is empty at first and
no data is transferred after a refused write on the same handle: a later session reads back exactly
the buffers of the successful writes, and its own successful reads return them in order. -/
theorem failed_calls_leave_no_trace {aes : BlockCipher Bytes Block} (laws : lib.CbcLaws aes)
    (attestEnclave : Bytes → Bytes) {id : Bytes} {before created closed opened : Enclave lib}
    {create reopen : StorageCall} {flags flags' : UInt32} {writer reader : Nat}
    {calls later : List StorageCall}
    (creates : create.Opens id flags)
    (write_access : hasFlag flags teeDataFlagAccessWrite = true)
    (empty : hasFlag flags teeDataFlagOverwrite = true ∨ before.host.content (cString id) = [])
    (create_eq : (Platform.keystone attestEnclave).step (some before) create =
      (.opened .success (some writer), some created))
    (on_writer : ∀ call ∈ calls, call.On writer)
    (whole : Machine.Within (Platform.keystone attestEnclave).step WholeOrNothing (some created)
      calls)
    (undisturbed : Machine.NoneAfter (Platform.keystone attestEnclave).step RefusedWrite MovesData
      (some created) calls)
    (closed_eq : Machine.final (Platform.keystone attestEnclave).step (some created)
      (calls ++ [.close (some writer)]) = some closed)
    (reopens : reopen.Opens id flags')
    (read_access : hasFlag flags' teeDataFlagAccessWrite = false)
    (keeps : hasFlag flags' teeDataFlagOverwrite = false)
    (reopen_eq : (Platform.keystone attestEnclave).step (some closed) reopen =
      (.opened .success (some reader), some opened))
    (on_reader : ∀ call ∈ later, call.On reader)
    (later_whole : Machine.Within (Platform.keystone attestEnclave).step WholeOrNothing
      (some opened) later)
    (later_undisturbed : Machine.NoneAfter (Platform.keystone attestEnclave).step RefusedWrite
      MovesData (some opened) later) :
    let stored := written calls
      (Machine.outputs (Platform.keystone attestEnclave).step (some created) calls)
    (Machine.outputs (Platform.keystone attestEnclave).step (some opened) later).flatMap
        StorageOutput.okData <+: stored ∧
      ∀ reads : List (Bytes × Nat), opened.Patient →
        (∀ request ∈ reads, 16 ∣ request.2 ∧ request.2 < 2 ^ 31) →
        (Machine.outputs (Platform.keystone attestEnclave).step (some opened)
            (reads.map fun request => .read (some reader) request.1 request.2)).flatMap
          StorageOutput.data = stored.take (reads.map Prod.snd).sum := by
  intro stored
  obtain ⟨writing, _⟩ := Session.of_opens creates create_eq
  have direction_eq : accessDirection flags = .encrypt := by simp [accessDirection, write_access]
  have content_nil : (if hasFlag flags teeDataFlagOverwrite then []
      else before.host.content (cString id)) = [] := by
    rcases empty with truncates | nothing
    · rw [if_pos truncates]
    · rw [nothing, ite_self]
  rw [direction_eq, write_access, content_nil] at writing
  have start : Session ((Platform.keystone attestEnclave).keys.key id) .encrypt created writer
      { path := cString id, offset := ([] : Bytes).length, readable := false, writable := true }
      ((Platform.keystone attestEnclave).keys.iv id) [] := writing
  obtain ⟨after, _, _, buffers, run, buffers_eq, aligned, session⟩ :=
    Session.writer_run laws attestEnclave start on_writer whole undisturbed
  have stored_buffers : stored = buffers := buffers_eq
  rw [Machine.final_append, run] at closed_eq
  obtain ⟨last, close_eq, files_eq, _⟩ := session.close (.keystone attestEnclave)
  rw [Machine.final_cons, close_eq, Machine.final_nil] at closed_eq
  obtain rfl := Option.some.inj closed_eq
  have content_eq : last.host.content (cString id) =
      joinBlocks (Cbc.crypt aes ((Platform.keystone attestEnclave).keys.key id) .encrypt
        ((Platform.keystone attestEnclave).keys.iv id) (toBlocks buffers)) := by
    have content := session.content
    rw [Host.content, ← files_eq] at content
    exact content
  obtain ⟨reading, _⟩ := Reading.of_opens reopens read_access keeps content_eq reopen_eq
  rw [stored_buffers, ← joinBlocks_toBlocks aligned]
  constructor
  · exact Session.reader_run laws attestEnclave reading on_reader later_whole later_undisturbed
  · intro reads patient sizes
    exact reading.reads_data laws _ (patient.steady attestEnclave) sizes

/-- On a new writing handle: a read, which fails, and then a write. -/
def publishedAttempt : List StorageCall :=
  [.read (some 0) (List.replicate 16 0) 16, .write (some 0) vectorPlain.1]

/-- The state after those calls and the closing of the handle. -/
def publishedAttemptClosed : Enclave (.reference vectorCipher) :=
  (Machine.final Platform.publishedKeystone.step
    (some (publishedWriter .publishedKeystone (Stream'.const (.move 7))))
    (publishedAttempt ++ [.close (some 0)])).get (by decide +kernel)

/-- The state after the object was opened again. -/
def publishedAttemptReader : Enclave (.reference vectorCipher) :=
  (teeOpenPersistentObject Platform.publishedKeystone.keys publishedAttemptClosed (some [97])
    teeDataFlagAccessRead).2

theorem failed_calls_leave_no_trace_published :
    let stored := written publishedAttempt
      (Machine.outputs Platform.publishedKeystone.step
        (some (publishedWriter .publishedKeystone (Stream'.const (.move 7)))) publishedAttempt)
    (Machine.outputs Platform.publishedKeystone.step (some publishedAttemptReader)
        [.write (some 1) [0], .read (some 1) (List.replicate 16 0) 16]).flatMap
        StorageOutput.okData <+: stored ∧
      ∀ reads : List (Bytes × Nat), publishedAttemptReader.Patient →
        (∀ request ∈ reads, 16 ∣ request.2 ∧ request.2 < 2 ^ 31) →
        (Machine.outputs Platform.publishedKeystone.step (some publishedAttemptReader)
            (reads.map fun request => .read (some 1) request.1 request.2)).flatMap
          StorageOutput.data = stored.take (reads.map Prod.snd).sum := by
  have reopened : (teeOpenPersistentObject Platform.publishedKeystone.keys
      publishedAttemptClosed (some [97]) teeDataFlagAccessRead).1 = (.success, some 1) := by
    decide +kernel
  have reopen : Platform.publishedKeystone.step (some publishedAttemptClosed)
      (.open (some [97]) teeDataFlagAccessRead) =
        (.opened .success (some 1), some publishedAttemptReader) := by
    rw [Platform.step_open, reopened]
    rfl
  refine failed_calls_leave_no_trace (Mbedtls.reference_cbcLaws vectorCipher) _ (.inl rfl)
    (by decide) (.inl (by decide)) (publishedWriter_created .publishedKeystone _) ?_
    (by decide +kernel) (by decide +kernel) (Option.some_get _).symm (.inr rfl) (by decide)
    (by decide) reopen ?_ (by decide +kernel) (by decide +kernel)
  · simp [publishedAttempt, StorageCall.On]
  · simp [StorageCall.On]

/-- A host that refuses one write and then stores seven bytes in each transfer. -/
def refusingTransfers : Stream' Transfer :=
  Stream'.cons (.refuse 0) (Stream'.const (.move 7))

/-- A refused write of the first block, and then the same write again. -/
def repeatedWrite : List StorageCall :=
  [.write (some 0) vectorPlain.1, .write (some 0) vectorPlain.1]

/-- The state after the object was closed and opened again. -/
def repeatedWriteReader : Enclave (.reference vectorCipher) :=
  (Machine.final Platform.publishedKeystone.step
    (some (publishedWriter .publishedKeystone refusingTransfers))
    (repeatedWrite ++ [.close (some 0), .open (some [97]) teeDataFlagAccessRead])).get
      (by decide +kernel)

/-- The second write succeeds, but what is read back is not the buffer written. -/
theorem refused_write_garbles_next :
    Machine.Within Platform.publishedKeystone.step WholeOrNothing
        (some (publishedWriter .publishedKeystone refusingTransfers)) repeatedWrite ∧
      written repeatedWrite (Machine.outputs Platform.publishedKeystone.step
        (some (publishedWriter .publishedKeystone refusingTransfers)) repeatedWrite) =
          vectorPlain.1 ∧
      ¬ (Machine.outputs Platform.publishedKeystone.step (some repeatedWriteReader)
        [.read (some 1) (List.replicate 16 0) 16]).flatMap StorageOutput.okData <+:
          vectorPlain.1 := by
  decide +kernel

end TaRef
