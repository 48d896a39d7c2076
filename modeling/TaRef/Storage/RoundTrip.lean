import TaRef.Library.Reader
import TaRef.Storage.Session
import TaRef.Storage.Start

/-!
# The secure storage round trip on Keystone

What a writing session stored, a later reading session returns, however the host cuts the transfers
and whatever sizes the reader asks for.
-/

namespace TaRef

/-- What a read stored in `*count`. -/
def StorageOutput.count : StorageOutput → Nat
  | .read call => call.count.getD 0
  | _ => 0

/-- The first `*count` bytes of the buffer of a read. -/
def StorageOutput.data : StorageOutput → Bytes
  | .read call => call.buffer.take (call.count.getD 0)
  | _ => []

/-- A read that succeeds with some blocks. -/
def StorageOutput.Returns (output : StorageOutput) (blocks : List Block) : Prop :=
  ∃ call, output = .read call ∧ call.exit = .returned .success ∧
    call.count = some (16 * blocks.length) ∧
    call.buffer.take (16 * blocks.length) = joinBlocks blocks

namespace StorageOutput

theorem Returns.data_eq {output : StorageOutput} {blocks : List Block}
    (returns : output.Returns blocks) : output.data = joinBlocks blocks := by
  obtain ⟨call, rfl, _, count_eq, plain_eq⟩ := returns
  simpa [data, count_eq] using plain_eq

theorem Returns.count_eq {output : StorageOutput} {blocks : List Block}
    (returns : output.Returns blocks) : output.count = 16 * blocks.length := by
  obtain ⟨call, rfl, _, count_eq, _⟩ := returns
  simp [count, count_eq]

theorem flatMap_data {outputs : List StorageOutput} {slices : List (List Block)}
    (returns : List.Forall₂ Returns outputs slices) :
    outputs.flatMap data = joinBlocks slices.flatten := by
  induction returns with
  | nil => rfl
  | cons first rest ih => rw [List.flatMap_cons, first.data_eq, ih, List.flatten_cons,
      joinBlocks_append]

end StorageOutput

variable {lib : Mbedtls}

/-- A reading session at a block position of a stored plaintext. -/
def Reading (tee : Enclave lib) (index : Nat) (path : Bytes) (aes : BlockCipher Bytes Block)
    (key : Bytes) (iv : Block) (blocks : List Block) (position : Nat) : Prop :=
  Session key .decrypt tee index
    { path, offset := 16 * position, readable := true, writable := false }
    (Cbc.chainAfter aes key .encrypt iv (blocks.take position))
    (joinBlocks (Cbc.crypt aes key .encrypt iv blocks))

section Runs

variable {aes : BlockCipher Bytes Block} (laws : lib.CbcLaws aes) (platform : Platform)
  {tee : Enclave lib} {index : Nat} {file : OpenFile} {key stored : Bytes} {iv chain : Block}

include laws

/-- A run of writes stores the ciphertext of the concatenation at the position of the handle. -/
theorem Session.writes {writes : List Bytes} (steady : tee.Steady platform)
    (session : Session key .encrypt tee index file chain stored)
    (writable : file.writable = true) (inside : file.offset ≤ stored.length)
    (sizes : ∀ buffer ∈ writes, Aligned buffer ∧ buffer.length < 2 ^ 31) :
    ∃ after position,
      Machine.final platform.step (some tee) (writes.map (.write (some index))) = some after ∧
      after.Steady platform ∧
      Session key .encrypt after index { file with offset := position }
        (Cbc.chainAfter aes key .encrypt chain (toBlocks writes.flatten))
        (overwrite stored file.offset
          (joinBlocks (Cbc.crypt aes key .encrypt chain (toBlocks writes.flatten)))) := by
  induction writes generalizing tee file chain stored with
  | nil =>
      refine ⟨tee, file.offset, rfl, steady, ?_⟩
      simpa [toBlocks_eq_nil, inside] using session
  | cons buffer writes ih =>
      obtain ⟨aligned, buffer_lt⟩ := sizes buffer List.mem_cons_self
      have rest_sizes : ∀ other ∈ writes, Aligned other ∧ other.length < 2 ^ 31 :=
        fun other member => sizes other (List.mem_cons_of_mem _ member)
      have rest_aligned : Aligned writes.flatten :=
        aligned_flatten fun other member => (rest_sizes other member).1
      obtain ⟨amount, accepted⟩ := steady.head
      rcases Nat.eq_zero_or_pos buffer.length with empty | buffer_pos
      · obtain rfl := List.length_eq_zero_iff.mp empty
        obtain ⟨next, taken, step_eq, next_session, transfers_eq, mallocs_eq⟩ :=
          session.writeNothing laws platform writable (steady.memory 0) accepted
        obtain ⟨after, position, run, after_steady, after_session⟩ :=
          ih (steady.later transfers_eq mallocs_eq) next_session writable inside rest_sizes
        refine ⟨after, position, ?_, after_steady, after_session⟩
        rw [List.map_cons, Machine.final_cons, step_eq, run]
      · obtain ⟨next, taken, step_eq, next_session, transfers_eq, mallocs_eq⟩ :=
          session.writeAt laws platform writable aligned buffer_pos buffer_lt (steady.memory 0)
            accepted (steady.complete 0 _ buffer_lt)
        have cipher_length := Cbc.length_joinBlocks_crypt aes key .encrypt chain aligned
        obtain ⟨after, position, run, after_steady, after_session⟩ :=
          ih (steady.later transfers_eq mallocs_eq) next_session writable
            (by rw [length_overwrite, cipher_length]; exact Nat.le_max_right _ _) rest_sizes
        refine ⟨after, position, ?_, after_steady, ?_⟩
        · rw [List.map_cons, Machine.final_cons, step_eq, run]
        · rw [List.flatten_cons, toBlocks_append aligned rest_aligned, Cbc.chainAfter_append,
            Cbc.crypt_append, joinBlocks_append, ← overwrite_overwrite, cipher_length]
          exact after_session

/-- A read for which the host moves `count` blocks, or all that are left, answers like a sequential
reader of the plaintext. -/
theorem Reading.transfer (buffer : Bytes) {path : Bytes} {blocks : List Block}
    {position size count amount : Nat}
    (reading : Reading tee index path aes key iv blocks position) (whole : 16 ∣ size)
    (size_lt : size < 2 ^ 31) (allocated : tee.mallocs.head ≠ none)
    (accepted : tee.host.transfers.head = .move amount)
    (moved_eq : ((joinBlocks (Cbc.crypt aes key .encrypt iv blocks)).drop (16 * position)).take
        (platform.moved tee.host.transfers (min size
          ((joinBlocks (Cbc.crypt aes key .encrypt iv blocks)).drop (16 * position)).length)) =
      ((joinBlocks (Cbc.crypt aes key .encrypt iv blocks)).drop (16 * position)).take
        (16 * count)) :
    ∃ after output taken mallocs,
      platform.step (some tee) (.read (some index) buffer size) = (output, some after) ∧
      output.Returns (Reader.step blocks position count).1 ∧
      Reading after index path aes key iv blocks (Reader.step blocks position count).2 ∧
      after.host.transfers = tee.host.transfers.drop taken ∧
      after.mallocs = tee.mallocs.drop mallocs := by
  set slice := (Reader.step blocks position count).1 with slice_eq
  set before := Cbc.chainAfter aes key .encrypt iv (blocks.take position) with before_eq
  have cipher_eq : ((joinBlocks (Cbc.crypt aes key .encrypt iv blocks)).drop
      (16 * position)).take (16 * count) =
        joinBlocks (Cbc.crypt aes key .encrypt before slice) := by
    rw [joinBlocks_drop, joinBlocks_take, Cbc.crypt_drop, Cbc.crypt_take]
    rfl
  obtain ⟨after, call, taken, mallocs, step_eq, exit_eq, count_eq, plain_eq, session, later⟩ :=
    Session.read laws platform buffer reading rfl whole size_lt allocated accepted
      (moved_eq.trans cipher_eq) (aligned_joinBlocks _)
  rw [length_joinBlocks, Cbc.length_crypt] at count_eq plain_eq session
  rw [toBlocks_joinBlocks] at plain_eq session
  rw [Cbc.decrypt_encrypt] at plain_eq
  refine ⟨after, .read call, taken, mallocs, step_eq, ⟨call, rfl, exit_eq, count_eq, plain_eq⟩,
    ?_, later⟩
  have chain_eq : Cbc.chainAfter aes key .encrypt before slice =
      Cbc.chainAfter aes key .encrypt iv (blocks.take (position + slice.length)) := by
    have slice_take : slice = (blocks.drop position).take slice.length := by
      rw [slice_eq, Reader.step, List.take_eq_take_iff, List.length_take]
      omega
    rw [List.take_add, Cbc.chainAfter_append, ← slice_take]
  rw [Cbc.chainAfter_decrypt_encrypt, chain_eq] at session
  have next_eq : (Reader.step blocks position count).2 = position + slice.length := rfl
  rw [Reading, next_eq, Nat.mul_add]
  exact session

/-- One read of a session returns the next blocks of the plaintext. -/
theorem Reading.read (buffer : Bytes) {path : Bytes} {blocks : List Block} {position size : Nat}
    (steady : tee.Steady platform) (reading : Reading tee index path aes key iv blocks position)
    (whole : 16 ∣ size) (size_lt : size < 2 ^ 31) :
    ∃ after output,
      platform.step (some tee) (.read (some index) buffer size) = (output, some after) ∧
      output.Returns (Reader.step blocks position (size / 16)).1 ∧ after.Steady platform ∧
      Reading after index path aes key iv blocks
        (Reader.step blocks position (size / 16)).2 := by
  obtain ⟨count, rfl⟩ := whole
  rw [Nat.mul_div_cancel_left count (by decide)]
  obtain ⟨amount, accepted⟩ := steady.head
  have complete : ∀ size, size < 2 ^ 31 → platform.moved tee.host.transfers size = size :=
    steady.complete 0
  have moved_eq : ((joinBlocks (Cbc.crypt aes key .encrypt iv blocks)).drop (16 * position)).take
      (platform.moved tee.host.transfers (min (16 * count)
        ((joinBlocks (Cbc.crypt aes key .encrypt iv blocks)).drop (16 * position)).length)) =
      ((joinBlocks (Cbc.crypt aes key .encrypt iv blocks)).drop (16 * position)).take
        (16 * count) := by
    rw [complete _ (by omega), List.take_eq_take_iff]
    omega
  obtain ⟨after, output, taken, mallocs, step_eq, returns, next, transfers_eq, mallocs_eq⟩ :=
    Reading.transfer laws platform buffer reading (Nat.dvd_mul_right 16 count) size_lt
      (steady.memory 0) accepted moved_eq
  exact ⟨after, output, step_eq, returns, steady.later transfers_eq mallocs_eq, next⟩

/-- A run of reads answers like a sequential reader of the plaintext. -/
theorem Reading.reads {path : Bytes} {blocks : List Block} {position : Nat}
    (steady : tee.Steady platform) (reading : Reading tee index path aes key iv blocks position)
    {reads : List (Bytes × Nat)}
    (sizes : ∀ request ∈ reads, 16 ∣ request.2 ∧ request.2 < 2 ^ 31) :
    List.Forall₂ StorageOutput.Returns
      (Machine.outputs platform.step (some tee)
        (reads.map fun request => .read (some index) request.1 request.2))
      (Machine.outputs (Reader.step blocks) position
        (reads.map fun request => request.2 / 16)) := by
  induction reads generalizing tee position with
  | nil => exact .nil
  | cons request reads ih =>
      obtain ⟨whole, size_lt⟩ := sizes request List.mem_cons_self
      obtain ⟨after, output, step_eq, returns, after_steady, after_reading⟩ :=
        Reading.read laws platform request.1 steady reading whole size_lt
      rw [List.map_cons, List.map_cons, Machine.outputs_cons, Machine.outputs_cons, step_eq]
      exact .cons returns (ih after_steady after_reading
        fun other member => sizes other (List.mem_cons_of_mem _ member))

omit laws in
private theorem sum_sizes {reads : List (Bytes × Nat)}
    (whole : ∀ request ∈ reads, 16 ∣ request.2) :
    (reads.map Prod.snd).sum = 16 * (reads.map fun request => request.2 / 16).sum := by
  induction reads with
  | nil => rfl
  | cons request reads ih =>
      have first := whole request List.mem_cons_self
      have rest := ih fun other member => whole other (List.mem_cons_of_mem _ member)
      rw [List.map_cons, List.sum_cons, List.map_cons, List.sum_cons, rest]
      omega

/-- A run of reads from the start of a session returns a prefix of the plaintext. -/
theorem Reading.reads_data {path : Bytes} {blocks : List Block} (steady : tee.Steady platform)
    (reading : Reading tee index path aes key iv blocks 0) {reads : List (Bytes × Nat)}
    (sizes : ∀ request ∈ reads, 16 ∣ request.2 ∧ request.2 < 2 ^ 31) :
    (Machine.outputs platform.step (some tee)
        (reads.map fun request => .read (some index) request.1 request.2)).flatMap
      StorageOutput.data = (joinBlocks blocks).take (reads.map Prod.snd).sum := by
  have returns := reading.reads laws platform steady sizes
  rw [StorageOutput.flatMap_data returns, Reader.flatten_outputs, List.drop_zero,
    ← joinBlocks_take, sum_sizes fun request member => (sizes request member).1]

omit laws in
/-- A handle opened for reading on a stored ciphertext reads from its start. -/
theorem Reading.of_opens {platform : Platform} {before opened : Enclave lib} {call : StorageCall}
    {id : Bytes} {flags : UInt32} {index : Nat} {blocks : List Block}
    (opens : call.Opens id flags) (not_write : hasFlag flags teeDataFlagAccessWrite = false)
    (keeps : hasFlag flags teeDataFlagOverwrite = false)
    (stored_eq : before.host.content (cString id) =
      joinBlocks (Cbc.crypt aes (platform.keys.key id) .encrypt (platform.keys.iv id) blocks))
    (success : platform.step (some before) call = (.opened .success (some index), some opened)) :
    Reading opened index (cString id) aes (platform.keys.key id) (platform.keys.iv id) blocks 0 ∧
      opened.host.transfers = before.host.transfers.drop 0 ∧
      opened.mallocs = before.mallocs.drop 2 := by
  obtain ⟨session, later⟩ := Session.of_opens opens success
  have direction_eq : accessDirection flags = .decrypt := by simp [accessDirection, not_write]
  rw [direction_eq, not_write, keeps, if_neg Bool.false_ne_true, stored_eq] at session
  exact ⟨session, later⟩

end Runs

/-- Everything written through one handle is read back through another, for any sizes of the writes
and the reads, against any host that moves something in every transfer. -/
theorem storage_round_trip {aes : BlockCipher Bytes Block} (laws : lib.CbcLaws aes)
    (attestEnclave : Bytes → Bytes) {id : Bytes} {start created closed opened : Enclave lib}
    {writer reader : Nat} {writes : List Bytes} {reads : List (Bytes × Nat)}
    (patient : start.Patient)
    (create : (Platform.keystone attestEnclave).step (some start)
      (.create (some id) (teeDataFlagAccessWrite ||| teeDataFlagOverwrite)) =
        (.opened .success (some writer), some created))
    (write_sizes : ∀ buffer ∈ writes,
      Aligned buffer ∧ 0 < buffer.length ∧ buffer.length < 2 ^ 31)
    (written : Machine.final (Platform.keystone attestEnclave).step (some created)
      (writes.map (.write (some writer)) ++ [.close (some writer)]) = some closed)
    (reopen : (Platform.keystone attestEnclave).step (some closed)
      (.open (some id) teeDataFlagAccessRead) = (.opened .success (some reader), some opened))
    (read_sizes : ∀ request ∈ reads, 16 ∣ request.2 ∧ request.2 < 2 ^ 31) :
    let outputs := Machine.outputs (Platform.keystone attestEnclave).step (some opened)
      (reads.map fun request => .read (some reader) request.1 request.2)
    (∀ output ∈ outputs, ∃ call, output = .read call ∧ call.exit = .returned .success) ∧
      outputs.flatMap StorageOutput.data = writes.flatten.take (reads.map Prod.snd).sum ∧
      ∀ index request output, reads[index]? = some request → outputs[index]? = some output →
        output.count < request.2 →
          (outputs.take (index + 1)).flatMap StorageOutput.data = writes.flatten := by
  intro outputs
  obtain ⟨writing, created_transfers, created_mallocs⟩ := Session.of_opens (.inl rfl) create
  have created_steady :=
    (patient.later created_transfers created_mallocs).steady attestEnclave
  obtain ⟨after, position, run, after_steady, after_session⟩ :=
    writing.writes laws _ created_steady rfl (Nat.zero_le _)
      fun buffer member => ⟨(write_sizes buffer member).1, (write_sizes buffer member).2.2⟩
  rw [Machine.final_append, run] at written
  obtain ⟨last, close_eq, files_eq, last_transfers, last_mallocs⟩ :=
    after_session.close (.keystone attestEnclave)
  rw [Machine.final_cons, close_eq, Machine.final_nil] at written
  obtain rfl := Option.some.inj written
  have last_steady := after_steady.later last_transfers last_mallocs
  have stored_eq : last.host.content (cString id) =
      joinBlocks (Cbc.crypt aes ((Platform.keystone attestEnclave).keys.key id) .encrypt
        ((Platform.keystone attestEnclave).keys.iv id) (toBlocks writes.flatten)) := by
    have content := after_session.content
    rw [Host.content, ← files_eq] at content
    exact content.trans (overwrite_length [] _)
  obtain ⟨reading, opened_transfers, opened_mallocs⟩ :=
    Reading.of_opens (.inr rfl) (by decide) (by decide) stored_eq reopen
  have opened_steady := last_steady.later opened_transfers opened_mallocs
  have returns := reading.reads laws _ opened_steady read_sizes
  have plain_eq : joinBlocks (toBlocks writes.flatten) = writes.flatten :=
    joinBlocks_toBlocks (aligned_flatten fun buffer member => (write_sizes buffer member).1)
  refine ⟨?_, ?_, ?_⟩
  · intro output member
    obtain ⟨index, entry⟩ := List.mem_iff_getElem?.mp member
    obtain ⟨slice, _, call, output_eq, exit_eq, _⟩ := Machine.forall₂_getElem? returns entry
    exact ⟨call, output_eq, exit_eq⟩
  · rw [← plain_eq]
    exact reading.reads_data laws _ opened_steady read_sizes
  · intro index request output request_eq output_eq short
    obtain ⟨slice, slice_eq, slice_returns⟩ := Machine.forall₂_getElem? returns output_eq
    have blocks_eq : (reads.map fun request => request.2 / 16)[index]? = some (request.2 / 16) := by
      rw [List.getElem?_map, request_eq, Option.map_some]
    rw [slice_returns.count_eq] at short
    have whole := (read_sizes request (List.mem_of_getElem? request_eq)).1
    have ended := Reader.flatten_take_outputs _ blocks_eq slice_eq (by omega)
    rw [StorageOutput.flatMap_data (List.forall₂_take _ returns), ended, List.drop_zero, plain_eq]

/-- The state after one block was written and the handle closed, seven bytes in each transfer. -/
def publishedClosed : Enclave (.reference vectorCipher) :=
  (Machine.final Platform.publishedKeystone.step
    (some (publishedWriter .publishedKeystone (Stream'.const (.move 7))))
    [.write (some 0) vectorPlain.1, .close (some 0)]).get (by decide +kernel)

/-- The state after the object was opened again. -/
def publishedReader : Enclave (.reference vectorCipher) :=
  (teeOpenPersistentObject Platform.publishedKeystone.keys publishedClosed (some [97])
    teeDataFlagAccessRead).2

/-- Two reads of one block. -/
def publishedReads : List (Bytes × Nat) :=
  [(List.replicate 16 0, 16), (List.replicate 16 0, 16)]

theorem storage_round_trip_published :
    let outputs := Machine.outputs Platform.publishedKeystone.step (some publishedReader)
      (publishedReads.map fun request => .read (some 1) request.1 request.2)
    (∀ output ∈ outputs, ∃ call, output = .read call ∧ call.exit = .returned .success) ∧
      outputs.flatMap StorageOutput.data =
        [vectorPlain.1].flatten.take (publishedReads.map Prod.snd).sum ∧
      ∀ index request output, publishedReads[index]? = some request →
        outputs[index]? = some output → output.count < request.2 →
          (outputs.take (index + 1)).flatMap StorageOutput.data = [vectorPlain.1].flatten := by
  have patient : (Enclave.start (.reference vectorCipher)
      (.empty (Stream'.const (.move 7)))).Patient :=
    ⟨fun _ => Nat.zero_lt_succ 6, fun _ => Option.some_ne_none _⟩
  have reopened : (teeOpenPersistentObject Platform.publishedKeystone.keys publishedClosed
      (some [97]) teeDataFlagAccessRead).1 = (.success, some 1) := by decide +kernel
  have reopen : Platform.publishedKeystone.step (some publishedClosed)
      (.open (some [97]) teeDataFlagAccessRead) =
        (.opened .success (some 1), some publishedReader) := by
    rw [Platform.step_open, reopened]
    rfl
  refine storage_round_trip (Mbedtls.reference_cbcLaws vectorCipher) _ patient
    (publishedWriter_created _ _) ?_ (Option.some_get _).symm reopen ?_
  · simp [Aligned, vectorPlain.2]
  · decide

end TaRef
