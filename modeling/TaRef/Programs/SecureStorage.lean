import TaRef.Programs.Storage

/-!
# The secure storage test and the I/O benchmarks

`gp_secure_storage_test` stores some bytes, reads them back and compares.  `io_write_benchmark` and
`io_read_benchmark` store and load a buffer in 32 parts and ignore every result.
-/

namespace TaRef

/-- The number of a result code. -/
def TeeResult.code : TeeResult → UInt32
  | success => 0x00000000
  | errorGeneric => 0xFFFF0000
  | errorAccessDenied => 0xFFFF0001
  | errorBadParameters => 0xFFFF0006
  | errorItemNotFound => 0xFFFF0008
  | errorNotSupported => 0xFFFF000A
  | errorOutOfMemory => 0xFFFF000C
  | errorSecurity => 0xFFFF000F
  | errorShortBuffer => 0xFFFF0010
  | errorMacInvalid => 0xFFFF3071
  | errorSignatureInvalid => 0xFFFF3072

/-- `memcmp`, on buffers that are long enough. -/
def memcmp : Bytes → Bytes → Nat → Int
  | left :: lefts, right :: rights, count + 1 =>
      if left = right then memcmp lefts rights count else (left.toNat : Int) - right.toNat
  | _, _, _ => 0

theorem memcmp_eq_zero_iff {left right : Bytes} {count : Nat} (left_long : count ≤ left.length)
    (right_long : count ≤ right.length) :
    memcmp left right count = 0 ↔ left.take count = right.take count := by
  induction count generalizing left right with
  | zero =>
      rw [List.take_zero, List.take_zero]
      exact iff_of_true (by cases left <;> cases right <;> rfl) rfl
  | succ count ih =>
      obtain ⟨first, lefts, rfl⟩ := List.exists_cons_of_length_pos (by omega : 0 < left.length)
      obtain ⟨first', rights, rfl⟩ := List.exists_cons_of_length_pos (by omega : 0 < right.length)
      rw [memcmp, List.take_succ_cons, List.take_succ_cons, List.cons.injEq]
      by_cases same : first = first'
      · rw [if_pos same, ih (Nat.le_of_succ_le_succ left_long) (Nat.le_of_succ_le_succ right_long)]
        exact (and_iff_right same).symm
      · rw [if_neg same]
        refine iff_of_false (fun zero => same (UInt8.toNat_inj.mp ?_)) fun equal => same equal.1
        exact Int.ofNat_inj.mp (Int.sub_eq_zero.mp zero)

namespace Program

variable {lib : Mbedtls} {σ τ : Type}

/-- `GP_ASSERT` and what follows it; without `GP_VERBOSE` it is empty. -/
def gpAssert (stdio : Stdio) (verbose : Bool) (function : String) (line : UInt32) (rv : TeeResult)
    (msg : String) (rest : Program σ Unit) : Program σ Unit :=
  if verbose && rv ≠ .success then
    teePrintf stdio (asciiText "%s:%d %s (%x)\n")
      [.string (asciiText function), .int line, .string (asciiText msg), .int rv.code]
  else rest

theorem returns_gpAssert {stdio : Stdio} {verbose : Bool} {function msg : String} {line : UInt32}
    {rest : Program σ Unit} {process after : Process σ} (returns : rest.Returns process () after) :
    (gpAssert stdio verbose function line .success msg rest).Returns process () after := by
  simpa [gpAssert] using returns

/-- The last lines of the tests: compare what was computed with the data. -/
def verify (stdio : Stdio) (out data : Bytes) (length : Nat) : Program σ Unit :=
  if memcmp out data length = 0 then teePrintf stdio (asciiText "verify ok\n") []
  else teePrintf stdio (asciiText "verify fails\n") []

/-- `gp_secure_storage_test`; `data` is `test.dat`. -/
def gpSecureStorageTest (platform : Platform) (stdio : Stdio) (verbose : Bool) (data : Bytes) :
    Program (Enclave lib × τ) Unit := do
  let assert := gpAssert stdio verbose "gp_secure_storage_test"
  let (rv, object) ← createPersistentObject platform (asciiText "FileOne")
  assert 77 rv "TEE_CreatePersistentObject fails" do
    let object ← valueOf object
    let rv ← writeObjectData platform object (data.take 256)
    assert 81 rv "TEE_WriteObjectData fails" do
      closeObject object
      let (rv, opened) ← openPersistentObject platform (asciiText "FileOne")
      assert 93 rv "TEE_OpenPersistentObject fails" do
        -- an `open` that fails leaves the closed handle in the variable
        let object := opened.getD object
        let (rv, buf, count) ← readObjectData platform object (List.replicate 256 0) 256
        assert 97 rv "TEE_ReadObjectData fails" do
          closeObject object
          let count ← valueOf count
          teePrintf stdio (asciiText "%d bytes read: ") [.int (UInt32.ofNat count)]
          dump stdio Printf.hexFormat (buf.take count)
          teePrintf stdio (asciiText "\n") []
          verify stdio buf data 256

/-- The part of a buffer that iteration `i` of the benchmarks moves. -/
def part (buf : Bytes) (size i : Nat) : Bytes := (buf.drop (i * size / 32)).take (size / 32)

/-- The loop of `io_write_benchmark` from iteration `i` on. -/
def ioWriteLoop (platform : Platform) (object : Nat) (buf : Bytes) (size i : Nat) :
    Nat → Program (Enclave lib × τ) Unit
  | 0 => pure ()
  | left + 1 => do
      let _ ← writeObjectData platform object (part buf size i)
      ioWriteLoop platform object buf size (i + 1) left

/-- `io_write_benchmark`, with a `size` for which `i*size` is an `int`. -/
def ioWriteBenchmark (platform : Platform) (buf fname : Bytes) (size : Nat) :
    Program (Enclave lib × τ) Unit := do
  let (_, object) ← createPersistentObject platform fname
  let object ← valueOf object
  ioWriteLoop platform object buf size 0 32
  closeObject object

/-- The loop of `io_read_benchmark` from iteration `i` on; it returns the buffer. -/
def ioReadLoop (platform : Platform) (object : Nat) (buf : Bytes) (size i : Nat) :
    Nat → Program (Enclave lib × τ) Bytes
  | 0 => pure buf
  | left + 1 => do
      let b := i * size / 32
      let (_, read, _) ← readObjectData platform object (buf.drop b) (size / 32)
      ioReadLoop platform object (buf.take b ++ read) size (i + 1) left

/-- `io_read_benchmark`, with a `size` for which `i*size` is an `int`. -/
def ioReadBenchmark (platform : Platform) (buf fname : Bytes) (size : Nat) :
    Program (Enclave lib × τ) Bytes := do
  let (_, object) ← openPersistentObject platform fname
  let object ← valueOf object
  let buf ← ioReadLoop platform object buf size 0 32
  closeObject object
  return buf

/-- What the test prints of its data. -/
def storageText (data : Bytes) : Bytes :=
  asciiText "256 bytes read: " ++ data.flatMap Printf.hexText ++ asciiText "\n" ++
    asciiText "verify ok\n"

/-! ## The test -/

section Test

variable {aes : BlockCipher Bytes Block} (laws : lib.CbcLaws aes) (platform : Platform)
  (stdio : Stdio)

/-- What the test prints first. -/
theorem returns_bytesRead (process : Process σ) :
    (teePrintf stdio (asciiText "%d bytes read: ") [.int (UInt32.ofNat 256)]).Returns process ()
      { process with printed := process.printed ++ asciiText "256 bytes read: " } := by
  have sends : Printf.fctprintf Printf.Doubles.exact stdio.charType Printf.collect []
      (asciiText "%d bytes read: ") [.int (UInt32.ofNat 256)] =
        .ok (16, asciiText "256 bytes read: " ++ [0]) := by
    cases stdio.charType <;> decide +kernel
  have moderate : Printf.Moderate Printf.Doubles.exact
      [Printf.Argument.int (UInt32.ofNat 256)] := fun value member => by
    simp at member
  exact returns_teePrintf moderate sends (by decide) (by decide) process

/-- Equal buffers verify. -/
theorem returns_verify {out data : Bytes} {length : Nat} (out_long : length ≤ out.length)
    (data_long : length ≤ data.length) (same : out.take length = data.take length)
    (process : Process σ) :
    (verify stdio out data length).Returns process ()
      { process with printed := process.printed ++ asciiText "verify ok\n" } := by
  rw [verify, if_pos ((memcmp_eq_zero_iff out_long data_long).mpr same)]
  exact returns_message (by decide +kernel) (by decide) process

include laws

/-- On a host that grants everything the test gets its data back. -/
theorem returns_gpSecureStorageTest (verbose : Bool) {tee : Enclave lib}
    (obliging : tee.Obliging platform) {data : Bytes} (data_length : data.length = 256) (rest : τ)
    (printed : Bytes) :
    ∃ after,
      (gpSecureStorageTest platform stdio verbose data).Returns ⟨(tee, rest), printed⟩ ()
          ⟨(after, rest), printed ++ storageText data⟩ ∧
        after.Obliging platform := by
  have aligned : Aligned data := ⟨16, data_length⟩
  have whole : data.take 256 = data := List.take_of_length_le data_length.le
  obtain ⟨index, created, creates, obliging, writing⟩ :=
    @returns_create lib τ platform tee (asciiText "FileOne") aes obliging (by decide) rest printed
  obtain ⟨written, writes, obliging, writing⟩ :=
    returns_write laws obliging writing aligned (by omega) (by omega) rest printed
  obtain ⟨closed, closes, obliging, files_eq⟩ :=
    returns_close obliging writing.session rest printed
  have stores := writing.stores files_eq
  rw [List.nil_append] at stores
  obtain ⟨reader, opened, opens, obliging, -, session⟩ :=
    returns_open obliging (by decide) stores.present rest printed
  obtain ⟨read, buf, reads, obliging, -, buf_eq, reading⟩ :=
    @returns_readStored lib τ aes platform opened reader _ laws _ _ _ 0 256 obliging
      (stores.reading session) (by decide) (by decide) (List.replicate 256 0) rest printed
  obtain ⟨last, closes', obliging, -⟩ := returns_close obliging reading rest printed
  have blocks_eq : ((toBlocks data).drop 0).take (256 / 16) = toBlocks data := by
    rw [List.drop_zero, List.take_of_length_le]
    rw [length_toBlocks, data_length]
  have count_eq : 16 * (toBlocks data).length = 256 := by
    rw [length_toBlocks, data_length]
  rw [blocks_eq, count_eq] at reads buf_eq
  rw [joinBlocks_toBlocks aligned] at buf_eq
  have buf_long : 256 ≤ buf.length := by
    have length := congrArg List.length buf_eq
    rw [List.length_take, data_length] at length
    omega
  refine ⟨last, ?_, obliging⟩
  rw [storageText, ← List.append_assoc, ← List.append_assoc, ← List.append_assoc]
  unfold gpSecureStorageTest
  refine returns_bind creates (returns_gpAssert (returns_bind (returns_valueOf _ _) ?_))
  rw [whole]
  refine returns_bind writes (returns_gpAssert (returns_bind closes (returns_bind opens ?_)))
  refine returns_gpAssert (returns_bind reads (returns_gpAssert (returns_bind closes' ?_)))
  refine returns_bind (returns_valueOf _ _) (returns_bind (returns_bytesRead stdio _) ?_)
  rw [buf_eq]
  refine returns_bind (returns_dump (returns_hex stdio) data _) (returns_bind
    (returns_message (by decide +kernel) (by decide) _) ?_)
  exact returns_verify stdio buf_long data_length.ge (buf_eq.trans whole.symm) _

/-- On a host that grants everything every run of the test prints the data and that it verified
them. -/
theorem gp_secure_storage_test_verifies (verbose : Bool) {tee : Enclave lib}
    (obliging : tee.Obliging platform) {data : Bytes} (data_length : data.length = 256)
    (count : Nat) (printed : Bytes) :
    ∃ after,
      (times (gpSecureStorageTest platform stdio verbose data) count).Returns
        ⟨(tee, ()), printed⟩ ()
        ⟨(after, ()), printed ++ (List.replicate count (storageText data)).flatten⟩ := by
  let keeps : Enclave lib × Unit → Prop := fun state => state.1.Obliging platform
  have once : ∀ state printed, keeps state → ∃ after,
      (gpSecureStorageTest platform stdio verbose data).Returns ⟨state, printed⟩ ()
        ⟨after, printed ++ storageText data⟩ ∧ keeps after := by
    rintro ⟨tee, rest⟩ printed obliging
    obtain ⟨after, returns, obliging⟩ :=
      returns_gpSecureStorageTest laws platform stdio verbose obliging data_length rest printed
    exact ⟨(after, rest), returns, obliging⟩
  obtain ⟨⟨after, ⟨⟩⟩, returns, -⟩ := @returns_times _ _ keeps _ once count (tee, ()) obliging printed
  exact ⟨after, returns⟩

end Test

/-- A fresh application on a Keystone host that moves seven bytes at a time. -/
theorem obliging_fresh (aes : BlockCipher Bytes Block) :
    (Enclave.start (.reference aes) (.empty (Stream'.const (.move 7)))).Obliging
      Platform.publishedKeystone where
  steady := Enclave.Patient.steady _ ⟨fun _ => Nat.zero_lt_succ 6, fun _ => Option.some_ne_none _⟩
  opens _ := rfl
  derives _ := rfl

/-- Data whose blocks all become the example block when they are chained. -/
def publishedData (count : Nat) : Bytes :=
  joinBlocks (vectorPlain :: List.replicate count (blockOf 0x8eb395f9153223c86265e32b87948e76))

theorem length_publishedData (count : Nat) :
    (publishedData count).length = 16 * (count + 1) := by
  rw [publishedData, length_joinBlocks, List.length_cons, List.length_replicate]

/-- The test with such data. -/
theorem gp_secure_storage_test_verifies_published :
    ∃ after,
      (times (gpSecureStorageTest Platform.publishedKeystone .usual true (publishedData 15))
          2).Returns
        ⟨(Enclave.start (.reference vectorCipher) (.empty (Stream'.const (.move 7))), ()), []⟩ ()
        ⟨(after, ()), [] ++ (List.replicate 2 (storageText (publishedData 15))).flatten⟩ :=
  gp_secure_storage_test_verifies (Mbedtls.reference_cbcLaws vectorCipher) _ .usual true
    (obliging_fresh vectorCipher) (length_publishedData 15) 2 []

/-! ## The benchmarks -/

section Benchmarks

variable {aes : BlockCipher Bytes Block} (laws : lib.CbcLaws aes) (platform : Platform)

/-- The parts of a buffer whose size has 512 as a divisor. -/
theorem part_eq (buf : Bytes) (blocks i : Nat) :
    part buf (512 * blocks) i = (buf.drop (i * (16 * blocks))).take (16 * blocks) := by
  have offset : i * (512 * blocks) / 32 = i * (16 * blocks) := by
    rw [show i * (512 * blocks) = i * (16 * blocks) * 32 by ring, Nat.mul_div_cancel _ (by decide)]
  have length : 512 * blocks / 32 = 16 * blocks := by omega
  rw [part, offset, length]

include laws

/-- The writing loop stores the parts from iteration `i` on. -/
theorem returns_ioWriteLoop {buf fname : Bytes} {blocks : Nat} (blocks_pos : 0 < blocks)
    (buf_length : buf.length = 512 * blocks) (small : 16 * blocks < 2 ^ 31) {index i left : Nat}
    (iterations : i + left = 32) {tee : Enclave lib} (obliging : tee.Obliging platform)
    (writing : tee.Writing platform aes index fname (buf.take (i * (16 * blocks)))) (rest : τ)
    (printed : Bytes) :
    ∃ after,
      (ioWriteLoop platform index buf (512 * blocks) i left).Returns ⟨(tee, rest), printed⟩ ()
          ⟨(after, rest), printed⟩ ∧
        after.Obliging platform ∧ after.Writing platform aes index fname buf := by
  induction left generalizing i tee with
  | zero =>
      obtain rfl : i = 32 := iterations
      refine ⟨tee, returns_pure () _, obliging, ?_⟩
      rwa [List.take_of_length_le (by rw [buf_length]; omega)] at writing
  | succ left ih =>
      have inside : (i + 1) * (16 * blocks) ≤ 512 * blocks := by
        rw [show 512 * blocks = 32 * (16 * blocks) by ring]
        exact Nat.mul_le_mul_right _ (by omega)
      have part_length : (part buf (512 * blocks) i).length = 16 * blocks := by
        rw [part_eq, List.length_take, List.length_drop, buf_length]
        rw [Nat.add_one_mul] at inside
        omega
      obtain ⟨middle, writes, obliging, writing⟩ :=
        @returns_write lib τ aes platform tee index fname _ laws obliging writing
          (part buf (512 * blocks) i) ⟨blocks, part_length⟩ (by omega) (by omega) rest printed
      rw [part_eq, ← List.take_add, ← Nat.add_one_mul] at writing
      obtain ⟨after, loops, obliging, writing⟩ :=
        ih (by omega) obliging writing
      exact ⟨after, returns_bind writes loops, obliging, writing⟩

/-- The reading loop fills the parts from iteration `i` on with what is stored. -/
theorem returns_ioReadLoop {key path plain : Bytes} {nonce : Block} {blocks : Nat}
    (plain_length : plain.length = 512 * blocks) (small : 16 * blocks < 2 ^ 31) {index i left : Nat}
    (iterations : i + left = 32) {tee : Enclave lib} (obliging : tee.Obliging platform)
    (reading : Reading tee index path aes key nonce (toBlocks plain) (i * blocks)) {buf : Bytes}
    (filled : buf.take (i * (16 * blocks)) = plain.take (i * (16 * blocks))) (rest : τ)
    (printed : Bytes) :
    ∃ after buf',
      (ioReadLoop platform index buf (512 * blocks) i left).Returns ⟨(tee, rest), printed⟩ buf'
          ⟨(after, rest), printed⟩ ∧
        after.Obliging platform ∧ after.host.files = tee.host.files ∧
        buf'.take (512 * blocks) = plain ∧
        Reading after index path aes key nonce (toBlocks plain) (32 * blocks) := by
  have aligned : Aligned plain := ⟨32 * blocks, by omega⟩
  induction left generalizing i tee buf with
  | zero =>
      obtain rfl : i = 32 := iterations
      refine ⟨tee, buf, returns_pure buf _, obliging, rfl, ?_, reading⟩
      rw [show 512 * blocks = 32 * (16 * blocks) by ring, filled]
      exact List.take_of_length_le (by omega)
  | succ left ih =>
      have offset : i * (512 * blocks) / 32 = i * (16 * blocks) := by
        rw [show i * (512 * blocks) = i * (16 * blocks) * 32 by ring,
          Nat.mul_div_cancel _ (by decide)]
      have chunk : 512 * blocks / 32 = 16 * blocks := by omega
      have inside : (i + 1) * (16 * blocks) ≤ 512 * blocks := by
        rw [show 512 * blocks = 32 * (16 * blocks) by ring]
        exact Nat.mul_le_mul_right _ (by omega)
      rw [Nat.add_one_mul] at inside
      obtain ⟨middle, read, reads, obliging, files_eq, read_eq, next⟩ :=
        @returns_readStored lib τ aes platform tee index key laws path (toBlocks plain) nonce
          (i * blocks) (16 * blocks) obliging reading ⟨blocks, rfl⟩ (by omega)
          (buf.drop (i * (16 * blocks))) rest printed
      have slice_length : ((toBlocks plain).drop (i * blocks)).length ≥ blocks := by
        rw [List.length_drop, length_toBlocks, plain_length]
        have position : 16 * (i * blocks) = i * (16 * blocks) := by ring
        omega
      rw [Nat.mul_div_cancel_left _ (by decide : 0 < 16), List.length_take,
        Nat.min_eq_left slice_length] at reads read_eq next
      rw [← Nat.add_one_mul] at next
      have part_eq : read.take (16 * blocks) =
          (plain.drop (i * (16 * blocks))).take (16 * blocks) := by
        rw [read_eq, ← joinBlocks_take, ← joinBlocks_drop, joinBlocks_toBlocks aligned]
        rw [show 16 * (i * blocks) = i * (16 * blocks) by ring]
      have before_length : (buf.take (i * (16 * blocks))).length = i * (16 * blocks) := by
        rw [filled, List.length_take, plain_length]
        omega
      have filled' : (buf.take (i * (16 * blocks)) ++ read).take ((i + 1) * (16 * blocks)) =
          plain.take ((i + 1) * (16 * blocks)) := by
        rw [Nat.add_one_mul, List.take_append, before_length, Nat.add_sub_cancel_left, part_eq,
          List.take_of_length_le (by omega), filled, ← List.take_add]
      obtain ⟨after, buf', loops, obliging, files_eq', whole, last⟩ :=
        ih (by omega) obliging next filled'
      refine ⟨after, buf', ?_, obliging, files_eq'.trans files_eq, whole, last⟩
      rw [ioReadLoop]
      dsimp only
      rw [offset, chunk]
      exact returns_bind reads loops

/-- The writing benchmark stores its buffer. -/
theorem returns_ioWriteBenchmark {buf fname : Bytes} {size : Nat} (size_pos : 0 < size)
    (whole : 512 ∣ size) (size_lt : 31 * size < 2 ^ 31) (buf_length : buf.length = size)
    (short : fname.length ≤ teeObjectIdMaxLen) {tee : Enclave lib}
    (obliging : tee.Obliging platform) (rest : τ) (printed : Bytes) :
    ∃ after,
      (ioWriteBenchmark platform buf fname size).Returns ⟨(tee, rest), printed⟩ ()
          ⟨(after, rest), printed⟩ ∧
        after.Obliging platform ∧ after.Stores platform aes fname buf := by
  obtain ⟨blocks, rfl⟩ := whole
  obtain ⟨index, created, creates, obliging, writing⟩ :=
    returns_create aes obliging short rest printed
  have nothing : buf.take (0 * (16 * blocks)) = [] := by rw [Nat.zero_mul, List.take_zero]
  obtain ⟨written, loops, obliging, writing⟩ :=
    @returns_ioWriteLoop lib τ aes laws platform buf fname blocks (by omega) buf_length (by omega)
      index 0 32 rfl created obliging (nothing ▸ writing) rest printed
  obtain ⟨closed, closes, obliging, files_eq⟩ :=
    returns_close obliging writing.session rest printed
  exact ⟨closed, returns_bind creates (returns_bind (returns_valueOf _ _) (returns_bind loops
    closes)), obliging, writing.stores files_eq⟩

/-- The reading benchmark fills its buffer with what is stored, and leaves it stored. -/
theorem returns_ioReadBenchmark {buf scratch fname : Bytes} {size : Nat} (whole : 512 ∣ size)
    (size_lt : 31 * size < 2 ^ 31) (buf_length : buf.length = size)
    (short : fname.length ≤ teeObjectIdMaxLen) {tee : Enclave lib}
    (obliging : tee.Obliging platform) (stores : tee.Stores platform aes fname buf) (rest : τ)
    (printed : Bytes) :
    ∃ after buf',
      (ioReadBenchmark platform scratch fname size).Returns ⟨(tee, rest), printed⟩ buf'
          ⟨(after, rest), printed⟩ ∧
        after.Obliging platform ∧ after.host.files = tee.host.files ∧ buf'.take size = buf := by
  obtain ⟨blocks, rfl⟩ := whole
  obtain ⟨reader, opened, opens, obliging, files_eq, session⟩ :=
    returns_open obliging short stores.present rest printed
  have start : Reading opened reader (cString fname) aes (platform.keys.key fname)
      (platform.keys.iv fname) (toBlocks buf) (0 * blocks) := by
    rw [Nat.zero_mul]
    exact stores.reading session
  obtain ⟨read, buf', loops, obliging, files_eq', filled, reading⟩ :=
    @returns_ioReadLoop lib τ aes laws platform _ _ buf _ blocks buf_length (by omega) reader 0 32
      rfl opened obliging start scratch (by simp) rest printed
  obtain ⟨last, closes, obliging, files_eq''⟩ := returns_close obliging reading rest printed
  exact ⟨last, buf', returns_bind opens (returns_bind (returns_valueOf _ _) (returns_bind loops
    (returns_bind closes (returns_pure _ _)))), obliging,
    files_eq''.trans (files_eq'.trans files_eq), filled⟩

/-- What one benchmark writes the other reads, whatever is in its buffer before. -/
theorem io_benchmarks_round_trip {buf scratch fname : Bytes} {size : Nat} (size_pos : 0 < size)
    (whole : 512 ∣ size) (size_lt : 31 * size < 2 ^ 31) (buf_length : buf.length = size)
    (short : fname.length ≤ teeObjectIdMaxLen) {tee : Enclave lib}
    (obliging : tee.Obliging platform) (rest : τ) (printed : Bytes) :
    ∃ after buf',
      (do ioWriteBenchmark platform buf fname size
          ioReadBenchmark platform scratch fname size :
            Program (Enclave lib × τ) Bytes).Returns
        ⟨(tee, rest), printed⟩ buf' ⟨(after, rest), printed⟩ ∧ buf'.take size = buf := by
  obtain ⟨written, writes, obliging, stores⟩ := returns_ioWriteBenchmark laws platform size_pos
    whole size_lt buf_length short obliging rest printed
  obtain ⟨after, buf', reads, -, -, filled⟩ := @returns_ioReadBenchmark lib τ aes laws platform buf
    scratch fname size whole size_lt buf_length short written obliging stores rest printed
  exact ⟨after, buf', returns_bind writes reads, filled⟩

end Benchmarks

/-- The size of the benchmarks. -/
theorem io_benchmarks_round_trip_published :
    ∃ after buf',
      (do ioWriteBenchmark Platform.publishedKeystone (publishedData 65535)
            (asciiText "benchmark") 1048576
          ioReadBenchmark Platform.publishedKeystone (List.replicate 1048576 0)
            (asciiText "benchmark") 1048576 :
            Program (Enclave (.reference vectorCipher) × Unit) Bytes).Returns
        ⟨(Enclave.start (.reference vectorCipher) (.empty (Stream'.const (.move 7))), ()), []⟩
        buf' ⟨(after, ()), []⟩ ∧
        buf'.take 1048576 = publishedData 65535 :=
  io_benchmarks_round_trip (Mbedtls.reference_cbcLaws vectorCipher) _ (by decide)
    ⟨2048, by decide⟩ (by decide) (length_publishedData 65535) (by decide)
    (obliging_fresh vectorCipher) () []

end Program
end TaRef
