import TaRef.Storage.Run

/-!
# What one read or write does

One specification of `TEE_WriteObjectData` and one of `TEE_ReadObjectData` cover both platforms.
The host receives a prefix of the ciphertext, all of it exactly when its decisions complete the
platform's transfer; a read that the host completes returns the decryption of the next bytes of the
file.
-/

namespace TaRef

/-- The descriptor is open for writing. -/
def Host.Writable (host : Host) (fd : Int) : Prop :=
  ∃ file, host.openFile? fd = some file ∧ file.writable = true

theorem Host.write_of_not_writable {host : Host} {fd : Int} (closed : ¬ host.Writable fd)
    (chunk : Bytes) : host.write fd chunk = (-1, host) := by
  unfold write
  cases opened : host.openFile? fd with
  | none => rfl
  | some file =>
      have read_only : ¬ file.writable = true := fun writable => closed ⟨file, opened, writable⟩
      simp [read_only]

/-- The descriptor is open for reading. -/
def Host.Readable (host : Host) (fd : Int) : Prop :=
  ∃ file, host.openFile? fd = some file ∧ file.readable = true

theorem Host.not_readable_of_opened {host : Host} {fd : Int} {file : OpenFile}
    (opened : host.openFile? fd = some file) (closed : file.readable = false) :
    ¬ host.Readable fd := by
  rintro ⟨other, other_opened, readable⟩
  obtain rfl : file = other := Option.some.inj (opened.symm.trans other_opened)
  rw [closed] at readable
  exact nomatch readable

theorem Host.read_of_not_readable {host : Host} {fd : Int} (closed : ¬ host.Readable fd)
    (count : Nat) : host.read fd count = ((-1, []), host) := by
  unfold read
  cases opened : host.openFile? fd with
  | none => rfl
  | some file =>
      have write_only : ¬ file.readable = true := fun readable => closed ⟨file, opened, readable⟩
      simp [write_only]

/-- A read loop on a descriptor that is not open for reading fails at once. -/
theorem Keyedge.ocallReadFileFull_of_not_readable {host : Host} {fd : Int}
    (closed : ¬ host.Readable fd) (buf : Bytes) {count : Nat} (count_pos : 0 < count) :
    ocallReadFileFull host fd buf count = some (-1, host, buf) := by
  have refused := Host.read_of_not_readable closed
  rw [ocallReadFileFull, transferLoop_fuel_succ, if_pos count_pos]
  simp only [ocallReadFile, ocallReadFile256, refused, Int.toNat_zero, List.drop_zero,
    List.take_zero, List.nil_append]
  rfl

variable {lib : Mbedtls}

/-- The write reaches the host with some bytes. -/
def Enclave.Attempts (tee : Enclave lib) (buffer : Bytes) : Prop :=
  Aligned buffer ∧ 0 < buffer.length ∧ tee.mallocs.head.isSome = true

/-- The file description behind a handle. -/
def Enclave.openFile? (tee : Enclave lib) (object : Option Nat) : Option OpenFile :=
  (tee.persistent? object).bind fun handle => tee.host.openFile? handle.desc

instance (tee : Enclave lib) (buffer : Bytes) : Decidable (tee.Attempts buffer) :=
  inferInstanceAs (Decidable (_ ∧ _))

/-- Bytes that the platform moves for a buffer: in transfers of at most 256 bytes on Keystone, in
one transfer on SGX. -/
def Platform.moved : Platform → Stream' Transfer → Nat → Nat
  | keystone _, transfers, size => bytesMoved 256 transfers size
  | sgx _ _ _, transfers, size =>
      match transfers.head with
      | .refuse _ => 0
      | .move amount => min amount size

/-- The decisions of the host move the whole buffer. -/
def Platform.Completes (platform : Platform) (transfers : Stream' Transfer) (size : Nat) : Prop :=
  platform.moved transfers size = size

/-- The host refuses the first transfer of a read; Keystone asks for none when nothing is to be
read. -/
def Platform.Refuses : Platform → Stream' Transfer → Nat → Prop
  | keystone _, transfers, size => 0 < size ∧ ∃ code, transfers.head = .refuse code
  | sgx _ _ _, transfers, _ => ∃ code, transfers.head = .refuse code

theorem Platform.not_refuses (platform : Platform) {transfers : Stream' Transfer} {amount : Nat}
    (head : transfers.head = .move amount) (size : Nat) :
    ¬ platform.Refuses transfers size := by
  cases platform with
  | keystone attestEnclave => simp [Refuses, head]
  | sgx reportKey sealKey sha3 => simp [Refuses, head]

theorem Platform.moved_le (platform : Platform) (transfers : Stream' Transfer) (size : Nat) :
    platform.moved transfers size ≤ size := by
  cases platform with
  | keystone attestEnclave => exact bytesMoved_le _ _ _
  | sgx reportKey sealKey sha3 =>
      simp only [moved]
      cases transfers.head with
      | refuse code => exact Nat.zero_le _
      | move amount => exact Nat.min_le_right _ _

theorem Platform.moved_of_refuse (platform : Platform) {transfers : Stream' Transfer}
    {code : Fin (2 ^ 31)} (head : transfers.head = .refuse code) (size : Nat) :
    platform.moved transfers size = 0 := by
  cases platform with
  | keystone attestEnclave => exact bytesMoved_of_refuse head size
  | sgx reportKey sealKey sha3 => simp only [moved, head]

/-- Result code of a write to an open file, given the host's first decision. -/
def writeResult : Transfer → TeeResult
  | .refuse _ => .errorGeneric
  | .move _ => .success

/-- The state after a write advanced the chaining value and used one allocation. -/
def Enclave.chained (tee : Enclave lib) (object : Option Nat) (handle : StoredObject lib)
    (iv : Block) (host : Host) : Enclave lib :=
  { tee.setObject object { handle with persistIv := iv } with
    host, mallocs := tee.mallocs.tail }

/-! ## The ocalls of a write -/

section OcallWrite

variable (platform : Platform) {host : Host} {fd : Int} {data : Bytes}

/-- A descriptor that is not open for writing takes nothing. -/
theorem ocallWrite_not_writable {size : Nat} (aligned : 16 ∣ size) (size_pos : 0 < size)
    (closed : ¬ host.Writable fd) :
    platform.ocallWrite host fd data size = some (-1, host) ∧
      platform.writeCode size (-1) = .errorGeneric := by
  cases platform with
  | keystone attestEnclave =>
      refine ⟨?_, rfl⟩
      simp [Platform.ocallWrite, Keyedge.ocallWriteFileFull, transferLoop_fuel_succ, size_pos,
        Keyedge.ocallWriteFile, Keyedge.ocallWriteFile256, Host.write_of_not_writable closed]
  | sgx reportKey sealKey sha3 =>
      have size_ne : ¬ (4294967295 : Int) = size := by omega
      constructor
      · simp [Platform.ocallWrite, Sgx.ocallWriteFile, Host.write_of_not_writable closed, wrapInt]
      · simp [Platform.writeCode, size_ne]

/-- A write of nothing to a file open for writing. -/
theorem ocallWrite_nil {file : OpenFile} (opened : host.openFile? fd = some file)
    (writable : file.writable = true) {amount : Nat}
    (accepted : host.transfers.head = .move amount) :
    ∃ taken, platform.ocallWrite host fd [] 0 = some (0, host.skip taken) := by
  cases platform with
  | keystone attestEnclave => exact ⟨0, Keyedge.ocallWriteFileFull_zero host fd []⟩
  | sgx reportKey sealKey sha3 =>
      refine ⟨1, ?_⟩
      simp [Platform.ocallWrite, Sgx.ocallWriteFile, Host.write, opened, writable, accepted,
        wrapInt, ← Host.nextTransfer_skip]

/-- A file open for writing takes what the host decides to move. -/
theorem ocallWrite_spec (data_pos : 0 < data.length) (data_lt : data.length < 2 ^ 31)
    {file : OpenFile} (opened : host.openFile? fd = some file) (writable : file.writable = true) :
    ∃ n taken, platform.ocallWrite host fd data data.length =
        some (n, (host.skip taken).deliver fd
          (data.take (platform.moved host.transfers data.length))) ∧
      platform.writeCode data.length n = writeResult host.transfers.head := by
  cases platform with
  | keystone attestEnclave =>
      obtain ⟨taken, run⟩ := Keyedge.ocallWriteFileFull_spec data opened writable data_pos data_lt
      refine ⟨_, taken, run, ?_⟩
      cases host.transfers.head with
      | refuse code => simp [Platform.writeCode, loopResult, writeResult, Int.negSucc_lt_zero]
      | move amount =>
          have counted : ¬ (bytesMoved 256 host.transfers data.length : Int) < 0 := by omega
          simp [Platform.writeCode, loopResult, writeResult, counted]
  | sgx reportKey sealKey sha3 =>
      simp only [Platform.ocallWrite, Sgx.ocallWriteFile, Host.write, opened, writable, if_true,
        Platform.moved]
      cases host.transfers.head with
      | refuse code =>
          have size_ne : ¬ Int.negSucc code.val % 2 ^ 32 = data.length := by omega
          refine ⟨Int.negSucc code.val, 1, ?_, ?_⟩
          · simp [wrapInt_negSucc, ← Host.nextTransfer_skip]
          · simp only [Platform.writeCode, if_neg size_ne, if_pos (Int.negSucc_lt_zero _),
              writeResult]
      | move amount =>
          have taken_length : (data.take amount).length = min amount data.length := List.length_take
          have taken_eq : data.take amount = data.take (min amount data.length) := by
            rw [List.take_eq_take_iff]
            omega
          have small : min amount data.length < 2 ^ 31 := by omega
          have counted : ¬ ((min amount data.length : Nat) : Int) < 0 := by omega
          refine ⟨(min amount data.length : Nat), 1, ?_, ?_⟩
          · simp only [taken_length, wrapInt_of_lt small]
            simp only [taken_eq, ← Host.nextTransfer_skip, Host.skip_zero]
          · simp only [Platform.writeCode, if_neg counted, ite_self, writeResult]

end OcallWrite

section Write

variable {aes : BlockCipher Bytes Block} (laws : lib.CbcLaws aes) (platform : Platform)
  {tee : Enclave lib} {object : Option Nat} {handle : StoredObject lib} {key : Bytes}
  {context : lib.AesContext} {residue : Memory} {buffer : Bytes}

/-- A write to a handle whose descriptor is not open for writing fails, after it moved the chaining
value. -/
theorem writeObjectData_not_writable (found : tee.persistent? object = some handle)
    (allocated : tee.mallocs.head = some residue) (aligned : Aligned buffer)
    (buffer_pos : 0 < buffer.length) (closed : ¬ tee.host.Writable handle.desc) :
    platform.writeObjectData tee object buffer =
      (.returned .errorGeneric, tee.chained object handle
        (lib.aesCryptCbc handle.persistCtx .encrypt handle.persistIv buffer).iv tee.host) := by
  have whole : ¬ buffer.length % 16 ≠ 0 := not_not.mpr (Nat.mod_eq_zero_of_dvd aligned)
  obtain ⟨refused, code_eq⟩ := @ocallWrite_not_writable platform tee.host handle.desc
    (overwrite (Memory.read residue 0 buffer.length) 0
      (lib.aesCryptCbc handle.persistCtx .encrypt handle.persistIv buffer).output)
    buffer.length aligned buffer_pos closed
  simp only [Platform.writeObjectData_eq, found, if_neg whole, allocated, Platform.send,
    Enclave.setObject, refused, code_eq, Enclave.chained]

include laws

/-- A write of nothing to a file open for writing stores nothing. -/
theorem writeObjectData_nil (found : tee.persistent? object = some handle)
    (allocated : tee.mallocs.head = some residue) {file : OpenFile}
    (opened : tee.host.openFile? handle.desc = some file) (writable : file.writable = true)
    {amount : Nat} (accepted : tee.host.transfers.head = .move amount) :
    ∃ taken, platform.writeObjectData tee object [] =
      (.returned .success,
        tee.chained object handle handle.persistIv (tee.host.skip taken)) := by
  obtain ⟨taken, run⟩ := ocallWrite_nil platform opened writable accepted
  refine ⟨taken, ?_⟩
  simp [Platform.writeObjectData_eq, found, allocated, Platform.send, laws.empty, Memory.read, run,
    Platform.writeCode_zero, Enclave.chained, Enclave.setObject]

private theorem ciphertext_eq (residue : Memory)
    (keyed : handle.persistCtx = lib.aesSetkey .encrypt (lib.aesInit context) key)
    (aligned : Aligned buffer) :
    overwrite (Memory.read residue 0 buffer.length) 0
        (lib.aesCryptCbc handle.persistCtx .encrypt handle.persistIv buffer).output =
      joinBlocks (Cbc.crypt aes key .encrypt handle.persistIv (toBlocks buffer)) := by
  obtain ⟨count, length_eq⟩ := aligned
  rw [keyed, laws.crypt _ _ _ _ _ ⟨count, length_eq⟩]
  simp [overwrite]
  omega

/-- What a write does to a file open for writing, on either platform. -/
theorem writeObjectData_spec (found : tee.persistent? object = some handle)
    (keyed : handle.persistCtx = lib.aesSetkey .encrypt (lib.aesInit context) key)
    (allocated : tee.mallocs.head = some residue) (aligned : Aligned buffer)
    (buffer_pos : 0 < buffer.length) (buffer_lt : buffer.length < 2 ^ 31) {file : OpenFile}
    (opened : tee.host.openFile? handle.desc = some file) (writable : file.writable = true) :
    ∃ taken, platform.writeObjectData tee object buffer =
      (.returned (writeResult tee.host.transfers.head),
        tee.chained object handle
          (Cbc.chainAfter aes key .encrypt handle.persistIv (toBlocks buffer))
          ((tee.host.skip taken).deliver handle.desc
            ((joinBlocks (Cbc.crypt aes key .encrypt handle.persistIv (toBlocks buffer))).take
              (platform.moved tee.host.transfers buffer.length)))) := by
  have whole : ¬ buffer.length % 16 ≠ 0 := by
    rw [not_not]
    exact Nat.mod_eq_zero_of_dvd aligned
  have data_eq := ciphertext_eq laws residue keyed aligned
  have iv_eq : (lib.aesCryptCbc handle.persistCtx .encrypt handle.persistIv buffer).iv =
      Cbc.chainAfter aes key .encrypt handle.persistIv (toBlocks buffer) := by
    rw [keyed, laws.crypt _ _ _ _ _ aligned]
  set cipher := joinBlocks (Cbc.crypt aes key .encrypt handle.persistIv (toBlocks buffer))
    with cipher_eq
  have cipher_length : cipher.length = buffer.length := Cbc.length_joinBlocks_crypt _ _ _ _ aligned
  obtain ⟨n, taken, run, code_eq⟩ :=
    @ocallWrite_spec platform tee.host handle.desc cipher (by omega) (by omega) file opened writable
  rw [cipher_length] at run code_eq
  refine ⟨taken, ?_⟩
  simp only [Platform.writeObjectData_eq, found, if_neg whole, allocated, Platform.send, data_eq,
    iv_eq, Enclave.setObject, run, code_eq, Enclave.chained]

end Write

/-! ## The ocalls of a read -/

section OcallRead

variable (platform : Platform) {host : Host} {fd : Int} {file : OpenFile} {size : Nat}

/-- A descriptor that is not open for reading hands out nothing. -/
theorem ocallRead_not_readable (closed : ¬ host.Readable fd) (buffer : Bytes)
    (size_pos : 0 < size) :
    ∃ read, platform.ocallRead host fd buffer size = some (-1, host, read) := by
  cases platform with
  | keystone attestEnclave =>
      exact ⟨buffer, Keyedge.ocallReadFileFull_of_not_readable closed buffer size_pos⟩
  | sgx reportKey sealKey sha3 =>
      refine ⟨overwrite buffer 0 (List.replicate size 0), ?_⟩
      simp only [Platform.ocallRead, Sgx.ocallReadFile, Host.read_of_not_readable closed]
      rfl

/-- A file open for reading hands out what the host decides to move. -/
theorem ocallRead_delivers (buffer : Bytes) (size_lt : size < 2 ^ 32)
    (opened : host.openFile? fd = some file) (readable : file.readable = true)
    (accepted : ¬ platform.Refuses host.transfers size) {bytes : Bytes}
    (bytes_eq : (host.remaining file).take (platform.moved host.transfers
      (min size (host.remaining file).length)) = bytes) (small : bytes.length < 2 ^ 31) :
    ∃ taken rest, platform.ocallRead host fd buffer size =
      some ((bytes.length : Int), (host.skip taken).advance fd bytes.length, bytes ++ rest) := by
  have moved_le := platform.moved_le host.transfers (min size (host.remaining file).length)
  have bytes_length : platform.moved host.transfers
      (min size (host.remaining file).length) = bytes.length := by
    rw [← bytes_eq, List.length_take]
    omega
  cases platform with
  | keystone attestEnclave =>
      rcases Nat.eq_zero_or_pos size with rfl | size_pos
      · have empty : bytes = [] := List.length_eq_zero_iff.mp (by omega)
        exact ⟨0, buffer, by simp [empty, Platform.ocallRead, Keyedge.ocallReadFileFull_zero]⟩
      · obtain ⟨taken, read, run, read_eq⟩ := Keyedge.ocallReadFileFull_outcome buffer opened
          readable size_pos size_lt le_rfl bytes_length
        rw [bytes_length] at bytes_eq
        rw [wrapInt_loopResult _ small, read_eq small, bytes_eq] at run
        cases head : host.transfers.head with
        | refuse code => exact absurd ⟨size_pos, code, head⟩ accepted
        | move amount =>
            rw [head] at run
            exact ⟨taken, _, run⟩
  | sgx reportKey sealKey sha3 =>
      cases head : host.transfers.head with
      | refuse code => exact absurd ⟨code, head⟩ accepted
      | move amount =>
          have taken_eq : (host.remaining file).take (min size amount) = bytes := by
            simp only [Platform.moved, head] at bytes_eq
            rw [← bytes_eq, List.take_eq_take_iff]
            omega
          have buffer_eq : overwrite buffer 0
              (bytes ++ List.replicate (size - bytes.length) 0) =
              bytes ++ (List.replicate (size - bytes.length) 0 ++
                buffer.drop (bytes.length + (size - bytes.length))) := by
            simp [overwrite]
          refine ⟨1, List.replicate (size - bytes.length) 0 ++
            buffer.drop (bytes.length + (size - bytes.length)), ?_⟩
          simp only [Platform.ocallRead, Sgx.ocallReadFile, Host.read, opened, readable, if_true,
            head, taken_eq, wrapInt_of_lt small, buffer_eq, ← Host.nextTransfer_skip,
            Host.skip_zero]

end OcallRead

section Read

variable {aes : BlockCipher Bytes Block} (laws : lib.CbcLaws aes) (platform : Platform)
  {tee : Enclave lib} {object : Option Nat} {handle : StoredObject lib} {key : Bytes}
  {context : lib.AesContext} {residue : Memory} {buffer : Bytes} {size : Nat}

/-- The state after a read of `bytes`, which allocates only when there are bytes to decrypt. -/
def Enclave.afterRead (tee : Enclave lib) (object : Option Nat) (handle : StoredObject lib)
    (iv : Block) (host : Host) (bytes : Bytes) : Enclave lib :=
  { tee.setObject object { handle with persistIv := iv } with
    host, mallocs := if bytes = [] then tee.mallocs else tee.mallocs.tail }

theorem Enclave.setObject_self (found : tee.persistent? object = some handle) :
    tee.setObject object handle = tee := by
  obtain ⟨index, rfl, entry, _⟩ := persistent?_eq_some.mp found
  obtain ⟨inside, value⟩ := List.getElem?_eq_some_iff.mp entry
  have unchanged : tee.objects.set index handle = tee.objects := by
    rw [← value]
    exact List.set_getElem_self inside
  simp [setObject, unchanged]

/-- A read from a descriptor that is not open for reading fails and changes nothing. -/
theorem readObjectData_not_readable (buffer : Bytes)
    (found : tee.persistent? object = some handle) (whole : 16 ∣ size) (size_pos : 0 < size)
    (closed : ¬ tee.host.Readable handle.desc) :
    ∃ call, platform.readObjectData tee object buffer size = (call, tee) ∧
      call.exit = .returned .errorGeneric ∧ call.count = none := by
  have size_mod : ¬ size % 16 ≠ 0 := not_not.mpr (Nat.mod_eq_zero_of_dvd whole)
  obtain ⟨read, refused⟩ := ocallRead_not_readable platform closed buffer size_pos
  refine ⟨{ exit := .returned .errorGeneric, buffer := read, count := none }, ?_, rfl, rfl⟩
  simp [Platform.readObjectData_eq, found, size_mod, Platform.receive, refused]

/-- The host's part of a read of a file open for reading that it does not refuse, when the number of
bytes is an `int` and, on Keystone, a number of blocks. -/
theorem readObjectData_delivers (buffer : Bytes) (found : tee.persistent? object = some handle)
    (whole : 16 ∣ size) (size_lt : size < 2 ^ 32) {file : OpenFile}
    (opened : tee.host.openFile? handle.desc = some file) (readable : file.readable = true)
    (accepted : ¬ platform.Refuses tee.host.transfers size) {bytes : Bytes}
    (bytes_eq : (tee.host.remaining file).take (platform.moved tee.host.transfers
      (min size (tee.host.remaining file).length)) = bytes) (small : bytes.length < 2 ^ 31)
    (aligned : platform.CountsBlocks → Aligned bytes) :
    ∃ taken rest, platform.readObjectData tee object buffer size =
      let host := (tee.host.skip taken).advance handle.desc bytes.length
      if bytes.length = 0 then
        ({ exit := .returned .success, buffer := bytes ++ rest, count := some bytes.length },
          { tee with host })
      else decryptInto { tee with host } object handle (bytes ++ rest) bytes.length := by
  have size_mod : ¬ size % 16 ≠ 0 := not_not.mpr (Nat.mod_eq_zero_of_dvd whole)
  obtain ⟨taken, rest, run⟩ := ocallRead_delivers platform buffer size_lt opened readable accepted
    bytes_eq small
  have counted : ¬ (bytes.length : Int) < 0 := by omega
  have whole_blocks : ¬ (platform.CountsBlocks ∧ bytes.length % 16 ≠ 0) :=
    fun rejected => rejected.2 (Nat.mod_eq_zero_of_dvd (aligned rejected.1))
  refine ⟨taken, rest, ?_⟩
  simp only [Platform.readObjectData_eq, found, if_neg size_mod, Platform.receive, run,
    if_neg counted, Int.toNat_natCast, if_neg whole_blocks]

/-- The host's part of a read of a file open for reading, when it moves whole blocks. -/
theorem readObjectData_transfer (buffer : Bytes) (found : tee.persistent? object = some handle)
    (whole : 16 ∣ size) (size_lt : size < 2 ^ 31) {file : OpenFile}
    (opened : tee.host.openFile? handle.desc = some file) (readable : file.readable = true)
    {amount : Nat} (accepted : tee.host.transfers.head = .move amount) {bytes : Bytes}
    (bytes_eq : (tee.host.remaining file).take (platform.moved tee.host.transfers
      (min size (tee.host.remaining file).length)) = bytes) (aligned : Aligned bytes) :
    ∃ taken rest, platform.readObjectData tee object buffer size =
      let host := (tee.host.skip taken).advance handle.desc bytes.length
      if bytes.length = 0 then
        ({ exit := .returned .success, buffer := bytes ++ rest, count := some bytes.length },
          { tee with host })
      else decryptInto { tee with host } object handle (bytes ++ rest) bytes.length := by
  have moved_le := platform.moved_le tee.host.transfers
    (min size (tee.host.remaining file).length)
  have bytes_le : bytes.length ≤ size := by
    rw [← bytes_eq, List.length_take]
    omega
  exact readObjectData_delivers platform buffer found whole (by omega) opened readable
    (platform.not_refuses accepted size) bytes_eq (by omega) fun _ => aligned

include laws

/-- Decrypting the bytes at the start of the buffer. -/
theorem decryptInto_spec (tee : Enclave lib) (object : Option Nat)
    (keyed : handle.persistCtx = lib.aesSetkey .decrypt (lib.aesInit context) key)
    (allocated : tee.mallocs.head = some residue) {bytes : Bytes} (aligned : Aligned bytes)
    (rest : Bytes) :
    decryptInto tee object handle (bytes ++ rest) bytes.length =
      ({ exit := .returned .success
         buffer := joinBlocks (Cbc.crypt aes key .decrypt handle.persistIv (toBlocks bytes)) ++ rest
         count := some bytes.length },
        { tee.setObject object
            { handle with
              persistIv := Cbc.chainAfter aes key .decrypt handle.persistIv (toBlocks bytes) } with
          mallocs := tee.mallocs.tail }) := by
  have plain_length : (joinBlocks (Cbc.crypt aes key .decrypt handle.persistIv
      (toBlocks bytes))).length = bytes.length := by
    obtain ⟨count, length_eq⟩ := aligned
    simp
    omega
  simp only [decryptInto, Enclave.malloc, allocated, List.take_left', keyed,
    laws.crypt _ _ _ _ _ aligned]
  set plain := joinBlocks (Cbc.crypt aes key .decrypt handle.persistIv (toBlocks bytes))
    with plain_eq
  have data_eq : overwrite (Memory.read residue 0 bytes.length) 0 plain = plain := by
    simp [overwrite, plain_length]
  rw [data_eq]
  simp [overwrite, plain_length, Enclave.setObject]

/-- The end of a read that found some bytes. -/
theorem finishRead_spec (found : tee.persistent? object = some handle)
    (keyed : handle.persistCtx = lib.aesSetkey .decrypt (lib.aesInit context) key)
    (allocated : tee.mallocs.head = some residue) {bytes : Bytes} (aligned : Aligned bytes)
    (rest : Bytes) (host : Host) :
    ∃ call,
      (if bytes.length = 0 then
          ({ exit := .returned .success, buffer := bytes ++ rest, count := some bytes.length },
            { tee with host })
        else decryptInto { tee with host } object handle (bytes ++ rest) bytes.length) =
        (call, tee.afterRead object handle
          (Cbc.chainAfter aes key .decrypt handle.persistIv (toBlocks bytes)) host bytes) ∧
      call.exit = .returned .success ∧ call.count = some bytes.length ∧
      call.buffer.take bytes.length =
        joinBlocks (Cbc.crypt aes key .decrypt handle.persistIv (toBlocks bytes)) := by
  by_cases empty : bytes.length = 0
  · obtain rfl := List.length_eq_zero_iff.mp empty
    have same := Enclave.setObject_self found
    refine ⟨{ exit := .returned .success, buffer := rest, count := some 0 }, ?_, rfl, rfl, rfl⟩
    simp only [List.length_nil, if_true, Enclave.afterRead, toBlocks_nil,
      Cbc.chainAfter_nil, List.nil_append]
    rw [same]
  · have bytes_ne : bytes ≠ [] := fun nil => empty (by rw [nil, List.length_nil])
    have decrypted := decryptInto_spec laws { tee with host } object keyed allocated aligned rest
    refine ⟨{
      exit := .returned .success
      buffer := joinBlocks (Cbc.crypt aes key .decrypt handle.persistIv (toBlocks bytes)) ++ rest
      count := some bytes.length }, ?_, rfl, rfl, ?_⟩
    · rw [if_neg empty, decrypted]
      simp only [Enclave.afterRead, if_neg bytes_ne]
      rfl
    · obtain ⟨count, length_eq⟩ := aligned
      apply List.take_left'
      simp
      omega

/-- What a read of a file open for reading returns when the host moves whole blocks, on either
platform. -/
theorem readObjectData_spec (buffer : Bytes) (found : tee.persistent? object = some handle)
    (keyed : handle.persistCtx = lib.aesSetkey .decrypt (lib.aesInit context) key)
    (allocated : tee.mallocs.head = some residue) (whole : 16 ∣ size) (size_lt : size < 2 ^ 31)
    {file : OpenFile} (opened : tee.host.openFile? handle.desc = some file)
    (readable : file.readable = true) {amount : Nat}
    (accepted : tee.host.transfers.head = .move amount) {bytes : Bytes}
    (bytes_eq : (tee.host.remaining file).take (platform.moved tee.host.transfers
      (min size (tee.host.remaining file).length)) = bytes) (aligned : Aligned bytes) :
    ∃ taken call,
      platform.readObjectData tee object buffer size =
        (call, tee.afterRead object handle
          (Cbc.chainAfter aes key .decrypt handle.persistIv (toBlocks bytes))
          ((tee.host.skip taken).advance handle.desc bytes.length) bytes) ∧
      call.exit = .returned .success ∧ call.count = some bytes.length ∧
      call.buffer.take bytes.length =
        joinBlocks (Cbc.crypt aes key .decrypt handle.persistIv (toBlocks bytes)) := by
  obtain ⟨taken, rest, run⟩ :=
    readObjectData_transfer platform buffer found whole size_lt opened readable accepted bytes_eq
      aligned
  obtain ⟨call, finish, exit_eq, count_eq, plain_eq⟩ :=
    finishRead_spec laws found keyed allocated aligned rest
      ((tee.host.skip taken).advance handle.desc bytes.length)
  exact ⟨taken, call, run.trans finish, exit_eq, count_eq, plain_eq⟩

end Read
end TaRef
