import Mathlib.Data.Stream.Init
import TaRef.Handle
import TaRef.Library.Memory

/-!
# The host file system

The untrusted side of an ocall is a POSIX file system.  What POSIX leaves open is a stream of
decisions: whether the next `open` is granted, and for each transfer how many bytes it moves or that
it fails.  A statement about every host is a statement about every such stream.
-/

namespace TaRef

instance neZeroCode : NeZero (2 ^ 31) := ⟨by decide⟩

/-- The host's decision about one transfer that the descriptor admits; `refuse code` is the result
`-1 - code` of type `int`. -/
inductive Transfer
  | refuse (code : Fin (2 ^ 31))
  | move (amount : Nat)
  deriving DecidableEq, Repr

/-- An open file description. -/
structure OpenFile where
  path : Bytes
  offset : Nat
  readable : Bool
  writable : Bool
  deriving DecidableEq, Repr

/-- The file description of a path opened with some flags. -/
def OpenFile.start (path : Bytes) (flags : UInt32) : OpenFile where
  path
  offset := 0
  readable := flags &&& 3 == 0 || flags &&& 3 == 2
  writable := flags &&& 3 == 1 || flags &&& 3 == 2

/-- Files, descriptor table and pending decisions of the host. -/
structure Host where
  files : Bytes → Option Bytes
  descriptors : List (Option OpenFile)
  opens : Stream' Bool
  transfers : Stream' Transfer

def oWronly : UInt32 := 0o1
def oRdonly : UInt32 := 0
def oCreat : UInt32 := 0o100
def oTrunc : UInt32 := 0o1000

/-- Put a file description into the lowest free descriptor. -/
def install (file : OpenFile) : List (Option OpenFile) → Nat × List (Option OpenFile)
  | [] => (0, [some file])
  | none :: rest => (0, some file :: rest)
  | some held :: rest => ((install file rest).1 + 1, some held :: (install file rest).2)

namespace Host

/-- The file description behind a descriptor. -/
def openFile? (host : Host) : Int → Option OpenFile
  | .ofNat fd => host.descriptors[fd]?.join
  | .negSucc _ => none

/-- Contents of a path, empty when there is no file. -/
def content (host : Host) (path : Bytes) : Bytes := (host.files path).getD []

/-- Replace the file description behind a descriptor. -/
def setOpenFile (host : Host) (fd : Int) (file : OpenFile) : Host :=
  { host with descriptors := host.descriptors.set fd.toNat (some file) }

/-- The host after it stored bytes at the position of a descriptor. -/
def deliver (host : Host) (fd : Int) (bytes : Bytes) : Host :=
  match host.openFile? fd with
  | none => host
  | some file =>
      if bytes = [] then host
      else
        let stored := overwrite (host.content file.path) file.offset bytes
        { host with files := Function.update host.files file.path (some stored) }.setOpenFile fd
          { file with offset := file.offset + bytes.length }

/-- The host after it read past some bytes at the position of a descriptor. -/
def advance (host : Host) (fd : Int) (count : Nat) : Host :=
  match host.openFile? fd with
  | none => host
  | some file => host.setOpenFile fd { file with offset := file.offset + count }

/-- Bytes of a file from the position of a descriptor on. -/
def remaining (host : Host) (file : OpenFile) : Bytes :=
  (host.content file.path).drop file.offset

/-- Drop the decision just taken. -/
def nextTransfer (host : Host) : Host := { host with transfers := host.transfers.tail }

/-- The host after it took some decisions that changed nothing else. -/
def skip (host : Host) (taken : Nat) : Host :=
  { host with transfers := host.transfers.drop taken }

/-- `open(2)`.  An access mode of three is none of the POSIX modes, and Linux rejects the all-ones
flag word; `O_TRUNC` empties the file whatever the access mode, as Linux does. -/
def openPath (host : Host) (path : Bytes) (flags : UInt32) : Int × Host :=
  let host' := { host with opens := host.opens.tail }
  if flags &&& 3 == 3 || !host.opens.head then (-1, host')
  else if !hasFlag flags oCreat && (host.files path).isNone then (-1, host')
  else
    let stored := if hasFlag flags oTrunc then [] else host.content path
    ((install (.start path flags) host.descriptors).1,
      { host' with
        files := Function.update host.files path (some stored)
        descriptors := (install (.start path flags) host.descriptors).2 })

/-- `close(2)`. -/
def close (host : Host) (fd : Int) : Int × Host :=
  match host.openFile? fd with
  | none => (-1, host)
  | some _ => (0, { host with descriptors := host.descriptors.set fd.toNat none })

/-- `write(2)`: a descriptor open for writing stores a prefix of the chunk, or fails. -/
def write (host : Host) (fd : Int) (chunk : Bytes) : Int × Host :=
  match host.openFile? fd with
  | none => (-1, host)
  | some file =>
      if file.writable then
        match host.transfers.head with
        | .refuse code => (Int.negSucc code.val, host.nextTransfer)
        | .move amount =>
            ((chunk.take amount).length, host.nextTransfer.deliver fd (chunk.take amount))
      else (-1, host)

/-- `read(2)`: a descriptor open for reading returns a prefix of the bytes left, or fails. -/
def read (host : Host) (fd : Int) (count : Nat) : (Int × Bytes) × Host :=
  match host.openFile? fd with
  | none => ((-1, []), host)
  | some file =>
      if file.readable then
        match host.transfers.head with
        | .refuse code => ((Int.negSucc code.val, []), host.nextTransfer)
        | .move amount =>
            let bytes := (host.remaining file).take (min count amount)
            ((bytes.length, bytes), host.nextTransfer.advance fd bytes.length)
      else ((-1, []), host)

/-! ## Descriptors -/

theorem install_get (file : OpenFile) (table : List (Option OpenFile)) :
    (install file table).2[(install file table).1]? = some (some file) := by
  induction table with
  | nil => rfl
  | cons entry table ih =>
      cases entry with
      | none => rfl
      | some held => simpa [install] using ih

theorem install_fresh (file : OpenFile) (table : List (Option OpenFile)) :
    table[(install file table).1]?.join = none := by
  induction table with
  | nil => rfl
  | cons entry table ih =>
      cases entry with
      | none => rfl
      | some held => simpa [install] using ih

theorem install_ne (file : OpenFile) (table : List (Option OpenFile)) {other : Nat}
    (different : other ≠ (install file table).1) :
    (install file table).2[other]?.join = table[other]?.join := by
  induction table generalizing other with
  | nil =>
      cases other with
      | zero => exact absurd rfl different
      | succ other => rfl
  | cons entry table ih =>
      cases entry with
      | none =>
          cases other with
          | zero => exact absurd rfl different
          | succ other => rfl
      | some held =>
          cases other with
          | zero => rfl
          | succ other =>
              simp only [install, List.getElem?_cons_succ]
              exact ih fun equality => different (by rw [equality, install])

/-- An open descriptor is a position of the table. -/
theorem openFile?_eq_some {host : Host} {fd : Int} {file : OpenFile}
    (opened : host.openFile? fd = some file) :
    ∃ index : Nat, fd = index ∧ host.descriptors[index]? = some (some file) := by
  cases fd with
  | ofNat index =>
      refine ⟨index, rfl, ?_⟩
      simpa [openFile?, Option.join_eq_some_iff] using opened
  | negSucc _ => simp [openFile?] at opened

theorem openFile?_setOpenFile_self {host : Host} {fd : Int} {file : OpenFile}
    (opened : host.openFile? fd = some file) (replacement : OpenFile) :
    (host.setOpenFile fd replacement).openFile? fd = some replacement := by
  obtain ⟨index, rfl, entry⟩ := openFile?_eq_some opened
  have inside : index < host.descriptors.length := (List.getElem?_eq_some_iff.mp entry).1
  simp [openFile?, setOpenFile, List.getElem?_set_self inside]

/-- A change to an open descriptor keeps the others. -/
theorem openFile?_set_ne {host : Host} {fd other : Int} {file : OpenFile}
    (opened : host.openFile? fd = some file) (entry : Option OpenFile) (different : other ≠ fd) :
    { host with descriptors := host.descriptors.set fd.toNat entry }.openFile? other =
      host.openFile? other := by
  obtain ⟨index, rfl, _⟩ := openFile?_eq_some opened
  cases other with
  | ofNat position =>
      have distinct : index ≠ position := fun equality => different (by simp [equality])
      simp [openFile?, List.getElem?_set_ne distinct]
  | negSucc _ => rfl

theorem openFile?_setOpenFile_ne {host : Host} {fd other : Int} {file : OpenFile}
    (opened : host.openFile? fd = some file) (replacement : OpenFile) (different : other ≠ fd) :
    (host.setOpenFile fd replacement).openFile? other = host.openFile? other :=
  openFile?_set_ne opened (some replacement) different

theorem setOpenFile_self {host : Host} {fd : Int} {file : OpenFile}
    (opened : host.openFile? fd = some file) : host.setOpenFile fd file = host := by
  obtain ⟨index, rfl, entry⟩ := openFile?_eq_some opened
  obtain ⟨inside, value⟩ := List.getElem?_eq_some_iff.mp entry
  have unchanged : host.descriptors.set index (some file) = host.descriptors := by
    rw [← value]
    exact List.set_getElem_self inside
  simp [setOpenFile, unchanged]

@[simp]
theorem setOpenFile_setOpenFile (host : Host) (fd : Int) (earlier later : OpenFile) :
    (host.setOpenFile fd earlier).setOpenFile fd later = host.setOpenFile fd later := by
  simp [setOpenFile]

@[simp]
theorem openFile?_nextTransfer (host : Host) (fd : Int) :
    host.nextTransfer.openFile? fd = host.openFile? fd := by
  cases fd <;> rfl

@[simp]
theorem openFile?_skip (host : Host) (taken : Nat) (fd : Int) :
    (host.skip taken).openFile? fd = host.openFile? fd := by
  cases fd <;> rfl

@[simp]
theorem content_skip (host : Host) (taken : Nat) (path : Bytes) :
    (host.skip taken).content path = host.content path := rfl

@[simp]
theorem skip_zero (host : Host) : host.skip 0 = host := rfl

theorem nextTransfer_skip (host : Host) (taken : Nat) :
    (host.skip taken).nextTransfer = host.skip (taken + 1) := by
  simp [nextTransfer, skip]

/-! ## Opening -/

/-- What `open` does when it returns a descriptor. -/
theorem openPath_granted {host : Host} {path : Bytes} {flags : UInt32}
    (granted : 0 ≤ (host.openPath path flags).1) :
    flags &&& 3 ≠ 3 ∧ host.opens.head = true ∧
      (hasFlag flags oCreat = true ∨ (host.files path).isSome = true) ∧
      host.openPath path flags =
        (((install (.start path flags) host.descriptors).1 : Int),
          { host with
            opens := host.opens.tail
            files := Function.update host.files path
              (some (if hasFlag flags oTrunc then [] else host.content path))
            descriptors := (install (.start path flags) host.descriptors).2 }) := by
  unfold openPath at granted ⊢
  by_cases refused : (flags &&& 3 == 3 || !host.opens.head) = true
  · simp [refused] at granted
  · by_cases missing : (!hasFlag flags oCreat && (host.files path).isNone) = true
    · simp [refused, missing] at granted
    · have allowed : hasFlag flags oCreat = true ∨ (host.files path).isSome = true := by
        cases creates : hasFlag flags oCreat
        · exact .inr (by simpa [creates, Option.ne_none_iff_isSome] using missing)
        · exact .inl rfl
      rw [if_neg refused, if_neg missing]
      rw [Bool.or_eq_true, not_or] at refused
      exact ⟨by simpa using refused.1, by simpa using refused.2, allowed, rfl⟩

theorem openPath_refused {host : Host} {path : Bytes} {flags : UInt32}
    (refused : ¬ 0 ≤ (host.openPath path flags).1) :
    host.openPath path flags = (-1, { host with opens := host.opens.tail }) := by
  unfold openPath at refused ⊢
  by_cases denied : (flags &&& 3 == 3 || !host.opens.head) = true
  · simp [denied]
  · by_cases missing : (!hasFlag flags oCreat && (host.files path).isNone) = true
    · simp [denied, missing]
    · simp only [if_neg denied, if_neg missing] at refused
      exact absurd (Int.natCast_nonneg _) refused

/-- When `open` returns a descriptor. -/
theorem openPath_granted_iff (host : Host) (path : Bytes) (flags : UInt32) :
    0 ≤ (host.openPath path flags).1 ↔
      (flags &&& 3 ≠ 3 ∧ host.opens.head = true ∧
        (hasFlag flags oCreat = true ∨ (host.files path).isSome = true)) := by
  constructor
  · intro granted
    obtain ⟨mode, head, allowed, _⟩ := openPath_granted granted
    exact ⟨mode, head, allowed⟩
  · rintro ⟨mode, head, allowed⟩
    have exists_file : ¬ (!hasFlag flags oCreat && (host.files path).isNone) = true := by
      rcases allowed with creates | present
      · simp [creates]
      · simp [Option.isSome_iff_ne_none.mp present]
    rw [openPath, if_neg (by simp [mode, head]), if_neg exists_file]
    exact Int.natCast_nonneg _

theorem openFile?_openPath_self {host : Host} {path : Bytes} {flags : UInt32}
    (granted : 0 ≤ (host.openPath path flags).1) :
    (host.openPath path flags).2.openFile? (host.openPath path flags).1 =
      some (.start path flags) := by
  rw [(openPath_granted granted).2.2.2]
  simp [openFile?, install_get]

/-- The descriptor that `open` returns was free. -/
theorem openFile?_openPath_fresh {host : Host} {path : Bytes} {flags : UInt32}
    (granted : 0 ≤ (host.openPath path flags).1) :
    host.openFile? (host.openPath path flags).1 = none := by
  rw [(openPath_granted granted).2.2.2]
  exact install_fresh _ _

theorem openFile?_openPath_ne {host : Host} {path : Bytes} {flags : UInt32} {other : Int}
    (different : other ≠ (host.openPath path flags).1) :
    (host.openPath path flags).2.openFile? other = host.openFile? other := by
  by_cases granted : 0 ≤ (host.openPath path flags).1
  · rw [(openPath_granted granted).2.2.2] at different ⊢
    cases other with
    | ofNat index => exact install_ne _ _ fun equality => different (by rw [equality]; rfl)
    | negSucc _ => rfl
  · rw [openPath_refused granted]
    cases other <;> rfl

theorem transfers_openPath (host : Host) (path : Bytes) (flags : UInt32) :
    (host.openPath path flags).2.transfers = host.transfers := by
  unfold openPath
  split_ifs <;> rfl

theorem content_openPath_self {host : Host} {path : Bytes} {flags : UInt32}
    (granted : 0 ≤ (host.openPath path flags).1) :
    (host.openPath path flags).2.content path =
      if hasFlag flags oTrunc then [] else host.content path := by
  rw [(openPath_granted granted).2.2.2]
  simp [content]

theorem close_of_some {host : Host} {fd : Int} {file : OpenFile}
    (opened : host.openFile? fd = some file) :
    host.close fd = (0, { host with descriptors := host.descriptors.set fd.toNat none }) := by
  simp [close, opened]

/-! ## Stored bytes -/

@[simp]
theorem deliver_nil (host : Host) (fd : Int) : host.deliver fd [] = host := by
  unfold deliver
  split <;> simp

theorem deliver_of_ne {host : Host} {fd : Int} {file : OpenFile} {bytes : Bytes}
    (opened : host.openFile? fd = some file) (bytes_ne : bytes ≠ []) :
    host.deliver fd bytes =
      { host with
        files := Function.update host.files file.path
          (some (overwrite (host.content file.path) file.offset bytes)) }.setOpenFile fd
        { file with offset := file.offset + bytes.length } := by
  simp [deliver, opened, bytes_ne]

theorem openFile?_update_files (host : Host) (files : Bytes → Option Bytes) (fd : Int) :
    { host with files }.openFile? fd = host.openFile? fd := by
  cases fd <;> rfl

theorem openFile?_deliver_self {host : Host} {fd : Int} {file : OpenFile}
    (opened : host.openFile? fd = some file) (bytes : Bytes) :
    (host.deliver fd bytes).openFile? fd =
      some { file with offset := file.offset + bytes.length } := by
  by_cases bytes_nil : bytes = []
  · simp [bytes_nil, opened]
  · rw [deliver_of_ne opened bytes_nil]
    exact openFile?_setOpenFile_self ((openFile?_update_files host _ fd).trans opened) _

theorem openFile?_deliver_ne {host : Host} {fd other : Int} (bytes : Bytes)
    (different : other ≠ fd) :
    (host.deliver fd bytes).openFile? other = host.openFile? other := by
  cases opened : host.openFile? fd with
  | none => simp [deliver, opened]
  | some file =>
      by_cases bytes_nil : bytes = []
      · simp [bytes_nil]
      · rw [deliver_of_ne opened bytes_nil,
          openFile?_setOpenFile_ne ((openFile?_update_files host _ fd).trans opened) _ different,
          openFile?_update_files]

theorem content_deliver_self {host : Host} {fd : Int} {file : OpenFile} {bytes : Bytes}
    (opened : host.openFile? fd = some file) (bytes_ne : bytes ≠ []) :
    (host.deliver fd bytes).content file.path =
      overwrite (host.content file.path) file.offset bytes := by
  simp [deliver_of_ne opened bytes_ne, content, setOpenFile]

theorem files_deliver_self {host : Host} {fd : Int} {file : OpenFile} {bytes : Bytes}
    (opened : host.openFile? fd = some file) (bytes_ne : bytes ≠ []) :
    (host.deliver fd bytes).files file.path =
      some (overwrite (host.content file.path) file.offset bytes) := by
  simp [deliver_of_ne opened bytes_ne, setOpenFile]

theorem files_deliver_ne {host : Host} {fd : Int} {file : OpenFile} {path : Bytes}
    (opened : host.openFile? fd = some file) (bytes : Bytes) (different : path ≠ file.path) :
    (host.deliver fd bytes).files path = host.files path := by
  by_cases bytes_nil : bytes = []
  · simp [bytes_nil]
  · simp [deliver_of_ne opened bytes_nil, setOpenFile, different]

@[simp]
theorem transfers_deliver (host : Host) (fd : Int) (bytes : Bytes) :
    (host.deliver fd bytes).transfers = host.transfers := by
  unfold deliver
  split
  · rfl
  · split <;> rfl

@[simp]
theorem opens_deliver (host : Host) (fd : Int) (bytes : Bytes) :
    (host.deliver fd bytes).opens = host.opens := by
  unfold deliver
  split
  · rfl
  · split <;> rfl

theorem nextTransfer_deliver (host : Host) (fd : Int) (bytes : Bytes) :
    (host.deliver fd bytes).nextTransfer = host.nextTransfer.deliver fd bytes := by
  unfold deliver
  rw [openFile?_nextTransfer]
  split
  · rfl
  · split <;> rfl

/-- Two consecutive deliveries are one delivery of the concatenation. -/
theorem deliver_deliver (host : Host) (fd : Int) (left right : Bytes) :
    (host.deliver fd left).deliver fd right = host.deliver fd (left ++ right) := by
  cases opened : host.openFile? fd with
  | none => simp [deliver, opened]
  | some file =>
      by_cases left_nil : left = []
      · simp [left_nil]
      by_cases right_nil : right = []
      · simp [right_nil]
      have appended_ne : left ++ right ≠ [] := by simp [left_nil]
      have opened_after := openFile?_deliver_self opened left
      rw [deliver_of_ne opened_after right_nil, content_deliver_self opened left_nil,
        overwrite_overwrite, deliver_of_ne opened appended_ne, deliver_of_ne opened left_nil]
      simp [setOpenFile, Nat.add_assoc]

/-! ## Positions -/

@[simp]
theorem advance_zero (host : Host) (fd : Int) : host.advance fd 0 = host := by
  unfold advance
  split
  · rfl
  · rename_i file opened
    exact setOpenFile_self opened

theorem advance_of_some {host : Host} {fd : Int} {file : OpenFile}
    (opened : host.openFile? fd = some file) (count : Nat) :
    host.advance fd count = host.setOpenFile fd { file with offset := file.offset + count } := by
  simp [advance, opened]

theorem openFile?_advance_self {host : Host} {fd : Int} {file : OpenFile}
    (opened : host.openFile? fd = some file) (count : Nat) :
    (host.advance fd count).openFile? fd =
      some { file with offset := file.offset + count } := by
  rw [advance_of_some opened]
  exact openFile?_setOpenFile_self opened _

theorem openFile?_advance_ne {host : Host} {fd other : Int} (count : Nat)
    (different : other ≠ fd) :
    (host.advance fd count).openFile? other = host.openFile? other := by
  cases opened : host.openFile? fd with
  | none => simp [advance, opened]
  | some file =>
      rw [advance_of_some opened]
      exact openFile?_setOpenFile_ne opened _ different

@[simp]
theorem files_advance (host : Host) (fd : Int) (count : Nat) :
    (host.advance fd count).files = host.files := by
  unfold advance
  split <;> rfl

@[simp]
theorem transfers_advance (host : Host) (fd : Int) (count : Nat) :
    (host.advance fd count).transfers = host.transfers := by
  unfold advance
  split <;> rfl

@[simp]
theorem opens_advance (host : Host) (fd : Int) (count : Nat) :
    (host.advance fd count).opens = host.opens := by
  unfold advance
  split <;> rfl

theorem nextTransfer_advance (host : Host) (fd : Int) (count : Nat) :
    (host.advance fd count).nextTransfer = host.nextTransfer.advance fd count := by
  unfold advance
  rw [openFile?_nextTransfer]
  split <;> rfl

theorem advance_advance (host : Host) (fd : Int) (left right : Nat) :
    (host.advance fd left).advance fd right = host.advance fd (left + right) := by
  cases opened : host.openFile? fd with
  | none => simp [advance, opened]
  | some file =>
      rw [advance_of_some (openFile?_advance_self opened left), advance_of_some opened,
        advance_of_some opened]
      simp [Nat.add_assoc]

end Host
end TaRef
