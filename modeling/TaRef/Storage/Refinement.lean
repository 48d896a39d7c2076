import TaRef.Storage.ObjectStore
import TaRef.Storage.Session

/-!
# Refinement of the object store

Either platform refines the object store when the host moves something in every transfer and keys
can be derived: the bytes of a file are the values of its cells, and each handle in use is keyed for
its identifier, stands at its position and chains to the value of its last cell.
-/

namespace TaRef

section Values

variable (keys : KeyDerivation) (aes : BlockCipher Bytes Block) (preset : Bytes → Nat → Block)

/-- The block that a cell stands for, given the blocks of the initial files. -/
def Cell.value : Cell → Block
  | iv id => keys.iv id
  | initial path index => preset path index
  | hole => Block.zero
  | sealed id plain previous => aes.encrypt (keys.key id) (Mask.mask plain (value previous))

/-- Sealing is encryption. -/
theorem Cell.value_sealBlocks (id : Bytes) (chain : Cell) (blocks : List Block) :
    (sealBlocks id chain blocks).map (value keys aes preset) =
        Cbc.crypt aes (keys.key id) .encrypt (value keys aes preset chain) blocks ∧
      value keys aes preset (Machine.final (sealStep id) chain blocks) =
        Cbc.chainAfter aes (keys.key id) .encrypt (value keys aes preset chain) blocks := by
  induction blocks generalizing chain with
  | nil => exact ⟨rfl, rfl⟩
  | cons block blocks ih =>
      obtain ⟨rest_cells, rest_chain⟩ := ih (.sealed id block chain)
      constructor
      · exact congrArg (List.cons _) rest_cells
      · exact rest_chain

/-- The chaining value stands for the cell last seen, if that is known. -/
def ChainValue (chain : Option Cell) (start : Block) : Prop :=
  ∀ cell, chain = some cell → cell.value keys aes preset = start

/-- The block is the one that was written, where one was written. -/
def Shows (written : Option Block) (shown : Block) : Prop := ∀ plain, written = some plain →
  shown = plain

/-- A written block that follows the cell last seen decrypts to its plaintext. -/
theorem Cell.shows_value {id : Bytes} {chain : Option Cell} {start : Block}
    (chained : ChainValue keys aes preset chain start) {cell : Cell}
    (follows : Follows id chain cell) :
    Shows cell.written
      (Mask.mask (aes.decrypt (keys.key id) (value keys aes preset cell)) start) := by
  intro plain known
  cases cell with
  | sealed owner block previous =>
      obtain ⟨rfl, last⟩ := follows
      rw [value, aes.decrypt_encrypt, chained previous last, Mask.mask_mask]
      exact Option.some.inj known
  | iv id => simp [written] at known
  | initial path index => simp [written] at known
  | hole => simp [written] at known

/-- Decryption of the cells that a read passes goes on from the last of them. -/
theorem Cell.chainValue_readBlocks (id : Bytes) {chain : Option Cell} {start : Block}
    (chained : ChainValue keys aes preset chain start) (cells : List Cell) :
    ChainValue keys aes preset (Machine.final readStep chain cells)
      (Cbc.chainAfter aes (keys.key id) .decrypt start (cells.map (value keys aes preset))) := by
  induction cells generalizing chain start with
  | nil => exact chained
  | cons cell cells ih => exact ih fun other last => congrArg _ (Option.some.inj last).symm

/-- Decryption yields the plaintext of every written block when these follow one another. -/
theorem Cell.shows_readBlocks (id : Bytes) {chain : Option Cell} {start : Block}
    (chained : ChainValue keys aes preset chain start) {cells : List Cell}
    (in_order : InOrder id chain cells) :
    List.Forall₂ Shows (readBlocks chain cells)
      (Cbc.crypt aes (keys.key id) .decrypt start (cells.map (value keys aes preset))) := by
  induction cells generalizing chain start with
  | nil => exact .nil
  | cons cell cells ih =>
      obtain ⟨follows, rest⟩ := in_order
      have next : ChainValue keys aes preset (some cell) (value keys aes preset cell) :=
        fun other last => congrArg _ (Option.some.inj last).symm
      exact .cons (shows_value keys aes preset chained follows) (ih next rest)

end Values

/-- The bytes of a file are the values of its cells, up to its length. -/
structure SealedFile.Holds (value : Cell → Block) (file : SealedFile) (bytes : Bytes) : Prop where
  size : file.size = bytes.length
  cells : file.cells.map value = padded bytes

theorem SealedFile.Holds.empty (value : Cell → Block) :
    SealedFile.Holds value { cells := [], size := 0 } [] := ⟨rfl, rfl⟩

/-- Writing whole blocks splices their cells into the file. -/
theorem SealedFile.Holds.write {value : Cell → Block} (hole : value .hole = Block.zero)
    {file : SealedFile} {bytes : Bytes} (holds : file.Holds value bytes) (position : Nat)
    {cells : List Cell} (cells_ne : cells ≠ []) :
    SealedFile.Holds value
      { cells := splice .hole file.cells position cells
        size := max file.size (16 * (position + cells.length)) }
      (overwrite bytes (16 * position) (joinBlocks (cells.map value))) where
  size := by
    rw [length_overwrite, length_joinBlocks, List.length_map, holds.size, Nat.mul_add]
  cells := by
    rw [padded_overwrite bytes position (mt List.map_eq_nil_iff.mp cells_ne), map_splice, hole,
      holds.cells]

/-- Reading whole blocks reads the values of cells. -/
theorem SealedFile.Holds.read {value : Cell → Block} {file : SealedFile} {bytes : Bytes}
    (holds : file.Holds value bytes) {position count : Nat}
    (whole : 16 ∣ min (16 * count) (file.size - 16 * position)) :
    (bytes.drop (16 * position)).take (16 * count) =
      joinBlocks (((file.cells.drop position).take count).map value) := by
  rw [holds.size] at whole
  rw [padded_read bytes position count whole, ← holds.cells, List.map_take, List.map_drop]

/-- Key schedule of a handle in use. -/
def Mode.direction : Mode → Direction
  | writing _ => .encrypt
  | reading _ => .decrypt

/-- The cell to which the next block is chained. -/
def Mode.chain? : Mode → Option Cell
  | writing chain => some chain
  | reading chain => chain

/-- File description of a handle in use. -/
def Access.file (access : Access) : OpenFile where
  path := cString access.id
  offset := 16 * access.position
  readable := !access.mode.writes
  writable := access.mode.writes

theorem Mode.direction_eq {left right : Mode} (same : left.writes = right.writes) :
    left.direction = right.direction := by
  cases left <;> cases right <;> simp_all [writes, direction]

variable {lib : Mbedtls}

section Refinement

variable (platform : Platform) (aes : BlockCipher Bytes Block) (preset : Bytes → Nat → Block)

/-- A handle that stands for an access. -/
structure Represents (host : Host) (access : Access) (handle : StoredObject lib) : Prop where
  persistent : hasFlag handle.flags teeHandleFlagPersistent = true
  keyed : ∃ context, handle.persistCtx =
    lib.aesSetkey access.mode.direction (lib.aesInit context) (platform.keys.key access.id)
  opened : host.openFile? handle.desc = some access.file
  chained : ChainValue platform.keys aes preset access.mode.chain? handle.persistIv

/-- A state that refines the object store. -/
structure Refines (store : ObjectStore) (tee : Enclave lib) : Prop where
  files : ∀ path,
    Option.Rel (SealedFile.Holds (Cell.value platform.keys aes preset)) (store.files path)
      (tee.host.files path)
  length : tee.objects.length = store.accesses.length
  handles : ∀ (index : Nat) (access : Access), store.accesses[index]? = some (some access) →
    ∃ handle, tee.objects[index]? = some handle ∧
      Represents platform aes preset tee.host access handle
  distinct : ∀ (index other : Nat) (access access' : Access) (handle handle' : StoredObject lib),
    store.accesses[index]? = some (some access) → store.accesses[other]? = some (some access') →
    tee.objects[index]? = some handle → tee.objects[other]? = some handle' →
    handle.desc = handle'.desc → index = other
  opens : tee.host.opens = store.opens
  mallocs : ∀ count, (tee.mallocs.get count).isSome = store.mallocs.get count
  derives : ∀ count, tee.derives.get count = true
  prompt : tee.host.transfers.All Transfer.Prompt

/-- Both sides still run in related states, or both have stopped. -/
def RefinesRun : Option ObjectStore → Option (Enclave lib) → Prop
  | some store, some tee => Refines platform aes preset store tee
  | none, none => True
  | _, _ => False

end Refinement

/-- What an output says apart from data. -/
def StorageOutput.answer : StorageOutput → Answer
  | .opened result object => { exit := .returned (some result), object, count := none }
  | .written exit => { exit := exit.map some, object := none, count := none }
  | .read call => { exit := call.exit.map some, object := none, count := call.count }
  | .closed exit => { exit := exit.map fun _ => none, object := none, count := none }
  | .stopped => { exit := .panicked, object := none, count := none }

/-- The plaintext that a read stored in the caller's buffer. -/
def StorageOutput.plaintext : StorageOutput → Bytes
  | .read { exit := .returned .success, buffer, count } => buffer.take (count.getD 0)
  | _ => []

/-- The output has the answer of the object store, and its plaintext consists of the blocks that
were written, as far as they were. -/
structure Reply.Shown (reply : Reply) (output : StorageOutput) : Prop where
  answer : output.answer = reply.toAnswer
  data : ∃ blocks, output.plaintext = joinBlocks blocks ∧ List.Forall₂ Shows reply.written blocks

theorem StorageOutput.plaintext_of_count {call : ReadCall} (none_stored : call.count = none) :
    (StorageOutput.read call).plaintext = [] := by
  obtain ⟨exit, buffer, count⟩ := call
  obtain rfl : count = none := none_stored
  unfold plaintext
  split
  · rename_i same
    cases same
    rfl
  · rfl

/-- Outputs without plaintext. -/
theorem Reply.Shown.of_answer {reply : Reply} {output : StorageOutput}
    (answer : output.answer = reply.toAnswer) (nothing : output.plaintext = [])
    (none_written : reply.written = []) : reply.Shown output :=
  ⟨answer, [], nothing, none_written ▸ .nil⟩

/-- A step of a platform gives what the object store gives, and ends in a related state. -/
def Corresponds (platform : Platform) (aes : BlockCipher Bytes Block)
    (preset : Bytes → Nat → Block) (abstract : Reply × Option ObjectStore)
    (concrete : StorageOutput × Option (Enclave lib)) : Prop :=
  abstract.1.Shown concrete.1 ∧ RefinesRun platform aes preset abstract.2 concrete.2

end TaRef
