import TaRef.Library.Splice
import TaRef.Storage.Run

/-!
# The object store

What trusted storage is for, without a platform and without the host's transfers.  A file is a list
of cells, each described by its origin: a sealed cell remembers the identifier, the plaintext and
the cell before it.  A read is consecutive when each sealed cell that it passes was sealed for the
identifier of the handle right after the cell read before it.
-/

namespace TaRef

/-- A block of a file or a chaining value, described by its origin. -/
inductive Cell
  | iv (id : Bytes)
  | initial (path : Bytes) (index : Nat)
  | hole
  | sealed (id : Bytes) (plain : Block) (previous : Cell)
  deriving DecidableEq

namespace Cell

/-- Seal one block after a cell. -/
def sealStep (id : Bytes) (chain : Cell) (plain : Block) : Cell × Cell :=
  (.sealed id plain chain, .sealed id plain chain)

/-- The plaintext of a block that was written through the object store. -/
def written : Cell → Option Block
  | sealed _ plain _ => some plain
  | iv _ | initial _ _ | hole => none

/-- Read one cell. -/
def readStep (_ : Option Cell) (cell : Cell) : Option Block × Option Cell :=
  (cell.written, some cell)

/-- A cell that was written was sealed for the identifier right after the cell last seen. -/
def Follows (id : Bytes) (chain : Option Cell) : Cell → Prop
  | sealed owner _ previous => owner = id ∧ chain = some previous
  | iv _ | initial _ _ | hole => True

instance (id : Bytes) (chain : Option Cell) (cell : Cell) : Decidable (Follows id chain cell) :=
  match cell with
  | sealed owner _ previous => inferInstanceAs (Decidable (owner = id ∧ chain = some previous))
  | iv _ | initial _ _ | hole => inferInstanceAs (Decidable True)

/-- The cells of a sealed message. -/
def sealBlocks (id : Bytes) : Cell → List Block → List Cell := Machine.outputs (sealStep id)

/-- What is known of the plaintext of some cells: the blocks that were written. -/
def readBlocks : Option Cell → List Cell → List (Option Block) := Machine.outputs readStep

/-- The cells follow one another. -/
def InOrder (id : Bytes) : Option Cell → List Cell → Prop :=
  Machine.Within readStep (Follows id)

instance (id : Bytes) (chain : Option Cell) (cells : List Cell) :
    Decidable (InOrder id chain cells) :=
  inferInstanceAs (Decidable (Machine.Within readStep (Follows id) chain cells))

@[simp]
theorem length_sealBlocks (id : Bytes) (chain : Cell) (blocks : List Block) :
    (sealBlocks id chain blocks).length = blocks.length :=
  Machine.length_outputs _ _ _

/-- The cells of a sealed message follow one another. -/
theorem inOrder_sealBlocks (id : Bytes) (chain : Cell) (blocks : List Block) :
    InOrder id (some chain) (sealBlocks id chain blocks) ∧
      readBlocks (some chain) (sealBlocks id chain blocks) = blocks.map some := by
  induction blocks generalizing chain with
  | nil => exact ⟨trivial, rfl⟩
  | cons block blocks ih =>
      obtain ⟨rest_follow, rest_written⟩ := ih (.sealed id block chain)
      exact ⟨⟨⟨rfl, rfl⟩, rest_follow⟩, congrArg (some block :: ·) rest_written⟩

end Cell

/-- A file: its cells, of which the last may be incomplete, and its length in bytes. -/
structure SealedFile where
  cells : List Cell
  size : Nat

/-- Direction of a handle in use, with the cell its next block is chained to; a reader may have lost
it. -/
inductive Mode
  | writing (chain : Cell)
  | reading (chain : Option Cell)

def Mode.writes : Mode → Bool
  | writing _ => true
  | reading _ => false

/-- A handle in use. -/
structure Access where
  id : Bytes
  position : Nat
  mode : Mode

/-- Files and handles, and what the next `open` and the next allocations will do. -/
structure ObjectStore where
  files : Bytes → Option SealedFile
  accesses : List (Option Access)
  opens : Stream' Bool
  mallocs : Stream' Bool

/-- Result code, new handle and `*count` of a storage call. -/
structure Answer where
  exit : Exit (Option TeeResult)
  object : Option Nat
  count : Option Nat
  deriving DecidableEq

/-- The answer of the object store, with the blocks of a read, as far as they were written through
the object store. -/
structure Reply extends Answer where
  written : List (Option Block)

/-- The reply of a call that returns a result code only. -/
def Reply.result (result : TeeResult) : Reply where
  exit := .returned (some result)
  object := none
  count := none
  written := []

/-- The reply of a read that stored `*count`. -/
def Reply.counted (result : TeeResult) (count : Nat) (written : List (Option Block)) : Reply where
  exit := .returned (some result)
  object := none
  count := some count
  written

namespace ObjectStore

/-- The access behind a handle. -/
def access? (store : ObjectStore) (object : Option Nat) : Option Access :=
  (object.bind fun index => store.accesses[index]?).join

/-- Replace the access behind a handle. -/
def setAccess (store : ObjectStore) (object : Option Nat) (access : Option Access) :
    ObjectStore :=
  { store with accesses := store.accesses.set (object.getD store.accesses.length) access }

/-- The file of a path, empty when there is none. -/
def content (store : ObjectStore) (path : Bytes) : SealedFile :=
  (store.files path).getD { cells := [], size := 0 }

/-- One allocation. -/
def malloc (store : ObjectStore) : Bool × ObjectStore :=
  (store.mallocs.head, { store with mallocs := store.mallocs.tail })

/-- Create or open an object. -/
def openObject (store : ObjectStore) (objectID : Option Bytes) (flags : UInt32)
    (ocreat : Bool) : Reply × ObjectStore :=
  match objectID with
  | none => (.result .errorItemNotFound, store)
  | some id =>
      if id.length > teeObjectIdMaxLen then (.result .errorBadParameters, store)
      else if hasFlag flags teeDataFlagAccessRead && hasFlag flags teeDataFlagAccessWrite then
        (.result .errorNotSupported, store)
      else
        match store.malloc with
        | (false, store) => (.result .errorOutOfMemory, store)
        | (true, store) =>
            match store.malloc with
            | (false, store) => (.result .errorOutOfMemory, store)
            | (true, store) =>
                let path := cString id
                let store' := { store with opens := store.opens.tail }
                if (hasFlag flags teeDataFlagAccessRead || hasFlag flags teeDataFlagAccessWrite) &&
                    store.opens.head && (ocreat || (store.files path).isSome) then
                  let file := if hasFlag flags teeDataFlagOverwrite then { cells := [], size := 0 }
                    else store.content path
                  let mode := if hasFlag flags teeDataFlagAccessWrite then Mode.writing (.iv id)
                    else .reading (some (.iv id))
                  ({ Reply.result .success with object := some store.accesses.length },
                    { store' with
                      files := Function.update store.files path (some file)
                      accesses := store.accesses ++ [some { id, position := 0, mode }] })
                else (.result .errorAccessDenied, store')

/-- Write a buffer to an object. -/
def writeObject (store : ObjectStore) (object : Option Nat) (buffer : Bytes) :
    Reply × ObjectStore :=
  match store.access? object with
  | none => (.result .errorBadParameters, store)
  | some access =>
      if ¬ 16 ∣ buffer.length then (.result .errorBadParameters, store)
      else
        match store.malloc with
        | (false, store) => (.result .errorOutOfMemory, store)
        | (true, store) =>
            match access.mode with
            | .reading _ =>
                (.result .errorGeneric,
                  store.setAccess object (some { access with mode := .reading none }))
            | .writing chain =>
                let path := cString access.id
                let blocks := toBlocks buffer
                let cells := splice .hole (store.content path).cells access.position
                  (Cell.sealBlocks access.id chain blocks)
                let size := max (store.content path).size (16 * (access.position + blocks.length))
                let files := if blocks = [] then store.files
                  else Function.update store.files path (some { cells, size })
                (.result .success,
                  { store with files }.setAccess object (some { access with
                    position := access.position + blocks.length
                    mode := .writing (Machine.final (Cell.sealStep access.id) chain blocks) }))

/-- The cells that a read passes. -/
def passed (store : ObjectStore) (access : Access) (size : Nat) : List Cell :=
  ((store.content (cString access.id)).cells.drop access.position).take (size / 16)

/-- Read from an object. -/
def readObject (store : ObjectStore) (object : Option Nat) (size : Nat) : Reply × ObjectStore :=
  match store.access? object with
  | none => (.result .errorBadParameters, store)
  | some access =>
      if ¬ 16 ∣ size then (.result .errorBadParameters, store)
      else
        match access.mode with
        | .writing _ => (.result .errorGeneric, store)
        | .reading chain =>
            let cells := store.passed access size
            let count := 16 * cells.length
            if cells = [] then (.counted .success 0 [], store)
            else
              match store.malloc with
              | (false, store) =>
                  (.counted .errorOutOfMemory count [],
                    store.setAccess object (some { access with
                      position := access.position + cells.length }))
              | (true, store) =>
                  (.counted .success count (Cell.readBlocks chain cells),
                    store.setAccess object (some { access with
                      position := access.position + cells.length
                      mode := .reading (Machine.final Cell.readStep chain cells) }))

/-- What a reader is given. -/
theorem readObject_reading (store : ObjectStore) {object : Option Nat} {access : Access}
    (used : store.access? object = some access) {chain : Option Cell}
    (mode : access.mode = .reading chain) {size : Nat} (whole : 16 ∣ size) :
    store.readObject object size =
      let cells := store.passed access size
      if cells = [] then (.counted .success 0 [], store)
      else
        match store.mallocs.head with
        | false =>
            (.counted .errorOutOfMemory (16 * cells.length) [],
              { store with mallocs := store.mallocs.tail }.setAccess object (some { access with
                position := access.position + cells.length, mode := .reading chain }))
        | true =>
            (.counted .success (16 * cells.length) (Cell.readBlocks chain cells),
              { store with mallocs := store.mallocs.tail }.setAccess object (some { access with
                position := access.position + cells.length
                mode := .reading (Machine.final Cell.readStep chain cells) })) := by
  simp only [readObject, used, if_neg (not_not.mpr whole), mode, malloc]
  cases store.mallocs.head with
  | false => simp only [← mode]
  | true => rfl

/-- Close an object. -/
def closeObject (store : ObjectStore) (object : Option Nat) : Reply × Option ObjectStore :=
  match store.access? object with
  | none => ({ exit := .panicked, object := none, count := none, written := [] }, none)
  | some _ =>
      ({ exit := .returned none, object := none, count := none, written := [] },
        some (store.setAccess object none))

/-- Perform one call. -/
def step : Option ObjectStore → StorageCall → Reply × Option ObjectStore
  | none, _ => ({ exit := .panicked, object := none, count := none, written := [] }, none)
  | some store, .create objectID flags => (store.openObject objectID flags true).map id some
  | some store, .open objectID flags => (store.openObject objectID flags false).map id some
  | some store, .write object buffer => (store.writeObject object buffer).map id some
  | some store, .read object _ size => (store.readObject object size).map id some
  | some store, .close object => store.closeObject object

/-- The handle is `NULL`, or in use by an access that fits. -/
def Serves (store : ObjectStore) (object : Option Nat) (fits : Access → Prop) : Prop :=
  object = none ∨ ∃ access, store.access? object = some access ∧ fits access

/-- The bytes of the file that are left for a reader. -/
def left (store : ObjectStore) (access : Access) : Nat :=
  (store.content (cString access.id)).size - 16 * access.position

/-- Every block of a read that was written through the object store was sealed for the identifier of
the handle right after the block read before it. -/
def Consecutive (store : ObjectStore) (access : Access) (size : Nat) : Prop :=
  match access.mode with
  | .writing _ => True
  | .reading chain => Cell.InOrder access.id chain (store.passed access size)

/-- The call names no closed handle, its size fits an `int`, it transfers nothing against the
direction of the handle only if it asks for something, it does not read the bytes of an incomplete
last block, and the blocks that it reads and has the memory to decrypt are consecutive. -/
def Regular : Option ObjectStore → StorageCall → Prop
  | some store, .write object buffer =>
      store.Serves object fun access =>
        buffer.length < 2 ^ 31 ∧ (buffer = [] → access.mode.writes = true)
  | some store, .read object _ size =>
      store.Serves object fun access =>
        size < 2 ^ 31 ∧ (size = 0 → access.mode.writes = false) ∧
          (16 ∣ size → access.mode.writes = false → 16 ∣ min size (store.left access)) ∧
          (16 ∣ size → store.mallocs.head = true → store.Consecutive access size)
  | some store, .close object => store.Serves object fun _ => True
  | _, _ => True

section Decidable

instance (store : ObjectStore) (object : Option Nat) (fits : Access → Prop)
    [DecidablePred fits] : Decidable (store.Serves object fits) :=
  inferInstanceAs (Decidable (_ ∨ ∃ access, access ∈ store.access? object ∧ fits access))

instance (store : ObjectStore) (access : Access) (size : Nat) :
    Decidable (store.Consecutive access size) :=
  match access with
  | { mode := .writing _, .. } => inferInstanceAs (Decidable True)
  | { id, position, mode := .reading chain } =>
      inferInstanceAs (Decidable (Cell.InOrder id chain
        (store.passed { id, position, mode := .reading chain } size)))

instance (store : Option ObjectStore) (call : StorageCall) : Decidable (Regular store call) :=
  match store, call with
  | none, _ => inferInstanceAs (Decidable True)
  | some store, .write object buffer =>
      inferInstanceAs (Decidable (store.Serves object fun access =>
        buffer.length < 2 ^ 31 ∧ (buffer = [] → access.mode.writes = true)))
  | some store, .read object _ size =>
      inferInstanceAs (Decidable (store.Serves object fun access =>
        size < 2 ^ 31 ∧ (size = 0 → access.mode.writes = false) ∧
          (16 ∣ size → access.mode.writes = false → 16 ∣ min size (store.left access)) ∧
          (16 ∣ size → store.mallocs.head = true → store.Consecutive access size)))
  | some store, .close object =>
      inferInstanceAs (Decidable (store.Serves object fun _ => True))
  | some _, .create _ _ => inferInstanceAs (Decidable True)
  | some _, .open _ _ => inferInstanceAs (Decidable True)

end Decidable

/-- What a writer sealed in order may be read in order, and all of it is given. -/
theorem readObject_sealed (store : ObjectStore) {object : Option Nat} {access : Access}
    (used : store.access? object = some access) {blocks : List Block}
    (sealed_eq : (store.content (cString access.id)).cells =
      Cell.sealBlocks access.id (.iv access.id) blocks)
    (mode : access.mode = .reading (some (Machine.final (Cell.sealStep access.id)
      (.iv access.id) (blocks.take access.position))))
    {size : Nat} (whole : 16 ∣ size) (allocated : store.mallocs.head = true) :
    store.Consecutive access size ∧
      (store.readObject object size).1.written =
        ((blocks.drop access.position).take (size / 16)).map some := by
  have passed_eq : store.passed access size = Cell.sealBlocks access.id
      (Machine.final (Cell.sealStep access.id) (.iv access.id) (blocks.take access.position))
      ((blocks.drop access.position).take (size / 16)) := by
    rw [passed, sealed_eq]
    simp only [Cell.sealBlocks, Machine.outputs_drop, Machine.outputs_take]
  obtain ⟨in_order, written⟩ := Cell.inOrder_sealBlocks access.id
    (Machine.final (Cell.sealStep access.id) (.iv access.id) (blocks.take access.position))
    ((blocks.drop access.position).take (size / 16))
  constructor
  · rw [Consecutive, mode, passed_eq]
    exact in_order
  · rw [store.readObject_reading used mode whole, passed_eq, allocated]
    dsimp only
    split
    · rename_i nothing
      rw [← written, nothing]
      rfl
    · exact written

end ObjectStore
end TaRef
