import Mathlib.Data.Stream.Init
import TaRef.Library.CircularList
import TaRef.Profiler.Analyzer
import TaRef.Storage.Object

/-!
# The symbol table in memory

`parse_nm` reads the output of `nm` line by line and puts each line into a hash table of circular
lists.  It does not look at the result of `sscanf`, so a line that does not start with an address is
entered with whatever the local variables hold.
-/

namespace TaRef
namespace Profiler
namespace NmParse

def bufSize : Nat := 512
def poolSize : Nat := 30000
def maxAddr : UInt64 := 0xFFFFFFFF

/-- `char func_name[256]`. -/
abbrev FuncName := { bytes : Bytes // bytes.length = 256 }

/-- `struct nm_info`. -/
structure NmInfo where
  type : UInt8
  funcName : FuncName

/-- `struct list`; `nm` is the index of an element of `nm_pool`, or `none` for `NULL`. -/
structure ListCell where
  next : Nat
  addr : UInt64
  nm : Option Nat

/-- The memory of `nm_parse.c`.  Pointers below `hashSize` are those to the elements of `table`, and
the others to the cells that `malloc` has returned, in order. -/
structure Table where
  cells : Nat → ListCell
  allocated : Nat
  nmPool : Nat → NmInfo
  idx : Nat

/-! ## The hash table -/

/-- `create_htable`. -/
def createHtable (cells : Nat → ListCell) : Nat → ListCell := fun pointer =>
  if pointer < hashSize then { cells pointer with next := pointer, nm := none }
  else cells pointer

/-- The loop of `get_func_name`, or `none` when `fuel` cells have not ended it or one of them has no
`nm`. -/
def getFuncNameLoop (table : Table) (addr : UInt64) (head : Nat) :
    Nat → Nat → Option (Option FuncName)
  | 0, _ => none
  | fuel + 1, elem =>
      if elem = head then some none
      else if (table.cells elem).addr = addr then
        (table.cells elem).nm.map fun nm => some (table.nmPool nm).funcName
      else getFuncNameLoop table addr head fuel (table.cells elem).next

/-- `get_func_name`, cut off after `fuel` cells. -/
def getFuncName (fuel : Nat) (table : Table) (addr : UInt64) : Option (Option FuncName) :=
  let head := getKey addr
  getFuncNameLoop table addr head fuel (table.cells head).next

/-- `insert_nm`. -/
def insertNm (table : Table) (addr : UInt64) (nm : Nat) : Table :=
  let head := getKey addr
  let elem := hashSize + table.allocated
  let cells := Function.update table.cells elem
    { next := (table.cells head).next, addr, nm := some nm }
  { table with
    cells := Function.update cells head { cells head with next := elem }
    allocated := table.allocated + 1 }

/-! ## Reading a line -/

/-- The characters of `fgets`, at most `count`, and what it leaves. -/
def fgetsLoop : Nat → Bytes → Bytes × Bytes
  | 0, file => ([], file)
  | _ + 1, [] => ([], [])
  | count + 1, char :: file =>
      if char = 10 then ([char], file)
      else
        let (line, file) := fgetsLoop count file
        (char :: line, file)

/-- `fgets`, with `none` for `NULL`. -/
def fgets (size : Nat) (file : Bytes) : Option (Bytes × Bytes) :=
  if file = [] then none else some (fgetsLoop (size - 1) file)

/-- `isspace`. -/
def isspace (char : UInt8) : Bool := char = 32 || 9 ≤ char && char ≤ 13

/-- Value of a hexadecimal digit. -/
def hexDigit (char : UInt8) : Option Nat :=
  if 48 ≤ char && char ≤ 57 then some (char.toNat - 48)
  else if 65 ≤ char && char ≤ 70 then some (char.toNat - 55)
  else if 97 ≤ char && char ≤ 102 then some (char.toNat - 87)
  else none

/-- Value of some hexadecimal digits. -/
def hexValue (digits : Bytes) : Nat :=
  digits.foldl (fun value digit => 16 * value + (hexDigit digit).getD 0) 0

/-- The sign in front of a number: whether it is negative, the width left, and the characters
left. -/
def scanSign (width : Nat) : Bytes → Bool × Nat × Bytes
  | 43 :: input => (false, width - 1, input)
  | 45 :: input => (true, width - 1, input)
  | input => (false, width, input)

/-- The prefix `0x` or `0X`, where `width` has room for it. -/
def scanPrefix (width : Nat) : Bytes → Nat × Bytes
  | 48 :: char :: input =>
      if (char = 120 ∨ char = 88) ∧ 2 ≤ width then (width - 2, input)
      else (width, 48 :: char :: input)
  | input => (width, input)

/-- The conversion `%lx` with a width: the value and the characters left, or `none` where the input
does not match. -/
def scanHex (width : Nat) (input : Bytes) : Option (UInt64 × Bytes) :=
  let (negative, width, input) := scanSign width (input.dropWhile isspace)
  let (width, input) := scanPrefix width input
  let digits := (input.take width).takeWhile fun char => (hexDigit char).isSome
  if digits = [] then none
  else
    let value := UInt64.ofNat (hexValue digits)
    some (if negative then -value else value, input.drop digits.length)

/-- The local variables of the loop of `parse_nm`. -/
structure Locals where
  addr : UInt64
  type : UInt8
  funcName : FuncName

/-- A string with its NUL stored at the start of `func_name`. -/
def FuncName.store (funcName : FuncName) (string : Bytes) (string_lt : string.length < 256) :
    FuncName :=
  ⟨string ++ 0 :: funcName.val.drop (string.length + 1), by
    rw [List.length_append, List.length_cons, List.length_drop, funcName.property]
    omega⟩

/-- `sscanf(line, "%16lx %c %s", &addr, &type, func_name)`, or `none` where the string does not fit
in `func_name`.  A conversion that fails leaves its variable and the later ones as they are. -/
def sscanf (line : Bytes) (locals : Locals) : Option Locals :=
  match scanHex 16 (cString line) with
  | none => some locals
  | some (addr, input) =>
      let locals := { locals with addr }
      match input.dropWhile isspace with
      | [] => some locals
      | type :: input =>
          let locals := { locals with type }
          let string := (input.dropWhile isspace).takeWhile fun char => !isspace char
          if string = [] then some locals
          else if string_lt : string.length < 256 then
            some { locals with funcName := locals.funcName.store string string_lt }
          else none

/-- `strncpy` between two buffers of 256 bytes. -/
def strncpy (src : FuncName) : FuncName :=
  ⟨cString src.val ++ List.replicate (256 - (cString src.val).length) 0, by
    have length_le : (cString src.val).length ≤ src.val.length :=
      (List.takeWhile_sublist _).length_le
    rw [src.property] at length_le
    rw [List.length_append, List.length_replicate]
    omega⟩

/-! ## The loop over the lines -/

/-- How `parse_nm` ended; `outside` is an access outside `func_name` or `nm_pool`. -/
inductive Parsed
  | table (table : Table)
  | null
  | outside

theorem length_fgetsLoop (count : Nat) (file : Bytes) :
    (fgetsLoop count file).2.length ≤ file.length := by
  induction count generalizing file with
  | zero => exact Nat.le_refl _
  | succ count ih =>
      cases file with
      | nil => exact Nat.le_refl _
      | cons char file =>
          rw [fgetsLoop]
          split
          · exact Nat.le_succ _
          · exact Nat.le_succ_of_le (ih file)

/-- `fgets` takes at least one character. -/
theorem length_fgets {size : Nat} {file line rest : Bytes}
    (got : fgets (size + 2) file = some (line, rest)) : rest.length < file.length := by
  cases file with
  | nil => exact nomatch got
  | cons char file =>
      rw [fgets, if_neg (List.cons_ne_nil _ _), Option.some.injEq] at got
      have taken := congrArg (fun pair => pair.2.length) got
      simp only [show size + 2 - 1 = size + 1 from rfl, fgetsLoop] at taken
      rw [← taken]
      split
      · exact Nat.lt_succ_self _
      · exact Nat.lt_succ_of_le (length_fgetsLoop size file)

/-- The loop of `parse_nm`; `residue` has what the local variables hold when an iteration starts. -/
def parseNmLoop (residue : Stream' Locals) (file : Bytes) (table : Table) : Parsed :=
  match _ : fgets bufSize file with
  | none => .table table
  | some (line, rest) =>
      match sscanf line residue.head with
      | none => .outside
      | some locals =>
          if locals.addr ≥ maxAddr then .null
          else if table.idx ≥ poolSize then .outside
          else
            let info : NmInfo := { type := locals.type, funcName := strncpy locals.funcName }
            let table := { table with nmPool := Function.update table.nmPool table.idx info }
            let table := insertNm table locals.addr table.idx
            parseNmLoop residue.tail rest { table with idx := table.idx + 1 }
termination_by file.length
decreasing_by exact length_fgets ‹_›

/-- `parse_nm`, with the contents of the listing, or `none` where it cannot be opened, and with what
the memory and the local variables hold before. -/
def parseNm (residue : Stream' Locals) (cells : Nat → ListCell) (nmPool : Nat → NmInfo)
    (file : Option Bytes) : Parsed :=
  match file with
  | none => .null
  | some file =>
      parseNmLoop residue file { cells := createHtable cells, allocated := 0, nmPool, idx := 0 }

/-! ## One line -/

section Line

variable {residue : Stream' Locals} {table : Table}

theorem parseNmLoop_nil : parseNmLoop residue [] table = .table table := by
  rw [parseNmLoop]
  rfl

/-- What an iteration enters. -/
def Locals.info (locals : Locals) : NmInfo where
  type := locals.type
  funcName := strncpy locals.funcName

/-- The table after an iteration. -/
def Table.enter (table : Table) (locals : Locals) : Table :=
  { insertNm { table with
      nmPool := Function.update table.nmPool table.idx locals.info } locals.addr table.idx with
    idx := table.idx + 1 }

theorem parseNmLoop_cons {file line rest : Bytes} {locals : Locals}
    (got : fgets bufSize file = some (line, rest))
    (scanned : sscanf line residue.head = some locals) (room : table.idx < poolSize) :
    parseNmLoop residue file table =
      if locals.addr ≥ maxAddr then .null
      else parseNmLoop residue.tail rest (table.enter locals) := by
  rw [parseNmLoop]
  split
  · rename_i ended
    rw [got] at ended
    exact nomatch ended
  · rename_i line' rest' got'
    rw [got, Option.some.injEq, Prod.mk.injEq] at got'
    obtain ⟨rfl, rfl⟩ := got'
    simp only [scanned, if_neg (Nat.not_le.mpr room)]
    rfl

end Line

end NmParse
end Profiler
end TaRef
