import TaRef.Profiler.Recorder

/-!
# The analyzer of profiler logs

The program on the host that reads a log file and prints one row for each call it can match.  It
keeps the calls that are still open on a stack of fixed size, and it stops at the first record that
does not fit.
-/

namespace TaRef
namespace Profiler

def bufMax : Nat := 65536
def stackSize : Nat := 100
def hashSize : Nat := 65536

/-! ## Symbol table -/

/-- `struct nm_info`. -/
structure NmInfo where
  type : Char
  funcName : String

/-- The hash table of `struct list`, by key: the elements behind the head of each list. -/
abbrev NmTable := Nat → List (UInt64 × NmInfo)

/-- `create_htable`. -/
def createHtable : NmTable := fun _ => []

/-- `get_key`. -/
def getKey (addr : UInt64) : Nat := addr.toNat % hashSize

/-- `get_func_name`, with `none` for `NULL`. -/
def getFuncName (table : NmTable) (addr : UInt64) : Option String :=
  ((table (getKey addr)).find? fun elem => elem.1 == addr).map fun elem => elem.2.funcName

/-! ## The stack of open calls -/

/-- `struct result`. -/
structure Result where
  idx : Nat
  callee : UInt64
  startHartid : UInt8
  endHartid : UInt8
  start : UInt64
  «end» : UInt64
  depth : Nat

/-- `push`, or `none` where it writes past the end of `stack`. -/
def push (stack : List Result) (data : Result) : Option (List Result) :=
  if stack.length < stackSize then some ({ data with depth := stack.length } :: stack) else none

/-! ## The report -/

/-- The values of one line of `FORMAT`. -/
structure Row where
  id : Nat
  idx : Nat
  startCoreId : UInt8
  endCoreId : UInt8
  depth : Nat
  addr : UInt64
  funcname : Option String
  start : UInt64
  «end» : UInt64
  duration : UInt64
  deriving DecidableEq, Repr

/-- How `main` ended; `outside` is an access outside `buf` or `stack`. -/
inductive Ending
  | finished
  | noInput
  | emptyStack
  | wrongDirection
  | outside
  deriving DecidableEq, Repr

/-- What `main` printed: the line `COLS`, the rows, and how it ended. -/
structure Report where
  caption : Bool
  rows : List Row
  ending : Ending
  deriving DecidableEq, Repr

/-- A report without lines. -/
def Report.silent (ending : Ending) : Report := { caption := false, rows := [], ending }

/-- A report with some rows put in front. -/
def Report.after (rows : List Row) (report : Report) : Report :=
  { report with rows := rows ++ report.rows }

/-- The row of a matched call. -/
def Result.row (table : NmTable) (baseaddr : UInt64) (res : Result) (id : Nat) : Row where
  id
  idx := res.idx
  startCoreId := res.startHartid
  endCoreId := res.endHartid
  depth := res.depth
  addr := res.callee - baseaddr
  funcname := getFuncName table (res.callee - baseaddr)
  start := res.start
  «end» := res.end
  duration := res.end - res.start

/-- The loop of `main` over the records left, from the record `i` on. -/
def analyzeRecords (table : NmTable) (buf : Memory) : Nat → Nat → UInt64 → List Result → Report
  | 0, _, _, _ => .silent .finished
  | left + 1, i, baseaddr, stack =>
      if bufMax < dataAddress i + calleeOffset then .silent .outside
      else
        let data := getData buf (dataAddress i)
        if i = 0 then
          if bufMax < dataAddress (i + 1) then .silent .outside
          else { analyzeRecords table buf left (i + 1) data.callee stack with caption := true }
        else if data.direction = DirectionT.call.code then
          if bufMax < dataAddress (i + 1) then .silent .outside
          else
            -- the fields that are not given here are set before they are read
            match push stack
                { idx := i, callee := data.callee, startHartid := data.hartid, endHartid := 0,
                  start := data.nsec, «end» := 0, depth := 0 } with
            | none => .silent .outside
            | some stack => analyzeRecords table buf left (i + 1) baseaddr stack
        else if data.direction = DirectionT.ret.code then
          match stack with
          | [] => .silent .emptyStack
          | res :: stack =>
              let res := { res with «end» := data.nsec, endHartid := data.hartid }
              (analyzeRecords table buf left (i + 1) baseaddr stack).after
                [res.row table baseaddr i]
        else .silent .wrongDirection

/-- `buf` after the log was read into it. -/
def readLog (log : Bytes) : Memory := fun address => (log.take bufMax).getD address 0

/-- `main`, with the log file and the table from `parse_nm`, or `none` where one of them fails. -/
def analyze (log : Option Bytes) (table : Option NmTable) : Report :=
  match log, table with
  | some log, some table =>
      let buf := readLog log
      analyzeRecords table buf (buf.getWord idxOffset).toNat 0 0 []
  | _, _ => .silent .noInput

@[simp]
theorem Report.after_after (first second : List Row) (report : Report) :
    Report.after first (Report.after second report) = Report.after (first ++ second) report := by
  simp [Report.after]

/-! ## One record -/

section Record

variable {table : NmTable} {buf : Memory} {left i : Nat} {baseaddr : UInt64} {stack : List Result}

/-- The first record gives the base address. -/
theorem analyzeRecords_start :
    analyzeRecords table buf (left + 1) 0 baseaddr stack =
      { analyzeRecords table buf left 1 (getData buf (dataAddress 0)).callee stack with
        caption := true } := by
  rw [analyzeRecords, if_neg (by decide), if_pos rfl, if_neg (by decide)]

theorem analyzeRecords_call (later : i ≠ 0) (inside : dataAddress (i + 1) ≤ bufMax)
    (direction : (getData buf (dataAddress i)).direction = DirectionT.call.code)
    (room : stack.length < stackSize) :
    analyzeRecords table buf (left + 1) i baseaddr stack =
      analyzeRecords table buf left (i + 1) baseaddr
        ({ idx := i
           callee := (getData buf (dataAddress i)).callee
           startHartid := (getData buf (dataAddress i)).hartid
           endHartid := 0
           start := (getData buf (dataAddress i)).nsec
           «end» := 0
           depth := stack.length } :: stack) := by
  have inside_nsec : ¬ bufMax < dataAddress i + calleeOffset := by
    simp only [dataAddress, calleeOffset] at inside ⊢
    omega
  rw [analyzeRecords, if_neg inside_nsec, if_neg later]
  simp only [if_pos direction, if_neg (Nat.not_lt.mpr inside), push, if_pos room]

theorem analyzeRecords_ret {res : Result} (later : i ≠ 0)
    (inside : dataAddress i + calleeOffset ≤ bufMax)
    (direction : (getData buf (dataAddress i)).direction = DirectionT.ret.code) :
    analyzeRecords table buf (left + 1) i baseaddr (res :: stack) =
      (analyzeRecords table buf left (i + 1) baseaddr stack).after
        [{ res with
            «end» := (getData buf (dataAddress i)).nsec
            endHartid := (getData buf (dataAddress i)).hartid }.row table baseaddr i] := by
  have not_call := DirectionT.ne_call_of_eq_ret direction
  rw [analyzeRecords, if_neg (Nat.not_lt.mpr inside), if_neg later]
  simp only [if_neg not_call, if_pos direction]

/-- A return without an open call ends the report. -/
theorem analyzeRecords_ret_empty (later : i ≠ 0)
    (inside : dataAddress i + calleeOffset ≤ bufMax)
    (direction : (getData buf (dataAddress i)).direction = DirectionT.ret.code) :
    analyzeRecords table buf (left + 1) i baseaddr [] = .silent .emptyStack := by
  have not_call := DirectionT.ne_call_of_eq_ret direction
  rw [analyzeRecords, if_neg (Nat.not_lt.mpr inside), if_neg later]
  simp only [if_neg not_call, if_pos direction]

/-- A record whose `direction` lies behind `buf`. -/
theorem analyzeRecords_unreadable (outside : ¬ dataAddress i + calleeOffset ≤ bufMax) :
    analyzeRecords table buf (left + 1) i baseaddr stack = .silent .outside := by
  rw [analyzeRecords, if_pos (Nat.not_le.mp outside)]

/-- A call that crosses the end of `buf`, or that finds `stack` full. -/
theorem analyzeRecords_call_outside (later : i ≠ 0)
    (direction : (getData buf (dataAddress i)).direction = DirectionT.call.code)
    (outside : dataAddress (i + 1) ≤ bufMax → ¬ stack.length < stackSize) :
    analyzeRecords table buf (left + 1) i baseaddr stack = .silent .outside := by
  by_cases readable : dataAddress i + calleeOffset ≤ bufMax
  case neg => exact analyzeRecords_unreadable readable
  rw [analyzeRecords, if_neg (Nat.not_lt.mpr readable), if_neg later]
  simp only [if_pos direction]
  by_cases crosses : bufMax < dataAddress (i + 1)
  · rw [if_pos crosses]
  · rw [if_neg crosses, push, if_neg (outside (Nat.not_lt.mp crosses))]

/-- A record that is neither a call nor a return ends the report. -/
theorem analyzeRecords_wrongDirection (later : i ≠ 0)
    (inside : dataAddress i + calleeOffset ≤ bufMax)
    (not_call : (getData buf (dataAddress i)).direction ≠ DirectionT.call.code)
    (not_ret : (getData buf (dataAddress i)).direction ≠ DirectionT.ret.code) :
    analyzeRecords table buf (left + 1) i baseaddr stack = .silent .wrongDirection := by
  rw [analyzeRecords, if_neg (Nat.not_lt.mpr inside), if_neg later]
  simp only [if_neg not_call, if_neg not_ret]

/-- Before a record that is neither a call nor a return there is at most one row for two records,
the open calls counted. -/
theorem rows_before_wrongDirection {last : Nat}
    (not_call : (getData buf (dataAddress last)).direction ≠ DirectionT.call.code)
    (not_ret : (getData buf (dataAddress last)).direction ≠ DirectionT.ret.code)
    (later : i ≠ 0) (before : i ≤ last) :
    2 * (analyzeRecords table buf left i baseaddr stack).rows.length ≤
      (last - i) + stack.length := by
  induction left generalizing i stack with
  | zero => simp [analyzeRecords, Report.silent]
  | succ left ih =>
      rw [analyzeRecords]
      by_cases outside : bufMax < dataAddress i + calleeOffset
      · simp [outside, Report.silent]
      rw [if_neg outside, if_neg later]
      dsimp only
      by_cases call : (getData buf (dataAddress i)).direction = DirectionT.call.code
      · rw [if_pos call]
        have different : i ≠ last := by
          rintro rfl
          exact not_call call
        by_cases crosses : bufMax < dataAddress (i + 1)
        · simp [crosses, Report.silent]
        rw [if_neg crosses, push]
        by_cases room : stack.length < stackSize
        · rw [if_pos room]
          refine (ih (Nat.succ_ne_zero i) (by omega)).trans ?_
          rw [List.length_cons]
          omega
        · simp [room, Report.silent]
      · rw [if_neg call]
        by_cases ret : (getData buf (dataAddress i)).direction = DirectionT.ret.code
        · rw [if_pos ret]
          have different : i ≠ last := by
            rintro rfl
            exact not_ret ret
          cases stack with
          | nil => simp [Report.silent]
          | cons res stack =>
              have rest := @ih (i + 1) stack (Nat.succ_ne_zero i) (by omega)
              simp only [Report.after, List.length_append, List.length_cons, List.length_nil]
              omega
        · simp [ret, Report.silent]

end Record

end Profiler
end TaRef
