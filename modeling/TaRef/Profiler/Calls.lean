import TaRef.Profiler.Analyzer

/-!
# Call trees

What a report should say is stated over the calls themselves: a sequence of completed calls, each
with the calls it made, and around it the calls that were entered before recording started or that
never returned.  On the records of completed calls the analyzer prints their rows in the order of
their returns and leaves its stack as it was.
-/

namespace TaRef
namespace Profiler

/-- A sequence of completed calls; each has the calls that it made itself. -/
inductive Calls
  | none
  | call (thisFn : UInt64) (entered : Reading) (inner : Calls) (left : Reading) (next : Calls)

/-- What is recorded after the last exit of a function that was entered before: completed calls and
calls that do not return. -/
inductive Unfinished
  | calls (done : Calls)
  | call (done : Calls) (thisFn : UInt64) (entered : Reading) (inside : Unfinished)

/-- What is recorded at all: completed calls and exits of functions that were entered before. -/
inductive Activity
  | inside (rest : Unfinished)
  | leave (done : Calls) (thisFn : UInt64) (left : Reading) (rest : Activity)

/-! ## Hooks -/

def Calls.hooks : Calls → List Hook
  | none => []
  | call thisFn entered inner left next =>
      .enter thisFn entered :: (inner.hooks ++ .exit thisFn left :: next.hooks)

def Unfinished.hooks : Unfinished → List Hook
  | calls done => done.hooks
  | call done thisFn entered inside => done.hooks ++ .enter thisFn entered :: inside.hooks

def Activity.hooks : Activity → List Hook
  | inside rest => rest.hooks
  | leave done thisFn left rest => done.hooks ++ .exit thisFn left :: rest.hooks

/-! ## Numbers of calls -/

def Calls.count : Calls → Nat
  | none => 0
  | call _ _ inner _ next => inner.count + next.count + 1

/-- Number of calls that are open at the same time. -/
def Calls.depth : Calls → Nat
  | none => 0
  | call _ _ inner _ next => max (inner.depth + 1) next.depth

/-- Number of calls whose entry and exit are recorded. -/
def Unfinished.completed : Unfinished → Nat
  | calls done => done.count
  | call done _ _ inside => done.count + inside.completed

def Activity.completed : Activity → Nat
  | inside rest => rest.completed
  | leave done _ _ rest => done.count + rest.completed

/-! ## Rows -/

section Rows

variable (table : NmTable) (origin baseaddr : UInt64)

/-- The row of one call: its function's offset, its depth, and clocks counted from `origin`. -/
def callRow (depth idx id : Nat) (thisFn : UInt64) (entered left : Reading) : Row where
  id
  idx
  startCoreId := (teeRdtscp entered).2
  endCoreId := (teeRdtscp left).2
  depth
  addr := thisFn - baseaddr
  funcname := getFuncName table (thisFn - baseaddr)
  start := entered.cycles - origin
  «end» := left.cycles - origin
  duration := (left.cycles - origin) - (entered.cycles - origin)

/-- The rows of completed calls whose first record has the number `index`, in exit order. -/
def Calls.rows (depth index : Nat) : Calls → List Row
  | none => []
  | call thisFn entered inner left next =>
      inner.rows (depth + 1) (index + 1) ++
        callRow table origin baseaddr depth index (index + inner.hooks.length + 1) thisFn entered
          left :: next.rows depth (index + inner.hooks.length + 2)

def Unfinished.rows (depth index : Nat) : Unfinished → List Row
  | calls done => done.rows table origin baseaddr depth index
  | call done _ _ inside =>
      done.rows table origin baseaddr depth index ++
        inside.rows (depth + 1) (index + done.hooks.length + 1)

def Activity.rows (index : Nat) : Activity → List Row
  | inside rest => rest.rows table origin baseaddr 0 index
  | leave done _ _ rest =>
      done.rows table origin baseaddr 0 index ++ rest.rows (index + done.hooks.length + 1)

end Rows

theorem Calls.length_hooks (calls : Calls) : calls.hooks.length = 2 * calls.count := by
  induction calls with
  | none => rfl
  | call thisFn entered inner left next inner_ih next_ih =>
      simp only [hooks, count, List.length_cons, List.length_append, inner_ih, next_ih]
      omega

theorem Calls.depth_le_count (calls : Calls) : calls.depth ≤ calls.count := by
  induction calls with
  | none => exact Nat.le_refl 0
  | call thisFn entered inner left next inner_ih next_ih =>
      simp only [depth, count]
      omega

section Lengths

variable (table : NmTable) (origin baseaddr : UInt64)

/-- One row for each completed call. -/
theorem Calls.length_rows (calls : Calls) (depth index : Nat) :
    (calls.rows table origin baseaddr depth index).length = calls.count := by
  induction calls generalizing depth index with
  | none => rfl
  | call thisFn entered inner left next inner_ih next_ih =>
      simp only [rows, count, List.length_append, List.length_cons, inner_ih, next_ih]
      omega

theorem Unfinished.length_rows (unfinished : Unfinished) (depth index : Nat) :
    (unfinished.rows table origin baseaddr depth index).length = unfinished.completed := by
  induction unfinished generalizing depth index with
  | calls done => exact done.length_rows table origin baseaddr depth index
  | call done thisFn entered inside ih =>
      simp only [rows, completed, List.length_append, done.length_rows, ih]

theorem Activity.length_rows (activity : Activity) (index : Nat) :
    (activity.rows table origin baseaddr index).length = activity.completed := by
  induction activity generalizing index with
  | inside rest => exact rest.length_rows table origin baseaddr 0 index
  | leave done thisFn left rest ih =>
      simp only [rows, completed, List.length_append, done.length_rows, ih]

end Lengths

/-! ## The analyzer on records of calls -/

/-- `buf` holds some records, the first of which has the number `first`. -/
def Logged (buf : Memory) (first : Nat) (records : List ProfilerData) : Prop :=
  ∀ {index : Nat} {record : ProfilerData}, records[index]? = some record →
    dataAddress (first + index + 1) ≤ bufMax ∧ getData buf (dataAddress (first + index)) = record

theorem logged_cons {buf : Memory} {first : Nat} {record : ProfilerData}
    {records : List ProfilerData} (logged : Logged buf first (record :: records)) :
    (dataAddress (first + 1) ≤ bufMax ∧ getData buf (dataAddress first) = record) ∧
      Logged buf (first + 1) records := by
  constructor
  · exact @logged 0 record rfl
  · intro index other entry
    have later := @logged (index + 1) other entry
    rwa [show first + (index + 1) = first + 1 + index by omega] at later

theorem logged_append {buf : Memory} {first : Nat} {left right : List ProfilerData}
    (logged : Logged buf first (left ++ right)) :
    Logged buf first left ∧ Logged buf (first + left.length) right := by
  constructor
  · intro index record entry
    have inside := (List.getElem?_eq_some_iff.mp entry).1
    exact logged (by rw [List.getElem?_append_left inside, entry])
  · intro index record entry
    have later := @logged (left.length + index) record
      (by rw [List.getElem?_append_right (Nat.le_add_right _ _), Nat.add_sub_cancel_left, entry])
    rwa [← Nat.add_assoc] at later

/-- The records of completed calls yield their rows and leave the stack as it was. -/
theorem analyzeRecords_calls {table : NmTable} {buf : Memory} {origin baseaddr : UInt64}
    (calls : Calls) {index : Nat} {stack : List Result} (left : Nat)
    (logged : Logged buf index (calls.hooks.map (Hook.data origin))) (later : index ≠ 0)
    (room : stack.length + calls.depth ≤ stackSize) :
    analyzeRecords table buf (calls.hooks.length + left) index baseaddr stack =
      (analyzeRecords table buf left (index + calls.hooks.length) baseaddr stack).after
        (calls.rows table origin baseaddr stack.length index) := by
  induction calls generalizing index stack left with
  | none =>
      simp only [Calls.hooks, Calls.rows, List.length_nil, Nat.zero_add, Nat.add_zero]
      rfl
  | call thisFn entered inner exited next inner_ih next_ih =>
      simp only [Calls.hooks, List.map_cons, List.map_append] at logged
      obtain ⟨⟨entry_inside, entry_eq⟩, logged_rest⟩ := logged_cons logged
      obtain ⟨logged_inner, logged_exit⟩ := logged_append logged_rest
      obtain ⟨⟨exit_inside, exit_eq⟩, logged_next⟩ := logged_cons logged_exit
      rw [List.length_map] at exit_inside exit_eq logged_next
      rw [Calls.depth] at room
      let opened : Result :=
        { idx := index, callee := thisFn, startHartid := (teeRdtscp entered).2, endHartid := 0,
          start := entered.cycles - origin, «end» := 0, depth := stack.length }
      -- the entry is pushed, the calls inside leave it on top, and the exit takes it off
      have entry_step : ∀ left, analyzeRecords table buf (left + 1) index baseaddr stack =
          analyzeRecords table buf left (index + 1) baseaddr (opened :: stack) := by
        intro left
        rw [analyzeRecords_call later entry_inside (by rw [entry_eq]; rfl) (by omega), entry_eq]
        rfl
      have inner_run := @inner_ih (index + 1) (opened :: stack) (next.hooks.length + left + 1)
        logged_inner (Nat.succ_ne_zero index) (by rw [List.length_cons]; omega)
      have exit_step := @analyzeRecords_ret table buf (next.hooks.length + left)
        (index + 1 + inner.hooks.length) baseaddr stack opened (by omega)
        (by simp only [dataAddress, calleeOffset] at exit_inside ⊢; omega)
        (by rw [exit_eq]; rfl)
      have next_run := @next_ih (index + 1 + inner.hooks.length + 1) stack left logged_next
        (Nat.succ_ne_zero _) (by omega)
      have length_eq : (Calls.call thisFn entered inner exited next).hooks.length + left =
          inner.hooks.length + (next.hooks.length + left + 1) + 1 := by
        simp only [Calls.hooks, List.length_cons, List.length_append]
        omega
      have end_eq : index + (Calls.call thisFn entered inner exited next).hooks.length =
          index + 1 + inner.hooks.length + 1 + next.hooks.length := by
        simp only [Calls.hooks, List.length_cons, List.length_append]
        omega
      rw [length_eq, entry_step, inner_run, exit_step, next_run, exit_eq, end_eq,
        Report.after_after, Report.after_after, Calls.rows, List.length_cons, List.append_assoc]
      congr 2
      rw [show index + 1 + inner.hooks.length = index + inner.hooks.length + 1 by omega]
      rfl

end Profiler
end TaRef
