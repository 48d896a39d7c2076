import TaRef.Library.Nesting
import TaRef.Profiler.LogSafety

/-!
# Well-nested log files

On a log file with a prefix of a well-nested sequence of CALL and RET records the stack of the
analyzer holds the calls that are open, so each RET record meets the CALL record that it matches and
the report has one row for each completed call, in the order of the RET records.
-/

namespace TaRef
namespace Profiler

open DyckStep Nesting

/-- The direction that a step has in the log file. -/
def stepDirection : DyckStep → DirectionT
  | U => .call
  | D => .ret

/-- A log file that fits in `buf`, with a START record and a prefix of a well-nested sequence of
CALL and RET records, at most `stackSize` of which are open at once. -/
structure NestedLog where
  bytes : Bytes
  start : ProfilerData
  events : List ProfilerData
  steps : List DyckStep
  length_ge : dataAddress (events.length + 1) ≤ bytes.length
  length_le : bytes.length ≤ bufMax
  idx_eq : headerIdx bytes = events.length + 1
  start_eq : getData (readLog bytes) (dataAddress 0) = start
  start_direction : start.direction = DirectionT.start.code
  event_eq : ∀ position (inside : position < events.length),
    getData (readLog bytes) (dataAddress (position + 1)) = events[position]
  directions : events.map ProfilerData.direction = steps.map fun step => (stepDirection step).code
  nested : ∃ word : DyckWord, steps <+: word.toList
  height_le : ∀ count ≤ steps.length, height steps count ≤ stackSize

namespace NestedLog

/-- The row of a call and its return at these positions behind the START record, whose callee is the
base address. -/
def row (log : NestedLog) (table : NmTable) (opener closer : Nat) (call ret : ProfilerData) :
    Row where
  id := closer + 1
  idx := opener + 1
  startCoreId := call.hartid
  endCoreId := ret.hartid
  depth := height log.steps opener
  addr := call.callee - log.start.callee
  funcname := getFuncName table (call.callee - log.start.callee)
  start := call.nsec
  «end» := ret.nsec
  duration := ret.nsec - call.nsec

/-- Numbers of the RET records, in order. -/
def returns (log : NestedLog) : List Nat :=
  (List.range log.steps.length).filterMap fun position =>
    if log.steps[position]? = some D then some (position + 1) else none

/-- The rows of a report are those of the completed calls, in the order of the RET records. -/
structure Reported (log : NestedLog) (table : NmTable) (rows : List Row) : Prop where
  ids : rows.map Row.id = log.returns
  matched : ∀ row ∈ rows, ∃ opener closer call ret, Matched log.steps opener closer ∧
    log.events[opener]? = some call ∧ log.events[closer]? = some ret ∧
      row = log.row table opener closer call ret
  completed : ∀ opener closer, Matched log.steps opener closer →
    ∃ row ∈ rows, row.idx = opener + 1 ∧ row.id = closer + 1
  unclosed : ∀ opener, (∀ closer, ¬ Matched log.steps opener closer) →
    ∀ row ∈ rows, row.idx ≠ opener + 1

/-! ## Iterations -/

/-- The entry of `stack` for an open call. -/
def opened (log : NestedLog) (opener : Nat) : Result :=
  { calledAt (readLog log.bytes) (opener + 1) with depth := height log.steps opener }

/-- The iteration at each record. -/
def visit (log : NestedLog) : Nat → Visit
  | 0 => { index := 0, stack := [] }
  | position + 1 =>
      { index := position + 1, stack := (pending log.steps position).map log.opened }

section Iterations

variable (log : NestedLog) {position : Nat}

theorem length_steps : log.steps.length = log.events.length := by
  have lengths := congrArg List.length log.directions
  rw [List.length_map, List.length_map] at lengths
  exact lengths.symm

/-- The record at a step. -/
theorem event_of_step {step : DyckStep} (entry : log.steps[position]? = some step) :
    ∃ event, log.events[position]? = some event ∧
      getData (readLog log.bytes) (dataAddress (position + 1)) = event ∧
      event.direction = (stepDirection step).code ∧ dataAddress (position + 1 + 1) ≤ bufMax := by
  have inside := (List.getElem?_eq_some_iff.mp entry).1
  have inside' : position < log.events.length := log.length_steps ▸ inside
  have same := congrArg (fun codes => codes[position]?) log.directions
  simp only [List.getElem?_map, entry, List.getElem?_eq_getElem inside', Option.map_some,
    Option.some.injEq] at same
  refine ⟨log.events[position], List.getElem?_eq_getElem inside', log.event_eq position inside',
    same, ?_⟩
  have length_ge := log.length_ge
  have length_le := log.length_le
  simp only [dataAddress] at length_ge ⊢
  omega

theorem directionAt_of_step {step : DyckStep} (entry : log.steps[position]? = some step) :
    directionAt (readLog log.bytes) (position + 1) = (stepDirection step).code := by
  obtain ⟨event, -, event_eq, direction_eq, -⟩ := log.event_of_step entry
  rw [directionAt, event_eq, direction_eq]

/-- The stack of the next iteration holds the calls that are open then. -/
theorem next_visit (position_le : position ≤ log.steps.length) :
    (log.visit position).next (readLog log.bytes) = some (log.visit (position + 1)) := by
  obtain ⟨word, nested⟩ := log.nested
  cases position with
  | zero => exact next_start _ _
  | succ position =>
      have position_lt : position < log.steps.length := position_le
      have counted := length_pending nested (Nat.le_of_lt position_lt)
      rcases entry : log.steps[position]? with - | - | -
      · exact absurd (List.getElem?_eq_none_iff.mp entry) (by omega)
      · obtain ⟨event, -, -, -, inside⟩ := log.event_of_step entry
        have room : (pending log.steps position).length < stackSize := by
          have next_le := log.height_le (position + 1) position_le
          rw [← length_pending nested position_le, pending_of_up entry, List.length_cons] at next_le
          exact next_le
        rw [next_of_call (Nat.succ_ne_zero position) inside (log.directionAt_of_step entry)
          (by rw [visit, List.length_map]; exact room), visit, visit, pending_of_up entry,
          List.map_cons, List.length_map, counted]
        rfl
      · obtain ⟨event, -, -, -, inside⟩ := log.event_of_step entry
        obtain ⟨opener, openers, pending_eq, -⟩ := matched_of_down nested entry
        have readable : (log.visit (position + 1)).Readable := by
          simp only [Visit.Readable, visit, dataAddress, calleeOffset] at inside ⊢
          omega
        rw [next_of_ret (Nat.succ_ne_zero position) readable (log.directionAt_of_step entry)
          (by rw [visit, pending_eq, List.map_cons]), visit, visit, pending_of_down entry,
          pending_eq, List.tail_cons]

theorem visits_eq : visits log.bytes = (List.range (log.steps.length + 1)).map log.visit := by
  rw [visits, log.idx_eq, ← log.length_steps]
  exact Machine.iterates_eq_map log.visit fun index index_lt =>
    log.next_visit (by omega)

/-! ## Rows -/

/-- The row that the iteration at a record behind the START record prints. -/
def rowAt (table : NmTable) (position : Nat) : Option Row :=
  (log.visit (position + 1)).row table (readLog log.bytes) log.start.callee

theorem rowAt_of_up (table : NmTable) (entry : log.steps[position]? = some U) :
    log.rowAt table position = none := by
  refine if_neg fun all => ?_
  have ret := all.2.2
  rw [visit, log.directionAt_of_step entry] at ret
  exact absurd ret (by decide)

/-- A RET record prints the row of the call that it matches. -/
theorem rowAt_of_down (table : NmTable) (entry : log.steps[position]? = some D) :
    ∃ opener call ret, Matched log.steps opener position ∧ log.events[opener]? = some call ∧
      log.events[position]? = some ret ∧
        log.rowAt table position = some (log.row table opener position call ret) := by
  obtain ⟨word, nested⟩ := log.nested
  obtain ⟨opener, openers, pending_eq, matched⟩ := matched_of_down nested entry
  obtain ⟨call, call_entry, call_eq, -⟩ := log.event_of_step matched.2.1
  obtain ⟨ret, ret_entry, ret_eq, -, inside⟩ := log.event_of_step entry
  refine ⟨opener, call, ret, matched, call_entry, ret_entry, ?_⟩
  have readable : (log.visit (position + 1)).Readable := by
    simp only [Visit.Readable, visit, dataAddress, calleeOffset] at inside ⊢
    omega
  have printed : log.rowAt table position =
      some (Result.row table log.start.callee
        ((log.opened opener).returnedAt (readLog log.bytes) (position + 1)) (position + 1)) := by
    rw [rowAt, Visit.row,
      if_pos ⟨Nat.succ_ne_zero position, readable, log.directionAt_of_step entry⟩, visit,
      pending_eq, List.map_cons, List.head?_cons, Option.map_some]
  rw [printed, Result.returnedAt, ret_eq, opened, calledAt, call_eq]
  rfl

theorem id_rowAt (table : NmTable) (position_lt : position < log.steps.length) :
    (log.rowAt table position).map Row.id =
      if log.steps[position]? = some D then some (position + 1) else none := by
  rcases entry : log.steps[position]? with - | - | -
  · exact absurd (List.getElem?_eq_none_iff.mp entry) (by omega)
  · rw [log.rowAt_of_up table entry]
    rfl
  · obtain ⟨opener, call, ret, -, -, -, row_eq⟩ := log.rowAt_of_down table entry
    rw [row_eq]
    rfl

theorem rows_analyze (table : NmTable) :
    (analyze (some log.bytes) (some table)).rows =
      (List.range log.steps.length).filterMap (log.rowAt table) := by
  have no_row : (log.visit 0).row table (readLog log.bytes) log.start.callee = none :=
    if_neg fun all => all.1 rfl
  rw [(analyze_eq log.bytes table).1, log.visits_eq, log.start_eq, List.range_succ_eq_map,
    List.map_cons, List.filterMap_cons_none no_row, List.map_map, List.filterMap_map]
  rfl

end Iterations

/-- The analyzer reads a well-nested log file to its end and prints the rows of its completed
calls. -/
theorem report_of_nested (log : NestedLog) (table : NmTable) :
    (analyze (some log.bytes) (some table)).ending = .finished ∧
      log.Reported table (analyze (some log.bytes) (some table)).rows := by
  have matched_rows : ∀ row ∈ (analyze (some log.bytes) (some table)).rows,
      ∃ opener closer call ret, Matched log.steps opener closer ∧
        log.events[opener]? = some call ∧ log.events[closer]? = some ret ∧
          row = log.row table opener closer call ret := by
    intro row member
    rw [log.rows_analyze, List.mem_filterMap] at member
    obtain ⟨position, member, printed⟩ := member
    rcases entry : log.steps[position]? with - | - | -
    · exact absurd (List.getElem?_eq_none_iff.mp entry) (Nat.not_le.mpr (List.mem_range.mp member))
    · rw [log.rowAt_of_up table entry] at printed
      exact nomatch printed
    · obtain ⟨opener, call, ret, matched, call_entry, ret_entry, row_eq⟩ :=
        log.rowAt_of_down table entry
      exact ⟨opener, position, call, ret, matched, call_entry, ret_entry,
        Option.some.inj (printed.symm.trans row_eq)⟩
  refine ⟨(analyze_eq log.bytes table).2.2 fun visit member => ?_, ?_, matched_rows, ?_, ?_⟩
  · rw [log.visits_eq, List.mem_map] at member
    obtain ⟨position, member, rfl⟩ := member
    rw [log.next_visit (Nat.le_of_lt_succ (List.mem_range.mp member))]
    rfl
  · rw [log.rows_analyze, List.map_filterMap, returns]
    exact List.filterMap_congr fun position member => log.id_rowAt table (List.mem_range.mp member)
  · intro opener closer matched
    obtain ⟨other, call, ret, matched', -, -, row_eq⟩ := log.rowAt_of_down table matched.2.2.1
    obtain rfl := matched_unique matched matched'
    have closer_lt := (List.getElem?_eq_some_iff.mp matched.2.2.1).1
    refine ⟨log.row table opener closer call ret, ?_, rfl, rfl⟩
    rw [log.rows_analyze]
    exact List.mem_filterMap.mpr ⟨closer, List.mem_range.mpr closer_lt, row_eq⟩
  · rintro opener unmatched row member idx_eq
    obtain ⟨other, closer, call, ret, matched, -, -, rfl⟩ := matched_rows row member
    obtain rfl : other = opener := Nat.succ.inj idx_eq
    exact unmatched closer matched

/-- A file with a call that made another one and did not return. -/
def sample : NestedLog where
  bytes := List.replicate 8 0 ++ 4 :: List.replicate 15 0 ++ List.replicate 24 0 ++
    [1, 0, 0, 0, 0, 0, 0, 0, 10, 0, 0, 0, 0, 0, 0, 0, 64, 0, 0, 0, 0, 0, 0, 0] ++
    [1, 0, 0, 0, 0, 0, 0, 0, 20, 0, 0, 0, 0, 0, 0, 0, 96, 0, 0, 0, 0, 0, 0, 0] ++
    [2, 0, 0, 0, 0, 0, 0, 0, 50, 0, 0, 0, 0, 0, 0, 0, 96, 0, 0, 0, 0, 0, 0, 0]
  start := { direction := 0, hartid := 0, nsec := 0, callee := 0 }
  events :=
    [{ direction := 1, hartid := 0, nsec := 10, callee := 64 },
      { direction := 1, hartid := 0, nsec := 20, callee := 96 },
      { direction := 2, hartid := 0, nsec := 50, callee := 96 }]
  steps := [U, U, D]
  length_ge := by decide
  length_le := by decide
  idx_eq := by decide
  start_eq := by decide
  start_direction := rfl
  event_eq := by decide
  directions := by decide
  nested := ⟨(0 : DyckWord).nest.nest, [D], rfl⟩
  height_le := by decide

theorem report_of_sample :
    (analyze (some sample.bytes) (some createHtable)).ending = .finished ∧
      sample.Reported createHtable (analyze (some sample.bytes) (some createHtable)).rows :=
  report_of_nested sample createHtable

end NestedLog

end Profiler
end TaRef
