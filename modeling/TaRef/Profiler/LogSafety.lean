import Mathlib.Data.Nat.Count
import TaRef.Library.Machine
import TaRef.Profiler.Analyzer

/-!
# Log files that the analyzer can read

The loop of the analyzer takes its bound and the depth of its stack from the file.  Seen as a run
over the numbers of the records with the stack before each of them, it stays in `buf`, in `stack`
and in the file exactly when the directions in the file keep it there.
-/

namespace TaRef
namespace Profiler

/-- The field `idx` of the header. -/
def headerIdx (log : Bytes) : Nat := ((readLog log).getWord idxOffset).toNat

/-! ## Iterations of the loop -/

/-- An iteration: the number of its record, and the stack before it. -/
structure Visit where
  index : Nat
  stack : List Result

/-- What the CALL record of this number pushes. -/
def calledAt (buf : Memory) (index : Nat) : Result where
  idx := index
  callee := (getData buf (dataAddress index)).callee
  startHartid := (getData buf (dataAddress index)).hartid
  endHartid := 0
  start := (getData buf (dataAddress index)).nsec
  «end» := 0
  depth := 0

/-- An open call with what the RET record of this number adds to it. -/
def Result.returnedAt (buf : Memory) (index : Nat) (res : Result) : Result :=
  { res with
    «end» := (getData buf (dataAddress index)).nsec
    endHartid := (getData buf (dataAddress index)).hartid }

/-- Direction of the record of this number. -/
def directionAt (buf : Memory) (index : Nat) : UInt8 := (getData buf (dataAddress index)).direction

namespace Visit

/-- Whether `main` finds `nsec` and `direction` of the record in `buf`. -/
def Readable (visit : Visit) : Prop := dataAddress visit.index + calleeOffset ≤ bufMax

instance (visit : Visit) : Decidable visit.Readable := Nat.decLe _ _

/-- The iteration after this one, or `none` where `main` ends or leaves `buf` or `stack`. -/
def next (buf : Memory) (visit : Visit) : Option Visit :=
  if ¬ visit.Readable then none
  else if visit.index = 0 then
    if bufMax < dataAddress (visit.index + 1) then none
    else some { index := visit.index + 1, stack := visit.stack }
  else if directionAt buf visit.index = DirectionT.call.code then
    if bufMax < dataAddress (visit.index + 1) then none
    else match push visit.stack (calledAt buf visit.index) with
      | none => none
      | some stack => some { index := visit.index + 1, stack }
  else if directionAt buf visit.index = DirectionT.ret.code then
    match visit.stack with
    | [] => none
    | _ :: stack => some { index := visit.index + 1, stack }
  else none

/-- The record lies in `buf`, and `stack` has room for it if it is a call. -/
def Inside (buf : Memory) (visit : Visit) : Prop :=
  dataAddress (visit.index + 1) ≤ bufMax ∧
    (visit.index ≠ 0 → directionAt buf visit.index = DirectionT.call.code →
      visit.stack.length < stackSize)

/-- The index of `stack` that `push` or `pop` accesses. -/
def stackAccess (buf : Memory) (visit : Visit) : Option Int :=
  if visit.index = 0 then none
  else if directionAt buf visit.index = DirectionT.call.code then some visit.stack.length
  else if directionAt buf visit.index = DirectionT.ret.code then
    if visit.stack.isEmpty then none else some (visit.stack.length - 1)
  else none

/-- The row that is printed. -/
def row (table : NmTable) (buf : Memory) (baseaddr : UInt64) (visit : Visit) : Option Row :=
  if visit.index ≠ 0 ∧ visit.Readable ∧ directionAt buf visit.index = DirectionT.ret.code then
    visit.stack.head?.map fun res => (res.returnedAt buf visit.index).row table baseaddr visit.index
  else none

end Visit

/-- The iterations of `main` over a log file. -/
def visits (log : Bytes) : List Visit :=
  Machine.iterates (Visit.next (readLog log)) (headerIdx log) { index := 0, stack := [] }

section Steps

variable {table : NmTable} {buf : Memory} {left : Nat} {baseaddr : UInt64} {visit after : Visit}

theorem Visit.Inside.readable (inside : visit.Inside buf) : visit.Readable := by
  have record_inside := inside.1
  simp only [Visit.Readable, dataAddress, calleeOffset] at record_inside ⊢
  omega

theorem readable_of_next (step : visit.next buf = some after) : visit.Readable := by
  by_contra unreadable
  rw [Visit.next, if_pos unreadable] at step
  exact nomatch step

theorem next_start (buf : Memory) (stack : List Result) :
    ({ index := 0, stack } : Visit).next buf = some { index := 1, stack } := by
  have readable : ({ index := 0, stack } : Visit).Readable :=
    show dataAddress 0 + calleeOffset ≤ bufMax by decide
  have inside : dataAddress (0 + 1) ≤ bufMax := by decide
  rw [Visit.next, if_neg (not_not.mpr readable), if_pos rfl, if_neg (Nat.not_lt.mpr inside)]

theorem next_of_call (later : visit.index ≠ 0) (inside : dataAddress (visit.index + 1) ≤ bufMax)
    (call : directionAt buf visit.index = DirectionT.call.code)
    (room : visit.stack.length < stackSize) :
    visit.next buf = some
      { index := visit.index + 1
        stack :=
          { calledAt buf visit.index with depth := visit.stack.length } :: visit.stack } := by
  have readable : visit.Readable := by
    simp only [Visit.Readable, dataAddress, calleeOffset] at inside ⊢
    omega
  rw [Visit.next, if_neg (not_not.mpr readable), if_neg later, if_pos call,
    if_neg (Nat.not_lt.mpr inside), push, if_pos room]

theorem next_of_ret {res : Result} {stack : List Result} (later : visit.index ≠ 0)
    (readable : visit.Readable) (ret : directionAt buf visit.index = DirectionT.ret.code)
    (stack_eq : visit.stack = res :: stack) :
    visit.next buf = some { index := visit.index + 1, stack } := by
  have not_call := DirectionT.ne_call_of_eq_ret ret
  rw [Visit.next, if_neg (not_not.mpr readable), if_neg later, if_neg not_call, if_pos ret,
    stack_eq]

/-- Where the loop goes on from, and with what stack. -/
theorem next_cases (step : visit.next buf = some after) :
    after.index = visit.index + 1 ∧
      (visit.index = 0 ∧ after.stack = visit.stack ∨
        visit.index ≠ 0 ∧ directionAt buf visit.index = DirectionT.call.code ∧
          dataAddress (visit.index + 1) ≤ bufMax ∧ visit.stack.length < stackSize ∧
          after.stack = { calledAt buf visit.index with depth := visit.stack.length } ::
            visit.stack ∨
        visit.index ≠ 0 ∧ directionAt buf visit.index = DirectionT.ret.code ∧
          ∃ res, visit.stack = res :: after.stack) := by
  have readable := readable_of_next step
  rw [Visit.next, if_neg (not_not.mpr readable)] at step
  split_ifs at step with start outside call outside ret
  · obtain rfl := Option.some.inj step
    exact ⟨rfl, .inl ⟨start, rfl⟩⟩
  · rw [push] at step
    split_ifs at step with room
    obtain rfl := Option.some.inj step
    exact ⟨rfl, .inr (.inl ⟨start, call, Nat.not_lt.mp outside, room, rfl⟩)⟩
  · cases opened : visit.stack with
    | nil =>
        rw [opened] at step
        cases step
    | cons res stack =>
        rw [opened] at step
        obtain rfl := Option.some.inj step
        exact ⟨rfl, .inr (.inr ⟨start, ret, res, rfl⟩)⟩

/-- Where the loop does not go on. -/
theorem stop_cases (later : visit.index ≠ 0) (stop : visit.next buf = none) :
    ¬ visit.Readable ∨
      directionAt buf visit.index = DirectionT.call.code ∧
        (dataAddress (visit.index + 1) ≤ bufMax → ¬ visit.stack.length < stackSize) ∨
      visit.Readable ∧ directionAt buf visit.index = DirectionT.ret.code ∧ visit.stack = [] ∨
      visit.Readable ∧ directionAt buf visit.index ≠ DirectionT.call.code ∧
        directionAt buf visit.index ≠ DirectionT.ret.code := by
  by_cases readable : visit.Readable
  case neg => exact .inl readable
  rw [Visit.next, if_neg (not_not.mpr readable), if_neg later] at stop
  split_ifs at stop with call crosses ret
  · exact .inr (.inl ⟨call, fun inside => absurd crosses (Nat.not_lt.mpr inside)⟩)
  · refine .inr (.inl ⟨call, fun _ room => ?_⟩)
    rw [push, if_pos room] at stop
    cases stop
  · cases opened : visit.stack with
    | nil => exact .inr (.inr (.inl ⟨readable, ret, rfl⟩))
    | cons res stack =>
        rw [opened] at stop
        cases stop
  · exact .inr (.inr (.inr ⟨readable, call, ret⟩))

/-- The iterations are those of `analyzeRecords`: where the loop goes on, the report has the row of
this iteration and then those of the later ones. -/
theorem analyzeRecords_of_next (later : visit.index ≠ 0) (step : visit.next buf = some after) :
    analyzeRecords table buf (left + 1) visit.index baseaddr visit.stack =
      (analyzeRecords table buf left after.index baseaddr after.stack).after
        (visit.row table buf baseaddr).toList := by
  have readable := readable_of_next step
  obtain ⟨index_eq, ⟨start, -⟩ | ⟨-, call, inside, room, stack_eq⟩ | ⟨-, ret, res, stack_eq⟩⟩ :=
    next_cases step
  · exact absurd start later
  · have not_ret := DirectionT.ne_ret_of_eq_call call
    rw [analyzeRecords_call later inside call room, index_eq, stack_eq, Visit.row,
      if_neg fun all => not_ret all.2.2]
    rfl
  · rw [stack_eq, analyzeRecords_ret later readable ret, index_eq, Visit.row,
      if_pos ⟨later, readable, ret⟩, stack_eq]
    rfl

/-- Where the loop does not go on, it prints no row, and it accesses nothing outside if the record
and its call lie inside. -/
theorem analyzeRecords_of_stop (table : NmTable) (left : Nat) (baseaddr : UInt64)
    (later : visit.index ≠ 0) (stop : visit.next buf = none) :
    ∃ ending, analyzeRecords table buf (left + 1) visit.index baseaddr visit.stack =
        .silent ending ∧
      visit.row table buf baseaddr = none ∧ (visit.Inside buf → ending ≠ .outside) := by
  rcases stop_cases later stop with unreadable | ⟨call, outside⟩ | ⟨readable, ret, empty⟩ |
    ⟨readable, not_call, not_ret⟩
  · exact ⟨.outside, analyzeRecords_unreadable unreadable, if_neg fun all => unreadable all.2.1,
      fun inside => absurd inside.readable unreadable⟩
  · have not_ret := DirectionT.ne_ret_of_eq_call call
    exact ⟨.outside, analyzeRecords_call_outside later call outside,
      if_neg fun all => not_ret all.2.2, fun inside =>
        absurd (inside.2 later call) (outside inside.1)⟩
  · refine ⟨.emptyStack, ?_, ?_, fun _ => by decide⟩
    · rw [empty, analyzeRecords_ret_empty later readable ret]
    · rw [Visit.row, if_pos ⟨later, readable, ret⟩, empty]
      rfl
  · exact ⟨.wrongDirection, analyzeRecords_wrongDirection later readable not_call not_ret,
      if_neg fun all => not_ret all.2.2, fun _ => by decide⟩

/-- What a report says after its first record, by the iterations. -/
theorem analyzeRecords_eq (table : NmTable) (buf : Memory) (left : Nat) (baseaddr : UInt64)
    (later : visit.index ≠ 0) :
    (analyzeRecords table buf left visit.index baseaddr visit.stack).rows =
        (Machine.iterates (Visit.next buf) left visit).filterMap (Visit.row table buf baseaddr) ∧
      ((∀ reached ∈ Machine.iterates (Visit.next buf) left visit, reached.Inside buf) →
        (analyzeRecords table buf left visit.index baseaddr visit.stack).ending ≠ .outside) ∧
      ((∀ reached ∈ Machine.iterates (Visit.next buf) left visit,
          (reached.next buf).isSome = true) →
        (analyzeRecords table buf left visit.index baseaddr visit.stack).ending = .finished) := by
  induction left generalizing visit with
  | zero => exact ⟨rfl, fun _ => nofun, fun _ => rfl⟩
  | succ left ih =>
      cases step : visit.next buf with
      | none =>
          obtain ⟨ending, report_eq, no_row, safe⟩ :=
            analyzeRecords_of_stop table left baseaddr later step
          rw [report_eq, Machine.iterates_of_stop step, List.filterMap_cons_none no_row]
          refine ⟨rfl, fun inside => safe (inside visit List.mem_cons_self), fun goes_on => ?_⟩
          have stuck := goes_on visit List.mem_cons_self
          rw [step] at stuck
          exact nomatch stuck
      | some after =>
          have index_eq := (next_cases step).1
          have later' : after.index ≠ 0 := by omega
          obtain ⟨rows_eq, safe, finishes⟩ := ih later'
          rw [analyzeRecords_of_next later step, Machine.iterates_of_next step]
          refine ⟨?_, fun inside => safe fun reached member =>
            inside reached (List.mem_cons_of_mem _ member), fun goes_on =>
              finishes fun reached member => goes_on reached (List.mem_cons_of_mem _ member)⟩
          rw [Report.after, rows_eq, List.filterMap_cons]
          cases visit.row table buf baseaddr <;> rfl

end Steps

/-! ## Safe runs -/

/-- The row of a call whose CALL and RET records have these numbers, with addresses counted from the
callee of the first record. -/
def recordRow (table : NmTable) (buf : Memory) (depth call ret : Nat) : Row :=
  Result.row table (getData buf (dataAddress 0)).callee
    ({ calledAt buf call with depth }.returnedAt buf ret) ret

/-- A row shows a CALL and a RET record that lie in the log file. -/
def Row.Present (table : NmTable) (log : Bytes) (row : Row) : Prop :=
  row = recordRow table (readLog log) row.depth row.idx row.id ∧
    directionAt (readLog log) row.idx = DirectionT.call.code ∧
    directionAt (readLog log) row.id = DirectionT.ret.code ∧
    dataAddress (row.idx + 1) ≤ log.length ∧ dataAddress (row.id + 1) ≤ log.length

/-- The loop reads records that lie in `buf`, accesses `stack` inside its bounds, and prints rows of
records that lie in the file. -/
structure LoopSafe (log : Bytes) (table : NmTable) : Prop where
  records_inside : ∀ visit ∈ visits log, dataAddress (visit.index + 1) ≤ bufMax
  stack_inside : ∀ visit ∈ visits log, ∀ position ∈ visit.stackAccess (readLog log),
    0 ≤ position ∧ position < stackSize
  ending_ne : (analyze (some log) (some table)).ending ≠ .outside
  rows_present : ∀ row ∈ (analyze (some log) (some table)).rows, row.Present table log

/-! ## Directions in the file -/

/-- Direction of a record in the file. -/
def direction (log : Bytes) (index : Nat) : UInt8 := log.getD (dataAddress index) 0

/-- Number of CALL records between the first record and this one. -/
def callsBefore (log : Bytes) (index : Nat) : Nat :=
  Nat.count (fun earlier => earlier ≠ 0 ∧ direction log earlier = DirectionT.call.code) index

/-- Number of RET records between the first record and this one. -/
def retsBefore (log : Bytes) (index : Nat) : Nat :=
  Nat.count (fun earlier => earlier ≠ 0 ∧ direction log earlier = DirectionT.ret.code) index

/-- Between the first record and this one there are CALL records, and RET records while a call is
open. -/
def Nested (log : Bytes) (index : Nat) : Prop :=
  ∀ earlier < index, earlier ≠ 0 → direction log earlier = DirectionT.call.code ∨
    direction log earlier = DirectionT.ret.code ∧ retsBefore log earlier < callsBefore log earlier

/-- As far as a log file is nested and `idx` counts, its records fit in `buf`, at most `stackSize`
calls are open, and the file holds the returns as a whole. -/
def Analyzable (log : Bytes) : Prop :=
  ∀ index < headerIdx log, index ≠ 0 → Nested log index →
    dataAddress (index + 1) ≤ bufMax ∧
      (direction log index = DirectionT.call.code →
        callsBefore log index < retsBefore log index + stackSize) ∧
      (direction log index = DirectionT.ret.code → retsBefore log index < callsBefore log index →
        dataAddress (index + 1) ≤ log.length)

section Directions

variable {log : Bytes} {index : Nat}

theorem directionAt_readLog (inside : dataAddress index < bufMax) :
    directionAt (readLog log) index = direction log index := by
  rw [directionAt, getData, direction, directionOffset, Nat.add_zero, readLog,
    List.getD_eq_getElem?_getD, List.getD_eq_getElem?_getD, List.getElem?_take_of_lt inside]

theorem before_succ_of_call (later : index ≠ 0)
    (call : direction log index = DirectionT.call.code) :
    callsBefore log (index + 1) = callsBefore log index + 1 ∧
      retsBefore log (index + 1) = retsBefore log index := by
  have not_ret : ¬ (index ≠ 0 ∧ direction log index = DirectionT.ret.code) := fun both =>
    DirectionT.ne_ret_of_eq_call call both.2
  rw [callsBefore, callsBefore, retsBefore, retsBefore, Nat.count_succ, Nat.count_succ,
    if_pos ⟨later, call⟩, if_neg not_ret]
  exact ⟨rfl, rfl⟩

theorem before_succ_of_ret (later : index ≠ 0) (ret : direction log index = DirectionT.ret.code) :
    callsBefore log (index + 1) = callsBefore log index ∧
      retsBefore log (index + 1) = retsBefore log index + 1 := by
  have not_call : ¬ (index ≠ 0 ∧ direction log index = DirectionT.call.code) := fun both =>
    DirectionT.ne_call_of_eq_ret ret both.2
  rw [callsBefore, callsBefore, retsBefore, retsBefore, Nat.count_succ, Nat.count_succ,
    if_neg not_call, if_pos ⟨later, ret⟩]
  exact ⟨rfl, rfl⟩

theorem before_one (log : Bytes) : callsBefore log 1 = 0 ∧ retsBefore log 1 = 0 := by
  constructor <;> simp [callsBefore, retsBefore, Nat.count_succ]

theorem nested_succ (nested : Nested log index)
    (goes_on : index ≠ 0 → direction log index = DirectionT.call.code ∨
      direction log index = DirectionT.ret.code ∧ retsBefore log index < callsBefore log index) :
    Nested log (index + 1) := by
  intro earlier earlier_lt later
  rcases Nat.lt_succ_iff_lt_or_eq.mp earlier_lt with before | rfl
  · exact nested earlier before later
  · exact goes_on later

end Directions

/-! ## The invariant of the loop -/

/-- An open call is that of an earlier CALL record. -/
def Opened (buf : Memory) (index : Nat) (res : Result) : Prop :=
  res = { calledAt buf res.idx with depth := res.depth } ∧
    directionAt buf res.idx = DirectionT.call.code ∧ res.idx < index

/-- The file is nested up to this record, the stack counts the open calls, within its bound, and
holds earlier CALL records. -/
structure Visit.Valid (log : Bytes) (visit : Visit) : Prop where
  nested : Nested log visit.index
  bounded : visit.stack.length ≤ stackSize
  depth : visit.stack.length + retsBefore log visit.index = callsBefore log visit.index
  opened : ∀ res ∈ visit.stack, Opened (readLog log) visit.index res

section Valid

variable {log : Bytes} {visit after : Visit}

theorem opened_succ {buf : Memory} {index : Nat} {res : Result} (opened : Opened buf index res) :
    Opened buf (index + 1) res :=
  ⟨opened.1, opened.2.1, Nat.lt_succ_of_lt opened.2.2⟩

theorem Visit.Readable.direction_eq (log : Bytes) (readable : visit.Readable) :
    directionAt (readLog log) visit.index = direction log visit.index :=
  directionAt_readLog (Nat.lt_of_lt_of_le (Nat.lt_add_of_pos_right (by decide)) readable)

theorem Visit.Valid.next (valid : visit.Valid log) (step : visit.next (readLog log) = some after) :
    after.Valid log := by
  have direction_eq := (readable_of_next step).direction_eq log
  have depth_eq := valid.depth
  have bounded := valid.bounded
  obtain ⟨index_eq, ⟨start, stack_eq⟩ | ⟨later, call, -, room, stack_eq⟩ |
    ⟨later, ret, res, stack_eq⟩⟩ := next_cases step
  · obtain ⟨calls_eq, rets_eq⟩ := before_one log
    have empty : visit.stack = [] := by
      rw [start] at depth_eq
      exact List.length_eq_zero_iff.mp (by simpa [callsBefore, retsBefore] using depth_eq)
    rw [start] at index_eq
    constructor
    · rw [index_eq]
      exact nested_succ (fun _ below => absurd below (Nat.not_lt_zero _)) fun later =>
        absurd rfl later
    · rwa [stack_eq]
    · rw [index_eq, stack_eq, empty, Nat.zero_add, calls_eq, rets_eq]
      rfl
    · rw [stack_eq, empty]
      exact fun res member => absurd member List.not_mem_nil
  · have call' : direction log visit.index = DirectionT.call.code := direction_eq ▸ call
    obtain ⟨calls_eq, rets_eq⟩ := before_succ_of_call later call'
    constructor
    · rw [index_eq]
      exact nested_succ valid.nested fun _ => .inl call'
    · rw [stack_eq]
      exact room
    · rw [index_eq, stack_eq, List.length_cons, calls_eq, rets_eq]
      omega
    · intro res member
      rw [stack_eq] at member
      rw [index_eq]
      rcases List.mem_cons.mp member with rfl | earlier
      · exact ⟨rfl, call, Nat.lt_succ_self _⟩
      · exact opened_succ (valid.opened res earlier)
  · have ret' : direction log visit.index = DirectionT.ret.code := direction_eq ▸ ret
    obtain ⟨calls_eq, rets_eq⟩ := before_succ_of_ret later ret'
    rw [stack_eq, List.length_cons] at depth_eq bounded
    constructor
    · rw [index_eq]
      exact nested_succ valid.nested fun _ => .inr ⟨ret', by omega⟩
    · exact Nat.le_of_succ_le bounded
    · rw [index_eq, calls_eq, rets_eq]
      omega
    · intro other member
      rw [index_eq]
      exact opened_succ (valid.opened other (stack_eq ▸ List.mem_cons_of_mem res member))

theorem valid_start (log : Bytes) : ({ index := 0, stack := [] } : Visit).Valid log where
  nested := fun _ below => absurd below (Nat.not_lt_zero _)
  bounded := Nat.zero_le _
  depth := by simp [callsBefore, retsBefore]
  opened := fun _ member => absurd member List.not_mem_nil

theorem valid_of_mem_visits (member : visit ∈ visits log) : visit.Valid log :=
  Machine.invariant_of_mem_iterates (fun _ _ valid step => valid.next step) (valid_start log) visit
    member

/-- The iterations are numbered, and there are no more of them than the header counts. -/
theorem index_of_getElem?_visits {index : Nat} (entry : (visits log)[index]? = some visit) :
    visit.index = index ∧ index < headerIdx log := by
  have index_eq := Machine.counter_of_getElem?_iterates Visit.index
    (fun _ _ step => (next_cases step).1) entry
  have inside := (List.getElem?_eq_some_iff.mp entry).1
  exact ⟨index_eq.trans (Nat.zero_add index),
    Nat.lt_of_lt_of_le inside Machine.length_iterates_le⟩

theorem index_lt_of_mem_visits (member : visit ∈ visits log) : visit.index < headerIdx log := by
  obtain ⟨index, entry⟩ := List.mem_iff_getElem?.mp member
  obtain ⟨index_eq, index_lt⟩ := index_of_getElem?_visits entry
  exact index_eq ▸ index_lt

/-- The loop goes on at a record of a nested file that fits in `buf` and in `stack`. -/
theorem Visit.Valid.exists_next (valid : visit.Valid log) (inside : visit.Inside (readLog log))
    (goes_on : Nested log (visit.index + 1)) : ∃ after, visit.next (readLog log) = some after := by
  have direction_eq := inside.readable.direction_eq log
  have depth_eq := valid.depth
  by_cases start : visit.index = 0
  · rw [show visit = { index := 0, stack := visit.stack } by rw [← start]]
    exact ⟨_, next_start _ _⟩
  rcases goes_on visit.index (Nat.lt_succ_self _) start with call | ⟨ret, unreturned⟩
  · have call' := direction_eq.trans call
    exact ⟨_, next_of_call start inside.1 call' (inside.2 start call')⟩
  · cases opened : visit.stack with
    | nil =>
        rw [opened, List.length_nil] at depth_eq
        omega
    | cons res stack =>
        exact ⟨_, next_of_ret start inside.readable (direction_eq.trans ret) opened⟩

/-- While the iterations stay inside, they come to every record up to which the file is nested. -/
theorem exists_visit (inside : ∀ visit ∈ visits log, visit.Inside (readLog log))
    {index : Nat} (counted : index < headerIdx log) (nested : Nested log index) :
    ∃ visit, (visits log)[index]? = some visit := by
  induction index with
  | zero =>
      obtain ⟨rest, rest_eq⟩ := Nat.exists_eq_add_of_lt counted
      rw [visits, rest_eq]
      exact ⟨_, rfl⟩
  | succ index ih =>
      obtain ⟨visit, entry⟩ := ih (Nat.lt_of_succ_lt counted) fun earlier below =>
        nested earlier (Nat.lt_succ_of_lt below)
      have member := List.mem_of_getElem? entry
      obtain ⟨after, step⟩ := (valid_of_mem_visits member).exists_next (inside visit member)
        ((index_of_getElem?_visits entry).1.symm ▸ nested)
      exact ⟨after, Machine.getElem?_iterates_succ counted entry step⟩

end Valid

/-! ## Files on which the loop is safe -/

section Safe

variable {log : Bytes} {table : NmTable} {visit : Visit}

/-- The report of a log file has the rows of the iterations, makes no access outside if they make
none, and finishes if each of them goes on. -/
theorem analyze_eq (log : Bytes) (table : NmTable) :
    (analyze (some log) (some table)).rows = (visits log).filterMap
        (Visit.row table (readLog log) (getData (readLog log) (dataAddress 0)).callee) ∧
      ((∀ visit ∈ visits log, visit.Inside (readLog log)) →
        (analyze (some log) (some table)).ending ≠ .outside) ∧
      ((∀ visit ∈ visits log, (visit.next (readLog log)).isSome = true) →
        (analyze (some log) (some table)).ending = .finished) := by
  rcases counted : headerIdx log with - | left
  · rw [visits, analyze, ← headerIdx, counted]
    exact ⟨rfl, fun _ => nofun, fun _ => rfl⟩
  have visits_eq : visits log = { index := 0, stack := [] } ::
      Machine.iterates (Visit.next (readLog log)) left { index := 1, stack := [] } := by
    rw [visits, counted, Machine.iterates_of_next (next_start _ _)]
  have later : ({ index := 1, stack := [] } : Visit).index ≠ 0 := Nat.one_ne_zero
  obtain ⟨rows_eq, safe, finishes⟩ := analyzeRecords_eq table (readLog log) left
    (getData (readLog log) (dataAddress 0)).callee later
  have report_eq : analyze (some log) (some table) =
      { analyzeRecords table (readLog log) left 1
          (getData (readLog log) (dataAddress 0)).callee [] with caption := true } := by
    simp only [analyze]
    rw [← headerIdx, counted, analyzeRecords_start]
  have no_row : ({ index := 0, stack := [] } : Visit).row table (readLog log)
      (getData (readLog log) (dataAddress 0)).callee = none := if_neg fun all => all.1 rfl
  rw [report_eq, visits_eq, List.filterMap_cons_none no_row]
  exact ⟨rows_eq, fun inside => safe fun visit member =>
    inside visit (List.mem_cons_of_mem _ member), fun goes_on => finishes fun visit member =>
      goes_on visit (List.mem_cons_of_mem _ member)⟩

/-- A safe loop keeps its records in `buf` and its calls in `stack`. -/
theorem LoopSafe.inside (safe : LoopSafe log table) (member : visit ∈ visits log) :
    visit.Inside (readLog log) := by
  refine ⟨safe.records_inside visit member, fun later call => ?_⟩
  have access : visit.stackAccess (readLog log) = some (visit.stack.length : Int) := by
    rw [Visit.stackAccess, if_neg later, if_pos call]
  exact Int.ofNat_lt.mp (safe.stack_inside visit member _ access).2

/-- On a file that is not analyzable the loop leaves its bounds, or prints a row of a return that
the file does not hold. -/
theorem LoopSafe.analyzable (safe : LoopSafe log table) : Analyzable log := by
  intro index counted later nested
  obtain ⟨visit, entry⟩ := exists_visit (fun visit member => safe.inside member) counted nested
  have member := List.mem_of_getElem? entry
  have valid := valid_of_mem_visits member
  have depth_eq := valid.depth
  have inside := safe.inside member
  have direction_eq := inside.readable.direction_eq log
  obtain ⟨rfl, -⟩ := index_of_getElem?_visits entry
  refine ⟨inside.1, fun call => ?_, fun ret unreturned => ?_⟩
  · have room := inside.2 later (direction_eq.trans call)
    omega
  · have ret' := direction_eq.trans ret
    cases opened : visit.stack with
    | nil =>
        rw [opened, List.length_nil] at depth_eq
        omega
    | cons res stack =>
        have printed := (analyze_eq log table).1 ▸ List.mem_filterMap.mpr ⟨visit, member, by
          rw [Visit.row, if_pos ⟨later, inside.readable, ret'⟩, opened]
          rfl⟩
        exact (safe.rows_present _ printed).2.2.2.2

/-- The accesses to `stack` at an analyzable file. -/
theorem Visit.Valid.stackAccess_inside (valid : visit.Valid log)
    (inside : visit.Inside (readLog log)) {position : Int}
    (access : visit.stackAccess (readLog log) = some position) :
    0 ≤ position ∧ position < stackSize := by
  have bounded := valid.bounded
  rw [Visit.stackAccess] at access
  split_ifs at access with start call ret empty
  · obtain rfl := Option.some.inj access
    have room := inside.2 start call
    omega
  · obtain rfl := Option.some.inj access
    have positive := List.length_pos_iff.mpr fun nil => empty (List.isEmpty_iff.mpr nil)
    omega

/-- A row that is printed at a return that the file holds. -/
theorem Visit.Valid.row_present (valid : visit.Valid log) {row : Row}
    (printed : visit.row table (readLog log) (getData (readLog log) (dataAddress 0)).callee =
      some row)
    (held : directionAt (readLog log) visit.index = DirectionT.ret.code → visit.index ≠ 0 →
      visit.stack ≠ [] → dataAddress (visit.index + 1) ≤ log.length) :
    row.Present table log := by
  rw [Visit.row] at printed
  split_ifs at printed with all
  obtain ⟨later, -, ret⟩ := all
  cases opened : visit.stack with
  | nil =>
      rw [opened] at printed
      exact nomatch printed
  | cons res stack =>
      rw [opened, List.head?_cons, Option.map_some, Option.some.injEq] at printed
      obtain ⟨res_eq, call, earlier⟩ := valid.opened res (opened ▸ List.mem_cons_self)
      have ret_held := held ret later (opened ▸ List.cons_ne_nil _ _)
      subst printed
      refine ⟨?_, call, ret, ?_, ret_held⟩
      · conv_lhs => rw [res_eq]
        rfl
      · change dataAddress (res.idx + 1) ≤ log.length
        simp only [dataAddress] at ret_held ⊢
        omega

/-- The analyzer is safe on a log file exactly when the file is analyzable. -/
theorem loop_safe_iff (log : Bytes) (table : NmTable) : LoopSafe log table ↔ Analyzable log := by
  refine ⟨LoopSafe.analyzable, fun analyzable => ?_⟩
  have inside : ∀ visit ∈ visits log, visit.Inside (readLog log) := by
    intro visit member
    have valid := valid_of_mem_visits member
    have depth_eq := valid.depth
    by_cases start : visit.index = 0
    · exact ⟨by rw [start]; decide, fun later => absurd start later⟩
    obtain ⟨record_inside, fits, -⟩ :=
      analyzable visit.index (index_lt_of_mem_visits member) start valid.nested
    refine ⟨record_inside, fun _ call => ?_⟩
    rw [directionAt_readLog (by simp only [dataAddress] at record_inside ⊢; omega)] at call
    have room := fits call
    omega
  obtain ⟨rows_eq, safe, -⟩ := analyze_eq log table
  refine ⟨fun visit member => (inside visit member).1, ?_, safe inside, ?_⟩
  · intro visit member position access
    exact (valid_of_mem_visits member).stackAccess_inside (inside visit member) access
  · intro row printed
    rw [rows_eq] at printed
    obtain ⟨visit, member, printed⟩ := List.mem_filterMap.mp printed
    have valid := valid_of_mem_visits member
    have depth_eq := valid.depth
    refine valid.row_present printed fun ret later opened => ?_
    rw [(inside visit member).readable.direction_eq] at ret
    have positive := List.length_pos_iff.mpr opened
    exact (analyzable visit.index (index_lt_of_mem_visits member) later valid.nested).2.2 ret
      (by omega)

end Safe

/-- A log file that is cut off after the direction of a RET record. -/
def truncatedLog : Bytes :=
  List.replicate 8 0 ++ 3 :: List.replicate 15 0 ++ List.replicate 24 0 ++
    1 :: List.replicate 23 0 ++ [2]

/-- The row of that record shows the zeros behind the end of the file. -/
theorem loop_reads_past_file : ¬ LoopSafe truncatedLog createHtable := by
  intro safe
  have counted : headerIdx truncatedLog = 3 := by decide
  have call : direction truncatedLog 1 = DirectionT.call.code := by decide
  have nested : Nested truncatedLog 2 := by
    intro earlier below later
    obtain rfl : earlier = 1 := by omega
    exact .inl call
  have open_call : retsBefore truncatedLog 2 < callsBefore truncatedLog 2 := by decide
  have held := (safe.analyzable 2 (by rw [counted]; decide) (by decide) nested).2.2 (by decide)
    open_call
  exact absurd held (by decide)

end Profiler
end TaRef
