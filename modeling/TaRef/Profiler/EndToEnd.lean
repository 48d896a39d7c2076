import TaRef.Profiler.Calls
import TaRef.Storage.Start

/-!
# From the hooks to the report

A run records from `crt_begin` on until `__profiler_unmap_info` writes the buffer to the log file.
One ocall takes 256 bytes of it, and the exit of `crt_begin`, which was entered before recording
started, is where the analyzer stops, so a report holds the calls of `.init_array` at most.
-/

namespace TaRef
namespace Profiler

/-- A run of instrumented functions: the hooks that ran before `crt_begin`, its address and clocks,
what `.init_array` calls before and after `__profiler_map_info`, and what is recorded from then
on. -/
structure Run where
  memory : Memory
  before : List Hook
  thisFn : UInt64
  entered : Reading
  unrecorded : List Hook
  mapping : Reading
  starting : Reading
  init : Calls
  left : Reading
  main : Activity

/-- `crt_begin` with its own hooks. -/
def crtBegin (build : Build) (run : Run) (recorder : Recorder) : Recorder :=
  let recorder := recorder.hook (.enter run.thisFn run.entered)
  let recorder := run.unrecorded.foldl Recorder.hook recorder
  let recorder := profilerMapInfo build recorder run.mapping run.starting
  let recorder := run.init.hooks.foldl Recorder.hook recorder
  recorder.hook (.exit run.thisFn run.left)

namespace Run

/-- The profiler when `__profiler_unmap_info` is called. -/
def recorder (build : Build) (run : Run) : Recorder :=
  let started := run.before.foldl Recorder.hook { mapped := false, memory := run.memory }
  run.main.hooks.foldl Recorder.hook (crtBegin build run started)

/-- The log file after `__profiler_unmap_info`. -/
def log (build : Build) (run : Run) (host : Host) : Option Bytes :=
  (profilerUnmapInfo build (run.recorder build) host).2.files build.logFile

/-- What happens between `__profiler_map_info` and `__profiler_unmap_info`. -/
def activity (run : Run) : Activity := .leave run.init run.thisFn run.left run.main

/-- The rows of all calls whose entry and exit are recorded. -/
def rows (run : Run) (table : NmTable) : List Row :=
  run.activity.rows table run.mapping.cycles imageBase 1

/-- The records of a run. -/
def records (run : Run) : List ProfilerData :=
  .of run.mapping.cycles .start imageBase run.starting ::
    run.activity.hooks.map (Hook.data run.mapping.cycles)

/-- Header and records fit in `PERF_SIZE`. -/
def Fits (build : Build) (run : Run) : Prop := dataAddress run.records.length ≤ build.perfSize

end Run

/-- A host that grants `open` and performs every write of a buffer completely. -/
structure Complete (build : Build) (host : Host) : Prop where
  opens : host.opens.head = true
  transfers : ∀ index, ∃ amount, host.transfers.get index = .move amount ∧ build.perfSize ≤ amount

/-! ## The buffer -/

theorem Run.records_eq (run : Run) :
    run.records = [.of run.mapping.cycles .start imageBase run.starting] ++
      run.init.hooks.map (Hook.data run.mapping.cycles) ++
        [(Hook.exit run.thisFn run.left).data run.mapping.cycles] ++
          run.main.hooks.map (Hook.data run.mapping.cycles) := by
  simp [records, activity, Activity.hooks]

/-- After a run the buffer holds all its records. -/
theorem Run.recorder_records {build : Build} {run : Run} (fits : run.Fits build) :
    Records build (run.recorder build) run.mapping.cycles run.records := by
  have total_lt : run.records.length < 2 ^ 64 := by
    have perfSize_lt := build.perfSize_lt
    simp only [Fits, dataAddress] at fits
    omega
  rw [records_eq] at total_lt ⊢
  simp only [List.length_append, List.length_map, List.length_singleton] at total_lt
  have mapped := profilerMapInfo_records build
    (run.unrecorded.foldl Recorder.hook
      ((run.before.foldl Recorder.hook { mapped := false, memory := run.memory }).hook
        (.enter run.thisFn run.entered))) run.mapping run.starting
  have initialised := mapped.hooks run.init.hooks (by rw [List.length_singleton]; omega)
  have left := initialised.hook
    (by simp only [List.length_append, List.length_map, List.length_singleton]; omega)
    (.exit run.thisFn run.left)
  exact left.hooks run.main.hooks
    (by simp only [List.length_append, List.length_map, List.length_singleton]; omega)

/-! ## The log file -/

/-- A complete host stores the first 256 bytes of the buffer over what the log file held. -/
theorem files_profilerWrite {build : Build} {host : Host} (complete : Complete build host)
    {ptr : Bytes} {sz : Nat} (length_eq : ptr.length = sz) (sz_pos : 0 < sz)
    (sz_le : sz ≤ build.perfSize) :
    (profilerWrite build host ptr sz).2.files build.logFile =
      some (overwrite (host.content build.logFile) 0 (ptr.take 256)) := by
  have granted : 0 ≤ (host.openPath build.logFile (oRdwr ||| oCreat)).1 :=
    (Host.openPath_granted_iff _ _ _).mpr ⟨by decide, complete.opens, .inl (by decide)⟩
  have opened := Host.openFile?_openPath_self granted
  have content_eq := Host.content_openPath_self granted
  have transfers_eq := host.transfers_openPath build.logFile (oRdwr ||| oCreat)
  obtain ⟨amount, head, enough⟩ := complete.transfers 0
  rcases opening : host.openPath build.logFile (oRdwr ||| oCreat) with ⟨fd, after⟩
  rw [opening] at granted opened content_eq transfers_eq
  rw [if_neg (by decide)] at content_eq
  have chunk_eq : ptr.take (if sz > 256 then 256 else sz) = ptr.take 256 := by
    split
    · rfl
    · rw [List.take_of_length_le (by omega), List.take_of_length_le (by omega)]
  have chunk_length : (ptr.take 256).length = min 256 sz := by rw [List.length_take, length_eq]
  have written : Keyedge.ocallWriteFile after fd ptr sz =
      (((ptr.take 256).length : Int), after.nextTransfer.deliver fd (ptr.take 256)) := by
    have whole : (ptr.take 256).take amount = ptr.take 256 := by
      apply List.take_of_length_le
      omega
    have head_eq : after.transfers.head = .move amount := by
      rw [transfers_eq]
      exact head
    simp only [Keyedge.ocallWriteFile, Keyedge.ocallWriteFile256, chunk_eq, Host.write, opened,
      head_eq, whole]
    rfl
  have opened_next : after.nextTransfer.openFile? fd =
      some (.start build.logFile (oRdwr ||| oCreat)) :=
    (Host.openFile?_nextTransfer after fd).trans opened
  have chunk_ne : ptr.take 256 ≠ [] := by
    intro empty
    rw [empty, List.length_nil] at chunk_length
    omega
  have stored : (after.nextTransfer.deliver fd (ptr.take 256)).files build.logFile =
      some (overwrite (host.content build.logFile) 0 (ptr.take 256)) := by
    rw [← content_eq]
    exact Host.files_deliver_self opened_next chunk_ne
  have closed : ∀ host : Host, (host.close fd).2.files = host.files := by
    intro host
    unfold Host.close
    split <;> rfl
  simp only [profilerWrite, opening, written, if_neg (show ¬ fd = -1 by omega),
    if_neg (show ¬ ((ptr.take 256).length : Int) ≤ 0 by omega)]
  split
  · rw [closed, stored]
  · rw [closed, stored]

namespace Run

variable {build : Build} {run : Run} {host : Host}

theorem log_eq (fits : run.Fits build) (complete : Complete build host) :
    run.log build host = some (overwrite (host.content build.logFile) 0
      (((run.recorder build).memory.read 0 build.perfSize).take 256)) := by
  have held := recorder_records fits
  have size_eq : ((run.recorder build).memory.getWord sizeOffset).toNat = build.perfSize := by
    rw [held.size, UInt64.toNat_ofNat', Nat.mod_eq_of_lt build.perfSize_lt]
  have size_pos : 0 < build.perfSize := by
    simp only [Fits, dataAddress] at fits
    omega
  simp only [log, profilerUnmapInfo, held.mapped, if_true, size_eq]
  exact files_profilerWrite complete (Memory.length_read _ _ _) size_pos (Nat.le_refl _)

/-- The analyzer sees the first 256 bytes of the buffer and then the rest of an earlier log. -/
theorem readLog_log {log : Bytes} (fits : run.Fits build) (complete : Complete build host)
    (logged : run.log build host = some log) (address : Nat) :
    (address < min 256 build.perfSize →
        readLog log address = (run.recorder build).memory address) ∧
      (256 ≤ address → host.content build.logFile = [] → readLog log address = 0) := by
  rw [log_eq fits complete] at logged
  obtain rfl := Option.some.inj logged
  constructor
  · intro inside
    have below : address < bufMax := by
      simp only [bufMax]
      omega
    simp [readLog, overwrite, Memory.read, List.getD_eq_getElem?_getD, below, List.getElem?_append,
      show address < 256 by omega, show address < build.perfSize by omega]
  · intro past empty
    rw [empty]
    simp [readLog, overwrite, List.getD_eq_getElem?_getD, show ¬ address < 256 by omega]

theorem length_records (run : Run) :
    run.records.length = 2 * run.init.count + run.main.hooks.length + 2 := by
  simp only [records_eq, List.length_append, List.length_map, List.length_singleton,
    Calls.length_hooks]
  omega

section Logged

variable {log : Bytes} (fits : run.Fits build) (complete : Complete build host)
  (logged : run.log build host = some log)

include fits complete logged

theorem idx_log : ((readLog log).getWord idxOffset).toNat = run.records.length := by
  have same : (readLog log).getWord idxOffset = (run.recorder build).memory.getWord idxOffset := by
    apply Memory.getWord_congr
    intro offset offset_lt
    apply (readLog_log fits complete logged _).1
    have size_le := fits
    simp only [Fits, dataAddress, length_records] at size_le
    simp only [idxOffset]
    omega
  have perfSize_lt := build.perfSize_lt
  have size_le := fits
  simp only [Fits, dataAddress] at size_le
  rw [same, (recorder_records fits).idx, UInt64.toNat_ofNat', Nat.mod_eq_of_lt (by omega)]

/-- The first nine records reach the log file whole. -/
theorem getData_log {index : Nat} {record : ProfilerData} (early : index < 9)
    (entry : run.records[index]? = some record) :
    getData (readLog log) (dataAddress index) = record := by
  rw [← (recorder_records fits).data entry]
  apply getData_congr
  intro offset offset_lt
  apply (readLog_log fits complete logged _).1
  have inside := (List.getElem?_eq_some_iff.mp entry).1
  have size_le := fits
  simp only [Fits, dataAddress] at size_le
  simp only [dataAddress]
  omega

/-- The direction of the tenth record does too. -/
theorem direction_log {index : Nat} {record : ProfilerData} (early : index < 10)
    (entry : run.records[index]? = some record) :
    (getData (readLog log) (dataAddress index)).direction = record.direction := by
  rw [← (recorder_records fits).data entry]
  apply (readLog_log fits complete logged _).1
  have inside := (List.getElem?_eq_some_iff.mp entry).1
  have size_le := fits
  simp only [Fits, dataAddress] at size_le
  simp only [dataAddress, directionOffset]
  omega

/-- With at most four calls before the exit of `crt_begin` the report is their rows. -/
theorem rows_of_few (few : run.init.count ≤ 4) (table : NmTable) :
    (analyze (some log) (some table)).rows =
      run.init.rows table run.mapping.cycles imageBase 0 1 := by
  have records_eq := run.records_eq
  have length_hooks := run.init.length_hooks
  have base : (getData (readLog log) (dataAddress 0)).callee = imageBase := by
    rw [getData_log fits complete logged (by decide) (show run.records[0]? = some _ from rfl)]
    rfl
  have init_logged : Logged (readLog log) 1
      (run.init.hooks.map (Hook.data run.mapping.cycles)) := by
    intro index record entry
    have inside := (List.getElem?_eq_some_iff.mp entry).1
    rw [List.length_map] at inside
    refine ⟨by simp only [dataAddress, bufMax]; omega, ?_⟩
    apply getData_log fits complete logged (by omega)
    rw [records_eq, List.append_assoc, List.append_assoc, List.getElem?_append_right (by simp),
      List.getElem?_append_left (by simpa using inside)]
    simpa using entry
  have exit_direction :
      (getData (readLog log) (dataAddress (1 + run.init.hooks.length))).direction =
        DirectionT.ret.code := by
    have entry : run.records[1 + run.init.hooks.length]? =
        some ((Hook.exit run.thisFn run.left).data run.mapping.cycles) := by
      rw [Nat.add_comm, records_eq, List.getElem?_append_left (by simp),
        List.getElem?_append_right (by simp)]
      simp
    rw [direction_log fits complete logged (by omega) entry]
    rfl
  have count_eq : run.records.length =
      run.init.hooks.length + (run.main.hooks.length + 1) + 1 := by
    rw [length_records, length_hooks]
    omega
  have init_run := @analyzeRecords_calls table _ _ imageBase run.init 1 []
    (run.main.hooks.length + 1) init_logged (by decide)
    (by have depth_le := run.init.depth_le_count; simp only [List.length_nil, stackSize]; omega)
  have stopped := @analyzeRecords_ret_empty table _ run.main.hooks.length
    (1 + run.init.hooks.length) imageBase (by omega)
    (by simp only [dataAddress, calleeOffset, bufMax]; omega) exit_direction
  simp only [analyze, idx_log fits complete logged, count_eq]
  rw [analyzeRecords_start, base, init_run, stopped]
  simp [Report.after, Report.silent]

/-- Where there was no log before, the eleventh record reads as zeros. -/
theorem rows_of_many (empty : host.content build.logFile = []) (table : NmTable) :
    (analyze (some log) (some table)).rows.length ≤ 4 := by
  have zero : (getData (readLog log) (dataAddress 10)).direction = 0 :=
    (readLog_log fits complete logged _).2 (by decide) empty
  have count_eq : run.records.length = 2 * run.init.count + run.main.hooks.length + 1 + 1 :=
    run.length_records
  have bound := @rows_before_wrongDirection table (readLog log)
    (2 * run.init.count + run.main.hooks.length + 1) 1
    (getData (readLog log) (dataAddress 0)).callee [] 10 (by rw [zero]; decide)
    (by rw [zero]; decide) (by decide) (by decide)
  simp only [analyze, idx_log fits complete logged, count_eq]
  rw [analyzeRecords_start]
  simp only [List.length_nil] at bound
  dsimp only
  omega

end Logged

end Run

/-- A host without files that moves whatever it is asked to. -/
theorem complete_empty (build : Build) :
    Complete build (.empty (Stream'.const (.move build.perfSize))) :=
  ⟨rfl, fun _ => ⟨build.perfSize, rfl, Nat.le_refl _⟩⟩

/-- The report has exactly one row for each recorded call, on every host that completes its writes,
exactly when no call completes after the exit of `crt_begin` and at most four do before. -/
theorem report_complete_iff {build : Build} {run : Run} (fits : run.Fits build) (table : NmTable) :
    (∀ host, Complete build host →
        (analyze (run.log build host) (some table)).rows = run.rows table) ↔
      run.init.count ≤ 4 ∧ run.main.completed = 0 := by
  have expected_length : (run.rows table).length = run.init.count + run.main.completed :=
    run.activity.length_rows _ _ _ _
  constructor
  · intro exact
    let host : Host := .empty (Stream'.const (.move build.perfSize))
    have complete : Complete build host := complete_empty build
    have logged := Run.log_eq fits complete
    have rows_eq := exact host complete
    rw [logged] at rows_eq
    have few : run.init.count ≤ 4 := by
      have bound := Run.rows_of_many fits complete logged rfl table
      rw [rows_eq, expected_length] at bound
      omega
    have printed := Run.rows_of_few fits complete logged few table
    rw [rows_eq] at printed
    have lengths := congrArg List.length printed
    rw [expected_length, Calls.length_rows] at lengths
    exact ⟨few, by omega⟩
  · rintro ⟨few, none_later⟩ host complete
    have logged := Run.log_eq fits complete
    have main_rows : run.main.rows table run.mapping.cycles imageBase
        (1 + run.init.hooks.length + 1) = [] := by
      apply List.eq_nil_of_length_eq_zero
      rw [Activity.length_rows, none_later]
    rw [logged, Run.rows_of_few fits complete logged few table, Run.rows, Run.activity,
      Activity.rows, main_rows, List.append_nil]

/-- The build of the Makefile, which logs to `shared_mem`. -/
def sharedMem : Build where
  perfSize := 65536
  logFile := [115, 104, 97, 114, 101, 100, 95, 109, 101, 109]
  perfSize_lt := by decide

/-- A run with clocks ten cycles apart, on hart 1. -/
def steadyRun (init : Calls) (main : Activity) : Run where
  memory _ := 0
  before := []
  thisFn := 0x1000
  entered := ⟨10, 17⟩
  unrecorded := []
  mapping := ⟨20, 17⟩
  starting := ⟨30, 17⟩
  init
  left := ⟨60, 17⟩
  main

/-- One call of a function. -/
def oneCall (entered left : Nat) : Calls :=
  .call 0x2000 ⟨.ofNat entered, 17⟩ .none ⟨.ofNat left, 17⟩ .none

/-- A call made from `.init_array` has its row. -/
theorem report_complete_init :
    (analyze ((steadyRun (oneCall 40 50) (.inside (.calls .none))).log sharedMem
        (.empty (Stream'.const (.move 65536)))) (some createHtable)).rows =
      (steadyRun (oneCall 40 50) (.inside (.calls .none))).rows createHtable := by
  have fits : (steadyRun (oneCall 40 50) (.inside (.calls .none))).Fits sharedMem :=
    show dataAddress 4 ≤ 65536 by decide
  exact (report_complete_iff fits createHtable).mpr ⟨by decide, rfl⟩ _ (complete_empty sharedMem)

/-- A call made after `crt_begin` returned is recorded, but has no row. -/
theorem call_after_crt_begin_lost :
    let run := steadyRun .none (.inside (.calls (oneCall 70 80)))
    let host := Host.empty (Stream'.const (.move 65536))
    run.Fits sharedMem ∧ Complete sharedMem host ∧
      (run.rows createHtable).length = 1 ∧
      (analyze (run.log sharedMem host) (some createHtable)).rows = [] ∧
      ¬ (analyze (run.log sharedMem host) (some createHtable)).rows = run.rows createHtable := by
  intro run host
  have fits : run.Fits sharedMem := show dataAddress 4 ≤ 65536 by decide
  have complete : Complete sharedMem host := complete_empty sharedMem
  have printed : (analyze (run.log sharedMem host) (some createHtable)).rows = [] := by
    rw [Run.log_eq fits complete]
    exact Run.rows_of_few fits complete (Run.log_eq fits complete) (Nat.zero_le 4) createHtable
  have recorded : (run.rows createHtable).length = 1 := rfl
  refine ⟨fits, complete, recorded, printed, fun same => ?_⟩
  rw [← same, printed] at recorded
  exact absurd recorded (by decide)

end Profiler
end TaRef
