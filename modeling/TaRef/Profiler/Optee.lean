import TaRef.Profiler.BufferBound
import TaRef.Profiler.EndToEnd

/-!
# Profiling on OP-TEE

Here a command maps the buffer, runs the tests and copies the whole buffer to the client, which
writes it to the log file of the analyzer.  No record of one command stays for the next one.  So
after any commands that stay inside their buffers, the report of a command has the row of each of
its calls exactly when no more calls are open at once than the stack of the analyzer holds.
-/

namespace TaRef
namespace Profiler
namespace Optee

/-- `BUF_SIZE` of the client. -/
def bufSize : Nat := 65536

/-- `tee_rdtscp`, which does not ask for the core. -/
def teeRdtscp (cycles : UInt64) : UInt64 × UInt8 := (cycles, 0)

/-- The reading of the other hooks that stands for one of this build. -/
def reading (cycles : UInt64) : Reading := { cycles, tp := (1 : UInt64) <<< 4 }

theorem teeRdtscp_reading (cycles : UInt64) :
    Profiler.teeRdtscp (reading cycles) = teeRdtscp cycles := by
  have core : (if ((1 : UInt64) <<< 4) &&& ((1 : UInt64) <<< 4) = 0 then (255 : UInt64)
      else ((1 : UInt64) <<< 4) &&& ~~~((1 : UInt64) <<< 4)).toUInt8 = 0 := by decide
  exact Prod.ext rfl core

/-- `__profiler_map_info`. -/
def profilerMapInfo (build : Build) (imageBase : UInt64) (recorder : Recorder)
    (mapping starting : UInt64) : Recorder :=
  let memory := recorder.memory.putWord sizeOffset (.ofNat build.perfSize)
  let memory := memory.putWord idxOffset 0
  let memory := memory.putWord startOffset (teeRdtscp mapping).1
  cygProfileFunc { mapped := true, memory } imageBase .start (reading starting)

/-- `profiler_write`: what it returns, and what it stores in `buf`. -/
def profilerWrite (ptr : Bytes) (sz : Nat) : Int × Bytes := (0, ptr.take sz)

/-- `__profiler_unmap_info`: what it stores in `buf`, and `size` where it sets it. -/
def profilerUnmapInfo (recorder : Recorder) : Recorder × Bytes × Option Nat :=
  if recorder.mapped then
    let sz := (recorder.memory.getWord sizeOffset).toNat
    ({ recorder with mapped := false },
      (profilerWrite (recorder.memory.read 0 sz) sz).2, some sz)
  else (recorder, [], none)

/-! ## Commands -/

/-- A hook with the clock of this build. -/
def counted : Hook → Hook
  | .enter thisFn entered => .enter thisFn (reading entered.cycles)
  | .exit thisFn left => .exit thisFn (reading left.cycles)

/-- Calls with the clock of this build. -/
def countedCalls : Calls → Calls
  | .none => .none
  | .call thisFn entered inner left next =>
      .call thisFn (reading entered.cycles) (countedCalls inner) (reading left.cycles)
        (countedCalls next)

/-- A command that runs the tests: the hooks before `__profiler_map_info` and after
`__profiler_unmap_info`, the two clocks of the former, and the calls between them. -/
structure Command where
  before : List Hook
  mapping : UInt64
  starting : UInt64
  calls : Calls
  after : List Hook

/-- `run_all_test` with the functions that call it: what it stores in the buffer of the client.
There is no result when it writes behind `perf_buffer` or behind the buffer of the client. -/
def runAllTest (build : Build) (imageBase : UInt64) (recorder : Recorder) (command : Command) :
    Option (Bytes × Recorder) :=
  let before := command.before.map counted
  let hooks := (countedCalls command.calls).hooks
  let after := command.after.map counted
  let started := profilerMapInfo build imageBase (before.foldl Recorder.hook recorder)
    command.mapping command.starting
  let (stopped, output, size) := profilerUnmapInfo (hooks.foldl Recorder.hook started)
  let written := recorder.targets before ++ dataAddress 0 :: started.targets hooks ++
    stopped.targets after
  if (∀ address ∈ written, address + 24 ≤ build.perfSize) ∧ size.getD 0 ≤ bufSize then
    some (output, after.foldl Recorder.hook stopped)
  else none

/-- The recorder of a new instance. -/
def start (memory : Memory) : Recorder := { mapped := false, memory }

/-- The commands of an instance, in their order. -/
def run (build : Build) (imageBase : UInt64) (memory : Memory) (commands : List Command) :
    Option Recorder :=
  commands.foldlM
    (fun recorder command => (runAllTest build imageBase recorder command).map Prod.snd)
    (start memory)

/-- The log file that the client writes, from a static buffer. -/
def logFile (output : Bytes) : Bytes := output ++ List.replicate (bufSize - output.length) 0

namespace Command

/-- `perf_buffer` holds the records of a command, and the buffer of the client holds
`perf_buffer`. -/
def Fits (build : Build) (command : Command) : Prop :=
  dataAddress (2 * command.calls.count + 1) ≤ build.perfSize ∧ build.perfSize ≤ bufSize

instance (build : Build) (command : Command) : Decidable (command.Fits build) := by
  unfold Fits
  infer_instance

/-- The rows of the calls of a command. -/
def rows (command : Command) (imageBase : UInt64) (table : NmTable) : List Row :=
  (countedCalls command.calls).rows table command.mapping imageBase 0 1

/-- The records of a command. -/
def records (command : Command) (imageBase : UInt64) : List ProfilerData :=
  .of command.mapping .start imageBase (reading command.starting) ::
    (countedCalls command.calls).hooks.map (Hook.data command.mapping)

end Command

theorem depth_countedCalls (calls : Calls) : (countedCalls calls).depth = calls.depth := by
  induction calls with
  | none => rfl
  | call thisFn entered inner left next inner_ih next_ih =>
      rw [countedCalls, Calls.depth, Calls.depth, inner_ih, next_ih]

theorem count_countedCalls (calls : Calls) : (countedCalls calls).count = calls.count := by
  induction calls with
  | none => rfl
  | call thisFn entered inner left next inner_ih next_ih =>
      rw [countedCalls, Calls.count, Calls.count, inner_ih, next_ih]

theorem Command.length_records (command : Command) (imageBase : UInt64) :
    (command.records imageBase).length = 2 * command.calls.count + 1 := by
  rw [records, List.length_cons, List.length_map, Calls.length_hooks, count_countedCalls]

/-! ## One command -/

section Command

variable {build : Build} {imageBase : UInt64} {recorder : Recorder}

/-- Hooks that write inside the buffer leave no more records than it holds. -/
theorem fits_of_inside {origin : UInt64} {records : List ProfilerData}
    (held : Records build recorder origin records) {hooks : List Hook}
    (fits : dataAddress records.length ≤ build.perfSize)
    (inside : ∀ address ∈ recorder.targets hooks, address + 24 ≤ build.perfSize) :
    dataAddress (records.length + hooks.length) ≤ build.perfSize := by
  induction hooks generalizing recorder records with
  | nil => exact fits
  | cons hook hooks ih =>
      have room : records.length < 2 ^ 64 := by
        have perfSize_lt := build.perfSize_lt
        simp only [dataAddress] at fits
        omega
      rw [Recorder.targets, held.target_eq room] at inside
      have next_fits : dataAddress (records.length + 1) ≤ build.perfSize := by
        have newest := inside (dataAddress records.length)
          (List.mem_append_left _ (List.mem_singleton_self _))
        simp only [dataAddress] at newest ⊢
        omega
      have rest := ih (held.hook room hook)
        (by rw [List.length_append, List.length_singleton]; exact next_fits)
        fun address member => inside address (List.mem_append_right _ member)
      rw [List.length_append, List.length_singleton] at rest
      rw [List.length_cons, Nat.add_comm hooks.length, ← Nat.add_assoc]
      exact rest

theorem targets_unmapped (unmapped : recorder.mapped = false) (hooks : List Hook) :
    recorder.targets hooks = [] := by
  induction hooks with
  | nil => rfl
  | cons hook hooks ih =>
      have idle : recorder.hook hook = recorder := hooks_unmapped unmapped [hook]
      rw [Recorder.targets, idle, ih, Recorder.target, unmapped]
      rfl

theorem profilerMapInfo_records (build : Build) (imageBase : UInt64) (recorder : Recorder)
    (mapping starting : UInt64) :
    Records build (profilerMapInfo build imageBase recorder mapping starting) mapping
      [.of mapping .start imageBase (reading starting)] :=
  (mapHeader_records build recorder (reading mapping)).append (Nat.two_pow_pos 64) imageBase .start
    (reading starting)

/-- The recorder when `__profiler_unmap_info` is called. -/
def ended (build : Build) (imageBase : UInt64) (recorder : Recorder) (command : Command) :
    Recorder :=
  (countedCalls command.calls).hooks.foldl Recorder.hook
    (profilerMapInfo build imageBase recorder command.mapping command.starting)

theorem ended_records {command : Command} (imageBase : UInt64) (recorder : Recorder)
    (fits : dataAddress (2 * command.calls.count + 1) ≤ build.perfSize) :
    Records build (ended build imageBase recorder command) command.mapping
      (command.records imageBase) := by
  have perfSize_lt := build.perfSize_lt
  apply (profilerMapInfo_records build imageBase recorder command.mapping command.starting).hooks
  rw [List.length_singleton, Calls.length_hooks, count_countedCalls]
  simp only [dataAddress] at fits
  omega

theorem profilerUnmapInfo_ended {command : Command} (imageBase : UInt64) (recorder : Recorder)
    (fits : dataAddress (2 * command.calls.count + 1) ≤ build.perfSize) :
    profilerUnmapInfo (ended build imageBase recorder command) =
      ({ ended build imageBase recorder command with mapped := false },
        (ended build imageBase recorder command).memory.read 0 build.perfSize,
          some build.perfSize) := by
  have held := ended_records imageBase recorder fits
  have size_eq : ((ended build imageBase recorder command).memory.getWord sizeOffset).toNat =
      build.perfSize := by
    rw [held.size, UInt64.toNat_ofNat', Nat.mod_eq_of_lt build.perfSize_lt]
  rw [profilerUnmapInfo, if_pos held.mapped]
  simp only [profilerWrite, size_eq]
  rw [List.take_of_length_le (Nat.le_of_eq (Memory.length_read _ _ _))]

/-- A command on an instance that is not recording. -/
theorem runAllTest_eq (unmapped : recorder.mapped = false) (command : Command) :
    runAllTest build imageBase recorder command =
      if command.Fits build then
        some ((ended build imageBase recorder command).memory.read 0 build.perfSize,
          { ended build imageBase recorder command with mapped := false })
      else none := by
  have first := profilerMapInfo_records build imageBase recorder command.mapping command.starting
  have length_hooks : (countedCalls command.calls).hooks.length = 2 * command.calls.count := by
    rw [Calls.length_hooks, count_countedCalls]
  rw [runAllTest]
  simp only [hooks_unmapped unmapped, targets_unmapped unmapped, List.nil_append]
  by_cases records_fit : dataAddress (2 * command.calls.count + 1) ≤ build.perfSize
  case neg =>
    -- the record that does not fit is written behind `perf_buffer`
    rw [if_neg, if_neg fun fits => records_fit fits.1]
    rintro ⟨inside, -⟩
    apply records_fit
    have total := @fits_of_inside build _ _ _ first (countedCalls command.calls).hooks
      (inside (dataAddress 0) (List.mem_append_left _ List.mem_cons_self))
      fun address member => inside address
        (List.mem_append_left _ (List.mem_cons_of_mem _ member))
    rwa [length_hooks, List.length_singleton, Nat.add_comm] at total
  case pos =>
    have unmap_eq := profilerUnmapInfo_ended imageBase recorder records_fit
    rw [ended] at unmap_eq
    rw [unmap_eq]
    simp only [hooks_unmapped, targets_unmapped, List.append_nil, Option.getD_some]
    have inside := (first.hooks_inside (countedCalls command.calls).hooks (by
      rw [length_hooks, List.length_singleton, Build.capacity]
      simp only [dataAddress] at records_fit
      omega)).1
    have written : ∀ address ∈ dataAddress 0 :: (profilerMapInfo build imageBase recorder
        command.mapping command.starting).targets (countedCalls command.calls).hooks,
          address + 24 ≤ build.perfSize := by
      intro address member
      rcases List.mem_cons.mp member with rfl | member
      · simp only [dataAddress] at records_fit ⊢
        omega
      · exact inside address member
    by_cases size_le : build.perfSize ≤ bufSize
    · rw [if_pos ⟨written, size_le⟩, if_pos ⟨records_fit, size_le⟩, ended]
    · rw [if_neg fun both => size_le both.2, if_neg fun fits => size_le fits.2]

/-- Between commands nothing is recorded. -/
theorem unmapped_of_run {memory : Memory} {commands : List Command}
    (ran : run build imageBase memory commands = some recorder) : recorder.mapped = false := by
  induction commands using List.reverseRecOn generalizing recorder with
  | nil =>
      cases ran
      rfl
  | append_singleton commands command ih =>
      rw [run, List.foldlM_append] at ran
      obtain ⟨before, ran_before, last⟩ := Option.bind_eq_some_iff.mp ran
      obtain ⟨after, last, ends⟩ := Option.bind_eq_some_iff.mp last
      cases ends
      obtain ⟨done, returns, rfl⟩ := Option.map_eq_some_iff.mp last
      rw [runAllTest_eq (ih ran_before)] at returns
      split_ifs at returns
      cases returns
      rfl

/-! ## The log file -/

/-- The log file of a command. -/
def log (build : Build) (imageBase : UInt64) (recorder : Recorder) (command : Command) : Bytes :=
  logFile ((ended build imageBase recorder command).memory.read 0 build.perfSize)

section Logged

variable {command : Command} (fits : command.Fits build) (imageBase recorder)

include fits

theorem readLog_log {address : Nat} (inside : address < build.perfSize) :
    readLog (log build imageBase recorder command) address =
      (ended build imageBase recorder command).memory address := by
  have below : address < bufMax := Nat.lt_of_lt_of_le inside fits.2
  rw [readLog, List.getD_eq_getElem?_getD, List.getElem?_take_of_lt below, log, logFile,
    List.getElem?_append_left (by rw [Memory.length_read]; exact inside)]
  simp [Memory.read, inside]

theorem idx_log :
    ((readLog (log build imageBase recorder command)).getWord idxOffset).toNat =
      (command.records imageBase).length := by
  have perfSize_lt := build.perfSize_lt
  have size_le := fits.1
  simp only [dataAddress] at size_le
  have same : (readLog (log build imageBase recorder command)).getWord idxOffset =
      (ended build imageBase recorder command).memory.getWord idxOffset := by
    apply Memory.getWord_congr
    intro offset offset_lt
    apply readLog_log imageBase recorder fits
    simp only [idxOffset]
    omega
  rw [same, (ended_records imageBase recorder fits.1).idx, UInt64.toNat_ofNat',
    Nat.mod_eq_of_lt (by rw [command.length_records]; omega)]

theorem logged_log :
    Logged (readLog (log build imageBase recorder command)) 0 (command.records imageBase) := by
  intro index record entry
  have index_lt := (List.getElem?_eq_some_iff.mp entry).1
  rw [command.length_records] at index_lt
  have records_le := fits.1
  have size_le := fits.2
  rw [Nat.zero_add]
  constructor
  · simp only [dataAddress, bufSize, bufMax] at *
    omega
  · rw [← (ended_records imageBase recorder fits.1).data entry]
    apply getData_congr
    intro offset offset_lt
    apply readLog_log imageBase recorder fits
    simp only [dataAddress] at records_le ⊢
    omega

end Logged

end Command

/-! ## The report -/

section Report

variable {table : NmTable} {buf : Memory} {baseaddr origin : UInt64}

/-- Where more calls are open than the stack holds, the analyzer stops behind it. -/
theorem analyzeRecords_too_deep (calls : Calls) {index : Nat} {stack : List Result} (left : Nat)
    (logged : Logged buf index (calls.hooks.map (Hook.data origin))) (later : index ≠ 0)
    (room : stack.length ≤ stackSize) (deep : stackSize < stack.length + calls.depth) :
    (analyzeRecords table buf (calls.hooks.length + left) index baseaddr stack).ending =
      .outside := by
  induction calls generalizing index stack left with
  | none => exact absurd deep (Nat.not_lt.mpr room)
  | call thisFn entered inner exited next inner_ih next_ih =>
      have alone_eq : (Calls.call thisFn entered inner exited next).hooks =
          (Calls.call thisFn entered inner exited .none).hooks ++ next.hooks := by
        simp [Calls.hooks]
      rw [Calls.depth] at deep
      by_cases shallow : stack.length + (inner.depth + 1) ≤ stackSize
      · -- this call has its row, and one of the next ones is too deep
        rw [alone_eq, List.map_append] at logged
        obtain ⟨logged_alone, logged_next⟩ := logged_append logged
        have alone_run := @analyzeRecords_calls table buf origin baseaddr
          (.call thisFn entered inner exited .none) index stack (next.hooks.length + left)
          logged_alone later (by rw [Calls.depth, Calls.depth]; omega)
        rw [List.length_map] at logged_next
        have next_run := @next_ih (index + (Calls.call thisFn entered inner exited .none).hooks.length)
          stack left logged_next (by omega) room (by omega)
        rw [alone_eq, List.length_append, Nat.add_assoc, alone_run]
        exact next_run
      · simp only [Calls.hooks, List.map_cons, List.map_append] at logged
        obtain ⟨⟨entry_inside, entry_eq⟩, logged_rest⟩ := logged_cons logged
        have direction : (getData buf (dataAddress index)).direction = DirectionT.call.code := by
          rw [entry_eq]
          rfl
        have length_eq : (Calls.call thisFn entered inner exited next).hooks.length + left =
            inner.hooks.length + (next.hooks.length + left + 1) + 1 := by
          simp only [Calls.hooks, List.length_cons, List.length_append]
          omega
        rw [length_eq]
        rcases Nat.lt_or_eq_of_le room with below | full
        · -- the call is pushed, and one of those it makes is too deep
          rw [analyzeRecords_call later entry_inside direction below]
          exact inner_ih (next.hooks.length + left + 1) (logged_append logged_rest).1
            (Nat.succ_ne_zero index) (by rw [List.length_cons]; omega)
            (by rw [List.length_cons]; omega)
        · rw [analyzeRecords_call_outside later direction fun _ => Nat.not_lt.mpr full.ge]
          rfl

/-- The report of a command that fits. -/
theorem analyze_log {build : Build} {command : Command} (imageBase : UInt64)
    (recorder : Recorder) (fits : command.Fits build) :
    analyze (some (log build imageBase recorder command)) (some table) =
      { analyzeRecords table (readLog (log build imageBase recorder command))
          (countedCalls command.calls).hooks.length 1 imageBase [] with caption := true } := by
  have logged : Logged (readLog (log build imageBase recorder command)) 0
      (command.records imageBase) := logged_log imageBase recorder fits
  have base : (getData (readLog (log build imageBase recorder command)) (dataAddress 0)).callee =
      imageBase := by
    rw [(logged_cons logged).1.2]
    rfl
  have length_eq : (command.records imageBase).length =
      (countedCalls command.calls).hooks.length + 1 := by
    rw [Command.records, List.length_cons, List.length_map]
  rw [analyze, idx_log imageBase recorder fits, length_eq]
  dsimp only
  rw [analyzeRecords_start, base]

end Report

/-- After any commands that stayed inside their buffers, one more command hands over the rows of
all its calls, and the analyzer reads to the end of its records, exactly when its records fit and
no more than `STACK_SIZE` of its calls are open at once. -/
theorem report_complete_iff_depth {build : Build} {imageBase : UInt64} {memory : Memory}
    {commands : List Command} {recorder : Recorder}
    (ran : run build imageBase memory commands = some recorder) (command : Command)
    (table : NmTable) :
    (runAllTest build imageBase recorder command).map
          (fun done => analyze (some (logFile done.1)) (some table)) =
        some { caption := true, rows := command.rows imageBase table, ending := .finished } ↔
      command.Fits build ∧ command.calls.depth ≤ stackSize := by
  rw [runAllTest_eq (unmapped_of_run ran)]
  by_cases fits : command.Fits build
  case neg =>
    rw [if_neg fits]
    exact iff_of_false (Option.some_ne_none _).symm fun both => fits both.1
  rw [if_pos fits, Option.map_some, Option.some.injEq, ← depth_countedCalls]
  change analyze (some (log build imageBase recorder command)) (some table) = _ ↔ _
  rw [analyze_log imageBase recorder fits]
  have all_logged : Logged (readLog (log build imageBase recorder command)) 0
      (command.records imageBase) := logged_log imageBase recorder fits
  have logged : Logged (readLog (log build imageBase recorder command)) 1
      ((countedCalls command.calls).hooks.map (Hook.data command.mapping)) :=
    (logged_cons all_logged).2
  by_cases shallow : (countedCalls command.calls).depth ≤ stackSize
  case pos =>
    refine iff_of_true ?_ ⟨fits, shallow⟩
    have whole := @analyzeRecords_calls table _ command.mapping imageBase
      (countedCalls command.calls) 1 [] 0 logged Nat.one_ne_zero
      (by rw [List.length_nil, Nat.zero_add]; exact shallow)
    rw [Nat.add_zero] at whole
    rw [whole]
    simp [analyzeRecords, Report.after, Report.silent, Command.rows]
  case neg =>
    refine iff_of_false (fun complete => ?_) fun both => shallow both.2
    have stopped := @analyzeRecords_too_deep table _ imageBase _ (countedCalls command.calls) 1 [] 0
      logged Nat.one_ne_zero (Nat.zero_le _)
      (by rw [List.length_nil, Nat.zero_add]; exact Nat.not_le.mp shallow)
    rw [Nat.add_zero, (Report.mk.inj complete).2.2] at stopped
    exact absurd stopped (by decide)

/-- A command whose one call makes another one, from a clock on. -/
def nestedCommand (clock : UInt64) : Command where
  before := [.enter 0x1000 (reading clock)]
  mapping := clock + 10
  starting := clock + 20
  calls :=
    .call 0x2000 (reading (clock + 30))
      (.call 0x3000 (reading (clock + 40)) .none (reading (clock + 50)) .none)
      (reading (clock + 60)) .none
  after := [.exit 0x1000 (reading (clock + 70))]

/-- The second command of an instance. -/
theorem report_complete_iff_depth_second :
    let recorder :=
      { ended sharedMem 0x400 (start fun _ => 0) (nestedCommand 0) with mapped := false }
    (runAllTest sharedMem 0x400 recorder (nestedCommand 100)).map
        (fun done => analyze (some (logFile done.1)) (some createHtable)) =
      some
        { caption := true
          rows := (nestedCommand 100).rows 0x400 createHtable
          ending := .finished } := by
  intro recorder
  have ran : run sharedMem 0x400 (fun _ => 0) [nestedCommand 0] = some recorder := by
    rw [run, List.foldlM_cons, runAllTest_eq rfl, if_pos (by decide)]
    rfl
  exact (report_complete_iff_depth ran (nestedCommand 100) createHtable).mpr
    ⟨by decide, by decide⟩

end Optee
end Profiler
end TaRef
