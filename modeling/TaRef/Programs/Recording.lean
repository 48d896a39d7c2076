import TaRef.Programs.MemoryBenchmark
import TaRef.Programs.TestSuite

/-!
# Recordings

`record` runs a benchmark a number of times and prints a table of the clock's times before and after
each run.  All benchmarks share one buffer, and the two of the storage share a file.
-/

namespace TaRef
namespace Benchmark

open Program

variable {lib : Mbedtls}

/-- `enum BENCH_TYPE` -/
inductive BenchType
  | reeTimeTest
  | systemTimeTest
  | cpuIntSensitive
  | cpuDoubleSensitive
  | sequentialMemorySensitive
  | randomMemorySensitive
  | ioWriteSensitive
  | ioReadSensitive
  deriving DecidableEq, Repr

/-- The enumerator that an `int` is. -/
def BenchType.ofInt (type : Int32) : Option BenchType :=
  match type.toInt with
  | 0 => some .reeTimeTest
  | 1 => some .systemTimeTest
  | 2 => some .cpuIntSensitive
  | 3 => some .cpuDoubleSensitive
  | 4 => some .sequentialMemorySensitive
  | 5 => some .randomMemorySensitive
  | 6 => some .ioWriteSensitive
  | 7 => some .ioReadSensitive
  | _ => none

/-- `BUF_SIZE` -/
def bufSize : Nat := 1048576

/-- The file of the storage benchmarks. -/
def benchmarkName : Bytes := asciiText "benchmark"

/-- What the benchmarks work on: the storage, `buf` and the clocks. -/
abbrev BenchState (lib : Mbedtls) := Enclave lib × Bytes × Clock

/-- `buf` -/
def getBuf : Program (BenchState lib) Bytes :=
  call fun (tee, buf, clock) => (.returned buf, tee, buf, clock)

/-- Fill `buf`. -/
def setBuf (buf : Bytes) : Program (BenchState lib) Unit :=
  call fun (tee, _, clock) => (.returned (), tee, buf, clock)

/-- One iteration of `benchmark`.  Nothing reads what the benchmarks of the CPU add up. -/
def benchmarkOnce (platform : Platform) : Option BenchType → Program (BenchState lib) Unit
  | some .reeTimeTest => do
      let _ ← getReeTime
      return ()
  | some .systemTimeTest => do
      let _ ← getSystemTime platform
      return ()
  | some .sequentialMemorySensitive => do
      let buf ← getBuf
      setBuf (sequentialMemoryBenchmark buf bufSize).1
  | some .randomMemorySensitive => do
      let buf ← getBuf
      let (buf, _) ← valueOf (randomMemoryBenchmark buf bufSize)
      setBuf buf
  | some .ioReadSensitive => do
      let buf ← ioReadBenchmark platform (List.replicate bufSize 0) benchmarkName bufSize
      setBuf buf
  | some .ioWriteSensitive => do
      let buf ← getBuf
      ioWriteBenchmark platform buf benchmarkName bufSize
  | some .cpuIntSensitive => pure ()
  | some .cpuDoubleSensitive => pure ()
  | none => pure ()

/-- `benchmark` -/
def benchmark (platform : Platform) (type unit : Int32) : Program (BenchState lib) Unit :=
  times (benchmarkOnce platform (BenchType.ofInt type)) unit.toInt.toNat

/-- `time_to_millis` -/
def timeToMillis (time : TeeTime) : UInt64 :=
  time.seconds.toUInt64 * 1000 + time.millis.toUInt64

/-- `time_diff` -/
def timeDiff (t1 t2 : TeeTime) : UInt64 := timeToMillis t2 - timeToMillis t1

/-- What `init` stores in `buf`. -/
def initBuf : Bytes := (List.range bufSize).map fun i => UInt8.ofNat (255 - (i &&& 255))

/-- The loop of `record` that runs the benchmark; it returns `start` and `end`. -/
def recordLoop (platform : Platform) (type unit : Int32) :
    Nat → Program (BenchState lib) (List (TeeTime × TeeTime))
  | 0 => pure []
  | left + 1 => do
      let start ← getReeTime
      benchmark platform type unit
      let stop ← getReeTime
      let rows ← recordLoop platform type unit left
      return (start, stop) :: rows

/-- The loop of `record` that prints the rows. -/
def printRows {σ : Type} (stdio : Stdio) (type unit : Int32) :
    List (TeeTime × TeeTime) → Program σ Unit
  | [] => pure ()
  | (start, stop) :: rows => do
      teePrintf stdio (asciiText "%d,%d,%lu,%lu,%lu\n") [.int type.toUInt32, .int unit.toUInt32,
        .long (timeToMillis start), .long (timeToMillis stop), .long (timeDiff start stop)]
      printRows stdio type unit rows

/-- `record` -/
def record (platform : Platform) (stdio : Stdio) (type size unit : Int32) :
    Program (BenchState lib) (List (TeeTime × TeeTime)) := do
  setBuf initBuf
  let rows ← recordLoop platform type unit size.toInt.toNat
  teePrintf stdio (asciiText "type,unit,start,end,diff[ms]\n") []
  printRows stdio type unit rows
  return rows

/-! ## The runs of a recording -/

/-- How often an iteration of a benchmark reads the clock of `record`. -/
def clockReadings : Option BenchType → Nat
  | some .reeTimeTest => 1
  | _ => 0

/-- Whether an iteration of a benchmark writes the file. -/
def writesFile (type : Option BenchType) : Bool := type == some .ioWriteSensitive

/-- The times that a clock gives before and after each run, when the run itself takes some of them. -/
def rowsOf (between : Nat) (times : Stream' TeeTime) : Nat → List (TeeTime × TeeTime)
  | 0 => []
  | left + 1 =>
      let later := times.tail.drop between
      (times.head, later.head) :: rowsOf between later.tail left

/-- The storage grants everything, and the file holds what `init` stores or is not there. -/
structure Ready (platform : Platform) (aes : BlockCipher Bytes Block) (written : Bool)
    (tee : Enclave lib) : Prop where
  obliging : tee.Obliging platform
  stores : written = true → tee.Stores platform aes benchmarkName initBuf
  missing : written = false → tee.host.files (cString benchmarkName) = none

/-- What the benchmarks of the storage keep of `buf`. -/
structure Filled (type : Option BenchType) (buf : Bytes) : Prop where
  writing : type = some .ioWriteSensitive → buf = initBuf
  reading : type = some .ioReadSensitive → buf.take bufSize = initBuf

theorem length_initBuf : initBuf.length = bufSize := by
  rw [initBuf, List.length_map, List.length_range]

theorem filled_initBuf (type : Option BenchType) : Filled type initBuf :=
  ⟨fun _ => rfl, fun _ => List.take_of_length_le length_initBuf.le⟩

theorem filled_of_ne {type : Option BenchType} (write_ne : type ≠ some .ioWriteSensitive)
    (read_ne : type ≠ some .ioReadSensitive) (buf : Bytes) : Filled type buf :=
  ⟨fun write => absurd write write_ne, fun read => absurd read read_ne⟩

/-- Only the writing benchmark touches what is stored. -/
theorem Ready.idle {platform : Platform} {aes : BlockCipher Bytes Block} {written : Bool}
    {tee : Enclave lib} (ready : Ready platform aes written tee) {type : Option BenchType}
    (reads : writesFile type = false) : Ready platform aes (written || writesFile type) tee := by
  rwa [reads, Bool.or_false]

section Runs

variable {aes : BlockCipher Bytes Block} (laws : lib.CbcLaws aes) {platform : Platform}
  {written : Bool} {tee : Enclave lib}

include laws

theorem returns_benchmarkOnce {type : Option BenchType} (ready : Ready platform aes written tee)
    (readable : type = some .ioReadSensitive → written = true) {buf : Bytes}
    (filled : Filled type buf) (clock : Clock) (printed : Bytes) :
    ∃ after buf' clock',
      (benchmarkOnce platform type).Returns ⟨(tee, buf, clock), printed⟩ ()
          ⟨(after, buf', clock'), printed⟩ ∧
        Ready platform aes (written || writesFile type) after ∧ Filled type buf' ∧
        clock'.reeTimes = clock.reeTimes.drop (clockReadings type) := by
  have name_short : benchmarkName.length ≤ teeObjectIdMaxLen := by decide
  rcases type with - | type
  · exact ⟨tee, buf, clock, returns_pure () _, ready.idle rfl, filled, rfl⟩
  cases type with
  | reeTimeTest =>
      refine ⟨tee, buf, { clock with reeTimes := clock.reeTimes.tail },
        returns_bind (returns_call rfl) (returns_pure () _), ready.idle rfl,
        filled_of_ne (by decide) (by decide) _, rfl⟩
  | systemTimeTest =>
      refine ⟨tee, buf, { clock with cycles := clock.cycles.tail },
        returns_bind (returns_call rfl) (returns_pure () _), ready.idle rfl,
        filled_of_ne (by decide) (by decide) _, rfl⟩
  | cpuIntSensitive =>
      exact ⟨tee, buf, clock, returns_pure () _, ready.idle rfl, filled, rfl⟩
  | cpuDoubleSensitive =>
      exact ⟨tee, buf, clock, returns_pure () _, ready.idle rfl, filled, rfl⟩
  | sequentialMemorySensitive =>
      exact ⟨tee, _, clock, returns_bind (returns_call rfl) (returns_call rfl),
        ready.idle rfl, filled_of_ne (by decide) (by decide) _, rfl⟩
  | randomMemorySensitive =>
      obtain ⟨⟨stored, sum⟩, result⟩ : ∃ result, randomMemoryBenchmark buf bufSize = some result :=
        ⟨_, randomMemoryBenchmark_eq (by decide) (by decide) buf⟩
      refine ⟨tee, stored, clock, returns_bind (returns_call rfl) ?_, ready.idle rfl,
        filled_of_ne (by decide) (by decide) _, rfl⟩
      rw [result]
      exact returns_bind (returns_valueOf _ _) (returns_call rfl)
  | ioWriteSensitive =>
      rw [filled.writing rfl]
      obtain ⟨after, writes, obliging, stores⟩ := returns_ioWriteBenchmark laws platform
        (by decide : 0 < bufSize) (by decide) (by decide) length_initBuf name_short ready.obliging
        (initBuf, clock) printed
      refine ⟨after, initBuf, clock, returns_bind (returns_call rfl) writes, ?_, filled_initBuf _,
        rfl⟩
      rw [show writesFile (some .ioWriteSensitive) = true from rfl, Bool.or_true]
      exact ⟨obliging, fun _ => stores, Bool.noConfusion⟩
  | ioReadSensitive =>
      obtain rfl := readable rfl
      obtain ⟨after, buf', reads, obliging, files_eq, filled⟩ :=
        @returns_ioReadBenchmark lib _ aes laws platform initBuf (List.replicate bufSize 0)
          benchmarkName bufSize (by decide) (by decide) length_initBuf name_short tee ready.obliging
          (ready.stores rfl) (buf, clock) printed
      refine ⟨after, buf', clock, returns_bind reads (returns_call rfl), ?_,
        ⟨nofun, fun _ => filled⟩, rfl⟩
      exact ⟨obliging, fun _ => (ready.stores rfl).keep files_eq, Bool.noConfusion⟩

theorem returns_benchmark {type : Option BenchType} (count : Nat)
    (ready : Ready platform aes written tee)
    (readable : 0 < count → type = some .ioReadSensitive → written = true) {buf : Bytes}
    (filled : Filled type buf) (clock : Clock) (printed : Bytes) :
    ∃ after buf' clock',
      (times (benchmarkOnce platform type) count).Returns ⟨(tee, buf, clock), printed⟩ ()
          ⟨(after, buf', clock'), printed⟩ ∧
        Ready platform aes (written || (writesFile type && decide (0 < count))) after ∧
        Filled type buf' ∧
        clock'.reeTimes = clock.reeTimes.drop (clockReadings type * count) := by
  induction count generalizing written tee buf clock with
  | zero =>
      refine ⟨tee, buf, clock, returns_pure () _, ?_, filled, rfl⟩
      rwa [show decide (0 < 0) = false from rfl, Bool.and_false, Bool.or_false]
  | succ count ih =>
      obtain ⟨middle, buf', clock', once, ready, filled, times_eq⟩ := returns_benchmarkOnce laws
        ready (readable (Nat.succ_pos count)) filled clock printed
      have readable' : 0 < count → type = some .ioReadSensitive →
          (written || writesFile type) = true := fun _ reads => by
        rw [readable (Nat.succ_pos count) reads, Bool.true_or]
      obtain ⟨after, buf'', clock'', later, ready, filled, times_eq'⟩ :=
        ih ready readable' filled clock'
      refine ⟨after, buf'', clock'', returns_bind once later, ?_, filled, ?_⟩
      · rw [decide_eq_true (Nat.succ_pos count), Bool.and_true]
        have absorbed : (writesFile type || (writesFile type && decide (0 < count))) =
            writesFile type := by
          cases writesFile type <;> rfl
        rwa [Bool.or_assoc, absorbed] at ready
      · rw [times_eq', times_eq, Stream'.drop_drop]
        congr 1
        ring

/-- The loop returns the times that the clock gives around its runs. -/
theorem returns_recordLoop {type unit : Int32} (count : Nat)
    (ready : Ready platform aes written tee)
    (readable : 0 < count * unit.toInt.toNat → BenchType.ofInt type = some .ioReadSensitive →
      written = true) {buf : Bytes} (filled : Filled (BenchType.ofInt type) buf) (clock : Clock)
    (printed : Bytes) :
    ∃ after buf' clock',
      (recordLoop platform type unit count).Returns ⟨(tee, buf, clock), printed⟩
          (rowsOf (clockReadings (BenchType.ofInt type) * unit.toInt.toNat) clock.reeTimes count)
          ⟨(after, buf', clock'), printed⟩ ∧
        Ready platform aes (written || (writesFile (BenchType.ofInt type) &&
          decide (0 < count * unit.toInt.toNat))) after ∧
        Filled (BenchType.ofInt type) buf' := by
  induction count generalizing written tee buf clock with
  | zero =>
      refine ⟨tee, buf, clock, returns_pure _ _, ?_, filled⟩
      rwa [Nat.zero_mul, show decide (0 < 0) = false from rfl, Bool.and_false, Bool.or_false]
  | succ count ih =>
      have more : 0 < unit.toInt.toNat → 0 < (count + 1) * unit.toInt.toNat :=
        Nat.mul_pos (Nat.succ_pos count)
      obtain ⟨middle, buf', clock', runs, ready, filled, times_eq⟩ := returns_benchmark laws
        unit.toInt.toNat ready (fun positive => readable (more positive)) filled
        { clock with reeTimes := clock.reeTimes.tail } printed
      have readable' : 0 < count * unit.toInt.toNat →
          BenchType.ofInt type = some .ioReadSensitive →
            (written || (writesFile (BenchType.ofInt type) && decide (0 < unit.toInt.toNat))) =
              true := fun positive reads => by
        rw [readable (more (Nat.pos_of_mul_pos_left positive)) reads, Bool.true_or]
      obtain ⟨after, buf'', clock'', later, ready, filled⟩ :=
        ih ready readable' filled { clock' with reeTimes := clock'.reeTimes.tail }
      refine ⟨after, buf'', clock'', ?_, ?_, filled⟩
      · have rows_eq : rowsOf (clockReadings (BenchType.ofInt type) * unit.toInt.toNat)
            clock.reeTimes (count + 1) = (clock.reeTimes.head, clock'.reeTimes.head) ::
              rowsOf (clockReadings (BenchType.ofInt type) * unit.toInt.toNat)
                clock'.reeTimes.tail count := by
          rw [rowsOf, times_eq]
        rw [rows_eq]
        exact returns_bind (returns_call rfl) (returns_bind runs (returns_bind (returns_call rfl)
          (returns_bind later (returns_pure _ _))))
      · have absorbed : (decide (0 < unit.toInt.toNat) || decide (0 < count * unit.toInt.toNat)) =
            decide (0 < (count + 1) * unit.toInt.toNat) := by
          rw [← Bool.decide_or, decide_eq_decide]
          exact ⟨fun either => more (either.elim id Nat.pos_of_mul_pos_left),
            fun positive => .inl (Nat.pos_of_mul_pos_left positive)⟩
        rwa [Bool.or_assoc, ← Bool.and_or_distrib_left, absorbed] at ready

end Runs

section Missing

variable {platform : Platform} {tee : Enclave lib} {buf : Bytes} {clock : Clock} {printed : Bytes}

/-- The reading benchmark goes on with a handle that nothing has set when the file is not there. -/
theorem stops_benchmark (missing : tee.host.files (cString benchmarkName) = none) {count : Nat}
    (positive : 0 < count) :
    (times (benchmarkOnce platform (some .ioReadSensitive)) count).run
      ⟨(tee, buf, clock), printed⟩ = .error .undefined := by
  obtain ⟨count, rfl⟩ := Nat.exists_eq_succ_of_ne_zero positive.ne'
  obtain ⟨result, after, opens⟩ := @returns_open_missing lib _ platform tee benchmarkName missing
    (buf, clock) printed
  rw [times, benchmarkOnce, ioReadBenchmark]
  exact stops_bind _ (stops_bind _ (stops_later opens (stops_bind _ rfl)))

theorem stops_recordLoop {type unit : Int32}
    (reads : BenchType.ofInt type = some .ioReadSensitive)
    (missing : tee.host.files (cString benchmarkName) = none) {count : Nat}
    (positive : 0 < count * unit.toInt.toNat) :
    (recordLoop platform type unit count).run ⟨(tee, buf, clock), printed⟩ =
      .error .undefined := by
  obtain ⟨count, rfl⟩ := Nat.exists_eq_succ_of_ne_zero (Nat.pos_of_mul_pos_right positive).ne'
  have stops : (benchmark platform type unit).run
      ⟨(tee, buf, { clock with reeTimes := clock.reeTimes.tail }), printed⟩ =
        .error .undefined := by
    rw [benchmark, reads]
    exact stops_benchmark missing (Nat.pos_of_mul_pos_left positive)
  exact stops_later (returns_call rfl) (stops_bind _ stops)

end Missing

/-! ## The table -/

/-- The numbers of a row. -/
def rowValues (type unit : Int32) (row : TeeTime × TeeTime) : List Int :=
  [type.toInt, unit.toInt, (timeToMillis row.1).toNat, (timeToMillis row.2).toNat,
    (timeDiff row.1 row.2).toNat]

/-- A row, as it is printed. -/
def rowText (type unit : Int32) (row : TeeTime × TeeTime) : Bytes :=
  [Printf.ascii ','].intercalate ((rowValues type unit row).map Printf.decimalText)

/-- The table of a recording. -/
def tableText (type unit : Int32) (rows : List (TeeTime × TeeTime)) : Bytes :=
  asciiText "type,unit,start,end,diff[ms]\n" ++
    rows.flatMap fun row => rowText type unit row ++ [Printf.ascii '\n']

/-- Read the numbers of a line. -/
def readRow (line : Bytes) : Option (List Int) :=
  (line.splitOn (Printf.ascii ',')).mapM Printf.readDecimal

/-- Read the lines of a table behind its caption. -/
def readTable (text : Bytes) : Option (List (List Int)) :=
  (text.splitOn (Printf.ascii '\n')).tail.dropLast.mapM readRow

theorem mapM_map_some {α β : Type} {write : α → β} {read : β → Option α} {values : List α}
    (reads : ∀ value ∈ values, read (write value) = some value) :
    (values.map write).mapM read = some values := by
  induction values with
  | nil => rfl
  | cons value values ih =>
      rw [List.map_cons, List.mapM_cons, reads value List.mem_cons_self,
        ih fun other member => reads other (List.mem_cons_of_mem _ member)]
      rfl

section Table

variable {type unit : Int32} {row : TeeTime × TeeTime}

theorem short_of_mem_rowValues {value : Int} (member : value ∈ rowValues type unit row) :
    Printf.Short value := by
  simp only [rowValues, List.mem_cons, List.not_mem_nil, or_false] at member
  rcases member with rfl | rfl | rfl | rfl | rfl
  · exact Printf.short_toInt type
  · exact Printf.short_toInt unit
  · exact Printf.short_toNat64 _
  · exact Printf.short_toNat64 _
  · exact Printf.short_toNat64 _

theorem readRow_rowText : readRow (rowText type unit row) = some (rowValues type unit row) := by
  have commas : ∀ field ∈ (rowValues type unit row).map Printf.decimalText,
      Printf.ascii ',' ∉ field := by
    intro field member
    obtain ⟨value, -, rfl⟩ := List.mem_map.mp member
    exact Printf.notMem_decimalText (by decide) rfl
  rw [readRow, rowText, List.splitOn_intercalate _ commas (List.cons_ne_nil _ _)]
  exact mapM_map_some fun value member =>
    Printf.readDecimal_decimalText (short_of_mem_rowValues member)

theorem newline_notMem_rowText : Printf.ascii '\n' ∉ rowText type unit row := by
  have digits (value : Int) : Printf.ascii '\n' ∉ Printf.decimalText value :=
    Printf.notMem_decimalText (by decide) rfl
  have comma : Printf.ascii '\n' ≠ Printf.ascii ',' := by decide
  simp [rowText, rowValues, List.intercalate, List.intersperse, digits, comma]

/-- A reader gets the numbers of all rows back. -/
theorem readTable_tableText (rows : List (TeeTime × TeeTime)) :
    readTable (tableText type unit rows) = some (rows.map (rowValues type unit)) := by
  have lines (rows : List (TeeTime × TeeTime)) :
      (rows.flatMap fun row => rowText type unit row ++ [Printf.ascii '\n']).splitOn
        (Printf.ascii '\n') = rows.map (rowText type unit) ++ [[]] := by
    induction rows with
    | nil => rfl
    | cons row rows ih =>
        rw [List.flatMap_cons, List.append_assoc, List.singleton_append,
          List.splitOn_append_cons_self_of_not_mem newline_notMem_rowText, ih, List.map_cons,
          List.cons_append]
  have caption : asciiText "type,unit,start,end,diff[ms]\n" =
      asciiText "type,unit,start,end,diff[ms]" ++ [Printf.ascii '\n'] := rfl
  rw [readTable, tableText, caption, List.append_assoc, List.singleton_append,
    List.splitOn_append_cons_self_of_not_mem (by decide +kernel), lines, List.tail_cons,
    List.dropLast_concat]
  induction rows with
  | nil => rfl
  | cons row rows ih =>
      rw [List.map_cons, List.mapM_cons, readRow_rowText, ih]
      rfl

/-- The parts of a row. -/
def rowParts (type unit : Int32) (row : TeeTime × TeeTime) : List Printf.Part :=
  let comma : Printf.Part := .text [Printf.ascii ','] (by decide +kernel)
  [.signed type, comma, .signed unit, comma, .long (timeToMillis row.1), comma,
    .long (timeToMillis row.2), comma, .long (timeDiff row.1 row.2),
    .text [Printf.ascii '\n'] (by decide +kernel)]

theorem characters_rowParts : (rowParts type unit row).flatMap Printf.Part.characters =
    rowText type unit row ++ [Printf.ascii '\n'] := by
  simp [rowParts, rowText, rowValues, Printf.Part.characters, List.intercalate, List.intersperse]

theorem length_rowText_le : (rowText type unit row).length ≤ 109 := by
  have short {value : Int} (member : value ∈ rowValues type unit row) :=
    Printf.length_decimalText_le (short_of_mem_rowValues member)
  have type_le := short (List.mem_cons_self : type.toInt ∈ rowValues type unit row)
  have unit_le := @short unit.toInt (by simp [rowValues])
  have start_le := @short (timeToMillis row.1).toNat (by simp [rowValues])
  have stop_le := @short (timeToMillis row.2).toNat (by simp [rowValues])
  have diff_le := @short (timeDiff row.1 row.2).toNat (by simp [rowValues])
  simp only [rowText, rowValues, List.map_cons, List.map_nil, List.intercalate, List.intersperse,
    List.flatten_cons, List.flatten_nil, List.length_append, List.length_cons, List.length_nil]
  omega

theorem returns_printRows {σ : Type} (stdio : Stdio) (rows : List (TeeTime × TeeTime))
    (process : Process σ) :
    (printRows stdio type unit rows).Returns process ()
      { process with
        printed := process.printed ++
          rows.flatMap fun row => rowText type unit row ++ [Printf.ascii '\n'] } := by
  induction rows generalizing process with
  | nil =>
      rw [List.flatMap_nil, List.append_nil]
      exact returns_pure () process
  | cons row rows ih =>
      have short : ((rowParts type unit row).flatMap Printf.Part.characters).length < 256 := by
        have length_le := @length_rowText_le type unit row
        rw [characters_rowParts, List.length_append, List.length_singleton]
        omega
      have prints := @returns_parts σ stdio (rowParts type unit row) short process
      rw [characters_rowParts] at prints
      rw [List.flatMap_cons, ← List.append_assoc]
      exact returns_bind prints (ih _)

end Table

section Record

variable {aes : BlockCipher Bytes Block} (laws : lib.CbcLaws aes) {platform : Platform}
  {written : Bool} {tee : Enclave lib}

/-- The milliseconds between two times, around the `uint64_t` when the clock went back. -/
def elapsed (start stop : TeeTime) : Nat :=
  if start.total ≤ stop.total then stop.total - start.total
  else 2 ^ 64 - (start.total - stop.total)

theorem toNat_timeToMillis (time : TeeTime) : (timeToMillis time).toNat = time.total := by
  have seconds_lt := time.seconds.toNat_lt
  have millis_lt := time.millis.toNat_lt
  rw [timeToMillis, UInt64.toNat_add, UInt64.toNat_mul, UInt32.toNat_toUInt64,
    UInt32.toNat_toUInt64, TeeTime.total, show (1000 : UInt64).toNat = 1000 from rfl]
  omega

theorem toNat_timeDiff (start stop : TeeTime) : (timeDiff start stop).toNat = elapsed start stop := by
  have start_lt := (timeToMillis start).toNat_lt
  have stop_lt := (timeToMillis stop).toNat_lt
  rw [toNat_timeToMillis] at start_lt stop_lt
  rw [timeDiff, UInt64.toNat_sub, toNat_timeToMillis, toNat_timeToMillis, elapsed]
  split_ifs <;> omega

/-- How often a recording runs its benchmark. -/
def runsOf (size unit : Int32) : Nat := size.toInt.toNat * unit.toInt.toNat

include laws

/-- What a recording returns, prints and leaves. -/
theorem returns_record (stdio : Stdio) {type size unit : Int32}
    (ready : Ready platform aes written tee)
    (readable : 0 < runsOf size unit → BenchType.ofInt type = some .ioReadSensitive →
      written = true) (buf : Bytes) (clock : Clock) (printed : Bytes) :
    let rows := rowsOf (clockReadings (BenchType.ofInt type) * unit.toInt.toNat) clock.reeTimes
      size.toInt.toNat
    ∃ after buf' clock',
      (record platform stdio type size unit).Returns ⟨(tee, buf, clock), printed⟩ rows
          ⟨(after, buf', clock'), printed ++ tableText type unit rows⟩ ∧
        Ready platform aes (written || (writesFile (BenchType.ofInt type) &&
          decide (0 < runsOf size unit))) after ∧
        Filled (BenchType.ofInt type) buf' := by
  intro rows
  obtain ⟨after, buf', clock', runs, ready, filled⟩ := returns_recordLoop laws size.toInt.toNat
    ready readable (filled_initBuf _) clock printed
  refine ⟨after, buf', clock', ?_, ready, filled⟩
  rw [tableText, ← List.append_assoc]
  exact returns_bind (returns_call rfl) (returns_bind runs (returns_bind
    (returns_message (by decide +kernel) (by decide) _) (returns_bind
      (returns_printRows stdio rows _) (returns_pure _ _))))

/-- Whatever the clock of the host gives, a reader of the table gets its times and what lay between
them; a time that went back shows as a difference around `2 ^ 64`. -/
theorem record_reads_back (stdio : Stdio) {type size unit : Int32}
    (ready : Ready platform aes written tee)
    (readable : 0 < runsOf size unit → BenchType.ofInt type = some .ioReadSensitive →
      written = true) (buf : Bytes) (clock : Clock) (printed : Bytes) :
    let rows := rowsOf (clockReadings (BenchType.ofInt type) * unit.toInt.toNat) clock.reeTimes
      size.toInt.toNat
    ∃ after text,
      (record platform stdio type size unit).Returns ⟨(tee, buf, clock), printed⟩ rows
          ⟨after, printed ++ text⟩ ∧
        readTable text = some (rows.map fun row => [type.toInt, unit.toInt, row.1.total,
          row.2.total, elapsed row.1 row.2]) := by
  intro rows
  obtain ⟨after, buf', clock', records, -⟩ :=
    returns_record laws stdio ready readable buf clock printed
  refine ⟨_, _, records, (readTable_tableText rows).trans (congrArg some ?_)⟩
  apply List.map_congr_left
  intro row _
  rw [rowValues, toNat_timeToMillis, toNat_timeToMillis, toNat_timeDiff]

end Record

/-- A clock that goes back by a second and a half. -/
def wrongClock : Clock where
  reeTimes := Stream'.cons ⟨10, 500⟩ (Stream'.const ⟨9, 0⟩)
  cycles := Stream'.const 0

/-- One run of the random benchmark, timed with that clock. -/
theorem record_reads_back_published :
    ∃ after text,
      (record Platform.publishedKeystone .usual 5 1 1).Returns
          ⟨(Enclave.start (.reference vectorCipher) (.empty (Stream'.const (.move 7))), [],
            wrongClock), []⟩ [(⟨10, 500⟩, ⟨9, 0⟩)] ⟨after, [] ++ text⟩ ∧
        readTable text = some [[5, 1, 10500, 9000, 2 ^ 64 - 1500]] := by
  have ready : Ready Platform.publishedKeystone vectorCipher false
      (Enclave.start (.reference vectorCipher) (.empty (Stream'.const (.move 7)))) :=
    ⟨obliging_fresh vectorCipher, nofun, fun _ => rfl⟩
  exact record_reads_back (Mbedtls.reference_cbcLaws vectorCipher) .usual ready
    (fun _ reads => absurd reads (by decide)) [] wrongClock []

/-! ## Recordings one after the other -/

/-- A call of `record`. -/
structure Recording where
  type : Int32
  size : Int32
  unit : Int32

namespace Recording

/-- The recording reads the file. -/
def Reads (recording : Recording) : Prop :=
  0 < runsOf recording.size recording.unit ∧
    BenchType.ofInt recording.type = some .ioReadSensitive

/-- Whether the recording writes the file. -/
def writes (recording : Recording) : Bool :=
  writesFile (BenchType.ofInt recording.type) &&
    decide (0 < runsOf recording.size recording.unit)

end Recording

/-- Record one after the other. -/
def recordAll (platform : Platform) (stdio : Stdio) :
    List Recording → Program (BenchState lib) Unit
  | [] => pure ()
  | recording :: recordings => do
      let _ ← record platform stdio recording.type recording.size recording.unit
      recordAll platform stdio recordings

/-- Every recording that reads the file finds it, when it is there at first or not. -/
def Covered : Bool → List Recording → Prop
  | _, [] => True
  | written, recording :: recordings =>
      (recording.Reads → written = true) ∧ Covered (written || recording.writes) recordings

theorem covered_iff {written : Bool} {recordings : List Recording} :
    Covered written recordings ↔
      ∀ before recording later, recordings = before ++ recording :: later → recording.Reads →
        written = true ∨ ∃ earlier ∈ before, earlier.writes = true := by
  induction recordings generalizing written with
  | nil => simp [Covered]
  | cons first recordings ih =>
      rw [Covered, ih]
      constructor
      · rintro ⟨found, covered⟩ (- | ⟨other, before⟩) recording later split reads
        · obtain ⟨rfl, rfl⟩ := List.cons.inj split
          exact .inl (found reads)
        · obtain ⟨rfl, rfl⟩ := List.cons.inj split
          rcases covered before recording later rfl reads with written | ⟨earlier, member, writes⟩
          · rcases Bool.or_eq_true_iff.mp written with written | writes
            · exact .inl written
            · exact .inr ⟨first, List.mem_cons_self, writes⟩
          · exact .inr ⟨earlier, List.mem_cons_of_mem _ member, writes⟩
      · intro covered
        refine ⟨fun reads => ?_, fun before recording later split reads => ?_⟩
        · rcases covered [] first recordings rfl reads with written | ⟨earlier, member, -⟩
          · exact written
          · exact absurd member List.not_mem_nil
        · rcases covered (first :: before) recording later (congrArg _ split) reads with
            written | ⟨earlier, member, writes⟩
          · exact .inl (Bool.or_eq_true_iff.mpr (.inl written))
          · rcases List.mem_cons.mp member with rfl | member
            · exact .inl (Bool.or_eq_true_iff.mpr (.inr writes))
            · exact .inr ⟨earlier, member, writes⟩

section Run

variable {aes : BlockCipher Bytes Block} (laws : lib.CbcLaws aes) {platform : Platform}
  {written : Bool} {tee : Enclave lib}

include laws

/-- Recordings that find the file return, and one that reads it last leaves it in `buf`. -/
theorem returns_recordAll (stdio : Stdio) {recordings : List Recording}
    (ready : Ready platform aes written tee) (covered : Covered written recordings) (buf : Bytes)
    (clock : Clock) (printed : Bytes) :
    ∃ after, (recordAll platform stdio recordings).Returns ⟨(tee, buf, clock), printed⟩ () after ∧
      ∀ last ∈ recordings.getLast?, last.Reads → after.state.2.1.take bufSize = initBuf := by
  induction recordings generalizing written tee buf clock printed with
  | nil => exact ⟨_, returns_pure () _, nofun⟩
  | cons recording recordings ih =>
      obtain ⟨found, covered⟩ := covered
      obtain ⟨middle, buf', clock', records, ready, filled⟩ := returns_record laws stdio ready
        (fun positive reads => found ⟨positive, reads⟩) buf clock printed
      obtain ⟨after, later, holds⟩ := ih ready covered buf' clock' _
      refine ⟨after, returns_bind records later, fun last member reads => ?_⟩
      cases recordings with
      | nil =>
          obtain rfl := Option.some.inj member
          have same := Except.ok.inj later
          rw [Prod.mk.injEq] at same
          rw [← same.2]
          exact filled.reading reads.2
      | cons next recordings => exact holds last member reads

/-- A recording that does not find the file goes on with a handle that nothing has set. -/
theorem stops_recordAll (stdio : Stdio) {recordings : List Recording}
    (ready : Ready platform aes written tee) (uncovered : ¬ Covered written recordings)
    (buf : Bytes) (clock : Clock) (printed : Bytes) :
    (recordAll platform stdio recordings).run ⟨(tee, buf, clock), printed⟩ =
      .error .undefined := by
  induction recordings generalizing written tee buf clock printed with
  | nil => exact absurd trivial uncovered
  | cons recording recordings ih =>
      rw [recordAll]
      by_cases found : recording.Reads → written = true
      case neg =>
        rw [Classical.not_imp, Bool.not_eq_true] at found
        obtain ⟨⟨positive, reads⟩, unwritten⟩ := found
        have stops := @stops_recordLoop lib platform tee initBuf clock printed recording.type
          recording.unit reads (ready.missing unwritten) recording.size.toInt.toNat positive
        exact stops_bind _ (stops_later (returns_call rfl) (stops_bind _ stops))
      case pos =>
        obtain ⟨middle, buf', clock', records, ready, -⟩ := returns_record laws stdio ready
          (fun positive reads => found ⟨positive, reads⟩) buf clock printed
        exact stops_later records (ih ready (fun covered => uncovered ⟨found, covered⟩) _ _ _)

/-- From a storage without the file, recordings return exactly when each that reads the file comes
after one that writes it.  A recording that reads last then leaves in `buf` what `init` stored. -/
theorem recordings_return_iff (stdio : Stdio) (obliging : tee.Obliging platform)
    (missing : tee.host.files (cString benchmarkName) = none) (recordings : List Recording)
    (buf : Bytes) (clock : Clock) (printed : Bytes) :
    (∃ after,
        (recordAll platform stdio recordings).Returns ⟨(tee, buf, clock), printed⟩ () after ∧
        ∀ last ∈ recordings.getLast?, last.Reads → after.state.2.1.take bufSize = initBuf) ↔
      ∀ before recording later, recordings = before ++ recording :: later → recording.Reads →
        ∃ earlier ∈ before, earlier.writes = true := by
  have ready : Ready platform aes false tee := ⟨obliging, nofun, fun _ => missing⟩
  have covered_iff' := @covered_iff false recordings
  simp only [Bool.false_eq_true, false_or] at covered_iff'
  rw [← covered_iff']
  constructor
  · rintro ⟨after, returns, -⟩
    by_contra uncovered
    rw [Returns, stops_recordAll laws stdio ready uncovered] at returns
    cases returns
  · exact fun covered => returns_recordAll laws stdio ready covered buf clock printed

end Run

/-- A written file is read after another benchmark has filled the buffer. -/
theorem recordings_return_iff_published :
    ∃ after,
      (recordAll Platform.publishedKeystone .usual [⟨6, 1, 1⟩, ⟨5, 2, 3⟩, ⟨7, 1, 2⟩]).Returns
          ⟨(Enclave.start (.reference vectorCipher) (.empty (Stream'.const (.move 7))), [],
            suiteClock), []⟩ () after ∧
        after.state.2.1.take bufSize = initBuf := by
  have covered : Covered false [⟨6, 1, 1⟩, ⟨5, 2, 3⟩, ⟨7, 1, 2⟩] :=
    ⟨fun reads => absurd reads.2 (by decide), fun reads => absurd reads.2 (by decide),
      fun _ => by decide, trivial⟩
  obtain ⟨after, returns, holds⟩ := (recordings_return_iff
    (Mbedtls.reference_cbcLaws vectorCipher) .usual (obliging_fresh vectorCipher) rfl
    [⟨6, 1, 1⟩, ⟨5, 2, 3⟩, ⟨7, 1, 2⟩] [] suiteClock []).mpr
      fun before recording later split reads =>
        (covered_iff.mp covered before recording later split reads).resolve_left Bool.false_ne_true
  exact ⟨after, returns, holds _ rfl ⟨by decide, by decide⟩⟩

end Benchmark
end TaRef
