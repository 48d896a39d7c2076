import TaRef.Library.LittleEndian
import TaRef.Storage.Edge

/-!
# The profiler in the enclave

The hooks that the compiler puts at the entry and exit of every instrumented function append records
to a buffer in memory, behind a header that counts them.  At the end the buffer goes to a log file
on the host through the Keystone edge.
-/

namespace TaRef
namespace Profiler

/-- `enum direction_t`. -/
inductive DirectionT
  | start
  | call
  | ret
  deriving DecidableEq, Repr

def DirectionT.code : DirectionT → UInt8
  | start => 0
  | call => 1
  | ret => 2

theorem DirectionT.ne_call_of_eq_ret {direction : UInt8} (ret : direction = DirectionT.ret.code) :
    direction ≠ DirectionT.call.code := by
  rw [ret]
  decide

theorem DirectionT.ne_ret_of_eq_call {direction : UInt8} (call : direction = DirectionT.call.code) :
    direction ≠ DirectionT.ret.code := by
  rw [call]
  decide

/-- `struct __profiler_data`. -/
@[ext]
structure ProfilerData where
  direction : UInt8
  hartid : UInt8
  nsec : UInt64
  callee : UInt64
  deriving DecidableEq, Repr

/-- `PERF_SIZE` and `LOG_FILE`, the macros that the profiler is built with. -/
structure Build where
  perfSize : Nat
  logFile : Bytes
  perfSize_lt : perfSize < 2 ^ 64

/-! ## Layout of the buffer -/

/-- Offsets of `size`, `idx` and `start` in `struct __profiler_header`. -/
def sizeOffset : Nat := 0
def idxOffset : Nat := 8
def startOffset : Nat := 16

/-- Offsets of `direction`, `hartid`, `nsec` and `callee` in `struct __profiler_data`. -/
def directionOffset : Nat := 0
def hartidOffset : Nat := 1
def nsecOffset : Nat := 8
def calleeOffset : Nat := 16

/-- Address of a record: records of 24 bytes follow a header of 24 bytes. -/
def dataAddress (index : Nat) : Nat := 24 + 24 * index

/-- The record at an address. -/
def getData (memory : Memory) (address : Nat) : ProfilerData where
  direction := memory (address + directionOffset)
  hartid := memory (address + hartidOffset)
  nsec := memory.getWord (address + nsecOffset)
  callee := memory.getWord (address + calleeOffset)

/-! ## The hooks -/

/-- What the processor shows at one moment: the cycle counter and the register `tp`. -/
structure Reading where
  cycles : UInt64
  tp : UInt64
  deriving DecidableEq, Repr

/-- `tee_rdtscp` of the Keystone build, with the hart that it reports. -/
def teeRdtscp (reading : Reading) : UInt64 × UInt8 :=
  let present := (1 : UInt64) <<< 4
  let x := if reading.tp &&& present = 0 then 255 else reading.tp &&& ~~~present
  (reading.cycles, x.toUInt8)

/-- Whether `__profiler_head` is set, and the memory from `perf_buffer` on. -/
structure Recorder where
  mapped : Bool
  memory : Memory

/-- `__ImageBase` of the Keystone build. -/
def imageBase : UInt64 := 0

/-- `__profiler_get_data_ptr`. -/
def profilerGetDataPtr (memory : Memory) : Nat × Memory :=
  let idx := memory.getWord idxOffset
  (dataAddress idx.toNat, memory.putWord idxOffset (idx + 1))

/-- `__cyg_profile_func`. -/
def cygProfileFunc (recorder : Recorder) (thisFn : UInt64) (dir : DirectionT) (reading : Reading) :
    Recorder :=
  if recorder.mapped then
    let (data, memory) := profilerGetDataPtr recorder.memory
    let (clocks, id) := teeRdtscp reading
    let memory := memory.putWord (data + nsecOffset) (clocks - memory.getWord startOffset)
    let memory := memory.write (data + directionOffset) [dir.code]
    let memory := memory.write (data + hartidOffset) [id]
    let memory := memory.putWord (data + calleeOffset) thisFn
    { recorder with memory }
  else recorder

/-- `__profiler_map_info`, with what the processor shows when the header and the first record are
written. -/
def profilerMapInfo (build : Build) (recorder : Recorder) (mapping starting : Reading) : Recorder :=
  let memory := recorder.memory.putWord sizeOffset (.ofNat build.perfSize)
  let memory := memory.putWord idxOffset 0
  let memory := memory.putWord startOffset (teeRdtscp mapping).1
  cygProfileFunc { mapped := true, memory } imageBase .start starting

/-- One invocation of a hook: `__cyg_profile_func_enter` or `__cyg_profile_func_exit`. -/
inductive Hook
  | enter (thisFn : UInt64) (reading : Reading)
  | exit (thisFn : UInt64) (reading : Reading)
  deriving DecidableEq, Repr

/-- Run a hook. -/
def Recorder.hook (recorder : Recorder) : Hook → Recorder
  | .enter thisFn reading => cygProfileFunc recorder thisFn .call reading
  | .exit thisFn reading => cygProfileFunc recorder thisFn .ret reading

/-! ## The log file -/

def oRdwr : UInt32 := 0o2

/-- `profiler_write` of the Keystone build. -/
def profilerWrite (build : Build) (host : Host) (ptr : Bytes) (sz : Nat) : Int × Host :=
  let (fd, host) := host.openPath build.logFile (oRdwr ||| oCreat)
  if fd = -1 then (-1, host)
  else
    let (n, host) := Keyedge.ocallWriteFile host fd ptr sz
    if n ≤ 0 then (-1, host)
    else
      let (closed, host) := host.close fd
      if closed = -1 then (-1, host) else (0, host)

/-- `__profiler_unmap_info` of the Keystone build. -/
def profilerUnmapInfo (build : Build) (recorder : Recorder) (host : Host) : Recorder × Host :=
  if recorder.mapped then
    let sz := (recorder.memory.getWord sizeOffset).toNat
    ({ recorder with mapped := false },
      (profilerWrite build host (recorder.memory.read 0 sz) sz).2)
  else (recorder, host)

/-! ## What a hook records -/

/-- The record of a direction, a function and a moment, with clocks counted from `origin`. -/
def ProfilerData.of (origin : UInt64) (dir : DirectionT) (thisFn : UInt64) (reading : Reading) :
    ProfilerData where
  direction := dir.code
  hartid := (teeRdtscp reading).2
  nsec := (teeRdtscp reading).1 - origin
  callee := thisFn

/-- The record that a hook makes. -/
def Hook.data (origin : UInt64) : Hook → ProfilerData
  | .enter thisFn reading => .of origin .call thisFn reading
  | .exit thisFn reading => .of origin .ret thisFn reading

/-- A record depends on its 24 bytes. -/
theorem getData_congr {memory other : Memory} {address : Nat}
    (same : ∀ offset < 24, memory (address + offset) = other (address + offset)) :
    getData memory address = getData other address := by
  have nsec_eq : memory.getWord (address + nsecOffset) = other.getWord (address + nsecOffset) := by
    apply Memory.getWord_congr
    intro offset offset_lt
    simp only [nsecOffset, Nat.add_assoc]
    exact same (8 + offset) (by omega)
  have callee_eq :
      memory.getWord (address + calleeOffset) = other.getWord (address + calleeOffset) := by
    apply Memory.getWord_congr
    intro offset offset_lt
    simp only [calleeOffset, Nat.add_assoc]
    exact same (16 + offset) (by omega)
  rw [getData, getData, nsec_eq, callee_eq, same directionOffset (by decide),
    same hartidOffset (by decide)]

/-- The buffer holds these records behind its header, with clocks counted from `origin`. -/
structure Records (build : Build) (recorder : Recorder) (origin : UInt64)
    (records : List ProfilerData) : Prop where
  mapped : recorder.mapped = true
  size : recorder.memory.getWord sizeOffset = .ofNat build.perfSize
  idx : recorder.memory.getWord idxOffset = .ofNat records.length
  start : recorder.memory.getWord startOffset = origin
  data : ∀ {index : Nat} {record : ProfilerData}, records[index]? = some record →
    getData recorder.memory (dataAddress index) = record

namespace Records

variable {build : Build} {recorder : Recorder} {origin : UInt64} {records : List ProfilerData}

/-- The memory after a record was made. -/
theorem memory_cygProfileFunc (held : Records build recorder origin records)
    (room : records.length < 2 ^ 64) (thisFn : UInt64) (dir : DirectionT) (reading : Reading) :
    (cygProfileFunc recorder thisFn dir reading).memory =
      ((((recorder.memory.putWord 8 (.ofNat (records.length + 1))).putWord
        (dataAddress records.length + 8) ((teeRdtscp reading).1 - origin)).write
          (dataAddress records.length) [dir.code]).write
            (dataAddress records.length + 1) [(teeRdtscp reading).2]).putWord
              (dataAddress records.length + 16) thisFn := by
  have place : (recorder.memory.getWord idxOffset).toNat = records.length := by
    rw [held.idx, UInt64.toNat_ofNat', Nat.mod_eq_of_lt room]
  have next : recorder.memory.getWord idxOffset + 1 = .ofNat (records.length + 1) := by
    rw [held.idx, UInt64.ofNat_add]
    rfl
  have origin_eq : (recorder.memory.putWord idxOffset
      (.ofNat (records.length + 1))).getWord startOffset = origin := by
    rw [Memory.getWord_putWord_of_disjoint _ (by decide), held.start]
  simp only [cygProfileFunc, held.mapped, if_true, profilerGetDataPtr, place, next, origin_eq,
    directionOffset, hartidOffset, nsecOffset, calleeOffset, Nat.add_zero]
  rfl

/-- Recording touches `idx` and the 24 bytes of the new record only. -/
theorem frame (held : Records build recorder origin records) (room : records.length < 2 ^ 64)
    (thisFn : UInt64) (dir : DirectionT) (reading : Reading) {location : Nat}
    (off_idx : location < 8 ∨ 16 ≤ location)
    (off_data : location < dataAddress records.length ∨
      dataAddress records.length + 24 ≤ location) :
    (cygProfileFunc recorder thisFn dir reading).memory location = recorder.memory location := by
  rw [held.memory_cygProfileFunc room, Memory.putWord_outside _ (by omega),
    Memory.write_single_ne _ (by omega), Memory.write_single_ne _ (by omega),
    Memory.putWord_outside _ (by omega), Memory.putWord_outside _ (by omega)]

theorem frame_word (held : Records build recorder origin records) (room : records.length < 2 ^ 64)
    (thisFn : UInt64) (dir : DirectionT) (reading : Reading) {address : Nat}
    (in_header : address + 8 ≤ 24) (off_idx : address + 8 ≤ 8 ∨ 16 ≤ address) :
    (cygProfileFunc recorder thisFn dir reading).memory.getWord address =
      recorder.memory.getWord address := by
  apply Memory.getWord_congr
  intro offset offset_lt
  apply held.frame room
  · omega
  · simp only [dataAddress]
    omega

/-- The record just made. -/
theorem getData_newest (held : Records build recorder origin records)
    (room : records.length < 2 ^ 64) (thisFn : UInt64) (dir : DirectionT) (reading : Reading) :
    getData (cygProfileFunc recorder thisFn dir reading).memory (dataAddress records.length) =
      .of origin dir thisFn reading := by
  rw [held.memory_cygProfileFunc room]
  apply ProfilerData.ext
  · simp only [getData, directionOffset, Nat.add_zero]
    rw [Memory.putWord_outside _ (by omega), Memory.write_single_ne _ (by omega),
      Memory.write_single]
    rfl
  · simp only [getData, hartidOffset]
    rw [Memory.putWord_outside _ (by omega), Memory.write_single]
    rfl
  · simp only [getData, nsecOffset]
    rw [Memory.getWord_putWord_of_disjoint _ (by omega), Memory.getWord_write_single _ (by omega),
      Memory.getWord_write_single _ (by omega), Memory.getWord_putWord]
    rfl
  · exact Memory.getWord_putWord _ _ _

/-- Recording appends one record. -/
theorem append (held : Records build recorder origin records) (room : records.length < 2 ^ 64)
    (thisFn : UInt64) (dir : DirectionT) (reading : Reading) :
    Records build (cygProfileFunc recorder thisFn dir reading) origin
      (records ++ [.of origin dir thisFn reading]) := by
  have base_le : 24 ≤ dataAddress records.length := Nat.le_add_right 24 _
  constructor
  · simp only [cygProfileFunc, held.mapped, if_true]
  · rw [held.frame_word room thisFn dir reading (by decide) (by decide), held.size]
  · rw [held.memory_cygProfileFunc room, List.length_append, List.length_singleton, idxOffset,
      Memory.getWord_putWord_of_disjoint _ (by omega), Memory.getWord_write_single _ (by omega),
      Memory.getWord_write_single _ (by omega), Memory.getWord_putWord_of_disjoint _ (by omega),
      Memory.getWord_putWord]
  · rw [held.frame_word room thisFn dir reading (by decide) (by decide), held.start]
  · intro index record entry
    rcases Nat.lt_or_ge index records.length with earlier | newest
    · rw [List.getElem?_append_left earlier] at entry
      rw [← held.data entry]
      apply getData_congr
      intro offset offset_lt
      apply held.frame room
      · simp only [dataAddress]
        omega
      · simp only [dataAddress]
        omega
    · have index_eq : index = records.length := by
        have inside := (List.getElem?_eq_some_iff.mp entry).1
        rw [List.length_append, List.length_singleton] at inside
        omega
      subst index_eq
      rw [List.getElem?_concat_length] at entry
      rw [← Option.some.inj entry, held.getData_newest room]

theorem hook (held : Records build recorder origin records) (room : records.length < 2 ^ 64)
    (hook : Hook) :
    Records build (recorder.hook hook) origin (records ++ [hook.data origin]) := by
  cases hook with
  | enter thisFn reading => exact held.append room thisFn .call reading
  | exit thisFn reading => exact held.append room thisFn .ret reading

/-- A run of hooks appends their records in order. -/
theorem hooks (held : Records build recorder origin records) (hooks : List Hook)
    (room : records.length + hooks.length ≤ 2 ^ 64) :
    Records build (hooks.foldl Recorder.hook recorder) origin
      (records ++ hooks.map (Hook.data origin)) := by
  induction hooks generalizing recorder records with
  | nil => simpa using held
  | cons hook hooks ih =>
      rw [List.length_cons] at room
      have first := held.hook (by omega) hook
      have rest := ih first (by rw [List.length_append, List.length_singleton]; omega)
      simpa using rest

end Records

/-- The recorder when `__profiler_map_info` has written the header. -/
def mapHeader (build : Build) (recorder : Recorder) (mapping : Reading) : Recorder where
  mapped := true
  memory := ((recorder.memory.putWord sizeOffset (.ofNat build.perfSize)).putWord
    idxOffset 0).putWord startOffset (teeRdtscp mapping).1

/-- The buffer is mapped before the START record is written. -/
theorem profilerMapInfo_eq (build : Build) (recorder : Recorder) (mapping starting : Reading) :
    profilerMapInfo build recorder mapping starting =
      cygProfileFunc (mapHeader build recorder mapping) imageBase .start starting := rfl

theorem mapHeader_records (build : Build) (recorder : Recorder) (mapping : Reading) :
    Records build (mapHeader build recorder mapping) mapping.cycles [] := by
  constructor
  · rfl
  · rw [mapHeader, Memory.getWord_putWord_of_disjoint _ (by decide),
      Memory.getWord_putWord_of_disjoint _ (by decide), Memory.getWord_putWord]
  · rw [mapHeader, Memory.getWord_putWord_of_disjoint _ (by decide), Memory.getWord_putWord]
    rfl
  · rw [mapHeader, Memory.getWord_putWord]
    rfl
  · intro index record entry
    exact nomatch entry

/-- Mapping starts the buffer with the record of the image base. -/
theorem profilerMapInfo_records (build : Build) (recorder : Recorder)
    (mapping starting : Reading) :
    Records build (profilerMapInfo build recorder mapping starting) mapping.cycles
      [.of mapping.cycles .start imageBase starting] := by
  rw [profilerMapInfo_eq]
  exact (mapHeader_records build recorder mapping).append (Nat.two_pow_pos 64) imageBase .start
    starting

/-- Without a mapped buffer the hooks do nothing. -/
theorem hooks_unmapped {recorder : Recorder} (unmapped : recorder.mapped = false)
    (hooks : List Hook) : hooks.foldl Recorder.hook recorder = recorder := by
  induction hooks with
  | nil => rfl
  | cons hook hooks ih =>
      have idle : recorder.hook hook = recorder := by
        cases hook <;> simp [Recorder.hook, cygProfileFunc, unmapped]
      rw [List.foldl_cons, idle, ih]

end Profiler
end TaRef
