import TaRef.Profiler.Recorder

/-!
# The end of the buffer

The hooks compare `idx` with nothing.  So a run stays in its buffer exactly while it makes no more
records than the buffer holds, and the record of the hook after that lies behind the buffer.
-/

namespace TaRef
namespace Profiler

/-- Number of records that the buffer holds behind its header. -/
def Build.capacity (build : Build) : Nat := (build.perfSize - 24) / 24

namespace Recorder

/-- The field `idx` of the header. -/
def idx (recorder : Recorder) : Nat := (recorder.memory.getWord idxOffset).toNat

/-- Address of the record that `__cyg_profile_func` writes, if it writes one. -/
def target (recorder : Recorder) : List Nat :=
  if recorder.mapped then [(profilerGetDataPtr recorder.memory).1] else []

/-- Addresses of the records that some hooks write. -/
def targets (recorder : Recorder) : List Hook → List Nat
  | [] => []
  | hook :: hooks => recorder.target ++ (recorder.hook hook).targets hooks

/-- The states before, between and after some hooks. -/
def states (recorder : Recorder) : List Hook → List Recorder
  | [] => [recorder]
  | hook :: hooks => recorder :: (recorder.hook hook).states hooks

theorem foldl_mem_states (recorder : Recorder) (left right : List Hook) :
    left.foldl hook recorder ∈ recorder.states (left ++ right) := by
  induction left generalizing recorder with
  | nil => cases right <;> simp [states]
  | cons hook left ih => exact List.mem_cons_of_mem _ (ih (recorder.hook hook))

end Recorder

/-- A run from `__profiler_map_info` on writes its records inside the buffer, and `idx` counts no
more records than the buffer holds. -/
structure RecordsInside (build : Build) (recorder : Recorder) (mapping starting : Reading)
    (hooks : List Hook) : Prop where
  start_inside : ∀ address ∈ (mapHeader build recorder mapping).target,
    address + 24 ≤ build.perfSize
  hooks_inside : ∀ address ∈ (profilerMapInfo build recorder mapping starting).targets hooks,
    address + 24 ≤ build.perfSize
  idx_le : ∀ state ∈ (profilerMapInfo build recorder mapping starting).states hooks,
    state.idx ≤ build.capacity

/-- Records up to the capacity lie inside the buffer. -/
theorem dataAddress_le_of_lt_capacity {build : Build} {index : Nat}
    (index_lt : index < build.capacity) : dataAddress index + 24 ≤ build.perfSize := by
  simp only [Build.capacity, dataAddress] at *
  omega

theorem capacity_lt (build : Build) : build.capacity < 2 ^ 64 - 1 := by
  have perfSize_lt := build.perfSize_lt
  simp only [Build.capacity]
  omega

namespace Records

variable {build : Build} {recorder : Recorder} {origin : UInt64} {records : List ProfilerData}

theorem idx_eq (held : Records build recorder origin records) (room : records.length < 2 ^ 64) :
    recorder.idx = records.length := by
  rw [Recorder.idx, held.idx, UInt64.toNat_ofNat', Nat.mod_eq_of_lt room]

theorem target_eq (held : Records build recorder origin records)
    (room : records.length < 2 ^ 64) : recorder.target = [dataAddress records.length] := by
  rw [Recorder.target, if_pos held.mapped, profilerGetDataPtr, ← held.idx_eq room]
  rfl

/-- While the buffer holds all records, each hook writes inside it. -/
theorem hooks_inside (held : Records build recorder origin records) (hooks : List Hook)
    (room : records.length + hooks.length ≤ build.capacity) :
    (∀ address ∈ recorder.targets hooks, address + 24 ≤ build.perfSize) ∧
      ∀ state ∈ recorder.states hooks, state.idx ≤ build.capacity := by
  have capacity_lt := capacity_lt build
  induction hooks generalizing recorder records with
  | nil =>
      refine ⟨fun address member => absurd member List.not_mem_nil, fun state member => ?_⟩
      rw [List.mem_singleton.mp member, held.idx_eq (by omega)]
      exact room
  | cons hook hooks ih =>
      rw [List.length_cons] at room
      obtain ⟨targets_inside, states_inside⟩ := ih (held.hook (by omega) hook)
        (by rw [List.length_append, List.length_singleton]; omega)
      constructor
      · intro address member
        rw [Recorder.targets, held.target_eq (by omega), List.singleton_append] at member
        rcases List.mem_cons.mp member with rfl | later
        · exact dataAddress_le_of_lt_capacity (by omega)
        · exact targets_inside address later
      · intro state member
        rcases List.mem_cons.mp member with rfl | later
        · rw [held.idx_eq (by omega)]
          omega
        · exact states_inside state later

/-- After as many hooks as the buffer has room for records, one more than it holds are counted. -/
theorem exists_idx_gt (held : Records build recorder origin records) (hooks : List Hook)
    (counted : records.length ≤ build.capacity + 1)
    (full : build.capacity < records.length + hooks.length) :
    ∃ state ∈ recorder.states hooks, build.capacity < state.idx := by
  have capacity_lt := capacity_lt build
  let early := hooks.take (build.capacity + 1 - records.length)
  have early_length : early.length = build.capacity + 1 - records.length := by
    rw [List.length_take]
    omega
  have reached := held.hooks early (by omega)
  have length_eq : (records ++ early.map (Hook.data origin)).length = build.capacity + 1 := by
    rw [List.length_append, List.length_map]
    omega
  refine ⟨early.foldl Recorder.hook recorder, ?_, ?_⟩
  · have member :=
      recorder.foldl_mem_states early (hooks.drop (build.capacity + 1 - records.length))
    rwa [List.take_append_drop] at member
  · rw [reached.idx_eq (by omega), length_eq]
    exact Nat.lt_succ_self _

end Records

/-- A run with as many hooks as the buffer has room for records counts too many of them. -/
theorem not_recordsInside {build : Build} (recorder : Recorder) (mapping starting : Reading)
    {hooks : List Hook} (full : build.capacity ≤ hooks.length) :
    ¬ RecordsInside build recorder mapping starting hooks := by
  rintro ⟨-, -, idx_le⟩
  obtain ⟨state, member, counted⟩ :=
    (profilerMapInfo_records build recorder mapping starting).exists_idx_gt hooks
      (by rw [List.length_singleton]; omega) (by rw [List.length_singleton]; omega)
  exact Nat.not_le.mpr counted (idx_le state member)

/-- The records of a run lie inside the buffer exactly when the buffer has room for the first
record and one for each hook. -/
theorem records_inside_iff (build : Build) (recorder : Recorder) (mapping starting : Reading)
    (hooks : List Hook) :
    RecordsInside build recorder mapping starting hooks ↔ hooks.length + 1 ≤ build.capacity := by
  constructor
  · intro inside
    by_contra too_many
    exact not_recordsInside recorder mapping starting (by omega) inside
  · intro room
    obtain ⟨targets_inside, states_inside⟩ :=
      (profilerMapInfo_records build recorder mapping starting).hooks_inside hooks
        (by rw [List.length_singleton]; omega)
    refine ⟨fun address member => ?_, targets_inside, states_inside⟩
    rw [(mapHeader_records build recorder mapping).target_eq (Nat.two_pow_pos 64),
      List.mem_singleton] at member
    rw [member]
    exact dataAddress_le_of_lt_capacity (by simp only [List.length_nil]; omega)

/-- The build with the default macros. -/
def defaultBuild : Build where
  perfSize := 8192
  logFile := [47, 114, 111, 111, 116]
  perfSize_lt := by decide

/-- The default buffer holds 340 records: the first one and those of 339 hooks. -/
theorem default_buffer_overflows :
    ¬ RecordsInside defaultBuild { mapped := false, memory := fun _ => 0 } ⟨0, 0⟩ ⟨0, 0⟩
      (List.replicate 340 (.enter 0 ⟨0, 0⟩)) := by
  have capacity_eq : defaultBuild.capacity = 340 := by decide
  exact not_recordsInside _ _ _ (by rw [capacity_eq, List.length_replicate])

end Profiler
end TaRef
