import TaRef.Storage.Run

/-!
# System time

`TEE_GetSystemTime` splits a 64-bit cycle counter into seconds of 32 bits and milliseconds.  So the
time that it reports is the counter modulo `timePeriod`, and it decreases exactly when the counter
passes a multiple of it and does not come as far behind it again.
-/

namespace TaRef

/-- `TEE_Time`. -/
structure TeeTime where
  seconds : UInt32
  millis : UInt32
  deriving DecidableEq, Repr

namespace TeeTime

/-- The lexicographic order of the fields. -/
instance : LE TeeTime where
  le earlier later :=
    earlier.seconds < later.seconds ∨
      earlier.seconds = later.seconds ∧ earlier.millis ≤ later.millis

theorem le_iff {earlier later : TeeTime} :
    earlier ≤ later ↔
      earlier.seconds < later.seconds ∨
        earlier.seconds = later.seconds ∧ earlier.millis ≤ later.millis :=
  Iff.rfl

instance : DecidableLE TeeTime := fun _ _ => decidable_of_iff' _ le_iff

/-- The milliseconds of a time. -/
def total (time : TeeTime) : Nat := 1000 * time.seconds.toNat + time.millis.toNat

theorem le_iff_total {earlier later : TeeTime} (earlier_lt : earlier.millis.toNat < 1000)
    (later_lt : later.millis.toNat < 1000) : earlier ≤ later ↔ earlier.total ≤ later.total := by
  rw [le_iff, UInt32.lt_iff_toNat_lt, UInt32.le_iff_toNat_le, ← UInt32.toNat_inj, total, total]
  omega

end TeeTime

/-! ## The function on both platforms -/

/-- The fields that both platforms compute from `cycles`. -/
def timeOfCycles (cycles : UInt64) : TeeTime where
  seconds := (cycles / 1000).toUInt32
  millis := (cycles % 1000).toUInt32

/-- `TEE_GetSystemTime` on Keystone, with what `rdcycle` gives. -/
def Keystone.teeGetSystemTime (cycles : UInt64) : TeeTime := timeOfCycles cycles

/-- `TEE_GetSystemTime` on SGX, with what `rdtsc` leaves in the registers. -/
def Sgx.teeGetSystemTime (eax edx : UInt32) : TeeTime :=
  timeOfCycles (edx.toUInt64 <<< 32 ||| eax.toUInt64)

/-- `TEE_GetSystemTime` at a value of the cycle counter; `rdtsc` splits it into halves. -/
def Platform.teeGetSystemTime (platform : Platform) (cycles : UInt64) : TeeTime :=
  match platform with
  | .keystone _ => Keystone.teeGetSystemTime cycles
  | .sgx .. => Sgx.teeGetSystemTime cycles.toUInt32 (cycles >>> 32).toUInt32

/-- Cycles after which `seconds` is zero again. -/
def timePeriod : Nat := 1000 * 2 ^ 32

/-- The halves of the counter make up the counter. -/
theorem join_halves (cycles : UInt64) :
    (cycles >>> 32).toUInt32.toUInt64 <<< 32 ||| cycles.toUInt32.toUInt64 = cycles := by
  have cycles_lt := cycles.toNat_lt
  have low_lt : cycles.toNat % 2 ^ 32 < 2 ^ 32 := Nat.mod_lt _ (by decide)
  apply UInt64.toNat_inj.mp
  have high_eq : ((cycles >>> 32).toUInt32.toUInt64 <<< 32).toNat =
      (cycles.toNat / 2 ^ 32) <<< 32 := by
    simp only [UInt64.toNat_shiftLeft, UInt32.toNat_toUInt64, UInt64.toNat_toUInt32,
      UInt64.toNat_shiftRight, UInt64.reduceToNat, Nat.shiftRight_eq_div_pow,
      Nat.shiftLeft_eq, Nat.reduceMod]
    omega
  rw [UInt64.toNat_or, high_eq, UInt32.toNat_toUInt64, UInt64.toNat_toUInt32,
    ← Nat.shiftLeft_add_eq_or_of_lt low_lt, Nat.shiftLeft_eq]
  exact Nat.div_add_mod' _ _

theorem Platform.teeGetSystemTime_eq (platform : Platform) (cycles : UInt64) :
    platform.teeGetSystemTime cycles = timeOfCycles cycles := by
  cases platform with
  | keystone attestEnclave => rfl
  | sgx reportKey sealKey sha3 => exact congrArg timeOfCycles (join_halves cycles)

theorem toNat_millis (cycles : UInt64) :
    (timeOfCycles cycles).millis.toNat = cycles.toNat % 1000 := by
  simp only [timeOfCycles, UInt64.toNat_toUInt32, UInt64.toNat_mod, UInt64.reduceToNat]
  omega

/-- The time is the counter modulo `timePeriod`. -/
theorem total_timeOfCycles (cycles : UInt64) :
    (timeOfCycles cycles).total = cycles.toNat % timePeriod := by
  rw [TeeTime.total, toNat_millis, timePeriod, Nat.mod_mul]
  simp only [timeOfCycles, UInt64.toNat_toUInt32, UInt64.toNat_div, UInt64.reduceToNat]
  exact Nat.add_comm _ _

theorem timeOfCycles_le_iff (earlier later : UInt64) :
    timeOfCycles earlier ≤ timeOfCycles later ↔
      earlier.toNat % timePeriod ≤ later.toNat % timePeriod := by
  have millis_lt : ∀ cycles, (timeOfCycles cycles).millis.toNat < 1000 := fun cycles => by
    rw [toNat_millis]
    exact Nat.mod_lt _ (by decide)
  rw [TeeTime.le_iff_total (millis_lt earlier) (millis_lt later), total_timeOfCycles,
    total_timeOfCycles]

/-! ## Where time goes on -/

theorem timeOfCycles_le_of_same_period {earlier later : UInt64} (le : earlier ≤ later)
    (same : earlier.toNat / timePeriod = later.toNat / timePeriod) :
    timeOfCycles earlier ≤ timeOfCycles later := by
  have counted := Nat.div_add_mod earlier.toNat timePeriod
  have counted' := Nat.div_add_mod later.toNat timePeriod
  have le_nat := UInt64.le_iff_toNat_le.mp le
  rw [same] at counted
  rw [timeOfCycles_le_iff]
  omega

/-- Between two readings of the counter the time does not decrease exactly when the second one comes
at least as far behind a multiple of `timePeriod` as the first. -/
theorem systemTime_le_iff (platform : Platform) (earlier later : UInt64) :
    platform.teeGetSystemTime earlier ≤ platform.teeGetSystemTime later ↔
      earlier.toNat % timePeriod ≤ later.toNat % timePeriod := by
  rw [platform.teeGetSystemTime_eq, platform.teeGetSystemTime_eq, timeOfCycles_le_iff]

/-- Where a multiple of `timePeriod` lies between two values of the counter, the time decreases
between the last reading before the multiple and the multiple itself. -/
theorem exists_decrease {first last : UInt64} (le : first ≤ last)
    (different : first.toNat / timePeriod ≠ last.toNat / timePeriod) :
    ∃ earlier later : UInt64, first ≤ earlier ∧ earlier ≤ later ∧ later ≤ last ∧
      ¬ timeOfCycles earlier ≤ timeOfCycles later := by
  have le_nat := UInt64.le_iff_toNat_le.mp le
  have last_lt := last.toNat_lt
  have multiple_le : (first.toNat / timePeriod + 1) * timePeriod ≤ last.toNat := by
    have grows := Nat.div_le_div_right (c := timePeriod) le_nat
    exact (Nat.le_div_iff_mul_le (by decide)).mp (by omega)
  have before_lt : first.toNat < (first.toNat / timePeriod + 1) * timePeriod := by
    rw [Nat.mul_comm]
    exact Nat.lt_mul_div_succ _ (by decide)
  have multiple_lt : (first.toNat / timePeriod + 1) * timePeriod < 2 ^ 64 := by omega
  have before_toNat := UInt64.toNat_ofNat_of_lt'
    (show (first.toNat / timePeriod + 1) * timePeriod - 1 < 2 ^ 64 by omega)
  have multiple_toNat := UInt64.toNat_ofNat_of_lt' multiple_lt
  refine ⟨.ofNat ((first.toNat / timePeriod + 1) * timePeriod - 1),
    .ofNat ((first.toNat / timePeriod + 1) * timePeriod), ?_, ?_, ?_, fun ordered => ?_⟩
  · rw [UInt64.le_iff_toNat_le, before_toNat]
    omega
  · rw [UInt64.le_iff_toNat_le, before_toNat, multiple_toNat]
    omega
  · rw [UInt64.le_iff_toNat_le, multiple_toNat]
    exact multiple_le
  · rw [timeOfCycles_le_iff, before_toNat, multiple_toNat, Nat.mul_mod_left] at ordered
    simp only [timePeriod] at ordered
    omega

/-- A trusted application whose readings lie between two values of the counter sees time go on
exactly when no multiple of `timePeriod` lies between them. -/
theorem systemTime_monotone_iff (platform : Platform) {first last : UInt64} (le : first ≤ last) :
    (∀ earlier later : UInt64, first ≤ earlier → earlier ≤ later → later ≤ last →
        platform.teeGetSystemTime earlier ≤ platform.teeGetSystemTime later) ↔
      first.toNat / timePeriod = last.toNat / timePeriod := by
  simp only [platform.teeGetSystemTime_eq]
  constructor
  · intro monotone
    by_contra different
    obtain ⟨earlier, later, first_le, earlier_le, later_le, decreases⟩ :=
      exists_decrease le different
    exact decreases (monotone earlier later first_le earlier_le later_le)
  · intro same earlier later first_le earlier_le later_le
    have first_div := Nat.div_le_div_right (c := timePeriod) (UInt64.le_iff_toNat_le.mp first_le)
    have later_div := Nat.div_le_div_right (c := timePeriod) (UInt64.le_iff_toNat_le.mp later_le)
    have between := Nat.div_le_div_right (c := timePeriod) (UInt64.le_iff_toNat_le.mp earlier_le)
    exact timeOfCycles_le_of_same_period earlier_le (by omega)

/-- At a multiple of `timePeriod` the time is zero again. -/
theorem systemTime_decreases :
    (4294967295999 : UInt64) ≤ 4294967296000 ∧
      ¬ Keystone.teeGetSystemTime 4294967295999 ≤ Keystone.teeGetSystemTime 4294967296000 ∧
      ¬ (∀ (platform : Platform) (earlier later : UInt64), earlier ≤ later →
        platform.teeGetSystemTime earlier ≤ platform.teeGetSystemTime later) := by
  have decreases :
      ¬ Keystone.teeGetSystemTime 4294967295999 ≤ Keystone.teeGetSystemTime 4294967296000 := by
    decide
  exact ⟨by decide, decreases, fun monotone =>
    decreases (monotone (.keystone fun message => message) _ _ (by decide))⟩

end TaRef
