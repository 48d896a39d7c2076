import TaRef.Random
import TaRef.Library.LittleEndian

/-!
# The seeded replacement of getrandom

With `SEED` the Keystone host takes its random bytes from `seed_random`, which stores one word at a
time and counts the length down by four.  The count is unsigned, so it passes zero when the length
is no multiple of four, and the loop never ends.
-/

namespace TaRef

/-- What `seed_random` leaves: its return value, the memory, and the addresses of the bytes that it
stored. -/
structure SeedRandom where
  retval : Int
  memory : Memory
  stored : List Nat

/-- `idx * ss` as an `ssize_t`. -/
def wrapSsize (value : Int) : Int := Int.bmod value (2 ^ 64)

/-- The loop of `seed_random` after `idx` rounds, or `none` when `fuel` tests of `buflen` have not
ended it; `random` has the values that `random()` returns after `srandom(SEED)`. -/
def seedRandomLoop (random : Stream' UInt32) (buf : Nat) :
    Nat → UInt64 → Nat → Memory → List Nat → Option SeedRandom
  | 0, _, _, _, _ => none
  | fuel + 1, buflen, idx, memory, stored =>
      if buflen = 0 then some { retval := wrapSsize (idx * 4), memory, stored }
      else
        let retval := random.get idx
        seedRandomLoop random buf fuel (buflen - 4) (idx + 1)
          (memory.write (buf + 4 * idx) (LittleEndian.encode 4 retval.toNat))
          (stored ++ List.range' (buf + 4 * idx) 4)

/-- `seed_random`, cut off after `fuel` tests of its loop. -/
def seedRandom (fuel : Nat) (random : Stream' UInt32) (memory : Memory) (buf : Nat)
    (buflen : UInt64) : Option SeedRandom :=
  seedRandomLoop random buf fuel buflen 0 memory []

/-- `seed_random` returns, the bytes that it stores are those of the buffer, each of them once, and
its result is their number. -/
def FillsBuffer (random : Stream' UInt32) (memory : Memory) (buf : Nat) (buflen : UInt64) : Prop :=
  ∃ fuel run, seedRandom fuel random memory buf buflen = some run ∧
    run.stored = List.range' buf buflen.toNat ∧
    (∀ location ∉ run.stored, run.memory location = memory location) ∧
    run.retval = buflen.toNat

section Loop

variable {random : Stream' UInt32} {buf : Nat}

/-- A round stores one word. -/
theorem seedRandomLoop_of_ne {buflen : UInt64} (rounds : buflen ≠ 0) (fuel idx : Nat)
    (memory : Memory) (stored : List Nat) :
    seedRandomLoop random buf (fuel + 1) buflen idx memory stored =
      seedRandomLoop random buf fuel (buflen - 4) (idx + 1)
        (memory.write (buf + 4 * idx) (LittleEndian.encode 4 (random.get idx).toNat))
        (stored ++ List.range' (buf + 4 * idx) 4) :=
  if_neg rounds

/-- At zero the loop ends. -/
theorem seedRandomLoop_zero (fuel idx : Nat) (memory : Memory) (stored : List Nat) :
    seedRandomLoop random buf (fuel + 1) 0 idx memory stored =
      some { retval := wrapSsize (idx * 4), memory, stored } :=
  if_pos rfl

theorem toNat_sub_four (buflen : UInt64) :
    (buflen - 4).toNat = (buflen.toNat + (2 ^ 64 - 4)) % 2 ^ 64 := by
  simp only [UInt64.toNat_sub, UInt64.reduceToNat]
  rw [Nat.add_comm]

/-- A count that is not zero yet and is a multiple of four does not pass zero. -/
theorem toNat_sub_four_of_multiple {buflen : UInt64} {rounds : Nat}
    (multiple : buflen.toNat = 4 * (rounds + 1)) : (buflen - 4).toNat = 4 * rounds := by
  have buflen_lt := buflen.toNat_lt
  rw [toNat_sub_four]
  omega

/-- From a length that is no multiple of four the count never comes to zero. -/
theorem seedRandomLoop_eq_none {buflen : UInt64} (uneven : buflen.toNat % 4 ≠ 0) (fuel idx : Nat)
    (memory : Memory) (stored : List Nat) :
    seedRandomLoop random buf fuel buflen idx memory stored = none := by
  induction fuel generalizing buflen idx memory stored with
  | zero => rfl
  | succ fuel ih =>
      have rounds : buflen ≠ 0 := by
        rintro rfl
        exact uneven rfl
      have uneven' : (buflen - 4).toNat % 4 ≠ 0 := by
        rw [toNat_sub_four]
        omega
      rw [seedRandomLoop_of_ne rounds, ih uneven']

theorem eq_zero_of_multiple {buflen : UInt64} (multiple : buflen.toNat = 4 * 0) : buflen = 0 :=
  UInt64.toNat_inj.mp (by simpa using multiple)

theorem ne_zero_of_multiple {buflen : UInt64} {rounds : Nat}
    (multiple : buflen.toNat = 4 * (rounds + 1)) : buflen ≠ 0 := by
  rintro rfl
  simp at multiple

/-- From four times a number the loop ends after that number of rounds. -/
theorem seedRandomLoop_returns (random : Stream' UInt32) (buf rounds : Nat) {buflen : UInt64}
    (multiple : buflen.toNat = 4 * rounds) (idx : Nat) (memory : Memory) (stored : List Nat) :
    ∃ run, seedRandomLoop random buf (rounds + 1) buflen idx memory stored = some run := by
  induction rounds generalizing buflen idx memory stored with
  | zero => exact ⟨_, if_pos (eq_zero_of_multiple multiple)⟩
  | succ rounds ih =>
      rw [seedRandomLoop_of_ne (ne_zero_of_multiple multiple)]
      exact ih (toNat_sub_four_of_multiple multiple) _ _ _

/-- A loop that ends has stored the words of its rounds one after another. -/
theorem seedRandomLoop_spec {rounds : Nat} {buflen : UInt64} (multiple : buflen.toNat = 4 * rounds)
    {fuel idx : Nat} {memory : Memory} {stored : List Nat} {run : SeedRandom}
    (returns : seedRandomLoop random buf fuel buflen idx memory stored = some run) :
    run.stored = stored ++ List.range' (buf + 4 * idx) (4 * rounds) ∧
      (∀ location, location < buf + 4 * idx ∨ buf + 4 * (idx + rounds) ≤ location →
        run.memory location = memory location) ∧
      run.retval = wrapSsize ((idx + rounds : Nat) * 4) := by
  induction rounds generalizing fuel buflen idx memory stored with
  | zero =>
      cases fuel with
      | zero => exact nomatch returns
      | succ fuel =>
          rw [eq_zero_of_multiple multiple, seedRandomLoop_zero, Option.some.injEq] at returns
          subst returns
          exact ⟨by simp, fun _ _ => rfl, by rw [Nat.add_zero]⟩
  | succ rounds ih =>
      cases fuel with
      | zero => exact nomatch returns
      | succ fuel =>
          rw [seedRandomLoop_of_ne (ne_zero_of_multiple multiple)] at returns
          obtain ⟨stored_eq, outside, retval_eq⟩ := ih (toNat_sub_four_of_multiple multiple) returns
          refine ⟨?_, ?_, ?_⟩
          · rw [stored_eq, List.append_assoc, Nat.mul_succ 4 rounds, Nat.add_comm (4 * rounds) 4,
              ← List.range'_append_1, Nat.mul_succ, Nat.add_assoc]
          · intro location off
            rw [outside location (by omega), Memory.write_outside]
            rw [LittleEndian.length_encode]
            omega
          · rw [retval_eq, Nat.add_assoc, Nat.add_comm 1 rounds]

end Loop

/-- The result of a finished run is the length exactly when an `ssize_t` can hold it. -/
theorem wrapSsize_eq_iff {buflen : Nat} (buflen_lt : buflen < 2 ^ 64) :
    wrapSsize buflen = buflen ↔ buflen < 2 ^ 63 := by
  rw [wrapSsize, Int.bmod]
  omega

/-- `seed_random` fills its buffer exactly when the length is a multiple of four that an `ssize_t`
can hold. -/
theorem seed_random_fills_iff (random : Stream' UInt32) (memory : Memory) (buf : Nat)
    (buflen : UInt64) :
    FillsBuffer random memory buf buflen ↔ 4 ∣ buflen.toNat ∧ buflen.toNat < 2 ^ 63 := by
  by_cases multiple : 4 ∣ buflen.toNat
  case neg =>
    have uneven : buflen.toNat % 4 ≠ 0 := fun zero => multiple (Nat.dvd_of_mod_eq_zero zero)
    constructor
    · rintro ⟨fuel, run, returns, -⟩
      rw [seedRandom, seedRandomLoop_eq_none uneven] at returns
      exact nomatch returns
    · rintro ⟨even, -⟩
      exact absurd even multiple
  case pos =>
    obtain ⟨rounds, buflen_eq⟩ := multiple
    have length_eq : ((0 + rounds : Nat) * 4 : Int) = (buflen.toNat : Int) := by
      rw [buflen_eq]
      push_cast
      ring
    constructor
    · rintro ⟨fuel, run, returns, -, -, retval_eq⟩
      obtain ⟨-, -, wrapped⟩ := seedRandomLoop_spec buflen_eq returns
      rw [length_eq, retval_eq] at wrapped
      exact ⟨⟨rounds, buflen_eq⟩, (wrapSsize_eq_iff buflen.toNat_lt).mp wrapped.symm⟩
    · rintro ⟨-, holds⟩
      obtain ⟨run, returns⟩ := seedRandomLoop_returns random buf rounds buflen_eq 0 memory []
      obtain ⟨stored_eq, outside, wrapped⟩ := seedRandomLoop_spec buflen_eq returns
      rw [← buflen_eq, List.nil_append, Nat.mul_zero, Nat.add_zero] at stored_eq
      refine ⟨rounds + 1, run, returns, stored_eq, ?_, ?_⟩
      · intro location not_stored
        apply outside
        rw [stored_eq, List.mem_range'_1] at not_stored
        omega
      · rw [wrapped, length_eq, (wrapSsize_eq_iff buflen.toNat_lt).mpr holds]

/-- With five bytes to fill, `seed_random` never returns. -/
theorem seed_random_hangs :
    (∀ fuel, seedRandom fuel (Stream'.const 7) (fun _ => 0) 4096 5 = none) ∧
      ¬ (∀ (random : Stream' UInt32) (memory : Memory) (buf : Nat) (buflen : UInt64),
        FillsBuffer random memory buf buflen) := by
  have hangs : ∀ fuel, seedRandom fuel (Stream'.const 7) (fun _ => 0) 4096 5 = none := fun fuel =>
    seedRandomLoop_eq_none (by decide) fuel _ _ _
  refine ⟨hangs, fun fills => ?_⟩
  obtain ⟨fuel, run, returns, -⟩ := fills (Stream'.const 7) (fun _ => 0) 4096 5
  rw [hangs fuel] at returns
  exact nomatch returns

end TaRef
