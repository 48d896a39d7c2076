import Mathlib

/-!
# Numerals

A number is written with the characters of its digits, the highest first.  A numeral of the lowest
digits of a number denotes the number up to a power of the base, and it loses its first character
with the highest of them.
-/

namespace TaRef

/-- Characters that stand for the digits of a base. -/
structure Alphabet (α : Type*) (base : ℕ) where
  char : ℕ → α
  digit : α → Option ℕ
  digit_char : ∀ d < base, digit (char d) = some d

namespace Alphabet

variable {α : Type*} {base : ℕ} (alphabet : Alphabet α base)

/-- The numeral of the `count` lowest digits of a number. -/
def numeral (value : ℕ) : ℕ → List α
  | 0 => []
  | count + 1 => alphabet.char (value / base ^ count % base) :: numeral value count

/-- The number that characters make of the digits before them. -/
def readFrom (value : ℕ) : List α → Option ℕ
  | [] => some value
  | character :: text => do readFrom (value * base + (← alphabet.digit character)) text

/-- The number that a text denotes; without a digit it denotes none. -/
def read (text : List α) : Option ℕ :=
  if text = [] then none else alphabet.readFrom 0 text

variable {alphabet} {value count : ℕ}

@[simp]
theorem length_numeral : (alphabet.numeral value count).length = count := by
  induction count with
  | zero => rfl
  | succ count ih => rw [numeral, List.length_cons, ih]

@[simp]
theorem tail_numeral :
    (alphabet.numeral value count).tail = alphabet.numeral value (count - 1) := by
  cases count <;> rfl

/-- Zeros before all the digits of a number. -/
theorem zeros_append_numeral (base_pos : 0 < base) (whole : value < base ^ count) (more : ℕ) :
    List.replicate more (alphabet.char 0) ++ alphabet.numeral value count =
      alphabet.numeral value (more + count) := by
  induction more with
  | zero => simp
  | succ more ih =>
      have high : value / base ^ (more + count) = 0 :=
        Nat.div_eq_of_lt (whole.trans_le (Nat.pow_le_pow_right base_pos (Nat.le_add_left _ _)))
      rw [List.replicate_succ, List.cons_append, ih, Nat.add_right_comm, numeral, high,
        Nat.zero_mod]

theorem readFrom_numeral (base_pos : 0 < base) (before : ℕ) :
    alphabet.readFrom before (alphabet.numeral value count) =
      some (before * base ^ count + value % base ^ count) := by
  induction count generalizing before with
  | zero => simp [numeral, readFrom, Nat.mod_one]
  | succ count ih =>
      rw [numeral, readFrom, alphabet.digit_char _ (Nat.mod_lt _ base_pos)]
      simp only [bind, Option.bind, ih]
      rw [Nat.mod_pow_succ, pow_succ]
      congr 1
      ring

/-- A zero before the lowest digits of a number. -/
theorem read_zero_numeral (base_pos : 0 < base) :
    alphabet.read (alphabet.char 0 :: alphabet.numeral value count) =
      some (value % base ^ count) := by
  rw [read, if_neg (List.cons_ne_nil _ _), readFrom, alphabet.digit_char 0 base_pos]
  simp only [bind, Option.bind]
  rw [readFrom_numeral base_pos, Nat.zero_mul, Nat.zero_mul, Nat.zero_add]

/-- What is read from the lowest digits of a number. -/
theorem read_numeral (base_pos : 0 < base) (positive : 0 < count) :
    alphabet.read (alphabet.numeral value count) = some (value % base ^ count) := by
  rw [read, if_neg, readFrom_numeral base_pos, Nat.zero_mul, Nat.zero_add]
  rw [← List.length_eq_zero_iff, length_numeral]
  exact positive.ne'

/-- Reading goes by the digits that the characters stand for. -/
theorem read_congr {other : Alphabet α base} (same : alphabet.digit = other.digit) (text : List α) :
    alphabet.read text = other.read text := by
  have readFrom_congr (before : ℕ) :
      alphabet.readFrom before text = other.readFrom before text := by
    induction text generalizing before with
    | nil => rfl
    | cons character text ih =>
        rw [readFrom, readFrom, same]
        cases other.digit character with
        | none => rfl
        | some digit => exact ih _
  rw [read, read, readFrom_congr]

/-- A numeral has digits only. -/
theorem isSome_digit_of_mem (base_pos : 0 < base) {character : α}
    (member : character ∈ alphabet.numeral value count) : (alphabet.digit character).isSome := by
  induction count with
  | zero => cases member
  | succ count ih =>
      rcases List.mem_cons.mp member with rfl | member
      · rw [alphabet.digit_char _ (Nat.mod_lt _ base_pos)]
        rfl
      · exact ih member

/-- A text with a character that is no digit denotes nothing. -/
theorem readFrom_of_not_digit {text : List α} {character : α} (member : character ∈ text)
    (other : alphabet.digit character = none) (before : ℕ) :
    alphabet.readFrom before text = none := by
  induction text generalizing before with
  | nil => cases member
  | cons first text ih =>
      rw [readFrom]
      rcases List.mem_cons.mp member with rfl | member
      · rw [other]
        rfl
      · cases alphabet.digit first with
        | none => rfl
        | some digit => exact ih member _

theorem read_of_not_digit {text : List α} {character : α} (member : character ∈ text)
    (other : alphabet.digit character = none) : alphabet.read text = none := by
  rw [read, if_neg (List.ne_nil_of_mem member), readFrom_of_not_digit member other]

end Alphabet

end TaRef
