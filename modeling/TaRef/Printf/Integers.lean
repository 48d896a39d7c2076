import TaRef.Library.Numeral
import TaRef.Printf.Format

/-!
# Integers

The buffer of a number holds its lowest digits, with zeros up to the precision or the width.  To
make room for a sign or a prefix the formatter takes characters back, which may be digits of the
number.  So what it prints denotes the number up to a power of the base, and the number itself
exactly when enough digits are kept.
-/

namespace TaRef
namespace Printf

namespace NumberBuffer

variable {buf : NumberBuffer}

@[simp]
theorem push_chars (character : UInt8) (room : buf.len < bufferSize) :
    (buf.push character room).chars = character :: buf.chars := rfl

@[simp]
theorem push_len (character : UInt8) (room : buf.len < bufferSize) :
    (buf.push character room).len = buf.len + 1 := rfl

@[simp]
theorem pop_chars : buf.pop.chars = buf.chars.tail := rfl

@[simp]
theorem pop_len : buf.pop.len = buf.len - 1 := List.length_tail

theorem fill_chars (character : UInt8) (bound : Nat) :
    (buf.fill character bound).chars =
      List.replicate (min bound bufferSize - buf.len) character ++ buf.chars := rfl

end NumberBuffer

/-! ## Digits -/

/-- The digit that a character stands for. -/
def digitOf (ch : UInt8) : Option Nat :=
  if ascii '0' ≤ ch ∧ ch ≤ ascii '9' then some (ch.toNat - 48)
  else if ascii 'a' ≤ ch ∧ ch ≤ ascii 'f' then some (ch.toNat - 87)
  else if ascii 'A' ≤ ch ∧ ch ≤ ascii 'F' then some (ch.toNat - 55)
  else none

theorem digitOf_digitChar (uppercase : Bool) :
    ∀ digit < 16, digitOf (digitChar uppercase digit) = some digit := by
  cases uppercase <;> decide

/-- The digits of a base up to 16. -/
def digitAlphabet (uppercase : Bool) (base : Nat) (base_le : base ≤ 16) : Alphabet UInt8 base where
  char := digitChar uppercase
  digit ch := (digitOf ch).filter (· < base)
  digit_char digit digit_lt := by
    rw [digitOf_digitChar uppercase digit (digit_lt.trans_le base_le)]
    simp [digit_lt]

theorem digitAlphabet_zero (uppercase : Bool) {base : Nat} (base_le : base ≤ 16) :
    (digitAlphabet uppercase base base_le).char 0 = ascii '0' := rfl

section Buffer

variable {uppercase : Bool} {base : Nat} {base_le : base ≤ 16} {value count : Nat}
  {buf : NumberBuffer}

/-- The number of digits that the loop of `_ntoa_long` stores for a value. -/
def storedDigits (base value : Nat) (precision : Bool) : Nat :=
  if value = 0 ∧ precision then 0 else min bufferSize (Nat.log base value + 1)

variable (uppercase base_le) in
/-- The loop goes on with the digits that the buffer lacks. -/
theorem ntoaDigits_chars (base_gt : 1 < base) {rounds rest : Nat}
    (rounds_eq : buf.len + rounds = bufferSize) (rest_eq : rest = value / base ^ buf.len)
    (chars : buf.chars = (digitAlphabet uppercase base base_le).numeral value buf.len) :
    (ntoaDigits uppercase base rounds rest buf).chars =
      (digitAlphabet uppercase base base_le).numeral value
        (min bufferSize (buf.len + (Nat.log base rest + 1))) := by
  induction rounds generalizing rest buf with
  | zero =>
      rw [ntoaDigits, min_eq_left (by omega), chars]
      congr 1
  | succ rounds ih =>
      have room : buf.len < bufferSize := by omega
      rw [ntoaDigits, dif_pos room]
      set pushed := buf.push (digitChar uppercase (rest % base)) room with pushed_eq
      have pushed_len : pushed.len = buf.len + 1 := rfl
      have pushed_chars : pushed.chars =
          (digitAlphabet uppercase base base_le).numeral value pushed.len := by
        rw [pushed_len, Alphabet.numeral, ← chars, ← rest_eq]
        rfl
      dsimp only
      split_ifs with more
      · have next : rest / base = value / base ^ pushed.len := by
          rw [pushed_len, pow_succ, ← Nat.div_div_eq_div_mul, rest_eq]
        have rest_ge : base ≤ rest := by
          by_contra below
          exact more (Nat.div_eq_of_lt (Nat.lt_of_not_le below))
        rw [ih (by omega) next pushed_chars, pushed_len, Nat.log_of_one_lt_of_le base_gt rest_ge]
        congr 2
        omega
      · have rest_lt : rest < base := by
          by_contra above
          exact more (Nat.div_pos (Nat.le_of_not_lt above) (by omega)).ne'
        rw [pushed_chars, pushed_len, Nat.log_of_lt rest_lt, min_eq_right (by omega)]

/-- The buffer holds the `count` lowest digits of a value, and where it has room all of them. -/
structure Holds (uppercase : Bool) (base : Nat) (base_le : base ≤ 16) (value count : Nat)
    (buf : NumberBuffer) : Prop where
  chars : buf.chars = (digitAlphabet uppercase base base_le).numeral value count
  complete : count < bufferSize → value < base ^ count

theorem Holds.len_eq (holds : Holds uppercase base base_le value count buf) : buf.len = count := by
  rw [NumberBuffer.len, holds.chars, Alphabet.length_numeral]

variable (uppercase base_le value) in
/-- The buffer behind the loop that stores the digits. -/
theorem holds_digits (base_gt : 1 < base) (precision : Bool) :
    Holds uppercase base base_le value (storedDigits base value precision)
      (if !precision ∨ value ≠ 0 then ntoaDigits uppercase base bufferSize value .empty
        else .empty) := by
  rw [storedDigits]
  by_cases skipped : value = 0 ∧ precision
  case pos =>
    rw [if_pos skipped, if_neg (by simp [skipped])]
    exact ⟨rfl, fun _ => by simp [skipped.1]⟩
  case neg =>
    have taken : (!precision) = true ∨ value ≠ 0 := by
      by_contra none
      rw [not_or, not_not, Bool.not_eq_true, Bool.not_eq_false'] at none
      exact skipped ⟨none.2, none.1⟩
    have whole : value = value / base ^ NumberBuffer.empty.len := (Nat.div_one value).symm
    have stored := ntoaDigits_chars uppercase base_le base_gt
      (rfl : NumberBuffer.empty.len + bufferSize = bufferSize) whole rfl
    rw [NumberBuffer.len, NumberBuffer.empty, List.length_nil, Nat.zero_add] at stored
    rw [if_neg skipped, if_pos taken]
    refine ⟨stored, fun room => ?_⟩
    rw [min_eq_right (by omega)]
    exact Nat.lt_pow_succ_log_self base_gt value

/-- Zeros in front of the digits. -/
theorem Holds.fill (holds : Holds uppercase base base_le value count buf) (base_pos : 0 < base)
    (bound : Nat) :
    Holds uppercase base base_le value (max count (min bound bufferSize))
      (buf.fill (ascii '0') bound) := by
  have len_le : count ≤ bufferSize := holds.len_eq ▸ buf.length_le
  by_cases full : count < bufferSize
  case pos =>
    constructor
    · rw [NumberBuffer.fill_chars, holds.len_eq, holds.chars, ← digitAlphabet_zero uppercase base_le,
        Alphabet.zeros_append_numeral base_pos (holds.complete full)]
      congr 1
      omega
    · intro _
      exact (holds.complete full).trans_le (Nat.pow_le_pow_right base_pos (le_max_left _ _))
  case neg =>
    constructor
    · rw [NumberBuffer.fill_chars, holds.len_eq, holds.chars, Nat.sub_eq_zero_of_le (by omega),
        List.replicate_zero, List.nil_append, max_eq_left (by omega)]
    · intro room
      omega

end Buffer

/-! ## What is printed -/

/-- The number of digits in the buffer before any is taken back. -/
def paddedDigits (base value : Nat) (prec width : UInt32) (flags : Flags) : Nat :=
  let stored := storedDigits base value flags.precision
  let padded := if !flags.left then max stored (min prec.toNat bufferSize) else stored
  if !flags.left ∧ flags.zeropad then max padded (min width.toNat bufferSize) else padded

/-- The number of digits that are printed. -/
def keptDigits (base : Nat) (value : Int) (prec width : UInt32) (flags : Flags) : Nat :=
  let padded := paddedDigits base value.natAbs prec width flags
  if flags.hash ∧ value ≠ 0 then
    if !flags.precision ∧ padded ≠ 0 ∧ (padded = prec.toNat ∨ padded = width.toNat) then
      if padded - 1 ≠ 0 ∧ base = 16 then padded - 1 - 1 else padded - 1
    else padded
  else if (padded ≠ 0 ∧ padded = width.toNat) ∧ (value < 0 ∨ flags.plus ∨ flags.space) then
    padded - 1
  else padded

/-- The sign that is printed before some digits. -/
def signText (value : Int) (flags : Flags) (kept : Nat) : Bytes :=
  if kept < bufferSize then
    if value < 0 then [ascii '-']
    else if flags.plus then [ascii '+']
    else if flags.space then [ascii ' ']
    else []
  else []

/-- The letter of the prefix for a base. -/
def prefixLetter (base : Nat) (uppercase : Bool) : Bytes :=
  if base = 16 then [ascii (if uppercase then 'X' else 'x')]
  else if base = 2 then [ascii 'b']
  else []

/-- The prefix that is printed before some digits. -/
def prefixText (base : Nat) (uppercase : Bool) (kept : Nat) : Bytes :=
  let letter := prefixLetter base uppercase
  if kept < bufferSize then
    if kept + letter.length < bufferSize then ascii '0' :: letter else letter
  else []

section Printed

variable {uppercase : Bool} {base : Nat} {base_le : base ≤ 16} {value count : Nat}
  {buf : NumberBuffer}

/-- The buffer of an integer before a prefix and a sign. -/
def paddedBuffer (base value : Nat) (prec width : UInt32) (flags : Flags) : NumberBuffer :=
  let buf :=
    if !flags.precision ∨ value ≠ 0 then
      ntoaDigits flags.uppercase base bufferSize value .empty
    else .empty
  let buf := if !flags.left then buf.fill (ascii '0') prec.toNat else buf
  if !flags.left ∧ flags.zeropad then buf.fill (ascii '0') width.toNat else buf

variable (base_le value) in
theorem holds_padded (base_gt : 1 < base) (prec width : UInt32) (flags : Flags) :
    Holds flags.uppercase base base_le value (paddedDigits base value prec width flags)
      (paddedBuffer base value prec width flags) := by
  have digits := holds_digits flags.uppercase base_le value base_gt flags.precision
  have base_pos : 0 < base := by omega
  rw [paddedDigits, paddedBuffer]
  cases left_eq : flags.left with
  | true => simpa [left_eq] using digits
  | false =>
      cases zeropad_eq : flags.zeropad with
      | true => simpa [left_eq, zeropad_eq] using (digits.fill base_pos prec.toNat).fill base_pos _
      | false => simpa [left_eq, zeropad_eq] using digits.fill base_pos prec.toNat

/-- A sign in front of the digits. -/
theorem signPrefix_chars {value : Int} {flags : Flags} {shortened : Bool} {count : Nat}
    (chars : buf.chars =
      (digitAlphabet uppercase base base_le).numeral value.natAbs count) :
    let kept := if shortened ∧ (value < 0 ∨ flags.plus ∨ flags.space) then count - 1 else count
    (signPrefix buf (value < 0) shortened flags).chars =
      signText value flags kept ++ (digitAlphabet uppercase base base_le).numeral value.natAbs kept := by
  intro kept
  set shorter := if shortened = true ∧ (decide (value < 0) = true ∨ flags.plus = true ∨
    flags.space = true) then buf.pop else buf with shorter_eq
  have shorter_chars : shorter.chars =
      (digitAlphabet uppercase base base_le).numeral value.natAbs kept := by
    by_cases popped : shortened = true ∧ (value < 0 ∨ flags.plus = true ∨ flags.space = true)
    · have kept_eq : kept = count - 1 := if_pos popped
      rw [shorter_eq, if_pos (by simpa using popped), kept_eq, NumberBuffer.pop_chars, chars,
        Alphabet.tail_numeral]
    · have kept_eq : kept = count := if_neg popped
      rw [shorter_eq, if_neg (by simpa using popped), kept_eq, chars]
  have shorter_len : shorter.len = kept := by
    rw [NumberBuffer.len, shorter_chars, Alphabet.length_numeral]
  rw [signPrefix, signText, ← shorter_eq, ← shorter_chars, ← shorter_len]
  simp only [decide_eq_true_eq]
  split_ifs <;> rfl

/-- The buffer of `_ntoa_format` with the letter of the prefix. -/
def pushLetter (buf : NumberBuffer) (base : Nat) (flags : Flags) : NumberBuffer :=
  if room : base = 16 ∧ !flags.uppercase ∧ buf.len < bufferSize then buf.push (ascii 'x') room.2.2
  else if room : base = 16 ∧ flags.uppercase ∧ buf.len < bufferSize then
    buf.push (ascii 'X') room.2.2
  else if room : base = 2 ∧ buf.len < bufferSize then buf.push (ascii 'b') room.2
  else buf

theorem pushLetter_chars (buf : NumberBuffer) (base : Nat) (flags : Flags) :
    (pushLetter buf base flags).chars =
      (if buf.len < bufferSize then prefixLetter base flags.uppercase else []) ++ buf.chars := by
  by_cases room : buf.len < bufferSize <;> by_cases hexadecimal : base = 16 <;>
    by_cases binary : base = 2 <;> cases uppercase : flags.uppercase <;>
    simp [pushLetter, prefixLetter, room, hexadecimal, binary, uppercase]

/-- A prefix in front of the digits. -/
theorem hashPrefix_chars {prec width : UInt32} {flags : Flags}
    (chars : buf.chars = (digitAlphabet uppercase base base_le).numeral value count) :
    let kept :=
      if !flags.precision ∧ count ≠ 0 ∧ (count = prec.toNat ∨ count = width.toNat) then
        if count - 1 ≠ 0 ∧ base = 16 then count - 1 - 1 else count - 1
      else count
    (hashPrefix buf base prec width flags).chars =
      prefixText base flags.uppercase kept ++
        (digitAlphabet uppercase base base_le).numeral value kept := by
  intro kept
  have count_eq : buf.len = count := by
    rw [NumberBuffer.len, chars, Alphabet.length_numeral]
  set shorter := if (!flags.precision) = true ∧ buf.len ≠ 0 ∧
      (buf.len = prec.toNat ∨ buf.len = width.toNat) then
    if buf.pop.len ≠ 0 ∧ base = 16 then buf.pop.pop else buf.pop else buf with shorter_eq
  have shorter_chars : shorter.chars =
      (digitAlphabet uppercase base base_le).numeral value kept := by
    rw [shorter_eq, NumberBuffer.pop_len, count_eq]
    simp only [kept]
    split_ifs <;> simp only [NumberBuffer.pop_chars, chars, Alphabet.tail_numeral]
  have shorter_len : shorter.len = kept := by
    rw [NumberBuffer.len, shorter_chars, Alphabet.length_numeral]
  have hashPrefix_eq : hashPrefix buf base prec width flags =
      if room : (pushLetter shorter base flags).len < bufferSize then
        (pushLetter shorter base flags).push (ascii '0') room
      else pushLetter shorter base flags := rfl
  have lettered := pushLetter_chars shorter base flags
  have lettered_len : (pushLetter shorter base flags).len =
      (if shorter.len < bufferSize then (prefixLetter base flags.uppercase).length else 0) +
        shorter.len := by
    rw [NumberBuffer.len, lettered, List.length_append]
    split_ifs <;> rfl
  rw [hashPrefix_eq, prefixText, ← shorter_chars, ← shorter_len]
  by_cases room : shorter.len < bufferSize
  · rw [if_pos room] at lettered lettered_len
    rw [if_pos room]
    by_cases more : (prefixLetter base flags.uppercase).length + shorter.len < bufferSize
    · rw [dif_pos (lettered_len ▸ more), NumberBuffer.push_chars, lettered, if_pos (by omega)]
      rfl
    · rw [dif_neg (lettered_len ▸ more), lettered, if_neg (by omega)]
  · rw [if_neg room] at lettered lettered_len
    rw [dif_neg (by omega), if_neg room, lettered]

theorem signPrefix_eq_self {flags : Flags} (plus : flags.plus = false) (space : flags.space = false)
    (shortened : Bool) : signPrefix buf false shortened flags = buf := by
  simp [signPrefix, plus, space]

/-- The characters of an integer before its padding with spaces. -/
theorem ntoaBuffer_chars (base_gt : 1 < base) {value : Int} {flags : Flags}
    (unsigned : flags.hash → 0 ≤ value ∧ flags.plus = false ∧ flags.space = false)
    (prec width : UInt32) :
    let kept := keptDigits base value prec width flags
    (ntoaBuffer value.natAbs (value < 0) base prec width flags).chars =
      (if flags.hash ∧ value ≠ 0 then prefixText base flags.uppercase kept
        else signText value flags kept) ++
        (digitAlphabet flags.uppercase base base_le).numeral value.natAbs kept := by
  intro kept
  have padded := holds_padded base_le value.natAbs base_gt prec width flags
  by_cases hashed : flags.hash = true ∧ value ≠ 0
  case pos =>
    obtain ⟨nonnegative, plus, space⟩ := unsigned hashed.1
    have buffer_eq : ntoaBuffer value.natAbs (value < 0) base prec width flags =
        hashPrefix (paddedBuffer base value.natAbs prec width flags) base prec width flags := by
      rw [ntoaBuffer, if_neg (Int.natAbs_ne_zero.mpr hashed.2),
        decide_eq_false (Int.not_lt.mpr nonnegative), signPrefix_eq_self plus space,
        if_pos hashed.1, paddedBuffer]
    rw [if_pos hashed, buffer_eq, hashPrefix_chars padded.chars]
    simp only [kept, keptDigits, if_pos hashed]
  case neg =>
    have flags_eq : (if value.natAbs = 0 then { flags with hash := false } else flags) =
        { flags with hash := false } := by
      by_cases zero : value = 0
      · rw [if_pos (Int.natAbs_eq_zero.mpr zero)]
      · rw [if_neg (Int.natAbs_ne_zero.mpr zero)]
        have off : flags.hash = false := by simpa [zero] using hashed
        rw [← off]
    have buffer_eq : ntoaBuffer value.natAbs (value < 0) base prec width flags =
        signPrefix (paddedBuffer base value.natAbs prec width flags) (value < 0)
          ((paddedBuffer base value.natAbs prec width flags).len ≠ 0 ∧
            (paddedBuffer base value.natAbs prec width flags).len = width.toNat)
          { flags with hash := false } := by
      rw [ntoaBuffer, flags_eq, if_neg Bool.false_ne_true, paddedBuffer]
    rw [if_neg hashed, buffer_eq, signPrefix_chars padded.chars, padded.len_eq]
    simp only [kept, keptDigits, if_neg hashed, decide_eq_true_eq]
    rfl

end Printed

/-! ## Reading a number -/

/-- The spaces around a field. -/
def isSpace (ch : UInt8) : Bool := ch = ascii ' '

/-- A text without the spaces around it. -/
def trim (text : Bytes) : Bytes := (text.dropWhile isSpace).rdropWhile isSpace

/-- Read digits, which `0x`, `0X` or `0b` may precede. -/
def readPrefixed (base : Nat) (base_le : base ≤ 16) (text : Bytes) : Option Nat :=
  match text with
  | zero :: letter :: digits =>
      if zero = ascii '0' ∧ (base = 16 ∧ (letter = ascii 'x' ∨ letter = ascii 'X') ∨
          base = 2 ∧ letter = ascii 'b') then
        (digitAlphabet false base base_le).read digits
      else (digitAlphabet false base base_le).read (zero :: letter :: digits)
  | text => (digitAlphabet false base base_le).read text

/-- Read an integer, which a sign and a prefix may precede and spaces may surround. -/
def readInteger (base : Nat) (base_le : base ≤ 16) (text : Bytes) : Option Int :=
  match trim text with
  | [] => none
  | sign :: digits =>
      if sign = ascii '-' then (readPrefixed base base_le digits).map fun value : Nat => -(value : Int)
      else if sign = ascii '+' then (readPrefixed base base_le digits).map Int.ofNat
      else (readPrefixed base base_le (sign :: digits)).map Int.ofNat

section Reading

variable {uppercase : Bool} {base : Nat} {base_le : base ≤ 16} {value count : Nat}

/-- Spaces around a text that has none are trimmed. -/
theorem trim_padded {text : Bytes} (plain : ∀ ch ∈ text, isSpace ch = false) (left right : Nat) :
    trim (List.replicate left (ascii ' ') ++ text ++ List.replicate right (ascii ' ')) = text := by
  have blank (count : Nat) : ∀ ch ∈ List.replicate count (ascii ' '), isSpace ch := by
    intro ch member
    rw [List.eq_of_mem_replicate member]
    rfl
  have text_stays (other : Bytes) (plain : ∀ ch ∈ other, isSpace ch = false) :
      other.dropWhile isSpace = other := by
    cases other with
    | nil => rfl
    | cons ch other =>
        rw [List.dropWhile_cons_of_neg]
        simp [plain ch List.mem_cons_self]
  rw [trim, List.append_assoc, List.dropWhile_append_of_pos (blank left)]
  rcases List.eq_nil_or_concat text with rfl | ⟨initial, last, rfl⟩
  · rw [List.nil_append, List.dropWhile_eq_nil_iff.mpr (blank right), List.rdropWhile_nil]
  · have first : ((initial ++ [last]) ++ List.replicate right (ascii ' ')).dropWhile isSpace =
        (initial ++ [last]) ++ List.replicate right (ascii ' ') := by
      cases initial with
      | nil =>
          rw [List.nil_append, List.singleton_append, List.dropWhile_cons_of_neg]
          simp [plain last (by simp)]
      | cons ch initial =>
          rw [List.cons_append, List.cons_append, List.dropWhile_cons_of_neg]
          simp [plain ch (by simp)]
    rw [List.concat_eq_append] at plain ⊢
    rw [first, List.rdropWhile, List.reverse_append,
      List.dropWhile_append_of_pos (by simpa using blank right),
      text_stays _ fun ch member => plain ch (List.mem_reverse.mp member), List.reverse_reverse]

/-- The same digits are read in both cases. -/
theorem read_digitAlphabet (text : Bytes) :
    (digitAlphabet uppercase base base_le).read text =
      (digitAlphabet false base base_le).read text := by
  apply Alphabet.read_congr
  rfl

/-- The characters of a numeral are digits. -/
theorem digitOf_of_mem_numeral (base_pos : 0 < base) {character : UInt8}
    (member : character ∈ (digitAlphabet uppercase base base_le).numeral value count) :
    ∃ digit < base, digitOf character = some digit := by
  obtain ⟨digit, digit_eq⟩ :=
    Option.isSome_iff_exists.mp (Alphabet.isSome_digit_of_mem base_pos member)
  obtain ⟨stands, small⟩ := Option.filter_eq_some_iff.mp digit_eq
  exact ⟨digit, by simpa using small, stands⟩

/-- A character that is no digit is none of a numeral. -/
theorem ne_of_mem_numeral (base_pos : 0 < base) {character other : UInt8}
    (member : character ∈ (digitAlphabet uppercase base base_le).numeral value count)
    (none : digitOf other = none) : character ≠ other := by
  obtain ⟨digit, -, digit_eq⟩ := digitOf_of_mem_numeral base_pos member
  rintro rfl
  rw [none] at digit_eq
  cases digit_eq

theorem read_numeral (base_pos : 0 < base) :
    (digitAlphabet false base base_le).read
        ((digitAlphabet uppercase base base_le).numeral value count) =
      if 0 < count then some (value % base ^ count) else none := by
  rw [← @read_digitAlphabet uppercase]
  split_ifs with positive
  · exact Alphabet.read_numeral base_pos positive
  · rw [Nat.eq_zero_of_not_pos positive]
    rfl

/-- A numeral has no prefix. -/
theorem readPrefixed_numeral (base_pos : 0 < base) :
    readPrefixed base base_le ((digitAlphabet uppercase base base_le).numeral value count) =
      if 0 < count then some (value % base ^ count) else none := by
  rw [← @read_numeral uppercase base base_le value count base_pos]
  rcases numeral_eq : (digitAlphabet uppercase base base_le).numeral value count with
    - | ⟨first, - | ⟨second, rest⟩⟩
  · rfl
  · rfl
  · have member : second ∈ (digitAlphabet uppercase base base_le).numeral value count := by
      rw [numeral_eq]
      simp
    obtain ⟨digit, digit_lt, digit_eq⟩ := digitOf_of_mem_numeral base_pos member
    rw [readPrefixed, if_neg]
    rintro ⟨-, ⟨-, rfl | rfl⟩ | ⟨rfl, rfl⟩⟩
    · cases digit_eq
    · cases digit_eq
    · have letter : digitOf (ascii 'b') = some 11 := rfl
      rw [letter, Option.some.injEq] at digit_eq
      omega

variable (uppercase base_le value count) in
theorem plain_numeral (base_pos : 0 < base) :
    ∀ ch ∈ (digitAlphabet uppercase base base_le).numeral value count, isSpace ch = false := by
  intro ch member
  rw [isSpace, decide_eq_false_iff_not]
  exact ne_of_mem_numeral base_pos member rfl

/-- The text of digits without a sign or a prefix. -/
theorem readInteger_numeral (base_pos : 0 < base) (left right : Nat) :
    readInteger base base_le (List.replicate left (ascii ' ') ++
        (digitAlphabet uppercase base base_le).numeral value count ++
          List.replicate right (ascii ' ')) =
      if 0 < count then some ((value % base ^ count : Nat) : Int) else none := by
  have read := @readPrefixed_numeral uppercase base base_le value count base_pos
  have minus (ch : UInt8)
      (member : ch ∈ (digitAlphabet uppercase base base_le).numeral value count) :
      ch ≠ ascii '-' := ne_of_mem_numeral base_pos member rfl
  have plus (ch : UInt8)
      (member : ch ∈ (digitAlphabet uppercase base base_le).numeral value count) :
      ch ≠ ascii '+' := ne_of_mem_numeral base_pos member rfl
  rw [readInteger, trim_padded (plain_numeral uppercase base_le value count base_pos)]
  rcases numeral_eq : (digitAlphabet uppercase base base_le).numeral value count with - | ⟨ch, rest⟩
  · rw [if_neg]
    rw [← @Alphabet.length_numeral _ _ (digitAlphabet uppercase base base_le) value count,
      numeral_eq, List.length_nil]
    exact Nat.lt_irrefl 0
  · rw [numeral_eq] at minus plus read
    dsimp only
    rw [if_neg (minus ch List.mem_cons_self), if_neg (plus ch List.mem_cons_self), read]
    split_ifs <;> rfl

/-- The text of digits behind a sign. -/
theorem readInteger_signText (base_pos : 0 < base) (value : Int) (flags : Flags)
    (left right : Nat) :
    readInteger base base_le (List.replicate left (ascii ' ') ++
        (signText value flags count ++
          (digitAlphabet uppercase base base_le).numeral value.natAbs count) ++
            List.replicate right (ascii ' ')) =
      if 0 < count then
        some (if value < 0 ∧ count < bufferSize then -((value.natAbs % base ^ count : Nat) : Int)
          else ((value.natAbs % base ^ count : Nat) : Int))
      else none := by
  have read := @readPrefixed_numeral uppercase base base_le value.natAbs count base_pos
  have plain := plain_numeral uppercase base_le value.natAbs count base_pos
  have plain_cons {sign : UInt8} (other : isSpace sign = false) : ∀ ch ∈
      sign :: (digitAlphabet uppercase base base_le).numeral value.natAbs count,
        isSpace ch = false := by
    intro ch member
    rcases List.mem_cons.mp member with rfl | member
    · exact other
    · exact plain ch member
  rw [signText]
  by_cases room : count < bufferSize
  case neg =>
    have full : ¬(value < 0 ∧ count < bufferSize) := fun both => room both.2
    rw [if_neg room, List.nil_append, readInteger_numeral base_pos, if_neg full]
  rw [if_pos room]
  by_cases negative : value < 0
  case pos =>
    have shown : value < 0 ∧ count < bufferSize := ⟨negative, room⟩
    rw [if_pos negative, if_pos shown, List.singleton_append, readInteger,
      trim_padded (plain_cons rfl)]
    dsimp only
    rw [if_pos rfl, read]
    split_ifs <;> rfl
  have unsigned : ¬(value < 0 ∧ count < bufferSize) := fun both => negative both.1
  rw [if_neg negative, if_neg unsigned]
  by_cases plus : flags.plus = true
  case pos =>
    rw [if_pos plus, List.singleton_append, readInteger, trim_padded (plain_cons rfl)]
    dsimp only
    rw [if_neg (by decide), if_pos rfl, read]
    split_ifs <;> rfl
  rw [if_neg plus]
  by_cases space : flags.space = true
  case pos =>
    have longer : List.replicate left (ascii ' ') ++ ([ascii ' '] ++
        (digitAlphabet uppercase base base_le).numeral value.natAbs count) =
          List.replicate (left + 1) (ascii ' ') ++
            (digitAlphabet uppercase base base_le).numeral value.natAbs count := by
      rw [← List.append_assoc, List.replicate_succ']
    rw [if_pos space, longer, readInteger_numeral base_pos]
  · rw [if_neg space, List.nil_append, readInteger_numeral base_pos]

/-- The text of digits behind a prefix. -/
theorem readInteger_prefixText (base_pos : 0 < base) (upper : Bool) (left right : Nat) :
    readInteger base base_le (List.replicate left (ascii ' ') ++
        (prefixText base upper count ++
          (digitAlphabet uppercase base base_le).numeral value count) ++
            List.replicate right (ascii ' ')) =
      if (base = 16 ∨ base = 2) ∧ (count = 0 ∨ count + 1 = bufferSize) then none
      else some ((value % base ^ count : Nat) : Int) := by
  have plain := plain_numeral uppercase base_le value count base_pos
  have plain_cons {ch : UInt8} {text : Bytes} (first : isSpace ch = false)
      (later : ∀ ch ∈ text, isSpace ch = false) : ∀ ch' ∈ ch :: text, isSpace ch' = false := by
    intro ch' member
    rcases List.mem_cons.mp member with rfl | member
    · exact first
    · exact later ch' member
  rw [prefixText]
  by_cases room : count < bufferSize
  case neg =>
    have positive : 0 < count := Nat.lt_of_lt_of_le (by decide) (Nat.le_of_not_lt room)
    have whole : ¬((base = 16 ∨ base = 2) ∧ (count = 0 ∨ count + 1 = bufferSize)) := by omega
    rw [if_neg room, List.nil_append, readInteger_numeral base_pos, if_pos positive, if_neg whole]
  rw [if_pos room]
  by_cases lettered : base = 16 ∨ base = 2
  case neg =>
    have whole : ¬((base = 16 ∨ base = 2) ∧ (count = 0 ∨ count + 1 = bufferSize)) :=
      fun both => lettered both.1
    rw [not_or] at lettered
    have letter_eq : prefixLetter base upper = [] := by
      rw [prefixLetter, if_neg lettered.1, if_neg lettered.2]
    have no_prefix (text : Bytes) : readPrefixed base base_le text =
        (digitAlphabet false base base_le).read text := by
      rw [readPrefixed.eq_def]
      split
      · rw [if_neg (by tauto)]
      · rfl
    have digits := @Alphabet.read_zero_numeral _ _ (digitAlphabet uppercase base base_le) value count
      base_pos
    rw [read_digitAlphabet, digitAlphabet_zero] at digits
    rw [letter_eq, List.length_nil, Nat.add_zero, if_pos room, List.singleton_append, readInteger,
      trim_padded (plain_cons rfl plain), if_neg whole]
    dsimp only
    rw [if_neg (by decide), if_neg (by decide), no_prefix, digits]
    rfl
  obtain ⟨letter, letter_eq, accepted, other⟩ : ∃ letter, prefixLetter base upper = [letter] ∧
      (base = 16 ∧ (letter = ascii 'x' ∨ letter = ascii 'X') ∨ base = 2 ∧ letter = ascii 'b') ∧
        (digitAlphabet false base base_le).digit letter = none := by
    rcases lettered with rfl | rfl
    · cases upper with
      | false => exact ⟨ascii 'x', rfl, .inl ⟨rfl, .inl rfl⟩, rfl⟩
      | true => exact ⟨ascii 'X', rfl, .inl ⟨rfl, .inr rfl⟩, rfl⟩
    · exact ⟨ascii 'b', rfl, .inr ⟨rfl, rfl⟩, rfl⟩
  have letter_plain : isSpace letter = false ∧ letter ≠ ascii '-' ∧ letter ≠ ascii '+' ∧
      letter ≠ ascii '0' := by
    rcases accepted with ⟨-, rfl | rfl⟩ | ⟨-, rfl⟩ <;> decide
  rw [letter_eq, List.length_singleton]
  by_cases both : count + 1 < bufferSize
  case pos =>
    have read := @read_numeral uppercase base base_le value count base_pos
    rw [if_pos both, List.cons_append, List.singleton_append, readInteger,
      trim_padded (plain_cons rfl (plain_cons letter_plain.1 plain))]
    dsimp only
    rw [if_neg (by decide), if_neg (by decide), readPrefixed, if_pos ⟨rfl, accepted⟩, read]
    by_cases positive : 0 < count
    · have whole : ¬((base = 16 ∨ base = 2) ∧ (count = 0 ∨ count + 1 = bufferSize)) := by omega
      rw [if_pos positive, if_neg whole]
      rfl
    · rw [if_neg positive, if_pos ⟨lettered, .inl (by omega)⟩]
      rfl
  case neg =>
    have unread (text : Bytes) : readPrefixed base base_le (letter :: text) = none := by
      have read_none : (digitAlphabet false base base_le).read (letter :: text) = none :=
        Alphabet.read_of_not_digit List.mem_cons_self other
      cases text with
      | nil => exact read_none
      | cons second text =>
          rw [readPrefixed, if_neg fun zero => letter_plain.2.2.2 zero.1]
          exact read_none
    rw [if_neg both, List.singleton_append, readInteger,
      trim_padded (plain_cons letter_plain.1 plain), if_pos ⟨lettered, .inr (by omega)⟩]
    dsimp only
    rw [if_neg letter_plain.2.1, if_neg letter_plain.2.2.1, unread]
    rfl

end Reading

/-! ## The integer that is read back -/

/-- Enough digits are printed, and the sign and the prefix with them. -/
def Legible (base : Nat) (value : Int) (prec width : UInt32) (flags : Flags) : Prop :=
  let kept := keptDigits base value prec width flags
  0 < kept ∧ value.natAbs < base ^ kept ∧ (value < 0 → kept < bufferSize) ∧
    ¬(flags.hash ∧ value ≠ 0 ∧ (base = 16 ∨ base = 2) ∧ kept + 1 = bufferSize)

instance (base : Nat) (value : Int) (prec width : UInt32) (flags : Flags) :
    Decidable (Legible base value prec width flags) := by
  unfold Legible
  infer_instance

/-- The spaces of a number are around the characters of its buffer. -/
theorem exists_numberText (buf : NumberBuffer) (width : UInt32) (flags : Flags) :
    ∃ left right : Nat, numberText buf width flags =
      List.replicate left (ascii ' ') ++ buf.chars ++ List.replicate right (ascii ' ') := by
  rw [numberText]
  split_ifs
  · exact ⟨0, _, rfl⟩
  · exact ⟨0, 0, (List.append_nil _).symm⟩
  · exact ⟨_, 0, (List.append_nil _).symm⟩

/-- The text of an integer reads back as the integer exactly when it is legible. -/
theorem readInteger_ntoaText {base : Nat} (base_le : base ≤ 16) (base_gt : 1 < base) {value : Int}
    {flags : Flags}
    (unsigned : flags.hash → 0 ≤ value ∧ flags.plus = false ∧ flags.space = false)
    (prec width : UInt32) :
    readInteger base base_le (ntoaText value.natAbs (value < 0) base prec width flags) =
        some value ↔
      Legible base value prec width flags := by
  have base_pos : 0 < base := by omega
  have chars := @ntoaBuffer_chars base base_le base_gt value flags unsigned prec width
  dsimp only at chars
  obtain ⟨left, right, text_eq⟩ :=
    exists_numberText (ntoaBuffer value.natAbs (value < 0) base prec width flags) width flags
  rw [ntoaText, text_eq, chars, Legible]
  set kept := keptDigits base value prec width flags with kept_eq
  have mod_eq : value.natAbs % base ^ kept = value.natAbs ↔ value.natAbs < base ^ kept :=
    Nat.mod_eq_iff_lt (Nat.pow_pos base_pos).ne'
  by_cases hashed : flags.hash = true ∧ value ≠ 0
  case pos =>
    have nonnegative := (unsigned hashed.1).1
    have kept_pos (whole : value.natAbs < base ^ kept) : 0 < kept := by
      by_contra none
      rw [Nat.eq_zero_of_not_pos none, pow_zero, Nat.lt_one_iff, Int.natAbs_eq_zero] at whole
      exact hashed.2 whole
    rw [if_pos hashed, readInteger_prefixText base_pos]
    by_cases broken : (base = 16 ∨ base = 2) ∧ (kept = 0 ∨ kept + 1 = bufferSize)
    · rw [if_pos broken]
      refine iff_of_false (Option.some_ne_none value).symm ?_
      rintro ⟨positive, -, -, unbroken⟩
      exact unbroken ⟨hashed.1, hashed.2, broken.1, broken.2.resolve_left positive.ne'⟩
    · rw [if_neg broken, Option.some.injEq, ← mod_eq]
      constructor
      · intro read
        have same : value.natAbs % base ^ kept = value.natAbs := by omega
        exact ⟨kept_pos (mod_eq.mp same), same, fun negative => by omega,
          fun cut => broken ⟨cut.2.2.1, .inr cut.2.2.2⟩⟩
      · rintro ⟨-, same, -⟩
        omega
  case neg =>
    have unbroken : ¬(flags.hash = true ∧ value ≠ 0 ∧ (base = 16 ∨ base = 2) ∧
        kept + 1 = bufferSize) := fun cut => hashed ⟨cut.1, cut.2.1⟩
    rw [if_neg hashed, readInteger_signText base_pos, ← mod_eq]
    by_cases positive : 0 < kept
    case neg =>
      rw [if_neg positive]
      exact iff_of_false (Option.some_ne_none value).symm fun legible => positive legible.1
    rw [if_pos positive, Option.some.injEq]
    generalize value.natAbs % base ^ kept = remainder
    split_ifs with negative
    · constructor
      · intro read
        exact ⟨positive, by omega, fun _ => negative.2, unbroken⟩
      · rintro ⟨-, same, -⟩
        omega
    · constructor
      · intro read
        exact ⟨positive, by omega, fun below => by omega, unbroken⟩
      · rintro ⟨-, same, shown, -⟩
        have nonnegative : 0 ≤ value := by
          by_contra below
          exact negative ⟨by omega, shown (by omega)⟩
        omega

section Arguments

variable {δ : Type} (charType : CharType)

/-- The integer that a directive takes, and the arguments that it leaves. -/
def integerArgument (directive : Directive δ) : Except Fault (Int × List (Argument δ)) :=
  let flags := integerFlags directive.specifier directive.flags
  if flags.longLong ∨ flags.long then
    (vaArgLong directive.va).map fun fetched =>
      (if isSigned directive.specifier then Int.bmod fetched.1.toNat (2 ^ 64)
        else (fetched.1.toNat : Int), fetched.2)
  else
    (vaArgInt directive.va).map fun fetched =>
      (if isSigned directive.specifier then signedValue charType flags fetched.1
        else (unsignedValue flags fetched.1 : Int), fetched.2)

variable {charType}

theorem baseOf_le (specifier : UInt8) : baseOf specifier ≤ 16 := by
  unfold baseOf
  split_ifs <;> decide

theorem one_lt_baseOf (specifier : UInt8) : 1 < baseOf specifier := by
  unfold baseOf
  split_ifs <;> decide

theorem integerText_eq (directive : Directive δ) :
    integerText charType directive =
      (integerArgument charType directive).map fun taken =>
        (taken.2, ntoaText taken.1.natAbs (taken.1 < 0) (baseOf directive.specifier)
          directive.precision directive.width
            (integerFlags directive.specifier directive.flags)) := by
  have negative (value : Nat) : decide ((value : Int) < 0) = false :=
    decide_eq_false (Int.not_lt.mpr (Int.natCast_nonneg value))
  rw [integerText, integerArgument]
  dsimp only
  split
  · rcases vaArgLong directive.va with fault | ⟨argument, rest⟩
    · rfl
    simp only [bind, Except.bind, Except.map, pure, Except.pure]
    split
    · rfl
    · rw [Int.natAbs_natCast, negative]
  · rcases vaArgInt directive.va with fault | ⟨argument, rest⟩
    · rfl
    simp only [bind, Except.bind, Except.map, pure, Except.pure]
    split
    · rfl
    · rw [Int.natAbs_natCast, negative]

/-- Only an unsigned conversion has a prefix. -/
theorem unsigned_of_hash {directive : Directive δ} {value : Int} {rest : List (Argument δ)}
    (takes : integerArgument charType directive = .ok (value, rest)) :
    (integerFlags directive.specifier directive.flags).hash →
      0 ≤ value ∧ (integerFlags directive.specifier directive.flags).plus = false ∧
        (integerFlags directive.specifier directive.flags).space = false := by
  intro hash
  have other : isSigned directive.specifier = false := by
    by_contra signed
    rw [Bool.not_eq_false, isSigned, decide_eq_true_eq] at signed
    have decimal : baseOf directive.specifier = 10 := by
      rcases signed with signed | signed <;> rw [signed] <;> decide
    rw [integerFlags, decimal, Bool.and_eq_true] at hash
    exact absurd hash.2 (by decide)
  have value_eq : ∃ count : Nat, value = count := by
    rw [integerArgument, other] at takes
    split at takes
    · rcases fetch : vaArgLong directive.va with fault | fetched <;> rw [fetch] at takes <;>
        cases takes
      exact ⟨_, rfl⟩
    · rcases fetch : vaArgInt directive.va with fault | fetched <;> rw [fetch] at takes <;>
        cases takes
      exact ⟨_, rfl⟩
  obtain ⟨count, rfl⟩ := value_eq
  exact ⟨Int.natCast_nonneg count, by simp [integerFlags, other], by simp [integerFlags, other]⟩

/-- The text that an integer conversion stands for reads back as the integer that it takes exactly
when it keeps enough of the digits. -/
theorem integer_reads_back_iff (doubles : Doubles δ) {directive : Directive δ}
    (integer : directive.specifier ∈ ['d', 'i', 'u', 'x', 'X', 'o', 'b'].map ascii)
    {value : Int} {rest : List (Argument δ)}
    (takes : integerArgument charType directive = .ok (value, rest)) :
    ∃ text, emissionOf doubles charType directive = .ok (rest, .text text) ∧
      (readInteger (baseOf directive.specifier) (baseOf_le _) text = some value ↔
        Legible (baseOf directive.specifier) value directive.precision directive.width
          (integerFlags directive.specifier directive.flags)) := by
  refine ⟨_, ?_, readInteger_ntoaText (baseOf_le _) (one_lt_baseOf _) (unsigned_of_hash takes) _ _⟩
  rw [emissionOf, if_pos integer, integerText_eq, takes]
  rfl

/-- The prefix of `%#6x` takes the place of two of the six digits of a number. -/
theorem integer_reads_back_iff_prefix :
    ∃ text, emissionOf Doubles.exact .signed
        ⟨{ hash := true }, 6, 0, ascii 'x', [], [.int 0xABCDEF]⟩ = .ok ([], .text text) ∧
      readInteger 16 (by decide) text ≠ some 0xABCDEF := by
  obtain ⟨text, emits, reads⟩ := integer_reads_back_iff Doubles.exact
    (by decide : ascii 'x' ∈ ['d', 'i', 'u', 'x', 'X', 'o', 'b'].map ascii)
    (rfl : integerArgument .signed
      ⟨{ hash := true }, 6, 0, ascii 'x', [], [.int 0xABCDEF]⟩ = .ok (0xABCDEF, []))
  exact ⟨text, emits, fun read => absurd (reads.mp read) (by decide +kernel)⟩

end Arguments

end Printf
end TaRef
