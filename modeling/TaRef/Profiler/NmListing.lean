import TaRef.Profiler.NmParse

/-!
# Listings

The lines that `nm` prints: a defined symbol has an address of 16 digits, a type and a name, and an
undefined one only a type and a name behind blanks.  A conversion of `%16lx` takes the address of
the former, and fails on the latter before anything is assigned.
-/

namespace TaRef
namespace Profiler
namespace NmParse

/-- Characters between two fields. -/
def Gap (gap : Bytes) : Prop := gap ≠ [] ∧ ∀ char ∈ gap, char = 32 ∨ char = 9

/-- Characters of a field: neither white space nor NUL. -/
def Plain (field : Bytes) : Prop := field ≠ [] ∧ ∀ char ∈ field, isspace char = false ∧ char ≠ 0

/-- A letter. -/
def IsLetter (char : UInt8) : Prop := 65 ≤ char ∧ char ≤ 90 ∨ 97 ≤ char ∧ char ≤ 122

/-- A line `address type name`. -/
structure DefinedLine where
  digits : Bytes
  gap : Bytes
  type : UInt8
  gap' : Bytes
  name : Bytes
  digits_length : digits.length = 16
  digits_hex : ∀ digit ∈ digits, (hexDigit digit).isSome = true
  address_lt : hexValue digits < 0xFFFFFFFF
  gap_blank : Gap gap
  type_plain : Plain [type]
  gap'_blank : Gap gap'
  name_plain : Plain name
  name_lt : name.length < 256

/-- A line with blanks in place of the address. -/
structure UndefinedLine where
  gap : Bytes
  type : UInt8
  gap' : Bytes
  name : Bytes
  gap_blank : Gap gap
  type_letter : IsLetter type
  type_not_hex : hexDigit type = none
  gap'_blank : Gap gap'
  name_plain : Plain name

/-- A line of a listing. -/
inductive NmLine
  | defined (line : DefinedLine)
  | undefined (line : UndefinedLine)

/-- The address of a defined symbol. -/
def DefinedLine.address (line : DefinedLine) : UInt64 := .ofNat (hexValue line.digits)

/-- The characters of a line, without the newline. -/
def NmLine.bytes : NmLine → Bytes
  | defined line => line.digits ++ line.gap ++ line.type :: line.gap' ++ line.name
  | undefined line => line.gap ++ line.type :: line.gap' ++ line.name

/-- A listing; its last line may lack the newline. -/
structure Listing where
  lines : List NmLine
  terminated : Bool
  length_le : lines.length ≤ poolSize
  short : ∀ line ∈ lines, line.bytes.length < 511

/-- The contents of a file with these lines. -/
def fileOf (terminated : Bool) : List NmLine → Bytes
  | [] => []
  | [line] => if terminated then line.bytes ++ [10] else line.bytes
  | line :: lines => line.bytes ++ 10 :: fileOf terminated lines

/-! ## Lines of a file -/

theorem fgetsLoop_newline {line : Bytes} (plain : (10 : UInt8) ∉ line) (rest : Bytes) {count : Nat}
    (fits : line.length < count) :
    fgetsLoop count (line ++ 10 :: rest) = (line ++ [10], rest) := by
  induction line generalizing count with
  | nil =>
      obtain ⟨count, rfl⟩ := Nat.exists_eq_add_of_lt fits
      rfl
  | cons char line ih =>
      obtain ⟨count, rfl⟩ := Nat.exists_eq_add_of_lt fits
      rw [List.mem_cons, not_or] at plain
      rw [List.cons_append, fgetsLoop, if_neg (Ne.symm plain.1),
        ih plain.2 (by rw [List.length_cons]; omega)]
      rfl

theorem fgetsLoop_end {line : Bytes} (plain : (10 : UInt8) ∉ line) {count : Nat}
    (fits : line.length < count) : fgetsLoop count line = (line, []) := by
  induction line generalizing count with
  | nil =>
      obtain ⟨count, rfl⟩ := Nat.exists_eq_add_of_lt fits
      rfl
  | cons char line ih =>
      obtain ⟨count, rfl⟩ := Nat.exists_eq_add_of_lt fits
      rw [List.mem_cons, not_or] at plain
      rw [fgetsLoop, if_neg (Ne.symm plain.1), ih plain.2 (by rw [List.length_cons]; omega)]

/-! ## Characters -/

section Characters

variable {char : UInt8} {field rest gap : Bytes}

theorem isspace_of_gap (blank : Gap gap) : ∀ char ∈ gap, isspace char = true := by
  intro char member
  rcases blank.2 char member with rfl | rfl <;> rfl

/-- White space in front of a field is skipped. -/
theorem dropWhile_gap (blank : Gap gap) (plain : Plain field) :
    (gap ++ (field ++ rest)).dropWhile isspace = field ++ rest := by
  rw [List.dropWhile_append_of_pos (isspace_of_gap blank)]
  cases field with
  | nil => exact absurd rfl plain.1
  | cons char field =>
      rw [List.cons_append, List.dropWhile_cons_of_neg]
      rw [(plain.2 char List.mem_cons_self).1]
      exact Bool.false_ne_true

/-- A field goes on to the next white space. -/
theorem takeWhile_field (plain : Plain field) (ends : ∀ char ∈ rest, isspace char = true) :
    ((field ++ rest).takeWhile fun char => !isspace char) = field := by
  rw [List.takeWhile_append_of_pos fun char member => by
    rw [(plain.2 char member).1]
    rfl]
  cases rest with
  | nil => exact List.append_nil _
  | cons char rest =>
      rw [List.takeWhile_cons_of_neg, List.append_nil]
      rw [ends char List.mem_cons_self]
      exact Bool.false_ne_true

/-- The codes of hexadecimal digits. -/
theorem code_of_hexDigit (digit : (hexDigit char).isSome = true) :
    48 ≤ char.toNat ∧ char.toNat ≤ 57 ∨ 65 ≤ char.toNat ∧ char.toNat ≤ 70 ∨
      97 ≤ char.toNat ∧ char.toNat ≤ 102 := by
  simp only [hexDigit, Bool.and_eq_true, decide_eq_true_eq, UInt8.le_iff_toNat_le] at digit
  split_ifs at digit with decimal upper lower
  · exact .inl decimal
  · exact .inr (.inl upper)
  · exact .inr (.inr lower)
  · exact nomatch digit

theorem ne_of_hexDigit (digit : (hexDigit char).isSome = true) {other : UInt8}
    (not_digit : hexDigit other = none) : char ≠ other := by
  rintro rfl
  rw [not_digit] at digit
  exact nomatch digit

/-- White space has codes up to 32. -/
theorem isspace_of_lt (code_gt : 32 < char.toNat) : isspace char = false := by
  have not_blank : char ≠ 32 := by
    rintro rfl
    exact absurd code_gt (by decide)
  simp only [isspace, Bool.or_eq_false_iff, decide_eq_false_iff_not, Bool.and_eq_false_iff,
    UInt8.le_iff_toNat_le]
  exact ⟨not_blank, .inr (Nat.not_le.mpr (Nat.lt_trans (by decide) code_gt))⟩

theorem isspace_of_hexDigit (digit : (hexDigit char).isSome = true) : isspace char = false := by
  have code := code_of_hexDigit digit
  exact isspace_of_lt (by omega)

theorem scanSign_of_ne (width : Nat) (not_plus : char ≠ 43) (not_minus : char ≠ 45) :
    scanSign width (char :: rest) = (false, width, char :: rest) := by
  rw [scanSign.eq_def]
  split
  · rename_i same
    exact absurd (List.cons.inj same).1 not_plus
  · rename_i same
    exact absurd (List.cons.inj same).1 not_minus
  · rfl

theorem scanPrefix_of_ne (width : Nat) {first : UInt8} (not_x : char ≠ 120) (not_X : char ≠ 88) :
    scanPrefix width (first :: char :: rest) = (width, first :: char :: rest) := by
  rw [scanPrefix.eq_def]
  split
  · rename_i same
    obtain ⟨rfl, rest_eq⟩ := List.cons.inj same
    obtain ⟨rfl, rfl⟩ := List.cons.inj rest_eq
    rw [if_neg (by simp [not_x, not_X])]
  · rfl

/-- An address of 16 digits is taken as a whole. -/
theorem scanHex_digits {digits : Bytes} (digits_length : digits.length = 16)
    (digits_hex : ∀ digit ∈ digits, (hexDigit digit).isSome = true) :
    scanHex 16 (digits ++ rest) = some (.ofNat (hexValue digits), rest) := by
  match digits, digits_length, digits_hex with
  | first :: second :: digits, digits_length, digits_hex =>
      have first_hex := digits_hex first List.mem_cons_self
      have second_hex := digits_hex second (List.mem_cons_of_mem _ List.mem_cons_self)
      have field : (((first :: second :: digits) ++ rest).take 16).takeWhile
          (fun char => (hexDigit char).isSome) = first :: second :: digits := by
        rw [List.take_left' digits_length]
        exact List.takeWhile_eq_self_iff.mpr digits_hex
      rw [scanHex, List.cons_append, List.cons_append, List.dropWhile_cons_of_neg
        (by rw [isspace_of_hexDigit first_hex]; exact Bool.false_ne_true),
        scanSign_of_ne 16 (ne_of_hexDigit first_hex rfl) (ne_of_hexDigit first_hex rfl)]
      dsimp only
      rw [scanPrefix_of_ne 16 (ne_of_hexDigit second_hex rfl) (ne_of_hexDigit second_hex rfl)]
      dsimp only
      rw [← List.cons_append, ← List.cons_append, field, if_neg (List.cons_ne_nil _ _),
        List.drop_left]
      rfl

theorem scanPrefix_of_nonzero (width : Nat) (nonzero : char ≠ 48) :
    scanPrefix width (char :: rest) = (width, char :: rest) := by
  rw [scanPrefix.eq_def]
  split
  · rename_i same
    exact absurd (List.cons.inj same).1 nonzero
  · rfl

/-- Letters are no white space, no signs and no digits. -/
theorem IsLetter.code_ge (letter : IsLetter char) : 65 ≤ char.toNat := by
  rcases letter with upper | lower
  · exact UInt8.le_iff_toNat_le.mp upper.1
  · exact Nat.le_trans (by decide) (UInt8.le_iff_toNat_le.mp lower.1)

theorem IsLetter.plain (letter : IsLetter char) : Plain [char] := by
  have code_ge := letter.code_ge
  refine ⟨List.cons_ne_nil _ _, fun other member => ?_⟩
  obtain rfl := List.mem_singleton.mp member
  refine ⟨isspace_of_lt (by omega), ?_⟩
  rintro rfl
  exact absurd code_ge (by decide)

/-- A letter in place of the address fails the conversion. -/
theorem scanHex_letter (blank : Gap gap) (letter : IsLetter char) (not_hex : hexDigit char = none) :
    scanHex 16 (gap ++ char :: rest) = none := by
  have code_ge := letter.code_ge
  have ne_of_code {other : UInt8} (code_lt : other.toNat < 65) : char ≠ other := by
    rintro rfl
    omega
  rw [scanHex, ← List.singleton_append, dropWhile_gap blank letter.plain, List.singleton_append,
    scanSign_of_ne 16 (ne_of_code (by decide)) (ne_of_code (by decide))]
  dsimp only
  rw [scanPrefix_of_nonzero 16 (ne_of_code (by decide))]
  dsimp only
  rw [List.take_succ_cons, List.takeWhile_cons_of_neg (by rw [not_hex]; exact Bool.false_ne_true),
    if_pos rfl]

end Characters

/-! ## Lines -/

/-- Neither NUL nor a newline. -/
def Inline (char : UInt8) : Prop := char ≠ 0 ∧ char ≠ 10

theorem Gap.inline {gap : Bytes} (blank : Gap gap) : ∀ char ∈ gap, Inline char := by
  intro char member
  rcases blank.2 char member with rfl | rfl <;> exact ⟨by decide, by decide⟩

theorem Plain.inline {field : Bytes} (plain : Plain field) : ∀ char ∈ field, Inline char := by
  intro char member
  obtain ⟨no_space, nonzero⟩ := plain.2 char member
  refine ⟨nonzero, ?_⟩
  rintro rfl
  exact nomatch no_space

/-- A line is a string without newlines. -/
theorem NmLine.inline (line : NmLine) : ∀ char ∈ line.bytes, Inline char := by
  cases line with
  | defined line =>
      have digits_inline : ∀ digit ∈ line.digits, Inline digit := fun digit member =>
        ⟨ne_of_hexDigit (line.digits_hex digit member) rfl,
          ne_of_hexDigit (line.digits_hex digit member) rfl⟩
      intro char member
      simp only [bytes, List.mem_append, List.mem_cons] at member
      rcases member with ((digit | blank) | rfl | blank) | name
      · exact digits_inline char digit
      · exact line.gap_blank.inline char blank
      · exact line.type_plain.inline _ List.mem_cons_self
      · exact line.gap'_blank.inline char blank
      · exact line.name_plain.inline char name
  | undefined line =>
      intro char member
      simp only [bytes, List.mem_append, List.mem_cons] at member
      rcases member with (blank | rfl | blank) | name
      · exact line.gap_blank.inline char blank
      · exact line.type_letter.plain.inline _ List.mem_cons_self
      · exact line.gap'_blank.inline char blank
      · exact line.name_plain.inline char name

/-- What an iteration makes of the local variables: an undefined symbol assigns none of them. -/
def NmLine.assign (locals : Locals) : NmLine → Locals
  | defined line =>
      { addr := line.address
        type := line.type
        funcName := locals.funcName.store line.name line.name_lt }
  | undefined _ => locals

/-- `sscanf` on a line with its newline, if it has one. -/
theorem sscanf_line (line : NmLine) (locals : Locals) {ending : Bytes}
    (newline : ∀ char ∈ ending, char = 10) :
    sscanf (line.bytes ++ ending) locals = some (line.assign locals) := by
  have whole : cString (line.bytes ++ ending) = line.bytes ++ ending := by
    apply cString_of_notMem
    rw [List.mem_append, not_or]
    exact ⟨fun member => (line.inline 0 member).1 rfl, fun member =>
      absurd (newline 0 member) (by decide)⟩
  have ends : ∀ char ∈ ending, isspace char = true := fun char member => by
    rw [newline char member]
    rfl
  cases line with
  | defined line =>
      have fields : (NmLine.defined line).bytes ++ ending = line.digits ++
          (line.gap ++ ([line.type] ++ (line.gap' ++ (line.name ++ ending)))) := by
        simp [NmLine.bytes]
      have name_ne := line.name_plain.1
      rw [sscanf, whole, fields, scanHex_digits line.digits_length line.digits_hex]
      dsimp only
      rw [dropWhile_gap line.gap_blank line.type_plain, List.singleton_append]
      dsimp only
      rw [dropWhile_gap line.gap'_blank line.name_plain, takeWhile_field line.name_plain ends,
        if_neg name_ne, dif_pos line.name_lt]
      rfl
  | undefined line =>
      have fields : (NmLine.undefined line).bytes ++ ending = line.gap ++
          line.type :: (line.gap' ++ line.name ++ ending) := by
        simp [NmLine.bytes]
      rw [sscanf, whole, fields,
        scanHex_letter line.gap_blank line.type_letter line.type_not_hex]
      rfl

/-- The copy of a string is the string. -/
theorem cString_strncpy (src : FuncName) : cString (strncpy src).val = cString src.val := by
  have plain := notMem_cString src.val
  rw [strncpy]
  dsimp only
  cases 256 - (cString src.val).length with
  | zero => rw [List.replicate_zero, List.append_nil, cString_of_notMem plain]
  | succ count => rw [List.replicate_succ, cString_append_zero plain]

/-- The name that a defined symbol enters. -/
theorem DefinedLine.cString_info (line : DefinedLine) (locals : Locals) :
    cString ((NmLine.defined line).assign locals).info.funcName.val = line.name := by
  rw [Locals.info, cString_strncpy, NmLine.assign, FuncName.store]
  exact cString_append_zero (fun member => (line.name_plain.inline 0 member).1 rfl) _

theorem NmLine.bytes_ne_nil (line : NmLine) : line.bytes ≠ [] := by
  cases line <;> simp [bytes]

/-- `fgets` takes one line of a listing at a time. -/
theorem fgets_fileOf (terminated : Bool) (line : NmLine) (lines : List NmLine)
    (short : line.bytes.length < 511) :
    ∃ ending : Bytes, (∀ char ∈ ending, char = 10) ∧
      fgets bufSize (fileOf terminated (line :: lines)) =
        some (line.bytes ++ ending, fileOf terminated lines) := by
  have no_newline : (10 : UInt8) ∉ line.bytes := fun member => (line.inline 10 member).2 rfl
  have newline : ∀ char ∈ ([10] : Bytes), char = 10 := fun char => List.mem_singleton.mp
  have nonempty (rest : Bytes) : line.bytes ++ 10 :: rest ≠ [] := by simp
  have terminated_line (rest : Bytes) :
      fgets bufSize (line.bytes ++ 10 :: rest) = some (line.bytes ++ [10], rest) := by
    rw [fgets, if_neg (nonempty rest)]
    exact congrArg some (fgetsLoop_newline no_newline rest short)
  cases lines with
  | nil =>
      cases terminated with
      | true => exact ⟨[10], newline, terminated_line []⟩
      | false =>
          refine ⟨[], fun char member => absurd member List.not_mem_nil, ?_⟩
          have whole : fgets bufSize line.bytes = some (line.bytes, []) := by
            rw [fgets, if_neg line.bytes_ne_nil]
            exact congrArg some (fgetsLoop_end no_newline short)
          rw [List.append_nil]
          exact whole
  | cons next lines => exact ⟨[10], newline, terminated_line _⟩

end NmParse
end Profiler
end TaRef
