import TaRef.Printf.Buffer

/-!
# The language of formats

A directive is written as flags, a width, a precision, a length and a specifier.  The loop reads back
each directive that is written so, takes the arguments that it asks for and goes on behind it.  It
reads past the end of a format exactly when the format ends within a directive.
-/

namespace TaRef
namespace Printf

/-! ## Syntax -/

/-- A flag of a directive. -/
inductive Flag
  | zero
  | minus
  | plus
  | space
  | hash
  deriving DecidableEq, Repr

/-- How a flag is written. -/
def Flag.char : Flag → UInt8
  | .zero => ascii '0'
  | .minus => ascii '-'
  | .plus => ascii '+'
  | .space => ascii ' '
  | .hash => ascii '#'

/-- What a flag sets. -/
def Flag.set (flags : Flags) : Flag → Flags
  | .zero => { flags with zeropad := true }
  | .minus => { flags with left := true }
  | .plus => { flags with plus := true }
  | .space => { flags with space := true }
  | .hash => { flags with hash := true }

/-- A number that is written out. -/
structure Digits where
  chars : Bytes
  nonempty : chars ≠ []
  digits : ∀ ch ∈ chars, isDigit ch

/-- The number, as the `unsigned int` that holds it. -/
def Digits.value (digits : Digits) : UInt32 :=
  digits.chars.foldl (fun i ch => i * 10 + (ch - ascii '0').toUInt32) 0

/-- A width or a precision: a number that is written out, or an argument. -/
inductive Amount
  | number (digits : Digits)
  | star

/-- How an amount is written. -/
def Amount.text : Amount → Bytes
  | .number digits => digits.chars
  | .star => [ascii '*']

/-- How a precision is written: a point, and the amount if there is one. -/
def pointText : Option (Option Amount) → Bytes
  | none => []
  | some amount => ascii '.' :: (amount.map Amount.text).getD []

/-- The length field of a directive. -/
inductive Length
  | l
  | ll
  | h
  | hh
  | t
  | j
  | z
  deriving DecidableEq, Repr

/-- How a length is written. -/
def Length.text : Length → Bytes
  | .l => [ascii 'l']
  | .ll => [ascii 'l', ascii 'l']
  | .h => [ascii 'h']
  | .hh => [ascii 'h', ascii 'h']
  | .t => [ascii 't']
  | .j => [ascii 'j']
  | .z => [ascii 'z']

/-- What a length sets. -/
def Length.set (flags : Flags) : Length → Flags
  | .l => { flags with long := true }
  | .ll => { flags with long := true, longLong := true }
  | .h => { flags with short := true }
  | .hh => { flags with short := true, char := true }
  | .t => { flags with long := true }
  | .j => { flags with long := true }
  | .z => { flags with long := true }

/-- A directive without its specifier.  A width does not begin with a zero, which is a flag. -/
structure Fields where
  flags : List Flag
  width : Option Amount
  width_plain : ∀ digits, width = some (.number digits) → digits.chars.head? ≠ some (ascii '0')
  precision : Option (Option Amount)
  length : Option Length

namespace Fields

/-- How the width is written. -/
def widthText (fields : Fields) : Bytes := (fields.width.map Amount.text).getD []

/-- How the precision is written. -/
def precisionText (fields : Fields) : Bytes := pointText fields.precision

/-- How the length is written. -/
def lengthText (fields : Fields) : Bytes := (fields.length.map Length.text).getD []

/-- How a directive is written, between its `%` and its specifier. -/
def text (fields : Fields) : Bytes :=
  fields.flags.map Flag.char ++
    (fields.widthText ++ (fields.precisionText ++ fields.lengthText))

/-- A character that is read as a part of the fields when it comes after them. -/
def Continues (fields : Fields) (ch : UInt8) : Prop :=
  match fields.length with
  | some .l => ch = ascii 'l'
  | some .h => ch = ascii 'h'
  | some _ => False
  | none => ch ∈ ['l', 'h', 't', 'j', 'z'].map ascii ∨
      match fields.precision with
      | some (some .star) => False
      | some (some (.number _)) => isDigit ch
      | some none => isDigit ch ∨ ch = ascii '*'
      | none => ch = ascii '.' ∨
          match fields.width with
          | some .star => False
          | some (.number _) => isDigit ch
          | none => isDigit ch ∨ ch = ascii '*' ∨ ∃ flag : Flag, ch = flag.char

/-- What follows the fields begins with no part of them. -/
def Ends (fields : Fields) (tail : Bytes) : Prop := ∀ ch ∈ tail.head?, ¬ fields.Continues ch

end Fields

/-! ## Meaning -/

section Meaning

variable {δ : Type}

/-- The width that an amount gives, with the flags; a negative argument stands for the flag `-`. -/
def widthOf (flags : Flags) (va : List (Argument δ)) :
    Option Amount → Except Fault (Flags × UInt32 × List (Argument δ))
  | none => .ok (flags, 0, va)
  | some (.number digits) => .ok (flags, digits.value, va)
  | some .star =>
      (vaArgInt va).map fun fetched =>
        ((starWidth flags fetched.1).1, (starWidth flags fetched.1).2, fetched.2)

/-- The precision that an amount gives, with the flags; a negative argument stands for zero. -/
def precisionOf (flags : Flags) (va : List (Argument δ)) :
    Option (Option Amount) → Except Fault (Flags × UInt32 × List (Argument δ))
  | none => .ok (flags, 0, va)
  | some none => .ok ({ flags with precision := true }, 0, va)
  | some (some (.number digits)) => .ok ({ flags with precision := true }, digits.value, va)
  | some (some .star) =>
      (vaArgInt va).map fun fetched =>
        ({ flags with precision := true }, starPrecision fetched.1, fetched.2)

/-- The flags, the width and the precision of a directive, and the arguments that they leave. -/
def Fields.evaluate (fields : Fields) (va : List (Argument δ)) :
    Except Fault (Flags × UInt32 × UInt32 × List (Argument δ)) := do
  let (flags, width, va) ← widthOf (fields.flags.foldl Flag.set {}) va fields.width
  let (flags, precision, va) ← precisionOf flags va fields.precision
  return (fields.length.elim flags (Length.set flags), width, precision, va)

/-- The directive that evaluated fields make with what follows them. -/
def directiveOf (evaluated : Flags × UInt32 × UInt32 × List (Argument δ)) :
    Bytes → Except Fault (Directive δ)
  | [] => .error .format
  | specifier :: format =>
      .ok ⟨evaluated.1, evaluated.2.1, evaluated.2.2.1, specifier, format, evaluated.2.2.2⟩

end Meaning

/-! ## Reading a directive -/

/-- A text does not begin with a character of some kind. -/
def Stops (kind : UInt8 → Bool) (text : Bytes) : Prop := ∀ ch ∈ text.head?, kind ch = false

section Stops

variable {kind : UInt8 → Bool} {text : Bytes}

theorem stops_nil : Stops kind [] := fun _ member => nomatch member

theorem stops_cons {ch : UInt8} : Stops kind (ch :: text) ↔ kind ch = false := by
  simp [Stops]

end Stops

theorem atoi_of_stops {rest : Bytes} (stops : Stops isDigit rest) (i : UInt32) {chars : Bytes}
    (digits : ∀ ch ∈ chars, isDigit ch) :
    atoi i (chars ++ rest) =
      (chars.foldl (fun i ch => i * 10 + (ch - ascii '0').toUInt32) i, rest) := by
  induction chars generalizing i with
  | nil =>
      cases rest with
      | nil => rfl
      | cons ch rest =>
          rw [List.nil_append, atoi, if_neg (by rw [stops_cons.mp stops]; decide), List.foldl_nil]
  | cons ch chars ih =>
      rw [List.cons_append, atoi, if_pos (digits ch List.mem_cons_self),
        ih _ fun ch member => digits ch (List.mem_cons_of_mem _ member), List.foldl_cons]

/-- The digits that `_atoi` reads. -/
theorem exists_digits_of_atoi {i value : UInt32} {str rest : Bytes}
    (read : atoi i str = (value, rest)) :
    ∃ chars, str = chars ++ rest ∧ (∀ ch ∈ chars, isDigit ch) ∧ Stops isDigit rest ∧
      value = chars.foldl (fun i ch => i * 10 + (ch - ascii '0').toUInt32) i := by
  induction str generalizing i with
  | nil =>
      cases read
      exact ⟨[], rfl, by simp, stops_nil, rfl⟩
  | cons ch str ih =>
      rw [atoi] at read
      split_ifs at read with digit
      · obtain ⟨chars, str_eq, digits, stops, value_eq⟩ := ih read
        refine ⟨ch :: chars, by rw [str_eq, List.cons_append], ?_, stops, value_eq⟩
        intro other member
        rcases List.mem_cons.mp member with rfl | member
        · exact digit
        · exact digits other member
      · cases read
        exact ⟨[], rfl, by simp, stops_cons.mpr (Bool.eq_false_iff.mpr digit), rfl⟩

/-- A character sets a flag exactly when it is the one that the flag is written as. -/
theorem flagOf_eq_some_iff {flags flags' : Flags} {ch : UInt8} :
    flagOf flags ch = some flags' ↔ ∃ flag : Flag, ch = flag.char ∧ flags' = flag.set flags := by
  constructor
  · intro sets
    unfold flagOf at sets
    split_ifs at sets with zero minus plus space hash <;> cases sets
    · exact ⟨.zero, zero, rfl⟩
    · exact ⟨.minus, minus, rfl⟩
    · exact ⟨.plus, plus, rfl⟩
    · exact ⟨.space, space, rfl⟩
    · exact ⟨.hash, hash, rfl⟩
  · rintro ⟨flag, rfl, rfl⟩
    cases flag <;> rfl

theorem flagOf_eq_none_iff {flags : Flags} {ch : UInt8} :
    flagOf flags ch = none ↔ ∀ flag : Flag, ch ≠ flag.char := by
  constructor
  · rintro none_eq flag rfl
    rw [flagOf_eq_some_iff.mpr ⟨flag, rfl, rfl⟩] at none_eq
    cases none_eq
  · intro other
    rcases sets : flagOf flags ch with - | flags'
    · rfl
    · obtain ⟨flag, ch_eq, -⟩ := flagOf_eq_some_iff.mp sets
      exact absurd ch_eq (other flag)

/-- A flag character. -/
def isFlag (ch : UInt8) : Bool := (flagOf {} ch).isSome

theorem flagOf_of_not_isFlag {flags : Flags} {ch : UInt8} (other : isFlag ch = false) :
    flagOf flags ch = none := by
  rw [isFlag, Option.isSome_eq_false_iff, Option.isNone_iff_eq_none, flagOf_eq_none_iff] at other
  exact flagOf_eq_none_iff.mpr other

theorem readFlags_of_stops {rest : Bytes} (stops : Stops isFlag rest) (flags : Flags)
    (written : List Flag) :
    readFlags flags (written.map Flag.char ++ rest) = (written.foldl Flag.set flags, rest) := by
  induction written generalizing flags with
  | nil =>
      cases rest with
      | nil => rfl
      | cons ch rest =>
          rw [List.map_nil, List.nil_append, readFlags, flagOf_of_not_isFlag (stops_cons.mp stops)]
          rfl
  | cons flag written ih =>
      rw [List.map_cons, List.cons_append, readFlags, flagOf_eq_some_iff.mpr ⟨flag, rfl, rfl⟩]
      exact ih _

/-- The flags that the loop reads. -/
theorem exists_flags_of_readFlags {flags flags' : Flags} {format rest : Bytes}
    (read : readFlags flags format = (flags', rest)) :
    ∃ written : List Flag, format = written.map Flag.char ++ rest ∧ Stops isFlag rest ∧
      flags' = written.foldl Flag.set flags := by
  induction format generalizing flags with
  | nil =>
      cases read
      exact ⟨[], rfl, stops_nil, rfl⟩
  | cons ch format ih =>
      rw [readFlags] at read
      rcases sets : flagOf flags ch with - | flags''
      · rw [sets] at read
        cases read
        refine ⟨[], rfl, stops_cons.mpr ?_, rfl⟩
        rw [isFlag, Option.isSome_eq_false_iff, Option.isNone_iff_eq_none]
        exact flagOf_eq_none_iff.mpr (flagOf_eq_none_iff.mp sets)
      · rw [sets] at read
        obtain ⟨flag, rfl, rfl⟩ := flagOf_eq_some_iff.mp sets
        obtain ⟨written, format_eq, stops, flags_eq⟩ := ih read
        exact ⟨flag :: written, by rw [format_eq]; rfl, stops, flags_eq⟩

section Fields

variable {δ : Type} {va : List (Argument δ)} {flags : Flags} {rest : Bytes}

theorem readWidth_of_stops {width : Option Amount}
    (stops : ∀ digits, width = some (.number digits) → Stops isDigit rest)
    (absent : width = none → Stops (fun ch => isDigit ch ∨ ch = ascii '*') rest) :
    readWidth flags ((width.map Amount.text).getD [] ++ rest) va =
      (widthOf flags va width).map fun read => (read.1, read.2.1, rest, read.2.2) := by
  rcases width with - | digits | -
  · cases rest with
    | nil => rfl
    | cons ch rest =>
        have other := stops_cons.mp (absent rfl)
        rw [decide_eq_false_iff_not, not_or] at other
        rw [Option.map_none, Option.getD_none, List.nil_append, readWidth, if_neg other.1,
          if_neg other.2]
        rfl
  · obtain ⟨ch, chars, chars_eq⟩ := List.exists_cons_of_ne_nil digits.nonempty
    have first : isDigit ch := digits.digits ch (chars_eq ▸ List.mem_cons_self)
    have read := atoi_of_stops (stops digits rfl) 0 digits.digits
    rw [chars_eq, List.cons_append] at read
    rw [Option.map_some, Option.getD_some, Amount.text, chars_eq, List.cons_append, readWidth,
      if_pos first, read]
    rw [← chars_eq]
    rfl
  · rw [Option.map_some, Option.getD_some, Amount.text, List.singleton_append, readWidth,
      if_neg (by decide), if_pos rfl, widthOf]
    rcases vaArgInt va with fault | ⟨argument, left⟩ <;>
      simp only [bind, Except.bind, Except.map, pure, Except.pure]

theorem readPrecision_of_stops {precision : Option (Option Amount)}
    (stops : ∀ digits, precision = some (some (.number digits)) → Stops isDigit rest)
    (bare : precision = some none → Stops (fun ch => isDigit ch ∨ ch = ascii '*') rest)
    (absent : precision = none → rest.head? ≠ some (ascii '.')) :
    readPrecision flags (pointText precision ++ rest) va =
      (precisionOf flags va precision).map fun read => (read.1, read.2.1, rest, read.2.2) := by
  rcases precision with - | - | digits | -
  · rw [pointText, List.nil_append, readPrecision, if_neg (absent rfl)]
    rfl
  · cases rest with
    | nil => rfl
    | cons ch rest =>
        have other := stops_cons.mp (bare rfl)
        rw [decide_eq_false_iff_not, not_or] at other
        simp only [pointText, Option.map_none, Option.getD_none, List.cons_append, List.nil_append,
          readPrecision, List.head?_cons, if_true, List.tail_cons, other.1, other.2, if_false,
          Bool.false_eq_true]
        rfl
  · obtain ⟨ch, chars, chars_eq⟩ := List.exists_cons_of_ne_nil digits.nonempty
    have first : isDigit ch := digits.digits ch (chars_eq ▸ List.mem_cons_self)
    have read := atoi_of_stops (stops digits rfl) 0 digits.digits
    rw [chars_eq, List.cons_append] at read
    simp only [pointText, Option.map_some, Option.getD_some, Amount.text, chars_eq,
      List.cons_append, readPrecision, List.head?_cons, if_true, List.tail_cons, first, read]
    rw [← chars_eq]
    rfl
  · simp only [pointText, Option.map_some, Option.getD_some, Amount.text, List.cons_append,
      List.nil_append, readPrecision, List.head?_cons, if_true, List.tail_cons, precisionOf]
    rw [if_neg (by decide)]
    rcases vaArgInt va with fault | ⟨argument, left⟩ <;>
      simp only [bind, Except.bind, Except.map, pure, Except.pure]

theorem readLength_long {ch : UInt8} (member : ch ∈ ['t', 'j', 'z'].map ascii) :
    readLength flags (ch :: rest) = ({ flags with long := true }, rest) := by
  simp only [List.map_cons, List.map_nil, List.mem_cons, List.not_mem_nil, or_false] at member
  have others : ch ≠ ascii 'l' ∧ ch ≠ ascii 'h' := by
    rcases member with rfl | rfl | rfl <;> decide
  rw [readLength, if_neg others.1, if_neg others.2, if_pos member]

theorem readLength_of_ends {length : Option Length}
    (absent : length = none → ∀ ch ∈ rest.head?, ch ∉ ['l', 'h', 't', 'j', 'z'].map ascii)
    (single : length = some .l → rest.head? ≠ some (ascii 'l'))
    (short : length = some .h → rest.head? ≠ some (ascii 'h')) :
    readLength flags ((length.map Length.text).getD [] ++ rest) =
      (length.elim flags (Length.set flags), rest) := by
  rcases length with - | length
  · cases rest with
    | nil => rfl
    | cons ch rest =>
        have other := absent rfl ch rfl
        simp only [List.map_cons, List.map_nil, List.mem_cons, List.not_mem_nil, or_false, not_or]
          at other
        rw [Option.map_none, Option.getD_none, List.nil_append, readLength, if_neg other.1,
          if_neg other.2.1, if_neg (by tauto)]
        rfl
  · cases length with
    | l =>
        change readLength flags (ascii 'l' :: rest) = _
        rw [readLength, if_pos rfl, if_neg (single rfl)]
        rfl
    | ll =>
        change readLength flags (ascii 'l' :: ascii 'l' :: rest) = _
        rw [readLength, if_pos rfl, if_pos List.head?_cons]
        rfl
    | h =>
        change readLength flags (ascii 'h' :: rest) = _
        rw [readLength, if_neg (by decide), if_pos rfl, if_neg (short rfl)]
        rfl
    | hh =>
        change readLength flags (ascii 'h' :: ascii 'h' :: rest) = _
        rw [readLength, if_neg (by decide), if_pos rfl, if_pos List.head?_cons]
        rfl
    | t => exact readLength_long (by decide)
    | j => exact readLength_long (by decide)
    | z => exact readLength_long (by decide)

end Fields

/-! ## The fields that a directive is written with -/

namespace Fields

variable {fields : Fields} {kind : UInt8 → Bool} {tail : Bytes}

/-- Letters that are checked one after the other; there is no need to go through all characters. -/
theorem all_letters {letters : Bytes} (all : (letters.all fun ch => !kind ch) = true) :
    ∀ ch ∈ letters, kind ch = false := by
  intro ch member
  have checked := List.all_eq_true.mp all ch member
  rwa [Bool.not_eq_true'] at checked

/-- What comes after the precision begins with a length or with what follows the fields. -/
theorem stops_lengthText (letters : ∀ ch ∈ ['l', 'h', 't', 'j', 'z'].map ascii, kind ch = false)
    (stops : fields.length = none → Stops kind tail) :
    Stops kind (fields.lengthText ++ tail) := by
  rw [lengthText]
  rcases length_eq : fields.length with - | length
  · exact stops length_eq
  · cases length with
    | l => exact stops_cons.mpr (letters _ (by decide))
    | ll => exact stops_cons.mpr (letters _ (by decide))
    | h => exact stops_cons.mpr (letters _ (by decide))
    | hh => exact stops_cons.mpr (letters _ (by decide))
    | t => exact stops_cons.mpr (letters _ (by decide))
    | j => exact stops_cons.mpr (letters _ (by decide))
    | z => exact stops_cons.mpr (letters _ (by decide))

/-- What comes after the width begins with a precision, a length or with what follows the fields. -/
theorem stops_precisionText
    (letters : ∀ ch ∈ ['.', 'l', 'h', 't', 'j', 'z'].map ascii, kind ch = false)
    (stops : fields.length = none → fields.precision = none → Stops kind tail) :
    Stops kind (fields.precisionText ++ (fields.lengthText ++ tail)) := by
  rw [precisionText]
  rcases precision_eq : fields.precision with - | amount
  · exact stops_lengthText (fun ch member => letters ch (List.mem_cons_of_mem _ member))
      fun length_eq => stops length_eq precision_eq
  · exact stops_cons.mpr (letters _ List.mem_cons_self)

/-- What comes after the flags is no flag. -/
theorem stops_widthText (ends : fields.Ends tail) :
    Stops isFlag (fields.widthText ++ (fields.precisionText ++ (fields.lengthText ++ tail))) := by
  rw [widthText]
  rcases width_eq : fields.width with - | digits | -
  · apply stops_precisionText (all_letters (by decide))
    intro length_eq precision_eq ch member
    have ended := ends ch member
    rw [Continues, length_eq, precision_eq, width_eq] at ended
    simp only [not_or, not_exists] at ended
    rw [isFlag, Option.isSome_eq_false_iff, Option.isNone_iff_eq_none, flagOf_eq_none_iff]
    exact ended.2.2.2.2
  · obtain ⟨ch, chars, chars_eq⟩ := List.exists_cons_of_ne_nil digits.nonempty
    have plain := fields.width_plain digits width_eq
    have digit : isDigit ch := digits.digits ch (chars_eq ▸ List.mem_cons_self)
    rw [Option.map_some, Option.getD_some, Amount.text, chars_eq, List.cons_append, stops_cons,
      isFlag, Option.isSome_eq_false_iff, Option.isNone_iff_eq_none, flagOf_eq_none_iff]
    rintro flag rfl
    rw [chars_eq, List.head?_cons, ne_eq, Option.some.injEq] at plain
    cases flag with
    | zero => exact plain rfl
    | minus => exact absurd digit (by decide)
    | plus => exact absurd digit (by decide)
    | space => exact absurd digit (by decide)
    | hash => exact absurd digit (by decide)
  · exact stops_cons.mpr (by decide)

variable {δ : Type} {va : List (Argument δ)}

/-- A directive is read back from how it is written. -/
theorem readDirective_text (ends : fields.Ends tail) :
    readDirective (fields.text ++ tail) va =
      fields.evaluate va >>= fun evaluated => directiveOf evaluated tail := by
  have flags_read := readFlags_of_stops (stops_widthText ends) {} fields.flags
  have width_read (flags : Flags) : readWidth flags
      (fields.widthText ++ (fields.precisionText ++ (fields.lengthText ++ tail))) va =
        (widthOf flags va fields.width).map fun read =>
          (read.1, read.2.1, fields.precisionText ++ (fields.lengthText ++ tail), read.2.2) := by
    apply readWidth_of_stops
    · intro digits width_eq
      apply stops_precisionText (all_letters (by decide))
      intro length_eq precision_eq ch member
      have ended := ends ch member
      rw [Continues, length_eq, precision_eq, width_eq] at ended
      simp only [not_or, Bool.not_eq_true] at ended
      exact ended.2.2
    · intro width_eq
      apply stops_precisionText (all_letters (by decide))
      intro length_eq precision_eq ch member
      have ended := ends ch member
      rw [Continues, length_eq, precision_eq, width_eq] at ended
      simp only [not_or] at ended
      exact decide_eq_false (by tauto)
  have precision_read (flags : Flags) (va : List (Argument δ)) : readPrecision flags
      (fields.precisionText ++ (fields.lengthText ++ tail)) va =
        (precisionOf flags va fields.precision).map fun read =>
          (read.1, read.2.1, fields.lengthText ++ tail, read.2.2) := by
    apply readPrecision_of_stops
    · intro digits precision_eq
      apply stops_lengthText (all_letters (by decide))
      intro length_eq ch member
      have ended := ends ch member
      rw [Continues, length_eq, precision_eq] at ended
      simp only [not_or, Bool.not_eq_true] at ended
      exact ended.2
    · intro precision_eq
      apply stops_lengthText (all_letters (by decide))
      intro length_eq ch member
      have ended := ends ch member
      rw [Continues, length_eq, precision_eq] at ended
      simp only [not_or] at ended
      exact decide_eq_false (by tauto)
    · intro precision_eq head_eq
      have stops : Stops (fun ch => ch = ascii '.') (fields.lengthText ++ tail) := by
        apply stops_lengthText (all_letters (by decide))
        intro length_eq ch member
        have ended := ends ch member
        rw [Continues, length_eq, precision_eq] at ended
        simp only [not_or] at ended
        exact decide_eq_false ended.2.1
      exact absurd (stops _ head_eq) (by decide)
  have length_read (flags : Flags) : readLength flags (fields.lengthText ++ tail) =
      (fields.length.elim flags (Length.set flags), tail) := by
    apply readLength_of_ends
    · intro length_eq ch member
      have ended := ends ch member
      rw [Continues, length_eq] at ended
      exact (not_or.mp ended).1
    · intro length_eq head_eq
      have ended := ends _ head_eq
      rw [Continues, length_eq] at ended
      exact ended rfl
    · intro length_eq head_eq
      have ended := ends _ head_eq
      rw [Continues, length_eq] at ended
      exact ended rfl
  rw [readDirective, text, List.append_assoc, List.append_assoc, List.append_assoc, flags_read,
    evaluate]
  dsimp only
  rw [width_read]
  rcases widthOf (fields.flags.foldl Flag.set {}) va fields.width with fault | ⟨flags, width, va⟩
  · rfl
  simp only [bind, Except.bind, Except.map]
  rw [precision_read]
  rcases precisionOf flags va fields.precision with fault | ⟨flags, precision, va⟩
  · rfl
  simp only [Except.map, pure, Except.pure, length_read]
  cases tail <;> rfl

end Fields

/-! ## Every text begins with fields -/

/-- The digits at the start of a text. -/
theorem exists_digits {ch : UInt8} (rest : Bytes) (digit : isDigit ch) :
    ∃ (digits : Digits) (tail : Bytes), ch :: rest = digits.chars ++ tail ∧ Stops isDigit tail ∧
      digits.chars.head? = some ch := by
  obtain ⟨chars, str_eq, digits, stops, -⟩ :=
    exists_digits_of_atoi (Prod.mk.eta (p := atoi 0 (ch :: rest))).symm
  cases chars with
  | nil =>
      rw [List.nil_append] at str_eq
      rw [← str_eq, stops_cons, digit] at stops
      cases stops
  | cons first chars =>
      rw [List.cons_append] at str_eq
      obtain rfl : ch = first := List.head_eq_of_cons_eq str_eq
      exact ⟨⟨ch :: chars, List.cons_ne_nil _ _, digits⟩, _, str_eq, stops, List.head?_cons⟩

/-- The amount at the start of a text. -/
theorem exists_amount (text : Bytes) :
    ∃ (amount : Option Amount) (tail : Bytes),
      text = (amount.map Amount.text).getD [] ++ tail ∧
        (∀ digits, amount = some (.number digits) →
          Stops isDigit tail ∧ digits.chars.head? = text.head?) ∧
        (amount = none → Stops (fun ch => isDigit ch ∨ ch = ascii '*') text) := by
  cases text with
  | nil => exact ⟨none, [], rfl, by simp, fun _ => stops_nil⟩
  | cons ch rest =>
      by_cases digit : isDigit ch
      case pos =>
        obtain ⟨digits, tail, text_eq, stops, head_eq⟩ := exists_digits rest digit
        refine ⟨some (.number digits), tail, text_eq, ?_, by simp⟩
        rintro _ ⟨⟩
        exact ⟨stops, head_eq⟩
      case neg =>
        by_cases star : ch = ascii '*'
        case pos => exact ⟨some .star, rest, by rw [star]; rfl, by simp, by simp⟩
        case neg =>
          exact ⟨none, ch :: rest, rfl, by simp,
            fun _ => stops_cons.mpr (decide_eq_false (not_or.mpr ⟨digit, star⟩))⟩

/-- The length at the start of a text. -/
theorem exists_length (text : Bytes) :
    ∃ (length : Option Length) (tail : Bytes),
      text = (length.map Length.text).getD [] ++ tail ∧
        (length = none → ∀ ch ∈ text.head?, ch ∉ ['l', 'h', 't', 'j', 'z'].map ascii) ∧
        (length = some .l → tail.head? ≠ some (ascii 'l')) ∧
        (length = some .h → tail.head? ≠ some (ascii 'h')) := by
  cases text with
  | nil => exact ⟨none, [], rfl, by simp, by simp, by simp⟩
  | cons ch rest =>
      by_cases member : ch ∈ ['l', 'h', 't', 'j', 'z'].map ascii
      case neg =>
        refine ⟨none, ch :: rest, rfl, ?_, by simp, by simp⟩
        rintro - other ⟨⟩
        exact member
      case pos =>
        simp only [List.map_cons, List.map_nil, List.mem_cons, List.not_mem_nil, or_false]
          at member
        rcases member with rfl | rfl | rfl | rfl | rfl
        · by_cases double : rest.head? = some (ascii 'l')
          case pos =>
            obtain ⟨rest, rfl⟩ := List.head?_eq_some_iff.mp double
            exact ⟨some .ll, rest, rfl, by simp, by simp, by simp⟩
          case neg => exact ⟨some .l, rest, rfl, by simp, fun _ => double, by simp⟩
        · by_cases double : rest.head? = some (ascii 'h')
          case pos =>
            obtain ⟨rest, rfl⟩ := List.head?_eq_some_iff.mp double
            exact ⟨some .hh, rest, rfl, by simp, by simp, by simp⟩
          case neg => exact ⟨some .h, rest, rfl, by simp, by simp, fun _ => double⟩
        · exact ⟨some .t, rest, rfl, by simp, by simp, by simp⟩
        · exact ⟨some .j, rest, rfl, by simp, by simp, by simp⟩
        · exact ⟨some .z, rest, rfl, by simp, by simp, by simp⟩

/-- The precision at the start of a text. -/
theorem exists_precision (text : Bytes) :
    ∃ (precision : Option (Option Amount)) (tail : Bytes), text = pointText precision ++ tail ∧
      (∀ digits, precision = some (some (.number digits)) → Stops isDigit tail) ∧
      (precision = some none → Stops (fun ch => isDigit ch ∨ ch = ascii '*') tail) ∧
      (precision = none → text.head? ≠ some (ascii '.')) := by
  by_cases point : text.head? = some (ascii '.')
  case pos =>
    obtain ⟨rest, rfl⟩ := List.head?_eq_some_iff.mp point
    obtain ⟨amount, tail, rest_eq, number, absent⟩ := exists_amount rest
    refine ⟨some amount, tail, by rw [rest_eq]; rfl, ?_, ?_, by simp⟩
    · rintro digits ⟨⟩
      exact (number digits rfl).1
    · rintro ⟨⟩
      rw [Option.map_none, Option.getD_none, List.nil_append] at rest_eq
      exact rest_eq ▸ absent rfl
  case neg => exact ⟨none, text, rfl, by simp, by simp, fun _ => point⟩

/-- Every text begins with the fields of a directive, and what follows them continues none. -/
theorem exists_fields (text : Bytes) :
    ∃ (fields : Fields) (tail : Bytes), text = fields.text ++ tail ∧ fields.Ends tail := by
  obtain ⟨flags, flags_eq, stops, -⟩ :=
    exists_flags_of_readFlags (Prod.mk.eta (p := readFlags {} text)).symm
  generalize (readFlags {} text).2 = rest at flags_eq stops
  obtain ⟨width, width_tail, rest_eq, width_number, width_absent⟩ := exists_amount rest
  obtain ⟨precision, precision_tail, width_tail_eq, number, bare, precision_absent⟩ :=
    exists_precision width_tail
  obtain ⟨length, tail, precision_tail_eq, absent, single, short⟩ := exists_length precision_tail
  have width_plain : ∀ digits, width = some (.number digits) →
      digits.chars.head? ≠ some (ascii '0') := by
    intro digits width_eq head_eq
    rw [(width_number digits width_eq).2] at head_eq
    exact absurd (stops _ head_eq) (by decide)
  refine ⟨⟨flags, width, width_plain, precision, length⟩, tail, ?_, ?_⟩
  · rw [flags_eq, rest_eq, width_tail_eq, precision_tail_eq]
    simp only [Fields.text, Fields.widthText, Fields.precisionText, Fields.lengthText,
      List.append_assoc]
  -- Where a field is absent, what follows it is what the reader of the field has declined.
  intro ch member continues
  rw [Fields.Continues] at continues
  rcases length with - | length
  case some =>
    cases length with
    | l => exact single rfl (member.trans (congrArg some continues))
    | h => exact short rfl (member.trans (congrArg some continues))
    | ll => exact continues
    | hh => exact continues
    | t => exact continues
    | j => exact continues
    | z => exact continues
  obtain rfl : precision_tail = tail := precision_tail_eq
  rcases continues with letter | continues
  · exact absent rfl ch member letter
  rcases precision with - | - | digits | -
  · obtain rfl : width_tail = precision_tail := width_tail_eq
    rcases continues with point | continues
    · exact precision_absent rfl (member.trans (congrArg some point))
    rcases width with - | digits | -
    · obtain rfl : rest = width_tail := rest_eq
      have declined := width_absent rfl ch member
      rw [decide_eq_false_iff_not, not_or] at declined
      rcases continues with digit | star | ⟨flag, flag_eq⟩
      · exact declined.1 digit
      · exact declined.2 star
      · have declined := stops ch member
        rw [isFlag, Option.isSome_eq_false_iff, Option.isNone_iff_eq_none, flagOf_eq_none_iff]
          at declined
        exact declined flag flag_eq
    · rw [(width_number digits rfl).1 ch member] at continues
      cases continues
    · exact continues
  · have declined := bare rfl ch member
    rw [decide_eq_false_iff_not] at declined
    exact declined continues
  · rw [number digits rfl ch member] at continues
    cases continues
  · exact continues

end Printf
end TaRef
