import TaRef.Printf.Messages

/-!
# Messages with decimal numbers

A message is made of characters and of numbers in decimal.  It prints the characters as they are and
the digits of its arguments, so that a reader gets the arguments back.
-/

namespace TaRef
namespace Printf

/-! ## Decimal numbers -/

/-- The digits of a number behind its sign, without zeros in front. -/
def decimalText (value : Int) : Bytes :=
  (if value < 0 then [ascii '-'] else []) ++
    (digitAlphabet false 10 (by decide)).numeral value.natAbs (Nat.log 10 value.natAbs + 1)

/-- Read a number that is written so. -/
def readDecimal (text : Bytes) : Option Int := readInteger 10 (by decide) text

/-- A number of up to 64 bits. -/
def Short (value : Int) : Prop := value.natAbs < 10 ^ 20

section Decimal

variable {value : Int}

theorem Short.digits_le (short : Short value) : Nat.log 10 value.natAbs + 1 ≤ 20 :=
  Nat.log_lt_of_lt_pow' (by decide) short

theorem length_decimalText_le (short : Short value) : (decimalText value).length ≤ 21 := by
  have digits_le := short.digits_le
  rw [decimalText, List.length_append, Alphabet.length_numeral]
  split_ifs <;> simp only [List.length_singleton, List.length_nil] <;> omega

/-- A number is written with digits and a sign. -/
theorem notMem_decimalText {ch : UInt8} (minus : ch ≠ ascii '-') (other : digitOf ch = none) :
    ch ∉ decimalText value := by
  intro member
  rcases List.mem_append.mp member with sign | digit
  · split_ifs at sign
    · exact minus (List.mem_singleton.mp sign)
    · exact absurd sign List.not_mem_nil
  · exact ne_of_mem_numeral (by decide) digit other rfl

theorem decimalText_eq (short : Short value) :
    decimalText value =
      signText value {} (Nat.log 10 value.natAbs + 1) ++
        (digitAlphabet false 10 (by decide)).numeral value.natAbs
          (Nat.log 10 value.natAbs + 1) := by
  have room : Nat.log 10 value.natAbs + 1 < bufferSize :=
    Nat.lt_of_le_of_lt short.digits_le (by decide)
  rw [decimalText, signText, if_pos room]
  rfl

/-- A reader gets the number back. -/
theorem readDecimal_decimalText (short : Short value) :
    readDecimal (decimalText value) = some value := by
  have room : Nat.log 10 value.natAbs + 1 < bufferSize :=
    Nat.lt_of_le_of_lt short.digits_le (by decide)
  have read := @readInteger_signText false 10 (by decide) (Nat.log 10 value.natAbs + 1) (by decide)
    value {} 0 0
  rw [← decimalText_eq short, List.replicate_zero, List.nil_append, List.append_nil,
    if_pos (Nat.succ_pos _), Nat.mod_eq_of_lt (Nat.lt_pow_succ_log_self (by decide) _)] at read
  rw [readDecimal, read, Option.some.injEq]
  split_ifs with negative
  · omega
  · have nonnegative : 0 ≤ value := Int.not_lt.mp fun below => negative ⟨below, room⟩
    omega

/-- `_ntoa_long` writes a number so when the directive has neither a flag nor a width. -/
theorem ntoaText_decimal (short : Short value) (long : Bool) :
    ntoaText value.natAbs (value < 0) 10 0 0 { long } = decimalText value := by
  have digits_le := short.digits_le
  have stored : storedDigits 10 value.natAbs false = Nat.log 10 value.natAbs + 1 := by
    rw [storedDigits, if_neg (by simp), bufferSize]
    omega
  have padded : paddedDigits 10 value.natAbs 0 0 { long } = Nat.log 10 value.natAbs + 1 := by
    change max (storedDigits 10 value.natAbs false) (min 0 bufferSize) = _
    rw [stored]
    omega
  have kept : keptDigits 10 value 0 0 { long } = Nat.log 10 value.natAbs + 1 := by
    rw [keptDigits, padded, if_neg (by simp), if_neg (by simp)]
  have chars := @ntoaBuffer_chars 10 (by decide) (by decide) value { long } (by simp) 0 0
  dsimp only at chars
  rw [kept, if_neg (by simp)] at chars
  rw [ntoaText, numberText, if_neg Bool.false_ne_true, if_neg Bool.false_ne_true, UInt32.toNat_zero,
    Nat.zero_sub, List.replicate_zero, List.nil_append, decimalText_eq short, chars]
  rfl

end Decimal

/-! ## Messages -/

/-- A part of a message: characters that stand for themselves, or an argument of `%u`, `%d` or
`%lu`. -/
inductive Part
  | text (chars : Bytes) (plain : ∀ ch ∈ chars, ch ≠ ascii '%' ∧ ch ≠ 0)
  | unsigned (value : UInt32)
  | signed (value : Int32)
  | long (value : UInt64)

namespace Part

/-- How a part is written in the format. -/
def format : Part → Bytes
  | .text chars _ => chars
  | .unsigned _ => ['%', 'u'].map ascii
  | .signed _ => ['%', 'd'].map ascii
  | .long _ => ['%', 'l', 'u'].map ascii

/-- The arguments of a part. -/
def arguments {δ : Type} : Part → List (Argument δ)
  | .text _ _ => []
  | .unsigned value => [.int value]
  | .signed value => [.int value.toUInt32]
  | .long value => [.long value]

/-- What a part prints. -/
def characters : Part → Bytes
  | .text chars _ => chars
  | .unsigned value => decimalText value.toNat
  | .signed value => decimalText value.toInt
  | .long value => decimalText value.toNat

end Part

theorem short_toNat (value : UInt32) : Short value.toNat := by
  rw [Short, Int.natAbs_natCast]
  exact value.toNat_lt.trans (by decide)

theorem short_toInt (value : Int32) : Short value.toInt := by
  have above := value.toInt_lt
  have below := value.le_toInt
  rw [Short]
  omega

theorem signedValue_toUInt32 {charType : CharType} (value : Int32) :
    signedValue charType {} value.toUInt32 = value.toInt := by
  have bits : value.toUInt32.toNat = value.toBitVec.toNat := rfl
  unfold signedValue
  rw [if_neg Bool.false_ne_true, if_neg Bool.false_ne_true, wrapInt, Int32.toInt,
    BitVec.toInt_eq_toNat_bmod, bits]

theorem short_toNat64 (value : UInt64) : Short value.toNat := by
  rw [Short, Int.natAbs_natCast]
  exact value.toNat_lt.trans (by decide)

section Parts

variable {δ : Type} {doubles : Doubles δ} {charType : CharType}

/-- A directive for an integer prints it in decimal. -/
theorem emissionOf_decimal {specifier : UInt8} {long : Bool} {value : Int}
    {va rest : List (Argument δ)}
    (integer : specifier ∈ ['d', 'i', 'u', 'x', 'X', 'o', 'b'].map ascii)
    (decimal : baseOf specifier = 10)
    (flags_eq : integerFlags specifier { long } = { long }) (short : Short value)
    (takes : integerArgument charType ⟨{ long }, 0, 0, specifier, [], va⟩ = .ok (value, rest)) :
    emissionOf doubles charType ⟨{ long }, 0, 0, specifier, [], va⟩ =
      .ok (rest, .text (decimalText value)) := by
  rw [emissionOf, if_pos integer, integerText_eq, takes]
  simp only [bind, Except.bind, Except.map, decimal, flags_eq, ntoaText_decimal short]
  rfl

/-- The pieces behind others have the arguments that those leave. -/
theorem meaning_append (left right : List Piece) (va : List (Argument δ)) :
    meaning doubles charType (left ++ right) va = do
      let (emissions, va) ← meaning doubles charType left va
      let (emissions', va) ← meaning doubles charType right va
      return (emissions ++ emissions', va) := by
  induction left generalizing va with
  | nil =>
      rw [List.nil_append, meaning]
      simp only [bind, Except.bind]
      rcases meaning doubles charType right va with fault | ⟨emissions, rest⟩ <;> rfl
  | cons piece left ih =>
      rw [List.cons_append, meaning, meaning]
      rcases piece.meaning doubles charType va with fault | ⟨rest, emission⟩
      · rfl
      simp only [bind, Except.bind, ih]
      rcases meaning doubles charType left rest with fault | ⟨emissions, rest⟩
      · rfl
      simp only [pure, Except.pure]
      rcases meaning doubles charType right rest with fault | ⟨emissions', rest⟩ <;> rfl

variable (doubles charType) in
/-- A format takes some arguments and stands for some characters. -/
def Stands (format : Bytes) (arguments : List (Argument δ)) (characters : Bytes) : Prop :=
  ∃ pieces emissions, formatText pieces = format ∧
    (∀ va, meaning doubles charType pieces (arguments ++ va) = .ok (emissions, va)) ∧
    emissions.flatMap Emission.characters = characters ∧ Emission.restart ∉ emissions

theorem stands_nil : Stands doubles charType [] [] [] :=
  ⟨[], [], rfl, fun _ => rfl, rfl, List.not_mem_nil⟩

theorem Stands.append {format format' characters characters' : Bytes}
    {arguments arguments' : List (Argument δ)}
    (first : Stands doubles charType format arguments characters)
    (later : Stands doubles charType format' arguments' characters') :
    Stands doubles charType (format ++ format') (arguments ++ arguments')
      (characters ++ characters') := by
  obtain ⟨pieces, emissions, rfl, means, rfl, texts⟩ := first
  obtain ⟨pieces', emissions', rfl, means', rfl, texts'⟩ := later
  refine ⟨pieces ++ pieces', emissions ++ emissions', List.flatMap_append, fun va => ?_,
    List.flatMap_append, ?_⟩
  · rw [List.append_assoc, meaning_append, means]
    simp only [bind, Except.bind, means']
    rfl
  · exact fun member => (List.mem_append.mp member).elim texts texts'

/-- A character that stands for itself. -/
theorem stands_character {ch : UInt8} (other : ch ≠ ascii '%') (nonzero : ch ≠ 0) :
    Stands doubles charType [ch] [] [ch] :=
  ⟨[.plain ch other nonzero], [.text [ch]], rfl, fun _ => rfl, rfl, by simp⟩

/-- A directive for an integer, with the length `l` or without. -/
theorem stands_decimal {specifier : UInt8} {long : Bool} {value : Int} {argument : Argument δ}
    (ends : ¬ (Fields.mk [] none nofun none (if long then some .l else none)).Continues specifier)
    (nonzero : specifier ≠ 0)
    (integer : specifier ∈ ['d', 'i', 'u', 'x', 'X', 'o', 'b'].map ascii)
    (decimal : baseOf specifier = 10)
    (flags_eq : integerFlags specifier { long } = { long }) (short : Short value)
    (takes : ∀ va, integerArgument charType ⟨{ long }, 0, 0, specifier, [], argument :: va⟩ =
      .ok (value, va)) :
    Stands doubles charType
      (ascii '%' :: ((if long then [ascii 'l'] else []) ++ [specifier])) [argument]
      (decimalText value) := by
  refine ⟨[.directive _ specifier ends nonzero], [.text (decimalText value)], ?_, fun va => ?_, ?_,
    by simp⟩
  · cases long <;> rfl
  · have evaluates : (Fields.mk [] none nofun none (if long then some .l else none)).evaluate
        (argument :: va) = .ok ({ long }, 0, 0, argument :: va) := by
      cases long <;> rfl
    rw [List.singleton_append, meaning, Piece.meaning, evaluates]
    simp only [bind, Except.bind,
      emissionOf_decimal integer decimal flags_eq short (takes va), meaning]
    rfl
  · rw [List.flatMap_singleton]
    rfl

theorem Part.stands (part : Part) :
    Stands doubles charType part.format part.arguments part.characters := by
  have plain_ends {specifier : UInt8} (member : specifier ∈ ['d', 'u'].map ascii) :
      ¬ (Fields.mk [] none nofun none none).Continues specifier := by
    simp only [List.map_cons, List.map_nil, List.mem_cons, List.not_mem_nil, or_false] at member
    rintro (letter | point | digit | star | ⟨flag, flagged⟩)
    · rcases member with rfl | rfl <;> exact absurd letter (by decide)
    · rcases member with rfl | rfl <;> exact absurd point (by decide)
    · rcases member with rfl | rfl <;> exact absurd digit (by decide)
    · rcases member with rfl | rfl <;> exact absurd star (by decide)
    · rcases member with rfl | rfl <;> cases flag <;> exact absurd flagged (by decide)
  cases part with
  | text chars plain =>
      rw [format, arguments, characters]
      induction chars with
      | nil => exact stands_nil
      | cons ch chars ih =>
          have first := @stands_character δ doubles charType ch (plain ch List.mem_cons_self).1
            (plain ch List.mem_cons_self).2
          exact first.append (ih fun other member => plain other (List.mem_cons_of_mem _ member))
  | unsigned value =>
      exact @stands_decimal δ doubles charType (ascii 'u') false value.toNat (.int value)
        (plain_ends (by decide)) (by decide) (by decide) (by decide) (by decide)
        (short_toNat value) fun va => rfl
  | signed value =>
      have flags_eq : integerFlags (ascii 'd') {} = {} := by decide
      refine @stands_decimal δ doubles charType (ascii 'd') false value.toInt (.int value.toUInt32)
        (plain_ends (by decide)) (by decide) (by decide) (by decide) flags_eq (short_toInt value)
        fun va => ?_
      rw [integerArgument]
      dsimp only
      rw [flags_eq, if_neg (by decide), vaArgInt, Except.map, if_pos (by decide)]
      exact congrArg (fun taken => Except.ok (taken, va)) (signedValue_toUInt32 value)
  | long value =>
      exact @stands_decimal δ doubles charType (ascii 'u') true value.toNat (.long value)
        (by decide : ascii 'u' ≠ ascii 'l') (by decide) (by decide) (by decide) (by decide)
        (short_toNat64 value) fun va => rfl

theorem stands_parts (parts : List Part) :
    Stands doubles charType (parts.flatMap Part.format) (parts.flatMap Part.arguments)
      (parts.flatMap Part.characters) := by
  induction parts with
  | nil => exact stands_nil
  | cons part parts ih =>
      rw [List.flatMap_cons, List.flatMap_cons, List.flatMap_cons]
      exact part.stands.append ih

/-- A message prints its parts one after the other. -/
theorem fctprintf_parts (parts : List Part) :
    fctprintf doubles charType collect [] (parts.flatMap Part.format)
        (parts.flatMap Part.arguments) =
      .ok (wrapInt (parts.flatMap Part.characters).length,
        parts.flatMap Part.characters ++ [0]) := by
  obtain ⟨pieces, emissions, format_eq, means, text_eq, texts⟩ :=
    @stands_parts δ doubles charType parts
  have emits : emitted doubles charType (parts.flatMap Part.format)
      (parts.flatMap Part.arguments) = .ok emissions := by
    have means := means []
    rw [List.append_nil] at means
    rw [← format_eq, emitted_formatText, means]
    rfl
  rw [← text_eq]
  exact fctprintf_of_emitted emits texts

theorem moderate_parts (parts : List Part) :
    Moderate doubles (parts.flatMap Part.arguments) := by
  intro value member
  obtain ⟨part, -, member⟩ := List.mem_flatMap.mp member
  cases part <;> simp [Part.arguments] at member

theorem zero_notMem_parts (parts : List Part) :
    (0 : UInt8) ∉ parts.flatMap Part.characters := by
  intro member
  obtain ⟨part, -, member⟩ := List.mem_flatMap.mp member
  cases part with
  | text chars plain => exact (plain 0 member).2 rfl
  | unsigned value => exact notMem_decimalText (by decide) rfl member
  | signed value => exact notMem_decimalText (by decide) rfl member
  | long value => exact notMem_decimalText (by decide) rfl member

end Parts

end Printf
end TaRef
