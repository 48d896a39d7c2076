import TaRef.Printf.Grammar

/-!
# Formats as sequences of pieces

A format is a sequence of characters and directives, each of which stands for something by itself.
What the loop makes of the format is what its pieces stand for, one after the other; what is left
of a format that is no such sequence is a directive that the NUL of the format cuts off.
-/

namespace TaRef
namespace Printf

/-! ## Pieces -/

/-- A piece of a format: a character, or a directive with its specifier. -/
inductive Piece
  | plain (character : UInt8) (other : character ≠ ascii '%') (nonzero : character ≠ 0)
  | directive (fields : Fields) (specifier : UInt8) (ends : ¬ fields.Continues specifier)
      (nonzero : specifier ≠ 0)

/-- How a piece is written. -/
def Piece.text : Piece → Bytes
  | .plain character _ _ => [character]
  | .directive fields specifier _ _ => ascii '%' :: (fields.text ++ [specifier])

/-- How a sequence of pieces is written. -/
def formatText (pieces : List Piece) : Bytes := pieces.flatMap Piece.text

theorem formatText_cons (piece : Piece) (pieces : List Piece) :
    formatText (piece :: pieces) = piece.text ++ formatText pieces := List.flatMap_cons

section Written

theorem Digits.zero_notMem (digits : Digits) : (0 : UInt8) ∉ digits.chars := fun member =>
  absurd (digits.digits 0 member) (by decide)

theorem Amount.zero_notMem (amount : Amount) : (0 : UInt8) ∉ amount.text := by
  cases amount with
  | number digits => exact digits.zero_notMem
  | star => decide

theorem Fields.zero_notMem (fields : Fields) : (0 : UInt8) ∉ fields.text := by
  have amount_text (amount : Option Amount) : (0 : UInt8) ∉ (amount.map Amount.text).getD [] := by
    cases amount with
    | none => exact List.not_mem_nil
    | some amount => exact amount.zero_notMem
  have flag_text : (0 : UInt8) ∉ fields.flags.map Flag.char := by
    rw [List.mem_map]
    rintro ⟨flag, -, zero⟩
    revert zero
    cases flag <;> decide
  have point_text : (0 : UInt8) ∉ fields.precisionText := by
    rw [Fields.precisionText]
    rcases fields.precision with - | amount
    · exact List.not_mem_nil
    · exact List.not_mem_cons_of_ne_of_not_mem (by decide) (amount_text amount)
  have length_text : (0 : UInt8) ∉ fields.lengthText := by
    rw [Fields.lengthText]
    rcases fields.length with - | length
    · exact List.not_mem_nil
    · cases length <;> decide
  rw [Fields.text, Fields.widthText]
  simp only [List.mem_append, not_or]
  exact ⟨flag_text, amount_text fields.width, point_text, length_text⟩

theorem zero_notMem_formatText (pieces : List Piece) : (0 : UInt8) ∉ formatText pieces := by
  rw [formatText, List.mem_flatMap]
  rintro ⟨piece, -, member⟩
  cases piece with
  | plain character other nonzero => exact nonzero (List.mem_singleton.mp member).symm
  | directive fields specifier ends nonzero =>
      rw [Piece.text, List.mem_cons, List.mem_append, List.mem_singleton] at member
      rcases member with percent | inside | last
      · exact absurd percent (by decide)
      · exact fields.zero_notMem inside
      · exact nonzero last.symm

end Written

/-- A format is a sequence of pieces, up to a directive that has no specifier. -/
theorem exists_pieces (format : Bytes) (plain : (0 : UInt8) ∉ format) :
    ∃ pieces, format = formatText pieces ∨
      ∃ fields : Fields, format = formatText pieces ++ ascii '%' :: fields.text := by
  induction length_eq : format.length using Nat.strong_induction_on generalizing format with
  | _ length ih =>
      cases format with
      | nil => exact ⟨[], .inl rfl⟩
      | cons character format =>
          rw [List.mem_cons, not_or] at plain
          by_cases percent : character = ascii '%'
          case neg =>
            obtain ⟨pieces, whole⟩ := ih format.length (by rw [← length_eq]; simp) format plain.2 rfl
            refine ⟨.plain character percent (Ne.symm plain.1) :: pieces, ?_⟩
            rcases whole with format_eq | ⟨fields, format_eq⟩
            · exact .inl (by rw [formatText_cons, ← format_eq]; rfl)
            · exact .inr ⟨fields, by rw [formatText_cons, List.append_assoc, ← format_eq]; rfl⟩
          case pos =>
            obtain ⟨fields, tail, format_eq, ends⟩ := exists_fields format
            cases tail with
            | nil => exact ⟨[], .inr ⟨fields, by rw [percent, format_eq, List.append_nil]; rfl⟩⟩
            | cons specifier tail =>
                rw [format_eq, List.mem_append, not_or, List.mem_cons, not_or] at plain
                have shorter : tail.length < length := by
                  rw [← length_eq, format_eq, List.length_cons, List.length_append,
                    List.length_cons]
                  omega
                obtain ⟨pieces, whole⟩ := ih tail.length shorter tail plain.2.2.2 rfl
                refine ⟨.directive fields specifier (ends specifier rfl)
                  (Ne.symm plain.2.2.1) :: pieces, ?_⟩
                have split_eq : character :: format =
                    (ascii '%' :: (fields.text ++ [specifier])) ++ tail := by
                  rw [percent, format_eq, List.cons_append, List.append_assoc, List.singleton_append]
                rw [split_eq, formatText_cons]
                rcases whole with tail_eq | ⟨fields, tail_eq⟩
                · exact .inl (by rw [← tail_eq]; rfl)
                · exact .inr ⟨fields, by rw [List.append_assoc, ← tail_eq]; rfl⟩

/-! ## What the pieces stand for -/

section Meaning

variable {δ : Type} (doubles : Doubles δ) (charType : CharType)

/-- What a piece stands for, and the arguments that it leaves. -/
def Piece.meaning (va : List (Argument δ)) : Piece → Except Fault (List (Argument δ) × Emission)
  | .plain character _ _ => .ok (va, .text [character])
  | .directive fields specifier _ _ => do
      let (flags, width, precision, va) ← fields.evaluate va
      emissionOf doubles charType { flags, width, precision, specifier, format := [], va }

/-- What a sequence of pieces stands for, and the arguments that it leaves. -/
def meaning : List Piece → List (Argument δ) → Except Fault (List Emission × List (Argument δ))
  | [], va => .ok ([], va)
  | piece :: pieces, va => do
      let (va, emission) ← piece.meaning doubles charType va
      let (emissions, va) ← meaning pieces va
      return (emission :: emissions, va)

variable {doubles charType}

/-- The rest of the format has no part in what a directive stands for. -/
theorem emissionOf_directive (evaluated : Flags × UInt32 × UInt32 × List (Argument δ))
    (specifier : UInt8) (format : Bytes) :
    emissionOf doubles charType ⟨evaluated.1, evaluated.2.1, evaluated.2.2.1, specifier, format,
        evaluated.2.2.2⟩ =
      emissionOf doubles charType ⟨evaluated.1, evaluated.2.1, evaluated.2.2.1, specifier, [],
        evaluated.2.2.2⟩ := rfl

/-- A directive is read from some characters at least. -/
theorem length_of_readDirective {format : Bytes} {va : List (Argument δ)} {directive : Directive δ}
    (read : readDirective format va = .ok directive) :
    directive.format.length < format.length := by
  obtain ⟨fields, tail, rfl, ends⟩ := exists_fields format
  rw [Fields.readDirective_text ends] at read
  obtain ⟨evaluated, -, read⟩ := bind_eq_ok.mp read
  cases tail with
  | nil => cases read
  | cons specifier tail =>
      cases read
      rw [List.length_append, List.length_cons]
      dsimp only
      omega

/-- More rounds than the format has characters change nothing. -/
theorem emissions_of_le {rounds : Nat} {format : Bytes} (enough : format.length ≤ rounds)
    (va : List (Argument δ)) :
    emissions doubles charType rounds format va =
      emissions doubles charType format.length format va := by
  induction length_eq : format.length using Nat.strong_induction_on generalizing rounds format va with
  | _ length ih =>
      cases format with
      | nil =>
          obtain rfl : 0 = length := length_eq
          cases rounds <;> rfl
      | cons character format =>
          rw [List.length_cons] at length_eq enough
          obtain ⟨rounds, rfl⟩ := Nat.exists_eq_add_of_le' (Nat.one_le_of_lt enough)
          rw [← length_eq, emissions, emissions]
          split
          · rw [ih format.length (by omega) (by omega) va rfl]
          · rcases read : readDirective format va with fault | directive
            · rfl
            simp only [bind, Except.bind]
            rcases emits : emissionOf doubles charType directive with fault | ⟨va, emission⟩
            · rfl
            have shorter := length_of_readDirective read
            dsimp only
            rw [ih directive.format.length (by omega) (by omega) va rfl,
              ih directive.format.length (by omega)
                (by omega : directive.format.length ≤ format.length) va rfl]

variable (doubles charType) in
/-- The loop makes of a format that begins with pieces what they stand for, and goes on behind
them with the arguments that they leave. -/
theorem emissions_formatText (pieces : List Piece) (tail : Bytes) (va : List (Argument δ)) :
    emissions doubles charType (formatText pieces ++ tail).length (formatText pieces ++ tail) va =
      meaning doubles charType pieces va >>= fun meant =>
        (emissions doubles charType tail.length tail meant.2).map (meant.1 ++ ·) := by
  induction pieces generalizing va with
  | nil =>
      rw [formatText, List.flatMap_nil, List.nil_append, meaning]
      simp only [bind, Except.bind]
      cases emissions doubles charType tail.length tail va <;> rfl
  | cons piece pieces ih =>
      rw [formatText_cons, List.append_assoc, meaning]
      cases piece with
      | plain character other nonzero =>
          rw [Piece.text, List.singleton_append, List.length_cons, emissions, if_pos other, ih]
          simp only [Piece.meaning, bind, Except.bind]
          rcases meaning doubles charType pieces va with fault | ⟨meant, left⟩
          · rfl
          simp only [pure, Except.pure]
          cases emissions doubles charType tail.length tail left <;> rfl
      | directive fields specifier ends nonzero =>
          have ends' : fields.Ends (specifier :: (formatText pieces ++ tail)) := by
            rintro ch ⟨⟩
            exact ends
          rw [Piece.text, List.cons_append, List.append_assoc, List.singleton_append,
            List.length_cons, emissions, if_neg (not_not_intro rfl), Fields.readDirective_text ends']
          simp only [Piece.meaning, bind, Except.bind]
          rcases fields.evaluate va with fault | evaluated
          · rfl
          simp only [directiveOf]
          rw [emissionOf_directive]
          rcases emissionOf doubles charType ⟨evaluated.1, evaluated.2.1, evaluated.2.2.1, specifier,
            [], evaluated.2.2.2⟩ with fault | ⟨left, emission⟩
          · rfl
          dsimp only
          rw [emissions_of_le (by simp; omega), ih]
          simp only [bind, Except.bind]
          rcases meaning doubles charType pieces left with fault | ⟨meant, left⟩
          · rfl
          simp only [pure, Except.pure]
          cases emissions doubles charType tail.length tail left <;> rfl

end Meaning

/-! ## Faults -/

section Faults

variable {δ : Type} {doubles : Doubles δ} {charType : CharType} {va : List (Argument δ)}

theorem bind_eq_error {ε α β : Type} {value : Except ε α} {next : α → Except ε β} {fault : ε} :
    value >>= next = .error fault ↔
      value = .error fault ∨ ∃ middle, value = .ok middle ∧ next middle = .error fault := by
  cases value with
  | error fault => simp [bind, Except.bind]
  | ok middle => simp [bind, Except.bind]

theorem vaArgInt_ne_format : vaArgInt va ≠ .error .format := by
  unfold vaArgInt
  split <;> simp

theorem vaArgLong_ne_format : vaArgLong va ≠ .error .format := by
  unfold vaArgLong
  split <;> simp

theorem vaArgDouble_ne_format : vaArgDouble va ≠ .error .format := by
  unfold vaArgDouble
  split <;> simp

theorem vaArgString_ne_format : vaArgString va ≠ .error .format := by
  unfold vaArgString
  split <;> simp

theorem vaArgPointer_ne_format : vaArgPointer va ≠ .error .format := by
  unfold vaArgPointer
  split <;> simp

theorem widthOf_ne_format (flags : Flags) (width : Option Amount) :
    widthOf flags va width ≠ .error .format := by
  intro error
  rcases width with - | digits | -
  · cases error
  · cases error
  · rw [widthOf] at error
    rcases fetch : vaArgInt va with fault | fetched
    · rw [fetch] at error
      cases error
      exact vaArgInt_ne_format fetch
    · rw [fetch] at error
      cases error

theorem precisionOf_ne_format (flags : Flags) (precision : Option (Option Amount)) :
    precisionOf flags va precision ≠ .error .format := by
  intro error
  rcases precision with - | - | digits | -
  · cases error
  · cases error
  · cases error
  · rw [precisionOf] at error
    rcases fetch : vaArgInt va with fault | fetched
    · rw [fetch] at error
      cases error
      exact vaArgInt_ne_format fetch
    · rw [fetch] at error
      cases error

theorem Fields.evaluate_ne_format (fields : Fields) : fields.evaluate va ≠ .error .format := by
  intro error
  rcases bind_eq_error.mp error with width | ⟨⟨flags, width, left⟩, -, error⟩
  · exact widthOf_ne_format _ _ width
  rcases bind_eq_error.mp error with precision | ⟨⟨flags, precision, left⟩, -, error⟩
  · exact precisionOf_ne_format _ _ precision
  · cases error

theorem ftoaDigits_ne_format (value : δ) (prec : UInt32) :
    ftoaDigits doubles value prec ≠ .error .format := by
  intro error
  rcases bind_eq_error.mp error with scale | ⟨scale, -, error⟩
  · unfold pow10 at scale
    split_ifs at scale
    cases scale
  · dsimp only at error
    by_cases zero : prec.toNat - (NumberBuffer.empty.fill (ascii '0') (prec.toNat - 9)).len = 0
    · rw [if_pos zero] at error
      cases error
    · rw [if_neg zero] at error
      cases error

theorem doubleEmission_ne_format (value : δ) (prec width : UInt32) (flags : Flags) :
    doubleEmission doubles value prec width flags ≠ .error .format := by
  intro error
  rcases bind_eq_error.mp error with digits | ⟨buf, -, error⟩
  · exact ftoaDigits_ne_format _ _ digits
  · by_cases exceeds : Exceeds doubles value
    · rw [if_pos exceeds] at error
      cases error
    · rw [if_neg exceeds] at error
      cases error

theorem emissionOf_ne_format (directive : Directive δ) :
    emissionOf doubles charType directive ≠ .error .format := by
  intro error
  unfold emissionOf at error
  split_ifs at error
  · rcases bind_eq_error.mp error with integer | ⟨⟨left, text⟩, -, error⟩
    · unfold integerText at integer
      dsimp only at integer
      split at integer
      · rcases bind_eq_error.mp integer with fetch | ⟨fetched, -, integer⟩
        · exact vaArgLong_ne_format fetch
        · split_ifs at integer <;> cases integer
      · rcases bind_eq_error.mp integer with fetch | ⟨fetched, -, integer⟩
        · exact vaArgInt_ne_format fetch
        · split_ifs at integer <;> cases integer
    · cases error
  · rcases bind_eq_error.mp error with fetch | ⟨⟨value, left⟩, -, error⟩
    · exact vaArgDouble_ne_format fetch
    rcases bind_eq_error.mp error with double | ⟨emission, -, error⟩
    · exact doubleEmission_ne_format _ _ _ _ double
    · cases error
  · rcases bind_eq_error.mp error with fetch | ⟨⟨character, left⟩, -, error⟩
    · exact vaArgInt_ne_format fetch
    · cases error
  · rcases bind_eq_error.mp error with fetch | ⟨⟨p, left⟩, -, error⟩
    · exact vaArgString_ne_format fetch
    · cases error
  · rcases bind_eq_error.mp error with fetch | ⟨⟨address, left⟩, -, error⟩
    · exact vaArgPointer_ne_format fetch
    · cases error

/-- Pieces do not read past the format. -/
theorem meaning_ne_format (pieces : List Piece) :
    meaning doubles charType pieces va ≠ .error .format := by
  induction pieces generalizing va with
  | nil =>
      intro error
      cases error
  | cons piece pieces ih =>
      intro error
      rcases bind_eq_error.mp error with first | ⟨⟨left, emission⟩, -, error⟩
      · cases piece with
        | plain character other nonzero => cases first
        | directive fields specifier ends nonzero =>
            rcases bind_eq_error.mp first with evaluates | ⟨⟨flags, width, precision, left⟩, -, first⟩
            · exact fields.evaluate_ne_format evaluates
            · exact emissionOf_ne_format _ first
      rcases bind_eq_error.mp error with later | ⟨⟨emissions, left⟩, -, error⟩
      · exact ih later
      · cases error

/-- What the loop makes of a directive that the NUL of the format cuts off. -/
theorem emissions_cut (fields : Fields) :
    emissions doubles charType (ascii '%' :: fields.text).length (ascii '%' :: fields.text) va =
      fields.evaluate va >>= fun _ => .error .format := by
  have ends : fields.Ends [] := by simp [Fields.Ends]
  have read := @Fields.readDirective_text fields [] δ va ends
  rw [List.append_nil] at read
  rw [List.length_cons, emissions, if_neg (not_not_intro rfl), read]
  cases fields.evaluate va <;> rfl

end Faults

/-! ## Calls -/

section Calls

variable {δ : Type} {doubles : Doubles δ} {charType : CharType}

/-- What a format of pieces emits. -/
theorem emitted_formatText (pieces : List Piece) (va : List (Argument δ)) :
    emitted doubles charType (formatText pieces) va =
      (meaning doubles charType pieces va).map Prod.fst := by
  have emits := emissions_formatText doubles charType pieces [] va
  rw [List.append_nil] at emits
  rw [emitted, cString_of_notMem (zero_notMem_formatText pieces), emits]
  rcases meaning doubles charType pieces va with fault | ⟨meant, left⟩
  · rfl
  · simp only [bind, Except.bind, List.length_nil, emissions, Except.map, List.append_nil]

/-- Every call hands to its output function what the pieces of its format stand for, each with the
arguments that the pieces before it leave. -/
theorem vsnprintf_formatText {σ : Type} (out : OutFct σ) (buffer : σ) (maxlen : UInt64)
    (pieces : List Piece) (va : List (Argument δ)) :
    vsnprintfWith doubles charType out buffer maxlen (formatText pieces) va =
      (meaning doubles charType pieces va).map fun meant =>
        let output := meant.1.foldl (Output.emit out) ⟨buffer, 0⟩
        (wrapInt output.idx.toNat,
          out 0 (if output.idx < maxlen then output.idx else maxlen - 1) output.buffer) := by
  rw [vsnprintfWith_eq, emitted_formatText]
  cases meaning doubles charType pieces va <;> rfl

/-- A call reads on behind the NUL of its format exactly when the format ends in the middle of a
directive, every directive before it has its arguments and so have the fields of the last one. -/
theorem reads_past_format_iff {σ : Type} (out : OutFct σ) (buffer : σ) (maxlen : UInt64)
    (format : Bytes) (va : List (Argument δ)) :
    vsnprintfWith doubles charType out buffer maxlen format va = .error .format ↔
      ∃ (pieces : List Piece) (fields : Fields) (meant : List Emission × List (Argument δ))
        (evaluated : Flags × UInt32 × UInt32 × List (Argument δ)),
        cString format = formatText pieces ++ ascii '%' :: fields.text ∧
          meaning doubles charType pieces va = .ok meant ∧
          fields.evaluate meant.2 = .ok evaluated := by
  have faults : vsnprintfWith doubles charType out buffer maxlen format va = .error .format ↔
      emitted doubles charType format va = .error .format := by
    rw [vsnprintfWith_eq]
    cases emitted doubles charType format va <;> simp [Except.map]
  rw [faults, emitted]
  constructor
  · intro error
    obtain ⟨pieces, format_eq | ⟨fields, format_eq⟩⟩ :=
      exists_pieces (cString format) (notMem_cString format)
    · have emits := emissions_formatText doubles charType pieces [] va
      rw [List.append_nil, ← format_eq, error, eq_comm, bind_eq_error] at emits
      rcases emits with means | ⟨meant, -, emits⟩
      · exact absurd means (meaning_ne_format pieces)
      · cases emits
    · rw [format_eq, emissions_formatText, bind_eq_error] at error
      rcases error with means | ⟨meant, means, error⟩
      · exact absurd means (meaning_ne_format pieces)
      rw [emissions_cut] at error
      rcases evaluates : fields.evaluate meant.2 with fault | evaluated
      · rw [evaluates] at error
        cases error
        exact absurd evaluates fields.evaluate_ne_format
      · exact ⟨pieces, fields, meant, evaluated, format_eq, means, evaluates⟩
  · rintro ⟨pieces, fields, meant, evaluated, format_eq, means, evaluates⟩
    rw [format_eq, emissions_formatText, means]
    simp only [bind, Except.bind]
    rw [emissions_cut, evaluates]
    rfl

end Calls

end Printf
end TaRef
