import TaRef.Printf.Vsnprintf

/-!
# The characters of a call

What a call of the `printf` family hands to its output function does not depend on the output
function.  Each directive stands for some characters, or, for a `double` above the limit of `_ftoa`,
for a restart at the first index.
-/

namespace TaRef
namespace Printf

namespace Output

variable {σ : Type} {out : OutFct σ} {output : Output σ}

@[simp]
theorem puts_nil : output.puts out [] = output := rfl

@[simp]
theorem puts_cons (character : UInt8) (characters : Bytes) :
    output.puts out (character :: characters) =
      (output.put out character).puts out characters := rfl

theorem puts_append (left right : Bytes) :
    output.puts out (left ++ right) = (output.puts out left).puts out right :=
  List.foldl_append

theorem put_eq_puts (character : UInt8) : output.put out character = output.puts out [character] :=
  rfl

theorem puts_idx (characters : Bytes) :
    (output.puts out characters).idx = output.idx + .ofNat characters.length := by
  induction characters generalizing output with
  | nil => simp
  | cons character characters ih =>
      rw [puts_cons, ih, List.length_cons, UInt64.ofNat_add]
      simp only [put, UInt64.ofNat_one]
      ac_rfl

end Output

/-! ## What a directive stands for -/

/-- What a directive stands for. -/
inductive Emission
  | text (characters : Bytes)
  | restart
  deriving DecidableEq, Repr

/-- Hand what a directive stands for to an output function. -/
def Output.emit {σ : Type} (out : OutFct σ) (output : Output σ) : Emission → Output σ
  | .text characters => output.puts out characters
  | .restart => { output with idx := 0 }

/-- A number and the spaces before or behind it. -/
def numberText (buf : NumberBuffer) (width : UInt32) (flags : Flags) : Bytes :=
  let padding := List.replicate (width.toNat - buf.len) (ascii ' ')
  if flags.left then buf.chars ++ padding
  else if flags.zeropad then buf.chars
  else padding ++ buf.chars

/-- The buffer of a number when `_ntoa_format` hands it out. -/
def ntoaBuffer (value : Nat) (negative : Bool) (base : Nat) (prec width : UInt32) (flags : Flags) :
    NumberBuffer :=
  let flags := if value = 0 then { flags with hash := false } else flags
  let buf :=
    if !flags.precision ∨ value ≠ 0 then
      ntoaDigits flags.uppercase base bufferSize value .empty
    else .empty
  let buf := if !flags.left then buf.fill (ascii '0') prec.toNat else buf
  let buf := if !flags.left ∧ flags.zeropad then buf.fill (ascii '0') width.toNat else buf
  let buf := if flags.hash then hashPrefix buf base prec width flags else buf
  signPrefix buf negative (buf.len ≠ 0 ∧ buf.len = width.toNat) flags

/-- The characters of an integer. -/
def ntoaText (value : Nat) (negative : Bool) (base : Nat) (prec width : UInt32) (flags : Flags) :
    Bytes :=
  numberText (ntoaBuffer value negative base prec width flags) width flags

section Numbers

variable {σ : Type} (out : OutFct σ) (output : Output σ)

theorem putNumber_eq (buf : NumberBuffer) (width : UInt32) (flags : Flags) :
    putNumber out output buf width flags = output.puts out (numberText buf width flags) := by
  rw [putNumber, numberText]
  cases left_eq : flags.left with
  | true =>
      have length_le := buf.length_le
      have emitted : ((output.puts out buf.chars).idx - output.idx).toNat = buf.len := by
        rw [Output.puts_idx, UInt64.add_comm, UInt64.add_sub_cancel, UInt64.toNat_ofNat']
        exact Nat.mod_eq_of_lt (by rw [bufferSize] at length_le; omega)
      simp [emitted, Output.puts_append]
  | false =>
      cases zeropad_eq : flags.zeropad <;> simp [Output.puts_append]

theorem ntoa_eq (value : Nat) (negative : Bool) (base : Nat) (prec width : UInt32)
    (flags : Flags) :
    ntoa out output value negative base prec width flags =
      output.puts out (ntoaText value negative base prec width flags) := by
  rw [ntoa, ntoaFormat, putNumber_eq, ntoaText, ntoaBuffer]
  by_cases zero : value = 0
  case pos => simp [zero, numberText]
  case neg => simp [zero]

end Numbers

section Directives

variable {δ : Type} (doubles : Doubles δ) (charType : CharType)

/-- The limit of `_ftoa`. -/
def Exceeds (value : δ) : Prop :=
  doubles.lt (doubles.ofInt 0x7FFFFFFF)
    (if doubles.lt value (doubles.ofInt 0) then doubles.sub (doubles.ofInt 0) value else value)

instance (value : δ) : Decidable (Exceeds doubles value) := by
  unfold Exceeds
  infer_instance

/-- What `_ftoa` makes of a value. -/
def doubleEmission (value : δ) (prec width : UInt32) (flags : Flags) : Except Fault Emission := do
  let negative := doubles.lt value (doubles.ofInt 0)
  let magnitude := if negative then doubles.sub (doubles.ofInt 0) value else value
  let buf ← ftoaDigits doubles magnitude (if flags.precision then prec else 6)
  if Exceeds doubles value then return .restart
  else
    let buf := if !flags.left ∧ flags.zeropad then buf.fill (ascii '0') width.toNat else buf
    return .text (numberText (signPrefix buf negative (buf.len = width.toNat) flags) width flags)

/-- The characters of a directive with specifier `d`, `i`, `u`, `x`, `X`, `o` or `b`. -/
def integerText (directive : Directive δ) : Except Fault (List (Argument δ) × Bytes) := do
  let flags := integerFlags directive.specifier directive.flags
  let text (value : Nat) (negative : Bool) : Bytes :=
    ntoaText value negative (baseOf directive.specifier) directive.precision directive.width flags
  if flags.longLong ∨ flags.long then
    let (argument, va) ← vaArgLong directive.va
    if isSigned directive.specifier then
      let value := Int.bmod argument.toNat (2 ^ 64)
      return (va, text value.natAbs (value < 0))
    else return (va, text argument.toNat false)
  else
    let (argument, va) ← vaArgInt directive.va
    if isSigned directive.specifier then
      let value := signedValue charType flags argument
      return (va, text value.natAbs (value < 0))
    else return (va, text (unsignedValue flags argument) false)

/-- A text in a field of spaces. -/
def fieldText (directive : Directive δ) (shown : Nat) (text : Bytes) : Bytes :=
  spaces directive.width shown (!directive.flags.left) ++ text ++
    spaces directive.width shown directive.flags.left

/-- The characters of a directive with specifier `s`. -/
def stringText (directive : Directive δ) (p : Bytes) : Bytes :=
  let length := p.length % 2 ^ 32
  fieldText directive
    (if directive.flags.precision then min length directive.precision.toNat else length)
    (if directive.flags.precision then p.take directive.precision.toNat else p)

/-- The characters of a directive with specifier `p`. -/
def pointerText (directive : Directive δ) (address : UInt64) : Bytes :=
  ntoaText address.toNat false 16 directive.precision 16
    { directive.flags with zeropad := true, uppercase := true }

/-- What a directive stands for, and the arguments that it leaves. -/
def emissionOf (directive : Directive δ) : Except Fault (List (Argument δ) × Emission) :=
  if directive.specifier ∈ ['d', 'i', 'u', 'x', 'X', 'o', 'b'].map ascii then do
    let (va, text) ← integerText charType directive
    return (va, .text text)
  else if directive.specifier ∈ ['f', 'F'].map ascii then do
    let (value, va) ← vaArgDouble directive.va
    return (va, ← doubleEmission doubles value directive.precision directive.width directive.flags)
  else if directive.specifier = ascii 'c' then do
    let (character, va) ← vaArgInt directive.va
    return (va, .text (fieldText directive 1 [character.toUInt8]))
  else if directive.specifier = ascii 's' then do
    let (p, va) ← vaArgString directive.va
    return (va, .text (stringText directive p))
  else if directive.specifier = ascii 'p' then do
    let (address, va) ← vaArgPointer directive.va
    return (va, .text (pointerText directive address))
  else .ok (directive.va, .text [directive.specifier])

/-- What the directives of a format stand for, and its other characters, in their order. -/
def emissions : Nat → Bytes → List (Argument δ) → Except Fault (List Emission)
  | 0, _, _ => .ok []
  | _ + 1, [], _ => .ok []
  | rounds + 1, character :: format, va =>
      if character ≠ ascii '%' then do
        return .text [character] :: (← emissions rounds format va)
      else do
        let directive ← readDirective format va
        let (va, emission) ← emissionOf doubles charType directive
        return emission :: (← emissions rounds directive.format va)

end Directives

/-! ## Every output function receives the same characters -/

section Agreement

variable {δ σ : Type} (doubles : Doubles δ) (charType : CharType) (out : OutFct σ)

theorem natAbs_bmod_lt (value : Nat) {width : Nat} (width_le : width ≤ 64) :
    (Int.bmod value (2 ^ width)).natAbs < 2 ^ 64 := by
  have positive : 0 < 2 ^ width := Nat.two_pow_pos width
  have modulus_le : 2 ^ width ≤ 2 ^ 64 := Nat.pow_le_pow_right (by decide) width_le
  have lower := Int.le_bmod (x := value) positive
  have upper := Int.bmod_lt (x := value) positive
  omega

theorem natAbs_signedValue_lt (flags : Flags) (argument : UInt32) :
    (signedValue charType flags argument).natAbs < 2 ^ 64 := by
  have argument_lt := argument.toNat_lt
  unfold signedValue
  split_ifs
  · cases charType with
    | signed => exact natAbs_bmod_lt _ (by decide)
    | unsigned => simp only [Int.natAbs_natCast]; omega
  · exact natAbs_bmod_lt _ (by decide)
  · exact natAbs_bmod_lt _ (by decide)

theorem unsignedValue_lt (flags : Flags) (argument : UInt32) :
    unsignedValue flags argument < 2 ^ 64 := by
  have argument_lt := argument.toNat_lt
  unfold unsignedValue
  split_ifs <;> omega

theorem ntoaLong_eq (output : Output σ) (value : UInt64) (negative : Bool) (base : Nat)
    (prec width : UInt32) (flags : Flags) :
    ntoaLong out output value negative base prec width flags =
      output.puts out (ntoaText value.toNat negative base prec width flags) :=
  ntoa_eq out output value.toNat negative base prec width flags

theorem ntoaLongLong_eq (output : Output σ) (value : UInt64) (negative : Bool) (base : Nat)
    (prec width : UInt32) (flags : Flags) :
    ntoaLongLong out output value negative base prec width flags =
      output.puts out (ntoaText value.toNat negative base prec width flags) :=
  ntoa_eq out output value.toNat negative base prec width flags

theorem convertInteger_eq (directive : Directive δ) (output : Output σ) :
    convertInteger charType out directive output =
      (integerText charType directive).map fun result =>
        (result.1, output.puts out result.2) := by
  have long_value (argument : UInt64) :
      (UInt64.ofNat (Int.bmod argument.toNat (2 ^ 64)).natAbs).toNat =
        (Int.bmod argument.toNat (2 ^ 64)).natAbs :=
    UInt64.toNat_ofNat_of_lt' (natAbs_bmod_lt argument.toNat (by decide))
  have signed_value (flags : Flags) (argument : UInt32) :
      (UInt64.ofNat (signedValue charType flags argument).natAbs).toNat =
        (signedValue charType flags argument).natAbs :=
    UInt64.toNat_ofNat_of_lt' (natAbs_signedValue_lt charType flags argument)
  have unsigned_value (flags : Flags) (argument : UInt32) :
      (UInt64.ofNat (unsignedValue flags argument)).toNat = unsignedValue flags argument :=
    UInt64.toNat_ofNat_of_lt' (unsignedValue_lt flags argument)
  rw [convertInteger, integerText]
  cases isSigned directive.specifier <;>
    cases (integerFlags directive.specifier directive.flags).longLong <;>
    cases (integerFlags directive.specifier directive.flags).long <;>
    cases vaArgLong directive.va <;> cases vaArgInt directive.va <;>
    simp only [bind, pure, Except.bind, Except.pure, Except.map, Bool.false_eq_true, if_true,
      if_false, or_true, or_false, ntoaLong_eq, ntoaLongLong_eq, long_value, signed_value, unsigned_value]

theorem ftoa_eq (output : Output σ) (value : δ) (prec width : UInt32) (flags : Flags) :
    ftoa doubles out output value prec width flags =
      (doubleEmission doubles value prec width flags).map (output.emit out) := by
  rw [ftoa, doubleEmission]
  cases ftoaDigits doubles
      (if doubles.lt value (doubles.ofInt 0) then doubles.sub (doubles.ofInt 0) value else value)
      (if flags.precision then prec else 6) with
  | error fault => rfl
  | ok buf =>
      by_cases exceeds : Exceeds doubles value
      · have exceeds' := exceeds
        rw [Exceeds] at exceeds'
        simp only [bind, pure, Except.bind, Except.pure, Except.map, exceeds, exceeds', if_true,
          Output.emit]
      · have exceeds' := exceeds
        rw [Exceeds] at exceeds'
        simp only [bind, pure, Except.bind, Except.pure, Except.map, exceeds, exceeds', if_false,
          Bool.false_eq_true, Output.emit, putNumber_eq]

theorem convertChar_eq (directive : Directive δ) (output : Output σ) :
    convertChar out directive output =
      (vaArgInt directive.va).map fun fetched =>
        (fetched.2, output.puts out (fieldText directive 1 [fetched.1.toUInt8])) := by
  rw [convertChar]
  cases vaArgInt directive.va with
  | error fault => rfl
  | ok fetched =>
      simp only [bind, Except.bind, pure, Except.pure, Except.map, fieldText, Output.put_eq_puts,
        Output.puts_append]

theorem convertString_eq (directive : Directive δ) (output : Output σ) :
    convertString out directive output =
      (vaArgString directive.va).map fun fetched =>
        (fetched.2, output.puts out (stringText directive fetched.1)) := by
  rw [convertString]
  cases vaArgString directive.va with
  | error fault => rfl
  | ok fetched =>
      simp only [bind, Except.bind, pure, Except.pure, Except.map, stringText, fieldText,
        Output.puts_append]

theorem convertPointer_eq (directive : Directive δ) (output : Output σ) :
    convertPointer out directive output =
      (vaArgPointer directive.va).map fun fetched =>
        (fetched.2, output.puts out (pointerText directive fetched.1)) := by
  rw [convertPointer]
  cases vaArgPointer directive.va with
  | error fault => rfl
  | ok fetched =>
      simp only [bind, Except.bind, pure, Except.pure, Except.map, ntoaLongLong_eq, pointerText]

/-- The output that a directive leaves. -/
theorem convert_eq (directive : Directive δ) (output : Output σ) :
    convert doubles charType out directive output =
      (emissionOf doubles charType directive).map fun result =>
        (result.1, output.emit out result.2) := by
  rw [convert, emissionOf, convertInteger_eq, convertChar_eq, convertString_eq, convertPointer_eq]
  split_ifs with integer double character string pointer percent
  · cases integerText charType directive <;> rfl
  · cases vaArgDouble directive.va with
    | error fault => rfl
    | ok fetched =>
        simp only [bind, Except.bind, pure, Except.pure, ftoa_eq]
        cases doubleEmission doubles fetched.1 directive.precision directive.width
          directive.flags <;> rfl
  · cases vaArgInt directive.va <;> rfl
  · cases vaArgString directive.va <;> rfl
  · cases vaArgPointer directive.va <;> rfl
  · rw [percent]
    rfl
  · rfl

/-- The output that the loop leaves. -/
theorem vsnprintfLoop_eq (rounds : Nat) (format : Bytes) (va : List (Argument δ))
    (output : Output σ) :
    vsnprintfLoop doubles charType out rounds format va output =
      (emissions doubles charType rounds format va).map fun emitted =>
        emitted.foldl (Output.emit out) output := by
  induction rounds generalizing format va output with
  | zero => rfl
  | succ rounds ih =>
      cases format with
      | nil => rfl
      | cons character format =>
          rw [vsnprintfLoop, emissions]
          split
          · rw [ih]
            cases emissions doubles charType rounds format va <;> rfl
          · cases readDirective format va with
            | error fault => rfl
            | ok directive =>
                simp only [bind, Except.bind, convert_eq]
                cases emissionOf doubles charType directive with
                | error fault => rfl
                | ok result =>
                    simp only [Except.map, ih]
                    cases emissions doubles charType rounds directive.format result.1 <;> rfl

end Agreement

/-- What a call stands for, one entry for each directive and each other character. -/
def emitted {δ : Type} (doubles : Doubles δ) (charType : CharType) (format : Bytes)
    (va : List (Argument δ)) : Except Fault (List Emission) :=
  emissions doubles charType (cString format).length (cString format) va

/-- Every output function receives what the call stands for. -/
theorem vsnprintfWith_eq {δ σ : Type} (doubles : Doubles δ) (charType : CharType) (out : OutFct σ)
    (buffer : σ) (maxlen : UInt64) (format : Bytes) (va : List (Argument δ)) :
    vsnprintfWith doubles charType out buffer maxlen format va =
      (emitted doubles charType format va).map fun emitted =>
        let output := emitted.foldl (Output.emit out) ⟨buffer, 0⟩
        (wrapInt output.idx.toNat,
          out 0 (if output.idx < maxlen then output.idx else maxlen - 1) output.buffer) := by
  rw [vsnprintfWith, formatTo, vsnprintfLoop_eq, emitted]
  cases emissions doubles charType (cString format).length (cString format) va <;> rfl

end Printf
end TaRef
